import Mathlib.Data.Finset.Card
import Mathlib.Data.String.Basic
import WealthFinder.Pipeline.PersistRules

/-!
# The fields that the upsert derives

`source_list` keeps a latest report of each source, `event_type_secondary` the two
most frequent secondary types.  Both depend on the constituents as a set of rows,
except for ties between reports of one source.
-/

set_option autoImplicit false

namespace WealthFinder.Pipeline

/-! ## What the fields should hold -/

/-- How many constituents have this secondary type. -/
def frequency (members : List EntityEvent) (eventType : EventTypeEnum) : Nat :=
  members.countP fun row => row.eventTypeSecondary == some eventType

/-- The second type is not reported later than the first. -/
def NotLater (members : List EntityEvent) (first second : EventTypeEnum) : Prop :=
  ∀ row ∈ members, row.eventTypeSecondary = some second → ∃ other ∈ members,
    other.eventTypeSecondary = some first ∧ row.getPublishedAt ≤ other.getPublishedAt

/-- More frequent, or as frequent and reported as late. -/
def AsFrequent (members : List EntityEvent) (first second : EventTypeEnum) : Prop :=
  frequency members second < frequency members first ∨
    (frequency members second = frequency members first ∧ NotLater members first second)

structure SourcesOf (members : List EntityEvent) (sources : List EntitySource) : Prop where
  nonempty : sources ≠ []
  distinct : (sources.map EntitySource.sourceName).Nodup
  names : ∀ name, name ∈ sources.map EntitySource.sourceName ↔
    ∃ row ∈ members, row.sourceName = name
  latest : ∀ source ∈ sources, ∃ row ∈ members,
    source = ⟨row.sourceName, row.sourceUrl, row.getPublishedAt⟩ ∧
    ∀ other ∈ members, other.sourceName = row.sourceName →
      other.getPublishedAt ≤ row.getPublishedAt
  count : sources.length = (members.map EntityEvent.sourceName).toFinset.card

structure SecondaryOf (members : List EntityEvent) (types : List EventTypeEnum) : Prop where
  atMostTwo : types.length ≤ 2
  distinct : types.Nodup
  reported : ∀ eventType ∈ types, ∃ row ∈ members, row.eventTypeSecondary = some eventType
  filled : types.length < 2 → ∀ row ∈ members, ∀ eventType,
    row.eventTypeSecondary = some eventType → eventType ∈ types
  ordered : types.Pairwise (AsFrequent members)
  best : ∀ eventType ∈ types, ∀ row ∈ members, ∀ other,
    row.eventTypeSecondary = some other → other ∉ types → AsFrequent members eventType other

/-! ## One row for each key -/

section
variable {Row Key : Type} [DecidableEq Key] {key : Row → Key}

theorem mem_of_mem_distinctOn {rows : List Row} {row : Row}
    (member : row ∈ distinctOn key rows) : row ∈ rows := by
  induction rows with
  | nil => cases member
  | cons first rest ih =>
      rcases List.mem_cons.mp member with rfl | kept
      · exact List.mem_cons_self
      · exact List.mem_cons_of_mem _ (ih (List.mem_filter.mp kept).1)

theorem distinctOn_nodup (rows : List Row) : ((distinctOn key rows).map key).Nodup := by
  induction rows with
  | nil => exact List.nodup_nil
  | cons first rest ih =>
      rw [distinctOn, List.map_cons, List.nodup_cons]
      refine ⟨?_, ih.sublist (List.filter_sublist.map _)⟩
      intro again
      obtain ⟨other, kept, same⟩ := List.mem_map.mp again
      exact of_decide_eq_true (List.mem_filter.mp kept).2 same

theorem exists_distinctOn {rows : List Row} {row : Row} (member : row ∈ rows) :
    ∃ kept ∈ distinctOn key rows, key kept = key row := by
  induction rows with
  | nil => cases member
  | cons first rest ih =>
      rcases List.mem_cons.mp member with rfl | later
      · exact ⟨row, List.mem_cons_self, rfl⟩
      · obtain ⟨kept, inRest, same⟩ := ih later
        by_cases asFirst : key kept = key first
        · exact ⟨first, List.mem_cons_self, asFirst.symm.trans same⟩
        · exact ⟨kept, List.mem_cons_of_mem _ (List.mem_filter.mpr ⟨inRest, by simpa⟩), same⟩

theorem distinctOn_first {before : Row → Row → Prop} {rows : List Row}
    (sorted : rows.Pairwise before) {kept other : Row} (member : kept ∈ distinctOn key rows)
    (inRows : other ∈ rows) (same : key other = key kept) :
    other = kept ∨ before kept other := by
  induction rows with
  | nil => cases member
  | cons first rest ih =>
      obtain ⟨ahead, sorted⟩ := List.pairwise_cons.mp sorted
      rcases List.mem_cons.mp member with rfl | inRest
      · rcases List.mem_cons.mp inRows with rfl | later
        · exact Or.inl rfl
        · exact Or.inr (ahead other later)
      · obtain ⟨inRest, apart⟩ := List.mem_filter.mp inRest
        rcases List.mem_cons.mp inRows with rfl | later
        · exact absurd same.symm (of_decide_eq_true apart)
        · exact ih sorted inRest later

end

/-! ## `source_list` -/

theorem sourceBefore_iff {first second : EntityEvent} :
    sourceBefore first second = true ↔ first.sourceName < second.sourceName ∨
      (first.sourceName = second.sourceName ∧
        second.getPublishedAt ≤ first.getPublishedAt) := by
  simp only [sourceBefore, Bool.or_eq_true, Bool.and_eq_true, decide_eq_true_eq]

theorem sorted_sources (rows : List EntityEvent) :
    (rows.insertionSort fun first second => sourceBefore first second = true).Pairwise
      fun first second => sourceBefore first second = true := by
  have total : Std.Total fun first second => sourceBefore first second = true := by
    constructor
    intro first second
    rw [sourceBefore_iff, sourceBefore_iff]
    rcases lt_trichotomy first.sourceName second.sourceName with less | same | greater
    · exact Or.inl (Or.inl less)
    · rcases le_total first.getPublishedAt second.getPublishedAt with early | late
      · exact Or.inr (Or.inr ⟨same.symm, early⟩)
      · exact Or.inl (Or.inr ⟨same, late⟩)
    · exact Or.inr (Or.inl greater)
  have transitive : IsTrans EntityEvent fun first second =>
      sourceBefore first second = true := by
    constructor
    intro first second third
    rw [sourceBefore_iff, sourceBefore_iff, sourceBefore_iff]
    rintro (less | ⟨same, late⟩) (less' | ⟨same', late'⟩)
    · exact Or.inl (less.trans less')
    · exact Or.inl (same' ▸ less)
    · exact Or.inl (same ▸ less')
    · exact Or.inr ⟨same.trans same', late'.trans late⟩
  exact List.pairwise_insertionSort _ rows

theorem selectSources_ok {rows : List EntityEvent} (nonempty : rows ≠ []) :
    ∃ sources, selectSources rows = some sources ∧ SourcesOf rows sources := by
  have sorted := sorted_sources rows
  have members {row : EntityEvent} : row ∈ (rows.insertionSort fun first second =>
      sourceBefore first second = true) ↔ row ∈ rows := List.mem_insertionSort _
  unfold selectSources
  generalize (rows.insertionSort fun first second => sourceBefore first second = true) =
    ordered at sorted members
  have kept {row : EntityEvent} (member : row ∈ distinctOn EntityEvent.sourceName ordered) :
      row ∈ rows := members.mp (mem_of_mem_distinctOn member)
  have covered {row : EntityEvent} (member : row ∈ rows) :=
    @exists_distinctOn _ _ _ EntityEvent.sourceName ordered row (members.mpr member)
  have distinct := @distinctOn_nodup _ _ _ EntityEvent.sourceName ordered
  have names (name : String) :
      name ∈ (distinctOn EntityEvent.sourceName ordered).map EntityEvent.sourceName ↔
        ∃ row ∈ rows, row.sourceName = name := by
    rw [List.mem_map]
    constructor
    · intro ⟨row, member, same⟩
      exact ⟨row, kept member, same⟩
    · intro ⟨row, member, same⟩
      obtain ⟨first, isFirst, sameName⟩ := covered member
      exact ⟨first, isFirst, sameName.trans same⟩
  have latest {row other : EntityEvent}
      (member : row ∈ distinctOn EntityEvent.sourceName ordered) (inRows : other ∈ rows)
      (same : other.sourceName = row.sourceName) :
      other.getPublishedAt ≤ row.getPublishedAt := by
    rcases distinctOn_first sorted member (members.mpr inRows) same with rfl | before
    · exact le_refl _
    · rcases sourceBefore_iff.mp before with less | ⟨-, late⟩
      · exact absurd same less.ne'
      · exact late
  generalize distinctOn EntityEvent.sourceName ordered = chosen at kept covered distinct names latest
  have some' : chosen ≠ [] := by
    obtain ⟨row, member⟩ := List.exists_mem_of_ne_nil rows nonempty
    obtain ⟨first, isFirst, -⟩ := covered member
    exact List.ne_nil_of_mem isFirst
  have mapped : (chosen.map fun row =>
      (⟨row.sourceName, row.sourceUrl, row.getPublishedAt⟩ : EntitySource)).map
        EntitySource.sourceName = chosen.map EntityEvent.sourceName := by
    rw [List.map_map]
    rfl
  refine ⟨chosen.map fun row => ⟨row.sourceName, row.sourceUrl, row.getPublishedAt⟩, ?_, ?_⟩
  · cases chosen with
    | nil => exact absurd rfl some'
    | cons first rest => rfl
  refine ⟨by simpa using some', mapped ▸ distinct, ?_, ?_, ?_⟩
  · intro name
    rw [mapped]
    exact names name
  · intro source member
    obtain ⟨row, isChosen, rfl⟩ := List.mem_map.mp member
    exact ⟨row, kept isChosen, rfl, fun other inRows same => latest isChosen inRows same⟩
  · have length : (chosen.map EntityEvent.sourceName).length = chosen.length := List.length_map _
    rw [List.length_map, ← length, ← List.toFinset_card_of_nodup distinct]
    congr 1
    ext name
    rw [List.mem_toFinset, List.mem_toFinset, names, List.mem_map]

/-! ## `event_type_secondary` -/

/-- What the group of one secondary type is made of. -/
structure Counts (rows : List EntityEvent) (count : SecondaryCount) : Prop where
  frequency : count.frequency = frequency rows count.eventType
  attained : ∃ row ∈ rows, row.eventTypeSecondary = some count.eventType ∧
    row.getPublishedAt = count.latest
  latest : ∀ row ∈ rows, row.eventTypeSecondary = some count.eventType →
    row.getPublishedAt ≤ count.latest

theorem countSecondary_counts {rows : List EntityEvent} {eventType : EventTypeEnum}
    {count : SecondaryCount} (is : countSecondary rows eventType = some count) :
    count.eventType = eventType ∧ Counts rows count := by
  obtain ⟨latest, highest, rfl⟩ := Option.map_eq_some_iff.mp is
  obtain ⟨attained, above⟩ := List.max?_eq_some_iff.mp highest
  obtain ⟨row, member, same⟩ := List.mem_map.mp attained
  obtain ⟨inRows, ofType⟩ := List.mem_filter.mp member
  refine ⟨rfl, ?_, ⟨row, inRows, by simpa using ofType, same⟩, ?_⟩
  · simp only [Pipeline.frequency, List.countP_eq_length_filter]
  · intro other inRows ofType
    exact above _ (List.mem_map.mpr
      ⟨other, List.mem_filter.mpr ⟨inRows, by simpa using ofType⟩, rfl⟩)

theorem exists_countSecondary {rows : List EntityEvent} {row : EntityEvent}
    {eventType : EventTypeEnum} (member : row ∈ rows)
    (ofType : row.eventTypeSecondary = some eventType) :
    ∃ count, countSecondary rows eventType = some count := by
  refine Option.isSome_iff_exists.mp ?_
  rw [countSecondary, Option.isSome_map, Option.isSome_iff_ne_none, Ne, List.max?_eq_none_iff,
    List.map_eq_nil_iff]
  exact List.ne_nil_of_mem (List.mem_filter.mpr ⟨member, by simpa using ofType⟩)

theorem mem_counts {rows : List EntityEvent} {count : SecondaryCount} :
    count ∈ EventTypeEnum.all.filterMap (countSecondary rows) ↔
      countSecondary rows count.eventType = some count := by
  rw [List.mem_filterMap]
  constructor
  · intro ⟨eventType, _, is⟩
    rw [(countSecondary_counts is).1]
    exact is
  · intro is
    exact ⟨count.eventType, EventTypeEnum.mem_all _, is⟩

theorem counts_sublist (rows : List EntityEvent) (types : List EventTypeEnum) :
    ((types.filterMap (countSecondary rows)).map SecondaryCount.eventType).Sublist types := by
  induction types with
  | nil => exact List.nil_sublist _
  | cons eventType rest ih =>
      cases is : countSecondary rows eventType with
      | none =>
          rw [List.filterMap_cons_none is]
          exact ih.cons _
      | some count =>
          rw [List.filterMap_cons_some is, List.map_cons, (countSecondary_counts is).1]
          exact ih.cons_cons _

theorem SecondaryCount.before_iff {first second : SecondaryCount} :
    first.before second = true ↔ second.frequency < first.frequency ∨
      (second.frequency = first.frequency ∧ (second.latest < first.latest ∨
        (second.latest = first.latest ∧ first.eventType.rank ≤ second.eventType.rank))) := by
  simp only [before, Bool.or_eq_true, Bool.and_eq_true, decide_eq_true_eq]

theorem sorted_counts (counts : List SecondaryCount) :
    (counts.insertionSort fun first second => first.before second = true).Pairwise
      fun first second => first.before second = true := by
  have total : Std.Total fun first second : SecondaryCount =>
      first.before second = true := by
    constructor
    intro first second
    rw [SecondaryCount.before_iff, SecondaryCount.before_iff]
    rcases lt_trichotomy first.frequency second.frequency with rarer | same | more
    · exact Or.inr (Or.inl rarer)
    · rcases lt_trichotomy first.latest second.latest with earlier | same' | later
      · exact Or.inr (Or.inr ⟨same, Or.inl earlier⟩)
      · rcases le_total first.eventType.rank second.eventType.rank with ahead | behind
        · exact Or.inl (Or.inr ⟨same.symm, Or.inr ⟨same'.symm, ahead⟩⟩)
        · exact Or.inr (Or.inr ⟨same, Or.inr ⟨same', behind⟩⟩)
      · exact Or.inl (Or.inr ⟨same.symm, Or.inl later⟩)
    · exact Or.inl (Or.inl more)
  have transitive : IsTrans SecondaryCount fun first second =>
      first.before second = true := by
    constructor
    intro first second third
    rw [SecondaryCount.before_iff, SecondaryCount.before_iff, SecondaryCount.before_iff]
    rintro (more | ⟨same, late⟩) (more' | ⟨same', late'⟩)
    · exact Or.inl (more'.trans more)
    · exact Or.inl (same' ▸ more)
    · exact Or.inl (same ▸ more')
    refine Or.inr ⟨same'.trans same, ?_⟩
    rcases late with later | ⟨asLate, ahead⟩
    · rcases late' with later' | ⟨asLate', -⟩
      · exact Or.inl (later'.trans later)
      · exact Or.inl (asLate' ▸ later)
    · rcases late' with later' | ⟨asLate', ahead'⟩
      · exact Or.inl (asLate ▸ later')
      · exact Or.inr ⟨asLate'.trans asLate, ahead.trans ahead'⟩
  exact List.pairwise_insertionSort _ counts

theorem asFrequent_of_before {rows : List EntityEvent} {first second : SecondaryCount}
    (firstCounts : Counts rows first) (secondCounts : Counts rows second)
    (before : first.before second = true) :
    AsFrequent rows first.eventType second.eventType := by
  obtain ⟨latest, inRows, ofType, isLatest⟩ := firstCounts.attained
  have notLater (late : second.latest ≤ first.latest) :
      NotLater rows first.eventType second.eventType := fun row member ofSecond =>
    ⟨latest, inRows, ofType, by
      rw [isLatest]
      exact (secondCounts.latest row member ofSecond).trans late⟩
  rw [AsFrequent, ← firstCounts.frequency, ← secondCounts.frequency]
  rcases SecondaryCount.before_iff.mp before with more | ⟨same, later | ⟨same', -⟩⟩
  · exact Or.inl more
  · exact Or.inr ⟨same, notLater later.le⟩
  · exact Or.inr ⟨same, notLater same'.le⟩

theorem selectSecondary_secondaryOf (rows : List EntityEvent) :
    SecondaryOf rows (selectSecondary rows) := by
  have sorted := sorted_counts (EventTypeEnum.all.filterMap (countSecondary rows))
  have perm := List.perm_insertionSort (fun first second : SecondaryCount =>
    first.before second = true) (EventTypeEnum.all.filterMap (countSecondary rows))
  unfold selectSecondary
  generalize ((EventTypeEnum.all.filterMap (countSecondary rows)).insertionSort
    fun first second => first.before second = true) = ordered at sorted perm
  have counted {count : SecondaryCount} (member : count ∈ ordered) : Counts rows count :=
    (countSecondary_counts (mem_counts.mp (perm.mem_iff.mp member))).2
  have distinct : (ordered.map SecondaryCount.eventType).Nodup :=
    (perm.map _).nodup_iff.mpr ((counts_sublist rows _).nodup (by decide))
  have reported {row : EntityEvent} {eventType : EventTypeEnum} (member : row ∈ rows)
      (ofType : row.eventTypeSecondary = some eventType) :
      ∃ count ∈ ordered, count.eventType = eventType := by
    obtain ⟨count, is⟩ := exists_countSecondary member ofType
    have same := (countSecondary_counts is).1
    exact ⟨count, perm.mem_iff.mpr (mem_counts.mpr (same ▸ is)), same⟩
  have chosen {count : SecondaryCount} (member : count ∈ ordered.take 2) : count ∈ ordered :=
    List.mem_of_mem_take member
  have split := List.take_append_drop 2 ordered
  refine ⟨?_, ?_, ?_, ?_, ?_, ?_⟩
  · rw [List.length_map]
    exact List.length_take_le 2 ordered
  · exact distinct.sublist ((List.take_sublist 2 ordered).map _)
  · intro eventType member
    obtain ⟨count, inTake, rfl⟩ := List.mem_map.mp member
    obtain ⟨row, inRows, ofType, -⟩ := (counted (chosen inTake)).attained
    exact ⟨row, inRows, ofType⟩
  · intro short row member eventType ofType
    obtain ⟨count, inOrdered, rfl⟩ := reported member ofType
    rw [List.length_map, List.length_take] at short
    rw [List.take_of_length_le (by omega)]
    exact List.mem_map.mpr ⟨count, inOrdered, rfl⟩
  · rw [List.pairwise_map]
    refine (sorted.sublist (List.take_sublist 2 ordered)).imp_of_mem ?_
    intro first second inFirst inSecond before
    exact asFrequent_of_before (counted (chosen inFirst)) (counted (chosen inSecond)) before
  · intro eventType member row inRows other ofType apart
    obtain ⟨count, inTake, rfl⟩ := List.mem_map.mp member
    obtain ⟨second, inOrdered, rfl⟩ := reported inRows ofType
    have inDrop : second ∈ ordered.drop 2 := by
      rw [← split] at inOrdered
      refine (List.mem_append.mp inOrdered).resolve_left fun inTake => ?_
      exact apart (List.mem_map.mpr ⟨second, inTake, rfl⟩)
    rw [← split] at sorted
    have before := (List.pairwise_append.mp sorted).2.2 count inTake second inDrop
    exact asFrequent_of_before (counted (chosen inTake)) (counted inOrdered) before

end WealthFinder.Pipeline
