import WealthFinder.Pipeline.StockNames

/-!
# A name lookup finds the unique best match

Which codes decide a lookup depends on the set of the list's names only, so
neither the order of the list nor a name's repeated variants matter.
-/

set_option autoImplicit false

namespace WealthFinder.Pipeline

/-! ## The codes that decide -/

/-- Some name of the code has a variant of the query. -/
def ExactMatch (folding : Folding) (list : StockList) (name : Text) (code : String) : Prop :=
  ∃ raw, (code, raw) ∈ list.named ∧
    ∃ variant ∈ nameVariants folding raw, variant ∈ nameVariants folding name

/-- Some pair of variants of the scoring pool has this score. -/
def Matches (folding : Folding) (list : StockList) (name : Text) (code : String)
    (top : Score) : Prop :=
  ∃ entry ∈ scoringPool (buildNameIndex folding list) (nameVariants folding name),
    entry.stockCode = code ∧ ∃ q ∈ nameVariants folding name, ∃ n ∈ entry.variants,
      score q n = .ok (some top)

def BestMatch (folding : Folding) (list : StockList) (name : Text) (code : String) : Prop :=
  ∃ top, Matches folding list name code top ∧
    ∀ other lower, Matches folding list name other lower → lower ≤ top

/-- An exact match decides on its own. -/
def Decides (folding : Folding) (list : StockList) (name : Text) (code : String) : Prop :=
  ((∃ exact, ExactMatch folding list name exact) ∧ ExactMatch folding list name code) ∨
    ((¬ ∃ exact, ExactMatch folding list name exact) ∧ BestMatch folding list name code)

/-! ## The exact tier -/

theorem mem_exactCodes {folding : Folding} {list : StockList} {name : Text} {code : String} :
    code ∈ exactCodes (buildNameIndex folding list) (nameVariants folding name) ↔
      ExactMatch folding list name code := by
  have indexed := indexed_buildNameIndex folding list
  simp only [exactCodes, List.mem_dedup, List.mem_map, List.mem_filter, List.any_eq_true,
    decide_eq_true_eq]
  constructor
  · rintro ⟨entry, ⟨inNames, variant, ofEntry, ofQuery⟩, rfl⟩
    obtain ⟨raw, isNamed, is, -⟩ := indexed.sound entry inNames
    exact ⟨raw, isNamed, variant, is ▸ ofEntry, ofQuery⟩
  · rintro ⟨raw, isNamed, variant, ofName, ofQuery⟩
    obtain ⟨entry, inNames, sameCode, is⟩ :=
      indexed.complete code raw isNamed (List.ne_nil_of_mem ofName)
    exact ⟨entry, ⟨inNames, variant, is ▸ ofName, ofQuery⟩, sameCode⟩

theorem exactCodes_nodup (index : StockNameIndex) (variants : List Text) :
    (exactCodes index variants).Nodup :=
  List.nodup_dedup _

/-! ## The scoring pool -/

/-- Whether the pool of a query holds the names with these variants. -/
def InPool (variants names : List Text) : Prop :=
  if variants.head?.any isAscii then
    names.head?.any isAscii = true ∧
      ∃ start ∈ latinPrefixes variants, start ∈ latinPrefixes names
  else variants ≠ [] ∧ names.head?.any isAscii = false

theorem mem_latinPrefixes {variants : List Text} {start : Text} :
    start ∈ latinPrefixes variants ↔ ∃ variant ∈ variants, ∃ word ∈ split variant,
      latinPrefixLen ≤ word.length ∧ word.take latinPrefixLen = start := by
  simp only [latinPrefixes, List.mem_eraseDups, List.mem_flatMap, List.mem_map,
    List.mem_filter, decide_eq_true_eq, and_assoc]

theorem mem_scoringPool {folding : Folding} {named : List (String × Text)}
    {index : StockNameIndex} (indexed : Indexed folding named index) (variants : List Text)
    (entry : NameEntry) :
    entry ∈ scoringPool index variants ↔
      entry ∈ index.names ∧ InPool variants entry.variants := by
  cases variants with
  | nil => simp [scoringPool, InPool]
  | cons first rest =>
      cases ascii : isAscii first with
      | true =>
        simp only [scoringPool, InPool, List.head?_cons, Option.any_some, ascii, if_true,
          List.mem_eraseDups, List.mem_flatMap, List.mem_filter, decide_eq_true_eq,
          indexed.byLatinPrefix]
        constructor
        · rintro ⟨variant, ofQuery, word, ⟨inVariant, long⟩, inNames, isLatin, starts⟩
          exact ⟨inNames, indexed.latin entry inNames ▸ isLatin, _,
            mem_latinPrefixes.mpr ⟨variant, ofQuery, word, inVariant, long, rfl⟩, starts⟩
        · rintro ⟨inNames, isLatin, start, ofQuery, starts⟩
          obtain ⟨variant, member, word, inVariant, long, rfl⟩ := mem_latinPrefixes.mp ofQuery
          exact ⟨variant, member, word, ⟨inVariant, long⟩, inNames,
            (indexed.latin entry inNames).trans isLatin, starts⟩
      | false =>
        simp only [scoringPool, InPool, List.head?_cons, Option.any_some, ascii,
          Bool.false_eq_true, if_false, List.mem_filter, Bool.not_eq_eq_eq_not, Bool.not_true,
          ne_eq, reduceCtorEq, not_false_eq_true, true_and]
        constructor
        · rintro ⟨inNames, cjk⟩
          exact ⟨inNames, indexed.latin entry inNames ▸ cjk⟩
        · rintro ⟨inNames, cjk⟩
          exact ⟨inNames, (indexed.latin entry inNames).trans cjk⟩

/-- The pool's matches in terms of the names alone. -/
theorem matches_iff {folding : Folding} {list : StockList} {name : Text} {code : String}
    {top : Score} :
    Matches folding list name code top ↔ ∃ raw, (code, raw) ∈ list.named ∧
      InPool (nameVariants folding name) (nameVariants folding raw) ∧
      ∃ q ∈ nameVariants folding name, ∃ n ∈ nameVariants folding raw,
        score q n = .ok (some top) := by
  have indexed := indexed_buildNameIndex folding list
  constructor
  · rintro ⟨entry, pooled, rfl, q, ofQuery, n, ofEntry, scored⟩
    obtain ⟨inNames, pool⟩ := (mem_scoringPool indexed _ entry).mp pooled
    obtain ⟨raw, isNamed, is, -⟩ := indexed.sound entry inNames
    exact ⟨raw, isNamed, is ▸ pool, q, ofQuery, n, is ▸ ofEntry, scored⟩
  · rintro ⟨raw, isNamed, pool, q, ofQuery, n, ofName, scored⟩
    obtain ⟨entry, inNames, sameCode, is⟩ :=
      indexed.complete code raw isNamed (List.ne_nil_of_mem ofName)
    exact ⟨entry, (mem_scoringPool indexed _ entry).mpr ⟨inNames, is ▸ pool⟩, sameCode, q,
      ofQuery, n, is ▸ ofName, scored⟩

/-! ## Scoring the pool -/

/-- A comprehension whose calls all return. -/
theorem mapM_ok {α β : Type} {call : α → Except LookupError β} (items : List α)
    (returns : ∀ item ∈ items, ∃ result, call item = .ok result) :
    ∃ results, items.mapM call = .ok results ∧
      ∀ result, result ∈ results ↔ ∃ item ∈ items, call item = .ok result := by
  induction items with
  | nil => exact ⟨[], rfl, by simp⟩
  | cons item rest ih =>
      obtain ⟨first, is⟩ := returns item List.mem_cons_self
      obtain ⟨results, are, members⟩ :=
        ih fun other member => returns other (List.mem_cons_of_mem _ member)
      refine ⟨first :: results, ?_, ?_⟩
      · rw [List.mapM_cons, is, are]
        rfl
      · intro result
        simp only [List.mem_cons, members, exists_eq_or_imp, is, Except.ok.injEq]
        rw [eq_comm]

theorem matchScores_ok {variants : List Text} {entry : NameEntry}
    (query : ∀ q ∈ variants, split q ≠ []) (name : ∀ n ∈ entry.variants, split n ≠ []) :
    ∃ scores, matchScores variants entry = .ok scores ∧ ∀ top, top ∈ scores ↔
      ∃ q ∈ variants, ∃ n ∈ entry.variants, score q n = .ok (some top) := by
  have returns (pair : Text × Text)
      (member : pair ∈ variants.flatMap fun q => entry.variants.map fun n => (q, n)) :
      ∃ result, score pair.1 pair.2 = .ok result := by
    obtain ⟨q, ofQuery, member⟩ := List.mem_flatMap.mp member
    obtain ⟨n, ofName, rfl⟩ := List.mem_map.mp member
    exact score_ok (query q ofQuery) (name n ofName)
  obtain ⟨results, are, members⟩ := mapM_ok _ returns
  refine ⟨results.filterMap id, by rw [matchScores, are]; rfl, ?_⟩
  intro top
  simp only [List.mem_filterMap, id_eq, exists_eq_right, members, List.mem_flatMap,
    List.mem_map]
  constructor
  · rintro ⟨_, ⟨q, ofQuery, n, ofName, rfl⟩, scored⟩
    exact ⟨q, ofQuery, n, ofName, scored⟩
  · rintro ⟨q, ofQuery, n, ofName, scored⟩
    exact ⟨(q, n), ⟨q, ofQuery, n, ofName, rfl⟩, scored⟩

/-- The entry's best score against the query. -/
def TopScore (variants : List Text) (entry : NameEntry) (top : Score) : Prop :=
  IsGreatest {lower | ∃ q ∈ variants, ∃ n ∈ entry.variants, score q n = .ok (some lower)} top

theorem max?_iff_topScore {variants : List Text} {entry : NameEntry} {scores : List Score}
    (members : ∀ top, top ∈ scores ↔
      ∃ q ∈ variants, ∃ n ∈ entry.variants, score q n = .ok (some top)) (top : Score) :
    scores.max? = some top ↔ TopScore variants entry top := by
  rw [List.max?_eq_some_iff]
  simp only [TopScore, IsGreatest, upperBounds, Set.mem_ofPred_eq, members]

/-- An entry that matches has a best score. -/
theorem exists_topScore {variants : List Text} {entry : NameEntry}
    (query : ∀ q ∈ variants, split q ≠ []) (name : ∀ n ∈ entry.variants, split n ≠ [])
    {lower : Score}
    (found : ∃ q ∈ variants, ∃ n ∈ entry.variants, score q n = .ok (some lower)) :
    ∃ top, TopScore variants entry top ∧ lower ≤ top := by
  obtain ⟨scores, -, members⟩ := matchScores_ok query name
  have member : lower ∈ scores := (members lower).mpr found
  cases highest : scores.max? with
  | none =>
      rw [List.max?_eq_none_iff] at highest
      rw [highest] at member
      exact absurd member List.not_mem_nil
  | some top =>
      exact ⟨top, (max?_iff_topScore members top).mp highest,
        (List.max?_eq_some_iff.mp highest).2 lower member⟩

/-- The loop offers each entry's best score. -/
theorem scoring_loop {variants : List Text} (query : ∀ q ∈ variants, split q ≠ [])
    (pool : List NameEntry) (names : ∀ entry ∈ pool, ∀ n ∈ entry.variants, split n ≠ [])
    (best : RunningBest String Score) :
    ∃ items : List (String × Score),
      pool.foldlM (offerEntry variants) best = .ok (items.foldl RunningBest.offer best) ∧
      ∀ code top, (code, top) ∈ items ↔
        ∃ entry ∈ pool, entry.stockCode = code ∧ TopScore variants entry top := by
  induction pool generalizing best with
  | nil => exact ⟨[], rfl, by simp⟩
  | cons entry rest ih =>
      obtain ⟨scores, are, members⟩ :=
        matchScores_ok query (names entry List.mem_cons_self)
      have later := ih fun other member => names other (List.mem_cons_of_mem _ member)
      have topOf := max?_iff_topScore members
      cases highest : scores.max? with
      | none =>
          obtain ⟨items, looped, offered⟩ := later best
          have turn : offerEntry variants best entry = .ok best := by
            simp [offerEntry, are, Except.map, highest]
          refine ⟨items, by rw [List.foldlM_cons, turn]; exact looped, ?_⟩
          intro code top
          rw [offered]
          constructor
          · rintro ⟨other, member, is⟩
            exact ⟨other, List.mem_cons_of_mem _ member, is⟩
          · rintro ⟨other, member, sameCode, isTop⟩
            rcases List.mem_cons.mp member with rfl | member
            · rw [← topOf, highest] at isTop
              cases isTop
            · exact ⟨other, member, sameCode, isTop⟩
      | some high =>
          obtain ⟨items, looped, offered⟩ := later (best.offer (entry.stockCode, high))
          have turn : offerEntry variants best entry =
              .ok (best.offer (entry.stockCode, high)) := by
            simp [offerEntry, are, Except.map, highest]
          refine ⟨(entry.stockCode, high) :: items,
            by rw [List.foldlM_cons, turn]; exact looped, ?_⟩
          intro code top
          rw [List.mem_cons, offered, Prod.mk.injEq]
          constructor
          · rintro (⟨rfl, rfl⟩ | ⟨other, member, is⟩)
            · exact ⟨entry, List.mem_cons_self, rfl, (topOf top).mp highest⟩
            · exact ⟨other, List.mem_cons_of_mem _ member, is⟩
          · rintro ⟨other, member, sameCode, isTop⟩
            rcases List.mem_cons.mp member with rfl | member
            · rw [← topOf, highest, Option.some.injEq] at isTop
              exact Or.inl ⟨sameCode.symm, isTop.symm⟩
            · exact Or.inr ⟨other, member, sameCode, isTop⟩

theorem pool_split {folding : Folding} {list : StockList} {variants : List Text}
    {entry : NameEntry} (pooled : entry ∈ scoringPool (buildNameIndex folding list) variants) :
    ∀ n ∈ entry.variants, split n ≠ [] := by
  intro n member
  have indexed := indexed_buildNameIndex folding list
  obtain ⟨inNames, -⟩ := (mem_scoringPool indexed variants entry).mp pooled
  obtain ⟨raw, -, is, -⟩ := indexed.sound entry inNames
  exact nameVariants_split (is ▸ member)

/-- The codes that the loop keeps are the best matches. -/
theorem maximiser_iff {folding : Folding} {list : StockList} {name : Text} {code : String}
    {items : List (String × Score)}
    (offered : ∀ code top, (code, top) ∈ items ↔
      ∃ entry ∈ scoringPool (buildNameIndex folding list) (nameVariants folding name),
        entry.stockCode = code ∧ TopScore (nameVariants folding name) entry top) :
    Maximiser items code ↔ BestMatch folding list name code := by
  have matched (other : String) (lower : Score)
      (found : Matches folding list name other lower) :
      ∃ top, (other, top) ∈ items ∧ lower ≤ top := by
    obtain ⟨entry, pooled, sameCode, pair⟩ := found
    obtain ⟨top, isTop, below⟩ := exists_topScore
      (fun q member => nameVariants_split member) (pool_split pooled) pair
    exact ⟨top, (offered other top).mpr ⟨entry, pooled, sameCode, isTop⟩, below⟩
  constructor
  · rintro ⟨top, member, greatest⟩
    obtain ⟨entry, pooled, sameCode, isTop⟩ := (offered code top).mp member
    refine ⟨top, ⟨entry, pooled, sameCode, isTop.1⟩, ?_⟩
    intro other lower found
    obtain ⟨high, offer, below⟩ := matched other lower found
    exact below.trans (greatest.2 ⟨other, offer⟩)
  · rintro ⟨top, found, highest⟩
    obtain ⟨high, offer, below⟩ := matched code top found
    obtain ⟨entry, pooled, sameCode, isTop⟩ := (offered code high).mp offer
    have same : high = top :=
      le_antisymm (highest code high ⟨entry, pooled, sameCode, isTop.1⟩) below
    subst same
    refine ⟨high, offer, ⟨code, offer⟩, ?_⟩
    rintro lower ⟨other, member⟩
    obtain ⟨entry', pooled', sameCode', isTop'⟩ := (offered other lower).mp member
    exact highest other lower ⟨entry', pooled', sameCode', isTop'.1⟩

theorem bestScoringCodes_ok (folding : Folding) (list : StockList) (name : Text) :
    ∃ codes, bestScoringCodes (scoringPool (buildNameIndex folding list)
        (nameVariants folding name)) (nameVariants folding name) = .ok codes ∧
      codes.Nodup ∧ ∀ code, code ∈ codes ↔ BestMatch folding list name code := by
  obtain ⟨items, looped, offered⟩ := scoring_loop
    (fun q member => nameVariants_split member)
    (scoringPool (buildNameIndex folding list) (nameVariants folding name))
    (fun entry pooled => pool_split pooled) RunningBest.empty
  have kept := RunningBest.kept_foldl items
  refine ⟨(items.foldl RunningBest.offer RunningBest.empty).keys, ?_, kept.distinct, ?_⟩
  · rw [bestScoringCodes, looped]
    rfl
  · intro code
    rw [kept.keys, maximiser_iff offered]

/-! ## The search and the lookup -/

/-- The search returns the code that decides, when only one does. -/
theorem search_ok (folding : Folding) (list : StockList) (name : Text) :
    ∃ result, search folding (buildNameIndex folding list) name = .ok result ∧
      ∀ code, result = some code ↔ ∀ other, Decides folding list name other ↔ other = code := by
  have decided {codes : List String} (distinct : codes.Nodup)
      (members : ∀ code, code ∈ codes ↔ Decides folding list name code) (code : String) :
      onlyKey codes = some code ↔ ∀ other, Decides folding list name other ↔ other = code := by
    rw [onlyKey_eq_some distinct]
    exact forall_congr' fun other => by rw [members]
  by_cases exact' : ∃ code, ExactMatch folding list name code
  · obtain ⟨code, isExact⟩ := exact'
    have found : exactCodes (buildNameIndex folding list) (nameVariants folding name) ≠ [] :=
      List.ne_nil_of_mem (mem_exactCodes.mpr isExact)
    refine ⟨_, by simp only [search, found, ne_eq, not_false_eq_true, if_true]; rfl,
      decided (exactCodes_nodup _ _) ?_⟩
    intro other
    rw [mem_exactCodes]
    constructor
    · exact fun match' => Or.inl ⟨⟨code, isExact⟩, match'⟩
    · rintro (⟨-, match'⟩ | ⟨none, -⟩)
      · exact match'
      · exact absurd ⟨code, isExact⟩ none
  · have nothing : exactCodes (buildNameIndex folding list) (nameVariants folding name) = [] := by
      rw [List.eq_nil_iff_forall_not_mem]
      exact fun code member => exact' ⟨code, mem_exactCodes.mp member⟩
    obtain ⟨codes, are, distinct, members⟩ := bestScoringCodes_ok folding list name
    refine ⟨onlyKey codes, ?_, decided distinct ?_⟩
    · simp only [search, nothing, ne_eq, not_true_eq_false, if_false, are]
      rfl
    · intro code
      rw [members]
      constructor
      · exact fun best => Or.inr ⟨exact', best⟩
      · rintro (⟨some', -⟩ | ⟨-, best⟩)
        · exact absurd some' exact'
        · exact best

/-- A code that decides is the code of a listed stock. -/
theorem Decides.listed {folding : Folding} {list : StockList} {name : Text} {code : String}
    (decides : Decides folding list name code) : ∃ stock, (code, stock) ∈ list.entries := by
  rcases decides with ⟨-, raw, isNamed, -⟩ | ⟨-, top, found, -⟩
  · obtain ⟨stock, member, -⟩ := mem_named.mp isNamed
    exact ⟨stock, member⟩
  · obtain ⟨raw, isNamed, -⟩ := matches_iff.mp found
    obtain ⟨stock, member, -⟩ := mem_named.mp isNamed
    exact ⟨stock, member⟩

/-- What a lookup in a list with its index returns. -/
theorem lookupStock_ok (folding : Folding) (list : StockList) (name : Text) :
    (∀ code stock, (∀ other, Decides folding list name other ↔ other = code) →
      (code, stock) ∈ list.entries →
      lookupStock folding (some (.create folding list)) name =
        .ok (if code = "" then none else some stock)) ∧
    ((¬ ∃ code, ∀ other, Decides folding list name other ↔ other = code) →
      lookupStock folding (some (.create folding list)) name = .ok none) := by
  obtain ⟨result, searched, decided⟩ := search_ok folding list name
  have looked : lookupStock folding (some (.create folding list)) name =
      (HKStockListCache.create folding list).stockFor result := by
    simp only [lookupStock, HKStockListCache.create, searched]
    rfl
  rw [looked]
  constructor
  · intro code stock only member
    rw [(decided code).mpr only]
    simp only [HKStockListCache.stockFor, HKStockListCache.create, list.get_of_mem member]
    split <;> rfl
  · intro undecided
    cases result with
    | none => rfl
    | some code => exact absurd ⟨code, (decided code).mp rfl⟩ undecided

/-! ## The order of the list -/

section
variable {first second : StockList} (permuted : first.entries.Perm second.entries)
include permuted

theorem named_perm (item : String × Text) : item ∈ first.named ↔ item ∈ second.named := by
  obtain ⟨code, raw⟩ := item
  rw [mem_named, mem_named]
  exact exists_congr fun stock => and_congr_left fun _ => permuted.mem_iff

theorem exactMatch_perm (folding : Folding) (name : Text) (code : String) :
    ExactMatch folding first name code ↔ ExactMatch folding second name code :=
  exists_congr fun raw => and_congr_left fun _ => named_perm permuted (code, raw)

theorem matches_perm (folding : Folding) (name : Text) (code : String) (top : Score) :
    Matches folding first name code top ↔ Matches folding second name code top := by
  rw [matches_iff, matches_iff]
  exact exists_congr fun raw => and_congr_left fun _ => named_perm permuted (code, raw)

theorem decides_perm (folding : Folding) (name : Text) (code : String) :
    Decides folding first name code ↔ Decides folding second name code := by
  simp only [Decides, BestMatch, exactMatch_perm permuted, matches_perm permuted]

theorem lookupStock_perm (folding : Folding) (name : Text) :
    lookupStock folding (some (.create folding first)) name =
      lookupStock folding (some (.create folding second)) name := by
  obtain ⟨decided, undecided⟩ := lookupStock_ok folding first name
  obtain ⟨decided', undecided'⟩ := lookupStock_ok folding second name
  have same (code : String) : (∀ other, Decides folding first name other ↔ other = code) ↔
      ∀ other, Decides folding second name other ↔ other = code :=
    forall_congr' fun other => by rw [decides_perm permuted]
  by_cases only : ∃ code, ∀ other, Decides folding first name other ↔ other = code
  · obtain ⟨code, only⟩ := only
    obtain ⟨stock, member⟩ := ((only code).mpr rfl).listed
    rw [decided code stock only member,
      decided' code stock ((same code).mp only) (permuted.mem_iff.mp member)]
  · rw [undecided only]
    refine (undecided' ?_).symm
    rintro ⟨code, only'⟩
    exact only ⟨code, (same code).mpr only'⟩

end

/-- A lookup returns the stock of the only code that decides it, a miss when the
code is empty, several decide or none does; the order of the list is of no account. -/
theorem lookup_unique_maximiser (folding : Folding) (list : StockList) (name : Text) :
    (∀ permuted : StockList, permuted.entries.Perm list.entries →
      lookupStock folding (some (.create folding permuted)) name =
        lookupStock folding (some (.create folding list)) name) ∧
    (∀ code, (∀ other, Decides folding list name other ↔ other = code) →
      ∃ stock, (code, stock) ∈ list.entries ∧
        lookupStock folding (some (.create folding list)) name =
          .ok (if code = "" then none else some stock)) ∧
    ((¬ ∃ code, ∀ other, Decides folding list name other ↔ other = code) →
      lookupStock folding (some (.create folding list)) name = .ok none) := by
  obtain ⟨decided, undecided⟩ := lookupStock_ok folding list name
  refine ⟨fun permuted perm => lookupStock_perm perm folding name, ?_, undecided⟩
  intro code only
  obtain ⟨stock, member⟩ := ((only code).mpr rfl).listed
  exact ⟨stock, member, decided code stock only member⟩

/-! ## Two lists -/

/-- What the conversions do to the sample names. -/
def sampleFolding : Folding where
  t2s := fun text => (text.takeWhile fun c => c ≠ nul).map fun c =>
    if c = '騰' then '腾' else if c = '訊' then '讯' else c
  casefold := id
  noNul := by
    intro text member
    obtain ⟨c, kept, is⟩ := List.mem_map.mp member
    have notNul := List.all_eq_true.mp List.all_takeWhile c kept
    split at is
    · exact absurd is (by decide)
    · split at is
      · exact absurd is (by decide)
      · simp [is] at notNul

def sampleStock (code : String) (name : String) : Stock := ⟨code, "HKEX", name.toList, []⟩

def sampleStockList : StockList :=
  ⟨[("00700", sampleStock "00700" "騰訊控股"), ("03988", sampleStock "03988" "中國銀行")],
    by decide⟩

example : lookupStock sampleFolding (some (.create sampleFolding sampleStockList))
    "腾讯".toList = .ok (some (sampleStock "00700" "騰訊控股")) := by decide +kernel

-- an empty code is falsy, though no listed stock has one
example : lookupStock sampleFolding (some (.create sampleFolding
    ⟨[("", sampleStock "" "騰訊")], by decide⟩)) "騰訊".toList = .ok none := by decide +kernel

end WealthFinder.Pipeline
