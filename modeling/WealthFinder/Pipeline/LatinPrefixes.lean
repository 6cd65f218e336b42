import WealthFinder.Pipeline.NameLookup

/-!
# The English prefix index is complete

An English query scores only the names that share the first letters of a word with
it.  No match is lost that way, as long as the side of the match that the other
holds has a word with enough letters.
-/

set_option autoImplicit false

namespace WealthFinder.Pipeline

/-- A side whose words the other all has, with a word long enough to be indexed. -/
def ContainedWord (q n : Text) : Prop :=
  (latinWordHits (split n) (split q) = (split n).length ∧
    ∃ word ∈ split n, latinPrefixLen ≤ word.length) ∨
  (latinWordHits (split q) (split n) = (split q).length ∧
    ∃ word ∈ split q, latinPrefixLen ≤ word.length)

/-- A long word that is found shares its first letters with a long word. -/
theorem exists_sharedStart {words others : List Text} {word : Text}
    (hits : latinWordHits words others = words.length) (member : word ∈ words)
    (long : latinPrefixLen ≤ word.length) :
    ∃ other ∈ others, latinPrefixLen ≤ other.length ∧
      other.take latinPrefixLen = word.take latinPrefixLen := by
  have found := List.countP_eq_length.mp hits word member
  obtain ⟨other, inOthers, matched⟩ := List.any_eq_true.mp found
  refine ⟨other, inOthers, ?_⟩
  rcases Bool.or_eq_true_iff.mp matched with same | begins
  · rw [of_decide_eq_true same]
    exact ⟨long, rfl⟩
  · obtain ⟨rest, rfl⟩ := List.isPrefixOf_iff_prefix.mp (Bool.and_eq_true_iff.mp begins).2
    rw [List.length_append, List.take_append_of_le_length long]
    exact ⟨by omega, rfl⟩

theorem sharedPrefix {variants names : List Text} {q n : Text} (ofQuery : q ∈ variants)
    (ofName : n ∈ names) (contained : ContainedWord q n) :
    ∃ start ∈ latinPrefixes variants, start ∈ latinPrefixes names := by
  rcases contained with ⟨hits, word, inName, long⟩ | ⟨hits, word, inQuery, long⟩
  · obtain ⟨other, inQuery, otherLong, same⟩ := exists_sharedStart hits inName long
    refine ⟨word.take latinPrefixLen, ?_, ?_⟩
    · exact mem_latinPrefixes.mpr ⟨q, ofQuery, other, inQuery, otherLong, same⟩
    · exact mem_latinPrefixes.mpr ⟨n, ofName, word, inName, long, rfl⟩
  · obtain ⟨other, inName, otherLong, same⟩ := exists_sharedStart hits inQuery long
    refine ⟨word.take latinPrefixLen, ?_, ?_⟩
    · exact mem_latinPrefixes.mpr ⟨q, ofQuery, word, inQuery, long, rfl⟩
    · exact mem_latinPrefixes.mpr ⟨n, ofName, other, inName, otherLong, same⟩

/-! ## The pool of an English query -/

section
variable {folding : Folding} {list : StockList} {name : Text}
  (ascii : ∀ q ∈ nameVariants folding name, isAscii q = true)
include ascii

theorem pooled_of_contained {entry : NameEntry} {q n : Text}
    (inNames : entry ∈ (buildNameIndex folding list).names) (latin : entry.latin = true)
    (ofQuery : q ∈ nameVariants folding name) (ofName : n ∈ entry.variants)
    (contained : ContainedWord q n) :
    entry ∈ scoringPool (buildNameIndex folding list) (nameVariants folding name) := by
  have indexed := indexed_buildNameIndex folding list
  refine (mem_scoringPool indexed _ entry).mpr ⟨inNames, ?_⟩
  have first : (nameVariants folding name).head?.any isAscii = true := by
    cases variants : nameVariants folding name with
    | nil =>
        rw [variants] at ofQuery
        exact absurd ofQuery List.not_mem_nil
    | cons first rest =>
        exact ascii first (by rw [variants]; exact List.mem_cons_self)
  rw [InPool, if_pos first]
  exact ⟨(indexed.latin entry inNames).symm.trans latin,
    sharedPrefix ofQuery ofName contained⟩

theorem latin_of_pooled {entry : NameEntry}
    (pooled : entry ∈ scoringPool (buildNameIndex folding list) (nameVariants folding name)) :
    entry ∈ (buildNameIndex folding list).names.filter NameEntry.latin := by
  have indexed := indexed_buildNameIndex folding list
  obtain ⟨inNames, pool⟩ := (mem_scoringPool indexed _ entry).mp pooled
  refine List.mem_filter.mpr ⟨inNames, ?_⟩
  unfold InPool at pool
  split at pool
  · exact (indexed.latin entry inNames).trans pool.1
  · rename_i other
    cases variants : nameVariants folding name with
    | nil => exact absurd variants pool.1
    | cons first rest =>
        have firstAscii := ascii first (by rw [variants]; exact List.mem_cons_self)
        rw [variants] at other
        exact absurd firstAscii other

end

/-- Two pools with the same matches have the same best codes. -/
theorem bestScoringCodes_congr {variants : List Text} {pool pool' : List NameEntry}
    (query : ∀ q ∈ variants, split q ≠ [])
    (names : ∀ entry ∈ pool, ∀ n ∈ entry.variants, split n ≠ [])
    (names' : ∀ entry ∈ pool', ∀ n ∈ entry.variants, split n ≠ [])
    (same : ∀ entry top, TopScore variants entry top → (entry ∈ pool ↔ entry ∈ pool')) :
    ∃ codes codes', bestScoringCodes pool variants = .ok codes ∧
      bestScoringCodes pool' variants = .ok codes' ∧ ∀ code, code ∈ codes ↔ code ∈ codes' := by
  obtain ⟨items, looped, offered⟩ := scoring_loop query pool names RunningBest.empty
  obtain ⟨items', looped', offered'⟩ := scoring_loop query pool' names' RunningBest.empty
  have sameItems (item : String × Score) : item ∈ items ↔ item ∈ items' := by
    obtain ⟨code, top⟩ := item
    rw [offered, offered']
    refine exists_congr fun entry => ?_
    constructor
    · intro ⟨pooled, sameCode, isTop⟩
      exact ⟨(same entry top isTop).mp pooled, sameCode, isTop⟩
    · intro ⟨pooled, sameCode, isTop⟩
      exact ⟨(same entry top isTop).mpr pooled, sameCode, isTop⟩
  refine ⟨_, _, by rw [bestScoringCodes, looped]; rfl, by rw [bestScoringCodes, looped']; rfl, ?_⟩
  intro code
  rw [(RunningBest.kept_foldl items).keys, (RunningBest.kept_foldl items').keys]
  simp only [Maximiser, scoresOf, sameItems]

theorem index_split {folding : Folding} {list : StockList} {entry : NameEntry}
    (inNames : entry ∈ (buildNameIndex folding list).names) :
    ∀ n ∈ entry.variants, split n ≠ [] := by
  intro n member
  obtain ⟨raw, -, is, -⟩ := (indexed_buildNameIndex folding list).sound entry inNames
  exact nameVariants_split (is ▸ member)

/-- The pool of an English query holds every English name with a match whose
contained side has an indexed word, and then scores as all English names do. -/
theorem latinPrefixes_complete (folding : Folding) (list : StockList) (name : Text)
    (ascii : ∀ q ∈ nameVariants folding name, isAscii q = true) :
    (∀ entry ∈ (buildNameIndex folding list).names, entry.latin = true →
      ∀ q ∈ nameVariants folding name, ∀ n ∈ entry.variants, ∀ top,
        score q n = .ok (some top) → ContainedWord q n →
          entry ∈ scoringPool (buildNameIndex folding list) (nameVariants folding name)) ∧
    ((∀ entry ∈ (buildNameIndex folding list).names, entry.latin = true →
        ∀ q ∈ nameVariants folding name, ∀ n ∈ entry.variants, ∀ top,
          score q n = .ok (some top) → ContainedWord q n) →
      ∃ codes codes',
        bestScoringCodes (scoringPool (buildNameIndex folding list)
          (nameVariants folding name)) (nameVariants folding name) = .ok codes ∧
        bestScoringCodes ((buildNameIndex folding list).names.filter NameEntry.latin)
          (nameVariants folding name) = .ok codes' ∧
        ∀ code, code ∈ codes ↔ code ∈ codes') := by
  constructor
  · intro entry inNames latin q ofQuery n ofName top _ contained
    exact pooled_of_contained ascii inNames latin ofQuery ofName contained
  · intro contained
    refine bestScoringCodes_congr (fun q member => nameVariants_split member)
      (fun entry pooled => pool_split pooled)
      (fun entry kept => index_split (List.mem_filter.mp kept).1) ?_
    intro entry top isTop
    obtain ⟨q, ofQuery, n, ofName, is⟩ := isTop.1
    refine ⟨latin_of_pooled ascii, ?_⟩
    intro kept
    obtain ⟨inNames, latin⟩ := List.mem_filter.mp kept
    exact pooled_of_contained ascii inNames latin ofQuery ofName
      (contained entry inNames latin q ofQuery n ofName top is)

def bankStockList : StockList := ⟨[("03988", sampleStock "03988" "bank of china")], by decide⟩

theorem latinPrefixes_complete_bank : ∃ codes codes',
    bestScoringCodes (scoringPool (buildNameIndex sampleFolding bankStockList)
      (nameVariants sampleFolding "bank".toList))
      (nameVariants sampleFolding "bank".toList) = .ok codes ∧
    bestScoringCodes ((buildNameIndex sampleFolding bankStockList).names.filter
      NameEntry.latin) (nameVariants sampleFolding "bank".toList) = .ok codes' ∧
    ∀ code, code ∈ codes ↔ code ∈ codes' := by
  have contained : ∀ entry ∈ (buildNameIndex sampleFolding bankStockList).names,
      ∀ q ∈ nameVariants sampleFolding "bank".toList, ∀ n ∈ entry.variants,
        latinWordHits (split q) (split n) = (split q).length ∧
          ∃ word ∈ split q, latinPrefixLen ≤ word.length := by decide +kernel
  exact (latinPrefixes_complete sampleFolding bankStockList "bank".toList
    (by decide +kernel)).2 fun entry inNames _ q ofQuery n ofName _ _ =>
      Or.inr (contained entry inNames q ofQuery n ofName)

end WealthFinder.Pipeline
