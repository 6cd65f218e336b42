import Mathlib.Data.List.Dedup
import WealthFinder.RunningBest
import WealthFinder.Pipeline.NameMatching

/-!
# The HK Stock List and its name index

The index is built in the order of the list.  A `NameEntry` is an object, so it
keeps its identity: its place among the index's names.
-/

set_option autoImplicit false

namespace WealthFinder.Pipeline

structure Stock where
  stockCode : String
  exchange : String
  companyNameZh : Text
  companyNameEn : Text
  deriving DecidableEq, Repr

/-- A `dict[str, Stock]` in insertion order. -/
structure StockList where
  entries : List (String × Stock)
  distinct : (entries.map Prod.fst).Nodup

namespace StockList

def empty : StockList := ⟨[], List.nodup_nil⟩

def get (list : StockList) (code : String) : Option Stock :=
  (list.entries.find? fun entry => entry.1 = code).map Prod.snd

theorem get_of_mem (list : StockList) {code : String} {stock : Stock}
    (member : (code, stock) ∈ list.entries) : list.get code = some stock := by
  have found : (list.entries.find? fun entry => entry.1 = code) = some (code, stock) := by
    have distinct := list.distinct
    generalize list.entries = entries at member distinct
    induction entries with
    | nil => exact absurd member List.not_mem_nil
    | cons first rest ih =>
        rw [List.map_cons, List.nodup_cons] at distinct
        rcases List.mem_cons.mp member with rfl | later
        · simp
        · have apart : first.1 ≠ code := by
            rintro rfl
            exact distinct.1 (List.mem_map.mpr ⟨_, later, rfl⟩)
          rw [List.find?_cons_of_neg (by simpa using apart)]
          exact ih later distinct.2
  rw [get, found, Option.map_some]

end StockList

/-! ## `_build_name_index` -/

/-- `object` tells one entry from another. -/
structure NameEntry where
  object : Nat
  stockCode : String
  variants : List Text
  latin : Bool
  deriving DecidableEq, Repr

structure StockNameIndex where
  names : List NameEntry
  namesByCode : String → List NameEntry
  namesByLatinPrefix : Text → List NameEntry

def StockNameIndex.empty : StockNameIndex := ⟨[], fun _ => [], fun _ => []⟩

/-- The first letters of the words that index a name, or a query. -/
def latinPrefixes (variants : List Text) : List Text :=
  (variants.flatMap fun variant =>
    ((split variant).filter fun word => latinPrefixLen ≤ word.length).map
      fun word => word.take latinPrefixLen).eraseDups

/-- `table.setdefault(key, []).append(entry)`. -/
def appendAt {Key : Type} [DecidableEq Key] (table : Key → List NameEntry) (key : Key)
    (entry : NameEntry) : Key → List NameEntry :=
  Function.update table key (table key ++ [entry])

def addName (folding : Folding) (index : StockNameIndex) (named : String × Text) :
    StockNameIndex :=
  match nameVariants folding named.2 with
  | [] => index
  | first :: rest =>
      let entry : NameEntry :=
        ⟨index.names.length, named.1, first :: rest, isAscii first⟩
      { names := index.names ++ [entry]
        namesByCode := appendAt index.namesByCode named.1 entry
        namesByLatinPrefix :=
          if entry.latin then
            (latinPrefixes entry.variants).foldl
              (fun table start => appendAt table start entry) index.namesByLatinPrefix
          else index.namesByLatinPrefix }

/-- `dict.fromkeys((company_name_zh, company_name_en))`. -/
def Stock.rawNames (stock : Stock) : List Text :=
  [stock.companyNameZh, stock.companyNameEn].eraseDups

def addStock (folding : Folding) (index : StockNameIndex) (entry : String × Stock) :
    StockNameIndex :=
  entry.2.rawNames.foldl (fun index raw => addName folding index (entry.1, raw)) index

def buildNameIndex (folding : Folding) (list : StockList) : StockNameIndex :=
  list.entries.foldl (addStock folding) StockNameIndex.empty

/-! ## `_search` -/

def scoringPool (index : StockNameIndex) (variants : List Text) : List NameEntry :=
  match variants with
  | [] => []
  | first :: _ =>
      if isAscii first then
        (variants.flatMap fun variant =>
          ((split variant).filter fun word => latinPrefixLen ≤ word.length).flatMap
            fun word => index.namesByLatinPrefix (word.take latinPrefixLen)).eraseDups
      else index.names.filter fun entry => !entry.latin

/-- The scores of the pairs that match. -/
def matchScores (variants : List Text) (entry : NameEntry) :
    Except LookupError (List Score) := do
  let results ← (variants.flatMap fun q => entry.variants.map fun n => (q, n)).mapM
    fun pair => score pair.1 pair.2
  return results.filterMap id

/-- One turn of the loop over the pool. -/
def offerEntry (variants : List Text) (best : RunningBest String Score) (entry : NameEntry) :
    Except LookupError (RunningBest String Score) :=
  (matchScores variants entry).map fun scores =>
    match scores.max? with
    | none => best
    | some top => best.offer (entry.stockCode, top)

def bestScoringCodes (pool : List NameEntry) (variants : List Text) :
    Except LookupError (List String) :=
  (pool.foldlM (offerEntry variants) RunningBest.empty).map RunningBest.keys

/-- The codes with a name variant among the query's, a set. -/
def exactCodes (index : StockNameIndex) (variants : List Text) : List String :=
  ((index.names.filter fun entry => entry.variants.any fun variant => variant ∈ variants).map
    NameEntry.stockCode).dedup

def search (folding : Folding) (index : StockNameIndex) (name : Text) :
    Except LookupError (Option String) := do
  let variants := nameVariants folding name
  let exact := exactCodes index variants
  let codes ← if exact ≠ [] then .ok exact
    else bestScoringCodes (scoringPool index variants) variants
  return onlyKey codes

/-! ## `lookup_stock` -/

structure HKStockListCache where
  entries : StockList
  nameIndex : StockNameIndex

def HKStockListCache.create (folding : Folding) (entries : StockList) : HKStockListCache :=
  ⟨entries, buildNameIndex folding entries⟩

/-- `entries[code] if code else None`. -/
def HKStockListCache.stockFor (cache : HKStockListCache) :
    Option String → Except LookupError (Option Stock)
  | none => .ok none
  | some code =>
      if code = "" then .ok none
      else
        match cache.entries.get code with
        | none => .error .keyError
        | some stock => .ok (some stock)

/-- `cache` is what `_hk_stock_list_cache` holds. -/
def lookupStock (folding : Folding) (cache : Option HKStockListCache) (name : Text) :
    Except LookupError (Option Stock) :=
  match cache with
  | none => .error .serviceUnavailableError
  | some cache => do
      let code ← search folding cache.nameIndex name
      cache.stockFor code

/-! ## What the index holds -/

/-- The names of a list, each under its code. -/
def StockList.named (list : StockList) : List (String × Text) :=
  list.entries.flatMap fun entry => entry.2.rawNames.map fun raw => (entry.1, raw)

theorem mem_named {list : StockList} {code : String} {raw : Text} :
    (code, raw) ∈ list.named ↔ ∃ stock, (code, stock) ∈ list.entries ∧
      (raw = stock.companyNameZh ∨ raw = stock.companyNameEn) := by
  simp only [StockList.named, List.mem_flatMap, List.mem_map, Prod.mk.injEq, Stock.rawNames,
    List.mem_eraseDups, List.mem_cons, List.not_mem_nil, or_false]
  constructor
  · rintro ⟨⟨_, stock⟩, member, _, isName, rfl, rfl⟩
    exact ⟨stock, member, isName⟩
  · rintro ⟨stock, member, isName⟩
    exact ⟨(code, stock), member, raw, isName, rfl, rfl⟩

theorem buildNameIndex_foldl (folding : Folding) (list : StockList) :
    buildNameIndex folding list = list.named.foldl (addName folding) StockNameIndex.empty := by
  rw [buildNameIndex, StockList.named, List.foldl_flatMap]
  simp only [List.foldl_map]
  rfl

/-- The index after these names, whatever their order. -/
structure Indexed (folding : Folding) (named : List (String × Text))
    (index : StockNameIndex) : Prop where
  sound : ∀ entry ∈ index.names, ∃ raw, (entry.stockCode, raw) ∈ named ∧
    entry.variants = nameVariants folding raw ∧ entry.variants ≠ []
  complete : ∀ code raw, (code, raw) ∈ named → nameVariants folding raw ≠ [] →
    ∃ entry ∈ index.names, entry.stockCode = code ∧ entry.variants = nameVariants folding raw
  latin : ∀ entry ∈ index.names, entry.latin = entry.variants.head?.any isAscii
  byLatinPrefix : ∀ start entry, entry ∈ index.namesByLatinPrefix start ↔
    entry ∈ index.names ∧ entry.latin = true ∧ start ∈ latinPrefixes entry.variants

theorem indexed_empty (folding : Folding) : Indexed folding [] StockNameIndex.empty where
  sound := fun _ member => absurd member List.not_mem_nil
  complete := fun _ _ member => absurd member List.not_mem_nil
  latin := fun _ member => absurd member List.not_mem_nil
  byLatinPrefix := by simp [StockNameIndex.empty]

theorem mem_appendAt {Key : Type} [DecidableEq Key] {table : Key → List NameEntry}
    {key other : Key} {entry found : NameEntry} :
    found ∈ appendAt table key entry other ↔
      found ∈ table other ∨ (other = key ∧ found = entry) := by
  unfold appendAt
  by_cases same : other = key
  · subst same
    simp
  · simp [same]

theorem mem_appendAt_foldl {starts : List Text} {table : Text → List NameEntry}
    {entry found : NameEntry} {start : Text} :
    found ∈ starts.foldl (fun table start => appendAt table start entry) table start ↔
      found ∈ table start ∨ (start ∈ starts ∧ found = entry) := by
  induction starts generalizing table with
  | nil => simp
  | cons first rest ih =>
      rw [List.foldl_cons, ih, mem_appendAt, List.mem_cons, or_assoc, ← or_and_right]

theorem Indexed.addName {folding : Folding} {named : List (String × Text)}
    {index : StockNameIndex} (indexed : Indexed folding named index) (item : String × Text) :
    Indexed folding (named ++ [item]) (addName folding index item) := by
  have earlier (code : String) (raw : Text) (member : (code, raw) ∈ named) :
      (code, raw) ∈ named ++ [item] := List.mem_append_left _ member
  cases variants : nameVariants folding item.2 with
  | nil =>
      simp only [Pipeline.addName, variants]
      refine ⟨?_, ?_, indexed.latin, indexed.byLatinPrefix⟩
      · intro entry member
        obtain ⟨raw, isNamed, is⟩ := indexed.sound entry member
        exact ⟨raw, earlier _ _ isNamed, is⟩
      · intro code raw member nonempty
        rcases List.mem_append.mp member with old | new
        · exact indexed.complete code raw old nonempty
        · rw [← List.mem_singleton.mp new] at variants
          exact absurd variants nonempty
  | cons first rest =>
      simp only [Pipeline.addName, variants]
      refine ⟨?_, ?_, ?_, ?_⟩
      · intro entry member
        rcases List.mem_append.mp member with old | new
        · obtain ⟨raw, isNamed, is⟩ := indexed.sound entry old
          exact ⟨raw, earlier _ _ isNamed, is⟩
        · rw [List.mem_singleton.mp new]
          exact ⟨item.2, List.mem_append_right _ (List.mem_singleton.mpr rfl), variants.symm,
            List.cons_ne_nil _ _⟩
      · intro code raw member nonempty
        rcases List.mem_append.mp member with old | new
        · obtain ⟨entry, inNames, is⟩ := indexed.complete code raw old nonempty
          exact ⟨entry, List.mem_append_left _ inNames, is⟩
        · have same := List.mem_singleton.mp new
          refine ⟨_, List.mem_append_right _ (List.mem_singleton.mpr rfl), ?_, ?_⟩
          · rw [← same]
          · rw [← variants, ← same]
      · intro entry member
        rcases List.mem_append.mp member with old | new
        · exact indexed.latin entry old
        · rw [List.mem_singleton.mp new]
          rfl
      · intro start entry
        split
        · rename_i ascii
          rw [mem_appendAt_foldl, indexed.byLatinPrefix, List.mem_append, List.mem_singleton]
          constructor
          · rintro (⟨member, isLatin, starts⟩ | ⟨starts, rfl⟩)
            · exact ⟨Or.inl member, isLatin, starts⟩
            · exact ⟨Or.inr rfl, ascii, starts⟩
          · rintro ⟨member | rfl, isLatin, starts⟩
            · exact Or.inl ⟨member, isLatin, starts⟩
            · exact Or.inr ⟨starts, rfl⟩
        · rename_i cjk
          rw [indexed.byLatinPrefix, List.mem_append, List.mem_singleton]
          constructor
          · rintro ⟨member, isLatin, starts⟩
            exact ⟨Or.inl member, isLatin, starts⟩
          · rintro ⟨member | rfl, isLatin, starts⟩
            · exact ⟨member, isLatin, starts⟩
            · exact absurd isLatin cjk

theorem indexed_foldl {folding : Folding} {named : List (String × Text)}
    {index : StockNameIndex} (indexed : Indexed folding named index)
    (items : List (String × Text)) :
    Indexed folding (named ++ items) (items.foldl (addName folding) index) := by
  induction items generalizing named index with
  | nil => simpa using indexed
  | cons item rest ih =>
      have next := ih (indexed.addName item)
      simpa using next

theorem indexed_buildNameIndex (folding : Folding) (list : StockList) :
    Indexed folding list.named (buildNameIndex folding list) := by
  rw [buildNameIndex_foldl]
  simpa using indexed_foldl (indexed_empty folding) list.named

end WealthFinder.Pipeline
