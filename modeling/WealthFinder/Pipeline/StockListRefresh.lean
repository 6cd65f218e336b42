import WealthFinder.Machine
import WealthFinder.Tables
import WealthFinder.Pipeline.NameLookup

/-!
# Refreshing the HK Stock List

Calls of `refresh_hk_stock_list` suspend at every fetch, at the waits between
attempts, at the parse and at the index build.  The registered cache is an object:
a reload writes the object it was called on, which another first-time refresh may
have replaced since.
-/

set_option autoImplicit false

namespace WealthFinder.Pipeline

open Machine

/-! ## One call -/

/-- The three HKEX files, in the order in which they are fetched. -/
inductive HkexSource where
  | activestockEn
  | activestockZh
  | listOfSecurities
  deriving DecidableEq

def HkexSource.following : HkexSource → Option HkexSource
  | .activestockEn => some .activestockZh
  | .activestockZh => some .listOfSecurities
  | .listOfSecurities => none

inductive RefreshError where
  | serviceUnavailableError
  | parseError
  /-- Any other exception, from the worker thread that builds the index. -/
  | unhandled
  deriving DecidableEq

inductive RefreshStage where
  /-- `waits` are the waits left before the last attempt. -/
  | get (source : HkexSource) (waits : List Nat)
  | sleep (source : HkexSource) (waits : List Nat)
  | parse
  | construct (entries : StockList)
  | reload (object : Nat) (entries : StockList)
  | returned (entriesLoaded : Nat)
  | raised (error : RefreshError)
  | cancelled

def connectRetryWaits : List Nat := [1, 2]

/-- How the operation that a call awaits ends. -/
inductive RefreshReply where
  | response
  | connectError
  | httpError
  | woke
  | parsed (entries : StockList)
  | built
  | failed

/-- `objects` are the caches made so far, `current` the registered one. -/
structure RefreshState where
  objects : List HKStockListCache
  current : Option Nat
  calls : Nat → Option RefreshStage

namespace RefreshState

def initial : RefreshState := ⟨[], none, fun _ => none⟩

/-- What `_hk_stock_list_cache` holds. -/
def inUse (state : RefreshState) : Option HKStockListCache :=
  state.current.bind fun object => state.objects[object]?

def move (state : RefreshState) (call : Nat) (stage : RefreshStage) : RefreshState :=
  { state with calls := Function.update state.calls call (some stage) }

/-- Register a new cache. -/
def install (state : RefreshState) (cache : HKStockListCache) : RefreshState :=
  { state with
    objects := state.objects ++ [cache]
    current := some state.objects.length }

/-- `reload`, once the index is built. -/
def rebind (state : RefreshState) (object : Nat) (cache : HKStockListCache) : RefreshState :=
  { state with objects := state.objects.set object cache }

/-- The handler of `refresh_hk_stock_list`. -/
def raise (state : RefreshState) (folding : Folding) (call : Nat) (error : RefreshError) :
    RefreshState :=
  (if state.current = none then state.install (.create folding .empty) else state).move call
    (.raised error)

end RefreshState

/-- The next await after a response. -/
def afterResponse (source : HkexSource) : RefreshStage :=
  match source.following with
  | some next => .get next connectRetryWaits
  | none => .parse

/-- The rest of the call once the files are parsed. -/
def afterParse (folding : Folding) (state : RefreshState) (call : Nat) (entries : StockList) :
    RefreshState :=
  if entries.entries = [] then state.raise folding call .parseError
  else
    match state.current with
    | none => state.move call (.construct entries)
    | some object => state.move call (.reload object entries)

def resumeRefresh (folding : Folding) (state : RefreshState) (call : Nat)
    (reply : RefreshReply) : Option RefreshState :=
  (state.calls call).bind fun stage =>
    match stage, reply with
    | .get source _, .response => some (state.move call (afterResponse source))
    | .get source (_ :: waits), .connectError => some (state.move call (.sleep source waits))
    | .get _ [], .connectError => some (state.raise folding call .serviceUnavailableError)
    | .get _ _, .httpError => some (state.raise folding call .serviceUnavailableError)
    | .sleep source waits, .woke => some (state.move call (.get source waits))
    | .parse, .parsed entries => some (afterParse folding state call entries)
    | .parse, .failed => some (state.raise folding call .parseError)
    | .construct entries, .built => some ((state.install (.create folding entries)).move call
        (.returned entries.entries.length))
    | .reload object entries, .built =>
        some ((state.rebind object ⟨entries, buildNameIndex folding entries⟩).move call
          (.returned entries.entries.length))
    | .construct _, .failed => some (state.raise folding call .unhandled)
    | .reload _ _, .failed => some (state.raise folding call .unhandled)
    | _, _ => none

def RefreshStage.unfinished : RefreshStage → Bool
  | .returned _ | .raised _ | .cancelled => false
  | _ => true

/-! ## Any number of calls -/

inductive RefreshAction where
  | call (id : Nat)
  | resume (id : Nat) (reply : RefreshReply)
  | cancel (id : Nat)

def refreshStep (folding : Folding) (state : RefreshState) :
    RefreshAction → Option RefreshState
  | .call id =>
      if (state.calls id).isSome then none
      else some (state.move id (.get .activestockEn connectRetryWaits))
  | .resume id reply => resumeRefresh folding state id reply
  | .cancel id =>
      if (state.calls id).any RefreshStage.unfinished then some (state.move id .cancelled)
      else none

def refreshMachine (folding : Folding) : Machine RefreshState RefreshAction where
  init := fun state => state = RefreshState.initial
  step := refreshStep folding

/-! ## What a step can do -/

/-- A call ends by an exception, or moves to an await that is justified, or returns
with its list loaded. -/
inductive RefreshStep (folding : Folding) (state : RefreshState) (call : Nat) :
    RefreshState → Prop where
  | moved {stage : RefreshStage}
      (awaits : ∀ n error, stage ≠ .returned n ∧ stage ≠ .raised error)
      (constructs : ∀ entries, stage = .construct entries → entries.entries ≠ [])
      (reloads : ∀ object entries, stage = .reload object entries →
        entries.entries ≠ [] ∧ state.current = some object) :
      RefreshStep folding state call (state.move call stage)
  | raised (error : RefreshError) :
      RefreshStep folding state call (state.raise folding call error)
  | constructed {entries : StockList} (at' : state.calls call = some (.construct entries)) :
      RefreshStep folding state call ((state.install (.create folding entries)).move call
        (.returned entries.entries.length))
  | reloaded {object : Nat} {entries : StockList}
      (at' : state.calls call = some (.reload object entries)) :
      RefreshStep folding state call ((state.rebind object (.create folding entries)).move
        call (.returned entries.entries.length))

theorem afterResponse_cases (source : HkexSource) :
    (∃ next waits, afterResponse source = .get next waits) ∨ afterResponse source = .parse := by
  cases source with
  | activestockEn => exact Or.inl ⟨_, _, rfl⟩
  | activestockZh => exact Or.inl ⟨_, _, rfl⟩
  | listOfSecurities => exact Or.inr rfl

theorem resumeRefresh_step {folding : Folding} {state after : RefreshState} {call : Nat}
    {reply : RefreshReply} (moved : resumeRefresh folding state call reply = some after) :
    RefreshStep folding state call after := by
  obtain ⟨stage, running, resumed⟩ := Option.bind_eq_some_iff.mp moved
  split at resumed
  · rename_i source _
    cases resumed
    rcases afterResponse_cases source with ⟨next, waits, is⟩ | is <;> rw [is]
    · exact .moved (by simp) (by simp) (by simp)
    · exact .moved (by simp) (by simp) (by simp)
  · cases resumed
    exact .moved (by simp) (by simp) (by simp)
  · cases resumed
    exact .raised _
  · cases resumed
    exact .raised _
  · cases resumed
    exact .moved (by simp) (by simp) (by simp)
  · rename_i entries
    cases resumed
    unfold afterParse
    split
    · exact .raised _
    · rename_i nonempty
      cases current : state.current with
      | none => exact .moved (by simp) (by simpa using nonempty) (by simp)
      | some object =>
          refine .moved (by simp) (by simp) ?_
          intro _ _ is
          cases is
          exact ⟨nonempty, current⟩
  · cases resumed
    exact .raised _
  · cases resumed
    exact .constructed running
  · cases resumed
    exact .reloaded running
  · cases resumed
    exact .raised _
  · cases resumed
    exact .raised _
  · cases resumed

theorem refreshStep_step {folding : Folding} {state after : RefreshState}
    {action : RefreshAction} (moved : refreshStep folding state action = some after) :
    ∃ call, RefreshStep folding state call after := by
  cases action with
  | call id =>
      simp only [refreshStep] at moved
      split at moved
      · cases moved
      · cases moved
        exact ⟨id, .moved (by simp) (by simp) (by simp)⟩
  | resume id reply => exact ⟨id, resumeRefresh_step moved⟩
  | cancel id =>
      simp only [refreshStep] at moved
      split at moved
      · cases moved
        exact ⟨id, .moved (by simp) (by simp) (by simp)⟩
      · cases moved

/-! ## The invariant -/

structure RefreshSound (folding : Folding) (state : RefreshState) : Prop where
  objects : ∀ cache ∈ state.objects, cache.nameIndex = buildNameIndex folding cache.entries
  current : ∀ object, state.current = some object → object < state.objects.length
  constructing : ∀ call entries, state.calls call = some (.construct entries) →
    entries.entries ≠ []
  reloading : ∀ call object entries, state.calls call = some (.reload object entries) →
    entries.entries ≠ [] ∧ object < state.objects.length ∧ state.current ≠ none
  finished : ∀ call stage, state.calls call = some stage →
    ((∃ n, stage = .returned n) ∨ ∃ error, stage = .raised error) → state.current ≠ none

theorem refreshSound_initial (folding : Folding) :
    RefreshSound folding RefreshState.initial where
  objects := fun _ member => absurd member List.not_mem_nil
  current := fun _ impossible => nomatch impossible
  constructing := fun _ _ impossible => nomatch impossible
  reloading := fun _ _ _ impossible => nomatch impossible
  finished := fun _ _ impossible => nomatch impossible

section
variable {folding : Folding} {state : RefreshState}

theorem calls_move {call other : Nat} {stage later : RefreshStage}
    (found : (state.move call stage).calls other = some later) :
    (other = call ∧ later = stage) ∨ (other ≠ call ∧ state.calls other = some later) :=
  of_update_some found

theorem RefreshSound.move (sound : RefreshSound folding state) (call : Nat)
    {stage : RefreshStage} (constructs : ∀ entries, stage = .construct entries →
      entries.entries ≠ [])
    (reloads : ∀ object entries, stage = .reload object entries →
      entries.entries ≠ [] ∧ object < state.objects.length ∧ state.current ≠ none)
    (finishes : ((∃ n, stage = .returned n) ∨ ∃ error, stage = .raised error) →
      state.current ≠ none) : RefreshSound folding (state.move call stage) where
  objects := sound.objects
  current := sound.current
  constructing := by
    intro other entries found
    rcases calls_move found with ⟨-, is⟩ | ⟨-, old⟩
    · exact constructs entries is.symm
    · exact sound.constructing other entries old
  reloading := by
    intro other object entries found
    rcases calls_move found with ⟨-, is⟩ | ⟨-, old⟩
    · exact reloads object entries is.symm
    · exact sound.reloading other object entries old
  finished := by
    intro other later found isFinished
    rcases calls_move found with ⟨-, rfl⟩ | ⟨-, old⟩
    · exact finishes isFinished
    · exact sound.finished other later old isFinished

theorem RefreshSound.install (sound : RefreshSound folding state) (entries : StockList) :
    RefreshSound folding (state.install (.create folding entries)) where
  objects := by
    intro cache member
    rcases List.mem_append.mp member with old | new
    · exact sound.objects cache old
    · rw [List.mem_singleton.mp new]
      rfl
  current := by
    intro object is
    cases is
    simp [RefreshState.install]
  constructing := sound.constructing
  reloading := by
    intro call object entries found
    obtain ⟨nonempty, within, -⟩ := sound.reloading call object entries found
    refine ⟨nonempty, ?_, fun impossible => nomatch impossible⟩
    simp only [RefreshState.install, List.length_append, List.length_singleton]
    omega
  finished := fun _ _ _ _ impossible => nomatch impossible

theorem RefreshSound.rebind (sound : RefreshSound folding state) (object : Nat)
    (entries : StockList) :
    RefreshSound folding (state.rebind object (.create folding entries)) where
  objects := by
    intro cache member
    rcases List.mem_or_eq_of_mem_set member with old | new
    · exact sound.objects cache old
    · rw [new]
      rfl
  current := by simpa [RefreshState.rebind] using sound.current
  constructing := sound.constructing
  reloading := by simpa [RefreshState.rebind] using sound.reloading
  finished := sound.finished

theorem RefreshSound.step {call : Nat} {after : RefreshState}
    (sound : RefreshSound folding state) (step : RefreshStep folding state call after) :
    RefreshSound folding after := by
  cases step with
  | moved awaits constructs reloads =>
      refine sound.move call constructs ?_ ?_
      · intro object entries is
        obtain ⟨nonempty, current⟩ := reloads object entries is
        exact ⟨nonempty, sound.current object current, by simp [current]⟩
      · rintro (⟨n, is⟩ | ⟨error, is⟩)
        · exact absurd is (awaits n .unhandled).1
        · exact absurd is (awaits 0 error).2
  | raised error =>
      unfold RefreshState.raise
      split
      · exact (sound.install .empty).move call (fun _ is => nomatch is) (fun _ _ is => nomatch is)
          fun _ impossible => nomatch impossible
      · rename_i loaded
        exact sound.move call (fun _ is => nomatch is) (fun _ _ is => nomatch is) fun _ => loaded
  | @constructed entries at' =>
      exact (sound.install entries).move call (fun _ is => nomatch is)
        (fun _ _ is => nomatch is) fun _ impossible => nomatch impossible
  | @reloaded object entries at' =>
      refine (sound.rebind object entries).move call (fun _ is => nomatch is)
        (fun _ _ is => nomatch is) fun _ => ?_
      exact (sound.reloading call object entries at').2.2

/-! ## The list in use -/

/-- The list in use is kept, or one call has just returned with its list loaded. -/
def LoadedByReturn (folding : Folding) (before after : RefreshState) : Prop :=
  ∀ cache, before.inUse = some cache → after.inUse = some cache ∨
    ∃ call entries, (∀ n, before.calls call ≠ some (.returned n)) ∧
      after.calls call = some (.returned entries.entries.length) ∧
      (∀ other, other ≠ call → after.calls other = before.calls other) ∧
      entries.entries ≠ [] ∧ after.inUse = some (.create folding entries)

def StaysNonempty (before after : RefreshState) : Prop :=
  ∀ cache, before.inUse = some cache → cache.entries.entries ≠ [] →
    ∃ later, after.inUse = some later ∧ later.entries.entries ≠ []

theorem inUse_move (call : Nat) (stage : RefreshStage) :
    (state.move call stage).inUse = state.inUse := rfl

theorem inUse_install (cache : HKStockListCache) :
    (state.install cache).inUse = some cache := by
  simp [RefreshState.inUse, RefreshState.install]

theorem inUse_rebind {object : Nat} (within : object < state.objects.length)
    (cache : HKStockListCache) :
    (state.rebind object cache).inUse = some cache ∨
      (state.rebind object cache).inUse = state.inUse := by
  simp only [RefreshState.inUse, RefreshState.rebind]
  cases state.current with
  | none => exact Or.inr rfl
  | some registered =>
      simp only [Option.bind_some]
      by_cases same : object = registered
      · subst same
        exact Or.inl (List.getElem?_set_self within)
      · exact Or.inr (List.getElem?_set_ne same)

theorem RefreshSound.inUse (sound : RefreshSound folding state) {object : Nat}
    (registered : state.current = some object) :
    ∃ cache, state.inUse = some cache ∧ cache ∈ state.objects := by
  have within := sound.current object registered
  refine ⟨state.objects[object], ?_, List.getElem_mem within⟩
  simp [RefreshState.inUse, registered, within]

theorem loadedByReturn_step {call : Nat} {after : RefreshState}
    (sound : RefreshSound folding state) (step : RefreshStep folding state call after) :
    LoadedByReturn folding state after := by
  intro cache loaded
  have others (layer : RefreshState) (same : layer.calls = state.calls) (stage : RefreshStage)
      (other : Nat) (apart : other ≠ call) :
      (layer.move call stage).calls other = state.calls other := by
    simp [RefreshState.move, apart, same]
  have done (layer : RefreshState) (stage : RefreshStage) :
      (layer.move call stage).calls call = some stage := by
    simp [RefreshState.move]
  cases step with
  | moved => exact Or.inl loaded
  | raised error =>
      have registered : state.current ≠ none := by
        intro none
        simp [RefreshState.inUse, none] at loaded
      simp only [RefreshState.raise, registered, if_false, inUse_move]
      exact Or.inl loaded
  | @constructed entries at' =>
      refine Or.inr ⟨call, entries, ?_, done _ _, others _ rfl _,
        sound.constructing call entries at', inUse_install _⟩
      intro n is
      cases at'.symm.trans is
  | @reloaded object entries at' =>
      obtain ⟨nonempty, within, -⟩ := sound.reloading call object entries at'
      rw [inUse_move]
      rcases inUse_rebind within (.create folding entries) with written | kept
      · refine Or.inr ⟨call, entries, ?_, done _ _, others _ rfl _, nonempty, written⟩
        intro n is
        cases at'.symm.trans is
      · exact Or.inl (kept.trans loaded)

theorem LoadedByReturn.staysNonempty {after : RefreshState}
    (loads : LoadedByReturn folding state after) : StaysNonempty state after := by
  intro cache loaded nonempty
  rcases loads cache loaded with kept | ⟨_, entries, -, -, -, some', written⟩
  · exact ⟨cache, kept, nonempty⟩
  · exact ⟨_, written, some'⟩

end

theorem refreshSound_of_trace {folding : Folding}
    {allowed : RefreshState → RefreshAction → Prop} {past : List RefreshState}
    {state : RefreshState} (trace : (refreshMachine folding).Trace allowed past state) :
    RefreshSound folding state := by
  apply trace.invariant
  · intro start begins
    cases begins
    exact refreshSound_initial folding
  · intro before action after sound _ moved
    obtain ⟨call, step⟩ := refreshStep_step moved
    exact sound.step step

/-- The lookup returns, and only what the list holds. -/
def LooksUp (folding : Folding) (state : RefreshState) : Prop :=
  ∀ name, ∃ cache answer, state.inUse = some cache ∧
    lookupStock folding state.inUse name = .ok answer ∧
    ∀ stock, answer = some stock → ∃ code, (code, stock) ∈ cache.entries.entries

theorem looksUp_of_indexed {folding : Folding} {state : RefreshState}
    {cache : HKStockListCache} (loaded : state.inUse = some cache)
    (indexed : cache.nameIndex = buildNameIndex folding cache.entries) :
    LooksUp folding state := by
  intro name
  have created : cache = .create folding cache.entries := by
    obtain ⟨entries, nameIndex⟩ := cache
    exact congrArg (HKStockListCache.mk entries) indexed
  obtain ⟨decided, undecided⟩ := lookupStock_ok folding cache.entries name
  rw [← created] at decided undecided
  rw [loaded]
  by_cases only : ∃ code, ∀ other, Decides folding cache.entries name other ↔ other = code
  · obtain ⟨code, only⟩ := only
    obtain ⟨stock, member⟩ := ((only code).mpr rfl).listed
    refine ⟨cache, _, rfl, decided code stock only member, ?_⟩
    intro found is
    split at is
    · cases is
    · cases is
      exact ⟨code, member⟩
  · exact ⟨cache, none, rfl, undecided only, fun _ impossible => nomatch impossible⟩

/-- Through every interleaving of refreshes: the index in use is that of the list in
use, only a returning refresh changes a loaded list, a nonempty list stays nonempty,
and once a refresh has finished every lookup returns a stock of the list or none. -/
theorem refresh_all_or_nothing {folding : Folding} {past : List RefreshState}
    {state : RefreshState} (trace : (refreshMachine folding).Trace anyAction past state) :
    (∀ cache, state.inUse = some cache →
      cache.nameIndex = buildNameIndex folding cache.entries) ∧
    ((state :: past).IsChain fun later earlier => LoadedByReturn folding earlier later) ∧
    ((state :: past).Pairwise fun later earlier => StaysNonempty earlier later) ∧
    ∀ call stage, state.calls call = some stage →
      ((∃ n, stage = .returned n) ∨ ∃ error, stage = .raised error) →
      LooksUp folding state := by
  have sound := refreshSound_of_trace trace
  have stepwise (past : List RefreshState) (before : RefreshState) (action : RefreshAction)
      (after : RefreshState) (earlier : (refreshMachine folding).Trace anyAction past before)
      (_ : anyAction before action)
      (moved : (refreshMachine folding).step before action = some after) :
      LoadedByReturn folding before after := by
    obtain ⟨call, step⟩ := refreshStep_step moved
    exact loadedByReturn_step (refreshSound_of_trace earlier) step
  have indexed (cache : HKStockListCache) (loaded : state.inUse = some cache) :
      cache.nameIndex = buildNameIndex folding cache.entries := by
    obtain ⟨object, registered, -⟩ := Option.bind_eq_some_iff.mp loaded
    obtain ⟨other, same, member⟩ := sound.inUse registered
    cases same.symm.trans loaded
    exact sound.objects cache member
  refine ⟨indexed, trace.consecutive stepwise, ?_, ?_⟩
  · refine trace.pairwise ?_ ?_
    · intro first second third early late cache loaded nonempty
      obtain ⟨middle, present, still⟩ := early cache loaded nonempty
      exact late middle present still
    · intro past before action after earlier permitted moved
      exact (stepwise past before action after earlier permitted moved).staysNonempty
  · intro call stage found finished
    obtain ⟨object, registered⟩ :=
      Option.ne_none_iff_exists'.mp (sound.finished call stage found finished)
    obtain ⟨cache, loaded, -⟩ := sound.inUse registered
    exact looksUp_of_indexed loaded (indexed cache loaded)

/-! ## Two first refreshes overlap, a third fails, and a fourth reloads the list -/

/-- The responses of a call, up to its parse. -/
def fetchFiles (call : Nat) : List RefreshAction :=
  .call call :: List.replicate 3 (.resume call .response)

def otherStockList : StockList := ⟨[("00005", sampleStock "00005" "匯豐控股")], by decide⟩

def overlappingRefreshes : List RefreshAction :=
  fetchFiles 0 ++ fetchFiles 1 ++
  [.resume 0 (.parsed sampleStockList), .resume 1 (.parsed otherStockList),
    .resume 1 .built, .resume 0 .built, .call 2, .resume 2 .connectError, .resume 2 .woke,
    .resume 2 .httpError] ++
  fetchFiles 3 ++ [.resume 3 (.parsed otherStockList), .resume 3 .built]

theorem refresh_all_or_nothing_overlapping : ∃ past state cache,
    (refreshMachine sampleFolding).Trace anyAction past state ∧
    state.calls 0 = some (.returned sampleStockList.entries.length) ∧
    state.calls 3 = some (.returned otherStockList.entries.length) ∧
    state.inUse = some cache ∧ cache.entries.entries = otherStockList.entries ∧
    cache.nameIndex = buildNameIndex sampleFolding cache.entries ∧
    ((state :: past).IsChain fun later earlier =>
      LoadedByReturn sampleFolding earlier later) ∧
    ((state :: past).Pairwise fun later earlier => StaysNonempty earlier later) ∧
    LooksUp sampleFolding state := by
  obtain ⟨past, state, trace, seen⟩ :=
    Trace.of_run_view (refreshMachine sampleFolding) (fun _ _ => true)
      (fun state => (state.inUse.map fun cache => cache.entries.entries, state.calls 0,
        state.calls 2, state.calls 3))
      (some otherStockList.entries, some (.returned sampleStockList.entries.length),
        some (.raised .serviceUnavailableError), some (.returned otherStockList.entries.length))
      (fun _ _ _ _ _ => trivial) rfl overlappingRefreshes rfl
  simp only [Prod.mk.injEq] at seen
  obtain ⟨inUse, first, failed, reloaded⟩ := seen
  obtain ⟨cache, loaded, are⟩ := Option.map_eq_some_iff.mp inUse
  obtain ⟨indexed, kept, nonempty, looks⟩ := refresh_all_or_nothing trace
  exact ⟨past, state, cache, trace, first, reloaded, loaded, are, indexed cache loaded, kept,
    nonempty, looks 2 _ failed (Or.inr ⟨_, rfl⟩)⟩

end WealthFinder.Pipeline
