import WealthFinder.Pipeline.PersistEntities

/-!
# What a failed persist_entities leaves behind

The turns of a batch are described by the batch itself: which entities are new, which
statements fail.
-/

set_option autoImplicit false

namespace WealthFinder.Pipeline.Persistent

open Database

/-! ## The batch -/

/-- The entity of a turn has no row yet, and no earlier turn inserts one for its article
and stock. -/
def IsNew (entities : List Nat) (world : Repository) (turn : Nat) : Prop :=
  ∃ entity, entities[turn]? = some entity ∧
    (world.caller.objects entity).article ∉ world.stored.articles ∧
    ∀ earlier < turn, ∀ other, entities[earlier]? = some other →
      (world.caller.objects other).article ≠ (world.caller.objects entity).article

/-- The id of a turn is in the table already, or an earlier turn's. -/
def IdTaken (stamps : Nat → Stamp) (entities : List Nat) (world : Repository) (turn : Nat) : Prop :=
  (stamps turn).newId ∈ world.stored.ids ∨
    ∃ earlier < turn, IsNew entities world earlier ∧
      (stamps earlier).newId = (stamps turn).newId

def Fails (faults : Faults) (stamps : Nat → Stamp) (entities : List Nat) (world : Repository)
    (turn : Nat) : Prop :=
  faults.statement turn ≠ none ∨
    (IsNew entities world turn ∧ IdTaken stamps entities world turn)

def NothingFails (faults : Faults) (stamps : Nat → Stamp) (entities : List Nat)
    (world : Repository) : Prop :=
  (∀ turn < entities.length, ¬ Fails faults stamps entities world turn) ∧ faults.commit = none

/-- Before the first failure no entity is inserted, or given an id and a time that are not
its own already. -/
def InsertsNothingNew (faults : Faults) (stamps : Nat → Stamp) (entities : List Nat)
    (world : Repository) : Prop :=
  ∀ turn entity, entities[turn]? = some entity →
    (∀ earlier ≤ turn, ¬ Fails faults stamps entities world earlier) →
    IsNew entities world turn →
    (world.caller.objects entity).entityEventId = some (stamps turn).newId ∧
      (world.caller.objects entity).createdAt = some (stamps turn).now

/-! ## How far the turns get -/

/-- The first turns are through, and none of them failed. -/
structure Processed (faults : Faults) (stamps : Nat → Stamp) (entities : List Nat)
    (world : Repository) (turn : Nat) (view : EntityEventTable) (caller : Caller) : Prop where
  within : turn ≤ entities.length
  articles : ∀ article, article ∈ view.articles ↔ article ∈ world.stored.articles ∨
    ∃ earlier < turn, ∃ other, entities[earlier]? = some other ∧
      (world.caller.objects other).article = article
  ids : ∀ id, id ∈ view.ids ↔ id ∈ world.stored.ids ∨
    ∃ earlier < turn, IsNew entities world earlier ∧ (stamps earlier).newId = id
  answered : ∀ earlier < turn, ¬ Fails faults stamps entities world earlier
  objects : ∀ entity,
    (caller.objects entity = world.caller.objects entity ∧
      ∀ earlier < turn, entities[earlier]? = some entity → ¬ IsNew entities world earlier) ∨
    ∃ earlier < turn, entities[earlier]? = some entity ∧ IsNew entities world earlier ∧
      caller.objects entity = (world.caller.objects entity).assigned (stamps earlier).newId
        (stamps earlier).now

section Batch
variable {faults : Faults} {stamps : Nat → Stamp} {entities : List Nat} {world : Repository}
  {turn entity : Nat} {view : EntityEventTable} {caller : Caller}

theorem processed_start :
    Processed faults stamps entities world 0 world.stored world.caller.cleared where
  within := Nat.zero_le _
  articles := by simp
  ids := by simp
  answered := by
    intro earlier before
    omega
  objects := by
    intro entity
    refine Or.inl ⟨rfl, ?_⟩
    intro earlier before
    omega

theorem Processed.article_eq (processed : Processed faults stamps entities world turn view caller)
    (entity : Nat) :
    (caller.objects entity).article = (world.caller.objects entity).article := by
  rcases processed.objects entity with ⟨kept, -⟩ | ⟨_, _, _, _, given⟩
  · rw [kept]
  · rw [given]
    rfl

/-- The view of the transaction says whether the entity of the turn is new. -/
theorem Processed.isNew_iff (processed : Processed faults stamps entities world turn view caller)
    (at' : entities[turn]? = some entity) :
    IsNew entities world turn ↔ (caller.objects entity).article ∉ view.articles := by
  rw [processed.article_eq, processed.articles, not_or]
  constructor
  · intro new
    obtain ⟨other, is, unstored, first⟩ := new
    rw [at'] at is
    cases is
    refine ⟨unstored, ?_⟩
    intro repeated
    obtain ⟨earlier, before, other, is, same⟩ := repeated
    exact first earlier before other is same
  · intro new
    refine ⟨entity, at', new.1, ?_⟩
    intro earlier before other is same
    exact new.2 ⟨earlier, before, other, is, same⟩

theorem Processed.idTaken_iff
    (processed : Processed faults stamps entities world turn view caller) :
    IdTaken stamps entities world turn ↔ (stamps turn).newId ∈ view.ids :=
  (processed.ids _).symm

theorem Processed.skip (processed : Processed faults stamps entities world turn view caller)
    (at' : entities[turn]? = some entity) (answered : faults.statement turn = none)
    (present : (caller.objects entity).article ∈ view.articles) :
    Processed faults stamps entities world (turn + 1) view caller := by
  have old : ¬ IsNew entities world turn := by
    rw [processed.isNew_iff at']
    exact not_not.mpr present
  refine ⟨(List.getElem?_eq_some_iff.mp at').1, ?_, ?_, ?_, ?_⟩
  · intro article
    rw [processed.article_eq] at present
    rw [Nat.exists_lt_succ_right, ← or_assoc, ← processed.articles]
    constructor
    · intro among
      exact Or.inl among
    · intro either
      rcases either with among | ⟨other, is, same⟩
      · exact among
      · rw [at'] at is
        cases is
        rw [← same]
        exact present
  · intro id
    rw [Nat.exists_lt_succ_right, ← or_assoc, ← processed.ids]
    constructor
    · intro among
      exact Or.inl among
    · intro either
      rcases either with among | ⟨new, -⟩
      · exact among
      · exact absurd new old
  · rw [Nat.forall_lt_succ_right]
    refine ⟨processed.answered, ?_⟩
    intro fails
    rcases fails with faulty | ⟨new, -⟩
    · exact faulty answered
    · exact old new
  · intro other
    rcases processed.objects other with ⟨kept, none⟩ | ⟨earlier, before, is, new, given⟩
    · refine Or.inl ⟨kept, ?_⟩
      rw [Nat.forall_lt_succ_right]
      exact ⟨none, fun _ => old⟩
    · exact Or.inr ⟨earlier, by omega, is, new, given⟩

theorem Processed.insert (processed : Processed faults stamps entities world turn view caller)
    (at' : entities[turn]? = some entity) (answered : faults.statement turn = none)
    (newArticle : (entityRow (caller.objects entity) (stamps turn)).article ∉ view.articles)
    (newId : (entityRow (caller.objects entity) (stamps turn)).entityEventId ∉ view.ids) :
    Processed faults stamps entities world (turn + 1)
      (view.insert (entityRow (caller.objects entity) (stamps turn)) newId newArticle)
      (caller.stored entity (stamps turn)) := by
  have new : IsNew entities world turn := (processed.isNew_iff at').mpr newArticle
  have article : (entityRow (caller.objects entity) (stamps turn)).article =
      (world.caller.objects entity).article :=
    processed.article_eq entity
  refine ⟨(List.getElem?_eq_some_iff.mp at').1, ?_, ?_, ?_, ?_⟩
  · intro other
    rw [EntityEventTable.articles_insert, Nat.exists_lt_succ_right, ← or_assoc,
      ← processed.articles, List.mem_cons, article]
    constructor
    · intro either
      rcases either with same | among
      · exact Or.inr ⟨entity, at', same.symm⟩
      · exact Or.inl among
    · intro either
      rcases either with among | ⟨own, is, same⟩
      · exact Or.inr among
      · rw [at'] at is
        cases is
        exact Or.inl same.symm
  · intro id
    rw [EntityEventTable.ids_insert, Nat.exists_lt_succ_right, ← or_assoc, ← processed.ids,
      List.mem_cons]
    constructor
    · intro either
      rcases either with same | among
      · exact Or.inr ⟨new, same.symm⟩
      · exact Or.inl among
    · intro either
      rcases either with among | ⟨-, same⟩
      · exact Or.inr among
      · exact Or.inl same.symm
  · rw [Nat.forall_lt_succ_right]
    refine ⟨processed.answered, ?_⟩
    intro fails
    rcases fails with faulty | ⟨-, taken⟩
    · exact faulty answered
    · exact newId (processed.idTaken_iff.mp taken)
  · intro other
    by_cases same : other = entity
    · subst same
      refine Or.inr ⟨turn, by omega, at', new, ?_⟩
      rw [Caller.stored_same]
      rcases processed.objects other with ⟨kept, -⟩ | ⟨_, _, _, _, given⟩
      · rw [kept]
      · rw [given, EntityEvent.assigned_assigned]
    · rw [Caller.stored_ne caller same]
      rcases processed.objects other with ⟨kept, none⟩ | ⟨earlier, before, is, earlierNew, given⟩
      · refine Or.inl ⟨kept, ?_⟩
        rw [Nat.forall_lt_succ_right]
        refine ⟨none, ?_⟩
        intro is
        rw [at'] at is
        cases is
        exact absurd rfl same
      · exact Or.inr ⟨earlier, by omega, is, earlierNew, given⟩

/-- The turns get through the batch, or up to the first one that fails. -/
theorem Inserting.stops {rest : List Nat} {final : EntityEventTable} {last : Caller}
    {raised : Option Raised}
    (turns : Inserting stamps faults.statement turn rest view caller raised final last)
    (suffix : entities.drop turn = rest)
    (processed : Processed faults stamps entities world turn view caller) :
    ∃ reached, Processed faults stamps entities world reached final last ∧
      ((raised = none ∧ reached = entities.length) ∨
        ((∃ error, raised = some error) ∧ reached < entities.length ∧
          Fails faults stamps entities world reached)) := by
  have place : ∀ {turn entity : Nat} {rest : List Nat}, entities.drop turn = entity :: rest →
      entities[turn]? = some entity ∧ entities.drop (turn + 1) = rest := by
    intro turn entity rest is
    refine ⟨?_, ?_⟩
    · rw [← List.head?_drop, is]
      rfl
    · rw [← List.drop_drop, is]
      rfl
  induction turns with
  | @done turn view caller =>
      have through := List.drop_eq_nil_iff.mp suffix
      have within := processed.within
      exact ⟨turn, processed, Or.inl ⟨rfl, by omega⟩⟩
  | @failed turn entity rest view caller fault fails =>
      have at' := (place suffix).1
      refine ⟨turn, processed, Or.inr ⟨⟨_, rfl⟩, (List.getElem?_eq_some_iff.mp at').1, ?_⟩⟩
      left
      rw [fails]
      simp
  | @taken turn entity rest view caller answered newArticle isTaken =>
      have at' := (place suffix).1
      refine ⟨turn, processed, Or.inr ⟨⟨_, rfl⟩, (List.getElem?_eq_some_iff.mp at').1, ?_⟩⟩
      exact Or.inr ⟨(processed.isNew_iff at').mpr newArticle, processed.idTaken_iff.mpr isTaken⟩
  | skipped answered present rest ih =>
      obtain ⟨at', later⟩ := place suffix
      exact ih later (processed.skip at' answered present)
  | inserted answered newArticle newId rest ih =>
      obtain ⟨at', later⟩ := place suffix
      exact ih later (processed.insert at' answered newArticle newId)

theorem Processed.given (processed : Processed faults stamps entities world turn view caller)
    {own : Nat} (before : own < turn) (at' : entities[own]? = some entity)
    (new : IsNew entities world own) :
    caller.objects entity = (world.caller.objects entity).assigned (stamps own).newId
      (stamps own).now := by
  rcases processed.objects entity with ⟨-, none⟩ | ⟨other, otherBefore, otherAt, otherNew, given⟩
  · exact absurd new (none own before at')
  · -- An object is new at one turn only.
    have first : ∀ early late, entities[early]? = some entity → entities[late]? = some entity →
        IsNew entities world late → ¬ early < late := by
      intro early late atEarly atLate newLate earlier
      obtain ⟨same, is, -, apart⟩ := newLate
      rw [atLate] at is
      cases is
      exact apart early earlier entity atEarly rfl
    have notBefore := first other own otherAt at' new
    have notAfter := first own other at' otherAt otherNew
    have same : other = own := by omega
    rw [← same]
    exact given

/-! ## What is left behind -/

/-- The object is as persisted as it was. -/
def SameIdentity (before after : EntityEvent) : Prop :=
  after.entityEventId = before.entityEventId ∧ after.createdAt = before.createdAt ∧
    after.isPersistentEvent = before.isPersistentEvent

theorem sameIdentity_assigned {before : EntityEvent} {stamp : Stamp} :
    SameIdentity before (before.assigned stamp.newId stamp.now) ↔
      before.entityEventId = some stamp.newId ∧ before.createdAt = some stamp.now := by
  constructor
  · intro same
    exact ⟨same.1.symm, same.2.1.symm⟩
  · intro held
    refine ⟨held.1.symm, held.2.symm, ?_⟩
    unfold EntityEvent.isPersistentEvent
    rw [held.1, held.2]
    rfl

/-- Where the turns end decides what becomes of the objects. -/
theorem Processed.sameIdentity_iff
    (processed : Processed faults stamps entities world turn view caller)
    (stopped : turn = entities.length ∨ Fails faults stamps entities world turn) :
    (∀ entity ∈ entities, SameIdentity (world.caller.objects entity) (caller.objects entity)) ↔
      InsertsNothingNew faults stamps entities world := by
  constructor
  · intro same own entity at' answered new
    have reached : own < turn := by
      rcases stopped with through | fails
      · rw [through]
        exact (List.getElem?_eq_some_iff.mp at').1
      · by_contra later
        exact answered turn (by omega) fails
    have identity := same entity (List.mem_of_getElem? at')
    rw [processed.given reached at' new] at identity
    exact sameIdentity_assigned.mp identity
  · intro nothingNew entity _
    rcases processed.objects entity with ⟨kept, -⟩ | ⟨own, before, at', new, given⟩
    · rw [kept]
      exact ⟨rfl, rfl, rfl⟩
    · rw [given]
      refine sameIdentity_assigned.mpr (nothingNew own entity at' ?_ new)
      intro earlier upTo
      exact processed.answered earlier (by omega)

end Batch

/-- The COMMIT is sent and applied, but its reply is lost. -/
def CommitReplyLost (faults : Faults) (stamps : Nat → Stamp) (entities : List Nat)
    (world : Repository) : Prop :=
  (∀ turn < entities.length, ¬ Fails faults stamps entities world turn) ∧
    ∃ fault, faults.commit = some fault ∧ fault.applied = true

/-- If the call raises, no row is stored and no object is made a persisted one. -/
def LeavesNoTrace (faults : Faults) (stamps : Nat → Stamp) (entities : List Nat)
    (world : Repository) (run : Except Raised (List Nat) × Repository) : Prop :=
  ∀ raised, run.1 = .error raised →
    (run.2.stored = world.stored ∨ CommitReplyLost faults stamps entities world) ∧
    ∀ entity ∈ entities,
      SameIdentity (world.caller.objects entity) (run.2.caller.objects entity)

section Calls
variable {maxRetry : Int} {faults : Faults} {stamps : Nat → Stamp} {entities : List Nat}
  {world : Repository}

/-- A call that is opened and not wholly successful raises, and its rows are gone. -/
theorem leavesNoTrace_of_opens (opens : Opens faults maxRetry) :
    NothingFails faults stamps entities world ∨
      (LeavesNoTrace faults stamps entities world
          (persistEntities maxRetry faults stamps entities world) ↔
        InsertsNothingNew faults stamps entities world) := by
  rcases persistEntities_cases maxRetry faults stamps entities world with
    ⟨unopened, -⟩ | ⟨-, raised, final, result, after, ran, turns, ended⟩
  · exact absurd opens unopened
  · obtain ⟨reached, processed, stop⟩ := turns.stops rfl processed_start
    have stopped : reached = entities.length ∨ Fails faults stamps entities world reached := by
      rcases stop with ⟨-, through⟩ | ⟨-, -, fails⟩
      · exact Or.inl through
      · exact Or.inr fails
    have identity := processed.sameIdentity_iff stopped
    rw [ran]
    generalize commits : faults.commit = commit at ended
    cases ended with
    | committed stored =>
        left
        rcases stop with ⟨-, through⟩ | ⟨raises, -⟩
        · refine ⟨?_, commits⟩
          rw [← through]
          exact processed.answered
        · obtain ⟨_, impossible⟩ := raises
          cases impossible
    | @blockFailed _ other _ stored =>
        right
        rw [← identity]
        constructor
        · intro noTrace
          exact (noTrace other rfl).2
        · intro same _ _
          exact ⟨Or.inl stored, same⟩
    | @commitFailed fault other stored =>
        right
        rw [← identity]
        constructor
        · intro noTrace
          exact (noTrace other rfl).2
        · intro same _ _
          refine ⟨?_, same⟩
          cases applied : fault.applied with
          | false =>
              left
              rw [stored, applied, if_neg (by decide)]
          | true =>
              right
              rcases stop with ⟨-, through⟩ | ⟨raises, -⟩
              · refine ⟨?_, fault, commits, applied⟩
                rw [← through]
                exact processed.answered
              · obtain ⟨_, impossible⟩ := raises
                cases impossible

theorem leavesNoTrace_of_unopened (unopened : ¬ Opens faults maxRetry) :
    LeavesNoTrace faults stamps entities world
      (persistEntities maxRetry faults stamps entities world) := by
  rcases persistEntities_cases maxRetry faults stamps entities world with
    ⟨-, raised, after, ran, stored, caller⟩ | ⟨opens, -⟩
  · rw [ran]
    intro _ _
    refine ⟨Or.inl stored, ?_⟩
    intro entity _
    rw [caller]
    exact ⟨rfl, rfl, rfl⟩
  · exact absurd opens unopened

theorem leavesNoTrace_of_nothingFails (opens : Opens faults maxRetry)
    (nothingFails : NothingFails faults stamps entities world) :
    LeavesNoTrace faults stamps entities world
      (persistEntities maxRetry faults stamps entities world) := by
  rcases persistEntities_cases maxRetry faults stamps entities world with
    ⟨unopened, -⟩ | ⟨-, raised, final, result, after, ran, turns, ended⟩
  · exact absurd opens unopened
  · obtain ⟨reached, processed, stop⟩ := turns.stops rfl processed_start
    rw [ran]
    rw [nothingFails.2] at ended
    cases ended with
    | committed stored =>
        intro _ impossible
        cases impossible
    | blockFailed stored =>
        rcases stop with ⟨impossible, -⟩ | ⟨-, within, fails⟩
        · cases impossible
        · exact absurd fails (nothingFails.1 reached within)

end Calls

/-- A failed call leaves no trace exactly if it opens no transaction, nothing of it fails,
or it inserts nothing before its first failure. -/
theorem leavesNoTrace_iff (maxRetry : Int) (faults : Faults) (stamps : Nat → Stamp)
    (entities : List Nat) (world : Repository) :
    LeavesNoTrace faults stamps entities world
        (persistEntities maxRetry faults stamps entities world) ↔
      ¬ Opens faults maxRetry ∨ NothingFails faults stamps entities world ∨
        InsertsNothingNew faults stamps entities world := by
  by_cases opens : Opens faults maxRetry
  · rcases leavesNoTrace_of_opens opens with nothingFails | exactly
    · have noTrace := leavesNoTrace_of_nothingFails opens nothingFails
      exact ⟨fun _ => Or.inr (Or.inl nothingFails), fun _ => noTrace⟩
    · constructor
      · intro noTrace
        exact Or.inr (Or.inr (exactly.mp noTrace))
      · intro condition
        rcases condition with unopened | nothingFails | nothingNew
        · exact absurd opens unopened
        · exact leavesNoTrace_of_nothingFails opens nothingFails
        · exact exactly.mpr nothingNew
  · exact ⟨fun _ => Or.inl opens, fun _ => leavesNoTrace_of_unopened opens⟩

/-! ## A batch whose second INSERT fails -/

def lostConnection : Fault where
  raised := .driver ⟨.postgresConnection, none, "ConnectionDoesNotExistError()"⟩
  applied := false

def secondInsertFails : Faults :=
  { noFaults with statement := fun turn => if turn = 1 then some lostConnection else none }

/-- The first entity keeps the id of a row that was rolled back. -/
theorem rolledBack_entity_looks_persisted :
    ¬ LeavesNoTrace secondInsertFails sampleStamps [0, 1] unstoredWorld
      (persistEntities 3 secondInsertFails sampleStamps [0, 1] unstoredWorld) := by
  have opens : Opens secondInsertFails 3 := by
    refine ⟨1, Nat.le_refl 1, rfl, ?_⟩
    intro earlier after before
    omega
  have either : NothingFails secondInsertFails sampleStamps [0, 1] unstoredWorld ∨ _ :=
    leavesNoTrace_of_opens opens
  intro noTrace
  rcases either with nothingFails | exactly
  · refine nothingFails.1 1 (by decide) (Or.inl ?_)
    simp [secondInsertFails]
  · have new : IsNew [0, 1] unstoredWorld 0 := by
      refine ⟨0, rfl, ?_, ?_⟩
      · simp [unstoredWorld, EntityEventTable.empty, EntityEventTable.articles]
      · intro earlier before
        omega
    have answered : ∀ earlier ≤ 0, ¬ Fails secondInsertFails sampleStamps [0, 1] unstoredWorld
        earlier := by
      intro earlier first fails
      have zero : earlier = 0 := by omega
      subst zero
      rcases fails with faulty | ⟨-, inTable | ⟨other, before, -⟩⟩
      · simp [secondInsertFails] at faulty
      · simp [unstoredWorld, EntityEventTable.empty, EntityEventTable.ids] at inTable
      · omega
    have held := (exactly.mp noTrace 0 0 rfl answered new).1
    cases held

end WealthFinder.Pipeline.Persistent
