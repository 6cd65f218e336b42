import WealthFinder.Pipeline.EntityEventRepository
import WealthFinder.Pipeline.TransactionEvents

/-!
# One persist_entities

The turns of the loop as a derivation, and what becomes of them when the transaction
ends.
-/

set_option autoImplicit false

namespace WealthFinder.Pipeline.Persistent

open Database

theorem insertEntityEvent_eq (entity : EntityEvent) (stamp : Stamp) (table : EntityEventTable) :
    insertEntityEvent ((insertValues entity stamp).map Prod.snd) table =
      if newArticle : entity.article ∉ table.articles then
        if newId : stamp.newId ∉ table.ids then
          .ok (table.insert (entityRow entity stamp) newId newArticle, some stamp.newId)
        else .error entityEventIdTaken
      else .ok (table, none) := by
  simp only [insertEntityEvent, rowOf_insertValues]
  rfl

/-! ## The turns -/

/-- The loop from a turn on: the rows that its transaction sees and what the caller holds,
before and after, and the error that ends it early. -/
inductive Inserting (stamps : Nat → Stamp) (statement : Nat → Option Fault) :
    Nat → List Nat → EntityEventTable → Caller → Option Raised → EntityEventTable → Caller →
      Prop where
  | done {turn : Nat} {view : EntityEventTable} {caller : Caller} :
      Inserting stamps statement turn [] view caller none view caller
  | failed {turn entity : Nat} {entities : List Nat} {view : EntityEventTable} {caller : Caller}
      (fault : Fault) (fails : statement turn = some fault) :
      Inserting stamps statement turn (entity :: entities) view caller
        (some fault.raised.translated) view caller
  | taken {turn entity : Nat} {entities : List Nat} {view : EntityEventTable} {caller : Caller}
      (answered : statement turn = none)
      (newArticle : (caller.objects entity).article ∉ view.articles)
      (isTaken : (stamps turn).newId ∈ view.ids) :
      Inserting stamps statement turn (entity :: entities) view caller
        (some (Raised.driver entityEventIdTaken).translated) view caller
  | skipped {turn entity : Nat} {entities : List Nat} {view final : EntityEventTable}
      {caller last : Caller} {raised : Option Raised} (answered : statement turn = none)
      (present : (caller.objects entity).article ∈ view.articles)
      (rest : Inserting stamps statement (turn + 1) entities view caller raised final last) :
      Inserting stamps statement turn (entity :: entities) view caller raised final last
  | inserted {turn entity : Nat} {entities : List Nat} {view final : EntityEventTable}
      {caller last : Caller} {raised : Option Raised} (answered : statement turn = none)
      (newArticle : (caller.objects entity).article ∉ view.articles)
      (newId : (stamps turn).newId ∉ view.ids)
      (rest : Inserting stamps statement (turn + 1) entities
        (view.insert (entityRow (caller.objects entity) (stamps turn)) newId newArticle)
        (caller.stored entity (stamps turn)) raised final last) :
      Inserting stamps statement turn (entity :: entities) view caller raised final last

section Runs
variable {S T R σ : Type}

/-- A statement that the connection carries answers what the tables say. -/
theorem send_answered (env : Environment S T R) {world : World S T σ} {conn : Nat} {view : T}
    (session : world.sessions conn = .inTransaction view) (statement : S) :
    (∀ after row, env.exec statement view = .ok (after, row) →
      ∃ next, send env world conn (.statement statement) none = (.ok row, next) ∧
        next.sessions conn = .inTransaction after ∧ next.stored = world.stored) ∧
    ∀ error, env.exec statement view = .error error →
      ∃ next, send env world conn (.statement statement) none = (.error (.driver error), next) ∧
        next.stored = world.stored := by
  refine ⟨?_, ?_⟩
  · intro after row is
    refine ⟨((world.setSession conn (.inTransaction after)).log
      (.ran conn (.statement statement) none)), ?_, ?_, rfl⟩
    · simp only [send, serve, session, is, appliedUnder, if_true]
    · simp [World.log, World.setSession]
  · intro error is
    refine ⟨((world.setSession conn .aborted).log (.ran conn (.statement statement) none)), ?_,
      rfl⟩
    simp only [send, serve, session, is, appliedUnder, if_true]

theorem send_lost (env : Environment S T R) {world : World S T σ} {conn : Nat} {view : T}
    (session : world.sessions conn = .inTransaction view) (statement : S) (fault : Fault) :
    ∃ next, send env world conn (.statement statement) (some fault) = (.error fault.raised, next) ∧
      next.stored = world.stored := by
  have inside : InTransaction world conn := by
    rw [InTransaction, session]
    intro same
    cases same
  exact ⟨_, send_fault env world conn _ fault,
    (send_statement env inside statement (some fault)).1.stored⟩

end Runs

theorem runBlock_inserting {env : Environment Arguments EntityEventTable Uuid}
    (inserts : env.exec = insertEntityEvent) (stamps : Nat → Stamp) (conn : Nat)
    (entities : List Nat) (turn : Nat) (caller : Caller) {view : EntityEventTable}
    {world : Repository} (session : world.sessions conn = .inTransaction view) :
    ∃ raised left final,
      runBlock env conn turn (insertEach stamps turn entities caller) world =
        (resultOf raised, left) ∧
      Inserting stamps env.statement turn entities view caller raised final left.caller ∧
      left.stored = world.stored ∧
      (raised = none → left.sessions conn = .inTransaction final) := by
  induction entities generalizing turn caller view world with
  | nil => exact ⟨none, { world with caller := caller }.log (.blockEnded none), view, rfl, .done,
      rfl, fun _ => session⟩
  | cons entity entities ih =>
      -- The block ends with an error that its statement raises, translated or not.
      have ends : ∀ raised next, next.stored = world.stored →
          Inserting stamps env.statement turn (entity :: entities) view caller (some raised) view
            caller →
          translatedErrors (send env world conn
            (.statement ((insertValues (caller.objects entity) (stamps turn)).map Prod.snd))
            (env.statement turn)) = (.error raised, next) →
          ∃ raised left final,
            runBlock env conn turn (insertEach stamps turn (entity :: entities) caller) world =
              (resultOf raised, left) ∧
            Inserting stamps env.statement turn (entity :: entities) view caller raised final
              left.caller ∧
            left.stored = world.stored ∧
            (raised = none → left.sessions conn = .inTransaction final) := by
        intro raised next stored turns sent
        refine ⟨some raised, { next with caller := caller }.log (.blockEnded (some raised)), view,
          ?_, turns, stored, ?_⟩
        · rw [insertEach, runBlock, sent]
          rfl
        · intro impossible
          cases impossible
      cases faulty : env.statement turn with
      | some fault =>
          obtain ⟨next, sent, stored⟩ := send_lost env session
            ((insertValues (caller.objects entity) (stamps turn)).map Prod.snd) fault
          refine ends fault.raised.translated next stored (.failed fault faulty) ?_
          rw [faulty, sent]
          rfl
      | none =>
          have answer := insertEntityEvent_eq (caller.objects entity) (stamps turn) view
          obtain ⟨answers, refuses⟩ := send_answered env session
            ((insertValues (caller.objects entity) (stamps turn)).map Prod.snd)
          rw [inserts] at answers refuses
          by_cases newArticle : (caller.objects entity).article ∉ view.articles
          · rw [dif_pos newArticle] at answer
            by_cases newId : (stamps turn).newId ∉ view.ids
            · rw [dif_pos newId] at answer
              obtain ⟨next, sent, nextSession, stored⟩ := answers _ _ answer
              obtain ⟨raised, left, final, ran, turns, leftStored, leftSession⟩ :=
                ih (turn + 1) (caller.stored entity (stamps turn)) nextSession
              refine ⟨raised, left, final, ?_, .inserted faulty newArticle newId turns,
                leftStored.trans stored, leftSession⟩
              rw [insertEach, runBlock, faulty, sent]
              exact ran
            · rw [dif_neg newId] at answer
              obtain ⟨next, sent, stored⟩ := refuses _ answer
              refine ends _ next stored (.taken faulty newArticle (not_not.mp newId)) ?_
              rw [faulty, sent]
              rfl
          · rw [dif_neg newArticle] at answer
            obtain ⟨next, sent, nextSession, stored⟩ := answers _ _ answer
            obtain ⟨raised, left, final, ran, turns, leftStored, leftSession⟩ :=
              ih (turn + 1) caller nextSession
            refine ⟨raised, left, final, ?_, .skipped faulty (not_not.mp newArticle) turns,
              leftStored.trans stored, leftSession⟩
            rw [insertEach, runBlock, faulty, sent]
            exact ran

/-! ## The whole call -/

/-- How the call ends after its turns, and what is stored then. -/
inductive Ended (before final : EntityEventTable) (after : Repository) :
    Option Raised → Option Fault → Except Raised (List Nat) → Prop where
  | blockFailed {raised other : Raised} {commit : Option Fault} (stored : after.stored = before) :
      Ended before final after (some raised) commit (.error other)
  | committed (stored : after.stored = final) :
      Ended before final after none none (.ok after.caller.persisted)
  | commitFailed {fault : Fault} {other : Raised}
      (stored : after.stored = if fault.applied then final else before) :
      Ended before final after none (some fault) (.error other)

theorem runInTransaction_ended {env : Environment Arguments EntityEventTable Uuid} {conn : Nat}
    {block : Block Arguments Uuid Caller} {opened left : Repository} {raised : Option Raised}
    {before final : EntityEventTable}
    (ran : runBlock env conn 0 block opened = (resultOf raised, left))
    (stored : left.stored = before)
    (session : raised = none → left.sessions conn = .inTransaction final) :
    ∃ reply after, runInTransaction env conn block opened = (reply, after) ∧
      after.caller = left.caller ∧
      Ended before final after raised env.commit (reply.map fun _ => after.caller.persisted) := by
  cases raised with
  | some raised =>
      obtain ⟨other, after, result, kept, caller⟩ := runInTransaction_raised ran
      exact ⟨.error other, after, result, caller, .blockFailed (kept.trans stored)⟩
  | none =>
      cases fails : env.commit with
      | none =>
          obtain ⟨after, result, committed, caller⟩ :=
            runInTransaction_committed ran (session rfl) fails
          exact ⟨.ok (), after, result, caller, .committed committed⟩
      | some fault =>
          obtain ⟨other, after, result, lost, caller⟩ :=
            runInTransaction_lost ran (session rfl) fails
          refine ⟨.error other, after, result, caller, .commitFailed ?_⟩
          rw [lost, stored]

def Caller.cleared (caller : Caller) : Caller := { caller with persisted := [] }

theorem persistEntities_eq {maxRetry : Int} {faults : Faults} {stamps : Nat → Stamp}
    {entities : List Nat} {world after : Repository} {reply : Except Raised Unit}
    (ran : transaction maxRetry { faults with exec := insertEntityEvent }
      (insertEach stamps 0 entities world.caller.cleared)
      { world with caller := world.caller.cleared } = (reply, after)) :
    persistEntities maxRetry faults stamps entities world =
      (reply.map fun _ => after.caller.persisted, after) := by
  unfold Caller.cleared at ran
  unfold persistEntities
  dsimp only
  rw [ran]
  cases reply with
  | ok value => rfl
  | error raised => rfl

/-- The call raises because it opens no transaction, or its turns are run in one. -/
theorem persistEntities_cases (maxRetry : Int) (faults : Faults) (stamps : Nat → Stamp)
    (entities : List Nat) (world : Repository) :
    (¬ Opens faults maxRetry ∧ ∃ raised after,
      persistEntities maxRetry faults stamps entities world = (.error raised, after) ∧
      after.stored = world.stored ∧ after.caller = world.caller.cleared) ∨
    (Opens faults maxRetry ∧ ∃ raised final result after,
      persistEntities maxRetry faults stamps entities world = (result, after) ∧
      Inserting stamps faults.statement 0 entities world.stored world.caller.cleared raised final
        after.caller ∧
      Ended world.stored final after raised faults.commit result) := by
  obtain ⟨env, envIs⟩ : ∃ env : Environment Arguments EntityEventTable Uuid,
      env = { faults with exec := insertEntityEvent } := ⟨_, rfl⟩
  have inserts : env.exec = insertEntityEvent := by rw [envIs]
  have same : env.toFaults = faults := by rw [envIs]
  have call : ∀ reply after,
      transaction maxRetry env (insertEach stamps 0 entities world.caller.cleared)
        { world with caller := world.caller.cleared } = (reply, after) →
      persistEntities maxRetry faults stamps entities world =
        (reply.map fun _ => after.caller.persisted, after) := by
    intro reply after ran
    rw [envIs] at ran
    exact persistEntities_eq ran
  rcases dbWriteWithRetry_begin maxRetry env { world with caller := world.caller.cleared } with
    ⟨unopened, raised, after, begins, stored, caller⟩ |
    ⟨opens, conn, opened, begins, session, stored⟩
  · rw [same] at unopened
    refine Or.inl ⟨unopened, raised, after, call (.error raised) after ?_, stored, caller⟩
    rw [transaction, begins]
  · rw [same] at opens
    obtain ⟨raised, left, final, ran, turns, leftStored, leftSession⟩ :=
      runBlock_inserting inserts stamps conn entities 0 world.caller.cleared session
    obtain ⟨reply, after, result, caller, ended⟩ :=
      runInTransaction_ended ran (leftStored.trans stored) leftSession
    rw [← caller, same] at turns
    rw [same] at ended
    refine Or.inr ⟨opens, raised, final, _, after, call reply after ?_, turns, ended⟩
    rw [transaction, begins]
    exact result

/-! ## What the turns keep -/

section Turns
variable {stamps : Nat → Stamp} {statement : Nat → Option Fault} {turn : Nat}
  {entities : List Nat} {view final : EntityEventTable} {caller last : Caller}
  {raised : Option Raised}

theorem EntityEvent.assigned_assigned (entity : EntityEvent) (first second : Stamp) :
    (entity.assigned first.newId first.now).assigned second.newId second.now =
      entity.assigned second.newId second.now :=
  rfl

theorem Caller.stored_same (caller : Caller) (entity : Nat) (stamp : Stamp) :
    (caller.stored entity stamp).objects entity =
      (caller.objects entity).assigned stamp.newId stamp.now :=
  Function.update_self _ _ _

theorem Caller.stored_ne (caller : Caller) {entity other : Nat} (apart : other ≠ entity)
    (stamp : Stamp) : (caller.stored entity stamp).objects other = caller.objects other :=
  Function.update_of_ne apart _ _

/-- An object is left as it is, or is given an id and a time. -/
theorem Inserting.objects
    (turns : Inserting stamps statement turn entities view caller raised final last)
    (entity : Nat) :
    last.objects entity = caller.objects entity ∨
      ∃ number, last.objects entity =
        (caller.objects entity).assigned (stamps number).newId (stamps number).now := by
  induction turns with
  | done | failed _ _ | taken _ _ _ => exact Or.inl rfl
  | skipped _ _ _ ih => exact ih
  | @inserted turn own _ _ _ caller _ _ _ _ _ _ ih =>
      by_cases same : entity = own
      · subst same
        rw [Caller.stored_same] at ih
        rcases ih with kept | ⟨number, again⟩
        · exact Or.inr ⟨turn, kept⟩
        · exact Or.inr ⟨number, again⟩
      · rw [Caller.stored_ne caller same] at ih
        exact ih

theorem Inserting.assigned
    (turns : Inserting stamps statement turn entities view caller raised final last)
    {entity : Nat} {original : EntityEvent} {stamp : Stamp}
    (is : last.objects entity = original.assigned stamp.newId stamp.now) :
    last.objects entity = (caller.objects entity).assigned stamp.newId stamp.now := by
  have again : (last.objects entity).assigned stamp.newId stamp.now = last.objects entity := by
    rw [is, EntityEvent.assigned_assigned]
  rcases turns.objects entity with kept | ⟨number, given⟩
  · rw [kept] at again
    rw [again, kept]
  · rw [← again, given, EntityEvent.assigned_assigned]

/-- The object has a row of its own, which the table did not have before. -/
def HasRow (before view : EntityEventTable) (caller : Caller) (entity : Nat) : Prop :=
  ∃ original stamp, caller.objects entity = original.assigned stamp.newId stamp.now ∧
    stamp.newId ∉ before.ids ∧ entityRow original stamp ∈ view.rows

/-- Every object kept for the result has its row. -/
theorem Inserting.hasRow {before : EntityEventTable}
    (turns : Inserting stamps statement turn entities view caller raised final last)
    (grown : ∀ row ∈ before.rows, row ∈ view.rows)
    (held : ∀ entity ∈ caller.persisted, HasRow before view caller entity) :
    ∀ entity ∈ last.persisted, HasRow before final last entity := by
  induction turns with
  | done | failed _ _ | taken _ _ _ => exact held
  | skipped _ _ _ ih => exact ih grown held
  | @inserted turn own _ view _ caller _ _ _ newArticle newId _ ih =>
      refine ih ?_ ?_
      · intro row among
        exact List.mem_cons_of_mem _ (grown row among)
      · intro entity among
        by_cases same : entity = own
        · subst same
          refine ⟨caller.objects entity, stamps turn, Caller.stored_same _ _ _, ?_,
            List.mem_cons_self⟩
          intro old
          obtain ⟨row, inside, is⟩ := List.mem_map.mp old
          exact newId (List.mem_map.mpr ⟨row, grown row inside, is⟩)
        · rw [Caller.stored, List.mem_append, List.mem_singleton] at among
          obtain ⟨original, stamp, is, fresh, inside⟩ :=
            held entity (among.resolve_right same)
          refine ⟨original, stamp, ?_, fresh, List.mem_cons_of_mem _ inside⟩
          rw [Caller.stored_ne caller same, is]

end Turns

/-! ## Fetching what was stored -/

theorem fetchEntityEvent_of_row {table : EntityEventTable} {row : EntityEventRow}
    (inside : row ∈ table.rows) :
    fetchEntityEvent table row.entityEventId = (rowToEntityEvent row).map some := by
  unfold fetchEntityEvent
  cases found : table.rows.find? fun other => other.entityEventId = row.entityEventId with
  | none =>
      have absent := List.find?_eq_none.mp found row inside
      simp at absent
  | some other =>
      have is : other.entityEventId = row.entityEventId := by
        simpa using List.find?_some found
      have same : other = row :=
        List.inj_on_of_nodup_map table.primaryKey (List.mem_of_find?_eq_some found) inside is
      rw [same]

/-- The call keeps the object for its result, and the row of its id is a new one. -/
def StoresNewRow (before after : Repository) (entity : Nat) : Prop :=
  entity ∈ after.caller.persisted ∧ ∃ id, (after.caller.objects entity).entityEventId = some id ∧
    id ∉ before.stored.ids ∧ id ∈ after.stored.ids

theorem HasRow.storesNewRow {world after : Repository} {entity : Nat}
    (among : entity ∈ after.caller.persisted)
    (row : HasRow world.stored after.stored after.caller entity) :
    StoresNewRow world after entity := by
  obtain ⟨original, stamp, is, fresh, inside⟩ := row
  refine ⟨among, stamp.newId, ?_, fresh, List.mem_map.mpr ⟨_, inside, rfl⟩⟩
  rw [is]
  rfl

theorem persistEntities_returned {maxRetry : Int} {faults : Faults} {stamps : Nat → Stamp}
    {entities persisted : List Nat} {world after : Repository}
    (returned : persistEntities maxRetry faults stamps entities world = (.ok persisted, after))
    {entity : Nat} (among : entity ∈ persisted) : StoresNewRow world after entity := by
  rcases persistEntities_cases maxRetry faults stamps entities world with
    ⟨-, _, _, raises, -⟩ | ⟨-, raised, final, result, final', ran, turns, ended⟩
  · rw [returned] at raises
    cases raises
  · rw [returned] at ran
    cases ran
    generalize faults.commit = commit at ended
    cases ended with
    | committed stored =>
        refine HasRow.storesNewRow among ?_
        rw [stored]
        refine turns.hasRow (fun row inside => inside) ?_ entity among
        intro other none
        cases none

/-- Whatever the call's end, an object that it stored is fetched back, with what the caller
passed in every field but the id and the time that it was given. -/
theorem persistEntities_fetched {maxRetry : Int} {faults : Faults} {stamps : Nat → Stamp}
    {entities : List Nat} {world after : Repository} {result : Except Raised (List Nat)}
    (ran : persistEntities maxRetry faults stamps entities world = (result, after))
    {entity : Nat} (stores : StoresNewRow world after entity)
    (codes : (world.caller.objects entity).analysisOutcome.output.stockCode =
      (world.caller.objects entity).stock.stockCode) :
    ∃ id now, after.caller.objects entity = (world.caller.objects entity).assigned id now ∧
      fetchEntityEvent after.stored id = .ok (some (after.caller.objects entity)) := by
  obtain ⟨among, id, is, new, stored⟩ := stores
  rcases persistEntities_cases maxRetry faults stamps entities world with
    ⟨-, _, _, raises, unchanged, -⟩ | ⟨-, raised, final, other, final', turnsRan, turns, ended⟩
  · rw [ran] at raises
    cases raises
    rw [unchanged] at stored
    exact absurd stored new
  · rw [ran] at turnsRan
    cases turnsRan
    have rows : after.stored = final := by
      generalize faults.commit = commit at ended
      cases ended with
      | blockFailed unchanged =>
          rw [unchanged] at stored
          exact absurd stored new
      | committed committed => exact committed
      | @commitFailed fault _ lost =>
          cases applied : fault.applied with
          | true => rw [lost, applied, if_pos rfl]
          | false =>
              rw [lost, applied, if_neg (by decide)] at stored
              exact absurd stored new
    obtain ⟨original, stamp, object, -, inside⟩ :=
      turns.hasRow (fun row inside => inside) (fun other none => by cases none) entity among
    have assigned := turns.assigned object
    have same : (after.caller.objects entity).underStockCode = after.caller.objects entity := by
      refine EntityEvent.underStockCode_eq ?_
      rw [assigned]
      exact codes
    refine ⟨stamp.newId, stamp.now, assigned, ?_⟩
    have fetched := fetchEntityEvent_of_row inside
    rw [rowToEntityEvent_entityRow] at fetched
    rw [rows, ← same, object]
    exact fetched

/-! ## Concrete values for runs -/

/-- One article's event of the stock with this code, not stored yet. -/
def unstoredEntity (stockCode : String) : EntityEvent where
  sourceId := 1
  sourceUrl := "https://example.com/article"
  sourceName := "HKEX"
  publishedAt := some 0
  analysisOutcome := {
    version := "v1.0.0"
    output := {
      stockCode := stockCode
      eventTypePrimary := .earnings
      eventTypeSecondary := none
      sentimentLabel := .positive
      sentimentScore := 1 / 2
      headline := []
      entitySummary := [] } }
  stock := ⟨stockCode, "HKEX", [], []⟩
  entityEventId := none
  createdAt := none

def unstoredWorld : Repository where
  nextConn := 0
  stored := EntityEventTable.empty
  sessions := fun _ => .idle
  caller := ⟨fun entity => unstoredEntity (if entity = 0 then "00700" else "00005"), []⟩
  trace := []

def sampleStamps (turn : Nat) : Stamp := ⟨BitVec.ofNat 128 (turn + 1), 60000000⟩

def noFaults : Faults where
  acquire := fun _ => none
  begin := fun _ => none
  sleep := fun _ => none
  statement := fun _ => none
  commit := none
  rollback := none

end WealthFinder.Pipeline.Persistent
