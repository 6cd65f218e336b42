import Mathlib.Tactic.Common
import WealthFinder.Pipeline.DatabaseClient

/-!
# The events of one `transaction()`

The trace of a call is told by derivations: failed begin attempts, an open transaction,
the statements of the block, and one of three ways out.
-/

set_option autoImplicit false

namespace WealthFinder.Pipeline.Database

variable {S T R σ : Type}

/-! ## The events of a call -/

/-- A begin attempt that fails on the next connection, and the connections after it. -/
inductive FailedBegin (conn : Nat) : List (DbEvent S) → Raised → Nat → Prop where
  | refused (raised : Raised) : FailedBegin conn [.acquireFailed raised] raised conn
  | lost (fault : Fault) :
      FailedBegin conn [.acquired conn, .ran conn .begin (some fault), .released conn]
        fault.raised (conn + 1)

/-- The begin attempts of a call, of which so many are allowed. -/
inductive Begun : Int → Nat → List (DbEvent S) → Except Raised Nat → Nat → Prop where
  | opened {limit : Int} {conn : Nat} (room : 1 ≤ limit) :
      Begun limit conn [.acquired conn, .ran conn .begin none] (.ok conn) (conn + 1)
  | failed {limit : Int} {conn next : Nat} {events : List (DbEvent S)} {raised : Raised}
      (room : 1 ≤ limit) (last : FailedBegin conn events raised next) :
      Begun limit conn events (.error raised) next
  | cancelled {limit : Int} {conn next : Nat} {events : List (DbEvent S)} {raised : Raised}
      (room : 1 ≤ limit) (last : FailedBegin conn events raised next)
      (transient : raised.isTransient = true) (other : Raised) :
      Begun limit conn (events ++ [.slept (some other)]) (.error other) next
  | again {limit : Int} {conn next final : Nat} {events rest : List (DbEvent S)}
      {raised : Raised} {result : Except Raised Nat} (failed : FailedBegin conn events raised next)
      (transient : raised.isTransient = true) (later : Begun (limit - 1) next rest result final) :
      Begun limit conn (events ++ .slept none :: rest) result final

/-- The statements of a block, and how it ends. -/
def BlockRan (conn : Nat) (events : List (DbEvent S)) (raised : Option Raised) : Prop :=
  ∃ statements, events = statements ++ [.blockEnded raised] ∧
    ∀ event ∈ statements, ∃ statement fault, event = .ran conn (.statement statement) fault

/-- The events from the end of the block on, up to the release. -/
inductive Closed (conn : Nat) : Option Raised → List (DbEvent S) → Prop where
  | committed : Closed conn none [.ran conn .commit none]
  | commitFailed (fault : Fault) (rollback : Option Fault) :
      Closed conn none [.ran conn .commit (some fault), .ran conn .rollback rollback]
  | blockFailed (raised : Raised) (rollback : Option Fault) :
      Closed conn (some raised) [.ran conn .rollback rollback]

/-! ## Each function's events -/

/-- A call adds these events and changes neither the tables nor what the block holds. -/
structure Adds (world after : World S T σ) (events : List (DbEvent S)) : Prop where
  trace : after.trace = world.trace ++ events
  stored : after.stored = world.stored
  caller : after.caller = world.caller

theorem Adds.then {world middle after : World S T σ} {events later : List (DbEvent S)}
    (first : Adds world middle events) (second : Adds middle after later) :
    Adds world after (events ++ later) := by
  refine ⟨?_, ?_, ?_⟩
  · rw [second.trace, first.trace, List.append_assoc]
  · rw [second.stored, first.stored]
  · rw [second.caller, first.caller]

theorem adds_log (world : World S T σ) (event : DbEvent S) :
    Adds world (world.log event) [event] :=
  ⟨rfl, rfl, rfl⟩

theorem adds_release (conn : Nat) (world : World S T σ) :
    Adds world (release conn world) [.released conn] :=
  ⟨rfl, rfl, rfl⟩

/-- Whether the connection is in a transaction, be it aborted. -/
def InTransaction (world : World S T σ) (conn : Nat) : Prop :=
  world.sessions conn ≠ .idle

/-- What the server does to anything but the tables. -/
theorem serve_frame (env : Environment S T R) (world : World S T σ) (conn : Nat) (sql : Sql S) :
    (serve env world conn sql).2.trace = world.trace ∧
      (serve env world conn sql).2.nextConn = world.nextConn ∧
      (serve env world conn sql).2.caller = world.caller := by
  cases sql with
  | begin | rollback => exact ⟨rfl, rfl, rfl⟩
  | commit =>
      unfold serve
      cases world.sessions conn <;> exact ⟨rfl, rfl, rfl⟩
  | statement statement =>
      unfold serve
      cases world.sessions conn with
      | aborted => exact ⟨rfl, rfl, rfl⟩
      | idle =>
          simp only
          cases env.exec statement world.stored <;> exact ⟨rfl, rfl, rfl⟩
      | inTransaction view =>
          simp only
          cases env.exec statement view <;> exact ⟨rfl, rfl, rfl⟩

theorem send_frame (env : Environment S T R) (world : World S T σ) (conn : Nat) (sql : Sql S)
    (fault : Option Fault) :
    (send env world conn sql fault).2.trace = world.trace ++ [.ran conn sql fault] ∧
      (send env world conn sql fault).2.nextConn = world.nextConn ∧
      (send env world conn sql fault).2.caller = world.caller := by
  obtain ⟨trace, nextConn, caller⟩ := serve_frame env world conn sql
  unfold send World.log
  cases appliedUnder fault with
  | false => exact ⟨rfl, rfl, rfl⟩
  | true => exact ⟨congrArg (· ++ _) trace, nextConn, caller⟩

theorem send_fault (env : Environment S T R) (world : World S T σ) (conn : Nat) (sql : Sql S)
    (fault : Fault) :
    send env world conn sql (some fault) =
      (.error fault.raised, (send env world conn sql (some fault)).2) :=
  rfl

def Sql.isControl : Sql S → Bool
  | .begin | .commit | .rollback => true
  | .statement _ => false

/-- These fail only by their fault. -/
theorem send_control (env : Environment S T R) (world : World S T σ) (conn : Nat) {sql : Sql S}
    (control : sql.isControl = true) :
    send env world conn sql none = (.ok none, (send env world conn sql none).2) := by
  cases sql with
  | begin | rollback => rfl
  | statement statement => cases control
  | commit =>
      simp only [send, serve]
      cases world.sessions conn <;> rfl

theorem adds_begin (env : Environment S T R) (world : World S T σ) (conn : Nat)
    (fault : Option Fault) :
    Adds world (send env world conn .begin fault).2 [.ran conn .begin fault] := by
  obtain ⟨trace, -, caller⟩ := send_frame env world conn .begin fault
  refine ⟨trace, ?_, caller⟩
  unfold send World.log
  cases appliedUnder fault <;> rfl

theorem adds_rollback (env : Environment S T R) (world : World S T σ) (conn : Nat)
    (fault : Option Fault) :
    Adds world (send env world conn .rollback fault).2 [.ran conn .rollback fault] := by
  obtain ⟨trace, -, caller⟩ := send_frame env world conn .rollback fault
  refine ⟨trace, ?_, caller⟩
  unfold send World.log
  cases appliedUnder fault <;> rfl

/-- A statement of an open transaction neither stores anything nor ends it. -/
theorem serve_statement (env : Environment S T R) {world : World S T σ} {conn : Nat}
    (inside : InTransaction world conn) (statement : S) :
    (serve env world conn (.statement statement)).2.stored = world.stored ∧
      InTransaction (serve env world conn (.statement statement)).2 conn := by
  unfold serve InTransaction
  unfold InTransaction at inside
  cases session : world.sessions conn with
  | idle => exact absurd session inside
  | aborted => simp [session]
  | inTransaction view =>
      simp only
      cases env.exec statement view <;> simp [World.setSession]

theorem send_statement (env : Environment S T R) {world : World S T σ} {conn : Nat}
    (inside : InTransaction world conn) (statement : S) (fault : Option Fault) :
    Adds world (send env world conn (.statement statement) fault).2
        [.ran conn (.statement statement) fault] ∧
      InTransaction (send env world conn (.statement statement) fault).2 conn := by
  obtain ⟨trace, -, caller⟩ := send_frame env world conn (.statement statement) fault
  obtain ⟨stored, still⟩ := serve_statement env inside statement
  refine ⟨⟨trace, ?_, caller⟩, ?_⟩
  · unfold send World.log
    cases appliedUnder fault with
    | false => rfl
    | true => exact stored
  · unfold send World.log InTransaction
    cases appliedUnder fault with
    | false => exact inside
    | true => exact still

/-- One begin attempt fails, or opens a transaction that sees the tables. -/
theorem begin_cases (env : Environment S T R) (attempt : Nat) (world : World S T σ) :
    (∃ raised after events, begin env attempt world = (.error raised, after) ∧
      FailedBegin world.nextConn events raised after.nextConn ∧ Adds world after events) ∨
    (∃ after, begin env attempt world = (.ok world.nextConn, after) ∧
      after.nextConn = world.nextConn + 1 ∧
      Adds world after [.acquired world.nextConn, .ran world.nextConn .begin none] ∧
      after.sessions world.nextConn = .inTransaction world.stored) := by
  cases refused : env.acquire attempt with
  | some raised =>
      refine Or.inl ⟨raised, world.log (.acquireFailed raised), _, ?_, .refused raised,
        adds_log _ _⟩
      rw [begin, acquire, refused]
  | none =>
      obtain ⟨held, is⟩ : ∃ held : World S T σ, held =
          ({ world with nextConn := world.nextConn + 1 }.setSession world.nextConn .idle).log
            (.acquired world.nextConn) :=
        ⟨_, rfl⟩
      have acquires : acquire env attempt world = (.ok world.nextConn, held) := by
        rw [acquire, refused, is]
      have addsHeld : Adds world held [.acquired world.nextConn] := by
        rw [is]
        exact ⟨rfl, rfl, rfl⟩
      have count := (send_frame env held world.nextConn .begin (env.begin attempt)).2.1
      have adds := addsHeld.then (adds_begin env held world.nextConn (env.begin attempt))
      have heldCount : held.nextConn = world.nextConn + 1 := by rw [is]; rfl
      rw [heldCount] at count
      cases faulty : env.begin attempt with
      | some fault =>
          rw [faulty] at count adds
          refine Or.inl ⟨fault.raised,
            release world.nextConn (send env held world.nextConn .begin (some fault)).2, _, ?_, ?_,
            adds.then (adds_release _ _)⟩
          · rw [begin, acquires]
            simp only [faulty]
            rw [send_fault]
          · change FailedBegin world.nextConn _ fault.raised
              (send env held world.nextConn .begin (some fault)).2.nextConn
            rw [count]
            exact .lost fault
      | none =>
          rw [faulty] at count adds
          refine Or.inr ⟨(send env held world.nextConn .begin none).2, ?_, count, adds, ?_⟩
          · rw [begin, acquires]
            simp only [faulty]
            rw [send_control env held world.nextConn rfl]
          · have sees : held.stored = world.stored := addsHeld.stored
            simp [send, serve, appliedUnder, World.log, World.setSession, sees]

theorem begin_failed {env : Environment S T R} {attempt : Nat} {world after : World S T σ}
    {raised : Raised} (ran : begin env attempt world = (.error raised, after)) :
    ∃ events, FailedBegin world.nextConn events raised after.nextConn ∧
      Adds world after events := by
  rcases begin_cases env attempt world with ⟨_, _, events, fails, failed, adds⟩ | ⟨_, opens, -⟩
  · rw [ran] at fails
    cases fails
    exact ⟨events, failed, adds⟩
  · rw [ran] at opens
    cases opens

/-! ## The retry loop -/

/-- How a retry loop ends, by induction on the attempts that are left: with an attempt's
value, with the last error, or cancelled in a sleep. -/
theorem retryLoop_rule {α : Type} (maxRetry : Int) (sleep : Nat → Option Raised)
    (write : Nat → World S T σ → Except Raised α × World S T σ)
    (Ends : Nat → World S T σ → Except Raised α → World S T σ → Prop)
    (answered : ∀ attempt world value after, write attempt world = (.ok value, after) →
      Ends attempt world (.ok value) after)
    (gaveUp : ∀ attempt world raised after, write attempt world = (.error raised, after) →
      (raised.isTransient = true → maxRetry ≤ attempt) →
      Ends attempt world (.error raised) after)
    (cancelled : ∀ attempt world raised after other,
      write attempt world = (.error raised, after) → raised.isTransient = true →
      attempt < maxRetry → sleep attempt = some other →
      Ends attempt world (.error other) (after.log (.slept (some other))))
    (again : ∀ attempt world raised after result final,
      write attempt world = (.error raised, after) → raised.isTransient = true →
      attempt < maxRetry → sleep attempt = none →
      Ends (attempt + 1) (after.log (.slept none)) result final →
      Ends attempt world result final)
    (attempt : Nat) (world : World S T σ) :
    ∃ result after, retryLoop maxRetry sleep write attempt world = (result, after) ∧
      Ends attempt world result after := by
  obtain ⟨fuel, fuelIs⟩ : ∃ fuel, fuel = (maxRetry - attempt).toNat := ⟨_, rfl⟩
  induction fuel using Nat.strongRecOn generalizing attempt world with
  | ind fuel ih =>
      rw [retryLoop]
      cases written : write attempt world with
      | mk reply after =>
          cases reply with
          | ok value => exact ⟨_, _, rfl, answered attempt world value after written⟩
          | error raised =>
              cases transient : raised.isTransient with
              | false =>
                  simp only [transient, Bool.false_eq_true, if_false]
                  refine ⟨_, _, rfl, gaveUp attempt world raised after written ?_⟩
                  intro impossible
                  rw [transient] at impossible
                  cases impossible
              | true =>
                  simp only [transient, if_true]
                  by_cases last : maxRetry ≤ attempt
                  · rw [if_pos last]
                    exact ⟨_, _, rfl, gaveUp attempt world raised after written fun _ => last⟩
                  · rw [if_neg last]
                    have more : attempt < maxRetry := by omega
                    cases slept : sleep attempt with
                    | some other =>
                        exact ⟨_, _, rfl,
                          cancelled attempt world raised after other written transient more slept⟩
                    | none =>
                        obtain ⟨result, final, looped, ends⟩ :=
                          ih (maxRetry - (attempt + 1 : Nat)).toNat (by omega) (attempt + 1)
                            (after.log (.slept none)) rfl
                        exact ⟨result, final, looped, again attempt world raised after result final
                          written transient more slept ends⟩

theorem retryLoop_answered {α : Type} {maxRetry : Int} {sleep : Nat → Option Raised}
    {write : Nat → World S T σ → Except Raised α × World S T σ} {attempt : Nat}
    {world after : World S T σ} {value : α} (answers : write attempt world = (.ok value, after)) :
    retryLoop maxRetry sleep write attempt world = (.ok value, after) := by
  rw [retryLoop, answers]

/-- The begin attempts of a loop, and the transaction that the last one opens. -/
theorem retryLoop_begun (maxRetry : Int) (env : Environment S T R) (attempt : Nat)
    (world : World S T σ) :
    ∃ result after, retryLoop maxRetry env.sleep (begin env) attempt world = (result, after) ∧
      ∃ events, Begun (max 1 (maxRetry - attempt + 1)) world.nextConn events result after.nextConn ∧
        Adds world after events ∧
        ∀ conn, result = .ok conn → after.sessions conn = .inTransaction world.stored := by
  have room : ∀ attempt : Nat, 1 ≤ max 1 (maxRetry - attempt + 1) := fun _ =>
    Int.le_max_left _ _
  refine retryLoop_rule maxRetry env.sleep (begin env)
    (fun attempt world result after => ∃ events,
      Begun (max 1 (maxRetry - attempt + 1)) world.nextConn events result after.nextConn ∧
      Adds world after events ∧
      ∀ conn, result = .ok conn → after.sessions conn = .inTransaction world.stored)
    ?_ ?_ ?_ ?_ attempt world
  · intro attempt world conn after ran
    rcases begin_cases env attempt world with
      ⟨_, _, _, fails, -⟩ | ⟨next, opens, count, adds, session⟩
    · rw [ran] at fails
      cases fails
    · rw [ran] at opens
      cases opens
      refine ⟨_, ?_, adds, ?_⟩
      · rw [count]
        exact .opened (room attempt)
      · intro conn isOk
        cases isOk
        exact session
  · intro attempt world raised after ran _
    obtain ⟨events, failed, adds⟩ := begin_failed ran
    refine ⟨events, .failed (room attempt) failed, adds, ?_⟩
    intro conn impossible
    cases impossible
  · intro attempt world raised after other ran transient _ _
    obtain ⟨events, failed, adds⟩ := begin_failed ran
    refine ⟨_, .cancelled (room attempt) failed transient other, adds.then (adds_log _ _), ?_⟩
    intro conn impossible
    cases impossible
  · intro attempt world raised after result final ran transient more _ later
    obtain ⟨events, failed, adds⟩ := begin_failed ran
    obtain ⟨rest, begun, addsLater, opened⟩ := later
    refine ⟨events ++ .slept none :: rest, .again failed transient ?_, ?_, ?_⟩
    · have fewer : max 1 (maxRetry - attempt + 1) - 1 =
          max 1 (maxRetry - (attempt + 1 : Nat) + 1) := by
        omega
      rw [fewer]
      exact begun
    · have all := (adds.then (adds_log after (.slept none))).then addsLater
      rwa [List.append_assoc] at all
    · intro conn isOk
      rw [opened conn isOk]
      exact congrArg Session.inTransaction adds.stored

/-! ## Whether a transaction is opened -/

def beginRaised (faults : Faults) (attempt : Nat) : Option Raised :=
  match faults.acquire attempt with
  | some raised => some raised
  | none => (faults.begin attempt).map Fault.raised

/-- The attempt fails, and another one follows. -/
def Retried (faults : Faults) (maxRetry : Int) (attempt : Nat) : Prop :=
  (∃ raised, beginRaised faults attempt = some raised ∧ raised.isTransient = true) ∧
    attempt < maxRetry ∧ faults.sleep attempt = none

def OpensFrom (faults : Faults) (maxRetry : Int) (start : Nat) : Prop :=
  ∃ attempt, start ≤ attempt ∧ beginRaised faults attempt = none ∧
    ∀ earlier, start ≤ earlier → earlier < attempt → Retried faults maxRetry earlier

/-- Some attempt succeeds, and each one before it is followed by another. -/
def Opens (faults : Faults) (maxRetry : Int) : Prop := OpensFrom faults maxRetry 1

theorem opensFrom_iff (faults : Faults) (maxRetry : Int) (start : Nat) :
    OpensFrom faults maxRetry start ↔ beginRaised faults start = none ∨
      (Retried faults maxRetry start ∧ OpensFrom faults maxRetry (start + 1)) := by
  constructor
  · intro opens
    obtain ⟨attempt, reached, succeeds, retried⟩ := opens
    by_cases first : attempt = start
    · subst first
      exact Or.inl succeeds
    · refine Or.inr ⟨retried start (Nat.le_refl _) (by omega), attempt, by omega, succeeds, ?_⟩
      intro earlier after before
      exact retried earlier (by omega) before
  · intro either
    rcases either with succeeds | ⟨first, attempt, reached, succeeds, retried⟩
    · refine ⟨start, Nat.le_refl _, succeeds, ?_⟩
      intro earlier after before
      omega
    · refine ⟨attempt, by omega, succeeds, ?_⟩
      intro earlier after before
      by_cases same : earlier = start
      · rw [same]
        exact first
      · exact retried earlier (by omega) before

theorem begin_raises (env : Environment S T R) (attempt : Nat) (world : World S T σ) :
    (∀ conn after, begin env attempt world = (.ok conn, after) →
      beginRaised env.toFaults attempt = none) ∧
    ∀ raised after, begin env attempt world = (.error raised, after) →
      beginRaised env.toFaults attempt = some raised := by
  unfold beginRaised begin acquire
  cases env.acquire attempt with
  | some refused =>
      refine ⟨?_, ?_⟩
      · intro conn after impossible
        cases impossible
      · intro raised after ran
        cases ran
        rfl
  | none =>
      cases env.begin attempt with
      | some fault =>
          refine ⟨?_, ?_⟩
          · intro conn after impossible
            cases impossible
          · intro raised after ran
            cases ran
            rfl
      | none =>
          refine ⟨?_, ?_⟩
          · intro conn after _
            rfl
          · intro raised after impossible
            cases impossible

/-- An attempt that fails decides nothing but whether another one follows. -/
theorem opensFrom_of_raised {faults : Faults} {maxRetry : Int} {attempt : Nat} {raised : Raised}
    (failed : beginRaised faults attempt = some raised) :
    OpensFrom faults maxRetry attempt ↔
      (raised.isTransient = true ∧ attempt < maxRetry ∧ faults.sleep attempt = none) ∧
        OpensFrom faults maxRetry (attempt + 1) := by
  rw [opensFrom_iff, Retried, failed]
  constructor
  · intro either
    rcases either with impossible | ⟨⟨⟨other, is, transient⟩, more, slept⟩, later⟩
    · cases impossible
    · cases is
      exact ⟨⟨transient, more, slept⟩, later⟩
  · intro follows
    obtain ⟨⟨transient, more, slept⟩, later⟩ := follows
    exact Or.inr ⟨⟨⟨raised, rfl, transient⟩, more, slept⟩, later⟩

/-- The begin loop opens a transaction exactly when its attempts let it. -/
theorem retryLoop_opens (maxRetry : Int) (env : Environment S T R) (attempt : Nat)
    (world : World S T σ) :
    ∃ result after, retryLoop maxRetry env.sleep (begin env) attempt world = (result, after) ∧
      ((∃ conn, result = .ok conn) ↔ OpensFrom env.toFaults maxRetry attempt) := by
  have stops : ∀ raised, ¬ ∃ conn, (.error raised : Except Raised Nat) = .ok conn := by
    intro raised impossible
    obtain ⟨_, same⟩ := impossible
    cases same
  refine retryLoop_rule maxRetry env.sleep (begin env)
    (fun attempt _ result _ =>
      (∃ conn, result = .ok conn) ↔ OpensFrom env.toFaults maxRetry attempt)
    ?_ ?_ ?_ ?_ attempt world
  · intro attempt world conn after ran
    have succeeds := (begin_raises env attempt world).1 conn after ran
    exact ⟨fun _ => (opensFrom_iff _ _ _).mpr (Or.inl succeeds), fun _ => ⟨conn, rfl⟩⟩
  · intro attempt world raised after ran last
    rw [opensFrom_of_raised ((begin_raises env attempt world).2 raised after ran)]
    refine iff_of_false (stops raised) ?_
    intro follows
    have through := last follows.1.1
    have more := follows.1.2.1
    omega
  · intro attempt world raised after other ran _ _ slept
    rw [opensFrom_of_raised ((begin_raises env attempt world).2 raised after ran)]
    refine iff_of_false (stops other) ?_
    intro follows
    rw [slept] at follows
    cases follows.1.2.2
  · intro attempt world raised after result final ran transient more slept later
    rw [opensFrom_of_raised ((begin_raises env attempt world).2 raised after ran), later]
    exact ⟨fun opens => ⟨⟨transient, more, slept⟩, opens⟩, fun follows => follows.2⟩

/-- The client opens a transaction that sees the tables, or raises. -/
theorem dbWriteWithRetry_begin (maxRetry : Int) (env : Environment S T R) (world : World S T σ) :
    (¬ Opens env.toFaults maxRetry ∧ ∃ raised after,
      dbWriteWithRetry maxRetry env.sleep (begin env) world = (.error raised, after) ∧
      after.stored = world.stored ∧ after.caller = world.caller) ∨
    (Opens env.toFaults maxRetry ∧ ∃ conn opened,
      dbWriteWithRetry maxRetry env.sleep (begin env) world = (.ok conn, opened) ∧
      opened.sessions conn = .inTransaction world.stored ∧ opened.stored = world.stored) := by
  obtain ⟨result, opened, looped, _, -, adds, session⟩ := retryLoop_begun maxRetry env 1 world
  obtain ⟨_, _, again, opens⟩ := retryLoop_opens maxRetry env 1 world
  rw [looped] at again
  cases again
  rw [dbWriteWithRetry, looped]
  cases result with
  | error raised =>
      refine Or.inl ⟨?_, raised.translated, opened, rfl, adds.stored, adds.caller⟩
      intro doesOpen
      obtain ⟨_, impossible⟩ := opens.mpr doesOpen
      cases impossible
  | ok conn =>
      exact Or.inr ⟨opens.mp ⟨conn, rfl⟩, conn, opened, rfl, session conn rfl, adds.stored⟩

def resultOf : Option Raised → Except Raised Unit
  | none => .ok ()
  | some raised => .error raised

theorem runBlock_ran (env : Environment S T R) (conn number : Nat) (block : Block S R σ)
    (world : World S T σ) (inside : InTransaction world conn) :
    ∃ raised after events, runBlock env conn number block world = (resultOf raised, after) ∧
      BlockRan conn events raised ∧ after.trace = world.trace ++ events ∧
      after.stored = world.stored := by
  induction block generalizing number world with
  | ended caller raised =>
      refine ⟨raised, { world with caller := caller }.log (.blockEnded raised),
        [.blockEnded raised], ?_, ⟨[], rfl, ?_⟩, rfl, rfl⟩
      · cases raised <;> rfl
      · intro event among
        cases among
  | execute statement next ih =>
      obtain ⟨adds, still⟩ := send_statement env inside statement (env.statement number)
      have continues : ∀ reply, ∃ raised after events,
          runBlock env conn (number + 1) (next reply)
            (send env world conn (.statement statement) (env.statement number)).2 =
              (resultOf raised, after) ∧
          BlockRan conn events raised ∧ after.trace = world.trace ++ events ∧
          after.stored = world.stored := by
        intro reply
        obtain ⟨raised, after, events, ran, ⟨statements, is, all⟩, trace, stored⟩ :=
          ih reply (number + 1) _ still
        refine ⟨raised, after, .ran conn (.statement statement) (env.statement number) :: events,
          ran, ⟨.ran conn (.statement statement) (env.statement number) :: statements, ?_, ?_⟩,
          ?_, ?_⟩
        · rw [is]
          rfl
        · intro event among
          cases List.mem_cons.mp among with
          | inl same => exact ⟨statement, _, same⟩
          | inr later => exact all event later
        · rw [trace, adds.trace, List.append_assoc]
          rfl
        · rw [stored, adds.stored]
      simp only [runBlock]
      cases sent : send env world conn (.statement statement) (env.statement number) with
      | mk reply after =>
          rw [sent] at continues
          cases reply with
          | ok row => exact continues (.ok row)
          | error raised => exact continues (.error raised.translated)

def commitResult : Option Fault → Except Raised Unit
  | none => .ok ()
  | some fault => .error fault.raised.translated

/-- The COMMIT after a block that ended so. -/
def commitAfter (env : Environment S T R) (conn : Nat) (left : World S T σ) :
    Option Raised → Except Raised Unit × World S T σ
  | some raised => (.error raised, left)
  | none => (commitResult env.commit, (send env left conn .commit env.commit).2)

theorem runAndCommit_eq {env : Environment S T R} {conn : Nat} {block : Block S R σ}
    {world left : World S T σ} {raised : Option Raised}
    (ran : runBlock env conn 0 block world = (resultOf raised, left)) :
    runAndCommit env conn block world = commitAfter env conn left raised := by
  rw [runAndCommit, ran]
  cases raised with
  | some raised => rfl
  | none =>
      simp only [resultOf, commitAfter]
      cases env.commit with
      | none =>
          rw [send_control env left conn rfl]
          rfl
      | some fault =>
          rw [send_fault]
          rfl

/-- What a ROLLBACK leaves of the error that it follows. -/
def afterRollback (raised : Raised) (rollback : Option Fault) : Raised :=
  match rollback with
  | none => raised
  | some fault => if fault.raised.isException then raised else fault.raised

theorem rollbackAndRaise_eq (env : Environment S T R) (conn : Nat) (raised : Raised)
    (world : World S T σ) :
    rollbackAndRaise env conn raised world =
      (.error (afterRollback raised env.rollback),
        (send env world conn .rollback env.rollback).2) := by
  rw [rollbackAndRaise]
  cases env.rollback with
  | none =>
      rw [send_control env world conn rfl]
      rfl
  | some fault =>
      rw [send_fault]
      rfl

/-- What a COMMIT that the server carries out leaves stored. -/
def committedView (session : Session T) (stored : T) : T :=
  match session with
  | .inTransaction view => view
  | .idle | .aborted => stored

theorem send_commit_stored (env : Environment S T R) (world : World S T σ) (conn : Nat)
    (fault : Option Fault) :
    (send env world conn .commit fault).2.stored =
      if appliedUnder fault then committedView (world.sessions conn) world.stored
      else world.stored := by
  unfold send World.log
  cases appliedUnder fault with
  | false => rfl
  | true =>
      simp only [if_true, serve, committedView]
      cases world.sessions conn <;> rfl

/-- The events from the end of the block on. -/
theorem runInTransaction_closed {env : Environment S T R} {conn : Nat} {block : Block S R σ}
    {world left : World S T σ} {raised : Option Raised}
    (ran : runBlock env conn 0 block world = (resultOf raised, left)) :
    ∃ events, Closed conn raised events ∧
      (runInTransaction env conn block world).2.trace =
        left.trace ++ events ++ [.released conn] := by
  have rolledBack : ∀ before : World S T σ,
      (release conn (send env before conn .rollback env.rollback).2).trace =
        before.trace ++ [.ran conn .rollback env.rollback, .released conn] :=
    fun before => ((adds_rollback env before conn env.rollback).then (adds_release conn _)).trace
  have committed := (send_frame env left conn .commit env.commit).1
  unfold runInTransaction
  rw [runAndCommit_eq ran]
  cases raised with
  | some raised =>
      simp only [commitAfter, rollbackAndRaise_eq]
      refine ⟨_, .blockFailed raised env.rollback, ?_⟩
      rw [rolledBack, List.append_assoc]
      rfl
  | none =>
      simp only [commitAfter]
      cases answered : env.commit with
      | none =>
          rw [answered] at committed
          refine ⟨_, .committed, ?_⟩
          rw [← committed]
          rfl
      | some fault =>
          rw [answered] at committed
          simp only [commitResult, rollbackAndRaise_eq]
          refine ⟨_, .commitFailed fault env.rollback, ?_⟩
          rw [rolledBack, committed]
          simp

/-! ## What a transaction leaves stored -/

theorem runInTransaction_raised {env : Environment S T R} {conn : Nat} {block : Block S R σ}
    {world left : World S T σ} {raised : Raised}
    (ran : runBlock env conn 0 block world = (.error raised, left)) :
    ∃ other after, runInTransaction env conn block world = (.error other, after) ∧
      after.stored = left.stored ∧ after.caller = left.caller := by
  have rolled := (adds_rollback env left conn env.rollback).then (adds_release conn _)
  refine ⟨afterRollback raised env.rollback, _, ?_, rolled.stored, rolled.caller⟩
  rw [runInTransaction, runAndCommit, ran]
  simp only [rollbackAndRaise_eq]

theorem runInTransaction_committed {env : Environment S T R} {conn : Nat} {block : Block S R σ}
    {world left : World S T σ} {view : T} (ran : runBlock env conn 0 block world = (.ok (), left))
    (session : left.sessions conn = .inTransaction view) (commits : env.commit = none) :
    ∃ after, runInTransaction env conn block world = (.ok (), after) ∧ after.stored = view ∧
      after.caller = left.caller := by
  have commitStored := send_commit_stored env left conn none
  obtain ⟨-, -, commitCaller⟩ := send_frame env left conn .commit none
  have released := adds_release conn (send env left conn .commit none).2
  refine ⟨_, ?_, ?_, released.caller.trans commitCaller⟩
  · rw [runInTransaction, runAndCommit, ran, commits]
    simp only
    rw [send_control env left conn rfl]
    rfl
  · rw [released.stored, commitStored, session]
    rfl

theorem runInTransaction_lost {env : Environment S T R} {conn : Nat} {block : Block S R σ}
    {world left : World S T σ} {view : T} {fault : Fault}
    (ran : runBlock env conn 0 block world = (.ok (), left))
    (session : left.sessions conn = .inTransaction view) (fails : env.commit = some fault) :
    ∃ other after, runInTransaction env conn block world = (.error other, after) ∧
      after.stored = (if fault.applied then view else left.stored) ∧
      after.caller = left.caller := by
  have commitStored := send_commit_stored env left conn (some fault)
  obtain ⟨-, -, commitCaller⟩ := send_frame env left conn .commit (some fault)
  have rolled := (adds_rollback env (send env left conn .commit (some fault)).2 conn
    env.rollback).then (adds_release conn _)
  refine ⟨afterRollback fault.raised.translated env.rollback, _, ?_, ?_,
    rolled.caller.trans commitCaller⟩
  · rw [runInTransaction, runAndCommit, ran, fails]
    simp only
    rw [send_fault]
    simp only [translatedErrors, rollbackAndRaise_eq]
  · rw [rolled.stored, commitStored, session]
    rfl

/-! ## Statements outside a transaction -/

/-- What holds before each attempt holds before the one that succeeds. -/
theorem retryLoop_ok {α : Type} {maxRetry : Int} {sleep : Nat → Option Raised}
    {write : Nat → World S T σ → Except Raised α × World S T σ} {Kept : World S T σ → Prop}
    (logged : ∀ world event, Kept world → Kept (world.log event))
    (step : ∀ attempt world, Kept world → Kept (write attempt world).2) {attempt : Nat}
    {world after : World S T σ} {value : α} (kept : Kept world)
    (ran : retryLoop maxRetry sleep write attempt world = (.ok value, after)) :
    ∃ last before, Kept before ∧ write last before = (.ok value, after) := by
  have rule : ∃ result final, retryLoop maxRetry sleep write attempt world = (result, final) ∧
      (Kept world → ∀ value, result = .ok value →
        ∃ last before, Kept before ∧ write last before = (.ok value, final)) := by
    refine retryLoop_rule maxRetry sleep write
      (fun _ world result final => Kept world → ∀ value, result = .ok value →
        ∃ last before, Kept before ∧ write last before = (.ok value, final))
      ?_ ?_ ?_ ?_ attempt world
    · intro attempt world value after written kept other is
      cases is
      exact ⟨attempt, world, kept, written⟩
    · intro attempt world raised after _ _ _ value impossible
      cases impossible
    · intro attempt world raised after other _ _ _ _ _ value impossible
      cases impossible
    · intro attempt world raised after result final written _ _ _ later kept
      have stepped := step attempt world kept
      rw [written] at stepped
      exact later (logged after _ stepped)
  obtain ⟨result, final, looped, ends⟩ := rule
  rw [ran] at looped
  cases looped
  exact ends kept value rfl

/-- A statement outside a transaction answers what the tables say, or raises, carried out
or not. -/
theorem send_idle (env : Environment S T R) {world : World S T σ} {conn : Nat}
    (session : world.sessions conn = .idle) (statement : S) (fault : Option Fault) :
    (∃ row after, send env world conn (.statement statement) fault = (.ok row, after) ∧
      env.exec statement world.stored = .ok (after.stored, row)) ∨
    ∃ raised after, send env world conn (.statement statement) fault = (.error raised, after) ∧
      (after.stored = world.stored ∨
        ∃ row, env.exec statement world.stored = .ok (after.stored, row)) := by
  cases executed : env.exec statement world.stored with
  | ok answer =>
      obtain ⟨stored, row⟩ := answer
      have served : serve env world conn (.statement statement) =
          (.ok row, { world with stored := stored }) := by
        simp only [serve, session, executed]
      cases fault with
      | none =>
          refine Or.inl ⟨row, { world with stored := stored }.log
            (.ran conn (.statement statement) none), ?_, rfl⟩
          rw [send, served]
          rfl
      | some fault =>
          refine Or.inr ⟨fault.raised, _, send_fault env world conn _ fault, ?_⟩
          rw [send, served]
          cases applied : fault.applied with
          | true =>
              right
              refine ⟨row, ?_⟩
              simp [appliedUnder, applied, World.log]
          | false =>
              left
              simp [appliedUnder, applied, World.log]
  | error error =>
      have served : serve env world conn (.statement statement) =
          (.error (.driver error), world) := by
        simp only [serve, session, executed]
      have unchanged : (send env world conn (.statement statement) fault).2.stored =
          world.stored := by
        rw [send, served]
        cases appliedUnder fault with
        | true => rfl
        | false => rfl
      cases fault with
      | none =>
          refine Or.inr ⟨.driver error, _, ?_, Or.inl unchanged⟩
          rw [send, served]
      | some fault =>
          exact Or.inr ⟨fault.raised, _, send_fault env world conn _ fault, Or.inl unchanged⟩

theorem executeOnce_cases (env : Environment S T R) (statement : S) (attempt : Nat)
    (world : World S T σ) :
    (∃ row after, executeOnce env statement attempt world = (.ok row, after) ∧
      env.exec statement world.stored = .ok (after.stored, row)) ∨
    ∃ raised after, executeOnce env statement attempt world = (.error raised, after) ∧
      (after.stored = world.stored ∨
        ∃ row, env.exec statement world.stored = .ok (after.stored, row)) := by
  cases refused : env.acquire attempt with
  | some raised =>
      refine Or.inr ⟨raised, world.log (.acquireFailed raised), ?_, Or.inl rfl⟩
      rw [executeOnce, acquire, refused]
  | none =>
      obtain ⟨held, is⟩ : ∃ held : World S T σ, held =
          ({ world with nextConn := world.nextConn + 1 }.setSession world.nextConn .idle).log
            (.acquired world.nextConn) :=
        ⟨_, rfl⟩
      have acquires : acquire env attempt world = (.ok world.nextConn, held) := by
        rw [acquire, refused, is]
      have session : held.sessions world.nextConn = .idle := by
        rw [is]
        exact Function.update_self _ _ _
      have stored : held.stored = world.stored := by
        rw [is]
        rfl
      have answers := send_idle env session statement (env.statement attempt)
      rw [stored] at answers
      rcases answers with ⟨row, after, sent, executed⟩ | ⟨raised, after, sent, either⟩
      · refine Or.inl ⟨row, release world.nextConn after, ?_, executed⟩
        rw [executeOnce, acquires]
        simp only [sent]
      · refine Or.inr ⟨raised, release world.nextConn after, ?_, either⟩
        rw [executeOnce, acquires]
        simp only [sent]

theorem executeOnce_ok {env : Environment S T R} {statement : S} {attempt : Nat}
    {world after : World S T σ} {row : Option R}
    (ran : executeOnce env statement attempt world = (.ok row, after)) :
    env.exec statement world.stored = .ok (after.stored, row) := by
  rcases executeOnce_cases env statement attempt world with
    ⟨other, next, answers, executed⟩ | ⟨raised, next, raises, -⟩
  · rw [ran] at answers
    cases answers
    exact executed
  · rw [ran] at raises
    cases raises

theorem executeOnce_stored (env : Environment S T R) (statement : S) (attempt : Nat)
    (world : World S T σ) :
    (executeOnce env statement attempt world).2.stored = world.stored ∨
      ∃ row, env.exec statement world.stored =
        .ok ((executeOnce env statement attempt world).2.stored, row) := by
  rcases executeOnce_cases env statement attempt world with
    ⟨row, next, answers, executed⟩ | ⟨raised, next, raises, either⟩
  · rw [answers]
    exact Or.inr ⟨row, executed⟩
  · rw [raises]
    exact either

end WealthFinder.Pipeline.Database
