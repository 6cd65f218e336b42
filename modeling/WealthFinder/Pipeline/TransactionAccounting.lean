import WealthFinder.Pipeline.TransactionOutcome

/-!
# What one `transaction()` acquires, releases, and raises

The accounting of a call: its events say which connections it gives back and how often it
tries to begin, and the awaits and the block say what it returns or raises and what it
leaves committed.
-/

set_option autoImplicit false

namespace WealthFinder.Pipeline.Database

variable {S T R σ : Type}

/-! ## Connections -/

namespace DbEvent

def isAcquired (conn : Nat) : DbEvent S → Bool
  | .acquired other => other == conn
  | .acquireFailed _ | .ran _ _ _ | .slept _ | .blockEnded _ | .released _ => false

def isReleased (conn : Nat) : DbEvent S → Bool
  | .released other => other == conn
  | .acquired _ | .acquireFailed _ | .ran _ _ _ | .slept _ | .blockEnded _ => false

/-- A begin attempt that failed for good. -/
def failsForGood : DbEvent S → Bool
  | .acquireFailed raised => !raised.isTransient
  | .ran _ .begin (some fault) => !fault.raised.isTransient
  | .ran _ .begin none | .ran _ .commit _ | .ran _ .rollback _ | .ran _ (.statement _) _
  | .acquired _ | .slept _ | .blockEnded _ | .released _ => false

end DbEvent

open DbEvent

theorem FailedBegin.counts {conn next : Nat} {events : List (DbEvent S)} {raised : Raised}
    (failed : FailedBegin conn events raised next) (other : Nat) :
    conn ≤ next ∧
      events.countP (isAcquired other) = (if conn ≤ other ∧ other < next then 1 else 0) ∧
      events.countP (isReleased other) = (if conn ≤ other ∧ other < next then 1 else 0) := by
  cases failed with
  | refused =>
      have outside : ¬ (conn ≤ other ∧ other < conn) := by omega
      rw [if_neg outside]
      simp [isAcquired, isReleased]
  | lost fault =>
      by_cases same : conn = other
      · subst same
        simp [isAcquired, isReleased]
      · have outside : ¬ (conn ≤ other ∧ other < conn + 1) := by omega
        rw [if_neg outside]
        simp [isAcquired, isReleased, same]

theorem between_add {first middle last : Nat} (early : first ≤ middle) (late : middle ≤ last)
    (conn : Nat) :
    (if first ≤ conn ∧ conn < middle then 1 else 0) +
        (if middle ≤ conn ∧ conn < last then 1 else 0) =
      if first ≤ conn ∧ conn < last then 1 else 0 := by
  split <;> split <;> split <;> omega

/-- Only the connection that is handed on is still held. -/
theorem Begun.counts {limit : Int} {conn next : Nat} {events : List (DbEvent S)}
    {result : Except Raised Nat} (begun : Begun limit conn events result next) (other : Nat) :
    conn ≤ next ∧
      events.countP (isAcquired other) = (if conn ≤ other ∧ other < next then 1 else 0) ∧
      events.countP (isReleased other) + (if result = .ok other then 1 else 0) =
        (if conn ≤ other ∧ other < next then 1 else 0) := by
  induction begun with
  | opened =>
      rename_i conn room
      by_cases same : conn = other
      · subst same
        simp [isAcquired, isReleased]
      · have outside : ¬ (conn ≤ other ∧ other < conn + 1) := by omega
        rw [if_neg outside]
        simp [isAcquired, isReleased, same]
  | failed room last =>
      obtain ⟨order, acquired, released⟩ := last.counts other
      exact ⟨order, acquired, by simpa using released⟩
  | cancelled room last transient raised =>
      obtain ⟨order, acquired, released⟩ := last.counts other
      refine ⟨order, ?_, ?_⟩
      · simpa [isAcquired] using acquired
      · simpa [isReleased] using released
  | again failed transient later ih =>
      obtain ⟨order, acquired, released⟩ := failed.counts other
      obtain ⟨orderLater, acquiredLater, releasedLater⟩ := ih
      have sum := between_add order orderLater other
      refine ⟨Nat.le_trans order orderLater, ?_, ?_⟩
      · rw [List.countP_append, List.countP_cons_of_neg (by simp [isAcquired]), acquired,
          acquiredLater, sum]
      · rw [List.countP_append, List.countP_cons_of_neg (by simp [isReleased]), released,
          Nat.add_assoc, releasedLater, sum]

/-! ## Attempts -/

/-- After a failure for good comes no other attempt. -/
def NoRetry (event later : DbEvent S) : Prop :=
  event.failsForGood = true → later.isAttempt = false

theorem FailedBegin.noRetry {conn next : Nat} {events : List (DbEvent S)} {raised : Raised}
    (failed : FailedBegin conn events raised next) : events.Pairwise NoRetry := by
  cases failed <;> simp [NoRetry, failsForGood, isAttempt]

theorem FailedBegin.transient {conn next : Nat} {events : List (DbEvent S)} {raised : Raised}
    (failed : FailedBegin conn events raised next) (transient : raised.isTransient = true) :
    ∀ event ∈ events, event.failsForGood = false := by
  cases failed <;> simp [failsForGood, transient]

theorem Begun.noRetry {limit : Int} {conn next : Nat} {events : List (DbEvent S)}
    {result : Except Raised Nat} (begun : Begun limit conn events result next) :
    events.Pairwise NoRetry := by
  induction begun with
  | opened => simp [NoRetry, failsForGood]
  | failed room last => exact last.noRetry
  | cancelled room last transient raised =>
      refine List.pairwise_append.mpr ⟨last.noRetry, List.pairwise_singleton _ _, ?_⟩
      intro event among later isLater forGood
      rw [List.mem_singleton.mp isLater]
      rfl
  | again failed transient later ih =>
      refine List.pairwise_append.mpr ⟨failed.noRetry, ?_, ?_⟩
      · refine List.pairwise_cons.mpr ⟨?_, ih⟩
        intro event among forGood
        cases forGood
      · intro event among other isLater forGood
        rw [failed.transient transient event among] at forGood
        cases forGood

/-! ## A call that opens a transaction -/

theorem Closed.quiet {own : Nat} {raised : Option Raised} {ends : List (DbEvent S)}
    (closed : Closed own raised ends) :
    ∀ event ∈ ends, ∃ conn sql fault, event = .ran conn sql fault ∧ sql ≠ .begin := by
  cases closed <;> simp

section Opened
variable {limit : Int} {conn next own : Nat} {begins statements ends : List (DbEvent S)}
  {raised : Option Raised}

/-- The call's events once its transaction is open. -/
def afterBegin (statements ends : List (DbEvent S)) (own : Nat) : List (DbEvent S) :=
  statements ++ ends ++ [.released own]

/-- They neither acquire anything nor attempt a begin. -/
theorem quiet_afterBegin (ran : BlockRan own statements raised)
    (closed : Closed own raised ends) :
    ∀ event ∈ afterBegin statements ends own, (∀ conn, event.isAcquired conn = false) ∧
      event.isAttempt = false ∧ event.failsForGood = false := by
  intro event among
  obtain ⟨sent, is, all⟩ := ran
  rw [afterBegin, is, List.mem_append, List.mem_append, List.mem_append, List.mem_singleton,
    List.mem_singleton] at among
  rcases among with ((isSent | rfl) | isEnd) | rfl
  · obtain ⟨statement, fault, rfl⟩ := all event isSent
    exact ⟨fun _ => rfl, rfl, rfl⟩
  · exact ⟨fun _ => rfl, rfl, rfl⟩
  · obtain ⟨conn, sql, fault, rfl, notBegin⟩ := closed.quiet event isEnd
    cases sql with
    | begin => exact absurd rfl notBegin
    | commit | rollback | statement => exact ⟨fun _ => rfl, rfl, rfl⟩
  · exact ⟨fun _ => rfl, rfl, rfl⟩

theorem countP_zero {events : List (DbEvent S)} {counts : DbEvent S → Bool}
    (none : ∀ event ∈ events, counts event = false) : events.countP counts = 0 := by
  rw [List.countP_eq_zero]
  intro event among
  rw [none event among]
  exact Bool.false_ne_true

/-- They release the connection that they hold. -/
theorem released_afterBegin (ran : BlockRan own statements raised)
    (closed : Closed own raised ends) (other : Nat) :
    (afterBegin statements ends own).countP (isReleased other) = if own = other then 1 else 0 := by
  obtain ⟨sent, is, all⟩ := ran
  have noneSent : statements.countP (isReleased other) = 0 := by
    refine countP_zero ?_
    intro event among
    rw [is, List.mem_append, List.mem_singleton] at among
    rcases among with isSent | rfl
    · obtain ⟨statement, fault, rfl⟩ := all event isSent
      rfl
    · rfl
  have noneEnds : ends.countP (isReleased other) = 0 := by
    refine countP_zero ?_
    intro event among
    obtain ⟨conn, sql, fault, rfl, -⟩ := closed.quiet event among
    rfl
  rw [afterBegin, List.countP_append, List.countP_append, noneSent, noneEnds]
  simp [isReleased]

theorem opened_connections (begun : Begun limit conn begins (.ok own) next)
    (ran : BlockRan own statements raised) (closed : Closed own raised ends) (other : Nat) :
    (begins ++ afterBegin statements ends own).countP (isAcquired other) =
        (if conn ≤ other ∧ other < next then 1 else 0) ∧
      (begins ++ afterBegin statements ends own).countP (isReleased other) =
        (if conn ≤ other ∧ other < next then 1 else 0) := by
  obtain ⟨-, acquired, released⟩ := begun.counts other
  have quiet := countP_zero fun event among => (quiet_afterBegin ran closed event among).1 other
  have gives := released_afterBegin ran closed other
  simp only [Except.ok.injEq] at released
  rw [List.countP_append, List.countP_append, acquired, quiet, gives, released]
  exact ⟨rfl, rfl⟩

theorem opened_attempts (ran : BlockRan own statements raised)
    (closed : Closed own raised ends) :
    (begins ++ afterBegin statements ends own).countP isAttempt = begins.countP isAttempt := by
  have quiet := countP_zero fun event among => (quiet_afterBegin ran closed event among).2.1
  rw [List.countP_append, quiet, Nat.add_zero]

theorem opened_noRetry (begun : Begun limit conn begins (.ok own) next)
    (ran : BlockRan own statements raised) (closed : Closed own raised ends) :
    (begins ++ afterBegin statements ends own).Pairwise NoRetry := by
  have quiet := quiet_afterBegin ran closed
  refine List.pairwise_append.mpr ⟨begun.noRetry, ?_, ?_⟩
  · refine List.pairwise_of_forall_mem_list ?_
    intro event among later isLater forGood
    rw [(quiet event among).2.2] at forGood
    cases forGood
  · intro event among later isLater forGood
    exact (quiet later isLater).2.1

end Opened

/-! ## Any call -/

/-- What a call that makes so many begin attempts logs: each connection that it takes from
the pool is acquired once and released once. -/
structure Logged (world after : World S T σ) (made : Nat) (events : List (DbEvent S)) : Prop where
  trace : after.trace = world.trace ++ events
  acquired : ∀ conn, events.countP (isAcquired conn) =
    if world.nextConn ≤ conn ∧ conn < after.nextConn then 1 else 0
  released : ∀ conn, events.countP (isReleased conn) =
    if world.nextConn ≤ conn ∧ conn < after.nextConn then 1 else 0
  attempts : events.countP isAttempt = made
  noRetry : events.Pairwise NoRetry

theorem transaction_logged (maxRetry : Int) (env : Environment S T R) (block : Block S R σ)
    (world : World S T σ) :
    ∃ last events, LastAttempt env.toFaults maxRetry 1 last ∧
      Logged world (transaction maxRetry env block world).2 last events := by
  obtain ⟨result, opened, looped, begins, begun, adds, session⟩ :=
    retryLoop_begun maxRetry env 1 world
  obtain ⟨_, _, again, last, ends⟩ := retryLoop_ends maxRetry env 1 world
  rw [looped] at again
  cases again
  have tried : begins.countP isAttempt = last := by
    obtain ⟨events, trace, count⟩ := ends.attempts
    rw [List.append_cancel_left (adds.trace.symm.trans trace)]
    exact count
  cases result with
  | error raised =>
      have fails : transaction maxRetry env block world = (.error raised.translated, opened) := by
        rw [transaction, dbWriteWithRetry, looped]
        rfl
      rw [fails]
      refine ⟨last, begins, ends.isLast, adds.trace, ?_, ?_, tried, begun.noRetry⟩
      · intro conn
        exact (begun.counts conn).2.1
      · intro conn
        have released := (begun.counts conn).2.2
        rwa [if_neg (by simp), Nat.add_zero] at released
  | ok conn =>
      have opens : transaction maxRetry env block world =
          runInTransaction env conn block opened := by
        rw [transaction, dbWriteWithRetry, looped]
        rfl
      have inside : InTransaction opened conn := by
        rw [InTransaction, session conn rfl]
        intro same
        cases same
      obtain ⟨raised, left, statements, ran, blockRan, trace, -⟩ :=
        runBlock_ran env conn 0 block opened inside
      obtain ⟨closes, closed, afterTrace⟩ := runInTransaction_closed ran
      have conns : (runInTransaction env conn block opened).2.nextConn = opened.nextConn := by
        obtain ⟨same, again, -, -, kept⟩ :=
          runBlock_ends env conn 0 block opened (some world.stored) (session conn rfl)
        obtain rfl : left = same := congrArg Prod.snd (ran.symm.trans again)
        exact (runInTransaction_stored ran).2.trans kept
      rw [opens]
      refine ⟨last, begins ++ afterBegin statements closes conn, ends.isLast, ?_, ?_, ?_,
        (opened_attempts blockRan closed).trans tried, opened_noRetry begun blockRan closed⟩
      · rw [afterTrace, trace, adds.trace]
        simp only [afterBegin, List.append_assoc]
      · intro other
        rw [conns]
        exact (opened_connections begun blockRan closed other).1
      · intro other
        rw [conns]
        exact (opened_connections begun blockRan closed other).2

/-! ## The accounting of a call -/

section Accounts
variable (maxRetry : Int) (env : Environment S T R) (block : Block S R σ)

/-- The error of the block, or of the COMMIT after a block that raises nothing. -/
def OwnError (stored : T) (raised : Raised) : Prop :=
  block.raised env stored = some raised ∨
    (block.raised env stored = none ∧
      ∃ fault, env.commit = some fault ∧ raised = fault.raised.translated)

def RollbackCancelled : Prop := ∃ applied, env.rollback = some ⟨.cancelledError, applied⟩

/-- The COMMIT is sent, and the server carries it out. -/
def CommitApplied (stored : T) : Prop :=
  Opens env.toFaults maxRetry ∧ block.raised env stored = none ∧
    appliedUnder env.commit = true

/-- What the awaits and the block say of a call: its connections, its result, the tables that
it leaves, and its begin attempts. -/
structure Accounted (world after : World S T σ) (events : List (DbEvent S))
    (result : Except Raised Unit) (last : Nat) : Prop where
  trace : after.trace = world.trace ++ events
  conns : after.nextConn = world.nextConn + acquisitions env.toFaults 1 last
  acquired : ∀ conn, events.countP (isAcquired conn) =
    if world.nextConn ≤ conn ∧ conn < after.nextConn then 1 else 0
  released : ∀ conn, events.countP (isReleased conn) = events.countP (isAcquired conn)
  returns : result = .ok () ↔ Opens env.toFaults maxRetry ∧
    block.raised env world.stored = none ∧ env.commit = none
  raises : Opens env.toFaults maxRetry → ∀ raised, OwnError env block world.stored raised →
    ¬ RollbackCancelled env → result = .error raised
  cancelled : Opens env.toFaults maxRetry → ∀ raised, OwnError env block world.stored raised →
    RollbackCancelled env → result = .error .cancelledError
  notOpened : ¬ Opens env.toFaults maxRetry → ∃ raised,
    loopRaised env.toFaults maxRetry last = some raised ∧ result = .error raised.translated
  committed : CommitApplied maxRetry env block world.stored →
    after.stored = block.view env world.stored
  uncommitted : ¬ CommitApplied maxRetry env block world.stored → after.stored = world.stored
  isLast : LastAttempt env.toFaults maxRetry 1 last
  attempts : events.countP isAttempt = last
  limited : (last : Int) ≤ max 1 maxRetry
  noRetry : events.Pairwise NoRetry

end Accounts

theorem loopRaised_none {faults : Faults} {maxRetry : Int} {last : Nat}
    (isLast : LastAttempt faults maxRetry 1 last) :
    loopRaised faults maxRetry last = none ↔ Opens faults maxRetry := by
  rw [Opens, isLast.opens_iff, loopRaised, Option.map_eq_none_iff]

theorem ownError_eq {env : Environment S T R} {block : Block S R σ} {stored : T}
    {error : Raised} (isOwn : OwnError env block stored error) :
    ownError env (block.raised env stored) = some error := by
  rcases isOwn with raised | ⟨silent, fault, fails, is⟩
  · rw [raised]
    rfl
  · rw [silent, ownError, fails, is]
    rfl

theorem closingResult_ok {env : Environment S T R} {raised : Option Raised} :
    closingResult env raised = .ok () ↔ raised = none ∧ env.commit = none := by
  unfold closingResult ownError
  cases raised with
  | some raised => simp
  | none => cases env.commit <;> simp

theorem afterRollback_eq {env : Environment S T R} {raised : Raised}
    (kept : ¬ RollbackCancelled env) : afterRollback raised env.rollback = raised := by
  cases rollback : env.rollback with
  | none => rfl
  | some fault =>
      obtain ⟨failed, applied⟩ := fault
      cases failed with
      | cancelledError => exact absurd ⟨applied, rollback⟩ kept
      | driver | uniqueConstraintError | serviceUnavailableError | databaseError | other => rfl

theorem LastAttempt.unique {faults : Faults} {maxRetry : Int} {start last other : Nat}
    (isLast : LastAttempt faults maxRetry start last)
    (isToo : LastAttempt faults maxRetry start other) : last = other := by
  rcases Nat.lt_trichotomy last other with before | same | after
  · exact absurd (isToo.retried last isLast.reached before) isLast.stops
  · exact same
  · exact absurd (isLast.retried other isToo.reached after) isToo.stops

/-- One call of `transaction()`: every connection that it acquires is released once, it
returns exactly when a transaction is opened and the block and the COMMIT succeed, and
otherwise raises what they raise unless the ROLLBACK is cancelled. -/
theorem transaction_accounted (maxRetry : Int) (env : Environment S T R) (block : Block S R σ)
    (world : World S T σ) :
    ∃ last events, Accounted maxRetry env block world (transaction maxRetry env block world).2
      events (transaction maxRetry env block world).1 last := by
  obtain ⟨last, events, isLast, logged⟩ := transaction_logged maxRetry env block world
  obtain ⟨other, outcome⟩ := transaction_outcome maxRetry env block world
  obtain rfl := outcome.isLast.unique isLast
  have whether := loopRaised_none isLast
  have closes : Opens env.toFaults maxRetry → (transaction maxRetry env block world).1 =
      closingResult env (block.raised env world.stored) :=
    fun opens => (outcome.opened (whether.mpr opens)).1
  have ownResult : Opens env.toFaults maxRetry → ∀ raised,
      OwnError env block world.stored raised → (transaction maxRetry env block world).1 =
        .error (afterRollback raised env.rollback) := by
    intro opens raised isOwn
    rw [closes opens, closingResult, ownError_eq isOwn]
  have unopened : ¬ Opens env.toFaults maxRetry → ∃ raised,
      loopRaised env.toFaults maxRetry other = some raised := by
    intro never
    exact Option.ne_none_iff_exists'.mp fun is => never (whether.mp is)
  refine ⟨other, events, logged.trace, outcome.conns, logged.acquired, ?_, ?_, ?_, ?_, ?_, ?_, ?_,
    isLast, logged.attempts, isLast.bounded, logged.noRetry⟩
  · intro conn
    rw [logged.acquired, logged.released]
  · by_cases opens : Opens env.toFaults maxRetry
    · rw [closes opens, closingResult_ok]
      exact (and_iff_right opens).symm
    · obtain ⟨raised, is⟩ := unopened opens
      rw [(outcome.unopened raised is).1]
      refine iff_of_false ?_ fun given => opens given.1
      intro impossible
      cases impossible
  · intro opens raised isOwn kept
    rw [ownResult opens raised isOwn, afterRollback_eq kept]
  · intro opens raised isOwn wasCancelled
    obtain ⟨applied, is⟩ := wasCancelled
    rw [ownResult opens raised isOwn, is]
    rfl
  · intro never
    obtain ⟨raised, is⟩ := unopened never
    exact ⟨raised, is, (outcome.unopened raised is).1⟩
  · intro commits
    rw [(outcome.opened (whether.mpr commits.1)).2]
    exact if_pos commits.2
  · intro lost
    by_cases opens : Opens env.toFaults maxRetry
    · rw [(outcome.opened (whether.mpr opens)).2]
      exact if_neg fun commits => lost ⟨opens, commits⟩
    · obtain ⟨raised, is⟩ := unopened opens
      exact (outcome.unopened raised is).2

/-- A pool that refuses the first attempt, a BEGIN that fails on the second, and a COMMIT
that is applied and whose reply is lost with the connection. -/
def lostCommit : Environment Unit Nat Unit where
  acquire := fun attempt =>
    if attempt = 1 then some (.driver ⟨.tooManyConnections, none, ""⟩) else none
  begin := fun attempt =>
    if attempt = 2 then some ⟨.driver ⟨.postgresConnection, none, ""⟩, true⟩ else none
  sleep := fun _ => none
  statement := fun _ => none
  commit := some ⟨.driver ⟨.osError, none, "ConnectionResetError()"⟩, true⟩
  rollback := some ⟨.driver ⟨.interface, none, ""⟩, false⟩
  exec := fun _ view => .ok (view + 1, none)

def addsOne : Block Unit Unit Unit := .execute () fun _ => .ended () none

def emptyWorld : World Unit Nat Unit where
  nextConn := 0
  stored := 0
  sessions := fun _ => .idle
  caller := ()
  trace := []

/-- Two connections are acquired and released, and the COMMIT's own error is raised. -/
example :
    let (result, after) := transaction 3 lostCommit addsOne emptyWorld
    result = .error (.serviceUnavailableError "DB connection error: ConnectionResetError()" .db) ∧
      after.stored = 1 ∧ after.nextConn = 2 ∧
      after.trace = [.acquireFailed (.driver ⟨.tooManyConnections, none, ""⟩), .slept none,
        .acquired 0, .ran 0 .begin (lostCommit.begin 2), .released 0, .slept none,
        .acquired 1, .ran 1 .begin none, .ran 1 (.statement ()) none, .blockEnded none,
        .ran 1 .commit lostCommit.commit, .ran 1 .rollback lostCommit.rollback, .released 1] := by
  simp [transaction, dbWriteWithRetry, retryLoop, begin, acquire, send, serve, release,
    translatedErrors, runInTransaction, runAndCommit, runBlock, rollbackAndRaise, lostCommit,
    addsOne, emptyWorld, World.log, World.setSession, appliedUnder, Raised.isTransient,
    Raised.translated, Raised.isException, DriverErrorKind.isTransient,
    DriverErrorKind.isConnection]

end WealthFinder.Pipeline.Database
