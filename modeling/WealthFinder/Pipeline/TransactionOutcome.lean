import WealthFinder.Pipeline.TransactionEvents

/-!
# How one `transaction()` ends

Which begin attempt is the last one, what the block raises and leaves to be committed, and
what the COMMIT and the ROLLBACK make of that.  All of it is read off the awaits and the
block, without the client.
-/

set_option autoImplicit false

namespace WealthFinder.Pipeline.Database

variable {S T R σ : Type}

/-! ## The block -/

/-- What a statement is answered in a transaction that sees these tables, or is aborted
(`none`), and what the transaction sees afterwards. -/
def answer (env : Environment S T R) (statement : S) :
    Option T → Except Raised (Option R) × Option T
  | none => (.error (.driver failedTransaction), none)
  | some view =>
      match env.exec statement view with
      | .ok (after, row) => (.ok row, some after)
      | .error error => (.error (.driver error), none)

/-- What a block raises, from its statement with this number on, and what its transaction
sees in the end. -/
def Block.ends (env : Environment S T R) :
    Nat → Block S R σ → Option T → Option Raised × Option T
  | _, .ended _ raised, view => (raised, view)
  | number, .execute statement next, view =>
      match env.statement number with
      | none =>
          (next ((answer env statement view).1.mapError Raised.translated)).ends env (number + 1)
            (answer env statement view).2
      | some fault =>
          (next (.error fault.raised.translated)).ends env (number + 1)
            (if fault.applied then (answer env statement view).2 else view)

/-- What the block raises in a transaction that is opened on these tables. -/
def Block.raised (env : Environment S T R) (block : Block S R σ) (stored : T) : Option Raised :=
  (block.ends env 0 (some stored)).1

/-- What it leaves to be committed: nothing new in a transaction that is aborted. -/
def Block.view (env : Environment S T R) (block : Block S R σ) (stored : T) : T :=
  ((block.ends env 0 (some stored)).2).getD stored

def sessionOf : Option T → Session T
  | none => .aborted
  | some view => .inTransaction view

theorem serve_answer (env : Environment S T R) {world : World S T σ} {conn : Nat}
    {view : Option T} (session : world.sessions conn = sessionOf view) (statement : S) :
    (serve env world conn (.statement statement)).1 = (answer env statement view).1 ∧
      (serve env world conn (.statement statement)).2.sessions conn =
        sessionOf (answer env statement view).2 ∧
      (serve env world conn (.statement statement)).2.stored = world.stored := by
  unfold serve answer
  rw [session]
  cases view with
  | none => exact ⟨rfl, session, rfl⟩
  | some view =>
      simp only [sessionOf]
      cases env.exec statement view <;> simp [World.setSession]

/-- A statement as the block sees it. -/
theorem send_answer (env : Environment S T R) {world : World S T σ} {conn : Nat}
    {view : Option T} (session : world.sessions conn = sessionOf view) (statement : S)
    (fault : Option Fault) :
    (send env world conn (.statement statement) fault).1 =
        (match fault with
          | none => (answer env statement view).1
          | some fault => .error fault.raised) ∧
      (send env world conn (.statement statement) fault).2.sessions conn =
        sessionOf (if appliedUnder fault then (answer env statement view).2 else view) ∧
      (send env world conn (.statement statement) fault).2.stored = world.stored ∧
      (send env world conn (.statement statement) fault).2.nextConn = world.nextConn := by
  obtain ⟨replies, served, stored⟩ := serve_answer env session statement
  refine ⟨?_, ?_, ?_, (send_frame env world conn _ fault).2.1⟩
  · cases fault with
    | none => exact replies
    | some fault => rfl
  · unfold send World.log
    cases appliedUnder fault with
    | false => exact session
    | true => exact served
  · unfold send World.log
    cases appliedUnder fault with
    | false => rfl
    | true => exact stored

/-- The block's program ends as the block does. -/
theorem runBlock_ends (env : Environment S T R) (conn number : Nat) (block : Block S R σ)
    (world : World S T σ) (view : Option T) (session : world.sessions conn = sessionOf view) :
    ∃ left, runBlock env conn number block world =
        (resultOf (block.ends env number view).1, left) ∧
      left.sessions conn = sessionOf (block.ends env number view).2 ∧
      left.stored = world.stored ∧ left.nextConn = world.nextConn := by
  induction block generalizing number world view with
  | ended caller raised =>
      refine ⟨{ world with caller := caller }.log (.blockEnded raised), ?_, session, rfl, rfl⟩
      cases raised <;> rfl
  | execute statement next ih =>
      obtain ⟨replies, sees, stored, conns⟩ :=
        send_answer env session statement (env.statement number)
      simp only [runBlock, Block.ends]
      cases sent : send env world conn (.statement statement) (env.statement number) with
      | mk reply after =>
          rw [sent] at replies sees stored conns
          cases faulty : env.statement number with
          | none =>
              rw [faulty] at replies sees
              simp only at replies
              have continues : translatedErrors (reply, after) =
                  ((answer env statement view).1.mapError Raised.translated, after) := by
                rw [← replies]
                cases reply <;> rfl
              obtain ⟨left, ran, ends⟩ := ih _ (number + 1) after _ sees
              rw [continues]
              exact ⟨left, ran, ends.1, ends.2.1.trans stored, ends.2.2.trans conns⟩
          | some fault =>
              rw [faulty] at replies sees
              simp only at replies
              have continues : translatedErrors (reply, after) =
                  (.error fault.raised.translated, after) := by
                rw [replies]
                rfl
              obtain ⟨left, ran, ends⟩ := ih _ (number + 1) after _ sees
              rw [continues]
              exact ⟨left, ran, ends.1, ends.2.1.trans stored, ends.2.2.trans conns⟩

/-! ## The COMMIT and the ROLLBACK -/

/-- The error of the block, or of the COMMIT after a block that raises nothing. -/
def ownError (env : Environment S T R) (raised : Option Raised) : Option Raised :=
  match raised with
  | some raised => some raised
  | none => env.commit.map fun fault => fault.raised.translated

/-- What `transaction()` makes of it. -/
def closingResult (env : Environment S T R) (raised : Option Raised) : Except Raised Unit :=
  match ownError env raised with
  | none => .ok ()
  | some error => .error (afterRollback error env.rollback)

theorem runInTransaction_result {env : Environment S T R} {conn : Nat} {block : Block S R σ}
    {world left : World S T σ} {raised : Option Raised}
    (ran : runBlock env conn 0 block world = (resultOf raised, left)) :
    (runInTransaction env conn block world).1 = closingResult env raised := by
  unfold runInTransaction
  rw [runAndCommit_eq ran]
  cases raised with
  | some raised => simp only [commitAfter, rollbackAndRaise_eq, closingResult, ownError]
  | none =>
      simp only [commitAfter, closingResult, ownError]
      cases env.commit with
      | none => rfl
      | some fault => simp only [commitResult, rollbackAndRaise_eq, Option.map_some]

/-- The COMMIT is sent after a block that raises nothing, and the server carries it out. -/
def Commits (env : Environment S T R) (raised : Option Raised) : Prop :=
  raised = none ∧ appliedUnder env.commit = true

instance (env : Environment S T R) (raised : Option Raised) : Decidable (Commits env raised) :=
  inferInstanceAs (Decidable (_ ∧ _))

theorem runInTransaction_stored {env : Environment S T R} {conn : Nat} {block : Block S R σ}
    {world left : World S T σ} {raised : Option Raised}
    (ran : runBlock env conn 0 block world = (resultOf raised, left)) :
    (runInTransaction env conn block world).2.stored =
        (if Commits env raised then committedView (left.sessions conn) left.stored
          else left.stored) ∧
      (runInTransaction env conn block world).2.nextConn = left.nextConn := by
  have rolledBack : ∀ before : World S T σ,
      (send env before conn .rollback env.rollback).2.stored = before.stored ∧
        (send env before conn .rollback env.rollback).2.nextConn = before.nextConn :=
    fun before => ⟨(adds_rollback env before conn env.rollback).stored,
      (send_frame env before conn .rollback env.rollback).2.1⟩
  have committed := send_commit_stored env left conn env.commit
  have conns := (send_frame env left conn .commit env.commit).2.1
  unfold runInTransaction
  rw [runAndCommit_eq ran]
  cases raised with
  | some raised =>
      simp only [commitAfter, rollbackAndRaise_eq]
      have notCommitted : ¬ Commits env (some raised) := by
        rintro ⟨impossible, -⟩
        cases impossible
      rw [if_neg notCommitted]
      exact rolledBack left
  | none =>
      simp only [commitAfter]
      have applies : Commits env none ↔ appliedUnder env.commit = true :=
        and_iff_right rfl
      simp only [applies]
      cases answered : env.commit with
      | none =>
          rw [answered] at committed conns
          exact ⟨committed, conns⟩
      | some fault =>
          rw [answered] at committed conns
          simp only [commitResult, rollbackAndRaise_eq]
          obtain ⟨stored, count⟩ := rolledBack (send env left conn .commit (some fault)).2
          exact ⟨stored.trans committed, count.trans conns⟩

/-! ## The begin attempts -/

/-- The last attempt of a loop that starts with this one. -/
structure LastAttempt (faults : Faults) (maxRetry : Int) (start last : Nat) : Prop where
  reached : start ≤ last
  retried : ∀ earlier, start ≤ earlier → earlier < last → Retried faults maxRetry earlier
  stops : ¬ Retried faults maxRetry last

theorem LastAttempt.self {faults : Faults} {maxRetry : Int} {attempt : Nat}
    (stops : ¬ Retried faults maxRetry attempt) : LastAttempt faults maxRetry attempt attempt where
  reached := Nat.le_refl _
  retried := by
    intro earlier from_ before
    omega
  stops := stops

theorem LastAttempt.later {faults : Faults} {maxRetry : Int} {attempt last : Nat}
    (first : Retried faults maxRetry attempt)
    (later : LastAttempt faults maxRetry (attempt + 1) last) :
    LastAttempt faults maxRetry attempt last where
  reached := by
    have reached := later.reached
    omega
  retried := by
    intro earlier from_ before
    by_cases same : earlier = attempt
    · rw [same]
      exact first
    · exact later.retried earlier (by omega) before
  stops := later.stops

/-- A loop is allowed so many attempts, and makes one at least. -/
theorem LastAttempt.bounded {faults : Faults} {maxRetry : Int} {last : Nat}
    (isLast : LastAttempt faults maxRetry 1 last) : (last : Int) ≤ max 1 maxRetry := by
  by_cases first : last = 1
  · rw [first]
    exact Int.le_max_left _ _
  · have reached := isLast.reached
    obtain ⟨-, more, -⟩ := isLast.retried (last - 1) (by omega) (by omega)
    omega

/-- The last attempt opens a transaction exactly when any does. -/
theorem LastAttempt.opens_iff {faults : Faults} {maxRetry : Int} {start last : Nat}
    (isLast : LastAttempt faults maxRetry start last) :
    OpensFrom faults maxRetry start ↔ beginRaised faults last = none := by
  constructor
  · intro opens
    obtain ⟨attempt, reached, succeeds, retried⟩ := opens
    rcases Nat.lt_trichotomy attempt last with before | same | after
    · obtain ⟨⟨raised, fails, -⟩, -⟩ := isLast.retried attempt reached before
      rw [succeeds] at fails
      cases fails
    · rw [← same]
      exact succeeds
    · exact absurd (retried last isLast.reached after) isLast.stops
  · intro succeeds
    exact ⟨last, isLast.reached, succeeds, isLast.retried⟩

/-- What the loop raises when this attempt is its last: the attempt's error, or that of the
sleep after it. -/
def loopRaised (faults : Faults) (maxRetry : Int) (last : Nat) : Option Raised :=
  (beginRaised faults last).map fun raised =>
    if raised.isTransient = true ∧ last < maxRetry then (faults.sleep last).getD raised else raised

/-- The connections that these attempts acquire. -/
def acquisitions (faults : Faults) (start last : Nat) : Nat :=
  (List.range' start (last + 1 - start)).countP fun attempt => (faults.acquire attempt).isNone

theorem acquisitions_self (faults : Faults) (attempt : Nat) :
    acquisitions faults attempt attempt = if (faults.acquire attempt).isNone then 1 else 0 := by
  unfold acquisitions
  rw [Nat.add_sub_cancel_left]
  simp [List.countP_cons]

theorem acquisitions_first (faults : Faults) {start last : Nat} (more : start < last) :
    acquisitions faults start last =
      (if (faults.acquire start).isNone then 1 else 0) +
        acquisitions faults (start + 1) last := by
  unfold acquisitions
  have length : last + 1 - start = (last + 1 - (start + 1)) + 1 := by omega
  rw [length, List.range'_succ, List.countP_cons, Nat.add_comm]

theorem begin_nextConn (env : Environment S T R) (attempt : Nat) (world : World S T σ) :
    (begin env attempt world).2.nextConn =
      world.nextConn + if (env.acquire attempt).isNone then 1 else 0 := by
  unfold begin acquire
  cases env.acquire attempt with
  | some refused => rfl
  | none =>
      simp only [Option.isNone_none, if_true]
      have conns := fun held : World S T σ =>
        (send_frame env held world.nextConn .begin (env.begin attempt)).2.1
      cases answered : env.begin attempt with
      | none =>
          rw [answered] at conns
          rw [send_control env _ world.nextConn rfl]
          exact conns _
      | some fault =>
          rw [answered] at conns
          rw [send_fault]
          exact conns _

/-- The start of a begin attempt. -/
def DbEvent.isAttempt : DbEvent S → Bool
  | .acquired _ | .acquireFailed _ => true
  | .ran _ _ _ | .slept _ | .blockEnded _ | .released _ => false

theorem FailedBegin.attempts {conn next : Nat} {events : List (DbEvent S)} {raised : Raised}
    (failed : FailedBegin conn events raised next) :
    events.countP DbEvent.isAttempt = 1 := by
  cases failed <;> rfl

/-- A call logs so many begin attempts. -/
def Attempts (world after : World S T σ) (made : Nat) : Prop :=
  ∃ events, after.trace = world.trace ++ events ∧ events.countP DbEvent.isAttempt = made

theorem attempts_begin (env : Environment S T R) (attempt : Nat) (world : World S T σ) :
    Attempts world (begin env attempt world).2 1 := by
  rcases begin_cases env attempt world with
    ⟨raised, after, events, ran, failed, adds⟩ | ⟨after, ran, -, adds, -⟩
  · rw [ran]
    exact ⟨events, adds.trace, failed.attempts⟩
  · rw [ran]
    exact ⟨_, adds.trace, rfl⟩

theorem Attempts.slept {world after : World S T σ} {made : Nat} (tried : Attempts world after made)
    (raised : Option Raised) : Attempts world (after.log (.slept raised)) made := by
  obtain ⟨events, trace, count⟩ := tried
  refine ⟨events ++ [.slept raised], ?_, ?_⟩
  · rw [World.log, trace, List.append_assoc]
  · rw [List.countP_append, count]
    rfl

theorem Attempts.then {world middle after : World S T σ} {made more : Nat}
    (first : Attempts world middle made) (later : Attempts middle after more) :
    Attempts world after (made + more) := by
  obtain ⟨events, trace, count⟩ := first
  obtain ⟨rest, traceLater, countLater⟩ := later
  refine ⟨events ++ rest, ?_, ?_⟩
  · rw [traceLater, trace, List.append_assoc]
  · rw [List.countP_append, count, countLater]

/-- How the begin loop ends, as its last attempt says. -/
structure LoopEnds (faults : Faults) (maxRetry : Int) (start last : Nat)
    (result : Except Raised Nat) (world after : World S T σ) : Prop where
  isLast : LastAttempt faults maxRetry start last
  opened : (∃ conn, result = .ok conn) ↔ loopRaised faults maxRetry last = none
  raised : ∀ raised, result = .error raised → loopRaised faults maxRetry last = some raised
  conns : after.nextConn = world.nextConn + acquisitions faults start last
  attempts : Attempts world after (last + 1 - start)

/-- The loop ends with an attempt that fails. -/
theorem LoopEnds.failed {faults : Faults} {maxRetry : Int} {attempt : Nat} {raised : Raised}
    {world after : World S T σ} (stops : ¬ Retried faults maxRetry attempt)
    (fails : loopRaised faults maxRetry attempt = some raised)
    (conns : after.nextConn =
      world.nextConn + if (faults.acquire attempt).isNone then 1 else 0)
    (tried : Attempts world after 1) :
    LoopEnds faults maxRetry attempt attempt (.error raised) world after where
  isLast := .self stops
  opened := by
    rw [fails]
    simp
  raised := by
    intro other is
    cases is
    exact fails
  conns := by rw [conns, acquisitions_self]
  attempts := by
    rw [Nat.add_sub_cancel_left]
    exact tried

/-- It ends with an attempt that opens a transaction. -/
theorem LoopEnds.begun {faults : Faults} {maxRetry : Int} {attempt conn : Nat}
    {world after : World S T σ} (succeeds : beginRaised faults attempt = none)
    (conns : after.nextConn =
      world.nextConn + if (faults.acquire attempt).isNone then 1 else 0)
    (tried : Attempts world after 1) :
    LoopEnds faults maxRetry attempt attempt (.ok conn) world after where
  isLast := by
    refine .self ?_
    intro retried
    obtain ⟨⟨raised, fails, -⟩, -⟩ := retried
    rw [succeeds] at fails
    cases fails
  opened := by simp [loopRaised, succeeds]
  raised := by
    intro raised impossible
    cases impossible
  conns := by rw [conns, acquisitions_self]
  attempts := by
    rw [Nat.add_sub_cancel_left]
    exact tried

/-- It goes on after an attempt that is retried. -/
theorem LoopEnds.later {faults : Faults} {maxRetry : Int} {attempt last : Nat}
    {result : Except Raised Nat} {world middle after : World S T σ}
    (first : Retried faults maxRetry attempt)
    (conns : middle.nextConn =
      world.nextConn + if (faults.acquire attempt).isNone then 1 else 0)
    (tried : Attempts world middle 1)
    (ends : LoopEnds faults maxRetry (attempt + 1) last result middle after) :
    LoopEnds faults maxRetry attempt last result world after where
  isLast := .later first ends.isLast
  opened := ends.opened
  raised := ends.raised
  conns := by
    rw [ends.conns, conns, acquisitions_first _ ends.isLast.reached, Nat.add_assoc]
  attempts := by
    have all := tried.then ends.attempts
    have reached := ends.isLast.reached
    have made : 1 + (last + 1 - (attempt + 1)) = last + 1 - attempt := by omega
    rwa [made] at all

theorem begin_counted {env : Environment S T R} {attempt : Nat} {world after : World S T σ}
    {result : Except Raised Nat} (ran : begin env attempt world = (result, after)) :
    after.nextConn = world.nextConn + (if (env.acquire attempt).isNone then 1 else 0) ∧
      Attempts world after 1 := by
  have conns := begin_nextConn env attempt world
  have tried := attempts_begin env attempt world
  rw [ran] at conns tried
  exact ⟨conns, tried⟩

theorem retryLoop_ends (maxRetry : Int) (env : Environment S T R) (attempt : Nat)
    (world : World S T σ) :
    ∃ result after, retryLoop maxRetry env.sleep (begin env) attempt world = (result, after) ∧
      ∃ last, LoopEnds env.toFaults maxRetry attempt last result world after := by
  refine retryLoop_rule maxRetry env.sleep (begin env)
    (fun attempt world result after => ∃ last,
      LoopEnds env.toFaults maxRetry attempt last result world after)
    ?_ ?_ ?_ ?_ attempt world
  · intro attempt world conn after ran
    obtain ⟨conns, tried⟩ := begin_counted ran
    exact ⟨attempt, .begun ((begin_raises env attempt world).1 conn after ran) conns tried⟩
  · intro attempt world raised after ran last
    have fails := (begin_raises env attempt world).2 raised after ran
    obtain ⟨conns, tried⟩ := begin_counted ran
    refine ⟨attempt, .failed ?_ ?_ conns tried⟩
    · intro retried
      obtain ⟨⟨other, is, transient⟩, more, -⟩ := retried
      rw [fails] at is
      cases is
      have through := last transient
      omega
    · rw [loopRaised, fails, Option.map_some, if_neg]
      intro goesOn
      have through := last goesOn.1
      omega
  · intro attempt world raised after other ran transient more slept
    have fails := (begin_raises env attempt world).2 raised after ran
    obtain ⟨conns, tried⟩ := begin_counted ran
    refine ⟨attempt, .failed ?_ ?_ conns (tried.slept _)⟩
    · intro retried
      obtain ⟨-, -, wakes⟩ := retried
      rw [slept] at wakes
      cases wakes
    · rw [loopRaised, fails, Option.map_some, if_pos ⟨transient, more⟩, slept]
      rfl
  · intro attempt world raised after result final ran transient more slept later
    have fails := (begin_raises env attempt world).2 raised after ran
    obtain ⟨conns, tried⟩ := begin_counted ran
    obtain ⟨last, ends⟩ := later
    have first : Retried env.toFaults maxRetry attempt :=
      ⟨⟨raised, fails, transient⟩, more, slept⟩
    have waited : (after.log (.slept none)).nextConn = world.nextConn +
        if (env.acquire attempt).isNone then 1 else 0 := conns
    exact ⟨last, ends.later first waited (tried.slept none)⟩

/-! ## The whole call -/

/-- How a call ends, told by its awaits and its block. -/
structure Outcome (maxRetry : Int) (env : Environment S T R) (block : Block S R σ)
    (world after : World S T σ) (result : Except Raised Unit) (last : Nat) : Prop where
  isLast : LastAttempt env.toFaults maxRetry 1 last
  unopened : ∀ raised, loopRaised env.toFaults maxRetry last = some raised →
    result = .error raised.translated ∧ after.stored = world.stored
  opened : loopRaised env.toFaults maxRetry last = none →
    result = closingResult env (block.raised env world.stored) ∧
      after.stored = if Commits env (block.raised env world.stored)
        then block.view env world.stored else world.stored
  conns : after.nextConn = world.nextConn + acquisitions env.toFaults 1 last

theorem transaction_outcome (maxRetry : Int) (env : Environment S T R) (block : Block S R σ)
    (world : World S T σ) :
    ∃ last, Outcome maxRetry env block world (transaction maxRetry env block world).2
      (transaction maxRetry env block world).1 last := by
  obtain ⟨result, opened, looped, begins, -, adds, session⟩ :=
    retryLoop_begun maxRetry env 1 world
  obtain ⟨_, _, again, last, ends⟩ := retryLoop_ends maxRetry env 1 world
  rw [looped] at again
  cases again
  refine ⟨last, ?_⟩
  unfold transaction dbWriteWithRetry
  rw [looped]
  cases result with
  | error raised =>
      have fails := ends.raised raised rfl
      refine ⟨ends.isLast, ?_, ?_, ends.conns⟩
      · intro other is
        rw [fails] at is
        cases is
        exact ⟨rfl, adds.stored⟩
      · intro impossible
        rw [fails] at impossible
        cases impossible
  | ok conn =>
      have succeeds := ends.opened.mp ⟨conn, rfl⟩
      obtain ⟨left, ran, leftSession, leftStored, leftConns⟩ :=
        runBlock_ends env conn 0 block opened (some world.stored) (session conn rfl)
      obtain ⟨stored, conns⟩ := runInTransaction_stored ran
      refine ⟨ends.isLast, ?_, ?_, ?_⟩
      · intro other impossible
        rw [succeeds] at impossible
        cases impossible
      · intro _
        refine ⟨runInTransaction_result ran, stored.trans ?_⟩
        have commits : committedView (left.sessions conn) left.stored =
            block.view env world.stored := by
          rw [leftSession, leftStored, adds.stored, Block.view]
          cases (block.ends env 0 (some world.stored)).2 <;> rfl
        rw [commits, leftStored, adds.stored]
        rfl
      · exact (conns.trans leftConns).trans ends.conns

end WealthFinder.Pipeline.Database
