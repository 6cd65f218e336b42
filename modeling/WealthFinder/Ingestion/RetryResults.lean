import Mathlib.Data.List.Basic
import WealthFinder.Ingestion.DatabaseClient

/-!
# What the retry loop of the data-ingestion client hands back

The operation is run with its outcomes written down, attempt by attempt.  Every retry
count from one on returns only the value of an attempt that completed, and raises an error
of the service, unless an attempt ends with an exception that no clause matches.  With a
count of zero the loop is left before the first attempt.
-/

set_option autoImplicit false

namespace WealthFinder.Ingestion

variable {σ α : Type}

/-! ## The attempts -/

/-- The operation, with the outcome of each attempt added to a log. -/
def recorded (op : Nat → EStateM OpError σ α) (attempt : Nat) :
    EStateM OpError (σ × List (Except OpError α)) α :=
  fun (state, tried) =>
    match op attempt state with
    | .ok value after => .ok value (after, tried ++ [.ok value])
    | .error cause after => .error cause (after, tried ++ [.error cause])

def DatabaseClient.execute (maxRetry : Int) (op : Nat → EStateM OpError σ α) :
    EStateM ClientError σ Unit :=
  (fun _ => ()) <$> runWithRetry maxRetry op

/-- What is raised from the error of the last attempt. -/
def translated : OpError → ClientError
  | .uniqueViolation => .uniqueConstraint
  | .dataOrNotNull => .database
  | .transient => .serviceUnavailable
  | .connectionOrInterface => .serviceUnavailable
  | .otherPostgres => .database
  | .uncaught error => .raw error

/-- The errors that the client is to raise. -/
def ClientError.isOwn : ClientError → Bool
  | .uniqueConstraint | .database | .serviceUnavailable => true
  | .raw _ => false

theorem executeWrite_eq (maxRetry : Int) (statement : EStateM OpError σ Unit)
    (attempts : Nat → Attempt) :
    executeWrite maxRetry statement attempts =
      DatabaseClient.execute maxRetry fun attempt => attempted statement (attempts attempt) :=
  rfl

/-! ## One run of the loop -/

/-- `tried` are the attempts of one call: few, and repeated only after a transient error. -/
structure Retried (limit : Int) (tried : List (Except OpError α)) : Prop where
  few : (tried.length : Int) ≤ limit
  repeated : ∀ outcome ∈ tried.dropLast, outcome = .error .transient

/-- What a call returns or raises belongs to its last attempt. -/
def OfLastAttempt (limit : Int) :
    EStateM.Result ClientError (σ × List (Except OpError α)) (Option α) → Prop
  | .ok value (_, tried) => Retried limit tried ∧
      ∃ completed, value = some completed ∧ tried.getLast? = some (.ok completed)
  | .error raised (_, tried) => Retried limit tried ∧
      ∃ cause, raised = translated cause ∧ tried.getLast? = some (.error cause)

def RaisesOwn {β : Type} : EStateM.Result ClientError σ β → Prop
  | .ok _ _ => True
  | .error raised _ => raised.isOwn = true

theorem Retried.single {limit : Int} (room : 1 ≤ limit) (outcome : Except OpError α) :
    Retried limit [outcome] := by
  refine ⟨?_, ?_⟩
  · simpa using room
  · intro earlier among
    simp at among

theorem Retried.cons {limit : Int} {tried : List (Except OpError α)}
    (later : Retried (limit - 1) tried) (nonempty : tried ≠ []) :
    Retried limit (.error .transient :: tried) := by
  have few := later.few
  refine ⟨?_, ?_⟩
  · rw [List.length_cons]
    push_cast
    omega
  · intro outcome among
    rw [List.dropLast_cons_of_ne_nil nonempty, List.mem_cons] at among
    cases among with
    | inl same => exact same
    | inr earlier => exact later.repeated outcome earlier

/-- The log of a call after `tried` attempts of it: the earlier log, and the call's own. -/
def OfCall (limit : Int) (log : List (Except OpError α)) :
    EStateM.Result ClientError (σ × List (Except OpError α)) (Option α) → Prop
  | .ok value (after, final) =>
      ∃ tried, final = log ++ tried ∧ OfLastAttempt limit (.ok value (after, tried))
  | .error raised (after, final) =>
      ∃ tried, final = log ++ tried ∧ OfLastAttempt limit (.error raised (after, tried))

/-- One more attempt, failed for a while, before the attempts of a call. -/
theorem OfCall.afterTransient {limit : Int} {log : List (Except OpError α)}
    {result : EStateM.Result ClientError (σ × List (Except OpError α)) (Option α)}
    (later : OfCall (limit - 1) (log ++ [.error .transient]) result) : OfCall limit log result := by
  cases result with
  | ok value final =>
      obtain ⟨tried, is, retried, completed, returned, last⟩ := later
      have nonempty : tried ≠ [] := by
        intro empty
        simp [empty] at last
      refine ⟨.error .transient :: tried, by simp [is], retried.cons nonempty, completed,
        returned, ?_⟩
      rw [List.getLast?_cons_of_ne_nil nonempty]
      exact last
  | error raised final =>
      obtain ⟨tried, is, retried, cause, ofCause, last⟩ := later
      have nonempty : tried ≠ [] := by
        intro empty
        simp [empty] at last
      refine ⟨.error .transient :: tried, by simp [is], retried.cons nonempty, cause, ofCause, ?_⟩
      rw [List.getLast?_cons_of_ne_nil nonempty]
      exact last

/-- The loop, by induction on the attempts that are left: the last one is never repeated. -/
theorem retryLoop_ofCall (maxRetry : Int) (op : Nat → EStateM OpError σ α)
    (remaining attempt : Nat) (counted : (attempt + remaining : Int) = maxRetry)
    (state : σ) (log : List (Except OpError α)) :
    OfCall (remaining + 1)
      log (retryLoop maxRetry (recorded op) (remaining + 1) attempt (state, log)) := by
  induction remaining generalizing attempt state log with
  | zero =>
      have isLast : (attempt : Int) = maxRetry := by omega
      simp only [retryLoop, recorded]
      cases ended : op attempt state with
      | ok value after => exact ⟨[.ok value], rfl, .single (by simp) _, value, rfl, rfl⟩
      | error cause after =>
          cases cause with
          | transient =>
              simp only [if_pos isLast]
              exact ⟨[.error .transient], rfl, .single (by simp) _, .transient, rfl, rfl⟩
          | uniqueViolation | dataOrNotNull | connectionOrInterface | otherPostgres
          | uncaught error =>
              exact ⟨_, rfl, .single (by simp) _, _, rfl, rfl⟩
  | succ remaining ih =>
      have notLast : (attempt : Int) ≠ maxRetry := by omega
      have room : (1 : Int) ≤ (remaining + 1 : Nat) + 1 := by omega
      rw [retryLoop]
      simp only [recorded]
      cases ended : op attempt state with
      | ok value after => exact ⟨[.ok value], rfl, .single room _, value, rfl, rfl⟩
      | error cause after =>
          cases cause with
          | transient =>
              simp only [if_neg notLast]
              refine OfCall.afterTransient ?_
              have later := ih (attempt + 1) (by push_cast; omega) after
                (log ++ [.error .transient])
              have sameLimit : ((remaining + 1 : Nat) : Int) + 1 - 1 = remaining + 1 := by omega
              rw [sameLimit]
              exact later
          | uniqueViolation | dataOrNotNull | connectionOrInterface | otherPostgres
          | uncaught error =>
              exact ⟨_, rfl, .single room _, _, rfl, rfl⟩

/-! ## A whole call -/

def withoutLog {β : Type} : EStateM.Result ClientError (σ × List (Except OpError α)) β →
    EStateM.Result ClientError σ β
  | .ok value (after, _) => .ok value after
  | .error raised (after, _) => .error raised after

theorem retryLoop_recorded (maxRetry : Int) (op : Nat → EStateM OpError σ α)
    (remaining attempt : Nat) (state : σ) (log : List (Except OpError α)) :
    withoutLog (retryLoop maxRetry (recorded op) remaining attempt (state, log)) =
      retryLoop maxRetry op remaining attempt state := by
  induction remaining generalizing attempt state log with
  | zero => rfl
  | succ remaining ih =>
      simp only [retryLoop, recorded]
      cases op attempt state with
      | ok value after => rfl
      | error cause after =>
          cases cause with
          | transient =>
              simp only
              split
              · rfl
              · exact ih (attempt + 1) after _
          | uniqueViolation | dataOrNotNull | connectionOrInterface | otherPostgres
          | uncaught error => rfl

theorem runWithRetry_recorded (maxRetry : Int) (op : Nat → EStateM OpError σ α) (state : σ) :
    withoutLog (runWithRetry maxRetry (recorded op) (state, [])) =
      runWithRetry maxRetry op state :=
  retryLoop_recorded maxRetry op _ 1 state []

/-- A statement that is reported as executed was completed by an attempt. -/
def Executed : EStateM.Result ClientError (σ × List (Except OpError α)) Unit → Prop
  | .ok _ (_, tried) => ∃ completed, tried.getLast? = some (.ok completed)
  | .error _ _ => True

/-- The call returns only the value of an attempt that completed, with one attempt at least
allowed, it raises errors of its own only, and `execute` reports no statement that was never
run. -/
def ReturnsOnlyResults (maxRetry : Int) (op : Nat → EStateM OpError σ α) (state : σ) : Prop :=
  OfLastAttempt (max 1 maxRetry) (runWithRetry maxRetry (recorded op) (state, [])) ∧
    RaisesOwn (runWithRetry maxRetry op state) ∧
    Executed (DatabaseClient.execute maxRetry (recorded op) (state, []))

/-! ## What the attempts may raise -/

/-- Of so many attempts from this one on, one that is made ends with an exception that no
clause matches. -/
inductive MeetsUncaught (op : Nat → EStateM OpError σ α) : Nat → Nat → σ → Prop where
  | here {remaining attempt : Nat} {state after : σ} {error : UncaughtError}
      (raised : op attempt state = .error (.uncaught error) after) :
      MeetsUncaught op (remaining + 1) attempt state
  | later {remaining attempt : Nat} {state after : σ}
      (failed : op attempt state = .error .transient after)
      (rest : MeetsUncaught op remaining (attempt + 1) after) :
      MeetsUncaught op (remaining + 1) attempt state

theorem meetsUncaught_iff {op : Nat → EStateM OpError σ α} {remaining attempt : Nat} {state : σ} :
    MeetsUncaught op (remaining + 1) attempt state ↔
      (∃ error after, op attempt state = .error (.uncaught error) after) ∨
      ∃ after, op attempt state = .error .transient after ∧
        MeetsUncaught op remaining (attempt + 1) after := by
  constructor
  · intro meets
    cases meets with
    | here raised => exact Or.inl ⟨_, _, raised⟩
    | later failed rest => exact Or.inr ⟨_, failed, rest⟩
  · intro either
    rcases either with ⟨error, after, raised⟩ | ⟨after, failed, rest⟩
    · exact .here raised
    · exact .later failed rest

/-- The loop, by induction on the attempts that are left. -/
theorem retryLoop_raisesOwn_iff (maxRetry : Int) (op : Nat → EStateM OpError σ α)
    (remaining attempt : Nat) (counted : (attempt + remaining : Int) = maxRetry + 1) (state : σ) :
    RaisesOwn (retryLoop maxRetry op remaining attempt state) ↔
      ¬ MeetsUncaught op remaining attempt state := by
  induction remaining generalizing attempt state with
  | zero =>
      refine iff_of_true trivial ?_
      intro meets
      cases meets
  | succ remaining ih =>
      rw [meetsUncaught_iff]
      simp only [retryLoop]
      cases ended : op attempt state with
      | ok value after => simp [RaisesOwn]
      | error cause after =>
          cases cause with
          | transient =>
              have later := ih (attempt + 1) (by push_cast at counted ⊢; omega) after
              simp only
              split
              · rename_i isLast
                have none' : remaining = 0 := by
                  push_cast at counted
                  omega
                subst none'
                refine iff_of_true rfl ?_
                rintro (⟨_, _, impossible⟩ | ⟨_, -, meets⟩)
                · cases impossible
                · cases meets
              · rw [later]
                simp
          | uncaught error => simp [RaisesOwn, ClientError.isOwn]
          | uniqueViolation | dataOrNotNull | connectionOrInterface | otherPostgres =>
              simp [RaisesOwn, ClientError.isOwn]

theorem runWithRetry_raisesOwn_iff (maxRetry : Int) (op : Nat → EStateM OpError σ α)
    (state : σ) : RaisesOwn (runWithRetry maxRetry op state) ↔
      ¬ MeetsUncaught op maxRetry.toNat 1 state := by
  rcases Int.lt_or_le maxRetry 0 with negative | natural
  · have noAttempt : maxRetry.toNat = 0 := by omega
    rw [runWithRetry, noAttempt]
    refine iff_of_true trivial ?_
    intro meets
    cases meets
  · exact retryLoop_raisesOwn_iff maxRetry op maxRetry.toNat 1 (by push_cast; omega) state

theorem runWithRetry_ofLastAttempt {maxRetry : Int} (allowed : 1 ≤ maxRetry)
    (op : Nat → EStateM OpError σ α) (state : σ) :
    OfLastAttempt (max 1 maxRetry) (runWithRetry maxRetry (recorded op) (state, [])) := by
  obtain ⟨remaining, is⟩ : ∃ remaining, maxRetry.toNat = remaining + 1 :=
    ⟨maxRetry.toNat - 1, by omega⟩
  have ofCall := retryLoop_ofCall maxRetry op remaining 1 (by push_cast; omega) state []
  have limit : max 1 maxRetry = (remaining : Int) + 1 := by omega
  rw [limit, runWithRetry, is]
  cases ran : retryLoop maxRetry (recorded op) (remaining + 1) 1 (state, []) with
  | ok value final =>
      rw [ran] at ofCall
      obtain ⟨tried, same, ofLast⟩ := ofCall
      subst same
      exact ofLast
  | error raised final =>
      rw [ran] at ofCall
      obtain ⟨tried, same, ofLast⟩ := ofCall
      subst same
      exact ofLast

theorem DatabaseClient.execute_executed {limit maxRetry : Int}
    {op : Nat → EStateM OpError σ α} {state : σ}
    (ofLast : OfLastAttempt limit (runWithRetry maxRetry (recorded op) (state, []))) :
    Executed (DatabaseClient.execute maxRetry (recorded op) (state, [])) := by
  cases ran : runWithRetry maxRetry (recorded op) (state, []) with
  | ok value final =>
      rw [ran] at ofLast
      obtain ⟨-, completed, -, last⟩ := ofLast
      rw [DatabaseClient.execute, map_of_ok _ ran]
      exact ⟨completed, last⟩
  | error raised final =>
      rw [DatabaseClient.execute, map_of_error _ ran]
      trivial

/-- The call is right exactly when the configured count allows an attempt and no attempt ends
with an exception that no clause matches. -/
theorem returnsOnlyResults_iff (maxRetry : Int) (op : Nat → EStateM OpError σ α) (state : σ) :
    ReturnsOnlyResults maxRetry op state ↔
      1 ≤ maxRetry ∧ ¬ MeetsUncaught op maxRetry.toNat 1 state := by
  rw [ReturnsOnlyResults, runWithRetry_raisesOwn_iff]
  constructor
  · rintro ⟨ofLast, matched, -⟩
    refine ⟨?_, matched⟩
    by_contra none
    have noAttempt : maxRetry.toNat = 0 := by omega
    rw [runWithRetry, noAttempt] at ofLast
    obtain ⟨-, completed, returned, -⟩ := ofLast
    cases returned
  · rintro ⟨allowed, matched⟩
    have ofLast := runWithRetry_ofLastAttempt allowed op state
    exact ⟨ofLast, matched, DatabaseClient.execute_executed ofLast⟩

/-- A statement that adds a row. -/
def addsRow (_ : Nat) : EStateM OpError Nat Unit := fun rows => .ok () (rows + 1)

def breaksProtocol (_ : Nat) : EStateM OpError Nat Unit := fun rows =>
  .error (.uncaught .protocolError) rows

/-- With DB_MAX_RETRY at zero a statement that is never run is reported as executed, and
with three attempts a ProtocolError is raised as it is. -/
theorem zero_retries_report_success :
    ¬ ReturnsOnlyResults 0 addsRow 0 ∧ ¬ ReturnsOnlyResults 3 breaksProtocol 0 := by
  constructor
  · rintro ⟨⟨-, completed, returned, -⟩, -, -⟩
    cases returned
  · rintro ⟨-, own, -⟩
    have raised : runWithRetry 3 breaksProtocol 0 = .error (.raw .protocolError) 0 := rfl
    rw [raised] at own
    cases own

end WealthFinder.Ingestion
