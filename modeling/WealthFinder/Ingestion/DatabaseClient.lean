import WealthFinder.Ingestion.Cleaning

/-!
# Writes of the data-ingestion database client

`DatabaseClient._run_with_retry` and the writes that go through it, as programs with a
state and exceptions.  What an attempt did to the tables stays done when it raises.
-/

set_option autoImplicit false

namespace WealthFinder.Ingestion

/-- Exceptions that no `except` clause of `_run_with_retry` matches: they are neither
PostgresError nor InterfaceError. -/
inductive UncaughtError where
  | internalClientError
  | protocolError
  | osError
  | timeoutError
  | other (name : String)
  deriving DecidableEq, Repr

/-- What an attempt raises, by the `except` clause of `_run_with_retry` that it meets. -/
inductive OpError where
  | uniqueViolation
  | dataOrNotNull
  | transient
  | connectionOrInterface
  | otherPostgres
  | uncaught (error : UncaughtError)
  deriving DecidableEq, Repr

/-- What the client raises instead; an exception that no clause matches leaves as it is. -/
inductive ClientError where
  | uniqueConstraint
  | database
  | serviceUnavailable
  | raw (error : UncaughtError)
  deriving DecidableEq, Repr

section Retry
variable {σ α : Type}

/-- The loop of `_run_with_retry` with so many attempts left, `attempt` counting from 1.
When no attempt is left the function returns None. -/
def retryLoop (maxRetry : Int) (op : Nat → EStateM OpError σ α) :
    Nat → Nat → EStateM ClientError σ (Option α)
  | 0, _ => pure none
  | remaining + 1, attempt => fun state =>
      match op attempt state with
      | .ok value after => .ok (some value) after
      | .error .uniqueViolation after => .error .uniqueConstraint after
      | .error .dataOrNotNull after => .error .database after
      | .error .transient after =>
          if (attempt : Int) = maxRetry then .error .serviceUnavailable after
          else retryLoop maxRetry op remaining (attempt + 1) after
      | .error .connectionOrInterface after => .error .serviceUnavailable after
      | .error .otherPostgres after => .error .database after
      | .error (.uncaught error) after => .error (.raw error) after

def runWithRetry (maxRetry : Int) (op : Nat → EStateM OpError σ α) :
    EStateM ClientError σ (Option α) :=
  retryLoop maxRetry op maxRetry.toNat 1

end Retry

section Writes
variable {σ ε α : Type}

/-- The state a program leaves, however it ends. -/
def stateAfter : EStateM.Result ε σ α → σ
  | .ok _ state => state
  | .error _ state => state

/-- One attempt of a statement that ends as said.  The callers tell no permanent error from
another but a UniqueViolationError, so one of them stands for all. -/
def attempted (statement : EStateM OpError σ α) : Attempt → EStateM OpError σ α
  | .done => statement
  | .transient applied => fun state =>
      .error .transient (if applied then stateAfter (statement state) else state)
  | .permanent applied => fun state =>
      .error .connectionOrInterface (if applied then stateAfter (statement state) else state)

/-- `fetchrow` of a statement whose every attempt ends as `attempts` says. -/
def executeReturning (maxRetry : Int) (statement : EStateM OpError σ (Option α))
    (attempts : Nat → Attempt) : EStateM ClientError σ (Option α) :=
  Option.join <$> runWithRetry maxRetry fun attempt => attempted statement (attempts attempt)

/-- `DatabaseClient.execute`. -/
def executeWrite (maxRetry : Int) (statement : EStateM OpError σ Unit)
    (attempts : Nat → Attempt) : EStateM ClientError σ Unit :=
  (fun _ => ()) <$> runWithRetry maxRetry fun attempt => attempted statement (attempts attempt)

/-! ## What a program leaves, however it ends -/

/-- A property of the state survives the program. -/
def Keeps (property : σ → Prop) (program : EStateM ε σ α) : Prop :=
  ∀ state, property state → property (stateAfter (program state))

variable {property : σ → Prop}

theorem bind_of_ok {β : Type} {program : EStateM ε σ α} {rest : α → EStateM ε σ β}
    {state next : σ} {value : α} (ended : program state = .ok value next) :
    (program >>= rest) state = rest value next := by
  change EStateM.bind program rest state = _
  unfold EStateM.bind
  rw [ended]

theorem bind_of_error {β : Type} {program : EStateM ε σ α} {rest : α → EStateM ε σ β}
    {state next : σ} {error : ε} (ended : program state = .error error next) :
    (program >>= rest) state = .error error next := by
  change EStateM.bind program rest state = _
  unfold EStateM.bind
  rw [ended]

theorem map_of_ok {β : Type} {program : EStateM ε σ α} {state next : σ} {value : α}
    (f : α → β) (ended : program state = .ok value next) :
    (f <$> program) state = .ok (f value) next := by
  change EStateM.map f program state = _
  unfold EStateM.map
  rw [ended]

theorem map_of_error {β : Type} {program : EStateM ε σ α} {state next : σ} {error : ε}
    (f : α → β) (ended : program state = .error error next) :
    (f <$> program) state = .error error next := by
  change EStateM.map f program state = _
  unfold EStateM.map
  rw [ended]

theorem tryCatch_of_ok {program : EStateM ε σ α} {handler : ε → EStateM ε σ α}
    {state next : σ} {value : α} (ended : program state = .ok value next) :
    tryCatch program handler state = .ok value next := by
  change EStateM.tryCatch program handler state = _
  unfold EStateM.tryCatch
  rw [ended]

theorem tryCatch_of_error {program : EStateM ε σ α} {handler : ε → EStateM ε σ α}
    {state next : σ} {error : ε} (ended : program state = .error error next) :
    tryCatch program handler state = handler error next := by
  change EStateM.tryCatch program handler state = _
  unfold EStateM.tryCatch
  rw [ended]
  rfl

theorem keeps_pure (value : α) : Keeps property (pure value : EStateM ε σ α) :=
  fun _ holds => holds

theorem keeps_throw (error : ε) : Keeps property (throw error : EStateM ε σ α) :=
  fun _ holds => holds

theorem bind_leaves {β : Type} {program : EStateM ε σ α} {rest : α → EStateM ε σ β} {state : σ}
    (left : property (stateAfter (program state))) (keeps : ∀ value, Keeps property (rest value)) :
    property (stateAfter ((program >>= rest) state)) := by
  cases ended : program state with
  | ok value next =>
      rw [ended] at left
      rw [bind_of_ok ended]
      exact keeps value next left
  | error raised next =>
      rw [ended] at left
      rw [bind_of_error ended]
      exact left

theorem tryCatch_leaves {program : EStateM ε σ α} {handler : ε → EStateM ε σ α} {state : σ}
    (left : property (stateAfter (program state)))
    (keeps : ∀ error, Keeps property (handler error)) :
    property (stateAfter (tryCatch program handler state)) := by
  cases ended : program state with
  | ok value next =>
      rw [ended] at left
      rw [tryCatch_of_ok ended]
      exact left
  | error raised next =>
      rw [ended] at left
      rw [tryCatch_of_error ended]
      exact keeps raised next left

theorem Keeps.bind {β : Type} {program : EStateM ε σ α} {rest : α → EStateM ε σ β}
    (first : Keeps property program) (second : ∀ value, Keeps property (rest value)) :
    Keeps property (program >>= rest) :=
  fun state holds => bind_leaves (first state holds) second

theorem Keeps.map {β : Type} {program : EStateM ε σ α} (keeps : Keeps property program)
    (f : α → β) : Keeps property (f <$> program) := by
  intro state holds
  have left := keeps state holds
  change property (stateAfter (EStateM.map f program state))
  unfold EStateM.map
  cases ended : program state <;> rw [ended] at left <;> exact left

theorem retryLoop_keeps {maxRetry : Int} {op : Nat → EStateM OpError σ α}
    (keeps : ∀ attempt, Keeps property (op attempt)) (remaining attempt : Nat) :
    Keeps property (retryLoop maxRetry op remaining attempt) := by
  induction remaining generalizing attempt with
  | zero => exact keeps_pure none
  | succ remaining ih =>
      intro state holds
      have left := keeps attempt state holds
      simp only [retryLoop]
      cases ended : op attempt state with
      | ok value next =>
          rw [ended] at left
          exact left
      | error raised next =>
          rw [ended] at left
          cases raised with
          | transient =>
              simp only
              split
              · exact left
              · exact ih (attempt + 1) next left
          | uniqueViolation | dataOrNotNull | connectionOrInterface | otherPostgres
          | uncaught error => exact left

theorem attempted_keeps {statement : EStateM OpError σ α} (keeps : Keeps property statement)
    (attempt : Attempt) : Keeps property (attempted statement attempt) := by
  intro state holds
  cases attempt with
  | done => exact keeps state holds
  | transient applied | permanent applied =>
      cases applied with
      | false => exact holds
      | true => exact keeps state holds

theorem executeWrite_keeps {maxRetry : Int} {statement : EStateM OpError σ Unit}
    {attempts : Nat → Attempt} (keeps : Keeps property statement) :
    Keeps property (executeWrite maxRetry statement attempts) :=
  (retryLoop_keeps (fun attempt => attempted_keeps keeps (attempts attempt)) _ _).map _

theorem executeReturning_keeps {maxRetry : Int} {statement : EStateM OpError σ (Option α)}
    {attempts : Nat → Attempt} (keeps : Keeps property statement) :
    Keeps property (executeReturning maxRetry statement attempts) :=
  (retryLoop_keeps (fun attempt => attempted_keeps keeps (attempts attempt)) _ _).map _

end Writes

end WealthFinder.Ingestion
