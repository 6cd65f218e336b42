import Mathlib.Logic.Function.Basic

/-!
# Transactions of the pipeline database client

`_db_write_with_retry`, `_begin`, `transaction()` and `execute_returning`, which may fail
at every await.  A block is any program over the connection's statements.  The trace is a
ghost: it says what was acquired, sent, and released, in order.
-/

set_option autoImplicit false

namespace WealthFinder.Pipeline.Database

/-! ## Exceptions -/

/-- The classes of asyncpg's errors, and of the system's, that the client tells apart. -/
inductive DriverErrorKind where
  | uniqueViolation
  | tooManyConnections
  | postgresConnection
  | cannotConnectNow
  | osError
  | interface
  | otherPostgres
  deriving DecidableEq, Repr

/-- `text` is its `repr`. -/
structure DriverError where
  kind : DriverErrorKind
  constraintName : Option String
  text : String
  deriving DecidableEq, Repr

inductive ErrorCategory where
  | aggregation
  | common
  | config
  | db
  | entityAnalysis
  | llm
  | newsClient
  | redis
  | scoring
  | stockList
  deriving DecidableEq, Repr

inductive Raised where
  | driver (error : DriverError)
  | uniqueConstraintError (constraintName : String) (category : ErrorCategory)
  | serviceUnavailableError (devMessage : String) (category : ErrorCategory)
  | databaseError (devMessage : String) (category : ErrorCategory)
  | cancelledError
  | other (name : String)
  deriving DecidableEq, Repr

def DriverErrorKind.isTransient : DriverErrorKind → Bool
  | .tooManyConnections | .postgresConnection | .cannotConnectNow | .osError => true
  | .uniqueViolation | .interface | .otherPostgres => false

def DriverErrorKind.isConnection (kind : DriverErrorKind) : Bool :=
  kind.isTransient || kind = .interface

def Raised.isTransient : Raised → Bool
  | .driver error => error.kind.isTransient
  | .uniqueConstraintError _ _ | .serviceUnavailableError _ _ | .databaseError _ _
  | .cancelledError | .other _ => false

/-- Whether `except Exception` catches it. -/
def Raised.isException : Raised → Bool
  | .cancelledError => false
  | .driver _ | .uniqueConstraintError _ _ | .serviceUnavailableError _ _ | .databaseError _ _
  | .other _ => true

/-- What leaves `with _translated_errors()`. -/
def Raised.translated : Raised → Raised
  | .driver error =>
      if error.kind = .uniqueViolation then
        .uniqueConstraintError (error.constraintName.getD "") .db
      else if error.kind.isConnection then
        .serviceUnavailableError ("DB connection error: " ++ error.text) .db
      else .databaseError ("DB error: " ++ error.text) .db
  | .uniqueConstraintError name category => .uniqueConstraintError name category
  | .serviceUnavailableError message category => .serviceUnavailableError message category
  | .databaseError message category => .databaseError message category
  | .cancelledError => .cancelledError
  | .other name => .other name

/-! ## The database and the pool -/

inductive Sql (S : Type) where
  | begin
  | commit
  | rollback
  | statement (statement : S)

/-- A call that raises, and whether the server did what it was sent. -/
structure Fault where
  raised : Raised
  applied : Bool
  deriving DecidableEq, Repr

/-- Whether the server did what it was sent. -/
def appliedUnder : Option Fault → Bool
  | none => true
  | some fault => fault.applied

inductive DbEvent (S : Type) where
  | acquired (conn : Nat)
  | acquireFailed (raised : Raised)
  | ran (conn : Nat) (sql : Sql S) (fault : Option Fault)
  | slept (raised : Option Raised)
  | blockEnded (raised : Option Raised)
  | released (conn : Nat)

/-- What the server holds for a connection.  A failed statement aborts its transaction. -/
inductive Session (T : Type) where
  | idle
  | inTransaction (view : T)
  | aborted

/-- `stored` is what is committed, and `caller` what the block's program holds. -/
structure World (S T σ : Type) where
  nextConn : Nat
  stored : T
  sessions : Nat → Session T
  caller : σ
  trace : List (DbEvent S)

/-- How each await ends: of an attempt by its number, of a statement by its place in the
block or its attempt. -/
structure Faults where
  acquire : Nat → Option Raised
  begin : Nat → Option Fault
  sleep : Nat → Option Raised
  statement : Nat → Option Fault
  commit : Option Fault
  rollback : Option Fault

/-- The awaits, and what a statement does to the tables. -/
structure Environment (S T R : Type) extends Faults where
  exec : S → T → Except DriverError (T × Option R)

/-- What runs under `async with transaction()`: it sends statements, sees each reply or
error, and ends with what its program then holds. -/
inductive Block (S R σ : Type) where
  | ended (caller : σ) (raised : Option Raised)
  | execute (statement : S) (next : Except Raised (Option R) → Block S R σ)

section Client
variable {S T R σ : Type}

namespace World

def log (world : World S T σ) (event : DbEvent S) : World S T σ :=
  { world with trace := world.trace ++ [event] }

def setSession (world : World S T σ) (conn : Nat) (session : Session T) : World S T σ :=
  { world with sessions := Function.update world.sessions conn session }

end World

def failedTransaction : DriverError where
  kind := .otherPostgres
  constraintName := none
  text := "InFailedSQLTransactionError('current transaction is aborted')"

/-- The server's part of a call. -/
def serve (env : Environment S T R) (world : World S T σ) (conn : Nat) :
    Sql S → Except Raised (Option R) × World S T σ
  | .begin => (.ok none, world.setSession conn (.inTransaction world.stored))
  | .commit =>
      match world.sessions conn with
      | .inTransaction view => (.ok none, { world.setSession conn .idle with stored := view })
      | .idle | .aborted => (.ok none, world.setSession conn .idle)
  | .rollback => (.ok none, world.setSession conn .idle)
  | .statement statement =>
      match world.sessions conn with
      | .inTransaction view =>
          match env.exec statement view with
          | .ok (after, row) => (.ok row, world.setSession conn (.inTransaction after))
          | .error error => (.error (.driver error), world.setSession conn .aborted)
      | .aborted => (.error (.driver failedTransaction), world)
      | .idle =>
          match env.exec statement world.stored with
          | .ok (after, row) => (.ok row, { world with stored := after })
          | .error error => (.error (.driver error), world)

def send (env : Environment S T R) (world : World S T σ) (conn : Nat) (sql : Sql S)
    (fault : Option Fault) : Except Raised (Option R) × World S T σ :=
  let (reply, served) := serve env world conn sql
  ((match fault with
    | none => reply
    | some fault => .error fault.raised),
    (if appliedUnder fault then served else world).log (.ran conn sql fault))

/-- The pool resets a connection that it takes back. -/
def release (conn : Nat) (world : World S T σ) : World S T σ :=
  (world.setSession conn .idle).log (.released conn)

/-! ## The client -/

variable {α : Type}

/-- `with _translated_errors()` around a call. -/
def translatedErrors : Except Raised α × World S T σ → Except Raised α × World S T σ
  | (.ok value, world) => (.ok value, world)
  | (.error raised, world) => (.error raised.translated, world)

/-- The loop of `_db_write_with_retry`, from this attempt on. -/
def retryLoop (maxRetry : Int) (sleep : Nat → Option Raised)
    (write : Nat → World S T σ → Except Raised α × World S T σ) (attempt : Nat)
    (world : World S T σ) : Except Raised α × World S T σ :=
  match write attempt world with
  | (.ok value, after) => (.ok value, after)
  | (.error raised, after) =>
      if raised.isTransient then
        if maxRetry ≤ attempt then (.error raised, after)
        else
          match sleep attempt with
          | some cancelled => (.error cancelled, after.log (.slept (some cancelled)))
          | none => retryLoop maxRetry sleep write (attempt + 1) (after.log (.slept none))
      else (.error raised, after)
termination_by (maxRetry - attempt).toNat

def dbWriteWithRetry (maxRetry : Int) (sleep : Nat → Option Raised)
    (write : Nat → World S T σ → Except Raised α × World S T σ) (world : World S T σ) :
    Except Raised α × World S T σ :=
  translatedErrors (retryLoop maxRetry sleep write 1 world)

def acquire (env : Environment S T R) (attempt : Nat) (world : World S T σ) :
    Except Raised Nat × World S T σ :=
  match env.acquire attempt with
  | some raised => (.error raised, world.log (.acquireFailed raised))
  | none =>
      (.ok world.nextConn,
        ({ world with nextConn := world.nextConn + 1 }.setSession world.nextConn .idle).log
          (.acquired world.nextConn))

def begin (env : Environment S T R) (attempt : Nat) (world : World S T σ) :
    Except Raised Nat × World S T σ :=
  match acquire env attempt world with
  | (.error raised, after) => (.error raised, after)
  | (.ok conn, after) =>
      match send env after conn .begin (env.begin attempt) with
      | (.error raised, failed) => (.error raised, release conn failed)
      | (.ok _, opened) => (.ok conn, opened)

/-- The block's program, from its statement with this number on.  `TransactionConnection`
translates the errors of its statements. -/
def runBlock (env : Environment S T R) (conn : Nat) :
    Nat → Block S R σ → World S T σ → Except Raised Unit × World S T σ
  | _, .ended caller raised, world =>
      ((match raised with
        | none => .ok ()
        | some raised => .error raised),
        { world with caller := caller }.log (.blockEnded raised))
  | number, .execute statement next, world =>
      let (reply, after) :=
        translatedErrors (send env world conn (.statement statement) (env.statement number))
      runBlock env conn (number + 1) (next reply) after

/-- The `yield` and the COMMIT. -/
def runAndCommit (env : Environment S T R) (conn : Nat) (block : Block S R σ)
    (world : World S T σ) : Except Raised Unit × World S T σ :=
  match runBlock env conn 0 block world with
  | (.error raised, left) => (.error raised, left)
  | (.ok (), left) =>
      match translatedErrors (send env left conn .commit env.commit) with
      | (.error raised, after) => (.error raised, after)
      | (.ok _, after) => (.ok (), after)

/-- `except BaseException`: the ROLLBACK with its exceptions suppressed, then `raise`. -/
def rollbackAndRaise (env : Environment S T R) (conn : Nat) (raised : Raised)
    (world : World S T σ) : Except Raised Unit × World S T σ :=
  match send env world conn .rollback env.rollback with
  | (.ok _, after) => (.error raised, after)
  | (.error failed, after) => (.error (if failed.isException then raised else failed), after)

/-- The `try` statement of `transaction()`, its `finally` included. -/
def runInTransaction (env : Environment S T R) (conn : Nat) (block : Block S R σ)
    (world : World S T σ) : Except Raised Unit × World S T σ :=
  match runAndCommit env conn block world with
  | (.ok (), after) => (.ok (), release conn after)
  | (.error raised, after) =>
      let (result, rolledBack) := rollbackAndRaise env conn raised after
      (result, release conn rolledBack)

def transaction (maxRetry : Int) (env : Environment S T R) (block : Block S R σ)
    (world : World S T σ) : Except Raised Unit × World S T σ :=
  match dbWriteWithRetry maxRetry env.sleep (begin env) world with
  | (.error raised, after) => (.error raised, after)
  | (.ok conn, opened) => runInTransaction env conn block opened

/-- One attempt of `execute_returning`, on a connection of its own. -/
def executeOnce (env : Environment S T R) (statement : S) (attempt : Nat) (world : World S T σ) :
    Except Raised (Option R) × World S T σ :=
  match acquire env attempt world with
  | (.error raised, after) => (.error raised, after)
  | (.ok conn, held) =>
      let (reply, after) := send env held conn (.statement statement) (env.statement attempt)
      (reply, release conn after)

def executeReturning (maxRetry : Int) (env : Environment S T R) (statement : S)
    (world : World S T σ) : Except Raised (Option R) × World S T σ :=
  dbWriteWithRetry maxRetry env.sleep (executeOnce env statement) world

end Client

end WealthFinder.Pipeline.Database
