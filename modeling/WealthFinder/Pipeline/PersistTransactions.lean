import WealthFinder.Machine
import WealthFinder.Pipeline.EventRepository

/-!
# `persist_events` statement by statement

Any number of calls interleave at their statements.  Each call is one READ
COMMITTED transaction: a statement sees the committed rows and the call's own
writes, an upsert holds its row until the call ends, and an insert waits for
another call's insert of the same key.
-/

set_option autoImplicit false

namespace WealthFinder.Pipeline

/-- An open call: the mappings still to insert for `current`, the Events after
it, and what the transaction has written. -/
structure Call where
  env : PersistEnv
  current : UUID
  pending : List UUID
  rest : List Event
  events : UUID → Option EventRow
  entityMap : UUID → Option EventEntityMap

/-- `rowLocks` and `keyLocks` name the call that holds an `events` row or has an
uncommitted `event_entity_map` row. -/
structure TransactionState where
  entityEvents : EntityEvents
  tables : EventTables
  calls : Nat → Option Call
  rowLocks : UUID → Option Nat
  keyLocks : UUID → Option Nat

namespace TransactionState

def initial : TransactionState where
  entityEvents := fun _ => none
  tables := EventTables.empty
  calls := fun _ => none
  rowLocks := fun _ => none
  keyLocks := fun _ => none

/-- Whether the call need not wait for another one. -/
def free (locks : UUID → Option Nat) (call : Nat) (id : UUID) : Bool :=
  match locks id with
  | none => true
  | some holder => holder == call

def release (locks : UUID → Option Nat) (call : Nat) : UUID → Option Nat :=
  fun id => if locks id = some call then none else locks id

def close (state : TransactionState) (call : Nat) : TransactionState :=
  { state with
    calls := Function.update state.calls call none
    rowLocks := release state.rowLocks call
    keyLocks := release state.keyLocks call }

end TransactionState

open TransactionState

/-- What the statements of the call see. -/
def Call.view (call : Call) (tables : EventTables) : EventTables where
  events := fun eventId => (call.events eventId).or (tables.events eventId)
  entityMap := fun id => (call.entityMap id).or (tables.entityMap id)

/-- The transaction's rows after a statement that returned the row it wrote. -/
def Call.written (call : Call) (eventId : UUID) : Option EventRow → UUID → Option EventRow
  | some row => Function.update call.events eventId (some row)
  | none => call.events

/-- The next mapping of the current Event.  A failing statement ends the
call. -/
def executeMapping (state : TransactionState) (number : Nat) (call : Call)
    (id : UUID) (rest : List UUID) : Option TransactionState :=
  let seen := call.view state.tables
  let mapping : EventEntityMap := ⟨call.current, id, call.env.createdAt⟩
  if free state.keyLocks number id then
    match insertMapping state.entityEvents seen.events seen.entityMap mapping with
    | none => some (state.close number)
    | some _ =>
        if (seen.entityMap id).isSome then
          some { state with
            calls := Function.update state.calls number (some { call with pending := rest }) }
        else
          some { state with
            calls := Function.update state.calls number (some { call with
              pending := rest
              entityMap := Function.update call.entityMap id (some mapping) })
            keyLocks := Function.update state.keyLocks id (some number) }
  else none

/-- The upsert of the next Event.  It locks a conflicting row also where the
WHERE clause then refuses the update. -/
def executeUpsert (state : TransactionState) (number : Nat) (call : Call)
    (event : Event) (rest : List Event) : Option TransactionState :=
  if free state.rowLocks number event.eventId then
    match upsertEvent call.env.order state.entityEvents call.env.now
        (call.view state.tables).events event with
    | none => some (state.close number)
    | some (returned, _) =>
        some { state with
          calls := Function.update state.calls number (some { call with
            current := event.eventId
            pending := event.entityEventIds
            rest := rest
            events := call.written event.eventId returned })
          rowLocks := Function.update state.rowLocks event.eventId (some number) }
  else none

inductive TransactionAction where
  | storeEntityEvent (row : EntityEvent)
  | start (call : Nat) (env : PersistEnv) (snapshots : List Event)
  | execute (call : Nat)
  | fail (call : Nat)
  | commit (call : Nat)

def transactionStep (state : TransactionState) : TransactionAction → Option TransactionState
  | .storeEntityEvent row =>
      if (state.entityEvents row.entityEventId).isSome then none
      else some { state with
        entityEvents := Function.update state.entityEvents row.entityEventId (some row) }
  | .start number env snapshots =>
      match state.calls number with
      | some _ => none
      | none => some { state with
          calls := Function.update state.calls number
            (some ⟨env, 0, [], snapshots, fun _ => none, fun _ => none⟩) }
  | .execute number =>
      match state.calls number with
      | none => none
      | some call =>
          match call.pending, call.rest with
          | id :: rest, _ => executeMapping state number call id rest
          | [], event :: rest => executeUpsert state number call event rest
          | [], [] => none
  | .fail number => (state.calls number).map fun _ => state.close number
  | .commit number =>
      match state.calls number with
      | none => none
      | some call =>
          if call.pending = [] ∧ call.rest = [] then
            some { state.close number with tables := call.view state.tables }
          else none

def transactionMachine : Machine TransactionState TransactionAction where
  init := fun state => state = TransactionState.initial
  step := transactionStep

end WealthFinder.Pipeline
