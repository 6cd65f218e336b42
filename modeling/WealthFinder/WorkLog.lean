import Mathlib.Data.List.Basic
import Mathlib.Logic.Function.Basic

/-!
# The log of a worker with a queue

A worker takes the units of its queue one at a time, in the order in which they were
put there, and may retire.  The log tells what happened in the order in which it
happened; what a worker owes is a statement about every place of its log.
-/

set_option autoImplicit false

namespace WealthFinder

universe u v

inductive WorkEvent (Work : Type u) where
  | enqueued (work : Work)
  | started (work : Work)
  | finished (work : Work)
  | retired
  deriving DecidableEq

namespace WorkEvent

variable {Work : Type u}

def enqueued? : WorkEvent Work → Option Work
  | enqueued work => some work
  | _ => none

def started? : WorkEvent Work → Option Work
  | started work => some work
  | _ => none

def finished? : WorkEvent Work → Option Work
  | finished work => some work
  | _ => none

end WorkEvent

abbrev WorkLog (Work : Type u) := List (WorkEvent Work)

namespace WorkLog

variable {Work : Type u}

/-- The units in the order in which they were put on the queue. -/
def enqueued (log : WorkLog Work) : List Work := log.filterMap WorkEvent.enqueued?

def started (log : WorkLog Work) : List Work := log.filterMap WorkEvent.started?

def finished (log : WorkLog Work) : List Work := log.filterMap WorkEvent.finished?

/-- A unit starts when no other runs and every unit put on the queue before it has
started.  The worker retires once, with every unit finished. -/
def Follows (before : WorkLog Work) : WorkEvent Work → Prop
  | .enqueued _ => True
  | .started work => before.started = before.finished ∧
      ∃ waiting, before.enqueued = before.started ++ work :: waiting
  | .finished work => before.started = before.finished ++ [work]
  | .retired => before.finished = before.enqueued ∧ .retired ∉ before

def InOrder (log : WorkLog Work) : Prop :=
  ∀ before event after, log = before ++ event :: after → Follows before event

/-! ## A longer log -/

section Append
variable (log : WorkLog Work) (event : WorkEvent Work)

@[simp] theorem enqueued_append (more : WorkLog Work) :
    (log ++ more).enqueued = log.enqueued ++ more.enqueued := List.filterMap_append

@[simp] theorem started_append (more : WorkLog Work) :
    (log ++ more).started = log.started ++ more.started := List.filterMap_append

@[simp] theorem finished_append (more : WorkLog Work) :
    (log ++ more).finished = log.finished ++ more.finished := List.filterMap_append

@[simp] theorem enqueued_cons :
    enqueued (event :: log) = event.enqueued?.toList ++ log.enqueued := by
  cases event <;> rfl

@[simp] theorem started_cons :
    started (event :: log) = event.started?.toList ++ log.started := by
  cases event <;> rfl

@[simp] theorem finished_cons :
    finished (event :: log) = event.finished?.toList ++ log.finished := by
  cases event <;> rfl

@[simp] theorem enqueued_nil : enqueued ([] : WorkLog Work) = [] := rfl

@[simp] theorem started_nil : started ([] : WorkLog Work) = [] := rfl

@[simp] theorem finished_nil : finished ([] : WorkLog Work) = [] := rfl

end Append

/-- A place of a log with one more event is the last one or a place of the log. -/
theorem split_append {Event : Type u} {log before after : List Event} {last event : Event}
    (split : log ++ [last] = before ++ event :: after) :
    (log = before ∧ last = event ∧ after = []) ∨
      ∃ rest, after = rest ++ [last] ∧ log = before ++ event :: rest := by
  rcases List.eq_nil_or_concat after with rfl | ⟨rest, final, rfl⟩
  · obtain ⟨same, is⟩ := List.append_inj' split rfl
    exact Or.inl ⟨same, List.head_eq_of_cons_eq is, rfl⟩
  · rw [List.concat_eq_append, ← List.cons_append, ← List.append_assoc] at split
    obtain ⟨same, is⟩ := List.append_inj' split rfl
    rw [List.concat_eq_append, List.head_eq_of_cons_eq is]
    exact Or.inr ⟨rest, rfl, same⟩

theorem inOrder_nil : InOrder ([] : WorkLog Work) := by
  intro before event after split
  exact absurd split.symm (List.append_ne_nil_of_right_ne_nil _ (List.cons_ne_nil _ _))

theorem InOrder.append {log : WorkLog Work} (inOrder : log.InOrder) {event : WorkEvent Work}
    (follows : Follows log event) : InOrder (log ++ [event]) := by
  intro before other after split
  rcases split_append split with ⟨rfl, rfl, -⟩ | ⟨rest, -, is⟩
  · exact follows
  · exact inOrder before other rest is

theorem InOrder.retired_once [DecidableEq Work] {log : WorkLog Work} (inOrder : log.InOrder) :
    log.count .retired ≤ 1 := by
  by_cases retired : .retired ∈ log
  · obtain ⟨before, after, rfl, first⟩ := List.eq_append_cons_of_mem retired
    have none' : .retired ∉ after := by
      intro again
      obtain ⟨between, rest, rfl⟩ := List.append_of_mem again
      have follows := inOrder (before ++ .retired :: between) .retired rest (by simp)
      exact follows.2 (by simp)
    have before' : before.count .retired = 0 := List.count_eq_zero.mpr first
    have after' : after.count .retired = 0 := List.count_eq_zero.mpr none'
    rw [List.count_append, List.count_cons_self]
    omega
  · rw [List.count_eq_zero.mpr retired]
    exact Nat.zero_le 1

/-! ## The queue and its log -/

/-- The log accounts for the unit that runs and the units that wait. -/
structure Accounts (log : WorkLog Work) (running : Option Work) (queue : List Work) : Prop where
  inOrder : log.InOrder
  waiting : log.enqueued = log.started ++ queue
  busy : log.started = log.finished ++ running.toList

theorem accounts_nil : Accounts ([] : WorkLog Work) none [] := ⟨inOrder_nil, rfl, rfl⟩

section Accounts
variable {log : WorkLog Work} {running : Option Work} {queue : List Work} {work : Work}

theorem Accounts.enqueue (accounts : log.Accounts running queue) :
    Accounts (log ++ [.enqueued work]) running (queue ++ [work]) where
  inOrder := accounts.inOrder.append trivial
  waiting := by simp [WorkEvent.enqueued?, WorkEvent.started?, accounts.waiting]
  busy := by simp [WorkEvent.finished?, WorkEvent.started?, accounts.busy]

theorem Accounts.start (accounts : log.Accounts none (work :: queue)) :
    Accounts (log ++ [.started work]) (some work) queue where
  inOrder := by
    refine accounts.inOrder.append ⟨?_, queue, accounts.waiting⟩
    simpa using accounts.busy
  waiting := by simp [WorkEvent.enqueued?, WorkEvent.started?, accounts.waiting]
  busy := by simp [WorkEvent.finished?, WorkEvent.started?, accounts.busy]

theorem Accounts.finish (accounts : log.Accounts (some work) queue) :
    Accounts (log ++ [.finished work]) none queue where
  inOrder := accounts.inOrder.append accounts.busy
  waiting := by simp [WorkEvent.enqueued?, WorkEvent.started?, accounts.waiting]
  busy := by simp [WorkEvent.finished?, WorkEvent.started?, accounts.busy]

theorem Accounts.retire (accounts : log.Accounts none []) (first : .retired ∉ log) :
    Accounts (log ++ [.retired]) none [] where
  inOrder := by
    refine accounts.inOrder.append ⟨?_, first⟩
    rw [accounts.waiting, accounts.busy]
    simp
  waiting := by simp [WorkEvent.enqueued?, WorkEvent.started?, accounts.waiting]
  busy := by simp [WorkEvent.finished?, WorkEvent.started?, accounts.busy]

end Accounts

/-- At a start every earlier unit has started and finished. -/
theorem InOrder.started_at {log before after : WorkLog Work} {work : Work}
    (inOrder : log.InOrder) (split : log = before ++ .started work :: after) :
    log.enqueued[before.started.length]? = some work ∧
    ∀ place < before.started.length, before.started[place]? = log.enqueued[place]? ∧
      before.finished[place]? = log.enqueued[place]? := by
  obtain ⟨idle, waiting, queued⟩ := inOrder before _ after split
  have enqueued : log.enqueued = before.started ++ work :: (waiting ++ after.enqueued) := by
    rw [split, enqueued_append, enqueued_cons, queued]
    simp [WorkEvent.enqueued?]
  rw [enqueued]
  refine ⟨by simp, ?_⟩
  intro place earlier
  rw [← idle, List.getElem?_append_left earlier]
  exact ⟨rfl, rfl⟩

/-- Every start is of the unit that was put on the queue at its place. -/
theorem Accounts.getElem?_started {log : WorkLog Work} {running : Option Work}
    {queue : List Work} (accounts : log.Accounts running queue) {place : Nat} {work : Work}
    (found : log.started[place]? = some work) : log.enqueued[place]? = some work := by
  rw [accounts.waiting, List.getElem?_append_left (List.getElem?_eq_some_iff.mp found).1]
  exact found

/-! ## Many workers -/

section Workers
variable {Index : Type v} [DecidableEq Index]

/-- The logs after an event of one worker, or after none. -/
def addTo (logs : Index → WorkLog Work) : Option (Index × WorkEvent Work) →
    Index → WorkLog Work
  | none => logs
  | some (index, event) => Function.update logs index (logs index ++ [event])

variable {logs : Index → WorkLog Work} {index : Index} {event : Option (WorkEvent Work)}

theorem addTo_same :
    addTo logs (event.map fun event => (index, event)) index = logs index ++ event.toList := by
  cases event with
  | none => exact (List.append_nil _).symm
  | some event => exact Function.update_self ..

theorem addTo_other {other : Index} (apart : other ≠ index) :
    addTo logs (event.map fun event => (index, event)) other = logs other := by
  cases event with
  | none => rfl
  | some event => exact Function.update_of_ne apart ..

end Workers

end WorkLog

end WealthFinder
