import Mathlib.Data.List.Perm.Basic
import WealthFinder.Tables

/-!
# A fair counting semaphore with cancellable waiters

The semaphore of a cooperative scheduler.  A caller that finds it locked waits on a
future; a permit given back is handed to the first waiter whose future is still
pending, which resumes in a later turn.  Between the two the permit is neither free
nor held.  `permits` counts the free permits and those handed over, so what a caller
holds is what is missing from it.
-/

set_option autoImplicit false

namespace WealthFinder

universe u

/-- The future a waiter awaits.  `grantedCancelled` is one that got its permit
before its waiter was cancelled. -/
inductive Grant where
  | pending
  | granted
  | cancelled
  | grantedCancelled
  deriving DecidableEq

namespace Grant

/-- A permit was handed over and the waiter has not resumed yet. -/
def isHanded : Grant → Bool
  | granted => true
  | grantedCancelled => true
  | _ => false

/-- Cancelling a future that is done does not undo it. -/
def cancel : Grant → Grant
  | pending => cancelled
  | granted => grantedCancelled
  | grant => grant

@[simp] theorem isHanded_cancel (grant : Grant) : grant.cancel.isHanded = grant.isHanded := by
  cases grant <;> rfl

end Grant

structure Waiter (Caller : Type u) where
  caller : Caller
  grant : Grant
  deriving DecidableEq

/-- `value` is the number of free permits. -/
structure Semaphore (Caller : Type u) where
  value : Nat
  waiters : List (Waiter Caller)
  deriving DecidableEq

namespace Semaphore

variable {Caller : Type u}

def ofValue (value : Nat) : Semaphore Caller := ⟨value, []⟩

/-- A caller has to wait. -/
def locked (semaphore : Semaphore Caller) : Bool :=
  semaphore.value == 0 || semaphore.waiters.any fun waiter => waiter.grant != .cancelled

/-- The first waiter that is not done gets a permit. -/
def grantFirst : List (Waiter Caller) → Option (List (Waiter Caller))
  | [] => none
  | waiter :: rest =>
      if waiter.grant = .pending then some ({ waiter with grant := .granted } :: rest)
      else (grantFirst rest).map (waiter :: ·)

def wakeUpNext (semaphore : Semaphore Caller) : Semaphore Caller :=
  match grantFirst semaphore.waiters with
  | none => semaphore
  | some waiters => ⟨semaphore.value - 1, waiters⟩

/-- Wake up as many waiters as there are free permits. -/
def wakeUpAll : Nat → List (Waiter Caller) → Semaphore Caller
  | 0, waiters => ⟨0, waiters⟩
  | value + 1, waiters =>
      match grantFirst waiters with
      | none => ⟨value + 1, waiters⟩
      | some woken => wakeUpAll value woken

/-- The flag says whether the permit was had at once. -/
def acquire (semaphore : Semaphore Caller) (caller : Caller) : Bool × Semaphore Caller :=
  if semaphore.locked then
    (false, { semaphore with waiters := semaphore.waiters ++ [⟨caller, .pending⟩] })
  else (true, { semaphore with value := semaphore.value - 1 })

def release (semaphore : Semaphore Caller) : Semaphore Caller :=
  wakeUpNext { semaphore with value := semaphore.value + 1 }

/-- The task of the waiter at `position` is cancelled. -/
def cancel (semaphore : Semaphore Caller) (position : Nat) : Semaphore Caller :=
  { semaphore with waiters := semaphore.waiters.modify position fun waiter =>
      { waiter with grant := waiter.grant.cancel } }

/-- The waiter at `position` runs again once its future is done: with a permit, or
leaving with the cancellation, which gives back a permit it got before. -/
def resume (semaphore : Semaphore Caller) (position : Nat) :
    Option (Option Caller × Semaphore Caller) :=
  semaphore.waiters[position]?.bind fun waiter =>
    let others := semaphore.waiters.eraseIdx position
    match waiter.grant with
    | .pending => none
    | .granted => some (some waiter.caller, wakeUpAll semaphore.value others)
    | .cancelled => some (none, wakeUpAll semaphore.value others)
    | .grantedCancelled => some (none, wakeUpAll (semaphore.value + 1) others)

/-! ## Where the permits are -/

def handedIn (waiters : List (Waiter Caller)) : Nat :=
  waiters.countP fun waiter => waiter.grant.isHanded

/-- The permits handed to a waiter that has not yet resumed. -/
def handed (semaphore : Semaphore Caller) : Nat := handedIn semaphore.waiters

/-- The permits nobody holds. -/
def permits (semaphore : Semaphore Caller) : Nat := semaphore.value + semaphore.handed

@[simp] theorem permits_ofValue (value : Nat) :
    (ofValue value : Semaphore Caller).permits = value := rfl

theorem handedIn_grantFirst {waiters woken : List (Waiter Caller)}
    (granted : grantFirst waiters = some woken) :
    handedIn woken = handedIn waiters + 1 := by
  induction waiters generalizing woken with
  | nil => cases granted
  | cons waiter rest ih =>
      simp only [grantFirst] at granted
      split at granted
      · rename_i isPending
        cases granted
        simp [handedIn, isPending, Grant.isHanded]
      · obtain ⟨others, found, rfl⟩ := Option.map_eq_some_iff.mp granted
        have step := ih found
        simp only [handedIn, List.countP_cons] at step ⊢
        omega

theorem permits_wakeUpNext {semaphore : Semaphore Caller} (free : 0 < semaphore.value) :
    semaphore.wakeUpNext.permits = semaphore.permits := by
  simp only [wakeUpNext]
  split
  · rfl
  · rename_i woken granted
    have moved := handedIn_grantFirst granted
    simp only [permits, handed]
    omega

theorem permits_wakeUpAll (value : Nat) (waiters : List (Waiter Caller)) :
    (wakeUpAll value waiters).permits = value + handedIn waiters := by
  induction value generalizing waiters with
  | zero => rfl
  | succ value ih =>
      simp only [wakeUpAll]
      split
      · rfl
      · rename_i woken granted
        rw [ih woken, handedIn_grantFirst granted]
        omega

@[simp] theorem permits_release (semaphore : Semaphore Caller) :
    semaphore.release.permits = semaphore.permits + 1 := by
  rw [release, permits_wakeUpNext (Nat.succ_pos _)]
  simp only [permits, handed]
  omega

theorem permits_acquire_now {semaphore after : Semaphore Caller} {caller : Caller}
    (acquired : semaphore.acquire caller = (true, after)) :
    after.permits + 1 = semaphore.permits := by
  simp only [acquire] at acquired
  split at acquired
  · cases acquired
  · rename_i unlocked
    have free : semaphore.value ≠ 0 := by
      intro zero
      apply unlocked
      simp [locked, zero]
    cases acquired
    simp only [permits, handed]
    omega

theorem permits_acquire_waiting {semaphore after : Semaphore Caller} {caller : Caller}
    (waiting : semaphore.acquire caller = (false, after)) :
    after.permits = semaphore.permits := by
  simp only [acquire] at waiting
  split at waiting
  · cases waiting
    simp [permits, handed, handedIn, Grant.isHanded]
  · cases waiting

@[simp] theorem permits_cancel (semaphore : Semaphore Caller) (position : Nat) :
    (semaphore.cancel position).permits = semaphore.permits := by
  simp only [permits, handed, handedIn, cancel, Nat.add_left_cancel_iff]
  cases found : semaphore.waiters[position]? with
  | none =>
      rw [List.modify_eq_self (List.getElem?_eq_none_iff.mp found)]
  | some waiter =>
      have counted := countP_modify (fun waiter : Waiter Caller => waiter.grant.isHanded)
        (fun waiter => { waiter with grant := waiter.grant.cancel }) found
      simpa using counted

theorem handedIn_eraseIdx {waiters : List (Waiter Caller)} {position : Nat}
    {waiter : Waiter Caller} (found : waiters[position]? = some waiter) :
    handedIn waiters = handedIn (waiters.eraseIdx position) + waiter.grant.isHanded.toNat := by
  obtain ⟨inside, rfl⟩ := List.getElem?_eq_some_iff.mp found
  have reordered := (List.getElem_cons_eraseIdx_perm inside).countP_eq
    fun waiter : Waiter Caller => waiter.grant.isHanded
  rw [handedIn, ← reordered, List.countP_cons, handedIn]
  cases waiters[position].grant.isHanded <;> rfl

/-- A waiter that resumes with its permit holds it from then on. -/
theorem permits_resume_acquired {semaphore after : Semaphore Caller} {position : Nat}
    {caller : Caller} (resumed : semaphore.resume position = some (some caller, after)) :
    after.permits + 1 = semaphore.permits := by
  obtain ⟨waiter, found, resumed⟩ := Option.bind_eq_some_iff.mp resumed
  have counted := handedIn_eraseIdx found
  split at resumed
  · cases resumed
  · rename_i granted
    simp only [granted, Grant.isHanded, Bool.toNat_true] at counted
    cases resumed
    rw [permits_wakeUpAll, permits, handed]
    omega
  · cases resumed
  · cases resumed

theorem permits_resume_cancelled {semaphore after : Semaphore Caller} {position : Nat}
    (resumed : semaphore.resume position = some (none, after)) :
    after.permits = semaphore.permits := by
  obtain ⟨waiter, found, resumed⟩ := Option.bind_eq_some_iff.mp resumed
  have counted := handedIn_eraseIdx found
  split at resumed
  · cases resumed
  · cases resumed
  · rename_i cancelled
    simp only [cancelled, Grant.isHanded, Bool.toNat_false] at counted
    cases resumed
    rw [permits_wakeUpAll, permits, handed]
    omega
  · rename_i granted
    simp only [granted, Grant.isHanded, Bool.toNat_true] at counted
    cases resumed
    rw [permits_wakeUpAll, permits, handed]
    omega

/-! ## Who waits -/

def callersIn (waiters : List (Waiter Caller)) : List Caller := waiters.map Waiter.caller

/-- The callers that wait, in their order. -/
def callers (semaphore : Semaphore Caller) : List Caller := callersIn semaphore.waiters

theorem callersIn_grantFirst {waiters woken : List (Waiter Caller)}
    (granted : grantFirst waiters = some woken) : callersIn woken = callersIn waiters := by
  induction waiters generalizing woken with
  | nil => cases granted
  | cons waiter rest ih =>
      simp only [grantFirst] at granted
      split at granted
      · cases granted
        rfl
      · obtain ⟨others, found, rfl⟩ := Option.map_eq_some_iff.mp granted
        exact congrArg (waiter.caller :: ·) (ih found)

theorem callers_wakeUpNext (semaphore : Semaphore Caller) :
    semaphore.wakeUpNext.callers = semaphore.callers := by
  simp only [wakeUpNext]
  split
  · rfl
  · rename_i woken granted
    exact callersIn_grantFirst granted

theorem callers_wakeUpAll (value : Nat) (waiters : List (Waiter Caller)) :
    (wakeUpAll value waiters).callers = callersIn waiters := by
  induction value generalizing waiters with
  | zero => rfl
  | succ value ih =>
      simp only [wakeUpAll]
      split
      · rfl
      · rename_i woken granted
        rw [ih woken, callersIn_grantFirst granted]

@[simp] theorem callers_release (semaphore : Semaphore Caller) :
    semaphore.release.callers = semaphore.callers :=
  callers_wakeUpNext _

@[simp] theorem callers_cancel (semaphore : Semaphore Caller) (position : Nat) :
    (semaphore.cancel position).callers = semaphore.callers :=
  map_modify_same _ _ fun _ => rfl

theorem callers_acquire_now {semaphore after : Semaphore Caller} {caller : Caller}
    (acquired : semaphore.acquire caller = (true, after)) :
    after.callers = semaphore.callers := by
  simp only [acquire] at acquired
  split at acquired
  · cases acquired
  · cases acquired
    rfl

theorem callers_acquire_waiting {semaphore after : Semaphore Caller} {caller : Caller}
    (waiting : semaphore.acquire caller = (false, after)) :
    after.callers = semaphore.callers ++ [caller] := by
  simp only [acquire] at waiting
  split at waiting
  · cases waiting
    exact List.map_append
  · cases waiting

/-- The waiter that resumes leaves, with its permit or without. -/
theorem callers_resume {semaphore after : Semaphore Caller} {position : Nat}
    {waiter : Waiter Caller} {acquired : Option Caller}
    (found : semaphore.waiters[position]? = some waiter)
    (resumed : semaphore.resume position = some (acquired, after)) :
    semaphore.callers.Perm (waiter.caller :: after.callers) ∧
      ∀ caller, acquired = some caller → caller = waiter.caller := by
  obtain ⟨inside, rfl⟩ := List.getElem?_eq_some_iff.mp found
  have reordered : semaphore.callers.Perm
      (semaphore.waiters[position].caller :: callersIn (semaphore.waiters.eraseIdx position)) :=
    ((List.getElem_cons_eraseIdx_perm inside).symm.map Waiter.caller)
  rw [resume, found, Option.bind_some] at resumed
  split at resumed
  · cases resumed
  all_goals
    cases resumed
    rw [callers_wakeUpAll]
    refine ⟨reordered, ?_⟩
    intro caller is
    cases is
  rfl

end Semaphore

end WealthFinder
