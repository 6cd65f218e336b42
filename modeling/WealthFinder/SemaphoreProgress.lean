import WealthFinder.Semaphore

/-!
# No waiter of the semaphore is forgotten

While a permit is free and somebody waits for one, some waiter is about to run.  So if no
waiter can run and none has left, every permit is held.
-/

set_option autoImplicit false

namespace WealthFinder.Semaphore

universe u

variable {Caller : Type u}

/-- A waiter that runs again in a later turn. -/
def Resumable (waiters : List (Waiter Caller)) : Prop :=
  ∃ waiter ∈ waiters, waiter.grant ≠ .pending

def NoneForgotten (semaphore : Semaphore Caller) : Prop :=
  0 < semaphore.value → semaphore.waiters ≠ [] → Resumable semaphore.waiters

theorem noneForgotten_ofValue (value : Nat) :
    (ofValue value : Semaphore Caller).NoneForgotten := by
  intro _ waits
  exact absurd rfl waits

theorem grantFirst_none {waiters : List (Waiter Caller)} (granted : grantFirst waiters = none) :
    ∀ waiter ∈ waiters, waiter.grant ≠ .pending := by
  induction waiters with
  | nil =>
      intro waiter member
      cases member
  | cons first rest ih =>
      simp only [grantFirst] at granted
      split at granted
      · cases granted
      · rename_i notPending
        intro waiter member
        rcases List.mem_cons.mp member with rfl | later
        · exact notPending
        · exact ih (Option.map_eq_none_iff.mp granted) waiter later

theorem grantFirst_resumable {waiters woken : List (Waiter Caller)}
    (granted : grantFirst waiters = some woken) : Resumable woken := by
  induction waiters generalizing woken with
  | nil => cases granted
  | cons first rest ih =>
      simp only [grantFirst] at granted
      split at granted
      · cases granted
        refine ⟨{ first with grant := .granted }, List.mem_cons_self, ?_⟩
        intro same
        cases same
      · obtain ⟨others, found, rfl⟩ := Option.map_eq_some_iff.mp granted
        obtain ⟨waiter, member, notPending⟩ := ih found
        exact ⟨waiter, List.mem_cons_of_mem _ member, notPending⟩

theorem resumable_of_none {waiters : List (Waiter Caller)} (granted : grantFirst waiters = none)
    (waits : waiters ≠ []) : Resumable waiters := by
  obtain ⟨waiter, member⟩ := List.exists_mem_of_ne_nil _ waits
  exact ⟨waiter, member, grantFirst_none granted waiter member⟩

theorem noneForgotten_wakeUpNext (semaphore : Semaphore Caller) :
    semaphore.wakeUpNext.NoneForgotten := by
  intro free waits
  unfold wakeUpNext at free waits ⊢
  split
  · rename_i granted
    rw [granted] at waits
    exact resumable_of_none granted waits
  · rename_i woken granted
    exact grantFirst_resumable granted

theorem noneForgotten_wakeUpAll (value : Nat) (waiters : List (Waiter Caller)) :
    (wakeUpAll value waiters).NoneForgotten := by
  induction value generalizing waiters with
  | zero =>
      intro free
      exact absurd free (Nat.lt_irrefl 0)
  | succ value ih =>
      unfold wakeUpAll
      split
      · rename_i granted
        intro _ waits
        exact resumable_of_none granted waits
      · exact ih _

theorem noneForgotten_release (semaphore : Semaphore Caller) :
    semaphore.release.NoneForgotten :=
  noneForgotten_wakeUpNext _

theorem noneForgotten_acquire {semaphore after : Semaphore Caller} {caller : Caller}
    {now : Bool} (sound : semaphore.NoneForgotten)
    (acquired : semaphore.acquire caller = (now, after)) : after.NoneForgotten := by
  simp only [acquire] at acquired
  split at acquired
  · rename_i locked
    cases acquired
    intro free _
    have notZero : semaphore.value ≠ 0 := Nat.pos_iff_ne_zero.mp free
    simp only [Semaphore.locked, Bool.or_eq_true, beq_iff_eq, notZero, false_or,
      List.any_eq_true] at locked
    obtain ⟨waiter, member, -⟩ := locked
    obtain ⟨other, otherMember, notPending⟩ := sound free (List.ne_nil_of_mem member)
    exact ⟨other, List.mem_append_left _ otherMember, notPending⟩
  · rename_i unlocked
    cases acquired
    intro free waits
    have waiting : semaphore.waiters ≠ [] := waits
    exact sound (Nat.lt_of_lt_of_le free (Nat.sub_le _ _)) waiting

theorem noneForgotten_resume {semaphore after : Semaphore Caller} {position : Nat}
    {acquired : Option Caller} (resumed : semaphore.resume position = some (acquired, after)) :
    after.NoneForgotten := by
  obtain ⟨waiter, -, resumed⟩ := Option.bind_eq_some_iff.mp resumed
  split at resumed
  · cases resumed
  all_goals
    cases resumed
    exact noneForgotten_wakeUpAll _ _

def Uncancelled (waiters : List (Waiter Caller)) : Prop :=
  ∀ waiter ∈ waiters, waiter.grant = .pending ∨ waiter.grant = .granted

theorem uncancelled_grantFirst {waiters woken : List (Waiter Caller)}
    (sound : Uncancelled waiters) (granted : grantFirst waiters = some woken) :
    Uncancelled woken := by
  induction waiters generalizing woken with
  | nil => cases granted
  | cons first rest ih =>
      have others : Uncancelled rest := fun waiter member =>
        sound waiter (List.mem_cons_of_mem _ member)
      simp only [grantFirst] at granted
      split at granted
      · cases granted
        intro waiter member
        rcases List.mem_cons.mp member with rfl | later
        · exact Or.inr rfl
        · exact others waiter later
      · obtain ⟨woken, found, rfl⟩ := Option.map_eq_some_iff.mp granted
        intro waiter member
        rcases List.mem_cons.mp member with rfl | later
        · exact sound _ List.mem_cons_self
        · exact ih others found waiter later

theorem uncancelled_wakeUpAll {waiters : List (Waiter Caller)} (value : Nat)
    (sound : Uncancelled waiters) : Uncancelled (wakeUpAll value waiters).waiters := by
  induction value generalizing waiters with
  | zero => exact sound
  | succ value ih =>
      unfold wakeUpAll
      split
      · exact sound
      · rename_i woken granted
        exact ih (uncancelled_grantFirst sound granted)

theorem uncancelled_release {semaphore : Semaphore Caller}
    (sound : Uncancelled semaphore.waiters) : Uncancelled semaphore.release.waiters := by
  unfold release wakeUpNext
  split
  · exact sound
  · rename_i woken granted
    exact uncancelled_grantFirst sound granted

theorem uncancelled_acquire {semaphore after : Semaphore Caller} {caller : Caller} {now : Bool}
    (sound : Uncancelled semaphore.waiters)
    (acquired : semaphore.acquire caller = (now, after)) : Uncancelled after.waiters := by
  simp only [acquire] at acquired
  split at acquired
  · cases acquired
    intro waiter member
    rcases List.mem_append.mp member with earlier | new
    · exact sound waiter earlier
    · rw [List.mem_singleton.mp new]
      exact Or.inl rfl
  · cases acquired
    exact sound

theorem uncancelled_resume {semaphore after : Semaphore Caller} {position : Nat}
    {acquired : Option Caller} (sound : Uncancelled semaphore.waiters)
    (resumed : semaphore.resume position = some (acquired, after)) :
    Uncancelled after.waiters := by
  have others : Uncancelled (semaphore.waiters.eraseIdx position) := fun waiter member =>
    sound waiter (List.mem_of_mem_eraseIdx member)
  obtain ⟨waiter, -, resumed⟩ := Option.bind_eq_some_iff.mp resumed
  split at resumed
  · cases resumed
  all_goals
    cases resumed
    exact uncancelled_wakeUpAll _ others

/-- A waiter that is about to run gets its permit. -/
theorem resume_of_resumable {semaphore : Semaphore Caller}
    (sound : Uncancelled semaphore.waiters) (resumable : Resumable semaphore.waiters) :
    ∃ position caller after, semaphore.resume position = some (some caller, after) := by
  obtain ⟨waiter, member, notPending⟩ := resumable
  obtain ⟨position, found⟩ := List.mem_iff_getElem?.mp member
  rcases sound waiter member with pending | granted
  · exact absurd pending notPending
  · refine ⟨position, waiter.caller,
      wakeUpAll semaphore.value (semaphore.waiters.eraseIdx position), ?_⟩
    rw [resume, found, Option.bind_some, granted]

/-- If nobody can resume and somebody waits, no permit is free or handed over. -/
theorem permits_eq_zero {semaphore : Semaphore Caller} (sound : semaphore.NoneForgotten)
    (waits : semaphore.waiters ≠ []) (stuck : ¬ Resumable semaphore.waiters) :
    semaphore.permits = 0 := by
  have notFree : ¬ 0 < semaphore.value := fun free => stuck (sound free waits)
  have noneHanded : semaphore.handed = 0 := by
    simp only [handed, handedIn]
    apply List.countP_eq_zero.mpr
    intro waiter member handedOver
    apply stuck
    refine ⟨waiter, member, ?_⟩
    intro pending
    rw [pending] at handedOver
    cases handedOver
  simp only [permits, noneHanded]
  omega

end WealthFinder.Semaphore
