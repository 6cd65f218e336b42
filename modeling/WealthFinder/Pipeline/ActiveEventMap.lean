import WealthFinder.Pipeline.EventAggregationStore

/-!
# The store of active Events is a map

What a history of upserts left behind for each group, and that the store returns it.
-/

set_option autoImplicit false

namespace WealthFinder.Pipeline.EventAggregationStore

/-! ## Histories -/

inductive StoreAction where
  | upsert (activeEvent : Event) (ttlS : Int)
  /-- So many milliseconds pass. -/
  | wait (elapsed : Nat)
  deriving DecidableEq

/-- The newest action first. -/
abbrev History := List StoreAction

def StoreAction.apply (redis : Redis) : StoreAction → Redis
  | .upsert activeEvent ttlS => (upsertActiveEvent redis activeEvent ttlS).getD redis
  | .wait elapsed => redis.wait elapsed

/-- Redis after a history from an empty database on. -/
def redisAfter : History → Redis
  | [] => HashStore.empty
  | action :: earlier => action.apply (redisAfter earlier)

/-- Whether `upsert_active_event` passes its assertions. -/
def Event.hasMergeState (event : Event) : Bool :=
  event.aggregationUpdatedAt.isSome && event.entityEventIds.isSome

/-- A group's last upsert; `age` is in milliseconds. -/
structure Upserted where
  event : Event
  ttlS : Int
  age : Nat

def Upserted.isLive (upserted : Upserted) : Bool :=
  decide (0 < upserted.ttlS) && decide (upserted.age ≤ upserted.ttlS.toNat * 1000)

def Upserted.older (upserted : Upserted) (elapsed : Nat) : Upserted :=
  { upserted with age := upserted.age + elapsed }

def lastUpserted (group : GroupKey) : History → Option Upserted
  | [] => none
  | .wait elapsed :: earlier => (lastUpserted group earlier).map fun last => last.older elapsed
  | .upsert activeEvent ttlS :: earlier =>
      if activeEvent.hasMergeState ∧ activeEvent.group = group then some ⟨activeEvent, ttlS, 0⟩
      else lastUpserted group earlier

/-- The Event last upserted for the group, unless it expired. -/
def currentEvent (history : History) (group : GroupKey) : Option Event :=
  ((lastUpserted group history).filter Upserted.isLive).map fun last => last.event.kept

/-- Every upserted Event's names are free of the separator. -/
def UpsertsColonFree (history : History) : Prop :=
  ∀ activeEvent ttlS, StoreAction.upsert activeEvent ttlS ∈ history → ColonFree activeEvent.group

/-- An upsert replaces the group's Event and no other. -/
theorem currentEvent_upsert (history : History) {activeEvent : Event} {ttlS : Int}
    (merges : activeEvent.hasMergeState = true) (positive : 0 < ttlS) :
    currentEvent (.upsert activeEvent ttlS :: history) =
      Function.update (currentEvent history) activeEvent.group (some activeEvent.kept) := by
  funext group
  by_cases same : activeEvent.group = group
  · subst same
    have live : Upserted.isLive ⟨activeEvent, ttlS, 0⟩ = true := by
      simp [Upserted.isLive, positive]
    rw [Function.update_self, currentEvent, lastUpserted, if_pos ⟨merges, rfl⟩,
      Option.filter_some, if_pos live]
    rfl
  · rw [Function.update_of_ne (Ne.symm same), currentEvent, lastUpserted,
      if_neg (fun both => same both.2), currentEvent]

/-! ## What the store holds for a group -/

/-- The hash at a key is the upserted Event's until it expires. -/
structure Holds (redis : Redis) (key : Text) (last : Upserted) : Prop where
  live : last.isLive = true → ∃ hash deadline, redis.live key = some hash ∧
    decode last.event.group hash.fields = .ok last.event.kept ∧ hash.fields ≠ [] ∧
    hash.deadline = some deadline ∧ deadline + last.age = redis.clock + last.ttlS.toNat * 1000
  expired : last.isLive = false → redis.live key = none

structure Represents (redis : Redis) (history : History) : Prop where
  upserted : ∀ group last, lastUpserted group history = some last →
    Holds redis (getKey group) last
  absent : ∀ key, (∀ group last, lastUpserted group history = some last → getKey group ≠ key) →
    redis.live key = none

theorem Upserted.isLive_iff (upserted : Upserted) :
    upserted.isLive = true ↔
      0 < upserted.ttlS ∧ upserted.age ≤ upserted.ttlS.toNat * 1000 := by
  rw [Upserted.isLive, Bool.and_eq_true, decide_eq_true_eq, decide_eq_true_eq]

theorem Upserted.isLive_of_older {upserted : Upserted} {elapsed : Nat}
    (live : (upserted.older elapsed).isLive = true) : upserted.isLive = true := by
  have later := (isLive_iff _).mp live
  have age : (upserted.older elapsed).age = upserted.age + elapsed := rfl
  exact (isLive_iff upserted).mpr ⟨later.1, Nat.le_trans (by omega) later.2⟩

theorem lastUpserted_group {history : History} {group : GroupKey} {last : Upserted}
    (is : lastUpserted group history = some last) : last.event.group = group := by
  induction history generalizing last with
  | nil => cases is
  | cons action earlier ih =>
      cases action with
      | wait elapsed =>
          obtain ⟨before, found, older⟩ := Option.map_eq_some_iff.mp is
          have same := ih found
          rw [← older]
          exact same
      | upsert activeEvent ttlS =>
          rw [lastUpserted] at is
          by_cases replaces : activeEvent.hasMergeState ∧ activeEvent.group = group
          · rw [if_pos replaces] at is
            cases is
            exact replaces.2
          · rw [if_neg replaces] at is
            exact ih is

theorem lastUpserted_colonFree {history : History} (colonFree : UpsertsColonFree history)
    {group : GroupKey} {last : Upserted} (is : lastUpserted group history = some last) :
    ColonFree group := by
  induction history generalizing last with
  | nil => cases is
  | cons action earlier ih =>
      have before : UpsertsColonFree earlier := by
        intro activeEvent ttlS among
        exact colonFree activeEvent ttlS (List.mem_cons_of_mem _ among)
      cases action with
      | wait elapsed =>
          obtain ⟨previous, found, _⟩ := Option.map_eq_some_iff.mp is
          exact ih before found
      | upsert activeEvent ttlS =>
          rw [lastUpserted] at is
          by_cases replaces : activeEvent.hasMergeState ∧ activeEvent.group = group
          · rw [← replaces.2]
            exact colonFree activeEvent ttlS List.mem_cons_self
          · rw [if_neg replaces] at is
            exact ih before is

theorem represents_empty : Represents HashStore.empty [] where
  upserted := by
    intro group last is
    cases is
  absent := by
    intro key _
    rfl

theorem Holds.wait {redis : Redis} {key : Text} {last : Upserted} (holds : Holds redis key last)
    (elapsed : Nat) : Holds (redis.wait elapsed) key (last.older elapsed) := by
  by_cases before : last.isLive = true
  · obtain ⟨hash, deadline, found, decodes, some, isDeadline, timed⟩ := holds.live before
    have positive : 0 < last.ttlS := ((Upserted.isLive_iff last).mp before).1
    have age : (last.older elapsed).age = last.age + elapsed := rfl
    have still : (last.older elapsed).isLive = true ↔ redis.clock + elapsed ≤ deadline := by
      rw [Upserted.isLive_iff, age]
      have ttl : (last.older elapsed).ttlS = last.ttlS := rfl
      rw [ttl]
      omega
    refine ⟨?_, ?_⟩
    · intro live
      refine ⟨hash, deadline, HashStore.live_wait.mpr ⟨found, ?_⟩, decodes, some, isDeadline, ?_⟩
      · rw [isDeadline]
        intro later is
        cases is
        exact still.mp live
      · have clock : (redis.wait elapsed).clock = redis.clock + elapsed := rfl
        have ttl : (last.older elapsed).ttlS = last.ttlS := rfl
        rw [age, clock, ttl]
        omega
    · intro expired
      cases after : (redis.wait elapsed).live key with
      | none => rfl
      | some other =>
          have waited := HashStore.live_wait.mp after
          rw [found] at waited
          cases waited.1
          rw [still.mpr (waited.2 deadline isDeadline)] at expired
          cases expired
  · have gone := holds.expired (Bool.eq_false_iff.mpr before)
    refine ⟨?_, ?_⟩
    · intro live
      exact absurd (Upserted.isLive_of_older live) before
    · intro _
      exact HashStore.live_wait_none gone elapsed

theorem upsertActiveEvent_eq {redis after : Redis} {activeEvent : Event} {ttlS : Int}
    (upserted : upsertActiveEvent redis activeEvent ttlS = some after) :
    ∃ updatedAt ids, activeEvent.aggregationUpdatedAt = some updatedAt ∧
      activeEvent.entityEventIds = some ids ∧
      after = (redis.hset (getKey activeEvent.group) (encode activeEvent updatedAt ids)).expire
        (getKey activeEvent.group) ttlS := by
  obtain ⟨updatedAt, updated, rest⟩ := Option.bind_eq_some_iff.mp upserted
  obtain ⟨ids, some, is⟩ := Option.bind_eq_some_iff.mp rest
  exact ⟨updatedAt, ids, updated, some, (Option.some.inj is).symm⟩

/-- An upsert sets its own key for its time to live and leaves the others. -/
theorem upsertActiveEvent_holds {redis after : Redis} {activeEvent : Event} {ttlS : Int}
    (upserted : upsertActiveEvent redis activeEvent ttlS = some after) :
    Holds after (getKey activeEvent.group) ⟨activeEvent, ttlS, 0⟩ ∧ after.clock = redis.clock ∧
      ∀ key, key ≠ getKey activeEvent.group → after.live key = redis.live key := by
  obtain ⟨updatedAt, ids, updated, some, rfl⟩ := upsertActiveEvent_eq upserted
  obtain ⟨fields, deadline, set⟩ := HashStore.live_hset_same redis (getKey activeEvent.group)
    (encode activeEvent updatedAt ids)
  have found := HashStore.live_expire_same set ttlS
  have clock := HashStore.clock_expire
    (redis.hset (getKey activeEvent.group) (encode activeEvent updatedAt ids))
    (getKey activeEvent.group) ttlS
  have clockSet : (redis.hset (getKey activeEvent.group)
    (encode activeEvent updatedAt ids)).clock = redis.clock := rfl
  refine ⟨⟨?_, ?_⟩, clock, ?_⟩
  · intro live
    have positive := ((Upserted.isLive_iff _).mp live).1
    rw [if_neg (by exact Int.not_le.mpr positive)] at found
    refine ⟨_, _, found, decode_setFields updated some fields, ?_, rfl, ?_⟩
    · exact HashStore.setFields_ne_nil (List.cons_ne_nil _ _) fields
    · rw [clock]
      rfl
  · intro expired
    rw [if_pos ?_] at found
    · exact found
    · by_contra positive
      have live := (Upserted.isLive_iff ⟨activeEvent, ttlS, 0⟩).mpr
        ⟨Int.not_le.mp positive, Nat.zero_le _⟩
      rw [live] at expired
      cases expired
  · intro key apart
    rw [HashStore.live_expire_ne _ apart, HashStore.live_hset_ne _ apart]

theorem Holds.congr {redis after : Redis} {key : Text} {last : Upserted}
    (holds : Holds redis key last) (clock : after.clock = redis.clock)
    (same : after.live key = redis.live key) : Holds after key last := by
  refine ⟨?_, ?_⟩
  · rw [clock, same]
    exact holds.live
  · rw [same]
    exact holds.expired

theorem hasMergeState_iff (redis : Redis) (activeEvent : Event) (ttlS : Int) :
    activeEvent.hasMergeState = true ↔
      ∃ after, upsertActiveEvent redis activeEvent ttlS = some after := by
  unfold Event.hasMergeState upsertActiveEvent
  cases activeEvent.aggregationUpdatedAt with
  | none => simp
  | some updatedAt =>
      cases activeEvent.entityEventIds with
      | none => simp
      | some ids => simp

theorem Represents.wait {redis : Redis} {history : History} (represents : Represents redis history)
    (elapsed : Nat) : Represents (redis.wait elapsed) (.wait elapsed :: history) where
  upserted := by
    intro group last is
    obtain ⟨before, found, older⟩ := Option.map_eq_some_iff.mp is
    rw [← older]
    exact (represents.upserted group before found).wait elapsed
  absent := by
    intro key apart
    refine HashStore.live_wait_none (represents.absent key ?_) elapsed
    intro group last is
    refine apart group (last.older elapsed) ?_
    rw [lastUpserted, is]
    rfl

theorem Represents.upsert {redis after : Redis} {history : History} {activeEvent : Event}
    {ttlS : Int} (represents : Represents redis history)
    (colonFree : UpsertsColonFree (.upsert activeEvent ttlS :: history))
    (upserted : upsertActiveEvent redis activeEvent ttlS = some after) :
    Represents after (.upsert activeEvent ttlS :: history) := by
  obtain ⟨holds, clock, others⟩ := upsertActiveEvent_holds upserted
  have merges := (hasMergeState_iff redis activeEvent ttlS).mpr ⟨after, upserted⟩
  have own := colonFree activeEvent ttlS List.mem_cons_self
  have last_same : lastUpserted activeEvent.group (.upsert activeEvent ttlS :: history) =
      some ⟨activeEvent, ttlS, 0⟩ := by
    rw [lastUpserted, if_pos ⟨merges, rfl⟩]
  have last_other : ∀ group, activeEvent.group ≠ group →
      lastUpserted group (.upsert activeEvent ttlS :: history) = lastUpserted group history := by
    intro group apart
    rw [lastUpserted, if_neg (fun both => apart both.2)]
  refine ⟨?_, ?_⟩
  · intro group last is
    by_cases same : activeEvent.group = group
    · subst same
      rw [last_same] at is
      cases is
      exact holds
    · rw [last_other group same] at is
      refine (represents.upserted group last is).congr clock (others _ ?_)
      intro keys
      exact same (getKey_injective own keys.symm)
  · intro key apart
    rw [others key (fun is => apart activeEvent.group _ last_same is.symm)]
    refine represents.absent key ?_
    intro group last is keys
    by_cases same : activeEvent.group = group
    · exact apart activeEvent.group _ last_same (by rw [same, keys])
    · exact apart group last (by rw [last_other group same, is]) keys

theorem Represents.refused {redis : Redis} {history : History} {activeEvent : Event} {ttlS : Int}
    (represents : Represents redis history)
    (refused : upsertActiveEvent redis activeEvent ttlS = none) :
    Represents redis (.upsert activeEvent ttlS :: history) := by
  have fails : ¬ activeEvent.hasMergeState = true := by
    intro merges
    obtain ⟨after, is⟩ := (hasMergeState_iff redis activeEvent ttlS).mp merges
    rw [refused] at is
    cases is
  have same : ∀ group, lastUpserted group (.upsert activeEvent ttlS :: history) =
      lastUpserted group history := by
    intro group
    rw [lastUpserted, if_neg (fun both => fails both.1)]
  refine ⟨?_, ?_⟩
  · intro group last is
    rw [same] at is
    exact represents.upserted group last is
  · intro key apart
    refine represents.absent key ?_
    intro group last is
    refine apart group last ?_
    rw [same, is]

/-- The store after a history holds what the history says, whatever the order of upserts
and waiting. -/
theorem represents_redisAfter {history : History} (colonFree : UpsertsColonFree history) :
    Represents (redisAfter history) history := by
  induction history with
  | nil => exact represents_empty
  | cons action earlier ih =>
      have before := ih (fun activeEvent ttlS among =>
        colonFree activeEvent ttlS (List.mem_cons_of_mem _ among))
      cases action with
      | wait elapsed => exact before.wait elapsed
      | upsert activeEvent ttlS =>
          have step : redisAfter (.upsert activeEvent ttlS :: earlier) =
              (upsertActiveEvent (redisAfter earlier) activeEvent ttlS).getD
                (redisAfter earlier) := rfl
          rw [step]
          cases result : upsertActiveEvent (redisAfter earlier) activeEvent ttlS with
          | some after => exact before.upsert colonFree result
          | none => exact before.refused result

/-! ## Reading one group -/

theorem currentEvent_live {history : History} {group : GroupKey} {last : Upserted}
    (is : lastUpserted group history = some last) (live : last.isLive = true) :
    currentEvent history group = some last.event.kept := by
  rw [currentEvent, is, Option.filter_some, if_pos live]
  rfl

theorem currentEvent_gone {history : History} {group : GroupKey}
    (gone : ∀ last, lastUpserted group history = some last → last.isLive = false) :
    currentEvent history group = none := by
  cases is : lastUpserted group history with
  | none => rw [currentEvent, is, Option.filter_none, Option.map_none]
  | some last => rw [currentEvent, is, Option.filter_some, gone last is]; rfl

theorem hgetall_live {redis : Redis} {key : Text} {hash : ExpiringHash Text Text}
    (found : redis.live key = some hash) (some : hash.fields ≠ []) :
    hgetall redis key = .some hash.fields := by
  unfold hgetall HashStore.hgetall
  rw [found]
  cases fields : hash.fields with
  | nil => exact absurd fields some
  | cons first others => simp only [fields]

theorem hgetall_gone {redis : Redis} {key : Text} (gone : redis.live key = none) :
    hgetall redis key = none := by
  unfold hgetall HashStore.hgetall
  rw [gone]

/-- A key holds nothing, or the current Event of the one group it is the key of. -/
theorem hgetall_cases {history : History} (colonFree : UpsertsColonFree history) (key : Text) :
    (hgetall (redisAfter history) key = none ∧
      ∀ group, getKey group = key → currentEvent history group = none) ∨
    ∃ group event fields, ColonFree group ∧ getKey group = key ∧
      hgetall (redisAfter history) key = some fields ∧ decode group fields = .ok event ∧
      currentEvent history group = some event := by
  have represents := represents_redisAfter colonFree
  by_cases known : ∃ group last, lastUpserted group history = some last ∧ getKey group = key
  · obtain ⟨group, last, is, same⟩ := known
    have own := lastUpserted_colonFree colonFree is
    have holds := represents.upserted group last is
    rw [same] at holds
    cases live : last.isLive with
    | true =>
        obtain ⟨hash, deadline, found, decodes, some, _⟩ := holds.live live
        rw [lastUpserted_group is] at decodes
        exact Or.inr ⟨group, _, _, own, same, hgetall_live found some, decodes,
          currentEvent_live is live⟩
    | false =>
        refine Or.inl ⟨hgetall_gone (holds.expired live), ?_⟩
        intro other otherSame
        have equal := getKey_injective own (same.trans otherSame.symm)
        subst equal
        refine currentEvent_gone ?_
        intro other otherIs
        rw [is] at otherIs
        cases otherIs
        exact live
  · refine Or.inl ⟨hgetall_gone (represents.absent key ?_), ?_⟩
    · intro group last is same
      exact known ⟨group, last, is, same⟩
    · intro group same
      refine currentEvent_gone ?_
      intro last is
      exact absurd ⟨group, last, is, same⟩ known

theorem currentEvent_group {history : History} {group : GroupKey} {event : Event}
    (is : currentEvent history group = some event) : event.group = group := by
  obtain ⟨last, filtered, rfl⟩ := Option.map_eq_some_iff.mp is
  exact lastUpserted_group (Option.filter_eq_some_iff.mp filtered).1

theorem getActiveEvent_redisAfter {history : History} (colonFree : UpsertsColonFree history)
    (group : GroupKey) :
    getActiveEvent (redisAfter history) group = .ok (currentEvent history group) := by
  unfold getActiveEvent
  rcases hgetall_cases colonFree (getKey group) with ⟨gone, none⟩ | found
  · rw [gone, none group rfl]
  · obtain ⟨other, event, fields, own, same, read, decodes, current⟩ := found
    have equal := getKey_injective own same
    subst equal
    rw [read, current]
    simp only [decodes]
    rfl

/-! ## Reading every group -/

theorem readAll_spec {moments : Nat → History}
    (colonFree : ∀ turn, UpsertsColonFree (moments turn)) (keys : List Text) (turn : Nat) :
    ∃ events, readAll (fun turn => redisAfter (moments turn)) turn keys = .ok events ∧
      (events.map fun event => getKey event.group).Sublist keys ∧
      (∀ event ∈ events, ∃ place, keys[place]? = some (getKey event.group) ∧
        currentEvent (moments (turn + place)) event.group = some event) ∧
      ∀ place group event, keys[place]? = some (getKey group) →
        currentEvent (moments (turn + place)) group = some event → event ∈ events := by
  induction keys generalizing turn with
  | nil =>
      refine ⟨[], rfl, List.Sublist.refl _, ?_, ?_⟩
      · intro event among
        cases among
      · intro place group event at'
        simp at at'
  | cons key keys ih =>
      obtain ⟨others, read, ordered, sound, complete⟩ := ih (turn + 1)
      have later : ∀ place, turn + (place + 1) = turn + 1 + place := by
        intro place
        omega
      rcases hgetall_cases (colonFree turn) key with ⟨gone, none⟩ | found
      · refine ⟨others, ?_, ordered.cons key, ?_, ?_⟩
        · rw [readAll, gone, read]
        · intro event among
          obtain ⟨place, at', current⟩ := sound event among
          refine ⟨place + 1, ?_, ?_⟩
          · rw [List.getElem?_cons_succ, at']
          · rw [later, current]
        · intro place group event at' current
          cases place with
          | zero =>
              rw [List.getElem?_cons_zero, Option.some.injEq] at at'
              rw [Nat.add_zero, none group at'.symm] at current
              cases current
          | succ place =>
              rw [List.getElem?_cons_succ] at at'
              rw [later] at current
              exact complete place group event at' current
      · obtain ⟨group, event, fields, own, same, hash, decodes, current⟩ := found
        have group_eq := currentEvent_group current
        refine ⟨event :: others, ?_, ?_, ?_, ?_⟩
        · rw [readAll, hash, ← same, groupOfKey_getKey own]
          simp only [bind, Except.bind, decodes, read]
        · rw [List.map_cons, group_eq, same]
          exact ordered.cons_cons key
        · intro other among
          rcases List.mem_cons.mp among with rfl | among
          · refine ⟨0, ?_, ?_⟩
            · rw [List.getElem?_cons_zero, group_eq, same]
            · rw [Nat.add_zero, group_eq, current]
          · obtain ⟨place, at', currently⟩ := sound other among
            refine ⟨place + 1, ?_, ?_⟩
            · rw [List.getElem?_cons_succ, at']
            · rw [later, currently]
        · intro place other otherEvent at' currently
          cases place with
          | zero =>
              rw [List.getElem?_cons_zero, Option.some.injEq] at at'
              have equal := getKey_injective own (same.trans at')
              subst equal
              rw [Nat.add_zero, current, Option.some.injEq] at currently
              rw [currently]
              exact List.mem_cons_self
          | succ place =>
              rw [List.getElem?_cons_succ] at at'
              rw [later] at currently
              exact List.mem_cons_of_mem _ (complete place other otherEvent at' currently)

theorem nodup_eraseDups (keys : List Text) : keys.eraseDups.Nodup := by
  induction size : keys.length using Nat.strongRecOn generalizing keys with
  | ind size ih =>
      cases keys with
      | nil => exact List.nodup_nil
      | cons key keys =>
          rw [List.eraseDups_cons, List.nodup_cons]
          have shorter := List.length_filter_le (fun other => !other == key) keys
          rw [List.length_cons] at size
          refine ⟨?_, ih _ (by omega) _ rfl⟩
          rw [List.mem_eraseDups]
          simp

/-- What one `scan_all` meets: the history when SCAN starts and when it is through, what
SCAN reports, and the history at each read. -/
structure ScanRun where
  started : History
  scanned : History
  reading : Nat → History
  ordered : started <:+ scanned ∧ scanned <:+ reading 0 ∧
    ∀ turn, reading turn <:+ reading (turn + 1)
  reported : List Text
  /-- A matching key that is there all the while is reported, possibly again and again. -/
  complete : ∀ key, "agg:event:".toList <+: key →
    (∀ moment, started <:+ moment → moment <:+ scanned →
      ((redisAfter moment).live key).isSome) → key ∈ reported

/-- The group has a live Event all through the scan. -/
def ScanRun.Live (run : ScanRun) (group : GroupKey) : Prop :=
  ∀ moment, run.started <:+ moment → moment <:+ run.scanned →
    (currentEvent moment group).isSome

theorem UpsertsColonFree.of_suffix {earlier history : History}
    (colonFree : UpsertsColonFree history) (suffix : earlier <:+ history) :
    UpsertsColonFree earlier := by
  intro activeEvent ttlS among
  exact colonFree activeEvent ttlS (suffix.subset among)

theorem ScanRun.reports {run : ScanRun} (colonFree : UpsertsColonFree run.scanned)
    {group : GroupKey} (live : run.Live group) : getKey group ∈ run.reported := by
  refine run.complete (getKey group) (List.prefix_append _ _) ?_
  intro moment after before
  have current := live moment after before
  rcases hgetall_cases (colonFree.of_suffix before) (getKey group) with ⟨_, none⟩ | found
  · rw [none group rfl] at current
    cases current
  · obtain ⟨_, _, fields, _, _, read, _⟩ := found
    cases held : (redisAfter moment).live (getKey group) with
    | none =>
        rw [hgetall_gone held] at read
        cases read
    | some hash => rfl

/-- Each Event that `scan_all` returns is its group's current one when it is read, no
group comes twice, and a group that is live all through the scan comes unless its Event
expired before the read. -/
theorem scanAll_spec (run : ScanRun) (colonFree : ∀ turn, UpsertsColonFree (run.reading turn)) :
    ∃ events, scanAll (fun turn => redisAfter (run.reading turn)) run.reported = .ok events ∧
      (events.map Event.group).Nodup ∧
      (∀ event ∈ events, ∃ turn < (scan run.reported).length,
        currentEvent (run.reading turn) event.group = some event) ∧
      ∀ group, run.Live group → ∃ turn < (scan run.reported).length,
        ∀ event, event ∈ events ∧ event.group = group ↔
          currentEvent (run.reading turn) group = some event := by
  obtain ⟨events, read, ordered, sound, complete⟩ :=
    readAll_spec colonFree (scan run.reported) 0
  have distinct := nodup_eraseDups run.reported
  have keys : (events.map fun event => getKey event.group).Nodup := ordered.nodup distinct
  have groups : (events.map Event.group).Nodup := by
    refine List.Nodup.of_map getKey ?_
    rw [List.map_map]
    exact keys
  refine ⟨events, read, groups, ?_, ?_⟩
  · intro event among
    obtain ⟨place, at', current⟩ := sound event among
    rw [Nat.zero_add] at current
    exact ⟨place, (List.getElem?_eq_some_iff.mp at').1, current⟩
  · intro group live
    have colonFreeScan := (colonFree 0).of_suffix run.ordered.2.1
    have scanned : getKey group ∈ scan run.reported :=
      List.mem_eraseDups.mpr (run.reports colonFreeScan live)
    obtain ⟨place, inside, at'⟩ := List.getElem_of_mem scanned
    have here : (scan run.reported)[place]? = some (getKey group) := by
      rw [List.getElem?_eq_getElem inside, at']
    refine ⟨place, inside, ?_⟩
    intro event
    constructor
    · intro both
      obtain ⟨among, is⟩ := both
      obtain ⟨other, there, current⟩ := sound event among
      rw [is] at there current
      have same : other = place :=
        (List.getElem?_inj (List.getElem?_eq_some_iff.mp there).1 distinct).mp
          (there.trans here.symm)
      rw [Nat.zero_add, same] at current
      exact current
    · intro current
      refine ⟨complete place group event here ?_, currentEvent_group current⟩
      rw [Nat.zero_add]
      exact current

/-- Keys tell groups apart; a read gives the Event last upserted for the group, or
nothing; `scan_all` gives each group's at most once, and every live group's. -/
theorem activeEvents_map (history : History) (colonFree : UpsertsColonFree history)
    (run : ScanRun) (scanColonFree : ∀ turn, UpsertsColonFree (run.reading turn)) :
    (∀ group other, ColonFree group → ColonFree other → group ≠ other →
      getKey group ≠ getKey other) ∧
    (∀ group, getActiveEvent (redisAfter history) group = .ok (currentEvent history group)) ∧
    ∃ events, scanAll (fun turn => redisAfter (run.reading turn)) run.reported = .ok events ∧
      (events.map Event.group).Nodup ∧
      (∀ event ∈ events, ∃ turn < (scan run.reported).length,
        currentEvent (run.reading turn) event.group = some event) ∧
      ∀ group, run.Live group → ∃ turn < (scan run.reported).length,
        ∀ event, event ∈ events ∧ event.group = group ↔
          currentEvent (run.reading turn) group = some event := by
  refine ⟨?_, getActiveEvent_redisAfter colonFree, scanAll_spec run scanColonFree⟩
  intro group other own _ apart same
  exact apart (getKey_injective own same)

/-! ## A history of one upsert -/

def seenAt : Datetime := ⟨⟨2026, 9, 8, 1, 0, 0, 0, some 0⟩, by decide⟩

def activeEvent : Event where
  eventId := 1
  group := sampleGroup
  firstSeenAt := seenAt
  lastSeenAt := seenAt
  eventTypeSecondary := none
  sourceList := none
  aggregationUpdatedAt := some seenAt
  updatedAt := none
  createdAt := none
  entityEventIds := some [2, 3]

def oneUpsert : History := [.upsert activeEvent 15000]

theorem oneUpsert_colonFree : UpsertsColonFree oneUpsert := by
  intro upserted ttlS among
  rw [oneUpsert, List.mem_singleton] at among
  cases among
  exact ⟨by decide, by decide⟩

/-- SCAN reports the key twice, and one that expired. -/
def repeatingRun : ScanRun where
  started := oneUpsert
  scanned := oneUpsert
  reading := fun _ => oneUpsert
  ordered := ⟨List.suffix_refl _, List.suffix_refl _, fun _ => List.suffix_refl _⟩
  reported := [getKey sampleGroup, getKey ⟨"HKEX", "00388", .dividend⟩, getKey sampleGroup]
  complete := by
    intro key _ live
    have held := live oneUpsert (List.suffix_refl _) (List.suffix_refl _)
    by_contra absent
    have apart : key ≠ getKey sampleGroup := by
      rintro rfl
      exact absent List.mem_cons_self
    have gone := (represents_redisAfter oneUpsert_colonFree).absent key (by
      intro group last is same
      rw [oneUpsert, lastUpserted] at is
      split at is
      · rename_i replaces
        rw [← replaces.2] at same
        exact apart same.symm
      · cases is)
    rw [gone] at held
    cases held

theorem currentEvent_oneUpsert (group : GroupKey) :
    currentEvent oneUpsert group = if group = sampleGroup then some activeEvent else none := by
  rw [oneUpsert, currentEvent_upsert [] rfl (by decide), Function.update_apply]
  rfl

/-- The Event is read for its group, nothing for the expired one, and the scan gives it
once. -/
theorem activeEvents_map_oneUpsert :
    getKey sampleGroup ≠ getKey ⟨"HKEX", "00388", .dividend⟩ ∧
    getActiveEvent (redisAfter oneUpsert) sampleGroup = .ok (some activeEvent) ∧
    getActiveEvent (redisAfter oneUpsert) ⟨"HKEX", "00388", .dividend⟩ = .ok none ∧
    scanAll (fun _ => redisAfter oneUpsert) repeatingRun.reported = .ok [activeEvent] := by
  obtain ⟨apart, reads, events, scanned, distinct, sound, complete⟩ :=
    activeEvents_map oneUpsert oneUpsert_colonFree repeatingRun (fun _ => oneUpsert_colonFree)
  refine ⟨apart _ _ ⟨by decide, by decide⟩ ⟨by decide, by decide⟩ (by decide), ?_, ?_, ?_⟩
  · rw [reads, currentEvent_oneUpsert, if_pos rfl]
  · rw [reads, currentEvent_oneUpsert, if_neg (by decide)]
  · have only : ∀ event ∈ events, event = activeEvent := by
      intro event among
      obtain ⟨turn, -, current⟩ := sound event among
      change currentEvent oneUpsert event.group = some event at current
      rw [currentEvent_oneUpsert] at current
      split at current
      · exact (Option.some.inj current).symm
      · cases current
    have live : repeatingRun.Live sampleGroup := by
      intro moment after before
      obtain rfl : oneUpsert = moment := after.eq_of_length_le before.length_le
      rw [currentEvent_oneUpsert, if_pos rfl]
      rfl
    obtain ⟨turn, -, same⟩ := complete sampleGroup live
    have present : activeEvent ∈ events := ((same activeEvent).mpr (by
      change currentEvent oneUpsert sampleGroup = some activeEvent
      rw [currentEvent_oneUpsert, if_pos rfl])).1
    have one : events = [activeEvent] := by
      match events, distinct, only, present with
      | [event], _, only, _ => rw [only event List.mem_cons_self]
      | first :: second :: rest, distinct, only, _ =>
          have same : first = second :=
            (only first List.mem_cons_self).trans
              (only second (List.mem_cons_of_mem _ List.mem_cons_self)).symm
          simp [same] at distinct
    rw [← one]
    exact scanned

end WealthFinder.Pipeline.EventAggregationStore
