import WealthFinder.Ingestion.CrawlService

/-!
# One INSERT of the crawl service and the publish after it

A raw article is announced only by the round that sees its own INSERT return the row.
A round stores at most its own row; whether it announces the row follows from how the
attempts of the INSERT and the publish end.
-/

set_option autoImplicit false

namespace WealthFinder.Ingestion

/-! ## The attempts of one INSERT -/

/-- What the service sees of an INSERT that would store its row: nothing applied, the
row applied without a reply, or its reply. -/
inductive InsertReach where
  | unapplied
  | replyLost
  | replied
  deriving DecidableEq, Repr

def reachOf (maxRetry : Int) (attempts : Nat → Attempt) : Nat → Nat → InsertReach
  | 0, _ => .unapplied
  | remaining + 1, attempt =>
      match attempts attempt with
      | .done => .replied
      | .transient true => .replyLost
      | .permanent true => .replyLost
      | .permanent false => .unapplied
      | .transient false =>
          if (attempt : Int) = maxRetry then .unapplied
          else reachOf maxRetry attempts remaining (attempt + 1)

def ItemAnswers.reach (maxRetry : Int) (answers : ItemAnswers) : InsertReach :=
  reachOf maxRetry answers.insert maxRetry.toNat 1

section Insert
variable {maxRetry : Int} {world : CrawlWorld} {row : RawNewsRow} {attempts : Nat → Attempt}

/-- A row of the same url, or one that violates a unique constraint. -/
def Taken (world : CrawlWorld) (row : RawNewsRow) : Prop :=
  ∃ other ∈ world.rawNews, other.sourceUrl = row.sourceUrl ∨ other.rawId = row.rawId ∨
    other.rawHash = row.rawHash

instance : Decidable (Taken world row) :=
  inferInstanceAs (Decidable (∃ other ∈ world.rawNews, _))

def CrawlWorld.store (world : CrawlWorld) (row : RawNewsRow) : CrawlWorld :=
  { world with rawNews := row :: world.rawNews }

/-- The INSERT gives no row back and leaves the tables alone. -/
theorem insertRawNews_taken (taken : Taken world row) :
    insertRawNews row world = .ok none world ∨
      insertRawNews row world = .error .uniqueViolation world := by
  obtain ⟨other, member, same⟩ := taken
  unfold insertRawNews
  split
  · exact Or.inl rfl
  · rename_i fresh
    split
    · exact Or.inr rfl
    · rename_i apart
      simp only [Bool.not_eq_true, List.any_eq_false, decide_eq_true_eq] at fresh apart
      rcases same with sameUrl | sameKeys
      · exact absurd sameUrl (fresh other member)
      · exact absurd sameKeys (apart other member)

theorem insertRawNews_free (free : ¬ Taken world row) :
    insertRawNews row world = .ok (some row.rawId) (world.store row) := by
  unfold insertRawNews
  rw [if_neg, if_neg]
  · rfl
  · simp only [Bool.not_eq_true, List.any_eq_false, decide_eq_true_eq]
    exact fun other member same => free ⟨other, member, Or.inr same⟩
  · simp only [Bool.not_eq_true, List.any_eq_false, decide_eq_true_eq]
    exact fun other member same => free ⟨other, member, Or.inl same⟩

theorem taken_store (world : CrawlWorld) (row : RawNewsRow) : Taken (world.store row) row :=
  ⟨row, List.mem_cons_self, Or.inl rfl⟩

theorem attempted_taken (taken : Taken world row) (attempt : Attempt) :
    attempted (insertRawNews row) attempt world = .ok none world ∨
      ∃ error, attempted (insertRawNews row) attempt world = .error error world := by
  have inserted := insertRawNews_taken taken
  have unchanged : stateAfter (insertRawNews row world) = world := by
    rcases inserted with is | is <;> rw [is] <;> rfl
  cases attempt with
  | done =>
      rcases inserted with is | is
      · exact Or.inl is
      · exact Or.inr ⟨_, is⟩
  | transient applied =>
      refine Or.inr ⟨.transient, ?_⟩
      change EStateM.Result.error _ (if applied then stateAfter (insertRawNews row world)
        else world) = _
      rw [unchanged, ite_self]
  | permanent applied =>
      refine Or.inr ⟨.connectionOrInterface, ?_⟩
      change EStateM.Result.error _ (if applied then stateAfter (insertRawNews row world)
        else world) = _
      rw [unchanged, ite_self]

/-- The write leaves this world and gives no row back. -/
def NoRow {ε : Type} (world : CrawlWorld)
    (ended : EStateM.Result ε CrawlWorld (Option (Option UUID))) : Prop :=
  (∃ value, ended = .ok value world ∧ value.join = none) ∨ ∃ error, ended = .error error world

theorem retryLoop_taken (taken : Taken world row) (remaining attempt : Nat) :
    NoRow world (retryLoop maxRetry (fun n => attempted (insertRawNews row) (attempts n))
      remaining attempt world) := by
  induction remaining generalizing attempt with
  | zero => exact Or.inl ⟨none, rfl, rfl⟩
  | succ remaining ih =>
      rw [retryLoop]
      rcases attempted_taken taken (attempts attempt) with nothing | ⟨error, raised⟩
      · simp only [nothing]
        exact Or.inl ⟨some none, rfl, rfl⟩
      · simp only [raised]
        cases error with
        | transient =>
            simp only
            split
            · exact Or.inr ⟨_, rfl⟩
            · exact ih (attempt + 1)
        | uniqueViolation | dataOrNotNull | connectionOrInterface | otherPostgres
        | uncaught error =>
            exact Or.inr ⟨_, rfl⟩

/-- How an INSERT ends that is free to store its row, by what the service sees of it. -/
def EndsFree {ε : Type} (world : CrawlWorld) (row : RawNewsRow)
    (ended : EStateM.Result ε CrawlWorld (Option (Option UUID))) : InsertReach → Prop
  | .unapplied => NoRow world ended
  | .replyLost => NoRow (world.store row) ended
  | .replied => ended = .ok (some (some row.rawId)) (world.store row)

/-- Once stored, its own row absorbs the repeated attempts. -/
theorem retryLoop_free (free : ¬ Taken world row) (remaining attempt : Nat) :
    EndsFree world row (retryLoop maxRetry (fun n => attempted (insertRawNews row) (attempts n))
      remaining attempt world) (reachOf maxRetry attempts remaining attempt) := by
  have stored := insertRawNews_free free
  induction remaining generalizing attempt with
  | zero => exact Or.inl ⟨none, rfl, rfl⟩
  | succ remaining ih =>
      simp only [reachOf, retryLoop]
      cases attempts attempt with
      | done =>
          simp only [attempted, stored]
          exact rfl
      | permanent applied =>
          cases applied with
          | false => exact Or.inr ⟨_, rfl⟩
          | true =>
              simp only [attempted, stored, if_true, stateAfter]
              exact Or.inr ⟨_, rfl⟩
      | transient applied =>
          cases applied with
          | false =>
              by_cases last : (attempt : Int) = maxRetry
              · simp only [if_pos last, attempted]
                exact Or.inr ⟨_, rfl⟩
              · simp only [if_neg last, attempted]
                exact ih (attempt + 1)
          | true =>
              simp only [attempted, stored, if_true, stateAfter]
              change NoRow (world.store row) _
              split
              · exact Or.inr ⟨_, rfl⟩
              · exact retryLoop_taken (taken_store world row) _ _

end Insert

/-! ## One item -/

section Items
variable {Metadata : Type} {tools : TextTools Metadata} {maxRetry : Int}
  {world after : CrawlWorld} {row : RawNewsRow} {answers : ItemAnswers}

def AllAnnounced (world : CrawlWorld) : Prop :=
  ∀ row ∈ world.rawNews, row.rawId ∈ world.inserted

theorem insertAndPublish_cases
    (ended : stateAfter (insertAndPublish maxRetry row answers world) = after) :
    (after = world ∧ (Taken world row ∨ answers.reach maxRetry = .unapplied)) ∨
    (¬ Taken world row ∧ answers.reach maxRetry = .replyLost ∧ after = world.store row) ∨
    (¬ Taken world row ∧ answers.reach maxRetry = .replied ∧
      after = if answers.publish.applied
        then { world.store row with inserted := row.rawId :: world.inserted }
        else world.store row) := by
  have noRow {here : CrawlWorld} (write : NoRow here (runWithRetry maxRetry
      (fun n => attempted (insertRawNews row) (answers.insert n)) world)) : after = here := by
    rcases write with ⟨value, is, none'⟩ | ⟨error, is⟩
    · have joined := map_of_ok Option.join is
      rw [none'] at joined
      unfold insertAndPublish at ended
      rw [executeReturning, joined] at ended
      exact ended.symm
    · have raised := map_of_error Option.join is
      unfold insertAndPublish at ended
      rw [executeReturning, raised] at ended
      exact ended.symm
  by_cases taken : Taken world row
  · exact Or.inl ⟨noRow (retryLoop_taken taken _ _), Or.inl taken⟩
  · have write : EndsFree world row (runWithRetry maxRetry
        (fun n => attempted (insertRawNews row) (answers.insert n)) world)
        (answers.reach maxRetry) := retryLoop_free taken maxRetry.toNat 1
    cases reach : answers.reach maxRetry with
    | unapplied =>
        rw [reach] at write
        exact Or.inl ⟨noRow write, Or.inr rfl⟩
    | replyLost =>
        rw [reach] at write
        exact Or.inr (Or.inl ⟨taken, rfl, noRow write⟩)
    | replied =>
        rw [reach] at write
        refine Or.inr (Or.inr ⟨taken, rfl, ?_⟩)
        have joined := map_of_ok Option.join write
        unfold insertAndPublish at ended
        rw [executeReturning, joined] at ended
        have announced : stateAfter (publish (fun world => { world with
            inserted := row.rawId :: world.inserted }) answers.publish "" (world.store row)) =
              after := ended
        rw [← announced, publish_leaves]
        rfl

/-- The row that a round of the loop inserts. -/
def insertedRow (tools : TextTools Metadata) (sourceName : CrawlSourceName)
    (item : CrawlSuccessItem Metadata) (answers : ItemAnswers) : Option RawNewsRow :=
  (tools.computeHash (tools.normalise item.title)).bind fun rawHash =>
    let row (extraMetadata : Option String) : RawNewsRow :=
      ⟨answers.rawId, sourceName.value, item.sourceUrl, item.title, item.body,
        item.publishedAt, answers.now, rawHash, extraMetadata⟩
    match item.extraMetadata with
    | none => some (row none)
    | some metadata => (tools.dumps metadata).map fun json => row (some json)

/-- Where the round inserts no row it leaves the world alone. -/
theorem persistSuccess_row (sourceName : CrawlSourceName) (errorText : String)
    (item : CrawlSuccessItem Metadata) (answers : ItemAnswers) (world : CrawlWorld) :
    match insertedRow tools sourceName item answers with
    | none => stateAfter (persistSuccess tools maxRetry sourceName errorText item answers world) =
        world
    | some row => persistSuccess tools maxRetry sourceName errorText item answers world =
        insertAndPublish maxRetry row answers world := by
  unfold insertedRow persistSuccess
  cases tools.computeHash (tools.normalise item.title) with
  | none => rfl
  | some rawHash =>
      unfold extraMetadataJson
      cases item.extraMetadata with
      | none => rfl
      | some metadata =>
          simp only [Option.bind_some]
          cases tools.dumps metadata with
          | none => rfl
          | some json => rfl

/-- If the round stores its row, the reply arrives and the publish after it is applied. -/
def RowAnnounced (tools : TextTools Metadata) (maxRetry : Int) (sourceName : CrawlSourceName)
    (world : CrawlWorld) (item : CrawlSuccessItem Metadata) (answers : ItemAnswers) : Prop :=
  ∀ row, insertedRow tools sourceName item answers = some row → ¬ Taken world row →
    answers.reach maxRetry ≠ .replyLost ∧
      (answers.reach maxRetry = .replied → answers.publish.applied = true)

instance (sourceName : CrawlSourceName) (item : CrawlSuccessItem Metadata) :
    Decidable (RowAnnounced tools maxRetry sourceName world item answers) :=
  inferInstanceAs (Decidable (∀ row ∈ insertedRow tools sourceName item answers,
    ¬ Taken world row → _))

/-- Only stored articles are announced. -/
structure ArticlesSound (world : CrawlWorld) : Prop where
  published : ∀ id ∈ world.inserted, ∃ row ∈ world.rawNews, row.rawId = id

/-- The row is stored and was never announced. -/
def Unannounced (row : RawNewsRow) (world : CrawlWorld) : Prop :=
  row ∈ world.rawNews ∧ row.rawId ∉ world.inserted

section Round
variable {sourceName : CrawlSourceName} {errorText : String}
  {item : CrawlSuccessItem Metadata}

theorem persistSuccess_cases (ended : stateAfter
      (persistSuccess tools maxRetry sourceName errorText item answers world) = after) :
    (after = world ∧ ∀ row, insertedRow tools sourceName item answers = some row →
      Taken world row ∨ answers.reach maxRetry = .unapplied) ∨
    ∃ row, insertedRow tools sourceName item answers = some row ∧
      row.rawId = answers.rawId ∧ ¬ Taken world row ∧
      ((answers.reach maxRetry = .replied ∧ answers.publish.applied = true ∧
          after = { world.store row with inserted := row.rawId :: world.inserted }) ∨
        (¬ (answers.reach maxRetry = .replied ∧ answers.publish.applied = true) ∧
          answers.reach maxRetry ≠ .unapplied ∧ after = world.store row)) := by
  have round := @persistSuccess_row _ tools maxRetry sourceName errorText item answers world
  cases inserts : insertedRow tools sourceName item answers with
  | none =>
      rw [inserts] at round
      refine Or.inl ⟨ended.symm.trans round, ?_⟩
      intro other is
      cases is
  | some row =>
      rw [inserts] at round
      simp only at round
      rw [round] at ended
      have own : row.rawId = answers.rawId := by
        obtain ⟨rawHash, -, is⟩ := Option.bind_eq_some_iff.mp inserts
        simp only at is
        split at is
        · cases is
          rfl
        · obtain ⟨json, -, rfl⟩ := Option.map_eq_some_iff.mp is
          rfl
      rcases insertAndPublish_cases ended with
        ⟨same, why⟩ | ⟨free, reach, is⟩ | ⟨free, reach, is⟩
      · refine Or.inl ⟨same, ?_⟩
        intro other is
        cases is
        exact why
      · refine Or.inr ⟨row, rfl, own, free, Or.inr ⟨?_, ?_, is⟩⟩
        · rw [reach]
          rintro ⟨impossible, -⟩
          cases impossible
        · rw [reach]
          nofun
      · refine Or.inr ⟨row, rfl, own, free, ?_⟩
        by_cases applied : answers.publish.applied = true
        · rw [if_pos applied] at is
          exact Or.inl ⟨reach, applied, is⟩
        · rw [if_neg applied] at is
          refine Or.inr ⟨fun both => applied both.2, ?_, is⟩
          rw [reach]
          nofun

theorem allAnnounced_round (announced : AllAnnounced world)
    (kept : RowAnnounced tools maxRetry sourceName world item answers) :
    AllAnnounced (stateAfter
      (persistSuccess tools maxRetry sourceName errorText item answers world)) := by
  rcases persistSuccess_cases rfl with ⟨same, -⟩ | ⟨row, inserts, -, free, stored⟩
  · exact same ▸ announced
  · obtain ⟨arrives, applied⟩ := kept row inserts free
    rcases stored with ⟨-, -, is⟩ | ⟨lost, reached, -⟩
    · rw [is]
      intro other member
      rcases List.mem_cons.mp member with rfl | old
      · exact List.mem_cons_self
      · exact List.mem_cons_of_mem _ (announced other old)
    · cases reach : answers.reach maxRetry with
      | unapplied => exact absurd reach reached
      | replyLost => exact absurd reach arrives
      | replied => exact absurd ⟨reach, applied reach⟩ lost

/-- A row stored without its announcement is a new row that is not on the stream. -/
theorem unannounced_round (sound : ArticlesSound world)
    (lost : ¬ RowAnnounced tools maxRetry sourceName world item answers) :
    ∃ row, row.rawId = answers.rawId ∧ Unannounced row (stateAfter
      (persistSuccess tools maxRetry sourceName errorText item answers world)) := by
  have reaches : ∃ row, insertedRow tools sourceName item answers = some row ∧
      ¬ Taken world row ∧ answers.reach maxRetry ≠ .unapplied ∧
      ¬ (answers.reach maxRetry = .replied ∧ answers.publish.applied = true) := by
    by_contra none
    apply lost
    intro row inserts free
    constructor
    · intro reach
      apply none
      refine ⟨row, inserts, free, ?_, ?_⟩ <;> rw [reach] <;> simp
    · intro reach
      by_contra unapplied
      apply none
      refine ⟨row, inserts, free, ?_, fun both => unapplied both.2⟩
      rw [reach]
      nofun
  obtain ⟨row, inserts, free, reached, unannounced⟩ := reaches
  rcases persistSuccess_cases rfl with ⟨-, why⟩ | ⟨other, otherInserts, own, -, stored⟩
  · rcases why row inserts with taken | unapplied
    · exact absurd taken free
    · exact absurd unapplied reached
  · rcases stored with ⟨replied, applied, -⟩ | ⟨-, -, is⟩
    · exact absurd ⟨replied, applied⟩ unannounced
    · refine ⟨other, own, ?_⟩
      rw [is]
      refine ⟨List.mem_cons_self, ?_⟩
      intro member
      cases inserts.symm.trans otherInserts
      obtain ⟨earlier, among, same⟩ := sound.published row.rawId member
      exact free ⟨earlier, among, Or.inr (Or.inl same)⟩

theorem articlesSound_round (sound : ArticlesSound world) :
    ArticlesSound (stateAfter
      (persistSuccess tools maxRetry sourceName errorText item answers world)) := by
  rcases persistSuccess_cases rfl with ⟨same, -⟩ | ⟨row, -, -, -, ⟨-, -, is⟩ | ⟨-, -, is⟩⟩
  · exact same ▸ sound
  · rw [is]
    constructor
    intro id member
    rcases List.mem_cons.mp member with rfl | old
    · exact ⟨row, List.mem_cons_self, rfl⟩
    · obtain ⟨other, among, same⟩ := sound.published id old
      exact ⟨other, List.mem_cons_of_mem _ among, same⟩
  · rw [is]
    constructor
    intro id member
    obtain ⟨other, among, same⟩ := sound.published id member
    exact ⟨other, List.mem_cons_of_mem _ among, same⟩

/-- A later round announces only its own row. -/
theorem unannounced_kept {row : RawNewsRow} (apart : row.rawId ≠ answers.rawId)
    (unannounced : Unannounced row world) :
    Unannounced row (stateAfter
      (persistSuccess tools maxRetry sourceName errorText item answers world)) := by
  obtain ⟨stored, absent⟩ := unannounced
  rcases persistSuccess_cases rfl with ⟨same, -⟩ | ⟨other, -, own, -, ⟨-, -, is⟩ | ⟨-, -, is⟩⟩
  · exact same ▸ ⟨stored, absent⟩
  · rw [is]
    refine ⟨List.mem_cons_of_mem _ stored, ?_⟩
    intro member
    rcases List.mem_cons.mp member with same | old
    · exact apart (same.trans own)
    · exact absent old
  · rw [is]
    exact ⟨List.mem_cons_of_mem _ stored, absent⟩

end Round

end Items

end WealthFinder.Ingestion
