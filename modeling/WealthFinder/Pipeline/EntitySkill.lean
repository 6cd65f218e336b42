import WealthFinder.Pipeline.EntityAnalysis
import WealthFinder.Pipeline.NameCheck
import WealthFinder.Pipeline.PrintedCode

/-!
# EntityAnalysisSkill

What the skill makes of a parsed model output.  Texts are code points, scores exact
rationals; the stock list and its index are those of the moment after the LLM call,
since nothing suspends from there on.
-/

set_option autoImplicit false

namespace WealthFinder.Pipeline

/-! ## Inputs and results -/

/-- One company the model found in the article, before verification. -/
structure ExtractedEntity where
  stockCode : Option Text
  companyName : Text
  eventTypePrimary : EventTypeEnum
  eventTypeSecondary : Option EventTypeEnum
  sentimentLabel : SentimentEnum
  sentimentScore : ℚ
  headline : Text
  entitySummary : Text
  deriving DecidableEq, Repr

structure AnalysisOutcome where
  stockCode : String
  eventTypePrimary : EventTypeEnum
  eventTypeSecondary : Option EventTypeEnum
  sentimentLabel : SentimentEnum
  sentimentScore : ℚ
  headline : Text
  entitySummary : Text
  deriving DecidableEq, Repr

/-- The skill's `VerifiedEntity`. -/
structure SkillEntity where
  stock : Stock
  outcome : AnalysisOutcome
  deriving DecidableEq, Repr

/-- What the service stores of it. -/
def SkillEntity.verified (entity : SkillEntity) : VerifiedEntity where
  exchange := entity.stock.exchange
  stockCode := entity.outcome.stockCode
  eventTypePrimary := entity.outcome.eventTypePrimary
  eventTypeSecondary := entity.outcome.eventTypeSecondary
  sentimentLabel := entity.outcome.sentimentLabel
  sentimentScore := entity.outcome.sentimentScore

structure UnverifiedEntity where
  stockCode : Option Text
  companyName : Text
  reason : String
  deriving DecidableEq, Repr

structure LlmCallMetric where
  callIndex : Nat
  purpose : String
  inputTokens : Nat
  outputTokens : Nat
  latencyMs : Nat
  deriving DecidableEq, Repr

structure LlmErrorEntry where
  callIndex : Nat
  errorType : String
  errorDetail : String
  retried : Bool
  deriving DecidableEq, Repr

structure EntityAnalysisSkillLog where
  skillVersion : String
  verifiedEntities : List String
  unverifiedEntities : List UnverifiedEntity
  inputTruncated : Bool
  llmCalls : List LlmCallMetric
  totalInputTokens : Nat
  totalOutputTokens : Nat
  totalLatencyMs : Nat
  llmErrors : List LlmErrorEntry
  timestamp : Timestamp
  deriving DecidableEq, Repr

structure EntityAnalysisResult where
  entityEvents : List SkillEntity
  skillLog : EntityAnalysisSkillLog
  deriving DecidableEq, Repr

structure EntityAnalysisInput where
  title : Text
  body : Text
  deriving DecidableEq, Repr

/-- The parsed answer of `generate_structured`. -/
structure StructuredLLMResponse where
  outputItems : List ExtractedEntity
  inputTokens : Nat
  outputTokens : Nat
  latencyMs : Nat
  deriving DecidableEq, Repr

inductive SkillError where
  | lookup (error : LookupError)
  | valueError
  deriving DecidableEq, Repr

def entitySkillVersion : String := "v1.0.0"
def headlineMaxChars : Nat := 20
def entitySummaryMaxChars : Nat := 100
def businessValidationError : String := "BusinessValidationError"
def notInHkStockList : String := "not_in_hk_stock_list"

/-! ## `_verify_entity` -/

/-- `(\.HK)?` under `re.IGNORECASE`. -/
def isHkInput : Text → Bool
  | [] => true
  | [dot, h, k] => dot = '.' && anyCase 'h' h && anyCase 'k' k
  | _ => false

/-- `text.removesuffix(".HK")`. -/
def dropHkSuffix (text : Text) : Text :=
  if hkSuffix.isSuffixOf text then text.take (text.length - hkSuffix.length) else text

/-- `text.zfill(5)` of a text without a sign. -/
def zfill5 (text : Text) : Text := List.replicate (5 - text.length) '0' ++ text

/-- The long k has no other upper case, so its suffix stays. -/
def parseStockCode (raw : Option Text) : Option String :=
  let text := strip (raw.getD [])
  let digits := text.takeWhile isDecimal
  if 2 ≤ digits.length ∧ digits.length ≤ 5 ∧ isHkInput (text.drop digits.length) then
    some (String.ofList (zfill5 (dropHkSuffix (text.map Char.toUpper))))
  else none

def searchByName (folding : Folding) (cache : HKStockListCache) (name : Text) :
    Except SkillError (Option Stock) :=
  (lookupStock folding (some cache) name).mapError SkillError.lookup

def verifyEntity (folding : Folding) (cache : HKStockListCache) (extracted : ExtractedEntity)
    (articleText : Text) : Except SkillError (Option Stock) :=
  match (parseStockCode extracted.stockCode).bind cache.entries.get with
  | none => searchByName folding cache extracted.companyName
  | some stock =>
      match nameMatchesStock folding (some cache) extracted.companyName stock with
      | .error error => .error (.lookup error)
      | .ok true => .ok (some stock)
      | .ok false =>
          match codePrinted stock.stockCode articleText with
          | none => .error .valueError
          | some true => .ok (some stock)
          | some false => searchByName folding cache extracted.companyName

/-! ## `_enforce_constraints` -/

def validationError (detail : String) : LlmErrorEntry :=
  ⟨1, businessValidationError, detail, false⟩

/-- A business constraint: when it is broken, how it is repaired and what is recorded. -/
structure BusinessConstraint where
  broken : AnalysisOutcome → Bool
  repair : AnalysisOutcome → AnalysisOutcome
  detail : String

def BusinessConstraint.enforce (constraint : BusinessConstraint)
    (fixed : AnalysisOutcome × List LlmErrorEntry) : AnalysisOutcome × List LlmErrorEntry :=
  if constraint.broken fixed.1 then
    (constraint.repair fixed.1,
      fixed.2 ++ [validationError (fixed.1.stockCode ++ " " ++ constraint.detail)])
  else fixed

def sentimentScoreConstraint : BusinessConstraint where
  broken := fun outcome => !(0 ≤ outcome.sentimentScore && outcome.sentimentScore ≤ 1)
  repair := fun outcome =>
    { outcome with sentimentScore := min (max outcome.sentimentScore 0) 1 }
  detail := "sentiment_score clipped"

def headlineConstraint : BusinessConstraint where
  broken := fun outcome => headlineMaxChars < outcome.headline.length
  repair := fun outcome => { outcome with headline := outcome.headline.take headlineMaxChars }
  detail := "headline truncated"

def entitySummaryConstraint : BusinessConstraint where
  broken := fun outcome => entitySummaryMaxChars < outcome.entitySummary.length
  repair := fun outcome =>
    { outcome with entitySummary := outcome.entitySummary.take entitySummaryMaxChars }
  detail := "entity_summary truncated"

def eventTypeSecondaryConstraint : BusinessConstraint where
  broken := fun outcome => outcome.eventTypeSecondary = some outcome.eventTypePrimary
  repair := fun outcome => { outcome with eventTypeSecondary := none }
  detail := "event_type_secondary cleared"

/-- The repaired outcome and the errors recorded. -/
def enforceConstraints (outcome : AnalysisOutcome) : AnalysisOutcome × List LlmErrorEntry :=
  [sentimentScoreConstraint, headlineConstraint, entitySummaryConstraint,
    eventTypeSecondaryConstraint].foldl (fun fixed constraint => constraint.enforce fixed)
    (outcome, [])

/-! ## `llm_process` -/

/-- What the instance has gathered, and the local `entities`. -/
structure SkillState where
  entities : List SkillEntity
  verifiedEntities : List String
  unverifiedEntities : List UnverifiedEntity
  llmErrors : List LlmErrorEntry

def SkillState.start : SkillState := ⟨[], [], [], []⟩

def analysisOutcome (stock : Stock) (extracted : ExtractedEntity) : AnalysisOutcome where
  stockCode := stock.stockCode
  eventTypePrimary := extracted.eventTypePrimary
  eventTypeSecondary := extracted.eventTypeSecondary
  sentimentLabel := extracted.sentimentLabel
  sentimentScore := extracted.sentimentScore
  headline := extracted.headline
  entitySummary := extracted.entitySummary

/-- The loop body after `_verify_entity`. -/
def account (state : SkillState) (extracted : ExtractedEntity) : Option Stock → SkillState
  | none =>
      { state with
        unverifiedEntities := state.unverifiedEntities ++
          [⟨extracted.stockCode, extracted.companyName, notInHkStockList⟩] }
  | some stock =>
      let (outcome, errors) := enforceConstraints (analysisOutcome stock extracted)
      if outcome.stockCode ∈ state.verifiedEntities then
        { state with
          llmErrors := state.llmErrors ++ errors ++
            [validationError (outcome.stockCode ++ " duplicate dropped")] }
      else
        { state with
          llmErrors := state.llmErrors ++ errors
          verifiedEntities := state.verifiedEntities ++ [outcome.stockCode]
          entities := state.entities ++ [⟨stock, outcome⟩] }

def processItem (folding : Folding) (cache : HKStockListCache) (articleText : Text)
    (state : SkillState) (extracted : ExtractedEntity) : Except SkillError SkillState :=
  (verifyEntity folding cache extracted articleText).map (account state extracted)

def createSkillLog (state : SkillState) (inputTruncated : Bool)
    (llmCalls : List LlmCallMetric) (now : Timestamp) : EntityAnalysisSkillLog where
  skillVersion := entitySkillVersion
  verifiedEntities := state.verifiedEntities
  unverifiedEntities := state.unverifiedEntities
  inputTruncated := inputTruncated
  llmCalls := llmCalls
  totalInputTokens := (llmCalls.map LlmCallMetric.inputTokens).sum
  totalOutputTokens := (llmCalls.map LlmCallMetric.outputTokens).sum
  totalLatencyMs := (llmCalls.map LlmCallMetric.latencyMs).sum
  llmErrors := state.llmErrors
  timestamp := now

/-- The text that a printed code is looked for in: the body is cut before the call. -/
def EntityAnalysisInput.articleText (input : EntityAnalysisInput) (maxInputChars : Nat) : Text :=
  input.title ++ input.body.take maxInputChars

/-- `llm_process` after the LLM has answered. -/
def llmProcess (folding : Folding) (cache : HKStockListCache) (maxInputChars : Nat)
    (input : EntityAnalysisInput) (response : StructuredLLMResponse) (now : Timestamp) :
    Except SkillError EntityAnalysisResult :=
  (response.outputItems.foldlM
      (processItem folding cache (input.articleText maxInputChars)) SkillState.start).map
    fun state =>
      { entityEvents := state.entities
        skillLog := createSkillLog state
          ((input.body.take maxInputChars).length < input.body.length)
          [⟨1, "structured_output", response.inputTokens, response.outputTokens,
            response.latencyMs⟩] now }

/-! ## Verification returns a listed stock -/

/-- The list's codes are HKEX's native ones. -/
structure StockList.Native (list : StockList) : Prop where
  keyed : list.Keyed
  digits : ∀ entry ∈ list.entries, entry.1.toList ≠ [] ∧
    ∀ c ∈ entry.1.toList, isDecimal c = true

theorem StockList.mem_of_get {list : StockList} {code : String} {stock : Stock}
    (found : list.get code = some stock) : (code, stock) ∈ list.entries := by
  obtain ⟨entry, isFound, rfl⟩ := Option.map_eq_some_iff.mp found
  have same : entry.1 = code := by simpa using List.find?_some isFound
  exact same ▸ List.mem_of_find?_eq_some isFound

section
variable {folding : Folding} {list : StockList} (native : list.Native)
include native

theorem searchByName_ok (name : Text) :
    ∃ result, searchByName folding (.create folding list) name = .ok result ∧
      ∀ stock, result = some stock → list.get stock.stockCode = some stock := by
  obtain ⟨decided, undecided⟩ := lookupStock_ok folding list name
  by_cases only : ∃ code, ∀ other, Decides folding list name other ↔ other = code
  · obtain ⟨code, only⟩ := only
    obtain ⟨listed, member⟩ := ((only code).mpr rfl).listed
    refine ⟨_, by rw [searchByName, decided code listed only member]; rfl, ?_⟩
    intro stock is
    split at is
    · cases is
    · cases is
      have same : listed.stockCode = code := native.keyed _ member
      rw [same]
      exact list.get_of_mem member
  · refine ⟨none, by rw [searchByName, undecided only]; rfl, ?_⟩
    intro stock is
    cases is

theorem verifyEntity_ok (extracted : ExtractedEntity) (articleText : Text) :
    ∃ result, verifyEntity folding (.create folding list) extracted articleText = .ok result ∧
      ∀ stock, result = some stock → list.get stock.stockCode = some stock := by
  unfold verifyEntity
  split
  · exact searchByName_ok native _
  · rename_i stock found
    obtain ⟨code, -, isListed⟩ := Option.bind_eq_some_iff.mp found
    have member : (code, stock) ∈ list.entries := list.mem_of_get isListed
    have same : stock.stockCode = code := native.keyed _ member
    have listed : ∀ other, some stock = some other → list.get other.stockCode = some other := by
      rintro other ⟨⟩
      rw [same]
      exact isListed
    split
    · rename_i error failed
      cases failed
    · exact ⟨_, rfl, listed⟩
    · obtain ⟨nonempty, digits⟩ := native.digits _ member
      rw [codePrinted_digits (same ▸ nonempty) (same ▸ digits)]
      split
      · rename_i failed
        cases failed
      · exact ⟨_, rfl, listed⟩
      · exact searchByName_ok native _

end

/-! ## The repaired outcome -/

def AnalysisOutcome.WithinBounds (outcome : AnalysisOutcome) : Prop :=
  0 ≤ outcome.sentimentScore ∧ outcome.sentimentScore ≤ 1 ∧
    outcome.headline.length ≤ headlineMaxChars ∧
    outcome.entitySummary.length ≤ entitySummaryMaxChars ∧
    outcome.eventTypeSecondary ≠ some outcome.eventTypePrimary

/-- What is within bounds stays as the model wrote it. -/
structure AnalysisOutcome.Keeps (outcome : AnalysisOutcome) (extracted : ExtractedEntity) :
    Prop where
  eventTypePrimary : outcome.eventTypePrimary = extracted.eventTypePrimary
  sentimentLabel : outcome.sentimentLabel = extracted.sentimentLabel
  sentimentScore : 0 ≤ extracted.sentimentScore → extracted.sentimentScore ≤ 1 →
    outcome.sentimentScore = extracted.sentimentScore
  headline : extracted.headline.length ≤ headlineMaxChars →
    outcome.headline = extracted.headline
  entitySummary : extracted.entitySummary.length ≤ entitySummaryMaxChars →
    outcome.entitySummary = extracted.entitySummary
  eventTypeSecondary : extracted.eventTypeSecondary ≠ some extracted.eventTypePrimary →
    outcome.eventTypeSecondary = extracted.eventTypeSecondary

/-- The four repairs in closed form: each leaves a field within bounds alone. -/
theorem enforceConstraints_outcome (outcome : AnalysisOutcome) :
    (enforceConstraints outcome).1 =
      { outcome with
        sentimentScore := min (max outcome.sentimentScore 0) 1
        headline := outcome.headline.take headlineMaxChars
        entitySummary := outcome.entitySummary.take entitySummaryMaxChars
        eventTypeSecondary :=
          if outcome.eventTypeSecondary = some outcome.eventTypePrimary then none
          else outcome.eventTypeSecondary } := by
  have score : (sentimentScoreConstraint.enforce (outcome, [])).1 =
      { outcome with sentimentScore := min (max outcome.sentimentScore 0) 1 } := by
    unfold BusinessConstraint.enforce
    split
    · rfl
    · rename_i within
      simp only [sentimentScoreConstraint, Bool.not_eq_true', Bool.and_eq_false_iff,
        decide_eq_false_iff_not, not_or, not_not] at within
      rw [max_eq_left within.1, min_eq_left within.2]
  have headline (fixed : AnalysisOutcome × List LlmErrorEntry) :
      (headlineConstraint.enforce fixed).1 =
        { fixed.1 with headline := fixed.1.headline.take headlineMaxChars } := by
    unfold BusinessConstraint.enforce
    split
    · rfl
    · rename_i within
      simp only [headlineConstraint, decide_eq_true_eq, not_lt] at within
      rw [List.take_of_length_le within]
  have summary (fixed : AnalysisOutcome × List LlmErrorEntry) :
      (entitySummaryConstraint.enforce fixed).1 =
        { fixed.1 with
          entitySummary := fixed.1.entitySummary.take entitySummaryMaxChars } := by
    unfold BusinessConstraint.enforce
    split
    · rfl
    · rename_i within
      simp only [entitySummaryConstraint, decide_eq_true_eq, not_lt] at within
      rw [List.take_of_length_le within]
  have secondary (fixed : AnalysisOutcome × List LlmErrorEntry) :
      (eventTypeSecondaryConstraint.enforce fixed).1 =
        { fixed.1 with
          eventTypeSecondary :=
            if fixed.1.eventTypeSecondary = some fixed.1.eventTypePrimary then none
            else fixed.1.eventTypeSecondary } := by
    unfold BusinessConstraint.enforce
    split
    · rename_i broken
      simp only [eventTypeSecondaryConstraint, decide_eq_true_eq] at broken ⊢
      rw [if_pos broken]
    · rename_i apart
      simp only [eventTypeSecondaryConstraint, decide_eq_true_eq] at apart
      rw [if_neg apart]
  simp only [enforceConstraints, List.foldl_cons, List.foldl_nil, secondary, summary, headline,
    score]

theorem enforceConstraints_withinBounds (outcome : AnalysisOutcome) :
    (enforceConstraints outcome).1.WithinBounds := by
  rw [enforceConstraints_outcome]
  refine ⟨le_min (le_max_right _ _) zero_le_one, min_le_right _ _, List.length_take_le _ _,
    List.length_take_le _ _, ?_⟩
  simp only
  split
  · intro same
    cases same
  · rename_i apart
    exact apart

theorem enforceConstraints_keeps (stock : Stock) (extracted : ExtractedEntity) :
    (enforceConstraints (analysisOutcome stock extracted)).1.Keeps extracted := by
  rw [enforceConstraints_outcome]
  refine ⟨rfl, rfl, ?_, ?_, ?_, ?_⟩
  · intro low high
    simp only [analysisOutcome, max_eq_left low, min_eq_left high]
  · intro short
    exact List.take_of_length_le short
  · intro short
    exact List.take_of_length_le short
  · intro apart
    exact if_neg apart

@[simp] theorem enforceConstraints_stockCode (outcome : AnalysisOutcome) :
    (enforceConstraints outcome).1.stockCode = outcome.stockCode := by
  rw [enforceConstraints_outcome]

/-! ## What becomes of each item -/

inductive Fate where
  | verified (item : ExtractedEntity) (entity : SkillEntity)
  | unverified (item : ExtractedEntity)
  | duplicate (item : ExtractedEntity) (stock : Stock)

namespace Fate

def item : Fate → ExtractedEntity
  | .verified item _ => item
  | .unverified item => item
  | .duplicate item _ => item

def entity? : Fate → Option SkillEntity
  | .verified _ entity => some entity
  | .unverified _ => none
  | .duplicate _ _ => none

def unverified? : Fate → Option UnverifiedEntity
  | .verified _ _ => none
  | .unverified item => some ⟨item.stockCode, item.companyName, notInHkStockList⟩
  | .duplicate _ _ => none

/-- The errors that are recorded for the item. -/
def llmErrors : Fate → List LlmErrorEntry
  | .verified item entity => (enforceConstraints (analysisOutcome entity.stock item)).2
  | .unverified _ => []
  | .duplicate item stock =>
      (enforceConstraints (analysisOutcome stock item)).2 ++
        [validationError (stock.stockCode ++ " duplicate dropped")]

/-- The fate follows from what the item and the earlier ones resolve to: the first
item of a code is kept. -/
def Follows (resolve : ExtractedEntity → Option Stock) (before : List Fate) : Fate → Prop
  | .verified item entity =>
      resolve item = some entity.stock ∧
        entity.outcome = (enforceConstraints (analysisOutcome entity.stock item)).1 ∧
        ∀ earlier ∈ before, ∀ stock, resolve earlier.item = some stock →
          stock.stockCode ≠ entity.stock.stockCode
  | .unverified item => resolve item = none
  | .duplicate item stock =>
      resolve item = some stock ∧ ∃ first entity, .verified first entity ∈ before ∧
        entity.stock.stockCode = stock.stockCode

end Fate

/-- What the skill has gathered after items with these fates. -/
structure Tallied (resolve : ExtractedEntity → Option Stock) (state : SkillState)
    (fates : List Fate) : Prop where
  entities : state.entities = fates.filterMap Fate.entity?
  verifiedEntities : state.verifiedEntities = state.entities.map fun entity =>
    entity.stock.stockCode
  distinct : state.verifiedEntities.Nodup
  unverifiedEntities : state.unverifiedEntities = fates.filterMap Fate.unverified?
  llmErrors : state.llmErrors = fates.flatMap Fate.llmErrors
  follows : ∀ before fate after, fates = before ++ fate :: after → fate.Follows resolve before

theorem tallied_start (resolve : ExtractedEntity → Option Stock) :
    Tallied resolve SkillState.start [] where
  entities := rfl
  verifiedEntities := rfl
  distinct := List.nodup_nil
  unverifiedEntities := rfl
  llmErrors := rfl
  follows := by
    intro before fate after same
    cases before <;> cases same

theorem Tallied.follows_append {resolve : ExtractedEntity → Option Stock}
    {state : SkillState} {fates : List Fate} (accounted : Tallied resolve state fates)
    {last : Fate} (follows : last.Follows resolve fates) (before : List Fate) (fate : Fate)
    (after : List Fate) (same : fates ++ [last] = before ++ fate :: after) :
    fate.Follows resolve before := by
  rcases List.append_eq_append_iff.mp same with ⟨middle, rfl, is⟩ | ⟨middle, rfl, is⟩
  · cases middle with
    | nil =>
        cases is
        rwa [List.append_nil]
    | cons head tail =>
        have impossible := congrArg List.length is
        simp at impossible
  · cases middle with
    | nil =>
        cases is
        rwa [List.append_nil] at follows
    | cons head tail =>
        cases is
        exact accounted.follows before fate tail rfl

/-- An item that resolved has its code among the verified ones. -/
theorem Tallied.resolved {resolve : ExtractedEntity → Option Stock} {state : SkillState}
    {fates : List Fate} (accounted : Tallied resolve state fates) {fate : Fate}
    (member : fate ∈ fates) {stock : Stock} (is : resolve fate.item = some stock) :
    stock.stockCode ∈ state.verifiedEntities := by
  have kept {item : ExtractedEntity} {entity : SkillEntity}
      (member : Fate.verified item entity ∈ fates) :
      entity.stock.stockCode ∈ state.verifiedEntities := by
    rw [accounted.verifiedEntities, accounted.entities]
    exact List.mem_map.mpr ⟨entity, List.mem_filterMap.mpr ⟨_, member, rfl⟩, rfl⟩
  obtain ⟨before, after, rfl⟩ := List.append_of_mem member
  have follows := accounted.follows before fate after rfl
  cases fate with
  | verified item entity =>
      cases is.symm.trans follows.1
      exact kept member
  | unverified item => cases is.symm.trans follows
  | duplicate item other =>
      obtain ⟨resolved, first, entity, earlier, same⟩ := follows
      cases is.symm.trans resolved
      rw [← same]
      exact kept (List.mem_append_left _ earlier)

/-- One more item gets one more fate. -/
theorem Tallied.account {resolve : ExtractedEntity → Option Stock} {state : SkillState}
    {fates : List Fate} (accounted : Tallied resolve state fates) (item : ExtractedEntity) :
    ∃ fate, fate.item = item ∧
      Tallied resolve (account state item (resolve item)) (fates ++ [fate]) := by
  cases is : resolve item with
  | none =>
      have follows : (Fate.unverified item).Follows resolve fates := is
      refine ⟨.unverified item, rfl, ?_, accounted.verifiedEntities, accounted.distinct, ?_, ?_,
        accounted.follows_append follows⟩
      · simp [Pipeline.account, accounted.entities, Fate.entity?]
      · simp [Pipeline.account, accounted.unverifiedEntities, Fate.unverified?]
      · simp [Pipeline.account, accounted.llmErrors, Fate.llmErrors]
  | some stock =>
      have code : (enforceConstraints (analysisOutcome stock item)).1.stockCode =
          stock.stockCode := enforceConstraints_stockCode _
      by_cases again : stock.stockCode ∈ state.verifiedEntities
      · have follows : (Fate.duplicate item stock).Follows resolve fates := by
          refine ⟨is, ?_⟩
          have member := again
          rw [accounted.verifiedEntities, accounted.entities] at member
          obtain ⟨entity, kept, same⟩ := List.mem_map.mp member
          obtain ⟨fate, inFates, isEntity⟩ := List.mem_filterMap.mp kept
          cases fate with
          | verified first other =>
              cases isEntity
              exact ⟨first, entity, inFates, same⟩
          | unverified other => cases isEntity
          | duplicate other stock => cases isEntity
        have stepped : Pipeline.account state item (some stock) =
            { state with
              llmErrors := state.llmErrors ++ (Fate.duplicate item stock).llmErrors } := by
          simp only [Pipeline.account, code, again, if_true, Fate.llmErrors, List.append_assoc]
        rw [stepped]
        refine ⟨.duplicate item stock, rfl, ?_, accounted.verifiedEntities, accounted.distinct,
          ?_, ?_, accounted.follows_append follows⟩
        · simp [accounted.entities, Fate.entity?]
        · simp [accounted.unverifiedEntities, Fate.unverified?]
        · simp [accounted.llmErrors]
      · have follows : (Fate.verified item
            ⟨stock, (enforceConstraints (analysisOutcome stock item)).1⟩).Follows resolve fates := by
          refine ⟨is, rfl, ?_⟩
          intro earlier member other resolved same
          exact again (same ▸ accounted.resolved member resolved)
        refine ⟨.verified item ⟨stock, (enforceConstraints (analysisOutcome stock item)).1⟩, rfl,
          ?_⟩
        simp only [Pipeline.account, code, again, if_false]
        refine ⟨?_, ?_, ?_, ?_, ?_, accounted.follows_append follows⟩
        · simp [accounted.entities, Fate.entity?]
        · simp [accounted.verifiedEntities]
        · exact accounted.distinct.append (List.nodup_singleton _) (by simpa using again)
        · simp [accounted.unverifiedEntities, Fate.unverified?]
        · simp [accounted.llmErrors, Fate.llmErrors]

theorem Tallied.foldl {resolve : ExtractedEntity → Option Stock} {state : SkillState}
    {fates : List Fate} (accounted : Tallied resolve state fates)
    (items : List ExtractedEntity) :
    ∃ more, more.map Fate.item = items ∧ Tallied resolve
      (items.foldl (fun state item => Pipeline.account state item (resolve item)) state)
      (fates ++ more) := by
  induction items generalizing state fates with
  | nil => exact ⟨[], rfl, by simpa using accounted⟩
  | cons item rest ih =>
      obtain ⟨fate, same, next⟩ := accounted.account item
      obtain ⟨more, sameRest, final⟩ := ih next
      exact ⟨fate :: more, by simp [same, sameRest], by simpa using final⟩

theorem foldlM_processItem {folding : Folding} {cache : HKStockListCache} {articleText : Text}
    {resolve : ExtractedEntity → Option Stock}
    (resolved : ∀ item, verifyEntity folding cache item articleText = .ok (resolve item))
    (items : List ExtractedEntity) (state : SkillState) :
    items.foldlM (processItem folding cache articleText) state =
      .ok (items.foldl (fun state item => account state item (resolve item)) state) := by
  induction items generalizing state with
  | nil => rfl
  | cons item rest ih =>
      have stepped : processItem folding cache articleText state item =
          .ok (account state item (resolve item)) := by
        rw [processItem, resolved]
        rfl
      rw [List.foldlM_cons, stepped, List.foldl_cons]
      exact ih _

/-- Every item of the output has one fate, in order: verified, unverified or dropped as
a duplicate.  The verified codes are distinct and listed, the first item of each is
kept, and the outcomes are within bounds. -/
theorem llmProcess_accounts (folding : Folding) (list : StockList) (native : list.Native)
    (maxInputChars : Nat) (input : EntityAnalysisInput) (response : StructuredLLMResponse)
    (now : Timestamp) :
    ∃ result resolve fates,
      llmProcess folding (.create folding list) maxInputChars input response now = .ok result ∧
      (∀ item, verifyEntity folding (.create folding list) item
        (input.articleText maxInputChars) = .ok (resolve item)) ∧
      fates.map Fate.item = response.outputItems ∧
      (∀ before fate after, fates = before ++ fate :: after → fate.Follows resolve before) ∧
      result.entityEvents = fates.filterMap Fate.entity? ∧
      result.skillLog.unverifiedEntities = fates.filterMap Fate.unverified? ∧
      result.skillLog.llmErrors = fates.flatMap Fate.llmErrors ∧
      result.skillLog.verifiedEntities =
        (result.entityEvents.map fun entity => entity.outcome.stockCode) ∧
      result.skillLog.verifiedEntities.Nodup ∧
      (∀ entity ∈ result.entityEvents, list.get entity.outcome.stockCode = some entity.stock ∧
        entity.outcome.WithinBounds) ∧
      ∀ item entity, .verified item entity ∈ fates → entity.outcome.Keeps item := by
  choose resolve resolved listed using fun item =>
    @verifyEntity_ok folding list native item (input.articleText maxInputChars)
  obtain ⟨fates, items, accounted⟩ :=
    (tallied_start resolve).foldl response.outputItems
  rw [List.nil_append] at accounted
  have outcomeOf {item : ExtractedEntity} {entity : SkillEntity}
      (member : Fate.verified item entity ∈ fates) : resolve item = some entity.stock ∧
        entity.outcome = (enforceConstraints (analysisOutcome entity.stock item)).1 := by
    obtain ⟨before, after, split⟩ := List.append_of_mem member
    obtain ⟨is, outcome, -⟩ := accounted.follows before _ after split
    exact ⟨is, outcome⟩
  have entityOf {entity : SkillEntity} (member : entity ∈ fates.filterMap Fate.entity?) :
      ∃ item, Fate.verified item entity ∈ fates := by
    obtain ⟨fate, inFates, isEntity⟩ := List.mem_filterMap.mp member
    cases fate with
    | verified item other =>
        cases isEntity
        exact ⟨item, inFates⟩
    | unverified item => cases isEntity
    | duplicate item stock => cases isEntity
  have codeOf {entity : SkillEntity} (member : entity ∈ fates.filterMap Fate.entity?) :
      entity.outcome.stockCode = entity.stock.stockCode := by
    obtain ⟨item, inFates⟩ := entityOf member
    rw [(outcomeOf inFates).2, enforceConstraints_stockCode]
    rfl
  refine ⟨_, resolve, fates, by rw [llmProcess, foldlM_processItem resolved]; rfl, resolved,
    items, accounted.follows, accounted.entities, accounted.unverifiedEntities,
    accounted.llmErrors, ?_, accounted.distinct, ?_, ?_⟩
  · refine accounted.verifiedEntities.trans (List.map_congr_left fun entity member => ?_)
    exact (codeOf (accounted.entities ▸ member)).symm
  · intro entity member
    have inFates : entity ∈ fates.filterMap Fate.entity? := accounted.entities ▸ member
    obtain ⟨item, verified⟩ := entityOf inFates
    obtain ⟨is, outcome⟩ := outcomeOf verified
    refine ⟨?_, outcome ▸ enforceConstraints_withinBounds _⟩
    rw [codeOf inFates]
    exact listed item entity.stock is
  · intro item entity member
    rw [(outcomeOf member).2]
    exact enforceConstraints_keeps _ _

def sampleExtracted (code : Option String) (name : String) (score : ℚ) : ExtractedEntity where
  stockCode := code.map String.toList
  companyName := name.toList
  eventTypePrimary := .earnings
  eventTypeSecondary := some .earnings
  sentimentLabel := .positive
  sentimentScore := score
  headline := List.replicate 25 '一'
  entitySummary := []

/-- The second item resolves by name to the first one's stock, the third to none. -/
def sampleResponse : StructuredLLMResponse :=
  ⟨[sampleExtracted (some "700.HK") "騰訊控股" (7 / 5), sampleExtracted none "騰訊" (1 / 2),
    sampleExtracted (some "A1234") "蘋果公司" 0], 1500, 200, 900⟩

def sampleInput : EntityAnalysisInput := ⟨"標題".toList, "內文".toList⟩

theorem sampleStockList_native : sampleStockList.Native := by
  refine ⟨by decide, ?_⟩
  have digits : sampleStockList.entries.all (fun entry =>
      decide (entry.1.toList ≠ []) && entry.1.toList.all isDecimal) = true := by decide +kernel
  intro entry member
  have is := List.all_eq_true.mp digits entry member
  simp only [Bool.and_eq_true, decide_eq_true_eq] at is
  exact ⟨is.1, List.all_eq_true.mp is.2⟩

theorem llmProcess_accounts_sample : ∃ result,
    llmProcess sampleFolding (.create sampleFolding sampleStockList) 30000 sampleInput
      sampleResponse 0 = .ok result ∧
    result.skillLog.verifiedEntities.Nodup ∧
    ∀ entity ∈ result.entityEvents, entity.outcome.WithinBounds := by
  obtain ⟨result, _, _, returned, -, -, -, -, -, -, -, distinct, listed, -⟩ :=
    llmProcess_accounts sampleFolding sampleStockList sampleStockList_native 30000 sampleInput
      sampleResponse 0
  exact ⟨result, returned, distinct, fun entity member => (listed entity member).2⟩

example : (llmProcess sampleFolding (.create sampleFolding sampleStockList) 30000 sampleInput
    sampleResponse 0).map (fun result => (result.skillLog.verifiedEntities,
      result.skillLog.unverifiedEntities.length,
      result.skillLog.llmErrors.map LlmErrorEntry.errorDetail)) =
    .ok (["00700"], 1, ["00700 sentiment_score clipped", "00700 headline truncated",
      "00700 event_type_secondary cleared", "00700 headline truncated",
      "00700 event_type_secondary cleared", "00700 duplicate dropped"]) := by decide +kernel

end WealthFinder.Pipeline
