import Mathlib.Data.List.Perm.Basic
import Mathlib.Tactic.Ring
import WealthFinder.Pipeline.EventRepository

/-!
# The score of an Event

`compute_rule_score`, `compute_sentiment_aggregation` and `_score_fusion`.  `none` stands
for an exception.  The scores are exact rationals where the code computes with floats and
rounds at every operation, so equations between scores hold here up to that rounding.
-/

set_option autoImplicit false

namespace WealthFinder.Pipeline

structure EventTypeScore where
  eventType : EventTypeEnum
  score : ℚ
  deriving DecidableEq, Repr

structure ScoringConfig where
  totalActiveSourcesDefault : Int
  eventTypeScore : List EventTypeScore
  deriving DecidableEq, Repr

def defaultScoringConfig : ScoringConfig where
  totalActiveSourcesDefault := 4
  eventTypeScore :=
    [⟨.earnings, 9⟩, ⟨.buyback, 7⟩, ⟨.ma, 17 / 2⟩, ⟨.regulatory, 8⟩, ⟨.managementChange, 7⟩,
      ⟨.analystRating, 5⟩, ⟨.dividend, 6⟩, ⟨.generalAnnouncement, 4⟩]

/-! ## Source weights -/

inductive SourceTier where
  | p1
  | p2
  | p3
  deriving DecidableEq, Repr

def SourceTier.defaultWeight : SourceTier → ℚ
  | .p1 => 9
  | .p2 => 6
  | .p3 => 4

def sourceTier : List (String × SourceTier) :=
  [("HKEX", .p1), ("MINGPAO", .p2), ("AASTOCKS", .p2), ("YAHOO_HK", .p2)]

/-- The weights of a dict, by source name. -/
abbrev SourceWeights := List (String × ℚ)

def getFallbackWeights (sourceNames : List String) : SourceWeights :=
  sourceNames.map fun name =>
    (name, ((sourceTier.lookup name).map SourceTier.defaultWeight).getD 0)

def getSourceWeights (sourceNames : List String) : SourceWeights :=
  getFallbackWeights sourceNames

/-- `source_weights.get(name, 0.0)`. -/
def SourceWeights.get (weights : SourceWeights) (name : String) : ℚ :=
  (weights.lookup name).getD 0

/-! ## The rule score -/

def directionCoefficient : SentimentEnum → ℚ
  | .positive => 1
  | .neutral => 0
  | .negative => -1

structure SentimentAggregation where
  weightedSignedScore : ℚ
  sentimentStrengthScore : ℚ
  deriving DecidableEq, Repr

/-- `/`, which raises ZeroDivisionError. -/
def truediv (dividend divisor : ℚ) : Option ℚ :=
  if divisor = 0 then none else some (dividend / divisor)

/-- The sums of the loop over the constituents. -/
structure SentimentSums where
  totalWeight : ℚ
  weightedSignedSum : ℚ
  weightedStrengthSum : ℚ
  deriving DecidableEq, Repr

def SentimentSums.add (weights : SourceWeights) (sums : SentimentSums)
    (entityEvent : EntityEvent) : SentimentSums :=
  let weight := weights.get entityEvent.sourceName
  { totalWeight := sums.totalWeight + weight
    weightedSignedSum := sums.weightedSignedSum + entityEvent.sentimentScore *
      directionCoefficient entityEvent.sentimentLabel * weight
    weightedStrengthSum := sums.weightedStrengthSum + entityEvent.sentimentScore * weight }

def computeSentimentAggregation (constituents : List EntityEvent)
    (weights : SourceWeights) : Option SentimentAggregation :=
  let sums := constituents.foldl (SentimentSums.add weights) ⟨0, 0, 0⟩
  if sums.totalWeight = 0 then some ⟨0, 0⟩
  else
    (truediv sums.weightedSignedSum sums.totalWeight).bind fun weightedSignedScore =>
      (truediv sums.weightedStrengthSum sums.totalWeight).map fun sentimentStrengthScore =>
        ⟨weightedSignedScore, sentimentStrengthScore⟩

structure RuleScore where
  eventTypeScore : ℚ
  sourceAuthorityScore : ℚ
  sentimentStrengthScore : ℚ
  sourceHeatScore : ℚ
  deriving DecidableEq, Repr

def RuleScore.baseRuleScore (rule : RuleScore) : ℚ :=
  rule.eventTypeScore * (30 / 100) + rule.sourceAuthorityScore * (25 / 100) +
    rule.sentimentStrengthScore * (15 / 100) + rule.sourceHeatScore * (10 / 100)

structure VersionedMetadata (Output : Type) where
  version : String
  output : Output
  deriving DecidableEq, Repr

def getEventTypeScore (eventType : EventTypeEnum) (config : ScoringConfig) : Option ℚ :=
  (config.eventTypeScore.find? fun entry => entry.eventType = eventType).map
    EventTypeScore.score

/-- `max` of no source raises too. -/
def computeRuleScore (event : EventRow) (sentimentAgg : SentimentAggregation)
    (weights : SourceWeights) (totalActiveSources : Int) (config : ScoringConfig) :
    Option (VersionedMetadata RuleScore) :=
  (getEventTypeScore event.group.eventTypePrimary config).bind fun eventTypeScore =>
    ((event.sourceList.map fun source => weights.get source.sourceName).max?).bind
      fun sourceAuthorityScore =>
        (truediv event.sourceList.length totalActiveSources).map fun sourcesPerActive => {
          version := "v1.0.0"
          output := {
            eventTypeScore := eventTypeScore
            sourceAuthorityScore := sourceAuthorityScore
            sentimentStrengthScore := sentimentAgg.sentimentStrengthScore * 10
            sourceHeatScore := min 10 (sourcesPerActive * 10) } }

/-! ## The fused score -/

structure LLMScore where
  stockImpactScore : ℚ
  adjustmentReason : String
  deriving DecidableEq, Repr

def llmScorePlaceholder : VersionedMetadata LLMScore := ⟨"none", ⟨0, ""⟩⟩

structure FusedScore where
  direction : Int
  baseRuleScore : ℚ
  absFinalScore : ℚ
  deriving DecidableEq, Repr

def scoreFusion (ruleScore : RuleScore) (llmScore : LLMScore)
    (sentimentAgg : SentimentAggregation) : FusedScore :=
  let direction : Int :=
    if 0 < llmScore.stockImpactScore then 1
    else if llmScore.stockImpactScore < 0 then -1
    else if 0 ≤ sentimentAgg.weightedSignedScore then 1
    else -1
  let rawFinalScore := ruleScore.baseRuleScore * direction * (67 / 100) +
    llmScore.stockImpactScore * (33 / 100) * 2
  ⟨direction, ruleScore.baseRuleScore, |rawFinalScore|⟩

/-- The fields of an EventScore that its Event and constituents determine. -/
structure ScoreFields where
  absFinalScore : ℚ
  baseRuleScore : ℚ
  stockImpactScore : ℚ
  direction : Int
  llmFallback : Bool
  ruleScoreDetail : VersionedMetadata RuleScore
  llmScoreDetail : VersionedMetadata LLMScore
  deriving DecidableEq, Repr

/-- What `score_event` computes once it has read the Event and its constituents. -/
def computeScore (config : ScoringConfig) (event : EventRow)
    (constituents : List EntityEvent) : Option ScoreFields :=
  let weights := getSourceWeights (event.sourceList.map EntitySource.sourceName)
  (computeSentimentAggregation constituents weights).bind fun sentimentAgg =>
    (computeRuleScore event sentimentAgg weights config.totalActiveSourcesDefault config).map
      fun ruleScoreDetail =>
        let fused := scoreFusion ruleScoreDetail.output llmScorePlaceholder.output sentimentAgg
        { absFinalScore := fused.absFinalScore
          baseRuleScore := fused.baseRuleScore
          stockImpactScore := llmScorePlaceholder.output.stockImpactScore
          direction := fused.direction
          llmFallback := true
          ruleScoreDetail := ruleScoreDetail
          llmScoreDetail := llmScorePlaceholder }

/-! ## The order of the constituents -/

theorem SentimentSums.add_right_comm (weights : SourceWeights) (sums : SentimentSums)
    (first second : EntityEvent) :
    (sums.add weights first).add weights second =
      (sums.add weights second).add weights first := by
  simp only [add, SentimentSums.mk.injEq]
  refine ⟨?_, ?_, ?_⟩ <;> ring

theorem computeSentimentAggregation_perm {first second : List EntityEvent}
    (same : first.Perm second) (weights : SourceWeights) :
    computeSentimentAggregation first weights =
      computeSentimentAggregation second weights := by
  have commutes : RightCommutative (SentimentSums.add weights) :=
    ⟨SentimentSums.add_right_comm weights⟩
  unfold computeSentimentAggregation
  rw [same.foldl_eq]

/-- The score does not depend on the order in which the constituents were read.  The code
adds floats in that order, so there it may differ in the last digits. -/
theorem computeScore_perm (config : ScoringConfig) (event : EventRow)
    {first second : List EntityEvent} (same : first.Perm second) :
    computeScore config event first = computeScore config event second := by
  simp only [computeScore, computeSentimentAggregation_perm same]

end WealthFinder.Pipeline
