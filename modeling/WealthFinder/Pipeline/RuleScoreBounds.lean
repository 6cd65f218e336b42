import Mathlib.Algebra.Order.Field.Basic
import Mathlib.Tactic.Linarith
import WealthFinder.Pipeline.RuleScore

/-!
# The range of the rule score

The weighted sums of the loop bound each other, and the quotients inherit the bounds.
The direction has the sign of the impact score, so the two terms of the final score
add up.
-/

set_option autoImplicit false

namespace WealthFinder.Pipeline

/-- What `compute_rule_score` and `compute_sentiment_aggregation` are given. -/
structure RuleInput where
  event : EventRow
  constituents : List EntityEvent
  weights : SourceWeights
  totalActiveSources : Int
  config : ScoringConfig

namespace RuleInput

def sentimentAgg (input : RuleInput) : Option SentimentAggregation :=
  computeSentimentAggregation input.constituents input.weights

def ruleScore (input : RuleInput) : Option (VersionedMetadata RuleScore) :=
  input.sentimentAgg.bind fun sentimentAgg =>
    computeRuleScore input.event sentimentAgg input.weights input.totalActiveSources input.config

end RuleInput

/-- Every event type has a score, and the scores are in range. -/
structure ScoringConfig.InRange (config : ScoringConfig) : Prop where
  scored : ∀ eventType, ∃ entry ∈ config.eventTypeScore, entry.eventType = eventType
  bounds : ∀ entry ∈ config.eventTypeScore, 0 ≤ entry.score ∧ entry.score ≤ 10

structure RuleInput.InRange (input : RuleInput) : Prop where
  sentiments : ∀ row ∈ input.constituents, 0 ≤ row.sentimentScore ∧ row.sentimentScore ≤ 1
  weights : ∀ name, 0 ≤ input.weights.get name ∧ input.weights.get name ≤ 10
  config : input.config.InRange
  active : 1 ≤ input.totalActiveSources
  sources : input.event.sourceList ≠ []

/-- The second input is the first with more sources of at least its authority, a higher
event-type score, stronger sentiments or fewer active sources. -/
structure RuleInput.Below (first second : RuleInput) : Prop where
  weights : second.weights = first.weights
  eventType : ∀ low high,
    getEventTypeScore first.event.group.eventTypePrimary first.config = some low →
    getEventTypeScore second.event.group.eventTypePrimary second.config = some high → low ≤ high
  sourceCount : first.event.sourceList.length ≤ second.event.sourceList.length
  authority : ∀ source ∈ first.event.sourceList, ∃ other ∈ second.event.sourceList,
    first.weights.get source.sourceName ≤ first.weights.get other.sourceName
  sentiments : List.Forall₂ (fun row other : EntityEvent =>
    other.sourceName = row.sourceName ∧ row.sentimentScore ≤ other.sentimentScore)
    first.constituents second.constituents
  active : second.totalActiveSources ≤ first.totalActiveSources

/-! ## The sentiment -/

/-- The two quotients of the sums, both 0 when no constituent has weight. -/
def SentimentSums.means (sums : SentimentSums) : SentimentAggregation :=
  ⟨sums.weightedSignedSum / sums.totalWeight, sums.weightedStrengthSum / sums.totalWeight⟩

/-- The guard keeps both divisions from raising. -/
theorem computeSentimentAggregation_returns (constituents : List EntityEvent)
    (weights : SourceWeights) : computeSentimentAggregation constituents weights =
      some (constituents.foldl (SentimentSums.add weights) ⟨0, 0, 0⟩).means := by
  simp only [computeSentimentAggregation, SentimentSums.means]
  split
  · rename_i weightless
    rw [weightless, div_zero, div_zero]
  · rename_i weighted
    simp only [truediv, if_neg weighted, Option.bind_some, Option.map_some]

structure SentimentSums.Sound (sums : SentimentSums) : Prop where
  total : 0 ≤ sums.totalWeight
  signed : |sums.weightedSignedSum| ≤ sums.weightedStrengthSum
  strength : sums.weightedStrengthSum ≤ sums.totalWeight

theorem abs_directionCoefficient (label : SentimentEnum) : |directionCoefficient label| ≤ 1 := by
  cases label <;> simp [directionCoefficient]

section
variable {weights : SourceWeights}
  (bounded : ∀ name, 0 ≤ weights.get name ∧ weights.get name ≤ 10)
include bounded

theorem SentimentSums.Sound.add {sums : SentimentSums} (sound : sums.Sound) {row : EntityEvent}
    (inRange : 0 ≤ row.sentimentScore ∧ row.sentimentScore ≤ 1) :
    (sums.add weights row).Sound := by
  have weight := (bounded row.sourceName).1
  constructor
  · exact add_nonneg sound.total weight
  · have term : |row.sentimentScore * directionCoefficient row.sentimentLabel *
        weights.get row.sourceName| ≤ row.sentimentScore * weights.get row.sourceName := by
      rw [abs_mul, abs_mul, abs_of_nonneg inRange.1, abs_of_nonneg weight]
      refine mul_le_mul_of_nonneg_right ?_ weight
      exact mul_le_of_le_one_right inRange.1 (abs_directionCoefficient _)
    calc |(sums.add weights row).weightedSignedSum|
        ≤ |sums.weightedSignedSum| + |row.sentimentScore *
            directionCoefficient row.sentimentLabel * weights.get row.sourceName| :=
          abs_add_le _ _
      _ ≤ (sums.add weights row).weightedStrengthSum := add_le_add sound.signed term
  · exact add_le_add sound.strength (mul_le_of_le_one_left weight inRange.2)

theorem SentimentSums.Sound.foldl {constituents : List EntityEvent} {sums : SentimentSums}
    (inRange : ∀ row ∈ constituents, 0 ≤ row.sentimentScore ∧ row.sentimentScore ≤ 1)
    (sound : sums.Sound) : (constituents.foldl (SentimentSums.add weights) sums).Sound := by
  induction constituents generalizing sums with
  | nil => exact sound
  | cons row rest ih =>
      refine ih (fun other member => inRange other (List.mem_cons_of_mem _ member)) ?_
      exact sound.add bounded (inRange row List.mem_cons_self)

theorem computeSentimentAggregation_bounds {constituents : List EntityEvent}
    (inRange : ∀ row ∈ constituents, 0 ≤ row.sentimentScore ∧ row.sentimentScore ≤ 1) :
    ∃ sentimentAgg, computeSentimentAggregation constituents weights = some sentimentAgg ∧
      |sentimentAgg.weightedSignedScore| ≤ sentimentAgg.sentimentStrengthScore ∧
      sentimentAgg.sentimentStrengthScore ≤ 1 := by
  have sound : (constituents.foldl (SentimentSums.add weights) ⟨0, 0, 0⟩).Sound :=
    .foldl bounded inRange ⟨le_refl _, by simp, le_refl _⟩
  refine ⟨_, computeSentimentAggregation_returns constituents weights, ?_, ?_⟩
  · simp only [SentimentSums.means, abs_div, abs_of_nonneg sound.total]
    exact div_le_div_of_nonneg_right sound.signed sound.total
  · exact div_le_one_of_le₀ sound.strength sound.total

/-- Stronger sentiments of the same sources raise the strength alone. -/
theorem sums_below {first second : List EntityEvent}
    (below : List.Forall₂ (fun row other : EntityEvent =>
      other.sourceName = row.sourceName ∧ row.sentimentScore ≤ other.sentimentScore) first second)
    {low high : SentimentSums} (total : high.totalWeight = low.totalWeight)
    (strength : low.weightedStrengthSum ≤ high.weightedStrengthSum) :
    (second.foldl (SentimentSums.add weights) high).totalWeight =
      (first.foldl (SentimentSums.add weights) low).totalWeight ∧
    (first.foldl (SentimentSums.add weights) low).weightedStrengthSum ≤
      (second.foldl (SentimentSums.add weights) high).weightedStrengthSum := by
  induction below generalizing low high with
  | nil => exact ⟨total, strength⟩
  | @cons row other rest others head tail ih =>
      obtain ⟨sameSource, stronger⟩ := head
      refine ih ?_ ?_
      · simp only [SentimentSums.add, sameSource, total]
      · simp only [SentimentSums.add, sameSource]
        exact add_le_add strength (mul_le_mul_of_nonneg_right stronger (bounded _).1)

theorem sentimentStrengthScore_mono {first second : List EntityEvent}
    (inRange : ∀ row ∈ first, 0 ≤ row.sentimentScore ∧ row.sentimentScore ≤ 1)
    (below : List.Forall₂ (fun row other : EntityEvent =>
      other.sourceName = row.sourceName ∧ row.sentimentScore ≤ other.sentimentScore)
      first second) {low high : SentimentAggregation}
    (isLow : computeSentimentAggregation first weights = some low)
    (isHigh : computeSentimentAggregation second weights = some high) :
    low.sentimentStrengthScore ≤ high.sentimentStrengthScore := by
  have sound : (first.foldl (SentimentSums.add weights) ⟨0, 0, 0⟩).Sound :=
    .foldl bounded inRange ⟨le_refl _, by simp, le_refl _⟩
  obtain ⟨total, strength⟩ := @sums_below weights bounded first second below ⟨0, 0, 0⟩ _ rfl (le_refl _)
  rw [computeSentimentAggregation_returns, Option.some.injEq] at isLow isHigh
  rw [← isLow, ← isHigh]
  simp only [SentimentSums.means, total]
  exact div_le_div_of_nonneg_right strength sound.total

end

/-! ## The other dimensions -/

theorem getEventTypeScore_bounds {config : ScoringConfig} (inRange : config.InRange)
    (eventType : EventTypeEnum) :
    ∃ score, getEventTypeScore eventType config = some score ∧ 0 ≤ score ∧ score ≤ 10 := by
  obtain ⟨entry, member, ofType⟩ := inRange.scored eventType
  cases found : config.eventTypeScore.find? fun entry => entry.eventType = eventType with
  | none =>
      have apart := List.find?_eq_none.mp found entry member
      simp [ofType] at apart
  | some first =>
      refine ⟨first.score, by rw [getEventTypeScore, found]; rfl, ?_⟩
      exact inRange.bounds first (List.mem_of_find?_eq_some found)

theorem sourceHeatScore_bounds {count active : ℚ} (counted : 0 ≤ count) (some' : 0 < active) :
    0 ≤ min 10 (count / active * 10) ∧ min 10 (count / active * 10) ≤ 10 := by
  refine ⟨le_min (by norm_num) ?_, min_le_left _ _⟩
  exact mul_nonneg (div_nonneg counted some'.le) (by norm_num)

theorem sourceHeatScore_mono {count more active fewer : ℚ} (counted : 0 ≤ count)
    (added : count ≤ more) (some' : 0 < fewer) (removed : fewer ≤ active) :
    min 10 (count / active * 10) ≤ min 10 (more / fewer * 10) := by
  refine min_le_min_left 10 (mul_le_mul_of_nonneg_right ?_ (by norm_num))
  exact div_le_div₀ (counted.trans added) added some' removed

theorem RuleScore.baseRuleScore_bounds {rule : RuleScore}
    (eventType : 0 ≤ rule.eventTypeScore ∧ rule.eventTypeScore ≤ 10)
    (authority : 0 ≤ rule.sourceAuthorityScore ∧ rule.sourceAuthorityScore ≤ 10)
    (strength : 0 ≤ rule.sentimentStrengthScore ∧ rule.sentimentStrengthScore ≤ 10)
    (heat : 0 ≤ rule.sourceHeatScore ∧ rule.sourceHeatScore ≤ 10) :
    0 ≤ rule.baseRuleScore ∧ rule.baseRuleScore ≤ 8 := by
  unfold baseRuleScore
  constructor <;> linarith

theorem RuleScore.baseRuleScore_mono {low high : RuleScore}
    (eventType : low.eventTypeScore ≤ high.eventTypeScore)
    (authority : low.sourceAuthorityScore ≤ high.sourceAuthorityScore)
    (strength : low.sentimentStrengthScore ≤ high.sentimentStrengthScore)
    (heat : low.sourceHeatScore ≤ high.sourceHeatScore) :
    low.baseRuleScore ≤ high.baseRuleScore := by
  unfold baseRuleScore
  linarith

/-- The computation returns, and what its dimensions are. -/
theorem RuleInput.ruleScore_dimensions {input : RuleInput} (inRange : input.InRange)
    {sentimentAgg : SentimentAggregation} (mean : input.sentimentAgg = some sentimentAgg) :
    ∃ rule, input.ruleScore = some rule ∧
      (getEventTypeScore input.event.group.eventTypePrimary input.config =
        some rule.output.eventTypeScore ∧
        0 ≤ rule.output.eventTypeScore ∧ rule.output.eventTypeScore ≤ 10) ∧
      ((∃ source ∈ input.event.sourceList,
          input.weights.get source.sourceName = rule.output.sourceAuthorityScore) ∧
        ∀ source ∈ input.event.sourceList,
          input.weights.get source.sourceName ≤ rule.output.sourceAuthorityScore) ∧
      rule.output.sentimentStrengthScore = sentimentAgg.sentimentStrengthScore * 10 ∧
      rule.output.sourceHeatScore =
        min 10 ((input.event.sourceList.length : ℚ) / input.totalActiveSources * 10) := by
  obtain ⟨score, found, bounds⟩ :=
    getEventTypeScore_bounds inRange.config input.event.group.eventTypePrimary
  have active : (input.totalActiveSources : ℚ) ≠ 0 := by
    have atLeast := inRange.active
    exact_mod_cast (by omega : input.totalActiveSources ≠ 0)
  cases highest : (input.event.sourceList.map fun source =>
      input.weights.get source.sourceName).max? with
  | none =>
      have empty := List.map_eq_nil_iff.mp (List.max?_eq_none_iff.mp highest)
      exact absurd empty inRange.sources
  | some authority =>
      obtain ⟨attained, above⟩ := List.max?_eq_some_iff.mp highest
      refine ⟨⟨"v1.0.0", ⟨score, authority, sentimentAgg.sentimentStrengthScore * 10,
        min 10 (input.event.sourceList.length / input.totalActiveSources * 10)⟩⟩,
        by simp only [ruleScore, mean, computeRuleScore, found, highest, Option.bind_some,
          truediv, if_neg active, Option.map_some],
        ⟨found, bounds⟩, ⟨List.mem_map.mp attained, ?_⟩, rfl, rfl⟩
      intro source member
      exact above _ (List.mem_map_of_mem member)

/-- The direction has the sign of the impact score. -/
theorem absFinalScore_eq {ruleScore : RuleScore} (base : 0 ≤ ruleScore.baseRuleScore)
    (llmScore : LLMScore) (sentimentAgg : SentimentAggregation) :
    (scoreFusion ruleScore llmScore sentimentAgg).absFinalScore =
      67 / 100 * ruleScore.baseRuleScore + 66 / 100 * |llmScore.stockImpactScore| := by
  simp only [scoreFusion]
  rcases lt_trichotomy llmScore.stockImpactScore 0 with negative | none' | positive
  · rw [if_neg negative.le.not_gt, if_pos negative, abs_of_neg negative, abs_of_nonpos]
    · push_cast
      ring
    · push_cast
      linarith
  · rw [none']
    simp only [lt_irrefl, if_false, abs_zero, zero_mul, add_zero, mul_zero]
    split
    · rw [abs_of_nonneg (by push_cast; linarith)]
      push_cast
      ring
    · rw [abs_of_nonpos (by push_cast; linarith)]
      push_cast
      ring
  · rw [if_pos positive, abs_of_pos positive, abs_of_nonneg]
    · push_cast
      ring
    · push_cast
      linarith

/-- Both computations return, no division raising, with a score in range; its terms add up,
and it grows with the event-type score, the sources and the sentiments and shrinks with the
active sources. -/
theorem ruleScore_inRange (input : RuleInput) (inRange : input.InRange) :
    ∃ sentimentAgg rule, input.sentimentAgg = some sentimentAgg ∧ input.ruleScore = some rule ∧
      |sentimentAgg.weightedSignedScore| ≤ sentimentAgg.sentimentStrengthScore ∧
      sentimentAgg.sentimentStrengthScore ≤ 1 ∧
      0 ≤ rule.output.baseRuleScore ∧ rule.output.baseRuleScore ≤ 8 ∧
      (∀ llmScore, (scoreFusion rule.output llmScore sentimentAgg).absFinalScore =
        67 / 100 * rule.output.baseRuleScore + 66 / 100 * |llmScore.stockImpactScore|) ∧
      ∀ other : RuleInput, other.InRange → input.Below other → ∃ higher,
        other.ruleScore = some higher ∧
        rule.output.baseRuleScore ≤ higher.output.baseRuleScore := by
  obtain ⟨sentimentAgg, mean, signed, atMostOne⟩ :=
    computeSentimentAggregation_bounds inRange.weights inRange.sentiments
  obtain ⟨rule, computed, ⟨ofType, typeBounds⟩, ⟨⟨best, isSource, authority⟩, above⟩, strength,
    heat⟩ := RuleInput.ruleScore_dimensions inRange mean
  have positive : (0 : ℚ) < input.totalActiveSources := by exact_mod_cast inRange.active
  have counted : (0 : ℚ) ≤ input.event.sourceList.length := Nat.cast_nonneg _
  have nonneg := (abs_nonneg _).trans signed
  obtain ⟨low, high⟩ := RuleScore.baseRuleScore_bounds typeBounds
    (authority ▸ inRange.weights best.sourceName)
    (by rw [strength]; constructor <;> linarith)
    (heat ▸ sourceHeatScore_bounds counted positive)
  refine ⟨sentimentAgg, rule, mean, computed, signed, atMostOne, low, high,
    fun _ => absFinalScore_eq low _ _, ?_⟩
  intro other otherInRange below
  obtain ⟨otherAgg, otherMean, -, -⟩ :=
    computeSentimentAggregation_bounds otherInRange.weights otherInRange.sentiments
  obtain ⟨higher, computed', ⟨ofType', -⟩, ⟨-, above'⟩, strength', heat'⟩ :=
    RuleInput.ruleScore_dimensions otherInRange otherMean
  refine ⟨higher, computed', RuleScore.baseRuleScore_mono ?_ ?_ ?_ ?_⟩
  · exact below.eventType _ _ ofType ofType'
  · obtain ⟨source, member, atLeast⟩ := below.authority best isSource
    rw [← authority]
    refine atLeast.trans ?_
    rw [← below.weights]
    exact above' source member
  · rw [strength, strength']
    refine mul_le_mul_of_nonneg_right ?_ (by norm_num)
    rw [below.weights] at otherMean
    exact sentimentStrengthScore_mono inRange.weights inRange.sentiments below.sentiments mean
      otherMean
  · rw [heat, heat']
    refine sourceHeatScore_mono counted (by exact_mod_cast below.sourceCount) ?_
      (by exact_mod_cast below.active)
    exact_mod_cast otherInRange.active

/-! ## The deployed weights and scores -/

theorem defaultScoringConfig_inRange : defaultScoringConfig.InRange where
  scored := by
    intro eventType
    cases eventType <;> decide
  bounds := by decide +kernel

theorem getSourceWeights_bounds (sourceNames : List String) (name : String) :
    0 ≤ (getSourceWeights sourceNames).get name ∧
      (getSourceWeights sourceNames).get name ≤ 10 := by
  have tiers (tier : Option SourceTier) : 0 ≤ (tier.map SourceTier.defaultWeight).getD 0 ∧
      (tier.map SourceTier.defaultWeight).getD 0 ≤ 10 := by
    rcases tier with _ | _ | _ | _ <;> norm_num [SourceTier.defaultWeight]
  induction sourceNames with
  | nil => exact tiers none
  | cons first rest ih =>
      simp only [SourceWeights.get, getSourceWeights, getFallbackWeights, List.map_cons,
        List.lookup_cons] at ih ⊢
      split
      · exact tiers _
      · exact ih

def sampleRuleInput (score : ℚ) (sources : List EntitySource) : RuleInput where
  event :=
    { eventId := 10
      group := sampleGroup
      firstSeenAt := 0
      lastSeenAt := 0
      eventTypeSecondary := []
      sourceList := sources
      aggregationUpdatedAt := 0
      publishedAggregationUpdatedAt := none
      updatedAt := 0
      createdAt := 0 }
  constituents := [sampleEntityEvent 1 0, { sampleEntityEvent 2 1 with
    sentimentLabel := .negative, sentimentScore := score }]
  weights := getSourceWeights ["HKEX"]
  totalActiveSources := 4
  config := defaultScoringConfig

theorem sampleRuleInput_inRange {score : ℚ} {sources : List EntitySource}
    (inRange : 0 ≤ score ∧ score ≤ 1) (nonempty : sources ≠ []) :
    (sampleRuleInput score sources).InRange where
  sentiments := by
    intro row member
    rcases List.mem_pair.mp member with rfl | rfl
    · norm_num [sampleEntityEvent]
    · exact inRange
  weights := getSourceWeights_bounds _
  config := defaultScoringConfig_inRange
  active := by simp [sampleRuleInput]
  sources := nonempty

/-- A second source reports the Event, and its negative report is certain. -/
theorem ruleScore_inRange_reported : ∃ rule higher,
    (sampleRuleInput (1 / 2) [⟨"HKEX", "", 0⟩]).ruleScore = some rule ∧
    (sampleRuleInput 1 [⟨"HKEX", "", 0⟩, ⟨"MINGPAO", "", 0⟩]).ruleScore = some higher ∧
    rule.output.baseRuleScore ≤ higher.output.baseRuleScore ∧
    rule.output.baseRuleScore ≤ 8 := by
  obtain ⟨-, rule, -, computed, -, -, -, atMost, -, grows⟩ :=
    ruleScore_inRange (sampleRuleInput (1 / 2) [⟨"HKEX", "", 0⟩])
      (sampleRuleInput_inRange (by norm_num) (by simp))
  obtain ⟨higher, computed', above⟩ :=
    grows (sampleRuleInput 1 [⟨"HKEX", "", 0⟩, ⟨"MINGPAO", "", 0⟩])
      (sampleRuleInput_inRange (by norm_num) (by simp))
      { weights := rfl
        eventType := by
          intro low high first second
          exact (Option.some.inj (first.symm.trans second)).le
        sourceCount := by simp [sampleRuleInput]
        authority := by simp [sampleRuleInput]
        sentiments := .cons ⟨rfl, le_refl _⟩ (.cons ⟨rfl, by norm_num⟩ .nil)
        active := le_refl _ }
  exact ⟨rule, higher, computed, computed', above, atMost⟩

end WealthFinder.Pipeline
