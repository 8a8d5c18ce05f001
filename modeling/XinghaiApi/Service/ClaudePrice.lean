import XinghaiApi.Service.TextQuota

/-!
# The price of a Claude answer

The usage of a Claude answer comes in one piece, or spread over the events of a stream. A stream
counts cache writes that its reports do not split as five-minute writes before they reach
settlement; a plain answer passes the report on as it is. The quota does not tell the two apart as
long as both kinds of writes have the same ratio, but the parameters of a tiered expression do.
-/

namespace XinghaiApi

open Dto ClaudeStream ClaudeEvent ClaudeUsage

/-! ### Reports -/

/-- What Claude reports: counts, with the cache writes split by their lifetime or not. -/
structure ClaudeReport where
  input : ℕ := 0
  output : ℕ := 0
  cacheRead : ℕ := 0
  cacheCreation : ℕ := 0
  split : Option (ℕ × ℕ) := none
deriving DecidableEq

namespace ClaudeReport

variable (report : ClaudeReport)

def tokens5m (report : ClaudeReport) : ℕ := (report.split.map Prod.fst).getD 0

def tokens1h (report : ClaudeReport) : ℕ := (report.split.map Prod.snd).getD 0

@[simps]
def toUsage (report : ClaudeReport) : ClaudeUsage where
  inputTokens := report.input
  outputTokens := report.output
  cacheReadInputTokens := report.cacheRead
  cacheCreationInputTokens := report.cacheCreation
  cacheCreation := report.split.map fun s => ⟨s.1, s.2⟩

/-- The report has a count that is not zero. -/
def HasTokens (report : ClaudeReport) : Prop := hasClaudeUsageTokens report.toUsage = true

/-- The cache writes that the split does not account for. -/
def unsplit (report : ClaudeReport) : ℕ :=
  report.cacheCreation - (report.tokens5m + report.tokens1h)

/-- A later report completes an earlier one: it repeats a count, or leaves it out. -/
def update (report later : ClaudeReport) : ClaudeReport where
  input := if 0 < later.input then later.input else report.input
  output := if 0 < later.output then later.output else report.output
  cacheRead := if 0 < later.cacheRead then later.cacheRead else report.cacheRead
  cacheCreation := if 0 < later.cacheCreation then later.cacheCreation else report.cacheCreation
  split :=
    if report.split.isNone ∧ later.split.isNone then none
    else some (if 0 < later.tokens5m then later.tokens5m else report.tokens5m,
      if 0 < later.tokens1h then later.tokens1h else report.tokens1h)

/-- The events of a stream that reports this usage in parts. -/
inductive SpreadOver : ClaudeReport → List ClaudeEvent → Prop where
  | start (model : String) (report : ClaudeReport) :
      SpreadOver report [.messageStart (some (model, some report.toUsage))]
  | delta {report : ClaudeReport} {events : List ClaudeEvent} (later : ClaudeReport) :
      SpreadOver report events →
      SpreadOver (report.update later) (events ++ [.messageDelta (some later.toUsage)])
  | text {report : ClaudeReport} {events : List ClaudeEvent} (text thinking : Option String) :
      SpreadOver report events →
      SpreadOver report (events ++ [.contentBlockDelta text thinking])
  | block {report : ClaudeReport} {events : List ClaudeEvent} :
      SpreadOver report events → SpreadOver report (events ++ [.contentBlockStart])
  | other {report : ClaudeReport} {events : List ClaudeEvent} :
      SpreadOver report events → SpreadOver report (events ++ [.other])

def counts (report : ClaudeReport) (totalTokens : Int) : UsageCounts where
  promptTokens := report.input
  completionTokens := report.output
  totalTokens := totalTokens
  usageSemantic := some .anthropic
  promptTokensDetails :=
    { cachedTokens := report.cacheRead, cachedCreationTokens := report.cacheCreation }
  claudeCacheCreation5mTokens := report.tokens5m
  claudeCacheCreation1hTokens := report.tokens1h

@[simp] lemma getCacheCreation5mTokens_toUsage :
    report.toUsage.getCacheCreation5mTokens = report.tokens5m := by
  cases h : report.split <;> simp [getCacheCreation5mTokens, tokens5m, h]

@[simp] lemma getCacheCreation1hTokens_toUsage :
    report.toUsage.getCacheCreation1hTokens = report.tokens1h := by
  cases h : report.split <;> simp [getCacheCreation1hTokens, tokens1h, h]

lemma startUsage_toUsage : startUsage {} report.toUsage = report.counts 0 := by
  simp [startUsage, counts]

lemma orElsePos_natCast (later earlier : ℕ) :
    orElsePos later earlier = ((if 0 < later then later else earlier : ℕ) : Int) := by
  rw [orElsePos]
  split_ifs <;> first | rfl | omega

section

variable (report later : ClaudeReport)

lemma tokens5m_update :
    (report.update later).tokens5m =
      if 0 < later.tokens5m then later.tokens5m else report.tokens5m := by
  cases hreport : report.split <;> cases hlater : later.split <;>
    simp [update, tokens5m, hreport, hlater]

lemma tokens1h_update :
    (report.update later).tokens1h =
      if 0 < later.tokens1h then later.tokens1h else report.tokens1h := by
  cases hreport : report.split <;> cases hlater : later.split <;>
    simp [update, tokens1h, hreport, hlater]

/-- A later event completes the counts as it completes the report. -/
lemma deltaUsage_counts (totalTokens : Int) :
    deltaUsage (report.counts totalTokens) later.toUsage =
      (report.update later).counts
        ((report.update later).input + (report.update later).output) := by
  simp only [deltaUsage, counts, toUsage_inputTokens, toUsage_outputTokens,
    toUsage_cacheReadInputTokens, toUsage_cacheCreationInputTokens,
    getCacheCreation5mTokens_toUsage, getCacheCreation1hTokens_toUsage, orElsePos_natCast,
    tokens5m_update, tokens1h_update]
  rfl

end

section

variable {report : ClaudeReport} {events : List ClaudeEvent}

lemma SpreadOver.not_isError (h : report.SpreadOver events) :
    ∀ event ∈ events, event.isError = false := by
  induction h with
  | start model report => simp [isError]
  | delta later _ ih => simpa [or_imp, forall_and, isError] using ih
  | text text thinking _ ih => simpa [or_imp, forall_and, isError] using ih
  | block _ ih => simpa [or_imp, forall_and, isError] using ih
  | other _ ih => simpa [or_imp, forall_and, isError] using ih

/-- What the handler of a stream has gathered are the counts of the report. -/
lemma SpreadOver.gathered (h : report.SpreadOver events) (env : TokenEstimates)
    (format : RelayFormat) : ∃ totalTokens,
      (gathered env format events).usage.toUsageCounts = report.counts totalTokens := by
  induction h with
  | start model report => exact ⟨0, report.startUsage_toUsage⟩
  | @delta report events later _ ih =>
    obtain ⟨totalTokens, ih⟩ := ih
    rw [gathered_concat]
    exact ⟨_, (congrArg (deltaUsage · later.toUsage) ih).trans
      (deltaUsage_counts report later totalTokens)⟩
  | text text thinking _ ih =>
    rw [gathered_concat]
    exact ih
  | block _ ih =>
    rw [gathered_concat]
    exact ih
  | other _ ih =>
    rw [gathered_concat]
    exact ih

end

/-! ### What is settled for a report -/

/-- What settlement sees of a report, with the five-minute writes it is told of. -/
def settled (report : ClaudeReport) (tokens5m : ℕ) : UsageCounts where
  promptTokens := report.input
  completionTokens := report.output
  totalTokens := report.input + report.output
  inputTokens := report.input + report.cacheRead + report.cacheCreation
  outputTokens := report.output
  usageSemantic := some .anthropic
  usageSource := some .claudeMessages
  claudeCacheCreation5mTokens := tokens5m
  claudeCacheCreation1hTokens := report.tokens1h
  promptTokensDetails :=
    { cachedTokens := report.cacheRead, cachedCreationTokens := report.cacheCreation }

/-- Reports with the same counts, however they are split, are settled alike. -/
lemma toUsageCounts_usageFromClaude (billingUsage : BillingUsage) {u : ClaudeUsage} {tokens5m : ℕ}
    (hinput : u.inputTokens = report.input) (houtput : u.outputTokens = report.output)
    (hread : u.cacheReadInputTokens = report.cacheRead)
    (hcreation : u.cacheCreationInputTokens = report.cacheCreation)
    (h5m : u.getCacheCreation5mTokens = tokens5m)
    (h1h : u.getCacheCreation1hTokens = report.tokens1h)
    (h5m' : u.claudeCacheCreation5mTokens = 0) (h1h' : u.claudeCacheCreation1hTokens = 0) :
    (usageFromClaudeBillingUsage billingUsage u).toUsageCounts = report.settled tokens5m := by
  have hsplit (x : Int) : (if x = 0 then 0 else x) = x := by split_ifs <;> omega
  simp only [usageFromClaudeBillingUsage, settled, hinput, houtput, hread, hcreation, h5m, h1h,
    h5m', h1h', hsplit]

lemma normalizeSplit_counts :
    normalizeCacheCreationSplit report.cacheCreation report.tokens5m report.tokens1h =
      (((report.tokens5m + report.unsplit : ℕ) : Int), (report.tokens1h : Int)) := by
  simp only [normalizeCacheCreationSplit, unsplit, Prod.mk.injEq, and_true]
  split_ifs <;> omega

section

variable (report : ClaudeReport) (totalTokens : Int)

lemma getCacheCreation5mTokens_semantic :
    (claudeUsageFromSemanticUsage (report.counts totalTokens)).getCacheCreation5mTokens =
      ((report.tokens5m + report.unsplit : ℕ) : Int) := by
  simp only [claudeUsageFromSemanticUsage, counts, normalizeSplit_counts, getCacheCreation5mTokens]
  split_ifs <;> simp
  omega

lemma getCacheCreation1hTokens_semantic :
    (claudeUsageFromSemanticUsage (report.counts totalTokens)).getCacheCreation1hTokens =
      report.tokens1h := by
  simp only [claudeUsageFromSemanticUsage, counts, normalizeSplit_counts, getCacheCreation1hTokens]
  split_ifs <;> simp
  omega

lemma hasTokens_iff : report.HasTokens ↔ report.input ≠ 0 ∨ report.output ≠ 0 ∨
    report.cacheRead ≠ 0 ∨ report.cacheCreation ≠ 0 ∨ report.tokens5m ≠ 0 ∨
    report.tokens1h ≠ 0 := by
  cases hsplit : report.split <;>
    simp [HasTokens, hasClaudeUsageTokens, tokens5m, tokens1h, hsplit] <;> tauto

lemma hasClaudeUsageTokens_semantic :
    hasClaudeUsageTokens (claudeUsageFromSemanticUsage (report.counts totalTokens)) = true ↔
      report.HasTokens := by
  rw [hasTokens_iff]
  simp only [hasClaudeUsageTokens, claudeUsageFromSemanticUsage, counts,
    normalizeSplit_counts, unsplit]
  split_ifs <;> simp <;> omega

end

def plainSettled (report : ClaudeReport) : UsageCounts :=
  (effectiveBillingUsage (handleClaudeResponseData (some report.toUsage))).toUsageCounts

section

variable {report : ClaudeReport} {events : List ClaudeEvent} (env : TokenEstimates)
  (format : RelayFormat)

/-- A plain answer is settled with the five-minute writes of its split. -/
lemma plainSettled_of_hasTokens (h : report.HasTokens) :
    report.plainSettled = report.settled report.tokens5m := by
  rw [plainSettled, effectiveUsage_of_claude rfl h]
  exact report.toUsageCounts_usageFromClaude _ rfl rfl rfl rfl
    report.getCacheCreation5mTokens_toUsage report.getCacheCreation1hTokens_toUsage rfl rfl

lemma plainSettled_of_not_hasTokens (h : ¬ report.HasTokens) :
    report.plainSettled = { usageSemantic := some .anthropic } := by
  have hbilling : (handleClaudeResponseData (some report.toUsage)).billingUsage = none :=
    if_neg h
  rw [plainSettled, effectiveUsage_of_none hbilling]
  rw [hasTokens_iff] at h
  simp only [not_or, not_not] at h
  obtain ⟨hinput, houtput, hread, hcreation, h5m, h1h⟩ := h
  simp [handleClaudeResponseData, hinput, houtput, hread, hcreation, h5m, h1h]

section

variable (h : report.SpreadOver events)

include h

lemma SpreadOver.hasClaudeUsageTokens_gathered :
    hasClaudeUsageTokens (claudeUsageFromSemanticUsage
      (ClaudeStream.gathered env format events).usage.toUsageCounts) = true ↔ report.HasTokens := by
  obtain ⟨totalTokens, hcounts⟩ := h.gathered env format
  rw [hcounts]
  exact report.hasClaudeUsageTokens_semantic totalTokens

/-- A stream is settled with all unsplit writes as five-minute writes. -/
lemma SpreadOver.settled_of_hasTokens (htokens : report.HasTokens) :
    (effectiveBillingUsage (handleStreamFinalResponse env
      (ClaudeStream.gathered env format events))).toUsageCounts =
      report.settled (report.tokens5m + report.unsplit) := by
  obtain ⟨totalTokens, hcounts⟩ := h.gathered env format
  have hsemantic := (h.hasClaudeUsageTokens_gathered env format).mpr htokens
  rw [effectiveUsage_of_claude (ClaudeStream.billingUsage_final_of_report env
    (ClaudeStream.consistent_gathered env format events) hsemantic) hsemantic, hcounts]
  exact report.toUsageCounts_usageFromClaude _ rfl rfl rfl rfl
    (report.getCacheCreation5mTokens_semantic totalTokens)
    (report.getCacheCreation1hTokens_semantic totalTokens) rfl rfl

/-- A stream without tokens is settled with what is estimated for it. -/
lemma SpreadOver.settled_of_not_hasTokens (htokens : ¬ report.HasTokens) :
    settledTokens (handleStreamFinalResponse env (ClaudeStream.gathered env format events)) =
      ⟨env.estimatePromptTokens, if env.estimatePromptTokens = 0 then
        (ClaudeStream.gathered env format events).estimate env else 0, 0, 0⟩ := by
  have hsemantic := Bool.eq_false_iff.mpr
    (mt (h.hasClaudeUsageTokens_gathered env format).mp htokens)
  exact (settledTokens_final_of_no_report env (consistent_gathered env format events) hsemantic).2

/-- If the estimates are zero too, it is settled as a plain answer is. -/
lemma SpreadOver.settled_of_no_estimate (htokens : ¬ report.HasTokens)
    (hprompt : env.estimatePromptTokens = 0)
    (htext : (ClaudeStream.gathered env format events).estimate env = 0) :
    (effectiveBillingUsage (handleStreamFinalResponse env
      (ClaudeStream.gathered env format events))).toUsageCounts =
      { usageSemantic := some .anthropic } := by
  obtain ⟨totalTokens, hcounts⟩ := h.gathered env format
  have hsemantic := Bool.eq_false_iff.mpr
    (mt (h.hasClaudeUsageTokens_gathered env format).mp htokens)
  have hnone := ClaudeStream.billingUsage_final_of_no_report env
    (ClaudeStream.consistent_gathered env format events) hsemantic
  rw [hprompt] at hnone
  rw [effectiveUsage_of_none hnone]
  rw [hasTokens_iff] at htokens
  simp only [not_or, not_not] at htokens
  obtain ⟨hinput, houtput, hread, hcreation, h5m, h1h⟩ := htokens
  rw [ClaudeStream.estimate] at htext
  simp [handleStreamFinalResponse, ClaudeStream.completeUsage, hcounts, counts, hinput, houtput,
    hread, hcreation, h5m, h1h, responseText2Usage, hprompt, htext]

end

end

end ClaudeReport

/-! ### The two prices -/

section

variable (setting : TextPriceSetting) (relay : TextRelay)

/-- The parameters that a usage is settled with, as `PostTextConsumeQuota` builds them. -/
def tieredTokenParams (usage : UsageCounts) (usedVars : String → Bool) : TokenParams :=
  buildTieredTokenParams usage
    (calculateTextQuotaSummary setting relay (some usage)).isClaudeUsageSemantic usedVars

/-- Two usages cost the same, by ratios and by every tiered expression. -/
def SamePrice (usage usage' : UsageCounts) : Prop :=
  (calculateTextQuotaSummary setting relay (some usage)).quota =
      (calculateTextQuotaSummary setting relay (some usage')).quota ∧
    ∀ usedVars, tieredTokenParams setting relay usage usedVars =
      tieredTokenParams setting relay usage' usedVars

variable {setting relay} {usage : UsageCounts}

@[simp] lemma usageSemantic_countTextTokens (semantic : UsageSemantic) (usage : UsageCounts) :
    (countTextTokens setting relay semantic usage).usageSemantic = semantic := by
  simp only [countTextTokens]
  split <;> rfl

lemma calculateTextQuotaSummary_of_anthropic (h : usage.usageSemantic = some .anthropic) :
    calculateTextQuotaSummary setting relay (some usage) =
      let summary := { countTextTokens setting relay .anthropic usage with
        toolCallSurchargeQuota := calculateTextToolCallSurcharge setting relay }
      { summary with quota := textQuota setting relay true summary } := by
  have hsemantic : usageSemanticFromUsage relay (some usage) = .anthropic := by
    simp [usageSemanticFromUsage, h]
  simp [calculateTextQuotaSummary, hsemantic, TextQuotaSummary.isClaudeUsageSemantic]

/-- In the semantic of Claude no count is part of another, so none is taken off. -/
lemma tieredTokenParams_of_anthropic (h : usage.usageSemantic = some .anthropic)
    (usedVars : String → Bool) :
    (tieredTokenParams setting relay usage usedVars).p = max usage.promptTokens 0 ∧
      (tieredTokenParams setting relay usage usedVars).c = max usage.completionTokens 0 ∧
      (tieredTokenParams setting relay usage usedVars).cc = usage.claudeCacheCreation5mTokens := by
  simp [tieredTokenParams, buildTieredTokenParams, calculateTextQuotaSummary_of_anthropic h,
    TextQuotaSummary.isClaudeUsageSemantic, h]

lemma SamePrice.of_eq {usage' : UsageCounts} (h : usage = usage') :
    SamePrice setting relay usage usage' :=
  h ▸ ⟨rfl, fun _ => rfl⟩

end

/-! ### When the prices are the same -/

/-- The same usage costs the same as a plain answer and as a stream if and only if the split of the
report accounts for all its cache writes, and nothing is estimated where it has no tokens. -/
theorem samePrice_plain_stream_iff (setting : TextPriceSetting) (relay : TextRelay)
    (env : TokenEstimates) (format : RelayFormat) (report : ClaudeReport)
    {events : List ClaudeEvent} (h : report.SpreadOver events) :
    ∃ usage, claudeStreamHandler env format events = .ok usage ∧
      (SamePrice setting relay report.plainSettled (effectiveBillingUsage usage).toUsageCounts ↔
        report.cacheCreation ≤ report.tokens5m + report.tokens1h ∧
          (report.HasTokens ∨ env.estimatePromptTokens = 0 ∧
            (ClaudeStream.gathered env format events).estimate env = 0)) := by
  refine ⟨_, claudeStreamHandler_of_not_isError env format h.not_isError, ?_⟩
  by_cases htokens : report.HasTokens
  · rw [ClaudeReport.plainSettled_of_hasTokens htokens, h.settled_of_hasTokens env format htokens]
    constructor
    · intro hsame
      have hcc := congrArg TokenParams.cc (hsame.2 fun _ => false)
      rw [(tieredTokenParams_of_anthropic rfl _).2.2, (tieredTokenParams_of_anthropic rfl _).2.2]
        at hcc
      simp only [ClaudeReport.settled, ClaudeReport.unsplit] at hcc
      exact ⟨by omega, .inl htokens⟩
    · rintro ⟨hsplit, -⟩
      have hunsplit : report.unsplit = 0 := Nat.sub_eq_zero_of_le hsplit
      exact SamePrice.of_eq (by rw [hunsplit, Nat.add_zero])
  · rw [ClaudeReport.plainSettled_of_not_hasTokens htokens]
    constructor
    · intro hsame
      have hsettled := h.settled_of_not_hasTokens env format htokens
      have hsemantic := ClaudeStream.usageSemantic_effective_final env
        (ClaudeStream.consistent_gathered env format events)
      have hparams := hsame.2 fun _ => false
      have hp := congrArg TokenParams.p hparams
      have hc := congrArg TokenParams.c hparams
      rw [(tieredTokenParams_of_anthropic rfl _).1,
        (tieredTokenParams_of_anthropic hsemantic _).1] at hp
      rw [(tieredTokenParams_of_anthropic rfl _).2.1,
        (tieredTokenParams_of_anthropic hsemantic _).2.1] at hc
      have hprompt := congrArg TokenCounts.prompt hsettled
      have hcompletion := congrArg TokenCounts.completion hsettled
      simp only [settledTokens, UsageCounts.tokens] at hprompt hcompletion
      dsimp only at hp hc
      have hzero : env.estimatePromptTokens = 0 := by omega
      rw [ClaudeReport.hasTokens_iff] at htokens
      exact ⟨by omega, .inr ⟨hzero, by omega⟩⟩
    · rintro ⟨-, htok | ⟨hprompt, htext⟩⟩
      · exact absurd htok htokens
      · exact SamePrice.of_eq (h.settled_of_no_estimate env format htokens hprompt htext).symm

/-- A report whose cache writes are all split. -/
def splitReport : ClaudeReport :=
  { input := 10, output := 1, cacheCreation := 1000, split := some (600, 400) }

/-- With a complete split, a stream that repeats its output count at the end costs what the plain
answer costs. -/
theorem samePrice_plain_stream_split :
    ∃ usage, claudeStreamHandler lengthEstimates .claude
        ([.messageStart (some ("claude", some splitReport.toUsage))] ++
          [.messageDelta (some ({ output := 5 } : ClaudeReport).toUsage)]) = .ok usage ∧
      SamePrice {} {} (splitReport.update { output := 5 }).plainSettled
        (effectiveBillingUsage usage).toUsageCounts := by
  obtain ⟨usage, husage, hprice⟩ := samePrice_plain_stream_iff {} {} lengthEstimates .claude
    (splitReport.update { output := 5 }) (.delta { output := 5 } (.start "claude" splitReport))
  exact ⟨usage, husage, hprice.mpr ⟨by decide, .inl rfl⟩⟩

/-- Without a split, the thousand cache writes of a plain answer are no parameter of a tiered
expression at all; those of a stream are. -/
theorem tieredTokenParams_unsplit_ne :
    (tieredTokenParams {} {}
        ({ input := 10, output := 5, cacheCreation := 1000 } : ClaudeReport).plainSettled
        fun _ => true).cc = 0 ∧
      (claudeStreamHandler lengthEstimates .claude
        [.messageStart (some ("claude", some ({ input := 10, output := 5, cacheCreation := 1000 } :
          ClaudeReport).toUsage))]).map
        (fun usage => (tieredTokenParams {} {} (effectiveBillingUsage usage).toUsageCounts
          fun _ => true).cc) = .ok 1000 := by
  constructor
  · rfl
  · rfl

end XinghaiApi
