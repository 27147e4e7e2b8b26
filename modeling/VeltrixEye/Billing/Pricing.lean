import VeltrixEye.Billing.Contracts
import VeltrixEye.Lib.Runs

/-!
# Pricing (`billing/pricing.ts`, `billing/provider-plans.ts`, `billing/fx-rate-versions.ts`)

A plan-bound sale is priced from the active provider-plan epoch: its frozen amount, the FX version it
pins and the catalogue's USD amount become a snapshot, which must verify.

* `pricingIdempotencyKey` — the deterministic identity of a pricing decision.
-/

namespace VeltrixEye.Billing

/-! ## Verification -/

/-- `BillingPricingFailureReason`, as far as a plan-bound sale reaches it. -/
inductive BillingPricingFailure where
  | invalid_input
  | invalid_fx
  | below_minimum
  | unsupported_amount
  | invalid_snapshot
  deriving DecidableEq

/-- The largest FX scale; the smallest is 1. -/
def maxFxScale : ℕ := 18

/-- One half-up rounding of `usdMinor · rateScaled / 10 ^ rateScale`. -/
def computePaymentAmountMinor (usdMinor rateScaled rateScale : ℕ) :
    Except BillingPricingFailure ℕ :=
  if usdMinor = 0 then .error .invalid_input
  else if rateScaled = 0 then .error .invalid_fx
  else if rateScale < 1 ∨ maxFxScale < rateScale then .error .invalid_fx
  else .ok ((2 * usdMinor * rateScaled + 10 ^ rateScale) / (2 * 10 ^ rateScale))

/-- `BILLING_PAYMENT_MINIMUM_MINOR.GHS`. -/
def paymentMinimumMinor : ℕ := 10

/-- `BILLING_PAYMENT_AMOUNT_EXPONENT.GHS`. -/
def paymentAmountExponent : ℕ := 2

/-- `billingPaymentCurrencySchema`. -/
def isPaymentCurrency (currency : String) : Bool := currency = "GHS"

/-- `minorAmountSchema`. -/
def isMinorAmount (n : ℕ) : Bool := 0 < n && n ≤ MAX_SAFE_INTEGER

/-- `billingPaymentAmountSchema`. -/
def isPaymentAmount (p : BillingPaymentAmount) : Bool :=
  isPaymentCurrency p.paymentCurrency && isMinorAmount p.paymentAmountMinor &&
    p.paymentAmountExponent = paymentAmountExponent

/-- `z.string().datetime()` on the text `toISOString` gives an instant: years 0 to 9999 have the four digits
    it asks for. -/
def isIsoInstant (t : ℤ) : Bool := -62167219200000 ≤ t && t ≤ 253402300799999

/-- `billingFxSnapshotSchema`. -/
def isFxSnapshot (fx : BillingFxSnapshot) : Bool :=
  isPaymentCurrency fx.quoteCurrency && isMinorAmount fx.fxRateScaled && 1 ≤ fx.fxRateScale &&
    fx.fxRateScale ≤ maxFxScale && isIsoInstant fx.fxRateEffectiveFrom &&
    isIsoInstant fx.fxRateCapturedAt && fx.fxRateCapturedAt ≤ fx.fxRateEffectiveFrom

/-- The trimming `billingPricingSnapshotSchema` does. -/
def BillingPricingSnapshot.trimmed (s : BillingPricingSnapshot) : BillingPricingSnapshot :=
  { s with
    catalogueVersion := jsTrim s.catalogueVersion
    providerPlanId := s.providerPlanId.map jsTrim
    providerReference := s.providerReference.map jsTrim
    pricingPolicyVersion := jsTrim s.pricingPolicyVersion }

/-- `billingPricingSnapshotSchema`, on the trimmed snapshot. -/
def isPricingSnapshot (s : BillingPricingSnapshot) : Bool :=
  let bounded (s : String) := 1 ≤ s.toList.length && s.toList.length ≤ 64
  isMinorAmount s.commercialAmountMinor && bounded s.catalogueVersion &&
    isPaymentAmount s.payment && isFxSnapshot s.fx && s.providerPlanId.all (boundedText 128) &&
    s.providerReference.all (boundedText 190) && bounded s.pricingPolicyVersion &&
    isIsoInstant s.computedAt && s.fx.quoteCurrency = s.payment.paymentCurrency

/-- The snapshot satisfies the contract, its USD amount and rate produce its payment amount, and the
    amount reaches the provider's minimum. -/
def verifyPricingSnapshot (snapshot : BillingPricingSnapshot) :
    Except BillingPricingFailure BillingPricingSnapshot := do
  let value := snapshot.trimmed
  unless isPricingSnapshot value do throw .invalid_snapshot
  let expected ← computePaymentAmountMinor value.commercialAmountMinor value.fx.fxRateScaled
    value.fx.fxRateScale
  if value.payment.paymentAmountMinor ≠ expected then throw .invalid_snapshot
  if value.payment.paymentAmountMinor < paymentMinimumMinor then throw .below_minimum
  return value

theorem dropWhile_eq_self_of_head {α : Type} {p : α → Bool} {l : List α}
    (h : ∀ a, l.head? = some a → p a = false) : l.dropWhile p = l := by
  cases l with
  | nil => rfl
  | cons a l => simp [List.dropWhile, h a rfl]

theorem head_of_dropWhile {α : Type} {p : α → Bool} {l : List α} {a : α}
    (h : (l.dropWhile p).head? = some a) : p a = false := by
  have := List.head?_dropWhile_not p l
  rw [h] at this
  simpa using this

theorem jsTrim_jsTrim (s : String) : jsTrim (jsTrim s) = jsTrim s := by
  unfold jsTrim
  rw [String.toList_ofList]
  set front := s.toList.dropWhile isJsSpace with hfront
  set back := front.reverse.dropWhile isJsSpace with hback
  have hpre : back.reverse <+: front := by
    have := @List.dropWhile_suffix _ front.reverse isJsSpace
    rw [← hback] at this
    simpa using List.reverse_prefix.mpr this
  have hhead : back.reverse.dropWhile isJsSpace = back.reverse := by
    refine dropWhile_eq_self_of_head fun a ha => ?_
    obtain ⟨rest, hrest⟩ := hpre
    refine @head_of_dropWhile _ isJsSpace s.toList _ ?_
    rw [← hfront, ← hrest]
    cases hb : back.reverse with
    | nil =>
      rw [hb] at ha
      cases ha
    | cons b bs =>
      rw [hb] at ha
      simpa using ha
  rw [hhead, List.reverse_reverse]
  congr 2
  refine dropWhile_eq_self_of_head fun a ha => ?_
  rw [hback] at ha
  exact head_of_dropWhile ha

theorem trimmed_trimmed (s : BillingPricingSnapshot) : s.trimmed.trimmed = s.trimmed := by
  unfold BillingPricingSnapshot.trimmed
  simp [Option.map_map, Function.comp_def, jsTrim_jsTrim]

theorem verifyPricingSnapshot_ok {snapshot s : BillingPricingSnapshot} :
    verifyPricingSnapshot snapshot = .ok s ↔
      s = snapshot.trimmed ∧ isPricingSnapshot s = true ∧
        computePaymentAmountMinor s.commercialAmountMinor s.fx.fxRateScaled s.fx.fxRateScale =
          .ok s.payment.paymentAmountMinor ∧ paymentMinimumMinor ≤ s.payment.paymentAmountMinor := by
  unfold verifyPricingSnapshot
  dsimp only
  constructor
  · intro h
    split at h
    · rename_i hp
      rw [Except.bind_ok_iff] at h
      obtain ⟨expected, hexp, h⟩ := h
      split at h
      · cases h
      rename_i hne
      split at h
      · cases h
      rename_i hmin
      cases h
      refine ⟨rfl, hp, ?_, not_lt.mp hmin⟩
      rw [hexp, not_not.mp hne]
    · cases h
  · rintro ⟨rfl, hp, hexp, hmin⟩
    rw [if_pos hp, hexp]
    simp only [bind, Except.bind, pure, Except.pure]
    simp [not_lt.mpr hmin]

theorem verifyPricingSnapshot_idem {snapshot s : BillingPricingSnapshot}
    (h : verifyPricingSnapshot snapshot = .ok s) : verifyPricingSnapshot s = .ok s := by
  rw [verifyPricingSnapshot_ok] at h ⊢
  obtain ⟨rfl, h⟩ := h
  exact ⟨(trimmed_trimmed snapshot).symm, h⟩
def pricingIdempotencyCanonicalString (s : BillingPricingSnapshot) : String :=
  let plan := match s.cataloguePlan with
    | .starter => "starter"
    | .pro => "pro"
    | .elite => "elite"
  let interval := match s.interval with
    | .monthly => "monthly"
    | .annual => "annual"
  "|".intercalate ["billing-pricing-snapshot/v1", "USD", toString s.commercialAmountMinor, plan,
    interval, s.catalogueVersion, s.payment.paymentCurrency, toString s.payment.paymentAmountMinor,
    toString s.payment.paymentAmountExponent, s.fx.fxRateVersionId.text, toString s.fx.fxRateScaled,
    toString s.fx.fxRateScale, "half_up", s.providerPlanId.getD "", s.pricingPolicyVersion]

def pricingIdempotencyKey (runtime : BillingRuntime) (s : BillingPricingSnapshot) : String :=
  runtime.sha256Hex (pricingIdempotencyCanonicalString s)

/-! ## Provider-plan epochs -/

inductive BillingProviderPlanStatus where
  | active
  | retired
  deriving DecidableEq

/-- A row of `billing_provider_plans`. -/
structure ProviderPlanRow where
  id : Uuid
  mode : BillingProviderMode
  cataloguePlan : CommercialPlanId
  interval : BillingInterval
  paymentCurrency : String
  paymentAmountMinor : ℕ
  paymentAmountExponent : ℕ
  providerPlanId : String
  fxRateVersionId : Uuid
  pricingPolicyVersion : String
  catalogueVersion : String
  status : BillingProviderPlanStatus
  validFrom : ℤ
  deriving DecidableEq

/-- `BillingProviderPlanFailureReason`. -/
inductive BillingProviderPlanFailure where
  | invalid
  | not_found
  | ambiguous
  | retired
  | mismatch
  | conflict
  | forbidden_plan
  deriving DecidableEq

def parseProviderPlan (row : ProviderPlanRow) (allowedMode : BillingProviderMode) :
    Except BillingProviderPlanFailure ProviderPlanRow :=
  if row.mode ≠ allowedMode then .error .invalid
  else if row.cataloguePlan = .starter then .error .forbidden_plan
  else if !isPaymentCurrency row.paymentCurrency then .error .invalid
  else if row.paymentAmountMinor = 0 then .error .invalid
  else if row.paymentAmountExponent ≠ paymentAmountExponent then .error .invalid
  else if jsTrim row.providerPlanId = "" then .error .invalid
  else .ok row

theorem parseProviderPlan_ok {row plan : ProviderPlanRow} {allowedMode : BillingProviderMode}
    (h : parseProviderPlan row allowedMode = .ok plan) : plan = row := by
  unfold parseProviderPlan at h
  split_ifs at h
  cases h
  rfl

/-- The rows of `findActive`, parsed, and the one active epoch among them. -/
def selectActiveProviderPlan (rows : List ProviderPlanRow) (mode : BillingProviderMode) :
    Except BillingProviderPlanFailure ProviderPlanRow := do
  let parsed ← rows.mapM (fun row => parseProviderPlan row mode)
  if parsed = [] then throw .not_found
  match parsed.filter (fun plan => plan.status = .active) with
  | [] => throw .retired
  | [plan] => return plan
  | _ => throw .ambiguous

/-- The comparison of `assertProviderPlanMatches` with the expectation of a snapshot. -/
def providerPlanMatches (plan : ProviderPlanRow) (s : BillingPricingSnapshot)
    (providerPlanId : String) (mode : BillingProviderMode) : Bool :=
  plan.mode = mode && plan.cataloguePlan = s.cataloguePlan && plan.interval = s.interval &&
    plan.paymentCurrency = s.payment.paymentCurrency &&
    plan.paymentAmountMinor = s.payment.paymentAmountMinor &&
    plan.paymentAmountExponent = paymentAmountExponent &&
    plan.providerPlanId = providerPlanId && plan.fxRateVersionId = s.fx.fxRateVersionId &&
    plan.pricingPolicyVersion = s.pricingPolicyVersion && plan.status = .active

/-! ## FX versions and the price of an epoch -/

/-- A row of `billing_fx_rate_versions`. -/
structure FxRateVersionRow where
  id : Uuid
  baseCurrency : String
  quoteCurrency : String
  fxRateScaled : ℕ
  fxRateScale : ℕ
  source : BillingFxSource
  effectiveFrom : ℤ
  capturedAt : ℤ
  deriving DecidableEq

/-- `BillingFxFailureReason`, as far as an epoch reaches it. -/
inductive BillingFxFailure where
  | missing
  | stale
  | unsupported_currency
  | invalid
  deriving DecidableEq

def parseFxRateVersion (row : FxRateVersionRow) : Except BillingFxFailure FxRateVersionRow :=
  if row.baseCurrency ≠ "USD" then .error .unsupported_currency
  else if !isPaymentCurrency row.quoteCurrency then .error .unsupported_currency
  else if row.fxRateScaled = 0 then .error .invalid
  else if row.fxRateScale < 1 ∨ maxFxScale < row.fxRateScale then .error .invalid
  else if row.effectiveFrom < row.capturedAt then .error .invalid
  else .ok row

theorem parseFxRateVersion_ok {row version : FxRateVersionRow} (h : parseFxRateVersion row = .ok version) :
    version = row := by
  unfold parseFxRateVersion at h
  split_ifs at h
  cases h
  rfl

def toBillingFxSnapshot (version : FxRateVersionRow) : BillingFxSnapshot where
  quoteCurrency := version.quoteCurrency
  fxRateScaled := version.fxRateScaled
  fxRateScale := version.fxRateScale
  fxRateVersionId := version.id
  fxRateEffectiveFrom := version.effectiveFrom
  fxRateCapturedAt := version.capturedAt
  fxRateSource := version.source

theorem mapError_eq_ok {ε ε' α : Type} {f : ε → ε'} {x : Except ε α} {a : α} :
    x.mapError f = .ok a ↔ x = .ok a := by
  cases x <;> simp [Except.mapError]

/-- The refusals of pricing. -/
inductive PricingRefusal where
  | plan (failure : BillingProviderPlanFailure)
  | fx (failure : BillingFxFailure)
  | pricing (failure : BillingPricingFailure)

/-- The snapshot of an epoch: its frozen amount, the FX facts of the version it pins, the catalogue's
    USD amount. -/
def priceFromProviderPlanEpoch (epoch : ProviderPlanRow) (fxVersion : FxRateVersionRow) (asOf : ℤ)
    (mode : BillingProviderMode) : Except PricingRefusal BillingPricingSnapshot := do
  let epoch ← (parseProviderPlan epoch mode).mapError .plan
  if epoch.status = .retired then throw (.plan .retired)
  let fxVersion ← (parseFxRateVersion fxVersion).mapError .fx
  if fxVersion.id ≠ epoch.fxRateVersionId then throw (.plan .mismatch)
  if internalPlanForCommercialPlan epoch.cataloguePlan = none then throw (.pricing .invalid_input)
  if MAX_SAFE_INTEGER < epoch.paymentAmountMinor then throw (.pricing .unsupported_amount)
  (verifyPricingSnapshot
    { commercialAmountMinor := cataloguePriceMinor epoch.cataloguePlan epoch.interval
      catalogueVersion := BILLING_CATALOGUE_VERSION
      cataloguePlan := epoch.cataloguePlan
      interval := epoch.interval
      payment := ⟨epoch.paymentCurrency, epoch.paymentAmountMinor, epoch.paymentAmountExponent⟩
      fx := toBillingFxSnapshot fxVersion
      providerPlanId := some epoch.providerPlanId
      providerReference := none
      pricingPolicyVersion := epoch.pricingPolicyVersion
      computedAt := asOf }).mapError .pricing

end VeltrixEye.Billing
