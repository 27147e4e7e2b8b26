import VeltrixEye.BigInt
import VeltrixEye.Billing.ProvisionedPlans

/-!
# Prices are exact (`billing/pricing.ts`, `billing/fx-rate-versions.ts`)

The rate of a version row is a `bigint`; the FX snapshot holds `Number` of it.  The schema admits safe
integers only, so a rate is either kept or refused.

* `priceCommercialPlan` — a price from a fresh rate.
* `priceFromProviderPlanEpoch` — the price of an epoch, through the conversion.
* `priceCommercialPlan_exact`, `priceFromProviderPlanEpoch_exact` — the amount is the exact one.
-/

namespace VeltrixEye.Billing.Prices

/-! ## FX snapshots -/

/-- `BillingFxSnapshot` before it is validated: the rate is any number. -/
structure FxSnapshotValue where
  quoteCurrency : String
  fxRateScaled : JsNumber
  fxRateScale : ℕ
  fxRateVersionId : Uuid
  fxRateEffectiveFrom : ℤ
  fxRateCapturedAt : ℤ
  fxRateSource : BillingFxSource

/-- `toBillingFxSnapshot`, with `Number(version.fxRateScaled)`. -/
def fxSnapshotValue (version : FxRateVersionRow) : FxSnapshotValue where
  quoteCurrency := version.quoteCurrency
  fxRateScaled := numberOfInt version.fxRateScaled
  fxRateScale := version.fxRateScale
  fxRateVersionId := version.id
  fxRateEffectiveFrom := version.effectiveFrom
  fxRateCapturedAt := version.capturedAt
  fxRateSource := version.source

/-- The snapshot with its rate as a safe integer. -/
def FxSnapshotValue.narrow (fx : FxSnapshotValue) : Option BillingFxSnapshot :=
  (safeInteger fx.fxRateScaled).map fun rate =>
    ⟨fx.quoteCurrency, rate, fx.fxRateScale, fx.fxRateVersionId, fx.fxRateEffectiveFrom,
      fx.fxRateCapturedAt, fx.fxRateSource⟩

/-- `billingFxSnapshotSchema.safeParse`. -/
def parseFxSnapshot (fx : FxSnapshotValue) : Option BillingFxSnapshot :=
  fx.narrow.filter isFxSnapshot

theorem narrow_fxSnapshotValue (version : FxRateVersionRow) :
    (fxSnapshotValue version).narrow =
      if version.fxRateScaled < 2 ^ 53 then some (toBillingFxSnapshot version) else none := by
  unfold FxSnapshotValue.narrow fxSnapshotValue
  dsimp only
  rw [safeInteger_numberOfInt]
  split <;> rfl

theorem rate_safe_of_isFxSnapshot {fx : BillingFxSnapshot} (h : isFxSnapshot fx = true) :
    0 < fx.fxRateScaled ∧ fx.fxRateScaled ≤ MAX_SAFE_INTEGER := by
  simp only [isFxSnapshot, isMinorAmount, Bool.and_eq_true, decide_eq_true_eq] at h
  exact h.1.1.1.1.1.2

theorem isFxSnapshot_of_isPricingSnapshot {s : BillingPricingSnapshot} (h : isPricingSnapshot s = true) :
    isFxSnapshot s.fx = true := by
  simp only [isPricingSnapshot, Bool.and_eq_true] at h
  exact h.1.1.1.1.1.2

theorem parseFxSnapshot_version {version : FxRateVersionRow} {fx : BillingFxSnapshot}
    (h : parseFxSnapshot (fxSnapshotValue version) = some fx) :
    fx = toBillingFxSnapshot version ∧ isFxSnapshot fx = true := by
  unfold parseFxSnapshot at h
  rw [narrow_fxSnapshotValue] at h
  obtain ⟨hnarrow, hvalid⟩ := Option.filter_eq_some_iff.mp h
  split at hnarrow
  · cases hnarrow
    exact ⟨rfl, hvalid⟩
  · cases hnarrow

/-! ## A price from a fresh rate -/

inductive BillingPricingFailureReason where
  | invalid_input
  | unsupported_currency
  | invalid_fx
  | stale_fx
  | below_minimum
  | unsupported_amount
  | invalid_snapshot
  | amount_mismatch
  deriving DecidableEq

/-- A refusal of the conversion, among the reasons of pricing. -/
def BillingPricingFailureReason.of : BillingPricingFailure → BillingPricingFailureReason
  | .invalid_input => .invalid_input
  | .invalid_fx => .invalid_fx
  | .below_minimum => .below_minimum
  | .unsupported_amount => .unsupported_amount
  | .invalid_snapshot => .invalid_snapshot

/-- What pricing reads of a `BillingFxPolicy`. -/
structure BillingFxPolicy where
  version : String
  quoteCurrency : String
  maxAgeSeconds : ℚ

def BILLING_FX_POLICY : BillingFxPolicy := ⟨"pr3-usd-ghs-v1", "GHS", 900⟩

/-- `PriceCommercialPlanInput`; `asOf` is none for an invalid `Date`. -/
structure PriceCommercialPlanInput where
  planId : CommercialPlanId
  interval : BillingInterval
  fx : FxSnapshotValue
  asOf : Option ℤ
  providerPlanId : Option String
  providerReference : Option String
  policy : BillingFxPolicy

/-- `assertFxSnapshotFresh`, which also needs the instants to be valid. -/
def assertFxSnapshotFresh (fx : BillingFxSnapshot) (asOf : Option ℤ) (policy : BillingFxPolicy) :
    Except BillingPricingFailureReason ℤ :=
  match asOf with
  | none => .error .invalid_input
  | some asOf =>
    let ageSeconds : ℚ := (asOf - fx.fxRateCapturedAt : ℤ) / 1000
    if ageSeconds < 0 then .error .invalid_fx
    else if policy.maxAgeSeconds < ageSeconds then .error .stale_fx
    else .ok asOf

def priceCommercialPlan (input : PriceCommercialPlanInput) :
    Except BillingPricingFailureReason BillingPricingSnapshot := do
  let some fx := parseFxSnapshot input.fx | throw .invalid_fx
  if input.policy.quoteCurrency ≠ fx.quoteCurrency then throw .unsupported_currency
  let asOf ← assertFxSnapshotFresh fx input.asOf input.policy
  if internalPlanForCommercialPlan input.planId = none then throw .invalid_input
  let usdMinor := cataloguePriceMinor input.planId input.interval
  if !isMinorAmount usdMinor then throw .invalid_input
  let paymentMinor ← (computePaymentAmountMinor usdMinor fx.fxRateScaled fx.fxRateScale).mapError .of
  if paymentMinor < paymentMinimumMinor then throw .below_minimum
  if MAX_SAFE_INTEGER < paymentMinor then throw .unsupported_amount
  let snapshot : BillingPricingSnapshot :=
    { commercialAmountMinor := usdMinor
      catalogueVersion := BILLING_CATALOGUE_VERSION
      cataloguePlan := input.planId
      interval := input.interval
      payment := ⟨fx.quoteCurrency, paymentMinor, paymentAmountExponent⟩
      fx
      providerPlanId := input.providerPlanId
      providerReference := input.providerReference
      pricingPolicyVersion := input.policy.version
      computedAt := asOf }
  if !isPricingSnapshot snapshot.trimmed then throw .invalid_snapshot
  return snapshot.trimmed

/-! ## The price of an epoch -/

structure PriceFromProviderPlanEpochInput where
  epoch : ProviderPlanRow
  fxVersion : FxRateVersionRow
  asOf : Option ℤ
  providerReference : Option String
  mode : BillingProviderMode

def priceFromProviderPlanEpoch (input : PriceFromProviderPlanEpochInput) :
    Except PricingRefusal BillingPricingSnapshot := do
  let epoch ← (parseProviderPlan input.epoch input.mode).mapError .plan
  if epoch.status = .retired then throw (.plan .retired)
  let fxVersion ← (parseFxRateVersion input.fxVersion).mapError .fx
  if fxVersion.id ≠ epoch.fxRateVersionId then throw (.plan .mismatch)
  let some asOf := input.asOf | throw (.pricing .invalid_input)
  if internalPlanForCommercialPlan epoch.cataloguePlan = none then throw (.pricing .invalid_input)
  let usdMinor := cataloguePriceMinor epoch.cataloguePlan epoch.interval
  if !isMinorAmount usdMinor then throw (.pricing .invalid_input)
  if MAX_SAFE_INTEGER < epoch.paymentAmountMinor then throw (.pricing .unsupported_amount)
  -- a rate that is no safe integer fails the schema inside the verification
  let some fx := (fxSnapshotValue fxVersion).narrow | throw (.pricing .invalid_snapshot)
  (verifyPricingSnapshot
    { commercialAmountMinor := usdMinor
      catalogueVersion := BILLING_CATALOGUE_VERSION
      cataloguePlan := epoch.cataloguePlan
      interval := epoch.interval
      payment := ⟨epoch.paymentCurrency, epoch.paymentAmountMinor, epoch.paymentAmountExponent⟩
      fx
      providerPlanId := some epoch.providerPlanId
      providerReference := input.providerReference
      pricingPolicyVersion := epoch.pricingPolicyVersion
      computedAt := asOf }).mapError .pricing

/-! ## Exactness -/

/-- What every price of a version row satisfies. -/
structure ExactPrice (row : FxRateVersionRow) (s : BillingPricingSnapshot) : Prop where
  commercial : s.commercialAmountMinor = cataloguePriceMinor s.cataloguePlan s.interval
  version : s.fx = toBillingFxSnapshot row
  /-- The exact product, rounded half up once. -/
  amount : s.payment.paymentAmountMinor =
    Provisioning.halfUp (Provisioning.exactAmount s.commercialAmountMinor row)
  minimum : paymentMinimumMinor ≤ s.payment.paymentAmountMinor
  rate_safe : row.fxRateScaled ≤ MAX_SAFE_INTEGER
  amount_safe : s.payment.paymentAmountMinor ≤ MAX_SAFE_INTEGER
  verified : verifyPricingSnapshot s = .ok s

theorem exactPrice_of_verified {row : FxRateVersionRow} {s : BillingPricingSnapshot}
    (hverified : verifyPricingSnapshot s = .ok s) (hfx : s.fx = toBillingFxSnapshot row)
    (hcommercial : s.commercialAmountMinor = cataloguePriceMinor s.cataloguePlan s.interval) :
    ExactPrice row s := by
  obtain ⟨-, hvalid, hamount, hminimum⟩ := verifyPricingSnapshot_ok.mp hverified
  have hrate := (rate_safe_of_isFxSnapshot (isFxSnapshot_of_isPricingSnapshot hvalid)).2
  simp only [isPricingSnapshot, isPaymentAmount, isMinorAmount, Bool.and_eq_true, decide_eq_true_eq] at hvalid
  obtain ⟨⟨⟨⟨⟨⟨⟨-, ⟨⟨-, -, hsafe⟩, -⟩⟩, -⟩, -⟩, -⟩, -⟩, -⟩, -⟩ := hvalid
  rw [hfx] at hrate hamount
  obtain ⟨-, -, -, -, hexact⟩ := Provisioning.computePaymentAmountMinor_ok.mp hamount
  exact ⟨hcommercial, hfx, hexact, hminimum, hrate, hsafe, hverified⟩

theorem priceCommercialPlan_exact {row version : FxRateVersionRow}
    (hrow : parseFxRateVersion row = .ok version) {input : PriceCommercialPlanInput}
    (hfx : input.fx = fxSnapshotValue version) {s : BillingPricingSnapshot}
    (h : priceCommercialPlan input = .ok s) :
    ExactPrice row s ∧ s.cataloguePlan = input.planId ∧ s.interval = input.interval := by
  rw [parseFxRateVersion_ok hrow] at hfx
  unfold priceCommercialPlan at h
  cases hparse : parseFxSnapshot input.fx with
  | none => rw [hparse] at h; cases h
  | some fx =>
    rw [hparse] at h
    dsimp only at h
    rw [hfx] at hparse
    obtain ⟨rfl, -⟩ := parseFxSnapshot_version hparse
    by_cases hcurrency : input.policy.quoteCurrency ≠ (toBillingFxSnapshot row).quoteCurrency
    · rw [if_pos hcurrency] at h
      cases h
    rw [if_neg hcurrency] at h
    obtain ⟨asOf, -, h⟩ := Except.bind_ok_iff.mp h
    by_cases hsold : internalPlanForCommercialPlan input.planId = none
    · rw [if_pos hsold] at h
      cases h
    rw [if_neg hsold, Provisioning.isMinorAmount_catalogue, if_neg (by decide)] at h
    obtain ⟨paymentMinor, hpayment, h⟩ := Except.bind_ok_iff.mp h
    rw [mapError_eq_ok] at hpayment
    by_cases hminimum : paymentMinor < paymentMinimumMinor
    · rw [if_pos hminimum] at h
      cases h
    rw [if_neg hminimum] at h
    by_cases hsafe : MAX_SAFE_INTEGER < paymentMinor
    · rw [if_pos hsafe] at h
      cases h
    rw [if_neg hsafe] at h
    split at h
    · cases h
    rename_i hvalid
    rw [Bool.not_eq_true, Bool.not_eq_false'] at hvalid
    cases h
    refine ⟨exactPrice_of_verified ?_ rfl rfl, rfl, rfl⟩
    exact verifyPricingSnapshot_ok.mpr ⟨(trimmed_trimmed _).symm, hvalid, hpayment, not_lt.mp hminimum⟩

theorem priceFromProviderPlanEpoch_exact {row : FxRateVersionRow}
    {input : PriceFromProviderPlanEpochInput} (hrow : input.fxVersion = row) {s : BillingPricingSnapshot}
    (h : priceFromProviderPlanEpoch input = .ok s) :
    ExactPrice row s ∧ s.cataloguePlan = input.epoch.cataloguePlan ∧ s.interval = input.epoch.interval := by
  unfold priceFromProviderPlanEpoch at h
  obtain ⟨epoch, hepoch, h⟩ := Except.bind_ok_iff.mp h
  rw [mapError_eq_ok] at hepoch
  dsimp only at h
  by_cases hretired : epoch.status = .retired
  · rw [if_pos hretired] at h
    cases h
  rw [if_neg hretired] at h
  obtain ⟨version, hversion, h⟩ := Except.bind_ok_iff.mp h
  rw [mapError_eq_ok] at hversion
  by_cases hpinned : version.id ≠ epoch.fxRateVersionId
  · rw [if_pos hpinned] at h
    cases h
  rw [if_neg hpinned] at h
  cases hasOf : input.asOf with
  | none => rw [hasOf] at h; cases h
  | some asOf =>
    rw [hasOf] at h
    dsimp only at h
    by_cases hsold : internalPlanForCommercialPlan epoch.cataloguePlan = none
    · rw [if_pos hsold] at h
      cases h
    rw [if_neg hsold, Provisioning.isMinorAmount_catalogue, if_neg (by decide)] at h
    by_cases hsafe : MAX_SAFE_INTEGER < epoch.paymentAmountMinor
    · rw [if_pos hsafe] at h
      cases h
    rw [if_neg hsafe, parseFxRateVersion_ok hversion, hrow, narrow_fxSnapshotValue] at h
    by_cases hrate : row.fxRateScaled < 2 ^ 53
    · rw [if_pos hrate] at h
      have hverified := mapError_eq_ok.mp h
      obtain ⟨hs, -⟩ := verifyPricingSnapshot_ok.mp hverified
      have hidem := verifyPricingSnapshot_idem hverified
      rw [parseProviderPlan_ok hepoch] at hs
      exact ⟨exactPrice_of_verified hidem (by rw [hs]; rfl) (by rw [hs]; rfl), by rw [hs]; rfl, by rw [hs]; rfl⟩
    · rw [if_neg hrate] at h
      cases h

end VeltrixEye.Billing.Prices
