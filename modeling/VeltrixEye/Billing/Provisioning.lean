import VeltrixEye.Billing.Tables

/-!
# Plan provisioning (`billing/provisioning.ts`, `billing/provider-plans.ts`)

An operator hands in the evidence of four provider plans and the id of a stored FX version.  The whole batch
is validated first; then the four epochs and the audit event are written in one transaction.
-/

namespace VeltrixEye.Provisioning

open Billing

/-- `BillingProvisioningFailureReason`. -/
inductive BillingProvisioningFailure where
  | invalid_evidence
  | plan_matrix
  | duplicate_combination
  | shared_fx_violation
  | duplicate_provider_plan
  | invalid_provider_plan
  | excluded_provider_plan
  | interval_mismatch
  | mode_mismatch
  | cap_mismatch
  | currency_mismatch
  | exponent_mismatch
  | amount_mismatch
  | below_minimum
  | invalid_instant
  | audit_required
  deriving DecidableEq

inductive ProvisioningRefusal where
  | provisioning (reason : BillingProvisioningFailure)
  | fx (failure : BillingFxFailure)
  | pricing (failure : BillingPricingFailure)
  | plan (failure : BillingProviderPlanFailure)
  | database
  deriving DecidableEq

/-! ## The four plans -/

/-- `PROVIDER_PLAN_INTERVALS`. -/
inductive ProviderPlanInterval where
  | monthly
  | annually
  deriving DecidableEq

def providerIntervalForBillingInterval : BillingInterval → ProviderPlanInterval
  | .monthly => .monthly
  | .annual => .annually

/-- `SANDBOX_PLAN_MATRIX`; the provider interval of an entry is that of its interval. -/
def SANDBOX_PLAN_MATRIX : List (CommercialPlanId × BillingInterval) :=
  [(.pro, .monthly), (.pro, .annual), (.elite, .monthly), (.elite, .annual)]

/-! ## Evidence -/

/-- `scaledInteger`: a bigint, a text or a number; a number that is no integer is no evidence. -/
inductive ScaledInteger where
  | bigint (n : ℤ)
  | text (s : String)
  | number (n : ℤ)
  deriving DecidableEq

/-- The value of a text of digits. -/
def decimalValue (s : String) : ℕ := s.toList.foldl (fun n c => 10 * n + (c.toNat - 48)) 0

def ScaledInteger.value? : ScaledInteger → Option ℤ
  | .bigint n => some n
  | .text s => if s.toList ≠ [] ∧ s.toList.all Char.isDigit then some (decimalValue s : ℤ) else none
  | .number n => if -(MAX_SAFE_INTEGER : ℤ) ≤ n ∧ n ≤ MAX_SAFE_INTEGER then some n else none

/-- `providerPlanPaymentCountCapSchema`. -/
inductive ProviderPlanPaymentCountCap where
  | uncapped
  | unknown
  | capped (maxPayments : ℤ)
  deriving DecidableEq

/-- The fields of an entry as it arrives. -/
structure EvidenceFields where
  cataloguePlan : String
  interval : String
  providerInterval : String
  providerPlanId : String
  paymentCurrency : String
  paymentAmountMinor : ScaledInteger
  paymentAmountExponent : ℤ
  mode : String
  paymentCountCap : ProviderPlanPaymentCountCap
  evidenceReference : String
  deriving DecidableEq

structure SandboxProviderPlanEvidence where
  cataloguePlan : CommercialPlanId
  interval : BillingInterval
  providerInterval : ProviderPlanInterval
  providerPlanId : String
  paymentCurrency : String
  paymentAmountMinor : ℤ
  paymentAmountExponent : ℤ
  mode : String
  paymentCountCap : ProviderPlanPaymentCountCap
  evidenceReference : String

/-- `commercialPlanIdSchema`. -/
def commercialPlanId? (s : String) : Option CommercialPlanId :=
  if s = "starter" then some .starter
  else if s = "pro" then some .pro
  else if s = "elite" then some .elite
  else none

/-- `billingIntervalSchema`. -/
def billingInterval? (s : String) : Option BillingInterval :=
  if s = "monthly" then some .monthly
  else if s = "annual" then some .annual
  else none

def providerPlanInterval? (s : String) : Option ProviderPlanInterval :=
  if s = "monthly" then some .monthly
  else if s = "annually" then some .annually
  else none

def lengthBetween (lo hi : ℕ) (s : String) : Bool := lo ≤ s.toList.length && s.toList.length ≤ hi

/-- `sandboxProviderPlanEvidenceSchema`; `none` is an entry of another shape. -/
def parseEvidenceEntry (entry : Option EvidenceFields) : Option SandboxProviderPlanEvidence := do
  let f ← entry
  let cataloguePlan ← commercialPlanId? f.cataloguePlan
  let interval ← billingInterval? f.interval
  let providerInterval ← providerPlanInterval? f.providerInterval
  let paymentAmountMinor ← f.paymentAmountMinor.value?
  let evidenceReference := jsTrim f.evidenceReference
  let capOk := match f.paymentCountCap with
    | .capped maxPayments => 0 < maxPayments && maxPayments ≤ MAX_SAFE_INTEGER
    | _ => true
  if lengthBetween 1 128 f.providerPlanId && lengthBetween 3 3 f.paymentCurrency &&
      lengthBetween 1 16 f.mode && capOk && lengthBetween 1 190 evidenceReference then
    some ⟨cataloguePlan, interval, providerInterval, f.providerPlanId, f.paymentCurrency,
      paymentAmountMinor, f.paymentAmountExponent, f.mode, f.paymentCountCap, evidenceReference⟩
  else none

def parseEvidence (raw : List (Option EvidenceFields)) :
    Except ProvisioningRefusal (List SandboxProviderPlanEvidence) :=
  raw.mapM fun entry =>
    match parseEvidenceEntry entry with
    | some e => .ok e
    | none => .error (.provisioning .invalid_evidence)

/-! ## Provider plan codes -/

/-- `PROVIDER_PLAN_CODE_PATTERN`: `^PLN_[0-9a-z]{6,40}$`. -/
def isProviderPlanCode (code : String) : Bool :=
  code.toList.take 4 = "PLN_".toList && 6 ≤ (code.toList.drop 4).length &&
    (code.toList.drop 4).length ≤ 40 && (code.toList.drop 4).all fun c => c.isDigit || c.isLower

def PLACEHOLDER_PLAN_CODE_MARKERS : List String :=
  ["sample", "placeholder", "example", "dummy", "fake", "todo", "changeme", "fixture", "test"]

/-- `lower.includes(token)`, on the lower-case form of the code. -/
def includesMarker (code : String) : Bool :=
  PLACEHOLDER_PLAN_CODE_MARKERS.any fun token =>
    (code.toList.map Char.toLower).tails.any fun tail => token.toList.isPrefixOf tail

def EXCLUDED_PROVIDER_PLAN_CODE : String := "PLN_u0l4961hhipl6ek"

def isExcludedProviderPlanCode (code : String) : Bool := jsTrim code = EXCLUDED_PROVIDER_PLAN_CODE

def validateProviderPlanCode (code : String) (seen : List String) : Except ProvisioningRefusal Unit := do
  if isExcludedProviderPlanCode code then throw (.provisioning .excluded_provider_plan)
  if !isProviderPlanCode code then throw (.provisioning .invalid_provider_plan)
  if includesMarker code then throw (.provisioning .invalid_provider_plan)
  if code ∈ seen then throw (.provisioning .duplicate_provider_plan)

/-! ## Preparation -/

def BILLING_PRICING_POLICY_VERSION : String := "pr3-usd-ghs-v1"

/-- `BILLING_FX_POLICY.maxAgeSeconds`, in milliseconds. -/
def maxAgeMs : ℤ := 900000

/-- `BillingProviderMode` as a text. -/
def modeText : BillingProviderMode → String
  | .test => "test"
  | .live => "live"

/-- `ValidatedSandboxEpochRegistration`; the currency, the interval of the provider and the two policy
    versions have one value each. -/
structure EpochRegistration where
  cataloguePlan : CommercialPlanId
  interval : BillingInterval
  paymentAmountMinor : ℕ
  catalogueAmountMinor : ℕ
  providerPlanId : String
  evidenceReference : String
  fxRateVersionId : Uuid
  deriving DecidableEq

def EpochRegistration.combination (r : EpochRegistration) : CommercialPlanId × BillingInterval :=
  (r.cataloguePlan, r.interval)

/-- `ValidatedSandboxProvisioningBatch`. -/
structure ValidatedBatch where
  fxVersion : FxRateVersionRow
  registeredAt : ℤ
  mode : BillingProviderMode
  registrations : List EpochRegistration
  deriving DecidableEq

def assertFxRateVersionFresh (version : FxRateVersionRow) (asOf : ℤ) : Except ProvisioningRefusal Unit :=
  if asOf < version.capturedAt then .error (.fx .invalid)
  else if maxAgeMs < asOf - version.capturedAt then .error (.fx .stale)
  else .ok ()

/-- One entry of the evidence; `seen` holds the codes of the entries before it. -/
def prepareRegistration (fx : FxRateVersionRow) (mode : BillingProviderMode) (seen : List String)
    (entry : SandboxProviderPlanEvidence) : Except ProvisioningRefusal EpochRegistration := do
  if (entry.cataloguePlan, entry.interval) ∉ SANDBOX_PLAN_MATRIX then throw (.provisioning .plan_matrix)
  if entry.providerInterval ≠ providerIntervalForBillingInterval entry.interval then
    throw (.provisioning .interval_mismatch)
  if entry.mode ≠ modeText mode then throw (.provisioning .mode_mismatch)
  if entry.paymentCurrency ≠ "GHS" then throw (.provisioning .currency_mismatch)
  if entry.paymentCountCap ≠ .uncapped then throw (.provisioning .cap_mismatch)
  if entry.paymentAmountExponent ≠ paymentAmountExponent then throw (.provisioning .exponent_mismatch)
  validateProviderPlanCode entry.providerPlanId seen
  let catalogueAmountMinor := cataloguePriceMinor entry.cataloguePlan entry.interval
  let derived ← (computePaymentAmountMinor catalogueAmountMinor fx.fxRateScaled fx.fxRateScale).mapError
    .pricing
  if derived < paymentMinimumMinor then throw (.provisioning .below_minimum)
  if entry.paymentAmountMinor ≤ 0 ∨ entry.paymentAmountMinor ≠ derived then
    throw (.provisioning .amount_mismatch)
  return ⟨entry.cataloguePlan, entry.interval, derived, catalogueAmountMinor, entry.providerPlanId,
    entry.evidenceReference, fx.id⟩

/-- The loop over the evidence. -/
def prepareRegistrations (fx : FxRateVersionRow) (mode : BillingProviderMode) :
    List String → List SandboxProviderPlanEvidence → Except ProvisioningRefusal (List EpochRegistration)
  | _, [] => .ok []
  | seen, entry :: rest => do
    let registration ← prepareRegistration fx mode seen entry
    let registrations ← prepareRegistrations fx mode (entry.providerPlanId :: seen) rest
    return registration :: registrations

/-- The loop of `assertSandboxRegistrationBatchAdmissible`. -/
def assertRegistrationsDistinct (combos : List (CommercialPlanId × BillingInterval))
    (providerCodes : List String) : List EpochRegistration → Except ProvisioningRefusal Unit
  | [] => .ok ()
  | r :: rest => do
    if r.combination ∉ SANDBOX_PLAN_MATRIX then throw (.provisioning .plan_matrix)
    if r.combination ∈ combos then throw (.provisioning .duplicate_combination)
    if r.providerPlanId ∈ providerCodes then throw (.provisioning .duplicate_provider_plan)
    assertRegistrationsDistinct (r.combination :: combos) (r.providerPlanId :: providerCodes) rest

def assertSandboxRegistrationBatchAdmissible (registrations : List EpochRegistration) :
    Except ProvisioningRefusal Unit := do
  if registrations.length ≠ SANDBOX_PLAN_MATRIX.length then throw (.provisioning .plan_matrix)
  assertRegistrationsDistinct [] [] registrations
  if (registrations.map (·.fxRateVersionId)).dedup.length ≠ 1 then
    throw (.provisioning .shared_fx_violation)

/-- The place of a registration in the matrix. -/
def matrixIndex (r : EpochRegistration) : ℕ := SANDBOX_PLAN_MATRIX.idxOf r.combination

/-- `registeredAt` is `none` where the clock gave no finite instant. -/
def prepareSandboxProvisioningBatch (fxVersion : FxRateVersionRow)
    (evidence : List (Option EvidenceFields)) (registeredAt : Option ℤ) (mode : BillingProviderMode) :
    Except ProvisioningRefusal ValidatedBatch := do
  let some registeredAt := registeredAt | throw (.provisioning .invalid_instant)
  let fx ← (parseFxRateVersion fxVersion).mapError .fx
  if fx.quoteCurrency ≠ "GHS" then throw (.fx .unsupported_currency)
  if registeredAt < fx.effectiveFrom then throw (.fx .invalid)
  assertFxRateVersionFresh fx registeredAt
  let evidence ← parseEvidence evidence
  if evidence.length ≠ SANDBOX_PLAN_MATRIX.length then throw (.provisioning .plan_matrix)
  if evidence.any fun entry => isExcludedProviderPlanCode entry.providerPlanId then
    throw (.provisioning .excluded_provider_plan)
  let registrations ← prepareRegistrations fx mode [] evidence
  assertSandboxRegistrationBatchAdmissible registrations
  return ⟨fx, registeredAt, mode, registrations.insertionSort fun a b => matrixIndex a ≤ matrixIndex b⟩

/-! ## The tables -/

/-- A row of `billing_provider_plans` with its provenance. -/
structure EpochRecord where
  plan : ProviderPlanRow
  providerPlanReference : String
  catalogueAmountMinor : ℕ

/-- The audit event of a registration. -/
structure RegistrationAudit where
  mode : BillingProviderMode
  operatorId : String
  reason : String
  fxRateVersionId : Uuid
  registeredAt : ℤ
  epochs : List ProviderPlanRow

structure ProvisioningTables where
  fxVersions : List FxRateVersionRow
  epochs : List EpochRecord
  auditEvents : List RegistrationAudit

/-- A column holds no text with the character U+0000. -/
def storableText (s : String) : Bool := !s.toList.contains (Char.ofNat 0)

/-- The range of `bigint`. -/
def maxBigint : ℕ := 2 ^ 63 - 1

/-- The checks on a row of `billing_provider_plans`, and the values its columns can hold. -/
def epochStorable (e : EpochRecord) : Bool :=
  e.plan.cataloguePlan ≠ .starter && e.plan.paymentCurrency = "GHS" &&
    e.plan.paymentAmountExponent = 2 && 10 ≤ e.plan.paymentAmountMinor &&
    e.plan.paymentAmountMinor ≤ maxBigint && 0 < e.catalogueAmountMinor &&
    e.catalogueAmountMinor ≤ maxBigint && lengthBetween 1 128 e.plan.providerPlanId &&
    lengthBetween 1 190 e.providerPlanReference && lengthBetween 1 64 e.plan.pricingPolicyVersion &&
    lengthBetween 1 64 e.plan.catalogueVersion && !credentialShaped e.plan.providerPlanId &&
    storableText e.plan.providerPlanId && storableText e.providerPlanReference

/-- The row collides with another one: its id, its provider plan, or the active epoch of its key. -/
def epochTaken (db : ProvisioningTables) (row : ProviderPlanRow) : Bool :=
  db.epochs.any fun e => e.plan.id = row.id || (e.plan.mode = row.mode &&
    (e.plan.providerPlanId = row.providerPlanId || (e.plan.status = .active &&
      e.plan.cataloguePlan = row.cataloguePlan && e.plan.interval = row.interval &&
      e.plan.paymentCurrency = row.paymentCurrency)))

/-- The `INSERT` of `register`. -/
def insertEpoch (db : ProvisioningTables) (e : EpochRecord) :
    Except ProvisioningRefusal ProvisioningTables :=
  if !epochStorable e ∨ !(db.fxVersions.any fun v => v.id = e.plan.fxRateVersionId) then .error .database
  else if epochTaken db e.plan then .error (.plan .conflict)
  else .ok { db with epochs := db.epochs ++ [e] }

/-! ## The transaction -/

/-- `sandboxProvisioningRegisterInputs`: the row a registration becomes. -/
def epochRecord (id : Uuid) (mode : BillingProviderMode) (registeredAt : ℤ) (r : EpochRegistration) :
    EpochRecord where
  plan :=
    { id := id
      mode := mode
      cataloguePlan := r.cataloguePlan
      interval := r.interval
      paymentCurrency := "GHS"
      paymentAmountMinor := r.paymentAmountMinor
      paymentAmountExponent := paymentAmountExponent
      providerPlanId := r.providerPlanId
      fxRateVersionId := r.fxRateVersionId
      pricingPolicyVersion := BILLING_PRICING_POLICY_VERSION
      catalogueVersion := BILLING_CATALOGUE_VERSION
      status := .active
      validFrom := registeredAt }
  providerPlanReference := r.evidenceReference
  catalogueAmountMinor := r.catalogueAmountMinor

def register (db : ProvisioningTables) (mode : BillingProviderMode) (e : EpochRecord) :
    Except ProvisioningRefusal (ProviderPlanRow × ProvisioningTables) := do
  if e.plan.cataloguePlan = .starter then throw (.plan .forbidden_plan)
  if e.plan.paymentAmountMinor = 0 then throw (.plan .invalid)
  if e.catalogueAmountMinor = 0 then throw (.plan .invalid)
  let db ← insertEpoch db e
  let epoch ← (parseProviderPlan e.plan mode).mapError .plan
  return (epoch, db)

/-- Statement `n` of the transaction is answered, or fails. -/
def answered (faults : ℕ → Bool) (n : ℕ) : Except ProvisioningRefusal Unit :=
  if faults n then .error .database else .ok ()

/-- The loop over the registrations, from statement `n` on; `ids` are the ids the database generates. -/
def registerEpochs (faults : ℕ → Bool) (ids : ℕ → Uuid) (batch : ValidatedBatch) :
    ℕ → List EpochRegistration → ProvisioningTables →
      Except ProvisioningRefusal (List ProviderPlanRow × ProvisioningTables)
  | _, [], db => .ok ([], db)
  | n, r :: rest, db => do
    answered faults n
    let (epoch, db) ← register db batch.mode (epochRecord (ids n) batch.mode batch.registeredAt r)
    let (epochs, db) ← registerEpochs faults ids batch (n + 1) rest db
    return (epoch :: epochs, db)

structure ProvisioningAuditDescriptor where
  operatorId : String
  reason : String
  deriving DecidableEq

structure RegisterRequest where
  fxRateVersionId : String
  evidence : List (Option EvidenceFields)
  audit : Option ProvisioningAuditDescriptor
  deriving DecidableEq

/-- `provisioningAuditDescriptorSchema`. -/
def parseAudit (audit : ProvisioningAuditDescriptor) : Option ProvisioningAuditDescriptor :=
  let operatorId := jsTrim audit.operatorId
  let reason := jsTrim audit.reason
  if lengthBetween 1 128 operatorId && lengthBetween 1 500 reason then some ⟨operatorId, reason⟩ else none

/-- `parseRunRequest`; `none` is a request of another shape. -/
def parseRunRequest (mode : BillingProviderMode) (input : Option RegisterRequest) :
    Except ProvisioningRefusal RegisterRequest := do
  let some request := input | throw (.provisioning .invalid_evidence)
  if !isGuid request.fxRateVersionId ∨ request.evidence = [] then throw (.provisioning .invalid_evidence)
  match request.audit with
  | none =>
    if mode = .live then throw (.provisioning .audit_required)
    return request
  | some audit =>
    let some parsed := parseAudit audit | throw (.provisioning .invalid_evidence)
    if credentialShaped parsed.operatorId ∨ credentialShaped parsed.reason then
      throw (.provisioning .audit_required)
    return { request with audit := some parsed }

def prepareSelectedBatch (db : ProvisioningTables) (mode : BillingProviderMode)
    (request : RegisterRequest) (registeredAt : Option ℤ) : Except ProvisioningRefusal ValidatedBatch := do
  let some row := db.fxVersions.find? fun v => Uuid.ofText? request.fxRateVersionId = some v.id
    | throw (.fx .missing)
  let batch ← prepareSandboxProvisioningBatch row request.evidence registeredAt mode
  if batch.fxVersion.id.text ≠ request.fxRateVersionId then throw (.provisioning .shared_fx_violation)
  if batch.registrations.any fun r => r.fxRateVersionId.text ≠ request.fxRateVersionId then
    throw (.provisioning .shared_fx_violation)
  return batch

/-- `recordAuditEvent`; a failure is surfaced as a refusal. -/
def recordAuditEvent (faults : ℕ → Bool) (n : ℕ) (db : ProvisioningTables) (event : RegistrationAudit) :
    Except ProvisioningRefusal ProvisioningTables :=
  if faults n ∨ !storableText event.operatorId ∨ !storableText event.reason then
    .error (.provisioning .audit_required)
  else .ok { db with auditEvents := db.auditEvents ++ [event] }

/-- The audit event of the batch, where an operator descriptor was handed in. -/
def recordRegistration (faults : ℕ → Bool) (db : ProvisioningTables) (batch : ValidatedBatch)
    (epochs : List ProviderPlanRow) :
    Option ProvisioningAuditDescriptor → Except ProvisioningRefusal ProvisioningTables
  | none => .ok db
  | some audit => recordAuditEvent faults 6 db
      ⟨batch.mode, audit.operatorId, audit.reason, batch.fxVersion.id, batch.registeredAt, epochs⟩

/-- What stands between `BEGIN` and `COMMIT`: statement 0 begins, 1 reads the FX version, 2 to 5 insert the
    epochs, 6 the audit event, and 7 commits. -/
def registration (faults : ℕ → Bool) (ids : ℕ → Uuid) (mode : BillingProviderMode)
    (db : ProvisioningTables) (input : Option RegisterRequest) (now : Option ℤ) :
    Except ProvisioningRefusal (List ProviderPlanRow × ProvisioningTables) := do
  let request ← parseRunRequest mode input
  if now = none then throw (.provisioning .invalid_instant)
  answered faults 0
  answered faults 1
  let batch ← prepareSelectedBatch db mode request now
  let (epochs, db) ← registerEpochs faults ids batch 2 batch.registrations db
  let db ← recordRegistration faults db batch epochs request.audit
  answered faults 7
  return (epochs, db)

/-- `registerSandboxPlanEpochs`: a refusal rolls everything back. -/
def registerSandboxPlanEpochs (faults : ℕ → Bool) (ids : ℕ → Uuid) (mode : BillingProviderMode)
    (db : ProvisioningTables) (input : Option RegisterRequest) (now : Option ℤ) :
    Except ProvisioningRefusal (List ProviderPlanRow) × ProvisioningTables :=
  match registration faults ids mode db input now with
  | .ok (epochs, db) => (.ok epochs, db)
  | .error refusal => (.error refusal, db)

end VeltrixEye.Provisioning
