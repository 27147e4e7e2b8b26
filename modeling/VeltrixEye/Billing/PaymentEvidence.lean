import VeltrixEye.Billing.Pricing

/-!
# Payment evidence (`billing/payment-reconciliation.ts`, `billing/verified-transactions.ts`)

The facts of a verified transaction, their reconciliation with the snapshot that authorized the
payment, and the deterministic references, keys and hashes evidence is stored under.

* `billingCheckoutReference` — the reference of a user and a pricing key.
* `reconcileBillingPaymentEvidence` — every check of the reconciliation, first failure first.
* `reconcile_ok` — what a reconciled transaction satisfies.
-/

namespace VeltrixEye.Billing

/-! ## References and keys -/

/-- A character inside a JSON string. -/
def jsonEscape (c : Char) : List Char :=
  let backslash := Char.ofNat 92
  let hex (n : ℕ) := if n < 10 then Char.ofNat (48 + n) else Char.ofNat (87 + n)
  if c.toNat = 34 ∨ c.toNat = 92 then [backslash, c]
  else if c.toNat = 8 then [backslash, 'b']
  else if c.toNat = 9 then [backslash, 't']
  else if c.toNat = 10 then [backslash, 'n']
  else if c.toNat = 12 then [backslash, 'f']
  else if c.toNat = 13 then [backslash, 'r']
  else if c.toNat < 32 then [backslash, 'u', '0', '0', hex (c.toNat / 16), hex (c.toNat % 16)]
  else [c]

/-- `JSON.stringify` of a string. -/
def jsonString (s : String) : String :=
  let quote := Char.ofNat 34
  String.ofList (quote :: s.toList.flatMap jsonEscape ++ [quote])

/-- `JSON.stringify` of an array of strings. -/
def jsonStrings (l : List String) : String := "[" ++ ",".intercalate (l.map jsonString) ++ "]"

def billingCheckoutReference (runtime : BillingRuntime) (userId : Uuid) (pricingKey : String) :
    String :=
  "ve-chk-" ++ runtime.sha256Hex (jsonStrings ["billing-checkout/v1", userId.text, pricingKey])

/-- `CHECKOUT_REFERENCE_SHAPE.test(reference)`. -/
def checkoutReferenceShape (reference : String) : Bool :=
  let digits := reference.toList.drop 7
  reference.toList.take 7 = "ve-chk-".toList && digits.length = 64 &&
    digits.all fun c => ('0' ≤ c && c ≤ '9') || ('a' ≤ c && c ≤ 'f')

def BillingProviderMode.text : BillingProviderMode → String
  | .test => "test"
  | .live => "live"

def billingVerifiedTransactionIdempotencyKey (runtime : BillingRuntime) (providerReference : String)
    (pricingSnapshotId : Uuid) : String :=
  runtime.sha256Hex ("|".intercalate
    ["billing-verified-transaction/v1", "paystack", providerReference, pricingSnapshotId.text])

/-! ## Verified facts -/

structure BillingVerifiedTransaction where
  providerReference : String
  providerTransactionId : Option String
  providerStatus : String
  providerDomain : BillingProviderMode
  paymentCurrency : String
  paymentAmountMinor : ℕ
  paymentAmountExponent : ℕ
  providerCustomerId : Option String
  providerCustomerCode : Option String
  paidAt : Option String
  verifiedAt : String

def billingVerifiedTransactionEvidenceHash (runtime : BillingRuntime)
    (verified : BillingVerifiedTransaction) : String :=
  runtime.sha256Hex (jsonStrings ["billing-verified-transaction-evidence/v1", "paystack",
    verified.providerReference, verified.providerTransactionId.getD "", verified.providerStatus,
    verified.providerDomain.text, verified.paymentCurrency, toString verified.paymentAmountMinor,
    toString verified.paymentAmountExponent, verified.providerCustomerId.getD "",
    verified.providerCustomerCode.getD "", verified.paidAt.getD "", verified.verifiedAt])

/-- The facts `confirm` builds: a member the view does not carry falls back, the payment members to
    the snapshot's. -/
def verifiedTransaction (mode : BillingProviderMode) (expectedReference : String)
    (snapshot : BillingPricingSnapshot) (observed : ProviderSubscriptionState)
    (verifiedAt : String) : BillingVerifiedTransaction :=
  let payment := observed.payment.toOption
  { providerReference := observed.providerReference.getD expectedReference
    providerTransactionId := observed.providerTransactionId.toOption
    providerStatus := observed.providerTransactionStatus.toOption.getD "unknown"
    providerDomain := mode
    paymentCurrency :=
      (payment.map (·.paymentCurrency)).getD snapshot.payment.paymentCurrency
    paymentAmountMinor :=
      (payment.map (·.paymentAmountMinor)).getD snapshot.payment.paymentAmountMinor
    paymentAmountExponent :=
      (payment.map (·.paymentAmountExponent)).getD snapshot.payment.paymentAmountExponent
    providerCustomerId := observed.providerCustomerId
    providerCustomerCode := observed.providerCustomerCode
    paidAt := observed.paidAt.toOption
    verifiedAt := verifiedAt }

/-! ## Reconciliation -/

/-- `BillingPaymentReconciliationFailureReason`. -/
inductive BillingPaymentReconciliationFailure where
  | invalid_snapshot
  | reference_mismatch
  | domain_mismatch
  | invalid_status
  | currency_mismatch
  | exponent_mismatch
  | amount_mismatch
  | missing_paid_at
  | snapshot_mismatch
  | customer_mismatch
  deriving DecidableEq

/-- The provider identifiers of a local billing customer. -/
structure LocalCustomer where
  providerCustomerId : Option String
  providerCustomerCode : Option String
  deriving DecidableEq

/-- Both are known and differ. -/
def disagrees (remote mine : Option String) : Bool :=
  match remote, mine with
  | some r, some m => r ≠ m
  | _, _ => false

/-- The identity check of the reconciliation. -/
def customerCoherent (verified : BillingVerifiedTransaction) : Option LocalCustomer → Bool
  | none => true
  | some localCustomer =>
    !(disagrees verified.providerCustomerCode localCustomer.providerCustomerCode ||
      disagrees verified.providerCustomerId localCustomer.providerCustomerId) &&
    !(localCustomer.providerCustomerCode.isSome && verified.providerCustomerCode = none &&
      verified.providerCustomerId = none)

def reconcileBillingPaymentEvidence (runtime : BillingRuntime)
    (verified : BillingVerifiedTransaction) (expectedReference : String)
    (snapshot : BillingPricingSnapshot) (localCustomer : Option LocalCustomer)
    (expectedProviderDomain : BillingProviderMode) :
    Except BillingPaymentReconciliationFailure Unit :=
  match verifyPricingSnapshot snapshot with
  | .error _ => .error .invalid_snapshot
  | .ok _ =>
    if verified.providerReference ≠ expectedReference then .error .reference_mismatch
    else if verified.providerDomain ≠ expectedProviderDomain then .error .domain_mismatch
    else if verified.providerStatus ≠ "success" then .error .invalid_status
    else if !isPaymentCurrency verified.paymentCurrency ∨
        verified.paymentCurrency ≠ snapshot.payment.paymentCurrency then .error .currency_mismatch
    else if verified.paymentAmountExponent ≠ paymentAmountExponent then .error .exponent_mismatch
    else if verified.paymentAmountExponent ≠ snapshot.payment.paymentAmountExponent then
      .error .exponent_mismatch
    else if verified.paymentAmountMinor ≠ snapshot.payment.paymentAmountMinor then
      .error .amount_mismatch
    else if verified.paidAt = none then .error .missing_paid_at
    else if !verified.paidAt.all runtime.isoDateTime then .error .missing_paid_at
    else if snapshot.providerReference ≠ none ∧
        snapshot.providerReference ≠ some expectedReference then .error .snapshot_mismatch
    else if !customerCoherent verified localCustomer then .error .customer_mismatch
    else .ok ()

/-- What reconciliation asks, without the order of its refusals. -/
structure Reconciled (runtime : BillingRuntime) (verified : BillingVerifiedTransaction)
    (expectedReference : String) (snapshot : BillingPricingSnapshot)
    (localCustomer : Option LocalCustomer) (mode : BillingProviderMode) : Prop where
  snapshot_ok : ∃ s, verifyPricingSnapshot snapshot = .ok s
  reference : verified.providerReference = expectedReference
  domain : verified.providerDomain = mode
  status : verified.providerStatus = "success"
  currency_ok : isPaymentCurrency verified.paymentCurrency = true
  currency : verified.paymentCurrency = snapshot.payment.paymentCurrency
  exponent_ok : verified.paymentAmountExponent = paymentAmountExponent
  exponent : verified.paymentAmountExponent = snapshot.payment.paymentAmountExponent
  amount : verified.paymentAmountMinor = snapshot.payment.paymentAmountMinor
  paid : ∃ paidAt, verified.paidAt = some paidAt ∧ runtime.isoDateTime paidAt = true
  bound : snapshot.providerReference = none ∨ snapshot.providerReference = some expectedReference
  customer : customerCoherent verified localCustomer = true

variable {runtime : BillingRuntime} {verified : BillingVerifiedTransaction}
  {expectedReference : String} {snapshot : BillingPricingSnapshot}
  {localCustomer : Option LocalCustomer} {mode : BillingProviderMode}

theorem reconcile_ok :
    reconcileBillingPaymentEvidence runtime verified expectedReference snapshot localCustomer mode =
        .ok () ↔
      Reconciled runtime verified expectedReference snapshot localCustomer mode := by
  unfold reconcileBillingPaymentEvidence
  cases hs : verifyPricingSnapshot snapshot with
  | error e =>
    constructor
    · intro h
      cases h
    · rintro ⟨⟨s, h⟩, -⟩
      rw [hs] at h
      cases h
  | ok s =>
    simp only [Except.ite_error_eq_ok, ne_eq, not_not, and_true]
    constructor
    · rintro ⟨href, hdom, hstatus, hcur, hexp, hexp', hamount, hpaid, hiso, hbound, hcustomer⟩
      obtain ⟨paidAt, hsome⟩ := Option.ne_none_iff_exists'.mp hpaid
      rw [hsome] at hiso
      push Not at hcur hbound
      refine ⟨⟨s, hs⟩, href, hdom, hstatus, by simpa using hcur.1, hcur.2, hexp, hexp', hamount,
        ⟨paidAt, hsome, by simpa using hiso⟩, ?_, by simpa using hcustomer⟩
      by_cases hnone : snapshot.providerReference = none
      · exact .inl hnone
      · exact .inr (hbound hnone)
    · rintro ⟨-, href, hdom, hstatus, hcurok, hcur, hexp, hexp', hamount, ⟨paidAt, hp, hiso⟩,
        hbound, hcustomer⟩
      refine ⟨href, hdom, hstatus, by simp [hcurok, ← hcur], hexp, hexp', hamount, by simp [hp],
        by simp [hp, hiso], ?_, by simp [hcustomer]⟩
      rintro ⟨h, h'⟩
      exact hbound.elim h h'

end VeltrixEye.Billing
