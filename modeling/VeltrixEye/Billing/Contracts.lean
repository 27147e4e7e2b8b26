import VeltrixEye.Lib.Uuid

/-!
# The billing vocabulary (`contracts/src/billing-*.ts`)

The plans, statuses and provider states of billing, the pricing snapshot a sale is locked to, and the
provider's view of a subscription or transaction.  A literal type (`provider: 'paystack'`, the
commercial currency, the rounding mode) is left out where it has one value.

References are texts as the seam's schemas return them: trimmed, not empty and bounded in length.
-/

namespace VeltrixEye.Billing

/-! ## Plans and states -/

/-- `UserPlan`: the enforced plan values, in ascending order. -/
inductive UserPlan where
  | free
  | pro
  | premium
  deriving DecidableEq

inductive CommercialPlanId where
  | starter
  | pro
  | elite
  deriving DecidableEq

def internalPlanForCommercialPlan : CommercialPlanId → Option UserPlan
  | .starter => none
  | .pro => some .pro
  | .elite => some .premium

inductive BillingInterval where
  | monthly
  | annual
  deriving DecidableEq

/-- `cataloguePriceMinor`, in USD cents. -/
def cataloguePriceMinor : CommercialPlanId → BillingInterval → ℕ
  | .starter, .monthly => 1500
  | .starter, .annual => 15000
  | .pro, .monthly => 3900
  | .pro, .annual => 39000
  | .elite, .monthly => 9900
  | .elite, .annual => 99000

def BILLING_CATALOGUE_VERSION : String := "billing-catalogue-1"

/-- `SubscriptionStatus`: the authoritative status. -/
inductive SubscriptionStatus where
  | active
  | trialing
  | past_due
  | canceled
  | expired
  deriving DecidableEq

/-- `BillingLifecycleState`: what the provider reports. -/
inductive BillingLifecycleState where
  | unprovisioned
  | pending
  | active
  | trialing
  | past_due
  | cancelled
  | unsubscribed
  | expired
  | unknown
  deriving DecidableEq

/-- `SUBSCRIPTION_STATUS_FOR_PROVIDER_STATE`. -/
def subscriptionStatusForProviderState : BillingLifecycleState → Option SubscriptionStatus
  | .unprovisioned => none
  | .pending => none
  | .active => some .active
  | .trialing => some .trialing
  | .past_due => some .past_due
  | .cancelled => some .canceled
  | .unsubscribed => some .canceled
  | .expired => some .expired
  | .unknown => none

/-- The one billing provider. -/
inductive BillingProviderId where
  | paystack
  deriving DecidableEq

inductive BillingProviderMode where
  | test
  | live
  deriving DecidableEq

/-- `BILLING_EVENT_TYPES`. -/
inductive BillingEventType where
  | customerCreated
  | customerUpdated
  | paymentSucceeded
  | paymentFailed
  | paymentPending
  | subscriptionCreated
  | subscriptionUpdated
  | subscriptionActivated
  | subscriptionRenewed
  | subscriptionNotRenewing
  | subscriptionCancelled
  | subscriptionExpired
  | invoiceProcessed
  | invoiceFailed
  | unrecognized
  deriving DecidableEq

/-- `BILLING_EVENT_PROCESSING_STATES`. -/
inductive BillingEventState where
  | received
  | ignored
  | processed
  | failed
  deriving DecidableEq

inductive BillingSyncState where
  | never_synced
  | pending
  | synced
  | conflict
  deriving DecidableEq

/-! ## Texts -/

/-- The white space that `String.prototype.trim` removes. -/
def isJsSpace (c : Char) : Bool :=
  [9, 10, 11, 12, 13, 32, 160, 5760, 8232, 8233, 8239, 8287, 12288, 65279].contains c.toNat ||
    (8192 ≤ c.toNat && c.toNat ≤ 8202)

/-- `value.trim()`. -/
def jsTrim (s : String) : String :=
  String.ofList ((s.toList.dropWhile isJsSpace).reverse.dropWhile isJsSpace).reverse

/-- A printable ASCII character other than the blank is kept. -/
theorem isJsSpace_of_printable {c : Char} (h : 33 ≤ c.toNat ∧ c.toNat ≤ 126) : isJsSpace c = false := by
  unfold isJsSpace
  rw [Bool.or_eq_false_iff]
  constructor
  · rw [List.contains_eq_mem]
    simp only [List.mem_cons, List.not_mem_nil, or_false, decide_eq_false_iff_not]
    omega
  · simp only [Bool.and_eq_false_iff, decide_eq_false_iff_not]
    omega

theorem jsTrim_of_no_space {s : String} (h : ∀ c ∈ s.toList, isJsSpace c = false) : jsTrim s = s := by
  have hkeep : ∀ l : List Char, (∀ c ∈ l, isJsSpace c = false) → l.dropWhile isJsSpace = l := by
    intro l hl
    cases l with
    | nil => rfl
    | cons c l => rw [List.dropWhile_cons, hl c List.mem_cons_self, if_neg Bool.false_ne_true]
  unfold jsTrim
  rw [hkeep _ h, hkeep _ fun c hc => h c (List.mem_reverse.mp hc), List.reverse_reverse, String.ofList_toList]

/-- The words of `BILLING_CREDENTIAL_SHAPED_RE`. -/
def credentialWords : List String :=
  ["password", "passwd", "token", "secret", "apikey", "api_key", "api-key", "authorization",
    "privatekey", "private_key", "private-key", "credential", "bearer"]

/-- `BILLING_CREDENTIAL_SHAPED_RE.test(value)`. -/
def credentialShaped (s : String) : Bool :=
  let text := s.toList.map Char.toLower
  credentialWords.any fun word => text.tails.any fun tail => word.toList.isPrefixOf tail

/-- A text of at least one and at most `bound` characters that is not credential-shaped. -/
def boundedText (bound : ℕ) (s : String) : Bool :=
  1 ≤ s.toList.length && s.toList.length ≤ bound && !credentialShaped s

/-! ## Pricing snapshots -/

def MAX_SAFE_INTEGER : ℕ := 2 ^ 53 - 1

structure BillingPaymentAmount where
  paymentCurrency : String
  paymentAmountMinor : ℕ
  paymentAmountExponent : ℕ
  deriving DecidableEq

inductive BillingFxSource where
  | db
  | ops
  | «import»
  | config
  deriving DecidableEq

/-- `BillingFxSnapshot`; instants are in milliseconds. -/
structure BillingFxSnapshot where
  quoteCurrency : String
  fxRateScaled : ℕ
  fxRateScale : ℕ
  fxRateVersionId : Uuid
  fxRateEffectiveFrom : ℤ
  fxRateCapturedAt : ℤ
  fxRateSource : BillingFxSource
  deriving DecidableEq

structure BillingPricingSnapshot where
  commercialAmountMinor : ℕ
  catalogueVersion : String
  cataloguePlan : CommercialPlanId
  interval : BillingInterval
  payment : BillingPaymentAmount
  fx : BillingFxSnapshot
  providerPlanId : Option String
  providerReference : Option String
  pricingPolicyVersion : String
  computedAt : ℤ
  deriving DecidableEq

/-! ## The provider's view -/

/-- A member of an object that may be absent or null. -/
inductive Member (α : Type) where
  | absent
  | null
  | value (a : α)
  deriving DecidableEq

/-- `member ?? null`. -/
def Member.toOption {α : Type} : Member α → Option α
  | .absent => none
  | .null => none
  | .value a => some a

/-- What billing reads of a `ProviderSubscriptionState`. -/
structure ProviderSubscriptionState where
  provider : BillingProviderId
  state : BillingLifecycleState
  providerSubscriptionId : Option String
  providerSubscriptionCode : Option String
  providerCustomerId : Option String
  providerCustomerCode : Option String
  providerReference : Option String
  payment : Member BillingPaymentAmount
  paidAt : Member String
  providerTransactionId : Member String
  providerTransactionStatus : Member String
  deriving DecidableEq

/-- What the code under this model calls and does not define: the SHA-256 hex digest of a text
    (`node:crypto`), the acceptance of `z.string().datetime()`, and the text an instant has after it
    was written to a `timestamptz` column, read back and printed with `toISOString`. -/
structure BillingRuntime where
  sha256Hex : String → String
  isoDateTime : String → Bool
  storedInstant : String → String

end VeltrixEye.Billing
