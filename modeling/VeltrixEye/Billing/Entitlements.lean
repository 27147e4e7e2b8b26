import VeltrixEye.Billing.Contracts

/-!
# Entitlements (`billing/entitlements.ts`, `billing/entitlement-resolution.ts`)

* `getEntitlements` — the plan matrix under the lifecycle status.
* `resolvePaidTier` — the tier the paid authority alone confers.
* `resolveEntitlements` — with an operator grant, its tier; without one, the paid tier.
-/

namespace VeltrixEye.Billing

/-- `Entitlements`; `none` strategies is the unlimited sentinel. -/
structure Entitlements where
  maxStrategies : Option ℕ
  maxBacktestsPerMonth : ℕ
  maxAlertsPerMonth : ℕ
  maxSavedSetups : ℕ
  canAccessScanner : Bool
  canAccessAdvancedStrategies : Bool
  canAccessAdvancedAlerts : Bool
  canAccessAutomation : Bool

def FREE_ENTITLEMENTS : Entitlements := ⟨some 1, 100, 1000, 1000, false, false, false, false⟩

def PRO_ENTITLEMENTS : Entitlements := ⟨some 5, 1000, 5000, 5000, true, true, true, false⟩

def PREMIUM_ENTITLEMENTS : Entitlements := ⟨none, 5000, 10000, 10000, true, true, true, false⟩

def getEntitlements (plan : UserPlan) (status : SubscriptionStatus) : Entitlements :=
  if status = .active ∨ status = .trialing ∨ status = .past_due then
    match plan with
    | .premium => PREMIUM_ENTITLEMENTS
    | .pro => PRO_ENTITLEMENTS
    | .free => FREE_ENTITLEMENTS
  else FREE_ENTITLEMENTS

def resolvePaidTier (plan : UserPlan) (provider : Option BillingProviderId) (activated : Bool) :
    UserPlan :=
  match provider with
  | some _ => if activated then plan else .free
  | none => if activated then .free else plan

def resolveEntitlements (plan : UserPlan) (status : SubscriptionStatus)
    (provider : Option BillingProviderId) (activated : Bool) (grantedPlan : Option UserPlan) :
    Entitlements :=
  match grantedPlan with
  | some granted => getEntitlements granted status
  | none => getEntitlements (resolvePaidTier plan provider activated) status

/-! ## Order -/

/-- A bound of `none` is above every bound. -/
def boundLe : Option ℕ → Option ℕ → Prop
  | _, none => True
  | none, some _ => False
  | some a, some b => a ≤ b

instance decidableBoundLe : ∀ a b, Decidable (boundLe a b)
  | some _, none => inferInstanceAs (Decidable True)
  | none, none => inferInstanceAs (Decidable True)
  | none, some _ => inferInstanceAs (Decidable False)
  | some a, some b => inferInstanceAs (Decidable (a ≤ b))

/-- Capability by capability, `e` is at most `e'`. -/
def Entitlements.AtMost (e e' : Entitlements) : Prop :=
  boundLe e.maxStrategies e'.maxStrategies ∧ e.maxBacktestsPerMonth ≤ e'.maxBacktestsPerMonth ∧
    e.maxAlertsPerMonth ≤ e'.maxAlertsPerMonth ∧ e.maxSavedSetups ≤ e'.maxSavedSetups ∧
    e.canAccessScanner ≤ e'.canAccessScanner ∧
    e.canAccessAdvancedStrategies ≤ e'.canAccessAdvancedStrategies ∧
    e.canAccessAdvancedAlerts ≤ e'.canAccessAdvancedAlerts ∧
    e.canAccessAutomation ≤ e'.canAccessAutomation

instance (e e' : Entitlements) : Decidable (e.AtMost e') :=
  inferInstanceAs (Decidable (_ ∧ _ ∧ _ ∧ _ ∧ _ ∧ _ ∧ _ ∧ _))

/-- `ENTITLEMENT_TIER_RANK`: the index in `USER_PLANS`. -/
def tierRank : UserPlan → ℕ
  | .free => 0
  | .pro => 1
  | .premium => 2

/-- A higher plan has at least the capabilities of a lower one under the same status. -/
theorem getEntitlements_mono {plan plan' : UserPlan} (h : tierRank plan ≤ tierRank plan')
    (status : SubscriptionStatus) :
    (getEntitlements plan status).AtMost (getEntitlements plan' status) := by
  cases plan <;> cases plan' <;> cases status <;> first | decide | exact absurd h (by decide)

theorem Entitlements.AtMost.refl (e : Entitlements) : e.AtMost e := by
  refine ⟨?_, le_refl _, le_refl _, le_refl _, le_refl _, le_refl _, le_refl _, le_refl _⟩
  cases h : e.maxStrategies with
  | none => trivial
  | some n => exact le_refl n

theorem getEntitlements_free (status : SubscriptionStatus) :
    getEntitlements .free status = FREE_ENTITLEMENTS := by
  unfold getEntitlements
  split <;> rfl

/-- A provider-backed row that resolves above the free tier is activated. -/
theorem activated_of_resolve_ne_free {plan : UserPlan} {status : SubscriptionStatus}
    {provider : BillingProviderId} {activated : Bool}
    (h : resolveEntitlements plan status (some provider) activated none ≠ FREE_ENTITLEMENTS) :
    activated = true := by
  cases activated with
  | true => rfl
  | false => exact absurd (getEntitlements_free status) h

end VeltrixEye.Billing
