import VeltrixEye.Billing.Changes
import VeltrixEye.Lib.Rows

/-!
# Checkout sells one locked price or nothing

* `SalesOk` — the tables: unique keys, every sold row locked to a snapshot that verifies and agrees
  with it, every snapshot locked by a row.
-/

namespace VeltrixEye.Billing

/-! ## The tables -/

/-- The row agrees with the snapshot it was sold under. -/
structure Agrees (r : SubscriptionRow) (s : BillingPricingSnapshot) : Prop where
  provider : r.provider = some .paystack
  plan : some r.plan = internalPlanForCommercialPlan s.cataloguePlan
  cataloguePlan : r.cataloguePlan = some s.cataloguePlan
  billingInterval : r.billingInterval = some s.interval
  providerPlanId : r.providerPlanId = s.providerPlanId

/-- The row is locked to a persisted snapshot that verifies, has its own key and agrees with it. -/
def Sold (runtime : BillingRuntime) (db : BillingTables) (r : SubscriptionRow) : Prop :=
  ∃ snap ∈ db.snapshots, r.lockedPricingSnapshotId = some snap.id ∧
    ∃ s, verifyPricingSnapshot snap.snapshot = .ok s ∧
      pricingIdempotencyKey runtime s = snap.idempotencyKey ∧ Agrees r s

structure SalesOk (runtime : BillingRuntime) (db : BillingTables) : Prop where
  plans : (db.plans.map (·.id)).Nodup
  snapshots : (db.snapshots.map (·.id)).Nodup
  snapshotKeys : (db.snapshots.map (·.idempotencyKey)).Nodup
  subscriptions : (db.subscriptions.map (·.id)).Nodup
  subscribers : (db.subscriptions.map (·.userId)).Nodup
  sold : ∀ r ∈ db.subscriptions, r.provider ≠ none → Sold runtime db r
  legacy : ∀ r ∈ db.subscriptions, r.provider = none → Legacy r
  owned : ∀ snap ∈ db.snapshots, ∃ r ∈ db.subscriptions, r.lockedPricingSnapshotId = some snap.id

/-! ## The stages -/

/-- The candidate is the price of `epoch` under a recorded FX version. -/
def Prices (mode : BillingProviderMode) (db : BillingTables) (epoch : ProviderPlanRow)
    (candidate : BillingPricingSnapshot) : Prop :=
  ∃ version ∈ db.fxVersions, ∃ asOf, priceFromProviderPlanEpoch epoch version asOf mode = .ok candidate

/-- The epoch is in the table, as it is or retired. -/
def KnownEpoch (db : BillingTables) (epoch : ProviderPlanRow) : Prop :=
  epoch ∈ db.plans ∨ { epoch with status := .retired } ∈ db.plans

/-- The candidate was priced from the epoch, which may be retired by now. -/
def PricedOnce (mode : BillingProviderMode) (db : BillingTables) (epochId : Uuid)
    (candidate : BillingPricingSnapshot) : Prop :=
  ∃ epoch, epoch.id = epochId ∧ epoch.status = .active ∧ KnownEpoch db epoch ∧
    Prices mode db epoch candidate

/-- The candidate was priced from the epoch, which is active. -/
def PricedFrom (mode : BillingProviderMode) (db : BillingTables) (epochId : Uuid)
    (candidate : BillingPricingSnapshot) : Prop :=
  ∃ epoch ∈ db.plans, epoch.id = epochId ∧ epoch.status = .active ∧ Prices mode db epoch candidate

/-- The persisted snapshot carries the key of a candidate priced from the active epoch, and is a row
    of the table or the uncommitted one. -/
def Persisted (runtime : BillingRuntime) (mode : BillingProviderMode) (db : BillingTables)
    (persisted : StoredSnapshot) (new : Option SnapshotRow) (epochId : Uuid) : Prop :=
  ∃ candidate s, PricedFrom mode db epochId candidate ∧ verifyPricingSnapshot candidate = .ok s ∧
    persisted.idempotencyKey = pricingIdempotencyKey runtime s ∧
    match new with
    | none => ∃ row ∈ db.snapshots, fromSnapshotRow runtime row = .ok persisted
    | some n => fromSnapshotRow runtime n = .ok persisted ∧
      ∀ r ∈ db.snapshots, r.idempotencyKey ≠ n.idempotencyKey

/-- What a checkout call knows at its stage. -/
def SaleStage (runtime : BillingRuntime) (mode : BillingProviderMode) (db : BillingTables)
    (call : CheckoutCall) : Prop :=
  match call.stage with
  | .pricing epoch => epoch.status = .active ∧ KnownEpoch db epoch
  | .locking (some (candidate, epochId)) => PricedOnce mode db epochId candidate
  | .authorizing candidate epochId => PricedOnce mode db epochId candidate
  | .persisting candidate epochId => PricedFrom mode db epochId candidate
  | .inserting persisted new epochId => Persisted runtime mode db persisted new epochId
  | .verifying row new true epochId =>
    (∀ r ∈ db.subscriptions, r.userId ≠ call.userId) ∧
      ∃ id plan persisted epoch, row = soldRow id call.userId plan persisted ∧ epochId = some epoch ∧
        Persisted runtime mode db persisted new epoch
  | _ => True

def SaleTask (runtime : BillingRuntime) (mode : BillingProviderMode) (d : BillingData) :
    BillingTask → Prop
  | .checkout call => SaleStage runtime mode d.db call
  | _ => True

abbrev SalesSafe (runtime : BillingRuntime) (mode : BillingProviderMode) (s : BillingState) : Prop :=
  Pool.Safe (fun d => SalesOk runtime d.db) (SaleTask runtime mode) Apart s

variable {runtime : BillingRuntime} {mode : BillingProviderMode} {input : StepInput}
  {order : ScanOrder} {db db' : BillingTables} {held : List Lock}

/-! ## The own step -/

theorem selectEpoch_ok {plan : CommercialPlanId} {interval : BillingInterval}
    {epoch : ProviderPlanRow} (h : selectEpoch db mode plan interval = .ok epoch) :
    epoch ∈ db.plans ∧ epoch.status = .active := by
  unfold selectEpoch at h
  split at h
  · cases h
  · cases h
  rename_i epoch' hselect
  have heq : epoch' = epoch := by
    cases hsell : assertSellableProviderPlan (some epoch'.providerPlanId) with
    | error e =>
      rw [hsell] at h
      cases h
    | ok u =>
      rw [hsell] at h
      cases h
      rfl
  subst heq
  unfold selectActiveProviderPlan at hselect
  rw [Except.bind_ok_iff] at hselect
  obtain ⟨parsed, hparsed, hselect⟩ := hselect
  have hmem : epoch' ∈ parsed.filter fun plan => plan.status = .active := by
    split at hselect
    · dsimp only at hselect
      split at hselect <;> cases hselect
    · rename_i hfilter
      dsimp only at hselect
      split at hselect
      · cases hselect
      cases hselect
      rw [hfilter]
      exact List.mem_singleton.mpr rfl
    · dsimp only at hselect
      split at hselect <;> cases hselect
  rw [List.mem_filter] at hmem
  obtain ⟨row, hrow, hparse⟩ := Except.mapM_ok_of_mem hparsed epoch' hmem.1
  have hself : row = epoch' := by
    unfold parseProviderPlan at hparse
    simp only [Except.ite_error_eq_ok] at hparse
    exact Except.ok.inj hparse.2.2.2.2.2.2
  subst hself
  have hin := List.mem_mergeSort.mp hrow
  exact ⟨(List.mem_filter.mp hin).1, by simpa using hmem.2⟩

theorem priceEpoch_ok {epoch : ProviderPlanRow} {asOf : ℤ} {s : BillingPricingSnapshot}
    (h : priceEpoch db mode epoch asOf = .ok s) : Prices mode db epoch s := by
  unfold priceEpoch at h
  split at h
  · cases h
  rename_i version hversion
  split at h
  · cases h
  · cases h
  · cases h
  rename_i hprice
  cases h
  exact ⟨version, List.mem_of_find?_eq_some hversion, asOf, hprice⟩

theorem assertCandidate_active {row : ProviderPlanRow} {candidate : BillingPricingSnapshot}
    (h : assertCandidateEpochStillActive row candidate mode = .ok ()) : row.status = .active := by
  unfold assertCandidateEpochStillActive at h
  split at h
  · cases h
  rename_i epoch hparse
  split at h
  · cases h
  rename_i hactive
  have hself : row = epoch := by
    unfold parseProviderPlan at hparse
    simp only [Except.ite_error_eq_ok] at hparse
    exact Except.ok.inj hparse.2.2.2.2.2.2
  rw [hself]
  exact not_not.mp hactive

theorem pricedFrom_of_once (hplans : (db.plans.map (·.id)).Nodup) {row : ProviderPlanRow}
    {epochId : Uuid} {candidate : BillingPricingSnapshot} (h : PricedOnce mode db epochId candidate)
    (hrow : row ∈ db.plans) (hid : row.id = epochId) (hactive : row.status = .active) :
    PricedFrom mode db epochId candidate := by
  obtain ⟨epoch, heid, hstatus, hknown, hprices⟩ := h
  rcases hknown with hknown | hknown
  · exact ⟨epoch, hknown, heid, hstatus, hprices⟩
  · have heq := Rows.eq_of_key hplans hrow hknown (hid.trans heid.symm)
    rw [heq] at hactive
    cases hactive

theorem checkoutStep_stage {call : CheckoutCall} (hplans : (db.plans.map (·.id)).Nodup)
    (h : SaleStage runtime mode db call) :
    SaleStage runtime mode db
      { call with stage := (checkoutStep runtime mode input db held call).2 } := by
  unfold checkoutStep
  cases hstage : call.stage with
  | selecting =>
    dsimp only
    split
    · trivial
    · rename_i epoch hepoch
      exact ⟨(selectEpoch_ok hepoch).2, .inl (selectEpoch_ok hepoch).1⟩
  | pricing epoch =>
    rw [SaleStage, hstage] at h
    dsimp only
    split
    · trivial
    · rename_i snapshot hprice
      exact ⟨epoch, rfl, h.1, h.2, priceEpoch_ok hprice⟩
  | locking candidate =>
    rw [SaleStage, hstage] at h
    dsimp only
    split
    · split
      · rw [SaleStage]
        exact h
      · trivial
    · split
      · trivial
      · exact h
  | authorizing candidate epochId =>
    rw [SaleStage, hstage] at h
    dsimp only
    split
    · exact h
    split
    · trivial
    rename_i row hrow
    split
    · trivial
    rename_i hassert
    exact pricedFrom_of_once hplans h (List.mem_of_find?_eq_some hrow)
      (by simpa using List.find?_some hrow) (assertCandidate_active hassert)
  | persisting candidate epochId =>
    rw [SaleStage, hstage] at h
    dsimp only
    split
    · trivial
    split
    · exact h
    split
    · trivial
    rename_i persisted new hcreate
    obtain ⟨s, hs, hnew⟩ := createSnapshot_ok hcreate
    rcases hnew with ⟨rfl, row, hrow, hkey, hfrom⟩ | ⟨rfl, hfresh, hfrom⟩
    · exact ⟨candidate, s, h, hs, (fromSnapshotRow_ok hfrom).2.1.trans hkey, row, hrow, hfrom⟩
    · exact ⟨candidate, s, h, hs, (fromSnapshotRow_ok hfrom).2.1, hfrom, hfresh⟩
  | inserting persisted new epochId =>
    rw [SaleStage, hstage] at h
    dsimp only
    split
    · exact h
    split
    · trivial
    rename_i hnone
    split
    · exact h
    split
    · trivial
    split
    · trivial
    rename_i plan hplan
    refine ⟨?_, input.id, plan, persisted, epochId, rfl, rfl, h⟩
    intro r hr
    have := hnone
    simp only [BillingTables.subscriptionOf, Option.isSome_iff_ne_none, ne_eq, not_not] at this
    simpa using List.find?_eq_none.mp this r hr
  | verifying row new inserted epochId =>
    dsimp only
    repeat' split
    all_goals trivial
  | _ =>
    dsimp only
    all_goals repeat' split
    all_goals trivial

/-! ## The steps of the others -/

theorem Prices.mono {epoch : ProviderPlanRow} {candidate : BillingPricingSnapshot}
    (hfx : db.fxVersions ⊆ db'.fxVersions) (h : Prices mode db epoch candidate) :
    Prices mode db' epoch candidate := by
  obtain ⟨version, hversion, hprice⟩ := h
  exact ⟨version, hfx hversion, hprice⟩

theorem KnownEpoch.mono {epoch : ProviderPlanRow} (hext : Extends db db')
    (h : KnownEpoch db epoch) : KnownEpoch db' epoch := by
  rcases h with h | h
  · exact hext.plans epoch h
  · exact .inr ((hext.plans _ h).elim id id)

theorem PricedOnce.mono {epochId : Uuid} {candidate : BillingPricingSnapshot}
    (hext : Extends db db') (h : PricedOnce mode db epochId candidate) :
    PricedOnce mode db' epochId candidate := by
  obtain ⟨epoch, hid, hactive, hknown, hprices⟩ := h
  exact ⟨epoch, hid, hactive, hknown.mono hext, hprices.mono hext.fxVersions⟩

/-- What a change leaves alone of what a checkout call holds: its epoch, its user's row and the key
    of its uncommitted snapshot. -/
structure Undisturbed (db db' : BillingTables) (call : CheckoutCall) : Prop where
  extends_ : Extends db db'
  plans : ∀ p ∈ db.plans, .planShare p.id ∈ call.locks → p ∈ db'.plans
  user : .subscriptionUser call.userId ∈ call.locks → ∀ r' ∈ db'.subscriptions,
    r'.userId = call.userId → ∃ r ∈ db.subscriptions, r.userId = call.userId
  keys : ∀ key, .snapshotKey key ∈ call.locks → ∀ n ∈ db'.snapshots, n.idempotencyKey = key →
    ∃ n' ∈ db.snapshots, n'.idempotencyKey = key

theorem Undisturbed.pricedFrom {call : CheckoutCall} (hu : Undisturbed db db' call) {epochId : Uuid}
    {candidate : BillingPricingSnapshot} (hheld : .planShare epochId ∈ call.locks)
    (h : PricedFrom mode db epochId candidate) : PricedFrom mode db' epochId candidate := by
  obtain ⟨epoch, hmem, hid, hactive, hprices⟩ := h
  exact ⟨epoch, hu.plans epoch hmem (by rw [hid]; exact hheld), hid, hactive,
    hprices.mono hu.extends_.fxVersions⟩

theorem Undisturbed.persisted {call : CheckoutCall} (hu : Undisturbed db db' call)
    {persisted : StoredSnapshot} {new : Option SnapshotRow} {epochId : Uuid}
    (hheld : .planShare epochId ∈ call.locks)
    (hkey : ∀ n, new = some n → .snapshotKey n.idempotencyKey ∈ call.locks)
    (h : Persisted runtime mode db persisted new epochId) :
    Persisted runtime mode db' persisted new epochId := by
  obtain ⟨candidate, s, hpriced, hs, hpkey, hnew⟩ := h
  refine ⟨candidate, s, hu.pricedFrom hheld hpriced, hs, hpkey, ?_⟩
  cases new with
  | none =>
    obtain ⟨row, hrow, hfrom⟩ := hnew
    exact ⟨row, hu.extends_.snapshots hrow, hfrom⟩
  | some n =>
    refine ⟨hnew.1, fun r hr heq => ?_⟩
    obtain ⟨n', hn', hkey'⟩ := hu.keys _ (hkey n rfl) r hr heq
    exact hnew.2 n' hn' hkey'

theorem saleStage_stable {call : CheckoutCall} (hu : Undisturbed db db' call)
    (h : SaleStage runtime mode db call) : SaleStage runtime mode db' call := by
  unfold SaleStage at h ⊢
  split
  · rename_i epoch hstage
    rw [hstage] at h
    exact ⟨h.1, h.2.mono hu.extends_⟩
  · rename_i candidate epochId hstage
    rw [hstage] at h
    exact h.mono hu.extends_
  · rename_i candidate epochId hstage
    rw [hstage] at h
    exact h.mono hu.extends_
  · rename_i candidate epochId hstage
    rw [hstage] at h
    exact hu.pricedFrom (by simp [CheckoutCall.locks, hstage]) h
  · rename_i persisted new epochId hstage
    rw [hstage] at h
    refine hu.persisted (by simp [CheckoutCall.locks, hstage]) ?_ h
    rintro n rfl
    simp [CheckoutCall.locks, hstage]
  · rename_i row new epochId hstage
    rw [hstage] at h
    obtain ⟨hnone, id, plan, persisted, epoch, hrow, rfl, hpersisted⟩ := h
    refine ⟨fun r' hr' heq => ?_, id, plan, persisted, epoch, hrow, rfl, ?_⟩
    · obtain ⟨r, hr, hru⟩ := hu.user (by simp [CheckoutCall.locks, hstage]) r' hr' heq
      exact hnone r hr hru
    · refine hu.persisted (by simp [CheckoutCall.locks, hstage]) ?_ hpersisted
      rintro n rfl
      simp [CheckoutCall.locks, hstage]
  · trivial

theorem Wrote.undisturbed {t t' : BillingTask} (h : Wrote runtime mode input db held t db' t')
    (ht : SaleTask runtime mode ⟨db, 0, [], []⟩ t) {call : CheckoutCall}
    (hapart : Apart t (.checkout call)) : Undisturbed db db' call where
  extends_ := h.extends
  plans p hp _ := by
    rw [h.plans.1]
    exact hp
  user hheld r' hr' heq := by
    rcases h.subscription hr' with ⟨r, hr, hkept⟩ | ⟨call', new, epochId, rfl, hstage⟩
    · exact ⟨r, hr, by rw [← hkept.userId, heq]⟩
    · have hmine : Lock.subscriptionUser call'.userId ∈ BillingTask.locks (.checkout call') := by
        simp [BillingTask.locks, CheckoutCall.locks, hstage]
      have hfree := hapart _ hmine _ hheld
      simp only [SaleTask, SaleStage, hstage] at ht
      obtain ⟨-, id, plan, persisted, epoch, hrow, -⟩ := ht
      rw [hrow] at heq
      simp [Lock.conflicts] at hfree
      exact absurd heq hfree
  keys key hheld n hn hkey := by
    rcases h.snapshot hn with hn | ⟨call', row, epochId, rfl, hstage⟩
    · exact ⟨n, hn, hkey⟩
    · have hmine : Lock.snapshotKey n.idempotencyKey ∈ BillingTask.locks (.checkout call') := by
        simp [BillingTask.locks, CheckoutCall.locks, hstage]
      have hfree := hapart _ hmine _ hheld
      simp [Lock.conflicts] at hfree
      exact absurd hkey hfree

theorem Outside.undisturbed (h : Outside held db db') {call : CheckoutCall}
    (hheld : ∀ l ∈ call.locks, l ∈ held) : Undisturbed db db' call where
  extends_ := h.extends
  plans p hp hshare := h.plan hp (hheld _ hshare)
  user _ r' hr' heq := by
    rw [h.tables.2.1] at hr'
    exact ⟨r', hr', heq⟩
  keys key _ n hn hkey := by
    rw [h.tables.1] at hn
    exact ⟨n, hn, hkey⟩

/-! ## The tables after a step -/

theorem Kept.agrees {r r' : SubscriptionRow} {s : BillingPricingSnapshot} (h : Kept r r')
    (ha : Agrees r s) : Agrees r' s where
  provider := h.provider.trans ha.provider
  plan := by rw [h.plan]; exact ha.plan
  cataloguePlan := h.cataloguePlan.trans ha.cataloguePlan
  billingInterval := h.billingInterval.trans ha.billingInterval
  providerPlanId := h.providerPlanId.trans ha.providerPlanId

theorem Sold.mono {r r' : SubscriptionRow} (hsub : db.snapshots ⊆ db'.snapshots) (h : Kept r r')
    (hsold : Sold runtime db r) : Sold runtime db' r' := by
  obtain ⟨snap, hsnap, hlocked, s, hs, hkey, hagrees⟩ := hsold
  exact ⟨snap, hsub hsnap, h.locked.trans hlocked, s, hs, hkey, h.agrees hagrees⟩

theorem rowAgrees_iff {r : SubscriptionRow} {s : BillingPricingSnapshot} (h : rowAgrees r s = true) :
    Agrees r s := by
  simp only [rowAgrees, Bool.and_eq_true, decide_eq_true_eq] at h
  obtain ⟨⟨⟨⟨⟨-, hprovider⟩, hplan⟩, hcat⟩, hint⟩, hpp⟩ := h
  exact ⟨hprovider, hplan, hcat, hint, hpp⟩

theorem verifyLock_sold {snapshots : List SnapshotRow} {row : SubscriptionRow}
    {stored : StoredSnapshot} (h : verifyLock runtime snapshots row = .ok stored) :
    ∃ snap ∈ snapshots, row.lockedPricingSnapshotId = some snap.id ∧
      fromSnapshotRow runtime snap = .ok stored ∧ Agrees row stored.snapshot := by
  unfold verifyLock at h
  split at h
  · cases h
  rename_i id hid
  split at h
  · cases h
  · cases h
  rename_i stored' hfind
  obtain ⟨snap, hsnap, hsid, hfrom⟩ := findSnapshotById_some hfind
  split at h
  · cases h
  rename_i s hs
  split at h
  · cases h
  split at h
  · rename_i hagrees
    cases h
    have hverified := (fromSnapshotRow_ok hfrom).2.2.1
    have hidem := verifyPricingSnapshot_idem hverified
    rw [hidem] at hs
    cases hs
    exact ⟨snap, hsnap, by rw [hid, hsid], hfrom, rowAgrees_iff hagrees⟩
  · cases h

/-- What a committed sale adds: the row is sold under a snapshot of the new tables that carries the
    key of a candidate priced from an epoch active now. -/
theorem sale_committed {call : CheckoutCall} {row : SubscriptionRow} {new : Option SnapshotRow}
    {epochId : Option Uuid} {stored : StoredSnapshot} (hstage : call.stage = .verifying row new true epochId)
    (hcall : SaleStage runtime mode db call)
    (hverified : verifyLock runtime (db.snapshots ++ new.toList) row = .ok stored) :
    Sold runtime (commitSale db row new) row ∧ row.userId = call.userId ∧
      (∀ n, new = some n → row.lockedPricingSnapshotId = some n.id ∧
        ∀ r ∈ db.snapshots, r.idempotencyKey ≠ n.idempotencyKey) ∧
      ∀ r ∈ db.subscriptions, r.userId ≠ row.userId := by
  unfold SaleStage at hcall
  rw [hstage] at hcall
  obtain ⟨hnone, id, plan, persisted, epoch, hrow, -, candidate, s, -, -, -, hnew⟩ := hcall
  have huser : row.userId = call.userId := by rw [hrow]; rfl
  obtain ⟨snap, hsnap, hlocked, hfrom, hagrees⟩ := verifyLock_sold hverified
  obtain ⟨-, -, hs, hkey⟩ := fromSnapshotRow_ok hfrom
  refine ⟨⟨snap, hsnap, hlocked, stored.snapshot, hs, hkey, hagrees⟩, huser, ?_, ?_⟩
  · rintro n rfl
    refine ⟨?_, hnew.2⟩
    rw [hrow, ← (fromSnapshotRow_ok hnew.1).1]
    rfl
  · intro r hr
    rw [huser]
    exact hnone r hr

theorem salesOk_update {g : SubscriptionRow → SubscriptionRow} (hok : SalesOk runtime db)
    (hkept : ∀ r, Kept r (g r)) (hlegacy : ∀ r, r.provider = none → g r = r)
    (hplans : db'.plans = db.plans) (hsnap : db'.snapshots = db.snapshots)
    (hsub : db'.subscriptions = db.subscriptions.map g) : SalesOk runtime db' where
  plans := hplans ▸ hok.plans
  snapshots := hsnap ▸ hok.snapshots
  snapshotKeys := hsnap ▸ hok.snapshotKeys
  subscriptions := by
    rw [hsub]
    exact Rows.nodup_map_map hok.subscriptions fun r _ => (hkept r).id
  subscribers := by
    rw [hsub]
    exact Rows.nodup_map_map hok.subscribers fun r _ => (hkept r).userId
  sold r' hr' hp := by
    rw [hsub] at hr'
    obtain ⟨r, hr, rfl⟩ := List.mem_map.mp hr'
    rw [(hkept r).provider] at hp
    exact (hok.sold r hr hp).mono (by rw [hsnap]; exact List.Subset.refl _) (hkept r)
  legacy r' hr' hp := by
    rw [hsub] at hr'
    obtain ⟨r, hr, rfl⟩ := List.mem_map.mp hr'
    rw [(hkept r).provider] at hp
    rw [hlegacy r hp]
    exact hok.legacy r hr hp
  owned snap hs := by
    rw [hsnap] at hs
    obtain ⟨r, hr, hlocked⟩ := hok.owned snap hs
    refine ⟨g r, ?_, (hkept r).locked.trans hlocked⟩
    rw [hsub]
    exact List.mem_map_of_mem hr

theorem salesOk_sale {call : CheckoutCall} {row : SubscriptionRow} {new : Option SnapshotRow}
    {epochId : Option Uuid} {stored : StoredSnapshot} (hok : SalesOk runtime db)
    (hstage : call.stage = .verifying row new true epochId) (hcall : SaleStage runtime mode db call)
    (hverified : verifyLock runtime (db.snapshots ++ new.toList) row = .ok stored)
    (hfree : saleIdsFree db row new = true) : SalesOk runtime (commitSale db row new) := by
  obtain ⟨hsold, -, hnew, huser⟩ := sale_committed hstage hcall hverified
  simp only [saleIdsFree, Bool.and_eq_true, Bool.not_eq_true', List.any_eq_false,
    decide_eq_true_eq, Option.all_eq_true] at hfree
  obtain ⟨hrowid, hnewid⟩ := hfree
  exact {
    plans := hok.plans
    snapshots := Rows.nodup_map_append_option hok.snapshots fun n hn => hnewid n hn
    snapshotKeys := Rows.nodup_map_append_option hok.snapshotKeys fun n hn => (hnew n hn).2
    subscriptions := Rows.nodup_map_concat hok.subscriptions hrowid
    subscribers := Rows.nodup_map_concat hok.subscribers huser
    sold := by
      intro r hr hp
      rcases List.mem_append.mp hr with hr | hr
      · exact (hok.sold r hr hp).mono (List.subset_append_left _ _) .rfl
      · rw [List.mem_singleton.mp hr]
        exact hsold
    legacy := by
      intro r hr hp
      rcases List.mem_append.mp hr with hr | hr
      · exact hok.legacy r hr hp
      · obtain ⟨_, _, _, _, _, _, hagrees⟩ := hsold
        rw [List.mem_singleton.mp hr, hagrees.provider] at hp
        cases hp
    owned := by
      intro snap hs
      rcases List.mem_append.mp hs with hs | hs
      · obtain ⟨r, hr, hlocked⟩ := hok.owned snap hs
        exact ⟨r, List.mem_append_left _ hr, hlocked⟩
      · refine ⟨row, List.mem_append_right _ List.mem_cons_self, ?_⟩
        exact (hnew snap (Option.mem_toList.mp hs)).1 }

theorem Wrote.salesOk {t t' : BillingTask} (h : Wrote runtime mode input db held t db' t')
    (ht : SaleTask runtime mode ⟨db, 0, [], []⟩ t) (hok : SalesOk runtime db) :
    SalesOk runtime db' := by
  cases h with
  | sale call row new epochId stored hstage hverified hfree =>
    exact salesOk_sale hok hstage ht hverified hfree
  | sync call row plan claimed readAt =>
    refine salesOk_update hok (fun r => ?_) (fun r hp => ?_) rfl rfl rfl
    · split
      · exact kept_moveRow r plan _ _
      · exact .rfl
    · simp [movable, hp]
  | code call subscriptionId userId code =>
    refine salesOk_update hok (fun r => kept_bindCode r subscriptionId userId code) (fun r hp => ?_)
      rfl rfl rfl
    simp [bindable, hp]
  | _ =>
    exact ⟨hok.plans, hok.snapshots, hok.snapshotKeys, hok.subscriptions, hok.subscribers, hok.sold,
      hok.legacy, hok.owned⟩

theorem Outside.salesOk (h : Outside held db db') (hok : SalesOk runtime db) :
    SalesOk runtime db' := by
  obtain ⟨hsnap, hsub, -⟩ := h.tables
  have hplans : (db'.plans.map (·.id)).Nodup := by
    cases h with
    | fxVersion row =>
      unfold recordFxVersion
      split <;> exact hok.plans
    | register row =>
      unfold registerPlan
      split
      · exact hok.plans
      rename_i hfree
      push Not at hfree
      have hany := hfree.2.2.2
      simp only [ne_eq, Bool.not_eq_true, List.any_eq_false, Bool.or_eq_true, not_or,
        decide_eq_true_eq] at hany
      exact Rows.nodup_map_concat hok.plans fun p hp => (hany p hp).1
    | retire id =>
      unfold retirePlan
      split
      · exact hok.plans
      · refine Rows.nodup_map_map hok.plans fun p _ => ?_
        split <;> rfl
    | customer row =>
      unfold provisionCustomer
      repeat' split
      all_goals exact hok.plans
  have hsold : ∀ r, Sold runtime db r → Sold runtime db' r := by
    intro r hr
    exact hr.mono (by rw [hsnap]; exact List.Subset.refl _) .rfl
  exact {
    plans := hplans
    snapshots := hsnap ▸ hok.snapshots
    snapshotKeys := hsnap ▸ hok.snapshotKeys
    subscriptions := hsub ▸ hok.subscriptions
    subscribers := hsub ▸ hok.subscribers
    sold := fun r hr hp => hsold r (hok.sold r (hsub ▸ hr) hp)
    legacy := fun r hr hp => hok.legacy r (hsub ▸ hr) hp
    owned := by
      intro snap hs
      rw [hsnap] at hs
      rw [hsub]
      exact hok.owned snap hs }

/-! ## The system -/

theorem saleTask_next {d : BillingData} {db : BillingTables} {t : BillingTask}
    (h : SaleTask runtime mode d t) (hdb : d.db = db) : SaleTask runtime mode ⟨db, 0, [], []⟩ t := by
  cases t with
  | checkout call =>
    rw [← hdb]
    exact h
  | _ => trivial

theorem taskStep_saleTask (d : BillingData) (others : List BillingTask) {t : BillingTask}
    (hok : SalesOk runtime d.db) (h : SaleTask runtime mode d t) :
    SaleTask runtime mode (taskStep runtime mode input order d others t).1
      (taskStep runtime mode input order d others t).2 := by
  cases t with
  | checkout call =>
    show SaleStage runtime mode (checkoutStep runtime mode input d.db (heldBy others) call).1
      { call with stage := (checkoutStep runtime mode input d.db (heldBy others) call).2 }
    rcases checkoutStep_wrote call with hsame | ⟨row, new, epochId, stored, hstage, -, -, hwrote⟩
    · rw [hsame]
      exact checkoutStep_stage hok.plans h
    · rw [hwrote]
      trivial
  | _ => trivial

/-- **Step lemma.** -/
theorem billingStep_sales (s : BillingState) (a : BillingAction) (h : SalesSafe runtime mode s) :
    SalesSafe runtime mode (billingStep runtime mode s a) := by
  have hexclusive : Exclusive s := ⟨trivial, fun _ _ => trivial, h.pair⟩
  have hnext := (@billingStep_exclusive runtime mode s a hexclusive).pair
  suffices hsafe : Pool.Safe (fun d => SalesOk runtime d.db) (SaleTask runtime mode)
      (fun _ _ => True) (billingStep runtime mode s a) from ⟨hsafe.shared, hsafe.task, hnext⟩
  refine billingStep_safe (K := fun _ _ => True) ⟨h.shared, h.task, fun _ _ _ _ _ _ _ => trivial⟩
    a ?_ ?_ ?_ ?_
  · intro t hstarted
    refine ⟨?_, fun _ _ => ⟨trivial, trivial⟩⟩
    cases t with
    | checkout call =>
      have hstage := congrArg CheckoutCall.stage hstarted
      unfold SaleTask SaleStage
      dsimp only
      rw [hstage]
      unfold startCheckout
      dsimp only
      split <;> first | trivial | (rename_i heq; split at heq <;> cases heq)
    | _ => trivial
  · rintro w input order t r - ht rfl
    have hwrote := @taskStep_wrote runtime mode input order s.shared (s.others w) t
    have hknows := saleTask_next (h.task t (List.mem_of_getElem? ht)) rfl
    refine ⟨hwrote.salesOk hknows h.shared,
      taskStep_saleTask s.shared (s.others w) h.shared (h.task t (List.mem_of_getElem? ht)), ?_⟩
    intro t' ht'
    refine ⟨?_, trivial, trivial⟩
    obtain ⟨hJ, hapart, -⟩ := h.other ht ht'
    cases t' with
    | checkout call => exact saleStage_stable (hwrote.undisturbed hknows hapart) hJ
    | _ => trivial
  · intro w t ht
    refine ⟨?_, fun _ _ => ⟨trivial, trivial⟩⟩
    cases t with
    | checkout call =>
      obtain ⟨stage, heq, ⟨reference, rfl⟩ | ⟨reason, rfl⟩⟩ := failTask_checkout call
      · rw [heq]
        trivial
      · rw [heq]
        trivial
    | _ => trivial
  · intro db' hout
    refine ⟨hout.salesOk h.shared, fun t ht => ?_⟩
    cases t with
    | checkout call =>
      refine saleStage_stable (hout.undisturbed fun l hl => ?_) (h.task _ ht)
      exact List.mem_flatMap.mpr ⟨_, ht, hl⟩
    | _ => trivial

theorem initial_sales {s : BillingState} (h : Initial s) : SalesSafe runtime mode s where
  shared := {
    plans := h.plans
    snapshots := by simp [h.snapshots]
    snapshotKeys := by simp [h.snapshots]
    subscriptions := h.subscriptions
    subscribers := h.subscribers
    sold := fun r hr hp => absurd (h.legacy r hr).provider hp
    legacy := fun r hr _ => h.legacy r hr
    owned := by simp [h.snapshots] }
  task := by simp [h.tasks]
  pair := by simp [h.tasks]

theorem sales_of_reached {s t : BillingState} {as : List BillingAction} (h : Initial s)
    (ht : Runs.Reached (billingStep runtime mode) s as t) : SalesSafe runtime mode t :=
  Runs.inv_of_reached_always _ billingStep_sales (initial_sales h) ht

/-! ## One locked price or nothing -/

/-- What a state must satisfy. -/
structure OnePrice (runtime : BillingRuntime) (db : BillingTables) : Prop where
  one : ∀ userId, (db.subscriptions.filter fun r => r.userId = userId).length ≤ 1
  sold : ∀ r ∈ db.subscriptions, r.provider ≠ none → Sold runtime db r
  noOrphan : ∀ snap ∈ db.snapshots, ∃ r ∈ db.subscriptions, r.lockedPricingSnapshotId = some snap.id

/-- The row is locked to the price of an epoch that is active. -/
def SoldFromActive (runtime : BillingRuntime) (mode : BillingProviderMode) (db : BillingTables)
    (r : SubscriptionRow) (epochId : Uuid) : Prop :=
  ∃ candidate s, PricedFrom mode db epochId candidate ∧ verifyPricingSnapshot candidate = .ok s ∧
    ∃ snap ∈ db.snapshots, r.lockedPricingSnapshotId = some snap.id ∧
      snap.idempotencyKey = pricingIdempotencyKey runtime s

theorem SalesOk.onePrice (h : SalesOk runtime db) : OnePrice runtime db where
  one := Rows.filter_key_length h.subscribers
  sold := h.sold
  noOrphan := h.owned

theorem Wrote.sold {t t' : BillingTask} (h : Wrote runtime mode input db held t db' t')
    (ht : SaleTask runtime mode ⟨db, 0, [], []⟩ t) {r : SubscriptionRow}
    (hr : r ∈ db'.subscriptions) (hnew : ∀ r' ∈ db.subscriptions, r'.id ≠ r.id) :
    ∃ call new epochId, t = .checkout call ∧ call.stage = .verifying r new true (some epochId) ∧
      r.userId = call.userId ∧ r.provider = some .paystack ∧
      SoldFromActive runtime mode db' r epochId := by
  have absent : ∀ {r'}, r' ∈ db.subscriptions → Kept r' r → False :=
    fun hr' hkept => hnew _ hr' hkept.id.symm
  rcases h.subscription hr with ⟨r', hr', hkept⟩ | ⟨call, new, epochId, rfl, hstage⟩
  · exact (absent hr' hkept).elim
  have hcall := ht
  unfold SaleTask SaleStage at hcall
  dsimp only at hcall
  rw [hstage] at hcall
  obtain ⟨-, id, plan, persisted, epoch, hrow, rfl, candidate, s, hpriced, hs, hkey, hpersisted⟩ :=
    hcall
  refine ⟨call, new, epoch, rfl, hstage, by rw [hrow]; rfl, by rw [hrow]; rfl, ?_⟩
  cases h with
  | sale _ row new' epochId' stored hstage' hverified =>
    rw [hstage] at hstage'
    cases hstage'
    have hplans : PricedFrom mode (commitSale db r new) epoch candidate := hpriced
    refine ⟨candidate, s, hplans, hs, ?_⟩
    cases new with
    | none =>
      obtain ⟨snap, hsnap, hfrom⟩ := hpersisted
      obtain ⟨hid, hsnapkey, -⟩ := fromSnapshotRow_ok hfrom
      refine ⟨snap, List.mem_append_left _ hsnap, ?_, hsnapkey.symm.trans hkey⟩
      rw [hrow, ← hid]
      rfl
    | some n =>
      obtain ⟨hid, hsnapkey, -⟩ := fromSnapshotRow_ok hpersisted.1
      refine ⟨n, List.mem_append_right _ List.mem_cons_self, ?_, hsnapkey.symm.trans hkey⟩
      rw [hrow, ← hid]
      rfl
  | nothing => exact (absent hr .rfl).elim

/-- **Checkout sells one locked price or nothing.** In every reachable state each user has at most
    one subscription, every subscription sold through the provider is locked to a persisted snapshot
    that verifies and agrees with it, and every snapshot is locked by a subscription.  A step that
    creates a subscription commits the checkout of that user, whose epoch is active at the commit. -/
theorem checkout_sells_one_locked_price (runtime : BillingRuntime) (mode : BillingProviderMode)
    {s : BillingState} (hs : Initial s) (as : List BillingAction) :
    (∀ t, Runs.Reached (billingStep runtime mode) s as t → OnePrice runtime t.shared.db) ∧
      ∀ pre a, pre ++ [a] <+: as →
        ∀ r ∈ (Runs.run (billingStep runtime mode) s (pre ++ [a])).shared.db.subscriptions,
          (∀ r' ∈ (Runs.run (billingStep runtime mode) s pre).shared.db.subscriptions,
            r'.id ≠ r.id) →
          ∃ w input order call new epochId, a = .advance w input order ∧
            (Runs.run (billingStep runtime mode) s pre).tasks[w]? = some (.checkout call) ∧
            call.stage = .verifying r new true (some epochId) ∧ r.userId = call.userId ∧
            r.provider = some .paystack ∧
            SoldFromActive runtime mode
              (Runs.run (billingStep runtime mode) s (pre ++ [a])).shared.db r epochId := by
  refine ⟨fun t ht => (sales_of_reached hs ht).shared.onePrice, ?_⟩
  intro pre a hpre r hr hnew
  have hsafe : SalesSafe runtime mode (Runs.run (billingStep runtime mode) s pre) :=
    sales_of_reached hs (Runs.reached_last _ s pre)
  rw [Runs.run_append] at hr ⊢
  set u := Runs.run (billingStep runtime mode) s pre with hu
  have hself : ∀ r' ∈ u.shared.db.subscriptions, r' = r → False :=
    fun r' hr' heq => hnew r' hr' (congrArg _ heq)
  change r ∈ (billingStep runtime mode u a).shared.db.subscriptions at hr
  show ∃ w input order call new epochId, _ ∧ _ ∧ _ ∧ _ ∧ _ ∧
    SoldFromActive runtime mode (billingStep runtime mode u a).shared.db r epochId
  have outside : ∀ db', Outside (heldBy u.tasks) u.shared.db db' → r ∈ db'.subscriptions → False := by
    intro db' hout hr'
    rw [hout.tables.2.1] at hr'
    exact hself r hr' rfl
  cases a with
  | start task =>
    have hsame : (billingStep runtime mode u (.start task)).shared = u.shared := by
      show (if task.Started then u.spawn task else u).shared = u.shared
      split <;> rfl
    rw [hsame] at hr
    exact (hself r hr rfl).elim
  | advance w input order =>
    change r ∈ (u.advance (taskStep runtime mode input order) w).shared.db.subscriptions at hr
    show ∃ w' input' order' call new epochId, _ ∧ _ ∧ _ ∧ _ ∧ _ ∧ SoldFromActive runtime mode
      (u.advance (taskStep runtime mode input order) w).shared.db r epochId
    cases hw : u.tasks[w]? with
    | none =>
      rw [Pool.advance_of_none hw] at hr
      exact (hself r hr rfl).elim
    | some t =>
      rw [Pool.advance_of_get hw] at hr ⊢
      obtain ⟨call, new, epochId, rfl, hstage, huser, hprovider, hsold⟩ :=
        (taskStep_wrote u.shared (u.others w) t).sold
          (saleTask_next (hsafe.task t (List.mem_of_getElem? hw)) rfl) hr hnew
      exact ⟨w, input, order, call, new, epochId, rfl, hw, hstage, huser, hprovider, hsold⟩
  | fail w =>
    change r ∈ (u.advance (fun d _ t => (d, failTask t)) w).shared.db.subscriptions at hr
    cases hw : u.tasks[w]? with
    | none =>
      rw [Pool.advance_of_none hw] at hr
      exact (hself r hr rfl).elim
    | some t =>
      rw [Pool.advance_of_get hw] at hr
      exact (hself r hr rfl).elim
  | recordFxVersion row => exact (outside _ (.fxVersion row) hr).elim
  | registerPlan row => exact (outside _ (.register row) hr).elim
  | retirePlan id => exact (outside _ (.retire id) hr).elim
  | provisionCustomer row => exact (outside _ (.customer row) hr).elim

/-- The run of one sale. -/
theorem checkout_sells_one_locked_price_sale :
    (∀ t, Runs.Reached (billingStep sampleRuntime .test) sampleState sampleSale t →
        OnePrice sampleRuntime t.shared.db) ∧
      (Runs.run (billingStep sampleRuntime .test) sampleState sampleSale).shared.db.subscriptions.map
        (·.userId) = [idOf 1] :=
  ⟨(checkout_sells_one_locked_price sampleRuntime .test sampleState_initial sampleSale).1, by
    rw [run_sampleSale]
    rfl⟩

end VeltrixEye.Billing
