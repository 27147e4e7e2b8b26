import VeltrixEye.Billing.Sales

/-!
# Paid entitlement only from verified payment

* `Backed` — an activation whose evidence is a successful payment of exactly the locked snapshot's
  amount, by the same user, under the derived reference.
* `AuthorityOk` — every activation is backed; each subscription and each evidence row has one.
* `PaidOnly` — paid entitlements come from an activation.
-/

namespace VeltrixEye.Billing

/-! ## Backed activations -/

/-- The evidence is a successful payment of exactly the snapshot's amount for the subscription. -/
structure Pays (runtime : BillingRuntime) (mode : BillingProviderMode) (e : EvidenceRow)
    (userId subscriptionId : Uuid) (snap : SnapshotRow) : Prop where
  user : e.userId = userId
  subscription : e.subscriptionId = subscriptionId
  snapshot : e.pricingSnapshotId = snap.id
  status : e.providerStatus = "success"
  domain : e.providerDomain = mode
  reference : e.providerReference = billingCheckoutReference runtime userId snap.idempotencyKey
  currency : e.paymentCurrency = snap.snapshot.payment.paymentCurrency
  amount : e.paymentAmountMinor = snap.snapshot.payment.paymentAmountMinor
  exponent : e.paymentAmountExponent = snap.snapshot.payment.paymentAmountExponent

/-- The fact activates its user's provider-backed subscription for a payment of its locked snapshot. -/
def Backed (runtime : BillingRuntime) (mode : BillingProviderMode) (db : BillingTables)
    (fact : ActivationRow) : Prop :=
  ∃ r ∈ db.subscriptions, r.id = fact.subscriptionId ∧ r.userId = fact.userId ∧
    r.provider = some .paystack ∧ r.lockedPricingSnapshotId = some fact.pricingSnapshotId ∧
    ∃ snap ∈ db.snapshots, snap.id = fact.pricingSnapshotId ∧
      ∃ e ∈ db.transactions, e.id = fact.evidenceId ∧
        Pays runtime mode e fact.userId fact.subscriptionId snap

structure AuthorityOk (runtime : BillingRuntime) (mode : BillingProviderMode) (db : BillingTables) :
    Prop where
  transactions : (db.transactions.map (·.id)).Nodup
  subscriptions : (db.activations.map (·.subscriptionId)).Nodup
  evidence : (db.activations.map (·.evidenceId)).Nodup
  backed : ∀ a ∈ db.activations, Backed runtime mode db a

/-! ## The stages of an activation -/

/-- The row was read from the table for its user. -/
def KnownRow (db : BillingTables) (userId : Uuid) (row : SubscriptionRow) : Prop :=
  row.userId = userId ∧ ∃ r ∈ db.subscriptions, Kept row r

/-- The stored snapshot is the verified form of a row of the table. -/
def KnownSnapshot (db : BillingTables) (stored : StoredSnapshot) : Prop :=
  ∃ snap ∈ db.snapshots, snap.id = stored.id ∧ snap.idempotencyKey = stored.idempotencyKey ∧
    verifyPricingSnapshot snap.snapshot = .ok stored.snapshot

/-- A locked row with its snapshot. -/
structure Priced (db : BillingTables) (userId : Uuid) (row : SubscriptionRow)
    (stored : StoredSnapshot) : Prop where
  known : KnownRow db userId row
  provider : row.provider = some .paystack
  locked : row.lockedPricingSnapshotId = some stored.id
  snapshot : KnownSnapshot db stored

/-- The located evidence. -/
structure Located (mode : BillingProviderMode) (db : BillingTables) (row : SubscriptionRow)
    (stored : StoredSnapshot) (e : EvidenceRow) : Prop where
  mem : e ∈ db.transactions
  subscription : e.subscriptionId = row.id
  snapshot : e.pricingSnapshotId = stored.id
  domain : e.providerDomain = mode
  status : e.providerStatus = "success"

/-- What an activation knows at its stage. -/
def ActivateKnows (runtime : BillingRuntime) (mode : BillingProviderMode) (db : BillingTables) :
    ActivateStage → Prop
  | .replaying user row => KnownRow db user.id row
  | .pricing user row snapshotId =>
    KnownRow db user.id row ∧ row.lockedPricingSnapshotId = some snapshotId
  | .locatingEvidence user row stored => Priced db user.id row stored
  | .reconciling user row stored e => Priced db user.id row stored ∧ Located mode db row stored e
  | .inserting user row stored e =>
    Priced db user.id row stored ∧ Located mode db row stored e ∧
      ∃ customer, Reconciled runtime (evidenceFacts e) (expectedReference runtime user.id stored)
        stored.snapshot customer mode
  | .committing fact => Backed runtime mode db fact
  | _ => True

def AuthorityTask (runtime : BillingRuntime) (mode : BillingProviderMode) (d : BillingData) :
    BillingTask → Prop
  | .activate call => ActivateKnows runtime mode d.db call.stage
  | _ => True

variable {runtime : BillingRuntime} {mode : BillingProviderMode} {input : StepInput}
  {order : ScanOrder} {db db' : BillingTables} {held : List Lock}

/-! ## What is known stays known -/

theorem Backed.mono {fact : ActivationRow} (hext : Extends db db') (h : Backed runtime mode db fact) :
    Backed runtime mode db' fact := by
  obtain ⟨r, hr, hid, huser, hprovider, hlocked, snap, hsnap, hsid, e, he, heid, hpays⟩ := h
  obtain ⟨r', hr', hkept⟩ := hext.subscriptions r hr
  exact ⟨r', hr', hkept.id.trans hid, hkept.userId.trans huser, hkept.provider.trans hprovider,
    hkept.locked.trans hlocked, snap, hext.snapshots hsnap, hsid, e, hext.transactions he, heid, hpays⟩

theorem KnownRow.mono {userId : Uuid} {row : SubscriptionRow} (hext : Extends db db')
    (h : KnownRow db userId row) : KnownRow db' userId row := by
  obtain ⟨huser, r, hr, hkept⟩ := h
  obtain ⟨r', hr', hkept'⟩ := hext.subscriptions r hr
  exact ⟨huser, r', hr', hkept.trans hkept'⟩

theorem KnownSnapshot.mono {stored : StoredSnapshot} (hext : Extends db db')
    (h : KnownSnapshot db stored) : KnownSnapshot db' stored := by
  obtain ⟨snap, hsnap, h⟩ := h
  exact ⟨snap, hext.snapshots hsnap, h⟩

theorem Priced.mono {userId : Uuid} {row : SubscriptionRow} {stored : StoredSnapshot}
    (hext : Extends db db') (h : Priced db userId row stored) : Priced db' userId row stored :=
  ⟨h.known.mono hext, h.provider, h.locked, h.snapshot.mono hext⟩

theorem Located.mono {row : SubscriptionRow} {stored : StoredSnapshot} {e : EvidenceRow}
    (hext : Extends db db') (h : Located mode db row stored e) : Located mode db' row stored e :=
  ⟨hext.transactions h.mem, h.subscription, h.snapshot, h.domain, h.status⟩

theorem ActivateKnows.mono {stage : ActivateStage} (hext : Extends db db')
    (h : ActivateKnows runtime mode db stage) : ActivateKnows runtime mode db' stage := by
  cases stage with
  | replaying user row => exact KnownRow.mono hext h
  | pricing user row snapshotId => exact ⟨h.1.mono hext, h.2⟩
  | locatingEvidence user row stored => exact Priced.mono hext h
  | reconciling user row stored e => exact ⟨h.1.mono hext, h.2.mono hext⟩
  | inserting user row stored e => exact ⟨h.1.mono hext, h.2.1.mono hext, h.2.2⟩
  | committing fact => exact Backed.mono hext h
  | _ => trivial

/-! ## The own step -/

theorem subscriptionOf_some {userId : Uuid} {row : SubscriptionRow}
    (h : db.subscriptionOf userId = some row) : row ∈ db.subscriptions ∧ row.userId = userId :=
  ⟨List.mem_of_find?_eq_some h, by simpa using List.find?_some h⟩

theorem activatableSnapshot_ok {row : SubscriptionRow} {snapshotId : Uuid} {stored : StoredSnapshot}
    (h : activatableSnapshot runtime db row snapshotId = .ok stored) :
    stored.id = snapshotId ∧ KnownSnapshot db stored ∧ row.provider = some .paystack := by
  unfold activatableSnapshot at h
  split at h
  · cases h
  · cases h
  rename_i stored' hfind
  obtain ⟨snap, hsnap, hsid, hfrom⟩ := findSnapshotById_some hfind
  obtain ⟨hid, hkey, hverified, -⟩ := fromSnapshotRow_ok hfrom
  rw [verifyPricingSnapshot_idem hverified] at h
  dsimp only at h
  split at h
  · cases h
  split at h
  · rename_i hcoherent
    cases h
    simp only [subscriptionCoherent, Bool.and_eq_true, decide_eq_true_eq] at hcoherent
    exact ⟨hid.trans hsid, ⟨snap, hsnap, hid.symm, hkey.symm, hverified⟩, hcoherent.1.1.1.1⟩
  · cases h

theorem fromEvidenceRow_some {e e' : EvidenceRow} (h : fromEvidenceRow runtime e = some e') :
    e = e' := by
  unfold fromEvidenceRow at h
  split at h
  · exact Option.some.inj h
  · cases h

theorem locateEvidence_ok {evidenceId : Option Uuid} {subscriptionId snapshotId : Uuid}
    {e : EvidenceRow}
    (h : locateEvidence runtime mode db evidenceId subscriptionId snapshotId = .ok (some e)) :
    e ∈ db.transactions ∧ e.subscriptionId = subscriptionId ∧ e.pricingSnapshotId = snapshotId := by
  unfold locateEvidence at h
  split at h
  · split at h
    · cases h
    rename_i pinned hpinned
    split at h
    · cases h
    rename_i e' hfrom
    split at h
    · cases h
    rename_i hmatch
    cases h
    push Not at hmatch
    have hself := fromEvidenceRow_some hfrom
    subst hself
    exact ⟨List.mem_of_find?_eq_some hpinned, hmatch⟩
  · split at h
    · cases h
    rename_i e' hlast
    split at h
    · cases h
    rename_i e'' hfrom
    cases h
    have hself := fromEvidenceRow_some hfrom
    subst hself
    have hmem := List.mem_of_getLast? hlast
    simp only [List.mem_filter, Bool.and_eq_true, decide_eq_true_eq] at hmem
    exact ⟨hmem.1, hmem.2.1.1.1, hmem.2.1.1.2⟩

theorem backed_of_coherent (hids : (db.transactions.map (·.id)).Nodup) {user : UserRow}
    {row : SubscriptionRow} {stored : StoredSnapshot} {e : EvidenceRow}
    {customer : Option LocalCustomer} {id : Uuid} {request : ActivationRequest} {now : String}
    (hpriced : Priced db user.id row stored) (hlocated : Located mode db row stored e)
    (hreconciled : Reconciled runtime (evidenceFacts e) (expectedReference runtime user.id stored)
      stored.snapshot customer mode)
    (hcoherent : activationCoherent db (activationFact runtime id request now user row stored e) =
      true) :
    Backed runtime mode db (activationFact runtime id request now user row stored e) := by
  obtain ⟨huser, r, hr, hkept⟩ := hpriced.known
  obtain ⟨snap, hsnap, hsid, hskey, hverified⟩ := hpriced.snapshot
  have huserid : e.userId = user.id := by
    unfold activationCoherent at hcoherent
    split at hcoherent
    · cases hcoherent
    simp only [activationFact, Bool.and_eq_true] at hcoherent
    have hrest := hcoherent.2
    split at hrest
    · cases hrest
    simp only [Bool.and_eq_true] at hrest
    have hev := hrest.2
    split at hev
    · cases hev
    rename_i ev hfind
    have hhit := List.find?_some hfind
    have hid : ev.id = e.id := of_decide_eq_true hhit
    have hsame := Rows.eq_of_key hids (List.mem_of_find?_eq_some hfind) hlocated.mem hid
    subst hsame
    simp only [Bool.and_eq_true] at hev
    exact of_decide_eq_true hev.1.1.1.1.1.1.1.1
  have hpayment : stored.snapshot.payment = snap.snapshot.payment := by
    rw [(verifyPricingSnapshot_ok.mp hverified).1]
    rfl
  refine ⟨r, hr, hkept.id, hkept.userId.trans huser, hkept.provider.trans hpriced.provider,
    hkept.locked.trans hpriced.locked, snap, hsnap, hsid, e, hlocated.mem, rfl, ?_⟩
  exact {
    user := huserid
    subscription := hlocated.subscription
    snapshot := hlocated.snapshot.trans hsid.symm
    status := hlocated.status
    domain := hlocated.domain
    reference := by
      rw [hskey]
      exact hreconciled.reference
    currency := by
      rw [← hpayment]
      exact hreconciled.currency
    amount := by
      rw [← hpayment]
      exact hreconciled.amount
    exponent := by
      rw [← hpayment]
      exact hreconciled.exponent }

theorem activateStep_knows {call : ActivateCall} (hids : (db.transactions.map (·.id)).Nodup)
    (h : ActivateKnows runtime mode db call.stage) :
    ActivateKnows runtime mode db (activateStep runtime mode input db held call).2 := by
  unfold activateStep
  cases hstage : call.stage with
  | locking user =>
    rw [hstage] at h
    dsimp only
    split
    · trivial
    rename_i row hrow
    split
    · trivial
    · exact ⟨(subscriptionOf_some hrow).2, row, (subscriptionOf_some hrow).1, .rfl⟩
  | replaying user row =>
    rw [hstage] at h
    dsimp only
    split
    · split <;> trivial
    split
    · trivial
    · rename_i snapshotId hlocked
      exact ⟨h, hlocked⟩
  | pricing user row snapshotId =>
    rw [hstage] at h
    dsimp only
    split
    · trivial
    · rename_i stored hstored
      obtain ⟨hid, hknown, hprovider⟩ := activatableSnapshot_ok hstored
      exact ⟨h.1, hprovider, by rw [h.2, hid], hknown⟩
  | locatingEvidence user row stored =>
    rw [hstage] at h
    dsimp only
    split
    · trivial
    · trivial
    rename_i e hlocate
    obtain ⟨hmem, hsub, hsnap⟩ := locateEvidence_ok hlocate
    split
    · trivial
    · rename_i hdomain
      push Not at hdomain
      exact ⟨h, hmem, hsub, hsnap, hdomain.1, hdomain.2⟩
  | reconciling user row stored e =>
    rw [hstage] at h
    dsimp only
    split
    · trivial
    · rename_i hreconcile
      exact ⟨h.1, h.2, _, reconcile_ok.mp hreconcile⟩
  | inserting user row stored e =>
    rw [hstage] at h
    dsimp only
    split
    · split
      · split <;> trivial
      · trivial
    split
    · trivial
    rename_i hcoherent
    split
    · exact h
    split
    · trivial
    · obtain ⟨hpriced, hlocated, customer, hreconciled⟩ := h
      exact backed_of_coherent hids hpriced hlocated hreconciled (by simpa using hcoherent)
  | committing fact =>
    dsimp only
    split <;> trivial
  | _ =>
    dsimp only
    all_goals repeat' split
    all_goals trivial

/-! ## The tables after a step -/

theorem authorityOk_frame (hext : Extends db db') (htrans : db'.transactions = db.transactions)
    (hact : db'.activations = db.activations) (h : AuthorityOk runtime mode db) :
    AuthorityOk runtime mode db' where
  transactions := htrans ▸ h.transactions
  subscriptions := hact ▸ h.subscriptions
  evidence := hact ▸ h.evidence
  backed a ha := (h.backed a (hact ▸ ha)).mono hext

theorem Wrote.authorityOk {t t' : BillingTask} (h : Wrote runtime mode input db held t db' t')
    (ht : AuthorityTask runtime mode ⟨db, 0, [], []⟩ t) (hok : AuthorityOk runtime mode db) :
    AuthorityOk runtime mode db' := by
  have hext := h.extends
  cases h with
  | evidence call row stored customer observed verifiedAt e hstage he hfresh =>
    exact {
      transactions := Rows.nodup_map_concat hok.transactions fun e' he' => (hfresh e' he').1
      subscriptions := hok.subscriptions
      evidence := hok.evidence
      backed := fun a ha => (hok.backed a ha).mono hext }
  | activation call fact hstage hfresh =>
    have hbacked : Backed runtime mode db fact := by
      unfold AuthorityTask at ht
      dsimp only at ht
      rw [hstage] at ht
      exact ht
    exact {
      transactions := hok.transactions
      subscriptions := Rows.nodup_map_concat hok.subscriptions fun a ha => (hfresh a ha).2.1
      evidence := Rows.nodup_map_concat hok.evidence fun a ha => (hfresh a ha).2.2.1
      backed := by
        intro a ha
        rcases List.mem_append.mp ha with ha | ha
        · exact (hok.backed a ha).mono hext
        · rw [List.mem_singleton.mp ha]
          exact hbacked.mono hext }
  | _ => exact authorityOk_frame hext rfl rfl hok

abbrev AuthoritySafe (runtime : BillingRuntime) (mode : BillingProviderMode) (s : BillingState) :
    Prop :=
  Pool.Safe (fun d => AuthorityOk runtime mode d.db) (AuthorityTask runtime mode) (fun _ _ => True) s

/-- **Step lemma.** -/
theorem billingStep_authority (s : BillingState) (a : BillingAction)
    (h : AuthoritySafe runtime mode s) : AuthoritySafe runtime mode (billingStep runtime mode s a) := by
  refine billingStep_safe h a ?_ ?_ ?_ ?_
  · intro t hstarted
    refine ⟨?_, fun _ _ => ⟨trivial, trivial⟩⟩
    cases t with
    | activate call =>
      have hstage := congrArg ActivateCall.stage hstarted
      unfold AuthorityTask
      dsimp only
      rw [hstage]
      have hcases := startActivate_stage call.request
      generalize (startActivate call.request).stage = stage at hcases ⊢
      rcases hcases with rfl | rfl <;> exact True.intro
    | _ => trivial
  · rintro w input order t r - ht rfl
    have hJ := h.task t (List.mem_of_getElem? ht)
    have hwrote := @taskStep_wrote runtime mode input order s.shared (s.others w) t
    refine ⟨hwrote.authorityOk ?_ h.shared, ?_, ?_⟩
    · cases t <;> exact hJ
    · cases t with
      | activate call =>
        rcases @activateStep_wrote runtime mode input s.shared.db (heldBy (s.others w)) call with
          hsame | ⟨fact, hstage, -, hwrote⟩
        · show ActivateKnows runtime mode
            (activateStep runtime mode input s.shared.db (heldBy (s.others w)) call).1
            (activateStep runtime mode input s.shared.db (heldBy (s.others w)) call).2
          rw [hsame]
          exact activateStep_knows h.shared.transactions hJ
        · show ActivateKnows runtime mode _
            (activateStep runtime mode input s.shared.db (heldBy (s.others w)) call).2
          rw [hwrote]
          trivial
      | _ => trivial
    · intro t' ht'
      refine ⟨?_, trivial, trivial⟩
      have hJ' := (h.other ht ht').1
      cases t' with
      | activate call => exact ActivateKnows.mono hwrote.extends hJ'
      | _ => trivial
  · intro w t ht
    refine ⟨?_, fun _ _ => ⟨trivial, trivial⟩⟩
    cases t with
    | activate call =>
      unfold AuthorityTask failTask
      dsimp only
      split <;> trivial
    | _ => trivial
  · intro db' hout
    refine ⟨authorityOk_frame hout.extends hout.tables.2.2.1 hout.tables.2.2.2.1 h.shared, ?_⟩
    intro t ht
    have hJ := h.task t ht
    cases t with
    | activate call => exact ActivateKnows.mono hout.extends hJ
    | _ => trivial

theorem initial_authority {s : BillingState} (h : Initial s) : AuthoritySafe runtime mode s where
  shared := {
    transactions := by simp [h.transactions]
    subscriptions := by simp [h.activations]
    evidence := by simp [h.activations]
    backed := by simp [h.activations] }
  task := by simp [h.tasks]
  pair := by simp [h.tasks]

theorem authority_of_reached {s t : BillingState} {as : List BillingAction} (h : Initial s)
    (ht : Runs.Reached (billingStep runtime mode) s as t) : AuthoritySafe runtime mode t :=
  Runs.inv_of_reached_always _ billingStep_authority (initial_authority h) ht

/-! ## Paid authority -/

/-- What a state must satisfy. -/
structure PaidOnly (runtime : BillingRuntime) (mode : BillingProviderMode) (db : BillingTables) :
    Prop where
  paid : ∀ r ∈ db.subscriptions, ∀ provider, r.provider = some provider →
    db.entitlements r.userId none ≠ FREE_ENTITLEMENTS →
      ∃ fact ∈ db.activations, fact.subscriptionId = r.id ∧ fact.userId = r.userId ∧
        r.lockedPricingSnapshotId = some fact.pricingSnapshotId ∧
        ∃ snap ∈ db.snapshots, snap.id = fact.pricingSnapshotId ∧
          ∃ e ∈ db.transactions, e.id = fact.evidenceId ∧ Pays runtime mode e r.userId r.id snap
  subscriptions : (db.activations.map (·.subscriptionId)).Nodup
  evidence : (db.activations.map (·.evidenceId)).Nodup

theorem entitlements_of_mem (hsubscribers : (db.subscriptions.map (·.userId)).Nodup)
    {r : SubscriptionRow} (hr : r ∈ db.subscriptions) (grant : Option UserPlan) :
    db.entitlements r.userId grant =
      resolveEntitlements r.plan r.status r.provider (db.activated r.id) grant := by
  have hfind : db.subscriptionOf r.userId = some r := Rows.find?_key hsubscribers hr
  unfold BillingTables.entitlements
  rw [hfind]

theorem paidOnly_of_authority (hids : (db.subscriptions.map (·.id)).Nodup)
    (hsubscribers : (db.subscriptions.map (·.userId)).Nodup) (h : AuthorityOk runtime mode db) :
    PaidOnly runtime mode db where
  subscriptions := h.subscriptions
  evidence := h.evidence
  paid := by
    intro r hr provider hprovider hpaid
    rw [entitlements_of_mem hsubscribers hr, hprovider] at hpaid
    have hactivated := activated_of_resolve_ne_free hpaid
    simp only [BillingTables.activated, List.any_eq_true, decide_eq_true_eq] at hactivated
    obtain ⟨fact, hfact, hsub⟩ := hactivated
    obtain ⟨r', hr', hid, huser, -, hlocked, snap, hsnap, hsid, e, he, heid, hpays⟩ :=
      h.backed fact hfact
    have hsame : r' = r := Rows.eq_of_key hids hr' hr (hid.trans hsub)
    subst hsame
    refine ⟨fact, hfact, hsub, huser.symm, hlocked, snap, hsnap, hsid, e, he, heid, ?_⟩
    rw [huser, hid]
    exact hpays

/-! ## Refusals -/

/-- The call ended without what it was asked for. -/
def BillingTask.Refused : BillingTask → Prop
  | .checkout call => ∃ reason, call.stage = .refused reason
  | .confirm call => (∃ reason, call.stage = .refused reason) ∨ ∃ reason, call.stage = .unverified reason
  | .activate call => ∃ reason, call.stage = .refused reason
  | .grant call => ∃ reason, call.stage = .refused reason
  | .sync call => call.stage = .refused ∨ ∃ outcome, call.stage = .unapplied outcome
  | .receive call => ∃ reason, call.stage = .refused reason

/-- The call has committed a write of subscriptions, evidence or activations and has its result. -/
def BillingTask.Succeeded : BillingTask → Prop
  | .confirm call => ∃ e replayed, call.stage = .verified e replayed
  | .activate call => ∃ fact replayed, call.stage = .activated fact replayed
  | .sync call => ∃ id outcome readAt, call.stage = .applied id outcome readAt
  | .receive call => ∃ binding, call.stage = .received binding
  | _ => False

theorem BillingTask.Succeeded.not_refused {t : BillingTask} (h : t.Succeeded) : ¬t.Refused := by
  cases t with
  | confirm call =>
    obtain ⟨e, replayed, h⟩ := h
    simp [Refused, h]
  | activate call =>
    obtain ⟨fact, replayed, h⟩ := h
    simp [Refused, h]
  | sync call =>
    obtain ⟨id, outcome, readAt, h⟩ := h
    simp [Refused, h]
  | receive call =>
    obtain ⟨binding, h⟩ := h
    simp [Refused, h]
  | _ => exact h.elim

/-- The three tables a refusal must leave alone. -/
structure SameAuthority (db db' : BillingTables) : Prop where
  subscriptions : db'.subscriptions = db.subscriptions
  transactions : db'.transactions = db.transactions
  activations : db'.activations = db.activations

/-- The step of a checkout that commits its sale, and what it adds. -/
def SaleCommitted (t : BillingTask) (db db' : BillingTables) : Prop :=
  ∃ call row new epochId, t = .checkout call ∧ call.stage = .verifying row new true epochId ∧
    db'.subscriptions = db.subscriptions ++ [row] ∧ db'.transactions = db.transactions ∧
    db'.activations = db.activations

theorem Wrote.authority {t t' : BillingTask} (h : Wrote runtime mode input db held t db' t') :
    SameAuthority db db' ∨ SaleCommitted t db db' ∨ t'.Succeeded := by
  cases h with
  | nothing => exact .inl ⟨rfl, rfl, rfl⟩
  | sale call row new epochId stored hstage =>
    exact .inr (.inl ⟨call, row, new, epochId, rfl, hstage, rfl, rfl, rfl⟩)
  | evidence call row stored customer observed verifiedAt e => exact .inr (.inr ⟨e, false, rfl⟩)
  | activation call fact => exact .inr (.inr ⟨fact, false, rfl⟩)
  | grant => exact .inl ⟨rfl, rfl, rfl⟩
  | sync call row plan claimed readAt => exact .inr (.inr ⟨row.id, plan.outcome, readAt, rfl⟩)
  | event => exact .inl ⟨rfl, rfl, rfl⟩
  | code => exact .inr (.inr ⟨.bound, rfl⟩)

theorem taskStep_succeeded (d : BillingData) (others : List BillingTask) {t : BillingTask}
    (h : t.Succeeded) : (taskStep runtime mode input order d others t).2.Succeeded := by
  cases t with
  | confirm call =>
    obtain ⟨e, replayed, h⟩ := h
    refine ⟨e, replayed, ?_⟩
    simp [confirmStep, h]
  | activate call =>
    obtain ⟨fact, replayed, h⟩ := h
    refine ⟨fact, replayed, ?_⟩
    simp [activateStep, h]
  | sync call =>
    obtain ⟨id, outcome, readAt, h⟩ := h
    refine ⟨id, outcome, readAt, ?_⟩
    simp [syncStep, h]
  | receive call =>
    obtain ⟨binding, h⟩ := h
    refine ⟨binding, ?_⟩
    simp [receiveStep, h]
  | _ => exact h.elim

theorem failTask_succeeded {t : BillingTask} (h : t.Succeeded) : (failTask t).Succeeded := by
  cases t with
  | confirm call =>
    obtain ⟨e, replayed, h⟩ := h
    exact ⟨e, replayed, by simp [h]⟩
  | activate call =>
    obtain ⟨fact, replayed, h⟩ := h
    exact ⟨fact, replayed, by simp [h]⟩
  | sync call =>
    obtain ⟨id, outcome, readAt, h⟩ := h
    exact ⟨id, outcome, readAt, by simp [h]⟩
  | receive call =>
    obtain ⟨binding, h⟩ := h
    exact ⟨binding, by simp [h]⟩
  | _ => exact h.elim

/-- Task `w` has its result. -/
def SucceededAt (w : ℕ) (s : BillingState) : Prop := ∃ t, s.tasks[w]? = some t ∧ t.Succeeded

theorem advance_succeededAt {f : BillingData → List BillingTask → BillingTask → BillingData × BillingTask}
    (hf : ∀ d others t, t.Succeeded → (f d others t).2.Succeeded) {w : ℕ} {s : BillingState} (v : ℕ)
    (h : SucceededAt w s) : SucceededAt w (s.advance f v) := by
  obtain ⟨t, ht, hsucceeded⟩ := h
  cases hv : s.tasks[v]? with
  | none => exact ⟨t, by rwa [Pool.advance_of_none hv], hsucceeded⟩
  | some t' =>
    rw [Pool.advance_of_get hv]
    by_cases hvw : v = w
    · subst hvw
      rw [ht] at hv
      cases hv
      refine ⟨(f s.shared (s.others v) t).2, ?_, hf _ _ _ hsucceeded⟩
      have hlt := (List.getElem?_eq_some_iff.mp ht).1
      simp [hlt]
    · exact ⟨t, by simpa [List.getElem?_set_ne hvw] using ht, hsucceeded⟩

/-- **Step lemma.** -/
theorem billingStep_succeededAt {w : ℕ} (s : BillingState) (a : BillingAction) (h : SucceededAt w s) :
    SucceededAt w (billingStep runtime mode s a) := by
  cases a with
  | start task =>
    show SucceededAt w (if task.Started then s.spawn task else s)
    split
    · obtain ⟨t, ht, hsucceeded⟩ := h
      have hlt := (List.getElem?_eq_some_iff.mp ht).1
      exact ⟨t, by simpa [Pool.spawn, List.getElem?_append_left hlt] using ht, hsucceeded⟩
    · exact h
  | advance v input order =>
    exact advance_succeededAt (fun d others t ht => taskStep_succeeded d others ht) v h
  | fail v => exact advance_succeededAt (fun _ _ _ ht => failTask_succeeded ht) v h
  | _ => exact h

/-! ## Over runs -/

/-- Call 0 sells monthly Elite to user 2, who has no customer at the provider, and is refused. -/
def sampleUnprovisioned : List BillingAction :=
  .start (.checkout (startCheckout (idOf 2) .elite .monthly)) ::
    sampleSteps 0 10 (sampleInput 8 "2026-01-05T09:00:00.000Z" none)

end VeltrixEye.Billing
