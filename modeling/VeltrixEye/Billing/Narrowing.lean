import VeltrixEye.Billing.Authority

/-!
# A grant against the paid tier

* `PaidAtMost` — no subscription of the user confers a tier above a bound.
* `NarrowSafe` — every grant, committed or in flight, is at least the paid tier of its user.
* `CommitsBelowGrants` — the condition: no activation commits above a grant of its user.
-/

namespace VeltrixEye.Billing

/-- No subscription of the user confers a tier above `rank`. -/
def PaidAtMost (db : BillingTables) (userId : Uuid) (rank : ℕ) : Prop :=
  ∀ r ∈ db.subscriptions, r.userId = userId →
    tierRank (resolvePaidTier r.plan r.provider (db.activated r.id)) ≤ rank

/-- What a grant call in flight has checked. -/
def GrantTask (d : BillingData) : BillingTask → Prop
  | .grant call =>
    match call.stage with
    | .inserting plan user => call.request.dryRun = false ∧ PaidAtMost d.db user.id (tierRank plan)
    | .committing grant => call.request.dryRun = false ∧ PaidAtMost d.db grant.userId (tierRank grant.plan)
    | _ => True
  | _ => True

/-- Every grant is at least the paid tier of its user. -/
def GrantsCover (d : BillingData) : Prop :=
  ∀ g ∈ d.db.grants, PaidAtMost d.db g.userId (tierRank g.plan)

abbrev NarrowSafe (s : BillingState) : Prop := Pool.Safe GrantsCover GrantTask Apart s

/-- The sold plan of the fact's user is at most every grant of the user. -/
def WithinGrants (db : BillingTables) (fact : ActivationRow) : Prop :=
  ∀ g ∈ db.grants, g.userId = fact.userId →
    ∀ r ∈ db.subscriptions, r.userId = fact.userId → tierRank r.plan ≤ tierRank g.plan

instance (db : BillingTables) (fact : ActivationRow) : Decidable (WithinGrants db fact) :=
  inferInstanceAs (Decidable (∀ g ∈ db.grants, g.userId = fact.userId →
    ∀ r ∈ db.subscriptions, r.userId = fact.userId → tierRank r.plan ≤ tierRank g.plan))

/-- The fact that the next statement of the task commits. -/
def BillingTask.committing : BillingTask → Option ActivationRow
  | .activate call =>
    match call.stage with
    | .committing fact => some fact
    | _ => none
  | _ => none

/-- An activation that commits does so within the grants of its user. -/
def CommitsBelowGrants (s : BillingState) : BillingAction → Prop
  | .advance w _ _ =>
    (s.tasks[w]?.bind BillingTask.committing).all (fun fact => WithinGrants s.shared.db fact) = true
  | _ => True

instance (s : BillingState) : ∀ a, Decidable (CommitsBelowGrants s a)
  | .advance w _ _ => inferInstanceAs (Decidable
      ((s.tasks[w]?.bind BillingTask.committing).all (fun fact => WithinGrants s.shared.db fact) = true))
  | .start _ => inferInstanceAs (Decidable True)
  | .fail _ => inferInstanceAs (Decidable True)
  | .recordFxVersion _ => inferInstanceAs (Decidable True)
  | .registerPlan _ => inferInstanceAs (Decidable True)
  | .retirePlan _ => inferInstanceAs (Decidable True)
  | .provisionCustomer _ => inferInstanceAs (Decidable True)

theorem CommitsBelowGrants.within {s : BillingState} {w : ℕ} {input : StepInput} {order : ScanOrder}
    {call : ActivateCall} {fact : ActivationRow} (h : CommitsBelowGrants s (.advance w input order))
    (ht : s.tasks[w]? = some (.activate call)) (hstage : call.stage = .committing fact) :
    WithinGrants s.shared.db fact := by
  unfold CommitsBelowGrants at h
  dsimp only at h
  rw [ht] at h
  simpa [BillingTask.committing, hstage] using h

variable {runtime : BillingRuntime} {mode : BillingProviderMode} {input : StepInput}
  {order : ScanOrder} {db db' : BillingTables} {held : List Lock} {t t' : BillingTask}

/-! ## The paid tier after a statement -/

theorem paidAtMost_frame {userId : Uuid} {rank : ℕ} (hact : db'.activations = db.activations)
    (hsub : ∀ r' ∈ db'.subscriptions, ∃ r ∈ db.subscriptions, Kept r r')
    (h : PaidAtMost db userId rank) : PaidAtMost db' userId rank := by
  intro r' hr' huser
  obtain ⟨r, hr, hkept⟩ := hsub r' hr'
  have hactivated : db'.activated r'.id = db.activated r.id := by
    unfold BillingTables.activated
    rw [hact, hkept.id]
  rw [hactivated, hkept.plan, hkept.provider]
  exact h r hr (hkept.userId ▸ huser)

theorem paidAtMost_activation {userId : Uuid} {rank : ℕ} {fact : ActivationRow}
    (hids : (db.subscriptions.map (·.id)).Nodup) (hbacked : Backed runtime mode db fact)
    (hplan : fact.userId = userId → ∀ r ∈ db.subscriptions, r.userId = userId → tierRank r.plan ≤ rank)
    (h : PaidAtMost db userId rank) :
    PaidAtMost { db with activations := db.activations ++ [fact] } userId rank := by
  intro r hr huser
  by_cases hfact : fact.subscriptionId = r.id
  · obtain ⟨r', hr', hid, huser', hprovider, -⟩ := hbacked
    have hsame : r' = r := Rows.eq_of_key hids hr' hr (hid.trans hfact)
    subst hsame
    have hactivated : ({ db with activations := db.activations ++ [fact] } : BillingTables).activated
        r'.id = true := by
      simp [BillingTables.activated, hfact]
    rw [hactivated, hprovider]
    exact hplan (huser'.symm.trans huser) r' hr huser
  · have hactivated : ({ db with activations := db.activations ++ [fact] } : BillingTables).activated
        r.id = db.activated r.id := by
      simp [BillingTables.activated, hfact]
    rw [hactivated]
    exact h r hr huser

theorem paidAtMost_sale {userId : Uuid} {rank : ℕ} {row : SubscriptionRow} {new : Option SnapshotRow}
    (hok : AuthorityOk runtime mode db) (hprovider : row.provider = some .paystack)
    (hfree : saleIdsFree db row new = true) (h : PaidAtMost db userId rank) :
    PaidAtMost (commitSale db row new) userId rank := by
  intro r hr huser
  have hact : (commitSale db row new).activated r.id = db.activated r.id := rfl
  rw [hact]
  rcases List.mem_append.mp hr with hr | hr
  · exact h r hr huser
  · rw [List.mem_singleton.mp hr] at huser ⊢
    have hnone : db.activated row.id = false := by
      simp only [BillingTables.activated, List.any_eq_false, decide_eq_true_eq]
      intro a ha hsub
      obtain ⟨r', hr', hid, -⟩ := hok.backed a ha
      simp only [saleIdsFree, Bool.and_eq_true, Bool.not_eq_true', List.any_eq_false,
        decide_eq_true_eq] at hfree
      exact hfree.1 r' hr' (hid.trans hsub)
    rw [hnone, hprovider]
    exact Nat.zero_le _

theorem Wrote.paidAtMost (h : Wrote runtime mode input db held t db' t')
    (hsales : SalesOk runtime db) (hauthority : AuthorityOk runtime mode db)
    (hsale : SaleTask runtime mode ⟨db, 0, [], []⟩ t)
    (hactivate : AuthorityTask runtime mode ⟨db, 0, [], []⟩ t) {userId : Uuid} {rank : ℕ}
    (hplan : ∀ call fact, t = .activate call → call.stage = .committing fact → fact.userId = userId →
      ∀ r ∈ db.subscriptions, r.userId = userId → tierRank r.plan ≤ rank)
    (hpaid : PaidAtMost db userId rank) : PaidAtMost db' userId rank := by
  cases h with
  | activation call fact hstage =>
    have hbacked : Backed runtime mode db fact := by
      unfold AuthorityTask at hactivate
      dsimp only at hactivate
      rw [hstage] at hactivate
      exact hactivate
    exact paidAtMost_activation hsales.subscriptions hbacked
      (hplan call fact rfl hstage) hpaid
  | sale call row new epochId stored hstage hverified hfree =>
    unfold SaleTask SaleStage at hsale
    dsimp only at hsale
    rw [hstage] at hsale
    obtain ⟨-, id, plan, persisted, epoch, hrow, -⟩ := hsale
    exact paidAtMost_sale hauthority (by rw [hrow]; rfl) hfree hpaid
  | sync call row plan claimed readAt =>
    refine @paidAtMost_frame db _ userId rank rfl (fun r' hr' => ?_) hpaid
    obtain ⟨r, hr, rfl⟩ := List.mem_map.mp hr'
    refine ⟨r, hr, ?_⟩
    split
    · exact kept_moveRow r plan _ _
    · exact .rfl
  | code call subscriptionId user code =>
    refine @paidAtMost_frame db _ userId rank rfl (fun r' hr' => ?_) hpaid
    obtain ⟨r, hr, rfl⟩ := List.mem_map.mp hr'
    exact ⟨r, hr, kept_bindCode r subscriptionId user code⟩
  | _ => exact paidAtMost_frame rfl (fun r hr => ⟨r, hr, .rfl⟩) hpaid

/-! ## The grant call -/

theorem paidAtMost_readPaidTier (hsubscribers : (db.subscriptions.map (·.userId)).Nodup)
    (userId : Uuid) : PaidAtMost db userId (tierRank (db.readPaidTier userId)) := by
  intro r hr huser
  have hfind : db.subscriptionOf r.userId = some r := Rows.find?_key hsubscribers hr
  unfold BillingTables.readPaidTier
  rw [← huser, hfind]

theorem PaidAtMost.mono {userId : Uuid} {rank rank' : ℕ} (hle : rank ≤ rank')
    (h : PaidAtMost db userId rank) : PaidAtMost db userId rank' :=
  fun r hr huser => (h r hr huser).trans hle

theorem grantStep_covers {call : GrantCall} (hsubscribers : (db.subscriptions.map (·.userId)).Nodup)
    (h : GrantTask ⟨db, 0, [], []⟩ (.grant call)) :
    GrantTask ⟨db, 0, [], []⟩
      (.grant { call with stage := (grantStep runtime input db held call).2 }) := by
  unfold GrantTask at h
  dsimp only at h
  unfold grantStep
  cases hstage : call.stage with
  | checking plan user =>
    dsimp only
    split
    · trivial
    rename_i hnarrows
    split
    · trivial
    rename_i hdry
    refine ⟨by simpa using hdry, PaidAtMost.mono ?_ (paidAtMost_readPaidTier hsubscribers user.id)⟩
    simpa [grantNarrowsPaidTier] using hnarrows
  | inserting plan user =>
    rw [hstage] at h
    dsimp only
    split
    · split <;> trivial
    split
    · trivial
    · exact h
  | _ =>
    dsimp only
    all_goals repeat' split
    all_goals trivial

theorem grantTask_data {d d' : BillingData} (h : d'.db = d.db) :
    GrantTask d' t ↔ GrantTask d t := by
  cases t with
  | grant call =>
    unfold GrantTask
    rw [h]
  | _ => exact Iff.rfl

theorem grantTask_stable {d : BillingData} {db' : BillingTables} (hJ : GrantTask d t)
    (hpaid : ∀ userId rank, .userUpdate userId ∈ t.locks → PaidAtMost d.db userId rank →
      PaidAtMost db' userId rank) {d' : BillingData} (hd : d'.db = db') : GrantTask d' t := by
  subst hd
  cases t with
  | grant call =>
    unfold GrantTask at hJ ⊢
    dsimp only at hJ ⊢
    cases hstage : call.stage with
    | inserting plan user =>
      rw [hstage] at hJ
      refine ⟨hJ.1, hpaid _ _ ?_ hJ.2⟩
      simp [BillingTask.locks, GrantCall.locks, hJ.1, hstage]
    | committing grant =>
      rw [hstage] at hJ
      refine ⟨hJ.1, hpaid _ _ ?_ hJ.2⟩
      simp [BillingTask.locks, GrantCall.locks, hJ.1, hstage]
    | _ => trivial
  | _ => trivial

theorem Wrote.grants (h : Wrote runtime mode input db held t db' t') :
    db'.grants = db.grants ∨
      ∃ call grant, t = .grant call ∧ call.stage = .committing grant ∧
        db'.grants = db.grants ++ [grant] := by
  cases h with
  | grant call grant hstage => exact .inr ⟨call, grant, rfl, hstage, rfl⟩
  | _ => exact .inl rfl

theorem Outside.paidAtMost (h : Outside held db db') {userId : Uuid} {rank : ℕ}
    (hpaid : PaidAtMost db userId rank) : PaidAtMost db' userId rank := by
  refine paidAtMost_frame h.tables.2.2.2.1 (fun r hr => ⟨r, ?_, .rfl⟩) hpaid
  rwa [← h.tables.2.1]

theorem started_grantTask {d : BillingData} (h : t.Started) : GrantTask d t := by
  cases t with
  | grant call =>
    have hstarted := congrArg GrantCall.stage h
    unfold GrantTask
    dsimp only
    rw [hstarted]
    have hcases := startGrant_stage call.request
    generalize (startGrant call.request).stage = stage at hcases ⊢
    rcases hcases with ⟨reason, rfl⟩ | ⟨plan, rfl⟩ <;> exact True.intro
  | _ => trivial

theorem failTask_grantTask {d : BillingData} (t : BillingTask) : GrantTask d (failTask t) := by
  cases t with
  | grant call =>
    obtain ⟨request, stage⟩ := call
    cases stage <;> trivial
  | _ => trivial

theorem taskStep_grantTask {d : BillingData} {others : List BillingTask}
    (hsubscribers : (d.db.subscriptions.map (·.userId)).Nodup) (h : GrantTask d t) :
    GrantTask (taskStep runtime mode input order d others t).1
      (taskStep runtime mode input order d others t).2 := by
  cases t with
  | grant call =>
    rcases @grantStep_wrote runtime input d.db (heldBy others) call with
      hsame | ⟨grant, hstage, -, hgrant⟩
    · have hdata : GrantTask ⟨d.db, 0, [], []⟩ (.grant call) := (grantTask_data rfl).mpr h
      exact (grantTask_data (d := ⟨d.db, 0, [], []⟩) hsame).mpr (grantStep_covers hsubscribers hdata)
    · show GrantTask _ (.grant { call with
        stage := (grantStep runtime input d.db (heldBy others) call).2 })
      rw [hgrant]
      trivial
  | _ => trivial

/-! ## Runs -/

/-- **Step lemma.** -/
theorem billingStep_narrow (s : BillingState) (a : BillingAction) (hsales : SalesSafe runtime mode s)
    (hauthority : AuthoritySafe runtime mode s) (h : NarrowSafe s) (hok : CommitsBelowGrants s a) :
    NarrowSafe (billingStep runtime mode s a) := by
  have hexclusive : Exclusive s := ⟨trivial, fun _ _ => trivial, h.pair⟩
  have hnext := (@billingStep_exclusive runtime mode s a hexclusive).pair
  suffices hsafe : Pool.Safe GrantsCover GrantTask (fun _ _ => True) (billingStep runtime mode s a) from
    ⟨hsafe.shared, hsafe.task, hnext⟩
  refine billingStep_safe (K := fun _ _ => True) ⟨h.shared, h.task, fun _ _ _ _ _ _ _ => trivial⟩
    a ?_ ?_ ?_ ?_
  · exact fun t hstarted => ⟨started_grantTask hstarted, fun _ _ => ⟨trivial, trivial⟩⟩
  · rintro w input order t r rfl ht rfl
    have hmem := List.mem_of_getElem? ht
    have hwrote := @taskStep_wrote runtime mode input order s.shared (s.others w) t
    have hsale : SaleTask runtime mode ⟨s.shared.db, 0, [], []⟩ t :=
      saleTask_next (hsales.task t hmem) rfl
    have hactivate : AuthorityTask runtime mode ⟨s.shared.db, 0, [], []⟩ t := by
      have := hauthority.task t hmem
      cases t <;> exact this
    have bound := @Wrote.paidAtMost runtime mode input _ _ _ _ _ hwrote hsales.shared hauthority.shared
      hsale hactivate
    refine ⟨?_, ?_, ?_⟩
    · intro g hg
      rcases hwrote.grants with hsame | ⟨call, grant, rfl, hstage, hgrants⟩
      · have hold : g ∈ s.shared.db.grants := hsame ▸ hg
        refine bound ?_ (h.shared g hold)
        rintro call fact rfl hstage huser r hr hruser
        exact hok.within ht hstage g hold huser.symm r hr (hruser.trans huser.symm)
      · rw [hgrants] at hg
        refine bound (by rintro _ _ ⟨⟩) ?_
        rcases List.mem_append.mp hg with hold | hnew
        · exact h.shared g hold
        · have hJ := h.task _ hmem
          unfold GrantTask at hJ
          dsimp only at hJ
          rw [hstage] at hJ
          rw [List.mem_singleton.mp hnew]
          exact hJ.2
    · exact taskStep_grantTask hsales.shared.subscribers (h.task t hmem)
    · intro t' ht'
      refine ⟨?_, trivial, trivial⟩
      obtain ⟨hJ, hapart, -⟩ := h.other ht ht'
      refine grantTask_stable hJ ?_ rfl
      intro userId rank hlock hpaid
      refine bound ?_ hpaid
      rintro call fact rfl hstage huser r hr hruser
      exfalso
      -- the grant's lock on the user excludes the key lock of the activation
      have hkey : Lock.userKeyShare fact.userId ∈ (BillingTask.activate call).locks := by
        simp [BillingTask.locks, ActivateCall.locks, hstage]
      have := hapart _ hkey _ hlock
      simp [Lock.conflicts, huser] at this
  · exact fun w t _ => ⟨failTask_grantTask t, fun _ _ => ⟨trivial, trivial⟩⟩
  · intro db' hout
    refine ⟨?_, fun t ht => grantTask_stable (h.task t ht) (fun _ _ _ => hout.paidAtMost) rfl⟩
    intro g hg
    rw [show ({ s.shared with db := db' } : BillingData).db.grants = s.shared.db.grants from
      hout.tables.2.2.2.2.1] at hg
    exact hout.paidAtMost (h.shared g hg)

theorem initial_narrow {s : BillingState} (h : Initial s) : NarrowSafe s where
  shared := by simp [GrantsCover, h.grants]
  task := by simp [h.tasks]
  pair := by simp [h.tasks]

/-- What a state must satisfy: the entitlements of every user, capability by capability, are at least
    those the paid tier gives without the grant. -/
def GrantsOnlyAdd (db : BillingTables) : Prop :=
  ∀ userId, (db.entitlements userId none).AtMost (db.entitlements userId (db.grantedPlan userId))

theorem grantsOnlyAdd_of_narrow {d : BillingData} (h : GrantsCover d) : GrantsOnlyAdd d.db := by
  intro userId
  unfold BillingTables.grantedPlan
  cases hgrant : d.db.grants.find? fun g => g.userId = userId with
  | none => exact Entitlements.AtMost.refl _
  | some g =>
    have huser : g.userId = userId := by simpa using List.find?_some hgrant
    have hcover := h g (List.mem_of_find?_eq_some hgrant)
    unfold BillingTables.entitlements
    cases hrow : d.db.subscriptionOf userId with
    | none => exact getEntitlements_mono (Nat.zero_le _) _
    | some r =>
      obtain ⟨hr, hruser⟩ := subscriptionOf_some hrow
      exact getEntitlements_mono (hcover r hr (hruser.trans huser.symm)) _

/-- **A grant never takes entitlements away.** In every run in which no activation commits above a
    grant of its user, every reachable state gives every user at least what the paid tier gives without
    the grant. -/
theorem grant_never_narrows (runtime : BillingRuntime) (mode : BillingProviderMode) {s : BillingState}
    (hs : Initial s) {as : List BillingAction}
    (hok : Runs.Meets (billingStep runtime mode) CommitsBelowGrants s as) {t : BillingState}
    (ht : Runs.Reached (billingStep runtime mode) s as t) : GrantsOnlyAdd t.shared.db := by
  have hstep : ∀ s a, (SalesSafe runtime mode s ∧ AuthoritySafe runtime mode s ∧ NarrowSafe s) →
      CommitsBelowGrants s a → SalesSafe runtime mode (billingStep runtime mode s a) ∧
        AuthoritySafe runtime mode (billingStep runtime mode s a) ∧
          NarrowSafe (billingStep runtime mode s a) := fun s a h hok =>
    ⟨billingStep_sales s a h.1, billingStep_authority s a h.2.1,
      billingStep_narrow s a h.1 h.2.1 h.2.2 hok⟩
  have hsafe := Runs.inv_of_reached (billingStep runtime mode) hstep
    ⟨initial_sales hs, initial_authority hs, initial_narrow hs⟩ hok ht
  exact grantsOnlyAdd_of_narrow hsafe.2.2.shared

/-- The operator grants user 1 a tier (call 0). -/
def sampleGrant (plan : String) : List BillingAction :=
  .start (.grant (startGrant ⟨"ama@example.com", plan, "ops", "standing", none, false⟩)) ::
    sampleSteps 0 6 (sampleInput 12 "2026-01-04T09:00:00.000Z" none)

/-- User 1 then buys monthly Elite, pays, and is activated (calls 1, 2 and 3). -/
def samplePurchase : List BillingAction :=
  .start (.checkout (startCheckout (idOf 1) .elite .monthly)) ::
      sampleSteps 1 10 (sampleInput 8 "2026-01-05T09:00:00.000Z" none) ++
    .start (.confirm (startConfirm (idOf 1))) ::
      sampleSteps 2 6 (sampleInput 9 "2026-01-05T10:00:00.000Z"
        (some (samplePaidView (.value ⟨"GHS", 153450, 2⟩) "2026-01-05T09:30:00.000Z"))) ++
    .start (.activate (startActivate ⟨"ama@example.com", "ops", "paid", none, none⟩)) ::
      sampleSteps 3 8 (sampleInput 10 "2026-01-05T11:00:00.000Z" none)

/-- A premium grant to a user who has bought nothing. -/
theorem grant_never_narrows_premium :
    GrantsOnlyAdd (Runs.run (billingStep sampleRuntime .test) sampleState
      (sampleGrant "premium")).shared.db :=
  grant_never_narrows sampleRuntime .test sampleState_initial (by decide)
    (Runs.reached_last _ _ _)

def grantedPro : GrantRow :=
  ⟨idOf 12, idOf 1, .pro, "ops", "standing", "2026-01-04T09:00:00.000Z",
    "cef21189a6da4b40750c1c530b9972805b64089c69cf1a44f9df56618a323713"⟩

def grantedTask : BillingTask :=
  .grant ⟨⟨"ama@example.com", "pro", "ops", "standing", none, false⟩, .granted grantedPro false⟩

def grantedState : BillingState := ⟨⟨{ sampleTables with grants := [grantedPro] }, 6, [], []⟩, [grantedTask]⟩

theorem run_sampleGrant : Runs.run (billingStep sampleRuntime .test) sampleState (sampleGrant "pro") =
    grantedState := by
  rw [sampleRuntime, sampleDigest_eq]
  decide +kernel

def grantedSoldState : BillingState :=
  ⟨⟨{ soldState.shared.db with grants := [grantedPro] }, 16, [], []⟩, grantedTask :: soldState.tasks⟩

theorem run_grantedSale : Runs.run (billingStep sampleRuntime .test) grantedState
    (.start (.checkout (startCheckout (idOf 1) .elite .monthly)) ::
      sampleSteps 1 10 (sampleInput 8 "2026-01-05T09:00:00.000Z" none)) = grantedSoldState := by
  rw [sampleRuntime, sampleDigest_eq]
  decide +kernel

def paidEvidence : EvidenceRow :=
  ⟨idOf 9, idOf 1, idOf 8, idOf 8, soldReference, some "TRX_1", 153450, "GHS", 2, "success", .test, none,
    some "CUS_1", "2026-01-05T09:30:00.000Z", "2026-01-05T10:00:00.000Z",
    "b415c72ef5f5ef87b4eb4f2c3bd4ccb42eb0cf578ff4dde50f0f74142ffb8d3a",
    "253a958a485f74b5f0f88912b86ad27ced158656ee6c846a8d7e94deba22c79d"⟩

def grantedPaidState : BillingState :=
  ⟨⟨{ grantedSoldState.shared.db with transactions := [paidEvidence] }, 22, [], []⟩,
    grantedSoldState.tasks ++ [.confirm ⟨idOf 1, .verified paidEvidence false⟩]⟩

theorem run_grantedConfirm : Runs.run (billingStep sampleRuntime .test) grantedSoldState
    (.start (.confirm (startConfirm (idOf 1))) ::
      sampleSteps 2 6 (sampleInput 9 "2026-01-05T10:00:00.000Z"
        (some (samplePaidView (.value ⟨"GHS", 153450, 2⟩) "2026-01-05T09:30:00.000Z")))) = grantedPaidState := by
  rw [samplePaidView, sampleReference_eq, sampleRuntime, sampleDigest_eq]
  decide +kernel

/-- With a pro grant the activated Elite purchase is worth less than without the grant. -/
theorem pro_grant_narrows_elite :
    Initial sampleState ∧
      ¬GrantsOnlyAdd (Runs.run (billingStep sampleRuntime .test) sampleState
        (sampleGrant "pro" ++ samplePurchase)).shared.db := by
  refine ⟨sampleState_initial, fun h => ?_⟩
  rw [Runs.run_append, run_sampleGrant, samplePurchase, List.append_assoc, Runs.run_append, run_grantedSale,
    Runs.run_append, run_grantedConfirm, sampleRuntime, sampleDigest_eq] at h
  exact absurd (h (idOf 1)) (by decide +kernel)

/-! ## After the activation -/

/-- **What was activated follows the status alone**: once the subscription of a user is activated, whatever
runs afterwards keeps the row, its plan, its provider and its activation, and the entitlements are resolved
from these and the current status. -/
theorem activated_entitlements_follow_status (runtime : BillingRuntime) (mode : BillingProviderMode)
    {s : BillingState} (hs : Initial s) (before after : List BillingAction) :
    let t := Runs.run (billingStep runtime mode) s before
    let db := (Runs.run (billingStep runtime mode) t after).shared.db
    ∀ r ∈ t.shared.db.subscriptions, t.shared.db.activated r.id = true →
      ∃! r', r' ∈ db.subscriptions ∧ Kept r r' ∧ ∀ grant,
        db.entitlements r.userId grant = resolveEntitlements r.plan r'.status r.provider true grant := by
  intro t db r hr hactivated
  have hextends := @run_extends runtime mode t after
  obtain ⟨r', hr', hkept⟩ := hextends.subscriptions r hr
  have hdb : db = (Runs.run (billingStep runtime mode) s (before ++ after)).shared.db := by
    rw [Runs.run_append]
  have hsales := (@sales_of_reached runtime mode s _ _ hs (Runs.reached_last _ s (before ++ after))).shared
  rw [← hdb] at hsales
  have hstill : db.activated r'.id = true := by
    simp only [BillingTables.activated, List.any_eq_true] at hactivated ⊢
    obtain ⟨fact, hfact, hsub⟩ := hactivated
    exact ⟨fact, hextends.activations hfact, by rw [hkept.id]; exact hsub⟩
  refine ⟨r', ⟨hr', hkept, fun grant => ?_⟩, ?_⟩
  · rw [← hkept.userId, entitlements_of_mem hsales.subscribers hr', hstill, hkept.plan, hkept.provider]
  · rintro x ⟨hx, hkeptx, -⟩
    exact Rows.eq_of_key hsales.subscriptions hx hr' (hkeptx.id.trans hkept.id.symm)

/-- A purchase beside a grant, followed by a second checkout. -/
theorem activated_entitlements_follow_status_purchase :
    Initial sampleState ∧
      let t := Runs.run (billingStep sampleRuntime .test) sampleState (sampleGrant "pro" ++ samplePurchase)
      let db := (Runs.run (billingStep sampleRuntime .test) t samplePurchase).shared.db
      ∀ r ∈ t.shared.db.subscriptions, t.shared.db.activated r.id = true →
        ∃! r', r' ∈ db.subscriptions ∧ Kept r r' ∧ ∀ grant,
          db.entitlements r.userId grant = resolveEntitlements r.plan r'.status r.provider true grant :=
  ⟨sampleState_initial, activated_entitlements_follow_status sampleRuntime .test sampleState_initial
    (sampleGrant "pro" ++ samplePurchase) samplePurchase⟩

end VeltrixEye.Billing
