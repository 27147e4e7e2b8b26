import VeltrixEye.Billing.ProvisionedPlans
import VeltrixEye.Lib.Rows
import VeltrixEye.Lib.SmallUuid

/-!
# What is provisioned can be sold (`billing/provisioning.ts`)
-/

namespace VeltrixEye.Provisioning

open Billing

/-- The request names a stored FX version, its evidence is admitted, and no stored epoch conflicts with it. -/
structure Accepted (mode : BillingProviderMode) (db : ProvisioningTables) (input : Option RegisterRequest)
    (now : Option ℤ) (request : RegisterRequest) (row : FxRateVersionRow) (registeredAt : ℤ)
    (batch : ValidatedBatch) : Prop where
  parsed : parseRunRequest mode input = .ok request
  instant : now = some registeredAt
  stored : row ∈ db.fxVersions
  selected : request.fxRateVersionId = row.id.text
  prepared : prepareSandboxProvisioningBatch row request.evidence (some registeredAt) mode = .ok batch
  clear : ∀ e ∈ db.epochs, e.plan.mode = mode → ∀ r ∈ batch.registrations,
    e.plan.providerPlanId ≠ r.providerPlanId ∧
      ¬(e.plan.status = .active ∧ e.plan.cataloguePlan = r.cataloguePlan ∧ e.plan.interval = r.interval ∧
        e.plan.paymentCurrency = "GHS")

/-- The statements of the transaction. -/
def statements (request : RegisterRequest) : List ℕ :=
  [0, 1, 2, 3, 4, 5] ++ (if request.audit.isSome then [6] else []) ++ [7]

theorem mem_epochRecords {ids : ℕ → Uuid} {mode : BillingProviderMode} {registeredAt : ℤ} {n : ℕ}
    {rs : List EpochRegistration} {e : EpochRecord} :
    e ∈ epochRecords ids mode registeredAt n rs ↔
      ∃ i r, rs[i]? = some r ∧ e = epochRecord (ids (n + i)) mode registeredAt r := by
  induction rs generalizing n with
  | nil => simp [epochRecords]
  | cons r rest ih =>
    rw [epochRecords, List.mem_cons, ih]
    constructor
    · rintro (rfl | ⟨i, x, hx, rfl⟩)
      · exact ⟨0, r, rfl, rfl⟩
      · exact ⟨i + 1, x, hx, by rw [Nat.add_right_comm, Nat.add_assoc]⟩
    · rintro ⟨i, x, hx, rfl⟩
      cases i with
      | zero =>
        cases hx
        exact .inl rfl
      | succ i => exact .inr ⟨i, x, hx, by rw [Nat.add_right_comm, Nat.add_assoc]⟩

theorem epochRecords_map {β : Type} (f : EpochRecord → β) (g : EpochRegistration → β) {ids : ℕ → Uuid}
    {mode : BillingProviderMode} {registeredAt : ℤ} (n : ℕ) (rs : List EpochRegistration)
    (h : ∀ id r, f (epochRecord id mode registeredAt r) = g r) :
    (epochRecords ids mode registeredAt n rs).map f = rs.map g := by
  induction rs generalizing n with
  | nil => rfl
  | cons r rest ih => rw [epochRecords, List.map_cons, List.map_cons, ih, h]

theorem prepareSelectedBatch_ok {db : ProvisioningTables} {mode : BillingProviderMode}
    {request : RegisterRequest} {registeredAt : Option ℤ} {batch : ValidatedBatch}
    (h : prepareSelectedBatch db mode request registeredAt = .ok batch) :
    ∃ row ∈ db.fxVersions, request.fxRateVersionId = row.id.text ∧
      prepareSandboxProvisioningBatch row request.evidence registeredAt mode = .ok batch := by
  unfold prepareSelectedBatch at h
  split at h
  rotate_left
  · cases h
  rename_i row hrow
  obtain ⟨batch', hbatch, h⟩ := Except.bind_ok_iff.mp h
  dsimp only at h
  split at h
  · cases h
  rename_i hid
  split at h
  · cases h
  cases h
  refine ⟨row, List.mem_of_find?_eq_some hrow, ?_, hbatch⟩
  cases registeredAt with
  | none => cases hbatch
  | some t => rw [← not_not.mp hid, (prepare_ok hbatch).fxVersion]

theorem prepareSelectedBatch_of {db : ProvisioningTables} {mode : BillingProviderMode}
    {request : RegisterRequest} {registeredAt : ℤ} {batch : ValidatedBatch} {row : FxRateVersionRow}
    (hids : (db.fxVersions.map (·.id)).Nodup) (hrow : row ∈ db.fxVersions)
    (hid : request.fxRateVersionId = row.id.text)
    (h : prepareSandboxProvisioningBatch row request.evidence (some registeredAt) mode = .ok batch) :
    prepareSelectedBatch db mode request (some registeredAt) = .ok batch := by
  have hfind : db.fxVersions.find? (fun v => Uuid.ofText? request.fxRateVersionId = some v.id) = some row := by
    rw [hid, Uuid.ofText?_text]
    simp only [Option.some.injEq, eq_comm (a := row.id)]
    exact Rows.find?_key hids hrow
  have hbatch := prepare_ok h
  have hshared : (batch.registrations.any fun r => r.fxRateVersionId.text ≠ request.fxRateVersionId) = false := by
    rw [List.any_eq_false]
    intro r hr
    obtain ⟨_, _, _, _, hp⟩ := hbatch.prepared r hr
    simp [hp.fxRateVersionId, hid]
  unfold prepareSelectedBatch
  rw [hfind]
  dsimp only
  rw [h]
  simp only [bind, Except.bind, hbatch.fxVersion, hid, ne_eq, not_true_eq_false, if_false]
  rw [← hid, if_neg (by simpa using hshared)]
  rfl

theorem recordRegistration_ok_iff {faults : ℕ → Bool} {db db' : ProvisioningTables} {batch : ValidatedBatch}
    {epochs : List ProviderPlanRow} {audit : Option ProvisioningAuditDescriptor} :
    recordRegistration faults db batch epochs audit = .ok db' ↔
      (∀ a, audit = some a → faults 6 = false ∧ storableText a.operatorId = true ∧
        storableText a.reason = true) ∧
      db' = { db with
        auditEvents := db.auditEvents ++ audit.toList.map fun a =>
          ⟨batch.mode, a.operatorId, a.reason, batch.fxVersion.id, batch.registeredAt, epochs⟩ } := by
  cases audit with
  | none =>
    simp only [recordRegistration, Except.ok.injEq, reduceCtorEq, false_implies, implies_true, true_and,
      Option.toList_none, List.map_nil, List.append_nil]
    exact eq_comm
  | some a =>
    unfold recordRegistration recordAuditEvent
    rw [Except.ite_error_eq_ok]
    simp only [not_or, Bool.not_eq_true, Bool.not_eq_true', Bool.not_eq_false, Except.ok.injEq, Option.some.injEq, forall_eq', Option.toList_some, List.map_cons, List.map_nil]
    rw [eq_comm (a := db')]

theorem registration_ok {faults : ℕ → Bool} {ids : ℕ → Uuid} {mode : BillingProviderMode}
    {db db' : ProvisioningTables} {input : Option RegisterRequest} {now : Option ℤ}
    {epochs : List ProviderPlanRow} (h : registration faults ids mode db input now = .ok (epochs, db')) :
    ∃ request row registeredAt batch, Accepted mode db input now request row registeredAt batch ∧
      (∀ n ∈ statements request, faults n = false) ∧
      (∀ e ∈ batch.records ids, epochStorable e = true) ∧
      (∀ a, request.audit = some a → storableText a.operatorId = true ∧ storableText a.reason = true) ∧
      epochs = (batch.records ids).map (·.plan) ∧ db'.epochs = db.epochs ++ batch.records ids := by
  unfold registration at h
  obtain ⟨request, hrequest, h⟩ := Except.bind_ok_iff.mp h
  dsimp only at h
  split at h
  · cases h
  obtain ⟨_, h0, h⟩ := Except.bind_ok_iff.mp h
  obtain ⟨_, h1, h⟩ := Except.bind_ok_iff.mp h
  obtain ⟨batch, hselected, h⟩ := Except.bind_ok_iff.mp h
  obtain ⟨⟨epochs', db₁⟩, hepochs, h⟩ := Except.bind_ok_iff.mp h
  obtain ⟨db₂, haudit, h⟩ := Except.bind_ok_iff.mp h
  obtain ⟨_, h7, h⟩ := Except.bind_ok_iff.mp h
  cases h
  cases now with
  | none => contradiction
  | some registeredAt =>
    obtain ⟨row, hrow, hid, hprepared⟩ := prepareSelectedBatch_ok hselected
    have hbatch := prepare_ok hprepared
    obtain ⟨hfaults, hrows, -, rfl, rfl⟩ := (registerEpochs_ok_iff hbatch.code).mp hepochs
    obtain ⟨htexts, rfl⟩ := recordRegistration_ok_iff.mp haudit
    refine ⟨request, row, registeredAt, batch,
      { parsed := hrequest
        instant := rfl
        stored := hrow
        selected := hid
        prepared := hprepared
        clear := ?_ }, ?_, fun e he => (hrows e he).1, fun a ha => (htexts a ha).2, rfl, rfl⟩
    · intro e he hmode r hr
      obtain ⟨i, hi⟩ := List.getElem?_of_mem hr
      have hfree := (hrows _ (mem_epochRecords.mpr ⟨i, r, hi, rfl⟩)).2.2 e he
      simp only [Collide, epochRecord, hbatch.inMode, hmode, true_and, not_or] at hfree
      exact ⟨hfree.2.1, hfree.2.2⟩
    · have hlen : batch.registrations.length = 4 := by
        have := congrArg List.length hbatch.matrix
        simpa [SANDBOX_PLAN_MATRIX] using this
      intro n hn
      unfold statements at hn
      simp only [List.mem_append] at hn
      rcases hn with (hn | hn) | hn
      · rw [hlen] at hfaults
        fin_cases hn
        · exact answered_ok_iff.mp h0
        · exact answered_ok_iff.mp h1
        · exact hfaults 0 (by decide)
        · exact hfaults 1 (by decide)
        · exact hfaults 2 (by decide)
        · exact hfaults 3 (by decide)
      · cases haud : request.audit with
        | none =>
          rw [haud] at hn
          cases hn
        | some a =>
          rw [haud] at hn
          rw [List.mem_singleton.mp hn]
          exact (htexts a haud).1
      · rw [List.mem_singleton.mp hn]
        exact answered_ok_iff.mp h7

theorem epochRecords_ids (ids : ℕ → Uuid) (mode : BillingProviderMode) (registeredAt : ℤ) (n : ℕ)
    (rs : List EpochRegistration) :
    (epochRecords ids mode registeredAt n rs).map (·.plan.id) = (List.range' n rs.length).map ids := by
  induction rs generalizing n with
  | nil => rfl
  | cons r rest ih =>
    rw [epochRecords, List.map_cons, ih, List.length_cons, List.range'_succ, List.map_cons]
    rfl

theorem registrations_length {row : FxRateVersionRow} {evidence : List (Option EvidenceFields)}
    {registeredAt : ℤ} {mode : BillingProviderMode} {batch : ValidatedBatch}
    (h : Admitted row evidence registeredAt mode batch) : batch.registrations.length = 4 := by
  have := congrArg List.length h.matrix
  simpa [SANDBOX_PLAN_MATRIX] using this

theorem records_pairwise {ids : ℕ → Uuid} {row : FxRateVersionRow}
    {evidence : List (Option EvidenceFields)} {registeredAt : ℤ} {mode : BillingProviderMode}
    {batch : ValidatedBatch} (h : Admitted row evidence registeredAt mode batch)
    (hids : ([2, 3, 4, 5].map ids).Nodup) :
    (batch.records ids).Pairwise fun a b => ¬Collide a.plan b.plan := by
  have hid : ((batch.records ids).map (·.plan.id)).Nodup := by
    unfold ValidatedBatch.records
    rw [epochRecords_ids, registrations_length h]
    exact hids
  have hcode : ((batch.records ids).map (·.plan.providerPlanId)).Nodup := by
    unfold ValidatedBatch.records
    rw [epochRecords_map _ (·.providerPlanId) _ _ (fun _ _ => rfl)]
    exact h.codes
  have hcombo : ((batch.records ids).map fun e => (e.plan.cataloguePlan, e.plan.interval)).Nodup := by
    unfold ValidatedBatch.records
    rw [epochRecords_map _ (·.combination) _ _ (fun _ _ => rfl), h.matrix]
    decide
  rw [List.Nodup, List.pairwise_map] at hid hcode hcombo
  refine ((hid.and hcode).and hcombo).imp ?_
  rintro a b ⟨⟨hne, hne'⟩, hne''⟩ (heq | ⟨-, heq | ⟨-, hp, hi, -⟩⟩)
  · exact hne heq
  · exact hne' heq
  · exact hne'' (by rw [hp, hi])

theorem registration_of_accepted {ids : ℕ → Uuid} {mode : BillingProviderMode} {db : ProvisioningTables}
    {input : Option RegisterRequest} {now : Option ℤ} {request : RegisterRequest} {row : FxRateVersionRow}
    {registeredAt : ℤ} {batch : ValidatedBatch}
    (h : Accepted mode db input now request row registeredAt batch)
    (hkeys : (db.fxVersions.map (·.id)).Nodup) (hids : ([2, 3, 4, 5].map ids).Nodup)
    (hfresh : ∀ e ∈ db.epochs, e.plan.id ∉ [2, 3, 4, 5].map ids)
    (hrows : ∀ e ∈ batch.records ids, epochStorable e = true)
    (htexts : ∀ a, request.audit = some a →
      storableText a.operatorId = true ∧ storableText a.reason = true) :
    ∃ db', registration (fun _ => false) ids mode db input now =
        .ok ((batch.records ids).map (·.plan), db') ∧
      db'.epochs = db.epochs ++ batch.records ids := by
  have hbatch := prepare_ok h.prepared
  have hfree : ∀ e ∈ batch.records ids, ∀ x ∈ db.epochs, ¬Collide x.plan e.plan := by
    intro e he x hx
    obtain ⟨i, r, hi, rfl⟩ := mem_epochRecords.mp he
    have hi4 : i < 4 := by
      rw [← registrations_length hbatch]
      exact (List.getElem?_eq_some_iff.mp hi).1
    rintro (heq | ⟨hmode, hsame⟩)
    · refine hfresh x hx (List.mem_map.mpr ⟨2 + i, ?_, heq.symm⟩)
      interval_cases i <;> decide
    · obtain ⟨hne, hactive⟩ := h.clear x hx (hmode.trans hbatch.inMode) r (List.mem_of_getElem? hi)
      rcases hsame with heq | hsame
      · exact hne heq
      · exact hactive hsame
  have hepochs : registerEpochs (fun _ => false) ids batch 2 batch.registrations db =
      .ok ((batch.records ids).map (·.plan), { db with epochs := db.epochs ++ batch.records ids }) := by
    refine (registerEpochs_ok_iff hbatch.code).mpr ⟨fun _ _ => rfl, fun e he => ⟨hrows e he, ?_, hfree e he⟩,
      records_pairwise hbatch hids, rfl, rfl⟩
    obtain ⟨i, r, hi, rfl⟩ := mem_epochRecords.mp he
    obtain ⟨_, _, _, _, hp⟩ := hbatch.prepared r (List.mem_of_getElem? hi)
    exact ⟨row, h.stored, hp.fxRateVersionId.symm⟩
  obtain ⟨db', haudit, hdb'⟩ : ∃ db', recordRegistration (fun _ => false)
      { db with epochs := db.epochs ++ batch.records ids } batch ((batch.records ids).map (·.plan))
      request.audit = .ok db' ∧ db'.epochs = db.epochs ++ batch.records ids :=
    ⟨_, recordRegistration_ok_iff.mpr ⟨fun a ha => ⟨rfl, htexts a ha⟩, rfl⟩, rfl⟩
  refine ⟨db', ?_, hdb'⟩
  have hselected := prepareSelectedBatch_of hkeys h.stored h.selected h.prepared
  have hanswered : ∀ n, answered (fun _ => false) n = .ok () := fun n => answered_ok_iff.mpr rfl
  unfold registration
  rw [h.parsed, h.instant]
  simp only [hanswered, hselected, hepochs, haudit, bind, Except.bind, pure, Except.pure, reduceCtorEq, if_false]

/-! ## On sale -/

/-- The registration committed four active epochs under the FX row, one a plan of the matrix, whose amounts
    are rounded once from the exact product; each is priced at `asOf` by a snapshot that verifies. -/
def OnSale (row : FxRateVersionRow) (mode : BillingProviderMode) (asOf : ℤ) (db : ProvisioningTables)
    (result : Except ProvisioningRefusal (List ProviderPlanRow) × ProvisioningTables) : Prop :=
  ∃ records : List EpochRecord,
    result.1 = .ok (records.map (·.plan)) ∧ result.2.epochs = db.epochs ++ records ∧
      records.map (fun e => (e.plan.cataloguePlan, e.plan.interval)) = SANDBOX_PLAN_MATRIX ∧
      ∀ e ∈ records, e.plan.status = .active ∧ e.plan.mode = mode ∧ e.plan.fxRateVersionId = row.id ∧
        e.plan.paymentAmountMinor =
          halfUp (exactAmount (cataloguePriceMinor e.plan.cataloguePlan e.plan.interval) row) ∧
        ∃ s, priceFromProviderPlanEpoch e.plan row asOf mode = .ok s ∧ verifyPricingSnapshot s = .ok s ∧
          s.payment.paymentAmountMinor = e.plan.paymentAmountMinor

/-- The rate and the four amounts are safe integers, the instants have years of four digits, no provider
    plan code reads like a credential, and the texts fit a column. -/
structure Sellable (row : FxRateVersionRow) (request : RegisterRequest) (asOf : ℤ) : Prop where
  rate : row.fxRateScaled ≤ MAX_SAFE_INTEGER
  amounts : ∀ c ∈ SANDBOX_PLAN_MATRIX,
    halfUp (exactAmount (cataloguePriceMinor c.1 c.2) row) ≤ MAX_SAFE_INTEGER
  effectiveFrom : isIsoInstant row.effectiveFrom = true
  capturedAt : isIsoInstant row.capturedAt = true
  pricedAt : isIsoInstant asOf = true
  codes : ∀ f, some f ∈ request.evidence → credentialShaped f.providerPlanId = false
  references : ∀ f, some f ∈ request.evidence → storableText f.evidenceReference = true
  audit : ∀ a, request.audit = some a → storableText a.operatorId = true ∧ storableText a.reason = true

theorem parseEvidenceEntry_some {f : EvidenceFields} {e : SandboxProviderPlanEvidence}
    (h : parseEvidenceEntry (some f) = some e) :
    e.providerPlanId = f.providerPlanId ∧ e.evidenceReference = jsTrim f.evidenceReference ∧
      lengthBetween 1 190 e.evidenceReference = true := by
  unfold parseEvidenceEntry at h
  simp only [Option.bind_eq_bind, Option.bind_some, Option.bind_eq_some_iff] at h
  obtain ⟨_, -, _, -, _, -, _, -, h⟩ := h
  rw [Option.ite_none_right_eq_some] at h
  obtain ⟨hbounds, h⟩ := h
  cases h
  rw [Bool.and_eq_true] at hbounds
  exact ⟨rfl, rfl, hbounds.2⟩

theorem epochStorable_iff {row : FxRateVersionRow} {f : EvidenceFields}
    {entry : SandboxProviderPlanEvidence} {r : EpochRegistration} {id : Uuid} {mode : BillingProviderMode}
    {registeredAt : ℤ} (hf : parseEvidenceEntry (some f) = some entry) (hr : Prepared row entry r)
    (hmatrix : r.combination ∈ SANDBOX_PLAN_MATRIX) :
    epochStorable (epochRecord id mode registeredAt r) = true ↔
      r.paymentAmountMinor ≤ maxBigint ∧ credentialShaped f.providerPlanId = false ∧
        storableText f.evidenceReference = true := by
  obtain ⟨hcode, href, hlen⟩ := parseEvidenceEntry_some hf
  have hplan : r.cataloguePlan ≠ .starter := by
    intro h
    unfold EpochRegistration.combination at hmatrix
    rw [h] at hmatrix
    revert hmatrix
    cases r.interval <;> decide
  have hbounds := length_code hr.code
  have hcodeLen : lengthBetween 1 128 r.providerPlanId = true := by
    unfold lengthBetween
    simp only [Bool.and_eq_true, decide_eq_true_eq]
    omega
  have hcatalogue : 0 < r.catalogueAmountMinor ∧ r.catalogueAmountMinor ≤ maxBigint := by
    rw [hr.catalogue]
    cases r.cataloguePlan <;> cases r.interval <;> decide
  have hminimum : 10 ≤ r.paymentAmountMinor := hr.minimum
  have hpolicy : lengthBetween 1 64 BILLING_PRICING_POLICY_VERSION = true := by decide
  have hversion : lengthBetween 1 64 BILLING_CATALOGUE_VERSION = true := by decide
  rw [hr.evidenceReference.symm] at href hlen
  rw [← storableText_jsTrim, ← href, ← hcode, ← hr.providerPlanId]
  unfold epochStorable
  simp only [Bool.and_eq_true, decide_eq_true_eq, Bool.not_eq_true']
  simp only [epochRecord, hplan, hcodeLen, hlen, hcatalogue, hminimum, hpolicy, hversion,
    storableText_code hr.code, paymentAmountExponent, ne_eq, not_false_eq_true, true_and, and_true, and_assoc]

section
variable {mode : BillingProviderMode} {db : ProvisioningTables} {input : Option RegisterRequest}
  {now : Option ℤ} {request : RegisterRequest} {row : FxRateVersionRow} {registeredAt : ℤ}
  {batch : ValidatedBatch} {ids : ℕ → Uuid} {asOf : ℤ}

theorem amount_eq (h : Admitted row request.evidence registeredAt mode batch) {r : EpochRegistration}
    (hr : r ∈ batch.registrations) :
    r.combination ∈ SANDBOX_PLAN_MATRIX ∧
      r.paymentAmountMinor = halfUp (exactAmount (cataloguePriceMinor r.cataloguePlan r.interval) row) := by
  obtain ⟨_, _, _, _, hp⟩ := h.prepared r hr
  rw [hp.amount, hp.catalogue, ← h.matrix]
  exact ⟨List.mem_map_of_mem hr, rfl⟩

theorem onSale_of_sellable (h : Accepted mode db input now request row registeredAt batch)
    (hkeys : (db.fxVersions.map (·.id)).Nodup) (hids : ([2, 3, 4, 5].map ids).Nodup)
    (hfresh : ∀ e ∈ db.epochs, e.plan.id ∉ [2, 3, 4, 5].map ids) (hs : Sellable row request asOf) :
    OnSale row mode asOf db (registerSandboxPlanEpochs (fun _ => false) ids mode db input now) := by
  have hbatch := prepare_ok h.prepared
  have hamount : ∀ r ∈ batch.registrations, r.paymentAmountMinor ≤ MAX_SAFE_INTEGER := by
    intro r hr
    obtain ⟨hmem, heq⟩ := amount_eq hbatch hr
    rw [heq]
    exact hs.amounts r.combination hmem
  have hstorable : ∀ r ∈ batch.registrations, ∀ id,
      epochStorable (epochRecord id batch.mode batch.registeredAt r) = true := by
    intro r hr id
    obtain ⟨f, entry, hf, hentry, hp⟩ := hbatch.prepared r hr
    have hbig : r.paymentAmountMinor ≤ maxBigint := (hamount r hr).trans (by decide)
    exact (epochStorable_iff hentry hp (amount_eq hbatch hr).1).mpr ⟨hbig, hs.codes f hf, hs.references f hf⟩
  have hrows : ∀ e ∈ batch.records ids, epochStorable e = true := by
    intro e he
    obtain ⟨i, r, hi, rfl⟩ := mem_epochRecords.mp he
    exact hstorable r (List.mem_of_getElem? hi) _
  obtain ⟨db', hreg, hdb'⟩ := registration_of_accepted h hkeys hids hfresh hrows hs.audit
  unfold registerSandboxPlanEpochs
  rw [hreg]
  refine ⟨batch.records ids, rfl, hdb', ?_, fun e he => ?_⟩
  · unfold ValidatedBatch.records
    rw [epochRecords_map _ (·.combination) _ _ (fun _ _ => rfl), hbatch.matrix]
  · obtain ⟨i, r, hi, rfl⟩ := mem_epochRecords.mp he
    have hr := List.mem_of_getElem? hi
    obtain ⟨_, _, _, _, hp⟩ := hbatch.prepared r hr
    have hprice := (@price_epoch_iff row _ r (ids (2 + i)) batch.mode batch.registeredAt asOf
      hbatch.parsedFx hp (hstorable r hr _)).mpr
      ⟨hs.rate, hamount r hr, hs.effectiveFrom, hs.capturedAt, hs.pricedAt⟩
    rw [hbatch.inMode] at hprice ⊢
    exact ⟨rfl, rfl, hp.fxRateVersionId, (amount_eq hbatch hr).2, hprice⟩

theorem registered_records (h : Accepted mode db input now request row registeredAt batch)
    (hkeys : (db.fxVersions.map (·.id)).Nodup) {epochs : List ProviderPlanRow}
    (hok : (registerSandboxPlanEpochs (fun _ => false) ids mode db input now).1 = .ok epochs) :
    (∀ e ∈ batch.records ids, epochStorable e = true) ∧
      (∀ a, request.audit = some a → storableText a.operatorId = true ∧ storableText a.reason = true) ∧
      (registerSandboxPlanEpochs (fun _ => false) ids mode db input now).2.epochs =
        db.epochs ++ batch.records ids := by
  unfold registerSandboxPlanEpochs at hok ⊢
  split at hok
  · rename_i epochs' db' hreg
    obtain ⟨request', row', t', batch', h', -, hrows, htexts, -, hdb'⟩ := registration_ok hreg
    have hrequest : request' = request := by
      have := h'.parsed.symm.trans h.parsed
      exact Except.ok.inj this
    subst hrequest
    have hrow : row' = row := by
      have := h'.selected.symm.trans h.selected
      have hid := congrArg Uuid.ofText? this
      rw [Uuid.ofText?_text, Uuid.ofText?_text] at hid
      exact Rows.eq_of_key hkeys h'.stored h.stored (Option.some.inj hid)
    subst hrow
    have ht : t' = registeredAt := Option.some.inj (h'.instant.symm.trans h.instant)
    subst ht
    have hb : batch' = batch := Except.ok.inj (h'.prepared.symm.trans h.prepared)
    subst hb
    exact ⟨hrows, htexts, hdb'⟩
  · cases hok

theorem sellable_of_onSale (h : Accepted mode db input now request row registeredAt batch)
    (hkeys : (db.fxVersions.map (·.id)).Nodup)
    (hsold : OnSale row mode asOf db (registerSandboxPlanEpochs (fun _ => false) ids mode db input now)) :
    Sellable row request asOf := by
  obtain ⟨records, hok, hrecords, -, hall⟩ := hsold
  obtain ⟨hrows, htexts, hepochs⟩ := registered_records h hkeys hok
  have hbatch := prepare_ok h.prepared
  have heq : records = batch.records ids := List.append_cancel_left (hrecords.symm.trans hepochs)
  subst heq
  have hprice : ∀ r ∈ batch.registrations, row.fxRateScaled ≤ MAX_SAFE_INTEGER ∧
      r.paymentAmountMinor ≤ MAX_SAFE_INTEGER ∧ isIsoInstant row.effectiveFrom = true ∧
      isIsoInstant row.capturedAt = true ∧ isIsoInstant asOf = true := by
    intro r hr
    obtain ⟨i, hi⟩ := List.getElem?_of_mem hr
    have he : epochRecord (ids (2 + i)) batch.mode batch.registeredAt r ∈ batch.records ids :=
      mem_epochRecords.mpr ⟨i, r, hi, rfl⟩
    obtain ⟨_, _, _, _, hp⟩ := hbatch.prepared r hr
    obtain ⟨-, -, -, -, hs⟩ := hall _ he
    rw [← hbatch.inMode] at hs
    exact (price_epoch_iff hbatch.parsedFx hp (hrows _ he)).mp hs
  have hcolumns : ∀ f, some f ∈ request.evidence →
      credentialShaped f.providerPlanId = false ∧ storableText f.evidenceReference = true := by
    intro f hf
    obtain ⟨r, hr, entry, hentry, hp⟩ := hbatch.complete f hf
    obtain ⟨i, hi⟩ := List.getElem?_of_mem hr
    have he : epochRecord (ids (2 + i)) batch.mode batch.registeredAt r ∈ batch.records ids :=
      mem_epochRecords.mpr ⟨i, r, hi, rfl⟩
    exact ((epochStorable_iff hentry hp (amount_eq hbatch hr).1).mp (hrows _ he)).2
  obtain ⟨first, hfirst⟩ : ∃ r, r ∈ batch.registrations :=
    List.exists_mem_of_length_pos (by rw [registrations_length hbatch]; decide)
  obtain ⟨hrate, -, heffective, hcaptured, hpriced⟩ := hprice first hfirst
  exact
    { rate := hrate
      amounts := fun c hc => by
        rw [← hbatch.matrix] at hc
        obtain ⟨r, hr, rfl⟩ := List.mem_map.mp hc
        have := (hprice r hr).2.1
        rwa [(amount_eq hbatch hr).2] at this
      effectiveFrom := heffective
      capturedAt := hcaptured
      pricedAt := hpriced
      codes := fun f hf => (hcolumns f hf).1
      references := fun f hf => (hcolumns f hf).2
      audit := htexts }

end

theorem registration_refused (faults : ℕ → Bool) (ids : ℕ → Uuid) (mode : BillingProviderMode)
    (db : ProvisioningTables) (input : Option RegisterRequest) (now : Option ℤ) :
    (∃ request row registeredAt batch epochs,
      Accepted mode db input now request row registeredAt batch ∧
        (∀ n ∈ statements request, faults n = false) ∧
        (registerSandboxPlanEpochs faults ids mode db input now).1 = .ok epochs) ∨
      (∃ refusal, registerSandboxPlanEpochs faults ids mode db input now = (.error refusal, db)) := by
  unfold registerSandboxPlanEpochs
  split
  · rename_i epochs db' hreg
    obtain ⟨request, row, t, batch, h, hfaults, -⟩ := registration_ok hreg
    exact .inl ⟨request, row, t, batch, epochs, h, hfaults, rfl⟩
  · exact .inr ⟨_, rfl⟩

/-- What is provisioned is on sale exactly when it is sellable; and a request that is not accepted, or one of
    whose statements fails, leaves nothing behind. -/
theorem provisioned_plans_sell (ids : ℕ → Uuid) (mode : BillingProviderMode) (db : ProvisioningTables)
    (input : Option RegisterRequest) (now : Option ℤ) :
    (∀ (request : RegisterRequest) (row : FxRateVersionRow) (registeredAt : ℤ) (batch : ValidatedBatch)
      (asOf : ℤ),
      Accepted mode db input now request row registeredAt batch →
      (db.fxVersions.map (·.id)).Nodup → ([2, 3, 4, 5].map ids).Nodup →
      (∀ e ∈ db.epochs, e.plan.id ∉ [2, 3, 4, 5].map ids) →
      (OnSale row mode asOf db (registerSandboxPlanEpochs (fun _ => false) ids mode db input now) ↔
        Sellable row request asOf)) ∧
    ∀ faults : ℕ → Bool,
      (∃ request row registeredAt batch epochs,
        Accepted mode db input now request row registeredAt batch ∧
          (∀ n ∈ statements request, faults n = false) ∧
          (registerSandboxPlanEpochs faults ids mode db input now).1 = .ok epochs) ∨
        ∃ refusal, registerSandboxPlanEpochs faults ids mode db input now = (.error refusal, db) :=
  ⟨fun _ _ _ _ _ h hkeys hids hfresh =>
      ⟨sellable_of_onSale h hkeys, onSale_of_sellable h hkeys hids hfresh⟩,
    fun faults => registration_refused faults ids mode db input now⟩

/-! ## A rate of 12.5, stored with two and with seventeen places -/

namespace Sample

/-- The stored version, captured when it became effective. -/
def row (rateScaled scale : ℕ) : FxRateVersionRow where
  id := Uuid.ofDigit 1
  baseCurrency := "USD"
  quoteCurrency := "GHS"
  fxRateScaled := rateScaled
  fxRateScale := scale
  source := .ops
  effectiveFrom := 1767225600000
  capturedAt := 1767225600000

def entry (plan interval providerInterval code : String) (amount : ℤ) : Option EvidenceFields :=
  some
    { cataloguePlan := plan
      interval := interval
      providerInterval := providerInterval
      providerPlanId := code
      paymentCurrency := "GHS"
      paymentAmountMinor := .number amount
      paymentAmountExponent := 2
      mode := "test"
      paymentCountCap := .uncapped
      evidenceReference := "dashboard export" }

def request : RegisterRequest where
  fxRateVersionId := (Uuid.ofDigit 1).text
  evidence :=
    [entry "elite" "annual" "annually" "PLN_eliteyear1" 1237500,
      entry "pro" "monthly" "monthly" "PLN_promonth1" 48750,
      entry "pro" "annual" "annually" "PLN_proyear12" 487500,
      entry "elite" "monthly" "monthly" "PLN_elitemonth" 123750]
  audit := none

def registration (plan : CommercialPlanId) (interval : BillingInterval) (amount usd : ℕ) (code : String) :
    EpochRegistration :=
  ⟨plan, interval, amount, usd, code, "dashboard export", Uuid.ofDigit 1⟩

def batch (fx : FxRateVersionRow) : ValidatedBatch where
  fxVersion := fx
  registeredAt := 1767225660000
  mode := .test
  registrations :=
    [registration .pro .monthly 48750 3900 "PLN_promonth1",
      registration .pro .annual 487500 39000 "PLN_proyear12",
      registration .elite .monthly 123750 9900 "PLN_elitemonth",
      registration .elite .annual 1237500 99000 "PLN_eliteyear1"]

def tables (fx : FxRateVersionRow) : ProvisioningTables := ⟨[fx], [], []⟩

def ids (n : ℕ) : Uuid := Uuid.ofDigit (Fin.ofNat 16 n)

theorem texts (f : EvidenceFields) (hf : some f ∈ request.evidence) :
    credentialShaped f.providerPlanId = false ∧ storableText f.evidenceReference = true := by
  simp only [request, entry, List.mem_cons, List.not_mem_nil, Option.some.injEq, or_false] at hf
  rcases hf with rfl | rfl | rfl | rfl <;> decide +kernel

theorem accepted_short : Accepted .test (tables (row 1250 2)) (some request) (some 1767225660000) request
    (row 1250 2) 1767225660000 (batch (row 1250 2)) where
  parsed := by decide +kernel
  instant := rfl
  stored := List.mem_singleton_self _
  selected := rfl
  prepared := by decide +kernel
  clear := fun _ he => absurd he List.not_mem_nil

theorem accepted_long : Accepted .test (tables (row 1250000000000000000 17)) (some request)
    (some 1767225660000) request (row 1250000000000000000 17) 1767225660000
    (batch (row 1250000000000000000 17)) where
  parsed := by decide +kernel
  instant := rfl
  stored := List.mem_singleton_self _
  selected := rfl
  prepared := by decide +kernel
  clear := fun _ he => absurd he List.not_mem_nil

end Sample

/-- Twelve and a half cedis a dollar, with two places: the four plans are on sale. -/
theorem short_rate_plans_sell :
    OnSale (Sample.row 1250 2) .test 1767225720000 (Sample.tables (Sample.row 1250 2))
      (registerSandboxPlanEpochs (fun _ => false) Sample.ids .test (Sample.tables (Sample.row 1250 2))
        (some Sample.request) (some 1767225660000)) :=
  ((provisioned_plans_sell Sample.ids _ _ _ _).1 _ _ _ _ 1767225720000 Sample.accepted_short
    (by decide) (by decide) (fun _ he => absurd he List.not_mem_nil)).mpr
    { rate := by decide
      amounts := by decide +kernel
      effectiveFrom := by decide
      capturedAt := by decide
      pricedAt := by decide
      codes := fun f hf => (Sample.texts f hf).1
      references := fun f hf => (Sample.texts f hf).2
      audit := fun _ h => nomatch h }

/-- The same rate with seventeen places: accepted, and no plan is on sale. -/
theorem long_rate_plans_do_not_sell :
    Accepted .test (Sample.tables (Sample.row 1250000000000000000 17)) (some Sample.request)
        (some 1767225660000) Sample.request (Sample.row 1250000000000000000 17) 1767225660000
        (Sample.batch (Sample.row 1250000000000000000 17)) ∧
      (∃ epochs, (registerSandboxPlanEpochs (fun _ => false) Sample.ids .test
        (Sample.tables (Sample.row 1250000000000000000 17)) (some Sample.request)
        (some 1767225660000)).1 = .ok epochs ∧ epochs.length = 4) ∧
      ¬OnSale (Sample.row 1250000000000000000 17) .test 1767225720000
        (Sample.tables (Sample.row 1250000000000000000 17))
        (registerSandboxPlanEpochs (fun _ => false) Sample.ids .test
          (Sample.tables (Sample.row 1250000000000000000 17)) (some Sample.request)
          (some 1767225660000)) := by
  refine ⟨Sample.accepted_long, ⟨(Sample.batch (Sample.row 1250000000000000000 17)).records Sample.ids
    |>.map (·.plan), by decide +kernel, by decide +kernel⟩, fun h => ?_⟩
  have hs := sellable_of_onSale Sample.accepted_long (by decide +kernel) h
  exact absurd hs.rate (by decide +kernel)

end VeltrixEye.Provisioning
