import VeltrixEye.Billing.Provisioning
import VeltrixEye.Lib.Related

/-!
# Provisioned plans are sold (`billing/provisioning.ts`, `billing/pricing.ts`)

Registration computes with unbounded integers on the stored FX row; pricing puts the same facts through a
snapshot of JavaScript numbers and ISO texts.

* `computePaymentAmountMinor_ok` — the amount is one half-up rounding of the exact product.
* `prepare_ok` — an accepted batch is the matrix, in its order, priced from the selected FX row.
* `registerEpochs_ok_iff` — when the four inserts succeed, and what they leave behind.
-/

namespace VeltrixEye.Provisioning

open Billing

/-! ## The amount -/

/-- The exact product of an amount in USD cents and a rate. -/
def exactAmount (usdMinor : ℕ) (fx : FxRateVersionRow) : ℚ :=
  (usdMinor * fx.fxRateScaled : ℕ) / (10 ^ fx.fxRateScale : ℕ)

/-- Rounding half up. -/
def halfUp (x : ℚ) : ℕ := ⌊x + 1 / 2⌋₊

theorem halfUp_exactAmount (usdMinor : ℕ) (fx : FxRateVersionRow) :
    halfUp (exactAmount usdMinor fx) =
      (2 * usdMinor * fx.fxRateScaled + 10 ^ fx.fxRateScale) / (2 * 10 ^ fx.fxRateScale) := by
  have hpos : (0 : ℚ) < (10 ^ fx.fxRateScale : ℕ) := by positivity
  rw [← Nat.floor_div_eq_div (K := ℚ)]
  unfold halfUp exactAmount
  congr 1
  push_cast
  field_simp

theorem computePaymentAmountMinor_ok {usdMinor n : ℕ} {fx : FxRateVersionRow} :
    computePaymentAmountMinor usdMinor fx.fxRateScaled fx.fxRateScale = .ok n ↔
      usdMinor ≠ 0 ∧ fx.fxRateScaled ≠ 0 ∧ 1 ≤ fx.fxRateScale ∧ fx.fxRateScale ≤ maxFxScale ∧
        n = halfUp (exactAmount usdMinor fx) := by
  unfold computePaymentAmountMinor
  rw [Except.ite_error_eq_ok, Except.ite_error_eq_ok, Except.ite_error_eq_ok, halfUp_exactAmount]
  constructor
  · rintro ⟨hu, hr, hs, h⟩
    cases h
    exact ⟨hu, hr, by omega, by omega, rfl⟩
  · rintro ⟨hu, hr, hs, hs', rfl⟩
    exact ⟨hu, hr, by omega, rfl⟩

/-! ## Texts -/

theorem mem_dropWhile_of_not {α : Type} {p : α → Bool} {a : α} (h : p a = false) {l : List α} :
    a ∈ l.dropWhile p ↔ a ∈ l := by
  refine ⟨fun ha => (List.dropWhile_suffix p).subset ha, fun ha => ?_⟩
  rw [← List.takeWhile_append_dropWhile (p := p) (l := l), List.mem_append] at ha
  rcases ha with ha | ha
  · have := List.mem_takeWhile_imp ha
    rw [h] at this
    cases this
  · exact ha

theorem mem_jsTrim {s : String} {c : Char} (h : isJsSpace c = false) :
    c ∈ (jsTrim s).toList ↔ c ∈ s.toList := by
  unfold jsTrim
  rw [String.toList_ofList, List.mem_reverse, mem_dropWhile_of_not h, List.mem_reverse,
    mem_dropWhile_of_not h]

theorem storableText_jsTrim (s : String) : storableText (jsTrim s) = storableText s := by
  have hcontains : (jsTrim s).toList.contains (Char.ofNat 0) = s.toList.contains (Char.ofNat 0) := by
    rw [Bool.eq_iff_iff, List.contains_iff_mem, List.contains_iff_mem]
    exact mem_jsTrim (by decide)
  unfold storableText
  rw [hcontains]

theorem code_char {code : String} (h : isProviderPlanCode code = true) {c : Char}
    (hc : c ∈ code.toList) : 48 ≤ c.toNat ∧ c.toNat ≤ 122 := by
  unfold isProviderPlanCode at h
  simp only [Bool.and_eq_true, decide_eq_true_eq, List.all_eq_true] at h
  obtain ⟨⟨⟨hhead, -⟩, -⟩, htail⟩ := h
  rw [← List.take_append_drop 4 code.toList, List.mem_append, hhead] at hc
  rcases hc with hc | hc
  · fin_cases hc <;> decide
  · have := htail c hc
    simp only [Bool.or_eq_true, Char.isDigit, Char.isLower, Bool.and_eq_true, decide_eq_true_eq] at this
    have h48 : (48 : ℕ) ≤ c.toNat ∧ c.toNat ≤ 122 := by
      rcases this with ⟨h1, h2⟩ | ⟨h1, h2⟩
      · have h1' : (48 : ℕ) ≤ c.toNat := h1
        have h2' : c.toNat ≤ 57 := h2
        omega
      · have h1' : (97 : ℕ) ≤ c.toNat := h1
        have h2' : c.toNat ≤ 122 := h2
        omega
    exact h48

theorem code_not_space {code : String} (h : isProviderPlanCode code = true) :
    ∀ c ∈ code.toList, isJsSpace c = false := by
  intro c hc
  have := code_char h hc
  exact isJsSpace_of_printable (by omega)

theorem jsTrim_code {code : String} (h : isProviderPlanCode code = true) : jsTrim code = code :=
  jsTrim_of_no_space (code_not_space h)

theorem storableText_code {code : String} (h : isProviderPlanCode code = true) :
    storableText code = true := by
  unfold storableText
  rw [Bool.not_eq_true', List.contains_eq_mem, decide_eq_false_iff_not]
  intro hc
  have h48 : 48 ≤ (Char.ofNat 0).toNat := (code_char h hc).1
  exact absurd h48 (by decide)

theorem length_code {code : String} (h : isProviderPlanCode code = true) :
    10 ≤ code.toList.length ∧ code.toList.length ≤ 44 := by
  unfold isProviderPlanCode at h
  simp only [Bool.and_eq_true, decide_eq_true_eq, List.length_drop] at h
  omega

/-! ## An accepted batch -/

/-- What a prepared registration owes to its evidence entry and to the FX row. -/
structure Prepared (fx : FxRateVersionRow) (entry : SandboxProviderPlanEvidence)
    (r : EpochRegistration) : Prop where
  providerPlanId : r.providerPlanId = entry.providerPlanId
  evidenceReference : r.evidenceReference = entry.evidenceReference
  fxRateVersionId : r.fxRateVersionId = fx.id
  catalogue : r.catalogueAmountMinor = cataloguePriceMinor r.cataloguePlan r.interval
  amount : r.paymentAmountMinor = halfUp (exactAmount r.catalogueAmountMinor fx)
  minimum : paymentMinimumMinor ≤ r.paymentAmountMinor
  code : isProviderPlanCode r.providerPlanId = true

theorem validateProviderPlanCode_ok {code : String} {seen : List String} {u : Unit}
    (h : validateProviderPlanCode code seen = .ok u) : isProviderPlanCode code = true := by
  unfold validateProviderPlanCode at h
  by_contra hcode
  rw [Bool.not_eq_true] at hcode
  simp only [hcode, Bool.not_false, if_true] at h
  split at h <;> cases h

theorem prepareRegistration_ok {fx : FxRateVersionRow} {mode : BillingProviderMode} {seen : List String}
    {entry : SandboxProviderPlanEvidence} {r : EpochRegistration}
    (h : prepareRegistration fx mode seen entry = .ok r) : Prepared fx entry r := by
  unfold prepareRegistration at h
  extract_lets catalogue checkCode checkExponent checkCap checkCurrency checkMode checkInterval at h
  split at h
  · cases h
  simp only [checkInterval] at h
  split at h
  · cases h
  simp only [checkMode] at h
  split at h
  · cases h
  simp only [checkCurrency] at h
  split at h
  · cases h
  simp only [checkCap] at h
  split at h
  · cases h
  simp only [checkExponent] at h
  split at h
  · cases h
  simp only [checkCode, Except.bind_ok_iff] at h
  obtain ⟨_, hcode, derived, hderived, h⟩ := h
  rw [mapError_eq_ok, computePaymentAmountMinor_ok] at hderived
  split at h
  · cases h
  rename_i hmin
  split at h
  · cases h
  cases h
  exact
    { providerPlanId := rfl
      evidenceReference := rfl
      fxRateVersionId := rfl
      catalogue := rfl
      amount := hderived.2.2.2.2
      minimum := not_lt.mp hmin
      code := validateProviderPlanCode_ok hcode }

theorem prepareRegistrations_ok {fx : FxRateVersionRow} {mode : BillingProviderMode}
    {evidence : List SandboxProviderPlanEvidence} {seen : List String} {rs : List EpochRegistration}
    (h : prepareRegistrations fx mode seen evidence = .ok rs) :
    List.Forall₂ (Prepared fx) evidence rs := by
  induction evidence generalizing seen rs with
  | nil =>
    cases h
    exact .nil
  | cons entry rest ih =>
    simp only [prepareRegistrations, Except.bind_ok_iff] at h
    obtain ⟨r, hr, rs', hrs, h⟩ := h
    cases h
    exact .cons (prepareRegistration_ok hr) (ih hrs)

theorem assertRegistrationsDistinct_ok {rs : List EpochRegistration}
    {combos : List (CommercialPlanId × BillingInterval)} {codes : List String} {u : Unit}
    (h : assertRegistrationsDistinct combos codes rs = .ok u) :
    (∀ r ∈ rs, r.combination ∈ SANDBOX_PLAN_MATRIX) ∧
      (rs.map (·.combination)).Nodup ∧ (∀ r ∈ rs, r.combination ∉ combos) ∧
      (rs.map (·.providerPlanId)).Nodup ∧ ∀ r ∈ rs, r.providerPlanId ∉ codes := by
  induction rs generalizing combos codes with
  | nil => simp
  | cons r rest ih =>
    simp only [assertRegistrationsDistinct] at h
    split at h
    · cases h
    rename_i hmem
    split at h
    · cases h
    rename_i hcombo
    split at h
    · cases h
    rename_i hcode
    obtain ⟨hrest, hcombos, hfresh, hcodes, hfresh'⟩ := ih h
    simp only [List.mem_cons, not_or] at hfresh hfresh'
    simp only [List.forall_mem_cons, List.map_cons, List.nodup_cons, List.mem_map, not_exists, not_and]
    refine ⟨⟨not_not.mp hmem, hrest⟩, ⟨fun x hx => (hfresh x hx).1, hcombos⟩,
      ⟨hcombo, fun x hx => (hfresh x hx).2⟩, ⟨fun x hx => (hfresh' x hx).1, hcodes⟩,
      hcode, fun x hx => (hfresh' x hx).2⟩

theorem combinations_sorted {rs : List EpochRegistration} (hlen : rs.length = SANDBOX_PLAN_MATRIX.length)
    (hmem : ∀ r ∈ rs, r.combination ∈ SANDBOX_PLAN_MATRIX) (hnodup : (rs.map (·.combination)).Nodup) :
    (rs.insertionSort fun a b => matrixIndex a ≤ matrixIndex b).map (·.combination) =
      SANDBOX_PLAN_MATRIX := by
  have hsub : rs.map (·.combination) ⊆ SANDBOX_PLAN_MATRIX := by
    intro c hc
    obtain ⟨r, hr, rfl⟩ := List.mem_map.mp hc
    exact hmem r hr
  have hperm : (rs.map (·.combination)).Perm SANDBOX_PLAN_MATRIX :=
    (List.subperm_of_subset hnodup hsub).perm_of_length_le (by simp [hlen])
  have hsorted : ((rs.insertionSort fun a b => matrixIndex a ≤ matrixIndex b).map
      (·.combination)).Pairwise fun a b => SANDBOX_PLAN_MATRIX.idxOf a ≤ SANDBOX_PLAN_MATRIX.idxOf b := by
    rw [List.pairwise_map]
    have : Std.Total fun a b : EpochRegistration => matrixIndex a ≤ matrixIndex b :=
      ⟨fun a b => Nat.le_total _ _⟩
    have : IsTrans EpochRegistration fun a b => matrixIndex a ≤ matrixIndex b :=
      ⟨fun a b c => Nat.le_trans⟩
    exact List.pairwise_insertionSort _ rs
  have hordered := ((List.perm_insertionSort
    (fun a b : EpochRegistration => matrixIndex a ≤ matrixIndex b) rs).map (·.combination)).trans hperm
  refine List.Perm.eq_of_pairwise ?_ hsorted (by decide) hordered
  intro a b ha _ hab hba
  exact (List.idxOf_inj (hordered.mem_iff.mp ha)).mp (le_antisymm hab hba)

/-- What an accepted batch is. -/
structure Admitted (row : FxRateVersionRow) (evidence : List (Option EvidenceFields)) (registeredAt : ℤ)
    (mode : BillingProviderMode) (batch : ValidatedBatch) : Prop where
  fxVersion : batch.fxVersion = row
  registered : batch.registeredAt = registeredAt
  inMode : batch.mode = mode
  parsedFx : parseFxRateVersion row = .ok row
  matrix : batch.registrations.map (·.combination) = SANDBOX_PLAN_MATRIX
  codes : (batch.registrations.map (·.providerPlanId)).Nodup
  /-- Every registration comes from an entry, and every entry becomes a registration. -/
  prepared : ∀ r ∈ batch.registrations, ∃ f entry, some f ∈ evidence ∧
    parseEvidenceEntry (some f) = some entry ∧ Prepared row entry r
  complete : ∀ f, some f ∈ evidence → ∃ r ∈ batch.registrations, ∃ entry,
    parseEvidenceEntry (some f) = some entry ∧ Prepared row entry r

theorem Admitted.code {row : FxRateVersionRow} {evidence : List (Option EvidenceFields)} {registeredAt : ℤ}
    {mode : BillingProviderMode} {batch : ValidatedBatch} (h : Admitted row evidence registeredAt mode batch) :
    ∀ r ∈ batch.registrations, isProviderPlanCode r.providerPlanId = true := by
  intro r hr
  obtain ⟨_, _, _, _, hp⟩ := h.prepared r hr
  exact hp.code

theorem parseEvidence_ok {raw : List (Option EvidenceFields)} {evidence : List SandboxProviderPlanEvidence}
    (h : parseEvidence raw = .ok evidence) :
    List.Forall₂ (fun entry e => parseEvidenceEntry entry = some e) raw evidence := by
  unfold parseEvidence at h
  induction raw generalizing evidence with
  | nil =>
    cases h
    exact .nil
  | cons entry rest ih =>
    simp only [List.mapM_cons, Except.bind_ok_iff] at h
    obtain ⟨e, he, es, hes, h⟩ := h
    cases h
    refine .cons ?_ (ih hes)
    split at he
    · rename_i e' heq
      cases he
      exact heq
    · cases he

theorem admissible_ok {rs : List EpochRegistration} {u : Unit}
    (h : assertSandboxRegistrationBatchAdmissible rs = .ok u) :
    rs.length = SANDBOX_PLAN_MATRIX.length ∧ (∀ r ∈ rs, r.combination ∈ SANDBOX_PLAN_MATRIX) ∧
      (rs.map (·.combination)).Nodup ∧ (rs.map (·.providerPlanId)).Nodup := by
  unfold assertSandboxRegistrationBatchAdmissible at h
  dsimp only at h
  split at h
  · cases h
  rename_i hlen
  obtain ⟨_, hdistinct, -⟩ := Except.bind_ok_iff.mp h
  obtain ⟨hmem, hcombos, -, hcodes, -⟩ := assertRegistrationsDistinct_ok hdistinct
  exact ⟨not_not.mp hlen, hmem, hcombos, hcodes⟩

theorem prepare_ok {row : FxRateVersionRow} {evidence : List (Option EvidenceFields)} {registeredAt : ℤ}
    {mode : BillingProviderMode} {batch : ValidatedBatch}
    (h : prepareSandboxProvisioningBatch row evidence (some registeredAt) mode = .ok batch) :
    Admitted row evidence registeredAt mode batch := by
  unfold prepareSandboxProvisioningBatch at h
  simp only [Except.bind_ok_iff] at h
  obtain ⟨fx, hfx, h⟩ := h
  rw [mapError_eq_ok] at hfx
  have hrow := parseFxRateVersion_ok hfx
  subst hrow
  split at h
  · cases h
  split at h
  · cases h
  obtain ⟨_, -, h⟩ := Except.bind_ok_iff.mp h
  obtain ⟨entries, hentries, h⟩ := Except.bind_ok_iff.mp h
  split at h
  · cases h
  split at h
  · cases h
  obtain ⟨rs, hrs, h⟩ := Except.bind_ok_iff.mp h
  obtain ⟨_, hadmissible, h⟩ := Except.bind_ok_iff.mp h
  cases h
  have hparsed := parseEvidence_ok hentries
  have hprepared := prepareRegistrations_ok hrs
  obtain ⟨hlen, hmem, hcombos, hcodes⟩ := admissible_ok hadmissible
  have hperm : (rs.insertionSort fun a b => matrixIndex a ≤ matrixIndex b).Perm rs :=
    List.perm_insertionSort _ rs
  exact
    { fxVersion := rfl
      registered := rfl
      inMode := rfl
      parsedFx := hfx
      matrix := combinations_sorted hlen hmem hcombos
      codes := (hperm.map _).nodup_iff.mpr hcodes
      prepared := fun r hr => by
        obtain ⟨e, he, hpr⟩ := Related.exists_right hprepared (hperm.mem_iff.mp hr)
        obtain ⟨entry, hentry, hpe⟩ := Related.exists_right hparsed he
        cases entry with
        | none => cases hpe
        | some f => exact ⟨f, e, hentry, hpe, hpr⟩
      complete := fun f hf => by
        obtain ⟨e, he, hpe⟩ := Related.exists_left hparsed hf
        obtain ⟨r, hr, hpr⟩ := Related.exists_left hprepared he
        exact ⟨r, hperm.mem_iff.mpr hr, e, hpe, hpr⟩ }

/-! ## The four inserts -/

/-- The rows of the registrations, the first inserted by statement `n`. -/
def epochRecords (ids : ℕ → Uuid) (mode : BillingProviderMode) (registeredAt : ℤ) :
    ℕ → List EpochRegistration → List EpochRecord
  | _, [] => []
  | n, r :: rest =>
    epochRecord (ids n) mode registeredAt r :: epochRecords ids mode registeredAt (n + 1) rest

/-- The rows of an admitted batch. -/
def ValidatedBatch.records (ids : ℕ → Uuid) (batch : ValidatedBatch) : List EpochRecord :=
  epochRecords ids batch.mode batch.registeredAt 2 batch.registrations

/-- Two rows that the tables do not hold together. -/
def Collide (a b : ProviderPlanRow) : Prop :=
  a.id = b.id ∨ (a.mode = b.mode ∧ (a.providerPlanId = b.providerPlanId ∨ (a.status = .active ∧
    a.cataloguePlan = b.cataloguePlan ∧ a.interval = b.interval ∧ a.paymentCurrency = b.paymentCurrency)))

theorem epochTaken_eq_false {db : ProvisioningTables} {row : ProviderPlanRow} :
    epochTaken db row = false ↔ ∀ e ∈ db.epochs, ¬Collide e.plan row := by
  unfold epochTaken Collide
  simp only [List.any_eq_false, Bool.or_eq_true, Bool.and_eq_true, decide_eq_true_eq, and_assoc]

theorem insertEpoch_ok_iff {db db' : ProvisioningTables} {e : EpochRecord} :
    insertEpoch db e = .ok db' ↔ epochStorable e = true ∧
      (∃ v ∈ db.fxVersions, v.id = e.plan.fxRateVersionId) ∧
      (∀ x ∈ db.epochs, ¬Collide x.plan e.plan) ∧ db' = { db with epochs := db.epochs ++ [e] } := by
  unfold insertEpoch
  rw [Except.ite_error_eq_ok, Except.ite_error_eq_ok, Bool.not_eq_true, epochTaken_eq_false]
  simp only [not_or, Bool.not_eq_true', Bool.not_eq_false, List.any_eq_true, decide_eq_true_eq,
    Except.ok.injEq, and_assoc]
  rw [eq_comm (a := db')]

theorem parseProviderPlan_storable {e : EpochRecord} (hs : epochStorable e = true)
    (hcode : isProviderPlanCode e.plan.providerPlanId = true) :
    parseProviderPlan e.plan e.plan.mode = .ok e.plan := by
  unfold epochStorable at hs
  simp only [Bool.and_eq_true, decide_eq_true_eq] at hs
  obtain ⟨⟨⟨⟨⟨⟨⟨⟨⟨⟨⟨⟨⟨hplan, hcurrency⟩, hexponent⟩, hamount⟩, -⟩, -⟩, -⟩, -⟩, -⟩, -⟩, -⟩, -⟩, -⟩, -⟩ := hs
  have htrim : jsTrim e.plan.providerPlanId ≠ "" := by
    rw [jsTrim_code hcode]
    intro hnil
    have := (length_code hcode).1
    rw [hnil] at this
    simp at this
  have hne : e.plan.paymentAmountMinor ≠ 0 := by omega
  unfold parseProviderPlan
  rw [if_neg (not_not.mpr rfl), if_neg hplan, if_neg (by simp [isPaymentCurrency, hcurrency]), if_neg hne,
    if_neg (by simp [paymentAmountExponent, hexponent]), if_neg htrim]

theorem register_ok_iff {db db' : ProvisioningTables} {e : EpochRecord} {epoch : ProviderPlanRow}
    (hcode : isProviderPlanCode e.plan.providerPlanId = true) :
    register db e.plan.mode e = .ok (epoch, db') ↔
      epochStorable e = true ∧ (∃ v ∈ db.fxVersions, v.id = e.plan.fxRateVersionId) ∧
        (∀ x ∈ db.epochs, ¬Collide x.plan e.plan) ∧ epoch = e.plan ∧
        db' = { db with epochs := db.epochs ++ [e] } := by
  unfold register
  constructor
  · intro h
    dsimp only at h
    split at h
    · cases h
    split at h
    · cases h
    split at h
    · cases h
    obtain ⟨db₁, hinsert, h⟩ := Except.bind_ok_iff.mp h
    obtain ⟨hs, hfx, hfree, rfl⟩ := insertEpoch_ok_iff.mp hinsert
    rw [parseProviderPlan_storable hs hcode] at h
    cases h
    exact ⟨hs, hfx, hfree, rfl, rfl⟩
  · rintro ⟨hs, hfx, hfree, rfl, rfl⟩
    have hinsert := insertEpoch_ok_iff.mpr ⟨hs, hfx, hfree, rfl⟩
    have hparse := parseProviderPlan_storable hs hcode
    unfold epochStorable at hs
    simp only [Bool.and_eq_true, decide_eq_true_eq] at hs
    obtain ⟨⟨⟨⟨⟨⟨⟨⟨⟨⟨⟨⟨⟨hplan, -⟩, -⟩, hamount⟩, -⟩, hcatalogue⟩, -⟩, -⟩, -⟩, -⟩, -⟩, -⟩, -⟩, -⟩ := hs
    have hne : e.plan.paymentAmountMinor ≠ 0 := by omega
    have hne' : e.catalogueAmountMinor ≠ 0 := by omega
    dsimp only
    rw [if_neg hplan, if_neg hne, if_neg hne', hinsert, hparse]
    rfl

theorem answered_ok_iff {faults : ℕ → Bool} {n : ℕ} {u : Unit} :
    answered faults n = .ok u ↔ faults n = false := by
  unfold answered
  split <;> simp_all

theorem registerEpochs_ok_iff {faults : ℕ → Bool} {ids : ℕ → Uuid} {batch : ValidatedBatch} {n : ℕ}
    {rs : List EpochRegistration} {db db' : ProvisioningTables} {epochs : List ProviderPlanRow}
    (hcode : ∀ r ∈ rs, isProviderPlanCode r.providerPlanId = true) :
    registerEpochs faults ids batch n rs db = .ok (epochs, db') ↔
      (∀ i < rs.length, faults (n + i) = false) ∧
        (∀ e ∈ epochRecords ids batch.mode batch.registeredAt n rs, epochStorable e = true ∧
          (∃ v ∈ db.fxVersions, v.id = e.plan.fxRateVersionId) ∧
          ∀ x ∈ db.epochs, ¬Collide x.plan e.plan) ∧
        (epochRecords ids batch.mode batch.registeredAt n rs).Pairwise
          (fun a b => ¬Collide a.plan b.plan) ∧
        epochs = (epochRecords ids batch.mode batch.registeredAt n rs).map (·.plan) ∧
        db' = { db with
          epochs := db.epochs ++ epochRecords ids batch.mode batch.registeredAt n rs } := by
  induction rs generalizing n db db' epochs with
  | nil =>
    constructor
    · intro h
      cases h
      simp [epochRecords]
    · rintro ⟨-, -, -, rfl, rfl⟩
      simp [registerEpochs, epochRecords]
  | cons r rest ih =>
    have hrest := fun x hx => hcode x (List.mem_cons_of_mem _ hx)
    set e := epochRecord (ids n) batch.mode batch.registeredAt r with he
    set later := epochRecords ids batch.mode batch.registeredAt (n + 1) rest with hlater
    have hstep : ∀ {epoch : ProviderPlanRow} {db₁ : ProvisioningTables},
        register db batch.mode e = .ok (epoch, db₁) ↔
          epochStorable e = true ∧ (∃ v ∈ db.fxVersions, v.id = e.plan.fxRateVersionId) ∧
            (∀ x ∈ db.epochs, ¬Collide x.plan e.plan) ∧ epoch = e.plan ∧
            db₁ = { db with epochs := db.epochs ++ [e] } :=
      register_ok_iff (e := e) (hcode r List.mem_cons_self)
    have hrecords : epochRecords ids batch.mode batch.registeredAt n (r :: rest) = e :: later := rfl
    rw [hrecords, List.pairwise_cons, List.forall_mem_cons]
    constructor
    · intro h
      obtain ⟨_, hanswered, h⟩ := Except.bind_ok_iff.mp h
      obtain ⟨⟨epoch, db₁⟩, hregister, h⟩ := Except.bind_ok_iff.mp h
      obtain ⟨⟨epochs', db₂⟩, hlater', h⟩ := Except.bind_ok_iff.mp h
      cases h
      obtain ⟨hs, hfx, hfree, rfl, rfl⟩ := hstep.mp hregister
      obtain ⟨hfaults, hall, hpair, rfl, rfl⟩ := (ih hrest).mp hlater'
      refine ⟨?_, ⟨⟨hs, hfx, hfree⟩, fun x hx => ?_⟩, ⟨fun x hx => ?_, hpair⟩, rfl, by simp [hlater]⟩
      · intro i hi
        cases i with
        | zero => exact answered_ok_iff.mp hanswered
        | succ i =>
          have := hfaults i (Nat.lt_of_succ_lt_succ hi)
          rwa [Nat.add_right_comm] at this
      · obtain ⟨hsx, hfxx, hfreex⟩ := hall x hx
        exact ⟨hsx, hfxx, fun y hy => hfreex y (List.mem_append_left _ hy)⟩
      · exact (hall x hx).2.2 e (List.mem_append_right _ (List.mem_singleton_self e))
    · rintro ⟨hfaults, ⟨⟨hs, hfx, hfree⟩, hall⟩, ⟨hhead, hpair⟩, rfl, rfl⟩
      have hanswered : answered faults n = .ok () := answered_ok_iff.mpr (hfaults 0 (Nat.succ_pos _))
      have hregister := hstep.mpr ⟨hs, hfx, hfree, rfl, rfl⟩
      have hlater' : registerEpochs faults ids batch (n + 1) rest { db with epochs := db.epochs ++ [e] } =
          .ok (later.map (·.plan), { db with epochs := db.epochs ++ [e] ++ later }) := (ih hrest).mpr
        ⟨fun i hi => by
            have := hfaults (i + 1) (Nat.succ_lt_succ hi)
            rwa [Nat.add_right_comm],
          fun x hx => ⟨(hall x hx).1, (hall x hx).2.1, fun y hy => by
            rcases List.mem_append.mp hy with hy | hy
            · exact (hall x hx).2.2 y hy
            · rw [List.mem_singleton.mp hy]
              exact hhead x hx⟩, hpair, rfl, rfl⟩
      simp only [registerEpochs]
      rw [hanswered, ← he]
      refine Except.bind_ok_iff.mpr ⟨(), rfl, Except.bind_ok_iff.mpr ⟨_, hregister, ?_⟩⟩
      refine Except.bind_ok_iff.mpr ⟨_, hlater', ?_⟩
      simp [hlater, pure, Except.pure]

/-! ## The price of an epoch -/

/-- The snapshot pricing builds for an epoch. -/
def epochSnapshot (epoch : ProviderPlanRow) (row : FxRateVersionRow) (asOf : ℤ) : BillingPricingSnapshot where
  commercialAmountMinor := cataloguePriceMinor epoch.cataloguePlan epoch.interval
  catalogueVersion := BILLING_CATALOGUE_VERSION
  cataloguePlan := epoch.cataloguePlan
  interval := epoch.interval
  payment := ⟨epoch.paymentCurrency, epoch.paymentAmountMinor, epoch.paymentAmountExponent⟩
  fx := toBillingFxSnapshot row
  providerPlanId := some epoch.providerPlanId
  providerReference := none
  pricingPolicyVersion := epoch.pricingPolicyVersion
  computedAt := asOf

theorem price_epoch_eq {epoch : ProviderPlanRow} {row : FxRateVersionRow} {asOf : ℤ}
    {mode : BillingProviderMode} (hplan : parseProviderPlan epoch mode = .ok epoch)
    (hactive : epoch.status = .active) (hfx : parseFxRateVersion row = .ok row)
    (hid : row.id = epoch.fxRateVersionId) (hsold : epoch.cataloguePlan ≠ .starter) :
    priceFromProviderPlanEpoch epoch row asOf mode =
      if MAX_SAFE_INTEGER < epoch.paymentAmountMinor then .error (.pricing .unsupported_amount)
      else (verifyPricingSnapshot (epochSnapshot epoch row asOf)).mapError .pricing := by
  have hinternal : internalPlanForCommercialPlan epoch.cataloguePlan ≠ none := by
    cases hp : epoch.cataloguePlan with
    | starter => exact absurd hp hsold
    | pro => simp [internalPlanForCommercialPlan]
    | elite => simp [internalPlanForCommercialPlan]
  unfold priceFromProviderPlanEpoch
  simp only [hplan, hfx, hactive, hid, hinternal, Except.mapError, bind, Except.bind, reduceCtorEq, if_false,
    ne_eq, not_true_eq_false, throw, throwThe, MonadExceptOf.throw]
  rfl

theorem epochSnapshot_trimmed {epoch : ProviderPlanRow} {row : FxRateVersionRow} {asOf : ℤ}
    (hcode : isProviderPlanCode epoch.providerPlanId = true)
    (hpolicy : epoch.pricingPolicyVersion = BILLING_PRICING_POLICY_VERSION) :
    (epochSnapshot epoch row asOf).trimmed = epochSnapshot epoch row asOf := by
  have hcatalogue : jsTrim BILLING_CATALOGUE_VERSION = BILLING_CATALOGUE_VERSION := by decide
  have hversion : jsTrim BILLING_PRICING_POLICY_VERSION = BILLING_PRICING_POLICY_VERSION := by decide
  simp only [BillingPricingSnapshot.trimmed, epochSnapshot, hcatalogue, hpolicy, hversion, Option.map_some,
    jsTrim_code hcode, Option.map_none]

theorem isMinorAmount_catalogue (plan : CommercialPlanId) (interval : BillingInterval) :
    isMinorAmount (cataloguePriceMinor plan interval) = true := by
  cases plan <;> cases interval <;> decide

theorem isPricingSnapshot_epoch {row : FxRateVersionRow} {e : EpochRecord} {asOf : ℤ}
    (hfx : parseFxRateVersion row = .ok row) (hs : epochStorable e = true)
    (hcode : isProviderPlanCode e.plan.providerPlanId = true) :
    isPricingSnapshot (epochSnapshot e.plan row asOf) = true ↔
      row.fxRateScaled ≤ MAX_SAFE_INTEGER ∧ e.plan.paymentAmountMinor ≤ MAX_SAFE_INTEGER ∧
        isIsoInstant row.effectiveFrom = true ∧ isIsoInstant row.capturedAt = true ∧
        isIsoInstant asOf = true := by
  unfold parseFxRateVersion at hfx
  iterate 5 rw [Except.ite_error_eq_ok] at hfx
  obtain ⟨-, hquote, hrate, hscale, horder, -⟩ := hfx
  have hquote' : row.quoteCurrency = "GHS" := by simpa [isPaymentCurrency] using hquote
  have hcoded : boundedText 128 e.plan.providerPlanId = true := by
    unfold epochStorable at hs
    simp only [Bool.and_eq_true] at hs
    have hlen := length_code hcode
    unfold boundedText
    simp only [Bool.and_eq_true, decide_eq_true_eq]
    exact ⟨⟨by omega, by omega⟩, hs.1.1.2⟩
  have hcatalogue := isMinorAmount_catalogue e.plan.cataloguePlan e.plan.interval
  have hversion : 1 ≤ BILLING_CATALOGUE_VERSION.toList.length ∧
      BILLING_CATALOGUE_VERSION.toList.length ≤ 64 := by decide
  unfold epochStorable at hs
  simp only [Bool.and_eq_true, decide_eq_true_eq] at hs
  obtain ⟨⟨⟨⟨⟨⟨⟨⟨⟨⟨⟨⟨⟨-, hcurrency⟩, hexponent⟩, hamount⟩, -⟩, -⟩, -⟩, -⟩, -⟩, hpolicy⟩, -⟩, -⟩, -⟩, -⟩ := hs
  simp only [lengthBetween, Bool.and_eq_true, decide_eq_true_eq] at hpolicy
  have hrate' : 0 < row.fxRateScaled := Nat.pos_of_ne_zero hrate
  have hamount' : 0 < e.plan.paymentAmountMinor := by omega
  have hscale' : 1 ≤ row.fxRateScale ∧ row.fxRateScale ≤ maxFxScale := by omega
  have horder' : row.capturedAt ≤ row.effectiveFrom := not_lt.mp horder
  simp only [isPricingSnapshot, epochSnapshot, isPaymentAmount, isFxSnapshot, toBillingFxSnapshot,
    isPaymentCurrency, hcurrency, hexponent, hquote', hcatalogue, hcoded, hversion, hpolicy, horder',
    hscale', Option.all_some, Option.all_none, Bool.and_true, Bool.true_and, decide_true, paymentAmountExponent,
    Bool.and_eq_true]
  unfold isMinorAmount
  simp only [hrate', hamount', decide_true, Bool.true_and, decide_eq_true_eq]
  tauto

/-- An epoch is priced at its registered amount exactly when the rate and the amount are safe integers and
    the three instants have years of four digits. -/
theorem price_epoch_iff {row : FxRateVersionRow} {entry : SandboxProviderPlanEvidence}
    {r : EpochRegistration} {id : Uuid} {mode : BillingProviderMode} {registeredAt asOf : ℤ}
    (hfx : parseFxRateVersion row = .ok row) (hr : Prepared row entry r)
    (hs : epochStorable (epochRecord id mode registeredAt r) = true) :
    (∃ s, priceFromProviderPlanEpoch (epochRecord id mode registeredAt r).plan row asOf mode = .ok s ∧
      verifyPricingSnapshot s = .ok s ∧ s.payment.paymentAmountMinor = r.paymentAmountMinor) ↔
      row.fxRateScaled ≤ MAX_SAFE_INTEGER ∧ r.paymentAmountMinor ≤ MAX_SAFE_INTEGER ∧
        isIsoInstant row.effectiveFrom = true ∧ isIsoInstant row.capturedAt = true ∧
        isIsoInstant asOf = true := by
  have hparse : parseProviderPlan (epochRecord id mode registeredAt r).plan mode =
      .ok (epochRecord id mode registeredAt r).plan := parseProviderPlan_storable hs hr.code
  have hsold : r.cataloguePlan ≠ .starter := by
    unfold epochStorable at hs
    simp only [Bool.and_eq_true, decide_eq_true_eq] at hs
    exact hs.1.1.1.1.1.1.1.1.1.1.1.1.1
  have htrim := @epochSnapshot_trimmed (epochRecord id mode registeredAt r).plan row asOf hr.code rfl
  have hcontract := @isPricingSnapshot_epoch row _ asOf hfx hs hr.code
  have hprice := @price_epoch_eq _ row asOf _ hparse rfl hfx hr.fxRateVersionId.symm hsold
  constructor
  · rintro ⟨s, h, -, -⟩
    rw [hprice, Except.ite_error_eq_ok, mapError_eq_ok, verifyPricingSnapshot_ok, htrim] at h
    obtain ⟨-, rfl, hvalid, -⟩ := h
    exact hcontract.mp hvalid
  · intro h
    have hamount : computePaymentAmountMinor (cataloguePriceMinor r.cataloguePlan r.interval)
        row.fxRateScaled row.fxRateScale = .ok r.paymentAmountMinor := by
      rw [computePaymentAmountMinor_ok, ← hr.catalogue]
      unfold parseFxRateVersion at hfx
      iterate 5 rw [Except.ite_error_eq_ok] at hfx
      obtain ⟨-, -, hrate, hscale, -, -⟩ := hfx
      have := isMinorAmount_catalogue r.cataloguePlan r.interval
      rw [← hr.catalogue] at this
      simp only [isMinorAmount, Bool.and_eq_true, decide_eq_true_eq] at this
      exact ⟨by omega, hrate, by omega, by omega, hr.amount⟩
    have hverified : verifyPricingSnapshot (epochSnapshot (epochRecord id mode registeredAt r).plan row asOf) =
        .ok (epochSnapshot (epochRecord id mode registeredAt r).plan row asOf) :=
      verifyPricingSnapshot_ok.mpr ⟨htrim.symm, hcontract.mpr h, hamount, hr.minimum⟩
    have hsafe : ¬MAX_SAFE_INTEGER < (epochRecord id mode registeredAt r).plan.paymentAmountMinor :=
      not_lt.mpr h.2.1
    refine ⟨_, ?_, hverified, rfl⟩
    rw [hprice, if_neg hsafe, hverified]
    rfl

end VeltrixEye.Provisioning
