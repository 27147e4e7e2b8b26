import VeltrixEye.Billing.ExactPrices
import VeltrixEye.Lib.Rows
import VeltrixEye.Lib.SmallUuid

/-!
# The snapshot store (`billing/snapshots.ts`)

A snapshot is written to columns, and a row is read back through `Number`, the schema, the verification
and its own key.

* `fromRow_ofSnapshot` — a verified snapshot is read back as it was written.
-/

namespace VeltrixEye.Billing.Prices

/-! ## Rows -/

/-- A row of `billing_pricing_snapshots`: integers are of any size, instants in microseconds. -/
structure SnapshotColumns where
  id : Uuid
  commercial_amount_minor : ℕ
  catalogue_plan : CommercialPlanId
  billing_interval : BillingInterval
  catalogue_version : String
  payment_currency : String
  payment_amount_minor : ℕ
  payment_amount_exponent : ℕ
  fx_rate_scaled : ℕ
  fx_rate_scale : ℕ
  fx_rate_version_id : Uuid
  fx_rate_effective_from : ℤ
  fx_rate_captured_at : ℤ
  fx_rate_source : BillingFxSource
  pricing_policy_version : String
  provider_plan_id : Option String
  provider_reference : Option String
  idempotency_key : String
  created_at : ℤ

/-- The columns `create` inserts. -/
def SnapshotColumns.ofSnapshot (id : Uuid) (key : String) (s : BillingPricingSnapshot) :
    SnapshotColumns where
  id
  commercial_amount_minor := s.commercialAmountMinor
  catalogue_plan := s.cataloguePlan
  billing_interval := s.interval
  catalogue_version := s.catalogueVersion
  payment_currency := s.payment.paymentCurrency
  payment_amount_minor := s.payment.paymentAmountMinor
  payment_amount_exponent := s.payment.paymentAmountExponent
  fx_rate_scaled := s.fx.fxRateScaled
  fx_rate_scale := s.fx.fxRateScale
  fx_rate_version_id := s.fx.fxRateVersionId
  fx_rate_effective_from := s.fx.fxRateEffectiveFrom * 1000
  fx_rate_captured_at := s.fx.fxRateCapturedAt * 1000
  fx_rate_source := s.fx.fxRateSource
  pricing_policy_version := s.pricingPolicyVersion
  provider_plan_id := s.providerPlanId
  provider_reference := s.providerReference
  idempotency_key := key
  created_at := s.computedAt * 1000

/-- `/^[0-9a-f]{64}$/`. -/
def isSha256Hex (key : String) : Bool :=
  key.toList.length = 64 && key.toList.all fun c => c.isDigit || ('a' ≤ c && c ≤ 'f')

/-- The row schema's `integer`. -/
def readInteger (n : ℕ) : Option ℕ := safeInteger (numberOfInt n)

/-- A `Date` has whole milliseconds. -/
def readInstant (micros : ℤ) : ℤ := micros / 1000

/-- The object `fromRow` hands to the snapshot schema. -/
def readSnapshot (row : SnapshotColumns) : Option BillingPricingSnapshot := do
  let commercialAmountMinor ← readInteger row.commercial_amount_minor
  let paymentAmountMinor ← readInteger row.payment_amount_minor
  let paymentAmountExponent ← readInteger row.payment_amount_exponent
  let fxRateScaled ← readInteger row.fx_rate_scaled
  let fxRateScale ← readInteger row.fx_rate_scale
  return {
    commercialAmountMinor
    catalogueVersion := row.catalogue_version
    cataloguePlan := row.catalogue_plan
    interval := row.billing_interval
    payment := ⟨row.payment_currency, paymentAmountMinor, paymentAmountExponent⟩
    fx := ⟨row.payment_currency, fxRateScaled, fxRateScale, row.fx_rate_version_id,
      readInstant row.fx_rate_effective_from, readInstant row.fx_rate_captured_at, row.fx_rate_source⟩
    providerPlanId := row.provider_plan_id
    providerReference := row.provider_reference
    pricingPolicyVersion := row.pricing_policy_version
    computedAt := readInstant row.created_at }

def fromRow (runtime : BillingRuntime) (row : SnapshotColumns) :
    Except BillingPricingFailure StoredSnapshot :=
  if !isSha256Hex row.idempotency_key then .error .invalid_snapshot
  else
    match readSnapshot row with
    | none => .error .invalid_snapshot
    | some parsed =>
      if !isPricingSnapshot parsed.trimmed then .error .invalid_snapshot
      else
        match verifyPricingSnapshot parsed.trimmed with
        | .error failure => .error failure
        | .ok snapshot =>
          if pricingIdempotencyKey runtime snapshot ≠ row.idempotency_key then .error .invalid_snapshot
          else .ok ⟨row.id, row.idempotency_key, snapshot⟩

theorem readInteger_safe {n : ℕ} (h : n ≤ MAX_SAFE_INTEGER) : readInteger n = some n := by
  rw [MAX_SAFE_INTEGER] at h
  exact (safeInteger_numberOfInt n).trans (if_pos (by omega))

theorem readInstant_mul (t : ℤ) : readInstant (t * 1000) = t :=
  Int.mul_ediv_cancel t (by decide)

theorem readSnapshot_ofSnapshot {s : BillingPricingSnapshot} (h : isPricingSnapshot s = true) (id : Uuid)
    (key : String) : readSnapshot (.ofSnapshot id key s) = some s := by
  have hfx := isFxSnapshot_of_isPricingSnapshot h
  have hrate := readInteger_safe (rate_safe_of_isFxSnapshot hfx).2
  have hscale : s.fx.fxRateScale ≤ maxFxScale := by
    simp only [isFxSnapshot, Bool.and_eq_true, decide_eq_true_eq] at hfx
    exact hfx.1.1.1.2
  have hscale := readInteger_safe (hscale.trans (by decide))
  simp only [isPricingSnapshot, isPaymentAmount, isMinorAmount, Bool.and_eq_true, decide_eq_true_eq] at h
  obtain ⟨⟨⟨⟨⟨⟨⟨⟨⟨-, hcommercial⟩, -⟩, ⟨⟨-, -, hamount⟩, hexponent⟩⟩, -⟩, -⟩, -⟩, -⟩, -⟩, hcurrency⟩ := h
  have hexponent' : readInteger s.payment.paymentAmountExponent = some s.payment.paymentAmountExponent :=
    readInteger_safe (by rw [hexponent]; decide)
  unfold readSnapshot SnapshotColumns.ofSnapshot
  dsimp only
  rw [readInteger_safe hcommercial, readInteger_safe hamount, hexponent', hrate, hscale, readInstant_mul,
    readInstant_mul, readInstant_mul]
  obtain ⟨_, _, _, _, ⟨_, _, _⟩, ⟨_, _, _, _, _, _, _⟩, _, _, _, _⟩ := s
  cases hcurrency
  rfl

theorem fromRow_ofSnapshot {runtime : BillingRuntime} {s : BillingPricingSnapshot}
    (hverified : verifyPricingSnapshot s = .ok s)
    (hkey : isSha256Hex (pricingIdempotencyKey runtime s) = true) (id : Uuid) :
    fromRow runtime (.ofSnapshot id (pricingIdempotencyKey runtime s) s) =
      .ok ⟨id, pricingIdempotencyKey runtime s, s⟩ := by
  obtain ⟨htrimmed, hvalid, -⟩ := verifyPricingSnapshot_ok.mp hverified
  have hhex : isSha256Hex (SnapshotColumns.ofSnapshot id (pricingIdempotencyKey runtime s) s).idempotency_key =
    true := hkey
  unfold fromRow
  rw [hhex, readSnapshot_ofSnapshot hvalid, if_neg (by decide)]
  dsimp only
  rw [← htrimmed, hvalid, hverified, if_neg (by decide)]
  exact if_neg (not_not.mpr rfl)

/-! ## The table -/

/-- `billing_pricing_snapshots` with its primary key and the unique index on the key. -/
structure SnapshotTable where
  rows : List SnapshotColumns
  ids : (rows.map (·.id)).Nodup
  keys : (rows.map (·.idempotency_key)).Nodup

namespace SnapshotTable

variable {table : SnapshotTable} {row : SnapshotColumns}

def insert (table : SnapshotTable) (row : SnapshotColumns) (hid : ∀ r ∈ table.rows, r.id ≠ row.id)
    (hkey : ∀ r ∈ table.rows, r.idempotency_key ≠ row.idempotency_key) : SnapshotTable where
  rows := table.rows ++ [row]
  ids := by
    rw [List.map_append, List.nodup_append]
    refine ⟨table.ids, List.nodup_singleton _, ?_⟩
    rintro a ha b hb rfl
    obtain ⟨r, hr, rfl⟩ := List.mem_map.mp ha
    exact hid r hr (List.mem_singleton.mp hb)
  keys := by
    rw [List.map_append, List.nodup_append]
    refine ⟨table.keys, List.nodup_singleton _, ?_⟩
    rintro a ha b hb rfl
    obtain ⟨r, hr, rfl⟩ := List.mem_map.mp ha
    exact hkey r hr (List.mem_singleton.mp hb)

def findById (runtime : BillingRuntime) (table : SnapshotTable) (id : Uuid) :
    Except BillingPricingFailure (Option StoredSnapshot) :=
  match table.rows.find? fun r => r.id = id with
  | none => .ok none
  | some row => (fromRow runtime row).map some

def findByIdempotencyKey (runtime : BillingRuntime) (table : SnapshotTable) (key : String) :
    Except BillingPricingFailure (Option StoredSnapshot) :=
  match table.rows.find? fun r => r.idempotency_key = key with
  | none => .ok none
  | some row => (fromRow runtime row).map some

theorem findById_of_mem {runtime : BillingRuntime} (hrow : row ∈ table.rows) {stored : StoredSnapshot}
    (h : fromRow runtime row = .ok stored) : table.findById runtime row.id = .ok (some stored) := by
  unfold findById
  rw [Rows.find?_key table.ids hrow]
  exact congrArg (Except.map some) h

theorem findByIdempotencyKey_of_mem {runtime : BillingRuntime} (hrow : row ∈ table.rows)
    {stored : StoredSnapshot} (h : fromRow runtime row = .ok stored) :
    table.findByIdempotencyKey runtime row.idempotency_key = .ok (some stored) := by
  unfold findByIdempotencyKey
  rw [Rows.find?_key table.keys hrow]
  exact congrArg (Except.map some) h

theorem findByIdempotencyKey_some {runtime : BillingRuntime} {key : String} {stored : StoredSnapshot}
    (h : table.findByIdempotencyKey runtime key = .ok (some stored)) :
    ∃ row ∈ table.rows, row.idempotency_key = key ∧ fromRow runtime row = .ok stored := by
  unfold findByIdempotencyKey at h
  split at h
  · cases h
  rename_i row hrow
  refine ⟨row, List.mem_of_find?_eq_some hrow, by simpa using List.find?_some hrow, ?_⟩
  cases hread : fromRow runtime row with
  | error e => rw [hread] at h; cases h
  | ok stored' => rw [hread] at h; cases h; rfl

end SnapshotTable

theorem fromRow_ids {runtime : BillingRuntime} {row : SnapshotColumns} {stored : StoredSnapshot}
    (h : fromRow runtime row = .ok stored) :
    stored.id = row.id ∧ stored.idempotencyKey = row.idempotency_key := by
  unfold fromRow at h
  split at h
  · cases h
  split at h
  · cases h
  split at h
  · cases h
  split at h
  · cases h
  split at h
  · cases h
  cases h
  exact ⟨rfl, rfl⟩

/-- Why `create` throws. -/
inductive StoreFailure where
  | pricing (failure : BillingPricingFailure)
  /-- The database refused the row. -/
  | database
  deriving DecidableEq

/-- `create`: `INSERT … ON CONFLICT (idempotency_key) DO NOTHING`, then the row under the key.  `refuses`
    are the constraints, triggers and encodings of the database. -/
def create (runtime : BillingRuntime) (refuses : SnapshotTable → SnapshotColumns → Bool)
    (table : SnapshotTable) (id : Uuid) (input : BillingPricingSnapshot) :
    SnapshotTable × Except StoreFailure StoredSnapshot :=
  match verifyPricingSnapshot input with
  | .error failure => (table, .error (.pricing failure))
  | .ok s =>
    let row := SnapshotColumns.ofSnapshot id (pricingIdempotencyKey runtime s) s
    if refuses table row then (table, .error .database)
    else if hkey : ∀ r ∈ table.rows, r.idempotency_key ≠ row.idempotency_key then
      if hid : ∀ r ∈ table.rows, r.id ≠ row.id then
        (table.insert row hid hkey, (fromRow runtime row).mapError .pricing)
      else (table, .error .database)
    else
      match table.findByIdempotencyKey runtime row.idempotency_key with
      | .error failure => (table, .error (.pricing failure))
      | .ok none => (table, .error (.pricing .invalid_snapshot))
      | .ok (some stored) => (table, .ok stored)

/-! ## Storing and reading back -/

/-- The snapshot is stored under its key, found again by id and by key, and is itself unless another
    snapshot was stored under the key before; the database alone can refuse it. -/
structure StoredExactly (runtime : BillingRuntime) (s : BillingPricingSnapshot) : Prop where
  stored : ∀ (refuses : SnapshotTable → SnapshotColumns → Bool) (table table' : SnapshotTable) (id : Uuid)
    (stored : StoredSnapshot), create runtime refuses table id s = (table', .ok stored) →
      stored.idempotencyKey = pricingIdempotencyKey runtime s ∧
      table'.findById runtime stored.id = .ok (some stored) ∧
      table'.findByIdempotencyKey runtime (pricingIdempotencyKey runtime s) = .ok (some stored) ∧
      ((∀ r ∈ table.rows, r.idempotency_key ≠ pricingIdempotencyKey runtime s) → stored.snapshot = s)
  accepted : ∀ (refuses : SnapshotTable → SnapshotColumns → Bool) (table : SnapshotTable) (id : Uuid),
    (∀ r ∈ table.rows, r.idempotency_key ≠ pricingIdempotencyKey runtime s) →
    (∀ r ∈ table.rows, r.id ≠ id) →
    refuses table (.ofSnapshot id (pricingIdempotencyKey runtime s) s) = false →
    (create runtime refuses table id s).2 = .ok ⟨id, pricingIdempotencyKey runtime s, s⟩

theorem storedExactly {runtime : BillingRuntime} {s : BillingPricingSnapshot}
    (hverified : verifyPricingSnapshot s = .ok s)
    (hhex : isSha256Hex (pricingIdempotencyKey runtime s) = true) : StoredExactly runtime s where
  stored := by
    intro refuses table table' id stored h
    unfold create at h
    rw [hverified] at h
    dsimp only at h
    split at h
    · cases h
    split at h
    · rename_i hkey
      split at h
      · rename_i hid
        rw [fromRow_ofSnapshot hverified hhex] at h
        cases h
        have hrow := fromRow_ofSnapshot hverified hhex id
        have hmem : SnapshotColumns.ofSnapshot id (pricingIdempotencyKey runtime s) s ∈
            (table.insert _ hid hkey).rows := List.mem_append_right _ (List.mem_singleton_self _)
        exact ⟨rfl, SnapshotTable.findById_of_mem hmem hrow,
          SnapshotTable.findByIdempotencyKey_of_mem hmem hrow, fun _ => rfl⟩
      · cases h
    · rename_i hkey
      split at h
      · cases h
      · cases h
      · rename_i found hfound
        cases h
        obtain ⟨row, hrow, hrowkey, hread⟩ := SnapshotTable.findByIdempotencyKey_some hfound
        obtain ⟨hid, hstored⟩ := fromRow_ids hread
        rw [hid]
        exact ⟨hstored.trans hrowkey, SnapshotTable.findById_of_mem hrow hread, hfound,
          fun hunused => absurd hunused hkey⟩
  accepted := by
    intro refuses table id hkey hid haccepted
    have hkey : ∀ r ∈ table.rows, r.idempotency_key ≠
        (SnapshotColumns.ofSnapshot id (pricingIdempotencyKey runtime s) s).idempotency_key := hkey
    have hid : ∀ r ∈ table.rows,
        r.id ≠ (SnapshotColumns.ofSnapshot id (pricingIdempotencyKey runtime s) s).id := hid
    unfold create
    rw [hverified]
    dsimp only
    rw [haccepted, if_neg (by decide), dif_pos hkey, dif_pos hid, fromRow_ofSnapshot hverified hhex]
    rfl

/-- A snapshot that one of the two entry points returns for a version. -/
def PricedFrom (version : FxRateVersionRow) (s : BillingPricingSnapshot) : Prop :=
  (∃ input : PriceCommercialPlanInput, input.fx = fxSnapshotValue version ∧
    priceCommercialPlan input = .ok s) ∨
  ∃ input : PriceFromProviderPlanEpochInput, input.fxVersion = version ∧
    priceFromProviderPlanEpoch input = .ok s

/-- The rate or the exact amount of a plan is no safe integer. -/
def Unrepresentable (row : FxRateVersionRow) (plan : CommercialPlanId) (interval : BillingInterval) : Prop :=
  MAX_SAFE_INTEGER < row.fxRateScaled ∨
    MAX_SAFE_INTEGER < Provisioning.halfUp (Provisioning.exactAmount (cataloguePriceMinor plan interval) row)

theorem ExactPrice.representable {row : FxRateVersionRow} {s : BillingPricingSnapshot} (h : ExactPrice row s) :
    ¬Unrepresentable row s.cataloguePlan s.interval := by
  rintro (hrate | hamount)
  · exact absurd h.rate_safe (not_le.mpr hrate)
  · rw [← h.commercial, ← h.amount] at hamount
    exact absurd h.amount_safe (not_le.mpr hamount)

/-- From the row of a rate to the stored snapshot: a returned price is the exact one and is stored and
    read back unchanged; what no safe integer represents is refused. -/
theorem prices_exact {runtime : BillingRuntime}
    (hsha : ∀ text, isSha256Hex (runtime.sha256Hex text) = true) {row version : FxRateVersionRow}
    (hrow : parseFxRateVersion row = .ok version) :
    (∀ s, PricedFrom version s → ExactPrice row s ∧ StoredExactly runtime s) ∧
    (∀ input : PriceCommercialPlanInput, input.fx = fxSnapshotValue version →
      Unrepresentable row input.planId input.interval → ∃ reason, priceCommercialPlan input = .error reason) ∧
    ∀ input : PriceFromProviderPlanEpochInput, input.fxVersion = row →
      Unrepresentable row input.epoch.cataloguePlan input.epoch.interval →
      ∃ refusal, priceFromProviderPlanEpoch input = .error refusal := by
  refine ⟨fun s hpriced => ?_, fun input hfx hunsafe => ?_, fun input hfx hunsafe => ?_⟩
  · have hexact : ExactPrice row s := by
      rcases hpriced with ⟨input, hfx, h⟩ | ⟨input, hfx, h⟩
      · exact (priceCommercialPlan_exact hrow hfx h).1
      · rw [parseFxRateVersion_ok hrow] at hfx
        exact (priceFromProviderPlanEpoch_exact hfx h).1
    exact ⟨hexact, storedExactly hexact.verified (hsha _)⟩
  · cases h : priceCommercialPlan input with
    | error reason => exact ⟨reason, rfl⟩
    | ok s =>
      obtain ⟨hexact, hplan, hinterval⟩ := priceCommercialPlan_exact hrow hfx h
      rw [← hplan, ← hinterval] at hunsafe
      exact absurd hunsafe hexact.representable
  · cases h : priceFromProviderPlanEpoch input with
    | error refusal => exact ⟨refusal, rfl⟩
    | ok s =>
      obtain ⟨hexact, hplan, hinterval⟩ := priceFromProviderPlanEpoch_exact hfx h
      rw [← hplan, ← hinterval] at hunsafe
      exact absurd hunsafe hexact.representable

/-! ## A rate of 12.5 -/

/-- 12.5 cedis for a dollar, at scale 6. -/
def sampleVersion : FxRateVersionRow :=
  ⟨Uuid.ofDigit 1, "USD", "GHS", 12500000, 6, .ops, 1700000000000, 1700000000000⟩

/-- Pro by the month, priced `delay` milliseconds after the rate was captured. -/
def sampleInput (delay : ℤ) : PriceCommercialPlanInput :=
  ⟨.pro, .monthly, fxSnapshotValue sampleVersion, some (1700000000000 + delay), none, none,
    BILLING_FX_POLICY⟩

def samplePrice (delay : ℤ) : BillingPricingSnapshot :=
  ⟨3900, BILLING_CATALOGUE_VERSION, .pro, .monthly, ⟨"GHS", 48750, 2⟩, toBillingFxSnapshot sampleVersion,
    none, none, "pr3-usd-ghs-v1", 1700000000000 + delay⟩

/-- The digest of the decision both prices take; no other digest is asked for. -/
def sampleHash (text : String) : String :=
  if text = "billing-pricing-snapshot/v1|USD|3900|pro|monthly|billing-catalogue-1|GHS|48750|2|" ++
      "00000000-0000-0000-0000-000000000001|12500000|6|half_up||pr3-usd-ghs-v1" then
    "d153cddc81af349d34114ae5ea21424fe195dd664ff9472838f0f5decbcda8dc"
  else "0000000000000000000000000000000000000000000000000000000000000000"

def knownRuntime : BillingRuntime := ⟨sampleHash, fun _ => true, id⟩

theorem sampleHash_hex (text : String) : isSha256Hex (knownRuntime.sha256Hex text) = true := by
  show isSha256Hex (sampleHash text) = true
  unfold sampleHash isSha256Hex
  split <;> rw [String.toList_ofList] <;> decide +kernel

theorem prices_exact_sample :
    ExactPrice sampleVersion (samplePrice 0) ∧ StoredExactly knownRuntime (samplePrice 0) := by
  have hrow : parseFxRateVersion sampleVersion = .ok sampleVersion := by rfl
  have hprice : priceCommercialPlan (sampleInput 0) = .ok (samplePrice 0) := by decide +kernel
  exact (prices_exact sampleHash_hex hrow).1 _ (Or.inl ⟨sampleInput 0, rfl, hprice⟩)

/-- The row the first of two prices leaves. -/
def firstRow : SnapshotColumns :=
  .ofSnapshot (Uuid.ofDigit 2) (pricingIdempotencyKey knownRuntime (samplePrice 0)) (samplePrice 0)

def firstTable : SnapshotTable := ⟨[firstRow], List.nodup_singleton _, List.nodup_singleton _⟩

/-- The same decision a minute later is read back as the first one: `computedAt` is no part of the key. -/
theorem second_price_reads_first :
    priceCommercialPlan (sampleInput 60000) = .ok (samplePrice 60000) ∧
    (create knownRuntime (fun _ _ => false) firstTable (Uuid.ofDigit 3) (samplePrice 60000)).2 =
      .ok ⟨Uuid.ofDigit 2, pricingIdempotencyKey knownRuntime (samplePrice 60000), samplePrice 0⟩ ∧
    samplePrice 0 ≠ samplePrice 60000 := by
  decide +kernel

end VeltrixEye.Billing.Prices
