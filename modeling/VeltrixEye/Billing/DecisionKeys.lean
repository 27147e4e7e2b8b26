import VeltrixEye.Billing.SnapshotStore
import VeltrixEye.Lib.JsonText
import VeltrixEye.Lib.Separated

/-!
# The key of a pricing decision (`pricingIdempotencyCanonicalString`)

The fields of a decision are joined with `|` and hashed.  The catalogue version, the provider plan id and
the policy version are free texts, which may hold a `|` themselves.

* `canonicalString_eq_iff` — when two decisions have one text.
* `storedApart_iff` — what the key makes of two snapshots in the table.
-/

namespace VeltrixEye.Billing

/-! ## Decisions -/

/-- The fields of a `BillingPricingSnapshot` the key is made from; the commercial currency and the rounding
    mode have one value each. -/
structure PricingDecision where
  commercialAmountMinor : ℕ
  cataloguePlan : CommercialPlanId
  interval : BillingInterval
  catalogueVersion : String
  paymentCurrency : String
  paymentAmountMinor : ℕ
  paymentAmountExponent : ℕ
  fxRateVersionId : String
  fxRateScaled : ℕ
  fxRateScale : ℕ
  providerPlanId : Option String
  pricingPolicyVersion : String
  deriving DecidableEq

def CommercialPlanId.text : CommercialPlanId → String
  | .starter => "starter"
  | .pro => "pro"
  | .elite => "elite"

def BillingInterval.text : BillingInterval → String
  | .monthly => "monthly"
  | .annual => "annual"

namespace PricingDecision

variable {d e : PricingDecision}

/-- What `billingPricingSnapshotSchema` asks of these fields. -/
def accepted (d : PricingDecision) : Bool :=
  let bounded (s : String) := 1 ≤ (jsTrim s).toList.length && (jsTrim s).toList.length ≤ 64
  isMinorAmount d.commercialAmountMinor && bounded d.catalogueVersion &&
    isPaymentCurrency d.paymentCurrency && isMinorAmount d.paymentAmountMinor &&
    d.paymentAmountExponent = Billing.paymentAmountExponent && isGuid d.fxRateVersionId &&
    isMinorAmount d.fxRateScaled && 1 ≤ d.fxRateScale && d.fxRateScale ≤ maxFxScale &&
    d.providerPlanId.all (fun p => boundedText 128 (jsTrim p)) && bounded d.pricingPolicyVersion

/-- `snapshot.providerPlanId ?? ''`. -/
def planText (d : PricingDecision) : String := d.providerPlanId.getD ""

/-- The pieces before the catalogue version. -/
def headPieces (d : PricingDecision) : List String :=
  ["billing-pricing-snapshot/v1", "USD", toString d.commercialAmountMinor, d.cataloguePlan.text,
    d.interval.text]

/-- The pieces between the catalogue version and the provider plan id. -/
def middlePieces (d : PricingDecision) : List String :=
  [d.paymentCurrency, toString d.paymentAmountMinor, toString d.paymentAmountExponent,
    d.fxRateVersionId, toString d.fxRateScaled, toString d.fxRateScale, "half_up"]

/-- `pricingIdempotencyCanonicalString`. -/
def canonicalString (d : PricingDecision) : String :=
  "|".intercalate (d.headPieces ++ d.catalogueVersion :: d.middlePieces ++
    [d.planText, d.pricingPolicyVersion])

/-- The decision a snapshot records. -/
def ofSnapshot (s : BillingPricingSnapshot) : PricingDecision where
  commercialAmountMinor := s.commercialAmountMinor
  cataloguePlan := s.cataloguePlan
  interval := s.interval
  catalogueVersion := s.catalogueVersion
  paymentCurrency := s.payment.paymentCurrency
  paymentAmountMinor := s.payment.paymentAmountMinor
  paymentAmountExponent := s.payment.paymentAmountExponent
  fxRateVersionId := s.fx.fxRateVersionId.text
  fxRateScaled := s.fx.fxRateScaled
  fxRateScale := s.fx.fxRateScale
  providerPlanId := s.providerPlanId
  pricingPolicyVersion := s.pricingPolicyVersion

theorem canonicalString_ofSnapshot (s : BillingPricingSnapshot) :
    pricingIdempotencyCanonicalString s = (ofSnapshot s).canonicalString := by
  obtain ⟨_, _, plan, interval, _, _, _, _, _, _⟩ := s
  unfold pricingIdempotencyCanonicalString canonicalString headPieces middlePieces planText ofSnapshot
  cases plan <;> cases interval <;>
    simp only [CommercialPlanId.text, BillingInterval.text, List.cons_append, List.nil_append]

/-! ## The text -/

/-- The text from the provider plan id on. -/
def freeTail (d : PricingDecision) : List Char := d.planText.toList ++ '|' :: d.pricingPolicyVersion.toList

/-- The text from the piece after the catalogue version on. -/
def middleTail (d : PricingDecision) : List Char :=
  Separated.joined '|' (d.middlePieces.map String.toList) d.freeTail

theorem canonicalString_toList (d : PricingDecision) :
    d.canonicalString.toList =
      Separated.joined '|' (d.headPieces.map String.toList)
        (d.catalogueVersion.toList ++ '|' :: d.middleTail) := by
  unfold canonicalString headPieces middleTail middlePieces freeTail Separated.joined
  simp only [List.cons_append, List.nil_append, String.intercalate_cons_cons, String.intercalate_singleton,
    String.toList_append, List.map_cons, List.map_nil, List.foldr_cons, List.foldr_nil]
  simp only [show ("|" : String).toList = ['|'] from rfl, List.append_assoc, List.cons_append, List.nil_append]

/-! ## Pieces without a separator -/

/-- What both a contract and a verification give: only the three free texts may hold a separator, and no
    provider plan id is empty. -/
structure Plain (d : PricingDecision) : Prop where
  currency : d.paymentCurrency = "GHS"
  version : '|' ∉ d.fxRateVersionId.toList
  plan : d.providerPlanId ≠ some ""

theorem not_mem_of_isGuid {s : String} (h : isGuid s = true) : '|' ∉ s.toList := by
  intro hmem
  simp only [isGuid, Bool.and_eq_true, decide_eq_true_eq, List.all_eq_true] at h
  obtain ⟨i, hi⟩ := List.mem_iff_getElem?.mp hmem
  have hc := h.2 ('|', i) (List.mem_zipIdx_iff_getElem?.mpr hi)
  revert hc
  dsimp only
  split
  · exact fun hc => absurd (of_decide_eq_true hc) (by decide)
  · exact fun hc => absurd hc (by decide)

theorem plain_of_accepted (h : d.accepted = true) : d.Plain := by
  simp only [accepted, isPaymentCurrency, Bool.and_eq_true, decide_eq_true_eq] at h
  obtain ⟨⟨⟨⟨⟨⟨⟨⟨⟨⟨-, -⟩, hcurrency⟩, -⟩, -⟩, hversion⟩, -⟩, -⟩, -⟩, hplan⟩, -⟩ := h
  refine ⟨hcurrency, not_mem_of_isGuid hversion, fun hempty => ?_⟩
  rw [hempty] at hplan
  exact absurd hplan (by decide)

theorem not_mem_toString (n : ℕ) : '|' ∉ (toString n).toList := fun hmem =>
  absurd (JsonText.digit_of_mem_repr hmem) (by decide)

theorem headPieces_free (d : PricingDecision) : ∀ p ∈ d.headPieces.map String.toList, '|' ∉ p := by
  have hamount := not_mem_toString d.commercialAmountMinor
  have hplan : '|' ∉ d.cataloguePlan.text.toList := by cases d.cataloguePlan <;> decide
  have hinterval : '|' ∉ d.interval.text.toList := by cases d.interval <;> decide
  simp only [headPieces, List.map_cons, List.map_nil, List.mem_cons, List.not_mem_nil, or_false]
  rintro p (rfl | rfl | rfl | rfl | rfl)
  · decide
  · decide
  · exact hamount
  · exact hplan
  · exact hinterval

theorem middlePieces_free (h : d.Plain) : ∀ p ∈ d.middlePieces.map String.toList, '|' ∉ p := by
  simp only [middlePieces, h.currency, List.map_cons, List.map_nil, List.mem_cons, List.not_mem_nil, or_false]
  rintro p (rfl | rfl | rfl | rfl | rfl | rfl | rfl)
  · decide
  · exact not_mem_toString _
  · exact not_mem_toString _
  · exact h.version
  · exact not_mem_toString _
  · exact not_mem_toString _
  · decide

theorem headPieces_inj : d.headPieces = e.headPieces ↔
    d.commercialAmountMinor = e.commercialAmountMinor ∧ d.cataloguePlan = e.cataloguePlan ∧
      d.interval = e.interval := by
  have hplan : d.cataloguePlan.text = e.cataloguePlan.text ↔ d.cataloguePlan = e.cataloguePlan := by
    cases d.cataloguePlan <;> cases e.cataloguePlan <;> decide
  have hinterval : d.interval.text = e.interval.text ↔ d.interval = e.interval := by
    cases d.interval <;> cases e.interval <;> decide
  simp only [headPieces, List.cons.injEq, true_and, and_true, hplan, hinterval, Nat.toString_eq_repr,
    Nat.repr_inj]

theorem middlePieces_inj : d.middlePieces = e.middlePieces ↔
    d.paymentCurrency = e.paymentCurrency ∧ d.paymentAmountMinor = e.paymentAmountMinor ∧
      d.paymentAmountExponent = e.paymentAmountExponent ∧ d.fxRateVersionId = e.fxRateVersionId ∧
      d.fxRateScaled = e.fxRateScaled ∧ d.fxRateScale = e.fxRateScale := by
  simp only [middlePieces, List.cons.injEq, and_true, Nat.toString_eq_repr, Nat.repr_inj]

theorem planText_inj (hd : d.Plain) (he : e.Plain) :
    d.planText = e.planText ↔ d.providerPlanId = e.providerPlanId := by
  have hdplan := hd.plan
  have heplan := he.plan
  unfold planText
  cases hp : d.providerPlanId with
  | none =>
    cases hq : e.providerPlanId with
    | none => exact iff_of_true rfl rfl
    | some q =>
      refine iff_of_false (fun h => heplan ?_) (Option.some_ne_none q).symm
      rw [hq, ← show "" = q from h]
  | some p =>
    cases hq : e.providerPlanId with
    | none =>
      refine iff_of_false (fun h => hdplan ?_) (Option.some_ne_none p)
      rw [hp, show p = "" from h]
    | some q => exact (Option.some_inj (a := p)).symm

/-! ## Cuts -/

/-- Of two decisions alike in all else, the plan id of the second goes on with a separator and the beginning
    of the policy version of the first. -/
structure ShiftsPlan (d e : PricingDecision) : Prop where
  same : { e with
    providerPlanId := d.providerPlanId
    pricingPolicyVersion := d.pricingPolicyVersion } = d
  cut : ∃ x : List Char, e.planText.toList = d.planText.toList ++ '|' :: x ∧
    d.pricingPolicyVersion.toList = x ++ '|' :: e.pricingPolicyVersion.toList

/-- The catalogue version of the second goes on with a separator and a beginning of what follows that of
    the first, and the second has the rest of it. -/
structure ShiftsCatalogue (d e : PricingDecision) : Prop where
  amount : d.commercialAmountMinor = e.commercialAmountMinor
  plan : d.cataloguePlan = e.cataloguePlan
  interval : d.interval = e.interval
  cut : ∃ x : List Char, e.catalogueVersion.toList = d.catalogueVersion.toList ++ '|' :: x ∧
    d.middleTail = x ++ '|' :: e.middleTail

/-- One decision has a separator in a free text where the other has it between two fields. -/
def Recut (d e : PricingDecision) : Prop :=
  (d.ShiftsPlan e ∨ e.ShiftsPlan d) ∨ d.ShiftsCatalogue e ∨ e.ShiftsCatalogue d

theorem freeTail_eq_iff (hd : d.Plain) (he : e.Plain) :
    d.freeTail = e.freeTail ↔
      (d.providerPlanId = e.providerPlanId ∧ d.pricingPolicyVersion = e.pricingPolicyVersion) ∨
      (∃ x, e.planText.toList = d.planText.toList ++ '|' :: x ∧
        d.pricingPolicyVersion.toList = x ++ '|' :: e.pricingPolicyVersion.toList) ∨
      ∃ x, d.planText.toList = e.planText.toList ++ '|' :: x ∧
        e.pricingPolicyVersion.toList = x ++ '|' :: d.pricingPolicyVersion.toList := by
  unfold freeTail
  rw [Separated.cut_eq_iff, String.toList_inj, String.toList_inj, planText_inj hd he]

theorem joined_pieces_eq_iff {ps qs : List String} {r s : List Char}
    (hps : ∀ p ∈ ps.map String.toList, '|' ∉ p) (hqs : ∀ q ∈ qs.map String.toList, '|' ∉ q)
    (hlen : ps.length = qs.length) :
    Separated.joined '|' (ps.map String.toList) r = Separated.joined '|' (qs.map String.toList) s ↔
      ps = qs ∧ r = s := by
  rw [Separated.joined_eq_iff (by rw [List.length_map, List.length_map, hlen]) hps hqs,
    (List.map_injective_iff.mpr fun _ _ => String.toList_inj.mp).eq_iff]

theorem same_iff : { e with
      providerPlanId := d.providerPlanId
      pricingPolicyVersion := d.pricingPolicyVersion } = d ↔
    d.headPieces = e.headPieces ∧ d.catalogueVersion = e.catalogueVersion ∧
      d.middlePieces = e.middlePieces := by
  rw [headPieces_inj, middlePieces_inj]
  constructor
  · intro h
    rw [← h]
    exact ⟨⟨rfl, rfl, rfl⟩, rfl, rfl, rfl, rfl, rfl, rfl, rfl⟩
  · obtain ⟨_, _, _, _, _, _, _, _, _, _, _, _⟩ := d
    rintro ⟨⟨rfl, rfl, rfl⟩, rfl, rfl, rfl, rfl, rfl, rfl, rfl⟩
    rfl

theorem canonicalString_eq_iff (hd : d.Plain) (he : e.Plain) :
    d.canonicalString = e.canonicalString ↔ d = e ∨ d.Recut e := by
  rw [← String.toList_inj, canonicalString_toList, canonicalString_toList,
    joined_pieces_eq_iff d.headPieces_free e.headPieces_free rfl, Separated.cut_eq_iff, String.toList_inj,
    show d.middleTail = e.middleTail ↔ d.middlePieces = e.middlePieces ∧ d.freeTail = e.freeTail from
      joined_pieces_eq_iff (middlePieces_free hd) (middlePieces_free he) rfl, freeTail_eq_iff hd he]
  constructor
  · rintro ⟨hhead, ⟨hversion, hmiddle, htail⟩ | hcut | hcut⟩
    · have hsame := same_iff.mpr ⟨hhead, hversion, hmiddle⟩
      rcases htail with ⟨hplan, hpolicy⟩ | hcut | hcut
      · rw [hplan, hpolicy] at hsame
        exact Or.inl hsame.symm
      · exact Or.inr (Or.inl (Or.inl ⟨hsame, hcut⟩))
      · exact Or.inr (Or.inl (Or.inr ⟨same_iff.mpr ⟨hhead.symm, hversion.symm, hmiddle.symm⟩, hcut⟩))
    · obtain ⟨hamount, hplan, hinterval⟩ := headPieces_inj.mp hhead
      exact Or.inr (Or.inr (Or.inl ⟨hamount, hplan, hinterval, hcut⟩))
    · obtain ⟨hamount, hplan, hinterval⟩ := headPieces_inj.mp hhead.symm
      exact Or.inr (Or.inr (Or.inr ⟨hamount, hplan, hinterval, hcut⟩))
  · rintro (rfl | (h | h) | h | h)
    · exact ⟨rfl, Or.inl ⟨rfl, rfl, Or.inl ⟨rfl, rfl⟩⟩⟩
    · obtain ⟨hhead, hversion, hmiddle⟩ := same_iff.mp h.same
      exact ⟨hhead, Or.inl ⟨hversion, hmiddle, Or.inr (Or.inl h.cut)⟩⟩
    · obtain ⟨hhead, hversion, hmiddle⟩ := same_iff.mp h.same
      exact ⟨hhead.symm, Or.inl ⟨hversion.symm, hmiddle.symm, Or.inr (Or.inr h.cut)⟩⟩
    · exact ⟨headPieces_inj.mpr ⟨h.amount, h.plan, h.interval⟩, Or.inr (Or.inl h.cut)⟩
    · exact ⟨(headPieces_inj.mpr ⟨h.amount, h.plan, h.interval⟩).symm, Or.inr (Or.inr h.cut)⟩

theorem cut_ne {a b x : List Char} (h : b = a ++ '|' :: x) : a ≠ b := by
  rintro rfl
  simpa using congrArg List.length h

theorem ne_of_recut (h : d.Recut e) : d ≠ e := by
  rintro rfl
  rcases h with (h | h) | h | h
  all_goals
    obtain ⟨x, hx, -⟩ := h.cut
    exact cut_ne hx rfl

theorem canonicalString_inj_iff (hd : d.Plain) (he : e.Plain) :
    (d.canonicalString = e.canonicalString → d = e) ↔ ¬d.Recut e := by
  rw [canonicalString_eq_iff hd he]
  constructor
  · exact fun h hcut => ne_of_recut hcut (h (Or.inr hcut))
  · exact fun hcut h => h.resolve_right hcut

/-! ## Storage -/

theorem ne_of_hexDigit? {c d : Char} (h : hexDigit? c = some d) : d ≠ '|' := by
  unfold hexDigit? at h
  rintro rfl
  split at h
  · rename_i hc
    cases h
    exact absurd hc (by decide)
  split at h
  · rename_i hc
    cases h
    exact absurd hc (by decide)
  split at h
  · rename_i hc
    have hlow : 65 ≤ c.toNat := hc.1
    have hhigh : c.toNat ≤ 70 := hc.2
    have hnat := congrArg Char.toNat (Option.some.inj h)
    rw [Char.toNat_ofNat, if_pos (Or.inl (by omega))] at hnat
    exact absurd hnat (by rw [show '|'.toNat = 124 from rfl]; omega)
  · cases h

theorem not_mem_uuidDigits {bytes i : ℕ} {rest digits rest' : List Char}
    (h : uuidDigits bytes i rest = some (digits, rest')) : '|' ∉ digits := by
  induction bytes generalizing i rest digits rest' with
  | zero =>
    cases h
    exact List.not_mem_nil
  | succ bytes ih =>
    obtain _ | ⟨a, _ | ⟨b, rest⟩⟩ := rest
    · cases h
    · cases h
    rw [uuidDigits] at h
    split at h
    · rename_i hlow hhigh
      generalize (if rest.head? = some '-' ∧ i % 2 = 1 ∧ i < 15 then rest.tail else rest) = next at h
      dsimp only at h
      split at h
      · rename_i hrest
        cases h
        rw [List.mem_cons, List.mem_cons, not_or, not_or]
        exact ⟨(ne_of_hexDigit? hlow).symm, (ne_of_hexDigit? hhigh).symm, ih hrest⟩
      · cases h
    · cases h

theorem not_mem_uuid (u : Uuid) : '|' ∉ u.text.toList := by
  have hprint : ∀ digits, '|' ∉ digits → '|' ∉ (printUuid digits).toList := by
    intro digits hfree hmem
    rw [printUuid, String.toList_ofList] at hmem
    simp only [List.mem_append, List.mem_cons, show ('|' = '-') = False from by decide, false_or] at hmem
    rcases hmem with ((((h | h) | h) | h) | h)
    all_goals first
      | exact hfree (List.mem_of_mem_take h)
      | exact hfree (List.mem_of_mem_drop h)
      | exact hfree (List.mem_of_mem_drop (List.mem_of_mem_take h))
  have hprinted := u.printed
  unfold normalizeUuid at hprinted
  split at hprinted
  · split at hprinted
    · rename_i hdigits
      rw [← Option.some.inj hprinted]
      exact hprint _ (not_mem_uuidDigits hdigits)
    · cases hprinted
  · split at hprinted
    · rename_i hdigits
      rw [← Option.some.inj hprinted]
      exact hprint _ (not_mem_uuidDigits hdigits)
    · cases hprinted

theorem plain_ofSnapshot {s : BillingPricingSnapshot} (h : isPricingSnapshot s = true) :
    (ofSnapshot s).Plain := by
  simp only [isPricingSnapshot, isPaymentAmount, isPaymentCurrency, Bool.and_eq_true,
    decide_eq_true_eq] at h
  obtain ⟨⟨⟨⟨⟨⟨⟨⟨-, -⟩, ⟨hcurrency, -⟩, -⟩, -⟩, hplan⟩, -⟩, -⟩, -⟩, -⟩ := h
  refine ⟨hcurrency, not_mem_uuid _, fun hempty => ?_⟩
  rw [show s.providerPlanId = some "" from hempty] at hplan
  exact absurd hplan (by decide)

open Prices in
theorem create_rows {runtime : BillingRuntime} {refuses : SnapshotTable → SnapshotColumns → Bool}
    {table table' : SnapshotTable} {id : Uuid} {s : BillingPricingSnapshot} {result}
    (h : create runtime refuses table id s = (table', result)) : ∀ r ∈ table.rows, r ∈ table'.rows := by
  intro r hr
  unfold create at h
  split at h
  · cases h
    exact hr
  dsimp only at h
  split at h
  · cases h
    exact hr
  split at h
  · split at h
    · cases h
      exact List.mem_append_left _ hr
    · cases h
      exact hr
  split at h
  all_goals
    cases h
    exact hr

open Prices in
theorem findById_mono {runtime : BillingRuntime} {table table' : SnapshotTable} {id : Uuid}
    {stored : StoredSnapshot} (hrows : ∀ r ∈ table.rows, r ∈ table'.rows)
    (h : table.findById runtime id = .ok (some stored)) : table'.findById runtime id = .ok (some stored) := by
  unfold SnapshotTable.findById at h
  split at h
  · cases h
  rename_i row hrow
  have hid : row.id = id := by simpa using List.find?_some hrow
  cases hread : fromRow runtime row with
  | error e => rw [hread] at h; cases h
  | ok stored' =>
    rw [hread] at h
    cases h
    rw [← hid]
    exact SnapshotTable.findById_of_mem (hrows row (List.mem_of_find?_eq_some hrow)) hread

/-- Snapshots created one after the other, with any rows in between, are one stored snapshot only if they
    record one decision. -/
def StoredApart (runtime : BillingRuntime) (s t : BillingPricingSnapshot) : Prop :=
  ∀ (refuses : Prices.SnapshotTable → Prices.SnapshotColumns → Bool)
    (before first later last : Prices.SnapshotTable) (id id' : Uuid) (stored stored' : StoredSnapshot),
    Prices.create runtime refuses before id s = (first, .ok stored) →
    (∀ r ∈ first.rows, r ∈ later.rows) →
    Prices.create runtime refuses later id' t = (last, .ok stored') →
    stored.id = stored'.id → ofSnapshot s = ofSnapshot t

open Prices in
theorem storedApart_iff {runtime : BillingRuntime} {s t : BillingPricingSnapshot}
    (hsha : ∀ text, isSha256Hex (runtime.sha256Hex text) = true)
    (hfree : pricingIdempotencyKey runtime s = pricingIdempotencyKey runtime t →
      pricingIdempotencyCanonicalString s = pricingIdempotencyCanonicalString t)
    (hs : verifyPricingSnapshot s = .ok s) (ht : verifyPricingSnapshot t = .ok t) :
    StoredApart runtime s t ↔ ¬(ofSnapshot s).Recut (ofSnapshot t) := by
  have hplain : ∀ {u}, verifyPricingSnapshot u = .ok u → (ofSnapshot u).Plain := fun hu =>
    plain_ofSnapshot (verifyPricingSnapshot_ok.mp hu).2.1
  rw [← canonicalString_inj_iff (hplain hs) (hplain ht), ← canonicalString_ofSnapshot,
    ← canonicalString_ofSnapshot]
  constructor
  · intro hapart hsame
    have hkey : pricingIdempotencyKey runtime s = pricingIdempotencyKey runtime t :=
      congrArg runtime.sha256Hex hsame
    -- the first snapshot goes into an empty table
    let empty : SnapshotTable := ⟨[], List.nodup_nil, List.nodup_nil⟩
    let stored : StoredSnapshot := ⟨Uuid.ofDigit 0, pricingIdempotencyKey runtime s, s⟩
    have hfirst : (create runtime (fun _ _ => false) empty (Uuid.ofDigit 0) s).2 = .ok stored :=
      (storedExactly hs (hsha _)).accepted _ empty (Uuid.ofDigit 0) (by simp [empty]) (by simp [empty]) rfl
    obtain ⟨first, hcreate⟩ : ∃ first,
        create runtime (fun _ _ => false) empty (Uuid.ofDigit 0) s = (first, .ok stored) :=
      ⟨_, Prod.ext rfl hfirst⟩
    obtain ⟨-, -, hfound, -⟩ := (storedExactly hs (hsha _)).stored _ _ _ _ _ hcreate
    -- the second one finds its row
    have hsecond : create runtime (fun _ _ => false) first (Uuid.ofDigit 1) t = (first, .ok stored) := by
      obtain ⟨row, hrow, hrowkey, -⟩ := SnapshotTable.findByIdempotencyKey_some hfound
      unfold create
      rw [ht]
      dsimp only
      rw [if_neg Bool.false_ne_true, dif_neg fun hunused => hunused row hrow (hrowkey.trans hkey)]
      rw [show (SnapshotColumns.ofSnapshot (Uuid.ofDigit 1) (pricingIdempotencyKey runtime t)
        t).idempotency_key = pricingIdempotencyKey runtime s from hkey.symm, hfound]
    exact hapart _ _ _ _ _ _ _ _ _ hcreate (fun _ hr => hr) hsecond rfl
  · intro hinjective refuses before first later last id id' stored stored' hcreate hrows hcreate' hid
    obtain ⟨hkey, hfound, -, -⟩ := (storedExactly hs (hsha _)).stored _ _ _ _ _ hcreate
    obtain ⟨hkey', hfound', -, -⟩ := (storedExactly ht (hsha _)).stored _ _ _ _ _ hcreate'
    have hstill := findById_mono (fun r hr => create_rows hcreate' r (hrows r hr)) hfound
    rw [hid, hfound'] at hstill
    cases hstill
    exact hinjective (hfree (hkey.symm.trans hkey'))

/-- Of two accepted decisions: the key tells them apart, and they are stored apart, unless a free text of
    one is cut elsewhere in the other. -/
theorem decisionKey_injective_iff (hd : d.accepted = true) (he : e.accepted = true) :
    ((d.canonicalString = e.canonicalString → d = e) ↔ ¬d.Recut e) ∧
    ∀ (runtime : BillingRuntime) (s t : BillingPricingSnapshot),
      (∀ text, Prices.isSha256Hex (runtime.sha256Hex text) = true) →
      (pricingIdempotencyKey runtime s = pricingIdempotencyKey runtime t →
        pricingIdempotencyCanonicalString s = pricingIdempotencyCanonicalString t) →
      verifyPricingSnapshot s = .ok s → verifyPricingSnapshot t = .ok t →
      ofSnapshot s = d → ofSnapshot t = e →
      (StoredApart runtime s t ↔ ¬d.Recut e) := by
  refine ⟨canonicalString_inj_iff (plain_of_accepted hd) (plain_of_accepted he), ?_⟩
  rintro runtime s t hsha hfree hs ht rfl rfl
  exact storedApart_iff hsha hfree hs ht

/-! ## A separator in a policy version -/

open Prices in
/-- Pro by the month, sold with a provider plan under a policy. -/
def plannedPrice (providerPlanId pricingPolicyVersion : String) : BillingPricingSnapshot :=
  { samplePrice 0 with providerPlanId := some providerPlanId, pricingPolicyVersion }

/-- The digest of the one text both prices have. -/
def plannedRuntime : BillingRuntime where
  sha256Hex text :=
    if text = "billing-pricing-snapshot/v1|USD|3900|pro|monthly|billing-catalogue-1|GHS|48750|2|" ++
        "00000000-0000-0000-0000-000000000001|12500000|6|half_up|PLN_pro|live|pr3-usd-ghs-v1" then
      "014f9c9513e682d1621260e2bf9956a76f5cd3f7f818eda83a516ce30142fa99"
    else "0000000000000000000000000000000000000000000000000000000000000000"
  isoDateTime _ := true
  storedInstant := id

theorem planned_facts :
    let s := plannedPrice "PLN_pro" "live|pr3-usd-ghs-v1"
    let t := plannedPrice "PLN_pro|live" "pr3-usd-ghs-v1"
    ((ofSnapshot s).accepted = true ∧ (ofSnapshot t).accepted = true) ∧
    pricingIdempotencyCanonicalString s = pricingIdempotencyCanonicalString t ∧
    verifyPricingSnapshot s = .ok s ∧ verifyPricingSnapshot t = .ok t := by
  decide +kernel

theorem decisionKey_injective_iff_planned :
    StoredApart plannedRuntime (plannedPrice "PLN_pro" "live|pr3-usd-ghs-v1")
        (plannedPrice "PLN_pro|live" "pr3-usd-ghs-v1") ↔
      ¬(ofSnapshot (plannedPrice "PLN_pro" "live|pr3-usd-ghs-v1")).Recut
        (ofSnapshot (plannedPrice "PLN_pro|live" "pr3-usd-ghs-v1")) := by
  obtain ⟨⟨hfirst, hsecond⟩, htext, hverified⟩ := planned_facts
  have hhex : ∀ text, Prices.isSha256Hex (plannedRuntime.sha256Hex text) = true := by
    intro text
    unfold plannedRuntime Prices.isSha256Hex
    dsimp only
    split <;> rw [String.toList_ofList] <;> decide +kernel
  exact (decisionKey_injective_iff hfirst hsecond).2 plannedRuntime _ _ hhex (fun _ => htext) hverified.1
    hverified.2 rfl rfl

/-- Two decisions that differ in their plan and their policy have one text, and the second is given the
    stored snapshot of the first. -/
theorem second_plan_reads_first :
    let s := plannedPrice "PLN_pro" "live|pr3-usd-ghs-v1"
    let t := plannedPrice "PLN_pro|live" "pr3-usd-ghs-v1"
    (ofSnapshot s).accepted = true ∧ (ofSnapshot t).accepted = true ∧
    pricingIdempotencyCanonicalString s = pricingIdempotencyCanonicalString t ∧
    ofSnapshot s ≠ ofSnapshot t ∧
    (Prices.create plannedRuntime (fun _ _ => false)
      (Prices.create plannedRuntime (fun _ _ => false) ⟨[], List.nodup_nil, List.nodup_nil⟩
        (Uuid.ofDigit 2) s).1 (Uuid.ofDigit 3) t).2 =
      .ok ⟨Uuid.ofDigit 2, pricingIdempotencyKey plannedRuntime t, s⟩ := by
  obtain ⟨hfirst, hsecond⟩ := planned_facts.1
  exact ⟨hfirst, hsecond, planned_facts.2.1, by decide +kernel, by decide +kernel⟩

end PricingDecision

end VeltrixEye.Billing
