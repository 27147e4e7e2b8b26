import VeltrixEye.Lib.Numerals
import VeltrixEye.Risk.Engine

/-!
# What an approval was checked against

`WithinLimits` states the platform's intent for an approved new position: every exposure sum,
with the new risk added, stays inside its cap, and so do the losses.

Principal results:
-/

namespace VeltrixEye

open RiskRejectionCode

/-! ## Risk sums -/

/-- The open risk of a position in `10^-10` units, zero when it is not computable. -/
def openRiskUnits (p : OpenPositionSnapshot) : ℤ :=
  match openRiskOf p with
  | .ok (some r) => r.units
  | _ => 0

/-- `openRiskOf` returns a value. -/
def Computable (p : OpenPositionSnapshot) : Prop := ∃ r, openRiskOf p = .ok (some r)

/-- The exact exposure of the selected positions and reservations. -/
def exposureUnits (input : RiskEngineInput) (selP : OpenPositionSnapshot → Bool)
    (selR : ReservationSnapshot → Bool) : ℤ :=
  ((input.openPositions.filter selP).map openRiskUnits).sum +
    ((input.reservations.filter selR).map fun r => r.monetaryRisk.units).sum

theorem addOpenRisk_ok {sel : OpenPositionSnapshot → Bool} {acc acc' : Dec × Bool}
    {p : OpenPositionSnapshot} (h : addOpenRisk sel acc p = .ok acc') :
    acc'.1.units = acc.1.units + (if sel p then openRiskUnits p else 0) ∧
      (acc'.2 = false ↔ acc.2 = false ∧ (sel p = true → Computable p)) := by
  unfold addOpenRisk at h
  split at h
  · rename_i hsel
    simp only [Except.bind_ok_iff] at h
    obtain ⟨r, hr, h⟩ := h
    cases r with
    | none =>
      cases h
      have hnot : ¬ Computable p := by
        rintro ⟨r, hr'⟩
        rw [hr] at hr'
        cases hr'
      simp [openRiskUnits, hr, hsel, hnot]
    | some r =>
      simp only [Except.bind_ok_iff, Dec.add_ok] at h
      obtain ⟨sum, hsum, h⟩ := h
      cases h
      have hcomp : Computable p := ⟨r, hr⟩
      simp [openRiskUnits, hr, hsel, hcomp, hsum]
  · rename_i hsel
    cases h
    simp [hsel]

theorem foldlM_addOpenRisk_ok {sel : OpenPositionSnapshot → Bool} {ps : List OpenPositionSnapshot} :
    ∀ {acc acc' : Dec × Bool}, ps.foldlM (addOpenRisk sel) acc = .ok acc' →
      acc'.1.units = acc.1.units + ((ps.filter sel).map openRiskUnits).sum ∧
        (acc'.2 = false ↔ acc.2 = false ∧ ∀ p ∈ ps, sel p = true → Computable p) := by
  induction ps with
  | nil =>
    intro acc acc' h
    cases h
    simp
  | cons p ps ih =>
    intro acc acc' h
    simp only [List.foldlM_cons, Except.bind_ok_iff] at h
    obtain ⟨mid, hmid, h⟩ := h
    obtain ⟨hu, hf⟩ := addOpenRisk_ok hmid
    obtain ⟨hu', hf'⟩ := ih h
    constructor
    · rw [hu', hu, List.filter_cons]
      split <;> simp [add_assoc]
    · rw [hf', hf, List.forall_mem_cons, and_assoc]

theorem foldlM_addReservation_ok {sel : ReservationSnapshot → Bool} {rs : List ReservationSnapshot} :
    ∀ {acc acc' : Dec}, rs.foldlM (addReservation sel) acc = .ok acc' →
      acc'.units = acc.units + ((rs.filter sel).map fun r => r.monetaryRisk.units).sum := by
  induction rs with
  | nil =>
    intro acc acc' h
    cases h
    simp
  | cons r rs ih =>
    intro acc acc' h
    simp only [List.foldlM_cons, Except.bind_ok_iff] at h
    obtain ⟨mid, hmid, h⟩ := h
    rw [ih h, List.filter_cons]
    unfold addReservation at hmid
    split at hmid
    · rename_i hsel
      rw [Dec.add_ok] at hmid
      simp [hsel, hmid, add_assoc]
    · rename_i hsel
      cases hmid
      simp [hsel]

/-- **A risk sum** is the exact sum of the selected risks, and its flag is down exactly when every
    selected position is computable. -/
theorem sumRisk_ok {input : RiskEngineInput} {start : Dec} {selP : OpenPositionSnapshot → Bool}
    {selR : ReservationSnapshot → Bool} {t : Dec × Bool}
    (h : sumRisk start selP selR input.openPositions input.reservations = .ok t) :
    t.1.units = start.units + exposureUnits input selP selR ∧
      (t.2 = false ↔ ∀ p ∈ input.openPositions, selP p = true → Computable p) := by
  simp only [sumRisk, Except.bind_ok_iff] at h
  obtain ⟨acc, hacc, sum, hsum, h⟩ := h
  cases h
  obtain ⟨hu, hf⟩ := foldlM_addOpenRisk_ok hacc
  refine ⟨?_, by simpa using hf⟩
  rw [foldlM_addReservation_ok hsum, hu]
  unfold exposureUnits
  exact add_assoc _ _ _

/-- What the exposure loop established. -/
structure ExposureComputed (input : RiskEngineInput) (current : ExposureView) (flag : Bool) : Prop where
  openPositions : current.openPositions = input.openPositions.length
  reservedPositions : current.reservedPositions = input.reservations.length
  total : current.totalOpenRisk.units = exposureUnits input (fun _ => true) (fun _ => true)
  instrument : current.instrumentOpenRisk.units = exposureUnits input
    (fun p => p.symbol == input.candidate.symbol) (fun r => r.symbol == input.candidate.symbol)
  direction : current.directionOpenRisk.units = exposureUnits input
    (fun p => p.direction == input.candidate.direction)
    (fun r => r.direction == input.candidate.direction)
  computable : flag = false → ∀ p ∈ input.openPositions, Computable p

theorem currentExposure_ok {input : RiskEngineInput} {current : ExposureView} {flag : Bool}
    (h : currentExposure input = .ok (current, flag)) : ExposureComputed input current flag := by
  simp only [currentExposure, Except.bind_ok_iff] at h
  obtain ⟨total, htotal, inst, hinst, dir, hdir, h⟩ := h
  cases h
  obtain ⟨hu, hf⟩ := sumRisk_ok htotal
  obtain ⟨hiu, -⟩ := sumRisk_ok hinst
  obtain ⟨hdu, -⟩ := sumRisk_ok hdir
  refine ⟨rfl, rfl, ?_, ?_, ?_, ?_⟩
  · simpa using hu
  · simpa using hiu
  · simpa using hdu
  · intro hflag p hp
    simp only [Bool.or_eq_false_iff] at hflag
    exact hf.mp hflag.1.1 p hp rfl

/-! ## Approved openings -/

/-- Everything `evaluateOpen` established when it approved. -/
structure OpenApproved (input : RiskEngineInput) (current : ExposureView) (dailyCap weeklyCap : Dec)
    (s : SizingSuccess) : Prop where
  sized : ∃ si, Sized si s ∧ si.entry = (Dec.fromNumber input.candidate.entryPrice).getD Dec.zero ∧
    si.stopLoss = (Dec.fromNumber input.candidate.stopLossPrice).getD Dec.zero ∧
    si.spec = input.instrument
  slots : JsNumber.lt input.tightened.maxSimultaneousPositions
    (.fin ((current.openPositions + current.reservedPositions : ℕ) + 1)) = false
  total : ∃ cap, pctOf input.account.equity input.tightened.maxTotalOpenRiskPct = .ok cap ∧
    current.totalOpenRisk.units + s.monetaryRisk.units ≤ cap.units
  instrument : ∃ cap, pctOf input.account.equity input.tightened.maxExposurePerInstrumentPct = .ok cap ∧
    current.instrumentOpenRisk.units + s.monetaryRisk.units ≤ cap.units
  direction : ∃ cap, pctOf input.account.equity input.tightened.maxExposurePerDirectionPct = .ok cap ∧
    current.directionOpenRisk.units + s.monetaryRisk.units ≤ cap.units
  correlation : correlationViolations input input.tightened s.monetaryRisk = .ok []
  per_trade : ∃ cap, pctOf input.account.equity input.tightened.riskPctPerTrade = .ok cap ∧
    s.monetaryRisk.units ≤ cap.units
  monetary : ∀ m d, input.tightened.maxMonetaryRiskPerTrade = some m → m.truthy = true →
    Dec.fromNumber m = some d → s.monetaryRisk.units ≤ d.units
  daily_budget : ∀ loss, loss = lossOf input.account.dailyRealizedPl →
    loss.units ≤ dailyCap.units → loss.units + s.monetaryRisk.units ≤ dailyCap.units
  weekly_budget : ∀ loss, loss = lossOf input.account.weeklyRealizedPl →
    loss.units ≤ weeklyCap.units → loss.units + s.monetaryRisk.units ≤ weeklyCap.units

theorem mem_sizingCaps {x : Dec} {remaining : List Dec} (hx : x ∈ remaining) (h : 0 ≤ x.units) :
    x ∈ sizingCaps remaining := by
  unfold sizingCaps
  rw [List.mem_map]
  refine ⟨x, List.mem_filter.mpr ⟨hx, decide_eq_true h⟩, ?_⟩
  have : x.isNegative = false := by simp [Dec.isNegative, h]
  simp [this]

theorem pctOf_of_percentOf {equity b : Dec} {pct : JsNumber}
    (h : percentOf equity ((Dec.fromNumber pct).getD Dec.zero) = .ok (some b)) :
    pctOf equity pct = .ok b := by
  unfold pctOf
  rw [h]
  rfl

theorem evaluateOpen_approved {input : RiskEngineInput} {base v : RiskEngineVerdict} {rr : Option Dec}
    {current : ExposureView} {dailyCap weeklyCap : Dec} {earlier : List RiskRejectionCode}
    (h : evaluateOpen input input.tightened base rr current dailyCap weeklyCap earlier = .ok v)
    (hv : v.outcome = .approved) :
    ∃ s, v.monetaryRisk = some s.monetaryRisk ∧ v.positionSize = some s.quantity ∧ earlier = [] ∧
      OpenApproved input current dailyCap weeklyCap s := by
  simp only [evaluateOpen, Except.bind_ok_iff] at h
  obtain ⟨remD, hremD, remW, hremW, totalCap, htotalCap, remT, hremT, instCap, hinstCap, remI, hremI,
    dirCap, hdirCap, remDir, hremDir, pT, hpT, pI, hpI, pD, hpD, corr, hcorr, h⟩ := h
  split at h
  · cases h
    cases hv
  · rename_i hnil
    simp only [List.append_eq_nil_iff, pushIf_eq_nil, not_lt] at hnil
    obtain ⟨⟨⟨⟨⟨⟨hearlier, -⟩, hslots⟩, htotal⟩, hinst⟩, hdir⟩, rfl⟩ := hnil
    split at h
    · cases h
      cases hv
    · rename_i s hs
      cases h
      rw [hs] at hpT hpI hpD hcorr
      have hsized := sizePosition_ok hs
      rw [Dec.add_ok] at hpT hpI hpD
      rw [Dec.sub_ok] at hremD hremW
      rw [Dec.le_def] at htotal hinst hdir
      simp only [riskOrZero] at hpT hpI hpD hcorr
      refine ⟨s, congrArg (fun x => (Except.toOption x).map _) hs,
        congrArg (fun x => (Except.toOption x).map _) hs, hearlier, ?_⟩
      exact {
        sized := ⟨_, hsized, rfl, rfl, rfl⟩
        slots := by simpa using hslots
        total := ⟨totalCap, htotalCap, by omega⟩
        instrument := ⟨instCap, hinstCap, by omega⟩
        direction := ⟨dirCap, hdirCap, by omega⟩
        correlation := hcorr
        per_trade := by
          obtain ⟨b, hb, hle⟩ := hsized.within_pct
          exact ⟨b, pctOf_of_percentOf hb, hle⟩
        monetary := by
          intro m d hm htruthy hd
          exact hsized.within_monetary d (by simp only [hm, Option.filter, htruthy, hd, Option.bind, if_true])
        daily_budget := by
          rintro loss rfl hle
          have := hsized.within_extra remD (mem_sizingCaps (by simp) (by omega))
          rw [Dec.le_def] at this
          omega
        weekly_budget := by
          rintro loss rfl hle
          have := hsized.within_extra remW (mem_sizingCaps (by simp) (by omega))
          rw [Dec.le_def] at this
          omega }

/-! ## The full evaluation -/

/-- Everything the engine established when it approved an opening. -/
structure EngineApproved (input : RiskEngineInput) (current : ExposureView) (dailyCap weeklyCap : Dec)
    (s : SizingSuccess) : Prop extends OpenApproved input current dailyCap weeklyCap s where
  exposure : ExposureComputed input current false
  dailyCap_eq : pctOf input.account.equity input.tightened.maxDailyLossPct = .ok dailyCap
  weeklyCap_eq : pctOf input.account.equity input.tightened.maxWeeklyLossPct = .ok weeklyCap
  request : requestViolations input input.tightened input.blocked (calculateRr input.rrInput) = []
  losses : lossViolations input input.tightened dailyCap weeklyCap = []
  drawdown : drawdownViolations input.drawdown input.tightened = .ok []

/-- **An approved opening**, seen through the whole engine. -/
theorem evaluateRisk_open_approved {input : RiskEngineInput}
    (hopen : input.candidate.action ≠ .close_position)
    (hv : (evaluateRisk input).outcome = .approved) :
    ∃ s current dailyCap weeklyCap,
      (evaluateRisk input).monetaryRisk = some s.monetaryRisk ∧
      (evaluateRisk input).positionSize = some s.quantity ∧
      EngineApproved input current dailyCap weeklyCap s := by
  unfold evaluateRisk at hv ⊢
  cases hinner : evaluateRiskInner input with
  | error e =>
    rw [hinner] at hv
    cases hv
  | ok v =>
    rw [hinner] at hv
    simp only [evaluateRiskInner, Except.bind_ok_iff] at hinner
    obtain ⟨⟨current, flag⟩, hcur, dailyCap, hdaily, weeklyCap, hweekly, dd, hdd, h⟩ := hinner
    obtain ⟨s, hrisk, hsize, hearlier, happr⟩ := evaluateOpen_approved h hv
    simp only [List.append_eq_nil_iff, pushIf_eq_nil, Bool.not_eq_true] at hearlier
    obtain ⟨⟨⟨hreq, rfl⟩, hloss⟩, rfl⟩ := hearlier
    refine ⟨s, current, dailyCap, weeklyCap, hrisk, hsize, ?_⟩
    exact { happr with
      exposure := currentExposure_ok hcur
      dailyCap_eq := hdaily
      weeklyCap_eq := hweekly
      request := hreq
      losses := hloss
      drawdown := hdd }

/-! ## The limits as intended -/

/-- A monetary cap holds of a risk.  Inside `Dec`'s range the two are compared as decimals; a cap
    beyond it holds when it is positive. -/
def RespectsMonetaryCap (m : JsNumber) (risk : Dec) : Prop :=
  match Dec.fromNumber m with
  | some d => risk ≤ d
  | none => JsNumber.lt 0 m = true

/-- What an approval of a new position with this risk is meant to guarantee. -/
structure WithinLimits (input : RiskEngineInput) (risk : Dec) : Prop where
  killSwitch : input.killSwitchActive = false
  enabled : input.tightened.enabled = true
  notBlocked : input.blocked = false
  computable : ∀ p ∈ input.openPositions, Computable p
  slots : JsNumber.le (.fin ((input.openPositions.length + input.reservations.length : ℕ) + 1))
    input.tightened.maxSimultaneousPositions = true
  total : ∃ cap, pctOf input.account.equity input.tightened.maxTotalOpenRiskPct = .ok cap ∧
    exposureUnits input (fun _ => true) (fun _ => true) + risk.units ≤ cap.units
  instrument : ∃ cap, pctOf input.account.equity input.tightened.maxExposurePerInstrumentPct = .ok cap ∧
    exposureUnits input (fun p => p.symbol == input.candidate.symbol)
      (fun r => r.symbol == input.candidate.symbol) + risk.units ≤ cap.units
  direction : ∃ cap, pctOf input.account.equity input.tightened.maxExposurePerDirectionPct = .ok cap ∧
    exposureUnits input (fun p => p.direction == input.candidate.direction)
      (fun r => r.direction == input.candidate.direction) + risk.units ≤ cap.units
  groups : ∀ gid ∈ input.candidateGroupIds, ∀ g,
    input.correlationGroups.find? (fun g => g.id == gid) = some g →
    ∃ groupCap cap,
      pctOf input.account.equity input.tightened.maxCorrelationGroupExposurePct = .ok groupCap ∧
      groupCapOf input.account.equity groupCap g = .ok cap ∧
      exposureUnits input (fun p => g.members.contains p.symbol) (fun r => g.members.contains r.symbol) +
        risk.units ≤ cap.units
  daily : ∃ cap, pctOf input.account.equity input.tightened.maxDailyLossPct = .ok cap ∧
    (lossOf input.account.dailyRealizedPl).units + risk.units ≤ cap.units
  weekly : ∃ cap, pctOf input.account.equity input.tightened.maxWeeklyLossPct = .ok cap ∧
    (lossOf input.account.weeklyRealizedPl).units + risk.units ≤ cap.units
  perTrade : ∃ cap, pctOf input.account.equity input.tightened.riskPctPerTrade = .ok cap ∧
    risk.units ≤ cap.units
  monetary : ∀ m, input.tightened.maxMonetaryRiskPerTrade = some m → RespectsMonetaryCap m risk

/-- The limits that the engine only tests when they look set: loss caps that round to a positive
    amount, a positive monetary cap, a position limit that is a number. -/
structure LimitsEffective (input : RiskEngineInput) : Prop where
  daily : ∃ cap, pctOf input.account.equity input.tightened.maxDailyLossPct = .ok cap ∧ 0 < cap.units
  weekly : ∃ cap, pctOf input.account.equity input.tightened.maxWeeklyLossPct = .ok cap ∧ 0 < cap.units
  monetary : ∀ m, input.tightened.maxMonetaryRiskPerTrade = some m → JsNumber.lt 0 m = true
  slots : input.tightened.maxSimultaneousPositions ≠ .nan

theorem lossOf_nonneg (pl : Dec) : 0 ≤ (lossOf pl).units := by
  unfold lossOf
  split
  · exact abs_nonneg _
  · exact le_rfl

theorem JsNumber.le_iff_of_not_lt {q : ℚ} {x : JsNumber} (h : JsNumber.lt x (.fin q) = false) :
    JsNumber.le (.fin q) x = true ↔ x ≠ .nan := by
  cases x with
  | nan => simp [JsNumber.le]
  | posInf => simp [JsNumber.le, JsNumber.lt]
  | negInf => simp [JsNumber.lt] at h
  | fin r => simpa [JsNumber.le] using h

theorem JsNumber.truthy_of_pos {m : JsNumber} (h : JsNumber.lt 0 m = true) : m.truthy = true := by
  cases m with
  | nan => cases h
  | posInf => rfl
  | negInf => cases h
  | fin q =>
    change decide (0 < q) = true at h
    have : q ≠ 0 := (of_decide_eq_true h).ne'
    simp [JsNumber.truthy, this]

theorem pos_of_fromNumber_pos {m : JsNumber} {d : Dec} (h : Dec.fromNumber m = some d)
    (hd : 0 < d.units) : JsNumber.lt 0 m = true := by
  cases m with
  | nan => cases h
  | posInf => cases h
  | negInf => cases h
  | fin q =>
    rw [Dec.fromNumber_eq_some h] at hd
    change decide (0 < q) = true
    rw [decide_eq_true_eq]
    by_contra hq
    have := Rounding.halfAway_mono (mul_nonpos_of_nonpos_of_nonneg (not_lt.mp hq) (by positivity : (0 : ℚ) ≤ 10 ^ DEC_SCALE))
    have h0 : Rounding.halfAway (0 : ℚ) = 0 := by simpa using Rounding.halfAway_intCast (α := ℚ) 0
    omega

theorem correlationViolations_nil {input : RiskEngineInput} {risk : Dec}
    (h : correlationViolations input input.tightened risk = .ok []) :
    ∀ gid ∈ input.candidateGroupIds, ∀ g,
      input.correlationGroups.find? (fun g => g.id == gid) = some g →
      ∃ groupCap cap,
        pctOf input.account.equity input.tightened.maxCorrelationGroupExposurePct = .ok groupCap ∧
        groupCapOf input.account.equity groupCap g = .ok cap ∧
        exposureUnits input (fun p => g.members.contains p.symbol)
          (fun r => g.members.contains r.symbol) + risk.units ≤ cap.units := by
  intro gid hgid g hg
  simp only [correlationViolations, Except.bind_ok_iff] at h
  obtain ⟨groupCap, hcap, perGroup, hmap, hnil⟩ := h
  have hflat : perGroup.flatten = [] := by
    have := Except.ok.inj hnil
    exact (List.append_eq_nil_iff.mp this).2
  obtain ⟨codes, hcodes, hmem⟩ := Except.mapM_ok_mem hmap gid hgid
  have hcodesnil : codes = [] := List.flatten_eq_nil_iff.mp hflat codes hmem
  unfold groupViolations at hcodes
  rw [hg] at hcodes
  simp only [Except.bind_ok_iff] at hcodes
  obtain ⟨sum, hsum, cap, hcap', hres⟩ := hcodes
  have hpush := Except.ok.inj hres
  rw [hcodesnil, List.append_eq_nil_iff, pushIf_eq_nil, pushIf_eq_nil, not_lt, Dec.le_def] at hpush
  refine ⟨groupCap, cap, hcap, hcap', ?_⟩
  have := (sumRisk_ok hsum).1
  omega

theorem requestViolations_nil {input : RiskEngineInput} {rr : Except RiskRejectionCode RrSuccess}
    (h : requestViolations input input.tightened input.blocked rr = []) :
    input.killSwitchActive = false ∧ input.tightened.enabled = true ∧ input.blocked = false ∧
      failureCode rr = [] := by
  simp only [requestViolations, List.append_eq_nil_iff, pushIf_eq_nil] at h
  obtain ⟨⟨⟨⟨⟨⟨⟨⟨⟨⟨⟨⟨hkill, henabled⟩, hblocked⟩, -⟩, -⟩, -⟩, -⟩, hrr⟩, -⟩, -⟩, -⟩, -⟩, -⟩ := h
  exact ⟨by simpa using hkill, by simpa using henabled, by simpa using hblocked, hrr⟩

theorem evaluateOpen_effectiveMinRr {input : RiskEngineInput} {tightened : EffectiveRiskPolicy}
    {base v : RiskEngineVerdict} {rr : Option Dec} {current : ExposureView} {dailyCap weeklyCap : Dec}
    {earlier : List RiskRejectionCode}
    (h : evaluateOpen input tightened base rr current dailyCap weeklyCap earlier = .ok v) :
    v.effectiveMinRr = base.effectiveMinRr := by
  simp only [evaluateOpen, Except.bind_ok_iff] at h
  obtain ⟨remD, -, remW, -, totalCap, -, remT, -, instCap, -, remI, -, dirCap, -, remDir, -, pT, -, pI, -,
    pD, -, corr, -, h⟩ := h
  split at h
  · cases h
    rfl
  · split at h <;> cases h <;> rfl

/-- The minimum reward:risk of an approval is a number the sizer could read. -/
theorem evaluateRisk_effectiveMinRr {input : RiskEngineInput}
    (hopen : input.candidate.action ≠ .close_position)
    (hv : (evaluateRisk input).outcome = .approved) :
    ∃ q, (evaluateRisk input).effectiveMinRr = .fin q := by
  obtain ⟨s, current, dailyCap, weeklyCap, -, -, happr⟩ := evaluateRisk_open_approved hopen hv
  obtain ⟨-, -, -, hrr⟩ := requestViolations_nil happr.request
  have hmin : (evaluateRisk input).effectiveMinRr = input.rrInput.minRr := by
    unfold evaluateRisk at hv ⊢
    cases hinner : evaluateRiskInner input with
    | error e =>
      rw [hinner] at hv
      cases hv
    | ok v =>
      simp only [evaluateRiskInner, Except.bind_ok_iff] at hinner
      obtain ⟨⟨current', flag⟩, -, daily, -, weekly, -, dd, -, h⟩ := hinner
      exact evaluateOpen_effectiveMinRr h
  rw [hmin]
  cases hcalc : calculateRr input.rrInput with
  | error code =>
    rw [hcalc] at hrr
    cases hrr
  | ok rr =>
    simp only [calculateRr, Except.bind_ok_iff, orFail_ok] at hcalc
    obtain ⟨_, -, _, -, _, -, _, -, _, -, _, -, _, -, _, -, _, -, _, -, _, -, _, -, min, hfrom, -⟩ := hcalc
    cases hr : input.rrInput.minRr with
    | fin q => exact ⟨q, rfl⟩
    | _ =>
      rw [hr] at hfrom
      cases hfrom

/-- A positive loss cap that did not fire bounds the loss, so its remaining budget was a cap of
    the sizer. -/
theorem EngineApproved.daily_le {input : RiskEngineInput} {current : ExposureView}
    {dailyCap weeklyCap : Dec} {s : SizingSuccess}
    (h : EngineApproved input current dailyCap weeklyCap s) (hpos : 0 < dailyCap.units) :
    (lossOf input.account.dailyRealizedPl).units + s.monetaryRisk.units ≤ dailyCap.units := by
  have hloss := h.losses
  simp only [lossViolations, List.append_eq_nil_iff, pushIf_eq_nil, Dec.isPositive_iff, Dec.le_def] at hloss
  exact h.daily_budget _ rfl (by omega)

theorem EngineApproved.weekly_le {input : RiskEngineInput} {current : ExposureView}
    {dailyCap weeklyCap : Dec} {s : SizingSuccess}
    (h : EngineApproved input current dailyCap weeklyCap s) (hpos : 0 < weeklyCap.units) :
    (lossOf input.account.weeklyRealizedPl).units + s.monetaryRisk.units ≤ weeklyCap.units := by
  have hloss := h.losses
  simp only [lossViolations, List.append_eq_nil_iff, pushIf_eq_nil, Dec.isPositive_iff, Dec.le_def] at hloss
  exact h.weekly_budget _ rfl (by omega)

theorem EngineApproved.limitsEffective {input : RiskEngineInput} {current : ExposureView}
    {dailyCap weeklyCap : Dec} {s : SizingSuccess}
    (h : EngineApproved input current dailyCap weeklyCap s) (hw : WithinLimits input s.monetaryRisk) :
    LimitsEffective input := by
  obtain ⟨si, hsized, -⟩ := h.sized
  have hpos := hsized.risk_pos
  refine ⟨?_, ?_, ?_, ?_⟩
  · obtain ⟨cap, hcap, hle⟩ := hw.daily
    exact ⟨cap, hcap, by linarith [lossOf_nonneg input.account.dailyRealizedPl]⟩
  · obtain ⟨cap, hcap, hle⟩ := hw.weekly
    exact ⟨cap, hcap, by linarith [lossOf_nonneg input.account.weeklyRealizedPl]⟩
  · intro m hm
    have hrespects := hw.monetary m hm
    unfold RespectsMonetaryCap at hrespects
    split at hrespects
    · rename_i d hd
      exact pos_of_fromNumber_pos hd (hpos.trans_le hrespects)
    · exact hrespects
  · have hslots := hw.slots
    rw [← h.exposure.openPositions, ← h.exposure.reservedPositions] at hslots
    exact (JsNumber.le_iff_of_not_lt h.slots).mp hslots

theorem EngineApproved.withinLimits {input : RiskEngineInput} {current : ExposureView}
    {dailyCap weeklyCap : Dec} {s : SizingSuccess}
    (h : EngineApproved input current dailyCap weeklyCap s) (he : LimitsEffective input) :
    WithinLimits input s.monetaryRisk := by
  obtain ⟨hkill, henabled, hblocked, -⟩ := requestViolations_nil h.request
  have hexp := h.exposure
  refine ⟨hkill, henabled, hblocked, hexp.computable rfl, ?_, ?_, ?_, ?_,
    correlationViolations_nil h.correlation, ?_, ?_, h.per_trade, ?_⟩
  · rw [← hexp.openPositions, ← hexp.reservedPositions]
    exact (JsNumber.le_iff_of_not_lt h.slots).mpr he.slots
  · rw [← hexp.total]
    exact h.total
  · rw [← hexp.instrument]
    exact h.instrument
  · rw [← hexp.direction]
    exact h.direction
  · obtain ⟨cap, hcap, hpos⟩ := he.daily
    rw [h.dailyCap_eq] at hcap
    cases hcap
    exact ⟨dailyCap, h.dailyCap_eq, h.daily_le hpos⟩
  · obtain ⟨cap, hcap, hpos⟩ := he.weekly
    rw [h.weeklyCap_eq] at hcap
    cases hcap
    exact ⟨weeklyCap, h.weeklyCap_eq, h.weekly_le hpos⟩
  · intro m hm
    have hmpos := he.monetary m hm
    unfold RespectsMonetaryCap
    split
    · rename_i d hd
      exact h.monetary m d hm (JsNumber.truthy_of_pos hmpos) hd
    · exact hmpos

/-- **When an approval keeps every limit.**  For every engine input with an opening candidate that
    is approved: the approved risk is within all limits exactly when the rounded loss caps and the
    monetary cap (if any) are positive and the position limit is a number. -/
theorem approval_within_limits_iff (input : RiskEngineInput)
    (hopen : input.candidate.action ≠ .close_position)
    (hv : (evaluateRisk input).outcome = .approved) :
    ∃ risk, (evaluateRisk input).monetaryRisk = some risk ∧
      (WithinLimits input risk ↔ LimitsEffective input) := by
  obtain ⟨s, current, dailyCap, weeklyCap, hrisk, -, happr⟩ := evaluateRisk_open_approved hopen hv
  exact ⟨s.monetaryRisk, hrisk, happr.limitsEffective, happr.withinLimits⟩

/-! ## A concrete account -/

open Numerals in
def eurusdSpec : InstrumentRiskSpec where
  contractSize := .fin 100000
  pipSize := .fin (1 / 10000)
  pnlMode := .quote_linear
  minQuantity := .fin (1 / 100)
  quantityStep := .fin (1 / 100)
  maxQuantity := 100

/-- A long EURUSD candidate on a fresh `10000` account under the default policy. -/
def freshLongInput : RiskEngineInput where
  policy := DEFAULT_RISK_POLICY
  strategyOverride := none
  strategyMinRr := none
  account := ⟨dec10000, Dec.zero, Dec.zero, 0⟩
  openPositions := []
  reservations := []
  instrument := some eurusdSpec
  correlationGroups := []
  candidateGroupIds := []
  killSwitchActive := false
  candidate := {
    action := .open_long
    symbol := "EURUSD"
    direction := .long
    entryPrice := .fin (11 / 10)
    stopLossPrice := .fin (109 / 100)
    takeProfitPrice := .fin (113 / 100)
    spreadPips := none
    slippagePips := none }
  evaluatedAtMs := .fin 1700000000000
  drawdown := some ⟨dec10000, dec10000, dec10000, dec10000, true⟩

/-- A zero daily-loss limit and a loss of `1` today: the negative remaining budget is dropped and
    a risk of `50` is approved. -/
def spentLongInput : RiskEngineInput :=
  { freshLongInput with
    policy := { DEFAULT_RISK_POLICY with maxDailyLossPct := 0 }
    account := ⟨dec10000, ⟨-SCALE, by decide⟩, Dec.zero, 0⟩ }

theorem spent_daily_budget_is_approved :
    (evaluateRisk spentLongInput).outcome = .approved ∧
      (evaluateRisk spentLongInput).monetaryRisk = some ⟨50 * SCALE, by decide⟩ ∧
      ¬ WithinLimits spentLongInput ⟨50 * SCALE, by decide⟩ := by
  refine ⟨by decide +kernel, by decide +kernel, fun h => ?_⟩
  obtain ⟨cap, hcap, hle⟩ := h.daily
  have hzero : pctOf spentLongInput.account.equity spentLongInput.tightened.maxDailyLossPct =
      .ok Dec.zero := by decide +kernel
  rw [hzero] at hcap
  cases hcap
  revert hle
  decide

theorem fresh_long_approval_within_limits :
    ∃ risk, (evaluateRisk freshLongInput).monetaryRisk = some risk ∧
      WithinLimits freshLongInput risk := by
  obtain ⟨risk, hrisk, hiff⟩ :=
    approval_within_limits_iff freshLongInput (by decide) (by decide +kernel)
  refine ⟨risk, hrisk, hiff.mpr ⟨⟨⟨300 * SCALE, by decide⟩, by decide +kernel, by decide⟩,
    ⟨⟨600 * SCALE, by decide⟩, by decide +kernel, by decide⟩, ?_, by decide +kernel⟩⟩
  intro m hm
  have : freshLongInput.tightened.maxMonetaryRiskPerTrade = some 500 := by decide
  rw [this] at hm
  cases hm
  decide

end VeltrixEye
