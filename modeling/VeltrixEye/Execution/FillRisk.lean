import VeltrixEye.Execution.SamplePrices
import VeltrixEye.Execution.Simulate

/-!
# The risk of a filled position against the risk that was approved

The size is approved against the setup's entry price, the position is opened at the latest close.
The gates between the two check the side of the stop and the reward:risk at the fill; nothing
compares the fill with the approved entry.
-/

namespace VeltrixEye

open Numeric (OnGrid)

/-! ## The money at risk per unit -/

/-- The properties of a specification that the decimal roundings depend on. -/
structure RegularSpec (spec : InstrumentRiskSpec) : Prop where
  step : ∃ q, spec.quantityStep = .fin q ∧ OnGrid 8 q
  contract : ∃ n : ℤ, spec.contractSize = .fin n

/-- The seeds of `instrument_risk_specs`. -/
def SEEDED_RISK_SPECS : List ((String × String) × InstrumentRiskSpec) :=
  [(("forex", "EURUSD"), ⟨.fin 100000, .fin (1 / 10000), .quote_linear, .fin (1 / 100), .fin (1 / 100), .fin 100⟩),
   (("forex", "GBPUSD"), ⟨.fin 100000, .fin (1 / 10000), .quote_linear, .fin (1 / 100), .fin (1 / 100), .fin 100⟩),
   (("forex", "USDJPY"), ⟨.fin 100000, .fin (1 / 100), .base_linear, .fin (1 / 100), .fin (1 / 100), .fin 100⟩),
   (("commodity", "XAUUSD"), ⟨.fin 100, .fin (1 / 100), .quote_linear, .fin (1 / 100), .fin (1 / 100), .fin 100⟩),
   (("crypto", "BTCUSD"), ⟨.fin 1, .fin (1 / 100), .quote_linear, .fin (1 / 1000), .fin (1 / 1000), .fin 100⟩),
   (("crypto", "ETHUSD"), ⟨.fin 1, .fin (1 / 100), .quote_linear, .fin (1 / 1000), .fin (1 / 1000), .fin 100⟩),
   (("stock", "AAPL"), ⟨.fin 1, .fin (1 / 100), .quote_linear, .fin 1, .fin 1, .fin 100⟩),
   (("etf", "SPY"), ⟨.fin 1, .fin (1 / 100), .quote_linear, .fin 1, .fin 1, .fin 100⟩),
   (("index", "SPX500"), ⟨.fin 1, .fin (1 / 100), .quote_linear, .fin 1, .fin 1, .fin 100⟩)]

theorem seeded_specs_regular : ∀ entry ∈ SEEDED_RISK_SPECS, RegularSpec entry.2 := by
  have hcent : OnGrid 8 (1 / 100 : ℚ) := ⟨10 ^ 6, by norm_num⟩
  have hmill : OnGrid 8 (1 / 1000 : ℚ) := ⟨10 ^ 5, by norm_num⟩
  have hone : OnGrid 8 (1 : ℚ) := ⟨10 ^ 8, by norm_num⟩
  intro entry hentry
  simp only [SEEDED_RISK_SPECS, List.mem_cons, List.not_mem_nil, or_false] at hentry
  rcases hentry with rfl | rfl | rfl | rfl | rfl | rfl | rfl | rfl | rfl
  · exact ⟨⟨_, rfl, hcent⟩, 100000, rfl⟩
  · exact ⟨⟨_, rfl, hcent⟩, 100000, rfl⟩
  · exact ⟨⟨_, rfl, hcent⟩, 100000, rfl⟩
  · exact ⟨⟨_, rfl, hcent⟩, 100, rfl⟩
  · exact ⟨⟨_, rfl, hmill⟩, 1, rfl⟩
  · exact ⟨⟨_, rfl, hmill⟩, 1, rfl⟩
  · exact ⟨⟨_, rfl, hone⟩, 1, rfl⟩
  · exact ⟨⟨_, rfl, hone⟩, 1, rfl⟩
  · exact ⟨⟨_, rfl, hone⟩, 1, rfl⟩

theorem valuePerUnit_eq_some {spec : InstrumentRiskSpec} {entry distance v : Dec}
    (h : valuePerUnit spec entry distance = some v) :
    ∃ contract product, Dec.fromNumber spec.contractSize = some contract ∧ 0 < contract.units ∧
      contract.mul distance = .ok product ∧
      ((spec.pnlMode = .quote_linear ∧ v = product) ∨
        (spec.pnlMode = .base_linear ∧ 0 < entry.units ∧
          v.units = Rounding.halfEven (((product.units * SCALE : ℤ) : ℚ) / entry.units))) := by
  unfold valuePerUnit at h
  obtain ⟨contract, hcontract, h⟩ := Option.bind_eq_some_iff.mp h
  obtain ⟨_, hpos, h⟩ := Option.bind_eq_some_iff.mp h
  obtain ⟨product, hproduct, h⟩ := Option.bind_eq_some_iff.mp h
  have hpos' : 0 < contract.units := by simpa using hpos
  have hmul : contract.mul distance = .ok product := by
    cases hm : contract.mul distance with
    | error e => simp [hm, Except.toOption] at hproduct
    | ok d => simpa [hm, Except.toOption] using hproduct
  refine ⟨contract, product, hcontract, hpos', hmul, ?_⟩
  cases hmode : spec.pnlMode with
  | quote_linear =>
    simp only [hmode] at h
    cases h
    exact .inl ⟨rfl, rfl⟩
  | base_linear =>
    simp only [hmode] at h
    obtain ⟨_, hentry, h⟩ := Option.bind_eq_some_iff.mp h
    obtain ⟨q, hq, h⟩ := Option.bind_eq_some_iff.mp h
    have hentry' : 0 < entry.units := by simpa using hentry
    subst h
    have hdiv : product.div entry = .ok (some v) := by
      cases hd : product.div entry with
      | error e => simp [hd, Except.toOption] at hq
      | ok d => simpa [hd, Except.toOption] using hq
    obtain ⟨d, hd, hunits⟩ := (Dec.div_ok hentry'.ne').mp hdiv
    cases hd
    exact .inr ⟨rfl, hentry', hunits⟩

theorem mul_whole_contract {size : JsNumber} {n : ℤ} {contract distance product : Dec}
    (hsize : size = .fin n) (hcontract : Dec.fromNumber size = some contract)
    (hmul : contract.mul distance = .ok product) : product.units = n * distance.units := by
  have hscale : (SCALE : ℚ) ≠ 0 := by exact_mod_cast Dec.SCALE_pos.ne'
  have hunits : contract.units = n * SCALE := by
    rw [hsize] at hcontract
    rw [Dec.fromNumber_eq_some hcontract]
    have hcast : (n : ℚ) * 10 ^ DEC_SCALE = ((n * SCALE : ℤ) : ℚ) := by
      push_cast [SCALE]
      rfl
    rw [hcast, Rounding.halfAway_intCast]
  rw [Dec.mul_ok.mp hmul, hunits]
  have hexact : ((n * SCALE * distance.units : ℤ) : ℚ) / SCALE = ((n * distance.units : ℤ) : ℚ) := by
    rw [div_eq_iff hscale]
    push_cast
    ring
  rw [hexact, Rounding.halfEven_intCast]

/-- **The money per unit is monotone** in the distance.  In base-linear mode it is divided by the
    price: a higher price only lowers it, and with a whole contract size the exact ratio decides. -/
theorem valuePerUnit_mono {spec : InstrumentRiskSpec} {e e' dist dist' v v' : Dec}
    (hv : valuePerUnit spec e dist = some v) (hv' : valuePerUnit spec e' dist' = some v')
    (hnonneg : 0 ≤ dist.units) (hdist : dist.units ≤ dist'.units)
    (hratio : e'.units ≤ e.units ∨
      (∃ n : ℤ, spec.contractSize = .fin n) ∧ dist.units * e'.units ≤ dist'.units * e.units) :
    0 ≤ v.units ∧ v.units ≤ v'.units := by
  obtain ⟨c, p, hc, hcpos, hp, hmode⟩ := valuePerUnit_eq_some hv
  obtain ⟨c', p', hc', -, hp', hmode'⟩ := valuePerUnit_eq_some hv'
  obtain rfl : c = c' := Option.some.inj (hc.symm.trans hc')
  have hp0 : 0 ≤ p.units := Dec.mul_nonneg hcpos.le hnonneg hp
  have hpp : p.units ≤ p'.units := Dec.mul_mono hnonneg hcpos.le le_rfl hdist hp hp'
  rcases hmode with ⟨hq, rfl⟩ | ⟨hb, he, hunits⟩
  · rcases hmode' with ⟨-, rfl⟩ | ⟨hb, -, -⟩
    · exact ⟨hp0, hpp⟩
    · rw [hq] at hb
      cases hb
  · rcases hmode' with ⟨hq, -⟩ | ⟨-, he', hunits'⟩
    · rw [hb] at hq
      cases hq
    · have heq : (0 : ℚ) < e.units := by exact_mod_cast he
      have heq' : (0 : ℚ) < e'.units := by exact_mod_cast he'
      have hcross : p.units * e'.units ≤ p'.units * e.units := by
        rcases hratio with hle | ⟨⟨n, hn⟩, hle⟩
        · exact Int.mul_le_mul hpp hle he'.le (hp0.trans hpp)
        · have hn0 : 0 ≤ n := by
            rw [mul_whole_contract hn hc hp] at hp0
            rw [hn] at hc
            by_contra hneg
            have hle0 : (n : ℚ) * 10 ^ DEC_SCALE ≤ ((0 : ℤ) : ℚ) := by
              have : (n : ℚ) ≤ 0 := by exact_mod_cast (not_le.mp hneg).le
              have h10 : (0 : ℚ) ≤ 10 ^ DEC_SCALE := by positivity
              simpa using mul_nonpos_of_nonpos_of_nonneg this h10
            have := Rounding.halfAway_mono hle0
            rw [← Dec.fromNumber_eq_some hc, Rounding.halfAway_intCast] at this
            omega
          rw [mul_whole_contract hn hc hp, mul_whole_contract hn hc hp', mul_assoc, mul_assoc]
          exact Int.mul_le_mul_of_nonneg_left hle hn0
      constructor
      · rw [hunits]
        apply Rounding.halfEven_nonneg
        have hnum : (0 : ℚ) ≤ ((p.units * SCALE : ℤ) : ℚ) := by
          exact_mod_cast Int.mul_nonneg hp0 Dec.SCALE_pos.le
        exact div_nonneg hnum heq.le
      · rw [hunits, hunits']
        apply Rounding.halfEven_mono
        rw [div_le_div_iff₀ heq heq']
        have hscaled : p.units * SCALE * e'.units ≤ p'.units * SCALE * e.units := by
          have := Int.mul_le_mul_of_nonneg_right hcross Dec.SCALE_pos.le
          linarith
        exact_mod_cast hscaled

/-- The size of a regular instrument loses nothing on its way to the eight decimals it is issued in. -/
theorem issued_units {input : SizingInput} {s : SizingSuccess} {spec : InstrumentRiskSpec}
    {quantity : Numeric 24 10} (hsized : Sized input s) (hspec : input.spec = some spec)
    (hregular : RegularSpec spec) (hstore : storeAmount (.fin (s.quantity.toNumber 8)) = .ok quantity) :
    quantity.units = s.quantity.units := by
  obtain ⟨spec', step, hspec', hstep, hdvd⟩ := hsized.on_step
  obtain rfl : spec = spec' := Option.some.inj (hspec.symm.trans hspec')
  obtain ⟨q, hq, u, rfl⟩ := hregular.step
  have hgrid : step.units = u * 100 := by
    rw [hq] at hstep
    rw [Dec.fromNumber_eq_some hstep]
    have hcast : (u : ℚ) / 10 ^ 8 * 10 ^ DEC_SCALE = ((u * 100 : ℤ) : ℚ) := by
      push_cast [DEC_SCALE]
      ring
    rw [hcast, Rounding.halfAway_intCast]
  obtain ⟨j, hj⟩ : (100 : ℤ) ∣ s.quantity.units := (Dvd.intro_left u hgrid.symm).trans hdvd
  have hissued : s.quantity.toNumber 8 = (j : ℚ) / 10 ^ 8 := by
    have hcast : ((s.quantity.units : ℤ) : ℚ) / 10 ^ (DEC_SCALE - 8) = (j : ℚ) := by
      rw [hj]
      push_cast [DEC_SCALE]
      norm_num
    rw [Dec.toNumber, hcast, Rounding.halfEven_intCast]
  have hback : (j : ℚ) / 10 ^ 8 * 10 ^ 10 = ((100 * j : ℤ) : ℚ) := by
    push_cast
    ring
  rw [storeAmount_ok hstore, hissued, hback, Rounding.halfAway_intCast, hj]

/-! ## The opened row -/

theorem fromUnknown_units (x : Numeric 24 10) : ((Dec.fromUnknown x).getD Dec.zero).units = x.units := by
  obtain ⟨d, hd, hunits⟩ := Dec.fromUnknown_spec (by decide) x
  rw [hd, Option.getD_some, hunits]
  simp [DEC_SCALE]

/-- The amounts of a new position row. -/
structure RowAmounts (auth : PaperAuthorization) (fill : FillComputation) (row : PositionRow) : Prop where
  assetClass_eq : row.assetClass = auth.assetClass
  symbol_eq : row.symbol = auth.symbol
  quantity : storeAmount auth.quantity = .ok row.quantity
  entry : storeDec fill.price = .ok row.averageEntryPrice
  stop : ∃ stop, storeAmount (.fin auth.decision.stopLossPrice) = .ok stop ∧ row.stopLossPrice = some stop

theorem newPositionRow_amounts {auth : PaperAuthorization} {fresh : Fresh} {fill : FillComputation}
    {row : PositionRow} (h : newPositionRow auth fresh fill = .ok row) : RowAmounts auth fill row := by
  unfold newPositionRow at h
  simp only [Except.bind_ok_iff] at h
  obtain ⟨quantity, hquantity, entry, hentry, sl, hsl, tp, -, fees, -, slippage, -, h⟩ := h
  cases h
  exact ⟨rfl, rfl, hquantity, hentry, sl, hsl, rfl⟩

theorem computeFill_frictionless {env : PaperEnv} {auth : PaperAuthorization} {fill : FillComputation}
    (hcosts : env.costs = PAPER_COST_MODEL_NONE) (hkind : auth.kind = .entry)
    (h : computeFill env auth = .ok fill) : Dec.fromNumber auth.referencePrice = some fill.price := by
  unfold computeFill at h
  split at h
  · rename_i quantity reference _ hreference
    obtain ⟨filled, hfilled, h⟩ := Except.bind_ok_iff.mp h
    rw [throwOverflow_ok, hkind] at hfilled
    split at h
    · cases h
      rw [hreference, computeEntryFill_frictionless hcosts hfilled]
    · cases h
  · cases h

theorem openRiskUnits_le {p : OpenPositionSnapshot} {bound : ℤ} (hbound : 0 ≤ bound)
    (h : ∀ spec stop dist v r, p.spec = some spec → p.stopLoss = some stop →
      dist.units = |p.entry.units - stop.units| → valuePerUnit spec p.entry dist = some v →
      p.quantity.mul v = .ok r → r.units ≤ bound) :
    openRiskUnits p ≤ bound := by
  unfold openRiskUnits
  split
  · rename_i r hr
    unfold openRiskOf at hr
    split at hr
    · rename_i spec stop hspec hstop
      split at hr
      · obtain ⟨difference, hdiff, hr⟩ := Except.bind_ok_iff.mp hr
        simp only at hr
        split at hr
        · obtain ⟨v, hv, hr⟩ := Option.bind_eq_some_iff.mp (Except.ok.inj hr)
          refine h spec stop difference.abs v r hspec hstop ?_ hv (monetaryRiskFor_eq_some.mp hr)
          rw [Dec.units_abs, Dec.sub_ok.mp hdiff]
        · cases hr
      · cases hr
    · cases hr
  · exact hbound

/-! ## Risk at the fill -/

/-- The fill is no further from the stop than the approved entry. -/
def NoWorseFill (d : ExecutionDecision) (fill : ℚ) : Prop :=
  match d.direction with
  | .long => fill ≤ d.entryPrice
  | .short => d.entryPrice ≤ fill

/-- The reward:risk floor at the fill bounds the distance to the stop by a share of the distance
    from the target to the stop. -/
theorem FillLevels.distance_le {d : ExecutionDecision} {fill m : ℚ} (h : FillLevels d fill (.fin m)) :
    |fill - d.stopLossPrice| * (1 + m - 1 / 10 ^ 9) ≤ |d.takeProfitPrice - d.stopLossPrice| := by
  have hrr := h.rr
  simp only [rrTooLow, JsNumber.lt_fin, decide_eq_false_iff_not, not_lt] at hrr
  have hpos : 0 < |fill - d.stopLossPrice| := by
    rw [abs_pos, sub_ne_zero]
    cases hdir : d.direction with
    | long => exact (h.protected_long hdir).ne'
    | short => exact (h.protected_short hdir).ne
  -- the fill lies between the stop and the target
  have hsplit : |d.takeProfitPrice - d.stopLossPrice| =
      |d.takeProfitPrice - fill| + |fill - d.stopLossPrice| := by
    cases hdir : d.direction with
    | long =>
      have hs := h.protected_long hdir
      have ht := h.rewarded_long hdir
      rw [abs_of_pos (by linarith), abs_of_pos (by linarith), abs_of_pos (by linarith)]
      ring
    | short =>
      have hs := h.protected_short hdir
      have ht := h.rewarded_short hdir
      rw [abs_of_neg (by linarith), abs_of_neg (by linarith), abs_of_neg (by linarith)]
      ring
  have hfloor : (m - 1 / 10 ^ 9) * |fill - d.stopLossPrice| ≤ |d.takeProfitPrice - fill| := by
    rw [← le_div_iff₀ hpos]
    linarith
  rw [hsplit]
  linarith

theorem fill_distance_le {decision : ExecutionDecision} {fill : ℚ} {minRr : JsNumber} {entry stop price : ℤ}
    (hlevels : FillLevels decision fill minRr)
    (hentry : entry = Rounding.halfAway (decision.entryPrice * 10 ^ 10))
    (hstop : stop = Rounding.halfAway (decision.stopLossPrice * 10 ^ 10))
    (hprice : price = Rounding.halfAway (fill * 10 ^ 10)) (hworse : NoWorseFill decision fill) :
    |price - stop| ≤ |entry - stop| ∧
      (entry ≤ price ∨ (stop ≤ price ∧ price ≤ entry)) := by
  have hmono : ∀ {a b : ℚ}, a ≤ b → Rounding.halfAway (a * 10 ^ 10) ≤ Rounding.halfAway (b * 10 ^ 10) :=
    fun hab => Rounding.halfAway_mono (mul_le_mul_of_nonneg_right hab (by positivity))
  unfold NoWorseFill at hworse
  cases hdir : decision.direction with
  | long =>
    rw [hdir] at hworse
    have h1 : price ≤ entry := by
      rw [hprice, hentry]
      exact hmono hworse
    have h2 : stop ≤ price := by
      rw [hprice, hstop]
      exact hmono (hlevels.protected_long hdir).le
    exact ⟨abs_le_abs_of_nonneg (by omega) (by omega), .inr ⟨h2, h1⟩⟩
  | short =>
    rw [hdir] at hworse
    have h1 : entry ≤ price := by
      rw [hprice, hentry]
      exact hmono hworse
    have h2 : price ≤ stop := by
      rw [hprice, hstop]
      exact hmono (hlevels.protected_short hdir).le
    refine ⟨?_, .inl h1⟩
    rw [abs_sub_comm price, abs_sub_comm entry]
    exact abs_le_abs_of_nonneg (by omega) (by omega)

section Opened

variable {env : PaperEnv} {ctx : SimulateContext} {input : RiskEngineInput} {decision : ExecutionDecision}

/-- **No worse than approved.**  The row of a fill no further from the stop than the approved entry
    carries at most the approved risk. -/
theorem openRisk_le_approved {s : SizingSuccess} {si : SizingInput} {spec : InstrumentRiskSpec}
    {price : SimulatorMarketPrice} {attempt : ℕ} {fill : ℚ} {minRr : JsNumber} {filled : FillComputation}
    {row : PositionRow} (hsized : Sized si s)
    (hentry : si.entry = (Dec.fromNumber (.fin decision.entryPrice)).getD Dec.zero)
    (hstop : si.stopLoss = (Dec.fromNumber (.fin decision.stopLossPrice)).getD Dec.zero)
    (hspec : si.spec = some spec)
    (henv : env.instrumentSpec ctx.setup.assetClass ctx.setup.symbol = some spec)
    (hregular : RegularSpec spec) (hprice : price.price = .fin fill)
    (hlevels : FillLevels decision fill minRr) (hworse : NoWorseFill decision fill)
    (hfilled : Dec.fromNumber price.price = some filled.price)
    (hrow : RowAmounts (entryAuthorization env ctx decision (s.quantity.toNumber 8) price spec attempt)
      filled row) :
    openRiskUnits (openPositionSnapshot env row) ≤ s.monetaryRisk.units := by
  obtain ⟨sl, hsl, hrowsl⟩ := hrow.stop
  have hquantity : row.quantity.units = s.quantity.units :=
    issued_units hsized hspec hregular hrow.quantity
  refine openRiskUnits_le hsized.risk_pos.le fun spec' stop dist v r hspec' hstop' hdist hv hr => ?_
  have hsnapspec : env.instrumentSpec row.assetClass row.symbol = some spec := by
    rw [hrow.assetClass_eq, hrow.symbol_eq]
    exact henv
  obtain rfl : spec = spec' := Option.some.inj (hsnapspec.symm.trans hspec')
  obtain ⟨spec', vpu, hspec'', hvpu, hrisk⟩ := hsized.risk_eq
  obtain rfl : spec = spec' := Option.some.inj (hspec.symm.trans hspec'')
  -- the three prices in units
  have hE : si.entry.units = Rounding.halfAway (decision.entryPrice * 10 ^ 10) := by
    have hpos := hsized.entry_pos
    rw [hentry] at hpos ⊢
    cases hd : Dec.fromNumber (.fin decision.entryPrice) with
    | none =>
      rw [hd] at hpos
      exact absurd hpos (lt_irrefl 0)
    | some d => exact Dec.fromNumber_eq_some hd
  have hS : si.stopLoss.units = Rounding.halfAway (decision.stopLossPrice * 10 ^ 10) := by
    have hpos := hsized.stop_pos
    rw [hstop] at hpos ⊢
    cases hd : Dec.fromNumber (.fin decision.stopLossPrice) with
    | none =>
      rw [hd] at hpos
      exact absurd hpos (lt_irrefl 0)
    | some d => exact Dec.fromNumber_eq_some hd
  have hsnapstop : stop.units = si.stopLoss.units := by
    have hread := fromUnknown_units sl
    simp only [openPositionSnapshot, hrowsl, Option.bind_some] at hstop'
    rw [hstop', Option.getD_some, storeAmount_ok hsl] at hread
    exact hread.trans hS.symm
  have hsnapentry : (openPositionSnapshot env row).entry.units = filled.price.units :=
    (fromUnknown_units _).trans (storeDec_ok hrow.entry)
  have hP : filled.price.units = Rounding.halfAway (fill * 10 ^ 10) := by
    rw [hprice] at hfilled
    exact Dec.fromNumber_eq_some hfilled
  obtain ⟨hle, hcases⟩ := fill_distance_le hlevels hE hS hP hworse
  have hdist' : dist.units = |filled.price.units - si.stopLoss.units| := by
    rw [hdist, hsnapentry, hsnapstop]
  have hvle : 0 ≤ v.units ∧ v.units ≤ vpu.units := by
    refine valuePerUnit_mono hv hvpu (hdist' ▸ abs_nonneg _) ?_ ?_
    · rw [hdist', hsized.stopDistance]
      exact hle
    · rw [hsnapentry]
      rcases hcases with hge | ⟨h1, h2⟩
      · exact .inl hge
      · refine .inr ⟨hregular.contract, ?_⟩
        have hs := hsized.stop_pos
        rw [hdist', hsized.stopDistance, abs_of_nonneg (by omega), abs_of_nonneg (by omega)]
        nlinarith
  have hsnapquantity : (openPositionSnapshot env row).quantity.units = s.quantity.units :=
    (fromUnknown_units _).trans hquantity
  refine Dec.mul_mono hvle.1 ?_ hsnapquantity.le hvle.2 hr (monetaryRiskFor_eq_some.mp hrisk)
  rw [hsnapquantity]
  exact hsized.quantity_pos.le

/-- The open risk the next evaluation of a profile adds up. -/
def openRiskSum (env : PaperEnv) (db : Db) (userId executionProfileId : String) : ℤ :=
  ((RiskEngineService.loadOpenPositions env db userId executionProfileId).map openRiskUnits).sum

theorem openRiskSum_append {db db' : Db} {row : PositionRow}
    (hpositions : db'.positions = db.positions ++ [row]) (huser : row.userId = ctx.userId)
    (hprofile : row.executionProfileId = ctx.executionProfileId) (hopen : row.status = .«open») :
    openRiskSum env db' ctx.userId ctx.executionProfileId =
      openRiskSum env db ctx.userId ctx.executionProfileId +
        openRiskUnits (openPositionSnapshot env row) := by
  simp [openRiskSum, RiskEngineService.loadOpenPositions, Db.openPositions, hpositions,
    List.filter_append, huser, hprofile, hopen]

/-- **What the gates bound.**  For every position the simulator opens without costs: its entry is
    the market price; the distance from that price to the stop is within the reward:risk share of
    the distance from target to stop; and, on a regular instrument, a fill that is no worse than
    the approved entry carries at most the approved risk, so that the next evaluation sees at most
    that much more. -/
theorem opened_position_risk (env : PaperEnv) (hcosts : env.costs = PAPER_COST_MODEL_NONE)
    (ctx : SimulateContext) (input : RiskEngineInput) {decision : ExecutionDecision}
    (hbuilt : buildServerExecutionDecision ctx.setup = .ok decision)
    (hcandidate : input.candidate = candidateOf decision)
    (hinstrument : input.instrument = env.instrumentSpec ctx.setup.assetClass ctx.setup.symbol)
    {market : Except MarketRefusal SimulatorMarketPrice} {attempt : ℕ} {auth : PaperAuthorization}
    (hauth : authorizeEntry env ctx decision (evaluateRisk input) market attempt = .ok auth)
    (mode : PaperFailureMode) (fresh : Fresh) {db : Db} (hcons : Consistent db) {row : PositionRow}
    (hrow : row ∈ (runFillTransaction env mode auth fresh db).2.positions) (hnew : row ∉ db.positions) :
    ∃ price fill risk minRr, market = .ok price ∧ price.price = .fin fill ∧
      (evaluateRisk input).monetaryRisk = some risk ∧ (evaluateRisk input).effectiveMinRr = .fin minRr ∧
      row.averageEntryPrice.units = Rounding.halfAway (fill * 10 ^ 10) ∧
      |fill - decision.stopLossPrice| * (1 + max minRr PLATFORM_RISK_CEILINGS.minRr - 1 / 10 ^ 9) ≤
        |decision.takeProfitPrice - decision.stopLossPrice| ∧
      (NoWorseFill decision fill →
        (∀ spec, env.instrumentSpec ctx.setup.assetClass ctx.setup.symbol = some spec → RegularSpec spec) →
        openRiskUnits (openPositionSnapshot env row) ≤ risk.units ∧
        openRiskSum env (runFillTransaction env mode auth fresh db).2 ctx.userId ctx.executionProfileId ≤
          openRiskSum env db ctx.userId ctx.executionProfileId + risk.units) := by
  obtain ⟨price, size, spec, hmarket, hsize, hspec, happroved, ⟨fill, hfill, hlevels⟩, rfl⟩ :=
    authorizeEntry_ok hauth
  have hfrom := buildServerExecutionDecision_ok hbuilt
  have hopening : input.candidate.action ≠ .close_position := by
    have haction : input.candidate.action = entryAction ctx.setup.direction := by
      rw [hcandidate]
      exact hfrom.action_eq
    rw [haction]
    exact entryAction_ne_close _
  obtain ⟨minRr, hminRr⟩ := evaluateRisk_effectiveMinRr hopening happroved
  obtain ⟨s, current, dailyCap, weeklyCap, hrisk, hsized, happr⟩ :=
    evaluateRisk_open_approved hopening happroved
  obtain ⟨si, hsizedBy, hentry, hstop, hsispec⟩ := happr.sized
  rw [hcandidate] at hentry hstop
  rw [hinstrument] at hsispec
  obtain rfl : s.quantity.toNumber 8 = size := by
    simpa [issuedSize, hsized] using hsize
  have hcase : RunCase env mode (entryAuthorization env ctx decision (s.quantity.toNumber 8) price spec attempt)
      fresh db (runFillTransaction env mode
        (entryAuthorization env ctx decision (s.quantity.toNumber 8) price spec attempt) fresh db).2 :=
    runFillTransaction_cases hcons
  generalize (runFillTransaction env mode (entryAuthorization env ctx decision (s.quantity.toNumber 8) price
    spec attempt) fresh db).2 = db' at hcase hrow
  have hbound := hlevels
  rw [hminRr] at hbound
  simp only [requiredRr, Option.getD_some, JsNumber.max_fin] at hbound
  refine ⟨price, fill, s.monetaryRisk, minRr, hmarket, hfill, hrisk, hminRr, ?_⟩
  cases hcase with
  | unchanged => exact absurd hrow hnew
  | failed order _ _ _ => exact absurd hrow hnew
  | exit order filled reason position row net account fillRow hkind => cases hkind
  | entry order filled opened fillRow hkind _ _ hcomputed hopened _ _ _ =>
    obtain rfl : row = opened := by
      rcases List.mem_append.mp hrow with h | h
      · exact absurd h hnew
      · exact List.mem_singleton.mp h
    have hfilled : Dec.fromNumber price.price = some filled.price :=
      computeFill_frictionless hcosts hkind hcomputed
    have hamounts := newPositionRow_amounts hopened
    have hposition := newPositionRow_ok hopened
    refine ⟨?_, hbound.distance_le, fun hworse hregular => ?_⟩
    · rw [storeDec_ok hamounts.entry]
      rw [hfill] at hfilled
      exact Dec.fromNumber_eq_some hfilled
    · have hrow := openRisk_le_approved hsizedBy hentry hstop (hsispec.trans hspec) hspec (hregular spec hspec)
        hfill hlevels hworse hfilled hamounts
      refine ⟨hrow, ?_⟩
      rw [openRiskSum_append rfl hposition.userId_eq hposition.executionProfileId_eq hposition.status_eq]
      omega

end Opened

/-! ## A gap between the approval and the fill -/

/-- A confirmed long at 1.1, stop 1.09, target 1.2. -/
def gapSetup : SetupDecisionSource where
  setupId := "setup"
  strategyId := "strategy"
  assetClass := "forex"
  symbol := "EURUSD"
  direction := .long
  state := .confirmed
  asOfMs := 30000
  entryPrice := some ⟨11 * 10 ^ 9, price_11_fits⟩
  stopLossPrice := some ⟨109 * 10 ^ 8, price_109_fits⟩
  tp1Price := some ⟨12 * 10 ^ 9, price_12_fits⟩
  qualityScore := some 80
  minQualityScore := some 65
  timeframe := some .m1

def gapContext : SimulateContext where
  userId := "user"
  executionProfileId := "profile"
  profile := ⟨true, .paper⟩
  killSwitches := ⟨false, false, false, false⟩
  providerHealth := some ⟨true, true⟩
  setup := gapSetup
  cited := .fresh
  riskDecisionId := "decision"
  nowMs := 120000

def gapDecision : ExecutionDecision where
  strategyId := "strategy"
  setupId := "setup"
  action := .open_long
  assetClass := "forex"
  symbol := "EURUSD"
  timeframe := .m1
  direction := .long
  entryPrice := 11 / 10
  stopLossPrice := 109 / 100
  takeProfitPrice := 12 / 10
  qualityScore := 80
  minQualityScore := 65
  asOfMs := 30000

/-- The fresh account of `freshLongInput`, evaluating the setup. -/
def gapInput : RiskEngineInput :=
  { freshLongInput with
    instrument := some sampleSpec
    candidate := candidateOf gapDecision }

/-- The market at `price`, half a minute old. -/
def marketAt (price : ℚ) : Except MarketRefusal SimulatorMarketPrice :=
  .ok ⟨.fin price, 90000, 30000, 300000, .m1⟩

def gapFresh : Fresh := ⟨"order-1", "fill-1", "position-1", 120000⟩

/-- What the simulation leaves behind when the market is at `price`. -/
def gapRun (price : ℚ) : Option Db :=
  (authorizeEntry sampleEnv gapContext gapDecision (evaluateRisk gapInput) (marketAt price) 1).toOption.map
    fun auth => (runFillTransaction sampleEnv .off auth gapFresh Db.empty).2

/-- An approval of 50 is filled at 1.12 and carries 150: the reward:risk is still above two there. -/
theorem gap_fill_exceeds_approved_risk :
    (evaluateRisk gapInput).outcome = .approved ∧
      (evaluateRisk gapInput).monetaryRisk = some ⟨50 * SCALE, by decide⟩ ∧
      (evaluatePaperSimulationGates (simulateGateInput sampleEnv gapContext gapDecision
        (evaluateRisk gapInput) (marketAt (112 / 100)))).passed = true ∧
      (gapRun (112 / 100)).map (fun db => (RiskEngineService.loadOpenPositions sampleEnv db "user" "profile").map
        openRiskOf) = some [.ok (some ⟨150 * SCALE, by decide⟩)] := by
  decide +kernel

/-- The entry authorized at 1.095. -/
def pullbackEntry : PaperAuthorization :=
  entryAuthorization sampleEnv gapContext gapDecision (5 / 100) ⟨.fin (1095 / 1000), 90000, 30000, 300000, .m1⟩
    sampleSpec 1

/-- The position it opens. -/
def pullbackPosition : PositionRow :=
  { samplePosition with
    quantity := ⟨5 * 10 ^ 8, by decide⟩
    averageEntryPrice := ⟨1095 * 10 ^ 7, by decide⟩
    stopLossPrice := some ⟨109 * 10 ^ 8, price_109_fits⟩
    takeProfitPrice := some ⟨12 * 10 ^ 9, price_12_fits⟩
    openedAt := 120000 }

theorem pullback_fill_within_approved_risk :
    pullbackPosition ∈ (runFillTransaction sampleEnv .off pullbackEntry gapFresh Db.empty).2.positions ∧
      openRiskUnits (openPositionSnapshot sampleEnv pullbackPosition) ≤ 50 * SCALE := by
  have hrow : pullbackPosition ∈
      (runFillTransaction sampleEnv .off pullbackEntry gapFresh Db.empty).2.positions := by decide +kernel
  have hbuilt : buildServerExecutionDecision gapContext.setup = .ok gapDecision := by decide +kernel
  have hauth : authorizeEntry sampleEnv gapContext gapDecision (evaluateRisk gapInput)
      (marketAt (1095 / 1000)) 1 = .ok pullbackEntry := by decide +kernel
  obtain ⟨price, fill, risk, minRr, hprice, hfill, hrisk, -, -, -, hwithin⟩ :=
    opened_position_risk sampleEnv rfl gapContext gapInput hbuilt rfl rfl hauth .off gapFresh
      consistent_empty hrow (by simp [Db.empty])
  cases hprice
  cases hfill
  have hfifty : (evaluateRisk gapInput).monetaryRisk = some ⟨50 * SCALE, by decide⟩ := by decide +kernel
  rw [hfifty] at hrisk
  cases hrisk
  have hworse : NoWorseFill gapDecision (1095 / 1000) := by
    show (1095 / 1000 : ℚ) ≤ 11 / 10
    norm_num
  refine ⟨hrow, (hwithin hworse fun spec hspec => ?_).1⟩
  cases hspec
  exact ⟨⟨_, rfl, 10 ^ 6, by norm_num⟩, 100000, rfl⟩

end VeltrixEye
