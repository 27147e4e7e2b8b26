import VeltrixEye.Lib.JsonText
import VeltrixEye.Backtest.Contracts

/-!
# The configuration hash of a backtest (`backtest/canonical.ts`)

Both policies are parsed, put into one object whose keys are sorted at every level, written as JSON text
and hashed.
-/

namespace VeltrixEye

/-- What `JSON.stringify` makes of a finite number: no two numbers share a text, and none holds a
    delimiter. -/
structure NumberText where
  text : ℚ → List Char
  injective : Function.Injective text
  plain : ∀ q, ∀ c ∈ text q, c ≠ ',' ∧ c ≠ '}'

/-! ## Canonical values -/

mutual

/-- `canonicalize`: the keys of every object in ascending order. -/
def canonicalize : JsValue → JsValue
  | .array items => .array (canonicalizeItems items)
  | .object fields =>
    .object ((canonicalizeFields fields).insertionSort fun a b => a.1 ≤ b.1)
  | .undefined => .undefined
  | .null => .null
  | .bool b => .bool b
  | .number n => .number n
  | .string s => .string s

def canonicalizeItems : List JsValue → List JsValue
  | [] => []
  | item :: rest => canonicalize item :: canonicalizeItems rest

def canonicalizeFields : List (String × JsValue) → List (String × JsValue)
  | [] => []
  | (key, value) :: rest => (key, canonicalize value) :: canonicalizeFields rest

end

/-- A string in quotes; the texts of the policies hold no character that is escaped. -/
def quoted (s : String) : List Char := '"' :: s.toList ++ ['"']

mutual

/-- `JSON.stringify` without white space. -/
def stringify (numbers : NumberText) : JsValue → List Char
  | .undefined => []
  | .null => "null".toList
  | .bool b => (toString b).toList
  | .number (.fin q) => numbers.text q
  | .number _ => "null".toList
  | .string s => quoted s
  | .array items => '[' :: stringifyItems numbers true items ++ [']']
  | .object fields => '{' :: stringifyFields numbers true fields ++ ['}']

/-- The items after an opening bracket, or after another item. -/
def stringifyItems (numbers : NumberText) : Bool → List JsValue → List Char
  | _, [] => []
  | first, item :: rest =>
    (if first then [] else [',']) ++ stringify numbers item ++ stringifyItems numbers false rest

/-- The fields after an opening brace, or after another field; an undefined one is left out. -/
def stringifyFields (numbers : NumberText) : Bool → List (String × JsValue) → List Char
  | _, [] => []
  | first, (_, .undefined) :: rest => stringifyFields numbers first rest
  | first, (key, value) :: rest =>
    (if first then [] else [',']) ++ quoted key ++ ':' :: stringify numbers value ++
      stringifyFields numbers false rest

end

/-! ## The hash -/

def StopLossPolicy.text : StopLossPolicy → String
  | level => "level"
  | none => "none"

def TakeProfitPolicy.text : TakeProfitPolicy → String
  | tp1 => "tp1"
  | tp2 => "tp2"
  | tp3 => "tp3"
  | none => "none"

/-- The parsed exit policy as an object. -/
def BacktestExitPolicy.value (p : BacktestExitPolicy) : JsValue :=
  .object [("stopLoss", .string p.stopLoss.text), ("takeProfit", .string p.takeProfit.text),
    ("maxHoldCandles", .number (.fin p.maxHoldCandles)), ("sameCandleRule", .string "stop_first"),
    ("entryTiming", .string "signal_close")]

/-- The parsed cost policy as an object. -/
def BacktestCostPolicy.value (p : BacktestCostPolicy) : JsValue :=
  .object [("feePerSide", .number (.fin p.feePerSide)),
    ("slippagePerSide", .number (.fin p.slippagePerSide)), ("spread", .number (.fin p.spread)),
    ("riskPerTrade", p.riskPerTrade.elim .undefined fun r => .number (.fin r))]

/-- `stableStringify` of the two policies. -/
def canonicalJson (numbers : NumberText) (exitPolicy : BacktestExitPolicy)
    (costPolicy : BacktestCostPolicy) : List Char :=
  stringify numbers (canonicalize
    (.object [("exitPolicy", exitPolicy.value), ("costPolicy", costPolicy.value)]))

structure ConfigHashResult where
  hash : String
  exitPolicy : BacktestExitPolicy
  costPolicy : BacktestCostPolicy

/-- `computeConfigHash`; `none` is an error of the schemas. -/
def computeConfigHash (numbers : NumberText) (sha256 : String → String)
    (exitPolicyInput costPolicyInput : JsValue) : Option ConfigHashResult := do
  let exitPolicy ← parseExitPolicy exitPolicyInput
  let costPolicy ← parseCostPolicy costPolicyInput
  return ⟨sha256 (String.ofList (canonicalJson numbers exitPolicy costPolicy)), exitPolicy, costPolicy⟩

/-! ## The text determines the policies -/

variable {numbers : NumberText}

theorem canonicalize_policies (exitPolicy : BacktestExitPolicy) (costPolicy : BacktestCostPolicy) :
    canonicalize (.object [("exitPolicy", exitPolicy.value), ("costPolicy", costPolicy.value)]) =
      .object [
        ("costPolicy", .object [("feePerSide", .number (.fin costPolicy.feePerSide)),
          ("riskPerTrade", costPolicy.riskPerTrade.elim .undefined fun r => .number (.fin r)),
          ("slippagePerSide", .number (.fin costPolicy.slippagePerSide)),
          ("spread", .number (.fin costPolicy.spread))]),
        ("exitPolicy", .object [("entryTiming", .string "signal_close"),
          ("maxHoldCandles", .number (.fin exitPolicy.maxHoldCandles)),
          ("sameCandleRule", .string "stop_first"), ("stopLoss", .string exitPolicy.stopLoss.text),
          ("takeProfit", .string exitPolicy.takeProfit.text)])] := by
  have hrisk : canonicalize (costPolicy.riskPerTrade.elim .undefined fun r => .number (.fin r)) =
      costPolicy.riskPerTrade.elim .undefined fun r => .number (.fin r) := by
    cases costPolicy.riskPerTrade <;> rfl
  simp [BacktestExitPolicy.value, BacktestCostPolicy.value, canonicalize, canonicalizeFields, hrisk]

theorem text_comma_inj {q q' : ℚ} {r r' : List Char}
    (h : numbers.text q ++ ',' :: r = numbers.text q' ++ ',' :: r') : q = q' ∧ r = r' := by
  obtain ⟨htext, hr⟩ := JsonText.append_cons_inj (fun hc => (numbers.plain q _ hc).1 rfl)
    (fun hc => (numbers.plain q' _ hc).1 rfl) h
  exact ⟨numbers.injective htext, hr⟩

theorem text_brace_inj {q q' : ℚ} {r r' : List Char}
    (h : numbers.text q ++ '}' :: r = numbers.text q' ++ '}' :: r') : q = q' ∧ r = r' := by
  obtain ⟨htext, hr⟩ := JsonText.append_cons_inj (fun hc => (numbers.plain q _ hc).2 rfl)
    (fun hc => (numbers.plain q' _ hc).2 rfl) h
  exact ⟨numbers.injective htext, hr⟩

/-- The text of the exit policy and what closes it. -/
def exitPolicyText (numbers : NumberText) (p : BacktestExitPolicy) : List Char :=
  stringify numbers (.object [("entryTiming", .string "signal_close"),
    ("maxHoldCandles", .number (.fin p.maxHoldCandles)), ("sameCandleRule", .string "stop_first"),
    ("stopLoss", .string p.stopLoss.text), ("takeProfit", .string p.takeProfit.text)]) ++ ['}']

theorem exitPolicyText_injective {p p' : BacktestExitPolicy}
    (h : exitPolicyText numbers p = exitPolicyText numbers p') : p = p' := by
  obtain ⟨stopLoss, takeProfit, maxHoldCandles⟩ := p
  obtain ⟨stopLoss', takeProfit', maxHoldCandles'⟩ := p'
  unfold exitPolicyText at h
  simp only [stringify, stringifyFields, Bool.false_eq_true, if_true, if_false, List.nil_append,
    List.cons_append, List.append_assoc, List.cons.injEq, List.append_cancel_left_eq, true_and] at h
  obtain ⟨hhold, hrest⟩ := text_comma_inj h
  simp only [List.append_cancel_left_eq, List.cons.injEq, true_and] at hrest
  have hhold' : maxHoldCandles = maxHoldCandles' := by exact_mod_cast hhold
  subst hhold'
  cases stopLoss <;> cases stopLoss' <;>
    simp [quoted, StopLossPolicy.text] at hrest
  all_goals
    cases takeProfit <;> cases takeProfit' <;> simp_all [TakeProfitPolicy.text]

/-- The fields of the cost policy from the slippage on, and what follows them. -/
def slippageText (numbers : NumberText) (p : BacktestCostPolicy) (rest : List Char) : List Char :=
  quoted "slippagePerSide" ++ ':' :: (numbers.text p.slippagePerSide ++ ',' ::
    (quoted "spread" ++ ':' :: (numbers.text p.spread ++ '}' :: rest)))

theorem canonicalJson_eq (exitPolicy : BacktestExitPolicy) (costPolicy : BacktestCostPolicy) :
    canonicalJson numbers exitPolicy costPolicy =
      '{' :: (quoted "costPolicy" ++ ':' :: '{' :: (quoted "feePerSide" ++ ':' ::
        (numbers.text costPolicy.feePerSide ++ ',' ::
          (match costPolicy.riskPerTrade with
          | none => slippageText numbers costPolicy
              (',' :: (quoted "exitPolicy" ++ ':' :: exitPolicyText numbers exitPolicy))
          | some r => quoted "riskPerTrade" ++ ':' :: (numbers.text r ++ ',' ::
              slippageText numbers costPolicy
                (',' :: (quoted "exitPolicy" ++ ':' :: exitPolicyText numbers exitPolicy))))))) := by
  unfold canonicalJson
  rw [canonicalize_policies]
  unfold exitPolicyText slippageText
  cases costPolicy.riskPerTrade with
  | none => simp [stringify, stringifyFields]
  | some r => simp [stringify, stringifyFields]

theorem slippageText_injective {p p' : BacktestCostPolicy} {rest rest' : List Char}
    (h : slippageText numbers p rest = slippageText numbers p' rest') :
    p.slippagePerSide = p'.slippagePerSide ∧ p.spread = p'.spread ∧ rest = rest' := by
  unfold slippageText at h
  simp only [List.append_cancel_left_eq, List.cons.injEq, true_and] at h
  obtain ⟨hslippage, hrest⟩ := text_comma_inj h
  simp only [List.append_cancel_left_eq, List.cons.injEq, true_and] at hrest
  obtain ⟨hspread, hrest⟩ := text_brace_inj hrest
  exact ⟨hslippage, hspread, hrest⟩

theorem slippageText_ne_riskPerTrade {p : BacktestCostPolicy} {rest after : List Char} :
    slippageText numbers p rest ≠ quoted "riskPerTrade" ++ after := by
  intro h
  simp [slippageText, quoted] at h

/-- **The hashed text determines both policies.** -/
theorem canonicalJson_injective {exitPolicy exitPolicy' : BacktestExitPolicy}
    {costPolicy costPolicy' : BacktestCostPolicy}
    (h : canonicalJson numbers exitPolicy costPolicy = canonicalJson numbers exitPolicy' costPolicy') :
    exitPolicy = exitPolicy' ∧ costPolicy = costPolicy' := by
  rw [canonicalJson_eq, canonicalJson_eq] at h
  simp only [List.append_cancel_left_eq, List.cons.injEq, true_and] at h
  obtain ⟨hfee, hrest⟩ := text_comma_inj h
  have hexit {rest rest' : List Char} (htail : ',' :: (quoted "exitPolicy" ++ ':' :: rest) =
      ',' :: (quoted "exitPolicy" ++ ':' :: rest')) : rest = rest' := by
    simpa only [List.append_cancel_left_eq, List.cons.injEq, true_and] using htail
  obtain ⟨fee, slippage, spread, risk⟩ := costPolicy
  obtain ⟨fee', slippage', spread', risk'⟩ := costPolicy'
  cases risk with
  | none =>
    cases risk' with
    | none =>
      obtain ⟨hslippage, hspread, htail⟩ := slippageText_injective hrest
      refine ⟨exitPolicyText_injective (hexit htail), ?_⟩
      simp only at hfee hslippage hspread
      rw [hfee, hslippage, hspread]
    | some r' => exact (slippageText_ne_riskPerTrade hrest).elim
  | some r =>
    cases risk' with
    | none => exact (slippageText_ne_riskPerTrade hrest.symm).elim
    | some r' =>
      simp only [List.append_cancel_left_eq, List.cons.injEq, true_and] at hrest
      obtain ⟨hrisk, hrest⟩ := text_comma_inj hrest
      obtain ⟨hslippage, hspread, htail⟩ := slippageText_injective hrest
      refine ⟨exitPolicyText_injective (hexit htail), ?_⟩
      simp only at hfee hslippage hspread
      rw [hfee, hslippage, hspread, hrisk]

end VeltrixEye
