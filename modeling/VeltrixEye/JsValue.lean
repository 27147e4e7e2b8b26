import VeltrixEye.Number

/-!
# JavaScript values

`JsValue` is what a parameter of type `unknown` may hold: the JSON values and `undefined`.  Object
keys are kept in order; a key that is absent reads as `undefined`.
-/

namespace VeltrixEye

/-- A value of type `unknown`. -/
inductive JsValue where
  | undefined
  | null
  | bool (b : Bool)
  | number (n : JsNumber)
  | string (s : String)
  | array (items : List JsValue)
  | object (fields : List (String × JsValue))

namespace JsValue

/-- `value[key]` of an object. -/
def lookup (fields : List (String × JsValue)) (key : String) : JsValue :=
  match fields.find? (fun f => f.1 == key) with
  | some f => f.2
  | none => undefined

def keys (fields : List (String × JsValue)) : List String := fields.map (·.1)

/-- The text of a string value. -/
def text? : JsValue → Option String
  | string s => some s
  | _ => none

/-- `value ?? {}`. -/
def orEmptyObject : JsValue → JsValue
  | undefined => object []
  | null => object []
  | v => v

@[simp] theorem text?_eq_some {v : JsValue} {s : String} : v.text? = some s ↔ v = string s := by
  cases v <;> simp [text?]

end JsValue

end VeltrixEye
