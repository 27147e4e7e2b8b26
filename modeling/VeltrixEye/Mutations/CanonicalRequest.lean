import VeltrixEye.Lib.JsonText
import VeltrixEye.Lib.Related
import VeltrixEye.Lib.Rows
import VeltrixEye.Lib.Series
import VeltrixEye.Mutations.Ledger

/-!
# The canonical text of a request (`contracts/provider-mutations.ts`, `execution/provider-mutations.ts`)

The request that is hashed into `request_hash` is written as JSON with the keys of every object sorted and
undefined members left out.

* `canonicalizeMutationRequest` — the text; that of a number is a parameter.
* `canonical_text_injective`, `canonical_text_congr` — equal texts come from the same value, and the same value
  gives equal texts.
-/

namespace VeltrixEye

/-! ## The text -/

/-- What `JSON.stringify` makes of a finite number: digits, a sign, a point and an exponent, no text twice. -/
structure JsonNumberText where
  text : ℚ → List Char
  injective : Function.Injective text
  nonempty : ∀ q, text q ≠ []
  numeric : ∀ q, ∀ c ∈ text q, c.isDigit = true ∨ c = '-' ∨ c = '+' ∨ c = '.' ∨ c = 'e'

/-- `value !== undefined`. -/
def JsValue.defined : JsValue → Bool
  | .undefined => false
  | _ => true

mutual

def canonicalizeMutationRequest (numbers : JsonNumberText) : JsValue → List Char
  | .undefined => "null".toList
  | .null => "null".toList
  | .bool b => (if b then "true" else "false").toList
  | .number (.fin q) => numbers.text q
  | .number _ => "null".toList
  | .string s => JsonText.quote s
  | .array items => '[' :: (JsonText.joined (canonicalItems numbers items) ++ [']'])
  | .object fields =>
    -- the texts of the members are made before the sort here, and after it in the source
    let entries := (canonicalMembers numbers fields).insertionSort fun a b =>
      JsonText.utf16 a.1 ≤ JsonText.utf16 b.1
    '{' :: (JsonText.joined (entries.map fun m => JsonText.quote m.1 ++ ':' :: m.2) ++ ['}'])

def canonicalItems (numbers : JsonNumberText) : List JsValue → List (List Char)
  | [] => []
  | item :: rest => canonicalizeMutationRequest numbers item :: canonicalItems numbers rest

/-- The members that are not undefined, each with its text. -/
def canonicalMembers (numbers : JsonNumberText) : List (String × JsValue) → List (String × List Char)
  | [] => []
  | (key, value) :: rest =>
    if value.defined then (key, canonicalizeMutationRequest numbers value) :: canonicalMembers numbers rest
    else canonicalMembers numbers rest

end

/-! ## JSON values -/

/-- A JSON value: finite numbers, distinct keys; a member may be undefined. -/
inductive JsonValue : JsValue → Prop
  | null : JsonValue .null
  | bool (b : Bool) : JsonValue (.bool b)
  | number (q : ℚ) : JsonValue (.number (.fin q))
  | string (s : String) : JsonValue (.string s)
  | array {items : List JsValue} (h : ∀ v ∈ items, JsonValue v) : JsonValue (.array items)
  | object {fields : List (String × JsValue)} (hkeys : (JsValue.keys fields).Nodup)
      (h : ∀ f ∈ fields, f.2.defined = true → JsonValue f.2) : JsonValue (.object fields)

/-- The same value up to the order of object keys. -/
inductive SameJson : JsValue → JsValue → Prop
  | undefined : SameJson .undefined .undefined
  | null : SameJson .null .null
  | bool (b : Bool) : SameJson (.bool b) (.bool b)
  | number (n : JsNumber) : SameJson (.number n) (.number n)
  | string (s : String) : SameJson (.string s) (.string s)
  | array {items items' : List JsValue} (hlength : items.length = items'.length)
      (h : ∀ (i : ℕ) (hi : i < items.length) (hi' : i < items'.length), SameJson items[i] items'[i]) :
      SameJson (.array items) (.array items')
  | object {fields fields' : List (String × JsValue)}
      (h : ∀ key, SameJson (JsValue.lookup fields key) (JsValue.lookup fields' key)) :
      SameJson (.object fields) (.object fields')

theorem SameJson.defined_eq {v w : JsValue} (h : SameJson v w) : v.defined = w.defined := by
  cases h <;> rfl

namespace JsValue

variable {fields : List (String × JsValue)} {key : String} {v : JsValue}

theorem lookup_of_mem (hkeys : (keys fields).Nodup) (h : (key, v) ∈ fields) : lookup fields key = v := by
  have hfind : fields.find? (fun f => f.1 == key) = some (key, v) := by
    have hpred : (fun f : String × JsValue => f.1 == key) = fun f => decide (f.1 = key) := by
      funext f
      exact beq_eq_decide f.1 key
    rw [hpred]
    exact @Rows.find?_key _ _ _ (fun f : String × JsValue => f.1) fields hkeys (key, v) h
  rw [lookup, hfind]

theorem mem_of_lookup (h : (lookup fields key).defined = true) : (key, lookup fields key) ∈ fields := by
  unfold lookup at h ⊢
  cases hfind : fields.find? (fun f => f.1 == key) with
  | none =>
    rw [hfind] at h
    cases h
  | some f =>
    have hkey : f.1 = key := by simpa using List.find?_some hfind
    rw [← hkey]
    exact List.mem_of_find?_eq_some hfind

end JsValue

/-! ## Items and members -/

variable {numbers : JsonNumberText}

theorem canonicalItems_eq (items : List JsValue) :
    canonicalItems numbers items = items.map (canonicalizeMutationRequest numbers) := by
  induction items with
  | nil => rfl
  | cons item rest ih => rw [canonicalItems, ih, List.map_cons]

theorem canonicalMembers_eq (fields : List (String × JsValue)) :
    canonicalMembers numbers fields =
      (fields.filter (·.2.defined)).map fun f => (f.1, canonicalizeMutationRequest numbers f.2) := by
  induction fields with
  | nil => rfl
  | cons f rest ih =>
    obtain ⟨key, value⟩ := f
    rw [canonicalMembers, List.filter_cons, ih]
    cases value.defined <;> rfl

/-- The members of an object in the order they are written. -/
def sortedMembers (fields : List (String × JsValue)) : List (String × JsValue) :=
  (fields.filter (·.2.defined)).insertionSort fun a b => JsonText.utf16 a.1 ≤ JsonText.utf16 b.1

/-- The text of one member. -/
def memberText (numbers : JsonNumberText) (f : String × JsValue) : List Char :=
  JsonText.quote f.1 ++ ':' :: canonicalizeMutationRequest numbers f.2

theorem canonical_array (items : List JsValue) :
    canonicalizeMutationRequest numbers (.array items) =
      '[' :: (JsonText.joined (items.map (canonicalizeMutationRequest numbers)) ++ [']']) := by
  rw [canonicalizeMutationRequest, canonicalItems_eq]

theorem canonical_object (fields : List (String × JsValue)) :
    canonicalizeMutationRequest numbers (.object fields) =
      '{' :: (JsonText.joined ((sortedMembers fields).map (memberText numbers)) ++ ['}']) := by
  have hsort := List.map_insertionSort (r := fun a b : String × JsValue => JsonText.utf16 a.1 ≤ JsonText.utf16 b.1)
    (s := fun a b : String × List Char => JsonText.utf16 a.1 ≤ JsonText.utf16 b.1)
    (fun f => (f.1, canonicalizeMutationRequest numbers f.2)) (fields.filter (·.2.defined))
    fun a _ b _ => Iff.rfl
  rw [canonicalizeMutationRequest, canonicalMembers_eq, ← hsort, List.map_map]
  rfl

theorem mem_sortedMembers {fields : List (String × JsValue)} {f : String × JsValue} :
    f ∈ sortedMembers fields ↔ f ∈ fields ∧ f.2.defined = true := by
  unfold sortedMembers
  rw [List.mem_insertionSort, List.mem_filter]

theorem mem_canonicalMembers {fields : List (String × JsValue)} (hkeys : (JsValue.keys fields).Nodup)
    {key : String} {text : List Char} :
    (key, text) ∈ canonicalMembers numbers fields ↔ (JsValue.lookup fields key).defined = true ∧
      text = canonicalizeMutationRequest numbers (JsValue.lookup fields key) := by
  rw [canonicalMembers_eq, List.mem_map]
  constructor
  · rintro ⟨⟨k, v⟩, hmem, heq⟩
    obtain ⟨hf, hdefined⟩ := List.mem_filter.mp hmem
    cases heq
    rw [JsValue.lookup_of_mem hkeys hf]
    exact ⟨hdefined, rfl⟩
  · rintro ⟨hdefined, rfl⟩
    exact ⟨(key, JsValue.lookup fields key), List.mem_filter.mpr ⟨JsValue.mem_of_lookup hdefined, hdefined⟩, rfl⟩

theorem canonicalMembers_keys {fields : List (String × JsValue)} (hkeys : (JsValue.keys fields).Nodup) :
    ((canonicalMembers numbers fields).map (·.1)).Nodup := by
  rw [canonicalMembers_eq, List.map_map]
  exact hkeys.sublist (List.filter_sublist.map Prod.fst)

/-! ## The same value gives the same text -/

theorem canonical_text_congr {v w : JsValue} (h : SameJson v w) (hv : JsonValue v) (hw : JsonValue w) :
    canonicalizeMutationRequest numbers v = canonicalizeMutationRequest numbers w := by
  induction h with
  | undefined => cases hv
  | null => rfl
  | bool b => rfl
  | number n => rfl
  | string s => rfl
  | @array items items' hlength h ih =>
    cases hv with
    | array hitems =>
      cases hw with
      | array hitems' =>
        have hmap : items.map (canonicalizeMutationRequest numbers) =
            items'.map (canonicalizeMutationRequest numbers) := by
          refine List.ext_getElem (by simpa using hlength) fun i hi hi' => ?_
          rw [List.getElem_map, List.getElem_map]
          exact ih i _ _ (hitems _ (List.getElem_mem _)) (hitems' _ (List.getElem_mem _))
        rw [canonical_array, canonical_array, hmap]
  | @object fields fields' h ih =>
    cases hv with
    | object hkeys hvalues =>
      cases hw with
      | object hkeys' hvalues' =>
        -- the members are the same set, and sorting a set of members does not depend on their order
        have hmembers : ∀ m, m ∈ canonicalMembers numbers fields ↔ m ∈ canonicalMembers numbers fields' := by
          rintro ⟨key, text⟩
          rw [mem_canonicalMembers hkeys, mem_canonicalMembers hkeys', (h key).defined_eq]
          refine and_congr_right fun hdefined => ?_
          have hdefined' : (JsValue.lookup fields key).defined = true := (h key).defined_eq.trans hdefined
          rw [ih key (hvalues _ (JsValue.mem_of_lookup hdefined') hdefined')
            (hvalues' _ (JsValue.mem_of_lookup hdefined) hdefined)]
        have hnodup := @canonicalMembers_keys numbers fields hkeys
        have hnodup' := @canonicalMembers_keys numbers fields' hkeys'
        have hperm := (List.perm_ext_iff_of_nodup (List.Nodup.of_map _ hnodup) (List.Nodup.of_map _ hnodup')).mpr
          hmembers
        have hstrict : ∀ l : List (String × List Char), (l.map (·.1)).Nodup →
            (l.insertionSort fun a b => JsonText.utf16 a.1 ≤ JsonText.utf16 b.1).Pairwise
              fun a b => JsonText.utf16 a.1 < JsonText.utf16 b.1 := by
          intro l hl
          refine @Series.strict_of_nodup _ _ _ (fun m : String × List Char => JsonText.utf16 m.1) _
            (List.pairwise_insertionSort _ _) ?_
          have hsorted := ((List.perm_insertionSort (fun a b : String × List Char =>
            JsonText.utf16 a.1 ≤ JsonText.utf16 b.1) l).map (·.1)).nodup_iff.mpr hl
          have := hsorted.map JsonText.utf16_injective
          rwa [List.map_map] at this
        have hsort := @Series.eq_of_perm _ _ _ (fun m : String × List Char => JsonText.utf16 m.1) _ _
          (hstrict _ hnodup) (hstrict _ hnodup')
          ((List.perm_insertionSort _ _).trans (hperm.trans (List.perm_insertionSort _ _).symm))
        rw [canonicalizeMutationRequest, canonicalizeMutationRequest, hsort]

/-! ## Equal texts come from the same value -/

/-- Which kind of value a text starts. -/
def charKind (c : Char) : ℕ :=
  if c = '"' then 1
  else if c = '[' then 2
  else if c = '{' then 3
  else if c = 'n' then 4
  else if c = 't' then 5
  else if c = 'f' then 6
  else if c = ']' ∨ c = '}' ∨ c = ',' then 7
  else 0

def JsValue.kind : JsValue → ℕ
  | .undefined => 4
  | .null => 4
  | .bool b => if b then 5 else 6
  | .number (.fin _) => 0
  | .number _ => 4
  | .string _ => 1
  | .array _ => 2
  | .object _ => 3

theorem numeric_kind {c : Char} (h : c.isDigit = true ∨ c = '-' ∨ c = '+' ∨ c = '.' ∨ c = 'e') : charKind c = 0 := by
  have hne : ∀ d : Char, d ∈ ['"', '[', '{', 'n', 't', 'f', ']', '}', ','] → c ≠ d := by
    intro d hd hcd
    subst hcd
    fin_cases hd <;> revert h <;> decide
  unfold charKind
  simp [hne]

theorem canonical_head (v : JsValue) :
    ∃ c t, canonicalizeMutationRequest numbers v = c :: t ∧ charKind c = v.kind := by
  cases v with
  | undefined => exact ⟨'n', "ull".toList, by rw [canonicalizeMutationRequest]; rfl, by decide⟩
  | null => exact ⟨'n', "ull".toList, by rw [canonicalizeMutationRequest]; rfl, by decide⟩
  | bool b =>
    cases b with
    | true => exact ⟨'t', "rue".toList, by rw [canonicalizeMutationRequest]; rfl, by decide⟩
    | false => exact ⟨'f', "alse".toList, by rw [canonicalizeMutationRequest]; rfl, by decide⟩
  | number n =>
    cases n with
    | fin q =>
      obtain ⟨c, t, hct⟩ := List.exists_cons_of_ne_nil (numbers.nonempty q)
      refine ⟨c, t, by rw [canonicalizeMutationRequest, hct], numeric_kind (numbers.numeric q c ?_)⟩
      rw [hct]
      exact List.mem_cons_self
    | nan => exact ⟨'n', "ull".toList, by rw [canonicalizeMutationRequest]; rfl; simp, by decide⟩
    | posInf => exact ⟨'n', "ull".toList, by rw [canonicalizeMutationRequest]; rfl; simp, by decide⟩
    | negInf => exact ⟨'n', "ull".toList, by rw [canonicalizeMutationRequest]; rfl; simp, by decide⟩
  | string s => exact ⟨'"', _, by rw [canonicalizeMutationRequest]; rfl, rfl⟩
  | array items => exact ⟨'[', _, by rw [canonicalizeMutationRequest], rfl⟩
  | object fields => exact ⟨'{', _, by rw [canonicalizeMutationRequest], rfl⟩

theorem kind_eq {v w : JsValue} {r r' : List Char}
    (h : canonicalizeMutationRequest numbers v ++ r = canonicalizeMutationRequest numbers w ++ r') :
    v.kind = w.kind := by
  obtain ⟨c, t, hv, hc⟩ := @canonical_head numbers v
  obtain ⟨d, u, hw, hd⟩ := @canonical_head numbers w
  rw [hv, hw, List.cons_append, List.cons_append] at h
  rw [← hc, ← hd, (List.cons.inj h).1]

theorem canonical_no_close (v : JsValue) (r : List Char) :
    (canonicalizeMutationRequest numbers v ++ r).head? ≠ some ']' := by
  obtain ⟨c, t, hv, hc⟩ := @canonical_head numbers v
  rw [hv, List.cons_append, List.head?_cons]
  intro h
  cases h
  have hclose : charKind ']' = 7 := by decide
  rw [hclose] at hc
  unfold JsValue.kind at hc
  split at hc <;> first | cases hc | split at hc <;> cases hc

theorem memberText_no_close (f : String × JsValue) (r : List Char) :
    (memberText numbers f ++ r).head? ≠ some '}' := by
  unfold memberText JsonText.quote
  rw [List.cons_append, List.cons_append, List.head?_cons]
  decide

theorem sameJson_of_members {fields fields' : List (String × JsValue)} (hkeys : (JsValue.keys fields).Nodup)
    (hkeys' : (JsValue.keys fields').Nodup)
    (h : List.Forall₂ (fun a b => a.1 = b.1 ∧ SameJson a.2 b.2) (sortedMembers fields) (sortedMembers fields')) :
    SameJson (.object fields) (.object fields') := by
  refine SameJson.object fun key => ?_
  by_cases hdefined : (JsValue.lookup fields key).defined = true
  · obtain ⟨⟨k, w⟩, hb, hk, hsame⟩ := Related.exists_left h
      (mem_sortedMembers.mpr ⟨JsValue.mem_of_lookup hdefined, hdefined⟩)
    cases hk
    rw [JsValue.lookup_of_mem hkeys' (mem_sortedMembers.mp hb).1]
    exact hsame
  · have hundefined : ¬(JsValue.lookup fields' key).defined = true := by
      intro hdefined'
      obtain ⟨⟨k, v⟩, ha, hk, hsame⟩ := Related.exists_left h.flip
        (mem_sortedMembers.mpr ⟨JsValue.mem_of_lookup hdefined', hdefined'⟩)
      cases hk
      obtain ⟨hmem, hv⟩ := mem_sortedMembers.mp ha
      rw [JsValue.lookup_of_mem hkeys hmem] at hdefined
      exact hdefined hv
    have hnone : ∀ v : JsValue, ¬v.defined = true → v = .undefined := by
      intro v hv
      cases v <;> first | rfl | exact absurd rfl hv
    rw [hnone _ hdefined, hnone _ hundefined]
    exact .undefined

/-- **The text is read back**, whatever follows. -/
theorem canonical_text_inj {v w : JsValue} (hv : JsonValue v) (hw : JsonValue w) {r r' : List Char}
    (hr : JsonText.Stops r) (hr' : JsonText.Stops r')
    (h : canonicalizeMutationRequest numbers v ++ r = canonicalizeMutationRequest numbers w ++ r') :
    SameJson v w ∧ r = r' := by
  induction hv generalizing w r r' with
  | null =>
    have hkind := kind_eq h
    cases hw with
    | null => exact ⟨.null, List.append_cancel_left h⟩
    | bool b => cases b <;> cases hkind
    | _ => cases hkind
  | bool b =>
    have hkind := kind_eq h
    cases hw with
    | bool b' =>
      obtain rfl : b = b' := by
        cases b <;> cases b' <;> first | rfl | cases hkind
      exact ⟨.bool b, List.append_cancel_left h⟩
    | _ => cases b <;> cases hkind
  | number q =>
    have hkind := kind_eq h
    cases hw with
    | number q' =>
      rw [canonicalizeMutationRequest, canonicalizeMutationRequest] at h
      obtain ⟨htext, hrest⟩ := JsonText.digits_inj (p := fun c => charKind c = 0)
        (fun c hc => by
          refine ⟨?_, ?_, ?_⟩ <;> rintro rfl <;> revert hc <;> decide)
        (fun c hc => numeric_kind (numbers.numeric q c hc)) (fun c hc => numeric_kind (numbers.numeric q' c hc))
        hr hr' h
      cases numbers.injective htext
      exact ⟨.number _, hrest⟩
    | bool b => cases b <;> cases hkind
    | _ => cases hkind
  | string s =>
    have hkind := kind_eq h
    cases hw with
    | string s' =>
      rw [canonicalizeMutationRequest, canonicalizeMutationRequest] at h
      obtain ⟨rfl, hrest⟩ := JsonText.quote_inj h
      exact ⟨.string _, hrest⟩
    | bool b => cases b <;> cases hkind
    | _ => cases hkind
  | @array items _ ih =>
    have hkind := kind_eq h
    cases hw with
    | @array items' hitems' =>
      rw [canonical_array, canonical_array] at h
      simp only [List.cons_append, List.append_assoc, List.nil_append, List.cons.injEq, true_and] at h
      obtain ⟨hall, hrest⟩ := JsonText.joined_inj (R := SameJson) (.inl rfl) canonical_no_close
        (fun a ha b hb _ _ hs hs' heq => ih a ha (hitems' b hb) hs hs' heq) h
      refine ⟨.array hall.length_eq fun i hi hi' => ?_, hrest⟩
      exact hall.get hi hi'
    | bool b => cases b <;> cases hkind
    | _ => cases hkind
  | @object fields hkeys _ ih =>
    have hkind := kind_eq h
    cases hw with
    | @object fields' hkeys' hvalues' =>
      rw [canonical_object, canonical_object] at h
      simp only [List.cons_append, List.append_assoc, List.nil_append, List.cons.injEq, true_and] at h
      obtain ⟨hall, hrest⟩ := JsonText.joined_inj (R := fun a b => a.1 = b.1 ∧ SameJson a.2 b.2) (.inr rfl)
        memberText_no_close (fun a ha b hb x x' hs hs' heq => by
          obtain ⟨hmem, hdefined⟩ := mem_sortedMembers.mp ha
          obtain ⟨hmem', hdefined'⟩ := mem_sortedMembers.mp hb
          unfold memberText at heq
          rw [List.append_assoc, List.append_assoc] at heq
          obtain ⟨hkey, htail⟩ := JsonText.quote_inj heq
          rw [List.cons_append, List.cons_append] at htail
          obtain ⟨hsame, hx⟩ := ih a hmem hdefined (hvalues' b hmem' hdefined') hs hs' (List.cons.inj htail).2
          exact ⟨⟨hkey, hsame⟩, hx⟩) h
      exact ⟨sameJson_of_members hkeys hkeys' hall, hrest⟩
    | bool b => cases b <;> cases hkind
    | _ => cases hkind

theorem canonical_text_injective {v w : JsValue} (hv : JsonValue v) (hw : JsonValue w)
    (h : canonicalizeMutationRequest numbers v = canonicalizeMutationRequest numbers w) : SameJson v w :=
  (@canonical_text_inj numbers v w hv hw [] [] trivial trivial (by rw [h])).1

/-! ## The hash -/

/-- The ledger's environment: the digest is the SHA-256 of the canonical text. -/
def canonicalEnv (numbers : JsonNumberText) (sha256 : String → String) (numericIn : String → Option JsNumber) :
    MutationEnv where
  digest request := sha256 (String.ofList (canonicalizeMutationRequest numbers request))
  numericIn := numericIn

/-- Two submit inputs with one request: the identities and, up to key order, the canonical request. -/
structure SameRequest (a b : SubmitIntentInput) : Prop where
  clientOrderId : a.clientOrderId = b.clientOrderId
  idempotencyKey : a.idempotencyKey = b.idempotencyKey
  canonicalRequest : SameJson a.canonicalRequest.orEmptyObject b.canonicalRequest.orEmptyObject

/-- The object that is hashed. -/
def hashedRequest (input : SubmitIntentInput) : JsValue :=
  .object [("clientOrderId", .string input.clientOrderId), ("idempotencyKey", .string input.idempotencyKey),
    ("canonicalRequest", input.canonicalRequest.orEmptyObject)]

theorem hashedRequest_json {input : SubmitIntentInput} (h : JsonValue input.canonicalRequest.orEmptyObject) :
    JsonValue (hashedRequest input) := by
  have hkeys : ["clientOrderId", "idempotencyKey", "canonicalRequest"].Nodup := by decide
  refine .object hkeys fun f hf _ => ?_
  simp only [List.mem_cons, List.not_mem_nil, or_false] at hf
  rcases hf with rfl | rfl | rfl
  · exact .string _
  · exact .string _
  · exact h

theorem sameJson_string {s s' : String} : SameJson (.string s) (.string s') ↔ s = s' := by
  constructor
  · intro h
    cases h
    rfl
  · rintro rfl
    exact .string s

theorem hashedRequest_same {a b : SubmitIntentInput} : SameJson (hashedRequest a) (hashedRequest b) ↔
    SameRequest a b := by
  constructor
  · intro h
    cases h with
    | object h =>
      exact ⟨sameJson_string.mp (h "clientOrderId"), sameJson_string.mp (h "idempotencyKey"),
        h "canonicalRequest"⟩
  · rintro ⟨hclient, hidempotency, hrequest⟩
    refine .object fun key => ?_
    by_cases h1 : "clientOrderId" = key
    · subst h1
      exact sameJson_string.mpr hclient
    by_cases h2 : "idempotencyKey" = key
    · subst h2
      exact sameJson_string.mpr hidempotency
    by_cases h3 : "canonicalRequest" = key
    · subst h3
      exact hrequest
    have hnone : ∀ x y z : JsValue, JsValue.lookup
        [("clientOrderId", x), ("idempotencyKey", y), ("canonicalRequest", z)] key = .undefined := by
      intro x y z
      simp [JsValue.lookup, h1, h2, h3]
    rw [hnone, hnone]
    exact .undefined

theorem assertSubmitIdentity_hash {env : MutationEnv} {input : SubmitIntentInput} {identity : SubmitIdentity}
    (h : assertSubmitIdentity env input = .ok identity) : identity.requestHash = env.digest (hashedRequest input) := by
  unfold assertSubmitIdentity at h
  dsimp only at h
  split at h
  · cases h
  split at h
  · cases h
  unfold canonicalMutationRequestHash at h
  dsimp only at h
  split at h
  · rename_i hhash
    split at hhash
    · cases hhash
    · cases h
      exact (Option.some.inj hhash).symm
  · cases h

/-- **The canonical text is faithful.**  Two JSON values have one text exactly when they are the same up to the
    order of object keys; where the hash has no collision, two requests share a `request_hash` exactly when they
    are the same request. -/
theorem request_hash_identifies (numbers : JsonNumberText) :
    (∀ v w, JsonValue v → JsonValue w →
      (canonicalizeMutationRequest numbers v = canonicalizeMutationRequest numbers w ↔ SameJson v w)) ∧
    ∀ (sha256 : String → String) (numericIn : String → Option JsNumber), Function.Injective sha256 →
      ∀ (a b : SubmitIntentInput) (identity identity' : SubmitIdentity),
        JsonValue a.canonicalRequest.orEmptyObject → JsonValue b.canonicalRequest.orEmptyObject →
        assertSubmitIdentity (canonicalEnv numbers sha256 numericIn) a = .ok identity →
        assertSubmitIdentity (canonicalEnv numbers sha256 numericIn) b = .ok identity' →
        (identity.requestHash = identity'.requestHash ↔ SameRequest a b) := by
  have hfaithful : ∀ v w, JsonValue v → JsonValue w →
      (canonicalizeMutationRequest numbers v = canonicalizeMutationRequest numbers w ↔ SameJson v w) :=
    fun v w hv hw => ⟨canonical_text_injective hv hw, fun h => canonical_text_congr h hv hw⟩
  refine ⟨hfaithful, ?_⟩
  intro sha256 numericIn hsha a b identity identity' ha hb hidentity hidentity'
  rw [assertSubmitIdentity_hash hidentity, assertSubmitIdentity_hash hidentity', ← hashedRequest_same,
    ← hfaithful _ _ (hashedRequest_json ha) (hashedRequest_json hb)]
  unfold canonicalEnv
  dsimp only
  rw [hsha.eq_iff, String.ofList_inj]

/-! ## One request in two orders -/

/-- A number as its numerator and its denominator. -/
def exponentText (q : ℚ) : List Char := q.num.repr.toList ++ 'e' :: (Nat.repr q.den).toList

theorem exponent_notMem_repr (z : ℤ) : 'e' ∉ z.repr.toList := by
  intro h
  rcases JsonText.digit_or_minus_of_mem_repr h with hdigit | hminus
  · revert hdigit
    decide
  · revert hminus
    decide

def exponentNumbers : JsonNumberText where
  text := exponentText
  injective := by
    intro q q' h
    obtain ⟨hnum, hden⟩ := JsonText.append_cons_inj (exponent_notMem_repr _) (exponent_notMem_repr _) h
    exact Rat.ext (Int.repr_injective (String.toList_injective hnum))
      (Nat.repr_injective (String.toList_injective hden))
  nonempty := by
    intro q h
    exact List.cons_ne_nil _ _ (List.append_eq_nil_iff.mp h).2
  numeric := by
    intro q c hc
    rcases List.mem_append.mp hc with hnum | hden
    · rcases JsonText.digit_or_minus_of_mem_repr hnum with hdigit | hminus
      · exact .inl hdigit
      · exact .inr (.inl hminus)
    · rcases List.mem_cons.mp hden with he | hdigit
      · exact .inr (.inr (.inr (.inr he)))
      · exact .inl (JsonText.digit_of_mem_repr hdigit)

/-- An order whose request has the given members. -/
def lotRequest (fields : List (String × JsValue)) : SubmitIntentInput where
  userId := "u"
  executionProfileId := "p"
  orderId := none
  clientOrderId := "ve-0123456789abcdef01234567"
  idempotencyKey := "0123456789abcdef0123456789abcdef0123456789abcdef0123456789abcdef"
  canonicalRequest := .object fields
  providerSlug := "mt5"
  environment := .demo
  accountRef := none
  brokerServerRef := none
  credentialRef := none
  credentialFingerprint := none
  riskDecisionId := none
  riskReservationId := none
  symbol := none
  direction := none
  monetaryRisk := none
  riskExpiresAt := none

/-- The members of that order, and the same in another order beside an undefined one. -/
def lotFields : List (String × JsValue) := [("volume", .number (.fin 1)), ("symbol", .string "EURUSD")]

def lotFieldsReordered : List (String × JsValue) :=
  [("symbol", .string "EURUSD"), ("comment", .undefined), ("volume", .number (.fin 1))]

theorem lotFields_json : JsonValue (.object lotFields) := by
  refine .object (by decide) fun f hf _ => ?_
  simp only [lotFields, List.mem_cons, List.not_mem_nil, or_false] at hf
  rcases hf with rfl | rfl
  · exact .number 1
  · exact .string "EURUSD"

theorem lotFieldsReordered_json : JsonValue (.object lotFieldsReordered) := by
  refine .object (by decide) fun f hf hdefined => ?_
  simp only [lotFieldsReordered, List.mem_cons, List.not_mem_nil, or_false] at hf
  rcases hf with rfl | rfl | rfl
  · exact .string "EURUSD"
  · cases hdefined
  · exact .number 1

theorem lotFields_same : SameRequest (lotRequest lotFields) (lotRequest lotFieldsReordered) := by
  refine ⟨rfl, rfl, .object fun key => ?_⟩
  by_cases hvolume : "volume" = key
  · subst hvolume
    exact .number 1
  by_cases hsymbol : "symbol" = key
  · subst hsymbol
    exact .string "EURUSD"
  by_cases hcomment : "comment" = key <;>
    simp [JsValue.lookup, lotFields, lotFieldsReordered, hvolume, hsymbol, hcomment, SameJson.undefined]

/-- Both are the same request and share a hash. -/
theorem request_hash_identifies_reordered :
    let env := canonicalEnv exponentNumbers id fun _ => none
    ∃ identity identity', assertSubmitIdentity env (lotRequest lotFields) = .ok identity ∧
      assertSubmitIdentity env (lotRequest lotFieldsReordered) = .ok identity' ∧
      identity.requestHash = identity'.requestHash ∧
      SameRequest (lotRequest lotFields) (lotRequest lotFieldsReordered) := by
  intro env
  have haccepted : ∀ fields ∈ [lotFields, lotFieldsReordered],
      ∃ identity, assertSubmitIdentity env (lotRequest fields) = .ok identity := by
    have hok : ∀ fields ∈ [lotFields, lotFieldsReordered],
        (assertSubmitIdentity env (lotRequest fields)).isOk = true := by
      simp only [assertSubmitIdentity, text_tests_chars]
      decide +kernel
    intro fields hfields
    cases h : assertSubmitIdentity env (lotRequest fields) with
    | ok identity => exact ⟨identity, rfl⟩
    | error e => exact absurd (hok fields hfields) (by simp [h, Except.isOk, Except.toBool])
  obtain ⟨identity, h⟩ := haccepted lotFields (by simp)
  obtain ⟨identity', h'⟩ := haccepted lotFieldsReordered (by simp)
  exact ⟨identity, identity', h, h', ((request_hash_identifies exponentNumbers).2 id (fun _ => none)
    Function.injective_id (lotRequest lotFields) (lotRequest lotFieldsReordered) identity identity'
    lotFields_json lotFieldsReordered_json h h').mpr lotFields_same, lotFields_same⟩

end VeltrixEye
