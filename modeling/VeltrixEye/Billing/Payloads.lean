import VeltrixEye.Lib.CodeUnits
import VeltrixEye.Lib.JsonTree
import VeltrixEye.Mutations.CanonicalRequest

/-!
# The hash of a payload (`billing/provider.ts`, `billing/webhook.ts`)

A delivery is parsed, its keys are sorted by assigning the members to a new object, and the JSON text of the
result is hashed.

* `sortValue`, `canonicalizeBillingPayload` — the sort and the text.
* `canonical_eq_iff` — when two payloads have one text: members named `__proto__` are lost, infinite
  numbers are printed as `null`.
-/

namespace VeltrixEye.Billing

/-! ## Payloads -/

/-- What `JSON.parse` reads apart from arrays and objects; a numeral that is too large is an infinity. -/
inductive PayloadLeaf where
  | null
  | bool (b : Bool)
  | number (q : ℚ)
  | infinity (negative : Bool)
  | string (s : List CodeUnit)

abbrev PayloadKey := List CodeUnit

/-- A value `JSON.parse` returns: no object has a key twice. -/
structure ParsedPayload where
  value : JsonTree PayloadKey PayloadLeaf
  distinct : value.Distinct

namespace PayloadLeaf

/-- `JSON.stringify`. -/
def text (numbers : JsonNumberText) : PayloadLeaf → List Char
  | .null => "null".toList
  | .bool b => (if b then "true" else "false").toList
  | .number q => numbers.text q
  | .infinity _ => "null".toList
  | .string s => CodeUnits.quote s

/-- A leaf that is printed as `null`. -/
def nullish : PayloadLeaf → Bool
  | .null => true
  | .infinity _ => true
  | _ => false

def kind : PayloadLeaf → ℕ
  | .null => 4
  | .bool b => if b then 5 else 6
  | .number _ => 0
  | .infinity _ => 4
  | .string _ => 1

variable {numbers : JsonNumberText} {a b : PayloadLeaf}

theorem text_head (numbers : JsonNumberText) (a : PayloadLeaf) :
    ∃ c t, a.text numbers = c :: t ∧ charKind c = a.kind := by
  cases a with
  | null => exact ⟨'n', _, rfl, by decide⟩
  | bool b => cases b <;> exact ⟨_, _, rfl, by decide⟩
  | number q =>
    obtain ⟨c, t, hct⟩ := List.exists_cons_of_ne_nil (numbers.nonempty q)
    refine ⟨c, t, hct, numeric_kind (numbers.numeric q c ?_)⟩
    rw [hct]
    exact List.mem_cons_self
  | infinity negative => exact ⟨'n', _, rfl, rfl⟩
  | string s => exact ⟨'"', _, rfl, rfl⟩

theorem text_inj {r r' : List Char} (hr : JsonText.Stops r) (hr' : JsonText.Stops r')
    (h : a.text numbers ++ r = b.text numbers ++ r') :
    (a = b ∨ a.nullish = true ∧ b.nullish = true) ∧ r = r' := by
  have hkind : a.kind = b.kind := by
    obtain ⟨c, t, ha, hc⟩ := text_head numbers a
    obtain ⟨d, u, hb, hd⟩ := text_head numbers b
    rw [ha, hb] at h
    rw [← hc, ← hd, (List.cons.inj h).1]
  cases a with
  | null =>
    cases b with
    | null => exact ⟨.inl rfl, List.append_cancel_left h⟩
    | bool y => cases y <;> cases hkind
    | number q => cases hkind
    | infinity negative => exact ⟨.inr ⟨rfl, rfl⟩, List.append_cancel_left h⟩
    | string s => cases hkind
  | bool x =>
    cases b with
    | null => cases x <;> cases hkind
    | bool y =>
      obtain rfl : x = y := by
        cases x <;> cases y <;> first | rfl | cases hkind
      exact ⟨.inl rfl, List.append_cancel_left h⟩
    | number q => cases x <;> cases hkind
    | infinity negative => cases x <;> cases hkind
    | string s => cases x <;> cases hkind
  | number q =>
    cases b with
    | null => cases hkind
    | bool y => cases y <;> cases hkind
    | number q' =>
      obtain ⟨htext, hrest⟩ := JsonText.digits_inj (p := fun c => charKind c = 0)
        (fun c hc => by
          refine ⟨?_, ?_, ?_⟩ <;> rintro rfl <;> revert hc <;> decide)
        (fun c hc => numeric_kind (numbers.numeric q c hc)) (fun c hc => numeric_kind (numbers.numeric q' c hc))
        hr hr' h
      exact ⟨.inl (congrArg number (numbers.injective htext)), hrest⟩
    | infinity negative => cases hkind
    | string s => cases hkind
  | infinity negative =>
    cases b with
    | null => exact ⟨.inr ⟨rfl, rfl⟩, List.append_cancel_left h⟩
    | bool y => cases y <;> cases hkind
    | number q => cases hkind
    | infinity negative => exact ⟨.inr ⟨rfl, rfl⟩, List.append_cancel_left h⟩
    | string s => cases hkind
  | string s =>
    cases b with
    | null => cases hkind
    | bool y => cases y <;> cases hkind
    | number q => cases hkind
    | infinity negative => cases hkind
    | string s' =>
      obtain ⟨rfl, hrest⟩ := CodeUnits.quote_inj h
      exact ⟨.inl rfl, hrest⟩

theorem text_eq_iff : a.text numbers = b.text numbers ↔ a = b ∨ a.nullish = true ∧ b.nullish = true := by
  constructor
  · intro h
    have hend : JsonText.Stops [] := trivial
    exact (text_inj hend hend (congrArg (· ++ []) h)).1
  · have hnull : ∀ c : PayloadLeaf, c.nullish = true → c.text numbers = "null".toList := by
      intro c hc
      cases c with
      | null => rfl
      | infinity negative => rfl
      | bool _ => cases hc
      | number _ => cases hc
      | string _ => cases hc
    rintro (rfl | ⟨ha, hb⟩)
    · rfl
    · rw [hnull a ha, hnull b hb]

end PayloadLeaf

theorem kind_ne_bracket {c : Char} (h : charKind c ∈ [0, 1, 4, 5, 6]) : c ∉ ['[', ']', '{', '}'] := by
  intro hc
  fin_cases hc <;> revert h <;> decide

/-- The texts of leaves and keys. -/
def payloadLexicon (numbers : JsonNumberText) : JsonTree.Lexicon PayloadKey PayloadLeaf where
  leaf := PayloadLeaf.text numbers
  key := CodeUnits.quote
  leaf_inj a b r r' hr hr' h := by
    obtain ⟨hab, hrest⟩ := PayloadLeaf.text_inj hr hr' h
    exact ⟨PayloadLeaf.text_eq_iff.mpr hab, hrest⟩
  key_inj _ _ _ _ := CodeUnits.quote_inj
  leaf_head a := by
    obtain ⟨c, t, ha, hc⟩ := PayloadLeaf.text_head numbers a
    refine ⟨c, t, ha, kind_ne_bracket ?_⟩
    rw [hc]
    cases a with
    | bool b => cases b <;> decide
    | null => exact List.mem_of_elem_eq_true rfl
    | number _ => exact List.mem_of_elem_eq_true rfl
    | infinity _ => exact List.mem_of_elem_eq_true rfl
    | string _ => exact List.mem_of_elem_eq_true rfl
  key_head k := ⟨'"', _, rfl, by decide⟩

/-! ## Sorting by assignment -/

/-- The code units of a text of the Basic Multilingual Plane. -/
def units (s : String) : List CodeUnit := s.toList.map fun c => Fin.ofNat 65536 c.toNat

def protoKey : PayloadKey := units "__proto__"

/-- The number a property key spells when it is an array index: decimal digits without a leading zero. -/
def arrayIndex? (key : PayloadKey) : Option ℕ :=
  let index := key.foldl (fun n u => 10 * n + (u.val - 48)) 0
  if key ≠ [] ∧ key.all (fun u => 48 ≤ u.val && u.val ≤ 57) ∧ (key.head? = some 48 → key.length = 1) ∧
    index ≤ 4294967294 then some index else none

/-- The own properties of an object created in the order of the list: array indices come first. -/
def propertyOrder {β : Type} (created : List (PayloadKey × β)) : List (PayloadKey × β) :=
  (created.filter fun m => (arrayIndex? m.1).isSome).insertionSort
      (fun a b => (arrayIndex? a.1).getD 0 ≤ (arrayIndex? b.1).getD 0) ++
    created.filter fun m => (arrayIndex? m.1).isNone

/-- The members of `sorted` in the order `JSON.stringify` meets them: the assignment to `__proto__` sets the
    prototype of `sorted` and creates no member. -/
def sortMembers {β : Type} (source : List (PayloadKey × β)) : List (PayloadKey × β) :=
  propertyOrder ((source.insertionSort fun a b => a.1 ≤ b.1).filter fun m => m.1 ≠ protoKey)

theorem sort_map {β γ : Type} (r : PayloadKey → PayloadKey → Prop) [DecidableRel r] (h : β → γ)
    (l : List (PayloadKey × β)) :
    (l.map (Prod.map id h)).insertionSort (fun a b => r a.1 b.1) =
      (l.insertionSort fun a b => r a.1 b.1).map (Prod.map id h) :=
  (List.map_insertionSort (r := fun a b : PayloadKey × β => r a.1 b.1)
    (s := fun a b : PayloadKey × γ => r a.1 b.1) (Prod.map id h) l fun _ _ _ _ => Iff.rfl).symm

theorem propertyOrder_map {β γ : Type} (h : β → γ) (l : List (PayloadKey × β)) :
    propertyOrder (l.map (Prod.map id h)) = (propertyOrder l).map (Prod.map id h) := by
  unfold propertyOrder
  rw [List.filter_map, List.filter_map,
    sort_map fun a b => (arrayIndex? a).getD 0 ≤ (arrayIndex? b).getD 0, List.map_append]
  rfl

theorem sortMembers_map {β γ : Type} (h : β → γ) (l : List (PayloadKey × β)) :
    sortMembers (l.map (Prod.map id h)) = (sortMembers l).map (Prod.map id h) := by
  unfold sortMembers
  rw [sort_map fun a b => a ≤ b, List.filter_map, propertyOrder_map]
  rfl

theorem mem_propertyOrder {β : Type} {l : List (PayloadKey × β)} {m : PayloadKey × β} :
    m ∈ propertyOrder l ↔ m ∈ l := by
  unfold propertyOrder
  rw [List.mem_append, List.mem_insertionSort, List.mem_filter, List.mem_filter, ← and_or_left]
  refine and_iff_left ?_
  cases arrayIndex? m.1 with
  | none => exact Or.inr rfl
  | some n => exact Or.inl rfl

theorem mem_sortMembers {β : Type} {l : List (PayloadKey × β)} {m : PayloadKey × β} :
    m ∈ sortMembers l ↔ m ∈ l ∧ m.1 ≠ protoKey := by
  unfold sortMembers
  rw [mem_propertyOrder, List.mem_filter, List.mem_insertionSort, decide_eq_true_eq]

theorem sortMembers_unique {β : Type} {l l' : List (PayloadKey × β)} (hl : (l.map Prod.fst).Nodup)
    (hl' : (l'.map Prod.fst).Nodup) (h : ∀ m : PayloadKey × β, m.1 ≠ protoKey → (m ∈ l ↔ m ∈ l')) :
    sortMembers l = sortMembers l' := by
  let kept (l : List (PayloadKey × β)) := (l.insertionSort fun a b => a.1 ≤ b.1).filter fun m => m.1 ≠ protoKey
  have hstrict : ∀ l : List (PayloadKey × β), (l.map Prod.fst).Nodup →
      (kept l).Pairwise fun a b => a.1 < b.1 := by
    intro l hl
    have hsorted : (l.insertionSort fun a b => a.1 ≤ b.1).Pairwise fun a b => a.1 < b.1 :=
      Series.strict_of_nodup (List.pairwise_insertionSort _ _)
        (((List.perm_insertionSort _ l).map Prod.fst).nodup_iff.mpr hl)
    exact hsorted.sublist List.filter_sublist
  have hmem : ∀ (l : List (PayloadKey × β)) (m : PayloadKey × β), m ∈ kept l ↔ m ∈ l ∧ m.1 ≠ protoKey := by
    intro l m
    rw [List.mem_filter, List.mem_insertionSort, decide_eq_true_eq]
  have hperm : (kept l).Perm (kept l') := by
    refine (List.perm_ext_iff_of_nodup ((hstrict l hl).imp ?_) ((hstrict l' hl').imp ?_)).mpr fun m => ?_
    · rintro a b hab rfl
      exact lt_irrefl _ hab
    · rintro a b hab rfl
      exact lt_irrefl _ hab
    · rw [hmem, hmem]
      exact and_congr_left (h m)
  exact congrArg propertyOrder (Series.eq_of_perm (hstrict l hl) (hstrict l' hl') hperm)

/-- The rewriting of an object. -/
def sortedObject : JsonTree.Arrangement PayloadKey (· ≠ protoKey) where
  run := sortMembers
  natural := sortMembers_map
  mem _ _ := mem_sortMembers
  unique _ _ := sortMembers_unique

def sortValue : JsonTree PayloadKey PayloadLeaf → JsonTree PayloadKey PayloadLeaf :=
  JsonTree.arrange sortedObject

def canonicalizeBillingPayload (numbers : JsonNumberText) (payload : ParsedPayload) : List Char :=
  (sortValue payload.value).text (payloadLexicon numbers)

/-! ## Payloads with one text -/

/-- Equal as JSON values, up to the order of the keys. -/
def SamePayload (v w : ParsedPayload) : Prop := v.value.Matches Eq (fun _ => True) w.value

/-- Equal so once the members named `__proto__` are left out and infinite numbers are read as `null`. -/
def AlikePayload (v w : ParsedPayload) : Prop :=
  v.value.Matches (fun a b => a = b ∨ a.nullish = true ∧ b.nullish = true) (· ≠ protoKey) w.value

theorem AlikePayload.of_same {v w : ParsedPayload} (h : SamePayload v w) : AlikePayload v w :=
  JsonTree.Matches.mono (fun _ _ => Or.inl) (fun _ _ => trivial) h

theorem canonical_eq_iff (numbers : JsonNumberText) (v w : ParsedPayload) :
    canonicalizeBillingPayload numbers v = canonicalizeBillingPayload numbers w ↔ AlikePayload v w := by
  have hleaf : (fun a b => (payloadLexicon numbers).leaf a = (payloadLexicon numbers).leaf b) =
      fun a b : PayloadLeaf => a = b ∨ a.nullish = true ∧ b.nullish = true :=
    funext₂ fun a b => propext PayloadLeaf.text_eq_iff
  unfold canonicalizeBillingPayload sortValue AlikePayload
  rw [JsonTree.text_eq_iff, JsonTree.arrange_eq_iff _ _ v.distinct w.distinct, hleaf]

/-! ## Deliveries -/

/-- What `receive` makes of the text of a body: the value it parses to, or the text when it does not parse. -/
inductive ReceivedBody where
  | parsed (payload : ParsedPayload)
  | unparsed (text : List CodeUnit)

namespace ReceivedBody

/-- The argument of `billingEventPayloadHash`. -/
def payload : ReceivedBody → ParsedPayload
  | .parsed payload => payload
  | .unparsed text => ⟨.leaf (.string text), .leaf _⟩

def payloadHash (numbers : JsonNumberText) (sha256 : String → String) (body : ReceivedBody) : String :=
  sha256 (String.ofList (canonicalizeBillingPayload numbers body.payload))

/-- The two bodies carry one payload. -/
def Same : ReceivedBody → ReceivedBody → Prop
  | .parsed v, .parsed w => SamePayload v w
  | .unparsed s, .unparsed t => s = t
  | _, _ => False

end ReceivedBody

theorem ReceivedBody.alike_of_same {a b : ReceivedBody} (h : a.Same b) : AlikePayload a.payload b.payload := by
  cases a with
  | parsed v =>
    cases b with
    | parsed w => exact AlikePayload.of_same h
    | unparsed t => exact h.elim
  | unparsed s =>
    cases b with
    | parsed w => exact h.elim
    | unparsed t => exact .leaf (Or.inl (congrArg PayloadLeaf.string h))

/-- A text tells two payloads apart, and a hash without collisions two bodies, exactly unless they differ in
    members named `__proto__`, in infinite numbers read as `null`, or in that one of two bodies is no JSON
    and the other is the JSON string of its text. -/
theorem payload_hash_faithful_iff (numbers : JsonNumberText) {sha256 : String → String} {a b : ReceivedBody}
    (hsha : a.payloadHash numbers sha256 = b.payloadHash numbers sha256 →
      canonicalizeBillingPayload numbers a.payload = canonicalizeBillingPayload numbers b.payload) :
    (∀ v w : ParsedPayload,
      (canonicalizeBillingPayload numbers v = canonicalizeBillingPayload numbers w ↔ SamePayload v w) ↔
        ¬(AlikePayload v w ∧ ¬SamePayload v w)) ∧
    ((a.payloadHash numbers sha256 = b.payloadHash numbers sha256 ↔ a.Same b) ↔
      ¬(AlikePayload a.payload b.payload ∧ ¬a.Same b)) := by
  have hhash : a.payloadHash numbers sha256 = b.payloadHash numbers sha256 ↔
      AlikePayload a.payload b.payload := by
    rw [← canonical_eq_iff numbers]
    exact ⟨hsha, fun h => congrArg (fun text => sha256 (String.ofList text)) h⟩
  constructor
  · intro v w
    rw [canonical_eq_iff, not_and_not_right]
    exact ⟨fun h => h.mp, fun h => ⟨h, AlikePayload.of_same⟩⟩
  · rw [hhash, not_and_not_right]
    exact ⟨fun h => h.mp, fun h => ⟨h, ReceivedBody.alike_of_same⟩⟩

/-! ## A member named `__proto__` -/

/-- `{"event": "charge.success", "__proto__": {"amount": null}}`. -/
def protoPayload : ParsedPayload where
  value := .object [(units "event", .leaf (.string (units "charge.success"))),
    (protoKey, .object [(units "amount", .leaf .null)])]
  distinct := by
    refine .object (by decide) fun m hm => ?_
    simp only [List.mem_cons, List.not_mem_nil, or_false] at hm
    rcases hm with rfl | rfl
    · exact .leaf _
    · refine .object (by decide) fun m hm => ?_
      obtain rfl := List.mem_singleton.mp hm
      exact .leaf _

/-- `{"event": "charge.success"}`. -/
def eventPayload : ParsedPayload where
  value := .object [(units "event", .leaf (.string (units "charge.success")))]
  distinct := by
    refine .object (by decide) fun m hm => ?_
    obtain rfl := List.mem_singleton.mp hm
    exact .leaf _

theorem protoPayload_not_same : ¬SamePayload protoPayload eventPayload := by
  rintro (_ | _ | ⟨hkeys, -⟩)
  exact absurd ((hkeys protoKey trivial).mp (by decide)) (by decide)

/-- The member is no part of the text, so the two payloads share every hash. -/
theorem proto_member_ignored :
    canonicalizeBillingPayload exponentNumbers protoPayload = "\x7b\"event\":\"charge.success\"\x7d".toList ∧
    canonicalizeBillingPayload exponentNumbers eventPayload = "\x7b\"event\":\"charge.success\"\x7d".toList ∧
    ¬SamePayload protoPayload eventPayload :=
  ⟨by decide, by decide, protoPayload_not_same⟩

/-- The digest of the text of both; no other digest is asked for. -/
def eventDigest (text : String) : String :=
  if text = "\x7b\"event\":\"charge.success\"\x7d" then
    "f475ef62ee94fae69349c754deec26c4b785764629243d946ac009605398ff58"
  else ""

/-- Nothing tells the two bodies apart. -/
theorem payload_hash_faithful_iff_proto :
    ¬((ReceivedBody.parsed protoPayload).payloadHash exponentNumbers eventDigest =
        (ReceivedBody.parsed eventPayload).payloadHash exponentNumbers eventDigest ↔
      (ReceivedBody.parsed protoPayload).Same (.parsed eventPayload)) := by
  have htext : canonicalizeBillingPayload exponentNumbers protoPayload =
      canonicalizeBillingPayload exponentNumbers eventPayload := by decide
  rw [(payload_hash_faithful_iff exponentNumbers (a := .parsed protoPayload) (b := .parsed eventPayload)
    fun _ => htext).2, not_not]
  exact ⟨(canonical_eq_iff exponentNumbers _ _).mp htext, protoPayload_not_same⟩

end VeltrixEye.Billing
