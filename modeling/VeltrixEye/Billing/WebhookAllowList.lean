import VeltrixEye.Lib.AddressPatterns
import VeltrixEye.Mutations.Ledger

/-!
# The source addresses of webhooks (`apps/api/src/webhook-allowlist.ts`)

* `parseIpToBits` — the number and the family of an address text.
* `parsePaystackWebhookAllowList`, `webhookIpAllowed` — the allow-list and its test.
* `Written` — an address without a zone: a quad, or a spelling in groups.
* `parseIpToBits_text`, `exists_written_of_parse` — the texts that are parsed, and as what.
-/

namespace VeltrixEye.Billing

open AddressText

/-! ## Addresses -/

/-- A parsed address. -/
structure IpBits where
  bits : ℕ
  family : ℕ
  deriving DecidableEq

/-- `\d{1,3}\.\d{1,3}\.\d{1,3}\.\d{1,3}`. -/
def isDottedQuad (text : List Char) : Bool :=
  (text.splitOn '.').length == 4 &&
    (text.splitOn '.').all fun part => part ≠ [] && part.length ≤ 3 && part.all (· ∈ decimalDigits)

/-- `ffff` in any case. -/
def isFfff (group : List Char) : Bool := group.length == 4 && group.all fun c => c = 'f' || c = 'F'

/-- `/^::ffff:(\d{1,3}\.\d{1,3}\.\d{1,3}\.\d{1,3})$/i`: the group of a match. -/
def mappedQuad : List Char → Option (List Char)
  | ':' :: ':' :: a :: b :: c :: d :: ':' :: rest =>
    if isFfff [a, b, c, d] ∧ isDottedQuad rest then some rest else none
  | _ => none

/-- The branch of an IPv4 text. -/
def parseIpv4Bits (candidate : List Char) : Option ℕ :=
  match (candidate.splitOn '.').map decimalValue with
  | [a, b, c, d] =>
    if [a, b, c, d].any (255 < ·) then none else some (a <<< 24 ||| b <<< 16 ||| c <<< 8 ||| d)
  | _ => none

/-- `/:(\d{1,3}\.\d{1,3}\.\d{1,3}\.\d{1,3})$/`: what is before the group of a match, and the group. -/
def v4Tail (work : List Char) : Option (List Char × List Char) :=
  match lastIndexOf ':' work with
  | none => none
  | some i =>
    if isDottedQuad (work.drop (i + 1)) then some (work.take (i + 1), work.drop (i + 1)) else none

/-- The embedded IPv4 tail as two groups. The tail has no colon, so that only its IPv4 branch can be taken. -/
def rewriteTail (address : List Char) : Option (List Char) :=
  match v4Tail address with
  | none => some address
  | some (before, tail) =>
    match if isIP tail = 4 then parseIpv4Bits tail else none with
    | none => none
    | some v4 =>
      let hi := Nat.toDigits 16 (v4 >>> 16 &&& 0xffff)
      let lo := Nat.toDigits 16 (v4 &&& 0xffff)
      some (before ++ (hi ++ ':' :: lo))

/-- The groups of a side. -/
def parseSide (side : List (List Char)) : Option (List ℕ) :=
  side.mapM fun group =>
    if group = [] ∨ 4 < group.length ∨ !group.all (· ∈ hexDigits) then none else some (hexValue group)

/-- Both callers pass eight groups. -/
def groupsToBits (groups : List ℕ) : ℕ := groups.foldl (fun bits group => bits <<< 16 ||| group) 0

def parseIpv6Bits (address : List Char) : Option ℕ :=
  if address = [] ∨ !address.all (fun c => c ∈ hexDigits ∨ c = ':' ∨ c = '.') then none
  else if 1 < (splitPairs address).length - 1 then none
  else
    match rewriteTail address with
    | none => none
    | some work =>
      let sides := match splitPairs work with
        | leftRaw :: rightRaw :: _ =>
          (splitGroups leftRaw, splitGroups rightRaw)
        | _ => (work.splitOn ':', [])
      match parseSide sides.1, parseSide sides.2 with
      | some left, some right =>
        if (splitPairs work).length = 1 then
          if left.length ≠ 8 then none else some (groupsToBits left)
        else if 7 < left.length + right.length then none
        else some (groupsToBits (left ++ List.replicate (8 - left.length - right.length) 0 ++ right))
      | _, _ => none

def parseIpToBits (address : List Char) : Option IpBits :=
  let candidate := (mappedQuad address).getD address
  if isIP candidate = 4 then (parseIpv4Bits candidate).map (⟨·, 4⟩)
  else if isIP candidate = 6 then (parseIpv6Bits candidate).map (⟨·, 6⟩)
  else none

/-! ## The allow-list -/

def PAYSTACK_DOCUMENTED_WEBHOOK_SOURCE_IPS : List (List Char) :=
  ["52.31.139.75".toList, "52.49.173.169".toList, "52.214.14.220".toList]

structure WebhookAllowListEntry where
  bits : ℕ
  family : ℕ
  prefixLength : ℕ
  raw : List Char

inductive AllowListError where
  | notAnAddress (entry : List Char)
  | prefixNotANumber (entry : List Char)
  | prefixOutOfRange (entry : List Char)

/-- `raw.split(/[,\s]+/)`, trimmed, in lower case, without the empty pieces: no piece has white space left to
    trim, and lower case is that of ASCII, no other character becoming one that an entry may have. -/
def allowListEntries (raw : List Char) : List (List Char) :=
  ((raw.splitOnP fun c => c = ',' || isJsWhitespace c).map (List.map Char.toLower)).filter (· ≠ [])

def maxBits (family : ℕ) : ℕ := if family = 4 then 32 else 128

def parseEntry (entry : List Char) : Except AllowListError WebhookAllowListEntry :=
  let slash := lastIndexOf '/' entry
  let address := match slash with
    | none => entry
    | some i => entry.take i
  match parseIpToBits address with
  | none => .error (.notAnAddress entry)
  | some ip =>
    match slash with
    | none => .ok ⟨ip.bits, ip.family, maxBits ip.family, entry⟩
    | some i =>
      let rawPrefix := entry.drop (i + 1)
      if rawPrefix = [] ∨ !rawPrefix.all (· ∈ decimalDigits) then .error (.prefixNotANumber entry)
      else if 0 < decimalValue rawPrefix ∧ decimalValue rawPrefix ≤ maxBits ip.family then
        .ok ⟨ip.bits, ip.family, decimalValue rawPrefix, entry⟩
      else .error (.prefixOutOfRange entry)

/-- The entries, or those that the provider documents. -/
def allowListSource (raw : List Char) : List (List Char) :=
  if allowListEntries raw = [] then PAYSTACK_DOCUMENTED_WEBHOOK_SOURCE_IPS else allowListEntries raw

def parsePaystackWebhookAllowList (raw : List Char) : Except AllowListError (List WebhookAllowListEntry) :=
  (allowListSource raw).mapM parseEntry

def entryAdmits (ip : IpBits) (entry : WebhookAllowListEntry) : Bool :=
  entry.family == ip.family &&
    entry.bits >>> (maxBits entry.family - entry.prefixLength) ==
      ip.bits >>> (maxBits entry.family - entry.prefixLength)

def webhookIpAllowed (address : List Char) (allowList : List WebhookAllowListEntry) : Bool :=
  match parseIpToBits address with
  | none => false
  | some ip => allowList.any (entryAdmits ip)

/-! ## Written addresses -/

/-- An address without a zone. -/
inductive Written where
  | quad (q : Quad) (plain : q.Plain)
  | groups (s : Spelling) (proper : s.Proper) (zone : s.zone = none)

/-- The quad of a spelling `::ffff:a.b.c.d`. -/
def mappedSpelling (s : Spelling) : Option Quad :=
  match s.left, s.right, s.quad with
  | [], some [g], some q => if isFfff g.text then some q else none
  | _, _, _ => none

namespace Written

def text : Written → List Char
  | quad q _ => q.text
  | groups s _ _ => s.text

/-- The address, an IPv4 one being the mapped one. -/
def value : Written → ℕ
  | quad q _ => 0xffff * 2 ^ 32 + q.value
  | groups s _ _ => s.value

/-- The quad of an address that is one, or is written as `::ffff:` and one. -/
def folded : Written → Option Quad
  | quad q _ => some q
  | groups s _ _ => mappedSpelling s

/-- What an address is parsed as. -/
def ip (w : Written) : IpBits :=
  match w.folded with
  | some q => ⟨q.value, 4⟩
  | none => ⟨w.value, 6⟩

end Written

theorem mappedSpelling_eq_some {s : Spelling} {q : Quad} : mappedSpelling s = some q ↔
    ∃ g : Group, isFfff g.text = true ∧ s.left = [] ∧ s.right = some [g] ∧ s.quad = some q := by
  obtain ⟨left, right, quad, zone⟩ := s
  unfold mappedSpelling
  simp only
  constructor
  · intro h
    split at h
    · rename_i g r
      split at h
      · rename_i hg
        exact ⟨g, hg, rfl, rfl, h⟩
      · cases h
    · cases h
  · rintro ⟨g, hg, rfl, rfl, rfl⟩
    simp only [hg, if_true]

/-! ## What is parsed -/

theorem isDottedQuad_text (q : Quad) : isDottedQuad q.text = true := by
  have hoctet : ∀ o : Octet, (o.text ≠ [] && o.text.length ≤ 3 && o.text.all (· ∈ decimalDigits)) = true := by
    intro o
    simp only [Bool.and_eq_true, decide_eq_true_iff, List.all_eq_true]
    exact ⟨⟨o.ne_nil, o.length_le⟩, o.digits⟩
  unfold isDottedQuad
  rw [q.splitOn_text]
  simp only [Quad.octets, List.map_cons, List.map_nil, List.all_cons, List.all_nil, hoctet]
  rfl

theorem dot_mem_of_isDottedQuad {t : List Char} (h : isDottedQuad t = true) : '.' ∈ t := by
  by_contra hfree
  rw [isDottedQuad, List.splitOn_eq_singleton hfree, Bool.and_eq_true] at h
  exact absurd (beq_iff_eq.mp h.1) (by simp)

theorem colon_not_mem_of_isDottedQuad {t : List Char} (h : isDottedQuad t = true) : ':' ∉ t := by
  intro hcolon
  have htext : ['.'].intercalate (t.splitOn '.') = t := List.intercalate_splitOn _
  rw [← htext] at hcolon
  rcases mem_of_mem_intercalate hcolon with h | ⟨part, hpart, hc⟩
  · cases h
  · rw [isDottedQuad, Bool.and_eq_true, List.all_eq_true] at h
    have hdigits := h.2 part hpart
    rw [Bool.and_eq_true, List.all_eq_true] at hdigits
    exact absurd (of_decide_eq_true (hdigits.2 ':' hc)) (by decide)

theorem mappedQuad_eq_some {address t : List Char} (h : mappedQuad address = some t) :
    ∃ g : Group, isFfff g.text = true ∧ isDottedQuad t = true ∧ address = ':' :: ':' :: (g.text ++ ':' :: t) := by
  unfold mappedQuad at h
  split at h
  · rename_i a b c d rest
    split at h
    · rename_i hboth
      obtain rfl := Option.some.inj h
      have hdigits : ∀ x ∈ [a, b, c, d], x ∈ hexDigits := by
        intro x hx
        have hall := hboth.1
        rw [isFfff, Bool.and_eq_true, List.all_eq_true] at hall
        have hcase := hall.2 x hx
        rw [Bool.or_eq_true, decide_eq_true_iff, decide_eq_true_iff] at hcase
        rcases hcase with rfl | rfl <;> decide
      exact ⟨⟨[a, b, c, d], List.cons_ne_nil _ _, by simp, hdigits⟩, hboth.1, hboth.2, rfl⟩
    · cases h
  · cases h

theorem mappedQuad_of_group {g : Group} (hg : isFfff g.text = true) {t : List Char}
    (ht : isDottedQuad t = true) : mappedQuad (':' :: ':' :: (g.text ++ ':' :: t)) = some t := by
  have hlength : g.text.length = 4 := beq_iff_eq.mp (Bool.and_eq_true_iff.mp hg).1
  obtain ⟨a, b, c, d, htext⟩ : ∃ a b c d, g.text = [a, b, c, d] := by
    match g.text, hlength with
    | [a, b, c, d], _ => exact ⟨a, b, c, d, rfl⟩
  rw [htext] at hg ⊢
  show (if isFfff [a, b, c, d] ∧ isDottedQuad t then some t else none) = some t
  rw [if_pos ⟨hg, ht⟩]

theorem or_octets {a b c d : ℕ} (hb : b < 256) (hc : c < 256) (hd : d < 256) :
    a <<< 24 ||| b <<< 16 ||| c <<< 8 ||| d = (a * 256 + b) * 65536 + (c * 256 + d) := by
  have hab : a <<< 24 ||| b <<< 16 = (a * 256 + b) <<< 16 := by
    rw [← Nat.shiftLeft_add_eq_or_of_lt (by rw [Nat.shiftLeft_eq]; omega)]
    simp only [Nat.shiftLeft_eq]
    ring
  have habc : (a * 256 + b) <<< 16 ||| c <<< 8 = ((a * 256 + b) * 256 + c) <<< 8 := by
    rw [← Nat.shiftLeft_add_eq_or_of_lt (by rw [Nat.shiftLeft_eq]; omega)]
    simp only [Nat.shiftLeft_eq]
    ring
  rw [hab, habc, shift_or hd]
  ring

theorem parseIpv4Bits_quad (q : Quad) : parseIpv4Bits q.text = some q.value := by
  have hany : [q.a.value, q.b.value, q.c.value, q.d.value].any (255 < ·) = false := by
    simp [Nat.not_lt.mpr (Nat.le_of_lt_succ q.a.value_lt), Nat.not_lt.mpr (Nat.le_of_lt_succ q.b.value_lt),
      Nat.not_lt.mpr (Nat.le_of_lt_succ q.c.value_lt), Nat.not_lt.mpr (Nat.le_of_lt_succ q.d.value_lt)]
  unfold parseIpv4Bits
  rw [q.splitOn_text]
  show (if [q.a.value, q.b.value, q.c.value, q.d.value].any (255 < ·) = true then none
    else some (q.a.value <<< 24 ||| q.b.value <<< 16 ||| q.c.value <<< 8 ||| q.d.value)) = _
  rw [hany, if_neg Bool.false_ne_true, or_octets q.b.value_lt q.c.value_lt q.d.value_lt]
  rfl

theorem v4Tail_quad (before : List Char) (q : Quad) :
    v4Tail (before ++ ':' :: q.text) = some (before ++ [':'], q.text) := by
  have hdrop : (before ++ ':' :: q.text).drop (before.length + 1) = q.text := by simp
  have htake : (before ++ ':' :: q.text).take (before.length + 1) = before ++ [':'] := by
    simp [List.take_append]
  unfold v4Tail
  rw [lastIndexOf_append q.colon_not_mem_text]
  simp only [hdrop, htake, isDottedQuad_text, if_true]

theorem v4Tail_of_not_mem {work : List Char} (h : '.' ∉ work) : v4Tail work = none := by
  unfold v4Tail
  split
  · rfl
  · rw [if_neg fun hquad => h (List.mem_of_mem_drop (dot_mem_of_isDottedQuad hquad))]

theorem isIP_quad {q : Quad} (h : q.Plain) : isIP q.text = 4 := isIP_eq_four_iff.mpr ⟨q, h, rfl⟩

theorem rewriteTail_body {s : Spelling} (h : s.Complete) (hplain : ∀ q ∈ s.quad, q.Plain) :
    rewriteTail s.body = some s.unquad.body := by
  cases hquad : s.quad with
  | none =>
    rw [rewriteTail, v4Tail_of_not_mem (Spelling.dot_not_mem_body hquad)]
    unfold Spelling.unquad
    rw [hquad]
  | some q =>
    obtain ⟨before, hbody, hun⟩ := Spelling.exists_body_unquad h hquad
    have hhigh : q.value >>> 16 &&& 0xffff = q.high := by
      have hlt := q.high_lt
      have hlow := q.low_lt
      rw [show (0xffff : ℕ) = 2 ^ 16 - 1 from rfl, Nat.and_two_pow_sub_one_eq_mod,
        Nat.shiftRight_eq_div_pow, Quad.value]
      omega
    have hlow : q.value &&& 0xffff = q.low := by
      have hlt := q.low_lt
      rw [show (0xffff : ℕ) = 2 ^ 16 - 1 from rfl, Nat.and_two_pow_sub_one_eq_mod, Quad.value]
      omega
    rw [hbody, hun, rewriteTail, v4Tail_quad]
    simp only [isIP_quad (hplain q hquad), if_true, parseIpv4Bits_quad, hhigh, hlow]
    simp [Group.ofNat]

theorem parseSide_groups (gs : List Group) :
    parseSide (gs.map Group.text) = some (gs.map Group.value) := by
  unfold parseSide
  induction gs with
  | nil => rfl
  | cons g gs ih =>
    have hgroup : ¬(g.text = [] ∨ 4 < g.text.length ∨ (!g.text.all (· ∈ hexDigits)) = true) := by
      rintro (h | h | h)
      · exact g.ne_nil h
      · exact absurd g.length_le (Nat.not_le.mpr h)
      · rw [Bool.not_eq_true', List.all_eq_false] at h
        obtain ⟨c, hc, hno⟩ := h
        exact hno (decide_eq_true (g.digits c hc))
    rw [List.map_cons, List.mapM_cons, if_neg hgroup, ih]
    rfl

theorem groupsToBits_eq {groups : List ℕ} (h : ∀ group ∈ groups, group < 65536) :
    groupsToBits groups = groups.foldl (fun n w => n * 65536 + w) 0 := by
  have hfold : ∀ (groups : List ℕ), (∀ group ∈ groups, group < 65536) → ∀ bits,
      groups.foldl (fun bits group => bits <<< 16 ||| group) bits =
        groups.foldl (fun n w => n * 65536 + w) bits := by
    intro groups
    induction groups with
    | nil => exact fun _ _ => rfl
    | cons group groups ih =>
      intro h bits
      rw [List.forall_mem_cons] at h
      have hstep : bits <<< 16 ||| group = bits * 65536 + group := shift_or h.1 bits
      rw [List.foldl_cons, List.foldl_cons, hstep]
      exact ih h.2 _
  exact hfold groups h 0

theorem parseIpv6Bits_body {s : Spelling} (h : s.Proper) : parseIpv6Bits s.body = some s.value := by
  have hcomplete := h.complete
  have hchars : ¬(s.body = [] ∨ (!s.body.all (fun c => c ∈ hexDigits ∨ c = ':' ∨ c = '.')) = true) := by
    rintro (hnil | hall)
    · exact absurd (Spelling.colon_mem_body hcomplete) (hnil ▸ List.not_mem_nil)
    · rw [Bool.not_eq_true', List.all_eq_false] at hall
      obtain ⟨c, hc, hno⟩ := hall
      refine hno (decide_eq_true ?_)
      rcases Spelling.mem_body hc with hc | hc | ⟨hc, -⟩
      · exact Or.inr (Or.inl hc)
      · exact Or.inl hc
      · exact Or.inr (Or.inr hc)
  have hpairs : ¬1 < (splitPairs s.body).length - 1 := by
    rw [s.splitPairs_body]
    split <;> simp
  unfold parseIpv6Bits
  rw [if_neg hchars, if_neg hpairs, rewriteTail_body hcomplete h.quad]
  have hvalue := Spelling.value_unquad hcomplete
  have hwords := fun w (hw : w ∈ s.unquad.words) => Spelling.lt_of_mem_words hw
  have hsize : if s.unquad.right.isSome then s.unquad.size ≤ 7 else s.unquad.size = 8 := by
    rw [s.size_unquad, s.isSome_right_unquad]
    exact h.size
  have hquad := s.unquad_quad
  rw [← hvalue]
  unfold Spelling.value
  rw [← groupsToBits_eq hwords]
  clear hwords hvalue hpairs hchars hcomplete h
  generalize s.unquad = u at *
  obtain ⟨left, right, quad, zone⟩ := u
  cases hquad
  simp only [Spelling.splitPairs_body]
  cases right with
  | none =>
    have height : left.length = 8 := hsize
    have hleft : ([':'].intercalate (Spelling.pieces left none)).splitOn ':' = left.map Group.text := by
      rw [splitOn_side fun _ => pieces_free, pieces_none, ← List.nil_append (left.map _), slot_append]
      · intro hnil
        rw [List.map_eq_nil_iff.mp hnil] at height
        cases height
    have hbody : (⟨left, none, none, zone⟩ : Spelling).body = [':'].intercalate (Spelling.pieces left none) :=
      rfl
    simp only [hbody, hleft, parseSide_groups]
    simp [parseSide, height, Spelling.words, Spelling.size]
  | some right =>
    have hle : left.length + right.length ≤ 7 := hsize
    have hfill : 8 - (left.length + right.length) = 8 - left.length - right.length := by omega
    simp only [splitGroups_side, parseSide_groups]
    simp [Nat.not_lt.mpr hle, Spelling.words, Spelling.size, hfill]

theorem body_eq_text {s : Spelling} (h : s.zone = none) : s.text = s.body := by
  rw [Spelling.text, h]
  exact List.append_nil _

theorem isIP_groups {s : Spelling} (h : s.Proper) : isIP s.text = 6 := isIP_eq_six_iff.mpr ⟨s, h, rfl⟩

theorem text_mapped {s : Spelling} {g : Group} {q : Quad} (hleft : s.left = [])
    (hright : s.right = some [g]) (hquad : s.quad = some q) (hzone : s.zone = none) :
    s.text = ':' :: ':' :: (g.text ++ ':' :: q.text) := by
  rw [body_eq_text hzone, Spelling.body, hright, hleft, hquad]
  simp [Spelling.pieces, List.intercalate_cons_cons]

theorem exists_quad_of_text {s : Spelling} (h : s.Complete) {before t : List Char}
    (htext : s.body = before ++ ':' :: t) (ht : isDottedQuad t = true) :
    ∃ q, s.quad = some q ∧ q.text = t := by
  have hcolon := colon_not_mem_of_isDottedQuad ht
  cases hquad : s.quad with
  | none =>
    have hdot : '.' ∈ s.body := by
      rw [htext]
      exact List.mem_append_right _ (List.mem_cons_of_mem _ (dot_mem_of_isDottedQuad ht))
    exact absurd hdot (Spelling.dot_not_mem_body hquad)
  | some q =>
    obtain ⟨init, -, hfields, -⟩ := Spelling.fields_unquad h hquad
    rw [← s.splitOn_body, htext, List.splitOn_append_cons_self, List.splitOn_eq_singleton hcolon] at hfields
    exact ⟨q, rfl, ((List.cons.inj (List.append_inj' hfields rfl).2).1).symm⟩

theorem mappedQuad_groups {s : Spelling} (hproper : s.Proper) (hzone : s.zone = none) :
    mappedQuad s.text = (mappedSpelling s).map Quad.text := by
  rcases hfold : mappedSpelling s with _ | q
  · rcases hmapped : mappedQuad s.text with _ | t
    · rfl
    · obtain ⟨g, hg, ht, htext⟩ := mappedQuad_eq_some hmapped
      have hbody : s.body = (':' :: ':' :: g.text) ++ ':' :: t := by rw [← body_eq_text hzone, htext]; rfl
      obtain ⟨q, hquad, rfl⟩ := exists_quad_of_text hproper.complete hbody ht
      have hsame : s = ⟨[], some [g], some q, none⟩ :=
        Spelling.text_injective (htext.trans (text_mapped rfl rfl rfl rfl).symm)
      have hsome := mappedSpelling_eq_some.mpr ⟨g, hg, congrArg Spelling.left hsame,
        congrArg Spelling.right hsame, hquad⟩
      rw [hfold] at hsome
      cases hsome
  · obtain ⟨g, hg, hleft, hright, hquad⟩ := mappedSpelling_eq_some.mp hfold
    rw [text_mapped hleft hright hquad hzone, mappedQuad_of_group hg (isDottedQuad_text q)]
    rfl

theorem mappedQuad_quad (q : Quad) : mappedQuad q.text = none := by
  rcases hmapped : mappedQuad q.text with _ | t
  · rfl
  · obtain ⟨g, -, -, htext⟩ := mappedQuad_eq_some hmapped
    exact absurd (htext ▸ List.mem_cons_self) q.colon_not_mem_text

theorem parseIpToBits_text (w : Written) : parseIpToBits w.text = some w.ip := by
  have hquad : ∀ q : Quad, q.Plain → (if isIP q.text = 4 then (parseIpv4Bits q.text).map (IpBits.mk · 4)
      else if isIP q.text = 6 then (parseIpv6Bits q.text).map (IpBits.mk · 6) else none) =
      some ⟨q.value, 4⟩ := by
    intro q hplain
    rw [if_pos (isIP_quad hplain), parseIpv4Bits_quad]
    rfl
  cases w with
  | quad q plain =>
    show parseIpToBits q.text = some ⟨q.value, 4⟩
    unfold parseIpToBits
    rw [mappedQuad_quad]
    exact hquad q plain
  | groups s proper zone =>
    show parseIpToBits s.text = some (match mappedSpelling s with
      | some q => ⟨q.value, 4⟩
      | none => ⟨s.value, 6⟩)
    unfold parseIpToBits
    rw [mappedQuad_groups proper zone]
    rcases hfold : mappedSpelling s with _ | q
    · simp only [Option.map_none, Option.getD_none]
      rw [isIP_groups proper, if_neg (by decide), if_pos rfl, body_eq_text zone, parseIpv6Bits_body proper]
      rfl
    · obtain ⟨-, -, -, -, hsome⟩ := mappedSpelling_eq_some.mp hfold
      exact hquad q (proper.quad q hsome)

theorem exists_written_of_parse {address : List Char} {ip : IpBits} (h : parseIpToBits address = some ip) :
    ∃ w : Written, w.text = address := by
  unfold parseIpToBits at h
  simp only at h
  rcases hmapped : mappedQuad address with _ | t
  · rw [hmapped, Option.getD_none] at h
    split at h
    · rename_i hfour
      obtain ⟨q, hplain, rfl⟩ := isIP_eq_four_iff.mp hfour
      exact ⟨.quad q hplain, rfl⟩
    · split at h
      · rename_i hsix
        obtain ⟨s, hproper, rfl⟩ := isIP_eq_six_iff.mp hsix
        have hzone : s.zone = none := by
          cases hzone : s.zone with
          | none => rfl
          | some z =>
            -- A zone has a percent sign, which the parser refuses.
            have hpercent : '%' ∈ s.text := by
              rw [Spelling.text, hzone]
              exact List.mem_append_right _ List.mem_cons_self
            obtain ⟨bits, hbits, -⟩ := Option.map_eq_some_iff.mp h
            rw [parseIpv6Bits, if_pos] at hbits
            · cases hbits
            · right
              rw [Bool.not_eq_true', List.all_eq_false]
              exact ⟨'%', hpercent, by decide⟩
        exact ⟨.groups s hproper hzone, rfl⟩
      · cases h
  · obtain ⟨g, hg, ht, rfl⟩ := mappedQuad_eq_some hmapped
    rw [hmapped, Option.getD_some] at h
    split at h
    · rename_i hfour
      obtain ⟨q, hplain, rfl⟩ := isIP_eq_four_iff.mp hfour
      have hproper : (⟨[], some [g], some q, none⟩ : Spelling).Proper := by
        refine ⟨by simp [Spelling.size], ?_, by simp⟩
        rintro _ ⟨⟩
        exact hplain
      exact ⟨.groups _ hproper rfl, text_mapped rfl rfl rfl rfl⟩
    · split at h
      · rename_i hsix
        obtain ⟨s, hproper, rfl⟩ := isIP_eq_six_iff.mp hsix
        exact absurd (List.mem_append_left _ (Spelling.colon_mem_body hproper.complete))
          (colon_not_mem_of_isDottedQuad ht)
      · cases h

end VeltrixEye.Billing
