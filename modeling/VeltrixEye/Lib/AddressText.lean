import VeltrixEye.Lib.Patterns

/-!
# Textual network addresses

The spellings of IPv4 and IPv6 addresses and the numbers they denote.

* `Spelling.fields_unquad`, `Spelling.exists_quad` — a trailing quad is two more groups.
* `Spelling.text_injective` — a text is spelled in one way.
-/

namespace AddressText

theorem mem_of_mem_intercalate {sep c : Char} {ps : List (List Char)} (h : c ∈ [sep].intercalate ps) :
    c = sep ∨ ∃ p ∈ ps, c ∈ p := by
  induction ps with
  | nil => cases h
  | cons p ps ih =>
    cases ps with
    | nil =>
      rw [List.intercalate_singleton] at h
      exact Or.inr ⟨p, List.mem_cons_self, h⟩
    | cons q ps =>
      rw [List.intercalate_cons_cons] at h
      rcases List.mem_append.mp h with h | h
      · rcases List.mem_append.mp h with h | h
        · exact Or.inr ⟨p, List.mem_cons_self, h⟩
        · exact Or.inl (List.mem_singleton.mp h)
      · rcases ih h with h | ⟨r, hr, hc⟩
        · exact Or.inl h
        · exact Or.inr ⟨r, List.mem_cons_of_mem _ hr, hc⟩

theorem intercalate_concat {ps : List (List Char)} (h : ps ≠ []) (t : List Char) :
    [':'].intercalate ps ++ [':'] ++ t = [':'].intercalate (ps ++ [t]) := by
  induction ps with
  | nil => exact absurd rfl h
  | cons p ps ih =>
    cases ps with
    | nil => simp [List.intercalate_cons_cons]
    | cons q ps =>
      have hcons : q :: ps ≠ [] := List.cons_ne_nil _ _
      have hne : q :: ps ++ [t] ≠ [] := List.cons_ne_nil _ _
      rw [List.cons_append, List.intercalate_cons_of_ne_nil hcons,
        List.intercalate_cons_of_ne_nil hne, ← ih (List.cons_ne_nil _ _)]
      simp only [List.append_assoc]

/-- The last position of a character. -/
def lastIndexOf (c : Char) : List Char → Option ℕ
  | [] => none
  | d :: rest =>
    match lastIndexOf c rest with
    | some i => some (i + 1)
    | none => if d = c then some 0 else none

theorem lastIndexOf_of_not_mem {c : Char} {text : List Char} (h : c ∉ text) :
    lastIndexOf c text = none := by
  induction text with
  | nil => rfl
  | cons d rest ih =>
    rw [List.mem_cons, not_or] at h
    rw [lastIndexOf, ih h.2]
    exact if_neg (Ne.symm h.1)

theorem lastIndexOf_append {c : Char} {b : List Char} (h : c ∉ b) (a : List Char) :
    lastIndexOf c (a ++ c :: b) = some a.length := by
  induction a with
  | nil =>
    rw [List.nil_append, lastIndexOf, lastIndexOf_of_not_mem h]
    exact if_pos rfl
  | cons d a ih => rw [List.cons_append, lastIndexOf, ih, List.length_cons]

theorem exists_of_mem_last {c : Char} {text : List Char} (h : c ∈ text) :
    ∃ a b, text = a ++ c :: b ∧ c ∉ b := by
  obtain ⟨b, a, hsplit, hfree⟩ := List.eq_append_cons_of_mem (List.mem_reverse.mpr h)
  refine ⟨a.reverse, b.reverse, ?_, by rwa [List.mem_reverse]⟩
  rw [← List.reverse_reverse text, hsplit]
  simp

/-! ## Digits -/

def decimalDigits : List Char := "0123456789".toList

def hexDigits : List Char := decimalDigits ++ "abcdefABCDEF".toList

def hexDigitValue (c : Char) : ℕ :=
  if c.isDigit then c.toNat - 48 else if 'a' ≤ c then c.toNat - 87 else c.toNat - 55

def hexValue (text : List Char) : ℕ := text.foldl (fun n c => n * 16 + hexDigitValue c) 0

def decimalValue (text : List Char) : ℕ := Nat.ofDigitChars 10 text 0

theorem hexDigitValue_lt {c : Char} (h : c ∈ hexDigits) : hexDigitValue c < 16 := by
  have hall : hexDigits.all (hexDigitValue · < 16) = true := by decide
  exact of_decide_eq_true (List.all_eq_true.mp hall c h)

theorem hexValue_concat (text : List Char) (c : Char) :
    hexValue (text ++ [c]) = hexValue text * 16 + hexDigitValue c := by
  rw [hexValue, List.foldl_concat]
  rfl

theorem hexValue_lt {text : List Char} (h : ∀ c ∈ text, c ∈ hexDigits) :
    hexValue text < 16 ^ text.length := by
  induction text using List.reverseRecOn with
  | nil => decide
  | append_singleton text c ih =>
    have hc := hexDigitValue_lt (h c (by simp))
    have hlt := ih fun d hd => h d (List.mem_append_left _ hd)
    rw [hexValue_concat, List.length_append, List.length_singleton, pow_succ]
    omega

theorem hexDigit_digitChar : ∀ n : Fin 16,
    hexDigitValue (Nat.digitChar n) = n ∧ Nat.digitChar n ∈ hexDigits := by decide

theorem hexValue_toDigits (n : ℕ) :
    hexValue (Nat.toDigits 16 n) = n ∧ ∀ c ∈ Nat.toDigits 16 n, c ∈ hexDigits := by
  induction n using Nat.strong_induction_on with
  | _ n ih =>
    rw [Nat.toDigits_eq_if (by decide)]
    split
    · rename_i hlt
      have hdigit := hexDigit_digitChar ⟨n, hlt⟩
      exact ⟨by simpa [hexValue] using hdigit.1, by simpa using hdigit.2⟩
    · rename_i hge
      have hdigit := hexDigit_digitChar ⟨n % 16, Nat.mod_lt _ (by decide)⟩
      obtain ⟨hvalue, hmem⟩ := ih (n / 16) (by omega)
      refine ⟨?_, ?_⟩
      · rw [hexValue_concat, hvalue, hdigit.1]
        exact Nat.div_add_mod' n 16
      · intro c hc
        rcases List.mem_append.mp hc with hc | hc
        · exact hmem c hc
        · rw [List.mem_singleton.mp hc]
          exact hdigit.2

theorem shift_or {n k : ℕ} (h : n < 2 ^ k) (value : ℕ) : value <<< k ||| n = value * 2 ^ k + n := by
  rw [← Nat.shiftLeft_add_eq_or_of_lt h, Nat.shiftLeft_eq]

/-! ## IPv4 -/

/-- A decimal octet, leading zeros allowed. -/
structure Octet where
  text : List Char
  ne_nil : text ≠ []
  length_le : text.length ≤ 3
  digits : ∀ c ∈ text, c ∈ decimalDigits
  value_le : decimalValue text ≤ 255

@[ext] theorem Octet.ext {o p : Octet} (h : o.text = p.text) : o = p := by
  cases o
  cases p
  cases h
  rfl

def Octet.value (o : Octet) : ℕ := decimalValue o.text

/-- Without leading zeros. -/
def Octet.Plain (o : Octet) : Prop := o.text.head? = some '0' → o.text = ['0']

/-- `a.b.c.d`. -/
structure Quad where
  a : Octet
  b : Octet
  c : Octet
  d : Octet

def Quad.octets (q : Quad) : List Octet := [q.a, q.b, q.c, q.d]

def Quad.text (q : Quad) : List Char := ['.'].intercalate (q.octets.map Octet.text)

def Quad.high (q : Quad) : ℕ := q.a.value * 256 + q.b.value

def Quad.low (q : Quad) : ℕ := q.c.value * 256 + q.d.value

def Quad.value (q : Quad) : ℕ := q.high * 65536 + q.low

def Quad.Plain (q : Quad) : Prop := ∀ o ∈ q.octets, o.Plain

theorem Octet.free (o : Octet) {c : Char} (hc : c ∉ decimalDigits) : c ∉ o.text :=
  fun h => hc (o.digits c h)

theorem Quad.splitOn_text (q : Quad) : q.text.splitOn '.' = q.octets.map Octet.text := by
  refine List.splitOn_intercalate _ ?_ (by simp [Quad.octets])
  intro t ht
  obtain ⟨o, -, rfl⟩ := List.mem_map.mp ht
  exact o.free (by decide)

theorem Quad.mem_text {q : Quad} {c : Char} (h : c ∈ q.text) : c = '.' ∨ c ∈ decimalDigits := by
  rcases mem_of_mem_intercalate h with rfl | ⟨t, ht, hc⟩
  · exact Or.inl rfl
  · obtain ⟨o, -, rfl⟩ := List.mem_map.mp ht
    exact Or.inr (o.digits c hc)

theorem Quad.colon_not_mem_text (q : Quad) : ':' ∉ q.text := by
  intro h
  rcases Quad.mem_text h with h | h
  · cases h
  · exact absurd h (by decide)

theorem Quad.dot_mem_text (q : Quad) : '.' ∈ q.text := by
  simp [Quad.text, Quad.octets, List.intercalate_cons_cons]

theorem Quad.dot_mem_dropLast (q : Quad) : '.' ∈ q.text.dropLast := by
  have htext : q.text = (q.a.text ++ '.' :: q.b.text ++ '.' :: q.c.text ++ ['.']) ++ q.d.text := by
    simp [Quad.text, Quad.octets, List.intercalate_cons_cons]
  rw [htext, List.dropLast_append_of_ne_nil q.d.ne_nil]
  exact List.mem_append_left _ (List.mem_append_right _ List.mem_cons_self)

theorem Octet.value_lt (o : Octet) : o.value < 256 := Nat.lt_succ_of_le o.value_le

theorem Quad.high_lt (q : Quad) : q.high < 65536 := by
  have ha := q.a.value_lt
  have hb := q.b.value_lt
  unfold Quad.high
  omega

theorem Quad.low_lt (q : Quad) : q.low < 65536 := by
  have hc := q.c.value_lt
  have hd := q.d.value_lt
  unfold Quad.low
  omega

/-! ## IPv6 -/

/-- A group of one to four hexadecimal digits. -/
structure Group where
  text : List Char
  ne_nil : text ≠ []
  length_le : text.length ≤ 4
  digits : ∀ c ∈ text, c ∈ hexDigits

@[ext] theorem Group.ext {g h : Group} (htext : g.text = h.text) : g = h := by
  cases g
  cases h
  cases htext
  rfl

def Group.value (g : Group) : ℕ := hexValue g.text

theorem Group.value_lt (g : Group) : g.value < 65536 :=
  (hexValue_lt g.digits).trans_le (Nat.pow_le_pow_right (by decide) g.length_le)

/-- The shortest group of a number. -/
def Group.ofNat (n : ℕ) (h : n < 65536) : Group where
  text := Nat.toDigits 16 n
  ne_nil := Nat.toDigits_ne_nil
  length_le := (Nat.length_toDigits_le_iff (by decide) (by decide)).mpr h
  digits := (hexValue_toDigits n).2

@[simp] theorem Group.value_ofNat (n : ℕ) (h : n < 65536) : (Group.ofNat n h).value = n :=
  (hexValue_toDigits n).1

/-- The groups before `::`, if there is one, those after it, a trailing quad and a zone. -/
structure Spelling where
  left : List Group
  right : Option (List Group)
  quad : Option Quad
  zone : Option (List Char)

namespace Spelling

variable (s : Spelling)

/-- The groups that are written, a quad counting as two. -/
def size : ℕ := s.left.length + (s.right.getD []).length + if s.quad.isSome then 2 else 0

/-- The spelling writes eight groups, `::` standing for those that are missing. -/
def Complete : Prop := if s.right.isSome then s.size ≤ 8 else s.size = 8

def zoneChars : List Char :=
  "0123456789abcdefghijklmnopqrstuvwxyzABCDEFGHIJKLMNOPQRSTUVWXYZ-.:".toList

/-- A standard spelling: `::` stands for a group at least, octets have no leading zeros, and the zone is
    not empty. -/
structure Proper : Prop where
  size : if s.right.isSome then s.size ≤ 7 else s.size = 8
  quad : ∀ q ∈ s.quad, q.Plain
  zone : ∀ z ∈ s.zone, z ≠ [] ∧ ∀ c ∈ z, c ∈ zoneChars

theorem Proper.complete {s : Spelling} (h : s.Proper) : s.Complete := by
  have hsize := h.size
  unfold Complete
  split at hsize
  · rename_i hright
    rw [if_pos hright]
    omega
  · rename_i hright
    rwa [if_neg hright]

/-- The written groups and quad of a side. -/
def pieces (groups : List Group) (quad : Option Quad) : List (List Char) :=
  groups.map Group.text ++ (quad.map Quad.text).toList

/-- The text before the zone. -/
def body : List Char :=
  match s.right with
  | none => [':'].intercalate (pieces s.left s.quad)
  | some right => [':'].intercalate (pieces s.left none) ++ ':' :: ':' :: [':'].intercalate (pieces right s.quad)

def text : List Char := s.body ++ (s.zone.map ('%' :: ·)).getD []

/-- The eight groups of the address. -/
def words : List ℕ :=
  s.left.map Group.value ++ List.replicate (8 - s.size) 0 ++ (s.right.getD []).map Group.value ++
    (s.quad.map fun q => [q.high, q.low]).getD []

/-- The address. -/
def value : ℕ := s.words.foldl (fun n w => n * 65536 + w) 0

end Spelling

/-! ## Fields -/

theorem Group.free (g : Group) {c : Char} (hc : c ∉ hexDigits) : c ∉ g.text :=
  fun h => hc (g.digits c h)

theorem mem_pieces {groups : List Group} {quad : Option Quad} {p : List Char}
    (h : p ∈ Spelling.pieces groups quad) :
    (∃ g ∈ groups, g.text = p) ∨ ∃ q, quad = some q ∧ q.text = p := by
  rcases List.mem_append.mp h with h | h
  · exact Or.inl (List.mem_map.mp h)
  · obtain ⟨q, hq, rfl⟩ := Option.map_eq_some_iff.mp (Option.mem_toList.mp h)
    exact Or.inr ⟨q, hq, rfl⟩

theorem Quad.text_ne_nil (q : Quad) : q.text ≠ [] := List.ne_nil_of_mem q.dot_mem_text

theorem pieces_append (gs hs : List Group) (quad : Option Quad) :
    Spelling.pieces (gs ++ hs) quad = gs.map Group.text ++ Spelling.pieces hs quad := by
  unfold Spelling.pieces
  rw [List.map_append, List.append_assoc]

theorem pieces_none (gs : List Group) : Spelling.pieces gs none = gs.map Group.text :=
  List.append_nil _

theorem pieces_free {groups : List Group} {quad : Option Quad} {p : List Char}
    (h : p ∈ Spelling.pieces groups quad) : p ≠ [] ∧ ':' ∉ p := by
  rcases mem_pieces h with ⟨g, -, rfl⟩ | ⟨q, -, rfl⟩
  · exact ⟨g.ne_nil, g.free (by decide)⟩
  · exact ⟨q.text_ne_nil, q.colon_not_mem_text⟩

/-- What splitting the text of a side at the colons yields. -/
def slot : List (List Char) → List (List Char)
  | [] => [[]]
  | p :: ps => p :: ps

theorem slot_append (ps : List (List Char)) {qs : List (List Char)} (h : qs ≠ []) :
    slot (ps ++ qs) = ps ++ qs := by
  cases ps with
  | nil =>
    cases qs with
    | nil => exact absurd rfl h
    | cons q qs => rfl
  | cons p ps => rfl

theorem exists_of_slot_append {before ps init : List (List Char)} {p q : List Char}
    (h : before ++ [] :: slot ps = init ++ [p, q]) (hne : ∀ t ∈ [p, q], t ≠ []) :
    ∃ start, ps = start ++ [p, q] := by
  rcases List.eq_nil_or_concat ps with rfl | ⟨ps, y, rfl⟩
  · have hsplit : (before ++ [[]]) ++ [[]] = (init ++ [p]) ++ [q] := by simpa [slot] using h
    have hlast : [[]] = [q] := (List.append_inj' hsplit rfl).2
    exact absurd (List.cons.inj hlast).1.symm (hne q (by simp))
  · rw [List.concat_eq_append, slot_append _ (List.cons_ne_nil _ _)] at h
    rcases List.eq_nil_or_concat ps with rfl | ⟨ps, x, rfl⟩
    · have hlast : [[], y] = [p, q] := (List.append_inj' h rfl).2
      exact absurd (List.cons.inj hlast).1.symm (hne p (by simp))
    · have hsplit : (before ++ [] :: ps) ++ [x, y] = init ++ [p, q] := by simpa using h
      have hlast : [x, y] = [p, q] := (List.append_inj' hsplit rfl).2
      exact ⟨ps, by rw [← hlast]; simp⟩

theorem splitOn_side {ps : List (List Char)} (h : ∀ p ∈ ps, p ≠ [] ∧ ':' ∉ p) :
    ([':'].intercalate ps).splitOn ':' = slot ps := by
  cases ps with
  | nil => rfl
  | cons p ps => exact List.splitOn_intercalate _ (fun l hl => (h l hl).2) (List.cons_ne_nil _ _)

namespace Spelling

/-- The body split at the colons. -/
def fields (s : Spelling) : List (List Char) :=
  match s.right with
  | none => slot (pieces s.left s.quad)
  | some right => slot (pieces s.left none) ++ [] :: slot (pieces right s.quad)

theorem splitOn_body (s : Spelling) : s.body.splitOn ':' = s.fields := by
  unfold body fields
  cases s.right with
  | none => exact splitOn_side fun _ => pieces_free
  | some right =>
    simp only
    rw [List.splitOn_append_cons_self, splitOn_side fun _ => pieces_free,
      show (':' :: [':'].intercalate (pieces right s.quad)) =
        [] ++ ':' :: [':'].intercalate (pieces right s.quad) from rfl,
      List.splitOn_append_cons_self_of_not_mem List.not_mem_nil, splitOn_side fun _ => pieces_free]

theorem intercalate_fields (s : Spelling) : [':'].intercalate s.fields = s.body := by
  rw [← splitOn_body, List.intercalate_splitOn]

theorem length_fields {s : Spelling} (h : s.Complete) : 1 < s.fields.length := by
  obtain ⟨left, right, quad, zone⟩ := s
  cases right with
  | none =>
    have hsize : left.length + 0 + (if quad.isSome then 2 else 0) = 8 := h
    have hleft : 6 ≤ left.length := by split at hsize <;> omega
    match left, hleft with
    | g :: g' :: left, _ => simp [fields, pieces, slot]
  | some right =>
    have hslot : ∀ ps : List (List Char), 0 < (slot ps).length := by
      intro ps
      cases ps <;> exact Nat.succ_pos _
    have hleft := hslot (pieces left none)
    show 1 < (slot (pieces left none) ++ [] :: slot (pieces right quad)).length
    rw [List.length_append, List.length_cons]
    omega

theorem colon_mem_body {s : Spelling} (h : s.Complete) : ':' ∈ s.body := by
  by_contra hfree
  have hlength := length_fields h
  rw [← splitOn_body, List.splitOn_eq_singleton hfree, List.length_singleton] at hlength
  exact absurd hlength (by decide)

theorem mem_body {s : Spelling} {c : Char} (h : c ∈ s.body) :
    c = ':' ∨ c ∈ hexDigits ∨ c = '.' ∧ s.quad.isSome := by
  have hside : ∀ {gs : List Group} {quad : Option Quad}, c ∈ [':'].intercalate (pieces gs quad) →
      c = ':' ∨ c ∈ hexDigits ∨ c = '.' ∧ quad.isSome := by
    intro gs quad hc
    rcases mem_of_mem_intercalate hc with rfl | ⟨p, hp, hc⟩
    · exact Or.inl rfl
    · rcases mem_pieces hp with ⟨g, -, rfl⟩ | ⟨q, rfl, rfl⟩
      · exact Or.inr (Or.inl (g.digits c hc))
      · rcases Quad.mem_text hc with rfl | hc
        · exact Or.inr (Or.inr ⟨rfl, rfl⟩)
        · exact Or.inr (Or.inl (List.mem_append_left _ hc))
  unfold body at h
  split at h
  · exact hside h
  rcases List.mem_append.mp h with h | h
  · rcases hside h with h | h | ⟨-, h⟩
    · exact Or.inl h
    · exact Or.inr (Or.inl h)
    · cases h
  · rcases List.mem_cons.mp h with rfl | h
    · exact Or.inl rfl
    · rcases List.mem_cons.mp h with rfl | h
      · exact Or.inl rfl
      · exact hside h

theorem percent_not_mem_body (s : Spelling) : '%' ∉ s.body := by
  intro h
  rcases mem_body h with h | h | ⟨h, -⟩
  · cases h
  · exact absurd h (by decide)
  · cases h

theorem dot_not_mem_body {s : Spelling} (hquad : s.quad = none) : '.' ∉ s.body := by
  intro h
  rcases mem_body h with h | h | ⟨-, h⟩
  · cases h
  · exact absurd h (by decide)
  · rw [hquad] at h
    cases h

/-! ## The trailing quad -/

/-- The two groups of a quad. -/
def quadGroups (q : Quad) : List Group := [Group.ofNat q.high q.high_lt, Group.ofNat q.low q.low_lt]

/-- The spelling with its quad written as groups. -/
def unquad (s : Spelling) : Spelling :=
  match s.quad with
  | none => s
  | some q =>
    match s.right with
    | none => { s with left := s.left ++ quadGroups q, quad := none }
    | some right => { s with right := some (right ++ quadGroups q), quad := none }

theorem unquad_quad (s : Spelling) : s.unquad.quad = none := by
  unfold unquad
  split
  · assumption
  · split <;> rfl

theorem size_unquad (s : Spelling) : s.unquad.size = s.size := by
  obtain ⟨left, right, quad, zone⟩ := s
  cases quad with
  | none => rfl
  | some q =>
    cases right with
    | none => simp [unquad, size, quadGroups]
    | some right => simp [unquad, size, quadGroups]; omega

theorem zone_unquad (s : Spelling) : s.unquad.zone = s.zone := by
  obtain ⟨left, right, quad, zone⟩ := s
  cases quad <;> cases right <;> rfl

theorem isSome_right_unquad (s : Spelling) : s.unquad.right.isSome = s.right.isSome := by
  obtain ⟨left, right, quad, zone⟩ := s
  cases quad <;> cases right <;> rfl

theorem complete_unquad {s : Spelling} : s.unquad.Complete ↔ s.Complete := by
  unfold Complete
  rw [size_unquad, isSome_right_unquad]

theorem value_unquad {s : Spelling} (h : s.Complete) : s.unquad.value = s.value := by
  have hsize := s.size_unquad
  obtain ⟨left, right, quad, zone⟩ := s
  cases quad with
  | none => rfl
  | some q =>
    unfold value words
    rw [hsize]
    cases right with
    | none =>
      have hfull : 8 - (⟨left, none, some q, zone⟩ : Spelling).size = 0 := by
        rw [show (⟨left, none, some q, zone⟩ : Spelling).size = 8 from h]
      simp [unquad, quadGroups, hfull]
    | some right => simp [unquad, quadGroups]

theorem fields_unquad {s : Spelling} (h : s.Complete) {q : Quad} (hq : s.quad = some q) :
    ∃ init, init ≠ [] ∧ s.fields = init ++ [q.text] ∧
      s.unquad.fields = init ++ (quadGroups q).map Group.text := by
  obtain ⟨left, right, quad, zone⟩ := s
  cases hq
  cases right with
  | none =>
    have hsize : left.length = 6 := Nat.add_right_cancel (m := 2) h
    refine ⟨left.map Group.text, ?_, slot_append _ (by simp), ?_⟩
    · rw [Ne, List.map_eq_nil_iff]
      rintro rfl
      cases hsize
    · show slot (pieces (left ++ quadGroups q) none) = _
      rw [pieces_append, pieces_none]
      exact slot_append _ (List.cons_ne_nil _ _)
  | some right =>
    refine ⟨slot (pieces left none) ++ [] :: right.map Group.text, by simp, ?_, ?_⟩
    · show _ ++ [] :: slot (right.map Group.text ++ [q.text]) = _
      rw [slot_append _ (List.cons_ne_nil _ _), List.append_assoc, List.cons_append]
    · show slot (pieces left none) ++ [] :: slot (pieces (right ++ quadGroups q) none) = _
      have hne : (quadGroups q).map Group.text ≠ [] := List.cons_ne_nil _ _
      rw [pieces_append, pieces_none (quadGroups q), slot_append _ hne, List.append_assoc,
        List.cons_append]

theorem exists_body_unquad {s : Spelling} (h : s.Complete) {q : Quad} (hq : s.quad = some q) :
    ∃ before, s.body = before ++ ':' :: q.text ∧
      s.unquad.body = before ++ ':' :: (Group.ofNat q.high q.high_lt).text ++
        ':' :: (Group.ofNat q.low q.low_lt).text := by
  obtain ⟨init, hne, hfields, hun⟩ := fields_unquad h hq
  have hsplit : init ++ (quadGroups q).map Group.text =
      (init ++ [(Group.ofNat q.high q.high_lt).text]) ++ [(Group.ofNat q.low q.low_lt).text] := by
    simp [quadGroups]
  refine ⟨[':'].intercalate init, ?_, ?_⟩
  · rw [← s.intercalate_fields, hfields, ← intercalate_concat hne, List.append_assoc,
      List.singleton_append]
  · rw [← s.unquad.intercalate_fields, hun, hsplit, ← intercalate_concat (by simp),
      ← intercalate_concat hne]
    simp

theorem exists_quad {s : Spelling} (h : s.Complete) (hquad : s.quad = none) {q : Quad}
    {init : List (List Char)} (hfields : s.fields = init ++ (quadGroups q).map Group.text) :
    ∃ t : Spelling, t.Complete ∧ t.zone = s.zone ∧ t.fields = init ++ [q.text] ∧ t.value = s.value := by
  have key : ∃ t : Spelling, t.quad = some q ∧ t.unquad = s := by
    obtain ⟨left, right, quad, zone⟩ := s
    cases hquad
    cases right with
    | none =>
      have hleft : left.map Group.text = init ++ (quadGroups q).map Group.text := by
        have hne : left ≠ [] := by
          rintro rfl
          cases h
        rw [← hfields]
        show _ = slot (left.map Group.text ++ [])
        rw [List.append_nil, ← List.nil_append (left.map _), slot_append _ (by simpa using hne)]
      obtain ⟨before, last, rfl, -, hlast⟩ := List.map_eq_append_iff.mp hleft
      rw [List.map_injective_iff.mpr (fun _ _ => Group.ext) hlast]
      exact ⟨⟨before, none, some q, zone⟩, rfl, rfl⟩
    | some right =>
      have hright : ∃ before, right.map Group.text = before ++ (quadGroups q).map Group.text := by
        have hend : slot (pieces left none) ++ [] :: slot (right.map Group.text) =
            init ++ (quadGroups q).map Group.text := by
          rw [← hfields]
          show _ = _ ++ [] :: slot (pieces right none)
          rw [pieces_none right]
        refine exists_of_slot_append hend fun t ht => ?_
        obtain ⟨g, -, rfl⟩ := (List.mem_map (l := quadGroups q)).mp ht
        exact g.ne_nil
      obtain ⟨before', hright⟩ := hright
      obtain ⟨before, last, rfl, -, hlast⟩ := List.map_eq_append_iff.mp hright
      rw [List.map_injective_iff.mpr (fun _ _ => Group.ext) hlast]
      exact ⟨⟨left, some before, some q, zone⟩, rfl, rfl⟩
  obtain ⟨t, hq, rfl⟩ := key
  have ht := complete_unquad.mp h
  obtain ⟨init', -, hfull, hun⟩ := fields_unquad ht hq
  rw [hun] at hfields
  exact ⟨t, ht, t.zone_unquad.symm, by rw [hfull, (List.append_inj' hfields rfl).1],
    (value_unquad ht).symm⟩

/-! ## The bounds of the value -/

theorem Complete.size_le {s : Spelling} (h : s.Complete) : s.size ≤ 8 := by
  unfold Complete at h
  split at h
  · exact h
  · exact h.le

theorem length_words {s : Spelling} (h : s.Complete) : s.words.length = 8 := by
  have hle := h.size_le
  obtain ⟨left, right, quad, zone⟩ := s
  have hsize : (⟨left, right, quad, zone⟩ : Spelling).size =
      left.length + (right.getD []).length + if quad.isSome then 2 else 0 := rfl
  unfold words
  cases quad with
  | none =>
    simp only [Option.isSome_none, Bool.false_eq_true, if_false] at hsize
    simp only [List.length_append, List.length_map, List.length_replicate, Option.map_none,
      Option.getD_none, List.length_nil]
    omega
  | some q =>
    simp only [Option.isSome_some, if_true] at hsize
    simp only [List.length_append, List.length_map, List.length_replicate, Option.map_some,
      Option.getD_some, List.length_cons, List.length_nil]
    omega

theorem lt_of_mem_words {s : Spelling} {w : ℕ} (h : w ∈ s.words) : w < 65536 := by
  unfold words at h
  rcases List.mem_append.mp h with h | h
  · rcases List.mem_append.mp h with h | h
    · rcases List.mem_append.mp h with h | h
      · obtain ⟨g, -, rfl⟩ := List.mem_map.mp h
        exact g.value_lt
      · rw [List.eq_of_mem_replicate h]
        decide
    · obtain ⟨g, -, rfl⟩ := List.mem_map.mp h
      exact g.value_lt
  · cases hquad : s.quad with
    | none =>
      rw [hquad] at h
      cases h
    | some q =>
      rw [hquad] at h
      rcases List.mem_cons.mp h with rfl | h
      · exact q.high_lt
      · rw [List.mem_singleton.mp h]
        exact q.low_lt

theorem foldl_words_lt {ws : List ℕ} (h : ∀ w ∈ ws, w < 65536) {n k : ℕ} (hn : n < 65536 ^ k) :
    ws.foldl (fun n w => n * 65536 + w) n < 65536 ^ (k + ws.length) := by
  induction ws generalizing n k with
  | nil => exact hn
  | cons w ws ih =>
    rw [List.forall_mem_cons] at h
    have hstep : n * 65536 + w < 65536 ^ (k + 1) := by
      rw [pow_succ]
      omega
    rw [List.foldl_cons, List.length_cons, ← Nat.add_assoc, Nat.add_right_comm]
    exact ih h.2 hstep

theorem value_lt {s : Spelling} (h : s.Complete) : s.value < 2 ^ 128 := by
  have hlt := foldl_words_lt (fun w (hw : w ∈ s.words) => lt_of_mem_words hw) (show 0 < 65536 ^ 0 by decide)
  rw [length_words h] at hlt
  exact hlt

end Spelling

/-! ## Cutting at `::` -/

/-- The text split at each `::`, from the left. -/
def splitPairs : List Char → List (List Char)
  | [] => [[]]
  | [c] => [[c]]
  | c :: d :: rest =>
    if c = ':' ∧ d = ':' then [] :: splitPairs rest else (splitPairs (d :: rest)).modifyHead (c :: ·)

theorem splitPairs_cons_cons (c d : Char) (rest : List Char) : splitPairs (c :: d :: rest) =
    if c = ':' ∧ d = ':' then [] :: splitPairs rest else (splitPairs (d :: rest)).modifyHead (c :: ·) :=
  rfl

theorem intercalate_splitPairs (text : List Char) : [':', ':'].intercalate (splitPairs text) = text ∧
    splitPairs text ≠ [] := by
  induction text using splitPairs.induct with
  | case1 => exact ⟨rfl, List.cons_ne_nil _ _⟩
  | case2 c => exact ⟨rfl, List.cons_ne_nil _ _⟩
  | case3 c d rest hpair ih =>
    rw [splitPairs_cons_cons, if_pos hpair, hpair.1, hpair.2]
    exact ⟨by rw [List.intercalate_cons_of_ne_nil ih.2, ih.1]; rfl, List.cons_ne_nil _ _⟩
  | case4 c d rest hpair ih =>
    rw [splitPairs_cons_cons, if_neg hpair]
    obtain ⟨htext, hne⟩ := ih
    obtain ⟨head, tail, heq⟩ := List.exists_cons_of_ne_nil hne
    rw [heq] at htext ⊢
    refine ⟨?_, List.cons_ne_nil _ _⟩
    rw [List.modifyHead_cons, List.intercalate_cons_cons_left, htext]

theorem splitPairs_cons_of_ne {c : Char} (hc : c ≠ ':') (text : List Char) :
    splitPairs (c :: text) = (splitPairs text).modifyHead (c :: ·) := by
  cases text with
  | nil => rfl
  | cons d rest => rw [splitPairs_cons_cons, if_neg fun h => hc h.1]

theorem splitPairs_append_of_free {free : List Char} (h : ':' ∉ free) (text : List Char) :
    splitPairs (free ++ text) = (splitPairs text).modifyHead (free ++ ·) := by
  induction free with
  | nil => exact (congrFun List.modifyHead_id (splitPairs text)).symm
  | cons c free ih =>
    rw [List.cons_append, splitPairs_cons_of_ne (fun hc => h (hc ▸ List.mem_cons_self)),
      ih fun hm => h (List.mem_cons_of_mem _ hm), List.modifyHead_modifyHead]
    rfl

theorem splitPairs_colon_append {piece : List Char} (hne : piece ≠ []) (hfree : ':' ∉ piece)
    (text : List Char) :
    splitPairs (':' :: (piece ++ text)) = (splitPairs (piece ++ text)).modifyHead (':' :: ·) := by
  obtain ⟨c, piece, rfl⟩ := List.exists_cons_of_ne_nil hne
  have hc : ¬(':' = ':' ∧ c = ':') := fun h => hfree (h.2 ▸ List.mem_cons_self)
  rw [List.cons_append, splitPairs_cons_cons, if_neg hc]

theorem splitPairs_side {ps : List (List Char)} (h : ∀ p ∈ ps, p ≠ [] ∧ ':' ∉ p) {text : List Char}
    {head : List Char} {tail : List (List Char)} (htext : splitPairs text = head :: tail) :
    splitPairs ([':'].intercalate ps ++ text) = ([':'].intercalate ps ++ head) :: tail := by
  induction ps with
  | nil => exact htext
  | cons p ps ih =>
    have hp := h p List.mem_cons_self
    cases ps with
    | nil => rw [List.intercalate_singleton, splitPairs_append_of_free hp.2, htext, List.modifyHead_cons]
    | cons q ps =>
      have hq := h q (List.mem_cons_of_mem _ List.mem_cons_self)
      have ih := ih fun r hr => h r (List.mem_cons_of_mem _ hr)
      have hstart : ∃ rest, [':'].intercalate (q :: ps) ++ text = q ++ rest := by
        cases ps with
        | nil => exact ⟨text, by rw [List.intercalate_singleton]⟩
        | cons r ps =>
          exact ⟨_, by rw [List.intercalate_cons_cons, List.append_assoc, List.append_assoc]⟩
      obtain ⟨rest, hrest⟩ := hstart
      rw [List.intercalate_cons_cons, List.append_assoc, List.append_assoc, List.singleton_append,
        splitPairs_append_of_free hp.2, hrest, splitPairs_colon_append hq.1 hq.2, ← hrest, ih]
      simp

/-- The groups of a side. -/
def splitGroups (piece : List Char) : List (List Char) := if piece = [] then [] else piece.splitOn ':'

theorem splitGroups_side (gs : List Group) :
    splitGroups ([':'].intercalate (Spelling.pieces gs none)) = gs.map Group.text := by
  rw [pieces_none]
  cases gs with
  | nil => rfl
  | cons g gs =>
    have hfree : ∀ p ∈ (g :: gs).map Group.text, p ≠ [] ∧ ':' ∉ p :=
      fun p hp => @pieces_free _ none _ (by rwa [pieces_none])
    have hsplit := splitOn_side hfree
    have hne : [':'].intercalate ((g :: gs).map Group.text) ≠ [] := by
      intro hnil
      rw [hnil] at hsplit
      exact (hfree _ List.mem_cons_self).1 (List.cons.inj hsplit).1.symm
    rw [splitGroups, if_neg hne]
    exact hsplit

theorem intercalate_splitGroups (piece : List Char) : [':'].intercalate (splitGroups piece) = piece := by
  unfold splitGroups
  split
  · rename_i h
    rw [h]
    rfl
  · exact List.intercalate_splitOn ':'

theorem Spelling.splitPairs_body (s : Spelling) : splitPairs s.body =
    match s.right with
    | none => [[':'].intercalate (pieces s.left s.quad)]
    | some right => [[':'].intercalate (pieces s.left none), [':'].intercalate (pieces right s.quad)] := by
  have hside : ∀ {gs : List Group} {quad : Option Quad},
      splitPairs ([':'].intercalate (pieces gs quad)) = [[':'].intercalate (pieces gs quad)] := by
    intro gs quad
    have h := splitPairs_side (fun _ hp => @pieces_free gs quad _ hp)
      (show splitPairs [] = [[]] from rfl)
    rwa [List.append_nil] at h
  unfold body
  cases s.right with
  | none => exact hside
  | some right =>
    have hcut : splitPairs (':' :: ':' :: [':'].intercalate (pieces right s.quad)) =
        [[], [':'].intercalate (pieces right s.quad)] := by
      rw [splitPairs_cons_cons, if_pos ⟨rfl, rfl⟩, hside]
    exact (splitPairs_side (fun _ => pieces_free) hcut).trans (by rw [List.append_nil])

/-! ## Spellings are unique -/

theorem Spelling.splitOn_text_head (s : Spelling) : (s.text.splitOn '%').headD [] = s.body := by
  unfold Spelling.text
  cases s.zone with
  | none =>
    rw [Option.map_none, Option.getD_none, List.append_nil,
      List.splitOn_eq_singleton s.percent_not_mem_body]
    rfl
  | some z =>
    rw [Option.map_some, Option.getD_some,
      List.splitOn_append_cons_self_of_not_mem s.percent_not_mem_body]
    rfl

theorem Quad.text_injective : Function.Injective Quad.text := by
  intro q r h
  have hparts := congrArg (List.splitOn '.') h
  rw [q.splitOn_text, r.splitOn_text] at hparts
  have hoctets := List.map_injective_iff.mpr (fun _ _ => Octet.ext) hparts
  obtain ⟨a, b, c, d⟩ := q
  obtain ⟨a', b', c', d'⟩ := r
  simp only [Quad.octets, List.cons.injEq, and_true] at hoctets
  obtain ⟨rfl, rfl, rfl, rfl⟩ := hoctets
  rfl

theorem Quad.text_not_mem_groups (q : Quad) (gs : List Group) : q.text ∉ gs.map Group.text := by
  intro h
  obtain ⟨g, -, htext⟩ := List.mem_map.mp h
  exact g.free (show '.' ∉ hexDigits by decide) (htext ▸ q.dot_mem_text)

theorem pieces_injective {gs hs : List Group} {quad quad' : Option Quad}
    (h : Spelling.pieces gs quad = Spelling.pieces hs quad') : gs = hs ∧ quad = quad' := by
  have hgroups : ∀ {gs hs : List Group}, gs.map Group.text = hs.map Group.text → gs = hs :=
    fun h => List.map_injective_iff.mpr (fun _ _ => Group.ext) h
  cases quad with
  | none =>
    rw [pieces_none] at h
    cases quad' with
    | none =>
      rw [pieces_none] at h
      exact ⟨hgroups h, rfl⟩
    | some q =>
      have hmem : q.text ∈ gs.map Group.text := by
        rw [h]
        exact List.mem_append_right _ (List.mem_singleton_self _)
      exact absurd hmem (q.text_not_mem_groups gs)
  | some q =>
    cases quad' with
    | none =>
      rw [pieces_none] at h
      have hmem : q.text ∈ hs.map Group.text := by
        rw [← h]
        exact List.mem_append_right _ (List.mem_singleton_self _)
      exact absurd hmem (q.text_not_mem_groups hs)
    | some q' =>
      obtain ⟨hstart, hlast⟩ := List.append_inj' h rfl
      exact ⟨hgroups hstart, congrArg some (Quad.text_injective (List.cons.inj hlast).1)⟩

theorem side_injective {gs hs : List Group} {quad quad' : Option Quad}
    (h : [':'].intercalate (Spelling.pieces gs quad) = [':'].intercalate (Spelling.pieces hs quad')) :
    gs = hs ∧ quad = quad' := by
  have hslot := congrArg (List.splitOn ':') h
  rw [splitOn_side fun _ => pieces_free, splitOn_side fun _ => pieces_free] at hslot
  refine pieces_injective ?_
  have hne : ∀ {gs : List Group} {quad : Option Quad}, [] ∉ Spelling.pieces gs quad :=
    fun hmem => (pieces_free hmem).1 rfl
  rcases hps : Spelling.pieces gs quad with _ | ⟨p, ps⟩
  · rcases hqs : Spelling.pieces hs quad' with _ | ⟨q, qs⟩
    · rfl
    · rw [hps, hqs] at hslot
      have hmem : [] ∈ Spelling.pieces hs quad' := by
        rw [hqs, (List.cons.inj hslot).1]
        exact List.mem_cons_self
      exact absurd hmem hne
  · rcases hqs : Spelling.pieces hs quad' with _ | ⟨q, qs⟩
    · rw [hps, hqs] at hslot
      have hmem : [] ∈ Spelling.pieces gs quad := by
        rw [hps, ← (List.cons.inj hslot).1]
        exact List.mem_cons_self
      exact absurd hmem hne
    · rwa [hps, hqs] at hslot

theorem Spelling.body_injective {s t : Spelling} (h : s.body = t.body) :
    s.left = t.left ∧ s.right = t.right ∧ s.quad = t.quad := by
  have hsides := congrArg splitPairs h
  rw [s.splitPairs_body, t.splitPairs_body] at hsides
  obtain ⟨left, right, quad, zone⟩ := s
  obtain ⟨left', right', quad', zone'⟩ := t
  cases right with
  | none =>
    cases right' with
    | none =>
      obtain ⟨hleft, hquad⟩ := side_injective (List.cons.inj hsides).1
      exact ⟨hleft, rfl, hquad⟩
    | some right' => cases (List.cons.inj hsides).2
  | some right =>
    cases right' with
    | none => cases (List.cons.inj hsides).2
    | some right' =>
      obtain ⟨hfirst, hrest⟩ := List.cons.inj hsides
      obtain ⟨hleft, -⟩ := side_injective hfirst
      obtain ⟨hright, hquad⟩ := side_injective (List.cons.inj hrest).1
      exact ⟨hleft, congrArg some hright, hquad⟩

theorem Spelling.text_injective : Function.Injective Spelling.text := by
  intro s t h
  have hbody : s.body = t.body := by rw [← s.splitOn_text_head, ← t.splitOn_text_head, h]
  obtain ⟨hleft, hright, hquad⟩ := body_injective hbody
  have hzone : (s.zone.map ('%' :: ·)).getD [] = (t.zone.map ('%' :: ·)).getD [] := by
    unfold Spelling.text at h
    rw [hbody] at h
    exact List.append_cancel_left h
  obtain ⟨left, right, quad, zone⟩ := s
  obtain ⟨left', right', quad', zone'⟩ := t
  obtain ⟨rfl, rfl, rfl⟩ : left = left' ∧ right = right' ∧ quad = quad' := ⟨hleft, hright, hquad⟩
  cases zone with
  | none =>
    cases zone' with
    | none => rfl
    | some z => cases hzone
  | some z =>
    cases zone' with
    | none => cases hzone
    | some z' => rw [(List.cons.inj hzone).2]

end AddressText
