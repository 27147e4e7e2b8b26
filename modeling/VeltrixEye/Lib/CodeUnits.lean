import VeltrixEye.Lib.JsonText

/-!
# Strings of code units

A string of 16-bit code units is read as code points: characters, and surrogates that stand alone.

* `codePoints_units` — the code points of a string are written as its units.
* `quote_inj` — the JSON text of a string, in which a lone surrogate is escaped, determines the string.
-/

/-- A code unit of UTF-16. -/
abbrev CodeUnit := Fin 65536

namespace CodeUnits

/-! ## Code points -/

/-- A character, or the surrogate `0xD800 + u`. -/
inductive CodePoint where
  | scalar (c : Char)
  | surrogate (u : Fin 2048)

/-- The code point of a unit that is half of no pair. -/
def lone (u : CodeUnit) : CodePoint :=
  if h : 0xD800 ≤ u.val ∧ u.val ≤ 0xDFFF then .surrogate ⟨u.val - 0xD800, by omega⟩
  else .scalar (Char.ofNat u.val)

/-- The code points of a string: a leading and a trailing surrogate side by side are one character. -/
def codePoints : List CodeUnit → List CodePoint
  | [] => []
  | [u] => [lone u]
  | hi :: lo :: rest =>
    if 0xD800 ≤ hi.val ∧ hi.val ≤ 0xDBFF ∧ 0xDC00 ≤ lo.val ∧ lo.val ≤ 0xDFFF then
      .scalar (Char.ofNat (0x10000 + (hi.val - 0xD800) * 0x400 + (lo.val - 0xDC00))) :: codePoints rest
    else lone hi :: codePoints (lo :: rest)

/-- The units a code point is written as. -/
def CodePoint.units : CodePoint → List ℕ
  | .scalar c => JsonText.utf16Char c
  | .surrogate u => [0xD800 + u.val]

theorem toNat_ofNat {n : ℕ} (h : n < 0xD800 ∨ 0xDFFF < n ∧ n < 0x110000) : (Char.ofNat n).toNat = n := by
  rw [Char.toNat_ofNat, if_pos h]

theorem lone_units (u : CodeUnit) : (lone u).units = [u.val] := by
  unfold lone
  split
  · rename_i h
    exact congrArg ([·]) (by dsimp only; omega)
  · rename_i h
    have hu := u.isLt
    have hnat := @toNat_ofNat u.val (by omega)
    rw [CodePoint.units, JsonText.utf16Char, hnat, if_pos (by omega)]

theorem codePoints_units (s : List CodeUnit) : (codePoints s).flatMap CodePoint.units = s.map Fin.val := by
  induction s using codePoints.induct with
  | case1 => rfl
  | case2 u => rw [codePoints, List.flatMap_singleton, lone_units, List.map_singleton]
  | case3 hi lo rest hpair ih =>
    have hnat := @toNat_ofNat (0x10000 + (hi.val - 0xD800) * 0x400 + (lo.val - 0xDC00)) (by omega)
    rw [codePoints, if_pos hpair, List.flatMap_cons, ih, CodePoint.units, JsonText.utf16Char, hnat,
      if_neg (by omega)]
    simp only [List.map_cons, List.cons_append, List.nil_append, List.cons.injEq, and_true]
    omega
  | case4 hi lo rest hpair ih =>
    rw [codePoints, if_neg hpair, List.flatMap_cons, ih, lone_units]
    rfl

theorem codePoints_injective : Function.Injective codePoints := by
  intro s s' h
  have hunits := congrArg (List.flatMap CodePoint.units) h
  rw [codePoints_units, codePoints_units] at hunits
  exact Fin.val_injective.list_map hunits

/-! ## JSON strings -/

/-- A code point inside a string. -/
def CodePoint.escape : CodePoint → List Char
  | .scalar c => JsonText.escapeChar c
  | .surrogate u =>
    ['\\', 'u', 'd', Nat.digitChar (8 + u.val / 256), Nat.digitChar (u.val / 16 % 16), Nat.digitChar (u.val % 16)]

/-- `JSON.stringify` of a string. -/
def quote (s : List CodeUnit) : List Char := '"' :: ((codePoints s).flatMap CodePoint.escape ++ ['"'])

theorem escape_head (p : CodePoint) (r : List Char) : ∃ c t, p.escape ++ r = c :: t ∧ c ≠ '"' := by
  cases p with
  | scalar c => exact JsonText.escapeChar_head c r
  | surrogate u => exact ⟨'\\', _, rfl, by decide⟩

theorem escape_inj (p q : CodePoint) (r r' : List Char) (h : p.escape ++ r = q.escape ++ r') :
    p = q ∧ r = r' := by
  have hmixed : ∀ (c : Char) (u : Fin 2048) (r r' : List Char),
      JsonText.escapeChar c ++ r ≠ (CodePoint.surrogate u).escape ++ r' := by
    intro c u r r' h
    unfold CodePoint.escape at h
    rcases JsonText.escapeChar_cases c with ⟨e, hshort, he⟩ | ⟨-, he⟩ | ⟨hc, -, he⟩
    · rw [he] at h
      simp only [List.cons_append, List.nil_append, List.cons.injEq, true_and] at h
      rw [h.1] at hshort
      exact JsonText.shortEscape?_ne_u hshort
    · rw [he] at h
      simp only [List.cons_append, List.nil_append, List.cons.injEq, true_and] at h
      exact absurd h.1 (by decide)
    · rw [he] at h
      simp only [List.cons_append, List.nil_append, List.cons.injEq] at h
      exact hc h.1
  cases p with
  | scalar c =>
    cases q with
    | scalar d =>
      obtain ⟨rfl, hr⟩ := JsonText.escapeChar_inj h
      exact ⟨rfl, hr⟩
    | surrogate v => exact absurd h (hmixed c v r r')
  | surrogate u =>
    cases q with
    | scalar d => exact absurd h.symm (hmixed d u r' r)
    | surrogate v =>
      simp only [CodePoint.escape, List.cons_append, List.nil_append, List.cons.injEq, true_and] at h
      obtain ⟨hhigh, hmiddle, hlow, hr⟩ := h
      have hu := u.isLt
      have hv := v.isLt
      have hhigh := JsonText.digitChar_inj (by omega) (by omega) hhigh
      have hmiddle := JsonText.digitChar_inj (by omega) (by omega) hmiddle
      have hlow := JsonText.digitChar_inj (by omega) (by omega) hlow
      exact ⟨congrArg CodePoint.surrogate (Fin.ext (by omega)), hr⟩

/-- **A quoted string is read back**, whatever follows. -/
theorem quote_inj {s s' : List CodeUnit} {r r' : List Char} (h : quote s ++ r = quote s' ++ r') :
    s = s' ∧ r = r' := by
  unfold quote at h
  simp only [List.cons_append, List.append_assoc, List.nil_append, List.cons.injEq, true_and] at h
  obtain ⟨hs, hr⟩ := JsonText.escaped_inj escape_head escape_inj h
  exact ⟨codePoints_injective hs, hr⟩

end CodeUnits
