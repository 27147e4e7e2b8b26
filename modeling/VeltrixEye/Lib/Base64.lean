import Mathlib

/-!
# Base64

The text of a list of bytes, and a lenient reader: it knows both alphabets, skips every other character
and ends at the padding.

* `decode_encode` — the text of bytes is read back.
* `encode_length`, `decode_length` — four characters carry three bytes.
-/

namespace Base64

/-- The character of six bits. -/
def digit (n : ℕ) : Char :=
  if n < 26 then Char.ofNat (65 + n)
  else if n < 52 then Char.ofNat (71 + n)
  else if n < 62 then Char.ofNat (n - 4)
  else if n = 62 then '+' else '/'

/-- The six bits of a character, in the standard or the URL alphabet. -/
def value? (c : Char) : Option ℕ :=
  if 'A' ≤ c ∧ c ≤ 'Z' then some (c.toNat - 65)
  else if 'a' ≤ c ∧ c ≤ 'z' then some (c.toNat - 71)
  else if '0' ≤ c ∧ c ≤ '9' then some (c.toNat + 4)
  else if c = '+' ∨ c = '-' then some 62
  else if c = '/' ∨ c = '_' then some 63
  else none

theorem value?_digit {n : ℕ} (h : n < 64) : value? (digit n) = some n := by
  have hall : ∀ i : Fin 64, value? (digit i.val) = some i.val := by decide
  exact hall ⟨n, h⟩

theorem digit_ne {n : ℕ} {c : Char} (hc : value? c = none) (h : n < 64) : digit n ≠ c := by
  rintro rfl
  rw [value?_digit h] at hc
  cases hc

/-- The padded text of bytes. -/
def encode : List UInt8 → List Char
  | [] => []
  | [a] => [digit (a.toNat / 4), digit (a.toNat % 4 * 16), '=', '=']
  | [a, b] =>
    [digit (a.toNat / 4), digit (a.toNat % 4 * 16 + b.toNat / 16), digit (b.toNat % 16 * 4), '=']
  | a :: b :: c :: rest =>
    digit (a.toNat / 4) :: digit (a.toNat % 4 * 16 + b.toNat / 16) ::
      digit (b.toNat % 16 * 4 + c.toNat / 64) :: digit (c.toNat % 64) :: encode rest

/-- The sextets before the padding. -/
def sextets (text : List Char) : List ℕ := (text.takeWhile (· ≠ '=')).filterMap value?

/-- The bytes of sextets; what is left of a group after its last full byte is dropped. -/
def bytes : List ℕ → List UInt8
  | p :: q :: r :: s :: rest =>
    UInt8.ofNat (p * 4 + q / 16) :: UInt8.ofNat (q % 16 * 16 + r / 4) ::
      UInt8.ofNat (r % 4 * 64 + s) :: bytes rest
  | [p, q, r] => [UInt8.ofNat (p * 4 + q / 16), UInt8.ofNat (q % 16 * 16 + r / 4)]
  | [p, q] => [UInt8.ofNat (p * 4 + q / 16)]
  | _ => []

def decode (text : List Char) : List UInt8 := bytes (sextets text)

theorem sextets_digit {n : ℕ} (h : n < 64) (rest : List Char) :
    sextets (digit n :: rest) = n :: sextets rest := by
  have hne := digit_ne (c := '=') (by decide) h
  rw [sextets, List.takeWhile_cons_of_pos (by simpa using hne), List.filterMap_cons_some (value?_digit h)]
  rfl

theorem sextets_padding (rest : List Char) : sextets ('=' :: rest) = [] := by
  rw [sextets, List.takeWhile_cons_of_neg (by simp), List.filterMap_nil]

theorem byte_eq {a : UInt8} {n : ℕ} (h : n = a.toNat) : UInt8.ofNat n = a := by
  rw [h]
  exact UInt8.ofNat_toNat

/-- **Bytes are read back from their text.** -/
theorem decode_encode (bs : List UInt8) : decode (encode bs) = bs := by
  unfold decode
  induction bs using encode.induct with
  | case1 => rfl
  | case2 a =>
    have ha := a.toNat_lt
    rw [encode, sextets_digit (by omega), sextets_digit (by omega), sextets_padding, bytes, byte_eq]
    omega
  | case3 a b =>
    have ha := a.toNat_lt
    have hb := b.toNat_lt
    rw [encode, sextets_digit (by omega), sextets_digit (by omega), sextets_digit (by omega),
      sextets_padding, bytes, byte_eq (a := a) (by omega), byte_eq (a := b) (by omega)]
  | case4 a b c rest ih =>
    have ha := a.toNat_lt
    have hb := b.toNat_lt
    have hc := c.toNat_lt
    rw [encode, sextets_digit (by omega), sextets_digit (by omega), sextets_digit (by omega),
      sextets_digit (by omega), bytes, ih, byte_eq (a := a) (by omega), byte_eq (a := b) (by omega),
      byte_eq (a := c) (by omega)]

theorem encode_length (bs : List UInt8) : (encode bs).length = 4 * ((bs.length + 2) / 3) := by
  induction bs using encode.induct with
  | case1 => rfl
  | case2 a => simp [encode]
  | case3 a b => simp [encode]
  | case4 a b c rest ih =>
    rw [encode]
    simp only [List.length_cons, ih]
    omega

theorem bytes_length (ns : List ℕ) : 4 * (bytes ns).length ≤ 3 * ns.length := by
  induction ns using bytes.induct with
  | case1 p q r s rest ih =>
    rw [bytes]
    simp only [List.length_cons]
    omega
  | case2 p q r => simp [bytes]
  | case3 p q => simp [bytes]
  | case4 ns hfour hthree htwo =>
    have hnil : bytes ns = [] := by
      match ns, hfour, hthree, htwo with
      | [], _, _, _ => rfl
      | [_], _, _, _ => rfl
      | [p, q], _, _, htwo => exact absurd rfl (htwo p q)
      | [p, q, r], _, hthree, _ => exact absurd rfl (hthree p q r)
      | p :: q :: r :: s :: rest, hfour, _, _ => exact absurd rfl (hfour p q r s rest)
    rw [hnil]
    exact Nat.zero_le _

theorem decode_length (text : List Char) : 4 * (decode text).length ≤ 3 * text.length := by
  have hsextets : (sextets text).length ≤ text.length :=
    (List.length_filterMap_le _ _).trans (List.takeWhile_sublist _).length_le
  have hbytes := bytes_length (sextets text)
  unfold decode
  omega

theorem not_mem_encode {c : Char} (hvalue : value? c = none) (hc : c ≠ '=') (bs : List UInt8) :
    c ∉ encode bs := by
  induction bs using encode.induct with
  | case1 => exact List.not_mem_nil
  | case2 a =>
    have ha := a.toNat_lt
    simp only [encode, List.mem_cons, List.not_mem_nil, or_false, not_or]
    exact ⟨(digit_ne hvalue (by omega)).symm, (digit_ne hvalue (by omega)).symm, hc, hc⟩
  | case3 a b =>
    have ha := a.toNat_lt
    have hb := b.toNat_lt
    simp only [encode, List.mem_cons, List.not_mem_nil, or_false, not_or]
    exact ⟨(digit_ne hvalue (by omega)).symm, (digit_ne hvalue (by omega)).symm,
      (digit_ne hvalue (by omega)).symm, hc⟩
  | case4 a b d rest ih =>
    have ha := a.toNat_lt
    have hb := b.toNat_lt
    have hd := d.toNat_lt
    simp only [encode, List.mem_cons, not_or]
    exact ⟨(digit_ne hvalue (by omega)).symm, (digit_ne hvalue (by omega)).symm,
      (digit_ne hvalue (by omega)).symm, (digit_ne hvalue (by omega)).symm, ih⟩

end Base64
