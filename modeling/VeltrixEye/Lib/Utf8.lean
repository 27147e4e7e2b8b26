import Mathlib

/-!
# UTF-8

The bytes of a text are `String.utf8EncodeChar` of its characters.  The reader never fails: the longest
beginning of a character that no byte completes is read as one replacement character.

* `decode_encode` — a text is read back.
* `decode_length` — no byte is read as two characters.
-/

namespace Utf8

def replacement : Char := Char.ofNat 0xFFFD

/-- How many bytes follow the first byte of a character, and the range of the first of them. -/
def leading (b : ℕ) : Option (ℕ × ℕ × ℕ) :=
  if b < 0x80 then some (0, 0x80, 0xBF)
  else if b < 0xC2 then none
  else if b < 0xE0 then some (1, 0x80, 0xBF)
  else if b = 0xE0 then some (2, 0xA0, 0xBF)
  else if b = 0xED then some (2, 0x80, 0x9F)
  else if b < 0xF0 then some (2, 0x80, 0xBF)
  else if b = 0xF0 then some (3, 0x90, 0xBF)
  else if b < 0xF4 then some (3, 0x80, 0xBF)
  else if b = 0xF4 then some (3, 0x80, 0x8F)
  else none

/-- The bytes, at most `count`, that continue a character; only the first has a range of its own. -/
def continuation (count low high : ℕ) (bs : List UInt8) : List UInt8 :=
  match count, bs with
  | count + 1, b :: rest =>
    if low ≤ b.toNat ∧ b.toNat ≤ high then b :: continuation count 0x80 0xBF rest else []
  | _, _ => []

/-- The number a first byte and its continuation write. -/
def scalar (first : ℕ) (tail : List UInt8) : ℕ :=
  tail.foldl (fun n b => n * 64 + b.toNat % 64)
    (if tail = [] then first else first % 2 ^ (6 - tail.length))

/-- The first character, and the bytes it takes after the first. -/
def head (b : UInt8) (rest : List UInt8) : Char × ℕ :=
  match leading b.toNat with
  | none => (replacement, 0)
  | some (count, low, high) =>
    let tail := continuation count low high rest
    (if tail.length = count then Char.ofNat (scalar b.toNat tail) else replacement, tail.length)

def decode : List UInt8 → List Char
  | [] => []
  | b :: rest => (head b rest).1 :: decode (rest.drop (head b rest).2)
termination_by bs => bs.length
decreasing_by simp only [List.length_drop, List.length_cons]; omega

def encode (cs : List Char) : List UInt8 := cs.flatMap String.utf8EncodeChar

theorem decode_length (bs : List UInt8) : (decode bs).length ≤ bs.length := by
  induction bs using decode.induct with
  | case1 => simp [decode]
  | case2 b rest ih =>
    rw [decode]
    simp only [List.length_cons, List.length_drop] at ih ⊢
    omega

theorem toNat_byte {n : ℕ} (h : n < 256) : (UInt8.ofNat n).toNat = n := UInt8.toNat_ofNat_of_lt' h

theorem continuation_cons {count low high n : ℕ} {rest : List UInt8} (hn : n < 256) (hlow : low ≤ n)
    (hhigh : n ≤ high) :
    continuation (count + 1) low high (UInt8.ofNat n :: rest) =
      UInt8.ofNat n :: continuation count 0x80 0xBF rest := by
  rw [continuation, toNat_byte hn, if_pos ⟨hlow, hhigh⟩]

theorem continuation_zero (low high : ℕ) (bs : List UInt8) : continuation 0 low high bs = [] := by
  unfold continuation
  rfl

theorem head_of (count low high : ℕ) {b : UInt8} {tail rest : List UInt8} {c : Char}
    (hleading : leading b.toNat = some (count, low, high))
    (htail : continuation count low high (tail ++ rest) = tail) (hlength : tail.length = count)
    (hscalar : scalar b.toNat tail = c.toNat) : head b (tail ++ rest) = (c, tail.length) := by
  unfold head
  rw [hleading]
  dsimp only
  rw [htail, if_pos hlength, hscalar, Char.ofNat_toNat]

theorem leading_three {n : ℕ} (hlow : 0x800 ≤ n) (hhigh : n < 0x10000) (hscalar : n < 0xD800 ∨ 0xDFFF < n) :
    ∃ low high, leading (n / 4096 % 16 + 224) = some (2, low, high) ∧ low ≤ n / 64 % 64 + 128 ∧
      n / 64 % 64 + 128 ≤ high := by
  unfold leading
  rw [if_neg (by omega), if_neg (by omega), if_neg (by omega)]
  split
  · exact ⟨_, _, rfl, by omega, by omega⟩
  split
  · exact ⟨_, _, rfl, by omega, by omega⟩
  rw [if_pos (by omega)]
  exact ⟨_, _, rfl, by omega, by omega⟩

theorem leading_four {n : ℕ} (hlow : 0x10000 ≤ n) (hhigh : n < 0x110000) :
    ∃ low high, leading (n / 262144 % 8 + 240) = some (3, low, high) ∧ low ≤ n / 4096 % 64 + 128 ∧
      n / 4096 % 64 + 128 ≤ high := by
  unfold leading
  rw [if_neg (by omega), if_neg (by omega), if_neg (by omega), if_neg (by omega), if_neg (by omega),
    if_neg (by omega)]
  split
  · exact ⟨_, _, rfl, by omega, by omega⟩
  split
  · exact ⟨_, _, rfl, by omega, by omega⟩
  rw [if_pos (by omega)]
  exact ⟨_, _, rfl, by omega, by omega⟩

theorem head_encode (c : Char) (rest : List UInt8) :
    ∃ b tail, String.utf8EncodeChar c = b :: tail ∧ head b (tail ++ rest) = (c, tail.length) := by
  have hvalid : c.toNat < 0xD800 ∨ 0xDFFF < c.toNat ∧ c.toNat < 0x110000 := c.valid
  have hnat : c.val.toNat = c.toNat := rfl
  unfold String.utf8EncodeChar
  dsimp only
  rw [hnat]
  generalize hn : c.toNat = n at hvalid
  split
  · refine ⟨_, _, rfl, head_of 0 0x80 0xBF ?_ ?_ rfl ?_⟩
    · rw [toNat_byte (by omega), leading, if_pos (by omega)]
    · exact continuation_zero _ _ _
    · rw [scalar, toNat_byte (by omega)]
      exact hn.symm
  split
  · refine ⟨_, _, rfl, head_of 1 0x80 0xBF ?_ ?_ rfl ?_⟩
    · rw [toNat_byte (by omega), leading, if_neg (by omega), if_neg (by omega),
        if_pos (by omega)]
    · rw [List.cons_append, continuation_cons (by omega) (by omega) (by omega), continuation_zero]
    · simp only [scalar, List.foldl_cons, List.foldl_nil, List.length_cons, List.length_nil, reduceCtorEq,
        if_false]
      rw [toNat_byte (by omega), toNat_byte (by omega), hn]
      omega
  split
  · obtain ⟨low, high, hleading, hlow, hhigh⟩ := leading_three (n := n) (by omega) (by omega) (by omega)
    refine ⟨_, _, rfl, head_of 2 low high ?_ ?_ rfl ?_⟩
    · rw [toNat_byte (by omega), hleading]
    · rw [List.cons_append, continuation_cons (by omega) hlow hhigh, List.cons_append,
        continuation_cons (by omega) (by omega) (by omega), continuation_zero]
    · simp only [scalar, List.foldl_cons, List.foldl_nil, List.length_cons, List.length_nil, reduceCtorEq,
        if_false]
      rw [toNat_byte (by omega), toNat_byte (by omega),
        toNat_byte (by omega), hn]
      omega
  · obtain ⟨low, high, hleading, hlow, hhigh⟩ := leading_four (n := n) (by omega) (by omega)
    refine ⟨_, _, rfl, head_of 3 low high ?_ ?_ rfl ?_⟩
    · rw [toNat_byte (by omega), hleading]
    · rw [List.cons_append, continuation_cons (by omega) hlow hhigh, List.cons_append,
        continuation_cons (by omega) (by omega) (by omega), List.cons_append,
        continuation_cons (by omega) (by omega) (by omega), continuation_zero]
    · simp only [scalar, List.foldl_cons, List.foldl_nil, List.length_cons, List.length_nil, reduceCtorEq,
        if_false]
      rw [toNat_byte (by omega), toNat_byte (by omega),
        toNat_byte (by omega), toNat_byte (by omega), hn]
      omega

/-- **A text is read back from its bytes.** -/
theorem decode_encode (cs : List Char) : decode (encode cs) = cs := by
  induction cs with
  | nil => rw [encode, List.flatMap_nil, decode]
  | cons c cs ih =>
    obtain ⟨b, tail, hbytes, hhead⟩ := head_encode c (encode cs)
    rw [encode, List.flatMap_cons, hbytes, List.cons_append, decode, ← encode, hhead, List.drop_left, ih]

theorem length_le_encode (cs : List Char) : cs.length ≤ (encode cs).length := by
  have h := decode_length (encode cs)
  rwa [decode_encode] at h

/-- The characters of a text, read off its bytes where these are ASCII. -/
def chars (s : String) : List Char :=
  let bytes := s.toByteArray.data.toList
  if bytes.all (·.toNat < 128) then bytes.map fun b => Char.ofNat b.toNat else s.toList

theorem encode_ascii {cs : List Char} (h : ∀ b ∈ encode cs, b.toNat < 128) :
    (encode cs).map (fun b => Char.ofNat b.toNat) = cs := by
  unfold encode at h ⊢
  induction cs with
  | nil => rfl
  | cons c cs ih =>
    rw [List.flatMap_cons, List.forall_mem_append] at h
    rw [List.flatMap_cons, List.map_append, ih h.2]
    have hc := h.1
    unfold String.utf8EncodeChar at hc ⊢
    dsimp only at hc ⊢
    split
    · rw [List.map_singleton, toNat_byte (by omega)]
      exact congrArg (· :: cs) (Char.ofNat_toNat c)
    · rw [if_neg ‹_›] at hc
      split at hc
      · exact absurd (hc _ List.mem_cons_self) (by rw [toNat_byte (by omega)]; omega)
      split at hc <;> exact absurd (hc _ List.mem_cons_self) (by rw [toNat_byte (by omega)]; omega)

theorem chars_eq (s : String) : chars s = s.toList := by
  have hbytes : s.toByteArray.data.toList = encode s.toList := by
    rw [← String.utf8Encode_toList, List.utf8Encode, List.toList_data_toByteArray, encode]
  unfold chars
  dsimp only
  split
  · rename_i hall
    rw [hbytes] at hall ⊢
    exact encode_ascii (by simpa using hall)
  · rfl

end Utf8
