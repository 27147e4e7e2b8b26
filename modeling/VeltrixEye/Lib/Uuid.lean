import Mathlib

/-!
# The text form of a `uuid` value

A database column of type `uuid` accepts several spellings of one value and prints a single one:
32 hexadecimal digits of either case, a hyphen allowed after every fourth digit but the last, and an
optional pair of braces; the output is lower case with hyphens after digits 8, 12, 16 and 20.

* `Uuid.ofText?_text` — the printed text reads back as the value.
-/

/-- The lower-case form of a hexadecimal digit. -/
def hexDigit? (c : Char) : Option Char :=
  if '0' ≤ c ∧ c ≤ '9' then some c
  else if 'a' ≤ c ∧ c ≤ 'f' then some c
  else if 'A' ≤ c ∧ c ≤ 'F' then some (Char.ofNat (c.toNat + 32))
  else none

/-- The digits of the bytes from byte `i` on; a hyphen may follow each odd byte but the last. -/
def uuidDigits : ℕ → ℕ → List Char → Option (List Char × List Char)
  | 0, _, rest => some ([], rest)
  | bytes + 1, i, a :: b :: rest =>
    match hexDigit? a, hexDigit? b with
    | some a, some b =>
      let rest := if rest.head? = some '-' ∧ i % 2 = 1 ∧ i < 15 then rest.tail else rest
      match uuidDigits bytes (i + 1) rest with
      | some (digits, rest) => some (a :: b :: digits, rest)
      | none => none
    | _, _ => none
  | _ + 1, _, _ => none

/-- The printed form of 32 digits. -/
def printUuid (d : List Char) : String :=
  String.ofList (d.take 8 ++ '-' :: (d.drop 8).take 4 ++ '-' :: (d.drop 12).take 4 ++
    '-' :: (d.drop 16).take 4 ++ '-' :: d.drop 20)

/-- The printed form of the value that a text spells. -/
def normalizeUuid (s : String) : Option String :=
  match s.toList with
  | '{' :: rest =>
    match uuidDigits 16 0 rest with
    | some (digits, ['}']) => some (printUuid digits)
    | _ => none
  | rest =>
    match uuidDigits 16 0 rest with
    | some (digits, []) => some (printUuid digits)
    | _ => none

/-- A `uuid` value. -/
structure Uuid where
  text : String
  printed : normalizeUuid text = some text
  deriving DecidableEq

/-- The conversion of a text parameter. -/
def Uuid.ofText? (s : String) : Option Uuid :=
  match normalizeUuid s with
  | some t => if h : normalizeUuid t = some t then some ⟨t, h⟩ else none
  | none => none

@[simp] theorem Uuid.ofText?_text (u : Uuid) : Uuid.ofText? u.text = some u := by
  unfold Uuid.ofText?
  rw [u.printed]
  simp [u.printed]

theorem Uuid.text_inj {u v : Uuid} : u.text = v.text ↔ u = v := by
  constructor
  · intro h
    cases u
    cases v
    simp_all
  · rintro rfl
    rfl
