import Mathlib

/-!
# Regular expressions over characters

Classes and bounded repetitions as `RegularExpression`s, and what matches them.

* `mem_oneOf`, `mem_oneOf_pow`, `mem_oneOf_star` — one, `n` and any number of characters of a class.
* `mem_between` — a repetition with bounds.
* `mem_flatMap_pow` — `n` repetitions of a pattern that spells things of a type.
-/

namespace Patterns

open RegularExpression

variable {α β : Type*}

/-- `[…]`. -/
def oneOf (cs : List α) : RegularExpression α := (cs.map char).foldr (· + ·) 0

/-- `r{low,high}`, for `low ≤ high`. -/
def between (r : RegularExpression α) (low high : ℕ) : RegularExpression α :=
  ((List.range' low (high + 1 - low)).map (r ^ ·)).foldr (· + ·) 0

theorem mem_sum {rs : List (RegularExpression α)} {s : List α} :
    s ∈ (rs.foldr (· + ·) 0).matches' ↔ ∃ r ∈ rs, s ∈ r.matches' := by
  induction rs with
  | nil => simp [Language.notMem_zero]
  | cons r rs ih => rw [List.foldr_cons, matches'_add, Language.mem_add, ih, List.exists_mem_cons_iff]

theorem mem_oneOf {cs : List α} {s : List α} : s ∈ (oneOf cs).matches' ↔ ∃ c ∈ cs, s = [c] := by
  unfold oneOf
  rw [mem_sum]
  simp only [List.mem_map, exists_exists_and_eq_and, matches'_char]
  rfl

theorem mem_between {r : RegularExpression α} {low high : ℕ} {s : List α} :
    s ∈ (between r low high).matches' ↔ ∃ n, low ≤ n ∧ n ≤ high ∧ s ∈ (r ^ n).matches' := by
  unfold between
  rw [mem_sum]
  constructor
  · rintro ⟨r', hr', hs⟩
    obtain ⟨n, hn, rfl⟩ := List.mem_map.mp hr'
    rw [List.mem_range'_1] at hn
    exact ⟨n, hn.1, by omega, hs⟩
  · rintro ⟨n, hlow, hhigh, hs⟩
    exact ⟨_, List.mem_map.mpr ⟨n, List.mem_range'_1.mpr ⟨hlow, by omega⟩, rfl⟩, hs⟩

theorem mem_mul {p q : RegularExpression α} {s : List α} :
    s ∈ (p * q).matches' ↔ ∃ a ∈ p.matches', ∃ b ∈ q.matches', a ++ b = s := by
  rw [matches'_mul, Language.mem_mul]

theorem mem_char_mul {c : α} {q : RegularExpression α} {s : List α} :
    s ∈ (char c * q).matches' ↔ ∃ b ∈ q.matches', s = c :: b := by
  rw [mem_mul]
  constructor
  · rintro ⟨a, rfl, b, hb, rfl⟩
    exact ⟨b, hb, rfl⟩
  · rintro ⟨b, hb, rfl⟩
    exact ⟨[c], rfl, b, hb, rfl⟩

theorem mem_flatMap_pow {r : RegularExpression α} {text : β → List α}
    (hr : ∀ s, s ∈ r.matches' ↔ ∃ b, s = text b) (n : ℕ) (s : List α) :
    s ∈ (r ^ n).matches' ↔ ∃ bs : List β, bs.length = n ∧ s = bs.flatMap text := by
  rw [matches'_pow]
  induction n generalizing s with
  | zero =>
    rw [pow_zero, Language.mem_one]
    constructor
    · rintro rfl
      exact ⟨[], rfl, rfl⟩
    · rintro ⟨bs, hlength, rfl⟩
      rw [List.eq_nil_of_length_eq_zero hlength, List.flatMap_nil]
  | succ n ih =>
    rw [pow_succ', Language.mem_mul]
    constructor
    · rintro ⟨a, ha, b, hb, rfl⟩
      obtain ⟨x, rfl⟩ := (hr a).mp ha
      obtain ⟨xs, hlength, rfl⟩ := (ih b).mp hb
      exact ⟨x :: xs, by rw [List.length_cons, hlength], by rw [List.flatMap_cons]⟩
    · rintro ⟨bs, hlength, rfl⟩
      obtain ⟨x, xs, rfl⟩ := List.exists_cons_of_length_eq_add_one hlength
      exact ⟨text x, (hr _).mpr ⟨x, rfl⟩, xs.flatMap text,
        (ih _).mpr ⟨xs, Nat.succ_injective hlength, rfl⟩, by rw [List.flatMap_cons]⟩

theorem mem_oneOf_pow {cs : List α} {n : ℕ} {s : List α} :
    s ∈ (oneOf cs ^ n).matches' ↔ s.length = n ∧ ∀ c ∈ s, c ∈ cs := by
  have hone : ∀ s, s ∈ (oneOf cs).matches' ↔ ∃ c : {c // c ∈ cs}, s = [c.val] := by
    intro s
    rw [mem_oneOf]
    simp
  have hflat : ∀ bs : List {c // c ∈ cs}, bs.flatMap (fun c => [c.val]) = bs.map Subtype.val := by
    intro bs
    induction bs with
    | nil => rfl
    | cons b bs ih => rw [List.flatMap_cons, ih, List.map_cons, List.singleton_append]
  rw [mem_flatMap_pow hone]
  constructor
  · rintro ⟨bs, hlength, rfl⟩
    rw [hflat, List.length_map]
    refine ⟨hlength, fun c hc => ?_⟩
    obtain ⟨b, -, rfl⟩ := List.mem_map.mp hc
    exact b.property
  · rintro ⟨hlength, hall⟩
    refine ⟨s.attachWith _ hall, by rw [List.length_attachWith, hlength], ?_⟩
    rw [hflat, List.attachWith_map_subtype_val]

theorem mem_oneOf_star {cs s : List α} : s ∈ (oneOf cs).star.matches' ↔ ∀ c ∈ s, c ∈ cs := by
  rw [matches'_star, Language.kstar_eq_iSup_pow]
  simp only [Language.mem_iSup, ← matches'_pow, mem_oneOf_pow]
  exact ⟨fun ⟨_, _, h⟩ => h, fun h => ⟨_, rfl, h⟩⟩

end Patterns
