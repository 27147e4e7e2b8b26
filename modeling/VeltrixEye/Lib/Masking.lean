import Mathlib

/-!
# Words in a text, and masking them

* `Occurs glued w t` — `w` is a piece of `t`; with `glued`, a word character stands directly before or
  after it.
* `occurs_split` — a character that no word holds splits the occurrences.
* `maskAll` — every match of a pattern of fixed length between two word boundaries gives way to a mask.
-/

namespace Masking

/-- `\w`. -/
def isWordChar (c : Char) : Bool := c.isAlphanum || c == '_'

def wordAt (c : Option Char) : Bool := c.any isWordChar

@[simp] theorem wordAt_none : wordAt none = false := rfl

@[simp] theorem wordAt_some (c : Char) : wordAt (some c) = isWordChar c := rfl

/-! ## Occurrences -/

/-- `w` is a piece of `t`, glued to a word character if asked. -/
def Occurs (glued : Bool) (w t : List Char) : Prop :=
  ∃ before after, t = before ++ w ++ after ∧
    (glued = true → wordAt before.getLast? = true ∨ wordAt after.head? = true)

variable {glued : Bool} {w t a b : List Char} {c : Char}

theorem Occurs.shown (h : Occurs glued w t) : Occurs false w t := by
  obtain ⟨before, after, ht, -⟩ := h
  exact ⟨before, after, ht, fun h => by cases h⟩

theorem Occurs.length_le (h : Occurs glued w t) : w.length ≤ t.length := by
  obtain ⟨before, after, rfl, -⟩ := h
  simp only [List.length_append]
  omega

theorem Occurs.eq_of_length (h : Occurs glued w t) (hlen : w.length = t.length) :
    t = w ∧ glued = false := by
  obtain ⟨before, after, rfl, hglued⟩ := h
  simp only [List.length_append] at hlen
  have hbefore : before = [] := List.length_eq_zero_iff.mp (by omega)
  have hafter : after = [] := List.length_eq_zero_iff.mp (by omega)
  subst hbefore hafter
  refine ⟨by simp, ?_⟩
  cases glued with
  | false => rfl
  | true => simpa using hglued rfl

theorem Occurs.widen (h : Occurs glued w t) {t' : List Char} (ht : t <:+: t') : Occurs glued w t' := by
  obtain ⟨before, after, rfl, hglued⟩ := h
  obtain ⟨x, y, rfl⟩ := ht
  refine ⟨x ++ before, after ++ y, by simp, fun hg => ?_⟩
  rcases hglued hg with hword | hword
  · left
    cases hlast : before.getLast? with
    | none => simp [hlast] at hword
    | some d => rwa [List.getLast?_append, hlast, Option.some_or, ← hlast]
  · right
    cases hhead : after.head? with
    | none => simp [hhead] at hword
    | some d => rwa [List.head?_append, hhead, Option.some_or, ← hhead]

/-- **A character outside the word, and no word character, splits the occurrences.** -/
theorem occurs_split (hc : c ∉ w) (hword : isWordChar c = false)
    (h : Occurs glued w (a ++ c :: b)) : Occurs glued w a ∨ Occurs glued w b := by
  obtain ⟨before, after, ht, hglued⟩ := h
  -- the word ends before `c`
  have left : ∀ rest, a = before ++ w ++ rest → after = rest ++ c :: b → Occurs glued w a := by
    rintro rest ha rfl
    refine ⟨before, rest, ha, fun hg => (hglued hg).imp_right fun hafter => ?_⟩
    cases rest with
    | nil => simp [hword] at hafter
    | cons d rest => exact hafter
  -- the word starts after `c`
  have right : ∀ rest, before = a ++ c :: rest → b = rest ++ w ++ after → Occurs glued w b := by
    rintro rest rfl hb
    refine ⟨rest, after, hb, fun hg => (hglued hg).imp_left fun hbefore => ?_⟩
    cases hlast : rest.getLast? with
    | none =>
      have hnil : rest = [] := List.getLast?_eq_none_iff.mp hlast
      subst hnil
      simp [hword] at hbefore
    | some d =>
      rw [List.getLast?_append, List.getLast?_cons, hlast] at hbefore
      simpa using hbefore
  rcases List.append_eq_append_iff.mp ht with ⟨x, hx, hcb⟩ | ⟨x, ha, hafter⟩
  · cases x with
    | nil => exact .inl (left [] (by simpa using hx.symm) hcb.symm)
    | cons d x =>
      obtain ⟨rfl, rfl⟩ := List.cons.inj hcb
      rcases List.append_eq_append_iff.mp hx with ⟨y, -, hw⟩ | ⟨y, hbefore, hy⟩
      · exact absurd (hw ▸ by simp) hc
      · cases y with
        | nil => exact absurd (by rw [List.nil_append] at hy; rw [← hy]; simp) hc
        | cons d y =>
          obtain ⟨rfl, rfl⟩ := List.cons.inj hy
          exact .inr (right y hbefore (by simp))
  · exact .inl (left x ha hafter)

/-! ## Masking -/

/-- The text starts with one character of each class. -/
def matchesAt : List (Char → Bool) → List Char → Bool
  | [], _ => true
  | _ :: _, [] => false
  | p :: ps, c :: rest => p c && matchesAt ps rest

/-- `\b`. -/
def boundary (x y : Option Char) : Bool := wordAt x != wordAt y

/-- The pattern matches here, between two word boundaries. -/
def boundedMatch (pattern : List (Char → Bool)) (previous : Option Char) (t : List Char) : Bool :=
  matchesAt pattern t && boundary previous t.head? &&
    boundary (t.take pattern.length).getLast? (t.drop pattern.length).head?

/-- `text.replace(/\b…\b/g, mask)`; `skip` characters of the last match are still to be passed over. -/
def maskAll (pattern : List (Char → Bool)) (mask : List Char) : ℕ → Option Char → List Char → List Char
  | _, _, [] => []
  | skip + 1, _, c :: rest => maskAll pattern mask skip (some c) rest
  | 0, previous, c :: rest =>
    if boundedMatch pattern previous (c :: rest) then
      mask ++ maskAll pattern mask (pattern.length - 1) (some c) rest
    else c :: maskAll pattern mask 0 (some c) rest

theorem matchesAt_append {ps qs : List (Char → Bool)} (h : ps.length = a.length) :
    matchesAt (ps ++ qs) (a ++ b) = (matchesAt ps a && matchesAt qs b) := by
  induction ps generalizing a with
  | nil => rw [List.length_eq_zero_iff.mp h.symm]; simp [matchesAt]
  | cons p ps ih =>
    cases a with
    | nil => cases h
    | cons c a => simp [matchesAt, ih (by simpa using h), Bool.and_assoc]

theorem matchesAt_replicate {p : Char → Bool} (h : ∀ c ∈ a, p c = true) :
    matchesAt (List.replicate a.length p) a = true := by
  induction a with
  | nil => rfl
  | cons c a ih =>
    rw [List.length_cons, List.replicate_succ, matchesAt, h c (by simp), Bool.true_and]
    exact ih fun d hd => h d (List.mem_cons_of_mem _ hd)

/-- What a mask must be for the words of a pattern: it starts and ends outside them and is no longer. -/
structure Hides (mask w : List Char) : Prop where
  opens : ∀ c, mask.head? = some c → c ∉ w
  closes : ∃ c, mask.getLast? = some c ∧ c ∉ w
  short : mask.length ≤ w.length

variable {pattern : List (Char → Bool)} {mask : List Char}

theorem Hides.mask_ne_nil (h : Hides mask w) : mask ≠ [] := by
  obtain ⟨c, hlast, -⟩ := h.closes
  rintro rfl
  cases hlast

theorem prefix_of_maskAll {v : List Char} (hmask : mask ≠ [])
    (hopens : ∀ c, mask.head? = some c → c ∉ v) {previous : Option Char} {rest : List Char}
    (h : maskAll pattern mask 0 previous t = v ++ rest) : ∃ after, t = v ++ after := by
  induction v generalizing t previous with
  | nil => exact ⟨t, rfl⟩
  | cons d v ih =>
    cases t with
    | nil => cases h
    | cons c t =>
      rw [maskAll] at h
      split at h
      · cases mask with
        | nil => exact absurd rfl hmask
        | cons m mask =>
          have hm : m = d := (List.cons.inj h).1
          exact absurd (hm ▸ List.mem_cons_self) (hopens m rfl)
      · obtain ⟨rfl, htail⟩ := List.cons.inj h
        obtain ⟨after, rfl⟩ := ih (fun c hc => fun hv => hopens c hc (List.mem_cons_of_mem _ hv)) htail
        exact ⟨after, rfl⟩

/-- `w` occurs in `t` glued to a word character; `previous` stands before the text. -/
def GluedAfter (previous : Option Char) (w t : List Char) : Prop :=
  ∃ before after, t = before ++ w ++ after ∧
    (wordAt (before.getLast?.or previous) = true ∨ wordAt after.head? = true)

theorem gluedAfter_none : GluedAfter none w t ↔ Occurs true w t := by
  simp [GluedAfter, Occurs]

theorem GluedAfter.cons {previous : Option Char} (h : GluedAfter (some c) w t) :
    GluedAfter previous w (c :: t) := by
  obtain ⟨before, after, rfl, hglued⟩ := h
  refine ⟨c :: before, after, rfl, hglued.imp_left fun hbefore => ?_⟩
  rw [List.getLast?_cons, Option.some_or]
  cases hget : before.getLast? <;> simpa [hget] using hbefore

theorem occurs_after_mask (hmask : Hides mask w) (h : Occurs false w (mask ++ t)) : Occurs false w t := by
  obtain ⟨before, after, ht, -⟩ := h
  obtain ⟨c, hlast, hc⟩ := hmask.closes
  have hshort := hmask.short
  rw [List.append_assoc] at ht
  rcases List.append_eq_append_iff.mp ht with ⟨x, -, hx⟩ | ⟨x, hx, hafter⟩
  · exact ⟨x, after, by rw [hx, List.append_assoc], fun h => by cases h⟩
  -- the mask reaches into the word, or the word lies in the mask
  · rcases List.append_eq_append_iff.mp hafter.symm with ⟨y, hw, hty⟩ | ⟨y, hxw, -⟩
    · cases x with
      | nil => exact ⟨[], after, by simpa [hw] using hty, fun h => by cases h⟩
      | cons d x =>
        have hmem : c ∈ d :: x := by
          rw [hx, List.getLast?_append_of_ne_nil _ (List.cons_ne_nil d x)] at hlast
          exact List.mem_of_getLast? hlast
        exact absurd (hw ▸ List.mem_append_left y hmem) hc
    · have hlen := congrArg List.length hx
      rw [hxw] at hlen
      simp only [List.length_append] at hlen
      have hbefore : before = [] := List.length_eq_zero_iff.mp (by omega)
      have hy : y = [] := List.length_eq_zero_iff.mp (by omega)
      subst hbefore hy
      rw [hx, hxw] at hlast
      simp only [List.nil_append, List.append_nil] at hlast
      exact absurd (List.mem_of_getLast? hlast) hc

/-- **A word of the pattern that a masked text shows stands glued in the source.** -/
theorem glued_of_maskAll (hpattern : ∀ rest, matchesAt pattern (w ++ rest) = true)
    (hlen : w.length = pattern.length) (hfirst : wordAt w.head? = true)
    (hlast : wordAt w.getLast? = true) (hmask : Hides mask w) {skip : ℕ} {previous : Option Char}
    (h : Occurs false w (maskAll pattern mask skip previous t)) : GluedAfter previous w t := by
  have hne : w ≠ [] := by
    rintro rfl
    cases hfirst
  induction t generalizing skip previous with
  | nil =>
    have hzero := h.length_le
    rw [show maskAll pattern mask skip previous [] = [] by cases skip <;> rfl] at hzero
    exact absurd (List.length_eq_zero_iff.mp (Nat.le_zero.mp hzero)) hne
  | cons c rest ih =>
    cases skip with
    | succ skip => exact (ih h).cons
    | zero =>
      rw [maskAll] at h
      split at h
      · exact (ih (occurs_after_mask hmask h)).cons
      rename_i hmiss
      obtain ⟨before, after, ht, -⟩ := h
      cases before with
      | cons d before =>
        obtain ⟨rfl, htail⟩ := List.cons.inj ht
        exact (ih ⟨before, after, htail, fun h => by cases h⟩).cons
      | nil =>
        -- the word starts here, so it is a boundary that is missing
        cases w with
        | nil => exact absurd rfl hne
        | cons d v =>
          obtain ⟨rfl, htail⟩ := List.cons.inj ht
          obtain ⟨after, rfl⟩ := prefix_of_maskAll hmask.mask_ne_nil
            (fun e he hv => hmask.opens e he (List.mem_cons_of_mem _ hv)) htail
          refine ⟨[], after, rfl, ?_⟩
          have hmatch : matchesAt pattern (c :: (v ++ after)) = true := hpattern after
          have htake : (c :: (v ++ after)).take pattern.length = c :: v := by
            rw [← hlen]
            exact List.take_left' rfl
          have hdrop : (c :: (v ++ after)).drop pattern.length = after := by
            rw [← hlen]
            exact List.drop_left' rfl
          rw [boundedMatch, hmatch, htake, hdrop] at hmiss
          simp only [boundary, List.head?_cons, hlast] at hmiss hfirst
          cases hp : wordAt previous
          · cases ha : wordAt after.head?
            · simp [hfirst, hp, ha] at hmiss
            · exact .inr rfl
          · exact .inl (by simpa using hp)

end Masking
