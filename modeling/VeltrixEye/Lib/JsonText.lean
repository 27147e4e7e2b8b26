import Mathlib

/-!
# JSON texts

What makes the text of a JSON value readable: a quoted string ends at its closing quote, a number at the first
character no number holds, and a list at its closing bracket.

* `escaped_inj`, `quote_inj` — the text of a string determines it, whatever follows.
* `digits_inj` — so does a text over an alphabet that what follows does not start with.
* `joined_inj` — and the text of a list, when the texts of its items do.
* `utf16_injective` — the code units of a text determine it.
-/

namespace JsonText

/-! ## Separators -/

theorem append_cons_inj {α : Type*} {d : α} {a b r r' : List α} (ha : d ∉ a) (hb : d ∉ b)
    (h : a ++ d :: r = b ++ d :: r') : a = b ∧ r = r' := by
  induction a generalizing b with
  | nil =>
    cases b with
    | nil =>
      cases h
      exact ⟨rfl, rfl⟩
    | cons y b =>
      simp only [List.nil_append, List.cons_append, List.cons.injEq] at h
      exact absurd h.1 fun hd => hb (hd ▸ List.mem_cons_self)
  | cons x a ih =>
    cases b with
    | nil =>
      simp only [List.nil_append, List.cons_append, List.cons.injEq] at h
      exact absurd h.1 fun hd => ha (hd ▸ List.mem_cons_self)
    | cons y b =>
      simp only [List.cons_append, List.cons.injEq] at h
      obtain ⟨hab, hr⟩ := ih (fun hd => ha (List.mem_cons_of_mem x hd))
        (fun hd => hb (List.mem_cons_of_mem y hd)) h.2
      exact ⟨by rw [h.1, hab], hr⟩

/-- What may follow a value: nothing, a comma or a closing bracket. -/
def Stops : List Char → Prop
  | [] => True
  | c :: _ => c = ',' ∨ c = ']' ∨ c = '}'

/-- Two texts over an alphabet that holds no separator, each up to where it stops. -/
theorem digits_inj {p : Char → Prop} (hp : ∀ c, p c → c ≠ ',' ∧ c ≠ ']' ∧ c ≠ '}') {a b r r' : List Char}
    (ha : ∀ c ∈ a, p c) (hb : ∀ c ∈ b, p c) (hr : Stops r) (hr' : Stops r') (h : a ++ r = b ++ r') :
    a = b ∧ r = r' := by
  have hstop : ∀ {c : Char} {l : List Char}, p c → ¬Stops (c :: l) := by
    intro c l hc hs
    obtain ⟨h1, h2, h3⟩ := hp c hc
    rcases hs with hs | hs | hs
    · exact h1 hs
    · exact h2 hs
    · exact h3 hs
  induction a generalizing b with
  | nil =>
    cases b with
    | nil => exact ⟨rfl, h⟩
    | cons y b =>
      rw [List.nil_append] at h
      rw [h] at hr
      exact absurd hr (hstop (hb y List.mem_cons_self))
  | cons x a ih =>
    cases b with
    | nil =>
      rw [List.nil_append] at h
      rw [← h] at hr'
      exact absurd hr' (hstop (ha x List.mem_cons_self))
    | cons y b =>
      simp only [List.cons_append, List.cons.injEq] at h
      obtain ⟨hab, hrest⟩ := ih (fun c hc => ha c (List.mem_cons_of_mem x hc))
        (fun c hc => hb c (List.mem_cons_of_mem y hc)) h.2
      exact ⟨by rw [h.1, hab], hrest⟩

/-! ## Strings -/

/-- The characters with an escape of two characters. -/
def shortEscapes : List (Char × Char) :=
  [('"', '"'), ('\\', '\\'), (Char.ofNat 8, 'b'), (Char.ofNat 9, 't'), (Char.ofNat 10, 'n'), (Char.ofNat 12, 'f'),
    (Char.ofNat 13, 'r')]

def shortEscape? (c : Char) : Option Char := (shortEscapes.find? fun e => e.1 = c).map (·.2)

/-- A character inside a string: the other control characters become `\u00xx`. -/
def escapeChar (c : Char) : List Char :=
  match shortEscape? c with
  | some e => ['\\', e]
  | none =>
    if c.toNat < 32 then ['\\', 'u', '0', '0', Nat.digitChar (c.toNat / 16), Nat.digitChar (c.toNat % 16)]
    else [c]

/-- `JSON.stringify` of a string. -/
def quote (s : String) : List Char := '"' :: (s.toList.flatMap escapeChar ++ ['"'])

theorem shortEscape?_mem {c e : Char} (h : shortEscape? c = some e) : (c, e) ∈ shortEscapes := by
  unfold shortEscape? at h
  obtain ⟨p, hp, rfl⟩ := Option.map_eq_some_iff.mp h
  have hc : p.1 = c := by simpa using List.find?_some hp
  rw [← hc]
  exact List.mem_of_find?_eq_some hp

theorem shortEscape?_inj {c d e : Char} (hc : shortEscape? c = some e) (hd : shortEscape? d = some e) : c = d := by
  have hnodup : (shortEscapes.map (·.2)).Nodup := by decide
  have := List.inj_on_of_nodup_map hnodup (shortEscape?_mem hc) (shortEscape?_mem hd) rfl
  exact congrArg Prod.fst this

theorem shortEscape?_ne_u {c : Char} : shortEscape? c ≠ some 'u' := by
  intro h
  have hnone : ∀ p ∈ shortEscapes, p.2 ≠ 'u' := by decide
  exact hnone _ (shortEscape?_mem h) rfl

theorem shortEscape?_backslash : shortEscape? '\\' = some '\\' := by decide

theorem shortEscape?_quote : shortEscape? '"' = some '"' := by decide

theorem digitChar_inj {a b : ℕ} (ha : a < 16) (hb : b < 16) (h : Nat.digitChar a = Nat.digitChar b) : a = b := by
  have hall : ∀ a b : Fin 16, Nat.digitChar a = Nat.digitChar b → a = b := by decide
  exact congrArg Fin.val (hall ⟨a, ha⟩ ⟨b, hb⟩ h)

theorem escapeChar_cases (c : Char) :
    (∃ e, shortEscape? c = some e ∧ escapeChar c = ['\\', e]) ∨
      (c.toNat < 32 ∧ escapeChar c =
        ['\\', 'u', '0', '0', Nat.digitChar (c.toNat / 16), Nat.digitChar (c.toNat % 16)]) ∨
      (c ≠ '\\' ∧ c ≠ '"' ∧ escapeChar c = [c]) := by
  unfold escapeChar
  cases hshort : shortEscape? c with
  | some e => exact .inl ⟨e, rfl, rfl⟩
  | none =>
    dsimp only
    split
    · rename_i hcontrol
      exact .inr (.inl ⟨hcontrol, rfl⟩)
    · refine .inr (.inr ⟨?_, ?_, rfl⟩)
      · rintro rfl
        rw [shortEscape?_backslash] at hshort
        cases hshort
      · rintro rfl
        rw [shortEscape?_quote] at hshort
        cases hshort

theorem escapeChar_head (c : Char) (r : List Char) : ∃ h t, escapeChar c ++ r = h :: t ∧ h ≠ '"' := by
  rcases escapeChar_cases c with ⟨e, -, he⟩ | ⟨-, he⟩ | ⟨-, hquote, he⟩
  · exact ⟨'\\', e :: r, by rw [he]; rfl, by decide⟩
  · exact ⟨'\\', _, by rw [he]; rfl, by decide⟩
  · exact ⟨c, r, by rw [he]; rfl, hquote⟩

theorem escapeChar_inj {c d : Char} {r r' : List Char} (h : escapeChar c ++ r = escapeChar d ++ r') :
    c = d ∧ r = r' := by
  rcases escapeChar_cases c with ⟨e, hc, he⟩ | ⟨hc, he⟩ | ⟨hc, -, he⟩
  · rcases escapeChar_cases d with ⟨e', hd, he'⟩ | ⟨-, he'⟩ | ⟨hd, -, he'⟩
    · rw [he, he'] at h
      simp only [List.cons_append, List.nil_append, List.cons.injEq, true_and] at h
      obtain ⟨rfl, hr⟩ := h
      exact ⟨shortEscape?_inj hc hd, hr⟩
    · rw [he, he'] at h
      simp only [List.cons_append, List.nil_append, List.cons.injEq, true_and] at h
      rw [h.1] at hc
      exact absurd hc shortEscape?_ne_u
    · rw [he, he'] at h
      simp only [List.cons_append, List.nil_append, List.cons.injEq] at h
      exact absurd h.1.symm hd
  · rcases escapeChar_cases d with ⟨e', hd, he'⟩ | ⟨hd, he'⟩ | ⟨hd, -, he'⟩
    · rw [he, he'] at h
      simp only [List.cons_append, List.nil_append, List.cons.injEq, true_and] at h
      rw [← h.1] at hd
      exact absurd hd shortEscape?_ne_u
    · rw [he, he'] at h
      simp only [List.cons_append, List.nil_append, List.cons.injEq, true_and] at h
      obtain ⟨hhigh, hlow, hr⟩ := h
      have hdiv := digitChar_inj (by omega) (by omega) hhigh
      have hmod := digitChar_inj (by omega) (by omega) hlow
      exact ⟨Char.toNat_inj.mp (by omega), hr⟩
    · rw [he, he'] at h
      simp only [List.cons_append, List.nil_append, List.cons.injEq] at h
      exact absurd h.1.symm hd
  · rcases escapeChar_cases d with ⟨e', hd, he'⟩ | ⟨hd, he'⟩ | ⟨-, -, he'⟩
    · rw [he, he'] at h
      simp only [List.cons_append, List.nil_append, List.cons.injEq] at h
      exact absurd h.1 hc
    · rw [he, he'] at h
      simp only [List.cons_append, List.nil_append, List.cons.injEq] at h
      exact absurd h.1 hc
    · rw [he, he'] at h
      simpa only [List.cons_append, List.nil_append, List.cons.injEq] using h

/-- An escaped text is read back up to its closing quote, when its parts are and none starts with the quote. -/
theorem escaped_inj {α : Type*} {escape : α → List Char}
    (hhead : ∀ a r, ∃ c t, escape a ++ r = c :: t ∧ c ≠ '"')
    (hinj : ∀ a b r r', escape a ++ r = escape b ++ r' → a = b ∧ r = r') {l l' : List α} {r r' : List Char}
    (h : l.flatMap escape ++ '"' :: r = l'.flatMap escape ++ '"' :: r') : l = l' ∧ r = r' := by
  induction l generalizing l' with
  | nil =>
    cases l' with
    | nil =>
      cases h
      exact ⟨rfl, rfl⟩
    | cons d l' =>
      rw [List.flatMap_nil, List.nil_append, List.flatMap_cons, List.append_assoc] at h
      obtain ⟨x, t, hx, hne⟩ := hhead d (l'.flatMap escape ++ '"' :: r')
      rw [hx] at h
      cases h
      exact absurd rfl hne
  | cons c l ih =>
    cases l' with
    | nil =>
      rw [List.flatMap_nil, List.nil_append, List.flatMap_cons, List.append_assoc] at h
      obtain ⟨x, t, hx, hne⟩ := hhead c (l.flatMap escape ++ '"' :: r)
      rw [hx] at h
      cases h
      exact absurd rfl hne
    | cons d l' =>
      rw [List.flatMap_cons, List.flatMap_cons, List.append_assoc, List.append_assoc] at h
      obtain ⟨rfl, hrest⟩ := hinj _ _ _ _ h
      obtain ⟨rfl, hr⟩ := ih hrest
      exact ⟨rfl, hr⟩

/-- **A quoted string is read back**, whatever follows. -/
theorem quote_inj {s s' : String} {r r' : List Char} (h : quote s ++ r = quote s' ++ r') : s = s' ∧ r = r' := by
  unfold quote at h
  simp only [List.cons_append, List.append_assoc, List.nil_append, List.cons.injEq, true_and] at h
  obtain ⟨hs, hr⟩ := escaped_inj escapeChar_head (fun _ _ _ _ => escapeChar_inj) h
  exact ⟨String.toList_injective hs, hr⟩

/-! ## Lists -/

/-- `texts.join(',')`. -/
def joined : List (List Char) → List Char
  | [] => []
  | [t] => t
  | t :: ts => t ++ ',' :: joined ts

/-- The text of a list that is not empty is its first item, followed by something that stops. -/
theorem joined_cons {α : Type*} (text : α → List Char) (close : Char) (a : α) (as : List α) (r : List Char) :
    joined ((a :: as).map text) ++ close :: r =
      text a ++ if as = [] then close :: r else ',' :: (joined (as.map text) ++ close :: r) := by
  cases as with
  | nil => rfl
  | cons b bs => simp [joined]

/-- **A list is read back item by item** up to its closing bracket. -/
theorem joined_inj {α : Type*} {R : α → α → Prop} {text : α → List Char} {close : Char}
    (hclose : close = ']' ∨ close = '}') {l l' : List α}
    (hstart : ∀ a r, (text a ++ r).head? ≠ some close)
    (hitem : ∀ a ∈ l, ∀ b ∈ l', ∀ r r', Stops r → Stops r' → text a ++ r = text b ++ r' → R a b ∧ r = r')
    {r r' : List Char} (h : joined (l.map text) ++ close :: r = joined (l'.map text) ++ close :: r') :
    List.Forall₂ R l l' ∧ r = r' := by
  have hcomma : close ≠ ',' := by
    rcases hclose with rfl | rfl <;> decide
  have hstops : ∀ r, Stops (close :: r) := fun r => .inr hclose
  have hstops' : ∀ r, Stops (',' :: r) := fun r => .inl rfl
  induction l generalizing l' with
  | nil =>
    cases l' with
    | nil =>
      cases h
      exact ⟨.nil, rfl⟩
    | cons b bs =>
      rw [joined_cons text close b bs r'] at h
      exact absurd (congrArg List.head? h).symm (hstart b _)
  | cons a as ih =>
    cases l' with
    | nil =>
      rw [joined_cons text close a as r] at h
      exact absurd (congrArg List.head? h) (hstart a _)
    | cons b bs =>
      rw [joined_cons text close a as r, joined_cons text close b bs r'] at h
      have hone := hitem a List.mem_cons_self b List.mem_cons_self _ _ (by split <;> simp only [hstops, hstops'])
        (by split <;> simp only [hstops, hstops']) h
      obtain ⟨hab, hrest⟩ := hone
      cases as with
      | nil =>
        cases bs with
        | nil =>
          cases hrest
          exact ⟨.cons hab .nil, rfl⟩
        | cons d ds =>
          rw [if_pos rfl, if_neg (List.cons_ne_nil _ _)] at hrest
          exact absurd (List.cons.inj hrest).1 hcomma
      | cons c cs =>
        cases bs with
        | nil =>
          rw [if_pos rfl, if_neg (List.cons_ne_nil _ _)] at hrest
          exact absurd (List.cons.inj hrest).1.symm hcomma
        | cons d ds =>
          rw [if_neg (List.cons_ne_nil _ _), if_neg (List.cons_ne_nil _ _)] at hrest
          obtain ⟨hall, hr⟩ := ih
            (fun x hx y hy => hitem x (List.mem_cons_of_mem _ hx) y (List.mem_cons_of_mem _ hy))
            (List.cons.inj hrest).2
          exact ⟨.cons hab hall, hr⟩

/-! ## Code units -/

/-- The UTF-16 code units of a character. -/
def utf16Char (c : Char) : List ℕ :=
  if c.toNat < 0x10000 then [c.toNat]
  else [0xD800 + (c.toNat - 0x10000) / 0x400, 0xDC00 + (c.toNat - 0x10000) % 0x400]

/-- The UTF-16 code units of a text; strings are compared by them. -/
def utf16 (s : String) : List ℕ := s.toList.flatMap utf16Char

theorem utf16Char_ne_nil (c : Char) : utf16Char c ≠ [] := by
  unfold utf16Char
  split <;> exact List.cons_ne_nil _ _

theorem char_not_surrogate (c : Char) : c.toNat < 0xD800 ∨ 0xDFFF < c.toNat := by
  rcases c.valid with h | ⟨h, -⟩
  · exact .inl h
  · exact .inr h

theorem char_lt (c : Char) : c.toNat < 0x110000 := by
  rcases c.valid with h | ⟨-, h⟩
  · exact lt_trans h (by decide)
  · exact h

theorem utf16Char_inj {c d : Char} {r r' : List ℕ} (h : utf16Char c ++ r = utf16Char d ++ r') :
    c = d ∧ r = r' := by
  have hc := char_not_surrogate c
  have hd := char_not_surrogate d
  have hc' := char_lt c
  have hd' := char_lt d
  unfold utf16Char at h
  split at h
  · split at h
    · simp only [List.cons_append, List.nil_append, List.cons.injEq] at h
      exact ⟨Char.toNat_inj.mp h.1, h.2⟩
    · simp only [List.cons_append, List.nil_append, List.cons.injEq] at h
      omega
  · split at h
    · simp only [List.cons_append, List.nil_append, List.cons.injEq] at h
      omega
    · simp only [List.cons_append, List.nil_append, List.cons.injEq] at h
      exact ⟨Char.toNat_inj.mp (by omega), h.2.2⟩

theorem utf16_injective : Function.Injective utf16 := by
  intro s s' h
  have hlist : ∀ l l' : List Char, l.flatMap utf16Char = l'.flatMap utf16Char → l = l' := by
    intro l
    induction l with
    | nil =>
      intro l' h
      cases l' with
      | nil => rfl
      | cons d l' =>
        rw [List.flatMap_nil, List.flatMap_cons] at h
        exact absurd (List.append_eq_nil_iff.mp h.symm).1 (utf16Char_ne_nil d)
    | cons c l ih =>
      intro l' h
      cases l' with
      | nil =>
        rw [List.flatMap_nil, List.flatMap_cons] at h
        exact absurd (List.append_eq_nil_iff.mp h).1 (utf16Char_ne_nil c)
      | cons d l' =>
        rw [List.flatMap_cons, List.flatMap_cons] at h
        obtain ⟨rfl, hrest⟩ := utf16Char_inj h
        rw [ih l' hrest]
  exact String.toList_injective (hlist _ _ h)

/-! ## Decimal texts -/

theorem digit_of_mem_repr {n : ℕ} {c : Char} (h : c ∈ (Nat.repr n).toList) : c.isDigit = true := by
  have hmem : c ∈ Nat.toDigits 10 n := by simpa [Nat.repr] using h
  exact Nat.isDigit_of_mem_toDigits (by decide) (by decide) hmem

theorem digit_or_minus_of_mem_repr {z : ℤ} {c : Char} (h : c ∈ z.repr.toList) :
    c.isDigit = true ∨ c = '-' := by
  cases z with
  | ofNat n => exact .inl (digit_of_mem_repr h)
  | negSucc n =>
    have hmem : c ∈ ("-" ++ Nat.repr (n + 1)).toList := h
    rw [String.toList_append, List.mem_append] at hmem
    rcases hmem with hminus | hdigit
    · exact .inr (by simpa using hminus)
    · exact .inl (digit_of_mem_repr hdigit)

end JsonText
