import Mathlib

/-!
# Runs of a step function and computations that may fail

* `run step s as` — the state after the actions `as`, taken one by one from `s`.
* `Meets step ok s as` — every action of the run is taken in a state where `ok` allows it.
* `Reached step s as t` — `t` is one of the states the run goes through.
* `inv_of_reached` — the invariant rule: what holds initially and survives every allowed step
  holds in every state the run goes through.
* `Except.bind_ok_iff` — a sequenced computation succeeds only through its first part.
* `Except.foldlM_inv`, `Except.foldlM_rel` — one and two runs of a fold that may fail.
-/

namespace Runs

variable {S A : Type*} (step : S → A → S)

/-- The state after a list of actions. -/
def run (s : S) (as : List A) : S := as.foldl step s

@[simp] theorem run_nil (s : S) : run step s [] = s := rfl

@[simp] theorem run_cons (s : S) (a : A) (as : List A) :
    run step s (a :: as) = run step (step s a) as := rfl

theorem run_append (s : S) (as bs : List A) :
    run step s (as ++ bs) = run step (run step s as) bs := List.foldl_append

/-- Every action is taken in a state that allows it. -/
def Meets (ok : S → A → Prop) : S → List A → Prop
  | _, [] => True
  | s, a :: as => ok s a ∧ Meets ok (step s a) as

instance decidableMeets (ok : S → A → Prop) [∀ s a, Decidable (ok s a)] :
    ∀ (s : S) (as : List A), Decidable (Meets step ok s as)
  | _, [] => inferInstanceAs (Decidable True)
  | s, a :: as =>
    have := decidableMeets ok (step s a) as
    inferInstanceAs (Decidable (ok s a ∧ Meets step ok (step s a) as))

theorem meets_append (ok : S → A → Prop) (s : S) (as bs : List A) :
    Meets step ok s (as ++ bs) ↔ Meets step ok s as ∧ Meets step ok (run step s as) bs := by
  induction as generalizing s with
  | nil => simp [Meets]
  | cons a as ih => simp [Meets, ih, and_assoc]

theorem meets_mono {ok ok' : S → A → Prop} (h : ∀ s a, ok s a → ok' s a) {s : S} {as : List A}
    (hok : Meets step ok s as) : Meets step ok' s as := by
  induction as generalizing s with
  | nil => trivial
  | cons a as ih => exact ⟨h s a hok.1, ih hok.2⟩

theorem meets_and {ok ok' : S → A → Prop} {s : S} {as : List A} (hok : Meets step ok s as)
    (hok' : Meets step ok' s as) : Meets step (fun s a => ok s a ∧ ok' s a) s as := by
  induction as generalizing s with
  | nil => trivial
  | cons a as ih => exact ⟨⟨hok.1, hok'.1⟩, ih hok.2 hok'.2⟩

theorem meets_iff_forall_action (ok : S → A → Prop) {s : S} {as : List A} :
    Meets step ok s as ↔ ∀ pre a post, as = pre ++ a :: post → ok (run step s pre) a := by
  constructor
  · rintro hok pre a post rfl
    exact ((meets_append step ok s pre _).mp hok).2.1
  · intro h
    induction as generalizing s with
    | nil => trivial
    | cons b as ih =>
      refine ⟨h [] b as rfl, ih ?_⟩
      rintro pre a post rfl
      exact h (b :: pre) a post rfl

/-- `t` is one of the states the run goes through (its first and last states included). -/
def Reached (s : S) (as : List A) (t : S) : Prop := ∃ pre, pre <+: as ∧ run step s pre = t

theorem reached_last (s : S) (as : List A) : Reached step s as (run step s as) :=
  ⟨as, List.prefix_rfl, rfl⟩

theorem reached_step {s : S} {as pre post : List A} {a : A} (h : as = pre ++ a :: post) :
    Reached step s as (step (run step s pre) a) := by
  subst h
  refine ⟨pre ++ [a], ⟨post, by simp⟩, ?_⟩
  rw [run_append]
  rfl

theorem reached_nil {s t : S} : Reached step s [] t ↔ t = s := by
  constructor
  · rintro ⟨pre, hpre, rfl⟩
    rw [List.prefix_nil.mp hpre]
    rfl
  · rintro rfl
    exact reached_last step t []

theorem reached_concat {s t : S} {as : List A} {a : A} :
    Reached step s (as ++ [a]) t ↔ Reached step s as t ∨ t = step (run step s as) a := by
  have hlast : run step s (as ++ [a]) = step (run step s as) a := by
    rw [run_append]
    rfl
  constructor
  · rintro ⟨pre, hpre, rfl⟩
    rcases List.prefix_concat_iff.mp hpre with rfl | hpre
    · exact .inr hlast
    · exact .inl ⟨pre, hpre, rfl⟩
  · rintro (⟨pre, hpre, rfl⟩ | rfl)
    · exact ⟨pre, hpre.trans (List.prefix_append _ _), rfl⟩
    · rw [← hlast]
      exact reached_last step s _

/-- **Invariant rule.** -/
theorem inv_run {ok : S → A → Prop} {Inv : S → Prop}
    (hstep : ∀ s a, Inv s → ok s a → Inv (step s a)) {s : S} (hs : Inv s) {as : List A}
    (hok : Meets step ok s as) : Inv (run step s as) := by
  induction as generalizing s with
  | nil => exact hs
  | cons a as ih => exact ih (hstep s a hs hok.1) hok.2

theorem inv_run_always {Inv : S → Prop} (hstep : ∀ s a, Inv s → Inv (step s a)) {s : S}
    (hs : Inv s) (as : List A) : Inv (run step s as) := by
  induction as generalizing s with
  | nil => exact hs
  | cons a as ih => exact ih (hstep s a hs)

theorem inv_of_reached {ok : S → A → Prop} {Inv : S → Prop}
    (hstep : ∀ s a, Inv s → ok s a → Inv (step s a)) {s : S} (hs : Inv s) {as : List A}
    (hok : Meets step ok s as) {t : S} (ht : Reached step s as t) : Inv t := by
  obtain ⟨pre, ⟨post, rfl⟩, rfl⟩ := ht
  exact inv_run step hstep hs ((meets_append step ok s pre post).mp hok).1

theorem inv_of_reached_always {Inv : S → Prop} (hstep : ∀ s a, Inv s → Inv (step s a)) {s : S}
    (hs : Inv s) {as : List A} {t : S} (ht : Reached step s as t) : Inv t := by
  obtain ⟨pre, -, rfl⟩ := ht
  exact inv_run_always step hstep hs pre

end Runs

theorem Except.bind_ok_iff {ε α β : Type} {x : Except ε α} {f : α → Except ε β} {r : β} :
    x >>= f = .ok r ↔ ∃ v, x = .ok v ∧ f v = .ok r := by
  rcases x with e | v
  · constructor
    · intro h
      cases h
    · rintro ⟨_, h, _⟩
      cases h
  · refine ⟨fun h => ⟨v, rfl, h⟩, ?_⟩
    rintro ⟨_, h, hf⟩
    cases h
    exact hf

theorem Except.ite_error_eq_ok {ε α : Type} {p : Prop} [Decidable p] {e : ε} {x : Except ε α}
    {r : α} : (if p then .error e else x) = .ok r ↔ ¬p ∧ x = .ok r := by
  split <;> simp [*]

theorem Except.bind_ne_error {ε α β : Type} {x : Except ε α} {f : α → Except ε β} {e : ε}
    (hx : x ≠ .error e) (hf : ∀ v, x = .ok v → f v ≠ .error e) : x >>= f ≠ .error e := by
  rcases x with e' | v
  · intro h
    cases h
    exact hx rfl
  · exact hf v rfl

theorem Except.mapM_ok_mem {ε α β : Type} {f : α → Except ε β} {l : List α} {r : List β}
    (h : l.mapM f = .ok r) : ∀ a ∈ l, ∃ b, f a = .ok b ∧ b ∈ r := by
  induction l generalizing r with
  | nil =>
    intro a ha
    cases ha
  | cons x xs ih =>
    intro a ha
    rw [List.mapM_cons] at h
    simp only [Except.bind_ok_iff] at h
    obtain ⟨y, hy, ys, hys, h⟩ := h
    cases h
    rcases List.mem_cons.mp ha with rfl | ha
    · exact ⟨y, hy, List.mem_cons_self⟩
    · obtain ⟨b, hb, hmem⟩ := ih hys a ha
      exact ⟨b, hb, List.mem_cons_of_mem _ hmem⟩

theorem Except.mapM_ok_of_mem {ε α β : Type} {f : α → Except ε β} {l : List α} {r : List β}
    (h : l.mapM f = .ok r) : ∀ b ∈ r, ∃ a ∈ l, f a = .ok b := by
  induction l generalizing r with
  | nil =>
    cases h
    intro b hb
    cases hb
  | cons x xs ih =>
    intro b hb
    rw [List.mapM_cons] at h
    simp only [Except.bind_ok_iff] at h
    obtain ⟨y, hy, ys, hys, h⟩ := h
    cases h
    rcases List.mem_cons.mp hb with rfl | hb
    · exact ⟨x, List.mem_cons_self, hy⟩
    · obtain ⟨a, ha, hfa⟩ := ih hys b hb
      exact ⟨a, List.mem_cons_of_mem _ ha, hfa⟩

/-- An invariant of every successful step is one of a successful fold. -/
theorem Except.foldlM_inv {ε α β : Type} {f : β → α → Except ε β} {P : β → Prop} {l : List α}
    (hstep : ∀ s a t, a ∈ l → P s → f s a = .ok t → P t) {s t : β} (hs : P s)
    (h : l.foldlM f s = .ok t) : P t := by
  induction l generalizing s with
  | nil =>
    cases h
    exact hs
  | cons a as ih =>
    rw [List.foldlM_cons, Except.bind_ok_iff] at h
    obtain ⟨u, hu, h⟩ := h
    exact ih (fun s b t hb => hstep s b t (List.mem_cons_of_mem _ hb))
      (hstep s a u List.mem_cons_self hs hu) h

/-- A relation kept by every pair of successful steps is kept by a pair of successful folds. -/
theorem Except.foldlM_rel {ε α β : Type} {f g : β → α → Except ε β} {R : β → β → Prop}
    {l : List α}
    (hstep : ∀ s s' a t t', a ∈ l → R s s' → f s a = .ok t → g s' a = .ok t' → R t t')
    {s s' t t' : β} (hs : R s s') (h : l.foldlM f s = .ok t) (h' : l.foldlM g s' = .ok t') :
    R t t' := by
  induction l generalizing s s' with
  | nil =>
    cases h
    cases h'
    exact hs
  | cons a as ih =>
    rw [List.foldlM_cons, Except.bind_ok_iff] at h h'
    obtain ⟨u, hu, h⟩ := h
    obtain ⟨u', hu', h'⟩ := h'
    exact ih (fun s s' b t t' hb => hstep s s' b t t' (List.mem_cons_of_mem _ hb))
      (hstep s s' a u u' List.mem_cons_self hs hu hu') h h'
