import Mathlib

/-!
# Tasks that work on shared data, one step at a time

A pool is shared data and a list of tasks.  A step of one task sees the shared data and the other
tasks (it waits for what they hold) and may change the data and itself.

* `Pool.Safe I J K` — `I` holds of the data, `J` of the data and every task, `K` of every two tasks.
* `Pool.safe_advance`, `Pool.safe_spawn`, `Pool.safe_update` — the interference rules: a step keeps the
  invariant when it keeps its own part and disturbs no other task.
-/

structure Pool (D T : Type*) where
  shared : D
  tasks : List T

namespace Pool

variable {D T : Type*}

/-- The tasks other than `w`. -/
def others (p : Pool D T) (w : ℕ) : List T := p.tasks.eraseIdx w

/-- Task `w` takes the step `f`. -/
def advance (f : D → List T → T → D × T) (p : Pool D T) (w : ℕ) : Pool D T :=
  match p.tasks[w]? with
  | some t =>
    let r := f p.shared (p.others w) t
    ⟨r.1, p.tasks.set w r.2⟩
  | none => p

/-- A new task joins. -/
def spawn (p : Pool D T) (t : T) : Pool D T := ⟨p.shared, p.tasks ++ [t]⟩

/-- The data change from outside; the change sees every task. -/
def update (f : D → List T → D) (p : Pool D T) : Pool D T := ⟨f p.shared p.tasks, p.tasks⟩

theorem mem_others {p : Pool D T} {w : ℕ} {t : T} :
    t ∈ p.others w ↔ ∃ i, i ≠ w ∧ p.tasks[i]? = some t := List.mem_eraseIdx_iff_getElem?

theorem advance_of_get {f : D → List T → T → D × T} {p : Pool D T} {w : ℕ} {t : T}
    (h : p.tasks[w]? = some t) :
    p.advance f w = ⟨(f p.shared (p.others w) t).1,
      p.tasks.set w (f p.shared (p.others w) t).2⟩ := by
  unfold advance
  rw [h]

theorem advance_of_none {f : D → List T → T → D × T} {p : Pool D T} {w : ℕ}
    (h : p.tasks[w]? = none) : p.advance f w = p := by
  unfold advance
  rw [h]

theorem getElem?_set_cases {l : List T} {w i : ℕ} {t t' : T} (h : (l.set w t)[i]? = some t') :
    (i = w ∧ t' = t) ∨ (i ≠ w ∧ l[i]? = some t') := by
  rw [List.getElem?_set] at h
  split at h
  · rename_i heq
    split at h
    · exact .inl ⟨heq.symm, (Option.some.inj h).symm⟩
    · cases h
  · rename_i hne
    exact .inr ⟨fun e => hne e.symm, h⟩

/-! ## Invariants -/

/-- An invariant of the data, of every task and of every two tasks. -/
structure Safe (I : D → Prop) (J : D → T → Prop) (K : T → T → Prop) (p : Pool D T) : Prop where
  shared : I p.shared
  task : ∀ t ∈ p.tasks, J p.shared t
  pair : ∀ (i j : ℕ) t t', i ≠ j → p.tasks[i]? = some t → p.tasks[j]? = some t' → K t t'

variable {I : D → Prop} {J : D → T → Prop} {K : T → T → Prop}

theorem Safe.other {p : Pool D T} (hp : Safe I J K p) {w : ℕ} {t t' : T}
    (hw : p.tasks[w]? = some t) (ht' : t' ∈ p.others w) : J p.shared t' ∧ K t t' ∧ K t' t := by
  obtain ⟨i, hi, hget⟩ := mem_others.mp ht'
  exact ⟨hp.task t' (List.mem_of_getElem? hget), hp.pair w i t t' (Ne.symm hi) hw hget,
    hp.pair i w t' t hi hget hw⟩

/-- **Interference rule.** A step that keeps the data's invariant and its own, and disturbs no other
    task, keeps the invariant of the pool. -/
theorem safe_advance {f : D → List T → T → D × T} {p : Pool D T} (hp : Safe I J K p) (w : ℕ)
    (hf : ∀ t r, p.tasks[w]? = some t → f p.shared (p.others w) t = r →
      I r.1 ∧ J r.1 r.2 ∧ ∀ t' ∈ p.others w, J r.1 t' ∧ K r.2 t' ∧ K t' r.2) :
    Safe I J K (p.advance f w) := by
  cases hw : p.tasks[w]? with
  | none => rwa [advance_of_none hw]
  | some t =>
    rw [advance_of_get hw]
    obtain ⟨hI, hJ, hrest⟩ := hf t _ hw rfl
    have other : ∀ {i t'}, i ≠ w → p.tasks[i]? = some t' → t' ∈ p.others w :=
      fun hi hget => mem_others.mpr ⟨_, hi, hget⟩
    refine ⟨hI, ?_, ?_⟩
    · intro t' ht'
      obtain ⟨i, hi⟩ := List.getElem?_of_mem ht'
      rcases getElem?_set_cases hi with ⟨-, rfl⟩ | ⟨hne, hget⟩
      · exact hJ
      · exact (hrest t' (other hne hget)).1
    · intro i j ti tj hij hi hj
      rcases getElem?_set_cases hi with ⟨hiw, hti⟩ | ⟨hiw, hgeti⟩
      · rcases getElem?_set_cases hj with ⟨hjw, -⟩ | ⟨hjw, hgetj⟩
        · exact absurd (hiw.trans hjw.symm) hij
        · rw [hti]
          exact (hrest tj (other hjw hgetj)).2.1
      · rcases getElem?_set_cases hj with ⟨-, htj⟩ | ⟨-, hgetj⟩
        · rw [htj]
          exact (hrest ti (other hiw hgeti)).2.2
        · exact hp.pair i j ti tj hij hgeti hgetj

theorem safe_spawn {p : Pool D T} (hp : Safe I J K p) {t : T} (hJ : J p.shared t)
    (hK : ∀ t' ∈ p.tasks, K t t' ∧ K t' t) : Safe I J K (p.spawn t) := by
  have split : ∀ {i t'}, (p.tasks ++ [t])[i]? = some t' →
      p.tasks[i]? = some t' ∨ (i = p.tasks.length ∧ t' = t) := by
    intro i t' h
    rw [List.getElem?_append] at h
    split at h
    · exact .inl h
    rename_i hlt
    rw [List.getElem?_singleton] at h
    split at h
    · exact .inr ⟨by omega, (Option.some.inj h).symm⟩
    · cases h
  refine ⟨hp.shared, ?_, ?_⟩
  · intro t' ht'
    rcases List.mem_append.mp ht' with ht' | ht'
    · exact hp.task t' ht'
    · rw [List.mem_singleton.mp ht']
      exact hJ
  · intro i j ti tj hij hi hj
    rcases split hi with hgeti | ⟨hil, hti⟩
    · rcases split hj with hgetj | ⟨-, htj⟩
      · exact hp.pair i j ti tj hij hgeti hgetj
      · rw [htj]
        exact (hK ti (List.mem_of_getElem? hgeti)).2
    · rcases split hj with hgetj | ⟨hjl, -⟩
      · rw [hti]
        exact (hK tj (List.mem_of_getElem? hgetj)).1
      · exact absurd (hil.trans hjl.symm) hij

/-- A change from outside that disturbs no task keeps the invariant. -/
theorem safe_update {f : D → List T → D} {p : Pool D T} (hp : Safe I J K p)
    (hI : I (f p.shared p.tasks)) (hJ : ∀ t ∈ p.tasks, J (f p.shared p.tasks) t) :
    Safe I J K (p.update f) := ⟨hI, hJ, hp.pair⟩

end Pool
