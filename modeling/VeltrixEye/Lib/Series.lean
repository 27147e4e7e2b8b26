import Mathlib

/-!
# Series keyed by a linear order

A keyed map filled one entry after the other (a later entry replaces the one with its key) and read
back in ascending key order.

* `ofEntries_strict` — the keys strictly ascend.
* `filter_ofEntries` — selecting by key commutes with building the series.
* `ofEntries_eq_self` — a strictly ascending list is its own series.
* `split_at` — a strictly ascending list is its part up to a bound followed by the rest.
-/

namespace Series

variable {α K : Type*} [LinearOrder K] (key : α → K)

/-- `map.set(key a, a)`: an entry with this key is replaced in its place. -/
def upsert (m : List α) (a : α) : List α :=
  if m.any (fun b => decide (key b = key a)) then m.map (fun b => if key b = key a then a else b)
  else m ++ [a]

/-- The map after the entries were set in order. -/
def entries (l : List α) : List α := l.foldl (upsert key) []

/-- The entries in ascending key order. -/
def ofEntries (l : List α) : List α :=
  (entries key l).insertionSort (fun a b => key a ≤ key b)

theorem upsert_keys (m : List α) (a : α) :
    (upsert key m a).map key =
      if m.any (fun b => decide (key b = key a)) then m.map key else m.map key ++ [key a] := by
  unfold upsert
  split
  · rw [List.map_map]
    refine List.map_congr_left fun b _ => ?_
    by_cases h : key b = key a
    · simp [h]
    · simp [h]
  · simp

theorem entries_nodup (l : List α) : ((entries key l).map key).Nodup := by
  suffices h : ∀ m : List α, (m.map key).Nodup → ((l.foldl (upsert key) m).map key).Nodup from
    h [] List.nodup_nil
  induction l with
  | nil => exact fun m hm => hm
  | cons a as ih =>
    intro m hm
    refine ih _ ?_
    rw [upsert_keys]
    split
    · exact hm
    rename_i hnone
    refine List.Nodup.append hm (List.nodup_singleton _) ?_
    intro k hk hka
    obtain rfl := List.mem_singleton.mp hka
    obtain ⟨b, hb, hbk⟩ := List.mem_map.mp hk
    exact hnone (List.any_eq_true.mpr ⟨b, hb, by simpa using hbk⟩)

variable {key}

theorem strict_of_nodup {l : List α} (hsorted : l.Pairwise (fun a b => key a ≤ key b))
    (hnodup : (l.map key).Nodup) : l.Pairwise (fun a b => key a < key b) := by
  have hne : l.Pairwise (fun a b => key a ≠ key b) := List.pairwise_map.mp hnodup
  exact (hsorted.and hne).imp fun h => lt_of_le_of_ne h.1 h.2

theorem eq_of_perm {l l' : List α} (h : l.Pairwise (fun a b => key a < key b))
    (h' : l'.Pairwise (fun a b => key a < key b)) (hp : l.Perm l') : l = l' :=
  hp.eq_of_pairwise (fun _ _ _ _ hab hba => absurd hab (lt_asymm hba)) h h'

variable (key)

theorem ofEntries_strict (l : List α) :
    (ofEntries key l).Pairwise (fun a b => key a < key b) := by
  refine strict_of_nodup (List.pairwise_insertionSort _ _) ?_
  have hp := (List.perm_insertionSort (fun a b => key a ≤ key b) (entries key l)).map key
  exact hp.nodup_iff.mpr (entries_nodup key l)

theorem filter_upsert (p : K → Bool) (m : List α) (a : α) :
    (upsert key m a).filter (fun b => p (key b)) =
      if p (key a) then upsert key (m.filter (fun b => p (key b))) a
      else m.filter (fun b => p (key b)) := by
  unfold upsert
  by_cases hpa : p (key a)
  · have hany : (m.filter (fun b => p (key b))).any (fun b => decide (key b = key a)) =
        m.any (fun b => decide (key b = key a)) := by
      rw [List.any_filter]
      congr 1
      funext b
      by_cases h : key b = key a
      · simp [h, hpa]
      · simp [h]
    rw [if_pos hpa, hany]
    split
    · rw [List.filter_map]
      refine congrArg (List.map _) (List.filter_congr fun b _ => ?_)
      by_cases h : key b = key a
      · simp [h]
      · simp [h]
    · simp [List.filter_append, hpa]
  · rw [if_neg hpa]
    split
    · rw [List.filter_map]
      have hsame : (m.filter (fun b => p (key b))).map (fun b => if key b = key a then a else b) =
          m.filter (fun b => p (key b)) := by
        refine (List.map_congr_left fun b hb => ?_).trans (List.map_id _)
        have hpb : p (key b) = true := (List.mem_filter.mp hb).2
        rw [if_neg, id]
        intro h
        rw [h] at hpb
        exact hpa hpb
      have hcongr : m.filter ((fun b => p (key b)) ∘ fun b => if key b = key a then a else b) =
          m.filter (fun b => p (key b)) := by
        refine List.filter_congr fun b _ => ?_
        by_cases h : key b = key a
        · simp [h]
        · simp [h]
      rw [hcongr, hsame]
    · simp [List.filter_append, hpa]

theorem filter_entries (p : K → Bool) (l : List α) :
    (entries key l).filter (fun b => p (key b)) = entries key (l.filter (fun b => p (key b))) := by
  suffices h : ∀ m : List α, (l.foldl (upsert key) m).filter (fun b => p (key b)) =
      (l.filter (fun b => p (key b))).foldl (upsert key) (m.filter (fun b => p (key b))) from h []
  induction l with
  | nil => exact fun m => rfl
  | cons a as ih =>
    intro m
    rw [List.foldl_cons, ih, filter_upsert]
    by_cases hpa : p (key a)
    · simp [hpa]
    · simp [hpa]

/-- **Selecting by key commutes with building the series.** -/
theorem filter_ofEntries (p : K → Bool) (l : List α) :
    (ofEntries key l).filter (fun b => p (key b)) =
      ofEntries key (l.filter (fun b => p (key b))) := by
  refine eq_of_perm ((ofEntries_strict key l).filter _) (ofEntries_strict key _) ?_
  unfold ofEntries
  have hl := (List.perm_insertionSort (fun a b => key a ≤ key b) (entries key l)).filter
    (fun b => p (key b))
  rw [filter_entries] at hl
  exact hl.trans (List.perm_insertionSort _ _).symm

variable {key}

theorem foldl_upsert_eq_append {l : List α} :
    ∀ m : List α, ((m ++ l).map key).Nodup → l.foldl (upsert key) m = m ++ l := by
  induction l with
  | nil => simp
  | cons a as ih =>
    intro m hnodup
    have hnew : m.any (fun b => decide (key b = key a)) = false := by
      rw [List.map_append, List.map_cons] at hnodup
      have hnot := (List.nodup_middle.mp hnodup).notMem
      simp only [List.any_eq_false, decide_eq_true_eq]
      intro b hb hkey
      exact hnot (List.mem_append_left _ (hkey ▸ List.mem_map_of_mem hb))
    have hstep : upsert key m a = m ++ [a] := by
      rw [upsert, hnew]
      rfl
    rw [List.foldl_cons, hstep, ih (m ++ [a]) (by simpa using hnodup), List.append_assoc]
    rfl

theorem ofEntries_eq_self {l : List α} (h : l.Pairwise (fun a b => key a < key b)) :
    ofEntries key l = l := by
  have hnodup : (l.map key).Nodup := List.pairwise_map.mpr (h.imp fun hab => hab.ne)
  have hentries : entries key l = l := foldl_upsert_eq_append [] (by simpa using hnodup)
  rw [ofEntries, hentries]
  exact (h.imp fun hab => hab.le).insertionSort_eq

theorem split_at {l : List α} (h : l.Pairwise (fun a b => key a < key b)) (t : K) :
    l = l.filter (fun a => decide (key a ≤ t)) ++ l.filter (fun a => decide (t < key a)) := by
  induction l with
  | nil => rfl
  | cons a as ih =>
    obtain ⟨hhead, htail⟩ := List.pairwise_cons.mp h
    by_cases ha : key a ≤ t
    · rw [List.filter_cons_of_pos (by simpa using ha),
        List.filter_cons_of_neg (by simpa using ha), List.cons_append, ← ih htail]
    · have hbelow : as.filter (fun b => decide (key b ≤ t)) = [] := by
        refine List.filter_eq_nil_iff.mpr fun b hb => ?_
        simpa using (not_le.mp ha).trans (hhead b hb)
      have habove : as.filter (fun b => decide (t < key b)) = as := by
        refine List.filter_eq_self.mpr fun b hb => ?_
        simpa using (not_le.mp ha).trans (hhead b hb)
      rw [List.filter_cons_of_neg (by simpa using ha),
        List.filter_cons_of_pos (by simpa using ha), hbelow, habove, List.nil_append]

end Series
