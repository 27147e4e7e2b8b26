import VeltrixEye.Lib.Series

/-!
# What a keyed map holds after it is filled

* `Series.mem_upsert`, `Series.mem_upserts` — an entry is the one just set, or an older one whose key was not.
* `Series.upserts_nodup` — keys stay unique.
* `Series.min?_key`, `Series.max?_key` — the extreme keys of a list are keys of it.
-/

namespace Series

variable {α K : Type*} [LinearOrder K] {key : α → K}

theorem mem_upsert {m : List α} {a b : α} :
    b ∈ upsert key m a ↔ b = a ∨ (b ∈ m ∧ key b ≠ key a) := by
  unfold upsert
  split
  · rename_i hany
    rw [List.mem_map]
    constructor
    · rintro ⟨c, hc, rfl⟩
      by_cases h : key c = key a
      · exact .inl (if_pos h)
      · rw [if_neg h]
        exact .inr ⟨hc, h⟩
    · rintro (rfl | ⟨hb, hne⟩)
      · obtain ⟨c, hc, hkey⟩ := List.any_eq_true.mp hany
        exact ⟨c, hc, if_pos (by simpa using hkey)⟩
      · exact ⟨b, hb, if_neg hne⟩
  · rename_i hnone
    have hnew : ∀ c ∈ m, key c ≠ key a := fun c hc hkey =>
      hnone (List.any_eq_true.mpr ⟨c, hc, by simpa using hkey⟩)
    rw [List.mem_append, List.mem_singleton]
    constructor
    · rintro (hb | rfl)
      · exact .inr ⟨hb, hnew b hb⟩
      · exact .inl rfl
    · rintro (rfl | ⟨hb, -⟩)
      · exact .inr rfl
      · exact .inl hb

/-- **What the map holds after entries with distinct keys were set.** -/
theorem mem_upserts {l : List α} (hl : (l.map key).Nodup) {m : List α} {b : α} :
    b ∈ l.foldl (upsert key) m ↔ b ∈ l ∨ (b ∈ m ∧ ∀ a ∈ l, key b ≠ key a) := by
  induction l generalizing m with
  | nil => simp
  | cons a l ih =>
    rw [List.map_cons, List.nodup_cons] at hl
    rw [List.foldl_cons, ih hl.2, mem_upsert]
    constructor
    · rintro (hb | ⟨rfl | ⟨hb, hne⟩, hnew⟩)
      · exact .inl (List.mem_cons_of_mem _ hb)
      · exact .inl List.mem_cons_self
      · exact .inr ⟨hb, List.forall_mem_cons.mpr ⟨hne, hnew⟩⟩
    · rintro (hb | ⟨hb, hnew⟩)
      · rcases List.mem_cons.mp hb with rfl | hb
        · refine .inr ⟨.inl rfl, fun c hc hkey => hl.1 ?_⟩
          rw [hkey]
          exact List.mem_map_of_mem hc
        · exact .inl hb
      · obtain ⟨hne, hnew⟩ := List.forall_mem_cons.mp hnew
        exact .inr ⟨.inr ⟨hb, hne⟩, hnew⟩

theorem upsert_nodup {m : List α} (hm : (m.map key).Nodup) (a : α) : ((upsert key m a).map key).Nodup := by
  rw [upsert_keys]
  split
  · exact hm
  rename_i hnone
  refine List.Nodup.append hm (List.nodup_singleton _) fun k hk hka => ?_
  obtain rfl := List.mem_singleton.mp hka
  obtain ⟨b, hb, hbk⟩ := List.mem_map.mp hk
  exact hnone (List.any_eq_true.mpr ⟨b, hb, by simpa using hbk⟩)

theorem upserts_nodup {m : List α} (hm : (m.map key).Nodup) (l : List α) :
    ((l.foldl (upsert key) m).map key).Nodup := by
  induction l generalizing m with
  | nil => exact hm
  | cons a l ih => exact ih (upsert_nodup hm a)

theorem entries_eq_self {l : List α} (h : (l.map key).Nodup) : entries key l = l :=
  foldl_upsert_eq_append [] (by simpa using h)

theorem min?_key {l : List α} {k : K} (h : (l.map key).min? = some k) :
    (∃ a ∈ l, key a = k) ∧ ∀ a ∈ l, k ≤ key a := by
  obtain ⟨hmem, hle⟩ := List.min?_eq_some_iff.mp h
  exact ⟨List.mem_map.mp hmem, fun a ha => hle _ (List.mem_map_of_mem ha)⟩

theorem max?_key {l : List α} {k : K} (h : (l.map key).max? = some k) :
    (∃ a ∈ l, key a = k) ∧ ∀ a ∈ l, key a ≤ k := by
  obtain ⟨hmem, hle⟩ := List.max?_eq_some_iff.mp h
  exact ⟨List.mem_map.mp hmem, fun a ha => hle _ (List.mem_map_of_mem ha)⟩

end Series
