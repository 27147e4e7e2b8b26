import Mathlib

/-!
# Tables as lists

Rows are appended and changed in place; a key is a function of the row that no two rows share.

* `nodup_map_concat`, `nodup_map_map` — an append and an update in place keep a key unique.
* `eq_of_key`, `find?_key` — a unique key determines its row.
* `filter_key_length` — at most one row has a given value of the key.
-/

namespace Rows

variable {α β : Type*}

theorem nodup_map_concat {f : α → β} {l : List α} {a : α} (h : (l.map f).Nodup)
    (ha : ∀ b ∈ l, f b ≠ f a) : ((l ++ [a]).map f).Nodup := by
  rw [List.map_append, List.nodup_append]
  refine ⟨h, List.nodup_singleton _, ?_⟩
  intro x hx y hy
  obtain ⟨b, hb, rfl⟩ := List.mem_map.mp hx
  rw [List.mem_singleton.mp hy]
  exact ha b hb

theorem nodup_map_append_option {f : α → β} {l : List α} {o : Option α} (h : (l.map f).Nodup)
    (ho : ∀ a, o = some a → ∀ b ∈ l, f b ≠ f a) : ((l ++ o.toList).map f).Nodup := by
  cases o with
  | none => simpa using h
  | some a => exact nodup_map_concat h (ho a rfl)

theorem nodup_map_map {f : α → β} {g : α → α} {l : List α} (h : (l.map f).Nodup)
    (hg : ∀ a ∈ l, f (g a) = f a) : ((l.map g).map f).Nodup := by
  rw [List.map_map]
  have : l.map (f ∘ g) = l.map f := List.map_congr_left hg
  rwa [this]

theorem eq_of_key {f : α → β} {l : List α} (h : (l.map f).Nodup) {a b : α} (ha : a ∈ l) (hb : b ∈ l)
    (hab : f a = f b) : a = b := List.inj_on_of_nodup_map h ha hb hab

theorem find?_key [DecidableEq β] {f : α → β} {l : List α} (h : (l.map f).Nodup) {a : α}
    (ha : a ∈ l) : l.find? (fun b => f b = f a) = some a := by
  cases hfind : l.find? (fun b => f b = f a) with
  | none => simpa using List.find?_eq_none.mp hfind a ha
  | some b =>
    have hb : f b = f a := by simpa using List.find?_some hfind
    rw [eq_of_key h (List.mem_of_find?_eq_some hfind) ha hb]

theorem filter_key_length [DecidableEq β] {f : α → β} {l : List α} (h : (l.map f).Nodup)
    (k : β) : (l.filter fun a => f a = k).length ≤ 1 := by
  induction l with
  | nil => simp
  | cons a l ih =>
    rw [List.map_cons, List.nodup_cons] at h
    by_cases hk : f a = k
    · have hnone : l.filter (fun b => f b = k) = [] := by
        rw [List.filter_eq_nil_iff]
        intro b hb hbk
        refine h.1 (List.mem_map.mpr ⟨b, hb, ?_⟩)
        rw [hk]
        simpa using hbk
      simp [hk, hnone]
    · simpa [hk] using ih h.2

end Rows
