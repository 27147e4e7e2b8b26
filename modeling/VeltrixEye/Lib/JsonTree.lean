import VeltrixEye.Lib.JsonText

/-!
# JSON trees

Values with leaves and keys of any type; their texts, and the rearrangement of the members of every object.

* `text_eq_iff` — two trees have one text exactly when they are one tree up to the texts of the leaves.
* `Matches` — two trees agree up to a relation of leaves, the order of members and the members left out.
* `arrange_eq_iff` — rearranged trees are equal exactly when the trees match.
-/

/-- A JSON value. -/
inductive JsonTree (κ α : Type) where
  | leaf (a : α)
  | array (items : List (JsonTree κ α))
  | object (members : List (κ × JsonTree κ α))

namespace JsonTree

variable {κ α β γ : Type}

/-! ## Recursion -/

theorem induct {P : JsonTree κ α → Prop} (leaf : ∀ a, P (.leaf a))
    (array : ∀ items, (∀ t ∈ items, P t) → P (.array items))
    (object : ∀ members, (∀ m ∈ members, P m.2) → P (.object members)) (t : JsonTree κ α) : P t := by
  refine @JsonTree.rec κ α P (fun items => ∀ t ∈ items, P t) (fun members => ∀ m ∈ members, P m.2)
    (fun m => P m.2) leaf array object ?_ ?_ ?_ ?_ ?_ t
  · exact fun _ h => absurd h List.not_mem_nil
  · exact fun t rest ht hrest => List.forall_mem_cons.mpr ⟨ht, hrest⟩
  · exact fun _ h => absurd h List.not_mem_nil
  · exact fun m rest hm hrest => List.forall_mem_cons.mpr ⟨hm, hrest⟩
  · exact fun _ _ ht => ht

mutual

/-- The value that the parts of a tree are put together to. -/
def fold (leaf : α → γ) (array : List γ → γ) (object : List (κ × γ) → γ) : JsonTree κ α → γ
  | .leaf a => leaf a
  | .array items => array (foldItems leaf array object items)
  | .object members => object (foldMembers leaf array object members)

def foldItems (leaf : α → γ) (array : List γ → γ) (object : List (κ × γ) → γ) :
    List (JsonTree κ α) → List γ
  | [] => []
  | t :: rest => fold leaf array object t :: foldItems leaf array object rest

def foldMembers (leaf : α → γ) (array : List γ → γ) (object : List (κ × γ) → γ) :
    List (κ × JsonTree κ α) → List (κ × γ)
  | [] => []
  | (k, t) :: rest => (k, fold leaf array object t) :: foldMembers leaf array object rest

end

variable {leaf : α → γ} {array : List γ → γ} {object : List (κ × γ) → γ}

theorem fold_array (items : List (JsonTree κ α)) :
    fold leaf array object (.array items) = array (items.map (fold leaf array object)) := by
  have hitems : ∀ items : List (JsonTree κ α),
      foldItems leaf array object items = items.map (fold leaf array object) := by
    intro items
    induction items with
    | nil => rfl
    | cons t rest ih => rw [foldItems, ih, List.map_cons]
  rw [fold, hitems]

theorem fold_object (members : List (κ × JsonTree κ α)) :
    fold leaf array object (.object members) =
      object (members.map (Prod.map id (fold leaf array object))) := by
  have hmembers : ∀ members : List (κ × JsonTree κ α),
      foldMembers leaf array object members = members.map (Prod.map id (fold leaf array object)) := by
    intro members
    induction members with
    | nil => rfl
    | cons m rest ih =>
      obtain ⟨k, t⟩ := m
      rw [foldMembers, ih, List.map_cons]
      rfl
  rw [fold, hmembers]

/-- The tree with other leaves. -/
def mapLeaf (g : α → β) : JsonTree κ α → JsonTree κ β := fold (fun a => .leaf (g a)) .array .object

theorem fold_mapLeaf {leaf : β → γ} {g : α → β} (t : JsonTree κ α) :
    (t.mapLeaf g).fold leaf array object = t.fold (fun a => leaf (g a)) array object := by
  induction t using induct with
  | leaf a => rfl
  | array items ih =>
    rw [mapLeaf, fold_array, fold_array, fold_array, List.map_map]
    exact congrArg array (List.map_congr_left ih)
  | object members ih =>
    rw [mapLeaf, fold_object, fold_object, fold_object, List.map_map]
    exact congrArg object (List.map_congr_left fun m hm => Prod.ext rfl (ih m hm))

/-! ## Texts -/

/-- How leaves and keys are written: a leaf is read back up to where it stops, a key whatever follows, and
    neither starts as an array, an object or the end of one does. -/
structure Lexicon (κ α : Type) where
  leaf : α → List Char
  key : κ → List Char
  leaf_inj : ∀ a b r r', JsonText.Stops r → JsonText.Stops r' → leaf a ++ r = leaf b ++ r' →
    leaf a = leaf b ∧ r = r'
  key_inj : ∀ k k' r r', key k ++ r = key k' ++ r' → k = k' ∧ r = r'
  leaf_head : ∀ a, ∃ c t, leaf a = c :: t ∧ c ∉ ['[', ']', '{', '}']
  key_head : ∀ k, ∃ c t, key k = c :: t ∧ c ≠ '}'

variable (L : Lexicon κ α)

def memberText (m : κ × List Char) : List Char := L.key m.1 ++ ':' :: m.2

/-- `JSON.stringify`, with the members in their order. -/
def text : JsonTree κ α → List Char :=
  fold L.leaf (fun items => '[' :: (JsonText.joined items ++ [']']))
    fun members => '{' :: (JsonText.joined (members.map (memberText L)) ++ ['}'])

theorem text_array (items : List (JsonTree κ α)) :
    text L (.array items) = '[' :: (JsonText.joined (items.map (text L)) ++ [']']) := fold_array items

theorem text_object (members : List (κ × JsonTree κ α)) :
    text L (.object members) =
      '{' :: (JsonText.joined (members.map fun m => memberText L (m.1, text L m.2)) ++ ['}']) := by
  rw [text, fold_object, List.map_map]
  rfl

theorem text_head (t : JsonTree κ α) (r : List Char) :
    (∃ a, t = .leaf a ∧ ∃ c u, text L t ++ r = c :: u ∧ c ∉ ['[', ']', '{', '}']) ∨
      (∃ items, t = .array items ∧ ∃ u, text L t ++ r = '[' :: u) ∨
      ∃ members, t = .object members ∧ ∃ u, text L t ++ r = '{' :: u := by
  cases t with
  | leaf a =>
    obtain ⟨c, u, hc, hne⟩ := L.leaf_head a
    exact Or.inl ⟨a, rfl, c, u ++ r, by rw [← List.cons_append, ← hc]; rfl, hne⟩
  | array items => exact Or.inr (Or.inl ⟨items, rfl, _, by rw [text_array, List.cons_append]⟩)
  | object members => exact Or.inr (Or.inr ⟨members, rfl, _, by rw [text_object, List.cons_append]⟩)

theorem text_no_close (t : JsonTree κ α) (r : List Char) : (text L t ++ r).head? ≠ some ']' := by
  rcases text_head L t r with ⟨-, -, c, u, h, hne⟩ | ⟨-, -, u, h⟩ | ⟨-, -, u, h⟩
  all_goals rw [h, List.head?_cons]
  · rintro ⟨rfl⟩
    exact hne (by decide)
  · decide
  · decide

theorem memberText_no_close (m : κ × List Char) (r : List Char) : (memberText L m ++ r).head? ≠ some '}' := by
  obtain ⟨c, u, hc, hne⟩ := L.key_head m.1
  rw [memberText, hc, List.cons_append, List.cons_append, List.head?_cons]
  exact fun h => hne (Option.some.inj h)

/-- **A tree is read back**, up to the texts of its leaves, whatever follows. -/
theorem text_inj {t t' : JsonTree κ α} {r r' : List Char} (hr : JsonText.Stops r) (hr' : JsonText.Stops r')
    (h : text L t ++ r = text L t' ++ r') : t.mapLeaf L.leaf = t'.mapLeaf L.leaf ∧ r = r' := by
  induction t using induct generalizing t' r r' with
  | leaf a =>
    rcases text_head L t' r' with ⟨b, rfl, -⟩ | ⟨-, -, u, hu⟩ | ⟨-, -, u, hu⟩
    · obtain ⟨hab, hrest⟩ := L.leaf_inj a b r r' hr hr' h
      exact ⟨congrArg JsonTree.leaf hab, hrest⟩
    all_goals
      obtain ⟨c, v, hc, hne⟩ := L.leaf_head a
      rw [hu, show text L (.leaf a) = c :: v from hc] at h
      rw [(List.cons.inj h).1] at hne
      exact absurd (by decide) hne
  | array items ih =>
    rcases text_head L t' r' with ⟨b, -, c, u, hu, hne⟩ | ⟨items', rfl, -⟩ | ⟨-, -, u, hu⟩
    · rw [hu, text_array] at h
      rw [← (List.cons.inj h).1] at hne
      exact absurd (by decide) hne
    · rw [text_array, text_array] at h
      simp only [List.cons_append, List.append_assoc, List.nil_append, List.cons.injEq, true_and] at h
      obtain ⟨hall, hrest⟩ := JsonText.joined_inj
        (R := fun t t' => t.mapLeaf L.leaf = t'.mapLeaf L.leaf) (.inl rfl) (text_no_close L)
        (fun a ha _ _ _ _ hs hs' heq => ih a ha hs hs' heq) h
      rw [mapLeaf, fold_array, fold_array]
      refine ⟨congrArg JsonTree.array ?_, hrest⟩
      exact List.forall₂_eq_eq_eq ▸ List.forall₂_map_left_iff.mpr (List.forall₂_map_right_iff.mpr hall)
    · rw [hu, text_array] at h
      exact absurd (List.cons.inj h).1 (by decide)
  | object members ih =>
    rcases text_head L t' r' with ⟨b, -, c, u, hu, hne⟩ | ⟨-, -, u, hu⟩ | ⟨members', rfl, -⟩
    · rw [hu, text_object] at h
      rw [← (List.cons.inj h).1] at hne
      exact absurd (by decide) hne
    · rw [hu, text_object] at h
      exact absurd (List.cons.inj h).1 (by decide)
    · rw [text_object, text_object] at h
      simp only [List.cons_append, List.append_assoc, List.nil_append, List.cons.injEq, true_and] at h
      obtain ⟨hall, hrest⟩ := JsonText.joined_inj
        (R := fun m m' : κ × JsonTree κ α => m.1 = m'.1 ∧ m.2.mapLeaf L.leaf = m'.2.mapLeaf L.leaf) (.inr rfl)
        (fun m => memberText_no_close L (m.1, text L m.2))
        (fun m hm m' _ s s' hs hs' heq => by
          rw [memberText, memberText, List.append_assoc, List.append_assoc] at heq
          obtain ⟨hkey, htail⟩ := L.key_inj _ _ _ _ heq
          obtain ⟨hsame, hs⟩ := ih m hm hs hs' (List.cons.inj htail).2
          exact ⟨⟨hkey, hsame⟩, hs⟩) h
      rw [mapLeaf, fold_object, fold_object]
      refine ⟨congrArg JsonTree.object ?_, hrest⟩
      exact List.forall₂_eq_eq_eq ▸ List.forall₂_map_left_iff.mpr
        (List.forall₂_map_right_iff.mpr (hall.imp fun _ _ hm => Prod.ext hm.1 hm.2))

theorem text_eq_iff {t t' : JsonTree κ α} : text L t = text L t' ↔ t.mapLeaf L.leaf = t'.mapLeaf L.leaf := by
  constructor
  · intro h
    have hend : JsonText.Stops [] := trivial
    exact (text_inj L hend hend (congrArg (· ++ []) h)).1
  · intro h
    have hfold := congrArg (fold (fun leaf => leaf) (fun items => '[' :: (JsonText.joined items ++ [']']))
      fun members => '{' :: (JsonText.joined (members.map (memberText L)) ++ ['}'])) h
    rwa [fold_mapLeaf, fold_mapLeaf] at hfold

/-! ## Members in another order -/

/-- The keys of every object are distinct. -/
inductive Distinct : JsonTree κ α → Prop
  | leaf (a : α) : Distinct (.leaf a)
  | array {items : List (JsonTree κ α)} (h : ∀ t ∈ items, Distinct t) : Distinct (.array items)
  | object {members : List (κ × JsonTree κ α)} (hkeys : (members.map Prod.fst).Nodup)
      (h : ∀ m ∈ members, Distinct m.2) : Distinct (.object members)

/-- Two trees with related leaves and, in every object, the same kept members in any order. -/
inductive Matches (R : α → α → Prop) (keep : κ → Prop) : JsonTree κ α → JsonTree κ α → Prop
  | leaf {a b : α} (h : R a b) : Matches R keep (.leaf a) (.leaf b)
  | array {items items' : List (JsonTree κ α)} (hlength : items.length = items'.length)
      (h : ∀ (i : ℕ) (hi : i < items.length) (hi' : i < items'.length), Matches R keep items[i] items'[i]) :
      Matches R keep (.array items) (.array items')
  | object {members members' : List (κ × JsonTree κ α)}
      (hkeys : ∀ k, keep k → (k ∈ members.map Prod.fst ↔ k ∈ members'.map Prod.fst))
      (h : ∀ k t t', keep k → (k, t) ∈ members → (k, t') ∈ members' → Matches R keep t t') :
      Matches R keep (.object members) (.object members')

theorem Matches.mono {R R' : α → α → Prop} {keep keep' : κ → Prop} {t t' : JsonTree κ α}
    (hR : ∀ a b, R a b → R' a b) (hkeep : ∀ k, keep' k → keep k) (h : Matches R keep t t') :
    Matches R' keep' t t' := by
  induction h with
  | leaf h => exact .leaf (hR _ _ h)
  | array hlength _ ih => exact .array hlength ih
  | object hkeys _ ih =>
    exact .object (fun k hk => hkeys k (hkeep k hk)) fun k t t' hk => ih k t t' (hkeep k hk)

/-- A way to rewrite the members of an object: which are kept, and in an order that the kept ones determine. -/
structure Arrangement (κ : Type) (keep : κ → Prop) where
  run : {β : Type} → List (κ × β) → List (κ × β)
  natural : ∀ {β γ : Type} (h : β → γ) (l : List (κ × β)),
    run (l.map (Prod.map id h)) = (run l).map (Prod.map id h)
  mem : ∀ {β : Type} (l : List (κ × β)) (m : κ × β), m ∈ run l ↔ m ∈ l ∧ keep m.1
  unique : ∀ {β : Type} (l l' : List (κ × β)), (l.map Prod.fst).Nodup → (l'.map Prod.fst).Nodup →
    (∀ m, keep m.1 → (m ∈ l ↔ m ∈ l')) → run l = run l'

variable {keep : κ → Prop} (F : Arrangement κ keep)

/-- The tree with the members of every object rewritten. -/
def arrange : JsonTree κ α → JsonTree κ α := fold .leaf .array fun members => .object (F.run members)

theorem mapLeaf_arrange_object (g : α → β) (members : List (κ × JsonTree κ α)) :
    (arrange F (.object members)).mapLeaf g =
      .object (F.run (members.map (Prod.map id fun t => (arrange F t).mapLeaf g))) := by
  rw [arrange, fold_object, mapLeaf, fold_object, ← F.natural, List.map_map]
  rfl

theorem mapLeaf_arrange_array (g : α → β) (items : List (JsonTree κ α)) :
    (arrange F (.array items)).mapLeaf g = .array (items.map fun t => (arrange F t).mapLeaf g) := by
  rw [arrange, fold_array, mapLeaf, fold_array, List.map_map]
  rfl

theorem value_unique {l : List (κ × β)} (h : (l.map Prod.fst).Nodup) {k : κ} {b b' : β} (hb : (k, b) ∈ l)
    (hb' : (k, b') ∈ l) : b = b' :=
  (Prod.mk.inj (List.inj_on_of_nodup_map h hb hb' rfl)).2

theorem run_eq_iff {l l' : List (κ × β)} (h : (l.map Prod.fst).Nodup) (h' : (l'.map Prod.fst).Nodup) :
    F.run l = F.run l' ↔
      (∀ k, keep k → (k ∈ l.map Prod.fst ↔ k ∈ l'.map Prod.fst)) ∧
        ∀ k b b', keep k → (k, b) ∈ l → (k, b') ∈ l' → b = b' := by
  constructor
  · intro hrun
    have hmem : ∀ m : κ × β, keep m.1 → (m ∈ l ↔ m ∈ l') := by
      intro m hm
      have hmem := F.mem l m
      rw [hrun, F.mem l' m, and_iff_left hm, and_iff_left hm] at hmem
      exact hmem.symm
    refine ⟨fun k hk => ⟨fun hin => ?_, fun hin => ?_⟩, fun k b b' hk hb hb' => ?_⟩
    · obtain ⟨m, hm, rfl⟩ := List.mem_map.mp hin
      exact List.mem_map_of_mem ((hmem m hk).mp hm)
    · obtain ⟨m, hm, rfl⟩ := List.mem_map.mp hin
      exact List.mem_map_of_mem ((hmem m hk).mpr hm)
    · exact value_unique h' ((hmem (k, b) hk).mp hb) hb'
  · rintro ⟨hkeys, hvalues⟩
    refine F.unique l l' h h' fun m hm => ⟨fun hin => ?_, fun hin => ?_⟩
    · obtain ⟨m', hm', hk⟩ := List.mem_map.mp ((hkeys m.1 hm).mp (List.mem_map_of_mem hin))
      obtain ⟨k, b⟩ := m
      obtain ⟨k', b'⟩ := m'
      cases hk
      rwa [hvalues k b b' hm hin hm']
    · obtain ⟨m', hm', hk⟩ := List.mem_map.mp ((hkeys m.1 hm).mpr (List.mem_map_of_mem hin))
      obtain ⟨k, b⟩ := m
      obtain ⟨k', b'⟩ := m'
      cases hk
      rwa [← hvalues k b' b hm hm' hin]

/-- **Rewritten trees are equal** exactly when the trees match. -/
theorem arrange_eq_iff (g : α → β) {t t' : JsonTree κ α} (ht : t.Distinct) (ht' : t'.Distinct) :
    (arrange F t).mapLeaf g = (arrange F t').mapLeaf g ↔ Matches (fun a b => g a = g b) keep t t' := by
  induction ht generalizing t' with
  | leaf a =>
    cases ht' with
    | leaf b =>
      constructor
      · exact fun h => .leaf (leaf.inj h)
      · rintro (⟨h⟩)
        exact congrArg JsonTree.leaf h
    | array _ => exact iff_of_false (fun h => nomatch h) (fun h => nomatch h)
    | object _ _ => exact iff_of_false (fun h => nomatch h) (fun h => nomatch h)
  | @array items hitems ih =>
    cases ht' with
    | leaf b => exact iff_of_false (fun h => nomatch h) (fun h => nomatch h)
    | @array items' hitems' =>
      rw [mapLeaf_arrange_array, mapLeaf_arrange_array, array.injEq]
      constructor
      · intro h
        have hlength : items.length = items'.length := by simpa using congrArg List.length h
        refine .array hlength fun i hi hi' => ?_
        rw [← ih _ (List.getElem_mem hi) (hitems' _ (List.getElem_mem hi'))]
        simpa [hi, hi'] using congrArg (·[i]?) h
      · rintro (_ | ⟨hlength, h⟩)
        refine List.ext_getElem (by simpa using hlength) fun i hi hi' => ?_
        rw [List.length_map] at hi hi'
        rw [List.getElem_map, List.getElem_map]
        exact (ih _ (List.getElem_mem hi) (hitems' _ (List.getElem_mem hi'))).mpr (h i hi hi')
    | object _ _ => exact iff_of_false (fun h => nomatch h) (fun h => nomatch h)
  | @object members hkeys hmembers ih =>
    cases ht' with
    | leaf b => exact iff_of_false (fun h => nomatch h) (fun h => nomatch h)
    | array _ => exact iff_of_false (fun h => nomatch h) (fun h => nomatch h)
    | @object members' hkeys' hmembers' =>
      have hfst : ∀ (f : JsonTree κ α → JsonTree κ β) (l : List (κ × JsonTree κ α)),
          (l.map (Prod.map id f)).map Prod.fst = l.map Prod.fst := fun f l => by
        rw [List.map_map]
        rfl
      rw [mapLeaf_arrange_object, mapLeaf_arrange_object, object.injEq,
        run_eq_iff F (by rwa [hfst]) (by rwa [hfst]), hfst, hfst]
      constructor
      · rintro ⟨hsame, h⟩
        exact .object hsame fun k t t' hk ht ht' => (ih _ ht (hmembers' _ ht')).mp
          (h k _ _ hk (List.mem_map.mpr ⟨(k, t), ht, rfl⟩) (List.mem_map.mpr ⟨(k, t'), ht', rfl⟩))
      · rintro (_ | _ | ⟨hsame, h⟩)
        refine ⟨hsame, fun k b b' hk hb hb' => ?_⟩
        obtain ⟨⟨_, t⟩, ht, heq⟩ := List.mem_map.mp hb
        obtain ⟨⟨_, t'⟩, ht', heq'⟩ := List.mem_map.mp hb'
        cases heq
        cases heq'
        exact (ih _ ht (hmembers' _ ht')).mpr (h _ t t' hk ht ht')

end JsonTree
