import VeltrixEye.Lib.AddressText

/-!
# The patterns of network addresses

The regular expressions by which the platform tells IPv4 and IPv6 texts, and the spellings they match.

* `isIP` — 4, 6 or 0.
* `isIP_eq_four_iff` — an IPv4 text is a dotted quad without leading zeros.
* `isIP_eq_six_iff` — an IPv6 text is a standard spelling.
-/

namespace AddressText

open RegularExpression Patterns

/-! ## IPv4 -/

/-- `25[0-5]|2[0-4]\d|1\d\d|[1-9]\d|\d`. -/
def v4Seg : RegularExpression Char :=
  char '2' * (char '5' * oneOf "012345".toList) +
    (char '2' * (oneOf "01234".toList * oneOf decimalDigits) +
      (char '1' * (oneOf decimalDigits * oneOf decimalDigits) +
        (oneOf "123456789".toList * oneOf decimalDigits + oneOf decimalDigits)))

/-- `(v4Seg\.){3}v4Seg`. -/
def v4Str : RegularExpression Char := (v4Seg * char '.') ^ 3 * v4Seg

theorem mem_add {p q : RegularExpression Char} {s : List Char} :
    s ∈ (p + q).matches' ↔ s ∈ p.matches' ∨ s ∈ q.matches' := by
  rw [matches'_add, Language.mem_add]

theorem mem_oneOf_mul {cs : List Char} {q : RegularExpression Char} {s : List Char} :
    s ∈ (oneOf cs * q).matches' ↔ ∃ c ∈ cs, ∃ b ∈ q.matches', s = c :: b := by
  rw [mem_mul]
  constructor
  · rintro ⟨a, ha, b, hb, rfl⟩
    obtain ⟨c, hc, rfl⟩ := mem_oneOf.mp ha
    exact ⟨c, hc, b, hb, rfl⟩
  · rintro ⟨c, hc, b, hb, rfl⟩
    exact ⟨[c], mem_oneOf.mpr ⟨c, hc, rfl⟩, b, hb, rfl⟩

theorem mem_v4Seg {s : List Char} : s ∈ v4Seg.matches' ↔
    (∃ c ∈ "012345".toList, s = ['2', '5', c]) ∨
      (∃ b ∈ "01234".toList, ∃ c ∈ decimalDigits, s = ['2', b, c]) ∨
        (∃ b ∈ decimalDigits, ∃ c ∈ decimalDigits, s = ['1', b, c]) ∨
          (∃ a ∈ "123456789".toList, ∃ b ∈ decimalDigits, s = [a, b]) ∨ ∃ a ∈ decimalDigits, s = [a] := by
  unfold v4Seg
  simp only [mem_add, mem_char_mul, mem_oneOf_mul, mem_oneOf]
  refine or_congr ?_ (or_congr ?_ (or_congr ?_ (or_congr ?_ Iff.rfl)))
  all_goals grind

/-! Octets of one, two and three digits. -/

theorem octet_one : (decimalDigits.all fun a => decide (decimalValue [a] ≤ 255)) = true := by
  decide

theorem octet_two : (decimalDigits.all fun a => decimalDigits.all fun b =>
    decide (decimalValue [a, b] ≤ 255 ∧ (a ≠ '0' ↔ a ∈ "123456789".toList))) = true := by
  decide

theorem octet_three :
    (decimalDigits.all fun a => decimalDigits.all fun b => decimalDigits.all fun c =>
      decide ((a ≠ '0' ∧ decimalValue [a, b, c] ≤ 255) ↔
        ((a = '2' ∧ b = '5' ∧ c ∈ "012345".toList) ∨ (a = '2' ∧ b ∈ "01234".toList) ∨ a = '1'))) =
      true := by
  decide

theorem octet_three_iff {a b c : Char} (ha : a ∈ decimalDigits) (hb : b ∈ decimalDigits)
    (hc : c ∈ decimalDigits) : (a ≠ '0' ∧ decimalValue [a, b, c] ≤ 255) ↔
      ((a = '2' ∧ b = '5' ∧ c ∈ "012345".toList) ∨ (a = '2' ∧ b ∈ "01234".toList) ∨ a = '1') :=
  of_decide_eq_true (List.all_eq_true.mp (List.all_eq_true.mp (List.all_eq_true.mp octet_three a ha) b hb) c hc)

theorem octet_two_facts {a b : Char} (ha : a ∈ decimalDigits) (hb : b ∈ decimalDigits) :
    decimalValue [a, b] ≤ 255 ∧ (a ≠ '0' ↔ a ∈ "123456789".toList) :=
  of_decide_eq_true (List.all_eq_true.mp (List.all_eq_true.mp octet_two a ha) b hb)

theorem mem_decimalDigits {cs : List Char} {c : Char} (h : c ∈ cs)
    (hall : (cs.all (· ∈ decimalDigits)) = true) : c ∈ decimalDigits :=
  of_decide_eq_true (List.all_eq_true.mp hall c h)

theorem mem_v4Seg_iff {s : List Char} :
    s ∈ v4Seg.matches' ↔ ∃ o : {o : Octet // o.Plain}, s = o.val.text := by
  have build : ∀ s : List Char, s ≠ [] → s.length ≤ 3 → (∀ c ∈ s, c ∈ decimalDigits) →
      decimalValue s ≤ 255 → (s.head? = some '0' → s = ['0']) →
      ∃ o : {o : Octet // o.Plain}, s = o.val.text :=
    fun s hne hlength hdigits hvalue hplain => ⟨⟨⟨s, hne, hlength, hdigits, hvalue⟩, hplain⟩, rfl⟩
  have three : ∀ a b c : Char, a ∈ decimalDigits → b ∈ decimalDigits → c ∈ decimalDigits →
      ((a = '2' ∧ b = '5' ∧ c ∈ "012345".toList) ∨ (a = '2' ∧ b ∈ "01234".toList) ∨ a = '1') →
      ∃ o : {o : Octet // o.Plain}, [a, b, c] = o.val.text := by
    intro a b c ha hb hc h
    obtain ⟨hzero, hvalue⟩ := (octet_three_iff ha hb hc).mpr h
    exact build _ (List.cons_ne_nil _ _) (by simp) (by simp [ha, hb, hc]) hvalue
      fun h => absurd (Option.some.inj h) hzero
  rw [mem_v4Seg]
  constructor
  · rintro (⟨c, hc, rfl⟩ | ⟨b, hb, c, hc, rfl⟩ | ⟨b, hb, c, hc, rfl⟩ | ⟨a, ha, b, hb, rfl⟩ | ⟨a, ha, rfl⟩)
    · exact three _ _ _ (by decide) (by decide) (mem_decimalDigits hc (by decide))
        (Or.inl ⟨rfl, rfl, hc⟩)
    · exact three _ _ _ (by decide) (mem_decimalDigits hb (by decide)) hc
        (Or.inr (Or.inl ⟨rfl, hb⟩))
    · exact three _ _ _ (by decide) hb hc (Or.inr (Or.inr rfl))
    · have hdigit := mem_decimalDigits ha (by decide)
      obtain ⟨hvalue, hzero⟩ := octet_two_facts hdigit hb
      exact build _ (List.cons_ne_nil _ _) (by simp) (by simp [hdigit, hb]) hvalue
        fun h => absurd (Option.some.inj h) (hzero.mpr ha)
    · refine build _ (List.cons_ne_nil _ _) (by simp) (by simp [ha]) ?_ fun h => ?_
      · exact of_decide_eq_true (List.all_eq_true.mp octet_one a ha)
      · rw [Option.some.inj h]
  · rintro ⟨⟨o, hplain⟩, rfl⟩
    obtain ⟨text, hne, hlength, hdigits, hvalue⟩ := o
    match text, hne, hlength with
    | [a], _, _ => exact Or.inr (Or.inr (Or.inr (Or.inr ⟨a, hdigits a (by simp), rfl⟩)))
    | [a, b], _, _ =>
      have hb := hdigits b (by simp)
      have ha := (octet_two_facts (hdigits a (by simp)) hb).2.mp fun h => by
        have := hplain (congrArg some h)
        cases this
      exact Or.inr (Or.inr (Or.inr (Or.inl ⟨a, ha, b, hb, rfl⟩)))
    | [a, b, c], _, _ =>
      have hb := hdigits b (by simp)
      have hc := hdigits c (by simp)
      have hzero : a ≠ '0' := fun h => by
        have := hplain (congrArg some h)
        cases this
      rcases (octet_three_iff (hdigits a (by simp)) hb hc).mp ⟨hzero, hvalue⟩ with
        ⟨rfl, rfl, h⟩ | ⟨rfl, h⟩ | rfl
      · exact Or.inl ⟨c, h, rfl⟩
      · exact Or.inr (Or.inl ⟨b, h, c, hc, rfl⟩)
      · exact Or.inr (Or.inr (Or.inl ⟨b, hb, c, hc, rfl⟩))

theorem mem_v4Str_iff {s : List Char} : s ∈ v4Str.matches' ↔ ∃ q : Quad, q.Plain ∧ s = q.text := by
  have hdotted : ∀ s, s ∈ (v4Seg * char '.').matches' ↔
      ∃ o : {o : Octet // o.Plain}, s = o.val.text ++ ['.'] := by
    intro s
    rw [mem_mul]
    constructor
    · rintro ⟨a, ha, b, hb, rfl⟩
      obtain ⟨o, rfl⟩ := mem_v4Seg_iff.mp ha
      exact ⟨o, congrArg _ (Set.mem_singleton_iff.mp hb)⟩
    · rintro ⟨o, rfl⟩
      exact ⟨_, mem_v4Seg_iff.mpr ⟨o, rfl⟩, _, rfl, rfl⟩
  unfold v4Str
  simp only [mem_mul, mem_flatMap_pow hdotted, mem_v4Seg_iff]
  constructor
  · rintro ⟨_, ⟨os, hlength, rfl⟩, _, ⟨d, rfl⟩, rfl⟩
    match os, hlength with
    | [a, b, c], _ =>
      refine ⟨⟨a, b, c, d⟩, ?_, ?_⟩
      · simp [Quad.Plain, Quad.octets, a.property, b.property, c.property, d.property]
      · simp [Quad.text, Quad.octets, List.intercalate_cons_cons]
  · rintro ⟨⟨a, b, c, d⟩, hplain, rfl⟩
    simp only [Quad.Plain, Quad.octets, List.forall_mem_cons] at hplain
    obtain ⟨ha, hb, hc, hd, -⟩ := hplain
    refine ⟨_, ⟨[⟨a, ha⟩, ⟨b, hb⟩, ⟨c, hc⟩], rfl, rfl⟩, _, ⟨⟨d, hd⟩, rfl⟩, ?_⟩
    simp [Quad.text, Quad.octets, List.intercalate_cons_cons]

/-! ## IPv6 -/

/-- `[0-9a-fA-F]{1,4}`. -/
def v6Seg : RegularExpression Char := between (oneOf hexDigits) 1 4

/-- `(v6Seg:){n}`, and `:` where no group is written. -/
def v6Head : ℕ → RegularExpression Char
  | 0 => char ':'
  | n => (v6Seg * char ':') ^ n

/-- What may follow `n` groups. -/
def v6Tail : ℕ → RegularExpression Char
  | 7 => v6Seg + char ':'
  | 6 => v4Str + (char ':' * v6Seg + char ':')
  | n => between (char ':' * v6Seg) 0 (5 - n) * (char ':' * v4Str) +
      (between (char ':' * v6Seg) 1 (7 - n) + char ':')

def v6Str : RegularExpression Char :=
  ([7, 6, 5, 4, 3, 2, 1, 0].map fun n => v6Head n * v6Tail n).foldr (· + ·) 0

/-- `v6Str(?:%[0-9a-zA-Z-.:]{1,})?`. -/
def v6Pattern : RegularExpression Char :=
  v6Str * (1 + char '%' * (oneOf Spelling.zoneChars * (oneOf Spelling.zoneChars).star))

theorem mem_v6Seg_iff {s : List Char} : s ∈ v6Seg.matches' ↔ ∃ g : Group, s = g.text := by
  unfold v6Seg
  simp only [mem_between, mem_oneOf_pow]
  constructor
  · rintro ⟨n, hlow, hhigh, rfl, hdigits⟩
    exact ⟨⟨s, List.ne_nil_of_length_pos hlow, hhigh, hdigits⟩, rfl⟩
  · rintro ⟨g, rfl⟩
    exact ⟨_, List.length_pos_iff.mpr g.ne_nil, g.length_le, rfl, g.digits⟩

theorem mem_char_mul_v6Seg {s : List Char} :
    s ∈ (char ':' * v6Seg).matches' ↔ ∃ g : Group, s = ':' :: g.text := by
  rw [mem_char_mul]
  constructor
  · rintro ⟨b, hb, rfl⟩
    obtain ⟨g, rfl⟩ := mem_v6Seg_iff.mp hb
    exact ⟨g, rfl⟩
  · rintro ⟨g, rfl⟩
    exact ⟨_, mem_v6Seg_iff.mpr ⟨g, rfl⟩, rfl⟩

theorem flatMap_colon (gs : List Group) (t : List Char) :
    gs.flatMap (fun g => ':' :: g.text) ++ ':' :: t = ':' :: [':'].intercalate (gs.map Group.text ++ [t]) := by
  induction gs with
  | nil => simp
  | cons g gs ih =>
    rw [List.flatMap_cons, List.append_assoc, ih, List.map_cons, List.cons_append, List.cons_append,
      List.intercalate_cons_of_ne_nil (by simp), List.append_assoc]
    rfl

theorem flatMap_colon_of_ne_nil {gs : List Group} (h : gs ≠ []) :
    gs.flatMap (fun g => ':' :: g.text) = ':' :: [':'].intercalate (gs.map Group.text) := by
  obtain ⟨gs, g, rfl⟩ := (List.eq_nil_or_concat gs).resolve_left h
  rw [List.concat_eq_append, List.flatMap_append, List.map_append]
  exact (congrArg _ (by simp)).trans (flatMap_colon gs g.text)

theorem flatMap_group (gs : List Group) (t : List Char) :
    gs.flatMap (fun g => g.text ++ [':']) ++ t = [':'].intercalate (gs.map Group.text ++ [t]) := by
  induction gs with
  | nil => simp
  | cons g gs ih =>
    rw [List.flatMap_cons, List.append_assoc, ih, List.map_cons, List.cons_append,
      List.intercalate_cons_of_ne_nil (by simp), List.append_assoc]

theorem mem_v6Head_iff {n : ℕ} {s : List Char} : s ∈ (v6Head n).matches' ↔
    ∃ gs : List Group, gs.length = n ∧ s = [':'].intercalate (Spelling.pieces gs none) ++ [':'] := by
  have hgroup : ∀ s, s ∈ (v6Seg * char ':').matches' ↔ ∃ g : Group, s = g.text ++ [':'] := by
    intro s
    rw [mem_mul]
    constructor
    · rintro ⟨a, ha, b, hb, rfl⟩
      obtain ⟨g, rfl⟩ := mem_v6Seg_iff.mp ha
      exact ⟨g, congrArg _ (Set.mem_singleton_iff.mp hb)⟩
    · rintro ⟨g, rfl⟩
      exact ⟨_, mem_v6Seg_iff.mpr ⟨g, rfl⟩, _, rfl, rfl⟩
  cases n with
  | zero =>
    constructor
    · intro h
      exact ⟨[], rfl, Set.mem_singleton_iff.mp h⟩
    · rintro ⟨gs, hlength, rfl⟩
      rw [List.eq_nil_of_length_eq_zero hlength]
      rfl
  | succ n =>
    have htext : ∀ gs : List Group, gs.length = n + 1 → gs.flatMap (fun g => g.text ++ [':']) =
        [':'].intercalate (Spelling.pieces gs none) ++ [':'] := by
      intro gs hlength
      obtain ⟨gs, g, rfl⟩ := (List.eq_nil_or_concat gs).resolve_left (by rintro rfl; cases hlength)
      rw [List.concat_eq_append, List.flatMap_append, pieces_none, List.map_append,
        List.map_singleton, ← flatMap_group, List.append_assoc]
      simp
    rw [show v6Head (n + 1) = (v6Seg * char ':') ^ (n + 1) from rfl, mem_flatMap_pow hgroup]
    constructor
    · rintro ⟨gs, hlength, rfl⟩
      exact ⟨gs, hlength, htext gs hlength⟩
    · rintro ⟨gs, hlength, rfl⟩
      exact ⟨gs, hlength, (htext gs hlength).symm⟩

/-- The other side of `::`, as the pattern matches it after `n` groups. -/
def RightSide (n : ℕ) (s : List Char) : Prop :=
  ∃ (right : List Group) (quad : Option Quad),
    n + right.length + (if quad.isSome then 2 else 0) ≤ 7 ∧ (∀ q ∈ quad, q.Plain) ∧
      s = ':' :: [':'].intercalate (Spelling.pieces right quad)

theorem rightSide_colon {n : ℕ} (hn : n ≤ 7) : RightSide n [':'] := by
  refine ⟨[], none, ?_, ?_, rfl⟩
  · simpa using hn
  · intro q hq
    cases hq

theorem mem_v6Tail_seven {s : List Char} :
    s ∈ (v6Tail 7).matches' ↔ (∃ g : Group, s = g.text) ∨ RightSide 7 s := by
  rw [show v6Tail 7 = v6Seg + char ':' from rfl, mem_add, mem_v6Seg_iff]
  refine or_congr Iff.rfl ?_
  constructor
  · intro h
    rw [Set.mem_singleton_iff.mp h]
    exact rightSide_colon le_rfl
  · rintro ⟨right, quad, hsize, -, rfl⟩
    have hright : right = [] := List.eq_nil_of_length_eq_zero (by omega)
    have hquad : quad = none := by
      rcases quad with _ | q
      · rfl
      · rw [Option.isSome_some, if_pos rfl] at hsize
        omega
    rw [hright, hquad]
    rfl

theorem mem_v6Tail_six {s : List Char} :
    s ∈ (v6Tail 6).matches' ↔ (∃ q : Quad, q.Plain ∧ s = q.text) ∨ RightSide 6 s := by
  rw [show v6Tail 6 = v4Str + (char ':' * v6Seg + char ':') from rfl, mem_add, mem_v4Str_iff, mem_add,
    mem_char_mul_v6Seg]
  refine or_congr Iff.rfl ?_
  constructor
  · rintro (⟨g, rfl⟩ | h)
    · exact ⟨[g], none, by simp, by simp, by simp [Spelling.pieces]⟩
    · rw [Set.mem_singleton_iff.mp h]
      exact rightSide_colon (by decide)
  · rintro ⟨right, quad, hsize, -, rfl⟩
    have hquad : quad = none := by
      rcases quad with _ | q
      · rfl
      · rw [Option.isSome_some, if_pos rfl] at hsize
        omega
    subst hquad
    rcases right with _ | ⟨g, _ | ⟨g', rest⟩⟩
    · exact Or.inr rfl
    · exact Or.inl ⟨g, by simp [Spelling.pieces]⟩
    · simp only [List.length_cons] at hsize
      omega

theorem mem_v6Tail_of_le {n : ℕ} (hn : n ≤ 5) {s : List Char} :
    s ∈ (v6Tail n).matches' ↔ RightSide n s := by
  have htail : v6Tail n = between (char ':' * v6Seg) 0 (5 - n) * (char ':' * v4Str) +
      (between (char ':' * v6Seg) 1 (7 - n) + char ':') := by
    interval_cases n <;> rfl
  rw [htail, mem_add, mem_mul, mem_add]
  simp only [mem_between, mem_flatMap_pow fun _ => mem_char_mul_v6Seg, mem_char_mul]
  constructor
  · rintro (⟨_, ⟨m, -, hm, gs, hlength, rfl⟩, _, ⟨_, hquad, rfl⟩, rfl⟩ | ⟨m, hpos, hm, gs, hlength, rfl⟩ | h)
    · obtain ⟨q, hplain, rfl⟩ := mem_v4Str_iff.mp hquad
      refine ⟨gs, some q, ?_, ?_, flatMap_colon gs q.text⟩
      · simp
        omega
      · rintro _ ⟨⟩
        exact hplain
    · have hne : gs ≠ [] := List.ne_nil_of_length_pos (by omega)
      refine ⟨gs, none, ?_, by simp, ?_⟩
      · simp
        omega
      · rw [pieces_none, flatMap_colon_of_ne_nil hne]
    · rw [Set.mem_singleton_iff.mp h]
      exact rightSide_colon (by omega)
  · rintro ⟨right, quad, hsize, hplain, rfl⟩
    cases quad with
    | some q =>
      rw [Option.isSome_some, if_pos rfl] at hsize
      exact Or.inl ⟨_, ⟨right.length, Nat.zero_le _, by omega, right, rfl, rfl⟩, _,
        ⟨q.text, mem_v4Str_iff.mpr ⟨q, hplain q rfl, rfl⟩, rfl⟩, flatMap_colon right q.text⟩
    | none =>
      rcases List.eq_nil_or_concat right with rfl | ⟨gs, g, hright⟩
      · exact Or.inr (Or.inr rfl)
      · have hne : right ≠ [] := by simp [hright]
        have hpos := List.length_pos_iff.mpr hne
        simp only [Option.isSome_none, Bool.false_eq_true, if_false] at hsize
        refine Or.inr (Or.inl ⟨right.length, hpos, by omega, right, rfl, ?_⟩)
        rw [flatMap_colon_of_ne_nil hne, pieces_none]

theorem mem_v6Tail_of_rightSide {n : ℕ} (hn : n ≤ 7) {s : List Char} (h : RightSide n s) :
    s ∈ (v6Tail n).matches' := by
  rcases show n = 7 ∨ n = 6 ∨ n ≤ 5 by omega with rfl | rfl | hle
  · exact mem_v6Tail_seven.mpr (Or.inr h)
  · exact mem_v6Tail_six.mpr (Or.inr h)
  · exact (mem_v6Tail_of_le hle).mpr h

theorem mem_v6Str {s : List Char} : s ∈ v6Str.matches' ↔
    ∃ n ≤ 7, ∃ a ∈ (v6Head n).matches', ∃ b ∈ (v6Tail n).matches', a ++ b = s := by
  unfold v6Str
  rw [mem_sum]
  constructor
  · rintro ⟨r, hr, hs⟩
    obtain ⟨n, hn, rfl⟩ := List.mem_map.mp hr
    simp only [List.mem_cons, List.not_mem_nil, or_false] at hn
    exact ⟨n, by omega, mem_mul.mp hs⟩
  · rintro ⟨n, hn, hs⟩
    refine ⟨_, List.mem_map.mpr ⟨n, ?_, rfl⟩, mem_mul.mpr hs⟩
    simp only [List.mem_cons, List.not_mem_nil, or_false]
    omega

theorem mem_v6Str_iff {s : List Char} :
    s ∈ v6Str.matches' ↔ ∃ sp : Spelling, sp.Proper ∧ sp.zone = none ∧ s = sp.body := by
  rw [mem_v6Str]
  constructor
  · rintro ⟨n, hn, _, hhead, t, ht, rfl⟩
    obtain ⟨gs, rfl, rfl⟩ := mem_v6Head_iff.mp hhead
    have hsides : RightSide gs.length t → ∃ sp : Spelling, sp.Proper ∧ sp.zone = none ∧
        [':'].intercalate (Spelling.pieces gs none) ++ [':'] ++ t = sp.body := by
      rintro ⟨right, quad, hsize, hplain, rfl⟩
      exact ⟨⟨gs, some right, quad, none⟩, ⟨hsize, hplain, by simp⟩, rfl, by simp [Spelling.body]⟩
    have hlast : gs.length ≠ 0 → [':'].intercalate (Spelling.pieces gs none) ++ [':'] ++ t =
        [':'].intercalate (gs.map Group.text ++ [t]) := by
      intro hpos
      rw [pieces_none, intercalate_concat]
      rintro h
      rw [List.map_eq_nil_iff.mp h] at hpos
      exact hpos rfl
    rcases show gs.length = 7 ∨ gs.length = 6 ∨ gs.length ≤ 5 by omega with hseven | hsix | hle
    · rw [hseven] at ht
      rcases mem_v6Tail_seven.mp ht with ⟨g, rfl⟩ | h
      · refine ⟨⟨gs ++ [g], none, none, none⟩, ⟨?_, by simp, by simp⟩, rfl, ?_⟩
        · simp [Spelling.size, hseven]
        · rw [hlast (by omega)]
          simp [Spelling.body, Spelling.pieces]
      · exact hsides (hseven ▸ h)
    · rw [hsix] at ht
      rcases mem_v6Tail_six.mp ht with ⟨q, hplain, rfl⟩ | h
      · refine ⟨⟨gs, none, some q, none⟩, ⟨?_, ?_, by simp⟩, rfl, ?_⟩
        · simp [Spelling.size, hsix]
        · rintro _ ⟨⟩
          exact hplain
        · rw [hlast (by omega)]
          rfl
      · exact hsides (hsix ▸ h)
    · exact hsides ((mem_v6Tail_of_le hle).mp ht)
  · rintro ⟨⟨left, right, quad, zone⟩, ⟨hsize, hplain, -⟩, rfl, rfl⟩
    cases right with
    | some right =>
      have hsize : left.length + right.length + (if quad.isSome then 2 else 0) ≤ 7 := hsize
      have hle : left.length ≤ 7 := by omega
      refine ⟨left.length, hle, _, mem_v6Head_iff.mpr ⟨left, rfl, rfl⟩, _,
        mem_v6Tail_of_rightSide hle ⟨right, quad, hsize, hplain, rfl⟩, ?_⟩
      simp [Spelling.body]
    | none =>
      have hsize : left.length + 0 + (if quad.isSome then 2 else 0) = 8 := hsize
      cases quad with
      | some q =>
        have hsix : left.length = 6 := by simpa using hsize
        have hne : left.map Group.text ≠ [] := by
          rw [Ne, List.map_eq_nil_iff]
          rintro rfl
          cases hsix
        refine ⟨6, by decide, _, mem_v6Head_iff.mpr ⟨left, hsix, rfl⟩, q.text,
          mem_v6Tail_six.mpr (Or.inl ⟨q, hplain q rfl, rfl⟩), ?_⟩
        rw [pieces_none, intercalate_concat hne]
        rfl
      | none =>
        have height : left.length = 8 := by simpa using hsize
        obtain ⟨gs, g, hconcat⟩ := (List.eq_nil_or_concat left).resolve_left (by rintro rfl; cases height)
        rw [List.concat_eq_append] at hconcat
        subst hconcat
        have hseven : gs.length = 7 := by simpa using height
        have hne : gs.map Group.text ≠ [] := by
          rw [Ne, List.map_eq_nil_iff]
          rintro rfl
          cases hseven
        refine ⟨7, le_rfl, _, mem_v6Head_iff.mpr ⟨gs, hseven, rfl⟩, g.text,
          mem_v6Tail_seven.mpr (Or.inl ⟨g, rfl⟩), ?_⟩
        rw [pieces_none, intercalate_concat hne]
        simp [Spelling.body, Spelling.pieces]

theorem mem_v6Pattern_iff {s : List Char} :
    s ∈ v6Pattern.matches' ↔ ∃ sp : Spelling, sp.Proper ∧ s = sp.text := by
  unfold v6Pattern
  rw [mem_mul]
  constructor
  · rintro ⟨a, ha, b, hb, rfl⟩
    obtain ⟨⟨left, right, quad, zone⟩, ⟨hsize, hplain, -⟩, rfl, rfl⟩ := mem_v6Str_iff.mp ha
    rcases mem_add.mp hb with hb | hb
    · refine ⟨⟨left, right, quad, none⟩, ⟨hsize, hplain, by simp⟩, ?_⟩
      rw [(Language.mem_one b).mp hb]
      rfl
    · obtain ⟨z, hz, rfl⟩ := mem_char_mul.mp hb
      obtain ⟨c, hc, rest, hrest, rfl⟩ := mem_oneOf_mul.mp hz
      refine ⟨⟨left, right, quad, some (c :: rest)⟩, ⟨hsize, hplain, ?_⟩, rfl⟩
      rintro _ ⟨⟩
      exact ⟨List.cons_ne_nil _ _, List.forall_mem_cons.mpr ⟨hc, mem_oneOf_star.mp hrest⟩⟩
  · rintro ⟨⟨left, right, quad, zone⟩, ⟨hsize, hplain, hzone⟩, rfl⟩
    refine ⟨_, mem_v6Str_iff.mpr ⟨⟨left, right, quad, none⟩, ⟨hsize, hplain, by simp⟩, rfl, rfl⟩,
      (zone.map ('%' :: ·)).getD [], ?_, rfl⟩
    cases zone with
    | none => exact mem_add.mpr (Or.inl ((Language.mem_one _).mpr rfl))
    | some z =>
      obtain ⟨hne, hall⟩ := hzone z rfl
      obtain ⟨c, rest, rfl⟩ := List.exists_cons_of_ne_nil hne
      rw [List.forall_mem_cons] at hall
      exact mem_add.mpr (Or.inr (mem_char_mul.mpr ⟨_, mem_oneOf_mul.mpr
        ⟨c, hall.1, rest, mem_oneOf_star.mpr hall.2, rfl⟩, rfl⟩))

/-! ## The family of a text -/

/-- The platform's test for address texts: 4, 6 or 0. -/
def isIP (s : List Char) : ℕ := if v4Str.rmatch s then 4 else if v6Pattern.rmatch s then 6 else 0

theorem isIP_eq_four_iff {s : List Char} : isIP s = 4 ↔ ∃ q : Quad, q.Plain ∧ s = q.text := by
  rw [← mem_v4Str_iff, ← rmatch_iff_matches']
  unfold isIP
  split
  · rename_i hfour
    exact ⟨fun _ => hfour, fun _ => rfl⟩
  · rename_i hfour
    split
    · exact ⟨fun h => absurd h (by decide), fun h => absurd h hfour⟩
    · exact ⟨fun h => absurd h (by decide), fun h => absurd h hfour⟩

theorem isIP_eq_six_iff {s : List Char} : isIP s = 6 ↔ ∃ sp : Spelling, sp.Proper ∧ s = sp.text := by
  rw [← mem_v6Pattern_iff, ← rmatch_iff_matches']
  unfold isIP
  split
  · rename_i hfour
    refine ⟨fun h => absurd h (by decide), fun hsix => ?_⟩
    obtain ⟨q, -, rfl⟩ := mem_v4Str_iff.mp ((rmatch_iff_matches' _ _).mp hfour)
    obtain ⟨sp, hproper, htext⟩ := mem_v6Pattern_iff.mp ((rmatch_iff_matches' _ _).mp hsix)
    have hcolon : ':' ∈ q.text := htext ▸ List.mem_append_left _ (sp.colon_mem_body hproper.complete)
    exact absurd hcolon q.colon_not_mem_text
  · split
    · rename_i hsix
      exact ⟨fun _ => hsix, fun _ => rfl⟩
    · rename_i hsix
      exact ⟨fun h => absurd h (by decide), fun h => absurd h hsix⟩

end AddressText
