import VeltrixEye.Billing.WebhookAllowList
import VeltrixEye.Lib.Related

/-!
# What the allow-list admits

* `parseEntry_text`, `exists_of_parseEntry` — the entries that are parsed.
* `webhookIpAllowed_iff` — an address is admitted by an entry whose network contains it, unless the entry
  is misread for it.
-/

namespace VeltrixEye.Billing

open AddressText

/-! ## Entries -/

namespace Written

def width : Written → ℕ
  | quad _ _ => 32
  | groups _ _ _ => 128

end Written

/-- An address, alone or followed by a prefix length. -/
structure WrittenEntry where
  address : Written
  length : Option (List Char)
  valid : ∀ d ∈ length, d ≠ [] ∧ (∀ c ∈ d, c ∈ decimalDigits) ∧
    0 < decimalValue d ∧ decimalValue d ≤ address.width

namespace WrittenEntry

def text (e : WrittenEntry) : List Char := e.address.text ++ (e.length.map ('/' :: ·)).getD []

/-- The last bits, which the network leaves free. -/
def hostBits (e : WrittenEntry) : ℕ := (e.length.map fun d => e.address.width - decimalValue d).getD 0

/-- The network contains the address. -/
def Contains (e : WrittenEntry) (v : ℕ) : Prop := v / 2 ^ e.hostBits = e.address.value / 2 ^ e.hostBits

/-- A `::ffff:a.b.c.d` entry whose prefix is longer than an IPv4 one. -/
def Overlong (e : WrittenEntry) : Prop :=
  e.address.folded.isSome ∧ ∃ d, e.length = some d ∧ 32 < decimalValue d

/-- The free bits when the prefix is taken for one of an IPv4 address. -/
def foldedBits (e : WrittenEntry) : ℕ := (e.length.map fun d => 32 - decimalValue d).getD 0

/-- The entry and the address are written in different forms, one as a dotted quad or `::ffff:` and one, the
    other in groups; or both are dotted and the prefix of the entry, counted from the quad, excludes the
    address. -/
def Misread (e : WrittenEntry) (w : Written) : Prop :=
  e.address.folded.isSome ≠ w.folded.isSome ∨
    ∃ q r, e.address.folded = some q ∧ w.folded = some r ∧
      r.value / 2 ^ e.foldedBits ≠ q.value / 2 ^ e.foldedBits

end WrittenEntry

theorem slash_not_mem_text (w : Written) : '/' ∉ w.text := by
  cases w with
  | quad q plain =>
    intro h
    rcases Quad.mem_text h with h | h
    · cases h
    · exact absurd h (by decide)
  | groups s proper zone =>
    intro h
    rw [Written.text, body_eq_text zone] at h
    rcases Spelling.mem_body h with h | h | ⟨h, -⟩
    · cases h
    · exact absurd h (by decide)
    · cases h

/-- The parsed form of an entry. -/
def parsedEntry (e : WrittenEntry) : WebhookAllowListEntry :=
  ⟨e.address.ip.bits, e.address.ip.family,
    (e.length.map decimalValue).getD (maxBits e.address.ip.family), e.text⟩

theorem width_of_not_folded {w : Written} (h : w.folded = none) : w.width = 128 := by
  cases w with
  | quad q plain => cases h
  | groups s proper zone => rfl

theorem Written.width_le (w : Written) : w.width ≤ 128 := by
  cases w with
  | quad q plain => exact show 32 ≤ 128 by decide
  | groups s proper zone => exact le_rfl

theorem maxBits_ip (w : Written) : maxBits w.ip.family = if w.folded.isSome then 32 else 128 := by
  unfold Written.ip
  cases w.folded <;> rfl

theorem le_maxBits_iff {e : WrittenEntry} {d : List Char} (hd : e.length = some d) :
    decimalValue d ≤ maxBits e.address.ip.family ↔ ¬e.Overlong := by
  obtain ⟨-, -, -, hle⟩ := e.valid d hd
  rw [maxBits_ip]
  unfold WrittenEntry.Overlong
  cases hfolded : e.address.folded with
  | none =>
    exact iff_of_true (hle.trans e.address.width_le) fun h => by cases h.1
  | some q =>
    rw [Option.isSome_some, if_pos rfl, hd]
    constructor
    · rintro hle ⟨-, d', hd', hlt⟩
      rw [← Option.some.inj hd'] at hlt
      exact absurd hle (Nat.not_le.mpr hlt)
    · exact fun h => Nat.not_lt.mp fun hlt => h ⟨rfl, d, rfl, hlt⟩

theorem parseEntry_text {e : WrittenEntry} :
    (¬e.Overlong → parseEntry e.text = .ok (parsedEntry e)) ∧
      (e.Overlong → parseEntry e.text = .error (.prefixOutOfRange e.text)) := by
  have hparse := parseIpToBits_text e.address
  cases hlength : e.length with
  | none =>
    have htext : e.text = e.address.text := by
      rw [WrittenEntry.text, hlength]
      exact List.append_nil _
    refine ⟨fun _ => ?_, fun ⟨_, d, hd, _⟩ => by rw [hlength] at hd; cases hd⟩
    unfold parseEntry parsedEntry
    rw [htext, lastIndexOf_of_not_mem (slash_not_mem_text e.address), hlength]
    simp only [hparse, Option.map_none, Option.getD_none]
  | some d =>
    obtain ⟨hne, hdigits, hpos, -⟩ := e.valid d hlength
    have htext : e.text = e.address.text ++ '/' :: d := by rw [WrittenEntry.text, hlength]; rfl
    have hslash : '/' ∉ d := fun h => absurd (hdigits _ h) (by decide)
    have hdrop : (e.address.text ++ '/' :: d).drop (e.address.text.length + 1) = d := by simp
    have htake : (e.address.text ++ '/' :: d).take e.address.text.length = e.address.text := by simp
    have hnumber : ¬(d = [] ∨ (!d.all (· ∈ decimalDigits)) = true) := by
      rintro (h | h)
      · exact hne h
      · rw [Bool.not_eq_true', List.all_eq_false] at h
        obtain ⟨c, hc, hno⟩ := h
        exact hno (decide_eq_true (hdigits c hc))
    have hentry : parseEntry e.text =
        if 0 < decimalValue d ∧ decimalValue d ≤ maxBits e.address.ip.family then
          .ok ⟨e.address.ip.bits, e.address.ip.family, decimalValue d, e.text⟩
        else .error (.prefixOutOfRange e.text) := by
      rw [htext]
      unfold parseEntry
      rw [lastIndexOf_append hslash]
      simp only [htake, hdrop, hparse, if_neg hnumber]
    rw [hentry]
    constructor
    · intro h
      rw [if_pos ⟨hpos, (le_maxBits_iff hlength).mpr h⟩, parsedEntry, hlength]
      rfl
    · intro h
      rw [if_neg fun hboth => (le_maxBits_iff hlength).mp hboth.2 h]

theorem exists_of_parseEntry {t : List Char} {x : WebhookAllowListEntry} (h : parseEntry t = .ok x) :
    ∃ e : WrittenEntry, e.text = t ∧ ¬e.Overlong ∧ x = parsedEntry e := by
  have key : ∃ e : WrittenEntry, e.text = t := by
    unfold parseEntry at h
    by_cases hslash : '/' ∈ t
    · obtain ⟨before, d, rfl, hfree⟩ := exists_of_mem_last hslash
      have hdrop : (before ++ '/' :: d).drop (before.length + 1) = d := by simp
      have htake : (before ++ '/' :: d).take before.length = before := by simp
      rw [lastIndexOf_append hfree] at h
      simp only [htake, hdrop] at h
      rcases hip : parseIpToBits before with _ | ip
      · rw [hip] at h
        cases h
      · rw [hip] at h
        simp only at h
        split at h
        · cases h
        rename_i hnumber
        split at h
        · rename_i hrange
          obtain ⟨w, rfl⟩ := exists_written_of_parse hip
          rw [parseIpToBits_text] at hip
          obtain rfl := Option.some.inj hip
          rw [not_or, Bool.not_eq_true, Bool.not_eq_false', List.all_eq_true] at hnumber
          have hwidth : maxBits w.ip.family ≤ w.width := by
            rw [maxBits_ip]
            cases w with
            | quad q plain => exact le_rfl
            | groups s proper zone =>
              show (if _ then 32 else 128) ≤ 128
              split <;> decide
          refine ⟨⟨w, some d, ?_⟩, rfl⟩
          rintro _ ⟨⟩
          exact ⟨hnumber.1, fun c hc => of_decide_eq_true (hnumber.2 c hc), hrange.1,
            hrange.2.trans hwidth⟩
        · cases h
    · rw [lastIndexOf_of_not_mem hslash] at h
      simp only at h
      rcases hip : parseIpToBits t with _ | ip
      · rw [hip] at h
        cases h
      · obtain ⟨w, rfl⟩ := exists_written_of_parse hip
        exact ⟨⟨w, none, by simp⟩, List.append_nil _⟩
  obtain ⟨e, rfl⟩ := key
  have hno : ¬e.Overlong := by
    intro hover
    rw [parseEntry_text.2 hover] at h
    cases h
  rw [parseEntry_text.1 hno] at h
  exact ⟨e, rfl, hno, (Except.ok.inj h).symm⟩

/-! ## The test of an entry -/

theorem value_isFfff {g : Group} (h : isFfff g.text = true) : g.value = 0xffff := by
  rw [isFfff, Bool.and_eq_true, List.all_eq_true] at h
  obtain ⟨hlength, hall⟩ := h
  unfold Group.value
  have hlength : g.text.length = 4 := by simpa using hlength
  obtain ⟨a, b, c, d, htext⟩ : ∃ a b c d, g.text = [a, b, c, d] := by
    generalize g.text = s at hlength
    rcases s with _ | ⟨a, _ | ⟨b, _ | ⟨c, _ | ⟨d, _ | ⟨e, rest⟩⟩⟩⟩⟩
    case cons.cons.cons.cons.nil => exact ⟨a, b, c, d, rfl⟩
    all_goals simp at hlength
  rw [htext] at hall ⊢
  have hcase : ∀ x ∈ [a, b, c, d], x = 'f' ∨ x = 'F' := by
    intro x hx
    simpa using hall x hx
  simp only [List.forall_mem_cons] at hcase
  obtain ⟨ha, hb, hc, hd, -⟩ := hcase
  rcases ha with rfl | rfl <;> rcases hb with rfl | rfl <;> rcases hc with rfl | rfl <;>
    rcases hd with rfl | rfl <;> decide

theorem value_of_folded {w : Written} {q : Quad} (h : w.folded = some q) :
    w.value = 0xffff * 2 ^ 32 + q.value := by
  cases w with
  | quad r plain => exact congrArg (fun q : Quad => 0xffff * 2 ^ 32 + q.value) (Option.some.inj h)
  | groups s proper zone =>
    obtain ⟨g, hg, hleft, hright, hquad⟩ := mappedSpelling_eq_some.mp h
    show s.value = _
    have hvalue := value_isFfff hg
    unfold Spelling.value Spelling.words Spelling.size
    rw [hleft, hright, hquad]
    simp [hvalue, Quad.value]
    ring

theorem Quad.value_lt (q : Quad) : q.value < 2 ^ 32 := by
  have hhigh := q.high_lt
  have hlow := q.low_lt
  unfold Quad.value
  omega

theorem contains_of_folded {e : WrittenEntry} {w : Written} {q r : Quad} (hno : ¬e.Overlong)
    (hq : e.address.folded = some q) (hr : w.folded = some r)
    (h : r.value / 2 ^ e.foldedBits = q.value / 2 ^ e.foldedBits) : e.Contains w.value := by
  unfold WrittenEntry.Contains
  rw [value_of_folded hq, value_of_folded hr]
  cases hlength : e.length with
  | none =>
    have hbits : e.foldedBits = 0 := by rw [WrittenEntry.foldedBits, hlength]; rfl
    rw [hbits, pow_zero, Nat.div_one, Nat.div_one] at h
    rw [h]
  | some d =>
    obtain ⟨-, -, hpos, hle⟩ := e.valid d hlength
    have hfolded : e.foldedBits = 32 - decimalValue d := by rw [WrittenEntry.foldedBits, hlength]; rfl
    have hhost : e.hostBits = e.address.width - decimalValue d := by
      rw [WrittenEntry.hostBits, hlength]
      rfl
    rw [hfolded] at h
    rw [hhost]
    cases haddress : e.address with
    | quad p plain =>
      -- The mapped part is a multiple of the host part.
      show (0xffff * 2 ^ 32 + r.value) / 2 ^ (32 - decimalValue d) = _ / 2 ^ (32 - decimalValue d)
      have hsplit : 0xffff * 2 ^ 32 = 2 ^ (32 - decimalValue d) * (0xffff * 2 ^ decimalValue d) := by
        rw [haddress] at hle
        have hle : decimalValue d ≤ 32 := hle
        rw [mul_left_comm, ← pow_add, Nat.sub_add_cancel hle]
      rw [hsplit, Nat.mul_add_div (Nat.two_pow_pos _), Nat.mul_add_div (Nat.two_pow_pos _), h]
    | groups s proper zone =>
      -- A prefix within the first 32 bits leaves all mapped addresses free.
      have hshort : decimalValue d ≤ 32 := by
        by_contra hlt
        exact hno ⟨by rw [hq]; rfl, d, hlength, Nat.lt_of_not_le hlt⟩
      have hsmall : ∀ p : Quad, (0xffff * 2 ^ 32 + p.value) / 2 ^ (128 - decimalValue d) = 0 := by
        intro p
        have hlt := Quad.value_lt p
        have hpow : 2 ^ 96 ≤ 2 ^ (128 - decimalValue d) := Nat.pow_le_pow_right (by decide) (by omega)
        exact Nat.div_eq_of_lt (lt_of_lt_of_le (by omega) hpow)
      show _ / 2 ^ (128 - decimalValue d) = _ / 2 ^ (128 - decimalValue d)
      rw [hsmall, hsmall]

theorem entryAdmits_iff {e : WrittenEntry} (hno : ¬e.Overlong) (w : Written) :
    entryAdmits w.ip (parsedEntry e) = true ↔ e.Contains w.value ∧ ¬e.Misread w := by
  have hbits : ∀ n, n - (e.length.map decimalValue).getD n =
      (e.length.map fun d => n - decimalValue d).getD 0 := by
    intro n
    cases e.length <;> simp
  unfold entryAdmits parsedEntry
  simp only [Bool.and_eq_true, beq_iff_eq, Nat.shiftRight_eq_div_pow, hbits]
  cases hq : e.address.folded with
  | none =>
    have hip : e.address.ip = ⟨e.address.value, 6⟩ := by rw [Written.ip, hq]
    cases hr : w.folded with
    | none =>
      have hip' : w.ip = ⟨w.value, 6⟩ := by rw [Written.ip, hr]
      have hhost : (e.length.map fun d => maxBits 6 - decimalValue d).getD 0 = e.hostBits := by
        unfold WrittenEntry.hostBits
        rw [width_of_not_folded hq]
        rfl
      have hread : ¬e.Misread w := by
        rintro (h | ⟨q, r, h, -⟩)
        · exact h (by rw [hq, hr])
        · rw [hq] at h
          cases h
      rw [hip, hip', hhost]
      exact ⟨fun h => ⟨h.2.symm, hread⟩, fun h => ⟨rfl, h.1.symm⟩⟩
    | some r =>
      have hip' : w.ip = ⟨r.value, 4⟩ := by rw [Written.ip, hr]
      have hmisread : e.Misread w := Or.inl (by rw [hq, hr]; exact Bool.noConfusion)
      rw [hip, hip']
      exact ⟨fun h => (by cases h.1), fun h => absurd hmisread h.2⟩
  | some q =>
    have hip : e.address.ip = ⟨q.value, 4⟩ := by rw [Written.ip, hq]
    cases hr : w.folded with
    | none =>
      have hip' : w.ip = ⟨w.value, 6⟩ := by rw [Written.ip, hr]
      have hmisread : e.Misread w := Or.inl (by rw [hq, hr]; exact Bool.noConfusion)
      rw [hip, hip']
      exact ⟨fun h => (by cases h.1), fun h => absurd hmisread h.2⟩
    | some r =>
      have hip' : w.ip = ⟨r.value, 4⟩ := by rw [Written.ip, hr]
      rw [hip, hip']
      have hfolded : (e.length.map fun d => maxBits 4 - decimalValue d).getD 0 = e.foldedBits := rfl
      rw [hfolded]
      constructor
      · rintro ⟨-, h⟩
        refine ⟨contains_of_folded hno hq hr h.symm, ?_⟩
        rintro (hform | ⟨q', r', hq', hr', hne⟩)
        · exact hform (by rw [hq, hr]; rfl)
        · rw [hq] at hq'
          rw [hr] at hr'
          obtain rfl := Option.some.inj hq'
          obtain rfl := Option.some.inj hr'
          exact hne h.symm
      · rintro ⟨-, hread⟩
        refine ⟨rfl, ?_⟩
        by_contra hne
        exact hread (Or.inr ⟨q, r, hq, hr, fun h => hne h.symm⟩)

/-! ## The list -/

variable {raw : List Char} {allowList : List WebhookAllowListEntry}

theorem mapM_eq_ok_iff {ts : List (List Char)} {xs : List WebhookAllowListEntry} :
    ts.mapM parseEntry = .ok xs ↔ List.Forall₂ (fun t x => parseEntry t = .ok x) ts xs := by
  induction ts generalizing xs with
  | nil =>
    rw [List.mapM_nil, List.forall₂_nil_left_iff]
    exact ⟨fun h => (Except.ok.inj h).symm, fun h => congrArg Except.ok h.symm⟩
  | cons t ts ih =>
    rw [List.mapM_cons, List.forall₂_cons_left_iff]
    constructor
    · intro h
      rcases ht : parseEntry t with e | x
      · rw [ht] at h
        cases h
      · rcases hts : ts.mapM parseEntry with e | rest
        · rw [ht, hts] at h
          cases h
        · rw [ht, hts] at h
          exact ⟨x, rest, rfl, ih.mp hts, (Except.ok.inj h).symm⟩
    · rintro ⟨x, rest, ht, hrest, rfl⟩
      rw [ht, ih.mpr hrest]
      rfl

/-- The text is a valid entry. -/
def ValidEntry (t : List Char) : Prop := ∃ e : WrittenEntry, e.text = t

theorem parse_eq_ok_iff : (∃ allowList, parsePaystackWebhookAllowList raw = .ok allowList) ↔
    (∀ t ∈ allowListSource raw, ValidEntry t) ∧
      ∀ e : WrittenEntry, e.text ∈ allowListSource raw → ¬e.Overlong := by
  unfold parsePaystackWebhookAllowList
  simp only [mapM_eq_ok_iff]
  constructor
  · rintro ⟨xs, hxs⟩
    have hparsed : ∀ t ∈ allowListSource raw, ∃ x, parseEntry t = .ok x := by
      intro t ht
      obtain ⟨x, -, hx⟩ := Related.exists_left hxs ht
      exact ⟨x, hx⟩
    refine ⟨fun t ht => ?_, fun e he hover => ?_⟩
    · obtain ⟨x, hx⟩ := hparsed t ht
      obtain ⟨e, htext, -, -⟩ := exists_of_parseEntry hx
      exact ⟨e, htext⟩
    · obtain ⟨x, hx⟩ := hparsed _ he
      rw [parseEntry_text.2 hover] at hx
      cases hx
  · rintro ⟨hvalid, hshort⟩
    generalize allowListSource raw = ts at hvalid hshort
    induction ts with
    | nil => exact ⟨[], List.Forall₂.nil⟩
    | cons t ts ih =>
      obtain ⟨e, rfl⟩ := hvalid t List.mem_cons_self
      obtain ⟨xs, hxs⟩ := ih (fun u hu => hvalid u (List.mem_cons_of_mem _ hu))
        fun e he => hshort e (List.mem_cons_of_mem _ he)
      exact ⟨_, hxs.cons (parseEntry_text.1 (hshort e List.mem_cons_self))⟩

theorem webhookIpAllowed_iff (h : parsePaystackWebhookAllowList raw = .ok allowList) (w : Written) :
    webhookIpAllowed w.text allowList = true ↔
      ∃ e : WrittenEntry, e.text ∈ allowListSource raw ∧ e.Contains w.value ∧ ¬e.Misread w := by
  have hshort := (parse_eq_ok_iff.mp ⟨allowList, h⟩).2
  have hall := mapM_eq_ok_iff.mp h
  unfold webhookIpAllowed
  rw [parseIpToBits_text]
  simp only [List.any_eq_true]
  constructor
  · rintro ⟨x, hx, hadmits⟩
    obtain ⟨t, ht, htx⟩ := Related.exists_right hall hx
    obtain ⟨e, rfl, hno, rfl⟩ := exists_of_parseEntry htx
    exact ⟨e, ht, (entryAdmits_iff hno w).mp hadmits⟩
  · rintro ⟨e, he, hcontains⟩
    obtain ⟨x, hx, hex⟩ := Related.exists_left hall he
    rw [parseEntry_text.1 (hshort e he)] at hex
    obtain rfl := Except.ok.inj hex
    exact ⟨_, hx, (entryAdmits_iff (hshort e he) w).mpr hcontains⟩

/-- The parser accepts exactly the lists of valid entries, and an accepted list admits the address exactly
    when the network of an entry contains it. -/
structure AllowListHolds (raw : List Char) (w : Written) : Prop where
  accepts : (∃ allowList, parsePaystackWebhookAllowList raw = .ok allowList) ↔
    ∀ t ∈ allowListSource raw, ValidEntry t
  admits : ∀ allowList, parsePaystackWebhookAllowList raw = .ok allowList →
    (webhookIpAllowed w.text allowList = true ↔
      ∃ e : WrittenEntry, e.text ∈ allowListSource raw ∧ e.Contains w.value)

/-- A valid list with an overlong entry, or all of whose entries for the address are misread. -/
def SpellingMatters (raw : List Char) (w : Written) : Prop :=
  (∀ t ∈ allowListSource raw, ValidEntry t) ∧
    ((∃ e : WrittenEntry, e.text ∈ allowListSource raw ∧ e.Overlong) ∨
      (∃ e : WrittenEntry, e.text ∈ allowListSource raw ∧ e.Contains w.value) ∧
        ∀ e : WrittenEntry, e.text ∈ allowListSource raw → e.Contains w.value → e.Misread w)

/-- The list depends on the address and the networks alone unless their spelling matters. -/
theorem allow_list_holds_iff (raw : List Char) (w : Written) :
    AllowListHolds raw w ↔ ¬SpellingMatters raw w := by
  constructor
  · rintro ⟨haccepts, hadmits⟩ ⟨hvalid, hmatters⟩
    obtain ⟨allowList, hparse⟩ := haccepts.mpr hvalid
    rcases hmatters with ⟨e, he, hover⟩ | ⟨hcontains, hmisread⟩
    · exact (parse_eq_ok_iff.mp ⟨allowList, hparse⟩).2 e he hover
    · have hallowed := (hadmits allowList hparse).mpr hcontains
      obtain ⟨e, he, hin, hread⟩ := (webhookIpAllowed_iff hparse w).mp hallowed
      exact hread (hmisread e he hin)
  · intro hno
    refine ⟨⟨fun h => (parse_eq_ok_iff.mp h).1, fun hvalid => ?_⟩, fun allowList hparse => ?_⟩
    · exact parse_eq_ok_iff.mpr ⟨hvalid, fun e he hover => hno ⟨hvalid, Or.inl ⟨e, he, hover⟩⟩⟩
    · rw [webhookIpAllowed_iff hparse]
      refine ⟨fun ⟨e, he, hin, _⟩ => ⟨e, he, hin⟩, fun hcontains => ?_⟩
      by_contra hnone
      refine hno ⟨(parse_eq_ok_iff.mp ⟨allowList, hparse⟩).1, Or.inr ⟨hcontains, fun e he hin => ?_⟩⟩
      by_contra hread
      exact hnone ⟨e, he, hin, hread⟩

theorem value_eq_ip (w : Written) :
    w.value = if w.ip.family = 4 then 0xffff * 2 ^ 32 + w.ip.bits else w.ip.bits := by
  unfold Written.ip
  cases h : w.folded with
  | none => rfl
  | some q => exact value_of_folded h

/-- The entry 1.2.3.4 does not admit `::ffff:102:304`, which is the same address. -/
theorem mapped_in_groups_refused :
    ∃ w : Written, w.text = "::ffff:102:304".toList ∧ ¬AllowListHolds "1.2.3.4".toList w := by
  have hgroups : parseIpToBits "::ffff:102:304".toList = some ⟨281470698652420, 6⟩ := by
    rw [String.toList_ofList]
    decide +kernel
  have hquad : parseIpToBits "1.2.3.4".toList = some ⟨16909060, 4⟩ := by decide
  have hrefused : (parsePaystackWebhookAllowList "1.2.3.4".toList).toOption.map
      (webhookIpAllowed "::ffff:102:304".toList) = some false := by
    rw [String.toList_ofList, String.toList_ofList]
    decide +kernel
  have hentries : allowListSource "1.2.3.4".toList = ["1.2.3.4".toList] := by decide
  obtain ⟨w, hw⟩ := exists_written_of_parse hgroups
  obtain ⟨v, hv⟩ := exists_written_of_parse hquad
  have hvalue : v.value = w.value := by
    rw [← hw, parseIpToBits_text] at hgroups
    rw [← hv, parseIpToBits_text] at hquad
    rw [value_eq_ip, value_eq_ip, Option.some.inj hgroups, Option.some.inj hquad]
    rfl
  refine ⟨w, hw, fun hholds => ?_⟩
  rcases hparse : parsePaystackWebhookAllowList "1.2.3.4".toList with e | allowList
  · rw [hparse] at hrefused
    cases hrefused
  · have hallowed := (hholds.admits allowList hparse).mpr
      ⟨⟨v, none, by simp⟩, by rw [hentries, WrittenEntry.text, hv]; simp, by rw [WrittenEntry.Contains, hvalue]⟩
    rw [hparse, ← hw] at hrefused
    exact absurd (hallowed.symm.trans (Option.some.inj hrefused)) (by decide)

end VeltrixEye.Billing
