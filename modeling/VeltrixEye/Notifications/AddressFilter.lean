import VeltrixEye.Notifications.WebhookSecurity

/-!
# What the address filter lets through

* `filter_holds_iff` — the filter is exact unless a text that is no address is one loosely.
-/

namespace VeltrixEye.Notifications

open AddressText

/-! ## Addresses and blocks -/

/-- A standard spelling of an address. -/
def Spells (family : ℕ) (address : List Char) (v : ℕ) : Prop :=
  (family = 4 ∧ ∃ q : Quad, q.Plain ∧ address = q.text ∧ v = q.value) ∨
    family = 6 ∧ ∃ s : Spelling, s.Proper ∧ address = s.text ∧ v = s.value

/-- A spelling, in any case, that may be no standard one. -/
def LooselySpells (family : ℕ) (address : List Char) (v : ℕ) : Prop :=
  (family = 4 ∧ ∃ q : Quad, address = q.text ∧ v = q.value) ∨
    family = 6 ∧ ∃ s : Spelling, s.Complete ∧ address.map Char.toLower = s.text ∧ v = s.value

def bitsOf (family : ℕ) : ℕ := if family = 4 then 32 else 128

/-- The address has the first bits of the block's. -/
def InBlock (family v : ℕ) (cidr : String) : Prop :=
  match cidr.toList.splitOn '/' with
  | text :: length :: _ => ∃ net, LooselySpells family text net ∧
      v / 2 ^ (bitsOf family - decimalValue length) = net / 2 ^ (bitsOf family - decimalValue length)
  | _ => False

/-- In a special-purpose block, or mapped. -/
def Special (family v : ℕ) : Prop :=
  (family = 4 ∧ ∃ cidr ∈ SPECIAL_PURPOSE_CIDRS.ipv4, InBlock 4 v cidr) ∨
    family = 6 ∧ (v / 2 ^ 32 = 0xffff ∨ ∃ cidr ∈ SPECIAL_PURPOSE_CIDRS.ipv6, InBlock 6 v cidr)

theorem LooselySpells.family {family v : ℕ} {address : List Char} (h : LooselySpells family address v) :
    family = 4 ∨ family = 6 := by
  rcases h with ⟨h, -⟩ | ⟨h, -⟩
  · exact Or.inl h
  · exact Or.inr h

theorem parseAddress_iff {address : List Char} {family v : ℕ} (hfamily : family = 4 ∨ family = 6) :
    parseAddress address family = .ok (some v) ↔ LooselySpells family address v := by
  rcases hfamily with rfl | rfl
  · rw [parseAddress_four_iff]
    exact ⟨fun h => Or.inl ⟨rfl, h⟩, fun h => (h.resolve_right fun h => absurd h.1 (by decide)).2⟩
  · rw [parseAddress_six_iff]
    exact ⟨fun h => Or.inr ⟨rfl, h⟩, fun h => (h.resolve_left fun h => absurd h.1 (by decide)).2⟩

/-! ## Lower case -/

theorem hexDigit_toLower : (hexDigits.all fun c =>
    decide (c.toLower ∈ hexDigits ∧ hexDigitValue c.toLower = hexDigitValue c)) = true := by
  decide

theorem hexDigit_toLower_facts {c : Char} (h : c ∈ hexDigits) :
    c.toLower ∈ hexDigits ∧ hexDigitValue c.toLower = hexDigitValue c :=
  of_decide_eq_true (List.all_eq_true.mp hexDigit_toLower c h)

def lowerGroup (g : Group) : Group where
  text := g.text.map Char.toLower
  ne_nil := by simpa using g.ne_nil
  length_le := by simpa using g.length_le
  digits := by
    intro c hc
    obtain ⟨d, hd, rfl⟩ := List.mem_map.mp hc
    exact (hexDigit_toLower_facts (g.digits d hd)).1

theorem value_lowerGroup (g : Group) : (lowerGroup g).value = g.value := by
  have hfold : ∀ (text : List Char), (∀ c ∈ text, c ∈ hexDigits) → ∀ n,
      (text.map Char.toLower).foldl (fun n c => n * 16 + hexDigitValue c) n =
        text.foldl (fun n c => n * 16 + hexDigitValue c) n := by
    intro text
    induction text with
    | nil => exact fun _ _ => rfl
    | cons c text ih =>
      intro h n
      rw [List.forall_mem_cons] at h
      rw [List.map_cons, List.foldl_cons, List.foldl_cons, (hexDigit_toLower_facts h.1).2]
      exact ih h.2 _
  exact hfold g.text g.digits 0

def lowerSpelling (s : Spelling) : Spelling where
  left := s.left.map lowerGroup
  right := s.right.map (List.map lowerGroup)
  quad := s.quad
  zone := s.zone.map (List.map Char.toLower)

theorem map_toLower_quad (q : Quad) : q.text.map Char.toLower = q.text := by
  have hdigits : (decimalDigits.all fun c => decide (c.toLower = c)) = true := by decide
  refine (List.map_congr_left fun c hc => ?_).trans (List.map_id _)
  rcases Quad.mem_text hc with rfl | hc
  · rfl
  · exact of_decide_eq_true (List.all_eq_true.mp hdigits c hc)

theorem map_toLower_intercalate (ps : List (List Char)) : ([':'].intercalate ps).map Char.toLower =
    [':'].intercalate (ps.map (List.map Char.toLower)) := by
  induction ps with
  | nil => rfl
  | cons p ps ih =>
    cases ps with
    | nil => simp
    | cons q ps =>
      simp only [List.map_cons] at ih ⊢
      rw [List.intercalate_cons_cons, List.map_append, List.map_append, ih, List.intercalate_cons_cons]
      rfl

theorem map_toLower_pieces (gs : List Group) (quad : Option Quad) :
    (Spelling.pieces gs quad).map (List.map Char.toLower) = Spelling.pieces (gs.map lowerGroup) quad := by
  unfold Spelling.pieces
  rw [List.map_append, List.map_map, List.map_map]
  cases quad with
  | none => rfl
  | some q =>
    rw [Option.map_some, Option.toList_some, List.map_singleton, map_toLower_quad]
    rfl

theorem text_lowerSpelling (s : Spelling) : (lowerSpelling s).text = s.text.map Char.toLower := by
  have hbody : (lowerSpelling s).body = s.body.map Char.toLower := by
    have hside : ∀ (gs : List Group) (quad : Option Quad),
        ([':'].intercalate (Spelling.pieces gs quad)).map Char.toLower =
          [':'].intercalate (Spelling.pieces (gs.map lowerGroup) quad) := by
      intro gs quad
      rw [map_toLower_intercalate, map_toLower_pieces]
    obtain ⟨left, right, quad, zone⟩ := s
    cases right with
    | none => exact (hside left quad).symm
    | some right =>
      show _ = List.map _ (_ ++ ':' :: ':' :: _)
      rw [List.map_append, List.map_cons, List.map_cons, hside, hside]
      rfl
  unfold Spelling.text
  rw [hbody, List.map_append]
  congr 1
  cases hzone : s.zone with
  | none => simp [lowerSpelling, hzone]
  | some z =>
    simp only [lowerSpelling, hzone, Option.map_some, Option.getD_some, List.map_cons]
    rfl

theorem size_lowerSpelling (s : Spelling) : (lowerSpelling s).size = s.size := by
  obtain ⟨left, right, quad, zone⟩ := s
  cases right <;> cases quad <;> simp [lowerSpelling, Spelling.size]

theorem value_lowerSpelling (s : Spelling) : (lowerSpelling s).value = s.value := by
  have hgroups : ∀ gs : List Group, (gs.map lowerGroup).map Group.value = gs.map Group.value := by
    intro gs
    rw [List.map_map]
    exact List.map_congr_left fun g _ => value_lowerGroup g
  have hwords : (lowerSpelling s).words = s.words := by
    unfold Spelling.words
    rw [size_lowerSpelling]
    obtain ⟨left, right, quad, zone⟩ := s
    cases right <;> simp only [lowerSpelling, hgroups, Option.map_some, Option.map_none, Option.getD_some]
  unfold Spelling.value
  rw [hwords]

theorem Spells.loosely {family v : ℕ} {address : List Char} (h : Spells family address v) :
    LooselySpells family address v := by
  rcases h with ⟨hfamily, q, -, htext, hvalue⟩ | ⟨hfamily, s, hproper, rfl, rfl⟩
  · exact Or.inl ⟨hfamily, q, htext, hvalue⟩
  · refine Or.inr ⟨hfamily, lowerSpelling s, ?_, (text_lowerSpelling s).symm, (value_lowerSpelling s).symm⟩
    have hcomplete := hproper.complete
    unfold Spelling.Complete at hcomplete ⊢
    rw [size_lowerSpelling]
    simpa [lowerSpelling] using hcomplete

/-! ## The masks -/

theorem and_shiftLeft (v m k : ℕ) : v &&& (m <<< k) = ((v >>> k) &&& m) <<< k := by
  apply Nat.eq_of_testBit_eq
  intro i
  simp only [Nat.testBit_and, Nat.testBit_shiftLeft, Nat.testBit_shiftRight]
  by_cases h : k ≤ i
  · simp [h]
  · simp [h]

theorem and_mask {v p k : ℕ} (hv : v < 2 ^ (p + k)) : v &&& ((1 <<< p - 1) <<< k) = (v / 2 ^ k) * 2 ^ k := by
  have hlt : v >>> k < 2 ^ p := by
    rw [Nat.shiftRight_eq_div_pow, Nat.div_lt_iff_lt_mul (Nat.two_pow_pos k), ← pow_add]
    exact hv
  rw [and_shiftLeft, Nat.one_shiftLeft, Nat.and_two_pow_sub_one_of_lt_two_pow hlt, Nat.shiftLeft_eq,
    Nat.shiftRight_eq_div_pow]

theorem LooselySpells.lt {family v : ℕ} {address : List Char} (h : LooselySpells family address v) :
    v < 2 ^ bitsOf family := by
  rcases h with ⟨rfl, q, -, rfl⟩ | ⟨rfl, s, hs, -, rfl⟩
  · have hhigh := q.high_lt
    have hlow := q.low_lt
    show q.high * 65536 + q.low < 2 ^ 32
    omega
  · exact Spelling.value_lt hs

theorem inCidr_iff {cidr : String} {family v : ℕ} {c : Cidr} (hfamily : family = 4 ∨ family = 6)
    (h : parseCidr cidr.toList (bitsOf family) = some c) (hv : v < 2 ^ bitsOf family) :
    inCidr v c = true ↔ InBlock family v cidr := by
  have hback : (if bitsOf family = 32 then 4 else 6) = family := by
    rcases hfamily with rfl | rfl <;> rfl
  unfold parseCidr at h
  unfold InBlock
  rw [hback] at h
  rcases hsplit : cidr.toList.splitOn '/' with _ | ⟨text, _ | ⟨length, rest⟩⟩
  · rw [hsplit] at h
    cases h
  · rw [hsplit] at h
    cases h
  · rw [hsplit] at h
    simp only at h ⊢
    rcases hparse : parseAddress text family with e | _ | net
    · rw [hparse] at h
      cases h
    · rw [hparse] at h
      cases h
    · rw [hparse] at h
      have hspells := (parseAddress_iff hfamily).mp hparse
      simp only at h
      split at h
      · rename_i hlength
        obtain rfl := (Option.some.inj h).symm
        have hunique : (∃ net, LooselySpells family text net ∧
            v / 2 ^ (bitsOf family - decimalValue length) =
              net / 2 ^ (bitsOf family - decimalValue length)) ↔
            v / 2 ^ (bitsOf family - decimalValue length) =
              net / 2 ^ (bitsOf family - decimalValue length) := by
          constructor
          · rintro ⟨net', hnet', heq⟩
            rw [← parseAddress_iff hfamily, hparse] at hnet'
            rw [heq, Option.some.inj (Except.ok.inj hnet')]
          · exact fun heq => ⟨net, hspells, heq⟩
        have hnet := hspells.lt
        set p := decimalValue length
        rw [hunique, inCidr, beq_iff_eq]
        by_cases hzero : p = 0
        · have hfar : v / 2 ^ bitsOf family = net / 2 ^ bitsOf family := by
            rw [Nat.div_eq_of_lt hv, Nat.div_eq_of_lt hnet]
          rw [if_pos hzero, hzero, Nat.sub_zero]
          exact iff_of_true (by rw [Nat.and_zero, Nat.and_zero]) hfar
        · have hsum : p + (bitsOf family - p) = bitsOf family := Nat.add_sub_cancel' hlength.2
          rw [if_neg hzero, and_mask (hsum.symm ▸ hv), and_mask (hsum.symm ▸ hnet)]
          exact Nat.mul_left_inj (Nat.two_pow_pos _).ne'
      · cases h

theorem any_inCidr {cidrs : List String} {family v : ℕ} {blocks : List Cidr}
    (hfamily : family = 4 ∨ family = 6)
    (h : (cidrs.mapM fun cidr => parseCidr cidr.toList (bitsOf family)) = some blocks)
    (hv : v < 2 ^ bitsOf family) :
    blocks.any (inCidr v) = true ↔ ∃ cidr ∈ cidrs, InBlock family v cidr := by
  induction cidrs generalizing blocks with
  | nil =>
    rw [List.mapM_nil] at h
    obtain rfl := Option.some.inj h
    simp
  | cons cidr cidrs ih =>
    rw [List.mapM_cons] at h
    obtain ⟨c, hc, h⟩ := Option.bind_eq_some_iff.mp h
    obtain ⟨rest, hrest, h⟩ := Option.bind_eq_some_iff.mp h
    obtain rfl := Option.some.inj h
    rw [List.any_cons, Bool.or_eq_true, inCidr_iff hfamily hc hv, ih hrest, List.exists_mem_cons_iff]

theorem policy_loads : POLICY.ipv4.isSome = true ∧ POLICY.ipv6.isSome = true := by
  decide +kernel

theorem any_ipv4 {v : ℕ} (hv : v < 2 ^ 32) : (POLICY.ipv4.getD []).any (inCidr v) = true ↔
    ∃ cidr ∈ SPECIAL_PURPOSE_CIDRS.ipv4, InBlock 4 v cidr := by
  obtain ⟨blocks, hblocks⟩ := Option.isSome_iff_exists.mp policy_loads.1
  rw [hblocks]
  exact any_inCidr (Or.inl rfl) hblocks hv

theorem any_ipv6 {v : ℕ} (hv : v < 2 ^ 128) : (POLICY.ipv6.getD []).any (inCidr v) = true ↔
    ∃ cidr ∈ SPECIAL_PURPOSE_CIDRS.ipv6, InBlock 6 v cidr := by
  obtain ⟨blocks, hblocks⟩ := Option.isSome_iff_exists.mp policy_loads.2
  rw [hblocks]
  exact any_inCidr (Or.inr rfl) hblocks hv

theorem isMapped_iff {v : ℕ} : isMapped v = true ↔ v / 2 ^ 32 = 0xffff := by
  unfold isMapped
  rw [Bool.and_eq_true, beq_iff_eq, beq_iff_eq, and_shiftLeft, Nat.one_shiftLeft,
    Nat.and_two_pow_sub_one_eq_mod, Nat.shiftRight_eq_div_pow, Nat.shiftRight_eq_div_pow, Nat.shiftLeft_eq,
    Nat.shiftLeft_eq]
  omega

/-! ## The filter -/

theorem isUnsafeAddress_of_spells {address : List Char} {family v : ℕ}
    (h : LooselySpells family address v) :
    ∃ b, isUnsafeAddress address family = .ok b ∧ (b = true ↔ Special family v) := by
  have hparse := (parseAddress_iff h.family).mpr h
  have hlt := h.lt
  rcases h.family with rfl | rfl
  · refine ⟨(POLICY.ipv4.getD []).any (inCidr v), ?_, ?_⟩
    · rw [isUnsafeAddress, if_neg (by decide), hparse]
      rfl
    · rw [any_ipv4 hlt]
      exact ⟨fun h => Or.inl ⟨rfl, h⟩, fun h => (h.resolve_right fun h => absurd h.1 (by decide)).2⟩
  · refine ⟨isMapped v || (POLICY.ipv6.getD []).any (inCidr v), ?_, ?_⟩
    · rw [isUnsafeAddress, if_neg (by decide), hparse]
      rfl
    · rw [Bool.or_eq_true, isMapped_iff, any_ipv6 hlt]
      exact ⟨fun h => Or.inr ⟨rfl, h⟩, fun h => (h.resolve_left fun h => absurd h.1 (by decide)).2⟩

theorem isUnsafeAddress_eq_ok_false_iff {address : List Char} {family : ℕ} :
    isUnsafeAddress address family = .ok false ↔ ∃ v, LooselySpells family address v ∧ ¬Special family v := by
  constructor
  · intro h
    have hfamily : family = 4 ∨ family = 6 := by
      by_contra hno
      rw [isUnsafeAddress, if_pos (by tauto)] at h
      cases h
    rcases hparse : parseAddress address family with e | _ | v
    · rw [isUnsafeAddress, if_neg (by tauto), hparse] at h
      cases h
    · rw [isUnsafeAddress, if_neg (by tauto), hparse] at h
      cases h
    · have hspells := (parseAddress_iff hfamily).mp hparse
      obtain ⟨b, hb, hspecial⟩ := isUnsafeAddress_of_spells hspells
      rw [h] at hb
      exact ⟨v, hspells, fun hs => by
        have htrue := hspecial.mpr hs
        rw [← Except.ok.inj hb] at htrue
        cases htrue⟩
  · rintro ⟨v, hspells, hspecial⟩
    obtain ⟨b, hb, hiff⟩ := isUnsafeAddress_of_spells hspells
    rw [hb, Bool.eq_false_iff.mpr (mt hiff.mp hspecial)]

theorem exists_spells {address : List Char} {family : ℕ} (h : isIP address = family) (hne : family ≠ 0) :
    ∃ v, Spells family address v := by
  subst h
  have hcases : isIP address = 4 ∨ isIP address = 6 := by
    unfold isIP at hne ⊢
    split
    · exact Or.inl rfl
    split
    · exact Or.inr rfl
    · rename_i hfour hsix
      rw [if_neg hfour, if_neg hsix] at hne
      exact absurd rfl hne
  rcases hcases with hfour | hsix
  · obtain ⟨q, hplain, htext⟩ := isIP_eq_four_iff.mp hfour
    exact ⟨q.value, Or.inl ⟨hfour, q, hplain, htext, rfl⟩⟩
  · obtain ⟨s, hproper, htext⟩ := isIP_eq_six_iff.mp hsix
    exact ⟨s.value, Or.inr ⟨hsix, s, hproper, htext, rfl⟩⟩

/-- On a text that `isIP` accepts as one of the family, the parser returns the address that it spells, and
    the filter tells whether that is special; every other text is unsafe or raises. -/
structure FilterHolds (address : List Char) (family : ℕ) : Prop where
  accepted : isIP address = family → family ≠ 0 → (∃ v, Spells family address v) ∧
    ∀ v, Spells family address v → parseAddress address family = .ok (some v) ∧
      ∃ b, isUnsafeAddress address family = .ok b ∧ (b = true ↔ Special family v)
  other : ¬(isIP address = family ∧ family ≠ 0) → isUnsafeAddress address family ≠ .ok false

/-- The text is no address of the family, and yet loosely spells one that is not special. -/
def Loophole (address : List Char) (family : ℕ) : Prop :=
  isIP address ≠ family ∧ ∃ v, LooselySpells family address v ∧ ¬Special family v

theorem filter_holds_iff {address : List Char} {family : ℕ} :
    FilterHolds address family ↔ ¬Loophole address family := by
  constructor
  · rintro ⟨-, hother⟩ ⟨hne, hloose⟩
    exact hother (fun h => hne h.1) (isUnsafeAddress_eq_ok_false_iff.mpr hloose)
  · intro hno
    refine ⟨fun hip hne => ⟨exists_spells hip hne, fun v hv => ?_⟩, fun hother hsafe => ?_⟩
    · exact ⟨(parseAddress_iff hv.loosely.family).mpr hv.loosely, isUnsafeAddress_of_spells hv.loosely⟩
    · obtain ⟨v, hloose, hspecial⟩ := isUnsafeAddress_eq_ok_false_iff.mp hsafe
      refine hno ⟨fun hip => hother ⟨hip, ?_⟩, v, hloose, hspecial⟩
      rcases hloose.family with rfl | rfl <;> decide

/-! ## Destinations -/

variable {url : Option Url} {lookup : List Char → Option (List Candidate)}

/-- The destination is an https URL without credentials, and these are its addresses. -/
def Reaches (url : Option Url) (lookup : List Char → Option (List Candidate))
    (candidates : List Candidate) : Prop :=
  candidates ≠ [] ∧ ∃ u, url = some u ∧ u.protocol = "https:" ∧ u.username = "" ∧ u.password = "" ∧
    stripBrackets u.hostname ≠ [] ∧ addressesOf (stripBrackets u.hostname) lookup = some candidates

theorem checkCandidates_eq_ok_iff {candidates : List Candidate} : checkCandidates candidates = .ok () ↔
    ∀ c ∈ candidates, isUnsafeAddress c.address c.family = .ok false := by
  induction candidates with
  | nil => exact iff_of_true rfl fun c hc => by cases hc
  | cons c candidates ih =>
    rw [List.forall_mem_cons, checkCandidates]
    rcases isUnsafeAddress c.address c.family with e | _ | _
    · exact iff_of_false (fun h => by cases h) fun h => by cases h.1
    · exact ih.trans (and_iff_right rfl).symm
    · exact iff_of_false (fun h => by cases h) fun h => by cases h.1

theorem resolveWebhookDestination_eq_ok_iff {d : Candidate} :
    resolveWebhookDestination url lookup = .ok d ↔
      ∃ candidates, Reaches url lookup candidates ∧ candidates.head? = some d ∧
        ∀ c ∈ candidates, isUnsafeAddress c.address c.family = .ok false := by
  constructor
  · intro h
    unfold resolveWebhookDestination at h
    split at h
    · cases h
    rename_i u
    split at h
    · cases h
    rename_i hprotocol
    split at h
    · cases h
    rename_i hcredentials
    split at h
    · cases h
    rename_i hhostname
    rw [not_or, Decidable.not_not, Decidable.not_not] at hcredentials
    rcases hfound : addressesOf (stripBrackets u.hostname) lookup with _ | _ | ⟨first, rest⟩
    · rw [hfound] at h
      cases h
    · rw [hfound] at h
      cases h
    · rw [hfound] at h
      rcases hcheck : checkCandidates (first :: rest) with e | ⟨⟩
      · simp only [hcheck] at h
        cases h
      · simp only [hcheck] at h
        cases h
        exact ⟨_, ⟨List.cons_ne_nil _ _, u, rfl, Decidable.not_not.mp hprotocol,
          hcredentials.1, hcredentials.2, hhostname, hfound⟩, rfl,
          checkCandidates_eq_ok_iff.mp hcheck⟩
  · rintro ⟨candidates, ⟨hne, u, rfl, hprotocol, husername, hpassword, hhostname, hfound⟩, hhead, hsafe⟩
    obtain ⟨first, rest, rfl⟩ := List.exists_cons_of_ne_nil hne
    obtain rfl := Option.some.inj hhead
    unfold resolveWebhookDestination
    simp only
    rw [if_neg (not_not.mpr hprotocol), if_neg (by rw [not_or, not_not, not_not]; exact ⟨husername, hpassword⟩),
      if_neg hhostname, hfound]
    simp only [checkCandidates_eq_ok_iff.mpr hsafe]

/-- An address that `isIP` accepts as one of its family and that is not special. -/
def Public (c : Candidate) : Prop :=
  isIP c.address = c.family ∧ ∃ v, Spells c.family c.address v ∧ ¬Special c.family v

/-- A destination is returned only if all its addresses are public. -/
def ResolveHolds (url : Option Url) (lookup : List Char → Option (List Candidate)) : Prop :=
  ∀ d, resolveWebhookDestination url lookup = .ok d →
    ∃ candidates, Reaches url lookup candidates ∧ d ∈ candidates ∧ ∀ c ∈ candidates, Public c

/-- The resolver answers with loose spellings of addresses that are not special, one of which is no address
    of its family. -/
def ResolveLoophole (url : Option Url) (lookup : List Char → Option (List Candidate)) : Prop :=
  ∃ candidates, Reaches url lookup candidates ∧
    (∀ c ∈ candidates, ∃ v, LooselySpells c.family c.address v ∧ ¬Special c.family v) ∧
      ∃ c ∈ candidates, isIP c.address ≠ c.family

theorem Reaches.unique {cs ds : List Candidate} (hc : Reaches url lookup cs) (hd : Reaches url lookup ds) :
    cs = ds := by
  obtain ⟨-, u, rfl, -, -, -, -, hcs⟩ := hc
  obtain ⟨-, w, huw, -, -, -, -, hds⟩ := hd
  obtain rfl := Option.some.inj huw
  exact Option.some.inj (hcs.symm.trans hds)

theorem resolve_holds_iff : ResolveHolds url lookup ↔ ¬ResolveLoophole url lookup := by
  constructor
  · rintro hholds ⟨candidates, hreaches, hloose, c, hc, hne⟩
    obtain ⟨first, rest, rfl⟩ := List.exists_cons_of_ne_nil hreaches.1
    have hsafe : ∀ c ∈ first :: rest, isUnsafeAddress c.address c.family = .ok false :=
      fun c hc => isUnsafeAddress_eq_ok_false_iff.mpr (hloose c hc)
    obtain ⟨ds, hds, -, hpublic⟩ :=
      hholds first (resolveWebhookDestination_eq_ok_iff.mpr ⟨_, hreaches, rfl, hsafe⟩)
    exact hne (hpublic c (hreaches.unique hds ▸ hc)).1
  · intro hno d hd
    obtain ⟨candidates, hreaches, hhead, hsafe⟩ := resolveWebhookDestination_eq_ok_iff.mp hd
    refine ⟨candidates, hreaches, List.mem_of_head? hhead, fun c hc => ?_⟩
    have hloose := fun c hc => isUnsafeAddress_eq_ok_false_iff.mp (hsafe c hc)
    have hip : isIP c.address = c.family := by
      by_contra hne
      exact hno ⟨candidates, hreaches, hloose, c, hc, hne⟩
    obtain ⟨v, hspells, hspecial⟩ := hloose c hc
    have hnonzero : c.family ≠ 0 := by rcases hspells.family with h | h <;> rw [h] <;> decide
    obtain ⟨w, hw⟩ := exists_spells hip hnonzero
    obtain rfl : w = v := by
      have hboth := (parseAddress_iff hspells.family).mpr hw.loosely
      rw [(parseAddress_iff hspells.family).mpr hspells] at hboth
      exact (Option.some.inj (Except.ok.inj hboth)).symm
    exact ⟨hip, w, hw, hspecial⟩

/-- The filter is exact on a text and a family, and a destination is returned only if it is public, unless
    a text that `isIP` does not accept loosely spells an address that is not special. -/
theorem address_filter_exact_iff (address : List Char) (family : ℕ) (url : Option Url)
    (lookup : List Char → Option (List Candidate)) :
    (FilterHolds address family ↔ ¬Loophole address family) ∧
      (ResolveHolds url lookup ↔ ¬ResolveLoophole url lookup) :=
  ⟨filter_holds_iff, resolve_holds_iff⟩

/-- `isUnsafeAddress('08.8.8.8', 4)` is `false`, and the text is no address. -/
theorem leading_zero_called_safe : ¬FilterHolds "08.8.8.8".toList 4 := by
  intro h
  refine h.other (fun hip => ?_) ?_
  · obtain ⟨q, hplain, htext⟩ := isIP_eq_four_iff.mp hip.1
    have hsplit : "08.8.8.8".toList.splitOn '.' = q.octets.map Octet.text := htext ▸ q.splitOn_text
    have hfirst : q.a.text = ['0', '8'] := (List.cons.inj hsplit).1.symm
    have hzero := hplain q.a (by simp [Quad.octets]) (by rw [hfirst]; rfl)
    rw [hfirst] at hzero
    cases hzero
  · have hread : (isUnsafeAddress "08.8.8.8".toList 4).toOption = some false := by
      decide +kernel
    rcases hanswer : isUnsafeAddress "08.8.8.8".toList 4 with e | b
    · rw [hanswer] at hread
      cases hread
    · rw [hanswer] at hread
      exact congrArg Except.ok (Option.some.inj hread)

end VeltrixEye.Notifications
