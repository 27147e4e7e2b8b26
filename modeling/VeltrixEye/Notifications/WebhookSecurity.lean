import VeltrixEye.Lib.AddressPatterns

/-!
# The address filter of webhooks (`notifications/webhook-security.ts`)

* `parseAddress` — the number of an IPv4 or IPv6 text.
* `isUnsafeAddress` — a text that is no address of its family, a mapped address, or one in a
  special-purpose block.
* `parseGroups_body`, `exists_of_parseGroups` — the parser of groups reads the spellings without a quad.
* `parseAddress_four_iff`, `parseAddress_six_iff` — the texts that are read, and as which numbers.
-/

namespace VeltrixEye.Notifications

open AddressText

/-! ## The parser -/

/-- What the parser raises: an array of negative length. -/
inductive RangeError where
  | invalidArrayLength

/-- `/^\d{1,3}$/.test(part) && Number(part) <= 255`. -/
def isOctet (part : List Char) : Bool :=
  part ≠ [] && part.length ≤ 3 && part.all (· ∈ decimalDigits) && decimalValue part ≤ 255

/-- `/^[0-9a-f]{1,4}$/i.test(part)`. -/
def isGroup (part : List Char) : Bool :=
  part ≠ [] && part.length ≤ 4 && part.all (· ∈ hexDigits)

def parseIpv4 (address : List Char) : Option ℕ :=
  let parts := address.splitOn '.'
  if parts.length ≠ 4 then none
  else parts.foldlM (fun value part =>
    if isOctet part then some (value <<< 8 ||| decimalValue part) else none) 0

/-- The parts of `ipv4` as two groups after `before`. -/
def quadAsGroups (before ipv4 : List Char) : Option (List Char) :=
  match ipv4.splitOn '.' with
  | [a, b, c, d] =>
    if [a, b, c, d].all isOctet then
      let hi := Nat.toDigits 16 (decimalValue a <<< 8 ||| decimalValue b)
      let lo := Nat.toDigits 16 (decimalValue c <<< 8 ||| decimalValue d)
      some (before ++ ':' :: hi ++ ':' :: lo)
    else none
  | _ => none

/-- The trailing dotted quad written as groups. Without a colon the index is -1, and the slice before it
    loses the last character. -/
def embedIpv4 (value : List Char) : Option (List Char) :=
  if '.' ∈ value then
    match lastIndexOf ':' value with
    | some lastColon => quadAsGroups (value.take lastColon) (value.drop (lastColon + 1))
    | none => quadAsGroups value.dropLast value
  else some value

def parseGroups (value : List Char) : Except RangeError (Option ℕ) :=
  let pieces := splitPairs value
  if 2 < pieces.length then .ok none
  else
    let left := splitGroups (pieces.getD 0 [])
    let right := if pieces.length = 2 then splitGroups (pieces.getD 1 []) else []
    if (left ++ right).any (!isGroup ·) then .ok none
    else if pieces.length = 2 ∧ 8 < left.length + right.length then .error .invalidArrayLength
    else
      let fill := if pieces.length = 2 then List.replicate (8 - left.length - right.length) ['0'] else []
      let groups := left ++ fill ++ right
      if groups.length ≠ 8 then .ok none
      else .ok (some (groups.foldl (fun out part => out <<< 16 ||| hexValue part) 0))

/-- Lower case is that of ASCII: no other character becomes one that the parser accepts. -/
def parseIpv6 (address : List Char) : Except RangeError (Option ℕ) :=
  let value := ((address.map Char.toLower).splitOn '%').headD []
  match embedIpv4 value with
  | none => .ok none
  | some value => parseGroups value

def parseAddress (address : List Char) (family : ℕ) : Except RangeError (Option ℕ) :=
  if family = 4 then .ok (parseIpv4 address) else parseIpv6 address

/-! ## The policy -/

def SPECIAL_PURPOSE_CIDRS.ipv4 : List String :=
  ["0.0.0.0/8", "10.0.0.0/8", "100.64.0.0/10", "127.0.0.0/8",
   "169.254.0.0/16", "172.16.0.0/12", "192.0.0.0/24", "192.0.2.0/24",
   "192.31.196.0/24", "192.52.193.0/24", "192.88.99.0/24", "192.168.0.0/16",
   "192.175.48.0/24", "198.18.0.0/15", "198.51.100.0/24", "203.0.113.0/24",
   "224.0.0.0/4", "240.0.0.0/4"]

def SPECIAL_PURPOSE_CIDRS.ipv6 : List String :=
  ["::/128", "::1/128", "100::/64", "2001:0::/32", "2001:1::/32", "2001:2::/48",
   "2001:3::/32", "2001:4:112::/48", "2001:10::/28", "2001:20::/28",
   "2001:30::/28", "2001:db8::/32", "2002::/16", "3fff::/20", "5f00::/16", "fc00::/7", "fe80::/10",
   "ff00::/8", "64:ff9b::/96", "64:ff9b:1::/48"]

structure Cidr where
  base : ℕ
  mask : ℕ

/-- `none` is the error `invalid policy CIDR`; the prefixes of the policy are written in digits. -/
def parseCidr (value : List Char) (bits : ℕ) : Option Cidr :=
  match value.splitOn '/' with
  | rawAddress :: rawPrefix :: _ =>
    match parseAddress rawAddress (if bits = 32 then 4 else 6) with
    | .ok (some parsed) =>
      let prefixLength := decimalValue rawPrefix
      if rawPrefix.all (· ∈ decimalDigits) ∧ prefixLength ≤ bits then
        let mask := if prefixLength = 0 then 0 else ((1 <<< prefixLength) - 1) <<< (bits - prefixLength)
        some ⟨parsed &&& mask, mask⟩
      else none
    | _ => none
  | _ => none

/-- `none` would keep the module from loading. -/
def POLICY.ipv4 : Option (List Cidr) := SPECIAL_PURPOSE_CIDRS.ipv4.mapM fun cidr => parseCidr cidr.toList 32

def POLICY.ipv6 : Option (List Cidr) := SPECIAL_PURPOSE_CIDRS.ipv6.mapM fun cidr => parseCidr cidr.toList 128

def inCidr (address : ℕ) (cidr : Cidr) : Bool := (address &&& cidr.mask) == cidr.base

/-! ## The filter -/

/-- `::ffff:0:0/96`. -/
def isMapped (parsed : ℕ) : Bool :=
  (parsed &&& (((1 <<< 32) - 1) <<< 32)) == 0xffff <<< 32 && parsed >>> 48 == 0

def isUnsafeAddress (address : List Char) (family : ℕ) : Except RangeError Bool :=
  if family ≠ 4 ∧ family ≠ 6 then .ok true
  else
    match parseAddress address family with
    | .error e => .error e
    | .ok none => .ok true
    | .ok (some parsed) =>
      if family = 4 then .ok ((POLICY.ipv4.getD []).any (inCidr parsed))
      else .ok (isMapped parsed || (POLICY.ipv6.getD []).any (inCidr parsed))

/-! ## Resolving a destination -/

/-- The parts of a parsed URL that are read. -/
structure Url where
  protocol : String
  username : String
  password : String
  hostname : List Char

structure Candidate where
  address : List Char
  family : ℕ

inductive DestinationError where
  | invalid
  | notHttps
  | credentials
  | hostnameMissing
  | lookupFailed
  | notResolved
  | privateOrReserved
  | range (error : RangeError)

/-- `hostname.replace(/^\[|\]$/g, '')`. -/
def stripBrackets (hostname : List Char) : List Char :=
  let rest := if hostname.head? = some '[' then hostname.tail else hostname
  if rest.getLast? = some ']' then rest.dropLast else rest

/-- The host name alone where it is an address, else what `lookup` answers for it. -/
def addressesOf (hostname : List Char) (lookup : List Char → Option (List Candidate)) :
    Option (List Candidate) :=
  if isIP hostname ≠ 0 then some [⟨hostname, isIP hostname⟩] else lookup hostname

/-- The loop over the candidates. -/
def checkCandidates : List Candidate → Except DestinationError Unit
  | [] => .ok ()
  | candidate :: rest =>
    match isUnsafeAddress candidate.address candidate.family with
    | .error e => .error (.range e)
    | .ok true => .error .privateOrReserved
    | .ok false => checkCandidates rest

/-- `url` is the parsed URL, if the text is one, and `lookup` what the resolver answers in time. -/
def resolveWebhookDestination (url : Option Url) (lookup : List Char → Option (List Candidate)) :
    Except DestinationError Candidate :=
  match url with
  | none => .error .invalid
  | some url =>
    if url.protocol ≠ "https:" then .error .notHttps
    else if url.username ≠ "" ∨ url.password ≠ "" then .error .credentials
    else if stripBrackets url.hostname = [] then .error .hostnameMissing
    else
      match addressesOf (stripBrackets url.hostname) lookup with
      | none => .error .lookupFailed
      | some [] => .error .notResolved
      | some (first :: rest) =>
        match checkCandidates (first :: rest) with
        | .error e => .error e
        | .ok () => .ok first

/-! ## What is read -/

theorem isOctet_iff {part : List Char} : isOctet part = true ↔ ∃ o : Octet, part = o.text := by
  simp only [isOctet, Bool.and_eq_true, decide_eq_true_iff, List.all_eq_true]
  constructor
  · rintro ⟨⟨⟨hne, hlength⟩, hdigits⟩, hvalue⟩
    exact ⟨⟨part, hne, hlength, hdigits, hvalue⟩, rfl⟩
  · rintro ⟨o, rfl⟩
    exact ⟨⟨⟨o.ne_nil, o.length_le⟩, o.digits⟩, o.value_le⟩

theorem isGroup_iff {part : List Char} : isGroup part = true ↔ ∃ g : Group, part = g.text := by
  simp only [isGroup, Bool.and_eq_true, decide_eq_true_iff, List.all_eq_true]
  constructor
  · rintro ⟨⟨hne, hlength⟩, hdigits⟩
    exact ⟨⟨part, hne, hlength, hdigits⟩, rfl⟩
  · rintro ⟨g, rfl⟩
    exact ⟨⟨g.ne_nil, g.length_le⟩, g.digits⟩

theorem exists_groups {parts : List (List Char)} (h : parts.any (!isGroup ·) = false) :
    ∃ gs : List Group, parts = gs.map Group.text := by
  induction parts with
  | nil => exact ⟨[], rfl⟩
  | cons part parts ih =>
    rw [List.any_cons, Bool.or_eq_false_iff, Bool.not_eq_false'] at h
    obtain ⟨g, rfl⟩ := isGroup_iff.mp h.1
    obtain ⟨gs, rfl⟩ := ih h.2
    exact ⟨g :: gs, rfl⟩

theorem any_not_isGroup (gs : List Group) : (gs.map Group.text).any (!isGroup ·) = false := by
  rw [List.any_eq_false]
  intro part hpart
  obtain ⟨g, -, rfl⟩ := List.mem_map.mp hpart
  rw [isGroup_iff.mpr ⟨g, rfl⟩]
  decide

theorem foldlM_octets (os : List Octet) (value : ℕ) :
    (os.map Octet.text).foldlM (fun value part =>
        if isOctet part then some (value <<< 8 ||| decimalValue part) else none) value =
      some (os.foldl (fun value o => value * 256 + o.value) value) := by
  induction os generalizing value with
  | nil => rfl
  | cons o os ih =>
    rw [List.map_cons, List.foldlM_cons, if_pos (isOctet_iff.mpr ⟨o, rfl⟩), List.foldl_cons]
    have hstep : value <<< 8 ||| decimalValue o.text = value * 256 + o.value := shift_or o.value_lt value
    rw [hstep]
    exact ih _

theorem parseIpv4_quad (q : Quad) : parseIpv4 q.text = some q.value := by
  unfold parseIpv4
  rw [q.splitOn_text, if_neg (by simp [Quad.octets]), foldlM_octets]
  refine congrArg some ?_
  simp only [Quad.octets, List.foldl_cons, List.foldl_nil, Quad.value, Quad.high, Quad.low]
  ring

theorem exists_of_parseIpv4 {address : List Char} {v : ℕ} (h : parseIpv4 address = some v) :
    ∃ q : Quad, address = q.text := by
  unfold parseIpv4 at h
  have htext : ['.'].intercalate (address.splitOn '.') = address := List.intercalate_splitOn _
  generalize address.splitOn '.' = parts at h htext
  simp only [ne_eq, ite_not] at h
  split at h
  · rename_i hlength
    match parts, hlength with
    | [a, b, c, d], _ =>
      simp only [List.foldlM_cons, List.foldlM_nil, Option.bind_eq_bind, Option.bind_eq_some_iff] at h
      obtain ⟨_, ha, _, hb, _, hc, _, hd, -⟩ := h
      obtain ⟨a, rfl⟩ := isOctet_iff.mp (by by_contra hn; rw [if_neg hn] at ha; cases ha)
      obtain ⟨b, rfl⟩ := isOctet_iff.mp (by by_contra hn; rw [if_neg hn] at hb; cases hb)
      obtain ⟨c, rfl⟩ := isOctet_iff.mp (by by_contra hn; rw [if_neg hn] at hc; cases hc)
      obtain ⟨d, rfl⟩ := isOctet_iff.mp (by by_contra hn; rw [if_neg hn] at hd; cases hd)
      exact ⟨⟨a, b, c, d⟩, htext.symm⟩
  · cases h

theorem parseIpv4_iff {address : List Char} {v : ℕ} :
    parseIpv4 address = some v ↔ ∃ q : Quad, address = q.text ∧ v = q.value := by
  constructor
  · intro h
    obtain ⟨q, rfl⟩ := exists_of_parseIpv4 h
    rw [parseIpv4_quad] at h
    exact ⟨q, rfl, (Option.some.inj h).symm⟩
  · rintro ⟨q, rfl, rfl⟩
    exact parseIpv4_quad q

theorem foldl_groups (parts : List (List Char)) (h : ∀ part ∈ parts, hexValue part < 65536) (out : ℕ) :
    parts.foldl (fun out part => out <<< 16 ||| hexValue part) out =
      (parts.map hexValue).foldl (fun n w => n * 65536 + w) out := by
  induction parts generalizing out with
  | nil => rfl
  | cons part parts ih =>
    rw [List.forall_mem_cons] at h
    have hstep : out <<< 16 ||| hexValue part = out * 65536 + hexValue part := shift_or h.1 out
    rw [List.foldl_cons, List.map_cons, List.foldl_cons, hstep, ih h.2]

theorem fill_groups {left right : List Group} (n : ℕ) :
    (left.map Group.text ++ List.replicate n ['0'] ++ right.map Group.text).foldl
        (fun out part => out <<< 16 ||| hexValue part) 0 =
      (left.map Group.value ++ List.replicate n 0 ++ right.map Group.value).foldl
        (fun n w => n * 65536 + w) 0 := by
  have hgroups : ∀ gs : List Group, (gs.map Group.text).map hexValue = gs.map Group.value :=
    fun gs => List.map_map
  rw [foldl_groups]
  · simp only [List.map_append, hgroups, List.map_replicate]
    rfl
  · intro part hpart
    rcases List.mem_append.mp hpart with hpart | hpart
    · rcases List.mem_append.mp hpart with hpart | hpart
      · obtain ⟨g, -, rfl⟩ := List.mem_map.mp hpart
        exact g.value_lt
      · rw [List.eq_of_mem_replicate hpart]
        decide
    · obtain ⟨g, -, rfl⟩ := List.mem_map.mp hpart
      exact g.value_lt

theorem parseGroups_one {value piece : List Char} (h : splitPairs value = [piece]) :
    parseGroups value =
      if (splitGroups piece).any (!isGroup ·) then .ok none
      else if (splitGroups piece).length ≠ 8 then .ok none
      else .ok (some ((splitGroups piece).foldl (fun out part => out <<< 16 ||| hexValue part) 0)) := by
  unfold parseGroups
  simp [h]

theorem parseGroups_two {value piece piece' : List Char} (h : splitPairs value = [piece, piece']) :
    parseGroups value =
      if (splitGroups piece ++ splitGroups piece').any (!isGroup ·) then .ok none
      else if 8 < (splitGroups piece).length + (splitGroups piece').length then
        .error .invalidArrayLength
      else .ok (some ((splitGroups piece ++
        List.replicate (8 - (splitGroups piece).length - (splitGroups piece').length) ['0'] ++
          splitGroups piece').foldl (fun out part => out <<< 16 ||| hexValue part) 0)) := by
  unfold parseGroups
  simp only [h, List.length_cons, List.length_nil, List.getD_cons_zero, List.getD_cons_succ]
  rw [if_neg (by decide)]
  simp only [if_true, true_and]
  split
  · rfl
  split
  · rfl
  · rename_i hle
    rw [if_neg]
    simp only [List.length_append, List.length_replicate, ne_eq, Decidable.not_not]
    omega

theorem parseGroups_body {s : Spelling} (h : s.Complete) (hquad : s.quad = none) :
    parseGroups s.body = .ok (some s.value) := by
  obtain ⟨left, right, quad, zone⟩ := s
  cases hquad
  cases right with
  | none =>
    have height : left.length = 8 := h
    have hfill := @fill_groups left [] 0
    simp only [List.replicate_zero, List.map_nil, List.append_nil] at hfill
    rw [parseGroups_one (Spelling.splitPairs_body _), splitGroups_side, any_not_isGroup,
      if_neg (by decide), if_neg (by simp [height]), hfill]
    simp [Spelling.value, Spelling.words, Spelling.size, height]
  | some right =>
    have hle : left.length + right.length ≤ 8 := h
    have hany := any_not_isGroup (left ++ right)
    rw [List.map_append] at hany
    have hsize : 8 - (left.length + right.length) = 8 - left.length - right.length := by omega
    rw [parseGroups_two (Spelling.splitPairs_body _), splitGroups_side, splitGroups_side, hany,
      if_neg (by decide), List.length_map, List.length_map, if_neg (Nat.not_lt.mpr hle), fill_groups]
    simp [Spelling.value, Spelling.words, Spelling.size, hsize]

theorem exists_of_parseGroups {text : List Char} {v : ℕ} (h : parseGroups text = .ok (some v)) :
    ∃ s : Spelling, s.Complete ∧ s.quad = none ∧ s.zone = none ∧ text = s.body ∧ v = s.value := by
  have key : ∃ s : Spelling, s.Complete ∧ s.quad = none ∧ s.zone = none ∧ text = s.body := by
    obtain ⟨htext, hne⟩ := intercalate_splitPairs text
    rcases hpieces : splitPairs text with _ | ⟨piece, _ | ⟨piece', _ | ⟨_, _⟩⟩⟩
    · exact absurd hpieces hne
    · rw [parseGroups_one hpieces] at h
      rw [hpieces, List.intercalate_singleton] at htext
      split at h
      · cases h
      rename_i hgroups
      split at h
      · cases h
      rename_i hlength
      obtain ⟨gs, hgs⟩ := exists_groups (Bool.not_eq_true _ ▸ hgroups)
      refine ⟨⟨gs, none, none, none⟩, ?_, rfl, rfl, ?_⟩
      · show gs.length = 8
        rw [hgs, List.length_map, Decidable.not_not] at hlength
        exact hlength
      · show text = [':'].intercalate (Spelling.pieces gs none)
        rw [pieces_none, ← hgs, intercalate_splitGroups, htext]
    · rw [parseGroups_two hpieces] at h
      rw [hpieces] at htext
      split at h
      · cases h
      rename_i hgroups
      split at h
      · cases h
      rename_i hle
      rw [List.any_append, Bool.or_eq_true, not_or] at hgroups
      obtain ⟨gs, hgs⟩ := exists_groups (Bool.not_eq_true _ ▸ hgroups.1)
      obtain ⟨gs', hgs'⟩ := exists_groups (Bool.not_eq_true _ ▸ hgroups.2)
      refine ⟨⟨gs, some gs', none, none⟩, ?_, rfl, rfl, ?_⟩
      · show gs.length + gs'.length + 0 ≤ 8
        rw [hgs, hgs', List.length_map, List.length_map] at hle
        omega
      · show text = [':'].intercalate (Spelling.pieces gs none) ++
          ':' :: ':' :: [':'].intercalate (Spelling.pieces gs' none)
        rw [pieces_none, pieces_none, ← hgs, ← hgs', intercalate_splitGroups,
          intercalate_splitGroups, ← htext]
        simp [List.intercalate_cons_cons]
    · unfold parseGroups at h
      rw [hpieces, if_pos (by simp)] at h
      cases h
  obtain ⟨s, hcomplete, hquad, hzone, rfl⟩ := key
  rw [parseGroups_body hcomplete hquad] at h
  exact ⟨s, hcomplete, hquad, hzone, rfl, (Option.some.inj (Except.ok.inj h)).symm⟩

/-! ## The trailing quad -/

theorem toDigits_quad (q : Quad) :
    Nat.toDigits 16 (decimalValue q.a.text <<< 8 ||| decimalValue q.b.text) =
        (Group.ofNat q.high q.high_lt).text ∧
      Nat.toDigits 16 (decimalValue q.c.text <<< 8 ||| decimalValue q.d.text) =
        (Group.ofNat q.low q.low_lt).text := by
  have hhigh : decimalValue q.a.text <<< 8 ||| decimalValue q.b.text = q.high := shift_or q.b.value_lt _
  have hlow : decimalValue q.c.text <<< 8 ||| decimalValue q.d.text = q.low := shift_or q.d.value_lt _
  rw [hhigh, hlow]
  exact ⟨rfl, rfl⟩

theorem quadAsGroups_quad (before : List Char) (q : Quad) : quadAsGroups before q.text =
    some (before ++ ':' :: (Group.ofNat q.high q.high_lt).text ++
      ':' :: (Group.ofNat q.low q.low_lt).text) := by
  obtain ⟨hhigh, hlow⟩ := toDigits_quad q
  have hall : [q.a.text, q.b.text, q.c.text, q.d.text].all isOctet = true := by
    simp [isOctet_iff.mpr ⟨q.a, rfl⟩, isOctet_iff.mpr ⟨q.b, rfl⟩, isOctet_iff.mpr ⟨q.c, rfl⟩,
      isOctet_iff.mpr ⟨q.d, rfl⟩]
  unfold quadAsGroups
  simp only [q.splitOn_text, Quad.octets, List.map_cons, List.map_nil, hall, if_true, hhigh, hlow]

theorem exists_of_quadAsGroups {before ipv4 t : List Char} (h : quadAsGroups before ipv4 = some t) :
    ∃ q : Quad, ipv4 = q.text := by
  unfold quadAsGroups at h
  have htext : ['.'].intercalate (ipv4.splitOn '.') = ipv4 := List.intercalate_splitOn _
  split at h
  · rename_i a b c d hsplit
    split at h
    · rename_i hall
      simp only [List.all_cons, List.all_nil, Bool.and_true, Bool.and_eq_true] at hall
      obtain ⟨a, rfl⟩ := isOctet_iff.mp hall.1
      obtain ⟨b, rfl⟩ := isOctet_iff.mp hall.2.1
      obtain ⟨c, rfl⟩ := isOctet_iff.mp hall.2.2.1
      obtain ⟨d, rfl⟩ := isOctet_iff.mp hall.2.2.2
      rw [hsplit] at htext
      exact ⟨⟨a, b, c, d⟩, htext.symm⟩
    · cases h
  · cases h

theorem embedIpv4_quad (before : List Char) (q : Quad) :
    embedIpv4 (before ++ ':' :: q.text) = quadAsGroups before q.text := by
  have hdot : '.' ∈ before ++ ':' :: q.text :=
    List.mem_append_right _ (List.mem_cons_of_mem _ q.dot_mem_text)
  have hdrop : (before ++ ':' :: q.text).drop (before.length + 1) = q.text := by simp
  have htake : (before ++ ':' :: q.text).take before.length = before := by simp
  unfold embedIpv4
  rw [if_pos hdot, lastIndexOf_append q.colon_not_mem_text]
  simp only [hdrop, htake]

theorem embedIpv4_body {s : Spelling} (h : s.Complete) : embedIpv4 s.body = some s.unquad.body := by
  cases hquad : s.quad with
  | none =>
    rw [embedIpv4, if_neg (Spelling.dot_not_mem_body hquad)]
    unfold Spelling.unquad
    rw [hquad]
  | some q =>
    obtain ⟨before, hbody, hun⟩ := Spelling.exists_body_unquad h hquad
    rw [hbody, hun, embedIpv4_quad, quadAsGroups_quad]

theorem exists_of_embedIpv4 {text : List Char} {s : Spelling} (hembed : embedIpv4 text = some s.body)
    (h : s.Complete) (hquad : s.quad = none) :
    ∃ r : Spelling, r.Complete ∧ r.zone = s.zone ∧ text = r.body ∧ r.value = s.value := by
  by_cases hdot : '.' ∈ text
  · rw [embedIpv4, if_pos hdot] at hembed
    by_cases hcolon : ':' ∈ text
    · obtain ⟨before, ipv4, rfl, hfree⟩ := exists_of_mem_last hcolon
      rw [lastIndexOf_append hfree] at hembed
      have hparts : quadAsGroups before ipv4 = some s.body := by simpa using hembed
      obtain ⟨q, rfl⟩ := exists_of_quadAsGroups hparts
      rw [quadAsGroups_quad] at hparts
      have hfields : s.fields = before.splitOn ':' ++ (Spelling.quadGroups q).map Group.text := by
        have hhigh := (Group.ofNat q.high q.high_lt).free (show ':' ∉ hexDigits by decide)
        have hlow := (Group.ofNat q.low q.low_lt).free (show ':' ∉ hexDigits by decide)
        rw [← s.splitOn_body, ← Option.some.inj hparts, List.append_assoc, List.cons_append,
          List.splitOn_append_cons_self, List.splitOn_append_cons_self_of_not_mem hhigh,
          List.splitOn_eq_singleton hlow]
        rfl
      obtain ⟨r, hr, hzone, hrfields, hvalue⟩ := Spelling.exists_quad h hquad hfields
      refine ⟨r, hr, hzone, ?_, hvalue⟩
      rw [← r.intercalate_fields, hrfields, ← intercalate_concat (List.splitOn_ne_nil _ _),
        List.intercalate_splitOn, List.append_assoc, List.singleton_append]
    · -- The text is a quad, and what is left of it keeps a dot.
      rw [lastIndexOf_of_not_mem hcolon] at hembed
      simp only at hembed
      obtain ⟨q, rfl⟩ := exists_of_quadAsGroups hembed
      rw [quadAsGroups_quad, List.append_assoc] at hembed
      have hlost : '.' ∈ q.text.dropLast := q.dot_mem_dropLast
      exact absurd (Option.some.inj hembed ▸ List.mem_append_left _ hlost)
        (Spelling.dot_not_mem_body hquad)
  · rw [embedIpv4, if_neg hdot] at hembed
    exact ⟨s, h, rfl, Option.some.inj hembed, rfl⟩

/-! ## The texts that are read -/

theorem parseAddress_four_iff {address : List Char} {v : ℕ} :
    parseAddress address 4 = .ok (some v) ↔ ∃ q : Quad, address = q.text ∧ v = q.value := by
  rw [← parseIpv4_iff]
  exact ⟨fun h => Except.ok.inj h, fun h => congrArg Except.ok h⟩

theorem exists_of_splitOn_head {text body : List Char} (h : (text.splitOn '%').headD [] = body) :
    ∃ zone : Option (List Char), text = body ++ (zone.map ('%' :: ·)).getD [] := by
  have htext : ['%'].intercalate (text.splitOn '%') = text := List.intercalate_splitOn _
  rcases hparts : text.splitOn '%' with _ | ⟨first, _ | ⟨second, rest⟩⟩
  · exact absurd hparts (List.splitOn_ne_nil _ _)
  · rw [hparts] at h htext
    refine ⟨none, ?_⟩
    rw [← htext, ← h]
    simp
  · rw [hparts] at h htext
    refine ⟨some (['%'].intercalate (second :: rest)), ?_⟩
    rw [← htext, ← h, List.intercalate_cons_cons]
    simp

theorem parseAddress_six_iff {address : List Char} {v : ℕ} : parseAddress address 6 = .ok (some v) ↔
    ∃ s : Spelling, s.Complete ∧ address.map Char.toLower = s.text ∧ v = s.value := by
  rw [parseAddress, if_neg (by decide), parseIpv6]
  constructor
  · intro h
    cases hembed : embedIpv4 (((address.map Char.toLower).splitOn '%').headD []) with
    | none =>
      rw [hembed] at h
      cases h
    | some value =>
      rw [hembed] at h
      obtain ⟨s, hs, hquad, -, rfl, rfl⟩ := exists_of_parseGroups h
      obtain ⟨r, hr, -, hbody, hvalue⟩ := exists_of_embedIpv4 hembed hs hquad
      obtain ⟨zone, htext⟩ := exists_of_splitOn_head hbody
      exact ⟨{ r with zone := zone }, hr, htext, hvalue.symm⟩
  · rintro ⟨s, hs, htext, rfl⟩
    rw [htext, Spelling.splitOn_text_head, embedIpv4_body hs]
    show parseGroups s.unquad.body = _
    rw [parseGroups_body (Spelling.complete_unquad.mpr hs) s.unquad_quad, Spelling.value_unquad hs]

end VeltrixEye.Notifications
