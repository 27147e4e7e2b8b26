import VeltrixEye.Lib.Masking
import VeltrixEye.Mutations.Ledger
import VeltrixEye.Scanner.Runs

/-!
# What a viewer is shown of a scanner run (`scanner/service.ts`)

The texts of a run pass through `sanitizeScannerError` when they are collected, when the run is completed
and when another user's run is shown; the expressions that cut secrets out of a text are a parameter.

* `redactScannerRunForViewer`, `listRuns`, `getHealth` — the runs of the ledger as a user sees them.
-/

namespace VeltrixEye.Scanner

open Masking

/-! ## Ids as texts -/

theorem hexDigit?_mem {c d : Char} (h : hexDigit? c = some d) : d ∈ "0123456789abcdef".toList := by
  have hrange : ∀ (lo hi : Char), lo ≤ c → c ≤ hi → lo.toNat ≤ c.toNat ∧ c.toNat ≤ hi.toNat :=
    fun _ _ hlo hhi => ⟨hlo, hhi⟩
  have hc : Char.ofNat c.toNat = c := Char.ofNat_toNat c
  unfold hexDigit? at h
  split at h
  · rename_i hdigit
    obtain ⟨hlo, hhi⟩ := hrange '0' '9' hdigit.1 hdigit.2
    obtain rfl := Option.some.inj h
    rw [← hc]
    generalize c.toNat = n at hlo hhi
    have hlo' : 48 ≤ n := hlo
    have hhi' : n ≤ 57 := hhi
    interval_cases n <;> decide
  · split at h
    · rename_i hlower
      obtain ⟨hlo, hhi⟩ := hrange 'a' 'f' hlower.1 hlower.2
      obtain rfl := Option.some.inj h
      rw [← hc]
      generalize c.toNat = n at hlo hhi
      have hlo' : 97 ≤ n := hlo
      have hhi' : n ≤ 102 := hhi
      interval_cases n <;> decide
    · split at h
      · rename_i hupper
        obtain ⟨hlo, hhi⟩ := hrange 'A' 'F' hupper.1 hupper.2
        obtain rfl := Option.some.inj h
        generalize c.toNat = n at hlo hhi
        have hlo' : 65 ≤ n := hlo
        have hhi' : n ≤ 70 := hhi
        interval_cases n <;> decide
      · cases h

theorem uuidDigits_spec {bytes i : ℕ} {t digits rest : List Char}
    (h : uuidDigits bytes i t = some (digits, rest)) :
    digits.length = 2 * bytes ∧ ∀ c ∈ digits, c ∈ "0123456789abcdef".toList := by
  induction bytes generalizing i t digits rest with
  | zero =>
    obtain ⟨rfl, -⟩ := Prod.mk.inj (Option.some.inj h)
    exact ⟨rfl, by simp⟩
  | succ bytes ih =>
    match t with
    | [] => cases h
    | [_] => cases h
    | a :: b :: t =>
      rw [uuidDigits] at h
      split at h
      · rename_i a' b' ha hb
        dsimp only at h
        split at h
        · rename_i digits' rest' hrest
          obtain ⟨rfl, -⟩ := Prod.mk.inj (Option.some.inj h)
          obtain ⟨hlen, hmem⟩ := ih hrest
          refine ⟨by simp only [List.length_cons, hlen]; omega, fun c hc => ?_⟩
          rcases List.mem_cons.mp hc with rfl | hc
          · exact hexDigit?_mem ha
          rcases List.mem_cons.mp hc with rfl | hc
          · exact hexDigit?_mem hb
          · exact hmem c hc
        · cases h
      · cases h

theorem uuid_groups (u : Uuid) :
    ∃ a b c d e : List Char, u.text.toList = a ++ '-' :: (b ++ '-' :: (c ++ '-' :: (d ++ '-' :: e))) ∧
      (a.length = 8 ∧ b.length = 4 ∧ c.length = 4 ∧ d.length = 4 ∧ e.length = 12) ∧
      ∀ x ∈ a ++ b ++ c ++ d ++ e, x ∈ "0123456789abcdef".toList := by
  have hdigits : ∃ digits : List Char, digits.length = 32 ∧
      (∀ c ∈ digits, c ∈ "0123456789abcdef".toList) ∧ u.text = printUuid digits := by
    have h := u.printed
    unfold normalizeUuid at h
    split at h
    all_goals
      split at h
      · rename_i digits hdigits
        obtain ⟨hlen, hmem⟩ := uuidDigits_spec hdigits
        exact ⟨digits, hlen, hmem, (Option.some.inj h).symm⟩
      · cases h
  obtain ⟨digits, hlen, hmem, htext⟩ := hdigits
  refine ⟨digits.take 8, (digits.drop 8).take 4, (digits.drop 12).take 4, (digits.drop 16).take 4,
    digits.drop 20, ?_, ?_, ?_⟩
  · rw [htext, printUuid, String.toList_ofList]
    simp only [List.append_assoc, List.cons_append]
  · simp only [List.length_take, List.length_drop, hlen]
    decide
  · intro x hx
    apply hmem
    simp only [List.mem_append] at hx
    rcases hx with (((hx | hx) | hx) | hx) | hx
    · exact List.mem_of_mem_take hx
    all_goals
      first
        | exact List.mem_of_mem_drop (List.mem_of_mem_take hx)
        | exact List.mem_of_mem_drop hx

def isHexDigit (c : Char) : Bool := (hexDigit? c).isSome

/-- `UNLOCK_ERROR_UUID_PATTERN`: `[0-9a-f]{8}-[0-9a-f]{4}-[0-9a-f]{4}-[0-9a-f]{4}-[0-9a-f]{12}`, in either
    case. -/
def uuidPattern : List (Char → Bool) :=
  List.replicate 8 isHexDigit ++ (· == '-') :: (List.replicate 4 isHexDigit ++ (· == '-') ::
    (List.replicate 4 isHexDigit ++ (· == '-') :: (List.replicate 4 isHexDigit ++ (· == '-') ::
      List.replicate 12 isHexDigit)))

theorem hexDigit_classes {y : Char} (hy : y ∈ "0123456789abcdef".toList) :
    isHexDigit y = true ∧ isWordChar y = true := by
  have hcases : y ∈ ['0', '1', '2', '3', '4', '5', '6', '7', '8', '9', 'a', 'b', 'c', 'd', 'e', 'f'] := hy
  simp only [List.mem_cons, List.not_mem_nil, or_false] at hcases
  rcases hcases with rfl | rfl | rfl | rfl | rfl | rfl | rfl | rfl | rfl | rfl | rfl | rfl | rfl | rfl |
    rfl | rfl <;> exact ⟨by decide, by decide⟩

theorem uuid_char {u : Uuid} {c : Char} (hc : c ∈ u.text.toList) :
    c = '-' ∨ c ∈ "0123456789abcdef".toList := by
  obtain ⟨a, b, c', d, e, htext, -, hmem⟩ := uuid_groups u
  rw [htext] at hc
  simp only [List.mem_append, List.mem_cons] at hc hmem
  rcases hc with h | rfl | h | rfl | h | rfl | h | rfl | h
  · exact .inr (hmem _ (.inl (.inl (.inl (.inl h)))))
  · exact .inl rfl
  · exact .inr (hmem _ (.inl (.inl (.inl (.inr h)))))
  · exact .inl rfl
  · exact .inr (hmem _ (.inl (.inl (.inr h))))
  · exact .inl rfl
  · exact .inr (hmem _ (.inl (.inr h)))
  · exact .inl rfl
  · exact .inr (hmem _ (.inr h))

theorem not_mem_uuid {u : Uuid} {c : Char} (h : c ∉ "-0123456789abcdef".toList) : c ∉ u.text.toList := by
  intro hc
  rcases uuid_char hc with rfl | hdigit
  · exact h (by decide)
  · exact h (List.mem_cons_of_mem _ hdigit)

@[simp] theorem uuid_length (u : Uuid) : u.text.toList.length = 36 := by
  obtain ⟨a, b, c, d, e, htext, ⟨ha, hb, hc, hd, he⟩, -⟩ := uuid_groups u
  simp only [htext, List.length_append, List.length_cons, ha, hb, hc, hd, he]

theorem uuid_matches (u : Uuid) (rest : List Char) :
    matchesAt uuidPattern (u.text.toList ++ rest) = true := by
  obtain ⟨a, b, c, d, e, htext, ⟨ha, hb, hc, hd, he⟩, hmem⟩ := uuid_groups u
  simp only [List.mem_append] at hmem
  have hex : ∀ (l : List Char) (n : ℕ), l.length = n → (∀ x ∈ l, x ∈ "0123456789abcdef".toList) →
      ∀ ps t, matchesAt (List.replicate n isHexDigit ++ ps) (l ++ t) = matchesAt ps t := by
    intro l n hn hl ps t
    subst hn
    rw [matchesAt_append (by simp), matchesAt_replicate (fun x hx => ?_), Bool.true_and]
    exact (hexDigit_classes (hl x hx)).1
  have hyphen : ∀ ps t, matchesAt ((· == '-') :: ps) ('-' :: t) = matchesAt ps t := fun ps t => by
    simp [matchesAt]
  rw [htext, uuidPattern]
  simp only [List.append_assoc, List.cons_append]
  rw [hex a 8 ha fun x hx => hmem x (.inl (.inl (.inl (.inl hx)))), hyphen,
    hex b 4 hb fun x hx => hmem x (.inl (.inl (.inl (.inr hx)))), hyphen,
    hex c 4 hc fun x hx => hmem x (.inl (.inl (.inr hx))), hyphen,
    hex d 4 hd fun x hx => hmem x (.inl (.inr hx)), hyphen]
  have hlast := hex e 12 he (fun x hx => hmem x (.inr hx)) [] rest
  rwa [List.append_nil] at hlast

theorem uuid_ends (u : Uuid) :
    wordAt u.text.toList.head? = true ∧ wordAt u.text.toList.getLast? = true := by
  obtain ⟨a, b, c, d, e, htext, ⟨ha, -, -, -, he⟩, hmem⟩ := uuid_groups u
  have hword : ∀ y ∈ "0123456789abcdef".toList, isWordChar y = true := fun y hy => (hexDigit_classes hy).2
  simp only [List.mem_append] at hmem
  rw [htext]
  constructor
  · cases a with
    | nil => cases ha
    | cons x a => exact hword x (hmem x (by simp))
  · cases hlast : e.getLast? with
    | none =>
      rw [List.getLast?_eq_none_iff.mp hlast] at he
      cases he
    | some x =>
      have hend : ∀ l : List Char, (l ++ '-' :: e).getLast? = some x := fun l => by
        rw [List.getLast?_append, List.getLast?_cons, hlast]
        rfl
      have hx := hword x (hmem x (.inr (List.mem_of_getLast? hlast)))
      have hshape : a ++ '-' :: (b ++ '-' :: (c ++ '-' :: (d ++ '-' :: e))) =
          (a ++ '-' :: (b ++ '-' :: (c ++ '-' :: d))) ++ '-' :: e := by simp
      rw [hshape, hend]
      exact hx

/-- `[redacted-id]`. -/
def redactedId : List Char := "[redacted-id]".toList

theorem hides_uuid (u : Uuid) : Hides redactedId u.text.toList where
  opens := by
    intro c hc
    obtain rfl := Option.some.inj hc
    exact not_mem_uuid (by decide)
  closes := ⟨']', rfl, not_mem_uuid (by decide)⟩
  short := by
    rw [uuid_length]
    decide

/-- `text.replace(UNLOCK_ERROR_UUID_PATTERN, '[redacted-id]')`. -/
def redactIds (t : List Char) : List Char := maskAll uuidPattern redactedId 0 none t

theorem glued_of_redactIds {u : Uuid} {t : List Char} (h : Occurs false u.text.toList (redactIds t)) :
    Occurs true u.text.toList t := by
  refine gluedAfter_none.mp (glued_of_maskAll (uuid_matches u) ?_ (uuid_ends u).1 (uuid_ends u).2
    (hides_uuid u) h)
  rw [uuid_length]
  rfl

/-! ## `sanitizeScannerError` -/

/-- A redaction of secrets: it puts no id into a text and glues none to a word character. -/
structure Redaction where
  apply : List Char → List Char
  occurs : ∀ {glued : Bool} {u : Uuid} {t : List Char},
    Occurs glued u.text.toList (apply t) → Occurs glued u.text.toList t

/-- No redaction. -/
def Redaction.none : Redaction := ⟨fun t => t, fun h => h⟩

/-- `text.replace(/\s+/g, ' ')`; `inSpace` tells that a space was just written. -/
def squeeze : Bool → List Char → List Char
  | _, [] => []
  | inSpace, c :: rest =>
    if isJsWhitespace c then if inSpace then squeeze true rest else ' ' :: squeeze true rest
    else c :: squeeze false rest

/-- `text.trim()`. -/
def trim (t : List Char) : List Char := (t.dropWhile isJsWhitespace).rdropWhile isJsWhitespace

/-- `secrets` stands for the patterns of credentials, bearer tokens, assignments and keys. -/
def sanitizeScannerError (secrets redact : Redaction) (maxChars : ℕ) (redactUuids : Bool) (raw : String) :
    String :=
  let squeezed := trim (squeeze false raw.toList)
  let collapsed := if squeezed = [] then "unknown_error".toList else squeezed
  let patternRedacted := secrets.apply (redact.apply collapsed)
  let finalRedacted := if redactUuids then redactIds patternRedacted else patternRedacted
  let limit := max 2 maxChars
  String.ofList (if limit < finalRedacted.length then finalRedacted.take (limit - 1) ++ ['…']
    else finalRedacted)

section Texts

variable {glued : Bool} {u : Uuid} {a b t : List Char} {c : Char}

theorem occurs_separated (hc : c ∉ "-0123456789abcdef".toList) (hword : isWordChar c = false)
    (h : Occurs glued u.text.toList (a ++ c :: b)) :
    Occurs glued u.text.toList a ∨ Occurs glued u.text.toList b :=
  occurs_split (not_mem_uuid hc) hword h

theorem not_occurs_of_short (h : t.length < 36) : ¬ Occurs glued u.text.toList t := by
  intro hoccurs
  have hlen := hoccurs.length_le
  rw [uuid_length] at hlen
  omega

theorem not_occurs_of_no_hyphen (h : '-' ∉ t) : ¬ Occurs glued u.text.toList t := by
  rintro ⟨before, after, rfl, -⟩
  obtain ⟨a, b, c, d, e, htext, -, -⟩ := uuid_groups u
  apply h
  rw [htext]
  simp

theorem occurs_squeeze_aux (t : List Char) :
    (∀ before, Occurs glued u.text.toList (before ++ squeeze false t) →
      Occurs glued u.text.toList (before ++ t)) ∧
    (Occurs glued u.text.toList (squeeze true t) → Occurs glued u.text.toList t) := by
  induction t with
  | nil => exact ⟨fun _ h => h, fun h => h⟩
  | cons c t ih =>
    cases hspace : isJsWhitespace c
    · have hstep : ∀ inSpace, squeeze inSpace (c :: t) = c :: squeeze false t := fun inSpace => by
        rw [squeeze, hspace]
        rfl
      have hkeep := fun before (h : Occurs glued u.text.toList (before ++ c :: squeeze false t)) =>
        ih.1 (before ++ [c]) (by simpa using h)
      constructor
      · intro before h
        rw [hstep] at h
        simpa using hkeep before h
      · intro h
        rw [hstep] at h
        exact hkeep [] h
    · constructor
      · intro before h
        have hstep : squeeze false (c :: t) = ' ' :: squeeze true t := by
          rw [squeeze, hspace]
          rfl
        rw [hstep] at h
        rcases occurs_separated (by decide) (by decide) h with hbefore | hafter
        · exact hbefore.widen (List.prefix_append _ _).isInfix
        · exact (ih.2 hafter).widen
            ((List.suffix_cons c t).isInfix.trans (List.suffix_append _ _).isInfix)
      · intro h
        have hstep : squeeze true (c :: t) = squeeze true t := by
          rw [squeeze, hspace]
          rfl
        rw [hstep] at h
        exact (ih.2 h).widen (List.suffix_cons c t).isInfix

theorem occurs_trim (h : Occurs glued u.text.toList (trim t)) : Occurs glued u.text.toList t :=
  h.widen ((List.rdropWhile_prefix _ _).isInfix.trans (List.dropWhile_suffix _).isInfix)

variable {secrets redact : Redaction} {maxChars : ℕ} {raw : String}

theorem occurs_patternRedacted
    (h : Occurs glued u.text.toList (secrets.apply (redact.apply
      (if trim (squeeze false raw.toList) = [] then "unknown_error".toList
        else trim (squeeze false raw.toList))))) : Occurs glued u.text.toList raw.toList := by
  have hcollapsed := redact.occurs (secrets.occurs h)
  split at hcollapsed
  · exact absurd hcollapsed (not_occurs_of_short (by decide))
  · exact (occurs_squeeze_aux raw.toList).1 [] (occurs_trim hcollapsed)

theorem occurs_bounded {limit : ℕ}
    (h : Occurs glued u.text.toList (if limit < t.length then t.take (limit - 1) ++ ['…'] else t)) :
    Occurs glued u.text.toList t := by
  split at h
  · rcases occurs_separated (by decide) (by decide) h with hkept | hnil
    · exact hkept.widen (List.take_prefix _ _).isInfix
    · exact absurd hnil (not_occurs_of_short (by decide))
  · exact h

theorem occurs_of_sanitized
    (h : Occurs glued u.text.toList (sanitizeScannerError secrets redact maxChars false raw).toList) :
    Occurs glued u.text.toList raw.toList := by
  rw [sanitizeScannerError, String.toList_ofList] at h
  exact occurs_patternRedacted (occurs_bounded h)

/-- **An id that survives redaction stood glued to a word character.** -/
theorem shown_of_redacted
    (h : Occurs false u.text.toList (sanitizeScannerError secrets redact maxChars true raw).toList) :
    Occurs true u.text.toList raw.toList := by
  rw [sanitizeScannerError, String.toList_ofList] at h
  exact occurs_patternRedacted (glued_of_redactIds (occurs_bounded h))

end Texts

/-! ## Runs as they are shown -/

mutual

/-- The texts a value holds. -/
def texts : JsValue → List String
  | .string s => [s]
  | .array items => itemTexts items
  | .object fields => fieldTexts fields
  | _ => []

def itemTexts : List JsValue → List String
  | [] => []
  | item :: rest => texts item ++ itemTexts rest

def fieldTexts : List (String × JsValue) → List String
  | [] => []
  | (_, value) :: rest => texts value ++ fieldTexts rest

end

structure ScannerRunDto where
  id : Uuid
  status : RunStatus
  providerSlug : String
  startedAt : ℕ
  finishedAt : Option ℕ
  counters : RunCounters
  error : Option String
  metadata : List (String × JsValue)

/-- A counter in `metadata`. -/
def count (n : ℕ) : JsValue := .number (.fin n)

/-- What `completeRun` merges into the column `metadata`. -/
def RunSummary.metadata (m : RunSummary) : List (String × JsValue) :=
  [("errors", .array (m.errors.map .string)),
    ("candles", .object [("store", count m.candlesFromStore), ("provider", count m.candlesFromProvider),
      ("total", count m.candlesTotal)]),
    ("duplicateCandleSkips", count m.duplicateCandleSkips)]

/-- The column `metadata`. -/
def ScannerRun.metadata (r : ScannerRun) : List (String × JsValue) :=
  [("triggeredBy", .string r.triggeredBy), ("strategyId", r.strategyId.elim .null .string),
    ("force", .bool r.force)] ++ (r.summary.map RunSummary.metadata).getD []

def toScannerRunDto (r : ScannerRun) : ScannerRunDto where
  id := r.id
  status := r.status
  providerSlug := r.providerSlug
  startedAt := r.startedAt
  finishedAt := r.finishedAt
  counters := r.counters
  error := r.error
  metadata := r.metadata

def SCANNER_TENANT_SENSITIVE_METADATA_KEYS : List String := ["triggeredBy", "strategyId", "errors"]

/-- `metadata.triggeredBy === viewerUserId`. -/
def ownedBy (metadata : List (String × JsValue)) (viewerUserId : String) : Bool :=
  (JsValue.lookup metadata "triggeredBy").text? = some viewerUserId

def redactScannerRunMetadata (metadata : List (String × JsValue)) (viewerUserId : String) :
    List (String × JsValue) :=
  if ownedBy metadata viewerUserId then metadata
  else metadata.filter fun f => !SCANNER_TENANT_SENSITIVE_METADATA_KEYS.contains f.1

def redactScannerRunForViewer (secrets : Redaction) (run : ScannerRunDto) (viewerUserId : String) :
    ScannerRunDto :=
  let isOwner := ownedBy run.metadata viewerUserId
  { run with
    error := run.error.map (sanitizeScannerError secrets .none SCANNER_RUN_ERROR_MAX_CHARS (!isOwner))
    metadata := redactScannerRunMetadata run.metadata viewerUserId }

structure ScannerRunListQuery where
  status : Option RunStatus
  limit : ℕ

/-- `ORDER BY started_at DESC`. -/
def newestFirst (scan : Scan) (rows : List ScannerRun) : List ScannerRun :=
  (scan.rows rows).insertionSort fun a b => b.startedAt ≤ a.startedAt

/-- `listRuns` for a viewer: the runs that the viewer triggered. -/
def listRuns (scan : Scan) (query : ScannerRunListQuery) (viewerUserId : String) (rows : List ScannerRun) :
    List ScannerRunDto :=
  (((newestFirst scan rows).filter fun r =>
    r.triggeredBy = viewerUserId && query.status.all (· = r.status)).take query.limit).map toScannerRunDto

/-- The last run of the ledger. -/
def lastRun (scan : Scan) (rows : List ScannerRun) : Option ScannerRun := (newestFirst scan rows).head?

/-- `ORDER BY finished_at DESC`, nulls first. -/
def finishedLast (a b : ScannerRun) : Bool :=
  match a.finishedAt, b.finishedAt with
  | none, _ => true
  | some _, none => false
  | some x, some y => y ≤ x

def lastSuccessfulRun (scan : Scan) (rows : List ScannerRun) : Option ScannerRun :=
  (((scan.rows rows).filter fun r => r.status = .completed).insertionSort fun a b => finishedLast a b).head?

/-- The runs that `getHealth` shows a viewer. -/
def getHealth (secrets : Redaction) (scan : Scan) (viewerUserId : String) (rows : List ScannerRun) :
    Option ScannerRunDto × Option ScannerRunDto :=
  let toRunDto r := redactScannerRunForViewer secrets (toScannerRunDto r) viewerUserId
  ((lastRun scan rows).map toRunDto, (lastSuccessfulRun scan rows).map toRunDto)

/-- The run shows the id, in its error or in a value of its metadata. -/
def ScannerRunDto.Shows (run : ScannerRunDto) (w : Uuid) : Prop :=
  (∃ e, run.error = some e ∧ Occurs false w.text.toList e.toList) ∨
    ∃ f ∈ run.metadata, ∃ s ∈ texts f.2, Occurs false w.text.toList s.toList

theorem itemTexts_strings (l : List String) : itemTexts (l.map .string) = l := by
  induction l with
  | nil => rfl
  | cons s l ih =>
    show texts (.string s) ++ itemTexts (l.map .string) = s :: l
    rw [ih]
    rfl

theorem metadata_texts {r : ScannerRun} {f : String × JsValue} {s : String} (hf : f ∈ r.metadata)
    (hs : s ∈ texts f.2) : f.1 ∈ SCANNER_TENANT_SENSITIVE_METADATA_KEYS ∧
      (s = r.triggeredBy ∨ r.strategyId = some s ∨ ∃ m, r.summary = some m ∧ s ∈ m.errors) := by
  rw [ScannerRun.metadata, List.mem_append] at hf
  rcases hf with hf | hf
  · simp only [List.mem_cons, List.not_mem_nil, or_false] at hf
    rcases hf with rfl | rfl | rfl
    · exact ⟨List.mem_cons_self, .inl (List.mem_singleton.mp hs)⟩
    · cases hid : r.strategyId with
      | none =>
        rw [hid] at hs
        cases hs
      | some id =>
        rw [hid] at hs
        exact ⟨by simp [SCANNER_TENANT_SENSITIVE_METADATA_KEYS], .inr (.inl (congrArg some (List.mem_singleton.mp hs).symm))⟩
    · cases hs
  · cases hm : r.summary with
    | none => simp [hm] at hf
    | some m =>
      simp only [hm, Option.map_some, Option.getD_some, RunSummary.metadata, List.mem_cons,
        List.not_mem_nil, or_false] at hf
      rcases hf with rfl | rfl | rfl
      · rw [show texts (.array (m.errors.map .string)) = itemTexts (m.errors.map .string) from rfl,
          itemTexts_strings] at hs
        exact ⟨by simp [SCANNER_TENANT_SENSITIVE_METADATA_KEYS], .inr (.inr ⟨m, rfl, hs⟩)⟩
      · cases hs
      · cases hs

theorem ownedBy_metadata (r : ScannerRun) (viewer : String) :
    ownedBy r.metadata viewer = true ↔ r.triggeredBy = viewer := by
  simp [ownedBy, ScannerRun.metadata, JsValue.lookup, JsValue.text?]

theorem shows_of_redacted {secrets : Redaction} {r : ScannerRun} {viewer : String} {w : Uuid}
    (howner : r.triggeredBy ≠ viewer)
    (h : (redactScannerRunForViewer secrets (toScannerRunDto r) viewer).Shows w) :
    ∃ e, r.error = some e ∧ Occurs true w.text.toList e.toList := by
  have hforeign : ownedBy r.metadata viewer = false := by
    cases howned : ownedBy r.metadata viewer
    · rfl
    · exact absurd ((ownedBy_metadata r viewer).mp howned) howner
  rcases h with ⟨e, he, hshown⟩ | ⟨f, hf, s, hs, -⟩
  · obtain ⟨stored, hstored, rfl⟩ := Option.map_eq_some_iff.mp he
    rw [show (toScannerRunDto r).metadata = r.metadata from rfl, hforeign] at hshown
    exact ⟨stored, hstored, shown_of_redacted hshown⟩
  · have hf' : f ∈ redactScannerRunMetadata r.metadata viewer := hf
    rw [redactScannerRunMetadata, hforeign] at hf'
    obtain ⟨hmem, hkey⟩ := List.mem_filter.mp hf'
    have hsensitive := (metadata_texts hmem hs).1
    simp [hsensitive] at hkey

theorem shows_of_own {secrets : Redaction} {r : ScannerRun} {viewer : String} {w : Uuid}
    (howner : r.triggeredBy = viewer)
    (h : (redactScannerRunForViewer secrets (toScannerRunDto r) viewer).Shows w) :
    (toScannerRunDto r).Shows w := by
  have howned : ownedBy r.metadata viewer = true := (ownedBy_metadata r viewer).mpr howner
  rcases h with ⟨e, he, hshown⟩ | ⟨f, hf, hs⟩
  · obtain ⟨stored, hstored, rfl⟩ := Option.map_eq_some_iff.mp he
    rw [show (toScannerRunDto r).metadata = r.metadata from rfl, howned] at hshown
    exact .inl ⟨stored, hstored, occurs_of_sanitized hshown⟩
  · have hf' : f ∈ redactScannerRunMetadata r.metadata viewer := hf
    rw [redactScannerRunMetadata, howned] at hf'
    exact .inr ⟨f, hf', hs⟩

end VeltrixEye.Scanner
