import VeltrixEye.Scanner.Redaction

/-!
# Scans over the strategies of many tenants (`scanner/service.ts`, `routes/scanner.ts`)

A user triggers a scan, of one strategy of its own or of every eligible strategy of the platform; a worker
triggers scans for no user.  The calls run on the pool of `Scanner.Runs`, interleaved with each other, with
recovery, retention, database errors and crashes; here each call also knows the strategies it has yet to
visit, and what goes wrong at each of them is an input.

* `no_foreign_id_is_shown`.
-/

namespace VeltrixEye.Scanner

open Masking

/-! ## Strategies -/

/-- A strategy with its published version; an id stands for one tenant: a user's for the user, a strategy's
    for its owner. -/
structure Strategy (tenantOf : Uuid → Option Uuid) where
  strategyId : Uuid
  userId : Uuid
  owned : tenantOf strategyId = some userId
  active : Bool
  published : Bool
  canAccessScanner : Bool
  timeframesValid : Bool
  updatedAt : ℕ

variable {tenantOf : Uuid → Option Uuid}

def getEligibleStrategies (filterStrategyId : Option String) (rows : List (Strategy tenantOf)) :
    List (Strategy tenantOf) :=
  let selected := rows.filter fun r =>
    r.active && r.published && filterStrategyId.all fun id => Uuid.ofText? id = some r.strategyId
  let newest := selected.insertionSort fun a b => b.updatedAt ≤ a.updatedAt
  ((newest.take (SCANNER_MAX_STRATEGIES_PER_RUN * 2)).filter fun r =>
    r.canAccessScanner && r.timeframesValid).take SCANNER_MAX_STRATEGIES_PER_RUN

/-- The route's check of the body: a strategy it names belongs to the user. -/
def mayTrigger (rows : List (Strategy tenantOf)) (user : Uuid) (strategyId : Option String) : Bool :=
  strategyId.all fun id => isUuidText id &&
    rows.any fun r => Uuid.ofText? id = some r.strategyId && r.userId = user

/-! ## What goes wrong at a strategy -/

/-- A row of `instruments`, with the lengths that its columns allow. -/
structure ScannedInstrument where
  assetClass : String
  symbol : String
  assetClassBounded : assetClass.toList.length ≤ 24
  symbolBounded : symbol.toList.length ≤ 32

structure InstrumentFailure where
  instrument : ScannedInstrument
  message : String

/-- `scanStrategy` throws, or goes through its instruments; `counted` holds the counters after it. -/
inductive Visit where
  | failed (message : String)
  | scanned (failures : List InstrumentFailure) (counted : ScanMetrics)

def instrumentError (sanitize : Sanitize) (f : InstrumentFailure) : String :=
  "instrument " ++ f.instrument.assetClass ++ "/" ++ f.instrument.symbol ++ ": " ++
    sanitize SCANNER_ERROR_MAX_CHARS true f.message

/-- What the visit of a strategy hands to the loop over the strategies. -/
def visitInput (sanitize : Sanitize) (strategyId : Uuid) (before : ScanMetrics) : Visit → ScanInput
  | .failed message => .strategyFailed strategyId.text before message
  | .scanned failures counted =>
    .scanned { counted with errors := before.errors ++ failures.map (instrumentError sanitize) }

/-! ## The system -/

structure ScanSystem (tenantOf : Uuid → Option Uuid) where
  strategies : List (Strategy tenantOf)
  pool : ScannerPool
  /-- The strategies each call has yet to visit. -/
  remaining : ℕ → List (Strategy tenantOf)

/-- What a call waits for outside the loop over the strategies. -/
inductive CallInput where
  | verified
  | statement
  | raise (message : String) (effect : Bool)
  | crash

def CallInput.scanInput : CallInput → ScanInput
  | .verified => .verified
  | .statement => .statement
  | .raise message effect => .raise message effect
  | .crash => .crash

inductive SystemAction (tenantOf : Uuid → Option Uuid) where
  | tick (elapsed : ℕ)
  | saveStrategies (rows : List (Strategy tenantOf))
  /-- `POST /api/scanner/trigger`. -/
  | trigger (user : Uuid) (providerSlug : String) (strategyId : Option String) (force : Bool)
  | runWorkerOnce (providerSlug : String) (force : Bool)
  | create (w : ℕ) (id : Uuid)
  | load (w : ℕ)
  | visit (w : ℕ) (v : Visit)
  | work (w : ℕ) (input : CallInput)
  | recoverStaleRuns (leaseMs : ℕ)
  | pruneTerminalRuns (retentionDays : ℕ) (locked : Uuid → Bool) (scan : Scan)

/-- The call, its scan, and the strategy it visits next. -/
def visiting (s : ScanSystem tenantOf) (w : ℕ) :
    Option (ScanTask × Scanning × Strategy tenantOf × List (Strategy tenantOf)) :=
  match s.pool.tasks[w]?, s.remaining w with
  | some t, strategy :: rest =>
    match t.stage with
    | .scanning scan (_ + 1) => some (t, scan, strategy, rest)
    | _ => none
  | _, _ => none

/-- The call that is about to load its strategies. -/
def loading (s : ScanSystem tenantOf) (w : ℕ) : Option ScanTask :=
  s.pool.tasks[w]?.bind fun t =>
    match t.stage with
    | .loading _ => some t
    | _ => none

/-- One step of the system.  `gen_random_uuid` generates no value twice. -/
def systemStep (sanitize : Sanitize) (s : ScanSystem tenantOf) :
    SystemAction tenantOf → ScanSystem tenantOf
  | .tick elapsed => { s with pool := scannerStep sanitize s.pool (.tick elapsed) }
  | .saveStrategies rows => { s with strategies := rows }
  | .trigger user providerSlug strategyId force =>
    if tenantOf user = some user ∧ mayTrigger s.strategies user strategyId = true then
      { s with
        pool := scannerStep sanitize s.pool
          (.executeScan providerSlug ⟨some user.text, strategyId, force⟩) }
    else s
  | .runWorkerOnce providerSlug force =>
    { s with pool := scannerStep sanitize s.pool (.executeScan providerSlug ⟨some "system", none, force⟩) }
  | .create w id =>
    if id ∈ s.pool.shared.generated then s
    else { s with pool := scannerStep sanitize s.pool (.work w (.create id)) }
  | .load w =>
    match loading s w with
    | some t =>
      let eligible := getEligibleStrategies t.args.strategyId s.strategies
      { s with
        pool := scannerStep sanitize s.pool (.work w (.strategies eligible.length))
        remaining := Function.update s.remaining w eligible }
    | none => s
  | .visit w v =>
    match visiting s w with
    | some (_, scan, strategy, rest) =>
      { s with
        pool := scannerStep sanitize s.pool
          (.work w (visitInput sanitize strategy.strategyId scan.metrics v))
        remaining := Function.update s.remaining w rest }
    | none => s
  | .work w input => { s with pool := scannerStep sanitize s.pool (.work w input.scanInput) }
  | .recoverStaleRuns leaseMs => { s with pool := scannerStep sanitize s.pool (.recoverStaleRuns leaseMs) }
  | .pruneTerminalRuns retentionDays locked scan =>
    { s with pool := scannerStep sanitize s.pool (.pruneTerminalRuns retentionDays locked scan) }

/-- A run that user `u` is given. -/
inductive Shown (secrets : Redaction) (s : ScanSystem tenantOf) (u : Uuid) : ScannerRunDto → Prop
  | listed {run : ScannerRunDto} (scan : Scan) (query : ScannerRunListQuery)
      (h : run ∈ listRuns scan query u.text s.pool.shared.rows) : Shown secrets s u run
  | lastRun {run : ScannerRunDto} (scan : Scan)
      (h : (getHealth secrets scan u.text s.pool.shared.rows).1 = some run) : Shown secrets s u run
  | lastSuccessfulRun {run : ScannerRunDto} (scan : Scan)
      (h : (getHealth secrets scan u.text s.pool.shared.rows).2 = some run) : Shown secrets s u run
  /-- The answer to a trigger: the run of the call. -/
  | triggered (w : ℕ) (t : ScanTask) (r : ScannerRun) (hget : s.pool.tasks[w]? = some t)
      (hstage : t.stage = .returned r) (hby : t.args.initiatedBy = some u.text) :
      Shown secrets s u (redactScannerRunForViewer secrets (toScannerRunDto r) u.text)
  /-- The answer to a trigger that found the scanner running: the last run. -/
  | skipped (scan : Scan) (r : ScannerRun) (h : Scanner.lastRun scan s.pool.shared.rows = some r) :
      Shown secrets s u (redactScannerRunForViewer secrets (toScannerRunDto r) u.text)

/-- The id of another user, or of a strategy of another user. -/
def ForeignTo (tenantOf : Uuid → Option Uuid) (u w : Uuid) : Prop := ∃ v, tenantOf w = some v ∧ v ≠ u

/-- The text has no user's and no strategy's id glued to a word character. -/
def Plain (tenantOf : Uuid → Option Uuid) (text : String) : Prop :=
  ∀ w, tenantOf w ≠ none → ¬ Occurs true w.text.toList text.toList

/-- The condition on a visit: its messages are plain, and among the first ten failures of a scan that a user
    triggered for every strategy, the strategies that fail as a whole belong to the user. -/
def VisitOk (t : ScanTask) (scan : Scanning) (strategy : Strategy tenantOf) : Visit → Prop
  | .failed message => Plain tenantOf message ∧
    ∀ u : Uuid, t.args.initiatedBy = some u.text → t.args.strategyId = none →
      scan.metrics.errors.length < 10 → strategy.userId = u
  | .scanned failures _ => ∀ f ∈ failures, Plain tenantOf f.message

/-- The condition on a step. -/
def LeaksNothing (s : ScanSystem tenantOf) : SystemAction tenantOf → Prop
  | .visit w v => ∀ t scan strategy rest, visiting s w = some (t, scan, strategy, rest) →
      VisitOk t scan strategy v
  | .work _ (.raise message _) => Plain tenantOf message
  | _ => True

/-! ## Texts of a run -/

/-- A text of a run that `owner` triggered: plain, and without the ids of other tenants. -/
structure TextOk (tenantOf : Uuid → Option Uuid) (owner text : String) : Prop where
  plain : Plain tenantOf text
  own : ∀ u w, owner = u.text → ForeignTo tenantOf u w → ¬ Occurs false w.text.toList text.toList

section Texts

variable {owner text a b : String} {secrets redact : Redaction} {maxChars : ℕ}

theorem ForeignTo.ne_none {u w : Uuid} (h : ForeignTo tenantOf u w) : tenantOf w ≠ none := by
  obtain ⟨v, hv, -⟩ := h
  simp [hv]

theorem TextOk.of_occurs (h : TextOk tenantOf owner a)
    (hab : ∀ (glued : Bool) (w : Uuid), Occurs glued w.text.toList b.toList →
      Occurs glued w.text.toList a.toList) : TextOk tenantOf owner b where
  plain w hw hocc := h.plain w hw (hab true w hocc)
  own u w howner hforeign hocc := h.own u w howner hforeign (hab false w hocc)

theorem textOk_short (h : text.toList.length < 36) : TextOk tenantOf owner text where
  plain _ _ := not_occurs_of_short h
  own _ _ _ _ := not_occurs_of_short h

theorem textOk_redacted (h : Plain tenantOf text) :
    TextOk tenantOf owner (sanitizeScannerError secrets redact maxChars true text) where
  plain w hw hocc := h w hw (shown_of_redacted hocc.shown)
  own _ w _ hforeign hocc := h w hforeign.ne_none (shown_of_redacted hocc)

theorem TextOk.stored (h : TextOk tenantOf owner text) :
    TextOk tenantOf owner (sanitizeScannerError secrets redact maxChars false text) :=
  h.of_occurs fun _ _ => occurs_of_sanitized

theorem TextOk.separated {c : Char} (ha : TextOk tenantOf owner a) (hb : TextOk tenantOf owner b)
    (hc : c ∉ "-0123456789abcdef".toList) (hword : isWordChar c = false)
    (htext : text.toList = a.toList ++ c :: b.toList) : TextOk tenantOf owner text where
  plain w hw hocc := by
    rw [htext] at hocc
    exact (occurs_separated hc hword hocc).elim (ha.plain w hw) (hb.plain w hw)
  own u w howner hforeign hocc := by
    rw [htext] at hocc
    exact (occurs_separated hc hword hocc).elim (ha.own u w howner hforeign)
      (hb.own u w howner hforeign)

theorem textOk_id {id : Uuid} (h : ∀ u : Uuid, owner = u.text → tenantOf id = some u) :
    TextOk tenantOf owner id.text where
  plain w _ hocc := by
    have hglued := (hocc.eq_of_length (by simp)).2
    cases hglued
  own u w howner hforeign hocc := by
    have htext := (hocc.eq_of_length (by simp)).1
    have hid : id = w := Uuid.text_inj.mp (String.toList_injective htext)
    obtain ⟨v, hv, hne⟩ := hforeign
    rw [← hid, h u howner] at hv
    exact hne (Option.some.inj hv).symm

theorem textOk_empty : TextOk tenantOf owner "" := textOk_short (by decide)

theorem TextOk.joined {sep : String} (ha : TextOk tenantOf owner a) (hb : TextOk tenantOf owner b)
    (hsep : sep = ": " ∨ sep = "; ") : TextOk tenantOf owner (a ++ sep ++ b) := by
  have htail : TextOk tenantOf owner (" " ++ b) :=
    textOk_empty.separated hb (c := ' ') (by decide) (by decide) (by simp)
  rcases hsep with rfl | rfl
  · exact ha.separated htail (c := ':') (by decide) (by decide) (by simp)
  · exact ha.separated htail (c := ';') (by decide) (by decide) (by simp)

theorem textOk_strategyError {id : Uuid} (hid : ∀ u : Uuid, owner = u.text → tenantOf id = some u)
    (hmessage : TextOk tenantOf owner text) :
    TextOk tenantOf owner ("strategy " ++ id.text ++ ": " ++ text) := by
  have hlabel : TextOk tenantOf owner ("strategy " ++ id.text) := by
    have hword : TextOk tenantOf owner "strategy" := textOk_short (by decide)
    exact hword.separated (textOk_id hid) (c := ' ') (by decide) (by decide) (by simp)
  exact hlabel.joined hmessage (.inl rfl)

theorem textOk_instrumentError {f : InstrumentFailure} (h : Plain tenantOf f.message) :
    TextOk tenantOf owner (instrumentError (sanitizeScannerError secrets redact) f) := by
  have hclass : TextOk tenantOf owner ("instrument " ++ f.instrument.assetClass) := by
    refine textOk_short ?_
    have hbound := f.instrument.assetClassBounded
    simp only [String.toList_append, List.length_append]
    have hlen : "instrument ".toList.length = 11 := rfl
    omega
  have hsymbol : TextOk tenantOf owner f.instrument.symbol := by
    refine textOk_short ?_
    have hbound := f.instrument.symbolBounded
    omega
  have hlabel : TextOk tenantOf owner
      ("instrument " ++ f.instrument.assetClass ++ "/" ++ f.instrument.symbol) :=
    hclass.separated hsymbol (c := '/') (by decide) (by decide) (by simp)
  exact hlabel.joined (textOk_redacted h) (.inl rfl)

theorem textOk_intercalate : ∀ {l : List String}, (∀ e ∈ l, TextOk tenantOf owner e) →
    TextOk tenantOf owner ("; ".intercalate l)
  | [], _ => textOk_empty
  | [e], h => by
    rw [String.intercalate_singleton]
    exact h e (List.mem_singleton_self e)
  | e :: e' :: l, h => by
    rw [String.intercalate_cons_cons]
    exact (h e List.mem_cons_self).joined
      (textOk_intercalate fun x hx => h x (List.mem_cons_of_mem _ hx)) (.inr rfl)

theorem textOk_nat (n : ℕ) : TextOk tenantOf owner (toString n) := by
  have hhyphen : '-' ∉ (toString n).toList := by
    intro hmem
    rw [Nat.toString_eq_repr, Nat.repr, String.toList_ofList] at hmem
    have hdigit : '-'.isDigit = true := Nat.isDigit_of_mem_toDigits (by decide) (by decide) hmem
    exact absurd hdigit (by decide)
  exact ⟨fun _ _ => not_occurs_of_no_hyphen hhyphen, fun _ _ _ _ => not_occurs_of_no_hyphen hhyphen⟩

/-- The failures that a run records. -/
def ErrorsOk (tenantOf : Uuid → Option Uuid) (owner : String) (errors : List String) : Prop :=
  ∀ e ∈ errors.take 10, TextOk tenantOf owner e

theorem errorsOk_nil : ErrorsOk tenantOf owner [] := fun e he => by simp at he

theorem ErrorsOk.append {l l' : List String} (h : ErrorsOk tenantOf owner l)
    (h' : l.length < 10 → ∀ e ∈ l', TextOk tenantOf owner e) : ErrorsOk tenantOf owner (l ++ l') := by
  intro e he
  rw [List.take_append] at he
  rcases List.mem_append.mp he with he | he
  · exact h e he
  · by_cases hlt : l.length < 10
    · exact h' hlt e (List.mem_of_mem_take he)
    · rw [show 10 - l.length = 0 by omega] at he
      cases he

theorem textOk_finalOutcome {s : Scanning} (h : ErrorsOk tenantOf owner s.metrics.errors) {e : String}
    (he : (finalOutcome s).2 = some e) : TextOk tenantOf owner e := by
  rw [finalOutcome] at he
  split at he
  · obtain rfl := Option.some.inj he
    have hall : TextOk tenantOf owner ("All " ++ toString s.total) := by
      have hword : TextOk tenantOf owner "All" := textOk_short (by decide)
      exact hword.separated (textOk_nat s.total) (c := ' ') (by decide) (by decide) (by simp)
    have hverdict : TextOk tenantOf owner "strategies failed" := textOk_short (by decide)
    have hlabel : TextOk tenantOf owner ("All " ++ toString s.total ++ " strategies failed") :=
      hall.separated hverdict (c := ' ') (by decide) (by decide) (by simp)
    have hfirst : ∀ e ∈ s.metrics.errors.take 3, TextOk tenantOf owner e := fun e he =>
      h e ((List.take_prefix_take_left (by decide)).subset he)
    have hjoined := hlabel.joined (textOk_intercalate hfirst) (.inl rfl)
    refine hjoined.of_occurs fun _ _ hocc => ?_
    simpa [String.append_assoc] using hocc
  · cases he

end Texts

/-! ## Rows -/

/-- A stored strategy id that names a strategy of `u`. -/
def OwnStrategy (tenantOf : Uuid → Option Uuid) (u : Uuid) (text : String) : Prop :=
  text.toList.length = 36 ∧ ∃ id, Uuid.ofText? text = some id ∧ tenantOf id = some u

structure RowOk (tenantOf : Uuid → Option Uuid) (r : ScannerRun) : Prop where
  error : ∀ e, r.error = some e → TextOk tenantOf r.triggeredBy e
  errors : ∀ m, r.summary = some m → ∀ e ∈ m.errors, TextOk tenantOf r.triggeredBy e
  triggeredBy : ∀ u : Uuid, r.triggeredBy = u.text → tenantOf u = some u
  strategyId : ∀ u : Uuid, r.triggeredBy = u.text → ∀ text, r.strategyId = some text →
    OwnStrategy tenantOf u text

theorem not_occurs_of_own {u v w : Uuid} {text : String} (hlen : text.toList.length = 36)
    (htext : Uuid.ofText? text = some v) (hown : tenantOf v = some u) (hforeign : ForeignTo tenantOf u w) :
    ¬ Occurs false w.text.toList text.toList := by
  intro hocc
  have hsame := (hocc.eq_of_length (by rw [uuid_length, hlen])).1
  obtain rfl : text = w.text := String.toList_injective hsame
  rw [Uuid.ofText?_text] at htext
  obtain rfl := Option.some.inj htext
  obtain ⟨x, hx, hne⟩ := hforeign
  rw [hown] at hx
  exact hne (Option.some.inj hx).symm

theorem RowOk.own {r : ScannerRun} {u w : Uuid} (h : RowOk tenantOf r) (hforeign : ForeignTo tenantOf u w)
    (howner : r.triggeredBy = u.text) : ¬ (toScannerRunDto r).Shows w := by
  rintro (⟨e, he, hocc⟩ | ⟨f, hf, text, htext, hocc⟩)
  · exact (h.error e he).own u w howner hforeign hocc
  · rcases (metadata_texts hf htext).2 with rfl | hid | ⟨m, hm, he⟩
    · rw [howner] at hocc
      exact not_occurs_of_own (uuid_length u) (Uuid.ofText?_text u) (h.triggeredBy u howner) hforeign hocc
    · obtain ⟨hlen, id, hread, hown⟩ := h.strategyId u howner text hid
      exact not_occurs_of_own hlen hread hown hforeign hocc
    · exact (h.errors m hm text he).own u w howner hforeign hocc

/-- **What a viewer is shown of a row.** -/
theorem RowOk.shows {r : ScannerRun} {secrets : Redaction} {u w : Uuid} (h : RowOk tenantOf r)
    (hforeign : ForeignTo tenantOf u w) :
    ¬ (redactScannerRunForViewer secrets (toScannerRunDto r) u.text).Shows w := by
  intro hshown
  by_cases howner : r.triggeredBy = u.text
  · exact h.own hforeign howner (shows_of_own howner hshown)
  · obtain ⟨e, he, hglued⟩ := shows_of_redacted howner hshown
    exact (h.error e he).plain w hforeign.ne_none hglued

/-! ## Calls -/

/-- Who a call runs for. -/
def ScanTask.owner (t : ScanTask) : String := t.args.initiatedBy.getD "system"

/-- The run of a call carries the user of the call. -/
structure Linked (owner : String) (d : Ledger) (runId : Uuid) : Prop where
  generated : runId ∈ d.generated
  triggeredBy : ∀ r ∈ d.rows, r.id = runId → r.triggeredBy = owner

/-- What a call has collected, at each of its stages. -/
def StageOk (tenantOf : Uuid → Option Uuid) (owner : String) (d : Ledger) : ScanStage → Prop
  | .creating => True
  | .loading runId => Linked owner d runId
  | .verifyingEmpty runId => Linked owner d runId
  | .scanning s _ => Linked owner d s.runId ∧ ErrorsOk tenantOf owner s.metrics.errors
  | .verifying s => Linked owner d s.runId ∧ ErrorsOk tenantOf owner s.metrics.errors
  | .completing s error => Linked owner d s.runId ∧ ErrorsOk tenantOf owner s.metrics.errors ∧
      ∀ e, error = some e → TextOk tenantOf owner e
  | .reading s => Linked owner d s.runId ∧ ErrorsOk tenantOf owner s.metrics.errors
  | .failing runId metrics message => Linked owner d runId ∧ ErrorsOk tenantOf owner metrics.errors ∧
      TextOk tenantOf owner message
  | .readingFailed runId => Linked owner d runId
  | .returned run => RowOk tenantOf run
  | .threw => True

/-- What an input brings into a call. -/
def InputOk (tenantOf : Uuid → Option Uuid) (owner : String) (sanitize : Sanitize) (stage : ScanStage) :
    ScanInput → Prop
  | .create _ => False
  | .scanned metrics => ErrorsOk tenantOf owner metrics.errors
  | .strategyFailed strategyId metrics message => ErrorsOk tenantOf owner (metrics.errors ++
      ["strategy " ++ strategyId ++ ": " ++ sanitize SCANNER_ERROR_MAX_CHARS true message])
  | .raise message _ => stage = .creating ∨ TextOk tenantOf owner (sanitize SCANNER_ERROR_MAX_CHARS true message)
  | _ => True

/-- What a statement of a call writes. -/
def StatementOk (tenantOf : Uuid → Option Uuid) (owner : String) (d : Ledger) : ScanStatement → Prop
  | .create _ => False
  | .complete runId _ metrics error => Linked owner d runId ∧ ErrorsOk tenantOf owner metrics.errors ∧
      ∀ e, error = some e → TextOk tenantOf owner e

variable {secrets redact : Redaction} {d : Ledger} {owner : String}

theorem stageOk_scanning {s : Scanning} (h : Linked owner d s.runId)
    (herrors : ErrorsOk tenantOf owner s.metrics.errors) (n : ℕ) :
    StageOk tenantOf owner d (scanningStage s n) := by
  cases n <;> exact ⟨h, herrors⟩

theorem rowOk_of_getRun {runId : Uuid} {run : ScannerRun} (hrows : ∀ r ∈ d.rows, RowOk tenantOf r)
    (h : getRun runId d.rows = some run) : RowOk tenantOf run :=
  hrows run (List.mem_of_find?_eq_some h)

/-- **A step of a call writes and keeps only texts that are in order.** -/
theorem scanStep_ok {sanitize : Sanitize} (hnotFound : TextOk tenantOf owner
      (sanitize SCANNER_ERROR_MAX_CHARS true "Scanner run not found"))
    (hrows : ∀ r ∈ d.rows, RowOk tenantOf r) {stage : ScanStage} {input : ScanInput}
    (hstage : StageOk tenantOf owner d stage) (hinput : InputOk tenantOf owner sanitize stage input) :
    (∀ st, (scanStep sanitize d.rows stage input).1 = some st → StatementOk tenantOf owner d st) ∧
      StageOk tenantOf owner d (scanStep sanitize d.rows stage input).2 := by
  have none_ok : ∀ st : ScanStatement, (none : Option ScanStatement) = some st →
      StatementOk tenantOf owner d st := fun _ h => by cases h
  have raised : ∀ {message : String} {effect : Bool}, stage ≠ .creating → input = .raise message effect →
      TextOk tenantOf owner (sanitize SCANNER_ERROR_MAX_CHARS true message) := by
    rintro message effect hne rfl
    exact hinput.resolve_left hne
  cases stage with
  | creating =>
    cases input with
    | create id => exact hinput.elim
    | _ => exact ⟨none_ok, trivial⟩
  | loading runId =>
    cases input with
    | strategies n =>
      cases n with
      | zero => exact ⟨none_ok, hstage⟩
      | succ n =>
        have hempty : ErrorsOk tenantOf owner
            { ScanMetrics.zero with
              strategiesScanned := min (n + 1) SCANNER_MAX_STRATEGIES_PER_RUN }.errors := errorsOk_nil
        exact ⟨none_ok, stageOk_scanning
          (s := ⟨runId, _, .completed, min (n + 1) SCANNER_MAX_STRATEGIES_PER_RUN⟩) hstage hempty _⟩
    | raise message effect =>
      exact ⟨none_ok, hstage, errorsOk_nil, raised (by simp) rfl⟩
    | crash => exact ⟨none_ok, trivial⟩
    | _ => exact ⟨none_ok, hstage⟩
  | verifyingEmpty runId =>
    cases input with
    | verified => exact ⟨none_ok, hstage, errorsOk_nil, fun _ h => by cases h⟩
    | raise message effect => exact ⟨none_ok, hstage, errorsOk_nil, raised (by simp) rfl⟩
    | crash => exact ⟨none_ok, trivial⟩
    | _ => exact ⟨none_ok, hstage⟩
  | scanning s remaining =>
    obtain ⟨hlinked, herrors⟩ := hstage
    cases input with
    | scanned metrics =>
      cases remaining with
      | zero => exact ⟨none_ok, hlinked, herrors⟩
      | succ n => exact ⟨none_ok, stageOk_scanning (s := { s with metrics }) hlinked hinput n⟩
    | strategyFailed strategyId metrics message =>
      cases remaining with
      | zero => exact ⟨none_ok, hlinked, herrors⟩
      | succ n => exact ⟨none_ok, stageOk_scanning (s := { s with
          metrics := { metrics with
            errors := metrics.errors ++
              ["strategy " ++ strategyId ++ ": " ++ sanitize SCANNER_ERROR_MAX_CHARS true message]
            providerFailures := metrics.providerFailures + 1 }
          finalStatus := .partially }) hlinked hinput n⟩
    | raise message effect =>
      cases remaining <;> exact ⟨none_ok, hlinked, herrors, raised (by simp) rfl⟩
    | crash => cases remaining <;> exact ⟨none_ok, trivial⟩
    | _ => cases remaining <;> exact ⟨none_ok, hlinked, herrors⟩
  | verifying s =>
    obtain ⟨hlinked, herrors⟩ := hstage
    cases input with
    | verified => exact ⟨none_ok, hlinked, herrors, fun e he => textOk_finalOutcome herrors he⟩
    | raise message effect => exact ⟨none_ok, hlinked, herrors, raised (by simp) rfl⟩
    | crash => exact ⟨none_ok, trivial⟩
    | _ => exact ⟨none_ok, hlinked, herrors⟩
  | completing s error =>
    obtain ⟨hlinked, herrors, herror⟩ := hstage
    have hcomplete : StatementOk tenantOf owner d (.complete s.runId s.finalStatus s.metrics error) :=
      ⟨hlinked, herrors, herror⟩
    cases input with
    | statement =>
      refine ⟨fun st hst => ?_, hlinked, herrors⟩
      rw [← Option.some.inj hst]
      exact hcomplete
    | raise message effect =>
      refine ⟨fun st hst => ?_, hlinked, herrors, raised (by simp) rfl⟩
      cases effect with
      | false => cases hst
      | true =>
        rw [← Option.some.inj hst]
        exact hcomplete
    | crash => exact ⟨none_ok, trivial⟩
    | _ => exact ⟨none_ok, hlinked, herrors, herror⟩
  | reading s =>
    obtain ⟨hlinked, herrors⟩ := hstage
    cases input with
    | statement =>
      cases hrun : getRun s.runId d.rows with
      | none =>
        simp only [scanStep, hrun]
        exact ⟨none_ok, hlinked, herrors, hnotFound⟩
      | some run =>
        simp only [scanStep, hrun]
        exact ⟨none_ok, rowOk_of_getRun hrows hrun⟩
    | raise message effect => exact ⟨none_ok, hlinked, herrors, raised (by simp) rfl⟩
    | crash => exact ⟨none_ok, trivial⟩
    | _ => exact ⟨none_ok, hlinked, herrors⟩
  | failing runId metrics message =>
    obtain ⟨hlinked, herrors, hmessage⟩ := hstage
    have hcomplete : StatementOk tenantOf owner d (.complete runId .failed metrics (some message)) :=
      ⟨hlinked, herrors, fun e he => Option.some.inj he ▸ hmessage⟩
    cases input with
    | statement =>
      refine ⟨fun st hst => ?_, hlinked⟩
      rw [← Option.some.inj hst]
      exact hcomplete
    | raise _ effect =>
      refine ⟨fun st hst => ?_, trivial⟩
      cases effect with
      | false => cases hst
      | true =>
        rw [← Option.some.inj hst]
        exact hcomplete
    | crash => exact ⟨none_ok, trivial⟩
    | _ => exact ⟨none_ok, hlinked, herrors, hmessage⟩
  | readingFailed runId =>
    cases input with
    | statement =>
      cases hrun : getRun runId d.rows with
      | none =>
        simp only [scanStep, hrun]
        exact ⟨none_ok, trivial⟩
      | some run =>
        simp only [scanStep, hrun]
        exact ⟨none_ok, rowOk_of_getRun hrows hrun⟩
    | raise message effect => exact ⟨none_ok, trivial⟩
    | crash => exact ⟨none_ok, trivial⟩
    | _ => exact ⟨none_ok, hstage⟩
  | returned run => cases input <;> exact ⟨none_ok, hstage⟩
  | threw => cases input <;> exact ⟨none_ok, trivial⟩

theorem scanStep_create {sanitize : Sanitize} {stage : ScanStage} (h : stage ≠ .creating) (id : Uuid)
    (rows : List ScannerRun) : scanStep sanitize rows stage (.create id) = (none, stage) := by
  cases stage with
  | creating => exact absurd rfl h
  | scanning s remaining => cases remaining <;> rfl
  | _ => rfl

/-! ## The ledger under a step -/

/-- Rows keep their ids and users; a new row has a new id. -/
structure Evolves (d d' : Ledger) : Prop where
  generated : d.generated ⊆ d'.generated
  rows : ∀ r' ∈ d'.rows, (∃ r ∈ d.rows, r.id = r'.id ∧ r.triggeredBy = r'.triggeredBy) ∨
    r'.id ∉ d.generated

theorem Evolves.refl (d : Ledger) : Evolves d d :=
  ⟨fun _ h => h, fun r hr => .inl ⟨r, hr, rfl, rfl⟩⟩

variable {d' : Ledger}

theorem Linked.mono {runId : Uuid} (h : Linked owner d runId) (hd : Evolves d d') :
    Linked owner d' runId where
  generated := hd.generated h.generated
  triggeredBy := by
    intro r' hr' hid
    rcases hd.rows r' hr' with ⟨r, hr, hsame, hby⟩ | hnew
    · rw [← hby]
      exact h.triggeredBy r hr (hsame.trans hid)
    · exact absurd (hid ▸ h.generated) hnew

theorem StageOk.mono {stage : ScanStage} (h : StageOk tenantOf owner d stage) (hd : Evolves d d') :
    StageOk tenantOf owner d' stage := by
  cases stage with
  | creating => trivial
  | loading => exact Linked.mono h hd
  | verifyingEmpty => exact Linked.mono h hd
  | scanning => exact ⟨h.1.mono hd, h.2⟩
  | verifying => exact ⟨h.1.mono hd, h.2⟩
  | completing => exact ⟨h.1.mono hd, h.2⟩
  | reading => exact ⟨h.1.mono hd, h.2⟩
  | failing => exact ⟨h.1.mono hd, h.2⟩
  | readingFailed => exact Linked.mono h hd
  | returned => exact h
  | threw => trivial

/-- What every reachable ledger satisfies. -/
structure LedgerTexts (tenantOf : Uuid → Option Uuid) (d : Ledger) : Prop where
  rows : ∀ r ∈ d.rows, RowOk tenantOf r
  known : ∀ r ∈ d.rows, r.id ∈ d.generated

theorem ledger_map (h : LedgerTexts tenantOf d) {f : ScannerRun → ScannerRun}
    (hid : ∀ r, (f r).id = r.id) (hby : ∀ r, (f r).triggeredBy = r.triggeredBy)
    (hf : ∀ r ∈ d.rows, RowOk tenantOf (f r)) :
    LedgerTexts tenantOf { d with rows := d.rows.map f } ∧ Evolves d { d with rows := d.rows.map f } := by
  refine ⟨⟨?_, ?_⟩, fun _ h => h, ?_⟩
  · intro r' hr'
    obtain ⟨r, hr, rfl⟩ := List.mem_map.mp hr'
    exact hf r hr
  · intro r' hr'
    obtain ⟨r, hr, rfl⟩ := List.mem_map.mp hr'
    rw [hid]
    exact h.known r hr
  · intro r' hr'
    obtain ⟨r, hr, rfl⟩ := List.mem_map.mp hr'
    exact .inl ⟨r, hr, (hid r).symm, (hby r).symm⟩

theorem ledger_complete (h : LedgerTexts tenantOf d) {runId : Uuid} {status : RunStatus}
    {metrics : ScanMetrics} {error : Option String}
    (hst : StatementOk tenantOf owner d (.complete runId status metrics error)) :
    let sanitize := sanitizeScannerError secrets redact
    let d' := { d with rows := completeRun sanitize d.now runId status metrics error d.rows }
    LedgerTexts tenantOf d' ∧ Evolves d d' := by
  obtain ⟨hlinked, herrors, herror⟩ := hst
  refine ledger_map h (fun r => by split <;> rfl) (fun r => by split <;> rfl) fun r hr => ?_
  split
  · rename_i hrun
    have howner := hlinked.triggeredBy r hr hrun
    refine ⟨fun e he => ?_, fun m hm e he => ?_, (h.rows r hr).triggeredBy, (h.rows r hr).strategyId⟩
    · obtain ⟨e', he', rfl⟩ := Option.map_eq_some_iff.mp he
      show TextOk tenantOf r.triggeredBy _
      rw [howner]
      exact (herror e' he').stored
    · obtain rfl := Option.some.inj hm
      obtain ⟨e', he', rfl⟩ := List.mem_map.mp he
      show TextOk tenantOf r.triggeredBy _
      rw [howner]
      exact (herrors e' he').stored
  · exact h.rows r hr

theorem ledger_recover (h : LedgerTexts tenantOf d) (leaseMs : ℕ) :
    LedgerTexts tenantOf { d with rows := recoverStaleRuns d.now leaseMs d.rows } ∧
      Evolves d { d with rows := recoverStaleRuns d.now leaseMs d.rows } := by
  refine ledger_map h (fun r => by split <;> rfl) (fun r => by split <;> rfl) fun r hr => ?_
  split
  · refine ⟨fun e he => ?_, (h.rows r hr).errors, (h.rows r hr).triggeredBy, (h.rows r hr).strategyId⟩
    rw [← Option.some.inj he]
    have hrecovered : TextOk tenantOf r.triggeredBy "recovered" := textOk_short (by decide)
    have hmessage : TextOk tenantOf r.triggeredBy "stale running run after restart" :=
      textOk_short (by decide)
    exact hrecovered.joined hmessage (.inl rfl)
  · exact h.rows r hr

theorem ledger_prune (h : LedgerTexts tenantOf d) (retentionDays : ℕ) (locked : Uuid → Bool) (scan : Scan) :
    LedgerTexts tenantOf { d with rows := pruneTerminalRuns d.now retentionDays locked scan d.rows } ∧
      Evolves d { d with rows := pruneTerminalRuns d.now retentionDays locked scan d.rows } :=
  ⟨⟨fun r hr => h.rows r (List.mem_of_mem_filter hr), fun r hr => h.known r (List.mem_of_mem_filter hr)⟩,
    fun _ h => h, fun r hr => .inl ⟨r, List.mem_of_mem_filter hr, rfl, rfl⟩⟩

/-! ## The system under a step -/

structure CallOk (s : ScanSystem tenantOf) (w : ℕ) (t : ScanTask) : Prop where
  user : ∀ u : Uuid, t.owner = u.text → tenantOf u = some u
  strategyId : ∀ u : Uuid, t.owner = u.text → ∀ text, t.args.strategyId = some text →
    OwnStrategy tenantOf u text
  stage : StageOk tenantOf t.owner s.pool.shared t.stage
  remaining : ∀ u : Uuid, t.owner = u.text → t.args.strategyId ≠ none →
    ∀ strategy ∈ s.remaining w, strategy.userId = u

/-- The invariant. -/
structure SystemOk (s : ScanSystem tenantOf) : Prop where
  ledger : LedgerTexts tenantOf s.pool.shared
  calls : ∀ w t, s.pool.tasks[w]? = some t → CallOk s w t
  idle : ∀ w, s.pool.tasks.length ≤ w → s.remaining w = []

variable {s : ScanSystem tenantOf}

theorem initiatedBy_of_owner {t : ScanTask} {u : Uuid} (h : t.owner = u.text) :
    t.args.initiatedBy = some u.text := by
  unfold ScanTask.owner at h
  cases hby : t.args.initiatedBy with
  | none =>
    rw [hby] at h
    have hlen := congrArg (fun x : String => x.toList.length) h
    simp only [Option.getD_none, uuid_length] at hlen
    exact absurd hlen (by decide)
  | some x =>
    rw [hby] at h
    exact congrArg some h

theorem SystemOk.update (h : SystemOk s) {d' : Ledger} (hd : LedgerTexts tenantOf d')
    (hevolves : Evolves s.pool.shared d') :
    SystemOk { s with pool := ⟨d', s.pool.tasks⟩ } where
  ledger := hd
  calls w t hget :=
    have hcall := h.calls w t hget
    ⟨hcall.user, hcall.strategyId, hcall.stage.mono hevolves, hcall.remaining⟩
  idle := h.idle

theorem SystemOk.step (h : SystemOk s) {w : ℕ} {t x : ScanTask} (hget : s.pool.tasks[w]? = some t)
    {d' : Ledger} (hd : LedgerTexts tenantOf d') (hevolves : Evolves s.pool.shared d')
    (hargs : x.args = t.args) (hstage : StageOk tenantOf t.owner d' x.stage)
    {rest : List (Strategy tenantOf)}
    (hrest : ∀ u : Uuid, t.owner = u.text → t.args.strategyId ≠ none →
      ∀ strategy ∈ rest, strategy.userId = u) :
    SystemOk { s with
      pool := ⟨d', s.pool.tasks.set w x⟩
      remaining := Function.update s.remaining w rest } := by
  have hlt : w < s.pool.tasks.length := (List.getElem?_eq_some_iff.mp hget).1
  have howner : x.owner = t.owner := by rw [ScanTask.owner, hargs, ScanTask.owner]
  refine ⟨hd, fun i y hi => ?_, fun i hi => ?_⟩
  · rcases Pool.getElem?_set_cases hi with ⟨rfl, rfl⟩ | ⟨hne, hold⟩
    · have hcall := h.calls i t hget
      refine ⟨?_, ?_, ?_, ?_⟩
      · rw [howner]
        exact hcall.user
      · rw [howner, hargs]
        exact hcall.strategyId
      · rw [howner]
        exact hstage
      · rw [howner, hargs]
        show ∀ u : Uuid, t.owner = u.text → t.args.strategyId ≠ none →
          ∀ strategy ∈ Function.update s.remaining i rest i, strategy.userId = u
        rw [Function.update_self]
        exact hrest
    · have hcall := h.calls i y hold
      refine ⟨hcall.user, hcall.strategyId, hcall.stage.mono hevolves, ?_⟩
      show ∀ u : Uuid, y.owner = u.text → y.args.strategyId ≠ none →
        ∀ strategy ∈ Function.update s.remaining w rest i, strategy.userId = u
      rw [Function.update_of_ne hne]
      exact hcall.remaining
  · have hlen : s.pool.tasks.length ≤ i := by simpa using hi
    show Function.update s.remaining w rest i = []
    rw [Function.update_of_ne (by omega)]
    exact h.idle i hlen

theorem perform_ok (h : LedgerTexts tenantOf d) (t : ScanTask) {statement : Option ScanStatement}
    (hst : ∀ st, statement = some st → StatementOk tenantOf owner d st) :
    LedgerTexts tenantOf (d.perform (sanitizeScannerError secrets redact) t statement) ∧
      Evolves d (d.perform (sanitizeScannerError secrets redact) t statement) := by
  cases statement with
  | none => exact ⟨h, .refl d⟩
  | some st =>
    have hok := hst st rfl
    cases st with
    | create id => exact hok.elim
    | complete runId status metrics error => exact ledger_complete h hok

/-- **A step of a call on an input that is in order.** -/
theorem SystemOk.work (h : SystemOk s) {w : ℕ} {t : ScanTask} {input : ScanInput}
    (hget : s.pool.tasks[w]? = some t)
    (hinput : InputOk tenantOf t.owner (sanitizeScannerError secrets redact) t.stage input)
    {rest : List (Strategy tenantOf)}
    (hrest : ∀ u : Uuid, t.owner = u.text → t.args.strategyId ≠ none →
      ∀ strategy ∈ rest, strategy.userId = u) :
    SystemOk { s with
      pool := scannerStep (sanitizeScannerError secrets redact) s.pool (.work w input)
      remaining := Function.update s.remaining w rest } := by
  have hnotFound : TextOk tenantOf t.owner
      (sanitizeScannerError secrets redact SCANNER_ERROR_MAX_CHARS true "Scanner run not found") :=
    textOk_redacted fun _ _ => not_occurs_of_short (by decide)
  have hstep := scanStep_ok hnotFound h.ledger.rows (h.calls w t hget).stage hinput
  have hperformed : LedgerTexts tenantOf (s.pool.shared.perform (sanitizeScannerError secrets redact) t _) ∧
      Evolves s.pool.shared (s.pool.shared.perform (sanitizeScannerError secrets redact) t _) :=
    perform_ok h.ledger t hstep.1
  have hpool : scannerStep (sanitizeScannerError secrets redact) s.pool (.work w input) = _ :=
    Pool.advance_of_get hget
  rw [hpool]
  exact h.step
    (x := { t with stage := (scanStep (sanitizeScannerError secrets redact) s.pool.shared.rows t.stage
      input).2 })
    hget hperformed.1 hperformed.2 rfl (hstep.2.mono hperformed.2) hrest

theorem SystemOk.create (h : SystemOk s) {w : ℕ} {id : Uuid} (hid : id ∉ s.pool.shared.generated) :
    SystemOk { s with
      pool := scannerStep (sanitizeScannerError secrets redact) s.pool (.work w (.create id)) } := by
  cases hget : s.pool.tasks[w]? with
  | none =>
    have hpool : scannerStep (sanitizeScannerError secrets redact) s.pool (.work w (.create id)) = s.pool :=
      Pool.advance_of_none hget
    rw [hpool]
    exact h
  | some t =>
    have hcall := h.calls w t hget
    have hpool : scannerStep (sanitizeScannerError secrets redact) s.pool (.work w (.create id)) = _ :=
      Pool.advance_of_get hget
    rw [hpool, ← Function.update_eq_self w s.remaining]
    show SystemOk { s with
      pool := ⟨s.pool.shared.perform (sanitizeScannerError secrets redact) t
        (scanStep (sanitizeScannerError secrets redact) s.pool.shared.rows t.stage (.create id)).1,
        s.pool.tasks.set w { t with stage :=
          (scanStep (sanitizeScannerError secrets redact) s.pool.shared.rows t.stage (.create id)).2 }⟩
      remaining := Function.update s.remaining w (s.remaining w) }
    by_cases hstage : t.stage = .creating
    · have hstep : scanStep (sanitizeScannerError secrets redact) s.pool.shared.rows t.stage (.create id) =
          (some (.create id), .loading id) := by
        rw [hstage]
        rfl
      have hrow : RowOk tenantOf (createdRun s.pool.shared.now id t.providerSlug t.args) :=
        ⟨fun _ he => (by cases he), fun _ hm => (by cases hm), hcall.user, hcall.strategyId⟩
      have hd : LedgerTexts tenantOf
          (s.pool.shared.perform (sanitizeScannerError secrets redact) t (some (.create id))) := by
        refine ⟨fun r hr => ?_, fun r hr => ?_⟩
        · rcases List.mem_append.mp hr with hr | hr
          · exact h.ledger.rows r hr
          · rw [List.mem_singleton.mp hr]
            exact hrow
        · rcases List.mem_append.mp hr with hr | hr
          · exact List.mem_append_left _ (h.ledger.known r hr)
          · rw [List.mem_singleton.mp hr]
            exact List.mem_append_right _ (List.mem_singleton_self id)
      have hevolves : Evolves s.pool.shared
          (s.pool.shared.perform (sanitizeScannerError secrets redact) t (some (.create id))) := by
        refine ⟨fun _ hx => List.mem_append_left _ hx, fun r hr => ?_⟩
        rcases List.mem_append.mp hr with hr | hr
        · exact .inl ⟨r, hr, rfl, rfl⟩
        · rw [List.mem_singleton.mp hr]
          exact .inr hid
      have hlinked : Linked t.owner
          (s.pool.shared.perform (sanitizeScannerError secrets redact) t (some (.create id))) id := by
        refine ⟨List.mem_append_right _ (List.mem_singleton_self id), fun r hr hsame => ?_⟩
        rcases List.mem_append.mp hr with hr | hr
        · exact absurd (hsame ▸ h.ledger.known r hr) hid
        · rw [List.mem_singleton.mp hr]
          rfl
      have hok := h.step (x := { t with stage := .loading id }) hget hd hevolves rfl hlinked
        hcall.remaining
      rw [hstep]
      exact hok
    · have hok := h.step (x := t) hget h.ledger (.refl _) rfl hcall.stage hcall.remaining
      rw [scanStep_create hstage]
      exact hok

theorem SystemOk.spawn (h : SystemOk s) {t : ScanTask} (hstage : t.stage = .creating)
    (huser : ∀ u : Uuid, t.owner = u.text → tenantOf u = some u)
    (hstrategyId : ∀ u : Uuid, t.owner = u.text → ∀ text, t.args.strategyId = some text →
      OwnStrategy tenantOf u text) :
    SystemOk { s with pool := s.pool.spawn t } := by
  refine ⟨h.ledger, fun w x hget => ?_, fun w hw => ?_⟩
  · have hget' : (s.pool.tasks ++ [t])[w]? = some x := hget
    rcases Nat.lt_or_ge w s.pool.tasks.length with hlt | hge
    · rw [List.getElem?_append_left hlt] at hget'
      have hcall := h.calls w x hget'
      exact ⟨hcall.user, hcall.strategyId, hcall.stage, hcall.remaining⟩
    · rw [List.getElem?_append_right hge, List.getElem?_singleton] at hget'
      split at hget'
      · obtain rfl := Option.some.inj hget'
        refine ⟨huser, hstrategyId, ?_, fun u _ _ strategy hmem => ?_⟩
        · rw [hstage]
          trivial
        · rw [show s.remaining w = [] from h.idle w hge] at hmem
          cases hmem
      · cases hget'
  · have hlen : (s.pool.tasks ++ [t]).length ≤ w := hw
    rw [List.length_append] at hlen
    exact h.idle w (by omega)

theorem visiting_eq_some {w : ℕ} {t : ScanTask} {scan : Scanning} {strategy : Strategy tenantOf}
    {rest : List (Strategy tenantOf)} (h : visiting s w = some (t, scan, strategy, rest)) :
    s.pool.tasks[w]? = some t ∧ s.remaining w = strategy :: rest ∧ ∃ n, t.stage = .scanning scan (n + 1) := by
  unfold visiting at h
  split at h
  · rename_i t' strategy' rest' hget hrest
    split at h
    · rename_i n hstage
      obtain ⟨rfl, rfl, rfl, rfl⟩ := h
      exact ⟨hget, hrest, n, hstage⟩
    · cases h
  · cases h

theorem loading_eq_some {w : ℕ} {t : ScanTask} (h : loading s w = some t) :
    s.pool.tasks[w]? = some t ∧ ∃ runId, t.stage = .loading runId := by
  obtain ⟨x, hget, hx⟩ := Option.bind_eq_some_iff.mp h
  split at hx
  · rename_i runId hstage
    obtain rfl := Option.some.inj hx
    exact ⟨hget, runId, hstage⟩
  · cases hx

theorem eligible_scoped {text : String} {rows : List (Strategy tenantOf)} {strategy : Strategy tenantOf}
    (h : strategy ∈ getEligibleStrategies (some text) rows) :
    Uuid.ofText? text = some strategy.strategyId := by
  have hselected := List.mem_of_mem_take (List.mem_of_mem_filter (List.mem_of_mem_take h))
  have hfilter := (List.mem_filter.mp ((List.perm_insertionSort _ _).subset hselected)).2
  simp only [Bool.and_eq_true, Option.all_some, decide_eq_true_eq] at hfilter
  exact hfilter.2

theorem ownStrategy_of_mayTrigger {rows : List (Strategy tenantOf)} {user : Uuid} {text : String}
    (h : mayTrigger rows user (some text) = true) : OwnStrategy tenantOf user text := by
  simp only [mayTrigger, Option.all_some, Bool.and_eq_true, List.any_eq_true, decide_eq_true_eq] at h
  obtain ⟨hshape, r, -, hread, huser⟩ := h
  refine ⟨?_, r.strategyId, hread, ?_⟩
  · simp only [isUuidText, Bool.and_eq_true, beq_iff_eq] at hshape
    exact hshape.1
  · rw [r.owned, huser]

theorem inputOk_visit {w : ℕ} {t : ScanTask} {scan : Scanning} {strategy : Strategy tenantOf}
    {rest : List (Strategy tenantOf)} (h : SystemOk s) (hvisit : visiting s w = some (t, scan, strategy, rest))
    {v : Visit} (hv : VisitOk t scan strategy v) :
    InputOk tenantOf t.owner (sanitizeScannerError secrets redact) t.stage
      (visitInput (sanitizeScannerError secrets redact) strategy.strategyId scan.metrics v) := by
  obtain ⟨hget, hremaining, n, hstage⟩ := visiting_eq_some hvisit
  have hcall := h.calls w t hget
  have herrors : ErrorsOk tenantOf t.owner scan.metrics.errors := by
    have hstageOk := hcall.stage
    rw [hstage] at hstageOk
    exact hstageOk.2
  cases v with
  | failed message =>
    refine herrors.append fun hlt e he => ?_
    rw [List.mem_singleton.mp he]
    refine textOk_strategyError (fun u howner => ?_) (textOk_redacted hv.1)
    rw [strategy.owned]
    by_cases hscoped : t.args.strategyId = none
    · exact congrArg some (hv.2 u (initiatedBy_of_owner howner) hscoped hlt)
    · exact congrArg some (hcall.remaining u howner hscoped strategy (hremaining ▸ List.mem_cons_self))
  | scanned failures counted =>
    refine herrors.append fun _ e he => ?_
    obtain ⟨f, hf, rfl⟩ := List.mem_map.mp he
    exact textOk_instrumentError (hv f hf)

/-- **Step lemma.** -/
theorem systemStep_ok (h : SystemOk s) (a : SystemAction tenantOf) (ha : LeaksNothing s a) :
    SystemOk (systemStep (sanitizeScannerError secrets redact) s a) := by
  cases a with
  | tick elapsed =>
    exact h.update ⟨h.ledger.rows, h.ledger.known⟩
      ⟨fun _ hx => hx, fun r hr => .inl ⟨r, hr, rfl, rfl⟩⟩
  | saveStrategies rows => exact ⟨h.ledger, fun w t hget =>
      ⟨(h.calls w t hget).user, (h.calls w t hget).strategyId, (h.calls w t hget).stage,
        (h.calls w t hget).remaining⟩, h.idle⟩
  | trigger user providerSlug strategyId force =>
    simp only [systemStep]
    split
    · rename_i hmay
      refine h.spawn rfl (fun u howner => ?_) fun u howner text htext => ?_
      · rw [← Uuid.text_inj.mp howner]
        exact hmay.1
      · rw [← Uuid.text_inj.mp howner]
        have hid : strategyId = some text := htext
        exact ownStrategy_of_mayTrigger (hid ▸ hmay.2)
    · exact h
  | runWorkerOnce providerSlug force =>
    have hnobody : ∀ u : Uuid, "system" ≠ u.text := by
      intro u hu
      have hlen := congrArg (fun x : String => x.toList.length) hu
      simp only [uuid_length] at hlen
      exact absurd hlen (by decide)
    exact h.spawn rfl (fun u howner => absurd howner (hnobody u))
      fun u howner => absurd howner (hnobody u)
  | create w id =>
    simp only [systemStep]
    split
    · exact h
    · rename_i hid
      exact h.create hid
  | load w =>
    simp only [systemStep]
    split
    · rename_i t hload
      obtain ⟨hget, runId, hstage⟩ := loading_eq_some hload
      have hcall := h.calls w t hget
      have hinput : InputOk tenantOf t.owner (sanitizeScannerError secrets redact) t.stage
          (.strategies (getEligibleStrategies t.args.strategyId s.strategies).length) := trivial
      refine h.work hget hinput fun u howner hscoped strategy hmem => ?_
      obtain ⟨text, htext⟩ := Option.ne_none_iff_exists'.mp hscoped
      rw [htext] at hmem
      obtain ⟨-, id, hread, hown⟩ := hcall.strategyId u howner text htext
      rw [eligible_scoped hmem] at hread
      rw [← Option.some.inj hread, strategy.owned] at hown
      exact Option.some.inj hown
    · exact h
  | visit w v =>
    simp only [systemStep]
    split
    · rename_i t scan strategy rest hvisit
      obtain ⟨hget, hremaining, -⟩ := visiting_eq_some hvisit
      refine h.work hget (inputOk_visit h hvisit (ha t scan strategy rest hvisit)) ?_
      intro u howner hscoped x hx
      exact (h.calls w t hget).remaining u howner hscoped x (hremaining ▸ List.mem_cons_of_mem _ hx)
    · exact h
  | work w input =>
    show SystemOk { s with
      pool := scannerStep (sanitizeScannerError secrets redact) s.pool (.work w input.scanInput) }
    cases hget : s.pool.tasks[w]? with
    | none =>
      have hpool : scannerStep (sanitizeScannerError secrets redact) s.pool
          (.work w input.scanInput) = s.pool := Pool.advance_of_none hget
      rw [hpool]
      exact h
    | some t =>
      have hinput : InputOk tenantOf t.owner (sanitizeScannerError secrets redact) t.stage
          input.scanInput := by
        cases input with
        | raise message effect => exact .inr (textOk_redacted ha)
        | _ => trivial
      have hok := h.work hget hinput (h.calls w t hget).remaining
      rwa [Function.update_eq_self] at hok
  | recoverStaleRuns leaseMs =>
    have hledger := ledger_recover h.ledger leaseMs
    exact h.update hledger.1 hledger.2
  | pruneTerminalRuns retentionDays locked scan =>
    have hledger := ledger_prune h.ledger retentionDays locked scan
    exact h.update hledger.1 hledger.2

/-- No run and no call. -/
structure Started (s : ScanSystem tenantOf) : Prop where
  rows : s.pool.shared.rows = []
  tasks : s.pool.tasks = []
  remaining : ∀ w, s.remaining w = []

theorem Started.ok (h : Started s) : SystemOk s where
  ledger := ⟨by simp [h.rows], by simp [h.rows]⟩
  calls := by simp [h.tasks]
  idle w _ := h.remaining w

theorem mem_newestFirst {scan : Scan} {rows : List ScannerRun} {r : ScannerRun}
    (h : r ∈ newestFirst scan rows) : r ∈ rows :=
  (scan.perm rows).subset ((List.perm_insertionSort _ _).subset h)

theorem mem_of_lastRun {scan : Scan} {rows : List ScannerRun} {r : ScannerRun}
    (h : lastRun scan rows = some r) : r ∈ rows :=
  mem_newestFirst (List.mem_of_head? h)

theorem mem_of_lastSuccessfulRun {scan : Scan} {rows : List ScannerRun} {r : ScannerRun}
    (h : lastSuccessfulRun scan rows = some r) : r ∈ rows := by
  have hsorted := (List.perm_insertionSort _ _).subset (List.mem_of_head? h)
  exact (scan.perm rows).subset (List.mem_of_mem_filter hsorted)

theorem SystemOk.shown (h : SystemOk s) {u w : Uuid} {run : ScannerRunDto} (hrun : Shown secrets s u run)
    (hforeign : ForeignTo tenantOf u w) : ¬ run.Shows w := by
  cases hrun with
  | listed scan query hlist =>
    obtain ⟨r, hr, rfl⟩ := List.mem_map.mp hlist
    obtain ⟨hmem, hmine⟩ := List.mem_filter.mp (List.mem_of_mem_take hr)
    simp only [Bool.and_eq_true, decide_eq_true_eq] at hmine
    exact (h.ledger.rows r (mem_newestFirst hmem)).own hforeign hmine.1
  | lastRun scan hlast =>
    obtain ⟨r, hr, rfl⟩ := Option.map_eq_some_iff.mp hlast
    exact (h.ledger.rows r (mem_of_lastRun hr)).shows hforeign
  | lastSuccessfulRun scan hlast =>
    obtain ⟨r, hr, rfl⟩ := Option.map_eq_some_iff.mp hlast
    exact (h.ledger.rows r (mem_of_lastSuccessfulRun hr)).shows hforeign
  | triggered i t r hget hstage hby =>
    have hrow := (h.calls i t hget).stage
    rw [hstage] at hrow
    exact RowOk.shows hrow hforeign
  | skipped scan r hlast => exact (h.ledger.rows r (mem_of_lastRun hlast)).shows hforeign

/-- **When runs leak no tenant.** In every run of scans triggered by users and by workers, interleaved with
    recovery, retention, database errors and crashes: as long as the strategies that fail as a whole among
    the first ten failures of a user's unscoped scan are the user's own, and no failure message glues an id
    to a word character, no run that a user is given shows the id of another user or of its strategies. -/
theorem no_foreign_id_is_shown (secrets redact : Redaction) {s : ScanSystem tenantOf} (hs : Started s)
    {as : List (SystemAction tenantOf)}
    (hleaks : Runs.Meets (systemStep (sanitizeScannerError secrets redact)) LeaksNothing s as)
    {t : ScanSystem tenantOf}
    (ht : Runs.Reached (systemStep (sanitizeScannerError secrets redact)) s as t) {u w : Uuid}
    {run : ScannerRunDto} (hrun : Shown secrets t u run) (hforeign : ForeignTo tenantOf u w) :
    ¬ run.Shows w := by
  have hstep : ∀ (s : ScanSystem tenantOf) a, SystemOk s → LeaksNothing s a →
      SystemOk (systemStep (sanitizeScannerError secrets redact) s a) := fun _ a h ha => systemStep_ok h a ha
  have hok : SystemOk t := Runs.inv_of_reached _ hstep hs.ok hleaks ht
  exact hok.shown hrun hforeign

/-! ## Two tenants -/

/-- User 1 owns strategy 2, user 3 owns strategy 4. -/
def sampleTenantOf (w : Uuid) : Option Uuid :=
  if w = .ofDigit 1 ∨ w = .ofDigit 2 then some (.ofDigit 1)
  else if w = .ofDigit 3 ∨ w = .ofDigit 4 then some (.ofDigit 3)
  else none

def sampleStrategies : List (Strategy sampleTenantOf) :=
  [⟨.ofDigit 2, .ofDigit 1, by decide, true, true, true, true, 1⟩,
    ⟨.ofDigit 4, .ofDigit 3, by decide, true, true, true, true, 2⟩]

def sampleSystem : ScanSystem sampleTenantOf := ⟨[], emptyScanner, fun _ => []⟩

theorem sampleSystem_started : Started sampleSystem := ⟨rfl, rfl, fun _ => rfl⟩

/-- Every visit of the scan fails as it does on an instrument that the platform does not know. -/
def sampleFailure : Visit := .failed "Unsupported instrument \"crypto/NOPE\" — not in market universe"

/-- User 1 triggers a scan of every strategy. -/
def unscopedScan : List (SystemAction sampleTenantOf) :=
  [.saveStrategies sampleStrategies, .trigger (.ofDigit 1) "twelve-data" none false,
    .create 0 (.ofDigit 9), .load 0, .visit 0 sampleFailure, .visit 0 sampleFailure, .work 0 .verified,
    .work 0 .statement, .work 0 .statement]

/-- User 1 triggers a scan of its own strategy. -/
def scopedScan : List (SystemAction sampleTenantOf) :=
  [.saveStrategies sampleStrategies, .trigger (.ofDigit 1) "twelve-data" (some (Uuid.ofDigit 2).text) false,
    .create 0 (.ofDigit 9), .load 0, .visit 0 sampleFailure, .work 0 .verified, .work 0 .statement,
    .work 0 .statement]

def sampleScanOrder : Scan := ⟨fun l => l, fun l => .refl l⟩

abbrev sampleStep : ScanSystem sampleTenantOf → SystemAction sampleTenantOf → ScanSystem sampleTenantOf :=
  systemStep (sanitizeScannerError .none .none)

/-- The list of user 1's runs shows the strategy of user 3. -/
theorem unscoped_scan_shows_other_strategy :
    Started sampleSystem ∧ ∃ run,
      Shown .none (Runs.run sampleStep sampleSystem unscopedScan) (.ofDigit 1) run ∧
      ForeignTo sampleTenantOf (.ofDigit 1) (.ofDigit 4) ∧ run.Shows (.ofDigit 4) := by
  have hlisted : ∃ run ∈ listRuns sampleScanOrder ⟨none, 20⟩ (Uuid.ofDigit 1).text
      (Runs.run sampleStep sampleSystem unscopedScan).pool.shared.rows,
      ∃ f ∈ run.metadata, ∃ text ∈ texts f.2, (Uuid.ofDigit 4).text.toList <:+: text.toList := by
    decide +kernel
  obtain ⟨run, hrun, f, hf, text, htext, before, after, hshown⟩ := hlisted
  refine ⟨sampleSystem_started, run, .listed sampleScanOrder ⟨none, 20⟩ hrun,
    ⟨.ofDigit 3, by decide, by decide⟩, .inr ⟨f, hf, text, htext, before, after, ?_, ?_⟩⟩
  · exact hshown.symm
  · exact fun h => by cases h

theorem scopedScan_leaksNothing : Runs.Meets sampleStep LeaksNothing sampleSystem scopedScan := by
  rw [← List.take_append_drop 4 scopedScan, Runs.meets_append]
  refine ⟨⟨trivial, trivial, trivial, trivial, trivial⟩, ?_, trivial, trivial, trivial, trivial⟩
  intro t scan strategy rest hvisit
  refine ⟨fun w _ => not_occurs_of_no_hyphen (by decide +kernel), fun u _ hunscoped => ?_⟩
  -- the scan names its strategy
  have hscoped : (visiting (Runs.run sampleStep sampleSystem (scopedScan.take 4)) 0).map
      (fun x => x.1.args.strategyId.isSome) = some true := by decide +kernel
  rw [hvisit] at hscoped
  simp [hunscoped] at hscoped

/-- The scan of its own strategy shows user 1 that strategy, and no user another's. -/
theorem scoped_scan_shows_own_strategy :
    (∃ run ∈ listRuns sampleScanOrder ⟨none, 20⟩ (Uuid.ofDigit 1).text
      (Runs.run sampleStep sampleSystem scopedScan).pool.shared.rows,
      ∃ f ∈ run.metadata, ∃ text ∈ texts f.2, (Uuid.ofDigit 2).text.toList <:+: text.toList) ∧
    ∀ u w run, Shown .none (Runs.run sampleStep sampleSystem scopedScan) u run →
      ForeignTo sampleTenantOf u w → ¬ run.Shows w :=
  ⟨by decide +kernel, fun _ _ _ hrun hforeign => no_foreign_id_is_shown .none .none sampleSystem_started
    scopedScan_leaksNothing (Runs.reached_last _ _ _) hrun hforeign⟩

end VeltrixEye.Scanner
