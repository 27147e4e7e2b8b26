import VeltrixEye.Execution.KillSwitch

/-!
# The kill-switch ledger tells the truth

The row lock is what orders the writers of a switch once it has a row: a transaction that holds the row is
the only one that can change it, and its event gets an id above those of all earlier transitions.  Before
the first activation there is no row to lock, and only the advisory locks are left.

* `SystemOk` — what every reachable state satisfies.
-/

namespace VeltrixEye.Safety

open Runs Rows

/-! ## Rows of a switch -/

theorem find?_upsert (row : KillSwitchRow) (key : SwitchKey) (rows : List KillSwitchRow) :
    (upsert row rows).find? (fun r => r.key = key) =
      if row.key = key then some row else rows.find? fun r => r.key = key := by
  induction rows with
  | nil =>
    by_cases h : row.key = key <;> simp [upsert, h]
  | cons r rows ih =>
    unfold upsert
    split
    · rename_i hr
      by_cases h : row.key = key
      · simp [h]
      · have hrk : r.key ≠ key := fun e => h (hr.symm.trans e)
        simp [h, hrk]
    · rename_i hr
      by_cases hrk : r.key = key
      · have h : row.key ≠ key := fun e => hr (hrk.trans e.symm)
        simp [hrk, h]
      · simp only [List.find?_cons, hrk, decide_false]
        exact ih

theorem mem_upsert {row r : KillSwitchRow} {rows : List KillSwitchRow} (h : r ∈ upsert row rows) :
    r = row ∨ r ∈ rows := by
  induction rows with
  | nil => exact .inl (List.mem_singleton.mp h)
  | cons r' rows ih =>
    unfold upsert at h
    split at h
    · exact (List.mem_cons.mp h).imp_right (List.mem_cons_of_mem _)
    · rcases List.mem_cons.mp h with rfl | h
      · exact .inr List.mem_cons_self
      · exact (ih h).imp_right (List.mem_cons_of_mem _)

theorem upsert_keys_nodup {row : KillSwitchRow} {rows : List KillSwitchRow}
    (h : (rows.map (·.key)).Nodup) : ((upsert row rows).map (·.key)).Nodup := by
  induction rows with
  | nil => simp [upsert]
  | cons r rows ih =>
    rw [List.map_cons, List.nodup_cons] at h
    unfold upsert
    split
    · rename_i hr
      rw [List.map_cons, List.nodup_cons, ← hr]
      exact h
    · rename_i hr
      rw [List.map_cons, List.nodup_cons]
      refine ⟨fun hmem => ?_, ih h.2⟩
      obtain ⟨r', hr', hkey⟩ := List.mem_map.mp hmem
      rcases mem_upsert hr' with rfl | hr'
      · exact hr hkey.symm
      · exact h.1 (List.mem_map.mpr ⟨r', hr', hkey⟩)

variable {d d' : SafetyTables} {key : SwitchKey} {tx : SwitchTx}

theorem row?_mem {r : KillSwitchRow} (h : d.row? key = some r) : r ∈ d.switches ∧ r.key = key :=
  ⟨List.mem_of_find?_eq_some h, by simpa using List.find?_some h⟩

theorem row?_of_mem (hkeys : (d.switches.map (·.key)).Nodup) {r : KillSwitchRow} (hr : r ∈ d.switches)
    (hkey : r.key = key) : d.row? key = some r := by
  subst hkey
  exact find?_key hkeys hr

/-! ## Transitions -/

/-- The events of the real transitions of a switch, as they were committed. -/
def SafetyTables.marks (d : SafetyTables) (key : SwitchKey) : List KillSwitchEvent :=
  d.events.filter fun e => e.changed && e.key = key

theorem mem_marks {e : KillSwitchEvent} :
    e ∈ d.marks key ↔ e ∈ d.events ∧ e.changed = true ∧ e.key = key := by
  simp [SafetyTables.marks]

theorem transitions_eq_marks (h : (d.marks key).Pairwise fun a b => a.id < b.id) :
    d.transitions key = d.marks key :=
  List.Pairwise.insertionSort_eq (h.imp Nat.le_of_lt)

theorem row?_commitTx (d : SafetyTables) (tx : SwitchTx) (hrow : ∀ r ∈ tx.row, r.key = tx.key)
    (key : SwitchKey) :
    (commitTx d tx).row? key =
      if tx.row.isSome ∧ tx.key = key then tx.row else d.row? key := by
  unfold SafetyTables.row? commitTx
  cases h : tx.row with
  | none => simp
  | some r =>
    simp only [Option.map_some, Option.getD_some, Option.isSome_some, true_and]
    rw [find?_upsert, hrow r h]

theorem marks_commitTx (d : SafetyTables) (tx : SwitchTx) (key : SwitchKey) :
    (commitTx d tx).marks key = d.marks key ++ tx.event.toList.filter fun e => e.changed && e.key = key := by
  simp only [SafetyTables.marks, commitTx, List.filter_append]

/-! ## What is true of every reachable state -/

/-- The committed rows and the ledger. -/
structure TablesOk (d : SafetyTables) : Prop where
  keys : (d.switches.map (·.key)).Nodup
  ids : ∀ e ∈ d.events, e.id < d.nextEventId
  ordered : ∀ key, (d.marks key).Pairwise fun a b => a.id < b.id
  row_of_mark : ∀ key, d.marks key ≠ [] → (d.row? key).isSome

/-- The statements after the first one. -/
def TxStatement.hasRead (s : TxStatement) : Prop := s ≠ .reading

/-- The statements after the insert. -/
def TxStatement.hasInserted (s : TxStatement) : Prop := s ≠ .reading ∧ s ≠ .inserting

/-- The statements after the update. -/
def TxStatement.hasUpdated (s : TxStatement) : Prop := s.hasInserted ∧ s ≠ .updating

instance (s : TxStatement) : Decidable s.hasRead := inferInstanceAs (Decidable (_ ≠ _))

instance (s : TxStatement) : Decidable s.hasInserted := inferInstanceAs (Decidable (_ ∧ _))

instance (s : TxStatement) : Decidable s.hasUpdated := inferInstanceAs (Decidable (_ ∧ _))

/-- What a transaction knows. -/
structure TxOk (d : SafetyTables) (tx : SwitchTx) : Prop where
  /-- A locked row is as it was read. -/
  locked : tx.locked = true → ∃ r, d.row? tx.key = some r ∧ tx.changed = (r.active != tx.write.active)
  unlocked : tx.locked = false → tx.next.hasRead → tx.changed = tx.write.active
  row : ∀ r ∈ tx.row, r.key = tx.key ∧ r.active = tx.write.active ∧ r.reason = tx.write.reason ∧
    r.source = tx.write.source ∧ r.actorUserId = tx.write.actorUserId
  /-- A version that is no transition is the first one. -/
  first : tx.row.isSome → tx.changed = true ∨ d.row? tx.key = none
  inserted : tx.next.hasInserted → tx.row.isSome ∨ (d.row? tx.key).isSome
  updated : tx.next.hasUpdated → tx.changed = true → tx.row.isSome
  reading : tx.next = .reading → tx.locked = false
  fresh : ¬ tx.next.hasInserted → tx.row = none
  event : ∀ e ∈ tx.event, tx.next.hasUpdated ∧ e.key = tx.key ∧ e.action = tx.write.action ∧
    e.reason = tx.write.reason ∧ e.source = tx.write.source ∧ e.actorUserId = tx.write.actorUserId ∧
    e.changed = tx.changed ∧ e.id < d.nextEventId
  latest : ∀ e ∈ tx.event, tx.changed = true → ∀ e' ∈ d.marks tx.key, e'.id < e.id
  recorded : tx.next.hasUpdated → tx.next ≠ .recording → tx.changed = true → tx.event.isSome

def TaskOk (d : SafetyTables) (t : SwitchTask) : Prop := ∀ tx ∈ t.tx, TxOk d tx

/-- Two transactions do not hold the row of the same switch. -/
def Apart (t t' : SwitchTask) : Prop :=
  ∀ tx ∈ t.tx, ∀ tx' ∈ t'.tx, tx.key = tx'.key → ¬ (tx.holds = true ∧ tx'.holds = true)

abbrev SystemOk (p : SafetyPool) : Prop := Pool.Safe TablesOk TaskOk Apart p

/-! ## Steps of other transactions -/

/-- What a transaction sees of its own switch does not change. -/
structure SameSwitch (d d' : SafetyTables) (key : SwitchKey) : Prop where
  row : d'.row? key = d.row? key
  marks : d'.marks key = d.marks key

theorem TxOk.of_same (h : TxOk d tx) (hsame : SameSwitch d d' tx.key) (hid : d.nextEventId ≤ d'.nextEventId) :
    TxOk d' tx where
  locked := by
    rw [hsame.row]
    exact h.locked
  unlocked := h.unlocked
  row := h.row
  first := by
    rw [hsame.row]
    exact h.first
  inserted := by
    rw [hsame.row]
    exact h.inserted
  updated := h.updated
  reading := h.reading
  fresh := h.fresh
  event := fun e he => by
    obtain ⟨hnext, hkey, haction, hreason, hsource, hactor, hchanged, hlt⟩ := h.event e he
    exact ⟨hnext, hkey, haction, hreason, hsource, hactor, hchanged, Nat.lt_of_lt_of_le hlt hid⟩
  latest := by
    rw [hsame.marks]
    exact h.latest
  recorded := h.recorded

theorem commitTx_same (h : TxOk d tx) (hother : tx.key ≠ key ∨ tx.row = none ∧ tx.changed = false) :
    SameSwitch d (commitTx d tx) key := by
  have hrow : ∀ r ∈ tx.row, r.key = tx.key := fun r hr => (h.row r hr).1
  constructor
  · rw [row?_commitTx d tx hrow, if_neg]
    rintro ⟨hsome, hkey⟩
    rcases hother with hne | ⟨hnone, -⟩
    · exact hne hkey
    · rw [hnone] at hsome
      cases hsome
  · rw [marks_commitTx]
    have hnil : (tx.event.toList.filter fun e => e.changed && decide (e.key = key)) = [] := by
      rw [List.filter_eq_nil_iff]
      intro e he hmark
      rw [Option.mem_toList] at he
      obtain ⟨-, hkey, -, -, -, -, hchanged, -⟩ := h.event e he
      simp only [Bool.and_eq_true, decide_eq_true_eq] at hmark
      rcases hother with hne | ⟨-, hfalse⟩
      · exact hne (hkey.symm.trans hmark.2)
      · rw [← hchanged, hmark.1] at hfalse
        cases hfalse
    rw [hnil, List.append_nil]

theorem TxOk.of_commit {tx' : SwitchTx} (h : TxOk d tx) (h' : TxOk d tx')
    (hapart : tx.key = tx'.key → ¬ (tx.holds = true ∧ tx'.holds = true)) (hnext : tx'.next = .committing) :
    TxOk (commitTx d tx') tx := by
  by_cases hsame : tx'.key ≠ tx.key ∨ tx'.row = none ∧ tx'.changed = false
  · exact h.of_same (commitTx_same h' hsame) (Nat.le_refl _)
  push Not at hsame
  obtain ⟨hkey, hwrote⟩ := hsame
  have hrow' : tx'.row.isSome = true := by
    cases hr : tx'.row with
    | some r => rfl
    | none =>
      have hchanged : tx'.changed = true := by simpa using hwrote hr
      have := h'.updated (by rw [hnext]; decide) hchanged
      rwa [hr] at this
  have hnothold : ¬ tx.holds = true := fun hh =>
    hapart hkey.symm ⟨hh, by simp [SwitchTx.holds, hrow']⟩
  have hlocked : tx.locked = false := by
    cases hl : tx.locked
    · rfl
    · exact absurd (by simp [SwitchTx.holds, hl]) hnothold
  have hnone : tx.row = none := by
    cases hr : tx.row with
    | none => rfl
    | some r => exact absurd (by simp [SwitchTx.holds, hr]) hnothold
  -- a transaction with a transition to record would hold the row
  have hnotrecorded : tx.next.hasUpdated → tx.changed = false := by
    intro hupdated
    by_contra hchanged
    have := h.updated hupdated (by simpa using hchanged)
    rw [hnone] at this
    cases this
  have hsome : ((commitTx d tx').row? tx.key).isSome = true := by
    rw [row?_commitTx d tx' (fun r hr => (h'.row r hr).1), if_pos ⟨hrow', hkey⟩]
    exact hrow'
  exact {
    locked := fun hl => by rw [hlocked] at hl; cases hl
    unlocked := h.unlocked
    row := h.row
    first := fun hs => by rw [hnone] at hs; cases hs
    inserted := fun _ => .inr hsome
    updated := h.updated
    reading := h.reading
    fresh := h.fresh
    event := h.event
    latest := fun e he hchanged => by
      have := hnotrecorded (h.event e he).1
      rw [this] at hchanged
      cases hchanged
    recorded := h.recorded }

/-! ## Steps of the transaction itself -/

/-- No other transaction holds the row of the switch. -/
def Unheld (others : List SwitchTask) (key : SwitchKey) : Prop :=
  ∀ t ∈ others, ∀ tx ∈ t.tx, tx.key = key → tx.holds = false

theorem unheld_of_heldByOther {others : List SwitchTask} (h : heldByOther others key = false) :
    Unheld others key := by
  intro t ht tx htx hkey
  have hany := List.any_eq_false.mp h t ht
  rw [Option.mem_def] at htx
  rw [htx] at hany
  simpa [hkey] using hany

theorem unheld_of_insertedByOther {others : List SwitchTask} (hothers : ∀ t ∈ others, TaskOk d t)
    (hrow : d.row? key = none) (h : insertedByOther others key = false) : Unheld others key := by
  intro t ht tx htx hkey
  have hnone : tx.row = none := by
    have hany := List.any_eq_false.mp h t ht
    rw [Option.mem_def] at htx
    rw [htx] at hany
    simpa [hkey] using hany
  have hlocked : tx.locked = false := by
    cases hl : tx.locked with
    | false => rfl
    | true =>
      obtain ⟨r, hr, -⟩ := (hothers t ht tx htx).locked hl
      rw [hkey, hrow] at hr
      cases hr
  simp [SwitchTx.holds, hnone, hlocked]

/-- What a statement before the commit leaves behind. -/
structure QuietStep (d d' : SafetyTables) (others : List SwitchTask) (tx : SwitchTx)
    (stage : SwitchStage) : Prop where
  switches : d'.switches = d.switches
  events : d'.events = d.events
  ids : d.nextEventId ≤ d'.nextEventId
  own : ∀ tx', stage = .running tx' → TxOk d' tx' ∧ tx'.key = tx.key ∧
    (tx'.holds = true → tx.holds = true ∨ Unheld others tx.key)

theorem QuietStep.waits {others : List SwitchTask} (h : TxOk d tx) :
    QuietStep d d others tx (.running tx) :=
  ⟨rfl, rfl, Nat.le_refl _, fun _ e => by cases e; exact ⟨h, rfl, .inl⟩⟩

theorem TxOk.event_none (h : TxOk d tx) (hn : ¬ tx.next.hasUpdated) : tx.event = none := by
  cases he : tx.event with
  | none => rfl
  | some e => exact absurd (h.event e he).1 hn

theorem TxOk.brakes (h : TxOk d tx) (automationOff : Bool) (disabled : List String) :
    TxOk d { tx with automationOff := automationOff, disabled := disabled } :=
  ⟨h.locked, h.unlocked, h.row, h.first, h.inserted, h.updated, h.reading, h.fresh, h.event, h.latest,
    h.recorded⟩

theorem TxOk.goto (h : TxOk d tx) (hupdated : tx.next.hasUpdated) {next : TxStatement}
    (hnext : next.hasUpdated) (hrecorded : tx.changed = true → tx.event.isSome) :
    TxOk d { tx with next := next } where
  locked := h.locked
  unlocked := fun hl _ => h.unlocked hl hupdated.1.1
  row := h.row
  first := h.first
  inserted := fun _ => h.inserted hupdated.1
  updated := fun _ => h.updated hupdated
  reading := fun hn => absurd hn hnext.1.1
  fresh := fun hn => absurd hnext.1 hn
  event := fun e he => ⟨hnext, (h.event e he).2⟩
  latest := h.latest
  recorded := fun _ _ hchanged => hrecorded hchanged

theorem txOk_read_none (h : TxOk d tx) (hnext : tx.next = .reading) :
    TxOk d { tx with changed := tx.write.active, next := .inserting } := by
  have hunlocked : tx.locked = false := h.reading hnext
  have hrow : tx.row = none := h.fresh fun hi => hi.1 hnext
  have hevent : tx.event = none := h.event_none fun hu => hu.1.1 hnext
  refine ⟨?_, fun _ _ => rfl, ?_, ?_, fun hi => absurd rfl hi.2, fun hu => absurd rfl hu.1.2,
    nofun, fun _ => hrow, ?_, ?_, fun hu => absurd rfl hu.1.2⟩
  all_goals simp [hunlocked, hrow, hevent]

theorem txOk_read_some (h : TxOk d tx) (hnext : tx.next = .reading) {r : KillSwitchRow}
    (hr : d.row? tx.key = some r) :
    TxOk d { tx with locked := true, changed := r.active != tx.write.active, next := .inserting } := by
  have hrow : tx.row = none := h.fresh fun hi => hi.1 hnext
  have hevent : tx.event = none := h.event_none fun hu => hu.1.1 hnext
  refine ⟨fun _ => ⟨r, hr, rfl⟩, nofun, ?_, ?_, fun hi => absurd rfl hi.2,
    fun hu => absurd rfl hu.1.2, nofun, fun _ => hrow, ?_, ?_, fun hu => absurd rfl hu.1.2⟩
  all_goals simp [hrow, hevent]

theorem txOk_insert_some (h : TxOk d tx) (hnext : tx.next = .inserting) {r : KillSwitchRow}
    (hr : d.row? tx.key = some r) : TxOk d { tx with next := .updating } := by
  have hrow : tx.row = none := h.fresh fun hi => hi.2 hnext
  have hevent : tx.event = none := h.event_none fun hu => hu.1.2 hnext
  refine ⟨h.locked, fun hl _ => h.unlocked hl (by rw [hnext]; decide), h.row, h.first,
    fun _ => .inr ?_, fun hu => absurd rfl hu.2, nofun, fun _ => hrow, ?_, ?_,
    fun hu => absurd rfl hu.2⟩
  · show (d.row? tx.key).isSome = true
    rw [hr]
    rfl
  all_goals simp [hevent]

theorem txOk_insert_none (h : TxOk d tx) (hnext : tx.next = .inserting) (hr : d.row? tx.key = none) :
    TxOk d { tx with row := some (insertedRow tx), next := .updating } := by
  have hevent : tx.event = none := h.event_none fun hu => hu.1.2 hnext
  refine ⟨h.locked, fun hl _ => h.unlocked hl (by rw [hnext]; decide), ?_, fun _ => .inr hr,
    fun _ => .inl rfl, fun hu => absurd rfl hu.2, nofun,
    fun hn => absurd (show TxStatement.updating.hasInserted by decide) hn, ?_, ?_,
    fun hu => absurd rfl hu.2⟩
  · rintro r ⟨⟩
    exact ⟨rfl, rfl, rfl, rfl, rfl⟩
  all_goals simp [hevent]

theorem txOk_unchanged (h : TxOk d tx) (hnext : tx.next = .updating) (hchanged : tx.changed = false) :
    TxOk d { tx with next := .recording } := by
  have hevent : tx.event = none := h.event_none fun hu => hu.2 hnext
  refine ⟨h.locked, fun hl _ => h.unlocked hl (by rw [hnext]; decide), h.row, h.first,
    fun _ => h.inserted (by rw [hnext]; decide), ?_, nofun,
    fun hn => absurd (show TxStatement.recording.hasInserted by decide) hn, ?_, ?_,
    fun _ hne => absurd rfl hne⟩
  all_goals simp [hevent, hchanged]

theorem txOk_update (h : TxOk d tx) (hnext : tx.next = .updating) (hchanged : tx.changed = true)
    {r : KillSwitchRow} (hr : r.key = tx.key) :
    TxOk d { tx with row := some (updatedRow tx r), next := .recording } := by
  have hevent : tx.event = none := h.event_none fun hu => hu.2 hnext
  refine ⟨h.locked, fun hl _ => h.unlocked hl (by rw [hnext]; decide), ?_, fun _ => .inl hchanged,
    fun _ => .inl rfl, fun _ _ => rfl, nofun, fun hn => absurd (show TxStatement.recording.hasInserted by decide) hn,
    ?_, ?_, fun _ hne => absurd rfl hne⟩
  · rintro r' ⟨⟩
    exact ⟨hr, rfl, rfl, rfl, rfl⟩
  all_goals simp [hevent]

theorem txOk_record (hd : TablesOk d) (h : TxOk d tx) (hnext : tx.next = .recording) {next : TxStatement}
    (hafter : next.hasUpdated) :
    TxOk { d with nextEventId := d.nextEventId + 1 }
      { tx with event := some (newEvent d tx), next := next } := by
  have hupdated : tx.next.hasUpdated := by rw [hnext]; decide
  refine ⟨h.locked, fun hl _ => h.unlocked hl hupdated.1.1, h.row, h.first,
    fun _ => h.inserted hupdated.1, fun _ => h.updated hupdated, fun hn => absurd hn hafter.1.1,
    fun hn => absurd hafter.1 hn, ?_, ?_, fun _ _ _ => rfl⟩
  · rintro e ⟨⟩
    exact ⟨hafter, rfl, rfl, rfl, rfl, rfl, rfl, Nat.lt_succ_self _⟩
  · rintro e ⟨⟩ - e' he'
    exact hd.ids e' (mem_marks.mp he').1

theorem afterRecording_hasUpdated (call : SwitchCall) : (afterRecording call).hasUpdated := by
  unfold afterRecording
  split <;> decide

theorem txStep_quiet (call : SwitchCall) {others : List SwitchTask} (hd : TablesOk d) (h : TxOk d tx)
    (hothers : ∀ t ∈ others, TaskOk d t) (hnext : tx.next ≠ .committing) :
    QuietStep d (txStep d others call tx).1 others tx (txStep d others call tx).2 := by
  -- a transaction that goes on as `tx'` over the same tables
  have goesOn : ∀ tx', TxOk d tx' → tx'.key = tx.key →
      (tx'.holds = true → tx.holds = true ∨ Unheld others tx.key) →
      QuietStep d d others tx (.running tx') :=
    fun tx' hok hkey hholds => ⟨rfl, rfl, Nat.le_refl _, fun _ e => by cases e; exact ⟨hok, hkey, hholds⟩⟩
  unfold txStep
  cases hstmt : tx.next with
  | committing => exact absurd hstmt hnext
  | reading =>
    dsimp only
    cases hrow : d.row? tx.key with
    | none => exact goesOn _ (txOk_read_none h hstmt) rfl .inl
    | some r =>
      dsimp only
      split
      · exact .waits h
      · rename_i hheld
        exact goesOn _ (txOk_read_some h hstmt hrow) rfl fun _ =>
          .inr (unheld_of_heldByOther (by simpa using hheld))
  | inserting =>
    dsimp only
    cases hrow : d.row? tx.key with
    | some r => exact goesOn _ (txOk_insert_some h hstmt hrow) rfl .inl
    | none =>
      dsimp only
      split
      · exact .waits h
      · rename_i hinserted
        exact goesOn _ (txOk_insert_none h hstmt hrow) rfl fun _ =>
          .inr (unheld_of_insertedByOther hothers hrow (by simpa using hinserted))
  | updating =>
    dsimp only
    split
    · rename_i hchanged
      cases hrow : tx.row <|> d.row? tx.key with
      | none =>
        have hnone : tx.row = none ∧ d.row? tx.key = none := by simpa using hrow
        rcases h.inserted (by rw [hstmt]; decide) with hsome | hsome
        · simp [hnone.1] at hsome
        · simp [hnone.2] at hsome
      | some r =>
        dsimp only
        split
        · exact .waits h
        rename_i hheld
        have hkey : r.key = tx.key := by
          cases hown : tx.row with
          | some r' =>
            rw [hown] at hrow
            cases hrow
            exact (h.row r hown).1
          | none =>
            rw [hown] at hrow
            exact (row?_mem hrow).2
        exact goesOn _ (txOk_update h hstmt hchanged hkey) rfl fun _ =>
          .inr (unheld_of_heldByOther (by simpa using hheld))
    · rename_i hchanged
      exact goesOn _ (txOk_unchanged h hstmt (by simpa using hchanged)) rfl .inl
  | recording =>
    have hupdated : tx.next.hasUpdated := by rw [hstmt]; decide
    dsimp only
    split
    · split
      · refine ⟨rfl, rfl, Nat.le_succ _, fun _ e => ?_⟩
        cases e
        exact ⟨txOk_record hd h hstmt (afterRecording_hasUpdated call), rfl, .inl⟩
      · exact ⟨rfl, rfl, Nat.le_refl _, fun _ e => by cases e⟩
    · rename_i hnone
      refine goesOn _ (h.goto hupdated (afterRecording_hasUpdated call) fun hchanged => ?_) rfl .inl
      simp [hchanged] at hnone
  | disarming =>
    have hupdated : tx.next.hasUpdated := by rw [hstmt]; decide
    dsimp only
    split
    · exact .waits h
    · exact goesOn _ ((h.goto hupdated (show TxStatement.disabling.hasUpdated by decide)
        (h.recorded hupdated (by rw [hstmt]; decide))).brakes _ _) rfl .inl
  | disabling =>
    have hupdated : tx.next.hasUpdated := by rw [hstmt]; decide
    exact goesOn _ ((h.goto hupdated (show TxStatement.committing.hasUpdated by decide)
      (h.recorded hupdated (by rw [hstmt]; decide))).brakes _ _) rfl .inl

/-! ## The commit -/

theorem commitTx_ok (hd : TablesOk d) (h : TxOk d tx) (hnext : tx.next = .committing) :
    TablesOk (commitTx d tx) := by
  have hrow : ∀ r ∈ tx.row, r.key = tx.key := fun r hr => (h.row r hr).1
  refine ⟨?_, ?_, fun key => ?_, fun key hmarks => ?_⟩
  · unfold commitTx
    cases tx.row with
    | none => exact hd.keys
    | some r => exact upsert_keys_nodup hd.keys
  · intro e he
    rcases List.mem_append.mp he with he | he
    · exact hd.ids e he
    · exact (h.event e (Option.mem_toList.mp he)).2.2.2.2.2.2.2
  · rw [marks_commitTx, List.pairwise_append]
    refine ⟨hd.ordered key, ?_, ?_⟩
    · refine List.Pairwise.filter _ ?_
      cases tx.event <;> simp
    · intro e' he' e he
      simp only [List.mem_filter, Option.mem_toList, Bool.and_eq_true, decide_eq_true_eq] at he
      obtain ⟨he, hchanged, hkey⟩ := he
      obtain ⟨-, hkey', -, -, -, -, hchanged', -⟩ := h.event e he
      refine h.latest e he (hchanged'.symm.trans hchanged) e' ?_
      rwa [← hkey', hkey]
  · rw [row?_commitTx d tx hrow]
    split
    · rename_i hown
      exact hown.1
    · rename_i hother
      refine hd.row_of_mark key fun hnil => hmarks ?_
      rw [marks_commitTx, hnil, List.nil_append, List.filter_eq_nil_iff]
      intro e he hmark
      simp only [Bool.and_eq_true, decide_eq_true_eq] at hmark
      rw [Option.mem_toList] at he
      obtain ⟨-, hkey, -, -, -, -, hchanged, -⟩ := h.event e he
      have hsome := h.updated (by rw [hnext]; decide) (hchanged.symm.trans hmark.1)
      exact hother ⟨hsome, hkey.symm.trans hmark.2⟩

/-! ## The system keeps it -/

theorem txOk_begin (d : SafetyTables) (w : SwitchWrite) (lock : AdvisoryLock) (now : ℤ) :
    TxOk d ⟨w, lock, now, .reading, false, false, none, none, false, []⟩ := by
  refine ⟨nofun, fun _ hr => absurd rfl hr, ?_, nofun, fun hi => absurd rfl hi.1,
    fun hu => absurd rfl hu.1.1, fun _ => rfl, fun _ => rfl, ?_, ?_, fun hu => absurd rfl hu.1.1⟩
  all_goals simp

theorem sameSwitch_of_eq (hswitches : d'.switches = d.switches) (hevents : d'.events = d.events)
    (key : SwitchKey) : SameSwitch d d' key := by
  refine ⟨?_, ?_⟩
  · unfold SafetyTables.row?
    rw [hswitches]
  · unfold SafetyTables.marks
    rw [hevents]

theorem tablesOk_of_eq (h : TablesOk d) (hswitches : d'.switches = d.switches)
    (hevents : d'.events = d.events) (hids : d.nextEventId ≤ d'.nextEventId) : TablesOk d' := by
  have hsame := sameSwitch_of_eq hswitches hevents
  refine ⟨by rw [hswitches]; exact h.keys, ?_, fun key => ?_, fun key => ?_⟩
  · rw [hevents]
    exact fun e he => Nat.lt_of_lt_of_le (h.ids e he) hids
  · rw [(hsame key).marks]
    exact h.ordered key
  · rw [(hsame key).marks, (hsame key).row]
    exact h.row_of_mark key

theorem taskOk_of_none {t : SwitchTask} (h : t.tx = none) : TaskOk d t := by
  intro tx htx
  rw [h] at htx
  cases htx

theorem apart_of_none {t t' : SwitchTask} (h : t.tx = none) : Apart t t' := by
  intro tx htx
  rw [h] at htx
  cases htx

theorem apart_symm {t t' : SwitchTask} (h : Apart t t') : Apart t' t :=
  fun tx htx tx' htx' hkey hboth => h tx' htx' tx htx hkey.symm ⟨hboth.2, hboth.1⟩

/-- **Step lemma.** -/
theorem switchStep_ok {others : List SwitchTask} {t : SwitchTask} (now : ℤ) (hd : TablesOk d)
    (ht : TaskOk d t) (hothers : ∀ t' ∈ others, TaskOk d t' ∧ Apart t t')
    {r : SafetyTables × SwitchTask} (hr : switchStep now d others t = r) :
    TablesOk r.1 ∧ TaskOk r.1 r.2 ∧ ∀ t' ∈ others, TaskOk r.1 t' ∧ Apart r.2 t' := by
  have htasks : ∀ t' ∈ others, TaskOk d t' := fun t' ht' => (hothers t' ht').1
  -- a call without a transaction over the same tables
  have idle : ∀ t', t'.tx = none → TablesOk d ∧ TaskOk d t' ∧ ∀ u ∈ others, TaskOk d u ∧ Apart t' u := by
    exact fun t' htx => ⟨hd, taskOk_of_none htx, fun u hu => ⟨htasks u hu, apart_of_none htx⟩⟩
  subst hr
  unfold switchStep
  cases hstage : t.stage with
  | resolving =>
    dsimp only
    split <;> exact idle _ rfl
  | locking w =>
    dsimp only
    split
    · exact idle t (by simp [SwitchTask.tx, hstage])
    refine ⟨hd, ?_, fun u hu => ⟨htasks u hu, ?_⟩⟩
    · rintro tx ⟨⟩
      exact txOk_begin d w _ now
    · rintro tx ⟨⟩ tx' - - ⟨hholds, -⟩
      cases hholds
  | running tx =>
    have htx : tx ∈ t.tx := by simp [SwitchTask.tx, hstage]
    have hok : TxOk d tx := ht tx htx
    dsimp only
    by_cases hnext : tx.next = .committing
    · have hstep : txStep d others t.call tx = (commitTx d tx, .returned tx.changed) := by
        unfold txStep
        rw [hnext]
      rw [hstep]
      refine ⟨commitTx_ok hd hok hnext, taskOk_of_none rfl,
        fun u hu => ⟨fun tx' htx' => ?_, apart_of_none rfl⟩⟩
      refine (htasks u hu tx' htx').of_commit hok (fun hkey hboth => ?_) hnext
      exact (hothers u hu).2 tx htx tx' htx' hkey.symm ⟨hboth.2, hboth.1⟩
    · have hquiet := txStep_quiet t.call hd hok htasks hnext
      refine ⟨tablesOk_of_eq hd hquiet.switches hquiet.events hquiet.ids, ?_, fun u hu => ⟨?_, ?_⟩⟩
      · intro tx' htx'
        cases hresult : (txStep d others t.call tx).2 with
        | running tx'' =>
          simp only [SwitchTask.tx, hresult, Option.mem_def, Option.some.injEq] at htx'
          subst htx'
          exact (hquiet.own tx'' hresult).1
        | _ => simp [SwitchTask.tx, hresult] at htx'
      · exact fun tx' htx' => (htasks u hu tx' htx').of_same
          (sameSwitch_of_eq hquiet.switches hquiet.events _) hquiet.ids
      · intro tx' htx' tu htu hkey hboth
        cases hresult : (txStep d others t.call tx).2 with
        | running tx'' =>
          simp only [SwitchTask.tx, hresult, Option.mem_def, Option.some.injEq] at htx'
          subst htx'
          obtain ⟨-, hkey', hholds⟩ := hquiet.own tx'' hresult
          rcases hholds hboth.1 with hheld | hunheld
          · exact (hothers u hu).2 tx htx tu htu (hkey'.symm.trans hkey) ⟨hheld, hboth.2⟩
          · have := hunheld u hu tu htu (hkey.symm.trans hkey')
            rw [this] at hboth
            cases hboth.2
        | _ => simp [SwitchTask.tx, hresult] at htx'
  | returned changed => exact idle t (by simp [SwitchTask.tx, hstage])
  | threw => exact idle t (by simp [SwitchTask.tx, hstage])

theorem safetyStep_ok {p : SafetyPool} (h : SystemOk p) (a : SafetyAction) : SystemOk (safetyStep p a) := by
  cases a with
  | call call =>
    exact Pool.safe_spawn h (taskOk_of_none rfl) fun t' _ =>
      ⟨apart_of_none rfl, apart_symm (apart_of_none rfl)⟩
  | work w now =>
    refine Pool.safe_advance (f := fun d others t => switchStep now d others t) h w fun t r hw hr => ?_
    have hothers : ∀ t' ∈ p.others w, TaskOk p.shared t' ∧ Apart t t' := fun t' ht' =>
      ⟨(h.other hw ht').1, (h.other hw ht').2.1⟩
    obtain ⟨hd, ht, hrest⟩ :=
      switchStep_ok now h.shared (h.task t (List.mem_of_getElem? hw)) hothers hr
    exact ⟨hd, ht, fun t' ht' => ⟨(hrest t' ht').1, (hrest t' ht').2, apart_symm (hrest t' ht').2⟩⟩
  | fail w =>
    refine Pool.safe_advance (f := fun d _ t => (d, { t with stage := .threw })) h w fun t r hw hr => ?_
    subst hr
    exact ⟨h.shared, taskOk_of_none rfl, fun t' ht' =>
      ⟨(h.other hw ht').1, apart_of_none rfl, apart_symm (apart_of_none rfl)⟩⟩

theorem systemOk_initial (users : List UserRow) (profiles : List ProfileRow) (strategies : List StrategyRow) :
    SystemOk (initialPool users profiles strategies) :=
  ⟨⟨List.nodup_nil, by simp [initialPool], fun _ => List.Pairwise.nil, fun _ h => absurd rfl h⟩,
    by simp [initialPool], by simp [initialPool]⟩

/-! ## The law of one switch -/

/-- The law, over the marks as they were committed. -/
structure LedgerOk (d : SafetyTables) (key : SwitchKey) : Prop where
  alternate : ∀ i e, (d.marks key)[i]? = some e → e.action = directionAt i
  direction : ∀ r, d.row? key = some r → (r.active = true ↔ (d.marks key).length % 2 = 1)
  provenance : ∀ r, d.row? key = some r → ∀ e ∈ (d.marks key).getLast?,
    r.reason = e.reason ∧ r.source = e.source ∧ r.actorUserId = e.actorUserId

theorem last_activated_iff {marks : List KillSwitchEvent}
    (h : ∀ i e, marks[i]? = some e → e.action = directionAt i) :
    (∃ e ∈ marks.getLast?, e.action = .activated) ↔ marks.length % 2 = 1 := by
  rw [List.getLast?_eq_getElem?]
  cases hlast : marks[marks.length - 1]? with
  | none =>
    rw [List.getElem?_eq_none_iff] at hlast
    simp only [Option.not_mem_none, false_and, exists_false, false_iff]
    omega
  | some e =>
    have hlt : marks.length - 1 < marks.length := (List.getElem?_eq_some_iff.mp hlast).1
    have haction := h _ e hlast
    simp only [Option.mem_def, Option.some.injEq, exists_eq_left', haction, directionAt]
    split
    · simp only [true_iff]
      omega
    · simp only [reduceCtorEq, false_iff]
      omega

theorem ledgerTrue_iff (hd : TablesOk d) : LedgerTrue d key ↔ LedgerOk d key := by
  have heq := transitions_eq_marks (hd.ordered key)
  constructor
  · intro h
    have halternate : ∀ i e, (d.marks key)[i]? = some e → e.action = directionAt i := by
      rw [← heq]
      exact h.alternate
    refine ⟨halternate, fun r hr => ?_, fun r hr => ?_⟩
    · rw [h.direction r (row?_mem hr).1 (row?_mem hr).2, heq]
      exact last_activated_iff halternate
    · rw [← heq]
      exact h.provenance r (row?_mem hr).1 (row?_mem hr).2
  · intro h
    refine ⟨filter_key_length hd.keys key, by rw [heq]; exact h.alternate, ?_, ?_, ?_⟩
    · rw [heq]
      intro hmarks
      obtain ⟨r, hr⟩ := Option.isSome_iff_exists.mp (hd.row_of_mark key hmarks)
      exact ⟨r, row?_mem hr⟩
    · intro r hr hkey
      rw [h.direction r (row?_of_mem hd.keys hr hkey), heq]
      exact (last_activated_iff h.alternate).symm
    · intro r hr hkey
      rw [heq]
      exact h.provenance r (row?_of_mem hd.keys hr hkey)

theorem LedgerOk.of_same (h : LedgerOk d key) (hsame : SameSwitch d d' key) : LedgerOk d' key := by
  refine ⟨?_, ?_, ?_⟩
  · rw [hsame.marks]
    exact h.alternate
  · rw [hsame.row, hsame.marks]
    exact h.direction
  · rw [hsame.row, hsame.marks]
    exact h.provenance

theorem marks_of_changed (h : TxOk d tx) (hnext : tx.next = .committing) (hchanged : tx.changed = true) :
    ∃ e, tx.event = some e ∧ (commitTx d tx).marks tx.key = d.marks tx.key ++ [e] ∧
      e.action = tx.write.action ∧ e.reason = tx.write.reason ∧ e.source = tx.write.source ∧
      e.actorUserId = tx.write.actorUserId := by
  have hsome := h.recorded (by rw [hnext]; decide) (by rw [hnext]; decide) hchanged
  obtain ⟨e, he⟩ := Option.isSome_iff_exists.mp hsome
  obtain ⟨-, hkey, haction, hreason, hsource, hactor, hmark, -⟩ := h.event e he
  refine ⟨e, he, ?_, haction, hreason, hsource, hactor⟩
  rw [marks_commitTx, he]
  simp [hmark, hchanged, hkey]

theorem action_of_current (hd : TablesOk d) (h : TxOk d tx) (hnext : tx.next = .committing)
    (hledger : LedgerOk d tx.key) (hchanged : tx.changed = true)
    (hcurrent : ∀ r ∈ d.row? tx.key, r.active ≠ tx.write.active) :
    tx.write.active = true ↔ (d.marks tx.key).length % 2 = 0 := by
  cases hrow : d.row? tx.key with
  | some r =>
    have hdirection := hledger.direction r hrow
    have hne := hcurrent r hrow
    cases hw : tx.write.active <;> cases hr : r.active <;> simp_all
  | none =>
    have hunlocked : tx.locked = false := by
      cases hl : tx.locked with
      | false => rfl
      | true =>
        obtain ⟨r, hr, -⟩ := h.locked hl
        rw [hrow] at hr
        cases hr
    have hactive : tx.write.active = true := by
      rw [← h.unlocked hunlocked (by rw [hnext]; decide)]
      exact hchanged
    have hnil : d.marks tx.key = [] := by
      by_contra hmarks
      have := hd.row_of_mark tx.key hmarks
      rw [hrow] at this
      cases this
    simp [hactive, hnil]

theorem alternate_concat {marks : List KillSwitchEvent} {e : KillSwitchEvent} :
    (∀ i e', (marks ++ [e])[i]? = some e' → e'.action = directionAt i) ↔
      (∀ i e', marks[i]? = some e' → e'.action = directionAt i) ∧ e.action = directionAt marks.length := by
  constructor
  · intro h
    refine ⟨fun i e' he' => h i e' ?_, h marks.length e (by simp)⟩
    have hlt : i < marks.length := (List.getElem?_eq_some_iff.mp he').1
    rwa [List.getElem?_append_left hlt]
  · rintro ⟨h, hlast⟩ i e' he'
    rcases Nat.lt_trichotomy i marks.length with hlt | rfl | hgt
    · rw [List.getElem?_append_left hlt] at he'
      exact h i e' he'
    · rw [List.getElem?_concat_length] at he'
      cases he'
      exact hlast
    · rw [List.getElem?_eq_none (by simpa using hgt)] at he'
      cases he'

/-- **The commit of a transition keeps the law exactly when it is decided on the current position.** -/
theorem commitTx_ledgerOk (hd : TablesOk d) (h : TxOk d tx) (hnext : tx.next = .committing)
    (hledger : LedgerOk d key)
    (hcurrent : tx.changed = true → ∀ r ∈ d.row? tx.key, r.active ≠ tx.write.active) :
    LedgerOk (commitTx d tx) key := by
  by_cases hother : tx.key ≠ key ∨ tx.row = none ∧ tx.changed = false
  · exact hledger.of_same (commitTx_same h hother)
  push Not at hother
  obtain ⟨rfl, hwrote⟩ := hother
  have hrowkey : ∀ r ∈ tx.row, r.key = tx.key := fun r hr => (h.row r hr).1
  have hsome : tx.row.isSome = true := by
    cases hr : tx.row with
    | some r => rfl
    | none =>
      have := h.updated (by rw [hnext]; decide) (by simpa using hwrote hr)
      rwa [hr] at this
  have hrow : (commitTx d tx).row? tx.key = tx.row := by
    rw [row?_commitTx d tx hrowkey, if_pos ⟨hsome, rfl⟩]
  cases hchanged : tx.changed with
  | true =>
    obtain ⟨e, -, hmarks, haction, hreason, hsource, hactor⟩ := marks_of_changed h hnext hchanged
    have hturn := action_of_current hd h hnext hledger hchanged (hcurrent hchanged)
    refine ⟨?_, fun r hr => ?_, fun r hr e' he' => ?_⟩
    · rw [hmarks, alternate_concat]
      refine ⟨hledger.alternate, haction.trans ?_⟩
      unfold SwitchWrite.action directionAt
      exact if_congr hturn rfl rfl
    · rw [hrow] at hr
      rw [(h.row r hr).2.1, hturn, hmarks, List.length_append, List.length_singleton]
      omega
    · rw [hrow] at hr
      obtain ⟨-, -, hreason', hsource', hactor'⟩ := h.row r hr
      rw [hmarks, List.getLast?_concat, Option.mem_def, Option.some.injEq] at he'
      subst he'
      exact ⟨hreason'.trans hreason.symm, hsource'.trans hsource.symm, hactor'.trans hactor.symm⟩
  | false =>
    -- the first row, inserted inactive
    have hnone : d.row? tx.key = none := (h.first hsome).resolve_left (by simp [hchanged])
    have hnil : d.marks tx.key = [] := by
      by_contra hmarks
      have := hd.row_of_mark tx.key hmarks
      rw [hnone] at this
      cases this
    have hunlocked : tx.locked = false := by
      cases hl : tx.locked with
      | false => rfl
      | true =>
        obtain ⟨r, hr, -⟩ := h.locked hl
        rw [hnone] at hr
        cases hr
    have hinactive : tx.write.active = false := by
      rw [← h.unlocked hunlocked (by rw [hnext]; decide)]
      exact hchanged
    have hmarks : (commitTx d tx).marks tx.key = [] := by
      rw [marks_commitTx, hnil, List.nil_append, List.filter_eq_nil_iff]
      intro e he hmark
      rw [Option.mem_toList] at he
      obtain ⟨-, -, -, -, -, -, hmark', -⟩ := h.event e he
      rw [hchanged] at hmark'
      simp [hmark'] at hmark
    refine ⟨?_, fun r hr => ?_, ?_⟩
    · rw [hmarks]
      simp
    · rw [hrow] at hr
      rw [(h.row r hr).2.1, hinactive, hmarks]
      simp
    · rw [hmarks]
      simp

theorem current_of_ledgerOk (h : TxOk d tx) (hnext : tx.next = .committing) (hchanged : tx.changed = true)
    (hbefore : LedgerOk d tx.key) (hafter : LedgerOk (commitTx d tx) tx.key) {r : KillSwitchRow}
    (hr : d.row? tx.key = some r) : r.active ≠ tx.write.active := by
  obtain ⟨e, -, hmarks, haction, -⟩ := marks_of_changed h hnext hchanged
  have hdirection := hbefore.direction r hr
  have halternate := hafter.alternate
  rw [hmarks, alternate_concat] at halternate
  have hturn := haction.symm.trans halternate.2
  intro heq
  rw [heq] at hdirection
  unfold SwitchWrite.action directionAt at hturn
  cases hw : tx.write.active with
  | true =>
    rw [hw] at hturn hdirection
    have hodd : (d.marks tx.key).length % 2 = 1 := hdirection.mp rfl
    simp [hodd] at hturn
  | false =>
    rw [hw] at hturn hdirection
    have heven : (d.marks tx.key).length % 2 = 0 := by
      by_contra hne
      have := hdirection.mpr (by omega)
      cases this
    simp [heven] at hturn

/-! ## Over runs -/

variable {p : SafetyPool}

theorem safetyStep_shared (h : SystemOk p) (a : SafetyAction) :
    (∀ key, SameSwitch p.shared (safetyStep p a).shared key) ∨
    ∃ w now t tx, a = .work w now ∧ p.tasks[w]? = some t ∧ t.tx = some tx ∧ tx.next = .committing ∧
      (safetyStep p a).shared = commitTx p.shared tx := by
  cases a with
  | call call => exact .inl fun key => ⟨rfl, rfl⟩
  | fail w =>
    refine .inl fun key => ?_
    cases hw : p.tasks[w]? with
    | none =>
      simp only [safetyStep, Pool.advance_of_none hw]
      exact ⟨rfl, rfl⟩
    | some t =>
      simp only [safetyStep, Pool.advance_of_get hw]
      exact ⟨rfl, rfl⟩
  | work w now =>
    cases hw : p.tasks[w]? with
    | none =>
      simp only [safetyStep, Pool.advance_of_none hw]
      exact .inl fun key => ⟨rfl, rfl⟩
    | some t =>
      simp only [safetyStep, Pool.advance_of_get hw, switchStep]
      cases hstage : t.stage with
      | resolving =>
        refine .inl fun key => ?_
        dsimp only
        split <;> exact ⟨rfl, rfl⟩
      | locking write =>
        refine .inl fun key => ?_
        dsimp only
        split <;> exact ⟨rfl, rfl⟩
      | running tx =>
        have htx : t.tx = some tx := by simp [SwitchTask.tx, hstage]
        by_cases hnext : tx.next = .committing
        · refine .inr ⟨w, now, t, tx, rfl, hw, htx, hnext, ?_⟩
          simp only [txStep, hnext]
        · have hquiet := txStep_quiet t.call h.shared
            (h.task t (List.mem_of_getElem? hw) tx htx)
            (fun t' ht' => (h.other hw ht').1) hnext
          exact .inl (sameSwitch_of_eq hquiet.switches hquiet.events)
      | returned changed => exact .inl fun key => ⟨rfl, rfl⟩
      | threw => exact .inl fun key => ⟨rfl, rfl⟩

theorem safetyStep_ledgerOk (h : SystemOk p) (hledger : ∀ key, LedgerOk p.shared key) {a : SafetyAction}
    (ha : CommitsCurrent p a) (key : SwitchKey) : LedgerOk (safetyStep p a).shared key := by
  rcases safetyStep_shared h a with hsame | ⟨w, now, t, tx, rfl, hw, htx, hnext, hshared⟩
  · exact (hledger key).of_same (hsame key)
  · rw [hshared]
    have hok := h.task t (List.mem_of_getElem? hw) tx htx
    exact commitTx_ledgerOk h.shared hok hnext (hledger key) fun hchanged =>
      ha t hw tx htx hnext hchanged

theorem commitsCurrent_of_ledgerOk (h : SystemOk p) {a : SafetyAction}
    (hbefore : ∀ key, LedgerOk p.shared key) (hafter : ∀ key, LedgerOk (safetyStep p a).shared key) :
    CommitsCurrent p a := by
  cases a with
  | call call => trivial
  | fail w => trivial
  | work w now =>
    intro t hw tx htx hnext hchanged r hr
    have hstage : t.stage = .running tx := by
      cases hs : t.stage <;> simp_all [SwitchTask.tx]
    have hshared : (safetyStep p (.work w now)).shared = commitTx p.shared tx := by
      simp only [safetyStep, Pool.advance_of_get hw, switchStep, hstage, txStep, hnext]
    exact current_of_ledgerOk (h.task t (List.mem_of_getElem? hw) tx htx) hnext hchanged (hbefore _)
      (hshared ▸ hafter tx.key) hr

/-- **The kill-switch ledger tells the truth**: in every run of the system, the row and the ledger of
    every switch agree in every state reached exactly when every transition is committed on the position
    it was decided on. -/
theorem ledger_true_in_every_state_iff (users : List UserRow) (profiles : List ProfileRow)
    (strategies : List StrategyRow) (as : List SafetyAction) :
    (∀ p, Reached safetyStep (initialPool users profiles strategies) as p →
      ∀ key, LedgerTrue p.shared key) ↔
    Meets safetyStep CommitsCurrent (initialPool users profiles strategies) as := by
  have hkeeps : ∀ p a, SystemOk p → SystemOk (safetyStep p a) := fun _ a hp => safetyStep_ok hp a
  have hinitial := systemOk_initial users profiles strategies
  constructor
  · intro h
    have hledger : ∀ p, Reached safetyStep (initialPool users profiles strategies) as p →
        ∀ key, LedgerOk p.shared key := fun p hp key =>
      (ledgerTrue_iff (inv_of_reached_always _ hkeeps hinitial hp).shared).mp (h p hp key)
    rw [meets_iff_forall_action]
    intro pre a post has
    exact commitsCurrent_of_ledgerOk (inv_run_always _ hkeeps hinitial pre)
      (hledger _ ⟨pre, ⟨_, has.symm⟩, rfl⟩) (hledger _ (reached_step _ has))
  · intro hmeets p hp key
    have hstep : ∀ p a, (SystemOk p ∧ ∀ key, LedgerOk p.shared key) → CommitsCurrent p a →
        SystemOk (safetyStep p a) ∧ ∀ key, LedgerOk (safetyStep p a).shared key :=
      fun p a h ha => ⟨hkeeps p a h.1, safetyStep_ledgerOk h.1 h.2 ha⟩
    have hstart : SystemOk (initialPool users profiles strategies) ∧
        ∀ key, LedgerOk (initialPool users profiles strategies).shared key :=
      ⟨hinitial, fun key => ⟨by simp [initialPool, SafetyTables.marks],
        by simp [initialPool, SafetyTables.row?], by simp [initialPool, SafetyTables.row?]⟩⟩
    obtain ⟨hok, hledger⟩ := inv_of_reached _ hstep hstart hmeets hp
    exact (ledgerTrue_iff hok.shared).mpr (hledger key)

/-! ## The panic button against the circuit breaker -/

/-- A first-time emergency stop and a first-time trip of the breaker: both find no row. -/
def firstTimeRace : List SafetyAction :=
  [.call (.tripCircuitBreaker "user" "daily loss limit"), .call (.emergencyStop "user" "panic"),
    .work 0 0, .work 0 0, .work 0 0,
    .work 1 0, .work 1 0, .work 1 0, .work 1 0, .work 1 0, .work 1 0, .work 1 0, .work 1 0, .work 1 0,
    .work 0 1, .work 0 1, .work 0 1, .work 0 1]

/-- Both record a real activation of the switch. -/
theorem panic_and_breaker_both_activate :
    ¬ ∀ (users : List UserRow) (profiles : List ProfileRow) (strategies : List StrategyRow)
      (as : List SafetyAction), ∀ p, Reached safetyStep (initialPool users profiles strategies) as p →
      ∀ key, LedgerTrue p.shared key := by
  intro h
  have hlast : ∃ e ∈ ((run safetyStep (initialPool [] [] []) firstTimeRace).shared.transitions
      ⟨.user, some "user"⟩)[1]?, e.action = .activated := by decide
  obtain ⟨e, he, haction⟩ := hlast
  have := (h [] [] [] firstTimeRace _ (reached_last _ _ _) ⟨.user, some "user"⟩).alternate 1 e he
  rw [haction] at this
  cases this

/-! ## The brakes -/

/-- `d'` adds events, and users and profiles are as in `d` or switched off. -/
structure Braked (d d' : SafetyTables) : Prop where
  events : d.events <+: d'.events
  users : ∀ u' ∈ d'.users, u' ∈ d.users ∨ ∃ u ∈ d.users, u' = { u with automationEnabled := false }
  profiles : ∀ p' ∈ d'.profiles, p' ∈ d.profiles ∨ ∃ p ∈ d.profiles, p' = { p with enabled := false }

theorem Braked.rfl {d : SafetyTables} : Braked d d := ⟨List.prefix_rfl, fun _ => .inl, fun _ => .inl⟩

theorem Braked.trans {a b c : SafetyTables} (h : Braked a b) (h' : Braked b c) : Braked a c where
  events := h.events.trans h'.events
  users u' hu' := by
    rcases h'.users u' hu' with hu | ⟨u, hu, rfl⟩
    · exact h.users u' hu
    · rcases h.users u hu with hu | ⟨v, hv, rfl⟩
      · exact .inr ⟨u, hu, Eq.refl _⟩
      · exact .inr ⟨v, hv, Eq.refl _⟩
  profiles p' hp' := by
    rcases h'.profiles p' hp' with hp | ⟨p, hp, rfl⟩
    · exact h.profiles p' hp
    · rcases h.profiles p hp with hp | ⟨q, hq, rfl⟩
      · exact .inr ⟨p, hp, Eq.refl _⟩
      · exact .inr ⟨q, hq, Eq.refl _⟩

theorem commitTx_braked (d : SafetyTables) (tx : SwitchTx) : Braked d (commitTx d tx) where
  events := List.prefix_append _ _
  users u' hu' := by
    simp only [commitTx] at hu'
    split at hu'
    · obtain ⟨u, hu, rfl⟩ := List.mem_map.mp hu'
      split
      · exact .inr ⟨u, hu, rfl⟩
      · exact .inl hu
    · exact .inl hu'
  profiles p' hp' := by
    obtain ⟨p, hp, rfl⟩ := List.mem_map.mp hp'
    split
    · exact .inr ⟨p, hp, rfl⟩
    · exact .inl hp

/-- **A statement of a call** only brakes. -/
theorem switchStep_braked (now : ℤ) (d : SafetyTables) (others : List SwitchTask) (t : SwitchTask) :
    Braked d (switchStep now d others t).1 := by
  unfold switchStep
  split
  · split <;> exact .rfl
  · split <;> exact .rfl
  · dsimp only
    unfold txStep
    split
    case h_7 => exact commitTx_braked _ _
    all_goals repeat' split
    all_goals exact { @Braked.rfl d with }
  · exact .rfl
  · exact .rfl

end VeltrixEye.Safety
