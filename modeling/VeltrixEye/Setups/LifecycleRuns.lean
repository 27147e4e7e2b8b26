import VeltrixEye.Setups.Ledgers
import VeltrixEye.Lib.Runs
import VeltrixEye.Lib.SmallUuid

/-!
# Setup ledgers over runs

Every interleaving of detections, transitions and scorings of any users.

* `TaskOk`, `Wrote` — what an open transaction relies on, and what a statement leaves to the others.
* `StepOk` — what one statement keeps.
-/

namespace VeltrixEye.Setups

/-! ## What an open transaction relies on -/

/-- The state of a setup that a transition has locked. -/
def LockedIn (d : SetupTables) (setupId : Uuid) (source target : SetupState) : Prop :=
  (∃ r ∈ d.setups, r.id = setupId ∧ r.state = source) ∧ allowedTransition source target = true

/-- The setup is stored. -/
def Stored (d : SetupTables) (setupId : Uuid) : Prop := ∃ r ∈ d.setups, r.id = setupId

/-- A detected row that is not committed. -/
structure Detected (d : SetupTables) (row : SetupRow) : Prop where
  id : ∀ r ∈ d.setups, r.id ≠ row.id
  key : ∀ r ∈ d.setups, r.key ≠ row.key
  state : row.state = SETUP_INITIAL_STATE
  quality : row.qualityScore = none

def TaskOk (d : SetupTables) : SetupTask → Prop
  | .detect call =>
    match call.stage with
    | .recording row => Detected d row
    | .committing row event =>
      Detected d row ∧ event.setupId = row.id ∧ event.fromState = none ∧
        event.toState = SETUP_INITIAL_STATE ∧ event.id < d.nextEventId
    | _ => True
  | .transition call =>
    match call.stage with
    | .updating source => LockedIn d call.setupId source call.toState
    | .recording source => LockedIn d call.setupId source call.toState
    | .committing source event =>
      LockedIn d call.setupId source call.toState ∧ event.setupId = call.setupId ∧
        event.fromState = some source ∧ event.toState = call.toState ∧ event.id < d.nextEventId ∧
        ∀ x ∈ d.recorded call.setupId, x.id < event.id
    | _ => True
  | .score call =>
    match call.stage with
    | .checking row _ => Stored d row.id
    | .evaluating row _ => Stored d row.id
    | .inserting row _ _ _ => Stored d row.id
    | .updating stored =>
      (∀ s ∈ d.scores, s.key ≠ stored.key) ∧ Stored d stored.key.setupId
    | .committing stored =>
      (∀ s ∈ d.scores, s.key ≠ stored.key) ∧ Stored d stored.key.setupId
    | _ => True

/-- What a statement under the locks `held` leaves of the tables. -/
structure Wrote (held : List RowLock) (d d' : SetupTables) : Prop where
  setups : ∀ r ∈ d.setups, ∃ r' ∈ d'.setups, r'.id = r.id ∧
    (RowLock.setupUpdate r.id ∉ held → r'.state = r.state)
  added : ∀ r' ∈ d'.setups, (∃ r ∈ d.setups, r.id = r'.id ∧ r.key = r'.key) ∨
    (RowLock.setupId r'.id ∈ held ∧ RowLock.detectionKey r'.key ∈ held)
  events : ∀ e ∈ d'.events, e ∈ d.events ∨ RowLock.setupUpdate e.setupId ∈ held ∨
    ¬ Stored d e.setupId
  scores : ∀ s ∈ d'.scores, s ∈ d.scores ∨ RowLock.scoreKey s.key ∈ held
  drawn : d.nextEventId ≤ d'.nextEventId

theorem wrote_draw (held : List RowLock) {d : SetupTables} {eventId scoreId : ℕ}
    (hle : d.nextEventId ≤ eventId) :
    Wrote held d { d with nextEventId := eventId, nextScoreId := scoreId } where
  setups r hr := ⟨r, hr, rfl, fun _ => rfl⟩
  added r' hr' := .inl ⟨r', hr', rfl, rfl⟩
  events _ he := .inl he
  scores _ hs := .inl hs
  drawn := hle

theorem Wrote.refl (held : List RowLock) (d : SetupTables) : Wrote held d d :=
  wrote_draw held (Nat.le_refl _)

section Frame

variable {held : List RowLock} {d d' : SetupTables} (hw : Wrote held d d')

include hw

theorem Wrote.stored {setupId : Uuid} (h : Stored d setupId) : Stored d' setupId := by
  obtain ⟨r, hr, hid⟩ := h
  obtain ⟨r', hr', hid', -⟩ := hw.setups r hr
  exact ⟨r', hr', hid'.trans hid⟩

theorem Wrote.detected {row : SetupRow} (h : Detected d row) (hid : RowLock.setupId row.id ∉ held)
    (hkey : RowLock.detectionKey row.key ∉ held) : Detected d' row where
  id r' hr' hsame := by
    rcases hw.added r' hr' with ⟨r, hr, hrid, -⟩ | ⟨hheld, -⟩
    · exact h.id r hr (hrid.trans hsame)
    · rw [hsame] at hheld
      exact hid hheld
  key r' hr' hsame := by
    rcases hw.added r' hr' with ⟨r, hr, -, hrkey⟩ | ⟨-, hheld⟩
    · exact h.key r hr (hrkey.trans hsame)
    · rw [hsame] at hheld
      exact hkey hheld
  state := h.state
  quality := h.quality

theorem Wrote.lockedIn {setupId : Uuid} {source target : SetupState}
    (h : LockedIn d setupId source target) (hlock : RowLock.setupUpdate setupId ∉ held) :
    LockedIn d' setupId source target := by
  obtain ⟨⟨r, hr, rfl, hstate⟩, hallowed⟩ := h
  obtain ⟨r', hr', hid', hstate'⟩ := hw.setups r hr
  exact ⟨⟨r', hr', hid', (hstate' hlock).trans hstate⟩, hallowed⟩

theorem Wrote.recorded {setupId : Uuid} (h : Stored d setupId)
    (hlock : RowLock.setupUpdate setupId ∉ held) {e : EventRow} (he : e ∈ d'.recorded setupId) :
    e ∈ d.recorded setupId := by
  obtain ⟨hmem, hsetup⟩ := SetupTables.mem_recorded.mp he
  rcases hw.events e hmem with hold | hheld | hnew
  · exact SetupTables.mem_recorded.mpr ⟨hold, hsetup⟩
  · rw [hsetup] at hheld
    exact (hlock hheld).elim
  · rw [hsetup] at hnew
    exact (hnew h).elim

theorem Wrote.newScore {key : ScoreKey} (h : ∀ s ∈ d.scores, s.key ≠ key)
    (hlock : RowLock.scoreKey key ∉ held) : ∀ s ∈ d'.scores, s.key ≠ key := by
  intro s hs hsame
  rcases hw.scores s hs with hs | hheld
  · exact h s hs hsame
  · rw [hsame] at hheld
    exact hlock hheld

/-- **Frame.** A task whose locks conflict with none of `held` relies on nothing that was written. -/
theorem TaskOk.frame {t : SetupTask} (h : TaskOk d t)
    (hfree : ∀ a ∈ held, ∀ b ∈ t.locks, a.conflicts b = false) : TaskOk d' t := by
  have hself : ∀ b ∈ t.locks, b.conflicts b = true → b ∉ held := by
    intro b hb hconflict hheld
    rw [hfree b hheld b hb] at hconflict
    cases hconflict
  rcases t with ⟨userId, key, stage⟩ | ⟨userId, setupId, target, reason, asOf, stage⟩ |
    ⟨userId, setupId, asOf, stage⟩
  · cases stage with
    | recording row =>
      exact hw.detected h (hself _ (by simp [SetupTask.locks]) (by simp [RowLock.conflicts]))
        (hself _ (by simp [SetupTask.locks]) (by simp [RowLock.conflicts]))
    | committing row event =>
      refine ⟨hw.detected h.1 (hself _ (by simp [SetupTask.locks]) (by simp [RowLock.conflicts]))
        (hself _ (by simp [SetupTask.locks]) (by simp [RowLock.conflicts])), h.2.1, h.2.2.1,
        h.2.2.2.1, lt_of_lt_of_le h.2.2.2.2 hw.drawn⟩
    | _ => trivial
  · have hlock : RowLock.setupUpdate setupId ∈
        (SetupTask.transition ⟨userId, setupId, target, reason, asOf, stage⟩).locks →
        RowLock.setupUpdate setupId ∉ held := fun hmem => hself _ hmem (by simp [RowLock.conflicts])
    cases stage with
    | updating source => exact hw.lockedIn h (hlock (by simp [SetupTask.locks]))
    | recording source => exact hw.lockedIn h (hlock (by simp [SetupTask.locks]))
    | committing source event =>
      have hfree' := hlock (by simp [SetupTask.locks])
      obtain ⟨hlocked, hsetup, hsource, htarget, hdrawn, hlater⟩ := h
      refine ⟨hw.lockedIn hlocked hfree', hsetup, hsource, htarget, lt_of_lt_of_le hdrawn hw.drawn,
        ?_⟩
      obtain ⟨⟨r, hr, hid, -⟩, -⟩ := hlocked
      intro x hx
      exact hlater x (hw.recorded ⟨r, hr, hid⟩ hfree' hx)
    | _ => trivial
  · cases stage with
    | checking row asOfMs => exact hw.stored h
    | evaluating row asOfMs => exact hw.stored h
    | inserting row asOfMs total grade => exact hw.stored h
    | updating stored =>
      exact ⟨hw.newScore h.1 (hself _ (by simp [SetupTask.locks]) (by simp [RowLock.conflicts])),
        hw.stored h.2⟩
    | committing stored =>
      exact ⟨hw.newScore h.1 (hself _ (by simp [SetupTask.locks]) (by simp [RowLock.conflicts])),
        hw.stored h.2⟩
    | _ => trivial

end Frame

/-! ## One statement -/

theorem not_blocked {others : List SetupTask} {locks : List RowLock}
    (h : blocked others locks ≠ true) : ∀ lock ∈ locks, ∀ o ∈ others, ∀ held ∈ o.locks,
      held.conflicts lock = false := by
  intro lock hlock o ho held hheld
  by_contra hconflict
  apply h
  unfold blocked
  rw [List.any_eq_true]
  refine ⟨o, ho, ?_⟩
  rw [List.any_eq_true]
  refine ⟨held, hheld, ?_⟩
  rw [List.any_eq_true]
  exact ⟨lock, hlock, by simpa using hconflict⟩

/-- What one statement of a task keeps, and what it leaves to the others. -/
structure StepOk (others : List SetupTask) (d : SetupTables) (t : SetupTask) (d' : SetupTables)
    (t' : SetupTask) : Prop where
  ledger : LedgerOk d'
  wrote : Wrote t.locks d d'
  task : TaskOk d' t'
  granted : ∀ lock ∈ t'.locks, lock ∈ t.locks ∨
    ∀ o ∈ others, ∀ held ∈ o.locks, held.conflicts lock = false

theorem stepOk_read {others : List SetupTask} {d : SetupTables} {t t' : SetupTask} (h : LedgerOk d)
    (htask : TaskOk d t') (hlocks : ∀ lock ∈ t'.locks, lock ∈ t.locks ∨
      ∀ o ∈ others, ∀ held ∈ o.locks, held.conflicts lock = false) : StepOk others d t d t' where
  ledger := h
  wrote := Wrote.refl t.locks d
  task := htask
  granted := hlocks

theorem stepOk_free {others : List SetupTask} {d : SetupTables} {t t' : SetupTask} (h : LedgerOk d)
    (htask : TaskOk d t') (hlocks : t'.locks = []) : StepOk others d t d t' := by
  refine stepOk_read h htask ?_
  rw [hlocks]
  intro lock hlock
  cases hlock

variable {owner : Uuid → Option Uuid} {input : StepInput} {others : List SetupTask} {d : SetupTables}

theorem detectStep_ok {call : DetectCall} {r : SetupTables × DetectStage} (h : LedgerOk d)
    (ht : TaskOk d (.detect call)) (hr : detectStep owner input d others call = r) :
    StepOk others d (.detect call) r.1 (.detect { call with stage := r.2 }) := by
  subst hr
  rcases call with ⟨userId, key, stage⟩
  cases stage with
  | looking =>
    simp only [detectStep]
    split <;> exact stepOk_free h trivial rfl
  | entitling =>
    simp only [detectStep]
    split <;> exact stepOk_free h trivial rfl
  | inserting =>
    simp only [detectStep]
    split
    · exact stepOk_free h trivial rfl
    rename_i hkey
    split
    · exact stepOk_free h trivial rfl
    rename_i hfree
    split
    · exact stepOk_free h trivial rfl
    · rename_i hid
      refine stepOk_read h ⟨?_, ?_, rfl, rfl⟩ fun lock hlock => .inr (not_blocked hfree lock hlock)
      · simpa using hid
      · simpa using hkey
  | recording row =>
    have hle : d.nextEventId ≤ d.nextEventId + 1 := Nat.le_succ _
    refine ⟨h.draw hle, wrote_draw _ hle, ?_, fun lock hlock => .inl hlock⟩
    exact ⟨⟨ht.id, ht.key, ht.state, ht.quality⟩, rfl, rfl, rfl, Nat.lt_succ_self _⟩
  | committing row event =>
    obtain ⟨hrow, hsetup, hsource, htarget, hdrawn⟩ := ht
    refine ⟨h.detect hrow.id hrow.key hrow.state hrow.quality hsetup hsource htarget hdrawn, ?_,
      trivial, ?_⟩
    · refine ⟨?_, ?_, ?_, fun _ hs => .inl hs, Nat.le_refl _⟩
      · intro r hr
        exact ⟨r, List.mem_append_left _ hr, rfl, fun _ => rfl⟩
      · intro r' hr'
        rcases List.mem_append.mp hr' with hr' | hr'
        · exact .inl ⟨r', hr', rfl, rfl⟩
        · rw [List.mem_singleton.mp hr']
          exact .inr (by simp [SetupTask.locks])
      · intro e he
        rcases List.mem_append.mp he with he | he
        · exact .inl he
        · refine .inr (.inr ?_)
          rintro ⟨r, hr, hid⟩
          rw [List.mem_singleton.mp he, hsetup] at hid
          exact hrow.id r hr hid
    · intro lock hlock
      cases hlock
  | rereading created =>
    simp only [detectStep]
    split <;> exact stepOk_free h trivial rfl
  | detected setup created => exact stepOk_free h trivial rfl
  | failed error => exact stepOk_free h trivial rfl

theorem readOwnedSetup_spec {userId setupId : Uuid} {r : SetupRow}
    (h : d.readOwnedSetup owner userId setupId = some r) : r ∈ d.setups ∧ r.id = setupId := by
  have hfound := List.find?_some h
  simp only [Bool.decide_and, Bool.and_eq_true, decide_eq_true_eq] at hfound
  exact ⟨List.mem_of_find?_eq_some h, hfound.1⟩

theorem transitionStep_ok {call : TransitionCall} {r : SetupTables × TransitionStage}
    (h : LedgerOk d) (ht : TaskOk d (.transition call))
    (hr : transitionStep owner d others call = r) :
    StepOk others d (.transition call) r.1 (.transition { call with stage := r.2 }) := by
  subst hr
  rcases call with ⟨userId, setupId, target, reason, asOf, stage⟩
  cases stage with
  | locking =>
    simp only [transitionStep]
    split
    · exact stepOk_free h trivial rfl
    rename_i current hcurrent
    obtain ⟨hmem, hid⟩ := readOwnedSetup_spec hcurrent
    split
    · exact stepOk_free h trivial rfl
    rename_i hfree
    split
    · exact stepOk_free h trivial rfl
    split
    · rename_i hallowed
      exact stepOk_read h ⟨⟨current, hmem, hid, rfl⟩, hallowed⟩
        fun lock hlock => .inr (not_blocked hfree lock hlock)
    · exact stepOk_free h trivial rfl
  | updating source => exact stepOk_read h ht fun lock hlock => .inl hlock
  | recording source =>
    have hle : d.nextEventId ≤ d.nextEventId + 1 := Nat.le_succ _
    refine ⟨h.draw hle, wrote_draw _ hle, ?_, fun lock hlock => .inl hlock⟩
    refine ⟨ht, rfl, rfl, rfl, Nat.lt_succ_self _, ?_⟩
    intro x hx
    exact h.eventIds x (SetupTables.mem_recorded.mp hx).1
  | committing source event =>
    obtain ⟨⟨⟨row, hrow, hid, hstate⟩, hallowed⟩, hsetup, hsource, htarget, hdrawn, hlater⟩ := ht
    simp only at hid hallowed hsetup htarget hlater
    subst hid
    subst hstate
    refine ⟨h.transition hrow hsetup hsource htarget hallowed hdrawn hlater, ?_, trivial, ?_⟩
    · refine ⟨?_, ?_, ?_, fun _ hs => .inl hs, Nat.le_refl _⟩
      · intro r hr
        refine ⟨_, List.mem_map.mpr ⟨r, hr, rfl⟩, ?_, ?_⟩
        · split <;> rfl
        · intro hfree
          split
          · rename_i hsame
            rw [hsame] at hfree
            simp [SetupTask.locks] at hfree
          · rfl
      · intro r' hr'
        obtain ⟨r, hr, rfl⟩ := List.mem_map.mp hr'
        refine .inl ⟨r, hr, ?_, ?_⟩ <;> split <;> rfl
      · intro e he
        rcases List.mem_append.mp he with he | he
        · exact .inl he
        · rw [List.mem_singleton.mp he, hsetup]
          exact .inr (.inl (by simp [SetupTask.locks]))
    · intro lock hlock
      cases hlock
  | rereading event =>
    simp only [transitionStep]
    split <;> exact stepOk_free h trivial rfl
  | transitioned setup event => exact stepOk_free h trivial rfl
  | failed error => exact stepOk_free h trivial rfl

theorem scoreStep_ok {call : ScoreCall} {r : SetupTables × ScoreStage} (h : LedgerOk d)
    (ht : TaskOk d (.score call)) (hr : scoreStep owner input d others call = r) :
    StepOk others d (.score call) r.1 (.score { call with stage := r.2 }) := by
  subst hr
  rcases call with ⟨userId, setupId, asOf, stage⟩
  cases stage with
  | reading =>
    simp only [scoreStep]
    split
    · exact stepOk_free h trivial rfl
    · rename_i row hrow
      split
      · exact stepOk_free h trivial rfl
      · exact stepOk_free h ⟨row, (readOwnedSetup_spec hrow).1, rfl⟩ rfl
  | checking row asOfMs =>
    simp only [scoreStep]
    split
    · exact stepOk_free h trivial rfl
    · exact stepOk_free h ht rfl
  | evaluating row asOfMs =>
    simp only [scoreStep]
    split
    · exact stepOk_free h ht rfl
    · exact stepOk_free h trivial rfl
  | inserting row asOfMs total grade =>
    simp only [scoreStep]
    split
    · exact stepOk_free h trivial rfl
    rename_i hkey
    split
    · exact stepOk_free h ht rfl
    · rename_i hfree
      refine ⟨h.draw (Nat.le_refl _), wrote_draw _ (Nat.le_refl _), ⟨?_, ht⟩,
        fun lock hlock => .inr (not_blocked hfree lock hlock)⟩
      simpa using hkey
  | updating stored =>
    simp only [scoreStep]
    split
    · exact stepOk_read h ht fun lock hlock => .inl hlock
    rename_i hfree
    refine stepOk_read h ht ?_
    intro lock hlock
    simp only [SetupTask.locks, List.mem_cons, List.not_mem_nil, or_false] at hlock ⊢
    rcases hlock with rfl | rfl | rfl
    · exact .inl (.inl rfl)
    · exact .inl (.inr rfl)
    · exact .inr (not_blocked hfree _ (List.mem_singleton.mpr rfl))
  | committing stored =>
    obtain ⟨hkey, hsetup⟩ := ht
    refine ⟨h.score hkey hsetup, ?_, trivial, ?_⟩
    · refine ⟨?_, ?_, fun _ he => .inl he, ?_, Nat.le_refl _⟩
      · intro r hr
        refine ⟨_, List.mem_map.mpr ⟨r, hr, rfl⟩, ?_, fun _ => ?_⟩ <;> split <;> rfl
      · intro r' hr'
        obtain ⟨r, hr, rfl⟩ := List.mem_map.mp hr'
        refine .inl ⟨r, hr, ?_, ?_⟩ <;> split <;> rfl
      · intro s hs
        rcases List.mem_append.mp hs with hs | hs
        · exact .inl hs
        · rw [List.mem_singleton.mp hs]
          exact .inr (by simp [SetupTask.locks])
    · intro lock hlock
      cases hlock
  | rereading stored =>
    simp only [scoreStep]
    split <;> exact stepOk_free h trivial rfl
  | losing row asOfMs =>
    simp only [scoreStep]
    split <;> exact stepOk_free h trivial rfl
  | scored setup stored created => exact stepOk_free h trivial rfl
  | failed error => exact stepOk_free h trivial rfl

theorem taskStep_ok {t : SetupTask} {r : SetupTables × SetupTask} (h : LedgerOk d)
    (ht : TaskOk d t) (hr : taskStep owner input d others t = r) : StepOk others d t r.1 r.2 := by
  subst hr
  cases t with
  | detect call => exact detectStep_ok h ht rfl
  | transition call => exact transitionStep_ok h ht rfl
  | score call => exact scoreStep_ok h ht rfl

theorem failTask_ok {t : SetupTask} (h : LedgerOk d) : StepOk others d t d (failTask t) := by
  refine stepOk_free h ?_ ?_
  · rcases t with ⟨_, _, stage⟩ | ⟨_, _, _, _, _, stage⟩ | ⟨_, _, _, stage⟩ <;> cases stage <;>
      trivial
  · rcases t with ⟨_, _, stage⟩ | ⟨_, _, _, _, _, stage⟩ | ⟨_, _, _, stage⟩ <;> cases stage <;> rfl

/-! ## The system -/

/-- Two open transactions hold no conflicting locks. -/
def Apart (t t' : SetupTask) : Prop := ∀ a ∈ t.locks, ∀ b ∈ t'.locks, a.conflicts b = false

abbrev SystemOk (p : SetupPool) : Prop := Pool.Safe LedgerOk TaskOk Apart p

theorem advance_ok {p : SetupPool} (hp : SystemOk p)
    {f : SetupTables → List SetupTask → SetupTask → SetupTables × SetupTask} (w : ℕ)
    (hf : ∀ t, TaskOk p.shared t → StepOk (p.others w) p.shared t (f p.shared (p.others w) t).1
      (f p.shared (p.others w) t).2) : SystemOk (p.advance f w) := by
  refine Pool.safe_advance hp w ?_
  rintro t r hget rfl
  have hstep := hf t (hp.task t (List.mem_of_getElem? hget))
  refine ⟨hstep.ledger, hstep.task, ?_⟩
  intro o ho
  obtain ⟨hother, hapart, -⟩ := hp.other hget ho
  have hnew : Apart o (f p.shared (p.others w) t).2 := by
    intro a ha b hb
    rcases hstep.granted b hb with hold | hgranted
    · rw [RowLock.conflicts_comm]
      exact hapart b hold a ha
    · exact hgranted o ho a ha
  refine ⟨hother.frame hstep.wrote hapart, ?_, hnew⟩
  intro a ha b hb
  rw [RowLock.conflicts_comm]
  exact hnew b hb a ha

theorem spawn_ok {p : SetupPool} (hp : SystemOk p) {t : SetupTask} (ht : TaskOk p.shared t)
    (hlocks : t.locks = []) : SystemOk (p.spawn t) := by
  refine Pool.safe_spawn hp ht ?_
  intro o _
  constructor
  · intro a ha
    rw [hlocks] at ha
    cases ha
  · intro a _ b hb
    rw [hlocks] at hb
    cases hb

/-- **Every step keeps the ledgers** and what the open transactions rely on. -/
theorem setupStep_ok {p : SetupPool} (hp : SystemOk p) (a : SetupAction) :
    SystemOk (setupStep owner p a) := by
  cases a with
  | detect userId key => exact spawn_ok hp trivial rfl
  | transitionSetup userId setupId toState reason asOf => exact spawn_ok hp trivial rfl
  | scoreSetup userId setupId asOf => exact spawn_ok hp trivial rfl
  | advance w input => exact advance_ok hp w fun t ht => taskStep_ok hp.shared ht rfl
  | fail w =>
    show SystemOk (p.advance (fun d _ t => (d, failTask t)) w)
    refine advance_ok hp w ?_
    intro t _
    exact failTask_ok hp.shared

/-! ## Scores in the order of their anchors -/

/-- The score a task is about to commit has no older anchor than the committed ones of its setup. -/
def NotOlder (d : SetupTables) : SetupTask → Prop
  | .score call =>
    match call.stage with
    | .committing stored => ∀ x ∈ d.scores, x.key.setupId = stored.key.setupId →
        x.key.asOfMs ≤ stored.key.asOfMs
    | _ => True
  | _ => True

/-- No score is committed for an anchor below one already scored. -/
def InOrder (p : SetupPool) : SetupAction → Prop
  | .advance w _ => ∀ t ∈ p.tasks[w]?, NotOlder p.shared t
  | _ => True

/-- The scores of a setup were committed in the order of their anchors. -/
def ScoredInOrder (d : SetupTables) : Prop :=
  d.scores.Pairwise fun a b => a.key.setupId = b.key.setupId → a.key.asOfMs ≤ b.key.asOfMs

/-- The quality score of a row is the total of its score with the greatest anchor. -/
def QualityOf (d : SetupTables) (r : SetupRow) : Prop :=
  match r.qualityScore with
  | none => ∀ s ∈ d.scores, s.key.setupId ≠ r.id
  | some total => ∃ s ∈ d.scores, s.key.setupId = r.id ∧ s.total = total ∧
      ∀ x ∈ d.scores, x.key.setupId = r.id → x.key.asOfMs ≤ s.key.asOfMs

theorem LedgerOk.qualityOf (h : LedgerOk d) (horder : ScoredInOrder d) {r : SetupRow}
    (hr : r ∈ d.setups) : QualityOf d r := by
  have hquality := h.quality r hr
  have hmem : ∀ s, s ∈ d.scores.filter (fun s => s.key.setupId = r.id) ↔
      s ∈ d.scores ∧ s.key.setupId = r.id := by
    intro s
    simp
  unfold SetupTables.lastScore at hquality
  unfold QualityOf
  rcases List.eq_nil_or_concat (d.scores.filter fun s => s.key.setupId = r.id) with
    hnil | ⟨before, last, hlast⟩
  · rw [hnil] at hquality
    rw [hquality]
    intro s hs hsetup
    have := (hmem s).mpr ⟨hs, hsetup⟩
    rw [hnil] at this
    cases this
  · rw [List.concat_eq_append] at hlast
    rw [hlast, List.getLast?_concat] at hquality
    rw [hquality]
    have hin : last ∈ d.scores ∧ last.key.setupId = r.id := by
      rw [← hmem, hlast]
      exact List.mem_append_right _ (List.mem_singleton.mpr rfl)
    refine ⟨last, hin.1, hin.2, rfl, ?_⟩
    intro x hx hsetup
    have hsorted := List.Pairwise.filter (fun s : ScoreRow => decide (s.key.setupId = r.id)) horder
    rw [hlast, List.pairwise_append] at hsorted
    have hxmem := (hmem x).mpr ⟨hx, hsetup⟩
    rw [hlast] at hxmem
    rcases List.mem_append.mp hxmem with hbefore | hlast'
    · exact hsorted.2.2 x hbefore last (List.mem_singleton.mpr rfl) (hsetup.trans hin.2.symm)
    · rw [List.mem_singleton.mp hlast']

theorem taskStep_scores {t : SetupTask} (horder : NotOlder d t) :
    (taskStep owner input d others t).1.scores = d.scores ∨
      ∃ stored, (taskStep owner input d others t).1.scores = d.scores ++ [stored] ∧
        ∀ x ∈ d.scores, x.key.setupId = stored.key.setupId →
          x.key.asOfMs ≤ stored.key.asOfMs := by
  rcases t with ⟨userId, key, stage⟩ | ⟨userId, setupId, target, reason, asOf, stage⟩ |
    ⟨userId, setupId, asOf, stage⟩
  · refine .inl ?_
    simp only [taskStep, detectStep]
    repeat' split
    all_goals rfl
  · refine .inl ?_
    simp only [taskStep, transitionStep]
    repeat' split
    all_goals rfl
  · cases stage with
    | committing stored => exact .inr ⟨stored, rfl, horder⟩
    | _ =>
      refine .inl ?_
      simp only [taskStep, scoreStep]
      repeat' split
      all_goals rfl

theorem setupStep_order {p : SetupPool} (hp : ScoredInOrder p.shared) {a : SetupAction}
    (horder : InOrder p a) : ScoredInOrder (setupStep owner p a).shared := by
  cases a with
  | detect userId key => exact hp
  | transitionSetup userId setupId toState reason asOf => exact hp
  | scoreSetup userId setupId asOf => exact hp
  | advance w input =>
    cases hget : p.tasks[w]? with
    | none =>
      simp only [setupStep, Pool.advance_of_none hget]
      exact hp
    | some t =>
      simp only [setupStep, Pool.advance_of_get hget, ScoredInOrder]
      rcases taskStep_scores (horder t hget) with hsame | ⟨stored, hadded, hlater⟩
      · rw [hsame]
        exact hp
      · rw [hadded, List.pairwise_append]
        refine ⟨hp, List.pairwise_singleton _ stored, ?_⟩
        intro x hx y hy
        rw [List.mem_singleton.mp hy]
        exact hlater x hx
  | fail w =>
    cases hget : p.tasks[w]? with
    | none =>
      simp only [setupStep, Pool.advance_of_none hget]
      exact hp
    | some t =>
      simp only [setupStep, Pool.advance_of_get hget]
      exact hp

/-! ## Scoring and the state -/

theorem scoreStep_keeps_states (call : ScoreCall) :
    (scoreStep owner input d others call).1.setups.map (fun r => (r.id, r.key, r.state)) =
        d.setups.map (fun r => (r.id, r.key, r.state)) ∧
      (scoreStep owner input d others call).1.events = d.events := by
  rcases call with ⟨userId, setupId, asOf, stage⟩
  cases stage with
  | committing stored =>
    refine ⟨?_, rfl⟩
    simp only [scoreStep, SetupTables.setQuality, List.map_map]
    apply List.map_congr_left
    intro r _
    simp only [Function.comp_apply]
    split <;> rfl
  | rereading stored =>
    simp only [scoreStep]
    split <;> exact ⟨rfl, rfl⟩
  | scored setup stored created => exact ⟨rfl, rfl⟩
  | failed error => exact ⟨rfl, rfl⟩
  | _ =>
    simp only [scoreStep]
    repeat' split
    all_goals exact ⟨rfl, rfl⟩

/-! ## Runs -/

/-- No setup, and no call. -/
def noSetups (eventId scoreId : ℕ) : SetupPool := ⟨⟨[], [], [], eventId, scoreId⟩, []⟩

theorem noSetups_ok (eventId scoreId : ℕ) : SystemOk (noSetups eventId scoreId) := by
  refine ⟨⟨List.nodup_nil, List.nodup_nil, List.nodup_nil, ?_, ?_, ?_, ?_, ?_⟩, ?_, ?_⟩
  · intro e he
    cases he
  · intro e he
    cases he
  · intro s hs
    cases hs
  · intro r hr
    cases hr
  · intro r hr
    cases hr
  · intro t ht
    cases ht
  · intro i j t t' _ hi
    simp [noSetups] at hi

/-- What the ledgers say of the setup rows. -/
structure Agrees (d : SetupTables) : Prop where
  /-- One setup per detection. -/
  oneSetup : (d.setups.map SetupRow.key).Nodup
  /-- The events of a setup lead from its detection to its state. -/
  lifecycle : ∀ r ∈ d.setups, Lifecycle r.state (d.eventsOf r.id)
  /-- Nothing follows a terminal state. -/
  terminal : ∀ r ∈ d.setups, ∀ before e after, d.eventsOf r.id = before ++ e :: after →
    isTerminalState e.toState = true → after = []
  /-- One score per setup, engine version and anchor. -/
  oneScore : (d.scores.map ScoreRow.key).Nodup
  /-- The quality score is the total of the score committed last. -/
  quality : ∀ r ∈ d.setups, r.qualityScore = (d.lastScore r.id).map ScoreRow.total

theorem LedgerOk.agrees (h : LedgerOk d) : Agrees d where
  oneSetup := h.detectionKeys
  lifecycle r hr := by
    rw [h.eventsOf_eq hr]
    exact h.lifecycle r hr
  terminal r hr before e after hevents hterminal := by
    have hlife := h.lifecycle r hr
    rw [← h.eventsOf_eq hr, hevents] at hlife
    exact hlife.nothing_after_terminal hterminal
  oneScore := h.scoreKeys
  quality := h.quality

/-- **The ledgers agree with the setup rows** in every state of every run: one setup per detection,
    a lifecycle that leads to its state, one score per context, the total of the score committed last,
    and no scoring that changes a state.  The last score is the one with the greatest anchor in every
    run that commits no score for an anchor below one already scored. -/
theorem ledgers_agree_with_setups (owner : Uuid → Option Uuid) (eventId scoreId : ℕ)
    (actions : List SetupAction) (p : SetupPool)
    (hp : Runs.Reached (setupStep owner) (noSetups eventId scoreId) actions p) :
    Agrees p.shared ∧
      (∀ (w : ℕ) (call : ScoreCall) (input : StepInput), p.tasks[w]? = some (.score call) →
        (setupStep owner p (.advance w input)).shared.setups.map
            (fun r => (r.id, r.key, r.state)) =
          p.shared.setups.map (fun r => (r.id, r.key, r.state)) ∧
        (setupStep owner p (.advance w input)).shared.events = p.shared.events) ∧
      (Runs.Meets (setupStep owner) InOrder (noSetups eventId scoreId) actions →
        ∀ r ∈ p.shared.setups, QualityOf p.shared r) := by
  have hsystem : SystemOk p := by
    have hstep : ∀ (p : SetupPool) (a : SetupAction), SystemOk p → SystemOk (setupStep owner p a) :=
      fun _ a hp => setupStep_ok hp a
    exact Runs.inv_of_reached_always _ hstep (noSetups_ok eventId scoreId) hp
  refine ⟨hsystem.shared.agrees, ?_, ?_⟩
  · intro w call input hget
    simp only [setupStep, Pool.advance_of_get hget]
    exact scoreStep_keeps_states call
  · intro hmeets r hr
    have hstep : ∀ (p : SetupPool) (a : SetupAction), ScoredInOrder p.shared → InOrder p a →
        ScoredInOrder (setupStep owner p a).shared := fun _ _ hp horder => setupStep_order hp horder
    have hstart : ScoredInOrder (noSetups eventId scoreId).shared := List.Pairwise.nil
    have horder := Runs.inv_of_reached _ hstep hstart hmeets hp
    exact hsystem.shared.qualityOf horder hr

/-- Every setup belongs to the first user. -/
def oneOwner : Uuid → Option Uuid := fun _ => some (Uuid.ofDigit 1)

def soleDetection : DetectionKey := ⟨Uuid.ofDigit 2, Uuid.ofDigit 3, .long, 100⟩

/-- A detection, then a score of each anchor with its total. -/
def scoredAt (anchors : List (ℤ × ℕ × ScoreGrade)) : List SetupAction :=
  .detect (Uuid.ofDigit 1) soleDetection ::
    List.replicate 6 (.advance 0 ⟨Uuid.ofDigit 4, true, none⟩) ++
    anchors.zipIdx.flatMap fun (anchor, i) =>
      .scoreSetup (Uuid.ofDigit 1) (Uuid.ofDigit 4) (some anchor.1) ::
        List.replicate 7 (.advance (i + 1) ⟨Uuid.ofDigit 4, true, some anchor.2⟩)

/-- The theorem holds of a setup scored at its own anchor and at a later one. -/
theorem scored_in_order_keeps_the_latest :
    (Runs.run (setupStep oneOwner) (noSetups 1 1) (scoredAt [(100, 60, .C), (200, 80, .A)])).shared =
      ⟨[⟨Uuid.ofDigit 4, soleDetection, .confirmed, some 80⟩],
        [⟨1, Uuid.ofDigit 4, none, .confirmed, some "detected", 100⟩],
        [⟨1, ⟨Uuid.ofDigit 4, M5_SCORE_ENGINE_VERSION, 100⟩, 60, .C⟩,
          ⟨2, ⟨Uuid.ofDigit 4, M5_SCORE_ENGINE_VERSION, 200⟩, 80, .A⟩], 2, 3⟩ ∧
    Agrees (Runs.run (setupStep oneOwner) (noSetups 1 1)
      (scoredAt [(100, 60, .C), (200, 80, .A)])).shared :=
  ⟨by decide, (ledgers_agree_with_setups oneOwner 1 1 _ _ (Runs.reached_last _ _ _)).1⟩

/-- A setup scored at a later anchor and then at its own: the quality score is the older anchor's. -/
theorem older_anchor_replaces_quality :
    ¬ ∀ (owner : Uuid → Option Uuid) (actions : List SetupAction) (p : SetupPool),
      Runs.Reached (setupStep owner) (noSetups 1 1) actions p →
        ∀ r ∈ p.shared.setups, QualityOf p.shared r := by
  intro h
  have hlast := h oneOwner (scoredAt [(200, 80, .A), (100, 60, .C)]) _ (Runs.reached_last _ _ _)
  have htables : (Runs.run (setupStep oneOwner) (noSetups 1 1)
      (scoredAt [(200, 80, .A), (100, 60, .C)])).shared =
      ⟨[⟨Uuid.ofDigit 4, soleDetection, .confirmed, some 60⟩],
        [⟨1, Uuid.ofDigit 4, none, .confirmed, some "detected", 100⟩],
        [⟨1, ⟨Uuid.ofDigit 4, M5_SCORE_ENGINE_VERSION, 200⟩, 80, .A⟩,
          ⟨2, ⟨Uuid.ofDigit 4, M5_SCORE_ENGINE_VERSION, 100⟩, 60, .C⟩], 2, 3⟩ := by
    decide
  rw [htables] at hlast
  obtain ⟨s, hs, -, htotal, hgreatest⟩ := hlast _ (List.mem_singleton.mpr rfl)
  have hold := hgreatest ⟨1, ⟨Uuid.ofDigit 4, M5_SCORE_ENGINE_VERSION, 200⟩, 80, .A⟩
    (by simp) rfl
  simp only [List.mem_cons, List.not_mem_nil, or_false] at hs
  rcases hs with rfl | rfl
  · simp at htotal
  · simp at hold

end VeltrixEye.Setups
