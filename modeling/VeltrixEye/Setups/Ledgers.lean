import VeltrixEye.Setups.Lifecycle
import VeltrixEye.Lib.Rows

/-!
# The ledgers of a setup

What the tables say of every setup when no transaction is half done, and that each commit keeps it.

* `Lifecycle` — the events of one setup and the state they lead to.
* `LedgerOk` — the keys, and for every setup its lifecycle and the total of its last score.
* `LedgerOk.detect`, `LedgerOk.transition`, `LedgerOk.score` — the three commits.
-/

namespace VeltrixEye.Setups

/-! ## The ledger of one setup -/

/-- One recorded step continues another. -/
def Follows (a b : EventRow) : Prop :=
  b.fromState = some a.toState ∧ allowedTransition a.toState b.toState = true

/-- A setup's events in id order, and the state of its row. -/
structure Lifecycle (state : SetupState) (events : List EventRow) : Prop where
  ids : events.Pairwise fun a b => a.id < b.id
  first : ∃ e, events.head? = some e ∧ e.fromState = none ∧ e.toState = SETUP_INITIAL_STATE
  steps : events.IsChain Follows
  last : ∃ e, events.getLast? = some e ∧ e.toState = state

theorem lifecycle_detected {e : EventRow} (hsource : e.fromState = none)
    (htarget : e.toState = SETUP_INITIAL_STATE) : Lifecycle SETUP_INITIAL_STATE [e] where
  ids := List.pairwise_singleton _ e
  first := ⟨e, rfl, hsource, htarget⟩
  steps := .singleton e
  last := ⟨e, rfl, htarget⟩

theorem Lifecycle.append {source target : SetupState} {events : List EventRow} {e : EventRow}
    (h : Lifecycle source events) (hsource : e.fromState = some source) (htarget : e.toState = target)
    (hallowed : allowedTransition source target = true) (hid : ∀ x ∈ events, x.id < e.id) :
    Lifecycle target (events ++ [e]) where
  ids := by
    rw [List.pairwise_append]
    refine ⟨h.ids, List.pairwise_singleton _ e, ?_⟩
    intro x hx y hy
    rw [List.mem_singleton.mp hy]
    exact hid x hx
  first := by
    obtain ⟨first, hfirst, hrest⟩ := h.first
    refine ⟨first, ?_, hrest⟩
    rw [List.head?_append, hfirst]
    rfl
  steps := by
    refine h.steps.append (.singleton e) ?_
    intro x hx y hy
    obtain ⟨last, hlast, hstate⟩ := h.last
    rw [Option.mem_def, hlast] at hx
    cases hx
    cases hy
    constructor
    · rw [hsource, hstate]
    · rw [hstate, htarget]
      exact hallowed
  last := ⟨e, List.getLast?_concat, htarget⟩

theorem Lifecycle.nothing_after_terminal {state : SetupState} {before after : List EventRow}
    {e : EventRow} (h : Lifecycle state (before ++ e :: after))
    (hterminal : isTerminalState e.toState = true) : after = [] := by
  cases after with
  | nil => rfl
  | cons next rest =>
    have hnext : Follows e next := (List.isChain_append_cons_cons.mp h.steps).2.1
    have hnone := (setupTransitions_eq_nil_iff _).mpr hterminal
    have hallowed := hnext.2
    unfold allowedTransition at hallowed
    rw [hnone] at hallowed
    simp at hallowed

/-! ## The ledgers -/

/-- A setup's committed events. -/
def SetupTables.recorded (d : SetupTables) (setupId : Uuid) : List EventRow :=
  d.events.filter fun e => e.setupId = setupId

theorem SetupTables.mem_recorded {d : SetupTables} {setupId : Uuid} {e : EventRow} :
    e ∈ d.recorded setupId ↔ e ∈ d.events ∧ e.setupId = setupId := by
  simp [recorded]

/-- The score of a setup that was committed last. -/
def SetupTables.lastScore (d : SetupTables) (setupId : Uuid) : Option ScoreRow :=
  (d.scores.filter fun s => s.key.setupId = setupId).getLast?

/-- The unique keys, the sequences, the foreign keys, and for every setup its lifecycle and the total
    of its last score. -/
structure LedgerOk (d : SetupTables) : Prop where
  setupIds : (d.setups.map SetupRow.id).Nodup
  detectionKeys : (d.setups.map SetupRow.key).Nodup
  scoreKeys : (d.scores.map ScoreRow.key).Nodup
  eventIds : ∀ e ∈ d.events, e.id < d.nextEventId
  eventSetups : ∀ e ∈ d.events, ∃ r ∈ d.setups, r.id = e.setupId
  scoreSetups : ∀ s ∈ d.scores, ∃ r ∈ d.setups, r.id = s.key.setupId
  lifecycle : ∀ r ∈ d.setups, Lifecycle r.state (d.recorded r.id)
  quality : ∀ r ∈ d.setups, r.qualityScore = (d.lastScore r.id).map ScoreRow.total

theorem LedgerOk.eventsOf_eq {d : SetupTables} (h : LedgerOk d) {r : SetupRow} (hr : r ∈ d.setups) :
    d.eventsOf r.id = d.recorded r.id := by
  refine List.Pairwise.insertionSort_eq ?_
  exact (h.lifecycle r hr).ids.imp fun hlt => Nat.le_of_lt hlt

theorem LedgerOk.draw {d : SetupTables} (h : LedgerOk d) {eventId scoreId : ℕ}
    (hle : d.nextEventId ≤ eventId) :
    LedgerOk { d with nextEventId := eventId, nextScoreId := scoreId } where
  setupIds := h.setupIds
  detectionKeys := h.detectionKeys
  scoreKeys := h.scoreKeys
  eventIds e he := lt_of_lt_of_le (h.eventIds e he) hle
  eventSetups := h.eventSetups
  scoreSetups := h.scoreSetups
  lifecycle := h.lifecycle
  quality := h.quality

/-! ### A detection commits -/

theorem LedgerOk.detect {d : SetupTables} (h : LedgerOk d) {row : SetupRow} {event : EventRow}
    (hid : ∀ r ∈ d.setups, r.id ≠ row.id) (hkey : ∀ r ∈ d.setups, r.key ≠ row.key)
    (hstate : row.state = SETUP_INITIAL_STATE) (hquality : row.qualityScore = none)
    (hevent : event.setupId = row.id) (hsource : event.fromState = none)
    (htarget : event.toState = SETUP_INITIAL_STATE) (hdrawn : event.id < d.nextEventId) :
    LedgerOk { d with setups := d.setups ++ [row], events := d.events ++ [event] } where
  setupIds := Rows.nodup_map_concat h.setupIds hid
  detectionKeys := Rows.nodup_map_concat h.detectionKeys hkey
  scoreKeys := h.scoreKeys
  eventIds e he := by
    rcases List.mem_append.mp he with he | he
    · exact h.eventIds e he
    · rw [List.mem_singleton.mp he]
      exact hdrawn
  eventSetups e he := by
    rcases List.mem_append.mp he with he | he
    · obtain ⟨r, hr, hrid⟩ := h.eventSetups e he
      exact ⟨r, List.mem_append_left _ hr, hrid⟩
    · rw [List.mem_singleton.mp he, hevent]
      exact ⟨row, List.mem_append_right _ (List.mem_singleton.mpr rfl), rfl⟩
  scoreSetups s hs := by
    obtain ⟨r, hr, hrid⟩ := h.scoreSetups s hs
    exact ⟨r, List.mem_append_left _ hr, hrid⟩
  lifecycle r hr := by
    rcases List.mem_append.mp hr with hr | hr
    · have hrest : ({ d with setups := d.setups ++ [row], events := d.events ++ [event] } :
          SetupTables).recorded r.id = d.recorded r.id := by
        simp [SetupTables.recorded, List.filter_append, hevent, (hid r hr).symm]
      rw [hrest]
      exact h.lifecycle r hr
    · rw [List.mem_singleton.mp hr]
      have hnone : d.recorded row.id = [] := by
        rw [List.eq_nil_iff_forall_not_mem]
        intro e he
        obtain ⟨he, hesetup⟩ := SetupTables.mem_recorded.mp he
        obtain ⟨r, hr, hrid⟩ := h.eventSetups e he
        exact hid r hr (hrid.trans hesetup)
      have hown : ({ d with setups := d.setups ++ [row], events := d.events ++ [event] } :
          SetupTables).recorded row.id = d.recorded row.id ++ [event] := by
        simp [SetupTables.recorded, List.filter_append, hevent]
      rw [hown, hnone, hstate]
      exact lifecycle_detected hsource htarget
  quality r hr := by
    rcases List.mem_append.mp hr with hr | hr
    · exact h.quality r hr
    · rw [List.mem_singleton.mp hr, hquality]
      have hnone : d.scores.filter (fun s => s.key.setupId = row.id) = [] := by
        rw [List.filter_eq_nil_iff]
        intro s hs hsetup
        obtain ⟨r, hr, hrid⟩ := h.scoreSetups s hs
        exact hid r hr (hrid.trans (by simpa using hsetup))
      simp [SetupTables.lastScore, hnone]

/-! ### A transition commits -/

theorem LedgerOk.transition {d : SetupTables} (h : LedgerOk d) {r₀ : SetupRow} {target : SetupState}
    {event : EventRow} (hr₀ : r₀ ∈ d.setups) (hevent : event.setupId = r₀.id)
    (hsource : event.fromState = some r₀.state) (htarget : event.toState = target)
    (hallowed : allowedTransition r₀.state target = true) (hdrawn : event.id < d.nextEventId)
    (hlater : ∀ x ∈ d.recorded r₀.id, x.id < event.id) :
    LedgerOk { d with setups := d.setState r₀.id target, events := d.events ++ [event] } := by
  have hidKept : ∀ r ∈ d.setups,
      (if r.id = r₀.id then { r with state := target } else r : SetupRow).id = r.id := by
    intro r _
    split <;> rfl
  have hkeyKept : ∀ r ∈ d.setups,
      (if r.id = r₀.id then { r with state := target } else r : SetupRow).key = r.key := by
    intro r _
    split <;> rfl
  have hfound : ∀ id, (∃ r ∈ d.setups, r.id = id) → ∃ r ∈ d.setState r₀.id target, r.id = id := by
    rintro id ⟨r, hr, rfl⟩
    exact ⟨_, List.mem_map.mpr ⟨r, hr, rfl⟩, hidKept r hr⟩
  refine ⟨Rows.nodup_map_map h.setupIds hidKept, Rows.nodup_map_map h.detectionKeys hkeyKept,
    h.scoreKeys, ?_, ?_, ?_, ?_, ?_⟩
  · intro e he
    rcases List.mem_append.mp he with he | he
    · exact h.eventIds e he
    · rw [List.mem_singleton.mp he]
      exact hdrawn
  · intro e he
    apply hfound
    rcases List.mem_append.mp he with he | he
    · exact h.eventSetups e he
    · rw [List.mem_singleton.mp he, hevent]
      exact ⟨r₀, hr₀, rfl⟩
  · intro s hs
    exact hfound _ (h.scoreSetups s hs)
  · intro r' hr'
    obtain ⟨r, hr, rfl⟩ := List.mem_map.mp hr'
    by_cases hsame : r.id = r₀.id
    · have : r = r₀ := Rows.eq_of_key h.setupIds hr hr₀ hsame
      subst this
      have hown : ({ d with setups := d.setState r.id target, events := d.events ++ [event] } :
          SetupTables).recorded r.id = d.recorded r.id ++ [event] := by
        simp [SetupTables.recorded, List.filter_append, hevent]
      rw [if_pos rfl]
      show Lifecycle target _
      rw [hown]
      exact (h.lifecycle r hr).append hsource htarget hallowed hlater
    · have hrest : ({ d with setups := d.setState r₀.id target, events := d.events ++ [event] } :
          SetupTables).recorded r.id = d.recorded r.id := by
        simp [SetupTables.recorded, List.filter_append, hevent, Ne.symm hsame]
      rw [if_neg hsame, hrest]
      exact h.lifecycle r hr
  · intro r' hr'
    obtain ⟨r, hr, rfl⟩ := List.mem_map.mp hr'
    have hold := h.quality r hr
    split
    · exact hold
    · exact hold

/-! ### A score commits -/

theorem LedgerOk.score {d : SetupTables} (h : LedgerOk d) {stored : ScoreRow}
    (hkey : ∀ s ∈ d.scores, s.key ≠ stored.key) (hsetup : ∃ r ∈ d.setups, r.id = stored.key.setupId) :
    LedgerOk { d with
      setups := d.setQuality stored.key.setupId stored.total, scores := d.scores ++ [stored] } := by
  have hkept : ∀ r ∈ d.setups,
      (if r.id = stored.key.setupId then { r with qualityScore := some stored.total } else r :
        SetupRow).id = r.id ∧
      (if r.id = stored.key.setupId then { r with qualityScore := some stored.total } else r :
        SetupRow).key = r.key ∧
      (if r.id = stored.key.setupId then { r with qualityScore := some stored.total } else r :
        SetupRow).state = r.state := by
    intro r _
    split <;> exact ⟨rfl, rfl, rfl⟩
  have hfound : ∀ id, (∃ r ∈ d.setups, r.id = id) →
      ∃ r ∈ d.setQuality stored.key.setupId stored.total, r.id = id := by
    rintro id ⟨r, hr, rfl⟩
    exact ⟨_, List.mem_map.mpr ⟨r, hr, rfl⟩, (hkept r hr).1⟩
  refine ⟨Rows.nodup_map_map h.setupIds fun r hr => (hkept r hr).1,
    Rows.nodup_map_map h.detectionKeys fun r hr => (hkept r hr).2.1,
    Rows.nodup_map_concat h.scoreKeys hkey, h.eventIds, ?_, ?_, ?_, ?_⟩
  · intro e he
    exact hfound _ (h.eventSetups e he)
  · intro s hs
    apply hfound
    rcases List.mem_append.mp hs with hs | hs
    · exact h.scoreSetups s hs
    · rw [List.mem_singleton.mp hs]
      exact hsetup
  · intro r' hr'
    obtain ⟨r, hr, rfl⟩ := List.mem_map.mp hr'
    rw [(hkept r hr).1, (hkept r hr).2.2]
    exact h.lifecycle r hr
  · intro r' hr'
    obtain ⟨r, hr, rfl⟩ := List.mem_map.mp hr'
    have hold := h.quality r hr
    unfold SetupTables.lastScore at hold ⊢
    rw [(hkept r hr).1, List.filter_append]
    by_cases hid : r.id = stored.key.setupId
    · simp [hid]
    · have hother : stored.key.setupId ≠ r.id := Ne.symm hid
      rw [if_neg hid, List.filter_singleton, decide_eq_false hother]
      simpa only [cond_false, List.append_nil] using hold

end VeltrixEye.Setups
