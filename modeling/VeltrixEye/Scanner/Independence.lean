import VeltrixEye.Scanner.Directions

/-!
# What the long setup does to the short one

The two directions of an anchor share the tables and the quotas of their owner, and the loop of the scan.

* `short_is_scanned_alone_iff`.
-/

namespace VeltrixEye.Scanner

open Setups

/-! ## A pass -/

/-- What a pass reads of a direction: the id its setup has or would get, the state of the stored row,
    the total it is scored with and whether it has a confirmed alert. -/
structure DirectionView where
  id : Uuid
  state : Option Setups.SetupState
  total : ℕ
  alerted : Bool

namespace InstrumentScan

variable {owner : Uuid → Option Uuid} (s : InstrumentScan owner) (asOfMs : ℤ)

/-- The stored setup of a direction: its id and its state. -/
def stored (d : ScanTables) (direction : SetupDirection) : Option (Uuid × Setups.SetupState) :=
  (d.readOwnedSetupByKey owner s.userId (s.key asOfMs direction)).map fun r => (r.id, r.state)

def view (result : Evaluation) (d : ScanTables) (direction : SetupDirection) : DirectionView :=
  let id := ((s.stored asOfMs d direction).map Prod.fst).getD (s.newId direction)
  { id := id
    state := (s.stored asOfMs d direction).map Prod.snd
    total := ((d.readScore (scoreKeyAt id asOfMs)).map ScoreRow.total).getD (result.score direction).1
    alerted := (d.readAlert id .confirmed).isSome }

/-- The end of a pass: the alert of a scored setup. -/
def alertOutcome (v : DirectionView) (created : Bool) (alerts : ℕ) : DirectionReport × Option ScanError :=
  if v.total < s.minQualityScore then (⟨some v.id, created, some v.total, false, false⟩, none)
  else if s.maxAlertsPerMonth ≤ alerts then
    (⟨some v.id, created, some v.total, false, false⟩, some (.alertLimit s.maxAlertsPerMonth))
  else (⟨some v.id, created, some v.total, true, !v.alerted⟩, none)

/-- A pass over a direction that qualifies, from what it reads and the two counts. -/
def passOutcome (v : DirectionView) (setups alerts : ℕ) : DirectionReport × Option ScanError :=
  match v.state with
  | none =>
    if s.maxSavedSetups ≤ setups then (.nothing, some (.savedSetupsLimit s.maxSavedSetups))
    else s.alertOutcome v true alerts
  | some state =>
    if isTerminalState state then (⟨some v.id, false, none, false, false⟩, some (.terminalSetup state))
    else if eligibleState state then s.alertOutcome v false alerts
    else (⟨some v.id, false, some v.total, false, false⟩, some (.ineligibleSetup state))

/-- A pass inserts a setup. -/
def insertsSetup (v : DirectionView) (setups : ℕ) : Bool := v.state.isNone && setups < s.maxSavedSetups

/-- A pass gets as far as the quota of alerts. -/
def reachesAlert (v : DirectionView) (setups : ℕ) : Bool :=
  (v.state.elim (setups < s.maxSavedSetups : Bool) eligibleState) && s.minQualityScore ≤ v.total

/-- A pass inserts an alert. -/
def insertsAlert (v : DirectionView) (setups alerts : ℕ) : Bool :=
  s.reachesAlert v setups && alerts < s.maxAlertsPerMonth && !v.alerted

/-- What the pass about the setup `id` of a direction leaves of the other one, and what it adds to the
    two counts. -/
structure Leaves (direction : SetupDirection) (id : Uuid) (d d' : ScanTables) (newSetups newAlerts : ℕ) :
    Prop where
  ids : ∀ r ∈ d'.setups, r.id = id ∨ ∃ r₀ ∈ d.setups, r₀.id = r.id
  stored : ∀ other, other ≠ direction → s.stored asOfMs d' other = s.stored asOfMs d other
  scores : ∀ i, i ≠ id → d'.readScore (scoreKeyAt i asOfMs) = d.readScore (scoreKeyAt i asOfMs)
  alerts : ∀ i, i ≠ id → d'.readAlert i .confirmed = d.readAlert i .confirmed
  setupCount : d'.countSetups owner s.userId = d.countSetups owner s.userId + newSetups
  alertCount : d'.countAlerts s.userId s.monthStart = d.countAlerts s.userId s.monthStart + newAlerts

variable {s asOfMs} {d : ScanTables} {direction : SetupDirection} {result : Evaluation}

theorem readOwnedSetup_of_mem (hd : d.Keyed) {r : SetupRow} (hr : r ∈ d.setups)
    (hkey : r.key = s.key asOfMs direction) : d.readOwnedSetup owner s.userId r.id = some r := by
  unfold SetupTables.readOwnedSetup
  cases hfind : d.setups.find? fun x => x.id = r.id ∧ owner x.key.strategyVersionId = some s.userId with
  | none =>
    have := List.find?_eq_none.mp hfind r hr
    rw [hkey] at this
    exact absurd (by simpa [key] using s.owned) this
  | some x =>
    have hx := List.find?_some hfind
    simp only [decide_eq_true_eq] at hx
    rw [Rows.eq_of_key hd.setupIds (List.mem_of_find?_eq_some hfind) hr hx.1]

theorem scoreSetup_eq (hd : d.Keyed) (hresult : s.evaluation = .ok result) {r : SetupRow}
    (hr : r ∈ d.setups) (hkey : r.key = s.key asOfMs direction) (hstate : isTerminalState r.state = false) :
    s.scoreSetup asOfMs d r.id =
      match d.readScore (scoreKeyAt r.id asOfMs) with
      | some existing => .ok (d, existing)
      | none =>
        .ok (d.insertScore ⟨d.nextScoreId, scoreKeyAt r.id asOfMs, (result.score direction).1,
          (result.score direction).2⟩, ⟨d.nextScoreId, scoreKeyAt r.id asOfMs,
            (result.score direction).1, (result.score direction).2⟩) := by
  have hdirection : r.key.direction = direction := by rw [hkey]; rfl
  unfold scoreSetup
  rw [readOwnedSetup_of_mem hd hr hkey]
  simp only [hstate, hresult, hdirection]
  rfl

/-! ### What one statement leaves -/

variable {id : Uuid} {d' d'' : ScanTables}

theorem Leaves.refl (d : ScanTables) : s.Leaves asOfMs direction id d d 0 0 where
  ids := fun r hr => .inr ⟨r, hr, rfl⟩
  stored := fun _ _ => rfl
  scores := fun _ _ => rfl
  alerts := fun _ _ => rfl
  setupCount := rfl
  alertCount := rfl

theorem Leaves.trans {m n m' n' : ℕ} (h : s.Leaves asOfMs direction id d d' m n)
    (h' : s.Leaves asOfMs direction id d' d'' m' n') :
    s.Leaves asOfMs direction id d d'' (m + m') (n + n') where
  ids := by
    intro r hr
    rcases h'.ids r hr with hid | ⟨r₁, hr₁, hid₁⟩
    · exact .inl hid
    · rcases h.ids r₁ hr₁ with hid | ⟨r₀, hr₀, hid₀⟩
      · exact .inl (hid₁.symm.trans hid)
      · exact .inr ⟨r₀, hr₀, hid₀.trans hid₁⟩
  stored := fun other hne => (h'.stored other hne).trans (h.stored other hne)
  scores := fun i hne => (h'.scores i hne).trans (h.scores i hne)
  alerts := fun i hne => (h'.alerts i hne).trans (h.alerts i hne)
  setupCount := by rw [h'.setupCount, h.setupCount, Nat.add_assoc]
  alertCount := by rw [h'.alertCount, h.alertCount, Nat.add_assoc]

theorem leaves_insertSetup (row : SetupRow) (hkey : row.key = s.key asOfMs direction) :
    s.Leaves asOfMs direction row.id d (d.insertSetup row) 1 0 where
  ids := by
    intro r hr
    rcases List.mem_append.mp hr with hr | hr
    · exact .inr ⟨r, hr, rfl⟩
    · exact .inl (by rw [List.mem_singleton.mp hr])
  stored := by
    intro other hne
    have hother : row.key ≠ s.key asOfMs other := by
      rw [hkey]
      intro h
      exact hne (congrArg DetectionKey.direction h).symm
    unfold stored SetupTables.readOwnedSetupByKey ScanTables.insertSetup
    rw [List.find?_append]
    simp [hother]
  scores := fun _ _ => rfl
  alerts := fun _ _ => rfl
  setupCount := by
    have howned : owner row.key.strategyVersionId = some s.userId := by
      rw [hkey]
      exact s.owned
    simp [ScanTables.countSetups, ScanTables.insertSetup, howned]
  alertCount := rfl

theorem stored_insertScore (score : ScoreRow) (other : SetupDirection) :
    s.stored asOfMs (d.insertScore score) other = s.stored asOfMs d other := by
  unfold stored SetupTables.readOwnedSetupByKey ScanTables.insertScore SetupTables.setQuality
  rw [List.find?_map, Option.map_map]
  congr 1
  · funext r
    dsimp only [Function.comp]
    split <;> rfl
  · congr 1
    funext r
    dsimp only [Function.comp]
    split <;> rfl

theorem leaves_insertScore (score : ScoreRow) (hkey : score.key = scoreKeyAt id asOfMs) :
    s.Leaves asOfMs direction id d (d.insertScore score) 0 0 where
  ids := by
    intro r hr
    obtain ⟨r₀, hr₀, rfl⟩ := List.mem_map.mp hr
    refine .inr ⟨r₀, hr₀, ?_⟩
    split <;> rfl
  stored := fun other _ => stored_insertScore score other
  scores := by
    intro i hne
    have hother : score.key ≠ scoreKeyAt i asOfMs := by
      rw [hkey]
      intro h
      exact hne (congrArg ScoreKey.setupId h).symm
    unfold SetupTables.readScore ScanTables.insertScore
    rw [List.find?_append]
    simp [hother]
  alerts := fun _ _ => rfl
  setupCount := by
    unfold ScanTables.countSetups ScanTables.insertScore SetupTables.setQuality
    rw [List.filter_map, List.length_map, Nat.add_zero]
    congr 2
    funext r
    dsimp only [Function.comp]
    split <;> rfl
  alertCount := rfl

theorem leaves_insertAlert (alert : AlertRow) (huser : alert.userId = s.userId)
    (hcreated : s.monthStart ≤ alert.createdAt) :
    s.Leaves asOfMs direction alert.setupId d (d.insertAlert alert) 0 1 where
  ids := fun r hr => .inr ⟨r, hr, rfl⟩
  stored := fun _ _ => rfl
  scores := fun _ _ => rfl
  alerts := by
    intro i hne
    unfold ScanTables.readAlert ScanTables.insertAlert
    rw [List.find?_append]
    simp [Ne.symm hne]
  setupCount := rfl
  alertCount := by simp [ScanTables.countAlerts, ScanTables.insertAlert, huser, hcreated]

/-! ### The services in a pass -/

theorem mem_insertScore {r : SetupRow} (hr : r ∈ d.setups) (score : ScoreRow) :
    ∃ r' ∈ (d.insertScore score).setups, r'.id = r.id ∧ r'.key = r.key ∧ r'.state = r.state := by
  refine ⟨_, List.mem_map_of_mem hr, ?_, ?_, ?_⟩
  · split <;> rfl
  · split <;> rfl
  · split <;> rfl

theorem scoreSetup_spec (hd : d.Keyed) (hresult : s.evaluation = .ok result) {r : SetupRow}
    (hr : r ∈ d.setups) (hkey : r.key = s.key asOfMs direction)
    (hstate : isTerminalState r.state = false) :
    ∃ d₂ score, s.scoreSetup asOfMs d r.id = .ok (d₂, score) ∧ d₂.Keyed ∧
      s.Leaves asOfMs direction r.id d d₂ 0 0 ∧
      score.total = ((d.readScore (scoreKeyAt r.id asOfMs)).map ScoreRow.total).getD
        (result.score direction).1 ∧
      d₂.readScore (scoreKeyAt r.id asOfMs) = some score ∧ d₂.alerts = d.alerts ∧
      ∃ r₂ ∈ d₂.setups, r₂.id = r.id ∧ r₂.key = r.key ∧ r₂.state = r.state := by
  rw [scoreSetup_eq hd hresult hr hkey hstate]
  cases hread : d.readScore (scoreKeyAt r.id asOfMs) with
  | some existing =>
    exact ⟨d, existing, rfl, hd, .refl d, rfl, hread, rfl, r, hr, rfl, rfl, rfl⟩
  | none =>
    refine ⟨_, _, rfl, hd.insertScore hread, leaves_insertScore _ rfl, rfl, ?_, rfl,
      mem_insertScore hr _⟩
    unfold SetupTables.readScore ScanTables.insertScore
    unfold SetupTables.readScore at hread
    rw [List.find?_append, hread]
    simp

theorem generateAlert_eq (hd : d.Keyed) {r : SetupRow} (hr : r ∈ d.setups)
    (hkey : r.key = s.key asOfMs direction) (hstate : eligibleState r.state = true)
    {score : ScoreRow} (hscore : d.readScore (scoreKeyAt r.id asOfMs) = some score) :
    s.generateAlert d r.id =
      if score.total < s.minQualityScore then .ok (d, none)
      else if s.maxAlertsPerMonth ≤ d.countAlerts s.userId s.monthStart then
        .error (.alertLimit s.maxAlertsPerMonth)
      else
        match d.readAlert r.id .confirmed with
        | some winner => .ok (d, some (winner, false))
        | none =>
          .ok (d.insertAlert ⟨r.id, .confirmed, s.userId, score.total, s.now⟩,
            some (⟨r.id, .confirmed, s.userId, score.total, s.now⟩, true)) := by
  have hasOf : r.key.asOfMs = asOfMs := by rw [hkey]; rfl
  unfold generateAlert
  rw [readOwnedSetup_of_mem hd hr hkey]
  cases hwinner : d.readAlert r.id .confirmed with
  | none => simp only [hstate, hasOf, hscore, hwinner, not_true_eq_false, if_false]
  | some winner => simp only [hstate, hasOf, hscore, hwinner, not_true_eq_false, if_false]

theorem not_terminal_of_eligible {state : Setups.SetupState} (h : eligibleState state = true) :
    isTerminalState state = false := by
  cases state <;> first | rfl | cases h

/-- **A pass over a detected setup.** -/
theorem scanDetected_spec (hd : d.Keyed) (hresult : s.evaluation = .ok result) {r : SetupRow}
    (hr : r ∈ d.setups) (hkey : r.key = s.key asOfMs direction) (created : Bool) {v : DirectionView}
    (hid : v.id = r.id)
    (htotal : v.total = ((d.readScore (scoreKeyAt r.id asOfMs)).map ScoreRow.total).getD
      (result.score direction).1)
    (halerted : v.alerted = (d.readAlert r.id .confirmed).isSome) :
    (s.scanDetected asOfMs d r created).2 =
        (if isTerminalState r.state then
          (⟨some v.id, created, none, false, false⟩, some (.terminalSetup r.state))
        else if eligibleState r.state then
          s.alertOutcome v created (d.countAlerts s.userId s.monthStart)
        else (⟨some v.id, created, some v.total, false, false⟩, some (.ineligibleSetup r.state))) ∧
      s.Leaves asOfMs direction r.id d (s.scanDetected asOfMs d r created).1 0
        (eligibleState r.state && s.minQualityScore ≤ v.total &&
          d.countAlerts s.userId s.monthStart < s.maxAlertsPerMonth && !v.alerted).toNat := by
  cases hterminal : isTerminalState r.state with
  | true =>
    have hnot : eligibleState r.state = false := by
      by_contra h
      rw [Bool.not_eq_false] at h
      rw [not_terminal_of_eligible h] at hterminal
      cases hterminal
    have hscore : s.scoreSetup asOfMs d r.id = .error (.terminalSetup r.state) := by
      unfold scoreSetup
      rw [readOwnedSetup_of_mem hd hr hkey]
      simp [hterminal]
    unfold scanDetected
    rw [hscore]
    simp only [hnot, hid, Bool.false_and, Bool.toNat_false, if_true, true_and]
    exact .refl d
  | false =>
    obtain ⟨d₂, score, hscore, hd₂, hleaves, htotal₂, hread, halerts, r₂, hr₂, hid₂, hkey₂, hstate₂⟩ :=
      scoreSetup_spec hd hresult hr hkey hterminal
    have htotal' : score.total = v.total := htotal₂.trans htotal.symm
    have hcount : d₂.countAlerts s.userId s.monthStart = d.countAlerts s.userId s.monthStart := by
      unfold ScanTables.countAlerts
      rw [halerts]
    have hreadAlert : d₂.readAlert r.id .confirmed = d.readAlert r.id .confirmed := by
      unfold ScanTables.readAlert
      rw [halerts]
    unfold scanDetected
    rw [hscore]
    cases heligible : eligibleState r.state with
    | false =>
      have halert : s.generateAlert d₂ r.id = .error (.ineligibleSetup r.state) := by
        unfold generateAlert
        rw [← hid₂, readOwnedSetup_of_mem hd₂ hr₂ (hkey₂.trans hkey)]
        simp [hstate₂, heligible]
      simp only [halert, htotal', hid, Bool.false_and, Bool.toNat_false]
      exact ⟨rfl, hleaves⟩
    | true =>
      rw [← hid₂] at hread
      have halert := generateAlert_eq hd₂ hr₂ (hkey₂.trans hkey) (hstate₂ ▸ heligible) hread
      rw [hid₂, htotal', hcount, hreadAlert] at halert
      simp only [halert, alertOutcome]
      by_cases hmin : v.total < s.minQualityScore
      · simp only [hmin, if_true, htotal', hid]
        exact ⟨rfl, by simpa [Nat.not_le.mpr hmin] using hleaves⟩
      · by_cases hmax : s.maxAlertsPerMonth ≤ d.countAlerts s.userId s.monthStart
        · simp only [hmin, hmax, if_true, if_false, htotal', hid]
          exact ⟨rfl, by simpa [Nat.not_lt.mpr hmax] using hleaves⟩
        · simp only [hmin, hmax, if_false, htotal', hid]
          cases hwinner : d.readAlert r.id .confirmed with
          | some winner =>
            rw [hwinner] at halerted
            simp only [halerted, Option.isSome_some]
            exact ⟨rfl, by simpa using hleaves⟩
          | none =>
            rw [hwinner] at halerted
            simp only [halerted, Option.isSome_none]
            refine ⟨rfl, ?_⟩
            let alert : AlertRow := ⟨r.id, .confirmed, s.userId, v.total, s.now⟩
            have hinsert : s.Leaves asOfMs direction alert.setupId d₂ (d₂.insertAlert alert) 0 1 :=
              leaves_insertAlert alert rfl s.monthStart_le
            simpa [Nat.not_lt.mp hmin, Nat.not_le.mp hmax] using hleaves.trans hinsert

theorem view_of_stored {r : SetupRow}
    (hrow : d.readOwnedSetupByKey owner s.userId (s.key asOfMs direction) = some r) :
    s.view asOfMs result d direction =
      ⟨r.id, some r.state, ((d.readScore (scoreKeyAt r.id asOfMs)).map ScoreRow.total).getD
        (result.score direction).1, (d.readAlert r.id .confirmed).isSome⟩ := by
  unfold view stored
  rw [hrow]
  rfl

theorem view_of_not_stored
    (hrow : d.readOwnedSetupByKey owner s.userId (s.key asOfMs direction) = none) :
    s.view asOfMs result d direction =
      ⟨s.newId direction, none, ((d.readScore (scoreKeyAt (s.newId direction) asOfMs)).map
        ScoreRow.total).getD (result.score direction).1,
        (d.readAlert (s.newId direction) .confirmed).isSome⟩ := by
  unfold view stored
  rw [hrow]
  rfl

/-- **A pass over a direction that qualifies is determined by the view of the direction and the two
    counts, and leaves the other direction as it was.** -/
theorem scanDirection_spec (hd : d.Keyed) (hresult : s.evaluation = .ok result)
    (hpassed : result.passed direction = true) (hnew : ∀ r ∈ d.setups, r.id ≠ s.newId direction) :
    let v := s.view asOfMs result d direction
    let setups := d.countSetups owner s.userId
    let alerts := d.countAlerts s.userId s.monthStart
    (s.scanDirection asOfMs d direction).2 = s.passOutcome v setups alerts ∧
      s.Leaves asOfMs direction v.id d (s.scanDirection asOfMs d direction).1
        (s.insertsSetup v setups).toNat (s.insertsAlert v setups alerts).toNat := by
  intro v setups alerts
  unfold scanDirection detect
  simp only [hresult, hpassed, if_true]
  cases hrow : d.readOwnedSetupByKey owner s.userId (s.key asOfMs direction) with
  | some r =>
    have hv : v = _ := view_of_stored hrow
    have hinsert : s.insertOrGetSetup asOfMs d direction = .ok (d, r, false) := by
      unfold insertOrGetSetup
      rw [hrow]
    have hr : r ∈ d.setups := List.mem_of_find?_eq_some hrow
    have hkey : r.key = s.key asOfMs direction := by
      have := List.find?_some hrow
      simp only [decide_eq_true_eq] at this
      exact this.1
    have hspec := scanDetected_spec hd hresult hr hkey false (v := v)
      (by rw [hv]) (by rw [hv]) (by rw [hv])
    rw [hinsert]
    simp only [Except.map]
    have hstate : v.state = some r.state := by rw [hv]
    have hid : v.id = r.id := by rw [hv]
    refine ⟨?_, ?_⟩
    · rw [hspec.1]
      unfold passOutcome
      rw [hstate]
    · rw [hid]
      simpa [insertsSetup, insertsAlert, reachesAlert, hstate] using hspec.2
  | none =>
    have hv : v = _ := view_of_not_stored hrow
    have hstate : v.state = none := by rw [hv]
    have hid : v.id = s.newId direction := by rw [hv]
    by_cases hmax : s.maxSavedSetups ≤ setups
    · have hinsert : s.insertOrGetSetup asOfMs d direction =
          .error (.savedSetupsLimit s.maxSavedSetups) := by
        unfold insertOrGetSetup
        rw [hrow]
        exact if_pos hmax
      rw [hinsert]
      simp only [Except.map, passOutcome, hstate, hmax, if_true, true_and]
      have hzero : s.insertsSetup v setups = false ∧ s.insertsAlert v setups alerts = false := by
        simp [insertsSetup, insertsAlert, reachesAlert, hstate, Nat.not_lt.mpr hmax]
      rw [hzero.1, hzero.2]
      exact .refl d
    · let row : SetupRow :=
        ⟨s.newId direction, s.key asOfMs direction, SETUP_INITIAL_STATE, none⟩
      have hinsert : s.insertOrGetSetup asOfMs d direction = .ok (d.insertSetup row, row, true) := by
        unfold insertOrGetSetup
        rw [hrow]
        have hfree : (d.setups.any fun r => r.id = s.newId direction) = false := by
          simpa using hnew
        simp only [hfree]
        exact if_neg hmax
      have hd' : (d.insertSetup row).Keyed :=
        hd.insertSetup hnew (s.readOwnedSetupByKey_eq_none asOfMs |>.mp hrow)
      have hmem : row ∈ (d.insertSetup row).setups := List.mem_append_right _ List.mem_cons_self
      have hspec := scanDetected_spec hd' hresult hmem rfl true (v := v)
        (by rw [hv]) (by rw [hv]; rfl) (by rw [hv]; rfl)
      rw [hinsert]
      simp only [Except.map]
      refine ⟨?_, ?_⟩
      · rw [hspec.1]
        unfold passOutcome
        rw [hstate]
        simp only [hmax, if_false]
        rfl
      · have hleaves := (leaves_insertSetup row rfl).trans hspec.2
        rw [hid]
        have hlt := Nat.not_le.mp hmax
        have hsetups : (s.insertsSetup v setups).toNat = 1 := by
          simp [insertsSetup, hstate, hlt]
        have halerts : s.insertsAlert v setups alerts =
            (s.minQualityScore ≤ v.total && alerts < s.maxAlertsPerMonth && !v.alerted) := by
          simp [insertsAlert, reachesAlert, hstate, hlt]
        rw [Nat.zero_add] at hleaves
        rw [hsetups, halerts]
        exact hleaves

/-! ## The short direction without the long one -/

variable (s asOfMs)

/-- The tables without the setup of a direction, its events, its scores and its alerts. -/
def forget (d : ScanTables) (direction : SetupDirection) : ScanTables :=
  match d.readOwnedSetupByKey owner s.userId (s.key asOfMs direction) with
  | none => d
  | some r =>
    { d with
      setups := d.setups.filter fun x => x.id ≠ r.id
      events := d.events.filter fun x => x.setupId ≠ r.id
      scores := d.scores.filter fun x => x.key.setupId ≠ r.id
      alerts := d.alerts.filter fun x => x.setupId ≠ r.id }

/-- The tables as they were if the anchor of the scan had no long setup. -/
def withoutLong (d : ScanTables) : ScanTables :=
  match s.latestClosedSetupCandle with
  | none => d
  | some time => s.forget (time + s.setupPeriodMs) d .long

/-- The ids a scan would give its setups are new. -/
structure Fresh (d : ScanTables) : Prop where
  unused : ∀ direction, ∀ r ∈ d.setups, r.id ≠ s.newId direction
  distinct : s.newId .long ≠ s.newId .short

/-- What the long setup must leave to the short one when both are scanned: no error that ends the scan,
    and the place in each quota that the short setup would have without it. -/
structure LeavesRoom (result : Evaluation) (d : ScanTables) : Prop where
  eligible : result.passed .long = true →
    ((s.view asOfMs result d .long).state.all eligibleState) = true
  setups : result.passed .short = true →
    s.insertsSetup (s.view asOfMs result d .short)
      ((s.forget asOfMs d .long).countSetups owner s.userId) = true →
    d.countSetups owner s.userId + (result.passed .long &&
      s.insertsSetup (s.view asOfMs result d .long) (d.countSetups owner s.userId)).toNat <
        s.maxSavedSetups
  alerts : result.passed .short = true →
    s.reachesAlert (s.view asOfMs result d .short)
      ((s.forget asOfMs d .long).countSetups owner s.userId) = true →
    (s.forget asOfMs d .long).countAlerts s.userId s.monthStart < s.maxAlertsPerMonth →
    d.countAlerts s.userId s.monthStart + (result.passed .long &&
      s.insertsAlert (s.view asOfMs result d .long) (d.countSetups owner s.userId)
        (d.countAlerts s.userId s.monthStart)).toNat < s.maxAlertsPerMonth

/-- The scan has nothing to do, its version cannot be evaluated, or the long setup leaves room. -/
def Undisturbed (d : ScanTables) : Prop :=
  ∀ time result, s.latestClosedSetupCandle = some time → s.skips d time = false →
    s.evaluation = .ok result → s.LeavesRoom (time + s.setupPeriodMs) result d

variable {s asOfMs}

theorem Keyed_forget (hd : d.Keyed) : (s.forget asOfMs d direction).Keyed := by
  unfold forget
  split
  · exact hd
  · exact ⟨hd.setupIds.sublist (List.filter_sublist.map _), hd.setupKeys.sublist
      (List.filter_sublist.map _), hd.scoreKeys.sublist (List.filter_sublist.map _),
      hd.alertKeys.sublist (List.filter_sublist.map _)⟩

theorem mem_forget_setups {r : SetupRow} (h : r ∈ (s.forget asOfMs d direction).setups) :
    r ∈ d.setups := by
  unfold forget at h
  split at h
  · exact h
  · exact List.mem_of_mem_filter h

theorem Fresh.forget (h : s.Fresh d) : s.Fresh (s.forget asOfMs d direction) where
  unused := fun other r hr => h.unused other r (mem_forget_setups hr)
  distinct := h.distinct

theorem countSetups_forget_le :
    (s.forget asOfMs d direction).countSetups owner s.userId ≤ d.countSetups owner s.userId := by
  unfold forget
  split
  · exact le_rfl
  · exact (List.filter_sublist.filter _).length_le

theorem countAlerts_forget_le :
    (s.forget asOfMs d direction).countAlerts s.userId s.monthStart ≤
      d.countAlerts s.userId s.monthStart := by
  unfold forget
  split
  · exact le_rfl
  · exact (List.filter_sublist.filter _).length_le

theorem view_id_ne (hd : d.Keyed) (hfresh : s.Fresh d) :
    (s.view asOfMs result d .short).id ≠ (s.view asOfMs result d .long).id := by
  have hkey : ∀ {direction : SetupDirection} {r : SetupRow},
      d.readOwnedSetupByKey owner s.userId (s.key asOfMs direction) = some r →
        r ∈ d.setups ∧ r.key = s.key asOfMs direction := by
    intro direction r hr
    have := List.find?_some hr
    simp only [decide_eq_true_eq] at this
    exact ⟨List.mem_of_find?_eq_some hr, this.1⟩
  cases hlong : d.readOwnedSetupByKey owner s.userId (s.key asOfMs .long) with
  | none =>
    cases hshort : d.readOwnedSetupByKey owner s.userId (s.key asOfMs .short) with
    | none =>
      rw [view_of_not_stored hlong, view_of_not_stored hshort]
      exact hfresh.distinct.symm
    | some r =>
      rw [view_of_not_stored hlong, view_of_stored hshort]
      exact hfresh.unused .long r (hkey hshort).1
  | some r =>
    cases hshort : d.readOwnedSetupByKey owner s.userId (s.key asOfMs .short) with
    | none =>
      rw [view_of_stored hlong, view_of_not_stored hshort]
      exact (hfresh.unused .short r (hkey hlong).1).symm
    | some r' =>
      rw [view_of_stored hlong, view_of_stored hshort]
      intro hid
      have hrow := Rows.eq_of_key hd.setupIds (hkey hshort).1 (hkey hlong).1 hid
      have hkeys := (hkey hshort).2
      rw [hrow, (hkey hlong).2] at hkeys
      cases hkeys

theorem Leaves.view_eq {id : Uuid} {d' : ScanTables} {m n : ℕ}
    (h : s.Leaves asOfMs .long id d d' m n) (hid : (s.view asOfMs result d .short).id ≠ id) :
    s.view asOfMs result d' .short = s.view asOfMs result d .short := by
  have hstored := h.stored .short (by decide)
  unfold view
  rw [hstored]
  unfold view at hid
  dsimp only at hid ⊢
  rw [h.scores _ hid, h.alerts _ hid]

theorem find?_filter_of_imp {α : Type*} {p q : α → Bool} {l : List α}
    (h : ∀ a ∈ l, q a = true → p a = true) : (l.filter p).find? q = l.find? q := by
  induction l with
  | nil => rfl
  | cons a l ih =>
    have htail := ih fun b hb => h b (List.mem_cons_of_mem a hb)
    cases hq : q a with
    | true =>
      have hp := h a List.mem_cons_self hq
      rw [List.filter_cons_of_pos hp, List.find?_cons_of_pos hq, List.find?_cons_of_pos hq]
    | false =>
      have hq' : ¬q a = true := by rw [hq]; exact Bool.false_ne_true
      rw [List.find?_cons_of_neg hq', ← htail, List.filter_cons]
      split
      · exact List.find?_cons_of_neg hq'
      · rfl

theorem view_forget (hd : d.Keyed) (hfresh : s.Fresh d) :
    s.view asOfMs result (s.forget asOfMs d .long) .short = s.view asOfMs result d .short := by
  cases hlong : d.readOwnedSetupByKey owner s.userId (s.key asOfMs .long) with
  | none =>
    unfold forget
    rw [hlong]
  | some r =>
    have hr : r ∈ d.setups := List.mem_of_find?_eq_some hlong
    have hkey : r.key = s.key asOfMs .long := by
      have := List.find?_some hlong
      simp only [decide_eq_true_eq] at this
      exact this.1
    have hne : (s.view asOfMs result d .short).id ≠ r.id := by
      have hids : (s.view asOfMs result d .short).id ≠ (s.view asOfMs result d .long).id :=
        view_id_ne hd hfresh
      rwa [view_of_stored hlong] at hids
    have hstored : s.stored asOfMs (s.forget asOfMs d .long) .short = s.stored asOfMs d .short := by
      unfold forget
      rw [hlong]
      unfold stored SetupTables.readOwnedSetupByKey
      dsimp only
      rw [find?_filter_of_imp]
      intro x hx hxkey
      simp only [decide_eq_true_eq] at hxkey
      refine decide_eq_true fun hid => ?_
      have hrow := Rows.eq_of_key hd.setupIds hx hr hid
      have hkeys := hxkey.1
      rw [hrow, hkey] at hkeys
      cases hkeys
    have hscores : ∀ i, i ≠ r.id → (s.forget asOfMs d .long).readScore (scoreKeyAt i asOfMs) =
        d.readScore (scoreKeyAt i asOfMs) := by
      intro i hi
      unfold forget
      rw [hlong]
      refine find?_filter_of_imp fun x _ hx => decide_eq_true ?_
      rw [of_decide_eq_true hx]
      exact hi
    have halerts : ∀ i, i ≠ r.id → (s.forget asOfMs d .long).readAlert i .confirmed =
        d.readAlert i .confirmed := by
      intro i hi
      unfold forget
      rw [hlong]
      refine find?_filter_of_imp fun x _ hx => decide_eq_true ?_
      rw [(of_decide_eq_true hx).1]
      exact hi
    unfold view
    rw [hstored]
    unfold view at hne
    dsimp only at hne ⊢
    rw [hscores _ hne, halerts _ hne]

/-! ## The comparison -/

theorem passOutcome_limitReached (v : DirectionView) (setups alerts : ℕ) :
    (s.passOutcome v setups alerts).2.all ScanError.limitReached = v.state.all eligibleState := by
  unfold passOutcome alertOutcome
  cases v.state with
  | none =>
    dsimp only
    split
    · simp
    · split
      · rfl
      · split
        · simp
        · rfl
  | some state =>
    dsimp only
    split
    · rw [Option.all_some, Option.all_some, limitReached_terminalSetup]
      cases state <;> simp_all [isTerminalState, eligibleState]
    · split
      · rename_i heligible
        simp only [Option.all_some, heligible]
        split
        · rfl
        · split
          · simp
          · rfl
      · rename_i hnot
        simp only [Option.all_some, limitReached_ineligibleSetup]
        simpa using hnot

theorem passOutcome_setup_of_error {v : DirectionView} {setups alerts : ℕ}
    (h : v.state.all eligibleState = false) :
    (s.passOutcome v setups alerts).1 ≠ .nothing := by
  unfold passOutcome
  cases hstate : v.state with
  | none =>
    rw [hstate] at h
    cases h
  | some state =>
    rw [hstate] at h
    dsimp only
    split
    · simp [DirectionReport.nothing]
    · split
      · rename_i heligible
        simp [heligible] at h
      · simp [DirectionReport.nothing]

theorem alertOutcome_report_iff (v : DirectionView) (created : Bool) {m m' : ℕ} (hle : m ≤ m') :
    (s.alertOutcome v created m').1 = (s.alertOutcome v created m).1 ↔
      (s.minQualityScore ≤ v.total → m < s.maxAlertsPerMonth → m' < s.maxAlertsPerMonth) := by
  unfold alertOutcome
  by_cases hmin : v.total < s.minQualityScore
  · simp [hmin, Nat.not_le.mpr hmin]
  · by_cases hm' : s.maxAlertsPerMonth ≤ m'
    · by_cases hm : s.maxAlertsPerMonth ≤ m
      · simp [hmin, hm, hm', Nat.not_lt.mpr hm]
      · simp [hmin, hm, hm', Nat.not_lt.mp hmin, Nat.not_le.mp hm, Nat.not_lt.mpr hm']
    · have hm : ¬s.maxAlertsPerMonth ≤ m := by omega
      simp [hmin, hm, hm', Nat.not_le.mp hm']

theorem passOutcome_report_iff (v : DirectionView) {n n' m m' : ℕ} (hn : n ≤ n') (hm : m ≤ m') :
    (s.passOutcome v n' m').1 = (s.passOutcome v n m).1 ↔
      (s.insertsSetup v n = true → n' < s.maxSavedSetups) ∧
      (s.reachesAlert v n = true → m < s.maxAlertsPerMonth → m' < s.maxAlertsPerMonth) := by
  unfold passOutcome insertsSetup reachesAlert
  cases v.state with
  | none =>
    by_cases hmax : s.maxSavedSetups ≤ n
    · have hmax' : s.maxSavedSetups ≤ n' := hmax.trans hn
      simp [hmax, hmax', Nat.not_lt.mpr hmax]
    · have hlt := Nat.not_le.mp hmax
      by_cases hmax' : s.maxSavedSetups ≤ n'
      · have hne : DirectionReport.nothing ≠ (s.alertOutcome v true m).1 := by
          unfold alertOutcome DirectionReport.nothing
          split
          · simp
          · split
            · simp
            · simp
        simp [hmax, hmax', hlt, Nat.not_lt.mpr hmax', hne]
      · simp [hmax, hmax', hlt, Nat.not_le.mp hmax', alertOutcome_report_iff v true hm]
  | some state =>
    dsimp only
    split
    · rename_i hterminal
      have hnot : eligibleState state = false := by
        by_contra h
        rw [Bool.not_eq_false] at h
        rw [not_terminal_of_eligible h] at hterminal
        cases hterminal
      simp [hnot]
    · split
      · rename_i heligible
        simp [heligible, alertOutcome_report_iff v false hm]
      · rename_i hnot
        simp [hnot]

theorem scanDirection_not_passed (hresult : s.evaluation = .ok result)
    (hpassed : result.passed direction = false) :
    s.scanDirection asOfMs d direction = (d, .nothing, none) := by
  unfold scanDirection detect
  simp [hresult, hpassed]

theorem scanDirection_evaluation {message : String} (h : s.evaluation = .error message) :
    s.scanDirection asOfMs d direction = (d, .nothing, some (.evaluation message)) := by
  unfold scanDirection detect
  rw [h]

theorem scanDirections_short (d : ScanTables) :
    s.scanDirections asOfMs d [.short] =
      ⟨(s.scanDirection asOfMs d .short).1, [(.short, (s.scanDirection asOfMs d .short).2.1)],
        if (s.scanDirection asOfMs d .short).2.2.all ScanError.limitReached then none
        else (s.scanDirection asOfMs d .short).2.2⟩ := by
  simp only [scanDirections]
  split <;> rfl

theorem scanInstrumentOver_short {time : ℤ} (htime : s.latestClosedSetupCandle = some time)
    (hskip : s.skips d time = false) {pass : ScanTables × DirectionReport × Option ScanError}
    (hpass : s.scanDirection (time + s.setupPeriodMs) d .short = pass) :
    (s.scanInstrumentOver [.short] d).report .short = pass.2.1 ∧
      (s.scanInstrumentOver [.short] d).cursorSet =
        if pass.2.2.all ScanError.limitReached then some time else none := by
  unfold scanInstrumentOver
  simp only [htime, hskip, scanDirections_short, hpass]
  cases herror : pass.2.2 with
  | none => exact ⟨rfl, rfl⟩
  | some e =>
    cases hlimit : e.limitReached with
    | true => simp [hlimit, ScanOutcome.report]
    | false => simp [hlimit, ScanOutcome.report]

theorem scanInstrument_short {time : ℤ} (htime : s.latestClosedSetupCandle = some time)
    (hskip : s.skips d time = false) {long : ScanTables × DirectionReport × Option ScanError}
    (hlong : s.scanDirection (time + s.setupPeriodMs) d .long = long)
    {short : ScanTables × DirectionReport × Option ScanError}
    (hshort : s.scanDirection (time + s.setupPeriodMs) long.1 .short = short) :
    if long.2.2.all ScanError.limitReached then
      (s.scanInstrument d).report .short = short.2.1 ∧
        (s.scanInstrument d).cursorSet =
          if short.2.2.all ScanError.limitReached then some time else none
    else (s.scanInstrument d).report .short = .nothing ∧ (s.scanInstrument d).cursorSet = none := by
  have hboth : s.scanDirections (time + s.setupPeriodMs) d [.long, .short] =
      if long.2.2.all ScanError.limitReached then
        let following := s.scanDirections (time + s.setupPeriodMs) long.1 [.short]
        { following with reports := (.long, long.2.1) :: following.reports }
      else ⟨long.1, [(.long, long.2.1)], long.2.2⟩ := by
    rw [← hlong]
    rfl
  unfold scanInstrument scanInstrumentOver
  simp only [htime, hskip, hboth]
  split
  · rw [scanDirections_short, hshort]
    cases herror : short.2.2 with
    | none => exact ⟨rfl, rfl⟩
    | some e =>
      cases hlimit : e.limitReached with
      | true =>
        simp [hlimit, ScanOutcome.report, List.lookup]
        rfl
      | false =>
        simp [hlimit, ScanOutcome.report, List.lookup]
        rfl
  · rename_i herror
    cases hlast : long.2.2 with
    | none => simp [hlast] at herror
    | some e =>
      simp [ScanOutcome.report, List.lookup]
      rfl

/-- The short direction fares as it would if the anchor had no long setup, and so does the cursor. -/
def ShortIsIndependent (s : InstrumentScan owner) (d : ScanTables) : Prop :=
  (s.scanInstrument d).report .short = (s.scanInstrumentOver [.short] (s.withoutLong d)).report .short ∧
    (s.scanInstrument d).cursorSet = (s.scanInstrumentOver [.short] (s.withoutLong d)).cursorSet

theorem skips_forget {time : ℤ} : s.skips (s.forget asOfMs d direction) time = s.skips d time := by
  unfold skips forget
  split
  · rfl
  · rfl

theorem long_pass (hd : d.Keyed) (hfresh : s.Fresh d) (hresult : s.evaluation = .ok result) :
    ((s.scanDirection asOfMs d .long).2.2.all ScanError.limitReached =
        (!result.passed .long || (s.view asOfMs result d .long).state.all eligibleState)) ∧
      s.Leaves asOfMs .long (s.view asOfMs result d .long).id d (s.scanDirection asOfMs d .long).1
        (result.passed .long && s.insertsSetup (s.view asOfMs result d .long)
          (d.countSetups owner s.userId)).toNat
        (result.passed .long && s.insertsAlert (s.view asOfMs result d .long)
          (d.countSetups owner s.userId) (d.countAlerts s.userId s.monthStart)).toNat := by
  cases hpassed : result.passed .long with
  | false =>
    rw [scanDirection_not_passed hresult hpassed]
    exact ⟨rfl, .refl d⟩
  | true =>
    obtain ⟨hout, hleaves⟩ : _ = s.passOutcome (s.view asOfMs result d .long) _ _ ∧ _ :=
      scanDirection_spec hd hresult hpassed (hfresh.unused .long)
    rw [hout, passOutcome_limitReached]
    exact ⟨rfl, hleaves⟩

theorem view_id (direction : SetupDirection) :
    (s.view asOfMs result d direction).id = s.newId direction ∨
      ∃ r ∈ d.setups, r.id = (s.view asOfMs result d direction).id := by
  cases hrow : d.readOwnedSetupByKey owner s.userId (s.key asOfMs direction) with
  | none =>
    rw [view_of_not_stored hrow]
    exact .inl rfl
  | some r =>
    rw [view_of_stored hrow]
    exact .inr ⟨r, List.mem_of_find?_eq_some hrow, rfl⟩

theorem long_pass_unused (hd : d.Keyed) (hfresh : s.Fresh d) (hresult : s.evaluation = .ok result) :
    ∀ r ∈ (s.scanDirection asOfMs d .long).1.setups, r.id ≠ s.newId .short := by
  intro r hr
  rcases (long_pass hd hfresh hresult).2.ids r hr with hid | ⟨r₀, hr₀, hid⟩
  · rw [hid]
    rcases view_id (s := s) .long with hnew | ⟨r₀, hr₀, hid₀⟩
    · rw [hnew]
      exact hfresh.distinct
    · rw [← hid₀]
      exact hfresh.unused .short r₀ hr₀
  · rw [← hid]
    exact hfresh.unused .short r₀ hr₀

theorem shortIsIndependent_iff_leavesRoom (hd : d.Keyed) (hfresh : s.Fresh d) {time : ℤ}
    (htime : s.latestClosedSetupCandle = some time) (hskip : s.skips d time = false)
    (hresult : s.evaluation = .ok result) :
    s.ShortIsIndependent d ↔ s.LeavesRoom (time + s.setupPeriodMs) result d := by
  let asOf := time + s.setupPeriodMs
  let rest := s.forget asOf d .long
  let v := s.view asOf result d .short
  have hrest : s.withoutLong d = rest := by
    unfold withoutLong
    rw [htime]
  have hrestSkip : s.skips rest time = false := skips_forget.trans hskip
  obtain ⟨halone, haloneCursor⟩ := scanInstrumentOver_short htime hrestSkip rfl
  have hboth := scanInstrument_short htime hskip rfl rfl
  obtain ⟨hlimit, hleaves⟩ : _ ∧ s.Leaves asOf .long _ d (s.scanDirection asOf d .long).1 _ _ :=
    long_pass hd hfresh hresult
  have hview : s.view asOf result (s.scanDirection asOf d .long).1 .short = v :=
    hleaves.view_eq (view_id_ne hd hfresh)
  have hrestView : s.view asOf result rest .short = v := view_forget hd hfresh
  have hshortRest (hpassed : result.passed .short = true) :
      (s.scanDirection asOf rest .short).2 =
        s.passOutcome v (rest.countSetups owner s.userId) (rest.countAlerts s.userId s.monthStart) := by
    have hkeyed : rest.Keyed := Keyed_forget hd
    have hfresh' : s.Fresh rest := hfresh.forget
    have hspec : _ = s.passOutcome (s.view asOf result rest .short) _ _ :=
      (scanDirection_spec hkeyed hresult hpassed (hfresh'.unused .short)).1
    rwa [hrestView] at hspec
  unfold ShortIsIndependent
  rw [hrest, halone, haloneCursor]
  cases hall : (s.scanDirection asOf d .long).2.2.all ScanError.limitReached with
  | false =>
    -- The long pass left the loop: the short setup was not reached.
    rw [if_neg (by rw [hall]; exact Bool.false_ne_true)] at hboth
    rw [hboth.1, hboth.2]
    have hnotEligible : result.passed .long = true ∧
        (s.view asOf result d .long).state.all eligibleState = false := by
      rw [hall] at hlimit
      simpa using hlimit.symm
    constructor
    · rintro ⟨hreport, hcursor⟩
      exfalso
      cases hpassed : result.passed .short with
      | false =>
        rw [scanDirection_not_passed hresult hpassed] at hcursor
        cases hcursor
      | true =>
        rw [hshortRest hpassed] at hreport hcursor
        rw [passOutcome_limitReached] at hcursor
        cases heligible : v.state.all eligibleState with
        | true =>
          rw [heligible] at hcursor
          cases hcursor
        | false => exact passOutcome_setup_of_error heligible hreport.symm
    · intro hroom
      have := hroom.eligible hnotEligible.1
      rw [hnotEligible.2] at this
      cases this
  | true =>
    rw [if_pos hall] at hboth
    rw [hboth.1, hboth.2]
    have heligible : result.passed .long = true →
        (s.view asOf result d .long).state.all eligibleState = true := by
      intro hpassed
      rw [hall, hpassed] at hlimit
      simpa using hlimit.symm
    cases hpassed : result.passed .short with
    | false =>
      rw [scanDirection_not_passed hresult hpassed, scanDirection_not_passed hresult hpassed]
      refine iff_of_true ⟨rfl, rfl⟩ ⟨heligible, fun h => ?_, fun h => ?_⟩
      · rw [hpassed] at h
        cases h
      · rw [hpassed] at h
        cases h
    | true =>
      have hshort : _ = s.passOutcome (s.view asOf result (s.scanDirection asOf d .long).1 .short) _ _ :=
        (scanDirection_spec (s.scanDirection_keyed asOf hd .long) hresult hpassed
          (long_pass_unused hd hfresh hresult)).1
      rw [hview, hleaves.setupCount, hleaves.alertCount] at hshort
      have hsetups : rest.countSetups owner s.userId ≤ d.countSetups owner s.userId :=
        countSetups_forget_le
      have halerts : rest.countAlerts s.userId s.monthStart ≤ d.countAlerts s.userId s.monthStart :=
        countAlerts_forget_le
      have hcounts := fun m n => passOutcome_report_iff (s := s) v (hsetups.trans (Nat.le_add_right _ m))
        (halerts.trans (Nat.le_add_right _ n))
      rw [hshort, hshortRest hpassed, passOutcome_limitReached, passOutcome_limitReached]
      rw [hcounts]
      constructor
      · rintro ⟨⟨hsetups, halerts⟩, -⟩
        exact ⟨heligible, fun _ => hsetups, fun _ => halerts⟩
      · intro hroom
        exact ⟨⟨hroom.setups hpassed, hroom.alerts hpassed⟩, rfl⟩

theorem shortIsIndependent_iff (hd : d.Keyed) (hfresh : s.Fresh d) :
    s.ShortIsIndependent d ↔ s.Undisturbed d := by
  cases htime : s.latestClosedSetupCandle with
  | none =>
    refine iff_of_true ?_ ?_
    · unfold ShortIsIndependent withoutLong scanInstrument scanInstrumentOver
      simp only [htime]
      exact ⟨trivial, trivial⟩
    · intro time result htime'
      rw [htime] at htime'
      cases htime'
  | some time =>
    cases hskip : s.skips d time with
    | true =>
      refine iff_of_true ?_ ?_
      · unfold ShortIsIndependent withoutLong scanInstrument scanInstrumentOver
        simp only [htime, hskip, skips_forget, if_true]
        exact ⟨rfl, trivial⟩
      · intro time' result htime' hskip'
        rw [htime] at htime'
        cases htime'
        rw [hskip] at hskip'
        cases hskip'
    | false =>
      cases hresult : s.evaluation with
      | error message =>
        -- Both passes end in the same error.
        refine iff_of_true ?_ ?_
        · have hrest : s.withoutLong d = s.forget (time + s.setupPeriodMs) d .long := by
            unfold withoutLong
            rw [htime]
          obtain ⟨halone, haloneCursor⟩ := scanInstrumentOver_short htime (skips_forget.trans hskip)
            (scanDirection_evaluation hresult)
          have hboth := scanInstrument_short htime hskip (scanDirection_evaluation hresult)
            (scanDirection_evaluation hresult)
          unfold ShortIsIndependent
          rw [hrest, halone, haloneCursor]
          dsimp only at hboth ⊢
          split at hboth
          · rename_i hlimit
            rw [if_pos hlimit]
            exact hboth
          · rename_i hlimit
            rw [if_neg hlimit]
            exact hboth
        · intro _ result _ _ hresult'
          rw [hresult] at hresult'
          cases hresult'
      | ok result =>
        rw [shortIsIndependent_iff_leavesRoom hd hfresh htime hskip hresult]
        constructor
        · intro hroom time' result' htime' _ hresult'
          rw [htime] at htime'
          rw [hresult] at hresult'
          cases htime'
          cases hresult'
          exact hroom
        · intro h
          exact h time result htime hskip hresult

end InstrumentScan

/-! ## Runs of scans -/

/-- What happens to the tables: a scan of some instrument, or a transition of a setup. -/
inductive ScanAction (owner : Uuid → Option Uuid) where
  | scan (s : InstrumentScan owner)
  | transition (setupId : Uuid) (toState : Setups.SetupState)

def scanTablesStep {owner : Uuid → Option Uuid} (d : ScanTables) : ScanAction owner → ScanTables
  | .scan s => (s.scanInstrument d).result.tables
  | .transition setupId toState => { d with setups := d.setState setupId toState }

theorem scanTablesStep_keyed {owner : Uuid → Option Uuid} (d : ScanTables) (a : ScanAction owner)
    (hd : d.Keyed) : (scanTablesStep d a).Keyed := by
  cases a with
  | scan s => exact s.scanInstrument_keyed hd
  | transition setupId toState =>
    exact ⟨Rows.nodup_map_map hd.setupIds fun r _ => by split <;> rfl,
      Rows.nodup_map_map hd.setupKeys fun r _ => by split <;> rfl, hd.scoreKeys, hd.alertKeys⟩

/-- A direction has at most one setup at an anchor, and every setup one score there and one confirmed
    alert. -/
structure OneOfEach (d : ScanTables) (key : DetectionKey) : Prop where
  setup : (d.setups.filter fun r => r.key = key).length ≤ 1
  score : ∀ setupId, (d.scores.filter fun r => r.key = scoreKeyAt setupId key.asOfMs).length ≤ 1
  alert : ∀ setupId, (d.alerts.filter fun a =>
    (a.setupId, a.triggerState) = (setupId, AlertTriggerState.confirmed)).length ≤ 1

theorem ScanTables.Keyed.oneOfEach {d : ScanTables} (hd : d.Keyed) (key : DetectionKey) :
    OneOfEach d key where
  setup := Rows.filter_key_length hd.setupKeys key
  score := fun _ => Rows.filter_key_length hd.scoreKeys _
  alert := fun _ => Rows.filter_key_length hd.alertKeys _

/-- **The short direction fares as if there were no long setup exactly if the long setup leaves room for
    it, and after any scans each direction has one setup, one score and one alert at an anchor.** -/
theorem short_is_scanned_alone_iff {owner : Uuid → Option Uuid} :
    (∀ (s : InstrumentScan owner) (d : ScanTables), d.Keyed → s.Fresh d →
      (s.ShortIsIndependent d ↔ s.Undisturbed d)) ∧
    ∀ (d : ScanTables) (as : List (ScanAction owner)), d.Keyed →
      ∀ key, OneOfEach (Runs.run scanTablesStep d as) key := by
  constructor
  · intro s d hd hfresh
    exact InstrumentScan.shortIsIndependent_iff hd hfresh
  · intro d as hd key
    have hrun := Runs.inv_run_always scanTablesStep (fun d a h => scanTablesStep_keyed d a h) hd as
    exact hrun.oneOfEach key

/-! ### A long setup of the anchor in a given state -/

/-- A scan of one closed candle whose two directions qualify. -/
def bothQualify : InstrumentScan fun _ => some (Uuid.ofDigit 1) where
  userId := Uuid.ofDigit 1
  versionId := Uuid.ofDigit 2
  owned := rfl
  instrumentId := Uuid.ofDigit 3
  setupTf := .m15
  setupCandles := [0]
  nowMs := 900000
  force := false
  evaluation := .ok ⟨fun _ => true, fun _ => (90, .A)⟩
  newId := fun direction => if direction = .long then Uuid.ofDigit 4 else Uuid.ofDigit 5
  maxSavedSetups := 100
  maxAlertsPerMonth := 100
  minQualityScore := 70
  now := 900000
  monthStart := 0
  monthStart_le := by decide

/-- The tables after the long setup of the anchor was detected and went into a state. -/
def longSetupIn (state : Setups.SetupState) : ScanTables where
  setups := [⟨Uuid.ofDigit 6, bothQualify.key 900000 .long, state, none⟩]
  events := []
  scores := []
  nextEventId := 1
  nextScoreId := 1
  alerts := []
  cursors := []

theorem longSetupIn_keyed (state : Setups.SetupState) : (longSetupIn state).Keyed :=
  ⟨List.nodup_singleton _, List.nodup_singleton _, List.nodup_nil, List.nodup_nil⟩

theorem bothQualify_fresh (state : Setups.SetupState) : bothQualify.Fresh (longSetupIn state) where
  unused := by
    intro direction r hr
    rw [List.mem_singleton.mp hr]
    show Uuid.ofDigit 6 ≠ bothQualify.newId direction
    cases direction <;> decide
  distinct := by decide

/-- The theorem holds where the long setup is confirmed. -/
theorem confirmed_long_leaves_room :
    (longSetupIn .confirmed).Keyed ∧ bothQualify.Fresh (longSetupIn .confirmed) ∧
      bothQualify.Undisturbed (longSetupIn .confirmed) ∧
      OneOfEach (Runs.run scanTablesStep (longSetupIn .confirmed) [.scan bothQualify, .scan bothQualify])
        (bothQualify.key 900000 .short) := by
  have hkeyed := longSetupIn_keyed .confirmed
  have hfresh := bothQualify_fresh .confirmed
  refine ⟨hkeyed, hfresh, ?_, ?_⟩
  · apply (short_is_scanned_alone_iff.1 bothQualify (longSetupIn .confirmed) hkeyed hfresh).mp
    unfold InstrumentScan.ShortIsIndependent
    decide
  · exact short_is_scanned_alone_iff.2 (longSetupIn .confirmed) [.scan bothQualify, .scan bothQualify]
      hkeyed (bothQualify.key 900000 .short)

/-- Where the long setup was invalidated, the short one is not reached and the cursor stays. -/
theorem invalidated_long_stops_the_scan :
    ¬ ∀ (owner : Uuid → Option Uuid) (s : InstrumentScan owner) (d : ScanTables),
      d.Keyed → s.Fresh d → s.ShortIsIndependent d := by
  intro h
  have hsame := (h _ bothQualify (longSetupIn .invalidated) (longSetupIn_keyed _) (bothQualify_fresh _)).2
  revert hsame
  decide +kernel

end VeltrixEye.Scanner
