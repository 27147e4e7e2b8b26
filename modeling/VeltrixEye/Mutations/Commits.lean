import VeltrixEye.Mutations.System

/-!
# What a committed step does to the tables

Every committed transaction of the ledger makes one of five changes to the intents and reservations:
none, a new submit, a new retry, the consumption of a barrier, or a transition.  `Change` says what
each of them does.

A row read earlier and written later is compared by its version.  `Evolves` relates a row to its
later versions; `Snapshot db r` says that the row read as `r` is still in the table, evolved.

* `Change.evolves` — after a change every row is there, evolved.
-/

namespace VeltrixEye

/-! ## Rows over time -/

/-- The columns that no update writes; the others are blanked. -/
def IntentRow.core (r : IntentRow) : IntentRow :=
  { r with
    status := .prepared
    outcome := none
    uncertaintyReason := none
    terminalEvidence := none
    resolution := none
    supersededByIntentId := none
    reconciliationRequired := false
    reconciliationState := .notRequired
    stateVersion := 0
    resolvedAt := none }

/-- A row and a later version of it: the version only grows, equal versions are equal rows, a terminal
status stays, a reconciled one with its resolution, and so does the retry that supersedes it. -/
structure Evolves (r r' : IntentRow) : Prop where
  core : r'.core = r.core
  version : r.stateVersion ≤ r'.stateVersion
  same : r'.stateVersion = r.stateVersion → r' = r
  terminal : r.status.terminal = true →
    r'.status = r.status ∧ (r.status = .reconciled → r'.resolution = r.resolution)
  superseded : r.supersededByIntentId ≠ none →
    r'.supersededByIntentId = r.supersededByIntentId

namespace Evolves

theorem refl (r : IntentRow) : Evolves r r :=
  ⟨rfl, le_refl _, fun _ => rfl, fun _ => ⟨rfl, fun _ => rfl⟩, fun _ => rfl⟩

theorem trans {a b c : IntentRow} (hab : Evolves a b) (hbc : Evolves b c) : Evolves a c := by
  refine ⟨hbc.core.trans hab.core, hab.version.trans hbc.version, fun h => ?_, fun h => ?_,
    fun h => ?_⟩
  · have hb := hab.version
    have hc := hbc.version
    rw [hbc.same (by omega), hab.same (by omega)]
  · obtain ⟨hs, hr⟩ := hab.terminal h
    obtain ⟨hs', hr'⟩ := hbc.terminal (by rw [hs]; exact h)
    exact ⟨hs'.trans hs, fun hrec => (hr' (hs.trans hrec)).trans (hr hrec)⟩
  · have hb := hab.superseded h
    exact (hbc.superseded (by rw [hb]; exact h)).trans hb

variable {r r' : IntentRow}

theorem column {β : Type} (h : Evolves r r') (f : IntentRow → β)
    (hf : ∀ x : IntentRow, f x.core = f x) : f r' = f r := by
  rw [← hf r', h.core, hf]

theorem id_eq (h : Evolves r r') : r'.id = r.id := h.column (·.id) fun _ => rfl

theorem lineage_eq (h : Evolves r r') : r'.lineage = r.lineage := h.column (·.lineage) fun _ => rfl

end Evolves

theorem evolves_bumped {old set : IntentRow} (hcore : set.core = old.core)
    (hterminal : old.status.terminal = true →
      set.status = old.status ∧ (old.status = .reconciled → set.resolution = old.resolution))
    (hsuperseded : old.supersededByIntentId ≠ none →
      set.supersededByIntentId = old.supersededByIntentId) :
    Evolves old (old.bumped set) := by
  refine ⟨hcore, ?_, fun h => ?_, hterminal, hsuperseded⟩
  · simp [IntentRow.bumped]
  · simp [IntentRow.bumped] at h

/-- The row read as `r` is in the table, evolved. -/
def Snapshot (db : MutationDb) (r : IntentRow) : Prop := ∃ r' ∈ db.intents, Evolves r r'

theorem snapshot_of_mem {db : MutationDb} {r : IntentRow} (h : r ∈ db.intents) : Snapshot db r :=
  ⟨r, h, .refl r⟩

/-! ## The table of intents -/

theorem compatible_comm {a b : IntentRow} (h : Compatible a b) : Compatible b a := fun ix => by
  rw [IntentIndex.collide_comm]
  exact h ix

instance : Std.Symm Compatible := ⟨fun _ _ => compatible_comm⟩

theorem compatible_of_ne {rows : List IntentRow} (h : rows.Pairwise Compatible) {a b : IntentRow}
    (ha : a ∈ rows) (hb : b ∈ rows) (hne : a ≠ b) : Compatible a b := h.forall ha hb hne

theorem Compatible.id_ne {a b : IntentRow} (h : Compatible a b) : a.id ≠ b.id := by
  simpa [IntentIndex.collide] using h .pkey

theorem mem_putIntent {rows : List IntentRow} {r x : IntentRow} (h : x ∈ putIntent rows r) :
    x = r ∨ (x ∈ rows ∧ x.id ≠ r.id) := by
  obtain ⟨y, hy, rfl⟩ := List.mem_map.mp h
  split
  · exact .inl rfl
  · exact .inr ⟨hy, by assumption⟩

theorem mem_putIntent_self {rows : List IntentRow} {r old : IntentRow} (hold : old ∈ rows)
    (hid : old.id = r.id) : r ∈ putIntent rows r :=
  List.mem_map.mpr ⟨old, hold, if_pos hid⟩

theorem putIntent_eq_self {rows : List IntentRow} {r : IntentRow} (h : ∀ x ∈ rows, x.id ≠ r.id) :
    putIntent rows r = rows := by
  unfold putIntent
  conv_rhs => rw [← List.map_id rows]
  exact List.map_congr_left fun x hx => if_neg (h x hx)

theorem putIntent_append (rows rows' : List IntentRow) (r : IntentRow) :
    putIntent (rows ++ rows') r = putIntent rows r ++ putIntent rows' r := List.map_append

theorem eq_of_id_eq {rows : List IntentRow} (h : rows.Pairwise Compatible) {a b : IntentRow}
    (ha : a ∈ rows) (hb : b ∈ rows) (hid : a.id = b.id) : a = b := by
  have hnodup : (rows.map (·.id)).Nodup :=
    List.pairwise_map.mpr (h.imp fun hab => Compatible.id_ne hab)
  exact List.inj_on_of_nodup_map hnodup ha hb hid

theorem pairwise_putIntent {rows : List IntentRow} {r : IntentRow} (h : rows.Pairwise Compatible)
    (hr : ∀ x ∈ rows, x.id ≠ r.id → Compatible r x) : (putIntent rows r).Pairwise Compatible := by
  unfold putIntent
  rw [List.pairwise_map]
  refine h.imp_of_mem fun {a b} ha hb hab => ?_
  by_cases ha' : a.id = r.id
  · have hb' : b.id ≠ r.id := fun hb' => hab.id_ne (ha'.trans hb'.symm)
    rw [if_pos ha', if_neg hb']
    exact hr b hb hb'
  · rw [if_neg ha']
    by_cases hb' : b.id = r.id
    · rw [if_pos hb']
      exact compatible_comm (hr a ha ha')
    · rw [if_neg hb']
      exact hab

/-- **A row with the version that was read is the row that was read.** -/
theorem Snapshot.eq_of_version {db : MutationDb} (huniq : db.intents.Pairwise Compatible)
    {r old : IntentRow} (h : Snapshot db r) (hold : old ∈ db.intents) (hid : old.id = r.id)
    (hversion : old.stateVersion = r.stateVersion) : old = r := by
  obtain ⟨r', hr', hev⟩ := h
  obtain rfl := eq_of_id_eq huniq hold hr' (hid.trans hev.id_eq.symm)
  exact hev.same hversion

/-! ## Transactions -/

/-- The row a preparation leaves of the one it inserted. -/
def IntentRow.authorized (prepared : IntentRow) : IntentRow :=
  { prepared with status := .submitting, stateVersion := 2 }

/-- The parent marked as superseded. -/
def IntentRow.superseded (parent : IntentRow) (intentId : Uuid) : IntentRow :=
  parent.bumped { parent with supersededByIntentId := some intentId }

/-- The profile, the authorization and the retry of every event that cites an authorization. -/
def citations (db : MutationDb) : List (Uuid × String × Uuid) :=
  db.events.filterMap fun e => e.authorizationId.map fun a => (e.executionProfileId, a, e.intentId)

/-- A new intent and its reservation, as a preparation leaves them. -/
structure Authorized (db : MutationDb) (intent : IntentRow) (reservation : MutationReservationRow) :
    Prop where
  compatible : ∀ x ∈ db.intents, Compatible intent x
  checks : intent.checks = true
  status : intent.status = .submitting
  version : intent.stateVersion = 2
  unsuperseded : intent.supersededByIntentId = none
  intentId : reservation.intentId = intent.id
  profile : reservation.executionProfileId = intent.executionProfileId
  state : reservation.state = .reserved
  reservationChecks : reservation.checks = true

/-- The transitions the ledger makes. -/
inductive LedgerTransition : TransitionArgs → Prop
  | outcome (n : NormalizedSubmitOutcome) (h : n.Coherent) : LedgerTransition (outcomeTransition n)
  | resolution (r : ProviderResolution) (e : ProviderTerminalEvidence) (actor : String) :
    LedgerTransition (resolutionTransition r e actor)
  | recovery : LedgerTransition recoveryTransition

/-- A transition of a row and of its reservation. -/
structure Moved (db db' : MutationDb) (args : TransitionArgs) (now : ℤ) (old : IntentRow)
    (reservation : MutationReservationRow) : Prop where
  mem : old ∈ db.intents
  allowed : old.status.canBecome args.toState = true
  checks : (old.bumped (args.write now old)).checks = true
  compatible : ∀ x ∈ db.intents, x.id ≠ old.id → Compatible (old.bumped (args.write now old)) x
  intents : db'.intents = putIntent db.intents (old.bumped (args.write now old))
  found : db.getReservation old.id = some reservation
  reservationAllowed : reservation.state.canBecome args.reservationState = true
  reservations : db'.reservations = db.reservations.map fun x =>
    if x.intentId = old.id ∧ x.version = reservation.version then
      { reservation with
        state := args.reservationState
        requiresReconciliation := args.reservationState == .uncertain
        version := reservation.version + 1 }
    else x
  citations : citations db' = citations db

/-- What a committed step does. -/
inductive Change (db db' : MutationDb) : Prop
  | same (hintents : db'.intents = db.intents) (hreservations : db'.reservations = db.reservations)
      (hcitations : citations db' = citations db)
  | submitted (intent : IntentRow) (reservation : MutationReservationRow)
      (h : Authorized db intent reservation) (hparent : intent.parentIntentId = none)
      (hintents : db'.intents = db.intents ++ [intent])
      (hreservations : db'.reservations = db.reservations ++ [reservation])
      (hcitations : citations db' = citations db)
  | retried (parent intent : IntentRow) (reservation : MutationReservationRow)
      (authorizationId : String) (h : Authorized db intent reservation)
      (hmem : parent ∈ db.intents) (heligible : parent.retryEligible = true)
      (hunsuperseded : parent.supersededByIntentId = none)
      (hparent : intent.parentIntentId = some parent.id)
      (hroot : intent.rootIntentId = some parent.lineage)
      (hattempt : intent.attempt = parent.attempt + 1)
      (hprovider : intent.providerSlug = parent.providerSlug)
      (henvironment : intent.environment = parent.environment)
      (haccount : intent.accountRef = parent.accountRef)
      (hchecks : (parent.superseded intent.id).checks = true)
      (hcompatible : ∀ x ∈ db.intents ++ [intent], x.id ≠ parent.id →
        Compatible (parent.superseded intent.id) x)
      (hintents : db'.intents = putIntent db.intents (parent.superseded intent.id) ++ [intent])
      (hreservations : db'.reservations = db.reservations ++ [reservation])
      (hcitations : citations db' =
        citations db ++ [(intent.executionProfileId, authorizationId, intent.id)])
  | consumed (old : IntentRow) (hmem : old ∈ db.intents) (hstatus : old.status = .submitting)
      (hchecks : (old.bumped old).checks = true)
      (hcompatible : ∀ x ∈ db.intents, x.id ≠ old.id → Compatible (old.bumped old) x)
      (hintents : db'.intents = putIntent db.intents (old.bumped old))
      (hreservations : db'.reservations = db.reservations)
      (hcitations : citations db' = citations db)
  | moved (args : TransitionArgs) (now : ℤ) (old : IntentRow)
      (reservation : MutationReservationRow) (hargs : LedgerTransition args)
      (hopen : args.toState = .reconciled → old.status.terminal = false)
      (h : Moved db db' args now old reservation)

section Transactions

variable {env : MutationEnv} {values : StepValues} {db db' : MutationDb}

theorem authorizeIntent_ok {input : SubmitIntentInput} {ids : SubmitIds}
    {prepared intent : IntentRow} (hstatus : prepared.status = .prepared)
    (hversion : prepared.stateVersion = 1) (hsuperseded : prepared.supersededByIntentId = none)
    (h : authorizeIntent env input ids prepared values db = .ok (db', intent)) :
    intent = prepared.authorized ∧
      ∃ reservation, Authorized db intent reservation ∧
        db' = { db with
          intents := db.intents ++ [intent]
          reservations := db.reservations ++ [reservation] } := by
  unfold authorizeIntent at h
  obtain ⟨inserted, hinsert, h⟩ := Except.bind_ok_iff.mp h
  obtain ⟨-, hcompatible, rfl⟩ := insertIntent_ok.mp (liftDb_eq_ok.mp hinsert)
  obtain ⟨⟨intents, advanced⟩, hupdate, h⟩ := Except.bind_ok_iff.mp h
  cases advanced with
  | none => cases h
  | some new =>
    simp only at h
    cases hrisk : env.numericIn (input.monetaryRisk.getD "0") with
    | none =>
      rw [hrisk] at h
      cases h
    | some risk =>
      rw [hrisk] at h
      obtain ⟨reservations, hreserve, h⟩ := Except.bind_ok_iff.mp h
      cases h
      obtain ⟨hreservation, rfl⟩ := insertReservationRow_ok (liftDb_eq_ok.mp hreserve)
      obtain ⟨old, hold, hid, -, rfl, -, hchecks, hnew, rfl⟩ :=
        updateIntent_ok (liftDb_eq_ok.mp hupdate)
      have hne : ∀ x ∈ db.intents, x.id ≠ prepared.id := fun x hx =>
        (hcompatible x hx).id_ne.symm
      -- the row found is the one just inserted
      have hfound : old = prepared := by
        rcases List.mem_append.mp hold with hold | hold
        · exact absurd hid (hne old hold)
        · exact List.mem_singleton.mp hold
      subst hfound
      have hbumped : old.bumped { old with status := .submitting } = old.authorized := by
        simp [IntentRow.bumped, IntentRow.authorized, hversion]
      rw [hbumped] at hchecks hnew ⊢
      refine ⟨rfl, preparedReservation input old.authorized ids risk values, ?_, ?_⟩
      · exact
          { compatible := fun x hx => hnew x (List.mem_append_left _ hx) (hne x hx)
            checks := hchecks
            status := rfl
            version := rfl
            unsuperseded := hsuperseded
            intentId := rfl
            profile := rfl
            state := rfl
            reservationChecks := hreservation }
      · have hid : ∀ x ∈ db.intents, x.id ≠ old.authorized.id := hne
        rw [putIntent_append, putIntent_eq_self hid]
        simp [putIntent, IntentRow.authorized]

theorem prepareSubmitWrites_ok {input : SubmitIntentInput} {identity : SubmitIdentity}
    {b : SubmitBarrier} (h : prepareSubmitWrites env input identity values db = .ok (db', b)) :
    ∃ ids intent reservation, submitIds input = .ok ids ∧
      intent = (preparedIntent input identity ids none values).authorized ∧
      Authorized db intent reservation ∧ b = submitBarrier input intent ∧
      db' = { db with
        intents := db.intents ++ [intent]
        reservations := db.reservations ++ [reservation]
        events := db.events ++ [mutationEvent intent none .prepared none none,
          mutationEvent intent (some .prepared) .submitting none none] } := by
  unfold prepareSubmitWrites at h
  obtain ⟨ids, hids, h⟩ := Except.bind_ok_iff.mp h
  obtain ⟨⟨db₁, intent⟩, hauth, h⟩ := Except.bind_ok_iff.mp h
  cases h
  obtain ⟨hintent, reservation, hauthorized, rfl⟩ := authorizeIntent_ok rfl rfl rfl hauth
  exact ⟨ids, intent, reservation, hids, hintent, hauthorized, rfl, rfl⟩

theorem prepareSubmitWrites_change {input : SubmitIntentInput} {identity : SubmitIdentity}
    {b : SubmitBarrier} (h : prepareSubmitWrites env input identity values db = .ok (db', b)) :
    Change db db' := by
  obtain ⟨ids, intent, reservation, -, rfl, hauthorized, -, rfl⟩ := prepareSubmitWrites_ok h
  exact .submitted _ reservation hauthorized rfl rfl rfl (by simp [citations, mutationEvent])

theorem consumeSubmitBarrier_ok {b : SubmitBarrier} (h : consumeSubmitBarrier b db = .ok db') :
    ∃ p old, b.params = some p ∧ old ∈ db.intents ∧ old.id = p.intentId ∧ b.claims p old = true ∧
      (old.bumped old).checks = true ∧
      (∀ x ∈ db.intents, x.id ≠ old.id → Compatible (old.bumped old) x) ∧
      db' = { db with
        intents := putIntent db.intents (old.bumped old)
        events := db.events ++ [mutationEvent (old.bumped old) (some .submitting) .submitting none
          (some old.stateVersion)] } := by
  unfold consumeSubmitBarrier at h
  simp only at h
  cases hp : b.params with
  | none => simp [hp] at h
  | some p =>
    simp only [hp] at h
    split at h
    · cases h
    · cases h
    · rename_i intents intent hupdate
      cases h
      obtain ⟨old, hold, hid, hclaims, rfl, -, hchecks, hnew, rfl⟩ := updateIntent_ok hupdate
      refine ⟨p, old, rfl, hold, hid, hclaims, hchecks, fun x hx hne => hnew x hx (hid ▸ hne), ?_⟩
      simp [IntentRow.bumped]

theorem claims_status {b : SubmitBarrier} {p : BarrierParams} {r : IntentRow}
    (h : b.claims p r = true) : r.status = .submitting := by
  simp only [SubmitBarrier.claims, Bool.and_eq_true, beq_iff_eq] at h
  tauto

theorem consumeSubmitBarrier_change {b : SubmitBarrier}
    (h : consumeSubmitBarrier b db = .ok db') : Change db db' := by
  obtain ⟨p, old, -, hold, -, hclaims, hchecks, hnew, rfl⟩ := consumeSubmitBarrier_ok h
  exact .consumed old hold (claims_status hclaims) hchecks hnew rfl rfl
    (by simp [citations, mutationEvent])

theorem persistReceipt_change {b : SubmitBarrier} {n : NormalizedSubmitOutcome}
    (h : persistReceipt b n values db = .ok db') : Change db db' := by
  unfold persistReceipt at h
  obtain ⟨id, -, h⟩ := Except.bind_ok_iff.mp h
  obtain ⟨receipts, -, h⟩ := Except.bind_ok_iff.mp h
  cases h
  exact .same rfl rfl rfl

theorem transitionIntent_ok {intent : IntentRow} {args : TransitionArgs} {now : ℤ}
    {state : ProviderReservationState}
    (h : transitionIntent intent args now db = .ok (db', state)) :
    ∃ old reservation, old.id = intent.id ∧ old.stateVersion = intent.stateVersion ∧
      Moved db db' args now old reservation ∧ state = args.reservationState ∧
      db'.receipts = db.receipts := by
  unfold transitionIntent at h
  simp only at h
  split at h
  · cases h
  obtain ⟨⟨intents, written⟩, hupdate, h⟩ := Except.bind_ok_iff.mp h
  cases written with
  | none => cases h
  | some new =>
    simp only at h
    cases hres : db.getReservation intent.id with
    | none =>
      rw [hres] at h
      cases h
    | some reservation =>
      rw [hres] at h
      obtain ⟨reservations, hreserve, h⟩ := Except.bind_ok_iff.mp h
      cases h
      obtain ⟨old, hold, hid, hversion, rfl, hcan, hchecks, hnew, rfl⟩ :=
        updateIntent_ok (liftDb_eq_ok.mp hupdate)
      obtain ⟨hrescan, rfl⟩ := updateReservation_ok hres (liftDb_eq_ok.mp hreserve)
      rw [← hid] at hres hnew
      refine ⟨old, reservation, hid, by simpa using hversion, ?_, rfl, rfl⟩
      exact
        { mem := hold
          allowed := hcan
          checks := hchecks
          compatible := hnew
          intents := rfl
          found := hres
          reservationAllowed := hrescan
          reservations := by rw [hid]
          citations := by simp [citations, mutationEvent] }

/-- What a parent was found to be before its retry is written. -/
structure RetryReady (input : RetryIntentInput) (parent : IntentRow) : Prop where
  eligible : parent.retryEligible = true
  providerSlug : input.base.providerSlug = parent.providerSlug
  environment : input.base.environment = parent.environment
  accountRef : input.base.accountRef = parent.accountRef

theorem retryLineageReads_ok {input : RetryIntentInput} {root : Uuid} {parent : IntentRow}
    (h : retryLineageReads input root parent db = .ok ()) : RetryReady input parent := by
  unfold retryLineageReads at h
  obtain ⟨_, -, h⟩ := Except.bind_ok_iff.mp h
  obtain ⟨_, heligible, h⟩ := Except.bind_ok_iff.mp h
  obtain ⟨_, hbinding, -⟩ := Except.bind_ok_iff.mp h
  unfold assertEligibleParent at heligible
  unfold assertRetryBinding at hbinding
  split at heligible
  · cases heligible
  split at heligible
  · cases heligible
  rename_i hretry
  split at hbinding
  · cases hbinding
  rename_i hkept
  push Not at hkept
  exact ⟨by simpa using hretry, hkept.1, hkept.2.1, hkept.2.2⟩

theorem supersedeParent_ok {parent : IntentRow} {intentId : Uuid}
    (h : supersedeParent parent intentId db = .ok db') :
    ∃ old ∈ db.intents, old.id = parent.id ∧ old.stateVersion = parent.stateVersion ∧
      old.supersededByIntentId = none ∧ (old.superseded intentId).checks = true ∧
      (∀ x ∈ db.intents, x.id ≠ parent.id → Compatible (old.superseded intentId) x) ∧
      db' = { db with intents := putIntent db.intents (old.superseded intentId) } := by
  unfold supersedeParent at h
  obtain ⟨⟨intents, written⟩, hupdate, h⟩ := Except.bind_ok_iff.mp h
  cases written with
  | none => cases h
  | some new =>
    cases h
    obtain ⟨old, hold, hid, hguard, rfl, -, hchecks, hnew, rfl⟩ :=
      updateIntent_ok (liftDb_eq_ok.mp hupdate)
    simp only [Bool.and_eq_true, Option.isNone_iff_eq_none, beq_iff_eq] at hguard
    exact ⟨old, hold, hid, hguard.2, hguard.1, hchecks, hnew, rfl⟩

theorem parent_ne_of_checks {r : IntentRow} {p : Uuid} (hchecks : r.checks = true)
    (hparent : r.parentIntentId = some p) : p ≠ r.id := by
  have hlineage : r.lineageCheck = true := by
    simp only [IntentRow.checks, Bool.and_eq_true] at hchecks
    exact hchecks.2
  simp only [IntentRow.lineageCheck, hparent] at hlineage
  simp at hlineage
  tauto

theorem prepareRetryWrites_ok {input : RetryIntentInput} {identity : SubmitIdentity}
    {parent : IntentRow} {b : SubmitBarrier} (huniq : db.intents.Pairwise Compatible)
    (hsnapshot : Snapshot db parent)
    (h : prepareRetryWrites env input identity parent values db = .ok (db', b)) :
    ∃ ids intent reservation, submitIds (retryBase input parent) = .ok ids ∧
      intent = (preparedIntent (retryBase input parent) identity ids (some parent)
        values).authorized ∧
      Authorized db intent reservation ∧ parent ∈ db.intents ∧
      parent.supersededByIntentId = none ∧ (parent.superseded intent.id).checks = true ∧
      (∀ x ∈ db.intents ++ [intent], x.id ≠ parent.id →
        Compatible (parent.superseded intent.id) x) ∧
      b = submitBarrier (retryBase input parent) intent ∧
      db' = { db with
        intents := putIntent db.intents (parent.superseded intent.id) ++ [intent]
        reservations := db.reservations ++ [reservation]
        events := db.events ++ [mutationEvent intent none .prepared none none,
          mutationEvent intent (some .prepared) .submitting (some input.authorizationId) none] } := by
  unfold prepareRetryWrites at h
  simp only at h
  obtain ⟨ids, hids, h⟩ := Except.bind_ok_iff.mp h
  obtain ⟨⟨db₁, intent⟩, hauth, h⟩ := Except.bind_ok_iff.mp h
  obtain ⟨db₂, hsup, h⟩ := Except.bind_ok_iff.mp h
  cases h
  obtain ⟨hintent, reservation, hauthorized, rfl⟩ := authorizeIntent_ok rfl rfl rfl hauth
  obtain ⟨old, hold, hid, hversion, hnone, hchecks, hnew, rfl⟩ := supersedeParent_ok hsup
  have hne : parent.id ≠ intent.id :=
    parent_ne_of_checks hauthorized.checks (by rw [hintent]; rfl)
  have hmem : old ∈ db.intents := by
    rcases List.mem_append.mp hold with hold | hold
    · exact hold
    · rw [List.mem_singleton.mp hold] at hid
      exact absurd hid.symm hne
  obtain rfl := hsnapshot.eq_of_version huniq hmem hid hversion
  refine ⟨ids, intent, reservation, hids, hintent, hauthorized, hmem, hnone, hchecks, hnew, rfl, ?_⟩
  have hput : putIntent [intent] (old.superseded intent.id) = [intent] := by
    refine putIntent_eq_self fun x hx => ?_
    rw [List.mem_singleton.mp hx]
    exact hne.symm
  simp only [putIntent_append, hput]

theorem prepareRetryWrites_change {input : RetryIntentInput} {identity : SubmitIdentity}
    {parent : IntentRow} {b : SubmitBarrier} (huniq : db.intents.Pairwise Compatible)
    (hsnapshot : Snapshot db parent) (hready : RetryReady input parent)
    (h : prepareRetryWrites env input identity parent values db = .ok (db', b)) :
    Change db db' := by
  obtain ⟨ids, intent, reservation, hids, rfl, hauthorized, hmem, hnone, hchecks, hnew, -, rfl⟩ :=
    prepareRetryWrites_ok huniq hsnapshot h
  exact .retried parent _ reservation input.authorizationId hauthorized hmem hready.eligible hnone
    rfl rfl rfl hready.providerSlug hready.environment hready.accountRef hchecks hnew rfl rfl
    (by simp [citations, mutationEvent])

theorem transitionIntent_moved {intent : IntentRow} {args : TransitionArgs} {now : ℤ}
    {state : ProviderReservationState} (huniq : db.intents.Pairwise Compatible)
    (hsnapshot : Snapshot db intent)
    (h : transitionIntent intent args now db = .ok (db', state)) :
    ∃ reservation, Moved db db' args now intent reservation ∧ db'.receipts = db.receipts := by
  obtain ⟨old, reservation, hid, hversion, hmoved, -, hreceipts⟩ := transitionIntent_ok h
  obtain rfl := hsnapshot.eq_of_version huniq hmoved.mem hid hversion
  exact ⟨reservation, hmoved, hreceipts⟩

theorem transitionIntent_change {intent : IntentRow} {args : TransitionArgs} {now : ℤ}
    {state : ProviderReservationState} (huniq : db.intents.Pairwise Compatible)
    (hsnapshot : Snapshot db intent) (hargs : LedgerTransition args)
    (hopen : args.toState = .reconciled → intent.status.terminal = false)
    (h : transitionIntent intent args now db = .ok (db', state)) : Change db db' := by
  obtain ⟨reservation, hmoved, -⟩ := transitionIntent_moved huniq hsnapshot h
  exact .moved args now intent reservation hargs hopen hmoved

theorem insertResolution_ok {row : ResolutionRow} (h : insertResolution row db = .ok db') :
    row.checks = true ∧ db' = { db with resolutions := db.resolutions ++ [row] } := by
  unfold insertResolution at h
  split at h
  · cases h
  · rename_i hchecks
    exact ⟨by simpa using hchecks, (Except.ok.inj h).symm⟩

theorem Change.congr {db₁ db₂ : MutationDb} (h : Change db db₁)
    (hintents : db₂.intents = db₁.intents) (hreservations : db₂.reservations = db₁.reservations)
    (hevents : db₂.events = db₁.events) : Change db db₂ := by
  have hcitations : citations db₂ = citations db₁ := by simp only [citations, hevents]
  cases h with
  | same hi hr hc => exact .same (hintents.trans hi) (hreservations.trans hr) (hcitations.trans hc)
  | submitted intent reservation ha hp hi hr hc =>
    exact .submitted intent reservation ha hp (hintents.trans hi) (hreservations.trans hr)
      (hcitations.trans hc)
  | retried parent intent reservation a ha hm he hs hp hro hat hpr hen hac hch hco hi hr hc =>
    exact .retried parent intent reservation a ha hm he hs hp hro hat hpr hen hac hch hco
      (hintents.trans hi) (hreservations.trans hr) (hcitations.trans hc)
  | consumed old hm hs hch hco hi hr hc =>
    exact .consumed old hm hs hch hco (hintents.trans hi) (hreservations.trans hr)
      (hcitations.trans hc)
  | moved args now old reservation hargs hopen hmoved =>
    exact .moved args now old reservation hargs hopen
      { hmoved with
        intents := hintents.trans hmoved.intents
        reservations := hreservations.trans hmoved.reservations
        citations := hcitations.trans hmoved.citations }

theorem resolutionWrites_ok {intent : IntentRow} {input : OperatorResolutionInput}
    (h : resolutionWrites intent input values db = .ok db') :
    ∃ db₁ state row, transitionIntent intent
        (resolutionTransition input.resolution input.evidence input.actor) values.now db =
          .ok (db₁, state) ∧
      db' = { db₁ with resolutions := db₁.resolutions ++ [row] } := by
  unfold resolutionWrites at h
  obtain ⟨⟨db₁, state⟩, htransition, h⟩ := Except.bind_ok_iff.mp h
  obtain ⟨resolvedBy, -, h⟩ := Except.bind_ok_iff.mp h
  obtain ⟨-, rfl⟩ := insertResolution_ok h
  exact ⟨db₁, state, _, htransition, rfl⟩

theorem resolutionWrites_change {intent : IntentRow} {input : OperatorResolutionInput}
    (huniq : db.intents.Pairwise Compatible) (hsnapshot : Snapshot db intent)
    (hopen : intent.status.terminal = false)
    (h : resolutionWrites intent input values db = .ok db') : Change db db' := by
  obtain ⟨db₁, state, row, htransition, rfl⟩ := resolutionWrites_ok h
  exact (transitionIntent_change huniq hsnapshot (.resolution _ _ _) (fun _ => hopen)
    htransition).congr rfl rfl rfl

theorem observationWrites_ok {intent : IntentRow} {input : ReconciliationObservationInput}
    {resolution : Option ProviderResolution}
    (h : observationWrites intent input values db = .ok (db', resolution)) :
    ∃ observation, (resolution = none ∧
        db' = { db with observations := db.observations ++ [observation] }) ∨
      ∃ r db₁ state row, resolution = some r ∧ appliedResolution intent input = some r ∧
        transitionIntent intent (resolutionTransition r .reconciliationVerified
            (input.actor.getD "system:reconciliation")) values.now
          { db with observations := db.observations ++ [observation] } = .ok (db₁, state) ∧
        db' = { db₁ with resolutions := db₁.resolutions ++ [row] } := by
  unfold observationWrites at h
  simp only at h
  split at h
  · cases h
  cases happlied : appliedResolution intent input with
  | none =>
    simp only [happlied] at h
    cases h
    exact ⟨_, .inl ⟨rfl, rfl⟩⟩
  | some r =>
    simp only [happlied] at h
    split at h
    · cases h
      exact ⟨_, .inl ⟨rfl, rfl⟩⟩
    · obtain ⟨db₂, happly, h⟩ := Except.bind_ok_iff.mp h
      cases h
      unfold applyObservation at happly
      obtain ⟨⟨db₁, state⟩, htransition, hinsert⟩ := Except.bind_ok_iff.mp happly
      obtain ⟨-, rfl⟩ := insertResolution_ok hinsert
      exact ⟨_, .inr ⟨r, db₁, state, _, rfl, rfl, htransition, rfl⟩⟩

theorem appliedResolution_some {intent : IntentRow} {input : ReconciliationObservationInput}
    {r : ProviderResolution} (h : appliedResolution intent input = some r) :
    intent.status.terminal = false ∧ observedResolution input = some r := by
  unfold appliedResolution at h
  split at h
  · cases h
  · rename_i hterminal
    exact ⟨by simpa using hterminal, h⟩

theorem observationWrites_change {intent : IntentRow} {input : ReconciliationObservationInput}
    {resolution : Option ProviderResolution} (huniq : db.intents.Pairwise Compatible)
    (hsnapshot : Snapshot db intent)
    (h : observationWrites intent input values db = .ok (db', resolution)) : Change db db' := by
  obtain ⟨observation, ⟨-, rfl⟩ | ⟨r, db₁, state, row, -, happlied, htransition, rfl⟩⟩ :=
    observationWrites_ok h
  · exact .same rfl rfl rfl
  · have hopen := (appliedResolution_some happlied).1
    have hsnapshot : Snapshot { db with observations := db.observations ++ [observation] } intent :=
      hsnapshot
    obtain ⟨reservation, hmoved, -⟩ := transitionIntent_moved (by exact huniq) hsnapshot htransition
    refine .moved _ values.now intent reservation
      (.resolution r .reconciliationVerified (input.actor.getD "system:reconciliation"))
      (fun _ => hopen) ?_
    exact
      { mem := hmoved.mem
        allowed := hmoved.allowed
        checks := hmoved.checks
        compatible := hmoved.compatible
        intents := hmoved.intents
        found := hmoved.found
        reservationAllowed := hmoved.reservationAllowed
        reservations := hmoved.reservations
        citations := hmoved.citations }

/-! ## Rows under a change -/

theorem putIntent_evolves {old new : IntentRow} (huniq : db.intents.Pairwise Compatible)
    (hmem : old ∈ db.intents) (hev : Evolves old new) :
    ∀ r ∈ db.intents, Evolves r (if r.id = new.id then new else r) := by
  intro r hr
  split
  · rename_i hid
    obtain rfl := eq_of_id_eq huniq hr hmem (hid.trans hev.id_eq)
    exact hev
  · exact .refl r

theorem superseded_evolves {parent : IntentRow} (h : parent.supersededByIntentId = none) (id : Uuid) :
    Evolves parent (parent.superseded id) :=
  evolves_bumped rfl (fun _ => ⟨rfl, fun _ => rfl⟩) fun hsome => absurd h hsome

theorem consumed_evolves (old : IntentRow) : Evolves old (old.bumped old) :=
  evolves_bumped rfl (fun _ => ⟨rfl, fun _ => rfl⟩) fun _ => rfl

theorem canBecome_terminal {a b : ProviderIntentState} (h : a.canBecome b = true)
    (hterminal : a.terminal = true) : b = a := by
  cases a <;> cases b <;> simp_all [ProviderIntentState.canBecome, ProviderIntentState.terminal]

theorem Moved.evolves {args : TransitionArgs} {now : ℤ} {old : IntentRow}
    {reservation : MutationReservationRow} (h : Moved db db' args now old reservation)
    (hopen : args.toState = .reconciled → old.status.terminal = false) :
    Evolves old (old.bumped (args.write now old)) := by
  refine evolves_bumped rfl (fun hterminal => ?_) fun _ => rfl
  have hto : args.toState = old.status := canBecome_terminal h.allowed hterminal
  refine ⟨hto, fun hreconciled => ?_⟩
  rw [hopen (hto.trans hreconciled)] at hterminal
  cases hterminal

/-- **After a change every row is there, evolved, in its place; new rows follow.** -/
theorem Change.rows (h : Change db db') (huniq : db.intents.Pairwise Compatible) :
    ∃ f added, db'.intents = db.intents.map f ++ added ∧ (∀ r ∈ db.intents, Evolves r (f r)) ∧
      ∀ r ∈ added, r.status = .submitting ∧ r.stateVersion = 2 ∧ r.checks = true := by
  cases h with
  | same hintents _ _ =>
    exact ⟨id, [], by simpa using hintents, fun r _ => .refl r, by simp⟩
  | submitted intent reservation hauth _ hintents _ _ =>
    exact ⟨id, [intent], by simpa using hintents, fun r _ => .refl r,
      by simpa using ⟨hauth.status, hauth.version, hauth.checks⟩⟩
  | retried parent intent reservation a hauth hmem _ hsuperseded _ _ _ _ _ _ _ _ hintents _ _ =>
    exact ⟨_, [intent], hintents,
      putIntent_evolves huniq hmem (superseded_evolves hsuperseded intent.id),
      by simpa using ⟨hauth.status, hauth.version, hauth.checks⟩⟩
  | consumed old hmem _ _ _ hintents _ _ =>
    exact ⟨_, [], by rw [List.append_nil]; exact hintents,
      putIntent_evolves huniq hmem (consumed_evolves old), by simp⟩
  | moved args now old reservation _ hopen hmoved =>
    exact ⟨_, [], by rw [List.append_nil]; exact hmoved.intents,
      putIntent_evolves huniq hmoved.mem (hmoved.evolves hopen), by simp⟩

theorem Change.snapshot (h : Change db db') (huniq : db.intents.Pairwise Compatible)
    {r : IntentRow} (hr : Snapshot db r) : Snapshot db' r := by
  obtain ⟨f, added, hintents, hev, -⟩ := h.rows huniq
  obtain ⟨r', hr', hevolves⟩ := hr
  refine ⟨f r', ?_, hevolves.trans (hev r' hr')⟩
  rw [hintents]
  exact List.mem_append_left _ (List.mem_map_of_mem hr')

theorem Change.length_le (h : Change db db') (huniq : db.intents.Pairwise Compatible) :
    db.intents.length ≤ db'.intents.length := by
  obtain ⟨f, added, hintents, -, -⟩ := h.rows huniq
  simp [hintents]

theorem Change.origin (h : Change db db') (huniq : db.intents.Pairwise Compatible)
    {r' : IntentRow} (hr' : r' ∈ db'.intents) :
    (∃ r ∈ db.intents, Evolves r r') ∨ (r'.status = .submitting ∧ r'.stateVersion = 2) := by
  obtain ⟨f, added, hintents, hev, hadded⟩ := h.rows huniq
  rw [hintents] at hr'
  rcases List.mem_append.mp hr' with hr' | hr'
  · obtain ⟨r, hr, rfl⟩ := List.mem_map.mp hr'
    exact .inl ⟨r, hr, hev r hr⟩
  · obtain ⟨hstatus, hversion, -⟩ := hadded r' hr'
    exact .inr ⟨hstatus, hversion⟩

theorem Change.compatible (h : Change db db') (huniq : db.intents.Pairwise Compatible) :
    db'.intents.Pairwise Compatible := by
  cases h with
  | same hintents _ _ => rwa [hintents]
  | submitted intent reservation hauth _ hintents _ _ =>
    rw [hintents]
    exact List.pairwise_append.mpr ⟨huniq, List.pairwise_singleton _ _,
      fun x hx y hy => List.mem_singleton.mp hy ▸ compatible_comm (hauth.compatible x hx)⟩
  | retried parent intent reservation a hauth hmem _ _ hparent _ _ _ _ _ _ hcompatible hintents _ _ =>
    have hne : intent.id ≠ parent.id := (hauth.compatible parent hmem).id_ne
    rw [hintents]
    refine List.pairwise_append.mpr ⟨pairwise_putIntent huniq fun x hx => ?_,
      List.pairwise_singleton _ _, fun x hx y hy => ?_⟩
    · exact hcompatible x (List.mem_append_left _ hx)
    · rw [List.mem_singleton.mp hy]
      rcases mem_putIntent hx with rfl | ⟨hx, -⟩
      · exact hcompatible intent (by simp) hne
      · exact compatible_comm (hauth.compatible x hx)
  | consumed old _ _ _ hcompatible hintents _ _ =>
    rw [hintents]
    exact pairwise_putIntent huniq hcompatible
  | moved args now old reservation _ _ hmoved =>
    rw [hmoved.intents]
    exact pairwise_putIntent huniq hmoved.compatible

end Transactions

end VeltrixEye
