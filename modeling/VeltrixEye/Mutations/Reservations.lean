import VeltrixEye.Mutations.Barriers

/-!
# Reservations follow their intents

Every intent has one reservation, inserted with it, and every transition writes both rows.  The
reservation's own update is guarded by its version and its row count is not looked at; it finds its
row because the version is read in the same transaction.
-/

namespace VeltrixEye

/-- The reservation state that goes with an intent. -/
def IntentRow.reservationState (r : IntentRow) : ProviderReservationState :=
  match r.status with
  | .prepared | .submitting => .reserved
  | .uncertain => .uncertain
  | .confirmed => .knownCompleted
  | .rejected => .knownRejected
  | .reconciled =>
    if r.resolution = some .providerAccepted then .knownCompleted else .knownRejected

/-- The reservation of an intent. -/
structure Agrees (r : IntentRow) (v : MutationReservationRow) : Prop where
  profile : v.executionProfileId = r.executionProfileId
  state : v.state = r.reservationState
  checks : v.checks = true

theorem Agrees.requires {r : IntentRow} {v : MutationReservationRow} (h : Agrees r v) :
    v.requiresReconciliation = (v.state == .uncertain) := by
  have hchecks := h.checks
  simp only [MutationReservationRow.checks, Bool.and_eq_true, beq_iff_eq] at hchecks
  exact hchecks.2

/-- The two tables agree, row by row. -/
structure ReservationRows (intents : List IntentRow) (reservations : List MutationReservationRow) :
    Prop where
  ids : reservations.map (·.intentId) = intents.map (·.id)
  agrees : ∀ r ∈ intents, ∀ v ∈ reservations, v.intentId = r.id → Agrees r v

/-! ## Changes -/

section Changes

variable {db db' : MutationDb} {intents : List IntentRow}
  {reservations : List MutationReservationRow}

theorem map_id_putIntent (rows : List IntentRow) (new : IntentRow) :
    (putIntent rows new).map (·.id) = rows.map (·.id) := by
  rw [putIntent, List.map_map]
  refine List.map_congr_left fun x _ => ?_
  by_cases h : x.id = new.id <;> simp [h]

theorem ReservationRows.put (h : ReservationRows intents reservations) (new : IntentRow)
    {old : IntentRow} (hmem : old ∈ intents) (hid : new.id = old.id)
    (hprofile : new.executionProfileId = old.executionProfileId)
    (hstate : new.reservationState = old.reservationState) :
    ReservationRows (putIntent intents new) reservations := by
  refine ⟨by rw [map_id_putIntent, h.ids], fun r hr v hv hvid => ?_⟩
  rcases mem_putIntent hr with rfl | ⟨hr, -⟩
  · obtain ⟨hp, hs, hc⟩ := h.agrees old hmem v hv (hvid.trans hid)
    exact ⟨hp.trans hprofile.symm, hs.trans hstate.symm, hc⟩
  · exact h.agrees r hr v hv hvid

theorem ReservationRows.mem_id (h : ReservationRows intents reservations)
    {v : MutationReservationRow} (hv : v ∈ reservations) : ∃ r ∈ intents, r.id = v.intentId := by
  have hmem : v.intentId ∈ reservations.map (·.intentId) := List.mem_map_of_mem hv
  rw [h.ids] at hmem
  exact List.mem_map.mp hmem

theorem ReservationRows.add (h : ReservationRows intents reservations) {intent : IntentRow}
    {reservation : MutationReservationRow} (hnew : ∀ x ∈ intents, x.id ≠ intent.id)
    (hid : reservation.intentId = intent.id) (hagrees : Agrees intent reservation) :
    ReservationRows (intents ++ [intent]) (reservations ++ [reservation]) := by
  refine ⟨by simp [h.ids, hid], fun r hr v hv hvid => ?_⟩
  rcases List.mem_append.mp hr with hr | hr
  · rcases List.mem_append.mp hv with hv | hv
    · exact h.agrees r hr v hv hvid
    · rw [List.mem_singleton.mp hv, hid] at hvid
      exact absurd hvid.symm (hnew r hr)
  · rw [List.mem_singleton.mp hr] at hvid ⊢
    rcases List.mem_append.mp hv with hv | hv
    · obtain ⟨x, hx, hxid⟩ := h.mem_id hv
      exact absurd (hxid.trans hvid) (hnew x hx)
    · rw [List.mem_singleton.mp hv]
      exact hagrees

theorem Authorized.agrees {intent : IntentRow} {reservation : MutationReservationRow}
    (h : Authorized db intent reservation) : Agrees intent reservation :=
  ⟨h.profile, by rw [h.state, IntentRow.reservationState, h.status], h.reservationChecks⟩

theorem LedgerTransition.reservationState_eq {args : TransitionArgs} (h : LedgerTransition args)
    (now : ℤ) (old : IntentRow) :
    (old.bumped (args.write now old)).reservationState = args.reservationState := by
  cases h with
  | outcome n _ =>
    cases ho : n.outcome <;>
      simp [IntentRow.reservationState, IntentRow.bumped, TransitionArgs.write,
        TransitionArgs.reservationState, outcomeTransition, ho]
  | resolution r e actor =>
    cases r <;>
      simp [IntentRow.reservationState, IntentRow.bumped, TransitionArgs.write,
        TransitionArgs.reservationState, resolutionTransition]
  | recovery =>
    simp [IntentRow.reservationState, IntentRow.bumped, TransitionArgs.write,
      TransitionArgs.reservationState, recoveryTransition]

theorem ReservationRows.unique (h : ReservationRows intents reservations)
    (huniq : intents.Pairwise Compatible) {v v' : MutationReservationRow} (hv : v ∈ reservations)
    (hv' : v' ∈ reservations) (hid : v.intentId = v'.intentId) : v = v' := by
  have hnodup : (reservations.map (·.intentId)).Nodup := by
    rw [h.ids]
    exact List.pairwise_map.mpr (huniq.imp fun hab => Compatible.id_ne hab)
  exact List.inj_on_of_nodup_map hnodup hv hv' hid

theorem getReservation_some {id : Uuid} {v : MutationReservationRow}
    (h : db.getReservation id = some v) : v ∈ db.reservations ∧ v.intentId = id :=
  ⟨List.mem_of_find?_eq_some h, by simpa using List.find?_some h⟩

theorem Moved.reservationRows {args : TransitionArgs} {now : ℤ} {old : IntentRow}
    {reservation : MutationReservationRow} (hmoved : Moved db db' args now old reservation)
    (hargs : LedgerTransition args) (huniq : db.intents.Pairwise Compatible)
    (h : ReservationRows db.intents db.reservations) :
    ReservationRows db'.intents db'.reservations := by
  obtain ⟨hmem, hid⟩ := getReservation_some hmoved.found
  -- the update's own version guard holds of the row just read
  have hfound : ∀ v ∈ db.reservations, v.intentId = old.id → v = reservation := fun v hv hvid =>
    h.unique huniq hv hmem (hvid.trans hid.symm)
  obtain ⟨hprofile, -, hchecks⟩ := h.agrees old hmoved.mem reservation hmem hid
  have hsame : ∀ v ∈ db.reservations, ∀ v', v' = (if v.intentId = old.id ∧
      v.version = reservation.version then
        { reservation with
          state := args.reservationState
          requiresReconciliation := args.reservationState == .uncertain
          version := reservation.version + 1 }
      else v) → v'.intentId = v.intentId := by
    rintro v hv v' rfl
    split
    · rename_i hguard
      exact hid.trans hguard.1.symm
    · rfl
  refine ⟨?_, fun r hr v hv hvid => ?_⟩
  · rw [hmoved.intents, map_id_putIntent, hmoved.reservations, List.map_map, ← h.ids]
    exact List.map_congr_left fun v hv => hsame v hv _ rfl
  · rw [hmoved.reservations] at hv
    obtain ⟨u, hu, rfl⟩ := List.mem_map.mp hv
    rw [hsame u hu _ rfl] at hvid
    rw [hmoved.intents] at hr
    rcases mem_putIntent hr with rfl | ⟨hr, hne⟩
    · have hu' := hfound u hu hvid
      rw [if_pos ⟨hvid, by rw [hu']⟩]
      refine ⟨hprofile, (hargs.reservationState_eq now old).symm, ?_⟩
      simp only [MutationReservationRow.checks, Bool.and_eq_true] at hchecks ⊢
      exact ⟨hchecks.1, by simp⟩
    · rw [if_neg fun hguard => hne (hvid.symm.trans hguard.1)]
      exact h.agrees r hr u hu hvid

/-- **Every change keeps the two tables in agreement.** -/
theorem reservationRows_change (huniq : db.intents.Pairwise Compatible) (hchange : Change db db')
    (h : ReservationRows db.intents db.reservations) :
    ReservationRows db'.intents db'.reservations := by
  cases hchange with
  | same hintents hreservations _ => rwa [hintents, hreservations]
  | submitted intent reservation hauth _ hintents hreservations _ =>
    rw [hintents, hreservations]
    exact h.add (fun x hx => (hauth.compatible x hx).id_ne.symm) hauth.intentId hauth.agrees
  | retried parent intent reservation a hauth hmem _ _ _ _ _ _ _ _ _ _ hintents hreservations _ =>
    rw [hintents, hreservations]
    refine (h.put (parent.superseded intent.id) hmem rfl rfl rfl).add (fun x hx => ?_)
      hauth.intentId hauth.agrees
    rcases mem_putIntent hx with rfl | ⟨hx, -⟩
    · exact (hauth.compatible parent hmem).id_ne.symm
    · exact (hauth.compatible x hx).id_ne.symm
  | consumed old hmem _ _ _ hintents hreservations _ =>
    rw [hintents, hreservations]
    exact h.put (old.bumped old) hmem rfl rfl rfl
  | moved args now old reservation hargs _ hmoved => exact hmoved.reservationRows hargs huniq h

end Changes

/-! ## Transitions that are refused -/

section Transitions

variable {db : MutationDb} {args : TransitionArgs}

theorem LedgerTransition.coherent (h : LedgerTransition args) (now : ℤ) (old : IntentRow) :
    (old.bumped (args.write now old)).coherent = true := by
  cases h with
  | outcome n _ =>
    cases ho : n.outcome <;>
      simp [IntentRow.coherent, IntentRow.bumped, TransitionArgs.write, outcomeTransition, ho,
        ProviderIntentState.terminal]
  | resolution r e actor =>
    cases r <;>
      simp [IntentRow.coherent, IntentRow.bumped, TransitionArgs.write, resolutionTransition,
        ProviderIntentState.terminal]
  | recovery =>
    simp [IntentRow.coherent, IntentRow.bumped, TransitionArgs.write, recoveryTransition,
      ProviderIntentState.terminal]

theorem LedgerTransition.checks (h : LedgerTransition args) (now : ℤ) {old : IntentRow}
    (hold : old.checks = true) : (old.bumped (args.write now old)).checks = true := by
  have hcoherent := h.coherent now old
  unfold IntentRow.checks at hold ⊢
  rw [hcoherent]
  simp only [Bool.and_eq_true, Bool.and_true] at hold ⊢
  exact ⟨hold.1.1, hold.2⟩

theorem live_of_written (now : ℤ) {old : IntentRow}
    (hallowed : old.status.canBecome args.toState = true)
    (hopen : args.toState = .reconciled → old.status.terminal = false)
    (hlive : (old.bumped (args.write now old)).live = true) : old.live = true := by
  have hrefuse : old.status = .rejected ∨ old.status = .reconciled → False := by
    intro hclosed
    have hterminal : old.status.terminal = true := by
      rcases hclosed with hs | hs <;> rw [hs] <;> rfl
    have hto : args.toState = old.status := canBecome_terminal hallowed hterminal
    rcases hclosed with hs | hs
    · simp [IntentRow.live, IntentRow.bumped, TransitionArgs.write, hto, hs] at hlive
    · rw [hopen (hto.trans hs)] at hterminal
      cases hterminal
  unfold IntentRow.live
  cases hs : old.status with
  | rejected => exact (hrefuse (.inl hs)).elim
  | reconciled => exact (hrefuse (.inr hs)).elim
  | _ => rfl

theorem compatible_written {old x : IntentRow} (now : ℤ) (h : Compatible old x)
    (hlive : (old.bumped (args.write now old)).live = true → old.live = true) :
    Compatible (old.bumped (args.write now old)) x := by
  intro ix
  cases ix with
  | orderLive =>
    have hold := h .orderLive
    by_contra hcollide
    have hcollide : IntentIndex.collide (old.bumped (args.write now old)) x .orderLive = true := by
      simpa using hcollide
    simp only [IntentIndex.collide, Bool.and_eq_true] at hcollide
    obtain ⟨⟨⟨⟨hmanaged, horder⟩, hprofile⟩, hnew⟩, hx⟩ := hcollide
    have hcontra : IntentIndex.collide old x .orderLive = true := by
      simp only [IntentIndex.collide, Bool.and_eq_true]
      exact ⟨⟨⟨⟨hmanaged, horder⟩, hprofile⟩, hlive hnew⟩, hx⟩
    rw [hold] at hcontra
    cases hcontra
  | pkey => exact h .pkey
  | profileClientOrder => exact h .profileClientOrder
  | clientOrder => exact h .clientOrder
  | idempotency => exact h .idempotency
  | request => exact h .request
  | mutation => exact h .mutation
  | parent => exact h .parent
  | lineageAttempt => exact h .lineageAttempt

theorem LedgerTransition.reservation_allowed (h : LedgerTransition args) {old : IntentRow}
    (hallowed : old.status.canBecome args.toState = true) (hstatus : old.status ≠ .prepared)
    (hopen : args.toState = .reconciled → old.status.terminal = false) :
    old.reservationState.canBecome args.reservationState = true := by
  cases h with
  | outcome n _ =>
    cases ho : n.outcome <;> cases hs : old.status <;>
      simp_all [IntentRow.reservationState, TransitionArgs.reservationState, outcomeTransition,
        ProviderIntentState.canBecome, ProviderReservationState.canBecome]
  | resolution r e actor =>
    have hterminal := hopen rfl
    cases r <;> cases hs : old.status <;>
      simp_all [IntentRow.reservationState, TransitionArgs.reservationState, resolutionTransition,
        ProviderIntentState.terminal, ProviderReservationState.canBecome]
  | recovery =>
    cases hs : old.status <;>
      simp_all [IntentRow.reservationState, TransitionArgs.reservationState, recoveryTransition,
        ProviderIntentState.canBecome, ProviderReservationState.canBecome]

theorem isHex64_ne_empty {t : String} (h : isHex64 t = true) : t.isEmpty = false := by
  by_contra hempty
  have ht : t = "" := by simpa using hempty
  subst ht
  simp [isHex64] at h

theorem idempotencyKey_of_checks {r : IntentRow} (h : r.checks = true) :
    isHex64 r.idempotencyKey = true := by
  simp only [IntentRow.checks, Bool.and_eq_true] at h
  tauto

theorem find_unchanged {rows : List IntentRow} (huniq : rows.Pairwise Compatible)
    {intent : IntentRow} (hmem : intent ∈ rows) :
    rows.find? (fun r => r.id == intent.id && r.stateVersion == intent.stateVersion) =
      some intent := by
  cases hfind : rows.find? (fun r => r.id == intent.id && r.stateVersion == intent.stateVersion) with
  | none =>
    have hnone := List.find?_eq_none.mp hfind intent hmem
    simp at hnone
  | some r =>
    have hguard := List.find?_some hfind
    simp only [Bool.and_eq_true, beq_iff_eq] at hguard
    rw [eq_of_id_eq huniq (List.mem_of_find?_eq_some hfind) hmem hguard.1]

theorem find_changed (huniq : db.intents.Pairwise Compatible) {intent : IntentRow}
    (hsnapshot : Snapshot db intent) (hmem : intent ∉ db.intents) :
    db.intents.find? (fun r => r.id == intent.id && r.stateVersion == intent.stateVersion) =
      none := by
  refine List.find?_eq_none.mpr fun r hr hguard => ?_
  simp only [Bool.and_eq_true, beq_iff_eq] at hguard
  obtain rfl := hsnapshot.eq_of_version huniq hr hguard.1 hguard.2
  exact hmem hr

theorem updateReservation_total {v : MutationReservationRow} {id : Uuid}
    {state : ProviderReservationState} (hfound : db.getReservation id = some v)
    (hallowed : v.state.canBecome state = true) (hchecks : v.checks = true) :
    ∃ rows, updateReservation db.reservations id v.version state = .ok rows := by
  have hid : v.intentId = id := (getReservation_some hfound).2
  have hfind : db.reservations.find? (fun r => r.intentId == id && r.version == v.version) =
      some v := find?_of_imp hfound (by simp [hid]) (by simp_all)
  have hnew : MutationReservationRow.checks
      { v with
        state
        requiresReconciliation := state == .uncertain
        version := v.version + 1 } = true := by
    simp only [MutationReservationRow.checks, Bool.and_eq_true] at hchecks ⊢
    exact ⟨hchecks.1, by simp⟩
  unfold updateReservation
  rw [hfind]
  simp [hallowed, hnew]

/-- **A transition is refused only when the row has changed since it was read, or when its status does
not allow the new one**; no CHECK, index or reservation trigger refuses it. -/
theorem transitionIntent_cases (huniq : db.intents.Pairwise Compatible) (hrows : LedgerRows db)
    (hreservations : ReservationRows db.intents db.reservations) (hargs : LedgerTransition args)
    {intent : IntentRow} (hsnapshot : Snapshot db intent)
    (hopen : args.toState = .reconciled → intent.status.terminal = false) (now : ℤ) :
    (intent ∉ db.intents ∧ transitionIntent intent args now db =
      .error (.mutation .concurrentStateChange
        "Mutation intent changed concurrently; the write was refused")) ∨
    (intent ∈ db.intents ∧ intent.status.canBecome args.toState = false ∧
      transitionIntent intent args now db =
        .error (.database (.trigger "illegal provider intent transition"))) ∨
    (intent ∈ db.intents ∧ intent.status.canBecome args.toState = true ∧
      ∃ db', transitionIntent intent args now db = .ok (db', args.reservationState)) := by
  have hkey : intent.idempotencyKey.isEmpty = false := by
    obtain ⟨r, hr, hev⟩ := hsnapshot
    have hcolumn : r.idempotencyKey = intent.idempotencyKey :=
      hev.column (·.idempotencyKey) fun _ => rfl
    rw [← hcolumn]
    exact isHex64_ne_empty (idempotencyKey_of_checks (hrows.checks r hr))
  by_cases hmem : intent ∈ db.intents
  · right
    have hfind := find_unchanged huniq hmem
    have hto : (intent.bumped (args.write now intent)).status = args.toState := rfl
    by_cases hallowed : intent.status.canBecome args.toState = true
    · right
      refine ⟨hmem, hallowed, ?_⟩
      have hchecks := hargs.checks now (hrows.checks intent hmem)
      have hindex : violatedIndex (db.intents.filter fun x => x.id != intent.id)
          (intent.bumped (args.write now intent)) = none := by
        refine violatedIndex_eq_none.mpr fun x hx => ?_
        obtain ⟨hx, hne⟩ := List.mem_filter.mp hx
        have hne : intent ≠ x := by
          rintro rfl
          simp at hne
        exact compatible_written now (compatible_of_ne huniq hmem hx hne)
          (live_of_written now hallowed hopen)
      obtain ⟨v, hv⟩ : ∃ v, db.getReservation intent.id = some v := by
        have hids : intent.id ∈ db.reservations.map (·.intentId) := by
          rw [hreservations.ids]
          exact List.mem_map_of_mem hmem
        obtain ⟨v, hv, hvid⟩ := List.mem_map.mp hids
        cases hget : db.getReservation intent.id with
        | none => simpa [hvid] using List.find?_eq_none.mp hget v hv
        | some v => exact ⟨v, rfl⟩
      obtain ⟨hvmem, hvid⟩ := getReservation_some hv
      have hagrees := hreservations.agrees intent hmem v hvmem hvid
      obtain ⟨rows, hupdate⟩ := updateReservation_total hv
        (by rw [hagrees.state]
            exact hargs.reservation_allowed hallowed (hrows.status intent hmem) hopen)
        hagrees.checks
      have hwrite : updateIntent db.intents intent.id
          (fun r => r.stateVersion == intent.stateVersion) (args.write now) =
          .ok (putIntent db.intents (intent.bumped (args.write now intent)),
            some (intent.bumped (args.write now intent))) := by
        simp [updateIntent, hfind, hto, hallowed, hchecks, hindex]
      simp only [transitionIntent, hkey, hwrite, hv, hupdate, liftDb]
      exact ⟨_, rfl⟩
    · left
      refine ⟨hmem, by simpa using hallowed, ?_⟩
      have hwrite : updateIntent db.intents intent.id
          (fun r => r.stateVersion == intent.stateVersion) (args.write now) =
          .error (.trigger "illegal provider intent transition") := by
        simp [updateIntent, hfind, hto, hallowed]
      simp only [transitionIntent, hkey, hwrite, liftDb]
      rfl
  · left
    refine ⟨hmem, ?_⟩
    have hwrite : updateIntent db.intents intent.id
        (fun r => r.stateVersion == intent.stateVersion) (args.write now) =
        .ok (db.intents, none) := by
      simp [updateIntent, find_changed huniq hsnapshot hmem]
    simp only [transitionIntent, hkey, hwrite, liftDb]
    rfl

end Transitions

theorem reservationRows_reached {env : MutationEnv} {actions : List MutationAction}
    {s : MutationState} (h : Runs.Reached (mutationStep env) .empty actions s) :
    ReservationRows s.db.intents s.db.reservations :=
  db_reached (P := fun db => ReservationRows db.intents db.reservations)
    ⟨rfl, fun _ hr => absurd hr (List.not_mem_nil)⟩
    (fun _ _ huniq hchange hrows => reservationRows_change huniq hchange hrows) h

/-! ## Exposure -/

theorem map_filter_eq {α β γ : Type} {f : β → γ} {g : α → γ} {p : β → Bool} {q : α → Bool}
    {l : List β} {l' : List α} (h : l.map f = l'.map g)
    (hpq : ∀ a ∈ l', ∀ b ∈ l, f b = g a → p b = q a) :
    (l.filter p).map f = (l'.filter q).map g := by
  induction l generalizing l' with
  | nil =>
    cases l' with
    | nil => rfl
    | cons a l' => simp at h
  | cons b l ih =>
    cases l' with
    | nil => simp at h
    | cons a l' =>
      simp only [List.map_cons, List.cons.injEq] at h
      have hrest := ih h.2 fun x hx y hy =>
        hpq x (List.mem_cons_of_mem _ hx) y (List.mem_cons_of_mem _ hy)
      have hhead := hpq a List.mem_cons_self b List.mem_cons_self h.1
      simp only [List.filter_cons, hhead]
      split
      · simp [h.1, hrest]
      · exact hrest

theorem JsNumber.add_right_comm (a b c : JsNumber) : (a.add b).add c = (a.add c).add b := by
  cases a <;> cases b <;> cases c <;> simp [JsNumber.add]
  ring

/-- The unresolved intents of a profile. -/
def unresolvedIntents (db : MutationDb) (profile : Uuid) : List IntentRow :=
  db.intents.filter fun r => r.executionProfileId == profile && r.status.unresolved

/-- The monetary risk reserved for an intent. -/
def reservedRisk (db : MutationDb) (id : Uuid) : JsNumber :=
  (db.getReservation id).elim 0 (·.monetaryRisk)

section Exposure

variable {db : MutationDb}

theorem open_iff_unresolved (r : IntentRow) :
    (r.reservationState == .reserved || r.reservationState == .uncertain) = r.status.unresolved := by
  unfold IntentRow.reservationState
  cases r.status with
  | reconciled =>
    simp only
    split <;> rfl
  | _ => rfl

theorem openReservations_perm (db : MutationDb) (profile : Uuid) :
    (openReservations db profile).Perm (db.reservations.filter fun r =>
      r.executionProfileId == profile && (r.state == .reserved || r.state == .uncertain)) :=
  List.perm_insertionSort _ _

theorem open_ids (h : ReservationRows db.intents db.reservations) (profile : Uuid) :
    (db.reservations.filter fun r =>
      r.executionProfileId == profile && (r.state == .reserved || r.state == .uncertain)).map
        (·.intentId) = (unresolvedIntents db profile).map (·.id) := by
  refine map_filter_eq h.ids fun r hr v hv hid => ?_
  have hagrees := h.agrees r hr v hv hid
  rw [hagrees.profile, hagrees.state, open_iff_unresolved]

theorem reservedRisk_eq (h : ReservationRows db.intents db.reservations)
    (huniq : db.intents.Pairwise Compatible) {v : MutationReservationRow}
    (hv : v ∈ db.reservations) : reservedRisk db v.intentId = v.monetaryRisk := by
  unfold reservedRisk
  cases hget : db.getReservation v.intentId with
  | none => simpa using List.find?_eq_none.mp hget v hv
  | some u =>
    obtain ⟨hu, hid⟩ := getReservation_some hget
    rw [h.unique huniq hu hv hid]
    rfl

theorem exposure_eq (h : ReservationRows db.intents db.reservations)
    (huniq : db.intents.Pairwise Compatible) (profile : Uuid) :
    (unresolvedMutationExposure db profile).count = (unresolvedIntents db profile).length ∧
    (unresolvedMutationExposure db profile).monetaryRisk =
      ((unresolvedIntents db profile).map fun r => reservedRisk db r.id).foldl JsNumber.add 0 := by
  have hperm := openReservations_perm db profile
  have hids := open_ids h profile
  constructor
  · have hlength := congrArg List.length hids
    rw [List.length_map, List.length_map] at hlength
    exact hperm.length_eq.trans hlength
  · have hcomm : RightCommutative JsNumber.add := ⟨JsNumber.add_right_comm⟩
    have hsum := (hperm.map (·.monetaryRisk)).foldl_eq (f := JsNumber.add) 0
    have hrisk : ∀ v ∈ db.reservations.filter (fun r => r.executionProfileId == profile &&
        (r.state == .reserved || r.state == .uncertain)), v.monetaryRisk =
          reservedRisk db v.intentId := fun v hv =>
      (reservedRisk_eq h huniq (List.mem_filter.mp hv).1).symm
    calc (unresolvedMutationExposure db profile).monetaryRisk
        = ((db.reservations.filter fun r => r.executionProfileId == profile &&
            (r.state == .reserved || r.state == .uncertain)).map (·.monetaryRisk)).foldl
              JsNumber.add 0 := hsum
      _ = (((db.reservations.filter fun r => r.executionProfileId == profile &&
            (r.state == .reserved || r.state == .uncertain)).map (·.intentId)).map
              (reservedRisk db)).foldl JsNumber.add 0 := by
          rw [List.map_map, List.map_congr_left hrisk]
          rfl
      _ = ((unresolvedIntents db profile).map fun r => reservedRisk db r.id).foldl
            JsNumber.add 0 := by
          rw [hids, List.map_map]
          rfl

end Exposure

/-! ## Every state of every run -/

/-- The transition a task will try, on the row it read. -/
def Task.transition? : Task → Option (IntentRow × TransitionArgs)
  | .execute (.applying n _ intent) _ _ _ => some (intent, outcomeTransition n)
  | .observe intent input =>
    (appliedResolution intent input).map fun r =>
      (intent, resolutionTransition r .reconciliationVerified
        (input.actor.getD "system:reconciliation"))
  | .resolve intent input =>
    some (intent, resolutionTransition input.resolution input.evidence input.actor)
  | .recover _ (some fresh) _ => some (fresh, recoveryTransition)
  | _ => none

theorem Task.Holds.transition {db : MutationDb} {t : Task} (h : t.Holds db) {intent : IntentRow}
    {args : TransitionArgs} (ht : t.transition? = some (intent, args)) :
    Snapshot db intent ∧ LedgerTransition args ∧
      (args.toState = .reconciled → intent.status.terminal = false) := by
  cases t with
  | execute stage caller b serial =>
    cases stage with
    | applying n receiptId row =>
      cases ht
      refine ⟨h.2.1, .outcome n h.1, fun hto => ?_⟩
      cases ho : n.outcome <;> simp [outcomeTransition, ho] at hto
    | _ => cases ht
  | observe row input =>
    simp only [Task.transition?, Option.map_eq_some_iff, Prod.mk.injEq] at ht
    obtain ⟨r, happlied, rfl, rfl⟩ := ht
    exact ⟨h, .resolution _ _ _, fun _ => (appliedResolution_some happlied).1⟩
  | resolve row input =>
    cases ht
    exact ⟨h.1, .resolution _ _ _, fun _ => h.2⟩
  | recover queue fresh recovered =>
    cases fresh with
    | none => cases ht
    | some fresh =>
      cases ht
      exact ⟨h, .recovery, fun hto => by cases hto⟩
  | _ => cases ht

/-- **Reservations agree with their intents**, in every state of every run: each intent has one
reservation, in the state that goes with its own; a step that moves one of them moves the other; a
transition is refused only when the row has changed since it was read or when its status does not
allow the new one; and the exposure is that of the unresolved intents. -/
theorem reservations_agree (env : MutationEnv) (actions : List MutationAction) :
    let s := Runs.run (mutationStep env) .empty actions
    (∀ r ∈ s.db.intents, ∃! v, v ∈ s.db.reservations ∧ v.intentId = r.id) ∧
    (∀ r ∈ s.db.intents, ∀ v ∈ s.db.reservations, v.intentId = r.id →
      v.state = r.reservationState ∧ v.requiresReconciliation = (r.status == .uncertain)) ∧
    (∀ action, ∀ r ∈ s.db.intents, ∀ r' ∈ (mutationStep env s action).db.intents, r'.id = r.id →
      ∀ v ∈ s.db.reservations, ∀ v' ∈ (mutationStep env s action).db.reservations,
        v.intentId = r.id → v'.intentId = r.id →
          (v'.state = v.state ↔ r'.reservationState = r.reservationState)) ∧
    (∀ w intent args now, (s.workers w).task.transition? = some (intent, args) →
      (intent ∉ s.db.intents ∧ transitionIntent intent args now s.db =
        .error (.mutation .concurrentStateChange
          "Mutation intent changed concurrently; the write was refused")) ∨
      (intent ∈ s.db.intents ∧ intent.status.canBecome args.toState = false ∧
        transitionIntent intent args now s.db =
          .error (.database (.trigger "illegal provider intent transition"))) ∨
      (intent ∈ s.db.intents ∧ intent.status.canBecome args.toState = true ∧
        ∃ db, transitionIntent intent args now s.db = .ok (db, args.reservationState))) ∧
    ∀ profile,
      (unresolvedMutationExposure s.db profile).count = (unresolvedIntents s.db profile).length ∧
      (unresolvedMutationExposure s.db profile).monetaryRisk =
        ((unresolvedIntents s.db profile).map fun r => reservedRisk s.db r.id).foldl
          JsNumber.add 0 := by
  intro s
  have hreached : Runs.Reached (mutationStep env) .empty actions s := Runs.reached_last _ _ _
  have hinv := mutationInv_reached hreached
  have hrows := reservationRows_reached hreached
  refine ⟨fun r hr => ?_, fun r hr v hv hid => ?_, fun action r hr r' hr' hid v hv v' hv' hvid hvid' =>
    ?_, fun w intent args now ht => ?_, exposure_eq hrows hinv.compatible⟩
  · have hids : r.id ∈ s.db.reservations.map (·.intentId) := by
      rw [hrows.ids]
      exact List.mem_map_of_mem hr
    obtain ⟨v, hv, hvid⟩ := List.mem_map.mp hids
    refine ⟨v, ⟨hv, hvid⟩, ?_⟩
    rintro u ⟨hu, huid⟩
    exact hrows.unique hinv.compatible hu hv (huid.trans hvid.symm)
  · have hagrees := hrows.agrees r hr v hv hid
    refine ⟨hagrees.state, ?_⟩
    rw [hagrees.requires, hagrees.state, IntentRow.reservationState]
    cases r.status with
    | reconciled =>
      simp only
      split <;> rfl
    | _ => rfl
  · have hrows' : ReservationRows (mutationStep env s action).db.intents
        (mutationStep env s action).db.reservations :=
      reservationRows_change hinv.compatible
        ((mutationStep_stepped env action hinv.tasks).change hinv) hrows
    rw [(hrows.agrees r hr v hv hvid).state,
      (hrows'.agrees r' hr' v' hv' (hvid'.trans hid.symm)).state]
  · obtain ⟨hsnapshot, hargs, hopen⟩ := (hinv.tasks w).transition ht
    exact transitionIntent_cases hinv.compatible (ledgerRows_reached hreached) hrows hargs hsnapshot
      hopen now

/-- An acceptance that arrives after a restart was recovered is refused by the trigger. -/
theorem late_acceptance_is_refused :
    let s := Runs.run (mutationStep sampleLedgerEnv) .empty
      (submits 0 4 (some (uuidOf 3)) ++
        [.executeSubmit 0 (sampleBarrier 4 1) .none, next 0 5,
          .recoverAfterRestart 1 none [], next 1 5, next 1 5,
          .advance 0 (sampleValues 5) (sampleResponse 4 "filled") .none, next 0 5, next 0 5])
    ((s.workers 0).task.transition?.bind fun t =>
      match transitionIntent t.1 t.2 0 s.db with
      | .error e => some (t.2.toState, e)
      | .ok _ => none) =
      some (.confirmed, .database (.trigger "illegal provider intent transition")) ∧
    s.db.intents.map (·.status) = [.uncertain] ∧
    s.db.receipts.map (·.outcome) = [.accepted] := by
  dsimp only
  rw [Runs.run_append, run_submits, Runs.run_cons, step_consumes]
  decide +kernel

end VeltrixEye
