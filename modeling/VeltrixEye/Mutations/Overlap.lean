import VeltrixEye.Mutations.Barriers

/-!
# Provider calls of one order

A call in flight is known to the ledger only by the status of its intent.  As long as that status is
live no other mutation of the order is prepared; but an operator or an observation may close the
intent while its call is still open, and then the order is free for a retry.
-/

namespace VeltrixEye

/-- The intent of an execution that has consumed its barrier and not finished `applyOutcome`; a
worker that crashed before its call never makes it. -/
def Worker.unfinished (v : Worker) : Option Uuid :=
  match v.task with
  | .execute .consumed _ b _ => if v.crashed then none else b.intent?
  | .execute (.commitFailed _ _) _ _ _ => none
  | .execute _ _ b _ => b.intent?
  | _ => none

/-- The intent of an execution that has called the provider and not finished `applyOutcome`. -/
def Worker.calling (v : Worker) : Option Uuid :=
  match v.task with
  | .execute .consumed _ _ _ => none
  | .execute (.commitFailed _ _) _ _ _ => none
  | .execute _ _ b _ => b.intent?
  | _ => none

theorem Worker.unfinished_of_calling {v : Worker} {id : Uuid} (h : v.calling = some id) :
    v.unfinished = some id := by
  obtain ⟨task, crashed⟩ := v
  cases task with
  | execute stage caller b serial => cases stage <;> simp_all [Worker.calling, Worker.unfinished]
  | _ => cases h

/-- The intent that the next step of a task closes as rejected or absent. -/
def Task.closes (db : MutationDb) : Task → Option Uuid
  | .execute (.applying n _ intent) _ _ _ =>
    if n.outcome = .rejected ∧ intent ∈ db.intents then some intent.id else none
  | .observe intent input =>
    if appliedResolution intent input = some .providerRejected ∧ intent ∈ db.intents then
      some intent.id
    else none
  | .resolve intent input =>
    if input.resolution ≠ .providerAccepted ∧ intent ∈ db.intents then some intent.id else none
  | _ => none

/-- The intent an action closes. -/
def MutationState.closes (s : MutationState) : MutationAction → Option Uuid
  | .advance w _ _ fault =>
    if fault = .refused ∨ (s.workers w).crashed then none else (s.workers w).task.closes s.db
  | _ => none

/-- No intent is closed while another worker has not finished its execution. -/
def ClosesFinished (s : MutationState) (action : MutationAction) : Prop :=
  ∀ id, s.closes action = some id →
    ∀ w, w ≠ action.worker → (s.workers w).unfinished ≠ some id

/-- An intent is closed only when the provider has not accepted it, and barriers are not made up. -/
def ClosesTruthfully (s : MutationState) (action : MutationAction) : Prop :=
  passesIssuedBarriers s action ∧
    ∀ k ∈ s.accepted, ∀ id, s.closes action = some id → s.consumedIntent? k ≠ some id

/-! ## One step -/

section Steps

variable {env : MutationEnv} {s s' : MutationState} {action : MutationAction}

theorem mem_put_same {rows : List IntentRow} (huniq : rows.Pairwise Compatible) (new : IntentRow)
    {old r r' : IntentRow} (hold : old ∈ rows) (hid : new.id = old.id) (hr : r ∈ rows)
    (hr' : r' ∈ putIntent rows new) (hsame : r'.id = r.id) : r' = r ∨ (r = old ∧ r' = new) := by
  rcases mem_putIntent hr' with rfl | ⟨hr', -⟩
  · exact .inr ⟨eq_of_id_eq huniq hr hold (hsame.symm.trans hid), rfl⟩
  · exact .inl (eq_of_id_eq huniq hr' hr hsame)

theorem Moved.row {db db' : MutationDb} {args : TransitionArgs} {now : ℤ} {old : IntentRow}
    {reservation : MutationReservationRow} (h : Moved db db' args now old reservation)
    (huniq : db.intents.Pairwise Compatible) {r r' : IntentRow} (hr : r ∈ db.intents)
    (hr' : r' ∈ db'.intents) (hsame : r'.id = r.id) :
    r' = r ∨ (r = old ∧ r' = old.bumped (args.write now old)) := by
  rw [h.intents] at hr'
  exact mem_put_same huniq _ h.mem rfl hr hr' hsame

theorem outcome_live (n : NormalizedSubmitOutcome) (now : ℤ) (old : IntentRow)
    (h : n.outcome ≠ .rejected) :
    (old.bumped ((outcomeTransition n).write now old)).live = true := by
  cases ho : n.outcome <;>
    simp_all [IntentRow.live, IntentRow.bumped, TransitionArgs.write, outcomeTransition]

theorem resolution_live (e : ProviderTerminalEvidence) (actor : String) (now : ℤ) (old : IntentRow) :
    (old.bumped ((resolutionTransition .providerAccepted e actor).write now old)).live = true := by
  simp [IntentRow.live, IntentRow.bumped, TransitionArgs.write, resolutionTransition]

theorem observedResolution_ne_absent {input : ReconciliationObservationInput}
    {r : ProviderResolution} (h : observedResolution input = some r) : r ≠ .providerAbsent := by
  unfold observedResolution at h
  split at h
  · split at h
    · cases h
      simp
    · split at h
      · cases h
        simp
      · cases h
  · cases h

theorem closes_advancing {values : StepValues} {fault : Fault} (haction : Advancing action values fault)
    (hfault : fault ≠ .refused) (hrunning : (s.workers action.worker).crashed = false) :
    s.closes action = (s.workers action.worker).task.closes s.db := by
  obtain ⟨w, reply, rfl⟩ := haction
  simp only [MutationAction.worker] at hrunning
  simp [MutationState.closes, MutationAction.worker, hfault, hrunning]

theorem Task.Free.unfinished {t : Task} {crashed : Bool} (h : t.Free) :
    (Worker.mk t crashed).unfinished = none := by
  cases t with
  | execute => exact h.elim
  | _ => rfl

theorem next_unfinished {workers : ℕ → Worker} {v : Worker} (w : ℕ) (h : v.unfinished = none) :
    (Function.update workers w v w).unfinished = none := by
  simpa using h

/-- **A live row stays live, or the step closes it**; the worker that closes it is then finished. -/
theorem Stepped.live_or_closes (h : Stepped env s action s') (hinv : MutationInv s)
    {r r' : IntentRow} (hr : r ∈ s.db.intents) (hr' : r' ∈ s'.db.intents) (hsame : r'.id = r.id)
    (hlive : r.live = true) :
    r'.live = true ∨
      (s.closes action = some r.id ∧ (s'.workers action.worker).unfinished = none) := by
  have hkeep : ∀ x ∈ s.db.intents, x.id = r.id → x.live = true := fun x hx hid => by
    rw [eq_of_id_eq hinv.compatible hx hr hid]
    exact hlive
  have hown := hinv.tasks action.worker
  cases h with
  | submit locks t input identity values db b issued hwrites ht =>
    obtain ⟨ids, intent, reservation, -, -, hauth, -, rfl⟩ := prepareSubmitWrites_ok hwrites
    rcases List.mem_append.mp hr' with hr' | hr'
    · exact .inl (hkeep r' hr' hsame)
    · rw [List.mem_singleton.mp hr'] at hsame
      exact absurd hsame (hauth.compatible r hr).id_ne
  | retry locks t input identity root parent began values db b issued _ htask hwrites _ _ =>
    rw [htask] at hown
    obtain ⟨ids, intent, reservation, -, -, hauth, hparent, -, -, -, -, rfl⟩ :=
      prepareRetryWrites_ok hinv.compatible hown.1 hwrites
    rcases List.mem_append.mp hr' with hr' | hr'
    · rcases mem_put_same hinv.compatible (parent.superseded intent.id) hparent rfl hr hr' hsame with rfl | ⟨rfl, rfl⟩
      · exact .inl hlive
      · exact .inl hlive
    · rw [List.mem_singleton.mp hr'] at hsame
      exact absurd hsame (hauth.compatible r hr).id_ne
  | consume t caller b db _ hconsume ht =>
    obtain ⟨p, old, -, hold, -, -, -, -, rfl⟩ := consumeSubmitBarrier_ok hconsume
    rcases mem_put_same hinv.compatible (old.bumped old) hold rfl hr hr' hsame with rfl | ⟨rfl, rfl⟩
    · exact .inl hlive
    · exact .inl hlive
  | receipt stage caller b serial n values db htask hreceipt hstage =>
    unfold persistReceipt at hreceipt
    obtain ⟨id, -, hreceipt⟩ := Except.bind_ok_iff.mp hreceipt
    obtain ⟨receipts, -, hreceipt⟩ := Except.bind_ok_iff.mp hreceipt
    cases hreceipt
    exact .inl (hkeep r' hr' hsame)
  | apply locks t caller b serial n receiptId intent values fault db state haction hfault hrunning
      htask htransition ht =>
    have hcloses := closes_advancing haction hfault hrunning
    rw [htask] at hown hcloses
    obtain ⟨reservation, hmoved, -⟩ := transitionIntent_moved hinv.compatible hown.2.1 htransition
    rcases hmoved.row hinv.compatible hr hr' hsame with rfl | ⟨rfl, rfl⟩
    · exact .inl hlive
    · by_cases hrejected : n.outcome = .rejected
      · refine .inr ⟨by rw [hcloses, Task.closes, if_pos ⟨hrejected, hr⟩], ?_⟩
        refine next_unfinished _ ?_
        rcases ht with rfl | rfl
        · exact (executed_free _ _).unfinished
        · rfl
      · exact .inl (outcome_live n values.now r hrejected)
  | observe t intent input values fault db resolution haction hfault hrunning htask hwrites ht =>
    have hcloses := closes_advancing haction hfault hrunning
    rw [htask] at hown hcloses
    obtain ⟨observation, ⟨-, rfl⟩ | ⟨res, db₁, state, row, -, happlied, htransition, rfl⟩⟩ :=
      observationWrites_ok hwrites
    · exact .inl (hkeep r' hr' hsame)
    · have hsnapshot : Snapshot { s.db with observations := s.db.observations ++ [observation] }
          intent := hown
      obtain ⟨reservation, hmoved, -⟩ :=
        transitionIntent_moved (by exact hinv.compatible) hsnapshot htransition
      rcases hmoved.row (by exact hinv.compatible) hr hr' hsame with rfl | ⟨rfl, rfl⟩
      · exact .inl hlive
      · have hne := observedResolution_ne_absent (appliedResolution_some happlied).2
        cases res with
        | providerAccepted => exact .inl (resolution_live _ _ _ _)
        | providerRejected =>
          exact .inr ⟨by rw [hcloses, Task.closes, if_pos ⟨happlied, hr⟩],
            next_unfinished _ ht.free.unfinished⟩
        | providerAbsent => exact absurd rfl hne
  | resolve t intent input values fault db haction hfault hrunning htask hwrites ht =>
    have hcloses := closes_advancing haction hfault hrunning
    rw [htask] at hown hcloses
    obtain ⟨db₁, state, row, htransition, rfl⟩ := resolutionWrites_ok hwrites
    obtain ⟨reservation, hmoved, -⟩ := transitionIntent_moved hinv.compatible hown.1 htransition
    rcases hmoved.row hinv.compatible hr hr' hsame with rfl | ⟨rfl, rfl⟩
    · exact .inl hlive
    · by_cases haccepted : input.resolution = .providerAccepted
      · rw [haccepted]
        exact .inl (resolution_live _ _ _ _)
      · exact .inr ⟨by rw [hcloses, Task.closes, if_pos ⟨haccepted, hr⟩],
          next_unfinished _ ht.free.unfinished⟩
  | recover locks t queue fresh recovered values db state htask htransition ht =>
    rw [htask] at hown
    obtain ⟨reservation, hmoved, -⟩ := transitionIntent_moved hinv.compatible hown htransition
    rcases hmoved.row hinv.compatible hr hr' hsame with rfl | ⟨rfl, rfl⟩
    · exact .inl hlive
    · exact .inl (by simp [IntentRow.live, IntentRow.bumped, TransitionArgs.write,
        recoveryTransition])
  | _ => exact .inl (hkeep r' hr' hsame)

theorem update_unfinished {workers : ℕ → Worker} {w₀ w : ℕ} {v : Worker} {id : Uuid}
    (h : (Function.update workers w₀ v w).unfinished = some id) :
    (w = w₀ ∧ v.unfinished = some id) ∨ (workers w).unfinished = some id := by
  by_cases hw : w = w₀
  · subst hw
    exact .inl ⟨rfl, by simpa using h⟩
  · exact .inr (by simpa [Function.update_of_ne hw] using h)

theorem unfinished_free {w : ℕ} {t : Task} {crashed : Bool} {id : Uuid} (ht : t.Free)
    (h : (Function.update s.workers action.worker ⟨t, crashed⟩ w).unfinished = some id) :
    (s.workers w).unfinished = some id := by
  rcases update_unfinished h with ⟨-, hid⟩ | hid
  · rw [ht.unfinished] at hid
    cases hid
  · exact hid

theorem unfinished_move {w : ℕ} {stage' : ExecuteStage} {caller : SubmitCaller}
    {b : SubmitBarrier} {serial : ℕ} {crashed : Bool} {id : Uuid}
    {w₀ : ℕ} (hold : (s.workers w₀).unfinished = b.intent?) (hnew : stage' ≠ .consumed)
    (h : (Function.update s.workers w₀ ⟨.execute stage' caller b serial, crashed⟩ w).unfinished =
      some id) : (s.workers w).unfinished = some id := by
  rcases update_unfinished h with ⟨rfl, hid⟩ | hid
  · rw [hold]
    cases stage' with
    | consumed => exact absurd rfl hnew
    | commitFailed => cases hid
    | _ => exact hid
  · exact hid

theorem unfinished_eq {v : Worker} {stage : ExecuteStage} {caller : SubmitCaller}
    {b : SubmitBarrier} {serial : ℕ} (htask : v.task = .execute stage caller b serial)
    (hconsumed : stage ≠ .consumed) (hfailed : ∀ n receiptId, stage ≠ .commitFailed n receiptId) :
    v.unfinished = b.intent? := by
  cases stage with
  | consumed => exact absurd rfl hconsumed
  | commitFailed n receiptId => exact absurd rfl (hfailed n receiptId)
  | _ => simp [Worker.unfinished, htask]

theorem ExecuteMove.source {db : MutationDb} {b : SubmitBarrier} {values : StepValues}
    {fault : Fault} {stage stage' : ExecuteStage} (h : ExecuteMove db b values fault stage stage') :
    stage ≠ .consumed ∧ ∀ n receiptId, stage ≠ .commitFailed n receiptId := by
  cases h <;> simp

theorem Stepped.unfinished (h : Stepped env s action s') {w : ℕ} {id : Uuid}
    (hw : (s'.workers w).unfinished = some id) :
    (s.workers w).unfinished = some id ∨ ∃ r ∈ s'.db.intents, r.id = id ∧ r.live = true := by
  cases h with
  | stay => exact .inl hw
  | quiet locks t ht => exact .inl (unfinished_free ht.free hw)
  | read locks t _ hreading => exact .inl (unfinished_free hreading.free hw)
  | fresh input identity root parent began values fault _ _ _ =>
    exact .inl (unfinished_free (by trivial) hw)
  | submit locks t input identity values db b issued _ ht =>
    rcases ht with ⟨-, rfl | rfl⟩ | ⟨-, ht⟩
    · exact .inl (unfinished_free (by trivial) hw)
    · rcases update_unfinished hw with ⟨-, hid⟩ | hid
      · cases hid
      · exact .inl hid
    · exact .inl (unfinished_free ht.free hw)
  | retry locks t input identity root parent began values db b issued _ _ _ ht _ =>
    exact .inl (unfinished_free ht.free hw)
  | consume t caller b db _ hconsume ht =>
    rcases ht with rfl | ht
    · rcases update_unfinished hw with ⟨-, hid⟩ | hid
      · obtain ⟨p, old, hparams, hold, hpid, hclaims, -, -, rfl⟩ := consumeSubmitBarrier_ok hconsume
        refine .inr ⟨old.bumped old, mem_putIntent_self hold rfl, ?_, ?_⟩
        · have hbarrier : b.intent? = some id := hid
          rw [SubmitBarrier.intent?, (SubmitBarrier.params_ids hparams).1, ← hpid] at hbarrier
          exact Option.some.inj hbarrier
        · simp [IntentRow.live, IntentRow.bumped, claims_status hclaims]
      · exact .inl hid
    · exact .inl (unfinished_free ht.free hw)
  | call caller b serial hrunning htask =>
    refine .inl (unfinished_move ?_ (by simp) hw)
    simp [Worker.unfinished, htask, hrunning]
  | move locks stage stage' caller b serial values fault _ htask hmove =>
    exact .inl (unfinished_move (unfinished_eq htask hmove.source.1 hmove.source.2)
      hmove.target.1 hw)
  | receipt stage caller b serial n values db htask _ hstage =>
    refine .inl (unfinished_move (unfinished_eq htask (by simp) (by simp)) ?_ hw)
    rcases hstage with rfl | rfl <;> simp
  | apply locks t caller b serial n receiptId intent values fault db state _ _ _ htask _ ht =>
    rcases ht with rfl | rfl
    · exact .inl (unfinished_free (executed_free _ _) hw)
    · exact .inl (unfinished_move (unfinished_eq htask (by simp) (by simp)) (by simp) hw)
  | report caller b serial n receiptId _ => exact .inl (unfinished_free (executed_free _ _) hw)
  | observe t intent input values fault db resolution _ _ _ _ _ ht =>
    exact .inl (unfinished_free ht.free hw)
  | resolve t intent input values fault db _ _ _ _ _ ht => exact .inl (unfinished_free ht.free hw)
  | recover locks t queue fresh recovered values db state _ _ ht =>
    exact .inl (unfinished_free ht.free hw)
  | duplicate intent _ => exact .inl (unfinished_free (by trivial) hw)
  | accept w' caller b serial crashed haction htask =>
    subst haction
    have htask' : (s.workers w').task = .execute (.calling false) caller b serial := by rw [htask]
    exact .inl (unfinished_move (unfinished_eq htask' (by simp) (by simp)) (by simp) hw)
  | crash w' locks =>
    rcases update_unfinished hw with ⟨rfl, hid⟩ | hid
    · left
      unfold Worker.unfinished at hid ⊢
      cases htask : (s.workers w).task with
      | execute stage caller b serial => cases stage <;> simp_all
      | _ => simp_all
    · exact .inl hid

end Steps

/-! ## Runs -/

/-- An unfinished execution is of a live intent. -/
def UnfinishedLive (s : MutationState) : Prop :=
  ∀ w id, (s.workers w).unfinished = some id → ∃ r ∈ s.db.intents, r.id = id ∧ r.live = true

/-- What the provider accepted: at most once a call, and of intents that are live. -/
structure AcceptedLive (s : MutationState) : Prop where
  nodup : s.accepted.Nodup
  bound : ∀ k ∈ s.accepted, k < s.consumed.length
  pending : ∀ w caller b k stage, (s.workers w).task = .execute stage caller b k →
    stage = .consumed ∨ stage = .calling false → k ∉ s.accepted
  live : ∀ k ∈ s.accepted, ∃ r ∈ s.db.intents, s.consumedIntent? k = some r.id ∧ r.live = true

section Runs

variable {env : MutationEnv} {s s' : MutationState} {action : MutationAction}

theorem unfinishedLive_stepped (h : Stepped env s action s') (hinv : MutationInv s)
    (hok : ClosesFinished s action) (hlive : UnfinishedLive s) : UnfinishedLive s' := by
  intro w id hw
  rcases h.unfinished hw with hold | hnew
  · obtain ⟨r, hr, rfl, hrlive⟩ := hlive w id hold
    obtain ⟨r', hr', hev⟩ := (h.change hinv).later hinv.compatible hr
    rcases h.live_or_closes hinv hr hr' hev.id_eq hrlive with hrlive' | ⟨hcloses, hfinished⟩
    · exact ⟨r', hr', hev.id_eq, hrlive'⟩
    · -- the worker that closes the intent has finished, and no other one may be unfinished
      by_cases hw' : w = action.worker
      · rw [hw', hfinished] at hw
        cases hw
      · exact absurd hold (hok r.id hcloses w hw')
  · exact hnew

theorem calling_unique (huniq : s.db.intents.Pairwise Compatible) (hlive : UnfinishedLive s)
    {w w' : ℕ} {a b : IntentRow} (ha : a ∈ s.db.intents) (hb : b ∈ s.db.intents)
    (hw : (s.workers w).calling = some a.id) (hw' : (s.workers w').calling = some b.id)
    (hprofile : a.executionProfileId = b.executionProfileId) (hmanaged : a.orderId ≠ none)
    (horder : a.orderId = b.orderId) : a = b := by
  obtain ⟨r, hr, hrid, hrlive⟩ := hlive w a.id (Worker.unfinished_of_calling hw)
  obtain ⟨r', hr', hrid', hrlive'⟩ := hlive w' b.id (Worker.unfinished_of_calling hw')
  obtain rfl := eq_of_id_eq huniq hr ha hrid
  obtain rfl := eq_of_id_eq huniq hr' hb hrid'
  exact eq_of_live huniq ha hb hprofile hmanaged horder hrlive hrlive'

theorem Stepped.accepted (h : Stepped env s action s') :
    s'.accepted = s.accepted ∨
      ∃ w caller b k, (s.workers w).task = .execute (.calling false) caller b k ∧
        s'.accepted = s.accepted ++ [k] ∧ s'.consumed = s.consumed ∧ s'.db = s.db ∧
        (s'.workers w).task = .execute (.calling true) caller b k := by
  cases h with
  | accept w caller b serial crashed _ htask =>
    exact .inr ⟨w, caller, b, serial, by rw [htask], rfl, rfl, rfl, by simp⟩
  | _ => exact .inl rfl

theorem acceptedLive_stepped (h : Stepped env s action s') (hinv : CallInv s)
    (hok : ClosesTruthfully s action) (hunfinished : UnfinishedLive s) (haccepted : AcceptedLive s) :
    AcceptedLive s' := by
  have hserial := hinv.barriers.serial
  -- a call accepted before is of an intent that is still live
  have hkept : ∀ k ∈ s.accepted, ∃ r ∈ s'.db.intents,
      s'.consumedIntent? k = some r.id ∧ r.live = true := by
    intro k hk
    obtain ⟨r, hr, hid, hlive⟩ := haccepted.live k hk
    obtain ⟨r', hr', hev⟩ := (h.change hinv.tasks).later hinv.tasks.compatible hr
    have hid' : s'.consumedIntent? k = some r.id := by
      obtain ⟨b, hb, hbid⟩ := Option.bind_eq_some_iff.mp hid
      rw [MutationState.consumedIntent?, h.consumed_getElem? hb]
      exact hbid
    rcases h.live_or_closes hinv.tasks hr hr' hev.id_eq hlive with hlive' | ⟨hcloses, -⟩
    · exact ⟨r', hr', by rw [hid', hev.id_eq], hlive'⟩
    · exact absurd hid (hok.2 k hk r.id hcloses)
  have hlength : s.consumed.length ≤ s'.consumed.length := by
    rcases h.consumed with heq | ⟨b', p, old, heq, -⟩ <;> simp [heq]
  have hpending : ∀ w caller b k stage, (s'.workers w).task = .execute stage caller b k →
      stage = .consumed ∨ stage = .calling false → k ∉ s.accepted := by
    intro w caller b k stage ht hstage hk
    rcases h.executions.task w stage caller b k ht with
      ⟨stage₀, hold, hconsumed, hcalling⟩ | ⟨-, rfl, -⟩
    · refine haccepted.pending w caller b k stage₀ hold ?_ hk
      rcases hstage with rfl | rfl
      · exact .inl (hconsumed rfl)
      · exact hcalling rfl
    · exact absurd (haccepted.bound _ hk) (lt_irrefl _)
  rcases h.accepted with heq | ⟨w₀, caller₀, b₀, k₀, hcall, heq, hsame, hdb, hnow⟩
  · exact ⟨heq ▸ haccepted.nodup, fun k hk => (haccepted.bound k (heq ▸ hk)).trans_le hlength,
      fun w caller b k stage ht hstage => heq ▸ hpending w caller b k stage ht hstage,
      fun k hk => hkept k (heq ▸ hk)⟩
  · have hnew : k₀ ∉ s.accepted := haccepted.pending w₀ caller₀ b₀ k₀ _ hcall (.inr rfl)
    have hget := hserial w₀ _ caller₀ b₀ k₀ hcall
    refine ⟨?_, fun k hk => ?_, fun w caller b k stage ht hstage => ?_, fun k hk => ?_⟩
    · rw [heq]
      refine List.nodup_append.mpr ⟨haccepted.nodup, List.nodup_singleton _, fun x hx y hy => ?_⟩
      rintro rfl
      exact hnew (List.mem_singleton.mp hy ▸ hx)
    · rw [heq] at hk
      rcases List.mem_append.mp hk with hk | hk
      · exact (haccepted.bound k hk).trans_le hlength
      · rw [List.mem_singleton.mp hk, hsame]
        exact (List.getElem?_eq_some_iff.mp hget).1
    · rw [heq, List.mem_append, List.mem_singleton]
      rintro (hk | rfl)
      · exact hpending w caller b k stage ht hstage hk
      · -- the accepted call has left the stage, and no other worker has its serial
        have hw : w = w₀ := by
          rcases h.executions.task w stage caller b k ht with ⟨stage₁, hold, -⟩ | ⟨-, hlast, -⟩
          · exact hinv.barriers.distinct w w₀ _ _ _ _ _ _ k hold hcall
          · have := (List.getElem?_eq_some_iff.mp hget).1
            omega
        rw [hw, hnow] at ht
        cases ht
        simp at hstage
    · rw [heq] at hk
      rcases List.mem_append.mp hk with hk | hk
      · exact hkept k hk
      · rw [List.mem_singleton.mp hk]
        obtain ⟨r, hr, hrid, -⟩ := hinv.barriers.consumed b₀ (List.mem_of_getElem? hget)
        have hw : (s.workers w₀).unfinished = some r.id := by
          rw [unfinished_eq hcall (by simp) (by simp)]
          exact hrid
        obtain ⟨r', hr', hid', hlive⟩ := hunfinished w₀ r.id hw
        refine ⟨r', by rw [hdb]; exact hr', ?_, hlive⟩
        rw [MutationState.consumedIntent?, hsame, hget, hid']
        exact hrid

/-- **Calls of one order do not overlap**, in every state of every run that closes no intent under an
unfinished execution; where moreover an intent is closed only if the provider has not accepted it and
the barriers are the issued ones, the provider accepts at most one submit of a managed order. -/
theorem no_overlapping_calls (env : MutationEnv) (actions : List MutationAction)
    (hfinished : Runs.Meets (mutationStep env) ClosesFinished .empty actions)
    (s : MutationState) (h : Runs.Reached (mutationStep env) .empty actions s) :
    (∀ w w', ∀ a ∈ s.db.intents, ∀ b ∈ s.db.intents, (s.workers w).calling = some a.id →
      (s.workers w').calling = some b.id → a.executionProfileId = b.executionProfileId →
      a.orderId ≠ none → a.orderId = b.orderId → a = b) ∧
    (Runs.Meets (mutationStep env) ClosesTruthfully .empty actions →
      ∀ k ∈ s.accepted, ∀ k' ∈ s.accepted, ∀ a ∈ s.db.intents, ∀ b ∈ s.db.intents,
        s.consumedIntent? k = some a.id → s.consumedIntent? k' = some b.id →
        a.executionProfileId = b.executionProfileId → a.orderId ≠ none → a.orderId = b.orderId →
        k = k') := by
  have hempty : UnfinishedLive MutationState.empty := by
    intro w id hw
    cases hw
  constructor
  · have hstep : ∀ s action, (MutationInv s ∧ UnfinishedLive s) → ClosesFinished s action →
        MutationInv (mutationStep env s action) ∧ UnfinishedLive (mutationStep env s action) := by
      rintro s action ⟨hinv, hlive⟩ hok
      exact ⟨mutationInv_step s action hinv,
        unfinishedLive_stepped (mutationStep_stepped env action hinv.tasks) hinv hok hlive⟩
    obtain ⟨hinv, hlive⟩ := Runs.inv_of_reached _ hstep ⟨mutationInv_empty, hempty⟩ hfinished h
    exact fun w w' a ha b hb => calling_unique hinv.compatible hlive ha hb
  · intro htruthful
    have hstep : ∀ s action, ((CallInv s ∧ ConsumedOnce s) ∧ UnfinishedLive s ∧ AcceptedLive s) →
        (ClosesFinished s action ∧ ClosesTruthfully s action) →
        ((CallInv (mutationStep env s action) ∧ ConsumedOnce (mutationStep env s action)) ∧
          UnfinishedLive (mutationStep env s action) ∧ AcceptedLive (mutationStep env s action)) := by
      rintro s action ⟨⟨hinv, honce⟩, hlive, haccepted⟩ ⟨hok, hok'⟩
      have hstepped := mutationStep_stepped env action hinv.tasks.tasks
      exact ⟨⟨callInv_step s action hinv, consumedOnce_stepped hstepped hinv hok'.1 honce⟩,
        unfinishedLive_stepped hstepped hinv.tasks hok hlive,
        acceptedLive_stepped hstepped hinv hok' hlive haccepted⟩
    have honce : ConsumedOnce MutationState.empty := by
      constructor <;> simp [MutationState.empty]
    have haccepted : AcceptedLive MutationState.empty := by
      constructor <;> simp [MutationState.empty]
    obtain ⟨⟨hinv, honce⟩, -, haccepted⟩ := Runs.inv_of_reached _ hstep
      ⟨⟨callInv_empty, honce⟩, hempty, haccepted⟩ (Runs.meets_and _ hfinished htruthful) h
    intro k hk k' hk' a ha b hb hka hkb hprofile hmanaged horder
    obtain ⟨r, hr, hrid, hrlive⟩ := haccepted.live k hk
    obtain ⟨r', hr', hrid', hrlive'⟩ := haccepted.live k' hk'
    obtain rfl := eq_of_id_eq hinv.tasks.compatible hr ha
      (Option.some.inj (hrid.symm.trans hka))
    obtain rfl := eq_of_id_eq hinv.tasks.compatible hr' hb
      (Option.some.inj (hrid'.symm.trans hkb))
    obtain rfl := eq_of_live hinv.tasks.compatible ha hb hprofile hmanaged horder hrlive hrlive'
    exact consumedIntent_inj honce (haccepted.bound k hk) (haccepted.bound k' hk')
      (hka.trans hkb.symm)

end Runs

theorem closesFinished_of_none {s : MutationState} {action : MutationAction}
    (h : s.closes action = none) : ClosesFinished s action := by
  intro id hid
  rw [h] at hid
  cases hid

section Staged

variable {env : MutationEnv} {s : MutationState} {w : ℕ}

theorem meets_prepareSubmit {input : SubmitIntentInput} {identity : SubmitIdentity}
    {values values' : StepValues} {reply : ProviderReply} (hworker : s.workers w = ⟨.idle, false⟩)
    (hlocks : s.locks = []) (hvalid : validateInput env input = .ok identity)
    (hreads : prepareSubmitReads input identity s.db = .ok none) :
    Runs.Meets (mutationStep env) (fun s action => s.closes action = none) s
      [.prepareSubmit w input, .advance w values reply .none, .advance w values' reply .none] := by
  simp [Runs.Meets, MutationState.closes, Task.closes, mutationStep, MutationAction.worker, hworker, hlocks,
    Task.ready, start, startSubmit, hvalid, MutationState.blocked, MutationState.set, MutationState.acquire,
    advance, advanceSubmit, hreads]

theorem run_resolveByOperator {input : OperatorResolutionInput} {values : StepValues}
    {reply : ProviderReply} {intent : IntentRow} {db : MutationDb}
    (hworker : s.workers w = ⟨.idle, false⟩) (hlocks : s.locks = [])
    (hread : resolutionRead input s.db = .ok intent)
    (hwrites : resolutionWrites intent input values s.db = .ok db) :
    Runs.run (mutationStep env) s [.resolveByOperator w input, .advance w values reply .none] =
      { s with db, workers := Function.update s.workers w ⟨.done .resolved, false⟩ } := by
  simp [mutationStep, MutationAction.worker, hworker, hlocks, Task.ready, start, hread, hwrites,
    MutationState.blocked, MutationState.set, advance, advanceResolve, MutationState.committed]

theorem run_prepareRetry {input : RetryIntentInput} {identity : SubmitIdentity} {values : StepValues}
    {reply : ProviderReply} {root : Uuid} {parent : IntentRow} {db : MutationDb} {b : SubmitBarrier}
    (hworker : s.workers w = ⟨.idle, false⟩) (hlocks : s.locks = [])
    (hvalid : validateInput env input.base = .ok identity) (hlocate : retryLocate input s.db = .ok root)
    (hparent : retryParent input root s.db = .ok parent)
    (hidentity : retryIdentityReads input identity parent s.db = .ok none)
    (hlineage : retryLineageReads input root parent s.db = .ok ())
    (hfresh : assertFreshRetryAuthorization input values s.db = .ok ())
    (hwrites : prepareRetryWrites env input identity parent values s.db = .ok (db, b)) :
    Runs.run (mutationStep env) s
        (.prepareRetry w input :: List.replicate 5 (.advance w values reply .none)) =
      { s with
        db
        workers := Function.update s.workers w ⟨.done (.authorized b), false⟩
        issued := s.issued ++ [b]
        retries := s.retries ++ [(values.intentId, s.db.intents.length)] } := by
  simp [List.replicate, mutationStep, MutationAction.worker, hworker, hlocks, Task.ready, start, startRetry,
    hvalid, hlocate, openRetry, hparent, advanceRetry, hidentity, hlineage, hfresh, hwrites,
    MutationState.blocked, MutationState.set, MutationState.acquire, advance, MutationState.finish,
    MutationState.release]

end Staged

/-! ## Two orders -/

/-- Mutation 5 of the order 6, authorized. -/
def secondIntent : IntentRow :=
  { openIntent with
    id := uuidOf 5
    orderId := some (uuidOf 6)
    clientOrderId := (sampleInput 5 none).clientOrderId
    idempotencyKey := (sampleInput 5 none).idempotencyKey
    requestHash := (sampleBarrier 5 1).requestHash }

def secondReservation : MutationReservationRow :=
  { openReservation with
    id := uuidOf 5
    intentId := uuidOf 5
    orderId := some (uuidOf 6)
    clientOrderId := secondIntent.clientOrderId
    idempotencyKey := secondIntent.idempotencyKey }

def secondIdentity : SubmitIdentity :=
  ⟨secondIntent.clientOrderId, secondIntent.idempotencyKey, secondIntent.requestHash⟩

/-- The state after worker 1 prepared it beside mutation 4. -/
def bothState : MutationState :=
  { preparedState with
    db :=
      { preparedState.db with
        intents := [openIntent, secondIntent]
        reservations := [openReservation, secondReservation]
        events := preparedState.db.events ++
          [mutationEvent secondIntent none .prepared none none,
            mutationEvent secondIntent (some .prepared) .submitting none none] }
    workers := Function.update preparedState.workers 1 ⟨.done (.authorized (sampleBarrier 5 1)), false⟩
    issued := [sampleBarrier 4 1, sampleBarrier 5 1] }

/-- The tables after the barriers of both were consumed; `second` is the row of mutation 5. -/
def bothConsumed (second : IntentRow) (events : List MutationEventRow) : MutationDb :=
  { bothState.db with
    intents := [openIntent.bumped openIntent, second]
    events := bothState.db.events ++
      mutationEvent openIntent (some .submitting) .submitting none (some 2) :: events }

theorem second_prepared :
    validateInput sampleLedgerEnv (sampleInput 5 none) = .ok secondIdentity ∧
    prepareSubmitReads (sampleInput 5 (some (uuidOf 6))) secondIdentity preparedState.db = .ok none ∧
    prepareSubmitWrites sampleLedgerEnv (sampleInput 5 (some (uuidOf 6))) secondIdentity (sampleValues 5)
      preparedState.db = .ok (bothState.db, sampleBarrier 5 1) ∧
    consumeSubmitBarrier (sampleBarrier 4 1) bothState.db = .ok (bothConsumed secondIntent []) ∧
    consumeSubmitBarrier (sampleBarrier 5 1) (bothConsumed secondIntent []) =
      .ok (bothConsumed (secondIntent.bumped secondIntent)
        [mutationEvent secondIntent (some .submitting) .submitting none (some 2)]) := by
  rw [prepareSubmitReads, prepareSubmitWrites, submitIds_sample, consumeSubmitBarrier, consumeSubmitBarrier,
    params_first, params_first]
  refine ⟨?_, ?_, ?_, ?_, ?_⟩
  on_goal 3 =>
    simp only [authorizeIntent, insertIntent, updateIntent, insertReservationRow, IntentRow.checks,
      MutationReservationRow.checks, text_tests_chars]
  all_goals decide +kernel

/-- Two workers submit two orders and begin their calls. -/
def twoOrders : List MutationAction :=
  submits 0 4 (some (uuidOf 3)) ++ submits 1 5 (some (uuidOf 6)) ++
    [.executeSubmit 0 (sampleBarrier 4 1) .none, .executeSubmit 1 (sampleBarrier 5 1) .none,
      next 0 7, next 1 7]

theorem twoOrders_closes_none :
    Runs.Meets (mutationStep sampleLedgerEnv) (fun s action => s.closes action = none) .empty twoOrders ∧
    ((Runs.run (mutationStep sampleLedgerEnv) .empty twoOrders).workers 0).calling = some (uuidOf 4) ∧
    ((Runs.run (mutationStep sampleLedgerEnv) .empty twoOrders).workers 1).calling = some (uuidOf 5) := by
  obtain ⟨hvalid, hreads, hwrites, hfirst, hsecond⟩ := second_prepared
  have hboth : Runs.run (mutationStep sampleLedgerEnv) preparedState (submits 1 5 (some (uuidOf 6))) =
      bothState := run_prepareSubmit rfl rfl hvalid hreads hwrites
  let consumed : MutationState :=
    { bothState with db := bothConsumed secondIntent [], consumed := [sampleBarrier 4 1] }.set 0
      (.execute .consumed .direct (sampleBarrier 4 1) 0)
  have hstep : mutationStep sampleLedgerEnv bothState (.executeSubmit 0 (sampleBarrier 4 1) .none) =
      consumed := by
    rw [executeSubmit_eq rfl, hfirst]
    rfl
  have hstep' : mutationStep sampleLedgerEnv consumed (.executeSubmit 1 (sampleBarrier 5 1) .none) =
      { consumed with
        db := bothConsumed (secondIntent.bumped secondIntent)
          [mutationEvent secondIntent (some .submitting) .submitting none (some 2)]
        consumed := [sampleBarrier 4 1, sampleBarrier 5 1] }.set 1
        (.execute .consumed .direct (sampleBarrier 5 1) 1) := by
    rw [executeSubmit_eq rfl, show consumed.db = bothConsumed secondIntent [] from rfl, hsecond]
    rfl
  rw [twoOrders, List.append_assoc, Runs.run_append, Runs.run_append, Runs.meets_append,
    Runs.meets_append, run_submits, hboth]
  refine ⟨⟨?_, ?_, ?_⟩, ?_⟩
  · exact meets_prepareSubmit rfl rfl validateInput_sample prepareSubmitReads_sample
  · exact meets_prepareSubmit rfl rfl hvalid hreads
  · simp only [Runs.Meets, hstep, hstep']
    simp [next, MutationState.closes, Task.closes, mutationStep, advance, advanceExecute, consumed,
      MutationState.set]
  · simp only [Runs.run_cons, hstep, hstep']
    simp [next, mutationStep, advance, advanceExecute, consumed, MutationState.set, Worker.calling,
      SubmitBarrier.intent?, sampleBarrier]

/-- The calls of two orders run side by side. -/
theorem no_overlapping_calls_two_orders :
    let s := Runs.run (mutationStep sampleLedgerEnv) .empty twoOrders
    (s.workers 0).calling = some (uuidOf 4) ∧ (s.workers 1).calling = some (uuidOf 5) ∧
    ∀ w w', ∀ a ∈ s.db.intents, ∀ b ∈ s.db.intents, (s.workers w).calling = some a.id →
      (s.workers w').calling = some b.id → a.executionProfileId = b.executionProfileId →
      a.orderId ≠ none → a.orderId = b.orderId → a = b := by
  have hfinished : Runs.Meets (mutationStep sampleLedgerEnv) ClosesFinished .empty twoOrders :=
    Runs.meets_mono _ (fun _ _ => closesFinished_of_none) twoOrders_closes_none.1
  exact ⟨twoOrders_closes_none.2.1, twoOrders_closes_none.2.2,
    (no_overlapping_calls sampleLedgerEnv twoOrders hfinished _ (Runs.reached_last _ _ _)).1⟩

/-! ## A retry beside an open call -/

/-- The operator's closing of mutation 4. -/
def sampleResolution : OperatorResolutionInput where
  intentId := (uuidOf 4).text
  userId := (uuidOf 1).text
  executionProfileId := (uuidOf 2).text
  actor := "operator:desk"
  resolvedBy := (uuidOf 1).text
  resolution := .providerAbsent
  evidence := .operatorResolution
  evidenceReference := "ticket-1"
  note := none

/-- The retry of mutation 4 as mutation 5, on a decision of its own. -/
def sampleRetry : RetryIntentInput where
  base := sampleInput 5 none
  parentIntentId := (uuidOf 4).text
  riskDecisionId := (uuidOf 9).text
  authorizationId := "authorization-1"

def resolvedIntent : IntentRow :=
  { openIntent with
    status := .reconciled
    terminalEvidence := some .operatorResolution
    resolution := some .providerAbsent
    reconciliationState := .resolved
    stateVersion := 4
    resolvedAt := some 0 }

/-- The tables after the operator closed mutation 4. -/
def resolvedDb : MutationDb :=
  { consumedDb with
    intents := [resolvedIntent]
    reservations := [{ openReservation with state := .knownRejected, version := 2 }]
    resolutions := [⟨uuidOf 7, uuidOf 4, "operator:desk", some (uuidOf 1), .providerAbsent,
      .operatorResolution, "ticket-1", none, .submitting⟩]
    events := consumedDb.events ++
      [{ mutationEvent openIntent (some .submitting) .reconciled none none with
        evidence := some .operatorResolution
        actor := "operator:desk" }] }

def retryIntent : IntentRow :=
  { secondIntent with
    orderId := some (uuidOf 3)
    parentIntentId := some (uuidOf 4)
    rootIntentId := some (uuidOf 4)
    attempt := 2
    riskDecisionId := some (uuidOf 9) }

/-- The tables after the retry was authorized. -/
def retriedDb : MutationDb :=
  { resolvedDb with
    intents := [{ resolvedIntent with supersededByIntentId := some (uuidOf 5), stateVersion := 5 },
      retryIntent]
    reservations := resolvedDb.reservations ++
      [{ secondReservation with orderId := some (uuidOf 3), riskDecisionId := some (uuidOf 9) }]
    events := resolvedDb.events ++
      [mutationEvent retryIntent none .prepared none none,
        mutationEvent retryIntent (some .prepared) .submitting (some "authorization-1") none] }

/-- The tables after its barrier was consumed too. -/
def overlappedDb : MutationDb :=
  { retriedDb with
    intents := [{ resolvedIntent with supersededByIntentId := some (uuidOf 5), stateVersion := 5 },
      retryIntent.bumped retryIntent]
    events := retriedDb.events ++
      [mutationEvent retryIntent (some .submitting) .submitting none (some 2)] }

theorem retry_prepared :
    resolutionRead sampleResolution consumedDb = .ok (openIntent.bumped openIntent) ∧
    resolutionWrites (openIntent.bumped openIntent) sampleResolution (sampleValues 7) consumedDb =
      .ok resolvedDb ∧
    retryLocate sampleRetry resolvedDb = .ok (uuidOf 4) ∧
    retryParent sampleRetry (uuidOf 4) resolvedDb = .ok resolvedIntent ∧
    retryIdentityReads sampleRetry secondIdentity resolvedIntent resolvedDb = .ok none ∧
    retryLineageReads sampleRetry (uuidOf 4) resolvedIntent resolvedDb = .ok () ∧
    assertFreshRetryAuthorization sampleRetry (sampleValues 5) resolvedDb = .ok () ∧
    prepareRetryWrites sampleLedgerEnv sampleRetry secondIdentity resolvedIntent (sampleValues 5) resolvedDb =
      .ok (retriedDb, sampleBarrier 5 2) ∧
    consumeSubmitBarrier (sampleBarrier 5 2) retriedDb = .ok overlappedDb := by
  have hids : submitIds (retryBase sampleRetry resolvedIntent) =
      .ok ⟨uuidOf 1, uuidOf 2, some (uuidOf 3), some (uuidOf 9), none⟩ := by
    have horder : (retryBase sampleRetry resolvedIntent).orderId = (some (uuidOf 3)).map (·.text) := rfl
    have hdecision : (retryBase sampleRetry resolvedIntent).riskDecisionId =
        (some (uuidOf 9)).map (·.text) := rfl
    exact submitIds_texts rfl rfl horder hdecision rfl
  have hparams : (sampleBarrier 5 2).params = some ⟨uuidOf 5, 2, uuidOf 1, uuidOf 2, 2⟩ :=
    params_sampleBarrier 5 (by decide) (by decide)
  have hintent : sampleResolution.intentId = (uuidOf 4).text := rfl
  have hparent : sampleRetry.parentIntentId = (uuidOf 4).text := rfl
  have hprofile : sampleRetry.base.executionProfileId = (uuidOf 2).text := rfl
  have hrisk : sampleRetry.riskDecisionId = (uuidOf 9).text := rfl
  refine ⟨?_, ?_, ?_, ?_, ?_, ?_, ?_, ?_, ?_⟩
  · rw [resolutionRead, requireIntent, getIntentByText, hintent, requiredUuid_text]
    decide +kernel
  · simp only [resolutionWrites, transitionIntent, updateIntent, IntentRow.checks, text_tests_chars]
    decide +kernel
  · rw [retryLocate, getIntentByText, hparent, requiredUuid_text]
    decide +kernel
  · rw [retryParent, getIntentByText, hparent, requiredUuid_text]
    decide +kernel
  · rw [retryIdentityReads, hprofile, requiredUuid_text]
    decide +kernel
  · rw [retryLineageReads, hprofile, requiredUuid_text]
    decide +kernel
  · rw [assertFreshRetryAuthorization, hprofile, hrisk, requiredUuid_text, requiredUuid_text]
    decide +kernel
  · rw [prepareRetryWrites, hids]
    simp only [authorizeIntent, supersedeParent, insertIntent, updateIntent, insertReservationRow,
      IntentRow.checks, MutationReservationRow.checks, text_tests_chars]
    decide +kernel
  · rw [consumeSubmitBarrier, hparams]
    decide +kernel

/-- An operator closes an intent as absent while its call is open; the retry then calls the provider
beside it, and both submits of the order are accepted. -/
theorem retry_overlaps_open_call :
    let s := Runs.run (mutationStep sampleLedgerEnv) .empty
      (submits 0 4 (some (uuidOf 3)) ++
        [.executeSubmit 0 (sampleBarrier 4 1) .none, next 0 7,
          .resolveByOperator 1
            { intentId := (uuidOf 4).text, userId := (uuidOf 1).text,
              executionProfileId := (uuidOf 2).text, actor := "operator:desk",
              resolvedBy := (uuidOf 1).text, resolution := .providerAbsent,
              evidence := .operatorResolution, evidenceReference := "ticket-1", note := none },
          next 1 7, .prepareRetry 2 sampleRetry, next 2 5, next 2 5, next 2 5, next 2 5, next 2 5,
          .executeSubmit 2 (sampleBarrier 5 2) .none, next 2 7])
    s.db.intents.map (fun r => (r.id, r.orderId)) =
      [(uuidOf 4, some (uuidOf 3)), (uuidOf 5, some (uuidOf 3))] ∧
    s.accepted = [] ∧
    (s.workers 0).calling = some (uuidOf 4) ∧ (s.workers 2).calling = some (uuidOf 5) ∧
    (Runs.run (mutationStep sampleLedgerEnv) s [.accept 0, .accept 2]).accepted = [0, 1] := by
  let calling : MutationState :=
    { consumedState 0 with calls := [0] }.set 0 (.execute (.calling false) .direct (sampleBarrier 4 1) 0)
  let resolved : MutationState :=
    { calling with
      db := resolvedDb
      workers := Function.update calling.workers 1 ⟨.done .resolved, false⟩ }
  let retried : MutationState :=
    { resolved with
      db := retriedDb
      workers := Function.update resolved.workers 2 ⟨.done (.authorized (sampleBarrier 5 2)), false⟩
      issued := resolved.issued ++ [sampleBarrier 5 2]
      retries := resolved.retries ++ [(uuidOf 5, 1)] }
  obtain ⟨hread, hresolution, hlocate, hparent, hidentity, hlineage, hfresh, hwrites, hbarrier⟩ :=
    retry_prepared
  have hresolve : Runs.run (mutationStep sampleLedgerEnv) calling
      [.resolveByOperator 1 sampleResolution, next 1 7] = resolved :=
    run_resolveByOperator rfl rfl hread hresolution
  have hretry : Runs.run (mutationStep sampleLedgerEnv) resolved
      (.prepareRetry 2 sampleRetry :: List.replicate 5 (next 2 5)) = retried :=
    run_prepareRetry rfl rfl second_prepared.1 hlocate hparent hidentity hlineage hfresh hwrites
  let consumed : MutationState :=
    { retried with db := overlappedDb, consumed := [sampleBarrier 4 1, sampleBarrier 5 2] }.set 2
      (.execute .consumed .direct (sampleBarrier 5 2) 1)
  let overlapped : MutationState :=
    { consumed with calls := [0, 1] }.set 2 (.execute (.calling false) .direct (sampleBarrier 5 2) 1)
  have hconsume : mutationStep sampleLedgerEnv retried (.executeSubmit 2 (sampleBarrier 5 2) .none) =
      consumed := by
    rw [executeSubmit_eq rfl, show retried.db = retriedDb from rfl, hbarrier]
    rfl
  have hcalls : mutationStep sampleLedgerEnv (consumedState 0) (next 0 7) = calling ∧
      mutationStep sampleLedgerEnv consumed (next 2 7) = overlapped := ⟨rfl, rfl⟩
  have hrun : Runs.run (mutationStep sampleLedgerEnv) .empty
      (submits 0 4 (some (uuidOf 3)) ++ ([.executeSubmit 0 (sampleBarrier 4 1) .none, next 0 7] ++
        ([.resolveByOperator 1 sampleResolution, next 1 7] ++
          ((.prepareRetry 2 sampleRetry :: List.replicate 5 (next 2 5)) ++
            [.executeSubmit 2 (sampleBarrier 5 2) .none, next 2 7])))) = overlapped := by
    rw [Runs.run_append, run_submits, Runs.run_append]
    simp only [Runs.run_cons, Runs.run_nil, step_consumes, hcalls.1]
    rw [Runs.run_append, hresolve, Runs.run_append, hretry]
    simp only [Runs.run_cons, Runs.run_nil, hconsume, hcalls.2]
  intro s
  rw [show s = overlapped from hrun]
  refine ⟨rfl, rfl, ?_, ?_, rfl⟩
  · exact Uuid.ofText?_text (uuidOf 4)
  · exact Uuid.ofText?_text (uuidOf 5)

end VeltrixEye
