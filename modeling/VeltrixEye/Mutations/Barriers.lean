import VeltrixEye.Mutations.Lineage

/-!
# Barriers and provider calls

A preparation leaves its intent at version 2 and hands out a barrier for that version; a consumption
compares the barrier with the row and advances the version, and only a committed consumption is
followed by a provider call.  So one barrier leads to one call at most.  The row stays `submitting`,
though, and nothing but its version tells that a barrier was consumed: a barrier rebuilt from the row
is consumed again.
-/

namespace VeltrixEye

/-- The barrier issued for an intent, whatever has become of it since. -/
structure BarrierOf (b : SubmitBarrier) (r : IntentRow) : Prop where
  intentId : b.intentId = r.id.text
  clientOrderId : b.clientOrderId = r.clientOrderId
  idempotencyKey : b.idempotencyKey = r.idempotencyKey
  requestHash : b.requestHash = r.requestHash
  attempt : b.attempt = .fin r.attempt
  stateVersion : b.stateVersion = .fin 2
  userId : Uuid.ofText? b.userId = some r.userId
  executionProfileId : Uuid.ofText? b.executionProfileId = some r.executionProfileId
  providerSlug : b.providerSlug = r.providerSlug
  environment : b.environment = r.environment.text
  accountRef : b.accountRef = r.accountRef

theorem BarrierOf.mono {b : SubmitBarrier} {r r' : IntentRow} (h : BarrierOf b r)
    (hev : Evolves r r') : BarrierOf b r' where
  intentId := by rw [h.intentId, hev.id_eq]
  clientOrderId := by rw [h.clientOrderId, hev.column (·.clientOrderId) fun _ => rfl]
  idempotencyKey := by rw [h.idempotencyKey, hev.column (·.idempotencyKey) fun _ => rfl]
  requestHash := by rw [h.requestHash, hev.column (·.requestHash) fun _ => rfl]
  attempt := by rw [h.attempt, hev.column (·.attempt) fun _ => rfl]
  stateVersion := h.stateVersion
  userId := by rw [h.userId, hev.column (·.userId) fun _ => rfl]
  executionProfileId := by
    rw [h.executionProfileId, hev.column (·.executionProfileId) fun _ => rfl]
  providerSlug := by rw [h.providerSlug, hev.column (·.providerSlug) fun _ => rfl]
  environment := by rw [h.environment, hev.column (·.environment) fun _ => rfl]
  accountRef := by rw [h.accountRef, hev.column (·.accountRef) fun _ => rfl]

/-! ## What a preparation issues -/

theorem requiredUuid_ok {text : String} {u : Uuid} (h : requiredUuid text = .ok u) :
    Uuid.ofText? text = some u := by
  unfold requiredUuid at h
  split at h
  · rename_i v hv
    cases h
    exact hv
  · cases h

theorem uuidParam_ok {text : Option String} {u : Option Uuid} (h : uuidParam text = .ok u) :
    u = text.bind Uuid.ofText? := by
  cases text with
  | none => exact (Except.ok.inj h).symm
  | some t =>
    simp only [uuidParam] at h
    split at h
    · rename_i v hv
      cases h
      exact hv.symm
    · cases h

theorem submitIds_ok {input : SubmitIntentInput} {ids : SubmitIds} (h : submitIds input = .ok ids) :
    Uuid.ofText? input.userId = some ids.userId ∧
      Uuid.ofText? input.executionProfileId = some ids.executionProfileId ∧
      ids.orderId = input.orderId.bind Uuid.ofText? ∧
      ids.riskDecisionId = input.riskDecisionId.bind Uuid.ofText? := by
  unfold submitIds at h
  obtain ⟨userId, huser, h⟩ := Except.bind_ok_iff.mp h
  obtain ⟨profileId, hprofile, h⟩ := Except.bind_ok_iff.mp h
  obtain ⟨orderId, horder, h⟩ := Except.bind_ok_iff.mp h
  obtain ⟨decisionId, hdecision, h⟩ := Except.bind_ok_iff.mp h
  obtain ⟨reservationId, -, h⟩ := Except.bind_ok_iff.mp h
  cases h
  exact ⟨requiredUuid_ok huser, requiredUuid_ok hprofile, uuidParam_ok horder,
    uuidParam_ok hdecision⟩

theorem submitBarrier_of {input : SubmitIntentInput} {identity : SubmitIdentity} {ids : SubmitIds}
    {parent : Option IntentRow} {values : StepValues} (h : submitIds input = .ok ids) :
    BarrierOf (submitBarrier input (preparedIntent input identity ids parent values).authorized)
      (preparedIntent input identity ids parent values).authorized := by
  obtain ⟨huser, hprofile, -, -⟩ := submitIds_ok h
  exact ⟨rfl, rfl, rfl, rfl, rfl, by simp [submitBarrier, IntentRow.authorized], huser, hprofile,
    rfl, rfl, rfl⟩

/-! ## What a consumption matches -/

theorem int4In_some {n : JsNumber} {k : ℤ} (h : int4In n = some k) : n = .fin k := by
  cases n with
  | fin q =>
    simp only [int4In] at h
    split at h
    · rename_i hq
      cases h
      exact congrArg JsNumber.fin ((Rat.den_eq_one_iff q).mp hq.1).symm
    · cases h
  | _ => cases h

theorem int4In_natCast {k : ℕ} (h : k < 2 ^ 31) : int4In (.fin k) = some (k : ℤ) := by
  have hk : (k : ℤ) < 2 ^ 31 := by exact_mod_cast h
  have hneg : (-2 ^ 31 : ℤ) ≤ k := by omega
  simp only [int4In, Rat.den_natCast, Rat.num_natCast, true_and]
  rw [if_pos ⟨hneg, hk⟩]

theorem isHex64_storable {t : String} (h : isHex64 t = true) : storable t = true := by
  simp only [isHex64, Bool.and_eq_true, List.all_eq_true] at h
  simp only [storable, List.all_eq_true]
  intro c hc
  have hrange := h.2 c hc
  by_contra hnul
  have hnul : c = '\x00' := by simpa using hnul
  subst hnul
  revert hrange
  decide

theorem BarrierOf.params_eq {b : SubmitBarrier} {r : IntentRow} (h : BarrierOf b r)
    (hchecks : r.checks = true) :
    b.params = some ⟨r.id, 2, r.userId, r.executionProfileId, r.attempt⟩ := by
  have hid : Uuid.ofText? b.intentId = some r.id := by rw [h.intentId, Uuid.ofText?_text]
  simp only [IntentRow.checks, Bool.and_eq_true, decide_eq_true_eq] at hchecks
  have hversion : int4In b.stateVersion = some 2 := by
    rw [h.stateVersion]
    exact int4In_natCast (k := 2) (by norm_num)
  have hattempt : int4In b.attempt = some (r.attempt : ℤ) := by
    rw [h.attempt]
    exact int4In_natCast (by tauto)
  have hstorable : (storable b.clientOrderId && storable b.idempotencyKey &&
      storable b.requestHash && storable b.providerSlug && storable b.environment &&
      b.accountRef.all storable) = true := by
    rw [h.clientOrderId, h.idempotencyKey, h.requestHash, h.providerSlug, h.environment,
      h.accountRef]
    have hkey : storable r.idempotencyKey = true := isHex64_storable (by tauto)
    have hhash : storable r.requestHash = true := isHex64_storable (by tauto)
    have henvironment : storable r.environment.text = true := by cases r.environment <;> decide
    have haccount : r.accountRef.all storable = true := by
      have hall : r.accountRef.all (fun s => storable s && charLengthWithin s 128) = true := by tauto
      cases haccount : r.accountRef with
      | none => rfl
      | some t =>
        simp only [haccount, Option.all_some, Bool.and_eq_true] at hall ⊢
        exact hall.1
    simp only [hkey, hhash, henvironment, haccount, Bool.and_true]
    simp only [Bool.and_eq_true]
    tauto
  simp [SubmitBarrier.params, hid, hversion, h.userId, h.executionProfileId, hattempt, hstorable]

theorem SubmitBarrier.params_ids {b : SubmitBarrier} {p : BarrierParams} (h : b.params = some p) :
    Uuid.ofText? b.intentId = some p.intentId ∧ b.stateVersion = .fin p.stateVersion ∧
      b.attempt = .fin p.attempt := by
  unfold SubmitBarrier.params at h
  simp only [Option.bind_eq_bind, Option.bind_eq_some_iff] at h
  obtain ⟨intentId, hid, version, hversion, userId, -, profileId, -, attempt, hattempt, -, -, h⟩ := h
  cases h
  exact ⟨hid, int4In_some hversion, int4In_some hattempt⟩

theorem BarrierOf.eq_of_claims {b i : SubmitBarrier} {r : IntentRow} {p : BarrierParams}
    (hi : BarrierOf i r) (hparams : b.params = some p) (hclaims : b.claims p r = true)
    (hversion : r.stateVersion = 2) (hintentId : i.intentId = b.intentId)
    (huserId : i.userId = b.userId) (hprofile : i.executionProfileId = b.executionProfileId) :
    i = b := by
  obtain ⟨-, hstate, hattempt⟩ := SubmitBarrier.params_ids hparams
  simp only [SubmitBarrier.claims, Bool.and_eq_true, beq_iff_eq] at hclaims
  obtain ⟨⟨⟨⟨⟨⟨⟨⟨⟨⟨-, hv⟩, -⟩, -⟩, hclient⟩, hkey⟩, ha⟩, hhash⟩, hslug⟩, henv⟩, haccount⟩ := hclaims
  have hversions : i.stateVersion = b.stateVersion := by
    rw [hi.stateVersion, hstate, ← hv, hversion]
    norm_num
  have hattempts : i.attempt = b.attempt := by
    rw [hi.attempt, hattempt, ← ha]
    norm_num
  have hclients := hi.clientOrderId.trans hclient
  have hkeys := hi.idempotencyKey.trans hkey
  have hhashes := hi.requestHash.trans hhash
  have hslugs := hi.providerSlug.trans hslug
  have henvs := hi.environment.trans henv
  have haccounts := hi.accountRef.trans haccount
  cases i
  cases b
  simp_all

/-! ## The record of barriers, consumptions and calls -/

/-- What the record says about the tables and the tasks. -/
structure BarrierInv (s : MutationState) : Prop where
  issued : ∀ b ∈ s.issued, ∃ r ∈ s.db.intents, BarrierOf b r
  holding : ∀ w b, (s.workers w).task = .holding b → b ∈ s.issued
  consumed : ∀ b ∈ s.consumed, ∃ r ∈ s.db.intents,
    Uuid.ofText? b.intentId = some r.id ∧ 3 ≤ r.stateVersion
  serial : ∀ w stage caller b k, (s.workers w).task = .execute stage caller b k →
    s.consumed[k]? = some b
  distinct : ∀ w w' stage stage' caller caller' b b' k,
    (s.workers w).task = .execute stage caller b k →
    (s.workers w').task = .execute stage' caller' b' k → w = w'
  uncalled : ∀ w caller b k, (s.workers w).task = .execute .consumed caller b k → k ∉ s.calls
  nodup : s.calls.Nodup
  bound : ∀ k ∈ s.calls, k < s.consumed.length

section Record

variable {env : MutationEnv} {s s' : MutationState} {action : MutationAction}

theorem Stepped.issued (h : Stepped env s action s') (hinv : MutationInv s) :
    ∀ b ∈ s'.issued, b ∈ s.issued ∨ ∃ r ∈ s'.db.intents, BarrierOf b r := by
  intro b hb
  cases h with
  | submit locks t input identity values db b' issued hwrites ht =>
    obtain ⟨ids, intent, reservation, hids, rfl, -, rfl, rfl⟩ := prepareSubmitWrites_ok hwrites
    rcases ht with ⟨rfl, -⟩ | ⟨rfl, -⟩
    · rcases List.mem_append.mp hb with hb | hb
      · exact .inl hb
      · rw [List.mem_singleton.mp hb]
        exact .inr ⟨_, by simp, submitBarrier_of hids⟩
    · exact .inl hb
  | retry locks t input identity root parent began values db b' issued _ htask hwrites _ hissued =>
    have hholds := hinv.tasks action.worker
    rw [htask] at hholds
    obtain ⟨ids, intent, reservation, hids, rfl, -, -, -, -, -, rfl, rfl⟩ :=
      prepareRetryWrites_ok hinv.compatible hholds.1 hwrites
    rcases hissued with rfl | rfl
    · rcases List.mem_append.mp hb with hb | hb
      · exact .inl hb
      · rw [List.mem_singleton.mp hb]
        exact .inr ⟨_, by simp, submitBarrier_of hids⟩
    · exact .inl hb
  | _ => exact .inl hb

theorem Stepped.issued_mono (h : Stepped env s action s') {b : SubmitBarrier} (hb : b ∈ s.issued) :
    b ∈ s'.issued := by
  cases h with
  | submit locks t input identity values db b' issued _ ht =>
    rcases ht with ⟨rfl, -⟩ | ⟨rfl, -⟩
    · exact List.mem_append_left _ hb
    · exact hb
  | retry locks t input identity root parent began values db b' issued _ _ _ _ hissued =>
    rcases hissued with rfl | rfl
    · exact List.mem_append_left _ hb
    · exact hb
  | _ => exact hb

/-- A task that a step leads to and that carries no barrier. -/
def Task.Free : Task → Prop
  | .holding _ => False
  | .execute _ _ _ _ => False
  | _ => True

theorem Task.Quiet.free {t : Task} (h : t.Quiet) : t.Free := by
  cases t with
  | holding => exact h.elim
  | execute => exact h.elim
  | _ => trivial

theorem Task.Reading.free {t : Task} (h : t.Reading) : t.Free := by
  cases t with
  | holding => exact h.elim
  | execute => exact h.elim
  | _ => trivial

theorem executed_free (caller : SubmitCaller) (result : MutationExecutionResult) :
    (caller.executed result).Free := by
  cases caller <;> trivial

/-- Where the executions of a state come from. -/
structure Executions (s s' : MutationState) (action : MutationAction) : Prop where
  task : ∀ w stage' caller b k, (s'.workers w).task = .execute stage' caller b k →
    (∃ stage, (s.workers w).task = .execute stage caller b k ∧
      (stage' = .consumed → stage = .consumed) ∧
      (stage' = .calling false → stage = .consumed ∨ stage = .calling false)) ∨
    (w = action.worker ∧ k = s.consumed.length ∧ s'.consumed = s.consumed ++ [b] ∧
      s'.calls = s.calls)
  holding : ∀ w b, (s'.workers w).task = .holding b →
    (s.workers w).task = .holding b ∨ b ∈ s'.issued
  calls : s'.calls = s.calls ∨
    ∃ caller b k, (s.workers action.worker).task = .execute .consumed caller b k ∧
      s'.calls = s.calls ++ [k] ∧
      (s'.workers action.worker).task = .execute (.calling false) caller b k

theorem update_task_cases {workers : ℕ → Worker} {w₀ w : ℕ} {t t' : Task} {crashed : Bool}
    (h : (Function.update workers w₀ ⟨t, crashed⟩ w).task = t') :
    (w = w₀ ∧ t = t') ∨ (workers w).task = t' := by
  by_cases hw : w = w₀
  · subst hw
    exact .inl ⟨rfl, by simpa using h⟩
  · exact .inr (by simpa [Function.update_of_ne hw] using h)

theorem Executions.refl (hworkers : ∀ w, (s'.workers w).task = (s.workers w).task)
    (hcalls : s'.calls = s.calls) : Executions s s' action where
  task w stage' caller b k ht := .inl ⟨stage', by rw [← hworkers, ht], id, .inr⟩
  holding w b ht := .inl (by rw [← hworkers, ht])
  calls := .inl hcalls

theorem Executions.free {t : Task} {crashed : Bool} (ht : t.Free)
    (hworkers : s'.workers = Function.update s.workers action.worker ⟨t, crashed⟩)
    (hcalls : s'.calls = s.calls) : Executions s s' action where
  task w stage' caller b k h := by
    rw [hworkers] at h
    rcases update_task_cases h with ⟨-, rfl⟩ | h
    · exact ht.elim
    · exact .inl ⟨stage', h, id, .inr⟩
  holding w b h := by
    rw [hworkers] at h
    rcases update_task_cases h with ⟨-, rfl⟩ | h
    · exact ht.elim
    · exact .inl h
  calls := .inl hcalls

theorem Executions.move {stage stage₀ : ExecuteStage} {caller₀ : SubmitCaller} {b₀ : SubmitBarrier}
    {k₀ : ℕ} {crashed : Bool}
    (hold : (s.workers action.worker).task = .execute stage₀ caller₀ b₀ k₀)
    (hworkers : s'.workers = Function.update s.workers action.worker
      ⟨.execute stage caller₀ b₀ k₀, crashed⟩)
    (hstage : stage ≠ .consumed ∧ stage ≠ .calling false) (hcalls : s'.calls = s.calls) :
    Executions s s' action where
  task w stage' caller b k h := by
    rw [hworkers] at h
    rcases update_task_cases h with ⟨rfl, heq⟩ | h
    · cases heq
      exact .inl ⟨stage₀, hold, fun hconsumed => absurd hconsumed hstage.1,
        fun hcalling => absurd hcalling hstage.2⟩
    · exact .inl ⟨stage', h, id, .inr⟩
  holding w b h := by
    rw [hworkers] at h
    rcases update_task_cases h with ⟨-, heq⟩ | h
    · cases heq
    · exact .inl h
  calls := .inl hcalls

theorem ExecuteMove.target {db : MutationDb} {b : SubmitBarrier} {values : StepValues}
    {fault : Fault} {stage stage' : ExecuteStage} (h : ExecuteMove db b values fault stage stage') :
    stage' ≠ .consumed ∧ stage' ≠ .calling false := by
  cases h <;> simp

theorem Stepped.executions (h : Stepped env s action s') : Executions s s' action := by
  cases h with
  | stay => exact .refl (fun _ => rfl) rfl
  | quiet locks t ht => exact .free ht.free rfl rfl
  | read locks t _ hreading => exact .free hreading.free rfl rfl
  | fresh input identity root parent began values fault _ _ _ => exact .free (by trivial) rfl rfl
  | submit locks t input identity values db b issued _ ht =>
    rcases ht with ⟨rfl, rfl | rfl⟩ | ⟨rfl, ht⟩
    · exact .free (by trivial) rfl rfl
    · refine ⟨fun w stage' caller b' k hw => ?_, fun w b' hw => ?_, .inl rfl⟩
      · rcases update_task_cases hw with ⟨-, heq⟩ | hw
        · cases heq
        · exact .inl ⟨stage', hw, id, .inr⟩
      · rcases update_task_cases hw with ⟨-, heq⟩ | hw
        · cases heq
          exact .inr (by simp)
        · exact .inl hw
    · exact .free ht.free rfl rfl
  | retry locks t input identity root parent began values db b issued _ _ _ ht _ =>
    exact .free ht.free rfl rfl
  | consume t caller b db _ _ ht =>
    rcases ht with rfl | ht
    · refine ⟨fun w stage' caller' b' k hw => ?_, fun w b' hw => ?_, .inl rfl⟩
      · rcases update_task_cases hw with ⟨hown, heq⟩ | hw
        · cases heq
          exact .inr ⟨hown, rfl, rfl, rfl⟩
        · exact .inl ⟨stage', hw, id, .inr⟩
      · rcases update_task_cases hw with ⟨-, heq⟩ | hw
        · cases heq
        · exact .inl hw
    · exact .free ht.free rfl rfl
  | call caller b serial _ htask =>
    refine ⟨fun w stage' caller' b' k hw => ?_, fun w b' hw => ?_,
      .inr ⟨caller, b, serial, htask, rfl, by simp [MutationState.next]⟩⟩
    · rcases update_task_cases hw with ⟨rfl, heq⟩ | hw
      · cases heq
        exact .inl ⟨.consumed, htask, nofun, fun _ => .inl rfl⟩
      · exact .inl ⟨stage', hw, id, .inr⟩
    · rcases update_task_cases hw with ⟨-, heq⟩ | hw
      · cases heq
      · exact .inl hw
  | move locks stage stage' caller b serial values fault _ htask hmove =>
    exact .move htask rfl hmove.target rfl
  | receipt stage caller b serial n values db htask _ hstage =>
    refine .move htask rfl ?_ rfl
    rcases hstage with rfl | rfl <;> simp
  | apply locks t caller b serial n receiptId intent values fault db state _ _ _ htask _ ht =>
    rcases ht with rfl | rfl
    · exact .free (executed_free _ _) rfl rfl
    · exact .move htask rfl (by simp) rfl
  | report caller b serial n receiptId _ => exact .free (executed_free _ _) rfl rfl
  | observe t intent input values fault db resolution _ _ _ _ _ ht => exact .free ht.free rfl rfl
  | resolve t intent input values fault db _ _ _ _ _ ht => exact .free ht.free rfl rfl
  | recover locks t queue fresh recovered values db state _ _ ht => exact .free ht.free rfl rfl
  | duplicate intent _ => exact .free (by trivial) rfl rfl
  | accept w caller b serial crashed haction htask =>
    subst haction
    exact .move (by rw [MutationAction.worker, htask]) rfl (by simp) rfl
  | crash w locks =>
    refine .refl (fun w' => ?_) rfl
    by_cases hw : w' = w
    · subst hw
      simp
    · simp [Function.update_of_ne hw]

theorem Stepped.consumed (h : Stepped env s action s') :
    s'.consumed = s.consumed ∨
      ∃ b p old, s'.consumed = s.consumed ++ [b] ∧
        ((s.workers action.worker).task = .holding b ∨
          ∃ w fault, action = .executeSubmit w b fault) ∧
        b.params = some p ∧ old ∈ s.db.intents ∧ old.id = p.intentId ∧ b.claims p old = true ∧
        s'.db.intents = putIntent s.db.intents (old.bumped old) := by
  cases h with
  | consume t caller b db hb hconsume ht =>
    obtain ⟨p, old, hparams, hold, hid, hclaims, -, -, rfl⟩ := consumeSubmitBarrier_ok hconsume
    exact .inr ⟨b, p, old, rfl, hb, hparams, hold, hid, hclaims, rfl⟩
  | _ => exact .inl rfl

theorem Stepped.consumed_getElem? (h : Stepped env s action s') {k : ℕ} {b : SubmitBarrier}
    (hb : s.consumed[k]? = some b) : s'.consumed[k]? = some b := by
  rcases h.consumed with heq | ⟨b', p, old, heq, -⟩
  · rw [heq, hb]
  · rw [heq, List.getElem?_append_left (List.getElem?_eq_some_iff.mp hb).1, hb]

theorem Stepped.consumed_version (h : Stepped env s action s') (hinv : MutationInv s)
    (hrows : LedgerRows s.db)
    (hconsumed : ∀ b ∈ s.consumed, ∃ r ∈ s.db.intents,
      Uuid.ofText? b.intentId = some r.id ∧ 3 ≤ r.stateVersion) :
    ∀ b ∈ s'.consumed, ∃ r ∈ s'.db.intents,
      Uuid.ofText? b.intentId = some r.id ∧ 3 ≤ r.stateVersion := by
  have hold : ∀ b ∈ s.consumed, ∃ r ∈ s'.db.intents,
      Uuid.ofText? b.intentId = some r.id ∧ 3 ≤ r.stateVersion := by
    intro b hb
    obtain ⟨r, hr, hid, hversion⟩ := hconsumed b hb
    obtain ⟨r', hr', hev⟩ := (h.change hinv).later hinv.compatible hr
    exact ⟨r', hr', by rw [hid, hev.id_eq], hversion.trans hev.version⟩
  intro b hb
  rcases h.consumed with heq | ⟨b', p, old, heq, -, hparams, hmem, hid, -, hintents⟩
  · exact hold b (heq ▸ hb)
  · rw [heq] at hb
    rcases List.mem_append.mp hb with hb | hb
    · exact hold b hb
    · rw [List.mem_singleton.mp hb]
      refine ⟨old.bumped old, ?_, ?_, ?_⟩
      · rw [hintents]
        exact mem_putIntent_self hmem rfl
      · rw [(SubmitBarrier.params_ids hparams).1, ← hid]
        rfl
      · have hversion := hrows.version old hmem
        have hbumped : (old.bumped old).stateVersion = old.stateVersion + 1 := rfl
        omega

theorem barrierInv_stepped (h : Stepped env s action s') (hinv : MutationInv s)
    (hrows : LedgerRows s.db) (hb : BarrierInv s) : BarrierInv s' := by
  have hexec := h.executions
  -- an execution of the old state has its serial below the length of the record
  have hbelow : ∀ w stage caller b k, (s.workers w).task = .execute stage caller b k →
      k < s.consumed.length := fun w stage caller b k ht =>
    (List.getElem?_eq_some_iff.mp (hb.serial w stage caller b k ht)).1
  refine ⟨fun b hmem => ?_, fun w b ht => ?_, h.consumed_version hinv hrows hb.consumed,
    fun w stage caller b k ht => ?_, fun w w' stage stage' caller caller' b b' k ht ht' => ?_,
    fun w caller b k ht => ?_, ?_, fun k hk => ?_⟩
  · rcases h.issued hinv b hmem with hold | hnew
    · obtain ⟨r, hr, hof⟩ := hb.issued b hold
      obtain ⟨r', hr', hev⟩ := (h.change hinv).later hinv.compatible hr
      exact ⟨r', hr', hof.mono hev⟩
    · exact hnew
  · rcases hexec.holding w b ht with hold | hnew
    · exact h.issued_mono (hb.holding w b hold)
    · exact hnew
  · rcases hexec.task w stage caller b k ht with ⟨stage₀, hold, -, -⟩ | ⟨-, rfl, heq, -⟩
    · exact h.consumed_getElem? (hb.serial w stage₀ caller b k hold)
    · simp [heq]
  · rcases hexec.task w stage caller b k ht with ⟨stage₀, hold, -, -⟩ | ⟨hw, hk, -⟩
    · rcases hexec.task w' stage' caller' b' k ht' with ⟨stage₁, hold', -, -⟩ | ⟨-, hk', -⟩
      · exact hb.distinct w w' stage₀ stage₁ caller caller' b b' k hold hold'
      · have := hbelow w stage₀ caller b k hold
        omega
    · rcases hexec.task w' stage' caller' b' k ht' with ⟨stage₁, hold', -, -⟩ | ⟨hw', -⟩
      · have := hbelow w' stage₁ caller' b' k hold'
        omega
      · rw [hw, hw']
  · rcases hexec.task w .consumed caller b k ht with ⟨stage₀, hold, hstage, -⟩ | ⟨-, rfl, -, hcalls⟩
    · rw [hstage rfl] at hold
      rcases hexec.calls with hcalls | ⟨caller₁, b₁, k₁, hown, hcalls, hcalling⟩
      · rw [hcalls]
        exact hb.uncalled w caller b k hold
      · rw [hcalls, List.mem_append, List.mem_singleton]
        rintro (hk | rfl)
        · exact hb.uncalled w caller b k hold hk
        · -- the worker that made the call has left the stage
          rw [hb.distinct w action.worker _ _ _ _ _ _ k hold hown, hcalling] at ht
          cases ht
    · rw [hcalls]
      intro hk
      have := hb.bound _ hk
      omega
  · rcases hexec.calls with hcalls | ⟨caller₁, b₁, k₁, hown, hcalls, -⟩
    · rw [hcalls]
      exact hb.nodup
    · rw [hcalls]
      refine List.nodup_append.mpr ⟨hb.nodup, List.nodup_singleton _, fun x hx y hy => ?_⟩
      rintro rfl
      rw [List.mem_singleton.mp hy] at hx
      exact hb.uncalled _ _ _ _ hown hx
  · have hlength : s.consumed.length ≤ s'.consumed.length := by
      rcases h.consumed with heq | ⟨b', p, old, heq, -⟩ <;> simp [heq]
    have hbound : k < s.consumed.length := by
      rcases hexec.calls with hcalls | ⟨caller₁, b₁, k₁, hown, hcalls, -⟩
      · exact hb.bound k (hcalls ▸ hk)
      · rw [hcalls] at hk
        rcases List.mem_append.mp hk with hk | hk
        · exact hb.bound k hk
        · rw [List.mem_singleton.mp hk]
          exact hbelow _ _ _ _ _ hown
    omega

theorem barrierInv_empty : BarrierInv MutationState.empty := by
  constructor <;> simp [MutationState.empty]

/-- The three invariants together. -/
structure CallInv (s : MutationState) : Prop where
  tasks : MutationInv s
  rows : LedgerRows s.db
  barriers : BarrierInv s

theorem callInv_step (s : MutationState) (action : MutationAction) (h : CallInv s) :
    CallInv (mutationStep env s action) := by
  have hstepped := mutationStep_stepped env action h.tasks.tasks
  exact ⟨mutationInv_step s action h.tasks,
    ledgerRows_change h.tasks.compatible (hstepped.change h.tasks) h.rows,
    barrierInv_stepped hstepped h.tasks h.rows h.barriers⟩

theorem callInv_empty : CallInv MutationState.empty :=
  ⟨mutationInv_empty, by constructor <;> simp [MutationState.empty, MutationDb.empty],
    barrierInv_empty⟩

/-- **What the record says holds in every state of every run.** -/
theorem callInv_reached {actions : List MutationAction}
    (h : Runs.Reached (mutationStep env) .empty actions s) : CallInv s :=
  Runs.inv_of_reached_always _ callInv_step callInv_empty h

end Record

/-! ## At most one call per intent -/

/-- Barriers are not made up: what is passed to `executeSubmit` was issued. -/
def passesIssuedBarriers (s : MutationState) : MutationAction → Prop
  | .executeSubmit _ b _ => b ∈ s.issued
  | _ => True

instance (s : MutationState) (action : MutationAction) :
    Decidable (passesIssuedBarriers s action) :=
  match action with
  | .executeSubmit _ b _ => inferInstanceAs (Decidable (b ∈ s.issued))
  | .prepareSubmit _ _ => .isTrue trivial
  | .submitOrderThroughGate9 _ _ => .isTrue trivial
  | .prepareRetry _ _ => .isTrue trivial
  | .recordReconciliationObservation _ _ => .isTrue trivial
  | .resolveByOperator _ _ => .isTrue trivial
  | .recoverAfterRestart _ _ _ => .isTrue trivial
  | .advance _ _ _ _ => .isTrue trivial
  | .accept _ => .isTrue trivial
  | .crash _ => .isTrue trivial

/-- The intent of a barrier. -/
def SubmitBarrier.intent? (b : SubmitBarrier) : Option Uuid := Uuid.ofText? b.intentId

/-- The intent of a consumption. -/
def MutationState.consumedIntent? (s : MutationState) (serial : ℕ) : Option Uuid :=
  (s.consumed[serial]?).bind (·.intent?)

/-- The intents of the provider calls, in order. -/
def MutationState.calledIntents (s : MutationState) : List (Option Uuid) :=
  s.calls.map s.consumedIntent?

/-- No intent is consumed twice. -/
structure ConsumedOnce (s : MutationState) : Prop where
  issued : ∀ b ∈ s.consumed, b ∈ s.issued
  nodup : (s.consumed.map (·.intent?)).Nodup

section Once

variable {env : MutationEnv} {s s' : MutationState} {action : MutationAction}

theorem BarrierOf.claims_version {b : SubmitBarrier} {r old : IntentRow} {p : BarrierParams}
    (h : BarrierOf b r) (hchecks : r.checks = true) (hparams : b.params = some p)
    (hclaims : b.claims p old = true) : p.intentId = r.id ∧ old.stateVersion = 2 := by
  rw [h.params_eq hchecks] at hparams
  cases hparams
  simp only [SubmitBarrier.claims, Bool.and_eq_true, beq_iff_eq] at hclaims
  refine ⟨rfl, ?_⟩
  have hversion := hclaims.1.1.1.1.1.1.1.1.1.2
  exact_mod_cast hversion

theorem consumedOnce_stepped (h : Stepped env s action s') (hinv : CallInv s)
    (hok : passesIssuedBarriers s action) (honce : ConsumedOnce s) : ConsumedOnce s' := by
  rcases h.consumed with heq | ⟨b, p, old, heq, hb, hparams, hmem, hid, hclaims, -⟩
  · refine ⟨fun b hb => ?_, by rw [heq]; exact honce.nodup⟩
    rw [heq] at hb
    exact h.issued_mono (honce.issued b hb)
  · have hissued : b ∈ s.issued := by
      rcases hb with hholding | ⟨w, fault, rfl⟩
      · exact hinv.barriers.holding _ b hholding
      · exact hok
    obtain ⟨r, hr, hof⟩ := hinv.barriers.issued b hissued
    obtain ⟨-, hversion⟩ := hof.claims_version (hinv.rows.checks r hr) hparams hclaims
    have hintent : b.intent? = some old.id := by
      rw [SubmitBarrier.intent?, (SubmitBarrier.params_ids hparams).1, hid]
    refine ⟨fun b' hb' => ?_, ?_⟩
    · rw [heq] at hb'
      rcases List.mem_append.mp hb' with hb' | hb'
      · exact h.issued_mono (honce.issued b' hb')
      · rw [List.mem_singleton.mp hb']
        exact h.issued_mono hissued
    · rw [heq, List.map_append]
      refine List.nodup_append.mpr ⟨honce.nodup, List.nodup_singleton _, fun x hx y hy => ?_⟩
      rintro rfl
      rw [List.map_singleton, List.mem_singleton] at hy
      obtain ⟨b', hb', rfl⟩ := List.mem_map.mp hx
      -- an intent consumed before has gone past the version that was issued
      obtain ⟨r', hr', hid', hpast⟩ := hinv.barriers.consumed b' hb'
      have hsame : r' = old := by
        refine eq_of_id_eq hinv.tasks.compatible hr' hmem ?_
        rw [hintent, SubmitBarrier.intent?, hid'] at hy
        exact Option.some.inj hy
      rw [hsame] at hpast
      omega

theorem consumedIntent_inj (honce : ConsumedOnce s) {k k' : ℕ} (hk : k < s.consumed.length)
    (hk' : k' < s.consumed.length) (h : s.consumedIntent? k = s.consumedIntent? k') : k = k' := by
  have hlt : k < (s.consumed.map (·.intent?)).length := by rwa [List.length_map]
  have hlt' : k' < (s.consumed.map (·.intent?)).length := by rwa [List.length_map]
  refine (@List.Nodup.getElem_inj_iff _ _ honce.nodup k hlt k' hlt').mp ?_
  simpa [MutationState.consumedIntent?, List.getElem?_eq_getElem hk,
    List.getElem?_eq_getElem hk'] using h

theorem calledIntents_nodup (hinv : BarrierInv s) (honce : ConsumedOnce s) :
    s.calledIntents.Nodup :=
  List.Nodup.map_on (fun k hk k' hk' hsame =>
    consumedIntent_inj honce (hinv.bound k hk) (hinv.bound k' hk') hsame) hinv.nodup

theorem calledIntents_mem (hinv : BarrierInv s) {id : Option Uuid} (hid : id ∈ s.calledIntents) :
    ∃ r ∈ s.db.intents, id = some r.id := by
  obtain ⟨k, hk, rfl⟩ := List.mem_map.mp hid
  have hlt := hinv.bound k hk
  obtain ⟨r, hr, hrid, -⟩ := hinv.consumed s.consumed[k] (List.getElem_mem hlt)
  refine ⟨r, hr, ?_⟩
  rw [MutationState.consumedIntent?, List.getElem?_eq_getElem hlt]
  exact hrid

/-- **Issued barriers lead to at most one provider call per intent**, in every state of every run:
whatever the workers do, however often a barrier is passed, and wherever they crash.  A call is made
only for a consumption that was committed before it, while the intent was `submitting`. -/
theorem provider_called_once (env : MutationEnv) (actions : List MutationAction)
    (hissued : Runs.Meets (mutationStep env) passesIssuedBarriers .empty actions)
    (s : MutationState) (h : Runs.Reached (mutationStep env) .empty actions s) :
    s.calledIntents.Nodup ∧
    (∀ id ∈ s.calledIntents, ∃ r ∈ s.db.intents, id = some r.id) ∧
    (∀ a ∈ s.db.intents, ∀ b ∈ s.db.intents, some a.id ∈ s.calledIntents →
      some b.id ∈ s.calledIntents → a.executionProfileId = b.executionProfileId →
      (a.clientOrderId = b.clientOrderId ∨ a.idempotencyKey = b.idempotencyKey ∨
        a.requestHash = b.requestHash) → a = b) ∧
    ∀ action,
      (∀ b, (mutationStep env s action).consumed = s.consumed ++ [b] →
        ∃ r ∈ s.db.intents, b.intent? = some r.id ∧ r.status = .submitting) ∧
      (∀ k, (mutationStep env s action).calls = s.calls ++ [k] → k < s.consumed.length) := by
  have hstep : ∀ s action, (CallInv s ∧ ConsumedOnce s) → passesIssuedBarriers s action →
      CallInv (mutationStep env s action) ∧ ConsumedOnce (mutationStep env s action) := by
    rintro s action ⟨hinv, honce⟩ hok
    exact ⟨callInv_step s action hinv,
      consumedOnce_stepped (mutationStep_stepped env action hinv.tasks.tasks) hinv hok honce⟩
  have hempty : ConsumedOnce MutationState.empty := by
    constructor <;> simp [MutationState.empty]
  obtain ⟨hinv, honce⟩ := Runs.inv_of_reached _ hstep ⟨callInv_empty, hempty⟩ hissued h
  refine ⟨calledIntents_nodup hinv.barriers honce, fun id hid => calledIntents_mem hinv.barriers hid,
    fun a ha b hb _ _ hprofile hidentity => ?_, fun action => ⟨fun b hb => ?_, fun k hk => ?_⟩⟩
  · by_contra hne
    have hcompatible := compatible_of_ne hinv.tasks.compatible ha hb hne
    rcases hidentity with hsame | hsame | hsame
    · simpa [IntentIndex.collide, hsame] using hcompatible .clientOrder
    · simpa [IntentIndex.collide, hsame, hprofile] using hcompatible .idempotency
    · simpa [IntentIndex.collide, hsame, hprofile] using hcompatible .request
  · rcases (mutationStep_stepped env action hinv.tasks.tasks).consumed with
      heq | ⟨b', p, old, heq, -, hparams, hmem, hid, hclaims, -⟩
    · simp [heq] at hb
    · rw [heq] at hb
      obtain rfl : b' = b := by simpa using hb
      refine ⟨old, hmem, ?_, claims_status hclaims⟩
      rw [SubmitBarrier.intent?, (SubmitBarrier.params_ids hparams).1, hid]
  · rcases (mutationStep_stepped env action hinv.tasks.tasks).executions.calls with
      heq | ⟨caller, b, k', hown, heq, -⟩
    · simp [heq] at hk
    · rw [heq] at hk
      obtain rfl : k' = k := by simpa using hk
      exact (List.getElem?_eq_some_iff.mp (hinv.barriers.serial _ _ _ _ _ hown)).1

end Once

/-! ## Consumptions -/

/-- `executeSubmit` of a worker that may start and finds the intent's lock free. -/
def MutationState.canExecute (s : MutationState) (w : ℕ) (b : SubmitBarrier) : Bool :=
  !(s.workers w).crashed && (s.workers w).task.ready && !s.blocked w [intentLockKey b.intentId]

section Consumptions

variable {env : MutationEnv} {s : MutationState} {w : ℕ} {b : SubmitBarrier}

theorem executeSubmit_eq (h : s.canExecute w b = true) :
    mutationStep env s (.executeSubmit w b .none) =
      match consumeSubmitBarrier b s.db with
      | .error e => s.set w (.done (.threw e))
      | .ok db =>
        { s with db, consumed := s.consumed ++ [b] }.set w
          (.execute .consumed .direct b s.consumed.length) := by
  simp only [MutationState.canExecute, Bool.and_eq_true, Bool.not_eq_true'] at h
  obtain ⟨⟨hcrashed, hready⟩, hblocked⟩ := h
  simp only [mutationStep, MutationAction.worker, hcrashed, hready, start, consume, hblocked,
    SubmitCaller.threw]
  cases consumeSubmitBarrier b s.db <;> rfl

theorem consumeSubmitBarrier_refused {p : BarrierParams} (hparams : b.params = some p) :
    (∃ message, consumeSubmitBarrier b s.db = .error (.mutation .barrierNotConsumable message)) ↔
      ∀ r ∈ s.db.intents, r.id = p.intentId → b.claims p r = false := by
  unfold consumeSubmitBarrier
  simp only [hparams]
  cases hupdate : updateIntent s.db.intents p.intentId (b.claims p) id with
  | error e =>
    simp only [Except.error.injEq, MutationError.mutation.injEq, reduceCtorEq, false_and,
      exists_false, false_iff, not_forall]
    unfold updateIntent at hupdate
    split at hupdate
    · cases hupdate
    rename_i old hfind
    have hguard := List.find?_some hfind
    simp only [Bool.and_eq_true, beq_iff_eq] at hguard
    exact ⟨old, List.mem_of_find?_eq_some hfind, hguard.1, by simp [hguard.2]⟩
  | ok result =>
    obtain ⟨rows, written⟩ := result
    cases written with
    | none =>
      simp only [Except.error.injEq, MutationError.mutation.injEq, true_and, exists_eq', true_iff]
      exact (updateIntent_none hupdate).1
    | some new =>
      simp only [reduceCtorEq, exists_false, false_iff, not_forall]
      obtain ⟨old, hold, hid, hclaims, -⟩ := updateIntent_ok hupdate
      exact ⟨old, hold, hid, by simp [hclaims]⟩

end Consumptions

theorem params_sampleBarrier (n : Fin 16) {attempt version : JsNumber} {k v : ℤ}
    (hattempt : int4In attempt = some k) (hversion : int4In version = some v) :
    { sampleBarrier n attempt with stateVersion := version }.params =
      some ⟨uuidOf n, v, uuidOf 1, uuidOf 2, k⟩ := by
  have hdigit : hexCharOf n ≠ '\x00' := by
    revert n
    decide
  simp [SubmitBarrier.params, sampleBarrier, sampleInput, hattempt, hversion, storable, hdigit]

theorem params_first (n : Fin 16) :
    (sampleBarrier n 1).params = some ⟨uuidOf n, 2, uuidOf 1, uuidOf 2, 1⟩ :=
  params_sampleBarrier n (by decide) (by decide)

/-- The tables after its barrier is consumed. -/
def consumedDb : MutationDb :=
  { preparedState.db with
    intents := [openIntent.bumped openIntent]
    events := preparedState.db.events ++
      [mutationEvent openIntent (some .submitting) .submitting none (some 2)] }

theorem consume_sample : consumeSubmitBarrier (sampleBarrier 4 1) preparedState.db = .ok consumedDb := by
  rw [consumeSubmitBarrier, params_first]
  decide +kernel

/-- The state after worker `w` consumed it. -/
def consumedState (w : ℕ) : MutationState :=
  { preparedState with db := consumedDb, consumed := [sampleBarrier 4 1] }.set w
    (.execute .consumed .direct (sampleBarrier 4 1) 0)

theorem step_consumes (w : ℕ) : mutationStep sampleLedgerEnv preparedState
    (.executeSubmit w (sampleBarrier 4 1) .none) = consumedState w := by
  have hcan : preparedState.canExecute w (sampleBarrier 4 1) = true := by
    by_cases hw : w = 0 <;>
      simp [MutationState.canExecute, preparedState, hw, MutationState.empty, Task.ready, MutationState.blocked]
  rw [executeSubmit_eq hcan, consume_sample]
  rfl

/-- Two workers race with one barrier. -/
def barrierRace : List MutationAction :=
  submits 0 4 (some (uuidOf 3)) ++
    [.executeSubmit 1 (sampleBarrier 4 1) .none, .executeSubmit 2 (sampleBarrier 4 1) .none,
      next 1 5, next 2 5]

theorem barrierRace_run :
    (Runs.run (mutationStep sampleLedgerEnv) .empty barrierRace).calledIntents = [some (uuidOf 4)] ∧
      Runs.Meets (mutationStep sampleLedgerEnv) passesIssuedBarriers .empty barrierRace := by
  obtain ⟨message, hagain⟩ := (consumeSubmitBarrier_refused (s := consumedState 1) (params_first 4)).mpr
    (by decide)
  have hrefused : mutationStep sampleLedgerEnv (consumedState 1) (.executeSubmit 2 (sampleBarrier 4 1) .none) =
      (consumedState 1).set 2 (.done (.threw (.mutation .barrierNotConsumable message))) := by
    rw [executeSubmit_eq (by decide), hagain]
  rw [barrierRace, Runs.run_append, Runs.meets_append, run_submits]
  simp only [Runs.run_cons, Runs.run_nil, Runs.Meets, step_consumes, hrefused]
  constructor
  · simp [next, mutationStep, advance, advanceExecute, consumedState, MutationState.set, preparedState,
      MutationState.empty, MutationState.calledIntents, MutationState.consumedIntent?, SubmitBarrier.intent?,
      sampleBarrier]
  · simp [submits, next, passesIssuedBarriers, consumedState, MutationState.set, preparedState, Runs.Meets]

/-- The race calls the provider once. -/
theorem provider_called_once_race :
    let actions := submits 0 4 (some (uuidOf 3)) ++
      [.executeSubmit 1 (sampleBarrier 4 1) .none, .executeSubmit 2 (sampleBarrier 4 1) .none,
        next 1 5, next 2 5]
    let s := Runs.run (mutationStep sampleLedgerEnv) .empty actions
    s.calledIntents = [some (uuidOf 4)] ∧ s.calledIntents.Nodup :=
  ⟨barrierRace_run.1, (provider_called_once sampleLedgerEnv barrierRace barrierRace_run.2 _
    (Runs.reached_last _ _ _)).1⟩

/-- The provider is called after a recovery has moved the intent on. -/
theorem call_after_recovery :
    let actions := submits 0 4 (some (uuidOf 3)) ++
      [.executeSubmit 0 (sampleBarrier 4 1) .none, .recoverAfterRestart 1 none [], next 1 5, next 1 5]
    let s := Runs.run (mutationStep sampleLedgerEnv) .empty actions
    Runs.Meets (mutationStep sampleLedgerEnv) passesIssuedBarriers .empty actions ∧
    s.db.intents.map (·.status) = [.uncertain] ∧ s.calls = [] ∧
    (mutationStep sampleLedgerEnv s (next 0 5)).calledIntents = [some (uuidOf 4)] := by
  have hsubmits : Runs.Meets (mutationStep sampleLedgerEnv) passesIssuedBarriers .empty
      (submits 0 4 (some (uuidOf 3))) := by
    simp [submits, next, Runs.Meets, passesIssuedBarriers]
  dsimp only
  rw [Runs.run_append, Runs.meets_append, run_submits, and_assoc]
  refine ⟨hsubmits, ?_⟩
  simp only [Runs.run_cons, Runs.Meets, step_consumes]
  decide +kernel

/-! ## Barriers that were not issued -/

/-- A barrier that was issued and not consumed. -/
def Authentic (s : MutationState) (b : SubmitBarrier) : Prop := b ∈ s.issued ∧ b ∉ s.consumed

/-- `executeSubmit` goes on to the provider call with an authentic barrier only, and refuses every
other one as not consumable, without a write. -/
def ExecutesAuthentic (env : MutationEnv) (s : MutationState) (w : ℕ) (b : SubmitBarrier) : Prop :=
  ((∃ k, ((mutationStep env s (.executeSubmit w b .none)).workers w).task =
      .execute .consumed .direct b k) → Authentic s b) ∧
  (¬Authentic s b →
    (∃ message, ((mutationStep env s (.executeSubmit w b .none)).workers w).task =
      .done (.threw (.mutation .barrierNotConsumable message))) ∧
    (mutationStep env s (.executeSubmit w b .none)).db = s.db)

/-- A row the barrier matches is as it was authorized, and was issued under the same spellings. -/
def MatchesIssued (s : MutationState) (b : SubmitBarrier) : Prop :=
  ∀ p r, b.params = some p → r ∈ s.db.intents → r.id = p.intentId → b.claims p r = true →
    r.stateVersion = 2 ∧ ∃ i ∈ s.issued, i.intentId = b.intentId ∧ i.userId = b.userId ∧
      i.executionProfileId = b.executionProfileId

section Forged

variable {env : MutationEnv} {s : MutationState} {w : ℕ} {b : SubmitBarrier}

theorem consumeSubmitBarrier_unreadable (h : b.params = none) :
    consumeSubmitBarrier b s.db = .error (.mutation .preCallPersistenceFailed
      "Durable barrier consumption failed; no provider call is permitted") := by
  simp [consumeSubmitBarrier, h]

theorem executesAuthentic_iff (h : s.canExecute w b = true) :
    ExecutesAuthentic env s w b ↔ Authentic s b ∨
      ∃ message, consumeSubmitBarrier b s.db =
        .error (.mutation .barrierNotConsumable message) := by
  unfold ExecutesAuthentic
  rw [executeSubmit_eq h]
  cases hconsume : consumeSubmitBarrier b s.db with
  | error e =>
    constructor
    · rintro ⟨-, hrefused⟩
      by_cases hauthentic : Authentic s b
      · exact .inl hauthentic
      · obtain ⟨⟨message, htask⟩, -⟩ := hrefused hauthentic
        simp [MutationState.set] at htask
        exact .inr ⟨message, by rw [htask]⟩
    · rintro (hauthentic | ⟨message, hmessage⟩)
      · exact ⟨fun _ => hauthentic, fun hnot => absurd hauthentic hnot⟩
      · cases hmessage
        refine ⟨?_, fun _ => ⟨⟨message, by simp [MutationState.set]⟩, rfl⟩⟩
        rintro ⟨k, htask⟩
        simp [MutationState.set] at htask
  | ok db =>
    constructor
    · rintro ⟨hcalls, -⟩
      exact .inl (hcalls ⟨s.consumed.length, by simp [MutationState.set]⟩)
    · rintro (hauthentic | ⟨message, hmessage⟩)
      · exact ⟨fun _ => hauthentic, fun hnot => absurd hauthentic hnot⟩
      · cases hmessage

theorem authentic_of_matches (hinv : CallInv s) (hmatches : MatchesIssued s b) {p : BarrierParams}
    {r : IntentRow} (hparams : b.params = some p) (hr : r ∈ s.db.intents) (hid : r.id = p.intentId)
    (hclaims : b.claims p r = true) : Authentic s b := by
  obtain ⟨hversion, i, hi, hintentId, huserId, hprofile⟩ := hmatches p r hparams hr hid hclaims
  have hbid : Uuid.ofText? b.intentId = some r.id := by
    rw [(SubmitBarrier.params_ids hparams).1, hid]
  obtain ⟨r', hr', hof⟩ := hinv.barriers.issued i hi
  have hsame : r' = r := by
    refine eq_of_id_eq hinv.tasks.compatible hr' hr ?_
    rw [← hintentId, hof.intentId, Uuid.ofText?_text] at hbid
    exact Option.some.inj hbid
  rw [hsame] at hof
  obtain rfl := hof.eq_of_claims hparams hclaims hversion hintentId huserId hprofile
  refine ⟨hi, fun hconsumed => ?_⟩
  obtain ⟨r'', hr'', hid'', hpast⟩ := hinv.barriers.consumed i hconsumed
  have hsame' : r'' = r := by
    refine eq_of_id_eq hinv.tasks.compatible hr'' hr ?_
    rw [hbid] at hid''
    exact (Option.some.inj hid'').symm
  rw [hsame'] at hpast
  omega

end Forged

end VeltrixEye
