import VeltrixEye.Lib.Numerals
import VeltrixEye.Mutations.Commits

/-!
# What a step of a worker does

`Stepped` lists the steps a worker can make, with what each of them found and wrote; locks that block
a step and errors that end an operation are collapsed.  Every invariant of the ledger is proved by
going through this list.
-/

namespace VeltrixEye

def CanonicalSubmitResult.isOk : CanonicalSubmitResult → Bool
  | .ok _ _ _ _ _ => true
  | .error _ _ _ => false

/-! ## Tasks -/

/-- A task that carries no obligation. -/
def Task.Quiet : Task → Prop
  | .idle => True
  | .submit _ _ _ _ => True
  | .retryLocated _ _ _ => True
  | .retryFailed _ _ _ _ => True
  | .recover _ none _ => True
  | .done (.canonical r) => r.isOk = false
  | .done _ => True
  | _ => False

/-- A task that has read a row, and has not checked its approvals. -/
def Task.Reading : Task → Prop
  | .retry .checked _ _ _ _ _ => False
  | .retry _ _ _ _ _ _ => True
  | .duplicated _ => True
  | .observe _ _ => True
  | .resolve _ _ => True
  | .recover _ (some _) _ => True
  | _ => False

/-- What a task knows about the tables. -/
def Task.Holds (db : MutationDb) : Task → Prop
  | .retry stage input _ _ parent began =>
    Snapshot db parent ∧ began ≤ db.intents.length ∧
      match stage with
      | .parent => True
      | .identity => True
      | .lineage => RetryReady input parent
      | .checked => RetryReady input parent
  | .duplicated intent => Snapshot db intent
  | .observe intent _ => Snapshot db intent
  | .resolve intent _ => Snapshot db intent ∧ intent.status.terminal = false
  | .recover _ (some fresh) _ => Snapshot db fresh
  | .execute (.returned n) _ _ _ => n.Coherent
  | .execute (.receipted n _) _ _ _ => n.Coherent
  | .execute (.applying n _ intent) _ b _ =>
    n.Coherent ∧ Snapshot db intent ∧ Uuid.ofText? b.intentId = some intent.id
  | .execute (.commitFailed n _) _ _ _ => n.Coherent
  | _ => True

theorem Task.Quiet.holds {t : Task} (h : t.Quiet) (db : MutationDb) : t.Holds db := by
  cases t with
  | retry => exact h.elim
  | duplicated => exact h.elim
  | observe => exact h.elim
  | resolve => exact h.elim
  | execute => exact h.elim
  | recover queue fresh recovered =>
    cases fresh with
    | none => trivial
    | some _ => exact h.elim
  | _ => trivial

/-- The state after worker `w` went on to a task. -/
def MutationState.next (s : MutationState) (w : ℕ) (locks : List (ℕ × String)) (t : Task) :
    MutationState :=
  { s with locks, workers := Function.update s.workers w ⟨t, false⟩ }

/-! ## Steps -/

/-- The next step of a task, with the values and the fate of its COMMIT. -/
def Advancing (action : MutationAction) (values : StepValues) (fault : Fault) : Prop :=
  ∃ w reply, action = .advance w values reply fault

/-- A move of an execution that writes nothing. -/
inductive ExecuteMove (db : MutationDb) (b : SubmitBarrier) (values : StepValues) (fault : Fault) :
    ExecuteStage → ExecuteStage → Prop
  | returned (accepted : Bool) (reply : ProviderReply) :
    ExecuteMove db b values fault (.calling accepted) (.returned (normalizeReply b values.now reply))
  | lost (n : NormalizedSubmitOutcome) :
    ExecuteMove db b values fault (.returned n)
      (.receipted (.failed .receiptPersistenceFailure) none)
  | applying (n : NormalizedSubmitOutcome) (receiptId : Option Uuid) (intent : IntentRow)
      (hmem : intent ∈ db.intents) (hid : Uuid.ofText? b.intentId = some intent.id) :
    ExecuteMove db b values fault (.receipted n receiptId) (.applying n receiptId intent)
  | unread (n : NormalizedSubmitOutcome) (receiptId : Option Uuid)
      (h : fault ≠ .none ∨ ∃ e, applyOutcomeRead b db = .error e) :
    ExecuteMove db b values fault (.receipted n receiptId) (.commitFailed n receiptId)
  | refused (n : NormalizedSubmitOutcome) (receiptId : Option Uuid) (intent : IntentRow)
      (h : fault = .refused ∨
        ∃ e, transitionIntent intent (outcomeTransition n) values.now db = .error e) :
    ExecuteMove db b values fault (.applying n receiptId intent) (.commitFailed n receiptId)

/-- The steps. -/
inductive Stepped (env : MutationEnv) (s : MutationState) (action : MutationAction) :
    MutationState → Prop
  | stay : Stepped env s action s
  | quiet (locks : List (ℕ × String)) (t : Task) (ht : t.Quiet) :
    Stepped env s action (s.next action.worker locks t)
  | read (locks : List (ℕ × String)) (t : Task) (ht : t.Holds s.db) (hreading : t.Reading) :
    Stepped env s action (s.next action.worker locks t)
  | fresh (input : RetryIntentInput) (identity : SubmitIdentity) (root : Uuid)
      (parent : IntentRow) (began : ℕ) (values : StepValues) (fault : Fault)
      (haction : Advancing action values fault)
      (htask : (s.workers action.worker).task = .retry .lineage input identity root parent began)
      (h : assertFreshRetryAuthorization input values s.db = .ok ()) :
    Stepped env s action
      (s.next action.worker s.locks (.retry .checked input identity root parent began))
  | submit (locks : List (ℕ × String)) (t : Task) (input : SubmitIntentInput)
      (identity : SubmitIdentity) (values : StepValues) (db : MutationDb) (b : SubmitBarrier)
      (issued : List SubmitBarrier)
      (h : prepareSubmitWrites env input identity values s.db = .ok (db, b))
      (ht : (issued = s.issued ++ [b] ∧ (t = .done (.authorized b) ∨ t = .holding b)) ∨
        (issued = s.issued ∧ t.Quiet)) :
    Stepped env s action { s.next action.worker locks t with db, issued }
  | retry (locks : List (ℕ × String)) (t : Task) (input : RetryIntentInput)
      (identity : SubmitIdentity) (root : Uuid) (parent : IntentRow) (began : ℕ)
      (values : StepValues) (db : MutationDb) (b : SubmitBarrier) (issued : List SubmitBarrier)
      (hrunning : (s.workers action.worker).crashed = false)
      (htask : (s.workers action.worker).task = .retry .checked input identity root parent began)
      (h : prepareRetryWrites env input identity parent values s.db = .ok (db, b))
      (ht : t.Quiet) (hissued : issued = s.issued ++ [b] ∨ issued = s.issued) :
    Stepped env s action
      { s.next action.worker locks t with
        db, issued, retries := s.retries ++ [(values.intentId, began)] }
  | consume (t : Task) (caller : SubmitCaller) (b : SubmitBarrier) (db : MutationDb)
      (hb : (s.workers action.worker).task = .holding b ∨
        ∃ w fault, action = .executeSubmit w b fault)
      (h : consumeSubmitBarrier b s.db = .ok db)
      (ht : t = .execute .consumed caller b s.consumed.length ∨ t.Quiet) :
    Stepped env s action
      { s.next action.worker s.locks t with db, consumed := s.consumed ++ [b] }
  | call (caller : SubmitCaller) (b : SubmitBarrier) (serial : ℕ)
      (hrunning : (s.workers action.worker).crashed = false)
      (htask : (s.workers action.worker).task = .execute .consumed caller b serial) :
    Stepped env s action
      { s.next action.worker s.locks (.execute (.calling false) caller b serial) with
        calls := s.calls ++ [serial] }
  | move (locks : List (ℕ × String)) (stage stage' : ExecuteStage) (caller : SubmitCaller)
      (b : SubmitBarrier) (serial : ℕ) (values : StepValues) (fault : Fault)
      (haction : Advancing action values fault)
      (htask : (s.workers action.worker).task = .execute stage caller b serial)
      (h : ExecuteMove s.db b values fault stage stage') :
    Stepped env s action (s.next action.worker locks (.execute stage' caller b serial))
  | receipt (stage : ExecuteStage) (caller : SubmitCaller) (b : SubmitBarrier) (serial : ℕ)
      (n : NormalizedSubmitOutcome) (values : StepValues) (db : MutationDb)
      (htask : (s.workers action.worker).task = .execute (.returned n) caller b serial)
      (h : persistReceipt b n values s.db = .ok db)
      (hstage : stage = .receipted n (some values.rowId) ∨
        stage = .receipted (.failed .receiptPersistenceFailure) none) :
    Stepped env s action
      { s.next action.worker s.locks (.execute stage caller b serial) with db }
  | apply (locks : List (ℕ × String)) (t : Task) (caller : SubmitCaller) (b : SubmitBarrier)
      (serial : ℕ) (n : NormalizedSubmitOutcome) (receiptId : Option Uuid) (intent : IntentRow)
      (values : StepValues) (fault : Fault) (db : MutationDb) (state : ProviderReservationState)
      (haction : Advancing action values fault) (hfault : fault ≠ .refused)
      (hrunning : (s.workers action.worker).crashed = false)
      (htask : (s.workers action.worker).task =
        .execute (.applying n receiptId intent) caller b serial)
      (h : transitionIntent intent (outcomeTransition n) values.now s.db = .ok (db, state))
      (ht : t = caller.executed (executionResult b n receiptId (outcomeTransition n).toState
          (some state) (if receiptId.isNone then some .receiptPersistenceFailure else none)) ∨
        t = .execute (.commitFailed n receiptId) caller b serial) :
    Stepped env s action { s.next action.worker locks t with db }
  | report (caller : SubmitCaller) (b : SubmitBarrier) (serial : ℕ) (n : NormalizedSubmitOutcome)
      (receiptId : Option Uuid)
      (htask : (s.workers action.worker).task =
        .execute (.commitFailed n receiptId) caller b serial) :
    Stepped env s action
      (s.next action.worker s.locks (caller.executed (commitFailedResult b n receiptId s.db)))
  | observe (t : Task) (intent : IntentRow) (input : ReconciliationObservationInput)
      (values : StepValues) (fault : Fault) (db : MutationDb)
      (resolution : Option ProviderResolution)
      (haction : Advancing action values fault) (hfault : fault ≠ .refused)
      (hrunning : (s.workers action.worker).crashed = false)
      (htask : (s.workers action.worker).task = .observe intent input)
      (h : observationWrites intent input values s.db = .ok (db, resolution)) (ht : t.Quiet) :
    Stepped env s action { s.next action.worker s.locks t with db }
  | resolve (t : Task) (intent : IntentRow) (input : OperatorResolutionInput)
      (values : StepValues) (fault : Fault) (db : MutationDb)
      (haction : Advancing action values fault) (hfault : fault ≠ .refused)
      (hrunning : (s.workers action.worker).crashed = false)
      (htask : (s.workers action.worker).task = .resolve intent input)
      (h : resolutionWrites intent input values s.db = .ok db) (ht : t.Quiet) :
    Stepped env s action { s.next action.worker s.locks t with db }
  | recover (locks : List (ℕ × String)) (t : Task) (queue : List IntentRow) (fresh : IntentRow)
      (recovered : List Uuid) (values : StepValues) (db : MutationDb)
      (state : ProviderReservationState)
      (htask : (s.workers action.worker).task = .recover queue (some fresh) recovered)
      (h : transitionIntent fresh recoveryTransition values.now s.db = .ok (db, state))
      (ht : t.Quiet) :
    Stepped env s action { s.next action.worker locks t with db }
  | duplicate (intent : IntentRow)
      (htask : (s.workers action.worker).task = .duplicated intent) :
    Stepped env s action (s.next action.worker s.locks
      (.done (.canonical (projectDuplicate intent (getReceipt s.db intent.id)))))
  | accept (w : ℕ) (caller : SubmitCaller) (b : SubmitBarrier) (serial : ℕ) (crashed : Bool)
      (haction : action = .accept w)
      (htask : s.workers w = ⟨.execute (.calling false) caller b serial, crashed⟩) :
    Stepped env s action
      { s with
        workers := Function.update s.workers w ⟨.execute (.calling true) caller b serial, crashed⟩
        accepted := s.accepted ++ [serial] }
  | crash (w : ℕ) (locks : List (ℕ × String)) :
    Stepped env s action
      { s with locks, workers := Function.update s.workers w ⟨(s.workers w).task, true⟩ }

/-! ## Every step is one of them -/

section Steps

variable {env : MutationEnv} {s : MutationState} {w : ℕ} {values : StepValues}
  {reply : ProviderReply} {fault : Fault}

theorem projectError_isOk (e : MutationError) : (projectError e).isOk = false := by
  unfold projectError
  split <;> rfl

theorem SubmitCaller.threw_quiet (caller : SubmitCaller) (e : MutationError) :
    (caller.threw e).Quiet := by
  cases caller with
  | direct => trivial
  | gate9 => exact projectError_isOk e

theorem canonicalIntentInput_error {input : CanonicalSubmitInput} {r : CanonicalSubmitResult}
    (h : canonicalIntentInput input = .error r) : r.isOk = false := by
  unfold canonicalIntentInput at h
  repeat' split at h
  all_goals
    cases h
    try rfl

theorem foldl_pick_mem {α : Type} {f : Option α → α → Option α}
    (hf : ∀ best x, f best x = some x ∨ f best x = best) {l : List α} {best : Option α} {r : α}
    (h : l.foldl f best = some r) : r ∈ l ∨ best = some r := by
  induction l generalizing best with
  | nil => exact .inr h
  | cons x l ih =>
    rw [List.foldl_cons] at h
    rcases ih h with hmem | hbest
    · exact .inl (List.mem_cons_of_mem _ hmem)
    · rcases hf best x with hx | hx
      · rw [hx] at hbest
        obtain rfl := Option.some.inj hbest
        exact .inl List.mem_cons_self
      · exact .inr (hx ▸ hbest)

theorem findByIdentity_mem {db : MutationDb} {profile : Uuid} {identity : SubmitIdentity}
    {r : IntentRow} (h : findByIdentity db profile identity = some r) : r ∈ db.intents := by
  unfold findByIdentity firstCreated at h
  have hpick := foldl_pick_mem (fun best x => by
    cases best with
    | none => exact .inl rfl
    | some b =>
      simp only
      split
      · exact .inl rfl
      · exact .inr rfl) h
  rcases hpick with hmem | hnone
  · exact (List.mem_filter.mp hmem).1
  · cases hnone

theorem existing_mem {db : MutationDb} {profile : Option Uuid} {identity : SubmitIdentity} {message : String}
    {r : IntentRow} (h : (match profile.bind (findByIdentity db · identity) with
      | some existing => Except.ok existing
      | none => .error (MutationError.mutation .preCallPersistenceFailed message)) = .ok r) :
    r ∈ db.intents := by
  split at h
  · rename_i existing hfound
    cases h
    obtain ⟨p, -, hfound⟩ := Option.bind_eq_some_iff.mp hfound
    exact findByIdentity_mem hfound
  · cases h

theorem preparationError_mem {db : MutationDb} {profile orderId : Option Uuid}
    {identity : SubmitIdentity} {message : String} {e : MutationError} {r : IntentRow}
    (h : preparationError db profile orderId identity message e = .ok r) : r ∈ db.intents := by
  unfold preparationError at h
  cases e with
  | mutation code text => cases h
  | database e =>
    simp only at h
    split at h
    · split at h
      · split at h <;> cases h
      · exact existing_mem h
    · exact existing_mem h
    · cases h

theorem prepareSubmitReads_mem {input : SubmitIntentInput} {identity : SubmitIdentity}
    {db : MutationDb} {r : IntentRow} (h : prepareSubmitReads input identity db = .ok (some r)) :
    r ∈ db.intents := by
  unfold prepareSubmitReads at h
  obtain ⟨ids, -, h⟩ := Except.bind_ok_iff.mp h
  split at h
  · rename_i existing hfound
    cases h
    exact findByIdentity_mem hfound
  · obtain ⟨-, -, h⟩ := Except.bind_ok_iff.mp h
    cases h

theorem getIntentByText_some {db : MutationDb} {text : String} {r : IntentRow}
    (h : getIntentByText db text = .ok (some r)) :
    r ∈ db.intents ∧ Uuid.ofText? text = some r.id := by
  unfold getIntentByText at h
  obtain ⟨id, hid, h⟩ := Except.bind_ok_iff.mp h
  obtain ⟨hmem, rfl⟩ := MutationDb.getIntent_some (Except.ok.inj h)
  refine ⟨hmem, ?_⟩
  unfold requiredUuid at hid
  split at hid
  · rename_i u hu
    cases hid
    exact hu
  · cases hid

theorem requireIntent_mem {db : MutationDb} {intentId userId executionProfileId : String}
    {r : IntentRow} (h : requireIntent db intentId userId executionProfileId = .ok r) :
    r ∈ db.intents := by
  unfold requireIntent at h
  obtain ⟨found, hfound, h⟩ := Except.bind_ok_iff.mp h
  cases found with
  | none => cases h
  | some intent =>
    simp only at h
    split at h
    · cases h
    · cases h
      exact (getIntentByText_some hfound).1

theorem observationRead_mem {input : ReconciliationObservationInput} {db : MutationDb}
    {r : IntentRow} (h : observationRead input db = .ok r) : r ∈ db.intents := by
  unfold observationRead at h
  obtain ⟨intent, hintent, h⟩ := Except.bind_ok_iff.mp h
  obtain ⟨-, -, h⟩ := Except.bind_ok_iff.mp h
  cases h
  exact requireIntent_mem hintent

theorem resolutionRead_ok {input : OperatorResolutionInput} {db : MutationDb}
    {r : IntentRow} (h : resolutionRead input db = .ok r) :
    r ∈ db.intents ∧ r.status.terminal = false := by
  unfold resolutionRead at h
  obtain ⟨intent, hintent, h⟩ := Except.bind_ok_iff.mp h
  simp only at h
  split at h
  · cases h
  rename_i hterminal
  have hr : intent = r := by
    split at h
    · cases h
    split at h
    · cases h
    split at h
    · cases h
    · exact Except.ok.inj h
  subst hr
  exact ⟨requireIntent_mem hintent, by simpa using hterminal⟩

theorem retryParent_mem {input : RetryIntentInput} {root : Uuid} {db : MutationDb} {r : IntentRow}
    (h : retryParent input root db = .ok r) : r ∈ db.intents := by
  unfold retryParent at h
  obtain ⟨found, hfound, h⟩ := Except.bind_ok_iff.mp h
  cases found with
  | none => cases h
  | some parent =>
    simp only at h
    obtain ⟨-, -, h⟩ := Except.bind_ok_iff.mp h
    split at h
    · cases h
    · cases h
      exact (getIntentByText_some hfound).1

theorem applyOutcomeRead_ok {b : SubmitBarrier} {db : MutationDb} {r : IntentRow}
    (h : applyOutcomeRead b db = .ok r) : r ∈ db.intents ∧ Uuid.ofText? b.intentId = some r.id := by
  unfold applyOutcomeRead at h
  obtain ⟨found, hfound, h⟩ := Except.bind_ok_iff.mp h
  cases found with
  | none => cases h
  | some intent =>
    cases h
    exact getIntentByText_some hfound

theorem SubmitCaller.duplicate_stepped (action : MutationAction) (locks : List (ℕ × String))
    (caller : SubmitCaller) {r : IntentRow} (h : r ∈ s.db.intents) :
    Stepped env s action (s.next action.worker locks (caller.duplicate r)) := by
  cases caller with
  | direct => exact .quiet locks _ trivial
  | gate9 => exact .read locks _ (snapshot_of_mem h) trivial

theorem advanceSubmit_stepped (caller : SubmitCaller) (input : SubmitIntentInput)
    (identity : SubmitIdentity) (stage : SubmitStage) :
    Stepped env s (.advance w values reply fault)
      (advanceSubmit env s w caller input identity values fault stage) := by
  cases stage with
  | opened =>
    simp only [advanceSubmit]
    split
    · exact .quiet _ _ trivial
    · rename_i existing hreads
      exact SubmitCaller.duplicate_stepped _ _ caller (prepareSubmitReads_mem hreads)
    · exact .quiet s.locks _ trivial
  | checked =>
    simp only [advanceSubmit]
    split
    · exact .quiet _ _ trivial
    rename_i db b hwrites
    split
    · exact .submit _ _ input identity values db b _ hwrites
        (.inl ⟨rfl, by cases caller <;> simp [SubmitCaller.authorized]⟩)
    · by_cases hfault : fault = .refused
      · rw [MutationState.committed, if_pos hfault]
        exact .quiet _ _ trivial
      · rw [MutationState.committed, if_neg hfault]
        exact .submit _ _ input identity values db b _ hwrites (.inr ⟨rfl, trivial⟩)
  | failed e =>
    simp only [advanceSubmit]
    split
    · rename_i existing hreport
      exact SubmitCaller.duplicate_stepped _ _ caller (preparationError_mem hreport)
    · exact .quiet s.locks _ (caller.threw_quiet _)

theorem openRetry_stepped (input : RetryIntentInput) (identity : SubmitIdentity) (root : Uuid) :
    Stepped env s (.advance w values reply fault) (openRetry s w input identity root) := by
  simp only [openRetry]
  split
  · exact .stay
  · split
    · exact .quiet _ _ trivial
    · rename_i parent hparent
      exact .read _ _ ⟨snapshot_of_mem (retryParent_mem hparent), le_refl _, trivial⟩ trivial

theorem advanceRetry_stepped {input : RetryIntentInput} {identity : SubmitIdentity} {root : Uuid}
    {parent : IntentRow} {began : ℕ} {stage : RetryStage}
    (hrunning : (s.workers w).crashed = false)
    (htask : (s.workers w).task = .retry stage input identity root parent began)
    (hholds : (s.workers w).task.Holds s.db) :
    Stepped env s (.advance w values reply fault)
      (advanceRetry env s w input identity root parent began values fault stage) := by
  rw [htask] at hholds
  obtain ⟨hsnapshot, hbegan, hready⟩ := hholds
  cases stage with
  | parent =>
    simp only [advanceRetry]
    split
    · exact .stay
    · split
      · exact .quiet _ _ trivial
      · exact .quiet _ _ trivial
      · exact .read _ _ ⟨hsnapshot, hbegan, trivial⟩ trivial
  | identity =>
    simp only [advanceRetry]
    split
    · exact .quiet _ _ trivial
    · rename_i hreads
      exact .read s.locks _ ⟨hsnapshot, hbegan, retryLineageReads_ok hreads⟩ trivial
  | lineage =>
    simp only [advanceRetry]
    split
    · exact .quiet _ _ trivial
    · rename_i hfresh
      exact .fresh input identity root parent began values fault ⟨w, reply, rfl⟩ htask hfresh
  | checked =>
    simp only [advanceRetry]
    split
    · exact .quiet _ _ trivial
    rename_i db b hwrites
    split
    · exact .retry _ _ input identity root parent began values db b _ hrunning htask hwrites
        trivial (.inl rfl)
    · split
      · exact .retry _ _ input identity root parent began values db b _ hrunning htask hwrites
          trivial (.inr rfl)
      · exact .quiet _ _ trivial

theorem reportRetry_stepped (input : RetryIntentInput) (identity : SubmitIdentity)
    (orderId : Option String) (e : MutationError) :
    Stepped env s (.advance w values reply fault) (reportRetry s w input identity orderId e) := by
  simp only [reportRetry]
  split
  · exact .quiet s.locks _ trivial
  · exact .quiet s.locks _ trivial

theorem consume_stepped (action : MutationAction) (caller : SubmitCaller) {b : SubmitBarrier}
    (hb : (s.workers action.worker).task = .holding b ∨
      ∃ w fault, action = .executeSubmit w b fault) :
    Stepped env s action (consume s action.worker caller b fault) := by
  simp only [consume]
  split
  · exact .stay
  split
  · exact .quiet s.locks _ (caller.threw_quiet _)
  rename_i db hconsume
  split
  · exact .consume _ caller b db hb hconsume (.inl rfl)
  · exact .consume _ caller b db hb hconsume (.inr (caller.threw_quiet _))
  · exact .quiet s.locks _ (caller.threw_quiet _)

theorem advanceExecute_stepped {caller : SubmitCaller} {b : SubmitBarrier} {serial : ℕ}
    {stage : ExecuteStage} (hrunning : (s.workers w).crashed = false)
    (htask : (s.workers w).task = .execute stage caller b serial) :
    Stepped env s (.advance w values reply fault)
      (advanceExecute s w caller b serial values reply fault stage) := by
  have haction : Advancing (.advance w values reply fault) values fault := ⟨w, reply, rfl⟩
  cases stage with
  | consumed => exact .call caller b serial hrunning htask
  | calling accepted =>
    exact .move s.locks _ _ caller b serial values fault haction htask (.returned accepted reply)
  | returned n =>
    simp only [advanceExecute]
    split
    · exact .move s.locks _ _ caller b serial values fault haction htask (.lost n)
    rename_i db hreceipt
    split
    · exact .receipt _ caller b serial n values db htask hreceipt (.inl rfl)
    by_cases hfault : fault = .refused
    · rw [MutationState.committed, if_pos hfault]
      exact .move s.locks _ _ caller b serial values fault haction htask (.lost n)
    · rw [MutationState.committed, if_neg hfault]
      exact .receipt _ caller b serial n values db htask hreceipt (.inr rfl)
  | receipted n receiptId =>
    simp only [advanceExecute]
    split
    · exact .stay
    split
    · rename_i e hread
      exact .move s.locks _ _ caller b serial values fault haction htask
        (.unread n receiptId (.inr ⟨e, hread⟩))
    · rename_i intent hread
      obtain ⟨hmem, hid⟩ := applyOutcomeRead_ok hread
      split
      · exact .move _ _ _ caller b serial values fault haction htask
          (.applying n receiptId intent hmem hid)
      · rename_i hfault
        exact .move s.locks _ _ caller b serial values fault haction htask
          (.unread n receiptId (.inl hfault))
  | applying n receiptId intent =>
    simp only [advanceExecute]
    split
    · rename_i e htransition
      exact .move _ _ _ caller b serial values fault haction htask
        (.refused n receiptId intent (.inr ⟨e, htransition⟩))
    · rename_i db state htransition
      split
      · rename_i hfault
        exact .apply _ _ caller b serial n receiptId intent values fault db state haction
          (by simp [hfault]) hrunning htask htransition (.inl rfl)
      · by_cases hfault : fault = .refused
        · rw [MutationState.committed, if_pos hfault]
          exact .move _ _ _ caller b serial values fault haction htask
            (.refused n receiptId intent (.inl hfault))
        · rw [MutationState.committed, if_neg hfault]
          exact .apply _ _ caller b serial n receiptId intent values fault db state haction hfault
            hrunning htask htransition (.inr rfl)
  | commitFailed n receiptId =>
    simp only [advanceExecute]
    split
    · exact .report caller b serial n receiptId htask
    · exact .quiet s.locks _ (caller.threw_quiet _)

theorem advanceObserve_stepped {intent : IntentRow} {input : ReconciliationObservationInput}
    (hrunning : (s.workers w).crashed = false)
    (htask : (s.workers w).task = .observe intent input) :
    Stepped env s (.advance w values reply fault)
      (advanceObserve s w intent input values fault) := by
  simp only [advanceObserve]
  split
  · exact .stay
  split
  · exact .quiet s.locks _ trivial
  rename_i db resolution hwrites
  have hquiet : (Task.done (if fault = .none then .observed resolution
      else .threw (.database .failed))).Quiet := by
    split <;> trivial
  by_cases hfault : fault = .refused
  · rw [MutationState.committed, if_pos hfault]
    exact .quiet s.locks _ hquiet
  · rw [MutationState.committed, if_neg hfault]
    exact .observe _ intent input values fault db resolution ⟨w, reply, rfl⟩ hfault hrunning htask
      hwrites hquiet

theorem advanceResolve_stepped {intent : IntentRow} {input : OperatorResolutionInput}
    (hrunning : (s.workers w).crashed = false)
    (htask : (s.workers w).task = .resolve intent input) :
    Stepped env s (.advance w values reply fault)
      (advanceResolve s w intent input values fault) := by
  simp only [advanceResolve]
  split
  · exact .stay
  split
  · exact .quiet s.locks _ trivial
  rename_i db hwrites
  have hquiet : (Task.done (if fault = .none then .resolved
      else .threw (.database .failed))).Quiet := by
    split <;> trivial
  by_cases hfault : fault = .refused
  · rw [MutationState.committed, if_pos hfault]
    exact .quiet s.locks _ hquiet
  · rw [MutationState.committed, if_neg hfault]
    exact .resolve _ intent input values fault db ⟨w, reply, rfl⟩ hfault hrunning htask hwrites
      hquiet

theorem advanceRecover_stepped {queue : List IntentRow} {fresh : Option IntentRow}
    {recovered : List Uuid} (htask : (s.workers w).task = .recover queue fresh recovered) :
    Stepped env s (.advance w values reply fault)
      (advanceRecover s w queue recovered values fault fresh) := by
  cases fresh with
  | none =>
    simp only [advanceRecover]
    split
    · exact .quiet s.locks _ trivial
    split
    · exact .stay
    split
    · exact .quiet s.locks _ trivial
    · rename_i found hfound
      split
      · exact .read _ _ (snapshot_of_mem (MutationDb.getIntent_some hfound).1) trivial
      · exact .quiet s.locks _ trivial
  | some fresh =>
    simp only [advanceRecover]
    split
    · exact .quiet _ _ trivial
    rename_i db state htransition
    by_cases hfault : fault = .refused
    · rw [MutationState.committed, if_pos hfault]
      exact .quiet _ _ trivial
    · rw [MutationState.committed, if_neg hfault]
      exact .recover _ _ queue fresh recovered values db state htask htransition trivial

theorem advance_stepped (hrunning : (s.workers w).crashed = false)
    (hholds : (s.workers w).task.Holds s.db) :
    Stepped env s (.advance w values reply fault) (advance env s w values reply fault) := by
  unfold advance
  split
  · exact .stay
  · exact .stay
  · exact advanceSubmit_stepped _ _ _ _
  · exact openRetry_stepped _ _ _
  · rename_i htask
    exact advanceRetry_stepped hrunning htask hholds
  · exact reportRetry_stepped _ _ _ _
  · rename_i htask
    exact consume_stepped (.advance w values reply fault) .gate9 (.inl htask)
  · rename_i htask
    exact .duplicate _ htask
  · rename_i htask
    exact advanceExecute_stepped hrunning htask
  · rename_i htask
    exact advanceObserve_stepped hrunning htask
  · rename_i htask
    exact advanceResolve_stepped hrunning htask
  · rename_i htask
    exact advanceRecover_stepped htask

theorem startSubmit_stepped {action : MutationAction} (caller : SubmitCaller)
    (input : SubmitIntentInput) :
    Stepped env s action (startSubmit env s action.worker caller input) := by
  unfold startSubmit
  split
  · exact .quiet s.locks _ (caller.threw_quiet _)
  · dsimp only
    split
    · exact .stay
    · exact .quiet _ _ trivial

theorem start_stepped (action : MutationAction) : Stepped env s action (start env s action) := by
  cases action with
  | prepareSubmit w input => exact startSubmit_stepped .direct input
  | submitOrderThroughGate9 w input =>
    simp only [start]
    split
    · rename_i result hinput
      exact .quiet s.locks _ (canonicalIntentInput_error hinput)
    · exact startSubmit_stepped .gate9 _
  | prepareRetry w input =>
    change Stepped env s _ (startRetry env s w input)
    unfold startRetry
    split
    · exact .quiet s.locks _ trivial
    · split
      · exact .quiet s.locks _ trivial
      · exact .quiet s.locks _ trivial
  | executeSubmit w b fault => exact consume_stepped _ .direct (.inr ⟨w, fault, rfl⟩)
  | recordReconciliationObservation w input =>
    simp only [start]
    split
    · exact .quiet s.locks _ trivial
    · rename_i intent hread
      exact .read s.locks _ (snapshot_of_mem (observationRead_mem hread)) trivial
  | resolveByOperator w input =>
    simp only [start]
    split
    · exact .quiet s.locks _ trivial
    · rename_i intent hread
      obtain ⟨hmem, hopen⟩ := resolutionRead_ok hread
      exact .read s.locks _ ⟨snapshot_of_mem hmem, hopen⟩ trivial
  | recoverAfterRestart w profile excluded => exact .quiet s.locks _ trivial
  | advance => exact .stay
  | accept => exact .stay
  | crash => exact .stay

theorem acceptCall_stepped : Stepped env s (.accept w) (acceptCall s w) := by
  unfold acceptCall
  split
  · rename_i caller b serial crashed htask
    exact .accept w caller b serial crashed rfl htask
  · exact .stay

variable (env) in
/-- **Every step is on the list.** -/
theorem mutationStep_stepped (action : MutationAction)
    (hholds : ∀ w, (s.workers w).task.Holds s.db) :
    Stepped env s action (mutationStep env s action) := by
  cases action with
  | accept w => exact acceptCall_stepped
  | crash w => exact .crash w _
  | advance w values reply fault =>
    simp only [mutationStep]
    split
    · exact .stay
    · rename_i hrunning
      exact advance_stepped (by simpa using hrunning) (hholds w)
  | _ =>
    simp only [mutationStep]
    split
    · exact .stay
    · exact start_stepped _

/-! ## Unique rows and sound tasks -/

/-- The indexes hold, and every task knows what it read. -/
structure MutationInv (s : MutationState) : Prop where
  compatible : s.db.intents.Pairwise Compatible
  tasks : ∀ w, (s.workers w).task.Holds s.db

variable {action : MutationAction} {s' : MutationState}

theorem Stepped.change (h : Stepped env s action s') (hinv : MutationInv s) :
    Change s.db s'.db := by
  cases h with
  | submit locks t input identity values db b issued hwrites ht =>
    exact prepareSubmitWrites_change hwrites
  | retry locks t input identity root parent began values db b issued _ htask hwrites ht _ =>
    have hholds := hinv.tasks action.worker
    rw [htask] at hholds
    exact prepareRetryWrites_change hinv.compatible hholds.1 hholds.2.2 hwrites
  | consume t caller b db hb hconsume ht => exact consumeSubmitBarrier_change hconsume
  | receipt stage caller b serial n values db htask hreceipt hstage =>
    exact persistReceipt_change hreceipt
  | apply locks t caller b serial n receiptId intent values fault db state _ _ _ htask htransition _ =>
    have hholds := hinv.tasks action.worker
    rw [htask] at hholds
    refine transitionIntent_change hinv.compatible hholds.2.1 (.outcome n hholds.1) ?_ htransition
    intro hto
    simp only [outcomeTransition] at hto
    split at hto <;> cases hto
  | observe t intent input values fault db resolution _ _ _ htask hwrites ht =>
    have hholds := hinv.tasks action.worker
    rw [htask] at hholds
    exact observationWrites_change hinv.compatible hholds hwrites
  | resolve t intent input values fault db _ _ _ htask hwrites ht =>
    have hholds := hinv.tasks action.worker
    rw [htask] at hholds
    exact resolutionWrites_change hinv.compatible hholds.1 hholds.2 hwrites
  | recover locks t queue fresh recovered values db state htask htransition ht =>
    have hholds := hinv.tasks action.worker
    rw [htask] at hholds
    exact transitionIntent_change hinv.compatible hholds .recovery nofun htransition
  | _ => exact .same rfl rfl rfl

theorem Task.Holds.mono {db db' : MutationDb} {t : Task} (h : t.Holds db) (hchange : Change db db')
    (huniq : db.intents.Pairwise Compatible) : t.Holds db' := by
  cases t with
  | retry stage input identity root parent began =>
    obtain ⟨hsnapshot, hbegan, hready⟩ := h
    exact ⟨hchange.snapshot huniq hsnapshot, hbegan.trans (hchange.length_le huniq), hready⟩
  | duplicated intent => exact hchange.snapshot huniq h
  | observe intent input => exact hchange.snapshot huniq h
  | resolve intent input => exact ⟨hchange.snapshot huniq h.1, h.2⟩
  | recover queue fresh recovered =>
    cases fresh with
    | none => trivial
    | some fresh => exact hchange.snapshot huniq h
  | execute stage caller b serial =>
    cases stage with
    | applying n receiptId intent => exact ⟨h.1, hchange.snapshot huniq h.2.1, h.2.2⟩
    | _ => exact h
  | _ => trivial

theorem update_task (P : Task → Prop) {workers : ℕ → Worker} {t : Task} {crashed : Bool}
    (hs : ∀ w, P (workers w).task) (ht : P t) (w' : ℕ) :
    P (Function.update workers w ⟨t, crashed⟩ w').task := by
  by_cases h : w' = w
  · subst h
    simpa using ht
  · simpa [Function.update_of_ne h] using hs w'

theorem executed_holds (caller : SubmitCaller) (result : MutationExecutionResult)
    (db : MutationDb) : (caller.executed result).Holds db := by
  cases caller <;> trivial

theorem Stepped.tasks (h : Stepped env s action s') (hinv : MutationInv s) (w' : ℕ) :
    (s'.workers w').task.Holds s'.db := by
  have hchange := h.change hinv
  have hmono : ∀ w, (s.workers w).task.Holds s'.db := fun w =>
    (hinv.tasks w).mono hchange hinv.compatible
  have hown := hinv.tasks action.worker
  cases h with
  | stay => exact hinv.tasks w'
  | quiet locks t ht => exact update_task _ hmono (ht.holds _) w'
  | read locks t ht _ => exact update_task _ hmono ht w'
  | fresh input identity root parent began values fault _ htask _ =>
    rw [htask] at hown
    refine update_task _ hmono ?_ w'
    exact hown
  | submit locks t input identity values db b issued _ ht =>
    refine update_task (Task.Holds db) hmono ?_ w'
    obtain ⟨-, rfl | rfl⟩ | ⟨-, ht⟩ := ht
    · trivial
    · trivial
    · exact ht.holds _
  | retry locks t input identity root parent began values db b issued _ _ _ ht _ =>
    exact update_task (Task.Holds db) hmono (ht.holds _) w'
  | consume t caller b db _ _ ht =>
    refine update_task (Task.Holds db) hmono ?_ w'
    obtain rfl | ht := ht
    · trivial
    · exact ht.holds _
  | call caller b serial _ _ =>
    refine update_task (Task.Holds s.db) hmono ?_ w'
    trivial
  | move locks stage stage' caller b serial values fault _ htask hmove =>
    rw [htask] at hown
    refine update_task _ hmono ?_ w'
    cases hmove with
    | returned accepted reply => exact normalizeReply_coherent b values.now reply
    | lost n => exact NormalizedSubmitOutcome.failed_coherent _
    | applying n receiptId intent hmem hid => exact ⟨hown, snapshot_of_mem hmem, hid⟩
    | unread n receiptId _ => exact hown
    | refused n receiptId intent _ => exact hown.1
  | receipt stage caller b serial n values db htask _ hstage =>
    rw [htask] at hown
    refine update_task (Task.Holds db) hmono ?_ w'
    obtain rfl | rfl := hstage
    · exact hown
    · exact NormalizedSubmitOutcome.failed_coherent _
  | apply locks t caller b serial n receiptId intent values fault db state _ _ _ htask _ ht =>
    rw [htask] at hown
    refine update_task (Task.Holds db) hmono ?_ w'
    obtain rfl | rfl := ht
    · exact executed_holds _ _ _
    · exact hown.1
  | report caller b serial n receiptId _ =>
    exact update_task _ hmono (executed_holds _ _ _) w'
  | observe t intent input values fault db resolution _ _ _ _ _ ht =>
    exact update_task (Task.Holds db) hmono (ht.holds _) w'
  | resolve t intent input values fault db _ _ _ _ _ ht =>
    exact update_task (Task.Holds db) hmono (ht.holds _) w'
  | recover locks t queue fresh recovered values db state _ _ ht =>
    exact update_task (Task.Holds db) hmono (ht.holds _) w'
  | duplicate intent _ =>
    refine update_task _ hmono ?_ w'
    trivial
  | accept w caller b serial crashed _ htask =>
    refine update_task (Task.Holds s.db) hmono ?_ w'
    trivial
  | crash w locks => exact update_task (Task.Holds s.db) hmono (hinv.tasks w) w'

theorem mutationInv_empty : MutationInv MutationState.empty :=
  ⟨List.Pairwise.nil, fun _ => trivial⟩

theorem mutationInv_step (s : MutationState) (action : MutationAction) (hinv : MutationInv s) :
    MutationInv (mutationStep env s action) := by
  have hstep := mutationStep_stepped env action hinv.tasks
  exact ⟨(hstep.change hinv).compatible hinv.compatible, hstep.tasks hinv⟩

/-- **In every state of every run the indexes hold and every task knows what it read.** -/
theorem mutationInv_reached {actions : List MutationAction}
    (h : Runs.Reached (mutationStep env) .empty actions s) : MutationInv s :=
  Runs.inv_of_reached_always _ mutationInv_step mutationInv_empty h

theorem db_reached {P : MutationDb → Prop} (hempty : P .empty)
    (hchange : ∀ db db', db.intents.Pairwise Compatible → Change db db' → P db → P db')
    {actions : List MutationAction}
    (h : Runs.Reached (mutationStep env) .empty actions s) : P s.db := by
  have hstep : ∀ s action, MutationInv s ∧ P s.db →
      MutationInv (mutationStep env s action) ∧ P (mutationStep env s action).db := by
    intro s action hs
    have hstepped := mutationStep_stepped env action hs.1.tasks
    exact ⟨mutationInv_step s action hs.1,
      hchange _ _ hs.1.compatible (hstepped.change hs.1) hs.2⟩
  exact (Runs.inv_of_reached_always _ hstep ⟨mutationInv_empty, hempty⟩ h).2

end Steps

/-! ## A prepared mutation -/

theorem run_prepareSubmit {env : MutationEnv} {s : MutationState} {w : ℕ} {input : SubmitIntentInput}
    {identity : SubmitIdentity} {values values' : StepValues} {reply : ProviderReply} {db : MutationDb}
    {b : SubmitBarrier} (hworker : s.workers w = ⟨.idle, false⟩) (hlocks : s.locks = [])
    (hvalid : validateInput env input = .ok identity)
    (hreads : prepareSubmitReads input identity s.db = .ok none)
    (hwrites : prepareSubmitWrites env input identity values' s.db = .ok (db, b)) :
    Runs.run (mutationStep env) s
        [.prepareSubmit w input, .advance w values reply .none, .advance w values' reply .none] =
      { s with
        db
        workers := Function.update s.workers w ⟨.done (.authorized b), false⟩
        issued := s.issued ++ [b] } := by
  simp [mutationStep, MutationAction.worker, hworker, hlocks, Task.ready, start, startSubmit, hvalid,
    MutationState.blocked, MutationState.set, MutationState.acquire, advance, advanceSubmit, hreads, hwrites,
    MutationState.finish, MutationState.release, SubmitCaller.authorized]

theorem requiredUuid_text (u : Uuid) : requiredUuid u.text = .ok u := by
  rw [requiredUuid, Uuid.ofText?_text]

/-- Texts of uuids are read back. -/
theorem submitIds_texts {input : SubmitIntentInput} {user profile : Uuid} {order decision : Option Uuid}
    (huser : input.userId = user.text) (hprofile : input.executionProfileId = profile.text)
    (horder : input.orderId = order.map (·.text)) (hdecision : input.riskDecisionId = decision.map (·.text))
    (hreservation : input.riskReservationId = none) :
    submitIds input = .ok ⟨user, profile, order, decision, none⟩ := by
  have hparam : ∀ u : Option Uuid, uuidParam (u.map (·.text)) = .ok u := by
    rintro (_ | u) <;> simp [uuidParam]
  rw [submitIds, huser, hprofile, horder, hdecision, hreservation, requiredUuid_text, requiredUuid_text, hparam,
    hparam]
  rfl

theorem submitIds_sample (n : Fin 16) (orderId : Option Uuid) :
    submitIds (sampleInput n orderId) = .ok ⟨uuidOf 1, uuidOf 2, orderId, none, none⟩ :=
  submitIds_texts rfl rfl rfl rfl rfl

/-- Mutation 4 of the managed order 3, authorized. -/
def openIntent : IntentRow :=
  ⟨uuidOf 4, uuidOf 1, uuidOf 2, some (uuidOf 3), (sampleInput 4 none).clientOrderId,
    (sampleInput 4 none).idempotencyKey, (sampleBarrier 4 1).requestHash, "mt5", .demo, some "demo-1",
    none, none, none, .submitting, none, none, none, none, none, none, none, 1, false, .notRequired, none,
    2, none, 0⟩

open Numerals in
def openReservation : MutationReservationRow :=
  ⟨uuidOf 4, uuidOf 4, uuidOf 1, uuidOf 2, some (uuidOf 3), none, none, openIntent.clientOrderId,
    openIntent.idempotencyKey, some "EURUSD", some .long, 50, .reserved, false, none, 1, 0⟩

def openEvent (fromState : Option ProviderIntentState) (toState : ProviderIntentState) : MutationEventRow :=
  ⟨uuidOf 4, uuidOf 2, 1, fromState, toState, none, none, none, "system:mutation-ledger", none, none⟩

/-- The state after worker 0 prepared it. -/
def preparedState : MutationState :=
  { MutationState.empty with
    db := ⟨[openIntent], [openReservation], [], [], [],
      [openEvent none .prepared, openEvent (some .prepared) .submitting]⟩
    workers := Function.update MutationState.empty.workers 0 ⟨.done (.authorized (sampleBarrier 4 1)), false⟩
    issued := [sampleBarrier 4 1] }

def openIdentity : SubmitIdentity :=
  ⟨openIntent.clientOrderId, openIntent.idempotencyKey, openIntent.requestHash⟩

theorem validateInput_sample : validateInput sampleLedgerEnv (sampleInput 4 (some (uuidOf 3))) =
    .ok openIdentity := by
  decide +kernel

theorem prepareSubmitReads_sample : prepareSubmitReads (sampleInput 4 (some (uuidOf 3))) openIdentity .empty =
    .ok none := by
  rw [prepareSubmitReads, submitIds_sample]
  decide +kernel

theorem prepareSubmitWrites_sample : prepareSubmitWrites sampleLedgerEnv (sampleInput 4 (some (uuidOf 3)))
    openIdentity (sampleValues 4) .empty = .ok (preparedState.db, sampleBarrier 4 1) := by
  rw [prepareSubmitWrites, submitIds_sample]
  simp only [authorizeIntent, insertIntent, updateIntent, insertReservationRow, IntentRow.checks,
    MutationReservationRow.checks, text_tests_chars]
  decide +kernel

theorem run_submits : Runs.run (mutationStep sampleLedgerEnv) .empty (submits 0 4 (some (uuidOf 3))) =
    preparedState :=
  run_prepareSubmit rfl rfl validateInput_sample prepareSubmitReads_sample prepareSubmitWrites_sample
end VeltrixEye
