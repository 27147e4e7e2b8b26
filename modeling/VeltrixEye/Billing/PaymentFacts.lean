import VeltrixEye.Billing.Sales

/-!
# Where the recorded payment facts come from

* `FactsReported` — the view itself reported the amount, the status and the instant of the evidence.
* `ConfirmSafe` — a confirmation that is about to record has reconciled the facts of its view.
-/

namespace VeltrixEye.Billing

/-- The view reported every payment fact of the evidence. -/
structure FactsReported (runtime : BillingRuntime) (view : ProviderSubscriptionState)
    (e : EvidenceRow) : Prop where
  payment : view.payment =
    .value ⟨e.paymentCurrency, e.paymentAmountMinor, e.paymentAmountExponent⟩
  status : view.providerTransactionStatus = .value e.providerStatus ∧ e.providerStatus = "success"
  paid : ∃ paidAt, view.paidAt = .value paidAt ∧ e.paidAt = runtime.storedInstant paidAt
  reference : view.providerReference = some e.providerReference
  customer : view.providerCustomerId = e.providerCustomerId ∧
    view.providerCustomerCode = e.providerCustomerCode

/-- The call asked the provider, saw `observed` at `verifiedAt`, and reconciled it. -/
structure Observed (runtime : BillingRuntime) (mode : BillingProviderMode) (userId : Uuid)
    (stored : StoredSnapshot) (customer : Option LocalCustomer)
    (observed : ProviderSubscriptionState) (verifiedAt : String) : Prop where
  reference : observed.providerReference = some (expectedReference runtime userId stored)
  reconciled : Reconciled runtime (observedFacts runtime mode userId stored observed verifiedAt)
    (expectedReference runtime userId stored) stored.snapshot customer mode

/-- What a confirmation knows at its stage. -/
def ConfirmKnows (runtime : BillingRuntime) (mode : BillingProviderMode) (userId : Uuid) :
    ConfirmStage → Prop
  | .checking _ stored customer observed verifiedAt =>
    Observed runtime mode userId stored customer observed verifiedAt
  | .recording _ stored customer observed verifiedAt =>
    Observed runtime mode userId stored customer observed verifiedAt
  | .rereading _ stored customer observed verifiedAt =>
    Observed runtime mode userId stored customer observed verifiedAt
  | _ => True

def ConfirmTask (runtime : BillingRuntime) (mode : BillingProviderMode) : BillingTask → Prop
  | .confirm call => ConfirmKnows runtime mode call.userId call.stage
  | _ => True

abbrev ConfirmSafe (runtime : BillingRuntime) (mode : BillingProviderMode) (s : BillingState) : Prop :=
  Pool.Safe (fun _ => True) (fun _ => ConfirmTask runtime mode) (fun _ _ => True) s

/-- The view a confirmation is about to record. -/
def BillingTask.recordingView : BillingTask → Option ProviderSubscriptionState
  | .confirm call =>
    match call.stage with
    | .recording _ _ _ observed _ => some observed
    | _ => none
  | _ => none

variable {runtime : BillingRuntime} {mode : BillingProviderMode} {input : StepInput}
  {order : ScanOrder} {db db' : BillingTables} {held : List Lock}

theorem confirmStep_knows {call : ConfirmCall} (h : ConfirmKnows runtime mode call.userId call.stage) :
    ConfirmKnows runtime mode call.userId (confirmStep runtime mode input db held call).2 := by
  unfold confirmStep
  cases hstage : call.stage with
  | verifying row stored customer =>
    dsimp only
    split
    · trivial
    split
    · trivial
    rename_i hreference
    split
    · trivial
    · rename_i hreconcile
      exact ⟨by simpa using hreference, reconcile_ok.mp hreconcile⟩
  | checking row stored customer observed verifiedAt =>
    rw [hstage] at h
    dsimp only
    split
    · exact h
    split
    · trivial
    split <;> trivial
  | recording row stored customer observed verifiedAt =>
    rw [hstage] at h
    dsimp only
    split
    · trivial
    split
    · exact h
    split
    · exact h
    split <;> trivial
  | _ =>
    dsimp only
    all_goals repeat' split
    all_goals trivial

/-- **Step lemma.** -/
theorem billingStep_confirm (s : BillingState) (a : BillingAction) (h : ConfirmSafe runtime mode s) :
    ConfirmSafe runtime mode (billingStep runtime mode s a) := by
  refine billingStep_safe h a ?_ ?_ ?_ ?_
  · intro t hstarted
    refine ⟨?_, fun _ _ => ⟨trivial, trivial⟩⟩
    cases t with
    | confirm call =>
      have hstage := congrArg ConfirmCall.stage hstarted
      unfold ConfirmTask
      dsimp only
      rw [hstage]
      trivial
    | _ => trivial
  · rintro w input order t r - ht rfl
    refine ⟨trivial, ?_, fun t' ht' => ⟨(h.other ht ht').1, trivial, trivial⟩⟩
    have hJ := h.task t (List.mem_of_getElem? ht)
    cases t with
    | confirm call => exact confirmStep_knows hJ
    | _ => trivial
  · intro w t ht
    refine ⟨?_, fun _ _ => ⟨trivial, trivial⟩⟩
    cases t with
    | confirm call =>
      obtain ⟨userId, stage⟩ := call
      cases stage <;> trivial
    | _ => trivial
  · exact fun _ _ => ⟨trivial, h.task⟩

theorem initial_confirm {s : BillingState} (h : Initial s) : ConfirmSafe runtime mode s where
  shared := trivial
  task := by simp [h.tasks]
  pair := by simp [h.tasks]

theorem factsReported_iff {userId : Uuid} {stored : StoredSnapshot} {customer : Option LocalCustomer}
    {observed : ProviderSubscriptionState} {verifiedAt : String} (id subscriptionId : Uuid)
    (h : Observed runtime mode userId stored customer observed verifiedAt) :
    FactsReported runtime observed (recordedRow runtime id userId subscriptionId stored.id
        (observedFacts runtime mode userId stored observed verifiedAt)) ↔
      ∃ payment, observed.payment = .value payment := by
  constructor
  · exact fun hreported => ⟨_, hreported.payment⟩
  rintro ⟨payment, hpayment⟩
  obtain ⟨paidAt, hpaid, -⟩ := h.reconciled.paid
  have hstatus : observed.providerTransactionStatus.toOption.getD "unknown" = "success" :=
    h.reconciled.status
  have hsuccess : observed.providerTransactionStatus = .value "success" := by
    cases hmember : observed.providerTransactionStatus with
    | value status =>
      rw [hmember] at hstatus
      exact congrArg _ hstatus
    | absent =>
      rw [hmember] at hstatus
      exact absurd hstatus (by decide)
    | null =>
      rw [hmember] at hstatus
      exact absurd hstatus (by decide)
  have hinstant : observed.paidAt = .value paidAt := by
    have hoption : observed.paidAt.toOption = some paidAt := hpaid
    cases hmember : observed.paidAt with
    | value instant =>
      rw [hmember] at hoption
      exact congrArg _ (Option.some.inj hoption)
    | absent =>
      rw [hmember] at hoption
      cases hoption
    | null =>
      rw [hmember] at hoption
      cases hoption
  exact {
    payment := by simp [recordedRow, observedFacts, verifiedTransaction, hpayment, Member.toOption]
    status := by
      simp [recordedRow, observedFacts, verifiedTransaction, hsuccess, Member.toOption]
    paid := ⟨paidAt, hinstant, by
      simp [recordedRow, observedFacts, verifiedTransaction, hinstant, Member.toOption]⟩
    reference := by simp [recordedRow, observedFacts, verifiedTransaction, h.reference]
    customer := ⟨rfl, rfl⟩ }

/-- **Payment facts come from the provider.** The evidence a confirmation records in a reachable state
    was reported by the view it observed exactly when that view carries a payment object. -/
theorem recorded_facts_reported_iff (runtime : BillingRuntime) (mode : BillingProviderMode)
    {s t : BillingState} (hs : Initial s) {as : List BillingAction}
    (ht : Runs.Reached (billingStep runtime mode) s as t) {w : ℕ} {view : ProviderSubscriptionState}
    (hview : t.tasks[w]?.bind BillingTask.recordingView = some view) (input : StepInput)
    (order : ScanOrder) :
    ∀ e ∈ (billingStep runtime mode t (.advance w input order)).shared.db.transactions,
      e ∉ t.shared.db.transactions →
        (FactsReported runtime view e ↔ ∃ payment, view.payment = .value payment) := by
  intro e he hnew
  have hsafe := Runs.inv_of_reached_always _ billingStep_confirm
    (@initial_confirm runtime mode s hs) ht
  cases hw : t.tasks[w]? with
  | none =>
    rw [hw] at hview
    cases hview
  | some task =>
    have hstep : billingStep runtime mode t (.advance w input order) =
        ⟨(taskStep runtime mode input order t.shared (t.others w) task).1,
          t.tasks.set w (taskStep runtime mode input order t.shared (t.others w) task).2⟩ :=
      Pool.advance_of_get hw
    rw [hstep] at he
    have hwrote := @taskStep_wrote runtime mode input order t.shared (t.others w) task
    change e ∈ (taskStep runtime mode input order t.shared (t.others w) task).1.db.transactions at he
    generalize (taskStep runtime mode input order t.shared (t.others w) task).1.db = db at hwrote he
    generalize (taskStep runtime mode input order t.shared (t.others w) task).2 = task' at hwrote
    cases hwrote with
    | evidence call row stored customer observed verifiedAt e' hstage hcandidate =>
      have hknows := hsafe.task _ (List.mem_of_getElem? hw)
      unfold ConfirmTask at hknows
      dsimp only at hknows
      rw [hstage] at hknows
      rw [hw] at hview
      simp only [Option.bind_some, BillingTask.recordingView, hstage, Option.some.injEq] at hview
      subst hview
      rcases List.mem_append.mp he with he | he
      · exact absurd he hnew
      · rw [List.mem_singleton.mp he, hcandidate]
        exact factsReported_iff input.id row.id hknows
    | _ => exact absurd he hnew

/-- User 1 confirms the payment of the sale (call 1); the insert is the next statement. -/
def sampleConfirmation (payment : Member BillingPaymentAmount) : List BillingAction :=
  sampleSale ++ .start (.confirm (startConfirm (idOf 1))) ::
    sampleSteps 1 5 (sampleInput 9 "2026-01-05T10:00:00.000Z"
      (some (samplePaidView payment "2026-01-05T09:30:00.000Z")))

/-- The state before the insert. -/
def beforeRecording (payment : Member BillingPaymentAmount) : BillingState :=
  Runs.run (billingStep sampleRuntime .test) sampleState (sampleConfirmation payment)

/-- The insert. -/
def recordingStep : BillingAction :=
  .advance 1 (sampleInput 9 "2026-01-05T10:00:00.000Z" none) sampleOrder

theorem paid_view_recorded :
    (billingStep sampleRuntime .test (beforeRecording (.value ⟨"GHS", 153450, 2⟩))
        recordingStep).shared.db.transactions.length = 1 ∧
      (beforeRecording (.value ⟨"GHS", 153450, 2⟩)).tasks[1]?.bind BillingTask.recordingView =
        some (samplePaidView (.value ⟨"GHS", 153450, 2⟩) "2026-01-05T09:30:00.000Z") := by
  rw [beforeRecording, sampleConfirmation, Runs.run_append, run_sampleSale, samplePaidView, sampleReference_eq,
    sampleRuntime, sampleDigest_eq]
  decide +kernel

/-- A view with the payment is recorded as it was reported. -/
theorem recorded_facts_reported_paid :
    (billingStep sampleRuntime .test (beforeRecording (.value ⟨"GHS", 153450, 2⟩))
        recordingStep).shared.db.transactions.length = 1 ∧
    ∀ e ∈ (billingStep sampleRuntime .test (beforeRecording (.value ⟨"GHS", 153450, 2⟩))
        recordingStep).shared.db.transactions,
      e ∉ (beforeRecording (.value ⟨"GHS", 153450, 2⟩)).shared.db.transactions →
        FactsReported sampleRuntime
          (samplePaidView (.value ⟨"GHS", 153450, 2⟩) "2026-01-05T09:30:00.000Z") e :=
  ⟨paid_view_recorded.1, fun e he hnew => (recorded_facts_reported_iff sampleRuntime .test
    sampleState_initial (Runs.reached_last _ _ (sampleConfirmation (.value ⟨"GHS", 153450, 2⟩)))
    paid_view_recorded.2 _ _ e he hnew).mpr ⟨_, rfl⟩⟩

/-- A view without a payment object is recorded with the amount of the local snapshot. -/
theorem snapshot_amount_recorded :
    (billingStep sampleRuntime .test (beforeRecording .absent) recordingStep).shared.db.transactions.map
        (fun e => (e.paymentCurrency, e.paymentAmountMinor)) = [("GHS", 153450)] ∧
      (beforeRecording .absent).shared.db.transactions = [] ∧
      (beforeRecording .absent).tasks[1]?.bind BillingTask.recordingView =
        some (samplePaidView .absent "2026-01-05T09:30:00.000Z") ∧
      (samplePaidView .absent "2026-01-05T09:30:00.000Z").payment = .absent := by
  rw [beforeRecording, sampleConfirmation, Runs.run_append, run_sampleSale, samplePaidView, sampleReference_eq,
    sampleRuntime, sampleDigest_eq]
  decide +kernel

end VeltrixEye.Billing
