import VeltrixEye.Billing.Activation
import VeltrixEye.Billing.Grants
import VeltrixEye.Billing.Synchronization
import VeltrixEye.Billing.Webhook
import VeltrixEye.Lib.SmallUuid
import VeltrixEye.Lib.Utf8

/-!
# The billing system: concurrent calls on one database

Any number of checkout, confirmation, activation, grant, synchronization and webhook calls work on
the tables, statement by statement in any order.  A step waits for the locks the other calls hold; a
failure ends a call at any statement, and what its open transaction has not committed is gone.
Provider-plan epochs are registered and retired, FX versions recorded and customers provisioned from
outside, each in one statement.

* `BillingTask` — a call; `BillingData` — the tables and a record of the run that no statement reads:
  the number of steps, when each ledger row arrived, and which provider observations were applied.
-/

namespace VeltrixEye.Billing

inductive BillingTask where
  | checkout (call : CheckoutCall)
  | confirm (call : ConfirmCall)
  | activate (call : ActivateCall)
  | grant (call : GrantCall)
  | sync (call : SyncCall)
  | receive (call : ReceiveCall)
  deriving DecidableEq

/-- What the open transaction of a task holds. -/
def BillingTask.locks : BillingTask → List Lock
  | .checkout call => call.locks
  | .confirm _ => []
  | .activate call => call.locks
  | .grant call => call.locks
  | .sync call => call.locks
  | .receive _ => []

structure BillingData where
  db : BillingTables
  tick : ℕ
  /-- The step at which each ledger row was inserted. -/
  arrivals : List (Uuid × ℕ)
  /-- The applied synchronizations: the subscription and the step of the provider read. -/
  observations : List (Uuid × ℕ)

abbrev BillingState := Pool BillingData BillingTask

/-- The locks the other tasks hold. -/
def heldBy (tasks : List BillingTask) : List Lock := tasks.flatMap BillingTask.locks

theorem not_blocked {tasks : List BillingTask} {lock : Lock}
    (h : blocked (heldBy tasks) lock = false) {t : BillingTask} (ht : t ∈ tasks) {l : Lock}
    (hl : l ∈ t.locks) : l.conflicts lock = false :=
  blocked_eq_false.mp h l (List.mem_flatMap.mpr ⟨t, ht, hl⟩)

/-! ## Steps -/

/-- The data after a statement left the tables `db`. -/
def BillingData.next (d : BillingData) (db : BillingTables) : BillingData :=
  { d with
    db := db
    tick := d.tick + 1
    arrivals := d.arrivals ++ (db.events.drop d.db.events.length).map fun e => (e.id, d.tick) }

/-- A synchronization that just committed. -/
def newObservation (before after : SyncStage) : List (Uuid × ℕ) :=
  match before, after with
  | .settling _ _ _ _, .applied subscriptionId _ readAt => [(subscriptionId, readAt)]
  | _, _ => []

/-- The next statement of a task. -/
def taskStep (runtime : BillingRuntime) (mode : BillingProviderMode) (input : StepInput)
    (order : ScanOrder) (d : BillingData) (others : List BillingTask) (t : BillingTask) :
    BillingData × BillingTask :=
  let held := heldBy others
  match t with
  | .checkout call =>
    let r := checkoutStep runtime mode input d.db held call
    (d.next r.1, .checkout { call with stage := r.2 })
  | .confirm call =>
    let r := confirmStep runtime mode input d.db held call
    (d.next r.1, .confirm { call with stage := r.2 })
  | .activate call =>
    let r := activateStep runtime mode input d.db held call
    (d.next r.1, .activate { call with stage := r.2 })
  | .grant call =>
    let r := grantStep runtime input d.db held call
    (d.next r.1, .grant { call with stage := r.2 })
  | .sync call =>
    let r := syncStep runtime d.tick input d.db held call
    ({ d.next r.1 with observations := d.observations ++ newObservation call.stage r.2 },
      .sync { call with stage := r.2 })
  | .receive call =>
    let r := receiveStep runtime order input d.db held call
    (d.next r.1, .receive { call with stage := r.2 })

/-- A failure ends a call: its transaction is rolled back.  A delivery that is already recorded only
    reports that its code was not bound. -/
def failTask : BillingTask → BillingTask
  | .checkout call => .checkout { call with
      stage := match call.stage with
        | .completed reference => .completed reference
        | .refused reason => .refused reason
        | _ => .refused .database }
  | .confirm call => .confirm { call with
      stage := match call.stage with
        | .verified evidence replayed => .verified evidence replayed
        | .unverified reason => .unverified reason
        | .refused reason => .refused reason
        | _ => .refused .database }
  | .activate call => .activate { call with
      stage := match call.stage with
        | .activated fact replayed => .activated fact replayed
        | .refused reason => .refused reason
        | _ => .refused .database }
  | .grant call => .grant { call with
      stage := match call.stage with
        | .granted grant replayed => .granted grant replayed
        | .wouldGrant plan user => .wouldGrant plan user
        | .refused reason => .refused reason
        | _ => .refused .database }
  | .sync call => .sync { call with
      stage := match call.stage with
        | .applied subscriptionId outcome readAt => .applied subscriptionId outcome readAt
        | .unapplied outcome => .unapplied outcome
        | _ => .refused }
  | .receive call => .receive { call with
      stage := match call.stage with
        | .resolving => .refused .persistence_failed
        | .recording _ => .refused .persistence_failed
        | .received binding => .received binding
        | .refused reason => .refused reason
        | _ => .received .failed }

/-! ## Statements from outside -/

/-- An FX version is recorded; versions are immutable. -/
def recordFxVersion (row : FxRateVersionRow) (db : BillingTables) : BillingTables :=
  if db.fxVersions.any fun v => v.id = row.id then db
  else { db with fxVersions := db.fxVersions ++ [row] }

/-- An epoch is registered under the unique indexes of `billing_provider_plans`. -/
def registerPlan (row : ProviderPlanRow) (db : BillingTables) : BillingTables :=
  if row.status ≠ .active ∨ row.cataloguePlan = .starter ∨
      !(db.fxVersions.any fun v => v.id = row.fxRateVersionId) ∨
      db.plans.any (fun p => p.id = row.id || (p.mode = row.mode &&
        (p.providerPlanId = row.providerPlanId || (p.status = .active &&
          p.cataloguePlan = row.cataloguePlan && p.interval = row.interval &&
          p.paymentCurrency = row.paymentCurrency)))) then db
  else { db with plans := db.plans ++ [row] }

/-- An epoch is retired; the statement waits for the sales that hold it `FOR SHARE`. -/
def retirePlan (id : Uuid) (held : List Lock) (db : BillingTables) : BillingTables :=
  if blocked held (.planWrite id) then db
  else { db with plans := db.plans.map fun p =>
    if p.id = id then { p with status := .retired } else p }

/-- The provider identifiers of the row are held by another customer. -/
def customerTaken (db : BillingTables) (row : CustomerRow) : Bool :=
  db.customers.any fun c => c.userId ≠ row.userId &&
    ((c.providerCustomerId.isSome && c.providerCustomerId = row.providerCustomerId) ||
      (c.providerCustomerCode.isSome && c.providerCustomerCode = row.providerCustomerCode))

/-- `billing/customers.ts`: the customer of a user is inserted, or an unprovisioned one filled. -/
def provisionCustomer (row : CustomerRow) (db : BillingTables) : BillingTables :=
  if customerTaken db row ∨ !db.hasUser row.userId ∨ !row.provisioned then db
  else match db.customers.find? fun c => c.userId = row.userId with
    | none =>
      if db.customers.any fun c => c.id = row.id then db
      else { db with customers := db.customers ++ [row] }
    | some _ =>
      { db with customers := db.customers.map fun c =>
        if c.userId = row.userId ∧ c.provisioned = false ∧ c.email = row.email then
          { row with id := c.id }
        else c }

inductive BillingAction where
  | start (task : BillingTask)
  | advance (w : ℕ) (input : StepInput) (order : ScanOrder)
  | fail (w : ℕ)
  | recordFxVersion (row : FxRateVersionRow)
  | registerPlan (row : ProviderPlanRow)
  | retirePlan (id : Uuid)
  | provisionCustomer (row : CustomerRow)

/-- A call at its first statement. -/
def BillingTask.Started : BillingTask → Prop
  | .checkout call => call = startCheckout call.userId call.cataloguePlan call.interval
  | .confirm call => call = startConfirm call.userId
  | .activate call => call = startActivate call.request
  | .grant call => call = startGrant call.request
  | .sync call => call = startSync call.userId
  | .receive call => call = startReceive call.delivery

instance : ∀ t : BillingTask, Decidable t.Started
  | .checkout call =>
    inferInstanceAs (Decidable (call = startCheckout call.userId call.cataloguePlan call.interval))
  | .confirm call => inferInstanceAs (Decidable (call = startConfirm call.userId))
  | .activate call => inferInstanceAs (Decidable (call = startActivate call.request))
  | .grant call => inferInstanceAs (Decidable (call = startGrant call.request))
  | .sync call => inferInstanceAs (Decidable (call = startSync call.userId))
  | .receive call => inferInstanceAs (Decidable (call = startReceive call.delivery))

/-- The tables change from outside. -/
def outside (f : List Lock → BillingTables → BillingTables) (s : BillingState) : BillingState :=
  s.update fun d tasks => { d with db := f (heldBy tasks) d.db }

/-- One step of the system. -/
def billingStep (runtime : BillingRuntime) (mode : BillingProviderMode) (s : BillingState) :
    BillingAction → BillingState
  | .start task => if task.Started then s.spawn task else s
  | .advance w input order => s.advance (taskStep runtime mode input order) w
  | .fail w => s.advance (fun d _ t => (d, failTask t)) w
  | .recordFxVersion row => outside (fun _ => Billing.recordFxVersion row) s
  | .registerPlan row => outside (fun _ => Billing.registerPlan row) s
  | .retirePlan id => outside (Billing.retirePlan id) s
  | .provisionCustomer row => outside (fun _ => Billing.provisionCustomer row) s

/-! ## Initial states -/

/-- A row from before provider billing: nothing of it is sold through a provider. -/
structure Legacy (r : SubscriptionRow) : Prop where
  provider : r.provider = none
  locked : r.lockedPricingSnapshotId = none
  providerPlanId : r.providerPlanId = none
  providerSubscriptionId : r.providerSubscriptionId = none
  providerSubscriptionCode : r.providerSubscriptionCode = none
  billingCustomerId : r.billingCustomerId = none

/-- No call is running; the users, customers, epochs, FX versions and legacy subscriptions are
    arbitrary under their unique indexes, and nothing has been sold. -/
structure Initial (s : BillingState) : Prop where
  tasks : s.tasks = []
  users : (s.shared.db.users.map (·.id)).Nodup
  customers : (s.shared.db.customers.map (·.userId)).Nodup
  customerIds : (s.shared.db.customers.filterMap (·.providerCustomerId)).Nodup
  customerCodes : (s.shared.db.customers.filterMap (·.providerCustomerCode)).Nodup
  fxVersions : (s.shared.db.fxVersions.map (·.id)).Nodup
  plans : (s.shared.db.plans.map (·.id)).Nodup
  subscriptions : (s.shared.db.subscriptions.map (·.id)).Nodup
  subscribers : (s.shared.db.subscriptions.map (·.userId)).Nodup
  legacy : ∀ r ∈ s.shared.db.subscriptions, Legacy r
  snapshots : s.shared.db.snapshots = []
  transactions : s.shared.db.transactions = []
  activations : s.shared.db.activations = []
  grants : s.shared.db.grants = []
  events : s.shared.db.events = []
  arrivals : s.shared.arrivals = []
  observations : s.shared.observations = []

/-! ## The inputs of small runs

Users 1 and 2, an FX version of 15.50 GHS a dollar, and an active epoch of monthly Pro and Elite. -/

theorem normalizeUuid_digit (n : Fin 16) :
    normalizeUuid (printUuid (List.replicate 31 '0' ++ ["0123456789abcdef".toList.getD n '0'])) =
      some (printUuid (List.replicate 31 '0' ++ ["0123456789abcdef".toList.getD n '0'])) :=
  normalizeUuid_ofDigit n

/-- The id that ends in a digit. -/
def idOf (n : Fin 16) : Uuid := ⟨_, normalizeUuid_digit n⟩

/-- A digest of 64 hexadecimal digits. -/
def sampleDigest (s : String) : String :=
  let value := s.toList.foldl (fun h c => (h * 1000003 + c.toNat) % 16 ^ 64) 7
  String.ofList ((List.range 64).map fun i => "0123456789abcdef".toList.getD (value / 16 ^ i % 16) '0')

theorem sampleDigest_eq : sampleDigest = fun s =>
    let value := (Utf8.chars s).foldl (fun h c => (h * 1000003 + c.toNat) % 16 ^ 64) 7
    String.ofList ((List.range 64).map fun i => "0123456789abcdef".toList.getD (value / 16 ^ i % 16) '0') := by
  funext s
  rw [sampleDigest, Utf8.chars_eq]

/-- Every text is an instant, and it is stored as it is but for a fraction of zero seconds. -/
def sampleRuntime : BillingRuntime where
  sha256Hex := sampleDigest
  isoDateTime := fun _ => true
  storedInstant := fun s => if s = "2026-01-05T10:00:00Z" then "2026-01-05T10:00:00.000Z" else s

def sampleOrder : ScanOrder := ⟨id, fun l => List.Perm.refl l⟩

def samplePlan (n : Fin 16) (plan : CommercialPlanId) (code : String) (amount : ℕ) :
    ProviderPlanRow where
  id := idOf n
  mode := .test
  cataloguePlan := plan
  interval := .monthly
  paymentCurrency := "GHS"
  paymentAmountMinor := amount
  paymentAmountExponent := 2
  providerPlanId := code
  fxRateVersionId := idOf 5
  pricingPolicyVersion := "policy-1"
  catalogueVersion := "billing-catalogue-1"
  status := .active
  validFrom := 0

def sampleTables : BillingTables where
  users := [⟨idOf 1, "ama@example.com"⟩, ⟨idOf 2, "kofi@example.com"⟩]
  customers := [⟨idOf 11, idOf 1, "ama@example.com", none, some "CUS_1", true⟩]
  fxVersions := [⟨idOf 5, "USD", "GHS", 1550, 2, .ops, 0, 0⟩]
  plans := [samplePlan 6 .pro "PLN_pro" 60450, samplePlan 7 .elite "PLN_elite" 153450]
  snapshots := []
  subscriptions := []
  transactions := []
  activations := []
  grants := []
  events := []

def sampleState : BillingState := ⟨⟨sampleTables, 0, [], []⟩, []⟩

theorem sampleState_initial : Initial sampleState where
  tasks := rfl
  users := by decide
  customers := by decide
  customerIds := by decide
  customerCodes := by decide
  fxVersions := by decide
  plans := by decide
  subscriptions := by decide
  subscribers := by decide
  legacy := by simp [sampleState, sampleTables]
  snapshots := rfl
  transactions := rfl
  activations := rfl
  grants := rfl
  events := rfl
  arrivals := rfl
  observations := rfl

/-- The values of a step: ids that end in `n`, the clock, the provider's view. -/
def sampleInput (n : Fin 16) (now : String) (view : Option ProviderSubscriptionState) : StepInput :=
  ⟨idOf n, now, 0, view, true⟩

/-- Call `w` takes `k` statements with the same values. -/
def sampleSteps (w k : ℕ) (input : StepInput) : List BillingAction :=
  List.replicate k (.advance w input sampleOrder)

/-- Call 0 buys monthly Elite for user 1. -/
def sampleSale : List BillingAction :=
  .start (.checkout (startCheckout (idOf 1) .elite .monthly)) ::
    sampleSteps 0 10 (sampleInput 8 "2026-01-05T09:00:00.000Z" none)

/-- The reference of the sale of `sampleSale`. -/
def sampleReference : String :=
  billingCheckoutReference sampleRuntime (idOf 1)
    (((Runs.run (billingStep sampleRuntime .test) sampleState sampleSale).shared.db.snapshots.head?.map
      (·.idempotencyKey)).getD "")

/-- The provider's view of that sale once it is paid. -/
def samplePaidView (payment : Member BillingPaymentAmount) (paidAt : String) :
    ProviderSubscriptionState where
  provider := .paystack
  state := .active
  providerSubscriptionId := none
  providerSubscriptionCode := none
  providerCustomerId := none
  providerCustomerCode := some "CUS_1"
  providerReference := some sampleReference
  payment := payment
  paidAt := .value paidAt
  providerTransactionId := .value "TRX_1"
  providerTransactionStatus := .value "success"

deriving instance DecidableEq for Pool, BillingTables, BillingData

def soldSnapshot : SnapshotRow where
  id := idOf 8
  idempotencyKey := "026b8eb2df323064a16a80d425638b6a4558aa6b1a014cf017fec70c90e261dd"
  snapshot := ⟨9900, "billing-catalogue-1", .elite, .monthly, ⟨"GHS", 153450, 2⟩,
    ⟨"GHS", 1550, 2, idOf 5, 0, 0, .ops⟩, some "PLN_elite", none, "policy-1", 0⟩

def soldSubscription : SubscriptionRow :=
  ⟨idOf 8, idOf 1, .premium, .active, some .elite, some .monthly, some .paystack, some "PLN_elite",
    some .pending, none, none, none, some (idOf 8), .never_synced, false, none, none, 1⟩

def soldReference : String := "ve-chk-a0e0974d059de2cc93b1ddebbd6d6e0882338f17791677ed27a3664b296c29fe"

/-- The state it leaves. -/
def soldState : BillingState :=
  ⟨⟨{ sampleTables with snapshots := [soldSnapshot], subscriptions := [soldSubscription] }, 10, [], []⟩,
    [.checkout ⟨idOf 1, .elite, .monthly, .completed soldReference⟩]⟩

theorem run_sampleSale : Runs.run (billingStep sampleRuntime .test) sampleState sampleSale = soldState := by
  rw [sampleRuntime, sampleDigest_eq]
  decide +kernel

theorem sampleReference_eq : sampleReference = soldReference := by
  rw [sampleReference, run_sampleSale, sampleRuntime, sampleDigest_eq]
  decide +kernel

end VeltrixEye.Billing
