import VeltrixEye.JsValue

/-!
# The vocabulary of provider mutations (`contracts/src/provider-mutations.ts`)

The states, outcomes and reasons of the mutation ledger, and the normalization of a provider's
submit response into an outcome.  `normalizeSubmitOutcome` reads any JavaScript value.
-/

namespace VeltrixEye

/-! ## Closed vocabularies -/

inductive ProviderIntentState where
  | prepared
  | submitting
  | confirmed
  | rejected
  | uncertain
  | reconciled
  deriving DecidableEq

inductive ProviderMutationOutcome where
  | accepted
  | rejected
  | uncertain
  deriving DecidableEq

inductive ProviderReservationState where
  | reserved
  | knownCompleted
  | knownRejected
  | uncertain
  deriving DecidableEq

inductive ProviderUncertaintyReason where
  | timeout
  | connectionFailure
  | lostResponse
  | malformedResponse
  | unknownProviderStatus
  | identityVerificationFailed
  | receiptPersistenceFailure
  | stateCommitFailed
  | processRestart
  | crashBeforeProviderCall
  deriving DecidableEq

inductive ProviderTerminalEvidence where
  | providerResponseVerified
  | reconciliationVerified
  | operatorResolution
  | preExchangeReservationProof
  deriving DecidableEq

inductive ProviderResolution where
  | providerAccepted
  | providerRejected
  | providerAbsent
  deriving DecidableEq

inductive ProviderReconciliationState where
  | notRequired
  | pending
  | resolved
  deriving DecidableEq

inductive ProviderEnvironment where
  | paper
  | demo
  deriving DecidableEq

/-- `ORDER_STATUSES`. -/
inductive ProviderOrderStatus where
  | requested
  | validating
  | submitted
  | accepted
  | partiallyFilled
  | filled
  | rejected
  | cancelled
  | expired
  | failed
  deriving DecidableEq

/-- `BRIDGE_NORMALIZED_STATUSES`: the order statuses and `uncertain`. -/
inductive BridgeNormalizedStatus where
  | status (s : ProviderOrderStatus)
  | uncertain
  deriving DecidableEq

/-- The text of an environment. -/
def ProviderEnvironment.text : ProviderEnvironment → String
  | .paper => "paper"
  | .demo => "demo"

/-- The text of a status. -/
def ProviderOrderStatus.text : ProviderOrderStatus → String
  | .requested => "requested"
  | .validating => "validating"
  | .submitted => "submitted"
  | .accepted => "accepted"
  | .partiallyFilled => "partially_filled"
  | .filled => "filled"
  | .rejected => "rejected"
  | .cancelled => "cancelled"
  | .expired => "expired"
  | .failed => "failed"

def BridgeNormalizedStatus.text : BridgeNormalizedStatus → String
  | .status s => s.text
  | .uncertain => "uncertain"

/-- `isProviderIntentTerminalState`. -/
def ProviderIntentState.terminal : ProviderIntentState → Bool
  | .confirmed | .rejected | .reconciled => true
  | _ => false

/-- `isProviderIntentUnresolvedState`. -/
def ProviderIntentState.unresolved : ProviderIntentState → Bool
  | .prepared | .submitting | .uncertain => true
  | _ => false

/-- The status changes the trigger `provider_intent_state_guard` allows. -/
def ProviderIntentState.canBecome : ProviderIntentState → ProviderIntentState → Bool
  | .prepared, .submitting => true
  | .submitting, .confirmed => true
  | .submitting, .rejected => true
  | .submitting, .uncertain => true
  | .submitting, .reconciled => true
  | .uncertain, .reconciled => true
  | a, b => a == b

/-- The state changes the trigger `provider_mutation_reservation_state_guard` allows. -/
def ProviderReservationState.canBecome : ProviderReservationState → ProviderReservationState → Bool
  | .reserved, _ => true
  | .uncertain, .knownCompleted => true
  | .uncertain, .knownRejected => true
  | a, b => a == b

/-! ## Normalization of a submit response -/

def PROVIDER_ACCEPTED_STATUSES : List String :=
  ["requested", "placed", "accepted", "partial", "filled"]

def PROVIDER_REJECTED_STATUSES : List String := ["rejected", "cancelled", "canceled", "expired"]

def PROVIDER_ORDER_STATUS_VOCABULARY : List (String × ProviderOrderStatus) :=
  [("requested", .submitted), ("placed", .accepted), ("accepted", .accepted),
    ("partial", .partiallyFilled), ("filled", .filled), ("rejected", .rejected),
    ("cancelled", .cancelled), ("canceled", .cancelled), ("expired", .expired)]

structure NormalizedProviderOrderStatus where
  status : Option ProviderOrderStatus
  statusUncertain : Bool
  snapshotStatus : BridgeNormalizedStatus
  marketClosed : Bool

def normalizeProviderOrderStatus (raw : JsValue) : NormalizedProviderOrderStatus :=
  match raw with
  | .string token =>
    if token = "market_closed" then ⟨none, true, .uncertain, true⟩
    else
      match PROVIDER_ORDER_STATUS_VOCABULARY.lookup token with
      | some s => ⟨some s, false, .status s, false⟩
      | none => ⟨none, true, .uncertain, false⟩
  | _ => ⟨none, true, .uncertain, false⟩

/-- `key.toLowerCase().replace(/[^a-z_]/g, '')`, letter by letter; the Kelvin sign and the dotted
capital I are the two letters outside ASCII whose lower case has an ASCII letter. -/
def auditKeyLetter? (c : Char) : Option Char :=
  if 'a' ≤ c ∧ c ≤ 'z' then some c
  else if c = '_' then some c
  else if 'A' ≤ c ∧ c ≤ 'Z' then some c.toLower
  else if c.toNat = 0x212A then some 'k'
  else if c.toNat = 0x130 then some 'i'
  else none

def BRIDGE_FORBIDDEN_AUDIT_KEYS : List String :=
  ["password", "passwd", "token", "secret", "apikey", "api_key", "authorization", "privatekey",
    "credential"]

def forbiddenAuditKey (key : String) : Bool :=
  BRIDGE_FORBIDDEN_AUDIT_KEYS.contains (String.ofList (key.toList.filterMap auditKeyLetter?))

mutual

def containsForbiddenAuditKey : JsValue → Bool
  | .array items => anyForbiddenItem items
  | .object fields => anyForbiddenField fields
  | _ => false

def anyForbiddenItem : List JsValue → Bool
  | [] => false
  | v :: rest => containsForbiddenAuditKey v || anyForbiddenItem rest

def anyForbiddenField : List (String × JsValue) → Bool
  | [] => false
  | (key, v) :: rest =>
    forbiddenAuditKey key || containsForbiddenAuditKey v || anyForbiddenField rest

end

/-- The length of a JavaScript string: UTF-16 code units. -/
def jsLength (s : String) : ℕ := (s.toList.map fun c => if c.toNat < 0x10000 then 1 else 2).sum

/-- `isBoundedString(value, max)` of a string. -/
def boundedText (s : String) (max : ℕ) : Bool := 0 < jsLength s && jsLength s ≤ max

/-- `SubmitIdentityProbe`: what a response has to echo. -/
structure SubmitIdentityProbe where
  clientOrderId : String
  idempotencyKey : String
  accountRef : Option String

/-- `verifyProviderResponseIdentity(...).ok`. -/
def verifyProviderResponseIdentity (probe : SubmitIdentityProbe)
    (response : List (String × JsValue)) : Bool :=
  (match JsValue.lookup response "clientOrderId" with
    | .string s => !s.isEmpty && s == probe.clientOrderId
    | _ => false) &&
  (match JsValue.lookup response "idempotencyKey" with
    | .undefined => true
    | .string s => s == probe.idempotencyKey
    | _ => false) &&
  (match JsValue.lookup response "accountRef" with
    | .undefined => true
    | .null => true
    | .string s => some s == probe.accountRef
    | _ => false) &&
  match JsValue.lookup response "providerOrderId" with
    | .undefined => true
    | .null => true
    | .string s => boundedText s 128
    | _ => false

/-- `ProviderReceipt`: the sanitized receipt of a submit response. -/
structure ProviderReceipt where
  providerOrderId : Option String
  providerStatus : BridgeNormalizedStatus
  occurredAt : ℤ
  deriving DecidableEq

structure NormalizedSubmitOutcome where
  outcome : ProviderMutationOutcome
  uncertaintyReason : Option ProviderUncertaintyReason
  receipt : Option ProviderReceipt
  providerOrderId : Option String
  providerStatus : Option BridgeNormalizedStatus
  statusUncertain : Bool

/-- The outcome of a response that proves nothing. -/
def NormalizedSubmitOutcome.uncertain (reason : ProviderUncertaintyReason)
    (status : BridgeNormalizedStatus) : NormalizedSubmitOutcome :=
  ⟨.uncertain, some reason, none, none, some status, true⟩

/-- The outcome of a call that threw or whose receipt could not be written. -/
def NormalizedSubmitOutcome.failed (reason : ProviderUncertaintyReason) : NormalizedSubmitOutcome :=
  ⟨.uncertain, some reason, none, none, none, true⟩

/-- The keys a response may carry. -/
def SUBMIT_RESPONSE_KEYS : List String :=
  ["clientOrderId", "idempotencyKey", "accountRef", "providerOrderId", "status"]

/-- `normalizeSubmitOutcome`.  The receipt is built from checked fields, so its sanitization can
refuse only the ticket: one that is present but empty or longer than 128. -/
def normalizeSubmitOutcome (probe : SubmitIdentityProbe) (now : ℤ) (raw : JsValue) :
    NormalizedSubmitOutcome :=
  match raw with
  | .undefined => .uncertain .lostResponse .uncertain
  | .null => .uncertain .lostResponse .uncertain
  | .object response =>
    if anyForbiddenField response then .uncertain .malformedResponse .uncertain
    else if (JsValue.keys response).any (fun k => !SUBMIT_RESPONSE_KEYS.contains k) then
      .uncertain .malformedResponse .uncertain
    else if !verifyProviderResponseIdentity probe response then
      .uncertain .identityVerificationFailed .uncertain
    else
      match JsValue.lookup response "status" with
      | .string token =>
        match (normalizeProviderOrderStatus (.string token)).status with
        | none => .uncertain .unknownProviderStatus .uncertain
        | some status =>
          let ticket := (JsValue.lookup response "providerOrderId").text?
          if ticket.any (fun t => !boundedText t 128) then .uncertain .malformedResponse .uncertain
          else
            let receipt : ProviderReceipt := ⟨ticket, .status status, now⟩
            if PROVIDER_ACCEPTED_STATUSES.contains token then
              match ticket with
              | some t =>
                if t.isEmpty then .uncertain .identityVerificationFailed .uncertain
                else ⟨.accepted, none, some receipt, some t, some (.status status), false⟩
              | none => .uncertain .identityVerificationFailed .uncertain
            else if PROVIDER_REJECTED_STATUSES.contains token then
              ⟨.rejected, none, some receipt, ticket, some (.status status), false⟩
            else .uncertain .unknownProviderStatus (.status status)
      | _ => .uncertain .unknownProviderStatus .uncertain
  | _ => .uncertain .malformedResponse .uncertain

/-- An acceptance carries a ticket, a definitive outcome no reason, and an uncertain one its reason
and no ticket. -/
structure NormalizedSubmitOutcome.Coherent (n : NormalizedSubmitOutcome) : Prop where
  accepted : n.outcome = .accepted → ∃ t, n.providerOrderId = some t
  ticket : n.providerOrderId.all (boundedText · 128) = true
  definitive : n.outcome ≠ .uncertain → n.uncertaintyReason = none
  uncertain : n.outcome = .uncertain → n.uncertaintyReason.isSome ∧ n.providerOrderId = none

theorem NormalizedSubmitOutcome.uncertain_coherent (reason : ProviderUncertaintyReason)
    (status : BridgeNormalizedStatus) :
    (NormalizedSubmitOutcome.uncertain reason status).Coherent := by
  constructor <;> simp [NormalizedSubmitOutcome.uncertain]

theorem NormalizedSubmitOutcome.failed_coherent (reason : ProviderUncertaintyReason) :
    (NormalizedSubmitOutcome.failed reason).Coherent := by
  constructor <;> simp [NormalizedSubmitOutcome.failed]

/-- **Every normalized outcome is coherent**, whatever the provider returned. -/
theorem normalizeSubmitOutcome_coherent (probe : SubmitIdentityProbe) (now : ℤ) (raw : JsValue) :
    (normalizeSubmitOutcome probe now raw).Coherent := by
  have hunc := NormalizedSubmitOutcome.uncertain_coherent
  unfold normalizeSubmitOutcome
  cases raw with
  | object response =>
    simp only
    split
    · exact hunc _ _
    split
    · exact hunc _ _
    split
    · exact hunc _ _
    split
    · split
      · exact hunc _ _
      · split
        · exact hunc _ _
        · rename_i hbounded
          -- the sanitized receipt only holds a bounded ticket
          have hticket : ((JsValue.lookup response "providerOrderId").text?).all
              (boundedText · 128) = true := by
            cases hlookup : (JsValue.lookup response "providerOrderId").text? with
            | none => rfl
            | some t => simpa [hlookup] using hbounded
          split
          · split
            · rename_i t ht
              rw [ht] at hticket
              split
              · exact hunc _ _
              · exact ⟨fun _ => ⟨t, rfl⟩, hticket, fun _ => rfl, nofun⟩
            · exact hunc _ _
          · split
            · exact ⟨nofun, hticket, fun _ => rfl, nofun⟩
            · exact hunc _ _
    · exact hunc _ _
  | _ => exact hunc _ _

end VeltrixEye
