import VeltrixEye.Lib.Utf8
import VeltrixEye.Lib.Uuid
import VeltrixEye.Mutations.Vocabulary

/-!
# The tables of the mutation ledger (migrations `0019`, `0029`, `0030`)

Rows, CHECK constraints, unique indexes and triggers, and the statements that write the tables.
Only rows the ledger writes occur: every intent is a `submit` with an idempotency key.  Rows stay in
the order they were committed; nothing is ever deleted.

* `insertIntent_ok`, `updateIntent_ok` — what a successful write of an intent did.
* `updateReservation_ok` — the same for a reservation.
-/

namespace VeltrixEye

/-! ## Errors of a statement -/

inductive DbError where
  /-- A unique index refused the row (`23505`). -/
  | unique (constraint : String)
  /-- A trigger refused the change (`23514`). -/
  | trigger (message : String)
  /-- A CHECK constraint refused the row (`23514`). -/
  | check (table : String)
  /-- Anything else: an unreadable parameter, a lost connection. -/
  | failed
  deriving DecidableEq

/-! ## Intents -/

/-- A row of `execution_provider_intents`. -/
structure IntentRow where
  id : Uuid
  userId : Uuid
  executionProfileId : Uuid
  orderId : Option Uuid
  clientOrderId : String
  idempotencyKey : String
  requestHash : String
  providerSlug : String
  environment : ProviderEnvironment
  accountRef : Option String
  brokerServerRef : Option String
  credentialRef : Option String
  credentialFingerprint : Option String
  status : ProviderIntentState
  outcome : Option ProviderMutationOutcome
  uncertaintyReason : Option ProviderUncertaintyReason
  terminalEvidence : Option ProviderTerminalEvidence
  resolution : Option ProviderResolution
  parentIntentId : Option Uuid
  rootIntentId : Option Uuid
  supersededByIntentId : Option Uuid
  attempt : ℕ
  reconciliationRequired : Bool
  reconciliationState : ProviderReconciliationState
  riskDecisionId : Option Uuid
  stateVersion : ℕ
  resolvedAt : Option ℤ
  createdAt : ℤ
  deriving DecidableEq

namespace IntentRow

/-- Unresolved or provider-accepted: the predicate of `findLiveOrderMutation` and of the index
`execution_provider_intents_order_live_uniq`. -/
def live (r : IntentRow) : Bool :=
  match r.status with
  | .prepared | .submitting | .uncertain | .confirmed => true
  | .rejected => false
  | .reconciled => r.resolution == some .providerAccepted

/-- `isProviderAcceptedIntent`. -/
def providerAccepted (r : IntentRow) : Bool :=
  r.status == .confirmed || (r.status == .reconciled && r.resolution == some .providerAccepted)

/-- `isRetryEligibleResolution`. -/
def retryEligible (r : IntentRow) : Bool :=
  r.status == .rejected ||
    (r.status == .reconciled &&
      (r.resolution == some .providerRejected || r.resolution == some .providerAbsent))

/-- The lineage of a row: its root's id. -/
def lineage (r : IntentRow) : Uuid := r.rootIntentId.getD r.id

/-- The constraint `state_coherence_check`.  A comparison with a NULL outcome is unknown, and an
unknown CHECK passes. -/
def coherent (r : IntentRow) : Bool :=
  match r.status with
  | .prepared | .submitting =>
    r.outcome.isNone && r.resolvedAt.isNone && r.terminalEvidence.isNone && r.resolution.isNone
  | .confirmed =>
    r.outcome.all (· == .accepted) && !r.reconciliationRequired && r.terminalEvidence.isSome &&
      r.uncertaintyReason.isNone && r.resolvedAt.isSome
  | .rejected =>
    r.outcome.all (· == .rejected) && !r.reconciliationRequired && r.terminalEvidence.isSome &&
      r.uncertaintyReason.isNone && r.resolvedAt.isSome
  | .uncertain =>
    r.outcome.all (· == .uncertain) && r.reconciliationRequired &&
      r.reconciliationState == .pending && r.terminalEvidence.isNone && r.resolvedAt.isNone
  | .reconciled =>
    r.terminalEvidence.isSome && r.resolution.isSome && r.resolvedAt.isSome &&
      r.outcome.all (· != .uncertain) && r.reconciliationState == .resolved &&
      !r.reconciliationRequired

/-- The constraint `lineage_check`. -/
def lineageCheck (r : IntentRow) : Bool :=
  (r.attempt == 1 && r.parentIntentId.isNone && r.rootIntentId.isNone) ||
    (1 < r.attempt && r.parentIntentId.isSome && r.rootIntentId.isSome &&
      r.parentIntentId != some r.id && r.rootIntentId != some r.id)

end IntentRow

/-- `~ '^[0-9a-f]{64}$'`. -/
def isHex64 (s : String) : Bool :=
  s.toList.length == 64 && s.toList.all fun c => ('0' ≤ c && c ≤ '9') || ('a' ≤ c && c ≤ 'f')

/-- A text the database can store: it has no NUL. -/
def storable (s : String) : Bool := s.toList.all (· != '\x00')

/-- `char_length(s) BETWEEN 1 AND max`. -/
def charLengthWithin (s : String) (max : ℕ) : Bool := 1 ≤ s.length && s.length ≤ max

/-- The tests of a text, on the characters read off its bytes. -/
theorem text_tests_chars :
    (isHex64 = fun s => (Utf8.chars s).length == 64 &&
      (Utf8.chars s).all fun c => ('0' ≤ c && c ≤ '9') || ('a' ≤ c && c ≤ 'f')) ∧
    (storable = fun s => (Utf8.chars s).all (· != '\x00')) ∧
    charLengthWithin = fun s max => 1 ≤ (Utf8.chars s).length && (Utf8.chars s).length ≤ max := by
  simp only [Utf8.chars_eq, String.length_toList]
  exact ⟨rfl, rfl, rfl⟩

/-- The CHECK constraints of an intent, and the range of its `integer` attempt. -/
def IntentRow.checks (r : IntentRow) : Bool :=
  r.attempt < 2 ^ 31 && storable r.providerSlug && charLengthWithin r.clientOrderId 64 && storable r.clientOrderId &&
    isHex64 r.idempotencyKey && isHex64 r.requestHash &&
    r.accountRef.all (fun s => storable s && charLengthWithin s 128) &&
    r.brokerServerRef.all (fun s => storable s && charLengthWithin s 128) &&
    r.credentialRef.all (fun s => storable s && charLengthWithin s 128) &&
    r.credentialFingerprint.all isHex64 && r.coherent && r.lineageCheck

/-- The unique indexes of intents. -/
inductive IntentIndex where
  | pkey
  | profileClientOrder
  | clientOrder
  | idempotency
  | request
  | mutation
  | parent
  | lineageAttempt
  | orderLive

namespace IntentIndex

def name : IntentIndex → String
  | pkey => "execution_provider_intents_pkey"
  | profileClientOrder => "execution_provider_intents_execution_profile_id_client_order_id_key"
  | clientOrder => "execution_provider_intents_client_order_uniq"
  | idempotency => "execution_provider_intents_idempotency_uniq"
  | request => "execution_provider_intents_request_uniq"
  | mutation => "execution_provider_intents_mutation_uniq"
  | parent => "execution_provider_intents_parent_uniq"
  | lineageAttempt => "execution_provider_intents_lineage_attempt_uniq"
  | orderLive => "execution_provider_intents_order_live_uniq"

/-- The indexes in the order they were created, which is the order they are checked in. -/
def all : List IntentIndex :=
  [pkey, profileClientOrder, clientOrder, idempotency, request, mutation, parent, lineageAttempt,
    orderLive]

theorem mem_all (ix : IntentIndex) : ix ∈ all := by cases ix <;> simp [all]

/-- Two rows the index does not allow together. -/
def collide (a b : IntentRow) : IntentIndex → Bool
  | pkey => a.id == b.id
  | profileClientOrder =>
    a.executionProfileId == b.executionProfileId && a.clientOrderId == b.clientOrderId
  | clientOrder => a.clientOrderId == b.clientOrderId
  | idempotency =>
    a.executionProfileId == b.executionProfileId && a.idempotencyKey == b.idempotencyKey
  | request => a.executionProfileId == b.executionProfileId && a.requestHash == b.requestHash
  | mutation => a.executionProfileId == b.executionProfileId && a.clientOrderId == b.clientOrderId
  | parent => a.parentIntentId.isSome && a.parentIntentId == b.parentIntentId
  | lineageAttempt =>
    a.rootIntentId.isSome && a.rootIntentId == b.rootIntentId && a.attempt == b.attempt
  | orderLive =>
    a.orderId.isSome && a.orderId == b.orderId && a.executionProfileId == b.executionProfileId &&
      a.live && b.live

theorem collide_comm (a b : IntentRow) (ix : IntentIndex) : collide a b ix = collide b a ix := by
  rw [Bool.eq_iff_iff]
  cases ix <;> simp only [collide, Bool.and_eq_true, beq_iff_eq] <;> grind

end IntentIndex

/-- The first index a row violates against others. -/
def violatedIndex (rows : List IntentRow) (r : IntentRow) : Option IntentIndex :=
  IntentIndex.all.find? fun ix => rows.any fun x => IntentIndex.collide r x ix

/-- No index forbids the two rows. -/
def Compatible (a b : IntentRow) : Prop := ∀ ix, IntentIndex.collide a b ix = false

theorem violatedIndex_eq_none {rows : List IntentRow} {r : IntentRow} :
    violatedIndex rows r = none ↔ ∀ x ∈ rows, Compatible r x := by
  unfold violatedIndex Compatible
  simp only [List.find?_eq_none, List.any_eq_true, not_exists, not_and, Bool.not_eq_true]
  exact ⟨fun h x hx ix => h ix (IntentIndex.mem_all ix) x hx, fun h ix _ x hx => h x hx ix⟩

/-- `INSERT INTO execution_provider_intents`. -/
def insertIntent (rows : List IntentRow) (r : IntentRow) : Except DbError (List IntentRow) :=
  if !r.checks then .error (.check "execution_provider_intents")
  else
    match violatedIndex rows r with
    | some ix => .error (.unique ix.name)
    | none => .ok (rows ++ [r])

theorem insertIntent_ok {rows rows' : List IntentRow} {r : IntentRow} :
    insertIntent rows r = .ok rows' ↔
      r.checks = true ∧ (∀ x ∈ rows, Compatible r x) ∧ rows' = rows ++ [r] := by
  unfold insertIntent
  split
  · rename_i hchecks
    simp_all
  · rename_i hchecks
    have hchecks : r.checks = true := by simpa using hchecks
    split
    · rename_i ix hix
      have hnot : ¬∀ x ∈ rows, Compatible r x := by
        rw [← violatedIndex_eq_none, hix]
        simp
      simp [hnot]
    · rename_i hnone
      constructor
      · intro h
        exact ⟨hchecks, violatedIndex_eq_none.mp hnone, (Except.ok.inj h).symm⟩
      · rintro ⟨-, -, rfl⟩
        rfl

/-- The trigger `provider_intent_state_guard` advances the version of the row written. -/
def IntentRow.bumped (old new : IntentRow) : IntentRow :=
  { new with stateVersion := old.stateVersion + 1 }

/-- Replaces the row of an id. -/
def putIntent (rows : List IntentRow) (r : IntentRow) : List IntentRow :=
  rows.map fun x => if x.id = r.id then r else x

/-- `UPDATE execution_provider_intents SET … WHERE id = … AND …`, with the row written. -/
def updateIntent (rows : List IntentRow) (id : Uuid) (guard : IntentRow → Bool)
    (set : IntentRow → IntentRow) : Except DbError (List IntentRow × Option IntentRow) :=
  match rows.find? (fun r => r.id == id && guard r) with
  | none => .ok (rows, none)
  | some old =>
    let new := old.bumped (set old)
    if !old.status.canBecome new.status then
      .error (.trigger "illegal provider intent transition")
    else if !new.checks then .error (.check "execution_provider_intents")
    else
      match violatedIndex (rows.filter fun x => x.id != id) new with
      | some ix => .error (.unique ix.name)
      | none => .ok (putIntent rows new, some new)

theorem updateIntent_ok {rows rows' : List IntentRow} {id : Uuid} {guard : IntentRow → Bool}
    {set : IntentRow → IntentRow} {new : IntentRow}
    (h : updateIntent rows id guard set = .ok (rows', some new)) :
    ∃ old ∈ rows, old.id = id ∧ guard old = true ∧ new = old.bumped (set old) ∧
      old.status.canBecome new.status = true ∧ new.checks = true ∧
      (∀ x ∈ rows, x.id ≠ id → Compatible new x) ∧ rows' = putIntent rows new := by
  unfold updateIntent at h
  split at h
  · simp at h
  rename_i old hfind
  have hguard := List.find?_some hfind
  simp only [Bool.and_eq_true, beq_iff_eq] at hguard
  simp only at h
  split at h
  · cases h
  rename_i hcan
  split at h
  · cases h
  rename_i hchecks
  split at h
  · cases h
  rename_i hnone
  simp only [Except.ok.injEq, Prod.mk.injEq, Option.some.injEq] at h
  obtain ⟨rfl, rfl⟩ := h
  refine ⟨old, List.mem_of_find?_eq_some hfind, hguard.1, hguard.2, rfl, by simpa using hcan,
    by simpa using hchecks, fun x hx hne => ?_, rfl⟩
  exact violatedIndex_eq_none.mp hnone x (List.mem_filter.mpr ⟨hx, by simpa using hne⟩)

theorem updateIntent_none {rows rows' : List IntentRow} {id : Uuid} {guard : IntentRow → Bool}
    {set : IntentRow → IntentRow} (h : updateIntent rows id guard set = .ok (rows', none)) :
    (∀ r ∈ rows, r.id = id → guard r = false) ∧ rows' = rows := by
  unfold updateIntent at h
  split at h
  · rename_i hfind
    simp only [Except.ok.injEq, Prod.mk.injEq, and_true] at h
    rw [List.find?_eq_none] at hfind
    refine ⟨fun r hr hid => ?_, h.symm⟩
    simpa [hid] using hfind r hr
  · simp only at h
    split at h
    · cases h
    split at h
    · cases h
    split at h
    · cases h
    · simp at h

/-! ## Reservations -/

inductive MutationDirection where
  | long
  | short
  deriving DecidableEq

/-- A row of `execution_provider_mutation_reservations`. -/
structure MutationReservationRow where
  id : Uuid
  intentId : Uuid
  userId : Uuid
  executionProfileId : Uuid
  orderId : Option Uuid
  riskDecisionId : Option Uuid
  riskReservationId : Option Uuid
  clientOrderId : String
  idempotencyKey : String
  symbol : Option String
  direction : Option MutationDirection
  monetaryRisk : JsNumber
  state : ProviderReservationState
  requiresReconciliation : Bool
  riskExpiresAt : Option ℤ
  version : ℕ
  createdAt : ℤ
  deriving DecidableEq

/-- `~ '^[A-Z0-9][A-Z0-9._:-]*$'`. -/
def isSymbolText (s : String) : Bool :=
  match s.toList with
  | [] => false
  | c :: rest =>
    (c.isUpper || c.isDigit) && rest.all fun c => c.isUpper || c.isDigit || "._:-".toList.contains c

/-- The CHECK constraints of a reservation; a `NaN` risk is above every number. -/
def MutationReservationRow.checks (r : MutationReservationRow) : Bool :=
  isHex64 r.idempotencyKey && charLengthWithin r.clientOrderId 64 && storable r.clientOrderId &&
    r.symbol.all (fun s => isSymbolText s && s.length ≤ 32) && !JsNumber.lt r.monetaryRisk 0 &&
    (r.requiresReconciliation == (r.state == .uncertain))

/-- The unique constraints of a reservation, in order. -/
def violatedReservation (rows : List MutationReservationRow) (r : MutationReservationRow) :
    Option String :=
  if rows.any (fun x => x.id == r.id) then some "execution_provider_mutation_reservations_pkey"
  else if rows.any (fun x => x.intentId == r.intentId) then
    some "execution_provider_mutation_reservations_intent_uniq"
  else if rows.any (fun x => x.executionProfileId == r.executionProfileId &&
      x.idempotencyKey == r.idempotencyKey) then
    some "execution_provider_mutation_reservations_idempotency_uniq"
  else if rows.any (fun x => x.executionProfileId == r.executionProfileId &&
      x.clientOrderId == r.clientOrderId) then
    some "execution_provider_mutation_reservations_client_order_uniq"
  else none

/-- `INSERT INTO execution_provider_mutation_reservations`. -/
def insertReservationRow (rows : List MutationReservationRow) (r : MutationReservationRow) :
    Except DbError (List MutationReservationRow) :=
  if !r.checks then .error (.check "execution_provider_mutation_reservations")
  else
    match violatedReservation rows r with
    | some constraint => .error (.unique constraint)
    | none => .ok (rows ++ [r])

theorem insertReservationRow_ok {rows rows' : List MutationReservationRow}
    {r : MutationReservationRow} (h : insertReservationRow rows r = .ok rows') :
    r.checks = true ∧ rows' = rows ++ [r] := by
  unfold insertReservationRow at h
  split at h
  · cases h
  rename_i hchecks
  split at h
  · cases h
  · exact ⟨by simpa using hchecks, (Except.ok.inj h).symm⟩

/-- `UPDATE execution_provider_mutation_reservations SET state, requires_reconciliation WHERE
intent_id = … AND version = …`; nothing is reported when no row matches. -/
def updateReservation (rows : List MutationReservationRow) (intentId : Uuid) (version : ℕ)
    (state : ProviderReservationState) : Except DbError (List MutationReservationRow) :=
  match rows.find? (fun r => r.intentId == intentId && r.version == version) with
  | none => .ok rows
  | some old =>
    let new : MutationReservationRow :=
      { old with state, requiresReconciliation := state == .uncertain, version := old.version + 1 }
    if !old.state.canBecome state then
      .error (.trigger "illegal provider mutation reservation transition")
    else if !new.checks then .error (.check "execution_provider_mutation_reservations")
    else .ok (rows.map fun x => if x.intentId = intentId ∧ x.version = version then new else x)

theorem find?_of_imp {α : Type} {p q : α → Bool} {l : List α} {a : α}
    (h : l.find? p = some a) (hq : q a = true) (hpq : ∀ x, q x = true → p x = true) :
    l.find? q = some a := by
  induction l with
  | nil => cases h
  | cons x l ih =>
    rw [List.find?_cons] at h ⊢
    cases hp : p x with
    | true =>
      rw [hp] at h
      obtain rfl := Option.some.inj h
      rw [hq]
    | false =>
      rw [hp] at h
      have hqx : q x = false := by
        by_contra hx
        simp [hpq x (by simpa using hx)] at hp
      rw [hqx]
      exact ih h

theorem updateReservation_ok {rows rows' : List MutationReservationRow} {intentId : Uuid}
    {old : MutationReservationRow} {state : ProviderReservationState}
    (hold : rows.find? (fun r => r.intentId == intentId) = some old)
    (h : updateReservation rows intentId old.version state = .ok rows') :
    old.state.canBecome state = true ∧
      rows' = rows.map fun x =>
        if x.intentId = intentId ∧ x.version = old.version then
          { old with
            state
            requiresReconciliation := state == .uncertain
            version := old.version + 1 }
        else x := by
  have hid : old.intentId = intentId := by simpa using List.find?_some hold
  have hfind : rows.find? (fun r => r.intentId == intentId && r.version == old.version) =
      some old := find?_of_imp hold (by simp [hid]) (by simp_all)
  unfold updateReservation at h
  rw [hfind] at h
  simp only at h
  split at h
  · cases h
  rename_i hcan
  split at h
  · cases h
  · exact ⟨by simpa using hcan, (Except.ok.inj h).symm⟩

/-! ## Receipts, observations, resolutions, events -/

/-- A row of `execution_provider_receipts`. -/
structure ProviderReceiptRow where
  id : Uuid
  intentId : Uuid
  providerOrderId : Option String
  outcome : ProviderMutationOutcome
  uncertaintyReason : Option ProviderUncertaintyReason
  providerStatus : Option BridgeNormalizedStatus
  statusUncertain : Bool
  identityVerified : Bool
  evidence : Option ProviderTerminalEvidence
  receipt : Option ProviderReceipt
  observedAt : ℤ
  deriving DecidableEq

/-- The CHECK constraints of a receipt. -/
def ProviderReceiptRow.checks (r : ProviderReceiptRow) : Bool :=
  r.providerOrderId.all (fun s => storable s && charLengthWithin s 128) &&
    match r.outcome with
    | .uncertain => r.evidence.isNone && r.uncertaintyReason.isSome && r.providerOrderId.isNone
    | .accepted =>
      r.evidence.isSome && r.uncertaintyReason.isNone && r.identityVerified &&
        r.providerOrderId.isSome
    | .rejected => r.evidence.isSome && r.uncertaintyReason.isNone && r.identityVerified

/-- `INSERT INTO execution_provider_receipts`: at most one definitive receipt of an intent. -/
def insertReceipt (intents : List IntentRow) (rows : List ProviderReceiptRow)
    (r : ProviderReceiptRow) : Except DbError (List ProviderReceiptRow) :=
  if !r.checks then .error (.check "execution_provider_receipts")
  else if rows.any (fun x => x.id == r.id) then .error (.unique "execution_provider_receipts_pkey")
  else if r.outcome != .uncertain &&
      rows.any (fun x => x.intentId == r.intentId && x.outcome != .uncertain) then
    .error (.unique "execution_provider_receipts_definitive_uniq")
  else if !intents.any (fun x => x.id == r.intentId) then .error .failed
  else .ok (rows ++ [r])

inductive ProviderReconciliationOutcome where
  | matched
  | mismatched
  | notFound
  | uncertain
  deriving DecidableEq

/-- A row of `execution_provider_reconciliation_observations`. -/
structure ObservationRow where
  id : Uuid
  intentId : Uuid
  providerOrderId : Option String
  attempt : ℕ
  outcome : ProviderReconciliationOutcome
  providerStatus : Option BridgeNormalizedStatus
  statusUncertain : Bool
  observedAt : ℤ
  stale : Bool
  supersededByIntentId : Option Uuid
  applied : Bool
  evidence : Option ProviderTerminalEvidence
  deriving DecidableEq

/-- The newest row of those with a newer attempt: `ORDER BY attempt DESC, created_at DESC`. -/
def newestAttempt (rows : List IntentRow) : Option IntentRow :=
  rows.foldl (fun best r =>
    match best with
    | none => some r
    | some b =>
      if b.attempt < r.attempt || (b.attempt == r.attempt && b.createdAt < r.createdAt) then some r
      else some b) none

/-- The trigger `provider_reconciliation_observation_staleness_guard`. -/
def staleObservation (intents : List IntentRow) (o : ObservationRow) : ObservationRow :=
  let current := intents.find? (fun r => r.id == o.intentId)
  let newer := newestAttempt (intents.filter fun r =>
    current.any (fun c => r.rootIntentId == some c.lineage || r.id == c.lineage) &&
      o.attempt < r.attempt)
  match newer with
  | some r => { o with stale := true, supersededByIntentId := some r.id, applied := false }
  | none =>
    if current.any (fun c => c.status.terminal) then { o with stale := true, applied := false }
    else o

/-- The CHECK constraints of an observation. -/
def ObservationRow.checks (o : ObservationRow) : Bool :=
  (!o.applied || !o.stale) &&
    (match o.outcome with
      | .notFound => o.providerStatus.isNone && !o.statusUncertain
      | .uncertain => o.statusUncertain && o.evidence.isNone
      | _ => o.providerStatus.isSome) &&
    1 ≤ o.attempt && o.providerOrderId.all storable

/-- A row of `execution_provider_resolutions`. -/
structure ResolutionRow where
  id : Uuid
  intentId : Uuid
  actor : String
  resolvedBy : Option Uuid
  resolution : ProviderResolution
  evidence : ProviderTerminalEvidence
  evidenceReference : String
  note : Option String
  fromStatus : ProviderIntentState
  deriving DecidableEq

/-- `^(operator|system):[A-Za-z0-9._:-]{1,96}$`. -/
def isActorText (s : String) : Bool :=
  let body := if s.startsWith "operator:" then some (s.toList.drop 9)
    else if s.startsWith "system:" then some (s.toList.drop 7) else none
  body.any fun cs =>
    1 ≤ cs.length && cs.length ≤ 96 && cs.all fun c => c.isAlphanum || "._:-".toList.contains c

/-- The CHECK constraints of a resolution. -/
def ResolutionRow.checks (r : ResolutionRow) : Bool :=
  (r.fromStatus == .submitting || r.fromStatus == .uncertain) && isActorText r.actor &&
    charLengthWithin r.evidenceReference 256 && storable r.evidenceReference &&
    r.note.all (fun s => charLengthWithin s 500 && storable s) &&
    (r.evidence != .operatorResolution || r.resolvedBy.isSome)

/-- A row of `execution_provider_mutation_events`; of `detail`, the members that are read again. -/
structure MutationEventRow where
  intentId : Uuid
  executionProfileId : Uuid
  attempt : ℕ
  fromState : Option ProviderIntentState
  toState : ProviderIntentState
  outcome : Option ProviderMutationOutcome
  evidence : Option ProviderTerminalEvidence
  uncertaintyReason : Option ProviderUncertaintyReason
  actor : String
  /-- `detail->>'authorizationId'`. -/
  authorizationId : Option String
  /-- `detail->>'consumedFromStateVersion'`. -/
  consumedFromStateVersion : Option ℕ
  deriving DecidableEq

/-- The ledger's tables. -/
structure MutationDb where
  intents : List IntentRow
  reservations : List MutationReservationRow
  receipts : List ProviderReceiptRow
  observations : List ObservationRow
  resolutions : List ResolutionRow
  events : List MutationEventRow
  deriving DecidableEq

def MutationDb.empty : MutationDb := ⟨[], [], [], [], [], []⟩

/-- `SELECT … FROM execution_provider_intents WHERE id = $1`. -/
def MutationDb.getIntent (db : MutationDb) (id : Uuid) : Option IntentRow :=
  db.intents.find? fun r => r.id == id

/-- `SELECT … FROM execution_provider_mutation_reservations WHERE intent_id = $1`. -/
def MutationDb.getReservation (db : MutationDb) (intentId : Uuid) : Option MutationReservationRow :=
  db.reservations.find? fun r => r.intentId == intentId

theorem MutationDb.getIntent_some {db : MutationDb} {id : Uuid} {r : IntentRow}
    (h : db.getIntent id = some r) : r ∈ db.intents ∧ r.id = id :=
  ⟨List.mem_of_find?_eq_some h, by simpa using List.find?_some h⟩

end VeltrixEye
