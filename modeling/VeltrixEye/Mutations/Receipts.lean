import VeltrixEye.Mutations.Barriers

/-!
# Receipts of untrusted responses (`contracts/provider-mutations.ts`, table `execution_provider_receipts`)

A response of a provider is any value.  What it has to be to count as an acceptance or a rejection, and
whether the row that records it can be written.

* `ReceiptInsert.Checks`, `receiptInsert_checks` — every row that `persistReceipt` writes meets the CHECKs.
-/

namespace VeltrixEye

/-! ## Keys at any depth -/

/-- A key occurs in a value, at some depth. -/
inductive HasKey (key : String) : JsValue → Prop
  | member {fields : List (String × JsValue)} {value : JsValue} (h : (key, value) ∈ fields) :
      HasKey key (.object fields)
  | value {fields : List (String × JsValue)} {k : String} {value : JsValue} (h : (k, value) ∈ fields)
      (hkey : HasKey key value) : HasKey key (.object fields)
  | item {items : List JsValue} {value : JsValue} (h : value ∈ items) (hkey : HasKey key value) :
      HasKey key (.array items)

theorem anyForbiddenItem_iff (items : List JsValue) :
    anyForbiddenItem items = true ↔ ∃ v ∈ items, containsForbiddenAuditKey v = true := by
  induction items with
  | nil => simp [anyForbiddenItem]
  | cons v rest ih => simp [anyForbiddenItem, ih]

theorem anyForbiddenField_iff (fields : List (String × JsValue)) :
    anyForbiddenField fields = true ↔
      ∃ f ∈ fields, forbiddenAuditKey f.1 = true ∨ containsForbiddenAuditKey f.2 = true := by
  induction fields with
  | nil => simp [anyForbiddenField]
  | cons f rest ih =>
    obtain ⟨key, v⟩ := f
    simp only [anyForbiddenField, Bool.or_eq_true, ih, List.mem_cons, exists_eq_or_imp]

theorem containsForbiddenAuditKey_iff (v : JsValue) :
    containsForbiddenAuditKey v = true ↔ ∃ key, forbiddenAuditKey key = true ∧ HasKey key v := by
  constructor
  · intro h
    induction hn : sizeOf v using Nat.strong_induction_on generalizing v with
    | _ n ih =>
      subst hn
      cases v with
      | array items =>
        obtain ⟨w, hw, hfound⟩ := (anyForbiddenItem_iff items).mp h
        have hsize : sizeOf w < sizeOf (JsValue.array items) := by
          have := List.sizeOf_lt_of_mem hw
          simp only [JsValue.array.sizeOf_spec]
          omega
        obtain ⟨key, hkey, hin⟩ := ih _ hsize w hfound rfl
        exact ⟨key, hkey, .item hw hin⟩
      | object fields =>
        obtain ⟨f, hf, hkey | hfound⟩ := (anyForbiddenField_iff fields).mp h
        · exact ⟨f.1, hkey, .member hf⟩
        · have hsize : sizeOf f.2 < sizeOf (JsValue.object fields) := by
            have := List.sizeOf_lt_of_mem hf
            obtain ⟨k, w⟩ := f
            simp only [Prod.mk.sizeOf_spec, JsValue.object.sizeOf_spec] at this ⊢
            omega
          obtain ⟨key, hkey, hin⟩ := ih _ hsize f.2 hfound rfl
          exact ⟨key, hkey, .value hf hin⟩
      | _ => cases h
  · rintro ⟨key, hkey, hin⟩
    induction hin with
    | member h => exact (anyForbiddenField_iff _).mpr ⟨_, h, .inl hkey⟩
    | value h _ ih => exact (anyForbiddenField_iff _).mpr ⟨_, h, .inr ih⟩
    | item h _ ih => exact (anyForbiddenItem_iff _).mpr ⟨_, h, ih⟩

/-! ## Definitive responses -/

/-- A response that names the mutation of the barrier and nothing it may not name. -/
structure Identified (probe : SubmitIdentityProbe) (response : List (String × JsValue)) : Prop where
  clean : ∀ key, HasKey key (.object response) → forbiddenAuditKey key = false
  keys : ∀ key ∈ JsValue.keys response, key ∈ SUBMIT_RESPONSE_KEYS
  clientOrderId : probe.clientOrderId ≠ "" ∧
    JsValue.lookup response "clientOrderId" = .string probe.clientOrderId
  idempotencyKey : JsValue.lookup response "idempotencyKey" = .undefined ∨
    JsValue.lookup response "idempotencyKey" = .string probe.idempotencyKey
  accountRef : JsValue.lookup response "accountRef" = .undefined ∨
    JsValue.lookup response "accountRef" = .null ∨
    ∃ ref, probe.accountRef = some ref ∧ JsValue.lookup response "accountRef" = .string ref

/-- The ticket of a response: absent, or a text of 1 to 128 code units. -/
def HasTicket (response : List (String × JsValue)) : Option String → Prop
  | none => JsValue.lookup response "providerOrderId" = .undefined ∨
      JsValue.lookup response "providerOrderId" = .null
  | some ticket => JsValue.lookup response "providerOrderId" = .string ticket ∧ boundedText ticket 128 = true

/-- An identified response with an accepting status and a ticket. -/
structure AcceptedReply (probe : SubmitIdentityProbe) (response : List (String × JsValue)) (ticket : String) :
    Prop where
  identified : Identified probe response
  ticket : HasTicket response (some ticket)
  status : ∃ token ∈ PROVIDER_ACCEPTED_STATUSES, JsValue.lookup response "status" = .string token

/-- An identified response with a rejecting status. -/
structure RejectedReply (probe : SubmitIdentityProbe) (response : List (String × JsValue))
    (ticket : Option String) : Prop where
  identified : Identified probe response
  ticket : HasTicket response ticket
  status : ∃ token ∈ PROVIDER_REJECTED_STATUSES, JsValue.lookup response "status" = .string token

section Normalize

variable {probe : SubmitIdentityProbe} {response : List (String × JsValue)} {now : ℤ}

theorem hasTicket_text {ticket : Option String} (h : HasTicket response ticket) :
    (JsValue.lookup response "providerOrderId").text? = ticket := by
  cases ticket with
  | none => rcases h with h | h <;> rw [h] <;> rfl
  | some t =>
    rw [h.1]
    rfl

theorem clientOrderId_check_iff : (match JsValue.lookup response "clientOrderId" with
    | .string s => !s.isEmpty && s == probe.clientOrderId
    | _ => false) = true ↔
    probe.clientOrderId ≠ "" ∧ JsValue.lookup response "clientOrderId" = .string probe.clientOrderId := by
  split
  · rename_i s hs
    rw [hs]
    simp only [Bool.and_eq_true, Bool.not_eq_true', beq_iff_eq, JsValue.string.injEq]
    constructor
    · rintro ⟨hne, rfl⟩
      exact ⟨by simpa using hne, rfl⟩
    · rintro ⟨hne, rfl⟩
      exact ⟨by simpa using hne, rfl⟩
  · rename_i hno
    simp only [Bool.false_eq_true, false_iff, not_and]
    intro _ hs
    exact hno _ hs

theorem idempotencyKey_check_iff : (match JsValue.lookup response "idempotencyKey" with
    | .undefined => true
    | .string s => s == probe.idempotencyKey
    | _ => false) = true ↔
    JsValue.lookup response "idempotencyKey" = .undefined ∨
      JsValue.lookup response "idempotencyKey" = .string probe.idempotencyKey := by
  cases JsValue.lookup response "idempotencyKey" <;> simp

theorem accountRef_check_iff : (match JsValue.lookup response "accountRef" with
    | .undefined => true
    | .null => true
    | .string s => some s == probe.accountRef
    | _ => false) = true ↔
    JsValue.lookup response "accountRef" = .undefined ∨ JsValue.lookup response "accountRef" = .null ∨
      ∃ ref, probe.accountRef = some ref ∧ JsValue.lookup response "accountRef" = .string ref := by
  cases JsValue.lookup response "accountRef" with
  | string s =>
    simp only [beq_iff_eq, reduceCtorEq, JsValue.string.injEq, false_or]
    constructor
    · intro h
      exact ⟨s, h.symm, rfl⟩
    · rintro ⟨ref, h, rfl⟩
      exact h.symm
  | _ => simp

theorem providerOrderId_check_iff : (match JsValue.lookup response "providerOrderId" with
    | .undefined => true
    | .null => true
    | .string s => boundedText s 128
    | _ => false) = true ↔ ∃ ticket, HasTicket response ticket := by
  constructor
  · intro h
    split at h
    · rename_i hlookup
      exact ⟨none, .inl hlookup⟩
    · rename_i hlookup
      exact ⟨none, .inr hlookup⟩
    · rename_i s hlookup
      exact ⟨some s, hlookup, h⟩
    · cases h
  · rintro ⟨ticket, h⟩
    cases ticket with
    | none => rcases h with h | h <;> rw [h]
    | some t =>
      rw [h.1]
      exact h.2

theorem checks_iff : (anyForbiddenField response = false ∧
      ((JsValue.keys response).any fun k => !SUBMIT_RESPONSE_KEYS.contains k) = false ∧
      verifyProviderResponseIdentity probe response = true) ↔
    Identified probe response ∧ ∃ ticket, HasTicket response ticket := by
  have hclean : anyForbiddenField response = false ↔
      ∀ key, HasKey key (.object response) → forbiddenAuditKey key = false := by
    have hscan := containsForbiddenAuditKey_iff (.object response)
    rw [containsForbiddenAuditKey] at hscan
    constructor
    · intro h key hkey
      by_contra hforbidden
      have := hscan.mpr ⟨key, by simpa using hforbidden, hkey⟩
      rw [h] at this
      cases this
    · intro h
      by_contra hfound
      obtain ⟨key, hforbidden, hkey⟩ := hscan.mp (by simpa using hfound)
      rw [h key hkey] at hforbidden
      cases hforbidden
  have hkeys : ((JsValue.keys response).any fun k => !SUBMIT_RESPONSE_KEYS.contains k) = false ↔
      ∀ key ∈ JsValue.keys response, key ∈ SUBMIT_RESPONSE_KEYS := by
    simp
  unfold verifyProviderResponseIdentity
  rw [Bool.and_eq_true, Bool.and_eq_true, Bool.and_eq_true, hclean, hkeys]
  constructor
  · rintro ⟨h1, h2, ⟨⟨h3, h4⟩, h5⟩, h6⟩
    exact ⟨⟨h1, h2, clientOrderId_check_iff.mp h3, idempotencyKey_check_iff.mp h4, accountRef_check_iff.mp h5⟩, providerOrderId_check_iff.mp h6⟩
  · rintro ⟨⟨h1, h2, h3, h4, h5⟩, h6⟩
    exact ⟨h1, h2, ⟨⟨clientOrderId_check_iff.mpr h3, idempotencyKey_check_iff.mpr h4⟩, accountRef_check_iff.mpr h5⟩, providerOrderId_check_iff.mpr h6⟩

theorem bounded_not_empty {t : String} (h : boundedText t 128 = true) : t.isEmpty = false := by
  by_contra hempty
  have ht : t = "" := by simpa using hempty
  subst ht
  revert h
  decide

theorem normalize_identified {ticket : Option String} (h : Identified probe response)
    (hticket : HasTicket response ticket) {token : String}
    (hstatus : JsValue.lookup response "status" = .string token) :
    normalizeSubmitOutcome probe now (.object response) =
      match (normalizeProviderOrderStatus (.string token)).status with
      | none => .uncertain .unknownProviderStatus .uncertain
      | some status =>
        if PROVIDER_ACCEPTED_STATUSES.contains token then
          match ticket with
          | some t => ⟨.accepted, none, some ⟨some t, .status status, now⟩, some t, some (.status status), false⟩
          | none => .uncertain .identityVerificationFailed .uncertain
        else if PROVIDER_REJECTED_STATUSES.contains token then
          ⟨.rejected, none, some ⟨ticket, .status status, now⟩, ticket, some (.status status), false⟩
        else .uncertain .unknownProviderStatus (.status status) := by
  obtain ⟨hclean, hkeys, hverified⟩ := checks_iff.mpr ⟨h, ticket, hticket⟩
  have hbounded : (ticket.any fun t => !boundedText t 128) = false := by
    cases ticket with
    | none => rfl
    | some t => simp [hticket.2]
  unfold normalizeSubmitOutcome
  simp only [hclean, hkeys, hverified, hstatus, hasTicket_text hticket, hbounded, Bool.false_eq_true, if_false,
    Bool.not_true]
  cases (normalizeProviderOrderStatus (.string token)).status with
  | none => rfl
  | some status =>
    dsimp only
    cases ticket with
    | none => rfl
    | some t =>
      have hne := bounded_not_empty hticket.2
      simp only [hne, Bool.false_eq_true, if_false]

theorem normalize_accepted {ticket : String} (h : AcceptedReply probe response ticket) :
    ∃ status, normalizeSubmitOutcome probe now (.object response) =
      ⟨.accepted, none, some ⟨some ticket, .status status, now⟩, some ticket, some (.status status), false⟩ := by
  obtain ⟨hidentified, hticket, token, htoken, hstatus⟩ := h
  rw [normalize_identified hidentified hticket hstatus]
  simp only [PROVIDER_ACCEPTED_STATUSES, List.mem_cons, List.not_mem_nil, or_false] at htoken
  rcases htoken with rfl | rfl | rfl | rfl | rfl <;> exact ⟨_, rfl⟩

theorem normalize_rejected {ticket : Option String} (h : RejectedReply probe response ticket) :
    ∃ status, normalizeSubmitOutcome probe now (.object response) =
      ⟨.rejected, none, some ⟨ticket, .status status, now⟩, ticket, some (.status status), false⟩ := by
  obtain ⟨hidentified, hticket, token, htoken, hstatus⟩ := h
  rw [normalize_identified hidentified hticket hstatus]
  simp only [PROVIDER_REJECTED_STATUSES, List.mem_cons, List.not_mem_nil, or_false] at htoken
  rcases htoken with rfl | rfl | rfl | rfl <;> exact ⟨_, rfl⟩

theorem normalizeSubmitOutcome_cases (probe : SubmitIdentityProbe) (now : ℤ) (raw : JsValue) :
    (∃ reason status, normalizeSubmitOutcome probe now raw = .uncertain reason status) ∨
      (∃ response ticket, raw = .object response ∧ AcceptedReply probe response ticket) ∨
      ∃ response ticket, raw = .object response ∧ RejectedReply probe response ticket := by
  cases raw with
  | object response =>
    by_cases hchecks : anyForbiddenField response = false ∧
        ((JsValue.keys response).any fun k => !SUBMIT_RESPONSE_KEYS.contains k) = false ∧
        verifyProviderResponseIdentity probe response = true
    · obtain ⟨hidentified, ticket, hticket⟩ := checks_iff.mp hchecks
      cases hstatus : JsValue.lookup response "status" with
      | string token =>
        rw [normalize_identified hidentified hticket hstatus]
        cases (normalizeProviderOrderStatus (.string token)).status with
        | none => exact .inl ⟨_, _, rfl⟩
        | some status =>
          dsimp only
          split
          · rename_i haccepted
            cases ticket with
            | none => exact .inl ⟨_, _, rfl⟩
            | some t =>
              exact .inr (.inl ⟨response, t, rfl, hidentified, hticket, token, by simpa using haccepted, hstatus⟩)
          · split
            · rename_i hrejected
              exact .inr (.inr ⟨response, ticket, rfl, hidentified, hticket, token, by simpa using hrejected,
                hstatus⟩)
            · exact .inl ⟨_, _, rfl⟩
      | _ =>
        obtain ⟨hclean, hkeys, hverified⟩ := hchecks
        refine .inl ⟨.unknownProviderStatus, .uncertain, ?_⟩
        unfold normalizeSubmitOutcome
        simp only [hclean, hkeys, hverified, hstatus, Bool.false_eq_true, if_false, Bool.not_true]
    · refine .inl ?_
      unfold normalizeSubmitOutcome
      dsimp only
      split
      · exact ⟨_, _, rfl⟩
      rename_i hclean
      split
      · exact ⟨_, _, rfl⟩
      rename_i hkeys
      split
      · exact ⟨_, _, rfl⟩
      · rename_i hverified
        exact absurd ⟨by simpa using hclean, by simpa using hkeys, by simpa using hverified⟩ hchecks
  | _ => exact .inl ⟨_, _, rfl⟩

end Normalize

/-- What the outcome of a reply says, for every reply. -/
structure ReplyOutcome (probe : SubmitIdentityProbe) (reply : ProviderReply) (n : NormalizedSubmitOutcome) :
    Prop where
  accepted : n.outcome = .accepted → ∃ response ticket, reply = .returned (.object response) ∧
    AcceptedReply probe response ticket ∧ n.providerOrderId = some ticket
  rejected : n.outcome = .rejected → ∃ response ticket, reply = .returned (.object response) ∧
    RejectedReply probe response ticket ∧ n.providerOrderId = ticket
  uncertain : n.outcome = .uncertain → n.providerOrderId = none ∧ n.receipt = none

/-- **The outcome of any reply**: a value or an exception. -/
theorem normalizeReply_outcome (b : SubmitBarrier) (now : ℤ) (reply : ProviderReply) :
    ReplyOutcome b.probe reply (normalizeReply b now reply) := by
  cases reply with
  | threw code => exact ⟨nofun, nofun, fun _ => ⟨rfl, rfl⟩⟩
  | returned raw =>
    show ReplyOutcome b.probe _ (normalizeSubmitOutcome b.probe now raw)
    rcases normalizeSubmitOutcome_cases b.probe now raw with
      ⟨reason, status, h⟩ | ⟨response, ticket, rfl, h⟩ | ⟨response, ticket, rfl, h⟩
    · rw [h]
      exact ⟨nofun, nofun, fun _ => ⟨rfl, rfl⟩⟩
    · obtain ⟨status, hn⟩ := @normalize_accepted b.probe response now ticket h
      rw [hn]
      exact ⟨fun _ => ⟨response, ticket, rfl, h, rfl⟩, nofun, nofun⟩
    · obtain ⟨status, hn⟩ := @normalize_rejected b.probe response now ticket h
      rw [hn]
      exact ⟨nofun, fun _ => ⟨response, ticket, rfl, h, rfl⟩, nofun⟩

/-! ## The row of a receipt -/

mutual

/-- `provider_receipt_keys_allowed`. -/
def providerReceiptKeysAllowed : JsValue → Bool
  | .object fields => receiptFieldsAllowed fields
  | .array items => receiptItemsAllowed items
  | _ => true

def receiptItemsAllowed : List JsValue → Bool
  | [] => true
  | v :: rest => providerReceiptKeysAllowed v && receiptItemsAllowed rest

def receiptFieldsAllowed : List (String × JsValue) → Bool
  | [] => true
  | (key, v) :: rest => !forbiddenAuditKey key && providerReceiptKeysAllowed v && receiptFieldsAllowed rest

end

def ProviderMutationOutcome.text : ProviderMutationOutcome → String
  | .accepted => "accepted"
  | .rejected => "rejected"
  | .uncertain => "uncertain"

def ProviderTerminalEvidence.text : ProviderTerminalEvidence → String
  | .providerResponseVerified => "provider_response_verified"
  | .reconciliationVerified => "reconciliation_verified"
  | .operatorResolution => "operator_resolution"
  | .preExchangeReservationProof => "pre_exchange_reservation_proof"

/-- The parameters of the INSERT that the CHECKs read. -/
structure ReceiptInsert where
  clientOrderId : String
  idempotencyKey : String
  providerOrderId : Option String
  outcome : String
  uncertaintyReason : Option String
  providerStatus : Option String
  identityVerified : Bool
  evidence : Option String
  receipt : JsValue

/-- The receipt as JSON; `isoText` is `toISOString` of a time. -/
def ProviderReceipt.value (isoText : ℤ → String) (r : ProviderReceipt) : JsValue :=
  .object [("providerOrderId", r.providerOrderId.elim .null .string),
    ("providerStatus", .string r.providerStatus.text), ("statusUncertain", .bool false),
    ("filledQuantity", .null), ("averagePrice", .null), ("occurredAt", .string (isoText r.occurredAt))]

/-- What `persistReceipt` sends. -/
def receiptInsert (isoText : ℤ → String) (b : SubmitBarrier) (n : NormalizedSubmitOutcome) : ReceiptInsert where
  clientOrderId := b.clientOrderId
  idempotencyKey := b.idempotencyKey
  providerOrderId := n.providerOrderId
  outcome := n.outcome.text
  uncertaintyReason := n.uncertaintyReason.map (·.text)
  providerStatus := n.providerStatus.map (·.text)
  identityVerified := n.outcome != .uncertain
  evidence := if n.outcome = .uncertain then none else some ProviderTerminalEvidence.providerResponseVerified.text
  receipt := n.receipt.elim (.object []) (ProviderReceipt.value isoText)

/-- The CHECK constraints of `execution_provider_receipts`. -/
structure ReceiptInsert.Checks (r : ReceiptInsert) : Prop where
  outcome : r.outcome ∈ ["accepted", "rejected", "uncertain"]
  uncertaintyReason : ∀ reason, r.uncertaintyReason = some reason → reason ∈
    ["timeout", "connection_failure", "lost_response", "malformed_response", "unknown_provider_status",
      "identity_verification_failed", "receipt_persistence_failure", "state_commit_failed", "process_restart",
      "crash_before_provider_call"]
  providerStatus : ∀ status, r.providerStatus = some status → status ∈
    ["requested", "validating", "submitted", "accepted", "partially_filled", "filled", "rejected", "cancelled",
      "expired", "failed", "uncertain"]
  idempotencyKey : isHex64 r.idempotencyKey = true
  clientOrderId : charLengthWithin r.clientOrderId 64 = true
  providerOrderId : ∀ ticket, r.providerOrderId = some ticket → charLengthWithin ticket 128 = true
  evidence : ∀ evidence, r.evidence = some evidence → evidence ∈
    ["provider_response_verified", "reconciliation_verified", "operator_resolution",
      "pre_exchange_reservation_proof"]
  sanitized : providerReceiptKeysAllowed r.receipt = true
  coherent :
    (r.outcome = "uncertain" ∧ r.evidence = none ∧ r.uncertaintyReason ≠ none ∧ r.providerOrderId = none) ∨
      (r.outcome = "accepted" ∧ r.evidence ≠ none ∧ r.uncertaintyReason = none ∧ r.identityVerified = true ∧
        r.providerOrderId ≠ none) ∨
      (r.outcome = "rejected" ∧ r.evidence ≠ none ∧ r.uncertaintyReason = none ∧ r.identityVerified = true)

theorem charLength_of_bounded {t : String} {max : ℕ} (h : boundedText t max = true) :
    charLengthWithin t max = true := by
  unfold boundedText at h
  simp only [Bool.and_eq_true, decide_eq_true_eq] at h
  obtain ⟨hpos, hmax⟩ := h
  have hle : t.toList.length ≤ jsLength t := by
    unfold jsLength
    induction t.toList with
    | nil => exact Nat.zero_le _
    | cons c cs ih =>
      rw [List.map_cons, List.sum_cons, List.length_cons]
      split <;> omega
  have hone : 1 ≤ t.toList.length := by
    cases hl : t.toList with
    | nil =>
      unfold jsLength at hpos
      rw [hl] at hpos
      cases hpos
    | cons c cs => exact Nat.succ_pos _
  unfold charLengthWithin
  simp only [Bool.and_eq_true, decide_eq_true_eq]
  rw [← String.length_toList]
  omega

theorem receipt_sanitized (isoText : ℤ → String) (receipt : Option ProviderReceipt) :
    providerReceiptKeysAllowed (receipt.elim (.object []) (ProviderReceipt.value isoText)) = true := by
  cases receipt with
  | none => rfl
  | some r =>
    have hnames : ∀ key ∈ ["providerOrderId", "providerStatus", "statusUncertain", "filledQuantity",
        "averagePrice", "occurredAt"], forbiddenAuditKey key = false := by decide
    simp only [List.mem_cons, List.not_mem_nil, or_false, forall_eq_or_imp, forall_eq] at hnames
    obtain ⟨h1, h2, h3, h4, h5, h6⟩ := hnames
    have hticket : providerReceiptKeysAllowed (r.providerOrderId.elim .null .string) = true := by
      cases r.providerOrderId <;> rfl
    simp only [Option.elim_some, ProviderReceipt.value, providerReceiptKeysAllowed, receiptFieldsAllowed, h1, h2,
      h3, h4, h5, h6, hticket, Bool.not_false, Bool.and_self]

/-- **Every row that is written meets the CHECKs**: the barrier's identity does, and the outcome is coherent. -/
theorem receiptInsert_checks (isoText : ℤ → String) {b : SubmitBarrier} {n : NormalizedSubmitOutcome}
    (hkey : isHex64 b.idempotencyKey = true) (hclient : charLengthWithin b.clientOrderId 64 = true)
    (hn : n.Coherent) : (receiptInsert isoText b n).Checks where
  outcome := by
    show n.outcome.text ∈ _
    cases n.outcome <;> decide
  uncertaintyReason := by
    intro reason h
    obtain ⟨x, -, rfl⟩ := Option.map_eq_some_iff.mp h
    cases x <;> decide
  providerStatus := by
    intro status h
    obtain ⟨x, -, rfl⟩ := Option.map_eq_some_iff.mp h
    cases x with
    | status s => cases s <;> decide
    | uncertain => decide
  idempotencyKey := hkey
  clientOrderId := hclient
  providerOrderId := by
    intro ticket h
    have hbounded := hn.ticket
    rw [show n.providerOrderId = some ticket from h] at hbounded
    exact charLength_of_bounded hbounded
  evidence := by
    intro evidence h
    unfold receiptInsert at h
    dsimp only at h
    split at h
    · cases h
    · cases h
      decide
  sanitized := receipt_sanitized isoText n.receipt
  coherent := by
    unfold receiptInsert
    cases houtcome : n.outcome with
    | uncertain =>
      obtain ⟨hreason, hticket⟩ := hn.uncertain houtcome
      obtain ⟨reason, hreason⟩ := Option.isSome_iff_exists.mp hreason
      exact .inl ⟨rfl, rfl, by rw [hreason]; exact Option.some_ne_none _, hticket⟩
    | accepted =>
      obtain ⟨t, ht⟩ := hn.accepted houtcome
      have hreason := hn.definitive (by rw [houtcome]; decide)
      refine .inr (.inl ⟨rfl, Option.some_ne_none _, by rw [hreason]; rfl, rfl, ?_⟩)
      rw [ht]
      exact Option.some_ne_none _
    | rejected =>
      have hreason := hn.definitive (by rw [houtcome]; decide)
      exact .inr (.inr ⟨rfl, Option.some_ne_none _, by rw [hreason]; rfl, rfl⟩)

/-! ## The insert -/

/-- A definitive receipt of the intent is stored. -/
def DefinitiveReceipt (db : MutationDb) (intentId : Uuid) : Prop :=
  ∃ x ∈ db.receipts, x.intentId = intentId ∧ x.outcome ≠ .uncertain

/-- A response that would be definitive, with a ticket that the database cannot store. -/
def LostTicket (probe : SubmitIdentityProbe) (reply : ProviderReply) : Prop :=
  ∃ response ticket, reply = .returned (.object response) ∧
    (AcceptedReply probe response ticket ∨ RejectedReply probe response (some ticket)) ∧ storable ticket = false

/-- The row that `persistReceipt` inserts. -/
def receiptRow (intentId : Uuid) (n : NormalizedSubmitOutcome) (values : StepValues) : ProviderReceiptRow where
  id := values.rowId
  intentId := intentId
  providerOrderId := n.providerOrderId
  outcome := n.outcome
  uncertaintyReason := n.uncertaintyReason
  providerStatus := n.providerStatus
  statusUncertain := n.statusUncertain
  identityVerified := n.outcome != .uncertain
  evidence := if n.outcome = .uncertain then none else some .providerResponseVerified
  receipt := n.receipt
  observedAt := values.now

theorem receiptRow_checks {intentId : Uuid} {n : NormalizedSubmitOutcome} {values : StepValues} (hn : n.Coherent) :
    (receiptRow intentId n values).checks = n.providerOrderId.all storable := by
  have hlength : (n.providerOrderId.all fun s => storable s && charLengthWithin s 128) =
      n.providerOrderId.all storable := by
    cases hticket : n.providerOrderId with
    | none => rfl
    | some t =>
      have hbounded := hn.ticket
      rw [hticket] at hbounded
      simp only [Option.all_some, charLength_of_bounded hbounded, Bool.and_true]
  unfold ProviderReceiptRow.checks receiptRow
  dsimp only
  rw [hlength]
  cases houtcome : n.outcome with
  | uncertain =>
    obtain ⟨hreason, hticket⟩ := hn.uncertain houtcome
    simp [hreason, hticket]
  | accepted =>
    obtain ⟨t, ht⟩ := hn.accepted houtcome
    have hreason := hn.definitive (by rw [houtcome]; decide)
    simp [hreason, ht]
  | rejected =>
    have hreason := hn.definitive (by rw [houtcome]; decide)
    simp [hreason]

theorem persistReceipt_eq {b : SubmitBarrier} {intentId : Uuid} (h : Uuid.ofText? b.intentId = some intentId)
    (n : NormalizedSubmitOutcome) (values : StepValues) (db : MutationDb) :
    persistReceipt b n values db =
      (liftDb (insertReceipt db.intents db.receipts (receiptRow intentId n values))).map
        fun receipts => { db with receipts } := by
  unfold persistReceipt requiredUuid
  rw [h]
  show (liftDb (insertReceipt db.intents db.receipts (receiptRow intentId n values))).bind _ = _
  cases liftDb (insertReceipt db.intents db.receipts (receiptRow intentId n values)) <;> rfl

section Insert

variable {b : SubmitBarrier} {intentId : Uuid} {n : NormalizedSubmitOutcome} {values : StepValues}
  {db : MutationDb}

theorem persistReceipt_stored (hid : Uuid.ofText? b.intentId = some intentId) (hn : n.Coherent)
    (hticket : n.providerOrderId.all storable = true) (hintent : ∃ r ∈ db.intents, r.id = intentId)
    (hfresh : ∀ x ∈ db.receipts, x.id ≠ values.rowId) :
    (∃ db', persistReceipt b n values db = .ok db') ∨ DefinitiveReceipt db intentId := by
  have hkey : (db.receipts.any fun x => x.id == (receiptRow intentId n values).id) = false := by
    simpa [receiptRow] using hfresh
  have hforeign : (db.intents.any fun x => x.id == (receiptRow intentId n values).intentId) = true := by
    obtain ⟨r, hr, hrid⟩ := hintent
    exact List.any_eq_true.mpr ⟨r, hr, by simpa [receiptRow] using hrid⟩
  rw [persistReceipt_eq hid]
  unfold insertReceipt
  rw [receiptRow_checks hn, hticket, hkey, hforeign]
  simp only [Bool.not_true, Bool.false_eq_true, if_false]
  split
  · rename_i hdefinitive
    simp only [Bool.and_eq_true, List.any_eq_true, beq_iff_eq, bne_iff_ne] at hdefinitive
    obtain ⟨-, x, hx, hxid, hxoutcome⟩ := hdefinitive
    exact .inr ⟨x, hx, hxid, hxoutcome⟩
  · exact .inl ⟨_, rfl⟩

theorem persistReceipt_lost (hid : Uuid.ofText? b.intentId = some intentId) (hn : n.Coherent)
    (hticket : n.providerOrderId.all storable = false) : ¬∃ db', persistReceipt b n values db = .ok db' := by
  rintro ⟨db', h⟩
  rw [persistReceipt_eq hid] at h
  unfold insertReceipt at h
  rw [receiptRow_checks hn, hticket] at h
  cases h

end Insert

/-- **Which receipts are lost.**  For every barrier that was consumed and every reply: the outcome is what the
    response proves, the row meets every CHECK, and the insert fails only where the intent has its definitive
    receipt, if and only if no definitive response carries a ticket with a NUL. -/
theorem receipt_lost_iff (isoText : ℤ → String) (before after : MutationDb) (b : SubmitBarrier)
    (h : consumeSubmitBarrier b before = .ok after) (now : ℤ) (reply : ProviderReply) :
    ReplyOutcome b.probe reply (normalizeReply b now reply) ∧
      (receiptInsert isoText b (normalizeReply b now reply)).Checks ∧
      ((∀ (db : MutationDb) (values : StepValues) (intentId : Uuid), Uuid.ofText? b.intentId = some intentId →
          (∃ r ∈ db.intents, r.id = intentId) → (∀ x ∈ db.receipts, x.id ≠ values.rowId) →
          (∃ db', persistReceipt b (normalizeReply b now reply) values db = .ok db') ∨
            DefinitiveReceipt db intentId) ↔
        ¬LostTicket b.probe reply) := by
  obtain ⟨p, old, hparams, -, hold, hclaims, hchecks, -⟩ := consumeSubmitBarrier_ok h
  have hid := (SubmitBarrier.params_ids hparams).1
  simp only [SubmitBarrier.claims, Bool.and_eq_true, beq_iff_eq] at hclaims
  simp only [IntentRow.checks, Bool.and_eq_true] at hchecks
  have hclient : old.clientOrderId = b.clientOrderId := by tauto
  have hkey : old.idempotencyKey = b.idempotencyKey := by tauto
  have hkeyHex : isHex64 old.idempotencyKey = true := by tauto
  have hclientLength : charLengthWithin old.clientOrderId 64 = true := by tauto
  rw [hkey] at hkeyHex
  rw [hclient] at hclientLength
  have hcoherent := normalizeReply_coherent b now reply
  have houtcome := normalizeReply_outcome b now reply
  refine ⟨houtcome, receiptInsert_checks isoText hkeyHex hclientLength hcoherent, ?_, ?_⟩
  · -- a lost ticket fails in the empty tables beside its intent
    rintro hstored ⟨response, ticket, rfl, hdefinitive, hnul⟩
    have hticket : (normalizeReply b now (.returned (.object response))).providerOrderId = some ticket := by
      rcases hdefinitive with haccepted | hrejected
      · obtain ⟨status, hn⟩ := @normalize_accepted b.probe response now ticket haccepted
        exact congrArg NormalizedSubmitOutcome.providerOrderId hn
      · obtain ⟨status, hn⟩ := @normalize_rejected b.probe response now (some ticket) hrejected
        exact congrArg NormalizedSubmitOutcome.providerOrderId hn
    rcases hstored { MutationDb.empty with intents := [old] } ⟨p.intentId, p.intentId, now, none⟩ p.intentId hid
        ⟨old, List.mem_singleton_self _, hold⟩ (fun x hx => by cases hx) with hok | ⟨x, hx, -⟩
    · refine persistReceipt_lost hid hcoherent ?_ hok
      rw [hticket]
      exact hnul
    · cases hx
  · intro hlost db values intentId hintentId hintent hfresh
    refine persistReceipt_stored hintentId hcoherent ?_ hintent hfresh
    cases hticket : (normalizeReply b now reply).providerOrderId with
    | none => rfl
    | some ticket =>
      by_contra hnul
      refine hlost ?_
      have hnul' : storable ticket = false := by simpa using hnul
      cases hcase : (normalizeReply b now reply).outcome with
      | uncertain =>
        rw [(houtcome.uncertain hcase).1] at hticket
        cases hticket
      | accepted =>
        obtain ⟨response, t, hreply, haccepted, ht⟩ := houtcome.accepted hcase
        cases hticket.symm.trans ht
        exact ⟨response, ticket, hreply, .inl haccepted, hnul'⟩
      | rejected =>
        obtain ⟨response, t, hreply, hrejected, ht⟩ := houtcome.rejected hcase
        rw [hticket] at ht
        subst ht
        exact ⟨response, ticket, hreply, .inr hrejected, hnul'⟩

/-! ## Two tickets -/

/-- The tables after mutation 4 was prepared. -/
def preparedLedger : MutationDb :=
  (Runs.run (mutationStep sampleLedgerEnv) .empty (submits 0 4 (some (uuidOf 3)))).db

/-- The tables after a run of the sample ledger. -/
def ledgerAfter (actions : List MutationAction) : MutationDb :=
  (Runs.run (mutationStep sampleLedgerEnv) .empty actions).db

theorem preparedLedger_consumed :
    consumeSubmitBarrier (sampleBarrier 4 1) preparedLedger = .ok consumedDb := by
  show consumeSubmitBarrier (sampleBarrier 4 1) (ledgerAfter (submits 0 4 (some (uuidOf 3)))) = .ok consumedDb
  rw [ledgerAfter, run_submits, consume_sample]

/-- An acceptance of mutation 4 under a ticket. -/
def acceptedUnder (ticket : String) : ProviderReply :=
  .returned (.object [("clientOrderId", .string (sampleInput 4 none).clientOrderId),
    ("providerOrderId", .string ticket), ("status", .string "accepted")])

/-- What becomes of an acceptance in the tables where its barrier was just consumed. -/
def recordedUnder (ticket : String) : Option (ProviderMutationOutcome × Bool × List ProviderReceiptRow × Bool) :=
  (consumeSubmitBarrier (sampleBarrier 4 1) preparedLedger).toOption.map fun after =>
    let n := normalizeReply (sampleBarrier 4 1) 0 (acceptedUnder ticket)
    (n.outcome, (persistReceipt (sampleBarrier 4 1) n (sampleValues 7) after).isOk, after.receipts,
      after.intents.any fun r => r.id == uuidOf 4)

/-- A plain ticket is recorded. -/
theorem receipt_lost_iff_plain :
    ∃ after db', consumeSubmitBarrier (sampleBarrier 4 1) preparedLedger = .ok after ∧
      persistReceipt (sampleBarrier 4 1) (normalizeReply (sampleBarrier 4 1) 0 (acceptedUnder "T-1"))
        (sampleValues 7) after = .ok db' := by
  have hreceipts : consumedDb.receipts = [] := rfl
  have hintent : (consumedDb.intents.any fun r => r.id == uuidOf 4) = true := by decide +kernel
  have hplain : ¬LostTicket (sampleBarrier 4 1).probe (acceptedUnder "T-1") := by
    rintro ⟨response, ticket, hreply, hdefinitive, hnul⟩
    have hticket : JsValue.lookup response "providerOrderId" = .string ticket := by
      rcases hdefinitive with haccepted | hrejected
      · exact haccepted.ticket.1
      · exact hrejected.ticket.1
    cases hreply
    cases hticket
    revert hnul
    decide
  have hid : Uuid.ofText? (sampleBarrier 4 1).intentId = some (uuidOf 4) := Uuid.ofText?_text _
  rcases (receipt_lost_iff (fun _ => "") preparedLedger consumedDb (sampleBarrier 4 1) preparedLedger_consumed 0
      (acceptedUnder "T-1")).2.2.mpr hplain consumedDb (sampleValues 7) (uuidOf 4) hid
      (by simpa using hintent) (by rw [hreceipts]; simp) with ⟨db', hdb⟩ | ⟨x, hx, -⟩
  · exact ⟨consumedDb, db', preparedLedger_consumed, hdb⟩
  · rw [hreceipts] at hx
    cases hx

/-- A ticket with a NUL is an acceptance, no receipt of the intent is stored, and the insert fails. -/
theorem nul_ticket_is_lost :
    ∃ after, consumeSubmitBarrier (sampleBarrier 4 1) preparedLedger = .ok after ∧
      (normalizeReply (sampleBarrier 4 1) 0 (acceptedUnder "T-1\x00")).outcome = .accepted ∧
      (persistReceipt (sampleBarrier 4 1) (normalizeReply (sampleBarrier 4 1) 0 (acceptedUnder "T-1\x00"))
        (sampleValues 7) after).isOk = false ∧ after.receipts = [] := by
  have hrun : recordedUnder "T-1\x00" = some (.accepted, false, [], true) := by
    rw [recordedUnder, preparedLedger_consumed]
    decide +kernel
  unfold recordedUnder at hrun
  rw [preparedLedger_consumed] at hrun
  have hall := Option.some.inj hrun
  simp only [Prod.mk.injEq] at hall
  exact ⟨consumedDb, preparedLedger_consumed, hall.1, hall.2.1, hall.2.2.1⟩

end VeltrixEye
