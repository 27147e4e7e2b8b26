import VeltrixEye.Notifications.Outbox
import VeltrixEye.Lib.Runs
import VeltrixEye.Lib.Rows

/-!
# The outbox under its statements

Any caller may run any statement at any time, with any job id and any token; the clock advances between
statements.

* `OutboxState` — the outbox, the clock and a record of the uuids generated so far, which no statement
  reads; `outboxStep` — one statement.
* `RowChange` — what a statement can do to one row, with what it checked.
-/

namespace VeltrixEye.Notifications

structure OutboxState where
  outbox : Outbox
  now : ℕ
  generated : List Uuid

inductive OutboxAction where
  | tick (elapsed : ℕ)
  | enqueue (id : Uuid) (owner : EnqueueOwner) (args : EnqueueAlertNotificationArgs)
  | claim (ctx : ClaimContext) (limit : ℕ)
  | renew (ch : NotificationChannel) (jobId : Uuid) (token : OwnerToken)
  | deliver (ch : NotificationChannel) (jobId : Uuid) (token : OwnerToken) (result : AttemptResult)
  | retry (ch : NotificationChannel) (jobId : Uuid) (token : OwnerToken) (delayMs : ℕ)
      (result : AttemptResult)
  | fail (ch : NotificationChannel) (jobId : Uuid) (token : OwnerToken) (result : AttemptResult)
  | unavailable (ch : NotificationChannel) (jobId : Uuid) (token : OwnerToken) (result : AttemptResult)
  | recoverPending (ch : NotificationChannel)
  | recoverFailed (ch : NotificationChannel)
  | requeue (ch : NotificationChannel) (locked : Uuid → Bool) (scan : Scan) (limit : ℕ)
  | deleteDelivered (ch : NotificationChannel) (retentionDays : ℕ)
  | deleteFailed (ch : NotificationChannel) (retentionDays : ℕ)

/-- The uuids a claim may generate. -/
def ClaimContext.uuids (ctx : ClaimContext) : List Uuid :=
  canonical.map (ctx.uuid false) ++ canonical.map (ctx.uuid true)

/-- The uuids a statement generates. -/
def OutboxAction.generates : OutboxAction → List Uuid
  | .enqueue id _ _ => [id]
  | .claim ctx _ => ctx.uuids
  | _ => []

/-- The outbox after a statement; `lease` is the length every caller passes and `maxAttempts` the
    default budget. -/
def outboxAfter (lease maxAttempts now : ℕ) (o : Outbox) : OutboxAction → Outbox
  | .tick _ => o
  | .enqueue id owner args =>
    match enqueue now id maxAttempts owner o args with
    | .ok (o', _, _) => o'
    | .error _ => o
  | .claim ctx limit => (claimBatch now ctx limit o).1
  | .renew ch jobId token => (renewLease lease now ch jobId token o).1
  | .deliver ch jobId token result => (markDelivered lease now ch jobId token result o).1
  | .retry ch jobId token delayMs result => (scheduleRetry lease now ch jobId token delayMs result o).1
  | .fail ch jobId token result => (markFailed lease now ch jobId token result o).1
  | .unavailable ch jobId token result => (markUnavailable lease now ch jobId token result o).1
  | .recoverPending ch => recoverPending lease now ch o
  | .recoverFailed ch => recoverFailed lease now ch o
  | .requeue ch locked scan limit => requeueUnavailable now ch locked scan limit o
  | .deleteDelivered ch retentionDays => deleteDelivered now retentionDays ch o
  | .deleteFailed ch retentionDays => deleteFailed now retentionDays ch o

/-- One step. -/
def outboxStep (lease maxAttempts : ℕ) (s : OutboxState) (a : OutboxAction) : OutboxState where
  outbox := outboxAfter lease maxAttempts s.now s.outbox a
  now := match a with
    | .tick elapsed => s.now + elapsed
    | _ => s.now
  generated := s.generated ++ a.generates

/-- `randomUUID` and `gen_random_uuid` never generate a value twice. -/
def Fresh (s : OutboxState) (a : OutboxAction) : Prop :=
  a.generates.Nodup ∧ ∀ u ∈ a.generates, u ∉ s.generated

instance (s : OutboxState) (a : OutboxAction) : Decidable (Fresh s a) :=
  inferInstanceAs (Decidable (_ ∧ ∀ u ∈ a.generates, u ∉ s.generated))

/-- No job was ever enqueued or claimed. -/
structure Initial (s : OutboxState) : Prop where
  tables : ∀ ch, s.outbox.tables ch = []
  claims : ∀ ch, s.outbox.ledger.claims ch = 0
  generated : s.generated = []

/-! ## What a statement does to a row -/

/-- Who may change a row: a claim with a new token, a caller with the row's token, or maintenance. -/
inductive Cause where
  | claim (token : OwnerToken)
  | owner (jobId : Uuid) (token : OwnerToken)
  | maintenance

inductive RowChange (lease now : ℕ) : Cause → JobRow → JobRow → Prop
  | claim (token : OwnerToken) (r : JobRow) (hpending : r.status = .pending)
      (hbudget : r.attempts < r.maxAttempts) :
      RowChange lease now (.claim token) r (claimedRow now token r)
  | renew (token : OwnerToken) (r : JobRow) (howned : owned lease now r.id token r = true) :
      RowChange lease now (.owner r.id token) r { r with lockedAt := some now }
  | deliver (token : OwnerToken) (result : AttemptResult) (r : JobRow)
      (howned : owned lease now r.id token r = true) :
      RowChange lease now (.owner r.id token) r (deliveredRow now result r)
  | retry (token : OwnerToken) (delayMs : ℕ) (result : AttemptResult) (r : JobRow)
      (howned : owned lease now r.id token r = true) (hbudget : r.attempts < r.maxAttempts) :
      RowChange lease now (.owner r.id token) r (retriedRow now delayMs result r)
  | fail (token : OwnerToken) (result : AttemptResult) (r : JobRow)
      (howned : owned lease now r.id token r = true) :
      RowChange lease now (.owner r.id token) r (failedRow now result r)
  | unavailable (token : OwnerToken) (result : AttemptResult) (r : JobRow)
      (howned : owned lease now r.id token r = true) :
      RowChange lease now (.owner r.id token) r (unavailableRow now result r)
  | recover (r r' : JobRow) (hstale : stale lease now r = true) (hbudget : r.attempts < r.maxAttempts)
      (hrow : r' = { r.unlocked with
        status := .pending, nextAttemptAt := now, failureCategory := .stale,
        lastError := some "worker did not finish inside the lease — recovered" }) :
      RowChange lease now .maintenance r r'
  | deadLetter (r r' : JobRow) (hstale : stale lease now r = true)
      (hbudget : r.maxAttempts ≤ r.attempts)
      (hrow : r' = { r.unlocked with
        status := .failed, failureCategory := .stale,
        lastError := some "worker did not finish inside the lease — retry budget exhausted",
        nextAttemptAt := now }) :
      RowChange lease now .maintenance r r'
  | requeue (r r' : JobRow) (hstatus : r.status = .unavailable)
      (hrow : r' = { r.unlocked with
        status := .pending, attempts := 0, failureCategory := .none, lastError := none,
        nextAttemptAt := now }) :
      RowChange lease now .maintenance r r'

theorem RowChange.of_claim {lease now : ℕ} {token : OwnerToken} {r r' : JobRow}
    (h : RowChange lease now (.claim token) r r') :
    r' = claimedRow now token r ∧ r.status = .pending ∧ r.attempts < r.maxAttempts := by
  cases h with
  | claim _ _ hpending hbudget => exact ⟨rfl, hpending, hbudget⟩

/-- The tables change in place, each row for one of the causes. -/
def ChangesRows (lease now : ℕ) (why : Cause → Prop) (o o' : Outbox) : Prop :=
  ∀ ch, ∃ g : JobRow → JobRow, o'.tables ch = (o.tables ch).map g ∧
    ∀ r ∈ o.tables ch, g r = r ∨ ∃ c, why c ∧ RowChange lease now c r (g r)

variable {lease maxAttempts now : ℕ} {o o' : Outbox} {ch : NotificationChannel} {why : Cause → Prop}

@[simp] theorem Outbox.setTable_self (o : Outbox) (ch : NotificationChannel) (rows : List JobRow) :
    (o.setTable ch rows).tables ch = rows := Function.update_self _ _ _

theorem Outbox.setTable_other (o : Outbox) {ch ch' : NotificationChannel} (rows : List JobRow)
    (h : ch' ≠ ch) : (o.setTable ch rows).tables ch' = o.tables ch' := Function.update_of_ne h _ _

theorem ChangesRows.rfl : ChangesRows lease now why o o :=
  fun _ => ⟨id, (List.map_id _).symm, fun _ _ => .inl (Eq.refl _)⟩

theorem changesRows_update {p : JobRow → Bool} {f : JobRow → JobRow}
    (h : ∀ r ∈ o.tables ch, p r = true → ∃ c, why c ∧ RowChange lease now c r (f r)) :
    ChangesRows lease now why o (o.update ch p f).1 := by
  intro ch'
  by_cases hch : ch' = ch
  · subst hch
    refine ⟨fun r => if p r then f r else r, ?_, ?_⟩
    · simp [Outbox.update, updateWhere]
    · intro r hr
      by_cases hp : p r
      · obtain ⟨c, hc, hchange⟩ := h r hr hp
        exact .inr ⟨c, hc, by simpa [hp] using hchange⟩
      · exact .inl (by simp [hp])
  · exact ⟨id, by simp [Outbox.update, Outbox.setTable_other, hch], fun _ _ => .inl (Eq.refl _)⟩

theorem changesRows_acknowledge {p : JobRow → Bool} {f : JobRow → JobRow} {result : AttemptResult}
    (h : ∀ r ∈ o.tables ch, p r = true → ∃ c, why c ∧ RowChange lease now c r (f r)) :
    ChangesRows lease now why o (acknowledge ch p result f o).1 := by
  unfold acknowledge
  split
  · exact changesRows_update h
  · exact .rfl

theorem owned_id {jobId : Uuid} {token : OwnerToken} {r : JobRow}
    (h : owned lease now jobId token r = true) : r.id = jobId := by
  simp only [owned, Bool.and_eq_true, decide_eq_true_eq] at h
  exact h.1.1.1

theorem owned_self {jobId : Uuid} {token : OwnerToken} {r : JobRow}
    (h : owned lease now jobId token r = true) : owned lease now r.id token r = true := by
  rw [owned_id h]
  exact h

/-! ## Claims -/

/-- Rows change by claims with tokens of the context. -/
def byClaim (ctx : ClaimContext) (c : Cause) : Prop :=
  ∃ token, c = .claim token ∧ token.workerId = ctx.workerId ∧ token.claim ∈ ctx.uuids

theorem uuid_mem (ctx : ClaimContext) (second : Bool) (ch : NotificationChannel) :
    ctx.uuid second ch ∈ ctx.uuids := by
  cases second <;> cases ch <;> simp [ClaimContext.uuids, canonical]

theorem mem_candidates {locked : Uuid → Bool} {scan : Scan} {limit : ℕ} {rows : List JobRow} {r : JobRow}
    (h : r ∈ candidates now locked scan limit rows) : r ∈ rows ∧ claimable now locked r = true := by
  have h := List.mem_of_mem_take h
  rw [List.mem_insertionSort, List.mem_filter, (scan.perm rows).mem_iff] at h
  exact h

theorem ChangesRows.trans_claim {ctx : ClaimContext} {o'' : Outbox}
    (h : ChangesRows lease now (byClaim ctx) o o') (h' : ChangesRows lease now (byClaim ctx) o' o'') :
    ChangesRows lease now (byClaim ctx) o o'' := by
  intro ch
  obtain ⟨g, hg, hrow⟩ := h ch
  obtain ⟨g', hg', hrow'⟩ := h' ch
  refine ⟨g' ∘ g, by rw [hg', hg, List.map_map], ?_⟩
  intro r hr
  have hmem : g r ∈ o'.tables ch := by
    rw [hg]
    exact List.mem_map_of_mem hr
  rcases hrow r hr with hsame | ⟨c, hc, hchange⟩
  · rw [Function.comp_apply, hsame]
    exact hrow' r (hsame ▸ hmem)
  · rcases hrow' (g r) hmem with hsame' | ⟨c', ⟨token', rfl, -⟩, hchange'⟩
    · rw [Function.comp_apply, hsame']
      exact .inr ⟨c, hc, hchange⟩
    · exfalso
      obtain ⟨token, rfl, -⟩ := hc
      have hpending := hchange'.of_claim.2.1
      rw [hchange.of_claim.1] at hpending
      cases hpending

variable {ctx : ClaimContext}

theorem claimTable_changes (hids : ∀ ch, ((o.tables ch).map (·.id)).Nodup) (second : Bool)
    (ch : NotificationChannel) (limit : ℕ) :
    ChangesRows lease now (byClaim ctx) o (claimTable now ctx second ch limit o).1 := by
  unfold claimTable
  refine changesRows_update ?_
  intro r hr hselected
  simp only [List.any_eq_true, decide_eq_true_eq] at hselected
  obtain ⟨c, hc, hid⟩ := hselected
  obtain ⟨hmem, hclaimable⟩ := mem_candidates hc
  have hsame : c = r := Rows.eq_of_key (hids ch) hmem hr hid
  subst hsame
  simp only [claimable, Bool.and_eq_true, decide_eq_true_eq] at hclaimable
  exact ⟨.claim ⟨ctx.workerId, ctx.uuid second ch⟩,
    ⟨_, Eq.refl _, Eq.refl _, uuid_mem ctx second ch⟩,
    .claim _ c hclaimable.1.1.1 hclaimable.1.2⟩

theorem RowChange.id {c : Cause} {r r' : JobRow} (h : RowChange lease now c r r') : r'.id = r.id := by
  cases h with
  | recover _ _ _ _ hrow => rw [hrow]; rfl
  | deadLetter _ _ _ _ hrow => rw [hrow]; rfl
  | requeue _ _ _ hrow => rw [hrow]; rfl
  | _ => rfl

theorem ChangesRows.ids (h : ChangesRows lease now why o o') (ch : NotificationChannel) :
    (o'.tables ch).map (·.id) = (o.tables ch).map (·.id) := by
  obtain ⟨g, hg, hrow⟩ := h ch
  rw [hg, List.map_map]
  refine List.map_congr_left fun r hr => ?_
  rcases hrow r hr with hsame | ⟨c, -, hchange⟩
  · rw [Function.comp_apply, hsame]
  · exact hchange.id

theorem ChangesRows.nodup (h : ChangesRows lease now why o o')
    (hids : ∀ ch, ((o.tables ch).map (·.id)).Nodup) : ∀ ch, ((o'.tables ch).map (·.id)).Nodup :=
  fun ch => h.ids ch ▸ hids ch

theorem recordFairnessClaims_tables (counts : NotificationChannel → ℕ) (o : Outbox) :
    (recordFairnessClaims counts o).tables = o.tables := by
  unfold recordFairnessClaims
  split <;> rfl

theorem ChangesRows.record (h : ChangesRows lease now why o o') (counts : NotificationChannel → ℕ) :
    ChangesRows lease now why o (recordFairnessClaims counts o') := by
  intro ch
  rw [recordFairnessClaims_tables]
  exact h ch

theorem claimFirst_changes (hids : ∀ ch, ((o.tables ch).map (·.id)).Nodup)
    (queues : List NotificationChannel) :
    ChangesRows lease now (byClaim ctx) o (claimFirst now ctx o queues).1 := by
  induction queues with
  | nil => exact .rfl
  | cons ch rest ih =>
    unfold claimFirst
    split
    · exact ih
    · exact (claimTable_changes hids false ch 1).record _

theorem firstPass_changes (hids : ∀ ch, ((o.tables ch).map (·.id)).Nodup) (remaining : ℕ)
    (queues : List NotificationChannel) :
    ChangesRows lease now (byClaim ctx) o (firstPass now ctx remaining o queues).1 := by
  induction queues generalizing o remaining with
  | nil => exact .rfl
  | cons ch rest ih =>
    unfold firstPass
    split
    · exact .rfl
    · have hfirst := @claimTable_changes lease now o ctx hids false ch
        (max 1 ((remaining + rest.length) / (rest.length + 1)))
      exact hfirst.trans_claim (ih (hfirst.nodup hids) _)

theorem secondPass_changes (hids : ∀ ch, ((o.tables ch).map (·.id)).Nodup) (remaining : ℕ)
    (queues : List NotificationChannel) :
    ChangesRows lease now (byClaim ctx) o (secondPass now ctx remaining o queues).1 := by
  induction queues generalizing o remaining with
  | nil => exact .rfl
  | cons ch rest ih =>
    unfold secondPass
    split
    · exact .rfl
    · have hfirst := @claimTable_changes lease now o ctx hids true ch remaining
      exact hfirst.trans_claim (ih (hfirst.nodup hids) _)

theorem claimBatch_changes (hids : ∀ ch, ((o.tables ch).map (·.id)).Nodup) (limit : ℕ) :
    ChangesRows lease now (byClaim ctx) o (claimBatch now ctx limit o).1 := by
  unfold claimBatch
  split
  · exact .rfl
  dsimp only
  split
  · exact claimFirst_changes hids _
  · have hfirst := @firstPass_changes lease now o ctx hids limit (sortedQueues o.ledger)
    exact (hfirst.trans_claim (secondPass_changes (hfirst.nodup hids) _ _)).record _

/-! ## The inversion of a step -/

/-- Why a statement may change a row. -/
def OutboxAction.causes : OutboxAction → Cause → Prop
  | .claim ctx _ => byClaim ctx
  | .renew _ jobId token => (· = .owner jobId token)
  | .deliver _ jobId token _ => (· = .owner jobId token)
  | .retry _ jobId token _ _ => (· = .owner jobId token)
  | .fail _ jobId token _ => (· = .owner jobId token)
  | .unavailable _ jobId token _ => (· = .owner jobId token)
  | .recoverPending _ => (· = .maintenance)
  | .recoverFailed _ => (· = .maintenance)
  | .requeue _ _ _ _ => (· = .maintenance)
  | _ => fun _ => False

/-- An insert: a fresh row that no unique index refuses. -/
structure Inserted (maxAttempts now : ℕ) (o o' : Outbox) (id : Uuid) (owner : EnqueueOwner)
    (args : EnqueueAlertNotificationArgs) (row : JobRow) : Prop where
  columns : ∃ recipient, row = freshRow now id maxAttempts recipient args
  accepted : insertable row = true
  fresh : ∀ r ∈ o.tables args.channel, r.alertId ≠ args.alertId ∧
    r.idempotencyKey ≠ args.idempotencyKey ∧ r.id ≠ id
  outbox : o' = o.setTable args.channel (o.tables args.channel ++ [row])

/-- A deletion: only terminal rows of the table go. -/
def Deleted (o o' : Outbox) (ch : NotificationChannel) : Prop :=
  ∃ p : JobRow → Bool, o' = o.setTable ch ((o.tables ch).filter p) ∧
    ∀ r ∈ o.tables ch, p r = false → r.status = .delivered ∨ r.status = .failed

/-- The statements that delete. -/
def OutboxAction.deletesFrom : OutboxAction → Option NotificationChannel
  | .deleteDelivered ch _ => some ch
  | .deleteFailed ch _ => some ch
  | _ => none

theorem enqueue_ok {id : Uuid} {owner : EnqueueOwner} {args : EnqueueAlertNotificationArgs}
    {row : JobRow} {created : Bool}
    (h : enqueue now id maxAttempts owner o args = .ok (o', row, created)) :
    (created = false ∧ o' = o ∧ row ∈ o.tables args.channel ∧ row.alertId = args.alertId) ∨
      (created = true ∧ Inserted maxAttempts now o o' id owner args row) := by
  unfold enqueue at h
  dsimp only at h
  split at h
  · split at h
    · rename_i existing _ hexisting
      cases h
      exact .inl ⟨rfl, rfl, List.mem_of_find?_eq_some hexisting,
        by simpa using List.find?_some hexisting⟩
    · cases h
  · cases h
  rename_i recipient hrecipient
  split at h
  · cases h
  rename_i hinsertable
  split at h
  · rename_i existing hexisting
    cases h
    exact .inl ⟨rfl, rfl, List.mem_of_find?_eq_some hexisting,
      by simpa using List.find?_some hexisting⟩
  rename_i hnone
  split at h
  · cases h
  rename_i hunique
  split at h
  · cases h
  cases h
  refine .inr ⟨rfl, ⟨recipient, rfl⟩, by simpa using hinsertable, ?_, rfl⟩
  intro r hr
  simp only [List.any_eq_true, Bool.or_eq_true, decide_eq_true_eq, not_exists, not_and,
    not_or] at hunique
  exact ⟨by simpa using List.find?_eq_none.mp hnone r hr, hunique r hr⟩

/-- **The inversion of a step.** -/
theorem outboxAfter_cases (hids : ∀ ch, ((o.tables ch).map (·.id)).Nodup) (a : OutboxAction) :
    ChangesRows lease now a.causes o (outboxAfter lease maxAttempts now o a) ∨
      (∃ id owner args row, a = .enqueue id owner args ∧
        Inserted maxAttempts now o (outboxAfter lease maxAttempts now o a) id owner args row) ∨
      ∃ ch, a.deletesFrom = some ch ∧ Deleted o (outboxAfter lease maxAttempts now o a) ch := by
  have staleOf : ∀ {r : JobRow} {b : Bool}, (stale lease now r && b) = true →
      stale lease now r = true ∧ b = true := fun h => by simpa using h
  cases a with
  | tick => exact .inl .rfl
  | enqueue id owner args =>
    unfold outboxAfter
    dsimp only
    split
    · rename_i o' row created heq
      rcases enqueue_ok heq with ⟨-, rfl, -⟩ | ⟨-, hinserted⟩
      · exact .inl .rfl
      · exact .inr (.inl ⟨id, owner, args, row, rfl, hinserted⟩)
    · exact .inl .rfl
  | claim ctx limit => exact .inl (claimBatch_changes hids limit)
  | renew ch jobId token =>
    refine .inl (changesRows_update fun r _ h => ⟨_, rfl, ?_⟩)
    rw [← owned_id h]
    exact .renew token r (owned_self h)
  | deliver ch jobId token result =>
    refine .inl (changesRows_acknowledge fun r _ h => ⟨_, rfl, ?_⟩)
    rw [← owned_id h]
    exact .deliver token result r (owned_self h)
  | retry ch jobId token delayMs result =>
    refine .inl (changesRows_acknowledge fun r _ h => ⟨_, rfl, ?_⟩)
    simp only [Bool.and_eq_true, decide_eq_true_eq] at h
    rw [← owned_id h.1]
    exact .retry token delayMs result r (owned_self h.1) h.2
  | fail ch jobId token result =>
    refine .inl (changesRows_acknowledge fun r _ h => ⟨_, rfl, ?_⟩)
    rw [← owned_id h]
    exact .fail token result r (owned_self h)
  | unavailable ch jobId token result =>
    refine .inl (changesRows_acknowledge fun r _ h => ⟨_, rfl, ?_⟩)
    rw [← owned_id h]
    exact .unavailable token result r (owned_self h)
  | recoverPending ch =>
    refine .inl (changesRows_update fun r _ h => ⟨_, rfl, ?_⟩)
    exact .recover r _ (staleOf h).1 (by simpa using (staleOf h).2) rfl
  | recoverFailed ch =>
    refine .inl (changesRows_update fun r _ h => ⟨_, rfl, ?_⟩)
    exact .deadLetter r _ (staleOf h).1 (by simpa using (staleOf h).2) rfl
  | requeue ch locked scan limit =>
    refine .inl (changesRows_update fun r hr h => ⟨_, rfl, .requeue r _ ?_ rfl⟩)
    simp only [List.any_eq_true, decide_eq_true_eq] at h
    obtain ⟨c, hc, hid⟩ := h
    have hc := List.mem_of_mem_take hc
    rw [List.mem_filter, (scan.perm _).mem_iff] at hc
    simp only [Bool.and_eq_true, decide_eq_true_eq] at hc
    rw [← Rows.eq_of_key (hids ch) hc.1 hr hid]
    exact hc.2.1
  | deleteDelivered ch retentionDays =>
    refine .inr (.inr ⟨ch, rfl, _, rfl, fun r _ h => .inl ?_⟩)
    simp only [Bool.not_eq_false', Bool.and_eq_true, decide_eq_true_eq] at h
    exact h.1
  | deleteFailed ch retentionDays =>
    refine .inr (.inr ⟨ch, rfl, _, rfl, fun r _ h => .inr ?_⟩)
    simp only [Bool.not_eq_false', Bool.and_eq_true, decide_eq_true_eq] at h
    exact h.1

end VeltrixEye.Notifications
