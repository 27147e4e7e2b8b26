import VeltrixEye.Notifications.Worker
import VeltrixEye.Notifications.Claims

/-!
# The attempts of a job

* `owed` — the `provider.send` calls made for a job and those its claims may still make.
* `Budgeted` — a row has counted what is owed for it, and no job owes more than its budget.
* `Budgeted.perform`, `Budgeted.claim` — the statements keep it, unless a re-queue resets a job that was
  sent.
-/

namespace VeltrixEye.Notifications

/-- The task holds a claim of the job that it has not sent. -/
def holds (key : JobKey) : WorkerStage → Bool
  | .claimed _ job => job.key = key
  | .confirming d => d.job.key = key
  | .ready d => d.job.key = key
  | _ => false

/-- The calls made for a job, and those its claims may still make. -/
def owed (p : DeliveryPool) (key : JobKey) : ℕ :=
  p.shared.calls.count key + p.tasks.countP fun t => holds key t.stage

structure Budgeted (s : OutboxState) (enqueued : List (JobKey × ℕ)) (owed : JobKey → ℕ) : Prop where
  ok : OutboxOk s
  known : ∀ ch, ∀ r ∈ s.outbox.tables ch, (r.key, r.maxAttempts) ∈ enqueued
  counted : ∀ ch, ∀ r ∈ s.outbox.tables ch, owed r.key ≤ r.attempts
  budget : ∀ e ∈ enqueued, ∀ ch, ∀ r ∈ s.outbox.tables ch, r.key = e.1 → r.maxAttempts = e.2
  spent : ∀ key, 0 < owed key → key.2 ∈ s.generated
  ids : ∀ e ∈ enqueued, e.1.2 ∈ s.generated
  bound : ∀ e ∈ enqueued, owed e.1 ≤ e.2

variable {lease maxAttempts now : ℕ} {o o' : Outbox} {ch : NotificationChannel} {s : OutboxState}
  {enqueued : List (JobKey × ℕ)} {counts counts' : JobKey → ℕ}

theorem Budgeted.mono (h : Budgeted s enqueued counts) (hle : ∀ key, counts' key ≤ counts key) :
    Budgeted s enqueued counts' where
  ok := h.ok
  known := h.known
  counted ch r hr := (hle r.key).trans (h.counted ch r hr)
  budget := h.budget
  spent key hkey := h.spent key (hkey.trans_le (hle key))
  ids := h.ids
  bound e he := (hle e.1).trans (h.bound e he)

/-! ## Statements -/

/-- A row after a statement that is no re-queue: the same job with no attempt taken back. -/
structure Continues (r r' : JobRow) : Prop where
  key : r'.key = r.key
  maxAttempts : r'.maxAttempts = r.maxAttempts
  attempts : r.attempts ≤ r'.attempts

theorem Continues.rfl {r : JobRow} : Continues r r := ⟨Eq.refl _, Eq.refl _, Nat.le_refl _⟩

theorem update_row {p : JobRow → Bool} {f : JobRow → JobRow} {ch' : NotificationChannel} {r' : JobRow}
    (h : r' ∈ (o.update ch p f).1.tables ch') :
    r' ∈ o.tables ch' ∨ (ch' = ch ∧ ∃ r ∈ o.tables ch, p r = true ∧ r' = f r) := by
  by_cases hch : ch' = ch
  · subst hch
    simp only [Outbox.update, updateWhere, Outbox.setTable_self] at h
    obtain ⟨r, hr, rfl⟩ := List.mem_map.mp h
    by_cases hp : p r = true
    · exact .inr ⟨Eq.refl _, r, hr, hp, if_pos hp⟩
    · exact .inl (by rwa [if_neg hp])
  · simp only [Outbox.update, Outbox.setTable_other _ _ hch] at h
    exact .inl h

theorem update_continues {p : JobRow → Bool} {f : JobRow → JobRow} {ch' : NotificationChannel}
    {r' : JobRow} (h : r' ∈ (o.update ch p f).1.tables ch') (hf : ∀ r, Continues r (f r)) :
    ∃ r ∈ o.tables ch', Continues r r' := by
  rcases update_row h with hr | ⟨rfl, r, hr, -, rfl⟩
  · exact ⟨r', hr, .rfl⟩
  · exact ⟨r, hr, hf r⟩

theorem acknowledge_continues {p : JobRow → Bool} {f : JobRow → JobRow} {result : AttemptResult}
    {ch' : NotificationChannel} {r' : JobRow} (h : r' ∈ (acknowledge ch p result f o).1.tables ch')
    (hf : ∀ r, Continues r (f r)) : ∃ r ∈ o.tables ch', Continues r r' := by
  unfold acknowledge at h
  split at h
  · exact update_continues h hf
  · exact ⟨r', h, .rfl⟩

theorem filter_continues {p : JobRow → Bool} {ch' : NotificationChannel} {r' : JobRow}
    (h : r' ∈ (o.setTable ch ((o.tables ch).filter p)).tables ch') :
    ∃ r ∈ o.tables ch', Continues r r' := by
  by_cases hch : ch' = ch
  · subst hch
    rw [Outbox.setTable_self] at h
    exact ⟨r', List.mem_of_mem_filter h, .rfl⟩
  · rw [Outbox.setTable_other _ _ hch] at h
    exact ⟨r', h, .rfl⟩

theorem outboxAfter_continues {a : OutboxAction} (hclaim : ∀ ctx limit, a ≠ .claim ctx limit)
    (henqueue : ∀ id owner args, a ≠ .enqueue id owner args)
    (hrequeue : ∀ ch locked scan limit, a ≠ .requeue ch locked scan limit) {r' : JobRow}
    (h : r' ∈ (outboxAfter lease maxAttempts now o a).tables ch) :
    ∃ r ∈ o.tables ch, Continues r r' := by
  cases a with
  | tick => exact ⟨r', h, .rfl⟩
  | enqueue id owner args => exact absurd rfl (henqueue id owner args)
  | claim ctx limit => exact absurd rfl (hclaim ctx limit)
  | requeue ch locked scan limit => exact absurd rfl (hrequeue ch locked scan limit)
  | renew => exact update_continues h fun r => ⟨rfl, rfl, Nat.le_refl _⟩
  | deliver => exact acknowledge_continues h fun r => ⟨rfl, rfl, Nat.le_refl _⟩
  | retry => exact acknowledge_continues h fun r => ⟨rfl, rfl, Nat.le_refl _⟩
  | fail => exact acknowledge_continues h fun r => ⟨rfl, rfl, Nat.le_refl _⟩
  | unavailable => exact acknowledge_continues h fun r => ⟨rfl, rfl, Nat.le_refl _⟩
  | recoverPending => exact update_continues h fun r => ⟨rfl, rfl, Nat.le_refl _⟩
  | recoverFailed => exact update_continues h fun r => ⟨rfl, rfl, Nat.le_refl _⟩
  | deleteDelivered => exact filter_continues h
  | deleteFailed => exact filter_continues h

theorem inserts_of_ne {a : OutboxAction} (henqueue : ∀ id owner args, a ≠ .enqueue id owner args) :
    inserts maxAttempts s a = [] := by
  cases a with
  | enqueue id owner args => exact absurd rfl (henqueue id owner args)
  | _ => rfl

theorem inserts_enqueue (id : Uuid) (owner : EnqueueOwner) (args : EnqueueAlertNotificationArgs) :
    (inserts maxAttempts s (.enqueue id owner args) = [] ∧
        outboxAfter lease maxAttempts s.now s.outbox (.enqueue id owner args) = s.outbox) ∨
      ∃ row, inserts maxAttempts s (.enqueue id owner args) = [(row.key, row.maxAttempts)] ∧
        Inserted maxAttempts s.now s.outbox
          (outboxAfter lease maxAttempts s.now s.outbox (.enqueue id owner args)) id owner args row := by
  unfold inserts outboxAfter
  dsimp only
  cases henqueue : enqueue s.now id maxAttempts owner s.outbox args with
  | error e => exact .inl ⟨rfl, rfl⟩
  | ok r =>
    obtain ⟨o', row, created⟩ := r
    rcases enqueue_ok henqueue with ⟨rfl, rfl, -⟩ | ⟨rfl, hinserted⟩
    · exact .inl ⟨rfl, rfl⟩
    · exact .inr ⟨row, rfl, hinserted⟩

theorem Budgeted.rows {a : OutboxAction} (h : Budgeted s enqueued counts)
    (hrows : ∀ ch, ∀ r' ∈ (outboxAfter lease maxAttempts s.now s.outbox a).tables ch,
      ∃ r ∈ s.outbox.tables ch, r'.key = r.key ∧ r'.maxAttempts = r.maxAttempts ∧
        counts r.key ≤ r'.attempts) :
    Budgeted (outboxStep lease maxAttempts s a) enqueued counts where
  ok := outboxStep_ok s a h.ok
  known ch r' hr' := by
    obtain ⟨r, hr, hkey, hmax, -⟩ := hrows ch r' hr'
    rw [hkey, hmax]
    exact h.known ch r hr
  counted ch r' hr' := by
    obtain ⟨r, hr, hkey, -, hcount⟩ := hrows ch r' hr'
    rwa [hkey]
  budget e he ch r' hr' hkey' := by
    obtain ⟨r, hr, hkey, hmax, -⟩ := hrows ch r' hr'
    rw [hmax]
    exact h.budget e he ch r hr (hkey.symm.trans hkey')
  spent key hkey := List.mem_append_left _ (h.spent key hkey)
  ids e he := List.mem_append_left _ (h.ids e he)
  bound := h.bound

theorem Budgeted.insert (h : Budgeted s enqueued counts) {id : Uuid} {owner : EnqueueOwner}
    {args : EnqueueAlertNotificationArgs} {row : JobRow} (hfresh : id ∉ s.generated)
    (hrow : Inserted maxAttempts s.now s.outbox
      (outboxAfter lease maxAttempts s.now s.outbox (.enqueue id owner args)) id owner args row) :
    Budgeted (outboxStep lease maxAttempts s (.enqueue id owner args))
      (enqueued ++ [(row.key, row.maxAttempts)]) counts := by
  have hid : row.key.2 = id := by
    obtain ⟨recipient, hcolumns⟩ := hrow.columns
    rw [hcolumns]
    rfl
  have hzero : counts row.key = 0 := by
    by_contra hne
    exact hfresh (hid ▸ h.spent row.key (Nat.pos_of_ne_zero hne))
  have hold : ∀ ch r, r ∈ (outboxStep lease maxAttempts s (.enqueue id owner args)).outbox.tables ch →
      r ∈ s.outbox.tables ch ∨ r = row := by
    intro ch r hr
    change r ∈ (outboxAfter lease maxAttempts s.now s.outbox (.enqueue id owner args)).tables ch at hr
    rw [hrow.outbox] at hr
    by_cases hch : ch = args.channel
    · subst hch
      rw [Outbox.setTable_self, List.mem_append, List.mem_singleton] at hr
      exact hr
    · rw [Outbox.setTable_other _ _ hch] at hr
      exact .inl hr
  refine ⟨outboxStep_ok s _ h.ok, ?_, ?_, ?_, ?_, ?_, ?_⟩
  · intro ch r hr
    rcases hold ch r hr with hr | rfl
    · exact List.mem_append_left _ (h.known ch r hr)
    · simp
  · intro ch r hr
    rcases hold ch r hr with hr | rfl
    · exact h.counted ch r hr
    · rw [hzero]
      exact Nat.zero_le _
  · intro e he ch r hr hkey
    rcases List.mem_append.mp he with hknown | hnew
    · rcases hold ch r hr with hr | rfl
      · exact h.budget e hknown ch r hr hkey
      · exact absurd (hid ▸ hkey ▸ h.ids e hknown) hfresh
    · rw [List.mem_singleton] at hnew
      subst hnew
      rcases hold ch r hr with hr | rfl
      · have hmem : r.key.2 ∈ s.generated := h.ids _ (h.known ch r hr)
        rw [show r.key = row.key from hkey, hid] at hmem
        exact absurd hmem hfresh
      · rfl
  · exact fun key hkey => List.mem_append_left _ (h.spent key hkey)
  · intro e he
    rcases List.mem_append.mp he with he | he
    · exact List.mem_append_left _ (h.ids e he)
    · rw [List.mem_singleton] at he
      subst he
      exact List.mem_append_right _ (by simp [OutboxAction.generates, hid])
  · intro e he
    rcases List.mem_append.mp he with he | he
    · exact h.bound e he
    · rw [List.mem_singleton] at he
      subst he
      show counts row.key ≤ _
      rw [hzero]
      exact Nat.zero_le _

theorem Budgeted.perform {a : OutboxAction} (h : Budgeted s enqueued counts) (hfresh : Fresh s a)
    (hclaim : ∀ ctx limit, a ≠ .claim ctx limit)
    (hreset : ∀ ch locked scan limit, a = .requeue ch locked scan limit →
      ∀ r ∈ requeued locked scan limit (s.outbox.tables ch), counts r.key = 0) :
    Budgeted (outboxStep lease maxAttempts s a) (enqueued ++ inserts maxAttempts s a) counts := by
  by_cases henqueue : ∃ id owner args, a = .enqueue id owner args
  · obtain ⟨id, owner, args, rfl⟩ := henqueue
    rcases @inserts_enqueue lease maxAttempts s id owner args with
      ⟨hnone, hsame⟩ | ⟨row, hone, hinserted⟩
    · rw [hnone, List.append_nil]
      refine h.rows fun ch r hr => ⟨r, ?_, rfl, rfl, ?_⟩ <;> rw [hsame] at hr
      · exact hr
      · exact h.counted ch r hr
    · rw [hone]
      exact h.insert (hfresh.2 id (by simp [OutboxAction.generates])) hinserted
  push Not at henqueue
  rw [inserts_of_ne henqueue, List.append_nil]
  refine h.rows fun ch r' hr' => ?_
  by_cases hrequeue : ∃ ch locked scan limit, a = .requeue ch locked scan limit
  · obtain ⟨ch', locked, scan, limit, rfl⟩ := hrequeue
    rcases update_row hr' with hr | ⟨rfl, r, hr, hselected, rfl⟩
    · exact ⟨r', hr, rfl, rfl, h.counted ch r' hr⟩
    · refine ⟨r, hr, rfl, rfl, ?_⟩
      -- the re-queued row is one the statement selected
      obtain ⟨c, hc, hid⟩ := List.any_eq_true.mp hselected
      have hmem : c ∈ s.outbox.tables ch := (scan.perm _).mem_iff.mp
        (List.mem_of_mem_filter (List.mem_of_mem_take hc))
      have hsame : c = r := Rows.eq_of_key (h.ok.ids ch) hmem hr (of_decide_eq_true hid)
      rw [← hsame, hreset ch locked scan limit rfl c hc]
  · push Not at hrequeue
    obtain ⟨r, hr, hcontinues⟩ := outboxAfter_continues hclaim henqueue hrequeue hr'
    exact ⟨r, hr, hcontinues.key, hcontinues.maxAttempts,
      (h.counted ch r hr).trans hcontinues.attempts⟩

theorem Budgeted.claim {ctx : ClaimContext} (h : Budgeted s enqueued counts) :
    match (claimBatch s.now ctx 1 s.outbox).2.head? with
    | some job => Budgeted (outboxStep lease maxAttempts s (.claim ctx 1)) enqueued
        (fun key => counts key + if job.key = key then 1 else 0)
    | none => Budgeted (outboxStep lease maxAttempts s (.claim ctx 1)) enqueued counts := by
  have hafter : outboxAfter lease maxAttempts s.now s.outbox (.claim ctx 1) =
      (claimFirst s.now ctx s.outbox (sortedQueues s.outbox.ledger)).1 := rfl
  rw [claimBatch_one]
  rcases @claimFirst_spec s.now s.outbox ctx h.ok.keyed (sortedQueues s.outbox.ledger) with
    ⟨hjobs, hsame, -⟩ | ⟨_, ch, _, token, c, -, -, htakes, -⟩
  · rw [hjobs]
    refine h.rows fun ch r hr => ⟨r, ?_, rfl, rfl, ?_⟩ <;> rw [hafter, hsame] at hr
    · exact hr
    · exact h.counted ch r hr
  · rw [htakes.jobs]
    show Budgeted _ _ fun key => counts key + if c.key = key then 1 else 0
    have hbudget : c.attempts < c.maxAttempts := by
      have hclaimable := htakes.claimable
      simp only [claimable, Bool.and_eq_true, decide_eq_true_eq] at hclaimable
      exact hclaimable.1.2
    have hrows : ∀ ch', ∀ r' ∈ (outboxAfter lease maxAttempts s.now s.outbox (.claim ctx 1)).tables ch',
        ∃ r ∈ s.outbox.tables ch', r'.key = r.key ∧ r'.maxAttempts = r.maxAttempts ∧
          r'.attempts = r.attempts + if c.key = r.key then 1 else 0 := by
      intro ch' r' hr'
      rw [hafter, htakes.tables] at hr'
      by_cases hch : ch' = ch
      · subst hch
        rw [Outbox.setTable_self] at hr'
        obtain ⟨r, hr, rfl⟩ := List.mem_map.mp hr'
        have hchannel : c.channel = r.channel :=
          (h.ok.channels ch' c htakes.mem).trans (h.ok.channels ch' r hr).symm
        refine ⟨r, hr, ?_⟩
        by_cases hid : c.id = r.id
        · rw [if_pos hid]
          exact ⟨rfl, rfl, by rw [if_pos (show c.key = r.key from Prod.ext hchannel hid)]; rfl⟩
        · rw [if_neg hid]
          exact ⟨rfl, rfl, by rw [if_neg fun hkey => hid (congrArg Prod.snd hkey)]; rfl⟩
      · rw [Outbox.setTable_other _ _ hch] at hr'
        refine ⟨r', hr', rfl, rfl, ?_⟩
        rw [if_neg, Nat.add_zero]
        intro hkey
        have hchannel : c.channel = r'.channel := congrArg Prod.fst hkey
        rw [h.ok.channels ch c htakes.mem, h.ok.channels ch' r' hr'] at hchannel
        exact hch hchannel.symm
    refine ⟨outboxStep_ok s _ h.ok, ?_, ?_, ?_, ?_, ?_, ?_⟩
    · intro ch' r' hr'
      obtain ⟨r, hr, hkey, hmax, -⟩ := hrows ch' r' hr'
      rw [hkey, hmax]
      exact h.known ch' r hr
    · intro ch' r' hr'
      obtain ⟨r, hr, hkey, -, hattempts⟩ := hrows ch' r' hr'
      rw [hkey, hattempts]
      exact Nat.add_le_add_right (h.counted ch' r hr) _
    · intro e he ch' r' hr' hkey'
      obtain ⟨r, hr, hkey, hmax, -⟩ := hrows ch' r' hr'
      rw [hmax]
      exact h.budget e he ch' r hr (hkey.symm.trans hkey')
    · intro key hkey
      refine List.mem_append_left _ ?_
      by_cases hc : c.key = key
      · exact hc ▸ h.ids _ (h.known ch c htakes.mem)
      · rw [if_neg hc] at hkey
        exact h.spent key hkey
    · exact fun e he => List.mem_append_left _ (h.ids e he)
    · intro e he
      show counts e.1 + (if c.key = e.1 then 1 else 0) ≤ e.2
      by_cases hc : c.key = e.1
      · -- the budget recorded for the job is the one of its row
        have hmax : c.maxAttempts = e.2 := h.budget e he ch c htakes.mem hc
        have hcounted := h.counted ch c htakes.mem
        rw [if_pos hc, ← hc, ← hmax]
        omega
      · rw [if_neg hc]
        exact h.bound e he

/-! ## Steps of a task -/

/-- What a task holds of a job, as a number. -/
def weight (key : JobKey) (stage : WorkerStage) : ℕ := if holds key stage then 1 else 0

@[simp] theorem weight_claiming (key : JobKey) (n : ℕ) : weight key (claiming n) = 0 := by
  cases n <;> rfl

@[simp] theorem weight_requeueing (key : JobKey) (call : WorkerCall)
    (channels : List NotificationChannel) : weight key (requeueing call channels) = 0 := by
  cases channels <;> cases call <;> rfl

@[simp] theorem weight_acknowledged (key : JobKey) (d : Delivery) (result : AttemptResult) :
    weight key (acknowledged d result) = 0 := by
  unfold acknowledged
  split
  · exact weight_claiming key _
  · rfl

variable {policy : DeliveryRetryPolicy} {redact : String → String}

theorem weight_record (key : JobKey) (d : Delivery) (result : NotificationSendResult)
    (thrown : Option String) : weight key (record policy redact s d result thrown).2 = 0 := by
  unfold record
  dsimp only
  split
  · exact weight_acknowledged key d _
  · exact weight_acknowledged key d _
  · exact weight_acknowledged key d _
  · split
    · rfl
    · split
      · exact weight_claiming key _
      · rfl

theorem record_claims_nothing (d : Delivery) (result : NotificationSendResult) (thrown : Option String)
    (ctx : ClaimContext) (limit : ℕ) :
    (record policy redact s d result thrown).1 ≠ .claim ctx limit := by
  unfold record
  dsimp only
  split <;> simp

/-- What a step of a task does about claims: it takes a job, finds none, or claims nothing and holds no
    more than before. -/
inductive Moves (s : OutboxState) (stage : WorkerStage) (input : WorkerInput) :
    Option OutboxAction × WorkerStage → Prop
  | takes (ctx : ClaimContext) (remaining : ℕ) (job : JobRow)
      (hjob : (claimBatch s.now ctx 1 s.outbox).2.head? = some job)
      (hsends : sends stage input = []) :
      Moves s stage input (some (.claim ctx 1), .claimed remaining job)
  | finds_none (ctx : ClaimContext) (hjob : (claimBatch s.now ctx 1 s.outbox).2.head? = none)
      (hsends : sends stage input = []) : Moves s stage input (some (.claim ctx 1), .idle)
  | other (a : Option OutboxAction) (next : WorkerStage)
      (hclaim : ∀ ctx limit, a ≠ some (.claim ctx limit))
      (hweight : ∀ key, (sends stage input).count key + weight key next ≤ weight key stage) :
      Moves s stage input (a, next)

theorem sends_of_ne {stage : WorkerStage} {input : WorkerInput}
    (h : ∀ d, stage = .ready d → input ≠ .send) : sends stage input = [] := by
  unfold sends
  split
  · exact absurd rfl (h _ rfl)
  · rfl

section Moves

variable {stage next : WorkerStage} {input : WorkerInput} {a : Option OutboxAction}

theorem Moves.drops (hsends : sends stage input = []) (hclaim : ∀ ctx limit, a ≠ some (.claim ctx limit))
    (hnext : ∀ key, weight key next = 0) : Moves s stage input (a, next) :=
  .other a next hclaim fun key => by
    rw [hsends, hnext]
    exact Nat.zero_le _

theorem Moves.keeps (hsends : sends stage input = []) (hclaim : ∀ ctx limit, a ≠ some (.claim ctx limit))
    (hnext : ∀ key, weight key next ≤ weight key stage) : Moves s stage input (a, next) :=
  .other a next hclaim fun key => by
    rw [hsends, List.count_nil, Nat.zero_add]
    exact hnext key

end Moves

theorem workerStep_moves (instanceId : String) (stage : WorkerStage) (input : WorkerInput) :
    Moves s stage input (workerStep policy redact instanceId s stage input) := by
  unfold workerStep
  split
  · exact .drops rfl (by simp) fun _ => rfl
  · exact .drops (by cases stage <;> rfl) (by simp) fun _ => rfl
  -- recovery
  · split
    · exact .drops rfl (by simp) fun _ => rfl
    · exact .drops rfl (by simp) fun _ => rfl
    · exact .drops rfl (by simp) fun _ => rfl
  · split
    · exact .drops rfl (by simp) fun key => weight_requeueing key _ _
    · exact .drops rfl (by simp) fun _ => rfl
  · exact .drops rfl (by simp) fun key => weight_requeueing key _ _
  · refine .drops rfl (fun ctx limit => ?_) fun key => ?_
    · split <;> simp
    · split <;> rfl
  -- a claim
  · dsimp only
    split
    · rename_i hjob
      exact .takes _ _ _ hjob rfl
    · rename_i hjob
      exact .finds_none _ hjob rfl
  · split
    · exact .drops rfl (by simp) fun key => weight_claiming key _
    · split
      · exact .keeps rfl (by simp) fun _ => Nat.le_refl _
      · exact .drops rfl (by simp) fun key => weight_acknowledged key _ _
  -- a delivery
  · refine .keeps rfl (by simp) fun key => ?_
    split
    · exact Nat.le_refl _
    · rw [weight_claiming]
      exact Nat.zero_le _
  · exact .drops rfl (by simp) fun key => weight_claiming key _
  · rename_i d
    refine .other _ _ (by simp) fun key => ?_
    show [d.job.key].count key + 0 ≤ if decide (d.job.key = key) = true then 1 else 0
    simp [List.count_singleton]
  · exact .drops rfl (by simp) fun _ => rfl
  · exact .drops rfl (by simp) fun _ => rfl
  · refine .drops (by cases ‹Bool› <;> rfl) (by simp) fun key => ?_
    split
    · exact weight_claiming key _
    · rfl
  · refine .drops (by cases ‹Bool› <;> rfl) (by simp) fun key => ?_
    split
    · exact weight_claiming key _
    · rfl
  · refine .drops rfl (fun ctx limit h => ?_) fun key => weight_record key _ _ _
    exact record_claims_nothing _ _ _ _ _ (Option.some.inj h)
  · exact .drops rfl (by simp) fun key => weight_acknowledged key _ _
  -- no step of the task
  · exact .drops rfl (by simp) fun _ => rfl
  · rename_i hsend
    exact .keeps (sends_of_ne fun d _ => hsend) (by simp) fun _ => Nat.le_refl _
  · exact .keeps rfl (by simp) fun _ => Nat.le_refl _
  · exact .drops (sends_of_ne fun _ _ => by simp) (by simp) fun _ => rfl
  · have hready := ‹∀ d, stage = .ready d → False›
    exact .keeps (sends_of_ne fun d hstage => (hready d hstage).elim) (by simp) fun _ => Nat.le_refl _

/-! ## Over runs -/

/-- `randomUUID` and `gen_random_uuid` never generate a value twice. -/
def FreshStep (policy : DeliveryRetryPolicy) (redact : String → String) (p : DeliveryPool)
    (a : DeliveryAction) : Prop := ∀ x ∈ statement policy redact p a, Fresh p.shared.outbox x

instance (p : DeliveryPool) (a : DeliveryAction) : Decidable (FreshStep policy redact p a) :=
  inferInstanceAs (Decidable (∀ x ∈ statement policy redact p a, Fresh p.shared.outbox x))

/-- The jobs whose attempts a step resets. -/
def resets (policy : DeliveryRetryPolicy) (redact : String → String) (p : DeliveryPool)
    (a : DeliveryAction) : List JobKey :=
  match statement policy redact p a with
  | some (.requeue ch locked scan limit) =>
    (requeued locked scan limit (p.shared.outbox.outbox.tables ch)).map JobRow.key
  | _ => []

/-- A re-queue resets only jobs that no provider was called for, and that no call of the worker may still
    call one for. -/
def ResetsUnsent (policy : DeliveryRetryPolicy) (redact : String → String) (p : DeliveryPool)
    (a : DeliveryAction) : Prop := ∀ key ∈ resets policy redact p a, owed p key = 0

instance (p : DeliveryPool) (a : DeliveryAction) : Decidable (ResetsUnsent policy redact p a) :=
  inferInstanceAs (Decidable (∀ key ∈ resets policy redact p a, owed p key = 0))

def PoolBudgeted (p : DeliveryPool) : Prop := Budgeted p.shared.outbox p.shared.enqueued (owed p)

theorem owed_advance {p : DeliveryPool} {w : ℕ} {t : Worker} (hget : p.tasks[w]? = some t)
    (input : WorkerInput) (key : JobKey) :
    owed (p.advance (workerAdvance policy redact input) w) key + weight key t.stage =
      owed p key + ((sends t.stage input).count key + weight key
        (workerStep policy redact t.instanceId p.shared.outbox t.stage input).2) := by
  obtain ⟨hw, rfl⟩ := List.getElem?_eq_some_iff.mp hget
  rw [Pool.advance_of_get hget]
  unfold owed
  rw [List.countP_set hw]
  have hcalls : (workerAdvance policy redact input p.shared (p.others w) p.tasks[w]).1.calls =
      p.shared.calls ++ sends p.tasks[w].stage input := by
    unfold workerAdvance
    dsimp only
    split <;> rfl
  have hpositive : holds key p.tasks[w].stage = true →
      0 < p.tasks.countP fun t => holds key t.stage := fun h =>
    List.countP_pos_iff.mpr ⟨_, List.getElem_mem hw, h⟩
  rw [hcalls, List.count_append]
  have hnext : (workerAdvance policy redact input p.shared (p.others w) p.tasks[w]).2.stage =
      (workerStep policy redact p.tasks[w].instanceId p.shared.outbox p.tasks[w].stage input).2 := rfl
  rw [hnext]
  unfold weight
  by_cases hheld : holds key p.tasks[w].stage = true
  · have := hpositive hheld
    rw [if_pos hheld]
    omega
  · rw [if_neg hheld]
    omega

theorem workerAdvance_shared {d : DeliveryState} {t : Worker} {input : WorkerInput} {a : OutboxAction}
    (others : List Worker)
    (h : (workerStep policy redact t.instanceId d.outbox t.stage input).1 = some a) :
    (workerAdvance policy redact input d others t).1.outbox =
        outboxStep policy.lease policy.maxAttempts d.outbox a ∧
      (workerAdvance policy redact input d others t).1.enqueued =
        d.enqueued ++ inserts policy.maxAttempts d.outbox a := by
  simp only [workerAdvance, h]
  exact ⟨rfl, rfl⟩

theorem workerAdvance_none {d : DeliveryState} {t : Worker} {input : WorkerInput} (others : List Worker)
    (h : (workerStep policy redact t.instanceId d.outbox t.stage input).1 = none) :
    (workerAdvance policy redact input d others t).1.outbox = d.outbox ∧
      (workerAdvance policy redact input d others t).1.enqueued = d.enqueued := by
  simp only [workerAdvance, h, and_self]

theorem owed_spawn (p : DeliveryPool) (instanceId : String) (call : WorkerCall) :
    owed (p.spawn ⟨instanceId, recoverStale call⟩) = owed p := by
  funext key
  simp [owed, Pool.spawn, recoverStale, holds]

theorem budgeted_work {p : DeliveryPool} (h : PoolBudgeted p) {w : ℕ} {input : WorkerInput}
    (hfresh : FreshStep policy redact p (.work w input))
    (hreset : ResetsUnsent policy redact p (.work w input)) :
    PoolBudgeted (p.advance (workerAdvance policy redact input) w) := by
  cases hget : p.tasks[w]? with
  | none => rwa [Pool.advance_of_none hget]
  | some t =>
    have howed := @owed_advance policy redact p w t hget input
    have hstatement : statement policy redact p (.work w input) =
        (workerStep policy redact t.instanceId p.shared.outbox t.stage input).1 := by
      simp only [statement, hget, Option.bind_some]
    have hmoves := @workerStep_moves p.shared.outbox policy redact
      t.instanceId t.stage input
    unfold PoolBudgeted
    have hshared : (p.advance (workerAdvance policy redact input) w).shared =
        (workerAdvance policy redact input p.shared (p.others w) t).1 := by
      rw [Pool.advance_of_get hget]
    rw [hshared]
    generalize hr : workerStep policy redact t.instanceId p.shared.outbox t.stage input = r
      at howed hstatement hmoves
    cases hmoves with
    | takes ctx remaining job hjob hsends =>
      obtain ⟨houtbox, henqueued⟩ := workerAdvance_shared (p.others w) (congrArg Prod.fst hr)
      have hclaim := @Budgeted.claim policy.lease policy.maxAttempts _ _ _ ctx h
      rw [hjob] at hclaim
      rw [houtbox, henqueued, inserts_of_ne (by simp), List.append_nil]
      refine hclaim.mono fun key => ?_
      have := howed key
      rw [hsends, List.count_nil, Nat.zero_add] at this
      dsimp only at this
      have hweight : weight key (.claimed remaining job) = if job.key = key then 1 else 0 := by
        simp [weight, holds]
      omega
    | finds_none ctx hjob hsends =>
      obtain ⟨houtbox, henqueued⟩ := workerAdvance_shared (p.others w) (congrArg Prod.fst hr)
      have hclaim := @Budgeted.claim policy.lease policy.maxAttempts _ _ _ ctx h
      rw [hjob] at hclaim
      rw [houtbox, henqueued, inserts_of_ne (by simp), List.append_nil]
      refine hclaim.mono fun key => ?_
      have := howed key
      rw [hsends, List.count_nil, Nat.zero_add] at this
      dsimp only at this
      have hweight : weight key .idle = 0 := rfl
      omega
    | other a next hclaim hweight =>
      have hle : ∀ key, owed (p.advance (workerAdvance policy redact input) w) key ≤ owed p key := by
        intro key
        have h₁ := howed key
        have h₂ := hweight key
        dsimp only at h₁
        omega
      cases a with
      | none =>
        obtain ⟨houtbox, henqueued⟩ := workerAdvance_none (p.others w) (congrArg Prod.fst hr)
        rw [houtbox, henqueued]
        exact Budgeted.mono h hle
      | some a =>
        obtain ⟨houtbox, henqueued⟩ := workerAdvance_shared (p.others w) (congrArg Prod.fst hr)
        rw [houtbox, henqueued]
        refine Budgeted.mono (Budgeted.perform h (hfresh a hstatement)
          (fun ctx limit ha => hclaim ctx limit (congrArg some ha)) ?_) hle
        intro ch locked scan limit ha r hr
        refine hreset r.key ?_
        rw [resets, hstatement, ha]
        exact List.mem_map_of_mem hr

/-- **Step lemma.** -/
theorem deliveryStep_budgeted {p : DeliveryPool} (h : PoolBudgeted p) (a : DeliveryAction)
    (hfresh : FreshStep policy redact p a) (hreset : ResetsUnsent policy redact p a) :
    PoolBudgeted (deliveryStep policy redact p a) := by
  cases a with
  | tick elapsed => exact Budgeted.perform h (hfresh _ rfl) (by simp) (by simp)
  | enqueue id owner args => exact Budgeted.perform h (hfresh _ rfl) (by simp) (by simp)
  | runOnce instanceId batchSize =>
    unfold PoolBudgeted deliveryStep
    rw [owed_spawn]
    exact h
  | runMaintenance instanceId delivered failed =>
    unfold PoolBudgeted deliveryStep
    rw [owed_spawn]
    exact h
  | work w input => exact budgeted_work h hfresh hreset

theorem Started.budgeted {p : DeliveryPool} (h : Started p) : PoolBudgeted p where
  ok := initial_ok h.outbox
  known ch r hr := by simp [h.outbox.tables] at hr
  counted ch r hr := by simp [h.outbox.tables] at hr
  budget e he := by simp [h.enqueued] at he
  spent key hkey := by simp [owed, h.calls, h.tasks] at hkey
  ids e he := by simp [h.enqueued] at he
  bound e he := by simp [h.enqueued] at he

/-- **Bounded attempts.** In every run of `runOnce` and `runMaintenance` calls, with any providers, clock
    and crashes, in which a re-queue never resets a job that was sent or may still be sent under a claim,
    no job is sent more often than its `max_attempts`. -/
theorem attempts_bounded (policy : DeliveryRetryPolicy) (redact : String → String) {p t : DeliveryPool}
    (hp : Started p) {as : List DeliveryAction}
    (hfresh : Runs.Meets (deliveryStep policy redact) (FreshStep policy redact) p as)
    (hreset : Runs.Meets (deliveryStep policy redact) (ResetsUnsent policy redact) p as)
    (ht : Runs.Reached (deliveryStep policy redact) p as t) :
    ∀ e ∈ t.shared.enqueued, t.shared.calls.count e.1 ≤ e.2 := by
  have hstep : ∀ p a, PoolBudgeted p → FreshStep policy redact p a ∧ ResetsUnsent policy redact p a →
      PoolBudgeted (deliveryStep policy redact p a) := fun p a h hok =>
    deliveryStep_budgeted h a hok.1 hok.2
  have hbudgeted : PoolBudgeted t :=
    Runs.inv_of_reached _ hstep hp.budgeted (Runs.meets_and _ hfresh hreset) ht
  exact fun e he => (Nat.le_add_right _ _).trans (hbudgeted.bound e he)

/-! ## A login the mail server refuses -/

def samplePolicy : DeliveryRetryPolicy := ⟨5, 30000, 3600000, 0, 120000, 25⟩

def emptyPool : DeliveryPool := ⟨⟨emptyOutbox, [], []⟩, []⟩

theorem emptyPool_started : Started emptyPool := ⟨emptyOutbox_initial, rfl, rfl, rfl⟩

/-- The steps of call `w` up to its claim: recovery and one re-queue. -/
def sampleBeforeClaim (w : ℕ) : List DeliveryAction :=
  [.work w (.recover .email), .work w (.recover .email), .work w (.recover .webhook),
    .work w (.recover .webhook), .work w (.recover .push), .work w (.recover .push),
    .work w (.configured [.email]), .work w (.requeue (fun _ => false) ⟨id, fun l => List.Perm.refl l⟩)]

/-- A claim and an attempt; the SMTP server refuses the credentials. -/
def sampleRefusedLogin (w : ℕ) (ctx : ClaimContext) : List DeliveryAction :=
  [.work w (.claim ctx), .work w (.provider (some ⟨"smtp", true⟩)), .work w .renew, .work w .send,
    .work w (.answer (smtpFailure ⟨"EAUTH", .number 535, "Error: Invalid login"⟩ "Error: Invalid login")),
    .work w .record]

/-- A job with one attempt, and the call that makes it. -/
def sampleAttempt : List DeliveryAction :=
  .enqueue (idOf 2) sampleOwner { sampleArgs 4 'b' with maxAttempts := some 1 } ::
    .runOnce "worker" (some 1) :: (sampleBeforeClaim 0 ++ sampleRefusedLogin 0 sampleContext)

/-- The uuids of a second claim. -/
def laterContext : ClaimContext where
  workerId := "worker"
  locked := fun _ _ => false
  scan := ⟨id, fun l => List.Perm.refl l⟩
  uuid := fun second ch =>
    match second, ch with
    | false, .email => idOf 14
    | false, .webhook => idOf 15
    | false, .push => idOf 0
    | true, .email => idOf 3
    | true, .webhook => idOf 5
    | true, .push => idOf 6

/-- A second call of the worker follows. -/
def sampleSecondAttempt : List DeliveryAction :=
  sampleAttempt ++ .runOnce "worker" (some 1) :: (sampleBeforeClaim 1 ++ sampleRefusedLogin 1 laterContext)

/-- The job is sent twice although it may be attempted once. -/
theorem refused_login_resets_attempts :
    Started emptyPool ∧
      Runs.Meets (deliveryStep samplePolicy id) (FreshStep samplePolicy id) emptyPool sampleSecondAttempt ∧
      (Runs.run (deliveryStep samplePolicy id) emptyPool sampleSecondAttempt).shared.enqueued =
        [((.email, idOf 2), 1)] ∧
      (Runs.run (deliveryStep samplePolicy id) emptyPool sampleSecondAttempt).shared.calls =
        [(.email, idOf 2), (.email, idOf 2)] := by
  refine ⟨emptyPool_started, ?_⟩
  decide +kernel

/-- The first call alone. -/
theorem attempts_bounded_first_call :
    (Runs.run (deliveryStep samplePolicy id) emptyPool sampleAttempt).shared.enqueued ≠ [] ∧
    ∀ e ∈ (Runs.run (deliveryStep samplePolicy id) emptyPool sampleAttempt).shared.enqueued,
      (Runs.run (deliveryStep samplePolicy id) emptyPool sampleAttempt).shared.calls.count e.1 ≤ e.2 :=
  ⟨by decide +kernel, attempts_bounded samplePolicy id emptyPool_started
    (show Runs.Meets _ (FreshStep samplePolicy id) emptyPool sampleAttempt by decide +kernel)
    (show Runs.Meets _ (ResetsUnsent samplePolicy id) emptyPool sampleAttempt by decide +kernel)
    (Runs.reached_last _ _ _)⟩

end VeltrixEye.Notifications
