import VeltrixEye.Lib.SmallUuid
import VeltrixEye.Notifications.Steps

/-!
# The fenced outbox

* `RowOk` — a row holds a token and a lease exactly while it is processing, and a pending row has budget.
* `Spent` — a token that was issued and no longer holds the row never holds it again.
-/

namespace VeltrixEye.Notifications

/-- What every row satisfies. -/
structure RowOk (r : JobRow) : Prop where
  token : r.lockedBy.isSome = true ↔ r.status = .processing
  lease : r.lockedAt.isSome = r.lockedBy.isSome
  bound : r.attempts ≤ r.maxAttempts
  positive : 1 ≤ r.maxAttempts
  pending : r.status = .pending → r.attempts < r.maxAttempts

/-- What every reachable state satisfies. -/
structure OutboxOk (s : OutboxState) : Prop where
  ids : ∀ ch, ((s.outbox.tables ch).map (·.id)).Nodup
  rows : ∀ ch, ∀ r ∈ s.outbox.tables ch, RowOk r
  channels : ∀ ch, ∀ r ∈ s.outbox.tables ch, r.channel = ch
  tokens : ∀ ch, ∀ r ∈ s.outbox.tables ch, ∀ token, r.lockedBy = some token →
    token.claim ∈ s.generated

variable {lease maxAttempts now : ℕ} {o o' : Outbox} {ch : NotificationChannel}

/-! ## Rows -/

theorem owned_iff {jobId : Uuid} {token : OwnerToken} {r : JobRow} :
    owned lease now jobId token r = true ↔
      r.id = jobId ∧ r.status = .processing ∧ r.lockedBy = some token ∧ leaseLive lease now r = true := by
  simp only [owned, Bool.and_eq_true, decide_eq_true_eq, and_assoc]

theorem stale_iff {r : JobRow} :
    stale lease now r = true ↔ r.status = .processing ∧ leaseExpired lease now r = true := by
  simp only [stale, Bool.and_eq_true, decide_eq_true_eq]

theorem RowChange.rowOk {c : Cause} {r r' : JobRow} (h : RowChange lease now c r r') (hok : RowOk r) :
    RowOk r' := by
  cases h with
  | claim token _ hpending hbudget =>
    exact ⟨by simp [claimedRow], by simp [claimedRow], hbudget, hok.positive, by simp [claimedRow]⟩
  | renew token _ howned =>
    obtain ⟨-, hstatus, htoken, -⟩ := owned_iff.mp howned
    exact ⟨hok.token, by simp [htoken], hok.bound, hok.positive, hok.pending⟩
  | deliver =>
    exact ⟨by simp [deliveredRow, JobRow.unlocked], rfl, hok.bound, hok.positive,
      by simp [deliveredRow]⟩
  | retry token delayMs result _ howned hbudget =>
    exact ⟨by simp [retriedRow, JobRow.unlocked], rfl, hok.bound, hok.positive, fun _ => hbudget⟩
  | fail =>
    exact ⟨by simp [failedRow, JobRow.unlocked], rfl, hok.bound, hok.positive, by simp [failedRow]⟩
  | unavailable =>
    exact ⟨by simp [unavailableRow, JobRow.unlocked], rfl, hok.bound, hok.positive,
      by simp [unavailableRow]⟩
  | recover _ _ hstale hbudget hrow =>
    subst hrow
    exact ⟨by simp [JobRow.unlocked], rfl, hok.bound, hok.positive, fun _ => hbudget⟩
  | deadLetter _ _ hstale hbudget hrow =>
    subst hrow
    exact ⟨by simp [JobRow.unlocked], rfl, hok.bound, hok.positive, by simp⟩
  | requeue _ _ hstatus hrow =>
    subst hrow
    exact ⟨by simp [JobRow.unlocked], rfl, Nat.zero_le _, hok.positive, fun _ => hok.positive⟩

theorem RowChange.channel {c : Cause} {r r' : JobRow} (h : RowChange lease now c r r') :
    r'.channel = r.channel := by
  cases h with
  | recover _ _ _ _ hrow => rw [hrow]; rfl
  | deadLetter _ _ _ _ hrow => rw [hrow]; rfl
  | requeue _ _ _ hrow => rw [hrow]; rfl
  | _ => rfl

theorem RowChange.lockedBy {c : Cause} {r r' : JobRow} (h : RowChange lease now c r r')
    {token : OwnerToken} (htoken : r'.lockedBy = some token) :
    r.lockedBy = some token ∨ c = .claim token := by
  cases h with
  | claim issued => exact .inr (congrArg _ (Option.some.inj htoken))
  | renew => exact .inl htoken
  | recover _ _ _ _ hrow => rw [hrow] at htoken; cases htoken
  | deadLetter _ _ _ _ hrow => rw [hrow] at htoken; cases htoken
  | requeue _ _ _ hrow => rw [hrow] at htoken; cases htoken
  | _ => cases htoken

theorem RowChange.not_terminal {c : Cause} {r r' : JobRow} (h : RowChange lease now c r r') :
    r.status ≠ .delivered ∧ r.status ≠ .failed := by
  have processing : r.status = .processing → r.status ≠ .delivered ∧ r.status ≠ .failed := by
    intro hstatus
    simp [hstatus]
  cases h with
  | claim _ _ hpending => simp [hpending]
  | renew _ _ howned => exact processing (owned_iff.mp howned).2.1
  | deliver _ _ _ howned => exact processing (owned_iff.mp howned).2.1
  | retry _ _ _ _ howned => exact processing (owned_iff.mp howned).2.1
  | fail _ _ _ howned => exact processing (owned_iff.mp howned).2.1
  | unavailable _ _ _ howned => exact processing (owned_iff.mp howned).2.1
  | recover _ _ hstale => exact processing (stale_iff.mp hstale).1
  | deadLetter _ _ hstale => exact processing (stale_iff.mp hstale).1
  | requeue _ _ hstatus => simp [hstatus]

theorem RowOk.acknowledgeable_or_stale {r : JobRow} (hok : RowOk r) (hstatus : r.status = .processing)
    (lease now : ℕ) : ∃ token, r.lockedBy = some token ∧
      owned lease now r.id token r = !stale lease now r := by
  obtain ⟨token, htoken⟩ := Option.isSome_iff_exists.mp (hok.token.mpr hstatus)
  have hlease : r.lockedAt.isSome = true := by rw [hok.lease, htoken]; rfl
  obtain ⟨lockedAt, hlocked⟩ := Option.isSome_iff_exists.mp hlease
  refine ⟨token, htoken, ?_⟩
  simp only [owned, stale, hstatus, htoken, leaseLive, leaseExpired, hlocked, Option.any_some,
    decide_true, Bool.true_and]
  rw [← decide_not, decide_eq_decide]
  omega

/-! ## Steps -/

theorem outboxAfter_row (hids : ∀ ch, ((o.tables ch).map (·.id)).Nodup) (a : OutboxAction)
    {r' : JobRow} (hr' : r' ∈ (outboxAfter lease maxAttempts now o a).tables ch) :
    r' ∈ o.tables ch ∨
      (∃ r ∈ o.tables ch, ∃ c, a.causes c ∧ RowChange lease now c r r') ∨
      ∃ id owner args, a = .enqueue id owner args ∧ args.channel = ch ∧
        Inserted maxAttempts now o (outboxAfter lease maxAttempts now o a) id owner args r' := by
  rcases @outboxAfter_cases lease maxAttempts now o hids a with
    hchanges | ⟨id, owner, args, row, ha, hinserted⟩ | ⟨ch', -, p, hout, -⟩
  · obtain ⟨g, hg, hrow⟩ := hchanges ch
    rw [hg] at hr'
    obtain ⟨r, hr, rfl⟩ := List.mem_map.mp hr'
    rcases hrow r hr with hsame | ⟨c, hc, hchange⟩
    · exact .inl (hsame.symm ▸ hr)
    · exact .inr (.inl ⟨r, hr, c, hc, hchange⟩)
  · rw [hinserted.outbox] at hr'
    by_cases hch : ch = args.channel
    · subst hch
      rw [Outbox.setTable_self, List.mem_append, List.mem_singleton] at hr'
      rcases hr' with hr' | rfl
      · exact .inl hr'
      · exact .inr (.inr ⟨id, owner, args, ha, rfl, hinserted⟩)
    · rw [Outbox.setTable_other _ _ hch] at hr'
      exact .inl hr'
  · rw [hout] at hr'
    by_cases hch : ch = ch'
    · subst hch
      rw [Outbox.setTable_self] at hr'
      exact .inl (List.mem_of_mem_filter hr')
    · rw [Outbox.setTable_other _ _ hch] at hr'
      exact .inl hr'

theorem outboxAfter_ids (hids : ∀ ch, ((o.tables ch).map (·.id)).Nodup) (a : OutboxAction) :
    ∀ ch, (((outboxAfter lease maxAttempts now o a).tables ch).map (·.id)).Nodup := by
  intro ch
  rcases @outboxAfter_cases lease maxAttempts now o hids a with
    hchanges | ⟨id, owner, args, row, -, hinserted⟩ | ⟨ch', -, p, hout, -⟩
  · exact hchanges.nodup hids ch
  · rw [hinserted.outbox]
    by_cases hch : ch = args.channel
    · subst hch
      rw [Outbox.setTable_self]
      obtain ⟨recipient, hrow⟩ := hinserted.columns
      refine Rows.nodup_map_concat (hids _) fun r hr => ?_
      rw [hrow]
      exact (hinserted.fresh r hr).2.2
    · rw [Outbox.setTable_other _ _ hch]
      exact hids ch
  · rw [hout]
    by_cases hch : ch = ch'
    · subst hch
      rw [Outbox.setTable_self]
      exact (hids ch).sublist (List.filter_sublist.map _)
    · rw [Outbox.setTable_other _ _ hch]
      exact hids ch

theorem Inserted.rowOk {id : Uuid} {owner : EnqueueOwner} {args : EnqueueAlertNotificationArgs}
    {row : JobRow} (h : Inserted maxAttempts now o o' id owner args row) :
    RowOk row ∧ row.channel = args.channel ∧ row.lockedBy = none := by
  obtain ⟨recipient, hrow⟩ := h.columns
  have haccepted := h.accepted
  subst hrow
  simp only [insertable, Bool.and_eq_true, decide_eq_true_eq] at haccepted
  have hpositive := haccepted.1.2
  exact ⟨⟨by simp [freshRow], rfl, Nat.zero_le _, hpositive, fun _ => hpositive⟩, rfl, rfl⟩

theorem causes_claim {a : OutboxAction} {token : OwnerToken} (h : a.causes (.claim token)) :
    token.claim ∈ a.generates := by
  cases a with
  | claim ctx limit =>
    obtain ⟨token', htoken, -, hmem⟩ := h
    cases htoken
    exact hmem
  | _ => cases h

/-- **Step lemma.** -/
theorem outboxStep_ok (s : OutboxState) (a : OutboxAction) (h : OutboxOk s) :
    OutboxOk (outboxStep lease maxAttempts s a) where
  ids := outboxAfter_ids h.ids a
  rows := by
    intro ch r' hr'
    rcases outboxAfter_row h.ids a hr' with hr | ⟨r, hr, c, -, hchange⟩ | ⟨_, _, _, -, -, hinserted⟩
    · exact h.rows ch r' hr
    · exact hchange.rowOk (h.rows ch r hr)
    · exact hinserted.rowOk.1
  channels := by
    intro ch r' hr'
    rcases outboxAfter_row h.ids a hr' with hr | ⟨r, hr, c, -, hchange⟩ | ⟨_, _, _, -, hch, hinserted⟩
    · exact h.channels ch r' hr
    · exact hchange.channel.trans (h.channels ch r hr)
    · exact hinserted.rowOk.2.1.trans hch
  tokens := by
    intro ch r' hr' token htoken
    show token.claim ∈ s.generated ++ a.generates
    rcases outboxAfter_row h.ids a hr' with hr | ⟨r, hr, c, hc, hchange⟩ | ⟨_, _, _, -, -, hinserted⟩
    · exact List.mem_append_left _ (h.tokens ch r' hr token htoken)
    · rcases hchange.lockedBy htoken with hold | rfl
      · exact List.mem_append_left _ (h.tokens ch r hr token hold)
      · exact List.mem_append_right _ (causes_claim hc)
    · rw [hinserted.rowOk.2.2] at htoken
      cases htoken

theorem initial_ok {s : OutboxState} (h : Initial s) : OutboxOk s where
  ids ch := by simp [h.tables]
  rows ch := by simp [h.tables]
  channels ch := by simp [h.tables]
  tokens ch := by simp [h.tables]

theorem ok_of_reached {s t : OutboxState} (hs : Initial s) {as : List OutboxAction}
    (ht : Runs.Reached (outboxStep lease maxAttempts) s as t) : OutboxOk t :=
  Runs.inv_of_reached_always _ outboxStep_ok (initial_ok hs) ht

/-! ## Tokens -/

/-- The job and the token a caller names. -/
def OutboxAction.target : OutboxAction → Option (NotificationChannel × Uuid × OwnerToken)
  | .renew ch jobId token => some (ch, jobId, token)
  | .deliver ch jobId token _ => some (ch, jobId, token)
  | .retry ch jobId token _ _ => some (ch, jobId, token)
  | .fail ch jobId token _ => some (ch, jobId, token)
  | .unavailable ch jobId token _ => some (ch, jobId, token)
  | _ => none

/-- The job and the token of an acknowledgement. -/
def OutboxAction.acknowledges : OutboxAction → Option (NotificationChannel × Uuid × OwnerToken)
  | .renew _ _ _ => none
  | a => a.target

theorem acknowledges_target {a : OutboxAction} {t : NotificationChannel × Uuid × OwnerToken}
    (h : a.acknowledges = some t) : a.target = some t := by
  cases a with
  | renew => cases h
  | _ => exact h

/-- The token does not hold the job. -/
def Unheld (o : Outbox) (ch : NotificationChannel) (jobId : Uuid) (token : OwnerToken) : Prop :=
  ∀ r ∈ o.tables ch, r.id = jobId → r.lockedBy ≠ some token

/-- The token was issued and does not hold the job. -/
def Spent (s : OutboxState) (ch : NotificationChannel) (jobId : Uuid) (token : OwnerToken) : Prop :=
  token.claim ∈ s.generated ∧ Unheld s.outbox ch jobId token

theorem update_unmatched {p : JobRow → Bool} {f : JobRow → JobRow}
    (h : ∀ r ∈ o.tables ch, p r = false) : (o.update ch p f).1 = o := by
  have hmap : (o.tables ch).map (fun r => if p r then f r else r) = o.tables ch := by
    conv_rhs => rw [← List.map_id (o.tables ch)]
    refine List.map_congr_left fun r hr => ?_
    simp [h r hr]
  simp [Outbox.update, updateWhere, Outbox.setTable, hmap]

theorem acknowledge_unmatched {p : JobRow → Bool} {f : JobRow → JobRow} {result : AttemptResult}
    (h : ∀ r ∈ o.tables ch, p r = false) : (acknowledge ch p result f o).1 = o := by
  unfold acknowledge
  split
  · exact update_unmatched h
  · rfl

theorem outboxAfter_unheld {a : OutboxAction} {jobId : Uuid} {token : OwnerToken}
    (ha : a.target = some (ch, jobId, token)) (h : Unheld o ch jobId token) :
    outboxAfter lease maxAttempts now o a = o := by
  have unowned : ∀ r ∈ o.tables ch, owned lease now jobId token r = false := by
    intro r hr
    cases howned : owned lease now jobId token r with
    | false => rfl
    | true =>
      obtain ⟨hid, -, htoken, -⟩ := owned_iff.mp howned
      exact absurd htoken (h r hr hid)
  cases a with
  | renew => cases ha; exact update_unmatched unowned
  | deliver => cases ha; exact acknowledge_unmatched unowned
  | retry =>
    cases ha
    exact acknowledge_unmatched fun r hr => by rw [unowned r hr, Bool.false_and]
  | fail => cases ha; exact acknowledge_unmatched unowned
  | unavailable => cases ha; exact acknowledge_unmatched unowned
  | _ => cases ha

theorem acknowledge_unlocks {p : JobRow → Bool} {f : JobRow → JobRow} {result : AttemptResult}
    {jobId : Uuid} {token : OwnerToken} (hids : ((o.tables ch).map (·.id)).Nodup)
    (hp : ∀ r, p r = true → owned lease now jobId token r = true) (hf : ∀ r, (f r).lockedBy = none)
    (hchanged : (acknowledge ch p result f o).1 ≠ o) :
    Unheld (acknowledge ch p result f o).1 ch jobId token := by
  unfold acknowledge at hchanged ⊢
  split at hchanged
  · rename_i hrecordable
    rw [if_pos hrecordable]
    have hmatch : ∃ r ∈ o.tables ch, p r = true := by
      by_contra hnone
      push Not at hnone
      exact hchanged (update_unmatched fun r hr => by simpa using hnone r hr)
    obtain ⟨r₀, hr₀, hp₀⟩ := hmatch
    intro r' hr' hid
    simp only [Outbox.update, updateWhere, Outbox.setTable_self] at hr'
    obtain ⟨r, hr, rfl⟩ := List.mem_map.mp hr'
    by_cases hpr : p r = true
    · simp [hpr, hf]
    · -- the row of the job is the one that matched
      exfalso
      rw [if_neg hpr] at hid
      have hsame : r = r₀ := Rows.eq_of_key hids hr hr₀ (hid.trans (owned_id (hp r₀ hp₀)).symm)
      exact hpr (hsame ▸ hp₀)
  · exact absurd rfl hchanged

theorem outboxAfter_unlocks {a : OutboxAction} {jobId : Uuid} {token : OwnerToken}
    (hids : ((o.tables ch).map (·.id)).Nodup) (ha : a.acknowledges = some (ch, jobId, token))
    (hchanged : outboxAfter lease maxAttempts now o a ≠ o) :
    Unheld (outboxAfter lease maxAttempts now o a) ch jobId token := by
  cases a with
  | deliver => cases ha; exact acknowledge_unlocks hids (fun _ h => h) (fun _ => rfl) hchanged
  | retry =>
    cases ha
    exact acknowledge_unlocks hids (fun r h => (Bool.and_eq_true _ _ ▸ h).1) (fun _ => rfl) hchanged
  | fail => cases ha; exact acknowledge_unlocks hids (fun _ h => h) (fun _ => rfl) hchanged
  | unavailable => cases ha; exact acknowledge_unlocks hids (fun _ h => h) (fun _ => rfl) hchanged
  | _ => cases ha

theorem outboxStep_spent {s : OutboxState} {a : OutboxAction} {jobId : Uuid} {token : OwnerToken}
    (hids : ∀ ch, ((s.outbox.tables ch).map (·.id)).Nodup) (hfresh : Fresh s a)
    (h : Spent s ch jobId token) : Spent (outboxStep lease maxAttempts s a) ch jobId token := by
  refine ⟨List.mem_append_left _ h.1, ?_⟩
  intro r' hr' hid htoken
  rcases outboxAfter_row hids a hr' with hr | ⟨r, hr, c, hc, hchange⟩ | ⟨_, _, _, -, -, hinserted⟩
  · exact h.2 r' hr hid htoken
  · rcases hchange.lockedBy htoken with hold | rfl
    · exact h.2 r hr (hchange.id ▸ hid) hold
    · exact hfresh.2 _ (causes_claim hc) h.1
  · rw [hinserted.rowOk.2.2] at htoken
    cases htoken

theorem run_spent {s : OutboxState} {as : List OutboxAction} {jobId : Uuid} {token : OwnerToken}
    (hok : OutboxOk s) (hfresh : Runs.Meets (outboxStep lease maxAttempts) Fresh s as)
    (h : Spent s ch jobId token) :
    Spent (Runs.run (outboxStep lease maxAttempts) s as) ch jobId token := by
  have hstep : ∀ s a, (OutboxOk s ∧ Spent s ch jobId token) → Fresh s a →
      OutboxOk (outboxStep lease maxAttempts s a) ∧
        Spent (outboxStep lease maxAttempts s a) ch jobId token := fun s a h hfresh =>
    ⟨outboxStep_ok s a h.1, outboxStep_spent h.1.ids hfresh h.2⟩
  exact (Runs.inv_run _ hstep ⟨hok, h⟩ hfresh).2

/-! ## Over runs -/

/-- What a row of a reachable state satisfies. -/
structure RowFenced (lease now : ℕ) (r : JobRow) : Prop where
  token : r.lockedBy.isSome = true ↔ r.status = .processing
  claimable : r.status = .pending → r.attempts < r.maxAttempts
  lease : r.status = .processing → ∃ token, r.lockedBy = some token ∧
    owned lease now r.id token r = !stale lease now r

theorem RowOk.fenced {r : JobRow} (h : RowOk r) (lease now : ℕ) : RowFenced lease now r where
  token := h.token
  claimable := h.pending
  lease hstatus := h.acknowledgeable_or_stale hstatus lease now

/-- What a step does to the rows that were there: terminal rows stay as they are or are deleted by
    cleanup, and no other row is deleted. -/
structure StepFenced (a : OutboxAction) (o o' : Outbox) : Prop where
  terminal : ∀ ch, ∀ r ∈ o.tables ch, r.status = .delivered ∨ r.status = .failed →
    r ∈ o'.tables ch ∨ (a.deletesFrom = some ch ∧ ∀ r' ∈ o'.tables ch, r'.id ≠ r.id)
  kept : ∀ ch, ∀ r ∈ o.tables ch, r.status ≠ .delivered → r.status ≠ .failed →
    ∃ r' ∈ o'.tables ch, r'.id = r.id

theorem stepFenced (hids : ∀ ch, ((o.tables ch).map (·.id)).Nodup) (a : OutboxAction) :
    StepFenced a o (outboxAfter lease maxAttempts now o a) := by
  rcases @outboxAfter_cases lease maxAttempts now o hids a with
    hchanges | ⟨id, owner, args, row, -, hinserted⟩ | ⟨ch', hdeletes, p, hout, hdeleted⟩
  · refine ⟨fun ch r hr hterminal => .inl ?_, fun ch r hr _ _ => ?_⟩
    · obtain ⟨g, hg, hrow⟩ := hchanges ch
      rw [hg]
      rcases hrow r hr with hsame | ⟨c, -, hchange⟩
      · exact List.mem_map.mpr ⟨r, hr, hsame⟩
      · exact absurd hterminal (not_or.mpr hchange.not_terminal)
    · obtain ⟨g, hg, hrow⟩ := hchanges ch
      refine ⟨g r, hg ▸ List.mem_map_of_mem hr, ?_⟩
      rcases hrow r hr with hsame | ⟨c, -, hchange⟩
      · rw [hsame]
      · exact hchange.id
  · have kept : ∀ ch, ∀ r ∈ o.tables ch,
        r ∈ (outboxAfter lease maxAttempts now o a).tables ch := by
      intro ch r hr
      rw [hinserted.outbox]
      by_cases hch : ch = args.channel
      · subst hch
        rw [Outbox.setTable_self]
        exact List.mem_append_left _ hr
      · rw [Outbox.setTable_other _ _ hch]
        exact hr
    exact ⟨fun ch r hr _ => .inl (kept ch r hr), fun ch r hr _ _ => ⟨r, kept ch r hr, rfl⟩⟩
  · have stays : ∀ ch, ∀ r ∈ o.tables ch, (ch = ch' → p r = true) →
        r ∈ (outboxAfter lease maxAttempts now o a).tables ch := by
      intro ch r hr hp
      rw [hout]
      by_cases hch : ch = ch'
      · subst hch
        rw [Outbox.setTable_self]
        exact List.mem_filter.mpr ⟨hr, hp rfl⟩
      · rw [Outbox.setTable_other _ _ hch]
        exact hr
    refine ⟨fun ch r hr _ => ?_, fun ch r hr hdelivered hfailed => ⟨r, stays ch r hr ?_, rfl⟩⟩
    · by_cases hp : ch = ch' → p r = true
      · exact .inl (stays ch r hr hp)
      · push Not at hp
        obtain ⟨rfl, hp⟩ := hp
        refine .inr ⟨hdeletes, fun r' hr' hid => ?_⟩
        rw [hout, Outbox.setTable_self, List.mem_filter] at hr'
        have hsame : r' = r := Rows.eq_of_key (hids ch) hr'.1 hr hid
        exact hp (hsame ▸ hr'.2)
    · rintro rfl
      by_contra hp
      exact (hdeleted r hr (by simpa using hp)).elim hdelivered hfailed

/-- **Fenced outbox.** In every run of statements by any callers, with any clock and uuids that are never
    generated twice: a row holds a token exactly while it is processing, a pending row has budget, and a
    processing row is acknowledgeable by its own token or recoverable, never both; terminal rows change
    only by deletion, and no other row is deleted; a token that no longer holds the job it was issued for
    changes nothing, and it acknowledges at most one outcome of that job. -/
theorem outbox_fenced (lease maxAttempts : ℕ) {s : OutboxState} (hs : Initial s)
    {as : List OutboxAction} (hfresh : Runs.Meets (outboxStep lease maxAttempts) Fresh s as) :
    (∀ t, Runs.Reached (outboxStep lease maxAttempts) s as t →
      ∀ ch, ∀ r ∈ t.outbox.tables ch, RowFenced lease t.now r) ∧
    (∀ pre a, pre ++ [a] <+: as →
      StepFenced a (Runs.run (outboxStep lease maxAttempts) s pre).outbox
        (Runs.run (outboxStep lease maxAttempts) s (pre ++ [a])).outbox) ∧
    (∀ pre mid a ch jobId token, pre ++ mid ++ [a] <+: as →
      Spent (Runs.run (outboxStep lease maxAttempts) s pre) ch jobId token →
      a.target = some (ch, jobId, token) →
      (Runs.run (outboxStep lease maxAttempts) s (pre ++ mid ++ [a])).outbox =
        (Runs.run (outboxStep lease maxAttempts) s (pre ++ mid)).outbox) ∧
    ∀ pre a mid b ch jobId token, pre ++ [a] ++ mid ++ [b] <+: as →
      a.acknowledges = some (ch, jobId, token) → b.acknowledges = some (ch, jobId, token) →
      (Runs.run (outboxStep lease maxAttempts) s (pre ++ [a])).outbox ≠
        (Runs.run (outboxStep lease maxAttempts) s pre).outbox →
      (Runs.run (outboxStep lease maxAttempts) s (pre ++ [a] ++ mid ++ [b])).outbox =
        (Runs.run (outboxStep lease maxAttempts) s (pre ++ [a] ++ mid)).outbox := by
  have okAt : ∀ pre, pre <+: as → OutboxOk (Runs.run (outboxStep lease maxAttempts) s pre) :=
    fun pre hpre => ok_of_reached hs ⟨pre, hpre, rfl⟩
  have freshOn : ∀ pre mid, pre ++ mid <+: as → Runs.Meets (outboxStep lease maxAttempts) Fresh
      (Runs.run (outboxStep lease maxAttempts) s pre) mid := by
    rintro pre mid ⟨post, rfl⟩
    rw [List.append_assoc, Runs.meets_append] at hfresh
    exact ((Runs.meets_append _ _ _ _ _).mp hfresh.2).1
  have last : ∀ pre a, (Runs.run (outboxStep lease maxAttempts) s (pre ++ [a])).outbox =
      outboxAfter lease maxAttempts (Runs.run (outboxStep lease maxAttempts) s pre).now
        (Runs.run (outboxStep lease maxAttempts) s pre).outbox a := by
    intro pre a
    rw [Runs.run_append]
    rfl
  have prefixOf : ∀ {xs ys : List OutboxAction}, xs ++ ys <+: as → xs <+: as :=
    fun h => (List.prefix_append _ _).trans h
  -- a spent token changes nothing
  have spent : ∀ pre mid a ch jobId token, pre ++ mid ++ [a] <+: as →
      Spent (Runs.run (outboxStep lease maxAttempts) s pre) ch jobId token →
      a.target = some (ch, jobId, token) →
      (Runs.run (outboxStep lease maxAttempts) s (pre ++ mid ++ [a])).outbox =
        (Runs.run (outboxStep lease maxAttempts) s (pre ++ mid)).outbox := by
    intro pre mid a ch jobId token hpre hspent htarget
    rw [last]
    refine outboxAfter_unheld htarget ?_
    rw [Runs.run_append]
    exact (run_spent (okAt pre (prefixOf (prefixOf hpre))) (freshOn pre mid (prefixOf hpre)) hspent).2
  refine ⟨?_, ?_, spent, ?_⟩
  · exact fun t ht ch r hr => ((ok_of_reached hs ht).rows ch r hr).fenced lease t.now
  · intro pre a hpre
    rw [last]
    exact stepFenced (okAt pre (prefixOf hpre)).ids a
  · intro pre a mid b ch jobId token hpre ha hb hchanged
    have hok := okAt pre (prefixOf (prefixOf (prefixOf hpre)))
    refine spent (pre ++ [a]) mid b ch jobId token hpre ⟨?_, ?_⟩ (acknowledges_target hb)
    · -- the token held the job before it acknowledged it
      by_contra hnew
      refine hchanged ?_
      rw [last]
      refine outboxAfter_unheld (acknowledges_target ha) fun r hr _ htoken => hnew ?_
      rw [Runs.run_append]
      exact List.mem_append_left _ (hok.tokens ch r hr token htoken)
    · rw [last] at hchanged ⊢
      exact outboxAfter_unlocks (hok.ids ch) ha hchanged

/-! ## A batch of two jobs under one token -/

theorem normalizeUuid_digit (n : Fin 16) :
    normalizeUuid (printUuid (List.replicate 31 '0' ++ ["0123456789abcdef".toList.getD n '0'])) =
      some (printUuid (List.replicate 31 '0' ++ ["0123456789abcdef".toList.getD n '0'])) :=
  normalizeUuid_ofDigit n

/-- The uuid that ends in a digit. -/
def idOf (n : Fin 16) : Uuid := ⟨_, normalizeUuid_digit n⟩

def sampleOwner : EnqueueOwner := ⟨some "ama@example.com", true⟩

/-- The email job of alert `n`. -/
def sampleArgs (n : Fin 16) (key : Char) : EnqueueAlertNotificationArgs where
  alertId := idOf n
  userId := idOf 1
  channel := .email
  template := "alert.email.v1"
  payload := "payload"
  payloadHash := String.ofList (List.replicate 64 'a')
  idempotencyKey := String.ofList (List.replicate 64 key)
  strategyId := none
  recipient := none
  maxAttempts := none

/-- The tables in insertion order, nothing locked, uuids 8 to 13. -/
def sampleContext : ClaimContext where
  workerId := "worker"
  locked := fun _ _ => false
  scan := ⟨id, fun l => List.Perm.refl l⟩
  uuid := fun second ch =>
    match second, ch with
    | false, .email => idOf 8
    | false, .webhook => idOf 9
    | false, .push => idOf 10
    | true, .email => idOf 11
    | true, .webhook => idOf 12
    | true, .push => idOf 13

def sampleReceipt : AttemptResult := ⟨some "smtp", none, some "250", .none, none⟩

def sampleToken : OwnerToken := ⟨"worker", idOf 8⟩

def emptyOutbox : OutboxState := ⟨⟨fun _ => [], ⟨.webhook, fun _ => 0⟩⟩, 0, []⟩

theorem emptyOutbox_initial : Initial emptyOutbox := ⟨fun _ => rfl, fun _ => rfl, rfl⟩

/-- Two jobs are claimed in one batch and delivered. -/
def sampleBatch : List OutboxAction :=
  [.enqueue (idOf 2) sampleOwner (sampleArgs 4 'b'), .enqueue (idOf 3) sampleOwner (sampleArgs 5 'c'),
    .claim sampleContext 6, .deliver .email (idOf 2) sampleToken sampleReceipt,
    .deliver .email (idOf 3) sampleToken sampleReceipt]

/-- The claim issues one token for both rows, and it acknowledges two outcomes. -/
theorem batch_token_acknowledges_two :
    Initial emptyOutbox ∧ Runs.Meets (outboxStep 120000 5) Fresh emptyOutbox sampleBatch ∧
      ((Runs.run (outboxStep 120000 5) emptyOutbox (sampleBatch.take 3)).outbox.tables .email).map
        (fun r => (r.id, r.lockedBy)) = [(idOf 2, some sampleToken), (idOf 3, some sampleToken)] ∧
      ((Runs.run (outboxStep 120000 5) emptyOutbox (sampleBatch.take 4)).outbox.tables .email).map
        (·.status) = [.delivered, .processing] ∧
      ((Runs.run (outboxStep 120000 5) emptyOutbox sampleBatch).outbox.tables .email).map
        (·.status) = [.delivered, .delivered] := by
  refine ⟨emptyOutbox_initial, ?_⟩
  decide +kernel

/-- The run of that batch. -/
theorem outbox_fenced_batch :
    Runs.Meets (outboxStep 120000 5) Fresh emptyOutbox sampleBatch ∧
    (∀ t, Runs.Reached (outboxStep 120000 5) emptyOutbox sampleBatch t →
      ∀ ch, ∀ r ∈ t.outbox.tables ch, RowFenced 120000 t.now r) := by
  have hfresh : Runs.Meets (outboxStep 120000 5) Fresh emptyOutbox sampleBatch := by decide
  exact ⟨hfresh, (outbox_fenced 120000 5 emptyOutbox_initial hfresh).1⟩

end VeltrixEye.Notifications
