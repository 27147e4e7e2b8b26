import VeltrixEye.Notifications.Preferences
import VeltrixEye.Lib.SmallUuid

/-!
# A signing secret on its way to a provider

Preferences are saved and removed, alerts enqueue jobs for the targets of a user, and the outbox runs its
statements, in any order and with any manager.

* `SecretState`, `secretStep` — the preferences, the outbox and the secret columns of its jobs.
-/

namespace VeltrixEye.Notifications

open Runs

/-! ## The system -/

structure SecretState where
  preferences : List PreferenceRow
  outbox : OutboxState
  /-- The secret columns of the jobs. -/
  secrets : JobKey → SecretColumns

/-- What `generateAlert` passes to `enqueue` and, for each channel, the id and the randomness of the job. -/
structure AlertCall where
  alertId : Uuid
  userId : Uuid
  strategyId : Uuid
  template : String
  payload : String
  payloadHash : String
  idempotencyKey : NotificationChannel → String
  id : NotificationChannel → Uuid
  iv : NotificationChannel → Iv
  owner : EnqueueOwner

/-- The arguments of a target. -/
def AlertCall.args (call : AlertCall) (target : NotificationDeliveryTarget) :
    EnqueueAlertNotificationArgs where
  alertId := call.alertId
  userId := call.userId
  channel := target.channel
  template := call.template
  payload := call.payload
  payloadHash := call.payloadHash
  idempotencyKey := call.idempotencyKey target.channel
  strategyId := some call.strategyId
  recipient := if target.recipient = "" then none else some target.recipient
  maxAttempts := none

inductive AlertFailure where
  | targets (failure : PreferenceFailure)
  | enqueue (failure : EnqueueFailure)

inductive SecretAction where
  | save (checks : PreferenceChecks) (manager : Option SecretManager) (iv : Iv) (id userId : Uuid)
      (input : PreferenceInput)
  | remove (userId : Uuid) (channel : NotificationChannel)
  | alert (manager : Option SecretManager) (ctx : TargetContext) (call : AlertCall)
  | outbox (a : OutboxAction)

section Step

variable (lease maxAttempts : ℕ)

/-- The secret columns of the job of a target; the table of the email jobs has none. -/
def jobColumns (manager : Option SecretManager) (call : AlertCall) (target : NotificationDeliveryTarget) :
    SecretColumns :=
  if target.channel = .email then .empty
  else encryptSecret manager (call.iv target.channel) target.signingSecret

/-- `enqueue` with the secret of a target. -/
def enqueueSecret (manager : Option SecretManager) (call : AlertCall) (target : NotificationDeliveryTarget)
    (s : SecretState) : Except EnqueueFailure (SecretState × JobRow × Bool) :=
  match enqueue s.outbox.now (call.id target.channel) maxAttempts call.owner s.outbox.outbox
      (call.args target) with
  | .error failure => .error failure
  | .ok (_, row, created) =>
    if !(jobColumns manager call target).storable then .error .database
    else
      .ok ({ s with
        outbox := outboxStep lease maxAttempts s.outbox
          (.enqueue (call.id target.channel) call.owner (call.args target))
        secrets :=
          if created then Function.update s.secrets row.key (jobColumns manager call target) else s.secrets },
        row, created)

/-- The loop of `generateAlert`, and the jobs it inserts. -/
def enqueueTargets (manager : Option SecretManager) (call : AlertCall) :
    List NotificationDeliveryTarget → SecretState → Except AlertFailure (SecretState × List JobRow)
  | [], s => .ok (s, [])
  | target :: targets, s =>
    match enqueueSecret lease maxAttempts manager call target s with
    | .error failure => .error (.enqueue failure)
    | .ok (s', row, created) =>
      match enqueueTargets manager call targets s' with
      | .error failure => .error failure
      | .ok (s'', rows) => .ok (s'', if created then row :: rows else rows)

/-- The notifications of an alert, in its transaction. -/
def notifyAlert (manager : Option SecretManager) (ctx : TargetContext) (call : AlertCall) (s : SecretState) :
    Except AlertFailure (SecretState × List JobRow) :=
  match deliveryTargets manager ctx call.userId s.preferences with
  | .error failure => .error (.targets failure)
  | .ok targets => enqueueTargets lease maxAttempts manager call targets s

/-- The secret columns after a statement of the outbox; an `enqueue` without a secret leaves them `NULL`. -/
def secretsAfter (s : SecretState) : OutboxAction → JobKey → SecretColumns
  | .enqueue id owner args =>
    match enqueue s.outbox.now id maxAttempts owner s.outbox.outbox args with
    | .ok (_, row, true) => Function.update s.secrets row.key .empty
    | _ => s.secrets
  | _ => s.secrets

/-- One step; a transaction that fails changes nothing. -/
def secretStep (s : SecretState) : SecretAction → SecretState
  | .save checks manager iv id userId input =>
    match savePreference checks manager iv id userId input s.preferences with
    | .ok preferences => { s with preferences }
    | .error _ => s
  | .remove userId channel => { s with preferences := removePreference userId channel s.preferences }
  | .alert manager ctx call =>
    match notifyAlert lease maxAttempts manager ctx call s with
    | .ok (s', _) => s'
    | .error _ => s
  | .outbox a =>
    { s with
      outbox := outboxStep lease maxAttempts s.outbox a
      secrets := secretsAfter maxAttempts s a }

/-- The action saves the preference of the user and the channel. -/
def SecretAction.Saves (userId : Uuid) (channel : NotificationChannel) : SecretAction → Prop
  | .save _ _ _ _ user input => user = userId ∧ input.channel = channel
  | _ => False

/-- The ids of the jobs an action may insert. -/
def SecretAction.newIds : SecretAction → List Uuid
  | .alert _ _ call => canonical.map call.id
  | .outbox (.enqueue id _ _) => [id]
  | _ => []

/-! ## The saved columns -/

/-- Every preference of the user and the channel has these secret columns. -/
def Holds (userId : Uuid) (channel : NotificationChannel) (columns : SecretColumns)
    (prefs : List PreferenceRow) : Prop :=
  ∀ row ∈ prefs, row.isOf userId channel = true → row.secrets = columns

variable {lease maxAttempts}
variable {userId : Uuid} {channel : NotificationChannel} {columns : SecretColumns}

@[simp] theorem merged_isOf (excluded row : PreferenceRow) :
    (merged excluded row).isOf userId channel = row.isOf userId channel := rfl

theorem upsertRow_other {row : PreferenceRow} {prefs prefs' : List PreferenceRow}
    (hrow : row.isOf userId channel = false) (h : upsertRow row prefs = .ok prefs')
    (hprefs : Holds userId channel columns prefs) : Holds userId channel columns prefs' := by
  have hother : ∀ old : PreferenceRow, old.isOf userId channel = true →
      old.isOf row.userId row.channel = false := by
    intro old hold
    simp only [PreferenceRow.isOf, Bool.and_eq_true, decide_eq_true_eq, Bool.and_eq_false_iff,
      decide_eq_false_iff_not] at hrow hold ⊢
    rw [hold.1, hold.2]
    exact hrow.imp Ne.symm Ne.symm
  unfold upsertRow at h
  split at h
  · cases h
  split at h
  · split at h
    · cases h
      intro row' hrow' hkey
      obtain ⟨old, hold, rfl⟩ := List.mem_map.mp hrow'
      split at hkey
      · rename_i hof
        rw [merged_isOf] at hkey
        rw [hother old hkey] at hof
        cases hof
      · rename_i hof
        rw [if_neg hof]
        exact hprefs old hold hkey
    · cases h
  · cases h
    intro row' hrow' hkey
    rcases List.mem_append.mp hrow' with hold | hnew
    · exact hprefs row' hold hkey
    · rw [List.mem_singleton.mp hnew, hrow] at hkey
      cases hkey

theorem upsertRow_holds {row : PreferenceRow} {prefs prefs' : List PreferenceRow} {encrypted : String}
    {version : ℕ} (hsecrets : row.secrets = ⟨none, some encrypted, some version⟩)
    (h : upsertRow row prefs = .ok prefs') : Holds row.userId row.channel row.secrets prefs' := by
  unfold upsertRow at h
  split at h
  · cases h
  split at h
  · split at h
    · cases h
      intro row' hrow' hkey
      obtain ⟨old, hold, rfl⟩ := List.mem_map.mp hrow'
      split at hkey
      · rename_i hof
        rw [if_pos hof, merged, hsecrets]
        rfl
      · rename_i hof
        exact absurd hkey hof
    · cases h
  · rename_i hnone
    cases h
    intro row' hrow' hkey
    rcases List.mem_append.mp hrow' with hold | hnew
    · exact absurd (List.any_eq_true.mpr ⟨row', hold, hkey⟩) hnone
    · rw [List.mem_singleton.mp hnew]

theorem upsertRow_ok_iff {row : PreferenceRow} {prefs : List PreferenceRow} {encrypted : String}
    {version : ℕ} (hsecrets : row.secrets = ⟨none, some encrypted, some version⟩) :
    (∃ prefs', upsertRow row prefs = .ok prefs') ↔ row.storable = true := by
  unfold upsertRow
  cases hstorable : row.storable with
  | false => simp
  | true =>
    have hmerged : (prefs.filter (·.isOf row.userId row.channel)).all
        (fun old => (merged row old).storable) = true := by
      rw [List.all_eq_true]
      intro old hold
      have hof := (List.mem_filter.mp hold).2
      simp only [PreferenceRow.isOf, Bool.and_eq_true, decide_eq_true_eq] at hof
      have hrow : (merged row old).storable = row.storable := by
        unfold merged PreferenceRow.storable
        rw [hsecrets]
        simp only [hof.2, mergedSecrets, Option.isSome_some, if_true, Option.some_or]
      rw [hrow, hstorable]
    rw [Bool.not_true, if_neg Bool.false_ne_true]
    split
    · simp
    · simp

theorem enqueueSecret_ok {manager : Option SecretManager} {call : AlertCall}
    {target : NotificationDeliveryTarget} {s s' : SecretState} {row : JobRow} {created : Bool}
    (h : enqueueSecret lease maxAttempts manager call target s = .ok (s', row, created)) :
    s'.preferences = s.preferences ∧
      (s'.secrets =
        if created then Function.update s.secrets row.key (jobColumns manager call target) else s.secrets) ∧
      ∃ o, enqueue s.outbox.now (call.id target.channel) maxAttempts call.owner s.outbox.outbox
        (call.args target) = .ok (o, row, created) := by
  unfold enqueueSecret at h
  split at h
  · cases h
  rename_i o row' created' henqueue
  split at h
  · cases h
  · cases h
    exact ⟨rfl, rfl, o, henqueue⟩

theorem enqueueTargets_cons_ok {manager : Option SecretManager} {call : AlertCall}
    {target : NotificationDeliveryTarget} {targets : List NotificationDeliveryTarget}
    {s s' : SecretState} {rows : List JobRow}
    (h : enqueueTargets lease maxAttempts manager call (target :: targets) s = .ok (s', rows)) :
    ∃ s₁ row created rows', enqueueSecret lease maxAttempts manager call target s = .ok (s₁, row, created) ∧
      enqueueTargets lease maxAttempts manager call targets s₁ = .ok (s', rows') ∧
        rows = if created then row :: rows' else rows' := by
  unfold enqueueTargets at h
  split at h
  · cases h
  rename_i s₁ row created hrow
  split at h
  · cases h
  rename_i s₂ rows' hrows
  cases h
  exact ⟨s₁, row, created, rows', hrow, hrows, rfl⟩

theorem enqueueTargets_preferences {manager : Option SecretManager} {call : AlertCall}
    {targets : List NotificationDeliveryTarget} {s s' : SecretState} {rows : List JobRow}
    (h : enqueueTargets lease maxAttempts manager call targets s = .ok (s', rows)) :
    s'.preferences = s.preferences := by
  induction targets generalizing s rows with
  | nil =>
    cases h
    rfl
  | cons target targets ih =>
    obtain ⟨s₁, row, created, rows', hrow, hrows, rfl⟩ := enqueueTargets_cons_ok h
    rw [ih hrows, (enqueueSecret_ok hrow).1]

theorem secretStep_holds {s : SecretState} {a : SecretAction} (ha : ¬ a.Saves userId channel)
    (hs : Holds userId channel columns s.preferences) :
    Holds userId channel columns (secretStep lease maxAttempts s a).preferences := by
  cases a with
  | save checks manager iv id user input =>
    simp only [secretStep]
    split
    · rename_i prefs hsave
      unfold savePreference at hsave
      split at hsave
      · cases hsave
      refine upsertRow_other ?_ hsave hs
      simp only [PreferenceRow.isOf, Bool.and_eq_false_iff, decide_eq_false_iff_not]
      exact not_and_or.mp ha
    · exact hs
  | remove user ch =>
    intro row hrow hkey
    exact hs row (List.mem_filter.mp hrow).1 hkey
  | alert manager ctx call =>
    simp only [secretStep]
    split
    · rename_i s' rows halert
      unfold notifyAlert at halert
      split at halert
      · cases halert
      · rw [enqueueTargets_preferences halert]
        exact hs
    · exact hs
  | outbox a => exact hs

theorem run_holds {s : SecretState} {as : List SecretAction} (has : ∀ a ∈ as, ¬ a.Saves userId channel)
    (hs : Holds userId channel columns s.preferences) :
    Holds userId channel columns (run (secretStep lease maxAttempts) s as).preferences := by
  induction as generalizing s with
  | nil => exact hs
  | cons a as ih =>
    rw [run_cons]
    exact ih (fun b hb => has b (List.mem_cons_of_mem _ hb))
      (secretStep_holds (has a List.mem_cons_self) hs)

/-! ## The columns of a job -/

variable {manager : Option SecretManager} {call : AlertCall} {targets : List NotificationDeliveryTarget}

theorem enqueue_key {now : ℕ} {id : Uuid} {owner : EnqueueOwner} {o o' : Outbox}
    {args : EnqueueAlertNotificationArgs} {row : JobRow}
    (h : enqueue now id maxAttempts owner o args = .ok (o', row, true)) : row.key = (args.channel, id) := by
  rcases enqueue_ok h with ⟨hcreated, -⟩ | ⟨-, hinserted⟩
  · cases hcreated
  · obtain ⟨recipient, rfl⟩ := hinserted.columns
    rfl

theorem enqueueTargets_secrets {s s' : SecretState} {rows : List JobRow}
    (h : enqueueTargets lease maxAttempts manager call targets s = .ok (s', rows)) (k : JobKey) :
    s'.secrets k = s.secrets k ∨
      ∃ t ∈ targets, k = (t.channel, call.id t.channel) ∧ s'.secrets k = jobColumns manager call t := by
  induction targets generalizing s rows with
  | nil =>
    cases h
    exact .inl rfl
  | cons target targets ih =>
    obtain ⟨s₁, row, created, rows', hrow, hrows, rfl⟩ := enqueueTargets_cons_ok h
    obtain ⟨-, hsecrets, o, henqueue⟩ := enqueueSecret_ok hrow
    rcases ih hrows with hsame | ⟨t, ht, hkey, hcolumns⟩
    · cases created with
      | false => exact .inl (hsame.trans (congrFun hsecrets k))
      | true =>
        rw [if_pos rfl, enqueue_key henqueue] at hsecrets
        by_cases hk : k = (target.channel, call.id target.channel)
        · refine .inr ⟨target, List.mem_cons_self, hk, ?_⟩
          rw [hsame, hsecrets, hk]
          exact Function.update_self ..
        · refine .inl ?_
          rw [hsame, hsecrets]
          exact Function.update_of_ne hk ..
    · exact .inr ⟨t, List.mem_cons_of_mem _ ht, hkey, hcolumns⟩

theorem enqueueTargets_singleton {s : SecretState} {target : NotificationDeliveryTarget} {o : Outbox}
    {row : JobRow}
    (h : enqueue s.outbox.now (call.id target.channel) maxAttempts call.owner s.outbox.outbox
      (call.args target) = .ok (o, row, true)) (hcolumns : (jobColumns manager call target).storable = true) :
    enqueueTargets lease maxAttempts manager call [target] s =
      .ok ({ s with
        outbox := outboxStep lease maxAttempts s.outbox
          (.enqueue (call.id target.channel) call.owner (call.args target))
        secrets := Function.update s.secrets row.key (jobColumns manager call target) }, [row]) := by
  simp only [enqueueTargets, enqueueSecret, h, hcolumns, Bool.not_true, Bool.false_eq_true, if_false, if_true]

theorem enqueueTargets_created {s s' : SecretState} {rows : List JobRow}
    (h : enqueueTargets lease maxAttempts manager call targets s = .ok (s', rows)) {job : JobRow}
    (hjob : job ∈ rows) :
    ∃ t ∈ targets, t.channel = job.channel ∧ s'.secrets job.key = jobColumns manager call t := by
  induction targets generalizing s rows with
  | nil =>
    cases h
    cases hjob
  | cons target targets ih =>
    obtain ⟨s₁, row, created, rows', hrow, hrows, rfl⟩ := enqueueTargets_cons_ok h
    have hlater : job ∈ rows' →
        ∃ t ∈ target :: targets, t.channel = job.channel ∧ s'.secrets job.key = jobColumns manager call t :=
      fun hjob =>
        let ⟨t, ht, hchannel, hcolumns⟩ := ih hrows hjob
        ⟨t, List.mem_cons_of_mem _ ht, hchannel, hcolumns⟩
    cases created with
    | false => exact hlater hjob
    | true =>
      rcases List.mem_cons.mp hjob with rfl | hjob
      · obtain ⟨-, hsecrets, o, henqueue⟩ := enqueueSecret_ok hrow
        have hkey := enqueue_key henqueue
        have hchannel : target.channel = job.channel := (congrArg Prod.fst hkey).symm
        -- a later target of the channel would write columns of its own
        rcases enqueueTargets_secrets hrows job.key with hsame | ⟨t, ht, hk, hcolumns⟩
        · refine ⟨target, List.mem_cons_self, hchannel, ?_⟩
          rw [hsame, hsecrets, if_pos rfl]
          exact Function.update_self ..
        · exact ⟨t, List.mem_cons_of_mem _ ht, (congrArg Prod.fst hk).symm, hcolumns⟩
      · exact hlater hjob

theorem secretStep_secrets {s : SecretState} {a : SecretAction} {k : JobKey} (hk : k.2 ∉ a.newIds) :
    (secretStep lease maxAttempts s a).secrets k = s.secrets k := by
  cases a with
  | save checks manager iv id user input =>
    simp only [secretStep]
    split <;> rfl
  | remove user ch => rfl
  | alert manager ctx call =>
    simp only [secretStep]
    split
    · rename_i s' rows halert
      unfold notifyAlert at halert
      split at halert
      · cases halert
      rcases enqueueTargets_secrets halert k with hsame | ⟨t, -, rfl, -⟩
      · exact hsame
      · refine absurd ?_ hk
        exact List.mem_map.mpr ⟨t.channel, by cases t.channel <;> decide, rfl⟩
    · rfl
  | outbox a =>
    cases a with
    | enqueue id owner args =>
      simp only [secretStep, secretsAfter]
      rcases henqueue : enqueue s.outbox.now id maxAttempts owner s.outbox.outbox args with _ | ⟨o, row, created⟩
      · rfl
      cases created with
      | false => rfl
      | true =>
        refine Function.update_of_ne ?_ ..
        rintro rfl
        rw [enqueue_key henqueue] at hk
        exact hk (List.mem_singleton.mpr rfl)
    | _ => rfl

theorem run_secrets {s : SecretState} {as : List SecretAction} {k : JobKey} (has : ∀ a ∈ as, k.2 ∉ a.newIds) :
    (run (secretStep lease maxAttempts) s as).secrets k = s.secrets k := by
  induction as generalizing s with
  | nil => rfl
  | cons a as ih =>
    rw [run_cons, ih fun b hb => has b (List.mem_cons_of_mem _ hb), secretStep_secrets (has a List.mem_cons_self)]

theorem deliveryTargets_secret {ctx : TargetContext} {prefs : List PreferenceRow}
    {target : NotificationDeliveryTarget} (h : deliveryTargets manager ctx userId prefs = .ok targets)
    (htarget : target ∈ targets) (hchannel : target.channel ≠ .email) :
    ∃ row ∈ prefs, row.isOf userId target.channel = true ∧
      target.signingSecret = decryptSecret manager row.secrets := by
  have hrows : target ∈ (((routedRows userId prefs).filter fun row =>
      row.enabled && StrategyRow.allows ctx.route row.channel).map (targetOf manager)).filter
        (fun target => target.channel = .email || target.recipient ≠ "") := by
    unfold deliveryTargets at h
    rw [Except.bind_ok_iff] at h
    obtain ⟨quiet, -, h⟩ := h
    split at h
    · cases h
      cases htarget
    split at h
    · cases h
      cases htarget
    split at h
    · dsimp only at h
      split at h
      · cases h
        rcases List.mem_cons.mp htarget with rfl | htarget
        · exact absurd rfl hchannel
        · exact htarget
      · cases h
        exact htarget
    · cases h
      exact htarget
  obtain ⟨row, hrow, rfl⟩ := List.mem_map.mp (List.mem_filter.mp hrows).1
  obtain ⟨channel, -, hrow⟩ := List.mem_flatMap.mp (List.mem_filter.mp hrow).1
  obtain ⟨hmem, hof⟩ := List.mem_filter.mp hrow
  rw [Bool.and_eq_true] at hof
  have hkey : row.channel = channel := by
    have := hof.1
    simp only [PreferenceRow.isOf, Bool.and_eq_true, decide_eq_true_eq] at this
    exact this.2
  refine ⟨row, hmem, ?_, rfl⟩
  rw [← hkey] at hof
  exact hof.1

end Step

/-! ## From a saved preference to its provider -/

section Journeys

variable (lease maxAttempts : ℕ) (m₂ : SecretManager) (iv : Iv) (userId : Uuid)
  (channel : NotificationChannel)

/-- A run that starts where a preference was saved: an alert of the user inserts a job for the channel, and
    a worker claims it.  `m₂` is the manager of the alert and `iv` the randomness of the job. -/
structure Journey (s : SecretState) where
  before : List SecretAction
  /-- The preference is not saved again before the alert. -/
  spares : ∀ a ∈ before, ¬ a.Saves userId channel
  ctx : TargetContext
  call : AlertCall
  user : call.userId = userId
  randomness : call.iv channel = iv
  targets : List NotificationDeliveryTarget
  finds : deliveryTargets (some m₂) ctx call.userId
    (run (secretStep lease maxAttempts) s before).preferences = .ok targets
  raised : SecretState
  jobs : List JobRow
  enqueues : enqueueTargets lease maxAttempts (some m₂) call targets
    (run (secretStep lease maxAttempts) s before) = .ok (raised, jobs)
  job : JobRow
  inserted : job ∈ jobs
  routed : job.channel = channel
  after : List SecretAction
  /-- No later job is generated with the id of this one. -/
  fresh : ∀ a ∈ after, job.id ∉ a.newIds
  claim : ClaimContext
  claimed : ∃ row,
    (claimBatch (run (secretStep lease maxAttempts) raised after).outbox.now claim 1
      (run (secretStep lease maxAttempts) raised after).outbox.outbox).2.head? = some row ∧ row.key = job.key

variable {lease maxAttempts m₂ iv userId channel}
variable {s : SecretState}

/-- The secret the worker hands to the provider. -/
def Journey.handed (j : Journey lease maxAttempts m₂ iv userId channel s) (m₃ : SecretManager) :
    Option String :=
  deliverySecret (some m₃) ((run (secretStep lease maxAttempts) j.raised j.after).secrets j.job.key)

/-- The secret is the target's and the provider's, and no plaintext column of the preference or of the job
    ever holds one. -/
structure Journey.Delivers (j : Journey lease maxAttempts m₂ iv userId channel s) (m₃ : SecretManager)
    (secret : String) : Prop where
  target : ∀ t ∈ j.targets, t.channel = channel → t.signingSecret = some secret
  handed : j.handed m₃ = some secret
  preferencePlaintext : ∀ t, Reached (secretStep lease maxAttempts) s j.before t →
    ∀ row ∈ t.preferences, row.isOf userId channel = true → row.secrets.signingSecret = none
  jobPlaintext : ∀ t, Reached (secretStep lease maxAttempts) j.raised j.after t →
    (t.secrets j.job.key).signingSecret = none

theorem Journey.columns (j : Journey lease maxAttempts m₂ iv userId channel s) (hchannel : channel ≠ .email)
    {columns : SecretColumns} (hs : Holds userId channel columns s.preferences) :
    (∃ t ∈ j.targets, t.channel = channel) ∧
      (∀ t ∈ j.targets, t.channel = channel → t.signingSecret = decryptSecret (some m₂) columns) ∧
      ∀ after, after <+: j.after →
        (run (secretStep lease maxAttempts) j.raised after).secrets j.job.key =
          encryptSecret (some m₂) iv (decryptSecret (some m₂) columns) := by
  have hprefs : Holds userId channel columns (run (secretStep lease maxAttempts) s j.before).preferences :=
    run_holds j.spares hs
  have htargets : ∀ t ∈ j.targets, t.channel = channel →
      t.signingSecret = decryptSecret (some m₂) columns := by
    intro t ht htchannel
    obtain ⟨row, hrow, hkey, hsecret⟩ := deliveryTargets_secret j.finds ht (by rwa [htchannel])
    rw [hsecret, hprefs row hrow (by rwa [j.user, htchannel] at hkey)]
  obtain ⟨t, ht, htchannel, hjob⟩ := enqueueTargets_created j.enqueues j.inserted
  rw [j.routed] at htchannel
  refine ⟨⟨t, ht, htchannel⟩, htargets, fun after hafter => ?_⟩
  rw [run_secrets fun a ha => j.fresh a (hafter.subset ha), hjob, jobColumns, htchannel, if_neg hchannel,
    j.randomness, htargets t ht htchannel]

/-! ### When the secret arrives -/

/-- The secret is not taken for a ciphertext, its ciphertext fits, and each manager opens what the one
    before it sealed. -/
structure Carried (aes₁ aes₂ : AesGcm) (v₁ v₂ : ℕ) (iv₁ iv₂ : Iv) (m₂ m₃ : SecretManager) (secret : String) :
    Prop where
  shape : looksEncrypted secret = false
  fits : Fits v₁ secret
  opens : m₂.decrypt (aes₁.ciphertext v₁ iv₁ secret) v₁ = some secret
  delivers : m₃.decrypt (aes₂.ciphertext v₂ iv₂ secret) v₂ = some secret

variable {aes₁ aes₂ aes₃ : AesGcm} {v₁ v₂ v₃ : ℕ} {iv₁ iv₂ : Iv} {checks : PreferenceChecks}
  {input : PreferenceInput} {secret : String} {id : Uuid}

theorem savePreference_encrypted (id userId : Uuid) (prefs : List PreferenceRow)
    {manager : Option SecretManager} {encrypted : String} {version : ℕ}
    (haccepted : input.refused checks = none) (hsecret : input.secret = some secret)
    (hcolumns : encryptSecret manager iv₁ (some secret) = ⟨none, some encrypted, some version⟩) :
    ((∃ prefs', savePreference checks manager iv₁ id userId input prefs = .ok prefs') ↔
        (⟨none, some encrypted, some version⟩ : SecretColumns).storable = true) ∧
      ∀ prefs', savePreference checks manager iv₁ id userId input prefs = .ok prefs' →
        Holds userId input.channel ⟨none, some encrypted, some version⟩ prefs' := by
  obtain ⟨-, -, url, hurl, hwithin⟩ := accepted_secret haccepted hsecret
  unfold savePreference
  rw [haccepted]
  dsimp only
  rw [hsecret, hcolumns]
  refine ⟨?_, fun prefs' hsave => upsertRow_holds rfl hsave⟩
  rw [upsertRow_ok_iff rfl]
  simp [PreferenceRow.storable, hurl, hwithin]

/-- **A signing secret reaches the provider** in every journey from the state it was saved in exactly when
    the request can be stored and nothing on its way mistakes it. -/
theorem signing_secret_survives_iff (h₁ : aes₁.Lawful) (h₂ : aes₂.Lawful)
    (haccepted : input.refused checks = none) (hsecret : input.secret = some secret)
    (hgoes : ∀ prefs, savePreference checks (some (EnvKeySecretManager aes₁ v₁)) iv₁ id userId input
        s.preferences = .ok prefs →
      Nonempty (Journey lease maxAttempts (EnvKeySecretManager aes₂ v₂) iv₂ userId input.channel
        { s with preferences := prefs })) :
    (∃ prefs, savePreference checks (some (EnvKeySecretManager aes₁ v₁)) iv₁ id userId input
        s.preferences = .ok prefs ∧
      ∀ j : Journey lease maxAttempts (EnvKeySecretManager aes₂ v₂) iv₂ userId input.channel
        { s with preferences := prefs }, j.Delivers (EnvKeySecretManager aes₃ v₃) secret) ↔
      Carried aes₁ aes₂ v₁ v₂ iv₁ iv₂ (EnvKeySecretManager aes₂ v₂) (EnvKeySecretManager aes₃ v₃) secret := by
  obtain ⟨hchannel, hne, -⟩ := accepted_secret haccepted hsecret
  constructor
  · rintro ⟨prefs, hsave, hdelivers⟩
    obtain ⟨j⟩ := hgoes prefs hsave
    have hj := hdelivers j
    cases hshape : looksEncrypted secret with
    | true =>
      -- the target would have to carry what no manager reads from the column
      have hcolumns : encryptSecret _ iv₁ _ = _ := encryptSecret_looks (EnvKeySecretManager aes₁ v₁) hshape
      have hholds := (savePreference_encrypted _ _ _ haccepted hsecret hcolumns).2 prefs hsave
      obtain ⟨⟨t, ht, htchannel⟩, htargets, -⟩ := j.columns hchannel hholds
      have hraw := hj.target t ht htchannel
      rw [htargets t ht htchannel] at hraw
      exact absurd hraw (decryptSecret_raw h₂ hne _)
    | false =>
      have hcolumns : encryptSecret (some (EnvKeySecretManager aes₁ v₁)) iv₁ _ = _ :=
        encryptSecret_seals h₁ hne hshape
      have hsaved := savePreference_encrypted id userId s.preferences haccepted hsecret hcolumns
      obtain ⟨⟨t, ht, htchannel⟩, htargets, hjob⟩ := j.columns hchannel (hsaved.2 prefs hsave)
      have htarget := hj.target t ht htchannel
      have hread := htargets t ht htchannel
      rw [htarget] at hread
      have hhanded := hj.handed
      rw [Journey.handed, deliverySecret_eq, hjob _ List.prefix_rfl, ← hread,
        encryptSecret_seals h₂ hne hshape,
        decryptSecret_encrypted _ (ciphertext_ne_empty h₂ iv₂ secret)] at hhanded
      rw [decryptSecret_encrypted _ (ciphertext_ne_empty h₁ iv₁ secret)] at hread
      exact ⟨hshape, (storable_iff h₁).mp (hsaved.1.mp ⟨prefs, hsave⟩), hread.symm, hhanded⟩
  · intro hcarried
    have hcolumns : encryptSecret (some (EnvKeySecretManager aes₁ v₁)) iv₁ _ = _ :=
      encryptSecret_seals h₁ hne hcarried.shape
    have hsaved := savePreference_encrypted id userId s.preferences haccepted hsecret hcolumns
    obtain ⟨prefs, hsave⟩ := hsaved.1.mpr ((storable_iff h₁).mpr hcarried.fits)
    refine ⟨prefs, hsave, fun j => ?_⟩
    have hholds : Holds userId input.channel _ prefs := hsaved.2 prefs hsave
    obtain ⟨-, htargets, hjob⟩ := j.columns hchannel hholds
    rw [decryptSecret_encrypted _ (ciphertext_ne_empty h₁ iv₁ secret), hcarried.opens] at htargets hjob
    rw [encryptSecret_seals h₂ hne hcarried.shape] at hjob
    refine ⟨htargets, ?_, ?_, ?_⟩
    · rw [Journey.handed, deliverySecret_eq, hjob _ List.prefix_rfl,
        decryptSecret_encrypted _ (ciphertext_ne_empty h₂ iv₂ secret), hcarried.delivers]
    · rintro t ⟨before, hbefore, rfl⟩ row hrow hkey
      rw [run_holds (fun a ha => j.spares a (hbefore.subset ha)) hholds row hrow hkey]
    · rintro t ⟨after, hafter, rfl⟩
      rw [hjob after hafter]

end Journeys



/-! ## A webhook secret -/

def sampleIv : Iv := ⟨[0, 1, 2, 3, 4, 5, 6, 7, 8, 9, 10, 11], rfl⟩

/-- The keystream of the key `00 01 … 1f` under `sampleIv`. -/
def sampleKeystream : List UInt8 := [71, 2, 214, 27, 197, 229, 194]

def sampleMask (text : List UInt8) : List UInt8 := text.mapIdx fun i b => b ^^^ sampleKeystream.getD i 0

/-- The tag of `whsec-1` under that key. -/
def sampleTag (iv text : List UInt8) : List UInt8 :=
  if iv = sampleIv.bytes ∧ text = [119, 104, 115, 101, 99, 45, 49] then
    [61, 61, 75, 212, 172, 114, 29, 24, 188, 4, 21, 34, 83, 120, 43, 238]
  else List.replicate 16 0

/-- A cipher that is AES-256-GCM on that text. -/
def sampleAes : AesGcm where
  cipher := fun iv text => (sampleMask text, sampleTag iv text)
  decipher := fun iv tag ciphertext =>
    if tag = sampleTag iv (sampleMask ciphertext) then some (sampleMask ciphertext) else none

theorem sampleMask_length (text : List UInt8) : (sampleMask text).length = text.length := List.length_mapIdx

theorem sampleMask_mask (text : List UInt8) : sampleMask (sampleMask text) = text := by
  unfold sampleMask
  rw [List.mapIdx_mapIdx]
  refine List.ext_getElem List.length_mapIdx fun i _ _ => ?_
  rw [List.getElem_mapIdx, Function.comp_apply, UInt8.xor_assoc, UInt8.xor_self, UInt8.xor_zero]

theorem sampleAes_lawful : sampleAes.Lawful where
  tag_length := by
    intro iv text
    simp only [sampleAes, sampleTag]
    split <;> rfl
  cipher_length := fun _ text => sampleMask_length text
  decipher_length := by
    intro iv tag ciphertext text h
    simp only [sampleAes] at h
    split at h
    · cases h
      exact sampleMask_length ciphertext
    · cases h
  decipher_cipher := by
    intro iv text
    simp only [sampleAes, sampleMask_mask, if_true]

abbrev sampleManager : SecretManager := EnvKeySecretManager sampleAes 1

def sampleChecks : PreferenceChecks := ⟨fun _ => true, fun _ => none⟩

def sampleInput (secret : String) : PreferenceInput :=
  .preference ⟨.webhook, true, some "https://example.com/hook", some secret⟩

/-- The preference of the request. -/
def sampleRow (columns : SecretColumns) : PreferenceRow :=
  ⟨.ofDigit 2, .ofDigit 1, .webhook, true, some "https://example.com/hook", columns⟩

def sampleOutboxState : OutboxState := ⟨⟨fun _ => [], ⟨.webhook, fun _ => 0⟩⟩, 1000000, []⟩

def sampleState (prefs : List PreferenceRow) : SecretState := ⟨prefs, sampleOutboxState, fun _ => .empty⟩

def sampleCall : AlertCall where
  alertId := .ofDigit 3
  userId := .ofDigit 1
  strategyId := .ofDigit 4
  template := "alert"
  payload := "\x7b\x7d"
  payloadHash := String.ofList (List.replicate 64 'a')
  idempotencyKey := fun _ => String.ofList (List.replicate 64 'b')
  id := fun _ => .ofDigit 5
  iv := fun _ => sampleIv
  owner := ⟨none, true⟩

def sampleClaim : ClaimContext where
  workerId := "worker"
  locked := fun _ _ => false
  scan := ⟨id, fun l => .refl l⟩
  uuid := fun _ _ => .ofDigit 6

/-- The job of the alert. -/
def sampleJob : JobRow :=
  freshRow 1000000 (.ofDigit 5) 5 "https://example.com/hook"
    (sampleCall.args ⟨.webhook, "https://example.com/hook", none⟩)

/-- The outbox with the job. -/
def sampleQueued : Outbox := sampleOutboxState.outbox.setTable .webhook [sampleJob]

theorem sample_insertable : insertable sampleJob = true := by decide +kernel

theorem sample_enqueue (target : NotificationDeliveryTarget) (hchannel : target.channel = .webhook)
    (hrecipient : target.recipient = "https://example.com/hook") :
    enqueue 1000000 (.ofDigit 5) 5 sampleCall.owner sampleOutboxState.outbox (sampleCall.args target) =
      .ok (sampleQueued, sampleJob, true) := by
  obtain ⟨channel, recipient, secret⟩ := target
  cases hchannel
  cases hrecipient
  have hargs : sampleCall.args ⟨.webhook, "https://example.com/hook", secret⟩ =
      sampleCall.args ⟨.webhook, "https://example.com/hook", none⟩ := rfl
  have hrecipient : enqueueRecipient sampleCall.owner
      (sampleCall.args ⟨.webhook, "https://example.com/hook", none⟩) = .ok "https://example.com/hook" := rfl
  rw [hargs, enqueue, hrecipient]
  dsimp only
  rw [show freshRow 1000000 (.ofDigit 5) 5 "https://example.com/hook"
    (sampleCall.args ⟨.webhook, "https://example.com/hook", none⟩) = sampleJob from rfl, sample_insertable]
  rfl

theorem sample_claimed : ((claimBatch 1000000 sampleClaim 1 sampleQueued).2.head?.map JobRow.key) =
    some sampleJob.key := by decide

theorem sample_goes (columns : SecretColumns)
    (h : (encryptSecret (some sampleManager) sampleIv (decryptSecret (some sampleManager) columns)).storable =
      true) :
    Nonempty (Journey 60000 5 sampleManager sampleIv (.ofDigit 1) .webhook
      (sampleState [sampleRow columns])) := by
  have henqueue := sample_enqueue (targetOf (some sampleManager) (sampleRow columns)) rfl rfl
  have henqueues : enqueueTargets 60000 5 (some sampleManager) sampleCall
      [targetOf (some sampleManager) (sampleRow columns)] (sampleState [sampleRow columns]) = .ok (_, [sampleJob]) :=
    enqueueTargets_singleton henqueue h
  exact ⟨{
    before := []
    spares := by simp
    ctx := ⟨none, none, none, fun _ => none⟩
    call := sampleCall
    user := rfl
    randomness := rfl
    targets := [targetOf (some sampleManager) (sampleRow columns)]
    finds := rfl
    raised := _
    jobs := [sampleJob]
    enqueues := henqueues
    job := sampleJob
    inserted := List.mem_singleton.mpr rfl
    routed := rfl
    after := []
    fresh := by simp
    claim := sampleClaim
    claimed := by
      have houtbox : outboxAfter 60000 5 1000000 sampleOutboxState.outbox (.enqueue (.ofDigit 5) sampleCall.owner
          (sampleCall.args (targetOf (some sampleManager) (sampleRow columns)))) = sampleQueued := by
        rw [outboxAfter, henqueue]
      have hclaimed := Option.map_eq_some_iff.mp sample_claimed
      rwa [← houtbox] at hclaimed }⟩

theorem sample_saved {secret : String} {prefs : List PreferenceRow}
    (h : savePreference sampleChecks (some sampleManager) sampleIv (.ofDigit 2) (.ofDigit 1)
      (sampleInput secret) [] = .ok prefs) :
    prefs = [sampleRow (encryptSecret (some sampleManager) sampleIv (some secret))] := by
  unfold savePreference at h
  split at h
  · cases h
  unfold upsertRow at h
  split at h
  · cases h
  rw [if_neg (by simp)] at h
  cases h
  rfl

theorem sample_carried : Carried sampleAes sampleAes 1 1 sampleIv sampleIv sampleManager sampleManager "whsec-1" where
  shape := by decide
  fits := by decide
  opens := decrypt_encrypt sampleAes_lawful sampleIv (by decide)
  delivers := decrypt_encrypt sampleAes_lawful sampleIv (by decide)

/-- The secret of the sample reaches the provider. -/
theorem signing_secret_survives_iff_webhook :
    ∃ prefs, savePreference sampleChecks (some sampleManager) sampleIv (.ofDigit 2) (.ofDigit 1)
        (sampleInput "whsec-1") (sampleState []).preferences = .ok prefs ∧
      ∀ j : Journey 60000 5 sampleManager sampleIv (.ofDigit 1) .webhook
        { sampleState [] with preferences := prefs }, j.Delivers sampleManager "whsec-1" := by
  refine (signing_secret_survives_iff sampleAes_lawful sampleAes_lawful (by decide) rfl ?_).mpr
    sample_carried
  intro prefs hsave
  rw [sample_saved hsave]
  have hcolumns : encryptSecret (some sampleManager) sampleIv (some "whsec-1") =
      ⟨none, some (sampleAes.ciphertext 1 sampleIv "whsec-1"), some 1⟩ :=
    encryptSecret_seals sampleAes_lawful (by decide) sample_carried.shape
  refine sample_goes _ ?_
  rw [hcolumns, decryptSecret_encrypted _ (ciphertext_ne_empty sampleAes_lawful _ _), sample_carried.opens,
    hcolumns, storable_iff sampleAes_lawful]
  exact sample_carried.fits

/-- A secret in the shape of a ciphertext is accepted, and its provider never gets it. -/
theorem ciphertext_shape_lost : (sampleInput "v1:my-secret").refused sampleChecks = none ∧
    ¬ ∃ prefs, savePreference sampleChecks (some sampleManager) sampleIv (.ofDigit 2) (.ofDigit 1)
        (sampleInput "v1:my-secret") (sampleState []).preferences = .ok prefs ∧
      ∀ j : Journey 60000 5 sampleManager sampleIv (.ofDigit 1) .webhook
        { sampleState [] with preferences := prefs }, j.Delivers sampleManager "v1:my-secret" := by
  refine ⟨by decide, ?_⟩
  rintro ⟨prefs, hsave, hdelivers⟩
  have hraw : encryptSecret (some sampleManager) sampleIv (some "v1:my-secret") =
      ⟨none, some "v1:my-secret", some 1⟩ := encryptSecret_looks sampleManager (by decide)
  have hunread : decryptSecret (some sampleManager) ⟨none, some "v1:my-secret", some 1⟩ = none := by
    decide
  have hprefs := sample_saved hsave
  rw [hraw] at hprefs
  subst hprefs
  obtain ⟨j⟩ := sample_goes ⟨none, some "v1:my-secret", some 1⟩ (by rw [hunread]; rfl)
  have hholds : Holds (.ofDigit 1) .webhook ⟨none, some "v1:my-secret", some 1⟩
      [sampleRow ⟨none, some "v1:my-secret", some 1⟩] := by
    intro row hrow _
    rw [List.mem_singleton.mp hrow]
    rfl
  obtain ⟨⟨t, ht, hchannel⟩, htargets, -⟩ := j.columns (by decide) hholds
  have htarget := (hdelivers j).target t ht hchannel
  rw [htargets t ht hchannel, hunread] at htarget
  cases htarget

end VeltrixEye.Notifications
