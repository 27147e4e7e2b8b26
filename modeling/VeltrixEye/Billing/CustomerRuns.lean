import VeltrixEye.Billing.Customers
import VeltrixEye.Lib.Rows
import VeltrixEye.Lib.SmallUuid

/-!
# Concurrent customer provisioning

Every interleaving of `ensureCustomer` calls, over any instances, provider answers and failures.
-/

namespace VeltrixEye.Billing

/-! ## The table -/

/-- The unique indexes of `billing_customers`. -/
structure RowsOk (rows : List BillingCustomerRow) : Prop where
  users : (rows.map BillingCustomerRow.userId).Nodup
  apart : ∀ a ∈ rows, ∀ b ∈ rows, a.userId ≠ b.userId → a.sharesIdentity b = false

/-- Every row an operator or a provisioning has settled is still there, unchanged. -/
def RowsKept (rows rows' : List BillingCustomerRow) : Prop :=
  ∀ row ∈ rows, row.status ≠ .unprovisioned → row ∈ rows'

theorem RowsKept.refl (rows : List BillingCustomerRow) : RowsKept rows rows := fun _ h _ => h

theorem RowsKept.trans {rows₁ rows₂ rows₃ : List BillingCustomerRow} (h : RowsKept rows₁ rows₂)
    (h' : RowsKept rows₂ rows₃) : RowsKept rows₁ rows₃ :=
  fun row hrow hstatus => h' row (h row hrow hstatus) hstatus

theorem BillingCustomerRow.sharesIdentity_comm (a b : BillingCustomerRow) :
    a.sharesIdentity b = b.sharesIdentity a := by
  unfold sharesIdentity
  have key : ∀ x y : Option String, (x.isSome && decide (x = y)) = (y.isSome && decide (y = x)) := by
    intro x y
    by_cases h : x = y
    · subst h
      rfl
    · simp [h, Ne.symm h]
  rw [key a.providerCustomerId, key a.providerCustomerCode]

/-- What a write of the row of `userId` leaves. -/
structure WroteRow (rows rows' : List BillingCustomerRow) (row next : BillingCustomerRow) :
    Prop where
  ok : RowsOk rows'
  kept : RowsKept rows rows'
  mem : next ∈ rows'
  userId : next.userId = row.userId
  email : next.email = row.email
  status : next.status = row.status
  provisionedAt : next.provisionedAt = row.provisionedAt

theorem wroteRow_insert {rows : List BillingCustomerRow} {row : BillingCustomerRow}
    (hrows : RowsOk rows) (hnew : ∀ c ∈ rows, c.userId ≠ row.userId)
    (hfree : ∀ c ∈ rows, c.userId ≠ row.userId → c.sharesIdentity row = false) :
    WroteRow rows (rows ++ [row]) row row where
  ok := by
    refine ⟨Rows.nodup_map_concat hrows.users hnew, ?_⟩
    intro a ha b hb hne
    rcases List.mem_append.mp ha with ha | ha
    · rcases List.mem_append.mp hb with hb | hb
      · exact hrows.apart a ha b hb hne
      · rw [List.mem_singleton.mp hb] at hne ⊢
        exact hfree a ha hne
    · rw [List.mem_singleton.mp ha] at hne ⊢
      rcases List.mem_append.mp hb with hb | hb
      · rw [BillingCustomerRow.sharesIdentity_comm]
        exact hfree b hb (Ne.symm hne)
      · rw [List.mem_singleton.mp hb] at hne
        exact absurd rfl hne
  kept _ hc _ := List.mem_append_left _ hc
  mem := List.mem_append_right _ (List.mem_singleton.mpr rfl)
  userId := rfl
  email := rfl
  status := rfl
  provisionedAt := rfl

theorem wroteRow_update {rows : List BillingCustomerRow} {row own : BillingCustomerRow}
    (hrows : RowsOk rows) (hown : own ∈ rows) (huser : own.userId = row.userId)
    (hstatus : own.status = .unprovisioned)
    (hfree : ∀ c ∈ rows, c.userId ≠ row.userId → c.sharesIdentity row = false) :
    WroteRow rows (rows.map fun c => if c.userId = row.userId then { row with id := own.id } else c)
      row { row with id := own.id } where
  ok := by
    have hshare : ∀ c : BillingCustomerRow,
        c.sharesIdentity { row with id := own.id } = c.sharesIdentity row := fun _ => rfl
    refine ⟨Rows.nodup_map_map hrows.users ?_, ?_⟩
    · intro c _
      split
      · rename_i h
        exact h.symm
      · rfl
    · intro a ha b hb hne
      obtain ⟨a₀, ha₀, rfl⟩ := List.mem_map.mp ha
      obtain ⟨b₀, hb₀, rfl⟩ := List.mem_map.mp hb
      by_cases ha₁ : a₀.userId = row.userId
      · by_cases hb₁ : b₀.userId = row.userId
        · rw [if_pos ha₁, if_pos hb₁] at hne
          exact absurd rfl hne
        · rw [if_pos ha₁, if_neg hb₁, BillingCustomerRow.sharesIdentity_comm, hshare]
          exact hfree b₀ hb₀ hb₁
      · by_cases hb₁ : b₀.userId = row.userId
        · rw [if_neg ha₁, if_pos hb₁, hshare]
          exact hfree a₀ ha₀ ha₁
        · rw [if_neg ha₁, if_neg hb₁] at hne ⊢
          exact hrows.apart a₀ ha₀ b₀ hb₀ hne
  kept c hc hsettled := by
    refine List.mem_map.mpr ⟨c, hc, if_neg ?_⟩
    intro h
    have hsame := Rows.eq_of_key hrows.users hc hown (h.trans huser.symm)
    rw [hsame, hstatus] at hsettled
    exact hsettled rfl
  mem := List.mem_map.mpr ⟨own, hown, if_pos huser⟩
  userId := rfl
  email := rfl
  status := rfl
  provisionedAt := rfl

/-- **The upsert** writes the row it presents, or nothing. -/
theorem upsertCustomer_spec {runtime : CustomerRuntime} {users : List UserRow}
    {rows rows' : List BillingCustomerRow} {row : BillingCustomerRow} {raced : Bool}
    {reply : UpsertReply} (hrows : RowsOk rows)
    (h : upsertCustomer runtime users rows row raced = (rows', reply)) :
    (rows' = rows ∧ ∀ next, reply ≠ .written next) ∨
      ∃ next, reply = .written next ∧ WroteRow rows rows' row next := by
  unfold upsertCustomer at h
  simp only at h
  have hfree : (rows.any fun c => c.userId ≠ row.userId && c.sharesIdentity row) ≠ true →
      ∀ c ∈ rows, c.userId ≠ row.userId → c.sharesIdentity row = false := by
    intro hany c hc hne
    by_contra hshare
    apply hany
    rw [List.any_eq_true]
    exact ⟨c, hc, by simp [hne, Bool.eq_true_of_not_eq_false hshare]⟩
  split at h
  · cases h
    exact .inl ⟨rfl, fun _ e => by cases e⟩
  · split at h
    · rename_i own hown
      have hmem := List.mem_of_find?_eq_some hown
      have huser : own.userId = row.userId := by simpa using List.find?_some hown
      split at h
      · cases h
        exact .inl ⟨rfl, fun _ e => by cases e⟩
      · split at h
        · rename_i hopen
          split at h
          · cases h
            exact .inl ⟨rfl, fun _ e => by cases e⟩
          · rename_i htaken
            cases h
            exact .inr ⟨_, rfl, wroteRow_update hrows hmem huser hopen.1 (hfree htaken)⟩
        · cases h
          exact .inl ⟨rfl, fun _ e => by cases e⟩
    · rename_i hnone
      have hnew : ∀ c ∈ rows, c.userId ≠ row.userId := by
        intro c hc
        simpa using List.find?_eq_none.mp hnone c hc
      split at h
      · cases h
        exact .inl ⟨rfl, fun _ e => by cases e⟩
      · rename_i htaken
        split at h
        · cases h
          exact .inl ⟨rfl, fun _ e => by cases e⟩
        · cases h
          exact .inr ⟨_, rfl, wroteRow_insert hrows hnew (hfree htaken)⟩

/-! ## One step of a call -/

/-- The stored provisioned row of a user that a result reports. -/
def Reports (rows : List BillingCustomerRow) (userId : Uuid) (r : ProvisioningResult) : Prop :=
  ∃ row ∈ rows, row.userId = userId ∧ row.status = .provisioned ∧ r.email = row.email ∧
    row.provisionedAt = some r.provisionedAt

theorem Reports.kept {rows rows' : List BillingCustomerRow} {userId : Uuid} {r : ProvisioningResult}
    (h : Reports rows userId r) (hkept : RowsKept rows rows') : Reports rows' userId r := by
  obtain ⟨row, hrow, huser, hstatus, hreport⟩ := h
  refine ⟨row, hkept row hrow ?_, huser, hstatus, hreport⟩
  rw [hstatus]
  decide

/-- What holds of a call: an identity about to be persisted has a canonical email, and a result
    reports the user's row. -/
def StageOk (runtime : CustomerRuntime) (rows : List BillingCustomerRow) (userId : Uuid) :
    ProvisionStage → Prop
  | .persisting identity _ => canonicalEmail runtime identity.email = true
  | .resolved r => Reports rows userId r
  | _ => True

theorem StageOk.kept {runtime : CustomerRuntime} {rows rows' : List BillingCustomerRow}
    {userId : Uuid} {stage : ProvisionStage} (h : StageOk runtime rows userId stage)
    (hkept : RowsKept rows rows') : StageOk runtime rows' userId stage := by
  cases stage with
  | resolved r => exact Reports.kept h hkept
  | _ => exact h

theorem provisioningResult_ok (runtime : CustomerRuntime) {rows : List BillingCustomerRow}
    {row : BillingCustomerRow} (outcome : ProvisioningOutcome) (hrow : row ∈ rows)
    (hstatus : row.status = .provisioned) :
    StageOk runtime rows row.userId (provisioningResult runtime row outcome) := by
  unfold provisioningResult
  split
  · rename_i provisionedAt hat
    split
    · exact ⟨row, hrow, rfl, hstatus, rfl, hat⟩
    · trivial
  · trivial

theorem afterProvider_ok (runtime : CustomerRuntime) (rows : List BillingCustomerRow)
    (userId : Uuid) (identity : Option CustomerIdentity) (user email : String)
    (outcome : ProvisioningOutcome) :
    StageOk runtime rows userId (afterProvider runtime identity user email outcome) := by
  unfold afterProvider
  split
  · rename_i usable husable
    unfold usableProviderCustomerIdentity at husable
    split at husable
    · cases husable
    rename_i value _
    split at husable
    · cases husable
    rename_i hok
    split at husable
    · cases husable
    split at husable
    · cases husable
    split at husable
    · cases husable
    cases husable
    have hident : identityOk runtime value = true := by simpa using hok
    simp only [identityOk, Bool.and_eq_true] at hident
    exact hident.1.1.1.1.1.1.1.1.2
  · trivial

theorem reportWinner_ok (runtime : CustomerRuntime) (rows : List BillingCustomerRow) (userId : Uuid)
    (identity : UsableIdentity) (identityConflict : Bool) :
    StageOk runtime rows userId
      (reportWinner runtime (findLocalCustomer rows userId) identity identityConflict) := by
  unfold reportWinner
  split
  · rename_i row hrow
    have hmem := List.mem_of_find?_eq_some hrow
    have huser : row.userId = userId := by simpa using List.find?_some hrow
    split
    · rename_i hready
      rw [← huser]
      apply provisioningResult_ok runtime _ hmem
      simp only [isCheckoutReadyBillingCustomer, Bool.and_eq_true, decide_eq_true_eq] at hready
      exact hready.1.1.1
    · split
      · trivial
      · split <;> trivial
  · trivial

/-- What one step of a call of `userId` leaves. -/
structure Stepped (runtime : CustomerRuntime) (userId : Uuid) (rows rows' : List BillingCustomerRow)
    (stage' : ProvisionStage) : Prop where
  ok : RowsOk rows'
  kept : RowsKept rows rows'
  stage : StageOk runtime rows' userId stage'
  /-- Only a step that resolves its call changes the table. -/
  wrote : rows' ≠ rows → ∃ r, stage' = .resolved r

theorem Stepped.unchanged {runtime : CustomerRuntime} {userId : Uuid}
    {rows : List BillingCustomerRow} {stage' : ProvisionStage} (hrows : RowsOk rows)
    (hstage : StageOk runtime rows userId stage') : Stepped runtime userId rows rows stage' :=
  ⟨hrows, RowsKept.refl rows, hstage, fun h => absurd rfl h⟩

/-- **One step.** -/
theorem provisionStep_spec {runtime : CustomerRuntime}
    (hiso : ∀ now, runtime.billing.isoDateTime (runtime.billing.storedInstant now) = true)
    {input : ProvisionInput} {users : List UserRow} {rows rows' : List BillingCustomerRow}
    {call : CustomerCall} {stage' : ProvisionStage} (hrows : RowsOk rows)
    (hstage : StageOk runtime rows call.userId call.stage)
    (h : provisionStep runtime input users rows call = (rows', stage')) :
    Stepped runtime call.userId rows rows' stage' := by
  unfold provisionStep at h
  split at h
  · -- starting
    split at h <;> cases h <;> exact .unchanged hrows trivial
  · -- reading
    split at h
    · rename_i row hrow
      have hmem := List.mem_of_find?_eq_some hrow
      have huser : row.userId = call.userId := by simpa using List.find?_some hrow
      split at h
      · rename_i hready
        cases h
        apply Stepped.unchanged hrows
        rw [← huser]
        apply provisioningResult_ok runtime _ hmem
        unfold decideExistingBillingCustomer at hready
        split at hready
        · assumption
        · cases hready
        · cases hready
        · split at hready <;> cases hready
      · cases h
        exact .unchanged hrows trivial
      · cases h
        exact .unchanged hrows trivial
    · cases h
      exact .unchanged hrows trivial
  · -- finding
    split at h
    · cases h
      exact .unchanged hrows trivial
    · split at h
      · cases h
        exact .unchanged hrows trivial
      · cases h
        exact .unchanged hrows trivial
      · cases h
        exact .unchanged hrows (afterProvider_ok ..)
  · -- creating
    split at h
    · cases h
      exact .unchanged hrows trivial
    · cases h
      exact .unchanged hrows (afterProvider_ok ..)
    · cases h
      exact .unchanged hrows (afterProvider_ok ..)
  · -- persisting
    rename_i identity outcome hpersisting
    have hemail : canonicalEmail runtime identity.email = true := by
      rw [hpersisting] at hstage
      exact hstage
    cases hup : upsertCustomer runtime users rows (presentedRow runtime call.userId identity input)
      input.raced with
    | mk left reply =>
      simp only [hup] at h
      rcases upsertCustomer_spec hrows hup with ⟨rfl, hnot⟩ | ⟨next, rfl, hwrote⟩
      · cases reply with
        | written next => exact absurd rfl (hnot next)
        | nothing =>
          cases h
          exact .unchanged hrows trivial
        | identityConflict =>
          cases h
          exact .unchanged hrows trivial
        | failed =>
          cases h
          exact .unchanged hrows trivial
      · cases h
        have huser : next.userId = call.userId := hwrote.userId
        have hprovisioned : next.status = .provisioned := hwrote.status
        -- the contract of the result accepts the row just written
        have hresult : provisioningResult runtime next outcome =
            .resolved ⟨outcome, next.email, runtime.billing.storedInstant input.now⟩ := by
          unfold provisioningResult
          rw [hwrote.provisionedAt, hwrote.email]
          simp [presentedRow, hemail, hiso]
        refine ⟨hwrote.ok, hwrote.kept, ?_, fun _ => ⟨_, hresult⟩⟩
        rw [← huser]
        exact provisioningResult_ok runtime outcome hwrote.mem hprovisioned
  · -- rereading
    cases h
    exact .unchanged hrows (reportWinner_ok ..)
  · rename_i r hresolved
    cases h
    rw [hresolved] at hstage
    exact .unchanged hrows hstage
  · cases h
    exact .unchanged hrows trivial
  · cases h
    exact .unchanged hrows trivial

theorem provisionStep_resolved {runtime : CustomerRuntime} {input : ProvisionInput}
    {users : List UserRow} {rows : List BillingCustomerRow} {call : CustomerCall}
    {r : ProvisioningResult} (h : call.stage = .resolved r) :
    provisionStep runtime input users rows call = (rows, .resolved r) := by
  unfold provisionStep
  rw [h]

theorem provisionStep_joined {runtime : CustomerRuntime} {input : ProvisionInput}
    {users : List UserRow} {rows rows' : List BillingCustomerRow} {call : CustomerCall} {w : ℕ}
    (h : provisionStep runtime input users rows call = (rows', .joined w)) :
    call.stage = .joined w := by
  have hresult : ∀ row outcome, provisioningResult runtime row outcome ≠ .joined w := by
    intro row outcome e
    unfold provisioningResult at e
    split at e
    · split at e <;> cases e
    · cases e
  have hprovider : ∀ identity user email outcome,
      afterProvider runtime identity user email outcome ≠ .joined w := by
    intro identity user email outcome e
    unfold afterProvider at e
    split at e <;> cases e
  have hwinner : ∀ current identity identityConflict,
      reportWinner runtime current identity identityConflict ≠ .joined w := by
    intro current identity identityConflict e
    unfold reportWinner at e
    split at e
    · split at e
      · exact hresult _ _ e
      · split at e
        · cases e
        · split at e <;> cases e
    · cases e
  have hstage := congrArg Prod.snd h
  unfold provisionStep at hstage
  cases hc : call.stage with
  | joined v =>
    rw [hc] at hstage
    exact hstage
  | starting =>
    rw [hc] at hstage
    simp only at hstage
    split at hstage <;> cases hstage
  | reading email =>
    rw [hc] at hstage
    simp only at hstage
    split at hstage
    · split at hstage
      · exact (hresult _ _ hstage).elim
      · cases hstage
      · cases hstage
    · cases hstage
  | finding email =>
    rw [hc] at hstage
    simp only at hstage
    split at hstage
    · cases hstage
    split at hstage
    · cases hstage
    · cases hstage
    · exact (hprovider _ _ _ _ hstage).elim
  | creating email =>
    rw [hc] at hstage
    simp only at hstage
    split at hstage
    · cases hstage
    · exact (hprovider none call.user email .created hstage).elim
    · exact (hprovider _ _ _ _ hstage).elim
  | persisting identity outcome =>
    rw [hc] at hstage
    simp only at hstage
    split at hstage
    · exact (hresult _ _ hstage).elim
    · cases hstage
    · cases hstage
    · cases hstage
  | rereading identity identityConflict =>
    rw [hc] at hstage
    exact (hwinner _ _ _ hstage).elim
  | resolved r =>
    rw [hc] at hstage
    cases hstage
  | rejected reason =>
    rw [hc] at hstage
    cases hstage

/-! ## The system -/

/-- The invariant of the system. -/
structure SystemOk (runtime : CustomerRuntime) (s : CustomerSystem) : Prop where
  rows : RowsOk s.customers
  calls : ∀ c ∈ s.calls, StageOk runtime s.customers c.userId c.stage
  /-- The pending call of an entry is a call of the user the entry's text spells. -/
  inflight : ∀ e ∈ s.inflight, ∃ c, s.calls[e.call]? = some c ∧ callerId e.user = some c.userId
  joined : ∀ c ∈ s.calls, ∀ w, c.stage = .joined w →
    ∃ leader, s.calls[w]? = some leader ∧ leader.userId = c.userId

/-- The states a run starts from: any table within its indexes, no call. -/
structure CustomerSystem.Initial (s : CustomerSystem) : Prop where
  rows : RowsOk s.customers
  inflight : s.inflight = []
  calls : s.calls = []

theorem CustomerSystem.Initial.ok {s : CustomerSystem} (h : s.Initial) (runtime : CustomerRuntime) :
    SystemOk runtime s where
  rows := h.rows
  calls c hc := by
    rw [h.calls] at hc
    cases hc
  inflight e he := by
    rw [h.inflight] at he
    cases he
  joined c hc := by
    rw [h.calls] at hc
    cases hc

theorem SystemOk.appended {runtime : CustomerRuntime} {s : CustomerSystem} (hs : SystemOk runtime s)
    {call : CustomerCall} {entries : List InflightEntry}
    (hstage : StageOk runtime s.customers call.userId call.stage)
    (hjoined : ∀ w, call.stage = .joined w →
      ∃ leader, s.calls[w]? = some leader ∧ leader.userId = call.userId)
    (hentries : ∀ e ∈ entries, e.call = s.calls.length ∧ callerId e.user = some call.userId) :
    SystemOk runtime { s with calls := s.calls ++ [call], inflight := s.inflight ++ entries } where
  rows := hs.rows
  calls c hc := by
    rcases List.mem_append.mp hc with hc | hc
    · exact hs.calls c hc
    · rw [List.mem_singleton.mp hc]
      exact hstage
  inflight e he := by
    rcases List.mem_append.mp he with he | he
    · obtain ⟨c, hc, huser⟩ := hs.inflight e he
      exact ⟨c, List.getElem?_append_left (List.getElem?_eq_some_iff.mp hc).1 ▸ hc, huser⟩
    · obtain ⟨hcall, huser⟩ := hentries e he
      exact ⟨call, by simp [hcall], huser⟩
  joined c hc w hw := by
    have hleader : ∃ leader, s.calls[w]? = some leader ∧ leader.userId = c.userId := by
      rcases List.mem_append.mp hc with hc | hc
      · exact hs.joined c hc w hw
      · rw [List.mem_singleton.mp hc] at hw ⊢
        exact hjoined w hw
    obtain ⟨leader, hget, huser⟩ := hleader
    exact ⟨leader, List.getElem?_append_left (List.getElem?_eq_some_iff.mp hget).1 ▸ hget, huser⟩

theorem SystemOk.moved {runtime : CustomerRuntime} {s : CustomerSystem} (hs : SystemOk runtime s)
    {w : ℕ} {call : CustomerCall} (hw : s.calls[w]? = some call) {rows' : List BillingCustomerRow}
    {stage' : ProvisionStage} (hrows : RowsOk rows') (hkept : RowsKept s.customers rows')
    (hstage : StageOk runtime rows' call.userId stage')
    (hjoined : ∀ i, stage' = .joined i → call.stage = .joined i) :
    SystemOk runtime
      { s with customers := rows', calls := s.calls.set w { call with stage := stage' } } := by
  have hlink : ∀ {i : ℕ} {c}, s.calls[i]? = some c →
      ∃ c', (s.calls.set w { call with stage := stage' })[i]? = some c' ∧ c'.userId = c.userId := by
    intro i c hc
    by_cases hi : w = i
    · subst hi
      rw [hw] at hc
      cases hc
      exact ⟨_, List.getElem?_set_self (List.getElem?_eq_some_iff.mp hw).1, rfl⟩
    · exact ⟨c, by rw [List.getElem?_set_ne hi]; exact hc, rfl⟩
  refine ⟨hrows, ?_, ?_, ?_⟩
  · intro c hc
    rcases List.mem_or_eq_of_mem_set hc with hc | rfl
    · exact (hs.calls c hc).kept hkept
    · exact hstage
  · intro e he
    obtain ⟨c, hc, huser⟩ := hs.inflight e he
    obtain ⟨c', hc', hsame⟩ := hlink hc
    exact ⟨c', hc', hsame ▸ huser⟩
  · intro c hc i hi
    have hleader : ∃ leader, s.calls[i]? = some leader ∧ leader.userId = c.userId := by
      rcases List.mem_or_eq_of_mem_set hc with hc | rfl
      · exact hs.joined c hc i hi
      · exact hs.joined call (List.mem_of_getElem? hw) i (hjoined i hi)
    obtain ⟨leader, hget, huser⟩ := hleader
    obtain ⟨leader', hget', hsame⟩ := hlink hget
    exact ⟨leader', hget', hsame.trans huser⟩

theorem StageOk.afterFailure {runtime : CustomerRuntime} {rows : List BillingCustomerRow}
    {userId : Uuid} {stage : ProvisionStage} (h : StageOk runtime rows userId stage) :
    StageOk runtime rows userId stage.afterFailure := by
  cases stage with
  | resolved r => exact h
  | _ => trivial

/-- **The invariant.** -/
theorem customerStep_ok {runtime : CustomerRuntime}
    (hiso : ∀ now, runtime.billing.isoDateTime (runtime.billing.storedInstant now) = true)
    (s : CustomerSystem) (a : CustomerAction) (hs : SystemOk runtime s) :
    SystemOk runtime (customerStep runtime s a) := by
  unfold customerStep
  cases a with
  | ensureCustomer serviceInstance user =>
    simp only
    split
    · rename_i userId hcaller
      unfold CustomerSystem.ensure
      split
      · rename_i e hpending
        have hmem := List.mem_of_find?_eq_some hpending
        have hsame : e.serviceInstance = serviceInstance ∧ e.user = user := by
          simpa using List.find?_some hpending
        obtain ⟨leader, hleader, huser⟩ := hs.inflight e hmem
        rw [hsame.2, hcaller] at huser
        have happended : SystemOk runtime { s with
            calls := s.calls ++ [⟨user, userId, .joined e.call⟩]
            inflight := s.inflight ++ [] } := by
          refine hs.appended trivial (fun w hw => ?_) (by simp)
          cases hw
          exact ⟨leader, hleader, (Option.some.inj huser).symm⟩
        rw [List.append_nil] at happended
        exact happended
      · refine hs.appended trivial (fun w hw => by cases hw) ?_
        intro e he
        rw [List.mem_singleton.mp he]
        exact ⟨rfl, hcaller⟩
    · exact hs
  | advance w input =>
    simp only
    split
    · rename_i call hw
      cases hstep : provisionStep runtime input s.users s.customers call with
      | mk rows' stage' =>
        have hspec := provisionStep_spec hiso hs.rows (hs.calls call (List.mem_of_getElem? hw)) hstep
        refine hs.moved hw hspec.ok hspec.kept hspec.stage ?_
        rintro i rfl
        exact provisionStep_joined hstep
    · exact hs
  | fail w =>
    simp only
    split
    · rename_i call hw
      refine hs.moved hw hs.rows (RowsKept.refl _) (hs.calls call (List.mem_of_getElem? hw)).afterFailure ?_
      intro i hi
      cases hstage : call.stage with
      | joined v =>
        rw [hstage] at hi
        exact hi
      | _ =>
        rw [hstage] at hi
        cases hi
    · exact hs
  | release serviceInstance user =>
    simp only
    split
    · split
      · exact ⟨hs.rows, hs.calls, fun e he => hs.inflight e (List.mem_of_mem_filter he), hs.joined⟩
      · exact hs
    · exact hs

/-! ## What a step keeps -/

/-- A resolved call stays as it is. -/
def ResolvedKept (s s' : CustomerSystem) : Prop :=
  ∀ (w : ℕ) c r, s.calls[w]? = some c → c.stage = .resolved r → s'.calls[w]? = some c

/-- What one step keeps, beside the invariant. -/
structure SystemStepped (s s' : CustomerSystem) (a : CustomerAction) : Prop where
  kept : RowsKept s.customers s'.customers
  resolved : ResolvedKept s s'
  /-- Only a step that resolves its own call changes the table. -/
  wrote : s'.customers ≠ s.customers →
    ∃ w input c r, a = .advance w input ∧ s'.calls[w]? = some c ∧ c.stage = .resolved r

theorem SystemStepped.of_customers {s s' : CustomerSystem} {a : CustomerAction}
    (hcustomers : s'.customers = s.customers) (hresolved : ResolvedKept s s') :
    SystemStepped s s' a :=
  ⟨hcustomers ▸ RowsKept.refl _, hresolved, fun h => absurd hcustomers h⟩

theorem resolvedKept_append {s s' : CustomerSystem} {call : CustomerCall}
    (h : s'.calls = s.calls ++ [call]) : ResolvedKept s s' := by
  intro w c _ hc _
  rw [h]
  exact List.getElem?_append_left (List.getElem?_eq_some_iff.mp hc).1 ▸ hc

theorem resolvedKept_set {s s' : CustomerSystem} {w : ℕ} {call : CustomerCall}
    {stage' : ProvisionStage} (hw : s.calls[w]? = some call)
    (h : s'.calls = s.calls.set w { call with stage := stage' })
    (hresolved : ∀ r, call.stage = .resolved r → stage' = .resolved r) : ResolvedKept s s' := by
  intro i c r hc hr
  rw [h]
  by_cases hi : w = i
  · subst hi
    rw [hw] at hc
    cases hc
    rw [List.getElem?_set_self (List.getElem?_eq_some_iff.mp hw).1, hresolved r hr, ← hr]
  · rw [List.getElem?_set_ne hi]
    exact hc

theorem customerStep_stepped {runtime : CustomerRuntime}
    (hiso : ∀ now, runtime.billing.isoDateTime (runtime.billing.storedInstant now) = true)
    {s : CustomerSystem} (hs : SystemOk runtime s) (a : CustomerAction) :
    SystemStepped s (customerStep runtime s a) a := by
  have hsame : ∀ b, SystemStepped s s b := fun b => .of_customers rfl fun _ _ _ hc _ => hc
  unfold customerStep
  cases a with
  | ensureCustomer serviceInstance user =>
    simp only
    split
    · unfold CustomerSystem.ensure
      split
      · exact .of_customers rfl (resolvedKept_append rfl)
      · exact .of_customers rfl (resolvedKept_append rfl)
    · exact hsame _
  | advance w input =>
    simp only
    split
    · rename_i call hw
      cases hstep : provisionStep runtime input s.users s.customers call with
      | mk rows' stage' =>
        have hspec := provisionStep_spec hiso hs.rows (hs.calls call (List.mem_of_getElem? hw)) hstep
        refine ⟨hspec.kept, resolvedKept_set hw rfl ?_, ?_⟩
        · intro r hr
          rw [provisionStep_resolved hr] at hstep
          cases hstep
          rfl
        · intro hne
          obtain ⟨r, hr⟩ := hspec.wrote hne
          refine ⟨w, input, { call with stage := stage' }, r, rfl, ?_, hr⟩
          exact List.getElem?_set_self (List.getElem?_eq_some_iff.mp hw).1
    · exact hsame _
  | fail w =>
    simp only
    split
    · rename_i call hw
      refine .of_customers rfl (resolvedKept_set hw rfl fun r hr => ?_)
      rw [hr]
      rfl
    · exact hsame _
  | release serviceInstance user =>
    simp only
    split
    · split
      · exact .of_customers rfl fun _ _ _ hc _ => hc
      · exact hsame _
    · exact hsame _

/-! ## Runs -/

theorem kept_run {runtime : CustomerRuntime}
    (hiso : ∀ now, runtime.billing.isoDateTime (runtime.billing.storedInstant now) = true)
    {s : CustomerSystem} (hs : SystemOk runtime s) (as : List CustomerAction) :
    RowsKept s.customers (Runs.run (customerStep runtime) s as).customers ∧
      ResolvedKept s (Runs.run (customerStep runtime) s as) := by
  induction as generalizing s with
  | nil => exact ⟨RowsKept.refl _, fun _ _ _ hc _ => hc⟩
  | cons a as ih =>
    have hstep := customerStep_stepped hiso hs a
    obtain ⟨hkept, hresolved⟩ := ih (customerStep_ok hiso s a hs)
    refine ⟨hstep.kept.trans hkept, fun w c r hc hr => ?_⟩
    exact hresolved w c r (hstep.resolved w c r hc hr) hr

theorem SystemOk.reports {runtime : CustomerRuntime} {s : CustomerSystem} (hs : SystemOk runtime s)
    {w : ℕ} {c : CustomerCall} {r : ProvisioningResult} (hw : s.calls[w]? = some c)
    (hr : s.stageOf w = some (.resolved r)) : Reports s.customers c.userId r := by
  unfold CustomerSystem.stageOf at hr
  rw [hw] at hr
  simp only at hr
  split at hr
  · rename_i leader hjoined
    obtain ⟨call, hcall, huser⟩ := hs.joined c (List.mem_of_getElem? hw) leader hjoined
    rw [hcall] at hr
    have hstage := hs.calls call (List.mem_of_getElem? hcall)
    rw [Option.some.inj hr] at hstage
    rw [← huser]
    exact hstage
  · have hstage := hs.calls c (List.mem_of_getElem? hw)
    rw [Option.some.inj hr] at hstage
    exact hstage

/-- **Provisioning is exactly-once and never crosses users.**  After any steps `as` of any calls:
    one row per user; no provider identifier at two users; every provisioned row is unchanged after
    any further steps `bs`; a call that has succeeded reports the caller's own stored provisioned
    row; and a step that changed the table was the step of a call that has succeeded, so a call that
    rejects has written nothing. -/
theorem provisioning_is_exactly_once (runtime : CustomerRuntime)
    (hiso : ∀ now, runtime.billing.isoDateTime (runtime.billing.storedInstant now) = true)
    (s : CustomerSystem) (hs : s.Initial) (as bs : List CustomerAction) :
    let t := Runs.run (customerStep runtime) s as
    (t.customers.map BillingCustomerRow.userId).Nodup ∧
      (∀ a ∈ t.customers, ∀ b ∈ t.customers, a.userId ≠ b.userId → a.sharesIdentity b = false) ∧
      (∀ row ∈ t.customers, row.status = .provisioned →
        row ∈ (Runs.run (customerStep runtime) t bs).customers) ∧
      (∀ (w : ℕ) c r, t.calls[w]? = some c → t.stageOf w = some (.resolved r) →
        Reports t.customers c.userId r) ∧
      (∀ pre a post, as = pre ++ a :: post →
        (Runs.run (customerStep runtime) s (pre ++ [a])).customers ≠
          (Runs.run (customerStep runtime) s pre).customers →
        ∃ w input r, a = .advance w input ∧ t.stageOf w = some (.resolved r)) := by
  intro t
  have hkeeps : ∀ s a, SystemOk runtime s → SystemOk runtime (customerStep runtime s a) :=
    customerStep_ok hiso
  have ht : SystemOk runtime t := Runs.inv_run_always _ hkeeps (hs.ok runtime) as
  refine ⟨ht.rows.users, ht.rows.apart, ?_, fun w c r hw hr => ht.reports hw hr, ?_⟩
  · intro row hrow hstatus
    apply (kept_run hiso ht bs).1 row hrow
    rw [hstatus]
    decide
  · rintro pre a post has hne
    have hpre : SystemOk runtime (Runs.run (customerStep runtime) s pre) :=
      Runs.inv_run_always _ hkeeps (hs.ok runtime) pre
    have hsplit : t = Runs.run (customerStep runtime)
        (customerStep runtime (Runs.run (customerStep runtime) s pre) a) post := by
      rw [← Runs.run_cons, ← Runs.run_append, ← has]
    rw [Runs.run_append] at hne
    obtain ⟨w, input, c, r, ha, hw, hr⟩ := (customerStep_stepped hiso hpre a).wrote hne
    refine ⟨w, input, r, ha, ?_⟩
    have hlater := (kept_run hiso (hkeeps _ a hpre) post).2 w c r hw hr
    rw [← hsplit] at hlater
    unfold CustomerSystem.stageOf
    rw [hlater]
    simp only [hr]

/-! ## A race -/

def plainRuntime : CustomerRuntime where
  billing := ⟨id, fun _ => true, id⟩
  emailShaped s := s.toList.contains '@'
  lower s := String.ofList (s.toList.map Char.toLower)

/-- Two users and no customer. -/
def twoUsers : CustomerSystem where
  users := [⟨Uuid.ofDigit 1, "Ada@Example.com"⟩, ⟨Uuid.ofDigit 2, "bob@example.com"⟩]
  customers := []
  inflight := []
  calls := []

/-- The provider has customer `CUS_1` for whoever asks. -/
def sameCustomer (user : Uuid) (email : String) : ProviderAnswer :=
  .value (some {
    id := (Uuid.ofDigit 9).text, userId := user.text, email := email
    providerCustomerId := none, providerCustomerCode := some "CUS_1", status := .provisioned
    lastReference := none, provisionedAt := none
    createdAt := "2026-01-01T00:00:00.000Z", updatedAt := "2026-01-01T00:00:00.000Z" })

def provisionInput (answer : ProviderAnswer) (newId : Fin 16) : ProvisionInput :=
  ⟨true, answer, Uuid.ofDigit newId, "2026-01-01T10:00:00.000Z", false⟩

/-- Two instances provision the first user, a third call joins the first, and the second user is
    answered with the same customer. -/
def customerRace : List CustomerAction :=
  let ada := provisionInput (sameCustomer (Uuid.ofDigit 1) "ada@example.com") 5
  let bob := provisionInput (sameCustomer (Uuid.ofDigit 2) "bob@example.com") 6
  [.ensureCustomer 0 (Uuid.ofDigit 1).text, .ensureCustomer 1 (Uuid.ofDigit 1).text,
    .ensureCustomer 0 (Uuid.ofDigit 1).text, .ensureCustomer 0 (Uuid.ofDigit 2).text,
    .advance 0 ada, .advance 1 ada, .advance 0 ada, .advance 1 ada, .advance 0 ada, .advance 1 ada,
    .advance 1 ada, .advance 0 ada, .advance 0 ada,
    .advance 3 bob, .advance 3 bob, .advance 3 bob, .advance 3 bob, .advance 3 bob]

/-- The second instance wins, the first and the joined call report its row, the second user is
    refused. -/
theorem provisioning_race_ends_once :
    let t := Runs.run (customerStep plainRuntime) twoUsers customerRace
    t.customers.length = 1 ∧ (t.customers.map BillingCustomerRow.userId).Nodup ∧
      t.stageOf 2 =
        some (.resolved ⟨.already_provisioned, "ada@example.com", "2026-01-01T10:00:00.000Z"⟩) ∧
      Reports t.customers (Uuid.ofDigit 1)
        ⟨.already_provisioned, "ada@example.com", "2026-01-01T10:00:00.000Z"⟩ ∧
      t.stageOf 3 = some (.rejected .customer_identity_conflict) := by
  have hinitial : twoUsers.Initial := ⟨⟨List.nodup_nil, fun a ha => by cases ha⟩, rfl, rfl⟩
  obtain ⟨hnodup, -, -, hreports, -⟩ :=
    provisioning_is_exactly_once plainRuntime (fun _ => rfl) twoUsers hinitial customerRace []
  obtain ⟨hjoined, hstage, hone, hrefused⟩ :
      (Runs.run (customerStep plainRuntime) twoUsers customerRace).calls[2]? =
        some ⟨(Uuid.ofDigit 1).text, Uuid.ofDigit 1, .joined 0⟩ ∧
      (Runs.run (customerStep plainRuntime) twoUsers customerRace).stageOf 2 =
        some (.resolved ⟨.already_provisioned, "ada@example.com", "2026-01-01T10:00:00.000Z"⟩) ∧
      (Runs.run (customerStep plainRuntime) twoUsers customerRace).customers.length = 1 ∧
      (Runs.run (customerStep plainRuntime) twoUsers customerRace).stageOf 3 =
        some (.rejected .customer_identity_conflict) := by
    decide +kernel
  exact ⟨hone, hnodup, hstage, hreports 2 _ _ hjoined hstage, hrefused⟩

end VeltrixEye.Billing
