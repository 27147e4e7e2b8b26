import VeltrixEye.Mutations.Steps

/-!
# Live mutations and retry lineages

The unique indexes are not deferred, so they hold between any two statements; what a lineage looks
like follows from how a retry is written: its row, the mark on its parent and the reads that allowed
both are one transaction, and the mark is refused when the parent has changed since it was read.

* `ledgerRows_reached` — in every state of every run.
-/

namespace VeltrixEye

/-- The provider binding of a mutation. -/
def IntentRow.binding (r : IntentRow) : String × ProviderEnvironment × Option String :=
  (r.providerSlug, r.environment, r.accountRef)

/-- `r` is the retry that continues `q`. -/
structure Continues (q r : IntentRow) : Prop where
  parent : r.parentIntentId = some q.id
  superseded : q.supersededByIntentId = some r.id
  attempt : r.attempt = q.attempt + 1
  root : r.rootIntentId = some q.lineage
  eligible : q.retryEligible = true
  binding : r.binding = q.binding

/-- The rows of the ledger. -/
structure LedgerRows (db : MutationDb) : Prop where
  checks : ∀ r ∈ db.intents, r.checks = true
  status : ∀ r ∈ db.intents, r.status ≠ .prepared
  version : ∀ r ∈ db.intents, 2 ≤ r.stateVersion
  parent : ∀ r ∈ db.intents, r.parentIntentId ≠ none → ∃ q ∈ db.intents, Continues q r
  superseded : ∀ q ∈ db.intents, q.supersededByIntentId ≠ none → ∃ r ∈ db.intents, Continues q r

/-! ## Rows under a change -/

section Rows

variable {db db' : MutationDb}

theorem Evolves.retryEligible {r r' : IntentRow} (h : Evolves r r') (hr : r.retryEligible = true) :
    r'.retryEligible = true := by
  unfold IntentRow.retryEligible at hr ⊢
  have hterminal : r.status.terminal = true := by
    cases hs : r.status <;> simp_all [ProviderIntentState.terminal]
  obtain ⟨hstatus, hresolution⟩ := h.terminal hterminal
  rw [hstatus]
  cases hs : r.status with
  | reconciled => rw [hresolution hs]; simpa [hs] using hr
  | rejected => rfl
  | _ => simp [hs] at hr

theorem Continues.mono {q q' r r' : IntentRow} (h : Continues q r) (hq : Evolves q q')
    (hr : Evolves r r') : Continues q' r' := by
  refine ⟨?_, ?_, ?_, ?_, hq.retryEligible h.eligible, ?_⟩
  · rw [hr.column (·.parentIntentId) fun _ => rfl, h.parent, hq.id_eq]
  · rw [hq.superseded (by simp [h.superseded]), h.superseded, hr.id_eq]
  · rw [hr.column (·.attempt) fun _ => rfl, h.attempt, hq.column (·.attempt) fun _ => rfl]
  · rw [hr.column (·.rootIntentId) fun _ => rfl, h.root, hq.lineage_eq]
  · rw [hr.column (·.binding) fun _ => rfl, h.binding, hq.column (·.binding) fun _ => rfl]

theorem Change.later (h : Change db db') (huniq : db.intents.Pairwise Compatible) {r : IntentRow}
    (hr : r ∈ db.intents) : ∃ r' ∈ db'.intents, Evolves r r' :=
  h.snapshot huniq (snapshot_of_mem hr)

theorem LedgerTransition.not_prepared {args : TransitionArgs} (h : LedgerTransition args) :
    args.toState ≠ .prepared := by
  cases h with
  | outcome n _ => cases ho : n.outcome <;> simp [outcomeTransition, ho]
  | resolution r e actor => simp [resolutionTransition]
  | recovery => simp [recoveryTransition]

theorem Change.written (h : Change db db') {r' : IntentRow} (hr' : r' ∈ db'.intents) :
    r' ∈ db.intents ∨ (r'.checks = true ∧ r'.status ≠ .prepared) := by
  cases h with
  | same hintents _ _ => exact .inl (hintents ▸ hr')
  | submitted intent reservation hauth _ hintents _ _ =>
    rw [hintents] at hr'
    rcases List.mem_append.mp hr' with hr' | hr'
    · exact .inl hr'
    · rw [List.mem_singleton.mp hr']
      exact .inr ⟨hauth.checks, by simp [hauth.status]⟩
  | retried parent intent reservation a hauth _ heligible _ _ _ _ _ _ _ hchecks _ hintents _ _ =>
    rw [hintents] at hr'
    rcases List.mem_append.mp hr' with hr' | hr'
    · rcases mem_putIntent hr' with rfl | ⟨hr', -⟩
      · refine .inr ⟨hchecks, fun hprepared => ?_⟩
        have hstatus : parent.status = .prepared := hprepared
        simp [IntentRow.retryEligible, hstatus] at heligible
      · exact .inl hr'
    · rw [List.mem_singleton.mp hr']
      exact .inr ⟨hauth.checks, by simp [hauth.status]⟩
  | consumed old _ hstatus hchecks _ hintents _ _ =>
    rw [hintents] at hr'
    rcases mem_putIntent hr' with rfl | ⟨hr', -⟩
    · exact .inr ⟨hchecks, by simp [IntentRow.bumped, hstatus]⟩
    · exact .inl hr'
  | moved args now old reservation hargs _ hmoved =>
    rw [hmoved.intents] at hr'
    rcases mem_putIntent hr' with rfl | ⟨hr', -⟩
    · exact .inr ⟨hmoved.checks, hargs.not_prepared⟩
    · exact .inl hr'

theorem Change.continued (h : Change db db') {r' : IntentRow} (hr' : r' ∈ db'.intents) :
    (∃ r ∈ db.intents, Evolves r r' ∧ r'.supersededByIntentId = r.supersededByIntentId) ∨
      (∃ r ∈ db.intents, Evolves r r' ∧ ∃ x ∈ db'.intents, Continues r' x) ∨
      (r'.supersededByIntentId = none ∧
        (r'.parentIntentId = none ∨ ∃ q ∈ db'.intents, Continues q r')) := by
  cases h with
  | same hintents _ _ => exact .inl ⟨r', hintents ▸ hr', .refl r', rfl⟩
  | submitted intent reservation hauth hparent hintents _ _ =>
    rw [hintents] at hr'
    rcases List.mem_append.mp hr' with hr' | hr'
    · exact .inl ⟨r', hr', .refl r', rfl⟩
    · rw [List.mem_singleton.mp hr']
      exact .inr (.inr ⟨hauth.unsuperseded, .inl hparent⟩)
  | retried parent intent reservation a hauth hmem heligible hnone hparent hroot hattempt hprovider
      henvironment haccount _ _ hintents _ _ =>
    have hcontinues : Continues (parent.superseded intent.id) intent :=
      ⟨hparent, rfl, hattempt, hroot, heligible, by
        simp [IntentRow.binding, IntentRow.superseded, IntentRow.bumped, hprovider, henvironment,
          haccount]⟩
    have hmarked : parent.superseded intent.id ∈ db'.intents := by
      rw [hintents]
      exact List.mem_append_left _ (mem_putIntent_self hmem rfl)
    have hnew : intent ∈ db'.intents := by simp [hintents]
    rw [hintents] at hr'
    rcases List.mem_append.mp hr' with hr' | hr'
    · rcases mem_putIntent hr' with rfl | ⟨hr', -⟩
      · exact .inr (.inl ⟨parent, hmem, superseded_evolves hnone intent.id, intent, hnew,
          hcontinues⟩)
      · exact .inl ⟨r', hr', .refl r', rfl⟩
    · rw [List.mem_singleton.mp hr']
      exact .inr (.inr ⟨hauth.unsuperseded, .inr ⟨_, hmarked, hcontinues⟩⟩)
  | consumed old hmem _ _ _ hintents _ _ =>
    rw [hintents] at hr'
    rcases mem_putIntent hr' with rfl | ⟨hr', -⟩
    · exact .inl ⟨old, hmem, consumed_evolves old, rfl⟩
    · exact .inl ⟨r', hr', .refl r', rfl⟩
  | moved args now old reservation _ hopen hmoved =>
    rw [hmoved.intents] at hr'
    rcases mem_putIntent hr' with rfl | ⟨hr', -⟩
    · exact .inl ⟨old, hmoved.mem, hmoved.evolves hopen, rfl⟩
    · exact .inl ⟨r', hr', .refl r', rfl⟩

/-- **Every change keeps the rows of the ledger in order.** -/
theorem ledgerRows_change (huniq : db.intents.Pairwise Compatible) (hchange : Change db db')
    (h : LedgerRows db) : LedgerRows db' := by
  -- a row that continues another in the old table does so in the new one
  have hlater : ∀ {q r r' : IntentRow}, q ∈ db.intents → Continues q r → Evolves r r' →
      ∃ q' ∈ db'.intents, Continues q' r' := by
    intro q r r' hq hcontinues hev
    obtain ⟨q', hq', hevq⟩ := hchange.later huniq hq
    exact ⟨q', hq', hcontinues.mono hevq hev⟩
  refine ⟨fun r' hr' => ?_, fun r' hr' => ?_, fun r' hr' => ?_, fun r' hr' hparent => ?_,
    fun q' hq' hsuperseded => ?_⟩
  · rcases hchange.written hr' with hr' | ⟨hchecks, -⟩
    · exact h.checks r' hr'
    · exact hchecks
  · rcases hchange.written hr' with hr' | ⟨-, hstatus⟩
    · exact h.status r' hr'
    · exact hstatus
  · rcases hchange.origin huniq hr' with ⟨r, hr, hev⟩ | ⟨-, hversion⟩
    · exact (h.version r hr).trans hev.version
    · omega
  · have hold : ∀ r ∈ db.intents, Evolves r r' → ∃ q ∈ db'.intents, Continues q r' := by
      intro r hr hev
      rw [hev.column (·.parentIntentId) fun _ => rfl] at hparent
      obtain ⟨q, hq, hcontinues⟩ := h.parent r hr hparent
      exact hlater hq hcontinues hev
    rcases hchange.continued hr' with ⟨r, hr, hev, -⟩ | ⟨r, hr, hev, -⟩ | ⟨-, hnone | hnew⟩
    · exact hold r hr hev
    · exact hold r hr hev
    · exact absurd hnone hparent
    · exact hnew
  · rcases hchange.continued hq' with ⟨q, hq, hev, hmark⟩ | ⟨q, hq, hev, hnew⟩ | ⟨hnone, -⟩
    · rw [hmark] at hsuperseded
      obtain ⟨r, hr, hcontinues⟩ := h.superseded q hq hsuperseded
      obtain ⟨r', hr', hevr⟩ := hchange.later huniq hr
      exact ⟨r', hr', hcontinues.mono hev hevr⟩
    · exact hnew
    · exact absurd hnone hsuperseded

end Rows

theorem ledgerRows_reached {env : MutationEnv} {actions : List MutationAction} {s : MutationState}
    (h : Runs.Reached (mutationStep env) .empty actions s) : LedgerRows s.db :=
  db_reached (by constructor <;> simp [MutationDb.empty])
    (fun _ _ huniq hchange hrows => ledgerRows_change huniq hchange hrows) h

/-! ## Lineages -/

/-- The lineage of a root is a path of `n` attempts: each attempt has one member, which the next one
continues, and all of them keep the binding. -/
structure LineagePath (db : MutationDb) (root : Uuid) (n : ℕ) : Prop where
  attempts : ∀ r ∈ db.intents, r.lineage = root → 1 ≤ r.attempt ∧ r.attempt ≤ n
  member : ∀ k, 1 ≤ k → k ≤ n → ∃! r, r ∈ db.intents ∧ r.lineage = root ∧ r.attempt = k
  continued : ∀ a ∈ db.intents, ∀ b ∈ db.intents, a.lineage = root → b.lineage = root →
    b.attempt = a.attempt + 1 →
      b.parentIntentId = some a.id ∧ a.supersededByIntentId = some b.id
  closed : ∀ a ∈ db.intents, a.lineage = root → a.attempt < n →
    a.retryEligible = true ∧ a.supersededByIntentId ≠ none
  newest : ∀ a ∈ db.intents, a.lineage = root → a.attempt = n → a.supersededByIntentId = none
  binding : ∀ a ∈ db.intents, ∀ b ∈ db.intents, a.lineage = root → b.lineage = root →
    a.binding = b.binding

section Paths

variable {db : MutationDb}

theorem lineageCheck_of_checks {r : IntentRow} (h : r.checks = true) : r.lineageCheck = true := by
  simp only [IntentRow.checks, Bool.and_eq_true] at h
  exact h.2

theorem LedgerRows.attempt_pos (h : LedgerRows db) {r : IntentRow} (hr : r ∈ db.intents) :
    1 ≤ r.attempt := by
  have hcheck := lineageCheck_of_checks (h.checks r hr)
  simp only [IntentRow.lineageCheck, Bool.or_eq_true, Bool.and_eq_true, beq_iff_eq,
    decide_eq_true_eq] at hcheck
  omega

theorem LedgerRows.root_of_first (h : LedgerRows db) {r : IntentRow} (hr : r ∈ db.intents)
    (hfirst : r.attempt = 1) : r.lineage = r.id := by
  have hcheck := lineageCheck_of_checks (h.checks r hr)
  simp only [IntentRow.lineageCheck, hfirst, Bool.or_eq_true, Bool.and_eq_true] at hcheck
  rcases hcheck with ⟨-, hroot⟩ | hcheck
  · rw [IntentRow.lineage, Option.isNone_iff_eq_none.mp hroot]
    rfl
  · simp at hcheck

theorem LedgerRows.previous (h : LedgerRows db) {r : IntentRow} (hr : r ∈ db.intents)
    (hlater : 2 ≤ r.attempt) :
    ∃ q ∈ db.intents, Continues q r ∧ q.lineage = r.lineage ∧ q.attempt + 1 = r.attempt := by
  have hcheck := lineageCheck_of_checks (h.checks r hr)
  have hparent : r.parentIntentId ≠ none := by
    intro hnone
    have hne : r.attempt ≠ 1 := by omega
    simp [IntentRow.lineageCheck, hnone, hne] at hcheck
  obtain ⟨q, hq, hcontinues⟩ := h.parent r hr hparent
  refine ⟨q, hq, hcontinues, ?_, hcontinues.attempt.symm⟩
  rw [IntentRow.lineage.eq_1 r, hcontinues.root]
  rfl

theorem LedgerRows.eq_of_attempt (h : LedgerRows db) (huniq : db.intents.Pairwise Compatible)
    (k : ℕ) : ∀ a ∈ db.intents, ∀ b ∈ db.intents, a.lineage = b.lineage → a.attempt = k →
      b.attempt = k → a = b := by
  -- the attempts before them are one by induction, and its mark names both
  induction k with
  | zero =>
    intro a ha b hb _ hak _
    have := h.attempt_pos ha
    omega
  | succ k ih =>
    intro a ha b hb hlineage hak hbk
    rcases Nat.eq_zero_or_pos k with rfl | hk
    · rw [h.root_of_first ha hak, h.root_of_first hb hbk] at hlineage
      exact eq_of_id_eq huniq ha hb hlineage
    · obtain ⟨p, hp, hpa, hpl, hpk⟩ := h.previous ha (by omega)
      obtain ⟨q, hq, hqb, hql, hqk⟩ := h.previous hb (by omega)
      obtain rfl := ih p hp q hq (by rw [hpl, hql, hlineage]) (by omega) (by omega)
      have hmark := hpa.superseded.symm.trans hqb.superseded
      exact eq_of_id_eq huniq ha hb (Option.some.inj hmark)

theorem LedgerRows.earlier (h : LedgerRows db) {k : ℕ} (hk : 1 ≤ k) (j : ℕ) :
    ∀ r ∈ db.intents, r.attempt = k + j →
      ∃ q ∈ db.intents, q.lineage = r.lineage ∧ q.attempt = k := by
  induction j with
  | zero => exact fun r hr hattempt => ⟨r, hr, rfl, hattempt⟩
  | succ j ih =>
    intro r hr hattempt
    obtain ⟨p, hp, -, hlineage, hprevious⟩ := h.previous hr (by omega)
    obtain ⟨q, hq, hql, hqk⟩ := ih p hp (by omega)
    exact ⟨q, hq, hql.trans hlineage, hqk⟩

theorem LedgerRows.binding_eq (h : LedgerRows db) (huniq : db.intents.Pairwise Compatible)
    {first : IntentRow} (hfirst : first ∈ db.intents) (hone : first.attempt = 1) (k : ℕ) :
    ∀ r ∈ db.intents, r.lineage = first.lineage → r.attempt = k + 1 →
      r.binding = first.binding := by
  induction k with
  | zero =>
    intro r hr hlineage hattempt
    rw [h.eq_of_attempt huniq 1 r hr first hfirst hlineage hattempt hone]
  | succ k ih =>
    intro r hr hlineage hattempt
    obtain ⟨q, hq, hcontinues, hql, hqk⟩ := h.previous hr (by omega)
    rw [hcontinues.binding, ih q hq (hql.trans hlineage) (by omega)]

theorem exists_newest (root : Uuid) :
    (∀ r ∈ db.intents, r.lineage ≠ root) ∨
      ∃ top ∈ db.intents, top.lineage = root ∧
        ∀ r ∈ db.intents, r.lineage = root → r.attempt ≤ top.attempt := by
  by_cases hmembers : ∃ r ∈ db.intents, r.lineage = root
  · right
    obtain ⟨r, hr, hroot⟩ := hmembers
    have hnonempty : (db.intents.filter (·.lineage = root)).toFinset.Nonempty :=
      ⟨r, by simp [hr, hroot]⟩
    obtain ⟨top, htop, hmax⟩ := Finset.exists_max_image _ (·.attempt) hnonempty
    have htop : top ∈ db.intents ∧ top.lineage = root := by simpa using htop
    exact ⟨top, htop.1, htop.2, fun r hr hroot => hmax r (by simp [hr, hroot])⟩
  · left
    exact fun r hr hroot => hmembers ⟨r, hr, hroot⟩

theorem LedgerRows.path (h : LedgerRows db) (huniq : db.intents.Pairwise Compatible) (root : Uuid) :
    ∃ n, LineagePath db root n := by
  rcases @exists_newest db root with hnone | ⟨top, htop, hroot, hmax⟩
  · refine ⟨0, fun r hr hr' => absurd hr' (hnone r hr), fun k hk hk' => by omega,
      fun a ha _ _ ha' => absurd ha' (hnone a ha), fun a ha ha' => absurd ha' (hnone a ha),
      fun a ha ha' => absurd ha' (hnone a ha), fun a ha _ _ ha' => absurd ha' (hnone a ha)⟩
  -- the member of every attempt up to the newest
  have hmember : ∀ k, 1 ≤ k → k ≤ top.attempt →
      ∃ r ∈ db.intents, r.lineage = root ∧ r.attempt = k := by
    intro k hk hle
    obtain ⟨r, hr, hlineage, hattempt⟩ := h.earlier hk (top.attempt - k) top htop (by omega)
    exact ⟨r, hr, hlineage.trans hroot, hattempt⟩
  have hcontinued : ∀ a ∈ db.intents, ∀ b ∈ db.intents, a.lineage = root → b.lineage = root →
      b.attempt = a.attempt + 1 → Continues a b := by
    intro a ha b hb haroot hbroot hattempt
    have hpos := h.attempt_pos ha
    obtain ⟨q, hq, hcontinues, hql, hqk⟩ := h.previous hb (by omega)
    obtain rfl := h.eq_of_attempt huniq a.attempt a ha q hq (by rw [haroot, hql, hbroot]) rfl
      (by omega)
    exact hcontinues
  refine ⟨top.attempt, fun r hr hr' => ⟨h.attempt_pos hr, hmax r hr hr'⟩, ?_, ?_, ?_, ?_, ?_⟩
  · intro k hk hle
    obtain ⟨r, hr, hlineage, hattempt⟩ := hmember k hk hle
    refine ⟨r, ⟨hr, hlineage, hattempt⟩, ?_⟩
    rintro r' ⟨hr', hlineage', hattempt'⟩
    exact h.eq_of_attempt huniq k r' hr' r hr (hlineage'.trans hlineage.symm) hattempt' hattempt
  · intro a ha b hb haroot hbroot hattempt
    have hcontinues := hcontinued a ha b hb haroot hbroot hattempt
    exact ⟨hcontinues.parent, hcontinues.superseded⟩
  · intro a ha haroot hlt
    obtain ⟨b, hb, hbroot, hattempt⟩ := hmember (a.attempt + 1) (by omega) (by omega)
    have hcontinues := hcontinued a ha b hb haroot hbroot hattempt
    exact ⟨hcontinues.eligible, by simp [hcontinues.superseded]⟩
  · intro a ha haroot hnewest
    by_contra hsuperseded
    obtain ⟨r, hr, hcontinues⟩ := h.superseded a ha hsuperseded
    have hlineage : r.lineage = root := by
      rw [IntentRow.lineage, hcontinues.root]
      exact haroot
    have hle := hmax r hr hlineage
    have hattempt := hcontinues.attempt
    omega
  · intro a ha b hb haroot hbroot
    obtain ⟨first, hfirst, hfroot, hone⟩ := hmember 1 (le_refl 1) (h.attempt_pos htop)
    have hbinding : ∀ r ∈ db.intents, r.lineage = root → r.binding = first.binding := by
      intro r hr hlineage
      have hpos := h.attempt_pos hr
      exact h.binding_eq huniq hfirst hone (r.attempt - 1) r hr (hlineage.trans hfroot.symm)
        (by omega)
    rw [hbinding a ha haroot, hbinding b hb hbroot]

theorem eq_of_live (huniq : db.intents.Pairwise Compatible) {a b : IntentRow}
    (ha : a ∈ db.intents) (hb : b ∈ db.intents)
    (hprofile : a.executionProfileId = b.executionProfileId) (hmanaged : a.orderId ≠ none)
    (horder : a.orderId = b.orderId) (hlive : a.live = true) (hlive' : b.live = true) : a = b := by
  by_contra hne
  have hindex := compatible_of_ne huniq ha hb hne .orderLive
  simp [IntentIndex.collide, hprofile, ← horder, hlive, hlive', hmanaged] at hindex

end Paths

/-- **At most one mutation of an order is live, and every lineage is a path**, in every state of every
run. -/
theorem live_and_lineage_invariant (env : MutationEnv) (actions : List MutationAction) :
    let db := (Runs.run (mutationStep env) .empty actions).db
    (∀ a ∈ db.intents, ∀ b ∈ db.intents, a.executionProfileId = b.executionProfileId →
      a.orderId ≠ none → a.orderId = b.orderId → a.live = true → b.live = true → a = b) ∧
    ∀ root, ∃ n, LineagePath db root n := by
  have hreached := Runs.reached_last (mutationStep env) .empty actions
  have huniq := (mutationInv_reached hreached).compatible
  exact ⟨fun a ha b hb => eq_of_live huniq ha hb, (ledgerRows_reached hreached).path huniq⟩

/-! ## What the ledger keeps -/

theorem later_run {env : MutationEnv} {s : MutationState} (hs : MutationInv s) (actions : List MutationAction)
    {r : IntentRow} (hr : r ∈ s.db.intents) :
    ∃ r' ∈ (Runs.run (mutationStep env) s actions).db.intents, Evolves r r' := by
  induction actions generalizing s r with
  | nil => exact ⟨r, hr, .refl r⟩
  | cons action actions ih =>
    have hchange := (mutationStep_stepped env action hs.tasks).change hs
    obtain ⟨q, hq, hrq⟩ := hchange.later hs.compatible hr
    obtain ⟨r', hr', hqr⟩ := ih (mutationInv_step s action hs) hq
    exact ⟨r', hr', hrq.trans hqr⟩

/-- **A recorded mutation is never lost, duplicated or rewritten**: after any run and any further run each
intent has exactly one row, with the same identity, a version that has not decreased, the same status once
it was terminal and the same successor once it had one. -/
theorem intents_are_never_rewritten (env : MutationEnv) (before after : List MutationAction) :
    let s := Runs.run (mutationStep env) .empty before
    ∀ r ∈ s.db.intents,
      ∃! r', r' ∈ (Runs.run (mutationStep env) s after).db.intents ∧ Evolves r r' := by
  intro s r hr
  have hs : MutationInv s := mutationInv_reached (Runs.reached_last (mutationStep env) .empty before)
  obtain ⟨r', hr', hev⟩ := @later_run env s hs after r hr
  have huniq := (Runs.inv_run_always (mutationStep env) mutationInv_step hs after).compatible
  refine ⟨r', ⟨hr', hev⟩, ?_⟩
  rintro x ⟨hx, hevx⟩
  exact eq_of_id_eq huniq hx hr' (hevx.id_eq.trans hev.id_eq.symm)

end VeltrixEye
