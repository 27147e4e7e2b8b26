import VeltrixEye.Lib.Numerals
import VeltrixEye.Execution.Authorization

/-!
# Runs of the authorization service and its context handoff

One service and one `createAuthorizationContextHandoff` over it, driven by any list of calls.  The
state also keeps a log, which no call reads: the records minted, consumed and removed (revoked,
evicted, expired), and the arms that ended in a successful consumption.  An arm is known by its
serial number.
-/

namespace VeltrixEye

/-! ## The handoff -/

/-- An entry of `armed`, with the serial number of the `arm` call that set it. -/
structure ArmedContext where
  authorizationId : String
  context : AuthorizationExecutionContext
  armedMs : JsNumber
  serial : ℕ

section Handoff

variable (opts : AuthorizationOptions)

def ArmedContext.expired (e : ArmedContext) (now : JsNumber) : Bool :=
  JsNumber.lt opts.ttlMs (JsNumber.sub now e.armedMs)

/-- `armed.delete(id)`. -/
def deleteArmed (id : String) (armed : List ArmedContext) : List ArmedContext :=
  armed.filter (fun e => e.authorizationId != id)

/-- The loop of `purge`; every round deletes an entry, so `armed.size` rounds are enough. -/
def evictArmed : ℕ → List ArmedContext → List ArmedContext
  | 0, armed => armed
  | rounds + 1, armed =>
    if JsNumber.lt opts.maxEntries (.fin armed.length) then
      match oldestBy (·.armedMs) armed with
      | none => armed
      | some oldest => evictArmed rounds (deleteArmed oldest.authorizationId armed)
    else armed

def purgeArmed (now : JsNumber) (armed : List ArmedContext) : List ArmedContext :=
  let live := armed.filter (fun e => !e.expired opts now)
  evictArmed opts live.length live

/-- `armed.set(e.authorizationId, e)`. -/
def setArmed (e : ArmedContext) (armed : List ArmedContext) : List ArmedContext :=
  if armed.any (fun f => f.authorizationId == e.authorizationId) then
    armed.map (fun f => if f.authorizationId = e.authorizationId then e else f)
  else armed ++ [e]

/-- `arm`; an empty id is refused before anything is purged. -/
def armContext (e : ArmedContext) (purgeMs : JsNumber) (armed : List ArmedContext) :
    List ArmedContext :=
  if e.authorizationId.isEmpty then armed else setArmed e (purgeArmed opts purgeMs armed)

/-- The handoff's `consumeAuthorization`, up to the call of the service: the entry is gone before
its age is checked. -/
def takeArmed (id : String) (now : JsNumber) (armed : List ArmedContext) :
    List ArmedContext × Except AuthorizationError ArmedContext :=
  match armed.find? (fun e => e.authorizationId == id) with
  | none =>
    (armed, .error "no armed execution context for this authorization; the provider call is refused")
  | some e =>
    if e.expired opts now then
      (deleteArmed id armed,
        .error "armed execution context has expired; the provider call is refused")
    else (deleteArmed id armed, .ok e)

end Handoff

/-! ## Calls and their log -/

inductive AuthorizationEvent where
  | minted (a : ExecutionAuthorization)
  | consumed (a : ExecutionAuthorization) (r : AuthorizedRequest)
      (context : AuthorizationExecutionContext) (now : JsNumber)
  | removed (id : String)
  | handed (serial : ℕ)
  deriving DecidableEq

/-- The event ends the life of an authorization. -/
def AuthorizationEvent.Ends (id : String) : AuthorizationEvent → Prop
  | .consumed a _ _ _ => a.id = id
  | .removed id' => id' = id
  | _ => False

structure AuthorizationState where
  store : List ExecutionAuthorization
  armed : List ArmedContext
  /-- The number of `arm` calls made. -/
  arms : ℕ
  events : List AuthorizationEvent

def AuthorizationState.empty : AuthorizationState := ⟨[], [], 0, []⟩

/-- The calls; every reading of a clock is an argument. -/
inductive AuthorizationAction where
  | create (input : CreateAuthorizationInput) (id : String) (clock : CreateReadings)
  | consume (id : String) (r : AuthorizedRequest) (context : AuthorizationExecutionContext)
      (now : JsNumber)
  | peek (id : String) (now : JsNumber)
  | revoke (id : String)
  | clearExpired (now : JsNumber)
  | arm (id : String) (context : AuthorizationExecutionContext) (purgeMs armedMs : JsNumber)
  | disarm (id : String)
  | handoffConsume (id : String) (r : AuthorizedRequest) (handoffMs now : JsNumber)

/-- The records a call took out of the store. -/
def removedEvents (before after : List ExecutionAuthorization) : List AuthorizationEvent :=
  (before.filter (fun a => !after.any (fun b => b.id == a.id))).map (fun a => .removed a.id)

/-- A call replaced the store; its own events come before the removals. -/
def AuthorizationState.commit (s : AuthorizationState) (own : List AuthorizationEvent)
    (store : List ExecutionAuthorization) : AuthorizationState :=
  { s with store, events := s.events ++ own ++ removedEvents s.store store }

section Step

variable (opts handoff : AuthorizationOptions)

/-- `service.consumeAuthorization`; `handedOver` is logged when it succeeds. -/
def AuthorizationState.consume (s : AuthorizationState) (id : String) (r : AuthorizedRequest)
    (context : AuthorizationExecutionContext) (now : JsNumber)
    (handedOver : List AuthorizationEvent) : AuthorizationState :=
  match consumeAuthorization opts id r context now s.store with
  | (store, .error _) => s.commit [] store
  | (store, .ok a) =>
    s.commit (.consumed { a with consumed := false } r context now :: handedOver) store

def authorizationStep (s : AuthorizationState) : AuthorizationAction → AuthorizationState
  | .create input id clock =>
    match createAuthorization opts input id clock s.store with
    | (store, .error _) => s.commit [] store
    | (store, .ok a) => s.commit [.minted a] store
  | .consume id r context now => s.consume opts id r context now []
  | .peek id now => s.commit [] (peekAuthorization opts id now s.store).1
  | .revoke id => s.commit [] (deleteAuthorization id s.store)
  | .clearExpired now => s.commit [] (purgeExpired opts now s.store)
  | .arm id context purgeMs armedMs =>
    { s with
      armed := armContext handoff ⟨id, context, armedMs, s.arms⟩ purgeMs s.armed
      arms := s.arms + 1 }
  | .disarm id => { s with armed := deleteArmed id s.armed }
  | .handoffConsume id r handoffMs now =>
    match takeArmed handoff id handoffMs s.armed with
    | (armed, .error _) => { s with armed }
    | (armed, .ok e) =>
      ({ s with armed } : AuthorizationState).consume opts id r e.context now [.handed e.serial]

/-- `randomUUID` returns an id it did not return before, and no request's quantity is `NaN`. -/
def AuthorizationOk (s : AuthorizationState) : AuthorizationAction → Prop
  | .create _ id _ => ∀ a, .minted a ∈ s.events → a.id ≠ id
  | .consume _ r _ _ => r.quantity ≠ .nan
  | .handoffConsume _ r _ _ => r.quantity ≠ .nan
  | _ => True

end Step

/-- What a consumption in the log tells: a record minted before it and not ended before it, not past
its `ttlMs`, for exactly the request and context presented. -/
def ConsumptionsSafe (opts : AuthorizationOptions) (events : List AuthorizationEvent) : Prop :=
  ∀ before after a r context now, events = before ++ .consumed a r context now :: after →
    .minted a ∈ before ∧ (∀ e ∈ before, ¬e.Ends a.id) ∧ a.expired opts now = false ∧
      PresentedFor a r context

/-- The serial numbers of the arms that ended in a successful consumption. -/
def handedSerials (events : List AuthorizationEvent) : List ℕ :=
  events.filterMap fun
    | .handed n => some n
    | _ => none

/-- What holds of a run. -/
structure AuthorizationLogSafe (opts : AuthorizationOptions) (s : AuthorizationState) : Prop where
  bound : WithinBound opts s.store.length
  consumptions : ConsumptionsSafe opts s.events
  handed : (handedSerials s.events).Nodup
  handedArmed : ∀ n ∈ handedSerials s.events, n < s.arms

/-! ## The log -/

section Log

variable {opts : AuthorizationOptions}

theorem consumptionsSafe_concat {events : List AuthorizationEvent} {e : AuthorizationEvent}
    (h : ConsumptionsSafe opts events)
    (he : ∀ a r context now, e = .consumed a r context now →
      .minted a ∈ events ∧ (∀ f ∈ events, ¬f.Ends a.id) ∧ a.expired opts now = false ∧
        PresentedFor a r context) :
    ConsumptionsSafe opts (events ++ [e]) := by
  intro before after a r context now heq
  rcases List.eq_nil_or_concat after with rfl | ⟨after, x, rfl⟩
  · obtain ⟨rfl, hlast⟩ := List.append_inj' heq rfl
    exact he a r context now (List.singleton_inj.mp hlast)
  · have hsplit : events ++ [e] = (before ++ .consumed a r context now :: after) ++ [x] := by
      simpa using heq
    obtain ⟨hevents, -⟩ := List.append_inj' hsplit rfl
    exact h before after a r context now hevents

theorem consumptionsSafe_append {events more : List AuthorizationEvent}
    (h : ConsumptionsSafe opts events)
    (hmore : ∀ a r context now, .consumed a r context now ∉ more) :
    ConsumptionsSafe opts (events ++ more) := by
  induction more generalizing events with
  | nil => simpa using h
  | cons e more ih =>
    have hone : ConsumptionsSafe opts (events ++ [e]) := by
      refine consumptionsSafe_concat h fun a r context now he => ?_
      exact absurd (he ▸ List.mem_cons_self) (hmore a r context now)
    have hrest := ih hone fun a r context now hmem =>
      hmore a r context now (List.mem_cons_of_mem _ hmem)
    simpa using hrest

theorem mem_removedEvents {before after : List ExecutionAuthorization} {e : AuthorizationEvent} :
    e ∈ removedEvents before after ↔
      ∃ a ∈ before, (∀ b ∈ after, b.id ≠ a.id) ∧ e = .removed a.id := by
  simp only [removedEvents, List.mem_map, List.mem_filter, Bool.not_eq_true', List.any_eq_false,
    beq_iff_eq, and_assoc]
  simp only [eq_comm (a := e)]

@[simp] theorem handedSerials_append (l m : List AuthorizationEvent) :
    handedSerials (l ++ m) = handedSerials l ++ handedSerials m := List.filterMap_append

@[simp] theorem handedSerials_removedEvents (before after : List ExecutionAuthorization) :
    handedSerials (removedEvents before after) = [] := by
  simp [handedSerials, removedEvents, List.filterMap_map]

end Log

/-! ## The invariant -/

/-- The live records were minted and not ended; the armed contexts were not handed over. -/
structure AuthorizationInv (opts : AuthorizationOptions) (s : AuthorizationState) : Prop where
  safe : AuthorizationLogSafe opts s
  finite : ∀ a ∈ s.store, a.Finite
  unspent : ∀ a ∈ s.store, a.consumed = false
  minted : ∀ a ∈ s.store, .minted a ∈ s.events
  live : ∀ a ∈ s.store, ∀ e ∈ s.events, ¬e.Ends a.id
  ended : ∀ e ∈ s.events, ∀ id, e.Ends id → ∃ a, .minted a ∈ s.events ∧ a.id = id
  armed : s.armed.Pairwise fun e f =>
    e.authorizationId ≠ f.authorizationId ∧ e.serial ≠ f.serial
  serials : ∀ e ∈ s.armed, e.serial < s.arms ∧ e.serial ∉ handedSerials s.events

section Inv

variable {opts handoff : AuthorizationOptions} {s : AuthorizationState}

theorem authorizationInv_commit {own : List AuthorizationEvent}
    {store : List ExecutionAuthorization} (hminted : ∀ a ∈ s.store, .minted a ∈ s.events)
    (h : AuthorizationInv opts { s with store, events := s.events ++ own }) :
    AuthorizationInv opts (s.commit own store) := by
  unfold AuthorizationState.commit
  refine ⟨⟨h.safe.bound, ?_, by simpa using h.safe.handed, by simpa using h.safe.handedArmed⟩,
    h.finite, h.unspent, ?_, ?_, ?_, h.armed, by simpa using h.serials⟩
  · refine consumptionsSafe_append h.safe.consumptions fun a r context now hmem => ?_
    obtain ⟨_, _, _, he⟩ := mem_removedEvents.mp hmem
    cases he
  · intro a ha
    exact List.mem_append_left _ (h.minted a ha)
  · intro a ha e he hends
    rcases List.mem_append.mp he with he | he
    · exact h.live a ha e he hends
    · obtain ⟨b, -, hgone, rfl⟩ := mem_removedEvents.mp he
      exact hgone a ha hends.symm
  · intro e he id hends
    rcases List.mem_append.mp he with he | he
    · obtain ⟨a, ha, hid⟩ := h.ended e he id hends
      exact ⟨a, List.mem_append_left _ ha, hid⟩
    · obtain ⟨b, hb, -, rfl⟩ := mem_removedEvents.mp he
      exact ⟨b, List.mem_append_left _ (List.mem_append_left _ (hminted b hb)), hends⟩

theorem authorizationInv_shrink (h : AuthorizationInv opts s)
    {store : List ExecutionAuthorization} (hsub : store.Sublist s.store) :
    AuthorizationInv opts (s.commit [] store) := by
  refine authorizationInv_commit h.minted ?_
  simp only [List.append_nil]
  exact
    { h with
      safe := { h.safe with bound := withinBound_mono hsub.length_le h.safe.bound }
      finite := fun a ha => h.finite a (hsub.subset ha)
      unspent := fun a ha => h.unspent a (hsub.subset ha)
      minted := fun a ha => h.minted a (hsub.subset ha)
      live := fun a ha => h.live a (hsub.subset ha) }

theorem authorizationInv_mint (h : AuthorizationInv opts s) {kept : List ExecutionAuthorization}
    (hsub : kept.Sublist s.store) (hroom : WithinBound opts (kept.length + 1))
    {a : ExecutionAuthorization} (hfinite : a.Finite) (hunspent : a.consumed = false)
    (hfresh : ∀ b, .minted b ∈ s.events → b.id ≠ a.id) :
    AuthorizationInv opts (s.commit [.minted a] (setAuthorization a kept)) := by
  have hset : setAuthorization a kept = kept ++ [a] := by
    unfold setAuthorization
    rw [if_neg]
    simp only [List.any_eq_true, beq_iff_eq, not_exists, not_and]
    exact fun b hb => hfresh b (h.minted b (hsub.subset hb))
  have hcases : ∀ {b}, b ∈ kept ++ [a] → b ∈ s.store ∨ b = a := by
    intro b hb
    rcases List.mem_append.mp hb with hb | hb
    · exact .inl (hsub.subset hb)
    · exact .inr (List.mem_singleton.mp hb)
  have hnotEnded : ∀ e ∈ s.events, ¬e.Ends a.id := by
    intro e he hends
    obtain ⟨b, hb, hid⟩ := h.ended e he _ hends
    exact hfresh b hb hid
  rw [hset]
  refine authorizationInv_commit h.minted ⟨⟨by simpa using hroom, ?_, ?_, ?_⟩, ?_, ?_, ?_, ?_, ?_,
    h.armed, ?_⟩
  · exact consumptionsSafe_append h.safe.consumptions (by simp)
  · simpa [handedSerials] using h.safe.handed
  · simpa [handedSerials] using h.safe.handedArmed
  · intro b hb
    rcases hcases hb with hb | rfl
    · exact h.finite b hb
    · exact hfinite
  · intro b hb
    rcases hcases hb with hb | rfl
    · exact h.unspent b hb
    · exact hunspent
  · intro b hb
    rcases hcases hb with hb | rfl
    · exact List.mem_append_left _ (h.minted b hb)
    · simp
  · intro b hb e he
    rcases List.mem_append.mp he with hold | hnew
    · rcases hcases hb with hb | rfl
      · exact h.live b hb e hold
      · exact hnotEnded e hold
    · rw [List.mem_singleton.mp hnew]
      exact id
  · intro e he id hends
    rcases List.mem_append.mp he with he | he
    · obtain ⟨b, hb, hid⟩ := h.ended e he id hends
      exact ⟨b, List.mem_append_left _ hb, hid⟩
    · rw [List.mem_singleton.mp he] at hends
      exact hends.elim
  · simpa [handedSerials] using h.serials

theorem authorizationInv_spend (h : AuthorizationInv opts s) {a : ExecutionAuthorization}
    (ha : a ∈ s.store) {r : AuthorizedRequest} {context : AuthorizationExecutionContext}
    {now : JsNumber} (hexpired : a.expired opts now = false) (hp : PresentedFor a r context)
    {serials : List ℕ} (hnodup : (handedSerials s.events ++ serials).Nodup)
    (hless : ∀ n ∈ serials, n < s.arms) (harmed : ∀ e ∈ s.armed, e.serial ∉ serials) :
    AuthorizationInv opts (s.commit (.consumed a r context now :: serials.map .handed)
      (deleteAuthorization a.id s.store)) := by
  have hsub := deleteAuthorization_sublist a.id s.store
  have hserials : handedSerials (.consumed a r context now :: serials.map .handed) = serials := by
    simp [handedSerials, List.filterMap_map]
  have hsafe : ConsumptionsSafe opts
      (s.events ++ .consumed a r context now :: serials.map .handed) := by
    have hone : ConsumptionsSafe opts (s.events ++ [.consumed a r context now]) := by
      refine consumptionsSafe_concat h.safe.consumptions ?_
      intro b r' context' now' he
      cases he
      exact ⟨h.minted a ha, h.live a ha, hexpired, hp⟩
    have hmore : ∀ b r' context' now', AuthorizationEvent.consumed b r' context' now' ∉
        serials.map .handed := by simp
    simpa using consumptionsSafe_append hone hmore
  refine authorizationInv_commit h.minted
    ⟨⟨withinBound_mono hsub.length_le h.safe.bound, hsafe, ?_, ?_⟩,
      fun b hb => h.finite b (hsub.subset hb), fun b hb => h.unspent b (hsub.subset hb),
      fun b hb => List.mem_append_left _ (h.minted b (hsub.subset hb)), ?_, ?_, h.armed, ?_⟩
  · rwa [handedSerials_append, hserials]
  · intro n hn
    rw [handedSerials_append, hserials] at hn
    exact (List.mem_append.mp hn).elim (h.safe.handedArmed n) (hless n)
  · intro b hb e he hends
    rcases List.mem_append.mp he with he | he
    · exact h.live b (hsub.subset hb) e he hends
    · rcases List.mem_cons.mp he with rfl | he
      · have hne : b.id ≠ a.id := by simpa using (List.mem_filter.mp hb).2
        exact hne hends.symm
      · obtain ⟨n, -, rfl⟩ := List.mem_map.mp he
        exact hends
  · intro e he id hends
    rcases List.mem_append.mp he with he | he
    · obtain ⟨b, hb, hid⟩ := h.ended e he id hends
      exact ⟨b, List.mem_append_left _ hb, hid⟩
    · rcases List.mem_cons.mp he with rfl | he
      · exact ⟨a, List.mem_append_left _ (h.minted a ha), hends⟩
      · obtain ⟨n, -, rfl⟩ := List.mem_map.mp he
        exact hends.elim
  · intro e he
    refine ⟨(h.serials e he).1, ?_⟩
    rw [handedSerials_append, hserials, List.mem_append, not_or]
    exact ⟨(h.serials e he).2, harmed e he⟩

theorem authorizationInv_consume (h : AuthorizationInv opts s) {id : String}
    {r : AuthorizedRequest} {context : AuthorizationExecutionContext} {now : JsNumber}
    (hnan : r.quantity ≠ .nan) (serials : List ℕ)
    (hnodup : (handedSerials s.events ++ serials).Nodup) (hless : ∀ n ∈ serials, n < s.arms)
    (harmed : ∀ e ∈ s.armed, e.serial ∉ serials) :
    AuthorizationInv opts (s.consume opts id r context now (serials.map .handed)) := by
  unfold AuthorizationState.consume
  rcases @consumeAuthorization_cases opts id r context now s.store with
    ⟨e, herr, hsub⟩ | ⟨a, ha, rfl, hexpired, hmatch, heq⟩
  · generalize consumeAuthorization opts id r context now s.store = out at herr hsub ⊢
    obtain ⟨store, res⟩ := out
    cases herr
    exact authorizationInv_shrink h hsub
  · have hrecord : { ({ a with consumed := true } : ExecutionAuthorization) with
        consumed := false } = a := by
      rw [← h.unspent a ha]
    rw [heq]
    simp only [hrecord]
    exact authorizationInv_spend h ha hexpired
      ((matchAuthorization_ok (h.finite a ha) hmatch).mpr hnan) hnodup hless harmed

/-! ### The armed contexts -/

theorem evictArmed_sublist (rounds : ℕ) (armed : List ArmedContext) :
    (evictArmed handoff rounds armed).Sublist armed := by
  induction rounds generalizing armed with
  | zero => exact List.Sublist.refl _
  | succ rounds ih =>
    unfold evictArmed
    split
    · split
      · exact List.Sublist.refl _
      · exact (ih _).trans List.filter_sublist
    · exact List.Sublist.refl _

theorem purgeArmed_sublist (now : JsNumber) (armed : List ArmedContext) :
    (purgeArmed handoff now armed).Sublist armed :=
  (evictArmed_sublist _ _).trans List.filter_sublist

theorem authorizationInv_disarm (h : AuthorizationInv opts s) {armed : List ArmedContext}
    (hsub : armed.Sublist s.armed) : AuthorizationInv opts { s with armed } :=
  { h with
    safe := ⟨h.safe.bound, h.safe.consumptions, h.safe.handed, h.safe.handedArmed⟩
    armed := h.armed.sublist hsub
    serials := fun e he => h.serials e (hsub.subset he) }

theorem mem_setArmed {e f : ArmedContext} {armed : List ArmedContext} (h : f ∈ setArmed e armed) :
    f ∈ armed ∨ f = e := by
  unfold setArmed at h
  split at h
  · obtain ⟨g, hg, rfl⟩ := List.mem_map.mp h
    split
    · exact .inr rfl
    · exact .inl hg
  · simpa using h

theorem setArmed_pairwise {e : ArmedContext} {armed : List ArmedContext}
    (h : armed.Pairwise fun e f => e.authorizationId ≠ f.authorizationId ∧ e.serial ≠ f.serial)
    (hnew : ∀ f ∈ armed, f.serial < e.serial) :
    (setArmed e armed).Pairwise fun e f =>
      e.authorizationId ≠ f.authorizationId ∧ e.serial ≠ f.serial := by
  unfold setArmed
  split
  · rw [List.pairwise_map]
    refine h.imp_of_mem fun {f g} hf hg hfg => ?_
    have hlt := hnew f hf
    have hlt' := hnew g hg
    by_cases hf' : f.authorizationId = e.authorizationId
    · by_cases hg' : g.authorizationId = e.authorizationId
      · exact absurd (hf'.trans hg'.symm) hfg.1
      · rw [if_pos hf', if_neg hg']
        exact ⟨Ne.symm hg', by omega⟩
    · by_cases hg' : g.authorizationId = e.authorizationId
      · rw [if_neg hf', if_pos hg']
        exact ⟨hf', by omega⟩
      · rw [if_neg hf', if_neg hg']
        exact hfg
  · rename_i hany
    simp only [List.any_eq_true, beq_iff_eq, not_exists, not_and] at hany
    rw [List.pairwise_append]
    refine ⟨h, List.pairwise_singleton _ _, fun f hf g hg => ?_⟩
    rw [List.mem_singleton.mp hg]
    have hlt := hnew f hf
    exact ⟨hany f hf, by omega⟩

theorem authorizationInv_arm (h : AuthorizationInv opts s) (id : String)
    (context : AuthorizationExecutionContext) (purgeMs armedMs : JsNumber) :
    AuthorizationInv opts (authorizationStep opts handoff s (.arm id context purgeMs armedMs)) := by
  have hkept : AuthorizationInv opts
      { s with armed := purgeArmed handoff purgeMs s.armed } :=
    authorizationInv_disarm h (purgeArmed_sublist _ _)
  have hfresh : s.arms ∉ handedSerials s.events := fun hmem =>
    absurd (h.safe.handedArmed _ hmem) (lt_irrefl _)
  have hsafe : AuthorizationLogSafe opts (authorizationStep opts handoff s
      (.arm id context purgeMs armedMs)) :=
    { h.safe with handedArmed := fun n hn => (h.safe.handedArmed n hn).trans (Nat.lt_succ_self _) }
  refine { h with safe := hsafe, armed := ?_, serials := ?_ }
  · simp only [authorizationStep, armContext]
    split
    · exact h.armed
    · exact setArmed_pairwise hkept.armed fun f hf => (hkept.serials f hf).1
  · simp only [authorizationStep, armContext]
    intro f hf
    split at hf
    · exact ⟨(h.serials f hf).1.trans (Nat.lt_succ_self _), (h.serials f hf).2⟩
    · rcases mem_setArmed hf with hf | rfl
      · exact ⟨(hkept.serials f hf).1.trans (Nat.lt_succ_self _), (hkept.serials f hf).2⟩
      · exact ⟨Nat.lt_succ_self _, hfresh⟩

theorem takeArmed_cases {id : String} {now : JsNumber} {armed : List ArmedContext} :
    (∃ e, (takeArmed handoff id now armed).2 = .error e ∧
        (takeArmed handoff id now armed).1.Sublist armed) ∨
      ∃ e ∈ armed, e.authorizationId = id ∧
        takeArmed handoff id now armed = (deleteArmed id armed, .ok e) := by
  unfold takeArmed
  cases hfind : armed.find? (fun e => e.authorizationId == id) with
  | none => exact .inl ⟨_, rfl, List.Sublist.refl _⟩
  | some e =>
    have hmem := List.mem_of_find?_eq_some hfind
    have hid : e.authorizationId = id := by simpa using List.find?_some hfind
    simp only
    split
    · exact .inl ⟨_, rfl, List.filter_sublist⟩
    · exact .inr ⟨e, hmem, hid, rfl⟩

theorem authorizationInv_step (hvalid : opts.ValidBound) (s : AuthorizationState)
    (action : AuthorizationAction) (h : AuthorizationInv opts s) (hok : AuthorizationOk s action) :
    AuthorizationInv opts (authorizationStep opts handoff s action) := by
  cases action with
  | create input id clock =>
    simp only [authorizationStep]
    rcases @createAuthorization_cases opts input id clock s.store with
      ⟨e, herr, hsub⟩ | ⟨hinput, heq⟩
    · generalize createAuthorization opts input id clock s.store = out at herr hsub ⊢
      obtain ⟨store, res⟩ := out
      cases herr
      exact authorizationInv_shrink h hsub
    · have hpurged : (purgeExpired opts clock.purgeMs s.store).Sublist s.store :=
        List.filter_sublist
      obtain ⟨⟨q, hq, -⟩, hstop, htake, hrequested⟩ := validateAuthorizationInput_ok hinput
      rw [heq]
      exact authorizationInv_mint h ((evictForBound_sublist _ _).trans hpurged)
        (evictForBound_room hvalid (withinBound_mono hpurged.length_le h.safe.bound))
        ⟨⟨q, hq⟩, hstop, htake, hrequested⟩ rfl hok
  | consume id r context now =>
    refine authorizationInv_consume h hok [] ?_ (by simp) (by simp)
    simpa using h.safe.handed
  | peek id now => exact authorizationInv_shrink h peekAuthorization_sublist
  | revoke id => exact authorizationInv_shrink h (deleteAuthorization_sublist _ _)
  | clearExpired now => exact authorizationInv_shrink h List.filter_sublist
  | arm id context purgeMs armedMs => exact authorizationInv_arm h id context purgeMs armedMs
  | disarm id => exact authorizationInv_disarm h List.filter_sublist
  | handoffConsume id r handoffMs now =>
    simp only [authorizationStep]
    rcases @takeArmed_cases handoff id handoffMs s.armed with ⟨e, herr, hsub⟩ | ⟨e, he, hid, heq⟩
    · generalize takeArmed handoff id handoffMs s.armed = out at herr hsub ⊢
      obtain ⟨armed, res⟩ := out
      cases herr
      exact authorizationInv_disarm h hsub
    · rw [heq]
      have hrest : (deleteArmed id s.armed).Sublist s.armed := List.filter_sublist
      refine authorizationInv_consume (authorizationInv_disarm h hrest) hok [e.serial] ?_ ?_ ?_
      · exact List.nodup_append_comm.mp (List.nodup_cons.mpr ⟨(h.serials e he).2, h.safe.handed⟩)
      · simpa using (h.serials e he).1
      · intro f hf hserial
        obtain ⟨hf, hne⟩ := List.mem_filter.mp hf
        have hserials : (s.armed.map (·.serial)).Nodup :=
          List.pairwise_map.mpr (h.armed.imp And.right)
        have hsame : f = e := List.inj_on_of_nodup_map hserials hf he (by simpa using hserial)
        rw [hsame, hid] at hne
        simp at hne

end Inv

/-- **Safety of every run.**  If `randomUUID` repeats no id and no request's quantity is `NaN`, then
in every state the run goes through the store keeps its bound, every consumption in the log is of a
record minted before and not ended since, within its `ttlMs` and for exactly what was presented, and
every arm ended in at most one consumption. -/
theorem authorization_log_safe (opts handoff : AuthorizationOptions) (hvalid : opts.ValidBound)
    (as : List AuthorizationAction)
    (hok : Runs.Meets (authorizationStep opts handoff) AuthorizationOk .empty as)
    (t : AuthorizationState)
    (ht : Runs.Reached (authorizationStep opts handoff) .empty as t) :
    AuthorizationLogSafe opts t := by
  have hinit : AuthorizationInv opts .empty := by
    refine ⟨⟨?_, ?_, List.nodup_nil, by simp [handedSerials, AuthorizationState.empty]⟩, ?_, ?_, ?_,
      ?_, ?_, List.Pairwise.nil, ?_⟩
    · exact withinBound_mono (Nat.zero_le 1)
        (withinBound_succ hvalid (not_sizeReached_zero hvalid))
    · intro before after a r context now heq
      simp [AuthorizationState.empty] at heq
    all_goals simp [AuthorizationState.empty]
  exact (Runs.inv_of_reached (authorizationStep opts handoff)
    (authorizationInv_step hvalid) hinit hok ht).safe

open Numerals in
/-- Two lots of EURUSD for a demo profile. -/
def twoLots : CreateAuthorizationInput where
  context := ⟨"user", "profile", "mt5", .demo, some "account", none, none, none⟩
  clientOrderId := "client-1"
  idempotencyKey := "key-1"
  symbol := "EURUSD"
  side := .buy
  quantity := 2
  assetClass := "forex"
  orderType := "market"
  stopLossPrice := some (.fin (5 / 4))
  takeProfitPrice := none
  requestedPrice := none

/-- The request of that order with a quantity of its own. -/
def requestFor (quantity : JsNumber) : AuthorizedRequest :=
  ⟨"client-1", "key-1", "EURUSD", .buy, "forex", "market", quantity, some (.fin (5 / 4)), none, none⟩

open Numerals in
/-- Minted, armed and consumed through the handoff; a second attempt finds nothing. -/
def handedOverRun : List AuthorizationAction :=
  [.create twoLots "uuid-1" ⟨10, 10, 10⟩, .arm "uuid-1" twoLots.context 11 11,
    .handoffConsume "uuid-1" (requestFor 2) 12 12, .handoffConsume "uuid-1" (requestFor 2) 13 13,
    .revoke "uuid-1", .clearExpired 14]

theorem authorization_log_safe_handedOverRun :
    handedSerials (Runs.run (authorizationStep .default .default) .empty handedOverRun).events
        = [0] ∧
      AuthorizationLogSafe .default
        (Runs.run (authorizationStep .default .default) .empty handedOverRun) := by
  refine ⟨by decide +kernel, ?_⟩
  refine authorization_log_safe .default .default ⟨1000, by norm_num, rfl⟩ handedOverRun ?_ _
    (Runs.reached_last _ _ _)
  refine ⟨?_, trivial, ?_, ?_, trivial, trivial, trivial⟩
  · intro a ha
    cases ha
  · exact fun h => by cases h
  · exact fun h => by cases h

/-- `Math.abs(2 - NaN) > 1e-9` is false: the authorization for 2 lots is consumed. -/
theorem nan_quantity_is_consumed :
    ¬ConsumptionsSafe .default (Runs.run (authorizationStep .default .default) .empty
      [.create twoLots "uuid-1" ⟨10, 10, 10⟩,
        .consume "uuid-1" (requestFor .nan) twoLots.context 11]).events := by
  intro h
  have hevents : (Runs.run (authorizationStep .default .default) .empty
      [.create twoLots "uuid-1" ⟨10, 10, 10⟩,
        .consume "uuid-1" (requestFor .nan) twoLots.context 11]).events =
      [.minted (twoLots.record "uuid-1" 10)] ++
        .consumed (twoLots.record "uuid-1" 10) (requestFor .nan) twoLots.context 11 ::
          [.removed "uuid-1"] := by decide +kernel
  obtain ⟨-, -, -, hp⟩ := h _ _ _ _ _ _ hevents
  obtain ⟨_, q, -, hq, -⟩ := hp.quantity
  cases hq

end VeltrixEye
