import VeltrixEye.Lib.Rows
import VeltrixEye.Execution.Authorization

/-!
# Failed calls of the authorization service

A call that throws should leave the live authorizations as they are.  A consumption does, unless it
throws because its own record has expired.  A creation checks the optional references of the context
only while it builds the record, after the eviction: with a full store it can have removed another
caller's authorization by then.
-/

namespace VeltrixEye

section Bounds

variable {opts : AuthorizationOptions}

theorem sizeReached_mono {m n : ℕ} (hmn : m ≤ n) (h : sizeReached opts m = true) :
    sizeReached opts n = true := by
  unfold sizeReached at h ⊢
  cases hmax : opts.maxEntries with
  | fin q =>
    rw [hmax] at h
    have hle : q ≤ (m : ℚ) := by simpa using h
    have hcast : (m : ℚ) ≤ n := by exact_mod_cast hmn
    simpa using hle.trans hcast
  | negInf => rfl
  | posInf =>
    rw [hmax] at h
    cases h
  | nan =>
    rw [hmax] at h
    cases h

theorem sizeBelow_of_sizeReached {n : ℕ} (h : sizeReached opts n = true) :
    sizeBelow opts n = false := by
  unfold sizeReached at h
  unfold sizeBelow
  cases hmax : opts.maxEntries with
  | fin q =>
    rw [hmax] at h
    simpa using h
  | negInf => rfl
  | posInf =>
    rw [hmax] at h
    cases h
  | nan => rfl

theorem expired_mono {a : ExecutionAuthorization} {now later : JsNumber}
    (hle : JsNumber.le now later = true) (h : a.expired opts now = true) :
    a.expired opts later = true := by
  unfold ExecutionAuthorization.expired at h ⊢
  cases httl : opts.ttlMs <;> cases now <;> cases later <;> cases hcreated : a.createdMs <;>
    rw [httl, hcreated] at h <;>
    simp_all [JsNumber.lt, JsNumber.le, JsNumber.sub, JsNumber.add, JsNumber.neg]
  linarith

end Bounds

/-! ## Live authorizations -/

section Live

variable (opts : AuthorizationOptions)

/-- The authorizations of the store that are neither consumed nor expired. -/
def liveAuthorizations (now : JsNumber) (store : List ExecutionAuthorization) :
    List ExecutionAuthorization :=
  store.filter (fun a => !a.consumed && !a.expired opts now)

/-- The oldest of the unexpired authorizations, if they alone reach the bound. -/
def boundVictim (clock : CreateReadings) (store : List ExecutionAuthorization) :
    Option ExecutionAuthorization :=
  let unexpired := purgeExpired opts clock.evictMs (purgeExpired opts clock.purgeMs store)
  if sizeReached opts unexpired.length then oldestBy (·.createdMs) unexpired else none

variable {opts}

theorem mem_liveAuthorizations {now : JsNumber} {store : List ExecutionAuthorization}
    {a : ExecutionAuthorization} :
    a ∈ liveAuthorizations opts now store ↔
      a ∈ store ∧ a.consumed = false ∧ a.expired opts now = false := by
  simp [liveAuthorizations]

theorem mem_purgeExpired {now : JsNumber} {store : List ExecutionAuthorization}
    {a : ExecutionAuthorization} :
    a ∈ purgeExpired opts now store ↔ a ∈ store ∧ a.expired opts now = false := by
  simp [purgeExpired]

end Live

/-! ## The eviction -/

section Eviction

variable {opts : AuthorizationOptions}

theorem purgeExpired_sublist_evictExpired (now : JsNumber)
    (kept rest : List ExecutionAuthorization) :
    (kept ++ purgeExpired opts now rest).Sublist (evictExpired opts now kept rest) := by
  induction rest generalizing kept with
  | nil => simp [purgeExpired, evictExpired]
  | cons a rest ih =>
    have hrest : (purgeExpired opts now rest).Sublist rest := List.filter_sublist
    unfold evictExpired
    split
    · rename_i hexpired
      have hhead : purgeExpired opts now (a :: rest) = purgeExpired opts now rest := by
        simp [purgeExpired, hexpired]
      rw [hhead]
      split
      · exact hrest.append_left kept
      · exact ih kept
    · rename_i hexpired
      have hhead : purgeExpired opts now (a :: rest) = a :: purgeExpired opts now rest := by
        simp [purgeExpired, hexpired]
      rw [hhead]
      split
      · exact (hrest.cons_cons a).append_left kept
      · simpa using ih (kept ++ [a])

theorem evictExpired_of_reached {now : JsNumber} {kept rest : List ExecutionAuthorization}
    (h : sizeReached opts (evictExpired opts now kept rest).length = true) :
    evictExpired opts now kept rest = kept ++ purgeExpired opts now rest := by
  induction rest generalizing kept with
  | nil => simp [purgeExpired, evictExpired]
  | cons a rest ih =>
    unfold evictExpired at h ⊢
    split at h
    · rename_i hexpired
      have hhead : purgeExpired opts now (a :: rest) = purgeExpired opts now rest := by
        simp [purgeExpired, hexpired]
      rw [if_pos hexpired, hhead]
      split at h
      · rename_i hbelow
        rw [List.length_append] at h
        rw [sizeBelow_of_sizeReached h] at hbelow
        cases hbelow
      · rename_i hbelow
        rw [if_neg hbelow]
        exact ih h
    · rename_i hexpired
      have hhead : purgeExpired opts now (a :: rest) = a :: purgeExpired opts now rest := by
        simp [purgeExpired, hexpired]
      rw [if_neg hexpired, hhead]
      split at h
      · rename_i hbelow
        rw [List.length_append] at h
        rw [sizeBelow_of_sizeReached h] at hbelow
        cases hbelow
      · rename_i hbelow
        rw [if_neg hbelow, ih h]
        simp

theorem sizeReached_evictExpired (now : JsNumber) (store : List ExecutionAuthorization) :
    sizeReached opts (evictExpired opts now [] store).length =
      sizeReached opts (purgeExpired opts now store).length := by
  rw [Bool.eq_iff_iff]
  constructor
  · intro h
    have heq := evictExpired_of_reached h
    rw [List.nil_append] at heq
    rwa [← heq]
  · intro h
    refine sizeReached_mono ?_ h
    simpa using (purgeExpired_sublist_evictExpired now [] store).length_le

/-- **What the bound costs**: an unexpired entry survives unless it is the oldest of a full store. -/
theorem mem_evictForBound {now : JsNumber} {store : List ExecutionAuthorization}
    {a : ExecutionAuthorization} (hmem : a ∈ store) (hlive : a.expired opts now = false) :
    a ∈ evictForBound opts now store ↔
      ¬ (sizeReached opts (purgeExpired opts now store).length = true ∧
        ∃ o, oldestBy (·.createdMs) (purgeExpired opts now store) = some o ∧ o.id = a.id) := by
  have hunexpired : a ∈ purgeExpired opts now store := mem_purgeExpired.mpr ⟨hmem, hlive⟩
  have hevict : a ∈ evictExpired opts now [] store := by
    simpa using (purgeExpired_sublist_evictExpired now [] store).subset (by simpa using hunexpired)
  unfold evictForBound
  dsimp only
  split
  · rw [sizeReached_evictExpired]
    split
    · rename_i hreached
      have heq : evictExpired opts now [] store = purgeExpired opts now store := by
        rw [← sizeReached_evictExpired] at hreached
        simpa using evictExpired_of_reached hreached
      rw [heq]
      cases holdest : oldestBy (·.createdMs) (purgeExpired opts now store) with
      | none => simp [hunexpired]
      | some o =>
        show a ∈ List.filter (fun b => b.id != o.id) (purgeExpired opts now store) ↔ _
        rw [List.mem_filter, bne_iff_ne]
        constructor
        · rintro ⟨-, hne⟩ ⟨-, o', ho', hid⟩
          obtain rfl := Option.some.inj ho'
          exact hne hid.symm
        · intro hsafe
          exact ⟨hunexpired, fun hid => hsafe ⟨hreached, o, rfl, hid.symm⟩⟩
    · rename_i hreached
      simp [hevict, hreached]
  · rename_i hroom
    have hfew : sizeReached opts (purgeExpired opts now store).length ≠ true := by
      intro hreached
      exact hroom (sizeReached_mono (List.filter_sublist).length_le hreached)
    simp [hmem, hfew]

end Eviction

/-! ## Calls that throw -/

section Failures

variable {opts : AuthorizationOptions}

theorem consumeAuthorization_error {id : String} {r : AuthorizedRequest}
    {context : AuthorizationExecutionContext} {now : JsNumber}
    {store : List ExecutionAuthorization} {e : AuthorizationError}
    (herr : (consumeAuthorization opts id r context now store).2 = .error e)
    (hreason : e ≠ "execution authorization has expired") :
    (consumeAuthorization opts id r context now store).1 = store := by
  unfold consumeAuthorization at herr ⊢
  cases hfind : store.find? (fun a => a.id == id) with
  | none => rfl
  | some a =>
    rw [hfind] at herr
    simp only at herr ⊢
    split
    · rfl
    rename_i hconsumed
    rw [if_neg hconsumed] at herr
    split
    · rename_i hexpired
      rw [if_pos hexpired] at herr
      exact absurd (Except.error.inj herr).symm hreason
    · rename_i hexpired
      rw [if_neg hexpired] at herr
      cases hmatch : matchAuthorization a r context with
      | error e' => rfl
      | ok _ =>
        rw [hmatch] at herr
        cases herr

theorem createAuthorization_error {input : CreateAuthorizationInput} {id : String}
    {clock : CreateReadings} {store : List ExecutionAuthorization} {e : AuthorizationError}
    (herr : (createAuthorization opts input id clock store).2 = .error e) :
    (createAuthorization opts input id clock store).1 =
      if validateAuthorizationInput input = .ok () then
        evictForBound opts clock.evictMs (purgeExpired opts clock.purgeMs store)
      else store := by
  unfold createAuthorization at herr ⊢
  cases hvalid : validateAuthorizationInput input with
  | error e' => simp
  | ok _ =>
    rw [hvalid] at herr
    simp only at herr ⊢
    cases hrefs : validateContextRefs input.context with
    | error e' => simp
    | ok _ =>
      rw [hrefs] at herr
      cases herr

/-- **Failed calls and the authorizations they leave live**, at any instant not before the call's
readings of the clock: a consumption that throws for another reason than expiry keeps them all, and
a creation that throws does exactly if it stopped before the purge or found no live victim. -/
theorem failed_calls_keep_live_authorizations {store : List ExecutionAuthorization}
    {clock : CreateReadings} {later : JsNumber} (hkeys : (store.map (·.id)).Nodup)
    (hpurge : JsNumber.le clock.purgeMs later = true)
    (hevict : JsNumber.le clock.evictMs later = true) :
    (∀ id r context now e,
        (consumeAuthorization opts id r context now store).2 = .error e →
        e ≠ "execution authorization has expired" →
        ∀ a, a ∈ liveAuthorizations opts later
            (consumeAuthorization opts id r context now store).1 ↔
          a ∈ liveAuthorizations opts later store) ∧
      ∀ input id e, (createAuthorization opts input id clock store).2 = .error e →
        ((∀ a, a ∈ liveAuthorizations opts later
              (createAuthorization opts input id clock store).1 ↔
            a ∈ liveAuthorizations opts later store) ↔
          (validateAuthorizationInput input ≠ .ok () ∨
            ∀ o, boundVictim opts clock store = some o →
              o ∉ liveAuthorizations opts later store)) := by
  constructor
  · intro id r context now e herr hreason a
    rw [consumeAuthorization_error herr hreason]
  intro input id e herr
  rw [createAuthorization_error herr]
  by_cases hvalid : validateAuthorizationInput input = .ok ()
  swap
  · simp [hvalid]
  have hunexpired : ∀ {a : ExecutionAuthorization} {now : JsNumber},
      JsNumber.le now later = true → a ∈ liveAuthorizations opts later store →
      a.expired opts now = false := by
    intro a now hle ha
    by_contra hexpired
    have hlater := expired_mono hle (Bool.eq_true_of_not_eq_false hexpired)
    rw [(mem_liveAuthorizations.mp ha).2.2] at hlater
    cases hlater
  -- a live entry is lost exactly if it carries the victim's id
  have hkept : ∀ a, a ∈ liveAuthorizations opts later store →
      (a ∈ evictForBound opts clock.evictMs (purgeExpired opts clock.purgeMs store) ↔
        ¬ ∃ o, boundVictim opts clock store = some o ∧ o.id = a.id) := by
    intro a ha
    rw [mem_evictForBound (mem_purgeExpired.mpr ⟨(mem_liveAuthorizations.mp ha).1,
      hunexpired hpurge ha⟩) (hunexpired hevict ha)]
    simp only [boundVictim, Option.ite_none_right_eq_some, ← exists_and_left, and_assoc]
  have hstored : ∀ o, boundVictim opts clock store = some o → o ∈ store := by
    intro o ho
    simp only [boundVictim, Option.ite_none_right_eq_some] at ho
    exact (mem_purgeExpired.mp (mem_purgeExpired.mp (oldestBy_mem ho.2)).1).1
  have hless : ∀ a, a ∈ evictForBound opts clock.evictMs (purgeExpired opts clock.purgeMs store) →
      a ∈ store := fun a ha =>
    (mem_purgeExpired.mp ((evictForBound_sublist clock.evictMs _).subset ha)).1
  rw [if_pos hvalid]
  constructor
  · intro hsame
    refine .inr (fun o ho hlive => ?_)
    have hafter := (mem_liveAuthorizations.mp ((hsame o).mpr hlive)).1
    exact (hkept o hlive).mp hafter ⟨o, ho, rfl⟩
  · rintro (hbad | hsafe) a
    · exact absurd hvalid hbad
    · constructor
      · intro ha
        obtain ⟨hmem, hrest⟩ := mem_liveAuthorizations.mp ha
        exact mem_liveAuthorizations.mpr ⟨hless a hmem, hrest⟩
      · intro ha
        refine mem_liveAuthorizations.mpr ⟨(hkept a ha).mpr ?_, (mem_liveAuthorizations.mp ha).2⟩
        rintro ⟨o, ho, hid⟩
        have heq : o = a := Rows.eq_of_key hkeys (hstored o ho) (mem_liveAuthorizations.mp ha).1 hid
        exact hsafe o ho (heq ▸ ha)

end Failures

/-! ## A store of one -/

/-- The context of a paper order without optional references. -/
def plainContext (userId : String) : AuthorizationExecutionContext where
  userId
  executionProfileId := "p1"
  providerSlug := "paper"
  environment := .paper
  accountRef := none
  brokerServerRef := none
  setupId := none
  riskDecisionId := none

/-- A creation for one lot. -/
def plainInput (context : AuthorizationExecutionContext) : CreateAuthorizationInput where
  context
  clientOrderId := "c1"
  idempotencyKey := "k1"
  symbol := "EURUSD"
  side := .buy
  quantity := 1
  assetClass := "forex"
  orderType := "market"
  stopLossPrice := none
  takeProfitPrice := none
  requestedPrice := none

/-- The bounds with room for one authorization. -/
def singleEntry : AuthorizationOptions := { AuthorizationOptions.default with maxEntries := 1 }

/-- Alice's authorization, minted at 0. -/
def aliceAuthorization : ExecutionAuthorization := (plainInput (plainContext "alice")).record "a1" 0

/-- Bob's creation with an empty `accountRef`. -/
def emptyRefInput : CreateAuthorizationInput :=
  plainInput { plainContext "bob" with accountRef := some "" }

/-- A request for the lot of `plainInput`. -/
def plainRequest : AuthorizedRequest where
  clientOrderId := "c1"
  idempotencyKey := "k1"
  symbol := "EURUSD"
  side := .buy
  assetClass := "forex"
  orderType := "market"
  quantity := 1
  stopLossPrice := none
  takeProfitPrice := none
  requestedPrice := none

theorem failed_calls_keep_live_authorizations_default :
    aliceAuthorization ∈ liveAuthorizations .default 5 (consumeAuthorization .default "a1"
        plainRequest (plainContext "bob") 5 [aliceAuthorization]).1 ∧
      aliceAuthorization ∈ liveAuthorizations .default 5 (createAuthorization .default
        emptyRefInput "a2" ⟨5, 5, 5⟩ [aliceAuthorization]).1 := by
  have hlive : aliceAuthorization ∈ liveAuthorizations .default 5 [aliceAuthorization] := by
    decide +kernel
  have hkeep := @failed_calls_keep_live_authorizations .default [aliceAuthorization] ⟨5, 5, 5⟩ 5
    (by decide) (by decide) (by decide)
  have hvictim : boundVictim .default ⟨5, 5, 5⟩ [aliceAuthorization] = none := by decide +kernel
  constructor
  · exact (hkeep.1 "a1" plainRequest (plainContext "bob") 5
      "execution authorization was not issued for this execution context" (by decide +kernel)
      (by decide) aliceAuthorization).mpr hlive
  · refine ((hkeep.2 emptyRefInput "a2" "execution authorization requires a non-empty accountRef"
      (by decide)).mpr (.inr ?_) aliceAuthorization).mpr hlive
    intro o ho
    rw [hvictim] at ho
    cases ho

/-- **The claimed property fails**: Bob's empty `accountRef` is refused after the eviction of
Alice's authorization. -/
theorem failed_create_evicts :
    (createAuthorization singleEntry emptyRefInput "a2" ⟨5, 5, 5⟩ [aliceAuthorization]).2 =
      .error "execution authorization requires a non-empty accountRef" ∧
    aliceAuthorization ∈ liveAuthorizations singleEntry 5 [aliceAuthorization] ∧
    aliceAuthorization ∉ liveAuthorizations singleEntry 5 (createAuthorization singleEntry
      emptyRefInput "a2" ⟨5, 5, 5⟩ [aliceAuthorization]).1 := by
  decide +kernel

end VeltrixEye
