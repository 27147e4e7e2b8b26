import VeltrixEye.Execution.Rows

/-!
# Execution authorizations (`execution/authorization.ts`)

`ExecutionAuthorizationService` keeps server-issued, one-shot authorizations in an insertion-ordered
map; `createAuthorizationContextHandoff` keeps armed execution contexts in a second one.  Both are
lists here.  Numbers range over every `JsNumber`; each reading of the clock is an argument, so no
assumption is made on it, and `randomUUID` supplies the id of a new authorization.
-/

namespace VeltrixEye

/-! ## Records -/

inductive AuthorizationEnvironment where
  | paper
  | demo
  deriving DecidableEq

structure AuthorizationExecutionContext where
  userId : String
  executionProfileId : String
  providerSlug : String
  environment : AuthorizationEnvironment
  accountRef : Option String
  brokerServerRef : Option String
  setupId : Option String
  riskDecisionId : Option String
  deriving DecidableEq

/-- `ExecutionAuthorization`; the context fields are grouped. -/
structure ExecutionAuthorization where
  id : String
  context : AuthorizationExecutionContext
  clientOrderId : String
  idempotencyKey : String
  symbol : String
  side : OrderSide
  quantity : JsNumber
  assetClass : String
  orderType : String
  stopLossPrice : Option JsNumber
  takeProfitPrice : Option JsNumber
  requestedPrice : Option JsNumber
  createdMs : JsNumber
  consumed : Bool
  deriving DecidableEq

/-- The argument of `createAuthorization`; an absent optional field is `none`. -/
structure CreateAuthorizationInput where
  context : AuthorizationExecutionContext
  clientOrderId : String
  idempotencyKey : String
  symbol : String
  side : OrderSide
  quantity : JsNumber
  assetClass : String
  orderType : String
  stopLossPrice : Option JsNumber
  takeProfitPrice : Option JsNumber
  requestedPrice : Option JsNumber

/-- What a consumption reads of `ExecutionSubmitOrderRequest`. -/
structure AuthorizedRequest where
  clientOrderId : String
  idempotencyKey : String
  symbol : String
  side : OrderSide
  assetClass : String
  orderType : String
  quantity : JsNumber
  stopLossPrice : Option JsNumber
  takeProfitPrice : Option JsNumber
  requestedPrice : Option JsNumber
  deriving DecidableEq

/-- `ExecutionAuthorizationServiceOptions`, defaults applied; the handoff has its own. -/
structure AuthorizationOptions where
  ttlMs : JsNumber
  maxEntries : JsNumber

/-- `DEFAULT_TTL_MS` and `DEFAULT_MAX_ENTRIES`. -/
def AuthorizationOptions.default : AuthorizationOptions := ⟨60000, 1000⟩

/-- `QUANTITY_TOLERANCE`, `PRICE_TOLERANCE`. -/
def AUTHORIZATION_TOLERANCE : ℚ := 1 / 10 ^ 9

/-- The message of an `ExecutionProviderError` of category `validation`. -/
abbrev AuthorizationError := String

/-! ## The service -/

section Service

variable (opts : AuthorizationOptions)

/-- `now - auth.createdMs > this.ttlMs`. -/
def ExecutionAuthorization.expired (a : ExecutionAuthorization) (now : JsNumber) : Bool :=
  JsNumber.lt opts.ttlMs (JsNumber.sub now a.createdMs)

/-- `size < maxEntries`. -/
def sizeBelow (n : ℕ) : Bool := JsNumber.lt (.fin n) opts.maxEntries

/-- `size >= maxEntries`. -/
def sizeReached (n : ℕ) : Bool := JsNumber.le opts.maxEntries (.fin n)

/-- `clearExpired` and `purgeExpired`. -/
def purgeExpired (now : JsNumber) (store : List ExecutionAuthorization) :
    List ExecutionAuthorization :=
  store.filter (fun a => !a.expired opts now)

/-- The eviction loop: expired entries go until the store is below the bound. -/
def evictExpired (now : JsNumber) :
    List ExecutionAuthorization → List ExecutionAuthorization → List ExecutionAuthorization
  | kept, [] => kept
  | kept, a :: rest =>
    if a.expired opts now then
      if sizeBelow opts (kept.length + rest.length) then kept ++ rest
      else evictExpired now kept rest
    else if sizeBelow opts (kept.length + (a :: rest).length) then kept ++ a :: rest
    else evictExpired now (kept ++ [a]) rest

/-- The first entry of a stable ascending sort by a time. -/
def oldestBy {α : Type} (time : α → JsNumber) : List α → Option α
  | [] => none
  | a :: rest => some (rest.foldl (fun o b => if JsNumber.lt (time b) (time o) then b else o) a)

/-- `map.delete(id)`. -/
def deleteAuthorization (id : String) (store : List ExecutionAuthorization) :
    List ExecutionAuthorization :=
  store.filter (fun a => a.id != id)

/-- Room for one more entry. -/
def evictForBound (now : JsNumber) (store : List ExecutionAuthorization) :
    List ExecutionAuthorization :=
  if sizeReached opts store.length then
    let store := evictExpired opts now [] store
    if sizeReached opts store.length then
      match oldestBy (·.createdMs) store with
      | some oldest => deleteAuthorization oldest.id store
      | none => store
    else store
  else store

/-- `map.set(a.id, a)`. -/
def setAuthorization (a : ExecutionAuthorization) (store : List ExecutionAuthorization) :
    List ExecutionAuthorization :=
  if store.any (fun b => b.id == a.id) then store.map (fun b => if b.id = a.id then a else b)
  else store ++ [a]

def requireNonEmpty (value field : String) : Except AuthorizationError Unit :=
  if value.isEmpty then .error s!"execution authorization requires a non-empty {field}" else .ok ()

def requireFiniteOrNull (value : Option JsNumber) (field : String) :
    Except AuthorizationError Unit :=
  if value.all JsNumber.isFinite then .ok ()
  else .error s!"execution authorization requires a finite {field}"

def requireNonEmptyOrNull (value : Option String) (field : String) :
    Except AuthorizationError Unit :=
  match value with
  | none => .ok ()
  | some s => requireNonEmpty s field

/-- The checks made before the store is touched. -/
def validateAuthorizationInput (input : CreateAuthorizationInput) :
    Except AuthorizationError Unit := do
  requireNonEmpty input.context.userId "userId"
  requireNonEmpty input.context.executionProfileId "executionProfileId"
  requireNonEmpty input.clientOrderId "clientOrderId"
  requireNonEmpty input.idempotencyKey "idempotencyKey"
  requireNonEmpty input.symbol "symbol"
  requireNonEmpty input.assetClass "assetClass"
  requireNonEmpty input.orderType "orderType"
  requireNonEmpty input.context.providerSlug "providerSlug"
  if !(input.quantity.isFinite && JsNumber.lt 0 input.quantity) then
    throw "execution authorization requires a finite positive quantity"
  requireFiniteOrNull input.stopLossPrice "stopLossPrice"
  requireFiniteOrNull input.takeProfitPrice "takeProfitPrice"
  requireFiniteOrNull input.requestedPrice "requestedPrice"

/-- The checks made while the record is built, after expired and old entries were removed. -/
def validateContextRefs (context : AuthorizationExecutionContext) :
    Except AuthorizationError Unit := do
  requireNonEmptyOrNull context.accountRef "accountRef"
  requireNonEmptyOrNull context.brokerServerRef "brokerServerRef"
  requireNonEmptyOrNull context.riskDecisionId "riskDecisionId"
  requireNonEmptyOrNull context.setupId "setupId"

/-- The record an input is minted into. -/
def CreateAuthorizationInput.record (input : CreateAuthorizationInput) (id : String)
    (createdMs : JsNumber) : ExecutionAuthorization where
  id
  context := input.context
  clientOrderId := input.clientOrderId
  idempotencyKey := input.idempotencyKey
  symbol := input.symbol
  side := input.side
  quantity := input.quantity
  assetClass := input.assetClass
  orderType := input.orderType
  stopLossPrice := input.stopLossPrice
  takeProfitPrice := input.takeProfitPrice
  requestedPrice := input.requestedPrice
  createdMs
  consumed := false

/-- The three clock readings of a creation. -/
structure CreateReadings where
  purgeMs : JsNumber
  evictMs : JsNumber
  createdMs : JsNumber

def createAuthorization (input : CreateAuthorizationInput) (id : String) (clock : CreateReadings)
    (store : List ExecutionAuthorization) :
    List ExecutionAuthorization × Except AuthorizationError ExecutionAuthorization :=
  match validateAuthorizationInput input with
  | .error e => (store, .error e)
  | .ok () =>
    let store := evictForBound opts clock.evictMs (purgeExpired opts clock.purgeMs store)
    match validateContextRefs input.context with
    | .error e => (store, .error e)
    | .ok () =>
      let a := input.record id clock.createdMs
      (setAuthorization a store, .ok a)

def priceMatches : Option JsNumber → Option JsNumber → Bool
  | none, none => true
  | some a, some b => JsNumber.le (JsNumber.abs (JsNumber.sub a b)) (.fin AUTHORIZATION_TOLERANCE)
  | _, _ => false

/-- The request fields compared with strict equality. -/
def sameMutation (a : ExecutionAuthorization) (r : AuthorizedRequest) : Bool :=
  a.clientOrderId == r.clientOrderId && a.idempotencyKey == r.idempotencyKey &&
    a.symbol == r.symbol && a.side == r.side && a.assetClass == r.assetClass &&
    a.orderType == r.orderType

/-- `diffAuthorizationContext`: the first field that differs. -/
def diffAuthorizationContext (stored expected : AuthorizationExecutionContext) : Option String :=
  if stored.userId ≠ expected.userId then some "userId"
  else if stored.executionProfileId ≠ expected.executionProfileId then some "executionProfileId"
  else if stored.providerSlug ≠ expected.providerSlug then some "providerSlug"
  else if stored.environment ≠ expected.environment then some "environment"
  else if stored.accountRef ≠ expected.accountRef then some "accountRef"
  else if stored.brokerServerRef ≠ expected.brokerServerRef then some "brokerServerRef"
  else if stored.setupId ≠ expected.setupId then some "setupId"
  else if stored.riskDecisionId ≠ expected.riskDecisionId then some "riskDecisionId"
  else none

/-- The comparisons of a consumption, in order. -/
def matchAuthorization (a : ExecutionAuthorization) (r : AuthorizedRequest)
    (expectedContext : AuthorizationExecutionContext) : Except AuthorizationError Unit :=
  let mismatch := "execution order request does not match its server-issued authorization"
  if !sameMutation a r then .error mismatch
  else if JsNumber.lt (.fin AUTHORIZATION_TOLERANCE)
      (JsNumber.abs (JsNumber.sub a.quantity r.quantity)) then .error mismatch
  else if !priceMatches a.stopLossPrice r.stopLossPrice ||
      !priceMatches a.takeProfitPrice r.takeProfitPrice ||
      !priceMatches a.requestedPrice r.requestedPrice then .error mismatch
  else if (diffAuthorizationContext a.context expectedContext).isSome then
    .error "execution authorization was not issued for this execution context"
  else .ok ()

def consumeAuthorization (id : String) (r : AuthorizedRequest)
    (expectedContext : AuthorizationExecutionContext) (now : JsNumber)
    (store : List ExecutionAuthorization) :
    List ExecutionAuthorization × Except AuthorizationError ExecutionAuthorization :=
  match store.find? (fun a => a.id == id) with
  | none => (store, .error "no server-issued execution authorization for this order")
  | some a =>
    if a.consumed then (store, .error "no server-issued execution authorization for this order")
    else if a.expired opts now then
      (deleteAuthorization id store, .error "execution authorization has expired")
    else
      match matchAuthorization a r expectedContext with
      | .error e => (store, .error e)
      | .ok () => (deleteAuthorization id store, .ok { a with consumed := true })

/-- `peekAuthorization`: an expired record is deleted. -/
def peekAuthorization (id : String) (now : JsNumber) (store : List ExecutionAuthorization) :
    List ExecutionAuthorization × Option ExecutionAuthorization :=
  match store.find? (fun a => a.id == id) with
  | none => (store, none)
  | some a =>
    if a.consumed then (store, none)
    else if a.expired opts now then (deleteAuthorization id store, none)
    else (store, some a)

/-! ## What each operation does -/

section Specs

variable {opts}

theorem ite_some_eq_none {α : Type} {c : Prop} [Decidable c] {a : α} {o : Option α} :
    (if c then some a else o) = none ↔ ¬c ∧ o = none := by
  by_cases h : c <;> simp [h]

theorem diffAuthorizationContext_eq_none {stored expected : AuthorizationExecutionContext} :
    diffAuthorizationContext stored expected = none ↔ stored = expected := by
  unfold diffAuthorizationContext
  simp only [ite_some_eq_none, not_not, ne_eq, and_true]
  cases stored
  cases expected
  simp

theorem deleteAuthorization_sublist (id : String) (store : List ExecutionAuthorization) :
    (deleteAuthorization id store).Sublist store := List.filter_sublist

theorem oldestBy_mem {α : Type} {time : α → JsNumber} {l : List α} {o : α}
    (h : oldestBy time l = some o) : o ∈ l := by
  cases l with
  | nil => cases h
  | cons a rest =>
    obtain rfl := Option.some.inj h
    have hfold : ∀ (l : List α) (b : α),
        l.foldl (fun o b => if JsNumber.lt (time b) (time o) then b else o) b ∈ b :: l := by
      intro l
      induction l with
      | nil => simp
      | cons c l ih =>
        intro b
        rw [List.foldl_cons]
        split
        · exact List.mem_cons_of_mem _ (ih c)
        · rcases List.mem_cons.mp (ih b) with hb | hb
          · rw [hb]
            exact List.mem_cons_self
          · exact List.mem_cons_of_mem _ (List.mem_cons_of_mem _ hb)
    exact hfold rest a

theorem evictExpired_sublist (now : JsNumber) (kept rest : List ExecutionAuthorization) :
    (evictExpired opts now kept rest).Sublist (kept ++ rest) := by
  induction rest generalizing kept with
  | nil => simp [evictExpired]
  | cons a rest ih =>
    unfold evictExpired
    split
    · have hdrop : (kept ++ rest).Sublist (kept ++ a :: rest) :=
        List.Sublist.append_left (List.sublist_cons_self a rest) kept
      split
      · exact hdrop
      · exact (ih kept).trans hdrop
    · split
      · exact List.Sublist.refl _
      · simpa using ih (kept ++ [a])

theorem evictForBound_sublist (now : JsNumber) (store : List ExecutionAuthorization) :
    (evictForBound opts now store).Sublist store := by
  have hevict : (evictExpired opts now [] store).Sublist store := by
    simpa using evictExpired_sublist now [] store
  unfold evictForBound
  split
  · simp only
    split
    · split
      · exact (deleteAuthorization_sublist _ _).trans hevict
      · exact hevict
    · exact hevict
  · exact List.Sublist.refl _

/-- A bound the store can keep: a positive integer, or one that no size exceeds. -/
def AuthorizationOptions.ValidBound (opts : AuthorizationOptions) : Prop :=
  match opts.maxEntries with
  | .fin q => ∃ n : ℕ, 0 < n ∧ q = n
  | .posInf => True
  | .nan => True
  | .negInf => False

/-- `size > maxEntries` is false. -/
def WithinBound (opts : AuthorizationOptions) (n : ℕ) : Prop :=
  JsNumber.lt opts.maxEntries (.fin n) = false

theorem withinBound_mono {m n : ℕ} (hmn : m ≤ n) (h : WithinBound opts n) : WithinBound opts m := by
  unfold WithinBound at h ⊢
  cases hmax : opts.maxEntries with
  | fin q =>
    rw [hmax] at h
    have hle : (n : ℚ) ≤ q := by simpa using h
    have hcast : (m : ℚ) ≤ n := by exact_mod_cast hmn
    simpa using hcast.trans hle
  | posInf => rfl
  | nan => rfl
  | negInf =>
    rw [hmax] at h
    cases h

theorem withinBound_succ (hvalid : opts.ValidBound) {n : ℕ} (h : sizeReached opts n = false) :
    WithinBound opts (n + 1) := by
  unfold AuthorizationOptions.ValidBound at hvalid
  unfold WithinBound
  unfold sizeReached at h
  cases hmax : opts.maxEntries with
  | fin q =>
    rw [hmax] at h hvalid
    obtain ⟨k, -, rfl⟩ := hvalid
    have hlt : n < k := by simpa using h
    have hle : ((n + 1 : ℕ) : ℚ) ≤ k := by exact_mod_cast hlt
    simpa using hle
  | posInf => rfl
  | nan => rfl
  | negInf =>
    rw [hmax] at hvalid
    exact hvalid.elim

theorem not_sizeReached_zero (hvalid : opts.ValidBound) : sizeReached opts 0 = false := by
  unfold AuthorizationOptions.ValidBound at hvalid
  unfold sizeReached
  cases hmax : opts.maxEntries with
  | fin q =>
    rw [hmax] at hvalid
    obtain ⟨k, hk, rfl⟩ := hvalid
    simpa using hk.ne'
  | posInf => rfl
  | nan => rfl
  | negInf =>
    rw [hmax] at hvalid
    exact hvalid.elim

/-- **After the eviction there is room for one more entry.** -/
theorem evictForBound_room (hvalid : opts.ValidBound) {now : JsNumber}
    {store : List ExecutionAuthorization} (hin : WithinBound opts store.length) :
    WithinBound opts ((evictForBound opts now store).length + 1) := by
  have hevicted : WithinBound opts (evictExpired opts now [] store).length := by
    refine withinBound_mono ?_ hin
    simpa using (evictExpired_sublist now [] store).length_le
  unfold evictForBound
  split
  · simp only
    split
    · rename_i hfull
      split
      · rename_i oldest holdest
        have hlt : (deleteAuthorization oldest.id (evictExpired opts now [] store)).length <
            (evictExpired opts now [] store).length :=
          List.length_filter_lt_length_iff_exists.mpr ⟨oldest, oldestBy_mem holdest, by simp⟩
        exact withinBound_mono hlt hevicted
      · rename_i hnone
        -- nothing to delete: the bound would be reached by the empty store
        have hempty : evictExpired opts now [] store = [] := by
          cases hstore : evictExpired opts now [] store with
          | nil => rfl
          | cons a rest => simp [hstore, oldestBy] at hnone
        rw [hempty] at hfull
        exact absurd hfull (by simp [not_sizeReached_zero hvalid])
    · rename_i hroom
      exact withinBound_succ hvalid (by simpa using hroom)
  · rename_i hroom
    exact withinBound_succ hvalid (by simpa using hroom)

/-- What a creation leaves: fewer entries, and the minted record if it succeeded. -/
theorem createAuthorization_cases {input : CreateAuthorizationInput} {id : String}
    {clock : CreateReadings} {store : List ExecutionAuthorization} :
    (∃ e, (createAuthorization opts input id clock store).2 = .error e ∧
        (createAuthorization opts input id clock store).1.Sublist store) ∨
      (validateAuthorizationInput input = .ok () ∧
        createAuthorization opts input id clock store =
          (setAuthorization (input.record id clock.createdMs)
            (evictForBound opts clock.evictMs (purgeExpired opts clock.purgeMs store)),
            .ok (input.record id clock.createdMs))) := by
  have hless : (evictForBound opts clock.evictMs (purgeExpired opts clock.purgeMs store)).Sublist
      store := (evictForBound_sublist _ _).trans List.filter_sublist
  unfold createAuthorization
  cases hvalid : validateAuthorizationInput input with
  | error e => exact .inl ⟨e, rfl, List.Sublist.refl _⟩
  | ok _ =>
    simp only
    cases validateContextRefs input.context with
    | error e => exact .inl ⟨e, rfl, hless⟩
    | ok _ => exact .inr ⟨trivial, rfl⟩

theorem validateAuthorizationInput_ok {input : CreateAuthorizationInput}
    (h : validateAuthorizationInput input = .ok ()) :
    (∃ q, input.quantity = .fin q ∧ 0 < q) ∧ input.stopLossPrice.all JsNumber.isFinite = true ∧
      input.takeProfitPrice.all JsNumber.isFinite = true ∧
      input.requestedPrice.all JsNumber.isFinite = true := by
  have hfinite : ∀ {v : Option JsNumber} {f : String}, requireFiniteOrNull v f = .ok () →
      v.all JsNumber.isFinite = true := by
    intro v f hv
    unfold requireFiniteOrNull at hv
    split at hv
    · assumption
    · cases hv
  unfold validateAuthorizationInput at h
  iterate 8 obtain ⟨_, -, h⟩ := Except.bind_ok_iff.mp h
  split at h
  · cases h
  rename_i hquantity
  obtain ⟨_, hstop, h⟩ := Except.bind_ok_iff.mp h
  obtain ⟨_, htake, hrequested⟩ := Except.bind_ok_iff.mp h
  refine ⟨?_, hfinite hstop, hfinite htake, hfinite hrequested⟩
  cases hq : input.quantity with
  | fin q =>
    rw [hq] at hquantity
    refine ⟨q, rfl, ?_⟩
    have hlt : JsNumber.lt 0 (.fin q) = true := by simpa [JsNumber.isFinite] using hquantity
    exact of_decide_eq_true hlt
  | nan => simp [hq, JsNumber.isFinite] at hquantity
  | posInf => simp [hq, JsNumber.isFinite] at hquantity
  | negInf => simp [hq, JsNumber.isFinite] at hquantity

/-- Both prices absent, or both finite and within the tolerance. -/
def PriceWithin : Option JsNumber → Option JsNumber → Prop
  | none, none => True
  | some a, some b => ∃ p q : ℚ, a = .fin p ∧ b = .fin q ∧ |p - q| ≤ AUTHORIZATION_TOLERANCE
  | _, _ => False

theorem priceMatches_within {a b : Option JsNumber} (ha : a.all JsNumber.isFinite = true)
    (h : priceMatches a b = true) : PriceWithin a b := by
  cases a with
  | none =>
    cases b with
    | none => trivial
    | some b => cases h
  | some a =>
    cases b with
    | none => cases h
    | some b =>
      cases a with
      | fin p =>
        cases b with
        | fin q => exact ⟨p, q, rfl, rfl, by simpa [priceMatches] using h⟩
        | nan => cases h
        | posInf => cases h
        | negInf => cases h
      | nan => cases ha
      | posInf => cases ha
      | negInf => cases ha

theorem quantity_passes {m : ℚ} {quantity : JsNumber}
    (h : JsNumber.lt (.fin AUTHORIZATION_TOLERANCE)
      (JsNumber.abs (JsNumber.sub (.fin m) quantity)) = false) :
    quantity = .nan ∨ ∃ q, quantity = .fin q ∧ |m - q| ≤ AUTHORIZATION_TOLERANCE := by
  cases quantity with
  | nan => exact .inl rfl
  | fin q => exact .inr ⟨q, rfl, by simpa using h⟩
  | posInf => cases h
  | negInf => cases h

/-- What a successful consumption was presented. -/
structure PresentedFor (a : ExecutionAuthorization) (r : AuthorizedRequest)
    (context : AuthorizationExecutionContext) : Prop where
  clientOrderId : r.clientOrderId = a.clientOrderId
  idempotencyKey : r.idempotencyKey = a.idempotencyKey
  symbol : r.symbol = a.symbol
  side : r.side = a.side
  assetClass : r.assetClass = a.assetClass
  orderType : r.orderType = a.orderType
  quantity : ∃ m q : ℚ, a.quantity = .fin m ∧ r.quantity = .fin q ∧
    |m - q| ≤ AUTHORIZATION_TOLERANCE
  stopLossPrice : PriceWithin a.stopLossPrice r.stopLossPrice
  takeProfitPrice : PriceWithin a.takeProfitPrice r.takeProfitPrice
  requestedPrice : PriceWithin a.requestedPrice r.requestedPrice
  context : context = a.context

/-- A stored record's numbers are finite. -/
structure ExecutionAuthorization.Finite (a : ExecutionAuthorization) : Prop where
  quantity : ∃ m, a.quantity = .fin m
  stopLossPrice : a.stopLossPrice.all JsNumber.isFinite = true
  takeProfitPrice : a.takeProfitPrice.all JsNumber.isFinite = true
  requestedPrice : a.requestedPrice.all JsNumber.isFinite = true

/-- **The comparisons bind the request exactly when its quantity is a number.** -/
theorem matchAuthorization_ok {a : ExecutionAuthorization} {r : AuthorizedRequest}
    {context : AuthorizationExecutionContext} (hfinite : a.Finite)
    (h : matchAuthorization a r context = .ok ()) :
    PresentedFor a r context ↔ r.quantity ≠ .nan := by
  obtain ⟨m, hm⟩ := hfinite.quantity
  constructor
  · intro hp hnan
    obtain ⟨_, q, -, hq, -⟩ := hp.quantity
    rw [hnan] at hq
    cases hq
  · intro hnan
    unfold matchAuthorization at h
    simp only at h
    split_ifs at h with hsame hqty hprice hctx
    simp only [Bool.not_eq_true', Bool.not_eq_false] at hsame
    simp only [Bool.or_eq_true, Bool.not_eq_true', not_or, Bool.not_eq_false] at hprice
    simp only [sameMutation, Bool.and_eq_true, beq_iff_eq] at hsame
    obtain ⟨⟨⟨⟨⟨h1, h2⟩, h3⟩, h4⟩, h5⟩, h6⟩ := hsame
    rw [hm, Bool.not_eq_true] at hqty
    obtain ⟨q, hq, hle⟩ := (quantity_passes hqty).resolve_left hnan
    rw [Option.isSome_iff_ne_none, not_not, diffAuthorizationContext_eq_none] at hctx
    exact
      { clientOrderId := h1.symm
        idempotencyKey := h2.symm
        symbol := h3.symm
        side := h4.symm
        assetClass := h5.symm
        orderType := h6.symm
        quantity := ⟨m, q, hm, hq, hle⟩
        stopLossPrice := priceMatches_within hfinite.stopLossPrice hprice.1.1
        takeProfitPrice := priceMatches_within hfinite.takeProfitPrice hprice.1.2
        requestedPrice := priceMatches_within hfinite.requestedPrice hprice.2
        context := hctx.symm }

/-- What a consumption leaves: the store with fewer entries, or without the one it returned. -/
theorem consumeAuthorization_cases {id : String} {r : AuthorizedRequest}
    {context : AuthorizationExecutionContext} {now : JsNumber}
    {store : List ExecutionAuthorization} :
    (∃ e, (consumeAuthorization opts id r context now store).2 = .error e ∧
        (consumeAuthorization opts id r context now store).1.Sublist store) ∨
      (∃ a ∈ store, a.id = id ∧ a.expired opts now = false ∧
        matchAuthorization a r context = .ok () ∧
        consumeAuthorization opts id r context now store =
          (deleteAuthorization id store, .ok { a with consumed := true })) := by
  unfold consumeAuthorization
  cases hfind : store.find? (fun a => a.id == id) with
  | none => exact .inl ⟨_, rfl, List.Sublist.refl _⟩
  | some a =>
    have hmem := List.mem_of_find?_eq_some hfind
    have hid : a.id = id := by simpa using List.find?_some hfind
    simp only
    split
    · exact .inl ⟨_, rfl, List.Sublist.refl _⟩
    split
    · exact .inl ⟨_, rfl, deleteAuthorization_sublist _ _⟩
    · rename_i hexpired
      cases hmatch : matchAuthorization a r context with
      | error e => exact .inl ⟨e, rfl, List.Sublist.refl _⟩
      | ok _ => exact .inr ⟨a, hmem, hid, by simpa using hexpired, hmatch, rfl⟩

theorem peekAuthorization_sublist {id : String} {now : JsNumber}
    {store : List ExecutionAuthorization} : (peekAuthorization opts id now store).1.Sublist store := by
  unfold peekAuthorization
  split
  · exact List.Sublist.refl _
  split
  · exact List.Sublist.refl _
  · split
    · exact deleteAuthorization_sublist _ _
    · exact List.Sublist.refl _

end Specs

end Service

end VeltrixEye
