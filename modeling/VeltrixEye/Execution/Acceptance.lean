import VeltrixEye.Execution.Entries
import VeltrixEye.Execution.Exits
import VeltrixEye.Lib.Utf8

/-!
# What an accepted entry stands for (`composeAndSubmit` for paper profiles)

Any number of composed and direct entry calls, of any users, setups and profiles, interleaved with
each other and with exits.  A composed call reports acceptance at four places: the pre-check, the
order check of `executeComposedEntry`, and the two lookups of `runFillTransaction`.  The first two
look at the status of the order they find; the last two do not.
-/

namespace VeltrixEye

open Runs

/-! ## Names of entries and of exits -/

section Names

variable {hash hash' : String} {kind : PaperFillType} {k : ℕ}

theorem paperClientOrderId_exit_toList (hash : String) (hkind : kind ≠ .entry) :
    ∃ suffix, (paperClientOrderId hash kind).toList =
      "ve-".toList ++ (hash.toList.take 16 ++ ('-' :: suffix)) := by
  cases kind with
  | entry => exact absurd rfl hkind
  | stop_loss => exact ⟨_, by simp [paperClientOrderId, sliceTo]; rfl⟩
  | take_profit => exact ⟨_, by simp [paperClientOrderId, sliceTo]; rfl⟩
  | close => exact ⟨_, by simp [paperClientOrderId, sliceTo]; rfl⟩

theorem entryClientOrderId_toList_prefix (hash : String) (k : ℕ) :
    ∃ n rest, 20 ≤ n ∧ (entryClientOrderId hash k).toList = "ve-".toList ++ (hash.toList.take n ++ rest) := by
  by_cases hk : k = 1
  · subst hk
    exact ⟨24, [], by omega, by rw [entryClientOrderId_toList_one, List.append_nil]⟩
  · exact ⟨20, _, le_rfl, entryClientOrderId_toList hash hk⟩

theorem entryClientOrderId_ne_exit (hhex : IsHexDigest hash) (hhex' : IsHexDigest hash') (hkind : kind ≠ .entry) :
    entryClientOrderId hash k ≠ paperClientOrderId hash' kind := by
  intro h
  obtain ⟨n, rest, hn, hentry⟩ := entryClientOrderId_toList_prefix hash k
  obtain ⟨suffix, hexit⟩ := paperClientOrderId_exit_toList hash' hkind
  have hlist := congrArg String.toList h
  rw [hentry, hexit, List.append_cancel_left_eq] at hlist
  have hget := congrArg (fun l => l[16]?) hlist
  have hlt : 16 < hash.toList.length := by
    rw [hhex.1]
    omega
  have htaken : 16 < (hash.toList.take n).length := by
    rw [List.length_take, hhex.1]
    omega
  have hleft : (hash.toList.take n ++ rest)[16]? = some hash.toList[16] := by
    rw [List.getElem?_append_left htaken, List.getElem?_take_of_lt (by omega), List.getElem?_eq_getElem hlt]
  have hlen : (hash'.toList.take 16).length = 16 := by
    rw [List.length_take, hhex'.1]
    rfl
  have hright : (hash'.toList.take 16 ++ ('-' :: suffix))[16]? = some '-' := by
    rw [List.getElem?_append_right hlen.le, hlen]
    rfl
  simp only [hleft, hright, Option.some.injEq] at hget
  have hmem := hhex.2 _ (List.getElem_mem hlt)
  rw [hget] at hmem
  revert hmem
  decide

end Names

/-! ## The rows of the paper service -/

/-- An order that opens a position; an exit carries the closing action. -/
def OrderRow.isEntry (o : OrderRow) : Bool := o.decision.action ≠ .close_position

/-- The position an order opened, open or closed by now. -/
def Db.Opened (db : Db) (orderId : String) : Prop := ∃ p ∈ db.positions, p.openedByOrderId = some orderId

/-- What every transaction of the service leaves behind. -/
structure PaperRows (db : Db) : Prop where
  consistent : Consistent db
  order_ids : (db.orders.map OrderRow.id).Nodup
  settled : ∀ o ∈ db.orders, o.status = .failed ∨ o.status = .filled
  opened : ∀ o ∈ db.orders, o.isEntry = true → o.status = .filled → db.Opened o.id
  exit_name : ∀ o ∈ db.orders, o.isEntry = false →
    ∃ hash kind, IsHexDigest hash ∧ kind ≠ .entry ∧ o.clientOrderId = paperClientOrderId hash kind

theorem paperRows_empty : PaperRows Db.empty where
  consistent := consistent_empty
  order_ids := by simp [Db.empty]
  settled := by simp [Db.empty]
  opened := by simp [Db.empty]
  exit_name := by simp [Db.empty]

/-- An authorization acts and is named after its kind. -/
structure PaperAuthorization.Named (auth : PaperAuthorization) : Prop where
  action_ne : auth.kind = .entry → auth.decision.action ≠ .close_position
  exit_name : auth.kind ≠ .entry → ∃ hash, IsHexDigest hash ∧ auth.clientOrderId = paperClientOrderId hash auth.kind

section Rows

variable {env : PaperEnv} {mode : PaperFailureMode} {auth : PaperAuthorization} {fresh : Fresh} {db db' : Db}

theorem snapshot_isEntry (hnamed : auth.Named) :
    (decide (auth.snapshot.action ≠ .close_position)) = true ↔ auth.kind = .entry := by
  by_cases hkind : auth.kind = .entry
  · simp [PaperAuthorization.snapshot, hkind, hnamed.action_ne hkind]
  · simp [PaperAuthorization.snapshot, hkind]

theorem Inserted.isEntry_iff {order : OrderRow} (hins : Inserted auth fresh.orderId db order)
    (hnamed : auth.Named) : order.isEntry = true ↔ auth.kind = .entry := by
  rw [OrderRow.isEntry, hins.decision_eq]
  exact snapshot_isEntry hnamed

theorem newPositionRow_openedBy {fill : FillComputation} {row : PositionRow}
    (h : newPositionRow auth fresh fill = .ok row) : row.openedByOrderId = some fresh.orderId := by
  unfold newPositionRow at h
  simp only [Except.bind_ok_iff] at h
  obtain ⟨quantity, -, entry, -, sl, -, tp, -, fees, -, slippage, -, h⟩ := h
  cases h
  rfl

theorem closedRow_openedBy {orderId : String} {reason : PaperExitReason} {position row : PositionRow}
    {fill : FillComputation} {net : Dec} (h : closedRow auth orderId reason position fill = .ok (net, row)) :
    row.openedByOrderId = position.openedByOrderId := by
  unfold closedRow at h
  simp only [Except.bind_ok_iff] at h
  obtain ⟨⟨net', entryFees⟩, -, _, -, _, -, exitPrice, -, realizedPl, -, fees, -, slippage, -, h⟩ := h
  cases h
  rfl

theorem Db.Opened.setPosition {position row : PositionRow} {orderId : String} (hcons : Consistent db)
    (h : db.Opened orderId) (hfound : db.position? position.id = some position) (hid : row.id = position.id)
    (hopened : row.openedByOrderId = position.openedByOrderId) : (db.setPosition row).Opened orderId := by
  obtain ⟨p, hp, hopenedBy⟩ := h
  refine ⟨if p.id = row.id then row else p, List.mem_map_of_mem hp, ?_⟩
  split
  · rename_i hrow
    have hpos := hcons.position?_of_mem hp
    rw [hrow, hid, hfound] at hpos
    rw [hopened, Option.some.inj hpos]
    exact hopenedBy
  · exact hopenedBy

theorem Db.Opened.of_case {orderId : String} (h : db.Opened orderId) (hcons : Consistent db)
    (hcase : RunCase env mode auth fresh db db') : db'.Opened orderId := by
  cases hcase with
  | unchanged => exact h
  | failed order _ _ _ => exact h
  | entry order fill row fillRow _ _ _ _ _ _ _ _ =>
    obtain ⟨p, hp, hopened⟩ := h
    exact ⟨p, List.mem_append_left _ hp, hopened⟩
  | exit order fill reason position row net account fillRow _ _ _ _ _ hfound _ hclosed _ _ =>
    have hset := h.setPosition hcons hfound (closedRow_ok hclosed).id_eq (closedRow_openedBy hclosed)
    exact hset

/-- **Orders are only added**, one by a transaction at most. -/
theorem RunCase.orders_eq (hcase : RunCase env mode auth fresh db db') :
    db'.orders = db.orders ∨
      ∃ o, Inserted auth fresh.orderId db o ∧ db'.orders = db.orders ++ [o] ∧
        (o.status = .failed ∨ o.status = .filled ∧ (auth.kind = .entry → db'.Opened o.id)) := by
  cases hcase with
  | unchanged => exact .inl rfl
  | failed order _ hins hstatus => exact .inr ⟨order, hins, rfl, .inl hstatus⟩
  | entry order fill row fillRow _ hins hstatus _ hrow _ _ _ =>
    have hopened : (some fresh.orderId : Option String) = some order.id := by rw [hins.id_eq]
    exact .inr ⟨order, hins, rfl, .inr ⟨hstatus, fun _ => ⟨row, List.mem_append_right _ (List.mem_singleton_self _),
      (newPositionRow_openedBy hrow).trans hopened⟩⟩⟩
  | exit order fill reason position row net account fillRow hkind hins hstatus =>
    refine .inr ⟨order, hins, rfl, .inr ⟨hstatus, fun hentry => ?_⟩⟩
    rw [hentry] at hkind
    cases hkind

/-- **One transaction** keeps the rows in order. -/
theorem PaperRows.of_case (h : PaperRows db) (hcase : RunCase env mode auth fresh db db') (hnamed : auth.Named) :
    PaperRows db' := by
  have hcons := hcase.consistent h.consistent
  rcases hcase.orders_eq with horders | ⟨o, hins, horders, hstatus⟩
  · exact {
      consistent := hcons
      order_ids := horders ▸ h.order_ids
      settled := horders ▸ h.settled
      opened := fun q hq hentry hfilled =>
        (h.opened q (horders ▸ hq) hentry hfilled).of_case h.consistent hcase
      exit_name := horders ▸ h.exit_name }
  · have hcases : ∀ q ∈ db'.orders, q ∈ db.orders ∨ q = o := by
      intro q hq
      rw [horders] at hq
      simpa using hq
    refine ⟨hcons, ?_, fun q hq => ?_, fun q hq hentry hfilled => ?_, fun q hq hexit => ?_⟩
    · rw [horders, List.map_append, List.nodup_append]
      refine ⟨h.order_ids, by simp, ?_⟩
      simpa [hins.id_eq] using hins.id_fresh
    · rcases hcases q hq with hq | rfl
      · exact h.settled q hq
      · exact hstatus.imp id And.left
    · rcases hcases q hq with hq | rfl
      · exact (h.opened q hq hentry hfilled).of_case h.consistent hcase
      · rcases hstatus with hfailed | ⟨-, hopened⟩
        · rw [hfailed] at hfilled
          cases hfilled
        · exact hopened ((hins.isEntry_iff hnamed).mp hentry)
    · rcases hcases q hq with hq | rfl
      · exact h.exit_name q hq hexit
      · have hkind : auth.kind ≠ .entry := fun hkind => by
          rw [(hins.isEntry_iff hnamed).mpr hkind] at hexit
          cases hexit
        obtain ⟨hash, hhex, hname⟩ := hnamed.exit_name hkind
        exact ⟨hash, auth.kind, hhex, hkind, hins.clientOrderId_eq.trans hname⟩

theorem PaperRows.runFillTransaction (h : PaperRows db) (hnamed : auth.Named) :
    PaperRows (runFillTransaction env mode auth fresh db).2 :=
  h.of_case (runFillTransaction_cases h.consistent) hnamed

end Rows

/-! ## The trade an acceptance names -/

/-- A filled entry order with the id, and the position it opened. -/
def TradeExists (db : Db) (orderId : String) : Prop :=
  ∃ o ∈ db.orders, o.id = orderId ∧ o.isEntry = true ∧ o.status = .filled ∧ db.Opened orderId

section Trades

variable {env : PaperEnv} {mode : PaperFailureMode} {auth : PaperAuthorization} {fresh : Fresh} {db db' : Db}
  {hash : String} {k : ℕ} {o : OrderRow} {orderId : String}

theorem TradeExists.of_case (h : TradeExists db orderId) (hcons : Consistent db)
    (hcase : RunCase env mode auth fresh db db') : TradeExists db' orderId := by
  obtain ⟨o, ho, hid, hentry, hfilled, hopened⟩ := h
  refine ⟨o, ?_, hid, hentry, hfilled, hopened.of_case hcons hcase⟩
  rcases hcase.orders_eq with horders | ⟨_, _, horders, _⟩
  · rwa [horders]
  · rw [horders]
    exact List.mem_append_left _ ho

theorem TradeExists.not_dead (h : TradeExists db orderId) (hrows : PaperRows db) (ho : o ∈ db.orders)
    (hid : o.id = orderId) : o.dead = false := by
  obtain ⟨o', ho', hid', -, hfilled, -⟩ := h
  have heq := List.inj_on_of_nodup_map hrows.order_ids ho ho' (hid.trans hid'.symm)
  rw [heq]
  exact dead_of_filled hfilled

theorem Db.order?_eq_some {clientOrderId : String} (h : db.order? clientOrderId = some o) :
    o ∈ db.orders ∧ o.clientOrderId = clientOrderId :=
  ⟨List.mem_of_find?_eq_some h, by simpa using List.find?_some h⟩

/-- **A live order under an entry name** is a filled entry, with its position. -/
theorem PaperRows.trade_of_order? (h : PaperRows db) (hhex : IsHexDigest hash)
    (hfound : db.order? (entryClientOrderId hash k) = some o) (hlive : o.dead = false) : TradeExists db o.id := by
  obtain ⟨ho, hname⟩ := Db.order?_eq_some hfound
  have hfilled : o.status = .filled := by
    rcases h.settled o ho with hfailed | hfilled
    · simp [OrderRow.dead, hfailed] at hlive
    · exact hfilled
  have hentry : o.isEntry = true := by
    by_contra hexit
    obtain ⟨hash', kind, hhex', hkind, hname'⟩ := h.exit_name o ho (by simpa using hexit)
    exact entryClientOrderId_ne_exit hhex hhex' hkind (hname.symm.trans hname')
  exact ⟨o, ho, rfl, hentry, hfilled, h.opened o ho hentry hfilled⟩

theorem fillOrder_order {order : OrderRow} {outcome : SubmitOutcome} (hkind : auth.kind = .entry)
    (h : fillOrder env auth fresh order db = .ok (outcome, db')) :
    outcome.providerOrderId = order.id ∧ outcome.replay = false ∧
      ∃ filled ∈ db'.orders, filled.id = order.id ∧ filled.decision = order.decision ∧ filled.status = .filled := by
  have houtcome : outcome.providerOrderId = order.id ∧ outcome.replay = false := by
    unfold fillOrder at h
    simp only [Except.bind_ok_iff] at h
    obtain ⟨fill, -, filled, -, step, -, after, -, h⟩ := h
    split at h
    · cases h
      exact ⟨rfl, rfl⟩
    · cases h
  obtain ⟨fill, filled, step, -, hfilled, hstep, hafter, -⟩ := fillOrder_ok h
  have hfrom := filledOrder_ok hfilled
  refine ⟨houtcome.1, houtcome.2, filled, ?_, hfrom.id_eq, hfrom.decision_eq, hfrom.status_eq⟩
  unfold applyPosition at hstep
  rw [PaperFillType.exitReason_eq_none.mpr hkind] at hstep
  obtain ⟨⟨positionId, db₁⟩, hopen, hstep⟩ := Except.bind_ok_iff.mp hstep
  cases hstep
  have horders : db₁.orders = db.orders ++ [filled] := by
    rcases openPositionRow_ok hopen with ⟨-, -, -, -, rfl⟩ | ⟨-, -, -, -, -, -, rfl⟩ <;> rfl
  rcases insertFill_ok hafter with rfl | ⟨row, -, rfl⟩
  · simp [horders]
  · simp [horders]

/-- **What a fill transaction reports**: the order that held the name, an error, or a new trade. -/
theorem submitOutcome_cases (h : PaperRows db) (hkind : auth.kind = .entry) (hnamed : auth.Named) :
    (∃ o, db.order? auth.clientOrderId = some o ∧
        submitOutcome (runFillTransaction env mode auth fresh db).1 = .replayed o.id) ∨
      (∃ e, submitOutcome (runFillTransaction env mode auth fresh db).1 = .errored e) ∨
      ∃ id, submitOutcome (runFillTransaction env mode auth fresh db).1 = .filled id ∧
        TradeExists (runFillTransaction env mode auth fresh db).2 id := by
  have hrows : PaperRows (runFillTransaction env mode auth fresh db).2 := h.runFillTransaction hnamed
  revert hrows
  unfold runFillTransaction
  split
  · rename_i o ho
    exact fun _ => .inl ⟨o, ho, rfl⟩
  · split
    · exact fun _ => .inr (.inl ⟨_, rfl⟩)
    · rename_i order hinsert
      split
      · exact fun _ => .inr (.inl ⟨_, rfl⟩)
      split
      · exact fun _ => .inr (.inl ⟨_, rfl⟩)
      rename_i outcome after hfill
      intro hrows
      obtain ⟨hid, hreplay, filled, hmem, hfilledId, hdecision, hstatus⟩ := fillOrder_order hkind hfill
      have hentry : filled.isEntry = true := by
        rw [OrderRow.isEntry, hdecision, (insertOrder_ok hinsert).decision_eq]
        exact (snapshot_isEntry hnamed).mpr hkind
      refine .inr (.inr ⟨outcome.providerOrderId, by simp [submitOutcome, hreplay], ?_⟩)
      rw [hid]
      exact ⟨filled, hmem, hfilledId, hentry, hstatus, hfilledId ▸ hrows.opened filled hmem hentry hstatus⟩

end Trades

/-! ## Interleavings of calls and exits -/

/-- A call takes its next step, is cut off, or an exit runs its transaction. -/
inductive AcceptAct where
  | advance (i : ℕ)
  | abandon (i : ℕ)
  | exit (position : LoadedPosition) (opening : ExecutionDecision) (request : ExitRequest)
      (spec : InstrumentRiskSpec) (createdMs : ℤ) (mode : PaperFailureMode) (fresh : Fresh)

/-- The step call `i` is due to take. -/
def advanceCall (env : PaperEnv) (calls : ℕ → EntryCall) (s : EntryState) (i : ℕ) : EntryState :=
  match s.phase i with
  | .idle => s.setPhase i (startPhase env (calls i) s.db)
  | .counting => s.setPhase i (.derived (attemptNumber (calls i) s.db))
  | .derived attempt => s.setPhase i (authorizePhase env (calls i) s.db attempt)
  | .presented attempt => s.setPhase i (rederivePhase env (calls i) s.db attempt)
  | .recounting attempt => s.setPhase i (comparePhase env (calls i) attempt (attemptNumber (calls i) s.db))
  | .authorized auth =>
    { db := (runFillTransaction env (calls i).mode auth (calls i).fresh s.db).2
      phase := (s.setPhase i (.finished (submitOutcome
        (runFillTransaction env (calls i).mode auth (calls i).fresh s.db).1))).phase }
  | .finished _ => s

/-- One step.  A finished call is not cut off any more. -/
def acceptStep (env : PaperEnv) (calls : ℕ → EntryCall) (s : EntryState) : AcceptAct → EntryState
  | .advance i => advanceCall env calls s i
  | .abandon i =>
    match s.phase i with
    | .finished _ => s
    | _ => s.setPhase i (.finished .abandoned)
  | .exit position opening request spec createdMs mode fresh =>
    { s with db := (runFillTransaction env mode
        (exitAuthorization env position opening request spec createdMs) fresh s.db).2 }

/-- A composed call has returned `accepted = true` for an order. -/
def Accepted (call : EntryCall) (ph : EntryPhase) (orderId : String) : Prop :=
  call.composed.isSome = true ∧ (ph = .finished (.replayed orderId) ∨ ph = .finished (.filled orderId))

instance (call : EntryCall) (ph : EntryPhase) (orderId : String) : Decidable (Accepted call ph orderId) :=
  inferInstanceAs (Decidable (_ ∧ _))

/-- The authorization a call is about to run its fill transaction with. -/
def EntryPhase.auth? : EntryPhase → Option PaperAuthorization
  | .authorized auth => some auth
  | _ => none

/-- **The exact condition**: a composed call does not start its fill transaction on the name of an
    order that failed. -/
def NoDeadTwin (calls : ℕ → EntryCall) (s : EntryState) : AcceptAct → Prop
  | .advance i => (calls i).composed.isSome = true →
      ∀ auth ∈ (s.phase i).auth?, ∀ o ∈ s.db.order? auth.clientOrderId, o.dead = false
  | _ => True

instance (calls : ℕ → EntryCall) (s : EntryState) : ∀ a, Decidable (NoDeadTwin calls s a)
  | .advance i => inferInstanceAs (Decidable ((calls i).composed.isSome = true →
      ∀ auth ∈ (s.phase i).auth?, ∀ o ∈ s.db.order? auth.clientOrderId, o.dead = false))
  | .abandon _ => inferInstanceAs (Decidable True)
  | .exit .. => inferInstanceAs (Decidable True)

/-! ## The invariant of a run -/

/-- What the phase of a call promises. -/
def AcceptPhase (call : EntryCall) (db : Db) : EntryPhase → Prop
  | .authorized auth => auth.kind = .entry ∧ auth.decision.action ≠ .close_position ∧
      ∃ hash k, IsHexDigest hash ∧ auth.clientOrderId = entryClientOrderId hash k
  | .finished (.replayed id) | .finished (.filled id) => call.composed.isSome = true → TradeExists db id
  | _ => True

structure AcceptInv (calls : ℕ → EntryCall) (s : EntryState) : Prop where
  rows : PaperRows s.db
  phases : ∀ i, AcceptPhase (calls i) s.db (s.phase i)

section Invariant

variable {env : PaperEnv} {calls : ℕ → EntryCall} {call : EntryCall} {s : EntryState} {db db' : Db}
  {mode : PaperFailureMode} {auth : PaperAuthorization} {fresh : Fresh} {k : ℕ}

theorem AcceptPhase.of_case {ph : EntryPhase} (h : AcceptPhase call db ph) (hcons : Consistent db)
    (hcase : RunCase env mode auth fresh db db') : AcceptPhase call db' ph := by
  cases ph with
  | finished outcome =>
    cases outcome with
    | replayed id => exact fun hcomposed => (h hcomposed).of_case hcons hcase
    | filled id => exact fun hcomposed => (h hcomposed).of_case hcons hcase
    | _ => exact h
  | _ => exact h

theorem AcceptInv.setPhase (h : AcceptInv calls s) {i : ℕ} {ph : EntryPhase}
    (hph : AcceptPhase (calls i) s.db ph) : AcceptInv calls (s.setPhase i ph) where
  rows := h.rows
  phases j := by
    simp only [EntryState.setPhase]
    split
    · rename_i hji
      exact hji ▸ hph
    · exact h.phases j

theorem acceptInv_start (calls : ℕ → EntryCall) : AcceptInv calls (.start Db.empty) where
  rows := paperRows_empty
  phases _ := trivial

theorem startPhase_accept (hhex : ∀ text, IsHexDigest (env.sha256 text)) (h : PaperRows db) :
    AcceptPhase call db (startPhase env call db) := by
  unfold startPhase
  split
  · trivial
  rename_i decision hbuilt
  split
  · rename_i o ho
    split
    · trivial
    · rename_i hlive
      exact fun _ => h.trade_of_order? (hhex _) ho (by simpa using hlive)
  · trivial

theorem entryAuthorization_accept (hhex : ∀ text, IsHexDigest (env.sha256 text)) {decision : ExecutionDecision}
    (hbuilt : buildServerExecutionDecision call.ctx.setup = .ok decision) {size : ℚ}
    {price : SimulatorMarketPrice} {spec : InstrumentRiskSpec} :
    AcceptPhase call db (.authorized (entryAuthorization env call.ctx decision size price spec k)) := by
  refine ⟨rfl, ?_, _, k, hhex _, rfl⟩
  have haction := (buildServerExecutionDecision_ok hbuilt).action_eq
  show decision.action ≠ _
  rw [haction]
  exact entryAction_ne_close _

theorem authorizePhase_accept (hhex : ∀ text, IsHexDigest (env.sha256 text)) (h : PaperRows db) :
    AcceptPhase call db (authorizePhase env call db k) := by
  unfold authorizePhase
  split
  · trivial
  rename_i decision hbuilt
  split
  · split
    · trivial
    · rename_i auth hauth
      obtain ⟨price, size, spec, -, -, -, -, -, rfl⟩ := authorizeEntry_ok hauth
      exact entryAuthorization_accept hhex hbuilt
  · split
    · trivial
    · split
      · rename_i o ho
        split
        · trivial
        · rename_i hlive
          exact fun _ => h.trade_of_order? (hhex _) ho (by simpa using hlive)
      · trivial

theorem comparePhase_accept (hhex : ∀ text, IsHexDigest (env.sha256 text)) {rederived : ℕ} :
    AcceptPhase call db (comparePhase env call k rederived) := by
  unfold comparePhase
  split
  · rename_i decision c hbuilt hcomposed
    split
    · trivial
    split
    · split
      · trivial
      · exact entryAuthorization_accept hhex hbuilt
    · trivial
  · trivial

theorem rederivePhase_accept (hhex : ∀ text, IsHexDigest (env.sha256 text)) :
    AcceptPhase call db (rederivePhase env call db k) := by
  unfold rederivePhase
  split
  · trivial
  split
  · split
    · trivial
    · exact comparePhase_accept hhex
  · exact comparePhase_accept hhex

theorem exitAuthorization_named (hhex : ∀ text, IsHexDigest (env.sha256 text)) (position : LoadedPosition)
    (opening : ExecutionDecision) (request : ExitRequest) (spec : InstrumentRiskSpec) (createdMs : ℤ) :
    (exitAuthorization env position opening request spec createdMs).Named where
  action_ne hkind := by
    have hnot : request.kind.fillType ≠ .entry := by cases request.kind <;> simp [PaperExitReason.fillType]
    exact absurd hkind hnot
  exit_name _ := ⟨_, hhex _, rfl⟩

theorem AcceptInv.of_transaction (h : AcceptInv calls s) (hnamed : auth.Named) :
    AcceptInv calls { s with db := (runFillTransaction env mode auth fresh s.db).2 } where
  rows := h.rows.runFillTransaction hnamed
  phases i := (h.phases i).of_case h.rows.consistent (runFillTransaction_cases h.rows.consistent)

/-- **One step** keeps the promises, unless a composed call takes a dead twin for an acceptance. -/
theorem acceptStep_inv (hhex : ∀ text, IsHexDigest (env.sha256 text)) (h : AcceptInv calls s) (a : AcceptAct)
    (hok : NoDeadTwin calls s a) : AcceptInv calls (acceptStep env calls s a) := by
  cases a with
  | exit position opening request spec createdMs mode fresh =>
    exact h.of_transaction (exitAuthorization_named hhex position opening request spec createdMs)
  | abandon i =>
    simp only [acceptStep]
    split
    · exact h
    · exact h.setPhase trivial
  | advance i =>
    simp only [acceptStep, advanceCall]
    have hphase := h.phases i
    split
    · exact h.setPhase (startPhase_accept hhex h.rows)
    · exact h.setPhase trivial
    · exact h.setPhase (authorizePhase_accept hhex h.rows)
    · exact h.setPhase (rederivePhase_accept hhex)
    · exact h.setPhase (comparePhase_accept hhex)
    · rename_i auth hauth
      rw [hauth] at hphase
      obtain ⟨hkind, haction, hash, k, hdigest, hname⟩ := hphase
      have hnamed : auth.Named := ⟨fun _ => haction, fun hne => absurd hkind hne⟩
      have hafter : AcceptInv calls { s with db := (runFillTransaction env (calls i).mode auth (calls i).fresh s.db).2 } :=
        h.of_transaction hnamed
      refine hafter.setPhase ?_
      rcases submitOutcome_cases h.rows hkind hnamed with ⟨o, ho, hout⟩ | ⟨e, hout⟩ | ⟨id, hout, htrade⟩
      · rw [hout]
        -- the name is held: the order that holds it is live, so it is the trade
        intro hcomposed
        have hlive := hok hcomposed auth (by rw [hauth]; rfl) o ho
        rw [hname] at ho
        have htrade := h.rows.trade_of_order? hdigest ho hlive
        exact htrade.of_case h.rows.consistent (runFillTransaction_cases h.rows.consistent)
      · rw [hout]
        trivial
      · rw [hout]
        exact fun _ => htrade
    · exact h

theorem AcceptInv.accepted (h : AcceptInv calls s) {i : ℕ} {orderId : String}
    (haccepted : Accepted (calls i) (s.phase i) orderId) : TradeExists s.db orderId := by
  obtain ⟨hcomposed, hfinished⟩ := haccepted
  have hphase := h.phases i
  rcases hfinished with hfinished | hfinished
  · rw [hfinished] at hphase
    exact hphase hcomposed
  · rw [hfinished] at hphase
    exact hphase hcomposed

end Invariant

/-- An acceptance names a trade, and no dead order. -/
def Truthful (calls : ℕ → EntryCall) (s : EntryState) : Prop :=
  ∀ i orderId, Accepted (calls i) (s.phase i) orderId →
    TradeExists s.db orderId ∧ ∀ o ∈ s.db.orders, o.id = orderId → o.dead = false

theorem advance_replays (env : PaperEnv) (calls : ℕ → EntryCall) {s : EntryState} {i : ℕ}
    {auth : PaperAuthorization} {o : OrderRow} (hphase : s.phase i = .authorized auth)
    (ho : s.db.order? auth.clientOrderId = some o) :
    (acceptStep env calls s (.advance i)).phase i = .finished (.replayed o.id) ∧
      (acceptStep env calls s (.advance i)).db = s.db := by
  simp [acceptStep, advanceCall, hphase, runFillTransaction, ho, EntryState.setPhase, submitOutcome]

/-- **Acceptance is truthful exactly when no composed call takes a dead twin for its trade.**  Over
    every interleaving of any number of composed and direct entries and of exits, from the empty
    tables: in every state, what the composed calls have accepted are filled orders with their
    positions, if and only if no composed call starts its fill transaction while an order under its
    client order id has failed. -/
theorem accepted_entry_exists_iff (env : PaperEnv) (hhex : ∀ text, IsHexDigest (env.sha256 text))
    (calls : ℕ → EntryCall) (acts : List AcceptAct) :
    (∀ t, Reached (acceptStep env calls) (.start Db.empty) acts t → Truthful calls t) ↔
      Meets (acceptStep env calls) (NoDeadTwin calls) (.start Db.empty) acts := by
  constructor
  · intro htruthful
    rw [meets_iff_forall_action]
    intro pre a post hacts
    cases a with
    | advance i =>
      intro hcomposed auth hauth o ho
      have hphase : (run (acceptStep env calls) (.start Db.empty) pre).phase i = .authorized auth := by
        cases hph : (run (acceptStep env calls) (.start Db.empty) pre).phase i with
        | authorized auth' =>
          rw [hph] at hauth
          exact congrArg EntryPhase.authorized (Option.some.inj hauth)
        | _ =>
          rw [hph] at hauth
          cases hauth
      obtain ⟨hafter, hdb⟩ := advance_replays env calls hphase ho
      have hstate := htruthful _ (reached_step _ hacts) i o.id ⟨hcomposed, .inl hafter⟩
      rw [hdb] at hstate
      exact hstate.2 o (Db.order?_eq_some ho).1 rfl
    | abandon i => trivial
    | exit => trivial
  · intro hmeets t ht i orderId haccepted
    have hstep : ∀ s a, AcceptInv calls s → NoDeadTwin calls s a → AcceptInv calls (acceptStep env calls s a) :=
      fun s a hs hok => acceptStep_inv hhex hs a hok
    have hinv : AcceptInv calls t := inv_of_reached _ hstep (acceptInv_start calls) hmeets ht
    have htrade := hinv.accepted haccepted
    exact ⟨htrade, fun o ho hid => htrade.not_dead hinv.rows ho hid⟩

/-- The digests of the first sample entry. -/
def entryDigests : List (String × String) := sampleDigests.take 3

/-- SHA-256 on the sample entry, and some digest on every other text. -/
def digestEnv : PaperEnv :=
  { sampleEnv with sha256 := fun text =>
      (entryDigests.lookup text).getD "0000000000000000000000000000000000000000000000000000000000000000" }

theorem digestEnv_hex (text : String) : IsHexDigest (digestEnv.sha256 text) := by
  have htable : ∀ entry ∈ entryDigests, IsHexDigest entry.2 := by
    have hall : entryDigests.all (fun entry => entry.2.toList.length == 64 &&
        entry.2.toList.all (fun c => "0123456789abcdef".toList.contains c)) = true := by
      simp only [← Utf8.chars_eq]
      decide +kernel
    intro entry hentry
    have := List.all_eq_true.mp hall entry hentry
    simp only [Bool.and_eq_true, beq_iff_eq] at this
    exact isHexDigest_of_all this.1 this.2
  show IsHexDigest ((entryDigests.lookup text).getD _)
  cases hfound : entryDigests.lookup text with
  | none => exact isHexDigest_of_all (by decide +kernel) (by decide +kernel)
  | some digest =>
    obtain ⟨before, after, hsplit, -⟩ := List.lookup_eq_some_iff.mp hfound
    exact htable (text, digest) (by rw [hsplit]; simp)

/-- Composed calls on the sample setup, citing the approval of a tenth of a lot. -/
def composedTwins (mode : PaperFailureMode) (i : ℕ) : EntryCall :=
  { sampleCall .confirmed mode i with
    composed := some {
      providerSlug := "paper"
      reloaded := gapSetup
      approval := some ⟨"decision", .approved, "approved", RISK_ENGINE_VERSION, some (1 / 10)⟩
      reservationLive := true
      fence := none
      quantity := 1 / 10
      exposureWithinLimits := true
      effectiveMinRr := some (.fin 2)
      binding := some true
      consume := none } }

/-- Both twins pass their checks before either runs its transaction. -/
def twinActs : List AcceptAct := [.advance 0, .advance 1, .advance 0, .advance 1, .advance 0, .advance 1, .advance 0,
  .advance 1]

/-- The twin of a fill replays it. -/
theorem filled_twin_is_accepted :
    let t := run (acceptStep digestEnv (composedTwins .off)) (.start Db.empty) twinActs
    Accepted (composedTwins .off 1) (t.phase 1) "order-0" ∧ TradeExists t.db "order-0" := by
  obtain ⟨haccepted, hmeets⟩ : Accepted (composedTwins .off 1)
      ((run (acceptStep digestEnv (composedTwins .off)) (.start Db.empty) twinActs).phase 1) "order-0" ∧
      Meets (acceptStep digestEnv (composedTwins .off)) (NoDeadTwin (composedTwins .off)) (.start Db.empty)
        twinActs := by
    decide +kernel
  exact ⟨haccepted, ((accepted_entry_exists_iff digestEnv digestEnv_hex (composedTwins .off) twinActs).mpr hmeets _
    (reached_last _ _ _) 1 "order-0" haccepted).1⟩

/-- With the simulator in its failing mode, the first twin fails and the second reports the failed
    order as its replayed acceptance: no position exists. -/
theorem failed_twin_is_accepted :
    let t := run (acceptStep digestEnv (composedTwins ⟨true, false⟩)) (.start Db.empty) twinActs
    Accepted (composedTwins ⟨true, false⟩ 1) (t.phase 1) "order-0" ∧
      t.db.orders.map (fun o => (o.id, o.status)) = [("order-0", .failed)] ∧ t.db.positions = [] := by
  decide +kernel

end VeltrixEye
