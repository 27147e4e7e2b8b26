import VeltrixEye.Execution.FillTransaction

/-!
# The tables over time

What any number of fill transactions, entries and exits, filled or failing, leaves in the order and
position tables.

* `TableRows` — the unique indexes, and every order is filled or failed.
* `Successor` — a position row stays as it is, or is closed in place.
-/

namespace VeltrixEye

/-- The unique indexes of the tables and the statuses that are committed. -/
structure TableRows (db : Db) : Prop where
  consistent : Consistent db
  order_ids : (db.orders.map OrderRow.id).Nodup
  order_keys : (db.orders.map OrderRow.idempotencyKey).Nodup
  settled : ∀ o ∈ db.orders, o.status = .failed ∨ o.status = .filled
  position_key : ∀ p ∈ db.positions, ∃ hash, p.providerPositionId = some (paperProviderPositionId hash)
  key_unique : ∀ p ∈ db.positions, ∀ q ∈ db.positions, p.executionProfileId = q.executionProfileId →
    p.providerPositionId = q.providerPositionId → p = q

theorem tableRows_empty : TableRows Db.empty where
  consistent := consistent_empty
  order_ids := by simp [Db.empty]
  order_keys := by simp [Db.empty]
  settled := by simp [Db.empty]
  position_key := by simp [Db.empty]
  key_unique := by simp [Db.empty]

/-- What a position row has become: itself, or its closed row. -/
structure Successor (p q : PositionRow) : Prop where
  id_eq : q.id = p.id
  userId_eq : q.userId = p.userId
  executionProfileId_eq : q.executionProfileId = p.executionProfileId
  providerPositionId_eq : q.providerPositionId = p.providerPositionId
  openedAt_eq : q.openedAt = p.openedAt
  same_or_closed : q = p ∨ q.status = .closed

theorem Successor.refl (p : PositionRow) : Successor p p := ⟨rfl, rfl, rfl, rfl, rfl, .inl rfl⟩

theorem Successor.trans {p q r : PositionRow} (h : Successor p q) (h' : Successor q r) : Successor p r where
  id_eq := h'.id_eq.trans h.id_eq
  userId_eq := h'.userId_eq.trans h.userId_eq
  executionProfileId_eq := h'.executionProfileId_eq.trans h.executionProfileId_eq
  providerPositionId_eq := h'.providerPositionId_eq.trans h.providerPositionId_eq
  openedAt_eq := h'.openedAt_eq.trans h.openedAt_eq
  same_or_closed := by
    rcases h'.same_or_closed with rfl | hclosed
    · exact h.same_or_closed
    · exact .inr hclosed

/-- `db'` holds what `db` held: the same orders, and a successor of every position. -/
structure Later (db db' : Db) : Prop where
  orders : ∀ o ∈ db.orders, o ∈ db'.orders
  positions : ∀ p ∈ db.positions, ∃ q ∈ db'.positions, Successor p q

section Transaction

variable {env : PaperEnv} {mode : PaperFailureMode} {auth : PaperAuthorization} {fresh : Fresh} {db db' : Db}

/-! ## Orders -/

theorem insertOrder_key {id : String} {order : OrderRow} (h : insertOrder auth id db = .ok order) :
    ∀ o ∈ db.orders, o.idempotencyKey ≠ order.idempotencyKey := by
  unfold insertOrder at h
  simp only [Except.bind_ok_iff, constraint_ok] at h
  obtain ⟨quantity, -, _, -, _, -, referencePrice, -, -, -, -, -, -, -, -, -, -, hkey, h⟩ := h
  cases h
  exact hkey

theorem filledOrder_key {order row : OrderRow} {fill : FillComputation} (h : filledOrder order fill = .ok row) :
    row.idempotencyKey = order.idempotencyKey := by
  unfold filledOrder at h
  simp only [Except.bind_ok_iff] at h
  obtain ⟨price, -, fees, -, slippage, -, h⟩ := h
  cases h
  rfl

theorem applyPosition_orders {fill : FillComputation} {step : PositionStep}
    (h : applyPosition env auth fresh fill db = .ok step) : step.db.orders = db.orders := by
  unfold applyPosition at h
  split at h
  · obtain ⟨⟨positionId, db₁⟩, hopen, h⟩ := Except.bind_ok_iff.mp h
    cases h
    rcases openPositionRow_ok hopen with ⟨-, -, -, -, rfl⟩ | ⟨-, -, -, -, -, -, rfl⟩ <;> rfl
  · obtain ⟨⟨closed, db₁⟩, hclose, h⟩ := Except.bind_ok_iff.mp h
    obtain ⟨position, -, -, hcase⟩ := closePositionRow_ok hclose
    have horders : db₁.orders = db.orders := by
      rcases hcase with ⟨-, -, rfl⟩ | ⟨-, -, -, -, -, rfl⟩ <;> rfl
    cases hpl : closed.realizedPl with
    | none =>
      simp only [hpl] at h
      cases h
      exact horders
    | some net =>
      simp only [hpl] at h
      obtain ⟨db₂, hpost, h⟩ := Except.bind_ok_iff.mp h
      cases h
      obtain ⟨account, -, rfl⟩ := recordRealizedPl_ok hpost
      exact horders

theorem recordFill_orders {fill : FillComputation} {step : PositionStep}
    (h : recordFill env auth fresh fill step = .ok db') : db'.orders = step.db.orders := by
  unfold recordFill at h
  split at h
  · rcases insertFill_ok h with rfl | ⟨row, -, rfl⟩ <;> rfl
  · cases h
    rfl

theorem fillOrder_orders {order : OrderRow} {outcome : SubmitOutcome}
    (h : fillOrder env auth fresh order db = .ok (outcome, db')) :
    ∃ filled, FilledFrom order filled ∧ filled.idempotencyKey = order.idempotencyKey ∧
      db'.orders = db.orders ++ [filled] := by
  obtain ⟨fill, filled, step, -, hfilled, hstep, hafter, -⟩ := fillOrder_ok h
  exact ⟨filled, filledOrder_ok hfilled, filledOrder_key hfilled,
    (recordFill_orders hafter).trans (applyPosition_orders hstep)⟩

/-- The order a transaction adds. -/
structure NewOrder (auth : PaperAuthorization) (fresh : Fresh) (db : Db) (o : OrderRow) : Prop where
  id_eq : o.id = fresh.orderId
  id_fresh : ∀ o' ∈ db.orders, o'.id ≠ o.id
  key_fresh : ∀ o' ∈ db.orders, o'.idempotencyKey ≠ o.idempotencyKey
  settled : o.status = .failed ∨ o.status = .filled

/-- **At most one order** is added, under an id and a key that were free. -/
theorem runFillTransaction_orders (env : PaperEnv) (mode : PaperFailureMode) (auth : PaperAuthorization)
    (fresh : Fresh) (db : Db) :
    (runFillTransaction env mode auth fresh db).2.orders = db.orders ∨
      ∃ o, NewOrder auth fresh db o ∧ (runFillTransaction env mode auth fresh db).2.orders = db.orders ++ [o] := by
  unfold runFillTransaction
  split
  · exact .inl rfl
  split
  · exact .inl rfl
  rename_i order hinsert
  have hins := insertOrder_ok hinsert
  have hkey := insertOrder_key hinsert
  split
  · refine .inr ⟨{ order with status := .failed, rejectReason := some (failureReason mode) },
      ⟨hins.id_eq, fun o ho => ?_, hkey, .inl rfl⟩, rfl⟩
    show o.id ≠ order.id
    rw [hins.id_eq]
    exact hins.id_fresh o ho
  · split
    · exact .inl rfl
    · rename_i outcome after hfill
      obtain ⟨filled, hfrom, hfilledKey, horders⟩ := fillOrder_orders hfill
      refine .inr ⟨filled, ⟨hfrom.id_eq.trans hins.id_eq, fun o ho => ?_, fun o ho => ?_,
        .inr hfrom.status_eq⟩, horders⟩
      · rw [hfrom.id_eq, hins.id_eq]
        exact hins.id_fresh o ho
      · rw [hfilledKey]
        exact hkey o ho

/-! ## Positions -/

theorem closedRow_openedAt {orderId : String} {reason : PaperExitReason} {position row : PositionRow}
    {fill : FillComputation} {net : Dec} (h : closedRow auth orderId reason position fill = .ok (net, row)) :
    row.openedAt = position.openedAt := by
  unfold closedRow at h
  simp only [Except.bind_ok_iff] at h
  obtain ⟨⟨net', entryFees⟩, -, _, -, _, -, exitPrice, -, realizedPl, -, fees, -, slippage, -, h⟩ := h
  cases h
  rfl

theorem successor_closed {orderId : String} {reason : PaperExitReason} {position row : PositionRow}
    {fill : FillComputation} {net : Dec} (h : closedRow auth orderId reason position fill = .ok (net, row)) :
    Successor position row :=
  have hfrom := closedRow_ok h
  ⟨hfrom.id_eq, hfrom.userId_eq, hfrom.executionProfileId_eq, hfrom.providerPositionId_eq, closedRow_openedAt h,
    .inr hfrom.status_eq⟩

theorem setPosition_successor {position row : PositionRow} (hcons : Consistent db)
    (hfound : db.position? position.id = some position) (hrow : Successor position row) :
    ∀ p ∈ db.positions, Successor p (if p.id = row.id then row else p) := by
  intro p hp
  split
  · rename_i hid
    have hpos := hcons.position?_of_mem hp
    rw [hid, hrow.id_eq, hfound] at hpos
    rw [← Option.some.inj hpos]
    exact hrow
  · exact .refl p

theorem RunCase.later (hcase : RunCase env mode auth fresh db db') (hcons : Consistent db) : Later db db' := by
  cases hcase with
  | unchanged => exact ⟨fun _ ho => ho, fun p hp => ⟨p, hp, .refl p⟩⟩
  | failed order _ _ _ => exact ⟨fun _ ho => List.mem_append_left _ ho, fun p hp => ⟨p, hp, .refl p⟩⟩
  | entry order fill row fillRow _ _ _ _ _ _ _ _ =>
    exact ⟨fun _ ho => List.mem_append_left _ ho, fun p hp => ⟨p, List.mem_append_left _ hp, .refl p⟩⟩
  | exit order fill reason position row net account fillRow _ _ _ _ _ hfound _ hclosed _ _ =>
    exact ⟨fun _ ho => List.mem_append_left _ ho, fun p hp =>
      ⟨_, List.mem_map_of_mem hp, setPosition_successor hcons hfound (successor_closed hclosed) p hp⟩⟩

/-- **One transaction** keeps every order, and every position or its closed row. -/
theorem runFillTransaction_later (hcons : Consistent db) :
    Later db (runFillTransaction env mode auth fresh db).2 :=
  (runFillTransaction_cases hcons).later hcons

theorem RunCase.position_keys (hcase : RunCase env mode auth fresh db db') (h : TableRows db) :
    (∀ p ∈ db'.positions, ∃ hash, p.providerPositionId = some (paperProviderPositionId hash)) ∧
      ∀ p ∈ db'.positions, ∀ q ∈ db'.positions, p.executionProfileId = q.executionProfileId →
        p.providerPositionId = q.providerPositionId → p = q := by
  cases hcase with
  | unchanged => exact ⟨h.position_key, h.key_unique⟩
  | failed order _ _ _ => exact ⟨h.position_key, h.key_unique⟩
  | entry order fill row fillRow _ _ _ _ hrow _ hfree _ =>
    have hposition := newPositionRow_ok hrow
    have hother : ∀ p ∈ db.positions, p.executionProfileId = row.executionProfileId →
        p.providerPositionId ≠ row.providerPositionId := by
      intro p hp hprofile hkey
      have hnot := hfree p hp
      rw [hposition.executionProfileId_eq] at hprofile
      rw [hposition.providerPositionId_eq] at hkey
      simp [PositionRow.holds, hprofile, hkey] at hnot
    constructor
    · intro p hp
      rcases List.mem_append.mp hp with hp | hp
      · exact h.position_key p hp
      · rw [List.mem_singleton.mp hp]
        exact ⟨_, hposition.providerPositionId_eq⟩
    · intro p hp q hq hprofile hkey
      rcases List.mem_append.mp hp with hp | hp
      · rcases List.mem_append.mp hq with hq | hq
        · exact h.key_unique p hp q hq hprofile hkey
        · rw [List.mem_singleton.mp hq] at hprofile hkey
          exact absurd hkey (hother p hp hprofile)
      · rw [List.mem_singleton.mp hp] at hprofile hkey ⊢
        rcases List.mem_append.mp hq with hq | hq
        · exact absurd hkey.symm (hother q hq hprofile.symm)
        · rw [List.mem_singleton.mp hq]
  | exit order fill reason position row net account fillRow _ _ _ _ _ hfound _ hclosed _ _ =>
    have hsucc := setPosition_successor h.consistent hfound (successor_closed hclosed)
    constructor
    · intro p hp
      obtain ⟨p₀, hp₀, rfl⟩ := List.mem_map.mp hp
      obtain ⟨hash, hkey⟩ := h.position_key p₀ hp₀
      exact ⟨hash, (hsucc p₀ hp₀).providerPositionId_eq.trans hkey⟩
    · intro p hp q hq hprofile hkey
      obtain ⟨p₀, hp₀, rfl⟩ := List.mem_map.mp hp
      obtain ⟨q₀, hq₀, rfl⟩ := List.mem_map.mp hq
      rw [(hsucc p₀ hp₀).executionProfileId_eq, (hsucc q₀ hq₀).executionProfileId_eq] at hprofile
      rw [(hsucc p₀ hp₀).providerPositionId_eq, (hsucc q₀ hq₀).providerPositionId_eq] at hkey
      rw [h.key_unique p₀ hp₀ q₀ hq₀ hprofile hkey]

/-- **One transaction** keeps the indexes. -/
theorem runFillTransaction_rows (h : TableRows db) : TableRows (runFillTransaction env mode auth fresh db).2 := by
  have hcase : RunCase env mode auth fresh db (runFillTransaction env mode auth fresh db).2 :=
    runFillTransaction_cases h.consistent
  obtain ⟨hkeys, hunique⟩ := hcase.position_keys h
  rcases runFillTransaction_orders env mode auth fresh db with horders | ⟨o, hnew, horders⟩
  · exact ⟨hcase.consistent h.consistent, horders ▸ h.order_ids, horders ▸ h.order_keys, horders ▸ h.settled, hkeys,
      hunique⟩
  · refine ⟨hcase.consistent h.consistent, ?_, ?_, ?_, hkeys, hunique⟩
    · rw [horders, List.map_append, List.nodup_append]
      refine ⟨h.order_ids, by simp, ?_⟩
      simpa using hnew.id_fresh
    · rw [horders, List.map_append, List.nodup_append]
      refine ⟨h.order_keys, by simp, ?_⟩
      simpa using hnew.key_fresh
    · intro q hq
      rw [horders] at hq
      rcases List.mem_append.mp hq with hq | hq
      · exact h.settled q hq
      · rw [List.mem_singleton.mp hq]
        exact hnew.settled

end Transaction

/-! ## Any number of transactions -/

theorem Later.trans {a b c : Db} (h : Later a b) (h' : Later b c) : Later a c where
  orders o ho := h'.orders o (h.orders o ho)
  positions p hp := by
    obtain ⟨q, hq, hpq⟩ := h.positions p hp
    obtain ⟨r, hr, hqr⟩ := h'.positions q hq
    exact ⟨r, hr, hpq.trans hqr⟩

/-- One fill transaction with its environment, failure mode, authorization and fresh values. -/
def fillStep (db : Db) (tx : PaperEnv × PaperFailureMode × PaperAuthorization × Fresh) : Db :=
  (runFillTransaction tx.1 tx.2.1 tx.2.2.1 tx.2.2.2 db).2

end VeltrixEye
