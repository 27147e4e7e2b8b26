import VeltrixEye.Execution.SamplePrices
import VeltrixEye.Lib.Numerals
import VeltrixEye.Execution.PaperService

/-!
# What a fill transaction leaves behind

* `RunCase` / `runFillTransaction_cases` — everything the transaction can do to a consistent
  database.  A repeated exit and a repeated entry never commit: reconciliation finds the filled
  order without a fill row, or the second entry fill.
-/

namespace VeltrixEye

/-! ## What the parts of the transaction write -/

section Parts

variable {env : PaperEnv} {mode : PaperFailureMode} {auth : PaperAuthorization} {fresh : Fresh} {db : Db}

/-- The order row a successful insert produced, and the indexes it was checked against. -/
structure Inserted (auth : PaperAuthorization) (id : String) (db : Db) (order : OrderRow) : Prop where
  id_eq : order.id = id
  userId_eq : order.userId = auth.userId
  executionProfileId_eq : order.executionProfileId = auth.executionProfileId
  clientOrderId_eq : order.clientOrderId = auth.clientOrderId
  setupId_eq : order.setupId = some auth.setupId
  decision_eq : order.decision = auth.snapshot
  id_fresh : ∀ o ∈ db.orders, o.id ≠ id
  clientOrderId_fresh : ∀ o ∈ db.orders, o.clientOrderId ≠ auth.clientOrderId

theorem insertOrder_ok {id : String} {order : OrderRow} (h : insertOrder auth id db = .ok order) :
    Inserted auth id db order := by
  unfold insertOrder at h
  simp only [Except.bind_ok_iff, constraint_ok] at h
  obtain ⟨quantity, -, _, -, _, -, referencePrice, -, -, -, -, -, -, hid, -, hclient, -, -, h⟩ := h
  cases h
  exact ⟨rfl, rfl, rfl, rfl, rfl, rfl, hid, hclient⟩

/-- The filled row of an order keeps its identity. -/
structure FilledFrom (order row : OrderRow) : Prop where
  id_eq : row.id = order.id
  userId_eq : row.userId = order.userId
  executionProfileId_eq : row.executionProfileId = order.executionProfileId
  clientOrderId_eq : row.clientOrderId = order.clientOrderId
  setupId_eq : row.setupId = order.setupId
  decision_eq : row.decision = order.decision
  status_eq : row.status = .filled

theorem filledOrder_ok {order row : OrderRow} {fill : FillComputation}
    (h : filledOrder order fill = .ok row) : FilledFrom order row := by
  unfold filledOrder at h
  simp only [Except.bind_ok_iff] at h
  obtain ⟨price, -, fees, -, slippage, -, h⟩ := h
  cases h
  exact ⟨rfl, rfl, rfl, rfl, rfl, rfl, rfl⟩

/-- The fill row of an authorization names its order, its position and its kind. -/
structure FillFor (auth : PaperAuthorization) (fresh : Fresh) (positionId : String) (row : FillRow) :
    Prop where
  orderId_eq : row.orderId = fresh.orderId
  positionId_eq : row.positionId = some positionId
  fillType_eq : row.fillType = auth.kind

theorem newFillRow_ok {positionId : String} {fill : FillComputation} {row : FillRow}
    (h : newFillRow env auth fresh positionId fill = .ok row) : FillFor auth fresh positionId row := by
  unfold newFillRow at h
  simp only [Except.bind_ok_iff] at h
  obtain ⟨quantity, -, price, -, fees, -, slippage, -, h⟩ := h
  cases h
  exact ⟨rfl, rfl, rfl⟩

/-- An insert appends the fill or, when the ledger already holds its key, does nothing. -/
theorem insertFill_ok {positionId : String} {fill : FillComputation} {db' : Db}
    (h : insertFill env auth fresh positionId fill db = .ok db') :
    db' = db ∨ ∃ row, FillFor auth fresh positionId row ∧ db' = { db with fills := db.fills ++ [row] } := by
  unfold insertFill at h
  obtain ⟨row, hrow, h⟩ := Except.bind_ok_iff.mp h
  split at h
  · cases h
    exact .inl rfl
  · obtain ⟨_, -, h⟩ := Except.bind_ok_iff.mp h
    cases h
    exact .inr ⟨row, newFillRow_ok hrow, rfl⟩

/-- A new position row starts open, without exit data, linked to its order. -/
structure NewPosition (auth : PaperAuthorization) (fresh : Fresh) (row : PositionRow) : Prop where
  id_eq : row.id = fresh.positionId
  userId_eq : row.userId = auth.userId
  executionProfileId_eq : row.executionProfileId = auth.executionProfileId
  providerPositionId_eq : row.providerPositionId = some (paperProviderPositionId auth.positionKey)
  setupId_eq : row.setupId = some auth.setupId
  status_eq : row.status = .«open»

theorem newPositionRow_ok {fill : FillComputation} {row : PositionRow}
    (h : newPositionRow auth fresh fill = .ok row) : NewPosition auth fresh row := by
  unfold newPositionRow at h
  simp only [Except.bind_ok_iff] at h
  obtain ⟨quantity, -, entry, -, sl, -, tp, -, fees, -, slippage, -, h⟩ := h
  cases h
  exact ⟨rfl, rfl, rfl, rfl, rfl, rfl⟩

/-- Opening reuses the row of the identity or appends a new one. -/
theorem openPositionRow_ok {fill : FillComputation} {positionId : String} {db' : Db}
    (h : openPositionRow auth fresh fill db = .ok (positionId, db')) :
    (∃ p ∈ db.positions, p.holds auth.executionProfileId (paperProviderPositionId auth.positionKey) ∧
        positionId = p.id ∧ db' = db) ∨
      (∃ row, NewPosition auth fresh row ∧ positionId = row.id ∧ (∀ p ∈ db.positions, p.id ≠ row.id) ∧
        (∀ p ∈ db.positions,
          p.holds auth.executionProfileId (paperProviderPositionId auth.positionKey) = false) ∧
        newPositionRow auth fresh fill = .ok row ∧
        db' = { db with positions := db.positions ++ [row] }) := by
  unfold openPositionRow at h
  split at h
  · rename_i p hp
    have hholds := List.find?_some hp
    cases h
    exact .inl ⟨p, List.mem_of_find?_eq_some hp, hholds, rfl, rfl⟩
  · rename_i hnone
    simp only [Except.bind_ok_iff, constraint_ok] at h
    obtain ⟨row, hrow, -, hid, h⟩ := h
    cases h
    refine .inr ⟨row, newPositionRow_ok hrow, rfl, hid, fun p hp => ?_, hrow, rfl⟩
    simpa using List.find?_eq_none.mp hnone p hp

/-- A closed row differs from the open one in its exit data only. -/
structure ClosedFrom (position row : PositionRow) (orderId : String) (reason : PaperExitReason)
    (net : Dec) : Prop where
  id_eq : row.id = position.id
  userId_eq : row.userId = position.userId
  executionProfileId_eq : row.executionProfileId = position.executionProfileId
  providerPositionId_eq : row.providerPositionId = position.providerPositionId
  setupId_eq : row.setupId = position.setupId
  status_eq : row.status = .closed
  exitReason_eq : row.exitReason = some reason
  closedByOrderId_eq : row.closedByOrderId = some orderId
  realizedPl_eq : row.realizedPl.map Numeric.toRat = some net.toRat

theorem closedRow_ok {orderId : String} {reason : PaperExitReason} {position row : PositionRow}
    {fill : FillComputation} {net : Dec}
    (h : closedRow auth orderId reason position fill = .ok (net, row)) :
    ClosedFrom position row orderId reason net := by
  unfold closedRow at h
  simp only [Except.bind_ok_iff] at h
  obtain ⟨⟨net', entryFees⟩, -, _, -, _, -, exitPrice, -, realizedPl, hpl, fees, -, slippage, -, h⟩ := h
  cases h
  exact ⟨rfl, rfl, rfl, rfl, rfl, rfl, rfl, rfl, congrArg some (storeDec_toRat hpl)⟩

/-- Closing does nothing to a position that is not open, and replaces the row of one that is. -/
theorem closePositionRow_ok {orderId : String} {reason : PaperExitReason} {fill : FillComputation}
    {result : CloseResult} {db' : Db}
    (h : closePositionRow auth orderId reason fill db = .ok (result, db')) :
    ∃ position, auth.positionId = some result.positionId ∧
      db.position? result.positionId = some position ∧
      ((position.status ≠ .«open» ∧ result.realizedPl = none ∧ db' = db) ∨
        (position.status = .«open» ∧ ∃ net row, result.realizedPl = some net ∧
          closedRow auth orderId reason position fill = .ok (net, row) ∧ db' = db.setPosition row)) := by
  unfold closePositionRow at h
  split at h
  · cases h
  rename_i positionId hid
  split at h
  · cases h
  rename_i position hpos
  split at h
  · rename_i hstatus
    cases h
    exact ⟨position, hid, hpos, .inl ⟨hstatus, rfl, rfl⟩⟩
  · rename_i hstatus
    split at h
    · cases h
    obtain ⟨⟨net, row⟩, hrow, h⟩ := Except.bind_ok_iff.mp h
    cases h
    exact ⟨position, hid, hpos, .inr ⟨not_not.mp hstatus, net, row, rfl, hrow, rfl⟩⟩

theorem recordRealizedPl_ok {dbNow : ℤ} {net : Dec} {db' : Db}
    (h : db.recordRealizedPl env auth dbNow net = .ok db') :
    ∃ row, recordRealizedPlInTransaction (db.accounts auth.userId auth.executionProfileId)
        (env.paperEquity auth.userId) (.fin net.toRat) auth.createdMs dbNow = .ok row ∧
      db' = { db with accounts := fun u p =>
        if u = auth.userId ∧ p = auth.executionProfileId then some row else db.accounts u p } := by
  unfold Db.recordRealizedPl at h
  split at h
  · cases h
  rename_i row hrow
  cases h
  exact ⟨row, hrow, rfl⟩

theorem fillOrder_ok {order : OrderRow} {outcome : SubmitOutcome} {db' : Db}
    (h : fillOrder env auth fresh order db = .ok (outcome, db')) :
    ∃ fill filled step, computeFill env auth = .ok fill ∧ filledOrder order fill = .ok filled ∧
      applyPosition env auth fresh fill { db with orders := db.orders ++ [filled] } = .ok step ∧
      recordFill env auth fresh fill step = .ok db' ∧
      reconcileInTransaction env order.id step.positionId db' = [] := by
  unfold fillOrder at h
  obtain ⟨fill, hfill, h⟩ := Except.bind_ok_iff.mp h
  obtain ⟨filled, hfilled, h⟩ := Except.bind_ok_iff.mp h
  obtain ⟨step, hstep, h⟩ := Except.bind_ok_iff.mp h
  obtain ⟨after, hafter, h⟩ := Except.bind_ok_iff.mp h
  split at h
  · rename_i hrec
    cases h
    exact ⟨fill, filled, step, hfill, hfilled, hstep, hafter, hrec⟩
  · cases h

end Parts

/-! ## Consistency and everything the transaction can do -/

/-- Keys, foreign keys and the shape of the fill ledger. -/
structure Consistent (db : Db) : Prop where
  position_ids : (db.positions.map PositionRow.id).Nodup
  client_ids : (db.orders.map OrderRow.clientOrderId).Nodup
  fill_order : ∀ f ∈ db.fills, ∃ o ∈ db.orders, o.id = f.orderId
  fill_position : ∀ f ∈ db.fills, ∀ id, f.positionId = some id → ∃ p ∈ db.positions, p.id = id
  entry_fill : ∀ p ∈ db.positions, (db.entryFills p.id).length = 1
  open_exit : ∀ p ∈ db.positions, p.status = .«open» → db.exitFills p.id = []
  closed_exit : ∀ p ∈ db.positions, p.status = .closed → (db.exitFills p.id).length = 1

theorem consistent_empty : Consistent Db.empty := by
  constructor <;> simp [Db.empty]

/-- Everything a fill transaction can leave behind. -/
inductive RunCase (env : PaperEnv) (mode : PaperFailureMode) (auth : PaperAuthorization) (fresh : Fresh)
    (db : Db) : Db → Prop where
  | unchanged : RunCase env mode auth fresh db db
  | failed (order : OrderRow) (hmode : mode.orderRejection || mode.fillFailure)
      (inserted : Inserted auth fresh.orderId db order) (status : order.status = .failed) :
      RunCase env mode auth fresh db { db with orders := db.orders ++ [order] }
  | entry (order : OrderRow) (fill : FillComputation) (row : PositionRow) (fillRow : FillRow)
      (kind : auth.kind = .entry) (inserted : Inserted auth fresh.orderId db order)
      (status : order.status = .filled) (computed : computeFill env auth = .ok fill)
      (opened : newPositionRow auth fresh fill = .ok row) (id_fresh : ∀ p ∈ db.positions, p.id ≠ row.id)
      (key_fresh : ∀ p ∈ db.positions,
        p.holds auth.executionProfileId (paperProviderPositionId auth.positionKey) = false)
      (filled : FillFor auth fresh row.id fillRow) :
      RunCase env mode auth fresh db { db with
        orders := db.orders ++ [order]
        positions := db.positions ++ [row]
        fills := db.fills ++ [fillRow] }
  | exit (order : OrderRow) (fill : FillComputation) (reason : PaperExitReason) (position row : PositionRow)
      (net : Dec) (account : AccountRow) (fillRow : FillRow) (kind : auth.kind.exitReason = some reason)
      (inserted : Inserted auth fresh.orderId db order) (status : order.status = .filled)
      (computed : computeFill env auth = .ok fill) (target : auth.positionId = some position.id)
      (found : db.position? position.id = some position) (isOpen : position.status = .«open»)
      (closed : closedRow auth fresh.orderId reason position fill = .ok (net, row))
      (posted : recordRealizedPlInTransaction (db.accounts auth.userId auth.executionProfileId)
        (env.paperEquity auth.userId) (.fin net.toRat) auth.createdMs fresh.dbNow = .ok account)
      (filled : FillFor auth fresh position.id fillRow) :
      RunCase env mode auth fresh db
        { orders := db.orders ++ [order]
          positions := (db.setPosition row).positions
          fills := db.fills ++ [fillRow]
          accounts := fun u p =>
            if u = auth.userId ∧ p = auth.executionProfileId then some account else db.accounts u p }

section Cases

variable {env : PaperEnv} {mode : PaperFailureMode} {auth : PaperAuthorization} {fresh : Fresh} {db : Db}

theorem Inserted.of_filledFrom {order row : OrderRow} (h : Inserted auth fresh.orderId db order)
    (hrow : FilledFrom order row) : Inserted auth fresh.orderId db row where
  id_eq := hrow.id_eq.trans h.id_eq
  userId_eq := hrow.userId_eq.trans h.userId_eq
  executionProfileId_eq := hrow.executionProfileId_eq.trans h.executionProfileId_eq
  clientOrderId_eq := hrow.clientOrderId_eq.trans h.clientOrderId_eq
  setupId_eq := hrow.setupId_eq.trans h.setupId_eq
  decision_eq := hrow.decision_eq.trans h.decision_eq
  id_fresh := h.id_fresh
  clientOrderId_fresh := h.clientOrderId_fresh

theorem Db.position?_eq_some {id : String} {p : PositionRow} (h : db.position? id = some p) :
    p ∈ db.positions ∧ p.id = id :=
  ⟨List.mem_of_find?_eq_some h, by simpa using List.find?_some h⟩

theorem find?_new_order {order : OrderRow} (h : Inserted auth fresh.orderId db order) :
    (db.orders ++ [order]).find? (fun o => decide (o.id = fresh.orderId)) = some order := by
  have hnone : db.orders.find? (fun o => decide (o.id = fresh.orderId)) = none := by
    rw [List.find?_eq_none]
    intro o ho
    simpa using h.id_fresh o ho
  rw [List.find?_append, hnone]
  simp [h.id_eq]

/-- A filled order no fill row explains does not pass reconciliation. -/
theorem reconcile_ne_nil_of_no_fills {order : OrderRow} {positionId : String}
    (hfind : db.orders.find? (fun o => decide (o.id = fresh.orderId)) = some order)
    (hstatus : order.status = .filled) (hfills : ∀ f ∈ db.fills, f.orderId ≠ fresh.orderId) :
    reconcileInTransaction env fresh.orderId positionId db ≠ [] := by
  have hid : order.id = fresh.orderId := by simpa using List.find?_some hfind
  have horder : reconcileOrderState order (db.fills.filter fun f => f.orderId = fresh.orderId) ≠ [] := by
    refine order_finding_of_no_fills hstatus fun f hf => ?_
    rw [hid]
    exact hfills f (List.mem_of_mem_filter hf)
  unfold reconcileInTransaction
  rw [hfind]
  simp only
  split <;> simp [horder]

theorem Consistent.no_fills {order : OrderRow} (hcons : Consistent db)
    (h : Inserted auth fresh.orderId db order) : ∀ f ∈ db.fills, f.orderId ≠ fresh.orderId := by
  intro f hf heq
  obtain ⟨o, ho, hid⟩ := hcons.fill_order f hf
  exact h.id_fresh o ho (hid.trans heq)

theorem fill_recorded {order filled : OrderRow} {db₁ db' : Db} {fill : FillComputation}
    {step : PositionStep} (hcons : Consistent db) (hins : Inserted auth fresh.orderId db order)
    (hfilled : FilledFrom order filled) (hdb₁ : step.db = db₁)
    (horders : db₁.orders = db.orders ++ [filled]) (hfills : db₁.fills = db.fills)
    (hafter : recordFill env auth fresh fill step = .ok db')
    (hrec : reconcileInTransaction env order.id step.positionId db' = []) :
    step.applied = true ∧ ∃ fillRow, FillFor auth fresh step.positionId fillRow ∧
      db' = { db₁ with fills := db.fills ++ [fillRow] } := by
  subst hdb₁
  -- without the row, the new order is filled and unexplained
  have hne : db' ≠ step.db := by
    rintro rfl
    rw [hins.id_eq] at hrec
    refine reconcile_ne_nil_of_no_fills ?_ hfilled.status_eq ?_ hrec
    · rw [horders]
      exact find?_new_order (hins.of_filledFrom hfilled)
    · rw [hfills]
      exact hcons.no_fills hins
  unfold recordFill at hafter
  split at hafter
  · rename_i happlied
    rcases insertFill_ok hafter with heq | ⟨fillRow, hrow, heq⟩
    · exact absurd heq hne
    · rw [hfills] at heq
      exact ⟨happlied, fillRow, hrow, heq⟩
  · exact absurd (Except.ok.inj hafter).symm hne

theorem fillOrder_exit_case {order : OrderRow} {outcome : SubmitOutcome} {db' : Db}
    {reason : PaperExitReason} (hcons : Consistent db) (hins : Inserted auth fresh.orderId db order)
    (hkind : auth.kind.exitReason = some reason)
    (h : fillOrder env auth fresh order db = .ok (outcome, db')) : RunCase env mode auth fresh db db' := by
  obtain ⟨fill, filled, step, hfill, hfilled, hstep, hafter, hrec⟩ := fillOrder_ok h
  have hfrom := filledOrder_ok hfilled
  unfold applyPosition at hstep
  rw [hkind] at hstep
  obtain ⟨⟨closed, db₁⟩, hclose, hstep⟩ := Except.bind_ok_iff.mp hstep
  obtain ⟨position, htarget, hfound, hcase⟩ := closePositionRow_ok hclose
  have hid : position.id = closed.positionId := (Db.position?_eq_some hfound).2
  rw [← hid] at htarget hfound
  rcases hcase with ⟨-, hnone, rfl⟩ | ⟨hopen, net, row, hsome, hrow, rfl⟩
  · -- the position was closed already: nothing is applied, so nothing explains the order
    simp only [hnone] at hstep
    cases hstep
    have happlied := (fill_recorded hcons hins hfrom rfl rfl rfl hafter hrec).1
    cases happlied
  · simp only [hsome] at hstep
    obtain ⟨db₂, hpost, hstep⟩ := Except.bind_ok_iff.mp hstep
    cases hstep
    obtain ⟨account, haccount, rfl⟩ := recordRealizedPl_ok hpost
    obtain ⟨-, fillRow, hfillRow, rfl⟩ := fill_recorded hcons hins hfrom rfl rfl rfl hafter hrec
    rw [← hid] at hfillRow
    exact .exit filled fill reason position row net account fillRow hkind (hins.of_filledFrom hfrom)
      hfrom.status_eq hfill htarget hfound hopen hrow haccount hfillRow

theorem Consistent.position?_of_mem (hcons : Consistent db) {p : PositionRow} (hp : p ∈ db.positions) :
    db.position? p.id = some p := by
  cases hfind : db.position? p.id with
  | none => exact absurd (decide_eq_true rfl) (List.find?_eq_none.mp hfind p hp)
  | some q =>
    obtain ⟨hq, hid⟩ := Db.position?_eq_some hfind
    rw [List.inj_on_of_nodup_map hcons.position_ids hq hp hid]

/-- A committed transaction left its position with exactly one entry fill. -/
theorem entryFills_of_reconciled {orderId : String} {position : PositionRow} {f : FillRow}
    (hrec : reconcileInTransaction env orderId position.id db = [])
    (hpos : db.position? position.id = some position) (hf : f ∈ db.fills)
    (hfpos : f.positionId = some position.id) :
    (db.entryFills position.id).length = 1 := by
  unfold reconcileInTransaction at hrec
  split at hrec
  · cases hrec
  rw [hpos] at hrec
  simp only [dedupe_eq_nil, List.append_eq_nil_iff] at hrec
  have hmem : f ∈ db.fills.filter fun g => g.positionId = some position.id := by
    simp [hf, hfpos]
  have hone := entry_fill_of_reconciled hmem hfpos hrec.2
  rw [List.filter_filter] at hone
  rw [← hone, Db.entryFills]
  congr 1
  refine List.filter_congr fun g _ => ?_
  by_cases hg : g.positionId = some position.id <;> simp [hg]

theorem fillOrder_entry_case {order : OrderRow} {outcome : SubmitOutcome} {db' : Db}
    (hcons : Consistent db) (hins : Inserted auth fresh.orderId db order) (hkind : auth.kind = .entry)
    (h : fillOrder env auth fresh order db = .ok (outcome, db')) : RunCase env mode auth fresh db db' := by
  obtain ⟨fill, filled, step, hfill, hfilled, hstep, hafter, hrec⟩ := fillOrder_ok h
  have hfrom := filledOrder_ok hfilled
  have hreason : auth.kind.exitReason = none := by rw [hkind]; rfl
  unfold applyPosition at hstep
  rw [hreason] at hstep
  obtain ⟨⟨positionId, db₁⟩, hopenRow, hstep⟩ := Except.bind_ok_iff.mp hstep
  cases hstep
  rcases openPositionRow_ok hopenRow with ⟨p, hp, -, rfl, rfl⟩ | ⟨row, -, rfl, hid, hkey, hrow, rfl⟩
  · -- the identity's position exists and already has its entry fill: a second one is a finding
    obtain ⟨-, fillRow, hfillRow, rfl⟩ := fill_recorded hcons hins hfrom rfl rfl rfl hafter hrec
    have hone := hcons.entry_fill p hp
    have hpos : db.position? p.id = some p := hcons.position?_of_mem hp
    have htwo := entryFills_of_reconciled (f := fillRow) hrec hpos (by simp) hfillRow.positionId_eq
    rw [Db.entryFills] at hone
    rw [Db.entryFills, List.filter_append, List.length_append, hone, Nat.add_eq_left,
      List.length_eq_zero_iff] at htwo
    simp [hfillRow.positionId_eq, hfillRow.fillType_eq, hkind] at htwo
  · obtain ⟨-, fillRow, hfillRow, rfl⟩ := fill_recorded hcons hins hfrom rfl rfl rfl hafter hrec
    exact .entry filled fill row fillRow hkind (hins.of_filledFrom hfrom) hfrom.status_eq hfill hrow hid
      hkey hfillRow

/-- **Everything the transaction can do**, on a consistent database. -/
theorem runFillTransaction_cases (hcons : Consistent db) :
    RunCase env mode auth fresh db (runFillTransaction env mode auth fresh db).2 := by
  unfold runFillTransaction
  split
  · exact .unchanged
  split
  · exact .unchanged
  rename_i order hinsert
  have hins := insertOrder_ok hinsert
  split
  · rename_i hmode
    refine .failed _ hmode ⟨hins.id_eq, hins.userId_eq, hins.executionProfileId_eq,
      hins.clientOrderId_eq, hins.setupId_eq, hins.decision_eq, hins.id_fresh,
      hins.clientOrderId_fresh⟩ rfl
  · split
    · exact .unchanged
    · rename_i outcome after hfill
      cases hkind : auth.kind.exitReason with
      | none => exact fillOrder_entry_case hcons hins (PaperFillType.exitReason_eq_none.mp hkind) hfill
      | some reason => exact fillOrder_exit_case hcons hins hkind hfill

/-! ## Consistency is kept -/

theorem Db.exitFills_append {db' : Db} {f : FillRow} (h : db'.fills = db.fills ++ [f]) (id : String) :
    db'.exitFills id =
      db.exitFills id ++ if f.positionId = some id ∧ f.fillType ≠ .entry then [f] else [] := by
  simp [exitFills, h, List.filter_append, List.filter_cons]

theorem Db.entryFills_append {db' : Db} {f : FillRow} (h : db'.fills = db.fills ++ [f]) (id : String) :
    db'.entryFills id =
      db.entryFills id ++ if f.positionId = some id ∧ f.fillType = .entry then [f] else [] := by
  simp [entryFills, h, List.filter_append, List.filter_cons]

theorem Db.mem_setPosition {row p : PositionRow} (h : p ∈ (db.setPosition row).positions) :
    p = row ∨ (p ∈ db.positions ∧ p.id ≠ row.id) := by
  obtain ⟨q, hq, rfl⟩ := List.mem_map.mp h
  split
  · exact .inl rfl
  · rename_i hne
    exact .inr ⟨hq, hne⟩

theorem Db.setPosition_ids (row : PositionRow) :
    (db.setPosition row).positions.map PositionRow.id = db.positions.map PositionRow.id := by
  rw [setPosition, List.map_map]
  refine List.map_congr_left fun p _ => ?_
  simp only [Function.comp_apply]
  split
  · rename_i h
    exact h.symm
  · rfl

theorem Consistent.no_fills_of_position (hcons : Consistent db) {id : String}
    (hid : ∀ p ∈ db.positions, p.id ≠ id) : ∀ f ∈ db.fills, f.positionId ≠ some id := by
  intro f hf heq
  obtain ⟨p, hp, hpid⟩ := hcons.fill_position f hf id heq
  exact hid p hp hpid

theorem Consistent.nodup_new_order (hcons : Consistent db) {order : OrderRow}
    (hins : Inserted auth fresh.orderId db order) :
    ((db.orders ++ [order]).map OrderRow.clientOrderId).Nodup := by
  rw [List.map_append, List.nodup_append]
  refine ⟨hcons.client_ids, by simp, ?_⟩
  simpa [hins.clientOrderId_eq] using hins.clientOrderId_fresh

theorem Consistent.of_failed (hcons : Consistent db) {order : OrderRow}
    (hins : Inserted auth fresh.orderId db order) :
    Consistent { db with orders := db.orders ++ [order] } where
  position_ids := hcons.position_ids
  client_ids := hcons.nodup_new_order hins
  fill_order f hf := by
    obtain ⟨o, ho, hid⟩ := hcons.fill_order f hf
    exact ⟨o, List.mem_append_left _ ho, hid⟩
  fill_position := hcons.fill_position
  entry_fill := hcons.entry_fill
  open_exit := hcons.open_exit
  closed_exit := hcons.closed_exit

theorem Consistent.fill_order_append (hcons : Consistent db) {order : OrderRow} {fillRow : FillRow}
    {positionId : String} (hins : Inserted auth fresh.orderId db order)
    (hfill : FillFor auth fresh positionId fillRow) :
    ∀ f ∈ db.fills ++ [fillRow], ∃ o ∈ db.orders ++ [order], o.id = f.orderId := by
  intro f hf
  rcases List.mem_append.mp hf with hf | hf
  · obtain ⟨o, ho, hid⟩ := hcons.fill_order f hf
    exact ⟨o, List.mem_append_left _ ho, hid⟩
  · rw [List.mem_singleton.mp hf, hfill.orderId_eq]
    exact ⟨order, by simp, hins.id_eq⟩

theorem Consistent.of_entry (hcons : Consistent db) {order : OrderRow} {fill : FillComputation}
    {row : PositionRow} {fillRow : FillRow} (hkind : auth.kind = .entry)
    (hins : Inserted auth fresh.orderId db order) (hrow : newPositionRow auth fresh fill = .ok row)
    (hid : ∀ p ∈ db.positions, p.id ≠ row.id) (hfill : FillFor auth fresh row.id fillRow) :
    Consistent { db with
      orders := db.orders ++ [order]
      positions := db.positions ++ [row]
      fills := db.fills ++ [fillRow] } := by
  have hopen := (newPositionRow_ok hrow).status_eq
  have hexit : ∀ id, Db.exitFills { db with
      orders := db.orders ++ [order]
      positions := db.positions ++ [row]
      fills := db.fills ++ [fillRow] } id = db.exitFills id := by
    intro id
    rw [Db.exitFills_append rfl]
    simp [hfill.fillType_eq, hkind]
  have hunknown := hcons.no_fills_of_position hid
  refine ⟨?_, hcons.nodup_new_order hins, hcons.fill_order_append hins hfill, ?_, ?_, ?_, ?_⟩
  · rw [List.map_append, List.nodup_append]
    refine ⟨hcons.position_ids, by simp, ?_⟩
    simpa using hid
  · intro f hf id hpos
    rcases List.mem_append.mp hf with hf | hf
    · obtain ⟨p, hp, hpid⟩ := hcons.fill_position f hf id hpos
      exact ⟨p, List.mem_append_left _ hp, hpid⟩
    · rw [List.mem_singleton.mp hf, hfill.positionId_eq] at hpos
      exact ⟨row, by simp, Option.some.inj hpos⟩
  · intro p hp
    rw [Db.entryFills_append rfl]
    rcases List.mem_append.mp hp with hp | hp
    · have hne : row.id ≠ p.id := fun h => hid p hp h.symm
      simpa [hfill.positionId_eq, hne] using hcons.entry_fill p hp
    · have hnone : db.entryFills row.id = [] := by
        rw [Db.entryFills, List.filter_eq_nil_iff]
        intro f hf
        simp [hunknown f hf]
      rw [List.mem_singleton.mp hp, hnone]
      simp [hfill.positionId_eq, hfill.fillType_eq, hkind]
  · intro p hp hstatus
    rw [hexit]
    rcases List.mem_append.mp hp with hp | hp
    · exact hcons.open_exit p hp hstatus
    · rw [List.mem_singleton.mp hp, Db.exitFills, List.filter_eq_nil_iff]
      intro f hf
      simp [hunknown f hf]
  · intro p hp hstatus
    rw [hexit]
    rcases List.mem_append.mp hp with hp | hp
    · exact hcons.closed_exit p hp hstatus
    · rw [List.mem_singleton.mp hp, hopen] at hstatus
      cases hstatus

theorem Consistent.of_exit (hcons : Consistent db) {order : OrderRow} {fill : FillComputation}
    {reason : PaperExitReason} {position row : PositionRow} {net : Dec} {fillRow : FillRow}
    {accounts : String → String → Option AccountRow} (hkind : auth.kind.exitReason = some reason)
    (hins : Inserted auth fresh.orderId db order) (hfound : db.position? position.id = some position)
    (hopen : position.status = .«open»)
    (hclosed : closedRow auth fresh.orderId reason position fill = .ok (net, row))
    (hfill : FillFor auth fresh position.id fillRow) :
    Consistent ⟨db.orders ++ [order], db.fills ++ [fillRow], (db.setPosition row).positions, accounts⟩ := by
  have hmem := (Db.position?_eq_some hfound).1
  have hfrom := closedRow_ok hclosed
  have htype : fillRow.fillType ≠ .entry := by
    rw [hfill.fillType_eq]
    intro h
    rw [h] at hkind
    cases hkind
  have hentry : ∀ id, Db.entryFills
      ⟨db.orders ++ [order], db.fills ++ [fillRow], (db.setPosition row).positions, accounts⟩ id =
        db.entryFills id := by
    intro id
    rw [Db.entryFills_append rfl]
    simp [htype]
  have hexit : ∀ id, Db.exitFills
      ⟨db.orders ++ [order], db.fills ++ [fillRow], (db.setPosition row).positions, accounts⟩ id =
        db.exitFills id ++ if position.id = id then [fillRow] else [] := by
    intro id
    rw [Db.exitFills_append rfl]
    simp [htype, hfill.positionId_eq]
  refine ⟨?_, hcons.nodup_new_order hins, hcons.fill_order_append hins hfill, ?_, ?_, ?_, ?_⟩
  · rw [Db.setPosition_ids]
    exact hcons.position_ids
  · intro f hf id hpos
    have hids : ∀ q ∈ db.positions, ∃ p ∈ (db.setPosition row).positions, p.id = q.id := by
      intro q hq
      have : q.id ∈ (db.setPosition row).positions.map PositionRow.id := by
        rw [Db.setPosition_ids]
        exact List.mem_map_of_mem hq
      exact List.mem_map.mp this
    rcases List.mem_append.mp hf with hf | hf
    · obtain ⟨q, hq, rfl⟩ := hcons.fill_position f hf id hpos
      exact hids q hq
    · rw [List.mem_singleton.mp hf, hfill.positionId_eq] at hpos
      rw [← Option.some.inj hpos]
      exact hids position hmem
  · intro p hp
    rw [hentry]
    rcases Db.mem_setPosition hp with rfl | ⟨hp, -⟩
    · rw [hfrom.id_eq]
      exact hcons.entry_fill position hmem
    · exact hcons.entry_fill p hp
  · intro p hp hstatus
    rcases Db.mem_setPosition hp with rfl | ⟨hp, hne⟩
    · rw [hfrom.status_eq] at hstatus
      cases hstatus
    · rw [hfrom.id_eq] at hne
      rw [hexit, if_neg (Ne.symm hne), List.append_nil]
      exact hcons.open_exit p hp hstatus
  · intro p hp hstatus
    rcases Db.mem_setPosition hp with rfl | ⟨hp, hne⟩
    · rw [hexit, hfrom.id_eq, if_pos rfl, hcons.open_exit position hmem hopen]
      rfl
    · rw [hfrom.id_eq] at hne
      rw [hexit, if_neg (Ne.symm hne), List.append_nil]
      exact hcons.closed_exit p hp hstatus

theorem RunCase.consistent {db' : Db} (h : RunCase env mode auth fresh db db') (hcons : Consistent db) :
    Consistent db' := by
  cases h with
  | unchanged => exact hcons
  | failed order _ hins _ => exact hcons.of_failed hins
  | entry order fill row fillRow hkind hins _ _ hrow hid _ hfill =>
    exact hcons.of_entry hkind hins hrow hid hfill
  | exit order fill reason position row net account fillRow hkind hins _ _ _ hfound hopen hclosed _ hfill =>
    exact hcons.of_exit hkind hins hfound hopen hclosed hfill

/-- **Every transaction keeps the tables consistent.** -/
theorem runFillTransaction_consistent (hcons : Consistent db) :
    Consistent (runFillTransaction env mode auth fresh db).2 :=
  (runFillTransaction_cases hcons).consistent hcons

end Cases

/-! ## A sample service -/

/-- SHA-256 digests, in hex, of the identities the sample runs hash. -/
def sampleDigests : List (String × String) :=
  [("exec:user:setup:profile:open_long",
    "bcdf9341c7a7826d2c7c52e57ba08b47145b6b72f7204a8f5d6ec36765605d11"),
  ("paper:order:entry:bcdf9341c7a7826d2c7c52e57ba08b47145b6b72f7204a8f5d6ec36765605d11:1",
    "6d7a7a683e99b59e9717ae594bf4a3470bc58c58fcde97c3e859359a02e39102"),
  ("paper:fill:6d7a7a683e99b59e9717ae594bf4a3470bc58c58fcde97c3e859359a02e39102",
    "9d3c6d33363d8d5ac2aa6fb0ec82754f2b2886fc3f7d1d8ab45c47ec856724bc"),
  ("exec:user:setup:profile:close_position",
    "6e20862c2266f60b2b10bc21f450a7b519a21e96cd8509690609b0f4a9d850fd"),
  ("paper:order:stop_loss:6e20862c2266f60b2b10bc21f450a7b519a21e96cd8509690609b0f4a9d850fd:1",
    "bd9182e5418a5e6e01be384ade4403ab3b0b7d255057458324afdb702f503982"),
  ("paper:fill:bd9182e5418a5e6e01be384ade4403ab3b0b7d255057458324afdb702f503982",
    "9c374031aa217210466dab8d158719dc299a19c5bb7f3b7c7b1563d76525b86d"),
  ("paper:order:close:6e20862c2266f60b2b10bc21f450a7b519a21e96cd8509690609b0f4a9d850fd:1",
    "395c2cf6e0943ad50579c0104f794dd4109a8615cef27d127fb2c5d3cd646fb0"),
  ("paper:fill:395c2cf6e0943ad50579c0104f794dd4109a8615cef27d127fb2c5d3cd646fb0",
    "a070eaaf0ea32cd50f5e1d01795cdb92c84bbfde34ddfdf18b63cb5fee1af435"),
  ("paper:order:entry:bcdf9341c7a7826d2c7c52e57ba08b47145b6b72f7204a8f5d6ec36765605d11:2",
    "1053fbab8c036bbd8380a571d64b25cfd5b761b28b773960e6b7b89e3051a274"),
  ("paper:fill:1053fbab8c036bbd8380a571d64b25cfd5b761b28b773960e6b7b89e3051a274",
    "064304909b65d0281444094fccc907dcb51b7ca1f8a2cdae16cf58a22c5d9d49"),
  ("exec:user:other:profile:open_long",
    "f09e738fb383d80bd640983df2e1995c321685757a6002e635acc34ab1c51641"),
  ("paper:order:entry:f09e738fb383d80bd640983df2e1995c321685757a6002e635acc34ab1c51641:1",
    "ea1c816213eb8b7b3d7e3d60929d3160a23a34303df6271af1dfce62adb69fcf"),
  ("paper:fill:ea1c816213eb8b7b3d7e3d60929d3160a23a34303df6271af1dfce62adb69fcf",
    "2c4075667c047c6a0d1a132228e9172e5b623918fe6a69ac29cb0f89662ae489")]

/-- SHA-256 on the sample identities. -/
def sampleSha256 (text : String) : String := (sampleDigests.lookup text).getD text

open Numerals in
/-- A standard lot of 100,000 quoted in the account currency. -/
def sampleSpec : InstrumentRiskSpec :=
  ⟨100000, .fin (1 / 10000), .quote_linear, .fin (1 / 100), .fin (1 / 100), 100⟩

/-- The frictionless simulator, one instrument, no stored policy. -/
def sampleEnv : PaperEnv where
  costs := PAPER_COST_MODEL_NONE
  sha256 := sampleSha256
  instrumentSpec := fun _ _ => some sampleSpec
  paperEquity := fun _ => none

/-- A long at 1.1 with its stop at 1.05 and its target at 1.3. -/
def sampleDecision : ExecutionDecision where
  strategyId := "strategy"
  setupId := "setup"
  action := .open_long
  assetClass := "forex"
  symbol := "EURUSD"
  timeframe := .m1
  direction := .long
  entryPrice := 11 / 10
  stopLossPrice := 105 / 100
  takeProfitPrice := 13 / 10
  qualityScore := 80
  minQualityScore := 65
  asOfMs := 30000

/-- The entry of a tenth of a lot, filled at 1.1. -/
def sampleEntry : PaperAuthorization where
  userId := "user"
  executionProfileId := "profile"
  setupId := "setup"
  assetClass := "forex"
  symbol := "EURUSD"
  side := .buy
  kind := .entry
  quantity := .fin (1 / 10)
  clientOrderId := paperClientOrderId (sampleEnv.identityHash "user" "setup" "profile" .open_long) .entry
  idempotencyKey :=
    sampleEnv.orderIdempotencyKey (sampleEnv.identityHash "user" "setup" "profile" .open_long) .entry 1
  decision := sampleDecision
  positionId := none
  positionKey := sampleEnv.identityHash "user" "setup" "profile" .open_long
  referencePrice := .fin (11 / 10)
  referencePriceMs := 60000
  spec := sampleSpec
  createdMs := 60000

/-- The tables after the sample entry. -/
def sampleDb : Db :=
  (runFillTransaction sampleEnv .off sampleEntry ⟨"order-1", "fill-1", "position-1", 60000⟩ Db.empty).2

theorem sampleDb_consistent : Consistent sampleDb := runFillTransaction_consistent consistent_empty

/-- The position the sample entry opens. -/
def samplePosition : PositionRow where
  id := "position-1"
  userId := "user"
  executionProfileId := "profile"
  providerPositionId := some (paperProviderPositionId sampleEntry.positionKey)
  assetClass := "forex"
  symbol := "EURUSD"
  direction := .long
  quantity := ⟨10 ^ 9, by decide⟩
  averageEntryPrice := ⟨11 * 10 ^ 9, price_11_fits⟩
  stopLossPrice := some ⟨105 * 10 ^ 8, price_105_fits⟩
  takeProfitPrice := some ⟨13 * 10 ^ 9, by decide⟩
  realizedPl := none
  status := .«open»
  openedAt := 60000
  closedAt := none
  setupId := some "setup"
  openedByOrderId := some "order-1"
  closedByOrderId := none
  exitPrice := none
  exitReason := none
  fees := 0
  slippage := 0
  simulated := true

theorem sampleDb_positions : sampleDb.positions = [samplePosition] := by decide +kernel

end VeltrixEye
