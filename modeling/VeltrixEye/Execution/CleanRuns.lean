import VeltrixEye.Execution.PaperSnapshot
import VeltrixEye.Execution.RunHealth

/-!
# Reconciling a paper account while it trades (`ReconciliationService.triggerRun`)

A run of a paper profile reads its tables four times: the snapshot's orders, the snapshot's open
positions, the orders and the positions it is compared with.  Each read is a statement of its own and
sees what is committed by then; fills, failures and closes, of this profile and of others, commit in
between.
-/

namespace VeltrixEye.Reconciliation

open Runs

/-! ## The reads of a run -/

/-- The account a run is for. -/
structure PaperAccount where
  userId : String
  executionProfileId : String

namespace PaperAccount

def ownsOrder (account : PaperAccount) (o : OrderRow) : Bool :=
  o.executionProfileId = account.executionProfileId && o.userId = account.userId

def ownsPosition (account : PaperAccount) (p : PositionRow) : Bool :=
  p.executionProfileId = account.executionProfileId && p.userId = account.userId

/-- `… AND status NOT IN ('failed')`. -/
def shownOrders (account : PaperAccount) (db : Db) : List OrderRow :=
  db.orders.filter fun o => account.ownsOrder o && o.status ≠ .failed

/-- `… AND status = 'open'`. -/
def openPositions (account : PaperAccount) (db : Db) : List PositionRow :=
  db.positions.filter fun p => account.ownsPosition p && p.status = .«open»

end PaperAccount

/-- `ORDER BY opened_at ASC`; rows of the same time come in any order. -/
def OpenedInOrder (rows : List PositionRow) : Prop := rows.Pairwise fun p q => p.openedAt ≤ q.openedAt

instance (rows : List PositionRow) : Decidable (OpenedInOrder rows) := inferInstanceAs (Decidable (List.Pairwise _ rows))

/-- What a run has read so far. -/
inductive RunPhase where
  | started
  | seenOrders (seen : List OrderRow)
  | captured (seen : List OrderRow) (seenPositions : List PositionRow)
  | loaded (seen : List OrderRow) (seenPositions : List PositionRow) (orders : List OrderRow)
  | finished (inputs : RunInputs)

structure ReconcileState where
  db : Db
  phase : RunPhase

/-- A fill transaction, or a read with the rows it returns, in the order it returns them. -/
inductive ReconcileAct where
  | trade (auth : PaperAuthorization) (mode : PaperFailureMode) (fresh : Fresh)
  | readOrders (rows : List OrderRow)
  | readPositions (rows : List PositionRow)
  | loadOrders (rows : List OrderRow)
  | loadPositions (rows : List PositionRow)

def ReconcileState.start : ReconcileState := ⟨Db.empty, .started⟩

/-- What the run compares, besides the ids and the clock of its rows. -/
def paperInputs (base : RunInputs) (seen : List OrderRow) (seenPositions : List PositionRow)
    (orders : List OrderRow) (positions : List PositionRow) : RunInputs :=
  { base with
    snapshot := .returned (paperSnapshot (seen.map loadedOrder) (seenPositions.map loadedPosition)) none
    internalOrders := orders.map loadedOrder
    internalPositions := positions.map loadedPosition }

section Steps

variable (env : PaperEnv) (base : RunInputs) (account : PaperAccount)

/-- One step; a read that is not due, or does not return the rows of the tables, does nothing.  An
    order id is never the empty text. -/
def reconcileStep (s : ReconcileState) : ReconcileAct → ReconcileState
  | .trade auth mode fresh =>
    if fresh.orderId = "" then s else { s with db := (runFillTransaction env mode auth fresh s.db).2 }
  | .readOrders rows =>
    match s.phase with
    | .started => if rows.Perm (account.shownOrders s.db) then { s with phase := .seenOrders rows } else s
    | _ => s
  | .readPositions rows =>
    match s.phase with
    | .seenOrders seen =>
      if rows.Perm (account.openPositions s.db) ∧ OpenedInOrder rows then { s with phase := .captured seen rows } else s
    | _ => s
  | .loadOrders rows =>
    match s.phase with
    | .captured seen seenPositions =>
      if rows.Perm (s.db.orders.filter account.ownsOrder) then { s with phase := .loaded seen seenPositions rows }
      else s
    | _ => s
  | .loadPositions rows =>
    match s.phase with
    | .loaded seen seenPositions orders =>
      if rows.Perm (s.db.positions.filter account.ownsPosition) ∧ OpenedInOrder rows then
        { s with phase := .finished (paperInputs base seen seenPositions orders rows) }
      else s
    | _ => s

end Steps

/-- The run records no finding and health `synchronized`. -/
def Clean (inputs : RunInputs) : Prop :=
  ∀ profile opts, findingRows profile opts inputs = [] ∧ (runRow profile opts inputs).healthState = .synchronized

/-- **The reads agree**: the orders that are filled at the second read of orders were filled at the
    first, and the positions open at the second read of positions are those of the first. -/
def Untorn (account : PaperAccount) (s : ReconcileState) : ReconcileAct → Prop
  | .loadPositions rows =>
    match s.phase with
    | .loaded seen seenPositions orders =>
      rows.Perm (s.db.positions.filter account.ownsPosition) ∧ OpenedInOrder rows →
        (∀ o ∈ orders, o.status = .filled → o ∈ seen) ∧ (∀ p ∈ seenPositions, p ∈ account.openPositions s.db) ∧
          ∀ p ∈ account.openPositions s.db, p ∈ seenPositions
    | _ => True
  | _ => True

instance decidableUntorn (account : PaperAccount) :
    ∀ (s : ReconcileState) (a : ReconcileAct), Decidable (Untorn account s a)
  | ⟨db, .loaded seen seenPositions orders⟩, .loadPositions rows =>
    inferInstanceAs (Decidable (rows.Perm (db.positions.filter account.ownsPosition) ∧ OpenedInOrder rows →
      (∀ o ∈ orders, o.status = .filled → o ∈ seen) ∧ (∀ p ∈ seenPositions, p ∈ account.openPositions db) ∧
        ∀ p ∈ account.openPositions db, p ∈ seenPositions))
  | ⟨_, .started⟩, .loadPositions _ => inferInstanceAs (Decidable True)
  | ⟨_, .seenOrders _⟩, .loadPositions _ => inferInstanceAs (Decidable True)
  | ⟨_, .captured _ _⟩, .loadPositions _ => inferInstanceAs (Decidable True)
  | ⟨_, .finished _⟩, .loadPositions _ => inferInstanceAs (Decidable True)
  | _, .trade .. => inferInstanceAs (Decidable True)
  | _, .readOrders _ => inferInstanceAs (Decidable True)
  | _, .readPositions _ => inferInstanceAs (Decidable True)
  | _, .loadOrders _ => inferInstanceAs (Decidable True)

/-- A position opened since the snapshot was read carries a later time than those of the snapshot. -/
def Punctual (account : PaperAccount) (s : ReconcileState) : ReconcileAct → Prop
  | .loadPositions _ =>
    match s.phase with
    | .loaded _ seenPositions _ => ∀ p ∈ account.openPositions s.db, p ∉ seenPositions →
        ∀ q ∈ seenPositions, q.openedAt < p.openedAt
    | _ => True
  | _ => True

/-! ## The invariant of a run -/

/-- The snapshot's orders are filled rows of the account. -/
structure SeenOrders (account : PaperAccount) (db : Db) (seen : List OrderRow) : Prop where
  ids : (seen.map OrderRow.id).Nodup
  mem : ∀ o ∈ seen, o ∈ db.orders
  owned : ∀ o ∈ seen, account.ownsOrder o = true
  filled : ∀ o ∈ seen, o.status = .filled

/-- The snapshot's positions were open rows of the account. -/
structure SeenPositions (account : PaperAccount) (db : Db) (seen : List PositionRow) : Prop where
  ids : (seen.map PositionRow.id).Nodup
  owned : ∀ p ∈ seen, account.ownsPosition p = true
  opened : ∀ p ∈ seen, p.status = .«open»
  successor : ∀ p ∈ seen, ∃ q ∈ db.positions, Successor p q

/-- The loaded orders are rows of the account, the snapshot's among them. -/
structure LoadedOrders (db : Db) (seen orders : List OrderRow) : Prop where
  ids : (orders.map OrderRow.id).Nodup
  mem : ∀ o ∈ orders, o ∈ db.orders
  seen_mem : ∀ o ∈ seen, o ∈ orders

def PhaseInv (account : PaperAccount) (db : Db) : RunPhase → Prop
  | .started => True
  | .seenOrders seen => SeenOrders account db seen
  | .captured seen seenPositions => SeenOrders account db seen ∧ SeenPositions account db seenPositions
  | .loaded seen seenPositions orders =>
    SeenOrders account db seen ∧ SeenPositions account db seenPositions ∧ LoadedOrders db seen orders
  | .finished _ => True

structure ReconcileInv (account : PaperAccount) (s : ReconcileState) : Prop where
  rows : TableRows s.db
  id_ne : ∀ o ∈ s.db.orders, o.id ≠ ""
  phase : PhaseInv account s.db s.phase

section Invariant

variable {env : PaperEnv} {base : RunInputs} {account : PaperAccount} {s : ReconcileState} {db db' : Db}
  {seen orders : List OrderRow} {seenPositions rows : List PositionRow}

theorem reconcileInv_start (account : PaperAccount) : ReconcileInv account .start where
  rows := tableRows_empty
  id_ne := by simp [ReconcileState.start, Db.empty]
  phase := trivial

theorem SeenOrders.later (h : SeenOrders account db seen) (hlater : Later db db') : SeenOrders account db' seen :=
  ⟨h.ids, fun o ho => hlater.orders o (h.mem o ho), h.owned, h.filled⟩

theorem SeenPositions.later (h : SeenPositions account db seenPositions) (hlater : Later db db') :
    SeenPositions account db' seenPositions where
  ids := h.ids
  owned := h.owned
  opened := h.opened
  successor p hp := by
    obtain ⟨q, hq, hsucc⟩ := h.successor p hp
    obtain ⟨r, hr, hsucc'⟩ := hlater.positions q hq
    exact ⟨r, hr, hsucc.trans hsucc'⟩

theorem LoadedOrders.later (h : LoadedOrders db seen orders) (hlater : Later db db') : LoadedOrders db' seen orders :=
  ⟨h.ids, fun o ho => hlater.orders o (h.mem o ho), h.seen_mem⟩

theorem PhaseInv.later {ph : RunPhase} (h : PhaseInv account db ph) (hlater : Later db db') :
    PhaseInv account db' ph := by
  cases ph with
  | started => trivial
  | seenOrders seen => exact SeenOrders.later h hlater
  | captured seen seenPositions => exact ⟨h.1.later hlater, h.2.later hlater⟩
  | loaded seen seenPositions orders => exact ⟨h.1.later hlater, h.2.1.later hlater, h.2.2.later hlater⟩
  | finished inputs => trivial

theorem seenOrders_of_read (h : TableRows db) {rows : List OrderRow} (hrows : rows.Perm (account.shownOrders db)) :
    SeenOrders account db rows := by
  have hmem : ∀ o ∈ rows, o ∈ db.orders ∧ account.ownsOrder o = true ∧ o.status ≠ .failed := by
    intro o ho
    simpa [PaperAccount.shownOrders] using hrows.mem_iff.mp ho
  refine ⟨?_, fun o ho => (hmem o ho).1, fun o ho => (hmem o ho).2.1, fun o ho => ?_⟩
  · rw [(hrows.map OrderRow.id).nodup_iff]
    exact (List.filter_sublist.map _).nodup h.order_ids
  · exact (h.settled o (hmem o ho).1).resolve_left (hmem o ho).2.2

theorem seenPositions_of_read (h : TableRows db) (hrows : rows.Perm (account.openPositions db)) :
    SeenPositions account db rows := by
  have hmem : ∀ p ∈ rows, p ∈ db.positions ∧ account.ownsPosition p = true ∧ p.status = .«open» := by
    intro p hp
    simpa [PaperAccount.openPositions] using hrows.mem_iff.mp hp
  refine ⟨?_, fun p hp => (hmem p hp).2.1, fun p hp => (hmem p hp).2.2, fun p hp => ⟨p, (hmem p hp).1, .refl p⟩⟩
  rw [(hrows.map PositionRow.id).nodup_iff]
  exact (List.filter_sublist.map _).nodup h.consistent.position_ids

theorem loadedOrders_of_read (h : TableRows db) (hseen : SeenOrders account db seen)
    (horders : orders.Perm (db.orders.filter account.ownsOrder)) : LoadedOrders db seen orders where
  ids := by
    rw [(horders.map OrderRow.id).nodup_iff]
    exact (List.filter_sublist.map _).nodup h.order_ids
  mem o ho := List.mem_of_mem_filter (horders.mem_iff.mp ho)
  seen_mem o ho := horders.mem_iff.mpr (List.mem_filter.mpr ⟨hseen.mem o ho, hseen.owned o ho⟩)

/-- **One step** keeps the invariant. -/
theorem reconcileStep_inv (h : ReconcileInv account s) (a : ReconcileAct) :
    ReconcileInv account (reconcileStep env base account s a) := by
  cases a with
  | trade auth mode fresh =>
    simp only [reconcileStep]
    split
    · exact h
    rename_i hid
    refine ⟨runFillTransaction_rows h.rows, ?_, h.phase.later (runFillTransaction_later h.rows.consistent)⟩
    intro o ho
    rcases runFillTransaction_orders env mode auth fresh s.db with horders | ⟨new, hnew, horders⟩
    · exact h.id_ne o (horders ▸ ho)
    · rw [horders] at ho
      rcases List.mem_append.mp ho with ho | ho
      · exact h.id_ne o ho
      · rw [List.mem_singleton.mp ho, hnew.id_eq]
        exact hid
  | readOrders rows =>
    simp only [reconcileStep]
    split
    · split
      · rename_i hrows
        exact ⟨h.rows, h.id_ne, seenOrders_of_read h.rows hrows⟩
      · exact h
    · exact h
  | readPositions rows =>
    simp only [reconcileStep]
    split
    · rename_i seen hphase
      have hseen := h.phase
      rw [hphase] at hseen
      split
      · rename_i hrows
        exact ⟨h.rows, h.id_ne, hseen, seenPositions_of_read h.rows hrows.1⟩
      · exact h
    · exact h
  | loadOrders rows =>
    simp only [reconcileStep]
    split
    · rename_i seen seenPositions hphase
      have hseen := h.phase
      rw [hphase] at hseen
      split
      · rename_i hrows
        exact ⟨h.rows, h.id_ne, hseen.1, hseen.2, loadedOrders_of_read h.rows hseen.1 hrows⟩
      · exact h
    · exact h
  | loadPositions rows =>
    simp only [reconcileStep]
    split
    · split
      · exact ⟨h.rows, h.id_ne, trivial⟩
      · exact h
    · exact h

end Invariant

/-! ## The comparison at the end -/

section Finish

variable {account : PaperAccount} {db : Db} {seen orders : List OrderRow} {seenPositions rows : List PositionRow}
  {base : RunInputs}

theorem loadedOrder_settled {o : OrderRow} (hid : o.id ≠ "") (hsettled : o.status = .failed ∨ o.status = .filled) :
    ((loadedOrder o).status = .failed ∧ (loadedOrder o).providerOrderId = none) ∨
      ((loadedOrder o).status = .filled ∧ (loadedOrder o).providerOrderId = some (loadedOrder o).id ∧
        (loadedOrder o).id ≠ "") := by
  rcases hsettled with hfailed | hfilled
  · exact .inl ⟨hfailed, by simp [loadedOrder, hfailed]⟩
  · exact .inr ⟨hfilled, by simp [loadedOrder, hfilled], hid⟩

theorem ordersOf_rows (h : TableRows db) (hne : ∀ o ∈ db.orders, o.id ≠ "") (hseen : SeenOrders account db seen)
    (hloaded : LoadedOrders db seen orders) : OrdersOf (orders.map loadedOrder) (seen.map loadedOrder) where
  ids := by
    rw [List.map_map]
    exact hloaded.ids
  client_ids := by
    intro o ho q hq heq
    obtain ⟨o, horow, rfl⟩ := List.mem_map.mp ho
    obtain ⟨q, hqrow, rfl⟩ := List.mem_map.mp hq
    rw [List.inj_on_of_nodup_map h.consistent.client_ids (hloaded.mem o horow) (hloaded.mem q hqrow) heq]
  keys := by
    intro o ho q hq heq
    obtain ⟨o, horow, rfl⟩ := List.mem_map.mp ho
    obtain ⟨q, hqrow, rfl⟩ := List.mem_map.mp hq
    rw [List.inj_on_of_nodup_map h.order_keys (hloaded.mem o horow) (hloaded.mem q hqrow) heq]
  settled := by
    intro o ho
    obtain ⟨o, horow, rfl⟩ := List.mem_map.mp ho
    exact loadedOrder_settled (hne o (hloaded.mem o horow)) (h.settled o (hloaded.mem o horow))
  subset := by
    intro o ho
    obtain ⟨o, horow, rfl⟩ := List.mem_map.mp ho
    exact List.mem_map_of_mem (hloaded.seen_mem o horow)
  seen_ids := by
    rw [List.map_map]
    exact hseen.ids
  seen_filled := by
    intro o ho
    obtain ⟨o, horow, rfl⟩ := List.mem_map.mp ho
    exact hseen.filled o horow

theorem loadedOrder_mem_iff (h : TableRows db) (hseen : SeenOrders account db seen) {o : OrderRow} (ho : o ∈ db.orders) :
    loadedOrder o ∈ seen.map loadedOrder ↔ o ∈ seen := by
  constructor
  · intro hmem
    obtain ⟨q, hq, heq⟩ := List.mem_map.mp hmem
    have hid : q.id = o.id := congrArg LoadedOrder.id heq
    rwa [← List.inj_on_of_nodup_map h.order_ids (hseen.mem q hq) ho hid]
  · exact fun hmem => List.mem_map_of_mem hmem

theorem mem_rows_iff (hrows : rows.Perm (db.positions.filter account.ownsPosition)) {p : PositionRow} :
    p ∈ rows ↔ p ∈ db.positions ∧ account.ownsPosition p = true := by
  rw [hrows.mem_iff, List.mem_filter]

theorem mem_openPositions {p : PositionRow} : p ∈ account.openPositions db ↔
    p ∈ db.positions ∧ account.ownsPosition p = true ∧ p.status = .«open» := by
  simp [PaperAccount.openPositions]

theorem ownsPosition_iff {p : PositionRow} : account.ownsPosition p = true ↔
    p.executionProfileId = account.executionProfileId ∧ p.userId = account.userId := by
  simp [PaperAccount.ownsPosition]

theorem successor_mem_rows (hseen : SeenPositions account db seenPositions)
    (hrows : rows.Perm (db.positions.filter account.ownsPosition)) {q : PositionRow} (hq : q ∈ seenPositions) :
    ∃ r ∈ rows, Successor q r := by
  obtain ⟨r, hr, hsucc⟩ := hseen.successor q hq
  have howned := ownsPosition_iff.mp (hseen.owned q hq)
  refine ⟨r, (mem_rows_iff hrows).mpr ⟨hr, ownsPosition_iff.mpr ?_⟩, hsucc⟩
  rw [hsucc.executionProfileId_eq, hsucc.userId_eq]
  exact howned

theorem positionsOf_rows (h : TableRows db) (hseen : SeenPositions account db seenPositions)
    (hrows : rows.Perm (db.positions.filter account.ownsPosition)) :
    PositionsOf (rows.map loadedPosition) (seenPositions.map loadedPosition) where
  ids := by
    rw [List.map_map]
    show (rows.map PositionRow.id).Nodup
    rw [(hrows.map PositionRow.id).nodup_iff]
    exact (List.filter_sublist.map _).nodup h.consistent.position_ids
  key := by
    intro p hp
    obtain ⟨p, hprow, rfl⟩ := List.mem_map.mp hp
    obtain ⟨hash, hkey⟩ := h.position_key p ((mem_rows_iff hrows).mp hprow).1
    refine ⟨_, ?_, hkey⟩
    intro hempty
    have hlist := congrArg String.toList hempty
    simp [paperProviderPositionId] at hlist
  same_key := by
    intro p hp q hq
    obtain ⟨p, hprow, rfl⟩ := List.mem_map.mp hp
    obtain ⟨q, hqrow, rfl⟩ := List.mem_map.mp hq
    obtain ⟨hpmem, hpowned⟩ := (mem_rows_iff hrows).mp hprow
    obtain ⟨r, hr, hsucc⟩ := hseen.successor q hqrow
    show p.providerPositionId = q.providerPositionId ↔ p.id = q.id
    rw [← hsucc.providerPositionId_eq, ← hsucc.id_eq]
    constructor
    · intro hkey
      have hprofile : p.executionProfileId = r.executionProfileId := by
        rw [hsucc.executionProfileId_eq, (ownsPosition_iff.mp hpowned).1, (ownsPosition_iff.mp (hseen.owned q hqrow)).1]
      rw [h.key_unique p hpmem r hr hprofile hkey]
    · intro hid
      rw [List.inj_on_of_nodup_map h.consistent.position_ids hpmem hr hid]
  seen_ids := by
    rw [List.map_map]
    exact hseen.ids
  seen_open := by
    intro p hp
    obtain ⟨p, hprow, rfl⟩ := List.mem_map.mp hp
    exact hseen.opened p hprow
  successor := by
    intro q hq
    obtain ⟨q, hqrow, rfl⟩ := List.mem_map.mp hq
    obtain ⟨r, hr, hsucc⟩ := successor_mem_rows hseen hrows hqrow
    refine ⟨loadedPosition r, List.mem_map_of_mem hr, hsucc.id_eq, ?_⟩
    exact hsucc.same_or_closed.imp (congrArg loadedPosition) fun hclosed => hclosed

theorem clean_iff : Clean (paperInputs base seen seenPositions orders rows) ↔
    (compareStates (orders.map loadedOrder) (rows.map loadedPosition)
      (paperSnapshot (seen.map loadedOrder) (seenPositions.map loadedPosition))).findings = [] := by
  have hfindings : runFindings (paperInputs base seen seenPositions orders rows) =
      (compareStates (orders.map loadedOrder) (rows.map loadedPosition)
        (paperSnapshot (seen.map loadedOrder) (seenPositions.map loadedPosition))).findings := rfl
  constructor
  · intro hclean
    have hrows := (hclean ⟨"", "", ""⟩ ⟨"", "", .manual, none⟩).1
    rw [findingRows, List.map_eq_nil_iff, List.zipIdx_eq_nil_iff] at hrows
    rw [← hfindings, hrows]
  · intro hnil profile opts
    rw [← hfindings] at hnil
    refine ⟨by simp [findingRows, hnil], ?_⟩
    show (runOutcome false (runFindings (paperInputs base seen seenPositions orders rows))).2 = _
    rw [hnil]
    rfl

theorem orders_clean_iff (h : TableRows db) (hne : ∀ o ∈ db.orders, o.id ≠ "") (hseen : SeenOrders account db seen)
    (hloaded : LoadedOrders db seen orders) :
    (matchOrders (orders.map loadedOrder) ((seen.map loadedOrder).map paperOrder)).findings = [] ↔
      ∀ o ∈ orders, o.status = .filled → o ∈ seen := by
  rw [(matchOrders_paper (ordersOf_rows h hne hseen hloaded)).1, List.flatMap_eq_nil_iff]
  constructor
  · intro hnil o ho hfilled
    exact (loadedOrder_mem_iff h hseen (hloaded.mem o ho)).mp
      (unseenOrder_eq_nil.mp (hnil _ (List.mem_map_of_mem ho)) hfilled)
  · intro hall o ho
    obtain ⟨o, horow, rfl⟩ := List.mem_map.mp ho
    refine unseenOrder_eq_nil.mpr fun hfilled => ?_
    exact (loadedOrder_mem_iff h hseen (hloaded.mem o horow)).mpr (hall o horow hfilled)

theorem positions_clean (h : TableRows db) (hseen : SeenPositions account db seenPositions)
    (hrows : rows.Perm (db.positions.filter account.ownsPosition))
    (hopen : ∀ p ∈ seenPositions, p ∈ account.openPositions db)
    (hall : ∀ p ∈ account.openPositions db, p ∈ seenPositions) :
    (matchPositions (rows.map loadedPosition) ((seenPositions.map loadedPosition).map paperPosition)).findings = [] ∧
      (matchPositions (rows.map loadedPosition)
        ((seenPositions.map loadedPosition).map paperPosition)).unmatched = [] := by
  have hof := positionsOf_rows h hseen hrows
  have hallOpen : ∀ p ∈ rows.map loadedPosition, p.status = .«open» → p ∈ seenPositions.map loadedPosition := by
    intro p hp hstatus
    obtain ⟨p, hprow, rfl⟩ := List.mem_map.mp hp
    obtain ⟨hpmem, howned⟩ := (mem_rows_iff hrows).mp hprow
    exact List.mem_map_of_mem (hall p (mem_openPositions.mpr ⟨hpmem, howned, hstatus⟩))
  obtain ⟨hfindings, hunmatched⟩ := matchPositions_paper hof hallOpen
  refine ⟨?_, hunmatched⟩
  rw [hfindings, List.flatMap_eq_nil_iff]
  intro p hp
  obtain ⟨p, hprow, rfl⟩ := List.mem_map.mp hp
  refine if_neg ?_
  rintro ⟨hclosed, q, hq, hid⟩
  obtain ⟨q, hqrow, rfl⟩ := List.mem_map.mp hq
  obtain ⟨hqmem, -, hqopen⟩ := mem_openPositions.mp (hopen q hqrow)
  have heq := List.inj_on_of_nodup_map h.consistent.position_ids hqmem ((mem_rows_iff hrows).mp hprow).1 hid
  have hcontra : q.status = .closed := heq ▸ hclosed
  rw [hqopen] at hcontra
  cases hcontra

/-- **Without findings the open positions are the same**, when the new ones carry later times. -/
theorem positions_same (h : TableRows db) (hseen : SeenPositions account db seenPositions)
    (hrows : rows.Perm (db.positions.filter account.ownsPosition)) (hsorted : OpenedInOrder rows)
    (hpunctual : ∀ p ∈ account.openPositions db, p ∉ seenPositions → ∀ q ∈ seenPositions, q.openedAt < p.openedAt)
    (hclean : (matchPositions (rows.map loadedPosition)
      ((seenPositions.map loadedPosition).map paperPosition)).findings = []) :
    (∀ p ∈ seenPositions, p ∈ account.openPositions db) ∧ ∀ p ∈ account.openPositions db, p ∈ seenPositions := by
  have hof := positionsOf_rows h hseen hrows
  have hall : ∀ p ∈ rows, p.status = .«open» → p ∈ seenPositions := by
    by_contra hnot
    push Not at hnot
    obtain ⟨p, hp, hstatus, hunseen⟩ := hnot
    -- the first open row the snapshot lacks
    have hfirst : (rows.find? fun r => decide (r.status = .«open» ∧ r ∉ seenPositions)).isSome := by
      rw [List.find?_isSome]
      exact ⟨p, hp, decide_eq_true ⟨hstatus, hunseen⟩⟩
    obtain ⟨b, hb⟩ := Option.isSome_iff_exists.mp hfirst
    obtain ⟨hbad, before, after, hsplit, hbefore⟩ := List.find?_eq_some_iff_append.mp hb
    obtain ⟨hbopen, hbunseen⟩ := of_decide_eq_true hbad
    have hbrow : b ∈ rows := by simp [hsplit]
    obtain ⟨hbmem, hbowned⟩ := (mem_rows_iff hrows).mp hbrow
    have hlater := hpunctual b (mem_openPositions.mpr ⟨hbmem, hbowned, hbopen⟩) hbunseen
    have hmapped : rows.map loadedPosition =
        before.map loadedPosition ++ loadedPosition b :: after.map loadedPosition := by
      rw [hsplit, List.map_append, List.map_cons]
    refine matchPositions_unseen hof hmapped hbopen ?_ ?_ hclean
    · intro q hq hqopen
      obtain ⟨q, hqrow, rfl⟩ := List.mem_map.mp hq
      have hgood := hbefore q hqrow
      simp only [Bool.not_eq_true', decide_eq_false_iff_not, not_and, not_not] at hgood
      exact List.mem_map_of_mem (hgood hqopen)
    · intro q hq
      obtain ⟨q, hqrow, rfl⟩ := List.mem_map.mp hq
      obtain ⟨r, hr, hsucc⟩ := successor_mem_rows hseen hrows hqrow
      refine ⟨loadedPosition r, List.mem_map_of_mem ?_, hsucc.id_eq⟩
      have hearlier : r.openedAt < b.openedAt := hsucc.openedAt_eq ▸ hlater q hqrow
      rw [hsplit] at hr
      rcases List.mem_append.mp hr with hr | hr
      · exact hr
      · exfalso
        rcases List.mem_cons.mp hr with rfl | hr
        · exact lt_irrefl _ hearlier
        · unfold OpenedInOrder at hsorted
          rw [hsplit, List.pairwise_append, List.pairwise_cons] at hsorted
          have hle := hsorted.2.1.1 r hr
          omega
  have hallLoaded : ∀ p ∈ rows.map loadedPosition, p.status = .«open» → p ∈ seenPositions.map loadedPosition := by
    intro p hp hstatus
    obtain ⟨p, hprow, rfl⟩ := List.mem_map.mp hp
    exact List.mem_map_of_mem (hall p hprow hstatus)
  rw [(matchPositions_paper hof hallLoaded).1, List.flatMap_eq_nil_iff] at hclean
  constructor
  · intro q hq
    obtain ⟨r, hr, hsucc⟩ := successor_mem_rows hseen hrows hq
    obtain ⟨hrmem, hrowned⟩ := (mem_rows_iff hrows).mp hr
    rcases hsucc.same_or_closed with rfl | hclosed
    · exact mem_openPositions.mpr ⟨hrmem, hrowned, hseen.opened _ hq⟩
    · have hnone := hclean _ (List.mem_map_of_mem hr)
      have hfound : closedPosition (seenPositions.map loadedPosition) (loadedPosition r) ≠ [] := by
        rw [closedPosition, if_pos ⟨hclosed, loadedPosition q, List.mem_map_of_mem hq, hsucc.id_eq.symm⟩]
        exact List.cons_ne_nil _ _
      exact absurd hnone hfound
  · intro p hp
    obtain ⟨hpmem, howned, hstatus⟩ := mem_openPositions.mp hp
    exact hall p ((mem_rows_iff hrows).mpr ⟨hpmem, howned⟩) hstatus

theorem compareStates_nil_iff (h : TableRows db) (hne : ∀ o ∈ db.orders, o.id ≠ "")
    (hseen : SeenOrders account db seen) (hloaded : LoadedOrders db seen orders) :
    (compareStates (orders.map loadedOrder) (rows.map loadedPosition)
      (paperSnapshot (seen.map loadedOrder) (seenPositions.map loadedPosition))).findings = [] ↔
      (∀ o ∈ orders, o.status = .filled → o ∈ seen) ∧
        (matchPositions (rows.map loadedPosition)
          ((seenPositions.map loadedPosition).map paperPosition)).findings = [] ∧
        (matchPositions (rows.map loadedPosition)
          ((seenPositions.map loadedPosition).map paperPosition)).unmatched = [] := by
  have hunmatched := (matchOrders_paper (ordersOf_rows h hne hseen hloaded)).2
  rw [← orders_clean_iff h hne hseen hloaded]
  simp only [compareStates, paperSnapshot, hunmatched, List.map_nil, List.append_nil, List.append_eq_nil_iff,
    List.map_eq_nil_iff, and_assoc]

end Finish

/-! ## Runs -/

section Runs

variable {env : PaperEnv} {base : RunInputs} {account : PaperAccount} {s : ReconcileState}

/-- An untorn run ends clean. -/
structure CleanInv (account : PaperAccount) (s : ReconcileState) : Prop where
  inv : ReconcileInv account s
  clean : ∀ inputs, s.phase = .finished inputs → Clean inputs

theorem reconcileStep_clean (h : CleanInv account s) (a : ReconcileAct) (hok : Untorn account s a) :
    CleanInv account (reconcileStep env base account s a) := by
  refine ⟨reconcileStep_inv h.inv a, ?_⟩
  cases a with
  | trade auth mode fresh =>
    simp only [reconcileStep]
    split <;> exact h.clean
  | readOrders rows =>
    simp only [reconcileStep]
    split
    · split
      · nofun
      · exact h.clean
    · exact h.clean
  | readPositions rows =>
    simp only [reconcileStep]
    split
    · split
      · nofun
      · exact h.clean
    · exact h.clean
  | loadOrders rows =>
    simp only [reconcileStep]
    split
    · split
      · nofun
      · exact h.clean
    · exact h.clean
  | loadPositions rows =>
    simp only [reconcileStep]
    split
    · rename_i seen seenPositions orders hphase
      split
      · rename_i hrows
        rintro inputs ⟨⟩
        have hread := h.inv.phase
        rw [hphase] at hread
        simp only [Untorn, hphase] at hok
        obtain ⟨horders, hopen, hall⟩ := hok hrows
        refine clean_iff.mpr ((compareStates_nil_iff h.inv.rows h.inv.id_ne hread.1 hread.2.2).mpr ⟨horders, ?_⟩)
        exact positions_clean h.inv.rows hread.2.1 hrows.1 hopen hall
      · exact h.clean
    · exact h.clean

theorem untorn_of_clean (h : ReconcileInv account s) {rows : List PositionRow}
    (hpunctual : Punctual account s (.loadPositions rows))
    (hclean : ∀ inputs, (reconcileStep env base account s (.loadPositions rows)).phase = .finished inputs →
      Clean inputs) : Untorn account s (.loadPositions rows) := by
  cases hphase : s.phase with
  | loaded seen seenPositions orders =>
    simp only [Untorn, hphase]
    intro hrows
    have hread := h.phase
    rw [hphase] at hread
    simp only [Punctual, hphase] at hpunctual
    have hfinished : (reconcileStep env base account s (.loadPositions rows)).phase =
        .finished (paperInputs base seen seenPositions orders rows) := by
      simp only [reconcileStep, hphase, if_pos hrows]
    have hnil := clean_iff.mp (hclean _ hfinished)
    obtain ⟨horders, hpositions, -⟩ := (compareStates_nil_iff h.rows h.id_ne hread.1 hread.2.2).mp hnil
    exact ⟨horders, positions_same h.rows hread.2.1 hrows.1 hrows.2 hpunctual hpositions⟩
  | _ => simp only [Untorn, hphase]

end Runs

/-- **A paper account that is not traded while it is read reconciles clean.**  Over every sequence of
    fill transactions from the empty tables, with the reads of a run at any places among them: when the
    reads agree on the filled orders and on the open positions, the run records no finding and health
    `synchronized`; and when every position opened since the snapshot was read carries a later time
    than those of the snapshot, a run that ends clean has reads that agree. -/
theorem healthy_account_reconciles_clean (env : PaperEnv) (base : RunInputs) (account : PaperAccount)
    (acts : List ReconcileAct) :
    (Meets (reconcileStep env base account) (Untorn account) .start acts →
        ∀ t, Reached (reconcileStep env base account) .start acts t →
          ∀ inputs, t.phase = .finished inputs → Clean inputs) ∧
      (Meets (reconcileStep env base account) (Punctual account) .start acts →
        (∀ t, Reached (reconcileStep env base account) .start acts t →
          ∀ inputs, t.phase = .finished inputs → Clean inputs) →
        Meets (reconcileStep env base account) (Untorn account) .start acts) := by
  constructor
  · intro hmeets t ht
    have hstep : ∀ s a, CleanInv account s → Untorn account s a →
        CleanInv account (reconcileStep env base account s a) := fun s a hs hok => reconcileStep_clean hs a hok
    have hstart : CleanInv account .start := ⟨reconcileInv_start account, nofun⟩
    exact (inv_of_reached _ hstep hstart hmeets ht).clean
  · intro hpunctual hclean
    rw [meets_iff_forall_action] at hpunctual ⊢
    intro pre a post hacts
    have hkeeps : ∀ s a, ReconcileInv account s → ReconcileInv account (reconcileStep env base account s a) :=
      fun s a hs => reconcileStep_inv hs a
    have hinv : ReconcileInv account (run (reconcileStep env base account) .start pre) :=
      inv_run_always _ hkeeps (reconcileInv_start account) pre
    cases a with
    | loadPositions rows =>
      exact untorn_of_clean hinv (hpunctual pre _ post hacts) fun inputs hfinished =>
        hclean _ (reached_step _ hacts) inputs hfinished
    | _ => trivial

/-- The findings of a finished run. -/
def RunPhase.codes : RunPhase → List MismatchCode
  | .finished inputs => (runFindings inputs).map Mismatch.code
  | _ => []

def sampleRun : RunInputs := ⟨"run", toString, 0, 0, .threw none, [], []⟩

/-- A run after the sample entry, without trades in between. -/
theorem quiet_run_is_clean :
    let acts : List ReconcileAct := [.trade sampleEntry .off ⟨"order-1", "fill-1", "position-1", 60000⟩,
      .readOrders sampleDb.orders, .readPositions sampleDb.positions, .loadOrders sampleDb.orders,
      .loadPositions sampleDb.positions]
    Meets (reconcileStep sampleEnv sampleRun ⟨"user", "profile"⟩) (Untorn ⟨"user", "profile"⟩) .start acts ∧
      ∀ inputs, (run (reconcileStep sampleEnv sampleRun ⟨"user", "profile"⟩) .start acts).phase = .finished inputs →
        Clean inputs := by
  intro acts
  have hmeets : Meets (reconcileStep sampleEnv sampleRun ⟨"user", "profile"⟩) (Untorn ⟨"user", "profile"⟩) .start
      acts := by decide +kernel
  exact ⟨hmeets, (healthy_account_reconciles_clean sampleEnv sampleRun ⟨"user", "profile"⟩ acts).1 hmeets _
    (reached_last _ _ _)⟩

/-- The sample entry fills after the snapshot was read: the run reports the order and the position as
    missing at the provider. -/
theorem fill_during_run_is_reported :
    let acts : List ReconcileAct := [.readOrders [], .readPositions [],
      .trade sampleEntry .off ⟨"order-1", "fill-1", "position-1", 60000⟩, .loadOrders sampleDb.orders,
      .loadPositions sampleDb.positions]
    (run (reconcileStep sampleEnv sampleRun ⟨"user", "profile"⟩) .start acts).phase.codes =
      [.internal_order_missing_at_provider, .internal_position_missing_at_provider] := by
  decide +kernel

end VeltrixEye.Reconciliation
