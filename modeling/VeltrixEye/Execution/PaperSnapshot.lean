import VeltrixEye.Execution.Comparison
import VeltrixEye.Execution.PaperTables

/-!
# The paper snapshot and its comparison (`PaperReconciliationSnapshotProvider`)

The provider state of a paper profile is read from the tables the run is compared with: the orders that
did not fail and the open positions.

* `compareOrderFields_self`, `comparePositionFields_self` — a row agrees with its own image.
-/

namespace VeltrixEye.Reconciliation

/-! ## Rows and images -/

/-- The columns of an order: the fill writes the provider's id, the levels are the decision's. -/
def loadedOrder (o : OrderRow) : LoadedOrder where
  id := o.id
  clientOrderId := o.clientOrderId
  providerOrderId := if o.status = .filled then some o.id else none
  symbol := o.symbol
  side := o.side
  quantity := o.quantity
  filledQuantity := o.filledQuantity
  averageFillPrice := o.averageFillPrice
  stopLossPrice := Numeric.ofRat? 24 10 o.decision.stopLossPrice
  takeProfitPrice := Numeric.ofRat? 24 10 o.decision.takeProfitPrice
  status := o.status
  idempotencyKey := o.idempotencyKey

def loadedPosition (p : PositionRow) : LoadedPosition where
  id := p.id
  providerPositionId := p.providerPositionId
  symbol := p.symbol
  direction := p.direction
  quantity := p.quantity
  averageEntryPrice := p.averageEntryPrice
  stopLossPrice := p.stopLossPrice
  takeProfitPrice := p.takeProfitPrice
  status := p.status

/-- The provider order `getSnapshot` makes of a row. -/
def paperOrder (o : LoadedOrder) : ProviderOrder where
  providerOrderId := o.id
  clientOrderId := some o.clientOrderId
  idempotencyKey := some o.idempotencyKey
  symbol := some o.symbol
  side := some o.side
  filledQuantity := some o.filledQuantity.toRat
  averagePrice := o.averageFillPrice.map Numeric.toRat
  stopLossPrice := some (o.stopLossPrice.map Numeric.toRat)
  takeProfitPrice := some (o.takeProfitPrice.map Numeric.toRat)
  status := some (.known o.status)
  statusUncertain := false

/-- The provider position `getSnapshot` makes of a row. -/
def paperPosition (p : LoadedPosition) : ProviderPosition where
  providerPositionId := p.providerPositionId.getD p.id
  symbol := some p.symbol
  direction := some p.direction
  quantity := some p.quantity.toRat
  averageEntryPrice := some p.averageEntryPrice.toRat
  stopLossPrice := some (p.stopLossPrice.map Numeric.toRat)
  takeProfitPrice := some (p.takeProfitPrice.map Numeric.toRat)

/-- `getSnapshot`, on the rows its two reads return. -/
def paperSnapshot (orders : List LoadedOrder) (positions : List LoadedPosition) : ProviderSnapshot where
  orders := orders.map paperOrder
  positions := positions.map paperPosition
  providerUnavailable := false

/-! ## A row and its own image -/

theorem tolerance_pos : 0 < NUM_TOLERANCE := by
  unfold NUM_TOLERANCE
  norm_num

theorem not_differs_self (q : ℚ) : ¬ NUM_TOLERANCE < |q - q| := by
  rw [sub_self, abs_zero]
  exact not_lt.mpr tolerance_pos.le

theorem not_levelDiffers_self (level : Option (Numeric 24 10)) :
    ¬ levelDiffers level (some (level.map Numeric.toRat)) := by
  rintro ⟨n, hn, observed, hobserved, hdiffers⟩
  cases hobserved
  refine not_differs_self n.toRat (hdiffers n.toRat ?_)
  rw [Option.mem_def.mp hn]
  rfl

theorem not_priceDiffers_self (q : ℚ) : ¬ priceDiffers q q := by
  rintro ⟨-, h⟩
  rw [sub_self, abs_zero, zero_div] at h
  norm_num at h

theorem truthyText_mem {text : String} {t : String} (h : t ∈ truthyText (some text)) : t = text := by
  rw [truthyText, Option.mem_def, Option.filter_eq_some_iff] at h
  exact (Option.some.inj h.1).symm

theorem compareOrderFields_self (o : LoadedOrder) : compareOrderFields o (paperOrder o) = [] := by
  have hcertain : providerStateIsUncertain (paperOrder o) = false := by
    simp [providerStateIsUncertain, paperOrder]
  unfold compareOrderFields
  simp only [hcertain, Bool.false_eq_true, if_false, List.append_eq_nil_iff, addIf_eq_nil]
  refine ⟨⟨⟨⟨⟨⟨?_, ?_⟩, ?_⟩, ?_⟩, ?_⟩, ?_⟩, ?_⟩
  · rintro ⟨status, hstatus, hne, -⟩
    cases hstatus
    exact hne rfl
  · simp only [paperOrder, addIf_eq_nil]
    exact not_differs_self _
  · rintro ⟨side, hside, hne⟩
    cases hside
    exact hne rfl
  · rintro ⟨symbol, hsymbol, hne⟩
    exact hne (truthyText_mem hsymbol)
  · rintro ⟨price, hprice, filled, hfilled, hdiffers⟩
    simp only [paperOrder, Option.mem_def.mp hfilled, Option.map_some, Option.mem_def, Option.some.injEq] at hprice
    rw [← hprice] at hdiffers
    exact not_priceDiffers_self _ hdiffers
  · exact not_levelDiffers_self _
  · exact not_levelDiffers_self _

theorem comparePositionFields_self (p : LoadedPosition) : comparePositionFields p (paperPosition p) = [] := by
  unfold comparePositionFields
  simp only [List.append_eq_nil_iff, addIf_eq_nil]
  refine ⟨⟨⟨⟨⟨?_, ?_⟩, ?_⟩, ?_⟩, ?_⟩, ?_⟩
  · rintro ⟨direction, hdirection, hne⟩
    cases hdirection
    exact hne rfl
  · rintro ⟨symbol, hsymbol, hne⟩
    exact hne (truthyText_mem hsymbol)
  · rintro ⟨quantity, hquantity, hdiffers⟩
    cases hquantity
    exact not_differs_self _ hdiffers
  · rintro ⟨price, hprice, hdiffers⟩
    cases hprice
    exact not_priceDiffers_self _ hdiffers
  · exact not_levelDiffers_self _
  · exact not_levelDiffers_self _

/-! ## Lists -/

section Lists

variable {α : Type} {key : α → String} {l : List α}

theorem mapByKey_append (hnodup : (l.map key).Nodup) (acc : List α)
    (hfree : ∀ a ∈ l, ∀ b ∈ acc, key b ≠ key a) :
    l.foldl (fun acc row =>
      if acc.any fun other => key other = key row then
        acc.map fun other => if key other = key row then row else other
      else acc ++ [row]) acc = acc ++ l := by
  induction l generalizing acc with
  | nil => simp
  | cons a rest ih =>
    rw [List.map_cons, List.nodup_cons] at hnodup
    have hnone : (acc.any fun other => key other = key a) = false := by
      rw [List.any_eq_false]
      intro b hb
      simpa using hfree a List.mem_cons_self b hb
    rw [List.foldl_cons, hnone, if_neg Bool.false_ne_true, ih hnodup.2]
    · simp
    · intro b hb c hc
      rcases List.mem_append.mp hc with hc | hc
      · exact hfree b (List.mem_cons_of_mem _ hb) c hc
      · rw [List.mem_singleton.mp hc]
        intro heq
        exact hnodup.1 (heq ▸ List.mem_map_of_mem hb)

theorem mapByKey_of_nodup (hnodup : (l.map key).Nodup) : mapByKey key l = l := by
  have hall := mapByKey_append hnodup [] (by simp)
  rwa [List.nil_append] at hall

theorem find?_of_unique {p : α → Bool} {a : α} (ha : a ∈ l) (hp : p a = true)
    (hunique : ∀ b ∈ l, p b = true → b = a) : l.find? p = some a := by
  cases hfind : l.find? p with
  | none => exact absurd hp (List.find?_eq_none.mp hfind a ha)
  | some b => rw [hunique b (List.mem_of_find?_eq_some hfind) (List.find?_some hfind)]

/-- **A fold of a matching** whose every row takes what carries its id and adds its finding. -/
theorem matching_fold {ρ β : Type} {step : Matching β → ρ → Matching β} {id : ρ → String}
    {left : List String → List β} {finding : ρ → List Mismatch}
    (hleft : ∀ xs ys : List String, (∀ a, a ∈ xs ↔ a ∈ ys) → left xs = left ys) {rows : List ρ}
    (hstep : ∀ r ∈ rows, ∀ done, id r ∉ done → ∀ found pairs, ∃ pairs',
      step ⟨left done, found, pairs⟩ r = ⟨left (id r :: done), found ++ finding r, pairs'⟩)
    (hnodup : (rows.map id).Nodup) (done : List String) (hdone : ∀ r ∈ rows, id r ∉ done)
    (found : List Mismatch) (pairs : List (String × String)) :
    ∃ pairs', rows.foldl step ⟨left done, found, pairs⟩ =
      ⟨left (rows.map id ++ done), found ++ rows.flatMap finding, pairs'⟩ := by
  induction rows generalizing done found pairs with
  | nil => exact ⟨pairs, by simp⟩
  | cons r rest ih =>
    rw [List.map_cons, List.nodup_cons] at hnodup
    obtain ⟨pairs₁, hfirst⟩ := hstep r List.mem_cons_self done (hdone r List.mem_cons_self) found pairs
    have hrest : ∀ q ∈ rest, id q ∉ id r :: done := by
      intro q hq
      rw [List.mem_cons, not_or]
      exact ⟨fun heq => hnodup.1 (heq ▸ List.mem_map_of_mem hq), hdone q (List.mem_cons_of_mem _ hq)⟩
    obtain ⟨pairs₂, hfold⟩ := ih (fun q hq => hstep q (List.mem_cons_of_mem _ hq)) hnodup.2 _ hrest
      (found ++ finding r) pairs₁
    have hsame : left (rest.map id ++ id r :: done) = left (id r :: (rest.map id ++ done)) := by
      refine hleft _ _ fun a => ?_
      simp only [List.mem_append, List.mem_cons]
      tauto
    refine ⟨pairs₂, ?_⟩
    rw [List.foldl_cons, hfirst, hfold]
    simp [hsame]

end Lists

/-! ## Orders -/

/-- What the orders of a run and the ones of the snapshot are, when both are rows of the service. -/
structure OrdersOf (orders seen : List LoadedOrder) : Prop where
  ids : (orders.map LoadedOrder.id).Nodup
  client_ids : ∀ o ∈ orders, ∀ q ∈ orders, o.clientOrderId = q.clientOrderId → o = q
  keys : ∀ o ∈ orders, ∀ q ∈ orders, o.idempotencyKey = q.idempotencyKey → o = q
  settled : ∀ o ∈ orders, (o.status = .failed ∧ o.providerOrderId = none) ∨
    (o.status = .filled ∧ o.providerOrderId = some o.id ∧ o.id ≠ "")
  subset : ∀ o ∈ seen, o ∈ orders
  seen_ids : (seen.map LoadedOrder.id).Nodup
  seen_filled : ∀ o ∈ seen, o.status = .filled

section Orders

variable {orders seen : List LoadedOrder} {o : LoadedOrder} {done : List String}

/-- The snapshot's orders that no row of `done` was matched with. -/
def ordersLeft (seen : List LoadedOrder) (done : List String) : List ProviderOrder :=
  (seen.filter fun o => o.id ∉ done).map paperOrder

/-- The finding about a filled order the snapshot lacks. -/
def unseenOrder (seen : List LoadedOrder) (o : LoadedOrder) : List Mismatch :=
  if o.status = .filled ∧ o ∉ seen then missingOrder o else []

theorem OrdersOf.eq_of_id (h : OrdersOf orders seen) {q : LoadedOrder} (ho : o ∈ orders) (hq : q ∈ orders)
    (hid : q.id = o.id) : q = o := List.inj_on_of_nodup_map h.ids hq ho hid

theorem truthyText_some {text : String} (h : text ≠ "") : truthyText (some text) = some text := by
  simp [truthyText, Option.filter, h]

theorem OrdersOf.sameIdentity_eq (h : OrdersOf orders seen) (ho : o ∈ orders) (hunseen : o ∉ seen) :
    (ordersLeft seen done).filter (fun q => sameIdentity o q) = [] := by
  rw [List.filter_eq_nil_iff]
  intro image himage
  obtain ⟨q, hq, rfl⟩ := List.mem_map.mp himage
  have hqseen := List.mem_of_mem_filter hq
  have hqmem := h.subset q hqseen
  rw [sameIdentity, Bool.or_eq_true, not_or]
  constructor
  · intro hclient
    have heq := truthyText_mem (Option.mem_def.mpr (of_decide_eq_true hclient))
    exact hunseen (h.client_ids o ho q hqmem heq ▸ hqseen)
  · intro hkey
    have heq := truthyText_mem (Option.mem_def.mpr (of_decide_eq_true hkey))
    exact hunseen (h.keys o ho q hqmem heq ▸ hqseen)

theorem ordersLeft_cons (seen : List LoadedOrder) (done : List String) (id : String) :
    (ordersLeft seen done).filter (fun q => q.providerOrderId ≠ id) = ordersLeft seen (id :: done) := by
  unfold ordersLeft
  rw [List.filter_map, List.filter_filter]
  congr 1
  refine List.filter_congr fun q _ => ?_
  simp only [List.mem_cons, not_or, Bool.decide_and]
  rfl

theorem ordersLeft_cons_of_unseen (hunseen : ∀ q ∈ seen, q.id ≠ o.id) :
    ordersLeft seen (o.id :: done) = ordersLeft seen done := by
  unfold ordersLeft
  congr 1
  refine List.filter_congr fun q hq => ?_
  simp [hunseen q hq]

theorem OrdersOf.matchOrder_seen (h : OrdersOf orders seen) (ho : o ∈ seen) (hdone : o.id ∉ done) :
    matchOrder o (ordersLeft seen done) = (some (paperOrder o), []) := by
  have hmem := h.subset o ho
  obtain ⟨hid, hne⟩ : o.providerOrderId = some o.id ∧ o.id ≠ "" := by
    rcases h.settled o hmem with ⟨hfailed, -⟩ | ⟨-, hid⟩
    · rw [h.seen_filled o ho] at hfailed
      cases hfailed
    · exact hid
  have hfind : (ordersLeft seen done).find? (fun q => q.providerOrderId = o.id) = some (paperOrder o) := by
    refine find?_of_unique (List.mem_map_of_mem ?_) (by simp [paperOrder]) ?_
    · simp [List.mem_filter, ho, hdone]
    · intro image himage hq
      obtain ⟨q, hqmem, rfl⟩ := List.mem_map.mp himage
      rw [h.eq_of_id hmem (h.subset q (List.mem_of_mem_filter hqmem)) (of_decide_eq_true hq)]
  simp [matchOrder, hid, truthyText_some hne, hfind]

theorem OrdersOf.matchOrder_unseen (h : OrdersOf orders seen) (ho : o ∈ orders) (hunseen : o ∉ seen) :
    matchOrder o (ordersLeft seen done) = (none, []) := by
  have hfind : ((truthyText o.providerOrderId).bind fun id =>
      (ordersLeft seen done).find? fun q => q.providerOrderId = id) = none := by
    rcases h.settled o ho with ⟨-, hid⟩ | ⟨-, hid, hne⟩
    · simp [hid, truthyText]
    · rw [hid, truthyText_some hne, Option.bind_some, List.find?_eq_none]
      intro image himage hq
      obtain ⟨q, hqmem, rfl⟩ := List.mem_map.mp himage
      have hqseen := List.mem_of_mem_filter hqmem
      have heq := h.eq_of_id ho (h.subset q hqseen) (of_decide_eq_true hq)
      exact hunseen (heq ▸ hqseen)
  simp [matchOrder, hfind, h.sameIdentity_eq ho hunseen]

/-- **One order**: its image leaves, and a filled order the snapshot lacks is a finding. -/
theorem OrdersOf.matchOrderStep_eq (h : OrdersOf orders seen) (ho : o ∈ orders) (hdone : o.id ∉ done)
    (found : List Mismatch) (pairs : List (String × String)) :
    ∃ pairs', matchOrderStep ⟨ordersLeft seen done, found, pairs⟩ o =
      ⟨ordersLeft seen (o.id :: done), found ++ unseenOrder seen o, pairs'⟩ := by
  by_cases hseen : o ∈ seen
  · refine ⟨pairs ++ [(o.id, o.id)], ?_⟩
    simp only [matchOrderStep, h.matchOrder_seen hseen hdone, compareOrderFields_self]
    rw [show (paperOrder o).providerOrderId = o.id from rfl, ordersLeft_cons]
    simp [unseenOrder, hseen]
  · refine ⟨pairs, ?_⟩
    have hids : ∀ q ∈ seen, q.id ≠ o.id := fun q hq hid => hseen (h.eq_of_id ho (h.subset q hq) hid ▸ hq)
    simp only [matchOrderStep, h.matchOrder_unseen ho hseen, ordersLeft_cons_of_unseen hids, List.append_nil]
    rcases h.settled o ho with ⟨hstatus, hid⟩ | ⟨hstatus, -⟩
    · simp [unseenOrder, hstatus, missingOrder, awaitIsUncertain, isTerminalWithoutOutcome, hid, truthyText]
    · simp [unseenOrder, hstatus, hseen]

/-- **The findings about orders** are the filled ones the snapshot lacks; no order of the snapshot is
    left. -/
theorem matchOrders_paper (h : OrdersOf orders seen) :
    (matchOrders orders (seen.map paperOrder)).findings = orders.flatMap (unseenOrder seen) ∧
      (matchOrders orders (seen.map paperOrder)).unmatched = [] := by
  have hkeys : ((seen.map paperOrder).map (·.providerOrderId)).Nodup := by
    rw [List.map_map]
    exact h.seen_ids
  have hstart : ordersLeft seen [] = seen.map paperOrder := by simp [ordersLeft]
  obtain ⟨pairs, hfold⟩ := matching_fold (fun xs ys hsame => by simp [ordersLeft, hsame])
    (fun o ho _ hnew => h.matchOrderStep_eq ho hnew) h.ids [] (by simp) [] []
  unfold matchOrders
  rw [mapByKey_of_nodup hkeys, ← hstart, hfold]
  refine ⟨by simp, ?_⟩
  simp only [ordersLeft, List.map_eq_nil_iff, List.filter_eq_nil_iff]
  intro o ho
  simpa using ⟨o, h.subset o ho, rfl⟩

theorem unseenOrder_eq_nil : unseenOrder seen o = [] ↔ (o.status = .filled → o ∈ seen) := by
  unfold unseenOrder
  split
  · rename_i hcase
    have hfinding : missingOrder o ≠ [] := by
      simp [missingOrder, awaitIsUncertain, isTerminalWithoutOutcome, requiresProviderPresence, hcase.1]
    simp [hfinding, hcase]
  · rename_i hcase
    simpa using hcase

end Orders

/-! ## Positions -/

/-- What the positions of a run and the ones of the snapshot are: open rows of the snapshot, whose
    successors are among the rows of the run. -/
structure PositionsOf (positions seen : List LoadedPosition) : Prop where
  ids : (positions.map LoadedPosition.id).Nodup
  key : ∀ p ∈ positions, ∃ t, t ≠ "" ∧ p.providerPositionId = some t
  same_key : ∀ p ∈ positions, ∀ q ∈ seen, p.providerPositionId = q.providerPositionId ↔ p.id = q.id
  seen_ids : (seen.map LoadedPosition.id).Nodup
  seen_open : ∀ q ∈ seen, q.status = .«open»
  successor : ∀ q ∈ seen, ∃ p ∈ positions, p.id = q.id ∧ (p = q ∨ p.status = .closed)

section Positions

variable {positions seen : List LoadedPosition} {p : LoadedPosition} {done : List String}

/-- The snapshot's positions that no row of `done` was matched with. -/
def positionsLeft (seen : List LoadedPosition) (done : List String) : List ProviderPosition :=
  (seen.filter fun p => p.id ∉ done).map paperPosition

/-- The finding about a closed position the snapshot shows open. -/
def closedPosition (seen : List LoadedPosition) (p : LoadedPosition) : List Mismatch :=
  if p.status = .closed ∧ ∃ q ∈ seen, q.id = p.id then
    [⟨.unexpected_provider_state, .error, .position, none, some p.id, none, p.providerPositionId,
      some "position_status"⟩]
  else []

theorem PositionsOf.seen_key (h : PositionsOf positions seen) {q : LoadedPosition} (hq : q ∈ seen) :
    ∃ t, t ≠ "" ∧ q.providerPositionId = some t := by
  obtain ⟨p, hp, hid, -⟩ := h.successor q hq
  obtain ⟨t, hne, hkey⟩ := h.key p hp
  exact ⟨t, hne, ((h.same_key p hp q hq).mpr hid).symm.trans hkey⟩

theorem PositionsOf.image_key (h : PositionsOf positions seen) (hp : p ∈ positions) {q : LoadedPosition}
    (hq : q ∈ seen) {t : String} (hkey : p.providerPositionId = some t) :
    (paperPosition q).providerPositionId = t ↔ q.id = p.id := by
  obtain ⟨t', -, hkey'⟩ := h.seen_key hq
  have himage : (paperPosition q).providerPositionId = t' := by simp [paperPosition, hkey']
  rw [himage]
  constructor
  · rintro rfl
    exact ((h.same_key p hp q hq).mp (hkey.trans hkey'.symm)).symm
  · intro hid
    have heq := (h.same_key p hp q hq).mpr hid.symm
    rw [hkey, hkey'] at heq
    exact (Option.some.inj heq).symm

theorem PositionsOf.seen_keys (h : PositionsOf positions seen) :
    ((seen.map paperPosition).map (·.providerPositionId)).Nodup := by
  rw [List.map_map]
  refine List.Nodup.map_on ?_ h.seen_ids.of_map
  intro q hq r hr heq
  obtain ⟨p, hp, hid, -⟩ := h.successor q hq
  obtain ⟨t, -, hkey⟩ := h.key p hp
  have hqkey := (h.image_key hp hq hkey).mpr hid.symm
  have hrid := (h.image_key hp hr hkey).mp (heq.symm.trans hqkey)
  exact List.inj_on_of_nodup_map h.seen_ids hq hr (hid.symm.trans hrid.symm)

theorem PositionsOf.find?_left (h : PositionsOf positions seen) (hp : p ∈ positions) {t : String}
    (hkey : p.providerPositionId = some t) (hdone : p.id ∉ done) :
    (positionsLeft seen done).find? (fun q => q.providerPositionId = t) =
      (seen.find? fun q => q.id = p.id).map paperPosition := by
  cases hfind : seen.find? fun q => q.id = p.id with
  | none =>
    rw [Option.map_none, List.find?_eq_none]
    intro image himage hq
    obtain ⟨q, hqmem, rfl⟩ := List.mem_map.mp himage
    have hqseen := List.mem_of_mem_filter hqmem
    have hid := (h.image_key hp hqseen hkey).mp (of_decide_eq_true hq)
    exact List.find?_eq_none.mp hfind q hqseen (decide_eq_true hid)
  | some q =>
    have hqseen := List.mem_of_find?_eq_some hfind
    have hid : q.id = p.id := by simpa using List.find?_some hfind
    refine find?_of_unique (List.mem_map_of_mem (List.mem_filter.mpr ⟨hqseen, ?_⟩)) ?_ ?_
    · exact decide_eq_true (hid ▸ hdone)
    · exact decide_eq_true ((h.image_key hp hqseen hkey).mpr hid)
    · intro image himage hr
      obtain ⟨r, hrmem, rfl⟩ := List.mem_map.mp himage
      have hrseen := List.mem_of_mem_filter hrmem
      have hrid := (h.image_key hp hrseen hkey).mp (of_decide_eq_true hr)
      rw [List.inj_on_of_nodup_map h.seen_ids hrseen hqseen (hrid.trans hid.symm)]

theorem PositionsOf.left_cons (h : PositionsOf positions seen) (hp : p ∈ positions) {t : String}
    (hkey : p.providerPositionId = some t) (done : List String) :
    (positionsLeft seen done).filter (fun q => q.providerPositionId ≠ t) = positionsLeft seen (p.id :: done) := by
  unfold positionsLeft
  rw [List.filter_map, List.filter_filter]
  congr 1
  refine List.filter_congr fun q hq => ?_
  have himage := h.image_key hp hq hkey
  simp only [List.mem_cons, not_or, Bool.decide_and, Function.comp_apply, ne_eq, himage]

theorem positionsLeft_cons_of_unseen (hunseen : ∀ q ∈ seen, q.id ≠ p.id) :
    positionsLeft seen (p.id :: done) = positionsLeft seen done := by
  unfold positionsLeft
  congr 1
  refine List.filter_congr fun q hq => ?_
  simp [hunseen q hq]

/-- **One position**, closed or in the snapshot: its image leaves, and a closed row the snapshot shows
    open is a finding. -/
theorem PositionsOf.matchPositionStep_eq (h : PositionsOf positions seen) (hp : p ∈ positions) (hdone : p.id ∉ done)
    (hopen : p.status = .«open» → p ∈ seen) (found : List Mismatch) (pairs : List (String × String)) :
    ∃ pairs', matchPositionStep ⟨positionsLeft seen done, found, pairs⟩ p =
      ⟨positionsLeft seen (p.id :: done), found ++ closedPosition seen p, pairs'⟩ := by
  obtain ⟨t, hne, hkey⟩ := h.key p hp
  have hfind := h.find?_left hp hkey hdone
  cases hstatus : p.status with
  | «open» =>
    have hseen := hopen hstatus
    have hself : seen.find? (fun q => q.id = p.id) = some p := by
      refine find?_of_unique hseen (decide_eq_true rfl) fun q hq hid => ?_
      exact List.inj_on_of_nodup_map h.seen_ids hq hseen (of_decide_eq_true hid)
    rw [hself, Option.map_some] at hfind
    have hmatch : matchPosition p (positionsLeft seen done) = (some (paperPosition p), []) := by
      simp [matchPosition, hkey, truthyText_some hne, hfind]
    refine ⟨pairs ++ [(p.id, (paperPosition p).providerPositionId)], ?_⟩
    have himage : (paperPosition p).providerPositionId = t := (h.image_key hp hseen hkey).mpr rfl
    simp only [matchPositionStep, hstatus, hmatch, takePosition, comparePositionFields_self, himage,
      h.left_cons hp hkey]
    simp [closedPosition, hstatus]
  | closed =>
    cases hseen : seen.find? fun q => q.id = p.id with
    | none =>
      rw [hseen, Option.map_none] at hfind
      have hids : ∀ q ∈ seen, q.id ≠ p.id := fun q hq => by simpa using List.find?_eq_none.mp hseen q hq
      refine ⟨pairs, ?_⟩
      have hnot : ¬ ∃ q ∈ seen, q.id = p.id := fun ⟨q, hq, hid⟩ => hids q hq hid
      simp [matchPositionStep, hstatus, hkey, truthyText_some hne, hfind, positionsLeft_cons_of_unseen hids,
        closedPosition, hnot]
    | some q =>
      rw [hseen, Option.map_some] at hfind
      have hqseen := List.mem_of_find?_eq_some hseen
      have hid : q.id = p.id := by simpa using List.find?_some hseen
      have himage : (paperPosition q).providerPositionId = t := (h.image_key hp hqseen hkey).mpr hid
      have hclosed : closedPosition seen p = [⟨.unexpected_provider_state, .error, .position, none, some p.id, none,
          p.providerPositionId, some "position_status"⟩] := if_pos ⟨hstatus, q, hqseen, hid⟩
      refine ⟨pairs ++ [(p.id, (paperPosition q).providerPositionId)], ?_⟩
      simp only [matchPositionStep, hstatus, hkey, truthyText_some hne, Option.bind_some, hfind, takePosition,
        himage, h.left_cons hp hkey, hclosed]

theorem PositionsOf.matchPositions_fold (h : PositionsOf positions seen) {rows : List LoadedPosition}
    (hrows : ∀ p ∈ rows, p ∈ positions) (hnodup : (rows.map LoadedPosition.id).Nodup)
    (hopen : ∀ p ∈ rows, p.status = .«open» → p ∈ seen) :
    ∃ pairs, rows.foldl matchPositionStep ⟨positionsLeft seen [], [], []⟩ =
      ⟨positionsLeft seen (rows.map LoadedPosition.id ++ []), [] ++ rows.flatMap (closedPosition seen), pairs⟩ :=
  matching_fold (fun xs ys hsame => by simp [positionsLeft, hsame])
    (fun p hp _ hnew => h.matchPositionStep_eq (hrows p hp) hnew (hopen p hp)) hnodup [] (by simp) [] []

theorem PositionsOf.matchPositions_eq (h : PositionsOf positions seen) :
    matchPositions positions (seen.map paperPosition) =
      positions.foldl matchPositionStep ⟨positionsLeft seen [], [], []⟩ := by
  unfold matchPositions
  rw [mapByKey_of_nodup h.seen_keys]
  simp [positionsLeft]

/-- **The findings about positions**, when every open one is in the snapshot, are the closed ones it
    shows open; no position of the snapshot is left. -/
theorem matchPositions_paper (h : PositionsOf positions seen)
    (hopen : ∀ p ∈ positions, p.status = .«open» → p ∈ seen) :
    (matchPositions positions (seen.map paperPosition)).findings = positions.flatMap (closedPosition seen) ∧
      (matchPositions positions (seen.map paperPosition)).unmatched = [] := by
  obtain ⟨pairs, hfold⟩ := h.matchPositions_fold (fun p hp => hp) h.ids hopen
  rw [h.matchPositions_eq, hfold]
  refine ⟨by simp, ?_⟩
  simp only [positionsLeft, List.map_eq_nil_iff, List.filter_eq_nil_iff]
  intro q hq
  obtain ⟨p, hp, hid, -⟩ := h.successor q hq
  simpa using ⟨p, hp, hid⟩

theorem matchPositionStep_findings (m : Matching ProviderPosition) (p : LoadedPosition) :
    m.findings <+: (matchPositionStep m p).findings := by
  unfold matchPositionStep
  split
  · split
    · exact List.prefix_append _ _
    · exact List.prefix_rfl
  · split
    · exact List.prefix_append _ _
    · simp

theorem matchPositions_findings (rows : List LoadedPosition) (m : Matching ProviderPosition) :
    m.findings <+: (rows.foldl matchPositionStep m).findings := by
  induction rows generalizing m with
  | nil => exact List.prefix_rfl
  | cons p rest ih => exact (matchPositionStep_findings m p).trans (ih _)

theorem matchPositionStep_none_left {m : Matching ProviderPosition} (hleft : m.unmatched = []) (hopen : p.status = .«open») :
    (matchPositionStep m p).findings ≠ [] := by
  have hmatch : matchPosition p [] = (none, []) := by
    unfold matchPosition
    cases truthyText p.providerPositionId <;> simp
  simp [matchPositionStep, hopen, hleft, hmatch]

/-- **An open row the snapshot lacks** is a finding when the rows of all the snapshot's positions come
    before it. -/
theorem matchPositions_unseen (h : PositionsOf positions seen) {before after : List LoadedPosition}
    (hsplit : positions = before ++ p :: after) (hopen : p.status = .«open»)
    (hbefore : ∀ q ∈ before, q.status = .«open» → q ∈ seen) (hall : ∀ q ∈ seen, ∃ r ∈ before, r.id = q.id) :
    (matchPositions positions (seen.map paperPosition)).findings ≠ [] := by
  have hids := h.ids
  rw [hsplit, List.map_append] at hids
  obtain ⟨pairs, hfold⟩ := h.matchPositions_fold (fun q hq => by rw [hsplit]; exact List.mem_append_left _ hq)
    hids.of_append_left hbefore
  have hleft : positionsLeft seen (before.map LoadedPosition.id ++ []) = [] := by
    simp only [positionsLeft, List.map_eq_nil_iff, List.filter_eq_nil_iff]
    intro q hq
    obtain ⟨r, hr, hid⟩ := hall q hq
    simpa using ⟨r, hr, hid⟩
  rw [h.matchPositions_eq, hsplit, List.foldl_append, List.foldl_cons, hfold]
  intro hnil
  have hprefix := matchPositions_findings after (matchPositionStep ⟨positionsLeft seen (before.map LoadedPosition.id ++ []),
    [] ++ before.flatMap (closedPosition seen), pairs⟩ p)
  rw [hnil] at hprefix
  exact matchPositionStep_none_left hleft hopen (List.prefix_nil.mp hprefix)

end Positions

end VeltrixEye.Reconciliation
