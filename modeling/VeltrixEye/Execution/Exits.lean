import VeltrixEye.Execution.FillTransaction
import VeltrixEye.Execution.Sweep

/-!
# Concurrent exits of one position (`submitExitOrder`)

Any number of exit attempts on one position, from sweeps (`stop_loss`, `take_profit`) and from
manual closes (`close`), interleaved in any order.  An attempt loads the open position, makes the
pre-check of `submitExitOrder` and then runs the fill transaction; each of the three is one step.
Different exit kinds have different order ids, so the unique index does not serialize them: what
does is the row lock, the already-closed branch and the reconciliation inside the transaction.

Principal result: `exits_close_position_once` — over every interleaving the position is closed at
most once, by one transaction, and every other attempt leaves the tables as it found them.
-/

namespace VeltrixEye

open Runs

/-! ## One attempt -/

/-- What an exit attempt brings along: the joined columns of the load, the exit it was evaluated
    to and the ids its rows would get. -/
structure ExitAttempt where
  instrumentId : Option String
  openingDecision : Option ExecutionDecision
  timeframe : Option Timeframe
  kind : PaperExitReason
  referencePrice : JsNumber
  referencePriceMs : ℤ
  spec : InstrumentRiskSpec
  createdMs : ℤ
  fresh : Fresh

def ExitAttempt.position (a : ExitAttempt) (row : PositionRow) : LoadedPosition :=
  { row with
    instrumentId := a.instrumentId
    openingDecision := a.openingDecision
    timeframe := a.timeframe }

def ExitAttempt.request (a : ExitAttempt) (row : PositionRow) : ExitRequest :=
  ⟨row.id, a.kind, .fin row.quantity.toRat, a.referencePrice, a.referencePriceMs⟩

/-- The identity all exits of a position share. -/
def exitIdentity (env : PaperEnv) (position : LoadedPosition) : String :=
  env.identityHash position.userId (position.setupId.getD position.id) position.executionProfileId
    .close_position

/-- `Number(column)`: a missing level reads as zero. -/
def levelNumber (level : Option (Numeric 24 10)) : ℚ := (level.map Numeric.toRat).getD 0

/-- The authorization `submitExitOrder` creates. -/
def exitAuthorization (env : PaperEnv) (position : LoadedPosition) (opening : ExecutionDecision)
    (request : ExitRequest) (spec : InstrumentRiskSpec) (createdMs : ℤ) : PaperAuthorization where
  userId := position.userId
  executionProfileId := position.executionProfileId
  setupId := position.setupId.getD position.id
  assetClass := position.assetClass
  symbol := position.symbol
  side := if position.direction = .long then .sell else .buy
  kind := request.kind.fillType
  quantity := request.quantity
  clientOrderId := paperClientOrderId (exitIdentity env position) request.kind.fillType
  idempotencyKey := env.orderIdempotencyKey (exitIdentity env position) request.kind.fillType 1
  decision := { opening with
    action := .close_position
    entryPrice := position.averageEntryPrice.toRat
    stopLossPrice := levelNumber position.stopLossPrice
    takeProfitPrice := levelNumber position.takeProfitPrice }
  positionId := some position.id
  positionKey := exitIdentity env position
  referencePrice := request.referencePrice
  referencePriceMs := request.referencePriceMs
  spec := spec
  createdMs := createdMs

/-- The pre-check of `submitExitOrder`: an existing exit order is replayed, a position without its
    opening decision is refused. -/
def exitPrecheck (env : PaperEnv) (db : Db) (position : LoadedPosition) (request : ExitRequest)
    (spec : InstrumentRiskSpec) (createdMs : ℤ) : Option PaperAuthorization :=
  match db.order? (paperClientOrderId (exitIdentity env position) request.kind.fillType) with
  | some _ => none
  | none => position.openingDecision.map fun opening =>
      exitAuthorization env position opening request spec createdMs

/-! ## Interleavings -/

inductive ExitPhase where
  | idle
  | loaded (row : PositionRow)
  | authorized (auth : PaperAuthorization)
  | finished

structure ExitState where
  db : Db
  phase : ℕ → ExitPhase

/-- The steps of the attempts.  `refuse` is an authorization that `submitAuthorizedOrder` turns
    down (expired before it was used). -/
inductive ExitAction where
  | load (i : ℕ)
  | precheck (i : ℕ)
  | refuse (i : ℕ)
  | submit (i : ℕ)

def ExitState.start (db : Db) : ExitState := ⟨db, fun _ => .idle⟩

def ExitState.setPhase (s : ExitState) (i : ℕ) (ph : ExitPhase) : ExitState :=
  { s with phase := fun j => if j = i then ph else s.phase j }

/-- Both callers go on with an open position only. -/
def loadPhase (db : Db) (positionId : String) : ExitPhase :=
  match db.position? positionId with
  | some row => if row.status = .«open» then .loaded row else .finished
  | none => .finished

def precheckPhase (env : PaperEnv) (a : ExitAttempt) (db : Db) (row : PositionRow) : ExitPhase :=
  match exitPrecheck env db (a.position row) (a.request row) a.spec a.createdMs with
  | some auth => .authorized auth
  | none => .finished

/-- One step of one attempt; a step that is not due does nothing. -/
def exitStep (env : PaperEnv) (positionId : String) (attempts : ℕ → ExitAttempt) (s : ExitState) :
    ExitAction → ExitState
  | .load i =>
    match s.phase i with
    | .idle => s.setPhase i (loadPhase s.db positionId)
    | _ => s
  | .precheck i =>
    match s.phase i with
    | .loaded row => s.setPhase i (precheckPhase env (attempts i) s.db row)
    | _ => s
  | .refuse i =>
    match s.phase i with
    | .authorized _ => s.setPhase i .finished
    | _ => s
  | .submit i =>
    match s.phase i with
    | .authorized auth =>
      { db := (runFillTransaction env .off auth (attempts i).fresh s.db).2
        phase := (s.setPhase i .finished).phase }
    | _ => s

/-! ## At most one exit -/

/-- One exit of `p` happened between `db` and `db'`, and nothing else: one filled order, one exit
    fill, the position closed with its net P&L, and that P&L posted to the account once. -/
structure ClosedOnce (env : PaperEnv) (p : PositionRow) (db db' : Db) : Prop where
  order : ∃ o, o.status = .filled ∧ db'.orders = db.orders ++ [o]
  fill : ∃ f, f.positionId = some p.id ∧ f.fillType ≠ .entry ∧ db'.fills = db.fills ++ [f]
  one_exit_fill : (db'.exitFills p.id).length = 1
  closed : ∃ (row : PositionRow) (net : Dec) (account : AccountRow) (nowMs dbNow : ℤ),
    row.id = p.id ∧ row.status = .closed ∧ row.realizedPl.map Numeric.toRat = some net.toRat ∧
    db'.positions = (db.setPosition row).positions ∧
    recordRealizedPlInTransaction (db.accounts p.userId p.executionProfileId) (env.paperEquity p.userId)
      (.fin net.toRat) nowMs dbNow = .ok account ∧
    account.cumulativeRealizedPl.toRat = Rounding.halfAway
      ((cumulativeOf (db.accounts p.userId p.executionProfileId) + net.toRat) * 10 ^ 4) / 10 ^ 4 ∧
    db'.accounts = fun u pr =>
      if u = p.userId ∧ pr = p.executionProfileId then some account else db.accounts u pr

section Once

variable {env : PaperEnv} {attempts : ℕ → ExitAttempt} {p : PositionRow} {db db' : Db}

theorem ClosedOnce.status_closed (h : ClosedOnce env p db db') {q : PositionRow}
    (hq : db'.position? p.id = some q) : q.status = .closed := by
  obtain ⟨row, net, account, nowMs, dbNow, hid, hstatus, -, hpositions, -⟩ := h.closed
  obtain ⟨hmem, hqid⟩ := Db.position?_eq_some hq
  rw [hpositions] at hmem
  rcases Db.mem_setPosition hmem with rfl | ⟨-, hne⟩
  · exact hstatus
  · exact absurd (hqid.trans hid.symm) hne

/-- What an authorized exit attempt is about. -/
structure ExitsPosition (p : PositionRow) (auth : PaperAuthorization) : Prop where
  positionId_eq : auth.positionId = some p.id
  userId_eq : auth.userId = p.userId
  executionProfileId_eq : auth.executionProfileId = p.executionProfileId
  kind_ne : auth.kind ≠ .entry

/-- **One transaction of an exit attempt** changes nothing, or closes the position it found open. -/
theorem runFillTransaction_exit {auth : PaperAuthorization} {fresh : Fresh} (hcons : Consistent db)
    (hauth : ExitsPosition p auth) :
    (runFillTransaction env .off auth fresh db).2 = db ∨
      ((∃ q, db.position? p.id = some q ∧ q.status = .«open») ∧
        ClosedOnce env p db (runFillTransaction env .off auth fresh db).2) := by
  have hcase : RunCase env .off auth fresh db (runFillTransaction env .off auth fresh db).2 :=
    runFillTransaction_cases hcons
  have hcons' : Consistent (runFillTransaction env .off auth fresh db).2 := hcase.consistent hcons
  generalize (runFillTransaction env .off auth fresh db).2 = db' at hcase hcons'
  cases hcase with
  | unchanged => exact .inl rfl
  | failed order hmode _ _ => cases hmode
  | entry order fill row fillRow hkind => exact absurd hkind hauth.kind_ne
  | exit order fill reason position row net account fillRow hkind hins hstatus _ htarget hfound hopen
      hclosed hposted hfill =>
    right
    have hid : position.id = p.id := Option.some.inj (htarget.symm.trans hauth.positionId_eq)
    have hfrom := closedRow_ok hclosed
    rw [hauth.userId_eq, hauth.executionProfileId_eq] at hposted
    refine ⟨⟨position, hid ▸ hfound, hopen⟩, ⟨order, hstatus, rfl⟩, ⟨fillRow, ?_, ?_, rfl⟩, ?_, ?_⟩
    · rw [hfill.positionId_eq, hid]
    · rw [hfill.fillType_eq]
      exact hauth.kind_ne
    · have hmem : row ∈ (db.setPosition row).positions := by
        refine List.mem_map.mpr ⟨position, (Db.position?_eq_some hfound).1, ?_⟩
        rw [if_pos hfrom.id_eq.symm]
      have hone := hcons'.closed_exit row hmem hfrom.status_eq
      rw [hfrom.id_eq, hid] at hone
      exact hone
    · refine ⟨row, net, account, auth.createdMs, fresh.dbNow, hfrom.id_eq.trans hid, hfrom.status_eq,
        hfrom.realizedPl_eq, rfl, hposted, record_cumulative hposted, ?_⟩
      rw [hauth.userId_eq, hauth.executionProfileId_eq]

/-- What holds in every state of a run that starts with `p` open in `db`. -/
structure ExitInv (env : PaperEnv) (p : PositionRow) (db : Db) (s : ExitState) : Prop where
  consistent : Consistent s.db
  once : s.db = db ∨ ClosedOnce env p db s.db
  loaded : ∀ i row, s.phase i = .loaded row → row = p
  authorized : ∀ i auth, s.phase i = .authorized auth → ExitsPosition p auth

theorem ExitInv.setPhase {s : ExitState} (h : ExitInv env p db s) {i : ℕ} {ph : ExitPhase}
    (hloaded : ∀ row, ph = .loaded row → row = p)
    (hauthorized : ∀ auth, ph = .authorized auth → ExitsPosition p auth) :
    ExitInv env p db (s.setPhase i ph) where
  consistent := h.consistent
  once := h.once
  loaded j row hj := by
    simp only [ExitState.setPhase] at hj
    split at hj
    · exact hloaded row hj
    · exact h.loaded j row hj
  authorized j auth hj := by
    simp only [ExitState.setPhase] at hj
    split at hj
    · exact hauthorized auth hj
    · exact h.authorized j auth hj

theorem ExitInv.loadPhase_eq {s : ExitState} (h : ExitInv env p db s) (hcons : Consistent db)
    (hp : p ∈ db.positions) {row : PositionRow} (hrow : loadPhase s.db p.id = .loaded row) : row = p := by
  unfold loadPhase at hrow
  split at hrow
  · rename_i q hq
    split at hrow
    · rename_i hopen
      cases hrow
      rcases h.once with hdb | honce
      · rw [hdb, hcons.position?_of_mem hp] at hq
        exact (Option.some.inj hq).symm
      · rw [honce.status_closed hq] at hopen
        cases hopen
    · cases hrow
  · cases hrow

theorem precheckPhase_authorized {a : ExitAttempt} {auth : PaperAuthorization}
    (h : precheckPhase env a db p = .authorized auth) : ExitsPosition p auth := by
  unfold precheckPhase exitPrecheck at h
  split at h
  · rename_i auth' hauth
    cases h
    split at hauth
    · cases hauth
    · obtain ⟨opening, -, rfl⟩ := Option.map_eq_some_iff.mp hauth
      exact ⟨rfl, rfl, rfl, PaperExitReason.fillType_ne_entry _⟩
  · cases h

/-- **One step:** the tables stay as they are, or the position is closed for the first time. -/
theorem exitStep_db {s : ExitState} (h : ExitInv env p db s) (a : ExitAction) :
    (exitStep env p.id attempts s a).db = s.db ∨
      (s.db = db ∧ ClosedOnce env p db (exitStep env p.id attempts s a).db) := by
  cases a with
  | submit i =>
    cases hphase : s.phase i with
    | authorized auth =>
      simp only [exitStep, hphase]
      have hexit := @runFillTransaction_exit env p s.db auth (attempts i).fresh h.consistent
        (h.authorized i auth hphase)
      rcases hexit with hsame | ⟨⟨q, hq, hqopen⟩, honce⟩
      · exact .inl hsame
      · rcases h.once with hdb | hclosed
        · rw [hdb] at honce ⊢
          exact .inr ⟨rfl, honce⟩
        · rw [hclosed.status_closed hq] at hqopen
          cases hqopen
    | _ => simp [exitStep, hphase]
  | load i => cases hphase : s.phase i <;> simp [exitStep, hphase, ExitState.setPhase]
  | precheck i => cases hphase : s.phase i <;> simp [exitStep, hphase, ExitState.setPhase]
  | refuse i => cases hphase : s.phase i <;> simp [exitStep, hphase, ExitState.setPhase]

theorem exitStep_inv {s : ExitState} (hcons : Consistent db) (hp : p ∈ db.positions)
    (h : ExitInv env p db s) (a : ExitAction) : ExitInv env p db (exitStep env p.id attempts s a) := by
  cases a with
  | load i =>
    cases hphase : s.phase i with
    | idle =>
      simp only [exitStep, hphase]
      refine h.setPhase (fun row hrow => h.loadPhase_eq hcons hp hrow) fun auth hauth => ?_
      unfold loadPhase at hauth
      split at hauth
      · split at hauth <;> cases hauth
      · cases hauth
    | _ => simpa [exitStep, hphase] using h
  | precheck i =>
    cases hphase : s.phase i with
    | loaded row =>
      obtain rfl := h.loaded i row hphase
      simp only [exitStep, hphase]
      refine h.setPhase (fun row hrow => ?_) fun auth hauth => precheckPhase_authorized hauth
      unfold precheckPhase at hrow
      split at hrow <;> cases hrow
    | _ => simpa [exitStep, hphase] using h
  | refuse i =>
    cases hphase : s.phase i with
    | authorized auth =>
      simp only [exitStep, hphase]
      exact h.setPhase (fun _ hrow => by cases hrow) fun _ hauth => by cases hauth
    | _ => simpa [exitStep, hphase] using h
  | submit i =>
    cases hphase : s.phase i with
    | authorized auth =>
      have hstep : (exitStep env p.id attempts s (.submit i)).db = s.db ∨
          (s.db = db ∧ ClosedOnce env p db (exitStep env p.id attempts s (.submit i)).db) :=
        exitStep_db h (.submit i)
      have hfinished : ExitInv env p db (s.setPhase i .finished) :=
        h.setPhase (fun _ hrow => by cases hrow) fun _ hauth => by cases hauth
      simp only [exitStep, hphase] at hstep ⊢
      refine ⟨runFillTransaction_consistent h.consistent, ?_, hfinished.loaded, hfinished.authorized⟩
      rcases hstep with hsame | ⟨-, honce⟩
      · rw [hsame]
        exact h.once
      · exact .inr honce
    | _ => simpa [exitStep, hphase] using h

/-- **A position exits once.**  Over every interleaving of any number of exit attempts on a
    position, every state reached has the initial tables or those after exactly one exit: one filled
    order, one exit fill, the position closed and its net P&L posted once.  Every step leaves the
    tables as it found them unless it is that one exit. -/
theorem exits_close_position_once (env : PaperEnv) (attempts : ℕ → ExitAttempt) {db : Db}
    (hcons : Consistent db) {p : PositionRow} (hp : p ∈ db.positions) (acts : List ExitAction)
    {t : ExitState} (ht : Reached (exitStep env p.id attempts) (.start db) acts t) :
    (t.db = db ∨ ClosedOnce env p db t.db) ∧
      ∀ a, (exitStep env p.id attempts t a).db = t.db ∨
        (t.db = db ∧ ClosedOnce env p db (exitStep env p.id attempts t a).db) := by
  have hstart : ExitInv env p db (.start db) := by
    refine ⟨hcons, .inl rfl, fun _ _ h => ?_, fun _ _ h => ?_⟩ <;> cases h
  have hstep : ∀ s a, ExitInv env p db s → ExitInv env p db (exitStep env p.id attempts s a) :=
    fun s a hs => exitStep_inv hcons hp hs a
  have hinv : ExitInv env p db t := inv_of_reached_always _ hstep hstart ht
  exact ⟨hinv.once, fun a => exitStep_db hinv a⟩

end Once

/-- Attempt 0 is a sweep that found the stop touched, every other one a manual close at 1.08. -/
def sampleAttempts (i : ℕ) : ExitAttempt where
  instrumentId := some "eurusd"
  openingDecision := some sampleDecision
  timeframe := some .m1
  kind := if i = 0 then .stop_loss else .close
  referencePrice := if i = 0 then .fin (105 / 100) else .fin (108 / 100)
  referencePriceMs := 120000
  spec := sampleSpec
  createdMs := 120000
  fresh := ⟨"order-2", "fill-2", "position-2", 120000⟩

/-- Both attempts pass the pre-check before either transaction runs; the second one to commit
    finds the position closed. -/
theorem sweep_and_close_exit_once :
    let acts : List ExitAction := [.load 0, .load 1, .precheck 0, .precheck 1, .submit 1, .submit 0]
    let t := run (exitStep sampleEnv samplePosition.id sampleAttempts) (.start sampleDb) acts
    (t.db = sampleDb ∨ ClosedOnce sampleEnv samplePosition sampleDb t.db) ∧
      t.db.positions.map PositionRow.status = [.closed] := by
  refine ⟨(exits_close_position_once sampleEnv sampleAttempts sampleDb_consistent
    (by simp [sampleDb_positions]) _ (reached_last _ _ _)).1, ?_⟩
  decide +kernel

end VeltrixEye
