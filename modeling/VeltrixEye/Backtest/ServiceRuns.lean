import VeltrixEye.Backtest.Service
import VeltrixEye.Lib.Utf8

/-!
# One run per key

What holds of the tables and of every call after any interleaving of calls, and when a repeated request
gets the stored run.

* `BacktestTables.Keyed` — the primary key, the idempotency key and the reference of the trades.
* `repeated_backtest_returns_run_iff`.
-/

namespace VeltrixEye.Backtests

/-! ## What holds between two steps -/

structure BacktestTables.Keyed (d : BacktestTables) : Prop where
  ids : (d.runs.map BacktestRun.id).Nodup
  keys : (d.runs.map BacktestRun.key).Nodup
  owned : ∀ t ∈ d.trades, ∃ r ∈ d.runs, r.id = t.runId

variable {X : Type} (deps : BacktestDeps X)

/-- The run a call inserted and has not committed is new. -/
structure NewRun (d : BacktestTables) (args : CreateBacktestArgs) (run : BacktestRun) : Prop where
  asked : requestKey deps args = some run.key
  key : ∀ r ∈ d.runs, r.key ≠ run.key
  id : ∀ r ∈ d.runs, r.id ≠ run.id

/-- A call returned a stored run of its key with its trades. -/
structure Returned (d : BacktestTables) (args : CreateBacktestArgs) (result : CreateBacktestResult) :
    Prop where
  asked : requestKey deps args = some result.run.key
  stored : result.run ∈ d.runs
  trades : result.trades = d.tradesOf result.run.id

/-- What a call relies on. -/
def CallOk (d : BacktestTables) (call : BacktestCall) : Prop :=
  match call.stage with
  | .preparing => True
  | .locking p => requestKey deps call.args = some p.request.key
  | .counting p => requestKey deps call.args = some p.request.key
  | .inserting p => requestKey deps call.args = some p.request.key
  | .recording run _ => NewRun deps d call.args run
  | .committing run rows _ => NewRun deps d call.args run ∧ ∀ t ∈ rows, t.runId = run.id
  | .rereading run _ => requestKey deps call.args = some run.key ∧ run ∈ d.runs
  | .finding key => requestKey deps call.args = some key
  | .replaying run => requestKey deps call.args = some run.key ∧ run ∈ d.runs
  | .done result => Returned deps d call.args result
  | .failed _ => True

/-- Two calls hold neither the row of one user nor the id of one run. -/
structure Compatible (a b : BacktestCall) : Prop where
  user : ∀ userId, a.lockedUser = some userId → b.lockedUser ≠ some userId
  id : ∀ runId, a.pendingId = some runId → b.pendingId ≠ some runId

theorem Compatible.symm {a b : BacktestCall} (h : Compatible a b) : Compatible b a where
  user := fun userId hb ha => h.user userId ha hb
  id := fun runId hb ha => h.id runId ha hb

theorem compatible_of_none {a b : BacktestCall} (huser : a.lockedUser = none)
    (hid : a.pendingId = none) : Compatible a b where
  user := fun userId ha => by rw [huser] at ha; cases ha
  id := fun runId ha => by rw [hid] at ha; cases ha

variable {deps}

theorem requestKey_userId {args : CreateBacktestArgs} {key : RunKey}
    (h : requestKey deps args = some key) : key.userId = args.userId := by
  simp only [requestKey, Option.bind_eq_bind, Option.bind_eq_some_iff, Option.pure_def,
    Option.some.injEq] at h
  obtain ⟨_, -, _, -, _, -, _, -, rfl⟩ := h
  rfl

theorem resolveInstrument_eq {market : MarketStore} {instrument resolved : Instrument}
    (h : market.resolveInstrument instrument = some resolved) :
    resolved = ⟨instrument.assetClass, instrument.symbol.toUpper⟩ := by
  have := List.find?_some h
  simp only [decide_eq_true_eq] at this
  obtain ⟨assetClass, symbol⟩ := resolved
  simp only at this
  rw [this.1, this.2]

theorem validate_key {env : BacktestEnv} {args : CreateBacktestArgs} {request : ValidRequest}
    (h : validate deps env args = .ok request) : requestKey deps args = some request.key := by
  unfold validate at h
  split at h
  rotate_left
  · cases h
  rename_i instrument hinstrument
  split at h
  rotate_left
  · cases h
  rename_i fromMs hfrom
  split at h
  rotate_left
  · cases h
  rename_i toMs hto
  dsimp only at h
  split at h
  · cases h
  split at h
  rotate_left
  · cases h
  rename_i parsed hparsed
  split at h
  · cases h
  split at h
  rotate_left
  · cases h
  split at h
  · cases h
  split at h
  rotate_left
  · cases h
  split at h
  · cases h
  split at h
  rotate_left
  · cases h
  rename_i resolved hresolved
  cases h
  simp [requestKey, hinstrument, hfrom, hto, hparsed, resolveInstrument_eq hresolved]

/-! ## The commit -/

theorem tradesOf_commit {d : BacktestTables} {run r : BacktestRun} {rows : List BacktestTradeRow}
    (hrows : ∀ t ∈ rows, t.runId = run.id) (hne : r.id ≠ run.id) :
    (BacktestTables.mk (d.runs ++ [run]) (d.trades ++ rows)).tradesOf r.id = d.tradesOf r.id := by
  have hnone : rows.filter (fun t => t.runId = r.id) = [] := by
    rw [List.filter_eq_nil_iff]
    intro t ht hid
    rw [hrows t ht] at hid
    exact hne (of_decide_eq_true hid).symm
  unfold BacktestTables.tradesOf
  rw [List.filter_append, hnone, List.append_nil]

theorem NewRun.commit {d : BacktestTables} {args : CreateBacktestArgs} {run mine : BacktestRun}
    {rows : List BacktestTradeRow} (h : NewRun deps d args mine) (hkey : run.key ≠ mine.key)
    (hid : run.id ≠ mine.id) : NewRun deps ⟨d.runs ++ [run], d.trades ++ rows⟩ args mine where
  asked := h.asked
  key := by
    intro r hr
    rcases List.mem_append.mp hr with hr | hr
    · exact h.key r hr
    · rw [List.mem_singleton.mp hr]
      exact hkey
  id := by
    intro r hr
    rcases List.mem_append.mp hr with hr | hr
    · exact h.id r hr
    · rw [List.mem_singleton.mp hr]
      exact hid

theorem CallOk.commit {d : BacktestTables} {call other : BacktestCall} {run : BacktestRun}
    {rows : List BacktestTradeRow} (hnew : NewRun deps d call.args run)
    (hrows : ∀ t ∈ rows, t.runId = run.id) (hlock : call.lockedUser = some call.args.userId)
    (hpending : call.pendingId = some run.id) (hcompat : Compatible call other)
    (h : CallOk deps d other) : CallOk deps ⟨d.runs ++ [run], d.trades ++ rows⟩ other := by
  obtain ⟨args, stage⟩ := other
  -- Another call with an uncommitted run works for another user, under another id.
  have hother : ∀ mine : BacktestRun, NewRun deps d args mine →
      BacktestCall.lockedUser ⟨args, stage⟩ = some args.userId →
      BacktestCall.pendingId ⟨args, stage⟩ = some mine.id →
      NewRun deps ⟨d.runs ++ [run], d.trades ++ rows⟩ args mine := by
    intro mine hmine huser hid
    refine hmine.commit ?_ ?_
    · intro hkey
      refine hcompat.user _ hlock ?_
      rw [huser, ← requestKey_userId hmine.asked, ← hkey, requestKey_userId hnew.asked]
    · intro hsame
      exact hcompat.id _ hpending (by rw [hid, hsame])
  cases stage with
  | recording mine trades => exact hother mine h rfl rfl
  | committing mine rows' truncated => exact ⟨hother mine h.1 rfl rfl, h.2⟩
  | rereading mine truncated => exact ⟨h.1, List.mem_append_left _ h.2⟩
  | replaying mine => exact ⟨h.1, List.mem_append_left _ h.2⟩
  | done result =>
    refine ⟨h.asked, List.mem_append_left _ h.stored, ?_⟩
    rw [tradesOf_commit hrows (hnew.id _ h.stored)]
    exact h.trades
  | preparing => trivial
  | locking p => exact h
  | counting p => exact h
  | inserting p => exact h
  | finding key => exact h
  | failed error => trivial

theorem BacktestTables.Keyed.commit {d : BacktestTables} (hd : d.Keyed) {args : CreateBacktestArgs}
    {run : BacktestRun} {rows : List BacktestTradeRow} (hnew : NewRun deps d args run)
    (hrows : ∀ t ∈ rows, t.runId = run.id) :
    (BacktestTables.mk (d.runs ++ [run]) (d.trades ++ rows)).Keyed where
  ids := Rows.nodup_map_concat hd.ids hnew.id
  keys := Rows.nodup_map_concat hd.keys hnew.key
  owned := by
    intro t ht
    rcases List.mem_append.mp ht with ht | ht
    · obtain ⟨r, hr, hid⟩ := hd.owned t ht
      exact ⟨r, List.mem_append_left _ hr, hid⟩
    · exact ⟨run, List.mem_append_right _ List.mem_cons_self, (hrows t ht).symm⟩

/-! ## One step -/

theorem callStep_spec {env : BacktestEnv} {d : BacktestTables} {others : List BacktestCall}
    {call : BacktestCall} (h : CallOk deps d call) :
    CallOk deps (callTaskStep deps env d others call).1 (callTaskStep deps env d others call).2 ∧
      ((callTaskStep deps env d others call).1 = d ∨
        ∃ run rows, (callTaskStep deps env d others call).1 = ⟨d.runs ++ [run], d.trades ++ rows⟩ ∧
          NewRun deps d call.args run ∧ (∀ t ∈ rows, t.runId = run.id) ∧
          call.lockedUser = some call.args.userId ∧ call.pendingId = some run.id) := by
  obtain ⟨args, stage⟩ := call
  unfold callTaskStep callStep
  cases stage with
  | preparing =>
    dsimp only
    split
    · exact ⟨trivial, .inl rfl⟩
    · rename_i request hrequest
      split
      · exact ⟨trivial, .inl rfl⟩
      · exact ⟨validate_key hrequest, .inl rfl⟩
  | locking p =>
    dsimp only
    split
    · exact ⟨h, .inl rfl⟩
    · split
      · exact ⟨h, .inl rfl⟩
      · exact ⟨trivial, .inl rfl⟩
  | counting p =>
    dsimp only
    split
    · exact ⟨trivial, .inl rfl⟩
    · exact ⟨h, .inl rfl⟩
  | inserting p =>
    dsimp only
    split
    · exact ⟨trivial, .inl rfl⟩
    split
    · exact ⟨h, .inl rfl⟩
    rename_i hkey
    split
    · exact ⟨h, .inl rfl⟩
    split
    · exact ⟨trivial, .inl rfl⟩
    · rename_i hid
      refine ⟨⟨h, ?_, ?_⟩, .inl rfl⟩
      · simpa using hkey
      · simpa using hid
  | recording run trades =>
    dsimp only
    split
    · exact ⟨trivial, .inl rfl⟩
    rename_i stored _
    refine ⟨⟨h, ?_⟩, .inl rfl⟩
    intro t ht
    obtain ⟨trade, -, rfl⟩ := List.mem_map.mp ht
    rfl
  | committing run rows truncated =>
    refine ⟨⟨h.1.asked, List.mem_append_right _ List.mem_cons_self⟩, .inr ?_⟩
    exact ⟨run, rows, rfl, h.1, h.2, rfl, rfl⟩
  | rereading run truncated => exact ⟨⟨h.1, h.2, rfl⟩, .inl rfl⟩
  | finding key =>
    dsimp only
    split
    · rename_i existing hfind
      have hkey : existing.key = key := by simpa using List.find?_some hfind
      refine ⟨⟨?_, List.mem_of_find?_eq_some hfind⟩, .inl rfl⟩
      rw [hkey]
      exact h
    · exact ⟨trivial, .inl rfl⟩
  | replaying run => exact ⟨⟨h.1, h.2, rfl⟩, .inl rfl⟩
  | done result => exact ⟨h, .inl rfl⟩
  | failed error => exact ⟨trivial, .inl rfl⟩

theorem callStep_compatible {env : BacktestEnv} {d : BacktestTables} {others : List BacktestCall}
    {call other : BacktestCall} (hmem : other ∈ others) (h : Compatible call other) :
    Compatible (callTaskStep deps env d others call).2 other := by
  obtain ⟨args, stage⟩ := call
  have hnone : ∀ stage', BacktestCall.lockedUser ⟨args, stage'⟩ = none →
      BacktestCall.pendingId ⟨args, stage'⟩ = none → Compatible ⟨args, stage'⟩ other :=
    fun _ huser hid => compatible_of_none huser hid
  unfold callTaskStep callStep
  cases stage with
  | preparing =>
    dsimp only
    split
    · exact hnone _ rfl rfl
    · split <;> exact hnone _ rfl rfl
  | locking p =>
    dsimp only
    split
    · exact hnone _ rfl rfl
    rename_i hfree
    split
    · refine ⟨?_, fun _ hid => by cases hid⟩
      intro userId huser hother
      cases huser
      exact hfree (List.any_eq_true.mpr ⟨other, hmem, decide_eq_true hother⟩)
    · exact hnone _ rfl rfl
  | counting p =>
    dsimp only
    split
    · exact hnone _ rfl rfl
    · exact ⟨h.user, fun _ hid => by cases hid⟩
  | inserting p =>
    dsimp only
    split
    · exact hnone _ rfl rfl
    split
    · exact hnone _ rfl rfl
    split
    · exact ⟨h.user, h.id⟩
    rename_i hfree
    split
    · exact hnone _ rfl rfl
    · refine ⟨h.user, ?_⟩
      intro runId hid hother
      cases hid
      exact hfree (List.any_eq_true.mpr ⟨other, hmem, decide_eq_true hother⟩)
  | recording run trades =>
    dsimp only
    split
    · exact hnone _ rfl rfl
    · exact ⟨h.user, h.id⟩
  | committing run rows truncated => exact hnone _ rfl rfl
  | rereading run truncated => exact hnone _ rfl rfl
  | finding key =>
    dsimp only
    split <;> exact hnone _ rfl rfl
  | replaying run => exact hnone _ rfl rfl
  | done result => exact hnone _ rfl rfl
  | failed error => exact hnone _ rfl rfl

theorem failCall_spec {d : BacktestTables} {call : BacktestCall} (h : CallOk deps d call) :
    CallOk deps d (failCall call) ∧ (failCall call).lockedUser = none ∧
      (failCall call).pendingId = none := by
  obtain ⟨args, stage⟩ := call
  cases stage <;> first | exact ⟨h, rfl, rfl⟩ | exact ⟨trivial, rfl, rfl⟩

/-! ## Runs of the system -/

/-- The invariant of the system. -/
def SystemOk (deps : BacktestDeps X) : BacktestPool → Prop :=
  Pool.Safe BacktestTables.Keyed (CallOk deps) Compatible

/-- **One step keeps the invariant.** -/
theorem backtestStep_ok {p : BacktestPool} (hp : SystemOk deps p) (a : BacktestAction) :
    SystemOk deps (backtestStep deps p a) := by
  cases a with
  | create args =>
    exact Pool.safe_spawn hp trivial fun t _ =>
      ⟨compatible_of_none rfl rfl, (compatible_of_none rfl rfl).symm⟩
  | advance w env =>
    refine Pool.safe_advance hp w fun call r hget hr => ?_
    have hok := hp.task call (List.mem_of_getElem? hget)
    obtain ⟨hself, hwrote⟩ := @callStep_spec X deps env p.shared (p.others w) call hok
    rw [hr] at hself hwrote
    have hcompat : ∀ other ∈ p.others w, Compatible r.2 other ∧ Compatible other r.2 := by
      intro other hother
      have := @callStep_compatible X deps env p.shared _ _ _ hother (hp.other hget hother).2.1
      rw [hr] at this
      exact ⟨this, this.symm⟩
    rcases hwrote with hsame | ⟨run, rows, hsame, hnew, hrows, hlock, hpending⟩
    · refine ⟨?_, hself, fun other hother => ⟨?_, hcompat other hother⟩⟩
      · rw [hsame]
        exact hp.shared
      · rw [hsame]
        exact (hp.other hget hother).1
    · refine ⟨?_, hself, fun other hother => ⟨?_, hcompat other hother⟩⟩
      · rw [hsame]
        exact hp.shared.commit hnew hrows
      · rw [hsame]
        exact CallOk.commit hnew hrows hlock hpending (hp.other hget hother).2.1 (hp.other hget hother).1
  | fail w =>
    show Pool.Safe _ _ _ (p.advance (fun d _ t => (d, failCall t)) w)
    refine Pool.safe_advance hp w fun call r hget hr => ?_
    obtain ⟨hself, huser, hid⟩ := failCall_spec (hp.task call (List.mem_of_getElem? hget))
    rw [← hr]
    exact ⟨hp.shared, hself, fun other hother => ⟨(hp.other hget hother).1,
      compatible_of_none huser hid, (compatible_of_none huser hid).symm⟩⟩

/-! ## A repeated request -/

/-- What a repeated request has to pass before the stored run is looked for: its own validation, the
    caps and the engine over the candles that are stored now, the columns, and the monthly quota. -/
def Replayable (deps : BacktestDeps X) (env : BacktestEnv) (d : BacktestTables)
    (args : CreateBacktestArgs) : Prop :=
  ∃ request result, validate deps env args = .ok request ∧
    (∀ role, request.withinRoleCap env.market role = true) ∧
    request.run deps env.market = .ok result ∧ deps.metricsFit result.metrics = true ∧
    env.userExists = true ∧ d.countThisMonth args.userId env.monthStart < env.maxBacktestsPerMonth

/-- What is asked of a repeated request. -/
def ReturnsRun (deps : BacktestDeps X) (env : BacktestEnv) (d : BacktestTables)
    (args : CreateBacktestArgs) (r : BacktestRun) : Prop :=
  (createBacktest deps env d args).1 = d ∧
    ∃ truncated, (createBacktest deps env d args).2.stage.result? =
      some ⟨r, d.tradesOf r.id, truncated, false⟩

theorem replay_ok_iff {env : BacktestEnv} {request : ValidRequest} {result : BacktestEngineResult} :
    replay deps env request = .ok result ↔
      (∀ role, request.withinRoleCap env.market role = true) ∧
        request.run deps env.market = .ok result := by
  unfold replay
  constructor
  · intro h
    dsimp only at h
    split at h
    · cases h
    rename_i hsetup
    split at h
    · cases h
    rename_i hhtf
    split at h
    · cases h
    rename_i hentry
    refine ⟨?_, ?_⟩
    · intro role
      cases role
      · simpa using hhtf
      · simpa using hsetup
      · simpa using hentry
    · cases hrun : request.run deps env.market with
      | error e =>
        rw [hrun] at h
        cases h
      | ok out =>
        rw [hrun] at h
        cases h
        rfl
  · rintro ⟨hcaps, hrun⟩
    simp [hcaps .setup, hcaps .htf_bias, hcaps .entry, hrun, Except.mapError]

variable {env : BacktestEnv} {d : BacktestTables} {args : CreateBacktestArgs}

theorem createBacktest_not_prepared {e : BacktestServiceError}
    (h : (do let request ← validate deps env args; replay deps env request) = .error e) :
    (createBacktest deps env d args).2.stage = .failed e := by
  cases hvalid : validate deps env args with
  | error e' =>
    rw [hvalid] at h
    cases h
    simp [createBacktest, Nat.iterate, callTaskStep, callStep, hvalid]
  | ok request =>
    rw [hvalid] at h
    have hreplay : replay deps env request = .error e := h
    simp [createBacktest, Nat.iterate, callTaskStep, callStep, hvalid, hreplay]

theorem createBacktest_prepared {request : ValidRequest} {result : BacktestEngineResult}
    {r : BacktestRun} (hvalid : validate deps env args = .ok request)
    (hreplay : replay deps env request = .ok result)
    (hfind : d.findExistingRun request.key = some r) :
    createBacktest deps env d args =
      (d, ⟨args,
        if env.userExists = false then .failed .userNotFound
        else if env.maxBacktestsPerMonth ≤ d.countThisMonth args.userId env.monthStart then
          .failed .limitReached
        else if deps.metricsFit result.metrics = false then .failed .database
        else .done ⟨r, d.tradesOf r.id, (d.tradesOf r.id).length < r.metrics.setupsDetected, false⟩⟩) := by
  have hany : (d.runs.any fun x => x.key = request.key) = true := by
    have hkey := List.find?_some hfind
    exact List.any_eq_true.mpr ⟨r, List.mem_of_find?_eq_some hfind, hkey⟩
  cases huser : env.userExists with
  | false => simp [createBacktest, Nat.iterate, callTaskStep, callStep, hvalid, hreplay, huser]
  | true =>
    by_cases hmax : env.maxBacktestsPerMonth ≤ d.countThisMonth args.userId env.monthStart
    · simp [createBacktest, Nat.iterate, callTaskStep, callStep, hvalid, hreplay, huser, hmax]
    · cases hfit : deps.metricsFit result.metrics with
      | false =>
        simp [createBacktest, Nat.iterate, callTaskStep, callStep, hvalid, hreplay, huser, hmax, hfit]
      | true =>
        simp [createBacktest, Nat.iterate, callTaskStep, callStep, hvalid, hreplay, huser, hmax, hfit, hany,
          hfind]

/-- **A repeated request returns the stored run exactly if it is replayable.** -/
theorem returnsRun_iff (hd : d.Keyed) {r : BacktestRun} (hr : r ∈ d.runs)
    (hkey : requestKey deps args = some r.key) :
    ReturnsRun deps env d args r ↔ Replayable deps env d args := by
  have hfailed : ∀ {e : BacktestServiceError},
      (createBacktest deps env d args).2.stage = .failed e → ¬ReturnsRun deps env d args r := by
    rintro e hstage ⟨-, truncated, hdone⟩
    rw [hstage] at hdone
    cases hdone
  cases hvalid : validate deps env args with
  | error e =>
    refine iff_of_false (hfailed (createBacktest_not_prepared (by rw [hvalid]; rfl))) ?_
    rintro ⟨request, result, hrequest, -⟩
    rw [hvalid] at hrequest
    cases hrequest
  | ok request =>
    have hfind : d.findExistingRun request.key = some r := by
      have hsame : some request.key = some r.key := (validate_key hvalid).symm.trans hkey
      rw [Option.some.inj hsame]
      exact Rows.find?_key hd.keys hr
    cases hreplay : replay deps env request with
    | error e =>
      refine iff_of_false (hfailed (createBacktest_not_prepared (by rw [hvalid]; exact hreplay))) ?_
      rintro ⟨request', result, hrequest, hcaps, hrun, -⟩
      rw [hvalid] at hrequest
      cases hrequest
      rw [replay_ok_iff.mpr ⟨hcaps, hrun⟩] at hreplay
      cases hreplay
    | ok result =>
      have hcall := createBacktest_prepared hvalid hreplay hfind
      obtain ⟨hcaps, hrun⟩ := replay_ok_iff.mp hreplay
      have hreplayable : Replayable deps env d args ↔ deps.metricsFit result.metrics = true ∧
          env.userExists = true ∧
          d.countThisMonth args.userId env.monthStart < env.maxBacktestsPerMonth := by
        constructor
        · rintro ⟨request', result', hrequest, -, hrun', hrest⟩
          rw [hvalid] at hrequest
          cases hrequest
          rw [hrun] at hrun'
          cases hrun'
          exact hrest
        · intro hrest
          exact ⟨request, result, hvalid, hcaps, hrun, hrest⟩
      rw [hreplayable]
      unfold ReturnsRun
      rw [hcall]
      cases huser : env.userExists with
      | false => simp [CallStage.result?]
      | true =>
        by_cases hmax : env.maxBacktestsPerMonth ≤ d.countThisMonth args.userId env.monthStart
        · simp [CallStage.result?, hmax, Nat.not_lt.mpr hmax]
        · cases hfit : deps.metricsFit result.metrics with
          | false => simp [CallStage.result?, hmax]
          | true => simp [CallStage.result?, hmax, Nat.not_le.mp hmax]

/-! ## Repeated requests -/

/-- The text that is hashed for two parsed policies. -/
def hashedText (deps : BacktestDeps X) (exitPolicy : BacktestExitPolicy) (costPolicy : BacktestCostPolicy) :
    String := String.ofList (canonicalJson deps.numbers exitPolicy costPolicy)

theorem requestKey_policies {deps : BacktestDeps X} {args args' : CreateBacktestArgs}
    {exitPolicy exitPolicy' : BacktestExitPolicy} {costPolicy costPolicy' : BacktestCostPolicy}
    (hexit : parseExitPolicy args.exitPolicy = some exitPolicy)
    (hcost : parseCostPolicy args.costPolicy = some costPolicy)
    (hexit' : parseExitPolicy args'.exitPolicy = some exitPolicy')
    (hcost' : parseCostPolicy args'.costPolicy = some costPolicy')
    (hfree : deps.sha256 (hashedText deps exitPolicy costPolicy) =
      deps.sha256 (hashedText deps exitPolicy' costPolicy') →
        hashedText deps exitPolicy costPolicy = hashedText deps exitPolicy' costPolicy')
    {key : RunKey} (hkey : requestKey deps args = some key) (hkey' : requestKey deps args' = some key) :
    exitPolicy = exitPolicy' ∧ costPolicy = costPolicy' := by
  simp only [requestKey, computeConfigHash, hexit, hcost, Option.bind_eq_bind, Option.bind_some,
    Option.bind_eq_some_iff, Option.pure_def, Option.some.injEq] at hkey
  simp only [requestKey, computeConfigHash, hexit', hcost', Option.bind_eq_bind, Option.bind_some,
    Option.bind_eq_some_iff, Option.pure_def, Option.some.injEq] at hkey'
  obtain ⟨_, -, _, -, _, -, rfl⟩ := hkey
  obtain ⟨_, -, _, -, _, -, hsame⟩ := hkey'
  have hhash := hfree (congrArg RunKey.configHash hsame).symm
  exact canonicalJson_injective (String.ofList_injective hhash)

/-- **A repeated request returns the stored run exactly if it is replayable; in every interleaving no key
    has two runs and every successful call returns the run of its key; and policies that differ have keys
    that differ.** -/
theorem repeated_backtest_returns_run_iff (deps : BacktestDeps X) :
    (∀ (env : BacktestEnv) (d : BacktestTables) (args : CreateBacktestArgs) (r : BacktestRun),
      d.Keyed → r ∈ d.runs → requestKey deps args = some r.key →
        (ReturnsRun deps env d args r ↔ Replayable deps env d args)) ∧
    (∀ (d : BacktestTables) (as : List BacktestAction) (p : BacktestPool),
      d.Keyed → Runs.Reached (backtestStep deps) ⟨d, []⟩ as p →
        (∀ key, (p.shared.runs.filter fun r => r.key = key).length ≤ 1) ∧
        ∀ call ∈ p.tasks, ∀ result, call.stage.result? = some result →
          Returned deps p.shared call.args result) ∧
    ∀ (args args' : CreateBacktestArgs) (exitPolicy exitPolicy' : BacktestExitPolicy)
      (costPolicy costPolicy' : BacktestCostPolicy),
      parseExitPolicy args.exitPolicy = some exitPolicy →
      parseCostPolicy args.costPolicy = some costPolicy →
      parseExitPolicy args'.exitPolicy = some exitPolicy' →
      parseCostPolicy args'.costPolicy = some costPolicy' →
      (deps.sha256 (hashedText deps exitPolicy costPolicy) =
        deps.sha256 (hashedText deps exitPolicy' costPolicy') →
          hashedText deps exitPolicy costPolicy = hashedText deps exitPolicy' costPolicy') →
      (exitPolicy, costPolicy) ≠ (exitPolicy', costPolicy') →
      ∀ key, requestKey deps args = some key → requestKey deps args' ≠ some key := by
  refine ⟨?_, ?_, ?_⟩
  · intro env d args r hd hr hkey
    exact returnsRun_iff hd hr hkey
  · intro d as p hd hp
    have hstart : SystemOk deps ⟨d, []⟩ := ⟨hd, by simp, by simp⟩
    have hstep : ∀ (p : BacktestPool) (a : BacktestAction), SystemOk deps p →
        SystemOk deps (backtestStep deps p a) := fun _ a h => backtestStep_ok h a
    have hsystem : SystemOk deps p := Runs.inv_of_reached_always _ hstep hstart hp
    refine ⟨Rows.filter_key_length hsystem.shared.keys, ?_⟩
    intro call hcall result hresult
    have hok := hsystem.task call hcall
    obtain ⟨args, stage⟩ := call
    cases stage <;> simp only [CallStage.result?, Option.some.injEq, reduceCtorEq] at hresult
    rw [← hresult]
    exact hok
  · intro args args' exitPolicy exitPolicy' costPolicy costPolicy' hexit hcost hexit' hcost' hfree hne key
      hkey hkey'
    obtain ⟨rfl, rfl⟩ := requestKey_policies hexit hcost hexit' hcost' hfree hkey hkey'
    exact hne rfl

/-! ### A run that is asked for again -/

/-- Integers in decimal, other numbers as fractions. -/
def fractionText (q : ℚ) : List Char :=
  q.num.repr.toList ++ if q.den = 1 then [] else '/' :: (Nat.repr q.den).toList

theorem slash_notMem_repr (z : ℤ) : '/' ∉ z.repr.toList := by
  intro h
  rcases JsonText.digit_or_minus_of_mem_repr h with hdigit | hminus
  · revert hdigit
    decide
  · revert hminus
    decide

theorem fractionText_injective : Function.Injective fractionText := by
  intro q q' h
  unfold fractionText at h
  have hmem : '/' ∈ q.num.repr.toList ++ (if q.den = 1 then [] else '/' :: (Nat.repr q.den).toList) ↔
      '/' ∈ q'.num.repr.toList ++ (if q'.den = 1 then [] else '/' :: (Nat.repr q'.den).toList) := by
    rw [h]
  by_cases hden : q.den = 1
  · by_cases hden' : q'.den = 1
    · simp only [hden, hden', if_true, List.append_nil] at h
      have hnum := Int.repr_injective (String.toList_injective h)
      exact Rat.ext hnum (hden.trans hden'.symm)
    · simp [hden, hden', slash_notMem_repr] at hmem
  · by_cases hden' : q'.den = 1
    · simp [hden, hden', slash_notMem_repr] at hmem
    · simp only [hden, hden', if_false] at h
      obtain ⟨hnum, hrest⟩ := JsonText.append_cons_inj (slash_notMem_repr _) (slash_notMem_repr _) h
      exact Rat.ext (Int.repr_injective (String.toList_injective hnum))
        (Nat.repr_injective (String.toList_injective hrest))

theorem fractionText_plain (q : ℚ) : ∀ c ∈ fractionText q, c ≠ ',' ∧ c ≠ '}' := by
  intro c hc
  have hkind : c.isDigit = true ∨ c = '-' ∨ c = '/' := by
    unfold fractionText at hc
    rcases List.mem_append.mp hc with hnum | hden
    · rcases JsonText.digit_or_minus_of_mem_repr hnum with hdigit | hminus
      · exact .inl hdigit
      · exact .inr (.inl hminus)
    · split at hden
      · cases hden
      · rcases List.mem_cons.mp hden with hslash | hdigit
        · exact .inr (.inr hslash)
        · exact .inl (JsonText.digit_of_mem_repr hdigit)
  constructor
  · rintro rfl
    revert hkind
    decide
  · rintro rfl
    revert hkind
    decide

def sampleNumbers : NumberText := ⟨fractionText, fractionText_injective, fractionText_plain⟩

/-- The default policies, and the same with no target. -/
def defaultExitPolicy : BacktestExitPolicy := ⟨.level, .tp3, 100⟩

def noTargetPolicy : BacktestExitPolicy := ⟨.level, .none, 100⟩

def noCosts : BacktestCostPolicy := ⟨0, 0, 0, none⟩

/-- SHA-256 on the texts of these policies. -/
def sampleHash (text : String) : String :=
  if text = String.ofList (canonicalJson sampleNumbers defaultExitPolicy noCosts) then
    "a3e3f4cbb06dc981cbc6545294ccb2ee4c98babaf0cbce705abeea35461eb741"
  else if text = String.ofList (canonicalJson sampleNumbers noTargetPolicy noCosts) then
    "cafef39bcecaa16a54abbd691882fed458b13ed36e32943d2ad85c2dbbfb9f04"
  else text

def sampleDeps : BacktestDeps DirectionOutcome where
  engines := fun config => engineFunctions config flatScore
  numbers := sampleNumbers
  sha256 := sampleHash
  metricsFit := fun _ => true
  storeTrade := some

/-- A published version whose only condition reads the entry timeframe. -/
def entryVersion : StrategyVersion :=
  { sampleVersion with
    config := { sampleVersion.config with
      ruleGroups := [⟨"trigger", .and, [{ sampleRejection with timeframeRole := .role .entry }]⟩] } }

/-- The instruments, before any candle was stored. -/
def noCandles : MarketStore := ⟨[sampleInstrument], fun _ _ => ⟨[], noCandles_ascending⟩, fun _ => none⟩

/-- What the calls find beside the two tables, over the given candles. -/
def sampleEnv (market : MarketStore) : BacktestEnv where
  market
  versions := fun _ _ _ => some entryVersion
  userExists := true
  maxBacktestsPerMonth := 100
  now := 20000000
  monthStart := 0
  newId := Uuid.ofDigit 5

/-- A request for three hours, in small letters and with its policies left out or given. -/
def sampleRequest (exitPolicy : JsValue) : CreateBacktestArgs where
  userId := Uuid.ofDigit 1
  strategyId := Uuid.ofDigit 2
  versionId := Uuid.ofDigit 3
  instrument := ⟨"forex", " eurusd"⟩
  direction := none
  fromMs := .fin 3600000
  toMs := .fin 10800000
  exitPolicy := exitPolicy
  costPolicy := .null
  nowMs := 20000000

/-- The run that was stored before any candle was. -/
def storedRun : BacktestRun where
  id := Uuid.ofDigit 4
  key := ⟨Uuid.ofDigit 1, Uuid.ofDigit 3, sampleInstrument, .both, BACKTEST_ENGINE_VERSION, 3600000,
    10800000, "a3e3f4cbb06dc981cbc6545294ccb2ee4c98babaf0cbce705abeea35461eb741"⟩
  strategyId := Uuid.ofDigit 2
  exitPolicy := defaultExitPolicy
  costPolicy := noCosts
  metrics := computeMetrics [] 0 noCosts
  createdAt := 15000000

def oneRun : BacktestTables := ⟨[storedRun], []⟩

theorem oneRun_keyed : oneRun.Keyed :=
  ⟨List.nodup_singleton _, List.nodup_singleton _, fun t ht => by cases ht⟩

/-- The default exit policy, two of its fields spelled out. -/
def levelSpelled : JsValue :=
  .object [("maxHoldCandles", .number (.fin 100)), ("stopLoss", .string "level")]

theorem levelSpelled_sha : sampleHash (String.ofList (canonicalJson sampleNumbers defaultExitPolicy noCosts)) =
    storedRun.key.configHash := if_pos rfl

theorem levelSpelled_hash : computeConfigHash sampleNumbers sampleHash levelSpelled .null =
    some ⟨storedRun.key.configHash, defaultExitPolicy, noCosts⟩ := by
  have hpolicies : parseExitPolicy levelSpelled = some defaultExitPolicy ∧
      parseCostPolicy .null = some noCosts := by
    decide +kernel
  rw [computeConfigHash, hpolicies.1, hpolicies.2]
  simp only [Option.bind_eq_bind, Option.bind_some, levelSpelled_sha]
  rfl

theorem smallLetters_parsed : parseBacktestInstrument ⟨"forex", " eurusd"⟩ = some sampleInstrument := by
  decide +kernel

theorem sampleRequest_key : requestKey sampleDeps (sampleRequest levelSpelled) = some storedRun.key := by
  simp only [requestKey, sampleDeps, sampleRequest, smallLetters_parsed, levelSpelled_hash,
    Option.bind_eq_bind, Option.bind_some]
  decide +kernel

/-- The request, accepted. -/
def sampleValid : ValidRequest :=
  ⟨storedRun.key, entryVersion.config, ⟨.h4, .h1, .m15⟩, defaultExitPolicy, noCosts⟩

theorem sampleRequest_valid (market : MarketStore)
    (h : market.resolveInstrument sampleInstrument = some sampleInstrument) :
    validate sampleDeps (sampleEnv market) (sampleRequest levelSpelled) = .ok sampleValid := by
  have hhash : isValidConfigHash storedRun.key.configHash = true := by
    rw [isValidConfigHash, ← Utf8.chars_eq]
    decide +kernel
  simp only [validate, sampleDeps, sampleRequest, sampleEnv, smallLetters_parsed, levelSpelled_hash, hhash, h]
  rfl

/-- It is replayed until a candle of its setup role is there and none of its entry role. -/
theorem sampleReplays : (replay sampleDeps (sampleEnv noCandles) sampleValid).isOk = true ∧
    (replay sampleDeps (sampleEnv sampleStore) sampleValid).isOk = false := by
  decide +kernel

/-- Two requests for the run, one step of each in turn. -/
def twoRequests : List BacktestAction :=
  [.create (sampleRequest levelSpelled), .create (sampleRequest .undefined)] ++
    (List.replicate 8 [.advance 0 (sampleEnv noCandles), .advance 1 (sampleEnv noCandles)]).flatten

/-- The same request without a target. -/
def noTargetSpelled : JsValue := .object [("takeProfit", .string "none")]

/-- The theorem holds of the stored run while no candle was added, of two requests at once, and of a
    request without a target. -/
theorem stored_run_is_returned :
    Replayable sampleDeps (sampleEnv noCandles) oneRun (sampleRequest levelSpelled) ∧
      (∀ key, ((Runs.run (backtestStep sampleDeps) ⟨⟨[], []⟩, []⟩ twoRequests).shared.runs.filter
        fun r => r.key = key).length ≤ 1) ∧
      requestKey sampleDeps (sampleRequest noTargetSpelled) ≠ some storedRun.key := by
  obtain ⟨hrepeat, hruns, hpolicies⟩ := repeated_backtest_returns_run_iff sampleDeps
  have hvalid := sampleRequest_valid noCandles (by decide +kernel)
  refine ⟨?_, ?_, ?_⟩
  · apply (hrepeat (sampleEnv noCandles) oneRun (sampleRequest levelSpelled) storedRun oneRun_keyed
      List.mem_cons_self sampleRequest_key).mp
    cases hreplay : replay sampleDeps (sampleEnv noCandles) sampleValid with
    | error e => exact absurd sampleReplays.1 (by simp [hreplay, Except.isOk, Except.toBool])
    | ok result =>
      have hfind : oneRun.findExistingRun sampleValid.key = some storedRun :=
        List.find?_cons_of_pos (decide_eq_true rfl)
      rw [ReturnsRun, createBacktest_prepared hvalid hreplay hfind]
      exact ⟨rfl, false, rfl⟩
  · have hempty : (BacktestTables.mk [] []).Keyed :=
      ⟨List.nodup_nil, List.nodup_nil, fun t ht => by cases ht⟩
    exact (hruns _ twoRequests _ hempty (Runs.reached_last _ _ _)).1
  · refine hpolicies (sampleRequest levelSpelled) (sampleRequest noTargetSpelled) defaultExitPolicy
      noTargetPolicy noCosts noCosts (by decide +kernel) (by decide +kernel) (by decide +kernel)
      (by decide +kernel) ?_ (by decide) storedRun.key sampleRequest_key
    have htexts : String.ofList (canonicalJson sampleNumbers noTargetPolicy noCosts) ≠
        String.ofList (canonicalJson sampleNumbers defaultExitPolicy noCosts) := by
      rw [Ne, String.ofList_inj]
      decide +kernel
    have hhash : sampleHash (String.ofList (canonicalJson sampleNumbers noTargetPolicy noCosts)) =
        "cafef39bcecaa16a54abbd691882fed458b13ed36e32943d2ad85c2dbbfb9f04" := by
      rw [sampleHash, if_neg htexts, if_pos rfl]
    intro hsame
    simp only [sampleDeps, hashedText, levelSpelled_sha, hhash] at hsame
    revert hsame
    decide +kernel

/-- After a setup candle was stored, the repeated request is refused: the entry timeframe has none. -/
theorem added_candle_refuses_the_replay :
    ¬ ∀ (env : BacktestEnv) (d : BacktestTables) (args : CreateBacktestArgs) (r : BacktestRun),
      d.Keyed → r ∈ d.runs → requestKey sampleDeps args = some r.key →
        ReturnsRun sampleDeps env d args r := by
  intro h
  obtain ⟨-, hresult⟩ := h (sampleEnv sampleStore) oneRun (sampleRequest levelSpelled) storedRun
    oneRun_keyed List.mem_cons_self sampleRequest_key
  have hvalid := sampleRequest_valid sampleStore (by decide +kernel)
  cases hreplay : replay sampleDeps (sampleEnv sampleStore) sampleValid with
  | ok result => exact absurd sampleReplays.2 (by simp [hreplay, Except.isOk, Except.toBool])
  | error e =>
    rw [createBacktest_not_prepared (e := e) (by rw [hvalid]; exact hreplay)] at hresult
    obtain ⟨_, hdone⟩ := hresult
    cases hdone

end VeltrixEye.Backtests
