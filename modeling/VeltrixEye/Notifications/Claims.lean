import VeltrixEye.Notifications.Fencing

/-!
# What a claim takes

* `due` — the rows of a table a claim may take.
* `chosen_perm`, `claimTable_length` — a claim on one table takes as many of them as its limit allows.
* `claimFirst_spec` — a claim of one job takes it from the first channel of its order that has one.
-/

namespace VeltrixEye.Notifications

variable {now : ℕ} {o o' : Outbox} {ch : NotificationChannel} {ctx : ClaimContext}

/-- The due claimable rows that no other transaction has locked. -/
def due (now : ℕ) (ctx : ClaimContext) (o : Outbox) (ch : NotificationChannel) : List JobRow :=
  (o.tables ch).filter (claimable now (ctx.locked ch))

/-- Every table has unique ids, and rows of its own channel. -/
structure Keyed (o : Outbox) : Prop where
  ids : ∀ ch, ((o.tables ch).map (·.id)).Nodup
  channels : ∀ ch, ∀ r ∈ o.tables ch, r.channel = ch

theorem OutboxOk.keyed {s : OutboxState} (h : OutboxOk s) : Keyed s.outbox := ⟨h.ids, h.channels⟩

/-! ## One table -/

theorem candidates_length (locked : Uuid → Bool) (scan : Scan) (limit : ℕ) (rows : List JobRow) :
    (candidates now locked scan limit rows).length =
      min limit (rows.filter (claimable now locked)).length := by
  unfold candidates
  rw [List.length_take, List.length_insertionSort]
  congr 1
  exact ((scan.perm rows).filter _).length_eq

theorem candidates_nodup {locked : Uuid → Bool} {scan : Scan} {limit : ℕ} {rows : List JobRow}
    (hids : (rows.map (·.id)).Nodup) : (candidates now locked scan limit rows).Nodup := by
  refine List.Nodup.sublist (List.take_sublist _ _) ?_
  rw [(List.perm_insertionSort _ _).nodup_iff]
  exact ((scan.perm rows).nodup_iff.mpr hids.of_map).filter _

theorem chosen_perm {locked : Uuid → Bool} {scan : Scan} {limit : ℕ} {rows : List JobRow}
    (hids : (rows.map (·.id)).Nodup) :
    (rows.filter fun r => (candidates now locked scan limit rows).any fun c => c.id = r.id).Perm
      (candidates now locked scan limit rows) := by
  rw [List.perm_ext_iff_of_nodup (hids.of_map.filter _) (candidates_nodup hids)]
  intro r
  rw [List.mem_filter, List.any_eq_true]
  constructor
  · rintro ⟨hr, c, hc, hid⟩
    rwa [← Rows.eq_of_key hids (mem_candidates hc).1 hr (of_decide_eq_true hid)]
  · exact fun hr => ⟨(mem_candidates hr).1, r, hr, decide_eq_true rfl⟩

variable (hkeyed : Keyed o)

include hkeyed in
theorem claimTable_length (second : Bool) (limit : ℕ) :
    (claimTable now ctx second ch limit o).2.length = min limit (due now ctx o ch).length := by
  unfold claimTable
  rw [List.length_map, (chosen_perm (hkeyed.ids ch)).length_eq, candidates_length]
  rfl

include hkeyed in
include hkeyed in
include hkeyed in
/-! ## One job -/

/-- A claim takes the one row `c` of the table. -/
structure Takes (now : ℕ) (ctx : ClaimContext) (ch : NotificationChannel) (o o' : Outbox)
    (jobs : List JobRow) (token : OwnerToken) (c : JobRow) : Prop where
  mem : c ∈ o.tables ch
  claimable : claimable now (ctx.locked ch) c = true
  jobs : jobs = [claimedRow now token c]
  tables : o'.tables = (o.setTable ch
    ((o.tables ch).map fun r => if c.id = r.id then claimedRow now token r else r)).tables

include hkeyed in
theorem claimTable_one :
    ((claimTable now ctx false ch 1 o).2 = [] ∧ (claimTable now ctx false ch 1 o).1 = o) ∨
      ∃ token c, Takes now ctx ch o (claimTable now ctx false ch 1 o).1
        (claimTable now ctx false ch 1 o).2 token c := by
  have hperm := @chosen_perm now (ctx.locked ch) ctx.scan 1 (o.tables ch) (hkeyed.ids ch)
  have hmem : ∀ c ∈ candidates now (ctx.locked ch) ctx.scan 1 (o.tables ch),
      c ∈ o.tables ch ∧ Notifications.claimable now (ctx.locked ch) c = true :=
    fun c hc => mem_candidates hc
  have hlength := @candidates_length now (ctx.locked ch) ctx.scan 1 (o.tables ch)
  unfold claimTable
  generalize candidates now (ctx.locked ch) ctx.scan 1 (o.tables ch) = chosen at hperm hmem hlength ⊢
  dsimp only
  match chosen, hlength with
  | [], _ =>
    left
    have hupdate := @update_unmatched o ch (fun _ => false)
      (claimedRow now ⟨ctx.workerId, ctx.uuid false ch⟩) fun _ _ => rfl
    exact ⟨by simp, by simpa [Outbox.update] using hupdate⟩
  | [c], _ =>
    right
    refine ⟨⟨ctx.workerId, ctx.uuid false ch⟩, c, (hmem c (by simp)).1, (hmem c (by simp)).2, ?_, ?_⟩
    · rw [List.perm_singleton.mp hperm]
      rfl
    · simp only [updateWhere, List.any_cons, List.any_nil, Bool.or_false, decide_eq_true_eq]
  | _ :: _ :: _, hlength =>
    rw [List.length_cons, List.length_cons] at hlength
    omega

theorem recordFairnessClaims_ledger (counts : NotificationChannel → ℕ) (h : o.ledger = o'.ledger) :
    (recordFairnessClaims counts o).ledger = (recordFairnessClaims counts o').ledger := by
  unfold recordFairnessClaims
  split
  · exact h
  · simp only [h]

include hkeyed in
theorem claimFirst_spec (queues : List NotificationChannel) :
    ((claimFirst now ctx o queues).2 = [] ∧ (claimFirst now ctx o queues).1 = o ∧
        ∀ ch ∈ queues, due now ctx o ch = []) ∨
      ∃ before ch after token c, queues = before ++ ch :: after ∧
        (∀ ch' ∈ before, due now ctx o ch' = []) ∧
        Takes now ctx ch o (claimFirst now ctx o queues).1 (claimFirst now ctx o queues).2 token c ∧
        (claimFirst now ctx o queues).1.ledger =
          (recordFairnessClaims (fun c => if c = ch then 1 else 0) o).ledger := by
  induction queues with
  | nil => exact .inl ⟨rfl, rfl, by simp⟩
  | cons ch rest ih =>
    have hlength := @claimTable_length now o ch ctx hkeyed false 1
    rcases @claimTable_one now o ch ctx hkeyed with
      ⟨hjobs, -⟩ | ⟨token, c, htakes⟩
    · have hnone : due now ctx o ch = [] := by
        rw [hjobs, List.length_nil] at hlength
        exact List.length_eq_zero_iff.mp (by omega)
      rw [claimFirst, hjobs]
      rcases ih with ⟨hjobs, ho, hrest⟩ | ⟨before, ch', after, token, c, rfl, hbefore, htakes, hledger⟩
      · exact .inl ⟨hjobs, ho, by simpa using ⟨hnone, hrest⟩⟩
      · exact .inr ⟨ch :: before, ch', after, token, c, rfl, by simpa using ⟨hnone, hbefore⟩, htakes,
          hledger⟩
    · right
      refine ⟨[], ch, rest, token, c, rfl, by simp, ?_⟩
      have hledger : (claimTable now ctx false ch 1 o).1.ledger = o.ledger := rfl
      have hfirst : claimFirst now ctx o (ch :: rest) =
          (recordFairnessClaims (fun c => if c = ch then 1 else 0) (claimTable now ctx false ch 1 o).1,
            (claimTable now ctx false ch 1 o).2) := by
        rw [claimFirst, htakes.jobs]
      rw [hfirst]
      refine ⟨⟨htakes.mem, htakes.claimable, htakes.jobs, ?_⟩, recordFairnessClaims_ledger _ hledger⟩
      rw [recordFairnessClaims_tables]
      exact htakes.tables

theorem claimBatch_one (o : Outbox) :
    claimBatch now ctx 1 o = claimFirst now ctx o (sortedQueues o.ledger) := rfl

end VeltrixEye.Notifications
