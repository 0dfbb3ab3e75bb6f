import UsageLedger.Proofs.BridgeMoves

/-!
# The accounts of a backlog

The backlog of a bridge keeps account of what happens around it: an event that comes while the
toggle is on is accepted or refused, a record that was accepted waits until its write is
finished, and what is refused is counted.  Nothing is inserted on behalf of the bridge but the
records whose writes are finished, each once.

## Main definitions

* `Host.Booked` — what became of events and records on the way from one host to another.
* `BalancedBacklog` — what the accounts of a run say.

## Main results

* `Host.HasBridge.booked_run` — **the accounts of a run.**
* `backlog_accounts_of_run` — **a bridge accounts for every event**, and a flush leaves nothing
  open. -/

namespace UsageLedger

namespace Host

variable {h h' h'' : Host} {id store limit : Nat}

/-! ### The accounts of a run -/

/-- What became of events and records on the way from one host to another. -/
structure Booked (id limit : Nat) (h h' : Host) (handled accepted refused written : List Record) :
    Prop where
  /-- What waits now, and what was written, is what waited before, and what was accepted. -/
  waiting : (h.waiting id ++ accepted).Perm (written ++ h'.waiting id)
  /-- What was refused was counted. -/
  dropped : h'.dropped id = h.dropped id + refused.length
  /-- What came while the toggle was on was accepted or refused. -/
  handled : handled.Perm (accepted ++ refused)
  /-- The limit is not passed. -/
  pending : h.pending id ≤ limit → h'.pending id ≤ limit

namespace Booked

variable {handled accepted refused written : List Record}

theorem idle (hwaiting : h'.waiting id = h.waiting id) (hdropped : h'.dropped id = h.dropped id) :
    Booked id limit h h' [] [] [] [] where
  waiting := by rw [hwaiting, List.append_nil, List.nil_append]
  dropped := hdropped
  handled := .refl _
  pending := fun hle => (congrArg List.length hwaiting).le.trans hle

theorem accept {r : Record} (hroom : h.pending id < limit)
    (hwaiting : h'.waiting id = h.waiting id ++ [r]) (hdropped : h'.dropped id = h.dropped id) :
    Booked id limit h h' [r] [r] [] [] where
  waiting := .of_eq hwaiting.symm
  dropped := hdropped
  handled := .refl _
  pending := by
    intro _
    unfold Host.pending at hroom ⊢
    rw [hwaiting, List.length_append, List.length_singleton]
    omega

theorem refuse {r : Record} (hwaiting : h'.waiting id = h.waiting id)
    (hdropped : h'.dropped id = h.dropped id + 1) : Booked id limit h h' [r] [] [r] [] where
  waiting := by rw [hwaiting, List.append_nil, List.nil_append]
  dropped := hdropped
  handled := .refl _
  pending := fun hle => (congrArg List.length hwaiting).le.trans hle

/-- A write was finished. -/
theorem finish {i : Nat} (hwaiting : h'.waiting id = (h.waiting id).eraseIdx i)
    (hdropped : h'.dropped id = h.dropped id) :
    Booked id limit h h' [] [] [] ((h.waiting id)[i]?).toList where
  waiting := by
    rw [hwaiting, List.append_nil]
    cases hget : (h.waiting id)[i]? with
    | none => rw [List.eraseIdx_of_length_le (List.getElem?_eq_none_iff.mp hget)]; exact .refl _
    | some r =>
      -- the record whose write is finished moves from those that wait to the front
      obtain ⟨hi, rfl⟩ := List.getElem?_eq_some_iff.mp hget
      exact (List.getElem_cons_eraseIdx_perm hi).symm
  dropped := hdropped
  handled := .refl _
  pending := by
    intro hle
    unfold Host.pending at hle ⊢
    rw [hwaiting]
    exact (List.length_eraseIdx_le _ _).trans hle

/-- One way after another. -/
theorem trans {handled' accepted' refused' written' : List Record}
    (hb : Booked id limit h h' handled accepted refused written)
    (hb' : Booked id limit h' h'' handled' accepted' refused' written') :
    Booked id limit h h'' (handled ++ handled') (accepted ++ accepted') (refused ++ refused')
      (written ++ written') where
  waiting := by
    rw [← List.append_assoc, List.append_assoc written]
    refine (hb.waiting.append_right accepted').trans ?_
    rw [List.append_assoc]
    exact hb'.waiting.append_left written
  dropped := by
    rw [hb'.dropped, hb.dropped, List.length_append, Nat.add_assoc]
  handled := by
    -- the records accepted on the second way move in front of those refused on the first
    refine (hb.handled.append hb'.handled).trans ?_
    rw [List.append_assoc, List.append_assoc]
    refine List.Perm.append_left accepted ?_
    rw [← List.append_assoc, ← List.append_assoc]
    exact List.perm_append_comm.append_right refused'
  pending := fun hle => hb'.pending (hb.pending hle)

end Booked

/-- **The accounts of a move.** -/
theorem HasBridge.booked_step (hb : h.HasBridge id store limit) (m : BridgeMove) :
    Booked id limit h (h.bridgeStep id m) (BridgeStep.handled id ⟨h, m⟩)
      (BridgeStep.accepted id ⟨h, m⟩) (BridgeStep.refused id ⟨h, m⟩)
      (BridgeStep.written id ⟨h, m⟩) := by
  have hlaw := hb.lawful m
  -- where no record is handled, none is accepted or refused
  have hnone : BridgeStep.handled id ⟨h, m⟩ = [] →
      BridgeStep.accepted id ⟨h, m⟩ = [] ∧ BridgeStep.refused id ⟨h, m⟩ = [] := by
    intro hhandled
    rw [BridgeStep.accepted, BridgeStep.refused, hhandled]
    exact ⟨ite_self _, ite_self _⟩
  cases m with
  | handle e c now =>
    cases hon : h.listens id with
    | false =>
      have hhandled : BridgeStep.handled id ⟨h, .handle e c now⟩ = [] := if_neg (by simp [hon])
      have hsame : h.bridgeStep id (.handle e c now) = h := hlaw.ignored e c now rfl hon
      rw [(hnone hhandled).1, (hnone hhandled).2, hhandled, hsame]
      exact .idle rfl rfl
    | true =>
      have hhandled : BridgeStep.handled id ⟨h, .handle e c now⟩ = [e.normalize c now] := if_pos hon
      by_cases hroom : h.pending id < limit
      · obtain ⟨haccepted, hrefused, hwaiting, hdropped⟩ := hlaw.accepted e c now rfl hon hroom
        rw [hhandled, haccepted, hrefused]
        exact .accept hroom hwaiting hdropped
      · obtain ⟨haccepted, hrefused, hwaiting, hdropped⟩ :=
          hlaw.refused e c now rfl hon (Nat.not_lt.mp hroom)
        rw [hhandled, haccepted, hrefused]
        exact .refuse hwaiting hdropped
  | finish i =>
    obtain ⟨hwaiting, hdropped⟩ := hlaw.finished i rfl
    rw [(hnone rfl).1, (hnone rfl).2]
    exact .finish hwaiting hdropped
  | _ =>
    obtain ⟨hwaiting, hdropped⟩ := hlaw.kept (by simp) (by simp)
    rw [(hnone rfl).1, (hnone rfl).2]
    exact .idle hwaiting hdropped

/-- **The accounts of a run.** -/
theorem HasBridge.booked_run (hb : h.HasBridge id store limit) (ms : List BridgeMove) :
    Booked id limit h (h.bridgeRun id ms) ((h.bridgeLog id ms).flatMap (BridgeStep.handled id))
      ((h.bridgeLog id ms).flatMap (BridgeStep.accepted id))
      ((h.bridgeLog id ms).flatMap (BridgeStep.refused id))
      ((h.bridgeLog id ms).flatMap (BridgeStep.written id)) := by
  induction ms generalizing h with
  | nil => exact .idle rfl rfl
  | cons m ms ih => exact (hb.booked_step m).trans (ih (hb.bridgeStep m))

end Host

/-- A run of a bridge with a limit, and the backlog at its end, agree. -/
structure BalancedBacklog (id limit : Nat) (log : List BridgeStep) (h : Host) : Prop where
  /-- Pending are the writes of the events that were accepted, without those that are finished. -/
  pending_eq : h.pending id + (log.flatMap (BridgeStep.written id)).length =
    (log.flatMap (BridgeStep.accepted id)).length
  /-- The limit is not passed. -/
  pending_le : h.pending id ≤ limit
  /-- Every event that was refused is counted. -/
  dropped_eq : h.dropped id = (log.flatMap (BridgeStep.refused id)).length
  /-- Every event that came while the toggle was on was accepted or refused. -/
  handled_perm : (log.flatMap (BridgeStep.handled id)).Perm
    (log.flatMap (BridgeStep.accepted id) ++ log.flatMap (BridgeStep.refused id))
  /-- Every record that was accepted is written once, or is waiting to be. -/
  accepted_perm : (log.flatMap (BridgeStep.accepted id)).Perm
    (log.flatMap (BridgeStep.written id) ++ h.waiting id)
  /-- Once nothing is pending, every record that was accepted is written once, and the events
  are those accepted and those counted as dropped. -/
  settled : h.pending id = 0 →
    (log.flatMap (BridgeStep.accepted id)).Perm (log.flatMap (BridgeStep.written id)) ∧
      (log.flatMap (BridgeStep.accepted id)).length + h.dropped id =
        (log.flatMap (BridgeStep.handled id)).length

/-- The accounts of a bridge that starts with an empty backlog balance. -/
theorem Host.Booked.balancedBacklog {h h' : Host} {id limit : Nat} {log : List BridgeStep}
    (hb : Host.Booked id limit h h' (log.flatMap (BridgeStep.handled id))
      (log.flatMap (BridgeStep.accepted id)) (log.flatMap (BridgeStep.refused id))
      (log.flatMap (BridgeStep.written id)))
    (hwaiting : h.waiting id = []) (hdropped : h.dropped id = 0) :
    BalancedBacklog id limit log h' := by
  have hperm := hb.waiting
  have hcount := hb.dropped
  rw [hwaiting, List.nil_append] at hperm
  rw [hdropped, Nat.zero_add] at hcount
  have hpending : h.pending id ≤ limit := by
    unfold Host.pending
    rw [hwaiting]
    exact Nat.zero_le _
  refine ⟨?_, hb.pending hpending, hcount, hb.handled, hperm, fun hidle => ⟨?_, ?_⟩⟩
  · have hlength := hperm.length_eq
    rw [List.length_append] at hlength
    unfold Host.pending
    omega
  · -- once nothing waits, all that was accepted is written
    have hnone : h'.waiting id = [] := List.eq_nil_of_length_eq_zero hidle
    rwa [hnone, List.append_nil] at hperm
  · have hlength := hb.handled.length_eq
    rw [List.length_append] at hlength
    omega

/-- **A bridge accounts for every event.**  A bridge with a store starts with an empty backlog;
then it, or clones of it, are given events, toggles are turned, and writes are finished, whether
they succeed or fail, in any order, while stores are asked for anything else and other users are
at work on files.  Every move keeps the law of the backlog, and after every run its accounts
balance.  What became of stores and files is due to what others did and to one insert for each
record whose write was finished.  A flush goes on with writes that are finished until nothing is
pending, and the accounts balance after it. -/
theorem backlog_accounts_of_run {h : Host} {id store maxPending : Nat} {b : Bridge}
    (hb : h.bridges[id]? = some b) (hstore : b.store = some store)
    (hnew : b.backlog = .ofLimit maxPending) (ms : List BridgeMove) :
    (∀ step ∈ h.bridgeLog id ms, step.Lawful id (max 1 maxPending)) ∧
      BalancedBacklog id (max 1 maxPending) (h.bridgeLog id ms) (h.bridgeRun id ms) ∧
      (h.storageRun ((h.bridgeLog id ms).flatMap (BridgeStep.storageMoves id store))).SameStorage
        (h.bridgeRun id ms) ∧
      ∃ n, (h.bridgeRun id ms).flush id = h.bridgeRun id (ms ++ List.replicate n (.finish 0)) ∧
        ((h.bridgeRun id ms).flush id).pending id = 0 ∧
        BalancedBacklog id (max 1 maxPending) (h.bridgeLog id (ms ++ List.replicate n (.finish 0)))
          ((h.bridgeRun id ms).flush id) := by
  have hbridged : h.HasBridge id store (max 1 maxPending) := ⟨b, hb, hstore, by rw [hnew]; rfl⟩
  have hwaiting : h.waiting id = [] := by rw [Host.waiting_of_bridge hb, hnew]; rfl
  have hdropped : h.dropped id = 0 := by rw [Host.dropped_of_bridge hb, hnew]; rfl
  have hbalanced : ∀ ms, BalancedBacklog id (max 1 maxPending) (h.bridgeLog id ms)
      (h.bridgeRun id ms) :=
    fun ms => (hbridged.booked_run ms).balancedBacklog hwaiting hdropped
  -- a flush goes on with the run, so its accounts are those of a longer one
  have hflush : (h.bridgeRun id ms).flush id =
      h.bridgeRun id (ms ++ List.replicate ((h.bridgeRun id ms).pending id) (.finish 0)) := by
    rw [Host.flush_eq_bridgeRun, Host.bridgeRun_append]
  obtain ⟨b', hb', hstore', -⟩ := hbridged.bridgeRun ms
  refine ⟨hbridged.lawful_log ms, hbalanced ms, hbridged.sameStorage_bridgeRun ms, _,
    hflush, ?_, ?_⟩
  · exact congrArg List.length (Host.waiting_flush hb' hstore')
  · exact hflush ▸ hbalanced _

/-- Of four events that come while the toggle is on one finds the backlog full, and one comes
while it is off; of two writes that are finished the second one fails, as the store was closed.
-/
def busyMoves : List BridgeMove :=
  [.handle {} {} .epoch, .handle { model := "model" } {} .epoch, .finish 0, .toggle 0 false,
    .handle { model := "unseen" } {} .epoch, .toggle 0 true, .handle { model := "model" } {} .epoch,
    .ask 0 .close, .finish 0, .handle {} {} .epoch]

/-- A bridge with room for one write accounts for these events. -/
theorem backlog_accounts_of_busyMoves :
    smallHost.bridges[0]? = some ⟨some 0, some 0, 0, .ofLimit 1⟩ ∧
      BalancedBacklog 0 (max 1 1) (smallHost.bridgeLog 0 busyMoves)
        (smallHost.bridgeRun 0 busyMoves) ∧
      ((smallHost.bridgeLog 0 busyMoves).flatMap (BridgeStep.handled 0)).length = 4 ∧
      ((smallHost.bridgeLog 0 busyMoves).flatMap (BridgeStep.accepted 0)).length = 3 ∧
      ((smallHost.bridgeLog 0 busyMoves).flatMap (BridgeStep.written 0)).length = 2 ∧
      (smallHost.bridgeRun 0 busyMoves).pending 0 = 1 ∧
      (smallHost.bridgeRun 0 busyMoves).dropped 0 = 1 ∧
      ((smallHost.bridgeRun 0 busyMoves).flush 0).pending 0 = 0 := by
  have hbridge : smallHost.bridges[0]? = some ⟨some 0, some 0, 0, .ofLimit 1⟩ := rfl
  obtain ⟨-, hbalanced, -, n, -, hidle, -⟩ := backlog_accounts_of_run hbridge rfl rfl busyMoves
  exact ⟨hbridge, hbalanced, by decide +kernel, by decide +kernel, by decide +kernel,
    by decide +kernel, by decide +kernel, hidle⟩

end UsageLedger
