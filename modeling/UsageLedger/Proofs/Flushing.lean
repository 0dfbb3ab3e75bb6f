import UsageLedger.Proofs.Delivering

/-!
# Traffic and its flush

Events are published to a dispatcher, and their writes are finished in whatever order, also
while an event is being passed on.  All of it is a row of pulses, in which every event is
counted once and handed over once; and so is the flush after it, which leaves nothing waiting.

## Main results

* `Host.run_eq_pulses` — traffic is a row of pulses.
* `Host.delivered_flush` — **after a flush all that was published is counted and written.**
-/

namespace UsageLedger

namespace Host

variable {h : Host} {k : Circuit}

theorem Wired.pulse (hw : h.Wired k) (p : Pulse) : (h.pulse k p).Wired k := by
  cases p with
  | count e c now => exact (follows_deliver_recorder hw e c now).1.wired
  | hand e c now => exact (deliver_persistence hw e c now).1
  | finish i => exact (follows_finishWriteAt hw i).wired

theorem Wired.pulses (hw : h.Wired k) (ps : List Pulse) : (h.pulses k ps).Wired k := by
  induction ps generalizing h with
  | nil => exact hw
  | cons p ps ih => exact ih (hw.pulse p)

theorem pulses_append (h : Host) (ps qs : List Pulse) :
    h.pulses k (ps ++ qs) = (h.pulses k ps).pulses k qs :=
  List.foldl_append

theorem beside_eq_pulses (k : Circuit) {as : List Aside} (has : as.all Aside.isFinish = true) :
    ∃ ps, (∀ h : Host, h.beside k as = h.pulses k ps) ∧ ps.flatMap Pulse.counted = [] ∧
      ps.flatMap Pulse.handed = [] := by
  induction as with
  | nil => exact ⟨[], fun _ => rfl, rfl, rfl⟩
  | cons a as ih =>
    rw [List.all_cons, Bool.and_eq_true] at has
    obtain ⟨ps, hps, hcounted, hhanded⟩ := ih has.2
    cases a with
    | finish i =>
      exact ⟨.finish i :: ps, fun h => hps (h.finishWriteAt k.bridge i), hcounted, hhanded⟩
    | _ => cases has.1

/-- What goes on after the turn of a handler, if nothing is said of it, is nothing. -/
theorem all_isFinish_headD {turns : List Turn}
    (h : turns.all (fun turn => turn.after.all Aside.isFinish) = true) (now : Instant) :
    (turns.headD { now }).after.all Aside.isFinish = true ∧
      turns.tail.all (fun turn => turn.after.all Aside.isFinish) = true := by
  cases turns with
  | nil => exact ⟨rfl, rfl⟩
  | cons turn turns => simpa using h

/-- **What happens is a row of pulses**: an event that is published is counted once and handed
over once, in whatever order. -/
theorem happen_eq_pulses (hw : h.Wired k) {x : Happening} (hx : x.isTraffic = true) :
    ∃ ps, h.happen k x = h.pulses k ps ∧ ps.flatMap Pulse.counted = x.records ∧
      ps.flatMap Pulse.handed = x.records := by
  cases x with
  | publish e c now turns =>
    obtain ⟨hfirst, hrest⟩ := all_isFinish_headD hx now
    obtain ⟨hsecond, -⟩ := all_isFinish_headD hrest now
    -- the event is stamped once, so the record does not depend on when it is handled
    have hrecord : ∀ now', (e.stamp now).normalize c now' = e.normalize c now := fun _ => rfl
    rw [happen]
    generalize hturn : turns.headD { now } = first at hfirst
    generalize hturn' : turns.tail.headD { now } = second at hsecond
    obtain ⟨ps, hps, hcounted, hhanded⟩ := beside_eq_pulses k hfirst
    obtain ⟨qs, hqs, hcounted', hhanded'⟩ := beside_eq_pulses k hsecond
    -- either handler may be served first
    rcases List.perm_pair.mp hw.handlers with horder | horder
    · refine ⟨.count (e.stamp now) c first.now :: ps ++ .hand (e.stamp now) c second.now ::
        qs, ?_, ?_, ?_⟩
      · simp only [horder, passOn, hturn, hturn', hps, hqs, pulses_append]
        rfl
      · simp [hcounted, hcounted', Pulse.counted, Happening.records, hrecord]
      · simp [hhanded, hhanded', Pulse.handed, Happening.records, hrecord]
    · refine ⟨.hand (e.stamp now) c first.now :: ps ++ .count (e.stamp now) c second.now ::
        qs, ?_, ?_, ?_⟩
      · simp only [horder, passOn, hturn, hturn', hps, hqs, pulses_append]
        rfl
      · simp [hcounted, hcounted', Pulse.counted, Happening.records, hrecord]
      · simp [hhanded, hhanded', Pulse.handed, Happening.records, hrecord]
  | aside a =>
    cases a with
    | finish i => exact ⟨[.finish i], rfl, rfl, rfl⟩
    | _ => cases hx
  | toggle enabled => cases hx

/-- **Traffic is a row of pulses.** -/
theorem run_eq_pulses (hw : h.Wired k) {xs : List Happening} (hxs : ∀ x ∈ xs, x.isTraffic = true) :
    ∃ ps, h.run k xs = h.pulses k ps ∧ ps.flatMap Pulse.counted = published xs ∧
      ps.flatMap Pulse.handed = published xs := by
  induction xs generalizing h with
  | nil => exact ⟨[], rfl, rfl, rfl⟩
  | cons x xs ih =>
    obtain ⟨ps, hps, hcounted, hhanded⟩ := happen_eq_pulses hw (hxs x List.mem_cons_self)
    obtain ⟨qs, hqs, hcounted', hhanded'⟩ :=
      ih (hw.pulses ps) fun x' hx' => hxs x' (List.mem_cons_of_mem _ hx')
    refine ⟨ps ++ qs, ?_, ?_, ?_⟩
    · rw [pulses_append, ← hqs, ← hps]
      rfl
    · rw [List.flatMap_append, hcounted, hcounted']
      rfl
    · rw [List.flatMap_append, hhanded, hhanded']
      rfl

theorem finishWrites_eq_pulses (h : Host) (n : Nat) :
    h.finishWrites k.bridge n = h.pulses k (List.replicate n (.finish 0)) := by
  induction n generalizing h with
  | zero => rfl
  | succ n ih => exact ih _

theorem waiting_finishWrites {b : Bridge} {id store : Nat} (hb : h.bridges[id]? = some b)
    (hstore : b.store = some store) (n : Nat) (hn : b.backlog.pending ≤ n) :
    (h.finishWrites id n).waiting id = [] := by
  induction n generalizing h b with
  | zero =>
    rw [finishWrites, waiting_of_bridge hb]
    exact List.eq_nil_of_length_eq_zero (Nat.le_zero.mp hn)
  | succ n ih =>
    refine ih (bridge_finishWriteAt hb hstore 0) hstore ?_
    unfold Backlog.pending at hn ⊢
    rw [List.eraseIdx_zero, List.length_tail]
    omega

theorem waiting_flush {b : Bridge} {id store : Nat} (hb : h.bridges[id]? = some b)
    (hstore : b.store = some store) : (h.flush id).waiting id = [] := by
  rw [flush, hb]
  exact waiting_finishWrites hb hstore _ (Nat.le_refl _)

/-- **What became of the records that were published**, once all writes are finished: if nothing
was lost all of them are counted and written. -/
theorem delivered_flush (hw : h.Wired k) (hon : h.isOn k.toggle = true) (hr : h.Ready k.store)
    (hidle : h.waiting k.bridge = []) {xs : List Happening} (hxs : ∀ x ∈ xs, x.isTraffic = true)
    (hl : Lossless h ((h.run k xs).flush k.bridge)) :
    Delivered k h (published xs) (published xs) ((h.run k xs).flush k.bridge) ∧
      ((h.run k xs).flush k.bridge).waiting k.bridge = [] := by
  obtain ⟨ps, hps, hcounted, hhanded⟩ := run_eq_pulses hw hxs
  have hrun := hw.pulses ps
  rw [← hps] at hrun
  obtain ⟨backlog, hbridge⟩ := hrun.bridge
  have hflush : (h.run k xs).flush k.bridge =
      (h.run k xs).finishWrites k.bridge backlog.pending := by
    rw [flush, hbridge]
  rw [hflush] at hl ⊢
  constructor
  · -- finishing a write counts nothing and hands nothing over
    have hnone : ∀ f : Pulse → List Record, f (.finish 0) = [] →
        (List.replicate backlog.pending (Pulse.finish 0)).flatMap f = [] := by
      intro f hf
      rw [List.flatMap_replicate, hf, List.flatten_replicate_nil]
    rw [finishWrites_eq_pulses, hps, ← pulses_append] at hl ⊢
    have hdelivered := (delivered_start hw hon hr hidle).pulses _ hl
    rwa [List.flatMap_append, List.flatMap_append, hcounted, hhanded, hnone _ rfl, hnone _ rfl,
      List.append_nil, List.nil_append] at hdelivered
  · exact waiting_finishWrites hbridge rfl _ (Nat.le_refl _)

end Host

end UsageLedger
