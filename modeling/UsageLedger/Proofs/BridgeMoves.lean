import UsageLedger.Proofs.Flushing
import UsageLedger.Proofs.Restoring

/-!
# What happens around a bridge

Events are handed to a bridge, toggles are turned, and the writes of the bridge are finished, in
any order and whatever becomes of each, while stores are asked for other things and other users
are at work on files.

A backlog does not see stores and disk, and they do not see the backlog.  So there is one lemma
for either side: `bridge_bridgeStep` says what a move makes of the backlog, and
`sameStorage_bridgeStep` what it makes of stores and disk.

## Main definitions

* `BridgeMove`, `Host.bridgeStep`, `Host.bridgeRun` — what happens around a bridge.
* `BridgeStep`, `Host.bridgeLog` — a move with the host that it was made in, and the moves of a run.
* `BridgeStep.handled`, `BridgeStep.accepted`, `BridgeStep.refused`, `BridgeStep.written` —
  records by what became of them.
* `BridgeStep.Lawful` — what a move may do to the backlog.
* `StorageMove`, `Host.storageRun` — what is done to stores and files.

## Main results

* `Host.bridge_bridgeStep`, `Host.HasBridge.sameStorage_bridgeStep` — the two sides of a move.
* `Host.HasBridge.lawful_log` — **every move of a run keeps the law.**
* `Host.HasBridge.sameStorage_bridgeRun` — **what a run makes of stores and disk.**
-/

namespace UsageLedger

/-- What happens around a bridge. -/
inductive BridgeMove where
  /-- The bridge, or a clone that shares its parts, is given an event. -/
  | handle (e : Event) (c : Context) (now : Instant)
  /-- A toggle is turned. -/
  | toggle (number : Nat) (enabled : Bool)
  /-- The write with a number among those that are not finished is finished, in whatever way it
  ends. -/
  | finish (i : Nat)
  /-- A store is asked for something by somebody else. -/
  | ask (store : Nat) (call : Call)
  /-- Another user of a file does something to it. -/
  | disturb (l : Location) (act : Outside)

/-- What a move makes of a backlog, given whether the bridge heeds events. -/
def Backlog.afterMove (b : Backlog) (listens : Bool) : BridgeMove → Backlog
  | .handle e c now => if listens then (b.offer (e.normalize c now)).2 else b
  | .finish i => { b with waiting := b.waiting.eraseIdx i }
  | .toggle .. | .ask .. | .disturb .. => b

namespace Host

/-- The bridge with a number has a store, and its toggle is on. -/
def listens (h : Host) (id : Nat) : Bool :=
  match h.bridges[id]? with
  | some b => b.store.isSome && h.isOn b.toggle
  | none => false

/-- The number of writes of a bridge that are not finished. -/
def pending (h : Host) (id : Nat) : Nat :=
  (h.waiting id).length

/-- The number of records that a bridge dropped. -/
def dropped (h : Host) (id : Nat) : Nat :=
  match h.bridges[id]? with
  | some b => b.backlog.dropped
  | none => 0

/-- What a move makes of a host. -/
def bridgeStep (id : Nat) (h : Host) : BridgeMove → Host
  | .handle e c now => h.bridgeEvent id e c now
  | .toggle number enabled => h.setToggle number enabled
  | .finish i => h.finishWriteAt id i
  | .ask store call => (h.onStore store fun s db => s.serve db call).2
  | .disturb l act => h.disturb l act

/-- What moves make of a host, one after the other. -/
def bridgeRun (id : Nat) : Host → List BridgeMove → Host
  | h, [] => h
  | h, m :: ms => bridgeRun id (h.bridgeStep id m) ms

end Host

/-- A move, and the host that it was made in. -/
structure BridgeStep where
  /-- The host. -/
  before : Host
  /-- The move. -/
  move : BridgeMove

/-- The moves of a run, each with the host that it was made in. -/
def Host.bridgeLog (id : Nat) : Host → List BridgeMove → List BridgeStep
  | _, [] => []
  | h, m :: ms => ⟨h, m⟩ :: bridgeLog id (h.bridgeStep id m) ms

namespace BridgeStep

/-- The host after the move. -/
def after (id : Nat) (b : BridgeStep) : Host :=
  b.before.bridgeStep id b.move

/-- The record of an event that came while the toggle was on. -/
def handled (id : Nat) (b : BridgeStep) : List Record :=
  match b.move with
  | .handle e c now => if b.before.listens id then [e.normalize c now] else []
  | _ => []

/-- The record of an event that came, and one write more is not finished. -/
def accepted (id : Nat) (b : BridgeStep) : List Record :=
  if b.before.pending id < (b.after id).pending id then b.handled id else []

/-- The record of an event that came, and one record more was dropped. -/
def refused (id : Nat) (b : BridgeStep) : List Record :=
  if b.before.dropped id < (b.after id).dropped id then b.handled id else []

/-- The record whose write is finished. -/
def written (id : Nat) (b : BridgeStep) : List Record :=
  match b.move with
  | .finish i => ((b.before.waiting id)[i]?).toList
  | _ => []

end BridgeStep

namespace Host

variable {h h' : Host} {id store : Nat} {b : Bridge}

@[simp] theorem bridgeLog_cons (id : Nat) (h : Host) (m : BridgeMove) (ms : List BridgeMove) :
    h.bridgeLog id (m :: ms) = ⟨h, m⟩ :: (h.bridgeStep id m).bridgeLog id ms := rfl

theorem bridgeRun_append (id : Nat) (h : Host) (ms ns : List BridgeMove) :
    h.bridgeRun id (ms ++ ns) = (h.bridgeRun id ms).bridgeRun id ns := by
  induction ms generalizing h with
  | nil => rfl
  | cons m ms ih => exact ih (h.bridgeStep id m)

theorem dropped_of_bridge (hb : h.bridges[id]? = some b) : h.dropped id = b.backlog.dropped := by
  rw [dropped, hb]

/-! ### What a move makes of the backlog -/

theorem bridgeEvent_of_not_listens (hoff : h.listens id = false) (e : Event) (c : Context)
    (now : Instant) :
    h.bridgeEvent id e c now = h := by
  rw [bridgeEvent]
  rw [listens] at hoff
  cases hb : h.bridges[id]? with
  | none => rfl
  | some b =>
    rw [hb] at hoff
    dsimp only at hoff ⊢
    rw [if_pos]
    cases hstore : b.store <;> simp_all

/-- An event that comes while the toggle is on is offered to the backlog, and nothing else but
the log changes. -/
theorem bridgeEvent_of_listens (hb : h.bridges[id]? = some b) (hon : h.listens id = true)
    (e : Event) (c : Context) (now : Instant) :
    ∃ log, h.bridgeEvent id e c now =
      { h with
        bridges := h.bridges.set id { b with backlog := (b.backlog.offer (e.normalize c now)).2 }
        log := log } := by
  rw [bridgeEvent]
  rw [listens, hb] at hon
  rw [hb]
  dsimp only at hon ⊢
  rw [Bool.and_eq_true] at hon
  rw [if_neg (by simp [hon.2, Option.isSome_iff_ne_none.mp hon.1])]
  split
  · exact ⟨_, rfl⟩
  · exact ⟨_, rfl⟩

/-- **What a move makes of the bridge**: its backlog keeps account of the move, and all else
stays. -/
theorem bridge_bridgeStep (hb : h.bridges[id]? = some b) (hstore : b.store = some store)
    (m : BridgeMove) :
    (h.bridgeStep id m).bridges[id]? =
      some { b with backlog := b.backlog.afterMove (h.listens id) m } := by
  cases m with
  | handle e c now =>
    rw [bridgeStep, Backlog.afterMove]
    cases hon : h.listens id with
    | false =>
      rw [bridgeEvent_of_not_listens hon, hb]
      rfl
    | true =>
      obtain ⟨log, hevent⟩ := bridgeEvent_of_listens hb hon e c now
      rw [hevent, if_pos rfl]
      exact List.getElem?_set_self (List.getElem?_eq_some_iff.mp hb).1
  | toggle number enabled => exact hb
  | finish i => exact bridge_finishWriteAt hb hstore i
  | ask other call =>
    rw [bridgeStep, (sameParts_onStore h other fun s db => s.serve db call).bridges]
    exact hb
  | disturb l act =>
    rw [bridgeStep, (sameParts_disturb h l act).bridges]
    exact hb

/-- The bridge with a number is there, writes to a store, and has a limit. -/
def HasBridge (h : Host) (id store limit : Nat) : Prop :=
  ∃ b, h.bridges[id]? = some b ∧ b.store = some store ∧ b.backlog.limit = limit

variable {limit : Nat}

/-- A bridge keeps its store and its limit. -/
theorem HasBridge.bridgeStep (hb : h.HasBridge id store limit) (m : BridgeMove) :
    (h.bridgeStep id m).HasBridge id store limit := by
  obtain ⟨b, hb, hstore, rfl⟩ := hb
  refine ⟨_, bridge_bridgeStep hb hstore m, hstore, ?_⟩
  unfold Backlog.afterMove
  cases m with
  | handle e c now =>
    dsimp only
    split
    · rw [Backlog.offer]
      split <;> rfl
    · rfl
  | _ => rfl

theorem HasBridge.bridgeRun (hb : h.HasBridge id store limit) (ms : List BridgeMove) :
    (h.bridgeRun id ms).HasBridge id store limit := by
  induction ms generalizing h with
  | nil => exact hb
  | cons m ms ih => exact ih (hb.bridgeStep m)

/-- What a move makes of the backlog as it is seen from outside. -/
theorem HasBridge.seen (hb : h.HasBridge id store limit) :
    ∃ b : Backlog, b.limit = limit ∧ h.waiting id = b.waiting ∧ h.dropped id = b.dropped ∧
      ∀ m, (h.bridgeStep id m).waiting id = (b.afterMove (h.listens id) m).waiting ∧
        (h.bridgeStep id m).dropped id = (b.afterMove (h.listens id) m).dropped := by
  obtain ⟨b, hb, hstore, hlimit⟩ := hb
  refine ⟨b.backlog, hlimit, waiting_of_bridge hb, dropped_of_bridge hb, fun m => ?_⟩
  have hafter := bridge_bridgeStep hb hstore m
  exact ⟨waiting_of_bridge hafter, dropped_of_bridge hafter⟩

end Host

/-! ### The law of a move -/

/-- What a move may do to the backlog of a bridge with a limit. -/
structure BridgeStep.Lawful (id limit : Nat) (b : BridgeStep) : Prop where
  /-- An event that comes while the toggle is off changes nothing at all. -/
  ignored : ∀ e c now, b.move = .handle e c now → b.before.listens id = false →
    b.after id = b.before
  /-- An event that comes while the toggle is on and there is room is accepted: its record waits. -/
  accepted : ∀ e c now, b.move = .handle e c now → b.before.listens id = true →
    b.before.pending id < limit → b.accepted id = [e.normalize c now] ∧ b.refused id = [] ∧
      (b.after id).waiting id = b.before.waiting id ++ [e.normalize c now] ∧
      (b.after id).dropped id = b.before.dropped id
  /-- One that comes while there is none is refused, and counted. -/
  refused : ∀ e c now, b.move = .handle e c now → b.before.listens id = true →
    limit ≤ b.before.pending id → b.accepted id = [] ∧ b.refused id = [e.normalize c now] ∧
      (b.after id).waiting id = b.before.waiting id ∧
      (b.after id).dropped id = b.before.dropped id + 1
  /-- A write that is finished waits no more. -/
  finished : ∀ i, b.move = .finish i →
    (b.after id).waiting id = (b.before.waiting id).eraseIdx i ∧
      (b.after id).dropped id = b.before.dropped id
  /-- Nothing else touches the backlog. -/
  kept : (∀ e c now, b.move ≠ .handle e c now) → (∀ i, b.move ≠ .finish i) →
    (b.after id).waiting id = b.before.waiting id ∧ (b.after id).dropped id = b.before.dropped id

namespace BridgeStep

variable {id : Nat} {b : BridgeStep}

theorem handled_of_listens {e : Event} {c : Context} {now : Instant} (hm : b.move = .handle e c now)
    (hon : b.before.listens id = true) : b.handled id = [e.normalize c now] := by
  rw [handled, hm]
  exact if_pos hon

theorem accepted_eq_handled (h : b.before.pending id < (b.after id).pending id) :
    b.accepted id = b.handled id :=
  if_pos h

theorem accepted_eq_nil (h : (b.after id).pending id ≤ b.before.pending id) : b.accepted id = [] :=
  if_neg (Nat.not_lt.mpr h)

theorem refused_eq_handled (h : b.before.dropped id < (b.after id).dropped id) :
    b.refused id = b.handled id :=
  if_pos h

theorem refused_eq_nil (h : (b.after id).dropped id ≤ b.before.dropped id) : b.refused id = [] :=
  if_neg (Nat.not_lt.mpr h)

end BridgeStep

/-- **Every move keeps the law.** -/
theorem Host.HasBridge.lawful {h : Host} {id store limit : Nat} (hb : h.HasBridge id store limit)
    (m : BridgeMove) : BridgeStep.Lawful id limit ⟨h, m⟩ := by
  obtain ⟨b, rfl, hwaiting, hdropped, hseen⟩ := hb.seen
  obtain ⟨hwaiting', hdropped'⟩ := hseen m
  have hpending : h.pending id = b.pending := congrArg List.length hwaiting
  have hafter : BridgeStep.after id ⟨h, m⟩ = h.bridgeStep id m := rfl
  constructor
  · -- a bridge that does not listen leaves everything as it was
    rintro e c now rfl hoff
    exact Host.bridgeEvent_of_not_listens hoff e c now
  · -- there is room, so the offer is put behind what waits
    rintro e c now rfl hon hroom
    have hoffer : b.afterMove (h.listens id) (.handle e c now) =
        { b with waiting := b.waiting ++ [e.normalize c now] } := by
      rw [Backlog.afterMove, hon, if_pos rfl, Backlog.offer, if_pos (hpending ▸ hroom)]
    rw [hoffer] at hwaiting' hdropped'
    dsimp only at hwaiting' hdropped'
    rw [← hwaiting] at hwaiting'
    rw [← hdropped] at hdropped'
    refine ⟨?_, ?_, hwaiting', hdropped'⟩
    · rw [BridgeStep.accepted_eq_handled, BridgeStep.handled_of_listens rfl hon]
      unfold Host.pending
      rw [hafter, hwaiting', List.length_append, List.length_singleton]
      exact Nat.lt_succ_self _
    · exact BridgeStep.refused_eq_nil (Nat.le_of_eq hdropped')
  · -- there is no room, so only the number of those dropped grows
    rintro e c now rfl hon hfull
    have hoffer : b.afterMove (h.listens id) (.handle e c now) =
        { b with dropped := b.dropped + 1 } := by
      rw [Backlog.afterMove, hon, if_pos rfl, Backlog.offer,
        if_neg (Nat.not_lt.mpr (hpending ▸ hfull))]
    rw [hoffer] at hwaiting' hdropped'
    dsimp only at hwaiting' hdropped'
    rw [← hwaiting] at hwaiting'
    rw [← hdropped] at hdropped'
    refine ⟨?_, ?_, hwaiting', hdropped'⟩
    · exact BridgeStep.accepted_eq_nil (Nat.le_of_eq (congrArg List.length hwaiting'))
    · rw [BridgeStep.refused_eq_handled, BridgeStep.handled_of_listens rfl hon]
      rw [hafter, hdropped']
      exact Nat.lt_succ_self _
  · rintro i rfl
    exact ⟨hwaiting'.trans (congrArg (List.eraseIdx · i) hwaiting.symm),
      hdropped'.trans hdropped.symm⟩
  · -- of all the moves, no other one touches the backlog
    intro hhandle hfinish
    have hsame : b.afterMove (h.listens id) m = b := by
      cases m with
      | handle e c now => exact absurd rfl (hhandle e c now)
      | finish i => exact absurd rfl (hfinish i)
      | _ => rfl
    rw [hsame] at hwaiting' hdropped'
    exact ⟨hwaiting'.trans hwaiting.symm, hdropped'.trans hdropped.symm⟩

/-! ### What is done to stores and files -/

/-- Something that is done to a store or to a file. -/
inductive StorageMove where
  /-- A store is asked for something. -/
  | ask (store : Nat) (call : Call)
  /-- Another user of a file does something to it. -/
  | disturb (l : Location) (act : Outside)

/-- What a move does to stores and files, where the bridge writes to a store. -/
def BridgeStep.storageMoves (id store : Nat) (b : BridgeStep) : List StorageMove :=
  match b.move with
  | .handle .. | .toggle .. => []
  | .finish _ => (b.written id).map fun r => .ask store (.insert r)
  | .ask other call => [.ask other call]
  | .disturb l act => [.disturb l act]

namespace Host

/-- What a storage move makes of a host. -/
def storageStep (h : Host) : StorageMove → Host
  | .ask store call => (h.onStore store fun s db => s.serve db call).2
  | .disturb l act => h.disturb l act

/-- What storage moves make of a host, one after the other. -/
def storageRun (h : Host) (ds : List StorageMove) : Host :=
  ds.foldl storageStep h

/-- Two hosts have the same stores and the same disk. -/
structure SameStorage (h h' : Host) : Prop where
  /-- The stores are the same. -/
  stores : h'.stores = h.stores
  /-- The disk is the same. -/
  disk : h'.disk = h.disk

variable {h h' h'' : Host} {id store limit : Nat}

theorem SameStorage.refl (h : Host) : h.SameStorage h :=
  ⟨rfl, rfl⟩

theorem SameStorage.trans (hw : h.SameStorage h') (hw' : h'.SameStorage h'') : h.SameStorage h'' :=
  ⟨hw'.stores.trans hw.stores, hw'.disk.trans hw.disk⟩

/-- An operation of a store depends on stores and disk only, and not on how its answer is put. -/
theorem SameStorage.onStore {α β : Type} (hw : h.SameStorage h') (store : Nat)
    (op : Store → Database → Outcome α) (f : α → β) :
    (h.onStore store op).2.SameStorage (h'.onStore store fun s db => (op s db).map f).2 := by
  obtain ⟨hstores, hdisk⟩ := hw
  have hof : ∀ held, h'.databaseOf held = h.databaseOf held := by
    intro held
    rw [databaseOf, databaseOf, hdisk]
  rw [Host.onStore, Host.onStore, hstores]
  cases h.stores[store]? with
  | none => exact ⟨hstores, hdisk⟩
  | some held =>
    dsimp only
    rw [hof, hdisk]
    cases held.place with
    | none => exact ⟨rfl, rfl⟩
    | some l => exact ⟨rfl, rfl⟩

theorem SameStorage.serve (hw : h.SameStorage h') (store : Nat) (call : Call) :
    (h.onStore store fun s db => s.serve db call).2.SameStorage
      (h'.onStore store fun s db => s.serve db call).2 := by
  have hserved := hw.onStore store (fun s db => s.serve db call) fun reply => reply
  have hsame : ∀ o : Outcome Reply, o.map (fun reply => reply) = o := by
    rintro ⟨answer, s, db⟩
    cases answer <;> rfl
  simpa only [hsame] using hserved

theorem SameStorage.disturb (hw : h.SameStorage h') (l : Location) (act : Outside) :
    (h.disturb l act).SameStorage (h'.disturb l act) := by
  obtain ⟨hstores, hdisk⟩ := hw
  rw [Host.disturb, Host.disturb, hdisk]
  cases h.disk.database? l with
  | none => exact ⟨hstores, hdisk⟩
  | some db => exact ⟨hstores, rfl⟩

theorem SameStorage.storageRun (hw : h.SameStorage h') (ds : List StorageMove) :
    (h.storageRun ds).SameStorage (h'.storageRun ds) := by
  induction ds generalizing h h' with
  | nil => exact hw
  | cons d ds ih =>
    cases d with
    | ask store call => exact ih (hw.serve store call)
    | disturb l act => exact ih (hw.disturb l act)

/-- **What a move makes of stores and disk** is what its storage moves make of them: an event or
a toggle makes nothing of them, and the write that is finished is one request to insert its
record. -/
theorem HasBridge.sameStorage_bridgeStep (hb : h.HasBridge id store limit) (m : BridgeMove) :
    (h.storageRun (BridgeStep.storageMoves id store ⟨h, m⟩)).SameStorage (h.bridgeStep id m) := by
  obtain ⟨b, hb, hstore, -⟩ := hb
  cases m with
  | handle e c now =>
    show h.SameStorage (h.bridgeEvent id e c now)
    cases hon : h.listens id with
    | false =>
      rw [bridgeEvent_of_not_listens hon]
      exact .refl h
    | true =>
      obtain ⟨log, hevent⟩ := bridgeEvent_of_listens hb hon e c now
      rw [hevent]
      exact ⟨rfl, rfl⟩
  | toggle number enabled => exact ⟨rfl, rfl⟩
  | finish i =>
    show (h.storageRun ((((h.waiting id)[i]?).toList).map fun r =>
        .ask store (.insert r))).SameStorage
      (h.finishWriteAt id i)
    rw [waiting_of_bridge hb]
    cases hget : b.backlog.waiting[i]? with
    | none =>
      -- there is no such write, so the row of moves is empty
      rw [finishWriteAt_of_none hb hget]
      exact .refl h
    | some r =>
      rw [finishWriteAt_eq hb hstore hget]
      -- the insert meets the same stores and files with or without the record in the backlog
      have hset : SameStorage { h with bridges := h.bridges.set id { b with
          backlog := { b.backlog with waiting := b.backlog.waiting.eraseIdx i } } } h := ⟨rfl, rfl⟩
      have hinsert := hset.onStore store (fun s db => s.insert db r) Reply.inserted
      refine SameStorage.trans ⟨hinsert.stores.symm, hinsert.disk.symm⟩ ?_
      generalize Host.onStore _ store (fun s db => s.insert db r) = p
      obtain ⟨answer, after⟩ := p
      cases answer with
      | ok added => exact .refl after
      -- a write that fails leaves a line in the log, which is no part of the storage
      | error e => exact ⟨rfl, rfl⟩
  | ask other call => exact .refl _
  | disturb l act => exact .refl _

/-! ### Runs -/

/-- **Every move of a run keeps the law.** -/
theorem HasBridge.lawful_log (hb : h.HasBridge id store limit) (ms : List BridgeMove) :
    ∀ step ∈ h.bridgeLog id ms, step.Lawful id limit := by
  induction ms generalizing h with
  | nil => intro step hstep; cases hstep
  | cons m ms ih =>
    intro step hstep
    rcases List.mem_cons.mp hstep with rfl | hstep
    · exact hb.lawful m
    · exact ih (hb.bridgeStep m) step hstep

/-- **What a run makes of stores and disk** is what its storage moves make of them. -/
theorem HasBridge.sameStorage_bridgeRun (hb : h.HasBridge id store limit) (ms : List BridgeMove) :
    (h.storageRun ((h.bridgeLog id ms).flatMap (BridgeStep.storageMoves id store))).SameStorage
      (h.bridgeRun id ms) := by
  induction ms generalizing h with
  | nil => exact .refl h
  | cons m ms ih =>
    rw [bridgeLog_cons, List.flatMap_cons, Host.storageRun, List.foldl_append]
    exact ((hb.sameStorage_bridgeStep m).storageRun _).trans (ih (hb.bridgeStep m))

/-- A flush is a row of writes that are finished. -/
theorem flush_eq_bridgeRun (h : Host) (id : Nat) :
    h.flush id = h.bridgeRun id (List.replicate (h.pending id) (.finish 0)) := by
  have hrow : ∀ (n : Nat) (h : Host), h.finishWrites id n =
      h.bridgeRun id (List.replicate n (.finish 0)) := by
    intro n
    induction n with
    | zero => intro h; rfl
    | succ n ih => intro h; exact ih (h.finishWriteAt id 0)
  rw [flush, pending, waiting]
  cases h.bridges[id]? with
  | none => rfl
  | some b => exact hrow b.backlog.pending h

end Host

end UsageLedger
