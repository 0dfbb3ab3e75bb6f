import UsageLedger.Proofs.Hosting
import UsageLedger.Proofs.Merging
import UsageLedger.Proofs.ReadBack
import Mathlib.Data.List.Permutation

/-!
# Traffic through a dispatcher

Events are published to a dispatcher that counts them in an aggregate and has them written to a
store. Its handlers are given an event one after the other, and each of them makes its own
record of it. Meanwhile, between two events or between two handlers, anything else may go on: a
write is finished, the aggregate is restored, a store is asked for something that does not
write, or another user of a file does something to it.  The toggle is turned between two events.

## Main definitions

* `Circuit`, `Host.Wired` — a dispatcher with its handlers, and the parts of a host that they share.
* `Aside`, `Happening`, `Host.happen`, `Host.run` — what goes on, and what it makes of a host.
* `Happening.isTraffic`, `published` — nothing goes on but publishing and writing, and the
  records of the events that are published.
* `Host.publishAll` — events are published one after the other, each in one go.
* `Host.Follows` — nothing was forgotten, and nothing stored but what was waiting for it.
* `Host.Sound` — all that the store gives back, or may be given, is known to the aggregate.

## Main results

* `Host.follows_aside` — what goes on beside the events brings nothing new to the store.
* `Host.Sound.publish` — publishing an event keeps the invariant, in whatever order its handlers
  stand.
* `Host.Sound.run` — **whatever happens keeps the invariant.**
* `Host.publish_eq_happen` — publishing an event in one go is one of the things that can happen.
* `Host.exists_run_of_publishAll` — **events that are published one after the other are traffic.**
-/

namespace UsageLedger

/-- The parts of a host that a dispatcher ties together, by their numbers. -/
structure Circuit where
  /-- The dispatcher. -/
  dispatcher : Nat
  /-- The bridge that its events are written through. -/
  bridge : Nat
  /-- The store of the bridge. -/
  store : Nat
  /-- The aggregate in which the events are counted, and which the bridge restores. -/
  aggregate : Nat
  /-- The toggle that both heed. -/
  toggle : Nat

namespace Circuit

/-- The handler that counts events in the aggregate. -/
def recorder (k : Circuit) : Handler :=
  .recorder k.aggregate k.toggle

/-- The handler that has events written to the store. -/
def persistence (k : Circuit) : Handler :=
  .persistence k.bridge

end Circuit

/-- The dispatcher has the two handlers, in either order, and they share store, aggregate and
toggle. -/
structure Host.Wired (h : Host) (k : Circuit) : Prop where
  /-- The dispatcher has the two handlers. -/
  handlers : (h.dispatchers.getD k.dispatcher []).Perm [k.recorder, k.persistence]
  /-- The bridge is there, with these parts. -/
  bridge : ∃ backlog, h.bridges[k.bridge]? =
    some ⟨some k.store, some k.aggregate, k.toggle, backlog⟩
  /-- The aggregate is there. -/
  aggregate : k.aggregate < h.aggregates.length

theorem Backlog.mem_of_finish? {b backlog : Backlog} {i : Nat} {r : Record}
    (h : b.finish? i = some (r, backlog)) :
    r ∈ b.waiting ∧ ∀ r' ∈ backlog.waiting, r' ∈ b.waiting := by
  rw [finish?] at h
  split at h
  · next r₀ hget =>
    simp only [Option.some.injEq, Prod.mk.injEq] at h
    obtain ⟨rfl, rfl⟩ := h
    exact ⟨List.mem_of_getElem? hget, fun r' hr' => List.mem_of_mem_eraseIdx hr'⟩
  · cases h

theorem Snapshot.Knows.settle {s : Snapshot} {r : Record} (h : s.Knows r) : s.Knows r.settle := by
  rw [Knows, r.key_settle]
  exact h

namespace Host

variable {h h' : Host} {k : Circuit}

theorem SameParts.waiting (hp : h.SameParts h') (bridge : Nat) :
    h'.waiting bridge = h.waiting bridge := by
  rw [Host.waiting, Host.waiting, hp.bridges]

theorem SameParts.wired (hp : h.SameParts h') (hw : h.Wired k) : h'.Wired k :=
  ⟨hp.dispatchers ▸ hw.handlers, hp.bridges ▸ hw.bridge, hp.aggregates ▸ hw.aggregate⟩

theorem Wired.setBacklog (hw : h.Wired k) {b : Bridge} (hb : h.bridges[k.bridge]? = some b)
    (backlog : Backlog) :
    Wired { h with bridges := h.bridges.set k.bridge { b with backlog } } k ∧
      waiting { h with bridges := h.bridges.set k.bridge { b with backlog } } k.bridge =
        backlog.waiting := by
  obtain ⟨backlog₀, hbridge⟩ := hw.bridge
  obtain rfl : b = _ := Option.some.inj (hb.symm.trans hbridge)
  have hlt := (List.getElem?_eq_some_iff.mp hb).1
  exact ⟨⟨hw.handlers, ⟨backlog, by simp [hlt]⟩, hw.aggregate⟩, by simp [waiting, hlt]⟩

theorem waiting_of_bridge {bridge : Nat} {b : Bridge} (hb : h.bridges[bridge]? = some b) :
    h.waiting bridge = b.backlog.waiting := by
  rw [waiting, hb]

theorem aggregate_setAggregate {id : Nat} (hlt : id < h.aggregates.length) (s : Snapshot) :
    (h.setAggregate id s).aggregate id = s := by
  simp [Host.aggregate, setAggregate, hlt]

theorem Wired.setAggregate (hw : h.Wired k) (id : Nat) (s : Snapshot) :
    (h.setAggregate id s).Wired k :=
  ⟨hw.handlers, hw.bridge, by simpa [Host.setAggregate] using hw.aggregate⟩

/-- What another user of the file at a location does to it. -/
def disturb (h : Host) (l : Location) (act : Outside) : Host :=
  match h.disk.database? l with
  | some db => { h with disk := h.disk.put l (.database (db.afterOutside act)) }
  | none => h

theorem sameParts_disturb (h : Host) (l : Location) (act : Outside) :
    h.SameParts (h.disturb l act) := by
  rw [disturb]
  split <;> exact ⟨rfl, rfl, rfl, rfl⟩

/-- What another user does without putting a row in leads to no new row. -/
theorem mem_rows_disturb {l : Location} {act : Outside} (ha : act.addsNoRow = true) {id : Nat}
    {row : Row} (hrow : row ∈ ((h.disturb l act).databaseAt id).rows) :
    row ∈ (h.databaseAt id).rows := by
  cases hdb : h.disk.database? l with
  | none =>
    rw [disturb, hdb] at hrow
    exact hrow
  | some db =>
    have hdisk : (h.disturb l act).disk = h.disk.put l (.database (db.afterOutside act)) := by
      rw [disturb, hdb]
    have hstores : (h.disturb l act).stores = h.stores := by rw [disturb, hdb]
    rw [databaseAt, hstores] at hrow
    rw [databaseAt]
    cases hget : h.stores[id]? with
    | none =>
      rw [hget] at hrow
      exact hrow
    | some held =>
      rw [hget] at hrow
      dsimp only at hrow ⊢
      -- the store has the file open that was changed, or it does not notice
      rw [databaseOf_put hdb hdisk] at hrow
      split at hrow
      · next hplace =>
        rw [databaseOf, hplace]
        dsimp only
        rw [hdb]
        exact Database.mem_rows_afterOutside ha hrow
      · exact hrow

end Host

/-! ### What goes on -/

/-- Something that may go on at any time, also while an event is being passed on. -/
inductive Aside where
  /-- The write of the bridge with a number is finished. -/
  | finish (i : Nat)
  /-- The aggregate is restored from the store. -/
  | restore
  /-- A store is asked for something that does not write. -/
  | ask (id : Nat) (call : Call)
  /-- Another user does something to a file that puts no row in. -/
  | disturb (l : Location) (act : Outside)

/-- The turn of a handler: the instant at which it is given the event, and what goes on before
the next one is. -/
structure Turn where
  /-- The instant. -/
  now : Instant
  /-- What goes on before the next turn. -/
  after : List Aside := []

/-- Something that happens. -/
inductive Happening where
  /-- An event is published, and the handlers are given it in these turns. -/
  | publish (e : Event) (c : Context) (now : Instant) (turns : List Turn)
  /-- The toggle is turned. -/
  | toggle (enabled : Bool)
  /-- Something else goes on. -/
  | aside (a : Aside)

/-- A write is finished. -/
def Aside.isFinish : Aside → Bool
  | finish _ => true
  | _ => false

namespace Happening

/-- An event is published, or a write is finished, and nothing else happens meanwhile. -/
def isTraffic : Happening → Bool
  | publish _ _ _ turns => turns.all fun turn => turn.after.all Aside.isFinish
  | aside a => a.isFinish
  | toggle _ => false

/-- The record of the event that is published. -/
def records : Happening → List Record
  | publish e c now _ => [e.normalize c now]
  | aside _ | toggle _ => []

end Happening

/-- The records of the events that are published. -/
def published (xs : List Happening) : List Record :=
  xs.flatMap Happening.records

namespace Host

/-- Something goes on beside the events; what would put rows in does not. -/
def aside (k : Circuit) (h : Host) : Aside → Host
  | .finish i => h.finishWriteAt k.bridge i
  | .restore => (h.loadAndMerge k.bridge).2
  | .ask id call => if call.writes then h else (h.onStore id fun s db => s.serve db call).2
  | .disturb l act => if act.addsNoRow then h.disturb l act else h

/-- One thing after another goes on beside the events. -/
def beside (k : Circuit) (h : Host) (as : List Aside) : Host :=
  as.foldl (aside k) h

/-- Handlers are given an event one after the other. -/
def passOn (k : Circuit) (e : Event) (c : Context) (now : Instant) :
    List Handler → List Turn → Host → Host
  | [], _, h => h
  | handler :: rest, turns, h =>
    let turn := turns.headD { now }
    passOn k e c now rest turns.tail ((h.deliver handler e c turn.now).beside k turn.after)

/-- What a happening makes of a host. -/
def happen (k : Circuit) (h : Host) : Happening → Host
  | .publish e c now turns =>
    h.passOn k (e.stamp now) c now (h.dispatchers.getD k.dispatcher []) turns
  | .toggle enabled => h.setToggle k.toggle enabled
  | .aside a => h.aside k a

/-- What happens, one after the other. -/
def run (k : Circuit) (h : Host) (xs : List Happening) : Host :=
  xs.foldl (happen k) h

/-! ### What brings nothing new to the store -/

variable {h h' : Host} {k : Circuit}

/-- A host that comes from another one without that the aggregate forgets anything, the toggle
is turned, or anything is stored but what was waiting for it. -/
structure Follows (k : Circuit) (h h' : Host) : Prop where
  /-- The parts are there. -/
  wired : h'.Wired k
  /-- The aggregate forgets nothing. -/
  knows : ∀ r, (h.aggregate k.aggregate).Knows r → (h'.aggregate k.aggregate).Knows r
  /-- The toggle is not turned. -/
  isOn : h'.isOn k.toggle = h.isOn k.toggle
  /-- A new row is that of a record that was waiting. -/
  rows : ∀ row ∈ (h'.databaseAt k.store).rows,
    row ∈ (h.databaseAt k.store).rows ∨ ∃ r ∈ h.waiting k.bridge, row = Row.ofRecord r
  /-- No other record is waiting. -/
  waiting : ∀ r ∈ h'.waiting k.bridge, r ∈ h.waiting k.bridge

theorem Follows.refl (hw : h.Wired k) : Follows k h h :=
  ⟨hw, fun _ hr => hr, rfl, fun _ hrow => .inl hrow, fun _ hr => hr⟩

theorem Follows.trans {h'' : Host} (hf : Follows k h h') (hf' : Follows k h' h'') :
    Follows k h h'' where
  wired := hf'.wired
  knows := fun r hr => hf'.knows r (hf.knows r hr)
  isOn := hf'.isOn.trans hf.isOn
  rows := by
    intro row hrow
    rcases hf'.rows row hrow with hrow | ⟨r, hr, rfl⟩
    · exact hf.rows row hrow
    · exact .inr ⟨r, hf.waiting r hr, rfl⟩
  waiting := fun r hr => hf.waiting r (hf'.waiting r hr)

theorem SameParts.follows (hp : h.SameParts h') (hw : h.Wired k)
    (hrows : ∀ row ∈ (h'.databaseAt k.store).rows, row ∈ (h.databaseAt k.store).rows) :
    Follows k h h' where
  wired := hp.wired hw
  knows := fun r hr => by rwa [hp.aggregate]
  isOn := hp.isOn _
  rows := fun row hrow => .inl (hrows row hrow)
  waiting := fun r hr => hp.waiting _ ▸ hr

theorem follows_setAggregate (hw : h.Wired k) {s : Snapshot}
    (hs : ∀ r, (h.aggregate k.aggregate).Knows r → s.Knows r) :
    Follows k h (h.setAggregate k.aggregate s) where
  wired := hw.setAggregate _ _
  knows := fun r hr => by rw [aggregate_setAggregate hw.aggregate]; exact hs r hr
  isOn := rfl
  rows := fun _ hrow => .inl hrow
  waiting := fun _ hr => hr

/-- **What a finished write leads to**: the rows that are new are those of records that were
waiting. -/
theorem follows_finishWriteAt (hw : h.Wired k) (i : Nat) :
    Follows k h (h.finishWriteAt k.bridge i) := by
  rcases finishWriteAt_cases h k.bridge i with heq | ⟨b, r, backlog, hb, hfinish, hparts, hrows⟩
  · rw [heq]
    exact .refl hw
  · obtain ⟨hwired, hwaiting⟩ := hw.setBacklog hb backlog
    obtain ⟨hmem, hrest⟩ := Backlog.mem_of_finish? hfinish
    have hknown := waiting_of_bridge hb
    -- the write takes the record from the backlog into the rows, and counts nothing
    refine ⟨hparts.wired hwired, fun r' hr' => ?_, hparts.isOn _, fun row hrow => ?_,
      fun r' hr' => ?_⟩
    · rw [hparts.aggregate]
      exact hr'
    · rw [hknown]
      exact (hrows k.store row hrow).imp_right fun heq => ⟨r, hmem, heq⟩
    · rw [hparts.waiting, hwaiting] at hr'
      rw [hknown]
      exact hrest r' hr'

/-- **What restoring the aggregate leads to**: it fails, or what the rows hold is merged into
it; either way no row changes. -/
theorem loadAndMerge_cases (hw : h.Wired k) :
    ∃ h', h.SameParts h' ∧ (∀ id, (h'.databaseAt id).rows = (h.databaseAt id).rows) ∧
      ((∃ e, h.loadAndMerge k.bridge = (.error e, h')) ∨
        ∃ found, Store.readRows .never (h.databaseAt k.store) = .ok found ∧
          h.load k.store .never = (.ok found.snapshot, h') ∧
          h.loadAndMerge k.bridge =
            (.ok (some ((h.aggregate k.aggregate).merge found.snapshot).2),
              h'.setAggregate k.aggregate ((h.aggregate k.aggregate).merge found.snapshot).1)) := by
  obtain ⟨h', hparts, hrows, hload⟩ := load_cases h k.store .never
  obtain ⟨backlog, hbridge⟩ := hw.bridge
  refine ⟨h', hparts, hrows, ?_⟩
  rw [loadAndMerge_eq hbridge rfl rfl]
  rcases hload with ⟨e, hload⟩ | ⟨found, hread, hload⟩
  · exact .inl ⟨e, by rw [hload]⟩
  · exact .inr ⟨found, hread, hload, by rw [hload]⟩

/-- **What goes on beside the events brings nothing new to the store.** -/
theorem follows_aside (hw : h.Wired k) (a : Aside) : Follows k h (h.aside k a) := by
  cases a with
  | finish i => exact follows_finishWriteAt hw i
  | restore =>
    obtain ⟨h', hparts, hrows, hcase⟩ := loadAndMerge_cases hw
    have hfollows : Follows k h h' := hparts.follows hw fun row hrow => hrows k.store ▸ hrow
    rw [aside]
    rcases hcase with ⟨e, hload⟩ | ⟨found, -, -, hload⟩
    · rw [hload]
      exact hfollows
    · rw [hload]
      -- a merge into the aggregate loses nothing that it knew
      refine hfollows.trans (follows_setAggregate hfollows.wired fun r hr => ?_)
      rw [hparts.aggregate] at hr
      exact hr.merge _
  | ask id call =>
    rw [aside]
    split
    · exact .refl hw
    · next hwrites =>
      have hrows := rows_onStore_of_not_writes h id (by simpa using hwrites) k.store
      exact (sameParts_onStore h id _).follows hw fun row hrow => hrows ▸ hrow
  | disturb l act =>
    rw [aside]
    split
    · next hspares =>
      exact (sameParts_disturb h l act).follows hw fun row hrow => mem_rows_disturb hspares hrow
    · exact .refl hw

theorem follows_beside (hw : h.Wired k) (as : List Aside) : Follows k h (h.beside k as) := by
  induction as generalizing h with
  | nil => exact .refl hw
  | cons a as ih =>
    have hfirst := follows_aside hw a
    exact hfirst.trans (ih hfirst.wired)

/-! ### What the handlers do with an event -/

/-- The recorder brings nothing to the store, and while the toggle is on the aggregate knows its
record from then on. -/
theorem follows_deliver_recorder (hw : h.Wired k) (e : Event) (c : Context) (now : Instant) :
    Follows k h (h.deliver k.recorder e c now) ∧
      (h.isOn k.toggle = true →
        ((h.deliver k.recorder e c now).aggregate k.aggregate).Knows (e.normalize c now)) := by
  rw [Circuit.recorder, deliver]
  split
  · refine ⟨follows_setAggregate hw fun r hr => hr.push _, fun _ => ?_⟩
    rw [aggregate_setAggregate hw.aggregate]
    exact Snapshot.knows_push _ _
  · next hoff => exact ⟨.refl hw, fun hon => absurd hon hoff⟩

/-- While the toggle is on the persistence handler has its record wait for the store, and
nothing else changes. -/
theorem deliver_persistence (hw : h.Wired k) (e : Event) (c : Context) (now : Instant) :
    (h.deliver k.persistence e c now).Wired k ∧
      (h.deliver k.persistence e c now).aggregate k.aggregate = h.aggregate k.aggregate ∧
      (h.deliver k.persistence e c now).isOn k.toggle = h.isOn k.toggle ∧
      (h.deliver k.persistence e c now).databaseAt k.store = h.databaseAt k.store ∧
      ∀ r ∈ (h.deliver k.persistence e c now).waiting k.bridge,
        r ∈ h.waiting k.bridge ∨ h.isOn k.toggle = true ∧ r = e.normalize c now := by
  rw [Circuit.persistence, deliver]
  rcases bridgeEvent_cases h k.bridge e c now with heq | ⟨b, backlog, hb, hon, hnew, hparts, hdb⟩
  · rw [heq]
    exact ⟨hw, rfl, rfl, rfl, fun r hr => .inl hr⟩
  · obtain ⟨hwired, hwaiting⟩ := hw.setBacklog hb backlog
    refine ⟨hparts.wired hwired, hparts.aggregate _, hparts.isOn _, hdb _, fun r hr => ?_⟩
    rw [hparts.waiting, hwaiting] at hr
    rw [waiting_of_bridge hb]
    obtain ⟨backlog₀, hbridge⟩ := hw.bridge
    obtain rfl : b = _ := Option.some.inj (hb.symm.trans hbridge)
    exact (hnew r hr).imp_right fun heq => ⟨hon, heq⟩

/-! ### The invariant -/

/-- All that the store gives back, or may be given, is known to the aggregate, but for a record
that is late: the recorder is still to be given its event. -/
structure SoundBut (k : Circuit) (late : Record → Prop) (h : Host) : Prop where
  /-- The parts are those of the circuit. -/
  wired : h.Wired k
  /-- What the rows of the store give back is known or late. -/
  rows : ∀ row ∈ (h.databaseAt k.store).rows, ∀ r, row.scan = .ok (some r) →
    (h.aggregate k.aggregate).Knows r ∨ ∃ r', late r' ∧ r = r'.settle
  /-- What has yet to be written is known or late. -/
  waiting : ∀ r ∈ h.waiting k.bridge, (h.aggregate k.aggregate).Knows r ∨ late r

/-- All that the store gives back, or may be given, is known to the aggregate. -/
abbrev Sound (k : Circuit) (h : Host) : Prop :=
  SoundBut k (fun _ => False) h

namespace SoundBut

variable {late : Record → Prop}

/-- The invariant is kept while nothing new is brought to the store. -/
theorem follows (hs : h.SoundBut k late) (hf : Follows k h h') : h'.SoundBut k late where
  wired := hf.wired
  rows := by
    intro row hrow r hscan
    refine Or.imp_left (hf.knows r) ?_
    rcases hf.rows row hrow with hold | ⟨r', hr', rfl⟩
    · exact hs.rows row hold r hscan
    · -- the row gives back the record that it was made from, settled
      obtain rfl := Row.eq_of_scan_ofRecord hscan
      exact (hs.waiting r' hr').imp Snapshot.Knows.settle fun hlate => ⟨r', hlate, rfl⟩
  waiting := fun r hr => (hs.waiting r (hf.waiting r hr)).imp_left (hf.knows r)

theorem known (hs : h.SoundBut k late) (hlate : ∀ r, late r → (h.aggregate k.aggregate).Knows r) :
    h.Sound k where
  wired := hs.wired
  rows := fun row hrow r hscan => .inl ((hs.rows row hrow r hscan).elim id
    fun ⟨r', hr', heq⟩ => heq ▸ (hlate r' hr').settle)
  waiting := fun r hr => .inl ((hs.waiting r hr).elim id (hlate r))

theorem knows (hs : h.Sound k) {row : Row} (hrow : row ∈ (h.databaseAt k.store).rows) {r : Record}
    (hscan : row.scan = .ok (some r)) : (h.aggregate k.aggregate).Knows r :=
  (hs.rows row hrow r hscan).resolve_right fun ⟨_, hlate, _⟩ => hlate

/-- Giving an event to the persistence handler makes its record late. -/
theorem deliver_persistence (hs : h.Sound k) (e : Event) (c : Context) (now : Instant) :
    (h.deliver k.persistence e c now).SoundBut k
      fun r => h.isOn k.toggle = true ∧ r = e.normalize c now := by
  obtain ⟨hw, hagg, -, hdb, hwaiting⟩ := Host.deliver_persistence hs.wired e c now
  refine ⟨hw, fun row hrow r hscan => ?_, fun r hr => ?_⟩
  · rw [hagg]
    exact .inl (hs.knows (hdb ▸ hrow) hscan)
  · rw [hagg]
    exact (hwaiting r hr).imp_left fun hold => (hs.waiting r hold).resolve_right id

end SoundBut

/-- An event that has a time is normalized to one record, whenever that is done. -/
theorem normalize_stamp (e : Event) (c : Context) (stamped now now' : Instant) :
    (e.stamp stamped).normalize c now = (e.stamp stamped).normalize c now' := by
  simp [Event.normalize, Event.stamp]

/-- **Publishing an event keeps the invariant**, in whatever order the handlers stand and
whatever goes on between them. -/
theorem Sound.publish (hs : h.Sound k) (e : Event) (c : Context) (now : Instant)
    (turns : List Turn) : (h.happen k (.publish e c now turns)).Sound k := by
  rw [happen]
  generalize he : e.stamp now = stamped
  have hnormal : ∀ now₁ now₂, stamped.normalize c now₁ = stamped.normalize c now₂ := by
    subst he
    exact normalize_stamp e c now
  generalize hturn : turns.headD { now } = first
  generalize hturn' : turns.tail.headD { now } = second
  rcases List.perm_pair.mp hs.wired.handlers with horder | horder
  · -- the record is known before it can be written
    simp only [horder, passOn, hturn, hturn']
    obtain ⟨hrecorder, hknows⟩ := follows_deliver_recorder hs.wired stamped c first.now
    have hmeanwhile := follows_beside hrecorder.wired first.after
    have hbetween := hrecorder.trans hmeanwhile
    have hlate := (hs.follows hbetween).deliver_persistence stamped c second.now
    have hsound : Sound k _ := hlate.known fun r ⟨hon, hr⟩ => by
      obtain ⟨-, hagg, -⟩ := Host.deliver_persistence hbetween.wired stamped c second.now
      rw [hagg, hr, hnormal second.now first.now]
      exact hmeanwhile.knows _ (hknows (hbetween.isOn ▸ hon))
    exact hsound.follows (follows_beside hsound.wired second.after)
  · -- the record may be written before it is known
    simp only [horder, passOn, hturn, hturn']
    have hlate := hs.deliver_persistence stamped c first.now
    have hbetween := follows_beside hlate.wired first.after
    obtain ⟨hrecorder, hknows⟩ := follows_deliver_recorder hbetween.wired stamped c second.now
    have hsound : Sound k _ :=
      ((hlate.follows hbetween).follows hrecorder).known fun r ⟨hon, hr⟩ => by
        obtain ⟨-, -, hsame, -⟩ := Host.deliver_persistence hs.wired stamped c first.now
        rw [hr, hnormal first.now second.now]
        exact hknows (by rw [hbetween.isOn, hsame, hon])
    exact hsound.follows (follows_beside hsound.wired second.after)

/-- Whatever happens keeps the invariant. -/
theorem Sound.happen (hs : h.Sound k) (x : Happening) : (h.happen k x).Sound k := by
  cases x with
  | publish e c now turns => exact hs.publish e c now turns
  | toggle enabled =>
    exact ⟨⟨hs.wired.handlers, hs.wired.bridge, hs.wired.aggregate⟩, hs.rows, hs.waiting⟩
  | aside a => exact hs.follows (follows_aside hs.wired a)

/-- **Whatever happens, however long, keeps the invariant.** -/
theorem Sound.run (hs : h.Sound k) (xs : List Happening) : (h.run k xs).Sound k := by
  induction xs generalizing h with
  | nil => exact hs
  | cons x xs ih => exact ih (hs.happen x)

/-! ### Publishing in one go

Where no other bridge has anything to write, publishing an event to the dispatcher is one of the
things that can happen. -/

/-- No bridge but that of the circuit has anything to write. -/
def Sole (k : Circuit) (h : Host) : Prop :=
  ∀ id, id ≠ k.bridge → h.waiting id = []

theorem Sole.finishWriteAt (hs : Sole k h) (i : Nat) : Sole k (h.finishWriteAt k.bridge i) := by
  intro id hid
  rcases finishWriteAt_cases h k.bridge i with heq | ⟨b, r, backlog, -, -, hparts, -⟩
  · rw [heq]
    exact hs id hid
  · rw [hparts.waiting, waiting, List.getElem?_set_ne (Ne.symm hid)]
    exact hs id hid

theorem Sole.deliver_recorder (hs : Sole k h) (e : Event) (c : Context) (now : Instant) :
    Sole k (h.deliver k.recorder e c now) := by
  rw [Circuit.recorder, deliver]
  split <;> exact hs

theorem Sole.deliver_persistence (hs : Sole k h) (e : Event) (c : Context) (now : Instant) :
    Sole k (h.deliver k.persistence e c now) := by
  intro id hid
  rw [Circuit.persistence, deliver]
  rcases bridgeEvent_cases h k.bridge e c now with heq | ⟨b, backlog, -, -, -, hparts, -⟩
  · rw [heq]
    exact hs id hid
  · rw [hparts.waiting, waiting, List.getElem?_set_ne (Ne.symm hid)]
    exact hs id hid

theorem beside_finish (hs : Sole k h) (n : Nat) :
    h.beside k (List.replicate n (.finish 0)) = h.finishWrites k.bridge n ∧
      Sole k (h.finishWrites k.bridge n) := by
  induction n generalizing h with
  | zero => exact ⟨rfl, hs⟩
  | succ n ih => exact ih (hs.finishWriteAt 0)

/-- All writes that need not wait are finished one after the other. -/
theorem settle_eq_beside (hs : Sole k h) :
    ∃ n, h.settle = h.beside k (List.replicate n (.finish 0)) := by
  rw [settle]
  generalize List.range h.bridges.length = ids
  induction ids generalizing h with
  | nil => exact ⟨0, rfl⟩
  | cons id ids ih =>
    rw [List.foldl_cons]
    by_cases hid : id = k.bridge
    · subst hid
      cases hb : h.bridges[k.bridge]? with
      | none => exact ih hs
      | some b =>
        dsimp only
        split
        · exact ih hs
        · -- the writes that wait on the bridge come first, then whatever the other bridges have
          obtain ⟨hbeside, hsole⟩ := beside_finish hs b.backlog.pending
          obtain ⟨n, hn⟩ := ih hsole
          refine ⟨b.backlog.pending + n, ?_⟩
          rw [flush, hb, hn, ← hbeside, List.replicate_add, beside, beside, beside,
            List.foldl_append]
    · have hidle := hs id hid
      cases hb : h.bridges[id]? with
      | none => exact ih hs
      | some b =>
        rw [waiting_of_bridge hb] at hidle
        have hflush : h.flush id = h := by
          rw [flush, hb]
          dsimp only
          rw [Backlog.pending, hidle]
          rfl
        dsimp only
        rw [hflush, ite_self]
        exact ih hs

/-- **Publishing an event to the dispatcher in one go is one of the things that can happen**,
with nothing but writes being finished meanwhile. -/
theorem publish_eq_happen (hw : h.Wired k) (hs : Sole k h) (e : Event) (c : Context)
    (now : Instant) :
    ∃ turns, h.publish k.dispatcher e c now = h.happen k (.publish e c now turns) ∧
      (Happening.publish e c now turns).isTraffic = true := by
  have hfinish : ∀ n, (List.replicate n (Aside.finish 0)).all Aside.isFinish = true := fun n => by
    rw [List.all_replicate]
    simp [Aside.isFinish]
  unfold publish happen
  rcases List.perm_pair.mp hw.handlers with horder | horder
  · -- the writes are finished once both handlers are through
    obtain ⟨n, hn⟩ := settle_eq_beside
      ((hs.deliver_recorder (e.stamp now) c now).deliver_persistence (e.stamp now) c now)
    refine ⟨[{ now }, { now, after := List.replicate n (.finish 0) }], ?_, ?_⟩
    · rw [horder]
      exact hn
    · simp [Happening.isTraffic, hfinish]
  · obtain ⟨n, hn⟩ := settle_eq_beside (hs.deliver_persistence (e.stamp now) c now)
    refine ⟨[{ now, after := List.replicate n (.finish 0) }], ?_, ?_⟩
    · rw [horder]
      exact congrArg (fun h : Host => h.deliver k.recorder (e.stamp now) c now) hn
    · simp [Happening.isTraffic, hfinish]

/-! ### Publishing one event after the other -/

theorem SameParts.sole (hp : h.SameParts h') (hs : Sole k h) : Sole k h' := fun id hid => by
  rw [hp.waiting]
  exact hs id hid

/-- What goes on beside the events gives no other bridge anything to write. -/
theorem Sole.aside (hw : h.Wired k) (hs : Sole k h) (a : Aside) : Sole k (h.aside k a) := by
  cases a with
  | finish i => exact hs.finishWriteAt i
  | restore =>
    obtain ⟨h', hparts, -, ⟨e, hload⟩ | ⟨found, -, -, hload⟩⟩ := loadAndMerge_cases hw <;>
    · rw [Host.aside, hload]
      exact hparts.sole hs
  | ask id call =>
    rw [Host.aside]
    split
    · exact hs
    · exact (sameParts_onStore h id _).sole hs
  | disturb l act =>
    rw [Host.aside]
    split
    · exact (sameParts_disturb h l act).sole hs
    · exact hs

theorem Sole.beside (hw : h.Wired k) (hs : Sole k h) (as : List Aside) :
    Sole k (h.beside k as) := by
  induction as generalizing h with
  | nil => exact hs
  | cons a as ih => exact ih (follows_aside hw a).wired (hs.aside hw a)

/-- The handlers of the dispatcher keep the parts, and give no other bridge anything to write. -/
theorem Sole.passOn (hw : h.Wired k) (hs : Sole k h) (e : Event) (c : Context) (now : Instant)
    {handlers : List Handler} (hhandlers : ∀ x ∈ handlers, x = k.recorder ∨ x = k.persistence)
    (turns : List Turn) :
    (h.passOn k e c now handlers turns).Wired k ∧ Sole k (h.passOn k e c now handlers turns) := by
  induction handlers generalizing h turns with
  | nil => exact ⟨hw, hs⟩
  | cons handler rest ih =>
    rw [Host.passOn]
    generalize turns.headD { now } = turn
    obtain ⟨hw', hs'⟩ : (h.deliver handler e c turn.now).Wired k ∧
        Sole k (h.deliver handler e c turn.now) := by
      rcases hhandlers handler List.mem_cons_self with rfl | rfl
      · exact ⟨(follows_deliver_recorder hw e c turn.now).1.wired, hs.deliver_recorder e c turn.now⟩
      · exact ⟨(Host.deliver_persistence hw e c turn.now).1, hs.deliver_persistence e c turn.now⟩
    exact ih (follows_beside hw' turn.after).wired (hs'.beside hw' turn.after)
      (fun x hx => hhandlers x (List.mem_cons_of_mem _ hx)) turns.tail

/-- Events are published to a dispatcher one after the other, each in one go. -/
def publishAll (h : Host) (dispatcher : Nat) (es : List (Event × Context × Instant)) : Host :=
  es.foldl (fun h (e, c, now) => h.publish dispatcher e c now) h

/-- **Events that are published one after the other are traffic**, with the records that they are
normalized to. -/
theorem exists_run_of_publishAll (hw : h.Wired k) (hs : Sole k h)
    (es : List (Event × Context × Instant)) :
    ∃ xs, h.publishAll k.dispatcher es = h.run k xs ∧ (∀ x ∈ xs, x.isTraffic = true) ∧
      published xs = es.map fun (e, c, now) => e.normalize c now := by
  induction es generalizing h with
  | nil => exact ⟨[], rfl, by simp, rfl⟩
  | cons first es ih =>
    obtain ⟨e, c, now⟩ := first
    -- each publish is a happening of its own, with the turns that settle its writes
    obtain ⟨turns, hpublish, htraffic⟩ := publish_eq_happen hw hs e c now
    obtain ⟨hw', hs'⟩ := hs.passOn hw (e.stamp now) c now
      (fun x hx => by simpa using hw.handlers.mem_iff.mp hx) turns
    obtain ⟨xs, hrun, hxs, hpublished⟩ := ih hw' hs'
    refine ⟨.publish e c now turns :: xs, ?_, List.forall_mem_cons.mpr ⟨htraffic, hxs⟩, ?_⟩
    · have hfirst : h.publishAll k.dispatcher ((e, c, now) :: es) =
          (h.publish k.dispatcher e c now).publishAll k.dispatcher es := rfl
      rw [hfirst, hpublish]
      exact hrun
    · exact congrArg (e.normalize c now :: ·) hpublished

end Host

end UsageLedger
