/-!
# Cancellation flags

An operation that takes long is called off by raising its flag.  A flag can be cloned, and all
clones are raised together.  A guard raises a flag when it is dropped, unless it was disarmed
before, so that the work of a caller who gave up is called off too.

## Main definitions

* `Flags`: flags in classes of clones, the classes that are raised, and the guards.
* `Flags.Step`, `Flags.step`: what can be done with them.
* `Flags.states`: whether each flag is raised.
-/

namespace UsageLedger

/-- Flags, numbered in the order in which they were made, and guards of them. -/
structure Flags where
  /-- For each flag the number of its class of clones. -/
  classes : List Nat
  /-- For each class whether it is raised. -/
  raised : List Bool
  /-- For each guard the class that it raises when dropped, or nothing once it is gone. -/
  guards : List (Option Nat)

namespace Flags

/-- What can be done with flags and guards. -/
inductive Step where
  /-- A flag of a new class is made. -/
  | new
  /-- Flag `i` is cloned. -/
  | clone (i : Nat)
  /-- Flag `i` is raised. -/
  | cancel (i : Nat)
  /-- A guard of flag `i` is made. -/
  | guard (i : Nat)
  /-- Guard `g` is dropped. -/
  | drop (g : Nat)
  /-- Guard `g` is disarmed. -/
  | disarm (g : Nat)
  deriving DecidableEq

/-- One flag, not raised. -/
def initial : Flags :=
  ⟨[0], [false], []⟩

/-- The flags with one class raised. -/
def raise (f : Flags) (k : Nat) : Flags :=
  { f with raised := f.raised.set k true }

/-- The flags after one step; a step that names a flag which was never made does nothing, as
does one that names a guard which is gone. -/
def step (f : Flags) : Step → Flags
  | .new => { f with classes := f.classes ++ [f.raised.length], raised := f.raised ++ [false] }
  | .clone i =>
    match f.classes[i]? with
    | some k => { f with classes := f.classes ++ [k] }
    | none => f
  | .cancel i =>
    match f.classes[i]? with
    | some k => f.raise k
    | none => f
  | .guard i =>
    match f.classes[i]? with
    | some k => { f with guards := f.guards ++ [some k] }
    | none => f
  | .drop g =>
    match f.guards[g]? with
    | some (some k) => { f.raise k with guards := f.guards.set g none }
    | _ => f
  | .disarm g => { f with guards := f.guards.set g none }

/-- The flags after a row of steps. -/
def run (f : Flags) (steps : List Step) : Flags :=
  steps.foldl step f

/-- The flag with a number is raised. -/
def isRaised (f : Flags) (i : Nat) : Bool :=
  match f.classes[i]? with
  | some k => f.raised.getD k false
  | none => false

/-- For each flag whether it is raised. -/
def states (f : Flags) : List Bool :=
  f.classes.map fun k => f.raised.getD k false

end Flags

end UsageLedger
