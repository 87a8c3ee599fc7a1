import Rewind.Notification
import Rewind.Timeline.Basic

/-!
# Reactions

What a listener does when it is told something.  A reaction is a tree of the things that a listener
can ask of its timeline, each with what it does on the answer, so one can say of a reaction what it
does not do: whether it fails, moves the cursor, or touches the registry.  `σ` is what all listeners
keep together between calls.
-/

namespace Rewind

/-- What a listener does when it is told something. -/
inductive Reaction (ι σ : Type) where
  /-- Returns. -/
  | done
  /-- Gives up. -/
  | fail (fault : Fault)
  /-- Looks at what the listeners keep and at the timeline. -/
  | look (next : σ → Timeline ι → Reaction ι σ)
  /-- Replaces what the listeners keep. -/
  | keep (kept : σ) (next : Reaction ι σ)
  /-- Asks for a move to a position. -/
  | moveTo (position : Int) (next : Except Fault Nat → Reaction ι σ)
  /-- Adds a listener. -/
  | addListener (listener : ι) (next : Reaction ι σ)
  /-- Removes a listener. -/
  | removeListener (listener : ι) (next : Except Fault Unit → Reaction ι σ)
  /-- Writes to the memory. -/
  | poke (address value : Int) (next : Reaction ι σ)

namespace Reaction

variable {ι σ : Type}

/-- Asks for a move by a number of steps from where the cursor is. -/
def moveBy (offset : Int) (next : Except Fault Nat → Reaction ι σ) : Reaction ι σ :=
  .look fun _ t => .moveTo (t.cursor + offset) next

/-- Returns on success and gives up on a fault. -/
def finish {α : Type} : Except Fault α → Reaction ι σ
  | .ok _ => .done
  | .error e => .fail e

/-- Whether a reaction leaves the registry as it is. -/
inductive LeavesRegistry : Reaction ι σ → Prop
  | done : LeavesRegistry .done
  | fail (e : Fault) : LeavesRegistry (.fail e)
  | look {k : σ → Timeline ι → Reaction ι σ} (h : ∀ s t, LeavesRegistry (k s t)) :
    LeavesRegistry (.look k)
  | keep (s : σ) {r : Reaction ι σ} (h : LeavesRegistry r) : LeavesRegistry (.keep s r)
  | moveTo (p : Int) {k : Except Fault Nat → Reaction ι σ} (h : ∀ a, LeavesRegistry (k a)) :
    LeavesRegistry (.moveTo p k)
  | poke (a v : Int) {r : Reaction ι σ} (h : LeavesRegistry r) : LeavesRegistry (.poke a v r)

/-- Whether a reaction leaves the memory as it is. -/
inductive LeavesMemory : Reaction ι σ → Prop
  | done : LeavesMemory .done
  | fail (e : Fault) : LeavesMemory (.fail e)
  | look {k : σ → Timeline ι → Reaction ι σ} (h : ∀ s t, LeavesMemory (k s t)) :
    LeavesMemory (.look k)
  | keep (s : σ) {r : Reaction ι σ} (h : LeavesMemory r) : LeavesMemory (.keep s r)
  | moveTo (p : Int) {k : Except Fault Nat → Reaction ι σ} (h : ∀ a, LeavesMemory (k a)) :
    LeavesMemory (.moveTo p k)
  | addListener (l : ι) {r : Reaction ι σ} (h : LeavesMemory r) : LeavesMemory (.addListener l r)
  | removeListener (l : ι) {k : Except Fault Unit → Reaction ι σ} (h : ∀ a, LeavesMemory (k a)) :
    LeavesMemory (.removeListener l k)

/-- Whether a reaction in a move never gives up.  Moves that it asks for there are refused. -/
inductive Returns : Reaction ι σ → Prop
  | done : Returns .done
  | look {k : σ → Timeline ι → Reaction ι σ} (h : ∀ s t, Returns (k s t)) : Returns (.look k)
  | keep (s : σ) {r : Reaction ι σ} (h : Returns r) : Returns (.keep s r)
  | moveTo (p : Int) {k : Except Fault Nat → Reaction ι σ} (h : Returns (k (.error .moveInProgress))) :
    Returns (.moveTo p k)
  | addListener (l : ι) {r : Reaction ι σ} (h : Returns r) : Returns (.addListener l r)
  | removeListener (l : ι) {k : Except Fault Unit → Reaction ι σ} (h : ∀ a, Returns (k a)) :
    Returns (.removeListener l k)
  | poke (a v : Int) {r : Reaction ι σ} (h : Returns r) : Returns (.poke a v r)

end Reaction

end Rewind
