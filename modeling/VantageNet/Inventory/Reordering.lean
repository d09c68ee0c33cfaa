import VantageNet.Inventory.Numbering
import Mathlib.Data.List.Sort

/-!
Entities are reordered and numbered anew: `reorder_positions` and `renumber_positions` of `shared/position.rs`.
-/

namespace VantageNet.Inventory

open Interaction

/-- Entities with a position. -/
structure Positioned (ε : Type) where
  position : ε → ℤ
  setPosition : ε → ℤ → ε
  id : ε → Uuid
  position_setPosition : ∀ e p, position (setPosition e p) = p
  setPosition_setPosition : ∀ e p q, setPosition (setPosition e p) q = setPosition e q
  setPosition_position : ∀ e, setPosition e (position e) = e
  id_setPosition : ∀ e p, id (setPosition e p) = id e

namespace Positioned

def interface : Positioned Interface where
  position := fun i => i.base.position
  setPosition := fun i p => { i with base := { i.base with position := p } }
  id := fun i => i.id
  position_setPosition := fun _ _ => rfl
  setPosition_setPosition := fun _ _ _ => rfl
  setPosition_position := fun _ => rfl
  id_setPosition := fun _ _ => rfl

def service : Positioned Service where
  position := fun s => s.base.position
  setPosition := fun s p => { s with base := { s.base with position := p } }
  id := fun s => s.id
  position_setPosition := fun _ _ => rfl
  setPosition_setPosition := fun _ _ _ => rfl
  setPosition_position := fun _ => rfl
  id_setPosition := fun _ _ => rfl

variable {ε : Type} (P : Positioned ε)

/-- `sort_by_key`, which is stable. -/
def sorted (entities : List ε) : List ε := entities.mergeSort (fun a b => P.position a ≤ P.position b)

section sorting

variable {P} {entities : List ε}

end sorting

section renumbering

variable {P} {entities : List ε}

end renumbering

section reordering

variable {P} {entities : List ε}

end reordering

section entities

/-- Entities of which only the ids and positions matter. -/
def plain : Positioned (Uuid × ℤ) where
  position := Prod.snd
  setPosition := fun e p => (e.1, p)
  id := Prod.fst
  position_setPosition := fun _ _ => rfl
  setPosition_setPosition := fun _ _ _ => rfl
  setPosition_position := fun _ => rfl
  id_setPosition := fun _ _ => rfl

def numbered (n : ℕ) : List (Uuid × ℤ) := (List.range n).map (fun i : ℕ => (Fin.ofNat _ i, (i : ℤ)))

end entities

end Positioned

end VantageNet.Inventory
