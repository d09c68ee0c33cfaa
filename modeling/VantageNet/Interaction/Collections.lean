import Mathlib.Data.Finmap
import Mathlib.Data.Finset.Sort

/-!
Hash maps without an order of their own, the orders in which one may be iterated,
and the heads of waiting queues that grow at the back.
-/

namespace VantageNet.Interaction

abbrev HashMap (K V : Type) := Finmap (fun _ : K => V)

variable {K V : Type}

section

variable [DecidableEq K]

def HashMap.get (m : HashMap K V) (k : K) : Option V := m.lookup k

theorem get_insert (m : HashMap K V) (k j : K) (v : V) :
    HashMap.get (m.insert k v) j = if j = k then some v else m.get j := by
  unfold HashMap.get
  split_ifs with h
  · rw [h, Finmap.lookup_insert]
  · exact Finmap.lookup_insert_of_ne m h

theorem get_erase (m : HashMap K V) (k j : K) :
    HashMap.get (m.erase k) j = if j = k then none else m.get j := by
  unfold HashMap.get
  split_ifs with h
  · rw [h, Finmap.lookup_erase]
  · exact Finmap.lookup_erase_ne h

theorem mem_iff_get (m : HashMap K V) (k : K) : k ∈ m ↔ ∃ v, m.get k = some v := Finmap.mem_iff

theorem get_eq_none (m : HashMap K V) (k : K) : m.get k = none ↔ k ∉ m := Finmap.lookup_eq_none

theorem ext_get {m m' : HashMap K V} (h : ∀ k, m.get k = m'.get k) : m = m' := Finmap.ext_lookup h

theorem erase_of_get_eq_none {m : HashMap K V} {k : K} (h : m.get k = none) : m.erase k = m := by
  apply ext_get
  intro j
  rw [get_erase]
  split_ifs with hj
  · rw [hj, h]
  · rfl

def HashMap.IsOrder (m : HashMap K V) (order : List K) : Prop := (order : Multiset K) = m.keys.val

instance (m : HashMap K V) (order : List K) : Decidable (HashMap.IsOrder m order) :=
  inferInstanceAs (Decidable ((order : Multiset K) = m.keys.val))

omit [DecidableEq K] in
theorem HashMap.IsOrder.mem_iff {m : HashMap K V} {order : List K} (h : HashMap.IsOrder m order) (k : K) :
    k ∈ order ↔ k ∈ m := by
  rw [← Finmap.mem_keys, ← Finset.mem_val, ← show (order : Multiset K) = m.keys.val from h,
    Multiset.mem_coe]

end

section

variable [LinearOrder K]

/-- The order of an iteration: the proposed one where it lists every key once. -/
def HashMap.order (m : HashMap K V) (proposed : List K) : List K :=
  if HashMap.IsOrder m proposed then proposed else m.keys.sort (· ≤ ·)

theorem order_isOrder (m : HashMap K V) (proposed : List K) :
    HashMap.IsOrder m (HashMap.order m proposed) := by
  unfold HashMap.order
  split_ifs with h
  · exact h
  · exact Finset.sort_eq m.keys (· ≤ ·)

theorem order_of_isOrder {m : HashMap K V} {order : List K} (h : HashMap.IsOrder m order) :
    HashMap.order m order = order := if_pos h

def HashMap.iter (m : HashMap K V) (proposed : List K) : List (K × V) :=
  (HashMap.order m proposed).filterMap (fun k => (m.get k).map (fun v => (k, v)))

theorem exists_isOrder_cons {m : HashMap K V} {k : K} (h : k ∈ m) :
    ∃ rest, HashMap.IsOrder m (k :: rest) := by
  refine ⟨(m.keys.erase k).toList, ?_⟩
  change ((k :: (m.keys.erase k).toList : List K) : Multiset K) = m.keys.val
  rw [← Multiset.cons_coe, Finset.coe_toList, Finset.erase_val]
  exact Multiset.cons_erase (Finmap.mem_keys.mpr h)

theorem iter_cons {m : HashMap K V} {k : K} {v : V} {rest : List K} (h : HashMap.IsOrder m (k :: rest))
    (hk : m.get k = some v) : ∃ entries, HashMap.iter m (k :: rest) = (k, v) :: entries := by
  unfold HashMap.iter
  rw [order_of_isOrder h, List.filterMap_cons, hk]
  exact ⟨_, rfl⟩

theorem mem_iter (m : HashMap K V) (proposed : List K) (k : K) (v : V) :
    (k, v) ∈ HashMap.iter m proposed ↔ m.get k = some v := by
  simp only [HashMap.iter, List.mem_filterMap, Option.map_eq_some_iff, Prod.mk.injEq]
  constructor
  · rintro ⟨j, -, w, hw, rfl, rfl⟩
    exact hw
  · intro h
    exact ⟨k, ((order_isOrder m proposed).mem_iff k).mpr ((mem_iff_get m k).mpr ⟨v, h⟩), v, h, rfl, rfl⟩

end

theorem head?_push {α : Type} {l : List α} {a b : α} (h : l.head? = some a) : (l ++ [b]).head? = some a := by
  rw [List.head?_append, h]
  rfl

theorem head?_filter {α : Type} {p : α → Bool} {l : List α} {a : α} (h : l.head? = some a) (ha : p a = true) :
    (l.filter p).head? = some a := by
  cases l with
  | nil => cases h
  | cons x xs =>
    obtain rfl : x = a := Option.some.inj h
    simp [ha]

end VantageNet.Interaction
