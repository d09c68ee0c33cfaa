import Mathlib.Algebra.Order.BigOperators.Group.List
import Mathlib.Algebra.Order.Ring.Nat
import Mathlib.Algebra.Group.Action.Defs
import Mathlib.Logic.Relation

/-!
Items that are worked on at most `limit` at a time. Whenever one of them comes to its end, the
next one that waits takes its place.
-/

namespace VantageNet.Interaction

structure Window (τ : Type) where
  limit : ℕ
  waiting : List τ
  running : List τ
  bounded : running.length ≤ limit

namespace Window

variable {τ : Type}

def refill (w : Window τ) : Window τ where
  limit := w.limit
  waiting := w.waiting.drop (w.limit - w.running.length)
  running := w.running ++ w.waiting.take (w.limit - w.running.length)
  bounded := by
    have hbounded := w.bounded
    rw [List.length_append, List.length_take]
    omega

def start (limit : ℕ) (items : List τ) : Window τ := refill ⟨limit, items, [], Nat.zero_le limit⟩

/-- Item `i` has come to its end. -/
def finish (w : Window τ) (i : ℕ) : Window τ :=
  refill ⟨w.limit, w.waiting, w.running.eraseIdx i, (List.length_eraseIdx_le _ _).trans w.bounded⟩

def replace (w : Window τ) (i : ℕ) (x : τ) : Window τ :=
  ⟨w.limit, w.waiting, w.running.set i x, (List.length_set ..).trans_le w.bounded⟩

/-- Nothing is worked on any more. -/
def stop (w : Window τ) : Window τ := ⟨w.limit, [], [], Nat.zero_le w.limit⟩

def mapWaiting (w : Window τ) (f : τ → τ) : Window τ := { w with waiting := w.waiting.map f }

/-- The items that have not come to their end. -/
def pending (w : Window τ) : ℕ := w.waiting.length + w.running.length

/-- What is in use by all items together, where each one uses `load`. -/
def inUse (w : Window τ) (load : τ → ℕ) : ℕ := (w.running.map load).sum

@[simp]
theorem limit_refill (w : Window τ) : w.refill.limit = w.limit := rfl

@[simp]
theorem limit_start (limit : ℕ) (items : List τ) : (start limit items).limit = limit := rfl

@[simp]
theorem limit_finish (w : Window τ) (i : ℕ) : (w.finish i).limit = w.limit := rfl

@[simp]
theorem limit_replace (w : Window τ) (i : ℕ) (x : τ) : (w.replace i x).limit = w.limit := rfl

@[simp]
theorem running_replace (w : Window τ) (i : ℕ) (x : τ) : (w.replace i x).running = w.running.set i x := rfl

@[simp]
theorem waiting_replace (w : Window τ) (i : ℕ) (x : τ) : (w.replace i x).waiting = w.waiting := rfl

@[simp]
theorem running_stop (w : Window τ) : w.stop.running = [] := rfl

@[simp]
theorem limit_mapWaiting (w : Window τ) (f : τ → τ) : (w.mapWaiting f).limit = w.limit := rfl

@[simp]
theorem running_mapWaiting (w : Window τ) (f : τ → τ) : (w.mapWaiting f).running = w.running := rfl

theorem replace_self {w : Window τ} {i : ℕ} {x : τ} (hx : w.running[i]? = some x) : w.replace i x = w := by
  obtain ⟨hi, rfl⟩ := List.getElem?_eq_some_iff.mp hx
  simp only [replace, List.set_getElem_self]

theorem replace_replace (w : Window τ) (i : ℕ) (x y : τ) : (w.replace i x).replace i y = w.replace i y := by
  simp only [replace, List.set_set]

theorem finish_replace (w : Window τ) (i : ℕ) (x : τ) : (w.replace i x).finish i = w.finish i := by
  simp only [finish, replace, List.eraseIdx_set_eq]

theorem running_start (limit : ℕ) (items : List τ) : (start limit items).running = items.take limit := rfl

theorem length_running_start (limit : ℕ) (items : List τ) :
    (start limit items).running.length = min limit items.length := by
  rw [running_start, List.length_take]

theorem first_start {limit : ℕ} {x : τ} (items : List τ) (hlimit : 0 < limit) (hx : items[0]? = some x) :
    (start limit items).running[0]? = some x := by
  rw [running_start, List.getElem?_take_of_lt hlimit, hx]

theorem pending_refill (w : Window τ) : w.refill.pending = w.pending := by
  simp only [pending, refill, List.length_drop, List.length_append, List.length_take]
  omega

theorem pending_start (limit : ℕ) (items : List τ) : (start limit items).pending = items.length :=
  pending_refill _

theorem pending_finish {w : Window τ} {i : ℕ} (hi : i < w.running.length) : (w.finish i).pending + 1 = w.pending := by
  have hpending := pending_refill (⟨w.limit, w.waiting, w.running.eraseIdx i,
    (List.length_eraseIdx_le _ _).trans w.bounded⟩ : Window τ)
  have hlength := List.length_eraseIdx_of_lt hi
  simp only [pending] at hpending ⊢
  rw [finish, hpending, hlength]
  omega

@[simp]
theorem pending_replace (w : Window τ) (i : ℕ) (x : τ) : (w.replace i x).pending = w.pending := by
  simp only [pending, waiting_replace, running_replace, List.length_set]

@[simp]
theorem pending_mapWaiting (w : Window τ) (f : τ → τ) : (w.mapWaiting f).pending = w.pending := by
  simp only [pending, mapWaiting, List.length_map]

@[simp]
theorem pending_stop (w : Window τ) : w.stop.pending = 0 := rfl

theorem length_running_le (w : Window τ) : w.running.length ≤ min w.limit w.pending :=
  le_min w.bounded (Nat.le_add_left _ _)

/-- An item comes to its end. -/
def Finishes (w w' : Window τ) : Prop := ∃ i x, w.running[i]? = some x ∧ w' = w.finish i

/-- All that run, and all that then take their places, may come to their ends. -/
theorem exists_idle (w : Window τ) : ∃ w', Relation.ReflTransGen Finishes w w' ∧ w'.running = [] := by
  generalize hn : w.pending = n
  induction n using Nat.strong_induction_on generalizing w with
  | _ n ih =>
    rcases hrunning : w.running with _ | ⟨x, rest⟩
    · exact ⟨w, .refl, hrunning⟩
    · have hx : w.running[0]? = some x := by rw [hrunning]; rfl
      have hpending := pending_finish (List.getElem?_eq_some_iff.mp hx).1
      obtain ⟨w', hfinishes, hidle⟩ := ih (w.finish 0).pending (by omega) (w.finish 0) rfl
      exact ⟨w', .head ⟨0, x, hx, rfl⟩ hfinishes, hidle⟩

/-- `P` holds of all that run and of all that wait. -/
structure Forall (P : τ → Prop) (w : Window τ) : Prop where
  running : ∀ x ∈ w.running, P x
  waiting : ∀ x ∈ w.waiting, P x

namespace Forall

variable {P : τ → Prop} {w : Window τ}

theorem refill (h : w.Forall P) : w.refill.Forall P := by
  constructor
  · intro x hx
    rcases List.mem_append.mp hx with hx | hx
    · exact h.running x hx
    · exact h.waiting x (List.mem_of_mem_take hx)
  · exact fun x hx => h.waiting x (List.mem_of_mem_drop hx)

theorem start {items : List τ} (limit : ℕ) (h : ∀ x ∈ items, P x) : (Window.start limit items).Forall P :=
  refill ⟨fun _ hx => absurd hx List.not_mem_nil, h⟩

theorem finish (h : w.Forall P) (i : ℕ) : (w.finish i).Forall P :=
  refill ⟨fun x hx => h.running x (List.mem_of_mem_eraseIdx hx), h.waiting⟩

theorem replace (h : w.Forall P) (i : ℕ) {x : τ} (hx : P x) : (w.replace i x).Forall P := by
  refine ⟨fun y hy => ?_, h.waiting⟩
  rcases List.mem_or_eq_of_mem_set hy with hy | rfl
  · exact h.running y hy
  · exact hx

theorem mapWaiting (h : w.Forall P) {f : τ → τ} (hf : ∀ x, P x → P (f x)) : (w.mapWaiting f).Forall P :=
  ⟨h.running, List.forall_mem_map.mpr (fun x hx => hf x (h.waiting x hx))⟩

end Forall

/-- With one item, what holds of the item holds of all. -/
theorem forall_replace_only {P : τ → Prop} {w : Window τ} (hone : w.pending ≤ 1) {i : ℕ} (hi : i < w.running.length)
    {x : τ} (hx : P x) : (w.replace i x).Forall P := by
  rw [pending] at hone
  have hrunning : w.running.length = 1 := by omega
  have hwaiting : w.waiting = [] := List.length_eq_zero_iff.mp (by omega)
  obtain ⟨y, hy⟩ := List.length_eq_one_iff.mp hrunning
  obtain rfl : i = 0 := by omega
  constructor
  · rw [running_replace, hy]
    exact List.forall_mem_singleton.mpr hx
  · rw [waiting_replace, hwaiting]
    exact fun _ h => absurd h List.not_mem_nil

theorem inUse_le {w : Window τ} {load : τ → ℕ} {n : ℕ} (h : ∀ x ∈ w.running, load x ≤ n) :
    w.inUse load ≤ min w.limit w.pending * n := by
  have hsum := List.sum_le_card_nsmul (w.running.map load) n (List.forall_mem_map.mpr h)
  rw [List.length_map, smul_eq_mul] at hsum
  exact hsum.trans (Nat.mul_le_mul_right n w.length_running_le)

theorem inUse_start (limit : ℕ) {items : List τ} {load : τ → ℕ} {n : ℕ} (h : ∀ x ∈ items, load x = n) :
    (start limit items).inUse load = min limit items.length * n := by
  have hconst : (items.take limit).map load = List.replicate (min limit items.length) n := by
    rw [List.eq_replicate_iff, List.length_map, List.length_take]
    exact ⟨rfl, List.forall_mem_map.mpr (fun x hx => h x (List.mem_of_mem_take hx))⟩
  rw [inUse, running_start, hconst, List.sum_replicate, smul_eq_mul]

/-- Nothing waits while nothing runs. -/
def Filled (w : Window τ) : Prop := w.running = [] → w.waiting = []

theorem filled_refill {w : Window τ} (hlimit : 0 < w.limit) : w.refill.Filled := by
  intro h
  simp only [refill, List.append_eq_nil_iff, List.take_eq_nil_iff] at h ⊢
  obtain ⟨hrunning, hzero | hwaiting⟩ := h
  · rw [hrunning, List.length_nil] at hzero
    omega
  · rw [hwaiting, List.drop_nil]

theorem filled_start {limit : ℕ} (hlimit : 0 < limit) (items : List τ) : (start limit items).Filled := filled_refill hlimit

theorem filled_finish {w : Window τ} (hlimit : 0 < w.limit) (i : ℕ) : (w.finish i).Filled := filled_refill hlimit

theorem Filled.replace {w : Window τ} (h : w.Filled) (i : ℕ) (x : τ) : (w.replace i x).Filled :=
  fun hnil => h (by simpa using hnil)

theorem Filled.mapWaiting {w : Window τ} (h : w.Filled) (f : τ → τ) : (w.mapWaiting f).Filled :=
  fun hnil => List.map_eq_nil_iff.mpr (h hnil)

section drain

variable {β : Type} {f : τ → Option β}

/-- What the items come to when all of them are worked on. `pick` says which one is the next to come to
its end. -/
def drain (f : τ → Option β) (pick : ℕ → ℕ) : ℕ → Window τ → List β
  | 0, _ => []
  | n + 1, w =>
    match w.running[pick n % w.running.length]? with
    | none => []
    | some x => (f x).toList ++ drain f pick n (w.finish (pick n % w.running.length))

theorem perm_finish {w : Window τ} {i : ℕ} {x : τ} (hx : w.running[i]? = some x) :
    (x :: ((w.finish i).running ++ (w.finish i).waiting)).Perm (w.running ++ w.waiting) := by
  obtain ⟨hi, rfl⟩ := List.getElem?_eq_some_iff.mp hx
  have hall : (w.finish i).running ++ (w.finish i).waiting = w.running.eraseIdx i ++ w.waiting := by
    simp only [finish, refill, List.append_assoc, List.take_append_drop]
  rw [hall, ← List.cons_append]
  exact (List.getElem_cons_eraseIdx_perm hi).append_right _

theorem perm_drain (pick : ℕ → ℕ) {n : ℕ} {w : Window τ} (hlimit : 0 < w.limit) (hfilled : w.Filled)
    (hpending : w.pending ≤ n) : (drain f pick n w).Perm ((w.running ++ w.waiting).filterMap f) := by
  induction n generalizing w with
  | zero =>
    obtain ⟨hwaiting, hrunning⟩ := Nat.add_eq_zero_iff.mp (Nat.le_zero.mp hpending)
    rw [List.length_eq_zero_iff.mp hwaiting, List.length_eq_zero_iff.mp hrunning]
    exact .refl _
  | succ n ih =>
    rw [drain]
    cases hx : w.running[pick n % w.running.length]? with
    | none =>
      have hnil : w.running = [] := by
        by_contra hne
        have hlt := Nat.mod_lt (pick n) (List.length_pos_iff.mpr hne)
        rw [List.getElem?_eq_none_iff] at hx
        omega
      rw [hnil, hfilled hnil]
      exact .refl _
    | some x =>
      obtain ⟨hi, -⟩ := List.getElem?_eq_some_iff.mp hx
      have hless := pending_finish hi
      have hrest := ih (w := w.finish (pick n % w.running.length)) hlimit (filled_refill hlimit) (by omega)
      refine (hrest.append_left _).trans (.trans ?_ ((perm_finish hx).filterMap f))
      rw [List.filterMap_cons]
      cases f x <;> exact .refl _

/-- However the items come to their ends, each one is counted once. -/
theorem perm_drain_start (pick : ℕ → ℕ) {limit : ℕ} (hlimit : 0 < limit) (items : List τ) :
    (drain f pick items.length (start limit items)).Perm (items.filterMap f) := by
  have hall : (start limit items).running ++ (start limit items).waiting = items := List.take_append_drop limit items
  have hdrain := perm_drain (f := f) pick (w := start limit items) hlimit (filled_refill hlimit) (pending_start limit items).le
  rwa [hall] at hdrain

end drain

end Window

end VantageNet.Interaction
