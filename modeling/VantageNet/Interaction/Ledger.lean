import Mathlib.Algebra.BigOperators.Group.Finset.Basic
import VantageNet.Interaction.Tracking

/-!
Points that add up: what a pool of threads has taken upon itself altogether.
-/

namespace VantageNet.Interaction

variable {S : Signature} {ε L C σ A M : Type} [AddCommMonoid M]

/-- What the points come to when each is worth `f`. -/
def Tracked.worth (f : A → M) (w : Tracked S ε L C σ A) : M := ∑ j ∈ Finset.range w.pool.threads.length, f (w.points j)

namespace Tracking

variable [DecidableEq L] {T : Tracking S ε L C σ A} {w w' : Tracked S ε L C σ A}

theorem worth_spawn (f : A → M) (c : C) : (T.step w (.spawn c)).worth f = w.worth f + f (T.start c) := by
  have hlength : (T.step w (.spawn c)).pool.threads.length = w.pool.threads.length + 1 := by
    simp [step, Pool.step]
  unfold Tracked.worth
  rw [hlength, Finset.sum_range_succ, points_spawn_self]
  congr 1
  apply Finset.sum_congr rfl
  intro j hj
  rw [points_spawn_of_ne c]
  have hj := Finset.mem_range.mp hj
  omega

omit [DecidableEq L] in
theorem Passes.worth_eq (h : Passes w w') (f : A → M) : w'.worth f = w.worth f := by
  unfold Tracked.worth
  rw [h.length, h.points]

theorem Acts.worth_eq {i : ℕ} {o : S.Op} {k : S.Reply o → Program S ε Unit} {answer : S.Reply o}
    {t : Thread S ε L C} (h : T.Acts w w' i o k answer t) (f : A → M) : ∃ rest, w.worth f = f (w.points i) + rest ∧
      w'.worth f = f (T.monitor.next (w.points i) o (T.scheme.handler o answer w.pool.state).1) + rest := by
  have hi : i ∈ Finset.range w.pool.threads.length := Finset.mem_range.mpr (w.lt_of_running h.running)
  refine ⟨∑ j ∈ (Finset.range w.pool.threads.length).erase i, f (w.points j), ?_, ?_⟩
  · exact (Finset.add_sum_erase _ (fun j => f (w.points j)) hi).symm
  · unfold Tracked.worth
    rw [h.length, ← Finset.add_sum_erase _ (fun j => f (w'.points j)) hi]
    rw [h.own]
    congr 1
    apply Finset.sum_congr rfl
    intro j hj
    rw [h.other (Finset.ne_of_mem_erase hj)]

end Tracking

section total

variable [AddCommMonoid A]

def Tracked.total (w : Tracked S ε L C σ A) : A := ∑ j ∈ Finset.range w.pool.threads.length, w.points j

namespace Tracking

variable [DecidableEq L] {T : Tracking S ε L C σ A} {w w' : Tracked S ε L C σ A}

theorem total_spawn (c : C) : (T.step w (.spawn c)).total = w.total + T.start c := worth_spawn id c

omit [DecidableEq L] in
theorem Passes.total_eq (h : Passes w w') : w'.total = w.total := h.worth_eq id

theorem Acts.total_eq {i : ℕ} {o : S.Op} {k : S.Reply o → Program S ε Unit} {answer : S.Reply o}
    {t : Thread S ε L C} (h : T.Acts w w' i o k answer t) : ∃ rest, w.total = w.points i + rest ∧
      w'.total = T.monitor.next (w.points i) o (T.scheme.handler o answer w.pool.state).1 + rest := h.worth_eq id

omit [DecidableEq L] in
theorem total_eq_zero (h : ∀ j < w.pool.threads.length, w.points j = 0) : w.total = 0 :=
  Finset.sum_eq_zero (fun j hj => h j (Finset.mem_range.mp hj))

end Tracking

end total

end VantageNet.Interaction
