import Mathlib.Data.List.Nodup
import Mathlib.Logic.Function.Basic

/-!
Tickets waiting at desks: every ticket in circulation belongs to one desk and stands
once in that desk's queue. Tickets join at the back and leave from anywhere.
-/

namespace VantageNet.Interaction

structure Registry (D K : Type) where
  owner : K → Option D
  queue : D → List K
  mem_queue : ∀ d k, k ∈ queue d ↔ owner k = some d
  nodup : ∀ d, (queue d).Nodup

variable {D K : Type}

namespace Registry

def empty : Registry D K := ⟨fun _ => none, fun _ => [], by simp, by simp⟩

section

variable [DecidableEq D] [DecidableEq K]

def enter (R : Registry D K) (d : D) (k : K) (h : R.owner k = none) : Registry D K where
  owner := Function.update R.owner k (some d)
  queue e := if e = d then R.queue d ++ [k] else R.queue e
  mem_queue e j := by
    by_cases hj : j = k
    · subst hj
      have hnot : ∀ e, j ∉ R.queue e := fun e he => by simp [(R.mem_queue e j).mp he] at h
      by_cases he : e = d
      · simp [he]
      · simp [he, hnot e, Ne.symm he]
    · by_cases he : e = d
      · subst he
        simp [hj, R.mem_queue]
      · simp [hj, he, R.mem_queue]
  nodup e := by
    have hnot : k ∉ R.queue d := fun he => by simp [(R.mem_queue d k).mp he] at h
    by_cases he : e = d
    · simp only [he, ↓reduceIte]
      exact (R.nodup d).append (by simp) (by simpa using hnot)
    · simpa only [he, ↓reduceIte] using R.nodup e

def remove (R : Registry D K) (ks : List K) : Registry D K where
  owner k := if k ∈ ks then none else R.owner k
  queue d := (R.queue d).filter (fun k => k ∉ ks)
  mem_queue d k := by by_cases hk : k ∈ ks <;> simp [hk, R.mem_queue]
  nodup d := (R.nodup d).filter _

inductive Step : Registry D K → Registry D K → Prop
  | enter (R : Registry D K) (d : D) (k : K) (h : R.owner k = none) : Step R (R.enter d k h)
  | remove (R : Registry D K) (ks : List K) : Step R (R.remove ks)

end

theorem disjoint (R : Registry D K) {d e : D} (h : d ≠ e) : (R.queue d).Disjoint (R.queue e) := by
  intro k hd he
  have hk := ((R.mem_queue d k).mp hd).symm.trans ((R.mem_queue e k).mp he)
  exact h (Option.some.inj hk)

theorem owner_isSome_iff (R : Registry D K) (k : K) : (R.owner k).isSome ↔ ∃ d, k ∈ R.queue d := by
  simp only [R.mem_queue, Option.isSome_iff_exists]

end Registry

end VantageNet.Interaction
