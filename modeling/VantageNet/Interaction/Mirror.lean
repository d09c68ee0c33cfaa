import VantageNet.Interaction.Collections

/-!
Entries of a map that stand for something kept elsewhere. Under each name at most one
label is wanted, and then exactly one entry of that name carries it.
-/

namespace VantageNet.Interaction

variable {J V K C : Type} [DecidableEq J] (key : V → K) (label : V → C)

def Mirrors (m : HashMap J V) (k : K) : Option C → Prop
  | none => ∀ j v, m.get j = some v → key v ≠ k
  | some c => ∃ j v, m.get j = some v ∧ key v = k ∧ label v = c ∧
      ∀ i w, m.get i = some w → key w = k → i = j

variable {key label}

theorem Mirrors.iff_eq {m : HashMap J V} {k : K} {want want' : Option C} (h : Mirrors key label m k want) :
    Mirrors key label m k want' ↔ want' = want := by
  refine ⟨fun h' => ?_, fun heq => heq ▸ h⟩
  cases want with
  | none =>
    cases want' with
    | none => rfl
    | some c' =>
      obtain ⟨j, v, hj, hv, -⟩ := h'
      exact absurd hv (h j v hj)
  | some c =>
    obtain ⟨j, v, hj, hv, hc, hunique⟩ := h
    cases want' with
    | none => exact absurd hv (h' j v hj)
    | some c' =>
      obtain ⟨i, w, hi, hw, hc', -⟩ := h'
      obtain rfl : i = j := hunique i w hi hw
      cases hi.symm.trans hj
      rw [← hc, ← hc']

theorem mirrors_insert_other {m : HashMap J V} {k : K} {want : Option C} {j : J} {v : V} (hfresh : j ∉ m)
    (hk : key v ≠ k) : Mirrors key label (m.insert j v) k want ↔ Mirrors key label m k want := by
  have hget : ∀ i w, key w = k → (HashMap.get (m.insert j v) i = some w ↔ m.get i = some w) := by
    intro i w hw
    rw [get_insert]
    split_ifs with hi
    · subst hi
      rw [(get_eq_none _ _).mpr hfresh]
      simp only [Option.some.injEq, reduceCtorEq, iff_false]
      rintro rfl
      exact hk hw
    · rfl
  cases want with
  | none =>
    refine forall₂_congr (fun i w => ⟨fun h hi hw => ?_, fun h hi hw => ?_⟩)
    · exact h ((hget i w hw).mpr hi) hw
    · exact h ((hget i w hw).mp hi) hw
  | some c =>
    refine exists₂_congr (fun i w => ⟨?_, ?_⟩)
    · rintro ⟨hi, hw, hc, hunique⟩
      exact ⟨(hget i w hw).mp hi, hw, hc, fun i' w' hi' hw' => hunique i' w' ((hget i' w' hw').mpr hi') hw'⟩
    · rintro ⟨hi, hw, hc, hunique⟩
      exact ⟨(hget i w hw).mpr hi, hw, hc, fun i' w' hi' hw' => hunique i' w' ((hget i' w' hw').mp hi') hw'⟩

theorem mirrors_insert_iff {m : HashMap J V} {k : K} {want want' : Option C} {j : J} {v : V} (hfresh : j ∉ m)
    (hk : key v = k) (h : Mirrors key label m k want) :
    Mirrors key label (m.insert j v) k want' ↔ want = none ∧ want' = some (label v) := by
  subst hk
  have hnew : HashMap.get (m.insert j v) j = some v := by rw [get_insert, if_pos rfl]
  have hold : ∀ i, i ≠ j → HashMap.get (m.insert j v) i = m.get i := by
    intro i hi
    rw [get_insert, if_neg hi]
  cases want with
  | none =>
    have hmirrors : Mirrors key label (m.insert j v) (key v) (some (label v)) := by
      refine ⟨j, v, hnew, rfl, rfl, fun i w hi hw => ?_⟩
      by_contra hne
      exact h i w (hold i hne ▸ hi) hw
    rw [hmirrors.iff_eq]
    simp
  | some c =>
    obtain ⟨i, w, hi, hw, -⟩ := h
    have hij : i ≠ j := by
      rintro rfl
      rw [(get_eq_none _ _).mpr hfresh] at hi
      cases hi
    simp only [reduceCtorEq, false_and, iff_false]
    intro h'
    cases want' with
    | none => exact h' j v hnew rfl
    | some c' =>
      obtain ⟨l, u, -, -, -, hunique⟩ := h'
      exact hij ((hunique i w ((hold i hij).trans hi) hw).trans (hunique j v hnew rfl).symm)

end VantageNet.Interaction
