import VantageNet.Inventory.Requests

/-!
What `resolve_and_validate_input_positions` gives.
-/

namespace VantageNet.Inventory

open Interaction

section resolve

variable {ι : Type} {id : ι → Uuid} {position : ι → Option ℤ} {setPosition : ι → ℤ → ι}

/-- The input as it was given, or with a position of its own. -/
def Resolved (setPosition : ι → ℤ → ι) (input resolved : ι) : Prop :=
  resolved = input ∨ ∃ p, resolved = setPosition input p

theorem assignPositions_resolved (existing : List (Uuid × ℤ)) (next : ℤ) (inputs : List ι) :
    List.Forall₂ (Resolved setPosition) inputs (assignPositions id setPosition existing next inputs) := by
  induction inputs generalizing next with
  | nil => exact .nil
  | cons input rest ih =>
    unfold assignPositions
    cases existingById existing (id input) with
    | some e => exact .cons (.inr ⟨_, rfl⟩) (ih _)
    | none => exact .cons (.inr ⟨_, rfl⟩) (ih _)

theorem resolveAndValidateInputPositions_resolved {inputs out : List ι} {existing : List (Uuid × ℤ)} {entity : String}
    (h : resolveAndValidateInputPositions id position setPosition inputs existing entity = .ok out) :
    List.Forall₂ (Resolved setPosition) inputs out := by
  have hself : List.Forall₂ (Resolved setPosition) inputs inputs := List.forall₂_same.mpr (fun _ _ => .inl rfl)
  unfold resolveAndValidateInputPositions at h
  dsimp only at h
  split_ifs at h
  · cases h
    exact hself
  · cases hvalid : validateSequentialPositions (inputs.filterMap position) entity with
    | error e =>
      rw [hvalid] at h
      cases h
    | ok _ =>
      rw [hvalid] at h
      cases h
      exact hself
  · cases h
    exact assignPositions_resolved existing _ inputs

theorem ids_of_resolved {inputs out : List ι} (h : List.Forall₂ (Resolved setPosition) inputs out)
    (hid : ∀ x p, id (setPosition x p) = id x) : out.map id = inputs.map id := by
  induction h with
  | nil => rfl
  | cons hhead _ ih =>
    rw [List.map_cons, List.map_cons, ih]
    rcases hhead with rfl | ⟨p, rfl⟩
    · rfl
    · rw [hid]

theorem assignPositions_isSome (hposition : ∀ x p, position (setPosition x p) = some p) {existing : List (Uuid × ℤ)}
    {next : ℤ} {inputs : List ι} : ∀ x ∈ assignPositions id setPosition existing next inputs,
      (position x).isSome = true := by
  induction inputs generalizing next with
  | nil => simp [assignPositions]
  | cons input rest ih =>
    unfold assignPositions
    cases existingById existing (id input) with
    | some e => simpa [hposition] using ih
    | none => simpa [hposition] using ih

/-- Every input has a position in the end. -/
theorem resolveAndValidateInputPositions_isSome (hposition : ∀ x p, position (setPosition x p) = some p)
    {inputs out : List ι} {existing : List (Uuid × ℤ)} {entity : String}
    (h : resolveAndValidateInputPositions id position setPosition inputs existing entity = .ok out) :
    ∀ x ∈ out, (position x).isSome = true := by
  unfold resolveAndValidateInputPositions at h
  dsimp only at h
  split_ifs at h with hempty hmixed hall
  · cases h
    simp [List.isEmpty_iff.mp hempty]
  · cases hvalid : validateSequentialPositions (inputs.filterMap position) entity with
    | error e =>
      rw [hvalid] at h
      cases h
    | ok _ =>
      rw [hvalid] at h
      cases h
      exact List.length_filter_eq_length_iff.mp hall
  · cases h
    exact assignPositions_isSome hposition

variable {existing existing' : List (Uuid × ℤ)}

theorem existingById_perm (hperm : existing.Perm existing') (hdistinct : existing.Pairwise (fun a b => a.1 ≠ b.1))
    (key : Uuid) : existingById existing key = existingById existing' key := by
  have hunique : ∀ a ∈ existing, ∀ b ∈ existing, a.1 = b.1 → a = b := fun a ha b hb heq =>
    List.inj_on_of_nodup_map (List.pairwise_map.mpr hdistinct) ha hb heq
  have hmem {e : Uuid × ℤ} : e ∈ existing.reverse ↔ e ∈ existing'.reverse := by
    rw [List.mem_reverse, List.mem_reverse, hperm.mem_iff]
  unfold existingById
  cases h : existing.reverse.find? (fun e => e.1 = key) with
  | none =>
    symm
    exact List.find?_eq_none.mpr (fun e he => List.find?_eq_none.mp h e (hmem.mpr he))
  | some a =>
    have ha := List.mem_of_find?_eq_some h
    have hkey : a.1 = key := by simpa using List.find?_some h
    cases h' : existing'.reverse.find? (fun e => e.1 = key) with
    | none => exact absurd (decide_eq_true hkey) (List.find?_eq_none.mp h' a (hmem.mp ha))
    | some b =>
      have hb := hmem.mpr (List.mem_of_find?_eq_some h')
      have hkey' : b.1 = key := by simpa using List.find?_some h'
      rw [hunique a (List.mem_reverse.mp ha) b (List.mem_reverse.mp hb) (hkey.trans hkey'.symm)]

/-- What is stored may have been read in any order. -/
theorem resolveAndValidateInputPositions_perm (hperm : existing.Perm existing')
    (hdistinct : existing.Pairwise (fun a b => a.1 ≠ b.1)) (inputs : List ι) (entity : String) :
    resolveAndValidateInputPositions id position setPosition inputs existing entity =
      resolveAndValidateInputPositions id position setPosition inputs existing' entity := by
  have hassign (next : ℤ) : assignPositions id setPosition existing next inputs =
      assignPositions id setPosition existing' next inputs := by
    induction inputs generalizing next with
    | nil => rfl
    | cons input rest ih =>
      rw [assignPositions, assignPositions, existingById_perm hperm hdistinct]
      cases existingById existing' (id input) with
      | some e => simp only [ih]
      | none => simp only [ih]
  unfold resolveAndValidateInputPositions
  rw [hassign, hperm.length_eq]

end resolve

end VantageNet.Inventory
