import VantageNet.Inventory.Positions
import Mathlib.Data.List.Iterate
import Mathlib.Data.List.Perm.Subperm

/-!
When positions that were left out are filled in without a gap: `shared/position.rs`.
-/

namespace VantageNet.Inventory

open Interaction

section sequential

/-- The positions are `0, 1, .., n - 1` in some order. -/
def Sequential (positions : List ℤ) : Prop := positions.Perm ((List.range positions.length).map (fun i : ℕ => (i : ℤ)))

instance (positions : List ℤ) : Decidable (Sequential positions) := inferInstanceAs (Decidable (List.Perm _ _))

theorem nodup_rangeInt (n : ℕ) : ((List.range n).map (fun i : ℕ => (i : ℤ))).Nodup :=
  List.nodup_range.map (fun _ _ h => Int.ofNat.inj h)

theorem mem_rangeInt {n : ℕ} {p : ℤ} : p ∈ (List.range n).map (fun i : ℕ => (i : ℤ)) ↔ 0 ≤ p ∧ p < n := by
  rw [List.mem_map]
  constructor
  · rintro ⟨i, hi, rfl⟩
    exact ⟨Int.natCast_nonneg i, Int.ofNat_lt.mpr (List.mem_range.mp hi)⟩
  · rintro ⟨hzero, hlt⟩
    exact ⟨p.toNat, List.mem_range.mpr (by omega), by omega⟩

theorem sequential_iff {positions : List ℤ} :
    Sequential positions ↔ positions.Nodup ∧ ∀ p ∈ positions, 0 ≤ p ∧ p < positions.length := by
  constructor
  · intro h
    exact ⟨h.nodup_iff.mpr (nodup_rangeInt _), fun p hp => mem_rangeInt.mp (h.mem_iff.mp hp)⟩
  · rintro ⟨hnodup, hbounds⟩
    have hsub : positions.Subperm ((List.range positions.length).map (fun i : ℕ => (i : ℤ))) :=
      List.subperm_of_subset hnodup (fun p hp => mem_rangeInt.mpr (hbounds p hp))
    exact hsub.perm_of_length_le (by rw [List.length_map, List.length_range])

theorem Sequential.mem_iff {positions : List ℤ} (h : Sequential positions) {p : ℤ} :
    p ∈ positions ↔ 0 ≤ p ∧ p < positions.length := (List.Perm.mem_iff h).trans mem_rangeInt

theorem sequential_congr {positions positions' : List ℤ} (h : positions.Perm positions') :
    Sequential positions ↔ Sequential positions' := by
  rw [sequential_iff, sequential_iff, h.nodup_iff, h.length_eq]
  exact and_congr_right (fun _ => forall_congr' (fun _ => imp_congr_left h.mem_iff))

/-- Positions that an `i32` has room for. -/
theorem Sequential.length_le {positions : List ℤ} (h : Sequential positions) (hsmall : ∀ p ∈ positions, p < 2 ^ 31) :
    positions.length ≤ 2 ^ 31 := by
  by_contra hlong
  have hmem : (2 ^ 31 : ℤ) ∈ positions := h.mem_iff.mpr ⟨by omega, by omega⟩
  exact lt_irrefl _ (hsmall _ hmem)

theorem getElem?_of_firstGap {positions : List ℤ} (h : firstGap positions = none) {i : ℕ} (hi : i < positions.length) :
    positions[i]? = some (asI32 i) := by
  rw [firstGap, Option.map_eq_none_iff, List.find?_eq_none] at h
  have hmem : (positions[i], i) ∈ positions.zipIdx := List.mk_mem_zipIdx_iff_getElem?.mpr (List.getElem?_eq_getElem hi)
  have heq := h _ hmem
  rw [decide_eq_true_eq, not_not] at heq
  rw [List.getElem?_eq_getElem hi]
  exact congrArg some heq

/-- Positions that are given are accepted only if there is no gap. -/
theorem sequential_of_validate {positions : List ℤ} {entity : String} (h : validateSequentialPositions positions entity = .ok ()) :
    Sequential positions := by
  have hgap : firstGap (positions.insertionSort (· ≤ ·)) = none := by
    unfold validateSequentialPositions at h
    dsimp only at h
    split at h
    · exact absurd h nofun
    · split at h
      · exact absurd h nofun
      · assumption
  have hsorted := List.pairwise_insertionSort (· ≤ ·) positions
  have hperm := List.perm_insertionSort (· ≤ ·) positions
  have hget (i : ℕ) (hi : i < positions.length) : (positions.insertionSort (· ≤ ·))[i]? = some (asI32 i) :=
    getElem?_of_firstGap hgap (hperm.length_eq ▸ hi)
  have hlength : positions.length ≤ 2 ^ 31 := by
    by_contra hlong
    -- The number at index 2 ^ 31 would be negative.
    obtain ⟨hfirst, hzero⟩ := List.getElem?_eq_some_iff.mp (hget 0 (by omega))
    obtain ⟨hlast, hnegative⟩ := List.getElem?_eq_some_iff.mp (hget (2 ^ 31) (by omega))
    have hle := List.pairwise_iff_getElem.mp hsorted 0 (2 ^ 31) hfirst hlast (by omega)
    rw [hzero, hnegative, asI32, asI32] at hle
    omega
  have heq : positions.insertionSort (· ≤ ·) = (List.range positions.length).map (fun i : ℕ => (i : ℤ)) := by
    refine List.ext_getElem? (fun i => ?_)
    by_cases hi : i < positions.length
    · rw [hget i hi, List.getElem?_map, List.getElem?_range hi, asI32_of_bounds (by omega) (by omega), Option.map_some]
    · rw [List.getElem?_eq_none (by rw [hperm.length_eq]; omega), List.getElem?_eq_none (by simp; omega)]
  exact hperm.symm.trans (.of_eq heq)

end sequential

/-- Inputs with an optional position. -/
structure PositionedInput (ι : Type) where
  id : ι → Uuid
  position : ι → Option ℤ
  setPosition : ι → ℤ → ι
  position_setPosition : ∀ x p, position (setPosition x p) = some p
  id_setPosition : ∀ x p, id (setPosition x p) = id x

namespace PositionedInput

def interface : PositionedInput InterfaceInput where
  id := InterfaceInput.id
  position := InterfaceInput.position
  setPosition := fun i p => { i with position := some p }
  position_setPosition := fun _ _ => rfl
  id_setPosition := fun _ _ => rfl

def service : PositionedInput ServiceInput where
  id := ServiceInput.id
  position := ServiceInput.position
  setPosition := fun s p => { s with position := some p }
  position_setPosition := fun _ _ => rfl
  id_setPosition := fun _ _ => rfl

variable {ι : Type} (P : PositionedInput ι)

def resolve (inputs : List ι) (existing : List (Uuid × ℤ)) (entity : String) : Except Error (List ι) :=
  resolveAndValidateInputPositions P.id P.position P.setPosition inputs existing entity

/-- The entities that the inputs keep. -/
def retained (inputs : List ι) (existing : List (Uuid × ℤ)) : List (Uuid × ℤ) :=
  inputs.filterMap (fun x => existingById existing (P.id x))

def added (inputs : List ι) (existing : List (Uuid × ℤ)) : List ι :=
  inputs.filter (fun x => (existingById existing (P.id x)).isNone)

/-- The entities that are dropped are behind those that are kept, and none is dropped where one is added. -/
structure LeavesNoGap (inputs : List ι) (existing : List (Uuid × ℤ)) : Prop where
  behind : ∀ d ∈ existing, d ∉ P.retained inputs existing → ∀ e ∈ P.retained inputs existing, e.2 < d.2
  complete : P.added inputs existing ≠ [] → ∀ e ∈ existing, e ∈ P.retained inputs existing
  small : P.added inputs existing ≠ [] → inputs.length ≤ 2 ^ 31

/-- Inputs of existing entities are in the order of these. -/
def KeepsOrder (inputs out : List ι) (existing : List (Uuid × ℤ)) : Prop :=
  ∀ x x' y y', (x, x') ∈ inputs.zip out → (y, y') ∈ inputs.zip out →
    ∀ e f, existingById existing (P.id x) = some e → existingById existing (P.id y) = some f → e.2 < f.2 →
      ∃ p q, P.position x' = some p ∧ P.position y' = some q ∧ p < q

/-- If the positions are accepted or filled in, there is one for each input and no gap between them. -/
def ResolvesWell (inputs : List ι) (existing : List (Uuid × ℤ)) (entity : String) : Prop :=
  ∀ out, P.resolve inputs existing entity = .ok out →
    (∃ positions, out.map P.position = positions.map some ∧ positions.length = inputs.length ∧ Sequential positions) ∧
      ((∀ x ∈ inputs, P.position x = none) → P.KeepsOrder inputs out existing)

section assigned

variable {P} {inputs : List ι} {existing : List (Uuid × ℤ)}

/-- The positions of new inputs, each one after the other. -/
def numbersFrom (next : ℤ) (n : ℕ) : List ℤ := List.iterate (fun p => asI32 (p + 1)) next n

theorem numbersFrom_succ (next : ℤ) (n : ℕ) : numbersFrom next (n + 1) = next :: numbersFrom (asI32 (next + 1)) n := rfl

theorem numbersFrom_eq {next : ℤ} {n : ℕ} (hzero : 0 ≤ next) (hsmall : next + n ≤ 2 ^ 31) :
    numbersFrom next n = (List.range n).map (fun i : ℕ => next + i) := by
  induction n generalizing next with
  | zero => rfl
  | succ n ih =>
    rw [numbersFrom_succ, List.range_succ_eq_map, List.map_cons, List.map_map, Nat.cast_zero, add_zero]
    cases n with
    | zero => rfl
    | succ n =>
      rw [asI32_of_bounds (by omega) (by omega), ih (by omega) (by omega)]
      refine congrArg (next :: ·) (List.map_congr_left (fun i _ => ?_))
      rw [Function.comp_apply, Nat.cast_succ]
      omega

/-- Numbers that are none of them negative have not gone around. -/
theorem small_of_numbersFrom {next : ℤ} {n : ℕ} (hnext : next < 2 ^ 31) (h : ∀ p ∈ numbersFrom next n, 0 ≤ p) (hn : 0 < n) :
    0 ≤ next ∧ next + n ≤ 2 ^ 31 := by
  induction n generalizing next with
  | zero => exact absurd hn (lt_irrefl 0)
  | succ n ih =>
    rw [numbersFrom_succ] at h
    have hzero := h next List.mem_cons_self
    refine ⟨hzero, ?_⟩
    cases n with
    | zero => omega
    | succ n =>
      have hlater := ih (asI32_bounds _).2 (fun p hp => h p (List.mem_cons_of_mem _ hp)) (Nat.succ_pos n)
      unfold asI32 at hlater
      omega

theorem length_numbersFrom (next : ℤ) (n : ℕ) : (numbersFrom next n).length = n := List.length_iterate _ _ _

/-- The positions that are filled in. -/
theorem map_position_assignPositions (P : PositionedInput ι) (inputs : List ι) (existing : List (Uuid × ℤ)) (next : ℤ) :
    ∃ positions : List ℤ, (assignPositions P.id P.setPosition existing next inputs).map P.position = positions.map some ∧
      positions.Perm ((P.retained inputs existing).map Prod.snd ++ numbersFrom next (P.added inputs existing).length) := by
  induction inputs generalizing next with
  | nil => exact ⟨[], rfl, .refl _⟩
  | cons x rest ih =>
    rw [assignPositions]
    cases hx : existingById existing (P.id x) with
    | some e =>
      obtain ⟨positions, hmap, hperm⟩ := ih next
      refine ⟨e.2 :: positions, ?_, ?_⟩
      · rw [List.map_cons, P.position_setPosition, hmap, List.map_cons]
      · simpa [retained, added, hx] using hperm
    | none =>
      obtain ⟨positions, hmap, hperm⟩ := ih (asI32 (next + 1))
      refine ⟨next :: positions, ?_, ?_⟩
      · rw [List.map_cons, P.position_setPosition, hmap, List.map_cons]
      · have hadded : (P.added (x :: rest) existing).length = (P.added rest existing).length + 1 := by simp [added, hx]
        have hretained : P.retained (x :: rest) existing = P.retained rest existing := by simp [retained, hx]
        rw [hadded, hretained, numbersFrom_succ]
        exact (hperm.cons next).trans List.perm_middle.symm

theorem length_retained_add (P : PositionedInput ι) (inputs : List ι) (existing : List (Uuid × ℤ)) :
    (P.retained inputs existing).length + (P.added inputs existing).length = inputs.length := by
  induction inputs with
  | nil => rfl
  | cons x rest ih =>
    cases hx : existingById existing (P.id x) <;>
      simp only [retained, added, List.filterMap_cons, List.filter_cons, hx, Option.isNone_some, Option.isNone_none,
        List.length_cons, Bool.false_eq_true, if_true, if_false] at ih ⊢ <;> omega

theorem mem_of_existingById {key : Uuid} {e : Uuid × ℤ} (h : existingById existing key = some e) : e ∈ existing ∧ e.1 = key :=
  ⟨List.mem_reverse.mp (List.mem_of_find?_eq_some h), by simpa using List.find?_some h⟩

theorem mem_existing_of_retained {e : Uuid × ℤ} (h : e ∈ P.retained inputs existing) : e ∈ existing := by
  obtain ⟨x, -, hx⟩ := List.mem_filterMap.mp h
  exact (mem_of_existingById hx).1

theorem nodup_retained (hids : (inputs.map P.id).Nodup) : (P.retained inputs existing).Nodup := by
  refine List.pairwise_filterMap.mpr ((List.pairwise_map.mp hids).imp ?_)
  rintro x y hne e hx f hy rfl
  exact hne ((mem_of_existingById hx).2.symm.trans (mem_of_existingById hy).2)

section numbered

variable (hexisting : Sequential (existing.map Prod.snd)) (hids : (inputs.map P.id).Nodup)
include hexisting

theorem eq_of_position {e f : Uuid × ℤ} (he : e ∈ existing) (hf : f ∈ existing) (h : e.2 = f.2) : e = f :=
  List.inj_on_of_nodup_map (sequential_iff.mp hexisting).1 he hf h

theorem position_bounds {e : Uuid × ℤ} (he : e ∈ existing) : 0 ≤ e.2 ∧ e.2 < existing.length := by
  have h := (sequential_iff.mp hexisting).2 e.2 (List.mem_map_of_mem he)
  rwa [List.length_map] at h

theorem exists_position {p : ℤ} (hzero : 0 ≤ p) (hlt : p < existing.length) : ∃ e ∈ existing, e.2 = p :=
  List.mem_map.mp (hexisting.mem_iff.mpr ⟨hzero, by rwa [List.length_map]⟩)

include hids

theorem nodup_positions : ((P.retained inputs existing).map Prod.snd).Nodup :=
  (nodup_retained hids).map_on (fun _ he _ hf h =>
    eq_of_position hexisting (mem_existing_of_retained he) (mem_existing_of_retained hf) h)

/-- Without new inputs: the positions that are kept are the first ones. -/
theorem sequential_retained_iff : Sequential ((P.retained inputs existing).map Prod.snd) ↔
    ∀ d ∈ existing, d ∉ P.retained inputs existing → ∀ e ∈ P.retained inputs existing, e.2 < d.2 := by
  constructor
  · intro h d hd hdropped e he
    have hupper := (h.mem_iff.mp (List.mem_map_of_mem he)).2
    by_contra hnot
    have hin : d.2 ∈ (P.retained inputs existing).map Prod.snd :=
      h.mem_iff.mpr ⟨(position_bounds hexisting hd).1, by omega⟩
    obtain ⟨f, hf, heq⟩ := List.mem_map.mp hin
    exact hdropped (eq_of_position hexisting (mem_existing_of_retained hf) hd heq ▸ hf)
  · intro hbehind
    refine sequential_iff.mpr ⟨nodup_positions hexisting hids, fun p hp => ?_⟩
    obtain ⟨e, he, rfl⟩ := List.mem_map.mp hp
    obtain ⟨hzero, hlt⟩ := position_bounds hexisting (mem_existing_of_retained he)
    refine ⟨hzero, ?_⟩
    -- All positions up to this one are kept.
    have hsub : ((List.range (e.2.toNat + 1)).map (fun i : ℕ => (i : ℤ))).Subperm ((P.retained inputs existing).map Prod.snd) := by
      refine List.subperm_of_subset (nodup_rangeInt _) (fun q hq => ?_)
      obtain ⟨hqzero, hq⟩ := mem_rangeInt.mp hq
      obtain ⟨d, hd, rfl⟩ := exists_position hexisting hqzero (by omega)
      by_contra hdropped
      have := hbehind d hd (fun hin => hdropped (List.mem_map_of_mem hin)) e he
      omega
    have hlength := hsub.length_le
    rw [List.length_map, List.length_range] at hlength
    omega

/-- With new inputs: every position is kept, and the new ones follow. -/
theorem sequential_append_iff (hsmall : ∀ e ∈ existing, e.2 < 2 ^ 31) {m : ℕ} (hm : 0 < m) :
    Sequential ((P.retained inputs existing).map Prod.snd ++ numbersFrom (asI32 existing.length) m) ↔
      (∀ e ∈ existing, e ∈ P.retained inputs existing) ∧ (P.retained inputs existing).length + m ≤ 2 ^ 31 := by
  have hcount : existing.length ≤ 2 ^ 31 := by
    have h := hexisting.length_le (List.forall_mem_map.mpr hsmall)
    rwa [List.length_map] at h
  have hsub : (P.retained inputs existing).Subperm existing :=
    List.subperm_of_subset (nodup_retained hids) (fun _ he => mem_existing_of_retained he)
  constructor
  · intro h
    have hbounds := (sequential_iff.mp h).2
    rw [List.length_append, List.length_map, length_numbersFrom] at hbounds
    obtain ⟨hzero, hroom⟩ := small_of_numbersFrom (asI32_bounds _).2
      (fun p hp => (hbounds p (List.mem_append_right _ hp)).1) hm
    have hstart : asI32 existing.length = existing.length := by
      unfold asI32 at hzero ⊢
      omega
    rw [hstart] at hbounds hzero hroom
    have hlast : (existing.length : ℤ) + (m - 1 : ℕ) ∈ numbersFrom existing.length m := by
      rw [numbersFrom_eq hzero hroom]
      exact List.mem_map_of_mem (List.mem_range.mpr (by omega))
    have hlt := (hbounds _ (List.mem_append_right _ hlast)).2
    have hperm := hsub.perm_of_length_le (by omega)
    have hlength := hperm.length_eq
    exact ⟨fun e he => hperm.mem_iff.mpr he, by omega⟩
  · rintro ⟨hall, hroom⟩
    have hperm : (P.retained inputs existing).Perm existing :=
      hsub.antisymm (List.subperm_of_subset (List.Nodup.of_map _ (sequential_iff.mp hexisting).1) hall)
    have hlength := hperm.length_eq
    rw [asI32_of_bounds (by omega) (by omega), numbersFrom_eq (by omega) (by omega)]
    have hkept : ((P.retained inputs existing).map Prod.snd).Perm ((List.range existing.length).map (fun i : ℕ => (i : ℤ))) := by
      have h : (existing.map Prod.snd).Perm ((List.range (existing.map Prod.snd).length).map (fun i : ℕ => (i : ℤ))) := hexisting
      rw [List.length_map] at h
      exact (hperm.map _).trans h
    refine (hkept.append_right _).trans (.of_eq ?_)
    rw [List.length_append, List.length_map, List.length_map, List.length_range, hlength, List.range_add, List.map_append,
      List.map_map]
    exact congrArg (_ ++ ·) (List.map_congr_left (fun i _ => (Nat.cast_add _ i).symm))

end numbered

theorem sequential_assigned_iff (hexisting : Sequential (existing.map Prod.snd)) (hids : (inputs.map P.id).Nodup)
    (hsmall : ∀ e ∈ existing, e.2 < 2 ^ 31) :
    Sequential ((P.retained inputs existing).map Prod.snd ++ numbersFrom (asI32 existing.length) (P.added inputs existing).length) ↔
      P.LeavesNoGap inputs existing := by
  by_cases hadded : P.added inputs existing = []
  · rw [hadded, List.length_nil, show numbersFrom (asI32 existing.length) 0 = [] from rfl, List.append_nil,
      sequential_retained_iff hexisting hids]
    exact ⟨fun h => ⟨h, fun hne => absurd hadded hne, fun hne => absurd hadded hne⟩, fun h => h.behind⟩
  · rw [sequential_append_iff hexisting hids hsmall (List.length_pos_iff.mpr hadded), length_retained_add]
    exact ⟨fun h => ⟨fun d hd hdropped => absurd (h.1 d hd) hdropped, fun _ => h.1, fun _ => h.2⟩,
      fun h => ⟨h.complete hadded, h.small hadded⟩⟩


/-- An input of an existing entity has the position of that. -/
theorem position_of_mem_zip (next : ℤ) {x x' : ι} (h : (x, x') ∈ inputs.zip (assignPositions P.id P.setPosition existing next inputs))
    {e : Uuid × ℤ} (he : existingById existing (P.id x) = some e) : P.position x' = some e.2 := by
  induction inputs generalizing next with
  | nil => exact absurd h List.not_mem_nil
  | cons y rest ih =>
    rw [assignPositions] at h
    cases hy : existingById existing (P.id y) with
    | some f =>
      rw [hy] at h
      rcases List.mem_cons.mp h with heq | h
      · obtain ⟨rfl, rfl⟩ := Prod.mk.inj heq
        rw [P.position_setPosition, Option.some.inj (hy.symm.trans he)]
      · exact ih next h
    | none =>
      rw [hy] at h
      rcases List.mem_cons.mp h with heq | h
      · obtain ⟨rfl, rfl⟩ := Prod.mk.inj heq
        cases hy.symm.trans he
      · exact ih _ h

theorem keepsOrder_assignPositions (next : ℤ) :
    P.KeepsOrder inputs (assignPositions P.id P.setPosition existing next inputs) existing :=
  fun _ _ _ _ hx hy _ _ he hf hlt => ⟨_, _, position_of_mem_zip next hx he, position_of_mem_zip next hy hf, hlt⟩

end assigned

section resolving

variable {P} {inputs out : List ι} {existing : List (Uuid × ℤ)} {entity : String}

theorem specified_eq_length_iff : (inputs.filter (fun x => (P.position x).isSome)).length = inputs.length ↔
    ∀ x ∈ inputs, (P.position x).isSome = true := List.length_filter_eq_length_iff

theorem specified_eq_zero_iff : (inputs.filter (fun x => (P.position x).isSome)).length = 0 ↔ ∀ x ∈ inputs, P.position x = none := by
  rw [List.length_eq_zero_iff, List.filter_eq_nil_iff]
  exact forall₂_congr (fun x _ => by rw [Option.not_isSome_iff_eq_none])

theorem map_position_of_isSome (hall : ∀ x ∈ inputs, (P.position x).isSome = true) :
    inputs.map P.position = (inputs.filterMap P.position).map some := by
  induction inputs with
  | nil => rfl
  | cons x rest ih =>
    obtain ⟨p, hp⟩ := Option.isSome_iff_exists.mp (hall x List.mem_cons_self)
    rw [List.map_cons, List.filterMap_cons_some hp, List.map_cons, hp, ih (fun y hy => hall y (List.mem_cons_of_mem _ hy))]

/-- Positions that are all left out are filled in. -/
theorem resolve_omitted (hne : inputs ≠ []) (homitted : ∀ x ∈ inputs, P.position x = none) :
    P.resolve inputs existing entity = .ok (assignPositions P.id P.setPosition existing (asI32 existing.length) inputs) := by
  have hzero := specified_eq_zero_iff.mpr homitted
  have hlength := List.length_pos_iff.mpr hne
  rw [resolve, resolveAndValidateInputPositions]
  simp only [hzero, List.isEmpty_iff, hne, if_false, lt_irrefl, false_and, hlength.ne]

/-- Positions of which some are given are accepted only if all are given, and without a gap. -/
theorem resolve_given (hgiven : ∃ x ∈ inputs, (P.position x).isSome = true) (h : P.resolve inputs existing entity = .ok out) :
    out = inputs ∧ (∀ x ∈ inputs, (P.position x).isSome = true) ∧ Sequential (inputs.filterMap P.position) := by
  obtain ⟨x, hx, hsome⟩ := hgiven
  have hpos : (inputs.filter (fun x => (P.position x).isSome)).length ≠ 0 := fun hzero =>
    absurd (specified_eq_zero_iff.mp hzero x hx) (Option.isSome_iff_ne_none.mp hsome)
  have hle := List.length_filter_le (fun x => (P.position x).isSome) inputs
  rw [resolve, resolveAndValidateInputPositions] at h
  split_ifs at h with hempty hmixed hall
  · exact absurd hx (List.isEmpty_iff.mp hempty ▸ List.not_mem_nil)
  · cases hvalid : validateSequentialPositions (inputs.filterMap P.position) entity with
    | error e =>
      rw [hvalid] at h
      exact absurd h nofun
    | ok _ =>
      rw [hvalid] at h
      exact ⟨(Except.ok.inj h).symm, specified_eq_length_iff.mp hall, sequential_of_validate hvalid⟩
  · omega

/-- Positions that are resolved have no gap between them just when they were given, or when what is left out leaves no gap. -/
theorem positions_resolved_iff (P : PositionedInput ι) (inputs : List ι) (existing : List (Uuid × ℤ)) (entity : String)
    (hexisting : Sequential (existing.map Prod.snd)) (hsmall : ∀ e ∈ existing, e.2 < 2 ^ 31) (hids : (inputs.map P.id).Nodup) :
    P.ResolvesWell inputs existing entity ↔
      (∃ x ∈ inputs, (P.position x).isSome = true) ∨ P.LeavesNoGap inputs existing := by
  by_cases hgiven : ∃ x ∈ inputs, (P.position x).isSome = true
  · refine iff_of_true (fun out hout => ?_) (.inl hgiven)
    obtain ⟨rfl, hall, hseq⟩ := resolve_given hgiven hout
    have hmap := map_position_of_isSome hall
    refine ⟨⟨_, hmap, ?_, hseq⟩, fun homitted => ?_⟩
    · rw [← List.length_map some, ← hmap, List.length_map]
    · obtain ⟨x, hx, hsome⟩ := hgiven
      rw [homitted x hx] at hsome
      exact absurd hsome nofun
  · have homitted : ∀ x ∈ inputs, P.position x = none := fun x hx =>
      Option.not_isSome_iff_eq_none.mp (fun hsome => hgiven ⟨x, hx, hsome⟩)
    rw [or_iff_right hgiven]
    by_cases hne : inputs = []
    · subst hne
      refine iff_of_true (fun out hout => ?_) ⟨fun _ _ _ _ he => absurd he List.not_mem_nil, nofun, nofun⟩
      obtain rfl : [] = out := Except.ok.inj hout
      exact ⟨⟨[], rfl, rfl, .refl _⟩, fun _ _ _ _ _ hx => absurd hx List.not_mem_nil⟩
    · obtain ⟨positions, hmap, hperm⟩ := map_position_assignPositions P inputs existing (asI32 existing.length)
      rw [← sequential_assigned_iff hexisting hids hsmall, ← sequential_congr hperm]
      constructor
      · intro h
        obtain ⟨⟨positions', hmap', -, hseq⟩, -⟩ := h _ (resolve_omitted hne homitted)
        rwa [List.map_injective_iff.mpr (Option.some_injective ℤ) (hmap.symm.trans hmap')]
      · rintro hseq out hout
        obtain rfl := Except.ok.inj ((resolve_omitted hne homitted).symm.trans hout)
        refine ⟨⟨positions, hmap, ?_, hseq⟩, fun _ => keepsOrder_assignPositions _⟩
        rw [hperm.length_eq, List.length_append, List.length_map, length_numbersFrom, length_retained_add]

/-- A service of which only the id is known. -/
def serviceOf (id : Uuid) (position : Option ℤ) : ServiceInput := ⟨id, webServer, "web", [], none, [], position⟩

/-- Of two stored services the first is kept. -/
theorem positions_resolved_first : service.ResolvesWell [serviceOf 6 none] [(6, 0), (7, 1)] "service" :=
  (positions_resolved_iff service [serviceOf 6 none] [(6, 0), (7, 1)] "service" (by decide) (by decide) (by decide)).mpr
    (.inr ⟨by decide, by decide, by decide⟩)

/-- Of two stored services the second is kept, and keeps its position. -/
theorem positions_resolved_second : ¬ ∀ (inputs : List ServiceInput) (existing : List (Uuid × ℤ)) (entity : String),
    Sequential (existing.map Prod.snd) → (inputs.map ServiceInput.id).Nodup → service.ResolvesWell inputs existing entity := by
  intro h
  obtain ⟨⟨positions, hmap, -, hseq⟩, -⟩ := h [serviceOf 7 none] [(6, 0), (7, 1)] "service" (by decide) (by decide)
    [serviceOf 7 (some 1)] rfl
  obtain rfl : [1] = positions := List.map_injective_iff.mpr (Option.some_injective ℤ) hmap
  exact absurd hseq (by decide)

end resolving

end PositionedInput

end VantageNet.Inventory
