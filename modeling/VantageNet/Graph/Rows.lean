import Mathlib.Logic.Function.Basic
import VantageNet.Graph.Build
import VantageNet.Graph.Tiling

/-! The subnets of a row stay apart while they are moved. -/

namespace VantageNet.Graph.SubnetPositioner

open Inventory

section compression

variable {x gap : ℤ} {a b left right : SubnetInfo} {unlocked moved rest : List SubnetInfo}

/-- The second one begins this far to the right of the first. -/
def Follows (gap : ℤ) (a b : SubnetInfo) : Prop := a.x + a.width + gap ≤ b.x

theorem Follows.trans {c : SubnetInfo} (hab : Follows 101 a b) (hbc : Follows 101 b c) : Follows 101 a c := by
  unfold Follows at *
  omega

theorem map_id_packed :
    (packed x unlocked).map (fun i => (i.id, i.width)) = unlocked.map (fun i => (i.id, i.width)) := by
  induction unlocked generalizing x with
  | nil => rfl
  | cons i rest ih => rw [packed, List.map_cons, List.map_cons, ih]

theorem map_id_pulled :
    (pulled x unlocked).map (fun i => (i.id, i.width)) = unlocked.map (fun i => (i.id, i.width)) := by
  induction unlocked generalizing x with
  | nil => rfl
  | cons i rest ih => rw [pulled, List.map_cons, List.map_cons, ih]

theorem le_of_mem_packed (h : a ∈ packed x unlocked) : x ≤ a.x := by
  induction unlocked generalizing x with
  | nil => exact absurd h List.not_mem_nil
  | cons i rest ih =>
    rcases List.mem_cons.mp h with rfl | h
    · exact le_rfl
    · have hle := ih h
      simp only [padding] at hle
      omega

theorem pairwise_packed : (packed x unlocked).Pairwise (Follows padding) := by
  induction unlocked generalizing x with
  | nil => exact List.Pairwise.nil
  | cons i rest ih => exact List.pairwise_cons.mpr ⟨fun j hj => le_of_mem_packed hj, ih⟩

theorem le_of_mem_pulled {bound : ℤ} (hx : bound ≤ x) (h : ∀ i ∈ unlocked, bound ≤ i.x) (ha : a ∈ pulled x unlocked) :
    bound ≤ a.x := by
  induction unlocked generalizing x with
  | nil => exact absurd ha List.not_mem_nil
  | cons i rest ih =>
    rw [List.forall_mem_cons] at h
    have hmin : bound ≤ min x i.x := le_min hx h.1
    rcases List.mem_cons.mp ha with rfl | ha
    · exact hmin
    · refine ih ?_ h.2 ha
      unfold padding
      omega

/-- What is pulled to the left keeps the distances of its members, or they become the padding. -/
theorem pairwise_pulled (h : unlocked.Pairwise (Follows 101)) : (pulled x unlocked).Pairwise (Follows 101) := by
  induction unlocked generalizing x with
  | nil => exact List.Pairwise.nil
  | cons i rest ih =>
    rw [List.pairwise_cons] at h
    refine List.pairwise_cons.mpr ⟨fun j hj => le_of_mem_pulled ?_ (fun k hk => ?_) hj, ih h.2⟩
    · dsimp only
      unfold padding
      omega
    · have hfollows := h.1 k hk
      unfold Follows at hfollows
      dsimp only
      omega

theorem unlessTooNear_eq_or (right : SubnetInfo) (unlocked moved : List SubnetInfo) :
    unlessTooNear right unlocked moved = unlocked ∨
    unlessTooNear right unlocked moved = moved ∧ ∀ last ∈ moved.getLast?, Follows padding last right := by
  unfold unlessTooNear
  cases hlast : moved.getLast? with
  | none => exact Or.inr ⟨rfl, fun _ h => absurd h (Option.not_mem_none _)⟩
  | some last =>
    dsimp only
    split
    · exact Or.inl rfl
    · refine Or.inr ⟨rfl, fun last' h => ?_⟩
      cases Option.mem_some_iff.mp h
      unfold Follows
      omega

theorem follows_of_last (hmoved : moved.Pairwise (Follows 101))
    (hlast : ∀ last ∈ moved.getLast?, Follows padding last right) :
    ∀ a ∈ moved, Follows 101 a right := by
  induction moved using List.reverseRecOn with
  | nil => exact fun a ha => absurd ha List.not_mem_nil
  | append_singleton moved last ih =>
    have hright : Follows 101 last right := by
      have h := hlast last (by rw [List.getLast?_concat]; rfl)
      unfold Follows padding at *
      omega
    rw [List.pairwise_append] at hmoved
    intro a ha
    rcases List.mem_append.mp ha with ha | ha
    · exact (hmoved.2.2 a ha last (List.mem_singleton_self last)).trans hright
    · rwa [List.mem_singleton.mp ha]

theorem unlessTooNear_spec (hunlocked : unlocked.Pairwise (Follows 101)) (hright : ∀ a ∈ unlocked, Follows 101 a right)
    (hmoved : moved.Pairwise (Follows 101)) :
    (unlessTooNear right unlocked moved).Pairwise (Follows 101) ∧ ∀ a ∈ unlessTooNear right unlocked moved,
      Follows 101 a right := by
  rcases unlessTooNear_eq_or right unlocked moved with heq | ⟨heq, hlast⟩
  · rw [heq]
    exact ⟨hunlocked, hright⟩
  · rw [heq]
    exact ⟨hmoved, follows_of_last hmoved hlast⟩

theorem follows_pulled (h : ∀ a ∈ unlocked, Follows 101 left a) :
    ∀ a ∈ pulled (left.x + left.width + padding) unlocked, Follows 101 left a := by
  intro a ha
  refine le_of_mem_pulled ?_ h ha
  unfold padding
  omega

theorem pairwise_packed_101 (x : ℤ) (unlocked : List SubnetInfo) : (packed x unlocked).Pairwise (Follows 101) := by
  refine pairwise_packed.imp (fun h => ?_)
  unfold Follows padding at *
  omega

/-- A segment keeps its subnets apart from each other and from the locked ones beside it. -/
theorem compressSegment_spec (left right : Option SubnetInfo) (hunlocked : unlocked.Pairwise (Follows 101))
    (hleft : ∀ l ∈ left, ∀ a ∈ unlocked, Follows 101 l a) (hright : ∀ r ∈ right, ∀ a ∈ unlocked, Follows 101 a r) :
    (compressSegment left right unlocked).Pairwise (Follows 101) ∧
      (∀ l ∈ left, ∀ a ∈ compressSegment left right unlocked, Follows 101 l a) ∧
      ∀ r ∈ right, ∀ a ∈ compressSegment left right unlocked, Follows 101 a r := by
  cases left with
  | none =>
    cases unlocked with
    | nil => cases right <;> simp [compressSegment]
    | cons first rest =>
      cases right with
      | none => exact ⟨pairwise_packed_101 _ _, by simp, by simp⟩
      | some right =>
        obtain ⟨hpairwise, hbefore⟩ := unlessTooNear_spec hunlocked (hright right rfl)
          (pairwise_packed_101 first.x (first :: rest))
        exact ⟨hpairwise, by simp, fun r hr => Option.mem_some_iff.mp hr ▸ hbefore⟩
  | some left =>
    have hpulled := follows_pulled (hleft left rfl)
    cases right with
    | none => exact ⟨pairwise_pulled hunlocked, fun l hl => Option.mem_some_iff.mp hl ▸ hpulled, by simp⟩
    | some right =>
      obtain ⟨hpairwise, hbefore⟩ := unlessTooNear_spec hunlocked (hright right rfl)
        (pairwise_pulled (x := left.x + left.width + padding) hunlocked)
      refine ⟨hpairwise, fun l hl a ha => ?_, fun r hr => Option.mem_some_iff.mp hr ▸ hbefore⟩
      cases Option.mem_some_iff.mp hl
      simp only [compressSegment] at ha
      rcases unlessTooNear_eq_or right unlocked (pulled (left.x + left.width + padding) unlocked)
        with heq | ⟨heq, -⟩
      · exact hleft left rfl a (heq ▸ ha)
      · exact hpulled a (heq ▸ ha)

theorem map_id_unlessTooNear (h : moved.map (fun i => (i.id, i.width)) = unlocked.map (fun i => (i.id, i.width))) :
    (unlessTooNear right unlocked moved).map (fun i => (i.id, i.width)) = unlocked.map (fun i => (i.id, i.width)) := by
  rcases unlessTooNear_eq_or right unlocked moved with heq | ⟨heq, -⟩
  · rw [heq]
  · rw [heq, h]

theorem map_id_compressSegment (left right : Option SubnetInfo) (unlocked : List SubnetInfo) :
    (compressSegment left right unlocked).map (fun i => (i.id, i.width)) = unlocked.map (fun i => (i.id, i.width)) := by
  unfold compressSegment
  split
  · exact map_id_unlessTooNear map_id_pulled
  · exact map_id_pulled
  · exact map_id_unlessTooNear map_id_packed
  · exact map_id_packed
  · rfl

theorem map_id_compressTowardLocked (left : Option SubnetInfo) (unlocked rest : List SubnetInfo) :
    (compressTowardLocked left unlocked rest).map (fun i => (i.id, i.width)) =
      (unlocked ++ rest).map (fun i => (i.id, i.width)) := by
  induction rest generalizing left unlocked with
  | nil => rw [compressTowardLocked, map_id_compressSegment, List.append_nil]
  | cons i rest ih =>
    rw [compressTowardLocked]
    split
    · rw [List.map_append, List.map_cons, map_id_compressSegment, ih, List.nil_append, List.map_append, List.map_cons]
    · rw [ih, List.append_assoc, List.singleton_append]

/-- The subnets of a row stay as far apart as they are, or as the padding. -/
theorem compressTowardLocked_spec (left : Option SubnetInfo) (unlocked : List SubnetInfo) {rest : List SubnetInfo}
    (hpairwise : (unlocked ++ rest).Pairwise (Follows 101))
    (hleft : ∀ l ∈ left, ∀ a ∈ unlocked ++ rest, Follows 101 l a) :
    (compressTowardLocked left unlocked rest).Pairwise (Follows 101) ∧
      ∀ l ∈ left, ∀ a ∈ compressTowardLocked left unlocked rest, Follows 101 l a := by
  induction rest generalizing left unlocked with
  | nil =>
    rw [List.append_nil] at hpairwise hleft
    obtain ⟨hsegment, hafter, -⟩ := compressSegment_spec left none hpairwise hleft (by simp)
    exact ⟨hsegment, hafter⟩
  | cons i rest ih =>
    rw [compressTowardLocked]
    split
    · rw [List.pairwise_append, List.pairwise_cons] at hpairwise
      obtain ⟨hunlocked, ⟨hi, hrest⟩, hbetween⟩ := hpairwise
      obtain ⟨hsegment, hafter, hbefore⟩ := compressSegment_spec left (some i) hunlocked
        (fun l hl a ha => hleft l hl a (List.mem_append_left _ ha))
        (fun r hr a ha => Option.mem_some_iff.mp hr ▸ hbetween a ha i List.mem_cons_self)
      obtain ⟨hlater, hright⟩ := ih (some i) [] hrest
        (fun l hl a ha => Option.mem_some_iff.mp hl ▸ hi a ha)
      have hleft' : ∀ l ∈ left, Follows 101 l i := fun l hl => hleft l hl i (List.mem_append_right _ List.mem_cons_self)
      refine ⟨List.pairwise_append.mpr ⟨hsegment, List.pairwise_cons.mpr ⟨hright i rfl, hlater⟩, fun a ha b hb => ?_⟩,
        fun l hl a ha => ?_⟩
      · rcases List.mem_cons.mp hb with rfl | hb
        · exact hbefore b rfl a ha
        · exact (hbefore i rfl a ha).trans (hright i rfl b hb)
      · rcases List.mem_append.mp ha with ha | ha
        · exact hafter l hl a ha
        · rcases List.mem_cons.mp ha with rfl | ha
          · exact hleft' l hl
          · exact (hleft' l hl).trans (hright i rfl a ha)
    · refine ih left (unlocked ++ [i]) ?_ (fun l hl a ha => ?_)
      · rwa [List.append_assoc]
      · rw [List.append_assoc] at ha
        exact hleft l hl a ha

theorem compressedLayer_spec {info : List SubnetInfo} (h : info.Pairwise (Follows 101)) :
    (compressedLayer info).Pairwise (Follows 101) ∧
      (compressedLayer info).map (fun i => (i.id, i.width)) = info.map (fun i => (i.id, i.width)) := by
  unfold compressedLayer
  split
  · exact ⟨(compressTowardLocked_spec none [] h (by simp)).1, map_id_compressTowardLocked none [] info⟩
  · cases info with
    | nil => exact ⟨List.Pairwise.nil, rfl⟩
    | cons first rest =>
      refine ⟨pairwise_packed.imp (fun h => ?_), map_id_packed⟩
      unfold Follows padding at *
      omega

end compression

section arrangement

variable {subnets others : List Node} {f g : Uuid → ℤ} {n : Node} {id : Uuid} {x : ℤ}

def movedTo (f : Uuid → ℤ) (n : Node) : Node := { n with position := ⟨f n.id, n.position.y⟩ }

/-- The subnets at these `x`, and other nodes. -/
def arrangement (subnets others : List Node) (f : Uuid → ℤ) : List Node := subnets.map (movedTo f) ++ others

structure Boxes (subnets others : List Node) : Prop where
  ids : (subnets.map Node.id).Nodup
  isSubnet : ∀ n ∈ subnets, n.isSubnet = true
  others : ∀ n ∈ others, n.isSubnet = false

theorem arrangement_congr (h : ∀ n ∈ subnets, f n.id = g n.id) :
    arrangement subnets others f = arrangement subnets others g := by
  refine congrArg (· ++ others) (List.map_congr_left (fun n hn => ?_))
  rw [movedTo, movedTo, h n hn]

theorem find_arrangement (h : Boxes subnets others) (hn : n ∈ subnets) :
    find (arrangement subnets others f) n.id = some (movedTo f n) := by
  have hids := h.ids
  clear h
  unfold find arrangement
  induction subnets with
  | nil => exact absurd hn List.not_mem_nil
  | cons m rest ih =>
    rw [List.map_cons, List.nodup_cons] at hids
    rw [List.map_cons, List.cons_append]
    rcases List.mem_cons.mp hn with rfl | hn
    · exact List.find?_cons_of_pos (by simp [movedTo])
    · have hne : m.id ≠ n.id := fun heq => hids.1 (heq ▸ List.mem_map_of_mem hn)
      rw [List.find?_cons_of_neg (by simp [movedTo, hne])]
      exact ih hn hids.2

theorem setX_arrangement (h : Boxes subnets others) (hn : n ∈ subnets) :
    setX n.id x (arrangement subnets others f) = arrangement subnets others (Function.update f n.id x) := by
  have hids := h.ids
  clear h
  unfold arrangement
  induction subnets with
  | nil => exact absurd hn List.not_mem_nil
  | cons m rest ih =>
    rw [List.map_cons, List.nodup_cons] at hids
    rw [List.map_cons, List.cons_append, List.map_cons, List.cons_append, setX]
    rcases List.mem_cons.mp hn with rfl | hn
    · have hrest : rest.map (movedTo (Function.update f n.id x)) = rest.map (movedTo f) := by
        refine List.map_congr_left (fun k hk => ?_)
        have hne : k.id ≠ n.id := fun heq => hids.1 (heq ▸ List.mem_map_of_mem hk)
        rw [movedTo, movedTo, Function.update_of_ne hne]
      rw [hrest, if_pos (by rfl)]
      simp [movedTo]
    · have hne : m.id ≠ n.id := fun heq => hids.1 (heq ▸ List.mem_map_of_mem hn)
      rw [ih hn hids.2, if_neg (by simpa [movedTo] using hne), movedTo, movedTo, Function.update_of_ne hne]

theorem filter_arrangement (h : Boxes subnets others) :
    (arrangement subnets others f).filter Node.isSubnet = subnets.map (movedTo f) := by
  have hsubnets : (subnets.map (movedTo f)).filter Node.isSubnet = subnets.map (movedTo f) := by
    refine List.filter_eq_self.mpr (fun n hn => ?_)
    obtain ⟨m, hm, rfl⟩ := List.mem_map.mp hn
    exact h.isSubnet m hm
  have hothers : others.filter Node.isSubnet = [] := List.filter_eq_nil_iff.mpr (fun n hn => by simp [h.others n hn])
  rw [arrangement, List.filter_append, hsubnets, hothers, List.append_nil]

theorem subnetIds_arrangement (h : Boxes subnets others) :
    subnetIds (arrangement subnets others f) = subnets.map Node.id := by
  rw [subnetIds, filter_arrangement h, List.map_map]
  rfl

end arrangement

section constraint

variable {subnets others : List Node} {f : Uuid → ℤ} {n : Node} {proposed : ℤ}

/-- With this gap between them on the line. -/
def KeepsGap (gap : ℤ) (f : Uuid → ℤ) (a b : Node) : Prop := f a.id + a.size.x + gap ≤ f b.id ∨ f b.id + b.size.x + gap ≤ f a.id

theorem closest_spec (proposed : ℤ) {candidates : List ℤ} (h : candidates ≠ []) :
    ∃ x ∈ candidates, closest proposed candidates = some x := by
  cases candidates with
  | nil => exact absurd rfl h
  | cons c rest =>
    unfold closest
    rw [List.foldl_cons]
    refine List.foldlRecOn (motive := fun best => ∃ x ∈ c :: rest, best = some x) rest _
      ⟨c, List.mem_cons_self, rfl⟩ ?_
    rintro _ ⟨x, hx, rfl⟩ candidate hcandidate
    dsimp only
    split_ifs
    · exact ⟨candidate, List.mem_cons_of_mem _ hcandidate, rfl⟩
    · exact ⟨x, hx, rfl⟩

/-- To the left of the leftmost one there is room. -/
theorem exists_free_candidate (width : ℕ) {row : List Node}
    (hsorted : row.Pairwise (fun a b => a.position.x ≤ b.position.x))
    (hne : row ≠ []) :
    (row.map (fun other => other.position.x - width - padding) ++
      row.map (fun other => other.position.x + other.size.x + padding)).filter (fun x =>
        !overlapsAt width row x) ≠ [] := by
  cases row with
  | nil => exact absurd rfl hne
  | cons first rest =>
    refine List.ne_nil_of_mem (a := first.position.x - width - padding) (List.mem_filter.mpr ⟨List.mem_cons_self, ?_⟩)
    rw [Bool.not_eq_true', overlapsAt, List.any_eq_false]
    intro other hother
    have hle : first.position.x ≤ other.position.x := by
      rcases List.mem_cons.mp hother with rfl | hother
      · exact le_rfl
      · exact (List.pairwise_cons.mp hsorted).1 other hother
    simp only [Bool.and_eq_true, decide_eq_true_eq, not_and]
    omega

/-- A subnet gets a place with the padding to all others of its row, whatever is proposed. -/
theorem applyNonOverlapConstraint_spec (h : Boxes subnets others) (hn : n ∈ subnets) :
    let x := applyNonOverlapConstraint (arrangement subnets others f) n.id proposed
    ∀ m ∈ subnets, m.id ≠ n.id → m.position.y = n.position.y →
      x + n.size.x + padding ≤ f m.id ∨ f m.id + m.size.x + padding ≤ x := by
  intro x m hm hne hy
  have hx : x = applyNonOverlapConstraint (arrangement subnets others f) n.id proposed := rfl
  rw [applyNonOverlapConstraint, find_arrangement h hn] at hx
  dsimp only [movedTo] at hx
  set row := ((arrangement subnets others f).filter (fun m => m.isSubnet && m.id ≠ n.id && m.position.y = n.position.y)).mergeSort
    (fun a b => a.position.x ≤ b.position.x) with hrow
  have hmem : movedTo f m ∈ row := by
    rw [hrow, (List.mergeSort_perm _ _).mem_iff, List.mem_filter]
    refine ⟨List.mem_append_left _ (List.mem_map_of_mem hm), ?_⟩
    have hsubnet := h.isSubnet m hm
    simp only [Node.isSubnet] at hsubnet
    simp [Node.isSubnet, movedTo, hne, hy, hsubnet]
  have hsorted : row.Pairwise (fun a b => a.position.x ≤ b.position.x) :=
    pairwise_mergeSort_key (fun m : Node => m.position.x) _
  have hfree : overlapsAt n.size.x row x = false := by
    by_cases hover : overlapsAt n.size.x row proposed = true
    · rw [if_pos hover] at hx
      obtain ⟨y, hy, hclosest⟩ := closest_spec proposed
        (exists_free_candidate n.size.x hsorted (List.ne_nil_of_mem hmem))
      rw [hclosest, Option.getD_some] at hx
      rw [hx]
      simpa using List.of_mem_filter hy
    · rw [hx, if_neg hover]
      exact eq_false_of_ne_true hover
  clear hx
  have hapart := List.any_eq_false.mp hfree _ hmem
  simp only [Bool.and_eq_true, decide_eq_true_eq, not_and] at hapart
  dsimp only [movedTo] at hapart
  omega

end constraint

section sweeps

variable {subnets others nodes : List Node} {f : Uuid → ℤ} {n : Node} {x : ℤ}

/-- Subnets of one row are apart by the padding, or by what the grid leaves of it. -/
def Settled (subnets : List Node) (f : Uuid → ℤ) : Prop :=
  ∀ a ∈ subnets, ∀ b ∈ subnets, a.id ≠ b.id → a.position.y = b.position.y →
    KeepsGap padding f a b ∨ (25 ∣ f a.id ∧ 25 ∣ f b.id ∧ KeepsGap 101 f a b)

def RowsApart (gap : ℤ) (subnets : List Node) (f : Uuid → ℤ) : Prop :=
  ∀ a ∈ subnets, ∀ b ∈ subnets, a.id ≠ b.id → a.position.y = b.position.y → KeepsGap gap f a b

/-- The nodes are at some `x` of which this holds. -/
def Arranged (subnets others : List Node) (P : (Uuid → ℤ) → Prop) (nodes : List Node) : Prop :=
  ∃ f, nodes = arrangement subnets others f ∧ P f

theorem Settled.update (h : Settled subnets f)
    (hx : ∀ m ∈ subnets, m.id ≠ n.id → m.position.y = n.position.y →
      x + n.size.x + padding ≤ f m.id ∨ f m.id + m.size.x + padding ≤ x) (hn : n ∈ subnets) (hids :
        (subnets.map Node.id).Nodup) :
    Settled subnets (Function.update f n.id x) := by
  intro a ha b hb hne hy
  by_cases hna : a.id = n.id
  · have hnb : b.id ≠ n.id := fun heq => hne (hna.trans heq.symm)
    cases List.inj_on_of_nodup_map hids ha hn hna
    left
    rw [KeepsGap, Function.update_self, Function.update_of_ne hnb]
    exact hx b hb hnb hy.symm
  · by_cases hnb : b.id = n.id
    · cases List.inj_on_of_nodup_map hids hb hn hnb
      left
      rw [KeepsGap, Function.update_self, Function.update_of_ne hna]
      exact (hx a ha hna hy).symm
    · simp only [KeepsGap, Function.update_of_ne hna, Function.update_of_ne hnb]
      exact h a ha b hb hne hy

theorem optimizeLayer_arranged (h : Boxes subnets others) (barycenter : List Node → Uuid → ℤ) {layer : List Uuid}
    (hlayer : ∀ id ∈ layer, id ∈ subnets.map Node.id) (hnodes : Arranged subnets others (Settled subnets) nodes) :
    Arranged subnets others (Settled subnets) (optimizeLayer barycenter layer nodes) := by
  refine List.foldlRecOn layer _ hnodes (fun nodes hnodes id hid => ?_)
  obtain ⟨f, rfl, hf⟩ := hnodes
  obtain ⟨n, hn, rfl⟩ := List.mem_map.mp (hlayer id hid)
  exact ⟨_, setX_arrangement h hn, hf.update (applyNonOverlapConstraint_spec h hn) hn h.ids⟩

theorem sweep_arranged (h : Boxes subnets others) (proposals : Proposals) {layers : List (List Uuid)}
    (hlayers : ∀ layer ∈ layers, ∀ id ∈ layer, id ∈ subnets.map Node.id)
    (hnodes : Arranged subnets others (Settled subnets) nodes) :
    Arranged subnets others (Settled subnets) (sweep proposals layers nodes) := by
  have hlayer : ∀ e ∈ layers.zipIdx, ∀ id ∈ e.1, id ∈ subnets.map Node.id := fun e he =>
    hlayers e.1 (List.fst_mem_of_mem_zipIdx he)
  have hdown := List.foldlRecOn layers.zipIdx.tail
    (fun nodes (e : List Uuid × ℕ) => optimizeLayer (proposals true e.2) e.1 nodes) hnodes
    (fun nodes hnodes e he => optimizeLayer_arranged h (proposals true e.2) (hlayer e (List.mem_of_mem_tail he)) hnodes)
  exact List.foldlRecOn layers.zipIdx.dropLast.reverse
    (fun nodes (e : List Uuid × ℕ) => optimizeLayer (proposals false e.2) e.1 nodes) hdown
    (fun nodes hnodes e he => optimizeLayer_arranged h (proposals false e.2)
      (hlayer e (List.mem_of_mem_dropLast (List.mem_reverse.mp he))) hnodes)

end sweeps

section grid

variable {subnets others nodes : List Node} {f : Uuid → ℤ} {ids : List Uuid}

theorem snapToGrid_of_dvd {x : ℤ} (h : 25 ∣ x) : snapToGrid x = x := by
  unfold snapToGrid
  omega

theorem snapToGrid_near (x : ℤ) : x - 12 ≤ snapToGrid x ∧ snapToGrid x ≤ x + 12 := by
  unfold snapToGrid
  omega

theorem dvd_snapToGrid (x : ℤ) : 25 ∣ snapToGrid x := Dvd.intro_left _ rfl

theorem snapped_arrangement (h : Boxes subnets others) (hids : ∀ id ∈ ids, id ∈ subnets.map Node.id) :
    snapped ids (arrangement subnets others f) =
      arrangement subnets others (fun id => if id ∈ ids then snapToGrid (f id) else f id) := by
  induction ids generalizing f with
  | nil =>
    simp only [List.not_mem_nil, if_false]
    rfl
  | cons id rest ih =>
    obtain ⟨n, hn, rfl⟩ := List.mem_map.mp (hids _ List.mem_cons_self)
    have hrest := ih (f := Function.update f n.id (snapToGrid (f n.id))) (fun id hid =>
      hids id (List.mem_cons_of_mem _ hid))
    rw [snapped, List.foldl_cons, find_arrangement h hn]
    dsimp only [movedTo]
    rw [setX_arrangement h hn]
    refine hrest.trans (arrangement_congr (fun m _ => ?_))
    by_cases hm : m.id = n.id
    · rw [hm, Function.update_self, if_pos List.mem_cons_self]
      split
      · exact snapToGrid_of_dvd (dvd_snapToGrid _)
      · rfl
    · rw [Function.update_of_ne hm]
      simp only [List.mem_cons, hm, false_or]

/-- The grid takes at most 24 from a gap, and only once. -/
theorem Settled.snap (h : Settled subnets f) : RowsApart 101 subnets (fun id => snapToGrid (f id)) := by
  intro a ha b hb hne hy
  have hnearA := snapToGrid_near (f a.id)
  have hnearB := snapToGrid_near (f b.id)
  rcases h a ha b hb hne hy with hapart | ⟨hdvdA, hdvdB, hapart⟩
  · simp only [KeepsGap, padding] at hapart ⊢
    omega
  · simp only [KeepsGap, snapToGrid_of_dvd hdvdA, snapToGrid_of_dvd hdvdB]
    exact hapart

theorem RowsApart.snap (h : RowsApart 101 subnets f) : RowsApart 77 subnets (fun id => snapToGrid (f id)) := by
  intro a ha b hb hne hy
  have hnearA := snapToGrid_near (f a.id)
  have hnearB := snapToGrid_near (f b.id)
  have hapart := h a ha b hb hne hy
  simp only [KeepsGap] at hapart ⊢
  omega

theorem RowsApart.settled (h : RowsApart 101 subnets (fun id => snapToGrid (f id))) :
    Settled subnets (fun id => snapToGrid (f id)) := fun a ha b hb hne hy =>
  Or.inr ⟨dvd_snapToGrid _, dvd_snapToGrid _, h a ha b hb hne hy⟩

theorem Settled.rowsApart (h : Settled subnets f) : RowsApart 101 subnets f := by
  intro a ha b hb hne hy
  rcases h a ha b hb hne hy with hapart | ⟨-, -, hapart⟩
  · unfold KeepsGap padding at *
    omega
  · exact hapart

theorem snapped_arranged (h : Boxes subnets others) (hnodes : Arranged subnets others (Settled subnets) nodes) :
    Arranged subnets others (Settled subnets) (snapped (subnets.map Node.id) nodes) := by
  obtain ⟨f, rfl, hf⟩ := hnodes
  refine ⟨fun id => snapToGrid (f id), ?_, hf.snap.settled⟩
  rw [snapped_arrangement h (fun id hid => hid)]
  exact arrangement_congr (fun n hn => if_pos (List.mem_map_of_mem hn))

end grid

section layers

variable {subnets others nodes : List Node} {f : Uuid → ℤ} {layer : List Uuid}

theorem mem_grouped {α κ : Type} [LinearOrder κ] {key : α → κ} {entries group : List α} :
    group ∈ grouped key entries ↔ ∃ e ∈ entries, group = entries.filter (fun e' => key e' = key e) := by
  simp only [grouped, List.mem_map, List.mem_mergeSort, List.mem_dedup]
  constructor
  · rintro ⟨_, ⟨e, he, rfl⟩, rfl⟩
    exact ⟨e, he, rfl⟩
  · rintro ⟨e, he, rfl⟩
    exact ⟨_, ⟨e, he, rfl⟩, rfl⟩

/-- A layer is one row of subnets, all of it. -/
theorem mem_groupSubnetsByLayer (h : Boxes subnets others)
    (hlayer : layer ∈ groupSubnetsByLayer (arrangement subnets others f) (subnets.map Node.id)) :
    ∃ y, layer = (subnets.filter (fun n => n.position.y = y)).map Node.id := by
  have hplaced : (subnets.map Node.id).filterMap (fun id =>
    (find (arrangement subnets others f) id).map (fun n => (n.position.y, id))) =
      subnets.map (fun n => (n.position.y, n.id)) := by
    rw [List.filterMap_map, ← List.filterMap_eq_map]
    refine List.filterMap_congr (fun n hn => ?_)
    rw [Function.comp_apply, find_arrangement h hn]
    rfl
  rw [groupSubnetsByLayer, hplaced] at hlayer
  obtain ⟨group, hgroup, rfl⟩ := List.mem_map.mp hlayer
  obtain ⟨e, -, rfl⟩ := mem_grouped.mp hgroup
  refine ⟨e.1, ?_⟩
  rw [List.filter_map, List.map_map]
  rfl

/-- The row as it is compressed, from left to right. -/
theorem pairwise_subnetInfo (h : Boxes subnets others) (hf : RowsApart 101 subnets f) (locked : List Uuid) {y : ℤ}
    (hlayer : layer = (subnets.filter (fun n => n.position.y = y)).map Node.id) :
    (subnetInfo locked layer (arrangement subnets others f)).Pairwise (Follows 101) ∧
      (subnetInfo locked layer (arrangement subnets others f)).Perm
        ((subnets.filter (fun n => n.position.y = y)).map (fun n =>
        ⟨n.id, f n.id, n.size.x, locked.contains n.id⟩)) := by
  have hinfo : layer.filterMap (fun id => (find (arrangement subnets others f) id).map (fun n =>
      (⟨id, n.position.x, n.size.x, locked.contains id⟩ : SubnetInfo))) =
      (subnets.filter (fun n => n.position.y = y)).map (fun n => ⟨n.id, f n.id, n.size.x, locked.contains n.id⟩) := by
    rw [hlayer, List.filterMap_map, ← List.filterMap_eq_map]
    refine List.filterMap_congr (fun n hn => ?_)
    rw [Function.comp_apply, find_arrangement h (List.mem_of_mem_filter hn)]
    rfl
  unfold subnetInfo
  rw [hinfo]
  have hperm := List.mergeSort_perm ((subnets.filter (fun n => n.position.y = y)).map (fun n =>
    (⟨n.id, f n.id, n.size.x, locked.contains n.id⟩ : SubnetInfo))) (fun a b => a.x ≤ b.x)
  refine ⟨?_, hperm⟩
  have hsorted := pairwise_mergeSort_key (fun i : SubnetInfo => i.x)
    ((subnets.filter (fun n => n.position.y = y)).map (fun n =>
    (⟨n.id, f n.id, n.size.x, locked.contains n.id⟩ : SubnetInfo)))
  have hapart : ((subnets.filter (fun n => n.position.y = y)).map (fun n =>
      (⟨n.id, f n.id, n.size.x, locked.contains n.id⟩ : SubnetInfo))).Pairwise (fun a b => Follows 101 a b ∨
        Follows 101 b a) := by
    rw [List.pairwise_map]
    refine ((List.pairwise_map.mp h.ids).filter _).imp_of_mem (fun {a b} ha hb hne => ?_)
    have hya : a.position.y = y := by simpa using List.of_mem_filter ha
    have hyb : b.position.y = y := by simpa using List.of_mem_filter hb
    exact hf a (List.mem_of_mem_filter ha) b (List.mem_of_mem_filter hb) hne (hya.trans hyb.symm)
  refine (hsorted.and ((hperm.pairwise_iff (fun h => h.symm)).mpr hapart)).imp (fun {a b} hboth => ?_)
  unfold Follows at *
  omega

theorem foldl_setX (h : Boxes subnets others) {placed : List SubnetInfo}
    (hplaced : ∀ i ∈ placed, i.id ∈ subnets.map Node.id)
    (hids : (placed.map SubnetInfo.id).Nodup) :
    ∃ g, placed.foldl (fun nodes i => setX i.id i.x nodes)
      (arrangement subnets others f) = arrangement subnets others g ∧
      (∀ i ∈ placed, g i.id = i.x) ∧ ∀ id, id ∉ placed.map SubnetInfo.id → g id = f id := by
  induction placed generalizing f with
  | nil => exact ⟨f, rfl, by simp, fun _ _ => rfl⟩
  | cons i rest ih =>
    rw [List.map_cons, List.nodup_cons] at hids
    obtain ⟨n, hn, hid⟩ := List.mem_map.mp (hplaced i List.mem_cons_self)
    obtain ⟨g, heq, hmoved, hkept⟩ := ih (f := Function.update f i.id i.x) (fun j hj =>
      hplaced j (List.mem_cons_of_mem _ hj)) hids.2
    rw [List.foldl_cons, ← hid, setX_arrangement h hn, hid]
    refine ⟨g, heq, List.forall_mem_cons.mpr ⟨?_, hmoved⟩, fun id hid => ?_⟩
    · rw [hkept i.id hids.1, Function.update_self]
    · rw [List.map_cons, List.mem_cons, not_or] at hid
      rw [hkept id hid.2, Function.update_of_ne hid.1]

theorem compressLayer_arranged (h : Boxes subnets others) (locked : List Uuid) {y : ℤ}
    (hlayer : layer = (subnets.filter (fun n => n.position.y = y)).map Node.id)
    (hnodes : Arranged subnets others (RowsApart 101 subnets) nodes) :
    Arranged subnets others (RowsApart 101 subnets) (compressLayer locked nodes layer) := by
  obtain ⟨f, rfl, hf⟩ := hnodes
  unfold compressLayer
  split
  · exact ⟨f, rfl, hf⟩
  · obtain ⟨hfollows, hperm⟩ := pairwise_subnetInfo h hf locked hlayer
    obtain ⟨hplaced, hsame⟩ := compressedLayer_spec hfollows
    set info := subnetInfo locked layer (arrangement subnets others f)
    have hrow : ((compressedLayer info).map (fun i => (i.id, i.width))).Perm
        ((subnets.filter (fun n => n.position.y = y)).map (fun n => (n.id, n.size.x))) := by
      have hmap := hperm.map (fun i => (i.id, i.width))
      rw [List.map_map] at hmap
      exact hsame ▸ hmap
    have hids : ((compressedLayer info).map SubnetInfo.id).Perm layer := by
      have hmap := hrow.map Prod.fst
      rw [List.map_map, List.map_map] at hmap
      exact hlayer ▸ hmap
    have hnodup : layer.Nodup := hlayer ▸ (List.filter_sublist.map Node.id).nodup h.ids
    have hmem : ∀ i ∈ compressedLayer info, i.id ∈ subnets.map Node.id := by
      intro i hi
      have hin := hids.mem_iff.mp (List.mem_map_of_mem hi)
      rw [hlayer] at hin
      exact (List.filter_sublist.map Node.id).subset hin
    obtain ⟨g, heq, hmoved, hkept⟩ := foldl_setX h (f := f) hmem (hids.nodup_iff.mpr hnodup)
    have hinfo : ∀ n ∈ subnets, n.position.y = y → ∃ i ∈ compressedLayer info, i.id = n.id ∧ i.width = n.size.x := by
      intro n hn hy
      have hin := hrow.mem_iff.mpr (List.mem_map_of_mem (List.mem_filter.mpr ⟨hn, decide_eq_true hy⟩))
      obtain ⟨i, hi, heq⟩ := List.mem_map.mp hin
      exact ⟨i, hi, (Prod.mk.inj heq).1, (Prod.mk.inj heq).2⟩
    refine ⟨g, heq, fun a ha b hb hne hy => ?_⟩
    by_cases hrowA : a.position.y = y
    · obtain ⟨i, hi, hidA, hwidthA⟩ := hinfo a ha hrowA
      obtain ⟨j, hj, hidB, hwidthB⟩ := hinfo b hb (hy.symm.trans hrowA)
      have hij : i ≠ j := fun heq => hne (hidA.symm.trans (heq ▸ hidB))
      have heither := pairwise_either hplaced hi hj hij
      rw [KeepsGap, ← hidA, ← hidB, ← hwidthA, ← hwidthB, hmoved i hi, hmoved j hj]
      exact heither
    · have hout : ∀ n ∈ subnets, n.position.y = a.position.y → g n.id = f n.id := by
        intro n hn hyn
        refine hkept n.id (fun hid => hrowA ?_)
        have hlayerid := hids.mem_iff.mp hid
        rw [hlayer] at hlayerid
        obtain ⟨m, hm, hmid⟩ := List.mem_map.mp hlayerid
        cases List.inj_on_of_nodup_map h.ids (List.mem_of_mem_filter hm) hn hmid
        exact hyn.symm.trans (by simpa using List.of_mem_filter hm)
      rw [KeepsGap, hout a ha rfl, hout b hb hy.symm]
      exact hf a ha b hb hne hy

end layers

end VantageNet.Graph.SubnetPositioner
