import Mathlib.Data.List.Forall2
import Mathlib.Data.List.Sort
import Mathlib.Data.Nat.Notation

/-!
Database tables whose rows are pairwise apart, which is what the unique constraints of a
table amount to, and the orders in which a query may answer.
-/

namespace VantageNet.Interaction

structure Table (α : Type) (apart : α → α → Prop) where
  rows : List α
  pairwise : rows.Pairwise apart

namespace Table

variable {α : Type} {apart : α → α → Prop}

def empty : Table α apart := ⟨[], .nil⟩

def singleton (a : α) : Table α apart := ⟨[a], List.pairwise_singleton _ a⟩

def insert (t : Table α apart) (a : α) (h : ∀ r ∈ t.rows, apart r a) : Table α apart :=
  ⟨t.rows ++ [a], List.pairwise_append.mpr ⟨t.pairwise, List.pairwise_singleton _ a,
    fun r hr _ hb => List.mem_singleton.mp hb ▸ h r hr⟩⟩

def filter (t : Table α apart) (p : α → Bool) : Table α apart := ⟨t.rows.filter p, t.pairwise.filter p⟩

@[simp]
theorem rows_insert (t : Table α apart) (a : α) (h : ∀ r ∈ t.rows, apart r a) :
    (t.insert a h).rows = t.rows ++ [a] := rfl

@[simp]
theorem rows_filter (t : Table α apart) (p : α → Bool) : (t.filter p).rows = t.rows.filter p := rfl

theorem ext {t u : Table α apart} (h : t.rows = u.rows) : t = u := by
  cases t
  cases u
  cases h
  rfl

section keys

variable {κ : Type} {key : α → κ}

/-- Rows that have one key are one row, where a key keeps rows apart. -/
theorem eq_of_key_eq (t : Table α apart) (hkey : ∀ a b, apart a b → key a ≠ key b) {a b : α} (ha : a ∈ t.rows)
    (hb : b ∈ t.rows) (h : key a = key b) : a = b :=
  List.inj_on_of_nodup_map (List.pairwise_map.mpr (t.pairwise.imp (hkey _ _))) ha hb h

theorem find?_key_eq_some_iff [DecidableEq κ] (t : Table α apart) (hkey : ∀ a b, apart a b → key a ≠ key b) {a : α}
    {k : κ} : t.rows.find? (fun r => key r = k) = some a ↔ a ∈ t.rows ∧ key a = k := by
  constructor
  · intro h
    exact ⟨List.mem_of_find?_eq_some h, by simpa using List.find?_some h⟩
  · rintro ⟨ha, rfl⟩
    cases hfind : t.rows.find? (fun r => key r = key a) with
    | none => exact absurd (List.find?_eq_none.mp hfind a ha) (by simp)
    | some b =>
      rw [t.eq_of_key_eq hkey (List.mem_of_find?_eq_some hfind) ha (by simpa using List.find?_some hfind)]

end keys

end Table

section lookup

variable {α κ : Type} [DecidableEq κ] (key : α → κ)

theorem find?_eq_some_of_unique {α : Type} {p : α → Bool} {xs : List α} {a : α} (hmem : a ∈ xs) (ha : p a = true)
    (hunique : ∀ b ∈ xs, p b = true → b = a) : xs.find? p = some a := by
  cases hfind : xs.find? p with
  | none => exact absurd ha (List.find?_eq_none.mp hfind a hmem)
  | some b => rw [hunique b (List.mem_of_find?_eq_some hfind) (List.find?_some hfind)]

theorem find?_append_row {rows : List α} {row : α} (h : ∀ r ∈ rows, key r ≠ key row) (k : κ) :
    (rows ++ [row]).find? (fun r => key r = k) = if k = key row then some row else rows.find? (fun r => key r = k) := by
  rw [List.find?_append]
  by_cases hk : k = key row
  · have hnone : rows.find? (fun r => key r = k) = none :=
      List.find?_eq_none.mpr (fun r hr => by simpa [hk] using h r hr)
    rw [hnone, if_pos hk]
    simp [hk]
  · have hrow : ¬ key row = k := fun h => hk h.symm
    rw [if_neg hk]
    simp [hrow]

/-- The row in the place of the one with its key. -/
theorem find?_replace_row {rows : List α} {row existing : α} (h : rows.find? (fun r => key r = key row) = some existing) (k : κ) :
    (rows.map (fun r => if key r = key row then row else r)).find? (fun r => key r = k) =
      if k = key row then some row else rows.find? (fun r => key r = k) := by
  have hsame : (fun r => decide (key r = k)) ∘ (fun r => if key r = key row then row else r) = fun r => decide (key r = k) := by
    funext r
    by_cases hr : key r = key row <;> simp [hr]
  rw [List.find?_map, hsame]
  split_ifs with hk
  · have hexisting : key existing = key row := by simpa using List.find?_some h
    rw [hk, h, Option.map_some, if_pos hexisting]
  · cases hfind : rows.find? (fun r => key r = k) with
    | none => rfl
    | some r =>
      have hr : key r = k := by simpa using List.find?_some hfind
      rw [Option.map_some, if_neg (hr ▸ hk)]

end lookup

section order

variable {α : Type} [DecidableEq α]

/-- The rows by ascending `key`: in the proposed order where it is such an order of these rows. -/
def arrange (key : α → ℤ) (rows proposed : List α) : List α :=
  if proposed.Perm rows ∧ proposed.Pairwise (fun a b => key a ≤ key b) then proposed
  else rows.insertionSort (fun a b => key a ≤ key b)

theorem arrange_perm (key : α → ℤ) (rows proposed : List α) : (arrange key rows proposed).Perm rows := by
  unfold arrange
  split_ifs with h
  · exact h.1
  · exact List.perm_insertionSort _ rows

theorem arrange_sorted (key : α → ℤ) (rows proposed : List α) :
    (arrange key rows proposed).Pairwise (fun a b => key a ≤ key b) := by
  unfold arrange
  split_ifs with h
  · exact h.2
  · have : Std.Total (fun a b : α => key a ≤ key b) := ⟨fun a b => Int.le_total (key a) (key b)⟩
    have : IsTrans α (fun a b => key a ≤ key b) := ⟨fun a b c => Int.le_trans⟩
    exact List.pairwise_insertionSort _ rows

end order

section pairing

variable {α β γ : Type} {R : α → β → Prop} {S : β → γ → Prop} {as : List α} {bs : List β} {cs : List γ}

theorem exists_right_of_forall₂ (h : List.Forall₂ R as bs) {a : α} (ha : a ∈ as) : ∃ b ∈ bs, R a b := by
  induction h with
  | nil => cases ha
  | cons hhead _ ih =>
    rcases List.mem_cons.mp ha with rfl | ha
    · exact ⟨_, List.mem_cons_self, hhead⟩
    · obtain ⟨b, hb, hab⟩ := ih ha
      exact ⟨b, List.mem_cons_of_mem _ hb, hab⟩

theorem exists_left_of_forall₂ (h : List.Forall₂ R as bs) {b : β} (hb : b ∈ bs) : ∃ a ∈ as, R a b :=
  exists_right_of_forall₂ (R := flip R) h.flip hb

theorem forall₂_comp (h : List.Forall₂ R as bs) (h' : List.Forall₂ S bs cs) :
    List.Forall₂ (Relation.Comp R S) as cs := by
  induction h generalizing cs with
  | nil =>
    cases h'
    exact .nil
  | cons hhead _ ih =>
    cases h' with
    | cons hhead' htail' => exact .cons ⟨_, hhead, hhead'⟩ (ih htail')

theorem forall₂_filterMap {f : α → Option β} (h : ∀ a ∈ as, (f a).isSome = true) :
    List.Forall₂ (fun a b => f a = some b) as (as.filterMap f) := by
  induction as with
  | nil => exact .nil
  | cons a as ih =>
    obtain ⟨b, hb⟩ := Option.isSome_iff_exists.mp (h a List.mem_cons_self)
    rw [List.filterMap_cons_some hb]
    exact .cons hb (ih (fun a ha => h a (List.mem_cons_of_mem _ ha)))

/-- Related elements are found together. -/
theorem find?_forall₂ (h : List.Forall₂ R as bs) {p : α → Bool} {q : β → Bool}
    (hpq : ∀ a ∈ as, ∀ b ∈ bs, R a b → p a = q b) : Option.Rel R (as.find? p) (bs.find? q) := by
  induction h with
  | nil => exact .none
  | @cons a b as bs hhead htail ih =>
    have ih := ih (fun a ha b hb => hpq a (List.mem_cons_of_mem _ ha) b (List.mem_cons_of_mem _ hb))
    have heq := hpq a List.mem_cons_self b List.mem_cons_self hhead
    cases hqb : q b with
    | true =>
      rw [List.find?_cons_of_pos (heq.trans hqb), List.find?_cons_of_pos hqb]
      exact .some hhead
    | false =>
      rw [List.find?_cons_of_neg (by simp [heq, hqb]), List.find?_cons_of_neg (by simp [hqb])]
      exact ih

theorem pairwise_iff_of_forall₂ (h : List.Forall₂ R as bs) {P : α → α → Prop} {Q : β → β → Prop}
    (hPQ : ∀ a b a' b', R a b → R a' b' → (P a a' ↔ Q b b')) : as.Pairwise P ↔ bs.Pairwise Q := by
  induction h with
  | nil => simp
  | @cons a b as bs hhead htail ih =>
    rw [List.pairwise_cons, List.pairwise_cons, ih]
    refine and_congr_left (fun _ => ⟨fun hall b' hb' => ?_, fun hall a' ha' => ?_⟩)
    · obtain ⟨a', ha', hab'⟩ := exists_left_of_forall₂ htail hb'
      exact (hPQ a b a' b' hhead hab').mp (hall a' ha')
    · obtain ⟨b', hb', hab'⟩ := exists_right_of_forall₂ htail ha'
      exact (hPQ a b a' b' hhead hab').mpr (hall b' hb')

/-- `bs` are, in some order, one for each of `as`. -/
def Exactly (R : α → β → Prop) (as : List α) (bs : List β) : Prop := ∃ bs', bs'.Perm bs ∧ List.Forall₂ R as bs'

namespace Exactly

theorem of_forall₂ (h : List.Forall₂ R as bs) : Exactly R as bs := ⟨bs, .refl bs, h⟩

/-- A relation that gives each element of either side one of the other. -/
theorem of_matching (has : as.Nodup) (hbs : bs.Nodup) (hright : ∀ a ∈ as, ∃ b ∈ bs, R a b) (hleft : ∀ b ∈ bs, ∃ a ∈ as, R a b)
    (hone : ∀ a ∈ as, ∀ b ∈ bs, ∀ b' ∈ bs, R a b → R a b' → b = b') (hone' : ∀ b ∈ bs, ∀ a ∈ as, ∀ a' ∈ as, R a b → R a' b → a = a') :
    Exactly R as bs := by
  choose partner hpartner hrelated using hright
  refine ⟨as.attach.map (fun a => partner a.1 a.2), (List.perm_ext_iff_of_nodup ?_ hbs).mpr (fun b => ?_), ?_⟩
  · refine List.Nodup.map_on (fun a _ a' _ heq => Subtype.ext ?_) (List.nodup_attach.mpr has)
    exact hone' _ (hpartner a.1 a.2) a.1 a.2 a'.1 a'.2 (hrelated a.1 a.2) (heq ▸ hrelated a'.1 a'.2)
  · simp only [List.mem_map, List.mem_attach, true_and, Subtype.exists]
    constructor
    · rintro ⟨a, ha, rfl⟩
      exact hpartner a ha
    · intro hb
      obtain ⟨a, ha, hab⟩ := hleft b hb
      exact ⟨a, ha, hone a ha _ (hpartner a ha) b hb (hrelated a ha) hab⟩
  · rw [List.forall₂_map_right_iff]
    have hattach : List.Forall₂ (fun (a : α) (b : {a // a ∈ as}) => R a (partner b.1 b.2)) (as.attach.map Subtype.val) as.attach :=
      List.forall₂_map_left_iff.mpr (List.forall₂_same.mpr (fun a _ => hrelated a.1 a.2))
    rwa [List.attach_map_subtype_val] at hattach

theorem exists_right (h : Exactly R as bs) {a : α} (ha : a ∈ as) : ∃ b ∈ bs, R a b := by
  obtain ⟨bs', hperm, h⟩ := h
  obtain ⟨b, hb, hab⟩ := exists_right_of_forall₂ h ha
  exact ⟨b, hperm.mem_iff.mp hb, hab⟩

theorem exists_left (h : Exactly R as bs) {b : β} (hb : b ∈ bs) : ∃ a ∈ as, R a b := by
  obtain ⟨bs', hperm, h⟩ := h
  exact exists_left_of_forall₂ h (hperm.mem_iff.mpr hb)

/-- What the related elements have in common they have in the same numbers. -/
theorem map_perm {γ : Type} {f : α → γ} {g : β → γ} (h : Exactly R as bs) (hmap : ∀ a ∈ as, ∀ b ∈ bs, R a b → f a = g b) :
    (as.map f).Perm (bs.map g) := by
  obtain ⟨bs', hperm, h⟩ := h
  obtain ⟨hlength, hzip⟩ := List.forall₂_iff_zip.mp h
  have hcommon : List.Forall₂ (fun a b => f a = g b) as bs' := by
    refine List.forall₂_iff_zip.mpr ⟨hlength, fun hab => ?_⟩
    obtain ⟨ha, hb⟩ := List.of_mem_zip hab
    exact hmap _ ha _ (hperm.mem_iff.mp hb) (hzip hab)
  have heq : List.Forall₂ (· = ·) (as.map f) (bs'.map g) :=
    List.forall₂_map_left_iff.mpr (List.forall₂_map_right_iff.mpr hcommon)
  rw [List.forall₂_eq_eq_eq] at heq
  rw [heq]
  exact hperm.map g

theorem length_eq (h : Exactly R as bs) : as.length = bs.length := by
  obtain ⟨bs', hperm, h⟩ := h
  rw [h.length_eq, hperm.length_eq]

/-- Keys that the pairing keeps and the right side has once are once on the left side. -/
theorem pairwise_ne {κ : Type} {f : α → κ} {g : β → κ} (h : Exactly R as bs) (hkey : ∀ a b, R a b → g b = f a)
    (hbs : bs.Pairwise (fun b b' => g b ≠ g b')) : as.Pairwise (fun a a' => f a ≠ f a') := by
  obtain ⟨bs', hperm, h⟩ := h
  have hbs' : (bs'.map g).Nodup := (hperm.map g).nodup_iff.mpr (List.pairwise_map.mpr hbs)
  have hmap : List.Forall₂ (· = ·) (as.map f) (bs'.map g) :=
    List.forall₂_map_left_iff.mpr (List.forall₂_map_right_iff.mpr (h.imp (fun a b hab => (hkey a b hab).symm)))
  rw [List.forall₂_eq_eq_eq] at hmap
  rw [← hmap] at hbs'
  exact List.pairwise_map.mp hbs'

end Exactly

end pairing

theorem filter_append_right {α : Type} {p : α → Bool} {as bs : List α} (has : ∀ a ∈ as, p a = false)
    (hbs : ∀ b ∈ bs, p b = true) : (as ++ bs).filter p = bs := by
  rw [List.filter_append, List.filter_eq_nil_iff.mpr (by simpa using has), List.filter_eq_self.mpr hbs, List.nil_append]

/-- Of lists that belong to different keys, one is found again by its key. -/
theorem filter_flatten {α β κ : Type} [DecidableEq κ] (own : α → κ) (key : β → κ) {groups : List (α × List β)}
    (hown : ∀ g ∈ groups, ∀ b ∈ g.2, key b = own g.1) (hdistinct : groups.Pairwise (fun g g' => own g.1 ≠ own g'.1))
    {g : α × List β} (hg : g ∈ groups) :
    ((groups.map Prod.snd).flatten).filter (fun b => key b = own g.1) = g.2 := by
  induction groups with
  | nil => cases hg
  | cons first rest ih =>
    obtain ⟨hfirst, hrest⟩ := List.pairwise_cons.mp hdistinct
    have hownFirst := hown first List.mem_cons_self
    have hownRest : ∀ g ∈ rest, ∀ b ∈ g.2, key b = own g.1 := fun g hg => hown g (List.mem_cons_of_mem _ hg)
    rw [List.map_cons, List.flatten_cons, List.filter_append]
    rcases List.mem_cons.mp hg with rfl | hg
    · have hothers : ((rest.map Prod.snd).flatten).filter (fun b => key b = own g.1) = [] := by
        refine List.filter_eq_nil_iff.mpr (fun b hb heq => ?_)
        obtain ⟨_, hmem, hb⟩ := List.mem_flatten.mp hb
        obtain ⟨g', hg', rfl⟩ := List.mem_map.mp hmem
        exact hfirst g' hg' (by rw [← hownRest g' hg' b hb, of_decide_eq_true heq])
      rw [hothers, List.append_nil, List.filter_eq_self]
      exact fun b hb => decide_eq_true (hownFirst b hb)
    · have hnone : first.2.filter (fun b => key b = own g.1) = [] := by
        refine List.filter_eq_nil_iff.mpr (fun b hb heq => ?_)
        exact hfirst g hg (by rw [← hownFirst b hb, of_decide_eq_true heq])
      rw [hnone, List.nil_append, ih hownRest hrest hg]

end VantageNet.Interaction
