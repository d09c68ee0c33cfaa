import VantageNet.Inventory.Canonical
import VantageNet.Inventory.Rediscovery

/-!
What a list of bindings covers, before and after it is deduplicated, and after the bindings of a
discovered service have been merged into it.
-/

namespace VantageNet.Inventory

/-- An interface binding and a port binding on that interface or on all of them, in one list. -/
def Conflicted (bindings : List Binding) : Prop :=
  ∃ a ∈ bindings, ∃ b ∈ bindings, ∃ interfaceId portId at_, a.base.bindingType = .interface interfaceId ∧
    b.base.bindingType = .port portId at_ ∧ (at_ = some interfaceId ∨ at_ = none)

section validation

theorem clashes_iff {a b : BindingType} : a.clashes b = true ↔ ∃ interfaceId portId at_,
    (a = .interface interfaceId ∧ b = .port portId at_ ∨ b = .interface interfaceId ∧ a = .port portId at_) ∧
      (at_ = some interfaceId ∨ at_ = none) := by
  rcases a with i | ⟨p, at_⟩ <;> rcases b with j | ⟨q, at'⟩ <;> simp [BindingType.clashes]

theorem clashes_self (a : BindingType) : a.clashes a = false := by
  rcases a with i | ⟨p, at_⟩ <;> rfl

/-- No two bindings of the list clash, whichever stands first. -/
theorem pairwise_not_clashes_iff {bindings : List Binding} :
    bindings.Pairwise (fun a b => a.base.bindingType.clashes b.base.bindingType = false) ↔
      ∀ a ∈ bindings, ∀ b ∈ bindings, a.base.bindingType.clashes b.base.bindingType = false := by
  constructor
  · intro h a ha b hb
    have hsymm : Std.Symm (fun a b : Binding => a.base.bindingType.clashes b.base.bindingType = false) :=
      ⟨fun a b h => by rw [clashes_comm]; exact h⟩
    by_cases hne : a = b
    · rw [hne, clashes_self]
    · exact h.forall ha hb hne
  · exact fun h => List.pairwise_of_forall_mem_list h

theorem validateBindingsNoConflicts_ok_iff (bindings : List Binding) :
    validateBindingsNoConflicts bindings = .ok () ↔ ¬ Conflicted bindings := by
  rw [validateBindingsNoConflicts, validateFrom_ok_iff, pairwise_not_clashes_iff]
  constructor
  · rintro ⟨h, -⟩ ⟨a, ha, b, hb, i, p, at_, htype, htype', hat⟩
    have hclash := clashes_iff.mpr ⟨i, p, at_, .inl ⟨htype, htype'⟩, hat⟩
    rw [h a ha b hb] at hclash
    cases hclash
  · intro h
    refine ⟨fun a ha b hb => Bool.eq_false_iff.mpr (fun hclash => h ?_), fun _ _ _ he => absurd he List.not_mem_nil⟩
    obtain ⟨i, p, at_, ⟨htype, htype'⟩ | ⟨htype, htype'⟩, hat⟩ := clashes_iff.mp hclash
    · exact ⟨a, ha, b, hb, i, p, at_, htype, htype', hat⟩
    · exact ⟨b, hb, a, ha, i, p, at_, htype, htype', hat⟩

theorem conflicted_perm {as bs : List Binding} (h : as.Perm bs) : Conflicted as ↔ Conflicted bs := by
  simp only [Conflicted, h.mem_iff]

end validation

section deduplicate

variable (bindings : List Binding)

theorem represented_deduplicateBindings (a : BindingType) :
    Represented (deduplicateBindings bindings) a ↔ Represented bindings a := by
  constructor
  · rintro ⟨b, hb, hba⟩
    exact ⟨b, mem_of_mem_deduplicateBindings hb, hba⟩
  · exact fun h => h.of_mem (fun b hb => deduplicateBindings_represents hb)

theorem deduplicateBindings_idempotent : deduplicateBindings (deduplicateBindings bindings) = deduplicateBindings bindings :=
  deduplicateBindings_eq_self_iff.mpr ⟨List.pairwise_map.mpr (pairwise_deduplicateBindings bindings),
    fun _ ha _ hb => not_covers_deduplicateBindings (mem_of_mem_deduplicateBindings ha) hb⟩

end deduplicate

/-- Deduplication keeps what a list covers and nothing that is superfluous, and the check of a list for conflicts does not
depend on the order. -/
theorem deduplication_and_validation (bindings : List Binding) :
    (deduplicateBindings bindings).Sublist bindings ∧
      (deduplicateBindings bindings).Pairwise (fun a b => a.base.bindingType ≠ b.base.bindingType) ∧
      (∀ a ∈ deduplicateBindings bindings, ∀ b ∈ deduplicateBindings bindings, ∀ portId interfaceId,
        a.base.bindingType = .port portId none → b.base.bindingType ≠ .port portId (some interfaceId)) ∧
      (∀ a, Represented (deduplicateBindings bindings) a ↔ Represented bindings a) ∧
      deduplicateBindings (deduplicateBindings bindings) = deduplicateBindings bindings ∧
      (validateBindingsNoConflicts bindings = .ok () ↔ ¬ Conflicted bindings) ∧
      ∀ bindings', bindings.Perm bindings' →
        (validateBindingsNoConflicts bindings' = .ok () ↔ validateBindingsNoConflicts bindings = .ok ()) := by
  refine ⟨deduplicateFrom_sublist _ _ bindings, pairwise_deduplicateBindings bindings, ?_, represented_deduplicateBindings bindings,
    deduplicateBindings_idempotent bindings, validateBindingsNoConflicts_ok_iff bindings, fun bindings' hperm => ?_⟩
  · intro a ha b hb p i htype htype'
    have hcovers := not_covers_deduplicateBindings (mem_of_mem_deduplicateBindings ha) hb
    rw [htype, htype'] at hcovers
    simp [BindingType.covers] at hcovers
  · rw [validateBindingsNoConflicts_ok_iff, validateBindingsNoConflicts_ok_iff, conflicted_perm hperm]

section upsert

theorem clashes_of_covers {a d e : BindingType} (hcovers : d.covers e = true) (h : a.clashes e = true) : a.clashes d = true := by
  rcases d with i | ⟨p, _ | i⟩
  · cases hcovers
  · rcases a with j | ⟨q, at_⟩
    · simp [BindingType.clashes]
    · rcases e with k | ⟨r, at'⟩
      · cases hcovers
      · simp [BindingType.clashes] at h
  · cases hcovers

theorem clashes_of_covers_right {a c e : BindingType} (hcovers : c.covers a = true) (h : a.clashes e = true) :
    c.clashes e = true := by
  rw [clashes_comm] at h ⊢
  exact clashes_of_covers hcovers h

/-- A binding that clashes with one of a list goes on to do so. -/
theorem clashes_upsertBindings {existing : List Binding} {a : BindingType} (new : List Binding)
    (h : ∃ e ∈ existing, a.clashes e.base.bindingType = true) :
    ∃ e ∈ upsertBindings existing new, a.clashes e.base.bindingType = true := by
  obtain ⟨e, he, hclash⟩ := h
  rcases Survives.upsertBindings (.inl he) new with hstill | ⟨d, hd, hcovers⟩
  · exact ⟨e, hstill, hclash⟩
  · exact ⟨d, hd, clashes_of_covers hcovers hclash⟩

theorem Canonical.not_clashes {bindings : List Binding} (h : Canonical bindings) {a b : Binding} (ha : a ∈ bindings)
    (hb : b ∈ bindings) : a.base.bindingType.clashes b.base.bindingType = false :=
  pairwise_not_clashes_iff.mp (h.imp Compatible.not_clashes) a ha b hb

theorem Canonical.not_covers {bindings : List Binding} (h : Canonical bindings) {a b : Binding} (ha : a ∈ bindings)
    (hb : b ∈ bindings) : a.base.bindingType.covers b.base.bindingType = false := by
  by_cases hne : a = b
  · rw [hne, covers_self]
  · exact (List.Pairwise.forall h ha hb hne).not_covers

/-- What a canonical list covers clashes with none of its bindings. -/
theorem Canonical.not_clashes_of_represented {bindings : List Binding} (h : Canonical bindings) {a : BindingType}
    (ha : Represented bindings a) {e : Binding} (he : e ∈ bindings) : a.clashes e.base.bindingType = false := by
  obtain ⟨c, hc, rfl | hcovers⟩ := ha
  · exact h.not_clashes hc he
  · rw [Bool.eq_false_iff]
    intro hclash
    have hclash' := clashes_of_covers_right hcovers hclash
    rw [h.not_clashes hc he] at hclash'
    cases hclash'

/-- A binding is covered by what becomes of a service unless it clashes with what the service has when its turn comes. -/
theorem represented_upsertBindings_iff {existing : List Binding} (h : Canonical existing) (before after : List Binding)
    (b : Binding) : Represented (upsertBindings existing (before ++ b :: after)) b.base.bindingType ↔
      ∀ e ∈ upsertBindings existing before, b.base.bindingType.clashes e.base.bindingType = false := by
  have hsplit : upsertBindings existing (before ++ b :: after) =
      upsertBindings (upsertBindings existing before) (b :: after) := List.foldl_append
  rw [hsplit]
  constructor
  · intro hrepresented e he
    rw [Bool.eq_false_iff]
    intro hclash
    obtain ⟨d, hd, hclash'⟩ := clashes_upsertBindings (b :: after) ⟨e, he, hclash⟩
    rw [((h.upsertBindings before).upsertBindings (b :: after)).not_clashes_of_represented hrepresented hd] at hclash'
    cases hclash'
  · intro hfree
    have hstep := represented_upsertBinding ((validateBindingNoConflict_eq_none_iff _ _).mpr hfree)
    exact Represented.upsertBindings hstep after

/-- A binding that a canonical list covers already adds nothing, nor does one that clashes. -/
theorem Canonical.addsNothing {existing : List Binding} (h : Canonical existing) {new : BindingType}
    (hnew : Represented existing new ∨ ∃ e ∈ existing, new.clashes e.base.bindingType = true) : AddsNothing existing new := by
  rcases hnew with ⟨c, hc, rfl | hcovers⟩ | hclash
  · exact .inr (.inr ⟨⟨c, hc, rfl⟩, fun e he => h.not_covers hc he⟩)
  · exact .inl ⟨c, hc, hcovers⟩
  · exact .inr (.inl hclash)

theorem represented_or_clashes {existing new : List Binding} (h : Canonical existing) {b : Binding} (hb : b ∈ new) :
    Represented (upsertBindings existing new) b.base.bindingType ∨
      ∃ e ∈ upsertBindings existing new, b.base.bindingType.clashes e.base.bindingType = true := by
  obtain ⟨before, after, rfl⟩ := List.append_of_mem hb
  by_cases hfree : ∀ e ∈ upsertBindings existing before, b.base.bindingType.clashes e.base.bindingType = false
  · exact .inl ((represented_upsertBindings_iff h before after b).mpr hfree)
  · simp only [not_forall, Bool.not_eq_false] at hfree
    obtain ⟨e, he, hclash⟩ := hfree
    have hlater := clashes_upsertBindings (b :: after) ⟨e, he, hclash⟩
    rw [upsertBindings, List.foldl_append]
    exact .inr hlater

end upsert

section types

variable {as bs : List Binding}

/-- Only the types of the bindings matter. -/
theorem exists_of_types (h : as.map (fun b => b.base.bindingType) = bs.map (fun b => b.base.bindingType)) {P : BindingType → Prop} :
    (∃ a ∈ as, P a.base.bindingType) ↔ ∃ b ∈ bs, P b.base.bindingType := by
  have hexists (l : List Binding) : (∃ b ∈ l, P b.base.bindingType) ↔ ∃ t ∈ l.map (fun b => b.base.bindingType), P t := by
    simp only [List.mem_map, exists_exists_and_eq_and]
  rw [hexists, hexists, h]

theorem Canonical.of_types (hbs : Canonical bs)
    (h : as.map (fun b => b.base.bindingType) = bs.map (fun b => b.base.bindingType)) : Canonical as := by
  have hpairwise := List.pairwise_map.mpr hbs
  rw [← h] at hpairwise
  exact List.pairwise_map.mp hpairwise

end types

/-- A canonical service stays canonical and loses nothing that it covers, takes each binding that does not clash with what
it has by then, and takes nothing more when the same bindings come again, whatever ids it has been stored with. -/
theorem upsert_merges_soundly (existing new : List Binding) (h : Canonical existing) :
    Canonical (upsertBindings existing new) ∧
      (∀ a, Represented existing a → Represented (upsertBindings existing new) a) ∧
      (∀ before b after, new = before ++ b :: after → (Represented (upsertBindings existing new) b.base.bindingType ↔
        ∀ e ∈ upsertBindings existing before, b.base.bindingType.clashes e.base.bindingType = false)) ∧
      ∀ stored : List Binding, stored.map (fun b => b.base.bindingType) =
        (upsertBindings existing new).map (fun b => b.base.bindingType) → upsertBindings stored new = stored := by
  refine ⟨h.upsertBindings new, fun _ ha => ha.upsertBindings new, ?_, fun stored hstored => ?_⟩
  · rintro before b after rfl
    exact represented_upsertBindings_iff h before after b
  · refine upsertBindings_eq_self (fun b hb => ((h.upsertBindings new).of_types hstored).addsNothing ?_)
    rcases represented_or_clashes h hb with hrepresented | hclash
    · exact .inl ((exists_of_types (P := fun t => t = _ ∨ t.covers _ = true) hstored).mpr hrepresented)
    · exact .inr ((exists_of_types (P := fun t => b.base.bindingType.clashes t = true) hstored).mpr hclash)

/-- Two ports on single interfaces, one of which comes to be bound on all of them, and an interface that is refused. -/
theorem upsert_merges_soundly_superseded :
    let existing := [webBinding 10 (.port 4 (some 2)), webBinding 11 (.port 5 (some 2))]
    let new := [webBinding 12 (.port 4 none), webBinding 13 (.interface 3)]
    upsertBindings existing new = [webBinding 11 (.port 5 (some 2)), webBinding 12 (.port 4 none)] ∧
      Canonical (upsertBindings existing new) ∧ Represented (upsertBindings existing new) (.port 4 (some 2)) ∧
      upsertBindings (upsertBindings existing new) new = upsertBindings existing new := by
  intro existing new
  obtain ⟨hcanonical, hkept, -, hagain⟩ := upsert_merges_soundly existing new (by unfold Canonical existing; decide)
  refine ⟨by decide, hcanonical, hkept _ ?_, hagain _ rfl⟩
  exact ⟨webBinding 10 (.port 4 (some 2)), List.mem_cons_self, .inl rfl⟩

end VantageNet.Inventory
