import VantageNet.Inventory.Bindings

/-!
Which bindings may stand side by side in one service, and what the list functions of the
service make of that.
-/

namespace VantageNet.Inventory

/-- An interface binding and a port binding on that interface or on all of them. -/
def BindingType.clashes : BindingType → BindingType → Bool
  | .interface i, .port _ j => j = some i || j.isNone
  | .port _ j, .interface i => j = some i || j.isNone
  | _, _ => false

/-- A port binding on all interfaces and one of the same port on a specific interface. -/
def BindingType.covers : BindingType → BindingType → Bool
  | .port p none, .port q (some _) => p = q
  | _, _ => false

structure Compatible (a b : BindingType) : Prop where
  ne : a ≠ b
  not_covers : a.covers b = false
  not_covered : b.covers a = false
  not_clashes : a.clashes b = false

instance (a b : BindingType) : Decidable (Compatible a b) :=
  decidable_of_iff (a ≠ b ∧ a.covers b = false ∧ b.covers a = false ∧ a.clashes b = false)
    ⟨fun ⟨hne, hcovers, hcovered, hclashes⟩ => ⟨hne, hcovers, hcovered, hclashes⟩,
      fun h => ⟨h.ne, h.not_covers, h.not_covered, h.not_clashes⟩⟩

theorem clashes_comm (a b : BindingType) : a.clashes b = b.clashes a := by
  cases a <;> cases b <;> rfl

theorem Compatible.symm {a b : BindingType} (h : Compatible a b) : Compatible b a :=
  ⟨h.ne.symm, h.not_covered, h.not_covers, by rw [clashes_comm, h.not_clashes]⟩

theorem isBindingCoveredByExisting_iff (new : Binding) (existing : List Binding) :
    isBindingCoveredByExisting new existing = true ↔
      ∃ e ∈ existing, e.base.bindingType.covers new.base.bindingType = true := by
  unfold isBindingCoveredByExisting
  rcases hnew : new.base.bindingType with i | ⟨p, _ | i⟩
  · refine ⟨fun h => (nomatch h), ?_⟩
    rintro ⟨e, -, he⟩
    rcases htype : e.base.bindingType with j | ⟨q, _ | j⟩ <;> simp [htype, BindingType.covers] at he
  · refine ⟨fun h => (nomatch h), ?_⟩
    rintro ⟨e, -, he⟩
    rcases htype : e.base.bindingType with j | ⟨q, _ | j⟩ <;> simp [htype, BindingType.covers] at he
  · simp only [List.any_eq_true, decide_eq_true_eq]
    refine exists_congr (fun e => and_congr_right (fun _ => ?_))
    rcases e.base.bindingType with j | ⟨q, _ | j⟩ <;> simp [BindingType.covers]

theorem validateBindingNoConflict_eq_none_iff (new : BindingType) (existing : List Binding) :
    validateBindingNoConflict new existing = none ↔
      ∀ e ∈ existing, new.clashes e.base.bindingType = false := by
  unfold validateBindingNoConflict
  rcases new with i | ⟨p, _ | i⟩
  all_goals
    simp only [ite_eq_right_iff, reduceCtorEq, imp_false, List.any_eq_true, not_exists, not_and,
      Bool.not_eq_true]
    refine forall_congr' (fun e => forall_congr' (fun _ => ?_))
    rcases e.base.bindingType with j | ⟨q, _ | j⟩ <;> simp [BindingType.clashes, eq_comm]

def Canonical (bindings : List Binding) : Prop :=
  bindings.Pairwise (fun a b => Compatible a.base.bindingType b.base.bindingType)

section deduplicate

variable (allInterfaces : List Uuid)

theorem deduplicateFrom_sublist (seen : List BindingType) (bindings : List Binding) :
    (deduplicateFrom allInterfaces seen bindings).Sublist bindings := by
  induction bindings generalizing seen with
  | nil => exact .slnil
  | cons binding rest ih =>
    unfold deduplicateFrom
    split_ifs
    · exact (ih _).cons _
    · exact (ih _).cons_cons _

theorem deduplicateFrom_new {seen : List BindingType} {bindings : List Binding} {b : Binding}
    (hb : b ∈ deduplicateFrom allInterfaces seen bindings) :
    b.base.bindingType ∉ seen ∧ superseded allInterfaces b.base.bindingType = false := by
  induction bindings generalizing seen with
  | nil => cases hb
  | cons binding rest ih =>
    unfold deduplicateFrom at hb
    split_ifs at hb with h
    · exact ih hb
    · rw [Bool.or_eq_true, List.contains_iff_mem, not_or] at h
      rcases List.mem_cons.mp hb with rfl | hb
      · exact ⟨h.2, by simpa using h.1⟩
      · exact ⟨fun hmem => (ih hb).1 (List.mem_cons_of_mem _ hmem), (ih hb).2⟩

theorem deduplicateFrom_pairwise (seen : List BindingType) (bindings : List Binding) :
    (deduplicateFrom allInterfaces seen bindings).Pairwise
      (fun a b => a.base.bindingType ≠ b.base.bindingType) := by
  induction bindings generalizing seen with
  | nil => exact .nil
  | cons binding rest ih =>
    unfold deduplicateFrom
    split_ifs
    · exact ih _
    · refine .cons (fun b hb heq => ?_) (ih _)
      exact (deduplicateFrom_new allInterfaces hb).1 (heq ▸ List.mem_cons_self)

theorem deduplicateFrom_complete {seen : List BindingType} {bindings : List Binding} {b : Binding}
    (hb : b ∈ bindings) : b.base.bindingType ∈ seen ∨ superseded allInterfaces b.base.bindingType = true ∨
      ∃ c ∈ deduplicateFrom allInterfaces seen bindings, c.base.bindingType = b.base.bindingType := by
  induction bindings generalizing seen with
  | nil => cases hb
  | cons binding rest ih =>
    unfold deduplicateFrom
    split_ifs with h
    · rcases List.mem_cons.mp hb with rfl | hb
      · rw [Bool.or_eq_true, List.contains_iff_mem] at h
        exact h.elim (fun h => .inr (.inl h)) .inl
      · exact ih hb
    · rcases List.mem_cons.mp hb with rfl | hb
      · exact .inr (.inr ⟨b, List.mem_cons_self, rfl⟩)
      · rcases @ih (binding.base.bindingType :: seen) hb with hseen | hcover | ⟨c, hc, heq⟩
        · rcases List.mem_cons.mp hseen with heq | hseen
          · exact .inr (.inr ⟨binding, List.mem_cons_self, heq.symm⟩)
          · exact .inl hseen
        · exact .inr (.inl hcover)
        · exact .inr (.inr ⟨c, List.mem_cons_of_mem _ hc, heq⟩)

end deduplicate

theorem mem_allInterfacePortIds {bindings : List Binding} {p : Uuid} :
    p ∈ allInterfacePortIds bindings ↔ ∃ b ∈ bindings, b.base.bindingType = .port p none := by
  simp only [allInterfacePortIds, List.mem_filterMap]
  refine exists_congr (fun b => and_congr_right (fun _ => ?_))
  rcases b.base.bindingType with i | ⟨q, _ | i⟩ <;> simp

theorem superseded_iff {bindings : List Binding} {a : BindingType} :
    superseded (allInterfacePortIds bindings) a = true ↔
      ∃ b ∈ bindings, b.base.bindingType.covers a = true := by
  rcases a with i | ⟨p, _ | i⟩
  · refine ⟨fun h => (nomatch h), ?_⟩
    rintro ⟨b, -, hb⟩
    rcases htype : b.base.bindingType with j | ⟨q, _ | j⟩ <;> simp [htype, BindingType.covers] at hb
  · refine ⟨fun h => (nomatch h), ?_⟩
    rintro ⟨b, -, hb⟩
    rcases htype : b.base.bindingType with j | ⟨q, _ | j⟩ <;> simp [htype, BindingType.covers] at hb
  · simp only [superseded, List.contains_iff_mem, mem_allInterfacePortIds]
    refine exists_congr (fun b => and_congr_right (fun _ => ?_))
    rcases b.base.bindingType with j | ⟨q, _ | j⟩ <;> simp [BindingType.covers]

theorem mem_of_mem_deduplicateBindings {bindings : List Binding} {b : Binding}
    (hb : b ∈ deduplicateBindings bindings) : b ∈ bindings :=
  (deduplicateFrom_sublist _ _ bindings).mem hb

theorem pairwise_deduplicateBindings (bindings : List Binding) :
    (deduplicateBindings bindings).Pairwise (fun a b => a.base.bindingType ≠ b.base.bindingType) :=
  deduplicateFrom_pairwise _ [] bindings

/-- No binding that is left is covered by another one of the list. -/
theorem not_covers_deduplicateBindings {bindings : List Binding} {a b : Binding} (ha : a ∈ bindings)
    (hb : b ∈ deduplicateBindings bindings) : a.base.bindingType.covers b.base.bindingType = false := by
  rw [Bool.eq_false_iff]
  intro hcovers
  have hsuperseded := (deduplicateFrom_new _ hb).2
  rw [superseded_iff.mpr ⟨a, ha, hcovers⟩] at hsuperseded
  cases hsuperseded

theorem deduplicateFrom_eq_self (allInterfaces : List Uuid) {seen : List BindingType} {bindings : List Binding}
    (hdistinct : (bindings.map (fun b => b.base.bindingType)).Nodup)
    (hnew : ∀ b ∈ bindings, b.base.bindingType ∉ seen ∧ superseded allInterfaces b.base.bindingType = false) :
    deduplicateFrom allInterfaces seen bindings = bindings := by
  induction bindings generalizing seen with
  | nil => rfl
  | cons binding rest ih =>
    obtain ⟨hseen, hsuperseded⟩ := hnew binding List.mem_cons_self
    obtain ⟨hfirst, hdistinct⟩ := List.nodup_cons.mp hdistinct
    rw [deduplicateFrom, if_neg (by simp [hseen, hsuperseded]), ih hdistinct]
    intro b hb
    obtain ⟨hbseen, hbsuperseded⟩ := hnew b (List.mem_cons_of_mem _ hb)
    refine ⟨?_, hbsuperseded⟩
    rw [List.mem_cons, not_or]
    exact ⟨fun heq => hfirst (List.mem_map.mpr ⟨b, hb, heq⟩), hbseen⟩

theorem deduplicateBindings_eq_self_iff {bindings : List Binding} : deduplicateBindings bindings = bindings ↔
    (bindings.map (fun b => b.base.bindingType)).Nodup ∧
      ∀ a ∈ bindings, ∀ b ∈ bindings, a.base.bindingType.covers b.base.bindingType = false := by
  constructor
  · intro h
    refine ⟨?_, fun a ha b hb => not_covers_deduplicateBindings ha (h.symm ▸ hb)⟩
    have hpairwise := pairwise_deduplicateBindings bindings
    rw [h] at hpairwise
    exact List.pairwise_map.mpr hpairwise
  · rintro ⟨hdistinct, hcovers⟩
    refine deduplicateFrom_eq_self _ hdistinct (fun b hb => ⟨List.not_mem_nil, ?_⟩)
    rw [Bool.eq_false_iff]
    intro hsuperseded
    obtain ⟨a, ha, hab⟩ := superseded_iff.mp hsuperseded
    rw [hcovers a ha b hb] at hab
    cases hab

/-- A binding that is dropped is there in another copy, or an all-interfaces binding stands for it. -/
def Represented (bindings : List Binding) (a : BindingType) : Prop :=
  ∃ b ∈ bindings, b.base.bindingType = a ∨ b.base.bindingType.covers a = true

theorem not_covers_covers {a b c : BindingType} (h : a.covers b = true) : b.covers c = false := by
  rcases a with i | ⟨p, _ | i⟩ <;> rcases b with j | ⟨q, _ | j⟩ <;> simp_all [BindingType.covers]

theorem deduplicateBindings_represents {bindings : List Binding} {b : Binding} (hb : b ∈ bindings) :
    Represented (deduplicateBindings bindings) b.base.bindingType := by
  have hkeeps {c : Binding} (hc : c ∈ bindings) (hnot : superseded (allInterfacePortIds bindings) c.base.bindingType = false) :
      ∃ d ∈ deduplicateBindings bindings, d.base.bindingType = c.base.bindingType := by
    rcases @deduplicateFrom_complete (allInterfacePortIds bindings) [] bindings c hc with h | h | h
    · cases h
    · rw [hnot] at h
      cases h
    · exact h
  cases hs : superseded (allInterfacePortIds bindings) b.base.bindingType with
  | false =>
    obtain ⟨d, hd, heq⟩ := hkeeps hb hs
    exact ⟨d, hd, .inl heq⟩
  | true =>
    obtain ⟨c, hc, hcover⟩ := superseded_iff.mp hs
    obtain ⟨d, hd, heq⟩ := hkeeps hc (by
      rw [Bool.eq_false_iff]
      intro h
      obtain ⟨e, -, he⟩ := superseded_iff.mp h
      rw [not_covers_covers he] at hcover
      cases hcover)
    exact ⟨d, hd, .inr (by rw [heq]; exact hcover)⟩

theorem validateFrom_ok_iff (preceding bindings : List Binding) :
    validateFrom preceding bindings = .ok () ↔
      bindings.Pairwise (fun a b => a.base.bindingType.clashes b.base.bindingType = false) ∧
      ∀ b ∈ bindings, ∀ e ∈ preceding, b.base.bindingType.clashes e.base.bindingType = false := by
  induction bindings generalizing preceding with
  | nil => simp [validateFrom]
  | cons binding rest ih =>
    unfold validateFrom
    cases hcheck : validateBindingNoConflict binding.base.bindingType preceding with
    | some message =>
      have hnot : ¬ ∀ e ∈ preceding, binding.base.bindingType.clashes e.base.bindingType = false := by
        rw [← validateBindingNoConflict_eq_none_iff, hcheck]
        exact fun h => nomatch h
      simp only [reduceCtorEq, List.forall_mem_cons, false_iff, not_and]
      exact fun _ h => absurd h hnot
    | none =>
      rw [validateBindingNoConflict_eq_none_iff] at hcheck
      simp only [ih, List.pairwise_cons, List.forall_mem_cons, List.mem_append, List.mem_singleton]
      constructor
      · rintro ⟨hrest, hpreceding⟩
        refine ⟨⟨fun b hb => ?_, hrest⟩, hcheck, fun b hb e he => hpreceding b hb e (.inl he)⟩
        rw [clashes_comm]
        exact hpreceding b hb binding (.inr rfl)
      · rintro ⟨⟨hbinding, hrest⟩, -, hpreceding⟩
        refine ⟨hrest, ?_⟩
        rintro b hb e (he | rfl)
        · exact hpreceding b hb e he
        · rw [clashes_comm]
          exact hbinding b hb

theorem canonical_deduplicateBindings {bindings : List Binding}
    (h : validateBindingsNoConflicts (deduplicateBindings bindings) = .ok ()) :
    Canonical (deduplicateBindings bindings) := by
  have hclash := ((validateFrom_ok_iff [] _).mp h).1
  have hcover {a b : Binding} (ha : a ∈ deduplicateBindings bindings) (hb : b ∈ deduplicateBindings bindings) :
      a.base.bindingType.covers b.base.bindingType = false :=
    not_covers_deduplicateBindings (mem_of_mem_deduplicateBindings ha) hb
  refine ((pairwise_deduplicateBindings bindings).and hclash).imp_of_mem ?_
  rintro a b ha hb ⟨hab, hab'⟩
  exact ⟨hab, hcover ha hb, hcover hb ha, hab'⟩

theorem retainOthers_eq (existing : List Binding) (new : BindingType) :
    retainOthers existing new = existing.filter (fun e => !new.covers e.base.bindingType) := by
  rcases new with i | ⟨p, _ | i⟩
  · simp [retainOthers, BindingType.covers]
  · apply List.filter_congr
    intro e _
    rcases e.base.bindingType with j | ⟨q, _ | j⟩ <;> simp [BindingType.covers, eq_comm]
  · simp [retainOthers, BindingType.covers]

theorem portId_of_covers {a b : BindingType} (h : a.covers b = true) : a.portId = b.portId := by
  rcases a with i | ⟨p, _ | i⟩ <;> rcases b with j | ⟨q, _ | j⟩ <;> simp_all [BindingType.covers, BindingType.portId]

theorem covers_self (a : BindingType) : a.covers a = false := by
  rcases a with i | ⟨p, _ | i⟩ <;> rfl

theorem upsertBinding_eq (existing : List Binding) (new : Binding) :
    upsertBinding existing new =
      if isBindingCoveredByExisting new existing = true ∨
        validateBindingNoConflict new.base.bindingType existing ≠ none then existing
      else if ∃ e ∈ existing, e.base.bindingType = new.base.bindingType then
        existing.filter (fun e => !new.base.bindingType.covers e.base.bindingType)
      else existing.filter (fun e => !new.base.bindingType.covers e.base.bindingType) ++ [new] := by
  have hany : ((existing.filter (fun e => !new.base.bindingType.covers e.base.bindingType)).any
      (fun e => e.base.bindingType = new.base.bindingType) = true) ↔
      ∃ e ∈ existing, e.base.bindingType = new.base.bindingType := by
    simp only [List.any_eq_true, List.mem_filter, decide_eq_true_eq, and_assoc]
    refine exists_congr (fun e => and_congr_right (fun _ => ⟨fun h => h.2, fun h => ⟨?_, h⟩⟩))
    rw [h, covers_self]
    rfl
  unfold upsertBinding
  cases isBindingCoveredByExisting new existing with
  | true => simp
  | false =>
    cases validateBindingNoConflict new.base.bindingType existing with
    | some message => simp
    | none =>
      simp only [retainOthers_eq, hany, Bool.false_eq_true, ↓reduceIte, ne_eq, not_true_eq_false, or_self]

theorem mem_upsertBinding {existing : List Binding} {new b : Binding} (h : b ∈ upsertBinding existing new) :
    b ∈ existing ∨ b = new := by
  rw [upsertBinding_eq] at h
  split_ifs at h
  · exact .inl h
  · exact .inl (List.mem_filter.mp h).1
  · rcases List.mem_append.mp h with h | h
    · exact .inl (List.mem_filter.mp h).1
    · exact .inr (List.mem_singleton.mp h)

theorem Canonical.upsertBinding {existing : List Binding} (h : Canonical existing) (new : Binding) :
    Canonical (upsertBinding existing new) := by
  rw [upsertBinding_eq]
  split_ifs with hskip hmem
  · exact h
  · exact List.Pairwise.filter _ h
  · rw [not_or, isBindingCoveredByExisting_iff, not_ne_iff, validateBindingNoConflict_eq_none_iff] at hskip
    refine List.pairwise_append.mpr ⟨List.Pairwise.filter _ h, List.pairwise_singleton _ _, ?_⟩
    rintro e he b hb
    obtain rfl := List.mem_singleton.mp hb
    obtain ⟨he, hcovers⟩ := List.mem_filter.mp he
    refine ⟨fun heq => hmem ⟨e, he, heq⟩, ?_, by simpa using hcovers, ?_⟩
    · rw [Bool.eq_false_iff]
      exact fun hc => hskip.1 ⟨e, he, hc⟩
    · rw [clashes_comm]
      exact hskip.2 e he

/-- `e` is still there, or a binding on all interfaces has taken its place. -/
def Survives (bindings : List Binding) (e : Binding) : Prop :=
  e ∈ bindings ∨ ∃ d ∈ bindings, d.base.bindingType.covers e.base.bindingType = true

theorem Survives.upsertBinding {existing : List Binding} {e : Binding} (h : Survives existing e) (new : Binding) :
    Survives (upsertBinding existing new) e := by
  have hstay (d : Binding) (hd : d ∈ existing) (hcovers : new.base.bindingType.covers d.base.bindingType = false) :
      d ∈ Inventory.upsertBinding existing new := by
    have hkept : d ∈ existing.filter (fun e => !new.base.bindingType.covers e.base.bindingType) :=
      List.mem_filter.mpr ⟨hd, by simp [hcovers]⟩
    rw [upsertBinding_eq]
    split_ifs
    · exact hd
    · exact hkept
    · exact List.mem_append_left _ hkept
  rcases h with he | ⟨d, hd, hcovers⟩
  · cases hnew : new.base.bindingType.covers e.base.bindingType with
    | false => exact .inl (hstay e he hnew)
    | true =>
      rw [upsertBinding_eq]
      split_ifs with hskip hmem
      · exact .inl he
      · obtain ⟨d, hd, hdnew⟩ := hmem
        refine .inr ⟨d, List.mem_filter.mpr ⟨hd, ?_⟩, by rw [hdnew]; exact hnew⟩
        rw [hdnew, covers_self]
        rfl
      · exact .inr ⟨new, List.mem_append_right _ (List.mem_singleton_self new), hnew⟩
  · refine .inr ⟨d, hstay d hd ?_, hcovers⟩
    rw [Bool.eq_false_iff]
    intro hnew
    simp [not_covers_covers hnew] at hcovers

theorem Survives.represented {bindings : List Binding} {e : Binding} (h : Survives bindings e) {a : BindingType}
    (ha : e.base.bindingType = a ∨ e.base.bindingType.covers a = true) : Represented bindings a := by
  rcases h with he | ⟨d, hd, hcovers⟩
  · exact ⟨e, he, ha⟩
  · rcases ha with rfl | ha
    · exact ⟨d, hd, .inr hcovers⟩
    · simp [not_covers_covers hcovers] at ha

theorem represented_upsertBinding {existing : List Binding} {new : Binding}
    (h : validateBindingNoConflict new.base.bindingType existing = none) :
    Represented (upsertBinding existing new) new.base.bindingType := by
  rw [upsertBinding_eq]
  split_ifs with hskip hmem
  · obtain ⟨e, he, hc⟩ := (isBindingCoveredByExisting_iff new existing).mp (hskip.resolve_right (by simp [h]))
    exact ⟨e, he, .inr hc⟩
  · obtain ⟨d, hd, hdnew⟩ := hmem
    refine ⟨d, List.mem_filter.mpr ⟨hd, ?_⟩, .inl hdnew⟩
    rw [hdnew, covers_self]
    rfl
  · exact ⟨new, List.mem_append_right _ (List.mem_singleton_self new), .inl rfl⟩

theorem mem_upsertBindings {existing new : List Binding} {b : Binding} (h : b ∈ upsertBindings existing new) :
    b ∈ existing ∨ b ∈ new := by
  induction new generalizing existing with
  | nil => exact .inl h
  | cons n rest ih =>
    rcases ih h with h | h
    · rcases mem_upsertBinding h with h | rfl
      · exact .inl h
      · exact .inr List.mem_cons_self
    · exact .inr (List.mem_cons_of_mem n h)

theorem Canonical.upsertBindings {existing : List Binding} (h : Canonical existing) (new : List Binding) :
    Canonical (upsertBindings existing new) := by
  induction new generalizing existing with
  | nil => exact h
  | cons n rest ih => exact ih (h.upsertBinding n)

theorem Survives.upsertBindings {existing : List Binding} {e : Binding} (h : Survives existing e)
    (new : List Binding) : Survives (upsertBindings existing new) e := by
  induction new generalizing existing with
  | nil => exact h
  | cons n rest ih => exact ih (h.upsertBinding n)

theorem Represented.upsertBindings {existing : List Binding} {a : BindingType} (h : Represented existing a)
    (new : List Binding) : Represented (upsertBindings existing new) a := by
  obtain ⟨e, he, ha⟩ := h
  exact (Survives.upsertBindings (.inl he) new).represented ha

theorem Represented.of_mem {bindings bindings' : List Binding} {a : BindingType} (h : Represented bindings a)
    (hmem : ∀ b ∈ bindings, Represented bindings' b.base.bindingType) : Represented bindings' a := by
  obtain ⟨b, hb, hba⟩ := h
  obtain ⟨c, hc, hcb⟩ := hmem b hb
  refine ⟨c, hc, ?_⟩
  rcases hcb with hcb | hcb
  · rw [hcb]
    exact hba
  · rcases hba with rfl | hba
    · exact .inr hcb
    · simp [not_covers_covers hcb] at hba

/-- A new binding that clashes with none of the others finds its place. -/
theorem represented_upsertBindings {existing new : List Binding} {b : Binding} (hb : b ∈ new)
    (hclash : ∀ x ∈ existing ++ new, b.base.bindingType.clashes x.base.bindingType = false) :
    Represented (upsertBindings existing new) b.base.bindingType := by
  induction new generalizing existing with
  | nil => cases hb
  | cons n rest ih =>
    rcases List.mem_cons.mp hb with rfl | hb
    · refine Represented.upsertBindings (represented_upsertBinding ?_) rest
      rw [validateBindingNoConflict_eq_none_iff]
      exact fun e he => hclash e (List.mem_append_left _ he)
    · refine ih hb (fun x hx => hclash x ?_)
      rcases List.mem_append.mp hx with hx | hx
      · rcases mem_upsertBinding hx with hx | rfl
        · exact List.mem_append_left _ hx
        · simp
      · exact List.mem_append_right _ (List.mem_cons_of_mem n hx)

/-- What is left of the existing bindings stands before what is added. -/
theorem upsertBindings_split (kept added new : List Binding) :
    ∃ kept' added', upsertBindings (kept ++ added) new = kept' ++ added' ∧ kept'.Sublist kept ∧
      added'.Sublist (added ++ new) := by
  induction new generalizing kept added with
  | nil => exact ⟨kept, added, rfl, .refl _, by simp⟩
  | cons n rest ih =>
    have hstep : ∃ kept₁ added₁, Inventory.upsertBinding (kept ++ added) n = kept₁ ++ added₁ ∧ kept₁.Sublist kept ∧
        added₁.Sublist (added ++ [n]) := by
      rw [upsertBinding_eq]
      split_ifs
      · exact ⟨kept, added, rfl, .refl _, List.sublist_append_left _ _⟩
      · refine ⟨_, _, List.filter_append .., List.filter_sublist, ?_⟩
        exact List.filter_sublist.trans (List.sublist_append_left _ _)
      · rw [List.filter_append, List.append_assoc]
        exact ⟨_, _, rfl, List.filter_sublist, List.filter_sublist.append (.refl _)⟩
    obtain ⟨kept₁, added₁, heq, hkept, hadded⟩ := hstep
    obtain ⟨kept', added', heq', hkept', hadded'⟩ := ih kept₁ added₁
    refine ⟨kept', added', by rw [← heq', ← heq]; rfl, hkept'.trans hkept, hadded'.trans ?_⟩
    simpa using hadded.append (.refl rest)

theorem Compatible.of_covers {a b c : BindingType} (h : Compatible a b) (hcovers : b.covers c = true) :
    Compatible a c := by
  obtain ⟨hne, -, hcovered, hclash⟩ := h
  rcases b with i | ⟨p, _ | i⟩
  · cases hcovers
  · rcases c with j | ⟨q, _ | j⟩
    · cases hcovers
    · cases hcovers
    · obtain rfl : p = q := by simpa [BindingType.covers] using hcovers
      rcases a with k | ⟨q, _ | k⟩
      · simp [BindingType.clashes] at hclash
      · have hq : q ≠ p := fun h => hne (by rw [h])
        exact ⟨by simp, by simp [BindingType.covers, hq], rfl, rfl⟩
      · have hq : p ≠ q := by simpa [BindingType.covers] using hcovered
        exact ⟨by simp [Ne.symm hq], rfl, rfl, rfl⟩
  · cases hcovers

instance : Std.Symm (fun a b : Binding => Compatible a.base.bindingType b.base.bindingType) where
  symm _ _ h := h.symm

theorem Canonical.compatible {bindings : List Binding} (h : Canonical bindings) {a b : Binding} (ha : a ∈ bindings)
    (hb : b ∈ bindings) (hne : a.id ≠ b.id) : Compatible a.base.bindingType b.base.bindingType :=
  List.Pairwise.forall h ha hb (fun heq => hne (heq ▸ rfl))

/-- Each of the new bindings goes with what is stored of the ones that come to be saved after it. -/
def Steady (stored children : List Binding) : Prop :=
  children.Pairwise (fun a b => ∀ e ∈ stored, e.id = b.id → a.id ≠ b.id →
    Compatible a.base.bindingType e.base.bindingType)

theorem steady_upsertBindings {existing new : List Binding} (h : Canonical existing)
    (hnew : new.Pairwise (fun a b => ∀ e ∈ existing, e.id = b.id → a.id ≠ b.id →
      a.base.bindingType.covers e.base.bindingType = false)) : Steady existing (upsertBindings existing new) := by
  have hcanonical := h.upsertBindings new
  obtain ⟨kept, added, heq, hkept, hadded⟩ := upsertBindings_split existing [] new
  rw [List.append_nil] at heq
  have hold {a b : Binding} (ha : a ∈ kept) : ∀ e ∈ existing, e.id = b.id → a.id ≠ b.id →
      Compatible a.base.bindingType e.base.bindingType :=
    fun e he hid hne => h.compatible (hkept.subset ha) he (hid ▸ hne)
  rw [heq]
  refine List.pairwise_append.mpr ⟨?_, ?_, fun a ha b _ => hold ha⟩
  · exact List.pairwise_of_forall_mem_list (fun a ha b _ => hold ha)
  · refine (hnew.sublist (by simpa using hadded)).imp_of_mem ?_
    intro a b ha _ hcovers e he hid hne
    have ha : a ∈ upsertBindings existing new := by
      rw [heq]
      exact List.mem_append_right _ ha
    rcases Survives.upsertBindings (.inl he) new with hstill | ⟨d, hd, hdcovers⟩
    · exact hcanonical.compatible ha hstill (hid ▸ hne)
    · have had : a ≠ d := by
        rintro rfl
        rw [hcovers e he hid hne] at hdcovers
        cases hdcovers
      exact (List.Pairwise.forall hcanonical ha hd had).of_covers hdcovers

end VantageNet.Inventory
