import VantageNet.Inventory.Effects

/-!
`save_for_parent`: the stored bindings of a service become the given ones, one statement after
the other.
-/

namespace VantageNet.Inventory

open Interaction Interaction.Program

/-- `row` is what saving `child` writes. -/
structure SavedAs (child row : Binding) : Prop where
  base : row.base = child.base
  id : child.id ≠ Uuid.nil → row.id = child.id

/-- Where `save_for_parent` stands when `done` of the children are saved, as the rows `out`. -/
structure Saving (db : Db) (serviceId : Uuid) (children done out : List Binding) (t : Db) : Prop where
  frame : db.SameBut [.binding, .groupBinding] t
  others : ∀ b : Binding, b.base.serviceId ≠ serviceId → (b ∈ t.bindings.rows ↔ b ∈ db.bindings.rows)
  saved : List.Forall₂ SavedAs done out
  own : ∀ b ∈ t.bindings.rows, b.base.serviceId = serviceId → b ∈ out ∨
    b ∈ db.bindings.rows ∧ b.id ≠ Uuid.nil ∧ b.id ∈ children.map Entity.id ∧ b.id ∉ done.map Entity.id
  pending : ∀ e ∈ db.bindings.rows, e.base.serviceId = serviceId → e.id ≠ Uuid.nil → e.id ∈ children.map Entity.id →
    e.id ∉ done.map Entity.id → e ∈ t.bindings.rows ∧ ∀ o ∈ out, o.id ≠ e.id
  present : (∀ e ∈ db.bindings.rows, e.base.serviceId = serviceId →
    done.Pairwise (fun a b => a.id ≠ Uuid.nil → a.id = e.id → b.id ≠ e.id)) → ∀ o ∈ out, o ∈ t.bindings.rows

/-- What `save_for_parent` comes to: it stops before it has changed anything, or somewhere on its way. -/
def SavedFor (db : Db) (serviceId : Uuid) (children : List Binding) (r : Except Error (List Binding)) (t : Db) :
    Prop :=
  (t = db ∧ ∃ e, r = .error e) ∨
    ∃ done out, done <+: children ∧ Saving db serviceId children done out t ∧
      ∀ saved, r = .ok saved → done = children ∧ saved = out

theorem mem_idsToDelete {existing children : List Binding} {id : Uuid} :
    id ∈ BindingService.idsToDelete existing children ↔
      (∃ e ∈ existing, e.id = id) ∧ ¬ (id ≠ Uuid.nil ∧ id ∈ children.map Entity.id) := by
  simp only [BindingService.idsToDelete, List.mem_filter, List.mem_map, Bool.not_eq_true', ← Bool.not_eq_true,
    List.contains_iff_mem, decide_eq_true_eq, and_comm]

section saving

variable {may : Db → (o : DbOp) → o.Reply → Prop} {db t : Db} {serviceId : Uuid} {children done out : List Binding}

theorem Saving.types (h : Saving db serviceId children done out t) :
    out.map (fun b => b.base.bindingType) = done.map (fun b => b.base.bindingType) := by
  have hsaved := h.saved
  clear h
  induction hsaved with
  | nil => rfl
  | cons hhead _ ih => rw [List.map_cons, List.map_cons, hhead.base, ih]

theorem Saving.child (h : Saving db serviceId children done out t) {o : Binding} (ho : o ∈ out) :
    ∃ c ∈ done, SavedAs c o := exists_left_of_forall₂ h.saved ho

theorem Saving.saved_of_mem (h : Saving db serviceId children done out t) {c : Binding} (hc : c ∈ done) :
    ∃ o ∈ out, SavedAs c o := exists_right_of_forall₂ h.saved hc

theorem Saving.start {gone : Uuid → Prop} (hframe : db.SameBut [.binding, .groupBinding] t)
    (hmem : ∀ b, b ∈ t.bindings.rows ↔ b ∈ db.bindings.rows ∧ ¬ gone b.id)
    (hown : ∀ b ∈ db.bindings.rows, gone b.id → b.base.serviceId = serviceId)
    (hkept : ∀ b ∈ db.bindings.rows, b.base.serviceId = serviceId →
      gone b.id ∨ b.id ≠ Uuid.nil ∧ b.id ∈ children.map Entity.id)
    (hgone : ∀ id, gone id → ¬ (id ≠ Uuid.nil ∧ id ∈ children.map Entity.id)) :
    Saving db serviceId children [] [] t := by
  refine ⟨hframe, fun b hb => ?_, .nil, fun b hb hservice => ?_, fun e he _ hnil hid _ => ?_, fun _ o ho => (nomatch ho)⟩
  · rw [hmem, and_iff_left_iff_imp]
    exact fun hrow hgone => hb (hown b hrow hgone)
  · obtain ⟨hrow, hnot⟩ := (hmem b).mp hb
    obtain ⟨hnil, hid⟩ := (hkept b hrow hservice).resolve_left hnot
    exact .inr ⟨hrow, hnil, hid, by simp⟩
  · exact ⟨(hmem e).mpr ⟨he, fun hg => hgone e.id hg ⟨hnil, hid⟩⟩, fun o ho => (nomatch ho)⟩

theorem Saving.insert (h : Saving db serviceId children done out t) {child row : Binding}
    (hsaved : SavedAs child row) (hservice : child.base.serviceId = serviceId)
    (hnew : ∀ b ∈ db.bindings.rows, b.base.serviceId = serviceId → b.id ≠ Uuid.nil → b.id ≠ child.id)
    (hapart : ∀ r ∈ t.bindings.rows, Apart .binding r row) :
    Saving db serviceId children (done ++ [child]) (out ++ [row])
      (t.withTable .binding (t.bindings.insert row hapart)) := by
  have hmem (b : Binding) : b ∈ (t.withTable .binding (t.bindings.insert row hapart)).bindings.rows ↔
      b ∈ t.bindings.rows ∨ b = row := by
    simp [Db.withTable]
  have hrow : row.base.serviceId = serviceId := by rw [hsaved.base, hservice]
  refine ⟨h.frame.trans (.withTable (by simp) _), fun b hb => ?_, ?_, fun b hb hown => ?_, fun e he hservice hnil hid hnot => ?_,
    fun hdistinct o ho => ?_⟩
  · rw [hmem, or_iff_left (fun heq : b = row => hb (heq ▸ hrow))]
    exact h.others b hb
  · exact List.rel_append h.saved (.cons hsaved .nil)
  · rcases (hmem b).mp hb with hb | rfl
    · rcases h.own b hb hown with hout | ⟨hold, hnil, hid, hnot⟩
      · exact .inl (List.mem_append_left _ hout)
      · refine .inr ⟨hold, hnil, hid, ?_⟩
        simpa using ⟨by simpa using hnot, hnew b hold hown hnil⟩
    · exact .inl (by simp)
  · obtain ⟨het, hout⟩ := h.pending e he hservice hnil hid (fun hmem => hnot (by simp [hmem]))
    refine ⟨(hmem e).mpr (.inl het), fun o ho => ?_⟩
    rcases List.mem_append.mp ho with ho | ho
    · exact hout o ho
    · obtain rfl := List.mem_singleton.mp ho
      exact (hapart e het).1.symm
  · rcases List.mem_append.mp ho with ho | ho
    · refine (hmem o).mpr (.inl (h.present (fun e he hservice => ?_) o ho))
      exact (List.pairwise_append.mp (hdistinct e he hservice)).1
    · exact (hmem o).mpr (.inr (List.mem_singleton.mp ho))

theorem Saving.update (h : Saving db serviceId children done out t) {child row e : Binding}
    (hchild : child ∈ children) (hnil : child.id ≠ Uuid.nil) (hsaved : SavedAs child row)
    (hservice : child.base.serviceId = serviceId) (hid : row.id = child.id)
    (he : e ∈ db.bindings.rows) (heservice : e.base.serviceId = serviceId) (heid : e.id = child.id)
    (hapart : ∀ r ∈ (t.bindings.filter (fun r => r.id ≠ row.id)).rows, Apart .binding r row) :
    Saving db serviceId children (done ++ [child]) (out ++ [row])
      (t.withTable .binding (updated t.bindings row hapart)) := by
  have hmem (b : Binding) : b ∈ (t.withTable .binding (updated t.bindings row hapart)).bindings.rows ↔
      b = row ∨ b ∈ t.bindings.rows ∧ b.id ≠ row.id := mem_updated (h := hapart)
  have hrow : row.base.serviceId = serviceId := by rw [hsaved.base, hservice]
  refine ⟨h.frame.trans (.withTable (by simp) _), fun b hb => ?_, ?_, fun b hb hown => ?_, fun d hd hservice hdnil hdid hnot => ?_,
    fun hdistinct o ho => ?_⟩
  · rw [hmem, or_iff_right (fun heq : b = row => hb (heq ▸ hrow)), h.others b hb, and_iff_left_iff_imp]
    intro hold heq
    apply hb
    rw [eq_of_id_eq hold he (by rw [heq, hid, heid]), heservice]
  · exact List.rel_append h.saved (.cons hsaved .nil)
  · rcases (hmem b).mp hb with rfl | ⟨hb, hne⟩
    · exact .inl (by simp)
    · rcases h.own b hb hown with hout | ⟨hold, hnil, hbid, hnot⟩
      · exact .inl (List.mem_append_left _ hout)
      · refine .inr ⟨hold, hnil, hbid, ?_⟩
        simpa using ⟨by simpa using hnot, hid ▸ hne⟩
  · obtain ⟨hdt, hout⟩ := h.pending d hd hservice hdnil hdid (fun hmem => hnot (by simp [hmem]))
    have hne : d.id ≠ row.id := fun heq => hnot (by simp [heq, hid])
    refine ⟨(hmem d).mpr (.inr ⟨hdt, hne⟩), fun o ho => ?_⟩
    rcases List.mem_append.mp ho with ho | ho
    · exact hout o ho
    · obtain rfl := List.mem_singleton.mp ho
      exact hne.symm
  · rcases List.mem_append.mp ho with ho | ho
    · have hpairwise := List.pairwise_append.mp (hdistinct e he heservice)
      have hnotdone : e.id ∉ done.map Entity.id := by
        intro hdone
        obtain ⟨c, hc, hceq⟩ := List.mem_map.mp hdone
        exact hpairwise.2.2 c hc child (by simp) (by rw [hceq, heid]; exact hnil) hceq heid.symm
      obtain ⟨-, hout⟩ := h.pending e he heservice (heid ▸ hnil) (heid ▸ List.mem_map_of_mem hchild) hnotdone
      refine (hmem o).mpr (.inr ⟨h.present (fun e he hservice =>
        (List.pairwise_append.mp (hdistinct e he hservice)).1) o ho, ?_⟩)
      rw [hid, ← heid]
      exact hout o ho
    · exact (hmem o).mpr (.inl (List.mem_singleton.mp ho))

theorem Saving.saveChild (h : Saving db serviceId children done out t) {child : Binding}
    (hchild : child ∈ children) (hservice : child.base.serviceId = serviceId) {existing : List Binding}
    (hexisting : existing.Perm (db.bindings.rows.filter (fun b => b.base.serviceId = serviceId)))
    {post : Except Error Binding → Db → Prop} (herror : ∀ e, post (.error e) t)
    (hok : ∀ row u, Saving db serviceId children (done ++ [child]) (out ++ [row]) u → post (.ok row) u) :
    Ensures dbStep may post (BindingService.saveChild existing child) t := by
  have hmem (b : Binding) : b ∈ existing ↔ b ∈ db.bindings.rows ∧ b.base.serviceId = serviceId := by
    rw [hexisting.mem_iff, List.mem_filter, decide_eq_true_eq]
  unfold BindingService.saveChild
  by_cases hnil : child.id = Uuid.nil
  · rw [if_pos hnil]
    intro id _
    change Ensures dbStep may post (Crud.create .binding _) t
    apply ensures_crudCreate (k := .binding) herror
    intro row hbase _ _ hapart _
    have hsaved : SavedAs child row := ⟨hbase, fun hne => absurd hnil hne⟩
    exact hok row _ (h.insert hsaved hservice (fun b _ _ hb => hnil ▸ hb) hapart)
  · rw [if_neg hnil]
    cases hfind : existing.find? (fun e => e.id = child.id) with
    | some e =>
      obtain ⟨he, heservice⟩ := (hmem e).mp (List.mem_of_find?_eq_some hfind)
      apply ensures_crudUpdate herror
      intro now hapart _ _
      have hsaved : SavedAs child { child with createdAt := e.createdAt, updatedAt := now } := ⟨rfl, fun _ => rfl⟩
      exact hok _ _ (h.update hchild hnil hsaved hservice rfl he heservice (by simpa using List.find?_some hfind) hapart)
    | none =>
      apply ensures_crudCreate (k := .binding) herror
      intro row _ hrow _ hapart _
      obtain rfl := hrow hnil
      refine hok row _ (h.insert ⟨rfl, fun _ => rfl⟩ hservice (fun b hb hbservice _ heq => ?_) hapart)
      exact absurd (List.find?_eq_none.mp hfind b ((hmem b).mpr ⟨hb, hbservice⟩)) (by simpa using heq)

theorem ensures_saveForParent (hchildren : ∀ c ∈ children, c.base.serviceId = serviceId)
    {post : Except Error (List Binding) → Db → Prop} (hpost : ∀ r t, SavedFor db serviceId children r t → post r t) :
    Ensures dbStep may post (BindingService.saveForParent serviceId children) db := by
  have hunchanged (e : Error) : post (.error e) db := hpost _ _ (.inl ⟨rfl, e, rfl⟩)
  apply Ensures.bind
  apply ensures_getAll hunchanged
  intro existing hexisting _
  have hmem (b : Binding) : b ∈ existing ↔ b ∈ db.bindings.rows ∧ b.base.serviceId = serviceId := by
    rw [hexisting.mem_iff, List.mem_filter, decide_eq_true_eq]
    rfl
  have hloop {u : Db} (hu : Saving db serviceId children [] [] u) :
      Ensures dbStep may post (collect (BindingService.saveChild existing) children) u := by
    refine Ensures.collect (fun done out v => Saving db serviceId children done out v) children ?_ hu ?_
    · intro done c rest hrest out v hv
      refine hv.saveChild (by simp [hrest]) (hchildren c (by simp [hrest])) hexisting (fun e => ⟨fun _ h => (nomatch h), ?_⟩)
        (fun row w hw => ⟨fun a ha => by cases ha; exact hw, fun _ h => (nomatch h)⟩)
      rintro _ ⟨⟩
      exact hpost _ _ (.inr ⟨done, out, ⟨c :: rest, hrest.symm⟩, hv, fun _ h => (nomatch h)⟩)
    · intro out v hv
      exact hpost _ _ (.inr ⟨children, out, List.prefix_refl _, hv, fun saved h => ⟨rfl, by cases h; rfl⟩⟩)
  have hstart {u : Db} (hframe : db.SameBut [.binding, .groupBinding] u) (hu : ∀ b, b ∈ u.bindings.rows ↔
      b ∈ db.bindings.rows ∧ b.id ∉ BindingService.idsToDelete existing children) :
      Saving db serviceId children [] [] u := by
    apply Saving.start hframe hu
    · intro b hb hgone
      obtain ⟨⟨e, he, hid⟩, -⟩ := mem_idsToDelete.mp hgone
      rw [← eq_of_id_eq ((hmem e).mp he).1 hb hid]
      exact ((hmem e).mp he).2
    · intro b hb hbservice
      by_cases hid : b.id ≠ Uuid.nil ∧ b.id ∈ children.map Entity.id
      · exact .inr hid
      · exact .inl (mem_idsToDelete.mpr ⟨⟨b, (hmem b).mpr ⟨hb, hbservice⟩, rfl⟩, hid⟩)
    · exact fun id hgone => (mem_idsToDelete.mp hgone).2
  apply Ensures.bind
  cases hnone : (BindingService.idsToDelete existing children).isEmpty with
  | true =>
    apply hloop
    apply hstart (.refl _ _)
    simp [List.isEmpty_iff.mp hnone]
  | false =>
    apply ensures_deleteMany hunchanged
    · intro h
      rw [h] at hnone
      cases hnone
    · apply hloop
      apply hstart (sameBut_delete db .binding _)
      simp [Db.delete, Db.deleteBindings]

end saving

end VantageNet.Inventory
