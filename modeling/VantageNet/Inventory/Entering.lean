import VantageNet.Inventory.Exclusivity

/-!
Rows that are entered anew, in their order behind those that were there.
-/

namespace VantageNet.Inventory

open Interaction Interaction.Program

/-- `row` is what creating `entity` writes; the ids given to entities without one are `new`. -/
structure Entered {β : Type} (new : Uuid → Prop) (entity row : Entity β) : Prop where
  base : row.base = entity.base
  id : entity.id ≠ Uuid.nil → row.id = entity.id
  fresh : entity.id = Uuid.nil → new row.id

/-- The table has grown by the rows of `out` behind its own, and nothing else has changed. -/
structure Appended (k : Kind) (s : Db) (out : List (Row k)) (t : Db) : Prop where
  frame : s.SameBut [k] t
  rows : (t.table k).rows = (s.table k).rows ++ out

namespace Appended

variable {k : Kind} {s t u : Db} {out out' : List (Row k)}

theorem refl (k : Kind) (s : Db) : Appended k s [] s := ⟨.refl _ _, by simp⟩

theorem trans (h : Appended k s out t) (h' : Appended k t out' u) : Appended k s (out ++ out') u :=
  ⟨h.frame.trans h'.frame, by rw [h'.rows, h.rows, List.append_assoc]⟩

theorem insert {row : Row k} (h : ∀ r ∈ (s.table k).rows, Apart k r (columns k row)) :
    Appended k s [columns k row] (s.withTable k ((s.table k).insert (columns k row) h)) :=
  ⟨.withTable (by simp) _, by rw [table_withTable]; rfl⟩

end Appended

/-- A service stored anew, as `row` and with its bindings as `out`. -/
structure EnteredService (new : Uuid → Prop) (service row : Service) (out : List Binding) : Prop where
  id : service.id ≠ Uuid.nil → row.id = service.id
  fresh : service.id = Uuid.nil → new row.id
  base : row.base = { service.row.base with position := row.base.position }
  bindings : List.Forall₂ (Entered new)
    ((deduplicateBindings service.base.bindings).map (fun b => Binding.withService b row.id service.base.networkId)) out

structure AppendedService (s : Db) (row : Service) (out : List Binding) (t : Db) : Prop where
  frame : s.SameBut [.service, .binding] t
  services : t.services.rows = s.services.rows ++ [row]
  bindings : t.bindings.rows = s.bindings.rows ++ out

/-- No stored service of the host is one to merge `service` into. -/
def Db.Distinguishes (s : Db) (service : Service) : Prop :=
  ∀ row ∈ s.services.rows, row.base.hostId = service.base.hostId →
    row.id ≠ service.id ∧ (service.base.source.isFromDiscovery && row.base.source.isFromDiscovery) = false

/-- The id is nowhere in the store. -/
structure Db.Unused (db : Db) (id : Uuid) : Prop where
  hosts : ∀ h ∈ db.hosts.rows, h.id ≠ id
  interfaces : ∀ i ∈ db.interfaces.rows, i.base.hostId ≠ id
  ports : ∀ p ∈ db.ports.rows, p.base.hostId ≠ id
  services : ∀ s ∈ db.services.rows, s.id ≠ id ∧ s.base.hostId ≠ id

section entering

variable {may : Db → (o : DbOp) → o.Reply → Prop} {new : Uuid → Prop} {s : Db}

theorem returns_crudCreate {k : Kind} (hnew : ∀ id, may s .newV4 id → new id) (entity : Row k) :
    Returns dbStep may (fun row t => Entered new entity row ∧ Appended k s [columns k row] t)
      (Crud.create k entity) s := by
  refine ensures_crudCreate (fun e _ h => (nomatch h)) (fun row hbase hid hnil hapart _ => ?_)
  rintro _ ⟨⟩
  exact ⟨⟨hbase, fun h => by rw [hid h], fun h => hnew _ (hnil h)⟩, .insert hapart⟩

theorem returns_enterAll {k : Kind} {β : Type} {p : β → Query (Row k)} (entity : β → Row k)
    (hp : ∀ x s, Returns dbStep may (fun row t => Entered new (entity x) row ∧ Appended k s [columns k row] t) (p x) s)
    (xs : List β) : Returns dbStep may (fun out t => List.Forall₂ (Entered new) (xs.map entity) out ∧
      Appended k s (out.map (columns k)) t) (collect p xs) s := by
  refine Returns.collect (fun done out t => List.Forall₂ (Entered new) (done.map entity) out ∧
    Appended k s (out.map (columns k)) t) xs ?_ ⟨.nil, .refl k s⟩
  rintro done x rest - out t ⟨hentered, happended⟩
  refine (hp x t).imp (fun row u ⟨hrow, hu⟩ => ?_)
  rw [List.map_append, List.map_append]
  exact ⟨List.rel_append hentered (.cons hrow .nil), happended.trans hu⟩

theorem returns_saveBindings_new (hnew : ∀ t id, may t .newV4 id → new id) (hnil : ¬ new Uuid.nil) {service : Service}
    (hnone : ∀ b ∈ s.bindings.rows, b.base.serviceId ≠ service.id) :
    Returns dbStep may (fun saved t => saved = ServiceService.withBindings saved.base.bindings service ∧
      List.Forall₂ (Entered new) service.children saved.base.bindings ∧ Appended .binding s saved.base.bindings t)
      (ServiceService.saveBindings service) s := by
  have hchild (child : Binding) (t : Db) : Returns dbStep may
      (fun row u => Entered new child row ∧ Appended .binding t [row] u) (BindingService.saveChild [] child) t := by
    unfold BindingService.saveChild
    by_cases hchild : child.id = Uuid.nil
    · rw [if_pos hchild]
      intro id hid
      have hne : id ≠ Uuid.nil := fun h => hnil (h ▸ hnew t id hid)
      refine (returns_crudCreate (k := .binding) (hnew t) { child with id }).imp (fun row u ⟨hrow, hu⟩ => ⟨?_, hu⟩)
      exact ⟨hrow.base, fun h => absurd hchild h, fun _ => by rw [hrow.id hne]; exact hnew t id hid⟩
    · rw [if_neg hchild]
      exact returns_crudCreate (k := .binding) (hnew t) child
  apply Returns.bind (q := fun saved t => List.Forall₂ (Entered new) service.children saved ∧ Appended .binding s saved t)
  · unfold BindingService.saveForParent
    apply Ensures.bind
    refine ensures_getAll (k := .binding) (fun e _ h => (nomatch h)) (fun existing hexisting _ => ?_)
    have hempty : existing = [] := by
      apply List.eq_nil_iff_forall_not_mem.mpr
      intro b hb
      obtain ⟨hb, hservice⟩ := List.mem_filter.mp (hexisting.mem_iff.mp hb)
      exact hnone b hb (by simpa using hservice)
    subst hempty
    apply (returns_enterAll (k := .binding) (fun b => b) hchild service.children).imp
    intro out t h
    rw [List.map_id'] at h
    refine ⟨h.1, ?_⟩
    have hcolumns : out.map (columns .binding) = out := List.map_id'' (fun _ => rfl) out
    rw [← hcolumns]
    exact h.2
  · intro saved t h
    exact .ret ⟨rfl, h⟩

theorem returns_insertService_new (hnew : ∀ t id, may t .newV4 id → new id) (hnil : ¬ new Uuid.nil) (howned : s.Owned)
    (service : Service) : Returns dbStep may (fun stored t => stored.id = service.id ∧
      ∃ out, List.Forall₂ (Entered new) service.children out ∧ AppendedService s service.row out t)
      (ServiceService.insertService service) s := by
  refine Returns.bind (q := fun _ t => t = s) (ensures_orFail (fun _ _ => rfl)) (fun _ t ht => ?_)
  subst ht
  refine (touches_validateBindingsBelongToHost (K := []) _ _).then (fun _ _ _ _ h => (nomatch h)) (fun _ u hu => ?_)
  rw [hu.eq]
  refine (Touches.when (K := []) _ (touches_validateBindingsAvailable _ _ _)).then (fun _ _ _ _ h => (nomatch h))
    (fun _ u hu => ?_)
  rw [hu.eq]
  apply Ensures.bind
  refine ensures_create (k := .service) (fun _ _ h => (nomatch h)) (fun hapart _ => ?_)
  have hnone : ∀ b ∈ t.bindings.rows, b.base.serviceId ≠ service.id := by
    intro b hb heq
    obtain ⟨r, hr, hid⟩ := howned b hb
    exact (hapart r hr).1 (hid.trans heq)
  change Returns dbStep may _ (ServiceService.saveBindings service)
    (t.withTable .service ((t.table .service).insert (columns .service service) hapart))
  apply (returns_saveBindings_new (s := t.withTable .service ((t.table .service).insert _ hapart)) hnew hnil hnone).imp
  rintro stored u ⟨heq, hout, hu⟩
  refine ⟨by rw [heq]; rfl, stored.base.bindings, hout, ?_, ?_, ?_⟩
  · exact Db.SameBut.trans (.withTable (by simp) _) (hu.frame.mono (by simp))
  · have hservices : u.services = _ := hu.frame .service (by simp)
    rw [hservices]
    rfl
  · exact hu.rows

theorem Db.Distinguishes.not_upsert {service existing row : Service} (h : s.Distinguishes service)
    (hrow : row ∈ s.services.rows) (hhost : row.base.hostId = service.base.hostId) (hloaded : LoadedFrom s row existing) :
    ServiceService.isUpsert existing service = false := by
  obtain ⟨hid, hsource⟩ := h row hrow hhost
  rw [ServiceService.isUpsert, Bool.or_eq_false_iff]
  refine ⟨?_, by simpa [hloaded.id_eq] using hid.symm⟩
  rw [hloaded.eq]
  exact hsource

theorem returns_serviceCreate_new (hnew : ∀ t id, may t .newV4 id → new id ∧ t.Unused id) (hnil : ¬ new Uuid.nil)
    (howned : s.Owned) {service : Service} (hdistinguishes : ∀ id, (service.id ≠ Uuid.nil → id = service.id) →
      (service.id = Uuid.nil → s.Unused id) → s.Distinguishes { service with id := id }) :
    Returns dbStep may (fun stored t => ∃ row out, stored.id = row.id ∧ EnteredService new service row out ∧
      AppendedService s row out t) (ServiceService.create service) s := by
  have hnamed (prepared : Service) (hprepared : Prepared service prepared)
      (hid : service.id = Uuid.nil → new prepared.id ∧ s.Unused prepared.id) : Returns dbStep may
      (fun stored t => ∃ row out, stored.id = row.id ∧ EnteredService new service row out ∧ AppendedService s row out t)
      ((acquire (.service prepared.id)).bind (fun _ =>
        (ServiceService.getForHost prepared.base.hostId).bind (fun existingServices =>
          (ServiceService.store existingServices prepared).bind (fun stored =>
            (release (.service prepared.id)).bind (fun _ => ret stored))))) s := by
    apply ensures_acquire
    apply Ensures.bind
    refine ensures_serviceGetAll (fun _ _ h => (nomatch h)) (fun services hservices => ?_)
    have hinserted (position : ℤ) : Returns dbStep may
        (fun stored t => ∃ row out, stored.id = row.id ∧ EnteredService new service row out ∧ AppendedService s row out t)
        (ServiceService.insertService { prepared with base := { prepared.base with position } }) s := by
      apply (returns_insertService_new (fun t id h => (hnew t id h).1) hnil howned _).imp
      rintro stored t ⟨hstored, out, hout, happended⟩
      refine ⟨Service.row { prepared with base := { prepared.base with position } }, out, hstored, ⟨fun h => ?_, fun h => (hid h).1, ?_, ?_⟩, happended⟩
      · change prepared.id = service.id
        rw [hprepared.eq h]
        rfl
      · simp only [Service.row, hprepared.base]
      · have hchildren : (deduplicateBindings service.base.bindings).map
            (fun b => Binding.withService b prepared.id service.base.networkId) = prepared.children := by
          rw [Service.children, hprepared.base]
        change List.Forall₂ _ (List.map (fun b => Binding.withService b prepared.id service.base.networkId) _) _
        rw [hchildren]
        exact hout
    refine Returns.bind (p := ServiceService.store services prepared) ?_ (fun stored t h => ensures_release (Returns.ret h))
    unfold ServiceService.store
    dsimp only
    split
    · rename_i existing hfind
      obtain ⟨row, hrow, hhost, hloaded⟩ := hservices.mem existing (List.mem_of_find?_eq_some hfind)
      have hdistinct := hdistinguishes prepared.id (fun h => by rw [hprepared.eq h]; rfl) (fun h => (hid h).2)
      have hnot : ServiceService.isUpsert existing prepared = false := by
        have hprepared' : s.Distinguishes prepared := by
          unfold Db.Distinguishes at hdistinct ⊢
          rw [hprepared.base]
          exact hdistinct
        exact hprepared'.not_upsert hrow (by simpa using hhost) hloaded
      rw [hnot]
      exact hinserted _
    · exact hinserted _
  unfold ServiceService.create
  by_cases hserviceNil : service.id = Uuid.nil
  · simp only [hserviceNil, ↓reduceIte]
    apply Ensures.bind
    apply ensures_newEntity
    intro id now hid
    exact hnamed _ ⟨rfl, fun h => absurd hserviceNil h⟩ (fun _ => hnew s id hid)
  · simp only [hserviceNil, ↓reduceIte]
    exact hnamed _ ⟨rfl, fun _ => rfl⟩ (fun h => absurd h hserviceNil)

end entering

end VantageNet.Inventory
