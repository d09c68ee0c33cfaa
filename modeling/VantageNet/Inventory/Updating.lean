import VantageNet.Inventory.Merging

/-!
What `ServiceService::update` can come to.
-/

namespace VantageNet.Inventory

open Interaction Interaction.Program

/-- The interface and the port of a binding are there, and are the host's. -/
structure Db.RefersTo (db : Db) (hostId : Uuid) (type : BindingType) : Prop where
  interface : ∀ id, type.interfaceId = some id → ∃ row ∈ db.interfaces.rows, row.id = id ∧ row.base.hostId = hostId
  port : ∀ id, type.portId = some id → ∃ row ∈ db.ports.rows, row.id = id ∧ row.base.hostId = hostId

instance (db : Db) (hostId : Uuid) (type : BindingType) : Decidable (db.RefersTo hostId type) :=
  decidable_of_iff
    ((type.interfaceId.all (fun id => db.interfaces.rows.any (fun row => row.id = id && row.base.hostId = hostId)) &&
      type.portId.all (fun id => db.ports.rows.any (fun row => row.id = id && row.base.hostId = hostId))) = true)
    (by
      rw [Bool.and_eq_true, Option.all_eq_true, Option.all_eq_true]
      simp only [List.any_eq_true, Bool.and_eq_true, decide_eq_true_eq]
      exact ⟨fun h => ⟨h.1, h.2⟩, fun h => ⟨h.1, h.2⟩⟩)

theorem Db.RefersTo.of_sameBut {db t : Db} {K : List Kind} {hostId : Uuid} {type : BindingType}
    (h : db.RefersTo hostId type) (ht : db.SameBut K t) (hinterface : .interface ∉ K) (hport : .port ∉ K) :
    t.RefersTo hostId type := by
  have hinterfaces : t.interfaces = db.interfaces := ht .interface hinterface
  have hports : t.ports = db.ports := ht .port hport
  constructor
  · rw [hinterfaces]
    exact h.interface
  · rw [hports]
    exact h.port

/-- The service as `update` writes it. -/
def Service.deduplicated (service : Service) : Service :=
  ServiceService.withBindings (deduplicateBindings service.base.bindings) service

inductive Revised (db : Db) (service : Service) : Except Error Service → Db → Prop
  | refused (e : Error) {t : Db} (h : db.SameBut [.group, .groupBinding] t) : Revised db service (.error e) t
  | written {g t : Db} (hgroups : db.SameBut [.group, .groupBinding] g)
      (hrefers : ∀ b ∈ deduplicateBindings service.base.bindings, db.RefersTo service.base.hostId b.base.bindingType)
      (now : Instant)
      (hapart : ∀ r ∈ (g.services.filter (fun r => r.id ≠ service.id)).rows, Apart .service r
        { service.row with updatedAt := now })
      (hhas : db.has .service service.id = true) {r : Except Error (List Binding)}
      (hsaved : SavedFor (g.withTable .service (updated g.services
        { service.deduplicated with updatedAt := now } hapart)) service.id service.deduplicated.children r t) :
      Revised db service (r.map (fun saved =>
        ServiceService.withBindings saved { service.deduplicated with updatedAt := now })) t

section revising

variable {may : Db → (o : DbOp) → o.Reply → Prop} {db t : Db}

theorem belongsToHost_eq_ok_iff {portIds interfaceIds : List Uuid} {type : BindingType} :
    ServiceService.belongsToHost portIds interfaceIds type = .ok () ↔
      (∀ id, type.interfaceId = some id → id ∈ interfaceIds) ∧ ∀ id, type.portId = some id → id ∈ portIds := by
  rcases type with i | ⟨p, _ | i⟩
  · simp [ServiceService.belongsToHost, BindingType.interfaceId, BindingType.portId]
  · simp [ServiceService.belongsToHost, BindingType.interfaceId, BindingType.portId]
  · simp only [ServiceService.belongsToHost, BindingType.interfaceId, BindingType.portId, List.contains_iff_mem,
      Option.some.injEq, forall_eq']
    split_ifs with hport hinterface <;> simp_all

theorem ensures_validateBindingsBelongToHost {hostId : Uuid} {bindings : List Binding}
    {post : Except Error Unit → Db → Prop} (herror : ∀ e, post (.error e) db)
    (hok : (∀ b ∈ bindings, db.RefersTo hostId b.base.bindingType) → post (.ok ()) db) :
    Ensures dbStep may post (ServiceService.validateBindingsBelongToHost hostId bindings) db := by
  unfold ServiceService.validateBindingsBelongToHost
  split_ifs with hempty
  · apply hok
    simp [List.isEmpty_iff.mp hempty]
  · apply Ensures.bind
    refine ensures_getAll (k := .port) (fun e => herror e) (fun ports hports _ => ?_)
    apply Ensures.bind
    refine ensures_getAllOrdered (k := .interface) (fun e => herror e) (fun interfaces hinterfaces _ => ?_)
    refine Ensures.forEach (fun done t => t = db ∧ ∀ b ∈ done, db.RefersTo hostId b.base.bindingType) bindings ?_
      ⟨rfl, by simp⟩ ?_
    · rintro done b rest - s ⟨rfl, hdone⟩
      apply ensures_orFail
      cases hbelongs : ServiceService.belongsToHost (ports.map Entity.id) (interfaces.map Entity.id)
          b.base.bindingType with
      | error e => exact herror e
      | ok _ =>
        obtain ⟨hinterface, hport⟩ := belongsToHost_eq_ok_iff.mp hbelongs
        have hb : s.RefersTo hostId b.base.bindingType := by
          constructor
          · intro id hid
            obtain ⟨row, hrow, rfl⟩ := List.mem_map.mp (hinterface id hid)
            obtain ⟨hrow, hhost⟩ := List.mem_filter.mp (hinterfaces.mem_iff.mp hrow)
            exact ⟨row, hrow, rfl, by simpa using hhost⟩
          · intro id hid
            obtain ⟨row, hrow, rfl⟩ := List.mem_map.mp (hport id hid)
            obtain ⟨hrow, hhost⟩ := List.mem_filter.mp (hports.mem_iff.mp hrow)
            exact ⟨row, hrow, rfl, by simpa using hhost⟩
        exact ⟨rfl, List.forall_mem_append.mpr ⟨hdone, by simpa using hb⟩⟩
    · rintro t ⟨rfl, hall⟩
      exact hok hall

theorem ensures_serviceGetById {id : Uuid} {post : Except Error (Option Service) → Db → Prop}
    (herror : ∀ e, post (.error e) db) (hnone : post (.ok none) db)
    (hsome : ∀ row current, (row ∈ db.services.rows ∧ row.id = id) → LoadedFrom db row current →
      post (.ok (some current)) db) :
    Ensures dbStep may post (ServiceService.getById id) db := by
  apply Ensures.bind
  refine ensures_getById (k := .service) (fun e => herror e) ?_
  cases hfind : (db.table .service).rows.find? (fun r => r.id = id) with
  | none => exact hnone
  | some row =>
    have hrow := find_id_eq_some_iff.mp hfind
    apply Ensures.bind
    refine ensures_getAll (k := .binding) (fun e => herror e) (fun bindings hbindings _ => ?_)
    refine hsome row _ hrow ⟨rfl, ?_⟩
    rw [hrow.2]
    exact hbindings

theorem ensures_serviceUpdate (service : Service) :
    Ensures dbStep may (Revised db service) (ServiceService.update service) db := by
  have hrefused (e : Error) : Revised db service (.error e) db := .refused e (.refl _ _)
  apply ensures_acquire
  apply Ensures.bind
  refine ensures_serviceGetById hrefused (hrefused _) (fun row current hrow hloaded => ?_)
  have hhas : db.has .service service.id = true := (has_iff db .service service.id).mpr ⟨row, hrow⟩
  refine (Touches.orFail (K := []) _).then (fun e t ht => ht.eq ▸ hrefused e) (fun _ t ht => ?_)
  rw [ht.eq]
  apply Ensures.bind
  refine ensures_validateBindingsBelongToHost hrefused (fun hrefers => ?_)
  refine (touches_validateBindingsAvailable (K := []) _ _ _).then (fun e t ht => ht.eq ▸ hrefused e) (fun _ t ht => ?_)
  rw [ht.eq]
  refine (touches_updateGroupServiceBindings _ _).then (fun e t ht => .refused e ht) (fun _ g hg => ?_)
  apply Ensures.bind
  apply ensures_update (k := .service)
  · exact fun e => .refused e hg
  · intro now hnot
    have hservices : g.table .service = db.table .service := hg .service (by simp)
    have hsame : g.has .service service.id = db.has .service service.id := by rw [Db.has, Db.has, hservices]
    exact absurd (hsame.symm.trans hnot) (by simp [hhas])
  · intro now hapart _ _
    apply Ensures.bind
    apply ensures_saveBindings
    intro r t hsaved
    have hwritten := Revised.written hg hrefers now hapart hhas hsaved
    cases r with
    | error e => exact hwritten
    | ok saved => exact ensures_release hwritten

end revising

/-- Only the service itself and its bindings have changed. -/
structure Revision (db : Db) (service : Service) (t : Db) : Prop where
  frame : db.SameBut [.service, .binding, .group, .groupBinding] t
  others : ∀ b : Binding, b.base.serviceId ≠ service.id → (b ∈ t.bindings.rows ↔ b ∈ db.bindings.rows)
  services : t.services = db.services ∨ ∃ now, ∀ s : Service, s ∈ t.services.rows ↔
    s = { service.row with updatedAt := now } ∨ s ∈ db.services.rows ∧ s.id ≠ service.id

section revised

variable {db t : Db} {service : Service}

theorem SavedFor.child_of_mem {serviceId : Uuid} {children saved : List Binding}
    (h : SavedFor db serviceId children (.ok saved) t) {b : Binding} (hb : b ∈ t.bindings.rows)
    (hservice : b.base.serviceId = serviceId) : ∃ c ∈ children, SavedAs c b := by
  rcases h with ⟨-, e, he⟩ | ⟨done, out, -, hsaving, hresult⟩
  · cases he
  · obtain ⟨rfl, -⟩ := hresult saved rfl
    rcases hsaving.own b hb hservice with hout | ⟨-, -, hin, hnot⟩
    · exact hsaving.child hout
    · exact absurd hin hnot

theorem Revised.revision {r : Except Error Service} (h : Revised db service r t) : Revision db service t := by
  cases h with
  | refused e hframe =>
    refine ⟨hframe.mono (by simp), fun b _ => ?_, .inl (hframe .service (by simp))⟩
    have hbindings : t.bindings = db.bindings := hframe .binding (by simp)
    rw [hbindings]
  | @written g _ hgroups hrefers now hapart hhas r hsaved =>
    have hservices : g.services = db.services := hgroups .service (by simp)
    have hbindings : g.bindings = db.bindings := hgroups .binding (by simp)
    obtain ⟨hframe, hothers, -⟩ := hsaved.target
    refine ⟨?_, fun b hb => ?_, .inr ⟨now, fun s => ?_⟩⟩
    · refine (hgroups.mono (by simp)).trans (Db.SameBut.trans (.withTable (k := .service) (by simp) _) (hframe.mono ?_))
      simp
    · rw [hothers b hb, ← hbindings]
      rfl
    · have hrows := hframe .service (by simp)
      change s ∈ (t.table .service).rows ↔ _
      rw [hrows, table_withTable, @mem_updated .service g.services
        { service.deduplicated with updatedAt := now } hapart s, hservices]
      rfl

/-- A service that was updated refers to its host's parts only, and stands for all that was asked for. -/
theorem Revised.ok {revised : Service} (h : Revised db service (.ok revised) t)
    (hdistinct : service.base.bindings.Pairwise (fun a b => a.id ≠ b.id)) :
    (∃ now, ({ service.row with updatedAt := now } : Service) ∈ t.services.rows) ∧
      (∀ b ∈ t.bindings.rows, b.base.serviceId = service.id → db.RefersTo service.base.hostId b.base.bindingType) ∧
      (∀ b ∈ service.base.bindings, Represented (t.bindingsOf service.id) b.base.bindingType) ∧
      ∀ b ∈ t.bindings.rows, b.base.serviceId = service.id →
        ∃ c ∈ service.base.bindings, b.base.bindingType = c.base.bindingType := by
  generalize hr : Except.ok revised = r at h
  cases h with
  | refused e _ => cases hr
  | @written g _ hgroups hrefers now hapart hhas r hsaved =>
    cases r with
    | error e => cases hr
    | ok saved =>
      have hasked {b : Binding} (hb : b ∈ t.bindings.rows) (hservice : b.base.serviceId = service.id) :
          ∃ c ∈ deduplicateBindings service.base.bindings, b.base.bindingType = c.base.bindingType := by
        obtain ⟨c, hc, hsavedAs⟩ := hsaved.child_of_mem hb hservice
        obtain ⟨c', hc', htype, -⟩ := mem_children hc
        exact ⟨c', hc', by rw [hsavedAs.base, htype]⟩
      refine ⟨⟨now, ?_⟩, fun b hb hservice => ?_, fun b hb => ?_, fun b hb hservice => ?_⟩
      · have hrows := hsaved.target.1 .service (by simp)
        change _ ∈ (t.table .service).rows
        rw [hrows, table_withTable]
        exact mem_updated.mpr (.inl rfl)
      · obtain ⟨c, hc, htype⟩ := hasked hb hservice
        rw [htype]
        exact hrefers c hc
      · refine hsaved.represented serviceId_of_mem_children (fun e _ _ => ?_) (deduplicateBindings_represents hb).children
        refine List.pairwise_map.mpr ((hdistinct.sublist (deduplicateFrom_sublist _ _ _)).imp ?_)
        exact fun hne _ ha hb => hne (ha.trans hb.symm)
      · obtain ⟨c, hc, htype⟩ := hasked hb hservice
        exact ⟨c, mem_of_mem_deduplicateBindings hc, htype⟩

end revised

end VantageNet.Inventory
