import VantageNet.Inventory.Requests
import VantageNet.Inventory.Storing

/-!
What a refused `update_from_request` leaves of a host. No statement is rolled back: the host row is
written first, and the statements after it write the other tables only.
-/

namespace VantageNet.Inventory

open Interaction Interaction.Program

/-- Everything but the hosts. -/
def childKinds : List Kind := [.interface, .port, .service, .binding, .group, .groupBinding]

section touches

variable {K : List Kind}

theorem Touches.mono {α : Type} {js : List Kind} {p : Query α} (h : Touches K p) (hks : K ⊆ js) : Touches js p := by
  induction p with
  | ret a => exact h
  | fail e => exact h
  | op o k ih => exact ⟨List.Subset.trans h.1 hks, fun r _ => ih r (h.2 r trivial)⟩

theorem touches_deleteWhere {k : Kind} (hk : k.cascade ⊆ K) (filter : Row k → Bool) :
    Touches K (Storage.deleteWhere k filter) := .op hk .orFail

theorem touches_crudUpdate {k : Kind} (hk : k ∈ K) (row : Row k) : Touches K (Crud.update k row) := by
  refine (touches_getById k row.id).bind (fun found => ?_)
  cases found with
  | none => exact .fail _
  | some _ => exact touches_storageUpdate hk row

theorem touches_deleteMany {k : Kind} (hk : k.cascade ⊆ K) (ids : List Uuid) :
    Touches K (Crud.deleteMany k ids) := by
  unfold Crud.deleteMany
  split_ifs
  · exact .ret _
  · refine Touches.bind (.forEach (fun id => ?_) ids) (fun _ => touches_deleteWhere hk _)
    exact (touches_getById k id).bind (fun _ => .ret _)

theorem touches_saveChild (existing : List Binding) (child : Binding) :
    Touches [.binding, .groupBinding] (BindingService.saveChild existing child) := by
  unfold BindingService.saveChild
  split_ifs
  · exact .op (List.nil_subset _) (fun _ => touches_crudCreate (k := .binding) (by simp) _)
  · split
    · exact touches_crudUpdate (k := .binding) (by simp) _
    · exact touches_crudCreate (k := .binding) (by simp) child

theorem touches_saveBindings (service : Service) :
    Touches [.binding, .groupBinding] (ServiceService.saveBindings service) := by
  refine Touches.bind ?_ (fun _ => .ret _)
  refine (touches_getAll .binding _).bind (fun existing => ?_)
  refine (Touches.when _ (touches_deleteMany (k := .binding) (by simp [Kind.cascade]) _)).bind (fun _ => ?_)
  exact .collect (touches_saveChild existing) _

theorem touches_insertService (service : Service) :
    Touches [.service, .binding, .groupBinding] (ServiceService.insertService service) := by
  refine (Touches.orFail _).bind (fun _ => (touches_validateBindingsBelongToHost _ _).bind (fun _ => ?_))
  refine (Touches.when _ (touches_validateBindingsAvailable _ _ _)).bind (fun _ => ?_)
  refine (touches_storageCreate (k := .service) (by simp) service).bind (fun created => ?_)
  exact (touches_saveBindings created).mono (by simp)

theorem touches_serviceStore (existing : List Service) (service : Service) :
    Touches [.service, .binding, .groupBinding] (ServiceService.store existing service) := by
  unfold ServiceService.store
  dsimp only
  split
  · split_ifs
    · refine (touches_storageUpdate (k := .service) (by simp) _).bind (fun updated => ?_)
      exact (touches_saveBindings updated).mono (by simp)
    · exact touches_insertService _
  · exact touches_insertService _

theorem touches_serviceCreate (service : Service) :
    Touches [.service, .binding, .groupBinding] (ServiceService.create service) := by
  have hnamed (service : Service) : Touches [.service, .binding, .groupBinding]
      ((acquire (.service service.id)).bind (fun _ =>
        (ServiceService.getForHost service.base.hostId).bind (fun existing =>
          (ServiceService.store existing service).bind (fun stored =>
            (release (.service service.id)).bind (fun _ => ret stored))))) := by
    refine (touches_acquire _).bind (fun _ => (touches_serviceGetAll _).bind (fun existing => ?_))
    exact (touches_serviceStore existing service).bind (fun _ => (touches_release _).bind (fun _ => .ret _))
  unfold ServiceService.create
  split_ifs
  · exact (touches_newEntity _).bind (fun _ => hnamed _)
  · exact hnamed _

theorem touches_serviceUpdate (service : Service) :
    Touches [.service, .binding, .group, .groupBinding] (ServiceService.update service) := by
  refine (touches_acquire _).bind (fun _ => (touches_serviceGetById _).bind (fun current => ?_))
  cases current with
  | none => exact .fail _
  | some current =>
    refine (Touches.orFail _).bind (fun _ => (touches_validateBindingsBelongToHost _ _).bind (fun _ => ?_))
    refine (touches_validateBindingsAvailable _ _ _).bind (fun _ => ?_)
    refine ((touches_updateGroupServiceBindings current _).mono (by simp)).bind (fun _ => ?_)
    refine (touches_storageUpdate (k := .service) (by simp) _).bind (fun updated => ?_)
    exact ((touches_saveBindings updated).mono (by simp)).bind (fun _ => (touches_release _).bind (fun _ => .ret _))

end touches

namespace HostService

theorem touches_syncInterfaces (hostId networkId : Uuid) (inputs : List InterfaceInput) :
    Touches [.interface, .binding, .groupBinding] (syncInterfaces hostId networkId inputs) := by
  refine (touches_getAllOrdered .interface _ _).bind (fun existing => (Touches.orFail _).bind (fun inputs => ?_))
  refine (touches_deleteMany (k := .interface) (by simp [Kind.cascade]) _).bind (fun _ => ?_)
  refine .forEach (fun input => ?_) _
  refine Touches.bind (.op (List.nil_subset _) (fun _ => .ret _)) (fun interface => ?_)
  split
  · exact (touches_crudUpdate (k := .interface) (by simp) _).bind (fun _ => .ret _)
  · exact (touches_crudCreate (k := .interface) (by simp) _).bind (fun _ => .ret _)

theorem touches_syncPorts (hostId networkId : Uuid) (inputs : List PortInput) :
    Touches [.port, .binding, .groupBinding] (syncPorts hostId networkId inputs) := by
  refine (touches_getAll .port _).bind (fun existing => ?_)
  refine (touches_deleteMany (k := .port) (by simp [Kind.cascade]) _).bind (fun _ => ?_)
  refine .forEach (fun input => ?_) _
  refine Touches.bind (.op (List.nil_subset _) (fun _ => .ret _)) (fun port => ?_)
  split
  · exact (touches_crudUpdate (k := .port) (by simp) _).bind (fun _ => .ret _)
  · exact (touches_crudCreate (k := .port) (by simp) _).bind (fun _ => .ret _)

theorem touches_intoService {K : List Kind} (input : ServiceInput) (hostId networkId : Uuid)
    (source : EntitySource) : Touches K (input.intoService hostId networkId source) := by
  refine .op (List.nil_subset K) (fun now => ?_)
  refine Touches.bind (p := collect _ input.bindings) (.collect (fun b => ?_) _) (fun bindings => .ret _)
  exact .op (List.nil_subset K) (fun _ => .op (List.nil_subset K) (fun _ => .ret _))

theorem touches_serviceDeleteMany (ids : List Uuid) :
    Touches [.service, .binding, .groupBinding] (ServiceService.deleteMany ids) := by
  unfold ServiceService.deleteMany
  split_ifs
  · exact .ret _
  · refine Touches.bind (.forEach (fun id => ?_) ids) (fun _ => ?_)
    · exact (touches_serviceGetById id).bind (fun _ => .ret _)
    · exact touches_deleteWhere (k := .service) (by simp [Kind.cascade]) _

theorem touches_syncServices (hostId networkId : Uuid) (inputs : List ServiceInput) :
    Touches [.service, .binding, .group, .groupBinding] (syncServices hostId networkId inputs) := by
  refine (touches_serviceGetAll _).bind (fun existing => (Touches.orFail _).bind (fun inputs => ?_))
  refine ((touches_serviceDeleteMany _).mono (by simp)).bind (fun _ => .forEach (fun input => ?_) _)
  refine (touches_intoService input hostId networkId _).bind (fun service => ?_)
  split
  · exact (touches_serviceUpdate _).bind (fun _ => .ret _)
  · exact ((touches_serviceCreate _).mono (by simp)).bind (fun _ => .ret _)

theorem touches_loadChildrenForHost {K : List Kind} (hostId : Uuid) : Touches K (loadChildrenForHost hostId) := by
  refine (touches_getAllOrdered .interface _ _).bind (fun interfaces => (touches_getAll .port _).bind (fun ports => ?_))
  refine (touches_getAllOrdered .service _ _).bind (fun services => ?_)
  split_ifs
  · exact .ret _
  · exact (touches_getAll .binding _).bind (fun _ => .ret _)

theorem touches_syncChildren (hostId networkId : Uuid) (request : UpdateHostRequest) :
    Touches childKinds (syncChildren hostId networkId request) := by
  refine ((touches_syncInterfaces _ _ _).mono (by simp [childKinds])).bind (fun _ => ?_)
  refine ((touches_syncPorts _ _ _).mono (by simp [childKinds])).bind (fun _ => ?_)
  exact ((touches_syncServices _ _ _).mono (by simp [childKinds])).bind (fun _ => touches_loadChildrenForHost _)

end HostService

/-- What is stored of a host. -/
structure HostRows where
  host : List Host
  interfaces : List Interface
  ports : List Port
  services : List Service
  bindings : List Binding
  groupBindings : List GroupBinding
  deriving DecidableEq

def Db.ofHost (db : Db) (id : Uuid) : HostRows :=
  let services := db.services.rows.filter (fun s => s.base.hostId = id)
  let bindings := db.bindings.rows.filter (fun b => (services.map Entity.id).contains b.base.serviceId)
  { host := db.hosts.rows.filter (fun h => h.id = id)
    interfaces := db.interfaces.rows.filter (fun i => i.base.hostId = id)
    ports := db.ports.rows.filter (fun p => p.base.hostId = id)
    services
    bindings
    groupBindings := db.groupBindings.rows.filter (fun g => (bindings.map Entity.id).contains g.base.bindingId) }

def refused {α : Type} : Except Error α → Bool
  | .error _ => true
  | .ok _ => false

/-- The row that `update_from_request` writes for a host, with the clock as it writes. -/
def writtenHost (ω : Oracle dbSig) (request : UpdateHostRequest) (existing : Host) : Host :=
  { HostService.requestedHost request existing with updatedAt := ω 3 .utcNow }

/-- The call is turned down at the host: there is none, it was modified, or the database refuses one of the
two readings of its row or the writing. -/
def Db.refusesHost (db : Db) (ω : Oracle dbSig) (request : UpdateHostRequest) : Bool :=
  refused (ω 0 (.get .host request.id)) ||
    match db.hosts.rows.find? (fun h => h.id = request.id) with
    | none => true
    | some existing => HostService.modifiedSince request.expectedUpdatedAt existing.updatedAt ||
        refused (ω 2 (.get .host request.id)) || refused (ω 4 (.update .host (writtenHost ω request existing)))

/-- The positions of the children in a request are validated only after the host is written. -/
def Error.ofPositions : Error → Bool
  | .positionsMixed _ _ _ | .positionDuplicate _ _ | .positionNotSequential _ _ _ => true
  | _ => false

section revision

variable {db : Db} {ω : Oracle dbSig} {request : UpdateHostRequest}

/-- No constraint stands in the way of a host that is there. -/
theorem update_host {row : Host} (hhas : db.has .host row.id = true) :
    ∃ h, db.update .host row (.ok ()) = (.ok (), db.withTable .host (updated (k := .host) db.hosts row h)) := by
  have hapart : ∀ r ∈ ((db.table .host).filter (fun r => r.id ≠ row.id)).rows, Apart .host r (columns .host row) :=
    fun r hr => ⟨by simpa [id_columns] using (List.mem_filter.mp hr).2, rfl⟩
  refine ⟨hapart, ?_⟩
  simp only [Db.update, hhas, ↓reduceIte, dif_pos hapart]
  rfl

theorem run_hostUpdate {host : Host} (n : ℕ) (hhas : db.has .host host.id = true) :
    let row : Host := { host with updatedAt := ω (n + 2) .utcNow }
    let turnedDown := refused (ω (n + 1) (.get .host host.id)) || refused (ω (n + 3) (.update .host row))
    (turnedDown = true ∧ ∃ e m, run dbStep ω n (HostService.update host) db = ⟨.error e, m, db⟩) ∨
    turnedDown = false ∧ ∃ h, run dbStep ω n (HostService.update host) db =
      ⟨.ok row, n + 5, db.withTable .host (updated (k := .host) db.hosts row h)⟩ := by
  intro row turnedDown
  obtain ⟨existing, hexisting⟩ := (has_iff db .host host.id).mp hhas
  have hfind := find_id_eq_some_iff.mpr hexisting
  simp only [turnedDown, HostService.update, Storage.getById, bind_eq, op_bind, run_op, ret_bind, dbStep, hfind]
  rcases hget : ω (n + 1) (.get .host host.id) with e | r
  · exact .inl ⟨rfl, e, n + 2, rfl⟩
  simp only [Except.map, orFail_ok, ret_bind, Storage.update, bind_eq, op_bind, run_op, dbStep]
  rcases hput : ω (n + 3) (.update .host row) with e | ⟨⟩
  · refine .inl ⟨rfl, e, n + 4, ?_⟩
    simp only [Db.update, orFail_error, fail_bind, run_fail]
  · obtain ⟨h, hupdate⟩ := update_host (show db.has .host row.id = true from hhas)
    refine .inr ⟨rfl, h, ?_⟩
    simp only [row] at hupdate
    simp only [hupdate, orFail_ok, ret_bind, run_op, dbStep, pure_eq, run_ret, row]

/-- The call up to the writing of the host. -/
theorem run_updateFromRequest (db : Db) (ω : Oracle dbSig) (request : UpdateHostRequest) :
    (db.refusesHost ω request = true ∧
      ∃ e m, run dbStep ω 0 (HostService.updateFromRequest request) db = ⟨.error e, m, db⟩) ∨
    db.refusesHost ω request = false ∧ ∃ existing h,
      db.hosts.rows.find? (fun h => h.id = request.id) = some existing ∧
      run dbStep ω 0 (HostService.updateFromRequest request) db =
        run dbStep ω 6 ((HostService.syncChildren request.id existing.base.networkId request).bind
          (fun c => ret ⟨writtenHost ω request existing, c.1, c.2.1, c.2.2⟩))
          (db.withTable .host (updated (k := .host) db.hosts (writtenHost ω request existing) h)) := by
  unfold HostService.updateFromRequest Db.refusesHost
  simp only [bind_eq, Storage.getById, op_bind, run_op, dbStep]
  rcases h0 : ω 0 (.get .host request.id) with e | r
  · exact .inl ⟨rfl, e, 1, rfl⟩
  simp only [Except.map, orFail_ok, ret_bind, refused, Bool.false_or, Db.table]
  cases hfind : db.hosts.rows.find? (fun h => h.id = request.id) with
  | none => exact .inl ⟨rfl, _, 1, rfl⟩
  | some existing =>
    dsimp only
    cases hmodified : HostService.modifiedSince request.expectedUpdatedAt existing.updatedAt with
    | true => exact .inl ⟨rfl, _, 1, rfl⟩
    | false =>
      have hhas : db.has .host (HostService.requestedHost request existing).id = true :=
        (has_iff db .host request.id).mpr ⟨existing, find_id_eq_some_iff.mp hfind⟩
      simp only [Bool.false_eq_true, ↓reduceIte, Bool.false_or, run_bind]
      rcases run_hostUpdate (ω := ω) 1 hhas with ⟨hdown, e, m, hrun⟩ | ⟨hdown, h, hrun⟩
      · rw [hrun]
        exact .inl ⟨hdown, e, m, rfl⟩
      · rw [hrun]
        exact .inr ⟨hdown, existing, h, rfl, rfl⟩

theorem hosts_updateFromRequest (h : db.refusesHost ω request = false) :
    ∃ existing ∈ db.hosts.rows, existing.id = request.id ∧
      (run dbStep ω 0 (HostService.updateFromRequest request) db).state.hosts.rows =
        db.hosts.rows.filter (fun h => h.id ≠ request.id) ++ [writtenHost ω request existing] := by
  rcases run_updateFromRequest db ω request with ⟨hrefused, -⟩ | ⟨-, existing, hapart, hfind, hrun⟩
  · exact absurd hrefused (by simp [h])
  · obtain ⟨hmem, hid⟩ := find_id_eq_some_iff.mp hfind
    refine ⟨existing, hmem, hid, ?_⟩
    have hsync := (((HostService.touches_syncChildren request.id existing.base.networkId request).bind
      (fun c => .ret (⟨writtenHost ω request existing, c.1, c.2.1, c.2.2⟩ : HostResponse))).ensures
        (db.withTable .host (updated (k := .host) db.hosts (writtenHost ω request existing) hapart))).run_any ω 6
    have hhosts := hsync .host (by simp [childKinds])
    rw [hrun]
    exact congrArg Table.rows hhosts

end revision

theorem updateFromRequest_error (db : Db) (ω : Oracle dbSig) (request : UpdateHostRequest) :
    let o := run dbStep ω 0 (HostService.updateFromRequest request) db
    (db.refusesHost ω request = true →
      (∃ e, o.result = .error e) ∧ o.state.ofHost request.id = db.ofHost request.id) ∧
    (db.refusesHost ω request = false → ∀ e, o.result = .error e → e.ofPositions = false →
      ∃ existing ∈ db.hosts.rows, existing.id = request.id ∧
        (o.state.ofHost request.id).host = [writtenHost ω request existing]) := by
  refine ⟨fun hrefused => ?_, fun hwritten e _ _ => ?_⟩
  · rcases run_updateFromRequest db ω request with ⟨-, e, m, hrun⟩ | ⟨hnot, -⟩
    · rw [hrun]
      exact ⟨⟨e, rfl⟩, rfl⟩
    · exact absurd hrefused (by simp [hnot])
  · obtain ⟨existing, hmem, hid, hhosts⟩ := hosts_updateFromRequest hwritten
    refine ⟨existing, hmem, hid, ?_⟩
    simp only [Db.ofHost, hhosts]
    simp [writtenHost, HostService.requestedHost]

def renamed (interfaces : List InterfaceInput) (expectedUpdatedAt : Option Instant) : UpdateHostRequest where
  id := 1
  name := "renamed"
  hostname := none
  description := none
  virtualization := none
  hidden := false
  tags := []
  expectedUpdatedAt
  interfaces
  ports := []
  services := []

def onOneAddress : List InterfaceInput := [⟨2, 7, .v4 20, none, none, none⟩, ⟨3, 7, .v4 20, none, none, none⟩]

theorem updateFromRequest_stale_and_late :
    let stale := run dbStep (granted 8) 0 (HostService.updateFromRequest (renamed [] (some 1000))) (webHost .empty)
    let late := run dbStep (granted 8) 0 (HostService.updateFromRequest (renamed onOneAddress none)) (webHost .empty)
    ((∃ e, stale.result = .error e) ∧ stale.state.ofHost 1 = (webHost .empty).ofHost 1) ∧
    ∃ existing ∈ (webHost .empty).hosts.rows, existing.id = 1 ∧
      (late.state.ofHost 1).host = [writtenHost (granted 8) (renamed onOneAddress none) existing] :=
  ⟨(updateFromRequest_error (webHost .empty) (granted 8) (renamed [] (some 1000))).1 (by decide),
    (updateFromRequest_error (webHost .empty) (granted 8) (renamed onOneAddress none)).2 (by decide)
      .uniqueViolation rfl rfl⟩

/-- Both interfaces are to take one address: the second of them is refused. -/
theorem updateFromRequest_partial :
    let o := run dbStep (granted 8) 0 (HostService.updateFromRequest (renamed onOneAddress none)) (webHost .empty)
    o.result = .error .uniqueViolation ∧ o.state.ofHost 1 ≠ (webHost .empty).ofHost 1 := by
  refine ⟨rfl, by decide⟩

end VantageNet.Inventory
