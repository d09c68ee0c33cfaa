import VantageNet.Inventory.Consolidated
import VantageNet.Inventory.Positions
import VantageNet.Inventory.Recognition

/-!
Where the interfaces are that the calls write: a condition on the network, the subnet and the
address of every interface that a request, a batch or the store holds is one on every interface
that is stored in the end.
-/

namespace VantageNet.Inventory

open Interaction Interaction.Program

section located

variable (P : Uuid → Uuid → IpAddr → Prop)

/-- The network, the subnet and the address of the interface meet `P`. -/
def InterfaceBase.At (i : InterfaceBase) : Prop := P i.networkId i.subnetId i.ipAddress

def Db.Located (db : Db) : Prop := ∀ i ∈ db.interfaces.rows, i.base.At P

/-- The statement writes an interface, if it writes one, where `P` is met. -/
def Locates : DbOp → Prop
  | .create .interface (i : Interface) | .update .interface (i : Interface) => i.base.At P
  | _ => True

variable {P}

theorem Db.Located.dbStep {db : Db} (h : db.Located P) {o : DbOp} (ho : Locates P o) (a : o.Reply) :
    (Inventory.dbStep o a db).2.Located P := by
  intro i hi
  rcases mem_dbStep (k := .interface) hi with hold | ⟨row, rfl, rfl, -⟩ | ⟨row, rfl, rfl, -⟩
  · exact h i hold
  · exact ho
  · exact ho

theorem locates_of_writes {K : List Kind} (hK : .interface ∉ K) {o : DbOp} (ho : o.writes ⊆ K) : Locates P o := by
  cases o with
  | create k row | update k row =>
    cases k with
    | interface => exact absurd (ho (by simp [DbOp.writes])) hK
    | _ => trivial
  | _ => trivial

theorem Touches.locates {α : Type} {K : List Kind} (hK : .interface ∉ K) {p : Query α} (h : Touches K p) :
    Only (Locates P) p := by
  induction p with
  | ret a => trivial
  | fail e => trivial
  | op o k ih => exact ⟨locates_of_writes hK h.1, fun r => ih r (h.2 r trivial)⟩

theorem Db.Located.ensures {α : Type} {may : Db → (o : DbOp) → o.Reply → Prop} {db : Db} (h : db.Located P)
    {p : Query α}
    (hp : Only (Locates P) p) : Ensures Inventory.dbStep may (fun _ t => t.Located P) p db :=
  Ensures.of_only (fun _ _ r ho hs => hs.dbStep ho r) hp h

end located

section writing

variable {P : Uuid → Uuid → IpAddr → Prop}

theorem only_storageCreate {i : Interface} (hi : i.base.At P) : Only (Locates P) (Storage.create .interface i) :=
  ⟨hi, fun r => (Only.orFail r).bind (fun _ => trivial)⟩

theorem only_crudCreate {i : Interface} (hi : i.base.At P) : Only (Locates P) (Crud.create .interface i) := by
  unfold Crud.create
  split_ifs
  · exact ⟨trivial, fun _ => ⟨trivial, fun _ => only_storageCreate hi⟩⟩
  · exact only_storageCreate hi

theorem only_crudUpdate {i : Interface} (hi : i.base.At P) : Only (Locates P) (Crud.update .interface i) := by
  refine Only.bind ⟨trivial, .orFail⟩ (fun found => ?_)
  cases found with
  | none => trivial
  | some _ => exact ⟨trivial, fun _ => ⟨hi, fun r => (Only.orFail r).bind (fun _ => trivial)⟩⟩

end writing

namespace HostService

variable {P : Uuid → Uuid → IpAddr → Prop}

theorem only_createInterface (behavior : ConflictBehavior) (hostId : Uuid) {i : Interface} (hi : i.base.At P) :
    Only (Locates P) (createInterface behavior hostId i) := by
  cases behavior with
  | error => exact only_crudCreate hi
  | upsert =>
    refine Only.bind (Only.bind ⟨trivial, .orFail⟩ (fun found => ?_)) (fun existing => ?_)
    · cases found with
      | none => exact Only.bind ⟨trivial, .orFail⟩ (fun _ => trivial)
      | some existing => trivial
    · cases existing with
      | none => exact only_crudCreate hi
      | some existing => trivial

theorem only_createWithChildren (behavior : ConflictBehavior) (host : Host) {interfaces : List Interface}
    (hinterfaces : ∀ i ∈ interfaces, i.base.At P) (ports : List Port) (services : List Service) :
    Only (Locates P) (createWithChildren behavior host interfaces ports services) := by
  refine Only.bind (Only.bind ?_ (fun aligned => Only.bind ?_ (fun created => Only.bind ?_ (fun is => ?_)))) (fun parts => ?_)
  · exact (touches_alignHost (K := []) behavior host interfaces).locates (by simp)
  · exact (touches_hostCreate (K := [.host]) (by simp) aligned).locates (by simp)
  · exact Only.collect_mem (fun i hi => only_createInterface behavior created.id (hinterfaces i hi))
  · refine Only.bind (Only.collect (fun port => ?_) ports) (fun _ => trivial)
    exact (touches_createPort (K := [.port]) (by simp) behavior created port).locates (by simp)
  · refine Only.bind ?_ (fun _ => trivial)
    exact (touches_createServices interfaces ports _ _ _ services).locates (by simp)

theorem only_intoInterface (input : InterfaceInput) (hostId networkId : Uuid) :
    Only (Locates P) (input.intoInterface hostId networkId) := ⟨trivial, fun _ => trivial⟩

theorem only_intoPort (input : PortInput) (hostId networkId : Uuid) :
    Only (Locates P) (input.intoPort hostId networkId) :=
  ⟨trivial, fun _ => trivial⟩

theorem ends_intoInterface {input : InterfaceInput} (hostId : Uuid) {networkId : Uuid}
    (h : P networkId input.subnetId input.ipAddress) :
    Ends (fun i : Interface => i.base.At P) (input.intoInterface hostId networkId) :=
  fun _ => h

theorem only_deleteMany (ids : List Uuid) : Only (Locates P) (Crud.deleteMany .interface ids) := by
  unfold Crud.deleteMany
  split_ifs
  · trivial
  · have hget (id : Uuid) : Only (Locates P) ((Storage.getById .interface id).bind (fun _ => ret ())) :=
      Only.bind ⟨trivial, .orFail⟩ (fun _ => trivial)
    exact (Only.forEach hget ids).bind (fun _ => ⟨trivial, .orFail⟩)

/-- The positions that inputs are given leave them where they are. -/
theorem at_of_resolved {networkId : Uuid} {inputs resolved : List InterfaceInput} {existing : List (Uuid × ℤ)}
    (hinputs : ∀ input ∈ inputs, P networkId input.subnetId input.ipAddress)
    (h : resolveAndValidateInputPositions InterfaceInput.id InterfaceInput.position (fun i p => { i with position := some p })
      inputs existing "interface" = .ok resolved) : ∀ input ∈ resolved, P networkId input.subnetId input.ipAddress := by
  intro input hinput
  obtain ⟨original, horiginal, hresolved⟩ := exists_left_of_forall₂ (resolveAndValidateInputPositions_resolved h) hinput
  rcases hresolved with rfl | ⟨p, rfl⟩
  · exact hinputs input horiginal
  · exact hinputs original horiginal

theorem only_createFromRequest {request : CreateHostRequest}
    (hinterfaces : ∀ input ∈ request.interfaces, P request.networkId input.subnetId input.ipAddress) :
    Only (Locates P) (createFromRequest request) := by
  refine Only.bind_of (.orFail _) (Ends.orFail (fun _ => at_of_resolved hinterfaces)) (fun interfaceInputs hinputs => ?_)
  refine (Only.orFail _).bind (fun serviceInputs => ?_)
  refine Only.bind_of (R := fun entities => ∀ i ∈ entities.2.1, i.base.At P) ?_ ?_ (fun entities hentities => ?_)
  · refine Only.bind ?_ (fun host => Only.bind ?_ (fun _ => Only.bind ?_ (fun _ => Only.bind ?_ (fun _ => trivial))))
    · exact ⟨trivial, fun _ => ⟨trivial, fun _ => trivial⟩⟩
    · exact Only.collect (fun input => only_intoInterface input host.id request.networkId) interfaceInputs
    · exact Only.collect (fun input => only_intoPort input host.id request.networkId) request.ports
    · exact Only.collect (fun s => (touches_intoService (K := []) s _ _ _).locates (by simp)) _
  · refine fun now id => Ends.bind (R := fun is : List Interface => ∀ i ∈ is, i.base.At P) ?_ (fun is his => ?_)
    · exact Ends.collect (fun input hinput => ends_intoInterface id (hinputs input hinput))
    · exact (Ends.any _).bind (fun _ _ => (Ends.any _).bind (fun _ _ => his))
  · exact only_createWithChildren .error entities.1 hentities entities.2.2.1 entities.2.2.2

theorem touches_hostUpdate (host : Host) : Touches [.host] (update host) := by
  refine (touches_acquire _).bind (fun _ => (touches_getById .host host.id).bind (fun found => ?_))
  cases found with
  | none => exact .fail _
  | some _ => exact (touches_storageUpdate (k := .host) (by simp) host).bind (fun _ => (touches_release _).bind (fun _ => .ret _))

theorem only_syncInterfaces (hostId : Uuid) {networkId : Uuid} {inputs : List InterfaceInput}
    (hinputs : ∀ input ∈ inputs, P networkId input.subnetId input.ipAddress) :
    Only (Locates P) (syncInterfaces hostId networkId inputs) := by
  refine Only.bind ⟨trivial, .orFail⟩ (fun existing => ?_)
  refine Only.bind_of (.orFail _) (Ends.orFail (fun _ => at_of_resolved hinputs)) (fun resolved hresolved => ?_)
  refine Only.bind ?_ (fun _ => Only.forEach_mem (fun input hinput => ?_))
  · exact only_deleteMany _
  · refine (only_intoInterface input hostId networkId).bind_of
      (ends_intoInterface hostId (hresolved input hinput)) (fun i hi => ?_)
    split
    · exact Only.bind (only_crudUpdate hi) (fun _ => trivial)
    · exact Only.bind (only_crudCreate hi) (fun _ => trivial)

theorem only_syncChildren (hostId : Uuid) {networkId : Uuid} {request : UpdateHostRequest}
    (hinputs : ∀ input ∈ request.interfaces, P networkId input.subnetId input.ipAddress) :
    Only (Locates P) (syncChildren hostId networkId request) := by
  refine (only_syncInterfaces hostId hinputs).bind (fun _ => ?_)
  refine ((touches_syncPorts hostId networkId request.ports).locates (by simp)).bind (fun _ => ?_)
  refine ((touches_syncServices hostId networkId request.services).locates (by simp)).bind (fun _ => ?_)
  exact (touches_loadChildrenForHost (K := []) hostId).locates (by simp)

variable {may : Db → (o : DbOp) → o.Reply → Prop} {db : Db}

theorem ensures_updateFromRequest (h : db.Located P) {request : UpdateHostRequest}
    (hinputs : ∀ host ∈ db.hosts.rows, host.id = request.id → ∀ input ∈ request.interfaces,
      P host.base.networkId input.subnetId input.ipAddress) :
    Ensures dbStep may (fun _ t => t.Located P) (updateFromRequest request) db := by
  apply Ensures.bind
  refine ensures_getById (k := .host) (fun _ => h) ?_
  cases hfind : (db.table .host).rows.find? (fun r => r.id = request.id) with
  | none => exact h
  | some existing =>
    obtain ⟨hexisting, hid⟩ := find_id_eq_some_iff.mp hfind
    refine h.ensures ?_
    dsimp only
    split_ifs
    · trivial
    · refine ((touches_hostUpdate _).locates (by simp)).bind (fun updated => ?_)
      exact (only_syncChildren updated.id (hinputs existing hexisting hid)).bind (fun _ => trivial)

/-- An interface that goes over to the destination stays on its network, on its subnet and at its address. -/
theorem only_transferInterface (destination : Host) (destInterfaces : List Interface) {i : Interface}
    (hi : i.base.At P) :
    Only (Locates P) (transferInterface destination destInterfaces i) := by
  unfold transferInterface
  split
  · trivial
  · exact Only.bind (only_crudUpdate hi) (fun _ => trivial)

theorem ensures_transferParts_located (h : db.Located P) (destination other : Host) :
    Ensures dbStep may (fun _ t => t.Located P) (transferParts destination other) db := by
  apply Ensures.bind
  refine ensures_getAllOrdered (k := .interface) (fun _ => h) (fun destInterfaces _ _ => ?_)
  apply Ensures.bind
  refine ensures_getAllOrdered (k := .interface) (fun _ => h) (fun otherInterfaces hother _ => h.ensures ?_)
  have hrows (i : Interface) (hi : i ∈ otherInterfaces) : i.base.At P :=
    h i (List.mem_filter.mp (hother.mem_iff.mp hi)).1
  refine ((touches_getAll (K := []) .port _).locates (by simp)).bind (fun destPorts => ?_)
  refine ((touches_getAll (K := []) .port _).locates (by simp)).bind (fun otherPorts => ?_)
  refine (Only.collect_mem (fun i hi => only_transferInterface destination destInterfaces (hrows i hi))).bind (fun _ => ?_)
  refine (Only.collect (fun port => ?_) otherPorts).bind (fun _ => ?_)
  · unfold transferPort
    split
    · trivial
    · exact ((touches_crudUpdate (K := [.port]) (k := .port) (by simp) _).locates (by simp)).bind (fun _ => trivial)
  · exact ((touches_upsertHost (K := [.host]) (by simp) destination other).locates (by simp)).bind (fun _ => trivial)

theorem only_transferServices (destination other updated : Host) (interfaceIdMap portIdMap : IdMap) :
    Only (Locates P) (transferServices destination other updated interfaceIdMap portIdMap) := by
  refine ((touches_serviceGetAll (K := []) _).locates (by simp)).bind (fun destinationServices => ?_)
  refine ((touches_serviceGetAll (K := []) _).locates (by simp)).bind (fun _ => .forEach (fun service => ?_) _)
  unfold transferService
  split_ifs
  · trivial
  · refine (((touches_serviceUpdate _).locates (by simp)).attempt).bind (fun r => ?_)
    cases r <;> trivial

theorem only_refuseDaemon (daemon : Uuid → Except Error Bool) (hostId : Uuid) :
    Only (Locates P) (refuseDaemon daemon hostId) := by
  unfold refuseDaemon
  split <;> trivial

theorem only_deleteHost (daemon : Uuid → Except Error Bool) (id : Uuid) : Only (Locates P) (deleteHost daemon id) := by
  refine (only_refuseDaemon daemon id).bind (fun _ => Only.bind ⟨trivial, .orFail⟩ (fun found => ?_))
  cases found with
  | none => trivial
  | some _ => exact ⟨trivial, fun _ => ⟨trivial, fun r => (Only.orFail r).bind (fun _ => ⟨trivial, fun _ => trivial⟩)⟩⟩

theorem ensures_consolidateHosts_located (h : db.Located P) (daemon : Uuid → Except Error Bool)
    (destination other : Host) :
    Ensures dbStep may (fun _ t => t.Located P) (consolidateHosts daemon destination other) db := by
  unfold consolidateHosts
  split_ifs
  · exact h
  · apply Ensures.bind
    refine ensures_refuseDaemon (fun _ => h) ?_
    apply ensures_acquire
    apply Ensures.bind
    refine (ensures_transferParts_located h destination other).imp ?_
    rintro (e | ⟨updated, interfaceIdMap, portIdMap⟩) t ht
    · exact ht
    · refine Db.Located.ensures ht ?_
      refine (only_transferServices destination other updated interfaceIdMap portIdMap).bind (fun _ => ?_)
      refine (only_deleteHost daemon other.id).bind (fun _ => ?_)
      refine ((touches_loadChildrenForHost (K := []) updated.id).locates (by simp)).bind (fun _ => ?_)
      exact ⟨trivial, fun _ => trivial⟩

end HostService

end VantageNet.Inventory
