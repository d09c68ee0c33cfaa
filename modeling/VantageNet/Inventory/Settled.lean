import VantageNet.Inventory.Syncing

/-!
Whether a host has, after an update, the ids and the positions that were asked for.
-/

namespace VantageNet.Inventory

open Interaction Interaction.Program

/-- The host has the ids of the request, and its interfaces and services are at the positions that were resolved. -/
structure UpdatedAsAsked (request : UpdateHostRequest) (interfaces : List InterfaceInput) (services : List ServiceInput)
    (t : Db) : Prop where
  interfaceIds : ∀ id, id ∈ t.idsOf .interface Interface.place request.id ↔
    id ∈ request.interfaces.map InterfaceInput.id
  portIds : ∀ id, id ∈ t.idsOf .port Port.place request.id ↔ id ∈ request.ports.map PortInput.id
  serviceIds : ∀ id, id ∈ t.idsOf .service Service.place request.id ↔ id ∈ request.services.map ServiceInput.id
  interfacePositions : ∀ i ∈ t.interfaces.rows, i.base.hostId = request.id → ∀ x ∈ interfaces, x.id = i.id →
    x.position = some i.base.position
  servicePositions : ∀ s ∈ t.services.rows, s.base.hostId = request.id → ∀ x ∈ services, x.id = s.id →
    x.position = some s.base.position

/-- What is new has an id, no id is asked for at two positions, and every new service is asked for at the number of
services that the host has when it is created. -/
structure InOrder (db : Db) (request : UpdateHostRequest) (interfaces : List InterfaceInput)
    (services : List ServiceInput) : Prop where
  interfaceIds : ∀ x ∈ request.interfaces, x.id = Uuid.nil → x.id ∈ db.idsOf .interface Interface.place request.id
  portIds : ∀ x ∈ request.ports, x.id = Uuid.nil → x.id ∈ db.idsOf .port Port.place request.id
  serviceIds : ∀ x ∈ request.services, x.id = Uuid.nil → x.id ∈ db.idsOf .service Service.place request.id
  interfacesAgree : Agree (interfaces.map InterfaceInput.entry)
  servicesAgree : Agree (services.map ServiceInput.entry)
  numbered : ∀ x ∈ services, ∀ n, (x.id, n) ∈ entered (db.keptIds .service Service.place request.id
    (request.services.map ServiceInput.id)) (request.services.map ServiceInput.id) → x.position = some n

/-- `new_v4` does not answer with the nil id. -/
def nonNil : Db → (o : DbOp) → o.Reply → Prop
  | _, .newV4, id => id ≠ Uuid.nil
  | _, _, _ => True

section frames

variable {k : Kind} {place : Row k → Uuid × ℤ} {hostId : Uuid} {s t : Db}

theorem Db.idsOf_congr (h : t.table k = s.table k) : t.idsOf k place hostId = s.idsOf k place hostId := by
  rw [Db.idsOf, Db.idsOf, h]

theorem Db.keptIds_congr (h : t.table k = s.table k) (asked : List Uuid) :
    t.keptIds k place hostId asked = s.keptIds k place hostId asked := by
  rw [Db.keptIds, Db.keptIds, Db.idsOf_congr h]

theorem Db.positionsOf_congr (h : t.table k = s.table k) :
    t.positionsOf k place hostId = s.positionsOf k place hostId := by
  rw [Db.positionsOf, Db.positionsOf, h]

theorem Db.places_congr (h : t.table k = s.table k) : Db.Places k place hostId t = Db.Places k place hostId s := by
  funext id p
  rw [Db.Places, Db.Places, h]

theorem mem_of_keptIds {asked : List Uuid} {id : Uuid} (h : id ∈ s.keptIds k place hostId asked) : id ∈ asked :=
  List.contains_iff_mem.mp (List.mem_filter.mp h).2

theorem Synced.congr {known kept : List Uuid} {entries : List (Uuid × ℤ)} (h : Synced k place hostId known kept entries s)
    (ht : t.table k = s.table k) : Synced k place hostId known kept entries t := by
  have hplaces : Db.Places k place hostId t = Db.Places k place hostId s := Db.places_congr ht
  constructor
  · rw [hplaces]
    exact h.written
  · rw [hplaces]
    exact h.named

end frames

/-- What the three parts of an update have written. -/
structure Updated (db : Db) (request : UpdateHostRequest) (interfaces : List InterfaceInput)
    (services : List ServiceInput) (t : Db) : Prop where
  resolvedInterfaces : db.resolvedInterfaces request.id request.interfaces = .ok interfaces
  resolvedServices : db.resolvedServices request.id request.services = .ok services
  writtenInterfaces : Synced .interface Interface.place request.id (db.idsOf .interface Interface.place request.id)
    (db.keptIds .interface Interface.place request.id (request.interfaces.map InterfaceInput.id))
    (interfaces.map InterfaceInput.entry) t
  writtenPorts : Synced .port Port.place request.id (db.idsOf .port Port.place request.id)
    (db.keptIds .port Port.place request.id (request.ports.map PortInput.id)) (request.ports.map PortInput.entry) t
  writtenServices : SyncedServices request.id (db.idsOf .service Service.place request.id)
    (db.keptIds .service Service.place request.id (request.services.map ServiceInput.id))
    (services.map ServiceInput.entry) t

section updated

variable {may : Db → (o : DbOp) → o.Reply → Prop} {db : Db}

theorem returns_hostUpdate (updates : Host) : Returns dbStep may
    (fun updated t => updated.id = updates.id ∧ db.SameBut [.host] t) (HostService.update updates) db := by
  apply ensures_acquire
  apply Ensures.bind
  refine ensures_getById (k := .host) (fun _ _ h => (nomatch h)) ?_
  cases (db.table .host).rows.find? (fun r => r.id = updates.id) with
  | none => exact Returns.fail _
  | some existing =>
    refine Returns.bind (q := fun updated t => updated.id = updates.id ∧ db.SameBut [.host] t) ?_
      (fun updated t h => ensures_release (Returns.ret h))
    refine ensures_update (k := .host) (fun _ _ h => (nomatch h)) ?_ ?_
    · rintro now - updated ⟨⟩
      exact ⟨rfl, .refl _ _⟩
    · rintro now hapart - - updated ⟨⟩
      exact ⟨rfl, .withTable (by simp) _⟩

theorem returns_updateFromRequest (hnew : ∀ s id, may s .newV4 id → id ≠ Uuid.nil) (request : UpdateHostRequest) :
    Returns dbStep may (fun _ t => ∃ interfaces services, Updated db request interfaces services t)
      (HostService.updateFromRequest request) db := by
  apply Ensures.bind
  refine ensures_getById (k := .host) (fun _ _ h => (nomatch h)) ?_
  cases (db.table .host).rows.find? (fun r => r.id = request.id) with
  | none => exact Returns.fail _
  | some existing =>
    change Returns dbStep may _
      (if HostService.modifiedSince request.expectedUpdatedAt existing.updatedAt = true then _ else _) db
    split_ifs
    · exact Returns.fail _
    refine Returns.bind (returns_hostUpdate (HostService.requestedHost request existing)) ?_
    rintro updated s ⟨hid, hs⟩
    have hid : updated.id = request.id := hid
    rw [hid]
    refine Returns.bind (q := fun _ t => ∃ interfaces services, Updated db request interfaces services t) ?_
      (fun _ _ h => Returns.ret h)
    refine Returns.bind ((returns_syncInterfaces hnew request.id existing.base.networkId request.interfaces).and
      ((HostService.touches_syncInterfaces _ _ _).returns s)) ?_
    rintro _ t ⟨⟨interfaces, hinterfaces, htinterfaces⟩, ht⟩
    refine Returns.bind ((returns_syncPorts hnew request.id existing.base.networkId request.ports).and
      ((HostService.touches_syncPorts _ _ _).returns t)) ?_
    rintro _ u ⟨huports, hu⟩
    refine Returns.bind ((returns_syncServices hnew request.id existing.base.networkId request.services).and
      ((HostService.touches_syncServices _ _ _).returns u)) ?_
    rintro _ v ⟨⟨services, hservices, hvservices⟩, hv⟩
    refine ((HostService.touches_loadChildrenForHost (K := []) request.id).returns v).imp (fun _ w hw => ?_)
    rw [hw.eq]
    have hsinterfaces : s.table .interface = db.table .interface := hs .interface (by simp)
    have htports : t.table .port = db.table .port := (ht .port (by simp)).trans (hs .port (by simp))
    have huservices : u.table .service = db.table .service :=
      (hu .service (by simp)).trans ((ht .service (by simp)).trans (hs .service (by simp)))
    have huinterfaces : v.table .interface = t.table .interface :=
      (hv .interface (by simp)).trans (hu .interface (by simp))
    have hvports : v.table .port = u.table .port := hv .port (by simp)
    rw [Db.resolvedInterfaces, Db.positionsOf_congr hsinterfaces] at hinterfaces
    rw [Db.resolvedServices, Db.positionsOf_congr huservices] at hservices
    rw [Db.idsOf_congr hsinterfaces, Db.keptIds_congr hsinterfaces] at htinterfaces
    rw [Db.idsOf_congr htports, Db.keptIds_congr htports] at huports
    rw [Db.idsOf_congr huservices, Db.keptIds_congr huservices] at hvservices
    exact ⟨interfaces, services, hinterfaces, hservices, htinterfaces.congr huinterfaces, huports.congr hvports, hvservices⟩

end updated

section exact

variable {k : Kind} {place : Row k → Uuid × ℤ} {hostId : Uuid} {known : List Uuid} {entries : List (Uuid × ℤ)}
  {s t : Db} {ι : Type} {xs : List ι} {key : ι → Uuid}

/-- A nil id that is asked for is the host's already. -/
theorem nil_known (hasked : entries.map Prod.fst = xs.map key) (hall : ∀ x ∈ xs, key x = Uuid.nil → key x ∈ known) :
    ∀ e ∈ entries, e.1 = Uuid.nil → Uuid.nil ∈ known := by
  intro e he hnil
  obtain ⟨x, hx, hid⟩ := List.mem_map.mp (hasked ▸ List.mem_map_of_mem (f := Prod.fst) he)
  have hknown := hall x hx (hid.trans hnil)
  rwa [hid, hnil] at hknown

theorem ids_iff (hasked : entries.map Prod.fst = xs.map key)
    (hkeys : (∀ e ∈ entries, e.1 = Uuid.nil → Uuid.nil ∈ known) → ∀ id, (∃ p, Db.Places k place hostId t id p) ↔
      id ∈ s.keptIds k place hostId (xs.map key) ∨ id ∈ entries.map Prod.fst)
    (hnamed : Uuid.nil ∉ known → ∀ p, ¬ Db.Places k place hostId t Uuid.nil p) :
    (∀ id, id ∈ t.idsOf k place hostId ↔ id ∈ xs.map key) ↔ ∀ x ∈ xs, key x = Uuid.nil → key x ∈ known := by
  constructor
  · intro hids x hx hnil
    by_contra hnot
    obtain ⟨p, hp⟩ := mem_idsOf.mp ((hids (key x)).mpr (List.mem_map_of_mem hx))
    rw [hnil] at hnot hp
    exact hnamed hnot p hp
  · intro hall id
    rw [mem_idsOf, hkeys (nil_known hasked hall), hasked]
    exact ⟨fun hor => hor.elim mem_of_keptIds (fun h => h), .inr⟩

theorem positions_iff (place : Row k → Uuid × ℤ) {position : ι → Option ℤ}
    (hsome : ∀ x ∈ xs, (position x).isSome = true) :
    (∀ r ∈ (t.table k).rows, (place r).1 = hostId → ∀ x ∈ xs, key x = r.id → position x = some (place r).2) ↔
      ∀ id p, Db.Places k place hostId t id p →
        ∀ e ∈ xs.map (fun x => (key x, (position x).getD 0)), e.1 = id → e.2 = p := by
  constructor
  · rintro h id p ⟨r, hr, rfl, hplace⟩ e he hid
    obtain ⟨x, hx, rfl⟩ := List.mem_map.mp he
    have hposition := h r hr (congrArg Prod.fst hplace) x hx hid
    change (position x).getD 0 = p
    rw [hposition, hplace]
    rfl
  · intro h r hr hhost x hx hid
    obtain ⟨p, hp⟩ := Option.isSome_iff_exists.mp (hsome x hx)
    have hexact := h r.id (place r).2 ⟨r, hr, rfl, Prod.ext hhost rfl⟩ _ (List.mem_map_of_mem hx) hid
    rw [← hexact, hp]
    rfl

end exact

namespace Updated

variable {db t : Db} {request : UpdateHostRequest} {interfaces : List InterfaceInput} {services : List ServiceInput}

theorem interfaceKeys (h : Updated db request interfaces services t) :
    (interfaces.map InterfaceInput.entry).map Prod.fst = request.interfaces.map InterfaceInput.id :=
  (List.map_map ..).trans (ids_of_resolvedInterfaces h.resolvedInterfaces)

theorem serviceKeys (h : Updated db request interfaces services t) :
    (services.map ServiceInput.entry).map Prod.fst = request.services.map ServiceInput.id :=
  (List.map_map ..).trans (ids_of_resolvedServices h.resolvedServices)

theorem interfaceIds_iff (h : Updated db request interfaces services t) :
    (∀ id, id ∈ t.idsOf .interface Interface.place request.id ↔ id ∈ request.interfaces.map InterfaceInput.id) ↔
      ∀ x ∈ request.interfaces, x.id = Uuid.nil → x.id ∈ db.idsOf .interface Interface.place request.id :=
  ids_iff h.interfaceKeys (fun hids => (h.writtenInterfaces.written hids).keys) h.writtenInterfaces.named

theorem portIds_iff (h : Updated db request interfaces services t) :
    (∀ id, id ∈ t.idsOf .port Port.place request.id ↔ id ∈ request.ports.map PortInput.id) ↔
      ∀ x ∈ request.ports, x.id = Uuid.nil → x.id ∈ db.idsOf .port Port.place request.id :=
  ids_iff (List.map_map ..) (fun hids => (h.writtenPorts.written hids).keys) h.writtenPorts.named

theorem serviceIds_iff (h : Updated db request interfaces services t) :
    (∀ id, id ∈ t.idsOf .service Service.place request.id ↔ id ∈ request.services.map ServiceInput.id) ↔
      ∀ x ∈ request.services, x.id = Uuid.nil → x.id ∈ db.idsOf .service Service.place request.id :=
  ids_iff h.serviceKeys (fun hids => (h.writtenServices.counted hids).keys) h.writtenServices.named

/-- The positions are those that were resolved where every new service is asked for at its number. -/
theorem servicePositions_iff (h : Updated db request interfaces services t)
    (hids : ∀ x ∈ request.services, x.id = Uuid.nil → x.id ∈ db.idsOf .service Service.place request.id) :
    (∀ s ∈ t.services.rows, s.base.hostId = request.id → ∀ x ∈ services, x.id = s.id →
        x.position = some s.base.position) ↔
      Agree (services.map ServiceInput.entry) ∧ ∀ x ∈ services, ∀ n,
        (x.id, n) ∈ entered (db.keptIds .service Service.place request.id (request.services.map ServiceInput.id))
          (request.services.map ServiceInput.id) → x.position = some n := by
  have hsome := isSome_of_resolvedServices h.resolvedServices
  have hcounted := h.writtenServices.counted (nil_known h.serviceKeys hids)
  refine (positions_iff (k := .service) Service.place hsome).trans (hcounted.exact_iff.trans ?_)
  rw [h.serviceKeys, List.forall_mem_map]
  refine and_congr_right (fun _ => forall₂_congr (fun x hx => forall_congr' (fun n => imp_congr_right (fun _ => ?_))))
  obtain ⟨p, hp⟩ := Option.isSome_iff_exists.mp (hsome x hx)
  rw [ServiceInput.entry, hp, Option.some_inj]
  rfl

theorem interfacePositions_iff (h : Updated db request interfaces services t)
    (hids : ∀ x ∈ request.interfaces, x.id = Uuid.nil → x.id ∈ db.idsOf .interface Interface.place request.id) :
    (∀ i ∈ t.interfaces.rows, i.base.hostId = request.id → ∀ x ∈ interfaces, x.id = i.id →
        x.position = some i.base.position) ↔ Agree (interfaces.map InterfaceInput.entry) := by
  have hsome := isSome_of_resolvedInterfaces h.resolvedInterfaces
  have hwritten := h.writtenInterfaces.written (nil_known h.interfaceKeys hids)
  exact (positions_iff (k := .interface) Interface.place hsome).trans hwritten.exact_iff

theorem inOrder_iff (h : Updated db request interfaces services t) :
    UpdatedAsAsked request interfaces services t ↔ InOrder db request interfaces services := by
  constructor
  · intro hasked
    have hinterfaces := h.interfaceIds_iff.mp hasked.interfaceIds
    have hservices := h.serviceIds_iff.mp hasked.serviceIds
    obtain ⟨hagree, hnumbered⟩ := (h.servicePositions_iff hservices).mp hasked.servicePositions
    exact ⟨hinterfaces, h.portIds_iff.mp hasked.portIds, hservices,
      (h.interfacePositions_iff hinterfaces).mp hasked.interfacePositions, hagree, hnumbered⟩
  · intro horder
    exact ⟨h.interfaceIds_iff.mpr horder.interfaceIds, h.portIds_iff.mpr horder.portIds,
      h.serviceIds_iff.mpr horder.serviceIds,
      (h.interfacePositions_iff horder.interfaceIds).mpr horder.interfacesAgree,
      (h.servicePositions_iff horder.serviceIds).mpr ⟨horder.servicesAgree, horder.numbered⟩⟩

end Updated

instance : (s : Db) → (o : DbOp) → (r : o.Reply) → Decidable (nonNil s o r)
  | _, .newV4, _ => inferInstanceAs (Decidable (_ ≠ _))
  | _, .acquire _, _ | _, .release _, _ | _, .utcNow, _ | _, .get _ _, _ | _, .list _ _ _, _ | _, .create _ _, _
  | _, .update _ _, _ | _, .delete _ _, _ => .isTrue trivial

instance (db : Db) (request : UpdateHostRequest) (interfaces : List InterfaceInput) (services : List ServiceInput) :
    Decidable (InOrder db request interfaces services) :=
  decidable_of_iff ((∀ x ∈ request.interfaces, x.id = Uuid.nil → x.id ∈ db.idsOf .interface Interface.place request.id) ∧
      (∀ x ∈ request.ports, x.id = Uuid.nil → x.id ∈ db.idsOf .port Port.place request.id) ∧
      (∀ x ∈ request.services, x.id = Uuid.nil → x.id ∈ db.idsOf .service Service.place request.id) ∧
      (∀ a ∈ interfaces.map InterfaceInput.entry, ∀ b ∈ interfaces.map InterfaceInput.entry, a.1 = b.1 → a.2 = b.2) ∧
      (∀ a ∈ services.map ServiceInput.entry, ∀ b ∈ services.map ServiceInput.entry, a.1 = b.1 → a.2 = b.2) ∧
      ∀ x ∈ services, ∀ e ∈ entered (db.keptIds .service Service.place request.id
        (request.services.map ServiceInput.id)) (request.services.map ServiceInput.id), e.1 = x.id → x.position = some e.2)
    ⟨fun ⟨hinterfaces, hports, hservices, hagree, hagree', hnumbered⟩ => ⟨hinterfaces, hports, hservices, hagree, hagree',
        fun x hx _ hn => hnumbered x hx _ hn rfl⟩,
      fun h => ⟨h.interfaceIds, h.portIds, h.serviceIds, h.interfacesAgree, h.servicesAgree,
        fun x hx e he hid => h.numbered x hx e.2 (hid ▸ he)⟩⟩

/-- An update writes what was asked for exactly where the request is in order. -/
theorem updateFromRequest_written_iff (db : Db) (ω : Oracle dbSig) (request : UpdateHostRequest)
    (hnew : Answered dbStep nonNil ω 0 (HostService.updateFromRequest request) db) (res : HostResponse)
    (hres : (run dbStep ω 0 (HostService.updateFromRequest request) db).result = .ok res) :
    ∃ interfaces services, db.resolvedInterfaces request.id request.interfaces = .ok interfaces ∧
      db.resolvedServices request.id request.services = .ok services ∧
      (UpdatedAsAsked request interfaces services (run dbStep ω 0 (HostService.updateFromRequest request) db).state ↔
        InOrder db request interfaces services) := by
  obtain ⟨interfaces, services, h⟩ := (returns_updateFromRequest (fun _ _ hnew => hnew) request).run hnew hres
  exact ⟨interfaces, services, h.resolvedInterfaces, h.resolvedServices, h.inOrder_iff⟩

/-- The host 1 as `webHost` has it, with these services. -/
def hostOf (services : List ServiceInput) : UpdateHostRequest :=
  ⟨1, "web", none, none, none, false, [], none, [⟨2, 7, .v4 20, none, none, none⟩, ⟨3, 7, .v4 30, none, none, none⟩],
    [⟨4, 80, .tcp⟩, ⟨5, 443, .tcp⟩], services⟩

def serviceAt (id : Uuid) (position : Option ℤ) : ServiceInput := ⟨id, webServer, "web", [], none, [], position⟩

theorem updateFromRequest_written_second : ∃ res interfaces,
    (run dbStep (granted 8) 0 (HostService.updateFromRequest (hostOf [serviceAt 6 none, serviceAt 26 none]))
      (webHost .empty)).result = .ok res ∧
    UpdatedAsAsked (hostOf [serviceAt 6 none, serviceAt 26 none]) interfaces [serviceAt 6 (some 0), serviceAt 26 (some 1)]
      (run dbStep (granted 8) 0 (HostService.updateFromRequest (hostOf [serviceAt 6 none, serviceAt 26 none]))
        (webHost .empty)).state := by
  obtain ⟨interfaces, services, hinterfaces, hservices, hiff⟩ := updateFromRequest_written_iff (webHost .empty)
    (granted 8) (hostOf [serviceAt 6 none, serviceAt 26 none]) (by decide) _ rfl
  cases hinterfaces
  have hresolved : (webHost .empty).resolvedServices 1 [serviceAt 6 none, serviceAt 26 none] =
      .ok [serviceAt 6 (some 0), serviceAt 26 (some 1)] := by decide +kernel
  obtain rfl := Except.ok.inj (hservices.symm.trans hresolved)
  exact ⟨_, _, rfl, hiff.mpr (by decide)⟩

/-- A new service that is asked for before the stored one gets the number 1, where that one is moved. -/
theorem updateFromRequest_numbers : ∃ res interfaces services,
    (run dbStep (granted 8) 0 (HostService.updateFromRequest (hostOf [serviceAt 26 (some 0), serviceAt 6 (some 1)]))
      (webHost .empty)).result = .ok res ∧
    (webHost .empty).resolvedInterfaces 1 (hostOf []).interfaces = .ok interfaces ∧
    (webHost .empty).resolvedServices 1 [serviceAt 26 (some 0), serviceAt 6 (some 1)] = .ok services ∧
    ¬ UpdatedAsAsked (hostOf [serviceAt 26 (some 0), serviceAt 6 (some 1)]) interfaces services
      (run dbStep (granted 8) 0 (HostService.updateFromRequest (hostOf [serviceAt 26 (some 0), serviceAt 6 (some 1)]))
        (webHost .empty)).state := by
  refine ⟨_, _, _, rfl, rfl, rfl, fun h => ?_⟩
  have hpositions := h.servicePositions
  revert hpositions
  decide

end VantageNet.Inventory
