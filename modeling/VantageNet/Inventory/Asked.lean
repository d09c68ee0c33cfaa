import VantageNet.Inventory.Addressing
import VantageNet.Inventory.Positions
import VantageNet.Inventory.Requested

/-!
Whether the store holds what `create_from_request` was asked for.
-/

namespace VantageNet.Inventory

open Interaction Interaction.Program

section conditions

def InterfaceInput.sameCard (a b : InterfaceInput) : Bool := a.macAddress = b.macAddress && a.macAddress.isSome

/-- The input with the id is the first one on its network card. -/
def leads (inputs : List InterfaceInput) (id : Uuid) : Bool :=
  match inputs.find? (fun i => i.id = id) with
  | none => false
  | some i => (inputs.find? (fun other => other.id = id || other.sameCard i)).any (fun first => first.id = id)

/-- A reference to what is requested along with it, that no other one is taken for. -/
def CreateHostRequest.addresses (request : CreateHostRequest) : BindingType → Bool
  | .interface id => leads request.interfaces id
  | .port id interfaceId =>
    request.ports.any (fun p => p.id = id) && interfaceId.all (leads request.interfaces)

structure ServiceInput.Plain (request : CreateHostRequest) (input : ServiceInput) : Prop where
  id : input.id ≠ Uuid.nil
  bindingIds : ∀ b ∈ input.bindings, b.id ≠ Uuid.nil
  addressed : ∀ b ∈ input.bindings, request.addresses b.bindingType = true
  distinct : (input.bindings.map BindingInput.bindingType).Nodup
  uncovered : ∀ a ∈ input.bindings, ∀ b ∈ input.bindings, a.bindingType.covers b.bindingType = false

def ServiceInput.uncontended (a b : ServiceInput) : Prop :=
  ∀ x ∈ a.bindings, ∀ y ∈ b.bindings, contends x.bindingType y.bindingType = false

instance (a b : ServiceInput) : Decidable (a.uncontended b) :=
  inferInstanceAs (Decidable (∀ x ∈ a.bindings, ∀ y ∈ b.bindings, contends x.bindingType y.bindingType = false))

instance (request : CreateHostRequest) (input : ServiceInput) : Decidable (input.Plain request) :=
  decidable_of_iff (input.id ≠ Uuid.nil ∧ (∀ b ∈ input.bindings, b.id ≠ Uuid.nil) ∧
      (∀ b ∈ input.bindings, request.addresses b.bindingType = true) ∧
      (input.bindings.map BindingInput.bindingType).Nodup ∧
      ∀ a ∈ input.bindings, ∀ b ∈ input.bindings, a.bindingType.covers b.bindingType = false)
    ⟨fun ⟨hid, hbindingIds, haddressed, hdistinct, huncovered⟩ =>
        ⟨hid, hbindingIds, haddressed, hdistinct, huncovered⟩,
      fun h => ⟨h.id, h.bindingIds, h.addressed, h.distinct, h.uncovered⟩⟩

/-- Ids for everything, references within the request, and no two bindings on one port. -/
structure CreateHostRequest.Plain (request : CreateHostRequest) : Prop where
  interfaceIds : ∀ i ∈ request.interfaces, i.id ≠ Uuid.nil
  portIds : ∀ p ∈ request.ports, p.id ≠ Uuid.nil
  services : ∀ s ∈ request.services, s.Plain request
  distinct : request.services.Pairwise (fun a b => a.id ≠ b.id)
  uncontended : request.services.Pairwise ServiceInput.uncontended

instance (request : CreateHostRequest) : Decidable request.Plain :=
  decidable_of_iff ((∀ i ∈ request.interfaces, i.id ≠ Uuid.nil) ∧ (∀ p ∈ request.ports, p.id ≠ Uuid.nil) ∧
      (∀ s ∈ request.services, s.Plain request) ∧ request.services.Pairwise (fun a b => a.id ≠ b.id) ∧
      request.services.Pairwise ServiceInput.uncontended)
    ⟨fun ⟨hinterfaceIds, hportIds, hservices, hdistinct, huncontended⟩ =>
        ⟨hinterfaceIds, hportIds, hservices, hdistinct, huncontended⟩,
      fun h => ⟨h.interfaceIds, h.portIds, h.services, h.distinct, h.uncontended⟩⟩

/-- The host has what the request lists, every service with its bindings, and no more. -/
structure WrittenAsAsked (request : CreateHostRequest) (hostId : Uuid) (t : Db) : Prop where
  interfaces : Exactly (fun i row => row.id = i.id ∧ i.describes hostId request.networkId row.base) request.interfaces
    (t.interfaces.rows.filter (fun i => i.base.hostId = hostId))
  ports : Exactly (fun p row => row.id = p.id ∧ p.describes hostId request.networkId row.base) request.ports
    (t.ports.rows.filter (fun p => p.base.hostId = hostId))
  services : Exactly (fun s row => row.id = s.id ∧ s.describes hostId request.networkId row.base ∧
      Exactly (fun b row => row.id = b.id ∧ b.describes s.id request.networkId row.base) s.bindings
        (t.bindings.rows.filter (fun b => b.base.serviceId = s.id)))
    request.services (t.services.rows.filter (fun s => s.base.hostId = hostId))

/-- `new_v4` answers with an id that is nowhere in the store and none of a requested service. -/
def freshFor (request : CreateHostRequest) : Db → (o : DbOp) → o.Reply → Prop
  | db, .newV4, id => (id ≠ Uuid.nil ∧ ∀ s ∈ request.services, id ≠ s.id) ∧ db.Unused id
  | _, _, _ => True

def CreateHostRequest.freshId (request : CreateHostRequest) (id : Uuid) : Prop :=
  id ≠ Uuid.nil ∧ ∀ s ∈ request.services, id ≠ s.id

end conditions

/-- How the store got what it holds of the request, from `s` over `u`, where host, interfaces and ports are stored. -/
structure Enacted (request : CreateHostRequest) (s : Db) (host : Host) (t : Db) where
  interfaces : List Interface
  ports : List Port
  services : List Service
  is : List Interface
  ps : List Port
  entries : List (Option (Service × List Binding))
  extra : List Service
  extraBindings : List Binding
  u : Db
  network : host.base.networkId = request.networkId
  unused : s.Unused host.id
  madeInterfaces : List.Forall₂ (MadeFor InterfaceInput.id (InterfaceInput.describes host.id request.networkId))
    request.interfaces interfaces
  madePorts : List.Forall₂ (MadeFor PortInput.id (PortInput.describes host.id request.networkId)) request.ports ports
  madeServices : List.Forall₂ (fun input service =>
      MadeFor ServiceInput.id (ServiceInput.describes host.id request.networkId) input service ∧
      List.Forall₂ (MadeFor BindingInput.id (BindingInput.describes input.id request.networkId)) input.bindings
        service.base.bindings) request.services services
  parts : PartsEntered request.freshId s host interfaces ports host is ps u
  built : Built request.freshId u host.id (services.map (reassignedService interfaces is ports ps host)) entries extra
    extraBindings t

section enacted

variable {request : CreateHostRequest} {s t : Db} {host : Host}

theorem madeFor_of_resolved {ι β : Type} {id : ι → Uuid} {base : ι → β → Prop} {setPosition : ι → ℤ → ι}
    {x y : ι} {e : Entity β} (hxy : Resolved setPosition x y) (h : MadeFor id base y e)
    (hid : ∀ p, id (setPosition x p) = id x) (hbase : ∀ p b, base (setPosition x p) b → base x b) :
    MadeFor id base x e := by
  rcases hxy with rfl | ⟨p, rfl⟩
  · exact h
  · exact ⟨h.id.trans (hid p), hbase p _ h.base⟩

theorem returns_intoEntities (request : CreateHostRequest) (interfaceInputs : List InterfaceInput)
    (serviceInputs : List ServiceInput) : Returns dbStep (freshFor request) (fun entities t => t = s ∧
        entities.1.base.networkId = request.networkId ∧ (request.freshId entities.1.id ∧ s.Unused entities.1.id) ∧
        List.Forall₂ (MadeFor InterfaceInput.id (InterfaceInput.describes entities.1.id request.networkId))
          interfaceInputs entities.2.1 ∧
        List.Forall₂ (MadeFor PortInput.id (PortInput.describes entities.1.id request.networkId)) request.ports
          entities.2.2.1 ∧
        List.Forall₂ (fun input service =>
          MadeFor ServiceInput.id (ServiceInput.describes entities.1.id request.networkId) input service ∧
          List.Forall₂ (MadeFor BindingInput.id (BindingInput.describes input.id request.networkId)) input.bindings
            service.base.bindings) serviceInputs entities.2.2.2)
      (HostService.intoEntities request interfaceInputs serviceInputs) s := by
  unfold HostService.intoEntities
  apply Ensures.bind
  apply ensures_newEntity
  intro id now hid
  refine Returns.bind (returns_made (fun i => returns_intoInterface i id request.networkId) interfaceInputs) ?_
  rintro interfaces t ⟨rfl, hinterfaces⟩
  refine Returns.bind (returns_made (fun p => returns_intoPort p id request.networkId) request.ports) ?_
  rintro ports t ⟨rfl, hports⟩
  refine Returns.bind (Returns.collect (fun done out u => u = t ∧ List.Forall₂ (fun input service =>
    MadeFor ServiceInput.id (ServiceInput.describes id request.networkId) input service ∧
    List.Forall₂ (MadeFor BindingInput.id (BindingInput.describes input.id request.networkId)) input.bindings
      service.base.bindings) done out) serviceInputs ?_ ⟨rfl, .nil⟩) ?_
  · rintro done x rest - out u ⟨rfl, hout⟩
    exact (returns_intoService x id request.networkId).imp
      (fun service u ⟨hu, hservice⟩ => ⟨hu, List.rel_append hout (.cons hservice .nil)⟩)
  · rintro services u ⟨rfl, hservices⟩
    exact Returns.ret ⟨rfl, rfl, hid, hinterfaces, hports, hservices⟩

theorem returns_createFromRequest (howned : s.Owned)
    (hdistinct : request.services.Pairwise (fun a b => a.id ≠ b.id)) :
    Returns dbStep (freshFor request) (fun res t => Nonempty (Enacted request s res.host t))
      (HostService.createFromRequest request) s := by
  have hnew : ∀ t id, freshFor request t .newV4 id → request.freshId id ∧ t.Unused id := fun _ _ h => h
  have hnil : ¬ request.freshId Uuid.nil := fun h => h.1 rfl
  unfold HostService.createFromRequest
  apply Ensures.bind
  refine ensures_orFail ?_
  cases hinterfaces : resolveAndValidateInputPositions InterfaceInput.id InterfaceInput.position
    (fun i p => { i with position := some p }) request.interfaces [] "interface" with
  | error e => exact fun _ h => (nomatch h)
  | ok interfaceInputs =>
    apply Ensures.bind
    refine ensures_orFail ?_
    cases hservices : resolveAndValidateInputPositions ServiceInput.id ServiceInput.position
      (fun s p => { s with position := some p }) request.services [] "service" with
    | error e => exact fun _ h => (nomatch h)
    | ok serviceInputs =>
      have hinterfaceInputs := resolveAndValidateInputPositions_resolved hinterfaces
      have hserviceInputs := resolveAndValidateInputPositions_resolved hservices
      refine Returns.bind (returns_intoEntities request interfaceInputs serviceInputs) ?_
      rintro ⟨host, interfaces, ports, services⟩ t ⟨rfl, hnetwork, ⟨hid, hunused⟩, hmade, hports, hmadeServices⟩
      refine Returns.bind ((returns_createParts_error (fun t id h => (hnew t id h).1) hid.1 hunused interfaces
        ports).and (Returns.invariant (fun _ o r h => h.dbStep o r) _ howned)) ?_
      rintro ⟨created, is, ps⟩ u ⟨hparts, huowned⟩
      obtain rfl := hparts.same
      have huservices : u.services = t.services := hparts.frame .service (by simp)
      have hforeign : ∀ r ∈ u.services.rows, r.base.hostId ≠ created.id := by
        rw [huservices]
        exact fun r hr => (hunused.services r hr).2
      have hasked : List.Forall₂ (fun input service =>
          MadeFor ServiceInput.id (ServiceInput.describes created.id request.networkId) input service ∧
          List.Forall₂ (MadeFor BindingInput.id (BindingInput.describes input.id request.networkId)) input.bindings
            service.base.bindings) request.services services := by
        refine (forall₂_comp hserviceInputs hmadeServices).imp (fun x e ⟨y, hxy, hye, hbindings⟩ => ?_)
        refine ⟨madeFor_of_resolved hxy hye (fun _ => rfl) (fun _ _ h => h), ?_⟩
        rcases hxy with rfl | ⟨p, rfl⟩
        · exact hbindings
        · exact hbindings
      have hbatch : Batchable request.freshId services := by
        refine ⟨fun z hz => ?_, ?_, fun z hz hnew => ?_⟩
        · obtain ⟨input, -, hmade, -⟩ := exists_left_of_forall₂ hasked hz
          rw [hmade.base]
          rfl
        · exact (Exactly.of_forall₂ hasked.flip).pairwise_ne (fun e x h => h.1.id.symm) hdistinct
        · obtain ⟨input, hinput, hmade, -⟩ := exists_left_of_forall₂ hasked hz
          exact hnew.2 input hinput hmade.id
      refine Returns.bind (returns_createServices hnew hnil huowned hforeign hbatch) ?_
      rintro stored v ⟨entries, extra, extraBindings, hbuilt⟩
      refine Returns.ret ⟨⟨interfaces, ports, services, is, ps, entries, extra, extraBindings, u, hnetwork, hunused,
        ?_, hports, hasked, hparts, hbuilt⟩⟩
      refine (forall₂_comp hinterfaceInputs hmade).imp (fun x e ⟨y, hxy, hye⟩ => ?_)
      exact madeFor_of_resolved hxy hye (fun _ => rfl) (fun _ _ h => h)

/-- A row that holds what an input describes, under the input's id if it has one. -/
structure StoredFor {ι β : Type} (new : Uuid → Prop) (id : ι → Uuid) (base : ι → β → Prop) (input : ι) (row : Entity β) :
    Prop where
  named : id input ≠ Uuid.nil → row.id = id input
  fresh : id input = Uuid.nil → new row.id
  base : base input row.base

section exactly

variable {ι β : Type} {new : Uuid → Prop} {id : ι → Uuid} {base : ι → β → Prop} {inputs : List ι}
  {rows : List (Entity β)}

theorem ids_of_exactly (hnil : ¬ new Uuid.nil) (h : List.Forall₂ (StoredFor new id base) inputs rows)
    {R : ι → Entity β → Prop} (hR : ∀ x row, R x row → row.id = id x) (hexactly : Exactly R inputs rows) :
    ∀ x ∈ inputs, id x ≠ Uuid.nil := by
  intro x hx hxnil
  obtain ⟨row, hrow, hxrow⟩ := hexactly.exists_right hx
  have hid := hR x row hxrow
  obtain ⟨y, -, hy⟩ := exists_left_of_forall₂ h hrow
  by_cases hynil : id y = Uuid.nil
  · exact hnil (hxnil ▸ hid ▸ hy.fresh hynil)
  · exact hynil ((hy.named hynil).symm.trans (hid.trans hxnil))

theorem exactly_iff (hnil : ¬ new Uuid.nil) (h : List.Forall₂ (StoredFor new id base) inputs rows) :
    Exactly (fun x row => row.id = id x ∧ base x row.base) inputs rows ↔ ∀ x ∈ inputs, id x ≠ Uuid.nil := by
  constructor
  · exact ids_of_exactly hnil h (fun _ _ hrow => hrow.1)
  · intro hids
    have hrows := (List.forall₂_and_left _ _).mpr ⟨hids, h⟩
    exact .of_forall₂ (hrows.imp (fun x row ⟨hx, hrow⟩ => ⟨hrow.named hx, hrow.base⟩))

end exactly

theorem storedFor_of_entered {ι β : Type} {new : Uuid → Prop} {id : ι → Uuid} {base : ι → β → Prop} {x : ι}
    {placed row : Entity β} (h : Entered new placed row) (hid : placed.id = id x) (hbase : base x placed.base) :
    StoredFor new id base x row := by
  refine ⟨fun hne => ?_, fun heq => h.fresh (hid.trans heq), h.base ▸ hbase⟩
  rw [h.id (hid ▸ hne), hid]

section bindings

variable {interfaces is : List Interface} {ports ps : List Port}

theorem reassignBinding_eq_self_iff {c : Binding} : reassignBinding interfaces is ports ps c = some c ↔
    reassignType interfaces is ports ps c.base.bindingType = some c.base.bindingType := by
  unfold reassignBinding
  cases reassignType interfaces is ports ps c.base.bindingType with
  | none => simp
  | some type =>
    rw [Option.map_some, Option.some_inj, Option.some_inj]
    constructor
    · exact fun heq => congrArg (fun c : Binding => c.base.bindingType) heq
    · rintro rfl
      rfl

/-- The bindings that are left of a service: those with a reference, each once. -/
def keptBindings (interfaces is : List Interface) (ports ps : List Port) (bindings : List Binding) : List Binding :=
  deduplicateBindings (bindings.filterMap (reassignBinding interfaces is ports ps))

theorem keptBindings_of_length {cs : List Binding} (h : (keptBindings interfaces is ports ps cs).length = cs.length) :
    keptBindings interfaces is ports ps cs = cs.filterMap (reassignBinding interfaces is ports ps) ∧
      List.Forall₂ (fun c d => reassignBinding interfaces is ports ps c = some d) cs
        (cs.filterMap (reassignBinding interfaces is ports ps)) := by
  have hsublist := deduplicateFrom_sublist (allInterfacePortIds (cs.filterMap
    (reassignBinding interfaces is ports ps))) [] (cs.filterMap (reassignBinding interfaces is ports ps))
  have hle := List.length_filterMap_le (reassignBinding interfaces is ports ps) cs
  have hkept : keptBindings interfaces is ports ps cs = cs.filterMap (reassignBinding interfaces is ports ps) :=
    hsublist.eq_of_length_le (hle.trans h.ge)
  exact ⟨hkept, forall₂_filterMap (List.filterMap_length_eq_length.mp ((congrArg List.length hkept).symm.trans h))⟩

theorem keptBindings_eq_self_iff {cs : List Binding} : keptBindings interfaces is ports ps cs = cs ↔
    (∀ c ∈ cs, reassignBinding interfaces is ports ps c = some c) ∧ deduplicateBindings cs = cs := by
  constructor
  · intro h
    obtain ⟨hkept, hsome⟩ := keptBindings_of_length (congrArg List.length h)
    have hself : cs.filterMap (reassignBinding interfaces is ports ps) = cs := hkept.symm.trans h
    rw [hself] at hsome
    rw [keptBindings, hself] at h
    exact ⟨List.forall₂_same.mp hsome, h⟩
  · rintro ⟨hfixed, hdeduplicated⟩
    rw [keptBindings, List.filterMap_congr hfixed, List.filterMap_some, hdeduplicated]

theorem types_of_made {serviceId networkId : Uuid} {inputs : List BindingInput} {cs : List Binding}
    (h : List.Forall₂ (MadeFor BindingInput.id (BindingInput.describes serviceId networkId)) inputs cs) :
    cs.map (fun c => c.base.bindingType) = inputs.map BindingInput.bindingType := by
  induction h with
  | nil => rfl
  | cons hhead _ ih => rw [List.map_cons, List.map_cons, ih, hhead.base]

theorem forall_made {serviceId networkId : Uuid} {inputs : List BindingInput} {cs : List Binding}
    (h : List.Forall₂ (MadeFor BindingInput.id (BindingInput.describes serviceId networkId)) inputs cs)
    (P : BindingType → Prop) : (∀ c ∈ cs, P c.base.bindingType) ↔ ∀ b ∈ inputs, P b.bindingType := by
  rw [← List.forall_mem_map (f := fun c : Binding => c.base.bindingType), types_of_made h, List.forall_mem_map]

theorem bindings_exactly_iff {new : Uuid → Prop} (hnil : ¬ new Uuid.nil) {serviceId networkId : Uuid}
    {inputs : List BindingInput} {cs out : List Binding}
    (hmade : List.Forall₂ (MadeFor BindingInput.id (BindingInput.describes serviceId networkId)) inputs cs)
    (hout : List.Forall₂ (Entered new)
      ((keptBindings interfaces is ports ps cs).map (fun b => Binding.withService b serviceId networkId)) out)
    (hdistinct : out.Pairwise (fun a b => a.id ≠ b.id)) :
    Exactly (fun b row => row.id = b.id ∧ b.describes serviceId networkId row.base) inputs out ↔
      (∀ b ∈ inputs, b.id ≠ Uuid.nil) ∧ keptBindings interfaces is ports ps cs = cs := by
  have hout := List.forall₂_map_left_iff.mp hout
  constructor
  · intro hexactly
    have hlength : (keptBindings interfaces is ports ps cs).length = cs.length := by
      rw [hout.length_eq, ← hexactly.length_eq, hmade.length_eq]
    obtain ⟨hkept, hsome⟩ := keptBindings_of_length hlength
    rw [hkept] at hout
    have hstored : List.Forall₂ (StoredFor new BindingInput.id
        (fun b base => reassignType interfaces is ports ps b.bindingType = some base.bindingType)) inputs out := by
      refine (forall₂_comp hmade (forall₂_comp hsome hout)).imp ?_
      rintro b row ⟨c, hbc, d, hcd, hdrow⟩
      obtain ⟨type, htype, rfl⟩ := Option.map_eq_some_iff.mp hcd
      rw [hbc.base] at htype
      exact storedFor_of_entered hdrow hbc.id htype
    have hids := ids_of_exactly hnil hstored (fun _ _ hrow => hrow.1) hexactly
    have hfixed : ∀ c ∈ cs, reassignBinding interfaces is ports ps c = some c := by
      intro c hc
      obtain ⟨b, hb, hbc⟩ := exists_left_of_forall₂ hmade hc
      obtain ⟨row, hrow, hid, hbase⟩ := hexactly.exists_right hb
      obtain ⟨row', hrow', hstored⟩ := exists_right_of_forall₂ hstored hb
      have hnamed := hstored.named (hids b hb)
      have heq : row' = row := List.inj_on_of_nodup_map (List.pairwise_map.mpr hdistinct) hrow' hrow
        (hnamed.trans hid.symm)
      rw [reassignBinding_eq_self_iff, hbc.base, hstored.base, heq, hbase]
    refine ⟨hids, hkept.trans ?_⟩
    rw [List.filterMap_congr hfixed, List.filterMap_some]
  · rintro ⟨hids, hkept⟩
    rw [hkept] at hout
    refine (exactly_iff hnil ((forall₂_comp hmade hout).imp (fun b row ⟨c, hbc, hcrow⟩ => ?_))).mpr hids
    exact storedFor_of_entered hcrow hbc.id (by rw [BindingInput.describes, Binding.withService, hbc.base])

end bindings

namespace Enacted

theorem storedInterfaces (h : Enacted request s host t) : List.Forall₂
    (StoredFor request.freshId InterfaceInput.id (InterfaceInput.describes host.id request.networkId))
    request.interfaces h.is := by
  refine (forall₂_comp h.madeInterfaces (List.forall₂_map_left_iff.mp h.parts.interfaces)).imp ?_
  rintro x row ⟨e, hmade, hentered⟩
  refine storedFor_of_entered hentered hmade.id ?_
  rw [InterfaceInput.describes, Interface.onHost, hmade.base]

theorem storedPorts (h : Enacted request s host t) : List.Forall₂
    (StoredFor request.freshId PortInput.id (PortInput.describes host.id request.networkId)) request.ports h.ps := by
  refine (forall₂_comp h.madePorts (List.forall₂_map_left_iff.mp h.parts.ports)).imp ?_
  rintro x row ⟨e, hmade, hentered⟩
  refine storedFor_of_entered hentered hmade.id ?_
  rw [PortInput.describes, Port.withHost, hmade.base, h.network]

theorem interfaceRows (h : Enacted request s host t) :
    t.interfaces.rows.filter (fun i => i.base.hostId = host.id) = h.is := by
  have htable : t.interfaces = h.u.interfaces := h.built.frame .interface (by simp)
  rw [htable, h.parts.interfaceRows]
  refine filter_append_right (fun i hi => decide_eq_false (h.unused.interfaces i hi)) (fun i hi => ?_)
  obtain ⟨x, -, hx⟩ := exists_left_of_forall₂ h.storedInterfaces hi
  rw [hx.base]
  exact decide_eq_true rfl

theorem portRows (h : Enacted request s host t) :
    t.ports.rows.filter (fun p => p.base.hostId = host.id) = h.ps := by
  have htable : t.ports = h.u.ports := h.built.frame .port (by simp)
  rw [htable, h.parts.portRows]
  refine filter_append_right (fun p hp => decide_eq_false (h.unused.ports p hp)) (fun p hp => ?_)
  obtain ⟨x, -, hx⟩ := exists_left_of_forall₂ h.storedPorts hp
  rw [hx.base]
  exact decide_eq_true rfl

theorem mem_interfaces (h : Enacted request s host t) {i : Interface} (hi : i ∈ h.is) : i ∈ t.interfaces.rows :=
  (List.mem_filter.mp (h.interfaceRows.symm ▸ hi)).1

theorem mem_ports (h : Enacted request s host t) {p : Port} (hp : p ∈ h.ps) : p ∈ t.ports.rows :=
  (List.mem_filter.mp (h.portRows.symm ▸ hp)).1

theorem address_eq (h : Enacted request s host t) {x : InterfaceInput} {row : Interface} {base : InterfaceBase}
    (hx : x ∈ request.interfaces) (hrow : row ∈ h.is) (hbase : x.describes host.id request.networkId base)
    (heq : row.base.address = base.address) (hid : x.id ≠ Uuid.nil) : row.id = x.id := by
  obtain ⟨row', hrow', hstored⟩ := exists_right_of_forall₂ h.storedInterfaces hx
  obtain ⟨y, -, hy⟩ := exists_left_of_forall₂ h.storedInterfaces hrow
  have hclash : clash .interface row row' = true := by
    refine clash_interface.mpr ⟨?_, heq.trans ?_⟩
    · rw [hy.base, hstored.base]
    · rw [hbase, hstored.base]
      rfl
  rw [eq_of_clash (k := .interface) (h.mem_interfaces hrow) (h.mem_interfaces hrow') hclash, hstored.named hid]

theorem newInterface_rel (h : Enacted request s host t) (hids : ∀ i ∈ request.interfaces, i.id ≠ Uuid.nil)
    {x : InterfaceInput} {e : Interface} (hx : x ∈ request.interfaces)
    (hmade : MadeFor InterfaceInput.id (InterfaceInput.describes host.id request.networkId) x e) :
    Option.Rel (StoredFor request.freshId InterfaceInput.id (InterfaceInput.describes host.id request.networkId))
      (request.interfaces.find? (fun y => y.id = x.id || y.sameCard x)) (newInterface h.is e) := by
  refine find?_forall₂ h.storedInterfaces (fun y hy row hrow hstored => ?_)
  have hcard : row.base.macAddress = e.base.macAddress ∧ row.base.macAddress.isSome = true ↔ y.sameCard x = true := by
    rw [hstored.base, hmade.base]
    simp [InterfaceInput.sameCard]
  rw [Bool.eq_iff_iff, interface_eq_iff, Bool.or_eq_true, decide_eq_true_eq, hcard, hmade.id,
    hstored.named (hids y hy)]
  constructor
  · exact fun hor => .inr hor.symm
  · rintro (haddress | hor)
    · exact .inl ((hstored.named (hids y hy)).symm.trans (h.address_eq hx hrow hmade.base haddress (hids x hx)))
    · exact hor.symm

theorem leads_iff (h : Enacted request s host t) (hids : ∀ i ∈ request.interfaces, i.id ≠ Uuid.nil) (id : Uuid) :
    leads request.interfaces id = true ↔
      ((h.interfaces.find? (fun i => i.id = id)).bind (newInterface h.is)).map Entity.id = some id := by
  have hfound := find?_forall₂ (p := fun i => i.id = id) (q := fun i => i.id = id) h.madeInterfaces
    (fun x _ e _ hmade => by rw [hmade.id])
  unfold leads
  generalize hx : request.interfaces.find? (fun i => i.id = id) = found at hfound ⊢
  generalize h.interfaces.find? (fun i => i.id = id) = made at hfound ⊢
  cases hfound with
  | none => simp
  | @some x e hmade =>
    obtain rfl : x.id = id := by simpa using List.find?_some hx
    have hcard := h.newInterface_rel hids (List.mem_of_find?_eq_some hx) hmade
    simp only [Option.bind_some]
    generalize hy : request.interfaces.find? (fun y => y.id = x.id || y.sameCard x) = first at hcard ⊢
    generalize newInterface h.is e = stored at hcard ⊢
    cases hcard with
    | none => simp
    | @some y row hstored =>
      have hrow := hstored.named (hids y (List.mem_of_find?_eq_some hy))
      simp [hrow]

theorem newPort_iff (h : Enacted request s host t) (hids : ∀ p ∈ request.ports, p.id ≠ Uuid.nil) (id : Uuid) :
    request.ports.any (fun p => p.id = id) = true ↔ (newPort h.ports h.ps id).map Entity.id = some id := by
  have hfound := find?_forall₂ (p := fun p => p.id = id) (q := fun p => p.id = id) h.madePorts
    (fun x _ e _ hmade => by rw [hmade.id])
  rw [List.any_eq_true, ← List.find?_isSome, newPort]
  generalize hx : request.ports.find? (fun p => p.id = id) = found at hfound ⊢
  generalize h.ports.find? (fun p => p.id = id) = made at hfound ⊢
  cases hfound with
  | none => simp
  | @some x e hmade =>
    obtain rfl : x.id = id := by simpa using List.find?_some hx
    refine iff_of_true rfl ?_
    have hxmem := List.mem_of_find?_eq_some hx
    obtain ⟨row, hrow, hstored⟩ := exists_right_of_forall₂ h.storedPorts hxmem
    have hsame : row.base.portType = e.base.portType := by rw [hstored.base, hmade.base]
    rw [Option.bind_some]
    cases hfirst : h.ps.find? (fun p => p.base.portType = e.base.portType) with
    | none => exact absurd (decide_eq_true hsame) (List.find?_eq_none.mp hfirst row hrow)
    | some first =>
      have hmem := List.mem_of_find?_eq_some hfirst
      obtain ⟨y, -, hy⟩ := exists_left_of_forall₂ h.storedPorts hmem
      have hport : first.base.portType = e.base.portType := by simpa using List.find?_some hfirst
      have hclash : clash .port first row = true := by
        refine clash_port.mpr ⟨?_, hport.trans hsame.symm⟩
        rw [hy.base, hstored.base]
      rw [Option.map_some, eq_of_clash (k := .port) (h.mem_ports hmem) (h.mem_ports hrow) hclash,
        hstored.named (hids x hxmem)]

theorem reassignType_iff (h : Enacted request s host t) (hinterfaces : ∀ i ∈ request.interfaces, i.id ≠ Uuid.nil)
    (hports : ∀ p ∈ request.ports, p.id ≠ Uuid.nil) (type : BindingType) :
    reassignType h.interfaces h.is h.ports h.ps type = some type ↔ request.addresses type = true := by
  have hsome (r : Option Uuid) (id : Uuid) : r.map BindingType.interface = some (.interface id) ↔ r = some id := by
    cases r <;> simp
  cases type with
  | interface id =>
    rw [CreateHostRequest.addresses, h.leads_iff hinterfaces, ← hsome, Option.map_map]
    rfl
  | port id interfaceId =>
    have hinterface : interfaceId.all (leads request.interfaces) = true ↔
        ((interfaceId.bind (fun id => h.interfaces.find? (fun i => i.id = id))).bind (newInterface h.is)).map Entity.id =
          interfaceId := by
      cases interfaceId with
      | none => simp
      | some id => exact h.leads_iff hinterfaces id
    rw [CreateHostRequest.addresses, Bool.and_eq_true, h.newPort_iff hports, hinterface, reassignType]
    cases newPort h.ports h.ps id with
    | none => simp
    | some row => simp [originalInterface, BindingType.interfaceId]

theorem serviceRows (h : Enacted request s host t) :
    t.services.rows.filter (fun r => r.base.hostId = host.id) = entryRows h.entries ++ h.extra := by
  have htable : h.u.services = s.services := h.parts.frame .service (by simp)
  rw [h.built.rows, List.append_assoc, htable]
  refine filter_append_right (fun r hr => decide_eq_false (h.unused.services r hr).2) (fun r hr => ?_)
  rcases List.mem_append.mp hr with hr | hr
  · obtain ⟨out, he⟩ := mem_entryRows.mp hr
    obtain ⟨z, hz, hentered⟩ := exists_left_of_forall₂ h.built.each he
    obtain ⟨_, -, rfl⟩ := List.mem_map.mp hz
    rw [hentered.base]
    exact decide_eq_true rfl
  · exact decide_eq_true (h.built.foreign r hr).1

theorem mem_services (h : Enacted request s host t) {row : Service} {out : List Binding}
    (he : some (row, out) ∈ h.entries) : row ∈ t.services.rows := by
  rw [h.built.rows]
  exact List.mem_append_left _ (List.mem_append_right _ (mem_entryRows.mpr ⟨out, he⟩))

theorem bindingRows (h : Enacted request s host t) (howned : s.Owned) (hextra : h.extraBindings = []) {row : Service}
    {out : List Binding} (he : some (row, out) ∈ h.entries) :
    t.bindings.rows.filter (fun b => b.base.serviceId = row.id) = out := by
  have hbindings : h.u.bindings = s.bindings := h.parts.frame .binding (by simp)
  have hservices : h.u.services = s.services := h.parts.frame .service (by simp)
  have hgroups : entryBindings h.entries = (((h.entries.filterMap id).map Prod.snd).flatten) := by
    rw [entryBindings, List.map_filterMap]
    rfl
  have hold : s.bindings.rows.filter (fun b => b.base.serviceId = row.id) = [] := by
    refine List.filter_eq_nil_iff.mpr (fun b hb heq => ?_)
    obtain ⟨r, hr, hid⟩ := howned b hb
    obtain ⟨z, hz, hentered⟩ := exists_left_of_forall₂ h.built.each he
    obtain ⟨_, -, rfl⟩ := List.mem_map.mp hz
    have hrt : r ∈ t.services.rows := by
      rw [h.built.rows, hservices, List.append_assoc]
      exact List.mem_append_left _ hr
    have heq : r = row := eq_of_id_eq (k := .service) hrt (h.mem_services he) (hid.trans (of_decide_eq_true heq))
    refine (h.unused.services r hr).2 ?_
    rw [heq, hentered.base]
    rfl
  rw [h.built.bindings, hextra, List.append_nil, hbindings, List.filter_append, hold, List.nil_append, hgroups]
  refine filter_flatten Entity.id (fun b : Binding => b.base.serviceId) ?_ ?_
    (g := (row, out)) (List.mem_filterMap.mpr ⟨_, he, rfl⟩)
  · intro g hg b hb
    obtain ⟨_, hg, rfl⟩ := List.mem_filterMap.mp hg
    obtain ⟨z, -, hentered⟩ := exists_left_of_forall₂ h.built.each hg
    exact (hentered.of_mem hb).1
  · have hrows : (h.entries.filterMap id).map Prod.fst = entryRows h.entries := by
      rw [entryRows, List.map_filterMap]
      rfl
    have hpairwise := t.services.pairwise
    rw [h.built.rows, List.append_assoc] at hpairwise
    have hentries := (List.pairwise_append.mp (List.pairwise_append.mp hpairwise).2.1).1
    rw [← hrows] at hentries
    exact (List.pairwise_map.mp hentries).imp (fun hapart => hapart.1)

theorem nil_not_fresh (request : CreateHostRequest) : ¬ request.freshId Uuid.nil := fun h => h.1 rfl

/-- A service that was stored anew has exactly its bindings where none of them was dropped or given another type. -/
theorem service_iff (h : Enacted request s host t) (howned : s.Owned) (hextra : h.extraBindings = [])
    {input : ServiceInput} {service row : Service} {out : List Binding} (he : some (row, out) ∈ h.entries)
    (hmade : MadeFor ServiceInput.id (ServiceInput.describes host.id request.networkId) input service)
    (hbindings : List.Forall₂ (MadeFor BindingInput.id (BindingInput.describes input.id request.networkId))
      input.bindings service.base.bindings)
    (hentered : EnteredService request.freshId (reassignedService h.interfaces h.is h.ports h.ps host service) row out)
    (hid : input.id ≠ Uuid.nil) :
    Exactly (fun b row => row.id = b.id ∧ b.describes input.id request.networkId row.base) input.bindings
        (t.bindings.rows.filter (fun b => b.base.serviceId = input.id)) ↔
      (∀ b ∈ input.bindings, b.id ≠ Uuid.nil) ∧
        keptBindings h.interfaces h.is h.ports h.ps service.base.bindings = service.base.bindings := by
  have hrow : row.id = input.id := by
    rw [← hmade.id]
    exact hentered.id (hmade.id ▸ hid)
  have hout := h.bindingRows howned hextra he
  rw [hrow] at hout
  rw [hout]
  refine bindings_exactly_iff (nil_not_fresh request) hbindings ?_ ?_
  · have hstored := hentered.bindings
    rw [hrow] at hstored
    rw [← h.network]
    exact hstored
  · rw [← hout]
    exact (t.bindings.pairwise.filter _).imp (fun hapart => hapart.1)

theorem kept_iff (h : Enacted request s host t) (hinterfaces : ∀ i ∈ request.interfaces, i.id ≠ Uuid.nil)
    (hports : ∀ p ∈ request.ports, p.id ≠ Uuid.nil) {input : ServiceInput} {service : Service}
    (hbindings : List.Forall₂ (MadeFor BindingInput.id (BindingInput.describes input.id request.networkId))
      input.bindings service.base.bindings) :
    keptBindings h.interfaces h.is h.ports h.ps service.base.bindings = service.base.bindings ↔
      (∀ b ∈ input.bindings, request.addresses b.bindingType = true) ∧
        (input.bindings.map BindingInput.bindingType).Nodup ∧
          ∀ a ∈ input.bindings, ∀ b ∈ input.bindings, a.bindingType.covers b.bindingType = false := by
  have hforall := forall_made hbindings
  rw [keptBindings_eq_self_iff, deduplicateBindings_eq_self_iff, types_of_made hbindings]
  simp only [reassignBinding_eq_self_iff, h.reassignType_iff hinterfaces hports]
  refine and_congr (hforall (fun a => request.addresses a = true)) (and_congr_right (fun _ => ?_))
  rw [hforall (fun a => ∀ b ∈ service.base.bindings, a.covers b.base.bindingType = false)]
  exact forall₂_congr (fun a _ => hforall (fun b => a.bindingType.covers b = false))

theorem reassignedService_eq_self (h : Enacted request s host t) {input : ServiceInput} {service : Service}
    (hmade : MadeFor ServiceInput.id (ServiceInput.describes host.id request.networkId) input service)
    (hkept : keptBindings h.interfaces h.is h.ports h.ps service.base.bindings = service.base.bindings) :
    reassignedService h.interfaces h.is h.ports h.ps host service = service := by
  have hself := (keptBindings_eq_self_iff.mp hkept).1
  obtain ⟨id, createdAt, updatedAt, base⟩ := service
  obtain ⟨hid, hbase⟩ := hmade
  change base = _ at hbase
  have hhost : base.hostId = host.id := by rw [hbase]
  have hnetwork : base.networkId = host.base.networkId := by rw [hbase, h.network]
  unfold reassignedService
  rw [List.filterMap_congr hself, List.filterMap_some, ← hhost, ← hnetwork]

theorem amicable_iff (h : Enacted request s host t) :
    Amicable h.services ↔ request.services.Pairwise ServiceInput.uncontended := by
  refine (pairwise_iff_of_forall₂ h.madeServices (fun a a' b b' ⟨_, ha⟩ ⟨_, hb⟩ => ?_)).symm
  rw [ServiceInput.uncontended, Uncontended, forall_made ha (fun x => ∀ y ∈ b'.base.bindings, contends x y.base.bindingType = false)]
  exact forall₂_congr (fun x _ => (forall_made hb (fun y => contends x.bindingType y = false)).symm)

theorem describes_row (h : Enacted request s host t) {input : ServiceInput} {service row : Service} {out : List Binding}
    (hmade : MadeFor ServiceInput.id (ServiceInput.describes host.id request.networkId) input service)
    (hentered : EnteredService request.freshId (reassignedService h.interfaces h.is h.ports h.ps host service) row out) :
    input.describes host.id request.networkId row.base := by
  have hbase := hmade.base
  rw [ServiceInput.describes] at hbase ⊢
  rw [hentered.base, Service.row, reassignedService]
  dsimp only
  rw [hbase, h.network]

theorem map_reassignedService (h : Enacted request s host t) (hinterfaces : ∀ i ∈ request.interfaces, i.id ≠ Uuid.nil)
    (hports : ∀ p ∈ request.ports, p.id ≠ Uuid.nil) (hplain : ∀ input ∈ request.services, input.Plain request) :
    h.services.map (reassignedService h.interfaces h.is h.ports h.ps host) = h.services := by
  refine (List.map_congr_left (fun service hservice => ?_)).trans (List.map_id _)
  obtain ⟨input, hinput, hmade, hbindings⟩ := exists_left_of_forall₂ h.madeServices hservice
  have hservice := hplain input hinput
  exact h.reassignedService_eq_self hmade ((h.kept_iff hinterfaces hports hbindings).mpr
    ⟨hservice.addressed, hservice.distinct, hservice.uncovered⟩)

/-- Everything that the request asks of its services is written where none of them was dropped. -/
theorem services_of_plain (h : Enacted request s host t) (howned : s.Owned) (hplain : request.Plain) :
    Exactly (fun s row => row.id = s.id ∧ s.describes host.id request.networkId row.base ∧
        Exactly (fun b row => row.id = b.id ∧ b.describes s.id request.networkId row.base) s.bindings
          (t.bindings.rows.filter (fun b => b.base.serviceId = s.id)))
      request.services (t.services.rows.filter (fun s => s.base.hostId = host.id)) := by
  have hself := h.map_reassignedService hplain.interfaceIds hplain.portIds hplain.services
  have hnone : none ∉ h.entries := by
    rw [h.built.kept, hself, h.amicable_iff]
    exact hplain.uncontended
  obtain ⟨hextra, hextraBindings⟩ := h.built.complete hnone
  rw [h.serviceRows, hextra, List.append_nil]
  apply Exactly.of_forall₂
  have hrows : List.Forall₂ (fun e row => e.map Prod.fst = some row) h.entries (entryRows h.entries) := by
    refine forall₂_filterMap (fun e he => ?_)
    cases e with
    | none => exact absurd he hnone
    | some _ => rfl
  have hchain := forall₂_comp h.madeServices (List.forall₂_map_left_iff.mp h.built.each)
  have hall := (List.forall₂_and_left _ _).mpr ⟨fun input hinput => hinput, forall₂_comp hchain
    ((List.forall₂_and_left _ _).mpr ⟨fun e he => he, hrows⟩)⟩
  refine hall.imp ?_
  rintro input row ⟨hinput, e, ⟨service, ⟨hmade, hbindings⟩, hentry⟩, he, hrow⟩
  obtain ⟨⟨row, out⟩, rfl, rfl⟩ := Option.map_eq_some_iff.mp hrow
  have hinputPlain := hplain.services input hinput
  have hkept := (h.kept_iff hplain.interfaceIds hplain.portIds hbindings).mpr
    ⟨hinputPlain.addressed, hinputPlain.distinct, hinputPlain.uncovered⟩
  refine ⟨?_, ?_, (h.service_iff howned hextraBindings he hmade hbindings hentry hinputPlain.id).mpr
    ⟨hinputPlain.bindingIds, hkept⟩⟩
  · rw [← hmade.id]
    exact hentry.id (hmade.id ▸ hinputPlain.id)
  · exact h.describes_row hmade hentry

theorem id_ne_nil (h : Enacted request s host t) {row : Service} (hrow : row ∈ entryRows h.entries) :
    row.id ≠ Uuid.nil := by
  obtain ⟨out, he⟩ := mem_entryRows.mp hrow
  obtain ⟨service, -, hentered⟩ := exists_left_of_forall₂ h.built.each he
  by_cases hnil : service.id = Uuid.nil
  · exact (hentered.fresh hnil).1
  · rw [hentered.id hnil]
    exact hnil

theorem none_not_mem (h : Enacted request s host t)
    (hwritten : WrittenAsAsked request host.id t) : none ∉ h.entries := by
  have hservices := hwritten.services
  rw [h.serviceRows] at hservices
  have hextra : h.extra = [] := by
    refine List.eq_nil_iff_forall_not_mem.mpr (fun r hr => (h.built.foreign r hr).2 ?_)
    obtain ⟨input, -, -, hbase, -⟩ := hservices.exists_left (List.mem_append_right _ hr)
    rw [hbase]
  have hlength := hservices.length_eq
  rw [hextra, List.append_nil, h.madeServices.length_eq, (List.forall₂_map_left_iff.mp h.built.each).length_eq] at hlength
  intro hnone
  cases List.filterMap_length_eq_length.mp hlength.symm none hnone

theorem plain_of_written (h : Enacted request s host t) (howned : s.Owned)
    (hwritten : WrittenAsAsked request host.id t) : request.Plain := by
  have hnil := nil_not_fresh request
  have hinterfaces : ∀ i ∈ request.interfaces, i.id ≠ Uuid.nil := by
    rw [← exactly_iff hnil h.storedInterfaces, ← h.interfaceRows]
    exact hwritten.interfaces
  have hports : ∀ p ∈ request.ports, p.id ≠ Uuid.nil := by
    rw [← exactly_iff hnil h.storedPorts, ← h.portRows]
    exact hwritten.ports
  have hnone := h.none_not_mem hwritten
  obtain ⟨hextra, hextraBindings⟩ := h.built.complete hnone
  have hchain := forall₂_comp h.madeServices (List.forall₂_map_left_iff.mp h.built.each)
  have hplain : ∀ input ∈ request.services, input.Plain request := by
    intro input hinput
    obtain ⟨row', hrow', hid', -, hwrittenBindings⟩ := hwritten.services.exists_right hinput
    rw [h.serviceRows, hextra, List.append_nil] at hrow'
    have hid : input.id ≠ Uuid.nil := hid' ▸ h.id_ne_nil hrow'
    obtain ⟨e, he, service, ⟨hmade, hbindings⟩, hentry⟩ := exists_right_of_forall₂ hchain hinput
    cases e with
    | none => exact absurd he hnone
    | some stored =>
      obtain ⟨hbindingIds, hkept⟩ :=
        (h.service_iff howned hextraBindings he hmade hbindings hentry hid).mp hwrittenBindings
      obtain ⟨haddressed, hdistinct, huncovered⟩ := (h.kept_iff hinterfaces hports hbindings).mp hkept
      exact ⟨hid, hbindingIds, haddressed, hdistinct, huncovered⟩
  refine ⟨hinterfaces, hports, hplain, ?_, ?_⟩
  · exact hwritten.services.pairwise_ne (fun _ _ hrow => hrow.1)
      ((t.services.pairwise.filter _).imp (fun hapart => hapart.1))
  · rw [← h.amicable_iff]
    rw [← h.map_reassignedService hinterfaces hports hplain]
    exact h.built.kept.mp hnone

end Enacted

end enacted

instance (db : Db) (id : Uuid) : Decidable (db.Unused id) :=
  decidable_of_iff ((∀ h ∈ db.hosts.rows, h.id ≠ id) ∧ (∀ i ∈ db.interfaces.rows, i.base.hostId ≠ id) ∧
      (∀ p ∈ db.ports.rows, p.base.hostId ≠ id) ∧ ∀ s ∈ db.services.rows, s.id ≠ id ∧ s.base.hostId ≠ id)
    ⟨fun ⟨hhosts, hinterfaces, hports, hservices⟩ => ⟨hhosts, hinterfaces, hports, hservices⟩,
      fun h => ⟨h.hosts, h.interfaces, h.ports, h.services⟩⟩

instance (request : CreateHostRequest) (db : Db) : (o : DbOp) → (r : o.Reply) → Decidable (freshFor request db o r)
  | .newV4, _ => inferInstanceAs (Decidable (_ ∧ _))
  | .acquire _, _ | .release _, _ | .utcNow, _ | .get _ _, _ | .list _ _ _, _ | .create _ _, _ | .update _ _, _
  | .delete _ _, _ => .isTrue trivial

/-- A host that is created has what was asked for exactly where the request is plain. -/
theorem createFromRequest_written_iff (db : Db) (howned : db.Owned) (ω : Oracle dbSig) (request : CreateHostRequest)
    (hfresh : Answered dbStep (freshFor request) ω 0 (HostService.createFromRequest request) db) (res : HostResponse)
    (hres : (run dbStep ω 0 (HostService.createFromRequest request) db).result = .ok res) :
    WrittenAsAsked request res.host.id (run dbStep ω 0 (HostService.createFromRequest request) db).state ↔
      request.Plain := by
  have henacted (hdistinct : request.services.Pairwise (fun a b => a.id ≠ b.id)) :
      Nonempty (Enacted request db res.host (run dbStep ω 0 (HostService.createFromRequest request) db).state) :=
    (returns_createFromRequest howned hdistinct).run hfresh hres
  constructor
  · intro hwritten
    have hservices := (run dbStep ω 0 (HostService.createFromRequest request) db).state.services.pairwise
    obtain ⟨h⟩ := henacted (hwritten.services.pairwise_ne (fun _ _ hrow => hrow.1)
      ((hservices.filter _).imp (fun hapart => hapart.1)))
    exact h.plain_of_written howned hwritten
  · intro hplain
    obtain ⟨h⟩ := henacted hplain.distinct
    refine ⟨?_, ?_, h.services_of_plain howned hplain⟩
    · rw [h.interfaceRows]
      exact (exactly_iff (Enacted.nil_not_fresh request) h.storedInterfaces).mpr hplain.interfaceIds
    · rw [h.portRows]
      exact (exactly_iff (Enacted.nil_not_fresh request) h.storedPorts).mpr hplain.portIds

/-- A host with one address and two ports, and what runs on it. -/
def newHost (services : List ServiceInput) : CreateHostRequest :=
  ⟨"web", 9, none, none, none, false, [], [⟨21, 7, .v4 40, none, none, none⟩], [⟨31, 80, .tcp⟩, ⟨32, 443, .tcp⟩], services⟩

def asked (id : Uuid) (name : String) (bindings : List (Uuid × BindingType)) : ServiceInput :=
  ⟨id, webServer, name, bindings.map (fun b => ⟨b.1, b.2⟩), none, [], none⟩

theorem createFromRequest_written_apart : ∃ res,
    (run dbStep (granted 1) 0 (HostService.createFromRequest (newHost [asked 51 "Nginx" [(61, .port 31 (some 21))],
      asked 52 "Apache" [(62, .port 32 none)]])) .empty).result = .ok res ∧
    WrittenAsAsked (newHost [asked 51 "Nginx" [(61, .port 31 (some 21))], asked 52 "Apache" [(62, .port 32 none)]])
      res.host.id (run dbStep (granted 1) 0 (HostService.createFromRequest (newHost
        [asked 51 "Nginx" [(61, .port 31 (some 21))], asked 52 "Apache" [(62, .port 32 none)]])) .empty).state := by
  refine ⟨_, rfl, (createFromRequest_written_iff .empty (by decide) (granted 1) _ (by decide) _ rfl).mpr (by decide)⟩

/-- Two services on one port: the second is dropped, and its other binding goes to the open ports. -/
theorem createFromRequest_drops : ∃ res,
    (run dbStep (granted 1) 0 (HostService.createFromRequest (newHost [asked 51 "Nginx" [(61, .port 31 none)],
      asked 52 "Apache" [(62, .port 31 none), (63, .port 32 none)]])) .empty).result = .ok res ∧
    ¬ WrittenAsAsked (newHost [asked 51 "Nginx" [(61, .port 31 none)],
        asked 52 "Apache" [(62, .port 31 none), (63, .port 32 none)]]) res.host.id
      (run dbStep (granted 1) 0 (HostService.createFromRequest (newHost [asked 51 "Nginx" [(61, .port 31 none)],
        asked 52 "Apache" [(62, .port 31 none), (63, .port 32 none)]])) .empty).state := by
  refine ⟨_, rfl, fun h => ?_⟩
  obtain ⟨row, hrow, hid, -⟩ := h.services.exists_right (List.mem_cons_of_mem _ List.mem_cons_self)
  revert row
  decide

end VantageNet.Inventory
