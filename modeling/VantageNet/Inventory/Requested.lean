import VantageNet.Inventory.Entering
import VantageNet.Inventory.Requests

/-!
What `create_from_request` stores of a request: when that is what was asked for.
-/

namespace VantageNet.Inventory

open Interaction Interaction.Program

section entities

/-- An entity made for an input, with its id. -/
structure MadeFor {ι β : Type} (id : ι → Uuid) (base : ι → β → Prop) (input : ι) (entity : Entity β) : Prop where
  id : entity.id = id input
  base : base input entity.base

def InterfaceInput.describes (hostId networkId : Uuid) (input : InterfaceInput) (base : InterfaceBase) : Prop :=
  base = ⟨networkId, hostId, input.subnetId, input.ipAddress, input.macAddress, input.name, base.position⟩

def PortInput.describes (hostId networkId : Uuid) (input : PortInput) (base : PortBase) : Prop :=
  base = ⟨hostId, networkId, ⟨input.number, input.protocol⟩⟩

def BindingInput.describes (serviceId networkId : Uuid) (input : BindingInput) (base : BindingBase) : Prop :=
  base = ⟨serviceId, networkId, input.bindingType⟩

/-- Apart from its bindings. -/
def ServiceInput.describes (hostId networkId : Uuid) (input : ServiceInput) (base : ServiceBase) : Prop :=
  base = ⟨hostId, networkId, input.serviceDefinition, input.name, base.bindings, input.virtualization, .manual,
    input.tags, base.position⟩

variable {may : Db → (o : DbOp) → o.Reply → Prop} {s : Db}

theorem returns_made {ι β : Type} {id : ι → Uuid} {base : ι → β → Prop} {p : ι → Query (Entity β)}
    (hp : ∀ x, Returns dbStep may (fun e t => t = s ∧ MadeFor id base x e) (p x) s) (xs : List ι) :
    Returns dbStep may (fun out t => t = s ∧ List.Forall₂ (MadeFor id base) xs out) (collect p xs) s := by
  refine Returns.collect (fun done out t => t = s ∧ List.Forall₂ (MadeFor id base) done out) xs ?_ ⟨rfl, .nil⟩
  rintro done x rest - out t ⟨rfl, hout⟩
  exact (hp x).imp (fun e t ⟨ht, he⟩ => ⟨ht, List.rel_append hout (.cons he .nil)⟩)

theorem returns_intoInterface (input : InterfaceInput) (hostId networkId : Uuid) : Returns dbStep may
    (fun i t => t = s ∧ MadeFor InterfaceInput.id (InterfaceInput.describes hostId networkId) input i)
    (input.intoInterface hostId networkId) s := by
  intro now _
  exact Returns.ret ⟨rfl, rfl, rfl⟩

theorem returns_intoPort (input : PortInput) (hostId networkId : Uuid) : Returns dbStep may
    (fun p t => t = s ∧ MadeFor PortInput.id (PortInput.describes hostId networkId) input p)
    (input.intoPort hostId networkId) s := by
  intro now _
  exact Returns.ret ⟨rfl, rfl, rfl⟩

theorem returns_intoBinding (input : BindingInput) (serviceId networkId : Uuid) : Returns dbStep may
    (fun b t => t = s ∧ MadeFor BindingInput.id (BindingInput.describes serviceId networkId) input b)
    (input.intoBinding serviceId networkId) s := by
  intro createdAt _ updatedAt _
  exact Returns.ret ⟨rfl, rfl, rfl⟩

theorem returns_intoService (input : ServiceInput) (hostId networkId : Uuid) : Returns dbStep may
    (fun service t => t = s ∧ MadeFor ServiceInput.id (ServiceInput.describes hostId networkId) input service ∧
      List.Forall₂ (MadeFor BindingInput.id (BindingInput.describes input.id networkId)) input.bindings
        service.base.bindings)
    (input.intoService hostId networkId .manual) s := by
  refine Returns.bind (q := fun _ t => t = s) (p := utcNow) (fun now _ => Returns.ret rfl) ?_
  rintro now _ rfl
  refine Returns.bind (returns_made (fun b => returns_intoBinding b input.id networkId) input.bindings) ?_
  rintro bindings t ⟨rfl, hbindings⟩
  exact Returns.ret ⟨rfl, ⟨rfl, rfl⟩, hbindings⟩

end entities

section parts

variable {may : Db → (o : DbOp) → o.Reply → Prop} {new : Uuid → Prop} {s : Db}

theorem returns_alignHost_error (host : Host) (interfaces : List Interface) :
    Returns dbStep may (fun aligned t => aligned = host ∧ t = s) (HostService.alignHost .error host interfaces) s := by
  refine (touches_findMatchingHostByInterfaces (K := []) _ _).then (fun _ _ _ _ h => (nomatch h)) (fun found t ht => ?_)
  rw [ht.eq]
  cases found with
  | none => exact Returns.ret ⟨rfl, rfl⟩
  | some existing => exact Returns.fail _

theorem returns_hostCreate_new {host : Host} (hnil : host.id ≠ Uuid.nil) (hunused : s.Unused host.id) :
    Returns dbStep may (fun created t => created = host ∧ Appended .host s [host] t) (HostService.create host) s := by
  unfold HostService.create
  simp only [hnil, ↓reduceIte, bind_eq, ret_bind]
  apply ensures_acquire
  apply Ensures.bind
  refine ensures_getAll (k := .host) (fun _ _ h => (nomatch h)) (fun hosts hhosts _ => ?_)
  refine Returns.bind (p := HostService.store hosts host) ?_ (fun created t h => ensures_release (Returns.ret h))
  unfold HostService.store
  have hnone : hosts.find? (fun h => host.id = h.id) = none := by
    refine List.find?_eq_none.mpr (fun h hh heq => ?_)
    exact hunused.hosts h (List.mem_filter.mp (hhosts.mem_iff.mp hh)).1 (of_decide_eq_true heq).symm
  rw [hnone]
  apply Ensures.bind
  refine ensures_getById (k := .host) (fun _ _ h => (nomatch h)) ?_
  cases (s.table .host).rows.find? (fun r => r.id = host.id) with
  | some _ => exact Returns.fail _
  | none =>
    apply Ensures.bind
    refine ensures_create (k := .host) (fun _ _ h => (nomatch h)) (fun hapart _ => ?_)
    exact Returns.ret ⟨rfl, .insert hapart⟩

/-- The host with its interfaces and ports, entered as they were given. -/
structure PartsEntered (new : Uuid → Prop) (s : Db) (host : Host) (interfaces : List Interface) (ports : List Port)
    (created : Host) (is : List Interface) (ps : List Port) (t : Db) : Prop where
  same : created = host
  frame : s.SameBut [.host, .interface, .port] t
  interfaces : List.Forall₂ (Entered new) (interfaces.map (fun i => Interface.onHost i host.id)) is
  ports : List.Forall₂ (Entered new) (ports.map (fun p => Port.withHost p host.id host.base.networkId)) ps
  interfaceRows : t.interfaces.rows = s.interfaces.rows ++ is
  portRows : t.ports.rows = s.ports.rows ++ ps

theorem returns_createParts_error (hnew : ∀ t id, may t .newV4 id → new id) {host : Host} (hnil : host.id ≠ Uuid.nil)
    (hunused : s.Unused host.id) (interfaces : List Interface) (ports : List Port) :
    Returns dbStep may (fun parts t => PartsEntered new s host interfaces ports parts.1 parts.2.1 parts.2.2 t)
      (HostService.createParts .error host interfaces ports) s := by
  refine Returns.bind (returns_alignHost_error host interfaces) ?_
  rintro aligned t ⟨rfl, rfl⟩
  refine Returns.bind (returns_hostCreate_new hnil hunused) ?_
  rintro created u ⟨rfl, hhost⟩
  refine Returns.bind (p := collect (HostService.createInterface .error created.id) interfaces)
    (returns_enterAll (k := .interface) (fun i : Interface => Interface.onHost i created.id)
      (fun i v => returns_crudCreate (k := .interface) (hnew v) _) interfaces) (fun is v ⟨his, hv⟩ => ?_)
  refine Returns.bind (p := collect (HostService.createPort .error created) ports)
    (returns_enterAll (k := .port) (fun p : Port => Port.withHost p created.id created.base.networkId)
      (fun p w => returns_crudCreate (k := .port) (hnew w) _) ports) (fun ps w ⟨hps, hw⟩ => Returns.ret ?_)
  have hiscolumns : is.map (columns .interface) = is := List.map_id'' (fun _ => rfl) is
  have hpscolumns : ps.map (columns .port) = ps := List.map_id'' (fun _ => rfl) ps
  have huinterfaces : u.interfaces = t.interfaces := hhost.frame .interface (by simp)
  have hvports : v.ports = t.ports := (hv.frame .port (by simp)).trans (hhost.frame .port (by simp))
  have hwinterfaces : w.interfaces = v.interfaces := hw.frame .interface (by simp)
  refine ⟨rfl, ?_, his, hps, ?_, ?_⟩
  · exact (hhost.frame.mono (by simp)).trans ((hv.frame.mono (by simp)).trans (hw.frame.mono (by simp)))
  · rw [hwinterfaces, ← huinterfaces, ← hiscolumns]
    exact hv.rows
  · rw [← hvports, ← hpscolumns]
    exact hw.rows

end parts

/-- What has become of one service of the batch: it was dropped, or stored anew. -/
def EntryOf (new : Uuid → Prop) (service : Service) : Option (Service × List Binding) → Prop
  | none => True
  | some (row, out) => EnteredService new service row out

def entryRows (entries : List (Option (Service × List Binding))) : List Service := entries.filterMap (Option.map Prod.fst)

def entryBindings (entries : List (Option (Service × List Binding))) : List Binding :=
  (entries.filterMap (Option.map Prod.snd)).flatten

/-- No two of the services contend for a port. -/
def Amicable (services : List Service) : Prop :=
  services.Pairwise (fun a b => Uncontended a.base.bindings b.base.bindings)

/-- The loop over the services as far as it has come, from the state `s` on. -/
structure Building (new : Uuid → Prop) (s : Db) (done : List Service) (entries : List (Option (Service × List Binding)))
    (batch : Batch) (t : Db) : Prop where
  each : List.Forall₂ (EntryOf new) done entries
  frame : s.SameBut [.service, .binding] t
  services : t.services.rows = s.services.rows ++ entryRows entries
  bindings : t.bindings.rows = s.bindings.rows ++ entryBindings entries
  owned : t.Owned
  kept : none ∉ entries ↔ Amicable done
  carried : none ∉ entries →
    batch.claimed = (done.map (fun d => claims d.base.bindings)).flatten ∧ batch.orphaned = []

section building

variable {may : Db → (o : DbOp) → o.Reply → Prop} {new : Uuid → Prop} {s t : Db} {done : List Service}
  {entries : List (Option (Service × List Binding))} {batch : Batch} {host : Host} {service : Service}

theorem mem_entryRows {row : Service} : row ∈ entryRows entries ↔ ∃ out, some (row, out) ∈ entries := by
  simp [entryRows]

theorem mem_entryBindings {b : Binding} : b ∈ entryBindings entries ↔ ∃ row out, some (row, out) ∈ entries ∧ b ∈ out := by
  simp only [entryBindings, List.mem_flatten, List.mem_filterMap]
  constructor
  · rintro ⟨out, ⟨_ | ⟨row, out'⟩, he, heq⟩, hb⟩
    · cases heq
    · obtain rfl : out' = out := by simpa using heq
      exact ⟨row, out', he, hb⟩
  · rintro ⟨row, out, he, hb⟩
    exact ⟨out, ⟨_, he, rfl⟩, hb⟩

theorem Building.entry (h : Building new s done entries batch t) {row : Service} {out : List Binding}
    (he : some (row, out) ∈ entries) : ∃ d ∈ done, EnteredService new d row out :=
  exists_left_of_forall₂ h.each he

theorem EnteredService.of_mem {row : Service} {out : List Binding} (h : EnteredService new service row out) {b : Binding}
    (hb : b ∈ out) : b.base.serviceId = row.id ∧
      ∃ c ∈ service.base.bindings, b.base.bindingType = c.base.bindingType := by
  obtain ⟨c, hc, hentered⟩ := exists_left_of_forall₂ h.bindings hb
  obtain ⟨c', hc', rfl⟩ := List.mem_map.mp hc
  rw [hentered.base]
  exact ⟨rfl, c', mem_of_mem_deduplicateBindings hc', rfl⟩

theorem Building.entry_of_host (h : Building new s done entries batch t) {hostId : Uuid}
    (hunused : ∀ r ∈ s.services.rows, r.base.hostId ≠ hostId) {row : Service} (hrow : row ∈ t.services.rows)
    (hhost : row.base.hostId = hostId) : ∃ out, some (row, out) ∈ entries := by
  rw [h.services] at hrow
  rcases List.mem_append.mp hrow with hrow | hrow
  · exact absurd hhost (hunused row hrow)
  · exact mem_entryRows.mp hrow

/-- What is stored of the host's bindings are bindings of the services stored anew. -/
theorem Building.of_othersOn (h : Building new s done entries batch t) {hostId serviceId : Uuid} (howned : s.Owned)
    (hunused : ∀ r ∈ s.services.rows, r.base.hostId ≠ hostId) {b : Binding} (hb : b ∈ t.othersOn hostId serviceId) :
    ∃ d ∈ done, ∃ c ∈ d.base.bindings, b.base.bindingType = c.base.bindingType := by
  obtain ⟨hb, hserves⟩ := List.mem_filter.mp hb
  obtain ⟨row, hrow, hid, hhost⟩ := serves_iff.mp (Bool.and_eq_true_iff.mp hserves).1
  rw [h.bindings] at hb
  rcases List.mem_append.mp hb with hb | hb
  · obtain ⟨r, hr, hrid⟩ := howned b hb
    have hrt : r ∈ t.services.rows := by
      rw [h.services]
      exact List.mem_append_left _ hr
    obtain rfl := eq_of_id_eq (k := .service) hrt hrow (hrid.trans hid.symm)
    exact absurd hhost (hunused r hr)
  · obtain ⟨row', out, he, hb⟩ := mem_entryBindings.mp hb
    obtain ⟨d, hd, hentered⟩ := h.entry he
    obtain ⟨-, c, hc, htype⟩ := hentered.of_mem hb
    exact ⟨d, hd, c, hc, htype⟩

theorem Building.drops_iff (h : Building new s done entries batch t) {hostId : Uuid} (howned : s.Owned)
    (hunused : ∀ r ∈ s.services.rows, r.base.hostId ≠ hostId) (hkept : none ∉ entries) :
    t.drops hostId batch service = false ↔ ∀ d ∈ done, Uncontended d.base.bindings service.base.bindings := by
  obtain ⟨hclaimed, -⟩ := h.carried hkept
  simp only [Db.drops, List.any_eq_false, Bool.not_eq_true]
  constructor
  · intro hnot d hd x hx y hy
    rw [contends_comm]
    refine contends_of_not_claimed ?_ (hnot y hy) hx
    refine List.Subset.trans ?_ (List.subset_append_right _ batch.claimed)
    rw [hclaimed]
    exact fun c hc => List.mem_flatten.mpr ⟨_, List.mem_map_of_mem hd, hc⟩
  · intro hfree y hy
    rw [Bool.eq_false_iff]
    intro hcl
    obtain ⟨c, hc, e, he, hoverlaps⟩ := claimed_iff.mp hcl
    have htaken : ∃ d ∈ done, c ∈ claims d.base.bindings := by
      rcases List.mem_append.mp hc with hc | hc
      · obtain ⟨b, hb, hbc⟩ := mem_claims.mp hc
        obtain ⟨d, hd, x, hx, htype⟩ := h.of_othersOn howned hunused hb
        exact ⟨d, hd, mem_claims.mpr ⟨x, hx, htype ▸ hbc⟩⟩
      · rw [hclaimed] at hc
        obtain ⟨_, hmem, hc⟩ := List.mem_flatten.mp hc
        obtain ⟨d, hd, rfl⟩ := List.mem_map.mp hmem
        exact ⟨d, hd, hc⟩
    obtain ⟨d, hd, hc⟩ := htaken
    obtain ⟨x, hx, hxc⟩ := mem_claims.mp hc
    have hcontends : contends y.base.bindingType x.base.bindingType = true := by
      simp only [contends, he, hxc]
      exact hoverlaps
    rw [contends_comm, hfree d hd x hx y hy] at hcontends
    cases hcontends

theorem amicable_append : Amicable (done ++ [service]) ↔
    Amicable done ∧ ∀ d ∈ done, Uncontended d.base.bindings service.base.bindings := by
  simp [Amicable, List.pairwise_append]

theorem Building.drop (h : Building new s done entries batch t) {hostId : Uuid} (howned : s.Owned)
    (hunused : ∀ r ∈ s.services.rows, r.base.hostId ≠ hostId) (hdrops : t.drops hostId batch service = true)
    (batch' : Batch) : Building new s (done ++ [service]) (entries ++ [none]) batch' t := by
  have hnone : none ∈ entries ++ [(none : Option (Service × List Binding))] := by simp
  refine ⟨List.rel_append h.each (.cons trivial .nil), h.frame, ?_, ?_, h.owned, ?_, fun hnot => absurd hnone hnot⟩
  · simpa [entryRows] using h.services
  · simpa [entryBindings] using h.bindings
  · refine iff_of_false (fun hnot => hnot hnone) (fun hamicable => ?_)
    obtain ⟨hdone, hfree⟩ := amicable_append.mp hamicable
    have hfree := (h.drops_iff howned hunused (h.kept.mpr hdone)).mpr hfree
    rw [hdrops] at hfree
    cases hfree

theorem Building.keep (h : Building new s done entries batch t) {hostId : Uuid} (howned : s.Owned)
    (hunused : ∀ r ∈ s.services.rows, r.base.hostId ≠ hostId) (hkeeps : t.drops hostId batch service = false)
    {row stored : Service} {out : List Binding} {u : Db} (hentered : EnteredService new service row out)
    (happended : AppendedService t row out u) (hu : u.Owned) :
    Building new s (done ++ [service]) (entries ++ [some (row, out)])
      { batch with
        claimed := batch.claimed ++ claims service.base.bindings
        created := batch.created ++ [stored] } u := by
  have hnone : none ∉ entries ++ [some (row, out)] ↔ none ∉ entries := by simp
  refine ⟨List.rel_append h.each (.cons hentered .nil), h.frame.trans happended.frame, ?_, ?_, hu, ?_, fun hnot => ?_⟩
  · rw [happended.services, h.services, List.append_assoc]
    simp [entryRows]
  · rw [happended.bindings, h.bindings, List.append_assoc]
    simp [entryBindings]
  · rw [hnone, amicable_append, h.kept, iff_self_and]
    exact fun hdone => (h.drops_iff howned hunused (h.kept.mpr hdone)).mp hkeeps
  · obtain ⟨hclaimed, horphaned⟩ := h.carried (hnone.mp hnot)
    exact ⟨by simp [hclaimed], horphaned⟩

end building

/-- What the loop over the services leaves, with the service for unclaimed open ports as `extra`. -/
structure Built (new : Uuid → Prop) (s : Db) (hostId : Uuid) (services : List Service)
    (entries : List (Option (Service × List Binding))) (extra : List Service) (extraBindings : List Binding) (t : Db) :
    Prop where
  each : List.Forall₂ (EntryOf new) services entries
  frame : s.SameBut [.service, .binding] t
  rows : t.services.rows = s.services.rows ++ entryRows entries ++ extra
  bindings : t.bindings.rows = s.bindings.rows ++ entryBindings entries ++ extraBindings
  kept : none ∉ entries ↔ Amicable services
  foreign : ∀ r ∈ extra, r.base.hostId = hostId ∧ r.base.source ≠ .manual
  complete : none ∉ entries → extra = [] ∧ extraBindings = []

section services

variable {may : Db → (o : DbOp) → o.Reply → Prop} {new : Uuid → Prop} {s t : Db}
  {originalInterfaces interfaces : List Interface} {originalPorts ports : List Port} {host : Host}

/-- The services of a request: none of them from discovery, each under an id of its own that is no new one. -/
structure Batchable (new : Uuid → Prop) (services : List Service) : Prop where
  manual : ∀ z ∈ services, z.base.source.isFromDiscovery = false
  distinct : services.Pairwise (fun a b => a.id ≠ b.id)
  known : ∀ z ∈ services, ¬ new z.id

theorem Building.distinguishes {done : List Service} {entries : List (Option (Service × List Binding))} {batch : Batch}
    (h : Building new s (done.map (reassignedService originalInterfaces interfaces originalPorts ports host)) entries
      batch t) (hunused : ∀ r ∈ s.services.rows, r.base.hostId ≠ host.id) {z : Service} {rest : List Service}
    (hbatch : Batchable new (done ++ z :: rest)) {id : Uuid} (hid : z.id ≠ Uuid.nil → id = z.id)
    (hfresh : z.id = Uuid.nil → t.Unused id) : t.Distinguishes
      { reassignedService originalInterfaces interfaces originalPorts ports host z with id := id } := by
  intro row hrow hhost
  have hmanual : z.base.source.isFromDiscovery = false := hbatch.manual z (by simp)
  have hsource : (reassignedService originalInterfaces interfaces originalPorts ports host
      z).base.source.isFromDiscovery = false := hmanual
  refine ⟨?_, by simp [hsource]⟩
  obtain ⟨out, he⟩ := h.entry_of_host hunused hrow hhost
  obtain ⟨_, hmem, hentered⟩ := h.entry he
  obtain ⟨d, hd, rfl⟩ := List.mem_map.mp hmem
  by_cases hz : z.id = Uuid.nil
  · exact ((hfresh hz).services row hrow).1
  · change row.id ≠ id
    rw [hid hz]
    by_cases hdnil : d.id = Uuid.nil
    · exact fun heq => hbatch.known z (by simp) (heq ▸ hentered.fresh hdnil)
    · rw [hentered.id hdnil]
      exact (List.pairwise_append.mp hbatch.distinct).2.2 d hd z (by simp)

theorem returns_createOpenPorts (hnew : ∀ t id, may t .newV4 id → new id ∧ t.Unused id) (hnil : ¬ new Uuid.nil)
    (hunused : ∀ r ∈ s.services.rows, r.base.hostId ≠ host.id) {services : List Service}
    (hmanual : ∀ z ∈ services, z.base.source.isFromDiscovery = false) {entries : List (Option (Service × List Binding))}
    {batch : Batch} (h : Building new s services entries batch t) :
    Returns dbStep may (fun _ u => ∃ extra extraBindings, Built new s host.id services entries extra extraBindings u)
      (HostService.createOpenPorts host batch) t := by
  unfold HostService.createOpenPorts
  split_ifs with hempty
  · refine Returns.ret ⟨[], [], h.each, h.frame, ?_, ?_, h.kept, by simp, fun _ => ⟨rfl, rfl⟩⟩
    · rw [List.append_nil, h.services]
    · rw [List.append_nil, h.bindings]
  · apply Ensures.bind
    apply ensures_newEntity
    intro id now hid
    obtain ⟨hnewId, hfresh⟩ := hnew t id hid
    have hne : id ≠ Uuid.nil := fun heq => hnil (heq ▸ hnewId)
    refine Returns.bind (returns_serviceCreate_new hnew hnil h.owned (fun id' hid' _ row hrow hhost => ?_)) ?_
    · obtain rfl : id' = id := hid' hne
      obtain ⟨out, he⟩ := h.entry_of_host hunused hrow hhost
      obtain ⟨z, hz, hentered⟩ := h.entry he
      refine ⟨(hfresh.services row hrow).1, ?_⟩
      have hsource : row.base.source = z.base.source := by
        rw [hentered.base]
        rfl
      rw [hsource, hmanual z hz, Bool.and_false]
    · rintro stored u ⟨row, out, -, hentered, happended⟩
      refine Returns.ret ⟨[row], out, h.each, h.frame.trans happended.frame, ?_, ?_, h.kept, ?_, fun hnot => ?_⟩
      · rw [happended.services, h.services]
      · rw [happended.bindings, h.bindings]
      · rintro r hr
        obtain rfl := List.mem_singleton.mp hr
        rw [hentered.base]
        exact ⟨rfl, by simp [Service.row, HostService.openPortsBase]⟩
      · exact absurd (by simp [(h.carried hnot).2]) hempty

theorem returns_createServices (hnew : ∀ t id, may t .newV4 id → new id ∧ t.Unused id) (hnil : ¬ new Uuid.nil)
    (howned : s.Owned) (hunused : ∀ r ∈ s.services.rows, r.base.hostId ≠ host.id) {services : List Service}
    (hbatch : Batchable new services) :
    Returns dbStep may (fun _ u => ∃ entries extra extraBindings, Built new s host.id
        (services.map (reassignedService originalInterfaces interfaces originalPorts ports host)) entries extra
        extraBindings u)
      (HostService.createServices originalInterfaces originalPorts host interfaces ports services) s := by
  refine Returns.bind (Returns.accumulate (fun done batch t => ∃ entries, Building new s
    (done.map (reassignedService originalInterfaces interfaces originalPorts ports host)) entries batch t) services ?_
    ⟨[], .nil, .refl _ _, by simp [entryRows], by simp [entryBindings], howned, by simp [Amicable], by simp⟩) ?_
  · rintro done z rest rfl batch t ⟨entries, h⟩
    refine ensures_createService_cases rfl (fun _ _ h => (nomatch h)) (fun hdrops => ?_) (fun hkeeps => ?_)
    · rintro _ ⟨⟩
      rw [List.map_append]
      exact ⟨_, h.drop howned hunused hdrops _⟩
    · refine Ensures.imp ((returns_serviceCreate_new hnew hnil h.owned (fun id hid hfresh => ?_)).and
        (Returns.invariant (fun _ o r h => h.dbStep o r) _ h.owned)) ?_
      · exact h.distinguishes hunused hbatch hid hfresh
      · rintro (e | stored) u hu batch' hbatch'
        · cases hbatch'
        · cases hbatch'
          obtain ⟨⟨row, out, -, hentered, happended⟩, huowned⟩ := hu stored rfl
          rw [List.map_append]
          exact ⟨_, h.keep howned hunused hkeeps hentered happended huowned⟩
  · rintro batch t ⟨entries, h⟩
    refine (returns_createOpenPorts hnew hnil hunused ?_ h).imp (fun _ u ⟨extra, extraBindings, hu⟩ =>
      ⟨entries, extra, extraBindings, hu⟩)
    rintro _ hmem
    obtain ⟨z, hz, rfl⟩ := List.mem_map.mp hmem
    exact hbatch.manual z hz

end services

end VantageNet.Inventory
