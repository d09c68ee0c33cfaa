import VantageNet.Inventory.Exclusivity

/-!
Whose rows `discover_host` creates and returns: those of the resulting host and its network, or
not.
-/

namespace VantageNet.Inventory

open Interaction Interaction.Program

/-- The services carry the network of the host they belong to. -/
def Db.Housed (db : Db) : Prop := ∀ s ∈ db.services.rows, db.houses s.base.hostId s.base.networkId

/-- No row of the table has the id. -/
def Db.lacks (db : Db) (k : Kind) (id : Uuid) : Prop := ∀ r ∈ (db.table k).rows, r.id ≠ id

/-- What the call returns and what it creates belongs to the resulting host and to network `n`. -/
structure Isolated (db : Db) (n : Uuid) (res : HostResponse) (t : Db) : Prop where
  host : res.host.base.networkId = n
  interfaces : ∀ i ∈ res.interfaces, i.base.hostId = res.host.id ∧ i.base.networkId = n
  ports : ∀ p ∈ res.ports, p.base.hostId = res.host.id ∧ p.base.networkId = n
  services : ∀ s ∈ res.services, s.base.hostId = res.host.id ∧ s.base.networkId = n ∧
    ∀ b ∈ s.base.bindings, b.base.serviceId = s.id ∧ b.base.networkId = n
  newInterfaces : ∀ i ∈ t.interfaces.rows, db.lacks .interface i.id →
    i.base.hostId = res.host.id ∧ i.base.networkId = n
  newPorts : ∀ p ∈ t.ports.rows, db.lacks .port p.id → p.base.hostId = res.host.id ∧ p.base.networkId = n
  newServices : ∀ s ∈ t.services.rows, db.lacks .service s.id → s.base.hostId = res.host.id ∧ s.base.networkId = n
  newBindings : ∀ b ∈ t.bindings.rows, db.lacks .binding b.id → b.base.networkId = n ∧
    ∃ s ∈ t.services.rows, s.id = b.base.serviceId ∧ s.base.hostId = res.host.id

/-- What the interface comes to belongs to the host. -/
def ownInterface (host : Host) (db : Db) (interface : Interface) : Prop :=
  match db.storedFor .interface (interface.onHost host.id) with
  | some row => row.base.hostId = host.id ∧ row.base.networkId = host.base.networkId
  | none => interface.base.networkId = host.base.networkId

def ownPort (host : Host) (db : Db) (port : Port) : Prop :=
  match db.storedFor .port (port.withHost host.id host.base.networkId) with
  | some row => row.base.hostId = host.id ∧ row.base.networkId = host.base.networkId
  | none => True

section parts

variable {db t : Db}

theorem Placed.interface_iff {host : Host} {interface row : Interface} {new : Uuid → Prop}
    (h : Placed (k := .interface) new db (interface.onHost host.id) row t) :
    row.base.hostId = host.id ∧ row.base.networkId = host.base.networkId ↔ ownInterface host db interface := by
  unfold ownInterface
  rcases h.storedFor with ⟨hstored, -⟩ | ⟨hnone, hbase⟩
  · rw [hstored]
  · rw [hnone, hbase]
    exact and_iff_right rfl

theorem Placed.port_iff {host : Host} {port row : Port} {new : Uuid → Prop}
    (h : Placed (k := .port) new db (port.withHost host.id host.base.networkId) row t) :
    row.base.hostId = host.id ∧ row.base.networkId = host.base.networkId ↔ ownPort host db port := by
  unfold ownPort
  rcases h.storedFor with ⟨hstored, -⟩ | ⟨hnone, hbase⟩
  · rw [hstored]
  · rw [hnone, hbase, iff_true]
    exact ⟨rfl, rfl⟩

end parts

/-- What the call has added to the services and bindings of `db` by then is the host's. -/
structure Confined (db : Db) (hostId n : Uuid) (t : Db) : Prop where
  network : ∀ s ∈ t.services.rows, s.base.hostId = hostId → s.base.networkId = n
  services : ∀ s ∈ t.services.rows, db.lacks .service s.id → s.base.hostId = hostId
  bindings : ∀ b ∈ t.bindings.rows, db.lacks .binding b.id → b.base.networkId = n ∧
    ∃ s ∈ t.services.rows, s.id = b.base.serviceId ∧ s.base.hostId = hostId

def Service.OwnedBy (hostId n : Uuid) (service : Service) : Prop :=
  service.base.hostId = hostId ∧ service.base.networkId = n ∧
    ∀ b ∈ service.base.bindings, b.base.serviceId = service.id ∧ b.base.networkId = n

section services

variable {db s t : Db} {hostId n : Uuid}

/-- The target's row and bindings have changed, and no other: so it stays confined when they are the host's. -/
theorem Confined.change (h : Confined db hostId n s) (target : Uuid)
    (hservices : ∀ r ∈ t.services.rows, r.id ≠ target → r ∈ s.services.rows)
    (hkept : ∀ r ∈ s.services.rows, r.id ≠ target → r ∈ t.services.rows)
    (htarget : ∃ r ∈ t.services.rows, r.id = target)
    (hown : ∀ r ∈ t.services.rows, r.id = target → r.base.hostId = hostId ∧ r.base.networkId = n)
    (hbindings : ∀ b ∈ t.bindings.rows, b ∈ s.bindings.rows ∨ b.base.serviceId = target ∧ b.base.networkId = n) :
    Confined db hostId n t := by
  refine ⟨fun r hr hhost => ?_, fun r hr hnew => ?_, fun b hb hnew => ?_⟩
  · by_cases hid : r.id = target
    · exact (hown r hr hid).2
    · exact h.network r (hservices r hr hid) hhost
  · by_cases hid : r.id = target
    · exact (hown r hr hid).1
    · exact h.services r (hservices r hr hid) hnew
  · obtain ⟨row, hrow, hrowId⟩ := htarget
    rcases hbindings b hb with hold | ⟨hservice, hnetwork⟩
    · obtain ⟨hnetwork, r, hr, hid, hhost⟩ := h.bindings b hold hnew
      refine ⟨hnetwork, ?_⟩
      by_cases htarget : r.id = target
      · exact ⟨row, hrow, hrowId.trans (htarget.symm.trans hid), (hown row hrow hrowId).1⟩
      · exact ⟨r, hkept r hr htarget, hid, hhost⟩
    · exact ⟨hnetwork, row, hrow, hrowId.trans hservice.symm, (hown row hrow hrowId).1⟩

theorem SavedFor.ownedBy (service : Service) {r : Except Error (List Binding)} {saved : List Binding}
    (h : SavedFor s service.id service.children r t) (hr : r = .ok saved) (hhost : service.base.hostId = hostId)
    (hnetwork : service.base.networkId = n) : (ServiceService.withBindings saved service).OwnedBy hostId n := by
  rcases h with ⟨-, e, he⟩ | ⟨done, out, -, hsaving, hresult⟩
  · rw [he] at hr
    cases hr
  · obtain ⟨rfl, rfl⟩ := hresult saved hr
    refine ⟨hhost, hnetwork, fun b hb => ?_⟩
    obtain ⟨c, hc, hsaved⟩ := hsaving.child hb
    obtain ⟨b', -, rfl⟩ := List.mem_map.mp hc
    rw [hsaved.base]
    exact ⟨rfl, hnetwork⟩

theorem SavedFor.mem_bindings (service : Service) {r : Except Error (List Binding)}
    (h : SavedFor s service.id service.children r t) :
    ∀ b ∈ t.bindings.rows, b ∈ s.bindings.rows ∨
      b.base.serviceId = service.id ∧ b.base.networkId = service.base.networkId := by
  intro b hb
  obtain ⟨-, hothers, hown⟩ := h.target
  by_cases hid : b.base.serviceId = service.id
  · rcases hown b hb hid with hold | ⟨c, hc, hsaved⟩
    · exact .inl hold
    · obtain ⟨b', -, rfl⟩ := List.mem_map.mp hc
      rw [hsaved.base]
      exact .inr ⟨rfl, rfl⟩
  · exact .inl ((hothers b hid).mp hb)

theorem Stored.confined {service : Service} {r : Except Error Service} (h : Stored s service r t)
    (hhost : service.base.hostId = hostId) (hnetwork : service.base.networkId = n) (hs : Confined db hostId n s) :
    Confined db hostId n t ∧ ∀ stored, r = .ok stored → stored.OwnedBy hostId n := by
  cases h with
  | refused e => exact ⟨hs, fun _ h => (nomatch h)⟩
  | @merged existing hmerges now hapart r t hsaved =>
    obtain ⟨row, hrow, hrowHost, hloaded⟩ := hmerges.row
    have hmem := mem_services_merged hsaved
    have hexisting : existing.base.hostId = hostId ∧ existing.base.networkId = n := by
      rw [hloaded.eq]
      exact ⟨hrowHost.trans hhost, hs.network row hrow (hrowHost.trans hhost)⟩
    refine ⟨hs.change existing.id ?_ ?_ ⟨_, (hmem _).mpr (.inl rfl), rfl⟩ ?_ ?_, ?_⟩
    · intro r hr hne
      rcases (hmem r).mp hr with rfl | ⟨hr, -⟩
      · exact absurd rfl hne
      · exact hr
    · exact fun r hr hne => (hmem r).mpr (.inr ⟨hr, hne⟩)
    · intro r hr hid
      rcases (hmem r).mp hr with rfl | ⟨-, hne⟩
      · exact hexisting
      · exact absurd hid hne
    · intro b hb
      have hb' := hsaved.mem_bindings { upsertedService existing service with updatedAt := now } b hb
      exact hb'.imp_right (fun h => ⟨h.1, h.2.trans hexisting.2⟩)
    · rintro stored hr
      rcases r with e | saved
      · cases hr
      · cases hr
        exact hsaved.ownedBy { upsertedService existing service with updatedAt := now } rfl hexisting.1 hexisting.2
  | @inserted position hunmatched hvalid hapart r t hsaved =>
    have hmem := mem_services_inserted hsaved
    refine ⟨hs.change service.id ?_ ?_ ⟨_, (hmem _).mpr (.inr rfl), rfl⟩ ?_ ?_, ?_⟩
    · intro r hr hne
      rcases (hmem r).mp hr with hr | rfl
      · exact hr
      · exact absurd rfl hne
    · exact fun r hr _ => (hmem r).mpr (.inl hr)
    · intro r hr hid
      rcases (hmem r).mp hr with hr | rfl
      · exact absurd hid (hapart r hr).1
      · exact ⟨hhost, hnetwork⟩
    · intro b hb
      exact (hsaved.mem_bindings service b hb).imp_right (fun h => ⟨h.1, h.2.trans hnetwork⟩)
    · rintro stored hr
      rcases r with e | saved
      · cases hr
      · cases hr
        exact hsaved.ownedBy { service with base := { service.base with position } } rfl hhost hnetwork

end services

section call

variable {may : Db → (o : DbOp) → o.Reply → Prop} {db : Db} {host : Host} {interfaces : List Interface}
  {ports : List Port} {services : List Service}

/-- The rows of the table are those of `db` and the ones in `out`. -/
def Added (db : Db) (k : Kind) (out : List (Row k)) (t : Db) : Prop :=
  ∀ r ∈ (t.table k).rows, r ∈ (db.table k).rows ∨ r ∈ out

theorem Added.placed {k : Kind} {s t : Db} {out : List (Row k)} (h : Added db k out s) {new : Uuid → Prop}
    {entity row : Row k} (hrow : Placed new s entity row t) (hk : columns k row = row) :
    Added db k (out ++ [row]) t := by
  have hold (r : Row k) (hr : r ∈ (s.table k).rows) : r ∈ (db.table k).rows ∨ r ∈ out ++ [row] :=
    (h r hr).imp_right (List.mem_append_left _)
  cases hrow with
  | known => exact hold
  | found => exact hold
  | made hnew hbase hid hnil hapart =>
    intro r hr
    rw [table_withTable, Table.rows_insert, List.mem_append, List.mem_singleton, hk] at hr
    rcases hr with hr | rfl
    · exact hold r hr
    · exact .inr (by simp)

/-- The host is a stored one of the network, or none is stored under its id. -/
def Settled (db : Db) (host created : Host) : Prop :=
  created.base.networkId = host.base.networkId ∧
    (db.houses created.id host.base.networkId ∨ ∀ h ∈ db.hosts.rows, h.id ≠ created.id)

theorem ensures_createParts_added : Ensures dbStep may (fun r t => ∀ h is ps, r = .ok (h, is, ps) →
      Settled db host h ∧ Added db .interface is t ∧ Added db .port ps t)
    (HostService.createParts .upsert host interfaces ports) db := by
  refine ensures_createParts (fun _ _ _ => trivial)
    (fun created _ out t => Settled db host created ∧ Added db .interface out t ∧ Added db .port [] t)
    (fun created is _ out t => Settled db host created ∧ Added db .interface is t ∧ Added db .port out t) ?_ ?_ ?_ ?_
  · intro aligned created t haligned hcreated
    have hinterfaces : t.table .interface = db.table .interface := hcreated.frame .interface (by simp)
    have hports : t.table .port = db.table .port := hcreated.frame .port (by simp)
    have hnetwork : created.base.networkId = host.base.networkId := by rw [hcreated.network, haligned.base_eq]
    refine ⟨⟨hnetwork, hnetwork ▸ hcreated.known.imp_left And.left⟩, fun r hr => .inl ?_, fun r hr => .inl ?_⟩
    · rwa [hinterfaces] at hr
    · rwa [hports] at hr
  · rintro created done x rest - out s row t ⟨hsettled, hinterfaces, hports⟩ hrow
    have hframe : t.table .port = s.table .port := hrow.sameBut .port (by simp)
    exact ⟨hsettled, hinterfaces.placed hrow rfl, by unfold Added; rw [hframe]; exact hports⟩
  · exact fun created out t h => h
  · rintro created is done x rest - out s row t ⟨hsettled, hinterfaces, hports⟩ hrow
    have hframe : t.table .interface = s.table .interface := hrow.sameBut .interface (by simp)
    exact ⟨hsettled, by unfold Added; rw [hframe]; exact hinterfaces, hports.placed hrow rfl⟩

theorem Db.Housed.confined (h : db.Housed) {created : Host} (hsettled : Settled db host created) {t : Db}
    (hservices : t.services = db.services) (hbindings : t.bindings = db.bindings) :
    Confined db created.id host.base.networkId t := by
  refine ⟨fun s hs hhost => ?_, fun s hs hnew => ?_, fun b hb hnew => ?_⟩
  · rw [hservices] at hs
    obtain ⟨owner, howner, hid, hnetwork⟩ := h s hs
    rcases hsettled.2 with ⟨stored, hstored, hstoredId, hstoredNetwork⟩ | hnone
    · rw [← hnetwork, ← hstoredNetwork,
        eq_of_id_eq (t := db.hosts) howner hstored (hid.trans (hhost.trans hstoredId.symm))]
    · exact absurd (hid.trans hhost) (hnone owner howner)
  · rw [hservices] at hs
    exact absurd rfl (hnew s hs)
  · rw [hbindings] at hb
    exact absurd rfl (hnew b hb)

/-- What the loop over the services keeps. -/
structure Staying (db : Db) (host h : Host) (is : List Interface) (ps : List Port) (created : List Service) (t : Db) :
    Prop where
  network : h.base.networkId = host.base.networkId
  confined : Confined db h.id host.base.networkId t
  interfaces : Added db .interface is t
  ports : Added db .port ps t
  created : ∀ s ∈ created, Service.OwnedBy h.id host.base.networkId s

theorem Staying.then {h : Host} {is : List Interface} {ps : List Port} {created created' : List Service} {t u : Db}
    (hstay : Staying db host h is ps created t) (hframe : t.SameBut [.service, .binding, .groupBinding] u)
    (hconfined : Confined db h.id host.base.networkId u)
    (hcreated : ∀ s ∈ created', s ∈ created ∨ Service.OwnedBy h.id host.base.networkId s) :
    Staying db host h is ps created' u := by
  have hinterfaces : u.table .interface = t.table .interface := hframe .interface (by simp)
  have hports : u.table .port = t.table .port := hframe .port (by simp)
  refine ⟨hstay.network, hconfined, ?_, ?_, fun s hs => (hcreated s hs).elim (hstay.created s) id⟩
  · unfold Added
    rw [hinterfaces]
    exact hstay.interfaces
  · unfold Added
    rw [hports]
    exact hstay.ports

theorem ensures_serviceCreate_staying {h : Host} {is : List Interface} {ps : List Port} {created : List Service}
    {t : Db} (hstay : Staying db host h is ps created t) {service : Service} (hhost : service.base.hostId = h.id)
    (hnetwork : service.base.networkId = h.base.networkId) :
    Ensures dbStep may (fun r u => ∀ stored, r = .ok stored → Staying db host h is ps (created ++ [stored]) u)
      (ServiceService.create service) t := by
  refine ensures_serviceCreate (fun e _ hr => (nomatch hr)) (fun prepared hprepared _ r u hstored => ?_)
  have hbase := hprepared.base
  obtain ⟨hconfined, howned⟩ := hstored.confined (by rw [hbase]; exact hhost)
    (by rw [hbase]; exact hnetwork.trans hstay.network) hstay.confined
  have hframe : t.SameBut [.service, .binding, .groupBinding] u := by
    rcases hstored.target with rfl | ⟨target, htarget⟩
    · exact .refl _ _
    · exact htarget.frame
  intro stored hr
  refine hstay.then hframe hconfined (fun s hs => ?_)
  rcases List.mem_append.mp hs with hs | hs
  · exact .inl hs
  · rw [List.mem_singleton.mp hs]
    exact .inr (howned stored hr)

theorem ensures_createWithChildren_staying (hhoused : db.Housed) :
    Ensures dbStep may (fun r t => ∀ res : HostResponse, r = .ok res →
      Staying db host res.host res.interfaces res.ports res.services t)
      (HostService.createWithChildren .upsert host interfaces ports services) db := by
  refine ensures_createWithChildren (fun h is ps r t => ∀ batch, r = .ok batch → Staying db host h is ps batch.created t)
    (fun e t _ res hr => (nomatch hr)) ?_ ?_ (fun _ _ _ e t _ res hr => (nomatch hr)) ?_
  · apply (((touches_createParts .upsert host interfaces ports).ensures db).and ensures_createParts_added).imp
    rintro r t ⟨hframe, ht⟩ h is ps hr batch ⟨⟩
    obtain ⟨hsettled, hinterfaces, hports⟩ := ht h is ps hr
    exact ⟨hsettled.1, hhoused.confined hsettled (hframe .service (by simp)) (hframe .binding (by simp)), hinterfaces,
      hports, fun s hs => (nomatch hs)⟩
  · intro h is ps service _ batch t hstay
    refine ensures_createService_cases rfl (fun e _ hr => (nomatch hr)) ?_ ?_
    · rintro - _ ⟨⟩
      exact hstay batch rfl
    · intro _
      apply (ensures_serviceCreate_staying (hstay batch rfl) rfl rfl).imp
      rintro (e | stored) u hu
      · exact fun _ hr => (nomatch hr)
      · rintro _ ⟨⟩
        exact hu stored rfl
  · intro h is ps batch t hstay
    unfold HostService.createOpenPorts
    split_ifs
    · rintro _ ⟨⟩
      exact hstay batch rfl
    · apply Ensures.bind
      apply ensures_newEntity
      intro id now _
      apply Ensures.bind
      apply (ensures_serviceCreate_staying (hstay batch rfl) rfl rfl).imp
      rintro (e | stored) u hu
      · exact fun _ hr => (nomatch hr)
      · rintro _ ⟨⟩
        exact hu stored rfl

/-- The children returned belong to the host returned exactly when each loop meets its condition. -/
theorem eachPart_iff {ω : Oracle dbSig} {res : HostResponse}
    (hres : (run dbStep ω 0 (HostService.createWithChildren .upsert host interfaces ports services) db).result =
      .ok res) :
    EachPart ω ownInterface ownPort db host interfaces ports ↔
      (∀ i ∈ res.interfaces, i.base.hostId = res.host.id ∧ i.base.networkId = res.host.base.networkId) ∧
      ∀ p ∈ res.ports, p.base.hostId = res.host.id ∧ p.base.networkId = res.host.base.networkId := by
  obtain ⟨n, t, m, u, hcreated, hinterfaces, hports⟩ := ok_createWithChildren hres
  unfold EachPart
  simp only [hcreated, hinterfaces]
  refine and_congr (Iff.symm (throughout_iff (fun s i => ?_) (congrArg Outcome.result hinterfaces)))
    (Iff.symm (throughout_iff (fun s p => ?_) hports))
  · refine ensures_createInterface (fun _ _ _ => trivial) (fun e _ h => (nomatch h)) ?_
    rintro row t hrow _ ⟨⟩
    exact hrow.interface_iff
  · refine ensures_createPort (fun _ _ _ => trivial) (fun e _ h => (nomatch h)) ?_
    rintro row t hrow _ ⟨⟩
    exact hrow.port_iff

end call

theorem discovery_isolated_iff (db : Db) (hhoused : db.Housed) (ω : Oracle dbSig) (host : Host)
    (interfaces : List Interface) (ports : List Port) (services : List Service) (res : HostResponse)
    (hres : (run dbStep ω 0 (HostService.discoverHost host interfaces ports services) db).result = .ok res) :
    Isolated db host.base.networkId res
      (run dbStep ω 0 (HostService.discoverHost host interfaces ports services) db).state ↔
      EachPart ω ownInterface ownPort db host interfaces ports := by
  have hstay := (ensures_createWithChildren_staying hhoused).run_any ω 0 res hres
  rw [eachPart_iff hres, hstay.network]
  constructor
  · exact fun h => ⟨h.interfaces, h.ports⟩
  · rintro ⟨hinterfaces, hports⟩
    refine ⟨hstay.network, hinterfaces, hports, hstay.created, ?_, ?_, ?_, ?_⟩
    · intro i hi hnew
      exact hinterfaces i ((hstay.interfaces i hi).resolve_left (fun hold => hnew i hold rfl))
    · intro p hp hnew
      exact hports p ((hstay.ports p hp).resolve_left (fun hold => hnew p hold rfl))
    · intro s hs hnew
      have hhost := hstay.confined.services s hs hnew
      exact ⟨hhost, hstay.confined.network s hs hhost⟩
    · exact hstay.confined.bindings

instance (db : Db) (id networkId : Uuid) : Decidable (db.houses id networkId) :=
  inferInstanceAs (Decidable (∃ h ∈ db.hosts.rows, h.id = id ∧ h.base.networkId = networkId))

instance (db : Db) : Decidable db.Housed :=
  inferInstanceAs (Decidable (∀ s ∈ db.services.rows, db.houses s.base.hostId s.base.networkId))

/-- `webOn80` beside host 11 of network 8, which has interface 12. -/
def twoTenants : Db := { webOn80 with
  hosts := ⟨webOn80.hosts.rows ++ [⟨11, 0, 0, ⟨"db", 8, none, none, .manual, none, false, []⟩⟩], by decide⟩
  interfaces := ⟨webOn80.interfaces.rows ++ [⟨12, 0, 0, ⟨8, 11, 6, .v4 50, none, none, 0⟩⟩], by decide⟩ }

def reportedInterface (id : Uuid) : Interface := ⟨id, 0, 0, ⟨9, 0, 7, .v4 40, none, none, 0⟩⟩

theorem discovery_isolated_new_interface :
    twoTenants.Housed ∧ ∃ res, (run dbStep (granted 1) 0
      (HostService.discoverHost reportedHost [reportedInterface 22] reportedPorts []) twoTenants).result = .ok res ∧
      Isolated twoTenants 9 res (run dbStep (granted 1) 0
        (HostService.discoverHost reportedHost [reportedInterface 22] reportedPorts []) twoTenants).state := by
  refine ⟨by decide, _, rfl, (discovery_isolated_iff twoTenants (by decide) (granted 1) reportedHost
    [reportedInterface 22] reportedPorts [] _ rfl).mpr ⟨⟨?_, trivial⟩, ?_, ?_, trivial⟩⟩
  · exact rfl
  · exact ⟨rfl, rfl⟩
  · exact ⟨rfl, rfl⟩

/-- The batch names an interface by the id of one of another network, and that one is returned. -/
theorem foreign_interface_returned :
    ∃ res, (run dbStep (granted 1) 0 (HostService.discoverHost reportedHost [reportedInterface 12] [] [])
      twoTenants).result = .ok res ∧ ¬ Isolated twoTenants 9 res (run dbStep (granted 1) 0
        (HostService.discoverHost reportedHost [reportedInterface 12] [] []) twoTenants).state := by
  refine ⟨_, rfl, fun h => ?_⟩
  have hown := h.interfaces
  revert hown
  decide

end VantageNet.Inventory
