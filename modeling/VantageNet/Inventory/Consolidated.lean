import VantageNet.Inventory.Atomicity
import VantageNet.Inventory.Relocating

/-!
What `consolidate_hosts` leaves of two hosts, when it is refused and when it succeeds.
-/

namespace VantageNet.Inventory

open Interaction Interaction.Program

variable {may : Db → (o : DbOp) → o.Reply → Prop} {db t : Db} {daemon : Uuid → Except Error Bool}
  {destination other : Host}

def Db.withoutHost (db : Db) (id : Uuid) : Db := db.delete .host (fun h : Host => h.id = id)

theorem ensures_refuseDaemon {id : Uuid} {post : Except Error Unit → Db → Prop} (herror : ∀ e, post (.error e) db)
    (hok : post (.ok ()) db) : Ensures dbStep may post (HostService.refuseDaemon daemon id) db := by
  unfold HostService.refuseDaemon
  split
  · exact herror _
  · exact herror _
  · exact hok

theorem ensures_deleteHost {id : Uuid} {post : Except Error Unit → Db → Prop} (herror : ∀ e, post (.error e) db)
    (hok : post (.ok ()) (db.withoutHost id)) : Ensures dbStep may post (HostService.deleteHost daemon id) db := by
  apply Ensures.bind
  refine ensures_refuseDaemon herror ?_
  apply Ensures.bind
  refine ensures_getById (k := .host) herror ?_
  cases (db.table .host).rows.find? (fun r => r.id = id) with
  | none => exact herror _
  | some _ =>
    apply ensures_acquire
    apply Ensures.bind
    exact ensures_deleteWhere herror (ensures_release hok)

/-- All that a consolidation comes to once it has begun. -/
theorem ensures_consolidateHosts (hne : destination.id ≠ other.id) (hdestination : destination ∈ db.hosts.rows)
    {post : Except Error HostResponse → Db → Prop}
    (herror : ∀ e t, Moved destination other db t → post (.error e) t)
    (hdeleted : ∀ r s t updated interfaceIdMap portIdMap destinationServices otherServices,
      Parted db destination other updated interfaceIdMap portIdMap s →
      Loaded s (fun r => r.base.hostId = destination.id) destinationServices →
      Loaded s (fun r => r.base.hostId = other.id) otherServices →
      Transferring db s destination other interfaceIdMap portIdMap destinationServices otherServices t →
      post r (t.withoutHost other.id)) :
    Ensures dbStep may post (HostService.consolidateHosts daemon destination other) db := by
  have hunchanged (e : Error) : post (.error e) db := herror e db (.refl _ _ _)
  unfold HostService.consolidateHosts
  rw [if_neg hne]
  apply Ensures.bind
  refine ensures_refuseDaemon hunchanged ?_
  apply ensures_acquire
  apply Ensures.bind
  refine ensures_transferParts hne hdestination herror (fun updated interfaceIdMap portIdMap s hparted => ?_)
  apply Ensures.bind
  refine ensures_transferServices hparted herror (fun destinationServices otherServices t hdest hother ht => ?_)
  have hpost (r : Except Error HostResponse) : post r (t.withoutHost other.id) :=
    hdeleted r s t updated interfaceIdMap portIdMap destinationServices otherServices hparted hdest hother ht
  apply Ensures.bind
  refine ensures_deleteHost (fun e => herror e t ht.moved) ?_
  refine (HostService.touches_loadChildrenForHost (K := []) updated.id).then (fun e u hu => hu.eq ▸ hpost _) (fun children u hu => ?_)
  rw [hu.eq]
  exact ensures_release (hpost _)

/-- The consolidation is turned down before it has begun. -/
def declines (daemon : Uuid → Except Error Bool) (destination other : Host) : Prop :=
  destination.id = other.id ∨ daemon other.id ≠ .ok false

theorem consolidateHosts_error (db : Db) (ω : Oracle dbSig) (daemon : Uuid → Except Error Bool)
    (destination other : Host) (hdestination : destination ∈ db.hosts.rows) :
    let o := run dbStep ω 0 (HostService.consolidateHosts daemon destination other) db
    (declines daemon destination other → (∃ e, o.result = .error e) ∧ o.state = db) ∧
    ∀ e, o.result = .error e → Moved destination other db o.state ∨
      ∃ t, Moved destination other db t ∧ o.state = t.withoutHost other.id := by
  have hdeclined (h : declines daemon destination other) :
      ∃ e, run dbStep ω 0 (HostService.consolidateHosts daemon destination other) db = ⟨.error e, 0, db⟩ := by
    unfold HostService.consolidateHosts
    split_ifs with hsame
    · exact ⟨_, rfl⟩
    · have hdaemon := h.resolve_left hsame
      unfold HostService.refuseDaemon
      rcases hreply : daemon other.id with e | ⟨_ | _⟩
      · exact ⟨e, rfl⟩
      · exact absurd hreply hdaemon
      · exact ⟨_, rfl⟩
  refine ⟨fun h => ?_, fun e he => ?_⟩
  · obtain ⟨e, hrun⟩ := hdeclined h
    rw [hrun]
    exact ⟨⟨e, rfl⟩, rfl⟩
  · by_cases hne : destination.id = other.id
    · obtain ⟨e, hrun⟩ := hdeclined (.inl hne)
      rw [hrun]
      exact .inl (.refl _ _ _)
    · have hensures : Ensures dbStep (fun _ _ _ => True)
          (fun _ u => Moved destination other db u ∨ ∃ t, Moved destination other db t ∧ u = t.withoutHost other.id)
          (HostService.consolidateHosts daemon destination other) db := by
        refine ensures_consolidateHosts hne hdestination (fun _ _ ht => .inl ht) ?_
        intro _ _ t _ _ _ _ _ _ _ _ ht
        exact .inr ⟨t, ht.moved, rfl⟩
      exact hensures.run_any ω 0

def webHostRow : Host := ⟨1, 0, 0, ⟨"web", 9, none, none, .manual, none, false, []⟩⟩

def apacheHostRow : Host := ⟨11, 0, 0, ⟨"apache", 9, none, none, .manual, none, false, []⟩⟩

/-- Beside `webHost` the host 11 of the same network, with the interface 12, the port 14 and the service 16. -/
def twoHosts (port : PortConfig) (hport : ∀ r ∈ (webHost .empty).ports.rows, Apart .port r ⟨14, 0, 0, ⟨11, 9, port⟩⟩)
    (bindings : Rows .binding) : Db :=
  { webHost bindings with
    hosts := (webHost .empty).hosts.insert apacheHostRow (by decide)
    interfaces := (webHost .empty).interfaces.insert ⟨12, 0, 0, ⟨9, 11, 7, .v4 40, none, none, 0⟩⟩ (by decide)
    ports := (webHost .empty).ports.insert ⟨14, 0, 0, ⟨11, 9, port⟩⟩ hport
    services := (webHost .empty).services.insert
      ⟨16, 0, 0, ⟨11, 9, ⟨"Apache", false, false, false⟩, "apache", [], none, .manual, [], 0⟩⟩ (by decide) }

def apacheBinding (id : Uuid) (bindingType : BindingType) : Binding := ⟨id, 0, 0, ⟨16, 9, bindingType⟩⟩

/-- Both hosts have a service on port 80. -/
def bothOnPort80 : Db := twoHosts ⟨80, .tcp⟩ (by decide)
  ⟨[webBinding 10 (.port 4 none), apacheBinding 17 (.port 14 none)], by decide⟩

theorem consolidateHosts_declined_and_late :
    let declined := run dbStep (granted 8) 0
      (HostService.consolidateHosts (fun _ => .ok true) webHostRow apacheHostRow) bothOnPort80
    let late := run dbStep (granted 8) 0
      (HostService.consolidateHosts (fun _ => .ok false) webHostRow apacheHostRow) bothOnPort80
    ((∃ e, declined.result = .error e) ∧ declined.state = bothOnPort80) ∧
    (Moved webHostRow apacheHostRow bothOnPort80 late.state ∨
      ∃ t, Moved webHostRow apacheHostRow bothOnPort80 t ∧ late.state = t.withoutHost 11) :=
  ⟨(consolidateHosts_error bothOnPort80 (granted 8) (fun _ => .ok true) webHostRow apacheHostRow (by decide)).1
      (.inr (by decide)),
    (consolidateHosts_error bothOnPort80 (granted 8) (fun _ => .ok false) webHostRow apacheHostRow (by decide)).2
      (.serviceUpdate "apache" (.portClaimed 4 "web")) rfl⟩

/-- The other host's interface has moved when the claim of its service on port 80 is turned down. -/
theorem consolidateHosts_partial :
    let o := run dbStep (granted 8) 0
      (HostService.consolidateHosts (fun _ => .ok false) webHostRow apacheHostRow) bothOnPort80
    o.result = .error (.serviceUpdate "apache" (.portClaimed 4 "web")) ∧
      o.state.ofHost 1 ≠ bothOnPort80.ofHost 1 ∧ o.state.ofHost 11 ≠ bothOnPort80.ofHost 11 := by
  refine ⟨rfl, by decide, by decide⟩

/-- The bindings of the host's services are on its own interfaces and ports. -/
def Db.RefersOwn (db : Db) (hostId : Uuid) : Prop :=
  ∀ s ∈ db.services.rows, s.base.hostId = hostId → ∀ b ∈ db.bindings.rows, b.base.serviceId = s.id →
    db.RefersTo hostId b.base.bindingType

instance (db : Db) (hostId : Uuid) : Decidable (db.RefersOwn hostId) :=
  inferInstanceAs (Decidable (∀ s ∈ db.services.rows, _ → ∀ b ∈ db.bindings.rows, _ → db.RefersTo hostId _))

section corresponding

variable (db t : Db) (destination : Uuid)

/-- `j` is the destination's interface at the address or with the MAC address of the interface `i`. -/
def InterfaceFor (i j : Uuid) : Prop :=
  ∃ a ∈ db.interfaces.rows, a.id = i ∧
    ∃ d ∈ t.interfaces.rows, d.id = j ∧ d.base.hostId = destination ∧ HostService.sameInterface d a = true

def PortFor (p q : Uuid) : Prop :=
  ∃ a ∈ db.ports.rows, a.id = p ∧
    ∃ d ∈ t.ports.rows, d.id = q ∧ d.base.hostId = destination ∧ d.base.portType = a.base.portType

def Corresponds : BindingType → BindingType → Prop
  | .interface i, .interface j => InterfaceFor db t destination i j
  | .port p none, .port q none => PortFor db t destination p q
  | .port p (some i), .port q (some j) => PortFor db t destination p q ∧ InterfaceFor db t destination i j
  | _, _ => False

instance (i j : Uuid) : Decidable (InterfaceFor db t destination i j) :=
  inferInstanceAs (Decidable (∃ a ∈ db.interfaces.rows, _ ∧ ∃ d ∈ t.interfaces.rows, _))

instance (p q : Uuid) : Decidable (PortFor db t destination p q) :=
  inferInstanceAs (Decidable (∃ a ∈ db.ports.rows, _ ∧ ∃ d ∈ t.ports.rows, _))

instance : (a b : BindingType) → Decidable (Corresponds db t destination a b)
  | .interface i, .interface j => inferInstanceAs (Decidable (InterfaceFor db t destination i j))
  | .port p none, .port q none => inferInstanceAs (Decidable (PortFor db t destination p q))
  | .port p (some i), .port q (some j) =>
    inferInstanceAs (Decidable (PortFor db t destination p q ∧ InterfaceFor db t destination i j))
  | .interface _, .port _ _ | .port _ none, .interface _ | .port _ (some _), .interface _ | .port _ none, .port _ (some _)
  | .port _ (some _), .port _ none => .isFalse (fun h : False => h)

/-- The service had the port on all interfaces as well, and that binding stands for `b`. -/
def CoveredBy (b b' : Binding) : Prop :=
  ∃ p i q, b.base.bindingType = .port p (some i) ∧ b'.base.bindingType = .port q none ∧
    PortFor db t destination p q ∧ ∃ c ∈ db.bindings.rows, c.base.serviceId = b.base.serviceId ∧
      ∃ p', c.base.bindingType = .port p' none ∧ PortFor db t destination p' q

/-- The service is on the destination under its id, with its bindings. -/
def Consolidated (s : Service) : Prop :=
  (∃ row ∈ t.services.rows, row.id = s.id ∧ row.base.hostId = destination) ∧
    ∀ b ∈ db.bindings.rows, b.base.serviceId = s.id → ∃ b' ∈ t.bindings.rows, b'.base.serviceId = s.id ∧
      (Corresponds db t destination b.base.bindingType b'.base.bindingType ∨ CoveredBy db t destination b b')

end corresponding

structure NothingLost (db : Db) (destination other : Uuid) (t : Db) : Prop where
  interfaces : ∀ i ∈ db.interfaces.rows, i.base.hostId = other →
    ∃ d ∈ t.interfaces.rows, d.base.hostId = destination ∧ HostService.sameInterface d i = true
  ports : ∀ p ∈ db.ports.rows, p.base.hostId = other →
    ∃ d ∈ t.ports.rows, d.base.hostId = destination ∧ d.base.portType = p.base.portType
  services : ∀ s ∈ db.services.rows, s.base.hostId = other →
    (∀ d ∈ db.services.rows, d.base.hostId = destination →
      ¬ (d.base.name = s.base.name ∧ d.base.serviceDefinition.id = s.base.serviceDefinition.id)) →
    Consolidated db t destination s
  own : t.RefersOwn destination

section withoutHost

variable {id hostId : Uuid}

theorem onDeleted_eq (hne : hostId ≠ id) : Db.delete.onDeleted db hostId (fun h : Host => h.id = id) = false := by
  rw [Db.delete.onDeleted, List.any_eq_false]
  rintro h - heq
  simp only [Bool.and_eq_true, decide_eq_true_eq] at heq
  exact hne (heq.2.symm.trans heq.1)

theorem withoutHost_interface (hne : destination.id ≠ id) {i : Interface} (hi : i ∈ t.interfaces.rows)
    (hhost : i.base.hostId = destination.id) : i ∈ (t.withoutHost id).interfaces.rows :=
  List.mem_filter.mpr ⟨hi, by rw [hhost, onDeleted_eq hne]; rfl⟩

theorem withoutHost_port (hne : destination.id ≠ id) {p : Port} (hp : p ∈ t.ports.rows)
    (hhost : p.base.hostId = destination.id) : p ∈ (t.withoutHost id).ports.rows :=
  List.mem_filter.mpr ⟨hp, by rw [hhost, onDeleted_eq hne]; rfl⟩

theorem withoutHost_service (hne : destination.id ≠ id) {s : Service} (hs : s ∈ t.services.rows)
    (hhost : s.base.hostId = destination.id) : s ∈ (t.withoutHost id).services.rows :=
  List.mem_filter.mpr ⟨hs, by rw [hhost, onDeleted_eq hne]; rfl⟩

theorem withoutHost_refersTo (hne : destination.id ≠ id) {type : BindingType} (h : t.RefersTo destination.id type) :
    (t.withoutHost id).RefersTo destination.id type := by
  constructor
  · intro i hi
    obtain ⟨row, hrow, hid, hhost⟩ := h.interface i hi
    exact ⟨row, withoutHost_interface hne hrow hhost, hid, hhost⟩
  · intro p hp
    obtain ⟨row, hrow, hid, hhost⟩ := h.port p hp
    exact ⟨row, withoutHost_port hne hrow hhost, hid, hhost⟩

/-- The deletion of another host takes no binding of a service of the destination along. -/
theorem withoutHost_binding (hne : destination.id ≠ id) {s : Service} (hs : s ∈ t.services.rows)
    (hhost : s.base.hostId = destination.id) {b : Binding} (hb : b ∈ t.bindings.rows) (hservice : b.base.serviceId = s.id)
    (hrefers : t.RefersTo destination.id b.base.bindingType) : b ∈ (t.withoutHost id).bindings.rows := by
  refine List.mem_filter.mpr ⟨hb, ?_⟩
  rw [Bool.not_eq_true', Bool.or_eq_false_iff, Bool.or_eq_false_iff, List.any_eq_false, List.any_eq_false,
    List.any_eq_false]
  refine ⟨⟨fun i hi heq => ?_, fun p hp heq => ?_⟩, fun s' hs' heq => ?_⟩
  · simp only [Bool.and_eq_true, decide_eq_true_eq] at heq
    obtain ⟨row, hrow, hid, hrowHost⟩ := hrefers.interface i.id heq.2
    obtain rfl := eq_of_id_eq (k := .interface) hrow hi hid
    rw [hrowHost, onDeleted_eq hne] at heq
    cases heq.1
  · simp only [Bool.and_eq_true, decide_eq_true_eq] at heq
    obtain ⟨row, hrow, hid, hrowHost⟩ := hrefers.port p.id heq.2
    obtain rfl := eq_of_id_eq (k := .port) hrow hp hid
    rw [hrowHost, onDeleted_eq hne] at heq
    cases heq.1
  · simp only [Bool.and_eq_true, decide_eq_true_eq] at heq
    obtain rfl := eq_of_id_eq (k := .service) hs hs' (hservice.symm.trans heq.2)
    rw [hhost, onDeleted_eq hne] at heq
    cases heq.1

end withoutHost

section nothingLost

variable {s : Db} {updated : Host} {z : Service} {interfaceIdMap portIdMap : IdMap} {destinationServices otherServices : List Service}

theorem isDuplicate_eq_false (hloaded : Loaded s (fun r => r.base.hostId = destination.id) destinationServices)
    (hservices : s.services = db.services) {row : Service} (hz : LoadedFrom s row z)
    (hnone : ∀ d ∈ db.services.rows, d.base.hostId = destination.id →
      ¬ (d.base.name = row.base.name ∧ d.base.serviceDefinition.id = row.base.serviceDefinition.id)) :
    HostService.isDuplicate destinationServices z = false := by
  refine List.any_eq_false.mpr (fun d hd heq => ?_)
  obtain ⟨r, hr, hhost, hd⟩ := hloaded.mem d hd
  refine hnone r (hservices ▸ hr) (by simpa using hhost) ?_
  rw [hd.eq, hz.eq] at heq
  simp only [Bool.and_eq_true, decide_eq_true_eq] at heq
  exact heq

theorem Parted.get_interface (h : Parted db destination other updated interfaceIdMap portIdMap s)
    (hne : destination.id ≠ other.id) (ht : t.interfaces = s.interfaces) {id : Uuid}
    (hid : ∃ row ∈ db.interfaces.rows, row.id = id ∧ row.base.hostId = other.id) :
    ∃ j, interfaceIdMap.get id = some j ∧ InterfaceFor db (t.withoutHost other.id) destination.id id j := by
  obtain ⟨row, hrow, rfl, hhost⟩ := hid
  obtain ⟨d, hd, hdest, hsame, hget⟩ := h.interface row hrow hhost
  exact ⟨d.id, hget, row, hrow, rfl, d, withoutHost_interface hne (ht ▸ hd) hdest, rfl, hdest, hsame⟩

theorem Parted.get_port (h : Parted db destination other updated interfaceIdMap portIdMap s)
    (hne : destination.id ≠ other.id) (ht : t.ports = s.ports) {id : Uuid}
    (hid : ∃ row ∈ db.ports.rows, row.id = id ∧ row.base.hostId = other.id) :
    ∃ q, portIdMap.get id = some q ∧ PortFor db (t.withoutHost other.id) destination.id id q := by
  obtain ⟨row, hrow, rfl, hhost⟩ := hid
  obtain ⟨d, hd, hdest, hsame, hget⟩ := h.port row hrow hhost
  exact ⟨d.id, hget, row, hrow, rfl, d, withoutHost_port hne (ht ▸ hd) hdest, rfl, hdest, hsame⟩

theorem Parted.corresponds (h : Parted db destination other updated interfaceIdMap portIdMap s)
    (hne : destination.id ≠ other.id) (hframe : s.SameBut [.service, .binding, .group, .groupBinding] t)
    {type : BindingType} (hrefers : db.RefersTo other.id type) :
    Corresponds db (t.withoutHost other.id) destination.id type (remapType interfaceIdMap portIdMap type) := by
  have hinterface {id : Uuid} (hid : type.interfaceId = some id) := h.get_interface hne (hframe .interface (by simp))
    (hrefers.interface id hid)
  have hport {id : Uuid} (hid : type.portId = some id) := h.get_port hne (hframe .port (by simp)) (hrefers.port id hid)
  rcases type with i | ⟨p, _ | i⟩
  · obtain ⟨j, hget, hfor⟩ := hinterface rfl
    simp only [remapType, hget, Option.getD_some]
    exact hfor
  · obtain ⟨q, hget, hfor⟩ := hport rfl
    simp only [remapType, hget, Option.getD_some]
    exact hfor
  · obtain ⟨q, hgetPort, hforPort⟩ := hport rfl
    obtain ⟨j, hget, hfor⟩ := hinterface rfl
    simp only [remapType, hget, hgetPort, Option.getD_some, Option.bind_some]
    exact ⟨hforPort, hfor⟩

/-- One binding type stands for another on the destination only where it did so before. -/
theorem coveredBy {b b' c : Binding} {type : BindingType} (hb : Corresponds db t destination.id b.base.bindingType type)
    (hc : Corresponds db t destination.id c.base.bindingType b'.base.bindingType) (hcdb : c ∈ db.bindings.rows)
    (hservice : c.base.serviceId = b.base.serviceId) (hcovers : b'.base.bindingType.covers type = true) :
    CoveredBy db t destination.id b b' := by
  rcases hb' : b'.base.bindingType with j | ⟨q, _ | j⟩
  · simp [hb', BindingType.covers] at hcovers
  · rcases type with j | ⟨q', _ | j⟩
    · simp [hb', BindingType.covers] at hcovers
    · simp [hb', BindingType.covers] at hcovers
    · obtain rfl : q = q' := by simpa [hb', BindingType.covers] using hcovers
      rw [hb'] at hc
      rcases hbtype : b.base.bindingType with i | ⟨p, _ | i⟩
      · rw [hbtype] at hb
        exact hb.elim
      · rw [hbtype] at hb
        exact hb.elim
      · rw [hbtype] at hb
        rcases hctype : c.base.bindingType with i' | ⟨p', _ | i'⟩
        · rw [hctype] at hc
          exact hc.elim
        · rw [hctype] at hc
          exact ⟨p, i, q, hbtype, hb', hb.1, c, hcdb, hservice, p', hctype, hc⟩
        · rw [hctype] at hc
          exact hc.elim
  · simp [hb', BindingType.covers] at hcovers

theorem Transferring.consolidated (h : Transferring db s destination other interfaceIdMap portIdMap destinationServices
      otherServices t) (hparted : Parted db destination other updated interfaceIdMap portIdMap s)
    (hne : destination.id ≠ other.id) {row : Service} (hz : z ∈ otherServices) (hrow : row ∈ db.services.rows)
    (hother : row.base.hostId = other.id) (hloaded : LoadedFrom s row z) (hrefers : db.RefersOwn other.id)
    (hnew : HostService.isDuplicate destinationServices z = false) :
    Consolidated db (t.withoutHost other.id) destination.id row := by
  have hbindings : s.bindings = db.bindings := hparted.frame .binding (by simp)
  have htransferred := h.transferred z hz hnew
  obtain ⟨r, hr, hid, hhost⟩ := htransferred.row
  have hzid := hloaded.id_eq
  have hmem (b : Binding) : b ∈ z.base.bindings ↔ b ∈ db.bindings.rows ∧ b.base.serviceId = row.id := by
    rw [hloaded.mem_bindings, hbindings, hzid]
  have hcorresponds {b : Binding} (hb : b ∈ db.bindings.rows) (hservice : b.base.serviceId = row.id) :
      Corresponds db (t.withoutHost other.id) destination.id b.base.bindingType
        (remapType interfaceIdMap portIdMap b.base.bindingType) :=
    hparted.corresponds hne h.frame (hrefers row hrow hother b hb hservice)
  refine ⟨⟨r, withoutHost_service hne hr hhost, hid.trans hzid, hhost⟩, fun b hb hservice => ?_⟩
  obtain ⟨b', hb', hrepresents⟩ := htransferred.represented b ((hmem b).mpr ⟨hb, hservice⟩)
  obtain ⟨hb', hb'z⟩ := mem_bindingsOf.mp hb'
  refine ⟨b', withoutHost_binding hne hr hhost hb' (hb'z.trans hid.symm) (htransferred.refers b' hb' hb'z),
    hb'z.trans hzid, ?_⟩
  rcases hrepresents with heq | hcovers
  · rw [heq]
    exact .inl (hcorresponds hb hservice)
  · obtain ⟨c, hc, hctype⟩ := htransferred.source b' hb' hb'z
    obtain ⟨hcdb, hcz⟩ := (hmem c).mp hc
    exact .inr (coveredBy (hcorresponds hb hservice) (hctype ▸ hcorresponds hcdb hcz) hcdb (hcz.trans hservice.symm) hcovers)

theorem Transferring.own (h : Transferring db s destination other interfaceIdMap portIdMap destinationServices
      otherServices t) (hne : destination.id ≠ other.id) (hrefers : db.RefersOwn destination.id) : (t.withoutHost other.id).RefersOwn destination.id := by
  intro r hr hhost b hb hservice
  have hr := (List.mem_filter.mp hr).1
  have hb := (List.mem_filter.mp hb).1
  apply withoutHost_refersTo hne
  rcases h.origin r hr with hold | ⟨z, hz, hnew, hid⟩
  · have hnot : ∀ x ∈ db.services.rows, x.base.hostId = other.id → x.id ≠ b.base.serviceId := by
      intro x hx hxother heq
      obtain rfl := eq_of_id_eq (k := .service) hx hold (heq.trans hservice)
      exact hne (hhost.symm.trans hxother)
    have hown := hrefers r hold hhost b ((h.moved.bindings b hnot).mp hb) hservice
    constructor
    · intro i hi
      obtain ⟨row, hrow, hid, hrowHost⟩ := hown.interface i hi
      obtain ⟨row', hrow', hrehomed⟩ := h.moved.interfaces.1 row hrow
      obtain rfl := hrehomed.stays (k := .interface) (fun i : Interface => i.base.hostId) hne hrowHost
      exact ⟨_, hrow', hid, hrowHost⟩
    · intro p hp
      obtain ⟨row, hrow, hid, hrowHost⟩ := hown.port p hp
      obtain ⟨row', hrow', hrehomed⟩ := h.moved.ports.1 row hrow
      obtain rfl := hrehomed.stays (k := .port) (fun p : Port => p.base.hostId) hne hrowHost
      exact ⟨_, hrow', hid, hrowHost⟩
  · exact (h.transferred z hz hnew).refers b hb (hservice.trans hid)

end nothingLost

theorem consolidateHosts_ok (db : Db) (ω : Oracle dbSig) (daemon : Uuid → Except Error Bool) (destination other : Host)
    (hdestination : destination ∈ db.hosts.rows) (hdest : db.RefersOwn destination.id) (hother : db.RefersOwn other.id)
    (hok : (run dbStep ω 0 (HostService.consolidateHosts daemon destination other) db).result.isOk = true) :
    NothingLost db destination.id other.id
      (run dbStep ω 0 (HostService.consolidateHosts daemon destination other) db).state := by
  have hne : destination.id ≠ other.id := by
    intro heq
    unfold HostService.consolidateHosts at hok
    rw [if_pos heq] at hok
    cases hok
  have hensures : Ensures dbStep (fun _ _ _ => True)
      (fun r u => r.isOk = true → NothingLost db destination.id other.id u)
      (HostService.consolidateHosts daemon destination other) db := ?_
  · exact hensures.run_any ω 0 hok
  refine ensures_consolidateHosts hne hdestination (fun _ _ _ h => (nomatch h)) ?_
  intro r s t updated interfaceIdMap portIdMap destinationServices otherServices hparted hdestLoaded hotherLoaded ht _
  have hservices : s.services = db.services := hparted.frame .service (by simp)
  have hinterfaces : t.interfaces = s.interfaces := ht.frame .interface (by simp)
  have hports : t.ports = s.ports := ht.frame .port (by simp)
  refine ⟨fun i hi hhost => ?_, fun p hp hhost => ?_, fun row hrow hhost hnone => ?_,
    ht.own hne hdest⟩
  · obtain ⟨d, hd, hdhost, hsame, -⟩ := hparted.interface i hi hhost
    exact ⟨d, withoutHost_interface hne (hinterfaces ▸ hd) hdhost, hdhost, hsame⟩
  · obtain ⟨d, hd, hdhost, hsame, -⟩ := hparted.port p hp hhost
    exact ⟨d, withoutHost_port hne (hports ▸ hd) hdhost, hdhost, hsame⟩
  · obtain ⟨z, hz, hloaded⟩ := hotherLoaded.complete row (hservices ▸ hrow) (by simpa using hhost)
    exact ht.consolidated hparted hne hz hrow hhost hloaded hother (isDuplicate_eq_false hdestLoaded hservices hloaded hnone)

def apacheOn8080 : Db := twoHosts ⟨8080, .tcp⟩ (by decide)
  ⟨[webBinding 10 (.port 4 none), apacheBinding 17 (.port 14 (some 12))], by decide⟩

theorem consolidateHosts_ok_new_port : NothingLost apacheOn8080 1 11 (run dbStep (granted 8) 0
    (HostService.consolidateHosts (fun _ => .ok false) webHostRow apacheHostRow) apacheOn8080).state :=
  consolidateHosts_ok apacheOn8080 (granted 8) (fun _ => .ok false) webHostRow apacheHostRow (by decide)
    (by decide) (by decide) rfl

/-- The service has its port on all interfaces and on one of them too. -/
def apacheTwice : Db := twoHosts ⟨8080, .tcp⟩ (by decide)
  ⟨[apacheBinding 17 (.port 14 none), apacheBinding 18 (.port 14 (some 12))], by decide⟩

theorem consolidation_supersedes :
    let o := run dbStep (granted 8) 0
      (HostService.consolidateHosts (fun _ => .ok false) webHostRow apacheHostRow) apacheTwice
    apacheTwice.RefersOwn 1 ∧ apacheTwice.RefersOwn 11 ∧ o.result.isOk = true ∧
    (∀ d ∈ apacheTwice.services.rows, d.base.hostId = 1 → d.base.name ≠ "apache") ∧
    ∃ b ∈ apacheTwice.bindings.rows, b.base.serviceId = 16 ∧
      ∀ b' ∈ o.state.bindings.rows, b'.base.serviceId = 16 →
        ¬ Corresponds apacheTwice o.state 1 b.base.bindingType b'.base.bindingType := by
  refine ⟨by decide, by decide, rfl, by decide, apacheBinding 18 (.port 14 (some 12)), by decide, rfl, ?_⟩
  decide

end VantageNet.Inventory
