import VantageNet.Interfaces.Locating

/-!
Interfaces stay inside their subnets as long as no request gets past the endpoints that do not
look: the endpoints for interfaces check network and address, that for subnets the addresses only,
and of those for hosts the creation checks the network and the others nothing.
-/

namespace VantageNet.Interfaces

open Interaction Interaction.Program
open Inventory (Interface InterfaceInput IpAddr Locates CreateHostRequest UpdateHostRequest)
open Subnets (Subnet)

section holding

/-- The address is in the range of the subnet, which is all addresses for the organizational one. -/
def Covers (s : Subnet) (ip : IpAddr) : Prop := s.isOrganizationalSubnet = true ∨ s.base.cidr.contains ip = true

instance (s : Subnet) (ip : IpAddr) : Decidable (Covers s ip) :=
  inferInstanceAs (Decidable (s.isOrganizationalSubnet = true ∨ s.base.cidr.contains ip = true))

/-- If the subnet with the id is stored, it is of the network and covers the address. -/
def World.Admits (w : World) (networkId subnetId : Uuid) (ip : IpAddr) : Prop :=
  ∀ s ∈ w.subnets.rows, s.id = subnetId → s.base.networkId = networkId ∧ Covers s ip

instance (w : World) (networkId subnetId : Uuid) (ip : IpAddr) : Decidable (w.Admits networkId subnetId ip) :=
  inferInstanceAs (Decidable (∀ s ∈ w.subnets.rows, s.id = subnetId → s.base.networkId = networkId ∧ Covers s ip))

/-- Every interface has a subnet, which is of its network and covers its address. -/
def World.Fits (w : World) : Prop :=
  ∀ i ∈ w.inventory.interfaces.rows, ∃ s ∈ w.subnets.rows, s.id = i.base.subnetId ∧
    s.base.networkId = i.base.networkId ∧ Covers s i.base.ipAddress

instance (w : World) : Decidable w.Fits :=
  inferInstanceAs (Decidable (∀ i ∈ w.inventory.interfaces.rows, ∃ s ∈ w.subnets.rows, s.id = i.base.subnetId ∧
    s.base.networkId = i.base.networkId ∧ Covers s i.base.ipAddress))

variable {w t : World}

theorem admits_of_subnet {networkId subnetId : Uuid} {ip : IpAddr}
    (h : ∀ s, w.subnet subnetId = some s → s.base.networkId = networkId ∧ Covers s ip) :
    w.Admits networkId subnetId ip := by
  rintro s hs rfl
  exact h s (subnet_of_mem hs)

theorem fits_iff : w.Fits ↔ w.inventory.Located w.Admits := by
  constructor
  · intro h i hi s hs hid
    obtain ⟨s', hs', hid', hfit⟩ := h i hi
    have hsame : some s = some s' := by
      rw [← subnet_of_mem hs, ← subnet_of_mem hs', hid, hid']
    cases hsame
    exact hfit
  · intro h i hi
    obtain ⟨s, hs, hid⟩ := w.located i hi
    exact ⟨s, hs, hid, h i hi s hs hid⟩

theorem Kept.fits (h : Kept w.Admits w t) : t.Fits := by
  rw [fits_iff]
  intro i hi s hs
  exact h.located i hi s (h.subnets ▸ hs)

/-- The organizational subnet is the one with its range. -/
theorem covers_congr {s s' : Subnet} (h : s.base.cidr = s'.base.cidr) {ip : IpAddr} (hs : Covers s ip) :
    Covers s' ip := by
  unfold Covers Subnet.isOrganizationalSubnet at *
  rwa [← h]

theorem fits_putSubnet (h : w.Fits) {row : Subnet}
    (hrow : ∀ i ∈ w.inventory.interfaces.rows, i.base.subnetId = row.id →
      row.base.networkId = i.base.networkId ∧ Covers row i.base.ipAddress) : (w.putSubnet row).Fits := by
  intro i hi
  obtain ⟨s, hs, hid, hfit⟩ := h i hi
  refine ⟨_, List.mem_map_of_mem hs, ?_⟩
  split_ifs with hsame
  · exact ⟨hsame.symm.trans hid, hrow i hi (hid.symm.trans hsame)⟩
  · exact ⟨hid, hfit⟩

end holding

section checks

variable {L : Libraries} {may : World → (o : WorldOp) → o.Reply → Prop} {w : World}

theorem admits_of_subnetConsistency {i : Interface} (h : subnetConsistency L i (w.subnet i.base.subnetId) = .ok ()) :
    i.base.At w.Admits := by
  refine admits_of_subnet (fun s hs => ?_)
  rw [hs] at h
  dsimp only [subnetConsistency] at h
  split_ifs at h with hnetwork hcontains
  exact ⟨not_not.mp hnetwork, .inr (by simpa using hcontains)⟩

theorem ensures_validateInterfaceConsistency {i : Interface} {post : Except Failure Unit → World → Prop}
    (herror : ∀ e, post (.error e) w) (hok : i.base.At w.Admits → post (.ok ()) w) :
    Ensures worldStep may post (validateInterfaceConsistency L i) w := by
  refine ensures_after (quiet_getHost i.base.hostId) herror (fun host => ?_)
  refine ensures_after (only_checked _) herror (fun _ => ?_)
  apply Ensures.bind
  refine ensures_getSubnet herror ?_
  exact ensures_checked herror (fun h => hok (admits_of_subnetConsistency h))

theorem ensures_validateInterfaceSubnet {networkId : Uuid} {i : InterfaceInput}
    {post : Except Failure Unit → World → Prop}
    (herror : ∀ e, post (.error e) w)
    (hok : (∀ s ∈ w.subnets.rows, s.id = i.subnetId → s.base.networkId = networkId) → post (.ok ()) w) :
    Ensures worldStep may post (validateInterfaceSubnet L networkId i) w := by
  apply Ensures.bind
  refine ensures_getSubnet herror ?_
  refine ensures_checked herror (fun h => hok (fun s hs hid => ?_))
  rw [← hid, subnet_of_mem hs] at h
  dsimp only [subnetOnNetwork] at h
  split_ifs at h with hnetwork
  exact not_not.mp hnetwork

/-- The interfaces on a subnet, in whatever order they are read. -/
theorem ensures_interfacesOn {id : Uuid} {post : Except Failure (List Interface) → World → Prop}
    (herror : ∀ e, post (.error e) w)
    (hok : ∀ is : List Interface, (∀ i, i ∈ is ↔ i ∈ w.inventory.interfaces.rows ∧ i.base.subnetId = id) →
    post (.ok is) w) :
    Ensures worldStep may post (inventory (Inventory.Storage.getAll .interface (fun i : Interface => i.base.subnetId = id))) w := by
  have hread : Ensures Inventory.dbStep (fun _ _ _ => True)
      (fun r _ => ∀ is : List Interface, r = .ok is → ∀ i, i ∈ is ↔
        i ∈ w.inventory.interfaces.rows ∧ i.base.subnetId = id)
      (Inventory.Storage.getAll .interface (fun i : Interface => i.base.subnetId = id)) w.inventory := by
    refine Inventory.ensures_getAll (k := .interface) (fun _ _ h => (nomatch h)) ?_
    rintro rows hperm - _ ⟨⟩ i
    rw [hperm.mem_iff, List.mem_filter, decide_eq_true_eq]
    rfl
  refine ((refines_inventory.ensures (I := fun _ => True) (fun _ _ _ _ => trivial) hread trivial).and
    (ensures_quiet (quiet_inventory (Inventory.touches_getAll .interface _)))).imp ?_
  rintro _ t ⟨⟨-, r, rfl, hr⟩, rfl⟩
  rcases r with e | is
  · exact herror _
  · exact hok is (hr is rfl)

theorem ensures_validateNewRange {id : Uuid} {subnet : Subnet} {post : Except Failure Unit → World → Prop}
    (herror : ∀ e, post (.error e) w)
    (hok : (∀ i ∈ w.inventory.interfaces.rows, i.base.subnetId = id → subnet.base.cidr.contains i.base.ipAddress = true) →
      post (.ok ()) w) : Ensures worldStep may post (validateNewRange L id subnet) w := by
  apply Ensures.bind
  apply ensures_orInternal
  refine ensures_interfacesOn (fun e => herror _) (fun is his => ?_)
  refine Ensures.forEach (fun done t => t = w ∧ ∀ i ∈ done, subnet.base.cidr.contains i.base.ipAddress = true) is ?_
    ⟨rfl, by simp⟩ ?_
  · rintro done i rest - t ⟨rfl, hdone⟩
    refine ensures_checked herror (fun h => ⟨rfl, ?_⟩)
    unfold withinNewRange at h
    split_ifs at h with hcontains
    have hi : subnet.base.cidr.contains i.base.ipAddress = true := by simpa using hcontains
    simpa [or_imp, forall_and] using ⟨hdone, hi⟩
  · rintro t ⟨rfl, hall⟩
    exact hok (fun i hi hid => hall i ((his i).mpr ⟨hi, hid⟩))

end checks

/-- What the endpoints leave to the caller: that a subnet goes to another network only without interfaces, and that
the interfaces of a host are given addresses of their subnets and, but for a new host, subnets of its network. -/
def Careful (w : World) (x : Exchange) : Prop :=
  match x.request with
  | .createInterface _ | .updateInterface _ _ | .consolidateHosts _ _ => True
  | .updateSubnet id subnet =>
    ∀ i ∈ w.inventory.interfaces.rows, i.base.subnetId = id → subnet.base.networkId = i.base.networkId
  | .createHost (.new request) =>
    ∀ i ∈ request.interfaces, ∀ s ∈ w.subnets.rows, s.id = i.subnetId → Covers s i.ipAddress
  | .createHost (.legacy request) =>
    ∀ i ∈ request.host.interfaces, w.Admits request.host.networkId i.subnetId i.ipAddress
  | .updateHost id request =>
    ∀ host ∈ w.inventory.hosts.rows, host.id = id → ∀ i ∈ request.interfaces,
      w.Admits host.base.networkId i.subnetId i.ipAddress

instance (w : World) (x : Exchange) : Decidable (Careful w x) := by
  unfold Careful
  split <;> infer_instance

section requests

variable {L : Libraries} {may : World → (o : WorldOp) → o.Reply → Prop} {w : World}

theorem ensures_createInterface (h : w.Fits) (auth : Events.AuthenticatedEntity) (i : Interface) :
    Ensures worldStep may (fun _ t => t.Fits) (createInterface L auth i) w := by
  refine ensures_after (only_authorized auth) (fun _ => h) (fun _ => ?_)
  apply Ensures.bind
  refine ensures_validateInterfaceConsistency (fun _ => h) (fun hi => ?_)
  refine ensures_after ?_ (fun _ => h) (fun position => ?_)
  · exact only_orInternal ((quiet_getForHost i.base.hostId).bind (fun _ => trivial))
  · have hcreate : Only (Keeps w.Admits) (createHandler auth { i with base := { i.base with position } }) :=
      keeps_createHandler auth hi
    exact (ensures_kept (fits_iff.mp h) hcreate).imp (fun _ _ ht => ht.fits)

theorem ensures_updateInterface (h : w.Fits) (auth : Events.AuthenticatedEntity) (id : Uuid) (i : Interface) :
    Ensures worldStep may (fun _ t => t.Fits) (updateInterface L auth id i) w := by
  refine ensures_after (only_authorized auth) (fun _ => h) (fun _ => ?_)
  apply Ensures.bind
  refine ensures_validateInterfaceConsistency (fun _ => h) (fun hi => ?_)
  refine ensures_after ?_ (fun _ => h) (fun _ => ?_)
  · exact (quiet_getForHost i.base.hostId).bind (fun _ => only_checked _)
  · exact (ensures_kept (fits_iff.mp h) (keeps_updateHandler auth L id hi)).imp (fun _ _ ht => ht.fits)

theorem ensures_storeSubnet (h : w.Fits) {subnet : Subnet}
    (hsubnet : ∀ i ∈ w.inventory.interfaces.rows, i.base.subnetId = subnet.id →
      subnet.base.networkId = i.base.networkId ∧ Covers subnet i.base.ipAddress) :
    Ensures worldStep may (fun _ t => t.Fits) (storeSubnet subnet) w := by
  apply Ensures.bind
  refine ensures_getSubnet (fun _ => h) ?_
  cases w.subnet subnet.id with
  | none => exact h
  | some current =>
    intro now _ a _
    rcases a with e | _
    · exact h
    · exact fits_putSubnet h hsubnet

/-- The network and the range of the row that is stored are those of the request. -/
theorem ensures_updateSubnetHandler (h : w.Fits) (auth : Events.AuthenticatedEntity) (id : Uuid) {subnet : Subnet}
    (hsubnet : ∀ i ∈ w.inventory.interfaces.rows, i.base.subnetId = id →
      subnet.base.networkId = i.base.networkId ∧ Covers subnet i.base.ipAddress) :
    Ensures worldStep may (fun _ t => t.Fits) (updateHandler L subnets auth id subnet) w := by
  refine ensures_after (only_organizationContext auth) (fun _ => h) (fun organizationId => ?_)
  apply Ensures.bind
  apply ensures_orInternal
  refine ensures_getSubnet (fun _ => h) ?_
  cases hfound : w.subnet id with
  | none => exact h
  | some existing =>
    obtain ⟨-, rfl⟩ := subnet_eq_some_iff.mp hfound
    refine ensures_after (only_checked _) (fun _ => h) (fun _ => ?_)
    refine ensures_after (only_checked _) (fun _ => h) (fun _ => ?_)
    refine ensures_after (quiet_validateAndDedupeTags L _ organizationId) (fun _ => h) (fun tags => ?_)
    exact ensures_storeSubnet h hsubnet

theorem ensures_updateSubnet (h : w.Fits) (auth : Events.AuthenticatedEntity) (id : Uuid) {subnet : Subnet}
    (hnetwork : ∀ i ∈ w.inventory.interfaces.rows, i.base.subnetId = id → subnet.base.networkId = i.base.networkId) :
    Ensures worldStep may (fun _ t => t.Fits) (updateSubnet L auth id subnet) w := by
  refine ensures_after (only_authorized auth) (fun _ => h) (fun _ => ?_)
  apply Ensures.bind
  apply ensures_orInternal
  refine ensures_getSubnet (fun _ => h) ?_
  cases hfound : w.subnet id with
  | none => exact h
  | some current =>
    obtain ⟨hcurrent, hid⟩ := subnet_eq_some_iff.mp hfound
    apply Ensures.bind
    by_cases hcidr : current.base.cidr = subnet.base.cidr
    · rw [decide_eq_false (not_not.mpr hcidr), when_false]
      refine ensures_updateSubnetHandler h auth id (fun i hi hsubnet => ⟨hnetwork i hi hsubnet, ?_⟩)
      exact covers_congr hcidr (fits_iff.mp h i hi current hcurrent (hid.trans hsubnet.symm)).2
    · rw [decide_eq_true hcidr, when_true]
      refine ensures_validateNewRange (fun _ => h) (fun hcontains => ?_)
      exact ensures_updateSubnetHandler h auth id (fun i hi hsubnet =>
        ⟨hnetwork i hi hsubnet, .inr (hcontains i hi hsubnet)⟩)

theorem ensures_createNewHost (h : w.Fits) (auth : Events.AuthenticatedEntity) {request : CreateHostRequest}
    (hcovers : ∀ i ∈ request.interfaces, ∀ s ∈ w.subnets.rows, s.id = i.subnetId → Covers s i.ipAddress) :
    Ensures worldStep may (fun _ t => t.Fits) (createNewHost L auth request) w := by
  refine ensures_after (only_checked _) (fun _ => h) (fun _ => ?_)
  refine ensures_after (only_checked _) (fun _ => h) (fun _ => ?_)
  refine ensures_after (p := getNetwork request.networkId) ⟨trivial, .orFail⟩ (fun _ => h) (fun network => ?_)
  cases network with
  | none => exact h
  | some _ =>
    apply Ensures.bind
    refine Ensures.forEach (fun done t => t = w ∧ ∀ i ∈ done, w.Admits request.networkId i.subnetId i.ipAddress)
      request.interfaces ?_ ⟨rfl, by simp⟩ ?_
    · rintro done i rest hrest t ⟨rfl, hdone⟩
      refine ensures_validateInterfaceSubnet (fun _ => h) (fun hnetwork => ⟨rfl, ?_⟩)
      have hi : t.Admits request.networkId i.subnetId i.ipAddress := fun s hs hid =>
        ⟨hnetwork s hs hid, hcovers i (by simp [hrest]) s hs hid⟩
      simpa [or_imp, forall_and] using ⟨hdone, hi⟩
    · rintro t ⟨rfl, hall⟩
      refine ensures_after ?_ (fun _ => h) (fun tags => ?_)
      · unfold validateHostTags
        split
        · exact quiet_validateAndDedupeTags L request.tags _
        · trivial
      · have hcreate : Only (Locates t.Admits) (Inventory.HostService.createFromRequest { request with tags }) :=
          Inventory.HostService.only_createFromRequest hall
        exact (ensures_kept (fits_iff.mp h) (keeps_inventory hcreate)).imp (fun _ _ ht => ht.fits)

theorem ensures_createHost (h : w.Fits) (x : Exchange) {request : HostCreateRequestBody}
    (hx : Careful w { x with request := .createHost request }) :
    Ensures worldStep may (fun _ t => t.Fits) (createHost L x.auth request) w := by
  refine ensures_after (only_authorizedOrDaemon x.auth) (fun _ => h) (fun _ => ?_)
  split
  · apply Ensures.bind
    apply (ensures_createNewHost h x.auth hx).imp
    rintro (e | response) t ht
    · exact ht
    · exact ht
  · apply Ensures.bind
    apply (ensures_kept (fits_iff.mp h) (keeps_createLegacyHost x.auth L hx)).imp
    rintro (e | response) t ht
    · exact ht.fits
    · exact ht.fits
  · exact h

theorem ensures_updateHost (h : w.Fits) (auth : Events.AuthenticatedEntity) (id : Uuid) {request : UpdateHostRequest}
    (hrequest : ∀ host ∈ w.inventory.hosts.rows, host.id = id → ∀ i ∈ request.interfaces,
      w.Admits host.base.networkId i.subnetId i.ipAddress) :
    Ensures worldStep may (fun _ t => t.Fits) (updateHost L auth id request) w := by
  refine ensures_after (only_authorized auth) (fun _ => h) (fun _ => ?_)
  refine ensures_after (only_organizationContext auth) (fun _ => h) (fun organizationId => ?_)
  refine ensures_after (only_checked _) (fun _ => h) (fun _ => ?_)
  refine ensures_after (quiet_getHost id) (fun _ => h) (fun found => ?_)
  cases found with
  | none => exact h
  | some existing =>
    refine ensures_after (only_checked _) (fun _ => h) (fun _ => ?_)
    refine ensures_after (quiet_validateAndDedupeTags L _ organizationId) (fun _ => h) (fun tags => ?_)
    refine (ensures_inventory ?_).imp (fun _ _ ht => ht.fits)
    exact Inventory.HostService.ensures_updateFromRequest (fits_iff.mp h) hrequest

theorem ensures_consolidateHosts (h : w.Fits) (auth : Events.AuthenticatedEntity)
    (daemon : Uuid → Except Inventory.Error Bool)
    (destinationHostId otherHostId : Uuid) :
    Ensures worldStep may (fun _ t => t.Fits) (consolidateHosts L auth daemon destinationHostId otherHostId) w := by
  refine ensures_after (only_authorized auth) (fun _ => h) (fun _ => ?_)
  refine ensures_after (only_organizationContext auth) (fun _ => h) (fun organizationId => ?_)
  refine ensures_after (quiet_getHost destinationHostId) (fun _ => h) (fun destination => ?_)
  cases destination with
  | none => exact h
  | some destination =>
    refine ensures_after (quiet_getHost otherHostId) (fun _ => h) (fun other => ?_)
    cases other with
    | none => exact h
    | some other =>
      refine ensures_after (only_checked _) (fun _ => h) (fun _ => ?_)
      refine ensures_after (only_checked _) (fun _ => h) (fun _ => ?_)
      refine ensures_after (only_checked _) (fun _ => h) (fun _ => ?_)
      refine (ensures_inventory ?_).imp (fun _ _ ht => ht.fits)
      exact Inventory.HostService.ensures_consolidateHosts_located (fits_iff.mp h) daemon destination other

theorem ensures_serve (h : w.Fits) {x : Exchange} (hx : Careful w x) :
    Ensures worldStep may (fun _ t => t.Fits) (serve L x.auth x.daemon x.request) w := by
  have hdone {α : Type} {p : Task α} (hp : Ensures worldStep may (fun _ t => t.Fits) p w) :
      Ensures worldStep may (fun _ t => t.Fits) (p.bind (fun _ => ret ())) w := by
    apply Ensures.bind
    apply hp.imp
    rintro (e | a) t ht
    · exact ht
    · exact ht
  rcases x with ⟨auth, request, answers, daemon⟩
  cases request with
  | createInterface i => exact hdone (ensures_createInterface h auth i)
  | updateInterface id i => exact hdone (ensures_updateInterface h auth id i)
  | updateSubnet id subnet => exact hdone (ensures_updateSubnet h auth id hx)
  | createHost request => exact hdone (ensures_createHost h ⟨auth, .createHost request, answers, daemon⟩ hx)
  | updateHost id request => exact hdone (ensures_updateHost h auth id hx)
  | consolidateHosts destinationHostId otherHostId =>
    exact hdone (ensures_consolidateHosts h auth daemon destinationHostId otherHostId)

/-- One request. -/
theorem fits_step (h : w.Fits) {x : Exchange} (hx : Careful w x) : (w.step L x).Fits :=
  (ensures_serve h hx).run_any x.answers 0

end requests

/-- Over every sequence of such requests. -/
theorem interfaces_stay_within (L : Libraries) {w : World} (h : w.Fits) {xs : List Exchange}
    (hxs : Meets (World.step L) Careful w xs) : ∀ served, served <+: xs → (served.foldl (World.step L) w).Fits := by
  rintro served ⟨rest, rfl⟩
  exact Meets.invariant World.Fits (fun _ _ hw hx => fits_step hw hx) h hxs.left

section office

def plainLibraries : Libraries where
  uuid _ := ""
  ip _ := ""
  cidr _ := ""
  describe _ := ""
  findById _ := none
  defaultDefinition := Inventory.webServer

/-- Host 1 of network 9 with interface 2 on subnet 7, which is 10.0.0.0/24. -/
def office : World where
  inventory := { Inventory.Db.empty with
    hosts := .singleton ⟨1, 0, 0, ⟨"web", 9, none, none, .manual, none, false, []⟩⟩
    interfaces := .singleton ⟨2, 0, 0, ⟨9, 1, 7, .v4 0x0a000014, none, none, 0⟩⟩ }
  subnets := .singleton ⟨7, 0, 0, ⟨⟨.v4 0x0a000000, 24⟩, 9, "office", none, .lan, .manual, []⟩⟩
  networks := [9]
  tags := []
  located := by decide

def clerk : Events.AuthenticatedEntity := .user 3 4 .member [9] ""

/-- An environment that carries out every statement. -/
def granted : Oracle worldSig
  | n, .inventory o => Inventory.granted 8 n o
  | _, .utcNow => 8
  | _, .getSubnet _ => .ok none
  | _, .updateSubnet _ => .ok ()
  | _, .getNetwork _ => .ok none
  | _, .getTag _ => .ok none
  | _, .iterate ids => ids

def asked (request : Request) : Exchange := ⟨clerk, request, granted, fun _ => .ok false⟩

/-- A host with one interface on subnet 7. -/
def printerAt (ip : IpAddr) : Request :=
  .createHost (.new ⟨"printer", 9, none, none, none, false, [], [⟨12, 7, ip, none, none, none⟩], [], []⟩)

/-- Subnet 7 as 10.0.0.0/25. -/
def halved : Request := .updateSubnet 7 ⟨7, 0, 0, ⟨⟨.v4 0x0a000000, 25⟩, 9, "office", none, .lan, .manual, []⟩⟩

theorem printer_stays_within : let xs := [asked (printerAt (.v4 0x0a00001e)), asked halved]
    office.Fits ∧ Meets (World.step plainLibraries) Careful office xs ∧
      ∀ served, served <+: xs → (served.foldl (World.step plainLibraries) office).Fits := by
  have hxs : Meets (World.step plainLibraries) Careful office [asked (printerAt (.v4 0x0a00001e)), asked halved] := by
    decide +kernel
  exact ⟨by decide, hxs, interfaces_stay_within plainLibraries (by decide) hxs⟩

/-- No one looks whether the address of a new host is in the range of its subnet: 192.168.0.1 is not. -/
theorem printer_outside : office.Fits ∧ ¬ (office.step plainLibraries (asked (printerAt (.v4 0xc0a80001)))).Fits := by
  decide +kernel

end office

end VantageNet.Interfaces
