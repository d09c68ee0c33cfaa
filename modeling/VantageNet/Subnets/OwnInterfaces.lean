import VantageNet.Interaction.Collections
import VantageNet.Interaction.Table
import VantageNet.Subnets.Types

/-!
The interfaces of the daemon's machine and the subnets they are on: `get_own_interfaces` of `daemon/utils/base.rs` with
`Subnet::from_discovery`. The subnets are kept in a hash map, which may be iterated in any order.
-/

namespace VantageNet.Subnets

open Interaction Inventory
open Scanning (IpCidr)

/-- An address with the length of its network's prefix. -/
inductive IpNetwork where
  | v4 (ip : BitVec 32) (length : Fin 33)
  | v6 (ip : BitVec 128) (length : Fin 129)
  deriving DecidableEq

def IpNetwork.ip : IpNetwork → IpAddr
  | v4 ip _ => .v4 ip
  | v6 ip _ => .v6 ip

/-- An interface as the machine reports it. -/
structure NetworkInterface where
  name : String
  isLoopback : Bool
  mac : Option MacAddress
  ips : List IpNetwork

/-- What the ids and the clock come to while the interfaces are read. -/
structure Drawn where
  subnetId : ℕ → Uuid
  interfaceId : ℕ → Uuid
  now : ℕ → Instant

structure OwnInterfaces where
  interfaces : List Interface
  subnets : List Subnet
  cidrToMac : HashMap IpCidr (Option MacAddress)

section reading

variable (toLowercase : String → String) (daemonId networkId : Uuid) (discoveryType : DiscoveryType) (drawn : Drawn)

/-- The network of an address, with the rest of its bits zero. -/
def network (ip : BitVec 32) (length : ℕ) : IpCidr := ⟨.v4 ((ip >>> (32 - length)) <<< (32 - length)), length⟩

/-- The range of the subnet that an interface is on. -/
def discoveredCidr (interfaceName : String) : IpNetwork → Option IpCidr
  | .v6 _ _ => none
  | .v4 ip length =>
    if length = 32 then
      if SubnetType.fromInterfaceName toLowercase interfaceName = .vpnTunnel then some (network ip 24) else none
    else some (network ip length)

/-- `from_discovery` of the `i`th of the addresses. The name of a subnet is the text of its range. -/
def fromDiscovery (showCidr : IpCidr → String) (i : ℕ) (interfaceName : String) (ipNetwork : IpNetwork) : Option Subnet :=
  (discoveredCidr toLowercase interfaceName ipNetwork).map (fun cidr =>
    ⟨drawn.subnetId i, drawn.now i, drawn.now i,
      ⟨cidr, networkId, showCidr cidr, none, SubnetType.fromInterfaceName toLowercase interfaceName,
        .discovery [⟨discoveryType, daemonId, drawn.now i⟩], []⟩⟩)

/-- The addresses of the interfaces, with their names and MAC addresses. -/
def addresses (interfaces : List NetworkInterface) : List (String × IpNetwork × Option MacAddress) :=
  (interfaces.filter (fun i => !i.isLoopback)).flatMap (fun i => i.ips.map (fun ip => (i.name, ip, i.mac.filter (· ≠ 0))))

/-- `subnet_map.entry(..).or_insert(..)`. -/
def enter (subnets : List Subnet) (subnet : Subnet) : List Subnet :=
  if subnets.any (fun s => s.base.cidr = subnet.base.cidr) then subnets else subnets ++ [subnet]

def discovered (showCidr : IpCidr → String) (interfaces : List NetworkInterface) : List Subnet :=
  (addresses interfaces).zipIdx.filterMap (fun x =>
    fromDiscovery toLowercase daemonId networkId discoveryType drawn showCidr x.2 x.1.1 x.1.2.1)

def collected (showCidr : IpCidr → String) (interfaces : List NetworkInterface) : List Subnet :=
  (discovered toLowercase daemonId networkId discoveryType drawn showCidr interfaces).foldl enter []

/-- The first subnet with the address takes the interface. -/
def assign (subnets : List Subnet) (own : List Interface × HashMap IpCidr (Option MacAddress))
    (x : String × IpNetwork × Option MacAddress) : List Interface × HashMap IpCidr (Option MacAddress) :=
  match subnets.find? (fun s => s.base.cidr.contains x.2.1.ip) with
  | some subnet =>
    (own.1 ++ [⟨drawn.interfaceId own.1.length, drawn.now own.1.length, drawn.now own.1.length,
      ⟨subnet.base.networkId, Uuid.nil, subnet.id, x.2.1.ip, x.2.2, some x.1, own.1.length⟩⟩], own.2.insert subnet.base.cidr x.2.2)
  | none => own

/-- `proposed` is the order in which the map is iterated, where it is one of its values. -/
def getOwnInterfaces (showCidr : IpCidr → String) (proposed : List Subnet) (interfaces : List NetworkInterface) : OwnInterfaces :=
  let subnets := arrange (fun _ => 0) (collected toLowercase daemonId networkId discoveryType drawn showCidr interfaces) proposed
  let own := (addresses interfaces).foldl (assign drawn subnets) ([], ∅)
  ⟨own.1, subnets, own.2⟩

end reading

/-- No address is in the ranges of two interfaces. -/
def Unnested (toLowercase : String → String) (interfaces : List NetworkInterface) : Prop :=
  ∀ x ∈ addresses interfaces, ∀ y ∈ addresses interfaces, ∀ z ∈ addresses interfaces,
    ∀ a ∈ discoveredCidr toLowercase y.1 y.2.1, ∀ b ∈ discoveredCidr toLowercase z.1 z.2.1,
      a.contains x.2.1.ip = true → b.contains x.2.1.ip = true → a = b

section ranges

variable {toLowercase : String → String} {interfaceName : String} {ipNetwork : IpNetwork} {a b : IpCidr} {ip : IpAddr}

end ranges

section collecting

variable {subnets : List Subnet} {subnet s t : Subnet}

theorem mem_foldl_enter {found : List Subnet} (h : s ∈ found.foldl enter subnets) : s ∈ subnets ∨ s ∈ found := by
  induction found generalizing subnets with
  | nil => exact .inl h
  | cons subnet found ih =>
    rcases ih h with h | h
    · unfold enter at h
      split_ifs at h
      · exact .inl h
      · rcases List.mem_append.mp h with h | h
        · exact .inl h
        · exact .inr (List.mem_cons.mpr (.inl (List.mem_singleton.mp h)))
    · exact .inr (List.mem_cons_of_mem _ h)

theorem pairwise_foldl_enter {found : List Subnet} (h : subnets.Pairwise (fun s t => s.base.cidr ≠ t.base.cidr)) :
    (found.foldl enter subnets).Pairwise (fun s t => s.base.cidr ≠ t.base.cidr) := by
  induction found generalizing subnets with
  | nil => exact h
  | cons subnet found ih =>
    refine ih ?_
    unfold enter
    split_ifs with hany
    · exact h
    · refine List.pairwise_append.mpr ⟨h, List.pairwise_singleton _ _, fun s hs t ht hsame => hany ?_⟩
      obtain rfl := List.mem_singleton.mp ht
      exact List.any_eq_true.mpr ⟨s, hs, decide_eq_true hsame⟩

end collecting

section assigning

variable {drawn : Drawn} {subnets : List Subnet}

/-- What the interfaces that have been gone through have come to. -/
structure Assigned (subnets : List Subnet) (done : List (String × IpNetwork × Option MacAddress))
    (own : List Interface × HashMap IpCidr (Option MacAddress)) : Prop where
  interface : ∀ i ∈ own.1, ∃ x ∈ done, ∃ s, subnets.find? (fun s => s.base.cidr.contains x.2.1.ip) = some s ∧
    i.base.subnetId = s.id ∧ i.base.ipAddress = x.2.1.ip
  all : ∀ x ∈ done, ∀ s, subnets.find? (fun s => s.base.cidr.contains x.2.1.ip) = some s →
    ∃ i ∈ own.1, i.base.subnetId = s.id ∧ i.base.ipAddress = x.2.1.ip ∧ i.base.macAddress = x.2.2
  mac : ∀ cidr mac, own.2.get cidr = some mac → ∃ x ∈ done, ∃ s,
    subnets.find? (fun s => s.base.cidr.contains x.2.1.ip) = some s ∧ s.base.cidr = cidr ∧ x.2.2 = mac

theorem Assigned.step {done : List (String × IpNetwork × Option MacAddress)}
    {own : List Interface × HashMap IpCidr (Option MacAddress)} (h : Assigned subnets done own)
    (x : String × IpNetwork × Option MacAddress) : Assigned subnets (done ++ [x]) (assign drawn subnets own x) := by
  have hx : x ∈ done ++ [x] := List.mem_append_right _ List.mem_cons_self
  unfold assign
  cases hfind : subnets.find? (fun s => s.base.cidr.contains x.2.1.ip) with
  | none =>
    refine ⟨fun i hi => ?_, fun y hy s hs => ?_, fun cidr mac hmac => ?_⟩
    · obtain ⟨y, hy, rest⟩ := h.interface i hi
      exact ⟨y, List.mem_append_left _ hy, rest⟩
    · rcases List.mem_append.mp hy with hy | hy
      · exact h.all y hy s hs
      · rw [List.mem_singleton.mp hy, hfind] at hs
        exact nomatch hs
    · obtain ⟨y, hy, rest⟩ := h.mac cidr mac hmac
      exact ⟨y, List.mem_append_left _ hy, rest⟩
  | some subnet =>
    refine ⟨fun i hi => ?_, fun y hy s hs => ?_, fun cidr mac hmac => ?_⟩
    · rcases List.mem_append.mp hi with hi | hi
      · obtain ⟨y, hy, rest⟩ := h.interface i hi
        exact ⟨y, List.mem_append_left _ hy, rest⟩
      · rw [List.mem_singleton.mp hi]
        exact ⟨x, hx, subnet, hfind, rfl, rfl⟩
    · rcases List.mem_append.mp hy with hy | hy
      · obtain ⟨i, hi, rest⟩ := h.all y hy s hs
        exact ⟨i, List.mem_append_left _ hi, rest⟩
      · rw [List.mem_singleton.mp hy, hfind] at hs
        obtain rfl := Option.some.inj hs
        exact ⟨_, List.mem_append_right _ List.mem_cons_self,
          rfl, by rw [List.mem_singleton.mp hy], by rw [List.mem_singleton.mp hy]⟩
    · rw [get_insert] at hmac
      split_ifs at hmac with hcidr
      · exact ⟨x, hx, subnet, hfind, hcidr.symm, Option.some.inj hmac⟩
      · obtain ⟨y, hy, rest⟩ := h.mac cidr mac hmac
        exact ⟨y, List.mem_append_left _ hy, rest⟩

end assigning

section own

variable {toLowercase : String → String} {daemonId networkId : Uuid} {discoveryType : DiscoveryType} {drawn : Drawn}
  {showCidr : IpCidr → String} {interfaces : List NetworkInterface} {s t : Subnet}

theorem of_mem_collected (h : s ∈ collected toLowercase daemonId networkId discoveryType drawn showCidr interfaces) :
    ∃ (i : ℕ) (x : String × IpNetwork × Option MacAddress), (addresses interfaces)[i]? = some x ∧
      discoveredCidr toLowercase x.1 x.2.1 = some s.base.cidr ∧ s.id = drawn.subnetId i := by
  obtain ⟨⟨x, i⟩, hmem, hs⟩ := List.mem_filterMap.mp ((mem_foldl_enter h).resolve_left List.not_mem_nil)
  obtain ⟨cidr, hcidr, rfl⟩ := Option.map_eq_some_iff.mp hs
  exact ⟨i, x, List.mem_zipIdx_iff_getElem?.mp hmem, hcidr, rfl⟩

theorem eq_of_cidr_eq (hs : s ∈ collected toLowercase daemonId networkId discoveryType drawn showCidr interfaces)
    (ht : t ∈ collected toLowercase daemonId networkId discoveryType drawn showCidr interfaces)
    (h : s.base.cidr = t.base.cidr) : s = t :=
  List.inj_on_of_nodup_map (List.pairwise_map.mpr (pairwise_foldl_enter .nil)) hs ht h

/-- Without nested ranges an address is in one range only. -/
theorem Unnested.unique (h : Unnested toLowercase interfaces) {x : String × IpNetwork × Option MacAddress}
    (hx : x ∈ addresses interfaces)
    (hs : s ∈ collected toLowercase daemonId networkId discoveryType drawn showCidr interfaces)
    (ht : t ∈ collected toLowercase daemonId networkId discoveryType drawn showCidr interfaces)
    (hsx : s.base.cidr.contains x.2.1.ip = true) (htx : t.base.cidr.contains x.2.1.ip = true) : s = t := by
  obtain ⟨i, y, hy, hcidr, -⟩ := of_mem_collected hs
  obtain ⟨j, z, hz, hcidr', -⟩ := of_mem_collected ht
  exact eq_of_cidr_eq hs ht (h x hx y (List.mem_of_getElem? hy) z (List.mem_of_getElem? hz) _ hcidr _ hcidr' hsx htx)

section machine

def counting : Drawn := ⟨fun i => Fin.ofNat _ i, fun i => Fin.ofNat _ i, fun _ => 0⟩

end machine

end own

end VantageNet.Subnets
