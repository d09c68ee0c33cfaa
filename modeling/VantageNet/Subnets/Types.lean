import VantageNet.Scanning.Sessions

/-!
Subnets: `subnets/impl/base.rs` and `subnets/impl/types.rs`. Names of interfaces are compared in lower case, which is
a library's.
-/

namespace VantageNet.Subnets

open Inventory
open Scanning (IpCidr)

inductive SubnetType where
  | internet
  | remote
  | gateway
  | vpnTunnel
  | dmz
  | lan
  | wiFi
  | ioT
  | guest
  | dockerBridge
  | management
  | storage
  | unknown
  | none
  deriving DecidableEq

namespace SubnetType

def isDockerBridge : SubnetType → Bool
  | .dockerBridge => true
  | _ => false

def verticalOrder : SubnetType → ℕ
  | internet | remote => 0
  | gateway | dmz | vpnTunnel => 1
  | lan | wiFi | guest | ioT => 2
  | dockerBridge | management | storage => 3
  | unknown | none => 999

def horizontalOrder : SubnetType → ℕ
  | internet => 0
  | remote => 1
  | gateway => 0
  | dmz => 1
  | vpnTunnel => 2
  | lan => 0
  | wiFi => 1
  | ioT => 2
  | guest => 3
  | storage => 0
  | management => 1
  | dockerBridge => 2
  | unknown | none => 999

section names

variable (toLowercase : String → String)

def matchInterfaceNames (patterns : List String) (interfaceName : String) : Bool :=
  let nameLower := toLowercase interfaceName
  patterns.any (fun pattern =>
    let rest := nameLower.toList.drop pattern.length
    nameLower.startsWith pattern &&
      if pattern = "br-" || pattern = "docker-" then !rest.isEmpty && rest.all (fun c => c.isAlphanum)
      else rest.head?.all (fun c => c.isDigit))

def fromInterfaceName (interfaceName : String) : SubnetType :=
  let named := fun patterns => matchInterfaceNames toLowercase patterns interfaceName
  if named ["docker", "br-", "docker"] then dockerBridge
  else if named ["tun", "utun", "wg", "tap", "ppp", "vpn"] then vpnTunnel
  else if named ["wlan", "wifi", "wl"] then wiFi
  else if named ["guest"] then guest
  else if named ["iot"] then ioT
  else if named ["dmz"] then dmz
  else if named ["mgmt", "ipmi", "bmc"] then management
  else if named ["iscsi", "san", "storage"] then storage
  else if named ["eth", "en", "eno", "enp", "ens", "br"] then lan
  else unknown

end names

end SubnetType

structure SubnetBase where
  cidr : IpCidr
  networkId : Uuid
  name : String
  description : Option String
  subnetType : SubnetType
  source : EntitySource
  tags : List Uuid
  deriving DecidableEq

abbrev Subnet := Entity SubnetBase

/-- `impl PartialEq for Subnet`. -/
def Subnet.eq (a b : Subnet) : Bool := (a.base.cidr = b.base.cidr && a.base.networkId = b.base.networkId) || a.id = b.id

def Subnet.isOrganizationalSubnet (s : Subnet) : Bool := s.base.cidr = ⟨.v4 0, 0⟩

end VantageNet.Subnets
