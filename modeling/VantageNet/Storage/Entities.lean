import Mathlib
import VantageNet.Inventory.Database
import VantageNet.Inventory.PortTypes
import VantageNet.Storage.Statements

/-!
The entities of an inventory as rows: `to_params` and `from_row` of `hosts/impl/storage.rs`, `interfaces/impl/storage.rs`,
`ports/impl/storage.rs`, `bindings/impl/storage.rs`, `services/impl/storage.rs` and `subnets/impl/storage.rs`.
-/

namespace VantageNet.Storage

open Inventory Sql
open Subnets (Subnet SubnetBase SubnetType)

variable {J : Type} (serde : Serde J)

section entities

/-- `set_updated_at`. -/
def touched {β : Type} (e : Entity β) (now : Instant) : Entity β := { e with updatedAt := now }

/-- An entity with the times that a row has. -/
def timed {β : Type} (e : Entity β) (base : β) : Entity β := ⟨e.id, wholeMicros e.createdAt, wholeMicros e.updatedAt, base⟩

/-- The columns that all tables have. -/
def entityOf {β : Type} (row : Record (Cell J)) (base : Except RowError β) : Except RowError (Entity β) := do
  let id ← column row "id" Cell.asUuid
  let createdAt ← column row "created_at" Cell.asTimestamp
  let updatedAt ← column row "updated_at" Cell.asTimestamp
  return ⟨id, createdAt, updatedAt, ← base⟩

def hosts : StorableEntity J Host where
  tableName := "hosts"
  columns := ["id", "created_at", "updated_at", "name", "description", "network_id", "source", "hostname", "hidden", "virtualization",
    "tags"]
  uniques := [["id"]]
  check := fun _ => true
  id := Entity.id
  setUpdatedAt := touched
  values := fun host =>
    [.uuid host.id, .timestamp host.createdAt, .timestamp host.updatedAt, .string host.base.name,
      .optionalString host.base.description, .uuid host.base.networkId, .entitySource host.base.source,
      .optionalString host.base.hostname, .bool host.base.hidden, .optionalHostVirtualization host.base.virtualization,
      .uuidArray host.base.tags]
  fromRow := fun row => do
    let source ← deserialized serde.entitySource "source" (← column row "source" Cell.asJson)
    let virtualization ← deserialized serde.hostVirtualization "virtualization" (← column row "virtualization" Cell.asJson)
    entityOf row (do
      let name ← column row "name" Cell.asText
      let description ← optionalColumn row "description" Cell.asText
      let networkId ← column row "network_id" Cell.asUuid
      let hostname ← optionalColumn row "hostname" Cell.asText
      let hidden ← column row "hidden" Cell.asBool
      let tags ← column row "tags" Cell.asUuids
      return ⟨name, networkId, hostname, description, source, virtualization, hidden, tags⟩)

def interfaces : StorableEntity J Interface where
  tableName := "interfaces"
  columns := ["id", "network_id", "host_id", "subnet_id", "ip_address", "mac_address", "name", "position", "created_at", "updated_at"]
  uniques := [["id"], ["host_id", "subnet_id", "ip_address"]]
  check := fun _ => true
  id := Entity.id
  setUpdatedAt := touched
  values := fun interface =>
    [.uuid interface.id, .uuid interface.base.networkId, .uuid interface.base.hostId, .uuid interface.base.subnetId,
      .ipAddr interface.base.ipAddress, .optionalMacAddress interface.base.macAddress, .optionalString interface.base.name,
      .i32 interface.base.position, .timestamp interface.createdAt, .timestamp interface.updatedAt]
  fromRow := fun row => do
    let ipAddress ← column row "ip_address" Cell.asInet
    let macAddress ← optionalColumn row "mac_address" Cell.asMacaddr
    entityOf row (do
      let networkId ← column row "network_id" Cell.asUuid
      let hostId ← column row "host_id" Cell.asUuid
      let subnetId ← column row "subnet_id" Cell.asUuid
      let name ← optionalColumn row "name" Cell.asText
      let position ← column row "position" Cell.asInt
      return ⟨networkId, hostId, subnetId, ipAddress, macAddress, name, position⟩)

def protocolString : TransportProtocol → String
  | .tcp => "Tcp"
  | .udp => "Udp"

def protocolFromStr : String → TransportProtocol
  | "Tcp" => .tcp
  | "Udp" => .udp
  | _ => .tcp

/-- `CHECK (port_number BETWEEN 0 AND 65535)` and `CHECK (protocol IN ('Tcp', 'Udp'))`. -/
def portCheck (row : Record (Cell J)) : Bool :=
  ((row "port_number").bind Cell.asInt).all (fun n => 0 ≤ n && n ≤ 65535) &&
    ((row "protocol").bind Cell.asText).all (fun s => ["Tcp", "Udp"].contains s)

def ports : StorableEntity J TypedPort where
  tableName := "ports"
  columns := ["id", "host_id", "network_id", "port_number", "protocol", "port_type", "created_at", "updated_at"]
  uniques := [["id"], ["host_id", "port_number", "protocol"]]
  check := portCheck
  id := Entity.id
  setUpdatedAt := touched
  values := fun port =>
    let config := port.base.portType.config
    [.uuid port.id, .uuid port.base.hostId, .uuid port.base.networkId, .i32 config.number.toNat, .string (protocolString config.protocol),
      .string port.base.portType.portTypeString, .timestamp port.createdAt, .timestamp port.updatedAt]
  fromRow := fun row => entityOf row (do
    let hostId ← column row "host_id" Cell.asUuid
    let networkId ← column row "network_id" Cell.asUuid
    let portNumber ← column row "port_number" Cell.asInt
    let protocol ← column row "protocol" Cell.asText
    return ⟨hostId, networkId, .ofConfig (UInt16.ofInt portNumber) (protocolFromStr protocol)⟩)

/-- `CONSTRAINT valid_binding`, and `CHECK (binding_type IN ('Interface', 'Port'))`. -/
def bindingCheck (row : Record (Cell J)) : Bool :=
  match (row "binding_type").bind Cell.asText with
  | some "Interface" => (row "interface_id").isSome && (row "port_id").isNone
  | some "Port" => (row "port_id").isSome
  | _ => false

def bindings : StorableEntity J Binding where
  tableName := "bindings"
  columns := ["id", "service_id", "network_id", "binding_type", "interface_id", "port_id", "created_at", "updated_at"]
  uniques := [["id"]]
  check := bindingCheck
  id := Entity.id
  setUpdatedAt := touched
  values := fun binding =>
    let (bindingType, interfaceId, portId) : String × Option Uuid × Option Uuid :=
      match binding.base.bindingType with
      | .interface interfaceId => ("Interface", some interfaceId, none)
      | .port portId interfaceId => ("Port", interfaceId, some portId)
    [.uuid binding.id, .uuid binding.base.serviceId, .uuid binding.base.networkId, .string bindingType, .optionalUuid interfaceId,
      .optionalUuid portId, .timestamp binding.createdAt, .timestamp binding.updatedAt]
  fromRow := fun row => entityOf row (do
    let serviceId ← column row "service_id" Cell.asUuid
    let networkId ← column row "network_id" Cell.asUuid
    let bindingTypeStr ← column row "binding_type" Cell.asText
    let interfaceId ← optionalColumn row "interface_id" Cell.asUuid
    let portId ← optionalColumn row "port_id" Cell.asUuid
    let bindingType ←
      match bindingTypeStr with
      | "Interface" =>
        match interfaceId with
        | some interfaceId => .ok (BindingType.interface interfaceId)
        | none => .error (.message "Interface binding missing interface_id")
      | "Port" =>
        match portId with
        | some portId => .ok (BindingType.port portId interfaceId)
        | none => .error (.message "Port binding missing port_id")
      | _ => .error (.message ("Unknown binding type: " ++ bindingTypeStr))
    return ⟨serviceId, networkId, bindingType⟩)

/-- `DefaultServiceDefinition`. -/
def defaultServiceDefinition : ServiceDefinition := ⟨"Missing Service", false, false, false⟩

/-- `ServiceDefinitionRegistry::find_by_id`, or the default of `Deserialize`. -/
def registered (registry : List ServiceDefinition) (id : String) : ServiceDefinition :=
  (registry.find? (fun definition => definition.id = id)).getD defaultServiceDefinition

def services (registry : List ServiceDefinition) : StorableEntity J Inventory.Service where
  tableName := "services"
  columns := ["id", "created_at", "updated_at", "name", "network_id", "host_id", "service_definition", "virtualization", "source",
    "tags", "position"]
  uniques := [["id"]]
  check := fun _ => true
  id := Entity.id
  setUpdatedAt := touched
  values := fun service =>
    [.uuid service.id, .timestamp service.createdAt, .timestamp service.updatedAt, .string service.base.name,
      .uuid service.base.networkId, .uuid service.base.hostId, .serviceDefinition service.base.serviceDefinition,
      .optionalServiceVirtualization service.base.virtualization, .entitySource service.base.source, .uuidArray service.base.tags,
      .i32 service.base.position]
  fromRow := fun row => do
    let id ← deserialized serde.string "service_definition" (← column row "service_definition" Cell.asText)
    let virtualization ← deserialized serde.serviceVirtualization "virtualization" (← column row "virtualization" Cell.asJson)
    let source ← deserialized serde.entitySource "source" (← column row "source" Cell.asJson)
    entityOf row (do
      let name ← column row "name" Cell.asText
      let networkId ← column row "network_id" Cell.asUuid
      let hostId ← column row "host_id" Cell.asUuid
      let tags ← column row "tags" Cell.asUuids
      let position ← column row "position" Cell.asInt
      return ⟨hostId, networkId, registered registry id, name, [], virtualization, source, tags, position⟩)

/-- The name of the variant. -/
def subnetTypeId : SubnetType → String
  | .internet => "Internet"
  | .remote => "Remote"
  | .gateway => "Gateway"
  | .vpnTunnel => "VpnTunnel"
  | .dmz => "Dmz"
  | .lan => "Lan"
  | .wiFi => "WiFi"
  | .ioT => "IoT"
  | .guest => "Guest"
  | .dockerBridge => "DockerBridge"
  | .management => "Management"
  | .storage => "Storage"
  | .unknown => "Unknown"
  | .none => "None"

/-- `SubnetType::from_str`. -/
def subnetTypeFromStr (s : String) : Except String SubnetType :=
  match s with
  | "Internet" => .ok .internet
  | "Remote" => .ok .remote
  | "Gateway" => .ok .gateway
  | "VpnTunnel" => .ok .vpnTunnel
  | "Dmz" => .ok .dmz
  | "Lan" => .ok .lan
  | "WiFi" => .ok .wiFi
  | "IoT" => .ok .ioT
  | "Guest" => .ok .guest
  | "DockerBridge" => .ok .dockerBridge
  | "Management" => .ok .management
  | "Storage" => .ok .storage
  | "Unknown" => .ok .unknown
  | "None" => .ok .none
  | _ => .error ("Unknown SubnetType: " ++ s)

def subnets : StorableEntity J Subnet where
  tableName := "subnets"
  columns := ["id", "name", "description", "cidr", "source", "subnet_type", "network_id", "created_at", "updated_at", "tags"]
  uniques := [["id"]]
  check := fun _ => true
  id := Entity.id
  setUpdatedAt := touched
  values := fun subnet =>
    [.uuid subnet.id, .string subnet.base.name, .optionalString subnet.base.description, .ipCidr subnet.base.cidr,
      .entitySource subnet.base.source, .string (subnetTypeId subnet.base.subnetType), .uuid subnet.base.networkId,
      .timestamp subnet.createdAt, .timestamp subnet.updatedAt, .uuidArray subnet.base.tags]
  fromRow := fun row => do
    let cidr ← deserialized serde.ipCidr "cidr" (← column row "cidr" Cell.asText)
    let subnetType ← (subnetTypeFromStr (← column row "subnet_type" Cell.asText)).mapError (fun e =>
      .message ("Failed to parse subnet_type: " ++ e))
    let source ← deserialized serde.entitySource "source" (← column row "source" Cell.asJson)
    entityOf row (do
      let name ← column row "name" Cell.asText
      let description ← optionalColumn row "description" Cell.asText
      let networkId ← column row "network_id" Cell.asUuid
      let tags ← column row "tags" Cell.asUuids
      return ⟨cidr, networkId, name, description, subnetType, source, tags⟩)

end entities

section lawful

theorem deserialized_encode {α β : Type} (codec : Codec α β) (name : String) (a : α) :
    deserialized codec name (codec.encode a) = .ok a := by
  rw [deserialized, codec.decode_encode]
  rfl

theorem optionalColumn_map {α : Type} {row : Record (Cell J)} {name : String} {view : Cell J → Option α} {cell : α → Cell J}
    {v : Option α} (h : row name = v.map cell) (hview : ∀ a, view (cell a) = some a) : optionalColumn row name view = .ok v := by
  rw [optionalColumn, h]
  cases v with
  | none => rfl
  | some a =>
    dsimp only [Option.map_some]
    rw [hview]

/-- A table of entities, which loses what `stored` leaves out and the fractions of microseconds. -/
def tableOf {β : Type} (stored : β → β) (clash : Entity β → Entity β → Bool) : Keyed (Entity β) where
  id := Entity.id
  setUpdatedAt := touched
  stored := fun e => timed e (stored e.base)
  clash := fun a b => a.id = b.id || clash a b

theorem clash_of_id {β : Type} {stored : β → β} {clash : Entity β → Entity β → Bool} (a b : Entity β) (h : a.id = b.id) :
    (tableOf stored clash).clash a b = true := by
  simp [tableOf, h]

theorem clash_comm {β : Type} {stored : β → β} {clash : Entity β → Entity β → Bool} (h : ∀ a b, clash a b = clash b a)
    (a b : Entity β) : (tableOf stored clash).clash a b = (tableOf stored clash).clash b a := by
  simp [tableOf, h a b, eq_comm]

def hostTable : Keyed Host := tableOf id (clash .host)

def interfaceTable : Keyed Interface := tableOf id (clash .interface)

def portTable : Keyed TypedPort :=
  tableOf (fun base => { base with portType := .ofConfig base.portType.config.number base.portType.config.protocol })
    (fun a b => clash .port (TypedPort.port a) (TypedPort.port b))

def bindingTable : Keyed Binding := tableOf id (clash .binding)

def serviceTable (registry : List ServiceDefinition) : Keyed Inventory.Service :=
  tableOf (fun base => { base with bindings := [], serviceDefinition := registered registry base.serviceDefinition.id })
    (clash .service)

def subnetTable : Keyed Subnet := tableOf id (fun _ _ => false)

theorem subnetTypeFromStr_id (t : SubnetType) : subnetTypeFromStr (subnetTypeId t) = .ok t := by
  cases t <;> rfl

theorem protocolFromStr_protocolString (p : TransportProtocol) : protocolFromStr (protocolString p) = p := by
  cases p <;> rfl

theorem ofInt_toNat (n : UInt16) : UInt16.ofInt (n.toNat : ℤ) = n := by
  have hlt := n.toNat_lt
  have hmod : ((n.toNat : ℤ) % 2 ^ 16).toNat = n.toNat := by omega
  rw [UInt16.ofInt, hmod, UInt16.ofNat_toNat]

theorem eq_of_number_eq {c d : PortConfig} : c = d ↔ c.number.toNat = d.number.toNat ∧ c.protocol = d.protocol := by
  obtain ⟨number, protocol⟩ := c
  obtain ⟨number', protocol'⟩ := d
  simp [UInt16.toNat_inj]

theorem protocolString_inj {p q : TransportProtocol} : protocolString p = protocolString q ↔ p = q := by
  cases p <;> cases q <;> decide

variable [DecidableEq J]

theorem lawful_hosts : Lawful serde (hosts serde) hostTable where
  named := by
    dsimp only [hosts]
    decide
  length := fun _ => rfl
  key := fun _ => rfl
  setUpdatedAt := rfl
  check := fun _ => rfl
  clash := by
    intro a b
    simp [StorableEntity.record, StorableEntity.params, rowOf, hosts, RowValue.bindValue, agree, hostTable, tableOf,
      Inventory.clash, List.lookup]
  clash_comm := clash_comm (fun _ _ => rfl)
  clash_of_id := clash_of_id
  read := by
    intro host
    set row := (hosts serde).record serde host with hrow
    have hsource : column row "source" Cell.asJson = .ok (serde.entitySource.encode host.base.source) := rfl
    have hvirtualization : column row "virtualization" Cell.asJson =
        .ok (serde.hostVirtualization.encode host.base.virtualization) := rfl
    have hdescription : optionalColumn row "description" Cell.asText = .ok host.base.description :=
      optionalColumn_map rfl (fun _ => rfl)
    have hhostname : optionalColumn row "hostname" Cell.asText = .ok host.base.hostname := optionalColumn_map rfl (fun _ => rfl)
    simp only [hosts, hsource, hvirtualization, hdescription, hhostname, bind, Except.bind, deserialized_encode]
    rfl

theorem lawful_interfaces : Lawful serde interfaces interfaceTable where
  named := by
    dsimp only [interfaces]
    decide
  length := fun _ => rfl
  key := fun _ => rfl
  setUpdatedAt := rfl
  check := fun _ => rfl
  clash := by
    intro a b
    simp [StorableEntity.record, StorableEntity.params, rowOf, interfaces, RowValue.bindValue, agree, interfaceTable, tableOf,
      Inventory.clash, List.lookup, Bool.and_assoc]
  clash_comm := by
    apply clash_comm
    intro a b
    simp [Inventory.clash, eq_comm]
  clash_of_id := clash_of_id
  read := by
    intro interface
    set row := interfaces.record serde interface with hrow
    have hmacAddress : optionalColumn row "mac_address" Cell.asMacaddr = .ok interface.base.macAddress :=
      optionalColumn_map rfl (fun _ => rfl)
    have hname : optionalColumn row "name" Cell.asText = .ok interface.base.name := optionalColumn_map rfl (fun _ => rfl)
    simp only [interfaces, hmacAddress, hname]
    rfl

theorem lawful_ports : Lawful serde ports portTable where
  named := by
    dsimp only [ports]
    decide
  length := fun _ => rfl
  key := fun _ => rfl
  setUpdatedAt := rfl
  check := by
    intro port
    have hnumber := port.base.portType.config.number.toNat_lt
    have hprotocol : ports.record serde port "protocol" = some (.datum (.text (protocolString port.base.portType.config.protocol))) := rfl
    have hportNumber : ports.record serde port "port_number" = some (.int4 port.base.portType.config.number.toNat) := rfl
    change portCheck (ports.record serde port) = true
    simp only [portCheck, hprotocol, hportNumber, Option.bind_some, Cell.asInt, Cell.asText, Option.all_some]
    cases port.base.portType.config.protocol <;> simp [protocolString] <;> omega
  clash := by
    intro a b
    have hclash : clash .port (TypedPort.port a) (TypedPort.port b) =
      (decide (a.base.hostId = b.base.hostId) && decide (a.base.portType.config = b.base.portType.config)) := rfl
    rw [Bool.eq_iff_iff]
    simp [StorableEntity.record, StorableEntity.params, rowOf, ports, RowValue.bindValue, agree, portTable, tableOf,
      hclash, List.lookup, protocolString_inj, eq_of_number_eq]
  clash_comm := by
    apply clash_comm
    intro a b
    simp [Inventory.clash, eq_comm]
  clash_of_id := clash_of_id
  read := by
    intro port
    set row := ports.record serde port with hrow
    have hportNumber : column row "port_number" Cell.asInt = .ok (port.base.portType.config.number.toNat : ℤ) := rfl
    have hprotocol : column row "protocol" Cell.asText = .ok (protocolString port.base.portType.config.protocol) := rfl
    simp only [ports, hportNumber, hprotocol, bind, Except.bind, ofInt_toNat, protocolFromStr_protocolString]
    rfl

theorem lawful_bindings : Lawful serde bindings bindingTable where
  named := by
    dsimp only [bindings]
    decide
  length := by
    intro binding
    obtain ⟨id, createdAt, updatedAt, ⟨serviceId, networkId, bindingType⟩⟩ := binding
    cases bindingType <;> rfl
  key := by
    intro binding
    obtain ⟨id, createdAt, updatedAt, ⟨serviceId, networkId, bindingType⟩⟩ := binding
    cases bindingType <;> rfl
  setUpdatedAt := rfl
  check := by
    intro binding
    obtain ⟨id, createdAt, updatedAt, ⟨serviceId, networkId, bindingType⟩⟩ := binding
    cases bindingType <;> rfl
  clash := by
    intro a b
    have hid : ∀ binding : Binding, bindings.record serde binding "id" = some (.datum (.uuid binding.id)) := by
      intro binding
      obtain ⟨id, createdAt, updatedAt, ⟨serviceId, networkId, bindingType⟩⟩ := binding
      cases bindingType <;> rfl
    change [["id"]].any (agree (bindings.record serde a) (bindings.record serde b)) = _
    simp [agree, hid, bindingTable, tableOf, Inventory.clash]
  clash_comm := clash_comm (fun _ _ => rfl)
  clash_of_id := clash_of_id
  read := by
    intro binding
    obtain ⟨id, createdAt, updatedAt, ⟨serviceId, networkId, bindingType⟩⟩ := binding
    cases bindingType with
    | interface interfaceId => rfl
    | port portId interfaceId =>
      cases interfaceId <;> rfl

theorem lawful_services (registry : List ServiceDefinition) : Lawful serde (services serde registry) (serviceTable registry) where
  named := by
    dsimp only [services]
    decide
  length := fun _ => rfl
  key := fun _ => rfl
  setUpdatedAt := rfl
  check := fun _ => rfl
  clash := by
    intro a b
    simp [StorableEntity.record, StorableEntity.params, rowOf, services, RowValue.bindValue, agree, serviceTable, tableOf,
      Inventory.clash, List.lookup]
  clash_comm := clash_comm (fun _ _ => rfl)
  clash_of_id := clash_of_id
  read := by
    intro service
    set row := (services serde registry).record serde service with hrow
    have hdefinition : column row "service_definition" Cell.asText = .ok (serde.string.encode service.base.serviceDefinition.id) := rfl
    have hvirtualization : column row "virtualization" Cell.asJson =
        .ok (serde.serviceVirtualization.encode service.base.virtualization) := rfl
    have hsource : column row "source" Cell.asJson = .ok (serde.entitySource.encode service.base.source) := rfl
    simp only [services, hdefinition, hvirtualization, hsource, bind, Except.bind, deserialized_encode]
    rfl

theorem lawful_subnets : Lawful serde (subnets serde) subnetTable where
  named := by
    dsimp only [subnets]
    decide
  length := fun _ => rfl
  key := fun _ => rfl
  setUpdatedAt := rfl
  check := fun _ => rfl
  clash := by
    intro a b
    simp [StorableEntity.record, StorableEntity.params, rowOf, subnets, RowValue.bindValue, agree, subnetTable, tableOf,
      List.lookup]
  clash_comm := clash_comm (fun _ _ => rfl)
  clash_of_id := clash_of_id
  read := by
    intro subnet
    set row := (subnets serde).record serde subnet with hrow
    have hcidr : column row "cidr" Cell.asText = .ok (serde.ipCidr.encode subnet.base.cidr) := rfl
    have htype : column row "subnet_type" Cell.asText = .ok (subnetTypeId subnet.base.subnetType) := rfl
    have hsource : column row "source" Cell.asJson = .ok (serde.entitySource.encode subnet.base.source) := rfl
    have hdescription : optionalColumn row "description" Cell.asText = .ok subnet.base.description :=
      optionalColumn_map rfl (fun _ => rfl)
    simp only [subnets, hcidr, htype, hsource, hdescription, bind, Except.bind, deserialized_encode, subnetTypeFromStr_id]
    rfl

end lawful

end VantageNet.Storage
