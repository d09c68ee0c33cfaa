import Mathlib
import VantageNet.Inventory.Types

/-! The predefined types of ports, and how a type is found again from a number and a protocol: `ports/impl/base.rs`. -/

namespace VantageNet.Inventory

inductive PortType where
  | ssh
  | telnet
  | dnsUdp
  | dnsTcp
  | samba
  | nfs
  | ftp
  | ipp
  | ldpTcp
  | ldpUdp
  | ldap
  | ldaps
  | kerberos
  | snmp
  | rdp
  | ntp
  | sip
  | sipTls
  | rtsp
  | dhcp
  | http
  | mySql
  | postgreSQL
  | mongoDB
  | redis
  | msSql
  | docker
  | dockerTls
  | kubernetes
  | rabbitMqMgmt
  | cassandra
  | elasticsearch
  | influxDb
  | couchDb
  | kafka
  | http3000
  | http5000
  | http8080
  | http8081
  | http8082
  | http8888
  | http9000
  | https
  | https8443
  | https9443
  | https10443
  | mqtt
  | mqttTls
  | amqp
  | amqpTls
  | wireguard
  | openVPN
  | custom (config : PortConfig)
  deriving DecidableEq

namespace PortType

def config : PortType → PortConfig
  | ssh => ⟨22, .tcp⟩
  | telnet => ⟨23, .tcp⟩
  | dnsUdp => ⟨53, .udp⟩
  | dnsTcp => ⟨53, .tcp⟩
  | samba => ⟨445, .tcp⟩
  | nfs => ⟨2049, .tcp⟩
  | ftp => ⟨21, .tcp⟩
  | ipp => ⟨631, .tcp⟩
  | ldpTcp => ⟨515, .tcp⟩
  | ldpUdp => ⟨515, .udp⟩
  | ldap => ⟨389, .tcp⟩
  | ldaps => ⟨636, .tcp⟩
  | kerberos => ⟨88, .tcp⟩
  | snmp => ⟨161, .udp⟩
  | rdp => ⟨3389, .tcp⟩
  | ntp => ⟨123, .udp⟩
  | sip => ⟨5060, .tcp⟩
  | sipTls => ⟨5061, .tcp⟩
  | rtsp => ⟨554, .tcp⟩
  | dhcp => ⟨67, .udp⟩
  | http => ⟨80, .tcp⟩
  | mySql => ⟨3306, .tcp⟩
  | postgreSQL => ⟨5432, .tcp⟩
  | mongoDB => ⟨27017, .tcp⟩
  | redis => ⟨6379, .tcp⟩
  | msSql => ⟨1433, .tcp⟩
  | docker => ⟨2375, .tcp⟩
  | dockerTls => ⟨2376, .tcp⟩
  | kubernetes => ⟨6443, .tcp⟩
  | rabbitMqMgmt => ⟨15672, .tcp⟩
  | cassandra => ⟨9042, .tcp⟩
  | elasticsearch => ⟨9200, .tcp⟩
  | influxDb => ⟨8086, .tcp⟩
  | couchDb => ⟨5984, .tcp⟩
  | kafka => ⟨9092, .tcp⟩
  | http3000 => ⟨3000, .tcp⟩
  | http5000 => ⟨5000, .tcp⟩
  | http8080 => ⟨8080, .tcp⟩
  | http8081 => ⟨8081, .tcp⟩
  | http8082 => ⟨8082, .tcp⟩
  | http8888 => ⟨8888, .tcp⟩
  | http9000 => ⟨9000, .tcp⟩
  | https => ⟨443, .tcp⟩
  | https8443 => ⟨8443, .tcp⟩
  | https9443 => ⟨9443, .tcp⟩
  | https10443 => ⟨10443, .tcp⟩
  | mqtt => ⟨1883, .tcp⟩
  | mqttTls => ⟨8883, .tcp⟩
  | amqp => ⟨5672, .tcp⟩
  | amqpTls => ⟨5671, .tcp⟩
  | wireguard => ⟨51820, .udp⟩
  | openVPN => ⟨1194, .udp⟩
  | custom config => config

/-- The name of the variant, which is its `id()` and what the column `port_type` has. -/
def portTypeString : PortType → String
  | ssh => "Ssh"
  | telnet => "Telnet"
  | dnsUdp => "DnsUdp"
  | dnsTcp => "DnsTcp"
  | samba => "Samba"
  | nfs => "Nfs"
  | ftp => "Ftp"
  | ipp => "Ipp"
  | ldpTcp => "LdpTcp"
  | ldpUdp => "LdpUdp"
  | ldap => "Ldap"
  | ldaps => "Ldaps"
  | kerberos => "Kerberos"
  | snmp => "Snmp"
  | rdp => "Rdp"
  | ntp => "Ntp"
  | sip => "Sip"
  | sipTls => "SipTls"
  | rtsp => "Rtsp"
  | dhcp => "Dhcp"
  | http => "Http"
  | mySql => "MySql"
  | postgreSQL => "PostgreSQL"
  | mongoDB => "MongoDB"
  | redis => "Redis"
  | msSql => "MsSql"
  | docker => "Docker"
  | dockerTls => "DockerTls"
  | kubernetes => "Kubernetes"
  | rabbitMqMgmt => "RabbitMqMgmt"
  | cassandra => "Cassandra"
  | elasticsearch => "Elasticsearch"
  | influxDb => "InfluxDb"
  | couchDb => "CouchDb"
  | kafka => "Kafka"
  | http3000 => "Http3000"
  | http5000 => "Http5000"
  | http8080 => "Http8080"
  | http8081 => "Http8081"
  | http8082 => "Http8082"
  | http8888 => "Http8888"
  | http9000 => "Http9000"
  | https => "Https"
  | https8443 => "Https8443"
  | https9443 => "Https9443"
  | https10443 => "Https10443"
  | mqtt => "Mqtt"
  | mqttTls => "MqttTls"
  | amqp => "AMQP"
  | amqpTls => "AMQPTls"
  | wireguard => "Wireguard"
  | openVPN => "OpenVPN"
  | custom _ => "Custom"

def isCustom : PortType → Bool
  | custom _ => true
  | _ => false

/-- `PortType::iter()`, where the payload of the last variant is a default. -/
def iter : List PortType :=
  [.ssh, .telnet, .dnsUdp, .dnsTcp, .samba, .nfs, .ftp, .ipp, .ldpTcp, .ldpUdp, .ldap, .ldaps, .kerberos, .snmp, .rdp, .ntp,
    .sip, .sipTls, .rtsp, .dhcp, .http, .mySql, .postgreSQL, .mongoDB, .redis, .msSql, .docker, .dockerTls, .kubernetes,
    .rabbitMqMgmt, .cassandra, .elasticsearch, .influxDb, .couchDb, .kafka, .http3000, .http5000, .http8080, .http8081,
    .http8082, .http8888, .http9000, .https, .https8443, .https9443, .https10443, .mqtt, .mqttTls, .amqp, .amqpTls, .wireguard,
    .openVPN, .custom ⟨0, .udp⟩]

/-- The search of `from_row` and of `Deserialize`. -/
def ofConfig (number : UInt16) (protocol : TransportProtocol) : PortType :=
  (iter.find? (fun variant => !variant.isCustom && (variant.config.number = number && variant.config.protocol = protocol))).getD
    (.custom ⟨number, protocol⟩)

variable {p q : PortType}

theorem mem_iter (h : p.isCustom = false) : p ∈ iter := by
  cases p with
  | custom c => cases h
  | _ => decide

/-- No two predefined types have one number and one protocol. -/
theorem nodup_configs : ((iter.filter (fun variant => !variant.isCustom)).map config).Nodup := by decide

theorem eq_of_config_eq (hp : p.isCustom = false) (hq : q.isCustom = false) (h : p.config = q.config) : p = q := by
  apply List.inj_on_of_nodup_map nodup_configs _ _ h
  · exact List.mem_filter.mpr ⟨mem_iter hp, by simp [hp]⟩
  · exact List.mem_filter.mpr ⟨mem_iter hq, by simp [hq]⟩

theorem find_spec {number : UInt16} {protocol : TransportProtocol} (h : iter.find? (fun variant => !variant.isCustom &&
    (variant.config.number = number && variant.config.protocol = protocol)) = some p) :
    p.isCustom = false ∧ p.config = ⟨number, protocol⟩ := by
  have hp := List.find?_some h
  simp only [Bool.and_eq_true, Bool.not_eq_true', decide_eq_true_eq] at hp
  obtain ⟨hcustom, rfl, rfl⟩ := hp
  exact ⟨hcustom, rfl⟩

theorem config_ofConfig (c : PortConfig) : (ofConfig c.number c.protocol).config = c := by
  unfold ofConfig
  cases hfind : iter.find? (fun variant => !variant.isCustom &&
      (variant.config.number = c.number && variant.config.protocol = c.protocol)) with
  | none => rfl
  | some p => exact (find_spec hfind).2

theorem ofConfig_of_predefined (hp : p.isCustom = false) : ofConfig p.config.number p.config.protocol = p := by
  unfold ofConfig
  cases hfind : iter.find? (fun variant => !variant.isCustom &&
      (variant.config.number = p.config.number && variant.config.protocol = p.config.protocol)) with
  | none => exact absurd (List.find?_eq_none.mp hfind p (mem_iter hp)) (by simp [hp])
  | some q =>
    obtain ⟨hq, hconfig⟩ := find_spec hfind
    exact eq_of_config_eq hq hp hconfig

theorem ofConfig_of_none {c : PortConfig} (h : ∀ q : PortType, q.isCustom = false → q.config ≠ c) :
    ofConfig c.number c.protocol = .custom c := by
  unfold ofConfig
  cases hfind : iter.find? (fun variant => !variant.isCustom &&
      (variant.config.number = c.number && variant.config.protocol = c.protocol)) with
  | none => rfl
  | some q => exact absurd (find_spec hfind).2 (h q (find_spec hfind).1)

/-- What is found is a type of this number and protocol, a predefined one if there is one, and this one unless it is a custom
one of which there is a predefined one. -/
theorem port_type_found_again (p : PortType) :
    (ofConfig p.config.number p.config.protocol).config = p.config ∧
      ((ofConfig p.config.number p.config.protocol).isCustom = true ↔ ∀ q : PortType, q.isCustom = false → q.config ≠ p.config) ∧
      (ofConfig p.config.number p.config.protocol = p ↔ (p.isCustom = true → ∀ q : PortType, q.isCustom = false → q.config ≠ p.config)) := by
  have hcustom : (ofConfig p.config.number p.config.protocol).isCustom = true ↔
      ∀ q : PortType, q.isCustom = false → q.config ≠ p.config := by
    constructor
    · intro h q hq hconfig
      rw [← hconfig, ofConfig_of_predefined hq, hq] at h
      cases h
    · intro h
      rw [ofConfig_of_none h]
      rfl
  refine ⟨config_ofConfig p.config, hcustom, ?_⟩
  constructor
  · intro h hp
    rw [h] at hcustom
    exact hcustom.mp hp
  · intro h
    cases hp : p.isCustom with
    | false => exact ofConfig_of_predefined hp
    | true =>
      rw [ofConfig_of_none (h hp)]
      cases p with
      | custom c => rfl
      | _ => cases hp

end PortType

structure TypedPortBase where
  hostId : Uuid
  networkId : Uuid
  portType : PortType
  deriving DecidableEq

/-- A port with the variant of its type. -/
abbrev TypedPort := Entity TypedPortBase

/-- Ports are compared and looked up by this. -/
def TypedPort.port (p : TypedPort) : Port :=
  ⟨p.id, p.createdAt, p.updatedAt, ⟨p.base.hostId, p.base.networkId, p.base.portType.config⟩⟩

end VantageNet.Inventory
