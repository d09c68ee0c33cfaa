import VantageNet.Interaction.Pool
import VantageNet.Interaction.Table
import VantageNet.Inventory.Types

/-!
The tables behind `GenericPostgresStorage` with their primary keys, unique constraints and
foreign keys (`migrations/`), and the single operations of the services above them: one
statement to the database, a reading of the clock, a new id, taking and dropping a guard.
-/

namespace VantageNet.Inventory

open Interaction

inductive Kind where
  | host
  | interface
  | port
  | service
  | binding
  | group
  | groupBinding
  deriving DecidableEq

abbrev Kind.Base : Kind → Type
  | .host => HostBase
  | .interface => InterfaceBase
  | .port => PortBase
  | .service => ServiceBase
  | .binding => BindingBase
  | .group => GroupBase
  | .groupBinding => GroupBindingBase

instance : (k : Kind) → DecidableEq k.Base
  | .host => inferInstanceAs (DecidableEq HostBase)
  | .interface => inferInstanceAs (DecidableEq InterfaceBase)
  | .port => inferInstanceAs (DecidableEq PortBase)
  | .service => inferInstanceAs (DecidableEq ServiceBase)
  | .binding => inferInstanceAs (DecidableEq BindingBase)
  | .group => inferInstanceAs (DecidableEq GroupBase)
  | .groupBinding => inferInstanceAs (DecidableEq GroupBindingBase)

abbrev Row (k : Kind) := Entity k.Base

/-- What a unique constraint of the table compares besides the primary key. -/
def clash : (k : Kind) → Row k → Row k → Bool
  | .interface, (a : Interface), (b : Interface) =>
    a.base.hostId = b.base.hostId && a.base.subnetId = b.base.subnetId && a.base.ipAddress = b.base.ipAddress
  | .port, (a : Port), (b : Port) => a.base.hostId = b.base.hostId && a.base.portType = b.base.portType
  | .groupBinding, (a : GroupBinding), (b : GroupBinding) =>
    a.base.groupId = b.base.groupId && a.base.bindingId = b.base.bindingId
  | _, _, _ => false

def Apart (k : Kind) (a b : Row k) : Prop := a.id ≠ b.id ∧ clash k a b = false

instance (k : Kind) (a b : Row k) : Decidable (Apart k a b) :=
  inferInstanceAs (Decidable (a.id ≠ b.id ∧ clash k a b = false))

abbrev Rows (k : Kind) := Table (Row k) (Apart k)

structure Db where
  hosts : Rows .host
  interfaces : Rows .interface
  ports : Rows .port
  services : Rows .service
  bindings : Rows .binding
  groups : Rows .group
  groupBindings : Rows .groupBinding

def Db.empty : Db := ⟨.empty, .empty, .empty, .empty, .empty, .empty, .empty⟩

def Db.table (db : Db) : (k : Kind) → Rows k
  | .host => db.hosts
  | .interface => db.interfaces
  | .port => db.ports
  | .service => db.services
  | .binding => db.bindings
  | .group => db.groups
  | .groupBinding => db.groupBindings

def Db.withTable (db : Db) : (k : Kind) → Rows k → Db
  | .host, t => { db with hosts := t }
  | .interface, t => { db with interfaces := t }
  | .port, t => { db with ports := t }
  | .service, t => { db with services := t }
  | .binding, t => { db with bindings := t }
  | .group, t => { db with groups := t }
  | .groupBinding, t => { db with groupBindings := t }

/-- The columns of an entity: the bindings of a service and of a group have tables of their own. -/
def columns : (k : Kind) → Row k → Row k
  | .service, (s : Service) => s.row
  | .group, (g : Group) => g.row
  | _, r => r

def Db.has (db : Db) (k : Kind) (id : Uuid) : Bool := (db.table k).rows.any (fun r => r.id = id)

def Db.hasOptional (db : Db) (k : Kind) : Option Uuid → Bool
  | none => true
  | some id => db.has k id

/-- The foreign keys into the tables modelled here. -/
def Db.refers (db : Db) : (k : Kind) → Row k → Bool
  | .interface, (i : Interface) => db.has .host i.base.hostId
  | .port, (p : Port) => db.has .host p.base.hostId
  | .service, (s : Service) => db.has .host s.base.hostId
  | .binding, (b : Binding) => db.has .service b.base.serviceId &&
      db.hasOptional .interface b.base.bindingType.interfaceId && db.hasOptional .port b.base.bindingType.portId
  | .groupBinding, (g : GroupBinding) => db.has .group g.base.groupId && db.has .binding g.base.bindingId
  | _, _ => true

inductive Error where
  | storage
  | uniqueViolation
  | foreignKey
  | notFound (kind : Kind) (id : Uuid)
  | networkMismatch (host : Uuid)
  | matchingHostExists (host : Uuid)
  | hostModified (host : Uuid)
  | interfaceNotOnHost (interfaceId : Uuid)
  | portNotOnHost (portId : Uuid)
  | bindingConflict (message : String)
  | portClaimed (portId : Uuid) (owner : String)
  | positionsMixed (entity : String) (specified omitted : ℕ)
  | positionDuplicate (entity : String) (position : ℤ)
  | positionNotSequential (entity : String) (expected : ℕ) (actual : ℤ)
  | forbidden (networkId : Uuid)
  | noIds
  | sameHost
  | daemonOnHost (host : Uuid)
  | serviceUpdate (name : String) (cause : Error)
  deriving DecidableEq

def Db.create (db : Db) (k : Kind) (row : Row k) : Except Error Unit → Except Error Unit × Db
  | .error e => (.error e, db)
  | .ok _ =>
    if h : ∀ r ∈ (db.table k).rows, Apart k r (columns k row) then
      if db.refers k row then (.ok (), db.withTable k ((db.table k).insert (columns k row) h))
      else (.error .foreignKey, db)
    else (.error .uniqueViolation, db)

def Db.update (db : Db) (k : Kind) (row : Row k) : Except Error Unit → Except Error Unit × Db
  | .error e => (.error e, db)
  | .ok _ =>
    if db.has k row.id then
      if h : ∀ r ∈ ((db.table k).filter (fun r => r.id ≠ row.id)).rows, Apart k r (columns k row) then
        if db.refers k row then
          (.ok (), db.withTable k (((db.table k).filter (fun r => r.id ≠ row.id)).insert (columns k row) h))
        else (.error .foreignKey, db)
      else (.error .uniqueViolation, db)
    else (.ok (), db)

def Db.deleteBindings (db : Db) (p : Binding → Bool) : Db :=
  { db with
    bindings := db.bindings.filter (fun b => !p b)
    groupBindings := db.groupBindings.filter
      (fun g => !db.bindings.rows.any (fun b => p b && b.id = g.base.bindingId)) }

/-- `DELETE … WHERE p`, with the rows that `ON DELETE CASCADE` takes along. -/
def Db.delete (db : Db) : (k : Kind) → (Row k → Bool) → Db
  | .interface, p => { db.deleteBindings (fun b => db.interfaces.rows.any
      (fun i => p i && b.base.bindingType.interfaceId = some i.id)) with
      interfaces := db.interfaces.filter (fun i => !p i) }
  | .port, p => { db.deleteBindings (fun b => db.ports.rows.any
      (fun i => p i && b.base.bindingType.portId = some i.id)) with
      ports := db.ports.filter (fun i => !p i) }
  | .service, p => { db.deleteBindings (fun b => db.services.rows.any
      (fun s => p s && b.base.serviceId = s.id)) with
      services := db.services.filter (fun s => !p s) }
  | .binding, p => db.deleteBindings p
  | .groupBinding, p => { db with groupBindings := db.groupBindings.filter (fun g => !p g) }
  | .group, p => { db with
      groups := db.groups.filter (fun g => !p g)
      groupBindings := db.groupBindings.filter
        (fun m => !db.groups.rows.any (fun g => p g && g.id = m.base.groupId)) }
  | .host, p =>
    { db.deleteBindings (fun b =>
        db.interfaces.rows.any (fun i => onDeleted i.base.hostId p && b.base.bindingType.interfaceId = some i.id) ||
        db.ports.rows.any (fun i => onDeleted i.base.hostId p && b.base.bindingType.portId = some i.id) ||
        db.services.rows.any (fun s => onDeleted s.base.hostId p && b.base.serviceId = s.id)) with
      hosts := db.hosts.filter (fun h => !p h)
      interfaces := db.interfaces.filter (fun i => !onDeleted i.base.hostId p)
      ports := db.ports.filter (fun i => !onDeleted i.base.hostId p)
      services := db.services.filter (fun s => !onDeleted s.base.hostId p) }
where
  onDeleted (hostId : Uuid) (p : Host → Bool) : Bool := db.hosts.rows.any (fun h => p h && h.id = hostId)

inductive Lock where
  | host (id : Uuid)
  | service (id : Uuid)
  | groupUpdate
  deriving DecidableEq

inductive DbOp where
  | acquire (lock : Lock)
  | release (lock : Lock)
  | newV4
  | utcNow
  | get (k : Kind) (id : Uuid)
  | list (k : Kind) (filter : Row k → Bool) (order : Row k → ℤ)
  | create (k : Kind) (row : Row k)
  | update (k : Kind) (row : Row k)
  | delete (k : Kind) (filter : Row k → Bool)

@[reducible]
def DbOp.Reply : DbOp → Type
  | .newV4 => Uuid
  | .utcNow => Instant
  | .get k _ => Except Error (Option (Row k))
  | .list k _ _ => Except Error (List (Row k))
  | .create _ _ | .update _ _ | .delete _ _ => Except Error Unit
  | _ => Unit

abbrev dbSig : Signature := ⟨DbOp, DbOp.Reply⟩

abbrev Query := Program dbSig Error

def dbStep : Handler dbSig Db
  | .get k id, (a : Except Error (Option (Row k))), db =>
    (a.map (fun _ => (db.table k).rows.find? (fun r => r.id = id)), db)
  | .list k p order, (a : Except Error (List (Row k))), db =>
    (a.map (fun proposed => arrange order ((db.table k).rows.filter p) proposed), db)
  | .create k row, a, db => db.create k row a
  | .update k row, a, db => db.update k row a
  | .delete _ _, .error e, db => (.error e, db)
  | .delete k p, .ok _, db => (.ok (), db.delete k p)
  | _, a, db => (a, db)

/-- The guards are those of `tokio::sync::Mutex`. -/
def DbOp.lockAction : DbOp → LockAction Lock
  | .acquire lock => .acquire lock true
  | .release lock => .release lock
  | _ => .none

abbrev acquire (lock : Lock) : Query Unit := .op (DbOp.acquire lock) .ret
abbrev release (lock : Lock) : Query Unit := .op (DbOp.release lock) .ret
abbrev newV4 : Query Uuid := .op DbOp.newV4 .ret
abbrev utcNow : Query Instant := .op DbOp.utcNow .ret

namespace Storage

def getById (k : Kind) (id : Uuid) : Query (Option (Row k)) := .op (DbOp.get k id) .orFail

def getAllOrdered (k : Kind) (filter : Row k → Bool) (order : Row k → ℤ) : Query (List (Row k)) :=
  .op (DbOp.list k filter order) .orFail

def getAll (k : Kind) (filter : Row k → Bool) : Query (List (Row k)) :=
  getAllOrdered k filter (fun r => r.createdAt)

def create (k : Kind) (entity : Row k) : Query (Row k) :=
  .op (DbOp.create k entity) (fun r => (Program.orFail r).bind (fun _ => .ret entity))

def update (k : Kind) (entity : Row k) : Query (Row k) := do
  let updated := { entity with updatedAt := ← utcNow }
  .op (DbOp.update k updated) (fun r => (Program.orFail r).bind (fun _ => .ret updated))

def deleteWhere (k : Kind) (filter : Row k → Bool) : Query Unit := .op (DbOp.delete k filter) .orFail

end Storage

/-- An environment that carries out every statement. -/
def granted (now : Instant) : Oracle dbSig
  | n, .newV4 => Fin.ofNat _ (1000 + n)
  | _, .utcNow => now
  | _, .get _ _ => .ok none
  | _, .list _ _ _ => .ok []
  | _, .create _ _ => .ok ()
  | _, .update _ _ => .ok ()
  | _, .delete _ _ => .ok ()
  | _, .acquire _ => ()
  | _, .release _ => ()

def webServer : ServiceDefinition := ⟨"Nginx", false, false, false⟩

/-- Host 1 of network 9 with interfaces 2 and 3, port 80 as port 4 and 443 as port 5, and the service 6. -/
def webHost (bindings : Rows .binding) : Db where
  hosts := ⟨[⟨1, 0, 0, ⟨"web", 9, none, none, .manual, none, false, []⟩⟩], by simp⟩
  interfaces := ⟨[⟨2, 0, 0, ⟨9, 1, 7, .v4 20, none, none, 0⟩⟩, ⟨3, 0, 0, ⟨9, 1, 7, .v4 30, none, none, 1⟩⟩], by decide⟩
  ports := ⟨[⟨4, 0, 0, ⟨1, 9, ⟨80, .tcp⟩⟩⟩, ⟨5, 0, 0, ⟨1, 9, ⟨443, .tcp⟩⟩⟩], by decide⟩
  services := ⟨[⟨6, 0, 0, ⟨1, 9, webServer, "web", [], none, .manual, [], 0⟩⟩], by simp⟩
  bindings
  groups := .empty
  groupBindings := .empty

def webBinding (id : Uuid) (bindingType : BindingType) : Binding := ⟨id, 0, 0, ⟨6, 9, bindingType⟩⟩

end VantageNet.Inventory
