import VantageNet.Interaction.Pool
import VantageNet.Interaction.Table
import VantageNet.Accounts.Types

/-!
The tables of users, of the networks they have access to and of invites, with their unique
constraints and foreign keys (`migrations/`), the store of the sessions, and the single
operations of the services above them.
-/

namespace VantageNet.Accounts

open Inventory Interaction
open Events hiding Entity

inductive Kind where
  | user
  | access
  | invite
  deriving DecidableEq

abbrev Kind.Base : Kind → Type
  | .user => UserBase
  | .access => UserNetworkAccessBase
  | .invite => InviteBase

instance : (k : Kind) → DecidableEq k.Base
  | .user => inferInstanceAs (DecidableEq UserBase)
  | .access => inferInstanceAs (DecidableEq UserNetworkAccessBase)
  | .invite => inferInstanceAs (DecidableEq InviteBase)

abbrev Row (k : Kind) := Entity k.Base

/-- What a unique constraint of the table compares besides the primary key. -/
def clash : (k : Kind) → Row k → Row k → Bool
  | .user, (a : User), (b : User) => a.emailKey = b.emailKey ||
      (a.base.oidcProvider.isSome && a.base.oidcSubject.isSome &&
        a.base.oidcProvider = b.base.oidcProvider && a.base.oidcSubject = b.base.oidcSubject)
  | .access, (a : UserNetworkAccess), (b : UserNetworkAccess) =>
    a.base.userId = b.base.userId && a.base.networkId = b.base.networkId
  | .invite, _, _ => false

def Apart (k : Kind) (a b : Row k) : Prop := a.id ≠ b.id ∧ clash k a b = false

instance (k : Kind) (a b : Row k) : Decidable (Apart k a b) :=
  inferInstanceAs (Decidable (a.id ≠ b.id ∧ clash k a b = false))

abbrev Rows (k : Kind) := Table (Row k) (Apart k)

structure Db where
  users : Rows .user
  access : Rows .access
  invites : Rows .invite
  sessions : Uuid → Session

def Db.table (db : Db) : (k : Kind) → Rows k
  | .user => db.users
  | .access => db.access
  | .invite => db.invites

def Db.withTable (db : Db) : (k : Kind) → Rows k → Db
  | .user, t => { db with users := t }
  | .access, t => { db with access := t }
  | .invite, t => { db with invites := t }

/-- The columns of an entity: the networks of a user have a table of their own. -/
def columns : (k : Kind) → Row k → Row k
  | .user, (u : User) => u.row
  | _, r => r

def Db.has (db : Db) (k : Kind) (id : Uuid) : Bool := (db.table k).rows.any (fun r => r.id = id)

/-- The foreign keys into the tables modelled here. -/
def Db.refers (db : Db) : (k : Kind) → Row k → Bool
  | .access, (a : UserNetworkAccess) => db.has .user a.base.userId
  | .invite, (i : Invite) => db.has .user i.base.createdBy
  | _, _ => true

inductive StorageError where
  | storage
  | uniqueViolation
  | foreignKey
  deriving DecidableEq

def Db.create (db : Db) (k : Kind) (row : Row k) : Except StorageError Unit → Except StorageError Unit × Db
  | .error e => (.error e, db)
  | .ok _ =>
    if h : ∀ r ∈ (db.table k).rows, Apart k r (columns k row) then
      if db.refers k row then (.ok (), db.withTable k ((db.table k).insert (columns k row) h))
      else (.error .foreignKey, db)
    else (.error .uniqueViolation, db)

def Db.update (db : Db) (k : Kind) (row : Row k) : Except StorageError Unit → Except StorageError Unit × Db
  | .error e => (.error e, db)
  | .ok _ =>
    if db.has k row.id then
      if h : ∀ r ∈ ((db.table k).filter (fun r => r.id ≠ row.id)).rows, Apart k r (columns k row) then
        if db.refers k row then
          (.ok (), db.withTable k (((db.table k).filter (fun r => r.id ≠ row.id)).insert (columns k row) h))
        else (.error .foreignKey, db)
      else (.error .uniqueViolation, db)
    else (.ok (), db)

/-- `DELETE … WHERE p`, with the rows that `ON DELETE CASCADE` takes along. -/
def Db.delete (db : Db) : (k : Kind) → (Row k → Bool) → Db
  | .user, p =>
    { db with
      users := db.users.filter (fun u => !p u)
      access := db.access.filter (fun a => !db.users.rows.any (fun u => p u && u.id = a.base.userId))
      invites := db.invites.filter (fun i => !db.users.rows.any (fun u => p u && u.id = i.base.createdBy)) }
  | .access, p => { db with access := db.access.filter (fun a => !p a) }
  | .invite, p => { db with invites := db.invites.filter (fun i => !p i) }

inductive AccountOp where
  | newV4
  | utcNow
  | get (k : Kind) (id : Uuid)
  | list (k : Kind) (filter : Row k → Bool)
  | create (k : Kind) (row : Row k)
  | update (k : Kind) (row : Row k)
  | delete (k : Kind) (filter : Row k → Bool)
  | loadSession (cookie : Uuid)
  | saveSession (cookie : Uuid) (session : Session)

@[reducible]
def AccountOp.Reply : AccountOp → Type
  | .newV4 => Uuid
  | .utcNow => Instant
  | .get k _ => Except StorageError (Option (Row k))
  | .list k _ => Except StorageError (List (Row k))
  | .create _ _ | .update _ _ | .delete _ _ => Except StorageError Unit
  | .loadSession _ => Session
  | .saveSession _ _ => Unit

abbrev accountSig : Signature := ⟨AccountOp, AccountOp.Reply⟩

def accountStep : Handler accountSig Db
  | .get k id, (a : Except StorageError (Option (Row k))), db =>
    (a.map (fun _ => (db.table k).rows.find? (fun r => r.id = id)), db)
  | .list k p, (a : Except StorageError (List (Row k))), db =>
    (a.map (fun proposed => arrange (fun r => r.createdAt) ((db.table k).rows.filter p) proposed), db)
  | .create k row, a, db => db.create k row a
  | .update k row, a, db => db.update k row a
  | .delete _ _, .error e, db => (.error e, db)
  | .delete k p, .ok _, db => (.ok (), db.delete k p)
  | .loadSession cookie, _, db => (db.sessions cookie, db)
  | .saveSession cookie session, a, db => (a, { db with sessions := Function.update db.sessions cookie session })
  | _, a, db => (a, db)

/-- `ApiError`, with what its message is made of. -/
inductive ApiError where
  | forbidden (message : String)
  | unauthorized (message : String)
  | conflict (message : String)
  | badRequest (message : String)
  | notFound (entity : String) (id : Uuid)
  | internal (message : String)
  | seatLimit (used max : ℕ)
  | storage (cause : StorageError)
  deriving DecidableEq

abbrev Request := Program accountSig ApiError

namespace Storage

open Program

/-- A statement whose error ends the request. -/
def statement {α : Type} (r : Except StorageError α) : Request α :=
  match r with
  | .ok a => ret a
  | .error e => fail (.storage e)

def newV4 : Request Uuid := .op AccountOp.newV4 .ret
def utcNow : Request Instant := .op AccountOp.utcNow .ret
def getById (k : Kind) (id : Uuid) : Request (Option (Row k)) := .op (AccountOp.get k id) statement
def getAll (k : Kind) (filter : Row k → Bool) : Request (List (Row k)) := .op (AccountOp.list k filter) statement

def create (k : Kind) (entity : Row k) : Request (Row k) :=
  .op (AccountOp.create k entity) (fun r => (statement r).bind (fun _ => .ret entity))

def update (k : Kind) (entity : Row k) : Request (Row k) := do
  let updated := { entity with updatedAt := ← utcNow }
  .op (AccountOp.update k updated) (fun r => (statement r).bind (fun _ => .ret updated))

def deleteWhere (k : Kind) (filter : Row k → Bool) : Request Unit := .op (AccountOp.delete k filter) statement

end Storage

theorem eq_of_id_eq {k : Kind} {t : Rows k} {a b : Row k} (ha : a ∈ t.rows) (hb : b ∈ t.rows) (h : a.id = b.id) :
    a = b := t.eq_of_key_eq (fun _ _ hapart => hapart.1) ha hb h

theorem follows_statement {A α : Type} {M : Monitor accountSig A} {a : A} {r : Except StorageError α} {post : α → A → Prop}
    (h : ∀ x, r = .ok x → post x a) : Follows M post a (Storage.statement r) := by
  cases r with
  | error e => trivial
  | ok x => exact h x rfl

/-- An environment that carries out every statement. -/
def granted (now : Instant) : Oracle accountSig
  | n, .newV4 => Fin.ofNat _ (1000 + n)
  | _, .utcNow => now
  | _, .get _ _ => .ok none
  | _, .list _ _ => .ok []
  | _, .create _ _ => .ok ()
  | _, .update _ _ => .ok ()
  | _, .delete _ _ => .ok ()
  | _, .loadSession _ => .new
  | _, .saveSession _ _ => ()

end VantageNet.Accounts
