import VantageNet.Accounts.Escalation
import VantageNet.Accounts.Owners
import VantageNet.ApiKeys.Requests

/-!
Users, their API keys and the requests they make, one after another, each by whoever
`auth/middleware/auth.rs` makes of its credentials.
-/

namespace VantageNet.ApiKeys

open Interaction Interaction.Program
open Events (AuthenticatedEntity UserOrgPermissions)
open Accounts (User UserNetworkAccess UserCall accountSig accountStep manages)

inductive Credentials where
  | session (cookie : Uuid)
  | bearer (apiKeyRaw : String) (daemonId : Option Uuid)

/-- `other` is a request that changes neither users nor keys. -/
inductive Request where
  | createUserApiKey (key : UserApiKey)
  | updateUserApiKey (id : Uuid) (request : UserApiKey)
  | deleteUser (id : Uuid)
  | bulkDeleteUsers (ids : List Uuid)
  | updateUser (id : Uuid) (request : User)
  | adminUpdateUser (id : Uuid) (request : User)
  | other

/-- A request, with what is answered while it is authenticated and while it is carried out. -/
structure Served where
  credentials : Credentials
  request : Request
  sessions : Oracle accountSig
  bearers : Oracle keySig
  accounts : Oracle accountSig
  keys : Oracle keySig

structure World where
  accounts : Accounts.Db
  keys : Db

/-- What `ON DELETE CASCADE` leaves of the keys of users and of what they have access to. -/
def Db.ofUsers (s : Db) (accounts : Accounts.Db) : Db :=
  let keys := (s.keys .user).filter (fun key : UserApiKey => accounts.has .user key.base.userId)
  { s.withKeys .user keys with
    access := s.access.filter (fun a => keys.rows.any (fun key : UserApiKey => key.id = a.1)) }

namespace World

/-- No keys have been made. -/
def opened (accounts : Accounts.Db) : World := ⟨accounts, ⟨fun _ => .empty, [], []⟩⟩

/-- `networks` are those of each organization. -/
def identify (networks : Uuid → List Uuid) (hashApiKey : String → String) (w : World) (e : Served) :
    Option AuthenticatedEntity × World :=
  match e.credentials with
  | .session cookie =>
    let outcome := run accountStep e.sessions 0 (Accounts.extractAuth networks (.session cookie)) w.accounts
    (outcome.result.toOption, { w with accounts := outcome.state })
  | .bearer apiKeyRaw daemonId =>
    let outcome := run keyStep e.bearers 0 (authenticate hashApiKey apiKeyRaw daemonId) w.keys
    (outcome.result.toOption, { w with keys := outcome.state })

def handle {α : Type} (w : World) (answers : Oracle keySig) (p : Task α) : World :=
  { w with keys := (run keyStep answers 0 p w.keys).state }

def edit (w : World) (answers : Oracle accountSig) (call : UserCall) : World :=
  let accounts := (run accountStep answers 0 call.program w.accounts).state
  ⟨accounts, w.keys.ofUsers accounts⟩

def perform (w : World) (e : Served) (auth : AuthenticatedEntity) : World :=
  match e.request with
  | .createUserApiKey key => w.handle e.keys (createUserApiKey auth key)
  | .updateUserApiKey id request => w.handle e.keys (updateUserApiKey auth id request)
  | .deleteUser id => w.edit e.accounts (.delete auth id)
  | .bulkDeleteUsers ids => w.edit e.accounts (.bulkDelete auth ids)
  | .updateUser id request => w.edit e.accounts (.update auth id request)
  | .adminUpdateUser id request => w.edit e.accounts (.adminUpdate auth id request)
  | .other => w

def serve (networks : Uuid → List Uuid) (hashApiKey : String → String) (w : World) (e : Served) : World :=
  match w.identify networks hashApiKey e with
  | (some auth, w) => w.perform e auth
  | (none, w) => w

end World

section rights

variable (networks : Uuid → List Uuid) (accounts : Accounts.Db)

def Holds (userId : Uuid) (permissions : UserOrgPermissions) : Prop :=
  ∃ user : User, user ∈ accounts.users.rows ∧ user.id = userId ∧ permissions ≤ user.base.permissions

/-- The user can access the network: as `extract_auth` loads the networks of a session. -/
def Reaches (userId networkId : Uuid) : Prop :=
  ∃ user : User, user ∈ accounts.users.rows ∧ user.id = userId ∧
    if manages user.base.permissions then networkId ∈ networks user.base.organizationId
    else ∃ a : UserNetworkAccess, a ∈ accounts.access.rows ∧ a.base.userId = userId ∧ a.base.networkId = networkId

/-- Whoever acts for a user has no more than the user has. -/
def Within : AuthenticatedEntity → Prop
  | .user userId _ permissions networkIds _ | .apiKey _ userId _ permissions networkIds =>
    Holds accounts userId permissions ∧ ∀ networkId ∈ networkIds, Reaches networks accounts userId networkId
  | _ => True

end rights

end VantageNet.ApiKeys
