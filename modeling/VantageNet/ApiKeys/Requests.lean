import VantageNet.ApiKeys.Keys
import VantageNet.Handlers.Crud
import VantageNet.Shares.Handlers

/-!
What requests do with API keys: how one authenticates another (`auth/middleware/auth.rs`), and how keys are created,
updated and rotated (`user_api_keys/handlers.rs`, `daemon_api_keys/handlers.rs`, `ApiKeyService::rotate_key`). Events are
published without fail; `hash_api_key` is a library's.
-/

namespace VantageNet.ApiKeys

open Interaction Interaction.Program
open Events (AuthenticatedEntity UserOrgPermissions)

inductive Failure where
  | storage
  | other (message : String)
  | internal (cause : Failure)
  | unauthorized (message : String)
  | forbidden (message : String)
  | noNetworkAccess (networkId : Uuid)
  | notFound (entityName : String) (id : Uuid)
  | paymentRequired (message : String)
  | api (cause : Handlers.Failure)

/-- What the row of a key is written for. The database does not see it. -/
inductive Purpose where
  | used
  | expired
  | requested
  | rotated
  deriving DecidableEq

inductive KeyOp where
  | newV4
  | utcNow
  | generateApiKey (t : ApiKeyType)
  | getByKey (t : ApiKeyType) (hashedKey : String)
  | getById (t : ApiKeyType) (id : Uuid)
  | create (key : UserApiKey)
  | update (t : ApiKeyType) (purpose : Purpose) (read key : ApiKey t)
  | networkAccess (apiKeyId : Uuid)
  | deleteAccess (apiKeyId : Uuid)
  | createAccess (apiKeyId networkId : Uuid)
  | apiAccess (organizationId : Uuid)
  | validateTags (tags : List Uuid) (organizationId : Uuid)

@[reducible]
def KeyOp.Reply : KeyOp → Type
  | .newV4 => Uuid
  | .utcNow => Instant
  | .generateApiKey _ => String × String
  | .getByKey t _ | .getById t _ => Except Failure (Option (ApiKey t))
  | .create _ | .update _ _ _ _ | .deleteAccess _ | .createAccess _ _ => Except Failure Unit
  | .networkAccess _ => Except Failure (List Uuid)
  | .apiAccess _ => Except Failure (Option (Option Bool))
  | .validateTags _ _ => Except Failure (List Uuid)

abbrev keySig : Signature := ⟨KeyOp, KeyOp.Reply⟩

section database

/-- A key that was disabled, and the value of one that was rotated away. -/
inductive Revocation where
  | disabled (t : ApiKeyType) (id : Uuid)
  | rotated (t : ApiKeyType) (key : String)
  deriving DecidableEq

/-- `access` is `user_api_key_network_access`. `revoked` has what explicit updates and rotations have revoked and no later
one has asked for. -/
structure Db where
  keys : (t : ApiKeyType) → KeyTable (ApiKey t)
  access : List (Uuid × Uuid)
  revoked : List Revocation

namespace Db

def networkIds (s : Db) (apiKeyId : Uuid) : List Uuid := (s.access.filter (fun a => a.1 = apiKeyId)).map Prod.snd

def withKeys (s : Db) (t : ApiKeyType) (keys : KeyTable (ApiKey t)) : Db := { s with keys := Function.update s.keys t keys }

def note {t : ApiKeyType} (s : Db) (existing row : ApiKey t) : Purpose → List Revocation
  | .requested =>
    if ApiKeyCommon.isEnabled row then s.revoked.filter (· ≠ .disabled t (ApiKeyCommon.id row))
    else .disabled t (ApiKeyCommon.id row) :: s.revoked
  | .rotated => (.rotated t (ApiKeyCommon.key existing) :: s.revoked).filter (· ≠ .rotated t (ApiKeyCommon.key row))
  | .used | .expired => s.revoked

end Db

def uniqueViolation : Failure := .storage

def keyStep : Handler keySig Db
  | .getByKey t hashedKey, (a : Except Failure (Option (ApiKey t))), s =>
    (a.map (fun _ => ((s.keys t).findKey hashedKey).map ApiKeyCommon.row), s)
  | .getById t id, (a : Except Failure (Option (ApiKey t))), s =>
    (a.map (fun _ => ((s.keys t).find id).map ApiKeyCommon.row), s)
  | .create _, .error e, s => (.error e, s)
  | .create key, .ok _, s =>
    if h : ∀ k ∈ (s.keys .user).rows, Apart k (ApiKeyCommon.row key) then
      (.ok (), s.withKeys .user ((s.keys .user).insert (ApiKeyCommon.row key) h))
    else (.error uniqueViolation, s)
  | .update _ _ _ _, .error e, s => (.error e, s)
  | .update t purpose _ key, .ok _, s =>
    match (s.keys t).find (ApiKeyCommon.id key) with
    | none => (.ok (), s)
    | some existing =>
      if h : (s.keys t).Admits (ApiKeyCommon.row key) then
        (.ok (), { s.withKeys t ((s.keys t).put (ApiKeyCommon.row key) h) with revoked := s.note existing key purpose })
      else (.error uniqueViolation, s)
  | .networkAccess apiKeyId, (a : Except Failure (List Uuid)), s => (a.map (fun _ => s.networkIds apiKeyId), s)
  | .deleteAccess _, .error e, s => (.error e, s)
  | .deleteAccess apiKeyId, .ok _, s => (.ok (), { s with access := s.access.filter (fun a => a.1 ≠ apiKeyId) })
  | .createAccess _ _, .error e, s => (.error e, s)
  | .createAccess apiKeyId networkId, .ok _, s =>
    if ((s.keys .user).find apiKeyId).isSome && !s.access.contains (apiKeyId, networkId) then
      (.ok (), { s with access := s.access ++ [(apiKeyId, networkId)] })
    else (.error uniqueViolation, s)
  | .newV4, a, s => (a, s)
  | .utcNow, a, s => (a, s)
  | .generateApiKey _, a, s => (a, s)
  | .apiAccess _, a, s => (a, s)
  | .validateTags _ _, a, s => (a, s)

end database

abbrev Task := Program keySig Failure

section service

def newV4 : Task Uuid := .op .newV4 ret

def utcNow : Task Instant := .op .utcNow ret

/-- `generate_api_key_for_storage`: the key that is shown once, and its hash. -/
def generateApiKeyForStorage (t : ApiKeyType) : Task (String × String) := .op (.generateApiKey t) ret

def getOne (t : ApiKeyType) (hashedKey : String) : Task (Option (ApiKey t)) := .op (.getByKey t hashedKey) orFail

def getById (t : ApiKeyType) (id : Uuid) : Task (Option (ApiKey t)) := .op (.getById t id) orFail

def getForKey (apiKeyId : Uuid) : Task (List Uuid) := .op (.networkAccess apiKeyId) orFail

def saveForKey (apiKeyId : Uuid) (networkIds : List Uuid) : Task Unit := do
  .op (.deleteAccess apiKeyId) orFail
  forEach (fun networkId => .op (.createAccess apiKeyId networkId) orFail) networkIds

def found {α : Type} (missing : Failure) : Option α → Task α
  | some a => ret a
  | none => fail missing

/-- `CrudService::update`. -/
def update (t : ApiKeyType) (purpose : Purpose) (read key : ApiKey t) : Task (ApiKey t) := do
  let _ ← (← getById t (ApiKeyCommon.id key)) |> found (.other "Could not find")
  let now ← utcNow
  let key := ApiKeyCommon.setUpdatedAt key now
  .op (.update t purpose read key) orFail
  return key

/-- `UserApiKeyService::get_by_key`. -/
def getByKey (hashedKey : String) : Task (Option UserApiKey) :=
  (getOne .user hashedKey).bind fun
    | none => ret none
    | some key => (getForKey key.id).bind (fun networkIds => ret (some { key with base := { key.base with networkIds } }))

end service

section authentication

/-- The task that is spawned to write the key back. -/
def writeBack (t : ApiKeyType) (purpose : Purpose) (read key : ApiKey t) : Task Unit :=
  (update t purpose read key).attempt.bind (fun _ => ret ())

def validated (t : ApiKeyType) (key : ApiKey t) : Task Unit :=
  utcNow.bind (fun now =>
    match checkKeyValidity key now with
    | .ok _ => ret ()
    | .error e => do
      let later ← utcNow
      when (isExpired key later) (writeBack t .expired key (ApiKeyCommon.setIsEnabled key false))
      fail (.unauthorized e))

def requireApiAccess (organizationId : Uuid) : Task Unit :=
  .op (.apiAccess organizationId) (fun (r : Except Failure (Option (Option Bool))) =>
    match r with
    | .ok (some (some true)) => ret ()
    | _ => fail (.paymentRequired "Your plan does not include api access"))

def unwrapOrDefault {α : Type} (r : Except Failure (List α)) : List α := r.toOption.getD []

def touch (t : ApiKeyType) (key : ApiKey t) : Task Unit :=
  utcNow.bind (fun now => writeBack t .used key (ApiKeyCommon.setLastUsed key (some now)))

def acceptUserKey (key : UserApiKey) : Task AuthenticatedEntity := do
  validated .user key
  requireApiAccess key.base.organizationId
  let networkIds ← (getForKey key.id).attempt
  touch .user key
  return .apiKey key.id key.base.userId key.base.organizationId key.base.permissions (unwrapOrDefault networkIds)

def acceptDaemonKey (daemonId : Uuid) (key : DaemonApiKey) : Task AuthenticatedEntity := do
  validated .daemon key
  touch .daemon key
  return .daemon key.base.networkId key.id daemonId

def accepted {κ : Type} (accept : κ → Task AuthenticatedEntity) : Except Failure (Option κ) → Task AuthenticatedEntity
  | .ok (some key) => accept key
  | _ => fail (.unauthorized "Invalid API key")

/-- The `Bearer` token of a request, with its `X-Daemon-ID`. -/
def authenticate (hashApiKey : String → String) (apiKeyRaw : String) (daemonId : Option Uuid) : Task AuthenticatedEntity :=
  match ApiKeyType.fromKey apiKeyRaw with
  | .user => (getByKey (hashApiKey apiKeyRaw)).attempt.bind (accepted acceptUserKey)
  | .daemon =>
    match daemonId with
    | none => fail (.unauthorized "X-Daemon-ID header required for daemon API keys")
    | some daemonId => (getOne .daemon (hashApiKey apiKeyRaw)).attempt.bind (accepted (acceptDaemonKey daemonId))

end authentication

section handlers

/-- `Authorized<IsUser>`. -/
def authorizedUser (auth : AuthenticatedEntity) : Task Unit :=
  if auth.isUser then ret () else fail (.forbidden "User session required")

/-- `Authorized<Member>`. -/
def authorizedMember (auth : AuthenticatedEntity) : Task Unit :=
  if auth.atLeast .member then ret () else fail (.forbidden (UserOrgPermissions.member.asStr ++ " permission required"))

def required {α : Type} (message : String) : Option α → Task α := found (.internal (.other message))

def validatePermissions (keyPermissions userPermissions : UserOrgPermissions) : Except Failure Unit :=
  if userPermissions < keyPermissions then
    .error (.forbidden ("API key permissions (" ++ keyPermissions.asStr ++ ") cannot exceed your permissions (" ++
      userPermissions.asStr ++ ")"))
  else .ok ()

def validateNetworkAccess (keyNetworkIds userNetworkIds : List Uuid) : Except Failure Unit :=
  match keyNetworkIds.find? (fun networkId => !userNetworkIds.contains networkId) with
  | some networkId => .error (.noNetworkAccess networkId)
  | none => .ok ()

/-- `CrudService::create`: a key with an id of its own. -/
def identified (key : UserApiKey) : Task UserApiKey :=
  if key.id = Uuid.nil then utcNow.bind (fun now => newV4.bind (fun id => ret ⟨id, now, now, key.base⟩)) else ret key

def createWithNetworks (key : UserApiKey) (networkIds : List Uuid) : Task UserApiKey := do
  let created ← identified key
  .op (.create created) orFail
  when (!networkIds.isEmpty) (saveForKey created.id networkIds)
  return { created with base := { created.base with networkIds } }

def createUserApiKey (auth : AuthenticatedEntity) (key : UserApiKey) : Task (String × UserApiKey) := do
  authorizedUser auth
  let userId ← required "User ID required" auth.userId
  let organizationId ← required "Organization ID required" auth.organizationId
  let userPermissions ← required "Permissions required" auth.permissions
  orFail (validatePermissions key.base.permissions userPermissions)
  orFail (validateNetworkAccess key.base.networkIds auth.networkIds)
  let (plaintext, hashed) ← generateApiKeyForStorage .user
  let created ← createWithNetworks { key with base := { key.base with userId, organizationId, key := hashed } } key.base.networkIds
  return (plaintext, created)

def UserApiKey.preserveImmutableFields (self existing : UserApiKey) : UserApiKey :=
  { self with
    id := existing.id
    createdAt := existing.createdAt
    base := { self.base with
      key := existing.base.key
      lastUsed := existing.base.lastUsed
      userId := existing.base.userId
      organizationId := existing.base.organizationId } }

def DaemonApiKey.preserveImmutableFields (self existing : DaemonApiKey) : DaemonApiKey :=
  { self with base := { self.base with key := existing.base.key, lastUsed := existing.base.lastUsed } }

def updateUserApiKey (auth : AuthenticatedEntity) (id : Uuid) (request : UserApiKey) : Task UserApiKey := do
  authorizedUser auth
  let userId ← required "User ID required" auth.userId
  let userPermissions ← required "Permissions required" auth.permissions
  let existing ← (← getById .user id) |> found (.notFound "API key" id)
  orFail (if existing.base.userId = userId then .ok () else .error (.forbidden "You don't own this API key"))
  orFail (validatePermissions request.base.permissions userPermissions)
  orFail (validateNetworkAccess request.base.networkIds auth.networkIds)
  saveForKey id request.base.networkIds
  let updated ← update .user .requested existing (UserApiKey.preserveImmutableFields request existing)
  return { updated with base := { updated.base with networkIds := request.base.networkIds } }

def checked (r : Except Handlers.Failure Unit) : Task Unit := orFail (r.mapError .api)

/-- `update_handler` for daemons' keys. -/
def updateHandler (auth : AuthenticatedEntity) (id : Uuid) (request : DaemonApiKey) : Task DaemonApiKey := do
  let organizationId ← found (.forbidden "Organization context required") auth.organizationId
  let existing ← (← getById .daemon id) |> found (.notFound "api_keys" id)
  let request := DaemonApiKey.preserveImmutableFields { request with id := existing.id, createdAt := existing.createdAt } existing
  checked (Shares.validateUpdateAccess (some existing.base.networkId) none (some request.base.networkId) none
    auth.networkIds organizationId)
  let tags ← .op (.validateTags request.base.tags organizationId) orFail
  update .daemon .requested existing { request with base := { request.base with tags } }

def updateDaemonApiKey (auth : AuthenticatedEntity) (id : Uuid) (request : DaemonApiKey) : Task DaemonApiKey := do
  authorizedMember auth
  let existing ← (← getById .daemon id) |> found (.notFound "Daemon API key" id)
  checked (Handlers.validateNetworkAccess (some existing.base.networkId) auth.networkIds "update")
  updateHandler auth id (DaemonApiKey.preserveImmutableFields request existing)

/-- `validate_access` of the two services. -/
def validateAccess (auth : AuthenticatedEntity) : (t : ApiKeyType) → ApiKey t → Except Failure Unit
  | .user, key =>
    match auth.userId with
    | some userId => if (key : UserApiKey).base.userId = userId then .ok () else .error (.other "You don't own this API key")
    | none => .error (.other "User context required to validate API key access")
  | .daemon, key =>
    if auth.networkIds.contains (key : DaemonApiKey).base.networkId then .ok ()
    else .error (.other "You don't have access to the network for this daemon API key")

def rotateKey (auth : AuthenticatedEntity) (t : ApiKeyType) (apiKeyId : Uuid) : Task String := do
  let existing ← (← getById t apiKeyId) |> found (.notFound "API key" apiKeyId)
  orFail (validateAccess auth t existing)
  let (plaintext, hashed) ← generateApiKeyForStorage t
  let _ ← update t .rotated existing (ApiKeyCommon.setKey existing hashed)
  return plaintext

def authorizedFor (auth : AuthenticatedEntity) : ApiKeyType → Task Unit
  | .user => authorizedUser auth
  | .daemon => authorizedMember auth

/-- `rotate_key_handler` of either type. -/
def rotateKeyHandler (auth : AuthenticatedEntity) (t : ApiKeyType) (apiKeyId : Uuid) : Task String := do
  authorizedFor auth t
  (rotateKey auth t apiKeyId).attempt.bind (fun r => orFail (r.mapError .internal))

end handlers

end VantageNet.ApiKeys
