import Mathlib
import VantageNet.Accounts.Invites
import VantageNet.Interaction.Embedding
import VantageNet.Interaction.Ledger

/-!
A forgotten password: `initiate_password_reset` and `complete_password_reset` of `auth/service.rs` and the endpoints
`forgot_password` and `reset_password`, any number of which run at once. Times of `Instant` are nanoseconds.
-/

namespace VantageNet.Accounts

open Inventory Interaction Interaction.Program
open Events hiding Entity

/-- `Uuid::to_string`. -/
def hyphenated (id : Uuid) : String :=
  let digits := (Nat.toDigits 16 id).leftpad 32 '0'
  String.ofList (digits.take 8 ++ '-' :: (digits.drop 8).take 4 ++ '-' :: (digits.drop 12).take 4 ++
    '-' :: (digits.drop 16).take 4 ++ '-' :: digits.drop 20)

def User.setPassword (user : User) (passwordHash : String) (now : Instant) : User :=
  { user with updatedAt := now, base := { user.base with passwordHash := some passwordHash } }

/-- A statement to the database, or what `AuthService` asks of the event bus, the clock, Argon2 and the mail server, and its
map of tokens with its guard. The clock is asked how long it is since it was last asked. -/
inductive ResetOp where
  | account (o : AccountOp)
  | publishAuth
  | instantNow
  | hashPassword (password : String)
  | sendPasswordReset (email token : String)
  | writeTokens
  | dropTokens
  | insertToken (token : String) (userId : Uuid) (createdAt : ℕ)
  | removeToken (token : String)

@[reducible]
def ResetOp.Reply : ResetOp → Type
  | .account o => o.Reply
  | .publishAuth | .sendPasswordReset _ _ => Except String Unit
  | .instantNow => ℕ
  | .hashPassword _ => Except String String
  | .removeToken _ => Option (Uuid × ℕ)
  | _ => Unit

abbrev resetSig : Signature := ⟨ResetOp, ResetOp.Reply⟩

/-- An entry of `password_reset_tokens`: the token, whom it is for and when it was made. -/
structure ResetToken where
  token : String
  userId : Uuid
  createdAt : ℕ
  deriving DecidableEq

structure ResetState where
  db : Db
  tokens : List ResetToken
  clock : ℕ

def resetStep : Handler resetSig ResetState
  | .account o, a, s =>
    let (r, db) := accountStep o a s.db
    (r, { s with db })
  | .instantNow, (elapsed : ℕ), s => (s.clock + elapsed, { s with clock := s.clock + elapsed })
  | .insertToken token userId createdAt, a, s =>
    (a, { s with tokens := ⟨token, userId, createdAt⟩ :: s.tokens.filter (fun e => e.token ≠ token) })
  | .removeToken token, _, s =>
    ((s.tokens.find? (fun e => e.token = token)).map (fun e => (e.userId, e.createdAt)),
      { s with tokens := s.tokens.filter (fun e => e.token ≠ token) })
  | _, a, s => (a, s)

inductive TokensGuard where
  | tokens
  deriving DecidableEq

/-- The guards are those of `write` of `tokio::sync::RwLock`. -/
def ResetOp.lockAction : ResetOp → LockAction TokensGuard
  | .writeTokens => .acquire .tokens true
  | .dropTokens => .release .tokens
  | _ => .none

namespace AuthService

def ofAccounts : Embedding accountSig resetSig := ⟨ResetOp.account, fun _ r => r⟩

abbrev account {α : Type} (p : Request α) : Program resetSig ApiError α := p.embed ofAccounts id

abbrev ask (o : ResetOp) : Program resetSig ApiError o.Reply := .op o .ret

/-- An operation whose error ends the request. -/
def orInternal {α : Type} (r : Except String α) : Program resetSig ApiError α := orFail (r.mapError .internal)

def publishAuth : Program resetSig ApiError Unit := .op ResetOp.publishAuth orInternal

/-- `Duration::as_secs`. -/
def elapsedSecs (createdAt now : ℕ) : ℕ := (now - createdAt) / 1000000000

/-- The guard is dropped at the end of the call, after the mail. -/
def initiatePasswordReset (emailService : Bool) (email : String) : Program resetSig ApiError Unit :=
  if emailService then do
    let allUsers : List User ← account (Storage.getAll .user (fun _ => true))
    match allUsers.find? (fun u => u.base.email = email) with
    | none => ret ()
    | some user => do
      publishAuth
      let token := hyphenated (← account Storage.newV4)
      let _ ← ask .writeTokens
      let now ← ask .instantNow
      let _ ← ask (.insertToken token user.id now)
      .op (ResetOp.sendPasswordReset user.base.email token) orInternal
  else fail (.internal "Email service not configured")

def completePasswordReset (token newPassword : String) : Program resetSig ApiError User := do
  let _ ← ask .writeTokens
  match ← ask (.removeToken token) with
  | none => fail (.internal "Invalid or expired password reset token")
  | some (userId, createdAt) => do
    let now ← ask .instantNow
    if 3600 < elapsedSecs createdAt now then fail (.internal "Password reset token has expired")
    else
      match ← account (Storage.getById .user userId) with
      | none => fail (.internal "User not found")
      | some (user : User) => do
        publishAuth
        let hashedPassword ← Program.op (ResetOp.hashPassword newPassword) orInternal
        let now ← account Storage.utcNow
        let updated ← account (Crud.update .user (user.setPassword hashedPassword now))
        let _ ← ask .dropTokens
        return updated

end AuthService

/-- `forgot_password`, or `reset_password` under the session of a cookie. -/
inductive ResetCall where
  | forgotPassword (emailService : Bool) (email : String)
  | resetPassword (token password : String) (cookie : Uuid)

def ResetCall.program : ResetCall → Program resetSig ApiError Unit
  | forgotPassword emailService email => AuthService.initiatePasswordReset emailService email
  | resetPassword token password cookie => do
    let user ← AuthService.completePasswordReset token password
    AuthService.account (do
      let session ← loadSession cookie
      saveSession cookie { session with userId := some user.id })

/-- How far a call has come. -/
inductive ResetStage where
  | asking
  /-- The user to be written to is known. -/
  | addressed (user : User)
  | timed (user : User) (now : ℕ)
  | issued (entry : ResetToken)
  /-- The token was there, and is so no longer. -/
  | redeemed (entry : ResetToken)
  | inTime (entry : ResetToken) (now : ℕ)
  | found (entry : ResetToken) (now : ℕ) (user : User)
  | hashed (entry : ResetToken) (now : ℕ) (user : User) (passwordHash : String)
  | changed (entry : ResetToken) (now : ℕ)

structure Resetter where
  call : ResetCall
  stage : ResetStage

namespace Resetter

def start (call : ResetCall) : Resetter := ⟨call, .asking⟩

/-- The token that the call has made. -/
def issued (a : Resetter) : Option ResetToken :=
  match a.stage with
  | .issued entry => some entry
  | _ => none

/-- The call has set the password. -/
def done (a : Resetter) : Bool :=
  match a.stage with
  | .changed _ _ => true
  | _ => false

/-- The token that the call has used up. -/
def redeemed (a : Resetter) : Option ResetToken :=
  match a.stage with
  | .redeemed entry | .inTime entry _ | .found entry _ _ | .hashed entry _ _ _ | .changed entry _ => some entry
  | _ => none

def next (a : Resetter) (o : ResetOp) (r : o.Reply) : Resetter :=
  { a with stage :=
    match a.stage with
    | .asking =>
      match a.call, o, r with
      | .forgotPassword _ email, .account (.list .user _), .ok (users : List User) =>
        (users.find? (fun u => u.base.email = email)).elim .asking .addressed
      | _, .removeToken token, some (userId, createdAt) => .redeemed ⟨token, userId, createdAt⟩
      | _, _, _ => .asking
    | .addressed user =>
      match o, r with
      | .instantNow, (now : ℕ) => .timed user now
      | _, _ => .addressed user
    | .timed user now =>
      match o with
      | .insertToken token userId createdAt => .issued ⟨token, userId, createdAt⟩
      | _ => .timed user now
    | .redeemed entry =>
      match o, r with
      | .instantNow, (now : ℕ) => if 3600 < AuthService.elapsedSecs entry.createdAt now then .redeemed entry else .inTime entry now
      | _, _ => .redeemed entry
    | .inTime entry now =>
      match o, r with
      | .account (.get .user _), .ok (some (user : User)) => .found entry now user
      | _, _ => .inTime entry now
    | .found entry now user =>
      match o, r with
      | .hashPassword _, .ok passwordHash => .hashed entry now user passwordHash
      | _, _ => .found entry now user
    | .hashed entry now user passwordHash =>
      match o with
      | .account (.update .user _) => .changed entry now
      | _ => .hashed entry now user passwordHash
    | stage => stage }

end Resetter

/-- What no reset changes of a row of `users`. -/
def User.steady (user : User) : User :=
  { user with updatedAt := 0, base := { user.base with passwordHash := none, networkIds := [] } }

/-- At most an hour, in whole seconds. -/
def ResetToken.inTime (entry : ResetToken) (now : ℕ) : Prop :=
  entry.createdAt ≤ now ∧ AuthService.elapsedSecs entry.createdAt now ≤ 3600

namespace Resetter

def ok (a : Resetter) : ResetOp → Prop
  | .account (.get .user id) => ∀ entry now, a.stage = .inTime entry now → id = entry.userId
  | .account (.update .user (row : User)) => ∃ entry now user passwordHash,
      a.stage = .hashed entry now user passwordHash ∧ row.steady = user.steady ∧ row.base.passwordHash = some passwordHash
  | .account (.create _ _) | .account (.update _ _) | .account (.delete _ _) => False
  | .account (.saveSession cookie session) => ∃ entry now password, a.stage = .changed entry now ∧
      a.call = .resetPassword entry.token password cookie ∧ session.userId = some entry.userId
  | .hashPassword password => ∀ entry now user, a.stage = .found entry now user →
      ∃ cookie, a.call = .resetPassword entry.token password cookie
  | .insertToken _ userId createdAt => ∃ user, a.stage = .timed user createdAt ∧ userId = user.id
  | .removeToken token => a.stage = .asking ∧ ∃ password cookie, a.call = .resetPassword token password cookie
  | _ => True

end Resetter

/-- The database answers with the row of the id it was asked for. -/
def answersReset : (o : ResetOp) → o.Reply → Prop
  | .account (.get .user id), .ok (some (user : User)) => user.id = id
  | _, _ => True

def resetting : Tracking resetSig ApiError TokensGuard ResetCall ResetState Resetter where
  scheme := ⟨ResetCall.program, ResetOp.lockAction, resetStep⟩
  monitor := ⟨Resetter.ok, answersReset, Resetter.next⟩
  start := Resetter.start

abbrev ResetRun := Tracked resetSig ApiError TokensGuard ResetCall ResetState Resetter

abbrev ResetTick := Tick resetSig ResetCall

/-- No token has been made. -/
def ResetRun.start (db : Db) (clock : ℕ) : ResetRun := ⟨⟨[], ⟨db, [], clock⟩⟩, fun _ => .start (.forgotPassword false "")⟩

namespace ResetRun

def call (w : ResetRun) (i : ℕ) : Option ResetCall := (w.pool.threads[i]?).map Thread.call

/-- The tokens made so far. -/
def issued (w : ResetRun) : Multiset ResetToken := w.worth (fun a => (a.issued.toList : Multiset ResetToken))

/-- Those used up so far. -/
def redeemed (w : ResetRun) : Multiset ResetToken := w.worth (fun a => (a.redeemed.toList : Multiset ResetToken))

end ResetRun

end VantageNet.Accounts
