import VantageNet.Interaction.Tracking
import VantageNet.Accounts.Invites

/-!
What becomes of an invite while calls create, revoke and accept invites and register users
at the same time: how far each call has come with the invite it is about.
-/

namespace VantageNet.Accounts

open Inventory Interaction Interaction.Program
open Events hiding Entity

inductive InviteCall where
  | create (publicUrl : String) (seatLimit : Option ℕ) (auth : AuthenticatedEntity) (request : CreateInviteRequest)
  | revoke (auth : AuthenticatedEntity) (id : Uuid)
  | accept (cookie id : Uuid)
  | register (cookie : Uuid) (registration : Registration) (termsAcceptedAt : Option Instant)

def InviteCall.program : InviteCall → Request Unit
  | create publicUrl seatLimit auth request => (createInvite publicUrl seatLimit auth request).bind (fun _ => ret ())
  | revoke auth id => revokeInvite auth id
  | accept cookie id => acceptInviteLink cookie id
  | register cookie registration termsAcceptedAt => Accounts.register cookie registration termsAcceptedAt

inductive InviteStage where
  | issuing
  | created (id : Uuid) (expiresAt : Instant)
  | revoking
  | accepting
  /-- The invite is to be deleted, so that nobody joins by it. -/
  | leaving
  | deleting (id : Uuid)
  | revoked (id : Uuid)
  | entering
  /-- Somebody is to join by the invite that the session is of. -/
  | pending
  | found (id : Uuid) (expiresAt : Instant)
  | checked (id : Uuid) (expiresAt checkedAt : Instant)
  /-- The invite is used up, where it was found, had not expired and could be deleted. -/
  | joining (id : Uuid) (used : Option (Instant × Instant))
  | admitted (id : Uuid)
  | free
  deriving DecidableEq

namespace InviteStage

def start : InviteCall → InviteStage
  | .create _ _ _ _ => issuing
  | .revoke _ _ => revoking
  | .accept _ _ => accepting
  | .register _ _ _ => entering

def next (a : InviteStage) (o : AccountOp) (r : o.Reply) : InviteStage :=
  match a with
  | issuing =>
    match o, r with
    | .create .invite (row : Invite), .ok _ => created row.id row.base.expiresAt
    | _, _ => issuing
  | revoking =>
    match o with
    | .get .invite _ => leaving
    | _ => revoking
  | accepting =>
    match o, r with
    | .get .user _, .ok (some _) => leaving
    | .get .user _, _ => pending
    | _, _ => accepting
  | leaving =>
    match o, r with
    | .get .invite id, .ok (some _) => deleting id
    | .get .invite _, _ => free
    | _, _ => leaving
  | deleting id =>
    match o, r with
    | .delete .invite _, .ok _ => revoked id
    | .delete .invite _, .error _ => free
    | _, _ => deleting id
  | entering =>
    match o, r with
    | .loadSession _, (session : Session) => if session.pending.isSome then pending else free
    | _, _ => entering
  | pending =>
    match o, r with
    | .get .invite id, .ok (some (i : Invite)) => found id i.base.expiresAt
    | .get .invite id, _ => joining id none
    | _, _ => pending
  | found id expiresAt =>
    match o, r with
    | .utcNow, (now : Instant) => if now < expiresAt then checked id expiresAt now else joining id none
    | _, _ => found id expiresAt
  | checked id expiresAt checkedAt =>
    match o, r with
    | .delete .invite _, .ok _ => joining id (some (expiresAt, checkedAt))
    | .delete .invite _, .error _ => joining id none
    | _, _ => checked id expiresAt checkedAt
  | joining id used =>
    match o, r with
    | .create .user _, .ok _ => admitted id
    | .update .user _, .ok _ => admitted id
    | _, _ => joining id used
  | a => a

/-- A deletion is of the invite that the call has looked up for it. -/
def ok (a : InviteStage) : AccountOp → Prop
  | .create .invite _ => a = issuing
  | .update .invite _ => False
  | .delete .user _ => False
  | .delete .invite (f : Invite → Bool) =>
    ∃ id, (a = deleting id ∨ ∃ expiresAt checkedAt, a = checked id expiresAt checkedAt) ∧ f = fun i : Invite => i.id = id
  | _ => True

/-- The call has found the invite and is to delete it. -/
def has (a : InviteStage) (id : Uuid) : Bool :=
  match a with
  | deleting x | found x _ | checked x _ _ => x = id
  | _ => false

/-- The call has taken the invite out of the store. -/
def took (a : InviteStage) (id : Uuid) : Bool :=
  match a with
  | revoked x | joining x _ | admitted x => x = id
  | _ => false

def issued (a : InviteStage) (id : Uuid) : Bool :=
  match a with
  | created x _ => x = id
  | _ => false

end InviteStage

def admitting : Tracking accountSig ApiError Unit InviteCall Db InviteStage where
  scheme := ⟨InviteCall.program, fun _ => .none, accountStep⟩
  monitor := ⟨InviteStage.ok, fun _ _ => True, InviteStage.next⟩
  start := InviteStage.start

abbrev InviteRun := Tracked accountSig ApiError Unit InviteCall Db InviteStage

abbrev InviteTick := Tick accountSig InviteCall

def InviteRun.at (db : Db) : InviteRun := ⟨⟨[], db⟩, fun _ => .free⟩

/-- Whom a step admits, nobody has been admitted before by the same invite, which has neither been revoked nor
expired. -/
def AdmitsOnce (w : InviteRun) : InviteTick → Prop
  | .spawn _ => True
  | .run i answers => ∀ id, (admitting.step w (.run i answers)).points i = .admitted id → w.points i ≠ .admitted id →
    (∀ j, w.points j ≠ .admitted id ∧ w.points j ≠ .revoked id) ∧
      ∀ j expiresAt, w.points j = .created id expiresAt → answers .utcNow < expiresAt

/-- Whoever looks an invite up to delete it does so while no other call is about to; whoever is to join by it finds it
there, not expired, deletes it, and joins before it expires; and a new id has not been given to an invite before. -/
def InOrder (calls : ℕ) (points : ℕ → InviteStage) (s : Db) (answers : (o : AccountOp) → o.Reply) (a : InviteStage) :
    AccountOp → Prop
  | .get .invite id =>
    match a with
    | .leaving => ∀ j < calls, (points j).has id = false
    | .pending => (∀ j < calls, (points j).has id = false) ∧ s.has .invite id = true ∧
        Except.toBool (answers (.get .invite id)) = true
    | _ => True
  | .utcNow =>
    match a with
    | .found _ expiresAt => answers .utcNow < expiresAt
    | _ => True
  | .delete .invite f =>
    match a with
    | .checked _ _ _ => Except.toBool (answers (.delete .invite f)) = true
    | _ => True
  | .create .user _ | .update .user _ =>
    match a with
    | .joining _ (some (expiresAt, checkedAt)) => expiresAt ≤ answers .utcNow → expiresAt ≤ checkedAt
    | _ => True
  | .create .invite (row : Invite) => ∀ j < calls, (points j).has row.id = false ∧ (points j).took row.id = false ∧
      (points j).issued row.id = false
  | _ => True

def Orderly (w : InviteRun) : InviteTick → Prop
  | .spawn _ => True
  | .run i answers =>
    match w.prog i with
    | some (.op o _) => InOrder w.pool.threads.length w.points w.pool.state answers (w.points i) o
    | _ => True

instance (calls : ℕ) (points : ℕ → InviteStage) (s : Db) (answers : (o : AccountOp) → o.Reply) (a : InviteStage)
    (o : AccountOp) : Decidable (InOrder calls points s answers a o) := by
  unfold InOrder
  split
  · split <;> infer_instance
  · split <;> infer_instance
  · split <;> infer_instance
  · split <;> infer_instance
  · split <;> infer_instance
  · infer_instance
  · infer_instance

instance (w : InviteRun) (tick : InviteTick) : Decidable (Orderly w tick) := by
  unfold Orderly
  split
  · infer_instance
  · split <;> infer_instance

section programs

/-- An operation that no call has to take care of. -/
def Plain : AccountOp → Prop
  | .create .invite _ | .update .invite _ | .delete .user _ | .delete .invite _ => False
  | _ => True

theorem ok_of_plain (a : InviteStage) (o : AccountOp) (h : Plain o) : admitting.monitor.ok a o := by
  cases o with
  | create k row => cases k <;> trivial
  | update k row => cases k <;> trivial
  | delete k f => cases k <;> trivial
  | _ => trivial

theorem only_statement {α : Type} (r : Except StorageError α) : Only Plain (Storage.statement r) := by
  cases r <;> trivial

theorem only_create {k : Kind} (row : Row k) (h : Plain (.create k row)) : Only Plain (Storage.create k row) :=
  ⟨h, fun r => (only_statement r).bind (fun _ => trivial)⟩

theorem only_newV4 : Only Plain Storage.newV4 := ⟨trivial, fun _ => trivial⟩

theorem only_utcNow : Only Plain Storage.utcNow := ⟨trivial, fun _ => trivial⟩

theorem only_setNetworkIds (userId : Uuid) (networkIds : List Uuid) : Only Plain (UserService.setNetworkIds userId networkIds) := by
  refine Only.bind ⟨trivial, fun r => only_statement r⟩ (fun _ => Only.forEach (fun networkId => ?_) networkIds)
  refine only_newV4.bind (fun id => only_utcNow.bind (fun now => ?_))
  exact (only_create (k := .access) _ trivial).bind (fun _ => trivial)

theorem only_createUser (base : UserBase) : Only Plain (UserService.create base) := by
  refine Only.bind ⟨trivial, fun r => only_statement r⟩ (fun users => ?_)
  cases users.head? with
  | some user => trivial
  | none =>
    refine only_newV4.bind (fun id => only_utcNow.bind (fun now => (only_create (k := .user) _ trivial).bind (fun created => ?_)))
    refine Only.bind ?_ (fun _ => trivial)
    unfold Program.when
    split_ifs
    · exact only_setNetworkIds created.id base.networkIds
    · trivial

theorem only_registerUser (r : Registration) (pending : Option PendingInvite) (termsAcceptedAt : Option Instant) :
    Only Plain (registerUser r pending termsAcceptedAt) := by
  refine Only.bind ⟨trivial, fun r => only_statement r⟩ (fun users => ?_)
  split_ifs
  · trivial
  · cases pending with
    | none => exact only_newV4.bind (fun organizationId => only_utcNow.bind (fun now => only_createUser _))
    | some p => exact only_utcNow.bind (fun now => only_createUser _)

theorem only_saveSession (cookie : Uuid) (session : Session) : Only Plain (saveSession cookie session) :=
  ⟨trivial, fun _ => trivial⟩

theorem only_crudUpdate (user : User) : Only Plain (Crud.update .user user) := by
  refine Only.bind ⟨trivial, fun r => only_statement r⟩ (fun found => ?_)
  cases found with
  | none => trivial
  | some existing => exact ⟨trivial, fun now => ⟨trivial, fun r => (only_statement r).bind (fun _ => trivial)⟩⟩

variable {a : InviteStage}

theorem follows_orEmpty {k : Kind} (filter : Row k → Bool) :
    Follows admitting.monitor (fun _ b => b = .issuing) .issuing (orEmpty (Storage.getAll k filter)) := by
  refine ⟨trivial, fun r _ => ?_⟩
  cases r <;> rfl

theorem follows_checkSeats (seatLimit : Option ℕ) (organizationId : Uuid) :
    Follows admitting.monitor (fun _ b => b = .issuing) .issuing (checkSeats seatLimit organizationId) := by
  cases seatLimit with
  | none => rfl
  | some max =>
    refine Follows.seq (follows_orEmpty _) (fun members => Follows.seq (follows_orEmpty _) (fun pending => ?_))
    split_ifs
    · trivial
    · rfl

theorem follows_checkSendTo (sendTo : Option String) :
    Follows admitting.monitor (fun _ b => b = .issuing) .issuing (checkSendTo sendTo) := by
  cases sendTo with
  | none => rfl
  | some email =>
    refine Follows.seq (follows_orEmpty _) (fun users => ?_)
    split_ifs
    · trivial
    · rfl

theorem follows_createInvite (publicUrl : String) (seatLimit : Option ℕ) (auth : AuthenticatedEntity)
    (request : CreateInviteRequest) :
    Follows admitting.monitor (fun _ _ => True) .issuing (createInvite publicUrl seatLimit auth request) := by
  apply Follows.bind
  apply follows_authorized.imp
  rintro organizationId b ⟨rfl, -⟩
  apply Follows.bind
  apply follows_authorized.imp
  rintro userId b ⟨rfl, -⟩
  apply Follows.bind
  apply (follows_permissionsOf auth).imp
  rintro permissions b ⟨rfl, -⟩
  dsimp only
  split_ifs
  · trivial
  · trivial
  · refine Follows.seq (follows_checkSeats _ _) (fun _ => Follows.seq (follows_checkSendTo _) (fun _ => ?_))
    refine ⟨trivial, fun id _ => ⟨trivial, fun now _ => ⟨rfl, fun r _ => ?_⟩⟩⟩
    exact Follows.bind (follows_statement (fun _ _ => trivial))

/-- Before it is deleted the invite is looked up once more. -/
theorem follows_crudDeleteInvite (id : Uuid) :
    Follows admitting.monitor (fun _ _ => True) .leaving (Crud.delete .invite id).attempt := by
  refine ⟨trivial, fun r _ => ?_⟩
  rcases r with e | _ | i
  · trivial
  · trivial
  · refine ⟨⟨id, .inl rfl, rfl⟩, fun r _ => ?_⟩
    cases r <;> trivial

theorem follows_useInvite (id : Uuid) :
    Follows admitting.monitor (fun _ b => ∃ used, b = .joining id used) .pending (InviteService.useInvite id).attempt := by
  refine ⟨trivial, fun r _ => ?_⟩
  rcases r with e | _ | i
  · exact ⟨none, rfl⟩
  · exact ⟨none, rfl⟩
  · refine ⟨trivial, fun now _ => ?_⟩
    change Follows _ _ (if now < i.base.expiresAt then InviteStage.checked id i.base.expiresAt now else .joining id none)
      (Program.attempt (if Invite.isValid i now then _ else _))
    by_cases hvalid : now < i.base.expiresAt
    · have hisValid : Invite.isValid i now = true := decide_eq_true hvalid
      rw [if_pos hvalid, if_pos hisValid]
      refine ⟨⟨id, .inr ⟨_, _, rfl⟩, rfl⟩, fun r _ => ?_⟩
      cases r with
      | error e => exact ⟨none, rfl⟩
      | ok x => exact ⟨_, rfl⟩
    · rw [if_neg hvalid, if_neg (by simpa [Invite.isValid] using hvalid)]
      exact ⟨none, rfl⟩

theorem follows_plain {p : Request Unit} (hp : Only Plain p) (a : InviteStage) :
    Follows admitting.monitor (fun _ _ => True) a p := hp.follows ok_of_plain a

theorem follows_revokeInvite (auth : AuthenticatedEntity) (id : Uuid) :
    Follows admitting.monitor (fun _ _ => True) .revoking (revokeInvite auth id) := by
  apply Follows.bind
  apply follows_authorized.imp
  rintro organizationId b ⟨rfl, -⟩
  apply Follows.bind
  apply follows_authorized.imp
  rintro userId b ⟨rfl, -⟩
  apply Follows.bind
  apply (follows_permissionsOf auth).imp
  rintro permissions b ⟨rfl, -⟩
  refine ⟨trivial, fun r _ => ?_⟩
  rcases r with e | _ | i
  · trivial
  · trivial
  · refine ⟨trivial, fun now _ => ?_⟩
    change Follows admitting.monitor _ InviteStage.leaving
      (Program.bind (if Invite.isValid i now then ret i else fail _) _)
    split_ifs
    · change Follows admitting.monitor _ InviteStage.leaving (if i.base.organizationId ≠ organizationId then _ else _)
      split_ifs
      · trivial
      · trivial
      · refine ⟨trivial, fun r _ => ?_⟩
        rcases r with e | _ | i
        · trivial
        · trivial
        · exact ⟨⟨id, .inl rfl, rfl⟩, fun r _ => follows_statement (fun _ _ => trivial)⟩
    · trivial

theorem follows_processPendingInvite {session : Session} {p : PendingInvite} (hpending : session.pending = some p) :
    Follows admitting.monitor (fun _ _ => True) .pending (processPendingInvite session) := by
  unfold processPendingInvite
  rw [hpending]
  apply Follows.bind
  apply (follows_useInvite p.inviteId).imp
  intro _ _ _
  trivial

theorem follows_joinAtOnce (cookie userId : Uuid) {session : Session} {p : PendingInvite}
    (hpending : session.pending = some p) :
    Follows admitting.monitor (fun _ _ => True) .pending (joinAtOnce cookie userId session) := by
  apply Follows.bind
  apply (follows_processPendingInvite hpending).imp
  rintro ⟨pending, session'⟩ b -
  refine follows_plain ?_ b
  cases pending with
  | none => exact only_saveSession cookie session'
  | some p =>
    refine Only.bind (Only.attempt ⟨trivial, fun r => only_statement r⟩) (fun joined => ?_)
    split
    · exact (only_crudUpdate _).attempt.bind (fun _ => only_saveSession cookie session')
    · exact only_saveSession cookie session'

theorem follows_acceptInviteLink (cookie id : Uuid) :
    Follows admitting.monitor (fun _ _ => True) .accepting (acceptInviteLink cookie id) := by
  refine ⟨trivial, fun r _ => ?_⟩
  rcases r with e | _ | i
  · trivial
  · trivial
  · refine ⟨trivial, fun now _ => ?_⟩
    change Follows admitting.monitor _ InviteStage.accepting
      (Program.bind (if Invite.isValid i now then ret i else fail _) _)
    split_ifs
    · refine ⟨trivial, fun session _ => ?_⟩
      rcases session with ⟨_ | userId, organizationId, inviteId, permissions, networkIds⟩
      · change Follows admitting.monitor _ InviteStage.accepting (saveSession cookie _)
        exact follows_plain (only_saveSession _ _) _
      · change Follows admitting.monitor _ InviteStage.accepting (Program.bind _ _)
        refine ⟨trivial, fun r _ => ?_⟩
        rcases r with e | _ | user
        · exact follows_joinAtOnce cookie userId rfl
        · exact follows_joinAtOnce cookie userId rfl
        · change Follows admitting.monitor _ InviteStage.leaving ((Crud.delete .invite id).attempt.bind _)
          apply Follows.bind
          apply (follows_crudDeleteInvite id).imp
          intro _ b _
          exact follows_plain (only_saveSession _ _) b
    · trivial

theorem follows_register (cookie : Uuid) (r : Registration) (termsAcceptedAt : Option Instant) :
    Follows admitting.monitor (fun _ _ => True) .entering (register cookie r termsAcceptedAt) := by
  refine ⟨trivial, fun session _ => ?_⟩
  change Follows admitting.monitor _ (if (Session.pending session).isSome then InviteStage.pending else .free)
    ((processPendingInvite session).bind _)
  apply Follows.bind
  have hpending : Follows admitting.monitor (fun _ _ => True)
      (if (Session.pending session).isSome then InviteStage.pending else .free) (processPendingInvite session) := by
    cases hpending : Session.pending session with
    | none =>
      unfold processPendingInvite
      rw [hpending]
      trivial
    | some p => exact (follows_processPendingInvite hpending).imp (fun _ _ _ => trivial)
  apply hpending.imp
  rintro ⟨pending, session'⟩ b -
  refine follows_plain ((only_registerUser r pending termsAcceptedAt).attempt.bind (fun result => ?_)) b
  cases result with
  | ok user => exact only_saveSession _ _
  | error e =>
    cases r with
    | password email passwordHash => trivial
    | oidc email subject provider => exact only_saveSession _ _

theorem follows_inviteCall (call : InviteCall) :
    Follows admitting.monitor (fun _ _ => True) (InviteStage.start call) call.program := by
  cases call with
  | create publicUrl seatLimit auth request =>
    apply Follows.bind
    apply (follows_createInvite publicUrl seatLimit auth request).imp
    intro _ _ _
    trivial
  | revoke auth id => exact follows_revokeInvite auth id
  | accept cookie id => exact follows_acceptInviteLink cookie id
  | register cookie registration termsAcceptedAt => exact follows_register cookie registration termsAcceptedAt

end programs

section steps

variable {s : Db} {a : InviteStage} {o : AccountOp} {answers : (o : AccountOp) → o.Reply} {points : ℕ → InviteStage} {calls : ℕ}

namespace InviteStage

/-- What the call has read of the invite's expiry. -/
def knows (a : InviteStage) (id : Uuid) (expiresAt : Instant) : Prop :=
  a = found id expiresAt ∨ (∃ checkedAt, a = checked id expiresAt checkedAt) ∨
    ∃ checkedAt, a = joining id (some (expiresAt, checkedAt))

/-- The expiry was after the clock that the call has read. -/
def timely (a : InviteStage) : Prop :=
  ∀ id expiresAt checkedAt, a = checked id expiresAt checkedAt ∨ a = joining id (some (expiresAt, checkedAt)) →
    checkedAt < expiresAt

/-- Every use of an invite was a success. -/
def sound (a : InviteStage) : Prop := a.timely ∧ ∀ id, a ≠ joining id none

end InviteStage

/-- The call has come no nearer to any invite. -/
structure Quiet (a b : InviteStage) : Prop where
  has : ∀ id, b.has id = true → a.has id = true
  took : ∀ id, b.took id = true → a.took id = true
  issued : ∀ id expiresAt, b = .created id expiresAt → a = .created id expiresAt
  knows : ∀ id expiresAt, b.knows id expiresAt → a.knows id expiresAt
  sound : a.sound → b.sound

theorem Quiet.refl (a : InviteStage) : Quiet a a :=
  ⟨fun _ h => h, fun _ h => h, fun _ _ h => h, fun _ _ h => h, fun h => h⟩

theorem Quiet.of_empty {b : InviteStage} (hhas : ∀ id, b.has id = false) (htook : ∀ id, b.took id = false)
    (hissued : ∀ id, b.issued id = false) : Quiet a b := by
  constructor
  · intro id h
    simp [hhas] at h
  · intro id h
    simp [htook] at h
  · rintro id expiresAt rfl
    simp [InviteStage.issued] at hissued
  · rintro id expiresAt (rfl | ⟨_, rfl⟩ | ⟨_, rfl⟩)
    · simp [InviteStage.has] at hhas
    · simp [InviteStage.has] at hhas
    · simp [InviteStage.took] at htook
  · refine fun _ => ⟨?_, ?_⟩
    · rintro id expiresAt checkedAt (rfl | rfl)
      · simp [InviteStage.has] at hhas
      · simp [InviteStage.took] at htook
    · rintro id rfl
      simp [InviteStage.took] at htook

/-- What a step does to the invites and to the stage of the call that takes it. -/
def Moves (s t : Db) (a b : InviteStage) (o : AccountOp) : Prop :=
  (t.invites = s.invites ∧ Quiet a b) ∨
  (∃ id, t.invites = s.invites ∧ o = .get .invite id ∧ (a = .leaving ∨ a = .pending) ∧
    ∃ row ∈ s.invites.rows, row.id = id ∧ (b = .deleting id ∨ b = .found id (InviteBase.expiresAt row.base))) ∨
  (∃ id, a.has id = true ∧ t.invites.rows = s.invites.rows.filter (fun row => !decide (row.id = id)) ∧
    (b = .revoked id ∨ ∃ expiresAt checkedAt, a = .checked id expiresAt checkedAt ∧
      b = .joining id (some (expiresAt, checkedAt)))) ∨
  ∃ row : Invite, o = .create .invite row ∧ (∀ r ∈ s.invites.rows, r.id ≠ row.id) ∧
    t.invites.rows = s.invites.rows ++ [row] ∧ b = .created row.id row.base.expiresAt

theorem invites_of_plain (h : Plain o) (answer : o.Reply) : (accountStep o answer s).2.invites = s.invites := by
  cases o with
  | create k row =>
    cases answer with
    | error e => rfl
    | ok x =>
      simp only [accountStep, Db.create]
      cases k <;> first | exact h.elim | split_ifs <;> rfl
  | update k row =>
    cases answer with
    | error e => rfl
    | ok x =>
      simp only [accountStep, Db.update]
      cases k <;> first | exact h.elim | split_ifs <;> rfl
  | delete k f =>
    cases answer with
    | error e => rfl
    | ok x => cases k <;> first | exact h.elim | rfl
  | _ => rfl

theorem Quiet.of_eq {b : InviteStage} (h : b = a) : Quiet a b := h ▸ Quiet.refl a

theorem quiet_admitted (id : Uuid) (used : Option (Instant × Instant)) : Quiet (.joining id used) (.admitted id) := by
  refine ⟨fun _ h => (nomatch h), fun _ h => h, fun _ _ h => (nomatch h), ?_, fun _ => ⟨?_, fun _ h => (nomatch h)⟩⟩
  · rintro _ _ (h | ⟨_, h⟩ | ⟨_, h⟩) <;> cases h
  · rintro _ _ _ (h | h) <;> cases h

theorem quiet_checked (id : Uuid) {expiresAt now : Instant} (h : now < expiresAt) :
    Quiet (.found id expiresAt) (.checked id expiresAt now) := by
  refine ⟨fun _ h => h, fun _ h => (nomatch h), fun _ _ h => (nomatch h), ?_, fun _ => ⟨?_, fun _ h => (nomatch h)⟩⟩
  · rintro _ _ (h | ⟨_, h⟩ | ⟨_, h⟩)
    · cases h
    · cases h
      exact .inl rfl
    · cases h
  · rintro _ _ _ (heq | heq)
    · cases heq
      exact h
    · cases heq

/-- An operation that neither looks an invite up nor changes one. -/
theorem quiet_of_plain (h : Plain o) (hget : ∀ id, o ≠ .get .invite id) (horder : InOrder calls points s answers a o) :
    Quiet a (a.next o (accountStep o (answers o) s).1) := by
  cases o with
  | utcNow =>
    cases a with
    | found id expiresAt =>
      change Quiet _ (if answers .utcNow < expiresAt then InviteStage.checked id expiresAt (answers .utcNow) else .joining id none)
      have hlt : answers .utcNow < expiresAt := horder
      rw [if_pos hlt]
      exact quiet_checked id hlt
    | _ => exact Quiet.refl _
  | get k id =>
    cases k with
    | user =>
      cases a with
      | accepting =>
        rcases (accountStep (.get .user id) (answers (.get .user id)) s).1 with e | _ | user
        · exact .of_empty (fun _ => rfl) (fun _ => rfl) (fun _ => rfl)
        · exact .of_empty (fun _ => rfl) (fun _ => rfl) (fun _ => rfl)
        · exact .of_empty (fun _ => rfl) (fun _ => rfl) (fun _ => rfl)
      | _ => exact Quiet.refl _
    | access => cases a <;> exact Quiet.refl _
    | invite => exact absurd rfl (hget id)
  | create k row =>
    cases k with
    | user =>
      cases a with
      | joining id used =>
        rcases (accountStep (.create .user row) (answers (.create .user row)) s).1 with e | x
        · exact Quiet.refl _
        · exact quiet_admitted id used
      | _ => exact Quiet.refl _
    | access => cases a <;> exact Quiet.refl _
    | invite => exact h.elim
  | update k row =>
    cases k with
    | user =>
      cases a with
      | joining id used =>
        rcases (accountStep (.update .user row) (answers (.update .user row)) s).1 with e | x
        · exact Quiet.refl _
        · exact quiet_admitted id used
      | _ => exact Quiet.refl _
    | access => cases a <;> exact Quiet.refl _
    | invite => exact h.elim
  | delete k f =>
    cases k with
    | user => exact h.elim
    | access => cases a <;> exact Quiet.refl _
    | invite => exact h.elim
  | loadSession cookie =>
    cases a with
    | entering =>
      change Quiet _ (if (s.sessions cookie).pending.isSome then InviteStage.pending else .free)
      split_ifs
      · exact .of_empty (fun _ => rfl) (fun _ => rfl) (fun _ => rfl)
      · exact .of_empty (fun _ => rfl) (fun _ => rfl) (fun _ => rfl)
    | _ => exact Quiet.refl _
  | newV4 => cases a <;> exact Quiet.refl _
  | list k f => cases a <;> exact Quiet.refl _
  | saveSession cookie session => cases a <;> exact Quiet.refl _

theorem moves_get {id : Uuid} (horder : InOrder calls points s answers a (.get .invite id)) :
    Moves s (accountStep (.get .invite id) (answers (.get .invite id)) s).2 a
      (a.next (.get .invite id) (accountStep (.get .invite id) (answers (.get .invite id)) s).1) (.get .invite id) := by
  have hreply : (accountStep (.get .invite id) (answers (.get .invite id)) s).1 =
      (answers (.get .invite id)).map (fun _ => s.invites.rows.find? (fun r => r.id = id)) := rfl
  have hfound {row : Invite} (hrow : s.invites.rows.find? (fun r => r.id = id) = some row) :
      row ∈ s.invites.rows ∧ row.id = id := ⟨List.mem_of_find?_eq_some hrow, by simpa using List.find?_some hrow⟩
  rw [hreply]
  cases a with
  | revoking => exact .inl ⟨rfl, .of_empty (fun _ => rfl) (fun _ => rfl) (fun _ => rfl)⟩
  | leaving =>
    rcases answers (.get .invite id) with e | x
    · exact .inl ⟨rfl, .of_empty (fun _ => rfl) (fun _ => rfl) (fun _ => rfl)⟩
    · change Moves s s _ (InviteStage.next .leaving (.get .invite id) (.ok (s.invites.rows.find? (fun r => r.id = id)))) _
      cases hrow : s.invites.rows.find? (fun r => r.id = id) with
      | none => exact .inl ⟨rfl, .of_empty (fun _ => rfl) (fun _ => rfl) (fun _ => rfl)⟩
      | some row => exact .inr (.inl ⟨id, rfl, rfl, .inl rfl, row, (hfound hrow).1, (hfound hrow).2, .inl rfl⟩)
  | pending =>
    obtain ⟨-, hhas, hok⟩ := horder
    rcases hanswer : answers (.get .invite id) with e | x
    · rw [hanswer] at hok
      cases hok
    · change Moves s s _ (InviteStage.next .pending (.get .invite id) (.ok (s.invites.rows.find? (fun r => r.id = id)))) _
      cases hrow : s.invites.rows.find? (fun r => r.id = id) with
      | none =>
        obtain ⟨row, hmem, hid⟩ := List.any_eq_true.mp hhas
        exact absurd hid (List.find?_eq_none.mp hrow row hmem)
      | some row => exact .inr (.inl ⟨id, rfl, rfl, .inr rfl, row, (hfound hrow).1, (hfound hrow).2, .inr rfl⟩)
  | _ => exact .inl ⟨rfl, Quiet.refl _⟩

theorem moves (hok : a.ok o) (horder : InOrder calls points s answers a o) :
    Moves s (accountStep o (answers o) s).2 a (a.next o (accountStep o (answers o) s).1) o := by
  by_cases hplain : Plain o
  · by_cases hget : ∃ id, o = .get .invite id
    · obtain ⟨id, rfl⟩ := hget
      exact moves_get horder
    · exact .inl ⟨invites_of_plain hplain _, quiet_of_plain hplain (fun id hid => hget ⟨id, hid⟩) horder⟩
  · cases o with
    | create k row =>
      cases k with
      | invite =>
        obtain rfl : a = .issuing := hok
        change Moves s (s.create .invite row (answers (.create .invite row))).2 _
          (InviteStage.next .issuing (.create .invite row) (s.create .invite row (answers (.create .invite row))).1) _
        rcases answers (.create .invite row) with e | x
        · exact .inl ⟨rfl, Quiet.refl _⟩
        · unfold Db.create
          dsimp only
          split_ifs with hapart
          · exact .inr (.inr (.inr ⟨row, rfl, fun r hr => (hapart r hr).1, rfl, rfl⟩))
          · exact .inl ⟨rfl, Quiet.refl _⟩
          · exact .inl ⟨rfl, Quiet.refl _⟩
      | user => exact absurd trivial hplain
      | access => exact absurd trivial hplain
    | update k row =>
      cases k with
      | invite => exact hok.elim
      | user => exact absurd trivial hplain
      | access => exact absurd trivial hplain
    | delete k f =>
      cases k with
      | invite =>
        obtain ⟨id, rfl | ⟨expiresAt, checkedAt, rfl⟩, rfl⟩ := hok
        · rcases answers (.delete .invite (fun i : Invite => i.id = id)) with e | x
          · exact .inl ⟨rfl, .of_empty (fun _ => rfl) (fun _ => rfl) (fun _ => rfl)⟩
          · exact .inr (.inr (.inl ⟨id, decide_eq_true rfl, rfl, .inl rfl⟩))
        · rcases hanswer : answers (.delete .invite (fun i : Invite => i.id = id)) with e | x
          · change Except.toBool (answers (.delete .invite (fun i : Invite => i.id = id))) = true at horder
            rw [hanswer] at horder
            cases horder
          · exact .inr (.inr (.inl ⟨id, decide_eq_true rfl, rfl, .inr ⟨_, _, rfl, rfl⟩⟩))
      | user => exact hok.elim
      | access => exact absurd trivial hplain
    | _ => exact absurd trivial hplain

def InviteStage.concerns (a : InviteStage) (id : Uuid) : Prop := a.has id = true ∨ a.took id = true

theorem InviteStage.knows.concerns {id : Uuid} {expiresAt : Instant} (h : a.knows id expiresAt) : a.concerns id := by
  rcases h with rfl | ⟨_, rfl⟩ | ⟨_, rfl⟩
  · exact .inl (decide_eq_true rfl)
  · exact .inl (decide_eq_true rfl)
  · exact .inr (decide_eq_true rfl)

/-- At most one call is about to take an invite out of the store, or has done so. -/
structure Attributed (s : Db) (calls : ℕ) (points : ℕ → InviteStage) : Prop where
  beyond : ∀ j, calls ≤ j → points j = .free
  alone : ∀ i j id, (points i).concerns id → (points j).concerns id → i = j
  gone : ∀ i id, (points i).took id = true → ∀ row ∈ s.invites.rows, row.id ≠ id
  expiry : ∀ j id expiresAt, points j = .created id expiresAt →
    (∀ row ∈ s.invites.rows, row.id = id → InviteBase.expiresAt row.base = expiresAt) ∧
    ∀ i expiresAt', (points i).knows id expiresAt' → expiresAt' = expiresAt
  sound : ∀ i, (points i).sound

variable {t : Db} {b : InviteStage} {i : ℕ}

/-- Nothing that is said of a call's point is said of it after the step unless it was before, or is about `id`. -/
theorem Attributed.update (h : Attributed s calls points) (hi : i < calls) (id : Uuid)
    (hrows : ∀ row ∈ t.invites.rows, row ∈ s.invites.rows)
    (hconcerns : ∀ x, b.concerns x → (points i).concerns x ∨ x = id ∧ ∀ j, j ≠ i → ¬ (points j).concerns id)
    (htook : ∀ x, b.took x = true → ∀ row ∈ t.invites.rows, row.id ≠ x)
    (hissued : ∀ x expiresAt, b = .created x expiresAt → points i = .created x expiresAt)
    (hknows : ∀ x expiresAt, b.knows x expiresAt → (points i).knows x expiresAt ∨
      ∃ row ∈ s.invites.rows, row.id = x ∧ InviteBase.expiresAt row.base = expiresAt)
    (hsound : b.sound) : Attributed t calls (Function.update points i b) := by
  have hother {j : ℕ} (hj : j ≠ i) : Function.update points i b j = points j := Function.update_of_ne hj _ _
  have hissued' (j : ℕ) (x : Uuid) (expiresAt : Instant) (hj : Function.update points i b j = .created x expiresAt) :
      points j = .created x expiresAt := by
    by_cases hji : j = i
    · subst hji
      rw [Function.update_self] at hj
      exact hissued x expiresAt hj
    · rwa [hother hji] at hj
  have hapart (j : ℕ) (hji : j ≠ i) (x : Uuid) (hb : b.concerns x) (hj : (points j).concerns x) : False := by
    rcases hconcerns x hb with ha | ⟨rfl, hnone⟩
    · exact hji (h.alone j i x hj ha)
    · exact hnone j hji hj
  constructor
  · intro j hj
    rw [hother (by omega)]
    exact h.beyond j hj
  · intro j k x hj hk
    by_cases hji : j = i
    · by_cases hki : k = i
      · exact hji.trans hki.symm
      · rw [hother hki] at hk
        rw [hji, Function.update_self] at hj
        exact (hapart k hki x hj hk).elim
    · by_cases hki : k = i
      · rw [hother hji] at hj
        rw [hki, Function.update_self] at hk
        exact (hapart j hji x hk hj).elim
      · rw [hother hji] at hj
        rw [hother hki] at hk
        exact h.alone j k x hj hk
  · intro j x hj
    by_cases hji : j = i
    · rw [hji, Function.update_self] at hj
      exact htook x hj
    · rw [hother hji] at hj
      exact fun row hrow => h.gone j x hj row (hrows row hrow)
  · intro j x expiresAt hj
    obtain ⟨hstored, hknown⟩ := h.expiry j x expiresAt (hissued' j x expiresAt hj)
    refine ⟨fun row hrow => hstored row (hrows row hrow), fun k expiresAt' hk => ?_⟩
    by_cases hki : k = i
    · rw [hki, Function.update_self] at hk
      rcases hknows x expiresAt' hk with hk | ⟨row, hrow, hid, rfl⟩
      · exact hknown i expiresAt' hk
      · exact hstored row hrow hid
    · rw [hother hki] at hk
      exact hknown k expiresAt' hk
  · intro j
    by_cases hji : j = i
    · rw [hji, Function.update_self]
      exact hsound
    · rw [hother hji]
      exact h.sound j

theorem Attributed.issue {row : Invite} (h : Attributed s calls points) (hi : i < calls)
    (hnew : ∀ r ∈ s.invites.rows, r.id ≠ row.id) (hrows : t.invites.rows = s.invites.rows ++ [row])
    (hfresh : ∀ j < calls, (points j).has row.id = false ∧ (points j).took row.id = false ∧ (points j).issued row.id = false) :
    Attributed t calls (Function.update points i (.created row.id row.base.expiresAt)) := by
  have hpoints (j : ℕ) (hj : j ≠ i) :
      Function.update points i (.created row.id row.base.expiresAt) j = points j := Function.update_of_ne hj _ _
  have hnobody (j : ℕ) : ¬ (points j).concerns row.id ∧ ∀ expiresAt, points j ≠ .created row.id expiresAt := by
    rcases Nat.lt_or_ge j calls with hj | hj
    · obtain ⟨hhas, htook, hissued⟩ := hfresh j hj
      refine ⟨?_, fun expiresAt heq => ?_⟩
      · rintro (h | h)
        · rw [hhas] at h
          cases h
        · rw [htook] at h
          cases h
      · rw [heq] at hissued
        simp [InviteStage.issued] at hissued
    · rw [h.beyond j hj]
      exact ⟨fun h => (by rcases h with h | h <;> cases h), fun _ heq => (nomatch heq)⟩
  have hconcerns (j : ℕ) (x : Uuid)
      (hj : (Function.update points i (.created row.id row.base.expiresAt) j).concerns x) : (points j).concerns x := by
    by_cases hji : j = i
    · rw [hji, Function.update_self] at hj
      rcases hj with hj | hj <;> cases hj
    · rwa [hpoints j hji] at hj
  have hknows (j : ℕ) (x : Uuid) (expiresAt : Instant)
      (hj : (Function.update points i (.created row.id row.base.expiresAt) j).knows x expiresAt) :
      (points j).knows x expiresAt := by
    by_cases hji : j = i
    · rw [hji, Function.update_self] at hj
      rcases hj with hj | ⟨_, hj⟩ | ⟨_, hj⟩ <;> cases hj
    · rwa [hpoints j hji] at hj
  constructor
  · intro j hj
    rw [hpoints j (by omega)]
    exact h.beyond j hj
  · exact fun j k x hj hk => h.alone j k x (hconcerns j x hj) (hconcerns k x hk)
  · intro j x hj r hr
    have hj' : (points j).took x = true := by
      by_cases hji : j = i
      · rw [hji, Function.update_self] at hj
        cases hj
      · rwa [hpoints j hji] at hj
    rw [hrows] at hr
    rcases List.mem_append.mp hr with hr | hr
    · exact h.gone j x hj' r hr
    · rw [List.mem_singleton.mp hr]
      rintro rfl
      exact (hnobody j).1 (.inr hj')
  · intro j x expiresAt hj
    by_cases hji : j = i
    · rw [hji, Function.update_self] at hj
      cases hj
      refine ⟨fun r hr hid => ?_, fun k expiresAt' hk => ?_⟩
      · rw [hrows] at hr
        rcases List.mem_append.mp hr with hr | hr
        · exact absurd hid (hnew r hr)
        · rw [List.mem_singleton.mp hr]
      · exact absurd (hknows k _ _ hk).concerns (hnobody k).1
    · rw [hpoints j hji] at hj
      obtain ⟨hstored, hknown⟩ := h.expiry j x expiresAt hj
      refine ⟨fun r hr hid => ?_, fun k expiresAt' hk => hknown k expiresAt' (hknows k _ _ hk)⟩
      rw [hrows] at hr
      rcases List.mem_append.mp hr with hr | hr
      · exact hstored r hr hid
      · rw [List.mem_singleton.mp hr] at hid
        subst hid
        exact absurd hj ((hnobody j).2 expiresAt)
  · intro j
    by_cases hji : j = i
    · rw [hji, Function.update_self]
      exact ⟨fun _ _ _ hx => (by rcases hx with hx | hx <;> cases hx), fun _ hx => (nomatch hx)⟩
    · rw [hpoints j hji]
      exact h.sound j

theorem Attributed.step (h : Attributed s calls points) (hi : i < calls) (hmoves : Moves s t (points i) b o)
    (horder : InOrder calls points s answers (points i) o) : Attributed t calls (Function.update points i b) := by
  rcases hmoves with ⟨hinvites, hquiet⟩ | ⟨id, hinvites, rfl, hstage, row, hrow, hid, hb⟩ |
    ⟨id, hhas, hrows, hb⟩ | ⟨row, rfl, hnew, hrows, hb⟩
  · refine h.update hi 0 (fun row hrow => hinvites ▸ hrow) (fun x hx => .inl (hx.imp (hquiet.has x) (hquiet.took x)))
      (fun x hx row hrow => ?_) hquiet.issued (fun x expiresAt hx => .inl (hquiet.knows x expiresAt hx)) (hquiet.sound (h.sound i))
    rw [hinvites] at hrow
    exact h.gone i x (hquiet.took x hx) row hrow
  · have hnobody (j : ℕ) : ¬ (points j).concerns id := by
      rintro (hhas | htook)
      · have hfree : ∀ j < calls, (points j).has id = false := by
          rcases hstage with hstage | hstage
          · rw [hstage] at horder
            exact horder
          · rw [hstage] at horder
            exact horder.1
        rcases Nat.lt_or_ge j calls with hj | hj
        · rw [hfree j hj] at hhas
          cases hhas
        · rw [h.beyond j hj] at hhas
          cases hhas
      · exact h.gone j id htook row hrow hid
    refine h.update hi id (fun row hrow => hinvites ▸ hrow) (fun x hx => .inr ⟨?_, fun j _ => hnobody j⟩) ?_ ?_ ?_ ?_
    · rcases hb with rfl | rfl <;> rcases hx with hx | hx <;> first | exact (of_decide_eq_true hx).symm | cases hx
    · rcases hb with rfl | rfl <;> exact fun x hx => (nomatch hx)
    · rcases hb with rfl | rfl <;> exact fun x expiresAt hx => (nomatch hx)
    · intro x expiresAt hx
      rcases hb with rfl | rfl <;> rcases hx with hx | ⟨_, hx⟩ | ⟨_, hx⟩ <;> cases hx
      exact .inr ⟨row, hrow, hid, rfl⟩
    · refine ⟨?_, ?_⟩
      · rcases hb with rfl | rfl <;> rintro _ _ _ (hx | hx) <;> cases hx
      · rcases hb with rfl | rfl <;> exact fun x hx => (nomatch hx)
  · have htaken (x : Uuid) (hx : b.took x = true) : x = id := by
      rcases hb with rfl | ⟨_, _, -, rfl⟩ <;> exact (of_decide_eq_true hx).symm
    refine h.update hi id (fun row hrow => ?_) (fun x hx => .inl (.inl ?_)) (fun x hx row hrow => ?_) ?_ ?_ ?_
    · rw [hrows] at hrow
      exact List.mem_of_mem_filter hrow
    · have hx : x = id := by
        rcases hx with hx | hx
        · rcases hb with rfl | ⟨_, _, -, rfl⟩ <;> cases hx
        · exact htaken x hx
      rw [hx]
      exact hhas
    · rw [hrows] at hrow
      rw [htaken x hx]
      simpa using (List.mem_filter.mp hrow).2
    · rcases hb with rfl | ⟨_, _, -, rfl⟩ <;> exact fun x expiresAt hx => (nomatch hx)
    · intro x expiresAt hx
      rcases hb with rfl | ⟨_, _, ha, rfl⟩ <;> rcases hx with hx | ⟨_, hx⟩ | ⟨_, hx⟩ <;> cases hx
      exact .inl (.inr (.inl ⟨_, ha⟩))
    · rcases hb with rfl | ⟨expiresAt, checkedAt, ha, rfl⟩
      · exact ⟨fun _ _ _ hx => (by rcases hx with hx | hx <;> cases hx), fun _ hx => (nomatch hx)⟩
      · refine ⟨?_, fun _ hx => (nomatch hx)⟩
        rintro _ _ _ (hx | hx) <;> cases hx
        exact (h.sound i).1 id expiresAt checkedAt (.inl ha)
  · rw [hb]
    exact h.issue hi hnew hrows horder

/-- A call begins with no invite. -/
theorem Attributed.spawn (h : Attributed s calls points) (call : InviteCall) :
    Attributed s (calls + 1) (Function.update points calls (InviteStage.start call)) := by
  have hfree := h.beyond calls (Nat.le_refl _)
  have hstart : ∀ id, (InviteStage.start call).has id = false ∧ (InviteStage.start call).took id = false := by
    intro id
    cases call <;> exact ⟨rfl, rfl⟩
  have hmoved : Attributed s (calls + 1) points :=
    ⟨fun j hj => h.beyond j (by omega), h.alone, h.gone, h.expiry, h.sound⟩
  have hquiet : Quiet (points calls) (InviteStage.start call) :=
    .of_empty (fun id => (hstart id).1) (fun id => (hstart id).2) (fun id => by cases call <;> rfl)
  refine hmoved.update (Nat.lt_succ_self _) 0 (fun _ hrow => hrow) (fun x hx => .inl (hx.imp (hquiet.has x) (hquiet.took x)))
    (fun x hx row hrow => h.gone calls x (hquiet.took x hx) row hrow) hquiet.issued
    (fun x expiresAt hx => .inl (hquiet.knows x expiresAt hx)) (hquiet.sound (h.sound calls))

/-- Only a call that joins by an invite comes to be admitted by it. -/
theorem joining_of_admitted {o : AccountOp} {r : o.Reply} {id : Uuid} (h : a.next o r = .admitted id) (hnot : a ≠ .admitted id) :
    (∃ used, a = .joining id used) ∧
      ((∃ row : Row .user, o = AccountOp.create .user row) ∨ ∃ row : Row .user, o = AccountOp.update .user row) := by
  cases a with
  | joining x used =>
    cases o with
    | create k row =>
      cases k with
      | user =>
        rcases r with e | x
        · cases h
        · cases h
          exact ⟨⟨_, rfl⟩, .inl ⟨_, rfl⟩⟩
      | access => cases h
      | invite => cases h
    | update k row =>
      cases k with
      | user =>
        rcases r with e | x
        · cases h
        · cases h
          exact ⟨⟨_, rfl⟩, .inr ⟨_, rfl⟩⟩
      | access => cases h
      | invite => cases h
    | _ => cases h
  | admitted x => exact absurd h hnot
  | entering | found x e =>
    unfold InviteStage.next at h
    dsimp only at h
    split at h
    · split_ifs at h
    · cases h
  | _ =>
    unfold InviteStage.next at h
    dsimp only at h
    first
    | cases h
    | split at h <;> cases h

end steps

section admissions

structure Attended (w : InviteRun) : Prop where
  attributed : Attributed w.pool.state w.pool.threads.length w.points
  follows : ∀ j p, w.prog j = some p → Follows admitting.monitor (fun _ _ => True) (w.points j) p

theorem Attended.step {w : InviteRun} (h : Attended w) {tick : InviteTick} (horder : Orderly w tick) :
    Attended (admitting.step w tick) ∧ AdmitsOnce w tick := by
  cases tick with
  | spawn call =>
    refine ⟨⟨?_, fun j p hp => ?_⟩, trivial⟩
    · have hspawned := h.attributed.spawn call
      have hlength : (admitting.step w (.spawn call)).pool.threads.length = w.pool.threads.length + 1 := by
        simp [Tracking.step, Pool.step]
      rw [hlength]
      exact hspawned
    · rw [Tracking.prog_spawn] at hp
      split_ifs at hp with hj
      · cases hp
        rw [hj, Tracking.points_spawn_self]
        exact follows_inviteCall call
      · rw [Tracking.points_spawn_of_ne call hj]
        exact h.follows j p hp
  | run i answers =>
    rcases Tracking.step_run_cases (T := admitting) (w := w) i answers with ⟨hpass, -⟩ | ⟨o, k, t, hacts⟩
    · refine ⟨⟨?_, fun j p hp => ?_⟩, ?_⟩
      · rw [hpass.state, hpass.length, hpass.points]
        exact h.attributed
      · rw [hpass.prog] at hp
        rw [hpass.points]
        exact h.follows j p hp
      · intro id hadmitted hnot
        rw [hpass.points] at hadmitted
        exact absurd hadmitted hnot
    · have hthread := hacts.thread
      simp only [Orderly, hthread] at horder
      obtain ⟨hok, hnext⟩ := h.follows i _ hthread
      have hi := w.lt_of_running hacts.running
      refine ⟨⟨?_, fun j p hp => ?_⟩, ?_⟩
      · rw [hacts.state, hacts.length, hacts.points]
        exact h.attributed.step hi (moves hok horder) horder
      · rw [hacts.prog] at hp
        split_ifs at hp with hj
        · cases hp
          rw [hj, hacts.own]
          exact hnext _ trivial
        · rw [hacts.other hj]
          exact h.follows j p hp
      · intro id hadmitted hnot
        rw [hacts.own] at hadmitted
        obtain ⟨⟨used, hjoining⟩, hop⟩ := joining_of_admitted hadmitted hnot
        have hconcerns : (w.points i).concerns id := by
          rw [hjoining]
          exact .inr (decide_eq_true rfl)
        refine ⟨fun j => ⟨fun hj => ?_, fun hj => ?_⟩, fun j expiresAt hj => ?_⟩
        · have hji := h.attributed.alone j i id (by rw [hj]; exact .inr (decide_eq_true rfl)) hconcerns
          rw [hji] at hj
          exact hnot hj
        · have hji := h.attributed.alone j i id (by rw [hj]; exact .inr (decide_eq_true rfl)) hconcerns
          rw [hji, hjoining] at hj
          cases hj
        · rcases used with _ | ⟨known, checkedAt⟩
          · exact absurd hjoining ((h.attributed.sound i).2 id)
          · have hlt := (h.attributed.sound i).1 id known checkedAt (.inr hjoining)
            have hknown := (h.attributed.expiry j id expiresAt hj).2 i known (.inr (.inr ⟨checkedAt, hjoining⟩))
            rw [hjoining] at horder
            have hclock : known ≤ answers .utcNow → known ≤ checkedAt := by
              rcases hop with ⟨row, rfl⟩ | ⟨row, rfl⟩
              · exact horder
              · exact horder
            rw [← hknown]
            by_contra hlate
            exact absurd (hclock (not_lt.mp hlate)) (not_le.mpr hlt)

/-- As long as the calls about an invite keep out of each other's way and find it when they should, it admits nobody
twice and nobody after it was revoked or has expired. -/
theorem invite_admits_once (db : Db) (ticks : List InviteTick)
    (horder : Meets admitting.step Orderly (InviteRun.at db) ticks) :
    Meets admitting.step AdmitsOnce (InviteRun.at db) ticks := by
  have hstart : Attended (InviteRun.at db) := by
    refine ⟨⟨fun j _ => rfl, fun i j x hx => ?_, fun i x hx => (nomatch hx), fun j x expiresAt hx => (nomatch hx), fun i => ?_⟩,
      fun j p hp => (nomatch hp)⟩
    · rcases hx with hx | hx <;> cases hx
    · exact ⟨fun _ _ _ hx => (by rcases hx with hx | hx <;> cases hx), fun _ hx => (nomatch hx)⟩
  exact horder.each Attended (fun w tick hw htick => hw.step htick) hstart

/-- The organization 9 with its owner. -/
def oneOwner : Db where
  users := ⟨[⟨1, 0, 0, ⟨"a", 9, .owner, none, none, none, none, [], none⟩⟩], by decide⟩
  access := .empty
  invites := .empty
  sessions := fun _ => .new

def runs (thread times : ℕ) : List InviteTick := List.replicate times (.run thread (granted 8 thread))

/-- The owner invites a member, and the link is opened in the browsers of these cookies. -/
def invited (cookies : List Uuid) : List InviteTick :=
  .spawn (.create "" none (.user 1 9 .owner [] "a") ⟨none, .member, [], none⟩) :: runs 0 3 ++
    (cookies.mapIdx (fun i cookie => .spawn (.accept cookie 1000) :: runs (i + 1) 4)).flatten

theorem invite_admits_once_in_turn : Meets admitting.step AdmitsOnce (InviteRun.at oneOwner)
    (invited [5] ++ .spawn (.register 5 (.password "b" "") none) :: runs 2 11) :=
  invite_admits_once oneOwner _ (by decide +kernel)

/-- Two browsers open the link before anybody registers, and then both register. -/
theorem invite_admits_two : ¬ ∀ (db : Db) (ticks : List InviteTick), Meets admitting.step AdmitsOnce (InviteRun.at db) ticks := by
  intro h
  have hlast := (h oneOwner (invited [5, 6] ++ .spawn (.register 5 (.password "b" "") none) :: runs 3 11 ++
    .spawn (.register 6 (.password "c" "") none) :: runs 4 7 ++ .run 4 (granted 8 4) :: [])).of_append
  exact (hlast 1000 (by decide +kernel) (by decide +kernel)).1 3 |>.1 (by decide +kernel)

end admissions

end VantageNet.Accounts
