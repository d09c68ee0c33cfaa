import VantageNet.Interaction.Tracking
import VantageNet.Accounts.Users

/-!
How far a call that edits or deletes users has come, what it has read by then, and the
owners of an organization under calls that run at the same time.
-/

namespace VantageNet.Accounts

open Inventory Interaction Interaction.Program
open Events hiding Entity

inductive UserCall where
  | delete (auth : AuthenticatedEntity) (id : Uuid)
  | bulkDelete (auth : AuthenticatedEntity) (ids : List Uuid)
  | update (auth : AuthenticatedEntity) (id : Uuid) (request : User)
  | adminUpdate (auth : AuthenticatedEntity) (id : Uuid) (request : User)

namespace UserCall

def program : UserCall → Request Unit
  | delete auth id => deleteUser auth id
  | bulkDelete auth ids => bulkDeleteUsers auth ids
  | update auth id request => (updateUser auth id request).bind (fun _ => ret ())
  | adminUpdate auth id request => (adminUpdateUser auth id request).bind (fun _ => ret ())

def auth : UserCall → AuthenticatedEntity
  | delete auth _ | bulkDelete auth _ | update auth _ _ | adminUpdate auth _ _ => auth

/-- The ids of the users that the path or the body of a deletion names. -/
def named : UserCall → List Uuid
  | delete _ id | update _ id _ | adminUpdate _ id _ => [id]
  | bulkDelete _ ids => ids

end UserCall

inductive ReviewStage where
  | reading
  /-- The users named by the call are read. -/
  | found (users : List User)
  | counted (users owners : List User)
  /-- The handler that deletes has read them again. -/
  | confirmed (users owners entities : List User)
  | written

structure Reviewer where
  organizationId : Option Uuid
  named : List Uuid
  stage : ReviewStage

namespace Reviewer

def start (call : UserCall) : Reviewer := ⟨call.auth.organizationId, call.named, .reading⟩

/-- The rows that the call has read and that its own write is still to come for. -/
def rows (a : Reviewer) : List User :=
  match a.stage with
  | .reading => []
  | .found users => users
  | .counted users owners => users ++ owners
  | .confirmed users owners _ => users ++ owners
  | .written => []

def next (a : Reviewer) (o : AccountOp) (r : o.Reply) : Reviewer :=
  { a with stage :=
    match a.stage with
    | .reading =>
      match o, r with
      | .get .user _, .ok (some (user : User)) => .found [user]
      | .list .user _, .ok (users : List User) => .found users
      | _, _ => .reading
    | .found users =>
      match o, r with
      | .list .user _, .ok (owners : List User) => .counted users owners
      | .update .user _, _ => .written
      | _, _ => .found users
    | .counted users owners =>
      match o, r with
      | .get .user _, .ok (some (user : User)) => .confirmed users owners [user]
      | .list .user _, .ok (entities : List User) => .confirmed users owners entities
      | _, _ => .counted users owners
    | .confirmed users owners entities =>
      match o with
      | .delete .user _ => .written
      | _ => .confirmed users owners entities
    | .written => .written }

/-- Somebody else than who is to be deleted owns the organization. -/
def spared (users owners : List User) : Prop :=
  (∃ user, users = [user] ∧ (user.base.permissions = .owner → owners.length ≠ 1)) ∨ ∃ o ∈ owners, o ∉ users

def ok (a : Reviewer) : AccountOp → Prop
  | .get .user id => (a.stage = .reading ∨ ∃ users owners, a.stage = .counted users owners) → a.named = [id]
  | .list .user (f : User → Bool) =>
    match a.stage with
    | .found _ => ∃ organizationId, a.organizationId = some organizationId ∧ f = fun u : User => u.owns organizationId
    | .written => True
    | _ => f = fun u : User => a.named.contains u.id
  | .update .user (row : User) => ∃ user, a.stage = .found [user] ∧ row.base.email = user.base.email ∧
      row.base.organizationId = user.base.organizationId ∧
      (row.base.permissions = user.base.permissions ∨ user.base.permissions ≠ .owner)
  | .delete .user (f : User → Bool) => ∃ users owners entities, a.stage = .confirmed users owners entities ∧
      f = (fun u : User => (entities.map Entity.id).contains u.id) ∧ spared users owners ∧
      ∀ e ∈ entities, a.organizationId = some e.base.organizationId
  | .create .user _ => False
  | _ => True

end Reviewer

/-- The database answers with the row of the id it was asked for. -/
def may : (o : AccountOp) → o.Reply → Prop
  | .get .user id, .ok (some (user : User)) => user.id = id
  | _, _ => True

def reviewing : Tracking accountSig ApiError Unit UserCall Db Reviewer where
  scheme := ⟨UserCall.program, fun _ => .none, accountStep⟩
  monitor := ⟨Reviewer.ok, may, Reviewer.next⟩
  start := Reviewer.start

section programs

variable {a : Reviewer} {organizationId : Option Uuid} {named : List Uuid} {α : Type}

/-- The user whom the path names is read. -/
theorem follows_read (id : Uuid) : Follows reviewing.monitor
    (fun found b => ∀ user : User, found = some user → user.id = id ∧ b = ⟨organizationId, [id], .found [user]⟩)
    ⟨organizationId, [id], .reading⟩ (Storage.getById .user id) := by
  refine ⟨fun _ => rfl, fun r hr => follows_statement ?_⟩
  rintro found rfl user rfl
  exact ⟨hr, rfl⟩

theorem follows_owners (users : List User) (callerOrg : Uuid) : Follows reviewing.monitor
    (fun owners b => b = ⟨some callerOrg, named, .counted users owners⟩)
    ⟨some callerOrg, named, .found users⟩ (UserService.getOrganizationOwners callerOrg) := by
  refine ⟨⟨callerOrg, rfl, rfl⟩, fun r _ => follows_statement ?_⟩
  rintro owners rfl
  rfl

theorem follows_crudDelete {users owners : List User} {user : User} {callerOrg : Uuid}
    (hspared : Reviewer.spared users owners) (horg : user.base.organizationId = callerOrg) :
    Follows reviewing.monitor (fun _ _ => True) ⟨some callerOrg, [user.id], .confirmed users owners [user]⟩
      (Crud.delete .user user.id) := by
  apply Follows.bind
  refine ⟨fun h => ?_, fun r _ => follows_statement ?_⟩
  · rcases h with h | ⟨_, _, h⟩ <;> cases h
  · rintro found -
    cases found with
    | none => trivial
    | some found =>
      refine ⟨⟨users, owners, [user], rfl, ?_, hspared, ?_⟩, fun r _ => follows_statement (fun _ _ => trivial)⟩
      · funext u
        simp
      · intro e he
        rw [List.mem_singleton.mp he, horg]
        rfl

theorem validateAccess_ok {message : String} {networkIds : List Uuid} {organizationId callerOrg : Uuid} {x : Unit}
    (h : validateAccess message none (some organizationId) networkIds callerOrg = .ok x) : organizationId = callerOrg := by
  unfold validateAccess at h
  simp only [Option.any_none, Bool.false_eq_true, if_false, Option.any_some] at h
  split_ifs at h with hne
  simpa using hne

theorem follows_deleteHandler {users owners : List User} {auth : AuthenticatedEntity} {callerOrg id : Uuid}
    (hspared : Reviewer.spared users owners) : Follows reviewing.monitor (fun _ _ => True)
      ⟨some callerOrg, [id], .counted users owners⟩ (deleteHandler auth callerOrg id) := by
  apply Follows.bind
  refine ⟨fun _ => rfl, fun r hr => follows_statement ?_⟩
  rintro found rfl
  cases found with
  | none => trivial
  | some found =>
    obtain rfl : found.id = id := hr
    apply Follows.orFail_bind
    intro x hx
    exact follows_crudDelete hspared (validateAccess_ok hx)

theorem follows_deleteUser (auth : AuthenticatedEntity) (id : Uuid) :
    Follows reviewing.monitor (fun _ _ => True) (Reviewer.start (.delete auth id)) (deleteUser auth id) := by
  apply Follows.bind
  apply follows_authorized.imp
  rintro callerOrg b ⟨rfl, horg⟩
  apply Follows.bind
  apply (follows_permissionsOf auth).imp
  rintro permissions b ⟨rfl, -⟩
  apply Follows.bind
  apply (follows_read id).imp
  intro found b hfound
  cases found with
  | none => trivial
  | some user =>
    obtain ⟨-, rfl⟩ := hfound user rfl
    dsimp only
    split_ifs
    · trivial
    · change auth.organizationId = some callerOrg at horg
      rw [show (UserCall.delete auth id).auth.organizationId = some callerOrg from horg]
      apply Follows.bind
      apply (follows_owners [user] callerOrg).imp
      rintro owners b rfl
      split_ifs with honly
      · trivial
      · refine follows_deleteHandler (.inl ⟨user, rfl, fun howner hone => honly ?_⟩)
        simp [howner, hone]

theorem follows_crudUpdate (user row : User) (hemail : row.base.email = user.base.email)
    (horg : row.base.organizationId = user.base.organizationId)
    (hpermissions : row.base.permissions = user.base.permissions ∨ user.base.permissions ≠ .owner) :
    Follows reviewing.monitor (fun _ b => b = ⟨organizationId, named, .written⟩) ⟨organizationId, named, .found [user]⟩
      (Crud.update .user row) := by
  apply Follows.bind
  refine ⟨fun h => ?_, fun r _ => follows_statement ?_⟩
  · rcases h with h | ⟨_, _, h⟩ <;> cases h
  · rintro found rfl
    cases found with
    | none => trivial
    | some found =>
      refine ⟨trivial, fun now _ => ⟨⟨user, rfl, hemail, horg, hpermissions⟩, fun r _ => ?_⟩⟩
      refine Follows.bind (follows_statement ?_)
      rintro _ rfl
      rfl

theorem follows_setNetworkIds (userId : Uuid) (networkIds : List Uuid) :
    Follows reviewing.monitor (fun _ b => b = ⟨organizationId, named, .written⟩) ⟨organizationId, named, .written⟩
      (UserService.setNetworkIds userId networkIds) := by
  apply Follows.bind
  refine ⟨trivial, fun r _ => follows_statement ?_⟩
  rintro _ rfl
  apply Follows.forEach
  intro networkId
  refine ⟨trivial, fun id _ => ⟨trivial, fun now _ => ⟨trivial, fun r _ => ?_⟩⟩⟩
  refine Follows.bind (Follows.bind (follows_statement ?_))
  rintro _ rfl
  rfl

theorem follows_updateUser (auth : AuthenticatedEntity) (id : Uuid) (request : User) :
    Follows reviewing.monitor (fun _ _ => True) (Reviewer.start (.update auth id request)) (updateUser auth id request) := by
  apply Follows.bind
  apply follows_authorized.imp
  rintro userId b ⟨rfl, -⟩
  split_ifs
  · trivial
  · apply Follows.bind
    apply (follows_read id).imp
    intro found b hfound
    cases found with
    | none => trivial
    | some user =>
      obtain ⟨-, rfl⟩ := hfound user rfl
      dsimp only
      split_ifs with horg hpermissions
      · trivial
      · trivial
      · exact (follows_crudUpdate user (preserving request user) rfl (not_not.mp horg) (.inl (not_not.mp hpermissions))).imp (fun _ _ _ => trivial)

theorem follows_adminUpdateUser (auth : AuthenticatedEntity) (id : Uuid) (request : User) :
    Follows reviewing.monitor (fun _ _ => True) (Reviewer.start (.adminUpdate auth id request))
      (adminUpdateUser auth id request) := by
  apply Follows.bind
  apply follows_authorized.imp
  rintro adminUserId b ⟨rfl, -⟩
  apply Follows.bind
  apply (follows_permissionsOf auth).imp
  rintro adminPermissions b ⟨rfl, -⟩
  apply Follows.bind
  apply (follows_read id).imp
  intro found b hfound
  cases found with
  | none => trivial
  | some user =>
    obtain ⟨-, rfl⟩ := hfound user rfl
    dsimp only
    split_ifs with hself hlower hpromotes horg
    · trivial
    · trivial
    · trivial
    · trivial
    · have hnot : user.base.permissions ≠ .owner := by
        intro howner
        rw [howner] at hlower
        cases adminPermissions <;> exact hlower (by decide)
      apply Follows.bind
      apply (follows_crudUpdate user (preserving request user) rfl (not_not.mp horg) (.inr hnot)).imp
      rintro updated b rfl
      apply Follows.bind
      apply (follows_setNetworkIds id request.base.networkIds).imp
      intro _ _ _
      trivial

theorem follows_validated (callerOrg : Uuid) (networkIds : List Uuid) (entities : List User) :
    Follows reviewing.monitor (fun _ b => b = a ∧ ∀ e ∈ entities, e.base.organizationId = callerOrg) a
      (forEach (fun e : User =>
        orFail (validateBulkDeleteAccess none (some e.base.organizationId) networkIds callerOrg)) entities) := by
  induction entities with
  | nil => exact ⟨rfl, by simp⟩
  | cons e entities ih =>
    apply Follows.orFail_bind
    intro x hx
    apply ih.imp
    rintro _ b ⟨rfl, hall⟩
    exact ⟨rfl, List.forall_mem_cons.mpr ⟨validateAccess_ok hx, hall⟩⟩

theorem follows_reread {users owners entities : List User} (ids : List Uuid) : Follows reviewing.monitor
    (fun _ b => b = ⟨organizationId, named, .confirmed users owners entities⟩)
    ⟨organizationId, named, .confirmed users owners entities⟩
    (forEach (fun id => (Storage.getById .user id).bind (fun _ => ret ())) ids) := by
  apply Follows.forEach
  intro id
  apply Follows.bind
  refine ⟨fun h => ?_, fun r _ => follows_statement ?_⟩
  · rcases h with h | ⟨_, _, h⟩ <;> cases h
  · rintro _ rfl
    rfl

theorem follows_deleteMany {users owners entities : List User} {callerOrg : Uuid} (hspared : Reviewer.spared users owners)
    (horg : ∀ e ∈ entities, e.base.organizationId = callerOrg) : Follows reviewing.monitor (fun _ _ => True)
      ⟨some callerOrg, named, .confirmed users owners entities⟩ (Crud.deleteMany .user (entities.map Entity.id)) := by
  unfold Crud.deleteMany
  split_ifs
  · trivial
  · apply Follows.bind
    apply (follows_reread _).imp
    rintro _ b rfl
    refine ⟨⟨users, owners, entities, rfl, rfl, hspared, fun e he => ?_⟩, fun r _ => follows_statement (fun _ _ => trivial)⟩
    rw [horg e he]

theorem follows_bulkDeleteHandler {users owners : List User} {auth : AuthenticatedEntity} {callerOrg : Uuid} {ids : List Uuid}
    (hspared : Reviewer.spared users owners) : Follows reviewing.monitor (fun _ _ => True)
      ⟨some callerOrg, ids, .counted users owners⟩ (bulkDeleteHandler auth callerOrg ids) := by
  unfold bulkDeleteHandler
  split_ifs
  · trivial
  · apply Follows.bind
    refine ⟨rfl, fun r _ => follows_statement ?_⟩
    rintro entities rfl
    apply Follows.bind
    apply (follows_validated callerOrg auth.networkIds entities).imp
    rintro _ b ⟨rfl, horg⟩
    exact follows_deleteMany hspared horg

theorem follows_bulkDeleteUsers (auth : AuthenticatedEntity) (ids : List Uuid) : Follows reviewing.monitor (fun _ _ => True)
    (Reviewer.start (.bulkDelete auth ids)) (bulkDeleteUsers auth ids) := by
  apply Follows.bind
  apply follows_authorized.imp
  rintro callerOrg b ⟨rfl, horg⟩
  apply Follows.bind
  apply (follows_permissionsOf auth).imp
  rintro permissions b ⟨rfl, -⟩
  apply Follows.bind
  refine ⟨rfl, fun r _ => follows_statement ?_⟩
  rintro users rfl
  split_ifs
  · trivial
  · change Follows _ _ (⟨auth.organizationId, ids, .found users⟩ : Reviewer) _
    rw [horg]
    apply Follows.bind
    apply (follows_owners users callerOrg).imp
    rintro owners b rfl
    split_ifs with hall
    · trivial
    · refine follows_bulkDeleteHandler (.inr ?_)
      simpa using hall

theorem follows_call (call : UserCall) :
    Follows reviewing.monitor (fun _ _ => True) (Reviewer.start call) call.program := by
  cases call with
  | delete auth id => exact follows_deleteUser auth id
  | bulkDelete auth ids => exact follows_bulkDeleteUsers auth ids
  | update auth id request =>
    apply Follows.bind
    apply (follows_updateUser auth id request).imp
    intro _ _ _
    trivial
  | adminUpdate auth id request =>
    apply Follows.bind
    apply (follows_adminUpdateUser auth id request).imp
    intro _ _ _
    trivial

end programs

section steps

/-- The operation rewrites or deletes the row. -/
def AccountOp.touches (u : User) : AccountOp → Prop
  | .update .user (row : User) => u.id = row.id
  | .delete .user (f : User → Bool) => f u = true
  | _ => False

instance (u : User) (o : AccountOp) : Decidable (o.touches u) := by
  unfold AccountOp.touches
  split <;> infer_instance

def Db.HasOwner (s : Db) (organizationId : Uuid) : Prop := ∃ u ∈ s.users.rows, User.owns u organizationId = true

variable {s : Db} {o : AccountOp} {answer : o.Reply}

theorem kept_of_untouched {u : User} (hu : u ∈ s.users.rows) (hnot : ¬ o.touches u) :
    u ∈ (accountStep o answer s).2.users.rows := by
  cases o with
  | create k row =>
    cases answer with
    | error e => exact hu
    | ok x =>
      simp only [accountStep, Db.create]
      split_ifs
      · cases k with
        | user => exact List.mem_append_left _ hu
        | access => exact hu
        | invite => exact hu
      · exact hu
      · exact hu
  | update k row =>
    cases answer with
    | error e => exact hu
    | ok x =>
      simp only [accountStep, Db.update]
      split_ifs
      · cases k with
        | user => exact List.mem_append_left _ (List.mem_filter.mpr ⟨hu, by simpa [AccountOp.touches] using hnot⟩)
        | access => exact hu
        | invite => exact hu
      · exact hu
      · exact hu
      · exact hu
  | delete k f =>
    cases answer with
    | error e => exact hu
    | ok x =>
      cases k with
      | user => exact List.mem_filter.mpr ⟨hu, by simpa [AccountOp.touches] using hnot⟩
      | access => exact hu
      | invite => exact hu
  | _ => exact hu

/-- A row of `users` is an old one or the one that is written. -/
theorem users_of_step {u : User} (hu : u ∈ (accountStep o answer s).2.users.rows) (hcreate : ∀ row, o ≠ .create .user row) :
    u ∈ s.users.rows ∨ ∃ row : User, o = .update .user row ∧ u = row.row ∧ s.has .user row.id = true ∧
      ∀ v ∈ s.users.rows, v.id ≠ row.id → Apart .user v row.row := by
  cases o with
  | create k row =>
    cases answer with
    | error e => exact .inl hu
    | ok x =>
      simp only [accountStep, Db.create] at hu
      split_ifs at hu
      · cases k with
        | user => exact absurd rfl (hcreate row)
        | access => exact .inl hu
        | invite => exact .inl hu
      · exact .inl hu
      · exact .inl hu
  | update k row =>
    cases answer with
    | error e => exact .inl hu
    | ok x =>
      simp only [accountStep, Db.update] at hu
      split_ifs at hu with hhas hapart
      · cases k with
        | user =>
          rcases List.mem_append.mp hu with hu | hu
          · exact .inl (List.mem_of_mem_filter hu)
          · refine .inr ⟨row, rfl, List.mem_singleton.mp hu, hhas, fun v hv hne => ?_⟩
            exact hapart v (List.mem_filter.mpr ⟨hv, by simpa using hne⟩)
        | access => exact .inl hu
        | invite => exact .inl hu
      · exact .inl hu
      · exact .inl hu
      · exact .inl hu
  | delete k f =>
    cases answer with
    | error e => exact .inl hu
    | ok x =>
      cases k with
      | user => exact .inl (List.mem_of_mem_filter hu)
      | access => exact .inl hu
      | invite => exact .inl hu
  | _ => exact .inl hu

/-- What a call knows when it has read `users`, those it names. -/
structure Named (s : Db) (a : Reviewer) (users : List User) : Prop where
  stored : ∀ u ∈ users, u ∈ s.users.rows
  complete : ∀ u ∈ s.users.rows, u.id ∈ a.named → u ∈ users

/-- What it knows when it has counted the owners. -/
structure Counted (s : Db) (a : Reviewer) (users owners : List User) : Prop where
  named : Named s a users
  stored : ∀ o ∈ owners, o ∈ s.users.rows
  distinct : owners.Nodup
  owns : ∀ organizationId, a.organizationId = some organizationId →
    (∀ o ∈ owners, o.owns organizationId = true) ∧ ∀ u ∈ users, u.owns organizationId = true → u ∈ owners

def Reviewer.informed (s : Db) (a : Reviewer) : Prop :=
  match a.stage with
  | .reading | .written => True
  | .found users => Named s a users
  | .counted users owners => Counted s a users owners
  | .confirmed users owners entities => Counted s a users owners ∧ ∀ e ∈ entities, e ∈ users ∧ e.id ∈ a.named

variable {a : Reviewer}

theorem Named.step {users : List User} (h : Named s a users) (hcreate : ∀ row, o ≠ .create .user row)
    (hapart : ∀ u ∈ users, ¬ o.touches u) : Named (accountStep o answer s).2 a users := by
  constructor
  · exact fun u hu => kept_of_untouched (h.stored u hu) (hapart u hu)
  · intro u hu hid
    rcases users_of_step hu hcreate with hold | ⟨row, rfl, rfl, hhas, -⟩
    · exact h.complete u hold hid
    · obtain ⟨v, hv, hvid⟩ := List.any_eq_true.mp hhas
      have hvid : v.id = row.id := of_decide_eq_true hvid
      have hvread : v ∈ users := h.complete v hv (by rw [hvid]; exact hid)
      exact absurd hvid (hapart v hvread)

theorem Counted.step {users owners : List User} (h : Counted s a users owners) (hcreate : ∀ row, o ≠ .create .user row)
    (hapart : ∀ u ∈ users ++ owners, ¬ o.touches u) : Counted (accountStep o answer s).2 a users owners :=
  ⟨h.named.step hcreate (fun u hu => hapart u (List.mem_append_left _ hu)),
    fun u hu => kept_of_untouched (h.stored u hu) (hapart u (List.mem_append_right _ hu)), h.distinct, h.owns⟩

/-- What a call knows stays true as long as nobody writes what it has read. -/
theorem Reviewer.informed.step (h : a.informed s) (hcreate : ∀ row, o ≠ .create .user row)
    (hapart : ∀ u ∈ a.rows, ¬ o.touches u) : a.informed (accountStep o answer s).2 := by
  obtain ⟨organizationId, named, stage⟩ := a
  cases stage with
  | reading => trivial
  | written => trivial
  | found users => exact Named.step h hcreate hapart
  | counted users owners => exact Counted.step h hcreate hapart
  | confirmed users owners entities => exact ⟨Counted.step h.1 hcreate hapart, h.2⟩

theorem mem_list {f : User → Bool} {proposed : List User} {u : User} :
    u ∈ arrange (fun r : User => r.createdAt) (s.users.rows.filter f) proposed ↔ u ∈ s.users.rows ∧ f u = true := by
  rw [(arrange_perm _ _ _).mem_iff, List.mem_filter]

theorem nodup_list (f : User → Bool) (proposed : List User) :
    (arrange (fun r : User => r.createdAt) (s.users.rows.filter f) proposed).Nodup := by
  have hnodup : s.users.rows.Nodup := s.users.pairwise.imp (fun {u v} h heq => h.1 (by rw [heq]))
  exact (arrange_perm _ _ _).nodup_iff.mpr (hnodup.filter f)

theorem mem_of_get {id : Uuid} {user : User} (h : s.users.rows.find? (fun r => r.id = id) = some user) :
    user ∈ s.users.rows ∧ user.id = id :=
  ⟨List.mem_of_find?_eq_some h, by simpa using List.find?_some h⟩

theorem named_of_list {proposed : List User} {f : User → Bool} (hf : f = fun u : User => a.named.contains u.id)
    {stage : ReviewStage} :
    Named s { a with stage } (arrange (fun r : User => r.createdAt) (s.users.rows.filter f) proposed) := by
  constructor
  · exact fun u hu => (mem_list.mp hu).1
  · intro u hu hid
    exact mem_list.mpr ⟨hu, by simpa [hf] using hid⟩

theorem named_of_get {id : Uuid} {user : User} (hnamed : a.named = [id])
    (h : s.users.rows.find? (fun r => r.id = id) = some user) {stage : ReviewStage} : Named s { a with stage } [user] := by
  obtain ⟨hmem, hid⟩ := mem_of_get h
  constructor
  · intro u hu
    rwa [List.mem_singleton.mp hu]
  · intro u hu hnamedId
    change u.id ∈ a.named at hnamedId
    rw [hnamed, List.mem_singleton] at hnamedId
    exact List.mem_singleton.mpr (eq_of_id_eq (k := .user) hu hmem (hnamedId.trans hid.symm))

theorem Reviewer.informed.get {id : Uuid} {r : Except StorageError (Option User)} (h : a.informed s)
    (hok : a.ok (.get .user id)) : (a.next (.get .user id) (accountStep (.get .user id) r s).1).informed s := by
  change (a.next (.get .user id) (r.map (fun _ => s.users.rows.find? (fun r => r.id = id)))).informed s
  obtain ⟨organizationId, named, stage⟩ := a
  cases r with
  | error e => cases stage <;> exact h
  | ok x =>
    cases hfind : s.users.rows.find? (fun r => r.id = id) with
    | none => cases stage <;> exact h
    | some user =>
      obtain ⟨hmem, hid⟩ := mem_of_get hfind
      cases stage with
      | reading => exact named_of_get (a := ⟨organizationId, named, .reading⟩) (hok (.inl rfl)) hfind
      | counted users owners =>
        have hnamed : user.id ∈ named := by
          rw [hid, show named = [id] from hok (.inr ⟨users, owners, rfl⟩)]
          exact List.mem_singleton_self id
        refine ⟨⟨⟨h.named.stored, h.named.complete⟩, h.stored, h.distinct, h.owns⟩, fun e he => ?_⟩
        obtain rfl := List.mem_singleton.mp he
        exact ⟨h.named.complete e hmem hnamed, hnamed⟩
      | found users => exact h
      | confirmed users owners entities => exact h
      | written => exact h

theorem Reviewer.informed.list {f : User → Bool} {r : Except StorageError (List User)} (h : a.informed s)
    (hok : a.ok (.list .user f)) : (a.next (.list .user f) (accountStep (.list .user f) r s).1).informed s := by
  change (a.next (.list .user f) (r.map (fun proposed =>
    arrange (fun r : User => r.createdAt) (s.users.rows.filter f) proposed))).informed s
  obtain ⟨organizationId, named, stage⟩ := a
  cases r with
  | error e => cases stage <;> exact h
  | ok proposed =>
    cases stage with
    | reading => exact named_of_list (a := ⟨organizationId, named, .reading⟩) hok
    | found users =>
      obtain ⟨callerOrg, horg, rfl⟩ := hok
      constructor
      · exact ⟨h.stored, h.complete⟩
      · exact fun o ho => (mem_list.mp ho).1
      · exact nodup_list _ _
      · rintro organizationId' horg'
        obtain rfl : callerOrg = organizationId' := Option.some.inj (horg.symm.trans horg')
        exact ⟨fun o ho => (mem_list.mp ho).2, fun u hu howns => mem_list.mpr ⟨h.stored u hu, howns⟩⟩
    | counted users owners =>
      refine ⟨⟨⟨h.named.stored, h.named.complete⟩, h.stored, h.distinct, h.owns⟩, fun e he => ?_⟩
      obtain ⟨hmem, hf⟩ := mem_list.mp he
      have hnamed : e.id ∈ named := by
        rw [show f = fun u : User => named.contains u.id from hok] at hf
        simpa using hf
      exact ⟨h.named.complete e hmem hnamed, hnamed⟩
    | confirmed users owners entities => exact h
    | written => exact h

/-- The call that carries out an operation knows afterwards what it should. -/
theorem Reviewer.informed.own (h : a.informed s) (hok : a.ok o) :
    (a.next o (accountStep o answer s).1).informed (accountStep o answer s).2 := by
  have hstay (hcreate : ∀ row, o ≠ .create .user row) (huntouched : ∀ u, ¬ o.touches u)
      (heq : a.next o (accountStep o answer s).1 = a) :
      (a.next o (accountStep o answer s).1).informed (accountStep o answer s).2 := by
    rw [heq]
    exact h.step hcreate (fun u _ => huntouched u)
  have hwritten (hstage : (a.next o (accountStep o answer s).1).stage = .written) :
      (a.next o (accountStep o answer s).1).informed (accountStep o answer s).2 := by
    unfold Reviewer.informed
    rw [hstage]
    trivial
  obtain ⟨organizationId, named, stage⟩ := a
  cases o with
  | get k id =>
    cases k with
    | user => exact h.get hok
    | access => exact hstay (by simp) (by simp [AccountOp.touches]) (by cases stage <;> rfl)
    | invite => exact hstay (by simp) (by simp [AccountOp.touches]) (by cases stage <;> rfl)
  | list k f =>
    cases k with
    | user => exact h.list hok
    | access => exact hstay (by simp) (by simp [AccountOp.touches]) (by cases stage <;> rfl)
    | invite => exact hstay (by simp) (by simp [AccountOp.touches]) (by cases stage <;> rfl)
  | create k row =>
    cases k with
    | user => exact hok.elim
    | access => exact hstay (by simp) (by simp [AccountOp.touches]) (by cases stage <;> rfl)
    | invite => exact hstay (by simp) (by simp [AccountOp.touches]) (by cases stage <;> rfl)
  | update k row =>
    cases k with
    | user =>
      obtain ⟨user, hstage, -⟩ := hok
      change stage = .found [user] at hstage
      subst hstage
      exact hwritten rfl
    | access => exact hstay (by simp) (by simp [AccountOp.touches]) (by cases stage <;> rfl)
    | invite => exact hstay (by simp) (by simp [AccountOp.touches]) (by cases stage <;> rfl)
  | delete k f =>
    cases k with
    | user =>
      obtain ⟨users, owners, entities, hstage, -⟩ := hok
      change stage = .confirmed users owners entities at hstage
      subst hstage
      exact hwritten rfl
    | access => exact hstay (by simp) (by simp [AccountOp.touches]) (by cases stage <;> rfl)
    | invite => exact hstay (by simp) (by simp [AccountOp.touches]) (by cases stage <;> rfl)
  | newV4 => exact hstay (by simp) (by simp [AccountOp.touches]) (by cases stage <;> rfl)
  | utcNow => exact hstay (by simp) (by simp [AccountOp.touches]) (by cases stage <;> rfl)
  | loadSession cookie => exact hstay (by simp) (by simp [AccountOp.touches]) (by cases stage <;> rfl)
  | saveSession cookie session => exact hstay (by simp) (by simp [AccountOp.touches]) (by cases stage <;> rfl)

theorem owner_of_update {row user : User} (huser : user ∈ s.users.rows) (hemail : row.base.email = user.base.email)
    (horg : row.base.organizationId = user.base.organizationId)
    (hpermissions : row.base.permissions = user.base.permissions ∨ user.base.permissions ≠ .owner)
    {r : Except StorageError Unit} {organizationId : Uuid} (howner : s.HasOwner organizationId) :
    (accountStep (.update .user row) r s).2.HasOwner organizationId := by
  cases r with
  | error e => exact howner
  | ok x =>
    change (s.update .user row (.ok x)).2.HasOwner organizationId
    simp only [Db.update]
    split_ifs with hhas hapart
    · have hsame : user.id = row.id := by
        by_contra hne
        have hclash := (hapart user (List.mem_filter.mpr ⟨huser, by simpa using hne⟩)).2
        simp [clash, columns, User.emailKey, User.row, hemail] at hclash
      obtain ⟨u, hu, howns⟩ := howner
      by_cases hid : u.id = row.id
      · obtain rfl : u = user := eq_of_id_eq (k := .user) hu huser (hid.trans hsame.symm)
        obtain ⟨huorg, huowner⟩ : u.base.organizationId = organizationId ∧ u.base.permissions = .owner := by
          simpa [User.owns] using howns
        have hkeeps : row.base.permissions = .owner := (hpermissions.resolve_right (not_not.mpr huowner)).trans huowner
        exact ⟨row.row, List.mem_append_right _ (List.mem_singleton_self _), by simp [User.owns, User.row, horg, huorg, hkeeps]⟩
      · exact ⟨u, List.mem_append_left _ (List.mem_filter.mpr ⟨hu, by simpa using hid⟩), howns⟩
    · exact howner
    · exact howner
    · exact howner

theorem owner_of_delete {users owners entities : List User} (h : Counted s a users owners)
    (hentities : ∀ e ∈ entities, e ∈ users ∧ e.id ∈ a.named) (hspared : Reviewer.spared users owners)
    (horg : ∀ e ∈ entities, a.organizationId = some e.base.organizationId) {organizationId : Uuid}
    (howner : s.HasOwner organizationId) :
    (s.delete .user (fun u : User => (entities.map Entity.id).contains u.id)).HasOwner organizationId := by
  have hkept {o : User} (ho : o ∈ s.users.rows) (hnot : ∀ e ∈ entities, e.id ≠ o.id) :
      o ∈ (s.delete .user (fun u : User => (entities.map Entity.id).contains u.id)).users.rows :=
    List.mem_filter.mpr ⟨ho, by simpa using hnot⟩
  obtain ⟨u, hu, howns⟩ := howner
  by_cases hnot : ∀ e ∈ entities, e.id ≠ u.id
  · exact ⟨u, hkept hu hnot, howns⟩
  · push Not at hnot
    obtain ⟨e, he, hid⟩ := hnot
    obtain ⟨hread, hnamed⟩ := hentities e he
    obtain rfl : e = u := eq_of_id_eq (k := .user) (h.named.stored e hread) hu hid
    obtain ⟨heorg, heowner⟩ : e.base.organizationId = organizationId ∧ e.base.permissions = .owner := by
      simpa [User.owns] using howns
    have hcaller : a.organizationId = some organizationId := by rw [horg e he, heorg]
    obtain ⟨howners, hcounted⟩ := h.owns organizationId hcaller
    rcases hspared with ⟨user, rfl, hmore⟩ | ⟨o, ho, hnotRead⟩
    · -- the only user to be deleted is an owner, and there is another one
      obtain rfl := List.mem_singleton.mp hread
      have hmem : e ∈ owners := hcounted e List.mem_cons_self howns
      have hother : ∃ o ∈ owners, o ≠ e := by
        by_contra hall
        push Not at hall
        refine hmore heowner ?_
        have hdistinct := h.distinct
        rcases owners with _ | ⟨x, _ | ⟨y, rest⟩⟩
        · cases hmem
        · rfl
        · simp [hall x, hall y] at hdistinct
      obtain ⟨o, ho, hne⟩ := hother
      refine ⟨o, hkept (h.stored o ho) (fun e' he' hid' => hne ?_), howners o ho⟩
      obtain rfl := List.mem_singleton.mp (hentities e' he').1
      exact eq_of_id_eq (k := .user) (h.stored o ho) hu hid'.symm
    · refine ⟨o, hkept (h.stored o ho) (fun e' he' hid' => hnotRead ?_), howners o ho⟩
      exact h.named.complete o (h.stored o ho) (hid' ▸ (hentities e' he').2)

/-- Nobody's write takes the last owner away. -/
theorem Reviewer.informed.owner (h : a.informed s) (hok : a.ok o) {organizationId : Uuid}
    (howner : s.HasOwner organizationId) : (accountStep o answer s).2.HasOwner organizationId := by
  obtain ⟨u, hu, howns⟩ := howner
  by_cases htouches : o.touches u
  · obtain ⟨callerOrg, named, stage⟩ := a
    cases o with
    | update k row =>
      cases k with
      | user =>
        obtain ⟨user, hstage, hemail, horg, hpermissions⟩ := hok
        change stage = .found [user] at hstage
        subst hstage
        exact owner_of_update (h.stored user List.mem_cons_self) hemail horg hpermissions ⟨u, hu, howns⟩
      | access => exact htouches.elim
      | invite => exact htouches.elim
    | delete k f =>
      cases k with
      | user =>
        obtain ⟨users, owners, entities, hstage, rfl, hspared, horg⟩ := hok
        change stage = .confirmed users owners entities at hstage
        subst hstage
        cases answer with
        | error e => exact ⟨u, hu, howns⟩
        | ok x => exact owner_of_delete h.1 h.2 hspared horg ⟨u, hu, howns⟩
      | access => exact htouches.elim
      | invite => exact htouches.elim
    | _ => exact htouches.elim
  · exact ⟨u, kept_of_untouched hu htouches, howns⟩

end steps

section runs

abbrev UserRun := Tracked accountSig ApiError Unit UserCall Db Reviewer

abbrev UserTick := Tick accountSig UserCall

def UserRun.at (db : Db) : UserRun := ⟨⟨[], db⟩, fun _ => ⟨none, [], .written⟩⟩

/-- No call writes a user row that another call has read and has still to act upon. -/
def Undisturbed (w : UserRun) : UserTick → Prop
  | .spawn _ => True
  | .run i _ =>
    match w.prog i with
    | some (.op o _) => ∀ j < w.pool.threads.length, j ≠ i → w.running j = true → ∀ u ∈ (w.points j).rows, ¬ o.touches u
    | _ => True

instance (w : UserRun) (tick : UserTick) : Decidable (Undisturbed w tick) := by
  unfold Undisturbed
  split
  · infer_instance
  · split <;> infer_instance

structure Supervised (organizationId : Uuid) (w : UserRun) : Prop where
  owner : w.pool.state.HasOwner organizationId
  follows : ∀ j p, w.prog j = some p → Follows reviewing.monitor (fun _ _ => True) (w.points j) p
  informed : ∀ j, w.running j = true → (w.points j).informed w.pool.state

theorem may_of_step {s : Db} (o : AccountOp) (answer : o.Reply) : may o (accountStep o answer s).1 := by
  cases o with
  | get k id =>
    cases k with
    | user =>
      change Except StorageError (Option User) at answer
      cases answer with
      | error e => trivial
      | ok x =>
        change may (.get .user id) (.ok (s.users.rows.find? (fun r => r.id = id)))
        cases hfind : s.users.rows.find? (fun r => r.id = id) with
        | none => trivial
        | some user => exact (mem_of_get hfind).2
    | access => trivial
    | invite => trivial
  | _ => trivial

theorem Supervised.step {organizationId : Uuid} {w : UserRun} (h : Supervised organizationId w) {tick : UserTick}
    (hquiet : Undisturbed w tick) : Supervised organizationId (reviewing.step w tick) := by
  cases tick with
  | spawn call =>
    constructor
    · exact h.owner
    · intro j p hp
      rw [Tracking.prog_spawn] at hp
      split_ifs at hp with hj
      · cases hp
        rw [hj, Tracking.points_spawn_self]
        exact follows_call call
      · rw [Tracking.points_spawn_of_ne call hj]
        exact h.follows j p hp
    · intro j hrun
      by_cases hj : j = w.pool.threads.length
      · rw [hj, Tracking.points_spawn_self]
        trivial
      · rw [Tracking.running_spawn_of_ne call hj] at hrun
        rw [Tracking.points_spawn_of_ne call hj]
        exact h.informed j hrun
  | run i answers =>
    rcases Tracking.step_run_cases (T := reviewing) (w := w) i answers with ⟨hpass, -⟩ | ⟨o, k, t, hacts⟩
    · constructor
      · rw [hpass.state]
        exact h.owner
      · intro j p hp
        rw [hpass.prog] at hp
        rw [hpass.points]
        exact h.follows j p hp
      · intro j hrun
        rw [hpass.state, hpass.points]
        refine h.informed j ?_
        unfold Tracked.running at hrun ⊢
        rwa [hpass.prog] at hrun
    · have hthread := hacts.thread
      simp only [Undisturbed, hthread] at hquiet
      obtain ⟨hok, hnext⟩ := h.follows i _ hthread
      have hinformed := h.informed i hacts.running
      have hcreate : ∀ row, o ≠ .create .user row := by
        rintro row rfl
        exact hok
      constructor
      · rw [hacts.state]
        exact hinformed.owner hok h.owner
      · intro j p hp
        rw [hacts.prog] at hp
        split_ifs at hp with hj
        · cases hp
          rw [hj, hacts.own]
          exact hnext _ (may_of_step o _)
        · rw [hacts.other hj]
          exact h.follows j p hp
      · intro j hrun
        rw [hacts.state]
        by_cases hj : j = i
        · rw [hj, hacts.own]
          exact hinformed.own hok
        · rw [hacts.running_of_ne hj] at hrun
          rw [hacts.other hj]
          exact (h.informed j hrun).step hcreate (hquiet j (w.lt_of_running hrun) hj hrun)

/-- When nobody writes what another call has read and not yet acted upon, the organization keeps an owner. -/
theorem owner_remains (organizationId : Uuid) (db : Db) (howner : db.HasOwner organizationId) (ticks : List UserTick)
    (hquiet : Meets reviewing.step Undisturbed (UserRun.at db) ticks) :
    (ticks.foldl reviewing.step (UserRun.at db)).pool.state.HasOwner organizationId := by
  have hstart : Supervised organizationId (UserRun.at db) := by
    constructor
    · exact howner
    · intro j p hp
      cases hp
    · intro j hrun
      cases hrun
  exact (hquiet.invariant (Supervised organizationId) (fun w tick hw htick => hw.step htick) hstart).owner

instance (s : Db) (organizationId : Uuid) : Decidable (s.HasOwner organizationId) :=
  inferInstanceAs (Decidable (∃ u ∈ s.users.rows, User.owns u organizationId = true))

def ownerOf (organizationId id : Uuid) (email : String) : User :=
  ⟨id, 0, 0, ⟨email, organizationId, .owner, none, none, none, none, [], none⟩⟩

/-- The organization 9 with its two owners. -/
def twoOwners : Db where
  users := ⟨[ownerOf 9 1 "a", ownerOf 9 2 "b"], by decide⟩
  access := .empty
  invites := .empty
  sessions := fun _ => .new

/-- Either owner deletes the other, and the calls go on in the order of `schedule`. -/
def eachOther (schedule : List ℕ) : List UserTick :=
  .spawn (.delete (.user 1 9 .owner [] "a") 2) :: .spawn (.delete (.user 2 9 .owner [] "b") 1) ::
    schedule.map (fun i => .run i (granted 8 0))

theorem owner_remains_in_turn :
    ((eachOther (List.replicate 6 0 ++ List.replicate 6 1)).foldl reviewing.step (UserRun.at twoOwners)).pool.state.HasOwner 9 :=
  owner_remains 9 twoOwners (by decide) (eachOther (List.replicate 6 0 ++ List.replicate 6 1)) (by decide)

/-- Both count two owners before either of them is deleted. -/
theorem both_owners_deleted : ¬ ∀ (organizationId : Uuid) (db : Db) (ticks : List UserTick), db.HasOwner organizationId →
    (ticks.foldl reviewing.step (UserRun.at db)).pool.state.HasOwner organizationId := by
  intro h
  have howner := h 9 twoOwners (eachOther (List.replicate 5 [0, 1]).flatten) (by decide)
  revert howner
  decide

end runs

end VantageNet.Accounts
