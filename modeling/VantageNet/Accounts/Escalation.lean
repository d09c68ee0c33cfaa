import VantageNet.Interaction.Ensures
import VantageNet.Accounts.Invites

/-!
What callers give to users: the calls that edit users, send invites and accept them, one
after another, each by whoever `auth/middleware/auth.rs` makes of its credentials.
-/

namespace VantageNet.Accounts

open Inventory Interaction Interaction.Program
open Events hiding Entity

inductive Credentials where
  | session (cookie : Uuid)
  /-- What is stored of a user's API key and of the networks it has access to. -/
  | apiKey (apiKeyId userId organizationId : Uuid) (permissions : UserOrgPermissions) (networkIds : List Uuid)

/-- Those who have access to every network of their organization. -/
def manages (permissions : UserOrgPermissions) : Bool := permissions = .owner || permissions = .admin

/-- `extract_auth`, where `networks` are those of each organization. -/
def extractAuth (networks : Uuid → List Uuid) : Credentials → Request AuthenticatedEntity
  | .apiKey apiKeyId userId organizationId permissions networkIds =>
    ret (.apiKey apiKeyId userId organizationId permissions networkIds)
  | .session cookie => do
    let session ← loadSession cookie
    match session.userId with
    | none => fail (.unauthorized "Not authenticated")
    | some userId => do
      let found ← (Storage.getById .user userId).attempt
      match found with
      | .ok (some (user : User)) =>
        let entity := fun networkIds =>
          AuthenticatedEntity.user user.id user.base.organizationId user.base.permissions networkIds user.base.email
        if manages user.base.permissions then return entity (networks user.base.organizationId)
        else do
          let rows ← (Storage.getAll .access (fun a : UserNetworkAccess => a.base.userId = user.id)).attempt
          match rows with
          | .ok (rows : List UserNetworkAccess) => return entity (rows.map (fun a => a.base.networkId))
          | .error _ => fail (.internal "Failed to load user networks")
      | _ => fail (.unauthorized "User not found")

inductive MemberCall where
  | updateUser (credentials : Credentials) (id : Uuid) (request : User)
  | adminUpdateUser (credentials : Credentials) (id : Uuid) (request : User)
  | createInvite (credentials : Credentials) (publicUrl : String) (seatLimit : Option ℕ) (request : CreateInviteRequest)
  | acceptInviteLink (cookie id : Uuid)
  | register (cookie : Uuid) (registration : Registration) (termsAcceptedAt : Option Instant)

/-- A call, and by whom which invite was created. -/
def perform (networks : Uuid → List Uuid) : MemberCall → Request (Option (AuthenticatedEntity × Invite))
  | .updateUser credentials id request => (extractAuth networks credentials).bind (fun auth =>
      (updateUser auth id request).bind (fun _ => ret none))
  | .adminUpdateUser credentials id request => (extractAuth networks credentials).bind (fun auth =>
      (adminUpdateUser auth id request).bind (fun _ => ret none))
  | .createInvite credentials publicUrl seatLimit request => (extractAuth networks credentials).bind (fun auth =>
      (createInvite publicUrl seatLimit auth request).bind (fun invite => ret (some (auth, invite))))
  | .acceptInviteLink cookie id => (acceptInviteLink cookie id).bind (fun _ => ret none)
  | .register cookie registration termsAcceptedAt => (register cookie registration termsAcceptedAt).bind (fun _ => ret none)

structure Served where
  call : MemberCall
  answers : Oracle accountSig

/-- The store, and the invites created so far, each with its creator. -/
structure Office where
  db : Db
  issued : List (AuthenticatedEntity × Invite)

def serve (networks : Uuid → List Uuid) (w : Office) (e : Served) : Office :=
  let outcome := run accountStep e.answers 0 (perform networks e.call) w.db
  ⟨outcome.state,
    match outcome.result with
    | .ok (some x) => x :: w.issued
    | _ => w.issued⟩

/-- Who calls. -/
def caller (networks : Uuid → List Uuid) (db : Db) (answers : Oracle accountSig) (credentials : Credentials) :
    Except ApiError AuthenticatedEntity := (run accountStep answers 0 (extractAuth networks credentials) db).result

def grantable (entity : AuthenticatedEntity) : List UserOrgPermissions :=
  match entity.permissions with
  | some permissions => permissions.grantableUserPermissions
  | none => []

/-- A network that a user has access to, by a row of its own or by managing the organization. -/
def Db.Access (networks : Uuid → List Uuid) (s : Db) (userId networkId : Uuid) : Prop :=
  (∃ a ∈ s.access.rows, UserNetworkAccessBase.userId a.base = userId ∧ UserNetworkAccessBase.networkId a.base = networkId) ∨
    ∃ u ∈ s.users.rows, u.id = userId ∧ manages (UserBase.permissions u.base) = true ∧
      networkId ∈ networks (UserBase.organizationId u.base)

/-- The users of `t` got nothing in a step from `s` that is not for `granter` to give. -/
structure Rightful (networks : Uuid → List Uuid) (granter : AuthenticatedEntity) (s t : Db) : Prop where
  users : ∀ u : User, u ∈ t.users.rows → u ∉ s.users.rows → granter.organizationId = some u.base.organizationId ∧
    (u.base.permissions ∈ grantable granter ∨
      ∃ v : User, v ∈ s.users.rows ∧ v.id = u.id ∧ v.base.permissions = u.base.permissions)
  access : ∀ userId networkId, t.Access networks userId networkId →
    s.Access networks userId networkId ∨ networkId ∈ granter.networkIds

/-- The step has changed the user of this id only, who is in the caller's organization. -/
structure OnlyNamed (auth : AuthenticatedEntity) (id : Uuid) (s t : Db) : Prop where
  users : ∀ u : User, ¬ (u ∈ s.users.rows ↔ u ∈ t.users.rows) →
    u.id = id ∧ auth.organizationId = some u.base.organizationId
  access : ∀ a : UserNetworkAccess, ¬ (a ∈ s.access.rows ↔ a ∈ t.access.rows) → a.base.userId = id

/-- What an invite offers to whoever accepts it. -/
def offered (i : Invite) : PendingInvite := ⟨i.base.organizationId, i.id, i.base.permissions, i.base.networkIds⟩

/-- Nobody gives what is not theirs to give: a caller who edits a user, or the creator of the invite that
somebody accepts. -/
def Restrained (networks : Uuid → List Uuid) (w : Office) (e : Served) (t : Db) : Prop :=
  match e.call with
  | .updateUser credentials id _ | .adminUpdateUser credentials id _ =>
    match caller networks w.db e.answers credentials with
    | .ok auth => OnlyNamed auth id w.db t ∧ Rightful networks auth w.db t
    | .error _ => t = w.db
  | .createInvite _ _ _ _ => t.users = w.db.users ∧ t.access = w.db.access
  | .acceptInviteLink _ id =>
    (t.users = w.db.users ∧ t.access = w.db.access) ∨ ∃ x ∈ w.issued, x.2.id = id ∧ Rightful networks x.1 w.db t
  | .register cookie _ _ => ∀ p, (w.db.sessions cookie).pending = some p →
    ∃ x ∈ w.issued, offered x.2 = p ∧ Rightful networks x.1 w.db t

/-- A user with lower permissions whom an administrator edits is of the same organization and gets access to no
network that the administrator has no access to; no administrator invites another one; and whoever gives
access to all networks of the organization has it. -/
def Restraint (networks : Uuid → List Uuid) (w : Office) (e : Served) : Prop :=
  match e.call with
  | .adminUpdateUser credentials id request => ∀ auth permissions,
    caller networks w.db e.answers credentials = .ok auth → auth.permissions = some permissions →
    .admin ≤ permissions → ∀ u : User, u ∈ w.db.users.rows → u.id = id → u.base.permissions < permissions →
    request.id = id → request.base.organizationId = u.base.organizationId →
      auth.organizationId = some u.base.organizationId ∧
      ∀ networkId, networkId ∈ request.base.networkIds ∨
          manages request.base.permissions = true ∧ networkId ∈ networks u.base.organizationId →
        networkId ∈ auth.networkIds ∨ w.db.Access networks id networkId
  | .createInvite credentials _ _ request => ∀ auth, caller networks w.db e.answers credentials = .ok auth →
    ¬ (auth.permissions = some .admin ∧ request.permissions = .admin) ∧
    (manages request.permissions = true → ∀ organizationId, auth.organizationId = some organizationId →
      ∀ networkId ∈ networks organizationId, networkId ∈ auth.networkIds)
  | _ => True

section statements

variable {s : Db} {k : Kind} {α : Type}

theorem ensures_statement {r : Except StorageError α} {post : Except ApiError α → Db → Prop}
    (hok : ∀ a, r = .ok a → post (.ok a) s) (herror : ∀ e, post (.error e) s) :
    Ensures accountStep (fun _ _ _ => True) post (Storage.statement r) s := by
  cases r with
  | error e => exact herror _
  | ok a => exact hok a rfl

theorem ensures_getById {id : Uuid} {post : Except ApiError (Option (Row k)) → Db → Prop}
    (hok : ∀ found, (∀ row, found = some row → row ∈ (s.table k).rows ∧ row.id = id) → post (.ok found) s)
    (herror : ∀ e, post (.error e) s) :
    Ensures accountStep (fun _ _ _ => True) post (Storage.getById k id) s := by
  intro answer _
  refine ensures_statement (fun found hfound => hok found ?_) herror
  cases answer with
  | error e => cases hfound
  | ok x =>
    obtain rfl : (s.table k).rows.find? (fun r => r.id = id) = found := Except.ok.inj hfound
    intro row hrow
    exact ⟨List.mem_of_find?_eq_some hrow, by simpa using List.find?_some hrow⟩

theorem ensures_getAll {filter : Row k → Bool} {post : Except ApiError (List (Row k)) → Db → Prop}
    (hok : ∀ rows, (∀ row ∈ rows, row ∈ (s.table k).rows ∧ filter row = true) → post (.ok rows) s)
    (herror : ∀ e, post (.error e) s) :
    Ensures accountStep (fun _ _ _ => True) post (Storage.getAll k filter) s := by
  intro answer _
  refine ensures_statement (fun rows hrows => hok rows ?_) herror
  cases answer with
  | error e => cases hrows
  | ok proposed =>
    obtain rfl := Except.ok.inj hrows
    intro row hrow
    exact List.mem_filter.mp ((arrange_perm _ _ _).mem_iff.mp hrow)

theorem ensures_create {row : Row k} {post : Except ApiError (Row k) → Db → Prop}
    (hok : ∀ h, post (.ok row) (s.withTable k ((s.table k).insert (columns k row) h)))
    (herror : ∀ e, post (.error e) s) : Ensures accountStep (fun _ _ _ => True) post (Storage.create k row) s := by
  intro answer _
  cases answer with
  | error e => exact herror _
  | ok x =>
    change Ensures _ _ _ ((Storage.statement (s.create k row (.ok x)).1).bind (fun _ => .ret row)) (s.create k row (.ok x)).2
    unfold Db.create
    dsimp only
    split_ifs with hapart
    · exact hok hapart
    · exact herror _
    · exact herror _

/-- An update that returns has rewritten the row, if there was one. -/
theorem ensures_update {entity : Row k} {post : Except ApiError (Row k) → Db → Prop}
    (hhas : s.has k entity.id = true)
    (hok : ∀ now h, post (.ok { entity with updatedAt := now })
      (s.withTable k (((s.table k).filter (fun r => r.id ≠ entity.id)).insert (columns k { entity with updatedAt := now }) h)))
    (herror : ∀ e, post (.error e) s) : Ensures accountStep (fun _ _ _ => True) post (Storage.update k entity) s := by
  intro now _ answer _
  cases answer with
  | error e => exact herror _
  | ok x =>
    change Ensures _ _ _ ((Storage.statement (s.update k { entity with updatedAt := now } (.ok x)).1).bind
      (fun _ => .ret { entity with updatedAt := now })) (s.update k { entity with updatedAt := now } (.ok x)).2
    unfold Db.update
    dsimp only
    rw [if_pos hhas]
    split_ifs with hapart
    · exact hok now hapart
    · exact herror _
    · exact herror _

theorem ensures_deleteWhere {filter : Row k → Bool} {post : Except ApiError Unit → Db → Prop}
    (hok : post (.ok ()) (s.delete k filter)) (herror : ∀ e, post (.error e) s) :
    Ensures accountStep (fun _ _ _ => True) post (Storage.deleteWhere k filter) s := by
  intro answer _
  cases answer with
  | error e => exact herror _
  | ok x => exact hok

/-- `p` runs from `s`, whatever the environment answers. -/
abbrev Leads (post : Except ApiError α → Db → Prop) (p : Request α) (s : Db) : Prop :=
  Ensures accountStep (fun _ _ _ => True) post p s

/-- An update of the users ends with the old table, or with one where `row` has taken the place of its user. -/
def Rewrote (entity : User) (s t : Db) : Prop :=
  ∃ (row : User) (users : Rows .user), t = { s with users } ∧ row.id = entity.id ∧
    row.base.organizationId = entity.base.organizationId ∧ row.base.permissions = entity.base.permissions ∧
    row.emailKey = entity.emailKey ∧ (∀ u ∈ s.users.rows, u.id ≠ entity.id → Apart .user u row) ∧
    users.rows = s.users.rows.filter (fun u => u.id ≠ entity.id) ++ [row]

theorem ensures_crudUpdate {entity : User} {post : Except ApiError User → Db → Prop}
    (hok : ∀ updated t, Rewrote entity s t → post (.ok updated) t) (herror : ∀ e, post (.error e) s) :
    Leads post (Crud.update .user entity) s := by
  apply Ensures.bind
  refine ensures_getById ?_ herror
  intro found hfound
  cases found with
  | none => exact herror _
  | some existing =>
    obtain ⟨hmem, hid⟩ := hfound existing rfl
    refine ensures_update (List.any_eq_true.mpr ⟨existing, hmem, by simpa using hid⟩) (fun now hapart => ?_) herror
    refine hok _ _ ⟨User.row { entity with updatedAt := now }, _, rfl, rfl, rfl, rfl, rfl, fun u hu hne => ?_, rfl⟩
    exact hapart u (List.mem_filter.mpr ⟨hu, by simpa using hne⟩)

theorem ensures_crudDelete {id : Uuid} {post : Except ApiError Unit → Db → Prop}
    (hok : post (.ok ()) (s.delete k (fun r => r.id = id))) (herror : ∀ e, post (.error e) s) :
    Leads post (Crud.delete k id) s := by
  apply Ensures.bind
  refine ensures_getById ?_ herror
  intro found _
  cases found with
  | none => exact herror _
  | some existing => exact ensures_deleteWhere hok herror

/-- The networks that `id` has rows for are old ones and some of `networkIds`. -/
structure Assigned (id : Uuid) (networkIds : List Uuid) (s t : Db) : Prop where
  eq : t = { s with access := t.access }
  kept : ∀ a : UserNetworkAccess, a ∈ s.access.rows → a.base.userId ≠ id → a ∈ t.access.rows
  added : ∀ a : UserNetworkAccess, a ∈ t.access.rows → a ∈ s.access.rows ∨ a.base.userId = id ∧ a.base.networkId ∈ networkIds

theorem Assigned.refl (id : Uuid) (networkIds : List Uuid) (s : Db) : Assigned id networkIds s s :=
  ⟨rfl, fun _ ha _ => ha, fun _ ha => .inl ha⟩

theorem Assigned.trans {id : Uuid} {networkIds : List Uuid} {s t u : Db} (h : Assigned id networkIds s t)
    (h' : Assigned id networkIds t u) : Assigned id networkIds s u := by
  constructor
  · rw [h'.eq, h.eq]
  · exact fun a ha hne => h'.kept a (h.kept a ha hne) hne
  · intro a ha
    rcases h'.added a ha with ha | ha
    · exact h.added a ha
    · exact .inr ha

theorem ensures_setNetworkIds (id : Uuid) (networkIds : List Uuid) (s : Db) :
    Leads (fun _ t => Assigned id networkIds s t) (UserService.setNetworkIds id networkIds) s := by
  apply Ensures.bind
  refine ensures_deleteWhere ?_ (fun e => Assigned.refl id networkIds s)
  refine Ensures.forEach (fun _ t => Assigned id networkIds s t) networkIds ?_ ?_ (fun t ht => ht)
  · intro done networkId rest heq t ht
    apply Ensures.bind
    intro accessId _
    apply Ensures.bind
    intro now _
    apply Ensures.bind
    refine ensures_create (fun hapart => ?_) (fun e => ?_)
    · refine ht.trans ⟨rfl, fun a ha _ => List.mem_append_left _ ha, fun a ha => ?_⟩
      rcases List.mem_append.mp ha with ha | ha
      · exact .inl ha
      · obtain rfl := List.mem_singleton.mp ha
        exact .inr ⟨rfl, by simp [heq, columns]⟩
    · exact ht
  · refine ⟨rfl, fun a ha hne => List.mem_filter.mpr ⟨ha, by simpa using hne⟩, fun a ha => ?_⟩
    exact .inl (List.mem_of_mem_filter ha)

theorem ensures_authorized {allowed : AuthenticatedEntity → Bool} {description missing : String}
    {auth : AuthenticatedEntity} {field : AuthenticatedEntity → Option α} {post : Except ApiError α → Db → Prop}
    (hok : ∀ a, allowed auth = true → field auth = some a → post (.ok a) s) (herror : ∀ e, post (.error e) s) :
    Leads post (authorized allowed description auth field missing) s := by
  unfold authorized
  split_ifs with hallowed
  · cases hfield : field auth with
    | none => exact herror _
    | some a => exact hok a hallowed hfield
  · exact herror _

theorem ensures_permissionsOf {auth : AuthenticatedEntity} {post : Except ApiError UserOrgPermissions → Db → Prop}
    (hok : ∀ permissions, auth.permissions = some permissions → post (.ok permissions) s)
    (herror : ∀ e, post (.error e) s) : Leads post (permissionsOf auth) s := by
  unfold permissionsOf
  cases hpermissions : auth.permissions with
  | none => exact herror _
  | some permissions => exact hok permissions hpermissions

end statements

section edits

variable {networks : Uuid → List Uuid} {auth : AuthenticatedEntity} {id : Uuid} {s t u : Db}

structure Edited (networks : Uuid → List Uuid) (auth : AuthenticatedEntity) (id : Uuid) (s t : Db) : Prop where
  only : OnlyNamed auth id s t
  rightful : Rightful networks auth s t
  invites : t.invites = s.invites
  sessions : t.sessions = s.sessions

theorem Edited.refl (networks : Uuid → List Uuid) (auth : AuthenticatedEntity) (id : Uuid) (s : Db) :
    Edited networks auth id s s :=
  ⟨⟨fun _ h => absurd Iff.rfl h, fun _ h => absurd Iff.rfl h⟩, ⟨fun _ hu hnot => absurd hu hnot, fun _ _ h => .inl h⟩, rfl, rfl⟩

/-- The user of the body is the one of the path, since they have the same email address. -/
theorem Rewrote.id_eq {existing request : User} (h : Rewrote (preserving request existing) s t)
    (hmem : existing ∈ s.users.rows) : request.id = existing.id := by
  by_contra hne
  obtain ⟨row, users, -, -, -, -, hemail, hapart, -⟩ := h
  have hclash := (hapart existing hmem (fun heq => hne heq.symm)).2
  simp only [clash, Bool.or_eq_false_iff, decide_eq_false_iff_not] at hclash
  exact hclash.1 hemail.symm

theorem Rewrote.edited (networks : Uuid → List Uuid) {existing request : User} (h : Rewrote (preserving request existing) s t)
    (hmem : existing ∈ s.users.rows) (hcaller : auth.organizationId = some existing.base.organizationId)
    (horg : request.base.organizationId = existing.base.organizationId)
    (hpermissions : request.base.permissions = existing.base.permissions ∨ request.base.permissions ∈ grantable auth)
    (hnetworks : manages request.base.permissions = true → ∀ networkId ∈ networks existing.base.organizationId,
      networkId ∈ auth.networkIds ∨ s.Access networks existing.id networkId) : Edited networks auth existing.id s t := by
  have hid := h.id_eq hmem
  obtain ⟨row, users, rfl, hrow, hrowOrg, hrowPermissions, -, -, hrows⟩ := h
  replace hrow : row.id = existing.id := hrow.trans hid
  replace hrowOrg : row.base.organizationId = existing.base.organizationId := hrowOrg.trans horg
  have hnew (u : User) (hu : u ∈ users.rows) : u ∈ s.users.rows ∨ u = row := by
    rw [hrows] at hu
    rcases List.mem_append.mp hu with hu | hu
    · exact .inl (List.mem_of_mem_filter hu)
    · exact .inr (List.mem_singleton.mp hu)
  have hold (u : User) (hu : u ∈ s.users.rows) : u ∈ users.rows ∨ u = existing := by
    by_cases hue : u.id = existing.id
    · exact .inr (eq_of_id_eq (k := .user) hu hmem hue)
    · rw [hrows]
      exact .inl (List.mem_append_left _ (List.mem_filter.mpr ⟨hu, decide_eq_true (fun heq => hue (heq.trans hid))⟩))
  refine ⟨⟨fun u hchanged => ?_, fun _ h => absurd Iff.rfl h⟩, ⟨fun u hu hnot => ?_, ?_⟩, rfl, rfl⟩
  · by_cases hu : u ∈ s.users.rows
    · obtain rfl := (hold u hu).resolve_left (fun hu' => hchanged ⟨fun _ => hu', fun _ => hu⟩)
      exact ⟨rfl, hcaller⟩
    · have hu' : u ∈ users.rows := by
        by_contra hnot
        exact hchanged ⟨fun h => absurd h hu, fun h => absurd h hnot⟩
      obtain rfl := (hnew u hu').resolve_left hu
      exact ⟨hrow, by rw [hrowOrg, hcaller]⟩
  · obtain rfl := (hnew u hu).resolve_left hnot
    refine ⟨by rw [hrowOrg, hcaller], ?_⟩
    rcases hpermissions with hsame | hgrantable
    · exact .inr ⟨existing, hmem, hrow.symm, (hrowPermissions.trans hsame).symm⟩
    · refine .inl ?_
      rw [hrowPermissions]
      exact hgrantable
  · rintro userId networkId (haccess | ⟨u, hu, rfl, hmanages, hnetwork⟩)
    · exact .inl (.inl haccess)
    · rcases hnew u hu with hu | rfl
      · exact .inl (.inr ⟨u, hu, rfl, hmanages, hnetwork⟩)
      · rw [hrowPermissions] at hmanages
        rw [hrowOrg] at hnetwork
        rw [hrow]
        exact (hnetworks hmanages networkId hnetwork).symm

theorem Edited.assigned {networkIds : List Uuid} (h : Edited networks auth id s t) (h' : Assigned id networkIds t u)
    (hnetworks : ∀ networkId ∈ networkIds, networkId ∈ auth.networkIds ∨ s.Access networks id networkId) :
    Edited networks auth id s u := by
  have husers : u.users = t.users := by rw [h'.eq]
  refine ⟨⟨fun v hv => h.only.users v (by rwa [husers] at hv), fun a ha => ?_⟩, ⟨fun v hv hnot => ?_, ?_⟩, ?_, ?_⟩
  · by_contra hne
    refine ha (Iff.trans (not_not.mp (fun hchanged => hne (h.only.access a hchanged))) ⟨fun hmem => h'.kept a hmem hne, fun hmem => ?_⟩)
    exact (h'.added a hmem).resolve_right (fun hadded => hne hadded.1)
  · rw [husers] at hv
    exact h.rightful.users v hv hnot
  · rintro userId networkId (⟨a, ha, rfl, rfl⟩ | ⟨v, hv, rfl, hmanages, hnetwork⟩)
    · rcases h'.added a ha with ha | ⟨hid, hmem⟩
      · exact h.rightful.access _ _ (.inl ⟨a, ha, rfl, rfl⟩)
      · rw [hid]
        exact (hnetworks _ hmem).symm
    · rw [husers] at hv
      exact h.rightful.access _ _ (.inr ⟨v, hv, rfl, hmanages, hnetwork⟩)
  · rw [h'.eq]
    exact h.invites
  · rw [h'.eq]
    exact h.sessions

theorem ensures_updateUser (request : User) (hauth : auth.isUser = true → ∀ u : User, u ∈ s.users.rows →
      auth.userId = some u.id → auth.organizationId = some u.base.organizationId) :
    Leads (fun _ t => Edited networks auth id s t) (updateUser auth id request) s := by
  have hrefl := Edited.refl networks auth id s
  apply Ensures.bind
  refine ensures_authorized (fun userId huser hid => ?_) (fun _ => hrefl)
  dsimp only [Ensures.andThen]
  split_ifs with hself
  · exact hrefl
  · obtain rfl := not_not.mp hself
    apply Ensures.bind
    refine ensures_getById (fun found hfound => ?_) (fun _ => hrefl)
    cases found with
    | none => exact hrefl
    | some existing =>
      obtain ⟨hmem, rfl⟩ := hfound existing rfl
      dsimp only [Ensures.andThen]
      split_ifs with horg hpermissions
      · exact hrefl
      · exact hrefl
      · refine ensures_crudUpdate (fun updated t hrewrote => ?_) (fun _ => hrefl)
        refine hrewrote.edited networks hmem (hauth huser existing hmem hid) (not_not.mp horg) (.inl (not_not.mp hpermissions)) ?_
        intro hmanages networkId hnetwork
        rw [not_not.mp hpermissions] at hmanages
        exact .inr (.inr ⟨existing, hmem, rfl, hmanages, hnetwork⟩)

theorem admin_le {permissions : UserOrgPermissions} (hadmin : Admin auth = true) (h : auth.permissions = some permissions) :
    UserOrgPermissions.admin ≤ permissions := by
  simpa [AuthenticatedEntity.atLeast, h] using hadmin

theorem mem_grantable {permissions target : UserOrgPermissions} (h : auth.permissions = some permissions)
    (hadmin : UserOrgPermissions.admin ≤ permissions) (hbelow : permissions = .owner ∨ target < permissions) :
    target ∈ grantable auth := by
  unfold grantable
  rw [h]
  revert hadmin hbelow
  cases permissions <;> cases target <;> decide

theorem ensures_adminUpdateUser (request : User) (hrestraint : ∀ permissions, auth.permissions = some permissions →
      .admin ≤ permissions → ∀ u : User, u ∈ s.users.rows → u.id = id → u.base.permissions < permissions →
      request.id = id → request.base.organizationId = u.base.organizationId →
        auth.organizationId = some u.base.organizationId ∧
        ∀ networkId, networkId ∈ request.base.networkIds ∨
            manages request.base.permissions = true ∧ networkId ∈ networks u.base.organizationId →
          networkId ∈ auth.networkIds ∨ s.Access networks id networkId) :
    Leads (fun _ t => Edited networks auth id s t) (adminUpdateUser auth id request) s := by
  have hrefl := Edited.refl networks auth id s
  apply Ensures.bind
  refine ensures_authorized (fun adminUserId hadmin _ => ?_) (fun _ => hrefl)
  apply Ensures.bind
  refine ensures_permissionsOf (fun permissions hpermissions => ?_) (fun _ => hrefl)
  apply Ensures.bind
  refine ensures_getById (fun found hfound => ?_) (fun _ => hrefl)
  cases found with
  | none => exact hrefl
  | some existing =>
    obtain ⟨hmem, rfl⟩ := hfound existing rfl
    dsimp only [Ensures.andThen]
    split_ifs with hself hlower hpromotes horg
    · exact hrefl
    · exact hrefl
    · exact hrefl
    · exact hrefl
    · have hlevel := admin_le hadmin hpermissions
      apply Ensures.bind
      refine ensures_crudUpdate (fun updated t hrewrote => ?_) (fun _ => hrefl)
      obtain ⟨hcaller, hnetworks⟩ := hrestraint permissions hpermissions hlevel existing hmem rfl (not_le.mp hlower)
        (hrewrote.id_eq hmem) (not_not.mp horg)
      have hgrantable : request.base.permissions ∈ grantable auth := by
        refine mem_grantable hpermissions hlevel ?_
        simp only [Bool.and_eq_true, decide_eq_true_eq, not_and, not_le] at hpromotes
        exact (Decidable.em (permissions = .owner)).imp_right hpromotes
      have hedited := hrewrote.edited networks hmem hcaller (not_not.mp horg) (.inr hgrantable)
        (fun hmanages networkId hnetwork => hnetworks networkId (.inr ⟨hmanages, hnetwork⟩))
      apply Ensures.bind
      apply (ensures_setNetworkIds existing.id request.base.networkIds t).imp
      rintro (e | x) u hassigned
      · exact hedited.assigned hassigned (fun networkId hmem => hnetworks networkId (.inl hmem))
      · exact hedited.assigned hassigned (fun networkId hmem => hnetworks networkId (.inl hmem))

end edits

section invitations

variable {networks : Uuid → List Uuid} {auth : AuthenticatedEntity} {s t : Db} {k : Kind}

/-- The offer is for this caller to make. -/
structure Vouches (networks : Uuid → List Uuid) (granter : AuthenticatedEntity) (p : PendingInvite) : Prop where
  organization : granter.organizationId = some p.organizationId
  permissions : p.permissions ∈ grantable granter
  networkIds : ∀ networkId ∈ p.networkIds, networkId ∈ granter.networkIds
  managed : manages p.permissions = true → ∀ networkId ∈ networks p.organizationId, networkId ∈ granter.networkIds

theorem ensures_orEmpty {filter : Row k → Bool} {post : Except ApiError (List (Row k)) → Db → Prop}
    (h : ∀ rows, post (.ok rows) s) : Leads post (orEmpty (Storage.getAll k filter)) s := by
  apply Ensures.bind
  apply Ensures.attempt
  exact ensures_getAll (fun rows _ => h rows) (fun _ => h [])

theorem ensures_checkSeats (seatLimit : Option ℕ) (organizationId : Uuid) :
    Leads (fun _ t => t = s) (checkSeats seatLimit organizationId) s := by
  cases seatLimit with
  | none => rfl
  | some max =>
    apply Ensures.bind
    refine ensures_orEmpty (fun members => ?_)
    apply Ensures.bind
    refine ensures_orEmpty (fun pending => ?_)
    dsimp only [Ensures.andThen]
    split_ifs <;> rfl

theorem ensures_checkSendTo (sendTo : Option String) : Leads (fun _ t => t = s) (checkSendTo sendTo) s := by
  cases sendTo with
  | none => rfl
  | some email =>
    apply Ensures.bind
    refine ensures_orEmpty (fun users => ?_)
    dsimp only [Ensures.andThen]
    split_ifs <;> rfl

def Issues (networks : Uuid → List Uuid) (auth : AuthenticatedEntity) (s : Db) : Except ApiError Invite → Db → Prop
  | .error _, t => t = s
  | .ok i, t => Vouches networks auth (offered i) ∧
    ∃ invites : Rows .invite, t = { s with invites } ∧ invites.rows = s.invites.rows ++ [i]

theorem ensures_createInvite (publicUrl : String) (seatLimit : Option ℕ) (request : CreateInviteRequest)
    (hlower : ¬ (auth.permissions = some .admin ∧ request.permissions = .admin))
    (hmanaged : manages request.permissions = true → ∀ organizationId, auth.organizationId = some organizationId →
      ∀ networkId ∈ networks organizationId, networkId ∈ auth.networkIds) :
    Leads (Issues networks auth s) (createInvite publicUrl seatLimit auth request) s := by
  apply Ensures.bind
  refine ensures_authorized (fun organizationId hadmin horg => ?_) (fun _ => rfl)
  apply Ensures.bind
  refine ensures_authorized (fun userId _ _ => ?_) (fun _ => rfl)
  apply Ensures.bind
  refine ensures_permissionsOf (fun permissions hpermissions => ?_) (fun _ => rfl)
  dsimp only [Ensures.andThen]
  split_ifs with hhigher hforeign
  · rfl
  · rfl
  · have hlevel := admin_le hadmin hpermissions
    have hgrantable : request.permissions ∈ grantable auth := by
      refine mem_grantable hpermissions hlevel ?_
      have hnot : ¬ (permissions = .admin ∧ request.permissions = .admin) := by rwa [hpermissions, Option.some.injEq] at hlower
      revert hnot hhigher hlevel
      cases permissions <;> cases request.permissions <;> decide
    apply Ensures.bind
    apply (ensures_checkSeats seatLimit organizationId).imp
    rintro (e | x) t rfl
    · rfl
    apply Ensures.bind
    apply (ensures_checkSendTo request.sendTo).imp
    rintro (e | x) t rfl
    · rfl
    apply Ensures.bind
    intro id _
    apply Ensures.bind
    intro now _
    refine ensures_create (fun hapart => ⟨⟨horg, hgrantable, ?_, ?_⟩, _, rfl, rfl⟩) (fun _ => rfl)
    · intro networkId hmem
      by_contra hnot
      exact hforeign (List.any_eq_true.mpr ⟨networkId, hmem, by simpa using hnot⟩)
    · exact fun hmanages => hmanaged hmanages organizationId horg

/-- What sessions and invites there are may only have become fewer, apart from sessions that say what an invite
offers. -/
structure Kept (s t : Db) : Prop where
  invites : ∀ i ∈ t.invites.rows, i ∈ s.invites.rows
  sessions : ∀ cookie p, (t.sessions cookie).pending = some p →
    (s.sessions cookie).pending = some p ∨ ∃ i ∈ s.invites.rows, offered i = p

/-- Whoever came with the step came by this offer. -/
structure Joined (p : PendingInvite) (s t : Db) : Prop where
  users : ∀ u : User, u ∈ t.users.rows → u ∈ s.users.rows ∨
    u.base.organizationId = p.organizationId ∧ u.base.permissions = p.permissions
  access : ∀ a : UserNetworkAccess, a ∈ t.access.rows → a ∈ s.access.rows ∨ a.base.networkId ∈ p.networkIds

theorem Joined.of_eq {p : PendingInvite} (husers : t.users = s.users) (haccess : t.access = s.access) : Joined p s t :=
  ⟨fun _ hu => .inl (husers ▸ hu), fun _ ha => .inl (haccess ▸ ha)⟩

theorem Joined.rightful {p : PendingInvite} (h : Joined p s t) (hvouches : Vouches networks auth p) :
    Rightful networks auth s t := by
  constructor
  · intro u hu hnot
    obtain ⟨horg, hpermissions⟩ := (h.users u hu).resolve_left hnot
    rw [horg, hpermissions]
    exact ⟨hvouches.organization, .inl hvouches.permissions⟩
  · rintro userId networkId (⟨a, ha, rfl, rfl⟩ | ⟨u, hu, rfl, hmanages, hnetwork⟩)
    · rcases h.access a ha with ha | hoffered
      · exact .inl (.inl ⟨a, ha, rfl, rfl⟩)
      · exact .inr (hvouches.networkIds _ hoffered)
    · rcases h.users u hu with hu | ⟨horg, hpermissions⟩
      · exact .inl (.inr ⟨u, hu, rfl, hmanages, hnetwork⟩)
      · rw [hpermissions] at hmanages
        rw [horg] at hnetwork
        exact .inr (hvouches.managed hmanages networkId hnetwork)

theorem Kept.of_eq (hinvites : t.invites = s.invites) (hsessions : t.sessions = s.sessions) : Kept s t :=
  ⟨fun _ hi => hinvites ▸ hi, fun _ _ hp => .inl (hsessions ▸ hp)⟩

theorem Kept.save (h : Kept s t) {session : Session}
    (hsession : ∀ p, session.pending = some p → ∃ i ∈ s.invites.rows, offered i = p) (cookie : Uuid) :
    Kept s { t with sessions := Function.update t.sessions cookie session } := by
  refine ⟨h.invites, fun cookie' p hp => ?_⟩
  change (Function.update t.sessions cookie session cookie').pending = some p at hp
  by_cases hcookie : cookie' = cookie
  · subst hcookie
    rw [Function.update_self] at hp
    exact .inr (hsession p hp)
  · rw [Function.update_of_ne hcookie] at hp
    exact h.sessions cookie' p hp

/-- Nothing but some of the invites has gone. -/
def Reduced (s t : Db) : Prop := ∃ invites : Rows .invite, t = { s with invites } ∧ ∀ i ∈ invites.rows, i ∈ s.invites.rows

theorem Reduced.refl (s : Db) : Reduced s s := ⟨s.invites, rfl, fun _ hi => hi⟩

theorem Reduced.delete (s : Db) (filter : Invite → Bool) : Reduced s (s.delete .invite filter) :=
  ⟨_, rfl, fun _ hi => List.mem_of_mem_filter hi⟩

theorem Reduced.kept (h : Reduced s t) : Kept s t := by
  obtain ⟨invites, rfl, hinvites⟩ := h
  exact ⟨hinvites, fun _ _ hp => .inl hp⟩

theorem Reduced.joined (h : Reduced s t) (p : PendingInvite) : Joined p s t := by
  obtain ⟨invites, rfl, -⟩ := h
  exact .of_eq rfl rfl

theorem ensures_getValidInvite (id : Uuid) : Leads (fun r t => t = s ∧ ∀ i, r = .ok i → i ∈ s.invites.rows ∧ i.id = id)
    (InviteService.getValidInvite id) s := by
  have herror (e : ApiError) : s = s ∧ ∀ i : Invite, (Except.error e : Except ApiError Invite) = .ok i →
      i ∈ s.invites.rows ∧ i.id = id := ⟨rfl, fun _ h => (nomatch h)⟩
  apply Ensures.bind
  refine ensures_getById (fun found hfound => ?_) herror
  cases found with
  | none => exact herror _
  | some invite =>
    apply Ensures.bind
    intro now _
    change Leads _ (if Invite.isValid invite now then _ else _) s
    split_ifs
    · refine ⟨rfl, fun i hi => ?_⟩
      cases hi
      exact hfound invite rfl
    · exact herror _

theorem ensures_useInvite (id : Uuid) : Leads (fun _ t => Reduced s t) (InviteService.useInvite id) s := by
  have hrefl := Reduced.refl s
  apply Ensures.bind
  refine ensures_getById (fun found hfound => ?_) (fun _ => hrefl)
  cases found with
  | none => exact hrefl
  | some invite =>
    apply Ensures.bind
    intro now _
    change Leads _ (if Invite.isValid invite now then _ else _) s
    split_ifs
    · apply Ensures.bind
      exact ensures_deleteWhere (Reduced.delete s _) (fun _ => hrefl)
    · exact hrefl

theorem ensures_processPendingInvite (session : Session) :
    Leads (fun r t => Reduced s t ∧ ∃ session', r = .ok (session.pending, session') ∧ session'.pending = none)
      (processPendingInvite session) s := by
  unfold processPendingInvite
  cases hpending : session.pending with
  | none => exact ⟨Reduced.refl s, session, rfl, hpending⟩
  | some p =>
    apply Ensures.bind
    apply Ensures.attempt
    apply (ensures_useInvite p.inviteId).imp
    intro _ t hreduced
    exact ⟨hreduced, session.withoutPending, rfl, rfl⟩

theorem ensures_joinAtOnce (cookie userId : Uuid) {session : Session} {p : PendingInvite} (hpending : session.pending = some p) :
    Leads (fun _ t => Kept s t ∧ Joined p s t) (joinAtOnce cookie userId session) s := by
  apply Ensures.bind
  apply (ensures_processPendingInvite session).imp
  rintro r t ⟨hreduced, session', rfl, hnone⟩
  rw [hpending]
  have hsave (t' : Db) (hkept : Kept s t') (hjoined : Joined p s t') :
      Leads (fun _ u => Kept s u ∧ Joined p s u) (saveSession cookie session') t' := by
    intro _ _
    exact ⟨hkept.save (by simp [hnone]) cookie, hjoined.users, hjoined.access⟩
  apply Ensures.bind
  apply Ensures.attempt
  refine ensures_getById (fun found _ => ?_) (fun _ => hsave t hreduced.kept (hreduced.joined p))
  cases found with
  | none => exact hsave t hreduced.kept (hreduced.joined p)
  | some user =>
    apply Ensures.bind
    apply Ensures.attempt
    refine ensures_crudUpdate (fun updated u hrewrote => ?_) (fun _ => hsave t hreduced.kept (hreduced.joined p))
    obtain ⟨invites, rfl, hinvites⟩ := hreduced
    obtain ⟨row, users, rfl, -, horg, hpermissions, -, -, hrows⟩ := hrewrote
    refine hsave _ ⟨hinvites, fun _ _ hp => .inl hp⟩ ⟨fun u hu => ?_, fun _ ha => .inl ha⟩
    change u ∈ users.rows at hu
    rw [hrows] at hu
    rcases List.mem_append.mp hu with hu | hu
    · exact .inl (List.mem_of_mem_filter hu)
    · obtain rfl := List.mem_singleton.mp hu
      exact .inr ⟨horg, hpermissions⟩

theorem ensures_acceptInviteLink (cookie id : Uuid) : Leads (fun _ t => Kept s t ∧
      (t.users = s.users ∧ t.access = s.access ∨ ∃ i ∈ s.invites.rows, i.id = id ∧ Joined (offered i) s t))
    (acceptInviteLink cookie id) s := by
  apply Ensures.bind
  apply (ensures_getValidInvite id).imp
  rintro (e | i) t ⟨rfl, hvalid⟩
  · exact ⟨.of_eq rfl rfl, .inl ⟨rfl, rfl⟩⟩
  · obtain ⟨hmem, rfl⟩ := hvalid i rfl
    apply Ensures.bind
    intro _ _
    change Leads _ _ t
    have hoffered (p : PendingInvite) (hp : ((t.sessions cookie).withPending (offered i)).pending = some p) :
        ∃ j ∈ t.invites.rows, offered j = p := ⟨i, hmem, Option.some.inj hp⟩
    change Leads _ (match (t.sessions cookie).userId with
      | none => saveSession cookie ((t.sessions cookie).withPending (offered i))
      | some userId => _) t
    cases (t.sessions cookie).userId with
    | none =>
      intro _ _
      exact ⟨(Kept.of_eq rfl rfl).save hoffered cookie, .inl ⟨rfl, rfl⟩⟩
    | some userId =>
      have hjoin : Leads (fun _ u => Kept t u ∧
            (u.users = t.users ∧ u.access = t.access ∨ ∃ j ∈ t.invites.rows, j.id = i.id ∧ Joined (offered j) t u))
          (joinAtOnce cookie userId ((t.sessions cookie).withPending (offered i))) t :=
        (ensures_joinAtOnce cookie userId rfl).imp (fun _ u hu => ⟨hu.1, .inr ⟨i, hmem, rfl, hu.2⟩⟩)
      apply Ensures.bind
      apply Ensures.attempt
      refine ensures_getById (fun found _ => ?_) (fun _ => hjoin)
      cases found with
      | none => exact hjoin
      | some user =>
        apply Ensures.bind
        apply Ensures.attempt
        refine ensures_crudDelete ?_ (fun _ => ?_)
        · intro _ _
          exact ⟨(Reduced.delete t _).kept.save hoffered cookie, .inl ⟨rfl, rfl⟩⟩
        · intro _ _
          exact ⟨(Kept.of_eq rfl rfl).save hoffered cookie, .inl ⟨rfl, rfl⟩⟩

theorem ensures_createUser {base : UserBase} {p : PendingInvite} (horg : base.organizationId = p.organizationId)
    (hpermissions : base.permissions = p.permissions) (hnetworks : base.networkIds = p.networkIds) :
    Leads (fun _ t => t.invites = s.invites ∧ t.sessions = s.sessions ∧ Joined p s t) (UserService.create base) s := by
  have hrefl : s.invites = s.invites ∧ s.sessions = s.sessions ∧ Joined p s s := ⟨rfl, rfl, .of_eq rfl rfl⟩
  apply Ensures.bind
  refine ensures_getAll (fun rows _ => ?_) (fun _ => hrefl)
  dsimp only [Ensures.andThen]
  cases rows.head? with
  | some user => exact hrefl
  | none =>
    apply Ensures.bind
    intro id _
    apply Ensures.bind
    intro now _
    apply Ensures.bind
    refine ensures_create (fun hapart => ?_) (fun _ => hrefl)
    have hjoined : Joined p s (s.withTable .user (s.users.insert (columns .user (⟨id, now, now, base⟩ : User)) hapart)) := by
      refine ⟨fun u hu => ?_, fun a ha => .inl ha⟩
      rcases List.mem_append.mp hu with hu | hu
      · exact .inl hu
      · obtain rfl := List.mem_singleton.mp hu
        exact .inr ⟨horg, hpermissions⟩
    cases hempty : base.networkIds.isEmpty with
    | true => exact ⟨rfl, rfl, hjoined⟩
    | false =>
      apply Ensures.bind
      apply (ensures_setNetworkIds id base.networkIds _).imp
      intro r t hassigned
      have hall : t.invites = s.invites ∧ t.sessions = s.sessions ∧ Joined p s t := by
        refine ⟨by rw [hassigned.eq]; rfl, by rw [hassigned.eq]; rfl, fun u hu => ?_, fun a ha => ?_⟩
        · rw [hassigned.eq] at hu
          exact hjoined.users u hu
        · rcases hassigned.added a ha with ha | ⟨-, hmem⟩
          · exact .inl ha
          · exact .inr (hnetworks ▸ hmem)
      cases r with
      | error e => exact hall
      | ok x => exact hall

/-- A registration with a pending invite joins by its offer. -/
theorem ensures_registerUser (r : Registration) (pending : Option PendingInvite) (termsAcceptedAt : Option Instant) :
    Leads (fun _ t => t.invites = s.invites ∧ t.sessions = s.sessions ∧ ∀ p, pending = some p → Joined p s t)
      (registerUser r pending termsAcceptedAt) s := by
  have hrefl : s.invites = s.invites ∧ s.sessions = s.sessions ∧ ∀ p, pending = some p → Joined p s s :=
    ⟨rfl, rfl, fun _ _ => .of_eq rfl rfl⟩
  have hbase (now : Instant) (organizationId : Uuid) (permissions : UserOrgPermissions) (networkIds : List Uuid) :
      (r.base now organizationId permissions networkIds termsAcceptedAt).organizationId = organizationId ∧
        (r.base now organizationId permissions networkIds termsAcceptedAt).permissions = permissions ∧
        (r.base now organizationId permissions networkIds termsAcceptedAt).networkIds = networkIds := by
    cases r <;> exact ⟨rfl, rfl, rfl⟩
  apply Ensures.bind
  refine ensures_getAll (fun users _ => ?_) (fun _ => hrefl)
  dsimp only [Ensures.andThen]
  split_ifs
  · exact hrefl
  · cases pending with
    | none =>
      apply Ensures.bind
      intro organizationId _
      apply Ensures.bind
      intro now _
      obtain ⟨horg, hpermissions, hnetworks⟩ := hbase now organizationId .owner []
      refine (ensures_createUser (p := ⟨organizationId, 0, .owner, []⟩) horg hpermissions hnetworks).imp ?_
      rintro _ t ⟨hinvites, hsessions, -⟩
      exact ⟨hinvites, hsessions, fun _ h => (nomatch h)⟩
    | some p =>
      apply Ensures.bind
      intro now _
      obtain ⟨horg, hpermissions, hnetworks⟩ := hbase now p.organizationId p.permissions p.networkIds
      refine (ensures_createUser horg hpermissions hnetworks).imp ?_
      rintro _ t ⟨hinvites, hsessions, hjoined⟩
      refine ⟨hinvites, hsessions, ?_⟩
      rintro _ ⟨⟩
      exact hjoined

theorem ensures_register (cookie : Uuid) (r : Registration) (termsAcceptedAt : Option Instant) :
    Leads (fun _ t => Kept s t ∧ ∀ p, (s.sessions cookie).pending = some p → Joined p s t)
      (register cookie r termsAcceptedAt) s := by
  apply Ensures.bind
  intro _ _
  apply Ensures.bind
  apply (ensures_processPendingInvite (s.sessions cookie)).imp
  rintro x t ⟨⟨invites, rfl, hinvites⟩, session, rfl, hnone⟩
  apply Ensures.bind
  apply Ensures.attempt
  apply (ensures_registerUser r (s.sessions cookie).pending termsAcceptedAt).imp
  rintro result u ⟨huinvites, husessions, hjoined⟩
  have hkept : Kept s u := by
    refine ⟨fun i hi => hinvites i ?_, fun _ _ hp => .inl ?_⟩
    · rwa [huinvites] at hi
    · rwa [husessions] at hp
  have hjoins : ∀ p, (s.sessions cookie).pending = some p → Joined p s u :=
    fun p hp => ⟨(hjoined p hp).users, (hjoined p hp).access⟩
  have hsave (session' : Session) (hnone' : session'.pending = none) :
      Leads (fun _ v => Kept s v ∧ ∀ p, (s.sessions cookie).pending = some p → Joined p s v) (saveSession cookie session') u := by
    intro _ _
    exact ⟨hkept.save (by simp [hnone']) cookie, fun p hp => ⟨(hjoins p hp).users, (hjoins p hp).access⟩⟩
  cases result with
  | ok user => exact hsave _ hnone
  | error e =>
    cases r with
    | password email passwordHash => exact ⟨hkept, hjoins⟩
    | oidc email subject provider => exact hsave _ hnone

end invitations

section sequences

variable {networks : Uuid → List Uuid} {s t : Db}

/-- The entity of a session is the stored user's. -/
theorem ensures_extractAuth (networks : Uuid → List Uuid) (credentials : Credentials) : Leads (fun r t => t = s ∧ ∀ auth, r = .ok auth →
      auth.isUser = true → ∀ u : User, u ∈ s.users.rows → auth.userId = some u.id →
      auth.organizationId = some u.base.organizationId)
    (extractAuth networks credentials) s := by
  have herror (e : ApiError) : s = s ∧ ∀ auth : AuthenticatedEntity,
      (Except.error e : Except ApiError AuthenticatedEntity) = .ok auth → auth.isUser = true →
      ∀ u : User, u ∈ s.users.rows → auth.userId = some u.id → auth.organizationId = some u.base.organizationId :=
    ⟨rfl, fun _ h => (nomatch h)⟩
  cases credentials with
  | apiKey apiKeyId userId organizationId permissions networkIds =>
    refine ⟨rfl, ?_⟩
    rintro _ ⟨⟩ huser
    cases huser
  | session cookie =>
    apply Ensures.bind
    intro _ _
    change Leads _ (match (s.sessions cookie).userId with
      | none => fail (.unauthorized "Not authenticated")
      | some userId => _) s
    cases (s.sessions cookie).userId with
    | none => exact herror _
    | some userId =>
      apply Ensures.bind
      apply Ensures.attempt
      refine ensures_getById (fun found hfound => ?_) (fun _ => herror _)
      cases found with
      | none => exact herror _
      | some user =>
        obtain ⟨hmem, -⟩ := hfound user rfl
        have hentity (networkIds : List Uuid) : s = s ∧ ∀ auth : AuthenticatedEntity,
            Except.ok (ε := ApiError) (AuthenticatedEntity.user user.id (UserBase.organizationId user.base)
              (UserBase.permissions user.base) networkIds (UserBase.email user.base)) = .ok auth → auth.isUser = true →
            ∀ u : User, u ∈ s.users.rows → auth.userId = some u.id → auth.organizationId = some u.base.organizationId := by
          refine ⟨rfl, ?_⟩
          rintro _ ⟨⟩ - u hu hid
          obtain rfl : user = u := eq_of_id_eq (k := .user) hmem hu (Option.some.inj hid)
          rfl
        dsimp only [Ensures.andThen]
        split_ifs
        · exact hentity _
        · apply Ensures.bind
          apply Ensures.attempt
          exact ensures_getAll (fun rows _ => hentity _) (fun _ => herror _)

/-- Every invite, also one that is only kept in a session, is for its creator to offer. -/
structure Vouched (networks : Uuid → List Uuid) (w : Office) : Prop where
  issued : ∀ x ∈ w.issued, Vouches networks x.1 (offered x.2)
  invites : ∀ i ∈ w.db.invites.rows, ∃ x ∈ w.issued, x.2 = i
  sessions : ∀ cookie p, (w.db.sessions cookie).pending = some p → ∃ x ∈ w.issued, offered x.2 = p

theorem Vouched.of_kept {w : Office} (h : Vouched networks w) (hkept : Kept w.db t) : Vouched networks ⟨t, w.issued⟩ := by
  refine ⟨h.issued, fun i hi => h.invites i (hkept.invites i hi), fun cookie p hp => ?_⟩
  rcases hkept.sessions cookie p hp with hp | ⟨i, hi, rfl⟩
  · exact h.sessions cookie p hp
  · obtain ⟨x, hx, rfl⟩ := h.invites i hi
    exact ⟨x, hx, rfl⟩

/-- A call fails without an effect, or goes on as its caller. -/
theorem run_extractAuth_bind {α : Type} (networks : Uuid → List Uuid) (credentials : Credentials) (answers : Oracle accountSig)
    (f : AuthenticatedEntity → Request α) :
    (∃ e, caller networks s answers credentials = .error e ∧
      (run accountStep answers 0 ((extractAuth networks credentials).bind f) s).result = .error e ∧
      (run accountStep answers 0 ((extractAuth networks credentials).bind f) s).state = s) ∨
    ∃ auth n, caller networks s answers credentials = .ok auth ∧
      (auth.isUser = true → ∀ u : User, u ∈ s.users.rows → auth.userId = some u.id →
        auth.organizationId = some u.base.organizationId) ∧
      run accountStep answers 0 ((extractAuth networks credentials).bind f) s = run accountStep answers n (f auth) s := by
  obtain ⟨hstate, hauth⟩ := (ensures_extractAuth (s := s) networks credentials).run_any answers 0
  rw [run_bind]
  unfold caller
  rcases hrun : run accountStep answers 0 (extractAuth networks credentials) s with ⟨e | auth, n, t⟩
  · rw [hrun] at hstate
    exact .inl ⟨e, rfl, rfl, hstate⟩
  · rw [hrun] at hstate hauth
    obtain rfl : t = s := hstate
    exact .inr ⟨auth, n, rfl, hauth auth rfl, rfl⟩

/-- What a call answers that creates no invite. -/
theorem run_bind_none {α β : Type} (answers : Oracle accountSig) (n : ℕ) (p : Request α) (s : Db) :
    (run accountStep answers n (p.bind (fun _ => (ret none : Request (Option β)))) s).state =
        (run accountStep answers n p s).state ∧
      ∀ x : β, (run accountStep answers n (p.bind (fun _ => ret none)) s).result ≠ .ok (some x) := by
  rw [run_bind]
  rcases run accountStep answers n p s with ⟨e | a, m, t⟩
  · exact ⟨rfl, fun x h => (nomatch h)⟩
  · exact ⟨rfl, fun x h => (nomatch h)⟩

theorem serve_of_no_invite {w : Office} {e : Served}
    (h : ∀ x, (run accountStep e.answers 0 (perform networks e.call) w.db).result ≠ .ok (some x)) :
    serve networks w e = ⟨(run accountStep e.answers 0 (perform networks e.call) w.db).state, w.issued⟩ := by
  unfold serve
  dsimp only
  split
  · exact absurd ‹_› (h _)
  · rfl

theorem Vouched.edit {w : Office} {e : Served} (h : Vouched networks w) {credentials : Credentials} {id : Uuid} {α : Type}
    {f : AuthenticatedEntity → Request α}
    (hcall : perform networks e.call = (extractAuth networks credentials).bind (fun auth => (f auth).bind (fun _ => ret none)))
    (hf : ∀ auth, caller networks w.db e.answers credentials = .ok auth →
      (auth.isUser = true → ∀ u : User, u ∈ w.db.users.rows → auth.userId = some u.id →
        auth.organizationId = some u.base.organizationId) →
      Leads (fun _ t => Edited networks auth id w.db t) (f auth) w.db) :
    Vouched networks (serve networks w e) ∧
      match caller networks w.db e.answers credentials with
      | .ok auth => OnlyNamed auth id w.db (serve networks w e).db ∧ Rightful networks auth w.db (serve networks w e).db
      | .error _ => (serve networks w e).db = w.db := by
  rcases run_extractAuth_bind (s := w.db) networks credentials e.answers
    (fun auth => (f auth).bind (fun _ => (ret none : Request (Option (AuthenticatedEntity × Invite))))) with
    ⟨error, hcaller, hresult, hstate⟩ | ⟨auth, n, hcaller, hauth, hrun⟩
  · rw [← hcall] at hresult hstate
    have hserve : serve networks w e = ⟨w.db, w.issued⟩ := by
      rw [serve_of_no_invite (by rw [hresult]; exact fun x h => (nomatch h)), hstate]
    rw [hserve, hcaller]
    exact ⟨h, rfl⟩
  · rw [← hcall] at hrun
    obtain ⟨hstate, hnone⟩ := run_bind_none e.answers n (f auth) w.db
    have hserve : serve networks w e = ⟨(run accountStep e.answers n (f auth) w.db).state, w.issued⟩ := by
      rw [serve_of_no_invite (by rw [hrun]; exact hnone), hrun, hstate]
    have hedited := (hf auth hcaller hauth).run_any e.answers n
    rw [hserve, hcaller]
    exact ⟨h.of_kept (.of_eq hedited.invites hedited.sessions), hedited.only, hedited.rightful⟩

theorem Vouched.issue {w : Office} (h : Vouched networks w) {credentials : Credentials} {publicUrl : String}
    {seatLimit : Option ℕ} {request : CreateInviteRequest} {answers : Oracle accountSig}
    (hr : Restraint networks w ⟨.createInvite credentials publicUrl seatLimit request, answers⟩) :
    Vouched networks (serve networks w ⟨.createInvite credentials publicUrl seatLimit request, answers⟩) ∧
      Restrained networks w ⟨.createInvite credentials publicUrl seatLimit request, answers⟩
        (serve networks w ⟨.createInvite credentials publicUrl seatLimit request, answers⟩).db := by
  have hcall : perform networks (.createInvite credentials publicUrl seatLimit request) =
      (extractAuth networks credentials).bind (fun auth =>
        (createInvite publicUrl seatLimit auth request).bind (fun invite => ret (some (auth, invite)))) := rfl
  rcases run_extractAuth_bind (s := w.db) networks credentials answers (fun auth =>
    (createInvite publicUrl seatLimit auth request).bind (fun invite => ret (some (auth, invite)))) with
    ⟨error, -, hresult, hstate⟩ | ⟨auth, n, hcaller, -, hrun⟩
  · unfold serve
    dsimp only
    rw [hcall, hresult, hstate]
    exact ⟨h, rfl, rfl⟩
  · obtain ⟨hlower, hmanaged⟩ := hr auth hcaller
    have hissues := (ensures_createInvite (s := w.db) publicUrl seatLimit request hlower hmanaged).run_any answers n
    unfold serve
    dsimp only
    rw [hcall, hrun, run_bind]
    rcases hcreate : run accountStep answers n (createInvite publicUrl seatLimit auth request) w.db with ⟨error | invite, m, t⟩
    · rw [hcreate] at hissues
      obtain rfl : t = w.db := hissues
      exact ⟨h, rfl, rfl⟩
    · rw [hcreate] at hissues
      obtain ⟨hvouches, invites, heq, hrows⟩ := hissues
      change t = _ at heq
      subst heq
      refine ⟨⟨?_, ?_, ?_⟩, rfl, rfl⟩
      · exact List.forall_mem_cons.mpr ⟨hvouches, h.issued⟩
      · intro i hi
        change i ∈ invites.rows at hi
        rw [hrows] at hi
        rcases List.mem_append.mp hi with hi | hi
        · obtain ⟨x, hx, rfl⟩ := h.invites i hi
          exact ⟨x, List.mem_cons_of_mem _ hx, rfl⟩
        · exact ⟨(auth, invite), List.mem_cons_self, (List.mem_singleton.mp hi).symm⟩
      · intro cookie p hp
        obtain ⟨x, hx, hoffered⟩ := h.sessions cookie p hp
        exact ⟨x, List.mem_cons_of_mem _ hx, hoffered⟩

theorem Vouched.step {w : Office} (h : Vouched networks w) {e : Served} (hr : Restraint networks w e) :
    Vouched networks (serve networks w e) ∧ Restrained networks w e (serve networks w e).db := by
  obtain ⟨call, answers⟩ := e
  cases call with
  | updateUser credentials id request =>
    exact h.edit (f := fun auth => updateUser auth id request) rfl (fun auth _ hauth => ensures_updateUser request hauth)
  | adminUpdateUser credentials id request =>
    refine h.edit (f := fun auth => adminUpdateUser auth id request) rfl (fun auth hcaller _ => ?_)
    exact ensures_adminUpdateUser request (fun permissions => hr auth permissions hcaller)
  | createInvite credentials publicUrl seatLimit request => exact h.issue hr
  | acceptInviteLink cookie id =>
    obtain ⟨hstate, hnone⟩ := run_bind_none answers 0 (acceptInviteLink cookie id) w.db
    obtain ⟨hkept, hjoined⟩ := (ensures_acceptInviteLink (s := w.db) cookie id).run_any answers 0
    rw [← hstate] at hkept hjoined
    rw [serve_of_no_invite hnone]
    refine ⟨h.of_kept hkept, hjoined.imp_right ?_⟩
    rintro ⟨i, hi, rfl, hjoined⟩
    obtain ⟨x, hx, rfl⟩ := h.invites i hi
    exact ⟨x, hx, rfl, hjoined.rightful (h.issued x hx)⟩
  | register cookie registration termsAcceptedAt =>
    obtain ⟨hstate, hnone⟩ := run_bind_none answers 0 (register cookie registration termsAcceptedAt) w.db
    obtain ⟨hkept, hjoined⟩ := (ensures_register (s := w.db) cookie registration termsAcceptedAt).run_any answers 0
    rw [← hstate] at hkept hjoined
    rw [serve_of_no_invite hnone]
    refine ⟨h.of_kept hkept, fun p hp => ?_⟩
    obtain ⟨x, hx, rfl⟩ := h.sessions cookie p hp
    exact ⟨x, hx, rfl, (hjoined _ hp).rightful (h.issued x hx)⟩

/-- When no administrator edits the users of another organization, gives a network away that it has no access to, or
invites another administrator, nobody gives what is not theirs to give. -/
theorem nobody_escalates (networks : Uuid → List Uuid) (db : Db) (hinvites : db.invites.rows = [])
    (hsessions : ∀ cookie, (db.sessions cookie).pending = none) (calls : List Served)
    (hr : Meets (serve networks) (Restraint networks) ⟨db, []⟩ calls) :
    Meets (serve networks) (fun w e => Restrained networks w e (serve networks w e).db) ⟨db, []⟩ calls := by
  have hstart : Vouched networks ⟨db, []⟩ := by
    refine ⟨by simp, by simp [hinvites], fun cookie p hp => ?_⟩
    rw [hsessions cookie] at hp
    cases hp
  exact hr.each (Vouched networks) (fun w e hw he => hw.step he) hstart

def memberOf (organizationId id : Uuid) (permissions : UserOrgPermissions) (email : String) : User :=
  ⟨id, 0, 0, ⟨email, organizationId, permissions, none, none, none, none, [], none⟩⟩

/-- Two organizations: an administrator of 9, who has a session, and members of 9 and of 10. -/
def twoOrganizations : Db where
  users := ⟨[memberOf 9 1 .admin "a", memberOf 9 2 .member "b", memberOf 10 3 .member "c"], by decide⟩
  access := .empty
  invites := .empty
  sessions := fun cookie => if cookie = 0 then { Session.new with userId := some 1 } else .new

def networksOf (organizationId : Uuid) : List Uuid := if organizationId = 9 then [90] else [100]

/-- The administrator makes this user of that organization a viewer. -/
def demotion (id organizationId : Uuid) : Served :=
  ⟨.adminUpdateUser (.session 0) id (memberOf organizationId id .viewer ""), granted 8⟩

theorem nobody_escalates_within_organization :
    Meets (serve networksOf) (fun w e => Restrained networksOf w e (serve networksOf w e).db) ⟨twoOrganizations, []⟩
      [demotion 2 9] := by
  refine nobody_escalates networksOf twoOrganizations rfl ?_ [demotion 2 9] ⟨?_, trivial⟩
  · intro cookie
    unfold twoOrganizations
    dsimp only
    split_ifs <;> rfl
  · intro auth permissions hcaller _ _ u _ _ _ _ horg
    have hadministrator : caller networksOf twoOrganizations (granted 8) (.session 0) = .ok (.user 1 9 .admin [90] "a") := by
      decide +kernel
    obtain rfl := Except.ok.inj (hadministrator.symm.trans hcaller)
    refine ⟨congrArg some horg, ?_⟩
    rintro networkId (h | ⟨h, -⟩)
    · cases h
    · cases h

/-- An administrator demotes the member of another organization. -/
theorem administrator_edits_elsewhere : ¬ ∀ (networks : Uuid → List Uuid) (db : Db) (calls : List Served),
    db.invites.rows = [] → (∀ cookie, (db.sessions cookie).pending = none) →
    Meets (serve networks) (fun w e => Restrained networks w e (serve networks w e).db) ⟨db, []⟩ calls := by
  intro h
  have hsessions (cookie : Uuid) : (twoOrganizations.sessions cookie).pending = none := by
    unfold twoOrganizations
    dsimp only
    split_ifs <;> rfl
  have hrestrained := (h networksOf twoOrganizations [demotion 3 10] rfl hsessions).1
  unfold Restrained demotion at hrestrained
  dsimp only at hrestrained
  rw [show caller networksOf twoOrganizations (granted 8) (.session 0) = .ok (.user 1 9 .admin [90] "a") by decide +kernel] at hrestrained
  have hedited := hrestrained.1.users (memberOf 10 3 .member "c") (by decide +kernel)
  exact absurd hedited.2 (by decide)

end sequences

end VantageNet.Accounts
