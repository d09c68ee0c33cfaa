import Mathlib.Tactic.Common
import VantageNet.ApiKeys.Requesting

/-!
An API key has no more than its user has, as long as no administrator takes from a user what one of the user's keys has.
-/

namespace VantageNet.ApiKeys

open Interaction Interaction.Program
open Events (AuthenticatedEntity UserOrgPermissions)
open Accounts (User UserNetworkAccess UserCall accountSig accountStep manages)

/-- `p` runs from `s`, whatever the environment answers. -/
abbrev Leads {α : Type} (post : Except Failure α → Db → Prop) (p : Task α) (s : Db) : Prop :=
  Ensures keyStep (fun _ _ _ => True) post p s

section operations

variable {s : Db} {α : Type}

theorem ensures_orFail {r : Except Failure α} {post : Except Failure α → Db → Prop}
    (hok : ∀ a, r = .ok a → post (.ok a) s) (herror : ∀ e, post (.error e) s) : Leads post (orFail r) s := by
  cases r with
  | error e => exact herror e
  | ok a => exact hok a rfl

theorem ensures_found {missing : Failure} {a : Option α} {post : Except Failure α → Db → Prop}
    (hok : ∀ x, a = some x → post (.ok x) s) (herror : ∀ e, post (.error e) s) : Leads post (found missing a) s := by
  cases a with
  | none => exact herror missing
  | some x => exact hok x rfl

theorem ensures_utcNow {post : Except Failure Instant → Db → Prop} (h : ∀ now, post (.ok now) s) : Leads post utcNow s :=
  fun now _ => h now

theorem ensures_generateApiKey {t : ApiKeyType} {post : Except Failure (String × String) → Db → Prop}
    (h : ∀ generated, post (.ok generated) s) : Leads post (generateApiKeyForStorage t) s := fun generated _ => h generated

theorem ensures_getById {t : ApiKeyType} {id : Uuid} {post : Except Failure (Option (ApiKey t)) → Db → Prop}
    (hok : ∀ found, (∀ key, found = some key → ∃ row ∈ (s.keys t).rows, ApiKeyCommon.id row = id ∧ key = ApiKeyCommon.row row) →
      post (.ok found) s) (herror : ∀ e, post (.error e) s) : Leads post (getById t id) s := by
  intro answer _
  cases answer with
  | error e => exact herror e
  | ok x =>
    refine hok _ (fun key hkey => ?_)
    obtain ⟨row, hrow, rfl⟩ := Option.map_eq_some_iff.mp hkey
    exact ⟨row, List.mem_of_find?_eq_some hrow, by simpa using List.find?_some hrow, rfl⟩

theorem ensures_getOne {t : ApiKeyType} {hashedKey : String} {post : Except Failure (Option (ApiKey t)) → Db → Prop}
    (hok : ∀ found, (∀ key, found = some key → ∃ row ∈ (s.keys t).rows, key = ApiKeyCommon.row row) → post (.ok found) s)
    (herror : ∀ e, post (.error e) s) : Leads post (getOne t hashedKey) s := by
  intro answer _
  cases answer with
  | error e => exact herror e
  | ok x =>
    refine hok _ (fun key hkey => ?_)
    obtain ⟨row, hrow, rfl⟩ := Option.map_eq_some_iff.mp hkey
    exact ⟨row, List.mem_of_find?_eq_some hrow, rfl⟩

theorem ensures_getForKey {apiKeyId : Uuid} {post : Except Failure (List Uuid) → Db → Prop}
    (hok : post (.ok (s.networkIds apiKeyId)) s) (herror : ∀ e, post (.error e) s) : Leads post (getForKey apiKeyId) s := by
  intro answer _
  cases answer with
  | error e => exact herror e
  | ok x => exact hok

theorem mem_networkIds {apiKeyId networkId : Uuid} : networkId ∈ s.networkIds apiKeyId ↔ (apiKeyId, networkId) ∈ s.access := by
  simp [Db.networkIds]

end operations

section covered

variable (networks : Uuid → List Uuid) (accounts : Accounts.Db)

/-- The users have at least what their keys have. -/
structure Covered (s : Db) : Prop where
  permissions : ∀ key : UserApiKey, key ∈ (s.keys .user).rows → Holds accounts key.base.userId key.base.permissions
  access : ∀ a ∈ s.access, ∃ key : UserApiKey, key ∈ (s.keys .user).rows ∧ key.id = a.1 ∧
    Reaches networks accounts key.base.userId a.2

/-- The row may be stored: the user has its permissions, and it stays the user's. -/
def Storable (s : Db) : (t : ApiKeyType) → ApiKey t → Prop
  | .user, key => Holds accounts (key : UserApiKey).base.userId (key : UserApiKey).base.permissions ∧
      ∀ existing : UserApiKey, existing ∈ (s.keys .user).rows → existing.id = (key : UserApiKey).id →
        existing.base.userId = (key : UserApiKey).base.userId
  | .daemon, _ => True

variable {networks accounts} {s : Db} {t : ApiKeyType} {purpose : Purpose} {read key : ApiKey t}

theorem Covered.reaches (h : Covered networks accounts s) {key : UserApiKey} (hkey : key ∈ (s.keys .user).rows)
    {networkId : Uuid} (hnetwork : (key.id, networkId) ∈ s.access) : Reaches networks accounts key.base.userId networkId := by
  obtain ⟨key', hkey', hid, hreaches⟩ := h.access _ hnetwork
  obtain rfl : key' = key := KeyTable.eq_of_id_eq hkey' hkey hid
  exact hreaches

theorem Covered.updated (h : Covered networks accounts s) (hs : Storable accounts s t key)
    (answer : Except Failure Unit) : Covered networks accounts (keyStep (.update t purpose read key) answer s).2 := by
  cases answer with
  | error e => exact h
  | ok u =>
    unfold keyStep
    dsimp only
    split
    · exact h
    · split_ifs with hadmits
      · cases t with
        | daemon => exact ⟨h.permissions, h.access⟩
        | user =>
          refine ⟨fun k hk => ?_, fun a ha => ?_⟩
          · rcases KeyTable.mem_put (t := s.keys .user) (h := hadmits) hk with ⟨rfl, -⟩ | ⟨hk, -⟩
            · exact hs.1
            · exact h.permissions k hk
          · obtain ⟨k, hk, hid, hreaches⟩ := h.access a ha
            by_cases hsame : k.id = (key : UserApiKey).id
            · refine ⟨ApiKeyCommon.row (key : UserApiKey), List.mem_map.mpr ⟨k, hk, if_pos hsame⟩, hsame.symm.trans hid, ?_⟩
              exact hs.2 k hk hsame ▸ hreaches
            · exact ⟨k, List.mem_map.mpr ⟨k, hk, if_neg hsame⟩, hid, hreaches⟩
      · exact h

theorem Covered.created (h : Covered networks accounts s) {key : UserApiKey}
    (hright : Holds accounts key.base.userId key.base.permissions) (answer : Except Failure Unit) :
    Covered networks accounts (keyStep (.create key) answer s).2 ∧
      ((keyStep (.create key) answer s).1 = .ok () →
        ∃ row : UserApiKey, row ∈ ((keyStep (.create key) answer s).2.keys .user).rows ∧ row.id = key.id ∧
          row.base.userId = key.base.userId) := by
  cases answer with
  | error e => exact ⟨h, fun heq => (by cases heq)⟩
  | ok u =>
    unfold keyStep
    dsimp only
    split_ifs with hapart
    · refine ⟨⟨fun k hk => ?_, fun a ha => ?_⟩, fun _ => ?_⟩
      · rcases List.mem_append.mp hk with hk | hk
        · exact h.permissions k hk
        · rw [List.mem_singleton.mp hk]
          exact hright
      · obtain ⟨k, hk, hid, hreaches⟩ := h.access a ha
        exact ⟨k, List.mem_append_left _ hk, hid, hreaches⟩
      · exact ⟨ApiKeyCommon.row key, List.mem_append_right _ (List.mem_singleton.mpr rfl), rfl, rfl⟩
    · exact ⟨h, fun heq => (by cases heq)⟩

theorem ensures_update (h : Covered networks accounts s) (hs : Storable accounts s t key) :
    Leads (fun _ u => Covered networks accounts u) (update t purpose read key) s := by
  apply Ensures.bind
  refine ensures_getById (fun current _ => ?_) (fun _ => h)
  apply Ensures.bind
  refine ensures_found (fun x _ => ?_) (fun _ => h)
  apply Ensures.bind
  refine ensures_utcNow (fun now => ?_)
  apply Ensures.bind
  intro answer _
  have hs' : Storable accounts s t (ApiKeyCommon.setUpdatedAt key now) := by cases t <;> exact hs
  exact ensures_orFail (fun _ _ => h.updated hs' answer) (fun _ => h.updated hs' answer)

theorem ensures_writeBack (h : Covered networks accounts s) (hs : Storable accounts s t key) :
    Leads (fun _ u => Covered networks accounts u) (writeBack t purpose read key) s := by
  apply Ensures.bind
  apply Ensures.attempt
  exact ensures_update h hs

theorem ensures_validated (h : Covered networks accounts s) (hs : Storable accounts s t key) :
    Leads (fun r u => (r = .ok () → u = s) ∧ Covered networks accounts u) (validated t key) s := by
  apply Ensures.bind
  refine ensures_utcNow (fun now => ?_)
  dsimp only [Ensures.andThen]
  cases checkKeyValidity key now with
  | ok u => exact ⟨fun _ => rfl, h⟩
  | error e =>
    apply Ensures.bind
    refine ensures_utcNow (fun later => ?_)
    apply Ensures.bind
    have hs' : Storable accounts s t (ApiKeyCommon.setIsEnabled key false) := by cases t <;> exact hs
    cases isExpired key later with
    | false => exact ⟨nofun, h⟩
    | true =>
      apply (ensures_writeBack h hs').imp
      rintro (e | u) v hv
      · exact ⟨nofun, hv⟩
      · exact ⟨nofun, hv⟩

theorem ensures_touch (h : Covered networks accounts s) (hs : Storable accounts s t key) :
    Leads (fun _ u => Covered networks accounts u) (touch t key) s := by
  apply Ensures.bind
  refine ensures_utcNow (fun now => ensures_writeBack h ?_)
  cases t <;> exact hs

end covered

section authentication

variable {networks : Uuid → List Uuid} {accounts : Accounts.Db} {s : Db}

/-- What authentication comes to. -/
def Authenticates (networks : Uuid → List Uuid) (accounts : Accounts.Db) (r : Except Failure AuthenticatedEntity) (u : Db) :
    Prop := Covered networks accounts u ∧ ∀ auth, r = .ok auth → Within networks accounts auth

theorem Authenticates.error (h : Covered networks accounts s) (e : Failure) : Authenticates networks accounts (.error e) s :=
  ⟨h, fun _ heq => (nomatch heq)⟩

theorem ensures_requireApiAccess {organizationId : Uuid} {post : Except Failure Unit → Db → Prop} (hok : post (.ok ()) s)
    (herror : ∀ e, post (.error e) s) : Leads post (requireApiAccess organizationId) s := by
  intro answer _
  rcases answer with e | _ | _ | _ | _
  · exact herror _
  · exact herror _
  · exact herror _
  · exact herror _
  · exact hok

theorem storable_of_row (h : Covered networks accounts s) {key row : UserApiKey} (hrow : row ∈ (s.keys .user).rows)
    (hid : key.id = row.id) (huser : key.base.userId = row.base.userId)
    (hpermissions : key.base.permissions = row.base.permissions) : Storable accounts s .user key := by
  refine ⟨?_, fun existing hexisting hsame => ?_⟩
  · rw [huser, hpermissions]
    exact h.permissions row hrow
  · obtain rfl : existing = row := KeyTable.eq_of_id_eq hexisting hrow (hsame.trans hid)
    exact huser.symm

theorem ensures_acceptUserKey (h : Covered networks accounts s) {key row : UserApiKey} (hrow : row ∈ (s.keys .user).rows)
    (hid : key.id = row.id) (huser : key.base.userId = row.base.userId)
    (hpermissions : key.base.permissions = row.base.permissions) :
    Leads (Authenticates networks accounts) (acceptUserKey key) s := by
  have hs := storable_of_row h hrow hid huser hpermissions
  apply Ensures.bind
  apply (ensures_validated h hs).imp
  rintro (e | x) u ⟨hsame, hu⟩
  · exact .error hu e
  obtain rfl := hsame rfl
  apply Ensures.bind
  refine ensures_requireApiAccess ?_ (.error h)
  have hentity : ∀ networkIds : List Uuid, (∀ networkId ∈ networkIds, networkId ∈ u.networkIds key.id) →
      Leads (Authenticates networks accounts) ((touch .user key).bind (fun _ =>
        ret (.apiKey key.id key.base.userId key.base.organizationId key.base.permissions networkIds))) u := by
    intro networkIds hmem
    apply Ensures.bind
    apply (ensures_touch h hs).imp
    rintro (e | x) v hv
    · exact .error hv e
    · refine ⟨hv, ?_⟩
      rintro _ ⟨⟩
      refine ⟨hs.1, fun networkId hnetwork => ?_⟩
      rw [huser]
      exact h.reaches hrow (hid ▸ mem_networkIds.mp (hmem networkId hnetwork))
  apply Ensures.bind
  apply Ensures.attempt
  exact ensures_getForKey (hentity _ (fun _ hmem => hmem)) (fun _ => hentity _ (fun _ hmem => absurd hmem List.not_mem_nil))

theorem ensures_acceptDaemonKey (h : Covered networks accounts s) (daemonId : Uuid) (key : DaemonApiKey) :
    Leads (Authenticates networks accounts) (acceptDaemonKey daemonId key) s := by
  apply Ensures.bind
  apply (ensures_validated (t := .daemon) h trivial).imp
  rintro (e | x) u ⟨-, hu⟩
  · exact .error hu e
  apply Ensures.bind
  apply (ensures_touch (t := .daemon) hu trivial).imp
  rintro (e | x) v hv
  · exact .error hv e
  · refine ⟨hv, ?_⟩
    rintro _ ⟨⟩
    trivial

theorem ensures_getByKey (hashedKey : String) {post : Except Failure (Option UserApiKey) → Db → Prop}
    (hok : ∀ found, (∀ key, found = some key → ∃ row : UserApiKey, row ∈ (s.keys .user).rows ∧ key.id = row.id ∧
      key.base.userId = row.base.userId ∧ key.base.permissions = row.base.permissions) → post (.ok found) s)
    (herror : ∀ e, post (.error e) s) : Leads post (getByKey hashedKey) s := by
  apply Ensures.bind
  refine ensures_getOne (fun found hfound => ?_) herror
  cases found with
  | none => exact hok none (fun _ heq => (nomatch heq))
  | some key =>
    obtain ⟨row, hrow, rfl⟩ := hfound key rfl
    apply Ensures.bind
    refine ensures_getForKey (hok _ ?_) herror
    rintro _ ⟨⟩
    exact ⟨row, hrow, rfl, rfl, rfl⟩

theorem ensures_authenticate (h : Covered networks accounts s) (hashApiKey : String → String) (apiKeyRaw : String)
    (daemonId : Option Uuid) :
    Leads (Authenticates networks accounts) (authenticate hashApiKey apiKeyRaw daemonId) s := by
  unfold authenticate
  cases ApiKeyType.fromKey apiKeyRaw with
  | user =>
    apply Ensures.bind
    apply Ensures.attempt
    refine ensures_getByKey _ (fun found hfound => ?_) (fun _ => .error h _)
    cases found with
    | none => exact .error h _
    | some key =>
      obtain ⟨row, hrow, hid, huser, hpermissions⟩ := hfound key rfl
      exact ensures_acceptUserKey h hrow hid huser hpermissions
  | daemon =>
    cases daemonId with
    | none => exact .error h _
    | some daemonId =>
      apply Ensures.bind
      apply Ensures.attempt
      refine ensures_getOne (fun found _ => ?_) (fun _ => .error h _)
      cases found with
      | none => exact .error h _
      | some key => exact ensures_acceptDaemonKey h daemonId key

end authentication

section handlers

variable {networks : Uuid → List Uuid} {accounts : Accounts.Db} {s : Db} {auth : AuthenticatedEntity}

theorem Within.of_user (h : Within networks accounts auth) {userId : Uuid} {permissions : UserOrgPermissions}
    (huser : auth.userId = some userId) (hpermissions : auth.permissions = some permissions) :
    Holds accounts userId permissions ∧ ∀ networkId ∈ auth.networkIds, Reaches networks accounts userId networkId := by
  cases auth with
  | user | apiKey =>
    obtain rfl := Option.some.inj huser
    obtain rfl := Option.some.inj hpermissions
    exact h
  | daemon | system | anonymous => exact nomatch huser

theorem Holds.le {userId : Uuid} {permissions lower : UserOrgPermissions} (h : Holds accounts userId permissions)
    (hle : lower ≤ permissions) : Holds accounts userId lower :=
  let ⟨user, huser, hid, hpermissions⟩ := h
  ⟨user, huser, hid, hle.trans hpermissions⟩

theorem le_of_validatePermissions {keyPermissions userPermissions : UserOrgPermissions} {u : Unit}
    (h : validatePermissions keyPermissions userPermissions = .ok u) : keyPermissions ≤ userPermissions := by
  unfold validatePermissions at h
  split_ifs at h with hlt
  exact not_lt.mp hlt

theorem mem_of_validateNetworkAccess {keyNetworkIds userNetworkIds : List Uuid} {u : Unit}
    (h : validateNetworkAccess keyNetworkIds userNetworkIds = .ok u) : ∀ networkId ∈ keyNetworkIds, networkId ∈ userNetworkIds := by
  unfold validateNetworkAccess at h
  split at h
  · exact nomatch h
  · next hnone =>
    intro networkId hmem
    simpa using List.find?_eq_none.mp hnone networkId hmem

theorem ensures_authorizedUser {post : Except Failure Unit → Db → Prop} (hok : post (.ok ()) s)
    (herror : ∀ e, post (.error e) s) : Leads post (authorizedUser auth) s := by
  unfold authorizedUser
  split_ifs
  · exact hok
  · exact herror _

/-- The networks of a key of this user are replaced. -/
theorem ensures_saveForKey (h : Covered networks accounts s) {apiKeyId userId : Uuid} {networkIds : List Uuid}
    (hkey : ∃ row : UserApiKey, row ∈ (s.keys .user).rows ∧ row.id = apiKeyId ∧ row.base.userId = userId)
    (hreaches : ∀ networkId ∈ networkIds, Reaches networks accounts userId networkId) :
    Leads (fun _ u => Covered networks accounts u ∧ u.keys = s.keys) (saveForKey apiKeyId networkIds) s := by
  apply Ensures.bind
  intro answer _
  cases answer with
  | error e => exact ⟨h, rfl⟩
  | ok x =>
    refine Ensures.forEach (fun _ u => Covered networks accounts u ∧ u.keys = s.keys) networkIds ?_ ?_ (fun _ hu => hu)
    · rintro done networkId rest heq u ⟨hu, hkeys⟩ answer -
      cases answer with
      | error e => exact ⟨hu, hkeys⟩
      | ok x =>
        unfold keyStep
        dsimp only
        split_ifs
        · refine ⟨⟨hu.permissions, fun a ha => ?_⟩, hkeys⟩
          rcases List.mem_append.mp ha with ha | ha
          · exact hu.access a ha
          · obtain ⟨row, hrow, hid, rfl⟩ := hkey
            rw [List.mem_singleton.mp ha]
            exact ⟨row, hkeys ▸ hrow, hid, hreaches networkId (by simp [heq])⟩
        · exact ⟨hu, hkeys⟩
    · exact ⟨⟨h.permissions, fun a ha => h.access a (List.mem_of_mem_filter ha)⟩, rfl⟩

theorem ensures_identified {key : UserApiKey} {post : Except Failure UserApiKey → Db → Prop}
    (h : ∀ created : UserApiKey, created.base = key.base → post (.ok created) s) : Leads post (identified key) s := by
  unfold identified
  split_ifs
  · exact fun now _ id _ => h _ rfl
  · exact h _ rfl

theorem ensures_createWithNetworks (h : Covered networks accounts s) {key : UserApiKey} {networkIds : List Uuid}
    (hright : Holds accounts key.base.userId key.base.permissions)
    (hreaches : ∀ networkId ∈ networkIds, Reaches networks accounts key.base.userId networkId) :
    Leads (fun _ u => Covered networks accounts u) (createWithNetworks key networkIds) s := by
  apply Ensures.bind
  refine ensures_identified (fun created hbase => ?_)
  apply Ensures.bind
  intro answer _
  rw [← hbase] at hright
  obtain ⟨hcovered, hmade⟩ := h.created hright answer
  refine ensures_orFail (fun _ hok => ?_) (fun _ => hcovered)
  obtain ⟨row, hrow, hid, huser⟩ := hmade hok
  apply Ensures.bind
  cases !networkIds.isEmpty with
  | false => exact hcovered
  | true =>
    apply (ensures_saveForKey hcovered ⟨row, hrow, hid, huser.trans (congrArg UserApiKeyBase.userId hbase)⟩ hreaches).imp
    rintro (e | x) u hu
    · exact hu.1
    · exact hu.1

theorem ensures_createUserApiKey (h : Covered networks accounts s) (hauth : Within networks accounts auth)
    (key : UserApiKey) : Leads (fun _ u => Covered networks accounts u) (createUserApiKey auth key) s := by
  apply Ensures.bind
  refine ensures_authorizedUser ?_ (fun _ => h)
  apply Ensures.bind
  refine ensures_found (fun userId huser => ?_) (fun _ => h)
  apply Ensures.bind
  refine ensures_found (fun organizationId _ => ?_) (fun _ => h)
  apply Ensures.bind
  refine ensures_found (fun userPermissions hpermissions => ?_) (fun _ => h)
  obtain ⟨hholds, hreaches⟩ := hauth.of_user huser hpermissions
  apply Ensures.bind
  refine ensures_orFail (fun _ hvalid => ?_) (fun _ => h)
  apply Ensures.bind
  refine ensures_orFail (fun _ hnetworks => ?_) (fun _ => h)
  apply Ensures.bind
  refine ensures_generateApiKey (fun ⟨plaintext, hashed⟩ => ?_)
  apply Ensures.bind
  apply (ensures_createWithNetworks h (hholds.le (le_of_validatePermissions hvalid))
    (fun networkId hmem => hreaches networkId (mem_of_validateNetworkAccess hnetworks networkId hmem))).imp
  rintro (e | created) u hu
  · exact hu
  · exact hu

theorem ensures_updateUserApiKey (h : Covered networks accounts s) (hauth : Within networks accounts auth) (id : Uuid)
    (request : UserApiKey) : Leads (fun _ u => Covered networks accounts u) (updateUserApiKey auth id request) s := by
  apply Ensures.bind
  refine ensures_authorizedUser ?_ (fun _ => h)
  apply Ensures.bind
  refine ensures_found (fun userId huser => ?_) (fun _ => h)
  apply Ensures.bind
  refine ensures_found (fun userPermissions hpermissions => ?_) (fun _ => h)
  obtain ⟨hholds, hreaches⟩ := hauth.of_user huser hpermissions
  apply Ensures.bind
  refine ensures_getById (fun current hcurrent => ?_) (fun _ => h)
  apply Ensures.bind
  refine ensures_found (fun existing hexisting => ?_) (fun _ => h)
  obtain ⟨row, hrow, hid, rfl⟩ := hcurrent existing hexisting
  apply Ensures.bind
  refine ensures_orFail (fun _ howned => ?_) (fun _ => h)
  replace howned : (row : UserApiKey).base.userId = userId := by
    by_contra hne
    rw [if_neg (show ¬ (ApiKeyCommon.row (row : UserApiKey)).base.userId = userId from hne)] at howned
    exact nomatch howned
  apply Ensures.bind
  refine ensures_orFail (fun _ hvalid => ?_) (fun _ => h)
  apply Ensures.bind
  refine ensures_orFail (fun _ hnetworks => ?_) (fun _ => h)
  apply Ensures.bind
  apply (ensures_saveForKey h ⟨row, hrow, hid, howned⟩
    (fun networkId hmem => hreaches networkId (mem_of_validateNetworkAccess hnetworks networkId hmem))).imp
  rintro (e | x) u ⟨hu, hkeys⟩
  · exact hu
  apply Ensures.bind
  have hs : Storable accounts u .user (UserApiKey.preserveImmutableFields request (ApiKeyCommon.row (row : UserApiKey))) := by
    refine ⟨?_, fun existing hexisting hsame => ?_⟩
    · change Holds accounts (row : UserApiKey).base.userId request.base.permissions
      rw [howned]
      exact hholds.le (le_of_validatePermissions hvalid)
    · rw [hkeys] at hexisting
      obtain rfl : existing = row := KeyTable.eq_of_id_eq hexisting hrow hsame
      rfl
  apply (ensures_update hu hs).imp
  rintro (e | updated) v hv
  · exact hv
  · exact hv

end handlers

section users

variable {networks : Uuid → List Uuid} {s t u : Accounts.Db} {α : Type}

theorem ensures_session (networks : Uuid → List Uuid) (cookie : Uuid) (s : Accounts.Db) :
    Accounts.Leads (fun r t => t = s ∧ ∀ auth, r = .ok auth → Within networks s auth)
      (Accounts.extractAuth networks (.session cookie)) s := by
  have herror (e : Accounts.ApiError) : s = s ∧ ∀ auth : AuthenticatedEntity,
      (Except.error e : Except Accounts.ApiError AuthenticatedEntity) = .ok auth → Within networks s auth :=
    ⟨rfl, fun _ h => (by cases h)⟩
  apply Ensures.bind
  intro _ _
  change Ensures.andThen _ _ (.ok (s.sessions cookie)) s
  dsimp only [Ensures.andThen]
  cases (s.sessions cookie).userId with
  | none => exact herror _
  | some userId =>
    apply Ensures.bind
    apply Ensures.attempt
    refine Accounts.ensures_getById (fun found hfound => ?_) (fun _ => herror _)
    cases found with
    | none => exact herror _
    | some user =>
      obtain ⟨hmem, -⟩ := hfound user rfl
      dsimp only [Ensures.andThen]
      split_ifs with hmanages
      · refine ⟨rfl, ?_⟩
        rintro _ ⟨⟩
        exact ⟨⟨user, hmem, rfl, le_refl _⟩, fun networkId hnetwork => ⟨user, hmem, rfl, by rwa [if_pos hmanages]⟩⟩
      · apply Ensures.bind
        apply Ensures.attempt
        refine Accounts.ensures_getAll (fun rows hrows => ⟨rfl, ?_⟩) (fun _ => herror _)
        rintro _ ⟨⟩
        refine ⟨⟨user, hmem, rfl, le_refl _⟩, fun networkId hnetwork => ⟨user, hmem, rfl, ?_⟩⟩
        obtain ⟨a, ha, rfl⟩ := List.mem_map.mp hnetwork
        rw [if_neg hmanages]
        exact ⟨a, (hrows a ha).1, of_decide_eq_true (hrows a ha).2, rfl⟩

/-- Whoever is still a user has what they had. -/
structure Upheld (networks : Uuid → List Uuid) (s t : Accounts.Db) : Prop where
  has : ∀ id, t.has .user id = true → s.has .user id = true
  holds : ∀ userId permissions, t.has .user userId = true → Holds s userId permissions → Holds t userId permissions
  reaches : ∀ userId networkId, t.has .user userId = true → Reaches networks s userId networkId →
    Reaches networks t userId networkId

theorem Upheld.refl (networks : Uuid → List Uuid) (s : Accounts.Db) : Upheld networks s s :=
  ⟨fun _ h => h, fun _ _ _ h => h, fun _ _ _ h => h⟩

theorem Upheld.trans (h : Upheld networks s t) (h' : Upheld networks t u) : Upheld networks s u where
  has id hu := h.has id (h'.has id hu)
  holds userId permissions hu hs := h'.holds userId permissions hu (h.holds userId permissions (h'.has userId hu) hs)
  reaches userId networkId hu hs := h'.reaches userId networkId hu (h.reaches userId networkId (h'.has userId hu) hs)

theorem has_iff {userId : Uuid} : s.has .user userId = true ↔ ∃ user : User, user ∈ s.users.rows ∧ user.id = userId := by
  simp [Accounts.Db.has, Accounts.Db.table]

theorem Upheld.delete (s : Accounts.Db) (p : User → Bool) : Upheld networks s (s.delete .user p) := by
  have hspared : ∀ (userId : Uuid) (user : User), (s.delete .user p).has .user userId = true → user ∈ s.users.rows →
      user.id = userId → p user = false := by
    intro userId user hhas hmem hid
    obtain ⟨other, hother, hotherId⟩ := has_iff.mp hhas
    obtain ⟨hmem', hp⟩ := List.mem_filter.mp hother
    obtain rfl : other = user := Accounts.eq_of_id_eq (k := .user) hmem' hmem (hotherId.trans hid.symm)
    simpa using hp
  have hkept : ∀ (user : User), user ∈ s.users.rows → p user = false → user ∈ (s.delete .user p).users.rows :=
    fun user hmem hp => List.mem_filter.mpr ⟨hmem, by simpa using hp⟩
  refine ⟨fun id hhas => ?_, ?_, ?_⟩
  · obtain ⟨user, hmem, hid⟩ := has_iff.mp hhas
    exact has_iff.mpr ⟨user, List.mem_of_mem_filter hmem, hid⟩
  · rintro userId permissions hhas ⟨user, hmem, hid, hle⟩
    exact ⟨user, hkept user hmem (hspared userId user hhas hmem hid), hid, hle⟩
  · rintro userId networkId hhas ⟨user, hmem, hid, hreaches⟩
    refine ⟨user, hkept user hmem (hspared userId user hhas hmem hid), hid, ?_⟩
    split_ifs at hreaches ⊢ with hmanages
    · exact hreaches
    · obtain ⟨a, ha, hauser, hanetwork⟩ := hreaches
      refine ⟨a, List.mem_filter.mpr ⟨ha, ?_⟩, hauser, hanetwork⟩
      simp only [Bool.not_eq_true', List.any_eq_false, Bool.and_eq_true, decide_eq_true_eq, not_and]
      intro other hother hp hotherId
      have := hspared userId other hhas hother (hotherId.trans hauser)
      rw [this] at hp
      exact nomatch hp

/-- The users who are left keep what their keys have. -/
theorem Covered.ofUsers {keys : Db} (h : Covered networks s keys) (hu : Upheld networks s t) :
    Covered networks t (keys.ofUsers t) where
  permissions key hkey := by
    obtain ⟨hmem, hhas⟩ := List.mem_filter.mp hkey
    exact hu.holds _ _ hhas (h.permissions key hmem)
  access a ha := by
    obtain ⟨hmem, hany⟩ := List.mem_filter.mp ha
    obtain ⟨key, hkey, hid⟩ := List.any_eq_true.mp hany
    replace hid : key.id = a.1 := of_decide_eq_true hid
    obtain ⟨hrow, hhas⟩ := List.mem_filter.mp hkey
    exact ⟨key, hkey, hid, hu.reaches _ _ hhas (h.reaches hrow (hid ▸ hmem))⟩

section deletions

/-- The operations of a call that deletes users. -/
def Deletes : Accounts.AccountOp → Prop
  | .delete .user _ | .get _ _ | .list _ _ => True
  | _ => False

theorem Upheld.deletes {i : Accounts.AccountOp} (hi : Deletes i) (answer : i.Reply) (h : Upheld networks s t) :
    Upheld networks s (accountStep i answer t).2 := by
  cases i with
  | get | list => exact h
  | delete k p =>
    cases k with
    | user =>
      cases answer with
      | error e => exact h
      | ok x => exact h.trans (.delete t p)
    | access | invite => exact hi.elim
  | _ => exact hi.elim

theorem only_statement (r : Except Accounts.StorageError α) : Only Deletes (Accounts.Storage.statement r) := by
  cases r <;> trivial

theorem only_get (k : Accounts.Kind) (id : Uuid) : Only Deletes (Accounts.Storage.getById k id) := ⟨trivial, only_statement⟩

theorem only_list (k : Accounts.Kind) (p : Accounts.Row k → Bool) : Only Deletes (Accounts.Storage.getAll k p) :=
  ⟨trivial, only_statement⟩

theorem only_deleteUsers (p : User → Bool) : Only Deletes (Accounts.Storage.deleteWhere .user p) := ⟨trivial, only_statement⟩

theorem only_authorized {allowed : AuthenticatedEntity → Bool} {description missing : String} {auth : AuthenticatedEntity}
    {field : AuthenticatedEntity → Option α} :
    Only (S := accountSig) Deletes (Accounts.authorized allowed description auth field missing) := by
  unfold Accounts.authorized
  split_ifs
  · cases field auth <;> trivial
  · trivial

theorem only_permissionsOf (auth : AuthenticatedEntity) : Only (S := accountSig) Deletes (Accounts.permissionsOf auth) := by
  unfold Accounts.permissionsOf
  cases auth.permissions <;> trivial

theorem only_crudDelete (id : Uuid) : Only Deletes (Accounts.Crud.delete .user id) := by
  refine .bind (only_get .user id) (fun found => ?_)
  cases found with
  | none => trivial
  | some user => exact only_deleteUsers _

theorem only_deleteHandler (auth : AuthenticatedEntity) (organizationId id : Uuid) :
    Only Deletes (Accounts.deleteHandler auth organizationId id) := by
  refine .bind (only_get .user id) (fun found => ?_)
  cases found with
  | none => trivial
  | some user => exact .bind (.orFail _) (fun _ => only_crudDelete id)

theorem only_deleteUser (auth : AuthenticatedEntity) (id : Uuid) : Only Deletes (Accounts.deleteUser auth id) := by
  refine .bind only_authorized (fun organizationId => .bind (only_permissionsOf auth) (fun permissions =>
    .bind (only_get .user id) (fun found => ?_)))
  cases found with
  | none => trivial
  | some user =>
    dsimp only
    split_ifs
    · trivial
    · refine .bind (only_list .user _) (fun owners => ?_)
      split_ifs
      · trivial
      · exact only_deleteHandler auth organizationId id

theorem only_reread (id : Uuid) :
    Only Deletes ((Accounts.Storage.getById .user id).bind (fun _ => ret ()) : Accounts.Request Unit) :=
  .bind (only_get .user id) (fun _ => trivial)

theorem only_deleteMany (ids : List Uuid) : Only Deletes (Accounts.Crud.deleteMany .user ids) := by
  unfold Accounts.Crud.deleteMany
  split_ifs
  · trivial
  · exact .bind (.forEach only_reread ids) (fun _ => only_deleteUsers _)

theorem only_bulkDeleteHandler (auth : AuthenticatedEntity) (organizationId : Uuid) (ids : List Uuid) :
    Only Deletes (Accounts.bulkDeleteHandler auth organizationId ids) := by
  unfold Accounts.bulkDeleteHandler
  split_ifs
  · trivial
  · exact .bind (only_list .user _) (fun entities => .bind (.forEach (fun _ => .orFail _) entities) (fun _ => only_deleteMany _))

theorem only_bulkDeleteUsers (auth : AuthenticatedEntity) (ids : List Uuid) :
    Only Deletes (Accounts.bulkDeleteUsers auth ids) := by
  refine .bind only_authorized (fun organizationId => .bind (only_permissionsOf auth) (fun permissions =>
    .bind (only_list .user _) (fun users => ?_)))
  split_ifs
  · trivial
  · refine .bind (only_list .user _) (fun owners => ?_)
    split_ifs
    · trivial
    · exact only_bulkDeleteHandler auth organizationId ids

end deletions

section edits

/-- The user of this id has these permissions now, and the others have not changed. -/
structure Replaced (id : Uuid) (permissions : UserOrgPermissions) (organizationId : Uuid) (s t : Accounts.Db) : Prop where
  access : t.access = s.access
  row : ∃ row : User, row ∈ t.users.rows ∧ row.id = id ∧ row.base.permissions = permissions ∧
    row.base.organizationId = organizationId
  others : ∀ user : User, user ∈ s.users.rows → user.id ≠ id → user ∈ t.users.rows
  has : ∀ other, t.has .user other = true → s.has .user other = true

theorem replaced_of_rewrote {existing request : User} (h : Accounts.Rewrote (Accounts.preserving request existing) s t)
    (hmem : existing ∈ s.users.rows) (horg : request.base.organizationId = existing.base.organizationId) :
    Replaced existing.id request.base.permissions existing.base.organizationId s t := by
  have hid := h.id_eq hmem
  obtain ⟨row, users, rfl, hrow, hrowOrg, hrowPermissions, -, -, hrows⟩ := h
  replace hrow : row.id = existing.id := hrow.trans hid
  refine ⟨rfl, ⟨row, ?_, hrow, hrowPermissions, hrowOrg.trans horg⟩, fun user huser hne => ?_, fun other hother => ?_⟩
  · rw [hrows]
    exact List.mem_append_right _ (List.mem_singleton.mpr rfl)
  · rw [hrows]
    exact List.mem_append_left _ (List.mem_filter.mpr ⟨huser, decide_eq_true (fun heq => hne (heq.trans hid))⟩)
  · obtain ⟨user, huser, rfl⟩ := has_iff.mp hother
    rw [hrows] at huser
    rcases List.mem_append.mp huser with huser | huser
    · exact has_iff.mpr ⟨user, List.mem_of_mem_filter huser, rfl⟩
    · rw [List.mem_singleton.mp huser]
      exact has_iff.mpr ⟨existing, hmem, hrow.symm⟩

theorem Replaced.upheld {existing : User} (hmem : existing ∈ s.users.rows)
    (h : Replaced existing.id existing.base.permissions existing.base.organizationId s t) : Upheld networks s t := by
  obtain ⟨row, hrow, hid, hpermissions, horg⟩ := h.row
  refine ⟨h.has, ?_, ?_⟩
  · rintro userId permissions - ⟨user, huser, rfl, hle⟩
    by_cases hsame : user.id = existing.id
    · obtain rfl : user = existing := Accounts.eq_of_id_eq (k := .user) huser hmem hsame
      exact ⟨row, hrow, hid, hpermissions ▸ hle⟩
    · exact ⟨user, h.others user huser hsame, rfl, hle⟩
  · rintro userId networkId - ⟨user, huser, rfl, hreaches⟩
    rw [← h.access] at hreaches
    by_cases hsame : user.id = existing.id
    · obtain rfl : user = existing := Accounts.eq_of_id_eq (k := .user) huser hmem hsame
      exact ⟨row, hrow, hid, by rwa [hpermissions, horg]⟩
    · exact ⟨user, h.others user huser hsame, rfl, hreaches⟩

theorem ensures_updateUser (auth : AuthenticatedEntity) (id : Uuid) (request : User) :
    Accounts.Leads (fun _ t => Upheld networks s t) (Accounts.updateUser auth id request) s := by
  have hrefl := Upheld.refl networks s
  apply Ensures.bind
  refine Accounts.ensures_authorized (fun userId _ _ => ?_) (fun _ => hrefl)
  dsimp only [Ensures.andThen]
  split_ifs
  · exact hrefl
  · apply Ensures.bind
    refine Accounts.ensures_getById (fun found hfound => ?_) (fun _ => hrefl)
    cases found with
    | none => exact hrefl
    | some existing =>
      obtain ⟨hmem, -⟩ := hfound existing rfl
      dsimp only [Ensures.andThen]
      split_ifs with horg hpermissions
      · exact hrefl
      · exact hrefl
      · refine Accounts.ensures_crudUpdate (fun updated t hrewrote => ?_) (fun _ => hrefl)
        have hreplaced := replaced_of_rewrote hrewrote hmem (not_not.mp horg)
        rw [not_not.mp hpermissions] at hreplaced
        exact hreplaced.upheld hmem

/-- What an administrator's update of a user comes to: nothing, or other permissions and other networks. -/
def Regranted (auth : AuthenticatedEntity) (id : Uuid) (request : User) (s t : Accounts.Db) : Prop :=
  t = s ∨ ∃ (permissions : UserOrgPermissions) (existing : User) (v : Accounts.Db), auth.permissions = some permissions ∧
    existing ∈ s.users.rows ∧ existing.id = id ∧ existing.base.permissions < permissions ∧
    request.base.organizationId = existing.base.organizationId ∧
    Replaced id request.base.permissions existing.base.organizationId s v ∧
    Accounts.Assigned id request.base.networkIds v t

/-- The statements are carried out, and the ids are new. -/
def Carried (s : Accounts.Db) : (i : Accounts.AccountOp) → i.Reply → Prop
  | .newV4, id => ∀ a : UserNetworkAccess, a ∈ s.access.rows → a.id ≠ id
  | .create _ _, answer => answer = .ok ()
  | .delete _ _, answer => answer = .ok ()
  | _, _ => True

def Assigns (id : Uuid) (networkIds : List Uuid) (t : Accounts.Db) : Prop :=
  ∀ networkId ∈ networkIds, ∃ a : UserNetworkAccess, a ∈ t.access.rows ∧ a.base.userId = id ∧ a.base.networkId = networkId

theorem carried_create {k : Accounts.Kind} {row : Accounts.Row k} {post : Except Accounts.ApiError (Accounts.Row k) → Accounts.Db → Prop}
    (hapart : ∀ r ∈ (s.table k).rows, Accounts.Apart k r (Accounts.columns k row)) (hrefers : s.refers k row = true)
    (hok : post (.ok row) (s.withTable k ((s.table k).insert (Accounts.columns k row) hapart))) :
    Ensures accountStep Carried post (Accounts.Storage.create k row) s := by
  intro answer hanswer
  obtain rfl : answer = .ok () := hanswer
  change Ensures _ _ _ ((Accounts.Storage.statement (s.create k row (.ok ())).1).bind (fun _ => .ret row))
    (s.create k row (.ok ())).2
  unfold Accounts.Db.create
  dsimp only
  rw [dif_pos hapart, if_pos hrefers]
  exact hok

/-- The networks up to one have been assigned, and no others. -/
structure Assigning (id : Uuid) (done : List Uuid) (s t : Accounts.Db) : Prop where
  users : t.users = s.users
  assigned : Assigns id done t
  only : ∀ a : UserNetworkAccess, a ∈ t.access.rows → a.base.userId = id → a.base.networkId ∈ done

theorem carried_addAccess {id networkId : Uuid} {done : List Uuid} (hhas : s.has .user id = true) (h : Assigning id done s t)
    (hnew : networkId ∉ done) {post : Except Accounts.ApiError Unit → Accounts.Db → Prop}
    (hok : ∀ u, Assigning id (done ++ [networkId]) s u → post (.ok ()) u) :
    Ensures accountStep Carried post (Accounts.UserService.addAccess id networkId) t := by
  apply Ensures.bind
  intro accessId hfresh
  apply Ensures.bind
  intro now _
  apply Ensures.bind
  have hapart : ∀ r ∈ (t.table .access).rows, Accounts.Apart .access r
      (Accounts.columns .access (⟨accessId, now, now, ⟨id, networkId⟩⟩ : UserNetworkAccess)) := by
    intro r hr
    refine ⟨hfresh r hr, ?_⟩
    simp only [Accounts.clash, Accounts.columns, Bool.and_eq_false_iff]
    by_cases huser : r.base.userId = id
    · exact .inr (decide_eq_false (fun hsame => hnew (hsame ▸ h.only r hr huser)))
    · exact .inl (decide_eq_false huser)
  have hrefers : t.refers .access (⟨accessId, now, now, ⟨id, networkId⟩⟩ : UserNetworkAccess) = true := by
    change t.has .user id = true
    rw [has_iff, h.users]
    exact has_iff.mp hhas
  refine carried_create hapart hrefers (hok _ ⟨h.users, fun n hn => ?_, fun a ha huser => ?_⟩)
  · rcases List.mem_append.mp hn with hn | hn
    · obtain ⟨a, ha, hauser, hanetwork⟩ := h.assigned n hn
      exact ⟨a, List.mem_append_left _ ha, hauser, hanetwork⟩
    · rw [List.mem_singleton.mp hn]
      exact ⟨_, List.mem_append_right _ (List.mem_singleton.mpr rfl), rfl, rfl⟩
  · rcases List.mem_append.mp ha with ha | ha
    · exact List.mem_append_left _ (h.only a ha huser)
    · rw [List.mem_singleton.mp ha]
      exact List.mem_append_right _ (List.mem_singleton.mpr rfl)

theorem carried_setNetworkIds {id : Uuid} {networkIds : List Uuid} (hhas : s.has .user id = true) (hnodup : networkIds.Nodup) :
    Ensures accountStep Carried (fun _ t => Assigns id networkIds t) (Accounts.UserService.setNetworkIds id networkIds) s := by
  apply Ensures.bind
  intro answer hanswer
  obtain rfl : answer = .ok () := hanswer
  refine Ensures.forEach (fun done t => Assigning id done s t) networkIds ?_ ?_ (fun _ ht => ht.assigned)
  · intro done networkId rest heq t ht
    refine carried_addAccess hhas ht ?_ (fun _ hu => hu)
    rw [heq] at hnodup
    exact fun hmem => List.disjoint_of_nodup_append hnodup hmem List.mem_cons_self
  · refine ⟨rfl, fun _ hn => absurd hn List.not_mem_nil, fun a ha huser => ?_⟩
    have := (List.mem_filter.mp ha).2
    simp [huser] at this

theorem ensures_adminUpdateUser (auth : AuthenticatedEntity) (id : Uuid) (request : User) :
    Accounts.Leads (fun _ t => Regranted auth id request s t) (Accounts.adminUpdateUser auth id request) s := by
  have hrefl : Regranted auth id request s s := .inl rfl
  apply Ensures.bind
  refine Accounts.ensures_authorized (fun adminUserId _ _ => ?_) (fun _ => hrefl)
  apply Ensures.bind
  refine Accounts.ensures_permissionsOf (fun permissions hpermissions => ?_) (fun _ => hrefl)
  apply Ensures.bind
  refine Accounts.ensures_getById (fun found hfound => ?_) (fun _ => hrefl)
  cases found with
  | none => exact hrefl
  | some existing =>
    obtain ⟨hmem, rfl⟩ := hfound existing rfl
    dsimp only [Ensures.andThen]
    split_ifs with hself hlower hpromotes horg
    · exact hrefl
    · exact hrefl
    · exact hrefl
    · exact hrefl
    · apply Ensures.bind
      refine Accounts.ensures_crudUpdate (fun updated v hrewrote => ?_) (fun _ => hrefl)
      have hreplaced := replaced_of_rewrote hrewrote hmem (not_not.mp horg)
      apply Ensures.bind
      apply (Accounts.ensures_setNetworkIds existing.id request.base.networkIds v).imp
      rintro (e | x) t hassigned
      · exact .inr ⟨permissions, existing, v, hpermissions, hmem, rfl, not_le.mp hlower, not_not.mp horg, hreplaced, hassigned⟩
      · exact .inr ⟨permissions, existing, v, hpermissions, hmem, rfl, not_le.mp hlower, not_not.mp horg, hreplaced, hassigned⟩

/-- An update that is carried out assigns all the networks. -/
theorem carried_adminUpdateUser (auth : AuthenticatedEntity) {id : Uuid} {request : User} (hnodup : request.base.networkIds.Nodup) :
    Ensures accountStep Carried (fun _ t => t = s ∨ Assigns id request.base.networkIds t)
      (Accounts.adminUpdateUser auth id request) s := by
  apply Ensures.bind
  refine .of_any (Accounts.ensures_authorized (fun adminUserId _ _ => ?_) (fun _ => .inl rfl))
  apply Ensures.bind
  refine .of_any (Accounts.ensures_permissionsOf (fun permissions _ => ?_) (fun _ => .inl rfl))
  apply Ensures.bind
  refine .of_any (Accounts.ensures_getById (fun found hfound => ?_) (fun _ => .inl rfl))
  cases found with
  | none => exact .inl rfl
  | some existing =>
    obtain ⟨hmem, rfl⟩ := hfound existing rfl
    dsimp only [Ensures.andThen]
    split_ifs with hself hlower hpromotes horg
    · exact .inl rfl
    · exact .inl rfl
    · exact .inl rfl
    · exact .inl rfl
    · apply Ensures.bind
      refine .of_any (Accounts.ensures_crudUpdate (fun updated v hrewrote => ?_) (fun _ => .inl rfl))
      obtain ⟨row, hrow, hid, -⟩ := (replaced_of_rewrote hrewrote hmem (not_not.mp horg)).row
      apply Ensures.bind
      apply (carried_setNetworkIds (has_iff.mpr ⟨row, hrow, hid⟩) hnodup).imp
      rintro (e | x) t hassigns
      · exact .inr hassigns
      · exact .inr hassigns

end edits

end users

section served

variable {networks : Uuid → List Uuid} {hashApiKey : String → String}

section condition

variable (networks : Uuid → List Uuid) (hashApiKey : String → String) (w : World) (e : Served)

/-- What an administrator makes of a user is no less than what the user's keys have: the permissions are not lower, and the
networks of the keys are among those that the user gets, by managing the organization or by the request, all of whose networks
are stored. -/
def World.Spares (auth : AuthenticatedEntity) (id : Uuid) (request : User) : Prop :=
  ∀ user : User, user ∈ w.accounts.users.rows → user.id = id →
    auth.permissions.any (fun permissions => user.base.permissions < permissions) = true →
    request.base.organizationId = user.base.organizationId →
    ∀ key : UserApiKey, key ∈ (w.keys.keys .user).rows → key.base.userId = id →
      key.base.permissions ≤ request.base.permissions ∧
      ∀ networkId ∈ w.keys.networkIds key.id,
        if manages request.base.permissions then networkId ∈ networks request.base.organizationId
        else networkId ∈ request.base.networkIds ∧ request.base.networkIds.Nodup ∧
          Answered accountStep Carried e.accounts 0 (UserCall.adminUpdate auth id request).program w.accounts

/-- The user whom an administrator edits. -/
def Request.edited : Request → Option (Uuid × User)
  | .adminUpdateUser id request => some (id, request)
  | _ => none

/-- No administrator takes from a user what one of the user's keys has. -/
def World.Sparing : Prop :=
  ∀ auth ∈ (w.identify networks hashApiKey e).1, ∀ edited ∈ e.request.edited,
    (w.identify networks hashApiKey e).2.Spares networks e auth edited.1 edited.2

/-- Whoever an API key of a user stands for has no more than the user has. -/
def World.Bounded : Prop :=
  ∀ apiKeyId userId organizationId permissions networkIds,
    (w.identify networks hashApiKey e).1 = some (.apiKey apiKeyId userId organizationId permissions networkIds) →
    Holds w.accounts userId permissions ∧ ∀ networkId ∈ networkIds, Reaches networks w.accounts userId networkId

end condition

variable {w : World} {e : Served} {auth : AuthenticatedEntity} {α : Type}

/-- Once the caller is known, the users are those there were, and the keys have no more than they. -/
theorem identify_covered (hashApiKey : String → String) (e : Served) (h : Covered networks w.accounts w.keys) :
    (w.identify networks hashApiKey e).2.accounts = w.accounts ∧
      Covered networks w.accounts (w.identify networks hashApiKey e).2.keys ∧
      ∀ auth, (w.identify networks hashApiKey e).1 = some auth → Within networks w.accounts auth := by
  unfold World.identify
  cases e.credentials with
  | session cookie =>
    obtain ⟨hstate, hwithin⟩ := (ensures_session networks cookie w.accounts).run_any e.sessions 0
    refine ⟨hstate, h, fun auth hauth => hwithin auth ?_⟩
    dsimp only at hauth
    cases hresult : (run accountStep e.sessions 0 (Accounts.extractAuth networks (.session cookie)) w.accounts).result with
    | error e => rw [hresult] at hauth; exact nomatch hauth
    | ok a => rw [hresult] at hauth; exact congrArg _ (Option.some.inj hauth)
  | bearer apiKeyRaw daemonId =>
    obtain ⟨hcovered, hwithin⟩ := (ensures_authenticate h hashApiKey apiKeyRaw daemonId).run_any e.bearers 0
    refine ⟨rfl, hcovered, fun auth hauth => hwithin auth ?_⟩
    dsimp only at hauth
    cases hresult : (run keyStep e.bearers 0 (authenticate hashApiKey apiKeyRaw daemonId) w.keys).result with
    | error e => rw [hresult] at hauth; exact nomatch hauth
    | ok a => rw [hresult] at hauth; exact congrArg _ (Option.some.inj hauth)

theorem ensures_discard {may : Accounts.Db → (i : Accounts.AccountOp) → i.Reply → Prop} {I : Accounts.Db → Prop}
    {p : Accounts.Request α} {s : Accounts.Db} (h : Ensures accountStep may (fun _ t => I t) p s) :
    Ensures accountStep may (fun _ t => I t) (p.bind (fun _ => ret ())) s := by
  apply Ensures.bind
  apply h.imp
  rintro (e | a) t ht
  · exact ht
  · exact ht

theorem Regranted.covered {id : Uuid} {request : User} {t : Accounts.Db} (hr : Regranted auth id request w.accounts t)
    (h : Covered networks w.accounts w.keys) (hs : w.Spares networks e auth id request)
    (hassigns : request.base.networkIds.Nodup →
      Answered accountStep Carried e.accounts 0 (UserCall.adminUpdate auth id request).program w.accounts →
      t = w.accounts ∨ Assigns id request.base.networkIds t) :
    Covered networks t (w.keys.ofUsers t) := by
  by_cases hunchanged : t = w.accounts
  · rw [hunchanged]
    exact h.ofUsers (.refl networks _)
  obtain ⟨permissions, existing, v, hpermissions, hmem, rfl, hlower, horg, hreplaced, hassigned⟩ := hr.resolve_left hunchanged
  have husers : t.users = v.users := by rw [hassigned.eq]
  obtain ⟨row, hrow, hid, hrowPermissions, hrowOrg⟩ := hreplaced.row
  rw [← husers] at hrow
  have hspared := hs existing hmem rfl (by simpa [hpermissions] using hlower) horg
  have hstays (user : User) (huser : user ∈ w.accounts.users.rows) (hne : user.id ≠ existing.id) : user ∈ t.users.rows :=
    husers ▸ hreplaced.others user huser hne
  refine ⟨fun key hkey => ?_, fun a ha => ?_⟩
  · obtain ⟨hkey, -⟩ := List.mem_filter.mp hkey
    by_cases hsame : UserApiKeyBase.userId key.base = existing.id
    · exact ⟨row, hrow, hid.trans hsame.symm, hrowPermissions ▸ (hspared key hkey hsame).1⟩
    · obtain ⟨user, huser, huserId, hle⟩ := h.permissions key hkey
      exact ⟨user, hstays user huser (huserId ▸ hsame), huserId, hle⟩
  · obtain ⟨hmemAccess, hany⟩ := List.mem_filter.mp ha
    obtain ⟨key, hkey, hkeyId⟩ := List.any_eq_true.mp hany
    replace hkeyId : key.id = a.1 := of_decide_eq_true hkeyId
    refine ⟨key, hkey, hkeyId, ?_⟩
    obtain ⟨hkey, -⟩ := List.mem_filter.mp hkey
    rw [← Prod.eta a, ← hkeyId] at hmemAccess
    by_cases hsame : UserApiKeyBase.userId key.base = existing.id
    · refine ⟨row, hrow, hid.trans hsame.symm, ?_⟩
      have hnetwork := (hspared key hkey hsame).2 a.2 (mem_networkIds.mpr hmemAccess)
      rw [hrowPermissions, hrowOrg, ← horg]
      split_ifs at hnetwork ⊢ with hmanages
      · exact hnetwork
      · obtain ⟨hrequested, hnodup, hanswered⟩ := hnetwork
        rw [hsame]
        exact (hassigns hnodup hanswered).resolve_left hunchanged a.2 hrequested
    · obtain ⟨user, huser, huserId, hreaches⟩ := h.reaches hkey hmemAccess
      refine ⟨user, hstays user huser (huserId ▸ hsame), huserId, ?_⟩
      split_ifs at hreaches ⊢ with hmanages
      · exact hreaches
      · obtain ⟨b, hb, hbUser, hbNetwork⟩ := hreaches
        exact ⟨b, hassigned.kept b (hreplaced.access ▸ hb) (hbUser ▸ hsame), hbUser, hbNetwork⟩

/-- What one request keeps, and what holds of whoever makes it. -/
theorem Covered.serve (h : Covered networks w.accounts w.keys) (hs : w.Sparing networks hashApiKey e) :
    Covered networks (w.serve networks hashApiKey e).accounts (w.serve networks hashApiKey e).keys := by
  obtain ⟨haccounts, hcovered, hwithin⟩ := identify_covered hashApiKey e h
  unfold World.Sparing at hs
  unfold World.serve
  cases hidentify : w.identify networks hashApiKey e with
  | mk caller w' =>
    rw [hidentify] at haccounts hcovered hwithin hs
    replace hcovered : Covered networks w'.accounts w'.keys := haccounts ▸ hcovered
    cases caller with
    | none => exact hcovered
    | some auth =>
      replace hwithin : Within networks w'.accounts auth := haccounts ▸ hwithin auth rfl
      dsimp only
      unfold World.perform
      cases hrequest : e.request with
      | createUserApiKey key => exact (ensures_createUserApiKey hcovered hwithin key).run_any e.keys 0
      | updateUserApiKey id request => exact (ensures_updateUserApiKey hcovered hwithin id request).run_any e.keys 0
      | deleteUser id =>
        exact hcovered.ofUsers ((Ensures.of_only (fun _ _ answer hi => Upheld.deletes hi answer) (only_deleteUser auth id)
          (.refl networks _)).run_any e.accounts 0)
      | bulkDeleteUsers ids =>
        exact hcovered.ofUsers ((Ensures.of_only (fun _ _ answer hi => Upheld.deletes hi answer) (only_bulkDeleteUsers auth ids)
          (.refl networks _)).run_any e.accounts 0)
      | updateUser id request => exact hcovered.ofUsers ((ensures_discard (ensures_updateUser auth id request)).run_any e.accounts 0)
      | adminUpdateUser id request =>
        have hspares : w'.Spares networks e auth id request := hs auth rfl (id, request) (congrArg Request.edited hrequest)
        refine ((ensures_discard (ensures_adminUpdateUser auth id request)).run_any e.accounts 0).covered hcovered hspares ?_
        exact fun hnodup hanswered => (ensures_discard (carried_adminUpdateUser auth hnodup)).run hanswered
      | other => exact hcovered

instance (s : Accounts.Db) (i : Accounts.AccountOp) (r : i.Reply) : Decidable (Carried s i r) :=
  match i with
  | .newV4 => inferInstanceAs (Decidable (∀ a ∈ s.access.rows, (a : UserNetworkAccess).id ≠ r))
  | .create _ _ | .delete _ _ => inferInstanceAs (Decidable (r = .ok ()))
  | .utcNow | .get _ _ | .list _ _ | .update _ _ | .loadSession _ | .saveSession _ _ => .isTrue trivial

/-- An API key of a user has no more than its user has, as long as no administrator takes from a user what a key has. -/
theorem key_within_user (networks : Uuid → List Uuid) (hashApiKey : String → String) (accounts : Accounts.Db)
    (requests : List Served)
    (h : Meets (World.serve networks hashApiKey) (World.Sparing networks hashApiKey) (.opened accounts) requests) :
    Meets (World.serve networks hashApiKey) (World.Bounded networks hashApiKey) (.opened accounts) requests := by
  refine h.each (fun w => Covered networks w.accounts w.keys) (fun w e hw he => ⟨hw.serve he, ?_⟩) ?_
  · intro apiKeyId userId organizationId permissions networkIds hidentify
    exact (identify_covered hashApiKey e hw).2.2 _ hidentify
  · exact ⟨fun key hkey => absurd hkey List.not_mem_nil, fun a ha => absurd ha List.not_mem_nil⟩

/-- An administrator and a member who has access to a network, each with a session. -/
def office : Accounts.Db where
  users := ⟨[Accounts.memberOf 9 1 .admin "a", Accounts.memberOf 9 2 .member "b"], by decide⟩
  access := ⟨[⟨5, 0, 0, ⟨2, 90⟩⟩], by decide⟩
  invites := .empty
  sessions := fun cookie => { Accounts.Session.new with userId := some (if cookie = 0 then 1 else 2) }

def carriedOut : (i : KeyOp) → i.Reply
  | .newV4 => 6
  | .utcNow => 8
  | .generateApiKey _ => ("scp_u_new", "scp_u_new")
  | .getByKey _ _ | .getById _ _ => .ok none
  | .create _ | .update _ _ _ _ | .deleteAccess _ | .createAccess _ _ => .ok ()
  | .networkAccess _ | .validateTags _ _ => .ok []
  | .apiAccess _ => .ok (some (some true))

def asks (credentials : Credentials) (request : Request) : Served :=
  ⟨credentials, request, Accounts.granted 8, fun _ => carriedOut, Accounts.granted 8, fun _ => carriedOut⟩

/-- The member makes a key with all that it has. -/
def makesKey : Served :=
  asks (.session 1) (.createUserApiKey ⟨0, 0, 0, ⟨"", "backup", 0, 0, .member, none, none, true, [], [90]⟩⟩)

def usesKey : Served := asks (.bearer "scp_u_new" none) .other

/-- The administrator gives the member these permissions and this network. -/
def edits (permissions : UserOrgPermissions) (networkId : Uuid) : Served :=
  asks (.session 0) (.adminUpdateUser 2 ⟨2, 0, 0, ⟨"", 9, permissions, none, none, none, none, [networkId], none⟩⟩)

/-- The key as it has been used once. -/
def usedKey : UserApiKey := ⟨6, 8, 8, ⟨"scp_u_new", "backup", 2, 9, .member, some 8, none, true, [], []⟩⟩

theorem key_within_edited_user : Meets (World.serve Accounts.networksOf id) (World.Bounded Accounts.networksOf id) (.opened office)
    [makesKey, usesKey, edits .member 90, usesKey] := by
  refine key_within_user Accounts.networksOf id office _ ⟨fun _ _ _ h => (nomatch h), fun _ _ _ h => (nomatch h), ?_,
    fun _ _ _ h => (nomatch h), trivial⟩
  rintro auth hauth _ ⟨⟩ user - hid - - key hkey -
  obtain rfl : auth = .user 1 9 .admin [90] "a" := Option.some.inj (hauth.symm.trans (by decide +kernel))
  have hrows : (([makesKey, usesKey].foldl (World.serve Accounts.networksOf id) (.opened office)).keys.keys .user).rows =
      [usedKey] := by decide +kernel
  obtain rfl : key = usedKey := List.mem_singleton.mp (hrows ▸ hkey)
  refine ⟨le_refl _, fun networkId hnetwork => ?_⟩
  have hnetworks : ([makesKey, usesKey].foldl (World.serve Accounts.networksOf id) (.opened office)).keys.networkIds usedKey.id =
      [90] := by decide +kernel
  obtain rfl : networkId = 90 := List.mem_singleton.mp (hnetworks ▸ hnetwork)
  rw [if_neg (by decide)]
  exact ⟨by decide, by decide, by decide +kernel⟩

/-- The member is made a viewer, and the key still acts for a member. -/
theorem key_outranks_demoted_user : ¬ ∀ (networks : Uuid → List Uuid) (hashApiKey : String → String) (accounts : Accounts.Db)
    (requests : List Served), Meets (World.serve networks hashApiKey) (World.Bounded networks hashApiKey) (.opened accounts) requests := by
  intro h
  have hbounded := (h Accounts.networksOf id office [makesKey, edits .viewer 90, usesKey]).2.2.1
  obtain ⟨⟨user, huser, hid, hle⟩, -⟩ := hbounded 6 2 9 .member [90] (by decide +kernel)
  have hviewer : ∀ user : User, user ∈ (([makesKey, edits .viewer 90].foldl (World.serve Accounts.networksOf id)
      (.opened office)).accounts.users.rows) → user.id = 2 → ¬ .member ≤ user.base.permissions := by decide +kernel
  exact hviewer user huser hid hle

end served

end VantageNet.ApiKeys
