import VantageNet.Interaction.Ensures
import VantageNet.Shares.Handlers

/-!
What the public page of a share shows. The topology and the network of a share are checked apart from each
other, so the page stays within the network of the share as long as every request names the two alike.
-/

namespace VantageNet.Shares

open Interaction Interaction.Program
open Events (AuthenticatedEntity)

section requests

inductive ShareRequest where
  | create (auth : AuthenticatedEntity) (share : Share) (password : Option String)
  | update (auth : AuthenticatedEntity) (id : Uuid) (share : Share) (password : Option String)

namespace ShareRequest

def handle : ShareRequest → Task Share
  | create auth share password => createShare auth share password
  | update auth id share password => updateShare auth id share password

def auth : ShareRequest → AuthenticatedEntity
  | create auth _ _ => auth
  | update auth _ _ _ => auth

def share : ShareRequest → Share
  | create _ share _ => share
  | update _ _ share _ => share

end ShareRequest

/-- The database, and for each share those who created and edited it. -/
structure Sharing where
  db : Db
  editors : Uuid → List AuthenticatedEntity

/-- The request has answered with the share, or has left another row of it. -/
def touched (s t : Db) (r : Except Failure Share) (id : Uuid) : Bool :=
  (match r with | .ok share => share.id = id | .error _ => false) || t.share id ≠ s.share id

def Sharing.step (σ : Sharing) (x : ShareRequest × Oracle shareSig) : Sharing :=
  let o := run shareStep x.2 0 x.1.handle σ.db
  ⟨o.state, fun id => if touched σ.db o.state o.result id then σ.editors id ++ [x.1.auth] else σ.editors id⟩

/-- Nothing is shared yet. -/
def Sharing.initial (topologies : List Topology) : Sharing := ⟨⟨.empty, topologies⟩, fun _ => []⟩

end requests

section writes

/-- The operations that leave the tables as they are. -/
def Reading : ShareOp → Prop
  | .createShare _ | .updateShare _ => False
  | _ => True

variable {α β : Type} {s : Db} {auth : AuthenticatedEntity} {share : Share}

abbrev Leaves (post : Except Failure α → Db → Prop) (p : Task α) (s : Db) : Prop :=
  Ensures shareStep (fun _ _ _ => True) post p s

theorem state_of_reading (t : Db) (i : ShareOp) (r : i.Reply) (hi : Reading i) : (shareStep i r t).2 = t := by
  cases i <;> first | rfl | exact hi.elim

theorem leaves_reading {post : Except Failure β → Db → Prop} {p : Task α} {f : α → Task β} (hp : Only Reading p)
    (herror : ∀ e, post (.error e) s) (hf : ∀ a, Leaves post (f a) s) : Leaves post (p.bind f) s :=
  Ensures.after state_of_reading hp herror hf

/-- The row that a request leaves has its topology and its network, which is one of the caller's. -/
structure Own (auth : AuthenticatedEntity) (share row : Share) : Prop where
  topologyId : row.base.topologyId = share.base.topologyId
  networkId : row.base.networkId = share.base.networkId
  access : share.base.networkId ∈ auth.networkIds

/-- Nothing was written, and the request has failed. -/
def Refused (s t : Db) (r : Except Failure Share) : Prop := t = s ∧ ∃ e, r = .error e

def Entered (s : Db) (auth : AuthenticatedEntity) (share : Share) (r : Except Failure Share) (t : Db) : Prop :=
  Refused s t r ∨ ∃ row h, Own auth share row ∧ t = s.insert row h ∧ ∀ x, r = .ok x → x = row

def Edited (s : Db) (auth : AuthenticatedEntity) (id : Uuid) (share : Share) (r : Except Failure Share) (t : Db) : Prop :=
  Refused s t r ∨ ∃ existing row, s.share id = some existing ∧ row.id = id ∧ Own auth share row ∧ t = s.put row ∧
    ∀ x, r = .ok x → x = row

theorem access_of_create {networkId organizationId : Uuid} {networkIds : List Uuid}
    (h : validateCreateAccess (some networkId) none networkIds organizationId = .ok ()) : networkId ∈ networkIds := by
  by_contra hnot
  have hrefused : Handlers.validateNetworkAccess (some networkId) networkIds "create" =
      .error (.unauthorized "You aren't allowed to create entities on this network") := by
    simp [Handlers.validateNetworkAccess, hnot]
  rw [validateCreateAccess, hrefused] at h
  exact nomatch h

theorem access_of_update {existingId networkId organizationId : Uuid} {networkIds : List Uuid}
    (h : validateUpdateAccess (some existingId) none (some networkId) none networkIds organizationId = .ok ()) :
    networkId ∈ networkIds := by
  unfold validateUpdateAccess at h
  dsimp only at h
  split_ifs at h with hexisting horganization hnetwork
  simpa using hnetwork

variable {share' : Share}

theorem reading_authorized (auth : AuthenticatedEntity) : Only Reading (authorized auth) := by
  unfold authorized
  split_ifs <;> trivial

theorem reading_organizationContext (auth : AuthenticatedEntity) : Only Reading (organizationContext auth) := by
  unfold organizationContext
  cases auth.organizationId <;> trivial

theorem reading_getById (id : Uuid) : Only Reading (getById id) := ⟨trivial, fun r => Only.orFail r⟩

theorem reading_found {α : Type} (message : String) (a : Option α) : Only Reading (found message a) := by
  cases a <;> trivial

theorem reading_passwordHash (unset password : Option String) : Only Reading (passwordHash unset password) := by
  unfold passwordHash
  cases password with
  | none => trivial
  | some password =>
    dsimp only
    split_ifs
    · trivial
    · exact Only.bind ⟨trivial, fun r => Only.orFail r⟩ (fun _ => trivial)

theorem refused_of_error (s : Db) (e : Failure) : Refused s s (.error e) := ⟨rfl, e, rfl⟩

/-- What is left of a row that was written: the event may still fail. -/
theorem leaves_publish {P : Except Failure Share → Db → Prop} {t : Db} (operation : Events.EntityOperation) (row : Share)
    (auth : AuthenticatedEntity) (hok : P (.ok row) t) (herror : ∀ e, P (.error e) t) :
    Leaves P ((publish operation row auth).bind (fun _ => ret row)) t := by
  rintro (e | _) -
  · exact herror e
  · exact hok

/-- The row that is entered is of the same topology and network. -/
theorem identified_base (entity : Share) (s : Db) :
    Leaves (fun r t => t = s ∧ ∀ row, r = .ok row → row.base = entity.base) (identified entity) s := by
  unfold identified
  split_ifs
  · exact fun now _ id _ => ⟨rfl, by rintro row ⟨⟩; rfl⟩
  · exact ⟨rfl, by rintro row ⟨⟩; rfl⟩

theorem leaves_create (hown : Own auth share share') : Leaves (Entered s auth share) (CrudService.create share' auth) s := by
  refine Ensures.bind ((identified_base share' s).imp ?_)
  rintro (e | row) t ⟨rfl, hrow⟩
  · exact .inl (refused_of_error t e)
  have hbase := hrow row rfl
  have hown' : Own auth share row := ⟨hbase ▸ hown.topologyId, hbase ▸ hown.networkId, hown.access⟩
  rintro (e | _) -
  · exact .inl (refused_of_error t e)
  · simp only [shareStep]
    split_ifs with hfresh
    · refine leaves_publish .created row auth (.inr ⟨row, hfresh.2, hown', rfl, ?_⟩) (fun e => .inr ⟨row, hfresh.2, hown', rfl, ?_⟩)
      · rintro _ ⟨⟩
        rfl
      · exact fun _ h => nomatch h
    · exact .inl (refused_of_error t storageError)

theorem leaves_createShare (auth : AuthenticatedEntity) (share : Share) (password : Option String) (s : Db) :
    Leaves (Entered s auth share) (createShare auth share password) s := by
  have herror (e : Failure) : Entered s auth share (.error e) s := .inl (refused_of_error s e)
  refine leaves_reading (reading_authorized auth) herror (fun _ => ?_)
  refine leaves_reading (reading_passwordHash none password) herror (fun hash => ?_)
  dsimp only
  cases auth.userId with
  | none => exact herror _
  | some userId =>
    refine leaves_reading (reading_organizationContext auth) herror (fun organizationId => ?_)
    cases haccess : validateCreateAccess (some share.base.networkId) none auth.networkIds organizationId with
    | error cause =>
      change Leaves _ ((checked (validateCreateAccess (some share.base.networkId) none auth.networkIds organizationId)).bind _) s
      rw [haccess]
      exact herror (.api cause)
    | ok _ =>
      change Leaves _ ((checked (validateCreateAccess (some share.base.networkId) none auth.networkIds organizationId)).bind _) s
      rw [haccess]
      exact leaves_create ⟨rfl, rfl, access_of_create haccess⟩

theorem leaves_update (hown : Own auth share share') {existing : Share} (hexisting : s.share share'.id = some existing) :
    Leaves (Edited s auth share'.id share) (CrudService.update share' auth) s := by
  have herror (e : Failure) : Edited s auth share'.id share (.error e) s := .inl (refused_of_error s e)
  refine leaves_reading (reading_getById share'.id) herror (fun current => ?_)
  refine leaves_reading (reading_found _ current) herror (fun _ => ?_)
  intro now _
  let row : Share := { share' with updatedAt := now }
  have hown' : Own auth share row := ⟨hown.topologyId, hown.networkId, hown.access⟩
  rintro (e | _) -
  · exact herror e
  · by_cases htopology : (s.topology row.base.topologyId).isSome
    · have hstep : shareStep (.updateShare row) (.ok ()) s = (.ok (), s.put row) := if_pos htopology
      change Leaves _ ((orFail (shareStep (.updateShare row) (.ok ()) s).1).bind _) (shareStep (.updateShare row) (.ok ()) s).2
      rw [hstep]
      refine leaves_publish .updated row auth (.inr ⟨existing, row, hexisting, rfl, hown', rfl, ?_⟩)
        (fun e => .inr ⟨existing, row, hexisting, rfl, hown', rfl, ?_⟩)
      · rintro _ ⟨⟩
        rfl
      · exact fun _ h => nomatch h
    · have hstep : shareStep (.updateShare row) (.ok ()) s = (.error storageError, s) := if_neg htopology
      change Leaves _ ((orFail (shareStep (.updateShare row) (.ok ()) s).1).bind _) (shareStep (.updateShare row) (.ok ()) s).2
      rw [hstep]
      exact herror storageError

theorem leaves_updateShare (auth : AuthenticatedEntity) (id : Uuid) (share : Share) (password : Option String) (s : Db) :
    Leaves (Edited s auth id share) (updateShare auth id share password) s := by
  have herror (e : Failure) : Edited s auth id share (.error e) s := .inl (refused_of_error s e)
  refine leaves_reading (reading_authorized auth) herror (fun _ => ?_)
  refine leaves_reading (reading_getById id) herror (fun first => leaves_reading (reading_found _ first) herror (fun existing => ?_))
  refine leaves_reading (reading_passwordHash _ password) herror (fun hash => ?_)
  refine leaves_reading (reading_organizationContext auth) herror (fun organizationId => ?_)
  rintro (e | _) -
  · exact herror e
  · simp only [shareStep, Except.map]
    cases hexisting : s.share id with
    | none => exact herror _
    | some current =>
      obtain rfl : current.id = id := by simpa using List.find?_some hexisting
      change Leaves _ ((checked (validateUpdateAccess (some current.base.networkId) none (some share.base.networkId) none
        auth.networkIds organizationId)).bind _) s
      cases haccess : validateUpdateAccess (some current.base.networkId) none (some share.base.networkId) none auth.networkIds
          organizationId with
      | error cause => exact herror (.api cause)
      | ok _ =>
        have hown : Own auth share { share.received.withPassword hash with id := current.id, createdAt := current.createdAt } :=
          ⟨rfl, rfl, access_of_update haccess⟩
        exact leaves_update hown hexisting

end writes

section network

/-- The topology of each share is of the network of the share, to which all have access who created or edited the
share. -/
structure Within (σ : Sharing) : Prop where
  topology : ∀ id share, σ.db.share id = some share → ∀ topology, σ.db.topology share.base.topologyId = some topology →
    topology.networkId = share.base.networkId
  editors : ∀ id share, σ.db.share id = some share → ∀ auth ∈ σ.editors id, share.base.networkId ∈ auth.networkIds
  unknown : ∀ id, σ.db.share id = none → σ.editors id = []

/-- If the caller may name the network at all, then it is that of the topology that the request names, and one to
which those have access who edited the share before. -/
def Alike (σ : Sharing) (request : ShareRequest) : Prop :=
  request.share.base.networkId ∈ request.auth.networkIds →
    (∀ topology, σ.db.topology request.share.base.topologyId = some topology →
      topology.networkId = request.share.base.networkId) ∧
    match request with
    | .create _ _ _ => True
    | .update _ id share _ => ∀ auth ∈ σ.editors id, share.base.networkId ∈ auth.networkIds

variable {σ : Sharing} {row : Share}

theorem share_insert (s : Db) (row : Share) (h : ∀ share ∈ s.shares.rows, share.id ≠ row.id) (id : Uuid) :
    (s.insert row h).share id = if id = row.id then some row else s.share id := find?_append_row Inventory.Entity.id h id

theorem share_put {s : Db} {row existing : Share} (h : s.share row.id = some existing) (id : Uuid) :
    (s.put row).share id = if id = row.id then some row else s.share id := find?_replace_row Inventory.Entity.id h id

theorem within_initial (topologies : List Topology) : Within (.initial topologies) :=
  ⟨fun _ _ h => (nomatch h), fun _ _ h => (nomatch h), fun _ _ => rfl⟩

/-- One row is new or another one, and its editors are those before and the one who wrote it. -/
theorem Within.written {auth : AuthenticatedEntity} {share row : Share} {t : Db} (h : Within σ) (hown : Own auth share row)
    (halike : ∀ topology, σ.db.topology share.base.topologyId = some topology → topology.networkId = share.base.networkId)
    (hearlier : ∀ earlier ∈ σ.editors row.id, share.base.networkId ∈ earlier.networkIds)
    (htopologies : t.topologies = σ.db.topologies) (hshares : ∀ id, t.share id = if id = row.id then some row else σ.db.share id)
    {editors : Uuid → List AuthenticatedEntity} (hothers : ∀ id, id ≠ row.id → editors id = σ.editors id)
    (hrow : ∀ editor ∈ editors row.id, editor ∈ σ.editors row.id ∨ editor = auth) : Within ⟨t, editors⟩ := by
  have htopology (id : Uuid) : t.topology id = σ.db.topology id := by rw [Db.topology, htopologies]; rfl
  constructor
  · intro id share' hfind topology ht
    rw [hshares] at hfind
    rw [htopology] at ht
    split_ifs at hfind with hid
    · obtain rfl := Option.some.inj hfind
      rw [hown.topologyId] at ht
      exact (halike topology ht).trans hown.networkId.symm
    · exact h.topology id share' hfind topology ht
  · intro id share' hfind editor heditor
    rw [hshares] at hfind
    split_ifs at hfind with hid
    · obtain rfl := Option.some.inj hfind
      rw [hown.networkId]
      rcases hrow editor (hid ▸ heditor) with hbefore | rfl
      · exact hearlier editor hbefore
      · exact hown.access
    · exact h.editors id share' hfind editor (hothers id hid ▸ heditor)
  · intro id hnone
    rw [hshares] at hnone
    split_ifs at hnone with hid
    exact (hothers id hid).trans (h.unknown id hnone)

theorem untouched {s t : Db} {r : Except Failure Share} {id : Uuid} (hrow : ∀ x, r = .ok x → x.id ≠ id)
    (hsame : t.share id = s.share id) : touched s t r id = false := by
  cases r with
  | ok x => simp [touched, hsame, hrow x rfl]
  | error e => simp [touched, hsame]

theorem Within.refused {r : Except Failure Share} {t : Db} (h : Within σ) (hrefused : Refused σ.db t r)
    (auth : AuthenticatedEntity) :
    Within ⟨t, fun id => if touched σ.db t r id then σ.editors id ++ [auth] else σ.editors id⟩ := by
  obtain ⟨rfl, e, rfl⟩ := hrefused
  have hnone (id : Uuid) : touched σ.db σ.db (.error e) id = false := untouched (fun _ h => (nomatch h)) rfl
  simp only [hnone, Bool.false_eq_true, if_false]
  exact h

/-- The row that a request has written is the one whose editors it has joined. -/
theorem Within.joined {auth : AuthenticatedEntity} {share row : Share} {t : Db} {r : Except Failure Share} (h : Within σ)
    (hown : Own auth share row)
    (halike : ∀ topology, σ.db.topology share.base.topologyId = some topology → topology.networkId = share.base.networkId)
    (hearlier : ∀ earlier ∈ σ.editors row.id, share.base.networkId ∈ earlier.networkIds)
    (htopologies : t.topologies = σ.db.topologies) (hshares : ∀ id, t.share id = if id = row.id then some row else σ.db.share id)
    (hr : ∀ x, r = .ok x → x = row) :
    Within ⟨t, fun id => if touched σ.db t r id then σ.editors id ++ [auth] else σ.editors id⟩ := by
  refine h.written hown halike hearlier htopologies hshares (fun id hid => ?_) (fun editor heditor => ?_)
  · have hnone := untouched (r := r) (fun x hx => hr x hx ▸ hid.symm) ((hshares id).trans (if_neg hid))
    rw [hnone, if_neg Bool.false_ne_true]
  · split_ifs at heditor
    · exact (List.mem_append.mp heditor).imp_right List.mem_singleton.mp
    · exact .inl heditor

theorem Within.step {x : ShareRequest × Oracle shareSig} (h : Within σ) (halike : Alike σ x.1) : Within (σ.step x) := by
  obtain ⟨request, ω⟩ := x
  cases request with
  | create auth share password =>
    rcases (leaves_createShare auth share password σ.db).run_any ω 0 with hrefused | ⟨row, hfresh, hown, ht, hr⟩
    · exact h.refused hrefused auth
    · have hnone : σ.db.share row.id = none :=
        List.find?_eq_none.mpr (fun share hshare => by simpa using hfresh share hshare)
      refine h.joined hown (halike hown.access).1 ?_ ((congrArg Db.topologies ht).trans rfl)
        (fun id => (congrArg (Db.share · id) ht).trans (share_insert _ _ _ id)) hr
      rw [h.unknown row.id hnone]
      exact fun _ h => absurd h List.not_mem_nil
  | update auth id share password =>
    rcases (leaves_updateShare auth id share password σ.db).run_any ω 0 with
      hrefused | ⟨existing, row, hexisting, rfl, hown, ht, hr⟩
    · exact h.refused hrefused auth
    · exact h.joined hown (halike hown.access).1 (halike hown.access).2 ((congrArg Db.topologies ht).trans rfl)
        (fun id => (congrArg (Db.share · id) ht).trans (share_put hexisting id)) hr

/-- In a run in which each request names a topology and its network. -/
theorem within_of_alike {xs : List (ShareRequest × Oracle shareSig)} {σ : Sharing} (h : Within σ)
    (halike : Meets Sharing.step (fun σ x => Alike σ x.1) σ xs) : Within (xs.foldl Sharing.step σ) :=
  halike.invariant Within (fun _ _ hw ha => hw.step ha) h

end network

section pages

/-- Whoever asks for it in whatever way, a page shows a topology of the network of its share, to which all have
access who created or edited the share. -/
def ShowsOwnNetwork (L : Libraries) (σ : Sharing) : Prop :=
  ∀ id embed referer password ω page, (run shareStep ω 0 (getShareTopology L id embed referer password) σ.db).result = .ok page →
    ∃ share, σ.db.share id = some share ∧ page.topology.networkId = share.base.networkId ∧
      ∀ auth ∈ σ.editors id, share.base.networkId ∈ auth.networkIds

theorem reading_getShareOrgPlan (share : Share) : Only Reading (getShareOrgPlan share) := by
  refine Only.bind ⟨trivial, fun r => Only.orFail r⟩ (fun network => (reading_found _ network).bind (fun organizationId => ?_))
  exact Only.bind ⟨trivial, fun r => Only.orFail r⟩ (fun plan => (reading_found _ plan).bind (fun _ => trivial))

theorem reading_checkPassword (L : Libraries) (share : Share) (password : Option String) :
    Only Reading (checkPassword L share password) := by
  unfold checkPassword
  split_ifs
  · cases password with
    | none => trivial
    | some password =>
      dsimp only
      split_ifs <;> trivial
  · trivial

/-- What a page shows is the topology that its share names. -/
theorem page_of_share (L : Libraries) (id : Uuid) (embed : Bool) (referer password : Option String) (s : Db) :
    Returns shareStep (fun _ _ _ => True) (fun page _ => ∃ share, s.share id = some share ∧
      s.topology share.base.topologyId = some page.topology) (getShareTopology L id embed referer password) s := by
  rintro (e | _) -
  · exact Returns.fail e
  change Returns _ _ _ ((found "Share not found" (s.share id)).bind _) s
  cases hshare : s.share id with
  | none => exact Returns.fail _
  | some share =>
    refine leaves_reading (p := utcNow) ⟨trivial, fun _ => trivial⟩ (fun e page h => nomatch h) (fun now => ?_)
    refine leaves_reading (Only.when _ trivial) (fun e page h => nomatch h) (fun _ => ?_)
    refine leaves_reading (reading_getShareOrgPlan share) (fun e page h => nomatch h) (fun plan => ?_)
    refine leaves_reading (Only.when _ trivial) (fun e page h => nomatch h) (fun _ => ?_)
    refine leaves_reading (reading_checkPassword L share password) (fun e page h => nomatch h) (fun _ => ?_)
    refine leaves_reading (Only.when _ trivial) (fun e page h => nomatch h) (fun _ => ?_)
    rintro (e | _) -
    · exact Returns.fail e
    change Returns _ _ _ ((found "Topology not found" (s.topology share.base.topologyId)).bind _) s
    cases htopology : s.topology share.base.topologyId with
    | none => exact Returns.fail _
    | some topology => exact .ret ⟨share, rfl, htopology⟩

theorem shows_of_within (L : Libraries) {σ : Sharing} (h : Within σ) : ShowsOwnNetwork L σ := by
  intro id embed referer password ω page hpage
  obtain ⟨share, hshare, htopology⟩ := (page_of_share L id embed referer password σ.db).run_any ω 0 page hpage
  exact ⟨share, hshare, h.topology id share hshare _ htopology, h.editors id share hshare⟩

theorem shares_show_own_network (L : Libraries) (topologies : List Topology) {xs : List (ShareRequest × Oracle shareSig)}
    (halike : Meets Sharing.step (fun σ x => Alike σ x.1) (.initial topologies) xs) :
    ShowsOwnNetwork L (xs.foldl Sharing.step (.initial topologies)) :=
  shows_of_within L (within_of_alike (within_initial topologies) halike)

section drafts

def libraries : Libraries := ⟨fun password hash => password = hash, some⟩

/-- A member with access to the network 20. -/
def editor : AuthenticatedEntity := .user 5 6 .member [20] "editor@example.com"

def draft (topologyId : Uuid) : Share :=
  ⟨Uuid.nil, 0, 0, ⟨topologyId, 20, Uuid.nil, "share", true, none, none, none, ⟨true, true, true⟩⟩⟩

def topologies : List Topology := [⟨1, 10, "of the network 10"⟩, ⟨2, 20, "of the network 20"⟩]

/-- Every request to the database succeeds. -/
def answers : (i : ShareOp) → i.Reply
  | .newV4 => 7
  | .utcNow => 0
  | .hashPassword password => .ok password
  | .getShare _ => .ok none
  | .createShare _ | .updateShare _ | .publish _ _ _ => .ok ()
  | .networkOrganization _ => .ok (some 6)
  | .organizationPlan _ => .ok (some none)
  | .getTopology _ => .ok none

def created (topologyId : Uuid) : List (ShareRequest × Oracle shareSig) :=
  [(.create editor (draft topologyId) none, fun _ => answers)]

theorem shares_show_own_network_created :
    Meets Sharing.step (fun σ x => Alike σ x.1) (.initial topologies) (created 2) ∧
    ShowsOwnNetwork libraries ((created 2).foldl Sharing.step (.initial topologies)) := by
  have halike : Meets Sharing.step (fun σ x => Alike σ x.1) (.initial topologies) (created 2) := by
    refine ⟨fun _ => ⟨fun topology htopology => ?_, trivial⟩, trivial⟩
    obtain rfl : ⟨2, 20, "of the network 20"⟩ = topology := Option.some.inj htopology
    rfl
  exact ⟨halike, shares_show_own_network libraries topologies halike⟩

/-- The editor names a topology of a network to which there is no access. -/
theorem share_shows_other_network : ¬ ∀ (L : Libraries) (topologies : List Topology) (xs : List (ShareRequest × Oracle shareSig)),
    ShowsOwnNetwork L (xs.foldl Sharing.step (.initial topologies)) := by
  intro h
  obtain ⟨share, hshare, hnetwork, -⟩ := h libraries topologies (created 1) 7 false none none (fun _ => answers) _ rfl
  have hfound : ((created 1).foldl Sharing.step (.initial topologies)).db.share 7 =
      some ⟨7, 0, 0, { (draft 1).base with createdBy := 5 }⟩ := by decide +kernel
  obtain rfl := Option.some.inj (hfound.symm.trans hshare)
  exact absurd hnetwork (by decide)

end drafts

end pages

end VantageNet.Shares
