import VantageNet.Handlers.Crud
import VantageNet.Interaction.Ensures

/-!
What the generic endpoints answer with and what it is of: the networks and the organization of
the caller.
-/

namespace VantageNet.Handlers

open Interaction Interaction.Program
open Events (AuthenticatedEntity UserOrgPermissions)
open Storage hiding params

/-- The network that an entity is of, or is. -/
def networkOf (T : EntityType) (e : Entity) : Option Uuid := if T = .network then some e.id else T.networkId e

/-- The entity is of a network of the caller, or of the organization of the caller. -/
def Belongs (auth : AuthenticatedEntity) (T : EntityType) (e : Entity) : Prop :=
  (∃ networkId ∈ auth.networkIds, networkOf T e = some networkId) ∨
    ∃ organizationId, T.organizationId e = some organizationId ∧ auth.organizationId = some organizationId

/-- The entities in a response. A bulk deletion answers with the number of those that it deletes. -/
def Response.Shows (T : EntityType) (s t : Db) : Response → Entity → Prop
  | entities es, e => e ∈ es
  | entity x, e => e = x
  | bulkDeleted _, e => e ∈ (s T).rows ∧ e ∉ (t T).rows

/-- In every environment, all that a successful request shows belongs to the caller. -/
def Respects {T : EntityType} (auth : AuthenticatedEntity) (endpoint : Endpoint T) (s : Db) : Prop :=
  ∀ ω response, (run crudStep ω 0 (serve auth endpoint) s).result = .ok response →
    ∀ e, response.Shows T s (run crudStep ω 0 (serve auth endpoint) s).state e → Belongs auth T e

namespace Endpoint

variable {T : EntityType}

def level : Endpoint T → UserOrgPermissions
  | getAll _ | getById _ => .viewer
  | bulkDelete _ => .member

/-- The ids that the request names. -/
def asked : Endpoint T → List Uuid
  | getAll _ => []
  | getById id => [id]
  | bulkDelete ids => ids

end Endpoint

instance lawfulQuery : (T : EntityType) → LawfulQuery T.FilterQuery
  | .network | .user | .userApiKey | .tag => inferInstanceAs (LawfulQuery NoFilterQuery)
  | .service | .daemon | .port => inferInstanceAs (LawfulQuery HostChildQuery)
  | .discovery => inferInstanceAs (LawfulQuery DiscoveryQuery)
  | .interface => inferInstanceAs (LawfulQuery InterfaceQuery)
  | .binding => inferInstanceAs (LawfulQuery BindingQuery)
  | .share => inferInstanceAs (LawfulQuery SharesQuery)
  | .daemonApiKey | .host | .subnet | .topology | .group => inferInstanceAs (LawfulQuery NetworkFilterQuery)

section selection

variable {s : Db} {T : EntityType} {auth : AuthenticatedEntity} {e : Entity} {id organizationId : Uuid}

theorem row_id : (T.row e).isId "id" id ↔ e.id = id := by
  simp [Columns.isId, EntityType.row]

theorem row_owner {column : String} (hcolumn : T.ownerColumn = column) (hid : column ≠ "id") :
    (T.row e).isId column id ↔ e.owner = id := by
  simp [Columns.isId, EntityType.row, hcolumn, hid]

/-- A chain of builder calls selects the rows that satisfy each of them. -/
theorem selected_build (calls : List Storage.Call) (hnamed : ∀ call ∈ calls, call.named) : ∃ rows,
    selected s T (build calls) = .ok rows ∧
      ∀ e, e ∈ rows ↔ e ∈ (s T).rows ∧ ∀ call ∈ calls, call.satisfied (T.row e) := by
  obtain ⟨conditions, hclause, -, hmeans⟩ := (build_means calls hnamed).parsed
  unfold selected
  rw [hclause]
  refine ⟨_, rfl, fun e => ?_⟩
  rw [List.mem_filter, decide_eq_true_iff]
  exact and_congr_right (fun _ => hmeans (T.row e))

/-- The call that the condition of a list starts from. -/
def baseCall (T : EntityType) (networkIds : List Uuid) (organizationId : Uuid) : Storage.Call :=
  if T.isNetworkKeyed then .networkIds networkIds
  else if T = .network then .entityIds networkIds
  else .organizationId organizationId

theorem baseFilter_eq (networkIds : List Uuid) :
    baseFilter T networkIds organizationId = build [baseCall T networkIds organizationId] := by
  cases T <;> rfl

theorem networkOf_of_keyed (h : T.isNetworkKeyed = true) : networkOf T e = some e.owner := by
  cases T <;> first | rfl | cases h

theorem organizationId_of_not_keyed (h : ¬ T.isNetworkKeyed = true) : T.organizationId e = some e.owner := by
  cases T <;> first | rfl | exact absurd rfl h

theorem belongs_of_baseCall (hauth : auth.organizationId = some organizationId)
    (h : (baseCall T auth.networkIds organizationId).satisfied (T.row e)) : Belongs auth T e := by
  unfold baseCall at h
  split_ifs at h with hkeyed hnetwork
  · obtain ⟨networkId, hmem, hrow⟩ := h
    have howner : e.owner = networkId := (row_owner (by simp [EntityType.ownerColumn, hkeyed]) (by decide)).mp hrow
    exact .inl ⟨networkId, hmem, (networkOf_of_keyed hkeyed).trans (congrArg some howner)⟩
  · obtain ⟨networkId, hmem, hrow⟩ := h
    exact .inl ⟨networkId, hmem, (if_pos hnetwork).trans (congrArg some (row_id.mp hrow))⟩
  · have howner : e.owner = organizationId :=
      (row_owner (by simp [EntityType.ownerColumn, hkeyed]) (by decide)).mp h
    exact .inr ⟨organizationId, (organizationId_of_not_keyed hkeyed).trans (congrArg some howner), hauth⟩

/-- Whatever the query is, what a list selects belongs to the caller. -/
theorem belongs_of_selected {query : T.FilterQuery} {rows : List Entity} (hauth : auth.organizationId = some organizationId)
    (hrows : selected s T (applyToFilter query (baseFilter T auth.networkIds organizationId) auth.networkIds organizationId) =
      .ok rows) (he : e ∈ rows) : Belongs auth T e := by
  obtain ⟨calls, hnamed, hfilter⟩ := LawfulQuery.narrows query (baseFilter T auth.networkIds organizationId)
    auth.networkIds organizationId
  have hbuild : calls.foldl Storage.Call.apply (baseFilter T auth.networkIds organizationId) =
      build (baseCall T auth.networkIds organizationId :: calls) := by
    rw [baseFilter_eq]
    rfl
  have hall : ∀ call ∈ baseCall T auth.networkIds organizationId :: calls, call.named := by
    refine List.forall_mem_cons.mpr ⟨?_, hnamed⟩
    unfold baseCall
    split_ifs <;> trivial
  obtain ⟨rows', hrows', hmem⟩ := selected_build (s := s) (T := T) _ hall
  rw [hfilter, hbuild, hrows', Except.ok.injEq] at hrows
  subst hrows
  exact belongs_of_baseCall hauth (((hmem e).mp he).2 _ List.mem_cons_self)

end selection

section admission

variable {T : EntityType} {auth : AuthenticatedEntity} {e : Entity} {organizationId : Uuid}

/-- What the service says the entity is of is of the caller. -/
def Admits (T : EntityType) (userNetworkIds : List Uuid) (userOrganizationId : Uuid) (e : Entity) : Prop :=
  (∀ id ∈ T.getNetworkId e, id ∈ userNetworkIds) ∧ ∀ id ∈ T.getOrganizationId e, id = userOrganizationId

theorem ite_eq_ok {p : Prop} [Decidable p] {f : Failure} :
    (if p then .ok () else .error f : Except Failure Unit) = .ok () ↔ p := by
  split_ifs with h
  · exact iff_of_true rfl h
  · exact iff_of_false (fun h => nomatch h) h

theorem ite_error_eq_ok {p : Prop} [Decidable p] {f : Failure} {r : Except Failure Unit} :
    (if p then .error f else r) = .ok () ↔ ¬ p ∧ r = .ok () := by
  split_ifs with h
  · exact iff_of_false (fun h => nomatch h) (fun h' => h'.1 h)
  · exact (and_iff_right h).symm

theorem validateReadAccess_eq_ok {networkId entityOrganizationId : Option Uuid} {userNetworkIds : List Uuid} :
    validateReadAccess networkId entityOrganizationId userNetworkIds organizationId = .ok () ↔
      (∀ id ∈ networkId, id ∈ userNetworkIds) ∧ ∀ id ∈ entityOrganizationId, id = organizationId := by
  have hnetwork : validateNetworkAccess networkId userNetworkIds "access" = .ok () ↔ ∀ id ∈ networkId, id ∈ userNetworkIds := by
    cases networkId with
    | none => exact iff_of_true rfl (fun _ h => nomatch h)
    | some id => exact ite_eq_ok.trans (by simp)
  have horganization : validateOrganizationAccess entityOrganizationId organizationId "access" = .ok () ↔
      ∀ id ∈ entityOrganizationId, id = organizationId := by
    cases entityOrganizationId with
    | none => exact iff_of_true rfl (fun _ h => nomatch h)
    | some id => exact ite_eq_ok.trans (by simp)
  rw [← hnetwork, ← horganization]
  unfold validateReadAccess
  cases validateNetworkAccess networkId userNetworkIds "access" with
  | error e => exact iff_of_false (fun h => nomatch h) (fun h => nomatch h.1)
  | ok u => exact ⟨fun h => ⟨rfl, h⟩, And.right⟩

theorem validateBulkDeleteAccess_eq_ok {networkId entityOrganizationId : Option Uuid} {userNetworkIds : List Uuid} :
    validateBulkDeleteAccess networkId entityOrganizationId userNetworkIds organizationId = .ok () ↔
      (∀ id ∈ networkId, id ∈ userNetworkIds) ∧ ∀ id ∈ entityOrganizationId, id = organizationId := by
  unfold validateBulkDeleteAccess
  rw [ite_error_eq_ok, ite_error_eq_ok, and_iff_left rfl]
  apply and_congr
  · cases networkId <;> simp
  · cases entityOrganizationId <;> simp

/-- For every entity type but one the service tells what the entity is of. -/
theorem belongs_of_admits (hT : T ≠ .tag) (hauth : auth.organizationId = some organizationId)
    (h : Admits T auth.networkIds organizationId e) : Belongs auth T e := by
  cases hkeyed : T.isNetworkKeyed with
  | true =>
    have hnetwork : T.getNetworkId e = some e.owner := by
      cases T <;> first | rfl | cases hkeyed
    exact .inl ⟨e.owner, h.1 e.owner hnetwork, networkOf_of_keyed hkeyed⟩
  | false =>
    have hnot : ¬ T.isNetworkKeyed = true := by simp [hkeyed]
    have horganization : T.getOrganizationId e = some e.owner := by
      cases T <;> first | rfl | exact absurd rfl hT | cases hkeyed
    have howner : e.owner = organizationId := h.2 e.owner horganization
    exact .inr ⟨organizationId, (organizationId_of_not_keyed hnot).trans (congrArg some howner), hauth⟩

theorem belongs_tag_iff : Belongs auth .tag e ↔ auth.organizationId = some e.owner := by
  simp [Belongs, networkOf, EntityType.networkId, EntityType.organizationId]

/-- The service says nothing of what a tag is of. -/
theorem admits_tag (userNetworkIds : List Uuid) : Admits .tag userNetworkIds organizationId e := by
  simp [Admits, EntityType.getNetworkId, EntityType.getOrganizationId]

end admission

section programs

variable {α : Type} {may : Db → (i : CrudOp) → i.Reply → Prop} {s : Db} {T : EntityType} {auth : AuthenticatedEntity}

theorem eq_of_id_eq {a b : Entity} (ha : a ∈ (s T).rows) (hb : b ∈ (s T).rows) (h : a.id = b.id) : a = b :=
  (s T).eq_of_key_eq (fun _ _ hne => hne) ha hb h

theorem returns_authorized (level : UserOrgPermissions) :
    Returns crudStep may (fun _ t => t = s ∧ auth.atLeast level = true) (authorized auth level) s := by
  unfold authorized
  split_ifs with hlevel
  · exact .ret ⟨rfl, hlevel⟩
  · exact .fail _

theorem returns_organizationContext :
    Returns crudStep may (fun organizationId t => t = s ∧ auth.organizationId = some organizationId)
      (organizationContext auth) s := by
  unfold organizationContext
  cases hauth : auth.organizationId with
  | some organizationId => exact .ret ⟨rfl, rfl⟩
  | none => exact .fail _

theorem returns_orFail {r : Except Failure α} : Returns crudStep may (fun a t => t = s ∧ r = .ok a) (orFail r) s := by
  cases r with
  | error e => exact .fail e
  | ok a => exact .ret ⟨rfl, rfl⟩

theorem returns_orInternal {q : α → Db → Prop} {p : Task α} (hp : Returns crudStep may q p s) :
    Returns crudStep may q (orInternal p) s := by
  apply Ensures.bind
  apply Ensures.attempt
  apply Ensures.imp hp
  rintro (e | a) t ht
  · exact Returns.fail _
  · exact Returns.ret (ht a rfl)

theorem map_eq_ok {β : Type} {f : α → β} {r : Except Failure α} {b : β} : r.map f = .ok b ↔ ∃ a, r = .ok a ∧ f a = b := by
  cases r <;> simp [Except.map]

theorem returns_getAll (f : Storage.EntityFilter) : Returns crudStep may
    (fun es t => t = s ∧ ∃ rows, selected s T f = .ok rows ∧ es.Perm rows) (CrudService.getAll T f) s := by
  intro r _
  refine returns_orFail.imp ?_
  rintro es t ⟨ht, hes⟩
  refine ⟨ht, ?_⟩
  rcases r with e | proposed
  · cases hes
  · obtain ⟨rows, hrows, rfl⟩ := map_eq_ok.mp hes
    exact ⟨rows, hrows, arrange_perm _ _ _⟩

theorem returns_getById (id : Uuid) : Returns crudStep may
    (fun found t => t = s ∧ ∀ e ∈ found, e ∈ (s T).rows ∧ e.id = id) (CrudService.getById T id) s := by
  obtain ⟨rows, hrows, hmem⟩ := selected_build (s := s) (T := T) [.entityId id] (by simp [Storage.Call.named])
  intro r _
  refine returns_orFail.imp ?_
  rintro found t ⟨ht, hfound⟩
  refine ⟨ht, fun e he => ?_⟩
  rcases r with e | answer
  · cases hfound
  · obtain ⟨rows', hrows', rfl⟩ := map_eq_ok.mp hfound
    cases hrows.symm.trans hrows'
    obtain ⟨hrow, hid⟩ := (hmem e).mp (List.mem_of_mem_head? he)
    exact ⟨hrow, row_id.mp (hid _ (List.mem_singleton_self _))⟩

theorem returns_getAllHandler (query : T.FilterQuery) :
    Returns crudStep may (fun es _ => ∀ e ∈ es, Belongs auth T e) (getAllHandler T auth query) s := by
  refine (returns_authorized .viewer).bind ?_
  rintro - _ ⟨rfl, -⟩
  refine returns_organizationContext.bind ?_
  rintro organizationId _ ⟨rfl, hauth⟩
  refine (returns_orInternal (returns_getAll _)).imp ?_
  rintro es _ ⟨rfl, rows, hrows, hperm⟩ e he
  exact belongs_of_selected hauth hrows (hperm.mem_iff.mp he)

/-- The entity is one that the endpoint may name, and the checks on it have passed. -/
def Passed (auth : AuthenticatedEntity) (endpoint : Endpoint T) (s : Db) (e : Entity) : Prop :=
  e ∈ (s T).rows ∧ e.id ∈ endpoint.asked ∧ auth.atLeast endpoint.level = true ∧
    ∃ organizationId, auth.organizationId = some organizationId ∧ Admits T auth.networkIds organizationId e

theorem returns_getByIdHandler (id : Uuid) :
    Returns crudStep may (fun e _ => Passed auth (T := T) (.getById id) s e) (getByIdHandler T auth id) s := by
  refine (returns_authorized .viewer).bind ?_
  rintro - _ ⟨rfl, hlevel⟩
  refine returns_organizationContext.bind ?_
  rintro organizationId _ ⟨rfl, hauth⟩
  refine (returns_orInternal (returns_getById id)).bind ?_
  rintro found s ⟨rfl, hfound⟩
  cases found with
  | none => exact .fail _
  | some e =>
    obtain ⟨hrow, hid⟩ := hfound e rfl
    refine returns_orFail.bind ?_
    rintro ⟨⟩ _ ⟨rfl, hread⟩
    refine .ret ⟨hrow, ?_, hlevel, organizationId, hauth, validateReadAccess_eq_ok.mp hread⟩
    rw [hid]
    exact List.mem_singleton_self id

/-- The check of every entity before any is deleted. -/
theorem returns_validated {organizationId : Uuid} (entities : List Entity) :
    Returns crudStep may (fun _ t => t = s ∧ ∀ e ∈ entities, Admits T auth.networkIds organizationId e)
      (forEach (fun e => orFail (validateBulkDeleteAccess (T.getNetworkId e) (T.getOrganizationId e) auth.networkIds
        organizationId)) entities) s := by
  refine Returns.forEach (fun done t => t = s ∧ ∀ e ∈ done, Admits T auth.networkIds organizationId e) entities ?_
    ⟨rfl, by simp⟩
  rintro done e rest - _ ⟨rfl, hdone⟩
  refine returns_orFail.imp ?_
  rintro ⟨⟩ _ ⟨rfl, hcheck⟩
  refine ⟨rfl, fun x hx => ?_⟩
  rcases List.mem_append.mp hx with hx | hx
  · exact hdone x hx
  · rw [List.mem_singleton.mp hx]
    exact validateBulkDeleteAccess_eq_ok.mp hcheck

theorem returns_deleteMany (ids : List Uuid) : Returns crudStep may
    (fun _ t => ∀ e ∈ (s T).rows, e ∉ (t T).rows → e.id ∈ ids) (CrudService.deleteMany T ids auth) s := by
  unfold CrudService.deleteMany
  split_ifs
  · exact .ret (fun e he hnot => absurd he hnot)
  · refine Returns.bind (q := fun _ t => t = s) (Returns.forEach (fun _ t => t = s) ids ?_ rfl) ?_
    · rintro done id rest - _ rfl
      refine (returns_getById id).bind ?_
      rintro found _ ⟨rfl, -⟩
      cases found with
      | none => exact .ret rfl
      | some e =>
        intro r _
        exact returns_orFail.imp (fun _ _ h => h.1)
    rintro - _ rfl
    intro r _
    refine returns_orFail.imp ?_
    rintro n t ⟨rfl, hn⟩ e he hnot
    rcases r with e | m
    · cases hn
    · by_contra hid
      refine hnot ?_
      change e ∈ (Db.without _ T ids T).rows
      unfold Db.without
      rw [Function.update_self]
      exact List.mem_filter.mpr ⟨he, by simpa using hid⟩

theorem returns_bulkDeleteHandler (ids : List Uuid) : Returns crudStep may
    (fun _ t => ∀ e ∈ (s T).rows, e ∉ (t T).rows → Passed auth (T := T) (.bulkDelete ids) s e)
      (bulkDeleteHandler T auth ids) s := by
  refine (returns_authorized .member).bind ?_
  rintro - _ ⟨rfl, hlevel⟩
  split_ifs
  · exact .fail _
  · refine returns_organizationContext.bind ?_
    rintro organizationId s ⟨rfl, hauth⟩
    refine (returns_getAll _).bind ?_
    rintro entities s ⟨rfl, rows, hrows, hperm⟩
    obtain ⟨rows', hrows', hmem⟩ := selected_build (s := s) (T := T) [.entityIds ids] (by simp [Storage.Call.named])
    cases hrows.symm.trans hrows'
    refine (returns_validated (T := T) entities).bind ?_
    rintro - s ⟨rfl, hchecked⟩
    refine (returns_deleteMany _).bind ?_
    rintro deletedCount t hdeleted
    refine .ret (fun e he hnot => ?_)
    obtain ⟨x, hx, hxid⟩ := List.mem_map.mp (hdeleted e he hnot)
    obtain ⟨hxrow, hxids⟩ := (hmem x).mp (hperm.mem_iff.mp hx)
    obtain ⟨id, hid, hisId⟩ := hxids _ (List.mem_singleton_self _)
    obtain rfl := eq_of_id_eq hxrow he hxid
    exact ⟨he, (row_id.mp hisId) ▸ hid, hlevel, organizationId, hauth, hchecked x hx⟩

/-- All that a successful request shows belongs to the caller, or has been named by it and has passed the checks. -/
theorem returns_serve (endpoint : Endpoint T) : Returns crudStep may
    (fun response t => ∀ e, response.Shows T s t e → Belongs auth T e ∨ Passed auth endpoint s e) (serve auth endpoint) s := by
  cases endpoint with
  | getAll query =>
    refine (returns_getAllHandler query).bind (fun es t hes => .ret (fun e he => .inl (hes e he)))
  | getById id =>
    refine (returns_getByIdHandler id).bind (fun x t hx => .ret ?_)
    rintro _ rfl
    exact .inr hx
  | bulkDelete ids =>
    exact (returns_bulkDeleteHandler ids).bind (fun response t ht => .ret (fun e he => .inr (ht e he.1 he.2)))

end programs

/-- An environment that carries out every statement. -/
def granted : (i : CrudOp) → i.Reply
  | .getAll _ _ => .ok []
  | .getOne _ _ => .ok none
  | .deleteMany _ _ => .ok 0
  | .publishDeleted _ _ _ _ _ => .ok ()

section granting

variable {α β : Type} {s : Db} {T : EntityType} {auth : AuthenticatedEntity} {e : Entity}

/-- In that environment the task comes to an end with such a value and leaves the tables alone. -/
def Gives (q : α → Prop) (p : Task α) (s : Db) : Prop :=
  Ensures crudStep (fun _ i r => r = granted i) (fun r t => (∃ a, r = .ok a ∧ q a) ∧ t = s) p s

theorem Gives.ret {q : α → Prop} {a : α} (h : q a) : Gives q (.ret a) s := ⟨⟨a, rfl, h⟩, rfl⟩

theorem Gives.bind {q : α → Prop} {p : Task α} {f : α → Task β} {post : Except Failure β → Db → Prop} (hp : Gives q p s)
    (hf : ∀ a, q a → Ensures crudStep (fun _ i r => r = granted i) post (f a) s) :
    Ensures crudStep (fun _ i r => r = granted i) post (p.bind f) s := by
  apply Ensures.bind
  apply Ensures.imp hp
  rintro _ t ⟨⟨a, rfl, ha⟩, rfl⟩
  exact hf a ha

theorem Gives.orInternal {q : α → Prop} {p : Task α} (hp : Gives q p s) : Gives q (orInternal p) s := by
  apply Ensures.bind
  apply Ensures.attempt
  apply Ensures.imp hp
  rintro _ t ⟨⟨a, rfl, ha⟩, rfl⟩
  exact Gives.ret ha

theorem gives_authorized {level : UserOrgPermissions} (hlevel : auth.atLeast level = true) :
    Gives (fun _ => True) (authorized auth level) s := by
  unfold authorized
  rw [if_pos hlevel]
  exact .ret trivial

/-- Only users and API keys have permissions, and these are of an organization. -/
theorem exists_organizationId {level : UserOrgPermissions} (hlevel : auth.atLeast level = true) :
    ∃ organizationId, auth.organizationId = some organizationId := by
  cases auth with
  | user _ organizationId _ _ _ => exact ⟨organizationId, rfl⟩
  | apiKey _ _ organizationId _ _ => exact ⟨organizationId, rfl⟩
  | daemon _ _ _ | system | anonymous => cases hlevel

theorem gives_organizationContext {level : UserOrgPermissions} (hlevel : auth.atLeast level = true) :
    Gives (fun _ => True) (organizationContext auth) s := by
  obtain ⟨organizationId, horganization⟩ := exists_organizationId hlevel
  unfold organizationContext
  rw [horganization]
  exact .ret trivial

theorem gives_getById (he : e ∈ (s T).rows) : Gives (fun found => found = some e) (CrudService.getById T e.id) s := by
  obtain ⟨rows, hrows, hmem⟩ := selected_build (s := s) (T := T) [.entityId e.id] (by simp [Storage.Call.named])
  have hhead : rows.head? = some e := by
    cases rows with
    | nil => exact absurd ((hmem e).mpr ⟨he, List.forall_mem_singleton.mpr (row_id.mpr rfl)⟩) List.not_mem_nil
    | cons x rest =>
      obtain ⟨hx, hid⟩ := (hmem x).mp List.mem_cons_self
      exact congrArg some (eq_of_id_eq hx he (row_id.mp (hid _ (List.mem_singleton_self _))))
  rintro _ rfl
  have hreply : (selected s T (Storage.EntityFilter.unfiltered.entityId e.id)).map List.head? = .ok (some e) := by
    rw [show Storage.EntityFilter.unfiltered.entityId e.id = Storage.build [.entityId e.id] from rfl, hrows, ← hhead]
    rfl
  change Ensures crudStep _ _ (orFail ((selected s T (Storage.EntityFilter.unfiltered.entityId e.id)).map List.head?)) s
  rw [hreply]
  exact Gives.ret rfl

/-- A stored tag is shown to whoever asks for it. -/
theorem gives_getByIdHandler (hlevel : auth.atLeast .viewer = true) (he : e ∈ (s .tag).rows) :
    Gives (fun x => x = e) (getByIdHandler .tag auth e.id) s := by
  refine (gives_authorized hlevel).bind (fun _ _ => ?_)
  refine (gives_organizationContext hlevel).bind (fun organizationId _ => ?_)
  refine (gives_getById he).orInternal.bind ?_
  rintro _ rfl
  have hread : validateReadAccess (EntityType.tag.getNetworkId e) (EntityType.tag.getOrganizationId e) auth.networkIds
      organizationId = .ok () := validateReadAccess_eq_ok.mpr (admits_tag _)
  dsimp only
  rw [hread]
  exact Gives.ret rfl

theorem gives_getAll_ids {ids : List Uuid} : Gives
    (fun es => ∀ e, e ∈ es ↔ e ∈ (s T).rows ∧ e.id ∈ ids) (CrudService.getAll T (Storage.EntityFilter.unfiltered.entityIds ids)) s := by
  obtain ⟨rows, hrows, hmem⟩ := selected_build (s := s) (T := T) [.entityIds ids] (by simp [Storage.Call.named])
  rintro _ rfl
  change Ensures crudStep _ _ (orFail ((selected s T (Storage.EntityFilter.unfiltered.entityIds ids)).map
    (fun rows => arrange Entity.createdAt rows []))) s
  rw [show Storage.EntityFilter.unfiltered.entityIds ids = Storage.build [.entityIds ids] from rfl, hrows]
  refine Gives.ret (fun e => ?_)
  rw [(arrange_perm _ _ _).mem_iff, hmem, List.forall_mem_singleton]
  refine and_congr_right (fun _ => ⟨?_, fun h => ⟨e.id, h, row_id.mpr rfl⟩⟩)
  rintro ⟨id, hid, hisId⟩
  exact row_id.mp hisId ▸ hid

/-- The checks of a bulk deletion let every tag through. -/
theorem gives_validated {organizationId : Uuid} (entities : List Entity) :
    Gives (fun _ => True) (forEach (fun e => orFail (validateBulkDeleteAccess (EntityType.tag.getNetworkId e)
      (EntityType.tag.getOrganizationId e) auth.networkIds organizationId)) entities) s := by
  induction entities with
  | nil => exact .ret trivial
  | cons x entities ih =>
    refine Gives.bind (q := fun _ => True) (p := orFail _) ?_ (fun _ _ => ih)
    rw [validateBulkDeleteAccess_eq_ok.mpr (admits_tag _)]
    exact .ret trivial

theorem gives_published {ids : List Uuid} (hids : ∀ id ∈ ids, ∃ e ∈ (s T).rows, e.id = id) : Gives (fun _ => True)
    (forEach (fun id => (CrudService.getById T id).bind (fun found =>
      match found with
      | none => ret ()
      | some e => .op (CrudOp.publishDeleted T id (T.getNetworkId e) (T.getOrganizationId e) auth) orFail)) ids) s := by
  induction ids with
  | nil => exact .ret trivial
  | cons id ids ih =>
    obtain ⟨⟨e, he, rfl⟩, hrest⟩ := List.forall_mem_cons.mp hids
    refine Gives.bind (q := fun _ => True) ?_ (fun _ _ => ih hrest)
    refine (gives_getById he).bind ?_
    rintro _ rfl _ rfl
    exact Gives.ret trivial

/-- A stored tag is deleted by whoever names it, if all that is named is carried out. -/
theorem granted_bulkDeleteHandler {ids : List Uuid} (hlevel : auth.atLeast .member = true) (he : e ∈ (s .tag).rows)
    (hid : e.id ∈ ids) : Ensures crudStep (fun _ i r => r = granted i)
      (fun r t => (∃ response, r = .ok response) ∧ e ∉ (t .tag).rows) (bulkDeleteHandler .tag auth ids) s := by
  refine (gives_authorized hlevel).bind (fun _ _ => ?_)
  rw [if_neg (by cases ids <;> simp_all)]
  refine (gives_organizationContext hlevel).bind (fun organizationId _ => ?_)
  refine gives_getAll_ids.bind (fun entities hentities => ?_)
  refine (gives_validated entities).bind (fun _ _ => ?_)
  have hmem : e ∈ entities := (hentities e).mpr ⟨he, hid⟩
  have hne : (entities.map Entity.id).isEmpty = false := by
    cases entities with
    | nil => cases hmem
    | cons _ _ => rfl
  unfold CrudService.deleteMany
  rw [hne]
  apply Ensures.bind
  refine (gives_published (fun id h => ?_)).bind (fun _ _ => ?_)
  · obtain ⟨x, hx, hxid⟩ := List.mem_map.mp h
    exact ⟨x, ((hentities x).mp hx).1, hxid⟩
  · rintro _ rfl
    refine ⟨⟨_, rfl⟩, fun hleft => ?_⟩
    change e ∈ (Db.without s .tag (entities.map Entity.id) .tag).rows at hleft
    unfold Db.without at hleft
    rw [Function.update_self] at hleft
    exact of_decide_eq_true (List.mem_filter.mp hleft).2 (List.mem_map_of_mem hmem)

end granting

/-- A generic endpoint shows and deletes only what belongs to the caller if and only if no tag of another organization
is named. -/
theorem serve_respects_iff {T : EntityType} (auth : AuthenticatedEntity) (endpoint : Endpoint T) (s : Db) :
    Respects auth endpoint s ↔ (T = .tag → auth.atLeast endpoint.level = true →
      ∀ e ∈ (s T).rows, e.id ∈ endpoint.asked → auth.organizationId = some e.owner) := by
  constructor
  · rintro h rfl hlevel e he hasked
    rw [← belongs_tag_iff]
    cases endpoint with
    | getAll query => cases hasked
    | getById id =>
      obtain rfl : e.id = id := List.mem_singleton.mp hasked
      have hserve : Gives (fun response => response = .entity e) (serve auth (.getById e.id : Endpoint .tag)) s :=
        (gives_getByIdHandler hlevel he).bind (fun x hx => Gives.ret (congrArg Response.entity hx))
      obtain ⟨⟨_, hresult, rfl⟩, -⟩ := hserve.run (answered_of_forall (fun _ _ _ => rfl) 0 _ s) (ω := fun _ => granted)
      exact h (fun _ => granted) _ hresult e rfl
    | bulkDelete ids =>
      have hserve : Ensures crudStep (fun _ i r => r = granted i)
          (fun r t => (∃ response, r = .ok (.bulkDeleted response)) ∧ e ∉ (t .tag).rows)
          (serve auth (.bulkDelete ids : Endpoint .tag)) s := by
        apply Ensures.bind
        apply (granted_bulkDeleteHandler hlevel he hasked).imp
        rintro _ t ⟨⟨response, rfl⟩, hgone⟩
        exact ⟨⟨response, rfl⟩, hgone⟩
      obtain ⟨⟨response, hresult⟩, hgone⟩ := hserve.run (answered_of_forall (fun _ _ _ => rfl) 0 _ s) (ω := fun _ => granted)
      exact h (fun _ => granted) _ hresult e ⟨he, hgone⟩
  · intro h ω response hresult e hshown
    have hserve : Returns crudStep (fun _ _ _ => True)
        (fun response t => ∀ e, response.Shows T s t e → Belongs auth T e ∨ Passed auth endpoint s e) (serve auth endpoint) s :=
      returns_serve endpoint
    rcases hserve.run (answered_of_forall (fun _ _ _ => trivial) 0 _ s) hresult e hshown with
      hbelongs | ⟨hrow, hasked, hlevel, organizationId, hauth, hadmits⟩
    · exact hbelongs
    · by_cases hT : T = .tag
      · subst hT
        exact belongs_tag_iff.mpr (h rfl hlevel e hrow hasked)
      · exact belongs_of_admits hT hauth hadmits

/-- The tag 30 of organization 6. -/
def foreignTag : Db
  | .tag => ⟨[⟨30, 0, 6, []⟩], List.pairwise_singleton _ _⟩
  | _ => .empty

/-- A viewer of organization 5 reads the tag of organization 6. -/
theorem serve_not_respects : ¬ ∀ (T : EntityType) (auth : AuthenticatedEntity) (endpoint : Endpoint T) (s : Db),
    Respects auth endpoint s := by
  intro h
  have hbelongs := h .tag (.user 7 5 .viewer [1] "viewer@example.com") (.getById 30) foreignTag (fun _ => granted)
    (.entity ⟨30, 0, 6, []⟩) (by decide +kernel) ⟨30, 0, 6, []⟩ rfl
  exact absurd (belongs_tag_iff.mp hbelongs) (by decide)

end VantageNet.Handlers
