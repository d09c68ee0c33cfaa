import VantageNet.Topologies.Batching
import VantageNet.Topologies.Handlers

/-!
What a refresh or a rebuild reads and which stored topologies it changes.
-/

namespace VantageNet.Topologies

open Events Interaction Interaction.Program TopologyService

variable {R : Records}

/-- Entities are only asked for in these networks. -/
def ReadsWithin (networkIds : List Uuid) : TopologyOp R → Prop
  | .listEntities _ p => ∀ entity, p entity = true → R.networkId entity ∈ networkIds
  | _ => True

/-- A topology that is no longer as it was has this id, and is and was in one of these networks. -/
structure ChangesOnly (networkIds : List Uuid) (id : Uuid) (s t : Db R) : Prop where
  before : ∀ r ∈ s.topologies.rows, r ∉ t.topologies.rows → r.id = id ∧ r.base.networkId ∈ networkIds
  after : ∀ r ∈ t.topologies.rows, r ∉ s.topologies.rows → r.id = id ∧ r.base.networkId ∈ networkIds

/-- Whatever the environment answers, the request stays with the networks of the caller and the topology it names. -/
def Confined (endpoint : Endpoint) (auth : AuthenticatedEntity) (id : Uuid) (topology : Topology R) (s : Db R) : Prop :=
  Only (ReadsWithin auth.networkIds) (serve endpoint auth id topology) ∧
    ∀ ω, ChangesOnly auth.networkIds id s (run topologyStep ω 0 (serve endpoint auth id topology) s).state

/-- The stored topology of the body's id, if there is one, is the one that the path names and in a network of the caller. -/
def Named (auth : AuthenticatedEntity) (id : Uuid) (topology : Topology R) (s : Db R) : Prop :=
  ∀ r ∈ s.topologies.rows, r.id = topology.id → r.id = id ∧ r.base.networkId ∈ auth.networkIds

section operations

variable {P : TopologyOp R → Prop} {networkId : Uuid}

theorem only_getEntities {k : Kind} {p : R.Of k → Bool} (h : P (.listEntities k p)) : Only P (Storage.getEntities k p) :=
  ⟨h, fun r => .orFail r⟩

theorem only_getEntityData (h : ∀ k (p : R.Of k → Bool), (∀ entity, p entity = true → R.networkId entity = networkId) →
    P (.listEntities k p)) : Only P (getEntityData networkId) := by
  have hnetwork (k : Kind) : P (.listEntities k (inNetwork networkId)) := h k _ (fun _ => of_decide_eq_true)
  have hhosts : P (.listEntities .host (fun host => inNetwork networkId host && !R.hidden host)) :=
    h .host _ (fun _ hhost => of_decide_eq_true (Bool.and_eq_true_iff.mp hhost).1)
  refine (only_getEntities hhosts).bind (fun hosts => ?_)
  refine (only_getEntities (hnetwork _)).bind (fun interfaces => ?_)
  refine (only_getEntities (hnetwork _)).bind (fun subnets => ?_)
  refine (only_getEntities (hnetwork _)).bind (fun groups => ?_)
  refine (only_getEntities (hnetwork _)).bind (fun ports => ?_)
  exact (only_getEntities (hnetwork _)).bind (fun bindings => trivial)

theorem only_getServiceData (h : P (.listEntities .service (inNetwork networkId))) (options : TopologyRequestOptions) :
    Only P (getServiceData networkId options) := (only_getEntities h).bind (fun _ => trivial)

theorem only_update (topology : Topology R) (auth : AuthenticatedEntity) (hget : P (.getTopology topology.id))
    (hupdate : ∀ now, P (.updateTopology { topology with updatedAt := now })) (hnow : P .utcNow) (hid : P .newV4)
    (hpublish : ∀ event, P (.publish event)) : Only P (update topology auth) := by
  have hget : Only P (Storage.getById topology.id) := ⟨hget, fun r => .orFail r⟩
  refine hget.bind (fun found => ?_)
  rcases found with _ | current
  · trivial
  · refine Only.bind (p := Storage.update topology) ⟨hnow, fun now => ⟨hupdate now, fun r => ?_⟩⟩ (fun updated => ?_)
    · exact (Only.orFail r).bind (fun _ => trivial)
    · exact ⟨hid, fun id => ⟨hnow, fun now => ⟨hpublish _, fun _ => trivial⟩⟩⟩

theorem only_reportRebuild (auth : AuthenticatedEntity) (honboarding : ∀ id, P (.getOnboarding id)) (hid : P .newV4)
    (hnow : P .utcNow) (htelemetry : ∀ event, P (.publishTelemetry event)) :
    Only P (reportRebuild auth : Task R Unit) := by
  unfold reportRebuild
  cases auth.organizationId with
  | none => trivial
  | some organizationId =>
    have hget : Only P (Storage.getOnboarding organizationId : Task R _) := ⟨honboarding _, fun r => .orFail r⟩
    refine hget.bind (fun found => ?_)
    rcases found with _ | onboarding
    · trivial
    · exact .when _ ⟨hid, fun id => ⟨hnow, fun now => ⟨htelemetry _, fun _ => trivial⟩⟩⟩

end operations

/-- The body names a network of the caller, and everything is read from it. -/
theorem readsWithin_serve (endpoint : Endpoint) (auth : AuthenticatedEntity) (id : Uuid) (topology : Topology R) :
    Only (ReadsWithin auth.networkIds) (serve endpoint auth id topology) := by
  have hadmitted (p : Task R Unit) (hp : topology.base.networkId ∈ auth.networkIds → Only (ReadsWithin auth.networkIds) p) :
      Only (ReadsWithin auth.networkIds) ((orFail (admitted auth topology)).bind (fun _ => p)) := by
    unfold admitted
    split_ifs with hlevel hnetwork
    · exact hp (List.contains_iff_mem.mp hnetwork)
    · trivial
    · trivial
  have hreads (hnetwork : topology.base.networkId ∈ auth.networkIds) (k : Kind) (p : R.Of k → Bool)
      (hp : ∀ entity, p entity = true → R.networkId entity = topology.base.networkId) :
      ReadsWithin auth.networkIds (.listEntities k p) := fun entity hentity => (hp entity hentity).symm ▸ hnetwork
  cases endpoint with
  | refresh =>
    refine hadmitted _ (fun hnetwork => ?_)
    refine (only_getEntityData (hreads hnetwork)).bind (fun data => ?_)
    refine (only_getServiceData (hreads hnetwork _ _ (fun _ => of_decide_eq_true)) _).bind (fun services => ?_)
    exact (only_update _ auth trivial (fun _ => trivial) trivial trivial (fun _ => trivial)).bind (fun _ => trivial)
  | rebuild =>
    refine hadmitted _ (fun hnetwork => ?_)
    refine (only_getEntityData (hreads hnetwork)).bind (fun data => ?_)
    refine (only_getServiceData (hreads hnetwork _ _ (fun _ => of_decide_eq_true)) _).bind (fun services => ?_)
    refine ⟨trivial, fun now => ?_⟩
    refine (only_update _ auth trivial (fun _ => trivial) trivial trivial (fun _ => trivial)).bind (fun _ => ?_)
    exact only_reportRebuild auth (fun _ => trivial) trivial trivial (fun _ => trivial)

section writes

/-- Nothing is stored, or the stored topology of this id gives way to one of this id in this network. -/
def Written (id networkId : Uuid) (s t : Db R) : Prop :=
  t.topologies = s.topologies ∨ ∃ u, u.id = id ∧ u.base.networkId = networkId ∧ t.topologies = (s.put u).topologies

variable {s t u : Db R} {auth : AuthenticatedEntity} {id networkId : Uuid} {topology : Topology R}

theorem put_topologies (h : t.topologies = s.topologies) (row : Topology R) :
    (t.put row).topologies = (s.put row).topologies := by
  apply Table.ext
  change t.topologies.rows.map _ = s.topologies.rows.map _
  rw [h]

theorem Written.of_eq (h : t.topologies = s.topologies) (hwritten : Written id networkId t u) :
    Written id networkId s u := by
  rcases hwritten with hsame | ⟨row, hid, hnetwork, hrow⟩
  · exact .inl (hsame.trans h)
  · exact .inr ⟨row, hid, hnetwork, hrow.trans (put_topologies h row)⟩

theorem Written.eq_of (h : Written id networkId s t) (hkept : u.topologies = t.topologies) : Written id networkId s u := by
  unfold Written
  rw [hkept]
  exact h

/-- An operation other than the update of a topology. -/
def Spares : TopologyOp R → Prop
  | .updateTopology _ => False
  | _ => True

theorem topologies_of_spares {i : TopologyOp R} (hi : Spares i) (r : i.Reply) :
    (topologyStep i r s).2.topologies = s.topologies := by
  cases i with
  | updateTopology row => exact hi.elim
  | _ => rfl

/-- Whatever the environment answers, the store afterwards meets `q`. -/
abbrev Leaves {α : Type} (q : Db R → Prop) (p : Task R α) (s : Db R) : Prop :=
  Ensures topologyStep (fun _ _ _ => True) (fun _ t => q t) p s

theorem leaves_of_spares {α : Type} {p : Task R α} (hp : Only Spares p) (h : t.topologies = s.topologies) :
    Leaves (fun t => t.topologies = s.topologies) p t :=
  Ensures.of_only (fun _ _ r hi h => (topologies_of_spares hi r).trans h) hp h

theorem Leaves.bind {α β : Type} {q : Db R → Prop} {p : Task R α} {f : α → Task R β}
    (hp : Leaves q p s) (hf : ∀ a t, q t → Leaves q (f a) t) : Leaves q (p.bind f) s := by
  apply Ensures.bind
  apply Ensures.imp hp
  rintro (e | a) t ht
  · exact ht
  · exact hf a t ht

/-- After operations that store nothing, what the rest writes is written. -/
theorem leaves_after {α β : Type} {p : Task R α} {f : α → Task R β} (hp : Only Spares p)
    (hf : ∀ a t, t.topologies = s.topologies → Leaves (Written id networkId s) (f a) t)
    (h : t.topologies = s.topologies) : Leaves (Written id networkId s) (p.bind f) t := by
  apply Ensures.bind
  apply (leaves_of_spares hp h).imp
  rintro (e | a) u hu
  · exact .inl hu
  · exact hf a u hu

theorem leaves_update (h : t.topologies = s.topologies) (hid : topology.id = id)
    (hnetwork : topology.base.networkId = networkId) : Leaves (Written id networkId s) (update topology auth) t := by
  refine leaves_after (p := Storage.getById topology.id) ⟨trivial, fun r => .orFail r⟩ (fun found u hu => ?_) h
  rcases found with _ | current
  · exact .inl hu
  · intro now _ r _
    cases r with
    | error e => exact .inl hu
    | ok _ =>
      intro id _ stamp _ _ _
      exact .inr ⟨{ topology with updatedAt := now }, hid, hnetwork, put_topologies hu _⟩

theorem spares_data (networkId : Uuid) (options : TopologyRequestOptions) :
    Only Spares (getEntityData networkId : Task R _) ∧ Only Spares (getServiceData networkId options : Task R _) :=
  ⟨only_getEntityData (fun _ _ _ => trivial), only_getServiceData trivial options⟩

theorem spares_reportRebuild (auth : AuthenticatedEntity) : Only Spares (reportRebuild auth : Task R Unit) :=
  only_reportRebuild auth (fun _ => trivial) trivial trivial (fun _ => trivial)

theorem leaves_serve (endpoint : Endpoint) (auth : AuthenticatedEntity) (id : Uuid) (topology : Topology R) :
    Leaves (fun t => t.topologies = s.topologies ∨ admitted auth topology = .ok () ∧
      Written topology.id topology.base.networkId s t) (serve endpoint auth id topology) s := by
  have hguard (p : Task R Unit) (hp : Leaves (Written topology.id topology.base.networkId s) p s) :
      Leaves (fun t => t.topologies = s.topologies ∨ admitted auth topology = .ok () ∧
        Written topology.id topology.base.networkId s t) ((orFail (admitted auth topology)).bind (fun _ => p)) s := by
    cases admitted auth topology with
    | error e => exact .inl rfl
    | ok _ => exact Ensures.imp hp (fun _ t ht => .inr ⟨rfl, ht⟩)
  obtain ⟨hdata, hservices⟩ := spares_data (R := R) topology.base.networkId topology.base.options
  cases endpoint with
  | refresh =>
    refine hguard _ (leaves_after hdata (fun data t ht => leaves_after hservices (fun services u hu => ?_) ht) rfl)
    exact Leaves.bind (leaves_update hu rfl rfl) (fun _ _ h => h)
  | rebuild =>
    refine hguard _ (leaves_after hdata (fun data t ht => leaves_after hservices (fun services u hu => ?_) ht) rfl)
    refine leaves_after (p := Storage.utcNow) ⟨trivial, fun _ => trivial⟩ (fun now v hv => ?_) hu
    refine Leaves.bind (leaves_update hv rfl rfl) (fun _ w hw => ?_)
    exact (leaves_of_spares (spares_reportRebuild auth) rfl).imp (fun _ _ hkept => hw.eq_of hkept)

/-- What is written in the place of a row that the path names. -/
theorem changesOnly_of_written {networkIds : List Uuid} (hwritten : Written topology.id networkId s t)
    (hnetwork : networkId ∈ networkIds)
    (hnamed : ∀ r ∈ s.topologies.rows, r.id = topology.id → r.id = id ∧ r.base.networkId ∈ networkIds) :
    ChangesOnly networkIds id s t := by
  rcases hwritten with hsame | ⟨u, hid, hu, hput⟩
  · rw [← hsame] at hnamed
    refine ⟨fun r hr hnot => absurd ?_ hnot, fun r hr hnot => absurd ?_ hnot⟩
    · rwa [hsame]
    · rwa [← hsame]
  · have hrows : t.topologies.rows = s.topologies.rows.map (fun r => if r.id = u.id then u else r) := by
      rw [hput]
      rfl
    refine ⟨fun r hr hnot => ?_, fun r hr hnot => ?_⟩
    · by_cases hr' : r.id = u.id
      · exact hnamed r hr (hr'.trans hid)
      · exact absurd (hrows ▸ List.mem_map.mpr ⟨r, hr, if_neg hr'⟩) hnot
    · rw [hrows] at hr
      obtain ⟨y, hy, hyr⟩ := List.mem_map.mp hr
      split_ifs at hyr with hyu
      · rw [← hyr]
        exact ⟨hyu.symm.trans (hnamed y hy (hyu.trans hid)).1, hu ▸ hnetwork⟩
      · exact absurd (hyr ▸ hy) hnot

end writes

section granting

variable {s : Db R} {auth : AuthenticatedEntity} {topology : Topology R} {now : Instant}

/-- Every statement is carried out, and it is `now`. -/
def Grants (now : Instant) (_ : Db R) (i : TopologyOp R) (r : i.Reply) : Prop := ∃ n, r = granted now n i

/-- The topology is stored at this time. -/
def Stores (id : Uuid) (now : Instant) (s t : Db R) : Prop :=
  ∃ u, u.id = id ∧ u.updatedAt = now ∧ t.topologies = (s.put u).topologies

theorem find_of_exists {id : Uuid} (h : ∃ r ∈ s.topologies.rows, r.id = id) :
    ∃ current, s.topologies.rows.find? (fun r => r.id = id) = some current :=
  Option.isSome_iff_exists.mp (List.find?_isSome.mpr (by simpa using h))

theorem stores_update {id : Uuid} (h : ∃ r ∈ s.topologies.rows, r.id = id) (hid : topology.id = id) :
    Ensures topologyStep (Grants now) (fun r t => (∃ a, r = .ok a) ∧ Stores id now s t) (update topology auth) s := by
  obtain ⟨current, hcurrent⟩ := find_of_exists h
  rintro _ ⟨_, rfl⟩
  change Ensures topologyStep _ _ ((orFail (.ok (s.topologies.rows.find? (fun r => r.id = topology.id)))).bind _) s
  rw [hid, hcurrent]
  rintro stamp ⟨_, hstamp⟩ _ ⟨_, rfl⟩ _ ⟨_, rfl⟩ _ ⟨_, hpublished⟩ _ ⟨_, rfl⟩
  exact ⟨⟨_, rfl⟩, { topology with updatedAt := stamp }, hid, hstamp, rfl⟩

/-- The task comes to an end with a value and leaves the store alone. -/
abbrev Answers {α : Type} (now : Instant) (p : Task R α) (s : Db R) : Prop :=
  Ensures topologyStep (Grants now) (fun r t => (∃ a, r = .ok a) ∧ t = s) p s

theorem Answers.bind {α β : Type} {post : Except Failure β → Db R → Prop} {p : Task R α} {f : α → Task R β}
    (hp : Answers now p s) (hf : ∀ a, Ensures topologyStep (Grants now) post (f a) s) :
    Ensures topologyStep (Grants now) post (p.bind f) s := by
  apply Ensures.bind
  apply Ensures.imp hp
  rintro _ t ⟨⟨a, rfl⟩, rfl⟩
  exact hf a

theorem answers_getEntities (k : Kind) (p : R.Of k → Bool) : Answers now (Storage.getEntities k p) s := by
  rintro _ ⟨_, rfl⟩
  exact ⟨⟨_, rfl⟩, rfl⟩

theorem answers_getServiceData (networkId : Uuid) (options : TopologyRequestOptions) :
    Answers now (getServiceData networkId options) s :=
  (answers_getEntities _ _).bind (fun _ => ⟨⟨_, rfl⟩, rfl⟩)

theorem answers_getEntityData (networkId : Uuid) : Answers now (getEntityData networkId) s := by
  refine (answers_getEntities _ _).bind (fun hosts => ?_)
  refine (answers_getEntities _ _).bind (fun interfaces => ?_)
  refine (answers_getEntities _ _).bind (fun subnets => ?_)
  refine (answers_getEntities _ _).bind (fun groups => ?_)
  refine (answers_getEntities _ _).bind (fun ports => ?_)
  exact (answers_getEntities _ _).bind (fun bindings => ⟨⟨_, rfl⟩, rfl⟩)

theorem stores_serve (endpoint : Endpoint) (auth : AuthenticatedEntity) (id : Uuid) (topology : Topology R)
    (hadmitted : admitted auth topology = .ok ()) (h : ∃ r ∈ s.topologies.rows, r.id = topology.id) :
    Ensures topologyStep (Grants now) (fun _ t => Stores topology.id now s t) (serve endpoint auth id topology) s := by
  have hguard : Answers now (orFail (admitted auth topology)) s := by
    rw [hadmitted]
    exact ⟨⟨_, rfl⟩, rfl⟩
  cases endpoint with
  | refresh =>
    refine hguard.bind (fun _ => (answers_getEntityData _).bind (fun data => ?_))
    refine (answers_getServiceData _ _).bind (fun services => Ensures.bind ?_)
    refine (stores_update h ?_).imp ?_
    · rfl
    · rintro _ t ⟨⟨a, rfl⟩, ht⟩
      exact ht
  | rebuild =>
    refine hguard.bind (fun _ => (answers_getEntityData _).bind (fun data => ?_))
    refine (answers_getServiceData _ _).bind (fun services => ?_)
    refine Answers.bind (p := Storage.utcNow) (fun _ _ => ⟨⟨_, rfl⟩, rfl⟩) (fun rebuilt => Ensures.bind ?_)
    refine (stores_update h ?_).imp ?_
    · rfl
    · rintro _ t ⟨⟨a, rfl⟩, u, hid, hnow, hput⟩
      have hkeep : Ensures topologyStep (Grants now) (fun _ v => v.topologies = t.topologies) (reportRebuild auth) t :=
        Ensures.unchanged (fun _ _ r hi => topologies_of_spares hi r) (spares_reportRebuild auth) t
      exact hkeep.imp (fun _ v hv => ⟨u, hid, hnow, hv.trans hput⟩)

/-- A stored row of the body's id is replaced whenever the request is admitted and nothing fails. -/
theorem not_mem_of_stores {t : Db R} {r : Topology R} (hstores : Stores topology.id now s t) (hr : r.id = topology.id)
    (hnow : r.updatedAt ≠ now) : r ∉ t.topologies.rows := by
  obtain ⟨u, hid, hu, hput⟩ := hstores
  rw [hput]
  intro hmem
  obtain ⟨y, -, hy⟩ := List.mem_map.mp hmem
  split_ifs at hy with hyu
  · exact hnow (hy ▸ hu)
  · exact hyu (hy ▸ hr.trans hid.symm)

end granting

/-- A refresh or a rebuild reads and changes what it may if and only if it is turned away or the stored topology of the
body's id is the one that the path names and in a network of the caller. -/
theorem serve_confined_iff (endpoint : Endpoint) (auth : AuthenticatedEntity) (id : Uuid) (topology : Topology R)
    (s : Db R) : Confined endpoint auth id topology s ↔
      (admitted auth topology = .ok () → Named auth id topology s) := by
  constructor
  · rintro ⟨-, hchanges⟩ hadmitted r hr hid
    have hanswered : Answered topologyStep (Grants (r.updatedAt + 1)) (granted (r.updatedAt + 1)) 0
        (serve endpoint auth id topology) s := answered_of_forall (fun _ n _ => ⟨n, rfl⟩) _ _ _
    have hstores := (stores_serve endpoint auth id topology hadmitted ⟨r, hr, hid⟩).run hanswered
    exact (hchanges _).before r hr (not_mem_of_stores hstores hid (Int.lt_succ _).ne)
  · intro hnamed
    refine ⟨readsWithin_serve endpoint auth id topology, fun ω => ?_⟩
    rcases (leaves_serve endpoint auth id topology).run_any ω 0 with hsame | ⟨hadmitted, hwritten⟩
    · exact ⟨fun r hr hnot => absurd (by rwa [hsame]) hnot, fun r hr hnot => absurd (by rwa [← hsame]) hnot⟩
    · have hnetwork : topology.base.networkId ∈ auth.networkIds := by
        unfold admitted at hadmitted
        split_ifs at hadmitted with hlevel hcontains
        exact List.contains_iff_mem.mp hcontains
      exact changesOnly_of_written hwritten hnetwork (hnamed hadmitted)

/-- A member of the first network, whose path names a topology of that network, overwrites one of the second network. -/
theorem serve_not_confined : ¬ ∀ (endpoint : Endpoint) (auth : AuthenticatedEntity) (id : Uuid) (topology : Topology plain)
    (s : Db plain), Confined endpoint auth id topology s := by
  intro h
  have hchanges := (h .refresh (.user 7 3 .member [1] "member@example.com") 10 (overview 11 1)
    ⟨⟨[overview 10 1, overview 11 2], by decide⟩, fun _ => [()], []⟩).2 (granted 1)
  have hbefore := hchanges.before (overview 11 2) (by decide) (by decide +kernel)
  exact absurd hbefore.1 (by decide)

end VantageNet.Topologies
