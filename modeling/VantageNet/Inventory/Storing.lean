import VantageNet.Inventory.Canonical
import VantageNet.Inventory.Saving

/-!
What `ServiceService::create` can come to.
-/

namespace VantageNet.Inventory

open Interaction Interaction.Program

section reading

variable {K : List Kind}

theorem touches_getById (k : Kind) (id : Uuid) : Touches K (Storage.getById k id) :=
  .op (List.nil_subset K) .orFail

theorem touches_getAllOrdered (k : Kind) (filter : Row k → Bool) (order : Row k → ℤ) :
    Touches K (Storage.getAllOrdered k filter order) := .op (List.nil_subset K) .orFail

theorem touches_getAll (k : Kind) (filter : Row k → Bool) : Touches K (Storage.getAll k filter) :=
  touches_getAllOrdered k filter _

theorem touches_serviceGetById (id : Uuid) : Touches K (ServiceService.getById id) := by
  refine (touches_getById .service id).bind (fun row => ?_)
  cases row with
  | none => exact .ret _
  | some row => exact (touches_getAll .binding _).bind (fun _ => .ret _)

theorem touches_serviceGetAll (filter : Service → Bool) : Touches K (ServiceService.getAll filter) := by
  refine (touches_getAll .service filter).bind (fun rows => ?_)
  split_ifs
  · exact .ret _
  · exact (touches_getAll .binding _).bind (fun _ => .ret _)

theorem touches_validateBindingsBelongToHost (hostId : Uuid) (bindings : List Binding) :
    Touches K (ServiceService.validateBindingsBelongToHost hostId bindings) := by
  unfold ServiceService.validateBindingsBelongToHost
  split_ifs
  · exact .ret _
  · refine (touches_getAll .port _).bind (fun ports => (touches_getAllOrdered .interface _ _).bind (fun interfaces => ?_))
    exact .forEach (fun _ => .orFail _) _

theorem touches_validateBindingsAvailable (hostId serviceId : Uuid) (bindings : List Binding) :
    Touches K (ServiceService.validateBindingsAvailable hostId serviceId bindings) := by
  unfold ServiceService.validateBindingsAvailable
  split_ifs
  · exact .ret _
  · refine (touches_serviceGetAll _).bind (fun services => ?_)
    dsimp only
    split
    · exact .ret _
    · exact (touches_getAll .port _).bind (fun _ => .fail _)

theorem touches_acquire (lock : Lock) : Touches K (acquire lock) := .op (List.nil_subset K) .ret

theorem touches_release (lock : Lock) : Touches K (release lock) := .op (List.nil_subset K) .ret

theorem touches_storageUpdate {k : Kind} (hk : k ∈ K) (row : Row k) : Touches K (Storage.update k row) :=
  .op (List.nil_subset K) (fun _ => .op (by simpa [DbOp.writes] using hk) (fun r => (Touches.orFail r).bind (fun _ => .ret _)))

theorem touches_storageCreate {k : Kind} (hk : k ∈ K) (row : Row k) : Touches K (Storage.create k row) :=
  .op (by simpa [DbOp.writes] using hk) (fun r => (Touches.orFail r).bind (fun _ => .ret _))

theorem touches_newEntity {β : Type} (base : β) : Touches K (newEntity base) :=
  .op (List.nil_subset K) (fun _ => .op (List.nil_subset K) (fun _ => .ret _))

theorem touches_crudCreate {k : Kind} (hk : k ∈ K) (row : Row k) : Touches K (Crud.create k row) := by
  unfold Crud.create
  split_ifs
  · exact (touches_newEntity _).bind (fun _ => touches_storageCreate hk _)
  · exact touches_storageCreate hk _

theorem touches_groupGetAll (filter : Group → Bool) : Touches K (GroupService.getAll filter) := by
  refine (touches_getAll .group filter).bind (fun groups => ?_)
  split_ifs
  · exact .ret _
  · exact (touches_getAllOrdered .groupBinding _ _).bind (fun _ => .ret _)

theorem touches_groupUpdate (group : Group) : Touches [.group, .groupBinding] (GroupService.update group) := by
  have hget : Touches [.group, .groupBinding] (GroupService.getById group.id) := by
    refine (touches_getById .group group.id).bind (fun row => ?_)
    cases row with
    | none => exact .ret _
    | some row => exact (touches_getAllOrdered .groupBinding _ _).bind (fun _ => .ret _)
  have hsave (id : Uuid) (bindingIds : List Uuid) :
      Touches [.group, .groupBinding] (GroupService.saveForGroup id bindingIds) := by
    refine Touches.bind (.op (by simp [DbOp.writes, Kind.cascade]) .orFail) (fun _ => .forEach (fun _ => ?_) _)
    exact .op (by simp [DbOp.writes]) (fun _ => .op (by simp [DbOp.writes]) (fun _ =>
      (touches_storageCreate (by simp) _).bind (fun _ => .ret _)))
  refine hget.bind (fun found => ?_)
  cases found with
  | none => exact .fail _
  | some _ =>
    refine (touches_storageUpdate (k := .group) (by simp) group).bind (fun updated => ?_)
    exact (hsave updated.id _).bind (fun _ => .ret _)

theorem touches_updateGroupServiceBindings (current : Service) (updates : List Binding) :
    Touches [.group, .groupBinding] (ServiceService.updateGroupServiceBindings current updates) := by
  refine (touches_groupGetAll _).bind (fun groups => (touches_acquire _).bind (fun _ => ?_))
  refine Touches.bind (.forEach (fun g => (touches_groupUpdate g).bind (fun _ => .ret _)) _) (fun _ => ?_)
  exact touches_release _

end reading

/-- The row of a service with its bindings, in whatever order they were read. -/
structure LoadedFrom (db : Db) (row service : Service) : Prop where
  eq : service = ServiceService.withBindings service.base.bindings row
  bindings : service.base.bindings.Perm (db.bindings.rows.filter (fun b => b.base.serviceId = row.id))

structure Loaded (db : Db) (filter : Service → Bool) (services : List Service) : Prop where
  mem : ∀ s ∈ services, ∃ row ∈ db.services.rows, filter row = true ∧ LoadedFrom db row s
  complete : ∀ row ∈ db.services.rows, filter row = true → ∃ s ∈ services, LoadedFrom db row s
  sorted : services.Pairwise (fun a b => a.createdAt ≤ b.createdAt)

section loading

variable {may : Db → (o : DbOp) → o.Reply → Prop} {db : Db} {row service : Service}

theorem LoadedFrom.id_eq (h : LoadedFrom db row service) : service.id = row.id := by
  rw [h.eq]
  rfl

theorem LoadedFrom.mem_bindings (h : LoadedFrom db row service) (b : Binding) :
    b ∈ service.base.bindings ↔ b ∈ db.bindings.rows ∧ b.base.serviceId = service.id := by
  rw [h.bindings.mem_iff, List.mem_filter, decide_eq_true_eq, h.id_eq]

/-- The bindings that were read, put to the rows they belong to. -/
theorem loadedFrom_of_rows {rows : List Service} {bindings : List Binding} (hbindings : bindings.Perm
    (db.bindings.rows.filter (fun b => (rows.map Entity.id).contains b.base.serviceId))) :
    List.Forall₂ (LoadedFrom db) rows (rows.map (fun s =>
      ServiceService.withBindings (bindings.filter (fun b => b.base.serviceId = s.id)) s)) := by
  refine List.forall₂_map_right_iff.mpr (List.forall₂_same.mpr (fun row hrow => ⟨rfl, (hbindings.filter _).trans ?_⟩))
  rw [List.filter_filter]
  apply List.Perm.of_eq
  apply List.filter_congr
  intro b _
  by_cases hid : b.base.serviceId = row.id
  · simp only [hid, decide_true, Bool.true_and]
    exact List.contains_iff_mem.mpr (List.mem_map_of_mem hrow)
  · simp only [hid, decide_false, Bool.false_and]

theorem loaded_of_rows {filter : Service → Bool} {rows services : List Service}
    (hrows : rows.Perm (db.services.rows.filter filter)) (hsorted : rows.Pairwise (fun a b => a.createdAt ≤ b.createdAt))
    (hloaded : List.Forall₂ (LoadedFrom db) rows services) : Loaded db filter services := by
  refine ⟨fun s hs => ?_, fun row hrow hfilter => ?_, ?_⟩
  · obtain ⟨row, hrow, hs⟩ := exists_left_of_forall₂ hloaded hs
    obtain ⟨hstored, hfilter⟩ := List.mem_filter.mp (hrows.mem_iff.mp hrow)
    exact ⟨row, hstored, hfilter, hs⟩
  · exact exists_right_of_forall₂ hloaded (hrows.mem_iff.mpr (List.mem_filter.mpr ⟨hrow, hfilter⟩))
  · refine (pairwise_iff_of_forall₂ hloaded (fun a b a' b' h h' => ?_)).mp hsorted
    rw [h.eq, h'.eq]
    rfl

theorem ensures_serviceGetAll_rows {filter : Service → Bool} {post : Except Error (List Service) → Db → Prop}
    (herror : ∀ e, post (.error e) db)
    (hok : ∀ rows services, rows.Perm (db.services.rows.filter filter) → List.Forall₂ (LoadedFrom db) rows services →
      Loaded db filter services → post (.ok services) db) :
    Ensures dbStep may post (ServiceService.getAll filter) db := by
  apply Ensures.bind
  refine ensures_getAll (k := .service) (fun e => herror e) (fun rows hrows hsorted => ?_)
  cases rows with
  | nil => exact hok [] [] hrows .nil (loaded_of_rows hrows hsorted .nil)
  | cons row rows =>
    apply Ensures.bind
    refine ensures_getAll (k := .binding) (fun e => herror e) (fun bindings hbindings _ => ?_)
    have hloaded := loadedFrom_of_rows hbindings
    exact hok _ _ hrows hloaded (loaded_of_rows hrows hsorted hloaded)

theorem ensures_serviceGetAll {filter : Service → Bool} {post : Except Error (List Service) → Db → Prop}
    (herror : ∀ e, post (.error e) db) (hok : ∀ services, Loaded db filter services → post (.ok services) db) :
    Ensures dbStep may post (ServiceService.getAll filter) db :=
  ensures_serviceGetAll_rows herror (fun _ services _ _ hloaded => hok services hloaded)

theorem portIds_perm {a b : Service} (h : a.base.bindings.Perm b.base.bindings) : a.portIds.Perm b.portIds :=
  h.filterMap _

theorem sharesPorts_congr {a b : Service} (h : a.base.bindings.Perm b.base.bindings) (c : Service) :
    a.sharesPorts c = b.sharesPorts c := by
  rw [Bool.eq_iff_iff]
  simp only [Service.sharesPorts, List.any_eq_true]
  exact exists_congr (fun p => and_congr_left' (portIds_perm h).mem_iff)

theorem LoadedFrom.eq_congr {service' : Service} (h : LoadedFrom db row service) (h' : LoadedFrom db row service')
    (other : Service) : Service.eq service other = Service.eq service' other := by
  have hports := sharesPorts_congr (h.bindings.trans h'.bindings.symm) other
  have hother : service' = ServiceService.withBindings service'.base.bindings service := by
    rw [h.eq]
    exact h'.eq
  rw [hother] at hports ⊢
  simp only [Service.eq, Service.resembles, Service.eqGeneric, hports]
  rfl

end loading

/-- `existing` is the service of the host that `create` takes to be the same as `service`. -/
structure Matches (db : Db) (service existing : Service) : Prop where
  row : ∃ row ∈ db.services.rows, row.base.hostId = service.base.hostId ∧ LoadedFrom db row existing
  eq : Service.eq existing service = true
  first : ∀ row ∈ db.services.rows, row.base.hostId = service.base.hostId →
    ∀ other, LoadedFrom db row other → Service.eq other service = true → existing.createdAt ≤ other.createdAt

structure Merges (db : Db) (service existing : Service) : Prop extends Matches db service existing where
  upsert : ServiceService.isUpsert existing service = true

/-- `create` finds no service of the host to merge `service` with. -/
def Unmatched (db : Db) (service : Service) : Prop :=
  (∀ row ∈ db.services.rows, row.base.hostId = service.base.hostId → ∀ other, LoadedFrom db row other →
    Service.eq other service = false) ∨
  ∃ existing, Matches db service existing ∧ ServiceService.isUpsert existing service = false

/-- The bindings that are saved with `service`. -/
def Service.children (service : Service) : List Binding :=
  service.base.bindings.map (fun b => Binding.withService b service.id service.base.networkId)

inductive Stored (db : Db) (service : Service) : Except Error Service → Db → Prop
  | refused (e : Error) : Stored db service (.error e) db
  | merged {existing : Service} (h : Merges db service existing) (now : Instant)
      (hapart : ∀ r ∈ (db.services.filter (fun r => r.id ≠ existing.id)).rows, Apart .service r
        { (upsertedService existing service).row with updatedAt := now })
      {r : Except Error (List Binding)} {t : Db}
      (hsaved : SavedFor (db.withTable .service (updated db.services
        { upsertedService existing service with updatedAt := now } hapart)) existing.id
        (upsertedService existing service).children r t) :
      Stored db service (r.map (fun saved =>
        ServiceService.withBindings saved { upsertedService existing service with updatedAt := now })) t
  | inserted (position : ℤ) (hunmatched : Unmatched db service) (hvalid : validateBindingsNoConflicts service.base.bindings = .ok ())
      (hapart : ∀ r ∈ db.services.rows, Apart .service r
        (Service.row { service with base := { service.base with position } }))
      {r : Except Error (List Binding)} {t : Db}
      (hsaved : SavedFor (db.withTable .service (db.services.insert
        (Service.row { service with base := { service.base with position } }) hapart)) service.id
        service.children r t) :
      Stored db service (r.map (fun saved => ServiceService.withBindings saved
        { service with base := { service.base with position } })) t

section storing

variable {may : Db → (o : DbOp) → o.Reply → Prop} {db : Db}

theorem ensures_saveBindings {service : Service} {post : Except Error Service → Db → Prop}
    (h : ∀ r t, SavedFor db service.id service.children r t →
      post (r.map (fun saved => ServiceService.withBindings saved service)) t) :
    Ensures dbStep may post (ServiceService.saveBindings service) db := by
  apply Ensures.bind
  apply ensures_saveForParent
  · intro c hc
    obtain ⟨b, -, rfl⟩ := List.mem_map.mp hc
    rfl
  · rintro (e | saved) t hsaved
    · exact h _ t hsaved
    · exact h _ t hsaved

theorem ensures_upsertService {service existing : Service} (hmerges : Merges db service existing) :
    Ensures dbStep may (Stored db service) (ServiceService.upsertService existing service) db := by
  obtain ⟨row, hrow, -, hloaded⟩ := hmerges.row
  apply Ensures.bind
  apply ensures_update (k := .service)
  · exact fun e => .refused e
  · intro now hhas
    have hhas' := (has_iff db .service existing.id).mpr ⟨row, hrow, hloaded.id_eq.symm⟩
    exact absurd hhas' (by rw [show db.has .service existing.id = false from hhas]; simp)
  · intro now hapart _ _
    apply ensures_saveBindings
    intro r t hsaved
    exact .merged hmerges now hapart hsaved

theorem ensures_insertService {service : Service} (hunmatched : Unmatched db service) (position : ℤ) :
    Ensures dbStep may (Stored db service)
      (ServiceService.insertService { service with base := { service.base with position } }) db := by
  apply Ensures.bind
  apply ensures_orFail
  cases hvalid : validateBindingsNoConflicts service.base.bindings with
  | error e => exact .refused e
  | ok u =>
    refine (touches_validateBindingsBelongToHost (K := []) _ _).then (fun e t ht => ?_) (fun _ t ht => ?_)
    · rw [ht.eq]
      exact .refused e
    rw [ht.eq]
    refine (Touches.when (K := []) _ (touches_validateBindingsAvailable _ _ _)).then (fun e t ht => ?_)
      (fun _ t ht => ?_)
    · rw [ht.eq]
      exact .refused e
    rw [ht.eq]
    apply Ensures.bind
    apply ensures_create (k := .service)
    · exact fun e => .refused e
    · intro hapart _
      apply ensures_saveBindings
      intro r t hsaved
      exact .inserted position hunmatched hvalid hapart hsaved

theorem ensures_store {service : Service} {existingServices : List Service}
    (hloaded : Loaded db (fun s => s.base.hostId = service.base.hostId) existingServices) :
    Ensures dbStep may (Stored db service) (ServiceService.store existingServices service) db := by
  unfold ServiceService.store
  cases hfind : existingServices.find? (fun existing => Service.eq existing service) with
  | none =>
    apply ensures_insertService
    refine .inl (fun row hrow hhost other hother => ?_)
    obtain ⟨s, hs, hsloaded⟩ := hloaded.complete row hrow (by simpa using hhost)
    rw [hother.eq_congr hsloaded]
    simpa using List.find?_eq_none.mp hfind s hs
  | some existing =>
    have hmatches : Matches db service existing := by
      obtain ⟨heq, before, after, rfl, hbefore⟩ := List.find?_eq_some_iff_append.mp hfind
      obtain ⟨row, hrow, hhost, hrowloaded⟩ := hloaded.mem existing (by simp)
      refine ⟨⟨row, hrow, by simpa using hhost, hrowloaded⟩, heq, ?_⟩
      intro row' hrow' hhost' other hother heq'
      obtain ⟨s, hs, hsloaded⟩ := hloaded.complete row' hrow' (by simpa using hhost')
      have hseq : Service.eq s service = true := by rw [hsloaded.eq_congr hother, heq']
      have hcreated : other.createdAt = s.createdAt := by rw [hother.eq, hsloaded.eq]; rfl
      rw [hcreated]
      rcases List.mem_append.mp hs with hs | hs
      · exact absurd hseq (by simpa using hbefore s hs)
      · rcases List.mem_cons.mp hs with rfl | hs
        · exact le_rfl
        · exact (List.pairwise_cons.mp (List.pairwise_append.mp hloaded.sorted).2.1).1 s hs
    dsimp only
    split_ifs with hupsert
    · exact ensures_upsertService ⟨hmatches, hupsert⟩
    · exact ensures_insertService (.inr ⟨existing, hmatches, by simpa using hupsert⟩) _

/-- The id that `create` gives to a service without one may be any. -/
structure Prepared (service prepared : Service) : Prop where
  base : prepared.base = { service.base with bindings := deduplicateBindings service.base.bindings }
  eq : service.id ≠ Uuid.nil →
    prepared = ServiceService.withBindings (deduplicateBindings service.base.bindings) service

theorem ensures_serviceCreate {service : Service} {post : Except Error Service → Db → Prop}
    (herror : ∀ e, post (.error e) db)
    (hstored : ∀ prepared, Prepared service prepared → (service.id = Uuid.nil → may db .newV4 prepared.id) →
      ∀ r t, Stored db prepared r t → post r t) :
    Ensures dbStep may post (ServiceService.create service) db := by
  have hprepared (prepared : Service) (h : Prepared service prepared)
      (hnew : service.id = Uuid.nil → may db .newV4 prepared.id) : Ensures dbStep may post
      ((acquire (.service prepared.id)).bind (fun _ =>
        (ServiceService.getForHost prepared.base.hostId).bind (fun existingServices =>
          (ServiceService.store existingServices prepared).bind (fun stored =>
            (release (.service prepared.id)).bind (fun _ => ret stored))))) db := by
    apply ensures_acquire
    apply Ensures.bind
    refine ensures_serviceGetAll (fun e => herror e) (fun services hservices => ?_)
    apply Ensures.bind
    apply (ensures_store hservices).imp
    rintro (e | stored) t ht
    · exact hstored prepared h hnew _ t ht
    · apply ensures_release
      exact hstored prepared h hnew _ t ht
  unfold ServiceService.create
  by_cases hnil : service.id = Uuid.nil
  · simp only [hnil, ↓reduceIte]
    apply Ensures.bind
    apply ensures_newEntity
    intro id now hnew
    exact hprepared _ ⟨rfl, fun h => absurd hnil h⟩ (fun _ => hnew)
  · simp only [hnil, ↓reduceIte]
    exact hprepared _ ⟨rfl, fun _ => rfl⟩ (fun h => absurd h hnil)

end storing

def Db.loaded (db : Db) (row : Service) : Service :=
  ServiceService.withBindings (db.bindings.rows.filter (fun b => b.base.serviceId = row.id)) row

/-- `create` may merge the service into the stored `row`. -/
def Db.mayMerge (db : Db) (service row : Service) : Prop :=
  row.base.hostId = service.base.hostId ∧ (service.id = Uuid.nil ∨
    Service.eq (db.loaded row) (ServiceService.withBindings (deduplicateBindings service.base.bindings) service) = true)

instance (db : Db) (service row : Service) : Decidable (db.mayMerge service row) :=
  inferInstanceAs (Decidable (_ ∧ _))

section target

variable {db t : Db}

theorem loadedFrom_loaded (db : Db) (row : Service) : LoadedFrom db row (db.loaded row) := ⟨rfl, .refl _⟩

theorem Matches.mayMerge {service prepared existing row : Service} (h : Matches db prepared existing)
    (hprepared : Prepared service prepared) (hhost : row.base.hostId = prepared.base.hostId)
    (hloaded : LoadedFrom db row existing) : db.mayMerge service row := by
  refine ⟨by rw [hhost, hprepared.base], ?_⟩
  by_cases hnil : service.id = Uuid.nil
  · exact .inl hnil
  · right
    rw [← hprepared.eq hnil, (loadedFrom_loaded db row).eq_congr hloaded]
    exact h.eq

theorem Matches.id_eq {service prepared existing row : Service} (h : Matches db prepared existing)
    (hprepared : Prepared service prepared) (hrow : row ∈ db.services.rows)
    (hhost : row.base.hostId = prepared.base.hostId) (heq : Service.eq (db.loaded row) prepared = true)
    (holdest : ∀ other ∈ db.services.rows, db.mayMerge service other →
      other.id = row.id ∨ row.createdAt < other.createdAt) : existing.id = row.id := by
  obtain ⟨other, hother, hotherHost, hloaded⟩ := h.row
  rcases holdest other hother (h.mayMerge hprepared hotherHost hloaded) with hid | hlater
  · exact hloaded.id_eq.trans hid
  · have hfirst : existing.createdAt ≤ (db.loaded row).createdAt :=
      h.first row hrow hhost _ (loadedFrom_loaded db row) heq
    have hcreated : existing.createdAt = other.createdAt := by
      rw [hloaded.eq]
      rfl
    rw [hcreated] at hfirst
    exact absurd hlater (not_lt.mpr hfirst)

/-- What storing a service does to the bindings: all of it under one id. -/
structure Target (db : Db) (service : Service) (target : Uuid) (t : Db) : Prop where
  frame : db.SameBut [.service, .binding, .groupBinding] t
  others : ∀ b : Binding, b.base.serviceId ≠ target → (b ∈ t.bindings.rows ↔ b ∈ db.bindings.rows)
  own : ∀ b ∈ t.bindings.rows, b.base.serviceId = target →
    (∃ e ∈ db.bindings.rows, e.base.serviceId = target ∧ e.base.bindingType = b.base.bindingType) ∨
      ∃ c ∈ service.base.bindings, c.base.bindingType = b.base.bindingType ∧ (c.id ≠ Uuid.nil → b.id = c.id)
  servicesOther : ∀ s : Service, s.id ≠ target → (s ∈ t.services.rows ↔ s ∈ db.services.rows)
  host : ∀ s ∈ t.services.rows, s.id = target → s.base.hostId = service.base.hostId
  known : (∃ row ∈ db.services.rows, row.id = target ∧ row.base.hostId = service.base.hostId ∧
      ∃ existing, LoadedFrom db row existing ∧ Merges db service existing) ∨
    target = service.id ∧ ∀ s ∈ db.services.rows, s.id ≠ target

theorem SavedFor.target {serviceId : Uuid} {children : List Binding} {r : Except Error (List Binding)}
    (h : SavedFor db serviceId children r t) : db.SameBut [.binding, .groupBinding] t ∧
      (∀ b : Binding, b.base.serviceId ≠ serviceId → (b ∈ t.bindings.rows ↔ b ∈ db.bindings.rows)) ∧
      ∀ b ∈ t.bindings.rows, b.base.serviceId = serviceId → b ∈ db.bindings.rows ∨ ∃ c ∈ children, SavedAs c b := by
  rcases h with ⟨rfl, -⟩ | ⟨done, out, hinit, hsaving, -⟩
  · exact ⟨.refl _ _, fun _ _ => Iff.rfl, fun b hb _ => .inl hb⟩
  · refine ⟨hsaving.frame, hsaving.others, fun b hb hservice => ?_⟩
    rcases hsaving.own b hb hservice with hout | ⟨hold, -⟩
    · obtain ⟨c, hc, hsaved⟩ := hsaving.child hout
      exact .inr ⟨c, hinit.subset hc, hsaved⟩
    · exact .inl hold

theorem mem_children {service : Service} {c : Binding} (hc : c ∈ service.children) :
    ∃ b ∈ service.base.bindings, c.base.bindingType = b.base.bindingType ∧ c.id = b.id := by
  obtain ⟨b, hb, rfl⟩ := List.mem_map.mp hc
  exact ⟨b, hb, rfl, rfl⟩

theorem mem_services_merged {row : Service} {hapart : ∀ r ∈ (db.services.filter (fun r => r.id ≠ row.id)).rows,
      Apart .service r row.row} {serviceId : Uuid} {children : List Binding} {r : Except Error (List Binding)}
    (h : SavedFor (db.withTable .service (updated db.services row hapart)) serviceId children r t) (s : Service) :
    s ∈ t.services.rows ↔ s = row.row ∨ s ∈ db.services.rows ∧ s.id ≠ row.id := by
  have hservices : t.services = updated db.services row hapart := h.target.1 .service (by simp)
  rw [hservices]
  exact @mem_updated .service db.services row hapart s

theorem mem_services_inserted {row : Service} {hapart : ∀ r ∈ db.services.rows, Apart .service r row}
    {serviceId : Uuid} {children : List Binding} {r : Except Error (List Binding)}
    (h : SavedFor (db.withTable .service (db.services.insert row hapart)) serviceId children r t) (s : Service) :
    s ∈ t.services.rows ↔ s ∈ db.services.rows ∨ s = row := by
  have hservices : t.services = db.services.insert row hapart := h.target.1 .service (by simp)
  rw [hservices, Table.rows_insert, List.mem_append, List.mem_singleton]

theorem Stored.target {service : Service} {r : Except Error Service} (h : Stored db service r t) :
    t = db ∨ ∃ target, Target db service target t := by
  cases h with
  | refused e => exact .inl rfl
  | @merged existing hmerges now hapart r t hsaved =>
    right
    obtain ⟨row, hrow, hhost, hloaded⟩ := hmerges.row
    obtain ⟨hframe, hothers, hown⟩ := hsaved.target
    have hmem := mem_services_merged hsaved
    refine ⟨existing.id, ?_, hothers, fun b hb hservice => ?_, fun s hs => ?_, fun s hs hid => ?_, ?_⟩
    · refine Db.SameBut.trans ?_ (hframe.mono (by simp))
      exact .withTable (by simp) _
    · rcases hown b hb hservice with hold | ⟨c, hc, hsavedAs⟩
      · exact .inl ⟨b, hold, hservice, rfl⟩
      · obtain ⟨c', hc', htype, hid⟩ := mem_children hc
        rw [hsavedAs.base, htype]
        rcases mem_upsertBindings hc' with hold | hnew
        · exact .inl ⟨c', ((hloaded.mem_bindings c').mp hold).1, ((hloaded.mem_bindings c').mp hold).2, rfl⟩
        · exact .inr ⟨c', hnew, rfl, fun hnil => (hsavedAs.id (hid ▸ hnil)).trans hid⟩
    · rw [hmem]
      constructor
      · rintro (rfl | ⟨hs', -⟩)
        · exact absurd rfl hs
        · exact hs'
      · exact fun hs' => .inr ⟨hs', hs⟩
    · rcases (hmem s).mp hs with rfl | ⟨-, hne⟩
      · change existing.base.hostId = _
        rw [hloaded.eq]
        exact hhost
      · exact absurd hid hne
    · exact .inl ⟨row, hrow, hloaded.id_eq.symm, hhost, existing, hloaded, hmerges⟩
  | inserted position hunmatched hvalid hapart hsaved =>
    right
    obtain ⟨hframe, hothers, hown⟩ := hsaved.target
    have hmem := mem_services_inserted hsaved
    refine ⟨service.id, ?_, hothers, fun b hb hservice => ?_, fun s hs => ?_, fun s hs hid => ?_, ?_⟩
    · refine Db.SameBut.trans ?_ (hframe.mono (by simp))
      exact .withTable (by simp) _
    · rcases hown b hb hservice with hold | ⟨c, hc, hsavedAs⟩
      · exact .inl ⟨b, hold, hservice, rfl⟩
      · obtain ⟨c', hc', htype, hid⟩ := mem_children hc
        rw [hsavedAs.base, htype]
        exact .inr ⟨c', hc', rfl, fun hnil => (hsavedAs.id (hid ▸ hnil)).trans hid⟩
    · rw [hmem, or_iff_left]
      rintro rfl
      exact hs rfl
    · rcases (hmem s).mp hs with hold | rfl
      · exact absurd hid (hapart s hold).1
      · rfl
    · exact .inr ⟨rfl, fun s hs => (hapart s hs).1⟩

end target


end VantageNet.Inventory
