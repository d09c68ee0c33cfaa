import VantageNet.Interaction.Upserts
import VantageNet.Inventory.Atomicity
import VantageNet.Inventory.Entering
import VantageNet.Inventory.Positions
import VantageNet.Inventory.Updating

/-!
What the three `sync_` functions of an update write: which ids a host has afterwards, and at
which positions.
-/

namespace VantageNet.Inventory

open Interaction Interaction.Program

def Interface.place (i : Interface) : Uuid × ℤ := (i.base.hostId, i.base.position)

/-- Ports have no position. -/
def Port.place (p : Port) : Uuid × ℤ := (p.base.hostId, 0)

def Service.place (s : Service) : Uuid × ℤ := (s.base.hostId, s.base.position)

/-- `row` is written: it is there, with the rows that were there under other ids. -/
def Wrote (k : Kind) (s : Db) (row : Row k) (t : Db) : Prop :=
  ∀ r, r ∈ (t.table k).rows ↔ r = row ∨ r ∈ (s.table k).rows ∧ r.id ≠ row.id

/-- The host has a row under the id, at the position. -/
def Db.Places (k : Kind) (place : Row k → Uuid × ℤ) (hostId : Uuid) (db : Db) (id : Uuid) (position : ℤ) : Prop :=
  ∃ r ∈ (db.table k).rows, r.id = id ∧ place r = (hostId, position)

/-- The id of what is written where `asked` was asked for and the ids of `known` are there. -/
structure Named (known : List Uuid) (asked id : Uuid) : Prop where
  same : asked ∈ known ∨ asked ≠ Uuid.nil → id = asked
  fresh : asked ∉ known → id ≠ Uuid.nil

section writing

variable {k : Kind} {place : Row k → Uuid × ℤ} {s t : Db} {row : Row k} {hostId : Uuid} {position : ℤ}

theorem Wrote.puts (h : Wrote k s row t) (hplace : place row = (hostId, position)) :
    Puts (Db.Places k place hostId s) (Db.Places k place hostId t) (row.id, position) := by
  intro id p
  constructor
  · rintro ⟨r, hr, rfl, hrplace⟩
    rcases (h r).mp hr with rfl | ⟨hold, hne⟩
    · exact .inl ⟨rfl, congrArg Prod.snd (hrplace.symm.trans hplace)⟩
    · exact .inr ⟨hne, r, hold, rfl, hrplace⟩
  · rintro (⟨rfl, rfl⟩ | ⟨hne, r, hr, rfl, hrplace⟩)
    · exact ⟨row, (h row).mpr (.inl rfl), rfl, hplace⟩
    · exact ⟨r, (h r).mpr (.inr ⟨hr, hne⟩), rfl, hrplace⟩

theorem Appended.wrote (h : Appended k s [row] t) : Wrote k s row t := by
  have hpairwise := (t.table k).pairwise
  rw [h.rows] at hpairwise
  intro r
  rw [h.rows, List.mem_append, List.mem_singleton]
  refine ⟨fun hor => hor.elim (fun hr => .inr ⟨hr, ?_⟩) .inl, fun hor => hor.elim .inr (fun hr => .inl hr.1)⟩
  exact ((List.pairwise_append.mp hpairwise).2.2 r hr row (List.mem_singleton_self row)).1

end writing

section lookup

variable {β : Type} {xs : List (Entity β)} {id : Uuid}

theorem mem_ids_of_find? {found : Entity β} (h : xs.find? (fun r => r.id = id) = some found) : id ∈ xs.map Entity.id :=
  List.mem_map.mpr ⟨found, List.mem_of_find?_eq_some h, by simpa using List.find?_some h⟩

theorem not_mem_ids_of_find? (h : xs.find? (fun r => r.id = id) = none) : id ∉ xs.map Entity.id := by
  intro hmem
  obtain ⟨found, hfound, hid⟩ := List.mem_map.mp hmem
  exact List.find?_eq_none.mp h found hfound (decide_eq_true hid)

end lookup

section rows

variable {may : Db → (o : DbOp) → o.Reply → Prop} {k : Kind} {s : Db}

theorem returns_crudUpdate (entity : Row k) : Returns dbStep may
    (fun _ t => ∃ now, Wrote k s (columns k { entity with updatedAt := now }) t) (Crud.update k entity) s := by
  refine ensures_crudUpdate (fun _ _ h => (nomatch h)) (fun now hapart _ _ => ?_)
  rintro _ ⟨⟩
  refine ⟨now, fun r => ?_⟩
  rw [table_withTable, mem_updated, id_columns]

/-- The body of `sync_interfaces` and of `sync_ports` for one input. -/
theorem returns_writeRow (hnew : ∀ id, may s .newV4 id → id ≠ Uuid.nil) (hcolumns : ∀ r : Row k, columns k r = r)
    (existing : List (Row k)) (entity : Row k) {p : Query Unit}
    (hsome : ∀ found, existing.find? (fun r => r.id = entity.id) = some found →
      p = (Crud.update k { entity with createdAt := found.createdAt }).bind (fun _ => ret ()))
    (hnone : existing.find? (fun r => r.id = entity.id) = none → p = (Crud.create k entity).bind (fun _ => ret ())) :
    Returns dbStep may (fun _ t => ∃ row, Wrote k s row t ∧ row.base = entity.base ∧
      Named (existing.map Entity.id) entity.id row.id) p s := by
  cases hfind : existing.find? (fun r => r.id = entity.id) with
  | some found =>
    rw [hsome found hfind]
    have hknown := mem_ids_of_find? hfind
    refine Returns.bind (returns_crudUpdate { entity with createdAt := found.createdAt }) ?_
    rintro _ t ⟨now, hwrote⟩
    rw [hcolumns] at hwrote
    exact Returns.ret ⟨_, hwrote, rfl, fun _ => rfl, fun hnot => absurd hknown hnot⟩
  | none =>
    rw [hnone hfind]
    have hunknown := not_mem_ids_of_find? hfind
    refine Returns.bind (returns_crudCreate hnew entity) ?_
    rintro row t ⟨hentered, happended⟩
    rw [hcolumns] at happended
    refine Returns.ret ⟨row, happended.wrote, hentered.base, fun hor => ?_, fun _ => ?_⟩
    · exact hentered.id (hor.resolve_left hunknown)
    · by_cases hnil : entity.id = Uuid.nil
      · exact hentered.fresh hnil
      · exact (hentered.id hnil).symm ▸ hnil

end rows

section services

variable {may : Db → (o : DbOp) → o.Reply → Prop} {s t : Db} {service : Service}

theorem Wrote.of_sameBut {k : Kind} {K : List Kind} {row : Row k} {u : Db} (h : Wrote k s row t) (hu : t.SameBut K u)
    (hk : k ∉ K) : Wrote k s row u := by
  unfold Wrote
  rw [hu k hk]
  exact h

theorem Revised.wrote {revised : Service} (h : Revised s service (.ok revised) t) :
    ∃ now, Wrote .service s { service.row with updatedAt := now } t := by
  generalize hr : Except.ok revised = r at h
  cases h with
  | refused e _ => cases hr
  | @written g _ hgroups hrefers now hapart hhas r hsaved =>
    have hservices : g.services = s.services := hgroups .service (by simp)
    refine ⟨now, fun r => ?_⟩
    rw [hsaved.target.1 .service (by simp), table_withTable, @mem_updated .service g.services
      { service.deduplicated with updatedAt := now } hapart r, hservices]
    rfl

/-- What creating the service under the id comes to: a stored one of the host takes it in where it is, or it is
numbered. -/
inductive Counts (s : Db) (hostId id : Uuid) (t : Db) : Prop
  | merged {row : Service} (hwrote : Wrote .service s row t) (hid : row.id = id)
      (hplace : ∃ old ∈ s.services.rows, old.id = id ∧ Service.place old = Service.place row ∧ old.base.hostId = hostId)
  | numbered {row : Service} (hwrote : Wrote .service s row t) (hid : row.id = id)
      (hnew : ∀ r ∈ s.services.rows, r.id ≠ id)
      (hplace : Service.place row = (hostId, ((s.services.rows.filter (fun r => r.base.hostId = hostId)).length : ℤ)))

theorem returns_serviceStore {existing : List Service} (hmanual : service.base.source.isFromDiscovery = false)
    (hloaded : Loaded s (fun r => r.base.hostId = service.base.hostId) existing)
    (hlength : existing.length = (s.services.rows.filter (fun r => r.base.hostId = service.base.hostId)).length) :
    Returns dbStep may (fun _ t => Counts s service.base.hostId service.id t) (ServiceService.store existing service) s := by
  have hinserted : Returns dbStep may (fun _ t => Counts s service.base.hostId service.id t) (ServiceService.insertService
      { service with base := { service.base with position := existing.length } }) s := by
    refine Returns.bind (q := fun _ t => t = s) (ensures_orFail (fun _ _ => rfl)) (fun _ t ht => ?_)
    subst ht
    refine (touches_validateBindingsBelongToHost (K := []) _ _).then (fun _ _ _ _ h => (by cases h)) (fun _ u hu => ?_)
    rw [hu.eq]
    refine (Touches.when (K := []) _ (touches_validateBindingsAvailable _ _ _)).then (fun _ _ _ _ h => (by cases h))
      (fun _ u hu => ?_)
    rw [hu.eq]
    apply Ensures.bind
    refine ensures_create (k := .service) (fun _ _ h => (by cases h)) (fun hapart _ => ?_)
    have hwrote := (Appended.insert hapart).wrote
    refine Ensures.imp (Touches.ensures (touches_saveBindings _) _) (fun _ u hu _ _ => ?_)
    refine .numbered (hwrote.of_sameBut hu (by simp)) rfl (fun r hr => (hapart r hr).1) ?_
    rw [← hlength]
    rfl
  unfold ServiceService.store
  dsimp only
  cases hfind : existing.find? (fun existing => Service.eq existing service) with
  | none => exact hinserted
  | some found =>
    dsimp only
    split_ifs with hupsert
    · obtain ⟨row, hrow, hhost, hrowLoaded⟩ := hloaded.mem found (List.mem_of_find?_eq_some hfind)
      have hid : service.id = found.id := by simpa [ServiceService.isUpsert, hmanual] using hupsert
      refine Returns.bind (q := fun _ t => ∃ now,
        Wrote .service s { (upsertedService found service).row with updatedAt := now } t) ?_ ?_
      · apply ensures_update (k := .service)
        · exact fun _ _ h => by cases h
        · intro now hnot
          have hhas := (has_iff s .service found.id).mpr ⟨row, hrow, hrowLoaded.id_eq.symm⟩
          rw [show s.has .service found.id = false from hnot] at hhas
          cases hhas
        · rintro now hapart - - updated ⟨⟩
          refine ⟨now, fun r => ?_⟩
          rw [table_withTable]
          exact mem_updated
      · rintro updated t ⟨now, hwrote⟩
        refine Ensures.imp (Touches.ensures (touches_saveBindings _) _) (fun _ u hu _ _ => ?_)
        refine .merged (hwrote.of_sameBut hu (by simp)) hid.symm ⟨row, hrow, hrowLoaded.id_eq.symm.trans hid.symm, ?_, ?_⟩
        · rw [hrowLoaded.eq]
          rfl
        · simpa using hhost
    · exact hinserted

theorem returns_serviceCreate (hnew : ∀ id, may s .newV4 id → id ≠ Uuid.nil)
    (hmanual : service.base.source.isFromDiscovery = false) :
    Returns dbStep may (fun _ t => ∃ id, (service.id ≠ Uuid.nil → id = service.id) ∧ (service.id = Uuid.nil → id ≠ Uuid.nil) ∧
      Counts s service.base.hostId id t) (ServiceService.create service) s := by
  have hnamed (prepared : Service) (hmanual : prepared.base.source.isFromDiscovery = false) : Returns dbStep may
      (fun _ t => Counts s prepared.base.hostId prepared.id t)
      ((acquire (.service prepared.id)).bind (fun _ =>
        (ServiceService.getForHost prepared.base.hostId).bind (fun existingServices =>
          (ServiceService.store existingServices prepared).bind (fun stored =>
            (release (.service prepared.id)).bind (fun _ => ret stored))))) s := by
    apply ensures_acquire
    apply Ensures.bind
    refine ensures_serviceGetAll_rows (fun _ _ h => (nomatch h)) (fun rows services hrows hpaired hloaded => ?_)
    refine Returns.bind (returns_serviceStore hmanual hloaded ?_) (fun stored t h => ensures_release (Returns.ret h))
    rw [← hpaired.length_eq, hrows.length_eq]
  by_cases hnil : service.id = Uuid.nil
  · rw [ServiceService.create, if_pos hnil]
    apply Ensures.bind
    apply ensures_newEntity
    intro id now hid
    exact (hnamed (ServiceService.withBindings (deduplicateBindings service.base.bindings)
      { service with id := id, createdAt := now, updatedAt := now }) hmanual).imp
      (fun _ t h => ⟨id, fun hne => absurd hnil hne, fun _ => hnew id hid, h⟩)
  · rw [ServiceService.create, if_neg hnil]
    exact (hnamed (ServiceService.withBindings (deduplicateBindings service.base.bindings) service) hmanual).imp
      (fun _ t h => ⟨service.id, fun _ => rfl, fun h => absurd h hnil, h⟩)

/-- What `sync_services` does for one of its inputs. -/
inductive Served (known : List Uuid) (hostId : Uuid) (s : Db) (input : ServiceInput) (t : Db) : Prop
  | updated {row : Service} (hknown : input.id ∈ known) (hwrote : Wrote .service s row t) (hid : row.id = input.id)
      (hplace : Service.place row = (hostId, input.position.getD 0))
  | created {id : Uuid} (hnew : input.id ∉ known) (hnamed : Named known input.id id) (hcounts : Counts s hostId id t)

theorem returns_intoService_place (input : ServiceInput) (hostId networkId : Uuid) : Returns dbStep may
    (fun service t => t = s ∧ service.id = input.id ∧ Service.place service = (hostId, input.position.getD 0) ∧
      service.base.source = .manual) (input.intoService hostId networkId .manual) s := by
  refine Returns.bind (q := fun _ t => t = s) (p := utcNow) (fun now _ => Returns.ret rfl) ?_
  rintro now _ rfl
  refine Touches.then (p := collect (fun b : BindingInput => b.intoBinding input.id networkId) input.bindings) (K := [])
    (.collect (fun b => .op (List.nil_subset _) (fun _ => .op (List.nil_subset _) (fun _ => .ret _))) _)
    (fun _ _ _ _ h => (nomatch h)) (fun bindings t ht => ?_)
  exact Returns.ret ⟨ht.eq, rfl, rfl, rfl⟩

theorem returns_syncService (hnew : ∀ s id, may s .newV4 id → id ≠ Uuid.nil) (existing : List Service)
    (hostId networkId : Uuid) (input : ServiceInput) :
    Returns dbStep may (fun _ t => Served (existing.map Entity.id) hostId s input t)
      (HostService.syncService existing hostId networkId input) s := by
  refine Returns.bind (returns_intoService_place input hostId networkId) ?_
  rintro service t ⟨rfl, hid, hplace, hsource⟩
  cases hfind : existing.find? (fun r => r.id = input.id) with
  | some found =>
    refine Returns.bind (q := fun _ u => Served (existing.map Entity.id) hostId t input u) ?_ (fun _ _ h => Returns.ret h)
    refine Ensures.imp (ensures_serviceUpdate _) (fun r u hrevised revised hr => ?_)
    obtain ⟨now, hwrote⟩ := (hr ▸ hrevised).wrote
    exact .updated (mem_ids_of_find? hfind) hwrote hid hplace
  | none =>
    have hunknown := not_mem_ids_of_find? hfind
    refine Returns.bind (returns_serviceCreate (hnew t) (by rw [hsource]; rfl)) (fun _ u hu => Returns.ret ?_)
    obtain ⟨id, hsame, hfresh, hcounts⟩ := hu
    rw [hid] at hsame hfresh
    have hhost : service.base.hostId = hostId := congrArg Prod.fst hplace
    rw [hhost] at hcounts
    refine .created hunknown ⟨fun hor => hsame (hor.resolve_left hunknown), fun _ => ?_⟩ hcounts
    by_cases hnil : input.id = Uuid.nil
    · exact hfresh hnil
    · exact (hsame hnil).symm ▸ hnil

end services

/-- What is there once the entries are written over the ids of `kept`, which are among the stored ones of `known`. -/
structure Synced (k : Kind) (place : Row k → Uuid × ℤ) (hostId : Uuid) (known kept : List Uuid)
    (entries : List (Uuid × ℤ)) (t : Db) : Prop where
  written : (∀ e ∈ entries, e.1 = Uuid.nil → Uuid.nil ∈ known) → Written kept entries (Db.Places k place hostId t)
  named : Uuid.nil ∉ known → ∀ p, ¬ Db.Places k place hostId t Uuid.nil p

/-- The same of services, where those that are new are numbered. -/
structure SyncedServices (hostId : Uuid) (known kept : List Uuid) (entries : List (Uuid × ℤ)) (t : Db) : Prop where
  counted : (∀ e ∈ entries, e.1 = Uuid.nil → Uuid.nil ∈ known) →
    Counted kept entries (Db.Places .service Service.place hostId t)
  named : Uuid.nil ∉ known → ∀ p, ¬ Db.Places .service Service.place hostId t Uuid.nil p

section loops

variable {may : Db → (o : DbOp) → o.Reply → Prop} {hostId : Uuid} {known kept : List Uuid} {s t : Db}
  {done : List (Uuid × ℤ)} {e : Uuid × ℤ}

theorem Db.Places.unique {k : Kind} {place : Row k → Uuid × ℤ} {id : Uuid} {p q : ℤ}
    (hp : Db.Places k place hostId t id p) (hq : Db.Places k place hostId t id q) : p = q := by
  obtain ⟨r, hr, hid, hplace⟩ := hp
  obtain ⟨r', hr', hid', hplace'⟩ := hq
  obtain rfl := eq_of_id_eq hr hr' (hid.trans hid'.symm)
  exact congrArg Prod.snd (hplace.symm.trans hplace')

theorem Named.congr {known' : List Uuid} {asked id : Uuid} (h : Named known asked id)
    (hknown : ∀ id, id ∈ known ↔ id ∈ known') : Named known' asked id :=
  ⟨fun hor => h.same (hor.imp_left (hknown asked).mpr), fun hnot => h.fresh (fun hmem => hnot ((hknown asked).mp hmem))⟩

theorem Served.congr {known' : List Uuid} {input : ServiceInput} (h : Served known hostId s input t)
    (hknown : ∀ id, id ∈ known ↔ id ∈ known') : Served known' hostId s input t := by
  cases h with
  | updated hmem hwrote hid hplace => exact .updated ((hknown _).mp hmem) hwrote hid hplace
  | created hnot hnamed hcounts => exact .created (fun hmem => hnot ((hknown _).mpr hmem)) (hnamed.congr hknown) hcounts

theorem Named.of_asked {asked id : Uuid} (h : Named known asked id) (hids : asked = Uuid.nil → Uuid.nil ∈ known) :
    id = asked := by
  apply h.same
  by_cases hnil : asked = Uuid.nil
  · exact .inl (hnil ▸ hids hnil)
  · exact .inr hnil

theorem Named.ne_nil {asked id : Uuid} (h : Named known asked id) (hnil : Uuid.nil ∉ known) : id ≠ Uuid.nil := by
  by_cases hknown : asked ∈ known
  · exact h.same (.inl hknown) ▸ fun heq => hnil (heq ▸ hknown)
  · exact h.fresh hknown

/-- No row under the nil id comes to be where none is asked for. -/
theorem Wrote.no_nil {k : Kind} {place : Row k → Uuid × ℤ} {row : Row k} (h : Wrote k s row t)
    (hs : ∀ p, ¬ Db.Places k place hostId s Uuid.nil p) (hid : row.id ≠ Uuid.nil) (p : ℤ) :
    ¬ Db.Places k place hostId t Uuid.nil p := by
  rintro ⟨r, hr, hrid, hplace⟩
  rcases (h r).mp hr with rfl | ⟨hold, -⟩
  · exact hid hrid
  · exact hs p ⟨r, hold, hrid, hplace⟩

theorem Synced.step {k : Kind} {place : Row k → Uuid × ℤ} {row : Row k} (h : Synced k place hostId known kept done s)
    (hwrote : Wrote k s row t) (hplace : place row = (hostId, e.2)) (hnamed : Named known e.1 row.id) :
    Synced k place hostId known kept (done ++ [e]) t := by
  constructor
  · intro hids
    have hputs := hwrote.puts hplace
    rw [hnamed.of_asked (hids e (by simp))] at hputs
    exact (h.written (fun e' he' => hids e' (List.mem_append_left _ he'))).put hputs
  · exact fun hnil => hwrote.no_nil (h.named hnil) (hnamed.ne_nil hnil)

theorem SyncedServices.count (h : Counted kept done (Db.Places .service Service.place hostId s)) (hnodup : kept.Nodup) :
    (s.services.rows.filter (fun r => r.base.hostId = hostId)).length = ((done.map Prod.fst).foldl enter kept).length := by
  have hids : ((s.services.rows.filter (fun r => r.base.hostId = hostId)).map Entity.id).Perm
      ((done.map Prod.fst).foldl enter kept) := by
    refine (List.perm_ext_iff_of_nodup ?_ (nodup_foldl_enter hnodup)).mpr (fun id => ?_)
    · exact List.pairwise_map.mpr ((s.services.pairwise.filter _).imp (fun hapart => hapart.1))
    · rw [← h.mem_keys, List.mem_map]
      constructor
      · rintro ⟨r, hr, rfl⟩
        obtain ⟨hr, hhost⟩ := List.mem_filter.mp hr
        exact ⟨_, r, hr, rfl, by rw [Service.place, of_decide_eq_true hhost]⟩
      · rintro ⟨p, r, hr, hid, hplace⟩
        exact ⟨r, List.mem_filter.mpr ⟨hr, decide_eq_true (congrArg Prod.fst hplace)⟩, hid⟩
  rw [← hids.length_eq, List.length_map]

theorem SyncedServices.step (h : SyncedServices hostId known kept done s) (hnodup : kept.Nodup) (hsub : kept ⊆ known)
    {input : ServiceInput} (hkept : input.id ∈ known → input.id ∈ kept) (hserved : Served known hostId s input t) :
    SyncedServices hostId known kept (done ++ [(input.id, input.position.getD 0)]) t := by
  have hbefore (hids : ∀ e' ∈ done ++ [(input.id, input.position.getD 0)], e'.1 = Uuid.nil → Uuid.nil ∈ known) :=
    h.counted (fun e' he' => hids e' (List.mem_append_left _ he'))
  cases hserved with
  | @updated row hknown hwrote hid hplace =>
    have hnamed : Named known input.id row.id := ⟨fun _ => hid, fun hnot => absurd hknown hnot⟩
    refine ⟨fun hids => ?_, fun hnil => hwrote.no_nil (h.named hnil) (hnamed.ne_nil hnil)⟩
    have hputs := hwrote.puts hplace
    rw [hid] at hputs
    exact (hbefore hids).replace (hkept hknown) hputs
  | @created id hnew hnamed hcounts =>
    have hnotKept : input.id ∉ kept := fun hmem => hnew (hsub hmem)
    have hsame (hids : ∀ e' ∈ done ++ [(input.id, input.position.getD 0)], e'.1 = Uuid.nil → Uuid.nil ∈ known) :
        id = input.id := hnamed.of_asked (hids (input.id, input.position.getD 0) (by simp))
    cases hcounts with
    | @merged row hwrote hid hplace =>
      obtain ⟨old, hold, holdId, holdPlace, hhost⟩ := hplace
      refine ⟨fun hids => ?_, fun hnil => hwrote.no_nil (h.named hnil) (hid ▸ hnamed.ne_nil hnil)⟩
      have holdPlaces : Db.Places .service Service.place hostId s id old.base.position :=
        ⟨old, hold, holdId, by rw [Service.place, hhost]⟩
      have hrowPlace : Service.place row = (hostId, old.base.position) := by rw [← holdPlace, Service.place, hhost]
      have hputs := hwrote.puts hrowPlace
      rw [hid, hsame hids] at hputs
      rw [hsame hids] at holdPlaces
      rw [hputs.eq_of_same (fun v => ⟨fun hv => hv.unique holdPlaces, fun hv => hv ▸ holdPlaces⟩)]
      refine (hbefore hids).keep hnotKept ?_
      exact (((hbefore hids).keys input.id).mp ⟨_, holdPlaces⟩).resolve_left hnotKept
    | @numbered row hwrote hid hrows hplace =>
      refine ⟨fun hids => ?_, fun hnil => hwrote.no_nil (h.named hnil) (hid ▸ hnamed.ne_nil hnil)⟩
      have hputs := hwrote.puts hplace
      rw [hid, hsame hids] at hputs
      refine (hbefore hids).add hnotKept (fun hdone => ?_) (SyncedServices.count (hbefore hids) hnodup) hputs
      obtain ⟨p, r, hr, hrid, -⟩ := ((hbefore hids).keys input.id).mpr (.inr hdone)
      exact hrows r hr (hrid.trans (hsame hids).symm)

theorem returns_writeAll {k : Kind} {place : Row k → Uuid × ℤ} {ι : Type} {key : ι → Uuid × ℤ} {f : ι → Query Unit}
    (hf : ∀ x s, Returns dbStep may (fun _ t => ∃ row, Wrote k s row t ∧
      place row = (hostId, (key x).2) ∧ Named known (key x).1 row.id) (f x) s)
    (xs : List ι) (hs : Synced k place hostId known kept [] s) :
    Returns dbStep may (fun _ t => Synced k place hostId known kept (xs.map key) t) (forEach f xs) s := by
  refine Returns.forEach (fun done t => Synced k place hostId known kept (done.map key) t) xs ?_ hs
  rintro done x rest - t ht
  refine (hf x t).imp (fun _ u ⟨row, hwrote, hplace, hnamed⟩ => ?_)
  rw [List.map_append]
  exact ht.step hwrote hplace hnamed

theorem returns_serveAll {f : ServiceInput → Query Unit} (hnodup : kept.Nodup) (hsub : kept ⊆ known)
    (hf : ∀ x s, Returns dbStep may (fun _ t => Served known hostId s x t) (f x) s) (xs : List ServiceInput)
    (hkept : ∀ x ∈ xs, x.id ∈ known → x.id ∈ kept) (hs : SyncedServices hostId known kept [] s) :
    Returns dbStep may (fun _ t => SyncedServices hostId known kept (xs.map (fun x => (x.id, x.position.getD 0))) t)
      (forEach f xs) s := by
  refine Returns.forEach (fun done t =>
    SyncedServices hostId known kept (done.map (fun x => (x.id, x.position.getD 0))) t) xs ?_ hs
  rintro done x rest rfl t ht
  refine (hf x t).imp (fun _ u hserved => ?_)
  rw [List.map_append]
  exact ht.step hnodup hsub (hkept x (by simp)) hserved

theorem returns_deleteMany (k : Kind) (ids : List Uuid) : Returns dbStep may
    (fun _ t => ∀ r, r ∈ (t.table k).rows ↔ r ∈ (s.table k).rows ∧ r.id ∉ ids) (Crud.deleteMany k ids) s := by
  refine ensures_deleteMany (fun _ _ h => (nomatch h)) ?_ ?_
  · rintro rfl _ -
    simp
  · rintro _ - r
    rw [table_delete]
    simp

/-- The ids of the host's rows. -/
def Db.idsOf (k : Kind) (place : Row k → Uuid × ℤ) (hostId : Uuid) (db : Db) : List Uuid :=
  ((db.table k).rows.filter (fun r => (place r).1 = hostId)).map Entity.id

theorem mem_idsOf {k : Kind} {place : Row k → Uuid × ℤ} {id : Uuid} :
    id ∈ s.idsOf k place hostId ↔ ∃ p, Db.Places k place hostId s id p := by
  simp only [Db.idsOf, List.mem_map, List.mem_filter, decide_eq_true_eq]
  constructor
  · rintro ⟨r, ⟨hr, hhost⟩, hid⟩
    exact ⟨_, r, hr, hid, Prod.ext hhost rfl⟩
  · rintro ⟨p, r, hr, hid, hplace⟩
    exact ⟨r, ⟨hr, congrArg Prod.fst hplace⟩, hid⟩

theorem nodup_idsOf (k : Kind) (place : Row k → Uuid × ℤ) (hostId : Uuid) (s : Db) : (s.idsOf k place hostId).Nodup :=
  List.pairwise_map.mpr (((s.table k).pairwise.filter _).imp (fun hapart => hapart.1))

/-- The ids of the host that the inputs have too. -/
def Db.keptIds (k : Kind) (place : Row k → Uuid × ℤ) (hostId : Uuid) (asked : List Uuid) (db : Db) : List Uuid :=
  (db.idsOf k place hostId).filter (fun id => asked.contains id)

theorem places_of_deleted {k : Kind} {place : Row k → Uuid × ℤ} {ids asked : List Uuid}
    (hknown : ∀ id, id ∈ ids ↔ id ∈ s.idsOf k place hostId) (hdeleted : ∀ r, r ∈ (t.table k).rows ↔
      r ∈ (s.table k).rows ∧ r.id ∉ ids.filter (fun id => !asked.contains id)) (id : Uuid) :
    (∃ p, Db.Places k place hostId t id p) ↔ id ∈ s.keptIds k place hostId asked := by
  rw [Db.keptIds, List.mem_filter, mem_idsOf]
  constructor
  · rintro ⟨p, r, hr, rfl, hplace⟩
    obtain ⟨hr, hnot⟩ := (hdeleted r).mp hr
    have hplaces : ∃ p, Db.Places k place hostId s r.id p := ⟨p, r, hr, rfl, hplace⟩
    refine ⟨hplaces, ?_⟩
    by_contra hasked
    exact hnot (List.mem_filter.mpr ⟨(hknown _).mpr (mem_idsOf.mpr hplaces), by simpa using hasked⟩)
  · rintro ⟨⟨p, r, hr, rfl, hplace⟩, hasked⟩
    refine ⟨p, r, (hdeleted r).mpr ⟨hr, fun hmem => ?_⟩, rfl, hplace⟩
    have hnot := (List.mem_filter.mp hmem).2
    rw [hasked] at hnot
    cases hnot

/-- The host's rows with their positions, as they are handed to the resolution. -/
def Db.positionsOf (k : Kind) (place : Row k → Uuid × ℤ) (hostId : Uuid) (db : Db) : List (Uuid × ℤ) :=
  ((db.table k).rows.filter (fun r => (place r).1 = hostId)).map (fun r => (r.id, (place r).2))

theorem distinct_positionsOf (k : Kind) (place : Row k → Uuid × ℤ) (hostId : Uuid) (s : Db) :
    (s.positionsOf k place hostId).Pairwise (fun a b => a.1 ≠ b.1) :=
  List.pairwise_map.mpr (((s.table k).pairwise.filter _).imp (fun hapart => hapart.1))

end loops

def InterfaceInput.entry (input : InterfaceInput) : Uuid × ℤ := (input.id, input.position.getD 0)

def PortInput.entry (input : PortInput) : Uuid × ℤ := (input.id, 0)

def ServiceInput.entry (input : ServiceInput) : Uuid × ℤ := (input.id, input.position.getD 0)

def Db.resolvedInterfaces (db : Db) (hostId : Uuid) (inputs : List InterfaceInput) : Except Error (List InterfaceInput) :=
  resolveAndValidateInputPositions InterfaceInput.id InterfaceInput.position (fun i p => { i with position := some p })
    inputs (db.positionsOf .interface Interface.place hostId) "interface"

def Db.resolvedServices (db : Db) (hostId : Uuid) (inputs : List ServiceInput) : Except Error (List ServiceInput) :=
  resolveAndValidateInputPositions ServiceInput.id ServiceInput.position (fun s p => { s with position := some p })
    inputs (db.positionsOf .service Service.place hostId) "service"

section syncs

variable {may : Db → (o : DbOp) → o.Reply → Prop} {s : Db}

/-- Deleting what is not asked for and writing what is, where the ids of `existing` are the host's. -/
theorem returns_sync (k : Kind) (place : Row k → Uuid × ℤ) {hostId : Uuid} {ι : Type} {key : ι → Uuid × ℤ}
    {existing : List (Row k)} (hexisting : existing.Perm ((s.table k).rows.filter (fun r => (place r).1 = hostId)))
    {f : ι → Query Unit} (hf : ∀ x s, Returns dbStep may (fun _ t => ∃ row, Wrote k s row t ∧
      place row = (hostId, (key x).2) ∧ Named (existing.map Entity.id) (key x).1 row.id) (f x) s)
    (asked : List Uuid) (xs : List ι) :
    Returns dbStep may (fun _ t => Synced k place hostId (s.idsOf k place hostId) (s.keptIds k place hostId asked) (xs.map key) t)
      ((Crud.deleteMany k ((existing.map Entity.id).filter (fun id => !asked.contains id))).bind
        (fun _ => forEach f xs)) s := by
  have hids : (existing.map Entity.id).Perm (s.idsOf k place hostId) := hexisting.map Entity.id
  refine Returns.bind (returns_deleteMany k _) (fun _ t hdeleted => ?_)
  have hplaces := @places_of_deleted hostId s t k place _ asked (fun id => hids.mem_iff) hdeleted
  have hstart : Synced k place hostId (s.idsOf k place hostId) (s.keptIds k place hostId asked) [] t := by
    refine ⟨fun _ => .nil hplaces, fun hnil p hp => hnil ?_⟩
    exact List.mem_of_mem_filter ((hplaces Uuid.nil).mp ⟨p, hp⟩)
  refine returns_writeAll (fun x s => (hf x s).imp (fun _ u ⟨row, hwrote, hplace, hnamed⟩ => ?_)) xs hstart
  exact ⟨row, hwrote, hplace, hnamed.congr (fun id => hids.mem_iff)⟩

theorem ids_of_resolvedInterfaces {hostId : Uuid} {inputs resolved : List InterfaceInput}
    (h : s.resolvedInterfaces hostId inputs = .ok resolved) :
    resolved.map InterfaceInput.id = inputs.map InterfaceInput.id := by
  have hresolved : List.Forall₂ (Resolved (fun (i : InterfaceInput) p => { i with position := some p })) inputs resolved :=
    resolveAndValidateInputPositions_resolved h
  exact ids_of_resolved hresolved (fun _ _ => rfl)

theorem ids_of_resolvedServices {hostId : Uuid} {inputs resolved : List ServiceInput}
    (h : s.resolvedServices hostId inputs = .ok resolved) :
    resolved.map ServiceInput.id = inputs.map ServiceInput.id := by
  have hresolved : List.Forall₂ (Resolved (fun (i : ServiceInput) p => { i with position := some p })) inputs resolved :=
    resolveAndValidateInputPositions_resolved h
  exact ids_of_resolved hresolved (fun _ _ => rfl)

theorem isSome_of_resolvedInterfaces {hostId : Uuid} {inputs resolved : List InterfaceInput}
    (h : s.resolvedInterfaces hostId inputs = .ok resolved) : ∀ x ∈ resolved, x.position.isSome = true := by
  unfold Db.resolvedInterfaces at h
  refine resolveAndValidateInputPositions_isSome ?_ h
  intro _ _
  rfl

theorem isSome_of_resolvedServices {hostId : Uuid} {inputs resolved : List ServiceInput}
    (h : s.resolvedServices hostId inputs = .ok resolved) : ∀ x ∈ resolved, x.position.isSome = true := by
  unfold Db.resolvedServices at h
  refine resolveAndValidateInputPositions_isSome ?_ h
  intro _ _
  rfl

theorem returns_syncInterfaces (hnew : ∀ s id, may s .newV4 id → id ≠ Uuid.nil) (hostId networkId : Uuid)
    (inputs : List InterfaceInput) :
    Returns dbStep may (fun _ t => ∃ resolved, s.resolvedInterfaces hostId inputs = .ok resolved ∧
          Synced .interface Interface.place hostId (s.idsOf .interface Interface.place hostId)
            (s.keptIds .interface Interface.place hostId (inputs.map InterfaceInput.id))
            (resolved.map InterfaceInput.entry) t)
      (HostService.syncInterfaces hostId networkId inputs) s := by
  apply Ensures.bind
  refine ensures_getAllOrdered (k := .interface) (fun _ _ h => (nomatch h)) (fun existing hexisting _ => ?_)
  have hpositions : (existing.map (fun i : Interface => (i.id, i.base.position))).Perm
      (s.positionsOf .interface Interface.place hostId) := hexisting.map _
  have hresolved : resolveAndValidateInputPositions InterfaceInput.id InterfaceInput.position
      (fun i p => { i with position := some p }) inputs (existing.map (fun i : Interface => (i.id, i.base.position)))
      "interface" = s.resolvedInterfaces hostId inputs :=
    (resolveAndValidateInputPositions_perm hpositions.symm (distinct_positionsOf _ _ _ _) _ _).symm
  apply Ensures.bind
  rw [hresolved]
  apply ensures_orFail
  cases hok : s.resolvedInterfaces hostId inputs with
  | error e => exact fun _ h => (nomatch h)
  | ok resolved =>
    rw [← ids_of_resolvedInterfaces hok]
    have hsync := @returns_sync may s .interface Interface.place hostId InterfaceInput InterfaceInput.entry existing
      hexisting (HostService.syncInterface existing hostId networkId) (fun x s => ?_)
      (resolved.map InterfaceInput.id) resolved
    · exact hsync.imp (fun _ t hsynced => ⟨resolved, rfl, hsynced⟩)
    · intro now _
      refine Returns.imp (returns_writeRow (k := .interface) (hnew s) (fun _ => rfl) existing ⟨x.id, now, now,
        ⟨networkId, hostId, x.subnetId, x.ipAddress, x.macAddress, x.name, x.position.getD 0⟩⟩ ?_ ?_) ?_
      · intro found hfound
        simp only [hfound]
        rfl
      · intro hfound
        simp only [hfound]
        rfl
      · rintro _ t ⟨row, hwrote, hbase, hnamed⟩
        exact ⟨row, hwrote, by rw [Interface.place, hbase]; rfl, hnamed⟩

theorem returns_syncPorts (hnew : ∀ s id, may s .newV4 id → id ≠ Uuid.nil) (hostId networkId : Uuid)
    (inputs : List PortInput) :
    Returns dbStep may (fun _ t => Synced .port Port.place hostId (s.idsOf .port Port.place hostId)
          (s.keptIds .port Port.place hostId (inputs.map PortInput.id)) (inputs.map PortInput.entry) t)
      (HostService.syncPorts hostId networkId inputs) s := by
  apply Ensures.bind
  refine ensures_getAll (k := .port) (fun _ _ h => (nomatch h)) (fun existing hexisting _ => ?_)
  apply @returns_sync may s .port Port.place hostId PortInput PortInput.entry existing hexisting
    (HostService.syncPort existing hostId networkId) (fun x s => ?_)
    (inputs.map PortInput.id) inputs
  intro now _
  refine Returns.imp (returns_writeRow (k := .port) (hnew s) (fun _ => rfl) existing ⟨x.id, now, now,
    ⟨hostId, networkId, ⟨x.number, x.protocol⟩⟩⟩ ?_ ?_) ?_
  · intro found hfound
    simp only [hfound]
    rfl
  · intro hfound
    simp only [hfound]
    rfl
  · rintro _ t ⟨row, hwrote, hbase, hnamed⟩
    exact ⟨row, hwrote, by rw [Port.place, hbase]; rfl, hnamed⟩

theorem returns_serviceDeleteMany (ids : List Uuid) : Returns dbStep may (fun _ t =>
    ∀ r, r ∈ (t.table .service).rows ↔ r ∈ (s.table .service).rows ∧ r.id ∉ ids) (ServiceService.deleteMany ids) s := by
  unfold ServiceService.deleteMany
  split_ifs with hempty
  · exact Returns.ret (by simp [List.isEmpty_iff.mp hempty])
  · refine Touches.then (p := forEach (fun id => (ServiceService.getById id).bind (fun _ => ret ())) ids) (K := [])
      (.forEach (fun id => (touches_serviceGetById id).bind (fun _ => .ret _)) ids) (fun _ _ _ _ h => (nomatch h))
      (fun _ t ht => ?_)
    rw [ht.eq]
    refine ensures_deleteWhere (k := .service) (fun _ _ h => (nomatch h)) ?_
    rintro _ - r
    rw [table_delete]
    simp

/-- Services that lose ports are stored already, so that putting them first does not number the others differently. -/
theorem entered_losesPorts {existing : List Service} {kept : List Uuid} {inputs : List ServiceInput}
    (hkept : ∀ x ∈ inputs, x.id ∈ existing.map Entity.id → x.id ∈ kept) :
    entered kept ((inputs.filter (HostService.losesPorts existing) ++
        inputs.filter (fun i => !HostService.losesPorts existing i)).map ServiceInput.id) =
      entered kept (inputs.map ServiceInput.id) := by
  have hloses : ∀ x ∈ inputs, x.id ∉ kept → HostService.losesPorts existing x = false := by
    intro x hx hnot
    unfold HostService.losesPorts
    cases hfind : existing.find? (fun s => s.id = x.id) with
    | none => rfl
    | some found => exact absurd (hkept x hx (mem_ids_of_find? hfind)) hnot
  refine (entered_filter (List.Subset.refl kept)).symm.trans (Eq.trans (congrArg (entered kept) ?_)
    (entered_filter (List.Subset.refl kept)))
  simp only [List.map_append, List.filter_append, List.filter_map, List.filter_filter]
  have hfirst : inputs.filter (fun x => ((fun k => decide (k ∉ kept)) ∘ ServiceInput.id) x &&
      HostService.losesPorts existing x) = [] := by
    refine List.filter_eq_nil_iff.mpr (fun x hx => ?_)
    by_cases hmem : x.id ∈ kept
    · simp [hmem]
    · simp [hloses x hx hmem]
  have hothers : inputs.filter (fun x => ((fun k => decide (k ∉ kept)) ∘ ServiceInput.id) x &&
      !HostService.losesPorts existing x) = inputs.filter ((fun k => decide (k ∉ kept)) ∘ ServiceInput.id) := by
    refine List.filter_congr (fun x hx => ?_)
    by_cases hmem : x.id ∈ kept
    · simp [hmem]
    · simp [hloses x hx hmem]
  rw [hfirst, hothers]
  rfl

theorem returns_syncServices (hnew : ∀ s id, may s .newV4 id → id ≠ Uuid.nil) (hostId networkId : Uuid)
    (inputs : List ServiceInput) :
    Returns dbStep may (fun _ t => ∃ resolved, s.resolvedServices hostId inputs = .ok resolved ∧
          SyncedServices hostId (s.idsOf .service Service.place hostId)
            (s.keptIds .service Service.place hostId (inputs.map ServiceInput.id))
            (resolved.map ServiceInput.entry) t)
      (HostService.syncServices hostId networkId inputs) s := by
  apply Ensures.bind
  refine ensures_serviceGetAll_rows (fun _ _ h => (nomatch h)) (fun rows existing hrows hpaired _ => ?_)
  have hentries : existing.map (fun r : Service => (r.id, r.base.position)) =
      rows.map (fun r : Service => (r.id, r.base.position)) := by
    have heq : List.Forall₂ (· = ·) (rows.map (fun r : Service => (r.id, r.base.position)))
        (existing.map (fun r : Service => (r.id, r.base.position))) := by
      refine List.forall₂_map_left_iff.mpr (List.forall₂_map_right_iff.mpr (hpaired.imp (fun row z hloaded => ?_)))
      rw [hloaded.eq]
      rfl
    rw [List.forall₂_eq_eq_eq] at heq
    exact heq.symm
  have hpositions : (existing.map (fun r : Service => (r.id, r.base.position))).Perm
      (s.positionsOf .service Service.place hostId) := by
    rw [hentries]
    exact hrows.map _
  have hresolved : resolveAndValidateInputPositions ServiceInput.id ServiceInput.position
      (fun s p => { s with position := some p }) inputs (existing.map (fun r : Service => (r.id, r.base.position)))
      "service" = s.resolvedServices hostId inputs :=
    (resolveAndValidateInputPositions_perm hpositions.symm (distinct_positionsOf _ _ _ _) _ _).symm
  have hids : (existing.map Entity.id).Perm (s.idsOf .service Service.place hostId) := by
    have hkeys := hpositions.map Prod.fst
    rw [List.map_map, Db.positionsOf, List.map_map] at hkeys
    exact hkeys
  apply Ensures.bind
  rw [hresolved]
  apply ensures_orFail
  cases hok : s.resolvedServices hostId inputs with
  | error e => exact fun _ h => (nomatch h)
  | ok resolved =>
    have hasked := ids_of_resolvedServices hok
    rw [← hasked]
    have hkept : ∀ x ∈ resolved, x.id ∈ s.idsOf .service Service.place hostId →
        x.id ∈ s.keptIds .service Service.place hostId (resolved.map ServiceInput.id) := by
      intro x hx hmem
      exact List.mem_filter.mpr ⟨hmem, List.contains_iff_mem.mpr (List.mem_map_of_mem hx)⟩
    refine Returns.bind (returns_serviceDeleteMany _) (fun _ t hdeleted => ?_)
    have hplaces := @places_of_deleted hostId s t .service Service.place _ (resolved.map ServiceInput.id)
      (fun id => hids.mem_iff) hdeleted
    have hstart : SyncedServices hostId (s.idsOf .service Service.place hostId)
        (s.keptIds .service Service.place hostId (resolved.map ServiceInput.id)) [] t := by
      refine ⟨fun _ => .nil hplaces, fun hnil p hp => hnil ?_⟩
      exact List.mem_of_mem_filter ((hplaces Uuid.nil).mp ⟨p, hp⟩)
    have hserve := @returns_serveAll may hostId _ _ t (HostService.syncService existing hostId networkId)
      ((nodup_idsOf .service Service.place hostId s).filter _) (List.filter_subset_self _)
      (fun x s => (returns_syncService hnew existing hostId networkId x).imp
        (fun _ u hserved => hserved.congr (fun id => hids.mem_iff)))
      (resolved.filter (HostService.losesPorts existing) ++ resolved.filter (fun i => !HostService.losesPorts existing i))
      (fun x hx => ?_) hstart
    · refine hserve.imp (fun _ u hsynced => ⟨resolved, rfl, fun hnil => ?_, hsynced.named⟩)
      have hmem (e : Uuid × ℤ) : e ∈ (resolved.filter (HostService.losesPorts existing) ++
          resolved.filter (fun i => !HostService.losesPorts existing i)).map ServiceInput.entry ↔
          e ∈ resolved.map ServiceInput.entry :=
        ((List.filter_append_perm (HostService.losesPorts existing) resolved).map ServiceInput.entry).mem_iff
      refine (hsynced.counted (fun e he => hnil e ((hmem e).mp he))).congr hmem ?_
      rw [List.map_map, List.map_map]
      exact entered_losesPorts (fun x hx hexisting => hkept x hx (hids.mem_iff.mp hexisting))
    · exact hkept x ((List.filter_append_perm (HostService.losesPorts existing) resolved).mem_iff.mp hx)

end syncs

end VantageNet.Inventory
