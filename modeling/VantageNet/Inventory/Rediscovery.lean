import VantageNet.Inventory.Merging

/-!
A host that is discovered again: when `discover_host` finds everything it is told stored
already.
-/

namespace VantageNet.Inventory

open Interaction Interaction.Program

/-- Only the discovery metadata of the row differ; the bindings are in a table of their own. -/
structure ServiceKept (s s' : Service) : Prop where
  id : s'.id = s.id
  createdAt : s'.createdAt = s.createdAt
  base : s'.base = { s.base with source := s'.base.source, bindings := s'.base.bindings }

structure BindingKept (b b' : Binding) : Prop where
  id : b'.id = b.id
  base : b'.base = b.base

/-- Nothing has changed but discovery metadata and missing hostnames. -/
structure Unchanged (db t : Db) : Prop where
  hosts : Related (k := .host) HostKept db.hosts t.hosts
  interfaces : t.interfaces = db.interfaces
  ports : t.ports = db.ports
  services : Related (k := .service) ServiceKept db.services t.services
  bindings : Related (k := .binding) BindingKept db.bindings t.bindings

/-- The existing bindings stand for the new one, or one of them is in its way. -/
def AddsNothing (existing : List Binding) (new : BindingType) : Prop :=
  (∃ e ∈ existing, e.base.bindingType.covers new = true) ∨ (∃ e ∈ existing, new.clashes e.base.bindingType = true) ∨
    (∃ e ∈ existing, e.base.bindingType = new) ∧ ∀ e ∈ existing, new.covers e.base.bindingType = false

/-- The stored service that `service`, once it has an id of its own, is taken for. -/
def Db.takenFor (db : Db) (service row : Service) : Prop :=
  row.base.hostId = service.base.hostId ∧
    (row.id = service.id ∧ service.id ≠ Uuid.nil ∨ (db.loaded row).resembles service = true)

/-- Merging `service` into the stored `row` leaves it as it is. -/
structure Settles (db : Db) (service row : Service) : Prop where
  upsert : row.base.source.isFromDiscovery = true ∧ service.base.source.isFromDiscovery = true ∨
    row.id = service.id ∧ service.id ≠ Uuid.nil
  virtualization : service.base.virtualization.or row.base.virtualization = row.base.virtualization
  bindings : ∀ b ∈ service.base.bindings, AddsNothing (db.loaded row).base.bindings b.base.bindingType
  stored : ∀ b ∈ (db.loaded row).base.bindings, b.id ≠ Uuid.nil ∧ b.base.networkId = row.base.networkId

/-- The service is there already. -/
structure Db.Knows (db : Db) (service : Service) : Prop where
  found : ∃ row ∈ db.services.rows, db.takenFor service row
  settles : ∀ row ∈ db.services.rows, db.takenFor service row → Settles db service row

section unchanged

variable {db t u : Db}

theorem ServiceKept.refl (s : Service) : ServiceKept s s := ⟨rfl, rfl, rfl⟩

theorem ServiceKept.trans {a b c : Service} (h : ServiceKept a b) (h' : ServiceKept b c) : ServiceKept a c :=
  ⟨h'.id.trans h.id, h'.createdAt.trans h.createdAt, by rw [h'.base, h.base]⟩

theorem BindingKept.refl (b : Binding) : BindingKept b b := ⟨rfl, rfl⟩

theorem BindingKept.trans {a b c : Binding} (h : BindingKept a b) (h' : BindingKept b c) : BindingKept a c :=
  ⟨h'.id.trans h.id, h'.base.trans h.base⟩

theorem Unchanged.refl (db : Db) : Unchanged db db :=
  ⟨Related.refl (k := .host) HostKept.refl _, rfl, rfl, Related.refl (k := .service) ServiceKept.refl _,
    Related.refl (k := .binding) BindingKept.refl _⟩

theorem Unchanged.trans (h : Unchanged db t) (h' : Unchanged t u) : Unchanged db u :=
  ⟨h.hosts.trans (fun _ _ _ => HostKept.trans) h'.hosts, h'.interfaces.trans h.interfaces, h'.ports.trans h.ports,
    h.services.trans (fun _ _ _ => ServiceKept.trans) h'.services,
    h.bindings.trans (fun _ _ _ => BindingKept.trans) h'.bindings⟩

end unchanged

section bindings

theorem AddsNothing.of_perm {existing existing' : List Binding} {new : BindingType} (h : AddsNothing existing new)
    (hperm : existing.Perm existing') : AddsNothing existing' new := by
  have hmem (e : Binding) : e ∈ existing ↔ e ∈ existing' := hperm.mem_iff
  simpa only [AddsNothing, hmem] using h

theorem upsertBinding_eq_self {existing : List Binding} {new : Binding}
    (h : AddsNothing existing new.base.bindingType) : upsertBinding existing new = existing := by
  rw [upsertBinding_eq]
  rcases h with hcovered | ⟨e, he, hclash⟩ | ⟨hsame, hcovers⟩
  · rw [if_pos (.inl ((isBindingCoveredByExisting_iff new existing).mpr hcovered))]
  · refine if_pos (.inr (fun hnone => ?_))
    rw [(validateBindingNoConflict_eq_none_iff _ _).mp hnone e he] at hclash
    cases hclash
  · have hfilter : existing.filter (fun e => !new.base.bindingType.covers e.base.bindingType) = existing := by
      rw [List.filter_eq_self]
      intro e he
      simp [hcovers e he]
    rw [if_pos hsame, hfilter, ite_self]

theorem upsertBindings_eq_self {existing new : List Binding}
    (h : ∀ b ∈ new, AddsNothing existing b.base.bindingType) : upsertBindings existing new = existing := by
  induction new with
  | nil => rfl
  | cons b rest ih =>
    change upsertBindings (upsertBinding existing b) rest = existing
    rw [upsertBinding_eq_self (h b (by simp))]
    exact ih (fun b hb => h b (List.mem_cons_of_mem _ hb))

end bindings

section storing

variable {db t : Db} {service prepared : Service}

/-- Saving the bindings a service has leaves them as they are. -/
theorem SavedFor.kept {serviceId : Uuid} {children : List Binding} {r : Except Error (List Binding)}
    (h : SavedFor db serviceId children r t)
    (hchildren : children.Perm (db.bindings.rows.filter (fun b => b.base.serviceId = serviceId)))
    (hnil : ∀ c ∈ children, c.id ≠ Uuid.nil) : Related (k := .binding) BindingKept db.bindings t.bindings := by
  have hmem (b : Binding) : b ∈ children ↔ b ∈ db.bindings.rows ∧ b.base.serviceId = serviceId := by
    rw [hchildren.mem_iff, List.mem_filter, decide_eq_true_eq]
  rcases h with ⟨rfl, -⟩ | ⟨done, out, hinit, hsaving, -⟩
  · exact Related.refl (k := .binding) BindingKept.refl _
  have hdistinct : done.Pairwise (fun a b => a.id ≠ b.id) := by
    refine List.Pairwise.sublist hinit.sublist ?_
    rw [hchildren.pairwise_iff (fun h => h.symm)]
    exact (db.bindings.pairwise.imp (fun h => h.1)).filter _
  constructor
  · intro x hx
    by_cases hservice : x.base.serviceId = serviceId
    · have hchild := (hmem x).mpr ⟨hx, hservice⟩
      by_cases hdone : x.id ∈ done.map Entity.id
      · obtain ⟨c, hc, hid⟩ := List.mem_map.mp hdone
        obtain rfl : c = x := eq_of_id_eq (t := db.bindings) ((hmem c).mp (hinit.subset hc)).1 hx hid
        obtain ⟨o, ho, hsaved⟩ := hsaving.saved_of_mem hc
        refine ⟨o, hsaving.present (fun e _ _ => ?_) o ho, hsaved.id (hnil c hchild), hsaved.base⟩
        exact hdistinct.imp (fun hne _ ha hb => hne (ha.trans hb.symm))
      · have hpending := hsaving.pending x hx hservice (hnil x hchild) (List.mem_map_of_mem hchild) hdone
        exact ⟨x, hpending.1, .refl x⟩
    · exact ⟨x, (hsaving.others x hservice).mpr hx, .refl x⟩
  · intro y hy
    by_cases hservice : y.base.serviceId = serviceId
    · rcases hsaving.own y hy hservice with hout | ⟨hold, -⟩
      · obtain ⟨c, hc, hsaved⟩ := hsaving.child hout
        have hchild := hinit.subset hc
        exact ⟨c, ((hmem c).mp hchild).1, hsaved.id (hnil c hchild), hsaved.base⟩
      · exact ⟨y, hold, .refl y⟩
    · exact ⟨y, (hsaving.others y hservice).mp hy, .refl y⟩

theorem Prepared.eq_iff (hprepared : Prepared service prepared)
    (hnew : service.id = Uuid.nil → ∀ s ∈ db.services.rows, s.id ≠ prepared.id) {row existing : Service}
    (hrow : row ∈ db.services.rows) (hhost : row.base.hostId = service.base.hostId)
    (hloaded : LoadedFrom db row existing) : Service.eq existing prepared = true ↔ db.takenFor service row := by
  rw [hloaded.eq_congr (loadedFrom_loaded db row)]
  have hid (hid : row.id = prepared.id) : row.id = service.id ∧ service.id ≠ Uuid.nil := by
    by_cases hnil : service.id = Uuid.nil
    · exact absurd hid (hnew hnil row hrow)
    · rw [hprepared.eq hnil] at hid
      exact ⟨hid, hnil⟩
  unfold Service.eq
  rw [hprepared.resembles]
  change (if row.id = prepared.id then true else (db.loaded row).resembles service) = true ↔ _
  constructor
  · intro heq
    by_cases hids : row.id = prepared.id
    · exact ⟨hhost, .inl (hid hids)⟩
    · refine ⟨hhost, .inr ?_⟩
      rwa [if_neg hids] at heq
  · rintro ⟨-, ⟨hids, hnil⟩ | hresembles⟩
    · rw [if_pos]
      rw [hprepared.eq hnil]
      exact hids
    · rw [hresembles, ite_self]

theorem Stored.unchanged {r : Except Error Service} (h : Stored db prepared r t)
    (hprepared : Prepared service prepared)
    (hnew : service.id = Uuid.nil → ∀ s ∈ db.services.rows, s.id ≠ prepared.id) (hknows : db.Knows service) :
    Unchanged db t := by
  have hhost : prepared.base.hostId = service.base.hostId := by rw [hprepared.base]
  have hbindings : prepared.base.bindings = deduplicateBindings service.base.bindings := by rw [hprepared.base]
  have hmatches {existing : Service} (h : Matches db prepared existing) : ∃ row ∈ db.services.rows,
      LoadedFrom db row existing ∧ Settles db service row := by
    obtain ⟨row, hrow, hrowHost, hloaded⟩ := h.row
    have htaken := (hprepared.eq_iff hnew hrow (hrowHost.trans hhost) hloaded).mp h.eq
    exact ⟨row, hrow, hloaded, hknows.settles row hrow htaken⟩
  cases h with
  | refused e => exact .refl db
  | @merged existing hmerges now hapart r t hsaved =>
    obtain ⟨row, hrow, hloaded, hsettles⟩ := hmatches hmerges.toMatches
    have hupserted : upsertBindings existing.base.bindings prepared.base.bindings = existing.base.bindings := by
      refine upsertBindings_eq_self (fun b hb => ?_)
      rw [hbindings] at hb
      exact (hsettles.bindings b (mem_of_mem_deduplicateBindings hb)).of_perm hloaded.bindings.symm
    have hchildren : (upsertedService existing prepared).children = existing.base.bindings := by
      change (upsertBindings existing.base.bindings prepared.base.bindings).map _ = _
      rw [hupserted]
      refine (List.map_congr_left (fun b hb => ?_)).trans (List.map_id _)
      obtain ⟨-, hservice⟩ := (hloaded.mem_bindings b).mp hb
      obtain ⟨-, hnetwork⟩ := hsettles.stored b (hloaded.bindings.mem_iff.mp hb)
      have hown : existing.base.networkId = b.base.networkId := by
        rw [hnetwork, hloaded.eq]
        rfl
      change Binding.withService b existing.id existing.base.networkId = b
      rw [hown, ← hservice]
      rfl
    have hkept : ServiceKept row (Service.row { upsertedService existing prepared with updatedAt := now }) := by
      obtain ⟨bindings, rfl⟩ : ∃ bindings, existing = ServiceService.withBindings bindings row := ⟨_, hloaded.eq⟩
      have hvirtualization : prepared.base.virtualization.or row.base.virtualization = row.base.virtualization := by
        rw [hprepared.base]
        exact hsettles.virtualization
      refine ⟨rfl, rfl, ?_⟩
      simp only [Service.row, upsertedService, ServiceService.withBindings, hvirtualization]
    have hservices : t.services = updated db.services { upsertedService existing prepared with updatedAt := now } hapart :=
      hsaved.target.1 .service (by simp)
    have hhosts : t.hosts = db.hosts := hsaved.target.1 .host (by simp)
    refine ⟨?_, hsaved.target.1 .interface (by simp), hsaved.target.1 .port (by simp), ?_, ?_⟩
    · rw [hhosts]
      exact Related.refl (k := .host) HostKept.refl _
    · rw [hservices]
      refine related_updated (k := .service) ServiceKept.refl hrow ?_ hkept hapart
      exact hloaded.id_eq
    · rw [hchildren] at hsaved
      refine hsaved.kept ?_ (fun c hc => ?_)
      · rw [hloaded.id_eq]
        exact hloaded.bindings
      · exact (hsettles.stored c (hloaded.bindings.mem_iff.mp hc)).1
  | inserted position hunmatched hvalid hapart hsaved =>
    exfalso
    rcases hunmatched with hnone | ⟨existing, hmatch, hupsert⟩
    · obtain ⟨row, hrow, htaken⟩ := hknows.found
      have heq := (hprepared.eq_iff hnew hrow htaken.1 (loadedFrom_loaded db row)).mpr htaken
      rw [hnone row hrow (htaken.1.trans hhost.symm) _ (loadedFrom_loaded db row)] at heq
      cases heq
    · obtain ⟨row, hrow, hloaded, hsettles⟩ := hmatches hmatch
      have hsource : existing.base.source = row.base.source := by
        rw [hloaded.eq]
        rfl
      rcases hsettles.upsert with ⟨hold, hincoming⟩ | ⟨hid, hnil⟩
      · simp [ServiceService.isUpsert, hsource, hold, hprepared.base, hincoming] at hupsert
      · have hids : prepared.id = existing.id := by
          rw [hprepared.eq hnil, hloaded.id_eq, hid]
          rfl
        simp [ServiceService.isUpsert, hids] at hupsert

end storing

section call

variable {may : Db → (o : DbOp) → o.Reply → Prop} {db s : Db} {host : Host} {interfaces : List Interface}
  {ports : List Port}

theorem HostPlaced.unchanged {aligned created : Host} {t : Db} (h : HostPlaced db aligned created t)
    (hhouses : db.houses aligned.id host.base.networkId) (hnamed : ∀ h ∈ db.hosts.rows, h.id ≠ Uuid.nil) :
    Unchanged db t := by
  obtain ⟨stored, hstored, hid, -⟩ := hhouses
  have hcreated : created.id = aligned.id := h.id (hid ▸ hnamed stored hstored)
  have hservices : t.services = db.services := h.frame .service (by simp)
  have hbindings : t.bindings = db.bindings := h.frame .binding (by simp)
  rcases h.known with ⟨-, hhosts⟩ | hnone
  · refine ⟨hhosts, h.frame .interface (by simp), h.frame .port (by simp), ?_, ?_⟩
    · rw [hservices]
      exact Related.refl (k := .service) ServiceKept.refl _
    · rw [hbindings]
      exact Related.refl (k := .binding) BindingKept.refl _
  · exact absurd (hid.trans hcreated.symm) (hnone stored hstored)

/-- The ids of the stored services stay. -/
theorem Unchanged.lacks {id : Uuid} (h : Unchanged db s) (hid : ∀ r ∈ db.services.rows, r.id ≠ id) :
    ∀ r ∈ s.services.rows, r.id ≠ id := by
  intro r hr
  obtain ⟨x, hx, hkept⟩ := h.services.2 r hr
  rw [hkept.id]
  exact hid x hx

end call

/-- A scan of host 1 that finds its two interfaces and a service on both, all under the given ids. -/
def scan (i j port service : Uuid) : Query HostResponse :=
  HostService.discoverHost reportedHost
    [⟨i, 0, 0, ⟨9, 0, 7, .v4 20, none, none, 0⟩⟩, ⟨j, 0, 0, ⟨9, 0, 7, .v4 30, none, none, 0⟩⟩]
    [⟨port, 0, 0, ⟨0, 9, ⟨443, .tcp⟩⟩⟩] [reported service "Grafana" [.interface i, .port port (some j)]]

end VantageNet.Inventory
