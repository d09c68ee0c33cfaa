import VantageNet.Inventory.Covering
import VantageNet.Inventory.Updating

/-!
The services that a scan of a host reports, created one after the other in any order.
-/

namespace VantageNet.Inventory

open Interaction Interaction.Program

/-- A list of services as a scan of a host reports it: each service and each binding has an id of its own. -/
structure ReportedFor (hostId : Uuid) (services : List Service) : Prop where
  host : ∀ x ∈ services, x.base.hostId = hostId
  discovered : ∀ x ∈ services, x.base.source.isFromDiscovery = true
  definitions : ∀ x ∈ services, ∀ y ∈ services, x.base.serviceDefinition.id = y.base.serviceDefinition.id →
    x.base.serviceDefinition = y.base.serviceDefinition
  named : ∀ x ∈ services, x.id ≠ Uuid.nil ∧ ∀ b ∈ x.base.bindings, b.id ≠ Uuid.nil
  ids : (services.map Entity.id).Nodup
  bindingIds : ((services.flatMap (fun x => x.base.bindings)).map Entity.id).Nodup

/-- `Service::eq` is transitive on the services, also when one has the bindings of another it is equal to, and what is equal
can stand in one service. -/
structure Consistent (services : List Service) : Prop where
  transitive : ∀ x ∈ services, ∀ y ∈ services, ∀ z ∈ services, Service.eq x y = true → Service.eq y z = true →
    Service.eq x z = true
  absorbs : ∀ x ∈ services, ∀ y ∈ services, ∀ z ∈ services, Service.eq x y = true →
    Service.eq (ServiceService.withBindings x.base.bindings y) z = true → Service.eq x z = true
  agree : ∀ x ∈ services, ∀ y ∈ services, Service.eq x y = true → ∀ a ∈ x.base.bindings, ∀ b ∈ y.base.bindings,
    a.base.bindingType.clashes b.base.bindingType = false

/-- How the bindings of a host are distributed over its stored services. -/
def Db.partition (db : Db) (hostId : Uuid) : Multiset (Finset BindingType) :=
  ((db.services.rows.filter (fun row => row.base.hostId = hostId)).map
    (fun row => ((db.loaded row).base.bindings.map (fun b => b.base.bindingType)).toFinset) : List (Finset BindingType))

def Binding.entry (b : Binding) : Uuid × BindingType := (b.id, b.base.bindingType)

/-- What `Service::eq` looks at beside the ids and the ports. -/
structure Alike (a b : Service) : Prop where
  hostId : a.base.hostId = b.base.hostId
  networkId : a.base.networkId = b.base.networkId
  serviceDefinition : a.base.serviceDefinition = b.base.serviceDefinition
  virtualization : a.base.virtualization = b.base.virtualization

/-- The stored row of the services `members`, which have been merged, with the bindings it has. -/
structure StandsFor (row : Service) (bindings : List Binding) (members : List Service) : Prop where
  alike : ∃ z ∈ members, Alike row z
  discovered : row.base.source.isFromDiscovery = true
  canonical : Canonical bindings
  represented : ∀ y ∈ members, ∀ b ∈ y.base.bindings, Represented bindings b.base.bindingType
  reported : ∀ b ∈ bindings, ∃ y ∈ members, ∃ c ∈ y.base.bindings,
    c.id = b.id ∧ c.base.bindingType = b.base.bindingType

section equality

variable {a b m z x : Service}

theorem sharesPorts_comm (a b : Service) : a.sharesPorts b = b.sharesPorts a := by
  rw [Bool.eq_iff_iff]
  simp only [Service.sharesPorts, List.any_eq_true, List.contains_iff_mem]
  exact exists_congr (fun _ => and_comm)

theorem eqGeneric_comm (a b : Service) : a.eqGeneric b = b.eqGeneric a := by
  unfold Service.eqGeneric
  rw [sharesPorts_comm a b]
  rcases a.base.virtualization with _ | ⟨_ | n, _ | c, s⟩ <;>
    rcases b.base.virtualization with _ | ⟨_ | n', _ | c', s'⟩ <;> simp [eq_comm]

theorem resembles_comm (h : a.base.serviceDefinition.id = b.base.serviceDefinition.id →
    a.base.serviceDefinition = b.base.serviceDefinition) : a.resembles b = b.resembles a := by
  unfold Service.resembles
  rw [eqGeneric_comm a b]
  by_cases hdefinition : a.base.serviceDefinition.id = b.base.serviceDefinition.id
  · simp only [h hdefinition, ne_comm (a := a.base.hostId), ne_comm (a := a.base.networkId)]
  · simp [hdefinition, Ne.symm hdefinition]

theorem eq_comm_of (h : a.base.serviceDefinition.id = b.base.serviceDefinition.id →
    a.base.serviceDefinition = b.base.serviceDefinition) : Service.eq a b = Service.eq b a := by
  unfold Service.eq
  rw [resembles_comm h]
  simp only [eq_comm]

/-- Two services that `Service::eq` takes to be the same agree in what it looks at first. -/
theorem agree_of_resembles (h : a.resembles b = true) :
    a.base.hostId = b.base.hostId ∧ a.base.networkId = b.base.networkId ∧ a.base.serviceDefinition.id = b.base.serviceDefinition.id := by
  unfold Service.resembles at h
  split_ifs at h with hplace hdefinition <;> simp_all

theorem eqGeneric_cases (v : Option DockerVirtualization) (x : Service) :
    (∃ verdict, ∀ m : Service, m.base.virtualization = v → m.eqGeneric x = verdict) ∨
      ∀ m : Service, m.base.virtualization = v → m.eqGeneric x = m.sharesPorts x := by
  rcases v with _ | ⟨_ | n, _ | c, s⟩ <;> rcases hother : x.base.virtualization with _ | ⟨_ | n', _ | c', s'⟩
  all_goals first
    | (right; intro m hm; simp only [Service.eqGeneric, hm, hother]; done)
    | (left; exact ⟨_, fun m hm => by simp only [Service.eqGeneric, hm, hother]; rfl⟩)

/-- Which services equal `x` is for the ports to decide, or they have no say. -/
theorem resembles_cases (z x : Service) : (∃ verdict, ∀ m, Alike m z → m.resembles x = verdict) ∨
    ∀ m, Alike m z → m.resembles x = m.sharesPorts x := by
  have hverdict (m : Service) (hm : Alike m z) : m.resembles x =
      if z.base.hostId ≠ x.base.hostId || z.base.networkId ≠ x.base.networkId then false
      else if z.base.serviceDefinition.id ≠ x.base.serviceDefinition.id then false
      else if !z.base.serviceDefinition.isGeneric then true
      else if z.base.serviceDefinition.isGateway || z.base.serviceDefinition.isOpenPorts then true
      else m.eqGeneric x := by
    simp only [Service.resembles, hm.hostId, hm.networkId, hm.serviceDefinition]
  split_ifs at hverdict
  · exact .inl ⟨_, hverdict⟩
  · exact .inl ⟨_, hverdict⟩
  · exact .inl ⟨_, hverdict⟩
  · exact .inl ⟨_, hverdict⟩
  · rcases eqGeneric_cases z.base.virtualization x with ⟨verdict, h⟩ | h
    · exact .inl ⟨verdict, fun m hm => (hverdict m hm).trans (h m hm.virtualization)⟩
    · exact .inr (fun m hm => (hverdict m hm).trans (h m hm.virtualization))

/-- What `Service::eq` says of a service with the ports of several comes from one of them. -/
theorem resembles_merged {members : List Service} (hm : Alike m z) (hz : z ∈ members)
    (hports : ∀ p, p ∈ m.portIds ↔ ∃ y ∈ members, p ∈ y.portIds) :
    m.resembles x = true ↔ ∃ y ∈ members, (ServiceService.withBindings y.base.bindings z).resembles x = true := by
  have halike (y : Service) : Alike (ServiceService.withBindings y.base.bindings z) z := ⟨rfl, rfl, rfl, rfl⟩
  rcases resembles_cases z x with ⟨verdict, h⟩ | h
  · simp only [h m hm, h _ (halike _)]
    exact ⟨fun heq => ⟨z, hz, heq⟩, fun ⟨_, _, heq⟩ => heq⟩
  · simp only [h m hm, h _ (halike _), Service.sharesPorts, List.any_eq_true, hports]
    constructor
    · rintro ⟨p, ⟨y, hy, hp⟩, hx⟩
      exact ⟨y, hy, p, hp, hx⟩
    · rintro ⟨y, hy, p, hp, hx⟩
      exact ⟨p, ⟨y, hy, hp⟩, hx⟩

theorem mem_portIds {p : Uuid} : p ∈ a.portIds ↔ ∃ b ∈ a.base.bindings, b.base.bindingType.portId = some p :=
  List.mem_filterMap

theorem StandsFor.portIds {row : Service} {bindings : List Binding} {members : List Service}
    (h : StandsFor row bindings members) (p : Uuid) : p ∈ (ServiceService.withBindings bindings row).portIds ↔ ∃ y ∈ members, p ∈ y.portIds := by
  simp only [mem_portIds]
  constructor
  · rintro ⟨b, hb, hp⟩
    obtain ⟨y, hy, c, hc, -, htype⟩ := h.reported b hb
    exact ⟨y, hy, c, hc, by rw [htype]; exact hp⟩
  · rintro ⟨y, hy, c, hc, hp⟩
    obtain ⟨b, hb, heq | hcovers⟩ := h.represented y hy c hc
    · exact ⟨b, hb, by rw [heq]; exact hp⟩
    · exact ⟨b, hb, by rw [portId_of_covers hcovers]; exact hp⟩

end equality

section classes

variable {hostId : Uuid} {services done : List Service} {row x y : Service} {bindings : List Binding}

theorem service_eq_of_ne {a b : Service} (h : a.id ≠ b.id) : Service.eq a b = a.resembles b := if_neg h

theorem ReportedFor.eq_symm (h : ReportedFor hostId services) (hx : x ∈ services) (hy : y ∈ services)
    (heq : Service.eq x y = true) : Service.eq y x = true := by
  rwa [← eq_comm_of (h.definitions x hx y hy)]

theorem ReportedFor.eq_of_id_eq (h : ReportedFor hostId services) (hx : x ∈ services) (hy : y ∈ services)
    (hid : x.id = y.id) : x = y := List.inj_on_of_nodup_map h.ids hx hy hid

/-- A stored service is taken for the same as one that is still to come just when the service it was first stored for is. -/
theorem StandsFor.eq_iff (h : StandsFor row bindings (done.filter (fun d => Service.eq y d)))
    (hreported : ReportedFor hostId services) (hconsistent : Consistent services) (hdone : ∀ d ∈ done, d ∈ services)
    (hy : y ∈ done) (hid : y.id = row.id) (hx : x ∈ services) (hnew : ∀ d ∈ done, d.id ≠ x.id) :
    Service.eq (ServiceService.withBindings bindings row) x = true ↔ Service.eq y x = true := by
  have hmember {d : Service} (hd : d ∈ done.filter (fun d => Service.eq y d)) :
      d ∈ services ∧ d.id ≠ x.id ∧ Service.eq y d = true := by
    obtain ⟨hd, heq⟩ := List.mem_filter.mp hd
    exact ⟨hdone d hd, hnew d hd, heq⟩
  have hys := hdone y hy
  obtain ⟨z, hz, halike⟩ := h.alike
  obtain ⟨hzs, hzx, hyz⟩ := hmember hz
  have hrowx : (ServiceService.withBindings bindings row).id ≠ x.id := by
    change row.id ≠ x.id
    rw [← hid]
    exact hnew y hy
  have hmerged := resembles_merged (m := ServiceService.withBindings bindings row) (x := x)
    ⟨halike.hostId, halike.networkId, halike.serviceDefinition, halike.virtualization⟩ hz h.portIds
  rw [service_eq_of_ne hrowx, hmerged]
  constructor
  · rintro ⟨w, hw, heq⟩
    obtain ⟨hws, -, hyw⟩ := hmember hw
    have hwz : Service.eq w z = true :=
      hconsistent.transitive w hws y hys z hzs (hreported.eq_symm hys hws hyw) hyz
    rw [← service_eq_of_ne (a := ServiceService.withBindings w.base.bindings z) hzx] at heq
    exact hconsistent.transitive y hys w hws x hx hyw (hconsistent.absorbs w hws z hzs x hx hwz heq)
  · intro heq
    have hzeq : Service.eq z x = true :=
      hconsistent.transitive z hzs y hys x hx (hreported.eq_symm hys hzs hyz) heq
    rw [service_eq_of_ne hzx] at hzeq
    exact ⟨z, hz, hzeq⟩

end classes

section saving

variable {db t : Db} {row : Service} {bindings bindings' : List Binding} {members : List Service}

theorem rows_nodup {k : Kind} (t : Rows k) : t.rows.Nodup :=
  t.pairwise.imp (fun hapart heq => hapart.1 (congrArg Entity.id heq))

theorem mem_entries {as bs : List Binding} (h : (as.map Binding.entry).Perm (bs.map Binding.entry)) {a : Binding}
    (ha : a ∈ as) : ∃ b ∈ bs, b.id = a.id ∧ b.base.bindingType = a.base.bindingType := by
  obtain ⟨b, hb, heq⟩ := List.mem_map.mp (h.mem_iff.mp (List.mem_map_of_mem ha))
  exact ⟨b, hb, congrArg Prod.fst heq, congrArg Prod.snd heq⟩

theorem StandsFor.perm (h : StandsFor row bindings members)
    (hperm : (bindings.map Binding.entry).Perm (bindings'.map Binding.entry)) : StandsFor row bindings' members := by
  refine ⟨h.alike, h.discovered, ?_, fun y hy b hb => ?_, fun b hb => ?_⟩
  · have hentries : (bindings.map Binding.entry).Pairwise (fun a b => Compatible a.2 b.2) := List.pairwise_map.mpr h.canonical
    have hentries' := List.pairwise_map.mp ((hperm.pairwise_iff (fun h => h.symm)).mp hentries)
    exact hentries'
  · obtain ⟨e, he, hrepresents⟩ := h.represented y hy b hb
    obtain ⟨e', he', -, htype⟩ := mem_entries hperm he
    exact ⟨e', he', by rwa [htype]⟩
  · obtain ⟨e, he, hid, htype⟩ := mem_entries hperm.symm hb
    obtain ⟨y, hy, c, hc, hcid, hctype⟩ := h.reported e he
    exact ⟨y, hy, c, hc, hcid.trans hid, hctype.trans htype⟩

theorem entries_of_savedAs {children saved : List Binding} (h : List.Forall₂ SavedAs children saved)
    (hnamed : ∀ c ∈ children, c.id ≠ Uuid.nil) : saved.map Binding.entry = children.map Binding.entry := by
  induction h with
  | nil => rfl
  | @cons c b children saved hsaved _ ih =>
    rw [List.map_cons, List.map_cons, ih (fun c hc => hnamed c (List.mem_cons_of_mem _ hc)), Binding.entry, hsaved.base,
      hsaved.id (hnamed c List.mem_cons_self)]
    rfl

/-- What has been saved for a service is all that is stored for it then. -/
theorem SavedFor.entries_perm {serviceId : Uuid} {children saved : List Binding}
    (h : SavedFor db serviceId children (.ok saved) t) (hids : (children.map Entity.id).Nodup)
    (hnamed : ∀ c ∈ children, c.id ≠ Uuid.nil) (hservice : ∀ c ∈ children, c.base.serviceId = serviceId) :
    (children.map Binding.entry).Perm ((t.bindings.rows.filter (fun b => b.base.serviceId = serviceId)).map Binding.entry) := by
  rcases h with ⟨-, e, he⟩ | ⟨done, out, -, hsaving, hok⟩
  · cases he
  obtain ⟨rfl, rfl⟩ := hok saved rfl
  have hentries := entries_of_savedAs hsaving.saved hnamed
  have hsavedIds : (saved.map Entity.id).Nodup := by
    have hfirst (l : List Binding) : l.map Entity.id = (l.map Binding.entry).map Prod.fst := by
      rw [List.map_map]
      rfl
    rwa [hfirst, hentries, ← hfirst]
  rw [← hentries]
  refine List.Perm.map _ ((List.perm_ext_iff_of_nodup hsavedIds.of_map ((rows_nodup t.bindings).filter _)).mpr (fun b => ?_))
  rw [List.mem_filter, decide_eq_true_eq]
  constructor
  · intro hb
    obtain ⟨c, hc, hsaved⟩ := hsaving.child hb
    refine ⟨hsaving.present (fun e _ _ => ?_) b hb, by rw [hsaved.base, hservice c hc]⟩
    exact (List.pairwise_map.mp hids).imp (fun hne _ ha hb => hne (ha.trans hb.symm))
  · rintro ⟨hb, hown⟩
    rcases hsaving.own b hb hown with hb | ⟨-, -, hin, hnot⟩
    · exact hb
    · exact absurd hin hnot

end saving

section merging

variable {hostId : Uuid} {services members : List Service} {row x y z : Service} {bindings : List Binding}

theorem StandsFor.start (hreported : ReportedFor hostId services) (hx : x ∈ services) (position : ℤ)
    (hvalid : validateBindingsNoConflicts (deduplicateBindings x.base.bindings) = .ok ()) :
    StandsFor (Service.row { x with base := { x.base with bindings := deduplicateBindings x.base.bindings, position } })
      (deduplicateBindings x.base.bindings) [x] := by
  refine ⟨⟨x, List.mem_singleton_self x, rfl, rfl, rfl, rfl⟩, hreported.discovered x hx,
    canonical_deduplicateBindings hvalid, fun y hy b hb => ?_, fun b hb => ?_⟩
  · obtain rfl := List.mem_singleton.mp hy
    exact deduplicateBindings_represents hb
  · exact ⟨x, List.mem_singleton_self x, b, mem_of_mem_deduplicateBindings hb, rfl, rfl⟩

theorem upsertSource_isFromDiscovery {existing new : EntitySource} (hexisting : existing.isFromDiscovery = true)
    (hnew : new.isFromDiscovery = true) : (upsertSource existing new).isFromDiscovery = true := by
  cases existing <;> cases new <;> simp_all [upsertSource, EntitySource.isFromDiscovery]
  split_ifs <;> rfl

/-- One more service is merged into a stored one. -/
theorem StandsFor.merge (h : StandsFor row bindings members) (hreported : ReportedFor hostId services)
    (hconsistent : Consistent services) (hmembers : ∀ y ∈ members, y ∈ services ∧ Service.eq y x = true ∧ y.id ≠ x.id)
    (hx : x ∈ services) (now : Instant) :
    StandsFor (Service.row { upsertedService (ServiceService.withBindings bindings row)
      (ServiceService.withBindings (deduplicateBindings x.base.bindings) x) with updatedAt := now })
      (upsertBindings bindings (deduplicateBindings x.base.bindings)) (members ++ [x]) := by
  refine ⟨?_, upsertSource_isFromDiscovery h.discovered (hreported.discovered x hx), h.canonical.upsertBindings _,
    fun y hy b hb => ?_, fun b hb => ?_⟩
  · obtain ⟨z, hz, halike⟩ := h.alike
    obtain ⟨hzs, hzx, hne⟩ := hmembers z hz
    cases hown : x.base.virtualization with
    | none =>
      refine ⟨z, List.mem_append_left _ hz, halike.hostId, halike.networkId, halike.serviceDefinition, ?_⟩
      change x.base.virtualization.or row.base.virtualization = _
      rw [hown]
      exact halike.virtualization
    | some v =>
      rw [service_eq_of_ne hne] at hzx
      obtain ⟨hhost, hnet, hid⟩ := agree_of_resembles hzx
      refine ⟨x, List.mem_append_right _ (List.mem_singleton_self x), halike.hostId.trans hhost, halike.networkId.trans hnet,
        halike.serviceDefinition.trans (hreported.definitions z hzs x hx hid), ?_⟩
      change x.base.virtualization.or row.base.virtualization = _
      rw [hown]
      rfl
  · rcases List.mem_append.mp hy with hy | hy
    · exact (h.represented y hy b hb).upsertBindings _
    · obtain rfl := List.mem_singleton.mp hy
      refine (deduplicateBindings_represents hb).of_mem (fun d hd => represented_upsertBindings hd (fun e he => ?_))
      have hdy := mem_of_mem_deduplicateBindings hd
      rcases List.mem_append.mp he with he | he
      · obtain ⟨w, hw, c, hc, -, htype⟩ := h.reported e he
        obtain ⟨hws, hwy, -⟩ := hmembers w hw
        rw [clashes_comm, ← htype]
        exact hconsistent.agree w hws y hx hwy c hc d hdy
      · exact hconsistent.agree y hx y hx (if_pos rfl) d hdy e (mem_of_mem_deduplicateBindings he)
  · rcases mem_upsertBindings hb with hb | hb
    · obtain ⟨y, hy, c, hc, hentry⟩ := h.reported b hb
      exact ⟨y, List.mem_append_left _ hy, c, hc, hentry⟩
    · exact ⟨x, List.mem_append_right _ (List.mem_singleton_self x), b, mem_of_mem_deduplicateBindings hb, rfl, rfl⟩

/-- Which bindings a stored service has is settled by the services it stands for. -/
theorem StandsFor.types_iff (h : StandsFor row bindings members) (a : BindingType) :
    (∃ b ∈ bindings, b.base.bindingType = a) ↔ (∃ y ∈ members, ∃ c ∈ y.base.bindings, c.base.bindingType = a) ∧
      ∀ y ∈ members, ∀ c ∈ y.base.bindings, c.base.bindingType.covers a = false := by
  constructor
  · rintro ⟨b, hb, rfl⟩
    obtain ⟨y, hy, c, hc, -, htype⟩ := h.reported b hb
    refine ⟨⟨y, hy, c, hc, htype⟩, fun w hw d hd => Bool.eq_false_iff.mpr (fun hcovers => ?_)⟩
    obtain ⟨e, he, heq | hcovered⟩ := h.represented w hw d hd
    · have hnot := h.canonical.not_covers he hb
      rw [heq, hcovers] at hnot
      cases hnot
    · rw [not_covers_covers hcovered] at hcovers
      cases hcovers
  · rintro ⟨⟨y, hy, c, hc, rfl⟩, hfree⟩
    obtain ⟨b, hb, heq | hcovers⟩ := h.represented y hy c hc
    · exact ⟨b, hb, heq⟩
    · obtain ⟨w, hw, d, hd, -, htype⟩ := h.reported b hb
      have hnot := hfree w hw d hd
      rw [htype, hcovers] at hnot
      cases hnot

end merging

/-- A service of the host is stored under the id of `y`. -/
def Db.leads (db : Db) (hostId : Uuid) (y : Service) : Prop :=
  ∃ row ∈ db.services.rows, row.base.hostId = hostId ∧ row.id = y.id

/-- What is stored of the host when the services `done` have been created: one service for each class of equal ones, under
the id of one of the class. -/
structure Arranged (db : Db) (hostId : Uuid) (done : List Service) : Prop where
  rows : ∀ row ∈ db.services.rows, row.base.hostId = hostId → ∃ y ∈ done, y.id = row.id ∧
    StandsFor row (db.loaded row).base.bindings (done.filter (fun d => Service.eq y d))
  found : ∀ d ∈ done, ∃ y ∈ done, db.leads hostId y ∧ Service.eq y d = true
  single : ∀ y ∈ done, ∀ y' ∈ done, db.leads hostId y → db.leads hostId y' → Service.eq y y' = true → y = y'

section creating

variable {db t : Db} {hostId : Uuid} {services done : List Service} {x y row : Service}

theorem loaded_perm {row : Service}
    (h : ∀ b : Binding, b.base.serviceId = row.id → (b ∈ t.bindings.rows ↔ b ∈ db.bindings.rows)) :
    (db.loaded row).base.bindings.Perm (t.loaded row).base.bindings := by
  refine (List.perm_ext_iff_of_nodup ((rows_nodup db.bindings).filter _) ((rows_nodup t.bindings).filter _)).mpr (fun b => ?_)
  simp only [List.mem_filter, decide_eq_true_eq]
  exact and_congr_left (fun hb => (h b hb).symm)

/-- One row is written for `x` and what it equals, and nothing else of the host is. -/
theorem Arranged.extend (h : Arranged db hostId done) (hreported : ReportedFor hostId services)
    (hconsistent : Consistent services) (hdone : ∀ d ∈ done ++ [x], d ∈ services) (hnew : ∀ d ∈ done, d.id ≠ x.id) {new : Service}
    (hservices : ∀ s, s ∈ t.services.rows ↔ s = new ∨ s ∈ db.services.rows ∧ s.id ≠ new.id)
    (hothers : ∀ b : Binding, b.base.serviceId ≠ new.id → (b ∈ t.bindings.rows ↔ b ∈ db.bindings.rows))
    (hhost : new.base.hostId = hostId) (hy : y ∈ done ++ [x]) (hid : y.id = new.id) (heq : Service.eq y x = true)
    (hstands : StandsFor new (t.loaded new).base.bindings ((done ++ [x]).filter (fun d => Service.eq y d)))
    (hother : ∀ y' ∈ done, db.leads hostId y' → y'.id ≠ new.id → Service.eq y' x = false) :
    Arranged t hostId (done ++ [x]) := by
  have hxs : x ∈ services := hdone x (by simp)
  have hys := hdone y hy
  have hold {d : Service} (hd : d ∈ done) : d ∈ services := hdone d (List.mem_append_left _ hd)
  have hleads : t.leads hostId y := ⟨new, (hservices new).mpr (.inl rfl), hhost, hid.symm⟩
  -- a service that is led to in the new state is `y` or was led to before
  have hled {d : Service} (hd : d ∈ done ++ [x]) (hd' : t.leads hostId d) :
      d = y ∨ d ∈ done ∧ db.leads hostId d ∧ d.id ≠ new.id := by
    obtain ⟨row, hrow, hrowHost, hrowId⟩ := hd'
    rcases (hservices row).mp hrow with rfl | ⟨hrow, hne⟩
    · exact .inl (hreported.eq_of_id_eq (hdone d hd) hys (hrowId.symm.trans hid.symm))
    · refine .inr ⟨?_, ⟨row, hrow, hrowHost, hrowId⟩, hrowId ▸ hne⟩
      obtain ⟨y', hy', hid', -⟩ := h.rows row hrow hrowHost
      rwa [hreported.eq_of_id_eq (hdone d hd) (hold hy') (hrowId.symm.trans hid'.symm)]
  have hapart {d : Service} (hd : d ∈ done) (hleads : db.leads hostId d) (hne : d.id ≠ new.id) : Service.eq y d ≠ true := by
    intro hyd
    have hdx := hconsistent.transitive d (hold hd) y hys x hxs (hreported.eq_symm hys (hold hd) hyd) heq
    rw [hother d hd hleads hne] at hdx
    cases hdx
  constructor
  · intro row hrow hrowHost
    rcases (hservices row).mp hrow with rfl | ⟨hrow, hne⟩
    · exact ⟨y, hy, hid, hstands⟩
    · obtain ⟨y', hy', hid', hstands'⟩ := h.rows row hrow hrowHost
      refine ⟨y', List.mem_append_left _ hy', hid', ?_⟩
      have hnot := hother y' hy' ⟨row, hrow, hrowHost, hid'.symm⟩ (hid' ▸ hne)
      rw [List.filter_append, List.filter_singleton, hnot]
      simpa using hstands'.perm ((loaded_perm (fun b hb => hothers b (hb.symm ▸ hne))).map _)
  · intro d hd
    rcases List.mem_append.mp hd with hd | hd
    · obtain ⟨y', hy', ⟨row, hrow, hrowHost, hid'⟩, heq'⟩ := h.found d hd
      by_cases hsame : row.id = new.id
      · obtain rfl := hreported.eq_of_id_eq (hold hy') hys (hid'.symm.trans (hsame.trans hid.symm))
        exact ⟨y', hy, hleads, heq'⟩
      · exact ⟨y', List.mem_append_left _ hy', ⟨row, (hservices row).mpr (.inr ⟨hrow, hsame⟩), hrowHost, hid'⟩, heq'⟩
    · obtain rfl := List.mem_singleton.mp hd
      exact ⟨y, hy, hleads, heq⟩
  · intro a ha b hb ha' hb' hab
    rcases hled ha ha' with rfl | ⟨ha, haLeads, hane⟩ <;> rcases hled hb hb' with rfl | ⟨hb, hbLeads, hbne⟩
    · rfl
    · exact absurd hab (hapart hb hbLeads hbne)
    · exact absurd (hreported.eq_symm (hold ha) hys hab) (hapart ha haLeads hane)
    · exact h.single a ha b hb haLeads hbLeads hab

theorem ReportedFor.nodup_deduplicated (hreported : ReportedFor hostId services) (hx : x ∈ services) :
    ((deduplicateBindings x.base.bindings).map Entity.id).Nodup := by
  obtain ⟨hwithin, -⟩ := List.pairwise_flatMap.mp (List.pairwise_map.mp hreported.bindingIds)
  exact List.pairwise_map.mpr ((hwithin x hx).sublist (deduplicateFrom_sublist _ _ _))

/-- The bindings that are saved with a service have ids of their own. -/
theorem ReportedFor.nodup_upserted (hreported : ReportedFor hostId services) (hx : x ∈ services) {existing : List Binding}
    (hids : (existing.map Entity.id).Nodup)
    (hfrom : ∀ e ∈ existing, ∃ y ∈ services, y ≠ x ∧ ∃ c ∈ y.base.bindings, c.id = e.id) :
    ((upsertBindings existing (deduplicateBindings x.base.bindings)).map Entity.id).Nodup := by
  obtain ⟨kept, added, heq, hkept, hadded⟩ := upsertBindings_split existing [] (deduplicateBindings x.base.bindings)
  rw [List.append_nil] at heq
  rw [List.nil_append] at hadded
  obtain ⟨-, hacross⟩ := List.pairwise_flatMap.mp (List.pairwise_map.mp hreported.bindingIds)
  have hsymm : Std.Symm (fun x y : Service => ∀ a ∈ x.base.bindings, ∀ b ∈ y.base.bindings, a.id ≠ b.id) :=
    ⟨fun _ _ h a ha b hb => (h b hb a ha).symm⟩
  rw [heq]
  refine List.pairwise_map.mpr (List.pairwise_append.mpr ⟨?_, ?_, fun e he b hb => ?_⟩)
  · exact (List.pairwise_map.mp hids).sublist hkept
  · exact (List.pairwise_map.mp (hreported.nodup_deduplicated hx)).sublist hadded
  · obtain ⟨y, hy, hne, c, hc, hid⟩ := hfrom e (hkept.subset he)
    rw [← hid]
    exact hacross.forall hy hx hne c hc b (mem_of_mem_deduplicateBindings (hadded.subset hb))

theorem entries_children (service : Service) : service.children.map Binding.entry = service.base.bindings.map Binding.entry := by
  rw [Service.children, List.map_map]
  rfl

/-- What has been saved with a service is what is loaded with it. -/
theorem StandsFor.saved {s : Db} {service : Service} {saved : List Binding} {members : List Service}
    (h : StandsFor service.row service.base.bindings members) (hsaved : SavedFor s service.id service.children (.ok saved) t)
    (hids : (service.base.bindings.map Entity.id).Nodup) (hnamed : ∀ b ∈ service.base.bindings, b.id ≠ Uuid.nil) :
    StandsFor service.row (t.loaded service.row).base.bindings members := by
  refine h.perm ?_
  rw [← entries_children]
  refine hsaved.entries_perm ?_ (fun c hc => ?_) (fun c hc => ?_)
  · rw [Service.children, List.map_map]
    exact hids
  · obtain ⟨b, hb, -, hcid⟩ := mem_children hc
    rw [hcid]
    exact hnamed b hb
  · obtain ⟨b, -, rfl⟩ := List.mem_map.mp hc
    rfl

end creating

section stored

variable {db t : Db} {hostId : Uuid} {services done : List Service} {x : Service} {saved : List Binding}
  (hreported : ReportedFor hostId services) (hconsistent : Consistent services) (hdone : ∀ d ∈ done ++ [x], d ∈ services)
  (hnew : ∀ d ∈ done, d.id ≠ x.id)

theorem prepared_deduplicated (x : Service) : Prepared x x.deduplicated := ⟨rfl, fun _ => rfl⟩

theorem eq_deduplicated (a x : Service) : Service.eq a x.deduplicated = Service.eq a x := by
  unfold Service.eq
  rw [(prepared_deduplicated x).resembles]
  rfl

include hreported hconsistent hdone hnew

/-- A stored service of the host stands for a class of the services, and `create` takes `x` for the same as that class. -/
theorem Arranged.recognises (h : Arranged db hostId done) {row existing : Service} (hrow : row ∈ db.services.rows)
    (hhost : row.base.hostId = hostId) (hloaded : LoadedFrom db row existing) :
    ∃ y ∈ done, y.id = row.id ∧ StandsFor row existing.base.bindings (done.filter (fun d => Service.eq y d)) ∧
      (Service.eq existing x.deduplicated = true ↔ Service.eq y x = true) := by
  obtain ⟨y, hy, hid, hstands⟩ := h.rows row hrow hhost
  have hexisting : StandsFor row existing.base.bindings (done.filter (fun d => Service.eq y d)) :=
    hstands.perm (hloaded.bindings.symm.map _)
  refine ⟨y, hy, hid, hexisting, ?_⟩
  rw [eq_deduplicated, hloaded.eq]
  exact hexisting.eq_iff hreported hconsistent (fun d hd => hdone d (List.mem_append_left _ hd)) hy hid (hdone x (by simp)) hnew

theorem Arranged.merged (h : Arranged db hostId done) {row : Service} {bindings : List Binding}
    (hmerges : Merges db x.deduplicated (ServiceService.withBindings bindings row)) (hrow : row ∈ db.services.rows)
    (hhost : row.base.hostId = hostId) (hloaded : LoadedFrom db row (ServiceService.withBindings bindings row)) (now : Instant)
    (hapart : ∀ r ∈ (db.services.filter (fun r => r.id ≠ row.id)).rows, Apart .service r
      (Service.row { upsertedService (ServiceService.withBindings bindings row) x.deduplicated with updatedAt := now }))
    (hsaved : SavedFor (db.withTable .service (updated db.services
      { upsertedService (ServiceService.withBindings bindings row) x.deduplicated with updatedAt := now } hapart)) row.id
      (upsertedService (ServiceService.withBindings bindings row) x.deduplicated).children (.ok saved) t) :
    Arranged t hostId (done ++ [x]) := by
  have hx : x ∈ services := hdone x (by simp)
  have hold {d : Service} (hd : d ∈ done) : d ∈ services := hdone d (List.mem_append_left _ hd)
  obtain ⟨y, hy, hid, hexisting, hrecognised⟩ := h.recognises hreported hconsistent hdone hnew hrow hhost hloaded
  have heq := hrecognised.mp hmerges.eq
  have hmembers (d : Service) (hd : d ∈ done.filter (fun d => Service.eq y d)) :
      d ∈ services ∧ Service.eq d x = true ∧ d.id ≠ x.id := by
    obtain ⟨hd, hyd⟩ := List.mem_filter.mp hd
    refine ⟨hold hd, ?_, hnew d hd⟩
    exact hconsistent.transitive d (hold hd) y (hold hy) x hx (hreported.eq_symm (hold hy) (hold hd) hyd) heq
  refine h.extend hreported hconsistent hdone hnew (mem_services_merged hsaved) hsaved.target.2.1 hhost
    (List.mem_append_left _ hy) hid heq ?_ (fun y' hy' hleads hne => ?_)
  · rw [List.filter_append, List.filter_singleton, heq]
    refine (hexisting.merge hreported hconsistent hmembers hx now).saved hsaved ?_ (fun b hb => ?_)
    · refine hreported.nodup_upserted hx ?_ (fun e he => ?_)
      · refine (hloaded.bindings.map Entity.id).nodup_iff.mpr (List.pairwise_map.mpr ?_)
        exact List.Pairwise.filter _ (db.bindings.pairwise.imp (fun hapart => hapart.1))
      · obtain ⟨d, hd, c, hc, hcid, -⟩ := hexisting.reported e he
        obtain ⟨hds, -, hne⟩ := hmembers d hd
        exact ⟨d, hds, fun hdx => hne (by rw [hdx]), c, hc, hcid⟩
    · rcases mem_upsertBindings hb with hb | hb
      · obtain ⟨d, hd, c, hc, hcid, -⟩ := hexisting.reported b hb
        rw [← hcid]
        exact (hreported.named d (hmembers d hd).1).2 c hc
      · exact (hreported.named x hx).2 b (mem_of_mem_deduplicateBindings hb)
  · rw [Bool.eq_false_iff]
    intro heq'
    have hyy' := hconsistent.transitive y (hold hy) x hx y' (hold hy') heq (hreported.eq_symm (hold hy') hx heq')
    have hsingle := h.single y hy y' hy' ⟨row, hrow, hhost, hid.symm⟩ hleads hyy'
    exact hne (hsingle ▸ hid)

theorem Arranged.unknown (h : Arranged db hostId done) (hunmatched : Unmatched db x.deduplicated) {y : Service} (hy : y ∈ done)
    (hleads : db.leads hostId y) : Service.eq y x = false := by
  have hx : x ∈ services := hdone x (by simp)
  have hplace : x.base.hostId = hostId := hreported.host x hx
  have hold {d : Service} (hd : d ∈ done) : d ∈ services := hdone d (List.mem_append_left _ hd)
  obtain ⟨row, hrow, hhost, hid⟩ := hleads
  obtain ⟨y', hy', hid', -, hrecognised⟩ :=
    h.recognises hreported hconsistent hdone hnew hrow hhost (loadedFrom_loaded db row)
  obtain rfl := hreported.eq_of_id_eq (hold hy') (hold hy) (hid'.trans hid)
  rw [Bool.eq_false_iff]
  intro heq
  rcases hunmatched with hnone | ⟨existing, hmatch, hupsert⟩
  · have hmatches := hrecognised.mpr heq
    rw [hnone row hrow (hhost.trans hplace.symm) _ (loadedFrom_loaded db row)] at hmatches
    cases hmatches
  · obtain ⟨row', hrow', hhost', hloaded⟩ := hmatch.row
    obtain ⟨_, -, -, hstands, -⟩ := h.recognises hreported hconsistent hdone hnew hrow' (hhost'.trans hplace) hloaded
    have hexisting : existing.base.source.isFromDiscovery = true := by
      rw [hloaded.eq]
      exact hstands.discovered
    have hincoming : x.deduplicated.base.source.isFromDiscovery = true := hreported.discovered x hx
    rw [ServiceService.isUpsert, hexisting, hincoming] at hupsert
    cases hupsert

theorem Arranged.inserted (h : Arranged db hostId done) (hunmatched : Unmatched db x.deduplicated) (position : ℤ)
    (hvalid : validateBindingsNoConflicts x.deduplicated.base.bindings = .ok ())
    (hapart : ∀ r ∈ db.services.rows, Apart .service r
      (Service.row { x.deduplicated with base := { x.deduplicated.base with position } }))
    (hsaved : SavedFor (db.withTable .service (db.services.insert
      (Service.row { x.deduplicated with base := { x.deduplicated.base with position } }) hapart)) x.id
      x.deduplicated.children (.ok saved) t) :
    Arranged t hostId (done ++ [x]) := by
  have hx : x ∈ services := hdone x (by simp)
  have hold {d : Service} (hd : d ∈ done) : d ∈ services := hdone d (List.mem_append_left _ hd)
  have hunknown {y : Service} (hy : y ∈ done) (hleads : db.leads hostId y) : Service.eq y x = false :=
    h.unknown hreported hconsistent hdone hnew hunmatched hy hleads
  have hservices (s : Service) := (mem_services_inserted hsaved s).trans
    (or_comm.trans (or_congr_right (iff_self_and.mpr (fun hold => (hapart s hold).1))))
  have hnone : done.filter (fun d => Service.eq x d) = [] := by
    refine List.filter_eq_nil_iff.mpr (fun d hd heq => ?_)
    obtain ⟨y, hy, hleads, hyd⟩ := h.found d hd
    have hyx := hconsistent.transitive y (hold hy) d (hold hd) x hx hyd (hreported.eq_symm hx (hold hd) heq)
    rw [hunknown hy hleads] at hyx
    cases hyx
  have hself : Service.eq x x = true := if_pos rfl
  have hmem : x ∈ done ++ [x] := by simp
  refine h.extend hreported hconsistent hdone hnew hservices hsaved.target.2.1 (hreported.host x hx) hmem rfl hself ?_
    (fun y hy hleads _ => hunknown hy hleads)
  rw [List.filter_append, hnone, List.filter_singleton, hself]
  refine (StandsFor.start hreported hx position hvalid).saved hsaved (hreported.nodup_deduplicated hx) (fun b hb => ?_)
  exact (hreported.named x hx).2 b (mem_of_mem_deduplicateBindings hb)

theorem Arranged.stored (h : Arranged db hostId done) {stored : Service} (hstored : Stored db x.deduplicated (.ok stored) t) :
    Arranged t hostId (done ++ [x]) := by
  have hplace : x.base.hostId = hostId := hreported.host x (hdone x (by simp))
  generalize hr : (Except.ok stored : Except Error Service) = r at hstored
  cases hstored with
  | refused e => cases hr
  | @merged existing hmerges now hapart saved t hsaved =>
    obtain ⟨row, hrow, hhost, hloaded⟩ := hmerges.row
    obtain ⟨bindings, rfl⟩ : ∃ bindings, existing = ServiceService.withBindings bindings row := ⟨_, hloaded.eq⟩
    cases saved with
    | error e => cases hr
    | ok saved => exact h.merged hreported hconsistent hdone hnew hmerges hrow (hhost.trans hplace) hloaded now hapart hsaved
  | @inserted position hunmatched hvalid hapart saved t hsaved =>
    cases saved with
    | error e => cases hr
    | ok saved => exact h.inserted hreported hconsistent hdone hnew hunmatched position hvalid hapart hsaved

end stored

section order

variable {db : Db} {hostId : Uuid} {services done : List Service} {x row : Service}

theorem returns_create_arranged (hreported : ReportedFor hostId services) (hconsistent : Consistent services)
    {may : Db → (o : DbOp) → o.Reply → Prop} {rest : List Service} (hservices : services = done ++ x :: rest)
    (h : Arranged db hostId done) :
    Returns dbStep may (fun _ t => Arranged t hostId (done ++ [x])) (ServiceService.create x) db := by
  have hids := hreported.ids
  rw [hservices, List.map_append, List.map_cons] at hids
  refine ensures_serviceCreate (fun _ _ h => (nomatch h)) (fun prepared hprepared _ r t hstored stored hr => ?_)
  obtain rfl := hprepared.eq (hreported.named x (by simp [hservices])).1
  rw [hr] at hstored
  refine h.stored hreported hconsistent (fun d hd => ?_) (fun d hd heq => ?_) hstored
  · rw [hservices]
    exact (List.IsPrefix.subset ⟨rest, by simp⟩) hd
  · exact List.disjoint_of_nodup_append hids (List.mem_map_of_mem hd) (heq ▸ List.mem_cons_self)

theorem arranged_run (hreported : ReportedFor hostId services) (hconsistent : Consistent services)
    (hempty : ∀ row ∈ db.services.rows, row.base.hostId ≠ hostId) (ω : Oracle dbSig)
    (hok : (run dbStep ω 0 (collect ServiceService.create services) db).result.isOk = true) :
    Arranged (run dbStep ω 0 (collect ServiceService.create services) db).state hostId services := by
  have hreturns : Returns dbStep (fun _ _ _ => True) (fun _ t => Arranged t hostId services)
      (collect ServiceService.create services) db := by
    refine Returns.collect (fun done _ t => Arranged t hostId done) services (fun done x rest hservices _ s h => ?_) ?_
    · exact returns_create_arranged hreported hconsistent hservices h
    · exact ⟨fun row hrow hhost => absurd hhost (hempty row hrow), fun d hd => (nomatch hd), fun y hy => (nomatch hy)⟩
  cases hresult : (run dbStep ω 0 (collect ServiceService.create services) db).result with
  | error e =>
    rw [hresult] at hok
    cases hok
  | ok stored => exact Ensures.run_any hreturns ω 0 stored hresult

theorem StandsFor.congr {bindings : List Binding} {members members' : List Service} (h : StandsFor row bindings members)
    (hmembers : ∀ d, d ∈ members ↔ d ∈ members') : StandsFor row bindings members' := by
  obtain ⟨z, hz, halike⟩ := h.alike
  refine ⟨⟨z, (hmembers z).mp hz, halike⟩, h.discovered, h.canonical, fun y hy => h.represented y ((hmembers y).mpr hy),
    fun b hb => ?_⟩
  obtain ⟨y, hy, hc⟩ := h.reported b hb
  exact ⟨y, (hmembers y).mp hy, hc⟩

theorem Arranged.perm {services' : List Service} (h : Arranged db hostId services') (hperm : services.Perm services') :
    Arranged db hostId services := by
  have hmem {d : Service} : d ∈ services' ↔ d ∈ services := hperm.mem_iff.symm
  refine ⟨fun row hrow hhost => ?_, fun d hd => ?_, fun y hy y' hy' => h.single y (hmem.mpr hy) y' (hmem.mpr hy')⟩
  · obtain ⟨y, hy, hid, hstands⟩ := h.rows row hrow hhost
    refine ⟨y, hmem.mp hy, hid, hstands.congr (fun d => ?_)⟩
    rw [List.mem_filter, List.mem_filter, hmem]
  · obtain ⟨y, hy, hleads⟩ := h.found d (hmem.mpr hd)
    exact ⟨y, hmem.mp hy, hleads⟩

/-- The two rows are stored for the same class of the services. -/
def Partners (services : List Service) (row row' : Service) : Prop :=
  ∃ y ∈ services, ∃ y' ∈ services, y.id = row.id ∧ y'.id = row'.id ∧ Service.eq y y' = true

theorem ReportedFor.partners_symm (hreported : ReportedFor hostId services) {row' : Service} (h : Partners services row row') :
    Partners services row' row := by
  obtain ⟨y, hy, y', hy', hid, hid', heq⟩ := h
  exact ⟨y', hy', y, hy, hid', hid, hreported.eq_symm hy hy' heq⟩

theorem mem_hostRows : row ∈ db.services.rows.filter (fun row => row.base.hostId = hostId) ↔
    row ∈ db.services.rows ∧ row.base.hostId = hostId := by
  rw [List.mem_filter, decide_eq_true_eq]

section partners

variable {db' : Db} (hreported : ReportedFor hostId services) (hconsistent : Consistent services)

include hreported

theorem Arranged.exists_partner (h : Arranged db hostId services) (h' : Arranged db' hostId services) {row : Service}
    (hrow : row ∈ db.services.rows.filter (fun row => row.base.hostId = hostId)) :
    ∃ row' ∈ db'.services.rows.filter (fun row => row.base.hostId = hostId), Partners services row row' := by
  obtain ⟨hstored, hhost⟩ := mem_hostRows.mp hrow
  obtain ⟨y, hy, hid, -⟩ := h.rows row hstored hhost
  obtain ⟨y', hy', ⟨row', hrow', hhost', hid'⟩, heq⟩ := h'.found y hy
  exact ⟨row', mem_hostRows.mpr ⟨hrow', hhost'⟩, y, hy, y', hy', hid, hid'.symm, hreported.eq_symm hy' hy heq⟩

include hconsistent

theorem Arranged.partner_unique (h' : Arranged db' hostId services) {row a b : Service}
    (ha : a ∈ db'.services.rows.filter (fun row => row.base.hostId = hostId))
    (hb : b ∈ db'.services.rows.filter (fun row => row.base.hostId = hostId)) (hrowa : Partners services row a)
    (hrowb : Partners services row b) : a = b := by
  obtain ⟨ha, hhosta⟩ := mem_hostRows.mp ha
  obtain ⟨hb, hhostb⟩ := mem_hostRows.mp hb
  obtain ⟨y, hy, ya, hya, hid, hida, heqa⟩ := hrowa
  obtain ⟨y', hy', yb, hyb, hid', hidb, heqb⟩ := hrowb
  obtain rfl := hreported.eq_of_id_eq hy hy' (hid.trans hid'.symm)
  have hab := hconsistent.transitive ya hya y hy yb hyb (hreported.eq_symm hy hya heqa) heqb
  have hsingle := h'.single ya hya yb hyb ⟨a, ha, hhosta, hida.symm⟩ ⟨b, hb, hhostb, hidb.symm⟩ hab
  exact eq_of_id_eq (t := db'.services) ha hb (by rw [← hida, ← hidb, hsingle])

theorem Arranged.partner_types (h : Arranged db hostId services) (h' : Arranged db' hostId services) {row row' : Service}
    (hrow : row ∈ db.services.rows.filter (fun row => row.base.hostId = hostId))
    (hrow' : row' ∈ db'.services.rows.filter (fun row => row.base.hostId = hostId)) (hpartners : Partners services row row') :
    ((db.loaded row).base.bindings.map (fun b => b.base.bindingType)).toFinset =
      ((db'.loaded row').base.bindings.map (fun b => b.base.bindingType)).toFinset := by
  obtain ⟨hstored, hhost⟩ := mem_hostRows.mp hrow
  obtain ⟨hstored', hhost'⟩ := mem_hostRows.mp hrow'
  obtain ⟨y, hy, hid, hstands⟩ := h.rows row hstored hhost
  obtain ⟨y', hy', hid', hstands'⟩ := h'.rows row' hstored' hhost'
  obtain ⟨z, hz, z', hz', hidz, hidz', heq⟩ := hpartners
  obtain rfl := hreported.eq_of_id_eq hy hz (hid.trans hidz.symm)
  obtain rfl := hreported.eq_of_id_eq hy' hz' (hid'.trans hidz'.symm)
  have hclass (d : Service) : d ∈ services.filter (fun d => Service.eq y d) ↔ d ∈ services.filter (fun d => Service.eq y' d) := by
    rw [List.mem_filter, List.mem_filter]
    refine and_congr_right (fun hd => ⟨fun hyd => ?_, fun hyd => ?_⟩)
    · exact hconsistent.transitive y' hy' y hy d hd (hreported.eq_symm hy hy' heq) hyd
    · exact hconsistent.transitive y hy y' hy' d hd heq hyd
  ext a
  simp only [List.mem_toFinset, List.mem_map, hstands.types_iff, (hstands'.congr (fun d => (hclass d).symm)).types_iff]

theorem Arranged.partition_eq (h : Arranged db hostId services) (h' : Arranged db' hostId services) :
    db.partition hostId = db'.partition hostId := by
  have hexactly : Exactly (Partners services) (db.services.rows.filter (fun row => row.base.hostId = hostId))
      (db'.services.rows.filter (fun row => row.base.hostId = hostId)) := by
    refine .of_matching ((rows_nodup db.services).filter _) ((rows_nodup db'.services).filter _)
      (fun row hrow => h.exists_partner hreported h' hrow) (fun row hrow => ?_)
      (fun row _ a ha b hb => h'.partner_unique hreported hconsistent ha hb) (fun row _ a ha b hb hrowa hrowb => ?_)
    · obtain ⟨row', hrow', hpartners⟩ := h'.exists_partner hreported h hrow
      exact ⟨row', hrow', hreported.partners_symm hpartners⟩
    · exact h.partner_unique hreported hconsistent ha hb (hreported.partners_symm hrowa) (hreported.partners_symm hrowb)
  exact Multiset.coe_eq_coe.mpr (hexactly.map_perm (fun row hrow row' hrow' => h.partner_types hreported hconsistent h' hrow hrow'))

end partners

end order

theorem ReportedFor.perm {hostId : Uuid} {services services' : List Service} (h : ReportedFor hostId services)
    (hperm : services.Perm services') : ReportedFor hostId services' := by
  have hmem {x : Service} (hx : x ∈ services') : x ∈ services := hperm.mem_iff.mpr hx
  exact ⟨fun x hx => h.host x (hmem hx), fun x hx => h.discovered x (hmem hx),
    fun x hx y hy => h.definitions x (hmem hx) y (hmem hy), fun x hx => h.named x (hmem hx),
    (hperm.map _).nodup_iff.mp h.ids, ((hperm.flatMap_right _).map _).nodup_iff.mp h.bindingIds⟩

theorem Consistent.perm {services services' : List Service} (h : Consistent services) (hperm : services.Perm services') :
    Consistent services' := by
  have hmem {x : Service} (hx : x ∈ services') : x ∈ services := hperm.mem_iff.mpr hx
  exact ⟨fun x hx y hy z hz => h.transitive x (hmem hx) y (hmem hy) z (hmem hz),
    fun x hx y hy z hz => h.absorbs x (hmem hx) y (hmem hy) z (hmem hz), fun x hx y hy => h.agree x (hmem hx) y (hmem hy)⟩

/-- A host that is scanned for the first time has its bindings in the same services in whatever order these are created. -/
theorem creation_order_irrelevant (db : Db) (hostId : Uuid) (hempty : ∀ row ∈ db.services.rows, row.base.hostId ≠ hostId)
    (services services' : List Service) (hreported : ReportedFor hostId services) (hconsistent : Consistent services)
    (hperm : services.Perm services') (ω ω' : Oracle dbSig)
    (hok : (run dbStep ω 0 (collect ServiceService.create services) db).result.isOk = true)
    (hok' : (run dbStep ω' 0 (collect ServiceService.create services') db).result.isOk = true) :
    (run dbStep ω 0 (collect ServiceService.create services) db).state.partition hostId =
      (run dbStep ω' 0 (collect ServiceService.create services') db).state.partition hostId := by
  have h := arranged_run hreported hconsistent hempty ω hok
  have h' := arranged_run (hreported.perm hperm) (hconsistent.perm hperm) hempty ω' hok'
  exact h.partition_eq hreported hconsistent (h'.perm hperm)

/-- The host of `webHost` before it is scanned. -/
def bareHost : Db := { webHost .empty with services := .empty }

def customService : ServiceDefinition := ⟨"Custom", true, false, false⟩

def scannedService (id : Uuid) (definition : ServiceDefinition) (container : Option (Option String × Option String))
    (bindings : List (Uuid × BindingType)) : Service :=
  ⟨id, 0, 0, ⟨1, 9, definition, definition.id, bindings.map (fun b => ⟨b.1, 0, 0, ⟨0, 0, b.2⟩⟩),
    container.map (fun c => ⟨c.1, c.2, 0⟩), .discovery [], [], 0⟩⟩

/-- A container found twice, and a server on its own. -/
theorem creation_order_irrelevant_container :
    let a := scannedService 31 customService (some (none, some "c1")) [(41, .port 4 (some 2))]
    let b := scannedService 32 customService (some (none, some "c1")) [(42, .port 4 none)]
    let c := scannedService 33 webServer none [(43, .port 5 none)]
    (run dbStep (granted 7) 0 (collect ServiceService.create [a, b, c]) bareHost).state.partition 1 =
      (run dbStep (granted 7) 0 (collect ServiceService.create [c, b, a]) bareHost).state.partition 1 := by
  intro a b c
  refine creation_order_irrelevant bareHost 1 (by decide) [a, b, c] [c, b, a] ⟨?_, ?_, ?_, ?_, ?_, ?_⟩ ⟨?_, ?_, ?_⟩ ?_
    (granted 7) (granted 7) ?_ ?_
  all_goals decide

/-- No two of the services claim overlapping ports but those that claim the same ones. -/
def ClaimsApart (services : List Service) : Prop := ∀ x ∈ services, ∀ y ∈ services,
  claims x.base.bindings = claims y.base.bindings ∨
    (claims x.base.bindings).any (fun a => (claims y.base.bindings).any (overlaps a)) = false

instance (services : List Service) : Decidable (ClaimsApart services) :=
  inferInstanceAs (Decidable (∀ x ∈ services, ∀ y ∈ services, _ ∨ _))

/-- The services can be created in both orders, and what is stored then differs. -/
structure OrderMatters (services services' : List Service) : Prop where
  reported : ReportedFor 1 services
  claimsApart : ClaimsApart services
  perm : services.Perm services'
  ok : (run dbStep (granted 7) 0 (collect ServiceService.create services) bareHost).result.isOk = true
  ok' : (run dbStep (granted 7) 0 (collect ServiceService.create services') bareHost).result.isOk = true
  ne : (run dbStep (granted 7) 0 (collect ServiceService.create services) bareHost).state.partition 1 ≠
    (run dbStep (granted 7) 0 (collect ServiceService.create services') bareHost).state.partition 1

/-- A service equal to two that are not equal; one equal to what two have become; and a binding in the way of another. -/
theorem creation_order_matters :
    (let a := scannedService 31 customService (some (none, some "c1")) [(41, .port 4 none)]
    let b := scannedService 32 customService (some (none, some "c1")) [(42, .port 5 none)]
    let c := scannedService 33 customService none [(43, .port 5 none)]
    OrderMatters [a, b, c] [a, c, b]) ∧
    (let a := scannedService 31 customService (some (some "web", none)) [(41, .port 4 (some 2)), (42, .port 5 (some 2))]
    let b := scannedService 32 customService (some (none, none)) [(43, .port 5 (some 3))]
    let c := scannedService 33 customService (some (some "proxy", none)) [(44, .port 4 (some 3))]
    OrderMatters [a, b, c] [a, c, b]) ∧
    (let a := scannedService 31 webServer none [(41, .interface 2)]
    let b := scannedService 32 webServer none [(42, .port 4 (some 2))]
    OrderMatters [a, b] [b, a]) := by
  refine ⟨⟨⟨?_, ?_, ?_, ?_, ?_, ?_⟩, ?_, ?_, ?_, ?_, ?_⟩, ⟨⟨?_, ?_, ?_, ?_, ?_, ?_⟩, ?_, ?_, ?_, ?_, ?_⟩,
    ⟨⟨?_, ?_, ?_, ?_, ?_, ?_⟩, ?_, ?_, ?_, ?_, ?_⟩⟩
  all_goals decide

end VantageNet.Inventory
