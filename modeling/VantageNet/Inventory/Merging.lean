import VantageNet.Inventory.Exclusivity

/-!
Discovered services and the stored ones they are recognised as: when `discover_host` merges the
one into the other.
-/

namespace VantageNet.Inventory

open Interaction Interaction.Program

def EntitySource.metadata : EntitySource → List DiscoveryMetadata
  | .discovery metadata => metadata
  | .discoveryWithMatch metadata _ => metadata
  | _ => []

def Db.bindingsOf (db : Db) (serviceId : Uuid) : List Binding :=
  db.bindings.rows.filter (fun b => b.base.serviceId = serviceId)

/-- No stored binding has the id of one of these. -/
def Db.Fresh (db : Db) (bindings : List Binding) : Prop :=
  ∀ b ∈ bindings, b.id ≠ Uuid.nil → ∀ x ∈ db.bindings.rows, x.id ≠ b.id

instance (db : Db) (bindings : List Binding) : Decidable (db.Fresh bindings) :=
  inferInstanceAs (Decidable (∀ b ∈ bindings, _ → ∀ x ∈ db.bindings.rows, _))

/-- What is stored under an id stays: the bindings as such or on all interfaces, and the metadata of matches. -/
structure Keeps (db t : Db) : Prop where
  represented : ∀ id a, Represented (db.bindingsOf id) a → Represented (t.bindingsOf id) a
  metadata : ∀ id ms, (∃ s ∈ db.services.rows, s.id = id ∧ ∃ metadata details,
      s.base.source = .discoveryWithMatch metadata details ∧ ms ⊆ metadata) →
    ∃ s ∈ t.services.rows, s.id = id ∧ ∃ metadata details,
      s.base.source = .discoveryWithMatch metadata details ∧ ms ⊆ metadata
  stored : ∀ id, (∃ s ∈ db.services.rows, s.id = id) → ∃ s ∈ t.services.rows, s.id = id

section keeps

variable {db t u : Db}

theorem Keeps.refl (db : Db) : Keeps db db := ⟨fun _ _ h => h, fun _ _ h => h, fun _ h => h⟩

theorem Keeps.trans (h : Keeps db t) (h' : Keeps t u) : Keeps db u :=
  ⟨fun id a ha => h'.represented id a (h.represented id a ha), fun id m hm => h'.metadata id m (h.metadata id m hm),
    fun id hid => h'.stored id (h.stored id hid)⟩

theorem mem_bindingsOf {id : Uuid} {b : Binding} :
    b ∈ db.bindingsOf id ↔ b ∈ db.bindings.rows ∧ b.base.serviceId = id := by
  simp [Db.bindingsOf]

theorem upsertSource_metadata {existing : EntitySource} (new : EntitySource) {metadata : List DiscoveryMetadata}
    {details : MatchDetails} (h : existing = .discoveryWithMatch metadata details) {ms : List DiscoveryMetadata}
    (hm : ms ⊆ metadata) :
    ∃ metadata' details', upsertSource existing new = .discoveryWithMatch metadata' details' ∧ ms ⊆ metadata' := by
  subst h
  cases new with
  | discoveryWithMatch newMetadata newDetails =>
    simp only [upsertSource]
    split_ifs
    · exact ⟨_, _, rfl, fun m h => List.mem_append_right _ (hm h)⟩
    · exact ⟨_, _, rfl, fun m h => List.mem_append_right _ (hm h)⟩
  | _ => exact ⟨metadata, details, rfl, hm⟩

/-- A service whose children have all been saved stands for each of them. -/
theorem SavedFor.represented {serviceId : Uuid} {children saved : List Binding}
    (h : SavedFor db serviceId children (.ok saved) t) (hchildren : ∀ c ∈ children, c.base.serviceId = serviceId)
    (hdistinct : ∀ e ∈ db.bindings.rows, e.base.serviceId = serviceId →
      children.Pairwise (fun a b => a.id ≠ Uuid.nil → a.id = e.id → b.id ≠ e.id))
    {a : BindingType} (ha : Represented children a) : Represented (t.bindingsOf serviceId) a := by
  rcases h with ⟨-, e, he⟩ | ⟨done, out, -, hsaving, hresult⟩
  · cases he
  · obtain ⟨rfl, -⟩ := hresult saved rfl
    apply ha.of_mem
    intro c hc
    obtain ⟨o, ho, hsaved⟩ := hsaving.saved_of_mem hc
    refine ⟨o, mem_bindingsOf.mpr ⟨hsaving.present hdistinct o ho, ?_⟩, .inl (by rw [hsaved.base])⟩
    rw [hsaved.base, hchildren c hc]

theorem Represented.children {service : Service} {a : BindingType} (h : Represented service.base.bindings a) :
    Represented service.children a := by
  obtain ⟨b, hb, hba⟩ := h
  exact ⟨_, List.mem_map_of_mem hb, hba⟩

theorem serviceId_of_mem_children {service : Service} : ∀ c ∈ service.children, c.base.serviceId = service.id := by
  intro c hc
  obtain ⟨b, -, rfl⟩ := List.mem_map.mp hc
  rfl

/-- With fresh ids, no two of the bindings after an upsert share the id of a stored one. -/
theorem distinct_upserted {row existing service : Service} (hloaded : LoadedFrom db row existing)
    (hfresh : db.Fresh service.base.bindings) : ∀ e ∈ db.bindings.rows, e.base.serviceId = existing.id →
      (upsertedService existing service).children.Pairwise
        (fun a b => a.id ≠ Uuid.nil → a.id = e.id → b.id ≠ e.id) := by
  intro e he _
  obtain ⟨kept, added, heq, hkept, hadded⟩ := upsertBindings_split existing.base.bindings [] service.base.bindings
  rw [List.append_nil] at heq
  have hnew {c : Binding} (hc : c ∈ added) (hnil : c.id ≠ Uuid.nil) : c.id ≠ e.id :=
    fun hid => hfresh c (by simpa using hadded.subset hc) hnil e he hid.symm
  have hnodup : kept.Pairwise (fun a b => a.id ≠ b.id) := by
    refine List.Pairwise.sublist hkept ?_
    rw [hloaded.bindings.pairwise_iff (fun h => h.symm)]
    exact (db.bindings.pairwise.imp (fun h => h.1)).filter _
  refine List.pairwise_map.mpr ?_
  change (upsertBindings existing.base.bindings service.base.bindings).Pairwise _
  rw [heq]
  refine List.pairwise_append.mpr ⟨?_, ?_, fun a _ b hb hnil ha hb' => ?_⟩
  · exact hnodup.imp (fun hne _ ha hb => hne (ha.trans hb.symm))
  · exact List.pairwise_of_forall_mem_list (fun a ha b _ hnil hae => absurd hae (hnew (c := a) ha hnil))
  · have hbid : b.id = e.id := hb'
    have haid : a.id = e.id := ha
    exact hnew hb (by rw [hbid, ← haid]; exact hnil) hbid

theorem bindingsOf_congr {id : Uuid} (h : ∀ b : Binding, b.base.serviceId = id →
    (b ∈ t.bindings.rows ↔ b ∈ db.bindings.rows)) {a : BindingType} (ha : Represented (db.bindingsOf id) a) :
    Represented (t.bindingsOf id) a := by
  obtain ⟨b, hb, hba⟩ := ha
  obtain ⟨hb, hid⟩ := mem_bindingsOf.mp hb
  exact ⟨b, mem_bindingsOf.mpr ⟨(h b hid).mpr hb, hid⟩, hba⟩

theorem Stored.keeps {service stored : Service} {r : Except Error Service} (h : Stored db service r t)
    (hr : r = .ok stored) (howned : db.Owned) (hfresh : db.Fresh service.base.bindings) : Keeps db t := by
  cases h with
  | refused e => cases hr
  | @merged existing hmerges now hapart r t hsaved =>
    obtain ⟨row, hrow, -, hloaded⟩ := hmerges.row
    have hmem := mem_services_merged hsaved
    have hothers := hsaved.target.2.1
    have hdistinct := distinct_upserted hloaded hfresh
    rcases r with e | saved
    · cases hr
    have hown (s : Service) (hs : s ∈ db.services.rows) (hid : s.id = existing.id) : s.base.source = existing.base.source := by
      rw [eq_of_id_eq (t := db.services) hs hrow (hid.trans hloaded.id_eq), hloaded.eq]
      rfl
    refine ⟨fun id a ha => ?_, ?_, ?_⟩
    · by_cases hid : id = existing.id
      · subst hid
        refine hsaved.represented serviceId_of_mem_children hdistinct ?_
        apply Represented.children
        apply Represented.upsertBindings
        obtain ⟨b, hb, hba⟩ := ha
        exact ⟨b, (hloaded.mem_bindings b).mpr (mem_bindingsOf.mp hb), hba⟩
      · exact bindingsOf_congr (fun b hb => hothers b (hb ▸ hid)) ha
    · rintro id m ⟨s, hs, rfl, metadata, details, hsource, hm⟩
      by_cases hid : s.id = existing.id
      · rw [hown s hs hid] at hsource
        obtain ⟨metadata', details', hsource', hm'⟩ := upsertSource_metadata service.base.source hsource hm
        exact ⟨_, (hmem _).mpr (.inl rfl), hid.symm, metadata', details', hsource', hm'⟩
      · exact ⟨s, (hmem s).mpr (.inr ⟨hs, hid⟩), rfl, metadata, details, hsource, hm⟩
    · rintro id ⟨s, hs, rfl⟩
      by_cases hid : s.id = existing.id
      · exact ⟨_, (hmem _).mpr (.inl rfl), hid.symm⟩
      · exact ⟨s, (hmem s).mpr (.inr ⟨hs, hid⟩), rfl⟩
  | @inserted position hunmatched hvalid hapart r t hsaved =>
    have hmem := mem_services_inserted hsaved
    have hothers := hsaved.target.2.1
    refine ⟨fun id a ha => ?_, ?_, ?_⟩
    · by_cases hid : id = service.id
      · obtain ⟨b, hb, -⟩ := ha
        obtain ⟨hb, hservice⟩ := mem_bindingsOf.mp hb
        obtain ⟨s, hs, hsid⟩ := howned b hb
        exact absurd (hsid.trans (hservice.trans hid)) (hapart s hs).1
      · exact bindingsOf_congr (fun b hb => hothers b (hb ▸ hid)) ha
    · rintro id m ⟨s, hs, hrest⟩
      exact ⟨s, (hmem s).mpr (.inl hs), hrest⟩
    · rintro id ⟨s, hs, hid⟩
      exact ⟨s, (hmem s).mpr (.inl hs), hid⟩

theorem Stored.present {service stored : Service} {r : Except Error Service} (h : Stored db service r t)
    (hr : r = .ok stored) : ∃ s ∈ t.services.rows, s.id = stored.id := by
  cases h with
  | refused e => cases hr
  | @merged existing hmerges now hapart r t hsaved =>
    rcases r with e | saved <;> cases hr
    exact ⟨_, (mem_services_merged hsaved _).mpr (.inl rfl), rfl⟩
  | @inserted position hunmatched hvalid hapart r t hsaved =>
    rcases r with e | saved <;> cases hr
    exact ⟨_, (mem_services_inserted hsaved _).mpr (.inr rfl), rfl⟩

end keeps

section matching

variable {db t : Db} {service prepared : Service}

theorem mem_portIds_deduplicate {bindings : List Binding} {p : Uuid} :
    (∃ b ∈ deduplicateBindings bindings, b.base.bindingType.portId = some p) ↔
      ∃ b ∈ bindings, b.base.bindingType.portId = some p := by
  constructor
  · rintro ⟨b, hb, hp⟩
    exact ⟨b, mem_of_mem_deduplicateBindings hb, hp⟩
  · rintro ⟨b, hb, hp⟩
    obtain ⟨d, hd, heq | hcovers⟩ := deduplicateBindings_represents hb
    · exact ⟨d, hd, by rw [heq, hp]⟩
    · exact ⟨d, hd, by rw [portId_of_covers hcovers, hp]⟩

theorem Prepared.resembles (h : Prepared service prepared) (a : Service) :
    a.resembles prepared = a.resembles service := by
  have hports : a.sharesPorts prepared = a.sharesPorts service := by
    rw [Bool.eq_iff_iff]
    simp only [Service.sharesPorts, List.any_eq_true, List.contains_iff_mem, Service.portIds, List.mem_filterMap,
      h.base, mem_portIds_deduplicate]
  simp only [Service.resembles, Service.eqGeneric, hports, h.base]

/-- The service has come to the stored `row`. -/
structure Landed (host : Host) (db : Db) (batch : Batch) (service row : Service) (t : Db) : Prop where
  represented : ∀ b ∈ service.base.bindings, b.base.bindingType.claim.isSome →
    Represented (t.bindingsOf row.id) b.base.bindingType
  kept : db.drops host.id batch service = false
  stored : ∃ s ∈ t.services.rows, s.id = row.id
  metadata : service.base.source.metadata = [] ∨ ∃ s ∈ t.services.rows, s.id = row.id ∧ ∃ metadata details,
    s.base.source = .discoveryWithMatch metadata details ∧ service.base.source.metadata ⊆ metadata

theorem Landed.keep {host : Host} {batch : Batch} {row : Service} {u : Db} (h : Landed host db batch service row t)
    (hkeeps : Keeps t u) : Landed host db batch service row u :=
  ⟨fun b hb hclaim => hkeeps.represented _ _ (h.represented b hb hclaim), h.kept, hkeeps.stored _ h.stored,
    h.metadata.imp_right (hkeeps.metadata _ _)⟩

end matching

section loop

variable {db : Db} {originalInterfaces interfaces : List Interface} {originalPorts ports : List Port} {host : Host}

end loop

def scanned : DiscoveryMetadata := ⟨.selfReport 1, 7, 5⟩

end VantageNet.Inventory
