import VantageNet.Inventory.Canonical
import VantageNet.Inventory.Requests
import VantageNet.Inventory.Storing

/-!
The bindings of a service over sequences of calls: which calls leave them such that any two may
stand side by side.
-/

namespace VantageNet.Inventory

open Interaction Interaction.Program

/-- Any two stored bindings of one service may stand side by side. -/
def Db.Canonical (db : Db) : Prop :=
  ∀ a ∈ db.bindings.rows, ∀ b ∈ db.bindings.rows, a.base.serviceId = b.base.serviceId → a.id ≠ b.id →
    Compatible a.base.bindingType b.base.bindingType

instance (db : Db) : Decidable db.Canonical :=
  inferInstanceAs (Decidable (∀ a ∈ db.bindings.rows, ∀ b ∈ db.bindings.rows, _ → _ → Compatible _ _))

inductive BindingCall where
  | create (service : Service)
  | update (service : Service)
  | delete (id : Uuid)
  | createBinding (networkIds : List Uuid) (binding : Binding)
  | updateBinding (networkIds : List Uuid) (id : Uuid) (binding : Binding)
  | deleteBinding (networkIds : List Uuid) (id : Uuid)
  | bulkDeleteBindings (networkIds ids : List Uuid)

def BindingCall.program : BindingCall → Query Unit
  | .create service => (ServiceService.create service).bind (fun _ => ret ())
  | .update service => (ServiceService.update service).bind (fun _ => ret ())
  | .delete id => ServiceService.delete id
  | .createBinding networkIds binding => (BindingHandlers.createBinding networkIds binding).bind (fun _ => ret ())
  | .updateBinding networkIds id binding =>
    (BindingHandlers.updateBinding networkIds id binding).bind (fun _ => ret ())
  | .deleteBinding networkIds id => BindingHandlers.deleteBinding networkIds id
  | .bulkDeleteBindings networkIds ids => BindingHandlers.bulkDeleteBindings networkIds ids

/-- A call, with what the database answers to it, from start to end. -/
def bindingStep (db : Db) (call : BindingCall × Oracle dbSig) : Db :=
  (run dbStep call.2 0 call.1.program db).state

/-- The stored bindings of the service of `binding` other than the one with the id `except`. -/
def Db.beside (db : Db) (binding : Binding) (except : Option Uuid) : List Binding :=
  db.bindings.rows.filter (fun e => e.base.serviceId = binding.base.serviceId && except ≠ some e.id)

def BindingCall.Tidy (db : Db) : BindingCall → Prop
  | .create service => ∀ row ∈ db.services.rows, db.mayMerge service row →
    (deduplicateBindings service.base.bindings).Pairwise (fun a b => ∀ e ∈ (db.loaded row).base.bindings,
      e.id = b.id → a.id ≠ b.id → a.base.bindingType.covers e.base.bindingType = false)
  | .update service => Steady (db.loaded service).base.bindings (deduplicateBindings service.base.bindings)
  | .createBinding _ binding => ∀ e ∈ db.beside binding none, e.base.bindingType ≠ binding.base.bindingType ∧
    e.base.bindingType.covers binding.base.bindingType = false
  | .updateBinding _ id binding => ∀ e ∈ db.beside binding (some id),
    e.base.bindingType ≠ binding.base.bindingType ∧
    e.base.bindingType.covers binding.base.bindingType = false ∧
    binding.base.bindingType.covers e.base.bindingType = false
  | .delete _ | .deleteBinding _ _ | .bulkDeleteBindings _ _ => True

instance (db : Db) : (call : BindingCall) → Decidable (call.Tidy db)
  | .create _ => inferInstanceAs (Decidable (∀ row ∈ db.services.rows, _ → List.Pairwise _ _))
  | .update _ => inferInstanceAs (Decidable (List.Pairwise _ _))
  | .createBinding _ binding => inferInstanceAs (Decidable (∀ e ∈ db.beside binding none, _ ∧ _))
  | .updateBinding _ id binding => inferInstanceAs (Decidable (∀ e ∈ db.beside binding (some id), _ ∧ _ ∧ _))
  | .delete _ | .deleteBinding _ _ | .bulkDeleteBindings _ _ => .isTrue trivial

section saving

variable {db t : Db} {serviceId : Uuid} {children done out : List Binding}

theorem Saving.canonical (h : Saving db serviceId children done out t) (hinit : done <+: children)
    (hdb : db.Canonical) (hchildren : Canonical children)
    (hsteady : Steady (db.bindings.rows.filter (fun b => b.base.serviceId = serviceId)) children) :
    t.Canonical := by
  obtain ⟨rest, rfl⟩ := hinit
  have hout : Canonical out := by
    rw [Canonical, ← List.pairwise_map, h.types, List.pairwise_map]
    exact (List.pairwise_append.mp hchildren).1
  have hmixed {a b : Binding} (ha : a ∈ out) (hb : b ∈ db.bindings.rows) (hservice : b.base.serviceId = serviceId)
      (hid : b.id ∈ (done ++ rest).map Entity.id) (hnot : b.id ∉ done.map Entity.id) :
      Compatible a.base.bindingType b.base.bindingType := by
    obtain ⟨c, hc, hsaved⟩ := h.child ha
    obtain ⟨d, hd, hdid⟩ := List.mem_map.mp hid
    have hd : d ∈ rest := (List.mem_append.mp hd).resolve_left (fun hd => hnot (hdid ▸ List.mem_map_of_mem hd))
    rw [hsaved.base]
    refine (List.pairwise_append.mp hsteady).2.2 c hc d hd b (List.mem_filter.mpr ⟨hb, by simpa using hservice⟩)
      hdid.symm (fun heq => hnot ?_)
    rw [← hdid, ← heq]
    exact List.mem_map_of_mem hc
  intro a ha b hb hsame hne
  by_cases hservice : a.base.serviceId = serviceId
  · rcases h.own a ha hservice with haout | ⟨haold, -, haid, hanot⟩
    · rcases h.own b hb (hsame ▸ hservice) with hbout | ⟨hbold, -, hbid, hbnot⟩
      · exact hout.compatible haout hbout hne
      · exact hmixed haout hbold (hsame ▸ hservice) hbid hbnot
    · rcases h.own b hb (hsame ▸ hservice) with hbout | ⟨hbold, -, -, -⟩
      · exact (hmixed hbout haold hservice haid hanot).symm
      · exact hdb a haold b hbold hsame hne
  · exact hdb a ((h.others a hservice).mp ha) b ((h.others b (hsame ▸ hservice)).mp hb) hsame hne

end saving

section canonical

variable {may : Db → (o : DbOp) → o.Reply → Prop} {db t : Db}

theorem Db.Canonical.mono (h : db.Canonical) (hsub : ∀ b ∈ t.bindings.rows, b ∈ db.bindings.rows) : t.Canonical :=
  fun a ha b hb => h a (hsub a ha) b (hsub b hb)

theorem Db.Canonical.of_sameBut {K : List Kind} (h : db.Canonical) (hks : .binding ∉ K) (ht : db.SameBut K t) :
    t.Canonical := by
  have hbindings : t.bindings = db.bindings := ht .binding hks
  exact h.mono (fun b hb => hbindings ▸ hb)

theorem SavedFor.canonical {serviceId : Uuid} {children : List Binding} {r : Except Error (List Binding)}
    (h : SavedFor db serviceId children r t) (hdb : db.Canonical) (hchildren : Canonical children)
    (hsteady : Steady (db.bindings.rows.filter (fun b => b.base.serviceId = serviceId)) children) :
    t.Canonical := by
  rcases h with ⟨rfl, -⟩ | ⟨done, out, hinit, hsaving, -⟩
  · exact hdb
  · exact hsaving.canonical hinit hdb hchildren hsteady

theorem canonical_children {service : Service} (h : Canonical service.base.bindings) : Canonical service.children :=
  List.pairwise_map.mpr h

theorem steady_children {stored : List Binding} {service : Service} (h : Steady stored service.base.bindings) :
    Steady stored service.children := List.pairwise_map.mpr h

theorem LoadedFrom.canonical {row service : Service} (h : LoadedFrom db row service) (hdb : db.Canonical) :
    Canonical service.base.bindings := by
  have hnodup : service.base.bindings.Pairwise (fun a b => a.id ≠ b.id) := by
    have : Std.Symm (fun a b : Binding => a.id ≠ b.id) := ⟨fun _ _ h => h.symm⟩
    rw [h.bindings.pairwise_iff (fun h => h.symm)]
    exact (db.bindings.pairwise.imp (fun h => h.1)).filter _
  refine hnodup.imp_of_mem ?_
  intro a b ha hb hne
  obtain ⟨ha, hservice⟩ := (h.mem_bindings a).mp ha
  obtain ⟨hb, hservice'⟩ := (h.mem_bindings b).mp hb
  exact hdb a ha b hb (hservice.trans hservice'.symm) hne

theorem Steady.mono {stored stored' children : List Binding} (h : Steady stored children)
    (hmem : ∀ e ∈ stored', e ∈ stored) : Steady stored' children :=
  List.Pairwise.imp (fun hab e he => hab e (hmem e he)) h

theorem Stored.canonical {service prepared : Service} (hprepared : Prepared service prepared)
    {r : Except Error Service} (h : Stored db prepared r t) (hdb : db.Canonical) (howned : db.Owned)
    (htidy : BindingCall.Tidy db (.create service)) : t.Canonical := by
  have hbindings : prepared.base.bindings = deduplicateBindings service.base.bindings := by rw [hprepared.base]
  cases h with
  | refused e => exact hdb
  | merged hmerges now hapart hsaved =>
    obtain ⟨row, hrow, hhost, hloaded⟩ := hmerges.row
    have hmem (e : Binding) : e ∈ _ ↔ e ∈ (db.loaded row).base.bindings :=
      (hloaded.bindings.trans (loadedFrom_loaded db row).bindings.symm).mem_iff
    have hexisting := hloaded.canonical hdb
    apply hsaved.canonical
    · exact hdb
    · exact canonical_children (hexisting.upsertBindings _)
    · apply steady_children
      refine (steady_upsertBindings hexisting ?_).mono (fun e he => ?_)
      · rw [hbindings]
        refine (htidy row hrow (hmerges.mayMerge hprepared hhost hloaded)).imp ?_
        exact fun hab e he => hab e ((hmem e).mp he)
      · obtain ⟨he, hservice⟩ := List.mem_filter.mp he
        exact (hloaded.mem_bindings e).mpr ⟨he, by simpa using hservice⟩
  | inserted position hunmatched hvalid hapart hsaved =>
    apply hsaved.canonical
    · exact hdb
    · apply canonical_children
      rw [hbindings] at hvalid ⊢
      exact canonical_deduplicateBindings hvalid
    · refine List.pairwise_of_forall_mem_list (fun a _ b _ e he => ?_)
      obtain ⟨he, hservice⟩ := List.mem_filter.mp he
      obtain ⟨s, hs, hid⟩ := howned e he
      have hservice : e.base.serviceId = prepared.id := by simpa using hservice
      exact absurd (hid.trans hservice) (hapart s hs).1

theorem ensures_serviceUpdate_canonical {service : Service} (hdb : db.Canonical)
    (htidy : BindingCall.Tidy db (.update service)) :
    Ensures dbStep may (fun _ t => t.Canonical) (ServiceService.update service) db := by
  apply ensures_acquire
  refine (touches_serviceGetById (K := []) service.id).then (fun e t ht => ht.eq ▸ hdb) (fun current t ht => ?_)
  rw [ht.eq]
  cases current with
  | none => exact hdb
  | some current =>
    apply Ensures.bind
    apply ensures_orFail
    change Ensures.andThen _ _ (validateBindingsNoConflicts (deduplicateBindings service.base.bindings)) db
    cases hvalid : validateBindingsNoConflicts (deduplicateBindings service.base.bindings) with
    | error e => exact hdb
    | ok _ =>
      refine (touches_validateBindingsBelongToHost (K := []) _ _).then (fun e t ht => ht.eq ▸ hdb) (fun _ t ht => ?_)
      rw [ht.eq]
      refine (touches_validateBindingsAvailable (K := []) _ _ _).then (fun e t ht => ht.eq ▸ hdb) (fun _ t ht => ?_)
      rw [ht.eq]
      refine (touches_updateGroupServiceBindings _ _).then (fun e t ht => hdb.of_sameBut (by simp) ht)
        (fun _ t ht => ?_)
      have hbindings : t.bindings = db.bindings := ht .binding (by simp)
      have ht := hdb.of_sameBut (by simp) ht
      have hsave (u : Db) (now : Instant) (hu : u.bindings = t.bindings) : Ensures dbStep may (fun _ t => t.Canonical)
          ((ServiceService.saveBindings { ServiceService.withBindings (deduplicateBindings service.base.bindings)
            service with updatedAt := now }).bind (fun saved =>
            (release (.service service.id)).bind (fun _ => ret saved))) u := by
        apply Ensures.bind
        apply ensures_saveBindings
        intro r v hsaved
        have hv : v.Canonical := by
          apply hsaved.canonical
          · exact ht.mono (fun b hb => hu ▸ hb)
          · exact canonical_children (canonical_deduplicateBindings hvalid)
          · apply steady_children
            rw [hu, hbindings]
            exact htidy
        cases r with
        | error e => exact hv
        | ok saved => exact ensures_release hv
      apply Ensures.bind
      apply ensures_update (k := .service)
      · exact fun e => ht
      · exact fun now _ => hsave t now rfl
      · exact fun now _ _ _ => hsave _ now rfl

theorem ensures_serviceDelete_canonical {id : Uuid} (hdb : db.Canonical) :
    Ensures dbStep may (fun _ t => t.Canonical) (ServiceService.delete id) db := by
  apply ensures_acquire
  refine (touches_serviceGetById (K := []) id).then (fun e t ht => ht.eq ▸ hdb) (fun current t ht => ?_)
  rw [ht.eq]
  cases current with
  | none => exact hdb
  | some current =>
    refine (touches_updateGroupServiceBindings _ _).then (fun e t ht => hdb.of_sameBut (by simp) ht) (fun _ t ht => ?_)
    have ht := hdb.of_sameBut (by simp) ht
    apply Ensures.bind
    apply ensures_deleteWhere
    · exact fun e => ht
    · apply ensures_release
      exact ht.mono (fun b hb => (List.mem_filter.mp hb).1)

theorem ensures_validateNoBindingTypeConflict {binding : Binding} {excludeId : Option Uuid}
    {post : Except Error Unit → Db → Prop} (herror : ∀ e, post (.error e) db)
    (hok : (∀ e ∈ db.beside binding excludeId, binding.base.bindingType.clashes e.base.bindingType = false) →
      post (.ok ()) db) :
    Ensures dbStep may post (BindingHandlers.validateNoBindingTypeConflict binding excludeId) db := by
  apply Ensures.bind
  refine ensures_getAll (k := .binding) (fun e => herror e) (fun existing hexisting _ => ?_)
  dsimp only [Ensures.andThen]
  cases hcheck : validateBindingNoConflict binding.base.bindingType
      (existing.filter (fun b => excludeId ≠ some b.id)) with
  | some message => exact herror _
  | none =>
    apply hok
    intro e he
    obtain ⟨he, hbeside⟩ := List.mem_filter.mp he
    obtain ⟨hservice, hexclude⟩ := Bool.and_eq_true_iff.mp hbeside
    refine (validateBindingNoConflict_eq_none_iff _ _).mp hcheck e (List.mem_filter.mpr ⟨?_, hexclude⟩)
    exact hexisting.mem_iff.mpr (List.mem_filter.mpr ⟨he, hservice⟩)

theorem ensures_removeSuperseded {binding : Binding} {post : Except Error Unit → Db → Prop}
    (herror : ∀ e t, (∀ b ∈ t.bindings.rows, b ∈ db.bindings.rows) → post (.error e) t)
    (hok : ∀ t, (∀ b ∈ t.bindings.rows, b ∈ db.bindings.rows) →
      (∀ e ∈ t.beside binding none, binding.base.bindingType.covers e.base.bindingType = false) → post (.ok ()) t) :
    Ensures dbStep may post (BindingHandlers.removeSuperseded binding) db := by
  unfold BindingHandlers.removeSuperseded
  rcases hbinding : binding.base.bindingType with i | ⟨p, _ | i⟩
  · exact hok db (fun b hb => hb) (fun e _ => by rw [hbinding]; rfl)
  · apply Ensures.bind
    refine ensures_getAll (k := .binding) (fun e => herror e db (fun b hb => hb)) (fun existing hexisting _ => ?_)
    refine Ensures.forEach (fun done t => ∀ b, b ∈ t.bindings.rows → b ∈ db.bindings.rows ∧ ∀ d ∈ done, b.id ≠ d.id)
      _ ?_ (fun b hb => ⟨hb, by simp⟩) ?_
    · intro done x rest _ s hs
      apply ensures_crudDelete (k := .binding)
      · exact fun e => herror e s (fun b hb => (hs b hb).1)
      · intro b hb
        obtain ⟨hb, hne⟩ := List.mem_filter.mp hb
        refine ⟨(hs b hb).1, fun d hd => ?_⟩
        rcases List.mem_append.mp hd with hd | hd
        · exact (hs b hb).2 d hd
        · obtain rfl := List.mem_singleton.mp hd
          simpa using hne
    · intro t ht
      refine hok t (fun b hb => (ht b hb).1) (fun e he => ?_)
      obtain ⟨he, hbeside⟩ := List.mem_filter.mp he
      rw [hbinding, Bool.eq_false_iff]
      intro hcovers
      refine (ht e he).2 e (List.mem_filter.mpr ⟨hexisting.mem_iff.mpr (List.mem_filter.mpr ⟨(ht e he).1, ?_⟩), ?_⟩) rfl
      · simpa using hbeside
      · rcases htype : e.base.bindingType with j | ⟨q, _ | j⟩
        · simp [htype, BindingType.covers] at hcovers
        · simp [htype, BindingType.covers] at hcovers
        · simpa [htype, BindingType.covers, eq_comm] using hcovers
  · exact hok db (fun b hb => hb) (fun e _ => by rw [hbinding]; rfl)

theorem Db.Canonical.create_binding (h : db.Canonical) {binding row : Binding} (hbase : row.base = binding.base)
    (hbeside : ∀ e ∈ db.beside binding none, Compatible binding.base.bindingType e.base.bindingType)
    (hapart : ∀ r ∈ db.bindings.rows, Apart .binding r row) :
    (db.withTable .binding (db.bindings.insert row hapart)).Canonical := by
  have hrow {e : Binding} (he : e ∈ db.bindings.rows) (hservice : e.base.serviceId = row.base.serviceId) :
      Compatible row.base.bindingType e.base.bindingType := by
    rw [hbase] at hservice ⊢
    exact hbeside e (List.mem_filter.mpr ⟨he, by simpa using hservice⟩)
  intro a ha b hb hsame hne
  rcases List.mem_append.mp ha with hold | hnew <;> rcases List.mem_append.mp hb with hold' | hnew'
  · exact h a hold b hold' hsame hne
  · obtain rfl := List.mem_singleton.mp hnew'
    exact (hrow hold hsame).symm
  · obtain rfl := List.mem_singleton.mp hnew
    exact hrow hold' hsame.symm
  · exact absurd (by rw [List.mem_singleton.mp hnew, List.mem_singleton.mp hnew']) hne

theorem Db.Canonical.update_binding (h : db.Canonical) {binding row : Binding} (hbase : row.base = binding.base)
    (hbeside : ∀ e ∈ db.beside binding (some row.id), Compatible binding.base.bindingType e.base.bindingType)
    (hapart : ∀ r ∈ (db.bindings.filter (fun r => r.id ≠ row.id)).rows, Apart .binding r row) :
    (db.withTable .binding (updated db.bindings row hapart)).Canonical := by
  have hrow {e : Binding} (he : e ∈ db.bindings.rows) (hid : e.id ≠ row.id)
      (hservice : e.base.serviceId = row.base.serviceId) : Compatible row.base.bindingType e.base.bindingType := by
    rw [hbase] at hservice ⊢
    exact hbeside e (List.mem_filter.mpr ⟨he, by simpa using ⟨hservice, Ne.symm hid⟩⟩)
  intro a ha b hb hsame hne
  rcases (mem_updated (h := hapart)).mp ha with rfl | ⟨hold, hid⟩ <;>
    rcases (mem_updated (h := hapart)).mp hb with rfl | ⟨hold', hid'⟩
  · exact absurd rfl hne
  · exact hrow hold' hid' hsame.symm
  · exact (hrow hold hid hsame).symm
  · exact h a hold b hold' hsame hne

theorem ensures_createBinding_canonical {networkIds : List Uuid} {binding : Binding} (hdb : db.Canonical)
    (htidy : BindingCall.Tidy db (.createBinding networkIds binding)) :
    Ensures dbStep may (fun _ t => t.Canonical) (BindingHandlers.createBinding networkIds binding) db := by
  apply Ensures.bind
  refine ensures_validateNoBindingTypeConflict (fun e => hdb) (fun hclash => ?_)
  apply Ensures.bind
  refine ensures_removeSuperseded (fun e t ht => hdb.mono ht) (fun t ht hcovers => ?_)
  have ht' := hdb.mono ht
  refine (Touches.orFail (K := []) _).then (fun e u hu => hu.eq ▸ ht') (fun _ u hu => ?_)
  rw [hu.eq]
  apply ensures_crudCreate (k := .binding)
  · exact fun e => ht'
  · intro row hbase _ _ hapart _
    refine ht'.create_binding hbase (fun e he => ?_) hapart
    have hold : e ∈ db.beside binding none :=
      List.mem_filter.mpr ⟨ht e (List.mem_filter.mp he).1, (List.mem_filter.mp he).2⟩
    exact ⟨(htidy e hold).1.symm, hcovers e he, (htidy e hold).2, hclash e hold⟩

theorem ensures_updateBinding_canonical {networkIds : List Uuid} {id : Uuid} {binding : Binding} (hdb : db.Canonical)
    (htidy : BindingCall.Tidy db (.updateBinding networkIds id binding)) :
    Ensures dbStep may (fun _ t => t.Canonical) (BindingHandlers.updateBinding networkIds id binding) db := by
  apply Ensures.bind
  refine ensures_validateNoBindingTypeConflict (fun e => hdb) (fun hclash => ?_)
  apply Ensures.bind
  apply ensures_getById (k := .binding)
  · exact fun e => hdb
  · cases hfind : (db.table .binding).rows.find? (fun r => r.id = id) with
    | none => exact hdb
    | some existing =>
      refine (Touches.orFail (K := []) _).then (fun e u hu => hu.eq ▸ hdb) (fun _ u hu => ?_)
      rw [hu.eq]
      refine (Touches.orFail (K := []) _).then (fun e u hu => hu.eq ▸ hdb) (fun _ u hu => ?_)
      rw [hu.eq]
      obtain rfl := (find_id_eq_some_iff.mp hfind).2
      apply ensures_crudUpdate (k := .binding)
      · exact fun e => hdb
      · intro now hapart _ _
        have hbase : ({ binding with id := existing.id, createdAt := existing.createdAt, updatedAt := now } :
          Binding).base = binding.base := rfl
        refine hdb.update_binding hbase (fun e he => ?_) hapart
        obtain ⟨hne, hcovered, hcovers⟩ := htidy e he
        exact ⟨hne.symm, hcovers, hcovered, hclash e he⟩

theorem Db.Canonical.delete_binding (h : db.Canonical) (p : Binding → Bool) : (db.delete .binding p).Canonical :=
  h.mono (fun _ hb => (List.mem_filter.mp hb).1)

theorem ensures_deleteBinding_canonical {networkIds : List Uuid} {id : Uuid} (hdb : db.Canonical) :
    Ensures dbStep may (fun _ t => t.Canonical) (BindingHandlers.deleteBinding networkIds id) db := by
  apply Ensures.bind
  apply ensures_getById (k := .binding)
  · exact fun e => hdb
  · cases (db.table .binding).rows.find? (fun r => r.id = id) with
    | none => exact hdb
    | some existing =>
      refine (Touches.orFail (K := []) _).then (fun e u hu => hu.eq ▸ hdb) (fun _ u hu => ?_)
      rw [hu.eq]
      exact ensures_crudDelete (k := .binding) (fun e => hdb) (hdb.delete_binding _)

theorem ensures_bulkDeleteBindings_canonical {networkIds ids : List Uuid} (hdb : db.Canonical) :
    Ensures dbStep may (fun _ t => t.Canonical) (BindingHandlers.bulkDeleteBindings networkIds ids) db := by
  unfold BindingHandlers.bulkDeleteBindings
  split_ifs
  · exact hdb
  · refine (touches_getAll (K := []) .binding _).then (fun e t ht => ht.eq ▸ hdb) (fun entities t ht => ?_)
    rw [ht.eq]
    refine (Touches.forEach (K := []) (fun _ => .orFail _) _).then (fun e t ht => ht.eq ▸ hdb) (fun _ t ht => ?_)
    rw [ht.eq]
    exact ensures_deleteMany (k := .binding) (fun e => hdb) (fun _ => hdb) (hdb.delete_binding _)

theorem ensures_discard {α : Type} {p : Query α} {I : Db → Prop} (h : Ensures dbStep may (fun _ t => I t) p db) :
    Ensures dbStep may (fun _ t => I t) (p.bind (fun _ => (ret () : Query Unit))) db := by
  apply Ensures.bind
  apply h.imp
  rintro (e | a) t ht <;> exact ht

theorem ensures_call_canonical (hdb : db.Canonical) (howned : db.Owned) {call : BindingCall}
    (htidy : call.Tidy db) : Ensures dbStep may (fun _ t => t.Canonical) call.program db := by
  cases call with
  | create service =>
    apply ensures_discard
    refine ensures_serviceCreate (fun e => hdb) (fun prepared hprepared _ r t ht => ?_)
    exact ht.canonical hprepared hdb howned htidy
  | update service => exact ensures_discard (ensures_serviceUpdate_canonical hdb htidy)
  | delete id => exact ensures_serviceDelete_canonical hdb
  | createBinding networkIds binding => exact ensures_discard (ensures_createBinding_canonical hdb htidy)
  | updateBinding networkIds id binding => exact ensures_discard (ensures_updateBinding_canonical hdb htidy)
  | deleteBinding networkIds id => exact ensures_deleteBinding_canonical hdb
  | bulkDeleteBindings networkIds ids => exact ensures_bulkDeleteBindings_canonical hdb

end canonical

theorem bindings_canonical_of_tidy (db : Db) (hdb : db.Canonical) (howned : db.Owned)
    (calls : List (BindingCall × Oracle dbSig))
    (htidy : Meets bindingStep (fun db call => call.1.Tidy db) db calls) :
    (calls.foldl bindingStep db).Canonical := by
  refine (htidy.invariant (fun db => db.Canonical ∧ db.Owned) ?_ ⟨hdb, howned⟩).1
  rintro s ⟨call, ω⟩ ⟨hs, howned⟩ hcall
  exact ⟨(ensures_call_canonical hs howned hcall).run_any ω 0,
    (Ensures.invariant (I := Db.Owned) (fun _ o r h => h.dbStep o r) _ howned).run_any ω 0⟩

def onAllInterfaces : Db := webHost (.singleton (webBinding 10 (.port 4 none)))

theorem bindings_canonical_second_port :
    onAllInterfaces.Canonical ∧
    (bindingStep onAllInterfaces (.createBinding [9] (webBinding 11 (.port 5 (some 2))), granted 1)).Canonical := by
  have hdb : onAllInterfaces.Canonical := by decide
  exact ⟨hdb, bindings_canonical_of_tidy onAllInterfaces hdb (by decide)
    [(.createBinding [9] (webBinding 11 (.port 5 (some 2))), granted 1)] (by decide)⟩

theorem createBinding_beside_allInterfaces :
    onAllInterfaces.Canonical ∧ onAllInterfaces.Owned ∧
    (bindingStep onAllInterfaces (.createBinding [9] (webBinding 11 (.port 4 (some 2))), granted 1)).bindings.rows.map
      (fun b => b.base.bindingType) = [.port 4 none, .port 4 (some 2)] ∧
    ¬ (bindingStep onAllInterfaces (.createBinding [9] (webBinding 11 (.port 4 (some 2))), granted 1)).Canonical := by
  refine ⟨by decide, by decide, by decide, by decide⟩

end VantageNet.Inventory
