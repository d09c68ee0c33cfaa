import VantageNet.Inventory.Effects

/-!
`ChildCrudService` (`shared/services/traits.rs`) for the entities that leave `CrudService` as it is: interfaces and
ports of a host and bindings of a service.
-/

namespace VantageNet.Inventory

open Interaction Interaction.Program

inductive ChildKind where
  | interface
  | port
  | binding

abbrev ChildKind.kind : ChildKind → Kind
  | .interface => .interface
  | .port => .port
  | .binding => .binding

def ChildKind.parentId : (c : ChildKind) → Row c.kind → Uuid
  | .interface, (i : Interface) => i.base.hostId
  | .port, (p : Port) => p.base.hostId
  | .binding, (b : Binding) => b.base.serviceId

namespace ChildCrudService

variable (c : ChildKind)

def getForParent (parentId : Uuid) : Query (List (Row c.kind)) :=
  Storage.getAll c.kind (fun r => c.parentId r = parentId)

def saveChild (existing : List (Row c.kind)) (child : Row c.kind) : Query (Row c.kind) :=
  if child.id = Uuid.nil then do
    let id ← newV4
    Crud.create c.kind { child with id }
  else
    match existing.find? (fun e => e.id = child.id) with
    | some e => Crud.update c.kind { child with createdAt := e.createdAt }
    | none => Crud.create c.kind child

def idsToDelete (existing children : List (Row c.kind)) : List Uuid :=
  let newIds := (children.map Entity.id).filter (fun id => id ≠ Uuid.nil)
  (existing.map Entity.id).filter (fun id => !newIds.contains id)

def saveForParent (parentId : Uuid) (children : List (Row c.kind)) : Query (List (Row c.kind)) := do
  let existing ← getForParent c parentId
  when (!(idsToDelete c existing children).isEmpty) (Crud.deleteMany c.kind (idsToDelete c existing children))
  collect (saveChild c existing) children

theorem saveChild_binding (existing : List Binding) (child : Binding) :
    saveChild .binding existing child = BindingService.saveChild existing child := by
  unfold saveChild BindingService.saveChild
  split_ifs
  · rfl
  · cases existing.find? (fun e => e.id = child.id) <;> rfl

/-- What the service of the bindings does. -/
theorem saveForParent_binding (serviceId : Uuid) (children : List Binding) :
    saveForParent .binding serviceId children = BindingService.saveForParent serviceId children := by
  unfold saveForParent BindingService.saveForParent
  simp only [funext (saveChild_binding _)]
  rfl

end ChildCrudService

section tables

theorem ChildKind.columns_eq (c : ChildKind) (r : Row c.kind) : columns c.kind r = r := by
  cases c <;> rfl

theorem ChildKind.parentId_congr (c : ChildKind) {a b : Row c.kind} (h : a.base = b.base) : c.parentId a = c.parentId b := by
  cases c
  all_goals
    simp only [ChildKind.parentId]
    rw [h]

theorem ChildKind.table_withTable (c : ChildKind) (db : Db) (t : Rows c.kind) : (db.withTable c.kind t).table c.kind = t := by
  cases c <;> rfl

theorem ChildKind.mem_delete (c : ChildKind) (db : Db) (p : Row c.kind → Bool) (r : Row c.kind) :
    r ∈ ((db.delete c.kind p).table c.kind).rows ↔ r ∈ (db.table c.kind).rows ∧ p r = false := by
  cases c <;> simp [Db.delete, Db.deleteBindings, Db.table]

end tables

/-- What is stored for a child: the child itself, under a new id if it came without one, and since when it has been. -/
structure SavedChild (c : ChildKind) (drawn : Uuid → Prop) (db : Db) (parentId : Uuid) (child row : Row c.kind) : Prop where
  base : row.base = child.base
  id : child.id ≠ Uuid.nil → row.id = child.id
  drawn : child.id = Uuid.nil → drawn row.id
  createdAt : ∀ e ∈ (db.table c.kind).rows, c.parentId e = parentId → child.id ≠ Uuid.nil → e.id = child.id →
    row.createdAt = e.createdAt

/-- Where `save_for_parent` stands when `done` of the children are saved, as the rows `out`, and `rest` are to come. -/
structure ChildrenSaved (c : ChildKind) (drawn : Uuid → Prop) (db : Db) (parentId : Uuid) (done rest out : List (Row c.kind))
    (t : Db) : Prop where
  saved : List.Forall₂ (SavedChild c drawn db parentId) done out
  parent : ∀ o ∈ out, c.parentId o = parentId
  present : ∀ o ∈ out, o ∈ (t.table c.kind).rows
  distinct : out.Pairwise (fun a b => a.id ≠ b.id)
  others : ∀ r, c.parentId r ≠ parentId → (r ∈ (t.table c.kind).rows ↔ r ∈ (db.table c.kind).rows)
  own : ∀ r ∈ (t.table c.kind).rows, c.parentId r = parentId → r ∈ out ∨
    r ∈ (db.table c.kind).rows ∧ r.id ≠ Uuid.nil ∧ r.id ∈ rest.map Entity.id
  pending : ∀ e ∈ (db.table c.kind).rows, c.parentId e = parentId → e.id ≠ Uuid.nil → e.id ∈ rest.map Entity.id →
    e ∈ (t.table c.kind).rows ∧ ∀ o ∈ out, o.id ≠ e.id

section syncing

variable {c : ChildKind} {drawn : Uuid → Prop} {db t : Db} {parentId : Uuid} {done rest out : List (Row c.kind)}
  {child row : Row c.kind}

theorem ChildrenSaved.insert (h : ChildrenSaved c drawn db parentId done (child :: rest) out t)
    (hsaved : SavedChild c drawn db parentId child row) (hparent : c.parentId child = parentId)
    (hnew : ∀ e ∈ (db.table c.kind).rows, c.parentId e = parentId → e.id ≠ Uuid.nil → e.id ≠ child.id)
    (hapart : ∀ r ∈ (t.table c.kind).rows, Apart c.kind r (columns c.kind row)) :
    ChildrenSaved c drawn db parentId (done ++ [child]) rest (out ++ [row])
      (t.withTable c.kind ((t.table c.kind).insert (columns c.kind row) hapart)) := by
  have hmem (r : Row c.kind) : r ∈ ((t.withTable c.kind ((t.table c.kind).insert (columns c.kind row) hapart)).table c.kind).rows ↔
      r ∈ (t.table c.kind).rows ∨ r = row := by
    rw [c.table_withTable, Table.rows_insert, List.mem_append, List.mem_singleton, c.columns_eq]
  have hrow : c.parentId row = parentId := (c.parentId_congr hsaved.base).trans hparent
  have hfree (r : Row c.kind) (hr : r ∈ (t.table c.kind).rows) : r.id ≠ row.id := by
    have hid := (hapart r hr).1
    rwa [c.columns_eq] at hid
  constructor
  case saved => exact List.rel_append h.saved (.cons hsaved .nil)
  case parent =>
    intro o ho
    rcases List.mem_append.mp ho with ho | ho
    · exact h.parent o ho
    · exact List.mem_singleton.mp ho ▸ hrow
  case present =>
    intro o ho
    rcases List.mem_append.mp ho with ho | ho
    · exact (hmem o).mpr (.inl (h.present o ho))
    · exact (hmem o).mpr (.inr (List.mem_singleton.mp ho))
  case distinct =>
    refine List.pairwise_append.mpr ⟨h.distinct, List.pairwise_singleton _ _, fun o ho o' ho' => ?_⟩
    exact List.mem_singleton.mp ho' ▸ hfree o (h.present o ho)
  case others =>
    intro r hr
    rw [hmem, or_iff_left (fun heq : r = row => hr (heq ▸ hrow))]
    exact h.others r hr
  case own =>
    intro r hr hown
    rcases (hmem r).mp hr with hr | rfl
    · rcases h.own r hr hown with hout | ⟨hold, hnil, hid⟩
      · exact .inl (List.mem_append_left _ hout)
      · exact .inr ⟨hold, hnil, (List.mem_cons.mp hid).resolve_left (hnew r hold hown hnil)⟩
    · exact .inl (by simp)
  case pending =>
    intro e he hown hnil hid
    obtain ⟨het, hout⟩ := h.pending e he hown hnil (List.mem_cons_of_mem _ hid)
    refine ⟨(hmem e).mpr (.inl het), fun o ho => ?_⟩
    rcases List.mem_append.mp ho with ho | ho
    · exact hout o ho
    · exact List.mem_singleton.mp ho ▸ (hfree e het).symm

theorem ChildrenSaved.update (h : ChildrenSaved c drawn db parentId done (child :: rest) out t)
    (hsaved : SavedChild c drawn db parentId child row) (hparent : c.parentId child = parentId) (hnil : child.id ≠ Uuid.nil)
    (hrest : child.id ∉ rest.map Entity.id) {e : Row c.kind} (he : e ∈ (db.table c.kind).rows)
    (heparent : c.parentId e = parentId) (heid : e.id = child.id)
    (hapart : ∀ r ∈ ((t.table c.kind).filter (fun r => r.id ≠ row.id)).rows, Apart c.kind r (columns c.kind row)) :
    ChildrenSaved c drawn db parentId (done ++ [child]) rest (out ++ [row])
      (t.withTable c.kind (updated (t.table c.kind) row hapart)) := by
  have hid : row.id = child.id := hsaved.id hnil
  have hmem (r : Row c.kind) : r ∈ ((t.withTable c.kind (updated (t.table c.kind) row hapart)).table c.kind).rows ↔
      r = row ∨ r ∈ (t.table c.kind).rows ∧ r.id ≠ row.id := by
    rw [c.table_withTable, mem_updated, c.columns_eq]
  have hrow : c.parentId row = parentId := (c.parentId_congr hsaved.base).trans hparent
  -- the row that is written over has been waiting for its turn, so none of the saved ones has its id
  have hout (o : Row c.kind) (ho : o ∈ out) : o.id ≠ row.id := by
    rw [hid, ← heid]
    exact (h.pending e he heparent (heid ▸ hnil) (by simp [heid])).2 o ho
  constructor
  case saved => exact List.rel_append h.saved (.cons hsaved .nil)
  case parent =>
    intro o ho
    rcases List.mem_append.mp ho with ho | ho
    · exact h.parent o ho
    · exact List.mem_singleton.mp ho ▸ hrow
  case present =>
    intro o ho
    rcases List.mem_append.mp ho with ho | ho
    · exact (hmem o).mpr (.inr ⟨h.present o ho, hout o ho⟩)
    · exact (hmem o).mpr (.inl (List.mem_singleton.mp ho))
  case distinct =>
    refine List.pairwise_append.mpr ⟨h.distinct, List.pairwise_singleton _ _, fun o ho o' ho' => ?_⟩
    exact List.mem_singleton.mp ho' ▸ hout o ho
  case others =>
    intro r hr
    rw [hmem, or_iff_right (fun heq : r = row => hr (heq ▸ hrow)), h.others r hr, and_iff_left_iff_imp]
    intro hold heq
    apply hr
    rw [eq_of_id_eq hold he (by rw [heq, hid, heid]), heparent]
  case own =>
    intro r hr hown
    rcases (hmem r).mp hr with rfl | ⟨hr, hne⟩
    · exact .inl (by simp)
    · rcases h.own r hr hown with hout | ⟨hold, hrnil, hrid⟩
      · exact .inl (List.mem_append_left _ hout)
      · exact .inr ⟨hold, hrnil, (List.mem_cons.mp hrid).resolve_left (hid ▸ hne)⟩
  case pending =>
    intro d hd hown hdnil hdid
    obtain ⟨hdt, hdout⟩ := h.pending d hd hown hdnil (List.mem_cons_of_mem _ hdid)
    have hne : d.id ≠ row.id := fun heq => hrest (hid ▸ heq ▸ hdid)
    refine ⟨(hmem d).mpr (.inr ⟨hdt, hne⟩), fun o ho => ?_⟩
    rcases List.mem_append.mp ho with ho | ho
    · exact hdout o ho
    · exact List.mem_singleton.mp ho ▸ hne.symm

/-- The children with an id of their own have different ones. -/
def DistinctIds (children : List (Row c.kind)) : Prop :=
  children.Pairwise (fun a b => a.id ≠ Uuid.nil → a.id ≠ b.id)

variable {ω : Oracle dbSig} {existing : List (Row c.kind)}

/-- The answers of the environment: a new id is one that it draws. -/
def drawnBy (ω : Oracle dbSig) (id : Uuid) : Prop := ∃ n, id = ω n .newV4

def draws (drawn : Uuid → Prop) (_ : Db) : (o : DbOp) → o.Reply → Prop
  | .newV4, id => drawn id
  | _, _ => True

theorem ChildrenSaved.saveChild (h : ChildrenSaved c drawn db parentId done (child :: rest) out t) (hparent : c.parentId child = parentId)
    (hrest : child.id ≠ Uuid.nil → child.id ∉ rest.map Entity.id)
    (hexisting : existing.Perm ((db.table c.kind).rows.filter (fun r => c.parentId r = parentId))) :
    Returns dbStep (draws drawn) (fun row u => ChildrenSaved c drawn db parentId (done ++ [child]) rest (out ++ [row]) u)
      (ChildCrudService.saveChild c existing child) t := by
  have hmem (r : Row c.kind) : r ∈ existing ↔ r ∈ (db.table c.kind).rows ∧ c.parentId r = parentId := by
    rw [hexisting.mem_iff, List.mem_filter, decide_eq_true_eq]
  unfold ChildCrudService.saveChild
  by_cases hnil : child.id = Uuid.nil
  · rw [if_pos hnil]
    intro id hid
    apply ensures_crudCreate (fun e a h => (nomatch h))
    rintro row hbase hrow hdrawn hapart - _ ⟨⟩
    refine h.insert ⟨hbase, fun hne => absurd hnil hne, fun _ => ?_, fun _ _ _ hne => absurd hnil hne⟩ hparent
      (fun e _ _ hne => hnil ▸ hne) hapart
    by_cases hidnil : id = Uuid.nil
    · exact hdrawn hidnil
    · rw [hrow hidnil]
      exact hid
  · rw [if_neg hnil]
    cases hfind : existing.find? (fun e => e.id = child.id) with
    | some e =>
      obtain ⟨he, heparent⟩ := (hmem e).mp (List.mem_of_find?_eq_some hfind)
      have heid : e.id = child.id := by simpa using List.find?_some hfind
      apply ensures_crudUpdate (fun e a h => (nomatch h))
      rintro now hapart - - _ ⟨⟩
      have hsaved : SavedChild c drawn db parentId child { child with createdAt := e.createdAt, updatedAt := now } := by
        refine ⟨rfl, fun _ => rfl, fun h => absurd h hnil, fun e' he' _ _ hid => ?_⟩
        rw [eq_of_id_eq he' he (hid.trans heid.symm)]
      exact h.update hsaved hparent hnil (hrest hnil) he heparent heid hapart
    | none =>
      have hnew (e : Row c.kind) (he : e ∈ (db.table c.kind).rows) (heparent : c.parentId e = parentId) : e.id ≠ child.id := by
        simpa using List.find?_eq_none.mp hfind e ((hmem e).mpr ⟨he, heparent⟩)
      apply ensures_crudCreate (fun e a h => (nomatch h))
      rintro row hbase hrow - hapart - _ ⟨⟩
      obtain rfl := hrow hnil
      exact h.insert ⟨rfl, fun _ => rfl, fun h => absurd h hnil, fun e he heparent _ hid => absurd hid (hnew e he heparent)⟩
        hparent (fun e he heparent _ => hnew e he heparent) hapart

theorem mem_childIdsToDelete {existing children : List (Row c.kind)} {id : Uuid} :
    id ∈ ChildCrudService.idsToDelete c existing children ↔
      (∃ e ∈ existing, e.id = id) ∧ ¬ (id ≠ Uuid.nil ∧ id ∈ children.map Entity.id) := by
  simp only [ChildCrudService.idsToDelete, List.mem_filter, List.mem_map, Bool.not_eq_true', ← Bool.not_eq_true,
    List.contains_iff_mem, decide_eq_true_eq, and_comm]

/-- Before the first child is saved, those rows of the parent are gone that no child has the id of. -/
theorem ChildrenSaved.start {children : List (Row c.kind)}
    (hexisting : existing.Perm ((db.table c.kind).rows.filter (fun r => c.parentId r = parentId)))
    (hmem : ∀ r, r ∈ (t.table c.kind).rows ↔
      r ∈ (db.table c.kind).rows ∧ r.id ∉ ChildCrudService.idsToDelete c existing children) :
    ChildrenSaved c drawn db parentId [] children [] t := by
  have hexists (r : Row c.kind) : r ∈ existing ↔ r ∈ (db.table c.kind).rows ∧ c.parentId r = parentId := by
    rw [hexisting.mem_iff, List.mem_filter, decide_eq_true_eq]
  constructor
  case saved => exact .nil
  case parent => exact fun o ho => (nomatch ho)
  case present => exact fun o ho => (nomatch ho)
  case distinct => exact .nil
  case others =>
    intro r hr
    rw [hmem, and_iff_left_iff_imp]
    intro hold hgone
    obtain ⟨⟨e, he, hid⟩, -⟩ := mem_childIdsToDelete.mp hgone
    obtain ⟨hedb, heparent⟩ := (hexists e).mp he
    exact hr (eq_of_id_eq hedb hold hid ▸ heparent)
  case own =>
    intro r hr hown
    obtain ⟨hold, hkept⟩ := (hmem r).mp hr
    have hlisted : r.id ≠ Uuid.nil ∧ r.id ∈ children.map Entity.id := by
      by_contra hnot
      exact hkept (mem_childIdsToDelete.mpr ⟨⟨r, (hexists r).mpr ⟨hold, hown⟩, rfl⟩, hnot⟩)
    exact .inr ⟨hold, hlisted⟩
  case pending =>
    intro e he _ hnil hid
    exact ⟨(hmem e).mpr ⟨he, fun hgone => (mem_childIdsToDelete.mp hgone).2 ⟨hnil, hid⟩⟩, fun o ho => (nomatch ho)⟩

theorem returns_saveForParent {children : List (Row c.kind)} (hparent : ∀ child ∈ children, c.parentId child = parentId)
    (hdistinct : DistinctIds children) :
    Returns dbStep (draws drawn) (fun saved t => ChildrenSaved c drawn db parentId children [] saved t)
      (ChildCrudService.saveForParent c parentId children) db := by
  apply Ensures.bind
  refine ensures_getAll (fun e a h => (nomatch h)) (fun existing hexisting _ => ?_)
  have hloop (u : Db) (hu : ChildrenSaved c drawn db parentId [] children [] u) :
      Returns dbStep (draws drawn) (fun saved t => ChildrenSaved c drawn db parentId children [] saved t)
        (collect (ChildCrudService.saveChild c existing) children) u := by
    apply Returns.imp (q := fun out t => ∀ rest, children = children ++ rest → ChildrenSaved c drawn db parentId children rest out t)
    · refine Returns.collect (fun done out t => ∀ rest, children = done ++ rest → ChildrenSaved c drawn db parentId done rest out t) _
        (fun done child rest hrest out v hv => ?_) (fun rest hrest => ?_)
      · have hpairwise := List.pairwise_append.mp (hrest ▸ hdistinct)
        have hlater := (List.pairwise_cons.mp hpairwise.2.1).1
        apply Returns.imp ((hv _ hrest).saveChild (hparent child (by simp [hrest])) (fun hnil hmem => ?_) hexisting)
        · intro row w hw rest' hrest'
          have heq : rest = rest' := by
            rw [hrest, List.append_assoc, List.append_cancel_left_eq] at hrest'
            exact List.cons.inj hrest' |>.2
          exact heq ▸ hw
        · obtain ⟨d, hd, hid⟩ := List.mem_map.mp hmem
          exact hlater d hd hnil hid.symm
      · obtain rfl : children = rest := hrest
        exact hu
    · exact fun out t h => h [] (List.append_nil children).symm
  apply Ensures.bind
  cases hnone : (ChildCrudService.idsToDelete c existing children).isEmpty with
  | true =>
    apply hloop
    apply ChildrenSaved.start hexisting
    simp [List.isEmpty_iff.mp hnone]
  | false =>
    refine ensures_deleteMany (fun e a h => (nomatch h)) (fun h => ?_) ?_
    · rw [h] at hnone
      cases hnone
    · apply hloop
      apply ChildrenSaved.start hexisting
      intro r
      rw [c.mem_delete, List.contains_eq_mem, decide_eq_false_iff_not]

end syncing

/-- The stored children of the parent become the given ones: those that were stored keep their id and since when they are,
those without an id are given a new one, and what other parents have stays. -/
theorem children_synchronised (c : ChildKind) (ω : Oracle dbSig) (n : ℕ) (db : Db) (parentId : Uuid)
    (children : List (Row c.kind)) (hparent : ∀ child ∈ children, c.parentId child = parentId)
    (hdistinct : DistinctIds children) {saved : List (Row c.kind)}
    (h : (run dbStep ω n (ChildCrudService.saveForParent c parentId children) db).result = .ok saved) :
    let t := (run dbStep ω n (ChildCrudService.saveForParent c parentId children) db).state
    List.Forall₂ (SavedChild c (drawnBy ω) db parentId) children saved ∧ (saved.map Entity.id).Nodup ∧
      (∀ r, r ∈ saved ↔ r ∈ (t.table c.kind).rows ∧ c.parentId r = parentId) ∧
      ∀ r, c.parentId r ≠ parentId → (r ∈ (t.table c.kind).rows ↔ r ∈ (db.table c.kind).rows) := by
  have hanswers : ∀ s n i, draws (drawnBy ω) s i (ω n i) := by
    intro s n i
    cases i
    case newV4 => exact ⟨n, rfl⟩
    all_goals trivial
  have hreturns : Returns dbStep (draws (drawnBy ω)) (fun saved t => ChildrenSaved c (drawnBy ω) db parentId children [] saved t)
      (ChildCrudService.saveForParent c parentId children) db := returns_saveForParent hparent hdistinct
  have hsynced := hreturns.run (answered_of_forall hanswers n _ db) h
  refine ⟨hsynced.saved, List.pairwise_map.mpr hsynced.distinct, fun r => ⟨fun hr => ⟨hsynced.present r hr, hsynced.parent r hr⟩,
    fun ⟨hr, hown⟩ => ?_⟩, hsynced.others⟩
  exact (hsynced.own r hr hown).resolve_right (fun ⟨_, _, hid⟩ => (nomatch hid))

def webBindings : Rows .binding :=
  ⟨[webBinding 10 (.port 4 (some 2)), webBinding 11 (.port 5 none), ⟨12, 0, 0, ⟨20, 9, .interface 3⟩⟩], by decide⟩

/-- Of two bindings of the service one is moved to all interfaces, one is dropped, and a new one is put before them. -/
theorem bindings_synchronised :
    let children := [webBinding 0 (.interface 3), webBinding 10 (.port 4 none)]
    let saved : List Binding := [webBinding 1003 (.interface 3), { webBinding 10 (.port 4 none) with updatedAt := 7 }]
    let t := (run dbStep (granted 7) 0 (ChildCrudService.saveForParent .binding 6 children) (webHost webBindings)).state
    List.Forall₂ (SavedChild .binding (drawnBy (granted 7)) (webHost webBindings) 6) children saved ∧
      ∀ b : Binding, b ∈ saved ↔ b ∈ t.bindings.rows ∧ b.base.serviceId = 6 := by
  intro children saved t
  have hsaved : (run dbStep (granted 7) 0 (ChildCrudService.saveForParent .binding 6 children) (webHost webBindings)).result =
      .ok saved := by decide +kernel
  have hparent : ∀ child ∈ children, ChildKind.binding.parentId child = 6 := by decide
  have hdistinct : DistinctIds (c := .binding) children := by
    unfold DistinctIds
    decide
  obtain ⟨hchildren, -, hstored, -⟩ := children_synchronised .binding (granted 7) 0 (webHost webBindings) 6 children hparent
    hdistinct hsaved
  exact ⟨hchildren, hstored⟩

end VantageNet.Inventory
