import VantageNet.Inventory.Effects
import VantageNet.Inventory.Requests

/-!
The endpoint that creates a binding: it deletes the bindings that the new one supersedes
before it checks who asks for it and whether the new one can be stored.
-/

namespace VantageNet.Inventory

open Interaction Interaction.Program

/-- A binding to one interface that gives way to a binding of the same port to all interfaces. -/
def supersedes (new b : Binding) : Bool :=
  match new.base.bindingType, b.base.bindingType with
  | .port portId none, .port existingPort (some _) => existingPort = portId
  | _, _ => false

/-- The bindings of the service, as the database answers at this moment. -/
def Db.listed (db : Db) (ω : Oracle dbSig) (n : ℕ) (serviceId : Uuid) : Except Error (List Binding) :=
  (ω n (.list .binding (fun b : Binding => b.base.serviceId = serviceId) (fun b : Binding => b.createdAt))).map
    (fun proposed => arrange (fun b : Binding => b.createdAt)
      (db.bindings.rows.filter (fun b : Binding => b.base.serviceId = serviceId)) proposed)

/-- What a request that meets no conflict is to delete. -/
def removals (db : Db) (ω : Oracle dbSig) (new : Binding) : List Binding :=
  match db.listed ω 0 new.base.serviceId, db.listed ω 1 new.base.serviceId with
  | .ok existing, .ok again =>
    if (validateBindingNoConflict new.base.bindingType existing).isNone then again.filter (supersedes new) else []
  | _, _ => []

/-- The database carries out the first deletion. -/
def begun (ω : Oracle dbSig) (n : ℕ) : List Binding → Bool
  | [] => false
  | b :: _ => Except.toBool (ω n (.get .binding b.id)) &&
      Except.toBool (ω (n + 1) (.delete .binding (fun r : Binding => r.id = b.id)))

/-- The database carries out all of them. -/
def carried (ω : Oracle dbSig) (n : ℕ) : List Binding → Bool
  | [] => true
  | b :: rest => begun ω n (b :: rest) && carried ω (n + 2) rest

/-- The row that is to be created, and when. -/
def toCreate (ω : Oracle dbSig) (n : ℕ) (new : Binding) : Binding × ℕ :=
  if new.id = Uuid.nil then (⟨ω (n + 1) .newV4, ω n .utcNow, ω n .utcNow, new.base⟩, n + 2) else (new, n)

/-- Nothing is in the way of the new row once the others are gone. -/
def Replaceable (db : Db) (ω : Oracle dbSig) (n : ℕ) (gone : List Binding) (new : Binding) : Prop :=
  (∀ b ∈ db.bindings.rows, b ∈ gone ∨ b.id ≠ (toCreate ω n new).1.id) ∧
    db.refers .binding (toCreate ω n new).1 = true ∧
    Except.toBool (ω (toCreate ω n new).2 (.create .binding (toCreate ω n new).1)) = true

/-- Nothing is superseded, or no deletion gets through, or the service and the new binding are in networks of the caller
and everything from the first deletion on succeeds. -/
def Unharmed (networkIds : List Uuid) (db : Db) (ω : Oracle dbSig) (new : Binding) : Prop :=
  begun ω 2 (removals db ω new) = false ∨
    (∃ s : Service, s ∈ db.services.rows ∧ s.id = new.base.serviceId ∧ s.base.networkId ∈ networkIds) ∧
      new.base.networkId ∈ networkIds ∧ carried ω 2 (removals db ω new) = true ∧
      Replaceable db ω (2 + 2 * (removals db ω new).length) (removals db ω new) new

/-- Only bindings of services in the caller's networks are gone, and none is when the request fails. -/
def Contained {α : Type} (networkIds : List Uuid) (db : Db) (o : Outcome Error α Db) : Prop :=
  (∀ b : Binding, b ∈ db.bindings.rows → b ∈ o.state.bindings.rows ∨
    ∃ s : Service, s ∈ db.services.rows ∧ s.id = b.base.serviceId ∧ s.base.networkId ∈ networkIds) ∧
  ∀ e, o.result = .error e → ∀ b ∈ db.bindings.rows, b ∈ o.state.bindings.rows

section deletions

variable {ω : Oracle dbSig} {n : ℕ} {s : Db}

/-- The bindings of these ids are gone, and nothing else but memberships in groups. -/
structure Without (s t : Db) (gone : List Binding) : Prop where
  mem : ∀ r : Binding, r ∈ t.bindings.rows ↔ r ∈ s.bindings.rows ∧ ∀ b ∈ gone, r.id ≠ b.id
  rest : s.SameBut [.binding, .groupBinding] t

theorem Without.nil (s : Db) : Without s s [] := ⟨fun r => by simp, .refl _ s⟩

theorem without_delete (s : Db) (b : Binding) : Without s (s.delete .binding (fun r : Binding => r.id = b.id)) [b] := by
  refine ⟨fun r => ?_, sameBut_delete s .binding _⟩
  change r ∈ s.bindings.rows.filter (fun r => !decide (r.id = b.id)) ↔ _
  simp

theorem Without.cons {s t u : Db} {b : Binding} {gone : List Binding} (h : Without s t [b]) (h' : Without t u gone) :
    Without s u (b :: gone) := by
  refine ⟨fun r => ?_, h.rest.trans h'.rest⟩
  rw [h'.mem, h.mem]
  simp [and_assoc]

theorem run_orFail {α : Type} (r : Except Error α) : run dbStep ω n (orFail r) s = ⟨r, n, s⟩ := by
  cases r <;> rfl

theorem run_getById (k : Kind) (id : Uuid) : run dbStep ω n (Storage.getById k id) s =
    ⟨(ω n (.get k id)).map (fun _ => (s.table k).rows.find? (fun r => r.id = id)), n + 1, s⟩ := run_orFail _

theorem run_deleteWhere (k : Kind) (p : Row k → Bool) : run dbStep ω n (Storage.deleteWhere k p) s =
    ⟨(dbStep (.delete k p) (ω n (.delete k p)) s).1, n + 1, (dbStep (.delete k p) (ω n (.delete k p)) s).2⟩ := run_orFail _

/-- One deletion of a stored row. -/
theorem run_crudDelete {b : Binding} (hb : b ∈ s.bindings.rows) :
    (begun ω n [b] = true → run dbStep ω n (Crud.delete .binding b.id) s =
      ⟨.ok (), n + 2, s.delete .binding (fun r : Binding => r.id = b.id)⟩) ∧
    (begun ω n [b] = false → ∃ e m, run dbStep ω n (Crud.delete .binding b.id) s = ⟨.error e, m, s⟩) := by
  have hfind : (s.table .binding).rows.find? (fun r => r.id = b.id) = some b := find_id_eq_some_iff.mpr ⟨hb, rfl⟩
  have hbegun : begun ω n [b] = (Except.toBool (ω n (.get .binding b.id)) &&
      Except.toBool (ω (n + 1) (.delete .binding (fun r : Binding => r.id = b.id)))) := rfl
  unfold Crud.delete
  rw [hbegun, bind_eq, run_bind, run_getById, hfind]
  rcases (ω n (.get .binding b.id) : Except Error (Option Binding)) with e | x
  · exact ⟨fun h => absurd h Bool.false_ne_true, fun _ => ⟨e, n + 1, rfl⟩⟩
  · change (_ → run dbStep ω (n + 1) (Storage.deleteWhere .binding (fun r : Binding => r.id = b.id)) s = _) ∧
      (_ → ∃ e m, run dbStep ω (n + 1) (Storage.deleteWhere .binding (fun r : Binding => r.id = b.id)) s = _)
    rw [run_deleteWhere]
    rcases (ω (n + 1) (.delete .binding (fun r : Binding => r.id = b.id)) : Except Error Unit) with e | y
    · exact ⟨fun h => absurd h Bool.false_ne_true, fun _ => ⟨e, n + 2, rfl⟩⟩
    · exact ⟨fun _ => rfl, fun h => absurd h.symm Bool.false_ne_true⟩

/-- The deletions end with all of them carried out, or at the first that is not. -/
theorem run_removeEach (bs : List Binding) : ∀ (n : ℕ) (s : Db), (∀ b ∈ bs, b ∈ s.bindings.rows) →
    bs.Pairwise (fun a b => a.id ≠ b.id) →
    ∃ gone, gone <+: bs ∧ (begun ω n bs = false → gone = []) ∧ (begun ω n bs = true → gone ≠ []) ∧
      Without s (run dbStep ω n (forEach (fun b : Binding => Crud.delete .binding b.id) bs) s).state gone ∧
      (carried ω n bs = true → gone = bs ∧
        (run dbStep ω n (forEach (fun b : Binding => Crud.delete .binding b.id) bs) s).result = .ok () ∧
        (run dbStep ω n (forEach (fun b : Binding => Crud.delete .binding b.id) bs) s).time = n + 2 * bs.length) ∧
      (carried ω n bs = false →
        ∃ e, (run dbStep ω n (forEach (fun b : Binding => Crud.delete .binding b.id) bs) s).result = .error e) := by
  induction bs with
  | nil => exact fun n s _ _ => ⟨[], List.prefix_refl _, fun _ => rfl, fun h => (by cases h), Without.nil s, fun _ => ⟨rfl, rfl, rfl⟩, fun h => (by cases h)⟩
  | cons b rest ih =>
    intro n s hmem hdistinct
    obtain ⟨hdelete, hfails⟩ := run_crudDelete (ω := ω) (n := n) (hmem b List.mem_cons_self)
    obtain ⟨hapart, hdistinct⟩ := List.pairwise_cons.mp hdistinct
    rw [forEach, run_bind]
    cases hbegun : begun ω n (b :: rest) with
    | false =>
      obtain ⟨e, m, hrun⟩ := hfails hbegun
      rw [hrun]
      refine ⟨[], List.nil_prefix, fun _ => rfl, fun h => (by cases h), Without.nil s, fun h => ?_, fun _ => ⟨e, rfl⟩⟩
      rw [carried, hbegun] at h
      cases h
    | true =>
      rw [hdelete hbegun]
      have hwithout := without_delete s b
      obtain ⟨gone, hprefix, -, -, hgone, hall, hsome⟩ := ih (n + 2) (s.delete .binding (fun r : Binding => r.id = b.id))
        (fun c hc => (hwithout.mem c).mpr ⟨hmem c (List.mem_cons_of_mem b hc), fun d hd => by
          rw [List.mem_singleton.mp hd]
          exact (hapart c hc).symm⟩) hdistinct
      refine ⟨b :: gone, ?_, fun h => (by cases h), fun _ => List.cons_ne_nil _ _, hwithout.cons hgone, fun h => ?_, fun h => ?_⟩
      · exact List.cons_prefix_cons.mpr ⟨rfl, hprefix⟩
      · rw [carried, hbegun, Bool.true_and] at h
        obtain ⟨rfl, hresult, htime⟩ := hall h
        refine ⟨rfl, hresult, htime.trans ?_⟩
        rw [List.length_cons]
        omega
      · rw [carried, hbegun, Bool.true_and] at h
        exact hsome h

end deletions

section creation

variable {ω : Oracle dbSig} {n : ℕ} {db s : Db} {networkIds : List Uuid} {new : Binding}

/-- What `create_handler` does once the superseded bindings are gone. -/
def accept (networkIds : List Uuid) (new : Binding) : Query Binding :=
  (orFail (BindingHandlers.validateAccess networkIds new.base.networkId)).bind (fun _ => Crud.create .binding new)

theorem run_crudCreate (new : Binding) : run dbStep ω n (Crud.create .binding new) s =
    run dbStep ω (toCreate ω n new).2 (Storage.create .binding (toCreate ω n new).1) s := by
  unfold Crud.create toCreate
  split_ifs <;> rfl

theorem run_storageCreate (row : Binding) : ∃ m, run dbStep ω n (Storage.create .binding row) s =
    ⟨(s.create .binding row (ω n (.create .binding row))).1.map (fun _ => row), m,
      (s.create .binding row (ω n (.create .binding row))).2⟩ := by
  refine ⟨n + 1, ?_⟩
  change run dbStep ω (n + 1) ((orFail (s.create .binding row (ω n (.create .binding row))).1).bind (fun _ => ret row))
    (s.create .binding row (ω n (.create .binding row))).2 = _
  cases (s.create .binding row (ω n (.create .binding row))).1 <;> rfl

/-- Nothing is in the way of the new row in this state. -/
def Creatable (s : Db) (ω : Oracle dbSig) (n : ℕ) (new : Binding) : Prop :=
  (∀ b ∈ s.bindings.rows, b.id ≠ (toCreate ω n new).1.id) ∧ s.refers .binding (toCreate ω n new).1 = true ∧
    Except.toBool (ω (toCreate ω n new).2 (.create .binding (toCreate ω n new).1)) = true

theorem base_toCreate (ω : Oracle dbSig) (n : ℕ) (new : Binding) : (toCreate ω n new).1.base = new.base := by
  unfold toCreate
  split_ifs <;> rfl

/-- The new row is added, or the request fails with nothing changed. -/
theorem run_accept (networkIds : List Uuid) (new : Binding) (n : ℕ) (s : Db) :
    (new.base.networkId ∈ networkIds ∧ Creatable s ω n new ∧
      (∃ row, (run dbStep ω n (accept networkIds new) s).result = .ok row) ∧
      (run dbStep ω n (accept networkIds new) s).state.bindings.rows = s.bindings.rows ++ [(toCreate ω n new).1]) ∨
    (¬ (new.base.networkId ∈ networkIds ∧ Creatable s ω n new) ∧
      (∃ e, (run dbStep ω n (accept networkIds new) s).result = .error e) ∧
      (run dbStep ω n (accept networkIds new) s).state = s) := by
  unfold accept BindingHandlers.validateAccess
  by_cases hnetwork : new.base.networkId ∈ networkIds
  · rw [if_pos (List.contains_iff_mem.mpr hnetwork), orFail_ok, ret_bind, run_crudCreate]
    obtain ⟨m, hcreate⟩ := run_storageCreate (ω := ω) (n := (toCreate ω n new).2) (s := s) (toCreate ω n new).1
    rw [hcreate]
    unfold Creatable
    rcases (ω (toCreate ω n new).2 (.create .binding (toCreate ω n new).1) : Except Error Unit) with e | x
    · exact .inr ⟨fun h => absurd h.2.2.2 Bool.false_ne_true, ⟨e, rfl⟩, rfl⟩
    · unfold Db.create
      dsimp only
      split_ifs with hapart hrefers
      · exact .inl ⟨hnetwork, ⟨fun b hb => (hapart b hb).1, hrefers, rfl⟩, ⟨_, rfl⟩, rfl⟩
      · exact .inr ⟨fun h => hrefers h.2.2.1, ⟨_, rfl⟩, rfl⟩
      · exact .inr ⟨fun h => hapart (fun r hr => ⟨h.2.1 r hr, rfl⟩), ⟨_, rfl⟩, rfl⟩
  · rw [if_neg (fun h => hnetwork (List.contains_iff_mem.mp h))]
    exact .inr ⟨fun h => hnetwork h.1, ⟨_, rfl⟩, rfl⟩

theorem replaceable_iff {gone : List Binding} (h : Without db s gone) (hgone : ∀ b ∈ gone, b ∈ db.bindings.rows) :
    Replaceable db ω n gone new ↔ Creatable s ω n new := by
  have hrefers (row : Binding) : s.refers .binding row = db.refers .binding row := by
    have htable (k : Kind) (hk : k ∉ [Kind.binding, Kind.groupBinding]) (id : Uuid) : s.has k id = db.has k id := by
      unfold Db.has
      rw [h.rest k hk]
    have hoptional (k : Kind) (hk : k ∉ [Kind.binding, Kind.groupBinding]) (id : Option Uuid) :
        s.hasOptional k id = db.hasOptional k id := by
      cases id with
      | none => rfl
      | some id => exact htable k hk id
    simp only [Db.refers, htable .service (by decide), hoptional .interface (by decide), hoptional .port (by decide)]
  unfold Replaceable Creatable
  rw [hrefers]
  refine and_congr_left (fun _ => ⟨fun hids b hb => ?_, fun hids b hb => ?_⟩)
  · obtain ⟨hb, hnot⟩ := (h.mem b).mp hb
    exact (hids b hb).resolve_left (fun hmem => hnot b hmem rfl)
  · by_cases hmem : b ∈ gone
    · exact .inl hmem
    · refine .inr (hids b ((h.mem b).mpr ⟨hb, fun c hc hid => hmem ?_⟩))
      rwa [eq_of_id_eq (k := .binding) hb (hgone c hc) hid]

/-- What is to be deleted are the superseded ones among the listed bindings of the service. -/
theorem removals_cases (db : Db) (ω : Oracle dbSig) (new : Binding) : removals db ω new = [] ∨
    ∃ proposed, removals db ω new = (arrange (fun b : Binding => b.createdAt)
      (db.bindings.rows.filter (fun b : Binding => b.base.serviceId = new.base.serviceId)) proposed).filter (supersedes new) := by
  unfold removals
  rcases db.listed ω 0 new.base.serviceId with e | existing
  · exact .inl rfl
  · rcases hagain : db.listed ω 1 new.base.serviceId with e | again
    · exact .inl rfl
    · dsimp only
      split_ifs
      · unfold Db.listed at hagain
        cases hω : ω 1 (.list .binding (fun b : Binding => b.base.serviceId = new.base.serviceId) (fun b : Binding => b.createdAt)) with
        | error e =>
          rw [hω] at hagain
          cases hagain
        | ok proposed =>
          rw [hω] at hagain
          cases hagain
          exact .inr ⟨proposed, rfl⟩
      · exact .inl rfl

theorem mem_removals {b : Binding} (hb : b ∈ removals db ω new) :
    b ∈ db.bindings.rows ∧ b.base.serviceId = new.base.serviceId ∧ supersedes new b = true := by
  rcases removals_cases db ω new with hnil | ⟨proposed, heq⟩
  · rw [hnil] at hb
    cases hb
  · rw [heq] at hb
    obtain ⟨hb, hsupersedes⟩ := List.mem_filter.mp hb
    obtain ⟨hstored, hservice⟩ := List.mem_filter.mp ((arrange_perm _ _ _).mem_iff.mp hb)
    exact ⟨hstored, of_decide_eq_true hservice, hsupersedes⟩

theorem removals_distinct (db : Db) (ω : Oracle dbSig) (new : Binding) :
    (removals db ω new).Pairwise (fun a b => a.id ≠ b.id) := by
  rcases removals_cases db ω new with hnil | ⟨proposed, heq⟩
  · rw [hnil]
    exact .nil
  · rw [heq]
    have hrows : db.bindings.rows.Pairwise (fun a b => a.id ≠ b.id) := db.bindings.pairwise.imp (fun h => h.1)
    exact ((arrange_perm _ _ _).pairwise_iff (fun h => h.symm) |>.mpr (hrows.filter _)).filter _

theorem removeSuperseded_eq {portId : Uuid} (htype : new.base.bindingType = .port portId none) :
    BindingHandlers.removeSuperseded new =
      (Storage.getAll .binding (fun b : Binding => b.base.serviceId = new.base.serviceId)).bind (fun existing =>
        forEach (fun b : Binding => Crud.delete .binding b.id) (existing.filter (supersedes new))) := by
  unfold BindingHandlers.removeSuperseded
  rw [htype]
  simp only [bind_eq]
  congr 1
  funext existing
  congr 2
  funext b
  unfold supersedes
  rw [htype]
  rcases b.base.bindingType with _ | ⟨_, _ | _⟩ <;> rfl

/-- The request fails before it deletes anything, or deletes what it is to delete and goes on. -/
theorem run_createBinding (networkIds : List Uuid) (db : Db) (ω : Oracle dbSig) (new : Binding) :
    (begun ω 2 (removals db ω new) = false ∧
      (run dbStep ω 0 (BindingHandlers.createBinding networkIds new) db).state = db) ∨
    (removals db ω new = [] ∧ run dbStep ω 0 (BindingHandlers.createBinding networkIds new) db =
      run dbStep ω 1 (accept networkIds new) db) ∨
    run dbStep ω 0 (BindingHandlers.createBinding networkIds new) db = run dbStep ω 2
      ((forEach (fun b : Binding => Crud.delete .binding b.id) (removals db ω new)).bind (fun _ => accept networkIds new)) db := by
  have hlist (n : ℕ) : run dbStep ω n (Storage.getAll .binding (fun b : Binding => b.base.serviceId = new.base.serviceId)) db =
      ⟨db.listed ω n new.base.serviceId, n + 1, db⟩ := run_orFail _
  have hcreate : BindingHandlers.createBinding networkIds new = (BindingHandlers.validateNoBindingTypeConflict new none).bind
      (fun _ => (BindingHandlers.removeSuperseded new).bind (fun _ => accept networkIds new)) := rfl
  have hkept (existing : List Binding) : existing.filter (fun b => (none : Option Uuid) ≠ some b.id) = existing :=
    List.filter_eq_self.mpr (by simp)
  have hnone (hnot : ∀ b, supersedes new b = false) : removals db ω new = [] := by
    refine List.eq_nil_iff_forall_not_mem.mpr (fun b hb => ?_)
    have hsupersedes := (mem_removals hb).2.2
    rw [hnot b] at hsupersedes
    cases hsupersedes
  rw [hcreate, run_bind, BindingHandlers.validateNoBindingTypeConflict, bind_eq, run_bind, hlist]
  rcases hfirst : db.listed ω 0 new.base.serviceId with e | existing
  · refine .inl ⟨?_, rfl⟩
    simp [removals, hfirst, begun]
  · dsimp only
    rw [hkept]
    cases hconflict : validateBindingNoConflict new.base.bindingType existing with
    | some message =>
      refine .inl ⟨?_, rfl⟩
      cases hagain : db.listed ω 1 new.base.serviceId <;> simp [removals, hfirst, hagain, hconflict, begun]
    | none =>
      simp only [pure_eq, run_ret]
      cases htype : new.base.bindingType with
      | interface interfaceId =>
        refine .inr (.inl ⟨hnone (fun b => by simp [supersedes, htype]), ?_⟩)
        unfold BindingHandlers.removeSuperseded
        rw [htype]
        rfl
      | port portId interfaceId =>
        cases interfaceId with
        | some interfaceId =>
          refine .inr (.inl ⟨hnone (fun b => by simp [supersedes, htype]), ?_⟩)
          unfold BindingHandlers.removeSuperseded
          rw [htype]
          rfl
        | none =>
          rw [removeSuperseded_eq htype, Program.bind_assoc, run_bind, hlist]
          rcases hagain : db.listed ω 1 new.base.serviceId with e | again
          · exact .inl ⟨by simp [removals, hfirst, hagain, begun], rfl⟩
          · have hremovals : removals db ω new = again.filter (supersedes new) := by
              simp [removals, hfirst, hagain, hconflict]
            rw [hremovals]
            exact .inr (.inr rfl)

/-- A binding that was to be deleted and is gone does not come back as the new one. -/
theorem not_mem_accept {b : Binding} (hb : b ∉ s.bindings.rows) (hsupersedes : supersedes new b = true) :
    b ∉ (run dbStep ω n (accept networkIds new) s).state.bindings.rows := by
  rcases run_accept networkIds new n s with ⟨-, -, -, hrows⟩ | ⟨-, -, hstate⟩
  · rw [hrows]
    intro hmem
    rcases List.mem_append.mp hmem with hmem | hmem
    · exact hb hmem
    · have hbase : b.base = new.base := by rw [List.mem_singleton.mp hmem, base_toCreate]
      unfold supersedes at hsupersedes
      rw [hbase] at hsupersedes
      revert hsupersedes
      generalize new.base.bindingType = type
      rcases type with _ | ⟨_, _ | _⟩ <;> simp
  · rwa [hstate]

theorem mem_accept {b : Binding} (hb : b ∈ s.bindings.rows) :
    b ∈ (run dbStep ω n (accept networkIds new) s).state.bindings.rows := by
  rcases run_accept networkIds new n s with ⟨-, -, -, hrows⟩ | ⟨-, -, hstate⟩
  · rw [hrows]
    exact List.mem_append_left _ hb
  · rwa [hstate]

theorem contained_deleting (networkIds : List Uuid) (db : Db) (ω : Oracle dbSig) (new : Binding) :
    Contained networkIds db (run dbStep ω 2
      ((forEach (fun b : Binding => Crud.delete .binding b.id) (removals db ω new)).bind (fun _ => accept networkIds new)) db) ↔
      Unharmed networkIds db ω new := by
  obtain ⟨gone, hprefix, hnone, hsome, hwithout, hall, hfails⟩ := run_removeEach (ω := ω) (removals db ω new) 2 db
    (fun b hb => (mem_removals hb).1) (removals_distinct db ω new)
  have hgone (b : Binding) (hb : b ∈ gone) : b ∈ removals db ω new := hprefix.subset hb
  rw [run_bind]
  rcases hloop : run dbStep ω 2 (forEach (fun b : Binding => Crud.delete .binding b.id) (removals db ω new)) db with ⟨result, m, s⟩
  rw [hloop] at hwithout hall hfails
  have hstored (b : Binding) (hb : b ∈ db.bindings.rows) (hnot : b ∉ gone) : b ∈ s.bindings.rows := by
    refine (hwithout.mem b).mpr ⟨hb, fun c hc hid => hnot ?_⟩
    rwa [eq_of_id_eq (k := .binding) hb (mem_removals (hgone c hc)).1 hid]
  have hdeleted (b : Binding) (hb : b ∈ gone) : b ∉ s.bindings.rows := fun h => ((hwithout.mem b).mp h).2 b hb rfl
  cases hbegun : begun ω 2 (removals db ω new) with
  | false =>
    have hkept (b : Binding) (hb : b ∈ db.bindings.rows) : b ∈ s.bindings.rows := hstored b hb (by simp [hnone hbegun])
    refine iff_of_true ?_ (.inl hbegun)
    cases result with
    | error e => exact ⟨fun b hb => .inl (hkept b hb), fun _ _ b hb => hkept b hb⟩
    | ok x => exact ⟨fun b hb => .inl (mem_accept (hkept b hb)), fun _ _ b hb => mem_accept (hkept b hb)⟩
  | true =>
    obtain ⟨first, rest, hfirst⟩ := List.exists_cons_of_ne_nil (hsome hbegun)
    have hmem : first ∈ gone := by simp [hfirst]
    obtain ⟨hin, hservice, hsupersedes⟩ := mem_removals (hgone first hmem)
    constructor
    · intro hcontained
      refine .inr ?_
      cases hcarried : carried ω 2 (removals db ω new) with
      | false =>
        obtain ⟨e, rfl⟩ := hfails hcarried
        exact absurd (hcontained.2 e rfl first hin) (hdeleted first hmem)
      | true =>
        obtain ⟨rfl, rfl, rfl⟩ := hall hcarried
        have hlost : first ∉ (run dbStep ω (2 + 2 * (removals db ω new).length) (accept networkIds new) s).state.bindings.rows :=
          not_mem_accept (hdeleted first hmem) hsupersedes
        obtain ⟨service, hstoredService, hid, hnetwork⟩ := (hcontained.1 first hin).resolve_left hlost
        rcases run_accept networkIds new (2 + 2 * (removals db ω new).length) s with
          ⟨hnetworkNew, hcreatable, -, -⟩ | ⟨-, ⟨e, hresult⟩, -⟩
        · exact ⟨⟨service, hstoredService, hid.trans hservice, hnetwork⟩, hnetworkNew, rfl,
            (replaceable_iff hwithout (fun b hb => (mem_removals hb).1)).mpr hcreatable⟩
        · exact absurd (hcontained.2 e hresult first hin) hlost
    · rintro (hnot | ⟨⟨service, hstoredService, hid, hnetwork⟩, hnetworkNew, hcarried, hstorable⟩)
      · rw [hbegun] at hnot
        cases hnot
      · obtain ⟨rfl, rfl, rfl⟩ := hall hcarried
        have hcreatable := (replaceable_iff hwithout (fun b hb => (mem_removals hb).1)).mp hstorable
        refine ⟨fun b hb => ?_, fun e he => ?_⟩
        · by_cases hb' : b ∈ removals db ω new
          · exact .inr ⟨service, hstoredService, hid.trans (mem_removals hb').2.1.symm, hnetwork⟩
          · exact .inl (mem_accept (hstored b hb hb'))
        · rcases run_accept networkIds new (2 + 2 * (removals db ω new).length) s with ⟨-, -, ⟨row, hrow⟩, -⟩ | ⟨hnot, -, -⟩
          · exact absurd (hrow.symm.trans he) (by simp)
          · exact absurd ⟨hnetworkNew, hcreatable⟩ hnot

/-- The endpoint keeps to the caller's networks and fails without a loss exactly when nothing is superseded or nothing
fails after the first deletion. -/
theorem create_binding_contained_iff (networkIds : List Uuid) (db : Db) (ω : Oracle dbSig) (new : Binding) :
    Contained networkIds db (run dbStep ω 0 (BindingHandlers.createBinding networkIds new) db) ↔
      Unharmed networkIds db ω new := by
  rcases run_createBinding networkIds db ω new with ⟨hbegun, hstate⟩ | ⟨hnil, hrun⟩ | hrun
  · refine iff_of_true ⟨fun b hb => .inl ?_, fun _ _ b hb => ?_⟩ (.inl hbegun)
    · rwa [hstate]
    · rwa [hstate]
  · rw [hrun]
    refine iff_of_true ⟨fun b hb => .inl (mem_accept hb), fun _ _ b hb => mem_accept hb⟩ (.inl ?_)
    rw [hnil]
    rfl
  · rw [hrun]
    exact contained_deleting networkIds db ω new

/-- A binding to an interface of a service in network 9, which the caller has no access to, gives way to the caller's. -/
theorem create_binding_deletes_elsewhere : ¬ ∀ (networkIds : List Uuid) (db : Db) (ω : Oracle dbSig) (new : Binding),
    Contained networkIds db (run dbStep ω 0 (BindingHandlers.createBinding networkIds new) db) := by
  intro h
  have hcontained := h [] (webHost ⟨[webBinding 10 (.port 4 (some 2))], by simp⟩) (granted 8) (webBinding 11 (.port 4 none))
  rcases hcontained.1 (webBinding 10 (.port 4 (some 2))) (by decide) with hmem | ⟨service, -, -, hnetwork⟩
  · revert hmem
    decide
  · cases hnetwork

end creation

end VantageNet.Inventory
