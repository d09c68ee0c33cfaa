import VantageNet.Interaction.Tracking
import VantageNet.Inventory.Storing

/-!
How far a call of `ServiceService::update` or `ServiceService::delete` has come with the
groups of its network.
-/

namespace VantageNet.Inventory

open Interaction Interaction.Program

inductive EditCall where
  | update (service : Service)
  | delete (id : Uuid)

namespace EditCall

def serviceId : EditCall → Uuid
  | .update service => service.id
  | .delete id => id

def asked : EditCall → List Uuid
  | .update service => (deduplicateBindings service.base.bindings).map Entity.id
  | .delete _ => []

def program : EditCall → Query Unit
  | .update service => (ServiceService.update service).bind (fun _ => .ret ())
  | .delete id => ServiceService.delete id

end EditCall

def groupsToUpdate (current asked : List Uuid) (groups : List Group) : List Group :=
  (groups.filter (fun g => (g.base.bindingIds.filter (ServiceService.keptInGroup current asked)).length ≠
    g.base.bindingIds.length)).map (fun g => { g with base := { g.base with
      bindingIds := g.base.bindingIds.filter (ServiceService.keptInGroup current asked) } })

/-- The members as they are written, with their positions. -/
def positioned (bindingIds : List Uuid) : List (Uuid × ℤ) := bindingIds.zipIdx.map (fun e => (e.1, (e.2 : ℤ)))

inductive EditStage where
  | reading
  | loaded (current : List Uuid)
  | listed (current : List Uuid) (groups : List Group)
  | seen (edits : List Group)
  | holding (edits : List Group)
  /-- The members of the group are deleted, and those of `todo` are still to be created. -/
  | rewriting (groupId : Uuid) (todo : List (Uuid × ℤ)) (rest : List Group)
  | released
  | removing (ids existing : List Uuid)
  | removed (existing : List Uuid)

def EditStage.resume (groupId : Uuid) (rest : List Group) : List (Uuid × ℤ) → EditStage
  | [] => .holding rest
  | member :: todo => .rewriting groupId (member :: todo) rest

structure Editor where
  serviceId : Uuid
  asked : List Uuid
  stage : EditStage

namespace Editor

def start (call : EditCall) : Editor := ⟨call.serviceId, call.asked, .reading⟩

def idsToDelete (a : Editor) (existing : List Uuid) : List Uuid :=
  existing.filter (fun id => !(a.asked.filter (fun id => id ≠ Uuid.nil)).contains id)

def dropped (a : Editor) (existing : List Uuid) : EditStage :=
  if (a.idsToDelete existing).isEmpty then .removed existing else .removing (a.idsToDelete existing) existing

def next (a : Editor) (o : DbOp) (r : o.Reply) : Editor :=
  { a with stage :=
    match a.stage with
    | .reading =>
      match o, r with
      | .list .binding _ _, .ok (bindings : List Binding) => .loaded (bindings.map Entity.id)
      | _, _ => a.stage
    | .loaded current =>
      match o, r with
      | .list .group _ _, .ok (groups : List Group) => if groups.isEmpty then .seen [] else .listed current groups
      | _, _ => a.stage
    | .listed current groups =>
      match o, r with
      | .list .groupBinding _ _, .ok (members : List GroupBinding) =>
        .seen (groupsToUpdate current a.asked (groups.map (GroupService.withBindings members)))
      | _, _ => a.stage
    | .seen edits =>
      match o with
      | .acquire .groupUpdate => .holding edits
      | _ => a.stage
    | .holding edits =>
      match o, r with
      | .delete .groupBinding _, .ok _ =>
        match edits with
        | g :: rest => .resume g.id rest (positioned g.base.bindingIds)
        | [] => a.stage
      | .release .groupUpdate, _ => .released
      | _, _ => a.stage
    | .rewriting groupId todo rest =>
      match o, r with
      | .create .groupBinding _, .ok _ => .resume groupId rest todo.tail
      | _, _ => a.stage
    | .released =>
      match o, r with
      | .list .binding _ _, .ok (bindings : List Binding) => a.dropped (bindings.map Entity.id)
      | .delete .service _, .ok _ => .removed []
      | _, _ => a.stage
    | .removing _ existing =>
      match o, r with
      | .delete .binding _, .ok _ => .removed existing
      | _, _ => a.stage
    | .removed _ => a.stage }

/-- What the operations of a call are at each stage, where `known` are the ids that bindings have had. -/
def ok (known : List Uuid) (a : Editor) : DbOp → Prop
  | .list .binding (f : Binding → Bool) _ =>
    a.stage = .reading ∨ a.stage = .released → f = fun b : Binding => b.base.serviceId = a.serviceId
  | .list .groupBinding (f : GroupBinding → Bool) (order : GroupBinding → ℤ) =>
    ∀ current groups, a.stage = .listed current groups →
      f = (fun m : GroupBinding => (groups.map Entity.id).contains m.base.groupId) ∧ order = fun m : GroupBinding => m.base.position
  | .create .groupBinding (row : GroupBinding) =>
    ∃ groupId id position todo rest, a.stage = .rewriting groupId ((id, position) :: todo) rest ∧
      row.base = ⟨groupId, id, position⟩
  | .delete .groupBinding (f : GroupBinding → Bool) =>
    ∃ g rest, a.stage = .holding (g :: rest) ∧ f = fun m : GroupBinding => m.base.groupId = g.id
  | .create .binding (row : Binding) =>
    (∃ existing, a.stage = .removed existing) ∧ (row.id ∈ a.asked ∧ row.id ≠ Uuid.nil ∨ row.id ∉ known)
  | .update .binding (row : Binding) =>
    ∃ existing, a.stage = .removed existing ∧ row.id ∈ existing ∧ row.base.serviceId = a.serviceId
  | .delete .binding (f : Binding → Bool) =>
    ∃ ids existing, a.stage = .removing ids existing ∧ f = fun b : Binding => ids.contains b.id
  | .delete .service (f : Service → Bool) =>
    a.stage = .released ∧ a.asked = [] ∧ f = fun s : Service => s.id = a.serviceId
  | .acquire .groupUpdate => ∃ edits, a.stage = .seen edits
  | .release .groupUpdate => a.stage = .holding []
  | .create _ _ | .update .groupBinding _ | .delete _ _ => False
  | _ => True

def finished (a : Editor) : Prop := ∃ existing, a.stage = .removed existing

end Editor

def editing (known : List Uuid) : Tracking dbSig Error Lock EditCall Db Editor where
  scheme := ⟨EditCall.program, DbOp.lockAction, dbStep⟩
  monitor := ⟨Editor.ok known, fun o r => match o, r with | .newV4, id => id ∉ known | _, _ => True, Editor.next⟩
  start := Editor.start

theorem Editor.mem_idsToDelete {a : Editor} {existing : List Uuid} {id : Uuid} :
    id ∈ a.idsToDelete existing ↔ id ∈ existing ∧ ¬ (id ≠ Uuid.nil ∧ id ∈ a.asked) := by
  simp only [idsToDelete, List.mem_filter, Bool.not_eq_true', ← Bool.not_eq_true, List.contains_iff_mem,
    decide_eq_true_eq, and_comm]

/-- What an operation of a call changes, of the call's stage and of the bindings and the members. -/
inductive EditStep (known : List Uuid) (a : Editor) (s : Db) : Editor → Db → Prop
  | quiet {t : Db} (hbindings : t.bindings = s.bindings) (hmembers : t.groupBindings = s.groupBindings) :
    EditStep known a s a t
  | load {rows : List Binding} (hstage : a.stage = .reading)
    (hrows : rows.Perm (s.bindings.rows.filter (fun b => b.base.serviceId = a.serviceId))) :
    EditStep known a s { a with stage := .loaded (rows.map Entity.id) } s
  | list {current : List Uuid} {groups : List Group} (hstage : a.stage = .loaded current) :
    EditStep known a s { a with stage := if groups.isEmpty then .seen [] else .listed current groups } s
  | see {current : List Uuid} {groups : List Group} {members : List GroupBinding} (hstage : a.stage = .listed current groups)
    (hmembers : members.Perm (s.groupBindings.rows.filter (fun m => (groups.map Entity.id).contains m.base.groupId)))
    (hsorted : members.Pairwise (fun m n => m.base.position ≤ n.base.position)) :
    EditStep known a s
      { a with stage := .seen (groupsToUpdate current a.asked (groups.map (GroupService.withBindings members))) } s
  | enter {edits : List Group} (hstage : a.stage = .seen edits) : EditStep known a s { a with stage := .holding edits } s
  | clear {g : Group} {rest : List Group} (hstage : a.stage = .holding (g :: rest)) :
    EditStep known a s { a with stage := .resume g.id rest (positioned g.base.bindingIds) }
      (s.delete .groupBinding (fun m : GroupBinding => m.base.groupId = g.id))
  | write {groupId id : Uuid} {position : ℤ} {todo : List (Uuid × ℤ)} {rest : List Group} {row : GroupBinding} {t : Db}
    (hstage : a.stage = .rewriting groupId ((id, position) :: todo) rest) (hbase : row.base = ⟨groupId, id, position⟩)
    (hhas : s.has .binding id = true) (hbindings : t.bindings = s.bindings)
    (hmembers : t.groupBindings.rows = s.groupBindings.rows ++ [row]) :
    EditStep known a s { a with stage := .resume groupId rest todo } t
  | leave (hstage : a.stage = .holding []) : EditStep known a s { a with stage := .released } s
  | look {rows : List Binding} (hstage : a.stage = .released)
    (hrows : rows.Perm (s.bindings.rows.filter (fun b => b.base.serviceId = a.serviceId))) :
    EditStep known a s { a with stage := a.dropped (rows.map Entity.id) } s
  | drop {ids existing : List Uuid} (hstage : a.stage = .removing ids existing) :
    EditStep known a s { a with stage := .removed existing } (s.delete .binding (fun b : Binding => ids.contains b.id))
  | discard (hstage : a.stage = .released) (hasked : a.asked = []) :
    EditStep known a s { a with stage := .removed [] } (s.delete .service (fun x : Service => x.id = a.serviceId))
  | store {existing : List Uuid} {row : Binding} {t : Db} (hstage : a.stage = .removed existing)
    (hid : row.id ∈ a.asked ∧ row.id ≠ Uuid.nil ∨ row.id ∉ known)
    (hbindings : t.bindings.rows = s.bindings.rows ++ [row]) (hmembers : t.groupBindings = s.groupBindings) :
    EditStep known a s a t
  | revise {existing : List Uuid} {row : Binding} {t : Db} (hstage : a.stage = .removed existing)
    (hid : row.id ∈ existing) (hservice : row.base.serviceId = a.serviceId) (hhas : s.has .binding row.id = true)
    (hbindings : ∀ b, b ∈ t.bindings.rows ↔ b = row ∨ b ∈ s.bindings.rows ∧ b.id ≠ row.id)
    (hmembers : t.groupBindings = s.groupBindings) : EditStep known a s a t

section steps

variable {known : List Uuid} {a : Editor} {o : DbOp} {s : Db}

theorem EditStep.of_error {answer : o.Reply} (hnext : a.next o (dbStep o answer s).1 = a)
    (hstate : (dbStep o answer s).2 = s) :
    EditStep known a s (a.next o (dbStep o answer s).1) (dbStep o answer s).2 := by
  rw [hnext, hstate]
  exact .quiet rfl rfl

theorem Editor.next_lock_of_ne {lock : Lock} (hlock : lock ≠ .groupUpdate) :
    a.next (.acquire lock) () = a ∧ a.next (.release lock) () = a := by
  obtain ⟨serviceId, asked, stage⟩ := a
  cases lock with
  | groupUpdate => exact absurd rfl hlock
  | _ => cases stage <;> exact ⟨rfl, rfl⟩

theorem Editor.next_of_reading (hreads : (∃ k id, o = .get k id) ∨ o = .utcNow ∨ o = .newV4) (r : o.Reply) :
    a.next o r = a := by
  obtain ⟨serviceId, asked, stage⟩ := a
  rcases hreads with ⟨k, id, rfl⟩ | rfl | rfl <;> cases stage <;> rfl

theorem Editor.next_list_other {k : Kind} (hk : k ≠ .binding ∧ k ≠ .group ∧ k ≠ .groupBinding) (f : Row k → Bool)
    (order : Row k → ℤ) (r : Except Error (List (Row k))) : a.next (.list k f order) r = a := by
  obtain ⟨serviceId, asked, stage⟩ := a
  cases k with
  | binding => exact absurd rfl hk.1
  | group => exact absurd rfl hk.2.1
  | groupBinding => exact absurd rfl hk.2.2
  | _ => cases stage <;> rfl

theorem editStep_list {k : Kind} {f : Row k → Bool} {order : Row k → ℤ} (hok : a.ok known (.list k f order))
    (answer : Except Error (List (Row k))) :
    EditStep known a s (a.next (.list k f order) (dbStep (.list k f order) answer s).1) s := by
  have hquiet (hnext : ∀ r, a.next (.list k f order) r = a) :
      EditStep known a s (a.next (.list k f order) (dbStep (.list k f order) answer s).1) s := by
    rw [hnext]
    exact .quiet rfl rfl
  by_cases hk : k ≠ .binding ∧ k ≠ .group ∧ k ≠ .groupBinding
  · exact hquiet (Editor.next_list_other hk f order)
  obtain ⟨serviceId, asked, stage⟩ := a
  rcases answer with e | proposed
  · refine .of_error ?_ rfl
    cases stage <;> cases k <;> rfl
  have hperm := arrange_perm order ((s.table k).rows.filter f) proposed
  have hsorted := arrange_sorted order ((s.table k).rows.filter f) proposed
  cases k with
  | binding =>
    cases stage with
    | reading =>
      obtain rfl := hok (.inl rfl)
      exact .load rfl hperm
    | released =>
      obtain rfl := hok (.inr rfl)
      exact .look rfl hperm
    | _ => exact hquiet (fun _ => rfl)
  | group =>
    cases stage with
    | loaded current => exact .list rfl
    | _ => exact hquiet (fun _ => rfl)
  | groupBinding =>
    cases stage with
    | listed current groups =>
      obtain ⟨rfl, rfl⟩ := hok current groups rfl
      exact .see rfl hperm hsorted
    | _ => exact hquiet (fun _ => rfl)
  | _ => exact absurd (by simp) hk

theorem editStep_create {k : Kind} {row : Row k} (hok : a.ok known (.create k row)) (answer : Except Error Unit) :
    EditStep known a s (a.next (.create k row) (dbStep (.create k row) answer s).1) (dbStep (.create k row) answer s).2 := by
  change EditStep known a s (a.next (.create k row) (s.create k row answer).1) (s.create k row answer).2
  obtain ⟨serviceId, asked, stage⟩ := a
  have hcases := create_cases s k row answer
  cases k with
  | binding =>
    obtain ⟨⟨existing, rfl⟩, hid⟩ := hok
    rcases hcases with ⟨e, heq⟩ | ⟨hapart, -, heq⟩
    · rw [heq]
      exact .quiet rfl rfl
    · rw [heq]
      exact .store rfl hid rfl rfl
  | groupBinding =>
    obtain ⟨groupId, id, position, todo, rest, rfl, hbase⟩ := hok
    rcases hcases with ⟨e, heq⟩ | ⟨hapart, hrefers, heq⟩
    · rw [heq]
      exact .quiet rfl rfl
    · rw [heq]
      simp only [Db.refers, Bool.and_eq_true] at hrefers
      have hhas := hrefers.2
      rw [hbase] at hhas
      exact .write rfl hbase hhas rfl rfl
  | _ => exact hok.elim

theorem editStep_update {k : Kind} {row : Row k} (hok : a.ok known (.update k row)) (answer : Except Error Unit) :
    EditStep known a s (a.next (.update k row) (dbStep (.update k row) answer s).1) (dbStep (.update k row) answer s).2 := by
  change EditStep known a s (a.next (.update k row) (s.update k row answer).1) (s.update k row answer).2
  have hnext (r : Except Error Unit) : a.next (.update k row) r = a := by
    obtain ⟨serviceId, asked, stage⟩ := a
    cases stage <;> rfl
  rw [hnext]
  by_cases hk : k = .binding
  · subst hk
    obtain ⟨existing, hstage, hid, hservice⟩ := hok
    rcases update_cases s .binding row answer with ⟨e, heq⟩ | ⟨-, heq⟩ | ⟨hapart, hhas, -, heq⟩
    · rw [heq]
      exact .quiet rfl rfl
    · rw [heq]
      exact .quiet rfl rfl
    · rw [heq]
      exact .revise hstage hid hservice hhas (fun b => mem_updated (h := hapart)) rfl
  · have hmembers : k ≠ .groupBinding := by
      rintro rfl
      exact hok
    have hsame := sameBut_dbStep (.update k row) answer s
    exact .quiet (hsame .binding (by simpa [DbOp.writes] using Ne.symm hk))
      (hsame .groupBinding (by simpa [DbOp.writes] using Ne.symm hmembers))

theorem editStep_delete {k : Kind} {f : Row k → Bool} (hok : a.ok known (.delete k f)) (answer : Except Error Unit) :
    EditStep known a s (a.next (.delete k f) (dbStep (.delete k f) answer s).1) (dbStep (.delete k f) answer s).2 := by
  obtain ⟨serviceId, asked, stage⟩ := a
  cases k with
  | binding =>
    obtain ⟨ids, existing, rfl, rfl⟩ := hok
    rcases answer with e | ⟨⟩
    · exact .quiet rfl rfl
    · exact .drop rfl
  | groupBinding =>
    obtain ⟨g, rest, rfl, rfl⟩ := hok
    rcases answer with e | ⟨⟩
    · exact .quiet rfl rfl
    · exact .clear rfl
  | service =>
    obtain ⟨hstage, hasked, rfl⟩ := hok
    change stage = .released at hstage
    subst hstage
    rcases answer with e | ⟨⟩
    · exact .quiet rfl rfl
    · exact .discard rfl hasked
  | _ => exact hok.elim

theorem Editor.step (hok : a.ok known o) (answer : o.Reply) (s : Db) :
    EditStep known a s (a.next o (dbStep o answer s).1) (dbStep o answer s).2 := by
  cases o with
  | list k f order => exact editStep_list hok answer
  | create k row => exact editStep_create hok answer
  | update k row => exact editStep_update hok answer
  | delete k f => exact editStep_delete hok answer
  | acquire lock =>
    by_cases hlock : lock = .groupUpdate
    · subst hlock
      obtain ⟨serviceId, asked, stage⟩ := a
      obtain ⟨edits, hstage⟩ := hok
      change stage = .seen edits at hstage
      subst hstage
      exact .enter rfl
    · rw [show a.next (.acquire lock) _ = a from (Editor.next_lock_of_ne hlock).1]
      exact .quiet rfl rfl
  | release lock =>
    by_cases hlock : lock = .groupUpdate
    · subst hlock
      obtain ⟨serviceId, asked, stage⟩ := a
      change stage = .holding [] at hok
      subst hok
      exact .leave rfl
    · rw [show a.next (.release lock) _ = a from (Editor.next_lock_of_ne hlock).2]
      exact .quiet rfl rfl
  | get k id =>
    rw [Editor.next_of_reading (.inl ⟨k, id, rfl⟩)]
    exact .quiet rfl rfl
  | utcNow =>
    rw [Editor.next_of_reading (.inr (.inl rfl))]
    exact .quiet rfl rfl
  | newV4 =>
    rw [Editor.next_of_reading (.inr (.inr rfl))]
    exact .quiet rfl rfl

end steps

namespace Editing

variable {known : List Uuid} {a : Editor} {serviceId : Uuid} {asked : List Uuid}

theorem follows_orFail {α : Type} (r : Except Error α) :
    Follows (editing known).monitor (fun _ b => b = a) a (orFail r : Query α) := by
  cases r with
  | error e => trivial
  | ok x => rfl

theorem follows_serviceGetById : Follows (editing known).monitor
    (fun found b => ∀ current : Service, found = some current →
      b = ⟨serviceId, asked, .loaded (current.base.bindings.map Entity.id)⟩)
    ⟨serviceId, asked, .reading⟩ (ServiceService.getById serviceId) := by
  refine ⟨trivial, fun r _ => ?_⟩
  rcases r with e | _ | row
  · trivial
  · rintro current ⟨⟩
  · refine ⟨fun _ => rfl, fun r _ => ?_⟩
    rcases r with e | bindings
    · trivial
    · rintro current ⟨⟩
      rfl

theorem follows_validateBindingsBelongToHost (hostId : Uuid) (bindings : List Binding) (current : List Uuid) :
    Follows (editing known).monitor (fun _ b => b = ⟨serviceId, asked, .loaded current⟩)
      ⟨serviceId, asked, .loaded current⟩ (ServiceService.validateBindingsBelongToHost hostId bindings) := by
  unfold ServiceService.validateBindingsBelongToHost
  split_ifs
  · rfl
  · refine ⟨trivial, fun r _ => ?_⟩
    rcases r with e | ports
    · trivial
    · refine ⟨trivial, fun r _ => ?_⟩
      rcases r with e | interfaces
      · trivial
      · exact Follows.forEach (fun _ => follows_orFail _) bindings

theorem follows_serviceGetAll (filter : Service → Bool) (current : List Uuid) :
    Follows (editing known).monitor (fun _ b => b = ⟨serviceId, asked, .loaded current⟩)
      ⟨serviceId, asked, .loaded current⟩ (ServiceService.getAll filter) := by
  refine ⟨trivial, fun r _ => ?_⟩
  rcases r with e | services
  · trivial
  · change Follows (editing known).monitor _ ⟨serviceId, asked, .loaded current⟩
      (if services.isEmpty = true then _ else _)
    split_ifs
    · rfl
    · refine ⟨fun h => by simp at h, fun r _ => ?_⟩
      rcases r with e | bindings
      · trivial
      · rfl

theorem follows_validateBindingsAvailable (hostId id : Uuid) (bindings : List Binding) (current : List Uuid) :
    Follows (editing known).monitor (fun _ b => b = ⟨serviceId, asked, .loaded current⟩)
      ⟨serviceId, asked, .loaded current⟩ (ServiceService.validateBindingsAvailable hostId id bindings) := by
  unfold ServiceService.validateBindingsAvailable
  split_ifs
  · rfl
  · refine Follows.seq (follows_serviceGetAll _ current) (fun services => ?_)
    dsimp only
    rcases ServiceService.firstClaimed (services.filter (fun s => s.id ≠ id)) bindings with _ | ⟨claim, owner⟩
    · rfl
    · refine ⟨trivial, fun r _ => ?_⟩
      rcases r with e | ports
      · trivial
      · trivial

theorem follows_groupGetAll (filter : Group → Bool) (current : List Uuid) :
    Follows (editing known).monitor (fun groups b => b = ⟨serviceId, asked, .seen (groupsToUpdate current asked groups)⟩)
      ⟨serviceId, asked, .loaded current⟩ (GroupService.getAll filter) := by
  refine ⟨trivial, fun r _ => ?_⟩
  rcases r with e | groups
  · trivial
  · change Follows (editing known).monitor _
      ⟨serviceId, asked, if groups.isEmpty then .seen [] else .listed current groups⟩
      (if groups.isEmpty = true then _ else _)
    split_ifs with hempty
    · rw [List.isEmpty_iff.mp hempty]
      rfl
    · refine ⟨?_, fun r _ => ?_⟩
      · rintro _ _ ⟨⟩
        exact ⟨rfl, rfl⟩
      · rcases r with e | members
        · trivial
        · rfl

theorem follows_members (groupId : Uuid) (rest : List Group) (members : List (Uuid × ℤ)) :
    Follows (editing known).monitor (fun _ b => b = ⟨serviceId, asked, .holding rest⟩)
      ⟨serviceId, asked, .resume groupId rest members⟩
      (forEach (fun (bindingId, position) => do
        let member ← newEntity (⟨groupId, bindingId, position⟩ : GroupBindingBase)
        let _ ← Storage.create .groupBinding member) members) := by
  induction members with
  | nil => rfl
  | cons member todo ih =>
    refine ⟨trivial, fun now _ => ⟨trivial, fun id _ => ?_⟩⟩
    refine ⟨⟨groupId, member.1, member.2, todo, rest, rfl, rfl⟩, fun r _ => ?_⟩
    rcases r with e | ⟨⟩
    · trivial
    · exact ih

theorem follows_groupUpdate (group : Group) (rest : List Group) :
    Follows (editing known).monitor (fun _ b => b = ⟨serviceId, asked, .holding rest⟩)
      ⟨serviceId, asked, .holding (group :: rest)⟩ (GroupService.update group) := by
  refine ⟨trivial, fun r _ => ?_⟩
  rcases r with e | _ | found
  · trivial
  · trivial
  · refine ⟨fun _ _ h => (nomatch h), fun r _ => ?_⟩
    rcases r with e | members
    · trivial
    · refine ⟨trivial, fun now _ => ⟨trivial, fun r _ => ?_⟩⟩
      rcases r with e | ⟨⟩
      · trivial
      · refine ⟨⟨group, rest, rfl, rfl⟩, fun r _ => ?_⟩
        rcases r with e | ⟨⟩
        · trivial
        · apply Follows.bind
          apply (follows_members group.id rest (positioned group.base.bindingIds)).imp
          rintro _ b rfl
          rfl

theorem follows_updateGroups (groups : List Group) :
    Follows (editing known).monitor (fun _ b => b = ⟨serviceId, asked, .holding []⟩)
      ⟨serviceId, asked, .holding groups⟩
      (forEach (fun g => (GroupService.update g).bind (fun _ => ret ())) groups) := by
  induction groups with
  | nil => rfl
  | cons g rest ih =>
    apply Follows.bind
    apply Follows.bind
    apply (follows_groupUpdate g rest).imp
    rintro _ b rfl
    exact ih

theorem follows_updateGroupServiceBindings (current : Service) (updates : List Binding) :
    Follows (editing known).monitor (fun _ b => b = ⟨serviceId, updates.map Entity.id, .released⟩)
      ⟨serviceId, updates.map Entity.id, .loaded (current.base.bindings.map Entity.id)⟩
      (ServiceService.updateGroupServiceBindings current updates) := by
  apply Follows.bind
  apply (follows_groupGetAll _ _).imp
  rintro groups b rfl
  refine ⟨⟨_, rfl⟩, fun _ _ => ?_⟩
  change Follows (editing known).monitor _ ⟨serviceId, _, .holding (groupsToUpdate _ _ groups)⟩
    ((forEach _ (groupsToUpdate (current.base.bindings.map Entity.id) (updates.map Entity.id) groups)).bind _)
  apply Follows.bind
  apply (follows_updateGroups _).imp
  rintro _ b rfl
  exact ⟨rfl, fun _ _ => rfl⟩

theorem follows_bindingCreate (row : Binding) (existing : List Uuid)
    (hid : row.id ≠ Uuid.nil → row.id ∈ asked ∨ row.id ∉ known) :
    Follows (editing known).monitor (fun _ b => b = ⟨serviceId, asked, .removed existing⟩)
      ⟨serviceId, asked, .removed existing⟩ (Crud.create .binding row) := by
  have hcreate (row : Binding) (h : row.id ∈ asked ∧ row.id ≠ Uuid.nil ∨ row.id ∉ known) :
      Follows (editing known).monitor (fun _ b => b = ⟨serviceId, asked, .removed existing⟩)
        ⟨serviceId, asked, .removed existing⟩ (Storage.create .binding row) := by
    refine ⟨⟨⟨existing, rfl⟩, h⟩, fun r _ => ?_⟩
    rcases r with e | ⟨⟩
    · trivial
    · rfl
  unfold Crud.create
  by_cases hnil : row.id = Uuid.nil
  · simp only [hnil, ↓reduceIte, bind_eq]
    exact ⟨trivial, fun now _ => ⟨trivial, fun id hnew => hcreate _ (.inr hnew)⟩⟩
  · simp only [hnil, ↓reduceIte, bind_eq, ret_bind]
    exact hcreate row ((hid hnil).imp_left (fun hmem => ⟨hmem, hnil⟩))

theorem follows_saveChild {existing : List Binding} {child : Binding} (hid : child.id ≠ Uuid.nil → child.id ∈ asked)
    (hservice : child.base.serviceId = serviceId) :
    Follows (editing known).monitor (fun _ b => b = ⟨serviceId, asked, .removed (existing.map Entity.id)⟩)
      ⟨serviceId, asked, .removed (existing.map Entity.id)⟩ (BindingService.saveChild existing child) := by
  unfold BindingService.saveChild
  by_cases hnil : child.id = Uuid.nil
  · rw [if_pos hnil]
    exact ⟨trivial, fun id hnew => follows_bindingCreate _ _ (fun _ => .inr hnew)⟩
  · rw [if_neg hnil]
    cases hfind : existing.find? (fun e => e.id = child.id) with
    | none => exact follows_bindingCreate _ _ (fun hne => .inl (hid hne))
    | some found =>
      have hfound : child.id ∈ existing.map Entity.id :=
        List.mem_map.mpr ⟨found, List.mem_of_find?_eq_some hfind, by simpa using List.find?_some hfind⟩
      refine ⟨trivial, fun r _ => ?_⟩
      rcases r with e | _ | row
      · trivial
      · trivial
      · refine ⟨trivial, fun now _ => ⟨⟨_, rfl, hfound, hservice⟩, fun r _ => ?_⟩⟩
        rcases r with e | ⟨⟩
        · trivial
        · rfl

theorem follows_deleteMany {ids : List Uuid} (existing : List Uuid) (hids : ids.isEmpty = false) :
    Follows (editing known).monitor (fun _ b => b = ⟨serviceId, asked, .removed existing⟩)
      ⟨serviceId, asked, .removing ids existing⟩ (Crud.deleteMany .binding ids) := by
  have hread : Follows (editing known).monitor (fun _ b => b = ⟨serviceId, asked, .removing ids existing⟩)
      ⟨serviceId, asked, .removing ids existing⟩
      (forEach (fun id => (Storage.getById .binding id).bind (fun _ => ret ())) ids) := by
    refine Follows.forEach (fun id => ?_) ids
    refine ⟨trivial, fun r _ => ?_⟩
    rcases r with e | found
    · trivial
    · rfl
  unfold Crud.deleteMany
  rw [hids]
  refine Follows.seq hread (fun _ => ?_)
  refine ⟨⟨ids, existing, rfl, rfl⟩, fun r _ => ?_⟩
  rcases r with e | ⟨⟩
  · trivial
  · rfl

theorem follows_saveForParent {children : List Binding} (hservice : ∀ c ∈ children, c.base.serviceId = serviceId) :
    Follows (editing known).monitor (fun _ b => b.finished) ⟨serviceId, children.map Entity.id, .released⟩
      (BindingService.saveForParent serviceId children) := by
  refine ⟨fun _ => rfl, fun r _ => ?_⟩
  rcases r with e | existing
  · trivial
  · have hids : BindingService.idsToDelete existing children =
        Editor.idsToDelete ⟨serviceId, children.map Entity.id, .released⟩ (existing.map Entity.id) := rfl
    change Follows (editing known).monitor _ ⟨serviceId, children.map Entity.id,
      Editor.dropped ⟨serviceId, children.map Entity.id, .released⟩ (existing.map Entity.id)⟩
      ((when (!(BindingService.idsToDelete existing children).isEmpty) _).bind _)
    rw [hids, Editor.dropped]
    have hcollect : Follows (editing known).monitor (fun _ b => b.finished)
        ⟨serviceId, children.map Entity.id, .removed (existing.map Entity.id)⟩
        (collect (BindingService.saveChild existing) children) := by
      refine (Follows.collect (fun child hchild => ?_)).imp (fun _ b hb => ⟨_, congrArg Editor.stage hb⟩)
      exact follows_saveChild (fun _ => List.mem_map_of_mem hchild) (hservice child hchild)
    apply Follows.bind
    cases hempty : (Editor.idsToDelete ⟨serviceId, children.map Entity.id, .released⟩ (existing.map Entity.id)).isEmpty with
    | true => exact hcollect
    | false =>
      apply (follows_deleteMany (existing.map Entity.id) hempty).imp
      rintro _ b rfl
      exact hcollect

theorem follows_saveBindings (service : Service) (hid : service.id = serviceId) : Follows (editing known).monitor
    (fun _ b => b.finished) ⟨serviceId, service.base.bindings.map Entity.id, .released⟩
    (ServiceService.saveBindings service) := by
  have hsave := @follows_saveForParent known service.id
    (service.base.bindings.map (fun b => Binding.withService b service.id service.base.networkId)) (by simp [Binding.withService])
  rw [List.map_map] at hsave
  subst hid
  apply Follows.bind
  exact hsave.imp (fun _ _ hb => hb)

theorem follows_serviceStorageUpdate (service : Service) : Follows (editing known).monitor
    (fun updated b => b = ⟨serviceId, asked, .released⟩ ∧ ∃ now, updated = { service with updatedAt := now })
    ⟨serviceId, asked, .released⟩ (Storage.update .service service) := by
  refine ⟨trivial, fun now _ => ⟨trivial, fun r _ => ?_⟩⟩
  rcases r with e | ⟨⟩
  · trivial
  · exact ⟨rfl, now, rfl⟩

theorem follows_update (service : Service) : Follows (editing known).monitor (fun _ b => b.finished)
    ⟨service.id, (deduplicateBindings service.base.bindings).map Entity.id, .reading⟩ (ServiceService.update service) := by
  refine ⟨trivial, fun _ _ => ?_⟩
  change Follows (editing known).monitor _ ⟨service.id, _, .reading⟩ ((ServiceService.getById service.id).bind _)
  apply Follows.bind
  apply follows_serviceGetById.imp
  intro found b hb
  cases found with
  | none => trivial
  | some current =>
    rw [hb current rfl]
    refine Follows.orFail_bind (fun _ _ => ?_)
    refine Follows.seq (follows_validateBindingsBelongToHost _ _ _) (fun _ => ?_)
    refine Follows.seq (follows_validateBindingsAvailable _ _ _ _) (fun _ => ?_)
    apply Follows.bind
    apply (follows_updateGroupServiceBindings current _).imp
    rintro _ b rfl
    apply Follows.bind
    apply (follows_serviceStorageUpdate _).imp
    rintro updated b ⟨rfl, now, rfl⟩
    apply Follows.bind
    apply (follows_saveBindings _ rfl).imp
    rintro saved b ⟨existing, hb⟩
    refine ⟨trivial, fun _ _ => ⟨existing, ?_⟩⟩
    change (b.next _ _).stage = _
    simp only [Editor.next, hb]

theorem follows_delete (id : Uuid) : Follows (editing known).monitor (fun _ b => b.finished) ⟨id, [], .reading⟩
    (ServiceService.delete id) := by
  refine ⟨trivial, fun _ _ => ?_⟩
  change Follows (editing known).monitor _ ⟨id, _, .reading⟩ ((ServiceService.getById id).bind _)
  apply Follows.bind
  apply follows_serviceGetById.imp
  intro found b hb
  cases found with
  | none => trivial
  | some current =>
    rw [hb current rfl]
    apply Follows.bind
    apply (follows_updateGroupServiceBindings current []).imp
    rintro _ b rfl
    refine ⟨⟨rfl, rfl, rfl⟩, fun r _ => ?_⟩
    rcases r with e | ⟨⟩
    · trivial
    · exact ⟨trivial, fun _ _ => ⟨[], rfl⟩⟩

theorem follows_editCall (call : EditCall) : Follows (editing known).monitor (fun _ b => b.finished)
    (Editor.start call) call.program := by
  cases call with
  | update service =>
    apply Follows.bind
    exact (follows_update service).imp (fun _ _ hb => hb)
  | delete id => exact follows_delete id

end Editing

end VantageNet.Inventory
