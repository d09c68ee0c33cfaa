import VantageNet.Inventory.Editing

/-!
Two calls that change services beside each other: which bindings the groups list when both
are through.
-/

namespace VantageNet.Inventory

open Interaction Interaction.Program

/-- The call takes the binding away from its service. -/
def Editor.removes (db : Db) (a : Editor) (id : Uuid) : Prop :=
  ∃ b ∈ db.bindings.rows, b.id = id ∧ b.base.serviceId = a.serviceId ∧ ¬ (id ≠ Uuid.nil ∧ id ∈ a.asked)

/-- What the group had at the start is still there, in the same order, but for what was `removed`. -/
structure Kept (db : Db) (removed : Uuid → Prop) (groupId : Uuid) (listed : Uuid → ℤ → Prop) : Prop where
  present : ∀ m ∈ db.groupBindings.rows, m.base.groupId = groupId → ¬ removed m.base.bindingId →
    ∃ position, listed m.base.bindingId position
  ordered : ∀ m ∈ db.groupBindings.rows, ∀ n ∈ db.groupBindings.rows, m.base.groupId = groupId →
    n.base.groupId = groupId → m.base.position < n.base.position → ¬ removed m.base.bindingId →
    ¬ removed n.base.bindingId → ∀ p q, listed m.base.bindingId p → listed n.base.bindingId q → p < q

theorem Kept.congr {db : Db} {removed : Uuid → Prop} {groupId : Uuid} {listed listed' : Uuid → ℤ → Prop}
    (h : Kept db removed groupId listed) (hsub : ∀ id position, listed' id position → listed id position)
    (hkept : ∀ m ∈ db.groupBindings.rows, ¬ removed m.base.bindingId → ∀ position, listed m.base.bindingId position →
      listed' m.base.bindingId position) : Kept db removed groupId listed' := by
  constructor
  · intro m hm hgroup hnot
    obtain ⟨position, hlisted⟩ := h.present m hm hgroup hnot
    exact ⟨position, hkept m hm hnot position hlisted⟩
  · intro m hm n hn hmgroup hngroup hlt hmnot hnnot p q hp hq
    exact h.ordered m hm n hn hmgroup hngroup hlt hmnot hnnot p q (hsub _ _ hp) (hsub _ _ hq)

theorem mem_positioned {ids : List Uuid} {id : Uuid} {position : ℤ} :
    (id, position) ∈ positioned ids ↔ ∃ n : ℕ, ids[n]? = some id ∧ position = n := by
  simp only [positioned, List.mem_map, Prod.mk.injEq, Prod.exists, List.mem_zipIdx_iff_getElem?]
  constructor
  · rintro ⟨_, n, h, rfl, rfl⟩
    exact ⟨n, h, rfl⟩
  · rintro ⟨n, h, rfl⟩
    exact ⟨id, n, h, rfl, rfl⟩

/-- The members of the group as they were read, those apart that are not to be kept. -/
theorem Kept.of_members {db s : Db} {removed : Uuid → Prop} {groupId : Uuid} {members : List GroupBinding}
    (h : Kept db removed groupId (fun id p => ∃ m ∈ s.groupBindings.rows, m.base = ⟨groupId, id, p⟩))
    (hsorted : members.Pairwise (fun m n => m.base.position ≤ n.base.position))
    (hsub : ∀ m ∈ members, m ∈ s.groupBindings.rows ∧ m.base.groupId = groupId)
    (hkept : ∀ m ∈ s.groupBindings.rows, m.base.groupId = groupId → ¬ removed m.base.bindingId →
      (∃ n ∈ db.groupBindings.rows, n.base.bindingId = m.base.bindingId) → m ∈ members) :
    Kept db removed groupId (fun id p => (id, p) ∈ positioned (members.map (fun m => m.base.bindingId))) := by
  constructor
  · intro m hm hgroup hnot
    obtain ⟨position, n, hn, hbase⟩ := h.present m hm hgroup hnot
    have hid : n.base.bindingId = m.base.bindingId := by rw [hbase]
    have hmem := hkept n hn (by rw [hbase]) (hid ▸ hnot) ⟨m, hm, hid.symm⟩
    obtain ⟨i, hi, hget⟩ := List.getElem_of_mem hmem
    refine ⟨i, mem_positioned.mpr ⟨i, ?_, rfl⟩⟩
    rw [List.getElem?_map, List.getElem?_eq_getElem hi, hget, ← hid]
    rfl
  · intro m hm n hn hmgroup hngroup hlt hmnot hnnot p q hp hq
    obtain ⟨i, hi, rfl⟩ := mem_positioned.mp hp
    obtain ⟨j, hj, rfl⟩ := mem_positioned.mp hq
    rw [List.getElem?_map, Option.map_eq_some_iff] at hi hj
    obtain ⟨m', hm', hmid⟩ := hi
    obtain ⟨n', hn', hnid⟩ := hj
    obtain ⟨hmrow, hmgroup'⟩ := hsub m' (List.mem_of_getElem? hm')
    obtain ⟨hnrow, hngroup'⟩ := hsub n' (List.mem_of_getElem? hn')
    have hpositions : m'.base.position < n'.base.position := by
      refine h.ordered m hm n hn hmgroup hngroup hlt hmnot hnnot _ _ ⟨m', hmrow, ?_⟩ ⟨n', hnrow, ?_⟩
      · rw [← hmid, ← hmgroup']
      · rw [← hnid, ← hngroup']
    obtain ⟨hilt, hm'⟩ := List.getElem?_eq_some_iff.mp hm'
    obtain ⟨hjlt, hn'⟩ := List.getElem?_eq_some_iff.mp hn'
    by_contra hnot
    have hji : j ≤ i := by omega
    rcases Nat.lt_or_eq_of_le hji with hlt | rfl
    · have hle := List.pairwise_iff_getElem.mp hsorted j i hjlt hilt hlt
      rw [hm', hn'] at hle
      omega
    · rw [hm'] at hn'
      rw [hn'] at hpositions
      omega

/-- The group as it is about to be written keeps what it had. -/
def Planned (db : Db) (removed : Uuid → Prop) (g : Group) : Prop :=
  Kept db removed g.id (fun id position => (id, position) ∈ positioned g.base.bindingIds)

theorem planned_of_seen {db s : Db} {removed : Uuid → Prop} {current asked : List Uuid} {groups : List Group}
    {members : List GroupBinding} (hcurrent : ∀ m ∈ db.groupBindings.rows, ¬ removed m.base.bindingId →
      m.base.bindingId ∈ current → m.base.bindingId ∈ asked)
    (hkept : ∀ groupId, Kept db removed groupId (fun id p => ∃ m ∈ s.groupBindings.rows, m.base = ⟨groupId, id, p⟩))
    (hmembers : members.Perm (s.groupBindings.rows.filter (fun m => (groups.map Entity.id).contains m.base.groupId)))
    (hsorted : members.Pairwise (fun m n => m.base.position ≤ n.base.position)) :
    ∀ e ∈ groupsToUpdate current asked (groups.map (GroupService.withBindings members)), Planned db removed e := by
  intro e he
  obtain ⟨g', hg', rfl⟩ := List.mem_map.mp he
  obtain ⟨g, hg, rfl⟩ := List.mem_map.mp (List.mem_of_mem_filter hg')
  have hmem (m : GroupBinding) : m ∈ (members.filter (fun m => m.base.groupId = g.id)).filter
      (fun m => ServiceService.keptInGroup current asked m.base.bindingId) ↔
      m ∈ s.groupBindings.rows ∧ m.base.groupId = g.id ∧
        ServiceService.keptInGroup current asked m.base.bindingId = true := by
    rw [List.mem_filter, List.mem_filter, hmembers.mem_iff, List.mem_filter, decide_eq_true_eq, List.contains_iff_mem]
    constructor
    · rintro ⟨⟨⟨hrow, -⟩, hgroup⟩, hkeep⟩
      exact ⟨hrow, hgroup, hkeep⟩
    · rintro ⟨hrow, hgroup, hkeep⟩
      exact ⟨⟨⟨hrow, hgroup ▸ List.mem_map_of_mem hg⟩, hgroup⟩, hkeep⟩
  have hids : ((members.filter (fun m => m.base.groupId = g.id)).map (fun m => m.base.bindingId)).filter
      (ServiceService.keptInGroup current asked) =
      ((members.filter (fun m => m.base.groupId = g.id)).filter
        (fun m => ServiceService.keptInGroup current asked m.base.bindingId)).map (fun m => m.base.bindingId) :=
    List.filter_map
  change Kept db removed g.id (fun id position => (id, position) ∈ positioned
    (((members.filter (fun m => m.base.groupId = g.id)).map (fun m => m.base.bindingId)).filter
      (ServiceService.keptInGroup current asked)))
  rw [hids]
  refine (hkept g.id).of_members ((hsorted.filter _).filter _) (fun m hm => ?_) (fun m hm hgroup hnot hlisted => ?_)
  · obtain ⟨hrow, hgroup, -⟩ := (hmem m).mp hm
    exact ⟨hrow, hgroup⟩
  · refine (hmem m).mpr ⟨hm, hgroup, ?_⟩
    obtain ⟨n, hn, hid⟩ := hlisted
    rw [← hid] at hnot ⊢
    unfold ServiceService.keptInGroup
    by_cases hin : n.base.bindingId ∈ current
    · simp [hcurrent n hn hnot hin]
    · simp [hin]

abbrev EditRun := Tracked dbSig Error Lock EditCall Db Editor

abbrev EditTick := Tick dbSig EditCall

def EditStage.busy : EditStage → Bool
  | .holding _ | .rewriting _ _ _ => true
  | _ => false

def EditStage.rewrites : EditStage → Bool
  | .rewriting _ _ _ => true
  | _ => false

/-- The call is through with the groups. -/
def EditStage.past : EditStage → Bool
  | .released | .removing _ _ | .removed _ => true
  | _ => false

def EditStage.edits : EditStage → List Group
  | .seen edits | .holding edits | .rewriting _ _ edits => edits
  | _ => []

/-- The group has the binding at the position. -/
def Db.lists (s : Db) (groupId id : Uuid) (position : ℤ) : Prop :=
  ∃ m ∈ s.groupBindings.rows, m.base = ⟨groupId, id, position⟩

/-- The call is about to give the group the binding at the position. -/
def EditStage.lists (stage : EditStage) (groupId id : Uuid) (position : ℤ) : Prop :=
  ∃ todo rest, stage = .rewriting groupId todo rest ∧ (id, position) ∈ todo

theorem lists_resume {g groupId id : Uuid} {position : ℤ} (rest : List Group) (todo : List (Uuid × ℤ)) :
    (EditStage.resume g rest todo).lists groupId id position ↔ groupId = g ∧ (id, position) ∈ todo := by
  cases todo with
  | nil =>
    constructor
    · rintro ⟨_, _, h, -⟩
      cases h
    · rintro ⟨-, h⟩
      cases h
  | cons member todo =>
    constructor
    · rintro ⟨_, _, h, hmem⟩
      cases h
      exact ⟨rfl, hmem⟩
    · rintro ⟨rfl, hmem⟩
      exact ⟨_, _, rfl, hmem⟩

/-- What a call knows of its own bindings, where those of `taken` have been taken away already. -/
def Editor.knows (db : Db) (removed taken : Uuid → Prop) (a : Editor) : Prop :=
  match a.stage with
  | .loaded current | .listed current _ => ∀ m ∈ db.groupBindings.rows, ¬ removed m.base.bindingId →
      m.base.bindingId ∈ current → m.base.bindingId ∈ a.asked
  | .removing ids existing =>
    (∀ b ∈ db.bindings.rows, b.id ∈ existing → b.base.serviceId = a.serviceId ∨ taken b.id) ∧
    (∀ b ∈ db.bindings.rows, b.id ∈ ids → a.removes db b.id ∨ taken b.id) ∧
    ∀ id, a.removes db id → id ∈ ids ∨ taken id
  | .removed existing => ∀ b ∈ db.bindings.rows, b.id ∈ existing → b.base.serviceId = a.serviceId ∨ taken b.id
  | _ => True

theorem Editor.knows.mono {db : Db} {removed taken taken' : Uuid → Prop} {a : Editor} (h : a.knows db removed taken)
    (htaken : ∀ id, taken id → taken' id) : a.knows db removed taken' := by
  obtain ⟨serviceId, asked, stage⟩ := a
  cases stage with
  | removing ids existing =>
    obtain ⟨hexisting, hids, hall⟩ := h
    exact ⟨fun b hb hid => (hexisting b hb hid).imp_right (htaken _), fun b hb hid => (hids b hb hid).imp_right (htaken _),
      fun id hid => (hall id hid).imp_right (htaken _)⟩
  | removed existing => exact fun b hb hid => (h b hb hid).imp_right (htaken _)
  | _ => exact h

/-- The binding is stored, with the service it belonged to at the start. -/
def Stands (s : Db) (b : Binding) : Prop := ∃ r ∈ s.bindings.rows, r.id = b.id ∧ r.base.serviceId = b.base.serviceId

theorem Stands.serviceId_eq {s : Db} {b r : Binding} (h : Stands s b) (hr : r ∈ s.bindings.rows) (hid : r.id = b.id) :
    r.base.serviceId = b.base.serviceId := by
  obtain ⟨r', hr', hid', hservice⟩ := h
  obtain rfl := eq_of_id_eq (k := .binding) hr hr' (hid.trans hid'.symm)
  exact hservice

/-- The groups have, or are about to be given, the bindings they had, but for removed ones. -/
structure ListsKept (db : Db) (removed : Uuid → Prop) (s : Db) (stage : EditStage) (t : Db) (stage' : EditStage) : Prop where
  old : ∀ g id p, t.lists g id p ∨ stage'.lists g id p → s.lists g id p ∨ stage.lists g id p
  kept : ∀ n ∈ db.groupBindings.rows, ¬ removed n.base.bindingId → ∀ g p,
    s.lists g n.base.bindingId p ∨ stage.lists g n.base.bindingId p → t.lists g n.base.bindingId p ∨ stage'.lists g n.base.bindingId p

section lists

variable {db s t : Db} {removed : Uuid → Prop} {stage stage' : EditStage}

theorem not_lists_of_not_busy {stage : EditStage} (hbusy : stage.busy = false) (g id : Uuid) (p : ℤ) :
    ¬ stage.lists g id p := by
  rintro ⟨_, _, rfl, -⟩
  cases hbusy

theorem lists_congr (hmembers : t.groupBindings = s.groupBindings) (g id : Uuid) (p : ℤ) :
    t.lists g id p ↔ s.lists g id p := by rw [Db.lists, Db.lists, hmembers]

theorem lists_append {groupId id : Uuid} {position : ℤ} {row : GroupBinding} (hbase : row.base = ⟨groupId, id, position⟩)
    (hmembers : t.groupBindings.rows = s.groupBindings.rows ++ [row]) (g i : Uuid) (p : ℤ) :
    t.lists g i p ↔ s.lists g i p ∨ g = groupId ∧ i = id ∧ p = position := by
  unfold Db.lists
  rw [hmembers]
  constructor
  · rintro ⟨m, hm, hm'⟩
    rcases List.mem_append.mp hm with hm | hm
    · exact .inl ⟨m, hm, hm'⟩
    · obtain rfl := List.mem_singleton.mp hm
      rw [hbase] at hm'
      cases hm'
      exact .inr ⟨rfl, rfl, rfl⟩
  · rintro (⟨m, hm, hm'⟩ | ⟨rfl, rfl, rfl⟩)
    · exact ⟨m, List.mem_append_left _ hm, hm'⟩
    · exact ⟨row, by simp, hbase⟩

theorem ListsKept.of_iff
    (h : ∀ g id p, t.lists g id p ∨ stage'.lists g id p ↔ s.lists g id p ∨ stage.lists g id p) :
    ListsKept db removed s stage t stage' :=
  ⟨fun g id p => (h g id p).mp, fun _ _ _ g p => (h g _ p).mpr⟩

theorem ListsKept.idle (hbusy : stage.busy = false) (hbusy' : stage'.busy = false)
    (hmembers : t.groupBindings = s.groupBindings) : ListsKept db removed s stage t stage' :=
  .of_iff (fun g id p => or_congr (lists_congr hmembers g id p)
    (iff_of_false (not_lists_of_not_busy hbusy' g id p) (not_lists_of_not_busy hbusy g id p)))

/-- Bindings are deleted, and with them the members of groups that are bound to them. -/
theorem ListsKept.deleted (hlinked : db.Linked) (p : Binding → Bool) (hbusy : stage.busy = false) (hbusy' : stage'.busy = false)
    (hp : ∀ b ∈ db.bindings.rows, ¬ removed b.id → ∀ r ∈ s.bindings.rows, r.id = b.id → p r = false)
    (hmembers : t.groupBindings = (s.deleteBindings p).groupBindings) : ListsKept db removed s stage t stage' := by
  constructor
  · rintro g id q (⟨m, hm, hbase⟩ | hlists)
    · rw [hmembers] at hm
      exact .inl ⟨m, (List.mem_filter.mp hm).1, hbase⟩
    · exact absurd hlists (not_lists_of_not_busy hbusy' g id q)
  · intro n hn hnot g q hlists
    obtain ⟨m, hm, hbase⟩ := hlists.resolve_right (not_lists_of_not_busy hbusy g _ q)
    obtain ⟨b, hb, hid⟩ := hlinked n hn
    refine .inl ⟨m, ?_, hbase⟩
    rw [hmembers]
    refine List.mem_filter.mpr ⟨hm, ?_⟩
    rw [Bool.not_eq_true', List.any_eq_false]
    intro r hr hand
    obtain ⟨hpr, hrid⟩ := Bool.and_eq_true_iff.mp hand
    have hrid : r.id = b.id := by
      rw [of_decide_eq_true hrid, hbase, hid]
    rw [hp b hb (hid ▸ hnot) r hr hrid] at hpr
    cases hpr

end lists

namespace EditStep

variable {known : List Uuid} {a a' : Editor} {db s t : Db} {removed taken : Uuid → Prop}

theorem same (h : EditStep known a s a' t) : a'.serviceId = a.serviceId ∧ a'.asked = a.asked := by
  cases h <;> exact ⟨rfl, rfl⟩

theorem removes_iff (h : EditStep known a s a' t) (id : Uuid) : a'.removes db id ↔ a.removes db id := by
  rw [Editor.removes, Editor.removes, h.same.1, h.same.2]

theorem eq_of_finished (h : EditStep known a s a' t) (ha : a.finished) : a' = a := by
  obtain ⟨existing, ha⟩ := ha
  cases h with
  | quiet | store | revise => rfl
  | load hstage | list hstage | see hstage | enter hstage | clear hstage | write hstage | leave hstage | look hstage
  | drop hstage | discard hstage => cases ha.symm.trans hstage

theorem past_of_past (h : EditStep known a s a' t) (ha : a.stage.past = true) : a'.stage.past = true := by
  cases h with
  | quiet | store | revise => exact ha
  | load hstage | list hstage | see hstage | enter hstage | clear hstage | write hstage | leave hstage =>
    rw [hstage] at ha
    cases ha
  | look hstage =>
    change (a.dropped _).past = true
    unfold Editor.dropped
    split_ifs <;> rfl
  | drop | discard => rfl

/-- A binding of the start goes with the call that removes it only. -/
theorem stands (h : EditStep known a s a' t) (hknows : a.knows db removed taken) {b : Binding}
    (hb : b ∈ db.bindings.rows) (hs : Stands s b) : Stands t b ∨ (a'.finished ∧ a'.removes db b.id) ∨ taken b.id := by
  obtain ⟨r, hr, hid, hservice⟩ := hs
  cases h with
  | quiet hbindings => exact .inl ⟨r, by rw [hbindings]; exact hr, hid, hservice⟩
  | load | list | see | enter | clear | leave | look => exact .inl ⟨r, hr, hid, hservice⟩
  | write _ _ _ hbindings => exact .inl ⟨r, by rw [hbindings]; exact hr, hid, hservice⟩
  | @drop ids existing hstage =>
    rw [Editor.knows, hstage] at hknows
    by_cases hmem : b.id ∈ ids
    · exact .inr ((hknows.2.1 b hb hmem).imp_left (fun hremoves => ⟨⟨existing, rfl⟩, hremoves⟩))
    · refine .inl ⟨r, List.mem_filter.mpr ⟨hr, ?_⟩, hid, hservice⟩
      simpa [hid] using hmem
  | discard hstage hasked =>
    by_cases hown : b.base.serviceId = a.serviceId
    · exact .inr (.inl ⟨⟨[], rfl⟩, b, hb, rfl, hown, by simp [hasked]⟩)
    · refine .inl ⟨r, List.mem_filter.mpr ⟨hr, ?_⟩, hid, hservice⟩
      simp only [Bool.not_eq_true', List.any_eq_false, Bool.and_eq_true, decide_eq_true_eq]
      rintro x - ⟨hx, hrx⟩
      exact hown (hservice.symm.trans (hrx.trans hx))
  | store _ _ hbindings => exact .inl ⟨r, by rw [hbindings]; exact List.mem_append_left _ hr, hid, hservice⟩
  | @revise existing row _ hstage hmem hown _ hbindings =>
    rw [Editor.knows, hstage] at hknows
    by_cases hrow : r.id = row.id
    · rcases hknows b hb (by rw [← hid, hrow]; exact hmem) with hbs | htaken
      · exact .inl ⟨row, (hbindings row).mpr (.inl rfl), hrow.symm.trans hid, hown.trans hbs.symm⟩
      · exact .inr (.inr htaken)
    · exact .inl ⟨r, (hbindings r).mpr (.inr ⟨hr, hrow⟩), hid, hservice⟩

theorem knows (h : EditStep known a s a' t) (hlinked : db.Linked) (hremoved : ∀ id, a.removes db id → removed id)
    (htaken : ∀ id, taken id → removed id) (hstands : ∀ b ∈ db.bindings.rows, Stands s b ∨ taken b.id)
    (hknows : a.knows db removed taken) : a'.knows db removed taken := by
  have hown {rows : List Binding} (hrows : rows.Perm (s.bindings.rows.filter (fun b => b.base.serviceId = a.serviceId)))
      {b : Binding} (hb : b ∈ db.bindings.rows) (hid : b.id ∈ rows.map Entity.id) :
      b.base.serviceId = a.serviceId ∨ taken b.id := by
    obtain ⟨r, hr, hrid⟩ := List.mem_map.mp hid
    obtain ⟨hr, hservice⟩ := List.mem_filter.mp (hrows.mem_iff.mp hr)
    exact (hstands b hb).imp_left (fun hstands =>
      (hstands.serviceId_eq hr hrid).symm.trans (of_decide_eq_true hservice))
  cases h with
  | quiet | store | revise => exact hknows
  | list hstage =>
    rw [Editor.knows, hstage] at hknows
    rw [Editor.knows]
    dsimp only
    split_ifs
    · trivial
    · exact hknows
  | @load rows hstage hrows =>
    intro m hm hnot hid
    by_contra hasked
    obtain ⟨b, hb, hbid⟩ := hlinked m hm
    rw [← hbid] at hnot hasked hid
    rcases hown hrows hb hid with hservice | hgone
    · exact hnot (hremoved _ ⟨b, hb, rfl, hservice, fun hand => hasked hand.2⟩)
    · exact hnot (htaken _ hgone)
  | see | enter | leave => trivial
  | @clear g rest =>
    cases hlist : positioned g.base.bindingIds <;> (rw [Editor.knows]; trivial)
  | @write groupId id position todo rest =>
    cases todo <;> (rw [Editor.knows]; trivial)
  | @look rows hstage hrows =>
    rw [Editor.knows]
    dsimp only [Editor.dropped]
    split_ifs
    · exact fun b hb hid => hown hrows hb hid
    · refine ⟨fun b hb hid => hown hrows hb hid, fun b hb hid => ?_, fun id hid => ?_⟩
      · obtain ⟨hmem, hnot⟩ := Editor.mem_idsToDelete.mp hid
        exact (hown hrows hb hmem).imp_left (fun hservice => ⟨b, hb, rfl, hservice, hnot⟩)
      · obtain ⟨b, hb, rfl, hservice, hnot⟩ := hid
        refine (hstands b hb).imp_left (fun hstands => Editor.mem_idsToDelete.mpr ⟨?_, hnot⟩)
        obtain ⟨r, hr, hrid, hrservice⟩ := hstands
        refine List.mem_map.mpr ⟨r, hrows.mem_iff.mpr (List.mem_filter.mpr ⟨hr, ?_⟩), hrid⟩
        exact decide_eq_true (hrservice.trans hservice)
  | drop hstage =>
    rw [Editor.knows, hstage] at hknows
    exact hknows.1
  | discard => exact fun b _ hid => (nomatch hid)

/-- When a call is through, no group lists what it removes. -/
theorem gone_of_finished (h : EditStep known a s a' t) (hnot : ¬ a.finished) (hfinished : a'.finished)
    (howned : s.Owned) (hlinked : s.Linked) (hstands : ∀ b ∈ db.bindings.rows, Stands s b ∨ taken b.id)
    (hknows : a.knows db removed taken) {id : Uuid} (hid : a.removes db id) :
    ((∀ m ∈ t.groupBindings.rows, m.base.bindingId ≠ id) ∧ t.has .binding id = false) ∨ taken id := by
  have hdeleted {p : Binding → Bool} (hp : ∀ r ∈ s.bindings.rows, r.id = id → p r = true) :
      (∀ m ∈ (s.deleteBindings p).groupBindings.rows, m.base.bindingId ≠ id) ∧
        (s.deleteBindings p).has .binding id = false := by
    constructor
    · rintro m hm rfl
      obtain ⟨hm, hkept⟩ := List.mem_filter.mp hm
      obtain ⟨r, hr, hrid⟩ := hlinked m hm
      have hany : s.bindings.rows.any (fun b => p b && b.id = m.base.bindingId) = true :=
        List.any_eq_true.mpr ⟨r, hr, by simp [hp r hr hrid, hrid]⟩
      simp [hany] at hkept
    · rw [← Bool.not_eq_true, has_iff]
      rintro ⟨r, hr, hrid⟩
      obtain ⟨hr, hkept⟩ := List.mem_filter.mp hr
      simp [hp r hr hrid] at hkept
  obtain ⟨existing, hfinished⟩ := hfinished
  cases h with
  | quiet | store | revise => exact absurd ⟨existing, hfinished⟩ hnot
  | load | see | enter | leave => cases hfinished
  | @list _ groups =>
    cases groups <;> cases hfinished
  | @clear g rest =>
    change EditStage.resume _ _ (positioned g.base.bindingIds) = _ at hfinished
    cases hlist : positioned g.base.bindingIds <;> (rw [hlist] at hfinished; cases hfinished)
  | @write groupId id position todo rest =>
    cases todo <;> cases hfinished
  | @look rows hstage hrows =>
    obtain ⟨b, hb, rfl, hservice, hkeep⟩ := hid
    refine .inr ((hstands b hb).resolve_left (fun hstands => ?_))
    obtain ⟨r, hr, hrid, hrservice⟩ := hstands
    have hmem : b.id ∈ a.idsToDelete (rows.map Entity.id) := by
      refine Editor.mem_idsToDelete.mpr ⟨List.mem_map.mpr ⟨r, hrows.mem_iff.mpr ?_, hrid⟩, hkeep⟩
      exact List.mem_filter.mpr ⟨hr, decide_eq_true (hrservice.trans hservice)⟩
    change a.dropped _ = _ at hfinished
    unfold Editor.dropped at hfinished
    split_ifs at hfinished with hempty
    rw [List.isEmpty_iff.mp hempty] at hmem
    cases hmem
  | @drop ids _ hstage =>
    rw [Editor.knows, hstage] at hknows
    refine (hknows.2.2 id hid).imp_left (fun hmem => hdeleted (fun r _ hrid => ?_))
    exact List.contains_iff_mem.mpr (hrid ▸ hmem)
  | discard hstage hasked =>
    obtain ⟨b, hb, rfl, hservice, -⟩ := hid
    refine (hstands b hb).imp_left (fun hstands => hdeleted (fun r hr hrid => ?_))
    obtain ⟨x, hx, hxid⟩ := howned r hr
    have hrservice := hstands.serviceId_eq hr hrid
    refine List.any_eq_true.mpr ⟨x, hx, ?_⟩
    simp [hxid, hrservice, hservice]

theorem has_of_has (h : EditStep known a s a' t) {id : Uuid} (ht : t.has .binding id = true) :
    s.has .binding id = true ∨ a.finished ∧ (id ∈ a.asked ∧ id ≠ Uuid.nil ∨ id ∉ known) := by
  rw [has_iff] at ht ⊢
  obtain ⟨r, hr, rfl⟩ := ht
  cases h with
  | quiet hbindings | write _ _ _ hbindings =>
    change r ∈ t.bindings.rows at hr
    rw [hbindings] at hr
    exact .inl ⟨r, hr, rfl⟩
  | load | list | see | enter | clear | leave | look => exact .inl ⟨r, hr, rfl⟩
  | drop | discard => exact .inl ⟨r, (List.mem_filter.mp hr).1, rfl⟩
  | @store existing row _ hstage hid hbindings =>
    change r ∈ t.bindings.rows at hr
    rw [hbindings] at hr
    rcases List.mem_append.mp hr with hr | hr
    · exact .inl ⟨r, hr, rfl⟩
    · obtain rfl := List.mem_singleton.mp hr
      exact .inr ⟨⟨existing, hstage⟩, hid⟩
  | revise _ _ _ hhas hbindings =>
    rcases (hbindings r).mp hr with rfl | ⟨hr, -⟩
    · exact .inl ((has_iff s .binding _).mp hhas)
    · exact .inl ⟨r, hr, rfl⟩

theorem mem_of_mem_members (h : EditStep known a s a' t) {m : GroupBinding} (hm : m ∈ t.groupBindings.rows) :
    m ∈ s.groupBindings.rows ∨ s.has .binding m.base.bindingId = true ∧ a.stage.past = false := by
  cases h with
  | quiet _ hmembers | store _ _ _ hmembers | revise _ _ _ _ _ hmembers => exact .inl (hmembers ▸ hm)
  | load | list | see | enter | leave | look => exact .inl hm
  | clear | drop | discard => exact .inl (List.mem_filter.mp hm).1
  | write hstage hbase hhas _ hmembers =>
    rw [hmembers] at hm
    rcases List.mem_append.mp hm with hm | hm
    · exact .inl hm
    · obtain rfl := List.mem_singleton.mp hm
      rw [hbase, hstage]
      exact .inr ⟨hhas, rfl⟩

/-- What a call may come to write, which it has read of the members. -/
theorem edits_cases (h : EditStep known a s a' t) : (∀ e ∈ a'.stage.edits, e ∈ a.stage.edits) ∨
    ∃ current groups members, a.stage = .listed current groups ∧
      members.Perm (s.groupBindings.rows.filter (fun m => (groups.map Entity.id).contains m.base.groupId)) ∧
      members.Pairwise (fun m n => m.base.position ≤ n.base.position) ∧
      a'.stage.edits = groupsToUpdate current a.asked (groups.map (GroupService.withBindings members)) := by
  cases h with
  | quiet | store | revise => exact .inl (fun _ he => he)
  | load | leave | drop | discard => exact .inl (fun _ he => (nomatch he))
  | @list _ groups => cases groups <;> exact .inl (fun _ he => (nomatch he))
  | see hstage hmembers hsorted => exact .inr ⟨_, _, _, hstage, hmembers, hsorted, rfl⟩
  | enter hstage =>
    rw [hstage]
    exact .inl (fun _ he => he)
  | @clear g rest hstage =>
    rw [hstage]
    refine .inl (fun e he => List.mem_cons_of_mem g ?_)
    change e ∈ (EditStage.resume g.id rest (positioned g.base.bindingIds)).edits at he
    cases hlist : positioned g.base.bindingIds <;> (rw [hlist] at he; exact he)
  | @write _ _ _ todo rest _ _ hstage =>
    rw [hstage]
    refine .inl (fun e he => ?_)
    cases todo <;> exact he
  | @look rows =>
    refine .inl (fun e he => ?_)
    change e ∈ (a.dropped (rows.map Entity.id)).edits at he
    unfold Editor.dropped at he
    split_ifs at he <;> cases he

theorem busy_cases (h : EditStep known a s a' t) (hbusy : a'.stage.busy = true) :
    a.stage.busy = true ∨ ∃ edits, a.stage = .seen edits := by
  cases h with
  | quiet | store | revise => exact .inl hbusy
  | load | see | leave | drop | discard => cases hbusy
  | @list _ groups => cases groups <;> cases hbusy
  | enter hstage => exact .inr ⟨_, hstage⟩
  | clear hstage | write hstage =>
    rw [hstage]
    exact .inl rfl
  | look hstage =>
    change (a.dropped _).busy = true at hbusy
    unfold Editor.dropped at hbusy
    split_ifs at hbusy <;> cases hbusy

/-- A group is cleared to be written anew, or it has what it had but for what is removed. -/
theorem lists_cases (h : EditStep known a s a' t) (hlinked : db.Linked) (hremoved : ∀ id, a.removes db id → removed id)
    (htaken : ∀ id, taken id → removed id) (hstands : ∀ b ∈ db.bindings.rows, Stands s b ∨ taken b.id)
    (hknows : a.knows db removed taken) :
    (∃ e rest, a.stage = .holding (e :: rest) ∧
      (∀ g id p, t.lists g id p ↔ s.lists g id p ∧ g ≠ e.id) ∧
      ∀ g id p, a'.stage.lists g id p ↔ g = e.id ∧ (id, p) ∈ positioned e.base.bindingIds) ∨
    ListsKept db removed s a.stage t a'.stage := by
  cases h with
  | quiet _ hmembers | store _ _ _ hmembers | revise _ _ _ _ _ hmembers =>
    exact .inr (.of_iff (fun g id p => by rw [lists_congr hmembers]))
  | load hstage => exact .inr (.idle (by rw [hstage]; rfl) rfl rfl)
  | @list _ groups hstage => exact .inr (.idle (by rw [hstage]; rfl) (by cases groups <;> rfl) rfl)
  | see hstage => exact .inr (.idle (by rw [hstage]; rfl) rfl rfl)
  | enter hstage | leave hstage =>
    refine .inr (.of_iff (fun g id p => or_congr_right (iff_of_false ?_ ?_)))
    · rintro ⟨_, _, h, -⟩
      cases h
    · rintro ⟨_, _, h, -⟩
      cases hstage.symm.trans h
  | @clear e rest hstage =>
    refine .inl ⟨e, rest, hstage, fun g id p => ?_, fun g id p => lists_resume _ _⟩
    constructor
    · rintro ⟨m, hm, hbase⟩
      obtain ⟨hm, hne⟩ := List.mem_filter.mp hm
      refine ⟨⟨m, hm, hbase⟩, ?_⟩
      simpa [hbase] using hne
    · rintro ⟨⟨m, hm, hbase⟩, hne⟩
      exact ⟨m, List.mem_filter.mpr ⟨hm, by simpa [hbase] using hne⟩, hbase⟩
  | @write groupId id position todo rest row _ hstage hbase _ _ hmembers =>
    have htodo (g i : Uuid) (p : ℤ) : a.stage.lists g i p ↔ g = groupId ∧ (i, p) ∈ (id, position) :: todo := by
      rw [hstage]
      exact lists_resume rest ((id, position) :: todo)
    refine .inr (.of_iff (fun g i p => ?_))
    rw [lists_append hbase hmembers, htodo, lists_resume, List.mem_cons, Prod.mk.injEq]
    tauto
  | @look rows hstage =>
    refine .inr (.idle (by rw [hstage]; rfl) ?_ rfl)
    change (a.dropped _).busy = false
    unfold Editor.dropped
    split_ifs <;> rfl
  | @drop ids existing hstage =>
    rw [Editor.knows, hstage] at hknows
    refine .inr (.deleted hlinked _ (by rw [hstage]; rfl) rfl (fun b hb hnot r _ hrid => ?_) rfl)
    rw [← Bool.not_eq_true, List.contains_iff_mem, hrid]
    exact fun hmem => hnot ((hknows.2.1 b hb hmem).elim (hremoved _) (htaken _))
  | discard hstage hasked =>
    refine .inr (.deleted hlinked _ (by rw [hstage]; rfl) rfl (fun b hb hnot r hr hrid => ?_) rfl)
    rw [List.any_eq_false]
    intro x _ hand
    obtain ⟨hx, hrx⟩ := Bool.and_eq_true_iff.mp hand
    rcases hstands b hb with hstands | hgone
    · have hservice : b.base.serviceId = a.serviceId :=
        (hstands.serviceId_eq hr hrid).symm.trans ((of_decide_eq_true hrx).trans (of_decide_eq_true hx))
      exact hnot (hremoved _ ⟨b, hb, rfl, hservice, by simp [hasked]⟩)
    · exact hnot (htaken _ hgone)

end EditStep

theorem Editor.next_of_seen {a : Editor} {edits : List Group} (hstage : a.stage = .seen edits) {o : DbOp}
    (hnot : o ≠ .acquire .groupUpdate) (r : o.Reply) : (a.next o r).stage = .seen edits := by
  obtain ⟨serviceId, asked, stage⟩ := a
  subst hstage
  cases o with
  | acquire lock =>
    cases lock with
    | groupUpdate => exact absurd rfl hnot
    | _ => rfl
  | _ => rfl

theorem Editor.next_of_listed {a : Editor} {current : List Uuid} {groups : List Group}
    (hstage : a.stage = .listed current groups) {o : DbOp} (hnot : ¬ ∃ f order, o = .list .groupBinding f order)
    (r : o.Reply) : a.next o r = a := by
  obtain ⟨serviceId, asked, stage⟩ := a
  subst hstage
  cases o with
  | list k f order =>
    cases k with
    | groupBinding => exact absurd ⟨f, order, rfl⟩ hnot
    | _ => rfl
  | _ => rfl

/-- The lock of the groups is held for as long as they are written. -/
theorem Editor.held_of_busy {known : List Uuid} {a : Editor} {o : DbOp} {answer : o.Reply} {s : Db}
    {held : List (Lock × Bool)} (hok : a.ok known o) (hheld : a.stage.busy = true → (Lock.groupUpdate, true) ∈ held)
    (hbusy : (a.next o (dbStep o answer s).1).stage.busy = true) :
    (Lock.groupUpdate, true) ∈ (DbOp.lockAction o).held held := by
  have hcases := (Editor.step hok answer s).busy_cases hbusy
  have hsame (hseen : ∀ edits, a.stage = .seen edits → ∀ r, (a.next o r).stage = .seen edits)
      (hlock : DbOp.lockAction o = .none) : (Lock.groupUpdate, true) ∈ (DbOp.lockAction o).held held := by
    rw [hlock]
    rcases hcases with hbusy' | ⟨edits, hstage⟩
    · exact hheld hbusy'
    · rw [hseen edits hstage] at hbusy
      cases hbusy
  cases o with
  | acquire lock =>
    by_cases hlock : lock = .groupUpdate
    · subst hlock
      exact List.mem_cons_self
    · have hnext : ∀ r, a.next (.acquire lock) r = a := fun _ => (Editor.next_lock_of_ne hlock).1
      rw [hnext] at hbusy
      exact List.mem_cons_of_mem _ (hheld hbusy)
  | release lock =>
    by_cases hlock : lock = .groupUpdate
    · subst hlock
      obtain ⟨serviceId, asked, stage⟩ := a
      change stage = .holding [] at hok
      subst hok
      cases hbusy
    · have hnext : ∀ r, a.next (.release lock) r = a := fun _ => (Editor.next_lock_of_ne hlock).2
      rw [hnext] at hbusy
      exact List.mem_filter.mpr ⟨hheld hbusy, by simpa using Ne.symm hlock⟩
  | _ => exact hsame (fun edits hstage r => Editor.next_of_seen hstage (by simp) r) rfl

/-- The binding has been taken away by a call that is through. -/
def Taken (db : Db) (w : EditRun) (id : Uuid) : Prop := ∃ j, (w.points j).finished ∧ (w.points j).removes db id

/-- The group has the binding at the position, or is about to. -/
def Listed (w : EditRun) (groupId id : Uuid) (position : ℤ) : Prop :=
  w.pool.state.lists groupId id position ∨ ∃ j, (w.points j).stage.lists groupId id position

def failed (w : EditRun) : Prop := ∃ j e, w.prog j = some (.fail e)

/-- While no call has failed, one at a time writes groups, and they have what they had. -/
structure Intact (db : Db) (removed : Uuid → Prop) (w : EditRun) : Prop where
  alone : ∀ i j, i ≠ j → (w.points i).stage.busy = true → (w.points j).stage.busy = false
  planned : ∀ j, ∀ e ∈ (w.points j).stage.edits, Planned db removed e
  kept : ∀ g, Kept db removed g (Listed w g)

structure Curated (db : Db) (removed : Uuid → Prop) (known : List Uuid) (w : EditRun) : Prop where
  owned : w.pool.state.Owned
  linked : w.pool.state.Linked
  two : ∀ j, w.prog j ≠ none → j < 2
  idle : ∀ j, w.prog j = none → (w.points j).stage = .reading
  follows : ∀ j p, w.prog j = some p → Follows (editing known).monitor (fun _ a => a.finished) (w.points j) p
  removes : ∀ j, w.prog j ≠ none → ∀ id, (w.points j).removes db id → removed id
  asks : ∀ id, removed id → ∃ j, w.prog j ≠ none ∧ (w.points j).removes db id
  held : ∀ (j : ℕ) t, w.pool.threads[j]? = some t → w.running j = true → (w.points j).stage.busy = true →
    (Lock.groupUpdate, true) ∈ t.held
  stands : ∀ b ∈ db.bindings.rows, Stands w.pool.state b ∨ Taken db w b.id
  gone : ∀ id, Taken db w id → (∀ m ∈ w.pool.state.groupBindings.rows, m.base.bindingId ≠ id) ∧
    (w.pool.state.has .binding id = true → ∀ i, w.prog i ≠ none → (w.points i).stage.past = true)
  knows : ∀ j, (w.points j).knows db removed (Taken db w)
  intact : ¬ failed w → Intact db removed w

/-- No members of groups are read while another call is about to create members that it has deleted. -/
def undisturbed (w : EditRun) (i : ℕ) : DbOp → Prop
  | .list .groupBinding _ _ => ∀ j < w.pool.threads.length, j ≠ i → (w.points j).stage.rewrites = false
  | _ => True

namespace Curated

variable {db : Db} {removed : Uuid → Prop} {known : List Uuid} {w w' : EditRun}

theorem passes (h : Curated db removed known w) (hpass : Tracking.Passes w w') : Curated db removed known w' := by
  have hrunning (j : ℕ) : w'.running j = w.running j := by
    unfold Tracked.running
    rw [hpass.prog j]
  have htaken : Taken db w' = Taken db w := by
    unfold Taken
    rw [hpass.points]
  have hlisted : Listed w' = Listed w := by
    unfold Listed
    rw [hpass.state, hpass.points]
  constructor
  · rw [hpass.state]
    exact h.owned
  · rw [hpass.state]
    exact h.linked
  · intro j hj
    exact h.two j (hpass.prog j ▸ hj)
  · intro j hj
    rw [hpass.points]
    exact h.idle j (hpass.prog j ▸ hj)
  · intro j p hp
    rw [hpass.points]
    exact h.follows j p (hpass.prog j ▸ hp)
  · intro j hj
    rw [hpass.points]
    exact h.removes j (hpass.prog j ▸ hj)
  · intro id hid
    obtain ⟨j, hj, hremoves⟩ := h.asks id hid
    exact ⟨j, (hpass.prog j).symm ▸ hj, by rwa [hpass.points]⟩
  · intro j t ht hrun hbusy
    rw [hpass.points] at hbusy
    exact h.held j t (hpass.held j t hrun ht) (hrunning j ▸ hrun) hbusy
  · rw [hpass.state, htaken]
    exact h.stands
  · rw [htaken]
    intro id hid
    obtain ⟨hmembers, hhas⟩ := h.gone id hid
    rw [hpass.state]
    refine ⟨hmembers, fun hb i hi => ?_⟩
    rw [hpass.points]
    exact hhas hb i (hpass.prog i ▸ hi)
  · rw [htaken, hpass.points]
    exact h.knows
  · intro hnot
    have hintact := h.intact (fun ⟨j, e, hfail⟩ => hnot ⟨j, e, (hpass.prog j).trans hfail⟩)
    refine ⟨?_, ?_, ?_⟩
    · rw [hpass.points]
      exact hintact.alone
    · rw [hpass.points]
      exact hintact.planned
    · rw [hlisted]
      exact hintact.kept

theorem prog_of_finished (h : Curated db removed known w) {j : ℕ} (hj : (w.points j).finished) : w.prog j ≠ none := by
  intro hnone
  obtain ⟨existing, hstage⟩ := hj
  cases (h.idle j hnone).symm.trans hstage

theorem removed_of_taken (h : Curated db removed known w) {id : Uuid} (hid : Taken db w id) : removed id := by
  obtain ⟨j, hfinished, hremoves⟩ := hid
  exact h.removes j (h.prog_of_finished hfinished) id hremoves

theorem running_of_busy (h : Curated db removed known w) (hfailed : ¬ failed w) {j : ℕ}
    (hbusy : (w.points j).stage.busy = true) : w.running j = true := by
  rw [Tracked.running_iff]
  rcases hprog : w.prog j with _ | x | e | ⟨o, k⟩
  · rw [h.idle j hprog] at hbusy
    cases hbusy
  · obtain ⟨existing, hstage⟩ := h.follows j _ hprog
    rw [hstage] at hbusy
    cases hbusy
  · exact absurd ⟨j, e, hprog⟩ hfailed
  · exact ⟨o, k, rfl⟩

section act

variable {i : ℕ} {o : DbOp} {k : o.Reply → Program dbSig Error Unit} {answer : o.Reply}
  {t : Thread dbSig Error Lock EditCall}

theorem editStep (h : Curated db removed known w) (hacts : (editing known).Acts w w' i o k answer t) :
    EditStep known (w.points i) w.pool.state (w'.points i) w'.pool.state := by
  rw [hacts.own, hacts.state]
  exact Editor.step (h.follows i _ hacts.thread).1 answer w.pool.state

/-- No other call writes groups when this one comes to. -/
theorem alone_of_acts (h : Curated db removed known w) (hacts : (editing known).Acts w w' i o k answer t)
    (hfailed : ¬ failed w) (hbusy : (w'.points i).stage.busy = true) {j : ℕ} (hj : j ≠ i) :
    (w.points j).stage.busy = false := by
  rcases (h.editStep hacts).busy_cases hbusy with hold | ⟨edits, hstage⟩
  · exact (h.intact hfailed).alone i j (Ne.symm hj) hold
  · by_contra hother
    have hother : (w.points j).stage.busy = true := by simpa using hother
    have ho : o = .acquire .groupUpdate := by
      by_contra hnot
      rw [hacts.own] at hbusy
      change ((w.points i).next o _).stage.busy = true at hbusy
      rw [Editor.next_of_seen hstage hnot] at hbusy
      cases hbusy
    subst ho
    have hrunning := h.running_of_busy hfailed hother
    obtain ⟨u, hu, -⟩ := Option.map_eq_some_iff.mp ((w.running_iff j).mp hrunning).choose_spec.choose_spec
    have hheld := h.held j u hu hrunning hother
    have hblocked : w.pool.blocked i (.acquire Lock.groupUpdate true) = true := by
      refine List.any_eq_true.mpr ⟨(u, j), List.mem_zipIdx_iff_getElem?.mpr hu, ?_⟩
      simp only [hj, ne_eq, not_false_eq_true, decide_true, Bool.true_and, List.any_eq_true]
      exact ⟨_, hheld, by simp⟩
    have hfree := hacts.free
    change w.pool.blocked i (.acquire Lock.groupUpdate true) = false at hfree
    rw [hblocked] at hfree
    cases hfree

theorem taken_mono (h : Curated db removed known w) (hacts : (editing known).Acts w w' i o k answer t) {id : Uuid}
    (hid : Taken db w id) : Taken db w' id := by
  obtain ⟨j, hfinished, hremoves⟩ := hid
  refine ⟨j, ?_⟩
  by_cases hj : j = i
  · subst hj
    rw [(h.editStep hacts).eq_of_finished hfinished]
    exact ⟨hfinished, hremoves⟩
  · rw [hacts.other hj]
    exact ⟨hfinished, hremoves⟩

theorem taken_of_acts (h : Curated db removed known w) (hacts : (editing known).Acts w w' i o k answer t) {id : Uuid}
    (hid : Taken db w' id) : Taken db w id ∨
      ¬ (w.points i).finished ∧ (w'.points i).finished ∧ (w.points i).removes db id := by
  obtain ⟨j, hfinished, hremoves⟩ := hid
  by_cases hj : j = i
  · subst hj
    have hstep := h.editStep hacts
    rw [hstep.removes_iff] at hremoves
    by_cases hold : (w.points j).finished
    · exact .inl ⟨j, hold, hremoves⟩
    · exact .inr ⟨hold, hfinished, hremoves⟩
  · rw [hacts.other hj] at hfinished hremoves
    exact .inl ⟨j, hfinished, hremoves⟩

theorem gone_of_taken (h : Curated db removed known w) (hknown : ∀ b ∈ db.bindings.rows, b.id ∈ known)
    (hacts : (editing known).Acts w w' i o k answer t) {id : Uuid} (hid : Taken db w id) :
    (∀ m ∈ w'.pool.state.groupBindings.rows, m.base.bindingId ≠ id) ∧
      (w'.pool.state.has .binding id = true → ∀ j, w.prog j ≠ none → (w'.points j).stage.past = true) := by
  obtain ⟨hmembers, hpast⟩ := h.gone id hid
  have hstep := h.editStep hacts
  have hi : w.prog i ≠ none := by simp [hacts.thread]
  constructor
  · rintro m hm rfl
    rcases hstep.mem_of_mem_members hm with hm | ⟨hhas, hnot⟩
    · exact hmembers m hm rfl
    · rw [hpast hhas i hi] at hnot
      cases hnot
  · intro hhas j hj
    rcases hstep.has_of_has hhas with hold | ⟨hfinished, hasked⟩
    · by_cases hji : j = i
      · exact hji ▸ hstep.past_of_past (hpast hold i hi)
      · rw [hacts.other hji]
        exact hpast hold j hj
    · -- what this call stores it has not removed, so that the other one has, and is through as well
      obtain ⟨l, hl, b, hb, rfl, hservice, hnot⟩ := hid
      have hli : l ≠ i := by
        rintro rfl
        rcases hasked with ⟨hasked, hnil⟩ | hfresh
        · exact hnot ⟨hnil, hasked⟩
        · exact hfresh (hknown b hb)
      have hall : j = i ∨ j = l := by
        have hjtwo := h.two j hj
        have hitwo := h.two i hi
        have hltwo := h.two l (h.prog_of_finished hl)
        omega
      rcases hall with rfl | rfl
      · obtain ⟨existing, hstage⟩ := hfinished
        exact hstep.past_of_past (by rw [hstage]; rfl)
      · obtain ⟨existing, hstage⟩ := hl
        rw [hacts.other hli, hstage]
        rfl

theorem planned_of_acts (h : Curated db removed known w) (hacts : (editing known).Acts w w' i o k answer t)
    (hquiet : undisturbed w i o) (hfailed : ¬ failed w) (j : ℕ) (e : Group) (he : e ∈ (w'.points j).stage.edits) :
    Planned db removed e := by
  have hstep := h.editStep hacts
  have hintact := h.intact hfailed
  have hlists {stage : EditStage} {g id : Uuid} {p : ℤ} (h : stage.lists g id p) : stage.rewrites = true := by
    obtain ⟨_, _, rfl, -⟩ := h
    rfl
  by_cases hji : j = i
  · subst hji
    rcases hstep.edits_cases with hsub | ⟨current, groups, members, hstage, hmembers, hsorted, hedits⟩
    · exact hintact.planned j e (hsub e he)
    · by_cases ho : ∃ f order, o = .list .groupBinding f order
      · obtain ⟨f, order, rfl⟩ := ho
        have hknows := h.knows j
        rw [Editor.knows, hstage] at hknows
        rw [hedits] at he
        refine planned_of_seen hknows (fun g => ?_) hmembers hsorted e he
        refine (hintact.kept g).congr (fun id p hlisted => .inl hlisted) (fun m _ _ p hlisted => ?_)
        refine hlisted.resolve_right ?_
        rintro ⟨l, hl⟩
        by_cases hlj : l = j
        · subst hlj
          obtain ⟨_, _, hrewriting, -⟩ := hl
          cases hstage.symm.trans hrewriting
        · by_cases hlt : l < w.pool.threads.length
          · have hnot := hquiet l hlt hlj
            rw [hlists hl] at hnot
            cases hnot
          · have hnone : w.prog l = none := by
              simp [Tracked.prog, List.getElem?_eq_none (Nat.le_of_not_lt hlt)]
            rw [h.idle l hnone] at hl
            obtain ⟨_, _, hrewriting, -⟩ := hl
            cases hrewriting
      · have hsame : w'.points j = w.points j := by
          rw [hacts.own]
          exact Editor.next_of_listed hstage ho _
        rw [hsame, hstage] at he
        cases he
  · rw [hacts.other hji] at he
    exact hintact.planned j e he

theorem kept_of_acts (h : Curated db removed known w) (hdb : db.Linked) (hacts : (editing known).Acts w w' i o k answer t)
    (hfailed : ¬ failed w) (g : Uuid) : Kept db removed g (Listed w' g) := by
  have hstep := h.editStep hacts
  have hintact := h.intact hfailed
  have hi : w.prog i ≠ none := by simp [hacts.thread]
  have hothers {l : ℕ} (hl : l ≠ i) (hbusy : (w.points i).stage.busy = true) (g id : Uuid) (p : ℤ) :
      ¬ (w.points l).stage.lists g id p :=
    not_lists_of_not_busy (hintact.alone i l (Ne.symm hl) hbusy) g id p
  rcases hstep.lists_cases hdb (h.removes i hi) (fun id hid => h.removed_of_taken hid) h.stands (h.knows i) with
    ⟨e, rest, hstage, hrows, htodo⟩ | ⟨hsub, hkept⟩
  · have hbusy : (w.points i).stage.busy = true := by rw [hstage]; rfl
    have hnew (id : Uuid) (p : ℤ) : Listed w' g id p ↔
        w.pool.state.lists g id p ∧ g ≠ e.id ∨ g = e.id ∧ (id, p) ∈ positioned e.base.bindingIds := by
      rw [Listed, hrows, ← htodo]
      refine or_congr_right ⟨?_, fun hlists => ⟨i, hlists⟩⟩
      rintro ⟨l, hl⟩
      by_cases hli : l = i
      · exact hli ▸ hl
      · rw [hacts.other hli] at hl
        exact absurd hl (hothers hli hbusy g id p)
    have hold (id : Uuid) (p : ℤ) : Listed w g id p ↔ w.pool.state.lists g id p := by
      refine ⟨fun hlisted => hlisted.resolve_right ?_, .inl⟩
      rintro ⟨l, hl⟩
      by_cases hli : l = i
      · rw [hli, hstage] at hl
        obtain ⟨_, _, hrewriting, -⟩ := hl
        cases hrewriting
      · exact hothers hli hbusy g id p hl
    by_cases hg : g = e.id
    · subst hg
      refine (hintact.planned i e (by rw [hstage]; exact List.mem_cons_self)).congr (fun id p h => ?_)
        (fun m _ _ p h => (hnew _ p).mpr (.inr ⟨rfl, h⟩))
      rcases (hnew id p).mp h with ⟨-, hne⟩ | ⟨-, hmem⟩
      · exact absurd rfl hne
      · exact hmem
    · refine (hintact.kept g).congr (fun id p h => ?_) (fun m _ _ p h => (hnew _ p).mpr (.inl ⟨(hold _ p).mp h, hg⟩))
      rcases (hnew id p).mp h with ⟨hlists, -⟩ | ⟨heq, -⟩
      · exact .inl hlists
      · exact absurd heq hg
  · refine (hintact.kept g).congr (fun id p hlisted => ?_) (fun m hm hnot p hlisted => ?_)
    · rcases hlisted with hrow | ⟨l, hl⟩
      · exact (hsub g id p (.inl hrow)).imp_right (fun hlists => ⟨i, hlists⟩)
      · by_cases hli : l = i
        · exact (hsub g id p (.inr (hli ▸ hl))).imp_right (fun hlists => ⟨i, hlists⟩)
        · rw [hacts.other hli] at hl
          exact .inr ⟨l, hl⟩
    · rcases hlisted with hrow | ⟨l, hl⟩
      · exact (hkept m hm hnot g p (.inl hrow)).imp_right (fun hlists => ⟨i, hlists⟩)
      · by_cases hli : l = i
        · exact (hkept m hm hnot g p (.inr (hli ▸ hl))).imp_right (fun hlists => ⟨i, hlists⟩)
        · refine .inr ⟨l, ?_⟩
          rw [hacts.other hli]
          exact hl

theorem intact_of_acts (h : Curated db removed known w) (hdb : db.Linked)
    (hacts : (editing known).Acts w w' i o k answer t) (hquiet : undisturbed w i o) (hfailed : ¬ failed w) :
    Intact db removed w' := by
  refine ⟨fun j l hjl hj => ?_, h.planned_of_acts hacts hquiet hfailed, h.kept_of_acts hdb hacts hfailed⟩
  by_cases hji : j = i
  · subst hji
    rw [hacts.other (Ne.symm hjl)]
    exact h.alone_of_acts hacts hfailed hj (Ne.symm hjl)
  · rw [hacts.other hji] at hj
    by_cases hli : l = i
    · subst hli
      by_contra hbusy
      rw [h.alone_of_acts hacts hfailed (by simpa using hbusy) hji] at hj
      cases hj
    · rw [hacts.other hli]
      exact (h.intact hfailed).alone j l hjl hj

theorem act (h : Curated db removed known w) (hdb : db.Linked) (hknown : ∀ b ∈ db.bindings.rows, b.id ∈ known)
    (hacts : (editing known).Acts w w' i o k answer t)
    (hmay : (editing known).monitor.may o (dbStep o answer w.pool.state).1) (hquiet : undisturbed w i o) :
    Curated db removed known w' := by
  have hstep := h.editStep hacts
  have hi : w.prog i ≠ none := by simp [hacts.thread]
  have hsome (j : ℕ) : w'.prog j ≠ none ↔ w.prog j ≠ none := by
    rw [hacts.prog]
    split_ifs with hj
    · subst hj
      simp [hacts.thread]
    · rfl
  constructor
  · rw [hacts.state]
    exact h.owned.dbStep o answer
  · rw [hacts.state]
    exact h.linked.dbStep o answer
  · exact fun j hj => h.two j ((hsome j).mp hj)
  · intro j hj
    have hji : j ≠ i := fun hji => (hsome j).mpr (hji ▸ hi) hj
    rw [hacts.other hji]
    rw [hacts.prog, if_neg hji] at hj
    exact h.idle j hj
  · intro j p hp
    rw [hacts.prog] at hp
    split_ifs at hp with hj
    · cases hp
      rw [hj, hacts.own]
      exact (h.follows i _ hacts.thread).2 _ hmay
    · rw [hacts.other hj]
      exact h.follows j p hp
  · intro j hj id hid
    by_cases hji : j = i
    · subst hji
      exact h.removes j hi id ((hstep.removes_iff id).mp hid)
    · rw [hacts.other hji] at hid
      exact h.removes j ((hsome j).mp hj) id hid
  · intro id hid
    obtain ⟨j, hj, hremoves⟩ := h.asks id hid
    refine ⟨j, (hsome j).mpr hj, ?_⟩
    by_cases hji : j = i
    · subst hji
      exact (hstep.removes_iff id).mpr hremoves
    · rwa [hacts.other hji]
  · intro j u hu hrun hbusy
    by_cases hji : j = i
    · subst hji
      rw [hacts.get, if_pos rfl] at hu
      cases hu
      rw [hacts.own] at hbusy
      exact Editor.held_of_busy (h.follows j _ hacts.thread).1 (h.held j t hacts.get_self hacts.running) hbusy
    · rw [hacts.get, if_neg hji] at hu
      rw [hacts.other hji] at hbusy
      rw [hacts.running_of_ne hji] at hrun
      exact h.held j u hu hrun hbusy
  · intro b hb
    rcases h.stands b hb with hstands | htaken
    · rcases hstep.stands (h.knows i) hb hstands with hstands | ⟨hfinished, hremoves⟩ | htaken
      · exact .inl hstands
      · exact .inr ⟨i, hfinished, hremoves⟩
      · exact .inr (h.taken_mono hacts htaken)
    · exact .inr (h.taken_mono hacts htaken)
  · intro id hid
    have hold (hid : Taken db w id) := h.gone_of_taken hknown hacts hid
    rcases h.taken_of_acts hacts hid with htaken | ⟨hnot, hfinished, hremoves⟩
    · exact ⟨(hold htaken).1, fun hhas j hj => (hold htaken).2 hhas j ((hsome j).mp hj)⟩
    · rcases hstep.gone_of_finished hnot hfinished h.owned h.linked h.stands (h.knows i) hremoves with
        ⟨hmembers, hhas⟩ | htaken
      · refine ⟨hmembers, fun hhas' => ?_⟩
        rw [hhas] at hhas'
        cases hhas'
      · exact ⟨(hold htaken).1, fun hhas j hj => (hold htaken).2 hhas j ((hsome j).mp hj)⟩
  · intro j
    have hmono : ∀ id, Taken db w id → Taken db w' id := fun id hid => h.taken_mono hacts hid
    by_cases hji : j = i
    · subst hji
      exact (hstep.knows hdb (h.removes j hi) (fun id hid => h.removed_of_taken hid) h.stands (h.knows j)).mono hmono
    · rw [hacts.other hji]
      exact (h.knows j).mono hmono
  · intro hfailed
    refine h.intact_of_acts hdb hacts hquiet (fun ⟨j, e, hfail⟩ => hfailed ⟨j, e, ?_⟩)
    have hji : j ≠ i := by
      rintro rfl
      cases hacts.thread.symm.trans hfail
    rw [hacts.prog, if_neg hji]
    exact hfail

end act

end Curated

/-- Both calls are about to begin. -/
def EditRun.of (db : Db) (first second : EditCall) : EditRun :=
  ⟨⟨[⟨first, [], first.program⟩, ⟨second, [], second.program⟩], db⟩, fun j =>
    if j = 0 then Editor.start first else if j = 1 then Editor.start second else ⟨Uuid.nil, [], .reading⟩⟩

/-- One of the calls goes on, with these answers of the environment. -/
abbrev Turn := ℕ × ((o : DbOp) → o.Reply)

def EditRun.turn (known : List Uuid) (w : EditRun) (turn : Turn) : EditRun :=
  (editing known).step w (.run turn.1 turn.2)

def Undisturbed (w : EditRun) (turn : Turn) : Prop :=
  match w.prog turn.1 with
  | some (.op o _) => undisturbed w turn.1 o
  | _ => True

/-- The bindings that one of the calls takes away from its service. -/
def removedBy (db : Db) (first second : EditCall) (id : Uuid) : Prop :=
  (Editor.start first).removes db id ∨ (Editor.start second).removes db id

/-- No group lists what was removed, and all else is listed as it was. -/
structure MembersKept (db : Db) (removed : Uuid → Prop) (t : Db) : Prop where
  gone : ∀ m ∈ t.groupBindings.rows, ¬ removed m.base.bindingId
  kept : ∀ groupId, Kept db removed groupId (t.lists groupId)

section runs

variable {db : Db} {first second : EditCall}

theorem prog_of (j : ℕ) : (EditRun.of db first second).prog j =
    if j = 0 then some first.program else if j = 1 then some second.program else none := by
  rcases j with _ | _ | j
  · rfl
  · rfl
  · rfl

theorem stage_of (j : ℕ) : ((EditRun.of db first second).points j).stage = .reading := by
  change (if j = 0 then _ else if j = 1 then _ else _ : Editor).stage = _
  split_ifs <;> rfl

theorem curated_start (howned : db.Owned) (hlinked : db.Linked) (known : List Uuid) :
    Curated db (removedBy db first second) known (EditRun.of db first second) := by
  have hnone (id : Uuid) : ¬ Taken db (EditRun.of db first second) id := by
    rintro ⟨j, ⟨existing, hstage⟩, -⟩
    cases (stage_of j).symm.trans hstage
  constructor
  · exact howned
  · exact hlinked
  · intro j hj
    rw [prog_of] at hj
    split_ifs at hj with h0 h1
    · omega
    · omega
    · exact absurd rfl hj
  · exact fun j _ => stage_of j
  · intro j p hp
    rw [prog_of] at hp
    split_ifs at hp with h0 h1
    · cases hp
      subst h0
      exact Editing.follows_editCall first
    · cases hp
      subst h1
      exact Editing.follows_editCall second
  · intro j hj id hid
    rw [prog_of] at hj
    split_ifs at hj with h0 h1
    · subst h0
      exact .inl hid
    · subst h1
      exact .inr hid
    · exact absurd rfl hj
  · rintro id (hid | hid)
    · exact ⟨0, by simp [prog_of], hid⟩
    · exact ⟨1, by simp [prog_of], hid⟩
  · intro j t _ _ hbusy
    rw [stage_of] at hbusy
    cases hbusy
  · exact fun b hb => .inl ⟨b, hb, rfl, rfl⟩
  · exact fun id hid => absurd hid (hnone id)
  · intro j
    rw [Editor.knows, stage_of]
    trivial
  · intro _
    have hlisted (g id : Uuid) (p : ℤ) : Listed (EditRun.of db first second) g id p ↔ db.lists g id p := by
      refine ⟨fun h => h.resolve_right ?_, .inl⟩
      rintro ⟨j, _, _, hstage, -⟩
      cases (stage_of j).symm.trans hstage
    refine ⟨fun i j _ hi => ?_, fun j e he => ?_, fun g => ⟨fun m hm hgroup _ => ?_, ?_⟩⟩
    · rw [stage_of] at hi
      cases hi
    · rw [stage_of] at he
      cases he
    · exact ⟨m.base.position, (hlisted _ _ _).mpr ⟨m, hm, by rw [← hgroup]⟩⟩
    · have hunique {m : GroupBinding} (hm : m ∈ db.groupBindings.rows) (hgroup : m.base.groupId = g) {p : ℤ}
          (hp : Listed (EditRun.of db first second) g m.base.bindingId p) : p = m.base.position := by
        obtain ⟨m', hm', hbase⟩ := (hlisted _ _ _).mp hp
        obtain rfl := eq_of_clash (k := .groupBinding) hm' hm (by simp [clash, hbase, hgroup])
        rw [hbase]
      intro m hm n hn hmgroup hngroup hlt _ _ p q hp hq
      rw [hunique hm hmgroup hp, hunique hn hngroup hq]
      exact hlt

theorem Curated.turn {removed : Uuid → Prop} {known : List Uuid} {w : EditRun} (h : Curated db removed known w)
    (hdb : db.Linked) (hknown : ∀ b ∈ db.bindings.rows, b.id ∈ known) {turn : Turn} (hquiet : Undisturbed w turn)
    (hfresh : turn.2 .newV4 ∉ known) : Curated db removed known (w.turn known turn) := by
  rcases Tracking.step_run_cases (T := editing known) (w := w) turn.1 turn.2 with ⟨hpass, -⟩ | ⟨o, k, t, hacts⟩
  · exact h.passes hpass
  · have hthread := hacts.thread
    unfold Undisturbed at hquiet
    simp only [hthread] at hquiet
    refine h.act hdb hknown hacts ?_ hquiet
    cases o with
    | newV4 => exact hfresh
    | _ => trivial

/-- The `i`-th call has returned `Ok`. -/
def returned (w : EditRun) (i : ℕ) : Bool :=
  match w.prog i with
  | some (.ret _) => true
  | _ => false

theorem Curated.finished_of_returned {removed : Uuid → Prop} {known : List Uuid} {w : EditRun}
    (h : Curated db removed known w) {i : ℕ} (hreturned : returned w i = true) : (w.points i).finished := by
  unfold returned at hreturned
  rcases hprog : w.prog i with _ | x | e | ⟨o, k⟩
  · simp [hprog] at hreturned
  · exact h.follows i _ hprog
  · simp [hprog] at hreturned
  · simp [hprog] at hreturned

theorem Curated.membersKept {removed : Uuid → Prop} {known : List Uuid} {w : EditRun}
    (h : Curated db removed known w) (hfirst : returned w 0 = true) (hsecond : returned w 1 = true) :
    MembersKept db removed w.pool.state := by
  have hfinished (j : ℕ) (hj : w.prog j ≠ none) : (w.points j).finished := by
    have hlt := h.two j hj
    have hor : j = 0 ∨ j = 1 := by omega
    rcases hor with rfl | rfl
    · exact h.finished_of_returned hfirst
    · exact h.finished_of_returned hsecond
  have hnot : ¬ failed w := by
    rintro ⟨j, e, hfail⟩
    have hlt := h.two j (by simp [hfail])
    have hor : j = 0 ∨ j = 1 := by omega
    rcases hor with rfl | rfl
    · simp [returned, hfail] at hfirst
    · simp [returned, hfail] at hsecond
  constructor
  · intro m hm hid
    obtain ⟨j, hj, hremoves⟩ := h.asks _ hid
    exact (h.gone _ ⟨j, hfinished j hj, hremoves⟩).1 m hm rfl
  · intro g
    refine ((h.intact hnot).kept g).congr (fun id p hlists => .inl hlists) (fun m _ _ p hlisted => ?_)
    refine hlisted.resolve_right ?_
    rintro ⟨j, _, _, hstage, -⟩
    by_cases hj : w.prog j = none
    · cases (h.idle j hj).symm.trans hstage
    · obtain ⟨existing, hremoved⟩ := hfinished j hj
      cases hremoved.symm.trans hstage

end runs

/-- When no call reads the members of groups while the other writes them, the groups keep what neither removes. -/
theorem edits_keep_members (db : Db) (howned : db.Owned) (hlinked : db.Linked) (first second : EditCall)
    (schedule : List Turn) (hfresh : ∀ turn ∈ schedule, turn.2 .newV4 ∉ db.bindings.rows.map Entity.id)
    (hquiet : Meets (EditRun.turn (db.bindings.rows.map Entity.id)) Undisturbed (EditRun.of db first second) schedule)
    (hfirst : returned (schedule.foldl (EditRun.turn (db.bindings.rows.map Entity.id)) (EditRun.of db first second)) 0 = true)
    (hsecond : returned (schedule.foldl (EditRun.turn (db.bindings.rows.map Entity.id)) (EditRun.of db first second)) 1 = true) :
    MembersKept db (removedBy db first second)
      (schedule.foldl (EditRun.turn (db.bindings.rows.map Entity.id)) (EditRun.of db first second)).pool.state := by
  have hcurated := (hquiet.and hfresh).invariant (Curated db (removedBy db first second) (db.bindings.rows.map Entity.id))
    (fun w turn hw hturn => hw.turn hlinked (fun b hb => List.mem_map_of_mem hb) hturn.1 hturn.2)
    (curated_start howned hlinked _)
  exact hcurated.membersKept hfirst hsecond

instance (w : EditRun) (i : ℕ) (o : DbOp) : Decidable (undisturbed w i o) := by
  unfold undisturbed
  cases o with
  | list k f order => cases k <;> infer_instance
  | _ => infer_instance

instance (w : EditRun) (turn : Turn) : Decidable (Undisturbed w turn) := by
  unfold Undisturbed
  split <;> infer_instance

instance (db : Db) (a : Editor) (id : Uuid) : Decidable (a.removes db id) := by
  unfold Editor.removes
  infer_instance

instance (db : Db) (first second : EditCall) (id : Uuid) : Decidable (removedBy db first second id) := by
  unfold removedBy
  infer_instance

/-- The services 6, 7 and 8 of one host with a binding each, and the group 20 of the three bindings. -/
def clustered : Db where
  hosts := (webHost .empty).hosts
  interfaces := (webHost .empty).interfaces
  ports := (webHost .empty).ports
  services := ⟨[⟨6, 0, 0, ⟨1, 9, webServer, "web", [], none, .manual, [], 0⟩⟩,
    ⟨7, 0, 0, ⟨1, 9, webServer, "api", [], none, .manual, [], 1⟩⟩,
    ⟨8, 0, 0, ⟨1, 9, webServer, "mail", [], none, .manual, [], 2⟩⟩], by decide⟩
  bindings := ⟨[⟨11, 0, 0, ⟨6, 9, .interface 2⟩⟩, ⟨12, 0, 0, ⟨7, 9, .interface 2⟩⟩, ⟨13, 0, 0, ⟨8, 9, .interface 3⟩⟩], by decide⟩
  groups := ⟨[⟨20, 0, 0, ⟨"path", 9, []⟩⟩], by simp⟩
  groupBindings := ⟨[⟨21, 0, 0, ⟨20, 11, 0⟩⟩, ⟨22, 0, 0, ⟨20, 12, 1⟩⟩, ⟨23, 0, 0, ⟨20, 13, 2⟩⟩], by decide⟩

def turns (schedule : List ℕ) : List Turn := schedule.zipIdx.map (fun e => (e.1, granted 8 e.2))

def oneThenTheOther : List Turn := turns (List.replicate 20 0 ++ List.replicate 20 1)

theorem edits_keep_members_in_turn :
    MembersKept clustered (removedBy clustered (.delete 6) (.delete 7)) (oneThenTheOther.foldl
      (EditRun.turn (clustered.bindings.rows.map Entity.id)) (EditRun.of clustered (.delete 6) (.delete 7))).pool.state :=
  edits_keep_members clustered (by decide) (by decide) (.delete 6) (.delete 7) oneThenTheOther (by decide) (by decide)
    (by decide) (by decide)

/-- The second call reads the members when the first has created one of the two that it keeps. -/
def halfWritten : List Turn := turns (List.replicate 4 1 ++ List.replicate 15 0 ++ [1] ++ List.replicate 6 0 ++ List.replicate 9 1)

theorem edits_lose_member : ¬ ∀ (db : Db) (first second : EditCall) (schedule : List Turn),
    let w := schedule.foldl (EditRun.turn (db.bindings.rows.map Entity.id)) (EditRun.of db first second)
    db.Owned → db.Linked → (∀ turn ∈ schedule, turn.2 .newV4 ∉ db.bindings.rows.map Entity.id) →
      returned w 0 = true → returned w 1 = true → MembersKept db (removedBy db first second) w.pool.state := by
  intro h
  have hkept := h clustered (.delete 6) (.delete 7) halfWritten (by decide) (by decide) (by decide) (by decide) (by decide)
  obtain ⟨position, m, hm, hbase⟩ := (hkept.kept 20).present ⟨23, 0, 0, ⟨20, 13, 2⟩⟩ (by decide) rfl (by decide)
  exact absurd hm (List.eq_nil_iff_forall_not_mem.mp (by decide) m)

end VantageNet.Inventory
