import VantageNet.Interaction.Words
import VantageNet.Inventory.Effects

/-!
The ordered list of binding ids of each group: `GroupBindingStorage` (`group_bindings/impl/storage.rs`).
-/

namespace VantageNet.Inventory

open Interaction Interaction.Program

namespace GroupBindingStorage

def getForGroup (groupId : Uuid) : Query (List Uuid) := do
  let groupBindings ← Storage.getAllOrdered .groupBinding (fun m : GroupBinding => m.base.groupId = groupId)
    (fun m : GroupBinding => m.base.position)
  return groupBindings.map (fun m => m.base.bindingId)

/-- `group_id ASC, position ASC`, where positions are `i32`. -/
def batchOrder (m : GroupBinding) : ℤ := (m.base.groupId.val : ℤ) * 2 ^ 32 + m.base.position

/-- The loop that fills the `HashMap`. -/
def collectByGroup (groupBindings : List GroupBinding) : Uuid → Option (List Uuid) :=
  groupBindings.foldl (fun (result : Uuid → Option (List Uuid)) m =>
    Function.update result m.base.groupId (some ((result m.base.groupId).getD [] ++ [m.base.bindingId]))) (fun _ => none)

def getForGroups (groupIds : List Uuid) : Query (Uuid → Option (List Uuid)) :=
  if groupIds.isEmpty then ret (fun _ => none)
  else do
    let groupBindings ← Storage.getAllOrdered .groupBinding
      (fun m : GroupBinding => groupIds.contains m.base.groupId) batchOrder
    return collectByGroup groupBindings

def deleteForGroup (groupId : Uuid) : Query Unit :=
  Storage.deleteWhere .groupBinding (fun m : GroupBinding => m.base.groupId = groupId)

/-- The positions are `i32`. -/
def saveForGroup (groupId : Uuid) (bindingIds : List Uuid) : Query Unit := do
  deleteForGroup groupId
  forEach (fun (e : Uuid × ℕ) => do
    let groupBinding ← newEntity (⟨groupId, e.1, asI32 e.2⟩ : GroupBindingBase)
    let _ ← Storage.create .groupBinding groupBinding) bindingIds.zipIdx

/-- `get_for_group` may answer so. -/
def Reads (db : Db) (groupId : Uuid) (bindingIds : List Uuid) : Prop :=
  ∃ ω n, (run dbStep ω n (getForGroup groupId) db).result = .ok bindingIds

/-- `get_for_groups` may answer so for the group. -/
def ReadsAmong (db : Db) (groupIds : List Uuid) (groupId : Uuid) (bindingIds : List Uuid) : Prop :=
  ∃ ω n lists, (run dbStep ω n (getForGroups groupIds) db).result = .ok lists ∧ (lists groupId).getD [] = bindingIds

/-- Both readings give this list and no other. -/
def Lists (db : Db) (groupId : Uuid) (bindingIds : List Uuid) : Prop :=
  (∀ ids, Reads db groupId ids ↔ ids = bindingIds) ∧
    ∀ groupIds, groupId ∈ groupIds → ∀ ids, ReadsAmong db groupIds groupId ids ↔ ids = bindingIds

/-- Both readings give what they gave before. -/
def SameList (db after : Db) (groupId : Uuid) : Prop :=
  (∀ ids, Reads after groupId ids ↔ Reads db groupId ids) ∧
    ∀ groupIds, groupId ∈ groupIds → ∀ ids, ReadsAmong after groupIds groupId ids ↔ ReadsAmong db groupIds groupId ids

structure AllOrNothing (db : Db) (groupId : Uuid) (bindingIds : List Uuid) (result : Except Error Unit) (after : Db) : Prop where
  saved : result = .ok () → Lists after groupId bindingIds ∧ ∀ id ≠ groupId, SameList db after id
  unsaved : ∀ e, result = .error e → SameList db after groupId

/-- After an error nothing has changed, or the ids in front of the refused one are the list. -/
structure AsFarAsAccepted (db : Db) (groupId : Uuid) (bindingIds : List Uuid) (result : Except Error Unit) (after : Db) :
    Prop where
  others : ∀ id ≠ groupId, SameList db after id
  saved : result = .ok () → bindingIds.length ≤ 2 ^ 31 → Lists after groupId bindingIds
  unsaved : ∀ e, result = .error e → after = db ∨ ∃ accepted refused rest, bindingIds = accepted ++ refused :: rest ∧
    (accepted.length ≤ 2 ^ 31 → Lists after groupId accepted) ∧
    ∃ (row : GroupBinding) (reply : Except Error Unit), row.base.groupId = groupId ∧ row.base.bindingId = refused ∧
      (after.create .groupBinding row reply).1 = .error e

section reading

/-- What an order of the rows by their positions lists. -/
def Ordered (rows : List GroupBinding) (bindingIds : List Uuid) : Prop :=
  ∃ order : List GroupBinding, order.Perm rows ∧ order.Pairwise (fun a b => a.base.position ≤ b.base.position) ∧
    order.map (fun m => m.base.bindingId) = bindingIds

def membersOf (db : Db) (groupId : Uuid) : List GroupBinding :=
  db.groupBindings.rows.filter (fun m => m.base.groupId = groupId)

/-- An environment that proposes these rows to every reading. -/
def proposing (rows : List GroupBinding) : Oracle dbSig
  | _, .list .groupBinding _ _ => .ok rows
  | n, o => granted 0 n o

variable {db : Db} {groupId : Uuid} {bindingIds : List Uuid}

/-- A reading answers with the rows that it asks for, in any order that it asks for. -/
theorem exists_run_list_iff {α : Type} {filter : GroupBinding → Bool} {order : GroupBinding → ℤ} {f : List GroupBinding → α} {a : α} :
    (∃ ω n, (run dbStep ω n ((Storage.getAllOrdered .groupBinding filter order).bind (fun rows => ret (f rows))) db).result = .ok a) ↔
      ∃ rows : List GroupBinding, rows.Perm (db.groupBindings.rows.filter filter) ∧
        rows.Pairwise (fun m n => order m ≤ order n) ∧ f rows = a := by
  constructor
  · rintro ⟨ω, n, h⟩
    obtain ⟨rows, m, t, hrows, hret⟩ := ok_of_run_bind h
    cases hret
    change run dbStep ω (n + 1) (orFail (Except.map _ (ω n (.list .groupBinding filter order)))) db = _ at hrows
    cases hreply : ω n (.list .groupBinding filter order) with
    | error e =>
      rw [hreply] at hrows
      cases hrows
    | ok proposed =>
      rw [hreply] at hrows
      cases hrows
      exact ⟨_, arrange_perm order _ proposed, arrange_sorted order _ proposed, rfl⟩
  · rintro ⟨rows, hperm, hsorted, rfl⟩
    refine ⟨proposing rows, 0, ?_⟩
    change Except.ok (f (arrange order (db.groupBindings.rows.filter filter) rows)) = _
    rw [arrange, if_pos ⟨hperm, hsorted⟩]

theorem reads_iff : Reads db groupId bindingIds ↔ Ordered (membersOf db groupId) bindingIds := exists_run_list_iff

theorem collectByGroup_eq (rows : List GroupBinding) (groupId : Uuid) :
    (collectByGroup rows groupId).getD [] = (rows.filter (fun m => m.base.groupId = groupId)).map (fun m => m.base.bindingId) := by
  have hfrom (rows : List GroupBinding) (lists : Uuid → Option (List Uuid)) :
      (rows.foldl (fun (result : Uuid → Option (List Uuid)) m => Function.update result m.base.groupId
        (some ((result m.base.groupId).getD [] ++ [m.base.bindingId]))) lists groupId).getD [] =
        (lists groupId).getD [] ++ (rows.filter (fun m => m.base.groupId = groupId)).map (fun m => m.base.bindingId) := by
    induction rows generalizing lists with
    | nil => rw [List.foldl_nil, List.filter_nil, List.map_nil, List.append_nil]
    | cons m rows ih =>
      rw [List.foldl_cons, ih, List.filter_cons]
      by_cases hm : m.base.groupId = groupId
      · rw [if_pos (decide_eq_true hm), hm, Function.update_self, List.map_cons, Option.getD_some, List.append_assoc,
          List.singleton_append]
      · rw [if_neg (by simpa using hm), Function.update_of_ne (Ne.symm hm)]
  exact hfrom rows _

/-- Within a group the batch is ordered by position. -/
theorem batchOrder_le_iff {a b : GroupBinding} (h : a.base.groupId = b.base.groupId) :
    batchOrder a ≤ batchOrder b ↔ a.base.position ≤ b.base.position := by
  rw [batchOrder, batchOrder, h]
  omega

theorem filter_asked {groupIds : List Uuid} (hmem : groupId ∈ groupIds) :
    (db.groupBindings.rows.filter (fun m => groupIds.contains m.base.groupId)).filter
      (fun m => m.base.groupId = groupId) = membersOf db groupId := by
  rw [List.filter_filter]
  refine List.filter_congr (fun m _ => ?_)
  by_cases hm : m.base.groupId = groupId
  · simp [hm, hmem]
  · simp [hm]

/-- The rows of a group are read so in some batch. -/
theorem exists_batch {groupIds : List Uuid} (hmem : groupId ∈ groupIds) {order : List GroupBinding}
    (hperm : order.Perm (membersOf db groupId)) (hsorted : order.Pairwise (fun a b => a.base.position ≤ b.base.position)) :
    ∃ rows : List GroupBinding, rows.Perm (db.groupBindings.rows.filter (fun m => groupIds.contains m.base.groupId)) ∧
      rows.Pairwise (fun m n => batchOrder m ≤ batchOrder n) ∧ rows.filter (fun m => m.base.groupId = groupId) = order := by
  let asked := db.groupBindings.rows.filter (fun m => groupIds.contains m.base.groupId)
  let others := asked.filter (fun m => !decide (m.base.groupId = groupId))
  let le : GroupBinding → GroupBinding → Bool := fun a b => batchOrder a ≤ batchOrder b
  have htrans : ∀ a b c, le a b = true → le b c = true → le a c = true :=
    fun a b c hab hbc => decide_eq_true ((of_decide_eq_true hab).trans (of_decide_eq_true hbc))
  have htotal : ∀ a b, (le a b || le b a) = true := fun a b => by simpa [le] using le_total (batchOrder a) (batchOrder b)
  have hgroup : ∀ m ∈ order, m.base.groupId = groupId :=
    fun m hm => of_decide_eq_true (List.mem_filter.mp (hperm.mem_iff.mp hm)).2
  have hasked : (order ++ others).Perm asked := by
    refine (hperm.append_right others).trans ?_
    rw [← filter_asked hmem]
    exact List.filter_append_perm _ asked
  have hall := (List.mergeSort_perm (order ++ others) le).trans hasked
  refine ⟨(order ++ others).mergeSort le, hall, (List.pairwise_mergeSort htrans htotal _).imp of_decide_eq_true, ?_⟩
  have hle : order.Pairwise (fun a b => le a b = true) := hsorted.imp_of_mem
    (fun {a b} ha hb h => decide_eq_true ((batchOrder_le_iff ((hgroup a ha).trans (hgroup b hb).symm)).mpr h))
  have hsub := (List.sublist_mergeSort htrans htotal hle (List.sublist_append_left order others)).filter
    (fun m => m.base.groupId = groupId)
  rw [List.filter_eq_self.mpr (fun m hm => decide_eq_true (hgroup m hm))] at hsub
  refine (hsub.eq_of_length ?_).symm
  rw [hperm.length_eq, (hall.filter _).length_eq, filter_asked hmem]

theorem readsAmong_iff {groupIds : List Uuid} (hmem : groupId ∈ groupIds) :
    ReadsAmong db groupIds groupId bindingIds ↔ Ordered (membersOf db groupId) bindingIds := by
  have hempty : ¬ groupIds.isEmpty = true := fun h => by
    rw [List.isEmpty_iff.mp h] at hmem
    cases hmem
  have hiff : ReadsAmong db groupIds groupId bindingIds ↔ ∃ rows : List GroupBinding,
      rows.Perm (db.groupBindings.rows.filter (fun m => groupIds.contains m.base.groupId)) ∧
        rows.Pairwise (fun m n => batchOrder m ≤ batchOrder n) ∧ (collectByGroup rows groupId).getD [] = bindingIds := by
    unfold ReadsAmong getForGroups
    rw [if_neg hempty]
    constructor
    · rintro ⟨ω, n, lists, hrun, rfl⟩
      obtain ⟨rows, hperm, hsorted, rfl⟩ := exists_run_list_iff.mp ⟨ω, n, hrun⟩
      exact ⟨rows, hperm, hsorted, rfl⟩
    · rintro ⟨rows, hperm, hsorted, heq⟩
      obtain ⟨ω, n, hrun⟩ := exists_run_list_iff.mpr ⟨rows, hperm, hsorted, rfl⟩
      exact ⟨ω, n, _, hrun, heq⟩
  rw [hiff]
  constructor
  · rintro ⟨rows, hperm, hsorted, rfl⟩
    refine ⟨rows.filter (fun m => m.base.groupId = groupId), ?_, ?_, (collectByGroup_eq rows groupId).symm⟩
    · rw [← filter_asked hmem]
      exact hperm.filter _
    refine (hsorted.filter _).imp_of_mem (fun {a b} ha hb hle => (batchOrder_le_iff ?_).mp hle)
    exact (of_decide_eq_true (List.mem_filter.mp ha).2).trans (of_decide_eq_true (List.mem_filter.mp hb).2).symm
  · rintro ⟨order, hperm, hsorted, rfl⟩
    obtain ⟨rows, hrows, hascending, hsub⟩ := exists_batch hmem hperm hsorted
    exact ⟨rows, hrows, hascending, by rw [collectByGroup_eq, hsub]⟩

theorem sameList_of_membersOf {after : Db} (h : membersOf after groupId = membersOf db groupId) : SameList db after groupId :=
  ⟨fun _ => by rw [reads_iff, reads_iff, h], fun _ hmem _ => by rw [readsAmong_iff hmem, readsAmong_iff hmem, h]⟩

/-- Rows at ascending positions have one order. -/
theorem ordered_iff_of_ascending {rows : List GroupBinding} (h : rows.Pairwise (fun a b => a.base.position < b.base.position)) :
    Ordered rows bindingIds ↔ bindingIds = rows.map (fun m => m.base.bindingId) := by
  constructor
  · rintro ⟨order, hperm, hsorted, rfl⟩
    have hinjective : ∀ a ∈ rows, ∀ b ∈ rows, a.base.position = b.base.position → a = b := fun a ha b hb heq =>
      List.inj_on_of_nodup_map (List.pairwise_map.mpr (h.imp ne_of_lt)) ha hb heq
    have heq : order = rows := hperm.eq_of_pairwise
      (fun a b ha hb (hab : a.base.position ≤ b.base.position) hba =>
        hinjective a (hperm.mem_iff.mp ha) b hb (le_antisymm hab hba)) hsorted (h.imp le_of_lt)
    rw [heq]
  · rintro rfl
    exact ⟨rows, .refl _, h.imp le_of_lt, rfl⟩

theorem lists_of_ascending (h : (membersOf db groupId).Pairwise (fun a b => a.base.position < b.base.position)) :
    Lists db groupId ((membersOf db groupId).map (fun m => m.base.bindingId)) :=
  ⟨fun _ => reads_iff.trans (ordered_iff_of_ascending h),
    fun _ hmem _ => (readsAmong_iff hmem).trans (ordered_iff_of_ascending h)⟩

end reading

section saving

/-- The rows of the other groups as they were, and a new one for each id that was accepted. -/
def Inserted (db : Db) (groupId : Uuid) (accepted : List (Uuid × ℕ)) (t : Db) : Prop :=
  ∃ new : List GroupBinding,
    t.groupBindings.rows = db.groupBindings.rows.filter (fun m => !decide (m.base.groupId = groupId)) ++ new ∧
    new.map (fun m => m.base) = accepted.map (fun e => (⟨groupId, e.1, asI32 e.2⟩ : GroupBindingBase))

variable {db t : Db} {groupId : Uuid} {bindingIds : List Uuid} {accepted : List (Uuid × ℕ)}

theorem Inserted.membersOf_eq (h : Inserted db groupId accepted t) :
    (membersOf t groupId).map (fun m => m.base) = accepted.map (fun e => ⟨groupId, e.1, asI32 e.2⟩) := by
  obtain ⟨new, hrows, hnew⟩ := h
  have hgroup : ∀ m ∈ new, m.base.groupId = groupId := by
    intro m hm
    have hbase : m.base ∈ new.map (fun m => m.base) := List.mem_map_of_mem hm
    rw [hnew] at hbase
    obtain ⟨e, -, he⟩ := List.mem_map.mp hbase
    rw [← he]
  have hself : new.filter (fun m => m.base.groupId = groupId) = new :=
    List.filter_eq_self.mpr (fun m hm => decide_eq_true (hgroup m hm))
  rw [membersOf, hrows, List.filter_append, List.filter_filter, hself]
  simpa using hnew

theorem Inserted.others (h : Inserted db groupId accepted t) {id : Uuid} (hid : id ≠ groupId) :
    membersOf t id = membersOf db id := by
  obtain ⟨new, hrows, hnew⟩ := h
  have hnone : new.filter (fun m => m.base.groupId = id) = [] := by
    refine List.filter_eq_nil_iff.mpr (fun m hm hm' => hid ?_)
    have hbase : m.base ∈ new.map (fun m => m.base) := List.mem_map_of_mem hm
    rw [hnew] at hbase
    obtain ⟨e, -, he⟩ := List.mem_map.mp hbase
    rw [← of_decide_eq_true hm', ← he]
  rw [membersOf, hrows, List.filter_append, hnone, List.append_nil, List.filter_filter, membersOf]
  refine List.filter_congr (fun m _ => ?_)
  by_cases hm : m.base.groupId = id
  · simp [hm, hid]
  · simp [hm]

theorem map_asI32_zipIdx (hlength : bindingIds.length ≤ 2 ^ 31) :
    bindingIds.zipIdx.map (fun e => asI32 e.2) = (List.range bindingIds.length).map (fun i : ℕ => (i : ℤ)) := by
  refine List.ext_getElem? (fun i => ?_)
  rw [List.getElem?_map, List.getElem?_map, List.getElem?_zipIdx]
  by_cases hi : i < bindingIds.length
  · rw [List.getElem?_eq_getElem hi, List.getElem?_range hi, Option.map_some, Option.map_some, Option.map_some, Nat.zero_add,
      asI32_of_bounds (by omega) (by omega)]
  · rw [List.getElem?_eq_none (by omega), List.getElem?_eq_none (by rw [List.length_range]; omega)]
    rfl

theorem Inserted.lists (h : Inserted db groupId bindingIds.zipIdx t) (hlength : bindingIds.length ≤ 2 ^ 31) :
    Lists t groupId bindingIds := by
  have hids : (membersOf t groupId).map (fun m => m.base.bindingId) = bindingIds := by
    have hmap := congrArg (List.map GroupBindingBase.bindingId) h.membersOf_eq
    rw [List.map_map, List.map_map] at hmap
    exact hmap.trans (List.zipIdx_map_fst 0 bindingIds)
  have hpositions : (membersOf t groupId).map (fun m => m.base.position) =
      (List.range bindingIds.length).map (fun i : ℕ => (i : ℤ)) := by
    have hmap := congrArg (List.map GroupBindingBase.position) h.membersOf_eq
    rw [List.map_map, List.map_map] at hmap
    exact Eq.trans hmap (map_asI32_zipIdx hlength)
  have hascending : (membersOf t groupId).Pairwise (fun a b => a.base.position < b.base.position) := by
    have hpairwise : ((membersOf t groupId).map (fun m => m.base.position)).Pairwise (· < ·) := by
      rw [hpositions, List.pairwise_map]
      exact List.pairwise_lt_range.imp Int.ofNat_lt.mpr
    exact List.pairwise_map.mp hpairwise
  have hlists := lists_of_ascending hascending
  rwa [hids] at hlists

/-- What the saving leaves, for every answer of the environment. -/
def SavedTo (db : Db) (groupId : Uuid) (bindingIds : List Uuid) : Except Error Unit → Db → Prop
  | .ok _, t => Inserted db groupId bindingIds.zipIdx t
  | .error e, t => t = db ∨ ∃ accepted refused rest, bindingIds.zipIdx = accepted ++ refused :: rest ∧
    Inserted db groupId accepted t ∧ ∃ (row : GroupBinding) (reply : Except Error Unit), row.base.groupId = groupId ∧
      row.base.bindingId = refused.1 ∧ (t.create .groupBinding row reply).1 = .error e

theorem ensures_saveForGroup (db : Db) (groupId : Uuid) (bindingIds : List Uuid) :
    Ensures dbStep (fun _ _ _ => True) (SavedTo db groupId bindingIds) (saveForGroup groupId bindingIds) db := by
  rintro (e | _) -
  · exact .inl rfl
  · refine Ensures.forEach (Inserted db groupId) bindingIds.zipIdx (fun accepted refused rest hsplit s hs => ?_)
      ⟨[], (List.append_nil _).symm, rfl⟩ (fun t ht => ht)
    intro now _ id _ reply _
    let row : GroupBinding := ⟨id, now, now, ⟨groupId, refused.1, asI32 refused.2⟩⟩
    change Ensures dbStep _ _ ((((orFail (s.create .groupBinding row reply).1).bind (fun _ => ret row))).bind (fun _ => ret ()))
      (s.create .groupBinding row reply).2
    rcases create_cases s .groupBinding row reply with ⟨e, heq⟩ | ⟨hapart, -, heq⟩
    · rw [heq]
      exact .inr ⟨accepted, refused, rest, hsplit, hs, row, reply, rfl, rfl, by rw [heq]⟩
    · rw [heq]
      obtain ⟨new, hrows, hnew⟩ := hs
      refine ⟨new ++ [row], ?_, ?_⟩
      · change s.groupBindings.rows ++ [row] = _
        rw [hrows, List.append_assoc]
      · rw [List.map_append, List.map_append, hnew]
        rfl

/-- The members are deleted and inserted one statement after the other, and none of them is taken back. -/
theorem saveForGroup_asFarAsAccepted (ω : Oracle dbSig) (n : ℕ) (db : Db) (groupId : Uuid) (bindingIds : List Uuid) :
    AsFarAsAccepted db groupId bindingIds (run dbStep ω n (saveForGroup groupId bindingIds) db).result
      (run dbStep ω n (saveForGroup groupId bindingIds) db).state := by
  have hsaved := (ensures_saveForGroup db groupId bindingIds).run_any ω n
  generalize (run dbStep ω n (saveForGroup groupId bindingIds) db).result = result at hsaved ⊢
  generalize (run dbStep ω n (saveForGroup groupId bindingIds) db).state = t at hsaved ⊢
  cases result with
  | error e =>
    rcases hsaved with rfl | ⟨accepted, refused, rest, hsplit, hinserted, row, reply, hgroup, hbinding, herror⟩
    · exact ⟨fun id _ => sameList_of_membersOf rfl, nofun, fun _ _ => .inl rfl⟩
    · obtain ⟨ids, rest', rfl, rfl, htail⟩ := List.zipIdx_eq_append_iff.mp hsplit
      obtain ⟨id, rest, rfl, rfl, -⟩ := List.zipIdx_eq_cons_iff.mp htail.symm
      refine ⟨fun id hid => sameList_of_membersOf (hinserted.others hid), nofun, ?_⟩
      rintro _ ⟨⟩
      exact .inr ⟨ids, id, rest, rfl, fun hlength => hinserted.lists hlength, row, reply, hgroup, hbinding, herror⟩
  | ok _ => exact ⟨fun id hid => sameList_of_membersOf (hsaved.others hid), fun _ hlength => hsaved.lists hlength, nofun⟩

/-- Group 10 lists the bindings 11 and 12. -/
def listed : Db := { webHost ⟨[webBinding 11 (.interface 2), webBinding 12 (.interface 3)], by decide⟩ with
  groups := ⟨[⟨10, 0, 0, ⟨"web", 9, []⟩⟩], by simp⟩
  groupBindings := ⟨[⟨20, 0, 0, ⟨10, 11, 0⟩⟩, ⟨21, 0, 0, ⟨10, 12, 1⟩⟩], by decide⟩ }

/-- The second 12 is refused, and 11 is gone. -/
theorem saveForGroup_repeated : ¬ ∀ ω n db groupId bindingIds, AllOrNothing db groupId bindingIds
    (run dbStep ω n (saveForGroup groupId bindingIds) db).result (run dbStep ω n (saveForGroup groupId bindingIds) db).state := by
  intro h
  have hsame := (h (granted 0) 0 listed 10 [12, 12]).unsaved .uniqueViolation (by decide)
  have hreads := (hsame.1 [12]).mp ⟨granted 0, 0, by decide⟩
  obtain ⟨order, hperm, -, hids⟩ := reads_iff.mp hreads
  have hlength : (membersOf listed 10).length = 1 := by rw [← hperm.length_eq, ← List.length_map, hids]; rfl
  exact absurd hlength (by decide)

/-- As long as every position is an `i32`. -/
theorem saveForGroup_eq (groupId : Uuid) (hlength : bindingIds.length ≤ 2 ^ 31) :
    saveForGroup groupId bindingIds = GroupService.saveForGroup groupId bindingIds := by
  have hpositions : ∀ e ∈ bindingIds.zipIdx, asI32 e.2 = e.2 := by
    intro e he
    have hlt := List.snd_lt_of_mem_zipIdx he
    exact asI32_of_bounds (by omega) (by omega)
  unfold saveForGroup GroupService.saveForGroup
  generalize bindingIds.zipIdx = entries at hpositions
  refine congrArg (fun p => Program.bind _ (fun _ => p)) ?_
  induction entries with
  | nil => rfl
  | cons e entries ih =>
    rw [forEach, List.map_cons, forEach, hpositions e List.mem_cons_self,
      ih (fun e he => hpositions e (List.mem_cons_of_mem _ he))]

end saving

end GroupBindingStorage

end VantageNet.Inventory
