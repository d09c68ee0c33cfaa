import Mathlib
import VantageNet.Inventory.Effects
import VantageNet.Storage.Entities

/-! The statements of the storage, for every entity of an inventory, refine the tables of `Inventory.Db`. -/

namespace VantageNet.Storage

open Inventory Sql
open StorableEntity (Op)

section runs

variable {J E : Type} [DecidableEq J]

/-- Whatever is asked of a table, its rows are those of the keyed table, its answers too, and other tables stay as they are. -/
def Refines (serde : Serde J) (T : StorableEntity J E) (K : Keyed E) : Prop :=
  ∀ (store : Contents (Cell J)) (rows : List E) (ops : List (Op E × Bool)), Holds serde T K store rows →
    ∃ store', T.performAll serde store ops = some ((K.performAll rows ops).1, store') ∧
      Holds serde T K store' (K.performAll rows ops).2 ∧ ∀ t ≠ T.tableName, store' t = store t

theorem Lawful.refines {serde : Serde J} {T : StorableEntity J E} {K : Keyed E} (h : Lawful serde T K) : Refines serde T K :=
  fun _ _ ops hrows => h.performAll_spec hrows ops

/-- All statements of the storage do what they are for. -/
theorem storage_refines_tables (serde : Serde J) (registry : List ServiceDefinition) :
    Refines serde (hosts serde) hostTable ∧ Refines serde interfaces interfaceTable ∧ Refines serde ports portTable ∧
      Refines serde bindings bindingTable ∧ Refines serde (services serde registry) (serviceTable registry) ∧
        Refines serde (subnets serde) subnetTable :=
  ⟨(lawful_hosts serde).refines, (lawful_interfaces serde).refines, (lawful_ports serde).refines, (lawful_bindings serde).refines,
    (lawful_services serde registry).refines, (lawful_subnets serde).refines⟩

end runs

section inventory

variable {k : Kind} (K : Keyed (Row k))

/-- What the tables of an inventory answer to an operation on one of them. -/
def perform (db : Db) : Op (Row k) → Except Inventory.Error (Option (Row k)) × Db
  | .create row =>
    let (answer, after) := db.create k row (.ok ())
    (answer.map (fun _ => some row), after)
  | .update row now =>
    let (answer, after) := db.update k (K.setUpdatedAt row now) (.ok ())
    (answer.map (fun _ => some (K.setUpdatedAt row now)), after)
  | .getById id => (.ok (((db.table k).rows.find? (fun r => r.id = id)).map K.stored), db)
  | .delete id => (.ok none, db.delete k (fun r => r.id = id))

/-- The foreign keys are met. -/
def granted (db : Db) : Op (Row k) → Bool
  | .create row => db.refers k row
  | .update row now => db.refers k (K.setUpdatedAt row now) || !db.has k (K.setUpdatedAt row now).id
  | _ => true

/-- The operations with whether their foreign keys are met, the answers and the tables at the end. -/
def performAll (db : Db) : List (Op (Row k)) → List (Op (Row k) × Bool) × List (Except Inventory.Error (Option (Row k))) × Db
  | [] => ([], [], db)
  | op :: ops =>
    let (answer, after) := perform K db op
    let (asked, answers, final) := performAll after ops
    ((op, granted K db op) :: asked, answer :: answers, final)

end inventory

section tables

variable {J : Type} {serde : Serde J} {k : Kind} {stored : k.Base → k.Base} {T : StorableEntity J (Row k)} {db : Db}

theorem separate_iff {rows : List (Row k)} : (tableOf stored (clash k)).Separate rows ↔ rows.Pairwise (Inventory.Apart k) := by
  apply iff_of_eq
  rw [Keyed.Separate]
  congr
  funext a b
  simp [tableOf, Inventory.Apart]

theorem apart_columns (r row : Row k) : Inventory.Apart k r (columns k row) ↔ Inventory.Apart k r row := by
  cases k <;> rfl

/-- A row that replaces the one with its id. -/
theorem replaced_perm (stored : k.Base → k.Base) {rows : List (Row k)} {row : Row k} (hids : rows.Pairwise (fun a b => a.id ≠ b.id))
    (hhas : ∃ r ∈ rows, r.id = row.id) :
    ((tableOf stored (clash k)).replaced rows row).Perm (rows.filter (fun r => r.id ≠ row.id) ++ [row]) := by
  induction rows with
  | nil => simp at hhas
  | cons a rows ih =>
    obtain ⟨hfirst, hrest⟩ := List.pairwise_cons.mp hids
    by_cases ha : a.id = row.id
    · have hother : ∀ r ∈ rows, r.id ≠ row.id := fun r hr hid => hfirst r hr (ha.trans hid.symm)
      have hmap : (tableOf stored (clash k)).replaced (a :: rows) row = row :: rows := by
        rw [Keyed.replaced, List.map_cons]
        simp only [tableOf, ha, if_true]
        congr 1
        apply (List.map_congr_left (g := id) _).trans (List.map_id rows)
        intro r hr
        exact if_neg (hother r hr)
      have hfilter : (a :: rows).filter (fun r => r.id ≠ row.id) = rows := by
        rw [List.filter_cons_of_neg (by simpa using ha)]
        apply List.filter_eq_self.mpr
        intro r hr
        simpa using hother r hr
      rw [hmap, hfilter]
      exact (List.perm_append_singleton row rows).symm
    · have hmap : (tableOf stored (clash k)).replaced (a :: rows) row = a :: (tableOf stored (clash k)).replaced rows row := by
        rw [Keyed.replaced, List.map_cons]
        simp only [tableOf, ha, if_false]
        rfl
      rw [hmap, List.filter_cons_of_pos (by simpa using ha), List.cons_append]
      apply List.Perm.cons
      apply ih hrest
      obtain ⟨r, hr, hid⟩ := hhas
      cases List.mem_cons.mp hr with
      | inl heq =>
        subst heq
        exact absurd hid ha
      | inr hmem => exact ⟨r, hmem, hid⟩

/-- The answers agree but for what an error says, and so do the rows but for their order. -/
structure Agree (serde : Serde J) (T : StorableEntity J (Row k)) (a : Except StorageError (Option (Row k)) × List (Row k))
    (b : Except Inventory.Error (Option (Row k)) × Db) : Prop where
  answer : a.1.toOption = b.1.toOption
  rows : (a.2.map (T.record serde)).Perm ((b.2.table k).rows.map (T.record serde))

theorem separate_append_iff (stored : k.Base → k.Base) (t : Rows k) (row : Row k) :
    (tableOf stored (clash k)).Separate (t.rows ++ [row]) ↔
    ∀ r ∈ t.rows, Inventory.Apart k r (columns k row) := by
  simp only [separate_iff, List.pairwise_append, t.pairwise, List.pairwise_singleton, List.mem_singleton, forall_eq, true_and,
    apart_columns]

theorem agree_create (hcolumns : ∀ row, T.record serde (columns k row) = T.record serde row) (row : Row k) :
    Agree serde T ((tableOf stored (clash k)).perform (db.table k).rows (.create row) (db.refers k row))
      (perform (tableOf stored (clash k)) db (.create row)) := by
  rw [perform, Db.create]
  cases hrefers : db.refers k row with
  | false =>
    by_cases hapart : ∀ r ∈ (db.table k).rows, Inventory.Apart k r (columns k row)
    · rw [dif_pos hapart]
      exact ⟨rfl, .refl _⟩
    · rw [dif_neg hapart]
      exact ⟨rfl, .refl _⟩
  | true =>
    rw [Keyed.perform, if_pos rfl]
    dsimp only
    rw [Keyed.commit]
    by_cases hapart : ∀ r ∈ (db.table k).rows, Inventory.Apart k r (columns k row)
    · rw [dif_pos hapart, if_pos ((separate_append_iff stored (db.table k) row).mpr hapart)]
      constructor
      · rfl
      · simp [hcolumns]
    · rw [dif_neg hapart, if_neg (mt (separate_append_iff stored (db.table k) row).mp hapart)]
      exact ⟨rfl, .refl _⟩

theorem agree_update (hcolumns : ∀ row, T.record serde (columns k row) = T.record serde row) (row : Row k) (now : Instant) :
    Agree serde T ((tableOf stored (clash k)).perform (db.table k).rows (.update row now)
        (db.refers k (touched row now) || !db.has k (touched row now).id))
      (perform (tableOf stored (clash k)) db (.update row now)) := by
  have htouched : (tableOf stored (clash k)).setUpdatedAt row now = touched row now := rfl
  rw [perform, htouched, Db.update]
  cases hhas : db.has k (touched row now).id with
  | false =>
    have hreplaced : (tableOf stored (clash k)).replaced (db.table k).rows (touched row now) = (db.table k).rows := by
      apply (List.map_congr_left (g := id) _).trans (List.map_id _)
      intro r hr
      apply if_neg
      intro hid
      have hyes : db.has k (touched row now).id = true := (has_iff db k _).mpr ⟨r, hr, hid⟩
      rw [hyes] at hhas
      cases hhas
    rw [Bool.not_false, Bool.or_true, Keyed.perform, if_pos rfl, if_neg Bool.false_ne_true]
    dsimp only
    rw [htouched, hreplaced, Keyed.commit, if_pos (separate_iff.mpr (db.table k).pairwise)]
    exact ⟨rfl, .refl _⟩
  | true =>
    rw [Bool.not_true, Bool.or_false, if_pos rfl]
    cases hrefers : db.refers k (touched row now) with
    | false =>
      by_cases hapart : ∀ r ∈ ((db.table k).filter (fun r => r.id ≠ (touched row now).id)).rows,
        Inventory.Apart k r (columns k (touched row now))
      · rw [dif_pos hapart]
        exact ⟨rfl, .refl _⟩
      · rw [dif_neg hapart]
        exact ⟨rfl, .refl _⟩
    | true =>
      have hperm := replaced_perm stored ((db.table k).pairwise.imp And.left) ((has_iff db k _).mp hhas)
      have hseparate := separate_append_iff stored ((db.table k).filter (fun r => r.id ≠ (touched row now).id)) (touched row now)
      have hiff : (tableOf stored (clash k)).Separate ((tableOf stored (clash k)).replaced (db.table k).rows (touched row now)) ↔
          (tableOf stored (clash k)).Separate ((db.table k).rows.filter (fun r => r.id ≠ (touched row now).id) ++ [touched row now]) := by
        rw [separate_iff, separate_iff]
        exact hperm.pairwise_iff (fun hab => Std.Symm.symm _ _ hab)
      rw [Keyed.perform, if_pos rfl]
      dsimp only
      rw [htouched, Keyed.commit]
      by_cases hapart : ∀ r ∈ ((db.table k).filter (fun r => r.id ≠ (touched row now).id)).rows,
        Inventory.Apart k r (columns k (touched row now))
      · rw [dif_pos hapart, if_pos (hiff.mpr (hseparate.mpr hapart))]
        constructor
        · rfl
        · apply (hperm.map _).trans
          simp [hcolumns]
      · rw [dif_neg hapart, if_neg (fun hyes => hapart (hseparate.mp (hiff.mp hyes)))]
        exact ⟨rfl, .refl _⟩

/-- A table of the inventory answers an operation as a keyed table does, and has the same rows then. -/
theorem agree_perform (stored : k.Base → k.Base) (hcolumns : ∀ row, T.record serde (columns k row) = T.record serde row)
    (db : Db) (op : Op (Row k)) :
    Agree serde T ((tableOf stored (clash k)).perform (db.table k).rows op (granted (tableOf stored (clash k)) db op))
      (perform (tableOf stored (clash k)) db op) := by
  cases op with
  | create row => exact agree_create hcolumns row
  | update row now => exact agree_update hcolumns row now
  | getById id => exact ⟨rfl, .refl _⟩
  | delete id =>
    constructor
    · rfl
    · rw [perform, table_delete]
      apply List.Perm.of_eq
      apply congrArg
      apply List.filter_congr
      intro r _
      exact decide_not

variable [DecidableEq J]

/-- The statements do to a table what the operations of the inventory do. -/
def Serves (k : Kind) (serde : Serde J) (T : StorableEntity J (Row k)) (K : Keyed (Row k)) : Prop :=
  ∀ (store : Contents (Cell J)) (db : Db) (ops : List (Op (Row k))), Holds serde T K store (db.table k).rows →
    ∃ answers store', T.performAll serde store (performAll K db ops).1 = some (answers, store') ∧
      answers.map Except.toOption = (performAll K db ops).2.1.map Except.toOption ∧
      Holds serde T K store' ((performAll K db ops).2.2.table k).rows

theorem Lawful.serves (h : Lawful serde T (tableOf stored (Inventory.clash k)))
    (hcolumns : ∀ row, T.record serde (columns k row) = T.record serde row) : Serves k serde T (tableOf stored (Inventory.clash k)) := by
  intro store db ops hrows
  induction ops generalizing store db with
  | nil => exact ⟨[], store, rfl, rfl, hrows⟩
  | cons op ops ih =>
    have hagree := agree_perform stored hcolumns db op
    obtain ⟨store', hperform, hholds, -⟩ := h.perform_spec hrows op (granted (tableOf stored (Inventory.clash k)) db op)
    have hholds' : Holds serde T (tableOf stored (Inventory.clash k)) store'
        (((perform (tableOf stored (Inventory.clash k)) db op).2.table k).rows) :=
      ⟨hholds.perm.trans hagree.rows, separate_iff.mpr (Interaction.Table.pairwise _)⟩
    obtain ⟨answers, store'', hrest, hanswers, hfinal⟩ := ih store' _ hholds'
    refine ⟨((tableOf stored (Inventory.clash k)).perform (db.table k).rows op
      (granted (tableOf stored (Inventory.clash k)) db op)).1 :: answers, store'', ?_, ?_, hfinal⟩
    · rw [performAll, StorableEntity.performAll, hperform, Option.bind_some]
      dsimp only
      rw [hrest]
      rfl
    · rw [performAll, List.map_cons, List.map_cons, hanswers, hagree.answer]

end tables

/-- The tables of an inventory are what its statements make of theirs. -/
theorem storage_serves_inventory {J : Type} [DecidableEq J] (serde : Serde J) (registry : List ServiceDefinition) :
    Serves .host serde (hosts serde) hostTable ∧ Serves .interface serde interfaces interfaceTable ∧
      Serves .binding serde bindings bindingTable ∧ Serves .service serde (services serde registry) (serviceTable registry) :=
  ⟨(lawful_hosts serde).serves (fun _ => rfl), (lawful_interfaces serde).serves (fun _ => rfl),
    (lawful_bindings serde).serves (fun _ => rfl), (lawful_services serde registry).serves (fun _ => rfl)⟩

end VantageNet.Storage
