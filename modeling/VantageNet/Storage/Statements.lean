import Mathlib
import VantageNet.Storage.Generic

/-! The statements of `GenericPostgresStorage` do to the rows of a table what a keyed table does with entities. -/

namespace VantageNet.Storage

open Inventory Sql
open StorableEntity (Op)

section rows

variable {V : Type} {D : Domain V} {columns : List String} {values : List (Option V)}

/-- Each column with the value at its own index. -/
def rowOf (columns : List String) (values : List (Option V)) : Record V := fun c => ((columns.zip values).lookup c).join

theorem rowOf_eq_none {c : String} (h : c ∉ columns) : rowOf columns values c = none := by
  induction columns generalizing values with
  | nil => rfl
  | cons first columns ih =>
    rw [List.mem_cons, not_or] at h
    cases values with
    | nil => rfl
    | cons v values =>
      rw [rowOf, List.zip_cons_cons, List.lookup_cons, beq_false_of_ne h.1]
      exact ih h.2

/-- The placeholders of a list of columns stand for the values of these columns. -/
theorem lookup_placeholders (before : List (Option V)) (hlength : columns.length = values.length) (row : Record V) (c : String) :
    ((columns.zip ((List.range' (before.length + 1) columns.length).map Operand.param)).lookup c).map
      (Operand.supplied D (before ++ values) row) = (columns.zip values).lookup c := by
  induction columns generalizing before values with
  | nil => rfl
  | cons first columns ih =>
    cases values with
    | nil => simp at hlength
    | cons v values =>
      have hlength' : columns.length = values.length := by simpa using hlength
      have htail := ih (before ++ [v]) hlength'
      rw [List.length_append, List.length_singleton, List.append_assoc, List.singleton_append] at htail
      rw [List.length_cons, List.range'_succ, List.map_cons, List.zip_cons_cons, List.zip_cons_cons, List.lookup_cons, List.lookup_cons]
      by_cases hc : c = first
      · subst hc
        simp [Operand.supplied]
      · rw [beq_false_of_ne hc]
        exact htail

theorem inserted_placeholders (hlength : columns.length = values.length) :
    inserted D values columns ((List.range' 1 columns.length).map .param) = rowOf columns values := by
  funext c
  have hlookup := lookup_placeholders (D := D) [] hlength (fun _ => none) c
  rw [List.length_nil, List.nil_append] at hlookup
  rw [Nat.zero_add] at hlookup
  rw [inserted, rowOf, ← hlookup]
  cases (columns.zip ((List.range' 1 columns.length).map Operand.param)).lookup c <;> rfl

/-- The columns but the first, with their placeholders. -/
def laterColumns (columns : List String) : List (String × ℕ) := (columns.zipIdx.drop 1).map (fun e => (e.1, e.2 + 1))

theorem map_zipIdx_placeholder (columns : List String) (n : ℕ) :
    (columns.zipIdx n).map (fun e => (e.1, Operand.param (e.2 + 1))) =
      columns.zip ((List.range' (n + 1) columns.length).map Operand.param) := by
  induction columns generalizing n with
  | nil => rfl
  | cons c columns ih => rw [List.zipIdx_cons, List.map_cons, ih, List.length_cons, List.range'_succ, List.map_cons, List.zip_cons_cons]

theorem laterColumns_eq (first : String) (columns : List String) :
    (laterColumns (first :: columns)).map (fun e => (e.1, Operand.param e.2)) =
      columns.zip ((List.range' 2 columns.length).map Operand.param) := by
  rw [laterColumns, List.zipIdx_cons, List.drop_one, List.tail_cons, List.map_map]
  exact map_zipIdx_placeholder columns 1

theorem rowOf_of_ne {first c : String} (v : Option V) (h : c ≠ first) :
    rowOf (first :: columns) (v :: values) c = ((columns.zip values).lookup c).join := by
  rw [rowOf, List.zip_cons_cons, List.lookup_cons, beq_false_of_ne h]

/-- What is assigned to the later columns of a row that has the first one is the whole row of values. -/
theorem assigned_placeholders {first : String} {v : Option V} {old : List (Option V)} (hnodup : (first :: columns).Nodup)
    (hlength : columns.length = values.length) (hold : columns.length = old.length) :
    assigned D (v :: values) ((laterColumns (first :: columns)).map (fun e => (e.1, .param e.2)))
      (rowOf (first :: columns) (v :: old)) = rowOf (first :: columns) (v :: values) := by
  funext c
  rw [assigned, laterColumns_eq]
  by_cases hc : c = first
  · subst hc
    have hnone : (columns.zip ((List.range' 2 columns.length).map Operand.param)).lookup c = none := by
      apply List.lookup_eq_none_iff.mpr
      intro e he
      have hmem := (List.of_mem_zip he).1
      apply bne_iff_ne.mpr
      rintro rfl
      exact (List.nodup_cons.mp hnodup).1 hmem
    rw [hnone]
    simp [rowOf]
  · have hlookup := lookup_placeholders (D := D) [v] hlength (rowOf (first :: columns) (v :: old)) c
    have hlookup' := lookup_placeholders (D := D) [v] hold (fun _ => none) c
    rw [List.length_singleton, List.singleton_append] at hlookup hlookup'
    have hrow : rowOf (first :: columns) (v :: values) c = ((columns.zip values).lookup c).join := rowOf_of_ne v hc
    have hrow' : rowOf (first :: columns) (v :: old) c = ((columns.zip old).lookup c).join := rowOf_of_ne v hc
    rw [hrow, ← hlookup]
    cases hfound : (columns.zip ((List.range' 2 columns.length).map Operand.param)).lookup c with
    | some o => rfl
    | none =>
      rw [hfound] at hlookup'
      rw [Option.map_none, hrow', ← hlookup']
      rfl

end rows

section tables

variable {J E : Type} [DecidableEq J] {serde : Serde J} {T : StorableEntity J E} {K : Keyed E}

/-- The columns of an entity as they are stored. -/
def StorableEntity.record (serde : Serde J) (T : StorableEntity J E) (e : E) : Record (Cell J) := rowOf T.columns (T.params serde e)

/-- A table with these columns can be named in a statement, and the first of them is its key. -/
def WellNamed (tableName : String) (columns : List String) : Prop :=
  isName tableName ∧ (∀ c ∈ columns, isColumn c) ∧ columns.Nodup ∧ columns.head? = some "id" ∧ 2 ≤ columns.length

instance WellNamed.instDecidable (tableName : String) (columns : List String) : Decidable (WellNamed tableName columns) :=
  inferInstanceAs (Decidable (_ ∧ _))

/-- What an implementation of `StorableEntity` has to do right for its table. -/
structure Lawful (serde : Serde J) (T : StorableEntity J E) (K : Keyed E) : Prop where
  named : WellNamed T.tableName T.columns
  length : ∀ e, (T.values e).length = T.columns.length
  key : ∀ e, (T.values e).head? = some (.uuid (K.id e))
  setUpdatedAt : T.setUpdatedAt = K.setUpdatedAt
  check : ∀ e, T.check (T.record serde e) = true
  clash : ∀ a b, T.uniques.any (agree (T.record serde a) (T.record serde b)) = K.clash a b
  clash_comm : ∀ a b, K.clash a b = K.clash b a
  clash_of_id : ∀ a b, K.id a = K.id b → K.clash a b = true
  read : ∀ e, T.fromRow (T.record serde e) = .ok (K.stored e)

namespace Lawful

variable (h : Lawful serde T K)
include h

theorem exists_columns : ∃ columns, T.columns = "id" :: columns ∧ columns ≠ [] := by
  obtain ⟨-, -, -, hfirst, hseveral⟩ := h.named
  cases hcolumns : T.columns with
  | nil => simp [hcolumns] at hfirst
  | cons c columns =>
    rw [hcolumns] at hfirst hseveral
    cases Option.some.inj hfirst
    refine ⟨columns, rfl, ?_⟩
    rintro rfl
    simp at hseveral

theorem exists_params (e : E) : ∃ params, T.params serde e = some (.datum (.uuid (K.id e))) :: params := by
  have hkey := h.key e
  cases hvalues : T.values e with
  | nil => simp [hvalues] at hkey
  | cons v values =>
    rw [hvalues] at hkey
    cases Option.some.inj hkey
    exact ⟨values.map (RowValue.bindValue serde), by rw [StorableEntity.params, hvalues]; rfl⟩

theorem length_params (e : E) : T.columns.length = (T.params serde e).length := by
  rw [StorableEntity.params, List.length_map, h.length]

theorem record_id (e : E) : T.record serde e "id" = some (.datum (.uuid (K.id e))) := by
  obtain ⟨columns, hcolumns, -⟩ := h.exists_columns
  obtain ⟨params, hparams⟩ := h.exists_params e
  rw [StorableEntity.record, hcolumns, hparams, rowOf]
  simp

/-- The condition that all statements but `INSERT` have. -/
theorem selected_record (e : E) (id : Uuid) (params : List (Option (Cell J))) :
    selected (cells serde) (some (.datum (.uuid id)) :: params) [.eq (.column "id") (.param 1)] (T.record serde e) =
      decide (K.id e = id) := by
  have htest : (Condition.eq (.column "id") (.param 1)).test (cells serde) (some (.datum (.uuid id)) :: params) (T.record serde e) =
      some (decide (K.id e = id)) := by
    rw [Condition.test, Operand.supplied, h.record_id]
    simp [Operand.supplied, Sql.compare]
  rw [selected, List.foldr_cons, htest, List.foldr_nil]
  by_cases hid : K.id e = id <;> simp [hid, Truth.and]

omit h in
theorem agree_comm (a b : Record (Cell J)) (columns : List String) : agree a b columns = agree b a columns := by
  rw [Bool.eq_iff_iff, agree, agree, List.all_eq_true, List.all_eq_true]
  apply forall₂_congr
  intro c _
  by_cases heq : a c = b c
  · simp [heq]
  · simp [heq, Ne.symm heq]

/-- Rows meet the constraints when their entities are apart. -/
theorem accepts_iff {records : List (Record (Cell J))} {rows : List E} (hperm : records.Perm (rows.map (T.record serde))) :
    T.accepts records ↔ K.Separate rows := by
  have hsymm : ∀ a b : Record (Cell J), T.uniques.any (agree a b) = false → T.uniques.any (agree b a) = false := by
    intro a b hab
    rw [← hab]
    exact List.any_congr rfl (fun columns => agree_comm b a columns)
  have hcheck : ∀ row ∈ records, T.check row = true := by
    intro row hrow
    obtain ⟨e, -, rfl⟩ := List.mem_map.mp (hperm.mem_iff.mp hrow)
    exact h.check e
  rw [StorableEntity.accepts, and_iff_left hcheck, hperm.pairwise_iff (hsymm _ _), List.pairwise_map]
  simp only [h.clash, Keyed.Separate]

end Lawful

/-- The entities of the rows of a table, in whatever order. -/
structure Holds (serde : Serde J) (T : StorableEntity J E) (K : Keyed E) (store : Contents (Cell J)) (rows : List E) : Prop where
  perm : (store T.tableName).Perm (rows.map (T.record serde))
  separate : K.Separate rows

theorem clause_id : clause (lex "WHERE id = $1") = some [.eq (.column "id") (.param 1)] := by decide

theorem getByIdQuery_eq (tableName : String) : getByIdQuery tableName = "SELECT * FROM " ++ tableName ++ " " ++ "WHERE id = $1" := rfl

namespace Lawful

variable (h : Lawful serde T K) {store : Contents (Cell J)} {rows : List E}
include h

theorem statement_buildInsertQuery : statement (lex (buildInsertQuery T.tableName T.columns)) =
    some (.insert T.tableName T.columns ((List.range' 1 T.columns.length).map .param)) := by
  obtain ⟨columns, hcolumns, -⟩ := h.exists_columns
  have hrange : List.range' 1 T.columns.length = 1 :: List.range' 2 columns.length := by
    rw [hcolumns, List.length_cons, List.range'_succ]
  rw [buildInsertQuery, hrange]
  apply statement_insert h.named.1 h.named.2.1
  rw [hcolumns, List.length_range', List.length_cons]

theorem statement_buildUpdateQuery : statement (lex (buildUpdateQuery T.tableName T.columns)) =
    some (.update T.tableName ((laterColumns T.columns).map (fun e => (e.1, .param e.2))) [.eq (.column "id") (.param 1)]) := by
  obtain ⟨columns, hcolumns, hne⟩ := h.exists_columns
  have htexts : (T.columns.zipIdx.drop 1).map (fun e => e.1 ++ " = $" ++ toString (e.2 + 1)) =
      (laterColumns T.columns).map (fun e => e.1 ++ " = $" ++ toString e.2) := by
    rw [laterColumns, List.map_map]
    rfl
  rw [buildUpdateQuery, htexts]
  apply statement_update h.named.1
  · intro e he
    obtain ⟨e', he', rfl⟩ := List.mem_map.mp he
    have hmem : e' ∈ T.columns.zipIdx := List.mem_of_mem_drop he'
    exact h.named.2.1 e'.1 (List.fst_mem_of_mem_zipIdx hmem)
  · rw [hcolumns]
    intro hnil
    have hlength := congrArg List.length hnil
    rw [laterColumns, List.length_map, List.length_drop, List.length_zipIdx, List.length_cons, Nat.add_sub_cancel] at hlength
    exact hne (List.eq_nil_of_length_eq_zero hlength)
  · exact clause_id

/-- A statement that leaves the rows of these entities. -/
theorem execute_spec (hrows : Holds serde T K store rows) {text : String} {stmt : Statement} {params : List (Option (Cell J))}
    {out after : List (Record (Cell J))} {rows' : List E} (answer : Option E) (hstmt : statement (lex text) = some stmt)
    (hexec : stmt.exec (cells serde) params store = (out, Function.update store T.tableName after))
    (hperm : after.Perm (rows'.map (T.record serde))) :
    ∃ result store', T.execute serde text params store = some (result, store') ∧
      result.map (fun _ => answer) = (K.commit rows rows' answer).1 ∧ (K.Separate rows' → result = .ok out) ∧
      Holds serde T K store' (K.commit rows rows' answer).2 ∧ ∀ t ≠ T.tableName, store' t = store t := by
  have hafter : Function.update store T.tableName after T.tableName = after := Function.update_self _ _ _
  rw [StorableEntity.execute, hstmt, Option.map_some, hexec]
  dsimp only
  rw [hafter, Keyed.commit]
  by_cases hseparate : K.Separate rows'
  · rw [if_pos ((h.accepts_iff hperm).mpr hseparate), if_pos hseparate]
    refine ⟨.ok out, _, rfl, rfl, fun _ => rfl, ⟨?_, hseparate⟩, ?_⟩
    · rw [hafter]
      exact hperm
    · intro t ht
      exact Function.update_of_ne ht _ _
  · rw [if_neg (mt (h.accepts_iff hperm).mp hseparate), if_neg hseparate]
    exact ⟨.error .constraint, store, rfl, rfl, fun hyes => absurd hyes hseparate, hrows, fun t _ => rfl⟩

theorem filter_selected (hrows : Holds serde T K store rows) (id : Uuid) (params : List (Option (Cell J))) :
    ((store T.tableName).filter (selected (cells serde) (some (.datum (.uuid id)) :: params) [.eq (.column "id") (.param 1)])).Perm
      ((rows.filter (fun r => K.id r = id)).map (T.record serde)) := by
  apply (hrows.perm.filter _).trans
  apply List.Perm.of_eq
  rw [List.filter_map]
  apply congrArg
  apply List.filter_congr
  intro r _
  exact h.selected_record r id params

/-- Of the rows that meet the constraints at most one has an id. -/
theorem eq_of_id (hseparate : K.Separate rows) {a b : E} (ha : a ∈ rows) (hb : b ∈ rows) (hid : K.id a = K.id b) : a = b := by
  by_contra hne
  have hsymm : Std.Symm (fun a b => K.clash a b = false) := ⟨fun a b hab => h.clash_comm a b ▸ hab⟩
  have hapart := hseparate.forall ha hb hne
  rw [h.clash_of_id a b hid] at hapart
  cases hapart

theorem perform_create (hrows : Holds serde T K store rows) (entity : E) :
    ∃ store', T.perform serde store (.create entity) true = some ((K.perform rows (.create entity) true).1, store') ∧
      Holds serde T K store' (K.perform rows (.create entity) true).2 ∧ ∀ t ≠ T.tableName, store' t = store t := by
  have hexec : (Statement.insert T.tableName T.columns ((List.range' 1 T.columns.length).map .param)).exec (cells serde)
      (T.params serde entity) store = ([], Function.update store T.tableName (store T.tableName ++ [T.record serde entity])) := by
    rw [Statement.exec, inserted_placeholders (h.length_params entity)]
    rfl
  have hperm : (store T.tableName ++ [T.record serde entity]).Perm ((rows ++ [entity]).map (T.record serde)) := by
    rw [List.map_append]
    exact hrows.perm.append_right _
  obtain ⟨result, store', hexecute, hanswer, -, hholds, hother⟩ :=
    h.execute_spec hrows (some entity) h.statement_buildInsertQuery hexec hperm
  refine ⟨store', ?_, hholds, hother⟩
  simp only [StorableEntity.perform, hexecute, Option.map_some, hanswer, if_true]
  rfl

theorem perform_update (hrows : Holds serde T K store rows) (entity : E) (now : Instant) :
    ∃ store', T.perform serde store (.update entity now) true = some ((K.perform rows (.update entity now) true).1, store') ∧
      Holds serde T K store' (K.perform rows (.update entity now) true).2 ∧ ∀ t ≠ T.tableName, store' t = store t := by
  set updated := K.setUpdatedAt entity now with hupdated
  obtain ⟨columns, hcolumns, -⟩ := h.exists_columns
  obtain ⟨params, hparams⟩ := h.exists_params updated
  have hassigned : ∀ r : E, K.id r = K.id updated → assigned (cells serde) (T.params serde updated)
      ((laterColumns T.columns).map (fun e => (e.1, .param e.2))) (T.record serde r) = T.record serde updated := by
    intro r hid
    obtain ⟨old, hold⟩ := h.exists_params r
    have hnodup := h.named.2.2.1
    have hlength := h.length_params updated
    have hlength' := h.length_params r
    rw [StorableEntity.record, StorableEntity.record]
    rw [hcolumns] at hnodup hlength hlength' ⊢
    rw [hparams] at hlength ⊢
    rw [hold, hid] at hlength' ⊢
    apply assigned_placeholders hnodup
    · simpa using hlength
    · simpa using hlength'
  have hexec : (Statement.update T.tableName ((laterColumns T.columns).map (fun e => (e.1, .param e.2)))
      [.eq (.column "id") (.param 1)]).exec (cells serde) (T.params serde updated) store =
      ([], Function.update store T.tableName ((store T.tableName).map (fun row =>
        if selected (cells serde) (T.params serde updated) [.eq (.column "id") (.param 1)] row then
          assigned (cells serde) (T.params serde updated) ((laterColumns T.columns).map (fun e => (e.1, .param e.2))) row
        else row))) := rfl
  have hperm : ((store T.tableName).map (fun row =>
      if selected (cells serde) (T.params serde updated) [.eq (.column "id") (.param 1)] row then
        assigned (cells serde) (T.params serde updated) ((laterColumns T.columns).map (fun e => (e.1, .param e.2))) row
      else row)).Perm ((K.replaced rows updated).map (T.record serde)) := by
    apply (hrows.perm.map _).trans
    apply List.Perm.of_eq
    rw [Keyed.replaced, List.map_map, List.map_map]
    apply List.map_congr_left
    intro r _
    rw [Function.comp_apply, Function.comp_apply]
    by_cases hid : K.id r = K.id updated
    · rw [hassigned r hid, hparams, h.selected_record, decide_eq_true hid, if_pos rfl, if_pos hid]
    · rw [hparams, h.selected_record, decide_eq_false hid, if_neg Bool.false_ne_true, if_neg hid]
  obtain ⟨result, store', hexecute, hanswer, -, hholds, hother⟩ :=
    h.execute_spec hrows (some updated) h.statement_buildUpdateQuery hexec hperm
  refine ⟨store', ?_, hholds, hother⟩
  simp only [StorableEntity.perform, h.setUpdatedAt, ← hupdated, hexecute, Option.map_some, hanswer, if_true]
  rfl

theorem perform_getById (hrows : Holds serde T K store rows) (id : Uuid) :
    ∃ store', T.perform serde store (.getById id) true = some ((K.perform rows (.getById id) true).1, store') ∧
      Holds serde T K store' (K.perform rows (.getById id) true).2 ∧ ∀ t ≠ T.tableName, store' t = store t := by
  set found := (store T.tableName).filter (selected (cells serde) [some (.datum (.uuid id))] [.eq (.column "id") (.param 1)])
    with hfound
  have hexec : (Statement.select T.tableName [.eq (.column "id") (.param 1)]).exec (cells serde) [some (.datum (.uuid id))] store =
      (found, Function.update store T.tableName (store T.tableName)) := by
    rw [Function.update_eq_self]
    rfl
  have hstmt : statement (lex (getByIdQuery T.tableName)) = some (.select T.tableName [.eq (.column "id") (.param 1)]) :=
    statement_select h.named.1 clause_id
  obtain ⟨result, store', hexecute, -, hresult, hholds, hother⟩ := h.execute_spec hrows none hstmt hexec hrows.perm
  have hrows' : (K.commit rows rows none).2 = rows := by
    rw [Keyed.commit]
    split_ifs <;> rfl
  rw [hrows'] at hholds
  refine ⟨store', ?_, hholds, hother⟩
  have hfirst : T.firstRow found = .ok ((rows.find? (fun r => K.id r = id)).map K.stored) := by
    have hperm := h.filter_selected hrows id []
    rw [← hfound] at hperm
    cases hfind : rows.find? (fun r => K.id r = id) with
    | none =>
      have hnil : rows.filter (fun r => K.id r = id) = [] := List.filter_eq_nil_iff.mpr (List.find?_eq_none.mp hfind)
      rw [hnil, List.map_nil] at hperm
      rw [hperm.eq_nil]
      rfl
    | some e =>
      have hmem := List.mem_of_find?_eq_some hfind
      have hid : K.id e = id := by simpa using List.find?_some hfind
      cases hlist : found with
      | nil =>
        rw [hlist] at hperm
        have hnil := List.map_eq_nil_iff.mp hperm.nil_eq.symm
        exact absurd (decide_eq_true hid) (List.filter_eq_nil_iff.mp hnil e hmem)
      | cons row rest =>
        rw [hlist] at hperm
        obtain ⟨r, hr, rfl⟩ := List.mem_map.mp (hperm.mem_iff.mp List.mem_cons_self)
        have hr' := List.mem_filter.mp hr
        have hid' : K.id r = id := of_decide_eq_true hr'.2
        cases h.eq_of_id hrows.separate hr'.1 hmem (hid'.trans hid.symm)
        rw [StorableEntity.firstRow, List.head?_cons]
        dsimp only
        rw [h.read]
        rfl
  simp only [StorableEntity.perform, hexecute, hresult hrows.separate, Option.map_some, if_true]
  rw [show Except.bind (Except.ok found) T.firstRow = T.firstRow found from rfl, hfirst]
  rfl

theorem perform_delete (hrows : Holds serde T K store rows) (id : Uuid) :
    ∃ store', T.perform serde store (.delete id) true = some ((K.perform rows (.delete id) true).1, store') ∧
      Holds serde T K store' (K.perform rows (.delete id) true).2 ∧ ∀ t ≠ T.tableName, store' t = store t := by
  set kept := (store T.tableName).filter (fun row =>
    !selected (cells serde) [some (.datum (.uuid id))] [.eq (.column "id") (.param 1)] row) with hkept
  have hexec : (Statement.delete T.tableName [.eq (.column "id") (.param 1)]).exec (cells serde) [some (.datum (.uuid id))] store =
      ([], Function.update store T.tableName kept) := rfl
  have hperm : kept.Perm ((rows.filter (fun r => K.id r ≠ id)).map (T.record serde)) := by
    apply (hrows.perm.filter _).trans
    apply List.Perm.of_eq
    rw [List.filter_map]
    apply congrArg
    apply List.filter_congr
    intro r _
    rw [Function.comp_apply, h.selected_record]
    simp
  have hseparate : K.Separate (rows.filter (fun r => K.id r ≠ id)) := hrows.separate.filter _
  obtain ⟨result, store', hexecute, -, hresult, hholds, hother⟩ :=
    h.execute_spec hrows none (statement_delete h.named.1 clause_id) hexec hperm
  rw [Keyed.commit, if_pos hseparate] at hholds
  refine ⟨store', ?_, hholds, hother⟩
  have htext : deleteQuery T.tableName = "DELETE FROM " ++ T.tableName ++ " " ++ "WHERE id = $1" := rfl
  simp only [StorableEntity.perform, htext, hexecute, hresult hseparate, Option.map_some, if_true]
  rfl

theorem perform_spec (hrows : Holds serde T K store rows) (op : Op E) (granted : Bool) :
    ∃ store', T.perform serde store op granted = some ((K.perform rows op granted).1, store') ∧
      Holds serde T K store' (K.perform rows op granted).2 ∧ ∀ t ≠ T.tableName, store' t = store t := by
  cases granted with
  | false => exact ⟨store, rfl, hrows, fun t _ => rfl⟩
  | true =>
    cases op with
    | create entity => exact h.perform_create hrows entity
    | update entity now => exact h.perform_update hrows entity now
    | getById id => exact h.perform_getById hrows id
    | delete id => exact h.perform_delete hrows id

/-- Whatever is asked of the storage, one after the other, is answered as by a keyed table. -/
theorem performAll_spec (hrows : Holds serde T K store rows) (ops : List (Op E × Bool)) :
    ∃ store', T.performAll serde store ops = some ((K.performAll rows ops).1, store') ∧
      Holds serde T K store' (K.performAll rows ops).2 ∧ ∀ t ≠ T.tableName, store' t = store t := by
  induction ops generalizing store rows with
  | nil => exact ⟨store, rfl, hrows, fun t _ => rfl⟩
  | cons e ops ih =>
    obtain ⟨op, granted⟩ := e
    obtain ⟨store', hperform, hholds, hother⟩ := h.perform_spec hrows op granted
    obtain ⟨store'', hrest, hholds', hother'⟩ := ih hholds
    refine ⟨store'', ?_, hholds', fun t ht => (hother' t ht).trans (hother t ht)⟩
    rw [StorableEntity.performAll, hperform, Option.bind_some, hrest]
    rfl

end Lawful

end tables

end VantageNet.Storage
