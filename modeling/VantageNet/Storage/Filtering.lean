import VantageNet.Storage.EntityFilter

/-! What a chain of builder calls makes of an `EntityFilter`. -/

namespace VantageNet.Storage

open Sql

def params (values : List SqlValue) : List Datum := values.map SqlValue.bindValue

/-- `g` has these conditions more than `f`: what is read of them, the values pushed for them and what they mean. -/
structure Adds (f g : EntityFilter) (texts : List String) (reads : List (Condition × List ℕ))
    (pushed : List (String × SqlValue)) (meaning : Columns → Prop) : Prop where
  conditions : g.conditions = f.conditions ++ texts
  values : g.values = f.values ++ pushed.map Prod.snd
  read : ReadsAll texts reads
  placeholders : (reads.map Prod.snd).flatten = List.range' (f.values.length + 1) pushed.length
  comparisons : reads.flatMap (fun r => r.1.comparisons) = (pushed.map Prod.fst).zipIdx (f.values.length + 1)
  holds : ∀ later row, (∀ r ∈ reads, r.1.eval postgres (params (g.values ++ later)) row = some true) ↔ meaning row

theorem Adds.nil (f : EntityFilter) : Adds f f [] [] [] (fun _ => True) := by
  constructor
  · simp
  · simp
  · exact .nil
  · simp
  · simp
  · simp

theorem Adds.trans {f g h : EntityFilter} {texts texts' : List String} {reads reads' : List (Condition × List ℕ)}
    {pushed pushed' : List (String × SqlValue)} {meaning meaning' : Columns → Prop}
    (hfg : Adds f g texts reads pushed meaning) (hgh : Adds g h texts' reads' pushed' meaning') :
    Adds f h (texts ++ texts') (reads ++ reads') (pushed ++ pushed') (fun row => meaning row ∧ meaning' row) := by
  have hlength : g.values.length = f.values.length + pushed.length := by simp [hfg.values]
  constructor
  · rw [hgh.conditions, hfg.conditions, List.append_assoc]
  · rw [hgh.values, hfg.values, List.map_append, List.append_assoc]
  · exact List.rel_append hfg.read hgh.read
  · rw [List.map_append, List.flatten_append, hfg.placeholders, hgh.placeholders, hlength, List.length_append,
      ← List.range'_append_1, Nat.add_right_comm]
  · rw [List.flatMap_append, hfg.comparisons, hgh.comparisons, hlength, List.map_append, List.zipIdx_append,
      List.length_map, Nat.add_right_comm]
  · intro later row
    have hleft := hfg.holds (pushed'.map Prod.snd ++ later) row
    rw [← List.append_assoc, ← hgh.values] at hleft
    simp only [List.mem_append, or_imp, forall_and, hleft, hgh.holds later row]

theorem column_value (values : List Datum) (row : Columns) (column : String) :
    (Operand.column column).value postgres values row = row column := rfl

theorem param_value {values later : List SqlValue} {value : SqlValue} (row : Columns) :
    (Operand.param (values.length + 1)).value postgres (params (values ++ [value] ++ later)) row = some value.bindValue := by
  simp [Operand.value, params]

theorem listed_value {values later : List SqlValue} {ids : List Uuid} (row : Columns) {i : ℕ} (hi : i < ids.length) :
    (Operand.param (values.length + 1 + i)).value postgres (params (values ++ ids.map .uuid ++ later)) row =
      some (.uuid ids[i]) := by
  have hne : values.length + 1 + i ≠ 0 := by omega
  have hindex : values.length + 1 + i - 1 = values.length + i := by omega
  rw [Operand.value, if_neg hne, hindex]
  simp [params, List.getElem?_append, hi, SqlValue.bindValue]

theorem placeholders_eq (n : ℕ) (ids : List Uuid) :
    ids.zipIdx.map (fun e => "$" ++ toString (n + e.2 + 1)) = (List.range' (n + 1) ids.length).map (fun k => "$" ++ toString k) := by
  have hsnd : ids.zipIdx.map Prod.snd = List.range' 0 ids.length := by simp
  have hrange : List.range' (n + 1) ids.length = (List.range' 0 ids.length).map (fun i => n + i + 1) := by
    rw [List.range'_eq_map_range, List.range'_eq_map_range, List.map_map]
    apply List.map_congr_left
    intro i _
    simp only [Function.comp]
    omega
  rw [hrange, ← hsnd, List.map_map, List.map_map]
  rfl

theorem named_zipIdx {α : Type} (column : String) (xs : List α) (n : ℕ) :
    (xs.map (fun _ => column)).zipIdx n = (List.range' n xs.length).map (fun k => (column, k)) := by
  induction xs generalizing n with
  | nil => rfl
  | cons x xs ih =>
    have htail := ih (n + 1)
    rw [List.map_cons, List.zipIdx_cons, htail, List.length_cons, List.range'_succ, List.map_cons]

section builders

variable (f : EntityFilter) {column : String} (hcolumn : isColumn column)
include hcolumn

theorem adds_equals (value : SqlValue) :
    Adds f (f.compared column "=" value) [column ++ " " ++ "=" ++ " $" ++ toString (f.values.length + 1)]
      [(.eq (.column column) (.param (f.values.length + 1)), [f.values.length + 1])] [(column, value)]
      (fun row => row column = some value.bindValue) := by
  constructor
  · rfl
  · rfl
  · exact .cons (reads_eq hcolumn _) .nil
  · simp
  · rfl
  · intro later row
    simp only [List.forall_mem_singleton, Condition.eval, EntityFilter.compared, param_value, compare_eq_some, column_value]

theorem adds_less (value : SqlValue) :
    Adds f (f.compared column "<" value) [column ++ " " ++ "<" ++ " $" ++ toString (f.values.length + 1)]
      [(.lt (.column column) (.param (f.values.length + 1)), [f.values.length + 1])] [(column, value)]
      (fun row => ∃ v, row column = some v ∧ v.lt value.bindValue = true) := by
  constructor
  · rfl
  · rfl
  · exact .cons (reads_lt hcolumn _) .nil
  · simp
  · rfl
  · intro later row
    simp only [List.forall_mem_singleton, Condition.eval, EntityFilter.compared, param_value, compare_eq_true, column_value]
    constructor
    · rintro ⟨v, w, hv, hw, hlt⟩
      cases hw
      exact ⟨v, hv, hlt⟩
    · rintro ⟨v, hv, hlt⟩
      exact ⟨v, _, hv, rfl, hlt⟩

theorem adds_listed (ids : List Uuid) : ∃ texts reads, Adds f (f.listed column ids) texts reads
    (ids.map (fun id => (column, .uuid id))) (fun row => ∃ id ∈ ids, row.isId column id) := by
  cases ids with
  | nil =>
    refine ⟨["FALSE"], [(.truth (.bool false), [])], ?_⟩
    constructor
    · rfl
    · simp [EntityFilter.listed]
    · exact .cons reads_false .nil
    · rfl
    · rfl
    · simp [Condition.eval, Operand.value, postgres, Datum.asBool]
  | cons id ids =>
    let numbers := List.range' (f.values.length + 1) (id :: ids).length
    have hlisted : f.listed column (id :: ids) = ⟨f.conditions ++ [column ++ " IN (" ++ String.intercalate ", "
        (numbers.map (fun k => "$" ++ toString k)) ++ ")"], f.values ++ (id :: ids).map .uuid⟩ := by
      rw [← placeholders_eq]
      rfl
    refine ⟨[column ++ " IN (" ++ String.intercalate ", " (numbers.map (fun k => "$" ++ toString k)) ++ ")"],
      [(.isIn (.column column) (numbers.map Operand.param), numbers)], ?_⟩
    constructor
    · rw [hlisted]
    · simp [hlisted]
    · exact .cons (reads_isIn hcolumn _ _) .nil
    · simp [numbers]
    · simp only [List.flatMap_cons, List.flatMap_nil, List.append_nil, Condition.comparisons, List.filterMap_map,
        List.map_map]
      have hpairs : numbers.map (fun k => (column, k)) = ((id :: ids).map (fun _ => column)).zipIdx (f.values.length + 1) :=
        (named_zipIdx column (id :: ids) _).symm
      rw [← List.filterMap_eq_map'] at hpairs
      exact hpairs
    · intro later row
      rw [hlisted]
      simp only [List.forall_mem_singleton, isIn_eq_true, column_value]
      constructor
      · rintro ⟨o, ho, heq⟩
        obtain ⟨k, hk, rfl⟩ := List.mem_map.mp ho
        obtain ⟨hle, hlt⟩ := List.mem_range'_1.mp hk
        obtain ⟨i, rfl⟩ := Nat.exists_eq_add_of_le hle
        have hi : i < (id :: ids).length := by omega
        rw [listed_value row hi, compare_eq_some] at heq
        exact ⟨_, List.getElem_mem hi, heq⟩
      · rintro ⟨id', hid, heq⟩
        obtain ⟨i, hi, rfl⟩ := List.getElem_of_mem hid
        refine ⟨_, List.mem_map_of_mem (List.mem_range'_1.mpr ⟨Nat.le_add_right _ i, ?_⟩), ?_⟩
        · omega
        · rw [listed_value row hi, compare_eq_some]
          exact heq

end builders

theorem adds_fixed (f : EntityFilter) {text : String} {c : Condition} {m : Columns → Prop} (hread : Reads text c [])
    (hcompared : c.comparisons = []) (hmeaning : ∀ values row, c.eval postgres values row = some true ↔ m row) :
    Adds f { f with conditions := f.conditions ++ [text] } [text] [(c, [])] [] m := by
  constructor
  · rfl
  · simp
  · exact .cons hread .nil
  · rfl
  · simp [hcompared]
  · intro later row
    simp [hmeaning]

theorem Adds.congr {f g : EntityFilter} {texts : List String} {reads : List (Condition × List ℕ)}
    {pushed : List (String × SqlValue)} {meaning meaning' : Columns → Prop} (h : Adds f g texts reads pushed meaning)
    (hiff : ∀ row, meaning row ↔ meaning' row) : Adds f g texts reads pushed meaning' :=
  ⟨h.conditions, h.values, h.read, h.placeholders, h.comparisons, fun later row => (h.holds later row).trans (hiff row)⟩

theorem reads_type : Reads "run_type->>'type' = 'Scheduled'" (.eq (.field (.column "run_type") "type") (.text "Scheduled")) [] :=
  ⟨rfl, rfl, by decide, rfl⟩

theorem reads_enabled : Reads "(run_type->>'enabled')::boolean = true"
    (.eq (.cast (.field (.column "run_type") "enabled")) (.bool true)) [] :=
  ⟨rfl, rfl, by decide, rfl⟩

theorem adds_scheduled (f : EntityFilter) : ∃ texts reads,
    Adds f f.scheduledDiscovery texts reads [] (fun row => Call.scheduledDiscovery.satisfied row) := by
  have htype := adds_fixed f reads_type rfl (m := fun row =>
    ∃ runType, row "run_type" = some runType ∧ runType.field "type" = some (.text "Scheduled")) (fun values row => by
      have hfield : (Operand.field (.column "run_type") "type").value postgres values row =
          (row "run_type").bind (fun v => v.field "type") := rfl
      have htext : (Operand.text "Scheduled").value postgres values row = some (.text "Scheduled") := rfl
      rw [Condition.eval, htext, compare_eq_some, hfield, Option.bind_eq_some_iff])
  have henabled := adds_fixed { f with conditions := f.conditions ++ ["run_type->>'type' = 'Scheduled'"] } reads_enabled rfl
    (m := fun row => ∃ runType, row "run_type" = some runType ∧
      ∃ enabled, runType.field "enabled" = some enabled ∧ enabled.asBool = some true) (fun values row => by
      have hcast : (Operand.cast (.field (.column "run_type") "enabled")).value postgres values row =
          (((row "run_type").bind (fun v => v.field "enabled")).bind Datum.asBool).map .boolean := rfl
      have htrue : (Operand.bool true).value postgres values row = some (.boolean true) := rfl
      rw [Condition.eval, htrue, compare_eq_some, hcast]
      rw [Option.bind_assoc]
      simp [Option.bind_eq_some_iff])
  refine ⟨_, _, (htype.trans henabled).congr (fun row => ?_)⟩
  constructor
  · rintro ⟨⟨runType, hrow, hfield⟩, runType', hrow', henabled⟩
    obtain rfl := Option.some.inj (hrow.symm.trans hrow')
    exact ⟨runType, hrow, hfield, henabled⟩
  · rintro ⟨runType, hrow, hfield, henabled⟩
    exact ⟨⟨runType, hrow, hfield⟩, runType, hrow, henabled⟩

/-- Every builder adds what its caller asks for. -/
theorem Call.adds (f : EntityFilter) (call : Call) (hnamed : call.named) :
    ∃ texts reads, Adds f (call.apply f) texts reads call.pushed (fun row => call.satisfied row) := by
  cases call with
  | entityIds ids => exact adds_listed f (by decide) ids
  | networkIds ids => exact adds_listed f (by decide) ids
  | groupIds ids => exact adds_listed f (by decide) ids
  | hostIds ids => exact adds_listed f (by decide) ids
  | uuidColumns column ids => exact adds_listed f hnamed ids
  | uuidColumn column id => exact ⟨_, _, adds_equals f hnamed _⟩
  | scheduledDiscovery => exact adds_scheduled f
  | oidcSubject subject =>
    have hprovider : isColumn "oidc_provider" := by decide
    have hadds := (adds_equals f (show isColumn "oidc_subject" by decide) (.string subject)).trans
      (adds_fixed _ (reads_isNotNull hprovider) rfl (m := fun row => row "oidc_provider" ≠ none)
        (fun values row => by simp [Condition.eval, column_value, Option.isSome_iff_ne_none]))
    exact ⟨_, _, hadds⟩
  | expiresBefore timestamp =>
    refine ⟨_, _, (adds_less f (by decide) (.timestamp timestamp)).congr (fun row => ?_)⟩
    constructor
    · rintro ⟨v, hrow, hlt⟩
      cases v with
      | timestamptz t => exact ⟨t, hrow, by simpa [Datum.lt, SqlValue.bindValue] using hlt⟩
      | _ => cases hlt
    · rintro ⟨t, hrow, hlt⟩
      exact ⟨_, hrow, by simpa [Datum.lt, SqlValue.bindValue] using hlt⟩
  | _ => exact ⟨_, _, adds_equals f (by decide) _⟩

/-- A chain of builder calls. -/
def build (calls : List Call) : EntityFilter := calls.foldl Call.apply EntityFilter.unfiltered

theorem adds_calls (f : EntityFilter) (calls : List Call) (hnamed : ∀ call ∈ calls, call.named) : ∃ texts reads,
    Adds f (calls.foldl Call.apply f) texts reads (calls.flatMap Call.pushed)
      (fun row => ∀ call ∈ calls, call.satisfied row) := by
  induction calls generalizing f with
  | nil => exact ⟨_, _, (Adds.nil f).congr (by simp)⟩
  | cons call calls ih =>
    obtain ⟨texts, reads, hcall⟩ := call.adds f (hnamed call List.mem_cons_self)
    obtain ⟨texts', reads', hcalls⟩ := ih (call.apply f) (fun c hc => hnamed c (List.mem_cons_of_mem call hc))
    exact ⟨_, _, (hcall.trans hcalls).congr (by simp)⟩

/-- What a filter says, when its clause is read and its values are bound to the placeholders. -/
structure Means (f : EntityFilter) (pushed : List (String × SqlValue)) (meaning : Columns → Prop) : Prop where
  numbered : (lex f.toWhereClause).filterMap Token.placeholder = List.range' 1 f.values.length
  values : f.values = pushed.map Prod.snd
  parsed : ∃ conditions, clause (lex f.toWhereClause) = some conditions ∧
    conditions.flatMap Condition.comparisons = (pushed.map Prod.fst).zipIdx 1 ∧
    ∀ row, evalAll postgres (params f.values) row conditions = some true ↔ meaning row

/-- Every filter is well formed and means the conjunction of what its builder calls ask for. The `column` of
`uuid_column` and `uuid_columns` is the name of a column, as at all of their callers. -/
theorem build_means (calls : List Call) (hnamed : ∀ call ∈ calls, call.named) :
    Means (build calls) (calls.flatMap Call.pushed) (fun row => ∀ call ∈ calls, call.satisfied row) := by
  obtain ⟨texts, reads, hadds⟩ := adds_calls .unfiltered calls hnamed
  have hvalues : (build calls).values = (calls.flatMap Call.pushed).map Prod.snd := hadds.values
  have hconditions : (build calls).conditions = texts := hadds.conditions
  have hclause : clause (lex (build calls).toWhereClause) = some (reads.map Prod.fst) ∧
      (lex (build calls).toWhereClause).filterMap Token.placeholder = (reads.map Prod.snd).flatten := by
    unfold EntityFilter.toWhereClause
    rw [hconditions]
    cases texts with
    | nil =>
      cases hadds.read
      exact ⟨rfl, rfl⟩
    | cons text rest => exact hadds.read.where (by simp)
  constructor
  · rw [hclause.2, hadds.placeholders, hvalues, List.length_map]
    rfl
  · exact hvalues
  · refine ⟨_, hclause.1, ?_, fun row => ?_⟩
    · rw [List.flatMap_map]
      exact hadds.comparisons
    · have hholds := hadds.holds [] row
      rw [List.append_nil] at hholds
      rw [evalAll_eq_true, List.forall_mem_map]
      exact hholds

/-- The discoveries of two networks that are scheduled on a daemon. -/
def scheduledOn (daemonId : Uuid) : List Call := [.networkIds [1, 2], .scheduledDiscovery, .uuidColumn "daemon_id" daemonId]

example : (build (scheduledOn 5)).toWhereClause =
    "WHERE network_id IN ($1, $2) AND run_type->>'type' = 'Scheduled' AND (run_type->>'enabled')::boolean = true AND daemon_id = $3" := by
  decide +kernel

theorem build_means_scheduledOn : Means (build (scheduledOn 5)) ((scheduledOn 5).flatMap Call.pushed)
    (fun row => ∀ call ∈ scheduledOn 5, call.satisfied row) :=
  build_means (scheduledOn 5) (by decide)

end VantageNet.Storage
