import Mathlib
import VantageNet.Sql.Clause

/-!
Statements on one table: what the tokens of `INSERT`, `UPDATE`, `DELETE` and `SELECT *` are parsed to, and what they do to
the rows of tables. Values of placeholders may be `NULL`.
-/

namespace VantageNet.Sql

inductive Statement where
  | insert (table : String) (columns : List String) (values : List Operand)
  | update (table : String) (sets : List (String × Operand)) (conditions : List Condition)
  | delete (table : String) (conditions : List Condition)
  | select (table : String) (conditions : List Condition)
  deriving DecidableEq

section parsing

/-- Names up to a closing parenthesis, and what follows it. -/
def names : List Token → Option (List String × List Token)
  | .word c :: .symbol ")" :: rest => some ([c], rest)
  | .word c :: .symbol "," :: rest => (names rest).map (fun e => (c :: e.1, e.2))
  | _ => none

/-- Assignments up to the clause. -/
def assignments : List Token → Option (List (String × Operand) × List Token)
  | .word c :: .symbol "=" :: t :: .symbol "," :: rest =>
    t.operand.bind (fun o => (assignments rest).map (fun e => ((c, o) :: e.1, e.2)))
  | .word c :: .symbol "=" :: t :: rest => t.operand.map (fun o => ([(c, o)], rest))
  | _ => none

def statement : List Token → Option Statement
  | .word "insert" :: .word "into" :: .word table :: .symbol "(" :: rest =>
    match names rest with
    | some (columns, .word "values" :: .symbol "(" :: rest) =>
      (members rest).bind (fun values => if columns.length = values.length then some (.insert table columns values) else none)
    | _ => none
  | .word "update" :: .word table :: .word "set" :: rest =>
    (assignments rest).bind (fun e => (clause e.2).map (.update table e.1))
  | .word "delete" :: .word "from" :: .word table :: rest => (clause rest).map (.delete table)
  | .word "select" :: .symbol "*" :: .word "from" :: .word table :: rest => (clause rest).map (.select table)
  | _ => none

end parsing

section meaning

variable {V : Type} [DecidableEq V] (D : Domain V) (params : List (Option V))

/-- The columns of a row, where `none` is `NULL`. -/
abbrev Record (V : Type) := String → Option V

def Operand.supplied (row : Record V) : Operand → Option V
  | column name => row name
  | param n => if n = 0 then none else params[n - 1]?.join
  | text s => some (D.text s)
  | bool b => some (D.bool b)
  | field o key => (o.supplied row).bind (fun v => D.field v key)
  | cast o => ((o.supplied row).bind D.asBool).map D.bool

def Condition.test (row : Record V) : Condition → Truth
  | truth o => (o.supplied D params row).bind D.asBool
  | eq left right => compare (fun a b => a = b) (left.supplied D params row) (right.supplied D params row)
  | lt left right => compare D.lt (left.supplied D params row) (right.supplied D params row)
  | isIn left members => members.foldr (fun o t =>
      (compare (fun a b => a = b) (left.supplied D params row) (o.supplied D params row)).or t) (some false)
  | isNotNull o => some (o.supplied D params row).isSome

/-- The row is one that the conditions are true of. -/
def selected (conditions : List Condition) (row : Record V) : Bool :=
  conditions.foldr (fun c t => (c.test D params row).and t) (some true) = some true

abbrev Contents (V : Type) := String → List (Record V)

def inserted (columns : List String) (values : List Operand) : Record V :=
  fun c => ((columns.zip values).lookup c).bind (Operand.supplied D params (fun _ => none))

def assigned (sets : List (String × Operand)) (row : Record V) : Record V :=
  fun c =>
    match sets.lookup c with
    | some o => o.supplied D params row
    | none => row c

/-- The rows that are returned, and the tables afterwards. -/
def Statement.exec (store : Contents V) : Statement → List (Record V) × Contents V
  | insert table columns values => ([], Function.update store table (store table ++ [inserted D params columns values]))
  | update table sets conditions => ([], Function.update store table ((store table).map (fun row =>
      if selected D params conditions row then assigned D params sets row else row)))
  | delete table conditions => ([], Function.update store table ((store table).filter (fun row => !selected D params conditions row)))
  | select table conditions => ((store table).filter (selected D params conditions), store)

end meaning

section reading

variable {texts : List String}

/-- Texts that `join(", ")` puts together. -/
theorem lex_listed (h : ∀ text ∈ texts, Closed text) :
    lex (String.intercalate ", " texts) = [Token.symbol ","].intercalate (texts.map lex) ∧ Closed (String.intercalate ", " texts) := by
  induction texts with
  | nil => exact ⟨rfl, rfl⟩
  | cons text texts ih =>
    have htext := h text List.mem_cons_self
    obtain ⟨hlex, hclosed⟩ := ih (fun t ht => h t (List.mem_cons_of_mem text ht))
    cases texts with
    | nil => simpa using htext
    | cons next texts =>
      have hcomma (t : String) : ", " ++ t = "," ++ ("" ++ (" " ++ t)) := by
        rw [String.empty_append, ← String.append_assoc]
        rfl
      rw [String.intercalate_cons_cons, String.append_assoc, hcomma]
      constructor
      · rw [lex_comma htext, lex_blank closed_empty, hlex]
        rfl
      · exact htext.delimited (c := ',') rfl (closed_empty.blank hclosed)

theorem names_listed {columns : List String} (hne : columns ≠ []) (rest : List Token) :
    names ([Token.symbol ","].intercalate (columns.map (fun c => [Token.word c])) ++ .symbol ")" :: rest) = some (columns, rest) := by
  induction columns with
  | nil => exact absurd rfl hne
  | cons c columns ih =>
    cases columns with
    | nil => rfl
    | cons d columns =>
      have htail := ih (List.cons_ne_nil d columns)
      simp only [List.map_cons, List.intercalate_cons_cons] at htail ⊢
      simp only [List.cons_append, List.nil_append, names]
      rw [htail]
      rfl

/-- An assignment of a placeholder. -/
def assignmentTokens (e : String × ℕ) : List Token := [.word e.1, .symbol "=", .param e.2]

theorem assignments_listed {sets : List (String × ℕ)} (hne : sets ≠ []) {rest : List Token} (hrest : rest.head? ≠ some (.symbol ",")) :
    assignments ([Token.symbol ","].intercalate (sets.map assignmentTokens) ++ rest) =
      some (sets.map (fun e => (e.1, .param e.2)), rest) := by
  induction sets with
  | nil => exact absurd rfl hne
  | cons e sets ih =>
    cases sets with
    | nil =>
      cases rest with
      | nil => rfl
      | cons t rest =>
        have ht : t ≠ .symbol "," := by simpa using hrest
        simp only [List.map_cons, List.map_nil, List.intercalate_singleton, assignmentTokens, List.cons_append, List.nil_append]
        rw [assignments]
        · rfl
        · intro _ heq
          exact ht (List.cons.inj heq).1
    | cons d sets =>
      have htail := ih (List.cons_ne_nil d sets)
      simp only [List.map_cons, List.intercalate_cons_cons] at htail ⊢
      simp only [assignmentTokens, List.cons_append, List.nil_append, assignments] at htail ⊢
      rw [htail]
      rfl

/-- A clause does not begin with a comma. -/
theorem head_of_clause {tokens : List Token} {conditions : List Condition} (h : clause tokens = some conditions) :
    tokens.head? ≠ some (.symbol ",") := by
  intro hhead
  cases tokens with
  | nil => cases hhead
  | cons t rest =>
    rw [List.head?_cons, Option.some_inj] at hhead
    subst hhead
    cases h

theorem closed_names {columns : List String} (h : ∀ c ∈ columns, isColumn c) : ∀ c ∈ columns, Closed c :=
  fun c hc => closed_name (h c hc).1

theorem map_lex_names {columns : List String} (h : ∀ c ∈ columns, isColumn c) :
    columns.map lex = columns.map (fun c => [Token.word c]) := by
  apply List.map_congr_left
  intro c hc
  exact lex_name (h c hc).1

variable {table : String} (htable : isName table)
include htable

/-- The text of an `INSERT` of placeholders. -/
theorem statement_insert {columns : List String} (hcolumns : ∀ c ∈ columns, isColumn c) {n : ℕ} {ns : List ℕ}
    (hlength : columns.length = ns.length + 1) :
    statement (lex ("INSERT INTO " ++ table ++ " (" ++ String.intercalate ", " columns ++ ") VALUES (" ++
      String.intercalate ", " ((n :: ns).map (fun n => "$" ++ toString n)) ++ ")")) =
      some (.insert table columns ((n :: ns).map .param)) := by
  have hne : columns ≠ [] := by
    rintro rfl
    simp at hlength
  obtain ⟨hparams, hclosed⟩ := lex_params n ns
  obtain ⟨hnames, hclosed'⟩ := lex_listed (closed_names hcolumns)
  rw [map_lex_names hcolumns] at hnames
  generalize String.intercalate ", " ((n :: ns).map (fun n => "$" ++ toString n)) = params at hparams hclosed ⊢
  generalize hjoined : String.intercalate ", " columns = joined at hnames hclosed' ⊢
  have htext : "INSERT INTO " ++ table ++ " (" ++ joined ++ ") VALUES (" ++ params ++ ")" =
      "INSERT" ++ (" " ++ ("INTO" ++ (" " ++ (table ++ (" " ++ ("" ++ ("(" ++ (joined ++ (")" ++ ("" ++ (" " ++
        ("VALUES" ++ (" " ++ ("" ++ ("(" ++ (params ++ ")")))))))))))))))) := by
    simp [← String.toList_inj]
  have hkeyword : Closed "INSERT" := rfl
  have hkeyword' : Closed "INTO" := rfl
  have hkeyword'' : Closed "VALUES" := rfl
  have hclosing (t : String) : lex (joined ++ (")" ++ t)) = lex joined ++ .symbol ")" :: lex t := lex_delimited (c := ')') hclosed' rfl t
  rw [htext, lex_blank hkeyword, lex_blank hkeyword', lex_blank (closed_name htable), lex_opened closed_empty, hclosing,
    lex_blank closed_empty, lex_blank hkeyword'', lex_opened closed_empty, lex_closed hclosed, hparams, hnames, lex_name htable]
  have hmembers := members_params n ns
  have hread := names_listed hne (.word "values" :: .symbol "(" :: (((n :: ns).map Token.param).intersperse (.symbol ",") ++ [.symbol ")"]))
  have hlex : lex "INSERT" = [.word "insert"] ∧ lex "INTO" = [.word "into"] ∧ lex "VALUES" = [.word "values"] ∧ lex "" = [] :=
    ⟨rfl, rfl, rfl, rfl⟩
  simp only [hlex, List.nil_append, List.cons_append]
  rw [statement, hread]
  simp only [hmembers, Option.bind_some, List.length_map, List.length_cons, hlength, if_true]

/-- The text of an `UPDATE` to placeholders. -/
theorem statement_update {sets : List (String × ℕ)} (hsets : ∀ e ∈ sets, isColumn e.1) (hne : sets ≠ []) {condition : String}
    {conditions : List Condition} (hclause : clause (lex condition) = some conditions) :
    statement (lex ("UPDATE " ++ table ++ " SET " ++ String.intercalate ", " (sets.map (fun e => e.1 ++ " = $" ++ toString e.2)) ++
      " " ++ condition)) = some (.update table (sets.map (fun e => (e.1, .param e.2))) conditions) := by
  have hread : ∀ e ∈ sets, lex (e.1 ++ " = $" ++ toString e.2) = assignmentTokens e ∧ Closed (e.1 ++ " = $" ++ toString e.2) := by
    intro e he
    obtain ⟨hlex, hclosed⟩ := column_compared (hsets e he) "=" rfl e.2
    have htext : e.1 ++ " = $" ++ toString e.2 = e.1 ++ (" " ++ ("=" ++ (" " ++ ("$" ++ toString e.2)))) := by
      simp [← String.toList_inj]
    rw [htext]
    exact ⟨hlex, hclosed⟩
  have htokens : (sets.map (fun e => e.1 ++ " = $" ++ toString e.2)).map lex = sets.map assignmentTokens := by
    rw [List.map_map]
    apply List.map_congr_left
    intro e he
    exact (hread e he).1
  obtain ⟨hjoin, hclosed⟩ : lex (String.intercalate ", " (sets.map (fun e => e.1 ++ " = $" ++ toString e.2))) =
      [Token.symbol ","].intercalate (sets.map assignmentTokens) ∧
        Closed (String.intercalate ", " (sets.map (fun e => e.1 ++ " = $" ++ toString e.2))) := by
    rw [← htokens]
    apply lex_listed
    intro text htext
    obtain ⟨e, he, rfl⟩ := List.mem_map.mp htext
    exact (hread e he).2
  generalize String.intercalate ", " (sets.map (fun e => e.1 ++ " = $" ++ toString e.2)) = joined at hjoin hclosed ⊢
  have htext : "UPDATE " ++ table ++ " SET " ++ joined ++ " " ++ condition =
      "UPDATE" ++ (" " ++ (table ++ (" " ++ ("SET" ++ (" " ++ (joined ++ (" " ++ condition))))))) := by
    simp [← String.toList_inj]
  have hkeyword : Closed "UPDATE" := rfl
  have hkeyword' : Closed "SET" := rfl
  have hlex : lex "UPDATE" = [.word "update"] ∧ lex "SET" = [.word "set"] := ⟨rfl, rfl⟩
  have hparsed := assignments_listed hne (head_of_clause hclause)
  rw [htext, lex_blank hkeyword, lex_blank (closed_name htable), lex_blank hkeyword', lex_blank hclosed, hjoin, lex_name htable]
  simp only [hlex, List.cons_append, List.nil_append]
  rw [statement, hparsed, Option.bind_some, hclause]
  rfl

theorem statement_delete {condition : String} {conditions : List Condition} (hclause : clause (lex condition) = some conditions) :
    statement (lex ("DELETE FROM " ++ table ++ " " ++ condition)) = some (.delete table conditions) := by
  have htext : "DELETE FROM " ++ table ++ " " ++ condition = "DELETE" ++ (" " ++ ("FROM" ++ (" " ++ (table ++ (" " ++ condition))))) := by
    simp [← String.toList_inj]
  have hkeyword : Closed "DELETE" := rfl
  have hkeyword' : Closed "FROM" := rfl
  have hlex : lex "DELETE" = [.word "delete"] ∧ lex "FROM" = [.word "from"] := ⟨rfl, rfl⟩
  rw [htext, lex_blank hkeyword, lex_blank hkeyword', lex_blank (closed_name htable), lex_name htable]
  simp only [hlex, List.cons_append, List.nil_append]
  rw [statement, hclause]
  rfl

theorem statement_select {condition : String} {conditions : List Condition} (hclause : clause (lex condition) = some conditions) :
    statement (lex ("SELECT * FROM " ++ table ++ " " ++ condition)) = some (.select table conditions) := by
  have htext : "SELECT * FROM " ++ table ++ " " ++ condition =
      "SELECT" ++ (" " ++ ("*" ++ (" " ++ ("FROM" ++ (" " ++ (table ++ (" " ++ condition))))))) := by
    simp [← String.toList_inj]
  have hkeyword : Closed "SELECT" := rfl
  have hkeyword' : Closed "*" := rfl
  have hkeyword'' : Closed "FROM" := rfl
  have hlex : lex "SELECT" = [.word "select"] ∧ lex "*" = [.symbol "*"] ∧ lex "FROM" = [.word "from"] := ⟨rfl, rfl, rfl⟩
  rw [htext, lex_blank hkeyword, lex_blank hkeyword', lex_blank hkeyword'', lex_blank (closed_name htable), lex_name htable]
  simp only [hlex, List.cons_append, List.nil_append]
  rw [statement, hclause]
  rfl

end reading

end VantageNet.Sql
