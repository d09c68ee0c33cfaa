import VantageNet.Sql.Tokens

/-!
The `WHERE` clauses that are conjunctions of simple conditions: what their tokens are parsed to
and what they say of a row, in the three-valued logic of SQL.
-/

namespace VantageNet.Sql

inductive Operand where
  | column (name : String)
  | param (n : ℕ)
  | text (s : String)
  | bool (b : Bool)
  /-- `o ->> 'key'` -/
  | field (o : Operand) (key : String)
  /-- `o::boolean` -/
  | cast (o : Operand)
  deriving DecidableEq

inductive Condition where
  | truth (o : Operand)
  | eq (left right : Operand)
  | lt (left right : Operand)
  | isIn (left : Operand) (members : List Operand)
  | isNotNull (o : Operand)
  deriving DecidableEq

section parsing

def reserved : List String := ["where", "and", "in", "is", "not", "null", "true", "false"]

def Token.operand : Token → Option Operand
  | .word name =>
    if name = "true" then some (.bool true)
    else if name = "false" then some (.bool false)
    else if reserved.contains name then none
    else some (.column name)
  | .param n => some (.param n)
  | .literal text => some (.text text)
  | .symbol _ => none

def suffixes : Operand → List Token → Operand × List Token
  | o, .symbol "->>" :: .literal key :: rest => suffixes (.field o key) rest
  | o, .symbol "::" :: .word "boolean" :: rest => suffixes (.cast o) rest
  | o, rest => (o, rest)

def parenthesized (o : Operand) (rest : List Token) : Option (Operand × List Token) :=
  match suffixes o rest with
  | (o, .symbol ")" :: rest) => some (suffixes o rest)
  | _ => none

def operand : List Token → Option (Operand × List Token)
  | .symbol "(" :: t :: rest => t.operand.bind (fun o => parenthesized o rest)
  | t :: rest => t.operand.map (fun o => suffixes o rest)
  | [] => none

def lastOperand (tokens : List Token) : Option Operand :=
  match operand tokens with
  | some (o, []) => some o
  | _ => none

def members : List Token → Option (List Operand)
  | [t, .symbol ")"] => t.operand.map (fun o => [o])
  | t :: .symbol "," :: rest => t.operand.bind (fun o => (members rest).map (fun os => o :: os))
  | _ => none

def comparison (left : Operand) : List Token → Option Condition
  | [] => some (.truth left)
  | .symbol "=" :: rest => (lastOperand rest).map (fun right => .eq left right)
  | .symbol "<" :: rest => (lastOperand rest).map (fun right => .lt left right)
  | .word "in" :: .symbol "(" :: rest => (members rest).map (fun os => .isIn left os)
  | [.word "is", .word "not", .word "null"] => some (.isNotNull left)
  | _ => none

def condition (tokens : List Token) : Option Condition := (operand tokens).bind (fun e => comparison e.1 e.2)

/-- A conjunction after `WHERE`, or no clause at all. -/
def clause : List Token → Option (List Condition)
  | [] => some []
  | .word "where" :: rest => (rest.splitOn (.word "and")).mapM condition
  | _ => none

end parsing

/-- The columns that placeholders are compared with. -/
def Condition.comparisons : Condition → List (String × ℕ)
  | .eq (.column c) (.param n) | .lt (.column c) (.param n) => [(c, n)]
  | .isIn (.column c) os => os.filterMap (fun o => match o with | .param n => some (c, n) | _ => none)
  | _ => []

section meaning

structure Domain (V : Type) where
  text : String → V
  bool : Bool → V
  field : V → String → Option V
  asBool : V → Option Bool
  lt : V → V → Bool
  bool_injective : Function.Injective bool

/-- A truth value, or `NULL`. -/
abbrev Truth := Option Bool

def Truth.and : Truth → Truth → Truth
  | some true, b => b
  | some false, _ => some false
  | none, some false => some false
  | none, _ => none

def Truth.or : Truth → Truth → Truth
  | some true, _ => some true
  | some false, b => b
  | none, some true => some true
  | none, _ => none

theorem Truth.and_eq_true {a b : Truth} : a.and b = some true ↔ a = some true ∧ b = some true := by
  rcases a with _ | _ | _ <;> rcases b with _ | _ | _ <;> simp [Truth.and]

theorem Truth.or_eq_true {a b : Truth} : a.or b = some true ↔ a = some true ∨ b = some true := by
  rcases a with _ | _ | _ <;> rcases b with _ | _ | _ <;> simp [Truth.or]

variable {V : Type} [DecidableEq V]

def compare (r : V → V → Bool) (a b : Option V) : Truth := a.bind (fun x => b.map (r x))

variable (D : Domain V) (params : List V) (row : String → Option V)

def Operand.value : Operand → Option V
  | column name => row name
  | param n => if n = 0 then none else params[n - 1]?
  | text s => some (D.text s)
  | bool b => some (D.bool b)
  | field o key => o.value.bind (fun v => D.field v key)
  | cast o => (o.value.bind D.asBool).map D.bool

def Condition.eval : Condition → Truth
  | truth o => (o.value D params row).bind D.asBool
  | eq left right => compare (fun a b => a = b) (left.value D params row) (right.value D params row)
  | lt left right => compare D.lt (left.value D params row) (right.value D params row)
  | isIn left members => members.foldr (fun o t =>
      (compare (fun a b => a = b) (left.value D params row) (o.value D params row)).or t) (some false)
  | isNotNull o => some (o.value D params row).isSome

def evalAll (conditions : List Condition) : Truth :=
  conditions.foldr (fun c t => (c.eval D params row).and t) (some true)

theorem evalAll_eq_true (conditions : List Condition) :
    evalAll D params row conditions = some true ↔ ∀ c ∈ conditions, c.eval D params row = some true := by
  induction conditions with
  | nil => simp [evalAll]
  | cons c conditions ih => simpa [evalAll, Truth.and_eq_true] using fun _ => ih

omit [DecidableEq V] in
theorem compare_eq_true {r : V → V → Bool} {a b : Option V} :
    compare r a b = some true ↔ ∃ x y, a = some x ∧ b = some y ∧ r x y = true := by
  cases a <;> cases b <;> simp [compare]

theorem compare_eq_some {a : Option V} {v : V} :
    compare (fun a b => a = b) a (some v) = some true ↔ a = some v := by
  cases a <;> simp [compare]

theorem isIn_eq_true (left : Operand) (os : List Operand) :
    (Condition.isIn left os).eval D params row = some true ↔
      ∃ o ∈ os, compare (fun a b => a = b) (left.value D params row) (o.value D params row) = some true := by
  induction os with
  | nil => simp [Condition.eval]
  | cons o os ih =>
    simp only [Condition.eval] at ih ⊢
    rw [List.foldr_cons, Truth.or_eq_true, ih]
    simp

end meaning

section reading

theorem members_params (n : ℕ) (ns : List ℕ) :
    members (((n :: ns).map Token.param).intersperse (.symbol ",") ++ [.symbol ")"]) = some ((n :: ns).map Operand.param) := by
  induction ns generalizing n with
  | nil => rfl
  | cons m ns ih =>
    have htail := ih m
    simp only [List.map_cons] at htail ⊢
    rw [List.intersperse_cons_cons]
    simp only [List.cons_append, members]
    rw [htail]
    rfl

theorem list_tokens (n : ℕ) (ns : List ℕ) :
    Token.word "and" ∉ ((n :: ns).map Token.param).intersperse (.symbol ",") ∧
      (((n :: ns).map Token.param).intersperse (.symbol ",")).filterMap Token.placeholder = n :: ns := by
  induction ns generalizing n with
  | nil => simp [Token.placeholder]
  | cons m ns ih =>
    have htail := ih m
    simp only [List.map_cons] at htail ⊢
    rw [List.intersperse_cons_cons]
    simp [htail, List.filterMap_cons, Token.placeholder]

/-- A name that is no keyword. -/
def isColumn (name : String) : Prop := isName name ∧ name ∉ reserved

instance (name : String) : Decidable (isColumn name) := inferInstanceAs (Decidable (_ ∧ _))

theorem operand_column {name : String} (h : isColumn name) : (Token.word name).operand = some (.column name) := by
  have hreserved := h.2
  simp only [reserved, List.mem_cons, not_or] at hreserved
  simp [Token.operand, reserved, hreserved]

/-- What is read of the text of one condition. -/
structure Reads (text : String) (c : Condition) (placeholders : List ℕ) : Prop where
  closed : Closed text
  parsed : condition (lex text) = some c
  single : Token.word "and" ∉ lex text
  placeholders : (lex text).filterMap Token.placeholder = placeholders

theorem Reads.of_lex {text : String} {tokens : List Token} {c : Condition} (hclosed : Closed text)
    (hlex : lex text = tokens) (hparsed : condition tokens = some c) (hsingle : Token.word "and" ∉ tokens) :
    Reads text c (tokens.filterMap Token.placeholder) := by
  subst hlex
  exact ⟨hclosed, hparsed, hsingle, rfl⟩

theorem lex_equals : lex "=" = [.symbol "="] := rfl

theorem lex_less : lex "<" = [.symbol "<"] := rfl

theorem lex_isNotNull : lex "IS NOT NULL" = [.word "is", .word "not", .word "null"] := rfl

theorem and_not_column {name : String} (hname : isColumn name) : "and" ≠ name := by
  rintro rfl
  exact hname.2 (by simp [reserved])

variable {name : String} (hname : isColumn name)
include hname

theorem condition_column {rest : List Token} (hrest : suffixes (.column name) rest = (.column name, rest)) :
    condition (.word name :: rest) = comparison (.column name) rest := by
  have hoperand : operand (.word name :: rest) = (Token.word name).operand.map (fun o => suffixes o rest) := rfl
  rw [condition, hoperand, operand_column hname, Option.map_some, Option.bind_some, hrest]

theorem column_compared (operator : String) (hoperator : Closed operator) (n : ℕ) :
    lex (name ++ (" " ++ (operator ++ (" " ++ ("$" ++ toString n))))) = .word name :: (lex operator ++ [.param n]) ∧
      Closed (name ++ (" " ++ (operator ++ (" " ++ ("$" ++ toString n))))) := by
  refine ⟨?_, (closed_name hname.1).blank (hoperator.blank (closed_param n))⟩
  rw [lex_blank (closed_name hname.1), lex_blank hoperator, lex_name hname.1, lex_param]
  rfl

theorem reads_eq (n : ℕ) : Reads (name ++ " " ++ "=" ++ " $" ++ toString n) (.eq (.column name) (.param n)) [n] := by
  have htext : name ++ " " ++ "=" ++ " $" ++ toString n = name ++ (" " ++ ("=" ++ (" " ++ ("$" ++ toString n)))) := by
    simp [← String.toList_inj]
  obtain ⟨hlex, hclosed⟩ := column_compared hname "=" rfl n
  rw [← htext] at hlex hclosed
  refine Reads.of_lex hclosed hlex ?_ (by simp [and_not_column hname, lex_equals])
  exact condition_column hname rfl

theorem reads_lt (n : ℕ) : Reads (name ++ " " ++ "<" ++ " $" ++ toString n) (.lt (.column name) (.param n)) [n] := by
  have htext : name ++ " " ++ "<" ++ " $" ++ toString n = name ++ (" " ++ ("<" ++ (" " ++ ("$" ++ toString n)))) := by
    simp [← String.toList_inj]
  obtain ⟨hlex, hclosed⟩ := column_compared hname "<" rfl n
  rw [← htext] at hlex hclosed
  refine Reads.of_lex hclosed hlex ?_ (by simp [and_not_column hname, lex_less])
  exact condition_column hname rfl

theorem reads_isIn (n : ℕ) (ns : List ℕ) :
    Reads (name ++ " IN (" ++ String.intercalate ", " ((n :: ns).map (fun n => "$" ++ toString n)) ++ ")")
      (.isIn (.column name) ((n :: ns).map Operand.param)) (n :: ns) := by
  obtain ⟨hparams, hclosed⟩ := lex_params n ns
  generalize String.intercalate ", " ((n :: ns).map (fun n => "$" ++ toString n)) = text at hparams hclosed ⊢
  have htext : name ++ " IN (" ++ text ++ ")" = name ++ (" " ++ ("IN" ++ (" " ++ ("" ++ ("(" ++ text))))) ++ ")" := by
    simp [← String.toList_inj]
  have hin : Closed "IN" := rfl
  have hbefore : Closed (name ++ (" " ++ ("IN" ++ (" " ++ ("" ++ ("(" ++ text)))))) :=
    (closed_name hname.1).blank (hin.blank (closed_empty.delimited (c := '(') rfl hclosed))
  have hlex : lex (name ++ (" " ++ ("IN" ++ (" " ++ ("" ++ ("(" ++ text))))) ++ ")") =
      .word name :: .word "in" :: .symbol "(" ::
        (((n :: ns).map Token.param).intersperse (.symbol ",") ++ [.symbol ")"]) := by
    rw [lex_closed hbefore, lex_blank (closed_name hname.1), lex_blank hin, lex_opened closed_empty, hparams, lex_name hname.1]
    rfl
  have hmembers := members_params n ns
  obtain ⟨hsingle, hplaceholders⟩ := list_tokens n ns
  generalize ((n :: ns).map Token.param).intersperse (.symbol ",") = list at hlex hmembers hsingle hplaceholders
  rw [htext]
  constructor
  · exact hbefore.closing
  · rw [hlex, condition_column hname rfl, comparison, hmembers]
    rfl
  · rw [hlex]
    simp [and_not_column hname, hsingle]
  · rw [hlex]
    simp [List.filterMap_cons, Token.placeholder, hplaceholders]

theorem reads_isNotNull : Reads (name ++ " IS NOT NULL") (.isNotNull (.column name)) [] := by
  have htext : name ++ " IS NOT NULL" = name ++ (" " ++ "IS NOT NULL") := by
    simp
  have hnull : Closed "IS NOT NULL" := rfl
  have hlex : lex (name ++ (" " ++ "IS NOT NULL")) = [.word name, .word "is", .word "not", .word "null"] := by
    rw [lex_blank (closed_name hname.1), lex_name hname.1, lex_isNotNull]
    rfl
  rw [htext]
  refine Reads.of_lex ((closed_name hname.1).blank hnull) hlex ?_ (by simp [and_not_column hname])
  exact condition_column hname rfl

end reading

/-- The texts of several conditions and what is read of each. -/
def ReadsAll : List String → List (Condition × List ℕ) → Prop := List.Forall₂ (fun text read => Reads text read.1 read.2)

theorem ReadsAll.closed {texts : List String} {reads : List (Condition × List ℕ)} (h : ReadsAll texts reads) :
    ∀ text ∈ texts, Closed text ∧ Token.word "and" ∉ lex text := by
  induction h with
  | nil => simp
  | cons hread _ ih =>
    intro text htext
    rcases List.mem_cons.mp htext with rfl | htext
    · exact ⟨hread.closed, hread.single⟩
    · exact ih text htext

theorem ReadsAll.parsed {texts : List String} {reads : List (Condition × List ℕ)} (h : ReadsAll texts reads) :
    (texts.map lex).mapM condition = some (reads.map Prod.fst) := by
  induction h with
  | nil => rfl
  | cons hread _ ih => simp [hread.parsed, ih]

theorem ReadsAll.placeholders {texts : List String} {reads : List (Condition × List ℕ)} (h : ReadsAll texts reads) :
    ([Token.word "and"].intercalate (texts.map lex)).filterMap Token.placeholder = (reads.map Prod.snd).flatten := by
  induction h with
  | nil => rfl
  | cons hread htail ih =>
    cases htail with
    | nil => simpa using hread.placeholders
    | cons _ _ =>
      simp only [List.map_cons, List.flatten_cons] at ih ⊢
      rw [List.intercalate_cons_cons, List.filterMap_append, List.filterMap_append, hread.placeholders, ih]
      simp [List.filterMap_cons, Token.placeholder]

/-- The clause is read as the conjunction of its conditions. -/
theorem ReadsAll.where {texts : List String} {reads : List (Condition × List ℕ)} (h : ReadsAll texts reads)
    (hne : texts ≠ []) :
    clause (lex ("WHERE " ++ String.intercalate " AND " texts)) = some (reads.map Prod.fst) ∧
      (lex ("WHERE " ++ String.intercalate " AND " texts)).filterMap Token.placeholder = (reads.map Prod.snd).flatten := by
  have hlex : lex ("WHERE " ++ String.intercalate " AND " texts) =
      .word "where" :: [Token.word "and"].intercalate (texts.map lex) := by
    have hkeyword : Closed "WHERE" := rfl
    have htext (t : String) : "WHERE " ++ t = "WHERE" ++ (" " ++ t) := by
      simp [← String.toList_inj]
    rw [htext, lex_blank hkeyword, lex_conjunction texts (fun t ht => (h.closed t ht).1)]
    rfl
  rw [hlex]
  constructor
  · rw [clause, List.splitOn_intercalate, h.parsed]
    · intro tokens htokens
      obtain ⟨text, htext, rfl⟩ := List.mem_map.mp htokens
      exact (h.closed text htext).2
    · simpa using hne
  · rw [List.filterMap_cons]
    exact h.placeholders

theorem reads_false : Reads "FALSE" (.truth (.bool false)) [] := ⟨rfl, rfl, by decide, rfl⟩

end VantageNet.Sql
