import Mathlib

/-!
The tokens of a condition as PostgreSQL reads it: words without regard to case, placeholders,
quoted texts, operators and punctuation.
-/

namespace VantageNet.Sql

inductive Token where
  | word (name : String)
  | param (n : ℕ)
  | literal (text : String)
  | symbol (text : String)
  deriving DecidableEq

def Token.placeholder : Token → Option ℕ
  | .param n => some n
  | _ => none

inductive Mode where
  | start
  | word (read : List Char)
  | param (n : ℕ)
  | literal (read : List Char)
  | operator (read : List Char)
  deriving DecidableEq

def isWordChar (c : Char) : Bool := c.isAlphanum || c = '_'

def isOperatorChar (c : Char) : Bool := ['=', '<', '>', '-', ':'].contains c

namespace Mode

def flush : Mode → List Token
  | start => []
  | word read => [.word (String.ofList read)]
  | param n => [.param n]
  | literal read => [.literal (String.ofList read)]
  | operator read => [.symbol (String.ofList read)]

def begin (c : Char) : List Token × Mode :=
  if isWordChar c then ([], .word [c.toLower])
  else if c = '$' then ([], .param 0)
  else if c = '\'' then ([], .literal [])
  else if isOperatorChar c then ([], .operator [c])
  else if c = ' ' then ([], .start)
  else ([.symbol c.toString], .start)

def read (m : Mode) (c : Char) : List Token × Mode :=
  match m with
  | start => begin c
  | word read => if isWordChar c then ([], .word (read ++ [c.toLower])) else (m.flush ++ (begin c).1, (begin c).2)
  | param n => if c.isDigit then ([], .param (10 * n + (c.toNat - '0'.toNat))) else (m.flush ++ (begin c).1, (begin c).2)
  | literal read => if c = '\'' then (m.flush, .start) else ([], .literal (read ++ [c]))
  | operator read => if isOperatorChar c then ([], .operator (read ++ [c])) else (m.flush ++ (begin c).1, (begin c).2)

def readAll : Mode → List Char → List Token × Mode
  | m, [] => ([], m)
  | m, c :: cs => ((m.read c).1 ++ ((m.read c).2.readAll cs).1, ((m.read c).2.readAll cs).2)

theorem readAll_append (m : Mode) (cs ds : List Char) :
    m.readAll (cs ++ ds) = ((m.readAll cs).1 ++ ((m.readAll cs).2.readAll ds).1, ((m.readAll cs).2.readAll ds).2) := by
  induction cs generalizing m with
  | nil => rfl
  | cons c cs ih => simp [readAll, ih]

def quoted : Mode → Bool
  | literal _ => true
  | _ => false

/-- What ends any token but a quoted text. -/
def isDelimiter (c : Char) : Bool := [' ', '(', ')', ','].contains c

theorem read_delimiter {m : Mode} (hm : m.quoted = false) {c : Char} (hc : isDelimiter c = true) :
    m.read c = (m.flush ++ (begin c).1, .start) := by
  have hcases : c = ' ' ∨ c = '(' ∨ c = ')' ∨ c = ',' := by simpa [isDelimiter] using hc
  cases m with
  | literal text => cases hm
  | start => rcases hcases with rfl | rfl | rfl | rfl <;> rfl
  | word text => rcases hcases with rfl | rfl | rfl | rfl <;> rfl
  | param n => rcases hcases with rfl | rfl | rfl | rfl <;> rfl
  | operator text => rcases hcases with rfl | rfl | rfl | rfl <;> rfl

theorem readAll_digits (n : ℕ) (cs : List Char) (hcs : ∀ c ∈ cs, c.isDigit = true) :
    (Mode.param n).readAll cs = ([], .param (Nat.ofDigitChars 10 cs n)) := by
  induction cs generalizing n with
  | nil => rfl
  | cons c cs ih =>
    have hc : c.isDigit = true := hcs c List.mem_cons_self
    simp [readAll, read, hc, ih _ (fun d hd => hcs d (List.mem_cons_of_mem c hd)), Nat.ofDigitChars_cons]

theorem readAll_toDigits (n : ℕ) : (Mode.param 0).readAll (Nat.toDigits 10 n) = ([], .param n) := by
  rw [readAll_digits 0 _ (fun c hc => Nat.isDigit_of_mem_toDigits (by omega) (by omega) hc),
    Nat.ofDigitChars_ten_toDigits]

theorem readAll_word (text cs : List Char) (hcs : ∀ c ∈ cs, isWordChar c = true ∧ c.toLower = c) :
    (Mode.word text).readAll cs = ([], .word (text ++ cs)) := by
  induction cs generalizing text with
  | nil => simp [readAll]
  | cons c cs ih =>
    obtain ⟨hword, hlower⟩ := hcs c List.mem_cons_self
    simp [readAll, read, hword, hlower, ih _ (fun d hd => hcs d (List.mem_cons_of_mem c hd))]

end Mode

def scan (s : String) : List Token × Mode := Mode.start.readAll s.toList

def lex (s : String) : List Token := (scan s).1 ++ (scan s).2.flush

/-- No quoted text is left open. -/
def Closed (s : String) : Prop := (scan s).2.quoted = false

theorem scan_delimited {s : String} (hs : Closed s) {c : Char} (hc : Mode.isDelimiter c = true) (t : String) :
    scan (s ++ (c.toString ++ t)) = (lex s ++ ((Mode.begin c).1 ++ (scan t).1), (scan t).2) := by
  have hread := Mode.read_delimiter hs hc
  unfold scan at hread ⊢
  simp [lex, scan, Mode.readAll_append, Mode.readAll, hread]

theorem lex_delimited {s : String} (hs : Closed s) {c : Char} (hc : Mode.isDelimiter c = true) (t : String) :
    lex (s ++ (c.toString ++ t)) = lex s ++ ((Mode.begin c).1 ++ lex t) := by
  rw [lex, scan_delimited hs hc]
  simp [lex]

theorem Closed.delimited {s : String} (hs : Closed s) {c : Char} (hc : Mode.isDelimiter c = true) {t : String}
    (ht : Closed t) : Closed (s ++ (c.toString ++ t)) := by
  rw [Closed, scan_delimited hs hc]
  exact ht

theorem lex_blank {s : String} (hs : Closed s) (t : String) : lex (s ++ (" " ++ t)) = lex s ++ lex t :=
  lex_delimited (c := ' ') hs rfl t

theorem Closed.blank {s t : String} (hs : Closed s) (ht : Closed t) : Closed (s ++ (" " ++ t)) :=
  hs.delimited (c := ' ') rfl ht

theorem lex_opened {s : String} (hs : Closed s) (t : String) :
    lex (s ++ ("(" ++ t)) = lex s ++ .symbol "(" :: lex t :=
  lex_delimited (c := '(') hs rfl t

theorem lex_closed {s : String} (hs : Closed s) : lex (s ++ ")") = lex s ++ [.symbol ")"] :=
  lex_delimited (c := ')') hs rfl ""

theorem lex_comma {s : String} (hs : Closed s) (t : String) :
    lex (s ++ ("," ++ t)) = lex s ++ .symbol "," :: lex t :=
  lex_delimited (c := ',') hs rfl t

/-- A name that PostgreSQL reads as it stands. -/
def isName (s : String) : Prop := s ≠ "" ∧ s.toList.all (fun c => isWordChar c && c.toLower = c) = true

instance (s : String) : Decidable (isName s) := inferInstanceAs (Decidable (_ ∧ _))

theorem scan_name {s : String} (hs : isName s) : scan s = ([], .word s.toList) := by
  obtain ⟨hne, hall⟩ := hs
  have hchars : ∀ c ∈ s.toList, isWordChar c = true ∧ c.toLower = c := by simpa using hall
  unfold scan
  cases hlist : s.toList with
  | nil => exact absurd (String.toList_eq_nil_iff.mp hlist) hne
  | cons c cs =>
    rw [hlist] at hchars
    obtain ⟨hword, hlower⟩ := hchars c List.mem_cons_self
    have hcs := Mode.readAll_word [c] cs (fun d hd => hchars d (List.mem_cons_of_mem c hd))
    simp [Mode.readAll, Mode.read, Mode.begin, hword, hlower, hcs]

theorem lex_name {s : String} (hs : isName s) : lex s = [.word s] := by
  simp [lex, scan_name hs, Mode.flush]

theorem closed_name {s : String} (hs : isName s) : Closed s := by
  rw [Closed, scan_name hs]
  rfl

theorem scan_param (n : ℕ) : scan ("$" ++ toString n) = ([], .param n) := by
  have hdigits := Mode.readAll_toDigits n
  have hread : Mode.start.read '$' = ([], .param 0) := rfl
  simp [scan, Mode.readAll, hread, hdigits]

theorem lex_param (n : ℕ) : lex ("$" ++ toString n) = [.param n] := by
  rw [lex, scan_param]
  rfl

theorem closed_param (n : ℕ) : Closed ("$" ++ toString n) := by
  rw [Closed, scan_param]
  rfl

theorem closed_empty : Closed "" := rfl

theorem Closed.closing {s : String} (hs : Closed s) : Closed (s ++ ")") := by
  have htext : ")" = ')'.toString ++ "" := rfl
  rw [htext]
  exact hs.delimited rfl closed_empty

/-- The placeholders of a list, as `join(", ")` puts them together. -/
theorem lex_params (n : ℕ) (ns : List ℕ) :
    lex (String.intercalate ", " ((n :: ns).map (fun n => "$" ++ toString n))) =
        ((n :: ns).map Token.param).intersperse (.symbol ",") ∧
      Closed (String.intercalate ", " ((n :: ns).map (fun n => "$" ++ toString n))) := by
  induction ns generalizing n with
  | nil => simpa only [List.map_cons, List.map_nil, String.intercalate_singleton, List.intersperse_singleton] using
      And.intro (lex_param n) (closed_param n)
  | cons m ns ih =>
    obtain ⟨hlex, hclosed⟩ := ih m
    have hcomma (t : String) : ", " ++ t = "," ++ ("" ++ (" " ++ t)) := by
      rw [String.empty_append, ← String.append_assoc]
      rfl
    simp only [List.map_cons, String.intercalate_cons_cons] at hlex hclosed ⊢
    rw [String.append_assoc, hcomma]
    constructor
    · rw [lex_comma (closed_param n), lex_blank closed_empty, lex_param, hlex]
      rfl
    · exact (closed_param n).delimited (c := ',') rfl (closed_empty.blank hclosed)

/-- The conjuncts of a condition, as `join(" AND ")` puts them together. -/
theorem lex_conjunction (conditions : List String) (hclosed : ∀ c ∈ conditions, Closed c) :
    lex (String.intercalate " AND " conditions) = [Token.word "and"].intercalate (conditions.map lex) := by
  induction conditions with
  | nil => rfl
  | cons c conditions ih =>
    have hc : Closed c := hclosed c List.mem_cons_self
    have ih := ih (fun d hd => hclosed d (List.mem_cons_of_mem c hd))
    have hand (t : String) : " AND " ++ t = " " ++ ("AND" ++ (" " ++ t)) := by
      rw [← String.append_assoc, ← String.append_assoc]
      rfl
    cases conditions with
    | nil => simp
    | cons d conditions =>
      have hkeyword : Closed "AND" := rfl
      rw [String.intercalate_cons_cons, String.append_assoc, hand, lex_blank hc, lex_blank hkeyword, ih]
      rfl

end VantageNet.Sql
