import Mathlib.Data.Nat.Notation

/-!
Finite programs over a signature of operations, and their run from start to end
against a handler. The reply of an operation may depend on the environment: the
oracle proposes one reply for every operation at every moment, and the handler
either takes it (a database answer, a clock) or replaces it (a map lookup).
-/

namespace VantageNet.Interaction

structure Signature where
  Op : Type
  Reply : Op → Type

inductive Program (S : Signature) (ε α : Type) where
  | ret (a : α)
  | fail (e : ε)
  | op (i : S.Op) (k : S.Reply i → Program S ε α)

structure Outcome (ε α σ : Type) where
  result : Except ε α
  time : ℕ
  state : σ

abbrev Handler (S : Signature) (σ : Type) := (i : S.Op) → S.Reply i → σ → S.Reply i × σ

abbrev Oracle (S : Signature) := ℕ → (i : S.Op) → S.Reply i

variable {S : Signature} {ε α β σ : Type}

namespace Program

def bind : Program S ε α → (α → Program S ε β) → Program S ε β
  | ret a, f => f a
  | fail e, _ => fail e
  | op i k, f => op i (fun r => (k r).bind f)

instance : Monad (Program S ε) where
  pure := ret
  bind := bind

def orFail : Except ε α → Program S ε α
  | .ok a => ret a
  | .error e => fail e

def attempt : Program S ε α → Program S ε (Except ε α)
  | ret a => ret (.ok a)
  | fail e => ret (.error e)
  | op i k => op i (fun r => (k r).attempt)

def when (b : Bool) (p : Program S ε Unit) : Program S ε Unit := if b then p else ret ()

def forEach (f : β → Program S ε Unit) : List β → Program S ε Unit
  | [] => ret ()
  | x :: xs => (f x).bind (fun _ => forEach f xs)

def collect (f : β → Program S ε α) : List β → Program S ε (List α)
  | [] => ret []
  | x :: xs => (f x).bind (fun a => (collect f xs).bind (fun as => ret (a :: as)))

def accumulate (f : α → β → Program S ε α) : α → List β → Program S ε α
  | a, [] => ret a
  | a, x :: xs => (f a x).bind (fun a' => accumulate f a' xs)

@[simp]
theorem pure_eq (a : α) : (pure a : Program S ε α) = ret a := rfl

@[simp]
theorem bind_eq (p : Program S ε α) (f : α → Program S ε β) : p >>= f = p.bind f := rfl

@[simp]
theorem ret_bind (a : α) (f : α → Program S ε β) : (ret a : Program S ε α).bind f = f a := rfl

@[simp]
theorem fail_bind (e : ε) (f : α → Program S ε β) : (fail e : Program S ε α).bind f = fail e := rfl

@[simp]
theorem op_bind (i : S.Op) (k : S.Reply i → Program S ε α) (f : α → Program S ε β) :
    (op i k).bind f = op i (fun r => (k r).bind f) := rfl

theorem bind_assoc (p : Program S ε α) (f : α → Program S ε β) {γ : Type} (g : β → Program S ε γ) :
    (p.bind f).bind g = p.bind (fun a => (f a).bind g) := by
  induction p with
  | ret a => rfl
  | fail e => rfl
  | op i k ih => simp only [op_bind, ih]

@[simp]
theorem orFail_ok (a : α) : (orFail (.ok a) : Program S ε α) = ret a := rfl

@[simp]
theorem orFail_error (e : ε) : (orFail (.error e) : Program S ε α) = fail e := rfl

@[simp]
theorem attempt_op (i : S.Op) (k : S.Reply i → Program S ε α) :
    (op i k).attempt = op i (fun r => (k r).attempt) := rfl

@[simp]
theorem when_true (p : Program S ε Unit) : when true p = p := rfl

@[simp]
theorem when_false (p : Program S ε Unit) : when false p = ret () := rfl

theorem forEach_append (f : β → Program S ε Unit) (xs ys : List β) :
    forEach f (xs ++ ys) = (forEach f xs).bind (fun _ => forEach f ys) := by
  induction xs with
  | nil => rfl
  | cons x xs ih => simp only [List.cons_append, forEach, ih, bind_assoc]

end Program

open Program

def run (H : Handler S σ) (ω : Oracle S) : ℕ → Program S ε α → σ → Outcome ε α σ
  | n, ret a, s => ⟨.ok a, n, s⟩
  | n, fail e, s => ⟨.error e, n, s⟩
  | n, op i k, s => run H ω (n + 1) (k (H i (ω n i) s).1) (H i (ω n i) s).2

variable (H : Handler S σ) (ω : Oracle S)

@[simp]
theorem run_ret (n : ℕ) (a : α) (s : σ) : run H ω n (ret a : Program S ε α) s = ⟨.ok a, n, s⟩ := rfl

@[simp]
theorem run_fail (n : ℕ) (e : ε) (s : σ) : run H ω n (fail e : Program S ε α) s = ⟨.error e, n, s⟩ := rfl

@[simp]
theorem run_op (n : ℕ) (i : S.Op) (k : S.Reply i → Program S ε α) (s : σ) :
    run H ω n (op i k) s = run H ω (n + 1) (k (H i (ω n i) s).1) (H i (ω n i) s).2 := rfl

theorem run_bind (n : ℕ) (p : Program S ε α) (f : α → Program S ε β) (s : σ) :
    run H ω n (p.bind f) s =
      match run H ω n p s with
      | ⟨.ok a, m, t⟩ => run H ω m (f a) t
      | ⟨.error e, m, t⟩ => ⟨.error e, m, t⟩ := by
  induction p generalizing n s with
  | ret a => rfl
  | fail e => rfl
  | op i k ih => simpa only [op_bind, run_op] using ih _ _ _

@[simp]
theorem run_attempt (n : ℕ) (p : Program S ε α) (s : σ) :
    run H ω n p.attempt s =
      ⟨.ok (run H ω n p s).result, (run H ω n p s).time, (run H ω n p s).state⟩ := by
  induction p generalizing n s with
  | ret a => rfl
  | fail e => rfl
  | op i k ih => simpa only [attempt_op, run_op] using ih _ _ _

theorem run_forEach (I : List β → σ → Prop) (f : β → Program S ε Unit) (xs : List β)
    (hf : ∀ x ∈ xs, ∀ done n s, I done s →
      (run H ω n (f x) s).result = .ok () ∧ I (done ++ [x]) (run H ω n (f x) s).state)
    (done : List β) (n : ℕ) (s : σ) (h : I done s) :
    (run H ω n (forEach f xs) s).result = .ok () ∧ I (done ++ xs) (run H ω n (forEach f xs) s).state := by
  induction xs generalizing done n s with
  | nil => exact ⟨rfl, by simpa [forEach] using h⟩
  | cons x xs ih =>
    have hx := hf x (by simp) done n s h
    rw [forEach, run_bind]
    generalize run H ω n (f x) s = o at hx ⊢
    rcases o with ⟨r, m, t⟩
    obtain ⟨rfl, hx⟩ := hx
    simpa using ih (fun y hy => hf y (List.mem_cons_of_mem x hy)) (done ++ [x]) m t hx

def Meets (step : σ → β → σ) (ok : σ → β → Prop) : σ → List β → Prop
  | _, [] => True
  | s, x :: xs => ok s x ∧ Meets step ok (step s x) xs

instance Meets.decide (step : σ → β → σ) (ok : σ → β → Prop) [∀ s x, Decidable (ok s x)] :
    (s : σ) → (xs : List β) → Decidable (Meets step ok s xs)
  | _, [] => .isTrue trivial
  | s, x :: xs => @instDecidableAnd _ _ _ (Meets.decide step ok (step s x) xs)

theorem Meets.imp {step : σ → β → σ} {ok ok' : σ → β → Prop} (himp : ∀ s x, ok s x → ok' s x) {s : σ}
    {xs : List β} (h : Meets step ok s xs) : Meets step ok' s xs := by
  induction xs generalizing s with
  | nil => trivial
  | cons x xs ih => exact ⟨himp s x h.1, ih h.2⟩

theorem Meets.and {step : σ → β → σ} {ok : σ → β → Prop} {p : β → Prop} {s : σ} {xs : List β} (h : Meets step ok s xs)
    (hp : ∀ x ∈ xs, p x) : Meets step (fun s x => ok s x ∧ p x) s xs := by
  induction xs generalizing s with
  | nil => trivial
  | cons x xs ih => exact ⟨⟨h.1, hp x List.mem_cons_self⟩, ih h.2 (fun y hy => hp y (List.mem_cons_of_mem x hy))⟩

theorem Meets.invariant {step : σ → β → σ} {ok : σ → β → Prop} (I : σ → Prop)
    (hstep : ∀ s x, I s → ok s x → I (step s x)) {s : σ} {xs : List β} (hs : I s)
    (h : Meets step ok s xs) : I (xs.foldl step s) := by
  induction xs generalizing s with
  | nil => exact hs
  | cons x xs ih => exact ih (hstep s x hs h.1) h.2

/-- What holds at each step of which an invariant is kept. -/
theorem Meets.each {step : σ → β → σ} {ok good : σ → β → Prop} (I : σ → Prop)
    (hstep : ∀ s x, I s → ok s x → I (step s x) ∧ good s x) {s : σ} {xs : List β} (h : Meets step ok s xs) (hs : I s) :
    Meets step good s xs := by
  induction xs generalizing s with
  | nil => trivial
  | cons x xs ih =>
    obtain ⟨hinvariant, hgood⟩ := hstep s x hs h.1
    exact ⟨hgood, ih h.2 hinvariant⟩

theorem Meets.left {step : σ → β → σ} {ok : σ → β → Prop} {s : σ} {xs ys : List β} (h : Meets step ok s (xs ++ ys)) :
    Meets step ok s xs := by
  induction xs generalizing s with
  | nil => trivial
  | cons x xs ih => exact ⟨h.1, ih h.2⟩

theorem Meets.of_append {step : σ → β → σ} {ok : σ → β → Prop} {s : σ} {xs ys : List β} {x : β}
    (h : Meets step ok s (xs ++ x :: ys)) : ok (xs.foldl step s) x := by
  induction xs generalizing s with
  | nil => exact h.1
  | cons y xs ih => exact ih h.2

end VantageNet.Interaction
