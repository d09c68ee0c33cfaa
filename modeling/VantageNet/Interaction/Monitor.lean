import VantageNet.Interaction.Program

/-!
Programs watched by a monitor. A monitor stands at a point, says which operations it lets
pass there and moves on with the reply; `Follows` holds of the programs it never stops.
`Reaches` looks for an operation a program may still come to, `Until` follows a program to a
point it cannot miss, and `Only` says what all of its operations are.
-/

namespace VantageNet.Interaction

structure Monitor (S : Signature) (A : Type) where
  ok : A → S.Op → Prop
  may : (i : S.Op) → S.Reply i → Prop
  next : A → (i : S.Op) → S.Reply i → A

variable {S : Signature} {ε α β A : Type}

/-- The program is never stopped when it starts at `a`, and a result meets `post`. -/
def Follows (M : Monitor S A) (post : α → A → Prop) : A → Program S ε α → Prop
  | a, .ret x => post x a
  | _, .fail _ => True
  | a, .op i k => M.ok a i ∧ ∀ r, M.may i r → Follows M post (M.next a i r) (k r)

variable {M : Monitor S A}

theorem Follows.imp {post post' : α → A → Prop} {p : Program S ε α} {a : A}
    (h : Follows M post a p) (himp : ∀ x b, post x b → post' x b) : Follows M post' a p := by
  induction p generalizing a with
  | ret x => exact himp x a h
  | fail e => trivial
  | op i k ih => exact ⟨h.1, fun r hr => ih r (h.2 r hr)⟩

theorem Follows.bind {post : β → A → Prop} {p : Program S ε α} {f : α → Program S ε β} {a : A}
    (h : Follows M (fun x b => Follows M post b (f x)) a p) : Follows M post a (p.bind f) := by
  induction p generalizing a with
  | ret x => exact h
  | fail e => trivial
  | op i k ih => exact ⟨h.1, fun r hr => ih r (h.2 r hr)⟩

theorem Follows.seq {post : β → A → Prop} {p : Program S ε α} {f : α → Program S ε β} {a : A}
    (hp : Follows M (fun _ b => b = a) a p) (hf : ∀ x, Follows M post a (f x)) : Follows M post a (p.bind f) := by
  apply Follows.bind
  apply hp.imp
  rintro x b rfl
  exact hf x

theorem Follows.orFail_bind {post : β → A → Prop} {r : Except ε α} {f : α → Program S ε β} {a : A}
    (hf : ∀ x, r = .ok x → Follows M post a (f x)) : Follows M post a ((Program.orFail r).bind f) := by
  cases r with
  | error e => trivial
  | ok x => exact hf x rfl

theorem Follows.when {p : Program S ε Unit} {a : A} (b : Bool) (hp : Follows M (fun _ c => c = a) a p) :
    Follows M (fun _ c => c = a) a (Program.when b p) := by
  cases b with
  | false => rfl
  | true => exact hp

theorem Follows.forEach {f : β → Program S ε Unit} {a : A}
    (hf : ∀ x, Follows M (fun _ b => b = a) a (f x)) (xs : List β) :
    Follows M (fun _ b => b = a) a (Program.forEach f xs) := by
  induction xs with
  | nil => rfl
  | cons x xs ih =>
    apply Follows.bind
    apply (hf x).imp
    rintro _ b rfl
    exact ih

theorem Follows.collect {f : β → Program S ε α} {a : A} {xs : List β}
    (hf : ∀ x ∈ xs, Follows M (fun _ b => b = a) a (f x)) :
    Follows M (fun _ b => b = a) a (Program.collect f xs) := by
  induction xs with
  | nil => rfl
  | cons x xs ih =>
    refine Follows.seq (hf x (by simp)) (fun y => ?_)
    exact Follows.seq (ih (fun z hz => hf z (by simp [hz]))) (fun ys => rfl)

/-- The program may come to an operation in `target` before one in `stop`, with replies in `may`. -/
def Reaches (may : (i : S.Op) → S.Reply i → Prop) (target stop : S.Op → Prop) : Program S ε α → Prop
  | .ret _ => False
  | .fail _ => False
  | .op i k => target i ∨ ¬ stop i ∧ ∃ r, may i r ∧ Reaches may target stop (k r)

theorem Follows.ok_of_reaches {post : α → A → Prop} {target stop : S.Op → Prop}
    (hnext : ∀ a i r, ¬ stop i → M.next a i r = a) {p : Program S ε α} {a : A} (h : Follows M post a p)
    (hreach : Reaches M.may target stop p) : ∃ i, target i ∧ M.ok a i := by
  induction p with
  | ret x => exact hreach.elim
  | fail e => exact hreach.elim
  | op i k ih =>
    rcases hreach with htarget | ⟨hstop, r, hr, hreach⟩
    · exact ⟨i, htarget, h.1⟩
    · have hk := h.2 r hr
      rw [hnext a i r hstop] at hk
      exact ih r hk hreach

/-- The program does nothing but operations in `ok` before it stands at a program in `goal`. -/
inductive Until (ok : S.Op → Prop) (goal : Program S ε α → Prop) : Program S ε α → Prop
  | here {p : Program S ε α} (h : goal p) : Until ok goal p
  | op {i : S.Op} {k : S.Reply i → Program S ε α} (hi : ok i) (hk : ∀ r, Until ok goal (k r)) :
      Until ok goal (.op i k)

theorem Until.bind {ok : S.Op → Prop} {goal : Program S ε β → Prop} {p : Program S ε α}
    {f : α → Program S ε β} (hp : Until ok (fun q => Until ok goal (q.bind f)) p) : Until ok goal (p.bind f) := by
  induction hp with
  | here h => exact h
  | op hi _ ih => exact .op hi ih

/-- Whatever is answered, the program does only such operations. -/
def Only (P : S.Op → Prop) : Program S ε α → Prop
  | .ret _ => True
  | .fail _ => True
  | .op i k => P i ∧ ∀ r, Only P (k r)

variable {P Q : S.Op → Prop}

theorem Only.imp {p : Program S ε α} (hp : Only P p) (himp : ∀ i, P i → Q i) : Only Q p := by
  induction p with
  | ret x => trivial
  | fail e => trivial
  | op i k ih => exact ⟨himp i hp.1, fun r => ih r (hp.2 r)⟩

theorem Only.bind {p : Program S ε α} {f : α → Program S ε β} (hp : Only P p) (hf : ∀ x, Only P (f x)) :
    Only P (p.bind f) := by
  induction p with
  | ret x => exact hf x
  | fail e => trivial
  | op i k ih => exact ⟨hp.1, fun r => ih r (hp.2 r)⟩

theorem Only.orFail (r : Except ε α) : Only P (Program.orFail r : Program S ε α) := by
  cases r <;> trivial

theorem Only.when {p : Program S ε Unit} (b : Bool) (hp : Only P p) : Only P (Program.when b p) := by
  cases b with
  | false => trivial
  | true => exact hp

theorem Only.attempt {p : Program S ε α} (hp : Only P p) : Only P p.attempt := by
  induction p with
  | ret x => trivial
  | fail e => trivial
  | op i k ih => exact ⟨hp.1, fun r => ih r (hp.2 r)⟩

theorem Only.forEach_mem {f : β → Program S ε Unit} {xs : List β} (hf : ∀ x ∈ xs, Only P (f x)) :
    Only P (Program.forEach f xs) := by
  induction xs with
  | nil => trivial
  | cons x xs ih =>
    exact (hf x List.mem_cons_self).bind (fun _ => ih (fun y hy => hf y (List.mem_cons_of_mem x hy)))

theorem Only.collect_mem {f : β → Program S ε α} {xs : List β} (hf : ∀ x ∈ xs, Only P (f x)) :
    Only P (Program.collect f xs) := by
  induction xs with
  | nil => trivial
  | cons x xs ih =>
    refine (hf x List.mem_cons_self).bind (fun _ => ?_)
    exact (ih (fun y hy => hf y (List.mem_cons_of_mem x hy))).bind (fun _ => trivial)

theorem Only.forEach {f : β → Program S ε Unit} (hf : ∀ x, Only P (f x)) (xs : List β) :
    Only P (Program.forEach f xs) := Only.forEach_mem (fun x _ => hf x)

theorem Only.collect {f : β → Program S ε α} (hf : ∀ x, Only P (f x)) (xs : List β) :
    Only P (Program.collect f xs) := Only.collect_mem (fun x _ => hf x)

theorem Only.follows {M : Monitor S A} (hok : ∀ a i, P i → M.ok a i) {p : Program S ε α} (hp : Only P p) (a : A) :
    Follows M (fun _ _ => True) a p := by
  induction p generalizing a with
  | ret x => trivial
  | fail e => trivial
  | op i k ih => exact ⟨hok a i hp.1, fun r _ => ih r (hp.2 r) _⟩

/-- Whatever is answered, the program returns only such values. -/
def Ends (R : α → Prop) : Program S ε α → Prop
  | .ret x => R x
  | .fail _ => True
  | .op _ k => ∀ r, Ends R (k r)

section ending

variable {R : α → Prop} {R' : β → Prop}

theorem Ends.bind {p : Program S ε α} {f : α → Program S ε β} (hp : Ends R p) (hf : ∀ x, R x → Ends R' (f x)) :
    Ends R' (p.bind f) := by
  induction p with
  | ret x => exact hf x hp
  | fail e => trivial
  | op i k ih => exact fun r => ih r (hp r)

theorem Ends.orFail {r : Except ε α} (h : ∀ x, r = .ok x → R x) : Ends R (Program.orFail r : Program S ε α) := by
  cases r with
  | error e => trivial
  | ok x => exact h x rfl

theorem Ends.collect {f : β → Program S ε α} {xs : List β} (hf : ∀ x ∈ xs, Ends R (f x)) :
    Ends (fun ys => ∀ y ∈ ys, R y) (Program.collect f xs) := by
  induction xs with
  | nil => exact fun y hy => (nomatch hy)
  | cons x xs ih =>
    refine Ends.bind (hf x List.mem_cons_self) (fun y hy => ?_)
    refine Ends.bind (ih (fun z hz => hf z (List.mem_cons_of_mem x hz))) (fun ys hys => ?_)
    rintro z (_ | ⟨_, hz⟩)
    · exact hy
    · exact hys z hz

theorem Ends.any (p : Program S ε α) : Ends (fun _ => True) p := by
  induction p with
  | ret x => trivial
  | fail e => trivial
  | op i k ih => exact ih

/-- What the first part returns is known to the rest. -/
theorem Only.bind_of {p : Program S ε α} {f : α → Program S ε β} (hp : Only P p) (hR : Ends R p)
    (hf : ∀ x, R x → Only P (f x)) : Only P (p.bind f) := by
  induction p with
  | ret x => exact hf x hR
  | fail e => trivial
  | op i k ih => exact ⟨hp.1, fun r => ih r (hp.2 r) (hR r)⟩

end ending

end VantageNet.Interaction
