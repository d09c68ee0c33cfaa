import VantageNet.Interaction.Ensures

/-!
Programs that any unwelcome answer of the environment brings to a failure at once. What such a
program comes to says which answers it was given.
-/

namespace VantageNet.Interaction

open Program

variable {S : Signature} {ε α β σ : Type}

/-- Among good answers the outcome meets `post`; at the first one that is not good the program fails, in a
state that meets `bad`. -/
def Strict (H : Handler S σ) (good : σ → (i : S.Op) → S.Reply i → Prop) (bad : σ → Prop) (post : Except ε α → σ → Prop) :
    Program S ε α → σ → Prop
  | .ret a, s => post (.ok a) s
  | .fail e, s => post (.error e) s
  | .op i k, s => ∀ r, (good s i r → Strict H good bad post (k (H i r s).1) (H i r s).2) ∧
      (¬ good s i r → ∃ e, k (H i r s).1 = .fail e ∧ bad (H i r s).2)

variable {H : Handler S σ} {good : σ → (i : S.Op) → S.Reply i → Prop} {bad : σ → Prop} {post : Except ε α → σ → Prop}

namespace Strict

theorem run {p : Program S ε α} {s : σ} (h : Strict H good bad post p s) (ω : Oracle S) (n : ℕ) :
    (Answered H good ω n p s ∧ post (run H ω n p s).result (run H ω n p s).state) ∨
    (¬ Answered H good ω n p s ∧ bad (Interaction.run H ω n p s).state) := by
  induction p generalizing n s with
  | ret a => exact .inl ⟨trivial, h⟩
  | fail e => exact .inl ⟨trivial, h⟩
  | op i k ih =>
    obtain ⟨hgood, hbad⟩ := h (ω n i)
    by_cases hanswer : good s i (ω n i)
    · rcases ih _ (hgood hanswer) (n + 1) with ⟨hrest, hpost⟩ | ⟨hrest, hstate⟩
      · exact .inl ⟨⟨hanswer, hrest⟩, hpost⟩
      · exact .inr ⟨fun hall => hrest hall.2, hstate⟩
    · obtain ⟨e, hfail, hstate⟩ := hbad hanswer
      refine .inr ⟨fun hall => hanswer hall.1, ?_⟩
      rw [run_op, hfail]
      exact hstate

theorem iff {P : σ → Prop} {p : Program S ε α} {s : σ} (h : Strict H good bad post p s) (hpost : ∀ r t, post r t → P t)
    (hbad : ∀ t, bad t → ¬ P t) (ω : Oracle S) (n : ℕ) :
    P (Interaction.run H ω n p s).state ↔ Answered H good ω n p s := by
  rcases h.run ω n with ⟨hanswered, hp⟩ | ⟨hanswered, hp⟩
  · exact iff_of_true (hpost _ _ hp) hanswered
  · exact iff_of_false (hbad _ hp) hanswered

theorem imp {post' : Except ε α → σ → Prop} {p : Program S ε α} {s : σ} (h : Strict H good bad post p s)
    (himp : ∀ r t, post r t → post' r t) : Strict H good bad post' p s := by
  induction p generalizing s with
  | ret a => exact himp _ _ h
  | fail e => exact himp _ _ h
  | op i k ih => exact fun r => ⟨fun hr => ih _ ((h r).1 hr), (h r).2⟩

theorem bind {post : Except ε β → σ → Prop} {p : Program S ε α} {f : α → Program S ε β} {s : σ}
    (h : Strict H good bad (Ensures.andThen post (fun a => Strict H good bad post (f a))) p s) :
    Strict H good bad post (p.bind f) s := by
  induction p generalizing s with
  | ret a => exact h
  | fail e => exact h
  | op i k ih =>
    intro r
    refine ⟨fun hr => ih _ ((h r).1 hr), fun hr => ?_⟩
    obtain ⟨e, hfail, hbad⟩ := (h r).2 hr
    refine ⟨e, ?_, hbad⟩
    change (k (H i r s).1).bind f = _
    rw [hfail, fail_bind]

end Strict

/-- Among good answers the program returns, and what it returns meets `q`. -/
def Yields (H : Handler S σ) (good : σ → (i : S.Op) → S.Reply i → Prop) (bad : σ → Prop) (q : α → σ → Prop)
    (p : Program S ε α) (s : σ) : Prop := Strict H good bad (fun r t => ∃ a, r = .ok a ∧ q a t) p s

namespace Yields

variable {q : α → σ → Prop} {q' : β → σ → Prop} {p : Program S ε α} {s : σ}

theorem ret {a : α} (h : q a s) : Yields H good bad q (.ret a : Program S ε α) s := ⟨a, rfl, h⟩

theorem imp {q' : α → σ → Prop} (h : Yields H good bad q p s) (himp : ∀ a t, q a t → q' a t) : Yields H good bad q' p s := by
  apply Strict.imp h
  rintro r t ⟨a, rfl, hq⟩
  exact ⟨a, rfl, himp a t hq⟩

theorem bind {f : α → Program S ε β} (hp : Yields H good bad q p s) (hf : ∀ a t, q a t → Yields H good bad q' (f a) t) :
    Yields H good bad q' (p.bind f) s := by
  apply Strict.bind
  apply Strict.imp hp
  rintro r t ⟨a, rfl, hq⟩
  exact hf a t hq

/-- What the environment answers, where an error is not good. -/
theorem ask {i : S.Op} {f : S.Reply i → Except ε α} (hgood : ∀ r, good s i r ↔ ∃ a, f r = .ok a)
    (hkeep : ∀ r, H i r s = (r, s)) (hbad : bad s) (hq : ∀ r a, f r = .ok a → q a s) :
    Yields H good bad q (.op i (fun r => orFail (f r)) : Program S ε α) s := by
  intro r
  rw [hkeep]
  dsimp only
  cases hf : f r with
  | ok a => exact ⟨fun _ => ret (hq r a hf), fun hr => absurd ((hgood r).mpr ⟨a, hf⟩) hr⟩
  | error e =>
    refine ⟨fun hr => ?_, fun _ => ⟨e, rfl, hbad⟩⟩
    obtain ⟨a, ha⟩ := (hgood r).mp hr
    exact nomatch ha.symm.trans hf

/-- An operation that cannot go wrong. -/
theorem step {i : S.Op} {k : S.Reply i → Program S ε α} (hgood : ∀ r, good s i r)
    (h : ∀ r, Yields H good bad q (k (H i r s).1) (H i r s).2) : Yields H good bad q (.op i k) s :=
  fun r => ⟨fun _ => h r, fun hr => absurd (hgood r) hr⟩

theorem collect {f : β → Program S ε α} {I : σ → Prop} (hf : ∀ x s, I s → Yields H good bad (fun _ t => I t) (f x) s)
    (xs : List β) (hs : I s) : Yields H good bad (fun _ t => I t) (Program.collect f xs) s := by
  induction xs generalizing s with
  | nil => exact ret hs
  | cons x xs ih => exact (hf x s hs).bind (fun a t ht => (ih ht).bind (fun as u hu => ret hu))

/-- A part whose failure is taken as a value, with operations that cannot go wrong. -/
theorem attempt {P : S.Op → Prop} {I : σ → Prop} (hgood : ∀ s i r, P i → good s i r)
    (hstep : ∀ s i r, P i → I s → I (H i r s).2) (hp : Only P p) (hs : I s) :
    Yields H good bad (fun _ t => I t) p.attempt s := by
  induction p generalizing s with
  | ret a => exact ret hs
  | fail e => exact ret hs
  | op i k ih => exact step (fun r => hgood s i r hp.1) (fun r => ih _ (hp.2 _) (hstep s i r hp.1 hs))

end Yields

end VantageNet.Interaction
