import VantageNet.Interaction.Monitor

/-!
Pre- and postconditions of programs, for every answer the environment may give. `Answered`
says of one oracle that its answers along a run are among those.
-/

namespace VantageNet.Interaction

open Program

variable {S : Signature} {ε α β σ : Type}

/-- Whatever the environment answers among `may`, the outcome meets `post`. -/
def Ensures (H : Handler S σ) (may : σ → (i : S.Op) → S.Reply i → Prop) (post : Except ε α → σ → Prop) :
    Program S ε α → σ → Prop
  | .ret a, s => post (.ok a) s
  | .fail e, s => post (.error e) s
  | .op i k, s => ∀ r, may s i r → Ensures H may post (k (H i r s).1) (H i r s).2

def Answered (H : Handler S σ) (may : σ → (i : S.Op) → S.Reply i → Prop) (ω : Oracle S) :
    ℕ → Program S ε α → σ → Prop
  | _, .ret _, _ => True
  | _, .fail _, _ => True
  | n, .op i k, s => may s i (ω n i) ∧ Answered H may ω (n + 1) (k (H i (ω n i) s).1) (H i (ω n i) s).2

instance Answered.decide (H : Handler S σ) (may : σ → (i : S.Op) → S.Reply i → Prop) [∀ s i r, Decidable (may s i r)]
    (ω : Oracle S) : (n : ℕ) → (p : Program S ε α) → (s : σ) → Decidable (Answered H may ω n p s)
  | _, .ret _, _ => .isTrue trivial
  | _, .fail _, _ => .isTrue trivial
  | _, .op _ _, _ => @instDecidableAnd _ _ _ (Answered.decide H may ω _ _ _)

variable {H : Handler S σ} {may : σ → (i : S.Op) → S.Reply i → Prop} {post : Except ε α → σ → Prop}

theorem answered_of_forall {ω : Oracle S} (h : ∀ s n i, may s i (ω n i)) (n : ℕ) (p : Program S ε α) (s : σ) :
    Answered H may ω n p s := by
  induction p generalizing n s with
  | ret a => trivial
  | fail e => trivial
  | op i k ih => exact ⟨h s n i, ih _ _ _⟩

namespace Ensures

theorem run {p : Program S ε α} {s : σ} (h : Ensures H may post p s) {ω : Oracle S} {n : ℕ}
    (hω : Answered H may ω n p s) : post (run H ω n p s).result (run H ω n p s).state := by
  induction p generalizing n s with
  | ret a => exact h
  | fail e => exact h
  | op i k ih => exact ih _ (h _ hω.1) hω.2

theorem run_any {p : Program S ε α} {s : σ} (h : Ensures H (fun _ _ _ => True) post p s) (ω : Oracle S) (n : ℕ) :
    post (Interaction.run H ω n p s).result (Interaction.run H ω n p s).state :=
  h.run (answered_of_forall (fun _ _ _ => trivial) n p s)

theorem imp {post' : Except ε α → σ → Prop} {p : Program S ε α} {s : σ} (h : Ensures H may post p s)
    (himp : ∀ r t, post r t → post' r t) : Ensures H may post' p s := by
  induction p generalizing s with
  | ret a => exact himp _ _ h
  | fail e => exact himp _ _ h
  | op i k ih => exact fun r hr => ih _ (h r hr)

theorem of_any {p : Program S ε α} {s : σ} (h : Ensures H (fun _ _ _ => True) post p s) : Ensures H may post p s := by
  induction p generalizing s with
  | ret a => exact h
  | fail e => exact h
  | op i k ih => exact fun r _ => ih _ (h r trivial)

theorem and {post' : Except ε α → σ → Prop} {p : Program S ε α} {s : σ} (h : Ensures H may post p s)
    (h' : Ensures H may post' p s) : Ensures H may (fun r t => post r t ∧ post' r t) p s := by
  induction p generalizing s with
  | ret a => exact ⟨h, h'⟩
  | fail e => exact ⟨h, h'⟩
  | op i k ih => exact fun r hr => ih _ (h r hr) (h' r hr)

theorem invariant {I : σ → Prop} (hstep : ∀ s i r, I s → I (H i r s).2) (p : Program S ε α) {s : σ} (hs : I s) :
    Ensures H may (fun _ t => I t) p s := by
  induction p generalizing s with
  | ret a => exact hs
  | fail e => exact hs
  | op i k ih => exact fun r _ => ih _ (hstep s i r hs)

/-- What the operations of the program keep. -/
theorem of_only {P : S.Op → Prop} {I : σ → Prop} (hstep : ∀ s i r, P i → I s → I (H i r s).2) {p : Program S ε α}
    (hp : Only P p) {s : σ} (hs : I s) : Ensures H may (fun _ t => I t) p s := by
  induction p generalizing s with
  | ret a => exact hs
  | fail e => exact hs
  | op i k ih => exact fun r _ => ih _ (hp.2 _) (hstep s i r hp.1 hs)

/-- What is asked of the first part of a sequence when `q` is asked of the rest. -/
def andThen (post : Except ε β → σ → Prop) (q : α → σ → Prop) : Except ε α → σ → Prop
  | .ok a, t => q a t
  | .error e, t => post (.error e) t

/-- What no operation of the program changes is as it was. -/
theorem unchanged {γ : Type} {view : σ → γ} {P : S.Op → Prop} (hstep : ∀ s i r, P i → view (H i r s).2 = view s)
    {p : Program S ε α} (hp : Only P p) (s : σ) : Ensures H may (fun _ t => view t = view s) p s :=
  of_only (fun t i r hi h => (hstep t i r hi).trans h) hp rfl

theorem bind {post : Except ε β → σ → Prop} {p : Program S ε α} {f : α → Program S ε β} {s : σ}
    (h : Ensures H may (andThen post (fun a => Ensures H may post (f a))) p s) :
    Ensures H may post (p.bind f) s := by
  induction p generalizing s with
  | ret a => exact h
  | fail e => exact h
  | op i k ih => exact fun r hr => ih _ (h r hr)

theorem attempt {post : Except ε (Except ε α) → σ → Prop} {p : Program S ε α} {s : σ}
    (h : Ensures H may (fun r t => post (.ok r) t) p s) : Ensures H may post p.attempt s := by
  induction p generalizing s with
  | ret a => exact h
  | fail e => exact h
  | op i k ih => exact fun r hr => ih _ (h r hr)

/-- A program that leaves the state alone first, and then `f` in the state as it was. -/
theorem after {P : S.Op → Prop} (hquiet : ∀ s i r, P i → (H i r s).2 = s) {post : Except ε β → σ → Prop}
    {p : Program S ε α} (hp : Only P p) {f : α → Program S ε β} {s : σ} (herror : ∀ e, post (.error e) s)
    (hf : ∀ a, Ensures H may post (f a) s) : Ensures H may post (p.bind f) s := by
  have hsame : Ensures H may (fun _ t => t = s) p s := of_only (fun t i r hi h => (hquiet t i r hi).trans h) hp rfl
  apply bind
  apply hsame.imp
  rintro (e | a) _ rfl
  · exact herror e
  · exact hf a

/-- The errors of a program under another name. -/
theorem relabel {f : ε → ε} {post : Except ε α → σ → Prop} {p : Program S ε α} {s : σ}
    (h : Ensures H may (fun r t => post (r.mapError f) t) p s) :
    Ensures H may post (p.attempt.bind (fun r => orFail (r.mapError f))) s := by
  apply bind
  apply attempt
  apply h.imp
  rintro (e | a) t ht
  · exact ht
  · exact ht

theorem forEach {f : β → Program S ε Unit} {post : Except ε Unit → σ → Prop} (I : List β → σ → Prop)
    (xs : List β) (hf : ∀ done x rest, xs = done ++ x :: rest → ∀ s, I done s →
      Ensures H may (andThen post (fun _ => I (done ++ [x]))) (f x) s)
    {s : σ} (hs : I [] s) (hend : ∀ t, I xs t → post (.ok ()) t) :
    Ensures H may post (Program.forEach f xs) s := by
  have hfrom (rest done : List β) (hxs : xs = done ++ rest) (s : σ) (hs : I done s) :
      Ensures H may post (Program.forEach f rest) s := by
    induction rest generalizing done s with
    | nil => exact hend s (by simpa [hxs] using hs)
    | cons x rest ih =>
      apply Ensures.bind
      apply (hf done x rest hxs s hs).imp
      rintro (e | _) t ht
      · exact ht
      · exact ih (done ++ [x]) (by simpa using hxs) t ht
  exact hfrom xs [] rfl s hs

theorem collect {f : β → Program S ε α} {post : Except ε (List α) → σ → Prop} (I : List β → List α → σ → Prop)
    (xs : List β) (hf : ∀ done x rest, xs = done ++ x :: rest → ∀ out s, I done out s →
      Ensures H may (fun r t => (∀ a, r = .ok a → I (done ++ [x]) (out ++ [a]) t) ∧
        ∀ e, r = .error e → post (.error e) t) (f x) s)
    {s : σ} (hs : I [] [] s) (hend : ∀ out t, I xs out t → post (.ok out) t) :
    Ensures H may post (Program.collect f xs) s := by
  have hfrom (rest done : List β) (hxs : xs = done ++ rest) (out : List α) (s : σ) (hs : I done out s) :
      Ensures H may (fun r t => (∀ as, r = .ok as → I xs (out ++ as) t) ∧ ∀ e, r = .error e → post (.error e) t)
        (Program.collect f rest) s := by
    induction rest generalizing done out s with
    | nil =>
      refine ⟨?_, fun e h => (nomatch h)⟩
      rintro as ⟨⟩
      simpa [hxs] using hs
    | cons x rest ih =>
      apply Ensures.bind
      apply (hf done x rest hxs out s hs).imp
      rintro (e | a) t ht
      · exact ⟨fun _ h => (nomatch h), fun _ h => ht.2 _ (by cases h; rfl)⟩
      · apply Ensures.bind
        apply (ih (done ++ [x]) (by simpa using hxs) (out ++ [a]) t (ht.1 a rfl)).imp
        rintro (e | as) u hu
        · exact ⟨fun _ h => (nomatch h), fun _ h => hu.2 _ (by cases h; rfl)⟩
        · refine ⟨?_, fun e h => (nomatch h)⟩
          rintro _ ⟨⟩
          simpa using hu.1 as rfl
  apply (hfrom xs [] rfl [] s hs).imp
  rintro (e | as) t ht
  · exact ht.2 e rfl
  · exact hend as t (by simpa using ht.1 as rfl)

theorem accumulate {f : α → β → Program S ε α} {post : Except ε α → σ → Prop} (I : List β → α → σ → Prop)
    (xs : List β) (hf : ∀ done x rest, xs = done ++ x :: rest → ∀ a s, I done a s →
      Ensures H may (andThen post (fun a' => I (done ++ [x]) a')) (f a x) s)
    {a : α} {s : σ} (hs : I [] a s) (hend : ∀ a' t, I xs a' t → post (.ok a') t) :
    Ensures H may post (Program.accumulate f a xs) s := by
  have hfrom (rest done : List β) (hxs : xs = done ++ rest) (a : α) (s : σ) (hs : I done a s) :
      Ensures H may post (Program.accumulate f a rest) s := by
    induction rest generalizing done a s with
    | nil => exact hend a s (by simpa [hxs] using hs)
    | cons x rest ih =>
      apply Ensures.bind
      apply (hf done x rest hxs a s hs).imp
      rintro (e | a') t ht
      · exact ht
      · exact ih (done ++ [x]) (by simpa using hxs) a' t ht
  exact hfrom xs [] rfl a s hs

end Ensures

/-- Whenever the program returns, value and state meet `q`. -/
def Returns (H : Handler S σ) (may : σ → (i : S.Op) → S.Reply i → Prop) (q : α → σ → Prop) (p : Program S ε α)
    (s : σ) : Prop := Ensures H may (fun r t => ∀ a, r = .ok a → q a t) p s

namespace Returns

variable {q : α → σ → Prop} {q' : β → σ → Prop} {p : Program S ε α} {s : σ}

theorem ret {a : α} (h : q a s) : Returns H may q (.ret a : Program S ε α) s := by
  rintro _ ⟨⟩
  exact h

theorem fail (e : ε) : Returns H may q (.fail e) s := fun _ h => (nomatch h)

theorem run (h : Returns H may q p s) {ω : Oracle S} {n : ℕ} (hω : Answered H may ω n p s) {a : α}
    (ha : (Interaction.run H ω n p s).result = .ok a) : q a (Interaction.run H ω n p s).state := Ensures.run h hω a ha

theorem imp {q' : α → σ → Prop} (h : Returns H may q p s) (himp : ∀ a t, q a t → q' a t) : Returns H may q' p s :=
  Ensures.imp h (fun _ t hq a ha => himp a t (hq a ha))

theorem and {q' : α → σ → Prop} (h : Returns H may q p s) (h' : Returns H may q' p s) :
    Returns H may (fun a t => q a t ∧ q' a t) p s :=
  (Ensures.and h h').imp (fun _ _ hq a ha => ⟨hq.1 a ha, hq.2 a ha⟩)

theorem invariant {I : σ → Prop} (hstep : ∀ s i r, I s → I (H i r s).2) (p : Program S ε α) {s : σ} (hs : I s) :
    Returns H may (fun _ t => I t) p s := (Ensures.invariant hstep p hs).imp (fun _ _ ht _ _ => ht)

theorem bind {f : α → Program S ε β} (hp : Returns H may q p s) (hf : ∀ a t, q a t → Returns H may q' (f a) t) :
    Returns H may q' (p.bind f) s := by
  apply Ensures.bind
  apply Ensures.imp hp
  rintro (e | a) t h
  · exact fun _ h => (nomatch h)
  · exact hf a t (h a rfl)

theorem collect {f : β → Program S ε α} (I : List β → List α → σ → Prop) (xs : List β)
    (hf : ∀ done x rest, xs = done ++ x :: rest → ∀ out s, I done out s →
      Returns H may (fun a t => I (done ++ [x]) (out ++ [a]) t) (f x) s) (hs : I [] [] s) :
    Returns H may (I xs) (Program.collect f xs) s := by
  refine Ensures.collect I xs (fun done x rest hrest out s hI => ?_) hs ?_
  · refine Ensures.imp (hf done x rest hrest out s hI) (fun r t h => ⟨h, ?_⟩)
    rintro e - a h
    cases h
  · rintro out t h _ ⟨⟩
    exact h

theorem accumulate {f : α → β → Program S ε α} (I : List β → α → σ → Prop) (xs : List β)
    (hf : ∀ done x rest, xs = done ++ x :: rest → ∀ a s, I done a s →
      Returns H may (fun a' t => I (done ++ [x]) a' t) (f a x) s) {a : α} (hs : I [] a s) :
    Returns H may (I xs) (Program.accumulate f a xs) s := by
  refine Ensures.accumulate I xs (fun done x rest hrest a s hI => ?_) hs ?_
  · apply Ensures.imp (hf done x rest hrest a s hI)
    rintro (e | a') t h
    · exact fun _ h => (nomatch h)
    · exact h a' rfl
  · rintro a t h _ ⟨⟩
    exact h

theorem forEach {f : β → Program S ε Unit} (I : List β → σ → Prop) (xs : List β)
    (hf : ∀ done x rest, xs = done ++ x :: rest → ∀ s, I done s → Returns H may (fun _ => I (done ++ [x])) (f x) s)
    (hs : I [] s) : Returns H may (fun _ => I xs) (Program.forEach f xs) s := by
  refine Ensures.forEach I xs (fun done x rest hrest s hI => ?_) hs (fun t h _ _ => h)
  apply Ensures.imp (hf done x rest hrest s hI)
  rintro (e | _) t h
  · exact fun _ h => (nomatch h)
  · exact h () rfl

end Returns

/-- `ok` holds of the state, the accumulator and the element whenever the loop comes to an element, and `last`
when it has come to its end. -/
def Along (H : Handler S σ) (ω : Oracle S) (f : α → β → Program S ε α) (ok : σ → α → β → Prop)
    (last : σ → α → Prop) : ℕ → σ → α → List β → Prop
  | _, s, a, [] => last s a
  | n, s, a, x :: xs => ok s a x ∧
    match Interaction.run H ω n (f a x) s with
    | ⟨.ok a', m, t⟩ => Along H ω f ok last m t a' xs
    | ⟨.error _, _, _⟩ => True

theorem Along.imp {ω : Oracle S} {f : α → β → Program S ε α} {ok ok' : σ → α → β → Prop} {last last' : σ → α → Prop}
    (hok : ∀ s a x, ok s a x → ok' s a x) (hlast : ∀ s a, last s a → last' s a) {n : ℕ} {s : σ} {a : α} {xs : List β}
    (h : Along H ω f ok last n s a xs) : Along H ω f ok' last' n s a xs := by
  induction xs generalizing n s a with
  | nil => exact hlast s a h
  | cons x xs ih =>
    refine ⟨hok s a x h.1, ?_⟩
    have hrest := h.2
    rcases hrun : run H ω n (f a x) s with ⟨e | b, m, t⟩
    · trivial
    · simp only [hrun] at hrest
      exact ih hrest

theorem ok_of_run_bind {ω : Oracle S} {n : ℕ} {p : Program S ε α} {f : α → Program S ε β} {s : σ} {b : β}
    (h : (run H ω n (p.bind f) s).result = .ok b) :
    ∃ a m t, run H ω n p s = ⟨.ok a, m, t⟩ ∧ (run H ω m (f a) t).result = .ok b := by
  rw [run_bind] at h
  rcases hrun : run H ω n p s with ⟨e | a, m, t⟩
  · rw [hrun] at h
    cases h
  · rw [hrun] at h
    exact ⟨a, m, t, rfl, h⟩

/-- `ok` holds of the state and the element whenever the loop comes to an element. -/
def Throughout (H : Handler S σ) (ω : Oracle S) (f : β → Program S ε α) (ok : σ → β → Prop) :
    ℕ → σ → List β → Prop
  | _, _, [] => True
  | n, s, x :: xs => ok s x ∧
    match Interaction.run H ω n (f x) s with
    | ⟨.ok _, m, t⟩ => Throughout H ω f ok m t xs
    | ⟨.error _, _, _⟩ => True

/-- Where a step that meets `ok` leaves the state alone, so does the loop. -/
theorem Throughout.state_eq {ω : Oracle S} {f : β → Program S ε α} {ok : σ → β → Prop} (hω : ∀ s n i, may s i (ω n i))
    (hstep : ∀ s x, ok s x → Ensures H may (fun _ t => t = s) (f x) s) {n : ℕ} {s : σ} {xs : List β}
    (h : Throughout H ω f ok n s xs) : (run H ω n (collect f xs) s).state = s := by
  induction xs generalizing n with
  | nil => rfl
  | cons x xs ih =>
    have hx := (hstep s x h.1).run (answered_of_forall hω n _ s)
    have hrest := h.2
    rw [collect, run_bind]
    rcases hrun : run H ω n (f x) s with ⟨e | a, m, t⟩
    · rw [hrun] at hx
      exact hx
    · simp only [hrun] at hx hrest
      subst hx
      have htail := ih hrest
      simp only [run_bind]
      rcases hcollect : run H ω m (collect f xs) t with ⟨e | as, k, u⟩
      · rw [hcollect] at htail
        exact htail
      · rw [hcollect] at htail
        exact htail

/-- Where each step gives a good value exactly when `ok` holds before it, all of them are good exactly when `ok`
holds throughout. -/
theorem throughout_iff {ω : Oracle S} {f : β → Program S ε α} {ok : σ → β → Prop} {good : α → Prop}
    (hstep : ∀ s x, Ensures H (fun _ _ _ => True) (fun r _ => ∀ a, r = .ok a → (good a ↔ ok s x)) (f x) s)
    {n : ℕ} {s : σ} {xs : List β} {out : List α} (hresult : (run H ω n (collect f xs) s).result = .ok out) :
    (∀ a ∈ out, good a) ↔ Throughout H ω f ok n s xs := by
  induction xs generalizing n s out with
  | nil =>
    cases hresult
    simp [Throughout]
  | cons x xs ih =>
    have hx := (hstep s x).run_any ω n
    rw [collect, run_bind] at hresult
    rw [Throughout]
    rcases hrun : run H ω n (f x) s with ⟨e | a, m, t⟩
    · simp only [hrun] at hresult
      cases hresult
    · simp only [hrun, run_bind] at hresult hx ⊢
      rcases hrest : run H ω m (collect f xs) t with ⟨e | as, k, u⟩
      · simp only [hrest] at hresult
        cases hresult
      · simp only [hrest] at hresult
        cases hresult
        rw [List.forall_mem_cons, hx a rfl, ih (by rw [hrest])]

end VantageNet.Interaction
