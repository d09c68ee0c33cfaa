import VantageNet.Interaction.Ensures

/-!
A program of one signature as a part of a larger one. The larger handler does to a component
of its state what the smaller handler does, and what holds of the part holds of the component.
-/

namespace VantageNet.Interaction

open Program

/-- The operations of `T` among those of `S`. -/
structure Embedding (T S : Signature) where
  op : T.Op → S.Op
  reply : (i : T.Op) → S.Reply (op i) → T.Reply i

variable {S T : Signature} {ε ε' α σ τ : Type}

def Program.embed (e : Embedding T S) (f : ε → ε') : Program T ε α → Program S ε' α
  | ret a => ret a
  | fail x => fail (f x)
  | op i k => op (e.op i) (fun r => (k (e.reply i r)).embed e f)

namespace Embedding

variable (e : Embedding T S) (H : Handler S σ) (K : Handler T τ)

/-- The handler `H` answers the embedded operations as `K` does with the component, which it changes as `K` does. -/
structure Handles (component : σ → τ) : Prop where
  reply : ∀ i r s, e.reply i (H (e.op i) r s).1 = (K i (e.reply i r) (component s)).1
  state : ∀ i r s, component (H (e.op i) r s).2 = (K i (e.reply i r) (component s)).2

variable {e H K} {component : σ → τ}

/-- What the part ensures of its state the whole ensures of the component, and what the operations keep is kept. -/
theorem Handles.ensures (h : e.Handles H K component) {may : τ → (i : T.Op) → T.Reply i → Prop}
    {may' : σ → (i : S.Op) → S.Reply i → Prop} (hmay : ∀ s i r, may' s (e.op i) r → may (component s) i (e.reply i r))
    {I : σ → Prop} (hkeep : ∀ s i r, I s → I (H (e.op i) r s).2) {f : ε → ε'} {post : Except ε α → τ → Prop}
    {p : Program T ε α} {s : σ} (hp : Ensures K may post p (component s)) (hs : I s) :
    Ensures H may' (fun r t => I t ∧ ∃ r₀, r = r₀.mapError f ∧ post r₀ (component t)) (p.embed e f) s := by
  induction p generalizing s with
  | ret a => exact ⟨hs, .ok a, rfl, hp⟩
  | fail x => exact ⟨hs, .error x, rfl, hp⟩
  | op i k ih =>
    intro r hr
    have hk := hp (e.reply i r) (hmay s i r hr)
    rw [← h.reply, ← h.state] at hk
    exact ih _ hk (hkeep s i r hs)

variable (e H K component) in
/-- The handler `H` answers an embedded operation as `K` does for some answer, perhaps another one than it was given. -/
def Refines : Prop := ∀ i r s, ∃ r', e.reply i (H (e.op i) r s).1 = (K i r' (component s)).1 ∧
  component (H (e.op i) r s).2 = (K i r' (component s)).2

/-- What the part ensures of its state whatever is answered the whole ensures of the component. -/
theorem Refines.ensures (h : e.Refines H K component) {may : σ → (i : S.Op) → S.Reply i → Prop} {I : σ → Prop}
    (hkeep : ∀ s i r, I s → I (H (e.op i) r s).2) {f : ε → ε'} {post : Except ε α → τ → Prop} {p : Program T ε α} {s : σ}
    (hp : Ensures K (fun _ _ _ => True) post p (component s)) (hs : I s) :
    Ensures H may (fun r t => I t ∧ ∃ r₀, r = r₀.mapError f ∧ post r₀ (component t)) (p.embed e f) s := by
  induction p generalizing s with
  | ret a => exact ⟨hs, .ok a, rfl, hp⟩
  | fail x => exact ⟨hs, .error x, rfl, hp⟩
  | op i k ih =>
    intro r _
    obtain ⟨r', hreply, hstate⟩ := h i r s
    have hk := hp r' trivial
    rw [← hreply, ← hstate] at hk
    exact ih _ hk (hkeep s i r hs)

theorem only_embed_of {Q : T.Op → Prop} {P : S.Op → Prop} (hP : ∀ i, Q i → P (e.op i)) (f : ε → ε') {p : Program T ε α}
    (hp : Only Q p) : Only P (p.embed e f) := by
  induction p with
  | ret a => trivial
  | fail x => trivial
  | op i k ih => exact ⟨hP i hp.1, fun r => ih _ (hp.2 _)⟩

theorem only_embed {P : S.Op → Prop} (hP : ∀ i, P (e.op i)) (f : ε → ε') (p : Program T ε α) :
    Only P (p.embed e f) := by
  induction p with
  | ret a => trivial
  | fail x => trivial
  | op i k ih => exact ⟨hP i, fun r => ih _⟩

end Embedding

end VantageNet.Interaction
