import Mathlib.Data.Set.Basic
import VantageNet.Interaction.Monitor

/-!
Programs that run interleaved, one operation at a time, over a shared state. Some
operations take or drop the guard of a lock; an operation that takes one waits while
another thread holds a guard that excludes it, and a thread that has come to its end
drops what it still holds.
-/

namespace VantageNet.Interaction

inductive LockAction (L : Type) where
  | acquire (lock : L) (exclusive : Bool)
  | release (lock : L)
  | none

structure Thread (S : Signature) (ε L C : Type) where
  call : C
  held : List (L × Bool)
  prog : Program S ε Unit

structure Pool (S : Signature) (ε L C σ : Type) where
  threads : List (Thread S ε L C)
  state : σ

inductive Tick (S : Signature) (C : Type) where
  | spawn (call : C)
  | run (thread : ℕ) (answers : (i : S.Op) → S.Reply i)

structure Scheme (S : Signature) (ε L C σ : Type) where
  program : C → Program S ε Unit
  action : S.Op → LockAction L
  handler : Handler S σ

variable {S : Signature} {ε L C σ : Type} [DecidableEq L]

def Thread.holds (t : Thread S ε L C) (l : L) : Prop := ∃ exclusive, (l, exclusive) ∈ t.held

def LockAction.held (held : List (L × Bool)) : LockAction L → List (L × Bool)
  | .acquire l exclusive => (l, exclusive) :: held
  | .release l => held.filter (fun guard => guard.1 ≠ l)
  | .none => held

variable (W : Scheme S ε L C σ)

namespace Pool

/-- Another thread than the `i`-th holds a guard of `l` beside which this one cannot stand. -/
def blocked (P : Pool S ε L C σ) (i : ℕ) : LockAction L → Bool
  | .acquire l exclusive => P.threads.zipIdx.any (fun (t, j) => j ≠ i &&
      t.held.any (fun guard => guard.1 = l && (exclusive || guard.2)))
  | _ => false

def step (P : Pool S ε L C σ) : Tick S C → Pool S ε L C σ
  | .spawn c => { P with threads := P.threads ++ [⟨c, [], W.program c⟩] }
  | .run i answers =>
    match P.threads[i]? with
    | none => P
    | some t =>
      match t.prog with
      | .ret _ | .fail _ => { P with threads := P.threads.set i { t with held := [] } }
      | .op o k =>
        if P.blocked i (W.action o) then P
        else
          let (reply, state) := W.handler o (answers o) P.state
          ⟨P.threads.set i { t with held := (W.action o).held t.held, prog := k reply }, state⟩

structure Ran (P P' : Pool S ε L C σ) (i : ℕ) (answers : (i : S.Op) → S.Reply i) (t : Thread S ε L C)
    (o : S.Op) (k : S.Reply o → Program S ε Unit) : Prop where
  thread : P.threads[i]? = some t
  prog : t.prog = .op o k
  free : P.blocked i (W.action o) = false
  eq : P' = ⟨P.threads.set i
      ⟨t.call, (W.action o).held t.held, k (W.handler o (answers o) P.state).1⟩,
    (W.handler o (answers o) P.state).2⟩

theorem step_cases (P : Pool S ε L C σ) (tick : Tick S C) :
    (∃ c, tick = .spawn c ∧ P.step W tick = { P with threads := P.threads ++ [⟨c, [], W.program c⟩] }) ∨
    (∃ i t, P.threads[i]? = some t ∧ (∀ o k, t.prog ≠ .op o k) ∧
      P.step W tick = { P with threads := P.threads.set i { t with held := [] } }) ∨
    (∃ i answers t o k, tick = .run i answers ∧ Ran W P (P.step W tick) i answers t o k) ∨
    P.step W tick = P := by
  cases tick with
  | spawn c => exact .inl ⟨c, rfl, rfl⟩
  | run i answers =>
    simp only [step]
    cases ht : P.threads[i]? with
    | none => exact .inr (.inr (.inr rfl))
    | some t =>
      rcases hp : t.prog with _ | _ | ⟨o, k⟩
      · exact .inr (.inl ⟨i, t, ht, fun o k h => (nomatch hp.symm.trans h), by simp only [hp]⟩)
      · exact .inr (.inl ⟨i, t, ht, fun o k h => (nomatch hp.symm.trans h), by simp only [hp]⟩)
      · simp only [hp]
        split_ifs with hb
        · exact .inr (.inr (.inr rfl))
        · exact .inr (.inr (.inl ⟨i, answers, t, o, k, rfl, ht, hp, by simpa using hb, rfl⟩))

variable {W}

theorem Ran.get {P P' : Pool S ε L C σ} {i : ℕ} {answers : (i : S.Op) → S.Reply i} {t : Thread S ε L C} {o : S.Op}
    {k : S.Reply o → Program S ε Unit} (h : Ran W P P' i answers t o k) (j : ℕ) :
    P'.threads[j]? = if j = i then
      some ⟨t.call, (W.action o).held t.held, k (W.handler o (answers o) P.state).1⟩ else P.threads[j]? := by
  have hi : i < P.threads.length := (List.getElem?_eq_some_iff.mp h.thread).1
  rw [h.eq]
  split_ifs with hj
  · rw [hj, List.getElem?_set_self hi]
  · rw [List.getElem?_set_ne (Ne.symm hj)]

theorem Ran.state_eq {P P' : Pool S ε L C σ} {i : ℕ} {answers : (i : S.Op) → S.Reply i} {t : Thread S ε L C}
    {o : S.Op} {k : S.Reply o → Program S ε Unit} (h : Ran W P P' i answers t o k) :
    P'.state = (W.handler o (answers o) P.state).2 := by
  rw [h.eq]

theorem state_step (P : Pool S ε L C σ) (tick : Tick S C) :
    (P.step W tick).state = P.state ∨
      ∃ i answers t o k, tick = .run i answers ∧ Ran W P (P.step W tick) i answers t o k := by
  rcases step_cases W P tick with ⟨c, -, hstep⟩ | ⟨i, t, -, -, hstep⟩ | ⟨i, answers, t, o, k, hran⟩ | hstep
  · exact .inl (by rw [hstep])
  · exact .inl (by rw [hstep])
  · exact .inr ⟨i, answers, t, o, k, hran⟩
  · exact .inl (by rw [hstep])

theorem step_get {P : Pool S ε L C σ} {tick : Tick S C} {j : ℕ} {u : Thread S ε L C}
    (h : (P.step W tick).threads[j]? = some u) :
    (P.threads[j]? = some u ∧ ((P.step W tick).state = P.state ∨ ∃ i answers t o k, j ≠ i ∧
      tick = .run i answers ∧ Ran W P (P.step W tick) i answers t o k)) ∨
    (∃ c, u = ⟨c, [], W.program c⟩ ∧ (P.step W tick).state = P.state) ∨
    (∃ t, P.threads[j]? = some t ∧ (∀ o k, t.prog ≠ .op o k) ∧ u = { t with held := [] } ∧
      (P.step W tick).state = P.state) ∨
    (∃ answers t o k, tick = .run j answers ∧ Ran W P (P.step W tick) j answers t o k ∧
      u = ⟨t.call, (W.action o).held t.held, k (W.handler o (answers o) P.state).1⟩) := by
  rcases step_cases W P tick with ⟨c, -, hstep⟩ | ⟨i, t, ht, hdone, hstep⟩ |
    ⟨i, answers, t, o, k, htick, hran⟩ | hstep
  · have hstate : (P.step W tick).state = P.state := by rw [hstep]
    rw [hstep, List.getElem?_append] at h
    split_ifs at h
    · exact .inl ⟨h, .inl hstate⟩
    · exact .inr (.inl ⟨c, List.mem_singleton.mp (List.mem_of_getElem? h), hstate⟩)
  · have hstate : (P.step W tick).state = P.state := by rw [hstep]
    rw [hstep] at h
    by_cases hj : j = i
    · have hi : i < P.threads.length := (List.getElem?_eq_some_iff.mp ht).1
      rw [hj, List.getElem?_set_self hi] at h
      exact .inr (.inr (.inl ⟨t, hj ▸ ht, hdone, (Option.some.inj h).symm, hstate⟩))
    · rw [List.getElem?_set_ne (Ne.symm hj)] at h
      exact .inl ⟨h, .inl hstate⟩
  · have hget := hran.get j
    rw [h] at hget
    split_ifs at hget with hj
    · subst hj
      exact .inr (.inr (.inr ⟨answers, t, o, k, htick, hran, Option.some.inj hget⟩))
    · exact .inl ⟨hget.symm, .inr ⟨i, answers, t, o, k, hj, htick, hran⟩⟩
  · have hstate : (P.step W tick).state = P.state := by rw [hstep]
    rw [hstep] at h
    exact .inl ⟨h, .inl hstate⟩

theorem threads_step {T : σ → Thread S ε L C → Prop} {P : Pool S ε L C σ} (tick : Tick S C)
    (h : ∀ (i : ℕ) t, P.threads[i]? = some t → T P.state t) (hspawn : ∀ c, T P.state ⟨c, [], W.program c⟩)
    (hend : ∀ t, T P.state t → (∀ o k, t.prog ≠ .op o k) → T P.state { t with held := [] })
    (hown : ∀ i answers t o k, tick = .run i answers → Ran W P (P.step W tick) i answers t o k → T P.state t →
      T (P.step W tick).state ⟨t.call, (W.action o).held t.held, k (W.handler o (answers o) P.state).1⟩)
    (hother : ∀ i answers t o k, tick = .run i answers → Ran W P (P.step W tick) i answers t o k →
      ∀ (j : ℕ) u, j ≠ i → P.threads[j]? = some u → T P.state u → T (P.step W tick).state u) :
    ∀ (i : ℕ) t, (P.step W tick).threads[i]? = some t → T (P.step W tick).state t := by
  intro j u hu
  rcases step_get hu with ⟨hu, hstate | ⟨i, answers, t, o, k, hji, htick, hran⟩⟩ | ⟨c, rfl, hstate⟩ |
    ⟨t, ht, hdone, rfl, hstate⟩ | ⟨answers, t, o, k, htick, hran, rfl⟩
  · rw [hstate]
    exact h j u hu
  · exact hother i answers t o k htick hran j u hji hu (h j u hu)
  · rw [hstate]
    exact hspawn c
  · rw [hstate]
    exact hend t (h j t ht) hdone
  · exact hown j answers t o k htick hran (h j t hran.thread)

end Pool

end VantageNet.Interaction
