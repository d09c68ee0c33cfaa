import Mathlib.Data.List.Basic
import VantageNet.Interaction.Pool

/-!
A pool in which every thread stands at a point, moved by its operations the way a monitor
moves. An invariant of the state and the points that each operation keeps when the monitor
lets it pass holds along every run of threads that follow the monitor.
-/

namespace VantageNet.Interaction

structure Tracking (S : Signature) (ε L C σ A : Type) where
  scheme : Scheme S ε L C σ
  monitor : Monitor S A
  start : C → A

structure Tracked (S : Signature) (ε L C σ A : Type) where
  pool : Pool S ε L C σ
  points : ℕ → A

variable {S : Signature} {ε L C σ A : Type}

namespace Tracked

variable (w : Tracked S ε L C σ A)

def prog (i : ℕ) : Option (Program S ε Unit) := (w.pool.threads[i]?).map Thread.prog

def running (i : ℕ) : Bool :=
  match w.prog i with
  | some (.op _ _) => true
  | _ => false

theorem running_iff (i : ℕ) : w.running i = true ↔ ∃ o k, w.prog i = some (.op o k) := by
  unfold running
  rcases w.prog i with _ | _ | _ | ⟨o, k⟩ <;> simp

theorem lt_of_running {i : ℕ} (h : w.running i = true) : i < w.pool.threads.length := by
  obtain ⟨o, k, hprog⟩ := (w.running_iff i).mp h
  obtain ⟨t, ht, -⟩ := Option.map_eq_some_iff.mp hprog
  exact (List.getElem?_eq_some_iff.mp ht).1

end Tracked

namespace Tracking

variable [DecidableEq L] (T : Tracking S ε L C σ A)

def pointAfter (w : Tracked S ε L C σ A) (i : ℕ) (answers : (i : S.Op) → S.Reply i) : A :=
  match w.prog i with
  | some (.op o _) =>
    if w.pool.blocked i (T.scheme.action o) then w.points i
    else T.monitor.next (w.points i) o (T.scheme.handler o (answers o) w.pool.state).1
  | _ => w.points i

def step (w : Tracked S ε L C σ A) : Tick S C → Tracked S ε L C σ A
  | .spawn c => ⟨w.pool.step T.scheme (.spawn c), Function.update w.points w.pool.threads.length (T.start c)⟩
  | .run i answers => ⟨w.pool.step T.scheme (.run i answers), Function.update w.points i (T.pointAfter w i answers)⟩

/-- A step that leaves everything as it is, guards apart. -/
structure Passes (w w' : Tracked S ε L C σ A) : Prop where
  state : w'.pool.state = w.pool.state
  length : w'.pool.threads.length = w.pool.threads.length
  prog : ∀ j, w'.prog j = w.prog j
  call : ∀ j : ℕ, (w'.pool.threads[j]?).map Thread.call = (w.pool.threads[j]?).map Thread.call
  held : ∀ (j : ℕ) t', w'.running j = true → w'.pool.threads[j]? = some t' → w.pool.threads[j]? = some t'
  points : w'.points = w.points

/-- A step in which the `i`-th thread carries out an operation. -/
structure Acts (w w' : Tracked S ε L C σ A) (i : ℕ) (o : S.Op) (k : S.Reply o → Program S ε Unit)
    (answer : S.Reply o) (t : Thread S ε L C) : Prop where
  get_self : w.pool.threads[i]? = some t
  thread : w.prog i = some (.op o k)
  free : w.pool.blocked i (T.scheme.action o) = false
  state : w'.pool.state = (T.scheme.handler o answer w.pool.state).2
  length : w'.pool.threads.length = w.pool.threads.length
  get : ∀ j : ℕ, w'.pool.threads[j]? = if j = i then
    some ⟨t.call, (T.scheme.action o).held t.held, k (T.scheme.handler o answer w.pool.state).1⟩ else w.pool.threads[j]?
  points : w'.points = Function.update w.points i
    (T.monitor.next (w.points i) o (T.scheme.handler o answer w.pool.state).1)

variable {T} {w w' : Tracked S ε L C σ A}

namespace Acts

variable {i : ℕ} {o : S.Op} {k : S.Reply o → Program S ε Unit} {answer : S.Reply o} {t : Thread S ε L C}

theorem running (h : T.Acts w w' i o k answer t) : w.running i = true := (w.running_iff i).mpr ⟨o, k, h.thread⟩

theorem prog (h : T.Acts w w' i o k answer t) (j : ℕ) :
    w'.prog j = if j = i then some (k (T.scheme.handler o answer w.pool.state).1) else w.prog j := by
  unfold Tracked.prog
  rw [h.get]
  split_ifs <;> rfl

theorem running_of_ne (h : T.Acts w w' i o k answer t) {j : ℕ} (hj : j ≠ i) : w'.running j = w.running j := by
  unfold Tracked.running
  rw [h.prog, if_neg hj]

theorem own (h : T.Acts w w' i o k answer t) :
    w'.points i = T.monitor.next (w.points i) o (T.scheme.handler o answer w.pool.state).1 := by
  rw [h.points, Function.update_self]

theorem other (h : T.Acts w w' i o k answer t) {j : ℕ} (hj : j ≠ i) : w'.points j = w.points j := by
  rw [h.points, Function.update_of_ne hj]

end Acts

theorem prog_spawn (c : C) (j : ℕ) : (T.step w (.spawn c)).prog j =
    if j = w.pool.threads.length then some (T.scheme.program c) else w.prog j := by
  change ((w.pool.threads ++ [_])[j]?).map Thread.prog = _
  split_ifs with hj
  · rw [hj, List.getElem?_concat_length]
    rfl
  · rcases Nat.lt_or_gt_of_ne hj with hlt | hgt
    · rw [List.getElem?_append_left hlt]
      rfl
    · have hnew : (w.pool.threads ++ [⟨c, [], T.scheme.program c⟩])[j]? = none :=
        List.getElem?_eq_none (by simp; omega)
      have hold : w.prog j = none := by
        unfold Tracked.prog
        rw [List.getElem?_eq_none (Nat.le_of_lt hgt)]
        rfl
      rw [hnew, hold]
      rfl

theorem points_spawn_self (c : C) : (T.step w (.spawn c)).points w.pool.threads.length = T.start c :=
  Function.update_self _ _ _

theorem points_spawn_of_ne (c : C) {j : ℕ} (hj : j ≠ w.pool.threads.length) :
    (T.step w (.spawn c)).points j = w.points j := Function.update_of_ne hj _ _

theorem running_spawn_of_ne (c : C) {j : ℕ} (hj : j ≠ w.pool.threads.length) :
    (T.step w (.spawn c)).running j = w.running j := by
  unfold Tracked.running
  rw [prog_spawn, if_neg hj]

theorem passes_of_eq {i : ℕ} {answers : (i : S.Op) → S.Reply i} (hpoint : T.pointAfter w i answers = w.points i)
    (hstep : w.pool.step T.scheme (.run i answers) = w.pool) : Passes w (T.step w (.run i answers)) := by
  have heq : T.step w (.run i answers) = w := by
    rw [step, hpoint, Function.update_eq_self, hstep]
  rw [heq]
  exact ⟨rfl, rfl, fun _ => rfl, fun _ => rfl, fun _ _ _ h => h, rfl⟩

/-- A thread at its end drops its guards. -/
theorem passes_of_ended {i : ℕ} {answers : (i : S.Op) → S.Reply i} {t : Thread S ε L C}
    (ht : w.pool.threads[i]? = some t) (hnot : ∀ o k, t.prog ≠ .op o k) :
    Passes w (T.step w (.run i answers)) := by
  have hi : i < w.pool.threads.length := (List.getElem?_eq_some_iff.mp ht).1
  have hprog : w.prog i = some t.prog := by simp [Tracked.prog, ht]
  have hpool : w.pool.step T.scheme (.run i answers) =
      { w.pool with threads := w.pool.threads.set i { t with held := [] } } := by
    rcases hp : t.prog with _ | _ | ⟨o, k⟩
    · simp only [Pool.step, ht, hp]
    · simp only [Pool.step, ht, hp]
    · exact absurd hp (hnot o k)
  have hpoint : T.pointAfter w i answers = w.points i := by
    unfold pointAfter
    rw [hprog]
    rcases hp : t.prog with _ | _ | ⟨o, k⟩
    · rfl
    · rfl
    · exact absurd hp (hnot o k)
  have hstep : T.step w (.run i answers) =
      ⟨{ w.pool with threads := w.pool.threads.set i { t with held := [] } }, w.points⟩ := by
    rw [step, hpoint, Function.update_eq_self, hpool]
  have hget (j : ℕ) : (w.pool.threads.set i { t with held := [] })[j]? =
      if j = i then some { t with held := [] } else w.pool.threads[j]? := by
    split_ifs with hj
    · rw [hj, List.getElem?_set_self hi]
    · rw [List.getElem?_set_ne (Ne.symm hj)]
  have hsame (j : ℕ) : (T.step w (.run i answers)).prog j = w.prog j := by
    rw [hstep]
    unfold Tracked.prog
    rw [hget]
    split_ifs with hj
    · rw [hj, ht]
      rfl
    · rfl
  refine ⟨by rw [hstep], by rw [hstep]; simp, hsame, fun j => ?_, fun j t' hrunning ht' => ?_, by rw [hstep]⟩
  · rw [hstep, hget]
    split_ifs with hj
    · rw [hj, ht]
      rfl
    · rfl
  · have hj : j ≠ i := by
      rintro rfl
      obtain ⟨o, k, hop⟩ := (Tracked.running_iff _ _).mp hrunning
      rw [hsame, hprog] at hop
      exact hnot o k (Option.some.inj hop)
    rw [hstep, hget, if_neg hj] at ht'
    exact ht'

theorem step_run_cases (i : ℕ) (answers : (i : S.Op) → S.Reply i) :
    (Passes w (T.step w (.run i answers)) ∧
      ∀ o k, w.prog i = some (.op o k) → w.pool.blocked i (T.scheme.action o) = true) ∨
      ∃ o k t, T.Acts w (T.step w (.run i answers)) i o k (answers o) t := by
  cases ht : w.pool.threads[i]? with
  | none =>
    have hprog : w.prog i = none := by simp [Tracked.prog, ht]
    exact .inl ⟨passes_of_eq (by simp [pointAfter, hprog]) (by simp only [Pool.step, ht]), by simp [hprog]⟩
  | some t =>
    have hprog : w.prog i = some t.prog := by simp [Tracked.prog, ht]
    by_cases hended : ∀ o k, t.prog ≠ .op o k
    · refine .inl ⟨passes_of_ended ht hended, fun o k hop => ?_⟩
      rw [hprog] at hop
      exact absurd (Option.some.inj hop) (hended o k)
    · push Not at hended
      obtain ⟨o, k, hp⟩ := hended
      rw [hp] at hprog
      cases hblocked : w.pool.blocked i (T.scheme.action o) with
      | true =>
        refine .inl ⟨passes_of_eq (by simp [pointAfter, hprog, hblocked]) (by simp [Pool.step, ht, hp, hblocked]), ?_⟩
        intro o' k' hop
        rw [hprog] at hop
        cases hop
        exact hblocked
      | false =>
        have hstep : w.pool.step T.scheme (.run i answers) = ⟨w.pool.threads.set i { t with
            held := (T.scheme.action o).held t.held
            prog := k (T.scheme.handler o (answers o) w.pool.state).1 },
          (T.scheme.handler o (answers o) w.pool.state).2⟩ := by simp [Pool.step, ht, hp, hblocked]
        have hi : i < w.pool.threads.length := (List.getElem?_eq_some_iff.mp ht).1
        refine .inr ⟨o, k, t, ht, hprog, hblocked, congrArg Pool.state hstep, ?_, fun j => ?_, ?_⟩
        · change (w.pool.step T.scheme (.run i answers)).threads.length = _
          rw [hstep, List.length_set]
        · change (w.pool.step T.scheme (.run i answers)).threads[j]? = _
          rw [hstep]
          split_ifs with hj
          · rw [hj, List.getElem?_set_self hi]
          · rw [List.getElem?_set_ne (Ne.symm hj)]
        · simp [step, pointAfter, hprog, hblocked]

end Tracking

end VantageNet.Interaction
