import VantageNet.Interaction.Tracking

/-!
Threads that put items into a shared store after a look at it. A thread stands at a point,
moved by its operations the way a monitor moves: the point says what the thread has looked at
and which items are due, that is, may be written from now on. As long as no item comes due
against one that is stored unseen or due in another thread, the store stays free of conflicts.
-/

namespace VantageNet.Interaction

structure Reservation (S : Signature) (ε L C σ A X : Type) where
  scheme : Scheme S ε L C σ
  monitor : Monitor S A
  start : C → A
  stored : σ → List X
  due : A → List X
  /-- The items that come due with an operation. -/
  raised : A → S.Op → List X
  /-- A stored item that was looked at before the items of an operation come due. -/
  checked : A → S.Op → X → Bool
  conflict : X → X → Bool

variable {S : Signature} {ε L C σ A X : Type}

namespace Reservation

variable (R : Reservation S ε L C σ A X)

abbrev tracking : Tracking S ε L C σ A := ⟨R.scheme, R.monitor, R.start⟩

def dueBeside (w : Tracked S ε L C σ A) (i : ℕ) : List X :=
  ((List.range w.pool.threads.length).filter (fun j => j ≠ i && w.running j)).flatMap (fun j => R.due (w.points j))

theorem mem_dueBeside {w : Tracked S ε L C σ A} {i : ℕ} {y : X} :
    y ∈ R.dueBeside w i ↔ ∃ j, j ≠ i ∧ w.running j = true ∧ y ∈ R.due (w.points j) := by
  simp only [dueBeside, List.mem_flatMap, List.mem_filter, List.mem_range, Bool.and_eq_true, decide_eq_true_eq]
  constructor
  · rintro ⟨j, ⟨-, hj, hrunning⟩, hy⟩
    exact ⟨j, hj, hrunning, hy⟩
  · rintro ⟨j, hj, hrunning, hy⟩
    exact ⟨j, ⟨w.lt_of_running hrunning, hj, hrunning⟩, hy⟩

/-- What the operations that the monitor lets pass keep: `I` of the store, and `K` of the store and the point of
every thread. They store nothing that was not due, and an operation with which items come due stores none. -/
structure Lawful (I : σ → Prop) (K : σ → A → Prop) : Prop where
  symm : ∀ x y, R.conflict x y = R.conflict y x
  may : ∀ s o r, R.monitor.may o (R.scheme.handler o r s).1
  world : ∀ s a o r, I s → R.monitor.ok a o → I (R.scheme.handler o r s).2
  own : ∀ s a o r, K s a → R.monitor.ok a o →
    K (R.scheme.handler o r s).2 (R.monitor.next a o (R.scheme.handler o r s).1)
  other : ∀ s a b o r, R.monitor.ok a o → K s b → K (R.scheme.handler o r s).2 b
  stored : ∀ s a o r, I s → K s a → R.monitor.ok a o → ∀ y ∈ R.stored (R.scheme.handler o r s).2,
    y ∈ R.stored s ∨ y ∈ R.due a ∧ R.raised a o = []
  due : ∀ a o r, ∀ x ∈ R.due (R.monitor.next a o r), x ∈ R.due a ∨ x ∈ R.raised a o
  alone : ∀ s a, K s a → ∀ x ∈ R.due a, ∀ y ∈ R.due a, R.conflict x y = false
  checked : ∀ a o, R.monitor.ok a o → ∀ x ∈ R.raised a o, ∀ y, R.checked a o y = true → R.conflict x y = false

structure Sound (I : σ → Prop) (K : σ → A → Prop) (w : Tracked S ε L C σ A) : Prop where
  world : I w.pool.state
  follows : ∀ i p, w.prog i = some p → Follows R.monitor (fun _ _ => True) (w.points i) p
  knows : ∀ i p, w.prog i = some p → K w.pool.state (w.points i)
  stored : ∀ x ∈ R.stored w.pool.state, ∀ y ∈ R.stored w.pool.state, R.conflict x y = false
  ahead : ∀ i, w.running i = true → ∀ x ∈ R.due (w.points i), ∀ y ∈ R.stored w.pool.state, R.conflict x y = false
  apart : ∀ i j, i ≠ j → w.running i = true → w.running j = true →
    ∀ x ∈ R.due (w.points i), ∀ y ∈ R.due (w.points j), R.conflict x y = false

/-- The call keeps to what the monitor lets pass. -/
def Admits (K : σ → A → Prop) (w : Tracked S ε L C σ A) (tick : Tick S C) : Prop :=
  ∀ c, tick = .spawn c → Follows R.monitor (fun _ _ => True) (R.start c) (R.scheme.program c) ∧
    K w.pool.state (R.start c)

section sound

variable {R} {w : Tracked S ε L C σ A} {I : σ → Prop} {K : σ → A → Prop}

theorem Sound.of_passes {w' : Tracked S ε L C σ A} (h : R.Sound I K w) (hpass : Tracking.Passes w w') : R.Sound I K w' := by
  have hrunning (i : ℕ) : w'.running i = w.running i := by
    unfold Tracked.running
    rw [hpass.prog i]
  constructor
  · rw [hpass.state]
    exact h.world
  · intro i p hp
    rw [hpass.points]
    exact h.follows i p (hpass.prog i ▸ hp)
  · intro i p hp
    rw [hpass.state, hpass.points]
    exact h.knows i p (hpass.prog i ▸ hp)
  · rw [hpass.state]
    exact h.stored
  · intro i hi
    rw [hpass.state, hpass.points]
    exact h.ahead i (hrunning i ▸ hi)
  · intro i j hij hi hj
    rw [hpass.points]
    exact h.apart i j hij (hrunning i ▸ hi) (hrunning j ▸ hj)

theorem sound_start {s : σ} (points : ℕ → A) (hworld : I s)
    (hstored : ∀ x ∈ R.stored s, ∀ y ∈ R.stored s, R.conflict x y = false) :
    R.Sound I K ⟨⟨[], s⟩, points⟩ := by
  have hnone (i : ℕ) : (⟨⟨[], s⟩, points⟩ : Tracked S ε L C σ A).prog i = none := rfl
  have hidle (i : ℕ) : (⟨⟨[], s⟩, points⟩ : Tracked S ε L C σ A).running i = false := rfl
  refine ⟨hworld, fun i p hp => ?_, fun i p hp => ?_, hstored, fun i hi => ?_, fun i j _ hi => ?_⟩
  · cases (hnone i).symm.trans hp
  · cases (hnone i).symm.trans hp
  · cases (hidle i).symm.trans hi
  · cases (hidle i).symm.trans hi

end sound

variable [DecidableEq L]

def pointAfter (w : Tracked S ε L C σ A) (i : ℕ) (answers : (i : S.Op) → S.Reply i) : A :=
  match w.prog i with
  | some (.op o _) =>
    if w.pool.blocked i (R.scheme.action o) then w.points i
    else R.monitor.next (w.points i) o (R.scheme.handler o (answers o) w.pool.state).1
  | _ => w.points i

def step (w : Tracked S ε L C σ A) : Tick S C → Tracked S ε L C σ A
  | .spawn c => ⟨w.pool.step R.scheme (.spawn c), Function.update w.points w.pool.threads.length (R.start c)⟩
  | .run i answers => ⟨w.pool.step R.scheme (.run i answers), Function.update w.points i (R.pointAfter w i answers)⟩

/-- Items of the `i`-th thread against which nothing is stored that was not `checked`, and nothing is due. -/
def Unopposed (w : Tracked S ε L C σ A) (i : ℕ) (items : List X) (checked : X → Bool) : Prop :=
  (∀ x ∈ items, ∀ y ∈ R.stored w.pool.state, R.conflict x y = true → checked y = true) ∧
  ∀ x ∈ items, ∀ y ∈ R.dueBeside w i, R.conflict x y = false

instance (w : Tracked S ε L C σ A) (i : ℕ) (items : List X) (checked : X → Bool) :
    Decidable (R.Unopposed w i items checked) :=
  inferInstanceAs (Decidable ((∀ x ∈ items, ∀ y ∈ R.stored w.pool.state, _ → _ = true) ∧
    ∀ x ∈ items, ∀ y ∈ R.dueBeside w i, R.conflict x y = false))

def ClearAt (w : Tracked S ε L C σ A) (i : ℕ) : Program S ε Unit → Prop
  | .op o _ => w.pool.blocked i (R.scheme.action o) = false →
      R.Unopposed w i (R.raised (w.points i) o) (R.checked (w.points i) o)
  | _ => True

instance (w : Tracked S ε L C σ A) (i : ℕ) : (p : Program S ε Unit) → Decidable (R.ClearAt w i p)
  | .op _ _ => inferInstanceAs (Decidable (_ → _))
  | .ret _ => .isTrue trivial
  | .fail _ => .isTrue trivial

/-- No item comes due in this step against another thread's or against a stored one that was not checked. -/
def Clear (w : Tracked S ε L C σ A) : Tick S C → Prop
  | .spawn c => R.Unopposed w w.pool.threads.length (R.due (R.start c)) (fun _ => false)
  | .run i _ => ∀ p ∈ w.prog i, R.ClearAt w i p

instance (w : Tracked S ε L C σ A) : (tick : Tick S C) → Decidable (R.Clear w tick)
  | .spawn _ => inferInstanceAs (Decidable (R.Unopposed _ _ _ _))
  | .run _ _ => inferInstanceAs (Decidable (∀ _ ∈ _, _))

variable {R} {w : Tracked S ε L C σ A}

theorem step_eq (tick : Tick S C) : R.step w tick = R.tracking.step w tick := by
  cases tick <;> rfl

variable {I : σ → Prop} {K : σ → A → Prop}

theorem Sound.spawn (h : R.Sound I K w) (hR : R.Lawful I K) {c : C} (hclear : R.Clear w (.spawn c))
    (hfollows : Follows R.monitor (fun _ _ => True) (R.start c) (R.scheme.program c))
    (hknows : K w.pool.state (R.start c)) : R.Sound I K (R.step w (.spawn c)) := by
  rw [step_eq]
  have hprog := Tracking.prog_spawn (T := R.tracking) (w := w) c
  have hnew : (R.tracking.step w (.spawn c)).points w.pool.threads.length = R.start c :=
    Tracking.points_spawn_self c
  have hold {j : ℕ} (hj : j ≠ w.pool.threads.length) : (R.tracking.step w (.spawn c)).points j = w.points j :=
    Tracking.points_spawn_of_ne c hj
  have hrunning {j : ℕ} (hj : j ≠ w.pool.threads.length) :
      (R.tracking.step w (.spawn c)).running j = w.running j := Tracking.running_spawn_of_ne c hj
  have hbeside {j : ℕ} (hj : j ≠ w.pool.threads.length) (hrun : (R.tracking.step w (.spawn c)).running j = true) {x y : X}
      (hx : x ∈ R.due (R.start c)) (hy : y ∈ R.due (w.points j)) : R.conflict x y = false :=
    hclear.2 x hx y (R.mem_dueBeside.mpr ⟨j, hj, hrunning hj ▸ hrun, hy⟩)
  constructor
  · exact h.world
  · intro i p hp
    rw [hprog] at hp
    split_ifs at hp with hi
    · cases hp
      rw [hi, hnew]
      exact hfollows
    · rw [hold hi]
      exact h.follows i p hp
  · intro i p hp
    rw [hprog] at hp
    split_ifs at hp with hi
    · rw [hi, hnew]
      exact hknows
    · rw [hold hi]
      exact h.knows i p hp
  · exact h.stored
  · intro i hi x hx y hy
    by_cases hlast : i = w.pool.threads.length
    · rw [hlast, hnew] at hx
      cases hconflict : R.conflict x y with
      | false => rfl
      | true => cases hclear.1 x hx y hy hconflict
    · rw [hold hlast] at hx
      exact h.ahead i (hrunning hlast ▸ hi) x hx y hy
  · intro i j hij hi hj x hx y hy
    by_cases hlast : i = w.pool.threads.length
    · have hother : j ≠ w.pool.threads.length := fun hj => hij (hlast.trans hj.symm)
      rw [hlast, hnew] at hx
      rw [hold hother] at hy
      exact hbeside hother hj hx hy
    · rw [hold hlast] at hx
      by_cases hother : j = w.pool.threads.length
      · rw [hother, hnew] at hy
        rw [hR.symm]
        exact hbeside hlast hi hy hx
      · rw [hold hother] at hy
        exact h.apart i j hij (hrunning hlast ▸ hi) (hrunning hother ▸ hj) x hx y hy

theorem Sound.act (h : R.Sound I K w) (hR : R.Lawful I K) {w' : Tracked S ε L C σ A} {i : ℕ} {o : S.Op}
    {k : S.Reply o → Program S ε Unit} {answer : S.Reply o} {t : Thread S ε L C}
    (hacts : R.tracking.Acts w w' i o k answer t)
    (hclear : R.Unopposed w i (R.raised (w.points i) o) (R.checked (w.points i) o)) : R.Sound I K w' := by
  obtain ⟨hok, hfollows⟩ := h.follows i _ hacts.thread
  have hknows := h.knows i _ hacts.thread
  have hi := hacts.running
  have hown : w'.points i = R.monitor.next (w.points i) o (R.scheme.handler o answer w.pool.state).1 := hacts.own
  have hother {j : ℕ} (hj : j ≠ i) : w'.points j = w.points j := hacts.other hj
  have hrunning {j : ℕ} (hj : j ≠ i) : w'.running j = w.running j := hacts.running_of_ne hj
  have hdue {x : X} (hx : x ∈ R.due (w'.points i)) :
      x ∈ R.due (w.points i) ∨ x ∈ R.raised (w.points i) o := hR.due _ _ _ x (hown ▸ hx)
  have hstored {y : X} (hy : y ∈ R.stored w'.pool.state) :
      y ∈ R.stored w.pool.state ∨ y ∈ R.due (w.points i) ∧ R.raised (w.points i) o = [] :=
    hR.stored _ _ _ _ h.world hknows hok y (hacts.state ▸ hy)
  constructor
  · rw [hacts.state]
    exact hR.world _ _ _ _ h.world hok
  · intro j p hp
    rw [hacts.prog] at hp
    split_ifs at hp with hj
    · cases hp
      rw [hj, hown]
      exact hfollows _ (hR.may _ _ _)
    · rw [hother hj]
      exact h.follows j p hp
  · intro j p hp
    rw [hacts.prog] at hp
    rw [hacts.state]
    split_ifs at hp with hj
    · rw [hj, hown]
      exact hR.own _ _ _ _ hknows hok
    · rw [hother hj]
      exact hR.other _ _ _ _ _ hok (h.knows j p hp)
  · intro x hx y hy
    rcases hstored hx with hx | ⟨hx, -⟩ <;> rcases hstored hy with hy | ⟨hy, -⟩
    · exact h.stored x hx y hy
    · rw [hR.symm]
      exact h.ahead i hi y hy x hx
    · exact h.ahead i hi x hx y hy
    · exact hR.alone _ _ hknows x hx y hy
  · intro j hj x hx y hy
    by_cases hji : j = i
    · subst hji
      rcases hdue hx with hx | hx <;> rcases hstored hy with hy | ⟨hy, hnone⟩
      · exact h.ahead j hi x hx y hy
      · exact hR.alone _ _ hknows x hx y hy
      · cases hconflict : R.conflict x y with
        | false => rfl
        | true => exact hconflict.symm.trans (hR.checked _ o hok x hx y (hclear.1 x hx y hy hconflict))
      · rw [hnone] at hx
        cases hx
    · rw [hother hji] at hx
      rw [hrunning hji] at hj
      rcases hstored hy with hy | ⟨hy, -⟩
      · exact h.ahead j hj x hx y hy
      · exact h.apart j i hji hj hi x hx y hy
  · have hbeside {j : ℕ} (hj : j ≠ i) (hrun : w'.running j = true) {x y : X} (hx : x ∈ R.due (w'.points i))
        (hy : y ∈ R.due (w'.points j)) : R.conflict x y = false := by
      rw [hother hj] at hy
      rw [hrunning hj] at hrun
      rcases hdue hx with hx | hx
      · exact h.apart i j (Ne.symm hj) hi hrun x hx y hy
      · exact hclear.2 x hx y (R.mem_dueBeside.mpr ⟨j, hj, hrun, hy⟩)
    intro j l hjl hj hl x hx y hy
    by_cases hji : j = i
    · subst hji
      exact hbeside (Ne.symm hjl) hl hx hy
    · by_cases hli : l = i
      · subst hli
        rw [hR.symm]
        exact hbeside hji hj hy hx
      · rw [hother hji] at hx
        rw [hother hli] at hy
        exact h.apart j l hjl (hrunning hji ▸ hj) (hrunning hli ▸ hl) x hx y hy

theorem Sound.step (h : R.Sound I K w) (hR : R.Lawful I K) {tick : Tick S C} (hadmits : R.Admits K w tick)
    (hclear : R.Clear w tick) : R.Sound I K (R.step w tick) := by
  cases tick with
  | spawn c => exact h.spawn hR hclear (hadmits c rfl).1 (hadmits c rfl).2
  | run i answers =>
    rw [step_eq]
    rcases Tracking.step_run_cases (T := R.tracking) (w := w) i answers with ⟨hpass, -⟩ | ⟨o, k, t, hacts⟩
    · exact h.of_passes hpass
    · exact h.act hR hacts (hclear _ hacts.thread hacts.free)

/-- The store stays free of conflicts in every state that clear steps lead to. -/
theorem Lawful.conflict_free (hR : R.Lawful I K) {s : σ} {points : ℕ → A} (hworld : I s)
    (hstored : ∀ x ∈ R.stored s, ∀ y ∈ R.stored s, R.conflict x y = false) {ticks : List (Tick S C)}
    (h : Meets R.step (fun w tick => R.Admits K w tick ∧ R.Clear w tick) ⟨⟨[], s⟩, points⟩ ticks) :
    ∀ x ∈ R.stored (ticks.foldl R.step ⟨⟨[], s⟩, points⟩).pool.state,
      ∀ y ∈ R.stored (ticks.foldl R.step ⟨⟨[], s⟩, points⟩).pool.state, R.conflict x y = false :=
  (h.invariant (R.Sound I K) (fun _ _ hw htick => hw.step hR htick.1 htick.2)
    (sound_start points hworld hstored)).stored

end Reservation

end VantageNet.Interaction
