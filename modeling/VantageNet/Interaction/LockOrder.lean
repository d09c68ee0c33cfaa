import VantageNet.Interaction.Pool

/-!
Deadlocks of a pool and how an order of the locks excludes them, also where some threads
take one pair of locks the other way round but never cross with those that do not.
-/

namespace VantageNet.Interaction

theorem waiting_set_empty {T L : Type} (wants : T → Option L) (holds : T → L → Prop) (rank : L → ℕ) (bound : ℕ)
    (hbound : ∀ l, rank l ≤ bound) (D : Set T) (hD : ∀ t ∈ D, ∃ l, wants t = some l ∧ ∃ u ∈ D, holds u l)
    (hrank : ∀ t ∈ D, ∀ l h, wants t = some l → holds t h → rank h < rank l) : D = ∅ := by
  by_contra hne
  obtain ⟨t, ht⟩ := Set.nonempty_iff_ne_empty.mpr hne
  -- following the holders, the wanted locks climb beyond every rank
  have hclimb : ∀ n, ∃ t ∈ D, ∃ l, wants t = some l ∧ n ≤ rank l := by
    intro n
    induction n with
    | zero =>
      obtain ⟨l, hl, -⟩ := hD t ht
      exact ⟨t, ht, l, hl, Nat.zero_le _⟩
    | succ n ih =>
      obtain ⟨t, ht, l, hl, hn⟩ := ih
      obtain ⟨l', hl', u, hu, hheld⟩ := hD t ht
      obtain rfl : l' = l := Option.some.inj (hl'.symm.trans hl)
      obtain ⟨m, hm, -⟩ := hD u hu
      have hlt := hrank u hu m l' hm hheld
      exact ⟨u, hu, m, hm, by omega⟩
  obtain ⟨t, ht, l, -, hl⟩ := hclimb (bound + 1)
  have hle := hbound l
  omega

variable {S : Signature} {ε L C σ : Type} [DecidableEq L] (W : Scheme S ε L C σ)

def Scheme.takes (l : L) (o : S.Op) : Prop := ∃ exclusive, W.action o = .acquire l exclusive

def Scheme.drops (l : L) (o : S.Op) : Prop := W.action o = .release l

def Thread.wants (t : Thread S ε L C) : Option L :=
  match t.prog with
  | .op o _ =>
    match W.action o with
    | .acquire l _ => some l
    | _ => none
  | _ => none

/-- The thread holds `a` and may come to take `b` before it drops `a`. -/
def Thread.Nests (t : Thread S ε L C) (a b : L) : Prop :=
  t.holds a ∧ Reaches (fun _ _ => True) (W.takes b) (W.drops a) t.prog

def Pool.Deadlocked (P : Pool S ε L C σ) (D : Set ℕ) : Prop :=
  D.Nonempty ∧ ∀ i ∈ D, ∃ t l, P.threads[i]? = some t ∧ t.wants W = some l ∧
    ∃ j ∈ D, j ≠ i ∧ ∃ u, P.threads[j]? = some u ∧ u.holds l

def Pool.Uncrossed (P : Pool S ε L C σ) (a b : L) : Prop :=
  ∀ (i j : ℕ) t u, i ≠ j → P.threads[i]? = some t → P.threads[j]? = some u →
    t.Nests W a b → ¬ u.Nests W b a

/-- A call takes `a` to take `b` under it only while no other call holds `b` and may take `a`
under that. -/
def Pool.EntersAlone (P : Pool S ε L C σ) (a b : L) (tick : Tick S C) : Prop :=
  ∀ i answers t o k, tick = .run i answers → P.threads[i]? = some t → t.prog = .op o k → W.takes a o →
    ∀ r, Thread.Nests W ⟨t.call, (W.action o).held t.held, k r⟩ a b →
      ∀ (j : ℕ) u, j ≠ i → P.threads[j]? = some u → ¬ u.Nests W b a

variable {W}

theorem Thread.Nests.before {t : Thread S ε L C} {o : S.Op} {k : S.Reply o → Program S ε Unit} {r : S.Reply o}
    {a b : L} (hp : t.prog = .op o k) (h : Nests W ⟨t.call, (W.action o).held t.held, k r⟩ a b)
    (ha : ¬ W.takes a o) : t.Nests W a b := by
  obtain ⟨⟨exclusive, hheld⟩, hreach⟩ := h
  have hbefore : (a, exclusive) ∈ t.held ∧ ¬ W.drops a o := by
    simp only [LockAction.held] at hheld
    cases haction : W.action o with
    | acquire l x =>
      rw [haction] at hheld
      refine ⟨?_, fun hdrops => by simp [Scheme.drops, haction] at hdrops⟩
      rcases List.mem_cons.mp hheld with heq | hmem
      · cases heq
        exact absurd ⟨_, haction⟩ ha
      · exact hmem
    | release l =>
      rw [haction] at hheld
      obtain ⟨hmem, hne⟩ := List.mem_filter.mp hheld
      refine ⟨hmem, fun hdrops => ?_⟩
      rw [Scheme.drops, haction] at hdrops
      cases hdrops
      simp at hne
    | none =>
      rw [haction] at hheld
      exact ⟨hheld, fun hdrops => by simp [Scheme.drops, haction] at hdrops⟩
  refine ⟨⟨exclusive, hbefore.1⟩, ?_⟩
  rw [hp]
  exact .inr ⟨hbefore.2, r, trivial, hreach⟩

omit [DecidableEq L] in
theorem Thread.not_nests_of_free {t : Thread S ε L C} (h : t.held = []) (a b : L) : ¬ t.Nests W a b := by
  rintro ⟨⟨x, hx⟩, -⟩
  rw [h] at hx
  cases hx

theorem Pool.step_nests {P : Pool S ε L C σ} {tick : Tick S C} {a b : L} {i : ℕ} {t : Thread S ε L C}
    (ht : (P.step W tick).threads[i]? = some t) (hnests : t.Nests W a b) :
    P.threads[i]? = some t ∨ ∃ answers u o k r, tick = .run i answers ∧ P.threads[i]? = some u ∧
      u.prog = .op o k ∧ t = ⟨u.call, (W.action o).held u.held, k r⟩ := by
  rcases step_get ht with ⟨hold, -⟩ | ⟨c, rfl, -⟩ | ⟨u, -, -, rfl, -⟩ | ⟨answers, u, o, k, htick, hran, rfl⟩
  · exact .inl hold
  · exact absurd hnests (Thread.not_nests_of_free rfl a b)
  · exact absurd hnests (Thread.not_nests_of_free rfl a b)
  · exact .inr ⟨answers, u, o, k, _, htick, hran.thread, hran.prog, rfl⟩

theorem Pool.Uncrossed.step {P : Pool S ε L C σ} {a b : L} (h : P.Uncrossed W a b) {tick : Tick S C}
    (hab : P.EntersAlone W a b tick) (hba : P.EntersAlone W b a tick) : (P.step W tick).Uncrossed W a b := by
  intro i j t u hij ht hu htn hun
  rcases step_nests ht htn with hti | ⟨answers, v, o, k, r, htick, hv, hp, rfl⟩
  · rcases step_nests hu hun with huj | ⟨answers, w, o, k, r, htick, hw, hp, rfl⟩
    · exact h i j t u hij hti huj htn hun
    · by_cases htakes : W.takes b o
      · exact hba j answers w o k htick hw hp htakes r hun i t hij hti htn
      · exact h i j t w hij hti hw htn (hun.before hp htakes)
  · rcases step_nests hu hun with huj | ⟨answers', w, o', k', r', htick', hw, hp', rfl⟩
    · by_cases htakes : W.takes a o
      · exact hab i answers v o k htick hv hp htakes r htn j u (Ne.symm hij) huj hun
      · exact h i j v u hij hv huj (htn.before hp htakes) hun
    · -- a tick runs one thread only
      cases htick.symm.trans htick'
      exact hij rfl

/-- What a thread that waits may want: a lock above all it holds, which is `b` only over nothing or
over `a`; or `a` while it holds `b` and nothing else. -/
def Thread.WaitsFor (rank : L → ℕ) (a b : L) (t : Thread S ε L C) (l : L) : Prop :=
  (∀ h, t.holds h → rank h < rank l) ∧ (l = b → t.held = [] ∨ t.holds a) ∨
    l = a ∧ t.holds b ∧ ∀ h, t.holds h → h = b

omit [DecidableEq L] in
theorem Thread.reaches_of_wants {t : Thread S ε L C} {l : L} (h : t.wants W = some l) (stop : S.Op → Prop) :
    Reaches (fun _ _ => True) (W.takes l) stop t.prog := by
  unfold Thread.wants at h
  cases hp : t.prog with
  | ret x => simp [hp] at h
  | fail e => simp [hp] at h
  | op o k =>
    simp only [hp] at h
    left
    cases haction : W.action o with
    | acquire m x =>
      simp only [haction, Option.some.injEq] at h
      exact ⟨x, h ▸ haction⟩
    | release m => simp [haction] at h
    | none => simp [haction] at h

section waiting

variable {P : Pool S ε L C σ} {a b : L} {rank : L → ℕ} {D : Set ℕ}

variable (W P a b rank D) in
/-- The members of `D` that want a lock above all they hold, and want `b` only over `a`. -/
def Pool.climbers : Set ℕ :=
  {i ∈ D | ∃ t, P.threads[i]? = some t ∧ ∀ l, t.wants W = some l →
    (∀ h, t.holds h → rank h < rank l) ∧ (l = b → t.holds a)}

variable (hwaits : ∀ (i : ℕ) t l, P.threads[i]? = some t → t.wants W = some l → t.WaitsFor rank a b l)

include hwaits

omit [DecidableEq L] in
theorem Pool.Deadlocked.holder_climbs (hD : P.Deadlocked W D) {j : ℕ} {u : Thread S ε L C} {l : L} (hj : j ∈ D)
    (hu : P.threads[j]? = some u) (hl : u.holds l) :
    j ∈ P.climbers W a b rank D ∨ l = b ∧ u.wants W = some a := by
  obtain ⟨t, m, ht, hm, -⟩ := hD.2 j hj
  obtain rfl : t = u := Option.some.inj (ht.symm.trans hu)
  have hheld : t.held ≠ [] := fun hnil => by simp [Thread.holds, hnil] at hl
  rcases hwaits j t m ht hm with ⟨hrank, hover⟩ | ⟨rfl, -, honly⟩
  · refine .inl ⟨hj, t, ht, fun l' hl' => ?_⟩
    obtain rfl : m = l' := Option.some.inj (hm.symm.trans hl')
    exact ⟨hrank, fun hb => (hover hb).resolve_left hheld⟩
  · exact .inr ⟨honly l hl, hm⟩

omit [DecidableEq L] in
theorem Pool.Deadlocked.climbers_empty (hD : P.Deadlocked W D) (h : P.Uncrossed W a b) (bound : ℕ)
    (hbound : ∀ l, rank l ≤ bound) : P.climbers W a b rank D = ∅ := by
  apply waiting_set_empty (fun i => P.threads[i]?.bind (Thread.wants W))
    (fun i l => ∃ t, P.threads[i]? = some t ∧ t.holds l) rank bound hbound
  · rintro i ⟨hi, t, ht, hup⟩
    obtain ⟨t', l, ht', hl, j, hj, hji, u, hu, hheld⟩ := hD.2 i hi
    obtain rfl : t' = t := Option.some.inj (ht'.symm.trans ht)
    refine ⟨l, by simp [ht, hl], j, ?_, u, hu, hheld⟩
    rcases hD.holder_climbs hwaits hj hu hheld with hclimbs | ⟨rfl, hua⟩
    · exact hclimbs
    · -- the holder of `b` wants `a`, which this thread holds
      have hnests : t'.Nests W a l := ⟨(hup l hl).2 rfl, t'.reaches_of_wants hl _⟩
      exact absurd ⟨hheld, u.reaches_of_wants hua _⟩ (h i j t' u (Ne.symm hji) ht hu hnests)
  · rintro i ⟨-, t, ht, hup⟩ l m hl ⟨t', ht', hm⟩
    obtain rfl : t' = t := Option.some.inj (ht'.symm.trans ht)
    exact (hup l (by simpa [ht] using hl)).1 m hm

omit [DecidableEq L] in
theorem Pool.Uncrossed.not_deadlocked (h : P.Uncrossed W a b) (hne : a ≠ b) (bound : ℕ)
    (hbound : ∀ l, rank l ≤ bound) : ¬ P.Deadlocked W D := by
  intro hD
  have hempty := Set.eq_empty_iff_forall_notMem.mp (hD.climbers_empty hwaits h bound hbound)
  -- following the holders twice from any member leads to a climber
  obtain ⟨i, hi⟩ := hD.1
  obtain ⟨t, l, -, -, j, hj, -, u, hu, hheld⟩ := hD.2 i hi
  rcases hD.holder_climbs hwaits hj hu hheld with hclimbs | ⟨-, hua⟩
  · exact hempty j hclimbs
  · obtain ⟨u', m, hu', hm, j', hj', -, v, hv, hheld'⟩ := hD.2 j hj
    obtain rfl : u' = u := Option.some.inj (hu'.symm.trans hu)
    obtain rfl : m = a := Option.some.inj (hm.symm.trans hua)
    rcases hD.holder_climbs hwaits hj' hv hheld' with hclimbs | ⟨hab, -⟩
    · exact hempty j' hclimbs
    · exact hne hab

end waiting

end VantageNet.Interaction
