import VantageNet.Interaction.LockOrder
import VantageNet.Discovery.LockDiscipline

/-!
Calls of the service that run interleaved wait for each other in a circle only where
`get_sessions_for_daemon`, which takes `sessions` under `daemon_sessions`, meets one that
takes them the other way round.
-/

namespace VantageNet

open Interaction Interaction.Program

def callScheme : Scheme serviceSig Error Lock Call Store := ⟨Call.program, lockAction, serviceStep⟩

abbrev CallPool := Pool serviceSig Error Lock Call Store

def InOrder (t : CallThread) : Prop :=
  Follows (lockMonitor t.call.takes) (fun _ _ => True) (t.held.map Prod.fst) t.prog

theorem map_held (held : List (Lock × Bool)) (o : ServiceOp) :
    ((lockAction o).held held).map Prod.fst = heldAfter (held.map Prod.fst) o := by
  cases o with
  | release lock =>
    simp only [lockAction, LockAction.held, heldAfter, List.filter_map]
    rfl
  | _ => rfl

theorem inOrder_step {P : CallPool} (h : ∀ (i : ℕ) t, P.threads[i]? = some t → InOrder t)
    (tick : Tick serviceSig Call) (i : ℕ) (t : CallThread)
    (ht : (P.step callScheme tick).threads[i]? = some t) : InOrder t := by
  refine Pool.threads_step (W := callScheme) (T := fun _ t => InOrder t) tick h program_follows ?_ ?_ ?_ i t ht
  · rintro ⟨call, held, prog⟩ - hend
    cases prog with
    | ret x => trivial
    | fail e => trivial
    | op o k => exact absurd rfl (hend o k)
  · intro i answers t o k _ hran hordered
    rw [InOrder, hran.prog] at hordered
    have hrest := hordered.2 (serviceStep o (answers o) P.state).1 trivial
    change Follows _ _ (heldAfter (t.held.map Prod.fst) o) _ at hrest
    rw [← map_held] at hrest
    exact hrest
  · intro _ _ _ _ _ _ _ j u _ _ hordered
    exact hordered

theorem holds_iff (t : CallThread) (l : Lock) : t.holds l ↔ l ∈ t.held.map Prod.fst := by
  simp only [Thread.holds, List.mem_map, Prod.exists, exists_and_right, exists_eq_right]

theorem waitsFor_of_inOrder {t : CallThread} (h : InOrder t) {l : Lock} (hl : t.wants callScheme = some l) :
    t.WaitsFor Lock.rank .sessions .daemonSessions l := by
  rcases t with ⟨call, held, _ | _ | ⟨o, k⟩⟩
  · cases hl
  · cases hl
  -- only an acquisition wants a lock
  cases o <;> cases hl
  have htakes : call.takes (held.map Prod.fst) l := h.1
  unfold Call.takes at htakes
  split_ifs at htakes
  · rcases htakes with ⟨rfl, hheld⟩ | ⟨rfl, hheld⟩
    · obtain rfl := List.map_eq_nil_iff.mp hheld
      refine .inl ⟨?_, fun _ => .inl rfl⟩
      rintro m ⟨x, hx⟩
      cases hx
    · refine .inr ⟨rfl, ?_, ?_⟩
      · rw [holds_iff, hheld]
        exact List.mem_singleton_self _
      · intro m hm
        rw [holds_iff, hheld] at hm
        exact List.mem_singleton.mp hm
  · refine .inl ⟨?_, ?_⟩
    · intro m hm
      exact htakes.1 m ((holds_iff _ m).mp hm)
    · intro hlock
      rcases htakes.2 hlock with hnil | hsessions
      · exact .inl (List.map_eq_nil_iff.mp hnil)
      · exact .inr ((holds_iff _ _).mpr hsessions)

theorem Lock.rank_le (l : Lock) : l.rank ≤ 4 := by
  cases l <;> decide

/-- What a tick has to meet: no two calls come to hold `sessions` and `daemon_sessions`, one each,
while both may still take the other one. -/
def Apart (P : CallPool) (tick : Tick serviceSig Call) : Prop :=
  P.EntersAlone callScheme .sessions .daemonSessions tick ∧ P.EntersAlone callScheme .daemonSessions .sessions tick

structure Ordered (P : CallPool) : Prop where
  inOrder : ∀ (i : ℕ) t, P.threads[i]? = some t → InOrder t
  uncrossed : P.Uncrossed callScheme .sessions .daemonSessions

theorem ordered_empty (σ : Store) : Ordered ⟨[], σ⟩ := by
  constructor
  · intro i t ht
    cases ht
  · intro i j t u _ ht
    cases ht

theorem Ordered.step {P : CallPool} (h : Ordered P) {tick : Tick serviceSig Call} (htick : Apart P tick) :
    Ordered (P.step callScheme tick) :=
  ⟨inOrder_step h.inOrder tick, h.uncrossed.step htick.1 htick.2⟩

theorem Ordered.not_deadlocked {P : CallPool} (h : Ordered P) (D : Set ℕ) : ¬ P.Deadlocked callScheme D := by
  refine Pool.Uncrossed.not_deadlocked ?_ h.uncrossed (by decide) 4 Lock.rank_le
  intro i t l ht hl
  exact waitsFor_of_inOrder (h.inOrder i t ht) hl

theorem calls_not_deadlocked (σ : Store) (ticks : List (Tick serviceSig Call))
    (h : Meets (Pool.step callScheme) Apart ⟨[], σ⟩ ticks) (D : Set ℕ) :
    ¬ (ticks.foldl (Pool.step callScheme) ⟨[], σ⟩).Deadlocked callScheme D := by
  have hordered := h.invariant Ordered (fun _ _ hP htick => hP.step htick) (ordered_empty σ)
  exact hordered.not_deadlocked D

def OthersFree (P : CallPool) : Tick serviceSig Call → Bool
  | .spawn _ => true
  | .run i _ => P.threads.zipIdx.all (fun (t, j) => j = i || t.held.isEmpty)

theorem apart_of_othersFree {P : CallPool} {tick : Tick serviceSig Call} (h : OthersFree P tick = true) :
    Apart P tick := by
  have hfree (i : ℕ) (answers : (o : ServiceOp) → o.Reply) (htick : tick = .run i answers) (j : ℕ) (u : CallThread)
      (hji : j ≠ i) (hu : P.threads[j]? = some u) : u.held = [] := by
    subst htick
    have hmem : (u, j) ∈ P.threads.zipIdx := List.mk_mem_zipIdx_iff_getElem?.mpr hu
    simpa [hji] using List.all_eq_true.mp h (u, j) hmem
  constructor
  · intro i answers t o k htick _ _ _ r _ j u hji hu
    exact Thread.not_nests_of_free (hfree i answers htick j u hji hu) _ _
  · intro i answers t o k htick _ _ _ r _ j u hji hu
    exact Thread.not_nests_of_free (hfree i answers htick j u hji hu) _ _

def crossing : List (Tick serviceSig Call) :=
  [.spawn (.getSessionsForDaemon 7), .spawn (.updateSession (reportOf 1 7 .scanning))] ++
    [0, 0, 1, 1, 1, 1, 1].map (fun i => .run i (calm 1 0 .pull 0))

def oneByOne : List (Tick serviceSig Call) :=
  [.spawn (.getSessionsForDaemon 7), .spawn (.updateSession (reportOf 1 7 .scanning))] ++
    [0, 0, 0, 0, 0, 0, 1, 1, 1, 1, 1, 1].map (fun i => .run i (calm 1 0 .pull 0))

theorem calls_not_deadlocked_one_by_one :
    ¬ (oneByOne.foldl (Pool.step callScheme) ⟨[], .empty⟩).Deadlocked callScheme {0, 1} := by
  apply calls_not_deadlocked
  have hfree : Meets (Pool.step callScheme) (fun P tick => OthersFree P tick = true) ⟨[], .empty⟩ oneByOne := by
    decide
  exact hfree.imp (fun _ _ h => apart_of_othersFree h)

theorem listing_and_update_deadlock :
    (crossing.foldl (Pool.step callScheme) ⟨[], .empty⟩).Deadlocked callScheme {0, 1} ∧
      ∀ i ∈ ({0, 1} : Set ℕ), ∀ answers,
        (crossing.foldl (Pool.step callScheme) ⟨[], .empty⟩).step callScheme (.run i answers) =
          crossing.foldl (Pool.step callScheme) ⟨[], .empty⟩ := by
  refine ⟨⟨⟨0, by simp⟩, ?_⟩, ?_⟩
  · rintro i (rfl | rfl)
    · exact ⟨_, _, rfl, rfl, 1, by simp, by decide, _, rfl, true, by decide⟩
    · exact ⟨_, _, rfl, rfl, 0, by simp, by decide, _, rfl, false, by decide⟩
  · rintro i (rfl | rfl) answers
    · rfl
    · rfl

end VantageNet
