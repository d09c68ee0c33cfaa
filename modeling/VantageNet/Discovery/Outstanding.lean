import VantageNet.Discovery.LockDiscipline
import VantageNet.Discovery.Dispatch

/-!
One session at a time is sent to a push daemon, and it is the head of the daemon's queue,
as long as nothing comes between the look at the queue and the request.
-/

namespace VantageNet

open Interaction Interaction.Program

/-- The store together with the requests sent so far whose session has not left the queue since. -/
structure SendState where
  store : Store
  outstanding : List (Uuid × Uuid)

def outstandingAfter (outstanding : List (Uuid × Uuid)) : ServiceOp → List (Uuid × Uuid)
  | .postInitiate d request => (d, request.sessionId) :: outstanding
  | .queueRetain d s => outstanding.filter (fun e => e ≠ (d, s))
  | _ => outstanding

def trackStep : Handler serviceSig SendState := fun i answer τ =>
  ((serviceStep i answer τ.store).1, ⟨(serviceStep i answer τ.store).2, outstandingAfter τ.outstanding i⟩)

def sendScheme : Scheme serviceSig Error Lock Call SendState := ⟨Call.program, lockAction, trackStep⟩

abbrev SendPool := Pool serviceSig Error Lock Call SendState

def SendState.head (τ : SendState) (d : Uuid) : Option Uuid := (τ.store.queue d).head?

def ServiceOp.movesQueue : ServiceOp → Prop
  | .queuePush _ _ | .queueRetain _ _ => True
  | _ => False

def ServiceOp.sends (d s : Uuid) : ServiceOp → Prop
  | .postInitiate e request => e = d ∧ request.sessionId = s
  | _ => False

/-- The rest `p` of a call may come to send `s` to `d` before it changes a queue again. -/
def Dispatches (c : Call) (p : Service Unit) (d s : Uuid) : Prop :=
  Reaches c.expects (ServiceOp.sends d s) ServiceOp.movesQueue p

/-- What a tick has to meet. A session is put into a queue by a call that means to send it only if that
queue is empty; it leaves a queue only while no other call is about to send it; and the session a
terminal update is about belongs to the daemon the update names. -/
structure Undisturbed (P : SendPool) (tick : Tick serviceSig Call) : Prop where
  push : ∀ i answers t d s k, tick = .run i answers → P.threads[i]? = some t →
    t.prog = .op (ServiceOp.queuePush d s) k → (∃ e s', Dispatches t.call (k ()) e s') →
      P.state.store.queue d = []
  retain : ∀ i answers t d s k, tick = .run i answers → P.threads[i]? = some t →
    t.prog = .op (ServiceOp.queueRetain d s) k →
      ∀ (j : ℕ) u, j ≠ i → P.threads[j]? = some u → ¬ Dispatches u.call u.prog d s
  report : ∀ i answers t update k, tick = .run i answers → P.threads[i]? = some t →
    t.call = .updateSession update → update.phase.isTerminal = true →
    t.prog = .op (ServiceOp.sessionsGet update.sessionId) k →
      ∀ p, P.state.store.sessions.get update.sessionId = some p → p.daemonId = update.daemonId

theorem queue_push (σ : Store) (a : Unit) (d e s : Uuid) :
    (serviceStep (.queuePush d s) a σ).2.queue e = if e = d then σ.queue d ++ [s] else σ.queue e :=
  queue_insert σ.daemonSessions d e (σ.queue d ++ [s])

theorem queue_retained (σ : Store) (a : Option (List Uuid)) (d e s : Uuid) :
    (serviceStep (.queueRetain d s) a σ).2.queue e =
      if e = d then (σ.queue d).filter (fun k => k ≠ s) else σ.queue e :=
  queue_retain σ.daemonSessions d e s

theorem serviceStep_frame (o : ServiceOp) (a : o.Reply) (σ : Store) :
    (∃ s session, o = .sessionsInsert s session) ∨ (∃ s, o = .sessionsRemove s) ∨ o.movesQueue ∨
      (serviceStep o a σ).2.sessions = σ.sessions ∧ (serviceStep o a σ).2.daemonSessions = σ.daemonSessions := by
  cases o with
  | sessionsInsert s session => exact .inl ⟨s, session, rfl⟩
  | sessionsRemove s => exact .inr (.inl ⟨s, rfl⟩)
  | queuePush d s => exact .inr (.inr (.inl trivial))
  | queueRetain d s => exact .inr (.inr (.inl trivial))
  | discoveryCreate r =>
    rcases a with e | ⟨⟩
    · exact .inr (.inr (.inr ⟨rfl, rfl⟩))
    · simp only [serviceStep, Store.insertRow]
      split_ifs <;> exact .inr (.inr (.inr ⟨rfl, rfl⟩))
  | discoveryUpdate r =>
    rcases a with e | ⟨⟩
    · exact .inr (.inr (.inr ⟨rfl, rfl⟩))
    · simp only [serviceStep, Store.updateRow]
      split_ifs <;> exact .inr (.inr (.inr ⟨rfl, rfl⟩))
  | discoveryDelete id => rcases a with e | ⟨⟩ <;> exact .inr (.inr (.inr ⟨rfl, rfl⟩))
  | schedulerAdd job => rcases a with e | id <;> exact .inr (.inr (.inr ⟨rfl, rfl⟩))
  | schedulerRemove id => rcases a with e | ⟨⟩ <;> exact .inr (.inr (.inr ⟨rfl, rfl⟩))
  | _ => exact .inr (.inr (.inr ⟨rfl, rfl⟩))

theorem queue_unmoved {o : ServiceOp} (h : ¬ o.movesQueue) (a : o.Reply) (σ : Store) (d : Uuid) :
    (serviceStep o a σ).2.queue d = σ.queue d := by
  rcases serviceStep_frame o a σ with ⟨s, session, rfl⟩ | ⟨s, rfl⟩ | hmoves | ⟨-, hqueues⟩
  · rfl
  · rfl
  · exact absurd hmoves h
  · rw [Store.queue, hqueues]
    rfl

theorem keyed_step {σ : Store} (h : σ.Keyed) {c : Call} {turn : Option (Uuid × Uuid)} {o : ServiceOp}
    (hok : (dispatchMonitor c).ok turn o) (a : o.Reply) : (serviceStep o a σ).2.Keyed := by
  rcases serviceStep_frame o a σ with ⟨s, session, rfl⟩ | ⟨s, rfl⟩ | hmoves | ⟨hsessions, -⟩
  · obtain rfl : session.sessionId = s := hok
    exact h.insert session rfl
  · intro j p hp
    simp only [serviceStep, get_erase] at hp
    split_ifs at hp
    exact h j p hp
  · cases o <;> first | exact hmoves.elim | exact h.congr rfl
  · exact h.congr hsessions

structure Sending (P : SendPool) : Prop where
  keyed : P.state.store.Keyed
  follows : ∀ (i : ℕ) t, P.threads[i]? = some t →
    ∃ turn, Follows (dispatchMonitor t.call) (fun _ _ => True) turn t.prog
  dispatching : ∀ (i : ℕ) t, P.threads[i]? = some t →
    ∀ d s, Dispatches t.call t.prog d s → P.state.head d = some s
  outstanding : ∀ d s, (d, s) ∈ P.state.outstanding → P.state.head d = some s

theorem sending_empty : Sending ⟨[], ⟨.empty, []⟩⟩ where
  keyed := empty_keyed
  follows _ _ ht := nomatch ht
  dispatching _ _ ht := nomatch ht
  outstanding _ _ h := nomatch h

theorem Dispatches.turn_eq {c : Call} {p : Service Unit} {d s : Uuid} {turn : Option (Uuid × Uuid)}
    (h : Dispatches c p d s) (hp : Follows (dispatchMonitor c) (fun _ _ => True) turn p) : turn = some (d, s) := by
  have hnext : ∀ a i r, ¬ ServiceOp.movesQueue i → (dispatchMonitor c).next a i r = a := by
    intro a i r hi
    cases i <;> first | rfl | exact absurd trivial hi
  obtain ⟨o, hsends, hok⟩ := hp.ok_of_reaches hnext h
  cases o <;> first | exact hsends.elim | obtain ⟨rfl, rfl⟩ := hsends
  exact hok

section step

variable {P : SendPool} {tick : Tick serviceSig Call} {i : ℕ} {answers : (o : ServiceOp) → o.Reply}
  {t : CallThread} {o : ServiceOp} {k : o.Reply → Service Unit}

theorem Sending.expects (h : Sending P) (htick : Undisturbed P tick) (hrun : tick = .run i answers)
    (hran : Pool.Ran sendScheme P (P.step sendScheme tick) i answers t o k) :
    t.call.expects o (serviceStep o (answers o) P.state.store).1 := by
  cases o with
  | sessionsGet s =>
    intro p hp
    refine ⟨h.keyed s p hp, ?_⟩
    rintro update hcall hphase rfl
    exact htick.report i answers t update k hrun hran.thread hcall hphase hran.prog p hp
  | _ => trivial

theorem head_push {τ : SendState} {d e s s' : Uuid} (h : τ.head e = some s') (a : Unit) :
    (trackStep (.queuePush d s) a τ).2.head e = some s' := by
  simp only [SendState.head, trackStep, queue_push]
  split_ifs with he
  · subst he
    exact head?_push h
  · exact h

theorem head_retain {τ : SendState} {d e s s' : Uuid} (h : τ.head e = some s') (hne : (e, s') ≠ (d, s))
    (a : Option (List Uuid)) : (trackStep (.queueRetain d s) a τ).2.head e = some s' := by
  simp only [SendState.head, trackStep, queue_retained]
  split_ifs with he
  · subst he
    apply head?_filter h
    simpa using fun hs : s' = s => hne (by rw [hs])
  · exact h

theorem head_unmoved {τ : SendState} (ho : ¬ o.movesQueue) (a : o.Reply) (e : Uuid) :
    (trackStep o a τ).2.head e = τ.head e := by
  simp only [SendState.head, trackStep, queue_unmoved ho]

theorem head_of_retained {τ : SendState} {d s s' : Uuid} {a : Option (List Uuid)}
    (h : (trackStep (.queueRetain d s) a τ).1.bind List.head? = some s') :
    (trackStep (.queueRetain d s) a τ).2.head d = some s' := by
  obtain ⟨queue, hqueue, hhead⟩ := Option.bind_eq_some_iff.mp h
  have hget : (retainQueue τ.store.daemonSessions d s).get d = some queue := hqueue
  simp only [SendState.head, trackStep, serviceStep, Store.queue, hget, Option.getD_some, hhead]

theorem Sending.keyed_step (h : Sending P) (tick : Tick serviceSig Call) :
    (P.step sendScheme tick).state.store.Keyed := by
  rcases P.state_step (W := sendScheme) tick with hstate | ⟨i, answers, t, o, k, -, hran⟩
  · rw [hstate]
    exact h.keyed
  · obtain ⟨turn, hfollows⟩ := h.follows i t hran.thread
    rw [hran.prog] at hfollows
    rw [hran.state_eq]
    exact VantageNet.keyed_step h.keyed hfollows.1 (answers o)

theorem Sending.follows_step (h : Sending P) (htick : Undisturbed P tick) (i : ℕ) (t : CallThread)
    (ht : (P.step sendScheme tick).threads[i]? = some t) :
    ∃ turn, Follows (dispatchMonitor t.call) (fun _ _ => True) turn t.prog := by
  refine Pool.threads_step (W := sendScheme)
    (T := fun _ t => ∃ turn, Follows (dispatchMonitor t.call) (fun _ _ => True) turn t.prog)
    tick h.follows ?_ ?_ ?_ ?_ i t ht
  · intro c
    exact ⟨none, program_dispatches c⟩
  · intro t hfollows _
    exact hfollows
  · rintro i answers t o k hrun hran ⟨turn, hfollows⟩
    rw [hran.prog] at hfollows
    exact ⟨_, hfollows.2 _ (h.expects htick hrun hran)⟩
  · intro _ _ _ _ _ _ _ j u _ _ hfollows
    exact hfollows

theorem Sending.dispatching_own (h : Sending P) (htick : Undisturbed P tick) (hrun : tick = .run i answers)
    (hran : Pool.Ran sendScheme P (P.step sendScheme tick) i answers t o k) {d s : Uuid}
    (hd : Dispatches t.call (k (trackStep o (answers o) P.state).1) d s) :
    (trackStep o (answers o) P.state).2.head d = some s := by
  obtain ⟨turn, hfollows⟩ := h.follows i t hran.thread
  rw [hran.prog] at hfollows
  have hexpects := h.expects htick hrun hran
  have hturn := hd.turn_eq (hfollows.2 _ hexpects)
  by_cases hmoves : o.movesQueue
  · cases o <;> first | exact hmoves.elim | skip
    case queuePush e s' =>
      cases hturn
      have hempty := htick.push i answers t d s k hrun hran.thread hran.prog ⟨d, s, hd⟩
      simp only [SendState.head, trackStep, queue_push, ↓reduceIte, hempty, List.nil_append, List.head?_cons]
    case queueRetain e s' =>
      obtain ⟨next, hnext, heq⟩ := Option.map_eq_some_iff.mp hturn
      cases heq
      exact head_of_retained hnext
  · have hbefore : Dispatches t.call t.prog d s := by
      rw [hran.prog]
      exact .inr ⟨hmoves, _, hexpects, hd⟩
    rw [head_unmoved hmoves]
    exact h.dispatching i t hran.thread d s hbefore

theorem Sending.dispatching_step (h : Sending P) (htick : Undisturbed P tick) (i : ℕ) (t : CallThread)
    (ht : (P.step sendScheme tick).threads[i]? = some t) (d s : Uuid) (hd : Dispatches t.call t.prog d s) :
    (P.step sendScheme tick).state.head d = some s := by
  refine Pool.threads_step (W := sendScheme)
    (T := fun τ t => ∀ d s, Dispatches t.call t.prog d s → τ.head d = some s)
    tick h.dispatching ?_ ?_ ?_ ?_ i t ht d s hd
  · intro c d s hd
    cases hd.turn_eq (program_dispatches c)
  · intro t hhead _
    exact hhead
  · intro i answers t o k hrun hran _ d s hd
    rw [hran.state_eq]
    exact h.dispatching_own htick hrun hran hd
  · intro i answers t o k hrun hran j u hji hu hhead d s hd
    rw [hran.state_eq]
    by_cases hmoves : o.movesQueue
    · cases o <;> first | exact hmoves.elim | skip
      case queuePush e s' => exact head_push (hhead d s hd) _
      case queueRetain e s' =>
        apply head_retain (hhead d s hd)
        rintro heq
        cases heq
        exact htick.retain i answers t d s k hrun hran.thread hran.prog j u hji hu hd
    · exact (head_unmoved hmoves _ d).trans (hhead d s hd)

theorem Sending.outstanding_step (h : Sending P) (d s : Uuid)
    (hs : (d, s) ∈ (P.step sendScheme tick).state.outstanding) :
    (P.step sendScheme tick).state.head d = some s := by
  rcases P.state_step (W := sendScheme) tick with hstate | ⟨i, answers, t, o, k, -, hran⟩
  · rw [hstate] at hs ⊢
    exact h.outstanding d s hs
  · rw [hran.state_eq] at hs ⊢
    change (d, s) ∈ outstandingAfter P.state.outstanding o at hs
    by_cases hmoves : o.movesQueue
    · cases o <;> first | exact hmoves.elim | skip
      case queuePush e s' => exact head_push (h.outstanding d s hs) _
      case queueRetain e s' =>
        obtain ⟨hmem, hne⟩ := List.mem_filter.mp hs
        exact head_retain (h.outstanding d s hmem) (of_decide_eq_true hne) _
    · apply (head_unmoved hmoves _ d).trans
      by_cases hsends : o.sends d s
      · apply h.dispatching i t hran.thread d s
        rw [hran.prog]
        exact .inl hsends
      · apply h.outstanding d s
        cases o <;> first | exact hs | skip
        case postInitiate e request =>
          rcases List.mem_cons.mp hs with heq | hmem
          · cases heq
            exact absurd ⟨rfl, rfl⟩ hsends
          · exact hmem
        case queueRetain e s' => exact absurd trivial hmoves

theorem Sending.step (h : Sending P) (htick : Undisturbed P tick) : Sending (P.step sendScheme tick) where
  keyed := h.keyed_step tick
  follows := h.follows_step htick
  dispatching := h.dispatching_step htick
  outstanding _ _ := h.outstanding_step _ _

end step

theorem Sending.at_send {P : SendPool} (h : Sending P) {i : ℕ} {t : CallThread} {d : Uuid}
    {request : DaemonDiscoveryRequest} {k : Except Error Unit → Service Unit} (ht : P.threads[i]? = some t)
    (hprog : t.prog = .op (ServiceOp.postInitiate d request) k) :
    (P.state.store.queue d).head? = some request.sessionId ∧
      ∀ s, (d, s) ∈ P.state.outstanding → s = request.sessionId := by
  have hhead : P.state.head d = some request.sessionId := by
    apply h.dispatching i t ht d request.sessionId
    rw [hprog]
    exact .inl ⟨rfl, rfl⟩
  refine ⟨hhead, ?_⟩
  intro s hs
  exact Option.some.inj ((h.outstanding d s hs).symm.trans hhead)

theorem sent_only_at_head (ticks : List (Tick serviceSig Call))
    (h : Meets (Pool.step sendScheme) Undisturbed ⟨[], ⟨.empty, []⟩⟩ ticks) (i : ℕ) (t : CallThread) (d : Uuid)
    (request : DaemonDiscoveryRequest) (k : Except Error Unit → Service Unit)
    (ht : (ticks.foldl (Pool.step sendScheme) ⟨[], ⟨.empty, []⟩⟩).threads[i]? = some t)
    (hprog : t.prog = .op (ServiceOp.postInitiate d request) k) :
    let τ := (ticks.foldl (Pool.step sendScheme) ⟨[], ⟨.empty, []⟩⟩).state
    (τ.store.queue d).head? = some request.sessionId ∧
      ∀ s, (d, s) ∈ τ.outstanding → s = request.sessionId := by
  have hsending := h.invariant Sending (fun _ _ hP htick => hP.step htick) sending_empty
  exact hsending.at_send ht hprog

def Unshared (P : SendPool) : Tick serviceSig Call → Bool
  | .spawn _ => true
  | .run i _ =>
    match P.threads[i]?.map Thread.prog with
    | some (.op (.queuePush d _) _) => (P.state.store.queue d).isEmpty
    | some (.op (.queueRetain _ _) _) => false
    | some (.op (.sessionsGet _) _) => false
    | _ => true

theorem undisturbed_of_unshared {P : SendPool} {tick : Tick serviceSig Call} (h : Unshared P tick = true) :
    Undisturbed P tick := by
  constructor
  · rintro i answers t d s k rfl ht hprog _
    simpa [Unshared, ht, hprog] using h
  · rintro i answers t d s k rfl ht hprog
    simp [Unshared, ht, hprog] at h
  · rintro i answers t update k rfl ht _ _ hprog
    simp [Unshared, ht, hprog] at h

def twoStarts (d e : Uuid) : List (Tick serviceSig Call) :=
  [.spawn (.startSession (adHocFor d)), .spawn (.startSession (adHocFor e))] ++
    List.replicate 7 (.run 0 (calm 10 0 .push 0)) ++ List.replicate 7 (.run 1 (calm 11 0 .push 0)) ++
    List.replicate 6 (.run 0 (calm 10 0 .push 0)) ++ List.replicate 5 (.run 1 (calm 11 0 .push 0))

theorem sent_only_at_head_two_daemons :
    let τ := ((twoStarts 7 8).foldl (Pool.step sendScheme) ⟨[], ⟨.empty, []⟩⟩).state
    (τ.store.queue 8).head? = some 11 ∧ ∀ s, (8, s) ∈ τ.outstanding → s = 11 := by
  have hunshared : Meets (Pool.step sendScheme) (fun P tick => Unshared P tick = true) ⟨[], ⟨.empty, []⟩⟩
      (twoStarts 7 8) := by decide
  exact sent_only_at_head (twoStarts 7 8) (hunshared.imp (fun _ _ h => undisturbed_of_unshared h)) 1 _ 8
    ⟨11, .selfReport 0⟩ _ rfl rfl

theorem second_start_sent_behind :
    let P := (twoStarts 7 7).foldl (Pool.step sendScheme) ⟨[], ⟨.empty, []⟩⟩
    (∃ t k, P.threads[1]? = some t ∧ t.prog = .op (ServiceOp.postInitiate 7 ⟨11, .selfReport 0⟩) k) ∧
      (P.state.store.queue 7).head? = some 10 ∧ (7, 10) ∈ P.state.outstanding :=
  ⟨⟨_, _, rfl, rfl⟩, by decide, by decide⟩

end VantageNet
