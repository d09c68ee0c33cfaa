import VantageNet.Discovery.LockDiscipline
import VantageNet.Discovery.Scheduler

/-!
The job that `schedule_discovery` hands to the scheduler, fired while discoveries are edited.
A job carries a copy of its discovery from the moment it was scheduled, and every firing
writes that copy back.
-/

namespace VantageNet

open Interaction Interaction.Program

/-- The pattern `last_run: mut _last_run` of the source copies the field into a local variable and
sets that, so the copy is written back with the `last_run` it had. -/
def recordRun (discovery : Discovery) : Service Unit :=
  match discovery.base.runType with
  | .scheduled _ _ _ => do
    let _lastRun ← utcNow
    let _ ← (storageUpdate discovery).attempt
    return ()
  | _ => return ()

def runJob (job : Job) : Service Unit := do
  match ← (startSession job.discovery).attempt with
  | .ok _ => recordRun job.discovery
  | .error _ => return ()

def RunType.lastRun : RunType → Option Instant
  | .scheduled _ lastRun _ => lastRun
  | .historical _ => none
  | .adHoc lastRun => lastRun

def RunType.plain : RunType → RunType
  | .scheduled cronSchedule _ enabled => .scheduled cronSchedule none enabled
  | .historical results => .historical results
  | .adHoc _ => .adHoc none

def Discovery.lastRun (discovery : Discovery) : Option Instant := discovery.base.runType.lastRun

/-- All of a discovery but `last_run` and `updated_at`. -/
def Discovery.content (discovery : Discovery) : Discovery :=
  { discovery with updatedAt := 0, base := { discovery.base with runType := discovery.base.runType.plain } }

inductive EditCall where
  | updateDiscovery (discovery : Discovery)
  | runJob (job : Job)

def EditCall.program : EditCall → Service Unit
  | .updateDiscovery discovery => (VantageNet.updateDiscovery discovery).bind (fun _ => .ret ())
  | .runJob job => VantageNet.runJob job

def editScheme : Scheme serviceSig Error Lock EditCall Store := ⟨EditCall.program, lockAction, serviceStep⟩

abbrev EditThread := Thread serviceSig Error Lock EditCall

abbrev EditPool := Pool serviceSig Error Lock EditCall Store

abbrev EditTick := Tick serviceSig EditCall

structure Watch where
  pool : EditPool
  /-- The time each firing read from the clock once its session had started. -/
  firedAt : ℕ → Option Instant

namespace Watch

def takesTime (w : Watch) (i : ℕ) : Bool :=
  match w.pool.threads[i]? with
  | some ⟨.runJob _, _, .op .utcNow _⟩ => (w.firedAt i).isNone
  | _ => false

def step (w : Watch) : EditTick → Watch
  | .spawn call => ⟨w.pool.step editScheme (.spawn call), w.firedAt⟩
  | .run i answers => ⟨w.pool.step editScheme (.run i answers),
      if w.takesTime i then Function.update w.firedAt i (some (answers .utcNow)) else w.firedAt⟩

end Watch

/-- The tick is a step of the firing of `job` in the `i`-th place. -/
structure Fires (w : Watch) (tick : EditTick) (i : ℕ) (answers : (o : ServiceOp) → o.Reply) (t : EditThread)
    (job : Job) : Prop where
  tick : tick = .run i answers
  thread : w.pool.threads[i]? = some t
  call : t.call = .runJob job

structure Honest (w : Watch) (tick : EditTick) : Prop where
  edits : ∀ i answers t job, Fires w tick i answers t job → ∀ id,
    ((w.step tick).pool.state.discoveries.get id).map Discovery.content =
      (w.pool.state.discoveries.get id).map Discovery.content
  lastRun : ∀ i answers t job, Fires w tick i answers t job → ∀ o k, t.prog = .op o k →
    ∀ t', (w.step tick).pool.threads[i]? = some t' → t'.prog = .ret () →
    ∀ now, (w.step tick).firedAt i = some now →
    ∀ row, (w.step tick).pool.state.discoveries.get job.discovery.id = some row → row.lastRun = some now

/-- The stored row `current` loses nothing when the copy is written back, or the write refused. -/
def Harmless (copy : Discovery) (firedAt : Option Instant) (current : Discovery) : Except Error Unit → Prop
  | .ok _ => current.content = copy.content ∧ copy.lastRun = firedAt
  | .error _ => current.lastRun = firedAt

def UpToDate (w : Watch) (tick : EditTick) : Prop :=
  ∀ i answers t job, Fires w tick i answers t job → ∀ row k, t.prog = .op (.discoveryUpdate row) k →
    ∀ current, w.pool.state.discoveries.get job.discovery.id = some current →
      Harmless job.discovery (w.firedAt i) current (answers (.discoveryUpdate row))

def quiet : ServiceOp → Prop
  | .utcNow | .discoveryCreate _ | .discoveryUpdate _ | .discoveryDelete _ => False
  | _ => True

theorem quiet_discoveries {o : ServiceOp} (ho : quiet o) (a : o.Reply) (σ : Store) :
    (serviceStep o a σ).2.discoveries = σ.discoveries := by
  cases o with
  | utcNow | discoveryCreate r | discoveryUpdate r | discoveryDelete r => exact ho.elim
  | schedulerAdd job => rcases a with e | id <;> rfl
  | schedulerRemove id => rcases a with e | ⟨⟩ <;> rfl
  | _ => rfl

def writeRow (row : Discovery) : Service Unit := .op (.discoveryUpdate row) (fun _ => .ret ())

def writeBack (discovery : Discovery) : Service Unit := .op .utcNow (fun now => writeRow (discovery.stamped now))

theorem storageUpdate_discard (discovery : Discovery) :
    (storageUpdate discovery).attempt.bind (fun _ => (.ret () : Service Unit)) = writeBack discovery := by
  simp only [storageUpdate, writeBack, writeRow, bind_eq, pure_eq, op_bind, ret_bind, attempt_op]
  congr
  funext now
  congr
  funext r
  rcases r with e | ⟨⟩ <;> rfl

theorem recordRun_cases (discovery : Discovery) :
    recordRun discovery = .op .utcNow (fun _ => writeBack discovery) ∨ recordRun discovery = .ret () := by
  unfold recordRun
  cases discovery.base.runType with
  | scheduled cron lastRun enabled =>
    left
    simp only [bind_eq, pure_eq, op_bind, ret_bind, storageUpdate_discard]
  | historical results => exact .inr rfl
  | adHoc lastRun => exact .inr rfl

/-- Where a firing stands, with the time it has read from the clock. -/
def Stage (discovery : Discovery) : Option Instant → Service Unit → Prop
  | none, p => Until quiet (fun q => q = recordRun discovery ∨ q = .ret ()) p
  | some _, p => p = writeBack discovery ∨ (∃ now, p = writeRow (discovery.stamped now)) ∨ p = .ret ()

theorem startSession_until (discovery : Discovery) :
    Until quiet (fun q => (∃ x, q = .ret x) ∨ ∃ e, q = .fail e) (startSession discovery) := by
  have hend : ∀ payload : DiscoveryUpdatePayload, Until quiet (fun q => (∃ x, q = .ret x) ∨ ∃ e, q = .fail e)
      (do broadcast payload; return payload : Service DiscoveryUpdatePayload) :=
    fun payload => .op trivial (fun _ => .here (.inl ⟨_, rfl⟩))
  refine .op trivial fun sessionId => .op trivial fun _ => .op trivial fun _ => .op trivial fun _ =>
    .op trivial fun _ => .op trivial fun queue => .op trivial fun _ => .op trivial fun _ => .op trivial fun _ =>
    .op trivial fun _ => .op trivial fun daemon => ?_
  rcases daemon with e | daemon
  · exact .here (.inr ⟨e, rfl⟩)
  simp only [orFail_ok, bind_eq, pure_eq, ret_bind]
  cases !(queue.map (fun q => !q.isEmpty)).getD false && isPush daemon with
  | false => exact hend _
  | true =>
    refine .op trivial fun found => ?_
    rcases found with e | _ | found
    · exact .here (.inr ⟨e, rfl⟩)
    · exact .here (.inr ⟨_, rfl⟩)
    refine .op trivial fun posted => ?_
    rcases posted with e | ⟨⟩
    · exact .here (.inr ⟨e, rfl⟩)
    refine .op trivial fun published => ?_
    rcases published with e | ⟨⟩
    · exact .here (.inr ⟨e, rfl⟩)
    · exact hend _

theorem runJob_stage (job : Job) : Stage job.discovery none (runJob job) := by
  apply Until.bind
  have hstart := startSession_until job.discovery
  generalize startSession job.discovery = p at hstart
  induction hstart with
  | here h =>
    rcases h with ⟨x, rfl⟩ | ⟨e, rfl⟩
    · exact .here (.here (.inl rfl))
    · exact .here (.here (.inr rfl))
  | op hi _ ih => exact .op hi ih

structure Staged (w : Watch) : Prop where
  stage : ∀ i t job, w.pool.threads[i]? = some t → t.call = .runJob job →
    Stage job.discovery (w.firedAt i) t.prog
  fresh : ∀ i, w.pool.threads.length ≤ i → w.firedAt i = none

theorem staged_start (σ : Store) : Staged ⟨⟨[], σ⟩, fun _ => none⟩ := by
  constructor
  · intro i t job ht
    cases ht
  · intro i _
    rfl

def timeAfter (time : Option Instant) (o : ServiceOp) (answers : (o : ServiceOp) → o.Reply) : Option Instant :=
  match o with
  | .utcNow => some (time.getD (answers .utcNow))
  | _ => time

theorem Stage.next {discovery : Discovery} {time : Option Instant} {o : ServiceOp} {k : o.Reply → Service Unit}
    (h : Stage discovery time (.op o k)) (answers : (o : ServiceOp) → o.Reply) (r : o.Reply) :
    Stage discovery (timeAfter time o answers) (k r) := by
  cases time with
  | none =>
    cases h with
    | here h =>
      rcases h with h | h
      · rcases recordRun_cases discovery with hrecord | hrecord
        · rw [hrecord] at h
          cases h
          exact .inl rfl
        · rw [hrecord] at h
          cases h
      · cases h
    | op hi hk =>
      have hstay : timeAfter none o answers = none := by
        cases o <;> first | rfl | exact hi.elim
      rw [hstay]
      exact hk r
  | some now =>
    rcases h with h | ⟨now', h⟩ | h
    · cases h
      exact .inr (.inl ⟨r, rfl⟩)
    · cases h
      exact .inr (.inr rfl)
    · cases h

theorem takesTime_firing {w : Watch} {i : ℕ} {t : EditThread} {job : Job} {o : ServiceOp}
    {k : o.Reply → Service Unit} (ht : w.pool.threads[i]? = some t) (hcall : t.call = .runJob job)
    (hprog : t.prog = .op o k) (answers : (o : ServiceOp) → o.Reply) :
    (if w.takesTime i then Function.update w.firedAt i (some (answers .utcNow)) else w.firedAt) =
      Function.update w.firedAt i (timeAfter (w.firedAt i) o answers) := by
  rcases t with ⟨call, held, prog⟩
  obtain rfl : call = .runJob job := hcall
  obtain rfl : prog = .op o k := hprog
  have hsame : Function.update w.firedAt i (w.firedAt i) = w.firedAt := Function.update_eq_self i w.firedAt
  unfold Watch.takesTime
  rw [ht]
  cases o with
  | utcNow =>
    cases htime : w.firedAt i with
    | none => simp [timeAfter]
    | some now =>
      rw [htime] at hsame
      simp [timeAfter, hsame]
  | _ => exact hsame.symm

theorem takesTime_other {w : Watch} {i : ℕ} (h : ∀ t job o k, w.pool.threads[i]? = some t →
    t.call = .runJob job → t.prog ≠ .op o k) : w.takesTime i = false := by
  unfold Watch.takesTime
  split
  · next job held k ht => exact absurd rfl (h _ job _ k ht rfl)
  · rfl

theorem step_run_cases (w : Watch) (i : ℕ) (answers : (o : ServiceOp) → o.Reply) :
    (∃ t, w.pool.threads[i]? = some t ∧ (∀ o k, t.prog ≠ .op o k) ∧ w.step (.run i answers) =
      ⟨{ w.pool with threads := w.pool.threads.set i { t with held := [] } }, w.firedAt⟩) ∨
    (∃ t o k, Pool.Ran editScheme w.pool (w.step (.run i answers)).pool i answers t o k ∧
      ((∃ job, t.call = .runJob job) → (w.step (.run i answers)).firedAt =
        Function.update w.firedAt i (timeAfter (w.firedAt i) o answers)) ∧
      ((∀ job, t.call ≠ .runJob job) → (w.step (.run i answers)).firedAt = w.firedAt)) ∨
    w.step (.run i answers) = w ∧ ∀ t o k, w.pool.threads[i]? = some t → t.prog = .op o k →
      lockAction o ≠ .none := by
  have hpool : (w.step (.run i answers)).pool = w.pool.step editScheme (.run i answers) := rfl
  have hstay (h : w.takesTime i = false) : (w.step (.run i answers)).firedAt = w.firedAt := by
    simp [Watch.step, h]
  have heq {P : EditPool} (hP : w.pool.step editScheme (.run i answers) = P) (h : w.takesTime i = false) :
      w.step (.run i answers) = ⟨P, w.firedAt⟩ := by
    simp [Watch.step, h, hP]
  cases ht : w.pool.threads[i]? with
  | none =>
    refine .inr (.inr ⟨heq (by simp only [Pool.step, ht]) (takesTime_other ?_), fun _ _ _ hu => (by cases hu)⟩)
    intro t job o k hu
    cases ht.symm.trans hu
  | some t =>
    have hend (hprog : ∀ o k, t.prog ≠ .op o k) : w.takesTime i = false := by
      apply takesTime_other
      intro u job o k hu
      cases ht.symm.trans hu
      intro _
      exact hprog o k
    rcases hp : t.prog with _ | _ | ⟨o, k⟩
    · exact .inl ⟨t, rfl, fun o k h => (by cases hp.symm.trans h), heq (by simp only [Pool.step, ht, hp])
        (hend (fun o k h => (by cases hp.symm.trans h)))⟩
    · exact .inl ⟨t, rfl, fun o k h => (by cases hp.symm.trans h), heq (by simp only [Pool.step, ht, hp])
        (hend (fun o k h => (by cases hp.symm.trans h)))⟩
    · cases hblocked : w.pool.blocked i (editScheme.action o) with
      | true =>
        have haction : lockAction o ≠ .none := by
          intro hnone
          change w.pool.blocked i (lockAction o) = true at hblocked
          rw [hnone] at hblocked
          cases hblocked
        refine .inr (.inr ⟨heq (by simp [Pool.step, ht, hp, hblocked]) ?_, ?_⟩)
        · unfold Watch.takesTime
          rw [ht]
          rcases t with ⟨call, held, prog⟩
          obtain rfl : prog = .op o k := hp
          cases o <;> first | exact absurd rfl haction | cases call <;> rfl
        · rintro u o' k' hu hprog
          cases hu
          cases hp.symm.trans hprog
          exact haction
      | false =>
        refine .inr (.inl ⟨t, o, k, ⟨ht, hp, hblocked, ?_⟩, ?_, ?_⟩)
        · simp [hpool, Pool.step, ht, hp, hblocked]
        · rintro ⟨job, hcall⟩
          exact takesTime_firing ht hcall hp answers
        · intro hcall
          apply hstay
          apply takesTime_other
          intro u job _ _ hu hjob
          cases ht.symm.trans hu
          exact absurd hjob (hcall job)

theorem Staged.step {w : Watch} (h : Staged w) (tick : EditTick) : Staged (w.step tick) := by
  cases tick with
  | spawn c =>
    constructor
    · intro i t job ht hcall
      change (w.pool.threads ++ [_])[i]? = some t at ht
      rw [List.getElem?_append] at ht
      split_ifs at ht with hi
      · exact h.stage i t job ht hcall
      · obtain rfl := List.mem_singleton.mp (List.mem_of_getElem? ht)
        obtain rfl : c = .runJob job := hcall
        change Stage _ (w.firedAt i) _
        rw [h.fresh i (by omega)]
        exact runJob_stage job
    · intro i hi
      change (w.pool.threads ++ [_]).length ≤ i at hi
      rw [List.length_append] at hi
      exact h.fresh i (by omega)
  | run i answers =>
    rcases step_run_cases w i answers with ⟨t, ht, -, hstep⟩ | ⟨t, o, k, hran, hfiring, hother⟩ | ⟨hstep, -⟩
    · rw [hstep]
      refine ⟨fun j u job hu hcall => ?_, fun j hj => h.fresh j (by simpa using hj)⟩
      by_cases hj : i = j
      · subst hj
        rw [List.getElem?_set_self (List.getElem?_eq_some_iff.mp ht).1] at hu
        cases hu
        exact h.stage i t job ht hcall
      · rw [List.getElem?_set_ne hj] at hu
        exact h.stage j u job hu hcall
    · have hi : i < w.pool.threads.length := (List.getElem?_eq_some_iff.mp hran.thread).1
      have hfired (j : ℕ) (hj : j ≠ i) : (w.step (.run i answers)).firedAt j = w.firedAt j := by
        by_cases hcall : ∃ job, t.call = .runJob job
        · rw [hfiring hcall, Function.update_of_ne hj]
        · rw [hother (fun job hjob => hcall ⟨job, hjob⟩)]
      constructor
      · intro j u job hu hcall
        rw [hran.get j] at hu
        split_ifs at hu with hj
        · subst hj
          cases hu
          rw [hfiring ⟨job, hcall⟩, Function.update_self]
          have hstage := h.stage j t job hran.thread hcall
          rw [hran.prog] at hstage
          exact hstage.next answers _
        · rw [hfired j hj]
          exact h.stage j u job hu hcall
      · intro j hj
        have hlength : (w.step (.run i answers)).pool.threads.length = w.pool.threads.length := by
          rw [hran.eq, List.length_set]
        rw [hfired j (by omega)]
        exact h.fresh j (by omega)
    · rw [hstep]
      exact h

/-- A step of a firing that leaves the table as it is and does not end a firing that took the time. -/
theorem honest_iff_of_passing {w : Watch} {tick : EditTick}
    (hpass : ∀ i answers t job, Fires w tick i answers t job →
      (w.step tick).pool.state.discoveries = w.pool.state.discoveries ∧
      ∀ o k, t.prog = .op o k → (∀ row, o ≠ .discoveryUpdate row) ∧
        ∀ t', (w.step tick).pool.threads[i]? = some t' → t'.prog = .ret () → (w.step tick).firedAt i = none) :
    Honest w tick ↔ UpToDate w tick := by
  constructor
  · intro _ i answers t job hfires row k hp
    exact absurd rfl (((hpass i answers t job hfires).2 _ k hp).1 row)
  · intro _
    constructor
    · intro i answers t job hfires id
      rw [(hpass i answers t job hfires).1]
    · intro i answers t job hfires o k hp t' ht' hret now hnow
      rw [((hpass i answers t job hfires).2 o k hp).2 t' ht' hret] at hnow
      cases hnow

theorem Fires.eq {w : Watch} {i j : ℕ} {answers answers' : (o : ServiceOp) → o.Reply} {t u : EditThread}
    {job job' : Job} (h : Fires w (.run i answers) i answers t job)
    (h' : Fires w (.run i answers) j answers' u job') : j = i ∧ answers' = answers ∧ u = t ∧ job' = job := by
  cases h'.tick
  obtain rfl : u = t := Option.some.inj (h'.thread.symm.trans h.thread)
  cases h'.call.symm.trans h.call
  exact ⟨rfl, rfl, rfl, rfl⟩

theorem harmless_stamped (copy : Discovery) (stamp : Instant) (firedAt : Option Instant) (current : Discovery)
    (answer : Except Error Unit) :
    Harmless (copy.stamped stamp) firedAt current answer ↔ Harmless copy firedAt current answer := by
  cases answer <;> rfl

theorem updateRow_harmless_iff (σ : Store) (discovery : Discovery) (now : Instant) (answer : Except Error Unit) :
    ((∀ id, ((σ.updateRow discovery answer).2.discoveries.get id).map Discovery.content =
        (σ.discoveries.get id).map Discovery.content) ∧
      ∀ row, (σ.updateRow discovery answer).2.discoveries.get discovery.id = some row → row.lastRun = some now) ↔
      ∀ current, σ.discoveries.get discovery.id = some current → Harmless discovery (some now) current answer := by
  rcases answer with e | ⟨⟩
  · exact ⟨fun h => h.2, fun h => ⟨fun _ => rfl, h⟩⟩
  cases hcurrent : σ.discoveries.get discovery.id with
  | none =>
    have hmem : discovery.id ∉ σ.discoveries := (get_eq_none _ _).mp hcurrent
    simp [Store.updateRow, hmem, hcurrent]
  | some current =>
    have hmem : discovery.id ∈ σ.discoveries := (mem_iff_get _ _).mpr ⟨current, hcurrent⟩
    simp only [Store.updateRow, hmem, ↓reduceIte, get_insert, Option.some.injEq, forall_eq', Harmless]
    constructor
    · rintro ⟨hedits, hlast⟩
      have hown := hedits discovery.id
      rw [if_pos rfl, hcurrent] at hown
      exact ⟨(Option.some.inj hown).symm, hlast⟩
    · rintro ⟨hcontent, hlast⟩
      refine ⟨fun id => ?_, hlast⟩
      split_ifs with hid
      · rw [hid, hcurrent, Option.map_some, Option.map_some, hcontent]
      · rfl

theorem honest_write_iff {w : Watch} {i : ℕ} {answers : (o : ServiceOp) → o.Reply} {t : EditThread} {job : Job}
    {stamp now : Instant} (hran : Pool.Ran editScheme w.pool (w.step (.run i answers)).pool i answers t
      (.discoveryUpdate (job.discovery.stamped stamp)) (fun _ => .ret ()))
    (hcall : t.call = .runJob job) (htime : w.firedAt i = some now)
    (htime' : (w.step (.run i answers)).firedAt i = some now) :
    Honest w (.run i answers) ↔ UpToDate w (.run i answers) := by
  have hfires : Fires w (.run i answers) i answers t job := ⟨rfl, hran.thread, hcall⟩
  have hthread := hran.get i
  rw [if_pos rfl] at hthread
  have hwrite := updateRow_harmless_iff w.pool.state (job.discovery.stamped stamp) now
    (answers (.discoveryUpdate (job.discovery.stamped stamp)))
  have hstate : (w.step (.run i answers)).pool.state = (w.pool.state.updateRow (job.discovery.stamped stamp)
      (answers (.discoveryUpdate (job.discovery.stamped stamp)))).2 := hran.state_eq
  rw [← hstate] at hwrite
  constructor
  · rintro ⟨hedits, hlast⟩
    have hharmless := hwrite.mp ⟨hedits i answers t job hfires,
      hlast i answers t job hfires _ _ hran.prog _ hthread rfl now htime'⟩
    intro j answers' u job' hfires' row k hp current hcurrent
    obtain ⟨rfl, rfl, rfl, rfl⟩ := hfires.eq hfires'
    cases hran.prog.symm.trans hp
    rw [htime, ← harmless_stamped _ stamp]
    exact hharmless current hcurrent
  · intro hundisturbed
    have hharmless := hwrite.mpr (by
      intro current hcurrent
      rw [harmless_stamped, ← htime]
      exact hundisturbed i answers t job hfires _ _ hran.prog current hcurrent)
    constructor
    · intro j answers' u job' hfires'
      exact hharmless.1
    · intro j answers' u job' hfires' o k hp t' ht' hret now' hnow' row hrow
      obtain ⟨rfl, rfl, rfl, rfl⟩ := hfires.eq hfires'
      cases htime'.symm.trans hnow'
      exact hharmless.2 row hrow

theorem honest_firing_iff {w : Watch} {i : ℕ} {answers : (o : ServiceOp) → o.Reply} {t : EditThread}
    {o : ServiceOp} {k : o.Reply → Service Unit} {job : Job}
    (hran : Pool.Ran editScheme w.pool (w.step (.run i answers)).pool i answers t o k)
    (hfired : (w.step (.run i answers)).firedAt i = timeAfter (w.firedAt i) o answers)
    (hcall : t.call = .runJob job) (hstage : Stage job.discovery (w.firedAt i) t.prog) :
    Honest w (.run i answers) ↔ UpToDate w (.run i answers) := by
  have hfires : Fires w (.run i answers) i answers t job := ⟨rfl, hran.thread, hcall⟩
  have hpassing (hsame : (serviceStep o (answers o) w.pool.state).2.discoveries = w.pool.state.discoveries)
      (hnot : ∀ row, o ≠ .discoveryUpdate row)
      (hgo : ∀ r, k r = .ret () → timeAfter (w.firedAt i) o answers = none) :
      Honest w (.run i answers) ↔ UpToDate w (.run i answers) := by
    apply honest_iff_of_passing
    intro j answers' u job' hfires'
    obtain ⟨rfl, rfl, rfl, rfl⟩ := hfires.eq hfires'
    refine ⟨by rw [hran.state_eq]; exact hsame, fun o' k' hp => ?_⟩
    cases hran.prog.symm.trans hp
    refine ⟨hnot, fun t' ht' hret => ?_⟩
    rw [hran.get j, if_pos rfl] at ht'
    cases ht'
    rw [hfired]
    exact hgo _ hret
  rw [hran.prog] at hstage
  cases htime : w.firedAt i with
  | none =>
    rw [htime] at hstage hpassing
    cases hstage with
    | here hgoal =>
      rcases hgoal with hgoal | hgoal
      · rcases recordRun_cases job.discovery with hrecord | hrecord
        · rw [hrecord] at hgoal
          cases hgoal
          exact hpassing rfl (fun _ h => (nomatch h)) (fun _ h => (nomatch h))
        · rw [hrecord] at hgoal
          cases hgoal
      · cases hgoal
    | op hquiet hk =>
      refine hpassing (quiet_discoveries hquiet _ _) ?_ ?_
      · rintro row rfl
        exact hquiet
      · intro _ _
        cases o <;> first | rfl | exact hquiet.elim
  | some now =>
    rw [htime] at hstage hpassing hfired
    rcases hstage with hstage | ⟨stamp, hstage⟩ | hstage
    · cases hstage
      exact hpassing rfl (fun _ h => (nomatch h)) (fun _ h => (nomatch h))
    · cases hstage
      exact honest_write_iff hran hcall htime hfired
    · cases hstage

theorem honest_iff {w : Watch} (h : Staged w) (tick : EditTick) : Honest w tick ↔ UpToDate w tick := by
  cases tick with
  | spawn c =>
    apply honest_iff_of_passing
    intro i answers t job hfires
    cases hfires.tick
  | run i answers =>
    rcases step_run_cases w i answers with ⟨t, ht, hend, hstep⟩ | ⟨t, o, k, hran, hfiring, -⟩ | ⟨hstep, hlocks⟩
    · apply honest_iff_of_passing
      intro j answers' u job hfires
      cases hfires.tick
      cases ht.symm.trans hfires.thread
      exact ⟨by rw [hstep], fun o k hp => absurd hp (hend o k)⟩
    · by_cases hcall : ∃ job, t.call = .runJob job
      · obtain ⟨job, hcall⟩ := hcall
        have hfired := congrFun (hfiring ⟨job, hcall⟩) i
        rw [Function.update_self] at hfired
        exact honest_firing_iff hran hfired hcall (h.stage i t job hran.thread hcall)
      · apply honest_iff_of_passing
        intro j answers' u job hfires
        cases hfires.tick
        cases hran.thread.symm.trans hfires.thread
        exact absurd ⟨job, hfires.call⟩ hcall
    · apply honest_iff_of_passing
      intro j answers' u job hfires
      cases hfires.tick
      refine ⟨by rw [hstep], fun o k hp => ⟨fun row hrow => ?_, fun t' ht' hret => ?_⟩⟩
      · subst hrow
        exact hlocks u _ k hfires.thread hp rfl
      · rw [hstep] at ht'
        cases hfires.thread.symm.trans ht'
        cases hp.symm.trans hret

theorem firings_honest_iff (σ : Store) (ticks : List EditTick) :
    Meets Watch.step Honest ⟨⟨[], σ⟩, fun _ => none⟩ ticks ↔
      Meets Watch.step UpToDate ⟨⟨[], σ⟩, fun _ => none⟩ ticks := by
  have hrun : ∀ w : Watch, Staged w → (Meets Watch.step Honest w ticks ↔ Meets Watch.step UpToDate w ticks) := by
    induction ticks with
    | nil => exact fun _ _ => Iff.rfl
    | cons tick ticks ih => exact fun w h => and_congr (honest_iff h tick) (ih _ (h.step tick))
  exact hrun _ (staged_start σ)

def labJob : Job := ⟨"0 0 2 * * *", nightly 5 "lab"⟩

/-- The discovery is created, renamed from "lab" to "office", and then its job fires at time 9. -/
def renameThenFire : List EditTick :=
  .spawn (.updateDiscovery (nightly 5 "office")) :: List.replicate 4 (.run 0 (adding 101 0)) ++
    .spawn (.runJob labJob) :: List.replicate 17 (.run 1 (calm 20 9 .push 0))

def lastTick : EditTick := .run 1 (calm 20 9 .push 0)

def labStored : Watch :=
  ⟨⟨[], (run serviceStep (adding 100) 0 (createDiscovery (nightly 5 "lab")) .empty).state⟩, fun _ => none⟩

theorem firing_undoes_rename :
    labStored.pool.state.jobs.get 100 = some labJob ∧
    ((renameThenFire.foldl Watch.step labStored).pool.state.discoveries.get 5).map
      (fun row => row.base.name) = some "office" ∧
    (((renameThenFire ++ [lastTick]).foldl Watch.step labStored).pool.state.discoveries.get 5).map
      (fun row => (row.base.name, row.lastRun)) = some ("lab", none) ∧
    ¬ Meets Watch.step Honest labStored (renameThenFire ++ [lastTick]) := by
  refine ⟨rfl, rfl, rfl, fun h => ?_⟩
  have hedits := (Meets.of_append h).edits 1 (calm 20 9 .push 0) _ labJob ⟨rfl, rfl, rfl⟩ 5
  exact absurd hedits (by decide)

end VantageNet
