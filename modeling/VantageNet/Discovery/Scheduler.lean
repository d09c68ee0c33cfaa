import VantageNet.Interaction.Mirror
import VantageNet.Discovery.ScheduleEffects
import VantageNet.Discovery.Calls

/-!
Whether the jobs of the scheduler are those the discovery table asks for. A job is added
under an id of its own, but removed under the id of its discovery, which no job has; and
only a changed cron expression makes `update_discovery` look at the scheduler at all.
-/

namespace VantageNet

open Interaction Interaction.Program

def Store.Agrees (σ : Store) (id : Uuid) : Prop :=
  Mirrors (fun job : Job => job.discovery.id) Job.cron σ.jobs id (σ.plan id)

section agreement

variable {σ τ : Store}

theorem agrees_rewritten_iff (hagrees : ∀ id, σ.Agrees id) {id : Uuid} {want : Option String}
    (hplan : ∀ j, τ.plan j = if j = id then want else σ.plan j) (hjobs : τ.jobs = σ.jobs) :
    (∀ j, τ.Agrees j) ↔ want = σ.plan id := by
  have hother : ∀ j, τ.Agrees j ↔ τ.plan j = σ.plan j := by
    intro j
    rw [Store.Agrees, hjobs]
    exact (hagrees j).iff_eq
  simp only [hother, hplan]
  refine ⟨fun h => by simpa using h id, fun h j => ?_⟩
  split_ifs with hj
  · rw [h, hj]
  · rfl

theorem agrees_scheduled_iff (hagrees : ∀ id, σ.Agrees id) {ω : Oracle serviceSig} {n : ℕ}
    {discovery : Discovery} (hfresh : ∀ m job id, ω m (.schedulerAdd job) = .ok id → id ∉ σ.jobs)
    (hplan : ∀ j, τ.plan j = if j = discovery.id then discovery.effectiveCron else σ.plan j)
    (hjobs : Scheduled ω n discovery σ.jobs τ.jobs) :
    (∀ j, τ.Agrees j) ↔ (obtained ω n discovery = none → discovery.effectiveCron = σ.plan discovery.id) ∧
      (obtained ω n discovery ≠ none → σ.plan discovery.id = none) := by
  rcases hjobs with ⟨hnone, hsame⟩ | ⟨cron, jobId, hcron, hsome, ⟨m, hadd⟩, hinsert⟩
  · simp [agrees_rewritten_iff hagrees hplan hsame, hnone]
  · have hnew := hfresh m _ jobId hadd
    have hmirrors : Mirrors (fun job : Job => job.discovery.id) Job.cron σ.jobs discovery.id
      (σ.plan discovery.id) := hagrees discovery.id
    simp only [hsome, reduceCtorEq, false_implies, true_and, ne_eq, not_false_eq_true, forall_const]
    constructor
    · intro h
      have hown := h discovery.id
      rw [Store.Agrees, hinsert] at hown
      exact ((mirrors_insert_iff hnew rfl hmirrors).mp hown).1
    · intro hfree j
      rw [Store.Agrees, hinsert, hplan]
      split_ifs with hj
      · subst hj
        exact (mirrors_insert_iff hnew rfl hmirrors).mpr ⟨hfree, hcron⟩
      · exact (mirrors_insert_other hnew (Ne.symm hj)).mpr (hagrees j)

end agreement

section update

variable (ω : Oracle serviceSig) (σ : Store)

def Finds (id : Uuid) (current : Discovery) : Prop :=
  (∃ a, ω 0 (.discoveryGet id) = .ok a) ∧ σ.discoveries.get id = some current

def Rewrites (n : ℕ) (discovery : Discovery) : Prop :=
  ω (n + 1) (.discoveryUpdate (discovery.stamped (ω n .utcNow))) = .ok ()

theorem storageUpdate_effect (n : ℕ) {discovery : Discovery} (hmem : discovery.id ∈ σ.discoveries) :
    (¬ Rewrites ω n discovery ∧ ∃ e, run serviceStep ω n (storageUpdate discovery) σ = ⟨.error e, n + 2, σ⟩) ∨
    Rewrites ω n discovery ∧ run serviceStep ω n (storageUpdate discovery) σ =
      ⟨.ok (discovery.stamped (ω n .utcNow)), n + 2, σ.withRow (discovery.stamped (ω n .utcNow))⟩ := by
  rcases storageUpdate_run ω n discovery σ with ⟨e, hrefused, hrun⟩ | ⟨hok, hrun⟩
  · exact .inl ⟨fun h => (nomatch hrefused.symm.trans h), e, hrun⟩
  · rw [if_pos hmem] at hrun
    exact .inr ⟨hok, hrun⟩

theorem reschedule_effect {discovery : Discovery} (hmem : discovery.id ∈ σ.discoveries)
    (hid : discovery.id ∉ σ.jobs) :
    ∃ r k τ, run serviceStep ω 1 (reschedule discovery) σ = ⟨r, k, τ⟩ ∧
      (¬ Rewrites ω 4 discovery ∧ τ = σ ∨ Rewrites ω 4 discovery ∧
        (∀ j, τ.plan j = if j = discovery.id then discovery.effectiveCron else σ.plan j) ∧
        Scheduled ω 6 (discovery.stamped (ω 4 .utcNow)) σ.jobs τ.jobs) := by
  simp only [reschedule, bind_eq, pure_eq, run_bind, removeFromScheduler_run ω 1 discovery.id σ hid]
  rcases storageUpdate_effect ω σ 4 hmem with ⟨hnot, e, hrun⟩ | ⟨hrewrites, hrun⟩
  · simp only [hrun]
    exact ⟨_, _, _, rfl, .inl ⟨hnot, rfl⟩⟩
  · simp only [hrun]
    have hplan := plan_withRow σ (discovery.stamped (ω 4 .utcNow))
    obtain ⟨r, k, τ, hschedule, hsame, hjobs⟩ := scheduleOrDisable_effect ω 6 (discovery.stamped (ω 4 .utcNow))
      (σ.withRow (discovery.stamped (ω 4 .utcNow))) (by rw [hplan, if_pos rfl])
    simp only [hschedule]
    rcases r with e | ⟨_, scheduled⟩ <;>
      exact ⟨_, _, _, rfl, .inr ⟨hrewrites, fun j => (hsame j).trans (hplan j), hjobs⟩⟩

def UpdateKeepsPlan (discovery current : Discovery) : Prop :=
  if cronChanged current.base.runType discovery.base.runType then
    Rewrites ω 4 discovery → current.effectiveCron = none ∧
      (discovery.effectiveCron = none ∨ obtained ω 6 (discovery.stamped (ω 4 .utcNow)) ≠ none)
  else Rewrites ω 1 discovery → discovery.effectiveCron = current.effectiveCron

theorem updateDiscovery_state {discovery current : Discovery} (hfinds : Finds ω σ discovery.id current) :
    (run serviceStep ω 0 (updateDiscovery discovery) σ).state =
      (run serviceStep ω 1 (storeUpdated current discovery) σ).state := by
  obtain ⟨⟨a, ha⟩, hcurrent⟩ := hfinds
  simp only [updateDiscovery, bind_eq, pure_eq, op_bind, ret_bind, run_op, serviceStep, ha, hcurrent,
    Except.map, orFail_ok, run_bind]
  generalize run serviceStep ω (0 + 1) (storeUpdated current discovery) σ = o
  rcases o with ⟨e | updated, k, τ⟩
  · rfl
  · dsimp only
    rcases ω k (.publish .updated updated.id) with e | ⟨⟩ <;> rfl

theorem updateDiscovery_missing {discovery : Discovery} (hmissing : ∀ current, ¬ Finds ω σ discovery.id current) :
    (run serviceStep ω 0 (updateDiscovery discovery) σ).state = σ := by
  simp only [updateDiscovery, bind_eq, pure_eq, op_bind, ret_bind, run_op, serviceStep]
  rcases ha : ω 0 (.discoveryGet discovery.id) with e | a
  · rfl
  · cases hcurrent : σ.discoveries.get discovery.id with
    | none => rfl
    | some current => exact absurd ⟨⟨a, ha⟩, hcurrent⟩ (hmissing current)

theorem cronChanged_ne {current discovery : Discovery}
    (h : cronChanged current.base.runType discovery.base.runType = true) :
    discovery.effectiveCron = current.effectiveCron ↔
      discovery.effectiveCron = none ∧ current.effectiveCron = none := by
  unfold Discovery.effectiveCron
  rcases hc : current.base.runType with ⟨c, _, _ | _⟩ | _ | _ <;>
    rcases hd : discovery.base.runType with ⟨c', _, _ | _⟩ | _ | _ <;>
    simp only [hc, hd, cronChanged, decide_eq_true_eq, Bool.false_eq_true] at h <;> simp [Ne.symm h]

theorem updateDiscovery_agrees_iff (hagrees : ∀ id, σ.Agrees id) {discovery : Discovery}
    (hfresh : ∀ m job id, ω m (.schedulerAdd job) = .ok id → id ∉ σ.jobs) (hid : discovery.id ∉ σ.jobs) :
    (∀ id, (run serviceStep ω 0 (updateDiscovery discovery) σ).state.Agrees id) ↔
      ∀ current, Finds ω σ discovery.id current → UpdateKeepsPlan ω discovery current := by
  by_cases hfound : ∃ current, Finds ω σ discovery.id current
  · obtain ⟨current, hfinds⟩ := hfound
    have honly : (∀ c, Finds ω σ discovery.id c → UpdateKeepsPlan ω discovery c) ↔
        UpdateKeepsPlan ω discovery current := by
      refine ⟨fun h => h current hfinds, fun h c hc => ?_⟩
      cases hc.2.symm.trans hfinds.2
      exact h
    have hmem : discovery.id ∈ σ.discoveries := (mem_iff_get _ _).mpr ⟨current, hfinds.2⟩
    have hplan : σ.plan discovery.id = current.effectiveCron := by simp [Store.plan, hfinds.2]
    rw [honly, updateDiscovery_state ω σ hfinds, UpdateKeepsPlan, storeUpdated]
    split_ifs with hchanged
    · obtain ⟨r, k, τ, hrun, ⟨hnot, rfl⟩ | ⟨hrewrites, hτ, hjobs⟩⟩ := reschedule_effect ω σ hmem hid
      · simp [hrun, hnot, hagrees]
      · have hiff := agrees_scheduled_iff hagrees hfresh (show ∀ j, τ.plan j =
          if j = (discovery.stamped (ω 4 .utcNow)).id then (discovery.stamped (ω 4 .utcNow)).effectiveCron
          else σ.plan j from hτ) hjobs
        change (∀ j, τ.Agrees j) ↔ (_ → discovery.effectiveCron = σ.plan discovery.id) ∧
          (_ → σ.plan discovery.id = none) at hiff
        rw [hrun, hiff, hplan, cronChanged_ne hchanged]
        by_cases hobtained : obtained ω 6 (discovery.stamped (ω 4 .utcNow)) = none <;>
          simp [hrewrites, hobtained, and_comm]
    · rcases storageUpdate_effect ω σ 1 hmem with ⟨hnot, e, hrun⟩ | ⟨hrewrites, hrun⟩
      · simp [hrun, hnot, hagrees]
      · rw [hrun, agrees_rewritten_iff hagrees (plan_withRow σ _) rfl]
        change discovery.effectiveCron = σ.plan discovery.id ↔ _
        simp [hrewrites, hplan]
  · rw [updateDiscovery_missing ω σ (fun c hc => hfound ⟨c, hc⟩)]
    exact ⟨fun _ c hc => absurd ⟨c, hc⟩ hfound, fun _ => hagrees⟩

def DeleteKeepsPlan (id : Uuid) : Prop :=
  ω 4 (.discoveryDelete id) = .ok () → ∀ current, Finds ω σ id current → current.effectiveCron = none

theorem plan_erased (id j : Uuid) :
    Store.plan { σ with discoveries := σ.discoveries.erase id } j = if j = id then none else σ.plan j := by
  rw [Store.plan, get_erase]
  split_ifs <;> rfl

theorem deleteRow_run (n : ℕ) (id published : Uuid) :
    (∃ e, ω n (.discoveryDelete id) = .error e ∧ (run serviceStep ω n (do
      orFail (← discoveryDelete id)
      orFail (← publishEntity .deleted published)) σ).state = σ) ∨
    ω n (.discoveryDelete id) = .ok () ∧ (run serviceStep ω n (do
      orFail (← discoveryDelete id)
      orFail (← publishEntity .deleted published)) σ).state =
        { σ with discoveries := σ.discoveries.erase id } := by
  simp only [bind_eq, op_bind, ret_bind, run_op, serviceStep]
  rcases ω n (.discoveryDelete id) with e | ⟨⟩
  · exact .inl ⟨e, rfl, rfl⟩
  · simp only [Store.deleteRow, orFail_ok, ret_bind, run_op, serviceStep]
    rcases ω (n + 1) (.publish .deleted published) with e | ⟨⟩ <;> exact .inr ⟨trivial, rfl⟩

theorem deleteDiscovery_agrees_iff (hagrees : ∀ id, σ.Agrees id) {id : Uuid} (hid : id ∉ σ.jobs) :
    (∀ j, (run serviceStep ω 0 (deleteDiscovery id) σ).state.Agrees j) ↔ DeleteKeepsPlan ω σ id := by
  simp only [deleteDiscovery, bind_eq, op_bind, ret_bind, run_op, serviceStep]
  rcases ha : ω 0 (.discoveryGet id) with e | a
  · exact ⟨fun _ _ c hc => by simp [Finds, ha] at hc, fun _ => hagrees⟩
  cases hcurrent : σ.discoveries.get id with
  | none => exact ⟨fun _ _ c hc => by simp [Finds, hcurrent] at hc, fun _ => hagrees⟩
  | some current =>
    have hkeeps : DeleteKeepsPlan ω σ id ↔
        (ω 4 (.discoveryDelete id) = .ok () → current.effectiveCron = none) := by
      refine imp_congr_right (fun _ => ⟨fun h => h current ⟨⟨a, ha⟩, hcurrent⟩, fun h c hc => ?_⟩)
      cases hc.2.symm.trans hcurrent
      exact h
    have hplan : σ.plan id = current.effectiveCron := by simp [Store.plan, hcurrent]
    simp only [Except.map, orFail_ok, ret_bind]
    rw [hkeeps]
    cases hscheduled : current.base.runType.isScheduled with
    | false =>
      have hnone : current.effectiveCron = none := by
        unfold Discovery.effectiveCron
        cases hrt : current.base.runType <;> simp_all [RunType.isScheduled]
      simp only [when_false, ret_bind, hnone, implies_true, iff_true]
      rcases deleteRow_run ω σ 1 id current.id with ⟨e, -, hstate⟩ | ⟨-, hstate⟩
      · simp only [bind_eq, op_bind, ret_bind] at hstate
        rw [hstate]
        exact hagrees
      · simp only [bind_eq, op_bind, ret_bind] at hstate
        rw [hstate, agrees_rewritten_iff hagrees (plan_erased σ id) rfl, hplan, hnone]
    | true =>
      simp only [when_true, run_bind, removeFromScheduler_run ω (0 + 1) id σ hid]
      rcases deleteRow_run ω σ 4 id current.id with ⟨e, hrefused, hstate⟩ | ⟨hok, hstate⟩
      · simp only [bind_eq, op_bind, ret_bind] at hstate
        rw [hstate]
        simp [hrefused, hagrees]
      · simp only [bind_eq, op_bind, ret_bind] at hstate
        rw [hstate, agrees_rewritten_iff hagrees (plan_erased σ id) rfl, hplan]
        simp [hok, eq_comm]

end update

theorem createDiscovery_agrees_iff (ω : Oracle serviceSig) (discovery : Discovery) {σ : Store}
    (hagrees : ∀ id, σ.Agrees id) (hfresh : ∀ m job id, ω m (.schedulerAdd job) = .ok id → id ∉ σ.jobs) :
    (∀ j, (run serviceStep ω 0 (createDiscovery discovery) σ).state.Agrees j) ↔
      (Inserts ω discovery σ → discovery.effectiveCron = none ∨
        obtained ω (insertMoment discovery + 1) (entity ω discovery) ≠ none) := by
  have hcron : (entity ω discovery).effectiveCron = discovery.effectiveCron := by
    unfold entity
    split_ifs <;> rfl
  rcases createDiscovery_effect ω discovery σ with ⟨hnot, hstate⟩ | ⟨hinserts, hplan, hjobs⟩
  · rw [hstate]
    exact ⟨fun _ h => absurd h hnot, fun _ => hagrees⟩
  · have hfree : σ.plan (entity ω discovery).id = none := by
      simp [Store.plan, (get_eq_none _ _).mpr hinserts.2]
    rw [← hcron] at hplan
    rw [agrees_scheduled_iff hagrees hfresh hplan hjobs, hfree, hcron]
    by_cases hobtained : obtained ω (insertMoment discovery + 1) (entity ω discovery) = none <;>
      simp [hinserts, hobtained]

inductive PlanCall where
  | createDiscovery (discovery : Discovery)
  | updateDiscovery (discovery : Discovery)
  | deleteDiscovery (id : Uuid)

structure Planned where
  call : PlanCall
  answers : Oracle serviceSig

def Store.planStep (σ : Store) (e : Planned) : Store :=
  match e.call with
  | .createDiscovery discovery => (run serviceStep e.answers 0 (createDiscovery discovery) σ).state
  | .updateDiscovery discovery => (run serviceStep e.answers 0 (updateDiscovery discovery) σ).state
  | .deleteDiscovery id => (run serviceStep e.answers 0 (deleteDiscovery id) σ).state

/-- The scheduler gives out fresh job ids, and no discovery goes by the id of a job. -/
def Unmixed (σ : Store) (e : Planned) : Prop :=
  (∀ m job id, e.answers m (.schedulerAdd job) = .ok id → id ∉ σ.jobs) ∧
    match e.call with
    | .createDiscovery _ => True
    | .updateDiscovery discovery => discovery.id ∉ σ.jobs
    | .deleteDiscovery id => id ∉ σ.jobs

def KeepsPlan (σ : Store) (e : Planned) : Prop :=
  match e.call with
  | .createDiscovery discovery => Inserts e.answers discovery σ → discovery.effectiveCron = none ∨
      obtained e.answers (insertMoment discovery + 1) (entity e.answers discovery) ≠ none
  | .updateDiscovery discovery =>
      ∀ current, Finds e.answers σ discovery.id current → UpdateKeepsPlan e.answers discovery current
  | .deleteDiscovery id => DeleteKeepsPlan e.answers σ id

theorem planStep_agrees_iff {σ : Store} (hagrees : ∀ id, σ.Agrees id) {e : Planned} (hunmixed : Unmixed σ e) :
    (∀ id, (σ.planStep e).Agrees id) ↔ KeepsPlan σ e := by
  rcases e with ⟨call, ω⟩
  obtain ⟨hfresh, hid⟩ := hunmixed
  cases call with
  | createDiscovery discovery => exact createDiscovery_agrees_iff ω discovery hagrees hfresh
  | updateDiscovery discovery => exact updateDiscovery_agrees_iff ω σ hagrees hfresh hid
  | deleteDiscovery id => exact deleteDiscovery_agrees_iff ω σ hagrees hid

theorem scheduler_agrees_iff (es : List Planned) (hunmixed : Meets Store.planStep Unmixed .empty es) :
    (∀ done, done <+: es → ∀ id, (done.foldl Store.planStep .empty).Agrees id) ↔
      Meets Store.planStep KeepsPlan .empty es := by
  have hrun : ∀ (es : List Planned) (σ : Store), (∀ id, σ.Agrees id) → Meets Store.planStep Unmixed σ es →
      ((∀ done, done <+: es → ∀ id, (done.foldl Store.planStep σ).Agrees id) ↔
        Meets Store.planStep KeepsPlan σ es) := by
    intro es
    induction es with
    | nil =>
      intro σ hagrees _
      simp [Meets, hagrees]
    | cons e es ih =>
      intro σ hagrees hunmixed
      have hstep := planStep_agrees_iff hagrees hunmixed.1
      constructor
      · intro h
        have hnext : ∀ id, (σ.planStep e).Agrees id := h [e] (by simp)
        exact ⟨hstep.mp hnext, (ih _ hnext hunmixed.2).mp
          (fun done hdone => h (e :: done) ((List.prefix_cons_inj e).mpr hdone))⟩
      · rintro ⟨hkeeps, hrest⟩ done hdone
        have hnext := hstep.mpr hkeeps
        cases done with
        | nil => exact hagrees
        | cons e' done =>
          obtain ⟨rfl, htail⟩ := List.cons_prefix_cons.mp hdone
          exact (ih _ hnext hunmixed.2).mpr hrest done htail
  exact hrun es .empty (fun id j job hj => nomatch hj) hunmixed

def adding (jobId : Uuid) : Oracle serviceSig
  | _, .schedulerAdd _ => .ok jobId
  | n, i => calm 0 0 .push n i

def nightly (id : Uuid) (name : String) : Discovery :=
  ⟨id, 0, 0, ⟨.selfReport 0, .scheduled "0 0 2 * * *" none true, name, 7, 0, []⟩⟩

theorem adding_unmixed {σ : Store} {jobId : Uuid} {call : PlanCall} (hjob : jobId ∉ σ.jobs)
    (hcall : match call with
      | .createDiscovery _ => True
      | .updateDiscovery discovery => discovery.id ∉ σ.jobs
      | .deleteDiscovery id => id ∉ σ.jobs) : Unmixed σ ⟨call, adding jobId⟩ := by
  refine ⟨fun m job id h => ?_, hcall⟩
  cases h
  exact hjob

theorem scheduler_agrees_renamed :
    Meets Store.planStep Unmixed .empty [⟨.createDiscovery (nightly 5 "lab"), adding 100⟩,
      ⟨.updateDiscovery (nightly 5 "office"), adding 101⟩] ∧
    ∀ done, done <+: [⟨.createDiscovery (nightly 5 "lab"), adding 100⟩,
        ⟨.updateDiscovery (nightly 5 "office"), adding 101⟩] →
      ∀ id, (done.foldl Store.planStep .empty).Agrees id := by
  have hunmixed : Meets Store.planStep Unmixed .empty [⟨.createDiscovery (nightly 5 "lab"), adding 100⟩,
      ⟨.updateDiscovery (nightly 5 "office"), adding 101⟩] :=
    ⟨adding_unmixed (by decide) trivial, adding_unmixed (by decide) (by decide), trivial⟩
  refine ⟨hunmixed, (scheduler_agrees_iff _ hunmixed).mpr ⟨fun _ => .inr (fun h => nomatch h), ?_, trivial⟩⟩
  intro current hfinds
  cases hfinds.2
  rw [UpdateKeepsPlan, if_neg (by decide)]
  exact fun _ => rfl

theorem deleted_discovery_keeps_job :
    Meets Store.planStep Unmixed .empty
      [⟨.createDiscovery (nightly 5 "lab"), adding 100⟩, ⟨.deleteDiscovery 5, adding 101⟩] ∧
    ([⟨.createDiscovery (nightly 5 "lab"), adding 100⟩, ⟨.deleteDiscovery 5, adding 101⟩].foldl
      Store.planStep .empty).discoveries.get 5 = none ∧
    (([⟨.createDiscovery (nightly 5 "lab"), adding 100⟩, ⟨.deleteDiscovery 5, adding 101⟩].foldl
      Store.planStep .empty).jobs.get 100).map (fun job => job.discovery.id) = some 5 ∧
    ¬ ([⟨.createDiscovery (nightly 5 "lab"), adding 100⟩, ⟨.deleteDiscovery 5, adding 101⟩].foldl
      Store.planStep .empty).Agrees 5 :=
  ⟨⟨adding_unmixed (by decide) trivial, adding_unmixed (by decide) (by decide), trivial⟩, rfl, rfl,
    fun h => h 100 _ rfl rfl⟩

end VantageNet
