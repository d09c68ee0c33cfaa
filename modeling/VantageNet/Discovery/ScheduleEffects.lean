import VantageNet.Discovery.Schedule

/-!
What scheduling, storing and creating a discovery do to the discovery table and to the
jobs of the scheduler.
-/

namespace VantageNet

open Interaction Interaction.Program

def Discovery.effectiveCron (discovery : Discovery) : Option String :=
  match discovery.base.runType with
  | .scheduled cronSchedule _ true => some cronSchedule
  | _ => none

def Store.plan (σ : Store) (id : Uuid) : Option String := (σ.discoveries.get id).bind Discovery.effectiveCron

/-- The job id `schedule_discovery` obtains when it runs at the moment `n`. -/
def obtained (ω : Oracle serviceSig) (n : ℕ) (discovery : Discovery) : Option Uuid :=
  match discovery.effectiveCron with
  | none => none
  | some cron =>
    match ω n (.jobNew cron) with
    | .error _ => none
    | .ok _ => (ω (n + 2) (.schedulerAdd ⟨cron, discovery⟩)).toOption

def Discovery.stamped (discovery : Discovery) (now : Instant) : Discovery := { discovery with updatedAt := now }

def Scheduled (ω : Oracle serviceSig) (n : ℕ) (discovery : Discovery) (before after : HashMap Uuid Job) : Prop :=
  obtained ω n discovery = none ∧ after = before ∨
    ∃ cron jobId, discovery.effectiveCron = some cron ∧ obtained ω n discovery = some jobId ∧
      (∃ m, ω m (.schedulerAdd ⟨cron, discovery⟩) = .ok jobId) ∧ after = before.insert jobId ⟨cron, discovery⟩

theorem scheduleDiscovery_effect (ω : Oracle serviceSig) (n : ℕ) (discovery : Discovery) (σ : Store) :
    ∃ r k jobs, run serviceStep ω n (scheduleDiscovery discovery) σ = ⟨r, k, { σ with jobs }⟩ ∧
      Scheduled ω n discovery σ.jobs jobs := by
  have hcron : discovery.effectiveCron = match discovery.base.runType with
    | .scheduled cronSchedule _ true => some cronSchedule
    | _ => none := rfl
  cases hrun : discovery.base.runType with
  | scheduled cron lastRun enabled =>
    cases enabled with
    | false =>
      simp only [hrun] at hcron
      exact ⟨_, _, _, by simp only [scheduleDiscovery, hrun]; rfl, .inl ⟨by simp [obtained, hcron], rfl⟩⟩
    | true =>
      simp only [hrun] at hcron
      simp only [scheduleDiscovery, hrun, ↓reduceIte, bind_eq, op_bind, ret_bind, run_op, serviceStep]
      rcases hnew : ω n (.jobNew cron) with e | ⟨⟩
      · exact ⟨_, _, _, rfl, .inl ⟨by simp [obtained, hcron, hnew], rfl⟩⟩
      · simp only [orFail_ok, ret_bind, run_op, serviceStep]
        rcases hadd : ω (n + 1 + 1) (.schedulerAdd ⟨cron, discovery⟩) with e | jobId
        · exact ⟨_, _, _, rfl, .inl ⟨by simp [obtained, hcron, hnew, hadd, Except.toOption], rfl⟩⟩
        · exact ⟨_, _, _, rfl, .inr ⟨cron, jobId, hcron,
            by simp [obtained, hcron, hnew, hadd, Except.toOption], ⟨_, hadd⟩, rfl⟩⟩
  | historical results =>
    simp only [hrun] at hcron
    exact ⟨_, _, _, by simp only [scheduleDiscovery, hrun]; rfl, .inl ⟨by simp [obtained, hcron], rfl⟩⟩
  | adHoc lastRun =>
    simp only [hrun] at hcron
    exact ⟨_, _, _, by simp only [scheduleDiscovery, hrun]; rfl, .inl ⟨by simp [obtained, hcron], rfl⟩⟩

def Store.withRow (σ : Store) (discovery : Discovery) : Store :=
  { σ with discoveries := σ.discoveries.insert discovery.id discovery }

theorem plan_withRow (σ : Store) (discovery : Discovery) (id : Uuid) :
    (σ.withRow discovery).plan id = if id = discovery.id then discovery.effectiveCron else σ.plan id := by
  rw [Store.plan, Store.withRow, get_insert]
  split_ifs <;> rfl

theorem storageUpdate_run (ω : Oracle serviceSig) (n : ℕ) (discovery : Discovery) (σ : Store) :
    (∃ e, ω (n + 1) (.discoveryUpdate (discovery.stamped (ω n .utcNow))) = .error e ∧
      run serviceStep ω n (storageUpdate discovery) σ = ⟨.error e, n + 2, σ⟩) ∨
    ω (n + 1) (.discoveryUpdate (discovery.stamped (ω n .utcNow))) = .ok () ∧
      run serviceStep ω n (storageUpdate discovery) σ = ⟨.ok (discovery.stamped (ω n .utcNow)), n + 2,
        if discovery.id ∈ σ.discoveries then σ.withRow (discovery.stamped (ω n .utcNow)) else σ⟩ := by
  simp only [storageUpdate, bind_eq, pure_eq, op_bind, ret_bind, run_op, serviceStep]
  rcases hupdate : ω (n + 1) (.discoveryUpdate (discovery.stamped (ω n .utcNow))) with e | ⟨⟩
  · refine .inl ⟨e, rfl, ?_⟩
    simp only [Discovery.stamped] at hupdate
    simp only [hupdate, Store.updateRow, orFail_error, fail_bind, run_fail]
  · refine .inr ⟨rfl, ?_⟩
    simp only [Discovery.stamped] at hupdate
    simp only [hupdate, Store.updateRow, Discovery.stamped]
    split_ifs <;> rfl

theorem removeFromScheduler_run (ω : Oracle serviceSig) (n : ℕ) (id : Uuid) (σ : Store) (hid : id ∉ σ.jobs) :
    run serviceStep ω n (removeFromScheduler id) σ = ⟨.ok (), n + 3, σ⟩ := by
  simp only [removeFromScheduler, bind_eq, op_bind, ret_bind, run_op, serviceStep]
  rcases ω (n + 1) (.schedulerRemove id) with e | ⟨⟩
  · rfl
  · simp only [Store.removeJob, erase_of_get_eq_none ((get_eq_none _ _).mpr hid)]
    rfl

theorem scheduleOrDisable_effect (ω : Oracle serviceSig) (n : ℕ) (discovery : Discovery) (σ : Store)
    (hrow : σ.plan discovery.id = discovery.effectiveCron) :
    ∃ r k τ, run serviceStep ω n (scheduleOrDisable discovery) σ = ⟨r, k, τ⟩ ∧
      (∀ id, τ.plan id = σ.plan id) ∧ Scheduled ω n discovery σ.jobs τ.jobs := by
  obtain ⟨r, k, jobs, hrun, hjobs⟩ := scheduleDiscovery_effect ω n discovery σ
  simp only [scheduleOrDisable, bind_eq, pure_eq, run_bind, run_attempt, hrun]
  rcases r with e | jobId
  · rcases storageUpdate_run ω k discovery.disable { σ with jobs } with ⟨e', -, hupdate⟩ | ⟨-, hupdate⟩
    · simp only [run_bind, hupdate]
      exact ⟨_, _, _, rfl, fun id => rfl, hjobs⟩
    · simp only [run_bind, hupdate]
      refine ⟨_, _, _, rfl, fun id => ?_, by split_ifs <;> exact hjobs⟩
      -- `disable` leaves the run type alone, so the row asks for the same job as before
      split_ifs
      · rw [plan_withRow]
        split_ifs with hid
        · rw [hid]
          exact hrow.symm
        · rfl
      · rfl
  · exact ⟨_, _, _, rfl, fun id => rfl, hjobs⟩

section create

variable (ω : Oracle serviceSig) (discovery : Discovery) (σ : Store)

def entity : Discovery :=
  if discovery.id = Uuid.nil then ⟨ω 1 .newV4, ω 0 .utcNow, ω 0 .utcNow, discovery.base⟩ else discovery

def insertMoment : ℕ := if discovery.id = Uuid.nil then 2 else 0

def Inserts : Prop :=
  ω (insertMoment discovery) (.discoveryCreate (entity ω discovery)) = .ok () ∧
    (entity ω discovery).id ∉ σ.discoveries

theorem insertDiscovery_run :
    (¬ Inserts ω discovery σ ∧ ∃ e k, run serviceStep ω 0 (insertDiscovery discovery) σ = ⟨.error e, k, σ⟩) ∨
    Inserts ω discovery σ ∧ run serviceStep ω 0 (insertDiscovery discovery) σ =
      ⟨.ok (entity ω discovery), insertMoment discovery + 1, σ.withRow (entity ω discovery)⟩ := by
  have hinsert : run serviceStep ω 0 (insertDiscovery discovery) σ =
      run serviceStep ω (insertMoment discovery) (do
        orFail (← discoveryCreate (entity ω discovery))
        return entity ω discovery) σ := by
    by_cases hnil : discovery.id = Uuid.nil
    · simp only [insertDiscovery, newDiscovery, entity, insertMoment, hnil, ↓reduceIte, bind_eq, pure_eq,
        op_bind, ret_bind, run_op, serviceStep]
    · simp only [insertDiscovery, entity, insertMoment, hnil, ↓reduceIte, bind_eq, ret_bind]
  rw [hinsert]
  simp only [Inserts, bind_eq, pure_eq, op_bind, ret_bind, run_op, serviceStep]
  rcases ω (insertMoment discovery) (.discoveryCreate (entity ω discovery)) with e | ⟨⟩
  · exact .inl ⟨fun h => (nomatch h.1), _, _, rfl⟩
  · by_cases hmem : (entity ω discovery).id ∈ σ.discoveries
    · simp only [Store.insertRow, hmem, ↓reduceIte]
      exact .inl ⟨fun h => h.2 trivial, _, _, rfl⟩
    · simp only [Store.insertRow, hmem, ↓reduceIte]
      exact .inr ⟨⟨trivial, fun h => h⟩, rfl⟩

theorem announceCreated_run (n : ℕ) :
    ∃ r k, run serviceStep ω n (announceCreated discovery) σ = ⟨r, k, σ⟩ := by
  simp only [announceCreated, bind_eq, pure_eq, op_bind, ret_bind, run_op, serviceStep]
  rcases ω n (.publish .created discovery.id) with e | ⟨⟩ <;> exact ⟨_, _, rfl⟩

theorem createDiscovery_effect :
    (¬ Inserts ω discovery σ ∧ (run serviceStep ω 0 (createDiscovery discovery) σ).state = σ) ∨
    Inserts ω discovery σ ∧
      (∀ id, (run serviceStep ω 0 (createDiscovery discovery) σ).state.plan id =
        if id = (entity ω discovery).id then discovery.effectiveCron else σ.plan id) ∧
      Scheduled ω (insertMoment discovery + 1) (entity ω discovery) σ.jobs
        (run serviceStep ω 0 (createDiscovery discovery) σ).state.jobs := by
  have hcron : (entity ω discovery).effectiveCron = discovery.effectiveCron := by
    unfold entity
    split_ifs <;> rfl
  simp only [createDiscovery, bind_eq, pure_eq, run_bind]
  rcases insertDiscovery_run ω discovery σ with ⟨hnot, e, k, hrun⟩ | ⟨hinserts, hrun⟩
  · exact .inl ⟨hnot, by rw [hrun]⟩
  refine .inr ⟨hinserts, ?_⟩
  simp only [hrun]
  have hplan := plan_withRow σ (entity ω discovery)
  rw [hcron] at hplan
  cases hscheduled : (entity ω discovery).base.runType.isScheduled with
  | false =>
    have hnone : (entity ω discovery).effectiveCron = none := by
      unfold Discovery.effectiveCron
      cases hrt : (entity ω discovery).base.runType <;> simp_all [RunType.isScheduled]
    obtain ⟨r, k, hannounce⟩ := announceCreated_run ω (entity ω discovery) (σ.withRow (entity ω discovery))
      (insertMoment discovery + 1)
    simp only [Bool.false_eq_true, ↓reduceIte, hannounce]
    exact ⟨hplan, .inl ⟨by simp [obtained, hnone], rfl⟩⟩
  | true =>
    obtain ⟨r, k, τ, hschedule, hsame, hjobs⟩ := scheduleOrDisable_effect ω (insertMoment discovery + 1)
      (entity ω discovery) (σ.withRow (entity ω discovery)) (by rw [hplan, if_pos rfl, hcron])
    simp only [↓reduceIte, run_bind, hschedule]
    rcases r with e | ⟨e | jobId, scheduled⟩
    · exact ⟨fun id => (hsame id).trans (hplan id), hjobs⟩
    · exact ⟨fun id => (hsame id).trans (hplan id), hjobs⟩
    · obtain ⟨r, m, hannounce⟩ := announceCreated_run ω scheduled τ k
      simp only [hannounce]
      exact ⟨fun id => (hsame id).trans (hplan id), hjobs⟩

end create

end VantageNet
