import Mathlib.Tactic.Common
import VantageNet.Interaction.Program
import VantageNet.Scanning.Manager

/-!
The daemon runs one discovery at a time and a cancellation reaches it, as long as no session is initiated while another
one is, while a task is running, or while a task is being cancelled.
-/

namespace VantageNet.Scanning

open Interaction

namespace ManagerCall

def initiates : ManagerCall → Bool
  | .newToken _ => true
  | _ => false

/-- The token of the session is new, and its task is not in `current_task`. -/
def initiating : ManagerCall → Bool
  | .dropTask _ | .readToken _ | .setTask _ _ => true
  | _ => false

/-- `cancel_current_session` has been called while a task was running. -/
def cancelling : ManagerCall → Bool
  | .checkRunning _ seen | .signal _ seen => !seen.isEmpty
  | _ => false

end ManagerCall

namespace SessionManager

variable (σ : SessionManager)

def Running (t : ℕ) : Prop := ∃ task, σ.tasks[t]? = some task ∧ task.stage ≠ .finished

/-- A cancellation would reach the task. -/
def Holds (t : ℕ) : Prop := ∃ task, σ.tasks[t]? = some task ∧ task.cancelToken = σ.cancellationToken

/-- At most one task is running, and what `cancel_current_session` returned true for is cancelled. -/
def OneAtATime : Prop :=
  (∀ t u, σ.Running t → σ.Running u → t = u) ∧ ∀ seen ∈ σ.signalled, ∀ t ∈ seen, σ.isCancelled t = true

def Apart : ManagerEvent → Prop
  | .call i => ∀ call ∈ σ.calls[i]?, call.initiates = true →
      σ.running = [] ∧ ∀ other ∈ σ.calls, other.initiating = false ∧ other.cancelling = false
  | _ => True

instance : DecidablePred σ.Apart
  | .call i => inferInstanceAs (Decidable (∀ call ∈ σ.calls[i]?, call.initiates = true →
      σ.running = [] ∧ ∀ other ∈ σ.calls, other.initiating = false ∧ other.cancelling = false))
  | .handleDiscoveryRequest _ | .handleCancelRequest _ | .requestWork _ _ | .discovered _ | .panicked _
  | .clearCompletedTask _ => .isTrue trivial

structure OneTask : Prop where
  free : σ.heldBy = none
  still : ∀ task ∈ σ.tasks, task.stage ≠ .renewing
  alone : ∀ t u, σ.Running t → σ.Running u → t = u
  current : ∀ t, σ.Running t → σ.currentTask = none ∨ σ.currentTask = some t
  holds : ∀ t, σ.Running t → σ.Holds t
  signalled : ∀ seen ∈ σ.signalled, ∀ t ∈ seen, σ.isCancelled t = true

/-- What the step before left to the next step of the call. -/
def Fits : ManagerCall → Prop
  | .dropTask _ => ∀ t, ¬ σ.Running t
  | .readToken _ => (∀ t, ¬ σ.Running t) ∧ σ.currentTask = none
  | .setTask _ handle => ∀ t, σ.Running t → t = handle
  | .checkRunning _ seen | .signal _ seen => ∀ t ∈ seen, σ.Holds t
  | _ => True

structure OneCall : Prop where
  alone : ∀ (i j : ℕ) (a b : ManagerCall), σ.calls[i]? = some a → a.initiating = true → σ.calls[j]? = some b →
    b.initiating = true → i = j
  fits : ∀ call ∈ σ.calls, σ.Fits call

section tasks

variable {σ} {σ' : SessionManager} {t u : ℕ}

theorem isFinished_eq_false_iff : σ.isFinished t = false ↔ σ.Running t := by
  unfold isFinished Running
  cases σ.tasks[t]? <;> simp

theorem mem_running : t ∈ σ.running ↔ σ.Running t := by
  rw [running, List.mem_filter, List.mem_range, Bool.not_eq_true', isFinished_eq_false_iff, and_iff_right_iff_imp]
  rintro ⟨task, ht, -⟩
  exact (List.getElem?_eq_some_iff.mp ht).1

theorem isDiscoveryRunning_iff : σ.isDiscoveryRunning = true ↔ ∃ t, σ.currentTask = some t ∧ σ.Running t := by
  unfold isDiscoveryRunning
  cases hcell : σ.currentTask with
  | none => exact ⟨fun h => (nomatch h), fun ⟨_, h, _⟩ => (nomatch h)⟩
  | some handle =>
    rw [Option.any_some, Bool.not_eq_true', isFinished_eq_false_iff]
    exact ⟨fun h => ⟨handle, rfl, h⟩, fun ⟨_, h, hrun⟩ => Option.some.inj h ▸ hrun⟩

theorem tasks_setStage (s : TaskStage) :
    (σ.setStage t s).tasks[u]? = σ.tasks[u]?.map (fun task => if t = u then { task with stage := s } else task) := by
  rw [setStage, List.getElem?_modify]
  split_ifs <;> simp

theorem running_setStage {s : TaskStage} (ht : σ.Running t) (hu : (σ.setStage t s).Running u) : σ.Running u := by
  obtain ⟨task, hget, hstage⟩ := hu
  rw [tasks_setStage, Option.map_eq_some_iff] at hget
  obtain ⟨old, hold, rfl⟩ := hget
  split_ifs at hstage with heq
  · exact heq ▸ ht
  · exact ⟨old, hold, hstage⟩

theorem holds_setStage {s : TaskStage} (hu : σ.Holds u) : (σ.setStage t s).Holds u := by
  obtain ⟨task, hget, htoken⟩ := hu
  refine ⟨_, (tasks_setStage s).trans (congrArg _ hget), ?_⟩
  split_ifs <;> exact htoken

theorem isCancelled_setStage (s : TaskStage) : (σ.setStage t s).isCancelled u = σ.isCancelled u := by
  unfold isCancelled
  rw [tasks_setStage]
  cases σ.tasks[u]? with
  | none => rfl
  | some task =>
    simp only [Option.map_some, Option.any_some]
    split_ifs <;> rfl

theorem isCancelled_of_holds (h : σ.Holds t) (hc : σ.cancellationToken ∈ σ.cancelled) : σ.isCancelled t = true := by
  obtain ⟨task, hget, htoken⟩ := h
  rw [isCancelled, hget, Option.any_some, htoken]
  exact decide_eq_true hc

end tasks

section steps

variable {σ} {σ' : SessionManager} {i t : ℕ} {call next : ManagerCall}

theorem Fits.other (h : σ.Fits call) (hcall : call.initiating = false) (hholds : ∀ t, σ.Holds t → σ'.Holds t) :
    σ'.Fits call := by
  cases call with
  | dropTask | readToken | setTask => exact nomatch hcall
  | checkRunning _ seen | signal _ seen => exact fun t ht => hholds t (h t ht)
  | _ => trivial

theorem Fits.fewer (h : σ.Fits call) (hrun : ∀ t, σ'.Running t → σ.Running t) (hcell : σ'.currentTask = σ.currentTask)
    (hholds : ∀ t, σ.Holds t → σ'.Holds t) : σ'.Fits call := by
  cases call with
  | dropTask => exact fun t ht => h t (hrun t ht)
  | readToken => exact ⟨fun t ht => h.1 t (hrun t ht), hcell.trans h.2⟩
  | setTask => exact fun t ht => h t (hrun t ht)
  | checkRunning _ seen | signal _ seen => exact fun t ht => hholds t (h t ht)
  | _ => trivial

theorem OneTask.setStage (h : σ.OneTask) (ht : σ.Running t) {s : TaskStage} (hs : s ≠ .renewing) :
    (σ.setStage t s).OneTask where
  free := h.free
  still := fun task hmem => by
    obtain ⟨u, hget⟩ := List.mem_iff_getElem?.mp hmem
    rw [tasks_setStage, Option.map_eq_some_iff] at hget
    obtain ⟨old, hold, rfl⟩ := hget
    split_ifs
    · exact hs
    · exact h.still old (List.mem_of_getElem? hold)
  alone := fun u v hu hv => h.alone u v (running_setStage ht hu) (running_setStage ht hv)
  current := fun u hu => h.current u (running_setStage ht hu)
  holds := fun u hu => holds_setStage (h.holds u (running_setStage ht hu))
  signalled := fun seen hseen u hu => (isCancelled_setStage s).trans (h.signalled seen hseen u hu)

theorem OneCall.setStage (h : σ.OneCall) (ht : σ.Running t) {s : TaskStage} : (σ.setStage t s).OneCall where
  alone := h.alone
  fits := fun call hcall => (h.fits call hcall).fewer (fun _ => running_setStage ht) rfl (fun _ => holds_setStage)

/-- A call moves on. `σ'` is what else its step does. -/
theorem OneCall.set (h : σ.OneCall) (hcalls : σ'.calls = σ.calls) (hget : σ.calls[i]? = some call)
    (hothers : ∀ c ∈ σ.calls, (call.initiating = true → c.initiating = false) → σ.Fits c → σ'.Fits c)
    (hnext : σ'.Fits next)
    (hinit : next.initiating = true → call.initiating = true ∨ ∀ c ∈ σ.calls, c.initiating = false) :
    (σ'.set i next).OneCall := by
  have hcase : ∀ j c, (σ'.set i next).calls[j]? = some c → i = j ∧ c = next ∨ i ≠ j ∧ σ.calls[j]? = some c := by
    intro j c hc
    rw [SessionManager.set, hcalls, List.getElem?_set] at hc
    split_ifs at hc with heq
    · exact .inl ⟨heq, (Option.some.inj hc).symm⟩
    · exact .inr ⟨heq, hc⟩
  have hapart : next.initiating = true → ∀ j c, i ≠ j → σ.calls[j]? = some c → c.initiating ≠ true := by
    intro hn j c hne hc hci
    rcases hinit hn with hcall | hnone
    · exact hne (h.alone i j call c hget hcall hc hci)
    · exact absurd hci (Bool.eq_false_iff.mp (hnone c (List.mem_of_getElem? hc)))
  refine ⟨fun j k a b ha hai hb hbi => ?_, fun c hc => ?_⟩
  · rcases hcase j a ha with ⟨hij, hnew⟩ | ⟨hj, ha'⟩ <;> rcases hcase k b hb with ⟨hik, hnew'⟩ | ⟨hk, hb'⟩
    · exact hij.symm.trans hik
    · exact absurd hbi (hapart (hnew ▸ hai) k b hk hb')
    · exact absurd hai (hapart (hnew' ▸ hbi) j a hj ha')
    · exact h.alone j k a b ha' hai hb' hbi
  · obtain ⟨j, hj⟩ := List.mem_iff_getElem?.mp hc
    have hfits : σ'.Fits c := by
      rcases hcase j c hj with ⟨-, rfl⟩ | ⟨hne, hj⟩
      · exact hnext
      · refine hothers c (List.mem_of_getElem? hj) (fun hcall => ?_) (h.fits c (List.mem_of_getElem? hj))
        exact Bool.eq_false_iff.mpr (fun hci => hne (h.alone i j call c hget hcall hj hci))
    cases c <;> exact hfits

theorem OneTask.set (h : σ.OneTask) (i : ℕ) (next : ManagerCall) : (σ.set i next).OneTask :=
  ⟨h.free, h.still, h.alone, h.current, h.holds, h.signalled⟩

theorem OneTask.newToken (h : σ.OneTask) (hidle : σ.running = []) : σ.renewToken.OneTask := by
  have hnone : ∀ t, ¬ σ.renewToken.Running t := fun t ht => by
    have hmem : t ∈ σ.running := mem_running.mpr ht
    rw [hidle] at hmem
    exact nomatch hmem
  exact ⟨h.free, h.still, h.alone, h.current, fun t ht => absurd ht (hnone t), h.signalled⟩

theorem OneTask.dropTask (h : σ.OneTask) : OneTask { σ with currentTask := none } :=
  ⟨h.free, h.still, h.alone, fun _ _ => .inl rfl, h.holds, h.signalled⟩

theorem OneTask.setTask (h : σ.OneTask) {handle : ℕ} (hown : ∀ t, σ.Running t → t = handle) :
    OneTask { σ with currentTask := some handle } :=
  ⟨h.free, h.still, h.alone, fun t ht => .inr (congrArg some (hown t ht).symm), h.holds, h.signalled⟩

theorem OneTask.signal (h : σ.OneTask) {seen : List ℕ} (hseen : ∀ t ∈ seen, σ.Holds t) :
    OneTask { σ with cancelled := σ.cancellationToken :: σ.cancelled, signalled := seen :: σ.signalled } where
  free := h.free
  still := h.still
  alone := h.alone
  current := h.current
  holds := h.holds
  signalled := by
    intro seen' hseen' t ht
    rcases List.mem_cons.mp hseen' with rfl | hseen'
    · exact isCancelled_of_holds (hseen t ht) List.mem_cons_self
    · have hbefore := h.signalled seen' hseen' t ht
      unfold isCancelled at hbefore ⊢
      rw [Option.any_eq_true] at hbefore ⊢
      obtain ⟨task, hget, hc⟩ := hbefore
      exact ⟨task, hget, decide_eq_true (List.mem_cons_of_mem _ (of_decide_eq_true hc))⟩

section spawn

variable (request : DaemonDiscoveryRequest) (cancelToken : ℕ)

theorem tasks_spawn {t : ℕ} {task : DiscoveryTask} (h : (σ.spawnDiscovery request cancelToken).tasks[t]? = some task) :
    σ.tasks[t]? = some task ∨ t = σ.tasks.length ∧ task = ⟨request, cancelToken, .discovering⟩ := by
  rw [spawnDiscovery, List.getElem?_append] at h
  split_ifs at h with hlt
  · exact .inl h
  · rw [List.getElem?_singleton] at h
    split_ifs at h with hzero
    exact .inr ⟨by omega, (Option.some.inj h).symm⟩

theorem tasks_spawn_of_get {t : ℕ} {task : DiscoveryTask} (h : σ.tasks[t]? = some task) :
    (σ.spawnDiscovery request cancelToken).tasks[t]? = some task := by
  rw [spawnDiscovery, List.getElem?_append_left (List.getElem?_eq_some_iff.mp h).1, h]

theorem holds_spawn {t : ℕ} (h : σ.Holds t) : (σ.spawnDiscovery request cancelToken).Holds t :=
  let ⟨task, hget, htoken⟩ := h
  ⟨task, tasks_spawn_of_get request cancelToken hget, htoken⟩

theorem running_spawn (hnone : ∀ t, ¬ σ.Running t) {t : ℕ} (h : (σ.spawnDiscovery request cancelToken).Running t) :
    t = σ.tasks.length := by
  obtain ⟨task, hget, hstage⟩ := h
  rcases tasks_spawn request cancelToken hget with hold | ⟨rfl, -⟩
  · exact absurd ⟨task, hold, hstage⟩ (hnone t)
  · rfl

theorem OneTask.spawn (h : σ.OneTask) (hnone : ∀ t, ¬ σ.Running t) (hcell : σ.currentTask = none) :
    (σ.spawnDiscovery request σ.cancellationToken).OneTask where
  free := h.free
  still := by
    intro task hmem
    rcases List.mem_append.mp hmem with hold | hnew
    · exact h.still task hold
    · rw [List.mem_singleton.mp hnew]
      exact nofun
  alone := fun t u ht hu => (running_spawn _ _ hnone ht).trans (running_spawn _ _ hnone hu).symm
  current := fun _ _ => .inl hcell
  holds := by
    intro t ht
    have hlast := running_spawn _ _ hnone ht
    obtain ⟨task, hget, hstage⟩ := ht
    refine ⟨task, hget, ?_⟩
    rcases tasks_spawn _ _ hget with hold | ⟨-, rfl⟩
    · exact absurd ⟨task, hold, hstage⟩ (hnone t)
    · rfl
  signalled := by
    intro seen hseen t ht
    have hbefore := h.signalled seen hseen t ht
    unfold isCancelled at hbefore ⊢
    rw [Option.any_eq_true] at hbefore ⊢
    obtain ⟨task, hget, hc⟩ := hbefore
    exact ⟨task, tasks_spawn_of_get _ _ hget, hc⟩

end spawn

end steps

section runs

variable {σ} {i t : ℕ}

def Single (σ : SessionManager) : Prop := σ.OneTask ∧ σ.OneCall

/-- A step that only moves a call on. -/
theorem Single.set (h : σ.Single) {call next : ManagerCall} (hget : σ.calls[i]? = some call) (hnext : σ.Fits next)
    (hinit : next.initiating = false) : (σ.set i next).Single :=
  ⟨h.1.set i next, h.2.set rfl hget (fun _ _ _ hfits => hfits) hnext (fun hn => absurd (hinit.symm.trans hn) nofun)⟩

theorem Single.enter (h : σ.Single) {call : ManagerCall} (hfits : σ.Fits call) (hinit : call.initiating = false) :
    (σ.enter call).Single := by
  refine ⟨⟨h.1.free, h.1.still, h.1.alone, h.1.current, h.1.holds, h.1.signalled⟩, fun j k a b ha hai hb hbi => ?_,
    fun c hc => ?_⟩
  · have hold : ∀ (l : ℕ) (c : ManagerCall), (σ.enter call).calls[l]? = some c → c.initiating = true →
        σ.calls[l]? = some c := by
      intro l c hl hci
      rw [SessionManager.enter, List.getElem?_append] at hl
      split_ifs at hl with hlt
      · exact hl
      · rw [List.getElem?_singleton] at hl
        split_ifs at hl
        rw [← Option.some.inj hl, hinit] at hci
        exact nomatch hci
    exact h.2.alone j k a b (hold j a ha hai) hai (hold k b hb hbi) hbi
  · have hfits' : σ.Fits c := by
      rcases List.mem_append.mp hc with hold | hnew
      · exact h.2.fits c hold
      · exact List.mem_singleton.mp hnew ▸ hfits
    cases c <;> exact hfits'

theorem fits_cancelled (b : Bool) (caller : Canceller) : σ.Fits (caller.cancelled b) := by
  rcases caller with _ | (_ | _) <;> trivial

theorem initiating_cancelled (b : Bool) (caller : Canceller) : (caller.cancelled b).initiating = false := by
  rcases caller with _ | (_ | _) <;> rfl

theorem locking_free (h : σ.OneTask) (next : SessionManager) : σ.locking next = next := if_pos h.free

theorem Single.call (h : σ.Single) (hapart : σ.Apart (.call i)) : (σ.call i).Single := by
  unfold SessionManager.call
  split
  case h_1 request hget =>
    obtain ⟨hidle, hcalls⟩ := hapart _ hget rfl
    have hnone : ∀ t, ¬ σ.Running t := fun t ht => by
      have hmem : t ∈ σ.running := mem_running.mpr ht
      rw [hidle] at hmem
      exact nomatch hmem
    refine ⟨(h.1.newToken hidle).set i _, h.2.set rfl hget (fun c hc _ _ => ?_) hnone
      (fun _ => .inr (fun c hc => (hcalls c hc).1))⟩
    have hc := hcalls c hc
    cases c with
    | dropTask | readToken | setTask => exact nomatch hc.1
    | checkRunning _ seen | signal _ seen =>
      have hempty : seen = [] := by simpa [ManagerCall.cancelling] using hc.2
      exact fun t ht => absurd (hempty ▸ ht) List.not_mem_nil
    | _ => trivial
  case h_2 request hget =>
    rw [locking_free h.1]
    have hnone : ∀ t, ¬ σ.Running t := h.2.fits _ (List.mem_of_getElem? hget)
    exact ⟨h.1.dropTask.set i _, h.2.set rfl hget (fun c _ hc hfits => hfits.other (hc rfl) (fun _ ht => ht))
      ⟨hnone, rfl⟩ (fun _ => .inl rfl)⟩
  case h_3 request hget =>
    obtain ⟨hnone, hcell⟩ := h.2.fits _ (List.mem_of_getElem? hget)
    exact ⟨(h.1.spawn request hnone hcell).set i _,
      h.2.set rfl hget (fun c _ hc hfits => hfits.other (hc rfl) (fun _ => holds_spawn _ _))
        (fun _ => running_spawn _ _ hnone) (fun _ => .inl rfl)⟩
  case h_4 request handle hget =>
    rw [locking_free h.1]
    have hown : ∀ t, σ.Running t → t = handle := h.2.fits _ (List.mem_of_getElem? hget)
    exact ⟨(h.1.setTask hown).set i _,
      h.2.set rfl hget (fun c _ hc hfits => hfits.other (hc rfl) (fun _ ht => ht)) trivial (fun hn => (nomatch hn))⟩
  case h_5 sessionId hget =>
    rw [locking_free h.1]
    split_ifs <;> exact h.set hget trivial rfl
  case h_6 caller hget => exact h.set hget (fun t ht => h.1.holds t (mem_running.mp ht)) rfl
  case h_7 caller seen hget =>
    rw [locking_free h.1]
    split_ifs with hrunning
    · obtain ⟨handle, hcell, hrun⟩ := isDiscoveryRunning_iff.mp hrunning
      refine h.set hget (fun t ht => ?_) rfl
      rcases List.mem_append.mp ht with hold | hnew
      · exact h.2.fits _ (List.mem_of_getElem? hget) t hold
      · rw [hcell] at hnew
        exact List.mem_singleton.mp hnew ▸ h.1.holds handle hrun
    · exact h.set hget (fits_cancelled false caller) (initiating_cancelled false caller)
  case h_8 caller seen hget =>
    have hseen : ∀ t ∈ seen, σ.Holds t := h.2.fits _ (List.mem_of_getElem? hget)
    exact ⟨(h.1.signal hseen).set i _, h.2.set rfl hget (fun c _ _ hfits => hfits.fewer (fun _ ht => ht) rfl (fun _ ht => ht))
      (fits_cancelled true caller) (fun hn => absurd ((initiating_cancelled true caller).symm.trans hn) nofun)⟩
  case h_9 request hget =>
    rw [locking_free h.1]
    split_ifs <;> exact h.set hget trivial rfl
  case h_10 => exact h

theorem Single.setStage (h : σ.Single) (ht : σ.Running t) {s : TaskStage} (hs : s ≠ .renewing) : (σ.setStage t s).Single :=
  ⟨h.1.setStage ht hs, h.2.setStage ht⟩

theorem Single.discovered (h : σ.Single) (t : ℕ) : (σ.discovered t).Single := by
  unfold SessionManager.discovered
  split
  case h_1 hget =>
    refine h.setStage ⟨_, hget, nofun⟩ ?_
    split_ifs <;> exact nofun
  case h_2 => exact h

theorem Single.panicked (h : σ.Single) (t : ℕ) : (σ.panicked t).Single := by
  unfold SessionManager.panicked
  split
  case h_1 hget => exact h.setStage ⟨_, hget, nofun⟩ nofun
  case h_2 => exact h

/-- The only task that could clear a finished one has finished itself. -/
theorem Single.clearCompletedTask (h : σ.Single) (t : ℕ) : (σ.clearCompletedTask t).Single := by
  unfold SessionManager.clearCompletedTask
  split
  case h_1 hget =>
    have hrun : σ.Running t := ⟨_, hget, nofun⟩
    have hnot : ¬ (σ.currentTask.any σ.isFinished = true) := by
      rcases h.1.current t hrun with hcell | hcell <;> rw [hcell]
      · exact nofun
      · exact Bool.eq_false_iff.mp (isFinished_eq_false_iff.mpr hrun)
    rw [locking_free h.1, if_neg hnot]
    exact h.setStage hrun nofun
  case h_2 hget => exact absurd rfl (h.1.still _ (List.mem_of_getElem? hget))
  case h_3 => exact h

theorem Single.step (h : σ.Single) (e : ManagerEvent) (hapart : σ.Apart e) : (σ.step e).Single := by
  cases e with
  | handleDiscoveryRequest request => exact h.enter trivial rfl
  | handleCancelRequest sessionId => exact h.enter trivial rfl
  | requestWork payload cancelCurrentSession =>
    cases cancelCurrentSession with
    | true => exact h.enter trivial rfl
    | false => exact h.enter (fits_cancelled false _) (initiating_cancelled false _)
  | call i => exact h.call hapart
  | discovered t => exact h.discovered t
  | panicked t => exact h.panicked t
  | clearCompletedTask t => exact h.clearCompletedTask t

theorem single_new : new.Single :=
  ⟨⟨rfl, nofun, fun _ _ ⟨_, h, _⟩ => (nomatch h), fun _ ⟨_, h, _⟩ => (nomatch h), fun _ ⟨_, h, _⟩ => (nomatch h), nofun⟩,
    fun _ _ _ _ h => (nomatch h), nofun⟩

theorem one_discovery_at_a_time (events : List ManagerEvent) (h : Meets step Apart new events) :
    (events.foldl step new).OneAtATime :=
  have hsingle := Meets.invariant Single (fun _ e h hapart => h.step e hapart) single_new h
  ⟨hsingle.1.alone, hsingle.1.signalled⟩

end runs

section requests

def networkRequest (sessionId : Uuid) : DaemonDiscoveryRequest := ⟨sessionId, .network none .bestService⟩

def stepsOf (i times : ℕ) : List ManagerEvent := List.replicate times (.call i)

/-- Work is polled together with the cancellation of the session before. -/
theorem one_discovery_at_a_time_polled :
    ((.handleDiscoveryRequest (networkRequest 1) :: stepsOf 0 4 ++ .requestWork (some (networkRequest 2)) true :: stepsOf 1 3 ++
      .discovered 0 :: stepsOf 1 5).foldl step new).OneAtATime :=
  one_discovery_at_a_time _ (by decide +kernel)

theorem two_discoveries_at_a_time : ¬ ∀ events : List ManagerEvent, (events.foldl step new).OneAtATime := by
  intro h
  have hsame := (h (.handleDiscoveryRequest (networkRequest 1) :: .handleDiscoveryRequest (networkRequest 2) ::
    stepsOf 0 4 ++ stepsOf 1 4)).1 0 1 ⟨_, rfl, nofun⟩ ⟨_, rfl, nofun⟩
  exact absurd hsame nofun

end requests

end SessionManager

end VantageNet.Scanning
