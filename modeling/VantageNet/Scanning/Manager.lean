import VantageNet.Discovery.Types

/-!
The daemon's sessions: `DaemonDiscoverySessionManager` and those who call it, `handle_discovery_request`,
`handle_cancel_request` and the polling of `request_work`. A step of a call or of a discovery's task takes one lock.
-/

namespace VantageNet.Scanning

/-- What the task that `spawn_discovery` spawns is at. -/
inductive TaskStage where
  | discovering
  /-- About to lock `current_task` in `clear_completed_task`. -/
  | clearing
  /-- Has locked `current_task`, about to lock `cancellation_token`. -/
  | renewing
  | finished
  deriving DecidableEq

structure DiscoveryTask where
  request : DaemonDiscoveryRequest
  cancelToken : ℕ
  stage : TaskStage

/-- Who calls `cancel_current_session`: the request handler, or the polling with the work it was given. -/
inductive Canceller where
  | handler (sessionId : Uuid)
  | polling (payload : Option DaemonDiscoveryRequest)

/-- The next step of a call. The first four are `initiate_session`. -/
inductive ManagerCall where
  | newToken (request : DaemonDiscoveryRequest)
  | dropTask (request : DaemonDiscoveryRequest)
  | readToken (request : DaemonDiscoveryRequest)
  | setTask (request : DaemonDiscoveryRequest) (handle : ℕ)
  | checkBeforeCancel (sessionId : Uuid)
  | cancelCurrentSession (caller : Canceller)
  | checkRunning (caller : Canceller) (seen : List ℕ)
  | signal (caller : Canceller) (seen : List ℕ)
  | checkIdle (request : DaemonDiscoveryRequest)
  | returned (result : Except String Uuid)
  | polled

/-- What follows on the return of `cancel_current_session`. -/
def Canceller.cancelled (b : Bool) : Canceller → ManagerCall
  | .handler sessionId => .returned (if b then .ok sessionId else .error "Failed to cancel discovery session")
  | .polling none => .polled
  | .polling (some request) => .checkIdle request

/-- Tasks and tokens are numbered. `heldBy` is the task that holds the lock of `current_task` from one step to the next.
For every return of true, `signalled` has the tasks that were running when `cancel_current_session` was called or
looked at the current task. -/
structure SessionManager where
  currentTask : Option ℕ
  heldBy : Option ℕ
  cancellationToken : ℕ
  tokens : ℕ
  cancelled : List ℕ
  tasks : List DiscoveryTask
  calls : List ManagerCall
  signalled : List (List ℕ)

inductive ManagerEvent where
  | handleDiscoveryRequest (request : DaemonDiscoveryRequest)
  | handleCancelRequest (sessionId : Uuid)
  | requestWork (payload : Option DaemonDiscoveryRequest) (cancelCurrentSession : Bool)
  | call (i : ℕ)
  | discovered (t : ℕ)
  | panicked (t : ℕ)
  | clearCompletedTask (t : ℕ)

namespace SessionManager

def new : SessionManager := ⟨none, none, 0, 1, [], [], [], []⟩

variable (σ : SessionManager)

def isFinished (handle : ℕ) : Bool := σ.tasks[handle]?.all (fun task => task.stage = .finished)

def running : List ℕ := (List.range σ.tasks.length).filter (fun t => !σ.isFinished t)

def isDiscoveryRunning : Bool := σ.currentTask.any (fun handle => !σ.isFinished handle)

def isCancelled (t : ℕ) : Bool := σ.tasks[t]?.any (fun task => task.cancelToken ∈ σ.cancelled)

def set (i : ℕ) (call : ManagerCall) : SessionManager := { σ with calls := σ.calls.set i call }

def setStage (t : ℕ) (stage : TaskStage) : SessionManager :=
  { σ with tasks := σ.tasks.modify t (fun task => { task with stage := stage }) }

def enter (call : ManagerCall) : SessionManager := { σ with calls := σ.calls ++ [call] }

/-- What `runtime/service.rs` does with the answer of the server. -/
def requestWork (payload : Option DaemonDiscoveryRequest) (cancelCurrentSession : Bool) : ManagerCall :=
  if cancelCurrentSession then .cancelCurrentSession (.polling payload) else (Canceller.polling payload).cancelled false

def renewToken : SessionManager := { σ with cancellationToken := σ.tokens, tokens := σ.tokens + 1 }

def spawnDiscovery (request : DaemonDiscoveryRequest) (cancelToken : ℕ) : SessionManager :=
  { σ with tasks := σ.tasks ++ [⟨request, cancelToken, .discovering⟩] }

/-- A step that takes the lock of `current_task`. -/
def locking (next : SessionManager) : SessionManager := if σ.heldBy = none then next else σ

def call (i : ℕ) : SessionManager :=
  match σ.calls[i]? with
  | some (.newToken request) => σ.renewToken.set i (.dropTask request)
  | some (.dropTask request) => σ.locking ({ σ with currentTask := none }.set i (.readToken request))
  | some (.readToken request) =>
    (σ.spawnDiscovery request σ.cancellationToken).set i (.setTask request σ.tasks.length)
  | some (.setTask request handle) =>
    σ.locking ({ σ with currentTask := some handle }.set i (.returned (.ok request.sessionId)))
  | some (.checkBeforeCancel sessionId) =>
    σ.locking (σ.set i (if σ.isDiscoveryRunning then .cancelCurrentSession (.handler sessionId)
      else .returned (.error "Discovery session not currently running")))
  | some (.cancelCurrentSession caller) => σ.set i (.checkRunning caller σ.running)
  | some (.checkRunning caller seen) =>
    σ.locking (σ.set i (if σ.isDiscoveryRunning then .signal caller (seen ++ σ.currentTask.toList)
      else caller.cancelled false))
  | some (.signal caller seen) =>
    { σ with cancelled := σ.cancellationToken :: σ.cancelled, signalled := seen :: σ.signalled }.set i
      (caller.cancelled true)
  | some (.checkIdle request) => σ.locking (σ.set i (if σ.isDiscoveryRunning then .polled else .newToken request))
  | _ => σ

/-- The end of `discover`. -/
def discovered (t : ℕ) : SessionManager :=
  match σ.tasks[t]? with
  | some ⟨_, _, .discovering⟩ => σ.setStage t (if σ.isCancelled t then .finished else .clearing)
  | _ => σ

def panicked (t : ℕ) : SessionManager :=
  match σ.tasks[t]? with
  | some ⟨_, _, .discovering⟩ => σ.setStage t .finished
  | _ => σ

def clearCompletedTask (t : ℕ) : SessionManager :=
  match σ.tasks[t]? with
  | some ⟨_, _, .clearing⟩ =>
    σ.locking (if σ.currentTask.any σ.isFinished then { σ with heldBy := some t }.setStage t .renewing
      else σ.setStage t .finished)
  | some ⟨_, _, .renewing⟩ =>
    { σ.renewToken with currentTask := none, heldBy := none }.setStage t .finished
  | _ => σ

def step : ManagerEvent → SessionManager
  | .handleDiscoveryRequest request => σ.enter (.newToken request)
  | .handleCancelRequest sessionId => σ.enter (.checkBeforeCancel sessionId)
  | .requestWork payload cancelCurrentSession => σ.enter (requestWork payload cancelCurrentSession)
  | .call i => σ.call i
  | .discovered t => σ.discovered t
  | .panicked t => σ.panicked t
  | .clearCompletedTask t => σ.clearCompletedTask t

end SessionManager

end VantageNet.Scanning
