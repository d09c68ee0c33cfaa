import VantageNet.Discovery.Calls

/-!
The endpoints the daemons call: `receive_discovery_update` (`discovery/handlers.rs`) and
`receive_work_request` (`daemons/handlers.rs`, with its namesake in `daemons/service.rs`).
`networkId` and `daemonId` of the first are those of the authenticated daemon.
-/

namespace VantageNet

open Interaction Interaction.Program

def receiveDiscoveryUpdate (daemonNetworkId daemonId : Uuid) (update : DiscoveryUpdatePayload) : Service Unit :=
  if update.networkId ≠ daemonNetworkId then
    fail (.forbidden "Cannot send updates for a different network")
  else if update.daemonId ≠ daemonId then
    fail (.forbidden "Cannot send updates for a different daemon")
  else updateSession update

def announceWork (daemon : Daemon) (cancel : Bool) (nextSession : Option DiscoveryUpdatePayload) :
    Service Unit := do
  when cancel do orFail (← publishEntity .discoveryCancelled daemon.id)
  when nextSession.isSome do orFail (← publishEntity .discoveryStarted daemon.id)

def workingDaemon (daemonNetworkId daemonId : Uuid) : Service Daemon := do
  match ← orFail (← daemonGet daemonId) with
  | none => fail (.daemonNotFound daemonId)
  | some daemon =>
    if daemon.networkId ≠ daemonNetworkId then
      fail (.forbidden "Cannot access daemon on a different network")
    else return daemon

def receiveWorkRequest (daemonNetworkId daemonId : Uuid) (request : DaemonHeartbeatPayload) :
    Service (Option DiscoveryUpdatePayload × Bool) := do
  let found ← workingDaemon daemonNetworkId daemonId
  let daemon := { found with
    lastSeen := ← utcNow, url := request.url, name := request.name, mode := request.mode }
  orFail (← daemonUpdate daemon)
  let sessions ← getSessionsForDaemon daemonId
  let (cancel, _) ← pullCancellationForDaemon daemonId
  let nextSession := sessions.head?
  announceWork daemon cancel nextSession
  return (nextSession, cancel)

end VantageNet
