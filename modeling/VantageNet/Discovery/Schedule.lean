import VantageNet.Discovery.Store

/-!
The functions of `DiscoveryService` that keep the discovery table and the job scheduler
(`discovery/service.rs`), with `create` and `update` of the generic storage.
-/

namespace VantageNet

open Interaction Interaction.Program

def newDiscovery (base : DiscoveryBase) : Service Discovery := do
  let now ← utcNow
  let id ← newV4
  return ⟨id, now, now, base⟩

def storageUpdate (discovery : Discovery) : Service Discovery := do
  let updated := { discovery with updatedAt := ← utcNow }
  orFail (← discoveryUpdate updated)
  return updated

def scheduleDiscovery (discovery : Discovery) : Service Uuid :=
  match discovery.base.runType with
  | .scheduled cronSchedule _ enabled =>
    if enabled then do
      orFail (← jobNew cronSchedule)
      acquire .scheduler .write
      let added ← schedulerAdd ⟨cronSchedule, discovery⟩
      release .scheduler
      orFail added
    else fail .notEnabled
  | _ => fail .notScheduled

def scheduleOrDisable (discovery : Discovery) : Service (Except Error Uuid × Discovery) := do
  match ← (scheduleDiscovery discovery).attempt with
  | .ok jobId => return (.ok jobId, discovery)
  | .error e => return (.error e, ← storageUpdate discovery.disable)

def insertDiscovery (discovery : Discovery) : Service Discovery := do
  let entity ← if discovery.id = Uuid.nil then newDiscovery discovery.base else ret discovery
  orFail (← discoveryCreate entity)
  return entity

def announceCreated (discovery : Discovery) : Service Discovery := do
  orFail (← publishEntity .created discovery.id)
  return discovery

def createDiscovery (discovery : Discovery) : Service Discovery := do
  let created ← insertDiscovery discovery
  if created.base.runType.isScheduled then
    match ← scheduleOrDisable created with
    | (.error _, disabled) => return disabled
    | (.ok _, scheduled) => announceCreated scheduled
  else announceCreated created

def removeFromScheduler (id : Uuid) : Service Unit := do
  acquire .scheduler .write
  let _ ← schedulerRemove id
  release .scheduler

def cronChanged : RunType → RunType → Bool
  | .scheduled currentCron _ _, .scheduled newCron _ _ => currentCron ≠ newCron
  | _, _ => false

def reschedule (discovery : Discovery) : Service Discovery := do
  removeFromScheduler discovery.id
  let updated ← storageUpdate discovery
  return (← scheduleOrDisable updated).2

def storeUpdated (current discovery : Discovery) : Service Discovery :=
  if cronChanged current.base.runType discovery.base.runType then reschedule discovery
  else storageUpdate discovery

def updateDiscovery (discovery : Discovery) : Service Discovery := do
  match ← orFail (← discoveryGet discovery.id) with
  | none => fail .discoveryNotFound
  | some current =>
    let updated ← storeUpdated current discovery
    orFail (← publishEntity .updated updated.id)
    return updated

def deleteDiscovery (id : Uuid) : Service Unit := do
  match ← orFail (← discoveryGet id) with
  | none => fail .discoveryNotFound
  | some discovery =>
    when discovery.base.runType.isScheduled (removeFromScheduler id)
    orFail (← discoveryDelete id)
    orFail (← publishEntity .deleted discovery.id)

end VantageNet
