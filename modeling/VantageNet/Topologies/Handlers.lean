import VantageNet.Accounts.Permissions
import VantageNet.Topologies.Database

/-!
The endpoints that bring a topology up to date or lock it: `topology/handlers.rs`. The path of
a refresh names a topology that the handlers never look at: what they work on is the body.
-/

namespace VantageNet.Topologies

open Events Interaction Interaction.Program TopologyService

variable {R : Records}

/-- `Authorized<Member>` and the check of the network that the body names. -/
def admitted (auth : AuthenticatedEntity) (topology : Topology R) : Except Failure Unit :=
  if auth.atLeast .member then
    if auth.networkIds.contains topology.base.networkId then .ok ()
    else .error (.forbidden "You don't have access to this topology's network")
  else .error (.forbidden "Member permission required")

def refresh (auth : AuthenticatedEntity) (_id : Uuid) (topology : Topology R) : Task R Unit := do
  orFail (admitted auth topology)
  let data ← getEntityData topology.base.networkId
  let services ← getServiceData topology.base.networkId topology.base.options
  let topology := topology.setEntities (data.withServices services)
  let _ ← update topology auth
  ret ()

/-- The first rebuild is a step of the onboarding. -/
def reportRebuild (auth : AuthenticatedEntity) : Task R Unit :=
  match auth.organizationId with
  | none => ret ()
  | some organizationId => do
    match ← Storage.getOnboarding organizationId with
    | none => ret ()
    | some onboarding =>
      when (!onboarding.contains .firstTopologyRebuild) (do
        let id ← Storage.newV4
        let now ← Storage.utcNow
        Storage.publishTelemetry ⟨id, organizationId, .firstTopologyRebuild, now, auth, true⟩)

def rebuild (auth : AuthenticatedEntity) (_id : Uuid) (topology : Topology R) : Task R Unit := do
  orFail (admitted auth topology)
  let data ← getEntityData topology.base.networkId
  let services ← getServiceData topology.base.networkId topology.base.options
  let (nodes, edges) := R.buildGraph topology.base.options (data.withServices services) topology.base.nodes
    topology.base.edges
  let topology := topology.setEntities (data.withServices services)
  let topology := topology.setGraph nodes edges
  let now ← Storage.utcNow
  let topology := topology.clearStale now
  let _ ← update topology auth
  reportRebuild auth

/-- The stored topology with the id of the path, changed, and put back. -/
def changeStored (auth : AuthenticatedEntity) (id : Uuid) (change : Topology R → Task R (Topology R)) :
    Task R (Topology R) := do
  match ← Storage.getById id with
  | none => fail (.notFound id)
  | some topology =>
    if auth.networkIds.contains topology.base.networkId then do
      let topology ← change topology
      update topology auth
    else fail (.forbidden "You don't have access to this topology")

def lock (auth : AuthenticatedEntity) (id : Uuid) : Task R (Topology R) :=
  if auth.atLeast .member then
    match auth.userId with
    | none => fail (.forbidden "User context required")
    | some userId => changeStored auth id (fun topology => do
        let now ← Storage.utcNow
        ret (topology.lock userId now))
  else fail (.forbidden "Member permission required")

def unlock (auth : AuthenticatedEntity) (id : Uuid) : Task R (Topology R) :=
  if auth.atLeast .member then changeStored auth id (fun topology => ret topology.unlock)
  else fail (.forbidden "Member permission required")

inductive Endpoint where
  | refresh
  | rebuild
  deriving DecidableEq

def serve : Endpoint → AuthenticatedEntity → Uuid → Topology R → Task R Unit
  | .refresh => refresh
  | .rebuild => rebuild

end VantageNet.Topologies
