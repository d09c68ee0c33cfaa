import VantageNet.Interaction.Tracking
import VantageNet.Topologies.Batching
import VantageNet.Topologies.Confinement

/-!
The locks of the topologies. Everything that changes a topology writes the whole of it, its
lock with it: from the row just read, from the body of the request, or from the rows that a
batch listed before it came to them.
-/

namespace VantageNet.Topologies

open Events Interaction Interaction.Program TopologyService

variable {R : Records}

abbrev LockState := Bool × Option Uuid

def Topology.lockState (topology : Topology R) : LockState := (topology.base.isLocked, topology.base.lockedBy)

inductive TopologyCall (R : Records) where
  | lock (auth : AuthenticatedEntity) (id : Uuid)
  | unlock (auth : AuthenticatedEntity) (id : Uuid)
  | bringUpToDate (endpoint : Endpoint) (auth : AuthenticatedEntity) (id : Uuid) (topology : Topology R)
  | handleEvents (events : List (TopologyEvent R))

def TopologyCall.program : TopologyCall R → Task R Unit
  | .lock auth id => (Topologies.lock auth id).bind (fun _ => ret ())
  | .unlock auth id => (Topologies.unlock auth id).bind (fun _ => ret ())
  | .bringUpToDate endpoint auth id topology => serve endpoint auth id topology
  | .handleEvents events => TopologyService.handleEvents events

/-- What a call knows of the locks that it writes. -/
inductive Writer where
  | sets (id : Uuid) (lockState : LockState)
  | carries (id : Uuid) (lockState : LockState)
  | listed (pending : List (Uuid × LockState))
  deriving DecidableEq

namespace Writer

def writes : Writer → Option (Uuid × LockState)
  | .sets id lockState | .carries id lockState => some (id, lockState)
  | .listed pending => pending.head?

def pending : Writer → List (Uuid × LockState)
  | .listed pending => pending
  | _ => []

def wrote : Writer → Writer
  | .sets _ _ => .listed []
  | .carries id lockState => .carries id lockState
  | .listed pending => .listed pending.tail

def found (topologies : List (Topology R)) : Writer → Writer
  | .listed _ => .listed (topologies.map (fun t => (t.id, t.lockState)))
  | a => a

/-- Nothing is to be locked or unlocked any more. -/
def settled : Writer → Bool
  | .sets _ _ => false
  | _ => true

/-- Where a call stands when it begins. -/
def start : TopologyCall R → Writer
  | .lock auth id => .sets id (true, auth.userId)
  | .unlock _ id => .sets id (false, none)
  | .bringUpToDate _ _ _ topology => .carries topology.id topology.lockState
  | .handleEvents _ => .listed []

end Writer

/-- Only the lock is written that the call knows of. -/
def writing : Monitor (topologySig R) Writer where
  ok
    | a, .updateTopology (row : Topology R) => a.writes = some (row.id, row.lockState)
    | _, _ => True
  may
    | .getTopology id, (r : Except Failure (Option (Topology R))) => ∀ topology, r = .ok (some topology) → topology.id = id
    | _, _ => True
  next
    | a, .listTopologies _, .ok (topologies : List (Topology R)) => a.found topologies
    | a, .listTopologies _, .error _ => a.found ([] : List (Topology R))
    | a, .updateTopology _, .ok _ => a.wrote
    | a, _, _ => a

section programs

variable {a : Writer}

/-- An operation that has nothing to do with the rows of the topologies. -/
def Apart : TopologyOp R → Prop
  | .listTopologies _ | .updateTopology _ => False
  | _ => True

theorem follows_of_apart {α : Type} {p : Task R α} (hp : Only Apart p) : Follows writing (fun _ b => b = a) a p := by
  induction p with
  | ret x => rfl
  | fail e => trivial
  | op i k ih =>
    refine ⟨?_, fun r _ => ?_⟩
    · cases i <;> first | trivial | exact hp.1.elim
    · have hnext : writing.next a i r = a := by
        cases i <;> first | rfl | exact hp.1.elim
      rw [hnext]
      exact ih r (hp.2 r)

theorem follows_update {topology : Topology R} (auth : AuthenticatedEntity)
    (h : a.writes = some (topology.id, topology.lockState)) :
    Follows writing (fun _ b => b = a.wrote) a (update topology auth) := by
  refine ⟨trivial, fun r _ => ?_⟩
  apply Follows.orFail_bind
  rintro (_ | current) -
  · trivial
  · refine ⟨trivial, fun updatedAt _ => ⟨h, fun answer _ => ?_⟩⟩
    rcases answer with e | ⟨⟩
    · trivial
    · exact ⟨trivial, fun _ _ => ⟨trivial, fun _ _ => ⟨trivial, fun _ _ => rfl⟩⟩⟩

theorem follows_changeStored {change : Topology R → Task R (Topology R)} {id : Uuid} {lockState : LockState}
    (auth : AuthenticatedEntity) (hchange : ∀ topology, Follows writing
      (fun changed b => b = .sets id lockState ∧ changed.id = topology.id ∧ changed.lockState = lockState)
      (.sets id lockState) (change topology)) :
    Follows writing (fun _ b => b.settled = true) (.sets id lockState) (changeStored auth id change) := by
  refine ⟨trivial, fun r hr => ?_⟩
  apply Follows.orFail_bind
  rintro (_ | topology) rfl
  · trivial
  · dsimp only
    split_ifs
    · apply Follows.bind
      apply (hchange topology).imp
      rintro changed b ⟨rfl, hid, hlock⟩
      have hfound : topology.id = id := hr topology rfl
      refine (follows_update auth ?_).imp (fun _ b hb => by rw [hb]; rfl)
      rw [hid, hfound, hlock]
      rfl
    · trivial

theorem apart_getEntityData (networkId : Uuid) : Only (Apart (R := R)) (getEntityData networkId) :=
  only_getEntityData (fun _ _ _ => trivial)

theorem apart_getServiceData (networkId : Uuid) (options : TopologyRequestOptions) :
    Only (Apart (R := R)) (getServiceData networkId options) := only_getServiceData trivial options

theorem follows_serve (endpoint : Endpoint) (auth : AuthenticatedEntity) (id : Uuid) (topology : Topology R) :
    Follows writing (fun _ b => b.settled = true) (.carries topology.id topology.lockState)
      (serve endpoint auth id topology) := by
  cases endpoint with
  | refresh =>
    refine Follows.orFail_bind (fun _ _ => ?_)
    refine Follows.seq (follows_of_apart (apart_getEntityData _)) (fun data => ?_)
    refine Follows.seq (follows_of_apart (apart_getServiceData _ _)) (fun services => ?_)
    apply Follows.bind
    exact (follows_update auth rfl).imp (fun _ b hb => by rw [hb]; rfl)
  | rebuild =>
    refine Follows.orFail_bind (fun _ _ => ?_)
    refine Follows.seq (follows_of_apart (apart_getEntityData _)) (fun data => ?_)
    refine Follows.seq (follows_of_apart (apart_getServiceData _ _)) (fun services => ?_)
    refine ⟨trivial, fun now _ => ?_⟩
    refine Follows.bind (p := update _ auth) ((follows_update auth rfl).imp (fun _ b hb => ?_))
    have hreport : Only (Apart (R := R)) (reportRebuild auth) :=
      only_reportRebuild auth (fun _ => trivial) trivial trivial (fun _ => trivial)
    exact (follows_of_apart hreport).imp (fun _ c hc => by rw [hc, hb]; rfl)

theorem follows_applyTo (networkId : Uuid) (changes : TopologyChanges) (data : EntityData R) (topology : Topology R)
    (pending : List (Uuid × LockState)) :
    Follows writing (fun _ b => b = .listed pending) (.listed ((topology.id, topology.lockState) :: pending))
      (applyTo networkId changes data topology) := by
  refine Follows.seq (follows_of_apart (apart_getServiceData _ _)) (fun services => ?_)
  have hremoved (removed : Kind → List Uuid) (kinds : List Kind) :
      Only (Apart (R := R)) (accumulate (applyRemoved changes) removed kinds) := by
    induction kinds generalizing removed with
    | nil => trivial
    | cons k kinds ih => exact Only.bind (p := applyRemoved changes removed k) ⟨trivial, fun _ => trivial⟩ ih
  refine Follows.seq (follows_of_apart (hremoved _ _)) (fun removed => ?_)
  apply Follows.bind
  apply (follows_update .system ?_).imp
  · rintro updated b rfl
    exact ⟨trivial, fun _ _ => rfl⟩
  · rfl

/-- The topologies are written in the order in which they have been listed. -/
theorem follows_applyEach (networkId : Uuid) (changes : TopologyChanges) (data : EntityData R)
    (topologies : List (Topology R)) :
    Follows writing (fun _ b => b = .listed []) (.listed (topologies.map (fun t => (t.id, t.lockState))))
      (forEach (applyTo networkId changes data) topologies) := by
  induction topologies with
  | nil => rfl
  | cons topology topologies ih =>
    apply Follows.bind
    apply (follows_applyTo networkId changes data topology _).imp
    rintro _ b rfl
    exact ih

theorem follows_applyToNetwork (batch : Batch) (networkId : Uuid) (pending : List (Uuid × LockState)) :
    Follows writing (fun _ b => ∃ pending, b = .listed pending) (.listed pending)
      (applyToNetwork batch networkId : Task R Unit) := by
  refine ⟨trivial, fun r _ => ?_⟩
  rcases r with e | topologies
  · trivial
  · refine Follows.seq (p := getEntityData networkId) (follows_of_apart (apart_getEntityData _)) (fun data => ?_)
    cases batch.topologyUpdates networkId with
    | none => exact ⟨_, rfl⟩
    | some changes => exact (follows_applyEach networkId changes data topologies).imp (fun _ b hb => ⟨[], hb⟩)

theorem apart_gather (batch : Batch) (event : TopologyEvent R) : Only Apart (gather batch event) := by
  cases event with
  | entity event =>
    simp only [gather]
    cases event.networkId with
    | none => trivial
    | some networkId =>
      cases updatedTopology event with
      | none => trivial
      | some topology =>
        have hpass : Only Apart (passOn networkId event topology) :=
          (apart_getServiceData _ _).bind (fun _ => ⟨trivial, fun _ => trivial⟩)
        exact hpass.bind (fun _ => trivial)
  | _ => trivial

theorem follows_handleEvents (events : List (TopologyEvent R)) :
    Follows writing (fun _ b => b.settled = true) (.listed []) (TopologyService.handleEvents events) := by
  have hgather (batch : Batch) (events : List (TopologyEvent R)) : Only Apart (accumulate gather batch events) := by
    induction events generalizing batch with
    | nil => trivial
    | cons event events ih => exact (apart_gather batch event).bind ih
  have heach (batch : Batch) (networkIds : List Uuid) (pending : List (Uuid × LockState)) :
      Follows writing (fun _ b => b.settled = true) (.listed pending)
        (forEach (applyToNetwork batch) networkIds : Task R Unit) := by
    induction networkIds generalizing pending with
    | nil => rfl
    | cons networkId networkIds ih =>
      apply Follows.bind
      apply (follows_applyToNetwork batch networkId pending).imp
      rintro _ b ⟨pending, rfl⟩
      exact ih pending
  unfold TopologyService.handleEvents
  split_ifs
  · rfl
  · refine Follows.seq (follows_of_apart (hgather _ _)) (fun batch => ?_)
    exact ⟨trivial, fun networkIds _ => heach batch networkIds []⟩

theorem follows_call (call : TopologyCall R) :
    Follows writing (fun _ b => b.settled = true) (Writer.start call) call.program := by
  cases call with
  | lock auth id =>
    apply Follows.bind
    unfold Topologies.lock
    split_ifs
    · cases huser : auth.userId with
      | none => trivial
      | some userId =>
        simp only [Writer.start, huser]
        refine (follows_changeStored auth (fun topology => ?_)).imp (fun _ _ hb => hb)
        exact ⟨trivial, fun now _ => ⟨rfl, rfl, rfl⟩⟩
    · trivial
  | unlock auth id =>
    apply Follows.bind
    unfold Topologies.unlock
    split_ifs
    · refine (follows_changeStored auth (fun topology => ?_)).imp (fun _ _ hb => hb)
      exact ⟨rfl, rfl, rfl⟩
    · trivial
  | bringUpToDate endpoint auth id topology => exact follows_serve endpoint auth id topology
  | handleEvents events => exact follows_handleEvents events

end programs

section runs

def locking (R : Records) : Tracking (topologySig R) Failure Empty (TopologyCall R) (Db R) Writer where
  scheme := ⟨TopologyCall.program, fun _ => .none, topologyStep⟩
  monitor := writing
  start := Writer.start

abbrev TopologyRun (R : Records) := Tracked (topologySig R) Failure Empty (TopologyCall R) (Db R) Writer

abbrev TopologyTick (R : Records) := Tick (topologySig R) (TopologyCall R)

/-- A run, and beside it what each topology was last locked or unlocked to. -/
structure Watched (R : Records) where
  run : TopologyRun R
  set : Uuid → Option LockState

def Watched.at (db : Db R) : Watched R := ⟨⟨⟨[], db⟩, fun _ => .listed []⟩, fun _ => none⟩

/-- A lock or an unlock that has written its topology. -/
def noted (set : Uuid → Option LockState) (a : Writer) (o : TopologyOp R) (answer : o.Reply) : Uuid → Option LockState :=
  match a, o, answer with
  | .sets id lockState, .updateTopology _, .ok _ => Function.update set id (some lockState)
  | _, _, _ => set

theorem isSome_noted {set : Uuid → Option LockState} {id : Uuid} (a : Writer) (o : TopologyOp R) (answer : o.Reply)
    (h : (set id).isSome = true) : (noted set a o answer id).isSome = true := by
  unfold noted
  split
  · rw [Function.update_apply]
    split_ifs
    · rfl
    · exact h
  · exact h

namespace Watched

variable (w : Watched R)

def setAfter : TopologyTick R → Uuid → Option LockState
  | .spawn _ => w.set
  | .run i answers =>
    match w.run.prog i with
    | some (.op o _) => noted w.set (w.run.points i) o (answers o)
    | _ => w.set

def step (tick : TopologyTick R) : Watched R := ⟨(locking R).step w.run tick, w.setAfter tick⟩

/-- The locks and unlocks that have returned have all been noted, and every topology is locked the way that was noted
last. -/
structure Stands : Prop where
  noted : ∀ t ∈ w.run.pool.threads, t.prog = .ret () →
    ∀ id lockState, Writer.start t.call = .sets id lockState → (w.set id).isSome = true
  kept : ∀ t ∈ w.run.pool.state.topologies.rows, ∀ lockState ∈ w.set t.id, t.lockState = lockState

/-- No body carries another lock than the one that was set, and no lock is set while a batch still has to write the
topology with the one that it has listed. -/
def Undisturbed (w : Watched R) : TopologyTick R → Bool
  | .spawn _ => true
  | .run i _ =>
    match w.run.prog i with
    | some (.op (.updateTopology _) _) =>
      match w.run.points i with
      | .sets id lockState => (List.range w.run.pool.threads.length).all (fun j => !w.run.running j ||
          (w.run.points j).pending.all (fun p => p.1 ≠ id || p.2 = lockState))
      | .carries id lockState => (w.set id).all (fun x => lockState = x)
      | .listed _ => true
    | _ => true

end Watched

structure Holding (w : Watched R) : Prop where
  kept : ∀ t ∈ w.run.pool.state.topologies.rows, ∀ lockState ∈ w.set t.id, t.lockState = lockState
  follows : ∀ j p, w.run.prog j = some p → Follows writing (fun _ b => b.settled = true) (w.run.points j) p
  returned : ∀ (j : ℕ) t, w.run.pool.threads[j]? = some t → ∀ id lockState, Writer.start t.call = .sets id lockState →
    w.run.points j = .sets id lockState ∨ (w.set id).isSome = true
  known : ∀ j, w.run.running j = true → ∀ p ∈ (w.run.points j).pending, ∀ lockState ∈ w.set p.1, p.2 = lockState

theorem holding_at (db : Db R) : Holding (Watched.at db) := by
  constructor
  · intro t _ lockState hset
    cases hset
  · intro j p hp
    cases hp
  · intro j t ht
    cases ht
  · intro j hrunning
    cases hrunning

theorem Holding.spawn {w : Watched R} (h : Holding w) (call : TopologyCall R) : Holding (w.step (.spawn call)) := by
  constructor
  · exact h.kept
  · intro j p hp
    change ((locking R).step w.run (.spawn call)).prog j = some p at hp
    change Follows writing _ (((locking R).step w.run (.spawn call)).points j) p
    rw [Tracking.prog_spawn] at hp
    split_ifs at hp with hj
    · cases hp
      rw [hj, Tracking.points_spawn_self]
      exact follows_call call
    · rw [Tracking.points_spawn_of_ne call hj]
      exact h.follows j p hp
  · intro j t ht id lockState hstart
    change (w.run.pool.threads ++ [_])[j]? = some t at ht
    change ((locking R).step w.run (.spawn call)).points j = _ ∨ _
    by_cases hj : j = w.run.pool.threads.length
    · rw [hj, List.getElem?_concat_length] at ht
      cases ht
      rw [hj, Tracking.points_spawn_self]
      exact .inl hstart
    · have hlt : j < (w.run.pool.threads ++ [_]).length := (List.getElem?_eq_some_iff.mp ht).1
      rw [List.length_append, List.length_singleton] at hlt
      rw [List.getElem?_append_left (by omega)] at ht
      rw [Tracking.points_spawn_of_ne call hj]
      exact h.returned j t ht id lockState hstart
  · intro j hrunning p hp
    change p ∈ (((locking R).step w.run (.spawn call)).points j).pending at hp
    change ((locking R).step w.run (.spawn call)).running j = true at hrunning
    by_cases hj : j = w.run.pool.threads.length
    · rw [hj, Tracking.points_spawn_self] at hp
      cases call <;> cases hp
    · rw [Tracking.points_spawn_of_ne call hj] at hp
      rw [Tracking.running_spawn_of_ne call hj] at hrunning
      exact h.known j hrunning p hp

theorem Holding.passes {w w' : Watched R} (h : Holding w) (hpass : Tracking.Passes w.run w'.run) (hset : w'.set = w.set) :
    Holding w' := by
  have hrunning (j : ℕ) : w'.run.running j = w.run.running j := by
    unfold Tracked.running
    rw [hpass.prog j]
  constructor
  · rw [hpass.state, hset]
    exact h.kept
  · intro j p hp
    rw [hpass.points]
    exact h.follows j p (hpass.prog j ▸ hp)
  · intro j t ht
    rw [hpass.points, hset]
    have hcall := hpass.call j
    rw [ht] at hcall
    obtain ⟨u, hu, huc⟩ := Option.map_eq_some_iff.mp hcall.symm
    rw [← huc]
    exact h.returned j u hu
  · intro j hj
    rw [hpass.points, hset]
    exact h.known j (hrunning j ▸ hj)

theorem mem_pending_found {a : Writer} {topologies : List (Topology R)} {p : Uuid × LockState}
    (hp : p ∈ (a.found topologies).pending) : p ∈ a.pending ∨ ∃ t ∈ topologies, p = (t.id, t.lockState) := by
  cases a with
  | listed pending =>
    obtain ⟨t, ht, rfl⟩ := List.mem_map.mp hp
    exact .inr ⟨t, ht, rfl⟩
  | _ => exact .inl hp

theorem mem_put {db : Db R} {row t : Topology R} (ht : t ∈ (db.put row).topologies.rows) :
    t = row ∨ t ∈ db.topologies.rows ∧ t.id ≠ row.id := by
  obtain ⟨u, hu, rfl⟩ := List.mem_map.mp ht
  split_ifs with hid
  · exact .inl rfl
  · exact .inr ⟨hu, hid⟩

section acting

variable {w w' : Watched R} {i : ℕ} {o : TopologyOp R} {k : o.Reply → Task R Unit} {answer : o.Reply}
  {t : Thread (topologySig R) Failure Empty (TopologyCall R)}

/-- The operation is fine for the thread that carries it out and for those that go on as they were. -/
theorem Holding.acts (h : Holding w) (hacts : (locking R).Acts w.run w'.run i o k answer t)
    (hmay : writing.may o (topologyStep o answer w.run.pool.state).1)
    (hkept : ∀ t ∈ w'.run.pool.state.topologies.rows, ∀ lockState ∈ w'.set t.id, t.lockState = lockState)
    (hset : ∀ id, (w.set id).isSome = true → (w'.set id).isSome = true)
    (hnoted : ∀ id lockState, w.run.points i = .sets id lockState →
      w'.run.points i = .sets id lockState ∨ (w'.set id).isSome = true)
    (hown : ∀ p ∈ (w'.run.points i).pending, ∀ lockState ∈ w'.set p.1, p.2 = lockState)
    (hothers : ∀ j, j ≠ i → w.run.running j = true →
      ∀ p ∈ (w.run.points j).pending, ∀ lockState ∈ w'.set p.1, p.2 = lockState) : Holding w' := by
  constructor
  · exact hkept
  · intro j p hp
    rw [hacts.prog] at hp
    split_ifs at hp with hj
    · cases hp
      rw [hj, hacts.own]
      exact (h.follows i _ hacts.thread).2 _ hmay
    · rw [hacts.other hj]
      exact h.follows j p hp
  · intro j u hu id lockState hstart
    rw [hacts.get] at hu
    split_ifs at hu with hj
    · cases hu
      rw [hj]
      rcases h.returned i t hacts.get_self id lockState hstart with hpoint | hsome
      · exact hnoted id lockState hpoint
      · exact .inr (hset id hsome)
    · rw [hacts.other hj]
      exact (h.returned j u hu id lockState hstart).imp_right (hset id)
  · intro j hrunning
    by_cases hj : j = i
    · subst hj
      exact hown
    · rw [hacts.other hj]
      exact hothers j hj (hacts.running_of_ne hj ▸ hrunning)

/-- The thread stays where it is, or it lists topologies that are stored. -/
theorem Holding.idle (h : Holding w) (topologies : List (Topology R)) (hacts : (locking R).Acts w.run w'.run i o k answer t)
    (hmay : writing.may o (topologyStep o answer w.run.pool.state).1)
    (hrows : (topologyStep o answer w.run.pool.state).2.topologies = w.run.pool.state.topologies)
    (hset : w'.set = w.set)
    (hlisted : ∀ t ∈ topologies, t ∈ w.run.pool.state.topologies.rows)
    (hnext : writing.next (w.run.points i) o (topologyStep o answer w.run.pool.state).1 = w.run.points i ∨
      writing.next (w.run.points i) o (topologyStep o answer w.run.pool.state).1 = (w.run.points i).found topologies) :
    Holding w' := by
  have hpoint : w'.run.points i = w.run.points i ∨ w'.run.points i = (w.run.points i).found topologies := by
    rw [hacts.own]
    exact hnext
  refine h.acts hacts hmay ?_ (fun id hsome => by rw [hset]; exact hsome) (fun id lockState hsets => .inl ?_) ?_
    (fun j _ hrunning => ?_)
  · rw [hacts.state, hset]
    change ∀ t ∈ (topologyStep o answer w.run.pool.state).2.topologies.rows, _
    rw [hrows]
    exact h.kept
  · rw [hsets] at hpoint
    exact hpoint.elim (fun hpoint => hpoint) (fun hpoint => hpoint)
  · rw [hset]
    intro p hp
    rcases hpoint with hpoint | hpoint
    · rw [hpoint] at hp
      exact h.known i hacts.running p hp
    · rw [hpoint] at hp
      rcases mem_pending_found hp with hp | ⟨t, ht, rfl⟩
      · exact h.known i hacts.running p hp
      · exact h.kept t (hlisted t ht)
  · rw [hset]
    exact h.known j hrunning

theorem may_topologyStep (o : TopologyOp R) (answer : o.Reply) (db : Db R) :
    writing.may o (topologyStep o answer db).1 := by
  cases o with
  | getTopology id =>
    rcases answer with e | found
    · exact fun topology htopology => (nomatch htopology)
    · intro topology hfound
      have hfound := List.find?_some (Except.ok.inj hfound)
      exact of_decide_eq_true hfound
  | _ => trivial

/-- A row is written, as it has to be, and so are the topologies that others still have to write. -/
theorem Holding.written {row : Topology R} {k : Except Failure Unit → Task R Unit} (h : Holding w)
    (hacts : (locking R).Acts w.run w'.run i (.updateTopology row) k (.ok ()) t)
    (hset : w'.set = noted w.set (w.run.points i) (.updateTopology row) (.ok ()))
    (hrow : ∀ x ∈ w'.set row.id, row.lockState = x) (hkept : ∀ id, id ≠ row.id → w'.set id = w.set id)
    (hpending : ∀ j, w.run.running j = true → ∀ p ∈ (w.run.points j).pending, ∀ x ∈ w'.set p.1, p.2 = x) :
    Holding w' := by
  have hown : w'.run.points i = (w.run.points i).wrote := hacts.own
  have hrows : w'.run.pool.state = w.run.pool.state.put row := hacts.state
  refine h.acts hacts trivial ?_ ?_ ?_ ?_ (fun j _ => hpending j)
  · intro t ht x hx
    rw [hrows] at ht
    rcases mem_put ht with rfl | ⟨ht, hid⟩
    · exact hrow x hx
    · rw [hkept t.id hid] at hx
      exact h.kept t ht x hx
  · intro id hsome
    rw [hset]
    exact isSome_noted _ _ _ hsome
  · intro id lockState hpoint
    rw [hset, hpoint]
    exact .inr (by simp [noted])
  · intro p hp
    rw [hown] at hp
    refine hpending i hacts.running p ?_
    cases hpoint : w.run.points i with
    | sets id lockState =>
      rw [hpoint] at hp
      cases hp
    | carries id lockState =>
      rw [hpoint] at hp
      exact hp
    | listed pending =>
      rw [hpoint] at hp
      exact List.mem_of_mem_tail hp

theorem Holding.write {row : Topology R} {k : Except Failure Unit → Task R Unit} {answer : Except Failure Unit}
    (h : Holding w) (hacts : (locking R).Acts w.run w'.run i (.updateTopology row) k answer t)
    (hset : w'.set = noted w.set (w.run.points i) (.updateTopology row) answer)
    (hcarries : ∀ id lockState, w.run.points i = .carries id lockState → ∀ x ∈ w.set id, lockState = x)
    (hsets : ∀ id lockState, w.run.points i = .sets id lockState → ∀ j, w.run.running j = true →
      ∀ p ∈ (w.run.points j).pending, p.1 = id → p.2 = lockState) : Holding w' := by
  rcases answer with e | ⟨⟩
  · have hsame : w'.set = w.set := by
      rw [hset]
      cases w.run.points i <;> rfl
    exact h.idle [] hacts trivial rfl hsame (List.forall_mem_nil _) (.inl rfl)
  · have hwrites : (w.run.points i).writes = some (row.id, row.lockState) := (h.follows i _ hacts.thread).1
    have hnoted := hset
    cases hpoint : w.run.points i with
    | sets id lockState =>
      rw [hpoint] at hwrites hset
      obtain ⟨rfl, rfl⟩ := Prod.mk.inj (Option.some.inj hwrites)
      change w'.set = Function.update w.set row.id (some row.lockState) at hset
      refine h.written hacts hnoted (fun x hx => ?_) (fun id hid => ?_) (fun j hrunning p hp x hx => ?_)
      · rw [hset, Function.update_self] at hx
        exact Option.some.inj hx
      · rw [hset, Function.update_of_ne hid]
      · by_cases hid : p.1 = row.id
        · rw [hset, hid, Function.update_self] at hx
          rw [hsets _ _ hpoint j hrunning p hp hid]
          exact Option.some.inj hx
        · rw [hset, Function.update_of_ne hid] at hx
          exact h.known j hrunning p hp x hx
    | carries id lockState =>
      rw [hpoint] at hwrites hset
      obtain ⟨rfl, rfl⟩ := Prod.mk.inj (Option.some.inj hwrites)
      change w'.set = w.set at hset
      refine h.written hacts hnoted ?_ (fun _ _ => by rw [hset]) ?_
      · rw [hset]
        exact hcarries _ _ hpoint
      · rw [hset]
        exact h.known
    | listed pending =>
      rw [hpoint] at hwrites hset
      change w'.set = w.set at hset
      have hhead : (row.id, row.lockState) ∈ (w.run.points i).pending := by
        rw [hpoint]
        exact List.mem_of_head? hwrites
      refine h.written hacts hnoted ?_ (fun _ _ => by rw [hset]) ?_
      · rw [hset]
        exact h.known i hacts.running _ hhead
      · rw [hset]
        exact h.known

theorem Holding.step {w : Watched R} (h : Holding w) (tick : TopologyTick R) (hquiet : w.Undisturbed tick = true) :
    Holding (w.step tick) := by
  cases tick with
  | spawn call => exact h.spawn call
  | run i answers =>
    rcases Tracking.step_run_cases (T := locking R) (w := w.run) i answers with ⟨hpass, hblocked⟩ | ⟨o, k, t, hacts⟩
    · refine h.passes hpass ?_
      change w.setAfter (.run i answers) = w.set
      rcases hprog : w.run.prog i with _ | _ | _ | ⟨o, k⟩
      · simp only [Watched.setAfter, hprog]
      · simp only [Watched.setAfter, hprog]
      · simp only [Watched.setAfter, hprog]
      · cases hblocked o k hprog
    · have hset : (w.step (.run i answers)).set = noted w.set (w.run.points i) o (answers o) := by
        change w.setAfter (.run i answers) = _
        simp only [Watched.setAfter, hacts.thread]
      have hmay := may_topologyStep o (answers o) w.run.pool.state
      cases o with
      | updateTopology row =>
        simp only [Watched.Undisturbed, hacts.thread] at hquiet
        refine h.write hacts hset (fun id lockState hpoint => ?_) (fun id lockState hpoint j hrunning => ?_)
        · simp only [hpoint] at hquiet
          exact fun x hx => of_decide_eq_true ((Option.all_eq_true _ _).mp hquiet x hx)
        · simp only [hpoint] at hquiet
          have hpending := List.all_eq_true.mp hquiet j (List.mem_range.mpr (w.run.lt_of_running hrunning))
          rw [hrunning, Bool.not_true, Bool.false_or] at hpending
          intro p hp hid
          simpa [hid] using List.all_eq_true.mp hpending p hp
      | listTopologies filter =>
        have hsame : (w.step (.run i answers)).set = w.set := by
          rw [hset]
          cases w.run.points i <;> rfl
        rcases hanswer : answers (.listTopologies filter) with e | proposed
        · refine h.idle [] hacts hmay rfl hsame (List.forall_mem_nil _) (.inr ?_)
          rw [hanswer]
          rfl
        · refine h.idle (arrange (fun r => r.createdAt) (w.run.pool.state.topologies.rows.filter filter) proposed) hacts
            hmay rfl hsame (fun t ht => ?_) (.inr ?_)
          · exact (List.mem_filter.mp ((arrange_perm _ _ _).mem_iff.mp ht)).1
          · rw [hanswer]
            rfl
      | _ =>
        have hsame : (w.step (.run i answers)).set = w.set := by
          rw [hset]
          cases w.run.points i <;> rfl
        exact h.idle [] hacts hmay rfl hsame (List.forall_mem_nil _) (.inl rfl)

end acting

theorem Holding.stands {w : Watched R} (h : Holding w) : w.Stands where
  noted := by
    intro t ht hreturned id lockState hstart
    obtain ⟨j, hj⟩ := List.mem_iff_getElem?.mp ht
    rcases h.returned j t hj id lockState hstart with hpoint | hsome
    · have hsettled : (w.run.points j).settled = true := by
        have hfollows := h.follows j t.prog (by rw [Tracked.prog, hj]; rfl)
        rw [hreturned] at hfollows
        exact hfollows
      rw [hpoint] at hsettled
      cases hsettled
    · exact hsome
  kept := h.kept

/-- As long as nobody sends back another lock than the one that was set, and no batch still has an older one to write, a
topology stays locked the way it was last locked or unlocked to. -/
theorem locks_stand (db : Db R) (ticks : List (TopologyTick R))
    (h : Meets Watched.step (fun w tick => w.Undisturbed tick = true) (Watched.at db) ticks) :
    (ticks.foldl Watched.step (Watched.at db)).Stands :=
  (Meets.invariant Holding (fun _ tick hw hquiet => hw.step tick hquiet) (holding_at db) h).stands

def member : AuthenticatedEntity := .user 7 3 .member [1] "member@example.com"

def turns (thread times : ℕ) : List (TopologyTick plain) := List.replicate times (.run thread (granted 0 thread))

/-- A topology is locked, a refresh comes with the lock in its body, and a batch after both. -/
def oneByOne : List (TopologyTick plain) :=
  .spawn (.lock member 10) :: turns 0 8 ++
    .spawn (.bringUpToDate .refresh member 10 ((overview 10 1).lock 7 0)) :: turns 1 14 ++
    .spawn (.handleEvents [serviceChanged 20 .created]) :: turns 2 30

theorem locks_stand_oneByOne : (oneByOne.foldl Watched.step (Watched.at oneOverview)).Stands :=
  locks_stand oneOverview oneByOne (by decide +kernel)

/-- The topology is locked after a batch has listed it and before the batch writes it. -/
def lockedBetween : List (TopologyTick plain) :=
  .spawn (.handleEvents [serviceChanged 20 .created]) :: turns 0 3 ++ .spawn (.lock member 10) :: turns 1 8 ++ turns 0 30

theorem lock_undone : ¬ ∀ (db : Db plain) (ticks : List (TopologyTick plain)),
    (ticks.foldl Watched.step (Watched.at db)).Stands := by
  intro h
  have hkept := (h oneOverview lockedBetween).kept
  have hall : (lockedBetween.foldl Watched.step (Watched.at oneOverview)).run.pool.state.topologies.rows.all (fun t =>
      ((lockedBetween.foldl Watched.step (Watched.at oneOverview)).set t.id).all (fun x => t.lockState = x)) = true :=
    List.all_eq_true.mpr (fun t ht => (Option.all_eq_true _ _).mpr (fun x hx => decide_eq_true (hkept t ht x hx)))
  exact absurd hall (by decide +kernel)

end runs

end VantageNet.Topologies
