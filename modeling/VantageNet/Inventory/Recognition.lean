import VantageNet.Inventory.Atomicity
import VantageNet.Inventory.Claiming

/-!
Hosts that are discovered side by side. A call of `discover_host` looks for the stored host it has
found without a lock, then takes the lock of the host it settled on, stores that host and gives it
the addresses of the batch.
-/

namespace VantageNet.Inventory

open Interaction Interaction.Program

abbrev Address := Uuid × IpAddr

def Interface.address (i : Interface) : Address := (i.base.subnetId, i.base.ipAddress)

/-- An address with the host that has it. -/
abbrev Seat := Uuid × Address

def Interface.seat (i : Interface) : Seat := (i.base.hostId, i.address)

def Seat.opposes (x y : Seat) : Bool := x.1 ≠ y.1 && x.2 = y.2

def Db.inNetwork (db : Db) (networkId hostId : Uuid) : Bool :=
  db.hosts.rows.any (fun h => h.id = hostId && h.base.networkId = networkId)

def Db.seatsIn (db : Db) (networkId : Uuid) : List Seat :=
  (db.interfaces.rows.filter (fun i : Interface => db.inNetwork networkId i.base.hostId)).map Interface.seat

/-- No two hosts of the network have one address. -/
def Db.Distinct (db : Db) (networkId : Uuid) : Prop :=
  ∀ i ∈ db.interfaces.rows, ∀ j ∈ db.interfaces.rows, db.inNetwork networkId i.base.hostId = true →
    db.inNetwork networkId j.base.hostId = true → i.base.hostId ≠ j.base.hostId →
    Interface.address i ≠ Interface.address j

instance (db : Db) (networkId : Uuid) : Decidable (db.Distinct networkId) :=
  inferInstanceAs (Decidable (∀ i ∈ db.interfaces.rows, ∀ j ∈ db.interfaces.rows, _ → _ → _ → _))

structure DiscoverCall where
  host : Host
  interfaces : List Interface
  ports : List Port
  services : List Service

def DiscoverCall.program (call : DiscoverCall) : Query Unit :=
  (HostService.discoverHost call.host call.interfaces call.ports call.services).bind (fun _ => ret ())

/-- Where a call stands: the hosts it knows to be of the network, its batch, the interfaces it found stored, and,
once it has settled on a host, the addresses that host is to get. -/
structure Newcomer where
  known : List Uuid
  batch : List Interface
  seen : List Interface
  settled : Bool
  due : List Seat

namespace Newcomer

def start (call : DiscoverCall) : Newcomer := ⟨[], call.interfaces, [], false, []⟩

def seats (a : Newcomer) (hostId : Uuid) : List Seat := a.batch.map (fun i => (hostId, i.address))

def next (networkId : Uuid) (a : Newcomer) : (o : DbOp) → o.Reply → Newcomer
  | .list .host _ _, .ok (rows : List Host) =>
    { a with known := a.known ++ (rows.filter (fun h => h.base.networkId = networkId)).map Entity.id }
  | .list .interface _ _, .ok (rows : List Interface) => if a.settled then a else { a with seen := rows }
  | .acquire (.host id), _ => if a.settled then a else { a with settled := true, due := a.seats id }
  | _, _ => a

/-- What comes due: the addresses of the batch, once the lock of a host is taken. -/
def raised (a : Newcomer) : DbOp → List Seat
  | .acquire (.host id) => if a.settled then [] else a.seats id
  | _ => []

/-- The host was recognised by one of its interfaces. (A stored host without an id is given a new one.) -/
def recognises (a : Newcomer) (id : Uuid) : Bool :=
  a.seen.any (fun e => (e.base.hostId = id || e.base.hostId = Uuid.nil) && a.batch.any (fun i => Interface.eq i e))

/-- Where no host was recognised, none of the interfaces that were found is in the way. -/
def checked (a : Newcomer) : DbOp → Seat → Bool
  | .acquire (.host id), y => !a.recognises id && (a.seen.map Interface.seat).contains y
  | _, _ => false

def free (a : Newcomer) (id : Uuid) : Prop :=
  a.recognises id = false → ∀ x ∈ a.seats id, ∀ e ∈ a.seen, Seat.opposes x (Interface.seat e) = false

def ok (networkId : Uuid) (a : Newcomer) : DbOp → Prop
  | .acquire (.host id) => a.settled = true ∨ a.free id
  | .create .host (h : Host) => h.base.networkId = networkId
  | .update .host (h : Host) => h.base.networkId = networkId ∧ h.id ∈ a.known
  | .create .interface (i : Interface) => Interface.seat i ∈ a.due
  | .update .interface (i : Interface) => Interface.seat i ∈ a.due
  | _ => True

end Newcomer

def recognising (networkId : Uuid) : Reservation dbSig Error Lock DiscoverCall Db Newcomer Seat where
  scheme := ⟨DiscoverCall.program, DbOp.lockAction, dbStep⟩
  monitor := ⟨Newcomer.ok networkId, DbOp.honest, Newcomer.next networkId⟩
  start := Newcomer.start
  stored := fun db => db.seatsIn networkId
  due := Newcomer.due
  raised := Newcomer.raised
  checked := Newcomer.checked
  conflict := Seat.opposes

abbrev DiscoverTick := Tick dbSig DiscoverCall

abbrev DiscoverRun := Tracked dbSig Error Lock DiscoverCall Db Newcomer

/-- Nothing runs yet. -/
def DiscoverRun.at (db : Db) : DiscoverRun := ⟨⟨[], db⟩, fun _ => ⟨[], [], [], false, []⟩⟩

/-- The foreign key of the interfaces. -/
def Db.Hosted (db : Db) : Prop := ∀ i ∈ db.interfaces.rows, ∃ h ∈ db.hosts.rows, h.id = i.base.hostId

instance (db : Db) : Decidable db.Hosted :=
  inferInstanceAs (Decidable (∀ i ∈ db.interfaces.rows, ∃ h ∈ db.hosts.rows, h.id = i.base.hostId))

theorem Seat.opposes_comm (x y : Seat) : Seat.opposes x y = Seat.opposes y x := by
  simp only [Seat.opposes, ne_comm, eq_comm]

section store

variable {db : Db} {networkId : Uuid} {a : Newcomer} {o : DbOp}

theorem Db.Hosted.delete (h : db.Hosted) (k : Kind) (p : Row k → Bool) : (db.delete k p).Hosted := by
  cases k with
  | host =>
    intro i hi
    obtain ⟨hi, hkept⟩ := List.mem_filter.mp hi
    obtain ⟨host, hhost, hid⟩ := h i hi
    refine ⟨host, List.mem_filter.mpr ⟨hhost, ?_⟩, hid⟩
    cases hp : p host with
    | false => rfl
    | true =>
      have hany : db.hosts.rows.any (fun h => p h && h.id = i.base.hostId) = true :=
        List.any_eq_true.mpr ⟨host, hhost, by simp [hp, hid]⟩
      simp [Db.delete.onDeleted, hany] at hkept
  | interface => exact fun i hi => h i (List.mem_filter.mp hi).1
  | _ => exact h

theorem Db.Hosted.dbStep (h : db.Hosted) (o : DbOp) (a : o.Reply) : (dbStep o a db).2.Hosted := by
  by_cases ho : ∀ j p, o ≠ .delete j p
  · intro i hi
    apply (has_iff _ .host _).mp
    apply has_dbStep ho
    rcases mem_dbStep (k := .interface) hi with hi | ⟨row, -, rfl, -, hrow⟩ | ⟨row, -, rfl, -, hrow⟩
    · exact (has_iff db .host _).mpr (h i hi)
    · exact hrow
    · exact hrow
  · push Not at ho
    obtain ⟨k, p, rfl⟩ := ho
    rcases a with e | ⟨⟩
    · exact h
    · exact h.delete k p

theorem inNetwork_iff {hostId : Uuid} : db.inNetwork networkId hostId = true ↔
    ∃ h ∈ db.hosts.rows, h.id = hostId ∧ h.base.networkId = networkId := by
  simp [Db.inNetwork]

theorem mem_seatsIn {y : Seat} : y ∈ db.seatsIn networkId ↔
    ∃ i ∈ db.interfaces.rows, db.inNetwork networkId i.base.hostId = true ∧ Interface.seat i = y := by
  simp [Db.seatsIn, and_assoc]

theorem distinct_iff : db.Distinct networkId ↔
    ∀ x ∈ db.seatsIn networkId, ∀ y ∈ db.seatsIn networkId, Seat.opposes x y = false := by
  constructor
  · intro h x hx y hy
    obtain ⟨i, hi, hnetwork, rfl⟩ := mem_seatsIn.mp hx
    obtain ⟨j, hj, hnetwork', rfl⟩ := mem_seatsIn.mp hy
    rw [Seat.opposes, Bool.and_eq_false_imp]
    intro hne
    exact decide_eq_false (h i hi j hj hnetwork hnetwork' (of_decide_eq_true hne))
  · intro h i hi j hj hnetwork hnetwork' hne
    have hseats := h _ (mem_seatsIn.mpr ⟨i, hi, hnetwork, rfl⟩) _ (mem_seatsIn.mpr ⟨j, hj, hnetwork', rfl⟩)
    rw [Seat.opposes, Bool.and_eq_false_imp] at hseats
    exact of_decide_eq_false (hseats (decide_eq_true hne))

/-- The hosts a call knows are of the network. -/
def Newcomer.Knows (networkId : Uuid) (db : Db) (a : Newcomer) : Prop :=
  (∀ h ∈ db.hosts.rows, h.id ∈ a.known → h.base.networkId = networkId) ∧ ∀ x ∈ a.due, ∀ y ∈ a.due, x.1 = y.1

theorem network_of_written {r : o.Reply} {h : Host} (hok : a.ok networkId o)
    (hh : h ∈ (dbStep o r db).2.hosts.rows) : h ∈ db.hosts.rows ∨ h.base.networkId = networkId := by
  rcases mem_dbStep (k := .host) hh with hh | ⟨row, rfl, rfl, -⟩ | ⟨row, rfl, rfl, -⟩
  · exact .inl hh
  · exact .inr hok
  · exact .inr hok.1

theorem inNetwork_of_dbStep {r : o.Reply} {hostId : Uuid} (hok : a.ok networkId o) (hknows : a.Knows networkId db)
    (hhosted : ∃ h ∈ db.hosts.rows, h.id = hostId) (hnetwork : (dbStep o r db).2.inNetwork networkId hostId = true) :
    db.inNetwork networkId hostId = true := by
  obtain ⟨h, hh, hid, hhome⟩ := inNetwork_iff.mp hnetwork
  rcases mem_dbStep (k := .host) hh with hh | ⟨row, rfl, rfl, hapart, -⟩ | ⟨row, rfl, rfl, hhas, -⟩
  · exact inNetwork_iff.mpr ⟨h, hh, hid, hhome⟩
  · obtain ⟨old, hold, hoid⟩ := hhosted
    exact absurd (hoid.trans hid.symm) (hapart old hold).1
  · obtain ⟨old, hold, hoid⟩ := (has_iff db .host _).mp hhas
    exact inNetwork_iff.mpr ⟨old, hold, hoid.trans hid, hknows.1 old hold (hoid ▸ hok.2)⟩

theorem seatsIn_dbStep {r : o.Reply} (hok : a.ok networkId o) (hknows : a.Knows networkId db) (hhosted : db.Hosted)
    {y : Seat} (hy : y ∈ (dbStep o r db).2.seatsIn networkId) :
    y ∈ db.seatsIn networkId ∨ y ∈ a.due ∧ a.raised o = [] := by
  obtain ⟨i, hi, hnetwork, rfl⟩ := mem_seatsIn.mp hy
  rcases mem_dbStep (k := .interface) hi with hi | ⟨row, rfl, rfl, -⟩ | ⟨row, rfl, rfl, -⟩
  · exact .inl (mem_seatsIn.mpr ⟨i, hi, inNetwork_of_dbStep hok hknows (hhosted i hi) hnetwork, rfl⟩)
  · exact .inr ⟨hok, rfl⟩
  · exact .inr ⟨hok, rfl⟩

theorem same_host (a : Newcomer) (id : Uuid) : ∀ x ∈ a.seats id, ∀ y ∈ a.seats id, x.1 = y.1 := by
  intro x hx y hy
  obtain ⟨i, -, rfl⟩ := List.mem_map.mp hx
  obtain ⟨j, -, rfl⟩ := List.mem_map.mp hy
  rfl

theorem newcomer_knows_next {r : o.Reply} (hok : a.ok networkId o) (hknows : a.Knows networkId db) :
    (a.next networkId o (dbStep o r db).1).Knows networkId (dbStep o r db).2 := by
  have hknown : ∀ h ∈ (dbStep o r db).2.hosts.rows, h.id ∈ a.known → h.base.networkId = networkId := by
    intro h hh hid
    rcases network_of_written hok hh with hh | hnetwork
    · exact hknows.1 h hh hid
    · exact hnetwork
  cases o with
  | list k filter order =>
    cases k with
    | host =>
      rcases r with e | proposed
      · exact hknows
      · refine ⟨fun h hh hid => ?_, hknows.2⟩
        rcases List.mem_append.mp hid with hid | hid
        · exact hknows.1 h hh hid
        · obtain ⟨row, hrow, hid⟩ := List.mem_map.mp hid
          obtain ⟨hrow, hnetwork⟩ := List.mem_filter.mp hrow
          have hrow := (List.mem_filter.mp ((arrange_perm order _ proposed).mem_iff.mp hrow)).1
          rw [← eq_of_id_eq (t := db.hosts) hrow hh hid]
          exact of_decide_eq_true hnetwork
    | interface =>
      rcases r with e | proposed
      · exact hknows
      · change (if a.settled then a else _).Knows networkId db
        split_ifs <;> exact hknows
    | _ => exact hknows
  | acquire lock =>
    cases lock with
    | host id =>
      change (if a.settled then a else _).Knows networkId db
      split_ifs
      · exact hknows
      · exact ⟨hknows.1, same_host a id⟩
    | _ => exact hknows
  | create k row | update k row => cases k <;> exact ⟨hknown, hknows.2⟩
  | _ => exact ⟨hknown, hknows.2⟩

theorem recognising_lawful (networkId : Uuid) :
    (recognising networkId).Lawful Db.Hosted (Newcomer.Knows networkId) where
  symm := Seat.opposes_comm
  may := fun db o r => honest_dbStep o r db
  world := fun _ _ o r h _ => h.dbStep o r
  own := fun _ _ _ _ hknows hok => newcomer_knows_next hok hknows
  other := by
    intro s a b o r hok hknows
    refine ⟨fun h hh hid => ?_, hknows.2⟩
    rcases network_of_written hok hh with hh | hnetwork
    · exact hknows.1 h hh hid
    · exact hnetwork
  stored := fun _ _ _ _ hhosted hknows hok _ hy => seatsIn_dbStep hok hknows hhosted hy
  due := by
    intro a o r x hx
    cases o with
    | list k filter order =>
      rcases r with e | rows
      · cases k <;> exact .inl hx
      · cases k with
        | interface =>
          change x ∈ (if a.settled then a else _).due at hx
          split_ifs at hx <;> exact .inl hx
        | _ => exact .inl hx
    | acquire lock =>
      cases lock with
      | host id =>
        change x ∈ (if a.settled then a else _).due at hx
        change _ ∨ x ∈ if a.settled then [] else a.seats id
        split_ifs at hx ⊢
        · exact .inl hx
        · exact .inr hx
      | _ => exact .inl hx
    | create k row | update k row => cases k <;> exact .inl hx
    | _ => exact .inl hx
  alone := by
    intro s a hknows x hx y hy
    have hsame := hknows.2 x hx y hy
    change Seat.opposes x y = false
    simp [Seat.opposes, hsame]
  checked := by
    intro a o hok x hx y hy
    cases o with
    | acquire lock =>
      cases lock with
      | host id =>
        change x ∈ if a.settled then [] else a.seats id at hx
        obtain ⟨hunrecognised, hseen⟩ := Bool.and_eq_true_iff.mp hy
        obtain ⟨e, he, rfl⟩ := List.mem_map.mp (List.contains_iff_mem.mp hseen)
        split_ifs at hx with hsettled
        · cases hx
        · rcases hok with hok | hfree
          · exact absurd hok hsettled
          · exact hfree (by simpa using hunrecognised) x hx e he
      | _ => cases hx
    | _ => cases hx

end store

section programs

variable {α : Type} {K : List Kind} {networkId : Uuid} {a : Newcomer}

theorem settled_next (ha : a.settled = true) (o : DbOp) (r : o.Reply) :
    (a.next networkId o r).settled = true ∧ (a.next networkId o r).due = a.due := by
  cases o with
  | list k filter order =>
    rcases r with e | rows
    · cases k <;> exact ⟨ha, rfl⟩
    · cases k with
      | interface =>
        change (if a.settled then a else _).settled = true ∧ (if a.settled then a else _).due = a.due
        rw [if_pos ha]
        exact ⟨ha, rfl⟩
      | _ => exact ⟨ha, rfl⟩
  | acquire lock =>
    cases lock with
    | host id =>
      change (if a.settled then a else _).settled = true ∧ (if a.settled then a else _).due = a.due
      rw [if_pos ha]
      exact ⟨ha, rfl⟩
    | _ => exact ⟨ha, rfl⟩
  | create k row | update k row => cases k <;> exact ⟨ha, rfl⟩
  | _ => exact ⟨ha, rfl⟩

theorem ok_settled (ha : a.settled = true) {o : DbOp} (hhost : .host ∉ o.writes) (hinterface : .interface ∉ o.writes) :
    a.ok networkId o := by
  cases o with
  | acquire lock =>
    cases lock with
    | host id => exact .inl ha
    | _ => trivial
  | create k row | update k row =>
    cases k with
    | host => exact absurd (by simp [DbOp.writes]) hhost
    | interface => exact absurd (by simp [DbOp.writes]) hinterface
    | _ => trivial
  | _ => trivial

/-- Once it has settled on a host, a program is free to do what concerns neither hosts nor interfaces. -/
theorem follows_settled {p : Query α} (hp : Touches K p) (hhost : .host ∉ K) (hinterface : .interface ∉ K)
    (ha : a.settled = true) :
    Follows (recognising networkId).monitor (fun _ b => b.settled = true ∧ b.due = a.due) a p := by
  induction p generalizing a with
  | ret x => exact ⟨ha, rfl⟩
  | fail e => trivial
  | op o k ih =>
    refine ⟨ok_settled ha (fun h => hhost (hp.1 h)) (fun h => hinterface (hp.1 h)), fun r _ => ?_⟩
    obtain ⟨hsettled, hdue⟩ : (a.next networkId o r).settled = true ∧ (a.next networkId o r).due = a.due := settled_next ha o r
    apply (ih r (hp.2 r trivial) hsettled).imp
    rintro x b ⟨hb, hsame⟩
    exact ⟨hb, hsame.trans hdue⟩

theorem address_ne_of_not_eq {i e : Interface} (h : Interface.eq i e = false) :
    Interface.address i ≠ Interface.address e := by
  intro heq
  have hsubnet : i.base.subnetId = e.base.subnetId := congrArg Prod.fst heq
  have hip : i.base.ipAddress = e.base.ipAddress := congrArg Prod.snd heq
  simp [Interface.eq, hsubnet, hip] at h

theorem free_of_unequal (h : ∀ i ∈ a.batch, ∀ e ∈ a.seen, Interface.eq i e = false) (id : Uuid) : a.free id := by
  intro _ x hx e he
  obtain ⟨i, hi, rfl⟩ := List.mem_map.mp hx
  have hne := address_ne_of_not_eq (h i hi e he)
  simp [Seat.opposes, Interface.seat, hne]

theorem recognises_of_matching {existing : Host} {id : Uuid} (h : HostService.matching a.batch a.seen existing = true)
    (hid : existing.id = Uuid.nil ∨ existing.id = id) : a.recognises id = true := by
  obtain ⟨i, hi, h⟩ := List.any_eq_true.mp h
  obtain ⟨e, he, heq⟩ := List.any_eq_true.mp h
  obtain ⟨he, hown⟩ := List.mem_filter.mp he
  have hown : e.base.hostId = existing.id := of_decide_eq_true hown
  have htaken : (e.base.hostId = id || e.base.hostId = Uuid.nil) = true := by
    rcases hid with hid | hid <;> simp [hown, hid]
  exact List.any_eq_true.mpr ⟨e, he, Bool.and_eq_true_iff.mpr ⟨htaken, List.any_eq_true.mpr ⟨i, hi, heq⟩⟩⟩

/-- A host that was recognised takes the addresses over, any other one finds them free. -/
theorem follows_alignHost {host : Host} {interfaces : List Interface} (hbatch : a.batch = interfaces)
    (hseen : a.seen = []) (hsettled : a.settled = false) : Follows (recognising networkId).monitor
      (fun aligned b => b.batch = a.batch ∧ b.settled = false ∧ aligned.base = host.base ∧
        ∀ id, aligned.id = Uuid.nil ∨ aligned.id = id → b.free id)
      a (HostService.alignHost .upsert host interfaces) := by
  apply Follows.bind
  unfold HostService.findMatchingHostByInterfaces
  split_ifs with hempty
  · obtain rfl := List.isEmpty_iff.mp hempty
    exact ⟨rfl, hsettled, rfl, fun id _ => free_of_unequal (by simp [hbatch]) id⟩
  refine ⟨trivial, fun r _ => ?_⟩
  rcases r with e | hosts
  · trivial
  change Follows _ _ { a with known := _ } (if hosts.isEmpty then ret none else _)
  split_ifs with hnone
  · exact ⟨rfl, hsettled, rfl, fun id _ => free_of_unequal (by simp [hseen]) id⟩
  refine ⟨trivial, fun r hr => ?_⟩
  rcases r with e | found
  · trivial
  change Follows _ _ (if a.settled then _ else _) (ret (hosts.find? (HostService.matching interfaces found)))
  rw [if_neg (by simp [hsettled])]
  have hseen {e : Interface} (he : e ∈ found) : ∃ h ∈ hosts, h.id = e.base.hostId :=
    List.mem_map.mp (List.contains_iff_mem.mp (hr e he))
  cases hfind : hosts.find? (HostService.matching interfaces found) with
  | none =>
    refine ⟨rfl, hsettled, rfl, fun id _ => free_of_unequal (fun i hi e he => ?_) id⟩
    obtain ⟨h, hh, hid⟩ := hseen he
    have hunmatched := List.find?_eq_none.mp hfind h hh
    rw [Bool.eq_false_iff]
    intro heq
    refine hunmatched (List.any_eq_true.mpr ⟨i, hbatch ▸ hi, List.any_eq_true.mpr ⟨e, ?_, heq⟩⟩)
    exact List.mem_filter.mpr ⟨he, decide_eq_true hid.symm⟩
  | some existing =>
    refine ⟨rfl, hsettled, rfl, fun id hid hunrecognised => ?_⟩
    have hmatching : HostService.matching a.batch found existing = true := hbatch ▸ List.find?_some hfind
    exact absurd hunrecognised (by rw [recognises_of_matching hmatching hid]; simp)

theorem follows_hostStore {hosts : List Host} {host : Host} (hnetwork : host.base.networkId = networkId)
    (hhosts : ∀ h ∈ hosts, h.id ∈ a.known ∧ h.base.networkId = networkId) : Follows (recognising networkId).monitor
      (fun stored b => b = a ∧ stored.id = host.id) a (HostService.store hosts host) := by
  unfold HostService.store
  split
  · rename_i existing hfind
    obtain ⟨hid, hhome⟩ := hhosts existing (List.mem_of_find?_eq_some hfind)
    have hsame : host.id = existing.id := by simpa using List.find?_some hfind
    unfold HostService.upsertHost
    dsimp only
    split_ifs
    · refine ⟨trivial, fun now _ => ⟨⟨hhome, hid⟩, fun r _ => ?_⟩⟩
      rcases r with e | ⟨⟩
      · trivial
      · exact ⟨rfl, hsame.symm⟩
    · exact ⟨rfl, hsame.symm⟩
  · refine ⟨trivial, fun r _ => ?_⟩
    rcases r with e | found
    · trivial
    cases found with
    | some _ => trivial
    | none =>
      refine ⟨hnetwork, fun r _ => ?_⟩
      rcases r with e | ⟨⟩
      · trivial
      · exact ⟨rfl, rfl⟩

theorem follows_hostCreate {host : Host} (hnetwork : host.base.networkId = networkId) (hsettled : a.settled = false)
    (hfree : ∀ id, host.id = Uuid.nil ∨ host.id = id → a.free id) : Follows (recognising networkId).monitor
      (fun created b => b.settled = true ∧ b.due = a.seats created.id) a (HostService.create host) := by
  have hnamed (host : Host) (hnetwork : host.base.networkId = networkId) (hfree : a.free host.id) :
      Follows (recognising networkId).monitor (fun created b => b.settled = true ∧ b.due = a.seats created.id) a
        ((acquire (.host host.id)).bind (fun _ => (HostService.getForNetwork host.base.networkId).bind (fun hosts =>
          (HostService.store hosts host).bind (fun stored =>
            (release (.host host.id)).bind (fun _ => ret stored))))) := by
    refine ⟨.inr hfree, fun _ _ => ?_⟩
    change Follows _ _ (if a.settled then a else _) _
    rw [if_neg (by simp [hsettled])]
    refine ⟨trivial, fun r hr => ?_⟩
    rcases r with e | hosts
    · trivial
    change Follows _ _ _ ((HostService.store hosts host).bind _)
    apply Follows.bind
    refine (follows_hostStore hnetwork (fun h hh => ?_)).imp ?_
    · have hhome : h.base.networkId = networkId := (of_decide_eq_true (hr h hh)).trans hnetwork
      exact ⟨List.mem_append_right _ (List.mem_map_of_mem (List.mem_filter.mpr ⟨hh, decide_eq_true hhome⟩)), hhome⟩
    · rintro stored _ ⟨rfl, hid⟩
      refine ⟨trivial, fun _ _ => ⟨rfl, ?_⟩⟩
      rw [hid]
      rfl
  unfold HostService.create
  split_ifs with hnil
  · exact ⟨trivial, fun now _ => ⟨trivial, fun id _ => hnamed _ hnetwork (hfree _ (.inl hnil))⟩⟩
  · exact hnamed host hnetwork (hfree _ (.inr rfl))

theorem follows_createInterface {hostId : Uuid} {interface : Interface} (ha : a.settled = true)
    (hdue : (hostId, Interface.address interface) ∈ a.due) : Follows (recognising networkId).monitor
      (fun _ b => b = a) a (HostService.createInterface .upsert hostId interface) := by
  have hcreate : Follows (recognising networkId).monitor (fun _ b => b = a) a
      (Crud.create .interface ({ interface with base := { interface.base with hostId } } : Interface)) := by
    have hrow (row : Interface) (hseat : Interface.seat row = (hostId, Interface.address interface)) :
        Follows (recognising networkId).monitor (fun _ b => b = a) a (Storage.create .interface row) := by
      refine ⟨(congrArg (· ∈ a.due) hseat).mpr hdue, fun r _ => ?_⟩
      rcases r with e | ⟨⟩
      · trivial
      · rfl
    unfold Crud.create
    split_ifs
    · exact ⟨trivial, fun now _ => ⟨trivial, fun id _ => hrow _ rfl⟩⟩
    · exact hrow _ rfl
  refine Follows.seq ?_ (fun existing => ?_)
  · refine ⟨trivial, fun r _ => ?_⟩
    rcases r with e | found
    · trivial
    cases found with
    | some existing => rfl
    | none =>
      refine ⟨trivial, fun r _ => ?_⟩
      rcases r with e | rows
      · trivial
      · change Follows _ _ (if a.settled then a else _) (ret _)
        rw [if_pos ha]
        rfl
  · cases existing with
    | some existing => rfl
    | none => exact hcreate

theorem touches_createServices (originalInterfaces : List Interface) (originalPorts : List Port) (host : Host)
    (interfaces : List Interface) (ports : List Port) (services : List Service) :
    Touches [.service, .binding, .groupBinding]
      (HostService.createServices originalInterfaces originalPorts host interfaces ports services) := by
  have hpartition (hostId serviceId : Uuid) (bindings : List Binding) (batchClaimed : List Claim) :
      Touches [.service, .binding, .groupBinding]
        (ServiceService.partitionConflictingBindings hostId serviceId bindings batchClaimed) := by
    unfold ServiceService.partitionConflictingBindings
    split_ifs
    · exact .ret _
    · exact (touches_serviceGetAll _).bind (fun _ => .ret _)
  have hservice (batch : Batch) (service : Service) : Touches [.service, .binding, .groupBinding]
      (HostService.createService originalInterfaces originalPorts host interfaces ports batch service) := by
    refine Touches.bind ((touches_acquire _).bind (fun _ => (touches_release _).bind (fun _ => .ret _))) (fun s => ?_)
    refine (hpartition _ _ _ _).bind (fun parts => ?_)
    dsimp only
    split_ifs
    · exact .ret _
    · exact (touches_serviceCreate _).bind (fun _ => .ret _)
  have hbatch (batch : Batch) : Touches [.service, .binding, .groupBinding] (accumulate
      (HostService.createService originalInterfaces originalPorts host interfaces ports) batch services) := by
    induction services generalizing batch with
    | nil => exact .ret _
    | cons service rest ih => exact (hservice batch service).bind ih
  refine (hbatch _).bind (fun batch => ?_)
  unfold HostService.createOpenPorts
  split_ifs
  · exact .ret _
  · exact (touches_newEntity _).bind (fun service => (touches_serviceCreate service).bind (fun _ => .ret _))

theorem follows_discoverHost {call : DiscoverCall} (hnetwork : call.host.base.networkId = networkId) :
    Follows (recognising networkId).monitor (fun _ _ => True) (Newcomer.start call) call.program := by
  refine Follows.bind (Follows.bind (Follows.bind ((follows_alignHost rfl rfl rfl).imp ?_)))
  rintro aligned b ⟨hbatch, hsettled, hbase, hfree⟩
  refine Follows.bind ((follows_hostCreate (hbase ▸ hnetwork) hsettled hfree).imp ?_)
  rintro created c ⟨hc, hdue⟩
  have hinterface (i : Interface) (hi : i ∈ call.interfaces) : Follows (recognising networkId).monitor
      (fun _ d => d = c) c (HostService.createInterface .upsert created.id i) := by
    refine follows_createInterface hc ?_
    rw [hdue]
    exact List.mem_map.mpr ⟨i, hbatch ▸ hi, rfl⟩
  refine Follows.bind ((Follows.collect hinterface).imp ?_)
  rintro interfaces _ rfl
  have hports : Touches [.port] (collect (HostService.createPort .upsert created) call.ports) :=
    .collect (touches_createPort (by simp) .upsert created) call.ports
  refine Follows.bind ((follows_settled hports (by simp) (by simp) hc).imp ?_)
  rintro ports d ⟨hd, -⟩
  have hservices := touches_createServices call.interfaces call.ports created interfaces ports call.services
  refine Follows.bind ((follows_settled hservices (by simp) (by simp) hd).imp ?_)
  exact fun _ _ _ => trivial

end programs

theorem newcomer_knows_start (call : DiscoverCall) (networkId : Uuid) (db : Db) :
    (Newcomer.start call).Knows networkId db :=
  ⟨fun _ _ hid => (nomatch hid), fun _ hx => (nomatch hx)⟩

/-- The calls are on the network. -/
def CallsIn (networkId : Uuid) : DiscoverTick → Prop
  | .spawn call => call.host.base.networkId = networkId
  | .run _ _ => True

instance (networkId : Uuid) : (tick : DiscoverTick) → Decidable (CallsIn networkId tick)
  | .spawn _ => inferInstanceAs (Decidable (_ = _))
  | .run _ _ => .isTrue trivial

theorem distinct_of_clear (networkId : Uuid) (db : Db) (hdb : db.Distinct networkId) (hhosted : db.Hosted)
    (ticks : List DiscoverTick)
    (hclear : Meets (recognising networkId).step
      (fun w tick => CallsIn networkId tick ∧ (recognising networkId).Clear w tick) (DiscoverRun.at db) ticks) :
    (ticks.foldl (recognising networkId).step (DiscoverRun.at db)).pool.state.Distinct networkId := by
  rw [distinct_iff]
  refine (recognising_lawful networkId).conflict_free hhosted (distinct_iff.mp hdb) (hclear.imp ?_)
  rintro w tick ⟨hcalls, hclear⟩
  refine ⟨?_, hclear⟩
  rintro call rfl
  exact ⟨follows_discoverHost hcalls, newcomer_knows_start call networkId _⟩

/-- A discovery of a host of network 9, with the interfaces given by id and address. -/
def discovered (id : Uuid) (cards : List (Uuid × IpAddr)) : DiscoverCall where
  host := ⟨id, 0, 0, ⟨"found", 9, none, none, .discovery [], none, false, []⟩⟩
  interfaces := cards.map (fun c => ⟨c.1, 0, 0, ⟨9, id, 7, c.2, none, none, 0⟩⟩)
  ports := []
  services := []

/-- Two discoveries of one address, whose threads go on in the order of `schedule`. -/
def discoveredTwice (schedule : List ℕ) : List DiscoverTick :=
  .spawn (discovered 50 [(60, .v4 40)]) :: .spawn (discovered 51 [(61, .v4 40)]) ::
    schedule.map (fun i => .run i (granted 8 0))

theorem distinct_of_clear_sequential :
    ((discoveredTwice oneAfterTheOther).foldl (recognising 9).step
      (DiscoverRun.at (webHost .empty))).pool.state.Distinct 9 :=
  distinct_of_clear 9 (webHost .empty) (by decide) (by decide) (discoveredTwice oneAfterTheOther) (by decide)

/-- Host 50 has the address 40; then a batch comes with that address and one of host 1. -/
def discoveredAcross : List DiscoverTick :=
  .spawn (discovered 50 [(60, .v4 40)]) :: List.replicate 12 (.run 0 (granted 8 0)) ++
    .spawn (discovered 51 [(61, .v4 20), (62, .v4 40)]) :: List.replicate 16 (.run 1 (granted 8 0))

/-- No thread has anything left to do. -/
def quiescent (w : DiscoverRun) : Bool := (List.range w.pool.threads.length).all (fun i => !w.running i)

/-- Either of two discoveries looks before the other one has stored its host; a batch that is recognised by the
address of one host gives it the address of another. -/
theorem address_given_twice :
    let start := DiscoverRun.at (webHost .empty)
    let besides := (discoveredTwice turnByTurn).foldl (recognising 9).step start
    let across := discoveredAcross.foldl (recognising 9).step start
    (webHost .empty).Distinct 9 ∧ (webHost .empty).Hosted ∧
    ((∀ tick ∈ discoveredTwice turnByTurn, CallsIn 9 tick) ∧ quiescent besides = true ∧
      ¬ besides.pool.state.Distinct 9) ∧
    (∀ tick ∈ discoveredAcross, CallsIn 9 tick) ∧ quiescent across = true ∧ ¬ across.pool.state.Distinct 9 := by
  refine ⟨by decide, by decide, ⟨by decide, by decide, by decide⟩, by decide, by decide, by decide⟩

end VantageNet.Inventory
