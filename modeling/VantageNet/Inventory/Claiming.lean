import VantageNet.Interaction.Reservation
import VantageNet.Inventory.Availability
import VantageNet.Inventory.Exclusivity
import VantageNet.Inventory.Upkeep

/-!
Claims on the ports of one host while calls on its services run side by side. A call looks at the
services of the host and their bindings, then writes the row of its service and after that its
bindings, each with a statement of its own. The endpoints for single bindings do not look.
-/

namespace VantageNet.Inventory

open Interaction Interaction.Program

/-- The id of a service and what it is bound to. -/
abbrev Slot := Uuid × BindingType

def Binding.slot (b : Binding) : Slot := (b.base.serviceId, b.base.bindingType)

def Service.slots (s : Service) : List Slot := s.base.bindings.map (fun b => (s.id, b.base.bindingType))

def Slot.opposes (x y : Slot) : Bool := x.1 ≠ y.1 && contends x.2 y.2

def Db.slotsOn (db : Db) (hostId : Uuid) : List Slot := (db.bindings.rows.filter (db.serves hostId)).map Binding.slot

/-- Where a call stands: the services it knows to be on the host, the bindings it read since it last read the
services, and what it is about to bind. An update always reads before it writes its service. -/
structure Claimant where
  known : List Uuid
  seen : List Slot
  due : List Slot
  updates : Bool

namespace Claimant

def start : BindingCall → Claimant
  | .update service => ⟨[service.id], [], [], true⟩
  | .createBinding _ binding | .updateBinding _ _ binding => ⟨[], [], [binding.slot], false⟩
  | _ => ⟨[], [], [], false⟩

def next (a : Claimant) : (o : DbOp) → o.Reply → Claimant
  | .list .service _ _, .ok (rows : List Service) => { a with known := a.known ++ rows.map Entity.id, seen := [] }
  | .list .binding _ _, .ok (rows : List Binding) => { a with seen := rows.map Binding.slot }
  | .create .service (s : Service), _ => { a with due := s.slots }
  | .update .service (s : Service), _ => { a with due := s.slots }
  | _, _ => a

/-- What comes due: the bindings of a service, once its row is written. -/
def raised (_ : Claimant) : DbOp → List Slot
  | .create .service (s : Service) => s.slots
  | .update .service (s : Service) => s.slots
  | _ => []

/-- The bindings that were checked by then. `create` writes an existing row without a check. -/
def checked (a : Claimant) : DbOp → Slot → Bool
  | .create .service _, y => a.seen.contains y
  | .update .service _, y => a.updates && a.seen.contains y
  | _, _ => false

def free (a : Claimant) (s : Service) : Prop := ∀ x ∈ s.slots, ∀ y ∈ a.seen, Slot.opposes x y = false

def ok (hostId : Uuid) (a : Claimant) : DbOp → Prop
  | .list .service filter _ => ∀ s : Service, filter s = true → s.base.hostId = hostId
  | .create .service (s : Service) => s.base.hostId = hostId ∧ a.free s
  | .update .service (s : Service) => s.base.hostId = hostId ∧ s.id ∈ a.known ∧ (a.updates = true → a.free s)
  | .create .binding (b : Binding) => Binding.slot b ∈ a.due
  | .update .binding (b : Binding) => Binding.slot b ∈ a.due
  | _ => True

end Claimant

def claiming (hostId : Uuid) : Reservation dbSig Error Lock BindingCall Db Claimant Slot where
  scheme := ⟨BindingCall.program, DbOp.lockAction, dbStep⟩
  monitor := ⟨Claimant.ok hostId, DbOp.honest, Claimant.next⟩
  start := Claimant.start
  stored := fun db => db.slotsOn hostId
  due := Claimant.due
  raised := Claimant.raised
  checked := Claimant.checked
  conflict := Slot.opposes

/-- A call on the services of the host. -/
def BindingCall.on (hostId : Uuid) (db : Db) : BindingCall → Prop
  | .create service => service.base.hostId = hostId ∧ service.base.source.isFromDiscovery = false
  | .update service => service.base.hostId = hostId ∧
      ∀ row ∈ db.services.rows, row.id = service.id → row.base.hostId = hostId
  | _ => True

theorem opposes_comm (x y : Slot) : Slot.opposes x y = Slot.opposes y x := by
  rw [Slot.opposes, Slot.opposes, contends_comm]
  simp only [ne_comm]

section store

variable {db : Db} {hostId : Uuid} {a : Claimant} {o : DbOp}

theorem mem_slotsOn {y : Slot} :
    y ∈ db.slotsOn hostId ↔ ∃ b ∈ db.bindings.rows, db.serves hostId b = true ∧ Binding.slot b = y := by
  simp [Db.slotsOn, and_assoc]

theorem exclusive_iff : db.Exclusive hostId ↔
    ∀ x ∈ db.slotsOn hostId, ∀ y ∈ db.slotsOn hostId, Slot.opposes x y = false := by
  constructor
  · intro h x hx y hy
    obtain ⟨b, hb, hserves, rfl⟩ := mem_slotsOn.mp hx
    obtain ⟨e, he, hserves', rfl⟩ := mem_slotsOn.mp hy
    rw [Slot.opposes, Bool.and_eq_false_imp]
    intro hne
    exact h b hb e he hserves hserves' (of_decide_eq_true hne)
  · intro h b hb e he hserves hserves' hne
    have hslots := h _ (mem_slotsOn.mpr ⟨b, hb, hserves, rfl⟩) _ (mem_slotsOn.mpr ⟨e, he, hserves', rfl⟩)
    rw [Slot.opposes, Bool.and_eq_false_imp] at hslots
    exact hslots (decide_eq_true hne)

/-- The services a call knows are on the host. -/
def Claimant.Knows (hostId : Uuid) (db : Db) (a : Claimant) : Prop :=
  (∀ s ∈ db.services.rows, s.id ∈ a.known → s.base.hostId = hostId) ∧ ∀ x ∈ a.due, ∀ y ∈ a.due, x.1 = y.1

theorem host_of_written {r : o.Reply} {s : Service} (hok : a.ok hostId o) (hs : s ∈ (dbStep o r db).2.services.rows) :
    s ∈ db.services.rows ∨ s.base.hostId = hostId := by
  rcases mem_dbStep (k := .service) hs with hs | ⟨row, rfl, rfl, -⟩ | ⟨row, rfl, rfl, -⟩
  · exact .inl hs
  · exact .inr hok.1
  · exact .inr hok.1

theorem serves_of_dbStep {r : o.Reply} {b : Binding} (hok : a.ok hostId o) (hknows : a.Knows hostId db)
    (howned : ∃ s ∈ db.services.rows, s.id = b.base.serviceId)
    (hserves : (dbStep o r db).2.serves hostId b = true) : db.serves hostId b = true := by
  obtain ⟨s, hs, hid, hhost⟩ := serves_iff.mp hserves
  rcases mem_dbStep (k := .service) hs with hs | ⟨row, rfl, rfl, hapart, -⟩ | ⟨row, rfl, rfl, hhas, -⟩
  · exact serves_iff.mpr ⟨s, hs, hid, hhost⟩
  · obtain ⟨old, hold, hoid⟩ := howned
    exact absurd (hoid.trans hid.symm) (hapart old hold).1
  · obtain ⟨old, hold, hoid⟩ := (has_iff db .service row.id).mp hhas
    exact serves_iff.mpr ⟨old, hold, hoid.trans hid, hknows.1 old hold (hoid ▸ hok.2.1)⟩

theorem slotsOn_dbStep {r : o.Reply} (hok : a.ok hostId o) (hknows : a.Knows hostId db) (howned : db.Owned)
    {y : Slot} (hy : y ∈ (dbStep o r db).2.slotsOn hostId) :
    y ∈ db.slotsOn hostId ∨ y ∈ a.due ∧ a.raised o = [] := by
  obtain ⟨b, hb, hserves, rfl⟩ := mem_slotsOn.mp hy
  rcases mem_dbStep (k := .binding) hb with hb | ⟨row, rfl, rfl, -⟩ | ⟨row, rfl, rfl, -⟩
  · exact .inl (mem_slotsOn.mpr ⟨b, hb, serves_of_dbStep hok hknows (howned b hb) hserves, rfl⟩)
  · exact .inr ⟨hok, rfl⟩
  · exact .inr ⟨hok, rfl⟩

theorem same_service (s : Service) : ∀ x ∈ s.slots, ∀ y ∈ s.slots, x.1 = y.1 := by
  intro x hx y hy
  obtain ⟨b, -, rfl⟩ := List.mem_map.mp hx
  obtain ⟨e, -, rfl⟩ := List.mem_map.mp hy
  rfl

theorem knows_next {r : o.Reply} (hok : a.ok hostId o) (hknows : a.Knows hostId db) :
    (a.next o (dbStep o r db).1).Knows hostId (dbStep o r db).2 := by
  have hknown : ∀ s ∈ (dbStep o r db).2.services.rows, s.id ∈ a.known → s.base.hostId = hostId := by
    intro s hs hid
    rcases host_of_written hok hs with hs | hhost
    · exact hknows.1 s hs hid
    · exact hhost
  cases o with
  | list k filter order =>
    cases k with
    | service =>
      rcases r with e | proposed
      · exact hknows
      · refine ⟨fun s hs hid => ?_, hknows.2⟩
        rcases List.mem_append.mp hid with hid | hid
        · exact hknows.1 s hs hid
        · obtain ⟨row, hrow, hid⟩ := List.mem_map.mp hid
          obtain ⟨hrow, hfilter⟩ := List.mem_filter.mp ((arrange_perm order _ proposed).mem_iff.mp hrow)
          rw [← eq_of_id_eq (t := db.services) hrow hs hid]
          exact hok row hfilter
    | binding => rcases r with e | proposed <;> exact hknows
    | _ => exact hknows
  | create k row =>
    cases k with
    | service => exact ⟨hknown, same_service row⟩
    | _ => exact ⟨hknown, hknows.2⟩
  | update k row =>
    cases k with
    | service => exact ⟨hknown, same_service row⟩
    | _ => exact ⟨hknown, hknows.2⟩
  | _ => exact ⟨hknown, hknows.2⟩

theorem claiming_lawful (hostId : Uuid) : (claiming hostId).Lawful Db.Owned (Claimant.Knows hostId) where
  symm := opposes_comm
  may := fun db o r => honest_dbStep o r db
  world := fun _ _ o r h _ => h.dbStep o r
  own := fun _ _ _ _ hknows hok => knows_next hok hknows
  other := by
    intro s a b o r hok hknows
    refine ⟨fun t ht hid => ?_, hknows.2⟩
    rcases host_of_written hok ht with ht | hhost
    · exact hknows.1 t ht hid
    · exact hhost
  stored := fun _ _ _ _ howned hknows hok _ hy => slotsOn_dbStep hok hknows howned hy
  due := by
    intro a o r x hx
    cases o with
    | list k filter order => cases k <;> rcases r with e | rows <;> exact .inl hx
    | create k row => cases k <;> first | exact .inl hx | exact .inr hx
    | update k row => cases k <;> first | exact .inl hx | exact .inr hx
    | _ => exact .inl hx
  alone := by
    intro s a hknows x hx y hy
    have hsame := hknows.2 x hx y hy
    change Slot.opposes x y = false
    simp [Slot.opposes, hsame]
  checked := by
    intro a o hok x hx y hy
    cases o with
    | create k row =>
      cases k with
      | service => exact hok.2 x hx y (List.contains_iff_mem.mp hy)
      | _ => cases hx
    | update k row =>
      cases k with
      | service =>
        obtain ⟨hupdates, hseen⟩ := Bool.and_eq_true_iff.mp hy
        exact hok.2.2 hupdates x hx y (List.contains_iff_mem.mp hseen)
      | _ => cases hx
    | _ => cases hx

end store

/-- An operation that has to do with neither services nor bindings, or only removes them. -/
def DbOp.aside : DbOp → Bool
  | .list k _ _ | .create k _ | .update k _ => k ≠ .service && k ≠ .binding
  | _ => true

section programs

variable {α : Type} {hostId : Uuid} {a : Claimant}

theorem ok_aside {o : DbOp} (ho : o.aside = true) : a.ok hostId o := by
  cases o with
  | list k filter order | create k row | update k row => cases k <;> trivial
  | _ => trivial

theorem next_aside {o : DbOp} (ho : o.aside = true) (r : o.Reply) : a.next o r = a := by
  cases o with
  | list k filter order | create k row | update k row => cases k <;> first | rfl | cases ho
  | _ => rfl

theorem follows_aside {o : DbOp} {k : o.Reply → Query α} {post : α → Claimant → Prop} (ho : o.aside = true)
    (hk : ∀ r, Follows (claiming hostId).monitor post a (k r)) :
    Follows (claiming hostId).monitor post a (.op o k) := by
  refine ⟨ok_aside ho, fun r _ => ?_⟩
  change Follows (claiming hostId).monitor post (a.next o r) (k r)
  rw [next_aside ho r]
  exact hk r

theorem follows_acquire {lock : Lock} {f : Unit → Query α} {post : α → Claimant → Prop}
    (h : Follows (claiming hostId).monitor post a (f ())) :
    Follows (claiming hostId).monitor post a ((acquire lock).bind f) := follows_aside rfl (fun _ => h)

theorem follows_release {lock : Lock} {f : Unit → Query α} {post : α → Claimant → Prop}
    (h : Follows (claiming hostId).monitor post a (f ())) :
    Follows (claiming hostId).monitor post a ((release lock).bind f) := follows_aside rfl (fun _ => h)

theorem follows_orFail {r : Except Error α} {post : α → Claimant → Prop} (h : ∀ x, r = .ok x → post x a) :
    Follows (claiming hostId).monitor post a (orFail r) := by
  cases r with
  | error e => trivial
  | ok x => exact h x rfl

theorem follows_getById (k : Kind) (id : Uuid) :
    Follows (claiming hostId).monitor (fun _ b => b = a) a (Storage.getById k id) :=
  follows_aside rfl (fun _ => follows_orFail (fun _ _ => rfl))

theorem follows_list {k : Kind} (hk : (k ≠ .service && k ≠ .binding) = true) (filter : Row k → Bool)
    (order : Row k → ℤ) : Follows (claiming hostId).monitor (fun _ b => b = a) a
      (Storage.getAllOrdered k filter order) :=
  follows_aside hk (fun _ => follows_orFail (fun _ _ => rfl))

theorem follows_bindings {filter : Binding → Bool} {post : List Binding → Claimant → Prop}
    (h : ∀ rows, (∀ b ∈ rows, filter b = true) → post rows { a with seen := rows.map Binding.slot }) :
    Follows (claiming hostId).monitor post a (Storage.getAll .binding filter) := by
  refine ⟨trivial, fun r hr => ?_⟩
  rcases r with e | rows
  · trivial
  · exact h rows hr

theorem follows_belongToHost (host : Uuid) (bindings : List Binding) :
    Follows (claiming hostId).monitor (fun _ b => b = a) a
      (ServiceService.validateBindingsBelongToHost host bindings) := by
  unfold ServiceService.validateBindingsBelongToHost
  split_ifs
  · rfl
  · refine Follows.seq (follows_list rfl _ _) (fun ports => Follows.seq (follows_list rfl _ _) (fun interfaces => ?_))
    exact Follows.forEach (fun _ => follows_orFail (fun _ _ => rfl)) _

theorem follows_groupUpdate (group : Group) :
    Follows (claiming hostId).monitor (fun _ b => b = a) a (GroupService.update group) := by
  have hget : Follows (claiming hostId).monitor (fun _ b => b = a) a (GroupService.getById group.id) := by
    refine Follows.seq (follows_getById .group group.id) (fun row => ?_)
    cases row with
    | none => rfl
    | some row => exact Follows.seq (follows_list rfl _ _) (fun _ => rfl)
  refine Follows.seq hget (fun found => ?_)
  cases found with
  | none => trivial
  | some _ =>
    refine Follows.seq (p := Storage.update .group group) (follows_aside rfl (fun _ => follows_aside rfl (fun _ =>
      Follows.seq (follows_orFail (fun _ _ => rfl)) (fun _ => rfl)))) (fun updated => ?_)
    refine Follows.seq (p := GroupService.saveForGroup updated.id group.base.bindingIds) ?_ (fun _ => rfl)
    refine Follows.seq (follows_aside rfl (fun _ => follows_orFail (fun _ _ => rfl))) (fun _ => ?_)
    refine Follows.forEach (fun _ => ?_) _
    exact follows_aside rfl (fun _ => follows_aside rfl (fun _ => follows_aside rfl (fun _ =>
      Follows.seq (Follows.seq (follows_orFail (fun _ _ => rfl)) (fun _ => rfl)) (fun _ => rfl))))

theorem follows_updateGroupServiceBindings (current : Service) (updates : List Binding) :
    Follows (claiming hostId).monitor (fun _ b => b = a) a
      (ServiceService.updateGroupServiceBindings current updates) := by
  have hgroups (filter : Group → Bool) :
      Follows (claiming hostId).monitor (fun _ b => b = a) a (GroupService.getAll filter) := by
    refine Follows.seq (follows_list rfl _ _) (fun groups => ?_)
    split_ifs
    · rfl
    · exact Follows.seq (follows_list rfl _ _) (fun _ => rfl)
  refine Follows.seq (hgroups _) (fun groups => follows_acquire ?_)
  have hupdate (g : Group) : Follows (claiming hostId).monitor (fun _ b => b = a) a
      ((GroupService.update g).bind (fun _ => ret ())) := Follows.seq (follows_groupUpdate g) (fun _ => rfl)
  exact Follows.seq (Follows.forEach hupdate _) (fun _ => follows_aside rfl (fun _ => rfl))

theorem firstClaimed_eq_none {others : List Service} {bindings : List Binding}
    (h : ServiceService.firstClaimed others bindings = none) {b : Binding} (hb : b ∈ bindings) {s : Service}
    (hs : s ∈ others) {e : Binding} (he : e ∈ s.base.bindings) :
    contends b.base.bindingType e.base.bindingType = false := by
  have htaken : claims s.base.bindings ⊆ (others.map (fun s => claims s.base.bindings)).flatten :=
    fun c hc => List.mem_flatten.mpr ⟨_, List.mem_map_of_mem hs, hc⟩
  exact contends_of_not_claimed htaken (firstClaimed_eq_none_iff.mp h b hb) he

/-- What was read belongs to the services it was read for. -/
theorem follows_getForHost (host : Uuid) (hhost : host = hostId) : Follows (claiming hostId).monitor
    (fun services b => (∀ s ∈ services, s.id ∈ b.known ∧ s.base.hostId = hostId) ∧ (∀ id ∈ a.known, id ∈ b.known) ∧
      b.updates = a.updates ∧ ∀ y ∈ b.seen, ∃ s ∈ services, ∃ e ∈ s.base.bindings, (s.id, e.base.bindingType) = y)
    a (ServiceService.getForHost host) := by
  subst hhost
  refine ⟨fun s hs => by simpa using hs, fun r hr => ?_⟩
  rcases r with e | rows
  · trivial
  change Follows (claiming host).monitor _ { a with known := a.known ++ rows.map Entity.id, seen := [] }
    (if rows.isEmpty then ret rows else _)
  split_ifs with hempty
  · obtain rfl := List.isEmpty_iff.mp hempty
    exact ⟨by simp, by simp, rfl, by simp⟩
  · apply Follows.bind
    refine follows_bindings (fun bindings hbindings => ?_)
    refine ⟨?_, ?_, rfl, ?_⟩
    · intro s hs
      obtain ⟨row, hrow, rfl⟩ := List.mem_map.mp hs
      exact ⟨List.mem_append_right _ (List.mem_map.mpr ⟨row, hrow, rfl⟩), of_decide_eq_true (hr row hrow)⟩
    · exact fun id hid => List.mem_append_left _ hid
    · intro y hy
      obtain ⟨e, he, rfl⟩ := List.mem_map.mp hy
      obtain ⟨row, hrow, hid⟩ := List.mem_map.mp (List.contains_iff_mem.mp (hbindings e he))
      refine ⟨_, List.mem_map_of_mem hrow, e, List.mem_filter.mpr ⟨he, by simpa using hid.symm⟩, ?_⟩
      exact Prod.ext hid rfl

/-- None of the bindings contends with a slot that was seen of another service. -/
theorem follows_validateBindingsAvailable {host : Uuid} (hhost : host = hostId) (serviceId : Uuid)
    (bindings : List Binding) : Follows (claiming hostId).monitor
      (fun _ b => (∀ id ∈ a.known, id ∈ b.known) ∧ b.updates = a.updates ∧
        ∀ e ∈ bindings, ∀ y ∈ b.seen, Slot.opposes (serviceId, e.base.bindingType) y = false)
      a (ServiceService.validateBindingsAvailable host serviceId bindings) := by
  unfold ServiceService.validateBindingsAvailable
  split_ifs with hempty
  · obtain rfl := List.isEmpty_iff.mp hempty
    exact ⟨fun _ hid => hid, rfl, by simp⟩
  · apply Follows.bind
    apply (follows_getForHost host hhost).imp
    rintro services b ⟨-, hknown, hupdates, hseen⟩
    dsimp only
    split
    · rename_i hnone
      refine ⟨hknown, hupdates, fun e he y hy => ?_⟩
      obtain ⟨s, hs, f, hf, rfl⟩ := hseen y hy
      rw [Slot.opposes, Bool.and_eq_false_imp]
      intro hne
      have hother : s.id ≠ serviceId := fun h => of_decide_eq_true hne h.symm
      exact firstClaimed_eq_none hnone he (List.mem_filter.mpr ⟨hs, by simpa using hother⟩) hf
    · exact Follows.seq (follows_list rfl _ _) (fun _ => trivial)

theorem follows_deleteMany (k : Kind) (ids : List Uuid) :
    Follows (claiming hostId).monitor (fun _ b => b = a) a (Crud.deleteMany k ids) := by
  unfold Crud.deleteMany
  split_ifs
  · rfl
  · have hget (id : Uuid) : Follows (claiming hostId).monitor (fun _ b => b = a) a
        ((Storage.getById k id).bind (fun _ => ret ())) := Follows.seq (follows_getById k id) (fun _ => rfl)
    exact Follows.seq (Follows.forEach hget ids)
      (fun _ => follows_aside rfl (fun _ => follows_orFail (fun _ _ => rfl)))

theorem follows_createBinding {binding : Binding} (hdue : Binding.slot binding ∈ a.due) :
    Follows (claiming hostId).monitor (fun _ b => b = a) a (Crud.create .binding binding) := by
  have hcreate (row : Binding) (hslot : Binding.slot row = Binding.slot binding) :
      Follows (claiming hostId).monitor (fun _ b => b = a) a (Storage.create .binding row) :=
    ⟨(congrArg (· ∈ a.due) hslot).mpr hdue, fun r _ => Follows.seq (follows_orFail (fun _ _ => rfl)) (fun _ => rfl)⟩
  unfold Crud.create
  split_ifs
  · exact follows_aside rfl (fun _ => follows_aside rfl (fun _ => hcreate _ rfl))
  · exact hcreate binding rfl

theorem follows_updateBinding {binding : Binding} (hdue : Binding.slot binding ∈ a.due) :
    Follows (claiming hostId).monitor (fun _ b => b = a) a (Crud.update .binding binding) := by
  refine Follows.seq (follows_getById .binding binding.id) (fun found => ?_)
  cases found with
  | none => trivial
  | some _ =>
    refine follows_aside rfl (fun now => ⟨hdue, fun r _ => ?_⟩)
    exact Follows.seq (follows_orFail (fun _ _ => rfl)) (fun _ => rfl)

theorem follows_saveBindings {service : Service} (hdue : a.due = service.slots) :
    Follows (claiming hostId).monitor (fun _ _ => True) a (ServiceService.saveBindings service) := by
  have hchild (existing : List Binding) {b : Claimant} (hb : b.due = service.slots) (child : Binding)
      (hchild : child ∈ service.base.bindings.map
        (fun e => Binding.withService e service.id service.base.networkId)) :
      Follows (claiming hostId).monitor (fun _ c => c = b) b (BindingService.saveChild existing child) := by
    have hslot : Binding.slot child ∈ b.due := by
      obtain ⟨e, he, rfl⟩ := List.mem_map.mp hchild
      rw [hb]
      exact List.mem_map.mpr ⟨e, he, rfl⟩
    unfold BindingService.saveChild
    split_ifs
    · exact follows_aside rfl (fun id => follows_createBinding hslot)
    · split
      · exact follows_updateBinding hslot
      · exact follows_createBinding hslot
  apply Follows.bind
  apply Follows.bind
  refine follows_bindings (fun existing _ => ?_)
  refine Follows.seq (Follows.when _ (follows_deleteMany .binding _)) (fun _ => ?_)
  have hsaved := Follows.collect (hchild existing (b := { a with seen := existing.map Binding.slot }) hdue)
  exact hsaved.imp (fun _ _ _ => trivial)

/-- Once the row of a service may be written, so may its bindings. -/
theorem follows_storageUpdate {service : Service} {f : Service → Query α} (hhost : service.base.hostId = hostId)
    (hknown : service.id ∈ a.known) (hfree : a.updates = true → a.free service)
    (hf : ∀ now, Follows (claiming hostId).monitor (fun _ _ => True) { a with due := service.slots }
      (f { service with updatedAt := now })) :
    Follows (claiming hostId).monitor (fun _ _ => True) a ((Storage.update .service service).bind f) := by
  refine follows_aside rfl (fun now => ⟨⟨hhost, hknown, hfree⟩, fun r _ => ?_⟩)
  rcases r with e | ⟨⟩
  · trivial
  · exact hf now

theorem follows_storageCreate {service : Service} {f : Service → Query α} (hhost : service.base.hostId = hostId)
    (hfree : a.free service)
    (hf : Follows (claiming hostId).monitor (fun _ _ => True) { a with due := service.slots } (f service)) :
    Follows (claiming hostId).monitor (fun _ _ => True) a ((Storage.create .service service).bind f) := by
  refine ⟨⟨hhost, hfree⟩, fun r _ => ?_⟩
  rcases r with e | ⟨⟩
  · trivial
  · exact hf

theorem free_of_checked {service : Service}
    (h : ∀ e ∈ service.base.bindings, ∀ y ∈ a.seen, Slot.opposes (service.id, e.base.bindingType) y = false) :
    a.free service := by
  intro x hx
  obtain ⟨e, he, rfl⟩ := List.mem_map.mp hx
  exact h e he

theorem follows_serviceGetById (id : Uuid) : Follows (claiming hostId).monitor
    (fun _ b => b.known = a.known ∧ b.updates = a.updates) a (ServiceService.getById id) := by
  refine Follows.bind ((follows_getById .service id).imp ?_)
  rintro found _ rfl
  cases found with
  | none => exact ⟨rfl, rfl⟩
  | some row => exact Follows.bind (follows_bindings (fun _ _ => ⟨rfl, rfl⟩))

theorem follows_serviceUpdate {service : Service} (hhost : service.base.hostId = hostId)
    (hknown : service.id ∈ a.known) :
    Follows (claiming hostId).monitor (fun _ _ => True) a (ServiceService.update service) := by
  refine follows_acquire (Follows.bind ((follows_serviceGetById service.id).imp ?_))
  rintro current b ⟨hsame, -⟩
  cases current with
  | none => trivial
  | some current =>
    refine Follows.orFail_bind (fun _ _ => Follows.bind ((follows_belongToHost _ _).imp ?_))
    rintro _ _ rfl
    refine Follows.bind ((follows_validateBindingsAvailable hhost _ _).imp ?_)
    rintro _ c ⟨hkept, -, hchecked⟩
    refine Follows.bind ((follows_updateGroupServiceBindings current _).imp ?_)
    rintro _ _ rfl
    refine follows_storageUpdate hhost (hkept _ (hsame ▸ hknown)) (fun _ => free_of_checked hchecked) ?_
    intro now
    exact Follows.bind ((follows_saveBindings rfl).imp (fun _ _ _ => follows_release trivial))

theorem follows_insertService {service : Service} (hhost : service.base.hostId = hostId)
    (hmanual : service.base.source.isFromDiscovery = false) :
    Follows (claiming hostId).monitor (fun _ _ => True) a (ServiceService.insertService service) := by
  refine Follows.orFail_bind (fun _ _ => Follows.bind ((follows_belongToHost _ _).imp ?_))
  rintro _ _ rfl
  rw [hmanual]
  refine Follows.bind ((follows_validateBindingsAvailable hhost _ _).imp ?_)
  rintro _ c ⟨-, -, hchecked⟩
  exact follows_storageCreate hhost (free_of_checked hchecked) (follows_saveBindings rfl)

theorem follows_serviceStore {existing : List Service} {service : Service} (hhost : service.base.hostId = hostId)
    (hmanual : service.base.source.isFromDiscovery = false)
    (hexisting : ∀ s ∈ existing, s.id ∈ a.known ∧ s.base.hostId = hostId) (hupdates : a.updates = false) :
    Follows (claiming hostId).monitor (fun _ _ => True) a (ServiceService.store existing service) := by
  unfold ServiceService.store
  dsimp only
  split
  · rename_i found hfind
    obtain ⟨hid, hfound⟩ := hexisting found (List.mem_of_find?_eq_some hfind)
    split_ifs
    · refine follows_storageUpdate (show (upsertedService found service).base.hostId = hostId from hfound) hid ?_ ?_
      · intro h
        exact absurd h (by simp [hupdates])
      · exact fun now => follows_saveBindings rfl
    · exact follows_insertService hhost hmanual
  · exact follows_insertService hhost hmanual

theorem follows_serviceCreate {service : Service} (hhost : service.base.hostId = hostId)
    (hmanual : service.base.source.isFromDiscovery = false) (hupdates : a.updates = false) :
    Follows (claiming hostId).monitor (fun _ _ => True) a (ServiceService.create service) := by
  have hnamed (service : Service) (hhost : service.base.hostId = hostId)
      (hmanual : service.base.source.isFromDiscovery = false) : Follows (claiming hostId).monitor (fun _ _ => True) a
      ((acquire (.service service.id)).bind (fun _ =>
        (ServiceService.getForHost service.base.hostId).bind (fun existing =>
          (ServiceService.store existing service).bind (fun stored =>
            (release (.service service.id)).bind (fun _ => ret stored))))) := by
    refine follows_acquire (Follows.bind ((follows_getForHost _ hhost).imp ?_))
    rintro existing b ⟨hexisting, -, hsame, -⟩
    refine Follows.bind ((follows_serviceStore hhost hmanual hexisting (hsame.trans hupdates)).imp ?_)
    exact fun _ _ _ => follows_release trivial
  unfold ServiceService.create
  split_ifs
  · exact follows_aside rfl (fun now => follows_aside rfl (fun id => hnamed _ hhost hmanual))
  · exact hnamed _ hhost hmanual

theorem follows_serviceDelete (id : Uuid) :
    Follows (claiming hostId).monitor (fun _ _ => True) a (ServiceService.delete id) := by
  refine follows_acquire (Follows.bind ((follows_serviceGetById id).imp ?_))
  rintro current b -
  cases current with
  | none => trivial
  | some current =>
    refine Follows.bind ((follows_updateGroupServiceBindings current []).imp ?_)
    rintro _ _ rfl
    exact follows_aside rfl (fun r => Follows.orFail_bind (fun _ _ => follows_release trivial))

theorem follows_validateNoConflict (binding : Binding) (excludeId : Option Uuid) :
    Follows (claiming hostId).monitor (fun _ b => b.due = a.due) a
      (BindingHandlers.validateNoBindingTypeConflict binding excludeId) := by
  refine Follows.bind (follows_bindings (fun existing _ => ?_))
  split
  · trivial
  · rfl

theorem follows_removeSuperseded (binding : Binding) :
    Follows (claiming hostId).monitor (fun _ b => b.due = a.due) a (BindingHandlers.removeSuperseded binding) := by
  unfold BindingHandlers.removeSuperseded
  split
  · refine Follows.bind (follows_bindings (fun existing _ => ?_))
    have hdelete (b : Binding) : Follows (claiming hostId).monitor (fun _ c => c = { a with
        seen := existing.map Binding.slot }) { a with seen := existing.map Binding.slot }
        (Crud.delete .binding b.id) := by
      refine Follows.seq (follows_getById .binding b.id) (fun found => ?_)
      cases found with
      | none => trivial
      | some _ => exact follows_aside rfl (fun _ => follows_orFail (fun _ _ => rfl))
    refine (Follows.forEach hdelete _).imp ?_
    rintro _ _ rfl
    rfl
  · rfl

theorem follows_call {call : BindingCall} {db : Db} (hcall : call.on hostId db) :
    Follows (claiming hostId).monitor (fun _ _ => True) (Claimant.start call) call.program := by
  cases call with
  | create service => exact Follows.bind ((follows_serviceCreate hcall.1 hcall.2 rfl).imp (fun _ _ _ => trivial))
  | update service =>
    exact Follows.bind ((follows_serviceUpdate hcall.1 (List.mem_singleton_self _)).imp (fun _ _ _ => trivial))
  | delete id => exact follows_serviceDelete id
  | createBinding networkIds binding =>
    refine Follows.bind (Follows.bind ((follows_validateNoConflict binding none).imp ?_))
    rintro _ b hb
    refine Follows.bind ((follows_removeSuperseded binding).imp ?_)
    rintro _ c hc
    refine Follows.orFail_bind (fun _ _ => ?_)
    have hdue : Binding.slot binding ∈ c.due := by
      rw [hc, hb]
      exact List.mem_singleton_self _
    exact (follows_createBinding hdue).imp (fun _ _ _ => trivial)
  | updateBinding networkIds id binding =>
    refine Follows.bind (Follows.bind ((follows_validateNoConflict binding (some id)).imp ?_))
    rintro _ b hb
    refine Follows.bind ((follows_getById .binding id).imp ?_)
    rintro found b rfl
    cases found with
    | none => trivial
    | some existing =>
      refine Follows.orFail_bind (fun _ _ => Follows.orFail_bind (fun _ _ => ?_))
      have hdue : Binding.slot { binding with id := existing.id, createdAt := existing.createdAt } ∈ b.due := by
        rw [hb]
        exact List.mem_singleton_self _
      exact (follows_updateBinding hdue).imp (fun _ _ _ => trivial)
  | deleteBinding networkIds id =>
    refine Follows.bind ((follows_getById .binding id).imp ?_)
    rintro found _ rfl
    cases found with
    | none => trivial
    | some existing =>
      refine Follows.orFail_bind (fun _ _ => Follows.bind ((follows_getById .binding id).imp ?_))
      rintro found _ rfl
      cases found with
      | none => trivial
      | some _ => exact follows_aside rfl (fun _ => follows_orFail (fun _ _ => trivial))
  | bulkDeleteBindings networkIds ids =>
    change Follows _ _ _ (BindingHandlers.bulkDeleteBindings networkIds ids)
    unfold BindingHandlers.bulkDeleteBindings
    split_ifs
    · trivial
    · refine Follows.bind (follows_bindings (fun entities _ => Follows.bind ?_))
      refine (Follows.forEach (fun b => follows_orFail (fun _ _ => rfl)) entities).imp ?_
      rintro _ _ rfl
      exact (follows_deleteMany .binding _).imp (fun _ _ _ => trivial)

theorem knows_start {call : BindingCall} {db : Db} (hcall : call.on hostId db) :
    (Claimant.start call).Knows hostId db := by
  cases call with
  | update service =>
    refine ⟨fun s hs hid => hcall.2 s hs (List.mem_singleton.mp hid), ?_⟩
    intro x hx
    cases hx
  | createBinding networkIds binding | updateBinding networkIds id binding =>
    refine ⟨fun s hs hid => (nomatch hid), fun x hx y hy => ?_⟩
    rw [List.mem_singleton.mp hx, List.mem_singleton.mp hy]
  | _ => exact ⟨fun s hs hid => (nomatch hid), fun x hx => (nomatch hx)⟩

end programs

instance (hostId : Uuid) (db : Db) : (call : BindingCall) → Decidable (call.on hostId db)
  | .create _ => inferInstanceAs (Decidable (_ ∧ _))
  | .update _ => inferInstanceAs (Decidable (_ ∧ ∀ row ∈ db.services.rows, _ → _))
  | .delete _ | .createBinding _ _ | .updateBinding _ _ _ | .deleteBinding _ _ | .bulkDeleteBindings _ _ =>
    .isTrue trivial

abbrev ClaimTick := Tick dbSig BindingCall

abbrev ClaimRun := Tracked dbSig Error Lock BindingCall Db Claimant

/-- Nothing runs yet. -/
def ClaimRun.at (db : Db) : ClaimRun := ⟨⟨[], db⟩, fun _ => ⟨[], [], [], false⟩⟩

/-- The calls are on the services of the host. -/
def CallsOn (hostId : Uuid) (w : ClaimRun) : ClaimTick → Prop
  | .spawn call => call.on hostId w.pool.state
  | .run _ _ => True

instance (hostId : Uuid) (w : ClaimRun) : (tick : ClaimTick) → Decidable (CallsOn hostId w tick)
  | .spawn call => inferInstanceAs (Decidable (call.on hostId w.pool.state))
  | .run _ _ => .isTrue trivial

theorem exclusive_of_clear (hostId : Uuid) (db : Db) (hdb : db.Exclusive hostId) (howned : db.Owned)
    (ticks : List ClaimTick)
    (hclear : Meets (claiming hostId).step (fun w tick => CallsOn hostId w tick ∧ (claiming hostId).Clear w tick)
      (ClaimRun.at db) ticks) :
    (ticks.foldl (claiming hostId).step (ClaimRun.at db)).pool.state.Exclusive hostId := by
  rw [exclusive_iff]
  refine (claiming_lawful hostId).conflict_free howned (exclusive_iff.mp hdb) (hclear.imp ?_)
  rintro w tick ⟨hcalls, hclear⟩
  refine ⟨?_, hclear⟩
  rintro call rfl
  exact ⟨follows_call hcalls, knows_start hcalls⟩

/-- A service that asks for port 80 of the web host on all of its interfaces. -/
def onPort80 (id bindingId : Uuid) (name : String) : Service :=
  ⟨id, 0, 0, ⟨1, 9, ⟨name, false, false, false⟩, name, [⟨bindingId, 0, 0, ⟨id, 9, .port 4 none⟩⟩], none, .manual, [], 0⟩⟩

/-- Two services that ask for one port, created by two calls whose threads go on in the order of `schedule`. -/
def twoCreates (schedule : List ℕ) : List ClaimTick :=
  .spawn (.create (onPort80 20 30 "Apache")) :: .spawn (.create (onPort80 21 31 "Caddy")) ::
    schedule.map (fun i => .run i (granted 8 0))

def oneAfterTheOther : List ℕ := List.replicate 12 0 ++ List.replicate 12 1

theorem exclusive_of_clear_sequential :
    ((twoCreates oneAfterTheOther).foldl (claiming 1).step (ClaimRun.at (webHost .empty))).pool.state.Exclusive 1 :=
  exclusive_of_clear 1 (webHost .empty) (by decide) (by decide) (twoCreates oneAfterTheOther) (by decide)

/-- The service on port 80 is created, and then another service of the host is bound to port 80 by the endpoint. -/
def boundTwice : List ClaimTick :=
  .spawn (.create (onPort80 20 30 "Apache")) :: List.replicate 12 (.run 0 (granted 8 0)) ++
    .spawn (.createBinding [9] (webBinding 31 (.port 4 none))) :: List.replicate 6 (.run 1 (granted 8 0))

def turnByTurn : List ℕ := (List.replicate 12 [0, 1]).flatten

/-- Either of two creations passes its check before the other one binds the port; the endpoint checks nothing. -/
theorem port80_claimed_twice :
    (webHost .empty).Exclusive 1 ∧ (webHost .empty).Owned ∧
    (Meets (claiming 1).step (CallsOn 1) (ClaimRun.at (webHost .empty)) (twoCreates turnByTurn) ∧
      ¬ ((twoCreates turnByTurn).foldl (claiming 1).step (ClaimRun.at (webHost .empty))).pool.state.Exclusive 1) ∧
    Meets (claiming 1).step (CallsOn 1) (ClaimRun.at (webHost .empty)) boundTwice ∧
      ¬ (boundTwice.foldl (claiming 1).step (ClaimRun.at (webHost .empty))).pool.state.Exclusive 1 := by
  refine ⟨by decide, by decide, ⟨by decide, by decide⟩, by decide, by decide⟩

end VantageNet.Inventory
