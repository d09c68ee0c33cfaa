import VantageNet.Inventory.Consolidation
import VantageNet.Inventory.Placing
import VantageNet.Inventory.Updating

/-!
How a consolidation moves what is stored of the other host, one statement after the other.
-/

namespace VantageNet.Inventory

open Interaction Interaction.Program

/-- `b` is `a` as it was, or `a` was among the rows to move and `b` is what it moved to. -/
def Rehomed {k : Kind} (among : Row k → Prop) (move : Row k → Row k) (a b : Row k) : Prop :=
  b = a ∨ among a ∧ b = { move a with updatedAt := b.updatedAt }

def Service.onHost (service : Service) (hostId networkId : Uuid) : Service :=
  { service.row with base := { service.row.base with hostId, networkId } }

/-- What is stored of the other host is where it was or has moved to the destination. Besides its services no
other service and no binding of another service has changed, and of the hosts only the destination. -/
structure Moved (destination other : Host) (db t : Db) : Prop where
  hosts : Related (k := .host) (fun a b => b = a ∨ a = destination ∧ HostKept a b) db.hosts t.hosts
  interfaces : Related (k := .interface) (Rehomed (k := .interface) (fun i : Interface => i.base.hostId = other.id)
    (fun i => Interface.onHost i destination.id)) db.interfaces t.interfaces
  ports : Related (k := .port) (Rehomed (k := .port) (fun p : Port => p.base.hostId = other.id)
    (fun p => Port.withHost p destination.id destination.base.networkId)) db.ports t.ports
  services : Related (k := .service) (Rehomed (k := .service) (fun s : Service => s.base.hostId = other.id)
    (fun s => Service.onHost s destination.id destination.base.networkId)) db.services t.services
  bindings : ∀ b : Binding, (∀ s ∈ db.services.rows, s.base.hostId = other.id → s.id ≠ b.base.serviceId) →
    (b ∈ t.bindings.rows ↔ b ∈ db.bindings.rows)

section rehoming

variable {k : Kind} {among : Row k → Prop} {move : Row k → Row k} {a b rows : Rows k}

theorem rehomed_refl (r : Row k) : Rehomed among move r r := .inl rfl

theorem Rehomed.id_eq (hid : ∀ r, (move r).id = r.id) {r r' : Row k} (h : Rehomed among move r r') : r'.id = r.id := by
  rcases h with rfl | ⟨-, h⟩
  · rfl
  · rw [h]
    exact hid r

theorem Related.rehome (h : Related (Rehomed among move) rows a) (hid : ∀ r, (move r).id = r.id) {x : Row k}
    (hx : x ∈ rows.rows) (hamong : among x) (now : Instant)
    (hmem : ∀ r, r ∈ b.rows ↔ r = { move x with updatedAt := now } ∨ r ∈ a.rows ∧ r.id ≠ x.id) :
    Related (Rehomed among move) rows b := by
  constructor
  · intro r hr
    by_cases heq : r.id = x.id
    · obtain rfl := eq_of_id_eq hr hx heq
      exact ⟨_, (hmem _).mpr (.inl rfl), .inr ⟨hamong, rfl⟩⟩
    · obtain ⟨y, hy, hry⟩ := h.1 r hr
      exact ⟨y, (hmem y).mpr (.inr ⟨hy, by rw [hry.id_eq hid]; exact heq⟩), hry⟩
  · intro y hy
    rcases (hmem y).mp hy with rfl | ⟨hy, -⟩
    · exact ⟨x, hx, .inr ⟨hamong, rfl⟩⟩
    · exact h.2 y hy

end rehoming

section moving

variable {may : Db → (o : DbOp) → o.Reply → Prop} {k : Kind}

/-- The loop over the rows of the other host as far as it has come: those of `done` that the destination has not
found a row of its own for have moved. -/
structure MovedAll (db : Db) (among : Row k → Prop) (move : Row k → Row k) (found : Row k → Option (Row k))
    (done : List (Row k)) (t : Db) : Prop where
  frame : db.SameBut [k] t
  related : Related (Rehomed among move) (db.table k) (t.table k)
  moved : ∀ x ∈ done, found x = none → ∃ now, ({ move x with updatedAt := now } : Row k) ∈ (t.table k).rows

variable {db : Db} {among : Row k → Prop} {move : Row k → Row k} {found : Row k → Option (Row k)}

theorem MovedAll.nil {done : List (Row k)} {t : Db} (h : MovedAll db among move found done t) :
    MovedAll db among move found [] t := ⟨h.frame, h.related, by simp⟩

variable (among move found) in
theorem ensures_moveAll {p : Row k → Query (Uuid × Uuid)} (hsome : ∀ x d, found x = some d → p x = ret (x.id, d.id))
    (hnone : ∀ x, found x = none → p x = (Crud.update k (move x)).bind (fun _ => ret (x.id, x.id)))
    (hid : ∀ r, (move r).id = r.id) (hcolumns : ∀ r : Row k, columns k r = r) {xs : List (Row k)}
    (hxs : ∀ x ∈ xs, x ∈ (db.table k).rows ∧ among x) {post : Except Error (List (Uuid × Uuid)) → Db → Prop}
    (herror : ∀ e t, MovedAll db among move found [] t → post (.error e) t)
    (hok : ∀ t, MovedAll db among move found xs t →
      post (.ok (xs.map (fun x => (x.id, ((found x).getD x).id)))) t) :
    Ensures dbStep may post (collect p xs) db := by
  refine Ensures.collect (fun done out t => MovedAll db among move found done t ∧
    out = done.map (fun x => (x.id, ((found x).getD x).id))) xs ?_ ?_ ?_
  · rintro done x rest hrest out s ⟨hs, rfl⟩
    obtain ⟨hx, hamong⟩ := hxs x (by simp [hrest])
    cases hfound : found x with
    | some d =>
      rw [hsome x d hfound]
      refine ⟨?_, fun _ h => (nomatch h)⟩
      rintro _ ⟨⟩
      refine ⟨⟨hs.frame, hs.related, fun y hy hnot => ?_⟩, by simp [hfound]⟩
      rcases List.mem_append.mp hy with hy | hy
      · exact hs.moved y hy hnot
      · obtain rfl := List.mem_singleton.mp hy
        rw [hfound] at hnot
        cases hnot
    | none =>
      rw [hnone x hfound]
      apply Ensures.bind
      apply ensures_crudUpdate
      · exact fun e => ⟨fun _ h => (nomatch h), fun e' _ => herror e' s hs.nil⟩
      intro now hapart _ _
      refine ⟨?_, fun _ h => (nomatch h)⟩
      rintro _ ⟨⟩
      have hmem (r : Row k) : r ∈ ((s.withTable k (updated (s.table k) { move x with updatedAt := now } hapart)).table
          k).rows ↔ r = { move x with updatedAt := now } ∨ r ∈ (s.table k).rows ∧ r.id ≠ x.id := by
        rw [table_withTable, mem_updated, hcolumns, ← hid x]
      refine ⟨⟨hs.frame.trans (.withTable (by simp) _), hs.related.rehome hid hx hamong _ hmem, fun y hy hnot => ?_⟩,
        by simp [hfound]⟩
      rcases List.mem_append.mp hy with hy | hy
      · obtain ⟨now', hy'⟩ := hs.moved y hy hnot
        by_cases heq : y.id = x.id
        · obtain rfl := eq_of_id_eq (hxs y (by simp [hrest, hy])).1 hx heq
          exact ⟨now, (hmem _).mpr (.inl rfl)⟩
        · exact ⟨now', (hmem _).mpr (.inr ⟨hy', by rw [← hid y] at heq; exact heq⟩)⟩
      · obtain rfl := List.mem_singleton.mp hy
        exact ⟨now, (hmem _).mpr (.inl rfl)⟩
  · exact ⟨⟨.refl _ _, Related.refl rehomed_refl _, by simp⟩, rfl⟩
  · rintro out t ⟨ht, rfl⟩
    exact hok t ht

end moving

theorem get_map {β : Type} {xs : List (Entity β)} (hunique : ∀ x ∈ xs, ∀ y ∈ xs, x.id = y.id → x = y) (f : Entity β → Uuid)
    {x : Entity β} (hx : x ∈ xs) : IdMap.get (xs.map (fun x => (x.id, f x))) x.id = some (f x) := by
  unfold IdMap.get
  cases hfind : (xs.map (fun x => (x.id, f x))).find? (fun e => e.1 = x.id) with
  | none => exact absurd (List.find?_eq_none.mp hfind _ (List.mem_map_of_mem hx)) (by simp)
  | some e =>
    obtain ⟨y, hy, rfl⟩ := List.mem_map.mp (List.mem_of_find?_eq_some hfind)
    have hid : y.id = x.id := by simpa using List.find?_some hfind
    rw [hunique y hy x hx hid]
    rfl

/-- After the interfaces and ports: the maps lead from each part of the other host to one of the destination. -/
structure Parted (db : Db) (destination other updated : Host) (interfaceIdMap portIdMap : IdMap) (t : Db) : Prop where
  frame : db.SameBut [.host, .interface, .port] t
  moved : Moved destination other db t
  host : updated.id = destination.id ∧ updated.base.networkId = destination.base.networkId
  interface : ∀ i ∈ db.interfaces.rows, i.base.hostId = other.id → ∃ d ∈ t.interfaces.rows,
    d.base.hostId = destination.id ∧ HostService.sameInterface d i = true ∧ interfaceIdMap.get i.id = some d.id
  port : ∀ p ∈ db.ports.rows, p.base.hostId = other.id → ∃ d ∈ t.ports.rows,
    d.base.hostId = destination.id ∧ d.base.portType = p.base.portType ∧ portIdMap.get p.id = some d.id

section parts

variable {may : Db → (o : DbOp) → o.Reply → Prop} {db s t : Db} {destination other : Host}

theorem Moved.refl (destination other : Host) (db : Db) : Moved destination other db db :=
  ⟨Related.refl (k := .host) (fun _ => .inl rfl) _, Related.refl rehomed_refl _, Related.refl rehomed_refl _,
    Related.refl rehomed_refl _, fun _ _ => Iff.rfl⟩

/-- A row of the destination is not among those to move. -/
theorem Rehomed.stays {k : Kind} (hostId : Row k → Uuid) {move : Row k → Row k} {r r' : Row k}
    (h : Rehomed (fun r => hostId r = other.id) move r r') (hne : destination.id ≠ other.id)
    (hr : hostId r = destination.id) : r' = r := by
  rcases h with h | ⟨hother, -⟩
  · exact h
  · exact absurd (hr.symm.trans hother) hne

theorem sameInterface_moved (interface : Interface) (hostId : Uuid) (now : Instant) :
    HostService.sameInterface { interface.onHost hostId with updatedAt := now } interface = true := by
  simp [HostService.sameInterface, Interface.onHost]

/-- The services and their bindings are left to later. -/
theorem Moved.of_parts (hframe : db.SameBut [.host, .interface, .port] t)
    (hhosts : Related (k := .host) (fun a b => b = a ∨ a = destination ∧ HostKept a b) db.hosts t.hosts)
    (hinterfaces : Related (k := .interface) (Rehomed (k := .interface) (fun i : Interface => i.base.hostId = other.id)
      (fun i => Interface.onHost i destination.id)) db.interfaces t.interfaces)
    (hports : Related (k := .port) (Rehomed (k := .port) (fun p : Port => p.base.hostId = other.id)
      (fun p => Port.withHost p destination.id destination.base.networkId)) db.ports t.ports) :
    Moved destination other db t := by
  have hservices : t.services = db.services := hframe .service (by simp)
  have hbindings : t.bindings = db.bindings := hframe .binding (by simp)
  refine ⟨hhosts, hinterfaces, hports, ?_, fun b _ => by rw [hbindings]⟩
  rw [hservices]
  exact Related.refl rehomed_refl _

section leads

variable {k : Kind} {hostId : Row k → Uuid} {move : Row k → Row k} {found : Row k → Option (Row k)}
  {xs ds : List (Row k)}

variable (hostId ds) in
/-- Where the map leads for a row of the other host. -/
theorem MovedAll.leads (h : MovedAll db (fun r => hostId r = other.id) move found xs t)
    (hne : destination.id ≠ other.id) (hid : ∀ r, (move r).id = r.id) (same : Row k → Row k → Prop)
    (hfound : ∀ x d, found x = some d → d ∈ ds ∧ same d x)
    (hds : ∀ d ∈ ds, d ∈ (db.table k).rows ∧ hostId d = destination.id)
    (hmoved : ∀ x now, hostId { move x with updatedAt := now } = destination.id ∧ same { move x with updatedAt := now } x)
    (hxs : ∀ x ∈ xs, x ∈ (db.table k).rows) {x : Row k} (hx : x ∈ xs) : ∃ d ∈ (t.table k).rows,
      hostId d = destination.id ∧ same d x ∧
        IdMap.get (xs.map (fun x => (x.id, ((found x).getD x).id))) x.id = some d.id := by
  have hget := get_map (fun x hx y hy => eq_of_id_eq (hxs x hx) (hxs y hy)) (fun x => ((found x).getD x).id) hx
  cases hx' : found x with
  | some d =>
    obtain ⟨hd, hsame⟩ := hfound x d hx'
    obtain ⟨hrow, hhost⟩ := hds d hd
    obtain ⟨d', hd', hrehomed⟩ := h.related.1 d hrow
    obtain rfl := hrehomed.stays hostId hne hhost
    exact ⟨_, hd', hhost, hsame, by rw [hget, hx']; rfl⟩
  | none =>
    obtain ⟨now, hrow⟩ := h.moved x hx hx'
    obtain ⟨hhost, hsame⟩ := hmoved x now
    exact ⟨_, hrow, hhost, hsame, by rw [hget, hx']; exact congrArg some (hid x).symm⟩

end leads

theorem ensures_transferParts (hne : destination.id ≠ other.id) (hdestination : destination ∈ db.hosts.rows)
    {post : Except Error (Host × IdMap × IdMap) → Db → Prop}
    (herror : ∀ e t, Moved destination other db t → post (.error e) t)
    (hok : ∀ updated interfaceIdMap portIdMap t, Parted db destination other updated interfaceIdMap portIdMap t →
      post (.ok (updated, interfaceIdMap, portIdMap)) t) :
    Ensures dbStep may post (HostService.transferParts destination other) db := by
  have hunchanged (e : Error) : post (.error e) db := herror e db (.refl _ _ _)
  apply Ensures.bind
  refine ensures_getAllOrdered (k := .interface) hunchanged (fun destInterfaces hdestInterfaces _ => ?_)
  apply Ensures.bind
  refine ensures_getAllOrdered (k := .interface) hunchanged (fun otherInterfaces hotherInterfaces _ => ?_)
  apply Ensures.bind
  refine ensures_getAll (k := .port) hunchanged (fun destPorts hdestPorts _ => ?_)
  apply Ensures.bind
  refine ensures_getAll (k := .port) hunchanged (fun otherPorts hotherPorts _ => ?_)
  have hinterfaces (i : Interface) : i ∈ otherInterfaces ↔ i ∈ db.interfaces.rows ∧ i.base.hostId = other.id := by
    rw [hotherInterfaces.mem_iff, List.mem_filter, decide_eq_true_eq]
    rfl
  have hports (p : Port) : p ∈ otherPorts ↔ p ∈ db.ports.rows ∧ p.base.hostId = other.id := by
    rw [hotherPorts.mem_iff, List.mem_filter, decide_eq_true_eq]
    rfl
  have hhosts : Related (k := .host) (fun a b => b = a ∨ a = destination ∧ HostKept a b) db.hosts db.hosts :=
    Related.refl (k := .host) (fun _ => .inl rfl) _
  apply Ensures.bind
  refine ensures_moveAll (k := .interface) (fun i : Interface => i.base.hostId = other.id)
    (fun i => Interface.onHost i destination.id)
    (fun x => destInterfaces.find? (fun i => HostService.sameInterface i x)) ?_ ?_ (fun _ => rfl) (fun _ => rfl)
    (fun x hx => (hinterfaces x).mp hx) (fun e t ht => ?_) (fun s hs => ?_)
  · intro x d hd
    simp only [HostService.transferInterface, hd]
  · intro x hx
    simp only [HostService.transferInterface, hx]
    rfl
  · have hports : t.ports = db.ports := ht.frame .port (by simp)
    have hthosts : t.hosts = db.hosts := ht.frame .host (by simp)
    refine herror e t (.of_parts (ht.frame.mono (by simp)) (hthosts ▸ hhosts) ht.related ?_)
    rw [hports]
    exact Related.refl rehomed_refl _
  have hsports : s.ports = db.ports := hs.frame .port (by simp)
  have hshosts : s.hosts = db.hosts := hs.frame .host (by simp)
  apply Ensures.bind
  refine ensures_moveAll (k := .port) (fun p : Port => p.base.hostId = other.id)
    (fun p => Port.withHost p destination.id destination.base.networkId)
    (fun x => destPorts.find? (fun p => p.base.portType = x.base.portType)) ?_ ?_ (fun _ => rfl)
    (fun _ => rfl) (fun x hx => ?_) (fun e t ht => ?_) (fun t ht => ?_)
  · intro x d hd
    simp only [HostService.transferPort, hd]
  · intro x hx
    simp only [HostService.transferPort, hx]
    rfl
  · change x ∈ s.ports.rows ∧ _
    rw [hsports]
    exact (hports x).mp hx
  · have hthosts : t.hosts = s.hosts := ht.frame .host (by simp)
    have htinterfaces : t.interfaces = s.interfaces := ht.frame .interface (by simp)
    refine herror e t (.of_parts ((hs.frame.mono (by simp)).trans (ht.frame.mono (by simp))) ?_ ?_ ?_)
    · rw [hthosts, hshosts]
      exact hhosts
    · rw [htinterfaces]
      exact hs.related
    · rw [← hsports]
      exact ht.related
  have hthosts : t.hosts = db.hosts := (ht.frame .host (by simp)).trans hshosts
  have htinterfaces : t.interfaces = s.interfaces := ht.frame .interface (by simp)
  have hframe : db.SameBut [.interface, .port] t := (hs.frame.mono (by simp)).trans (ht.frame.mono (by simp))
  have hparts (u : Db) (hu : t.SameBut [.host] u)
      (huhosts : Related (k := .host) (fun a b => b = a ∨ a = destination ∧ HostKept a b) t.hosts u.hosts) :
      Moved destination other db u := by
    have huinterfaces : u.interfaces = t.interfaces := hu .interface (by simp)
    have huports : u.ports = t.ports := hu .port (by simp)
    refine .of_parts ((hframe.mono (by simp)).trans (hu.mono (by simp))) (hthosts ▸ huhosts) ?_ ?_
    · rw [huinterfaces, htinterfaces]
      exact hs.related
    · rw [huports, ← hsports]
      exact ht.related
  apply Ensures.bind
  refine ensures_upsertHost_kept (hthosts ▸ hdestination)
    (fun e => herror e t (hparts t (.refl _ _) (Related.refl (k := .host) (fun _ => .inl rfl) _)))
    (fun updated u hkept hu huhosts => ?_)
  have huinterfaces : u.interfaces = t.interfaces := hu .interface (by simp)
  have huports : u.ports = t.ports := hu .port (by simp)
  refine hok _ _ _ u ⟨(hframe.mono (by simp)).trans (hu.mono (by simp)), hparts u hu huhosts,
    ⟨hkept.id, by rw [hkept.base]⟩, fun i hi hhost => ?_, fun p hp hhost => ?_⟩
  · rw [huinterfaces, htinterfaces]
    refine hs.leads (k := .interface) (fun i : Interface => i.base.hostId) destInterfaces hne (fun _ => rfl)
      (fun d i => HostService.sameInterface d i = true) (fun x d hd => ?_) (fun d hd => ?_) (fun x now => ?_)
      (fun x hx => ((hinterfaces x).mp hx).1) ((hinterfaces i).mpr ⟨hi, hhost⟩)
    · exact ⟨List.mem_of_find?_eq_some hd, by simpa using List.find?_some hd⟩
    · simpa using hdestInterfaces.mem_iff.mp hd
    · exact ⟨rfl, sameInterface_moved x destination.id now⟩
  · rw [huports]
    refine ht.leads (k := .port) (fun p : Port => p.base.hostId) destPorts hne (fun _ => rfl)
      (fun d p => d.base.portType = p.base.portType) (fun x d hd => ?_) (fun d hd => ?_) (fun x now => ⟨rfl, rfl⟩) (fun x hx => ?_)
      ((hports p).mpr ⟨hp, hhost⟩)
    · exact ⟨List.mem_of_find?_eq_some hd, by simpa using List.find?_some hd⟩
    · obtain ⟨hd, hhost⟩ := List.mem_filter.mp (hdestPorts.mem_iff.mp hd)
      change d ∈ s.ports.rows ∧ _
      rw [hsports]
      exact ⟨hd, by simpa using hhost⟩
    · change x ∈ s.ports.rows
      rw [hsports]
      exact ((hports x).mp hx).1

end parts

/-- The service is on the destination and stands there for each of its bindings, led through the maps. -/
structure Transferred (destination : Host) (interfaceIdMap portIdMap : IdMap) (service : Service) (t : Db) : Prop where
  row : ∃ row ∈ t.services.rows, row.id = service.id ∧ row.base.hostId = destination.id
  refers : ∀ b ∈ t.bindings.rows, b.base.serviceId = service.id → t.RefersTo destination.id b.base.bindingType
  represented : ∀ b ∈ service.base.bindings,
    Represented (t.bindingsOf service.id) (remapType interfaceIdMap portIdMap b.base.bindingType)
  source : ∀ b ∈ t.bindings.rows, b.base.serviceId = service.id → ∃ c ∈ service.base.bindings,
    b.base.bindingType = remapType interfaceIdMap portIdMap c.base.bindingType

/-- The loop over the services of the other host, from the state `s`, as far as it has come. -/
structure Transferring (db s : Db) (destination other : Host) (interfaceIdMap portIdMap : IdMap)
    (destinationServices done : List Service) (t : Db) : Prop where
  frame : s.SameBut [.service, .binding, .group, .groupBinding] t
  moved : Moved destination other db t
  origin : ∀ r ∈ t.services.rows, r ∈ db.services.rows ∨
    ∃ z ∈ done, HostService.isDuplicate destinationServices z = false ∧ r.id = z.id
  transferred : ∀ z ∈ done, HostService.isDuplicate destinationServices z = false →
    Transferred destination interfaceIdMap portIdMap z t

section transferring

variable {may : Db → (o : DbOp) → o.Reply → Prop} {db s t u : Db} {destination other updated : Host}
  {interfaceIdMap portIdMap : IdMap} {destinationServices done : List Service} {service z row : Service}

theorem Revision.mem_services (h : Revision db service t) {r : Service} (hr : r ∈ t.services.rows) :
    r.id = service.id ∨ r ∈ db.services.rows := by
  rcases h.services with heq | ⟨now, hmem⟩
  · exact .inr (heq ▸ hr)
  · rcases (hmem r).mp hr with rfl | ⟨hr, -⟩
    · exact .inl rfl
    · exact .inr hr

theorem Revision.keeps_services (h : Revision db service t) {r : Service} (hr : r ∈ db.services.rows)
    (hne : r.id ≠ service.id) : r ∈ t.services.rows := by
  rcases h.services with heq | ⟨now, hmem⟩
  · exact heq ▸ hr
  · exact (hmem r).mpr (.inr ⟨hr, hne⟩)

theorem Transferred.keep (h : Transferred destination interfaceIdMap portIdMap z t) (hrevision : Revision t service u)
    (hne : z.id ≠ service.id) : Transferred destination interfaceIdMap portIdMap z u := by
  obtain ⟨r, hr, hid, hhost⟩ := h.row
  refine ⟨⟨r, hrevision.keeps_services hr (hid ▸ hne), hid, hhost⟩, fun b hb hservice => ?_, fun b hb => ?_,
    fun b hb hservice => h.source b ((hrevision.others b (hservice ▸ hne)).mp hb) hservice⟩
  · have hb' := (hrevision.others b (hservice ▸ hne)).mp hb
    exact (h.refers b hb' hservice).of_sameBut hrevision.frame (by simp) (by simp)
  · exact bindingsOf_congr (fun b hb => hrevision.others b (hb ▸ hne)) (h.represented b hb)

/-- The row that is written for a service of the other host. -/
theorem remapService_row (hhost : updated.id = destination.id ∧ updated.base.networkId = destination.base.networkId)
    (hloaded : LoadedFrom s row z) (now : Instant) :
    { (remapService interfaceIdMap portIdMap updated z).row with updatedAt := now } =
      ({ Service.onHost row destination.id destination.base.networkId with updatedAt := now } : Service) := by
  rw [hloaded.eq, ← hhost.1, ← hhost.2]
  rfl

theorem Moved.revise (h : Moved destination other db t) (hrow : row ∈ db.services.rows)
    (hother : row.base.hostId = other.id) (hloaded : LoadedFrom s row z)
    (hhost : updated.id = destination.id ∧ updated.base.networkId = destination.base.networkId)
    (hrevision : Revision t (remapService interfaceIdMap portIdMap updated z) u) : Moved destination other db u := by
  have hhosts : u.hosts = t.hosts := hrevision.frame .host (by simp)
  have hinterfaces : u.interfaces = t.interfaces := hrevision.frame .interface (by simp)
  have hports : u.ports = t.ports := hrevision.frame .port (by simp)
  have hid : (remapService interfaceIdMap portIdMap updated z).id = row.id := hloaded.id_eq
  refine ⟨hhosts ▸ h.hosts, hinterfaces ▸ h.interfaces, hports ▸ h.ports, ?_, fun b hb => ?_⟩
  · rcases hrevision.services with heq | ⟨now, hmem⟩
    · exact heq ▸ h.services
    · refine h.services.rehome (k := .service) (fun _ => rfl) hrow hother now (fun r => ?_)
      rw [hmem, remapService_row hhost hloaded, hid]
  · rw [hrevision.others b (fun heq => hb row hrow hother (by rw [heq, hid])), h.bindings b hb]

theorem LoadedFrom.distinct (h : LoadedFrom s row z) : z.base.bindings.Pairwise (fun a b => a.id ≠ b.id) := by
  rw [h.bindings.pairwise_iff (fun hne => hne.symm)]
  exact (s.bindings.pairwise.imp (fun hapart => hapart.1)).filter _

/-- Two readings of one service. -/
theorem Transferred.of_loaded {z' row' : Service} (h : Transferred destination interfaceIdMap portIdMap z t)
    (hz : LoadedFrom s row z) (hz' : LoadedFrom s row' z') (hid : z'.id = z.id) :
    Transferred destination interfaceIdMap portIdMap z' t := by
  have hmem (b : Binding) : b ∈ z'.base.bindings ↔ b ∈ z.base.bindings := by
    rw [hz.mem_bindings, hz'.mem_bindings, hid]
  refine ⟨hid ▸ h.row, hid ▸ h.refers, fun b hb => ?_, fun b hb hservice => ?_⟩
  · rw [hid]
    exact h.represented b ((hmem b).mp hb)
  · obtain ⟨c, hc, htype⟩ := h.source b hb (hservice.trans hid)
    exact ⟨c, (hmem c).mpr hc, htype⟩

theorem ensures_transferService (h : Transferring db s destination other interfaceIdMap portIdMap destinationServices done t)
    (hhost : updated.id = destination.id ∧ updated.base.networkId = destination.base.networkId)
    (hrow : row ∈ db.services.rows) (hother : row.base.hostId = other.id) (hloaded : LoadedFrom s row z)
    (hdone : ∀ d ∈ done, ∃ r, LoadedFrom s r d) {post : Except Error Unit → Db → Prop}
    (herror : ∀ e u, Moved destination other db u → post (.error e) u)
    (hok : ∀ u, Transferring db s destination other interfaceIdMap portIdMap destinationServices (done ++ [z]) u →
      post (.ok ()) u) :
    Ensures dbStep may post (HostService.transferService updated interfaceIdMap portIdMap destinationServices z) t := by
  unfold HostService.transferService
  cases hduplicate : HostService.isDuplicate destinationServices z with
  | true =>
    refine hok t ⟨h.frame, h.moved, fun r hr => ?_, fun d hd hnot => ?_⟩
    · rcases h.origin r hr with hold | ⟨d, hd, hdup⟩
      · exact .inl hold
      · exact .inr ⟨d, List.mem_append_left _ hd, hdup⟩
    · rcases List.mem_append.mp hd with hd | hd
      · exact h.transferred d hd hnot
      · obtain rfl := List.mem_singleton.mp hd
        rw [hduplicate] at hnot
        cases hnot
  | false =>
    apply Ensures.bind
    apply Ensures.attempt
    apply (ensures_serviceUpdate _).imp
    intro r u hrevised
    have hrevision := hrevised.revision
    have hmoved := h.moved.revise hrow hother hloaded hhost hrevision
    cases r with
    | error e => exact herror _ u hmoved
    | ok revised =>
      obtain ⟨⟨now, hwritten⟩, hrefers, hrepresented, hsource⟩ := hrevised.ok (List.pairwise_map.mpr hloaded.distinct)
      have htransferred : Transferred destination interfaceIdMap portIdMap z u := by
        refine ⟨⟨_, hwritten, rfl, hhost.1⟩, fun b hb hservice => ?_, fun b hb => ?_, fun b hb hservice => ?_⟩
        · rw [← hhost.1]
          exact (hrefers b hb hservice).of_sameBut hrevision.frame (by simp) (by simp)
        · exact hrepresented _ (List.mem_map_of_mem hb)
        · obtain ⟨c, hc, htype⟩ := hsource b hb hservice
          obtain ⟨c', hc', rfl⟩ := List.mem_map.mp hc
          exact ⟨c', hc', htype⟩
      refine hok u ⟨h.frame.trans hrevision.frame, hmoved, fun r hr => ?_, fun d hd hnot => ?_⟩
      · rcases hrevision.mem_services hr with hid | hold
        · exact .inr ⟨z, by simp, hduplicate, hid⟩
        · rcases h.origin r hold with hold | ⟨d, hd, hdup⟩
          · exact .inl hold
          · exact .inr ⟨d, List.mem_append_left _ hd, hdup⟩
      · rcases List.mem_append.mp hd with hd | hd
        · by_cases hid : d.id = z.id
          · obtain ⟨row', hd'⟩ := hdone d hd
            exact htransferred.of_loaded hloaded hd' hid
          · exact (h.transferred d hd hnot).keep hrevision hid
        · obtain rfl := List.mem_singleton.mp hd
          exact htransferred

theorem ensures_transferServices (hparted : Parted db destination other updated interfaceIdMap portIdMap s)
    {post : Except Error Unit → Db → Prop} (herror : ∀ e u, Moved destination other db u → post (.error e) u)
    (hok : ∀ destinationServices otherServices u,
      Loaded s (fun r => r.base.hostId = destination.id) destinationServices →
      Loaded s (fun r => r.base.hostId = other.id) otherServices →
      Transferring db s destination other interfaceIdMap portIdMap destinationServices otherServices u → post (.ok ()) u) :
    Ensures dbStep may post (HostService.transferServices destination other updated interfaceIdMap portIdMap) s := by
  have hservices : s.services = db.services := hparted.frame .service (by simp)
  apply Ensures.bind
  refine ensures_serviceGetAll (fun e => herror e s hparted.moved) (fun destinationServices hdestination => ?_)
  apply Ensures.bind
  refine ensures_serviceGetAll (fun e => herror e s hparted.moved) (fun otherServices hother => ?_)
  refine Ensures.forEach (Transferring db s destination other interfaceIdMap portIdMap destinationServices)
    otherServices ?_ ?_ (fun u hu => hok _ _ u hdestination hother hu)
  · intro done z rest hrest t ht
    obtain ⟨row, hrow, hhost, hloaded⟩ := hother.mem z (by simp [hrest])
    refine ensures_transferService ht hparted.host (hservices ▸ hrow) (by simpa using hhost) hloaded (fun d hd => ?_)
      herror (fun u hu => hu)
    obtain ⟨row', -, -, hloaded'⟩ := hother.mem d (by simp [hrest, hd])
    exact ⟨row', hloaded'⟩
  · refine ⟨.refl _ _, hparted.moved, fun r hr => .inl (hservices ▸ hr), by simp⟩

end transferring

end VantageNet.Inventory
