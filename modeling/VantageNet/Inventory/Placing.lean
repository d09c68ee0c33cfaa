import VantageNet.Inventory.Hosts
import VantageNet.Inventory.Storing

/-!
The part of `create_with_children` before its services: the host, its interfaces and its ports.
-/

namespace VantageNet.Inventory

open Interaction Interaction.Program

section touches

variable {K : List Kind}

theorem touches_findMatchingHostByInterfaces (networkId : Uuid) (interfaces : List Interface) :
    Touches K (HostService.findMatchingHostByInterfaces networkId interfaces) := by
  unfold HostService.findMatchingHostByInterfaces
  split_ifs
  · exact .ret _
  · refine (touches_getAll .host _).bind (fun hosts => ?_)
    split_ifs
    · exact .ret _
    · exact (touches_getAllOrdered .interface _ _).bind (fun _ => .ret _)

theorem touches_alignHost (behavior : ConflictBehavior) (host : Host) (interfaces : List Interface) :
    Touches K (HostService.alignHost behavior host interfaces) := by
  refine (touches_findMatchingHostByInterfaces _ interfaces).bind (fun found => ?_)
  cases found with
  | none => exact .ret _
  | some existing =>
    cases behavior with
    | error => exact .fail _
    | upsert => exact .ret _

theorem touches_upsertHost (hks : .host ∈ K) (existing host : Host) : Touches K (HostService.upsertHost existing host) := by
  unfold HostService.upsertHost
  dsimp only
  split_ifs
  · exact touches_storageUpdate (k := .host) hks _
  · exact .ret _

theorem touches_hostStore (hks : .host ∈ K) (hosts : List Host) (host : Host) :
    Touches K (HostService.store hosts host) := by
  unfold HostService.store
  split
  · exact touches_upsertHost hks _ host
  · refine (touches_getById .host host.id).bind (fun found => ?_)
    cases found with
    | none => exact (touches_storageCreate (k := .host) hks host).bind (fun _ => .ret _)
    | some _ => exact .fail _

theorem touches_hostCreate (hks : .host ∈ K) (host : Host) : Touches K (HostService.create host) := by
  have hnamed (host : Host) : Touches K ((acquire (.host host.id)).bind (fun _ =>
      (HostService.getForNetwork host.base.networkId).bind (fun hosts =>
        (HostService.store hosts host).bind (fun stored =>
          (release (.host host.id)).bind (fun _ => ret stored))))) := by
    refine (touches_acquire _).bind (fun _ => (touches_getAll .host _).bind (fun hosts => ?_))
    exact (touches_hostStore hks hosts host).bind (fun _ => (touches_release _).bind (fun _ => .ret _))
  unfold HostService.create
  split_ifs
  · exact (touches_newEntity _).bind hnamed
  · exact hnamed host

theorem touches_createInterface (hks : .interface ∈ K) (behavior : ConflictBehavior) (hostId : Uuid)
    (interface : Interface) : Touches K (HostService.createInterface behavior hostId interface) := by
  have hexisting (interface : Interface) : Touches K (HostService.existingInterface interface) := by
    refine (touches_getById .interface _).bind (fun found => ?_)
    cases found with
    | none => exact (touches_getAll .interface _).bind (fun _ => .ret _)
    | some existing => exact .ret _
  cases behavior with
  | error => exact touches_crudCreate (k := .interface) hks _
  | upsert =>
    refine (hexisting _).bind (fun existing => ?_)
    cases existing with
    | none => exact touches_crudCreate (k := .interface) hks _
    | some existing => exact .ret _

theorem touches_createPort (hks : .port ∈ K) (behavior : ConflictBehavior) (host : Host) (port : Port) :
    Touches K (HostService.createPort behavior host port) := by
  have hexisting (port : Port) : Touches K (HostService.existingPort host.id port) := by
    refine (touches_getById .port _).bind (fun found => ?_)
    cases found with
    | none => exact (touches_getAll .port _).bind (fun _ => .ret _)
    | some existing => exact .ret _
  cases behavior with
  | error => exact touches_crudCreate (k := .port) hks _
  | upsert =>
    refine (hexisting _).bind (fun existing => ?_)
    cases existing with
    | none => exact touches_crudCreate (k := .port) hks _
    | some existing => exact .ret _

theorem touches_createParts (behavior : ConflictBehavior) (host : Host) (interfaces : List Interface)
    (ports : List Port) : Touches [.host, .interface, .port]
      (HostService.createParts behavior host interfaces ports) := by
  refine (touches_alignHost behavior host interfaces).bind (fun aligned => ?_)
  refine (touches_hostCreate (by simp) aligned).bind (fun createdHost => ?_)
  refine Touches.bind (.collect (touches_createInterface (by simp) behavior createdHost.id) interfaces) (fun _ => ?_)
  exact Touches.bind (.collect (touches_createPort (by simp) behavior createdHost) ports) (fun _ => .ret _)

end touches

/-- What an entity of the batch comes to: the stored row with its id, else the one with its key, else a new row. -/
inductive Placed {k : Kind} (new : Uuid → Prop) (db : Db) (entity : Row k) : Row k → Db → Prop
  | known {row : Row k} (hrow : row ∈ (db.table k).rows) (hid : row.id = entity.id) : Placed new db entity row db
  | found {row : Row k} (hrow : row ∈ (db.table k).rows) (hnew : ∀ r ∈ (db.table k).rows, r.id ≠ entity.id)
      (hclash : clash k row entity = true) : Placed new db entity row db
  | made {row : Row k} (hnew : ∀ r ∈ (db.table k).rows, r.id ≠ entity.id ∧ clash k r entity = false)
      (hbase : row.base = entity.base) (hid : entity.id ≠ Uuid.nil → row = entity) (hnil : entity.id = Uuid.nil → new row.id)
      (hapart : ∀ r ∈ (db.table k).rows, Apart k r (columns k row)) :
      Placed new db entity row (db.withTable k ((db.table k).insert (columns k row) hapart))

/-- The stored row that an entity of the batch comes to: the one with its id, else the one with its key. -/
def Db.storedFor (db : Db) (k : Kind) (entity : Row k) : Option (Row k) :=
  ((db.table k).rows.find? (fun r => r.id = entity.id)).or ((db.table k).rows.find? (fun r => clash k r entity))

section placed

variable {k : Kind} {new : Uuid → Prop} {s t : Db} {entity row : Row k}

theorem Placed.sameBut (h : Placed new s entity row t) : s.SameBut [k] t := by
  cases h with
  | known => exact .refl _ _
  | found => exact .refl _ _
  | made => exact .withTable (by simp) _

theorem Placed.mem (h : Placed new s entity row t) (hk : columns k row = row) : row ∈ (t.table k).rows := by
  cases h with
  | known hrow => exact hrow
  | found hrow => exact hrow
  | made =>
    rw [table_withTable, Table.rows_insert, hk]
    simp

theorem Placed.keeps {r : Row k} (h : Placed new s entity row t) (hr : r ∈ (s.table k).rows) :
    r ∈ (t.table k).rows := by
  cases h with
  | known => exact hr
  | found => exact hr
  | made =>
    rw [table_withTable, Table.rows_insert]
    exact List.mem_append_left _ hr

theorem clash_of_clash {k : Kind} {a b c : Row k} (ha : clash k a c = true) (hb : clash k b c = true) :
    clash k a b = true := by
  cases k with
  | interface | port | groupBinding => simp_all [clash]
  | _ => cases ha

theorem find_clash_eq_some {k : Kind} {rows : Rows k} {entity row : Row k} (hrow : row ∈ rows.rows)
    (hclash : clash k row entity = true) : rows.rows.find? (fun r => clash k r entity) = some row := by
  cases hfind : rows.rows.find? (fun r => clash k r entity) with
  | none => exact absurd hclash (by simpa using List.find?_eq_none.mp hfind row hrow)
  | some other =>
    have hother := List.mem_of_find?_eq_some hfind
    by_contra hne
    have hapart := rows.pairwise.forall hother hrow (fun heq => hne (by rw [heq]))
    have htrue : clash k other row = true := clash_of_clash (by simpa using List.find?_some hfind) hclash
    rw [hapart.2] at htrue
    cases htrue

theorem Placed.storedFor (h : Placed new s entity row t) :
    s.storedFor k entity = some row ∧ t = s ∨ s.storedFor k entity = none ∧ row.base = entity.base := by
  unfold Db.storedFor
  cases h with
  | known hrow hid =>
    left
    rw [find_id_eq_some_iff.mpr ⟨hrow, hid⟩]
    exact ⟨rfl, rfl⟩
  | found hrow hnew hclash =>
    left
    rw [List.find?_eq_none.mpr (by simpa using hnew), find_clash_eq_some hrow hclash]
    exact ⟨rfl, rfl⟩
  | made hnew hbase hid hnil hapart =>
    right
    refine ⟨?_, hbase⟩
    rw [List.find?_eq_none.mpr (by simpa using fun r hr => (hnew r hr).1),
      List.find?_eq_none.mpr (by simpa using fun r hr => (hnew r hr).2)]
    rfl

end placed

/-- Each row of the one table has its counterpart in the other. -/
def Related {k : Kind} (R : Row k → Row k → Prop) (a b : Rows k) : Prop :=
  (∀ x ∈ a.rows, ∃ y ∈ b.rows, R x y) ∧ ∀ y ∈ b.rows, ∃ x ∈ a.rows, R x y

section related

variable {k : Kind} {R : Row k → Row k → Prop} {a b c : Rows k}

theorem Related.refl (hrefl : ∀ r, R r r) (a : Rows k) : Related R a a :=
  ⟨fun x hx => ⟨x, hx, hrefl x⟩, fun x hx => ⟨x, hx, hrefl x⟩⟩

theorem Related.trans (htrans : ∀ x y z, R x y → R y z → R x z) (h : Related R a b) (h' : Related R b c) :
    Related R a c := by
  constructor
  · intro x hx
    obtain ⟨y, hy, hxy⟩ := h.1 x hx
    obtain ⟨z, hz, hyz⟩ := h'.1 y hy
    exact ⟨z, hz, htrans x y z hxy hyz⟩
  · intro z hz
    obtain ⟨y, hy, hyz⟩ := h'.2 z hz
    obtain ⟨x, hx, hxy⟩ := h.2 y hy
    exact ⟨x, hx, htrans x y z hxy hyz⟩

theorem Related.imp {R' : Row k → Row k → Prop} (h : Related R a b) (himp : ∀ x y, R x y → R' x y) : Related R' a b := by
  constructor
  · intro x hx
    obtain ⟨y, hy, hxy⟩ := h.1 x hx
    exact ⟨y, hy, himp x y hxy⟩
  · intro y hy
    obtain ⟨x, hx, hxy⟩ := h.2 y hy
    exact ⟨x, hx, himp x y hxy⟩

theorem related_updated (hrefl : ∀ r, R r r) {existing row : Row k} (hrow : existing ∈ a.rows)
    (hid : row.id = existing.id) (hR : R existing (columns k row))
    (hapart : ∀ r ∈ (a.filter (fun r => r.id ≠ row.id)).rows, Apart k r (columns k row)) :
    Related R a (updated a row hapart) := by
  constructor
  · intro x hx
    by_cases heq : x.id = row.id
    · rw [eq_of_id_eq hx hrow (heq.trans hid)]
      exact ⟨_, mem_updated.mpr (.inl rfl), hR⟩
    · exact ⟨x, mem_updated.mpr (.inr ⟨hx, heq⟩), hrefl x⟩
  · intro y hy
    rcases mem_updated.mp hy with rfl | ⟨hy, -⟩
    · exact ⟨existing, hrow, hR⟩
    · exact ⟨y, hy, hrefl y⟩

end related

/-- Only the discovery metadata and a missing hostname differ. -/
structure HostKept (h h' : Host) : Prop where
  id : h'.id = h.id
  createdAt : h'.createdAt = h.createdAt
  base : h'.base = { h.base with hostname := h'.base.hostname, source := h'.base.source }
  hostname : h.base.hostname.isSome = true → h'.base.hostname = h.base.hostname

theorem HostKept.refl (h : Host) : HostKept h h := ⟨rfl, rfl, rfl, fun _ => rfl⟩

theorem HostKept.trans {a b c : Host} (h : HostKept a b) (h' : HostKept b c) : HostKept a c := by
  refine ⟨h'.id.trans h.id, h'.createdAt.trans h.createdAt, ?_, fun hsome => ?_⟩
  · rw [h'.base, h.base]
  · rw [← h.hostname hsome]
    exact h'.hostname (by rw [h.hostname hsome]; exact hsome)

def Db.houses (db : Db) (id networkId : Uuid) : Prop := ∃ h ∈ db.hosts.rows, h.id = id ∧ h.base.networkId = networkId

theorem houses_iff_of_related {db t : Db} (h : Related (k := .host) HostKept db.hosts t.hosts) (id n : Uuid) :
    t.houses id n ↔ db.houses id n := by
  constructor
  · rintro ⟨y, hy, rfl, rfl⟩
    obtain ⟨x, hx, hkept⟩ := h.2 y hy
    exact ⟨x, hx, hkept.id.symm, by rw [hkept.base]⟩
  · rintro ⟨x, hx, rfl, rfl⟩
    obtain ⟨y, hy, hkept⟩ := h.1 x hx
    exact ⟨y, hy, hkept.id, by rw [hkept.base]⟩

/-- What `HostService::create` comes to. -/
structure HostPlaced (db : Db) (host created : Host) (t : Db) : Prop where
  frame : db.SameBut [.host] t
  network : created.base.networkId = host.base.networkId
  id : host.id ≠ Uuid.nil → created.id = host.id
  houses : ∀ id n, t.houses id n ↔ db.houses id n ∨ id = created.id ∧ n = created.base.networkId
  known : db.houses created.id created.base.networkId ∧ Related (k := .host) HostKept db.hosts t.hosts ∨
    ∀ h ∈ db.hosts.rows, h.id ≠ created.id

/-- The host of the batch, under the id of a stored host of its network that one of its interfaces belongs to. -/
inductive Aligned (db : Db) (host : Host) (interfaces : List Interface) : Host → Prop
  | unmatched (h : ∀ i ∈ interfaces, ∀ e ∈ db.interfaces.rows, db.houses e.base.hostId host.base.networkId →
      Interface.eq i e = false) : Aligned db host interfaces host
  | matched {i e : Interface} (hi : i ∈ interfaces) (he : e ∈ db.interfaces.rows)
      (hhouses : db.houses e.base.hostId host.base.networkId) (heq : Interface.eq i e = true) :
      Aligned db host interfaces { host with id := e.base.hostId }

theorem Aligned.base_eq {db : Db} {host aligned : Host} {interfaces : List Interface}
    (h : Aligned db host interfaces aligned) : aligned.base = host.base := by
  cases h <;> rfl

def Interface.onHost (interface : Interface) (hostId : Uuid) : Interface :=
  { interface with base := { interface.base with hostId } }

section parts

variable {may : Db → (o : DbOp) → o.Reply → Prop} {db : Db}

theorem ensures_placed {k : Kind} (entity : Row k) (filter among : Row k → Bool)
    (hclash : ∀ r, (filter r && among r) = clash k r entity) {look : Option (Row k) → Query (Option (Row k))}
    (hlook : ∀ existing, look (some existing) = ret (some existing))
    (hlist : look none = (Storage.getAll k filter).bind (fun rows => ret (rows.find? among)))
    {finish : Option (Row k) → Query (Row k)} (hkept : ∀ existing, finish (some existing) = ret existing)
    (hcreate : finish none = Crud.create k entity) {new : Uuid → Prop} (hnew : ∀ s id, may s .newV4 id → new id)
    {post : Except Error (Row k) → Db → Prop} (herror : ∀ e, post (.error e) db)
    (hplaced : ∀ row t, Placed new db entity row t → post (.ok row) t) :
    Ensures dbStep may post (((Storage.getById k entity.id).bind look).bind finish) db := by
  apply Ensures.bind
  apply Ensures.bind
  apply ensures_getById herror
  cases hfind : (db.table k).rows.find? (fun r => r.id = entity.id) with
  | some existing =>
    obtain ⟨hrow, hid⟩ := find_id_eq_some_iff.mp hfind
    change Ensures dbStep may (Ensures.andThen post (fun a => Ensures dbStep may post (finish a))) (look (some existing)) db
    rw [hlook]
    change Ensures dbStep may post (finish (some existing)) db
    rw [hkept]
    exact hplaced _ _ (.known hrow hid)
  | none =>
    change Ensures dbStep may (Ensures.andThen post (fun a => Ensures dbStep may post (finish a))) (look none) db
    rw [hlist]
    have hnone : ∀ r ∈ (db.table k).rows, r.id ≠ entity.id := by simpa using List.find?_eq_none.mp hfind
    apply Ensures.bind
    apply ensures_getAll herror
    intro rows hrows _
    have hmem (r : Row k) : r ∈ rows ↔ r ∈ (db.table k).rows ∧ filter r = true := by
      rw [hrows.mem_iff, List.mem_filter]
    change Ensures dbStep may post (finish (rows.find? among)) db
    cases hkey : rows.find? among with
    | some existing =>
      obtain ⟨hrow, hfilter⟩ := (hmem existing).mp (List.mem_of_find?_eq_some hkey)
      rw [hkept]
      refine hplaced _ _ (.found hrow hnone ?_)
      rw [← hclash, hfilter, List.find?_some hkey]
      rfl
    | none =>
      rw [hcreate]
      apply ensures_crudCreate herror
      intro row hbase hid hnil hapart _
      refine hplaced _ _ (.made (fun r hr => ⟨hnone r hr, ?_⟩) hbase hid (fun h => hnew _ _ (hnil h)) hapart)
      rw [← hclash, Bool.and_eq_false_iff]
      cases hfilter : filter r with
      | false => exact .inl rfl
      | true => exact .inr (by simpa using List.find?_eq_none.mp hkey r ((hmem r).mpr ⟨hr, hfilter⟩))

theorem ensures_createInterface {hostId : Uuid} {interface : Interface} {new : Uuid → Prop}
    (hnew : ∀ s id, may s .newV4 id → new id) {post : Except Error Interface → Db → Prop}
    (herror : ∀ e, post (.error e) db)
    (hplaced : ∀ row t, Placed (k := .interface) new db (interface.onHost hostId) row t → post (.ok row) t) :
    Ensures dbStep may post (HostService.createInterface .upsert hostId interface) db := by
  refine ensures_placed (k := .interface) (interface.onHost hostId)
    (fun i : Interface => i.base.hostId = hostId && i.base.subnetId = interface.base.subnetId)
    (fun i : Interface => i.base.ipAddress = interface.base.ipAddress) (fun _ => rfl) ?_ ?_ ?_ ?_ hnew
    herror hplaced
  · exact fun _ => rfl
  · rfl
  · exact fun _ => rfl
  · rfl

theorem ensures_createPort {host : Host} {port : Port} {new : Uuid → Prop}
    (hnew : ∀ s id, may s .newV4 id → new id) {post : Except Error Port → Db → Prop}
    (herror : ∀ e, post (.error e) db)
    (hplaced : ∀ row t, Placed (k := .port) new db (port.withHost host.id host.base.networkId) row t → post (.ok row) t) :
    Ensures dbStep may post (HostService.createPort .upsert host port) db := by
  refine ensures_placed (k := .port) (port.withHost host.id host.base.networkId)
    (fun p : Port => p.base.hostId = host.id) (fun p : Port => p.base.portType = port.base.portType) (fun _ => rfl) ?_ ?_
    ?_ ?_ hnew herror hplaced
  · exact fun _ => rfl
  · rfl
  · exact fun _ => rfl
  · rfl

theorem HostPlaced.of_known {existing upserted host : Host} (hrow : existing ∈ db.hosts.rows)
    (hnetwork : existing.base.networkId = host.base.networkId) (hid : host.id = existing.id)
    (hkept : HostKept existing upserted) {t : Db} (hframe : db.SameBut [.host] t)
    (hhosts : Related (k := .host) HostKept db.hosts t.hosts) : HostPlaced db host upserted t := by
  have hnetwork' : upserted.base.networkId = existing.base.networkId := by rw [hkept.base]
  have hhoused : db.houses upserted.id upserted.base.networkId := ⟨existing, hrow, hkept.id.symm, hnetwork'.symm⟩
  refine ⟨hframe, hnetwork'.trans hnetwork, fun _ => hkept.id.trans hid.symm, fun id n => ?_, .inl ⟨hhoused, hhosts⟩⟩
  rw [houses_iff_of_related hhosts, iff_self_or]
  rintro ⟨rfl, rfl⟩
  exact hhoused

/-- Only the row of `existing` may change. -/
theorem ensures_upsertHost_kept {existing host : Host} (hrow : existing ∈ db.hosts.rows)
    {post : Except Error Host → Db → Prop} (herror : ∀ e, post (.error e) db)
    (hkept : ∀ upserted t, HostKept existing upserted → db.SameBut [.host] t →
      Related (k := .host) (fun a b => b = a ∨ a = existing ∧ HostKept a b) db.hosts t.hosts → post (.ok upserted) t) :
    Ensures dbStep may post (HostService.upsertHost existing host) db := by
  have hhas : db.has .host existing.id = true := (has_iff db .host existing.id).mpr ⟨existing, hrow, rfl⟩
  have hupdate (upserted : Host) (h : HostKept existing upserted) :
      Ensures dbStep may post (Storage.update .host upserted) db := by
    refine ensures_update (k := .host) (fun e => herror e) (fun now hnot => ?_) (fun now hapart _ _ => ?_)
    · rw [h.id, hhas] at hnot
      cases hnot
    · have h' : HostKept existing { upserted with updatedAt := now } := ⟨h.id, h.createdAt, h.base, h.hostname⟩
      exact hkept _ _ h' (.withTable (by simp) _)
        (related_updated (k := .host) (fun _ => .inl rfl) hrow h'.id (.inr ⟨rfl, h'⟩) hapart)
  have hhostname (h : existing.base.hostname.isSome = true) :
      existing.base.hostname.or host.base.hostname = existing.base.hostname := by
    obtain ⟨name, hname⟩ := Option.isSome_iff_exists.mp h
    rw [hname]
    rfl
  unfold HostService.upsertHost
  dsimp only
  split_ifs
  · exact hupdate _ ⟨rfl, rfl, rfl, hhostname⟩
  · exact hkept _ _ ⟨rfl, rfl, rfl, hhostname⟩ (.refl _ _) (Related.refl (k := .host) (fun _ => .inl rfl) _)

theorem ensures_upsertHost {existing host : Host} (hrow : existing ∈ db.hosts.rows)
    (hnetwork : existing.base.networkId = host.base.networkId) (hid : host.id = existing.id)
    {post : Except Error Host → Db → Prop} (herror : ∀ e, post (.error e) db)
    (hplaced : ∀ created t, HostPlaced db host created t → post (.ok created) t) :
    Ensures dbStep may post (HostService.upsertHost existing host) db := by
  refine ensures_upsertHost_kept hrow herror (fun upserted t hkept hframe hrelated => ?_)
  refine hplaced _ _ (.of_known hrow hnetwork hid hkept hframe (hrelated.imp ?_))
  rintro a b (rfl | ⟨-, hkept⟩)
  · exact .refl _
  · exact hkept

theorem ensures_insertHost {host : Host} {post : Except Error Host → Db → Prop} (herror : ∀ e, post (.error e) db)
    (hplaced : ∀ created t, HostPlaced db host created t → post (.ok created) t) :
    Ensures dbStep may post (HostService.insertHost host) db := by
  apply Ensures.bind
  apply ensures_getById (k := .host) herror
  cases hfind : (db.table .host).rows.find? (fun h => h.id = host.id) with
  | some existing => exact herror _
  | none =>
    apply Ensures.bind
    refine ensures_create (k := .host) (fun e => herror e) (fun hapart _ => ?_)
    refine hplaced host _ ⟨.withTable (by simp) _, rfl, fun _ => rfl, fun id n => ?_, .inr (fun h hh => (hapart h hh).1)⟩
    unfold Db.houses
    simp only [Db.withTable, Table.rows_insert, columns, List.mem_append, List.mem_singleton]
    constructor
    · rintro ⟨h, hh | rfl, rfl, rfl⟩
      · exact .inl ⟨h, hh, rfl, rfl⟩
      · exact .inr ⟨rfl, rfl⟩
    · rintro (⟨h, hh, rfl, rfl⟩ | ⟨rfl, rfl⟩)
      · exact ⟨h, .inl hh, rfl, rfl⟩
      · exact ⟨host, .inr rfl, rfl, rfl⟩

theorem ensures_hostCreate {host : Host} {post : Except Error Host → Db → Prop} (herror : ∀ e, post (.error e) db)
    (hplaced : ∀ created t, HostPlaced db host created t → post (.ok created) t) :
    Ensures dbStep may post (HostService.create host) db := by
  have hnamed (named : Host) (hbase : named.base = host.base) (hid : host.id ≠ Uuid.nil → named = host) :
      Ensures dbStep may post ((acquire (.host named.id)).bind (fun _ =>
        (HostService.getForNetwork named.base.networkId).bind (fun hosts =>
          (HostService.store hosts named).bind (fun stored =>
            (release (.host named.id)).bind (fun _ => ret stored))))) db := by
    have hplaced' (created : Host) (t : Db) (h : HostPlaced db named created t) : post (.ok created) t :=
      hplaced created t ⟨h.frame, h.network.trans (by rw [hbase]), fun hne => (h.id (hid hne ▸ hne)).trans (by rw [hid hne]),
        h.houses, h.known⟩
    apply ensures_acquire
    apply Ensures.bind
    refine ensures_getAll (k := .host) (fun e => herror e) (fun hosts hhosts _ => ?_)
    apply Ensures.bind
    unfold HostService.store
    cases hfind : hosts.find? (fun h => named.id = h.id) with
    | some existing =>
      obtain ⟨hrow, hnetwork⟩ := List.mem_filter.mp (hhosts.mem_iff.mp (List.mem_of_find?_eq_some hfind))
      refine ensures_upsertHost hrow (by simpa using hnetwork) (by simpa using List.find?_some hfind)
        (fun e => herror e) (fun created t h => ?_)
      apply ensures_release
      exact hplaced' created t h
    | none =>
      refine ensures_insertHost (fun e => herror e) (fun created t h => ?_)
      apply ensures_release
      exact hplaced' created t h
  unfold HostService.create
  by_cases hnil : host.id = Uuid.nil
  · simp only [hnil, ↓reduceIte]
    apply Ensures.bind
    apply ensures_newEntity
    intro id now _
    exact hnamed _ rfl (fun h => absurd hnil h)
  · simp only [hnil, ↓reduceIte]
    exact hnamed host rfl (fun _ => rfl)

theorem ensures_findMatchingHostByInterfaces {networkId : Uuid} {interfaces : List Interface}
    {post : Except Error (Option Host) → Db → Prop} (herror : ∀ e, post (.error e) db)
    (hnone : (∀ i ∈ interfaces, ∀ e ∈ db.interfaces.rows, db.houses e.base.hostId networkId →
      Interface.eq i e = false) → post (.ok none) db)
    (hsome : ∀ existing, ∀ i ∈ interfaces, ∀ e ∈ db.interfaces.rows, e.base.hostId = existing.id →
      db.houses existing.id networkId → Interface.eq i e = true → post (.ok (some existing)) db) :
    Ensures dbStep may post (HostService.findMatchingHostByInterfaces networkId interfaces) db := by
  unfold HostService.findMatchingHostByInterfaces
  split_ifs with hempty
  · obtain rfl := List.isEmpty_iff.mp hempty
    exact hnone (fun i hi => (nomatch hi))
  · apply Ensures.bind
    refine ensures_getAll (k := .host) (fun e => herror e) (fun hosts hhosts _ => ?_)
    have hmem (h : Host) : h ∈ hosts ↔ h ∈ db.hosts.rows ∧ h.base.networkId = networkId := by
      rw [hhosts.mem_iff, List.mem_filter, decide_eq_true_eq]
      rfl
    have hunmatched (h : ∀ i ∈ interfaces, ∀ e ∈ db.interfaces.rows, (∃ h ∈ hosts, h.id = e.base.hostId) →
        Interface.eq i e = false) : post (.ok none) db := by
      refine hnone (fun i hi e he hhouses => h i hi e he ?_)
      obtain ⟨h, hh, hid, hnetwork⟩ := hhouses
      exact ⟨h, (hmem h).mpr ⟨hh, hnetwork⟩, hid⟩
    dsimp only [Ensures.andThen]
    split_ifs with hnohosts
    · obtain rfl := List.isEmpty_iff.mp hnohosts
      apply hunmatched
      rintro i - e - ⟨h, hh, -⟩
      cases hh
    · apply Ensures.bind
      refine ensures_getAllOrdered (k := .interface) (fun e => herror e) (fun rows hrows _ => ?_)
      have hrow (e : Interface) : e ∈ rows ↔ e ∈ db.interfaces.rows ∧ ∃ h ∈ hosts, h.id = e.base.hostId := by
        rw [hrows.mem_iff, List.mem_filter, List.contains_iff_mem, List.mem_map]
        rfl
      have hmatching (h : Host) : HostService.matching interfaces rows h = true ↔
          ∃ i ∈ interfaces, ∃ e ∈ rows, e.base.hostId = h.id ∧ Interface.eq i e = true := by
        simp [HostService.matching]
      change post (.ok (hosts.find? (HostService.matching interfaces rows))) db
      cases hfind : hosts.find? (HostService.matching interfaces rows) with
      | none =>
        apply hunmatched
        rintro i hi e he ⟨h, hh, hid⟩
        rw [← Bool.not_eq_true]
        intro heq
        apply List.find?_eq_none.mp hfind h hh
        exact (hmatching h).mpr ⟨i, hi, e, (hrow e).mpr ⟨he, h, hh, hid⟩, hid.symm, heq⟩
      | some existing =>
        obtain ⟨hstored, hnetwork⟩ := (hmem existing).mp (List.mem_of_find?_eq_some hfind)
        obtain ⟨i, hi, e, he, hid, heq⟩ := (hmatching existing).mp (List.find?_some hfind)
        exact hsome existing i hi e ((hrow e).mp he).1 hid ⟨existing, hstored, rfl, hnetwork⟩ heq

theorem ensures_alignHost {host : Host} {interfaces : List Interface} {post : Except Error Host → Db → Prop}
    (herror : ∀ e, post (.error e) db)
    (haligned : ∀ aligned, Aligned db host interfaces aligned → post (.ok aligned) db) :
    Ensures dbStep may post (HostService.alignHost .upsert host interfaces) db := by
  apply Ensures.bind
  refine ensures_findMatchingHostByInterfaces (fun e => herror e) (fun h => haligned host (.unmatched h)) ?_
  intro existing i hi e he hid hhouses heq
  rw [← hid] at hhouses
  have hmatched := haligned _ (.matched hi he hhouses heq)
  rw [hid] at hmatched
  exact hmatched

/-- The rule for the part before the services: `I` holds of the loop over the interfaces, `J` of the one over the
ports. -/
theorem ensures_createParts {host : Host} {interfaces : List Interface} {ports : List Port} {new : Uuid → Prop}
    (hnew : ∀ s id, may s .newV4 id → new id) (I : Host → List Interface → List Interface → Db → Prop)
    (J : Host → List Interface → List Port → List Port → Db → Prop)
    (hhost : ∀ aligned created t, Aligned db host interfaces aligned → HostPlaced db aligned created t → I created [] [] t)
    (hinterface : ∀ created done x rest, interfaces = done ++ x :: rest → ∀ out s row t, I created done out s →
      Placed (k := .interface) new s (x.onHost created.id) row t → I created (done ++ [x]) (out ++ [row]) t)
    (hports : ∀ created out t, I created interfaces out t → J created out [] [] t)
    (hport : ∀ created is done x rest, ports = done ++ x :: rest → ∀ out s row t, J created is done out s →
      Placed (k := .port) new s (x.withHost created.id created.base.networkId) row t →
      J created is (done ++ [x]) (out ++ [row]) t) :
    Ensures dbStep may (fun r t => ∀ h is ps, r = .ok (h, is, ps) → J h is ports ps t)
      (HostService.createParts .upsert host interfaces ports) db := by
  apply Ensures.bind
  refine ensures_alignHost (fun e h is ps hr => (nomatch hr)) (fun aligned haligned => ?_)
  apply Ensures.bind
  refine ensures_hostCreate (fun e h is ps hr => (nomatch hr)) (fun created t hcreated => ?_)
  apply Ensures.bind
  refine Ensures.collect (I created) interfaces (fun done x rest hrest out s hs => ?_)
    (hhost aligned created t haligned hcreated) (fun is t ht => ?_)
  · refine ensures_createInterface hnew (fun e => ⟨fun _ hr => (nomatch hr), fun _ _ h is ps hr => (nomatch hr)⟩)
      (fun row t hrow => ⟨?_, fun _ hr => (nomatch hr)⟩)
    rintro _ ⟨⟩
    exact hinterface created done x rest hrest out s row t hs hrow
  · apply Ensures.bind
    refine Ensures.collect (J created is) ports (fun done x rest hrest out s hs => ?_) (hports created is t ht)
      (fun ps u hu => ?_)
    · refine ensures_createPort hnew (fun e => ⟨fun _ hr => (nomatch hr), fun _ _ h is ps hr => (nomatch hr)⟩)
        (fun row t hrow => ⟨?_, fun _ hr => (nomatch hr)⟩)
      rintro _ ⟨⟩
      exact hport created is done x rest hrest out s row t hs hrow
    · rintro h is' ps' ⟨⟩
      exact hu

/-- The rule for `create_with_children` where nothing is asked of the steps. -/
theorem ensures_createWithChildren {host : Host} {interfaces : List Interface} {ports : List Port}
    {services : List Service} {post : Except Error HostResponse → Db → Prop}
    (before : Host → List Interface → List Port → Except Error Batch → Db → Prop)
    (hfailed : ∀ e t, db.SameBut [.host, .interface, .port] t → post (.error e) t)
    (hparts : Ensures dbStep may (fun r t => ∀ h is ps, r = .ok (h, is, ps) → before h is ps (.ok ⟨[], [], []⟩) t)
      (HostService.createParts .upsert host interfaces ports) db)
    (hstep : ∀ h is ps, ∀ service ∈ services, ∀ batch db, before h is ps (.ok batch) db →
      Ensures dbStep may (before h is ps) (HostService.createService interfaces ports h is ps batch service) db)
    (herror : ∀ h is ps e t, before h is ps (.error e) t → post (.error e) t)
    (hopen : ∀ h is ps batch db, before h is ps (.ok batch) db →
      Ensures dbStep may (fun r t => post (r.map (fun ss => ⟨h, is, ps, ss⟩)) t)
        (HostService.createOpenPorts h batch) db) :
    Ensures dbStep may post (HostService.createWithChildren .upsert host interfaces ports services) db := by
  apply Ensures.bind
  apply (((touches_createParts .upsert host interfaces ports).ensures db).and hparts).imp
  rintro (e | ⟨h, is, ps⟩) t ⟨hframe, ht⟩
  · exact hfailed e t hframe
  · apply Ensures.bind
    apply Ensures.bind
    refine Ensures.accumulate (fun _ batch => before h is ps (.ok batch)) services (fun done x rest hrest batch s hs => ?_)
      (ht h is ps rfl) (fun batch u hu => ?_)
    · apply (hstep h is ps x (by simp [hrest]) batch s hs).imp
      rintro (e | batch') u hu
      · exact herror h is ps e u hu
      · exact hu
    · apply (hopen h is ps batch u hu).imp
      rintro (e | ss) v hv
      · exact hv
      · exact hv

end parts

/-- The runs of its parts behind a call that returns `Ok`. -/
theorem ok_createWithChildren {ω : Oracle dbSig} {db : Db} {host : Host} {interfaces : List Interface}
    {ports : List Port} {services : List Service} {res : HostResponse}
    (hres : (run dbStep ω 0 (HostService.createWithChildren .upsert host interfaces ports services) db).result =
      .ok res) :
    ∃ n t m u, run dbStep ω 0 ((HostService.alignHost .upsert host interfaces).bind HostService.create) db =
        ⟨.ok res.host, n, t⟩ ∧
      run dbStep ω n (collect (HostService.createInterface .upsert res.host.id) interfaces) t =
        ⟨.ok res.interfaces, m, u⟩ ∧
      (run dbStep ω m (collect (HostService.createPort .upsert res.host) ports) u).result = .ok res.ports := by
  obtain ⟨⟨h, is, ps⟩, l, v, hparts, hrest⟩ := ok_of_run_bind hres
  obtain ⟨ss, m, w, -, hresponse⟩ := ok_of_run_bind hrest
  cases hresponse
  obtain ⟨aligned, a, q, haligned, hrest⟩ := ok_of_run_bind (congrArg Outcome.result hparts)
  obtain ⟨created, b, t, hcreated, hrest⟩ := ok_of_run_bind hrest
  obtain ⟨is', c, u, hinterfaces, hrest⟩ := ok_of_run_bind hrest
  obtain ⟨ps', d, x, hports, hrest⟩ := ok_of_run_bind hrest
  cases hrest
  exact ⟨b, t, c, u, by rw [run_bind, haligned]; exact hcreated, hinterfaces, congrArg Outcome.result hports⟩

/-- `okInterface` holds whenever the loop of `create_with_children` comes to an interface, `okPort` when it comes to
a port. -/
def EachPart (ω : Oracle dbSig) (okInterface : Host → Db → Interface → Prop) (okPort : Host → Db → Port → Prop)
    (db : Db) (host : Host) (interfaces : List Interface) (ports : List Port) : Prop :=
  match run dbStep ω 0 ((HostService.alignHost .upsert host interfaces).bind HostService.create) db with
  | ⟨.ok created, n, t⟩ =>
    Throughout dbStep ω (HostService.createInterface .upsert created.id) (okInterface created) n t interfaces ∧
    match run dbStep ω n (collect (HostService.createInterface .upsert created.id) interfaces) t with
    | ⟨.ok _, m, u⟩ => Throughout dbStep ω (HostService.createPort .upsert created) (okPort created) m u ports
    | ⟨.error _, _, _⟩ => True
  | ⟨.error _, _, _⟩ => True

/-- `ok` holds whenever the loop of `create_with_children` comes to a service, its bindings reassigned, and `last`
when it comes to the unclaimed open ports. -/
def EachService (ω : Oracle dbSig) (ok : Host → Db → Batch → Service → Prop) (last : Host → Db → Batch → Prop)
    (db : Db) (host : Host) (interfaces : List Interface) (ports : List Port) (services : List Service) : Prop :=
  match run dbStep ω 0 (HostService.createParts .upsert host interfaces ports) db with
  | ⟨.ok (createdHost, createdInterfaces, createdPorts), n, t⟩ =>
    Along dbStep ω (HostService.createService interfaces ports createdHost createdInterfaces createdPorts)
      (fun db batch service => ok createdHost db batch
        (reassignedService interfaces createdInterfaces ports createdPorts createdHost service))
      (last createdHost) n t ⟨[], [], []⟩ services
  | ⟨.error _, _, _⟩ => True

theorem EachService.imp {ω : Oracle dbSig} {ok ok' : Host → Db → Batch → Service → Prop}
    {last last' : Host → Db → Batch → Prop} {db : Db} {host : Host} {interfaces : List Interface} {ports : List Port}
    {services : List Service} (h : EachService ω ok last db host interfaces ports services)
    (hok : ∀ h db batch service, ok h db batch service → ok' h db batch service)
    (hlast : ∀ h db batch, last h db batch → last' h db batch) :
    EachService ω ok' last' db host interfaces ports services := by
  unfold EachService at h ⊢
  rcases hrun : run dbStep ω 0 (HostService.createParts .upsert host interfaces ports) db with
    ⟨e | ⟨createdHost, is, ps⟩, n, t⟩
  · trivial
  · simp only [hrun] at h ⊢
    exact h.imp (fun _ _ _ => hok createdHost _ _ _) (hlast createdHost)

end VantageNet.Inventory
