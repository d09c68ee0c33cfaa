import VantageNet.Inventory.Merging

/-!
The addresses that the bindings of a batch stand for, before and after they are reassigned to
the interfaces and ports of the store.
-/

namespace VantageNet.Inventory

open Interaction Interaction.Program

def InterfaceBase.address (base : InterfaceBase) : Uuid × IpAddr := (base.subnetId, base.ipAddress)

/-- Neither a stored interface nor one earlier in the batch is taken for `i` without having its address. -/
structure Traceable (db : Db) (hostId : Uuid) (before : List Interface) (i : Interface) : Prop where
  own : ∀ r ∈ db.interfaces.rows, r.id = i.id → r.base.address = i.base.address
  stored : ∀ j ∈ before, ∀ r ∈ db.interfaces.rows, r.id = j.id ∨ r.base.hostId = hostId ∧ r.base.address = j.base.address →
    Interface.eq r i = true → r.base.address = i.base.address
  earlier : ∀ j ∈ before, Interface.eq j i = true → j.base.address = i.base.address

structure TraceablePort (db : Db) (before : List Port) (p : Port) : Prop where
  own : ∀ r ∈ db.ports.rows, r.id = p.id → r.base.portType = p.base.portType
  earlier : ∀ q ∈ before, q.id = p.id → q.base.portType = p.base.portType

/-- A row made for the entity `x` of the batch, which is placed on the host first. -/
def Made {k : Kind} (place : Row k → Row k) (new : Uuid → Prop) (x row : Row k) : Prop :=
  row.base = (place x).base ∧ (row.id = (place x).id ∨ new row.id)

/-- The rows are those of `db` and those made for `done`. -/
def Grown {k : Kind} (db : Db) (place : Row k → Row k) (new : Uuid → Prop) (done : List (Row k)) (s : Db) : Prop :=
  ∀ r ∈ (s.table k).rows, r ∈ (db.table k).rows ∨ ∃ x ∈ done, Made place new x r

section grown

variable {k : Kind} {db s t : Db} {place : Row k → Row k} {new : Uuid → Prop}

theorem Made.of_placed {x row : Row k} (hbase : row.base = (place x).base)
    (hid : (place x).id ≠ Uuid.nil → row = place x) (hnil : (place x).id = Uuid.nil → new row.id) :
    Made place new x row := by
  refine ⟨hbase, ?_⟩
  by_cases h : (place x).id = Uuid.nil
  · exact .inr (hnil h)
  · rw [hid h]
    exact .inl rfl

theorem Grown.placed {done : List (Row k)} (h : Grown db place new done s) {x row : Row k}
    (hrow : Placed new s (place x) row t) (hk : columns k row = row) : Grown db place new (done ++ [x]) t := by
  have hold (r : Row k) (hr : r ∈ (s.table k).rows) :
      r ∈ (db.table k).rows ∨ ∃ y ∈ done ++ [x], Made place new y r := by
    refine (h r hr).imp_right ?_
    rintro ⟨y, hy, hmade⟩
    exact ⟨y, List.mem_append_left _ hy, hmade⟩
  cases hrow with
  | known => exact hold
  | found => exact hold
  | made hnew hbase hid hnil hapart =>
    intro r hr
    rw [table_withTable, Table.rows_insert, List.mem_append, List.mem_singleton, hk] at hr
    rcases hr with hr | rfl
    · exact hold r hr
    · exact .inr ⟨x, by simp, .of_placed hbase hid hnil⟩

theorem Grown.of_eq {done : List (Row k)} (h : Grown db place new done s) (ht : t.table k = s.table k) :
    Grown db place new done t := by
  unfold Grown
  rw [ht]
  exact h

end grown

section interfaces

variable {db s t : Db} {host : Host} {new : Uuid → Prop}

abbrev placeInterface (host : Host) (i : Row .interface) : Row .interface := Interface.onHost i host.id

theorem clash_interface {a b : Interface} :
    clash .interface a b = true ↔ a.base.hostId = b.base.hostId ∧ a.base.address = b.base.address := by
  simp [clash, InterfaceBase.address, and_assoc]

theorem interface_eq_iff {a b : Interface} : Interface.eq a b = true ↔ a.base.address = b.base.address ∨
    (a.base.macAddress = b.base.macAddress ∧ a.base.macAddress.isSome = true) ∨ a.id = b.id := by
  simp only [Interface.eq, InterfaceBase.address, Prod.mk.injEq, Bool.or_eq_true, Bool.and_eq_true, decide_eq_true_eq,
    or_assoc]
  refine or_congr and_comm (or_congr ?_ Iff.rfl)
  constructor
  · exact fun h => h.1
  · exact fun h => ⟨h, h.1 ▸ h.2⟩

/-- The row that an earlier interface `x` of the batch comes to is not taken for `i`, unless it has its address. -/
theorem Traceable.address_of_eq {before done : List Interface} {i x row : Interface}
    (h : Traceable db host.id before i) (hnew : ∀ id, new id → id ≠ i.id) (hdone : ∀ k ∈ done ++ [x], k ∈ before)
    (hgrown : Grown db (placeInterface host) new done s) (hrow : Placed (k := .interface) new s (x.onHost host.id) row t)
    (heq : Interface.eq row i = true) : row.base.address = i.base.address := by
  have hmade {k : Interface} (hk : k ∈ before) (hmade : Made (placeInterface host) new k row) : row.base.address = i.base.address := by
    obtain ⟨hbase, hid⟩ := hmade
    have haddress : row.base.address = k.base.address := by
      rw [hbase]
      rfl
    rw [haddress]
    apply h.earlier k hk
    rw [interface_eq_iff] at heq ⊢
    rcases heq with heq | hmac | heq
    · exact .inl (haddress.symm.trans heq)
    · rw [hbase] at hmac
      exact .inr (.inl hmac)
    · rcases hid with hid | hid
      · exact .inr (.inr (hid.symm.trans heq))
      · exact absurd heq (hnew _ hid)
  cases hrow with
  | known hrow hid =>
    rcases hgrown row hrow with hold | ⟨k, hk, hmade'⟩
    · exact h.stored x (hdone x (by simp)) row hold (.inl hid) heq
    · exact hmade (hdone k (List.mem_append_left _ hk)) hmade'
  | found hrow _ hclash =>
    rcases hgrown row hrow with hold | ⟨k, hk, hmade'⟩
    · exact h.stored x (hdone x (by simp)) row hold (.inr (clash_interface.mp hclash)) heq
    · exact hmade (hdone k (List.mem_append_left _ hk)) hmade'
  | made _ hbase hid hnil _ => exact hmade (hdone x (by simp)) (.of_placed hbase hid hnil)

theorem Traceable.address_of_self {before done : List Interface} {i row : Interface}
    (h : Traceable db host.id before i) (hnew : ∀ id, new id → id ≠ i.id) (hdone : ∀ k ∈ done, k ∈ before)
    (hgrown : Grown db (placeInterface host) new done s) (hrow : Placed (k := .interface) new s (i.onHost host.id) row t) :
    row.base.address = i.base.address := by
  cases hrow with
  | known hrow hid =>
    rcases hgrown row hrow with hold | ⟨k, hk, hbase, hkid⟩
    · exact h.own row hold hid
    · have hrowid : row.id = k.id := hkid.resolve_right (fun hid' => hnew _ hid' hid)
      rw [hbase]
      exact h.earlier k (hdone k hk) (interface_eq_iff.mpr (.inr (.inr (hrowid.symm.trans hid))))
  | found hrow _ hclash => exact (clash_interface.mp hclash).2
  | made _ hbase _ _ _ =>
    rw [hbase]
    rfl

/-- Where the loop over the interfaces stands for the `i` that comes after `before`: nothing with another address is
taken for it yet, and once the loop is past it the first that is has its address. -/
structure Tracing (before : List Interface) (i : Interface) (done out : List Interface) : Prop where
  ahead : done <+: before → ∀ r ∈ out, Interface.eq r i = true → r.base.address = i.base.address
  past : before ++ [i] <+: done → ∃ r, newInterface out i = some r ∧ r.base.address = i.base.address

theorem newInterface_append {out : List Interface} {i r : Interface} (h : newInterface out i = some r)
    (rest : List Interface) : newInterface (out ++ rest) i = some r := by
  unfold newInterface at h ⊢
  rw [List.find?_append, h]
  rfl

theorem Tracing.reach {before out : List Interface} {i row : Interface} (h : Tracing before i before out)
    (hrow : row.base.address = i.base.address) : Tracing before i (before ++ [i]) (out ++ [row]) := by
  refine ⟨fun hinit => ?_, fun _ => ?_⟩
  · have hlength := hinit.length_le
    rw [List.length_append, List.length_singleton] at hlength
    omega
  · cases hfind : newInterface out i with
    | some r =>
      have hr := List.mem_of_find?_eq_some hfind
      exact ⟨r, newInterface_append hfind _, h.ahead (List.prefix_refl _) r hr (by simpa using List.find?_some hfind)⟩
    | none =>
      refine ⟨row, ?_, hrow⟩
      unfold newInterface at hfind ⊢
      have heq : Interface.eq row i = true := interface_eq_iff.mpr (.inl hrow)
      simp [List.find?_append, hfind, heq]

theorem Tracing.placed {before after done out rest : List Interface} {i x row : Interface}
    (h : Tracing before i done out) (hsplit : before ++ i :: after = done ++ x :: rest)
    (htrace : Traceable db host.id before i) (hnew : ∀ id, new id → id ≠ i.id)
    (hgrown : Grown db (placeInterface host) new done s) (hrow : Placed (k := .interface) new s (x.onHost host.id) row t) :
    Tracing before i (done ++ [x]) (out ++ [row]) := by
  rcases List.append_eq_append_iff.mp hsplit with ⟨passed, rfl, hrest⟩ | ⟨coming, rfl, hrest⟩
  · cases passed with
    | nil =>
      obtain ⟨rfl, -⟩ := List.cons.inj hrest
      rw [List.append_nil] at h hgrown ⊢
      exact h.reach (htrace.address_of_self hnew (fun k hk => hk) hgrown hrow)
    | cons y passed =>
      obtain ⟨rfl, -⟩ := List.cons.inj hrest
      refine ⟨fun hinit => ?_, fun _ => ?_⟩
      · have hlength := hinit.length_le
        simp only [List.length_append, List.length_cons] at hlength
        omega
      · obtain ⟨r, hr, haddress⟩ := h.past ⟨passed, by simp⟩
        exact ⟨r, newInterface_append hr _, haddress⟩
  · cases coming with
    | nil =>
      obtain ⟨rfl, -⟩ := List.cons.inj hrest
      rw [List.append_nil] at h htrace ⊢
      exact h.reach (htrace.address_of_self hnew (fun k hk => hk) hgrown hrow)
    | cons y coming =>
      obtain ⟨rfl, -⟩ := List.cons.inj hrest
      refine ⟨fun _ r hr heq => ?_, fun hinit => ?_⟩
      · rcases List.mem_append.mp hr with hr | hr
        · exact h.ahead ⟨x :: coming, rfl⟩ r hr heq
        · obtain rfl := List.mem_singleton.mp hr
          refine htrace.address_of_eq hnew (fun k hk => ?_) hgrown hrow heq
          rcases List.mem_append.mp hk with hk | hk
          · exact List.mem_append_left _ hk
          · rw [List.mem_singleton.mp hk]
            simp
      · have hlength := hinit.length_le
        simp at hlength

end interfaces

section ports

variable {db s t : Db} {host : Host} {new : Uuid → Prop}

abbrev placePort (host : Host) (p : Row .port) : Row .port := Port.withHost p host.id host.base.networkId

theorem clash_port {a b : Port} :
    clash .port a b = true ↔ a.base.hostId = b.base.hostId ∧ a.base.portType = b.base.portType := by
  simp [clash]

theorem TraceablePort.portType_of_placed {before done : List Port} {p row : Port} (h : TraceablePort db before p)
    (hnew : ∀ id, new id → id ≠ p.id) (hdone : ∀ q ∈ done, q ∈ before) (hgrown : Grown db (placePort host) new done s)
    (hrow : Placed (k := .port) new s (placePort host p) row t) : row.base.portType = p.base.portType := by
  cases hrow with
  | known hrow hid =>
    rcases hgrown row hrow with hold | ⟨q, hq, hbase, hqid⟩
    · exact h.own row hold hid
    · have hrowid : row.id = q.id := hqid.resolve_right (fun hid' => hnew _ hid' hid)
      rw [hbase]
      exact h.earlier q (hdone q hq) (hrowid.symm.trans hid)
  | found hrow _ hclash => exact (clash_port.mp hclash).2
  | made _ hbase _ _ _ =>
    rw [hbase]
    rfl

end ports

/-- Where the interfaces and ports of the batch are once the loop over the services begins. -/
structure Located (db : Db) (interfaces : List Interface) (ports : List Port) (h : Host) (is : List Interface)
    (ps : List Port) (t : Db) : Prop where
  interface : ∀ before i after, interfaces = before ++ i :: after → Traceable db h.id before i →
    ∃ r, newInterface is i = some r ∧ r.base.address = i.base.address
  port : ∀ before p after, ports = before ++ p :: after → TraceablePort db before p →
    ∃ r ∈ ps, r.base.portType = p.base.portType
  interfaces : ∀ r ∈ is, r ∈ t.interfaces.rows
  ports : ∀ r ∈ ps, r ∈ t.ports.rows

section locating

variable {may : Db → (o : DbOp) → o.Reply → Prop} {db s t : Db} {host created : Host} {interfaces : List Interface}
  {ports : List Port} {new : Uuid → Prop}

/-- Where the loop over the interfaces stands. -/
structure LocatingInterfaces (db : Db) (interfaces : List Interface) (new : Uuid → Prop) (created : Host)
    (done out : List Interface) (s : Db) : Prop where
  grown : Grown db (placeInterface created) new done s
  ports : s.table .port = db.table .port
  stored : ∀ r ∈ out, r ∈ s.interfaces.rows
  tracing : ∀ before i after, interfaces = before ++ i :: after → Traceable db created.id before i →
    Tracing before i done out

/-- Where the loop over the ports stands. -/
structure LocatingPorts (db : Db) (interfaces : List Interface) (ports : List Port) (new : Uuid → Prop) (created : Host)
    (is : List Interface) (done out : List Port) (s : Db) : Prop where
  grown : Grown db (placePort created) new done s
  interface : ∀ before i after, interfaces = before ++ i :: after → Traceable db created.id before i →
    ∃ r, newInterface is i = some r ∧ r.base.address = i.base.address
  interfaces : ∀ r ∈ is, r ∈ s.interfaces.rows
  stored : ∀ r ∈ out, r ∈ s.ports.rows
  port : ∀ before p after, ports = before ++ p :: after → TraceablePort db before p → before ++ [p] <+: done →
    ∃ r ∈ out, r.base.portType = p.base.portType

theorem LocatingInterfaces.placed {done rest out : List Interface} {x row : Interface}
    (h : LocatingInterfaces db interfaces new created done out s) (hsplit : interfaces = done ++ x :: rest)
    (hnew : ∀ id, new id → ∀ i ∈ interfaces, id ≠ i.id)
    (hrow : Placed (k := .interface) new s (placeInterface created x) row t) :
    LocatingInterfaces db interfaces new created (done ++ [x]) (out ++ [row]) t := by
  refine ⟨h.grown.placed hrow rfl, ?_, fun r hr => ?_, fun before i after hi htrace => ?_⟩
  · rw [hrow.sameBut .port (by simp)]
    exact h.ports
  · rcases List.mem_append.mp hr with hr | hr
    · exact hrow.keeps (h.stored r hr)
    · rw [List.mem_singleton.mp hr]
      exact hrow.mem rfl
  · have hmem : i ∈ interfaces := by simp [hi]
    exact (h.tracing before i after hi htrace).placed (hi.symm.trans hsplit) htrace
      (fun id hid => hnew id hid i hmem) h.grown hrow

theorem LocatingPorts.placed {is : List Interface} {done rest out : List Port} {x row : Port}
    (h : LocatingPorts db interfaces ports new created is done out s) (hsplit : ports = done ++ x :: rest)
    (hnew : ∀ id, new id → ∀ p ∈ ports, id ≠ p.id)
    (hrow : Placed (k := .port) new s (placePort created x) row t) :
    LocatingPorts db interfaces ports new created is (done ++ [x]) (out ++ [row]) t := by
  refine ⟨h.grown.placed hrow rfl, h.interface, fun r hr => ?_, fun r hr => ?_, fun before p after hp htrace hdone => ?_⟩
  · have hinterfaces : t.interfaces = s.interfaces := hrow.sameBut .interface (by simp)
    rw [hinterfaces]
    exact h.interfaces r hr
  · rcases List.mem_append.mp hr with hr | hr
    · exact hrow.keeps (h.stored r hr)
    · rw [List.mem_singleton.mp hr]
      exact hrow.mem rfl
  · rcases List.prefix_concat_iff.mp hdone with heq | hinit
    · obtain ⟨rfl, hx⟩ := List.append_inj' heq rfl
      obtain ⟨rfl, -⟩ := List.cons.inj hx
      have hmem : p ∈ ports := by simp [hp]
      refine ⟨row, by simp, htrace.portType_of_placed (fun id hid => hnew id hid p hmem) (fun q hq => hq) h.grown hrow⟩
    · obtain ⟨r, hr, htype⟩ := h.port before p after hp htrace hinit
      exact ⟨r, List.mem_append_left _ hr, htype⟩

end locating

section places

variable {db t : Db} {interfaces is : List Interface} {ports ps : List Port} {h : Host}

theorem Located.of_sameBut (hlocated : Located db interfaces ports h is ps t) {u : Db}
    (hframe : t.SameBut [.service, .binding, .groupBinding] u) : Located db interfaces ports h is ps u := by
  have hinterfaces : u.interfaces = t.interfaces := hframe .interface (by simp)
  have hports : u.ports = t.ports := hframe .port (by simp)
  exact ⟨hlocated.interface, hlocated.port, hinterfaces ▸ hlocated.interfaces, hports ▸ hlocated.ports⟩

end places

section sourced

variable {may : Db → (o : DbOp) → o.Reply → Prop} {db t : Db} {interfaces is : List Interface} {ports ps : List Port}
  {services : List Service} {host h : Host} {orphaned : List Binding}

end sourced

/-- Where the service is not dropped, a stored service stands for all its bindings. -/
def Carried (host : Host) (db : Db) (batch : Batch) (service : Service) (t : Db) : Prop :=
  db.drops host.id batch service = false → ∃ s ∈ t.services.rows, ∀ b ∈ service.base.bindings,
    Represented (t.bindingsOf s.id) b.base.bindingType

/-- The ids of its bindings are new, and none of them is in conflict with a service it may be merged into. -/
structure Storable (host : Host) (db : Db) (batch : Batch) (service : Service) : Prop where
  fresh : db.Fresh service.base.bindings
  clash : db.drops host.id batch service = false → ∀ row ∈ db.services.rows, db.mayMerge service row →
    ∀ b ∈ service.base.bindings, ∀ x ∈ (db.loaded row).base.bindings ++ service.base.bindings,
      b.base.bindingType.clashes x.base.bindingType = false

/-- `new_v4` answers with no id that an interface or port of the batch has. -/
def newIds (interfaces : List Interface) (ports : List Port) : Db → (o : DbOp) → o.Reply → Prop
  | _, .newV4, id => (∀ i ∈ interfaces, id ≠ i.id) ∧ ∀ p ∈ ports, id ≠ p.id
  | _, _, _ => True

section carried

variable {db : Db} {originalInterfaces interfaces : List Interface} {originalPorts ports : List Port} {host : Host}

theorem Carried.keep {batch : Batch} {service : Service} {t u : Db} (h : Carried host db batch service t)
    (hkeeps : Keeps t u) : Carried host db batch service u := by
  intro hkept
  obtain ⟨s, hs, hrepresented⟩ := h hkept
  obtain ⟨s', hs', hid⟩ := hkeeps.stored s.id ⟨s, hs, rfl⟩
  refine ⟨s', hs', fun b hb => ?_⟩
  rw [hid]
  exact hkeeps.represented _ _ (hrepresented b hb)

end carried

instance (interfaces : List Interface) (ports : List Port) (db : Db) : (o : DbOp) → (r : o.Reply) →
    Decidable (newIds interfaces ports db o r)
  | .newV4, _ => inferInstanceAs (Decidable (_ ∧ _))
  | .acquire _, _ | .release _, _ | .utcNow, _ | .get _ _, _ | .list _ _ _, _ | .create _ _, _ | .update _ _, _
  | .delete _ _, _ => .isTrue trivial

end VantageNet.Inventory
