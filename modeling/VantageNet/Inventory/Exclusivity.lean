import VantageNet.Inventory.Placing

/-!
Claims on the ports of a host: no two of its services claim one port on one interface. The loop
of `create_with_children` over the services keeps that as long as it hands nothing to the
unclaimed open ports that another service claims.
-/

namespace VantageNet.Inventory

open Interaction Interaction.Program

/-- Two bindings that claim one port on one interface, where all interfaces count as any. -/
def contends (a b : BindingType) : Bool :=
  match a.claim, b.claim with
  | some c, some d => overlaps c d
  | _, _ => false

def Db.serves (db : Db) (hostId : Uuid) (b : Binding) : Bool :=
  db.services.rows.any (fun s => s.id = b.base.serviceId && s.base.hostId = hostId)

/-- No two services of the host have overlapping claims. -/
def Db.Exclusive (db : Db) (hostId : Uuid) : Prop :=
  ∀ a ∈ db.bindings.rows, ∀ b ∈ db.bindings.rows, db.serves hostId a = true → db.serves hostId b = true →
    a.base.serviceId ≠ b.base.serviceId → contends a.base.bindingType b.base.bindingType = false

instance (db : Db) (hostId : Uuid) : Decidable (db.Exclusive hostId) :=
  inferInstanceAs (Decidable (∀ a ∈ db.bindings.rows, ∀ b ∈ db.bindings.rows, _ → _ → _ → _ = false))

/-- The stored bindings on the host, apart from those of one service. -/
def Db.othersOn (db : Db) (hostId serviceId : Uuid) : List Binding :=
  db.bindings.rows.filter (fun b => db.serves hostId b && b.base.serviceId ≠ serviceId)

def Db.ownOn (db : Db) (hostId serviceId : Uuid) : List Binding :=
  db.bindings.rows.filter (fun b => db.serves hostId b && b.base.serviceId = serviceId)

/-- `create` can merge the service into no stored service but the one with its id. -/
def Db.mergesOwn (db : Db) (service : Service) : Prop :=
  service.id ≠ Uuid.nil ∧ ∀ row ∈ db.services.rows, db.mayMerge service row → row.id = service.id

instance (db : Db) (service : Service) : Decidable (db.mergesOwn service) := inferInstanceAs (Decidable (_ ∧ _))

/-- `create_with_children` drops the service, for another one claims one of its bindings. -/
def Db.drops (db : Db) (hostId : Uuid) (batch : Batch) (service : Service) : Bool :=
  service.base.bindings.any (claimed (claims (db.othersOn hostId service.id) ++ batch.claimed))

/-- The bindings of the service that no other one claims. -/
def Db.unclaimed (db : Db) (hostId : Uuid) (batch : Batch) (service : Service) : List Binding :=
  service.base.bindings.filter (fun b => !claimed (claims (db.othersOn hostId service.id) ++ batch.claimed) b)

/-- No binding of the one list contends with one of the other. -/
def Uncontended (as bs : List Binding) : Prop :=
  ∀ a ∈ as, ∀ b ∈ bs, contends a.base.bindingType b.base.bindingType = false

instance (as bs : List Binding) : Decidable (Uncontended as bs) :=
  inferInstanceAs (Decidable (∀ a ∈ as, ∀ b ∈ bs, contends a.base.bindingType b.base.bindingType = false))

/-- The loop over the services comes to `service`, its bindings reassigned. If it is dropped, nothing of what it
leaves to the unclaimed open ports is claimed by the stored service with its id. If it is kept, it claims nothing
that was left to the unclaimed open ports before, and nothing that the stored service with its id claims unless
it is merged into that one. -/
structure Db.Undisputed (db : Db) (hostId : Uuid) (batch : Batch) (service : Service) : Prop where
  dropped : db.drops hostId batch service = true →
    Uncontended (db.unclaimed hostId batch service) (db.ownOn hostId service.id)
  kept : db.drops hostId batch service = false → Uncontended service.base.bindings batch.orphaned
  own : db.drops hostId batch service = false → db.mergesOwn service ∨
    Uncontended service.base.bindings (db.ownOn hostId service.id)

section claims

theorem overlaps_comm (a b : Claim) : overlaps a b = overlaps b a := by
  rw [overlaps, overlaps, Bool.or_comm a.2.isNone]
  simp only [eq_comm]

theorem contends_comm (a b : BindingType) : contends a b = contends b a := by
  unfold contends
  cases a.claim <;> cases b.claim <;> first | rfl | exact overlaps_comm _ _

theorem mem_claims {bindings : List Binding} {c : Claim} :
    c ∈ claims bindings ↔ ∃ b ∈ bindings, b.base.bindingType.claim = some c := by
  simp [claims]

theorem claimed_iff {taken : List Claim} {b : Binding} :
    claimed taken b = true ↔ ∃ c ∈ taken, ∃ d, b.base.bindingType.claim = some d ∧ overlaps d c = true := by
  unfold claimed
  cases b.base.bindingType.claim <;> simp

theorem claimed_congr {taken taken' : List Claim} (h : ∀ c, c ∈ taken ↔ c ∈ taken') (b : Binding) :
    claimed taken b = claimed taken' b := by
  rw [Bool.eq_iff_iff, claimed_iff, claimed_iff]
  exact exists_congr (fun c => and_congr_left' (h c))

theorem contends_of_not_claimed {taken : List Claim} {bindings : List Binding} (htaken : claims bindings ⊆ taken)
    {b e : Binding} (hb : claimed taken b = false) (he : e ∈ bindings) :
    contends b.base.bindingType e.base.bindingType = false := by
  rw [Bool.eq_false_iff] at hb ⊢
  intro hcontends
  apply hb
  unfold contends at hcontends
  cases hd : b.base.bindingType.claim with
  | none => simp [hd] at hcontends
  | some d =>
    cases hc : e.base.bindingType.claim with
    | none => simp [hd, hc] at hcontends
    | some c =>
      simp only [hd, hc] at hcontends
      exact claimed_iff.mpr ⟨c, htaken (mem_claims.mpr ⟨e, he, hc⟩), d, hd, hcontends⟩

end claims

section serving

variable {may : Db → (o : DbOp) → o.Reply → Prop} {db t : Db} {service : Service} {target hostId : Uuid}

theorem serves_iff {b : Binding} : db.serves hostId b = true ↔
    ∃ s ∈ db.services.rows, s.id = b.base.serviceId ∧ s.base.hostId = hostId := by
  simp [Db.serves]

theorem Target.serves_other (h : Target db service target t) {b : Binding} (hb : b.base.serviceId ≠ target)
    (hserves : t.serves hostId b = true) : db.serves hostId b = true := by
  obtain ⟨s, hs, hid, hhost⟩ := serves_iff.mp hserves
  exact serves_iff.mpr ⟨s, (h.servicesOther s (hid ▸ hb)).mp hs, hid, hhost⟩

theorem Target.serves_own (h : Target db service target t) {b : Binding} (hb : b.base.serviceId = target)
    (hserves : t.serves hostId b = true) : hostId = service.base.hostId := by
  obtain ⟨s, hs, hid, rfl⟩ := serves_iff.mp hserves
  exact h.host s hs (hid.trans hb)

/-- A stored binding under the target was one of the host before. -/
theorem Target.serves_before (h : Target db service target t) (howned : db.Owned) {e : Binding}
    (he : e ∈ db.bindings.rows) (htarget : e.base.serviceId = target) :
    db.serves service.base.hostId e = true := by
  rcases h.known with ⟨row, hrow, hid, hhost, -⟩ | ⟨-, hnone⟩
  · exact serves_iff.mpr ⟨row, hrow, hid.trans htarget.symm, hhost⟩
  · obtain ⟨s, hs, hid⟩ := howned e he
    exact absurd (hid.trans htarget) (hnone s hs)

theorem Target.exclusive (h : Target db service target t) (hdb : db.Exclusive hostId) (howned : db.Owned)
    (hnew : ∀ c ∈ service.base.bindings, ∀ e ∈ db.bindings.rows, e.base.serviceId ≠ target →
      db.serves service.base.hostId e = true → contends c.base.bindingType e.base.bindingType = false) :
    t.Exclusive hostId := by
  have hmixed {a b : Binding} (ha : a ∈ t.bindings.rows) (hb : b ∈ t.bindings.rows)
      (hatarget : a.base.serviceId = target) (hbtarget : b.base.serviceId ≠ target)
      (haserves : t.serves hostId a = true) (hbserves : t.serves hostId b = true) :
      contends a.base.bindingType b.base.bindingType = false := by
    obtain rfl := h.serves_own hatarget haserves
    have hbold := (h.others b hbtarget).mp hb
    have hbserves := h.serves_other hbtarget hbserves
    rcases h.own a ha hatarget with ⟨e, he, hetarget, htype⟩ | ⟨c, hc, htype, -⟩
    · rw [← htype]
      exact hdb e he b hbold (h.serves_before howned he hetarget) hbserves (fun heq => hbtarget (heq ▸ hetarget))
    · rw [← htype]
      exact hnew c hc b hbold hbtarget hbserves
  intro a ha b hb haserves hbserves hne
  by_cases hatarget : a.base.serviceId = target
  · exact hmixed ha hb hatarget (fun hbtarget => hne (hatarget.trans hbtarget.symm)) haserves hbserves
  · by_cases hbtarget : b.base.serviceId = target
    · rw [contends_comm]
      exact hmixed hb ha hbtarget hatarget hbserves haserves
    · exact hdb a ((h.others a hatarget).mp ha) b ((h.others b hbtarget).mp hb) (h.serves_other hatarget haserves)
        (h.serves_other hbtarget hbserves) hne

theorem Loaded.mem_claims {services : List Service}
    (h : Loaded db (fun s => s.base.hostId = hostId) services) (serviceId : Uuid) (c : Claim) :
    c ∈ ((services.filter (fun s => s.id ≠ serviceId)).map (fun s => claims s.base.bindings)).flatten ↔
      c ∈ claims (db.othersOn hostId serviceId) := by
  simp only [List.mem_flatten, List.mem_map, List.mem_filter, decide_eq_true_eq, exists_exists_and_eq_and,
    Inventory.mem_claims, Db.othersOn, Bool.and_eq_true]
  constructor
  · rintro ⟨s, ⟨hs, hne⟩, b, hb, hc⟩
    obtain ⟨row, hrow, hhost, hloaded⟩ := h.mem s hs
    obtain ⟨hb, hid⟩ := (hloaded.mem_bindings b).mp hb
    refine ⟨b, ⟨hb, serves_iff.mpr ⟨row, hrow, ?_, by simpa using hhost⟩, hid ▸ hne⟩, hc⟩
    rw [hid, hloaded.id_eq]
  · rintro ⟨b, ⟨hb, hserves, hne⟩, hc⟩
    obtain ⟨row, hrow, hid, hhost⟩ := serves_iff.mp hserves
    obtain ⟨s, hs, hloaded⟩ := h.complete row hrow (by simpa using hhost)
    have hsid : s.id = b.base.serviceId := hloaded.id_eq.trans hid
    exact ⟨s, ⟨hs, hsid ▸ hne⟩, b, (hloaded.mem_bindings b).mpr ⟨hb, hsid.symm⟩, hc⟩

theorem ensures_partitionConflictingBindings {serviceId : Uuid} {bindings : List Binding} {batchClaimed : List Claim}
    {post : Except Error (List Binding × List Binding) → Db → Prop} (herror : ∀ e, post (.error e) db)
    (hok : post (.ok
      (bindings.filter (fun b => !claimed (claims (db.othersOn hostId serviceId) ++ batchClaimed) b),
        bindings.filter (claimed (claims (db.othersOn hostId serviceId) ++ batchClaimed)))) db) :
    Ensures dbStep may post
      (ServiceService.partitionConflictingBindings hostId serviceId bindings batchClaimed) db := by
  unfold ServiceService.partitionConflictingBindings
  cases bindings with
  | nil => exact hok
  | cons b bindings =>
    apply Ensures.bind
    refine ensures_serviceGetAll (fun e => herror e) (fun services hservices => ?_)
    have hclaimed : claimed (((services.filter (fun s => s.id ≠ serviceId)).map
        (fun s => claims s.base.bindings)).flatten ++ batchClaimed) =
        claimed (claims (db.othersOn hostId serviceId) ++ batchClaimed) := by
      funext b
      apply claimed_congr
      intro c
      rw [List.mem_append, List.mem_append, hservices.mem_claims]
    change post (.ok ((b :: bindings).filter (fun b => !claimed _ b), (b :: bindings).filter (claimed _))) db
    rw [hclaimed]
    exact hok

end serving

section batches

variable {may : Db → (o : DbOp) → o.Reply → Prop} {db t : Db} {hostId other : Uuid}

/-- The loop over the services as far as it has come: what it has left to the unclaimed open ports is free. -/
structure Free (hostId other : Uuid) (orphaned : List Binding) (db : Db) : Prop where
  exclusive : db.Exclusive other
  owned : db.Owned
  orphaned : ∀ o ∈ orphaned, ∀ b ∈ db.bindings.rows, db.serves hostId b = true →
    contends o.base.bindingType b.base.bindingType = false

/-- A kept service: what it brings is claimed by no other service than the one it becomes part of. -/
theorem Target.kept {service prepared : Service} {target : Uuid} {batchClaimed : List Claim}
    (h : Target db prepared target t) (hprepared : Prepared service prepared)
    (hkept : ∀ b ∈ service.base.bindings, claimed (claims (db.othersOn hostId service.id) ++ batchClaimed) b = false)
    (hown : db.mergesOwn service ∨ Uncontended service.base.bindings (db.ownOn hostId service.id)) :
    ∀ c ∈ service.base.bindings, ∀ e ∈ db.bindings.rows, e.base.serviceId ≠ target → db.serves hostId e = true →
      contends c.base.bindingType e.base.bindingType = false := by
  intro c hc e he htarget hserves
  by_cases hid : e.base.serviceId = service.id
  · rcases hown with ⟨hnil, honly⟩ | hfree
    · rcases h.known with ⟨row, hrow, hrowid, hhost, existing, hloaded, hmerges⟩ | ⟨htargetid, -⟩
      · have hmay := honly row hrow (hmerges.mayMerge hprepared hhost hloaded)
        exact absurd (hid.trans (hmay.symm.trans hrowid)) htarget
      · rw [hprepared.eq hnil] at htargetid
        exact absurd (hid.trans htargetid.symm) htarget
    · exact hfree c hc e (List.mem_filter.mpr ⟨he, by simpa using ⟨hserves, hid⟩⟩)
  · refine contends_of_not_claimed (List.subset_append_left _ batchClaimed) (hkept c hc) ?_
    exact List.mem_filter.mpr ⟨he, by simpa using ⟨hserves, hid⟩⟩

theorem Free.drop {batch : Batch} {service : Service} (hfree : Free hostId other batch.orphaned db)
    (hown : Uncontended (db.unclaimed hostId batch service) (db.ownOn hostId service.id)) :
    Free hostId other (batch.orphaned ++ db.unclaimed hostId batch service) db := by
  refine ⟨hfree.exclusive, hfree.owned, fun o ho b hb hserves => ?_⟩
  rcases List.mem_append.mp ho with ho | ho
  · exact hfree.orphaned o ho b hb hserves
  · by_cases hid : b.base.serviceId = service.id
    · exact hown o ho b (List.mem_filter.mpr ⟨hb, by simpa using ⟨hserves, hid⟩⟩)
    · refine contends_of_not_claimed (List.subset_append_left _ batch.claimed)
        (by simpa using (List.mem_filter.mp ho).2) ?_
      exact List.mem_filter.mpr ⟨hb, by simpa using ⟨hserves, hid⟩⟩

section loop

variable {originalInterfaces interfaces : List Interface} {originalPorts ports : List Port} {host : Host}

theorem ensures_createService_cases {batch : Batch} {service reassigned : Service}
    (hreassigned : reassignedService originalInterfaces interfaces originalPorts ports host service = reassigned)
    {post : Except Error Batch → Db → Prop} (herror : ∀ e, post (.error e) db)
    (hdropped : db.drops host.id batch reassigned = true →
      post (.ok { batch with orphaned := batch.orphaned ++ db.unclaimed host.id batch reassigned }) db)
    (hkept : db.drops host.id batch reassigned = false → Ensures dbStep may (fun r t =>
      post (r.map (fun created => { batch with
        claimed := batch.claimed ++ claims reassigned.base.bindings
        created := batch.created ++ [created] })) t) (ServiceService.create reassigned) db) :
    Ensures dbStep may post
      (HostService.createService originalInterfaces originalPorts host interfaces ports batch service) db := by
  apply ensures_acquire
  apply ensures_release
  apply Ensures.bind
  refine ensures_partitionConflictingBindings (fun e => herror e) ?_
  rw [hreassigned]
  change Ensures dbStep may post (if !(reassigned.base.bindings.filter
    (claimed (claims (db.othersOn host.id reassigned.id) ++ batch.claimed))).isEmpty then
      ret { batch with orphaned := batch.orphaned ++ db.unclaimed host.id batch reassigned }
    else (ServiceService.create reassigned).bind (fun created => ret { batch with
      claimed := batch.claimed ++ claims reassigned.base.bindings
      created := batch.created ++ [created] })) db
  have hdrops : (!(reassigned.base.bindings.filter
      (claimed (claims (db.othersOn host.id reassigned.id) ++ batch.claimed))).isEmpty) =
      db.drops host.id batch reassigned := by
    rw [Bool.eq_iff_iff]
    simp [Db.drops]
  rw [hdrops]
  cases hdrop : db.drops host.id batch reassigned with
  | true => exact hdropped hdrop
  | false =>
    apply Ensures.bind
    apply (hkept hdrop).imp
    rintro (e | created) t ht <;> exact ht

end loop

end batches

theorem Db.Exclusive.of_sameBut {db t : Db} {K : List Kind} {hostId : Uuid} (h : db.Exclusive hostId)
    (hservice : .service ∉ K) (hbinding : .binding ∉ K) (ht : db.SameBut K t) : t.Exclusive hostId := by
  have hservices : t.services = db.services := ht .service hservice
  have hbindings : t.bindings = db.bindings := ht .binding hbinding
  unfold Db.Exclusive Db.serves
  rw [hservices, hbindings]
  exact h

/-- The host of `webHost` as discovery reports it, with ports 80 and 443 under ids of its own. -/
def reportedHost : Host := ⟨1, 0, 0, ⟨"web", 9, none, none, .discovery [], none, false, []⟩⟩

def reportedPorts : List Port := [⟨24, 0, 0, ⟨0, 9, ⟨80, .tcp⟩⟩⟩, ⟨25, 0, 0, ⟨0, 9, ⟨443, .tcp⟩⟩⟩]

def reported (id : Uuid) (name : String) (bindingTypes : List BindingType) : Service :=
  ⟨id, 0, 0, ⟨0, 9, ⟨name, false, false, false⟩, name, bindingTypes.map (fun t => ⟨Uuid.nil, 0, 0, ⟨id, 9, t⟩⟩), none,
    .discovery [], [], 0⟩⟩

def webOn80 : Db := webHost ⟨[webBinding 10 (.port 4 none)], by simp⟩

end VantageNet.Inventory
