import VantageNet.Interfaces.HostHandlers
import VantageNet.Inventory.Locating

/-!
What the operations of the endpoints do to the tables: most only look, and those that write an
interface write it where a condition on its network, its subnet and its address is met.
-/

namespace VantageNet.Interfaces

open Interaction Interaction.Program
open Events (AuthenticatedEntity)
open Inventory (Interface InterfaceInput IpAddr DbOp Locates CreateHostRequest)
open Subnets (Subnet)

section answers

variable {w : World}

theorem subnet_eq_some_iff {id : Uuid} {s : Subnet} : w.subnet id = some s ↔ s ∈ w.subnets.rows ∧ s.id = id :=
  w.subnets.find?_key_eq_some_iff (fun _ _ h => h)

theorem subnet_of_mem {s : Subnet} (hs : s ∈ w.subnets.rows) : w.subnet s.id = some s :=
  subnet_eq_some_iff.mpr ⟨hs, rfl⟩

/-- An operation that does not write interfaces leaves every one of them with its subnet. -/
theorem located_of_not_writing {o : DbOp} (hcreate : ∀ row : Interface, o ≠ .create .interface row)
    (hupdate : ∀ row : Interface, o ≠ .update .interface row) (a : o.Reply) :
    ∀ i ∈ (Inventory.dbStep o a w.inventory).2.interfaces.rows, ∃ s ∈ w.subnets.rows, s.id = i.base.subnetId := by
  intro i hi
  rcases Inventory.mem_dbStep (k := .interface) hi with hold | ⟨row, h, -⟩ | ⟨row, h, -⟩
  · exact w.located i hold
  · exact absurd h (hcreate row)
  · exact absurd h (hupdate row)

theorem dbStep_refused {o : DbOp} {a : o.Reply}
    (h : ¬ ∀ i ∈ (Inventory.dbStep o a w.inventory).2.interfaces.rows, ∃ s ∈ w.subnets.rows, s.id = i.base.subnetId) :
    Inventory.dbStep o (World.refused o a) w.inventory = (World.refused o a, w.inventory) := by
  cases o with
  | create k row | update k row => rfl
  | _ => exact absurd (located_of_not_writing (by simp) (by simp) a) h

theorem refines_inventory : asInventory.Refines worldStep Inventory.dbStep World.inventory := by
  intro o a w
  by_cases h : ∀ i ∈ (Inventory.dbStep o a w.inventory).2.interfaces.rows, ∃ s ∈ w.subnets.rows, s.id = i.base.subnetId
  · have hstep : worldStep (.inventory o) a w = ((Inventory.dbStep o a w.inventory).1,
        { w with inventory := (Inventory.dbStep o a w.inventory).2, located := h }) := dif_pos h
    exact ⟨a, congrArg Prod.fst hstep, congrArg (fun p => p.2.inventory) hstep⟩
  · have hstep : worldStep (.inventory o) a w = (World.refused o a, w) := dif_neg h
    refine ⟨World.refused o a, (congrArg Prod.fst hstep).trans ?_, (congrArg (fun p => p.2.inventory) hstep).trans ?_⟩
    · exact (congrArg Prod.fst (dbStep_refused h)).symm
    · exact (congrArg Prod.snd (dbStep_refused h)).symm

theorem subnets_inventory (o : DbOp) (a : o.Reply) (w : World) :
    (worldStep (.inventory o) a w).2.subnets = w.subnets := by
  change (w.dbStep o a).2.subnets = w.subnets
  unfold World.dbStep
  split_ifs <;> rfl

end answers

/-- An operation that only looks. -/
def Quiet : WorldOp → Prop
  | .inventory o => o.writes = []
  | .updateSubnet _ => False
  | _ => True

theorem Quiet.state {o : WorldOp} (ho : Quiet o) (a : o.Reply) (w : World) : (worldStep o a w).2 = w := by
  cases o with
  | inventory o =>
    have hsame : (Inventory.dbStep o a w.inventory).2 = w.inventory :=
      Inventory.Db.SameBut.eq ((ho : o.writes = []) ▸ Inventory.sameBut_dbStep o a w.inventory)
    change (w.dbStep o a).2 = w
    unfold World.dbStep
    split_ifs
    · cases w
      simp only [hsame]
    · rfl
  | updateSubnet row => exact ho.elim
  | _ => rfl

section quiet

variable {α β : Type} {may : World → (o : WorldOp) → o.Reply → Prop} {w : World}

theorem ensures_quiet {p : Task α} (hp : Only Quiet p) : Ensures worldStep may (fun _ t => t = w) p w := by
  exact Ensures.of_only (fun t o a ho ht => (ho.state a t).trans ht) hp rfl

/-- A task that only looks first, and then `f` in the state as it was. -/
theorem ensures_after {post : Except Failure β → World → Prop} {p : Task α} (hp : Only Quiet p) {f : α → Task β}
    (herror : ∀ e, post (.error e) w) (hf : ∀ a, Ensures worldStep may post (f a) w) :
    Ensures worldStep may post (p.bind f) w := Ensures.after (fun t _ a ho => ho.state a t) hp herror hf

theorem ensures_checked {post : Except Failure Unit → World → Prop} {r : Except Handlers.Failure Unit}
    (herror : ∀ e, post (.error e) w) (hok : r = .ok () → post (.ok ()) w) :
    Ensures worldStep may post (checked r) w := by
  cases r with
  | error e => exact herror _
  | ok _ => exact hok rfl

theorem ensures_getSubnet {id : Uuid} {post : Except Failure (Option Subnet) → World → Prop}
    (herror : ∀ e, post (.error e) w) (hok : post (.ok (w.subnet id)) w) :
    Ensures worldStep may post (getSubnet id) w := by
  intro a _
  rcases a with e | found
  · exact herror e
  · exact hok

theorem ensures_orInternal {context : String} {p : Task α} {post : Except Failure α → World → Prop}
    (h : Ensures worldStep may (fun r t => post (r.mapError (.internal context)) t) p w) :
    Ensures worldStep may post (orInternal context p) w := Ensures.relabel h

theorem quiet_inventory {p : Inventory.Query α} (hp : Inventory.Touches [] p) : Only Quiet (inventory p) := by
  refine Embedding.only_embed_of (Q := fun o : DbOp => o.writes = []) (fun _ h => h) _ ?_
  induction p with
  | ret a => trivial
  | fail e => trivial
  | op o k ih => exact ⟨List.subset_nil.mp hp.1, fun r => ih r (hp.2 r trivial)⟩

end quiet

section looking

variable {P : WorldOp → Prop}

theorem only_authorized (auth : AuthenticatedEntity) : Only P (authorized auth) := by
  unfold authorized
  split_ifs <;> trivial

theorem only_authorizedOrDaemon (auth : AuthenticatedEntity) : Only P (authorizedOrDaemon auth) := by
  unfold authorizedOrDaemon
  split
  · trivial
  · split_ifs <;> trivial

theorem only_organizationContext (auth : AuthenticatedEntity) : Only P (organizationContext auth) := by
  unfold organizationContext
  split <;> trivial

theorem only_checked (r : Except Handlers.Failure Unit) : Only P (checked r) := Only.orFail _

theorem only_orInternal {α : Type} {context : String} {p : Task α} (hp : Only P p) : Only P (orInternal context p) :=
  hp.attempt.bind (fun _ => Only.orFail _)

variable (L : Libraries)

theorem quiet_validateTag (organizationId tagId : Uuid) : Only Quiet (validateTag L organizationId tagId) := by
  have hget : Only Quiet (getTag tagId) := ⟨trivial, .orFail⟩
  refine hget.attempt.bind (fun found => ?_)
  rcases found with e | _ | tag
  · trivial
  · trivial
  · dsimp only
    split_ifs <;> trivial

theorem quiet_validateAndDedupeTags (tags : List Uuid) (organizationId : Uuid) :
    Only Quiet (validateAndDedupeTags L tags organizationId) := by
  refine ⟨trivial, fun uniqueTags => ?_⟩
  change Only (S := worldSig) Quiet (if uniqueTags.isEmpty then ret uniqueTags else _)
  split_ifs
  · trivial
  · exact Only.bind (Only.forEach (quiet_validateTag L organizationId) uniqueTags) (fun _ => trivial)

theorem quiet_getHost (id : Uuid) : Only Quiet (getHost id) := quiet_inventory (Inventory.touches_getById .host id)

theorem quiet_getForHost (hostId : Uuid) : Only Quiet (getForHost hostId) :=
  quiet_inventory (Inventory.touches_getAllOrdered .interface _ _)

end looking

/-- Interfaces are written only where `P` is met, and no subnet is. -/
def Keeps (P : Uuid → Uuid → IpAddr → Prop) : WorldOp → Prop
  | .inventory o => Locates P o
  | .updateSubnet _ => False
  | _ => True

/-- The subnets are as they were in `w`, and every interface is where `P` is met. -/
structure Kept (P : Uuid → Uuid → IpAddr → Prop) (w t : World) : Prop where
  subnets : t.subnets = w.subnets
  located : t.inventory.Located P

section keeping

variable {α β : Type} {P : Uuid → Uuid → IpAddr → Prop} {may : World → (o : WorldOp) → o.Reply → Prop} {w : World}

theorem Quiet.keeps {o : WorldOp} (ho : Quiet o) : Keeps P o := by
  cases o with
  | inventory o => exact Inventory.locates_of_writes (K := []) (by simp) (List.subset_nil.mpr ho)
  | updateSubnet row => exact ho.elim
  | _ => trivial

theorem Kept.step {t : World} (h : Kept P w t) {o : WorldOp} (ho : Keeps P o) (a : o.Reply) :
    Kept P w (worldStep o a t).2 := by
  cases o with
  | inventory o =>
    refine ⟨(subnets_inventory o a t).trans h.subnets, ?_⟩
    obtain ⟨a', -, hstate⟩ := refines_inventory o a t
    change (worldStep (asInventory.op o) a t).2.inventory.Located P
    rw [hstate]
    exact h.located.dbStep ho a'
  | updateSubnet row => exact ho.elim
  | _ => exact h

theorem ensures_kept (h : w.inventory.Located P) {p : Task α} (hp : Only (Keeps P) p) :
    Ensures worldStep may (fun _ t => Kept P w t) p w :=
  Ensures.of_only (fun _ _ a ho ht => ht.step ho a) hp ⟨rfl, h⟩

/-- What a call of the inventory does to its tables it does to those of the world. -/
theorem ensures_inventory {p : Inventory.Query α}
    (hp : Ensures Inventory.dbStep (fun _ _ _ => True) (fun _ t => t.Located P) p w.inventory) :
    Ensures worldStep may (fun _ t => Kept P w t) (inventory p) w := by
  refine (refines_inventory.ensures (I := fun t => t.subnets = w.subnets) (fun t o a h => ?_) hp rfl).imp ?_
  · exact (subnets_inventory o a t).trans h
  · rintro r t ⟨hsubnets, _, -, hlocated⟩
    exact ⟨hsubnets, hlocated⟩

theorem keeps_inventory {p : Inventory.Query α} (hp : Only (Locates P) p) : Only (Keeps P) (inventory p) :=
  Embedding.only_embed_of (fun _ h => h) _ hp

variable (auth : AuthenticatedEntity)

theorem keeps_createHandler {i : Interface} (hi : i.base.At P) : Only (Keeps P) (createHandler auth i) := by
  refine (only_organizationContext auth).bind (fun organizationId => (only_checked _).bind (fun _ => ?_))
  exact keeps_inventory (Inventory.only_crudCreate hi)

theorem keeps_updateHandler (L : Libraries) (id : Uuid) {i : Interface} (hi : i.base.At P) :
    Only (Keeps P) (updateHandler L interfaces auth id i) := by
  refine (only_organizationContext auth).bind (fun organizationId => Only.bind (only_orInternal ?_) (fun found => ?_))
  · exact (quiet_inventory (Inventory.touches_getById .interface id)).imp (fun _ => Quiet.keeps)
  · cases found with
    | none => trivial
    | some existing =>
      refine (only_checked _).bind (fun _ => (only_checked _).bind (fun _ => ?_))
      exact keeps_inventory (Inventory.only_crudUpdate hi)

theorem ends_intoInterface (i : LegacyInterface) {networkId : Uuid} (hostId : Uuid)
    (h : P networkId i.subnetId i.ipAddress) :
    Ends (fun i : Interface => i.base.At P) (i.intoInterface networkId hostId) :=
  (Ends.any _).bind (fun _ _ => (Ends.any _).bind (fun _ _ => h))

theorem only_orNow {Q : WorldOp → Prop} (hnow : Q .utcNow) (instant : Option Instant) : Only Q (orNow instant) := by
  cases instant with
  | none => exact ⟨hnow, fun _ => trivial⟩
  | some instant => trivial

theorem quiet_intoDiscoveryRequest (L : Libraries) (request : LegacyHostWithServicesRequest) :
    Only Quiet (request.intoDiscoveryRequest L) := by
  have htwice {β : Type} (createdAt updatedAt : Option Instant) (f : Instant → Instant → β) :
      Only Quiet ((orNow createdAt).bind (fun c => (orNow updatedAt).bind (fun u => ret (f c u)))) :=
    (only_orNow trivial createdAt).bind (fun c => Only.bind (f := fun u => ret (f c u)) (only_orNow trivial updatedAt) (fun _ => trivial))
  refine Only.bind ?_ (fun _ => Only.bind ?_ (fun _ => Only.bind ?_ (fun _ => trivial)))
  · exact Only.collect (fun i : LegacyInterface => htwice i.createdAt i.updatedAt _) _
  · exact Only.collect (fun p : LegacyPort => htwice p.createdAt p.updatedAt _) _
  · refine Only.collect (fun s : LegacyService => Only.bind ?_ (fun _ => htwice s.createdAt s.updatedAt _)) _
    exact Only.collect (fun b : LegacyBinding => htwice b.createdAt b.updatedAt _) _

theorem ends_intoDiscoveryRequest (L : Libraries) {request : LegacyHostWithServicesRequest}
    (h : ∀ i ∈ request.host.interfaces, P request.host.networkId i.subnetId i.ipAddress) :
    Ends (fun discovery => ∀ i ∈ discovery.interfaces, i.base.At P) (request.intoDiscoveryRequest L) := by
  refine Ends.bind (Ends.collect (fun i hi => ends_intoInterface i request.host.id (h i hi))) (fun is his => ?_)
  exact (Ends.any _).bind (fun _ _ => (Ends.any _).bind (fun _ _ => his))

theorem keeps_createLegacyHost (L : Libraries) {request : LegacyHostWithServicesRequest}
    (h : ∀ i ∈ request.host.interfaces, P request.host.networkId i.subnetId i.ipAddress) :
    Only (Keeps P) (createLegacyHost L auth request) := by
  refine ((quiet_intoDiscoveryRequest L request).imp (fun _ => Quiet.keeps)).bind_of (ends_intoDiscoveryRequest L h)
    (fun discovery hdiscovery => (only_checked _).bind (fun _ => Only.bind ?_ (fun _ => trivial)))
  exact keeps_inventory (Inventory.HostService.only_createWithChildren .upsert discovery.host hdiscovery _ _)

end keeping

end VantageNet.Interfaces
