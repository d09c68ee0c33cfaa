import VantageNet.Daemons.Registration
import VantageNet.Inventory.Placing

/-!
The networks whose hosts, daemons and discoveries a registration touches.
-/

namespace VantageNet.Daemons

open Interaction Interaction.Program
open Inventory (Host)

/-- What comes, goes or changes between two collections is in the network. -/
structure Within {α : Type} (network : α → Uuid) (n : Uuid) (before after : α → Prop) : Prop where
  gone : ∀ r, before r → ¬ after r → network r = n
  come : ∀ r, after r → ¬ before r → network r = n

namespace Within

variable {α : Type} {network : α → Uuid} {n : Uuid} {p q r : α → Prop}

theorem refl (p : α → Prop) : Within network n p p := ⟨fun _ h hnot => absurd h hnot, fun _ h hnot => absurd h hnot⟩

theorem trans (h : Within network n p q) (h' : Within network n q r) : Within network n p r := by
  refine ⟨fun x hp hr => ?_, fun x hr hp => ?_⟩
  · by_cases hq : q x
    · exact h'.gone x hq hr
    · exact h.gone x hp hq
  · by_cases hq : q x
    · exact h.come x hq hp
    · exact h'.come x hr hq

theorem of_eq (h : p = q) : Within network n p q := h ▸ refl p

end Within

def discoveryOf (σ : Store) (entry : Uuid × Discovery) : Prop := σ.discoveries.get entry.1 = some entry.2

abbrev HostsWithin (n : Uuid) (db db' : Inventory.Db) : Prop :=
  Within (fun h : Host => h.base.networkId) n (fun h => h ∈ db.hosts.rows) (fun h => h ∈ db'.hosts.rows)

abbrev DiscoveriesWithin (n : Uuid) (σ σ' : Store) : Prop :=
  Within (fun entry : Uuid × Discovery => entry.2.base.networkId) n (discoveryOf σ) (discoveryOf σ')

variable {V : Semver}

/-- The hosts, daemons and discoveries that are created, modified or removed are in the network. -/
structure StaysIn (n : Uuid) (w w' : World V) : Prop where
  hosts : HostsWithin n w.inventory w'.inventory
  daemons : Within (fun d : Daemon V => d.base.networkId) n (fun d => d ∈ w.daemons.rows) (fun d => d ∈ w'.daemons.rows)
  discoveries : DiscoveriesWithin n w.discovery w'.discovery

theorem StaysIn.refl (n : Uuid) (w : World V) : StaysIn n w w := ⟨.refl _, .refl _, .refl _⟩

theorem StaysIn.trans {n : Uuid} {w w' w'' : World V} (h : StaysIn n w w') (h' : StaysIn n w' w'') : StaysIn n w w'' :=
  ⟨h.hosts.trans h'.hosts, h.daemons.trans h'.daemons, h.discoveries.trans h'.discoveries⟩

section inventory

open Inventory

variable {n : Uuid} {db : Inventory.Db} {host : Host}

theorem hostsWithin_kept {existing : Host} (hnetwork : existing.base.networkId = n) {t : Inventory.Db}
    (h : Related (k := .host) (fun a b => b = a ∨ a = existing ∧ HostKept a b) db.hosts t.hosts) : HostsWithin n db t := by
  refine ⟨fun x hx hnot => ?_, fun y hy hnot => ?_⟩
  · obtain ⟨y, hy, rfl | ⟨rfl, -⟩⟩ := h.1 x hx
    · exact absurd hy hnot
    · exact hnetwork
  · obtain ⟨x, hx, rfl | ⟨rfl, hkept⟩⟩ := h.2 y hy
    · exact absurd hx hnot
    · rw [hkept.base]
      exact hnetwork

theorem hostsWithin_insert (hnetwork : host.base.networkId = n) (h) :
    HostsWithin n db (db.withTable .host ((db.table .host).insert host h)) := by
  have hmem (x : Host) : x ∈ ((db.table .host).insert host h).rows ↔ x ∈ db.hosts.rows ∨ x = host := by
    simp only [Table.rows_insert, List.mem_append, List.mem_singleton]
    rfl
  refine ⟨fun x hx hnot => absurd ((hmem x).mpr (.inl hx)) hnot, fun x hx hnot => ?_⟩
  rcases (hmem x).mp hx with hx | rfl
  · exact absurd hx hnot
  · exact hnetwork

variable {may : Inventory.Db → (o : DbOp) → o.Reply → Prop}

theorem ensures_store {allHosts : List Host} (hall : ∀ h ∈ allHosts, h ∈ db.hosts.rows ∧ h.base.networkId = n)
    (hnetwork : host.base.networkId = n) :
    Ensures dbStep may (fun _ t => HostsWithin n db t) (HostService.store allHosts host) db := by
  unfold HostService.store
  cases hfind : allHosts.find? (fun h => host.id = h.id) with
  | some existing =>
    obtain ⟨hrow, hexisting⟩ := hall existing (List.mem_of_find?_eq_some hfind)
    exact ensures_upsertHost_kept hrow (fun _ => .refl _) (fun _ t _ _ hrelated => hostsWithin_kept hexisting hrelated)
  | none =>
    apply Ensures.bind
    refine ensures_getById (k := .host) (fun _ => .refl _) ?_
    cases (db.table .host).rows.find? (fun r => r.id = host.id) with
    | some _ => exact Within.refl _
    | none =>
      apply Ensures.bind
      exact ensures_create (k := .host) (fun _ => .refl _) (fun hapart _ => hostsWithin_insert hnetwork hapart)

theorem ensures_create_within (hnetwork : host.base.networkId = n) :
    Ensures dbStep may (fun _ t => HostsWithin n db t) (HostService.create host) db := by
  have hnamed (named : Host) (hbase : named.base = host.base) :
      Ensures dbStep may (fun _ t => HostsWithin n db t) ((Inventory.acquire (.host named.id)).bind (fun _ =>
        (HostService.getForNetwork named.base.networkId).bind (fun hosts =>
          (HostService.store hosts named).bind (fun stored =>
            (Inventory.release (.host named.id)).bind (fun _ => ret stored))))) db := by
    rw [hbase, hnetwork]
    apply ensures_acquire
    apply Ensures.bind
    refine ensures_getAll (k := .host) (fun _ => .refl _) (fun hosts hhosts _ => ?_)
    apply Ensures.bind
    refine (ensures_store (fun h hh => ?_) (hbase ▸ hnetwork)).imp ?_
    · exact (List.mem_filter.mp (hhosts.mem_iff.mp hh)).imp_right of_decide_eq_true
    · rintro (e | stored) t ht
      · exact ht
      · exact fun _ _ => ht
  unfold HostService.create
  by_cases hnil : host.id = Uuid.nil
  · simp only [hnil, ↓reduceIte]
    apply Ensures.bind
    apply ensures_newEntity
    intro id now _
    exact hnamed _ rfl
  · simp only [hnil, ↓reduceIte]
    exact hnamed host rfl

/-- A host without children: nothing is recognised and nothing but the host is entered. -/
theorem discoverHost_alone (host : Host) : HostService.discoverHost host [] [] [] =
    (HostService.create host).bind (fun created => ret ⟨created, [], [], []⟩) := by
  change ((HostService.create host).bind (fun created => ret (created, [], []))).bind _ = _
  rw [bind_assoc]
  rfl

theorem ensures_discoverHost_within (hnetwork : host.base.networkId = n) :
    Ensures dbStep may (fun _ t => HostsWithin n db t) (HostService.discoverHost host [] [] []) db := by
  rw [discoverHost_alone]
  apply Ensures.bind
  apply (ensures_create_within hnetwork).imp
  rintro (e | created) t ht
  · exact ht
  · exact ht

end inventory

section discovery

variable {n : Uuid} {σ τ : Store} {entity : Discovery}

/-- An operation that leaves the discovery table alone. -/
def KeepsTable : ServiceOp → Prop
  | .discoveryCreate _ | .discoveryUpdate _ | .discoveryDelete _ => False
  | _ => True

theorem discoveries_serviceStep {o : ServiceOp} (ho : KeepsTable o) (r : o.Reply) :
    (serviceStep o r σ).2.discoveries = σ.discoveries := by
  cases o with
  | discoveryCreate _ | discoveryUpdate _ | discoveryDelete _ => exact ho.elim
  | schedulerAdd job => cases r <;> rfl
  | schedulerRemove id => cases r <;> rfl
  | _ => rfl

theorem ensures_keepsTable {α : Type} {p : Service α} (hp : Only KeepsTable p) (σ : Store) :
    Ensures serviceStep (fun _ _ _ => True) (fun _ τ => τ.discoveries = σ.discoveries) p σ :=
  Ensures.unchanged (fun _ _ r ho => discoveries_serviceStep ho r) hp σ

theorem discoveriesWithin_of_eq (h : τ.discoveries = σ.discoveries) : DiscoveriesWithin n σ τ := by
  apply Within.of_eq
  funext entry
  rw [discoveryOf, discoveryOf, h]

theorem discoveriesWithin_insert (hnetwork : entity.base.networkId = n)
    (hstored : ∀ d, σ.discoveries.get entity.id = some d → d.base.networkId = n) :
    DiscoveriesWithin n σ { σ with discoveries := σ.discoveries.insert entity.id entity } := by
  have hget (entry : Uuid × Discovery) : discoveryOf { σ with discoveries := σ.discoveries.insert entity.id entity } entry ↔
      (if entry.1 = entity.id then some entity else σ.discoveries.get entry.1) = some entry.2 := by
    rw [discoveryOf, get_insert]
  refine ⟨fun entry hentry hnot => ?_, fun entry hentry hnot => ?_⟩
  · rw [hget] at hnot
    split_ifs at hnot with hid
    · exact hstored entry.2 (hid ▸ hentry)
    · exact absurd hentry hnot
  · rw [hget] at hentry
    split_ifs at hentry with hid
    · cases hentry
      exact hnetwork
    · exact absurd hentry hnot

/-- The created row is stored, and so far nothing outside the network has changed. -/
def Entered (n : Uuid) (σ : Store) (entity : Discovery) (τ : Store) : Prop :=
  DiscoveriesWithin n σ τ ∧ entity.base.networkId = n ∧ τ.discoveries.get entity.id = some entity

theorem Entered.of_eq (h : Entered n σ entity τ) {υ : Store} (heq : υ.discoveries = τ.discoveries) :
    Entered n σ entity υ :=
  ⟨h.1.trans (discoveriesWithin_of_eq heq), h.2.1, heq ▸ h.2.2⟩

theorem ensures_insertDiscovery (hnetwork : entity.base.networkId = n) :
    Ensures serviceStep (fun _ _ _ => True) (fun r τ => DiscoveriesWithin n σ τ ∧
      ∀ created, r = .ok created → Entered n σ created τ) (insertDiscovery entity) σ := by
  have hinsert (d : Discovery) (hd : d.base.networkId = n) :
      Ensures serviceStep (fun _ _ _ => True) (fun r τ => DiscoveriesWithin n σ τ ∧
        ∀ created, r = .ok created → Entered n σ created τ)
        ((discoveryCreate d).bind (fun r => (orFail r).bind (fun _ => ret d))) σ := by
    intro r _
    have hrefused (e : Error) : DiscoveriesWithin n σ σ ∧
        ∀ created, (.error e : Except Error Discovery) = .ok created → Entered n σ created σ :=
      ⟨.refl _, fun _ h => (nomatch h)⟩
    rcases r with e | ⟨⟩
    · exact hrefused e
    · change Ensures serviceStep _ _ ((orFail (σ.insertRow d (.ok ())).1).bind (fun _ => ret d)) (σ.insertRow d (.ok ())).2
      unfold Store.insertRow
      split_ifs with hmem
      · exact hrefused _
      · have hwithin : DiscoveriesWithin n σ { σ with discoveries := σ.discoveries.insert d.id d } := by
          refine discoveriesWithin_insert hd (fun x hx => ?_)
          exact absurd ((mem_iff_get _ _).mpr ⟨x, hx⟩) hmem
        refine ⟨hwithin, ?_⟩
        rintro _ ⟨⟩
        exact ⟨hwithin, hd, by rw [get_insert, if_pos rfl]⟩
  unfold insertDiscovery
  by_cases hnil : entity.id = Uuid.nil
  · simp only [hnil, ↓reduceIte]
    intro now _ id _
    exact hinsert ⟨id, now, now, entity.base⟩ hnetwork
  · simp only [hnil, ↓reduceIte]
    exact hinsert entity hnetwork

theorem ensures_storageUpdate (h : Entered n σ entity τ) :
    Ensures serviceStep (fun _ _ _ => True) (fun _ υ => DiscoveriesWithin n σ υ) (storageUpdate entity) τ := by
  intro now _ r _
  rcases r with e | ⟨⟩
  · exact h.1
  · change Ensures serviceStep _ _ ((orFail (τ.updateRow { entity with updatedAt := now } (.ok ())).1).bind _)
      (τ.updateRow { entity with updatedAt := now } (.ok ())).2
    unfold Store.updateRow
    split_ifs
    · refine h.1.trans (discoveriesWithin_insert h.2.1 (fun d hd => ?_))
      have hsame : d = entity := Option.some.inj (hd.symm.trans h.2.2)
      rw [hsame]
      exact h.2.1
    · exact h.1

theorem only_scheduleDiscovery (discovery : Discovery) : Only KeepsTable (scheduleDiscovery discovery) := by
  unfold scheduleDiscovery
  cases discovery.base.runType with
  | scheduled cron lastRun enabled =>
    cases enabled with
    | false => trivial
    | true =>
      refine ⟨trivial, fun r => (Only.orFail r).bind (fun _ => ?_)⟩
      exact ⟨trivial, fun _ => ⟨trivial, fun added => ⟨trivial, fun _ => .orFail added⟩⟩⟩
  | historical results => trivial
  | adHoc lastRun => trivial

theorem only_announceCreated (discovery : Discovery) : Only KeepsTable (announceCreated discovery) :=
  ⟨trivial, fun r => (Only.orFail r).bind (fun _ => trivial)⟩

theorem ensures_createDiscovery (hnetwork : entity.base.networkId = n) :
    Ensures serviceStep (fun _ _ _ => True) (fun _ τ => DiscoveriesWithin n σ τ) (createDiscovery entity) σ := by
  have hannounce (created : Discovery) (τ : Store) (h : DiscoveriesWithin n σ τ) :
      Ensures serviceStep (fun _ _ _ => True) (fun _ υ => DiscoveriesWithin n σ υ) (announceCreated created) τ :=
    (ensures_keepsTable (only_announceCreated created) τ).imp (fun _ _ heq => h.trans (discoveriesWithin_of_eq heq))
  apply Ensures.bind
  apply (ensures_insertDiscovery hnetwork).imp
  rintro (e | created) τ ⟨hwithin, hentered⟩
  · exact hwithin
  · have hentered := hentered created rfl
    dsimp only [Ensures.andThen]
    split_ifs with hscheduled
    · apply Ensures.bind
      apply Ensures.bind
      apply Ensures.attempt
      apply (ensures_keepsTable (only_scheduleDiscovery created) τ).imp
      rintro (e | jobId) υ heq
      · apply Ensures.bind
        apply (ensures_storageUpdate (hentered.of_eq heq)).imp
        rintro (e' | disabled) φ hφ
        · exact hφ
        · exact hφ
      · exact hannounce created υ (hentered.of_eq heq).1
    · exact hannounce created τ hwithin

theorem only_startSession (discovery : Discovery) : Only KeepsTable (startSession discovery) := by
  refine ⟨trivial, fun sessionId => ⟨trivial, fun _ => ⟨trivial, fun _ => ⟨trivial, fun _ => ⟨trivial, fun _ =>
    ⟨trivial, fun queue => ⟨trivial, fun _ => ⟨trivial, fun _ => ⟨trivial, fun _ => ⟨trivial, fun _ =>
    ⟨trivial, fun daemon => (Only.orFail daemon).bind (fun found => ?_)⟩⟩⟩⟩⟩⟩⟩⟩⟩⟩⟩
  have hsend (request : DaemonDiscoveryRequest) :
      Only KeepsTable (sendDiscoveryRequest discovery.base.daemonId request) := by
    refine ⟨trivial, fun daemon => (Only.orFail daemon).bind (fun found => ?_)⟩
    cases found with
    | none => trivial
    | some _ => exact ⟨trivial, fun r => (Only.orFail r).bind (fun _ => ⟨trivial, fun r => .orFail r⟩)⟩
  exact (Only.when _ (hsend _)).bind (fun _ => ⟨trivial, fun _ => trivial⟩)

end discovery

section world

variable {α β : Type} {n : Uuid} {w : World V}

theorem handles_inventory : (asInventory (V := V)).Handles worldStep Inventory.dbStep World.inventory :=
  ⟨fun _ _ _ => rfl, fun _ _ _ => rfl⟩

theorem handles_discovery : (asDiscovery (V := V)).Handles worldStep serviceStep World.discovery :=
  ⟨fun _ _ _ => rfl, fun _ _ _ => rfl⟩

/-- Whatever the environment answers, the task touches nothing outside the network. -/
def Keeps (n : Uuid) (p : Task V α) : Prop :=
  ∀ w, Ensures worldStep (fun _ _ _ => True) (fun _ w' => StaysIn n w w') p w

theorem Keeps.bind {p : Task V α} {f : α → Task V β} (hp : Keeps n p) (hf : ∀ a, Keeps n (f a)) :
    Keeps n (p.bind f) := by
  intro w
  apply Ensures.bind
  apply (hp w).imp
  rintro (e | a) w' h
  · exact h
  · exact (hf a w').imp (fun _ _ h' => h.trans h')

theorem Keeps.when {p : Task V Unit} (b : Bool) (hp : Keeps n p) : Keeps n (when b p) := by
  cases b with
  | false => exact fun w => .refl n w
  | true => exact hp

/-- An operation that leaves the tables alone. -/
def Quiet : WorldOp V → Prop
  | .inventory _ | .discovery _ | .createDaemon _ | .updateDaemon _ => False
  | _ => True

theorem worldStep_quiet {i : WorldOp V} (hi : Quiet i) (r : i.Reply) : (worldStep i r w).2 = w := by
  cases i with
  | inventory _ | discovery _ | createDaemon _ | updateDaemon _ => exact hi.elim
  | _ => rfl

theorem ensures_quiet {p : Task V α} (hp : Only Quiet p) (w : World V) :
    Ensures worldStep (fun _ _ _ => True) (fun _ w' => w' = w) p w :=
  Ensures.of_only (fun _ _ r hi h => (worldStep_quiet hi r).trans h) hp rfl

theorem keeps_quiet {p : Task V α} (hp : Only Quiet p) : Keeps n p := by
  intro w
  apply (ensures_quiet hp w).imp
  rintro - _ rfl
  exact .refl n _

theorem keeps_inventory {p : Inventory.Query α}
    (h : ∀ db, Ensures Inventory.dbStep (fun _ _ _ => True) (fun _ t => HostsWithin n db t) p db) :
    Keeps n (inventory p : Task V α) := by
  intro w
  refine (handles_inventory.ensures (I := fun w' => w'.discovery = w.discovery ∧ w'.daemons = w.daemons)
    (fun _ _ _ _ => trivial) (fun _ _ _ h => h) (h w.inventory) ⟨rfl, rfl⟩).imp ?_
  rintro r w' ⟨⟨hdiscovery, hdaemons⟩, -, -, hhosts⟩
  exact ⟨hhosts, .of_eq (by rw [hdaemons]), .of_eq (by rw [hdiscovery])⟩

theorem keeps_discovery {p : Service α}
    (h : ∀ σ, Ensures serviceStep (fun _ _ _ => True) (fun _ τ => DiscoveriesWithin n σ τ) p σ) :
    Keeps n (discovery p : Task V α) := by
  intro w
  refine (handles_discovery.ensures (I := fun w' => w'.inventory = w.inventory ∧ w'.daemons = w.daemons)
    (fun _ _ _ _ => trivial) (fun _ _ _ h => h) (h w.discovery) ⟨rfl, rfl⟩).imp ?_
  rintro r w' ⟨⟨hinventory, hdaemons⟩, -, -, hdiscoveries⟩
  exact ⟨.of_eq (by rw [hinventory]), .of_eq (by rw [hdaemons]), hdiscoveries⟩

/-- What comes after the making of an entity may rely on what it is made of. -/
theorem keeps_made {base : β} {f : Inventory.Entity β → Task V α} (hf : ∀ entity, entity.base = base → Keeps n (f entity)) :
    Keeps n ((newEntity base).bind f) := fun w now _ id _ => hf ⟨id, now, now, base⟩ rfl w

theorem keeps_createDaemon {daemon : Daemon V} (hnetwork : daemon.base.networkId = n) :
    Keeps n (DaemonService.create daemon) := by
  have hcreate (row : Daemon V) (hrow : row.base.networkId = n) :
      Keeps n ((.op (WorldOp.createDaemon row) (fun r => (orFail r : Task V Unit).bind (fun _ => ret ())) : Task V Unit).bind
        (fun _ => (DaemonService.publish .created row false).bind (fun _ => ret row))) := by
    intro w r _
    rcases r with e | ⟨⟩
    · exact .refl n w
    · change Ensures worldStep _ _ (((orFail (w.insertDaemon row (.ok ())).1 : Task V Unit).bind (fun _ => ret ())).bind _)
        (w.insertDaemon row (.ok ())).2
      unfold World.insertDaemon
      split_ifs with h
      · intro _ _
        refine ⟨.refl _, ⟨fun d hd hnot => ?_, fun d hd hnot => ?_⟩, .refl _⟩
        · exact absurd (List.mem_append_left _ hd) hnot
        · rcases List.mem_append.mp hd with hd | hd
          · exact absurd hd hnot
          · rw [List.mem_singleton.mp hd]
            exact hrow
      · exact .refl n w
  unfold DaemonService.create
  by_cases hnil : daemon.id = Uuid.nil
  · simp only [hnil, ↓reduceIte]
    intro w now _ id _
    exact hcreate ⟨id, now, now, daemon.base⟩ hnetwork w
  · simp only [hnil, ↓reduceIte]
    exact hcreate daemon hnetwork

theorem ensures_orInternal {may : World V → (i : WorldOp V) → i.Reply → Prop} {q : World V → Prop} (context : String)
    {p : Task V α} (hp : Ensures worldStep may (fun _ t => q t) p w) :
    Ensures worldStep may (fun _ t => q t) (orInternal context p) w := Ensures.relabel hp

theorem keeps_orInternal (context : String) {p : Task V α} (hp : Keeps n p) : Keeps n (orInternal context p) :=
  fun w => ensures_orInternal context (hp w)

section register

variable {request : DaemonRegistrationRequest}

theorem eq_of_id_eq {rows : DaemonRows V} {a b : Daemon V} (ha : a ∈ rows.rows) (hb : b ∈ rows.rows) (h : a.id = b.id) :
    a = b := rows.eq_of_key_eq (fun _ _ hne => hne) ha hb h

theorem keeps_scheduleDaily (hnetwork : request.networkId = n) (discoveryType : DiscoveryType) :
    Keeps n (scheduleDaily request discoveryType : Task V Unit) := by
  refine keeps_made (fun entity hbase => ?_)
  refine (keeps_discovery (fun σ => ensures_createDiscovery ?_)).bind (fun created => Keeps.bind ?_ (fun _ w => StaysIn.refl n w))
  · rw [hbase]
    exact hnetwork
  · refine keeps_discovery (fun σ => ?_)
    exact (ensures_keepsTable (only_startSession created) σ).imp (fun _ _ heq => discoveriesWithin_of_eq heq)

theorem only_maintainer (organizationId : Uuid) : Only Quiet (maintainer request organizationId : Task V Uuid) := by
  unfold maintainer
  split_ifs
  · exact ⟨trivial, fun r => (Only.orFail r).bind (fun _ => trivial)⟩
  · trivial

theorem only_reportRegistration (auth : Events.AuthenticatedEntity) :
    Only Quiet (reportRegistration auth request : Task V Unit) := by
  refine ⟨trivial, fun network => (Only.orFail network).bind (fun network => ?_)⟩
  refine ⟨trivial, fun found => (Only.orFail found).bind (fun found => ?_)⟩
  cases found with
  | none => trivial
  | some organization => exact .when _ ⟨trivial, fun id => ⟨trivial, fun now => ⟨trivial, fun _ => trivial⟩⟩⟩

theorem keeps_enterDaemon (hnetwork : request.networkId = n) (hostId userId : Uuid) :
    Keeps n (enterDaemon request hostId userId : Task V (Daemon V)) := by
  refine Keeps.bind (keeps_quiet ⟨trivial, fun _ => trivial⟩) (fun lastSeen => keeps_made (fun daemon hbase => ?_))
  apply keeps_orInternal
  apply keeps_createDaemon
  rw [hbase]
  exact hnetwork

/-- What follows the entry of the host. -/
theorem keeps_register (hnetwork : request.networkId = n) (auth : Events.AuthenticatedEntity) (organization : Organization) :
    Keeps n (register auth request organization : Task V _) := by
  refine keeps_made (fun host hbase => (keeps_inventory (fun db => ?_)).bind (fun response => ?_))
  · apply ensures_discoverHost_within
    rw [hbase]
    exact hnetwork
  · refine (keeps_quiet (only_maintainer organization.id)).bind (fun userId => ?_)
    refine (keeps_enterDaemon hnetwork _ userId).bind (fun registered => ?_)
    refine (keeps_quiet (only_reportRegistration auth)).bind (fun _ => ?_)
    refine (keeps_scheduleDaily hnetwork _).bind (fun _ => ?_)
    refine (Keeps.when _ (keeps_scheduleDaily hnetwork _)).bind (fun _ => ?_)
    exact (keeps_scheduleDaily hnetwork _).bind (fun _ w => StaysIn.refl n w)

/-- A stored daemon of the network is refreshed in its place. -/
theorem ensures_updateDaemon {existing daemon : Daemon V} (hexisting : existing ∈ w.daemons.rows)
    (hid : daemon.id = existing.id) (hold : existing.base.networkId = n) (hnetwork : daemon.base.networkId = n) :
    Ensures worldStep (fun _ _ _ => True) (fun _ w' => StaysIn n w w') (DaemonService.update daemon) w := by
  have hput (row : Daemon V) (hrow : row.id = existing.id) (hrowNetwork : row.base.networkId = n) :
      StaysIn n w (w.putDaemon row) := by
    have hrows (d : Daemon V) : d ∈ (w.putDaemon row).daemons.rows ↔
        ∃ d' ∈ w.daemons.rows, (if d'.id = row.id then row else d') = d := List.mem_map
    refine ⟨.refl _, ⟨fun d hd hnot => ?_, fun d hd hnot => ?_⟩, .refl _⟩
    · by_cases hsame : d.id = row.id
      · rw [eq_of_id_eq hd hexisting (hsame.trans hrow)]
        exact hold
      · exact absurd ((hrows d).mpr ⟨d, hd, if_neg hsame⟩) hnot
    · obtain ⟨d', hd', heq⟩ := (hrows d).mp hd
      split_ifs at heq with hsame
      · rw [← heq]
        exact hrowNetwork
      · exact absurd (heq ▸ hd') hnot
  intro r _
  refine Ensures.bind (p := orFail _) ?_
  rcases r with e | found
  · exact StaysIn.refl n w
  · change Ensures worldStep _ _ (orFail (.ok (w.daemon daemon.id))) w
    cases w.daemon daemon.id with
    | none => exact StaysIn.refl n w
    | some current =>
      intro now _ r _
      rcases r with e | ⟨⟩
      · exact StaysIn.refl n w
      · intro _ _
        exact hput { daemon with updatedAt := now } hid hnetwork

theorem ensures_reregister {existing : Daemon V} (hexisting : existing ∈ w.daemons.rows)
    (hnetwork : existing.base.networkId = n) :
    Ensures worldStep (fun _ _ _ => True) (fun _ w' => StaysIn n w w') (reregister request existing) w := by
  intro now _
  change Ensures worldStep _ _ ((orInternal _ (DaemonService.update (refreshed request existing now))).bind _) w
  apply Ensures.bind
  refine (ensures_orInternal _ (ensures_updateDaemon hexisting ?_ hnetwork ?_)).imp ?_
  · rfl
  · exact hnetwork
  · rintro (e | updated) w' h
    · exact h
    · exact h

end register

end world

/-- The organization of the network, where both are found and daemons may register. -/
def World.registrable (w : World V) (networkId : Uuid) : Option Organization :=
  (w.network networkId).bind (fun network =>
    (w.organization network.organizationId).filter (fun org => org.plan ≠ some .demo))

/-- Every id is taken by a host of another network, so that no host can be entered into this one. -/
def World.Crowded (w : World V) (networkId : Uuid) : Prop :=
  ∀ id, ∃ h ∈ w.inventory.hosts.rows, h.id = id ∧ h.base.networkId ≠ networkId

/-- The daemon that the body names is stored in the network of the key, or there is none and the body names that
network. -/
def Proper (n : Uuid) (request : DaemonRegistrationRequest) (w : World V) : Prop :=
  match w.daemon request.daemonId with
  | some existing => existing.base.networkId = n
  | none => request.networkId = n ∨ w.Crowded request.networkId

section outcome

variable {n : Uuid} {w : World V} {request : DaemonRegistrationRequest}

theorem ensures_registrable (networkId : Uuid) : Ensures worldStep (fun _ _ _ => True) (fun r w' => w' = w ∧
    ∀ org, r = .ok org → w.registrable networkId = some org) (registrable networkId) w := by
  have hrefused (e : Failure) : w = w ∧
      ∀ org, (.error e : Except Failure Organization) = .ok org → w.registrable networkId = some org :=
    ⟨rfl, fun _ h => (nomatch h)⟩
  intro r _
  refine Ensures.bind (p := orFail _) ?_
  rcases r with e | found
  · exact hrefused e
  · change Ensures worldStep _ _ (orFail (.ok (w.network networkId))) w
    cases hnetwork : w.network networkId with
    | none => exact hrefused _
    | some network =>
      intro r _
      refine Ensures.bind (p := orFail _) ?_
      rcases r with e | found
      · exact hrefused e
      · change Ensures worldStep _ _ (orFail (.ok (w.organization network.organizationId))) w
        cases horganization : w.organization network.organizationId with
        | none => exact hrefused _
        | some org =>
          change Ensures worldStep _ _ (if org.plan = some BillingPlan.demo then fail _ else ret org) w
          split_ifs with hdemo
          · exact hrefused _
          · refine ⟨rfl, ?_⟩
            rintro _ ⟨⟩
            simp [World.registrable, hnetwork, horganization, hdemo]

theorem ensures_discoverHost_crowded {db : Inventory.Db} (host : Host)
    (hcrowded : ∀ id, ∃ h ∈ db.hosts.rows, h.id = id ∧ h.base.networkId ≠ host.base.networkId) :
    Ensures Inventory.dbStep (fun _ _ _ => True) (fun r t => t = db ∧ ∃ e, r = .error e)
      (Inventory.HostService.discoverHost host [] [] []) db := by
  have hrefused (named : Host) (hbase : named.base = host.base) :
      Ensures Inventory.dbStep (fun _ _ _ => True) (fun r t => t = db ∧ ∃ e, r = .error e)
        ((Inventory.acquire (.host named.id)).bind (fun _ =>
          (Inventory.HostService.getForNetwork named.base.networkId).bind (fun hosts =>
            (Inventory.HostService.store hosts named).bind (fun stored =>
              (Inventory.release (.host named.id)).bind (fun _ => ret stored))))) db := by
    obtain ⟨taken, htaken, hid, hnetwork⟩ := hcrowded named.id
    apply Inventory.ensures_acquire
    apply Ensures.bind
    refine Inventory.ensures_getAll (k := .host) (fun e => ⟨rfl, e, rfl⟩) (fun hosts hhosts _ => Ensures.bind ?_)
    have hnone : hosts.find? (fun h => named.id = h.id) = none := by
      refine List.find?_eq_none.mpr (fun h hh heq => ?_)
      obtain ⟨hrow, hrowNetwork⟩ := List.mem_filter.mp (hhosts.mem_iff.mp hh)
      have hsame : h = taken :=
        Inventory.eq_of_id_eq (k := .host) hrow htaken ((of_decide_eq_true heq).symm.trans hid.symm)
      exact hnetwork (by rw [← hsame, ← hbase]; exact of_decide_eq_true hrowNetwork)
    have hfound : (db.table .host).rows.find? (fun h => h.id = named.id) = some taken :=
      Inventory.find_id_eq_some_iff.mpr ⟨htaken, hid⟩
    unfold Inventory.HostService.store
    rw [hnone]
    apply Ensures.bind
    apply Inventory.ensures_getById (k := .host) (fun e => ⟨rfl, e, rfl⟩)
    rw [hfound]
    exact ⟨rfl, _, rfl⟩
  rw [discoverHost_alone]
  apply Ensures.bind
  have hcreate : Ensures Inventory.dbStep (fun _ _ _ => True) (fun r t => t = db ∧ ∃ e, r = .error e)
      (Inventory.HostService.create host) db := by
    unfold Inventory.HostService.create
    by_cases hnil : host.id = Uuid.nil
    · simp only [hnil, ↓reduceIte]
      apply Ensures.bind
      apply Inventory.ensures_newEntity
      intro id now _
      exact hrefused _ rfl
    · simp only [hnil, ↓reduceIte]
      exact hrefused host rfl
  apply hcreate.imp
  rintro _ t ⟨rfl, e, rfl⟩
  exact ⟨rfl, e, rfl⟩

theorem ensures_register_crowded (auth : Events.AuthenticatedEntity) (organization : Organization)
    (hcrowded : w.Crowded request.networkId) :
    Ensures worldStep (fun _ _ _ => True) (fun _ w' => w' = w) (register auth request organization) w := by
  intro now _ id _
  refine Ensures.bind (p := inventory _) ?_
  refine (handles_inventory.ensures (I := fun w' => w'.discovery = w.discovery ∧ w'.daemons = w.daemons ∧
    w'.networks = w.networks ∧ w'.organizations = w.organizations) (fun _ _ _ _ => trivial) (fun _ _ _ h => h)
    (ensures_discoverHost_crowded ⟨id, now, now, dummyHost request⟩ hcrowded) ⟨rfl, rfl, rfl, rfl⟩).imp ?_
  rintro _ ⟨⟩ ⟨⟨hdiscovery, hdaemons, hnetworks, horganizations⟩, _, rfl, hinventory, e, rfl⟩
  cases hdiscovery
  cases hdaemons
  cases hnetworks
  cases horganizations
  cases hinventory
  rfl

/-- A proper registration stays in the network of the key. -/
theorem ensures_registerDaemon {apiKeyId daemonId : Uuid}
    (hproper : w.registrable request.networkId ≠ none → Proper n request w) :
    Ensures worldStep (fun _ _ _ => True) (fun _ w' => StaysIn n w w')
      (registerDaemon (.daemon n apiKeyId daemonId) request) w := by
  apply Ensures.bind
  apply (ensures_registrable request.networkId).imp
  rintro (e | organization) w' ⟨rfl, hregistrable⟩
  · exact StaysIn.refl n _
  · have hproper := hproper (by rw [hregistrable organization rfl]; exact Option.some_ne_none _)
    intro r _
    refine Ensures.bind (p := orFail _) ?_
    rcases r with e | found
    · exact StaysIn.refl n _
    · change Ensures worldStep _ _ (match w'.daemon request.daemonId with | some existing => _ | none => _) w'
      unfold Proper at hproper
      cases hdaemon : w'.daemon request.daemonId with
      | some existing =>
        rw [hdaemon] at hproper
        exact ensures_reregister (List.mem_of_find?_eq_some hdaemon) hproper
      | none =>
        rw [hdaemon] at hproper
        rcases hproper with hnetwork | hcrowded
        · exact keeps_register hnetwork _ organization w'
        · apply (ensures_register_crowded _ organization hcrowded).imp
          rintro - _ rfl
          exact StaysIn.refl n _

end outcome

end VantageNet.Daemons
