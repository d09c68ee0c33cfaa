import VantageNet.Daemons.Networks

/-!
Registrations that leave the network of their key, in an environment that carries out every
statement and hands out one id at one time.
-/

namespace VantageNet.Daemons

open Interaction Interaction.Program
open Inventory (Host)

section inventory

open Inventory

variable {id : Uuid} {now : Instant} {db : Inventory.Db} {host : Host}

def grantInventory (id : Uuid) (now : Instant) : (o : DbOp) → o.Reply
  | .newV4 => id
  | o => granted now 0 o

/-- The stored host of the id, if there is one, is of the network and older than `now`. -/
def Open (db : Inventory.Db) (id networkId : Uuid) (now : Instant) : Prop :=
  ∀ h ∈ db.hosts.rows, h.id = id → h.base.networkId = networkId ∧ h.updatedAt ≠ now

/-- A host of the network that was not there. -/
def Enters (db t : Inventory.Db) (networkId : Uuid) : Prop :=
  ∃ h ∈ t.hosts.rows, h ∉ db.hosts.rows ∧ h.base.networkId = networkId

theorem Open.enters {t : Inventory.Db} {networkId : Uuid} (hopen : Open db id networkId now) (entered : Host)
    (hid : entered.id = id) (hnetwork : entered.base.networkId = networkId)
    (hold : (∃ h ∈ db.hosts.rows, h.id = id) → entered.updatedAt = now) (hmem : entered ∈ t.hosts.rows) :
    Enters db t networkId :=
  ⟨entered, hmem, fun hrow => (hopen entered hrow hid).2 (hold ⟨entered, hrow, hid⟩), hnetwork⟩

theorem updated_host {existing : Host} (row : Host) (hexisting : existing ∈ db.hosts.rows) (hid : row.id = existing.id) :
    ∃ t, db.update .host row (.ok ()) = (.ok (), t) ∧ row ∈ t.hosts.rows := by
  have hhas : db.has .host row.id = true := (has_iff db .host row.id).mpr ⟨existing, hexisting, hid.symm⟩
  have hapart : ∀ r ∈ ((db.table .host).filter (fun r => r.id ≠ row.id)).rows, Inventory.Apart .host r row :=
    fun r hr => ⟨of_decide_eq_true (List.mem_filter.mp hr).2, rfl⟩
  refine ⟨_, (if_pos hhas).trans ((dif_pos hapart).trans (if_pos rfl)), ?_⟩
  exact List.mem_append_right _ (List.mem_singleton_self _)

theorem created_host (row : Host) (hnone : ∀ h ∈ db.hosts.rows, h.id ≠ row.id) :
    ∃ t, db.create .host row (.ok ()) = (.ok (), t) ∧ row ∈ t.hosts.rows := by
  have hapart : ∀ r ∈ (db.table .host).rows, Inventory.Apart .host r row := fun r hr => ⟨hnone r hr, rfl⟩
  refine ⟨_, (dif_pos hapart).trans (if_pos rfl), ?_⟩
  exact List.mem_append_right _ (List.mem_singleton_self _)

theorem enters_upsertHost {existing : Host} (hopen : Open db id host.base.networkId now)
    (hexisting : existing ∈ db.hosts.rows) (hid : existing.id = id) (hsource : host.base.source = .discovery []) :
    Ensures dbStep (fun _ o r => r = grantInventory id now o) (fun _ t => Enters db t host.base.networkId)
      (HostService.upsertHost existing host) db := by
  have hmerged : (HostService.upsertSource existing.base.source host.base.source).2 = true := by
    rw [hsource]
    cases existing.base.source <;> rfl
  have hupdate (row : Host) (hrow : row.id = existing.id) (hbase : row.base.networkId = existing.base.networkId) :
      Ensures dbStep (fun _ o r => r = grantInventory id now o) (fun _ t => Enters db t host.base.networkId)
        (Storage.update .host row) db := by
    rintro stamp hstamp _ rfl
    obtain ⟨t, ht, hmem⟩ := updated_host { row with updatedAt := stamp } hexisting hrow
    change Ensures dbStep _ _ ((orFail (db.update .host { row with updatedAt := stamp } (.ok ())).1).bind _)
      (db.update .host { row with updatedAt := stamp } (.ok ())).2
    rw [ht]
    exact hopen.enters { row with updatedAt := stamp } (hrow.trans hid)
      (hbase.trans (hopen existing hexisting hid).1) (fun _ => hstamp) hmem
  unfold HostService.upsertHost
  simp only [hmerged, Bool.or_true, ↓reduceIte]
  apply hupdate
  · rfl
  · rfl

theorem enters_insertHost (hopen : Open db id host.base.networkId now) (hid : host.id = id)
    (hnone : ∀ h ∈ db.hosts.rows, h.id ≠ id) :
    Ensures dbStep (fun _ o r => r = grantInventory id now o) (fun _ t => Enters db t host.base.networkId)
      (HostService.insertHost host) db := by
  have hfind : (db.table .host).rows.find? (fun r => r.id = host.id) = none :=
    List.find?_eq_none.mpr (fun h hh => by simpa [hid] using hnone h hh)
  obtain ⟨t, ht, hmem⟩ := created_host host (fun h hh => hid ▸ hnone h hh)
  rintro _ rfl
  change Ensures dbStep _ _ ((orFail (.ok ((db.table .host).rows.find? (fun r => r.id = host.id)))).bind _) db
  rw [hfind]
  rintro _ rfl
  change Ensures dbStep _ _ (((orFail (db.create .host host (.ok ())).1).bind _).bind _) (db.create .host host (.ok ())).2
  rw [ht]
  exact hopen.enters _ hid rfl (fun ⟨h, hh, hsame⟩ => absurd hsame (hnone h hh)) hmem

theorem enters_store {hosts : List Host} (hhosts : ∀ h, h ∈ hosts ↔ h ∈ db.hosts.rows ∧ h.base.networkId = host.base.networkId)
    (hopen : Open db id host.base.networkId now) (hid : host.id = id) (hsource : host.base.source = .discovery []) :
    Ensures dbStep (fun _ o r => r = grantInventory id now o) (fun _ t => Enters db t host.base.networkId)
      (HostService.store hosts host) db := by
  unfold HostService.store
  cases hfind : hosts.find? (fun h => host.id = h.id) with
  | some existing =>
    have hsame : host.id = existing.id := by simpa using List.find?_some hfind
    exact enters_upsertHost hopen ((hhosts existing).mp (List.mem_of_find?_eq_some hfind)).1 (hsame ▸ hid) hsource
  | none =>
    refine enters_insertHost hopen hid (fun h hh hsame => ?_)
    have hmem := (hhosts h).mpr ⟨hh, (hopen h hh hsame).1⟩
    exact List.find?_eq_none.mp hfind h hmem (decide_eq_true (hid.trans hsame.symm))

theorem enters_discoverHost (host : Host) (hopen : Open db id host.base.networkId now) (hid : host.id = id)
    (hsource : host.base.source = .discovery []) :
    Ensures dbStep (fun _ o r => r = grantInventory id now o) (fun _ t => Enters db t host.base.networkId)
      (HostService.discoverHost host [] [] []) db := by
  have hnamed (named : Host) (hbase : named.base = host.base) (hnamed : named.id = id) :
      Ensures dbStep (fun _ o r => r = grantInventory id now o) (fun _ t => Enters db t host.base.networkId)
        ((Inventory.acquire (.host named.id)).bind (fun _ =>
          (HostService.getForNetwork named.base.networkId).bind (fun hosts =>
            (HostService.store hosts named).bind (fun stored =>
              (Inventory.release (.host named.id)).bind (fun _ => ret stored))))) db := by
    rw [← hbase] at hopen hsource ⊢
    rintro _ - _ rfl
    change Ensures dbStep _ _ (Program.bind (HostService.store (arrange _ (db.hosts.rows.filter _) _) named) _) db
    apply Ensures.bind
    refine (enters_store (fun h => ?_) hopen hnamed hsource).imp ?_
    · rw [(arrange_perm _ _ _).mem_iff, List.mem_filter, decide_eq_true_iff]
    · rintro (e | stored) t ht
      · exact ht
      · exact fun _ _ => ht
  rw [discoverHost_alone]
  apply Ensures.bind
  have hcreate : Ensures dbStep (fun _ o r => r = grantInventory id now o) (fun _ t => Enters db t host.base.networkId)
      (HostService.create host) db := by
    unfold HostService.create
    by_cases hnil : host.id = Uuid.nil
    · simp only [hnil, ↓reduceIte]
      rintro stamp - fresh hfresh
      exact hnamed ⟨fresh, stamp, stamp, host.base⟩ rfl hfresh
    · simp only [hnil, ↓reduceIte]
      exact hnamed host rfl hid
  apply hcreate.imp
  rintro (e | created) t ht
  · exact ht
  · exact ht

end inventory

/-- The sessions start empty and every request is accepted. -/
def grantDiscovery : (o : ServiceOp) → o.Reply
  | .sessionsGet _ | .sessionsRemove _ | .queueGet _ | .queueRetain _ _ | .cancellationGet _ | .cancellationRemove _
  | .lastUpdatedGet _ => none
  | .sessionsIter => []
  | .newV4 => Uuid.nil
  | .utcNow => (0 : ℤ)
  | .daemonGet _ | .discoveryGet _ => .ok none
  | .daemonUpdate _ | .postInitiate _ _ | .postCancel _ _ | .publish _ _ | .discoveryCreate _ | .discoveryUpdate _
  | .discoveryDelete _ | .jobNew _ | .schedulerRemove _ => .ok ()
  | .schedulerAdd _ => .ok Uuid.nil
  | .acquire _ _ | .release _ | .sessionsInsert _ _ | .queuePush _ _ | .cancellationInsert _ _
  | .lastUpdatedInsert _ _ | .lastUpdatedRemove _ | .broadcast _ => ()

section world

variable {V : Semver} {α : Type} {id : Uuid} {now : Instant} {w : World V} {request : DaemonRegistrationRequest}

def grant (id : Uuid) (now : Instant) : (i : WorldOp V) → i.Reply
  | .inventory o => grantInventory id now o
  | .discovery o => grantDiscovery o
  | .newV4 => id
  | .utcNow => now
  | .getNetwork _ | .getOrganization _ | .getDaemon _ => .ok none
  | .organizationOwners _ => .ok []
  | .createDaemon _ | .updateDaemon _ => .ok ()
  | .publish _ _ _ | .publishTelemetry _ => ()

def Granted (id : Uuid) (now : Instant) (_ : World V) (i : WorldOp V) (r : i.Reply) : Prop := r = grant id now i

theorem granted_registrable {networkId : Uuid} {organization : Organization}
    (h : w.registrable networkId = some organization) :
    Ensures worldStep (Granted id now) (fun r w' => w' = w ∧ r = .ok organization) (registrable networkId) w := by
  obtain ⟨network, hnetwork, hfilter⟩ := Option.bind_eq_some_iff.mp h
  obtain ⟨horganization, hplan⟩ := Option.filter_eq_some_iff.mp hfilter
  rintro _ rfl
  change Ensures worldStep _ _ ((orFail (.ok (w.network networkId))).bind _) w
  rw [hnetwork]
  rintro _ rfl
  change Ensures worldStep _ _ ((orFail (.ok (w.organization network.organizationId))).bind _) w
  rw [horganization]
  change Ensures worldStep _ _ (if organization.plan = some .demo then _ else _) w
  rw [if_neg (of_decide_eq_true hplan)]
  exact ⟨rfl, rfl⟩

/-- The stored daemon is replaced, in whatever network it is. -/
theorem granted_reregister {existing : Daemon V} (hdaemon : w.daemon request.daemonId = some existing)
    (hnow : existing.updatedAt ≠ now) : Ensures worldStep (Granted id now)
      (fun _ w' => existing ∉ w'.daemons.rows) (reregister request existing) w := by
  have hid : existing.id = request.daemonId := by simpa using List.find?_some hdaemon
  rintro seen -
  change Ensures worldStep _ _ ((orInternal _ (DaemonService.update (refreshed request existing seen))).bind _) w
  apply Ensures.bind
  have hupdate : Ensures worldStep (Granted id now) (fun _ w' => existing ∉ w'.daemons.rows)
      (DaemonService.update (refreshed request existing seen)) w := by
    rintro _ rfl
    change Ensures worldStep _ _ ((orFail (.ok (w.daemon existing.id))).bind _) w
    rw [hid, hdaemon]
    rintro stamp rfl _ rfl _ -
    intro hmem
    obtain ⟨d, -, hd⟩ := List.mem_map.mp hmem
    split_ifs at hd with hsame
    · exact hnow (hd ▸ rfl)
    · exact hsame (hd ▸ rfl)
  apply (ensures_orInternal _ hupdate).imp
  rintro (e | updated) w' h
  · exact h
  · exact h

/-- An operation that is not one on the inventory. -/
def Elsewhere : WorldOp V → Prop
  | .inventory _ => False
  | _ => True

theorem inventory_worldStep {i : WorldOp V} (hi : Elsewhere i) (r : i.Reply) : (worldStep i r w).2.inventory = w.inventory := by
  cases i with
  | inventory _ => exact hi.elim
  | createDaemon row =>
    rcases r with e | ⟨⟩
    · rfl
    · change (w.insertDaemon row (.ok ())).2.inventory = _
      unfold World.insertDaemon
      split_ifs <;> rfl
  | updateDaemon row => cases r <;> rfl
  | _ => rfl

theorem Quiet.elsewhere {i : WorldOp V} (h : Quiet i) : Elsewhere i := by
  cases i with
  | inventory _ => exact h
  | _ => trivial

theorem only_newEntity {β : Type} (base : β) : Only Elsewhere (newEntity base : Task V (Inventory.Entity β)) :=
  ⟨trivial, fun _ => ⟨trivial, fun _ => trivial⟩⟩

theorem only_createDaemon (daemon : Daemon V) : Only Elsewhere (DaemonService.create daemon) := by
  have hcreate (row : Daemon V) : Only Elsewhere
      ((.op (WorldOp.createDaemon row) (fun r => (orFail r : Task V Unit).bind (fun _ => ret ())) : Task V Unit).bind
        (fun _ => (DaemonService.publish .created row false).bind (fun _ => ret row))) :=
    ⟨trivial, fun r => ((Only.orFail r).bind (f := fun _ => ret ()) (fun _ => trivial)).bind (fun _ => ⟨trivial, fun _ => trivial⟩)⟩
  unfold DaemonService.create
  split_ifs
  · exact (only_newEntity _).bind hcreate
  · exact hcreate daemon

theorem only_enterDaemon (hostId userId : Uuid) : Only Elsewhere (enterDaemon request hostId userId : Task V _) :=
  ⟨trivial, fun _ => (only_newEntity _).bind (fun daemon =>
    (only_createDaemon { daemon with id := request.daemonId }).attempt.bind (fun _ => Only.orFail _))⟩

theorem only_scheduleDaily (discoveryType : DiscoveryType) :
    Only Elsewhere (scheduleDaily request discoveryType : Task V Unit) := by
  refine (only_newEntity _).bind (fun entity => ?_)
  refine (Embedding.only_embed (fun _ => trivial) _ _).bind (fun created => ?_)
  exact (Embedding.only_embed (fun _ => trivial) _ _).bind (f := fun _ => ret ()) (fun _ => trivial)

/-- The registration of a new daemon enters a host into the network of the body. -/
theorem granted_register (auth : Events.AuthenticatedEntity) (organization : Organization)
    (hopen : Open w.inventory id request.networkId now) :
    Ensures worldStep (Granted id now) (fun _ w' => Enters w.inventory w'.inventory request.networkId)
      (register auth request organization) w := by
  rintro stamp - fresh hfresh
  refine Ensures.bind (p := inventory _) ?_
  refine (handles_inventory.ensures (I := fun _ => True) (fun _ _ _ h => h) (fun _ _ _ _ => trivial)
    (enters_discoverHost ⟨fresh, stamp, stamp, dummyHost request⟩ hopen hfresh rfl) trivial).imp ?_
  rintro (e | response) w' ⟨-, _, -, henters⟩
  · exact henters
  · refine Ensures.of_only (P := Elsewhere)
      (I := fun v : World V => Enters w.inventory v.inventory request.networkId)
      (fun v i r hi hv => (inventory_worldStep (w := v) hi r).symm ▸ hv) ?_ henters
    refine ((only_maintainer organization.id).imp (fun _ => Quiet.elsewhere)).bind (fun userId => ?_)
    refine (only_enterDaemon _ userId).bind (fun registered => ?_)
    refine ((only_reportRegistration auth).imp (fun _ => Quiet.elsewhere)).bind (fun _ => ?_)
    refine (only_scheduleDaily _).bind (fun _ => ?_)
    exact (Only.when _ (only_scheduleDaily _)).bind (fun _ => (only_scheduleDaily _).bind (fun _ => trivial))

/-- Where not every id is taken by a host of another network, one is free for a host of this one. -/
theorem exists_open {networkId : Uuid} (h : ¬ w.Crowded networkId) : ∃ id now, Open w.inventory id networkId now := by
  simp only [World.Crowded, not_forall, not_exists, not_and, not_not] at h
  obtain ⟨id, hid⟩ := h
  by_cases hstored : ∃ r ∈ w.inventory.hosts.rows, r.id = id
  · obtain ⟨r, hr, hrid⟩ := hstored
    refine ⟨id, r.updatedAt + 1, fun x hx hxid => ⟨hid x hx hxid, ?_⟩⟩
    rw [Inventory.eq_of_id_eq (k := .host) hx hr (hxid.trans hrid.symm)]
    exact (Int.lt_succ _).ne
  · exact ⟨id, 0, fun x hx hxid => absurd ⟨x, hx, hxid⟩ hstored⟩

/-- A registration touches nothing outside the network of its key if and only if it is refused or proper. -/
theorem registerDaemon_stays_iff (n apiKeyId daemonId : Uuid) (request : DaemonRegistrationRequest) (w : World V) :
    (∀ ω, StaysIn n w (run worldStep ω 0 (registerDaemon (.daemon n apiKeyId daemonId) request) w).state) ↔
      (w.registrable request.networkId ≠ none → Proper n request w) := by
  constructor
  · intro h hregistrable
    obtain ⟨organization, horganization⟩ := Option.ne_none_iff_exists'.mp hregistrable
    have hgranted (id : Uuid) (now : Instant) {post : World V → Prop} {p : Task V (DaemonRegistrationResponse V)}
        (hpost : Ensures worldStep (Granted id now) (fun _ w' => post w') p w)
        (hp : (∃ existing, w.daemon request.daemonId = some existing ∧ p = reregister request existing) ∨
          w.daemon request.daemonId = none ∧ p = register (.daemon n apiKeyId daemonId) request organization) :
        ∃ w', StaysIn n w w' ∧ post w' := by
      have hwhole : Ensures worldStep (Granted id now) (fun _ w' => post w')
          (registerDaemon (.daemon n apiKeyId daemonId) request) w := by
        apply Ensures.bind
        apply (granted_registrable horganization).imp
        rintro _ w' ⟨rfl, rfl⟩
        rintro _ rfl
        change Ensures worldStep _ _ (Program.bind (orFail (.ok (w'.daemon request.daemonId))) _) w'
        rcases hp with ⟨existing, hdaemon, rfl⟩ | ⟨hdaemon, rfl⟩
        · rw [hdaemon]
          exact hpost
        · rw [hdaemon]
          exact hpost
      exact ⟨_, h (fun _ => grant id now), hwhole.run (answered_of_forall (fun _ _ _ => rfl) 0 _ w)⟩
    unfold Proper
    cases hdaemon : w.daemon request.daemonId with
    | some existing =>
      obtain ⟨w', hstays, hgone⟩ := hgranted Uuid.nil _
        (granted_reregister hdaemon (Int.lt_succ existing.updatedAt).ne) (.inl ⟨existing, hdaemon, rfl⟩)
      exact hstays.daemons.gone existing (List.mem_of_find?_eq_some hdaemon) hgone
    | none =>
      by_contra hnot
      rw [not_or] at hnot
      obtain ⟨id, now, hopen⟩ := exists_open hnot.2
      obtain ⟨w', hstays, entered, hmem, hnew, hnetwork⟩ :=
        hgranted id now (granted_register _ organization hopen) (.inr ⟨hdaemon, rfl⟩)
      exact hnot.1 (hnetwork ▸ hstays.hosts.come entered hmem hnew)
  · intro hproper ω
    exact (ensures_registerDaemon hproper).run_any ω 0

end world

/-- A library with the one version 0. -/
def unversioned : Semver where
  Version := Unit
  decEq := inferInstance
  parse _ := none
  toText _ := ""
  lt _ _ := false
  new _ _ _ := ()
  current := ()

def scanner (url : String) : DaemonBase unversioned :=
  ⟨30, 2, url, 0, ⟨false, []⟩, .push, "scanner", [], none, 7⟩

/-- Two networks of an organization, and a daemon in the second one. -/
def twoNetworks : World unversioned where
  inventory := .empty
  discovery := .empty
  daemons := ⟨[⟨20, 0, 0, scanner "http://second.example"⟩], List.pairwise_singleton _ _⟩
  networks := [⟨1, 5⟩, ⟨2, 5⟩]
  organizations := [⟨5, some .community, []⟩]

/-- With a key of the first network, the daemon of the second one gets another address. -/
theorem registerDaemon_strays : ¬ ∀ (n apiKeyId daemonId : Uuid) (request : DaemonRegistrationRequest)
    (w : World unversioned) (ω : Oracle (worldSig unversioned)),
    StaysIn n w (run worldStep ω 0 (registerDaemon (.daemon n apiKeyId daemonId) request) w).state := by
  intro h
  have hstays := h 1 40 20 ⟨20, 2, "scanner", "http://elsewhere.example", .push, ⟨false, []⟩, 7, none⟩ twoNetworks
    (fun _ => grant 50 1)
  have hnetwork := hstays.daemons.gone ⟨20, 0, 0, scanner "http://second.example"⟩ (List.mem_singleton_self _)
    (by decide +kernel)
  exact absurd hnetwork (by decide)

end VantageNet.Daemons
