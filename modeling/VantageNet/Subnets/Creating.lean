import VantageNet.Interaction.Ensures
import VantageNet.Interaction.Table
import VantageNet.Subnets.Types

/-!
`SubnetService::create` (`subnets/service.rs`), one call after another. The events it publishes are left out: `publish_entity`
always answers `Ok`.
-/

namespace VantageNet.Subnets

open Interaction Interaction.Program Inventory

inductive Failure where
  | storage
  | missingMetadata
  deriving DecidableEq

abbrev Rows := Table Subnet (fun a b => a.id ≠ b.id)

inductive SubnetOp where
  | newV4
  | utcNow
  | getAll (networkId : Uuid)
  | create (row : Subnet)

@[reducible]
def SubnetOp.Reply : SubnetOp → Type
  | .newV4 => Uuid
  | .utcNow => Instant
  | .getAll _ => Except Failure (List Subnet)
  | .create _ => Except Failure Unit

abbrev subnetSig : Signature := ⟨SubnetOp, SubnetOp.Reply⟩

/-- The subnets of a network by `created_at`. -/
def ofNetwork (s : Rows) (networkId : Uuid) (proposed : List Subnet) : List Subnet :=
  arrange (fun r => r.createdAt) (s.rows.filter (fun r => r.base.networkId = networkId)) proposed

def subnetStep : Handler subnetSig Rows
  | .getAll networkId, (a : Except Failure (List Subnet)), s => (a.map (ofNetwork s networkId), s)
  | .create _, .error e, s => (.error e, s)
  | .create row, .ok _, s => if h : ∀ r ∈ s.rows, r.id ≠ row.id then (.ok (), s.insert row h) else (.error .storage, s)
  | .newV4, a, s => (a, s)
  | .utcNow, a, s => (a, s)

abbrev Task := Program subnetSig Failure

/-- `Subnet::new`. -/
def newSubnet (base : SubnetBase) : Task Subnet :=
  .op SubnetOp.newV4 (fun id => .op SubnetOp.utcNow (fun now => .ret ⟨id, now, now, base⟩))

def identified (subnet : Subnet) : Task Subnet := if subnet.id = Uuid.nil then newSubnet subnet.base else ret subnet

/-- Docker networks of different hosts may have one range. -/
def sameOrigin (a b : DiscoveryMetadata) : Bool :=
  match a.discoveryType, b.discoveryType with
  | .docker hostId _, .docker otherHostId _ => hostId = otherHostId
  | _, _ => true

/-- The guard of the branch that returns the existing subnet. -/
def returnsExisting (existing subnet : Subnet) : Except Failure Bool :=
  match existing.base.source, subnet.base.source with
  | .discovery existingMetadata, .discovery metadata =>
    match metadata with
    | m :: _ => .ok (existingMetadata.any (sameOrigin m))
    | [] => .error .missingMetadata
  | .system, _ | _, .system => .ok false
  | _, _ => .ok true

def insert (subnet : Subnet) : Task Subnet := .op (SubnetOp.create subnet) (fun r => (orFail r).bind (fun _ => ret subnet))

/-- The subnet that is returned for a new one, once the stored one that equals it is found or not. -/
def settle (subnet : Subnet) : Option Subnet → Task Subnet
  | some existing =>
    (orFail (returnsExisting existing subnet)).bind (fun returns => if returns then ret existing else insert subnet)
  | none => insert subnet

def create (subnet : Subnet) : Task Subnet := do
  let allSubnets ← .op (SubnetOp.getAll subnet.base.networkId) orFail
  let subnet ← identified subnet
  settle subnet (allSubnets.find? (fun s => subnet.eq s))

structure Served where
  subnet : Subnet
  answers : Oracle subnetSig

def outcome (s : Rows) (e : Served) : Outcome Failure Subnet Rows := run subnetStep e.answers 0 (create e.subnet) s

def serve (s : Rows) (e : Served) : Rows := (outcome s e).state

/-- The id that the subnet has or gets. -/
def Served.id (e : Served) : Uuid := if e.subnet.id = Uuid.nil then e.answers 1 .newV4 else e.subnet.id

/-- The host whose Docker a discovered subnet is of. -/
def origin (s : Subnet) : Option Uuid :=
  match s.base.source with
  | .discovery (m :: _) =>
    match m.discoveryType with
    | .docker hostId _ => some hostId
    | _ => none
  | _ => none

/-- Subnets of one range that Docker discoveries of one host have found. -/
def Twins (a b : Subnet) : Prop :=
  a.base.networkId = b.base.networkId ∧ a.base.cidr = b.base.cidr ∧ (origin a).isSome = true ∧ origin a = origin b

instance (a b : Subnet) : Decidable (Twins a b) := inferInstanceAs (Decidable (_ ∧ _))

def Unmultiplied (s : Rows) : Prop := s.rows.Pairwise (fun a b => ¬ Twins a b)

instance (s : Rows) : Decidable (Unmultiplied s) := inferInstanceAs (Decidable (s.rows.Pairwise _))

/-- The call returns the id of the subnet that is there already, and afterwards no subnet of Docker is there twice. -/
def Distinguishes (s : Rows) (e : Served) : Prop :=
  Unmultiplied (serve s e) ∧
    ∀ existing ∈ s.rows, Twins existing e.subnet → ∀ created, (outcome s e).result = .ok created → created.id = existing.id

/-- A twin of the subnet is older than the other subnets that the call may take for it. -/
def Foremost (s : Rows) (e : Served) : Prop :=
  ∀ existing ∈ s.rows, Twins existing e.subnet → ∀ other ∈ s.rows, other.id ≠ existing.id →
    other.base.networkId = e.subnet.base.networkId → other.base.cidr = e.subnet.base.cidr ∨ other.id = e.id →
    existing.createdAt < other.createdAt

instance (s : Rows) (e : Served) : Decidable (Foremost s e) :=
  inferInstanceAs (Decidable (∀ existing ∈ s.rows, _ → ∀ other ∈ s.rows, _ → _ → _ → _))

theorem origin_eq_some {s : Subnet} {hostId : Uuid} : origin s = some hostId ↔
    ∃ m ms fallback, s.base.source = .discovery (m :: ms) ∧ m.discoveryType = .docker hostId fallback := by
  unfold origin
  constructor
  · intro h
    split at h
    · next m ms hsource =>
      split at h
      · next host fallback htype =>
        obtain rfl := Option.some.inj h
        exact ⟨m, ms, fallback, hsource, htype⟩
      · exact nomatch h
    · exact nomatch h
  · rintro ⟨m, ms, fallback, hsource, htype⟩
    rw [hsource]
    dsimp only
    rw [htype]

theorem returnsExisting_of_twins {existing subnet : Subnet} (h : Twins existing subnet) :
    returnsExisting existing subnet = .ok true := by
  obtain ⟨-, -, hsome, horigin⟩ := h
  obtain ⟨hostId, hhost⟩ := Option.isSome_iff_exists.mp hsome
  obtain ⟨m, ms, fallback, hsource, htype⟩ := origin_eq_some.mp hhost
  obtain ⟨m', ms', fallback', hsource', htype'⟩ := origin_eq_some.mp (horigin ▸ hhost)
  simp [returnsExisting, hsource, hsource', sameOrigin, htype, htype']

/-- A twin that is older than the others is the first that is found. -/
theorem find?_twin {rows : List Subnet} {subnet existing : Subnet}
    (hsorted : rows.Pairwise (fun a b => a.createdAt ≤ b.createdAt))
    (hmem : existing ∈ rows) (htwins : Twins existing subnet)
    (hforemost : ∀ other ∈ rows, other ≠ existing → subnet.eq other = true → existing.createdAt < other.createdAt) :
    rows.find? (fun s => subnet.eq s) = some existing := by
  have heq : subnet.eq existing = true := by simp [Subnet.eq, htwins.1, htwins.2.1]
  cases hfind : rows.find? (fun s => subnet.eq s) with
  | none => exact absurd heq (List.find?_eq_none.mp hfind existing hmem)
  | some found =>
    obtain ⟨hfound, before, after, rfl, hbefore⟩ := List.find?_eq_some_iff_append.mp hfind
    by_contra hne
    replace hne : found ≠ existing := fun h => hne (congrArg some h)
    have hafter : existing ∈ after := by
      rcases List.mem_append.mp hmem with hmem | hmem
      · exact absurd heq (by simpa using hbefore existing hmem)
      · exact (List.mem_cons.mp hmem).resolve_left (Ne.symm hne)
    have hle : found.createdAt ≤ existing.createdAt :=
      (List.pairwise_cons.mp (List.pairwise_append.mp hsorted).2.1).1 existing hafter
    have hlt := hforemost found (by simp) hne hfound
    exact absurd hlt (not_lt.mpr hle)

variable {s : Rows} {subnet : Subnet}

theorem eq_of_id_eq {a b : Subnet} (ha : a ∈ s.rows) (hb : b ∈ s.rows) (h : a.id = b.id) : a = b :=
  s.eq_of_key_eq (fun _ _ hne => hne) ha hb h

theorem ensures_insert (h : Unmultiplied s) (hnone : ∀ existing ∈ s.rows, ¬ Twins existing subnet) :
    Ensures subnetStep (fun _ _ _ => True) (fun _ t => Unmultiplied t) (insert subnet) s := by
  intro answer _
  cases answer with
  | error e => exact h
  | ok u =>
    unfold subnetStep
    dsimp only
    split_ifs
    · exact List.pairwise_append.mpr ⟨h, List.pairwise_singleton _ _,
        fun a ha b hb => List.mem_singleton.mp hb ▸ hnone a ha⟩
    · exact h

theorem ensures_settle (h : Unmultiplied s) {found : Option Subnet}
    (htwin : ∀ existing ∈ s.rows, Twins existing subnet → found = some existing) :
    Ensures subnetStep (fun _ _ _ => True) (fun r t => Unmultiplied t ∧ ∀ existing ∈ s.rows, Twins existing subnet →
      ∀ created, r = .ok created → created.id = existing.id) (settle subnet found) s := by
  have hinsert (hnone : ∀ existing ∈ s.rows, ¬ Twins existing subnet) :
      Ensures subnetStep (fun _ _ _ => True) (fun r t => Unmultiplied t ∧ ∀ existing ∈ s.rows, Twins existing subnet →
        ∀ created, r = .ok created → created.id = existing.id) (insert subnet) s :=
    (ensures_insert h hnone).imp (fun _ _ ht => ⟨ht, fun existing hmem htwins => absurd htwins (hnone existing hmem)⟩)
  cases found with
  | none => exact hinsert (fun existing hmem htwins => nomatch htwin existing hmem htwins)
  | some f =>
    dsimp only [settle]
    cases hreturns : returnsExisting f subnet with
    | error e => exact ⟨h, fun _ _ _ _ heq => (nomatch heq)⟩
    | ok returns =>
      cases returns with
      | true =>
        refine ⟨h, fun existing hmem htwins created hcreated => ?_⟩
        obtain rfl := Except.ok.inj hcreated
        rw [Option.some.inj (htwin existing hmem htwins)]
      | false =>
        refine hinsert (fun existing hmem htwins => ?_)
        obtain rfl := Option.some.inj (htwin existing hmem htwins)
        rw [returnsExisting_of_twins htwins] at hreturns
        exact nomatch hreturns

theorem Unmultiplied.create {e : Served} (h : Unmultiplied s) (hforemost : Foremost s e) : Distinguishes s e := by
  suffices houtcome : Unmultiplied (outcome s e).state ∧ ∀ existing ∈ s.rows, Twins existing e.subnet →
      ∀ created, (outcome s e).result = .ok created → created.id = existing.id from houtcome
  have hfound (proposed : List Subnet) (subnet : Subnet) (hbase : subnet.base = e.subnet.base)
    (hid : subnet.id = e.id) :
      ∀ existing ∈ s.rows, Twins existing subnet → (ofNetwork s e.subnet.base.networkId proposed).find?
        (fun s => subnet.eq s) = some existing := by
    intro existing hmem htwins
    have hperm := arrange_perm (fun r : Subnet => r.createdAt)
      (s.rows.filter (fun r => r.base.networkId = e.subnet.base.networkId)) proposed
    refine find?_twin (arrange_sorted _ _ _) (hperm.mem_iff.mpr (List.mem_filter.mpr ⟨hmem, ?_⟩)) htwins ?_
    · rw [← hbase]
      exact decide_eq_true htwins.1
    · intro other hother hne heq
      obtain ⟨hother, hnetwork⟩ := List.mem_filter.mp (hperm.mem_iff.mp hother)
      refine hforemost existing hmem ?_ other hother (fun hsame => hne (eq_of_id_eq hother hmem hsame))
        (of_decide_eq_true hnetwork) ?_
      · unfold Twins origin at htwins ⊢
        rwa [hbase] at htwins
      · simp only [Subnet.eq, Bool.or_eq_true, Bool.and_eq_true, decide_eq_true_eq, hbase, hid] at heq
        exact heq.imp (fun h => h.1.symm) Eq.symm
  have hsettle (proposed : List Subnet) (n : ℕ) (subnet : Subnet) (hbase : subnet.base = e.subnet.base)
    (hid : subnet.id = e.id) :
      let found := (ofNetwork s e.subnet.base.networkId proposed).find? (fun s => subnet.eq s)
      Unmultiplied (run subnetStep e.answers n (settle subnet found) s).state ∧ ∀ existing ∈ s.rows,
        Twins existing e.subnet →
        ∀ created, (run subnetStep e.answers n (settle subnet found) s).result = .ok created →
          created.id = existing.id := by
    have hpost := (ensures_settle h (hfound proposed subnet hbase hid)).run_any e.answers n
    unfold Twins origin at hpost ⊢
    rwa [hbase] at hpost
  cases hanswer : e.answers 0 (.getAll e.subnet.base.networkId) with
  | error failure =>
    have houtcome : outcome s e = ⟨.error failure, 1, s⟩ := by
      change run subnetStep e.answers 1 ((orFail ((e.answers 0 (.getAll e.subnet.base.networkId)).map _)).bind _) s = _
      rw [hanswer]
      rfl
    rw [houtcome]
    exact ⟨h, fun _ _ _ _ heq => (nomatch heq)⟩
  | ok proposed =>
    have houtcome : outcome s e = run subnetStep e.answers 1 ((identified e.subnet).bind (fun subnet => settle subnet
        ((ofNetwork s e.subnet.base.networkId proposed).find? (fun s => subnet.eq s)))) s := by
      change run subnetStep e.answers 1 ((orFail ((e.answers 0 (.getAll e.subnet.base.networkId)).map _)).bind _) s = _
      rw [hanswer]
      rfl
    rw [houtcome]
    unfold identified
    split_ifs with hnil
    · exact hsettle proposed 3 ⟨e.answers 1 .newV4, e.answers 2 .utcNow, e.answers 2 .utcNow, e.subnet.base⟩ rfl
        (if_pos hnil).symm
    · exact hsettle proposed 1 e.subnet rfl (if_neg hnil).symm

/-- As long as a subnet of Docker that is created once more is older than those it may be taken for, none is there twice. -/
theorem docker_subnets_stay_single (s : Rows) (h : Unmultiplied s) (calls : List Served)
    (hforemost : Meets serve Foremost s calls) :
    Meets serve Distinguishes s calls := by
  refine hforemost.each Unmultiplied (fun t e ht he => ?_) h
  have hdistinguishes := ht.create he
  exact ⟨hdistinguishes.1, hdistinguishes⟩

def bridge (hostId : Uuid) : Subnet :=
  ⟨0, 0, 0, ⟨⟨.v4 (0xAC110000#32), 16⟩, 9, "docker0", none, .dockerBridge, .discovery [⟨.docker hostId .bestService, 3, 0⟩], []⟩⟩

/-- The host's Docker reports its bridge at this time. -/
def reports (hostId id : Uuid) (now : Instant) : Served where
  subnet := bridge hostId
  answers
    | _, .newV4 => id
    | _, .utcNow => now
    | _, .getAll _ => .ok []
    | _, .create _ => .ok ()

theorem docker_subnets_of_two_hosts : Meets serve Distinguishes .empty
    [reports 1 10 100, reports 1 11 101, reports 2 12 102] :=
  docker_subnets_stay_single .empty .nil _ (by decide +kernel)

/-- Whoever comes second is taken for nobody. -/
theorem docker_subnet_multiplies : ¬ ∀ calls : List Served,
    (∀ e ∈ calls, e.subnet.base.source.isDiscovery = true) → Meets serve Distinguishes .empty calls := by
  intro h
  have hdistinguishes := (h [reports 1 10 100, reports 2 11 101, reports 2 12 102] (by decide)).2.2.1
  exact absurd hdistinguishes.1 (by decide +kernel)

end VantageNet.Subnets
