import VantageNet.Billing.Webhooks
import VantageNet.Interaction.Ensures

/-!
What becomes of an organization when the provider delivers its events in any order and any
number of times.
-/

namespace VantageNet.Billing

open Interaction Interaction.Program BillingService

/-- How many networks a plan leaves. -/
def networkLimit (plan : BillingPlan) : Option ℕ :=
  match plan.config.includedNetworks, plan.config.networkCents with
  | some includedNetworks, none => some ((toUsize includedNetworks).getD 3)
  | _, _ => none

/-- The other networks of its organization that were there when the network was created. -/
def older (db : Db) (network : Network) : List Network :=
  (db.networksOf network.base.organizationId).filter (fun n => n.id ≠ network.id && decide (n.createdAt ≤ network.createdAt))

/-- The network is one of the oldest that the plan leaves. -/
def Allows (plan : Option BillingPlan) (db : Db) (network : Network) : Prop :=
  ∀ limit ∈ plan.bind networkLimit, (older db network).length < limit

section trimming

variable {s t : Db}

theorem older_sublist (h : t.networks.rows.Sublist s.networks.rows) (network : Network) :
    (older t network).Sublist (older s network) := (h.filter _).filter _

/-- What comes after the first of them in the order of their creation has at least that many before it. -/
theorem le_length_older {listed : List Network} {network : Network} {limit : ℕ}
    (hperm : listed.Perm (s.networksOf network.base.organizationId))
    (hsorted : listed.Pairwise (fun a b => a.createdAt ≤ b.createdAt)) (hmem : network ∈ listed)
    (hnot : network.id ∉ (listed.take limit).map (fun n => n.id)) : limit ≤ (older s network).length := by
  have hsplit := List.take_append_drop limit listed
  have hdrop : network ∈ listed.drop limit := by
    rw [← hsplit] at hmem
    exact (List.mem_append.mp hmem).resolve_left (fun htake => hnot (List.mem_map_of_mem htake))
  have hlength : (listed.take limit).length = limit := by
    have hpos := List.length_pos_of_mem hdrop
    rw [List.length_drop] at hpos
    rw [List.length_take]
    omega
  have hbefore : ∀ n ∈ listed.take limit, (n.id ≠ network.id && decide (n.createdAt ≤ network.createdAt)) = true := by
    intro n hn
    rw [← hsplit] at hsorted
    have hle := (List.pairwise_append.mp hsorted).2.2 n hn network hdrop
    have hne : n.id ≠ network.id := fun h => hnot (h ▸ List.mem_map_of_mem hn)
    simp [hle, hne]
  calc limit = ((listed.take limit).filter _).length := by rw [List.filter_eq_self.mpr hbefore, hlength]
    _ ≤ (listed.filter _).length := ((List.take_sublist limit listed).filter _).length_le
    _ = (older s network).length := (hperm.filter _).length_eq

/-- The organizations are as they were, and the networks that are gone are more than the limit leaves. -/
structure Trimmed (organizationId : Uuid) (limit : Option ℕ) (s t : Db) : Prop where
  organizations : t.organizations = s.organizations
  networks : t.networks.rows.Sublist s.networks.rows
  excess : ∀ n ∈ s.networks.rows, n ∉ t.networks.rows →
    n.base.organizationId = organizationId ∧ ∃ l ∈ limit, l ≤ (older s n).length

theorem Trimmed.refl (organizationId : Uuid) (limit : Option ℕ) (s : Db) : Trimmed organizationId limit s s :=
  ⟨rfl, .refl _, fun _ hn hnot => absurd hn hnot⟩

abbrev Leads {α : Type} (post : Except Failure α → Db → Prop) (p : Task α) (s : Db) : Prop :=
  Ensures billingStep (fun _ _ _ => True) post p s

theorem leads_delete (networkId : Uuid) (authentication : Events.AuthenticatedEntity) :
    Leads (fun _ t => t = s ∨ t = s.removeNetwork networkId) (NetworkService.delete networkId authentication) s := by
  intro r _
  rcases r with e | found
  · exact .inl rfl
  · rw [show (billingStep (.getNetwork networkId) (.ok found) s).1 = .ok (s.networks.rows.find? (fun n => n.id = networkId)) from rfl]
    cases s.networks.rows.find? (fun n => n.id = networkId) with
    | none => exact .inl rfl
    | some network =>
      intro r _
      rcases r with e | _
      · exact .inl rfl
      · exact fun _ _ _ _ _ _ => .inr rfl

theorem Trimmed.remove {organizationId : Uuid} {limit : Option ℕ} {network : Network}
    (h : Trimmed organizationId limit s t) (hmem : network ∈ s.networksOf organizationId)
    (hexcess : ∃ l ∈ limit, l ≤ (older s network).length) :
    Trimmed organizationId limit s (t.removeNetwork network.id) := by
  obtain ⟨hstored, horganization⟩ := List.mem_filter.mp hmem
  refine ⟨h.organizations, List.filter_sublist.trans h.networks, fun n hn hnot => ?_⟩
  by_cases hkept : n ∈ t.networks.rows
  · have hid : n.id = network.id := by
      by_contra hid
      exact hnot (List.mem_filter.mpr ⟨hkept, by simpa using hid⟩)
    rw [s.networks.eq_of_key_eq (fun _ _ hne => hne) hn hstored hid]
    exact ⟨of_decide_eq_true horganization, hexcess⟩
  · exact h.excess n hn hkept

theorem leads_removeExcess (organizationId : Uuid) (plan : BillingPlan) :
    Leads (fun _ t => Trimmed organizationId (networkLimit plan) s t) (removeExcess organizationId plan) s := by
  unfold removeExcess networkLimit
  cases plan.config.includedNetworks with
  | none => exact Trimmed.refl _ _ s
  | some includedNetworks =>
    cases plan.config.networkCents with
    | some networkCents => exact Trimmed.refl _ _ s
    | none =>
      intro r _
      rcases r with e | proposed
      · exact Trimmed.refl _ _ s
      · have hperm := arrange_perm (fun n : Network => n.createdAt) (s.networksOf organizationId) proposed
        have hsorted := arrange_sorted (fun n : Network => n.createdAt) (s.networksOf organizationId) proposed
        refine Ensures.forEach (fun _ t => Trimmed organizationId _ s t) _ (fun done network rest hlisted t ht => ?_)
          (Trimmed.refl _ _ s) (fun _ h => h)
        have hmem : network ∈ arrange (fun n : Network => n.createdAt) (s.networksOf organizationId) proposed := by
          change arrange _ _ proposed = _ at hlisted
          rw [hlisted]
          exact List.mem_append_cons_self
        cases hkeep : List.contains _ network.id with
        | true => exact ht
        | false =>
          have hexcess : (toUsize includedNetworks).getD 3 ≤ (older s network).length := by
            have horganization := (List.mem_filter.mp (hperm.mem_iff.mp hmem)).2
            rw [← of_decide_eq_true horganization] at hperm hsorted hmem hkeep
            refine le_length_older hperm hsorted hmem (fun htaken => ?_)
            rw [List.contains_iff_mem.mpr htaken] at hkeep
            cases hkeep
          have hremoved := ht.remove (hperm.mem_iff.mp hmem) ⟨_, rfl, hexcess⟩
          apply (leads_delete network.id .system).imp
          rintro (e | _) u (rfl | rfl)
          · exact ht
          · exact hremoved
          · exact ht
          · exact hremoved

theorem leads_revokeOrgInvites (organizationId : Uuid) :
    Leads (fun _ t => Trimmed organizationId none s t) (revokeOrgInvites organizationId) s := by
  intro r _
  rcases r with e | _
  · exact .refl _ _ s
  · change Leads _ (when _ _) s
    cases List.isEmpty _ with
    | true => exact Trimmed.refl _ _ s
    | false =>
      intro r _
      rcases r with e | _
      · exact Trimmed.refl _ _ s
      · exact ⟨rfl, .refl _, fun _ hn hnot => absurd hn hnot⟩

end trimming

section saying

variable (S : Stripe)

/-- The organization that a subscription is for, and its plan. -/
def subscribed (sub : Subscription S.Status) : Option (Uuid × Option BillingPlan) := do
  let orgId ← sub.metadata "organization_id"
  let planStr ← sub.metadata "plan"
  let plan ← S.planFromStr planStr
  let orgId ← S.parseUuid orgId
  some (orgId, some plan)

def unsubscribed (sub : Subscription S.Status) : Option (Uuid × Option BillingPlan) := do
  let orgId ← sub.metadata "organization_id"
  let orgId ← S.parseUuid orgId
  some (orgId, none)

/-- The organization that an event is about and the plan that it says it has from then on. -/
def announced (event : StripeEvent S.Status) : Option (Uuid × Option BillingPlan) :=
  match event.type, event.object with
  | .customerSubscriptionCreated, .customerSubscriptionCreated sub => subscribed S sub
  | .customerSubscriptionCreated, .customerSubscriptionUpdated sub => subscribed S sub
  | .customerSubscriptionUpdated, .customerSubscriptionCreated sub => subscribed S sub
  | .customerSubscriptionUpdated, .customerSubscriptionUpdated sub => subscribed S sub
  | .customerSubscriptionPaused, .customerSubscriptionDeleted sub => unsubscribed S sub
  | .customerSubscriptionDeleted, .customerSubscriptionDeleted sub => unsubscribed S sub
  | _, _ => none

/-- The plan that an event gives an organization when it is acknowledged. -/
def given (said : Option (Uuid × Option BillingPlan)) (result : Except Failure Unit) (id : Uuid) :
    Option (Option BillingPlan) :=
  match result, said with
  | .ok _, some (organizationId, plan) => if organizationId = id then some plan else none
  | _, _ => none

/-- What an event may do: it gives its organization the plan, and the networks that go are more than that leaves. -/
structure Applied (said : Option (Uuid × Option BillingPlan)) (result : Except Failure Unit) (s t : Db) : Prop where
  plans : ∀ o ∈ s.organizations.rows, ∃ o' ∈ t.organizations.rows, o'.id = o.id ∧
    o'.base.plan = (given said result o.id).getD o.base.plan
  networks : t.networks.rows.Sublist s.networks.rows
  excess : ∀ n ∈ s.networks.rows, n ∉ t.networks.rows → ∃ plan, said = some (n.base.organizationId, plan) ∧
    ∃ limit ∈ plan.bind networkLimit, limit ≤ (older s n).length

variable {S} {s t u : Db} {said : Option (Uuid × Option BillingPlan)} {result : Except Failure Unit}

/-- Nothing has been acknowledged about an organization that is stored. -/
theorem Applied.refl (h : ∀ o ∈ s.organizations.rows, given said result o.id = none) : Applied said result s s where
  plans := fun o ho => ⟨o, ho, rfl, by rw [h o ho]; rfl⟩
  networks := .refl _
  excess := fun _ hn hnot => absurd hn hnot

theorem Applied.after {organizationId : Uuid} {plan : Option BillingPlan}
    (h : Applied (some (organizationId, plan)) result t u) (htrimmed : Trimmed organizationId (plan.bind networkLimit) s t) :
    Applied (some (organizationId, plan)) result s u where
  plans := by
    rw [← htrimmed.organizations]
    exact h.plans
  networks := h.networks.trans htrimmed.networks
  excess := by
    intro n hn hnot
    by_cases hkept : n ∈ t.networks.rows
    · obtain ⟨plan, hsaid, limit, hlimit, hle⟩ := h.excess n hkept hnot
      exact ⟨plan, hsaid, limit, hlimit, hle.trans (older_sublist htrimmed.networks n).length_le⟩
    · obtain ⟨rfl, hexcess⟩ := htrimmed.excess n hn hkept
      exact ⟨plan, rfl, hexcess⟩

theorem leads_setPlan {organization : Organization} (planStatus : String) (plan : Option BillingPlan)
    (h : organization ∈ s.organizations.rows) :
    Leads (fun r t => Applied (some (organization.id, plan)) r s t) (setPlan organization planStatus plan) s := by
  have herror (e : Failure) : Applied (some (organization.id, plan)) (.error e) s s := Applied.refl (fun _ _ => rfl)
  intro r _
  rcases r with e | found
  · exact herror e
  · have hfind : s.organizations.rows.find? (fun o => o.id = organization.id) = some organization :=
      (s.organizations.find?_key_eq_some_iff (fun _ _ hne => hne)).mpr ⟨h, rfl⟩
    rw [show (billingStep (.getOrganization organization.id) (.ok found) s).1 =
      .ok (s.organizations.rows.find? (fun o => o.id = organization.id)) from rfl, hfind]
    intro updatedAt _ r _
    rcases r with e | _
    · exact herror e
    · intro _ _ _ _ _ _
      refine ⟨fun o ho => ?_, .refl _, fun _ hn hnot => absurd hn hnot⟩
      refine ⟨_, List.mem_map_of_mem ho, ?_⟩
      simp only [given]
      by_cases hid : o.id = organization.id
      · rw [if_pos hid, if_pos hid.symm]
        exact ⟨hid.symm, rfl⟩
      · rw [if_neg hid, if_neg (Ne.symm hid)]
        exact ⟨rfl, rfl⟩

/-- An operation that changes nothing that is stored. -/
def Quiet : BillingOp → Prop
  | .newV4 | .utcNow | .listOwners _ | .publish _ | .publishTelemetry _ => True
  | _ => False

theorem billingStep_of_quiet (s : Db) (i : BillingOp) (r : i.Reply) (hi : Quiet i) : (billingStep i r s).2 = s := by
  cases i <;> first | rfl | exact hi.elim

theorem quiet_reportSelection (organization : Organization) (plan : BillingPlan) (owners : List Accounts.User) :
    Only Quiet (reportSelection organization plan owners) := by
  unfold reportSelection
  cases owners.head? with
  | none => trivial
  | some owner => exact .when _ ⟨trivial, fun _ => ⟨trivial, fun _ => ⟨trivial, fun _ => trivial⟩⟩⟩

theorem given_eq_none {orgId : Uuid} {plan : Option BillingPlan}
    (h : s.organizations.rows.find? (fun o => o.id = orgId) = none) :
    ∀ o ∈ s.organizations.rows, given (some (orgId, plan)) result o.id = none := by
  intro o ho
  have hid : ¬ o.id = orgId := fun hid => List.find?_eq_none.mp h o ho (decide_eq_true hid)
  cases result with
  | error e => rfl
  | ok _ => exact if_neg (Ne.symm hid)

theorem leads_found {p : Option Organization → Task Unit} {orgId : Uuid} {post : Except Failure Unit → Db → Prop}
    (herror : ∀ e, post (.error e) s)
    (hnone : s.organizations.rows.find? (fun o => o.id = orgId) = none → Leads post (p none) s)
    (hsome : ∀ organization ∈ s.organizations.rows, organization.id = orgId → Leads post (p (some organization)) s) :
    Leads post ((OrganizationService.getById orgId).bind p) s := by
  intro r _
  rcases r with e | found
  · exact herror e
  · change Leads post (p (s.organizations.rows.find? (fun o => o.id = orgId))) s
    cases hfind : s.organizations.rows.find? (fun o => o.id = orgId) with
    | none => exact hnone hfind
    | some organization =>
      obtain ⟨hmem, hid⟩ := (s.organizations.find?_key_eq_some_iff (fun _ _ hne => hne)).mp hfind
      exact hsome organization hmem hid

theorem leads_subscribe (orgId : Uuid) (plan : BillingPlan) (planStatus : String) :
    Leads (fun r t => Applied (some (orgId, some plan)) r s t) ((OrganizationService.getById orgId).bind (fun found =>
      match found with
      | none => ret ()
      | some organization => do
        let owners ← getOrganizationOwners organization.id
        reportSelection organization plan owners
        removeExcess orgId plan
        setPlan organization planStatus (some plan))) s := by
  have herror (e : Failure) : Applied (some (orgId, some plan)) (.error e) s s := Applied.refl (fun _ _ => rfl)
  refine leads_found herror (fun hnone => Applied.refl (given_eq_none hnone)) ?_
  rintro organization hmem rfl
  have howners : Only Quiet (getOrganizationOwners organization.id) := ⟨trivial, fun r => .orFail r⟩
  refine Ensures.after billingStep_of_quiet howners herror (fun owners => ?_)
  refine Ensures.after billingStep_of_quiet (quiet_reportSelection organization plan owners) herror (fun _ => ?_)
  apply Ensures.bind
  apply (leads_removeExcess organization.id plan).imp
  rintro (e | _) t ht
  · exact (Applied.refl (fun _ _ => rfl)).after ht
  · exact (leads_setPlan planStatus (some plan) (ht.organizations ▸ hmem)).imp (fun _ _ h => h.after ht)

theorem leads_unsubscribe (orgId : Uuid) (planStatus : String) :
    Leads (fun r t => Applied (some (orgId, none)) r s t) ((OrganizationService.getById orgId).bind (fun found =>
      match found with
      | none => fail (.message "Could not find organization to update subscriptions status")
      | some organization => do
        revokeOrgInvites organization.id
        setPlan organization planStatus none)) s := by
  have herror (e : Failure) : Applied (some (orgId, none)) (.error e) s s := Applied.refl (fun _ _ => rfl)
  refine leads_found herror (fun _ => herror _) ?_
  rintro organization hmem rfl
  apply Ensures.bind
  apply (leads_revokeOrgInvites organization.id).imp
  rintro (e | _) t ht
  · exact (Applied.refl (fun _ _ => rfl)).after ht
  · exact (leads_setPlan planStatus none (ht.organizations ▸ hmem)).imp (fun _ _ h => h.after ht)

theorem leads_handleSubscriptionUpdate (sub : Subscription S.Status) :
    Leads (fun r t => Applied (subscribed S sub) r s t) (handleSubscriptionUpdate S sub) s := by
  have herror (said : Option (Uuid × Option BillingPlan)) (e : Failure) : Applied said (.error e) s s :=
    Applied.refl (fun _ _ => rfl)
  unfold handleSubscriptionUpdate subscribed organizationId planOf parsed
  cases sub.metadata "organization_id" with
  | none => exact herror _ _
  | some orgId =>
    cases sub.metadata "plan" with
    | none => exact herror _ _
    | some planStr =>
      cases hplan : S.planFromStr planStr with
      | none =>
        simp only [hplan]
        exact herror _ _
      | some plan =>
        simp only [bind_eq, ret_bind, Option.bind_eq_bind, Option.bind_some, hplan]
        cases S.parseUuid orgId with
        | none => exact herror _ _
        | some id => exact leads_subscribe id plan (S.statusToString sub.status)

theorem leads_handleSubscriptionDeleted (sub : Subscription S.Status) :
    Leads (fun r t => Applied (unsubscribed S sub) r s t) (handleSubscriptionDeleted S sub) s := by
  have herror (said : Option (Uuid × Option BillingPlan)) (e : Failure) : Applied said (.error e) s s :=
    Applied.refl (fun _ _ => rfl)
  unfold handleSubscriptionDeleted unsubscribed organizationId parsed
  cases sub.metadata "organization_id" with
  | none => exact herror _ _
  | some orgId =>
    simp only [bind_eq, ret_bind, Option.bind_eq_bind, Option.bind_some]
    cases S.parseUuid orgId with
    | none => exact herror _ _
    | some id => exact leads_unsubscribe id (S.statusToString S.canceled)

theorem leads_handleEvent (event : StripeEvent S.Status) :
    Leads (fun r t => Applied (announced S event) r s t) (handleEvent S event) s := by
  have hnone : Applied none (.ok ()) s s := Applied.refl (fun _ _ => rfl)
  obtain ⟨created, type, object⟩ := event
  cases type <;> cases object <;>
    first
    | exact hnone
    | exact leads_handleSubscriptionUpdate _
    | exact leads_handleSubscriptionDeleted _

/-- What a delivery brings: the event that the provider's library finds in it, if it finds one. -/
def delivered (S : Stripe) (webhookSecret payload signature : String) : Option (Uuid × Option BillingPlan) :=
  (S.constructEvent payload signature webhookSecret).bind (announced S)

theorem leads_handleWebhook (webhookSecret payload signature : String) :
    Leads (fun r t => Applied (delivered S webhookSecret payload signature) r s t)
      (handleWebhook S webhookSecret payload signature) s := by
  unfold handleWebhook delivered
  cases S.constructEvent payload signature webhookSecret with
  | none => exact Applied.refl (fun _ _ => rfl)
  | some event => exact leads_handleEvent event

end saying

section course

variable (S : Stripe) (webhookSecret : String)

structure Delivery where
  payload : String
  signature : String
  answers : Oracle billingSig

def Delivery.brings (d : Delivery) : Option (Uuid × Option BillingPlan) :=
  delivered S webhookSecret d.payload d.signature

/-- The database, and what the last event that was acknowledged has said of each organization. -/
structure Course where
  db : Db
  acknowledged : Uuid → Option (Option BillingPlan)

def Course.start (db : Db) : Course := ⟨db, fun _ => none⟩

def Course.outcome (c : Course) (d : Delivery) : Outcome Failure Unit Db :=
  run billingStep d.answers 0 (handleWebhook S webhookSecret d.payload d.signature) c.db

def Course.deliver (c : Course) (d : Delivery) : Course where
  db := (c.outcome S webhookSecret d).state
  acknowledged id := (given (d.brings S webhookSecret) (c.outcome S webhookSecret d).result id).or (c.acknowledged id)

/-- Every organization has the plan of the last event acknowledged about it, and no network is gone that all the
delivered plans allow. -/
structure Course.Follows (deliveries : List Delivery) (db : Db) (c : Course) : Prop where
  plans : ∀ o ∈ db.organizations.rows, ∃ o' ∈ c.db.organizations.rows, o'.id = o.id ∧
    o'.base.plan = (c.acknowledged o.id).getD o.base.plan
  networks : ∀ n ∈ db.networks.rows, (∀ d ∈ deliveries, ∀ plan,
    d.brings S webhookSecret = some (n.base.organizationId, plan) → Allows plan db n) → n ∈ c.db.networks.rows

theorem last_delivery_decides (db : Db) (deliveries : List Delivery) :
    Course.Follows S webhookSecret deliveries db (deliveries.foldl (Course.deliver S webhookSecret) (Course.start db)) := by
  suffices h : Course.Follows S webhookSecret deliveries db
        (deliveries.foldl (Course.deliver S webhookSecret) (Course.start db)) ∧
      (deliveries.foldl (Course.deliver S webhookSecret) (Course.start db)).db.networks.rows.Sublist db.networks.rows from h.1
  induction deliveries using List.reverseRecOn with
  | nil => exact ⟨⟨fun o ho => ⟨o, ho, rfl, rfl⟩, fun _ hn _ => hn⟩, .refl _⟩
  | append_singleton deliveries d ih =>
    rw [List.foldl_append, List.foldl_cons, List.foldl_nil]
    generalize deliveries.foldl (Course.deliver S webhookSecret) (Course.start db) = c at ih ⊢
    obtain ⟨hfollows, hsublist⟩ := ih
    have happlied := (leads_handleWebhook (S := S) (s := c.db) webhookSecret d.payload d.signature).run_any d.answers 0
    refine ⟨⟨fun o ho => ?_, fun n hn hallowed => ?_⟩, happlied.networks.trans hsublist⟩
    · obtain ⟨o₁, ho₁, hid₁, hplan₁⟩ := hfollows.plans o ho
      obtain ⟨o₂, ho₂, hid₂, hplan₂⟩ := happlied.plans o₁ ho₁
      refine ⟨o₂, ho₂, hid₂.trans hid₁, ?_⟩
      rw [hplan₂, hplan₁, hid₁]
      change _ = ((given (d.brings S webhookSecret) (c.outcome S webhookSecret d).result o.id).or
        (c.acknowledged o.id)).getD o.base.plan
      cases hgiven : given (d.brings S webhookSecret) (c.outcome S webhookSecret d).result o.id with
      | none => exact congrArg (fun g => Option.getD g _) hgiven
      | some plan => exact congrArg (fun g => Option.getD g _) hgiven
    · have hkept := hfollows.networks n hn (fun d' hd' => hallowed d' (List.mem_append_left _ hd'))
      by_contra hgone
      obtain ⟨plan, hsaid, limit, hlimit, hle⟩ := happlied.excess n hkept hgone
      have hlt := hallowed d (List.mem_append_right _ (List.mem_singleton_self d)) plan hsaid limit hlimit
      exact absurd (hle.trans (older_sublist hsublist n).length_le) (not_le.mpr hlt)

/-- What is expected of events that come out of order: the plan of the newest, and the networks that it allows. -/
def Reordered (organizationId : Uuid) (db : Db) (deliveries : List Delivery) : Prop :=
  ∀ newest ∈ deliveries, ∀ event plan,
    S.constructEvent newest.payload newest.signature webhookSecret = some event →
    announced S event = some (organizationId, plan) →
    (∀ d ∈ deliveries, ∃ e p, S.constructEvent d.payload d.signature webhookSecret = some e ∧
      announced S e = some (organizationId, p) ∧ e.created ≤ event.created) →
    Meets (Course.deliver S webhookSecret) (fun c d => (c.outcome S webhookSecret d).result = .ok ()) (Course.start db)
      deliveries →
    let after := (deliveries.foldl (Course.deliver S webhookSecret) (Course.start db)).db
    (∀ o ∈ after.organizations.rows, o.id = organizationId → o.base.plan = plan) ∧
      ∀ n ∈ db.networks.rows, n.base.organizationId = organizationId → Allows plan db n → n ∈ after.networks.rows

def starter : BillingPlan := .starter ⟨999, .month, 7, none, none, some 1, some 1⟩

def team : BillingPlan := .team ⟨3999, .month, 7, some 1000, some 800, some 5, some 5⟩

/-- A library for which a payload is the name of the plan, and the Team plan came after the Starter plan. -/
def twoPlans : Stripe where
  Status := Unit
  canceled := ()
  statusToString _ := "active"
  constructEvent payload _ _ := some ⟨if payload = "team" then 2 else 1, .customerSubscriptionUpdated,
    .customerSubscriptionUpdated ⟨(), fun key => some (if key = "plan" then payload else "9")⟩⟩
  planFromStr text := if text = "team" then some team else if text = "starter" then some starter else none
  parseUuid _ := some 9

def granted : Oracle billingSig
  | n, .newV4 => Fin.ofNat _ (1000 + n)
  | _, .utcNow => 5
  | _, .getOrganization _ | _, .getNetwork _ => .ok none
  | _, .updateOrganization _ | _, .deleteNetwork _ | _, .deleteInvites _ => .ok ()
  | _, .listOwners _ | _, .listNetworks _ | _, .listInvites _ => .ok []
  | _, .publish _ | _, .publishTelemetry _ => ()

/-- An organization with two networks. -/
def twoNetworks : Db where
  organizations := ⟨[⟨9, 0, 0, none, "Organization", none, none, []⟩], List.pairwise_singleton _ _⟩
  networks := ⟨[⟨20, 0, 0, "A", 9, []⟩, ⟨21, 1, 1, "B", 9, []⟩], by decide⟩
  invites := []

/-- The Starter event comes late: the organization is left with its plan and one network. -/
theorem webhooks_not_reordered : ¬ ∀ (S : Stripe) (webhookSecret : String) (organizationId : Uuid) (db : Db)
    (deliveries : List Delivery), Reordered S webhookSecret organizationId db deliveries := by
  intro h
  have hplan := (h twoPlans "" 9 twoNetworks [⟨"team", "", granted⟩, ⟨"starter", "", granted⟩] ⟨"team", "", granted⟩
    List.mem_cons_self _ _ rfl rfl ?_ (by decide +kernel)).1
  · revert hplan
    decide +kernel
  · intro d hd
    rcases List.mem_pair.mp hd with rfl | rfl
    · exact ⟨_, _, rfl, rfl, by decide⟩
    · exact ⟨_, _, rfl, rfl, by decide⟩

end course

end VantageNet.Billing
