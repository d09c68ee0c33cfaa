import VantageNet.Interaction.Ensures
import VantageNet.Topologies.Subscriber

/-!
What a batch of events does to the stored topologies, and what it matters whether the same
events come in one batch or in two.
-/

namespace VantageNet.Topologies

open Events Interaction Interaction.Program TopologyService

variable {R : Records}

abbrev Change (R : Records) := EntityEvent (Payload R) Metadata

/-- The event as a change of the network, if it is one. -/
def concerning (networkId : Uuid) : TopologyEvent R → Option (Change R)
  | .entity event =>
    if event.networkId = some networkId then
      match updatedTopology event with
      | some _ => none
      | none => some event
    else none
  | _ => none

/-- The changes of a network among the events. -/
def changesOf (networkId : Uuid) (events : List (TopologyEvent R)) : List (Change R) :=
  events.filterMap (concerning networkId)

def marked (changes : List (Change R)) : Bool := changes.any triggers

def cleared (changes : List (Change R)) : Bool := changes.any (fun event => !triggers event && clears event)

def Removes (changes : List (Change R)) (k : Kind) (id : Uuid) : Prop :=
  ∃ event ∈ changes, event.operation = .deleted ∧ kind event = some k ∧ event.entityId = id

/-- The flag after the changes: a topology that has been created wins over whatever else is in the batch. -/
def staleAfter (changes : List (Change R)) (isStale : Bool) : Bool := !cleared changes && (marked changes || isStale)

/-- The topology as the changes leave it. -/
structure Followed (changes : List (Change R)) (t u : Topology R) : Prop where
  id : u.id = t.id
  networkId : u.base.networkId = t.base.networkId
  isStale : u.base.isStale = staleAfter changes t.base.isStale
  removed : ∀ k, ∃ added, (u.base.removed k).Perm (t.base.removed k ++ added) ∧ added.Nodup ∧
    ∀ id, id ∈ added ↔ Removes changes k id ∧ id ∉ t.base.removed k

/-- A change that makes topologies of the network stale comes after one is created, in a later batch. -/
def Overtaken (networkId : Uuid) (e₁ e₂ : List (TopologyEvent R)) : Prop :=
  cleared (changesOf networkId e₁) = true ∧ marked (changesOf networkId e₂) = true ∧
    cleared (changesOf networkId e₂) = false

instance (networkId : Uuid) (e₁ e₂ : List (TopologyEvent R)) : Decidable (Overtaken networkId e₁ e₂) :=
  inferInstanceAs (Decidable (_ ∧ _ ∧ _))

/-- The same topology after one batch and after two. -/
structure Agree (e₁ e₂ : List (TopologyEvent R)) (u v : Topology R) : Prop where
  id : u.id = v.id
  removed : ∀ k, (u.base.removed k).Perm (v.base.removed k)
  isStale : ¬ Overtaken u.base.networkId e₁ e₂ → u.base.isStale = v.base.isStale
  overtaken : Overtaken u.base.networkId e₁ e₂ → u.base.isStale = false ∧ v.base.isStale = true

section changes

variable {changes changes' : List (Change R)} {t u v : Topology R}

@[simp]
theorem changesOf_append (networkId : Uuid) (e₁ e₂ : List (TopologyEvent R)) :
    changesOf networkId (e₁ ++ e₂) = changesOf networkId e₁ ++ changesOf networkId e₂ := List.filterMap_append

@[simp]
theorem marked_append : marked (changes ++ changes') = (marked changes || marked changes') := List.any_append

@[simp]
theorem cleared_append : cleared (changes ++ changes') = (cleared changes || cleared changes') := List.any_append

theorem removes_append {k : Kind} {id : Uuid} :
    Removes (changes ++ changes') k id ↔ Removes changes k id ∨ Removes changes' k id := by
  simp only [Removes, List.mem_append, or_and_right, exists_or]

theorem staleAfter_append (networkId : Uuid) (e₁ e₂ : List (TopologyEvent R)) (isStale : Bool) :
    staleAfter (changesOf networkId (e₁ ++ e₂)) isStale =
      if Overtaken networkId e₁ e₂ then false
      else staleAfter (changesOf networkId e₂) (staleAfter (changesOf networkId e₁) isStale) := by
  by_cases hover : Overtaken networkId e₁ e₂
  · rw [if_pos hover, staleAfter, changesOf_append, cleared_append, hover.1]
    rfl
  · rw [if_neg hover]
    revert hover
    simp only [staleAfter, Overtaken, changesOf_append, marked_append, cleared_append]
    cases cleared (changesOf networkId e₁) <;> cases cleared (changesOf networkId e₂) <;>
      cases marked (changesOf networkId e₂) <;> simp

theorem Followed.refl (t : Topology R) : Followed [] t t :=
  ⟨rfl, rfl, rfl, fun _ => ⟨[], by simp, .nil, by simp [Removes]⟩⟩

/-- The removed entities add up, whichever way the changes come. -/
theorem Followed.removed_trans (h : Followed changes t u) (h' : Followed changes' u v) (k : Kind) :
    ∃ added, (v.base.removed k).Perm (t.base.removed k ++ added) ∧ added.Nodup ∧
      ∀ id, id ∈ added ↔ Removes (changes ++ changes') k id ∧ id ∉ t.base.removed k := by
  obtain ⟨added, hperm, hnodup, hmem⟩ := h.removed k
  obtain ⟨added', hperm', hnodup', hmem'⟩ := h'.removed k
  have hlisted (id : Uuid) : id ∈ u.base.removed k ↔ id ∈ t.base.removed k ∨ id ∈ added := by
    rw [hperm.mem_iff, List.mem_append]
  refine ⟨added ++ added', ?_, ?_, fun id => ?_⟩
  · rw [← List.append_assoc]
    exact hperm'.trans (hperm.append_right added')
  · refine List.nodup_append'.mpr ⟨hnodup, hnodup', fun id hid hid' => ?_⟩
    exact ((hmem' id).mp hid').2 ((hlisted id).mpr (.inr hid))
  · rw [List.mem_append, hmem', hlisted, hmem, removes_append]
    tauto

/-- Two lists that extend the same one by the same entities agree. -/
theorem Followed.removed_perm (h : Followed changes t u) {removed : Kind → List Uuid} {k : Kind}
    (h' : ∃ added, (removed k).Perm (t.base.removed k ++ added) ∧ added.Nodup ∧
      ∀ id, id ∈ added ↔ Removes changes k id ∧ id ∉ t.base.removed k) : (u.base.removed k).Perm (removed k) := by
  obtain ⟨added, hperm, hnodup, hmem⟩ := h.removed k
  obtain ⟨added', hperm', hnodup', hmem'⟩ := h'
  have hsame : added.Perm added' := (List.perm_ext_iff_of_nodup hnodup hnodup').mpr (fun id => by rw [hmem, hmem'])
  exact hperm.trans ((hsame.append_left _).trans hperm'.symm)

/-- One batch against two. -/
theorem Followed.agree {e₁ e₂ : List (TopologyEvent R)} {w : Topology R}
    (h : Followed (changesOf t.base.networkId (e₁ ++ e₂)) t u) (h₁ : Followed (changesOf t.base.networkId e₁) t v)
    (h₂ : Followed (changesOf v.base.networkId e₂) v w) : Agree e₁ e₂ u w := by
  rw [h₁.networkId] at h₂
  have hstale : u.base.isStale = staleAfter (changesOf t.base.networkId (e₁ ++ e₂)) t.base.isStale := h.isStale
  rw [staleAfter_append, ← h₁.isStale, ← h₂.isStale] at hstale
  refine ⟨h.id.trans (h₂.id.trans h₁.id).symm, fun k => ?_, fun hnot => ?_, fun hover => ?_⟩
  · apply h.removed_perm
    rw [changesOf_append]
    exact h₁.removed_trans h₂ k
  · rw [h.networkId] at hnot
    rw [hstale, if_neg hnot]
  · rw [h.networkId] at hover
    refine ⟨by rw [hstale, if_pos hover], ?_⟩
    rw [h₂.isStale, staleAfter, hover.2.1, hover.2.2]
    rfl

end changes

section noting

theorem note_shouldMarkStale (c : TopologyChanges) (event : Change R) :
    (c.note event).shouldMarkStale = (c.shouldMarkStale || triggers event) := by
  have htrack : (c.trackRemoved event).shouldMarkStale = c.shouldMarkStale := by
    unfold TopologyChanges.trackRemoved
    split <;> rfl
  unfold TopologyChanges.note
  cases htriggers : triggers event with
  | true => simp
  | false =>
    cases clears event with
    | true => simp [htrack]
    | false => cases kind event <;> simp [htrack]

theorem note_clearStale (c : TopologyChanges) (event : Change R) :
    (c.note event).clearStale = (c.clearStale || (!triggers event && clears event)) := by
  have htrack : (c.trackRemoved event).clearStale = c.clearStale := by
    unfold TopologyChanges.trackRemoved
    split <;> rfl
  unfold TopologyChanges.note
  cases htriggers : triggers event with
  | true => simp [htrack]
  | false =>
    cases clears event with
    | true => simp
    | false => cases kind event <;> simp [htrack]

theorem note_removed (c : TopologyChanges) (event : Change R) : (c.note event).removed = (c.trackRemoved event).removed := by
  unfold TopologyChanges.note
  cases triggers event with
  | true => rfl
  | false =>
    cases clears event with
    | true => rfl
    | false => cases kind event <;> rfl

theorem mem_trackRemoved {c : TopologyChanges} {event : Change R} {k : Kind} {id : Uuid} :
    id ∈ (c.trackRemoved event).removed k ↔ id ∈ c.removed k ∨
      event.operation = .deleted ∧ kind event = some k ∧ event.entityId = id := by
  unfold TopologyChanges.trackRemoved
  split
  · next k' hop hkind =>
    rw [hop, hkind]
    rcases eq_or_ne k k' with rfl | hne
    · simp [Function.update_self, or_comm, eq_comm]
    · simp [Function.update_of_ne hne, Ne.symm hne]
  · next hnot =>
    refine (or_iff_left ?_).symm
    rintro ⟨hop, hkind, -⟩
    exact hnot k hop hkind

theorem nodup_trackRemoved {c : TopologyChanges} (h : ∀ k, (c.removed k).Nodup) (event : Change R) (k : Kind) :
    ((c.trackRemoved event).removed k).Nodup := by
  unfold TopologyChanges.trackRemoved
  split
  · next k' _ _ =>
    rcases eq_or_ne k k' with rfl | hne
    · simpa [Function.update_self] using (h k).insert
    · simpa [Function.update_of_ne hne] using h k
  · exact h k

/-- The change set of a network as the changes make it. -/
structure Summary (changes : List (Change R)) (c : TopologyChanges) : Prop where
  shouldMarkStale : c.shouldMarkStale = marked changes
  clearStale : c.clearStale = cleared changes
  mem_removed : ∀ k id, id ∈ c.removed k ↔ Removes changes k id
  nodup : ∀ k, (c.removed k).Nodup

theorem summary_default : Summary ([] : List (Change R)) .default :=
  ⟨rfl, rfl, fun k id => by simp [TopologyChanges.default, Removes], fun _ => .nil⟩

theorem Summary.note {changes : List (Change R)} {c : TopologyChanges} (h : Summary changes c) (event : Change R) :
    Summary (changes ++ [event]) (c.note event) := by
  refine ⟨?_, ?_, fun k id => ?_, fun k => ?_⟩
  · rw [note_shouldMarkStale, h.shouldMarkStale, marked_append]
    simp [marked]
  · rw [note_clearStale, h.clearStale, cleared_append]
    simp [cleared]
  · rw [note_removed, mem_trackRemoved, h.mem_removed, removes_append]
    simp [Removes]
  · rw [note_removed]
    exact nodup_trackRemoved h.nodup event k

theorem Summary.applyFlags {changes : List (Change R)} {c : TopologyChanges} (h : Summary changes c) (isStale : Bool) :
    applyFlags c isStale = staleAfter changes isStale := by
  unfold TopologyService.applyFlags staleAfter
  rw [h.shouldMarkStale, h.clearStale]
  cases marked changes <;> cases cleared changes <;> simp

end noting

section gathering

/-- The batch holds a change set for every network that the events concern. -/
structure Gathered (events : List (TopologyEvent R)) (batch : Batch) : Prop where
  nodup : batch.networkIds.Nodup
  mem : ∀ networkId, networkId ∈ batch.networkIds ↔ changesOf networkId events ≠ []
  isSome : ∀ networkId ∈ batch.networkIds, (batch.topologyUpdates networkId).isSome = true
  summary : ∀ networkId, Summary (changesOf networkId events) ((batch.topologyUpdates networkId).getD .default)

variable {events : List (TopologyEvent R)} {batch : Batch}

theorem gathered_empty : Gathered ([] : List (TopologyEvent R)) .empty :=
  ⟨.nil, fun _ => by simp [Batch.empty, changesOf], fun _ h => (nomatch h), fun _ => summary_default⟩

theorem changesOf_snoc (networkId : Uuid) (events : List (TopologyEvent R)) (event : TopologyEvent R) :
    changesOf networkId (events ++ [event]) = changesOf networkId events ++ (concerning networkId event).toList := by
  rw [changesOf_append]
  cases h : concerning networkId event <;> simp [changesOf, h]

theorem Gathered.skip (h : Gathered events batch) {event : TopologyEvent R}
    (hevent : ∀ networkId, concerning networkId event = none) : Gathered (events ++ [event]) batch := by
  have hsame (networkId : Uuid) : changesOf networkId (events ++ [event]) = changesOf networkId events := by
    rw [changesOf_snoc, hevent, Option.toList_none, List.append_nil]
  exact ⟨h.nodup, fun networkId => by rw [hsame, h.mem], h.isSome, fun networkId => by rw [hsame]; exact h.summary networkId⟩

theorem Gathered.note (h : Gathered events batch) {event : Change R} {networkId : Uuid}
    (hnetwork : event.networkId = some networkId) (hupdated : updatedTopology event = none) :
    Gathered (events ++ [.entity event]) (batch.note networkId event) := by
  have hchanges (id : Uuid) : changesOf id (events ++ [.entity event]) =
      changesOf id events ++ if id = networkId then [event] else [] := by
    rw [changesOf_snoc]
    congr 1
    rcases eq_or_ne id networkId with rfl | hne
    · simp [concerning, hnetwork, hupdated]
    · simp [concerning, hnetwork, hne, hne.symm]
  refine ⟨h.nodup.insert, fun id => ?_, fun id hid => ?_, fun id => ?_⟩
  · rw [hchanges, Batch.note, List.mem_insert_iff, h.mem]
    split_ifs with heq <;> simp [heq]
  · rcases eq_or_ne id networkId with rfl | hne
    · simp [Batch.note]
    · rcases List.mem_insert_iff.mp hid with heq | hid
      · exact absurd heq hne
      · simpa [Batch.note, Function.update_of_ne hne] using h.isSome id hid
  · rw [hchanges]
    rcases eq_or_ne id networkId with rfl | hne
    · simpa [Batch.note] using (h.summary id).note event
    · simpa [Batch.note, Function.update_of_ne hne, hne] using h.summary id

end gathering

section effects

variable {s : Db R} {α : Type}

/-- Whenever the task returns, value and store meet `q`. -/
abbrev Yields (q : α → Db R → Prop) (p : Task R α) (s : Db R) : Prop :=
  Returns topologyStep (fun _ _ _ => True) q p s

theorem yields_orFail {q : α → Db R → Prop} {r : Except Failure α} (h : ∀ a, r = .ok a → q a s) :
    Yields q (orFail r) s := by
  cases r with
  | error e => exact .fail e
  | ok a => exact .ret (h a rfl)

theorem yields_getAll (p : Topology R → Bool) :
    Yields (fun rows t => t = s ∧ rows.Perm (s.topologies.rows.filter p)) (Storage.getAll p) s := by
  intro r _
  apply yields_orFail
  intro rows hrows
  cases r with
  | error e => cases hrows
  | ok proposed =>
    cases hrows
    exact ⟨rfl, arrange_perm _ _ _⟩

theorem yields_getEntities (k : Kind) (p : R.Of k → Bool) : Yields (fun _ t => t = s) (Storage.getEntities k p) s := by
  intro r _
  exact yields_orFail (fun _ _ => rfl)

theorem yields_getServiceData (networkId : Uuid) (options : TopologyRequestOptions) :
    Yields (fun _ t => t = s) (getServiceData networkId options) s := by
  apply (yields_getEntities _ _).bind
  rintro services t rfl
  exact .ret rfl

theorem yields_getEntityData (networkId : Uuid) : Yields (fun _ t => t = s) (getEntityData networkId) s := by
  apply (yields_getEntities _ _).bind
  rintro hosts t rfl
  apply (yields_getEntities _ _).bind
  rintro interfaces t rfl
  apply (yields_getEntities _ _).bind
  rintro subnets t rfl
  apply (yields_getEntities _ _).bind
  rintro groups t rfl
  apply (yields_getEntities _ _).bind
  rintro ports t rfl
  apply (yields_getEntities _ _).bind
  rintro bindings t rfl
  exact .ret rfl

theorem yields_send (topology : Topology R) : Yields (fun _ t => t = s) (Storage.send topology) s :=
  fun _ _ => Returns.ret rfl

theorem yields_iterate (ids : List Uuid) : Yields (fun order t => t = s ∧ order.Perm ids) (Storage.iterate ids) s := by
  intro proposed _
  refine Returns.ret ⟨rfl, ?_⟩
  change (inOrder ids proposed).Perm ids
  unfold inOrder
  split_ifs with h
  · exact h
  · exact .refl ids

/-- An update puts the topology in the place of the stored one, but for the time of the update. -/
theorem yields_update (topology : Topology R) (authentication : AuthenticatedEntity) :
    Yields (fun _ t => ∃ now, t.topologies = (s.put { topology with updatedAt := now }).topologies)
      (update topology authentication) s := by
  intro r _
  refine Returns.bind (q := fun _ t => t = s) (yields_orFail (fun _ _ => rfl)) ?_
  rintro (_ | current) t rfl
  · exact .fail _
  · intro now _ r _
    cases r with
    | error e => exact Returns.fail e
    | ok _ =>
      intro id _ stamp _ _ _
      exact Returns.ret ⟨now, rfl⟩

theorem yields_passOn (networkId : Uuid) (event : Change R) (topology : Topology R) :
    Yields (fun _ t => t = s) (passOn networkId event topology) s := by
  apply (yields_getServiceData _ _).bind
  rintro services t rfl
  exact yields_send _

theorem yields_gather {events : List (TopologyEvent R)} {batch : Batch} (h : Gathered events batch)
    (event : TopologyEvent R) :
    Yields (fun batch' t => t = s ∧ Gathered (events ++ [event]) batch') (gather batch event) s := by
  cases event with
  | auth event => exact .ret ⟨rfl, h.skip (fun _ => rfl)⟩
  | telemetry event => exact .ret ⟨rfl, h.skip (fun _ => rfl)⟩
  | entity event =>
    cases hnetwork : event.networkId with
    | none =>
      simp only [gather, hnetwork]
      exact .ret ⟨rfl, h.skip (fun _ => by simp [concerning, hnetwork])⟩
    | some networkId =>
      cases hupdated : updatedTopology event with
      | some topology =>
        simp only [gather, hnetwork, hupdated]
        apply (yields_passOn networkId event topology).bind
        rintro - t rfl
        exact .ret ⟨rfl, h.skip (fun _ => by simp [concerning, hupdated])⟩
      | none =>
        simp only [gather, hnetwork, hupdated]
        exact .ret ⟨rfl, h.note hnetwork hupdated⟩

theorem pushRemoved_eq (removed ids : List Uuid) : ∃ added, pushRemoved removed ids = removed ++ added ∧
    added.Nodup ∧ ∀ id, id ∈ added ↔ id ∈ ids ∧ id ∉ removed := by
  induction ids generalizing removed with
  | nil => exact ⟨[], by simp [pushRemoved], .nil, by simp⟩
  | cons first rest ih =>
    by_cases hfirst : first ∈ removed
    · have hstep : pushRemoved removed (first :: rest) = pushRemoved removed rest := by simp [pushRemoved, hfirst]
      rw [hstep]
      obtain ⟨added, heq, hnodup, hmem⟩ := ih removed
      refine ⟨added, heq, hnodup, fun id => ?_⟩
      rw [hmem, List.mem_cons]
      exact ⟨fun h => ⟨.inr h.1, h.2⟩, fun h => ⟨h.1.resolve_left (fun heq => h.2 (heq ▸ hfirst)), h.2⟩⟩
    · have hstep : pushRemoved removed (first :: rest) = pushRemoved (removed ++ [first]) rest := by
        simp [pushRemoved, hfirst]
      rw [hstep]
      obtain ⟨added, heq, hnodup, hmem⟩ := ih (removed ++ [first])
      refine ⟨first :: added, by simpa using heq, List.nodup_cons.mpr ⟨fun h => ?_, hnodup⟩, fun id => ?_⟩
      · exact ((hmem first).mp h).2 (by simp)
      · rw [List.mem_cons, hmem, List.mem_cons, List.mem_append, List.mem_singleton]
        by_cases hid : id = first
        · simp [hid, hfirst]
        · simp [hid]

/-- The lists of removed entities once those of the changes are in them. -/
def Extended (changes : List (Change R)) (removed removed' : Kind → List Uuid) (k : Kind) : Prop :=
  ∃ added, (removed' k).Perm (removed k ++ added) ∧ added.Nodup ∧
    ∀ id, id ∈ added ↔ Removes changes k id ∧ id ∉ removed k

theorem yields_applyRemoved {changes : List (Change R)} {c : TopologyChanges} (h : Summary changes c)
    (removed : Kind → List Uuid) :
    Yields (fun removed' t => t = s ∧ ∀ k, Extended changes removed removed' k)
      (accumulate (applyRemoved c) removed Kind.all) s := by
  refine (Returns.accumulate (fun done removed' t => t = s ∧ (∀ k ∈ done, Extended changes removed removed' k) ∧
    ∀ k ∉ done, removed' k = removed k) Kind.all ?_ ⟨rfl, by simp, fun _ _ => rfl⟩).imp ?_
  · rintro done k rest hall removed' t ⟨rfl, hdone, hrest⟩
    have hk : k ∉ done := by
      have hnodup : (done ++ k :: rest).Nodup := hall ▸ (by decide)
      exact fun h => (List.nodup_append'.mp hnodup).2.2 h List.mem_cons_self
    apply (yields_iterate _).bind
    rintro order u ⟨rfl, horder⟩
    refine .ret ⟨rfl, fun k' hk' => ?_, fun k' hk' => ?_⟩
    · rcases eq_or_ne k' k with rfl | hne
      · obtain ⟨added, heq, hnodup, hmem⟩ := pushRemoved_eq (removed' k') order
        refine ⟨added, ?_, hnodup, fun id => ?_⟩
        · rw [Function.update_self, heq, hrest k' hk]
        · rw [hmem, horder.mem_iff, h.mem_removed, hrest k' hk]
      · rw [Extended, Function.update_of_ne hne]
        exact hdone k' ((List.mem_append.mp hk').resolve_right (by simpa using hne))
    · have hne : k' ≠ k := fun heq => hk' (by simp [heq])
      rw [Function.update_of_ne hne]
      exact hrest k' (fun h => hk' (by simp [h]))
  · rintro removed' t ⟨rfl, hdone, -⟩
    exact ⟨rfl, fun k => hdone k (by cases k <;> decide)⟩

theorem yields_applyTo {changes : List (Change R)} {c : TopologyChanges} (h : Summary changes c) (networkId : Uuid)
    (data : EntityData R) (topology : Topology R) :
    Yields (fun _ t => ∃ u, Followed changes topology u ∧ t.topologies = (s.put u).topologies)
      (applyTo networkId c data topology) s := by
  apply (yields_getServiceData _ _).bind
  rintro services t rfl
  apply (yields_applyRemoved h _).bind
  rintro removed t ⟨rfl, hremoved⟩
  apply (yields_update _ _).bind
  rintro updated u ⟨now, hu⟩
  intro _ _
  refine Returns.ret ⟨_, ?_, hu⟩
  exact ⟨rfl, rfl, h.applyFlags topology.base.isStale, hremoved⟩

/-- The rows of a network among these have followed its changes, and the others are as they were. -/
def FollowedAmong (changes : List (Change R)) (done : List (Topology R)) (t u : Topology R) : Prop :=
  (t ∈ done → Followed changes t u) ∧ (t ∉ done → u = t)

theorem FollowedAmong.id {changes : List (Change R)} {done : List (Topology R)} {t u : Topology R}
    (h : FollowedAmong changes done t u) : u.id = t.id := by
  by_cases ht : t ∈ done
  · exact (h.1 ht).id
  · rw [h.2 ht]

theorem eq_of_id_eq {rows : Rows R} {a b : Topology R} (ha : a ∈ rows.rows) (hb : b ∈ rows.rows) (h : a.id = b.id) :
    a = b := rows.eq_of_key_eq (fun _ _ hne => hne) ha hb h

/-- One row is put in the place of the stored one. -/
theorem followedAmong_put {changes : List (Change R)} {done : List (Topology R)} {rows : Rows R} {x u : Topology R}
    (hx : x ∈ rows.rows) (hu : Followed changes x u)
    (h : List.Forall₂ (FollowedAmong changes done) rows.rows s.topologies.rows) :
    List.Forall₂ (FollowedAmong changes (done ++ [x])) rows.rows (s.put u).topologies.rows := by
  change List.Forall₂ _ _ (List.map _ s.topologies.rows)
  rw [List.forall₂_map_right_iff]
  have hmem := (List.forall₂_and_left _ _).mpr ⟨fun a ha => ha, h⟩
  apply hmem.imp
  rintro a b ⟨ha, hab⟩
  split_ifs with hid
  · have heq : a = x := eq_of_id_eq ha hx (hab.id.symm.trans (hid.trans hu.id))
    exact ⟨fun _ => heq ▸ hu, fun hnot => absurd (by simp [heq]) hnot⟩
  · have hne : a ≠ x := fun heq => hid (hab.id.trans (heq ▸ hu.id.symm))
    refine ⟨fun ha => hab.1 ((List.mem_append.mp ha).resolve_right (by simpa using hne)), fun hnot => hab.2 ?_⟩
    exact fun ha => hnot (List.mem_append_left _ ha)

theorem yields_applyToNetwork {events : List (TopologyEvent R)} {batch : Batch} (h : Gathered events batch)
    {networkId : Uuid} (hnetwork : networkId ∈ batch.networkIds) :
    Yields (fun _ t => List.Forall₂ (fun a b => (a.base.networkId = networkId → Followed (changesOf networkId events) a b) ∧
      (a.base.networkId ≠ networkId → b = a)) s.topologies.rows t.topologies.rows) (applyToNetwork batch networkId) s := by
  apply (yields_getAll _).bind
  rintro topologies t ⟨rfl, hperm⟩
  apply (yields_getEntityData _).bind
  rintro data u rfl
  obtain ⟨c, hc⟩ := Option.isSome_iff_exists.mp (h.isSome networkId hnetwork)
  have hsummary : Summary (changesOf networkId events) c := by
    have := h.summary networkId
    rwa [hc] at this
  have hmem (a : Topology R) (ha : a ∈ u.topologies.rows) : a ∈ topologies ↔ a.base.networkId = networkId := by
    rw [hperm.mem_iff, List.mem_filter, decide_eq_true_eq, and_iff_right ha]
  simp only [hc]
  refine (Returns.forEach (fun done v => List.Forall₂ (FollowedAmong (changesOf networkId events) done)
    u.topologies.rows v.topologies.rows) topologies ?_ ?_).imp ?_
  · rintro done x rest htopologies v hv
    have hx : x ∈ u.topologies.rows := (List.mem_filter.mp (hperm.mem_iff.mp (by simp [htopologies]))).1
    apply (yields_applyTo hsummary networkId data x).imp
    rintro - w ⟨y, hy, hw⟩
    rw [hw]
    exact followedAmong_put hx hy hv
  · exact List.forall₂_same.mpr (fun a _ => ⟨fun h => (nomatch h), fun _ => rfl⟩)
  · intro _ v hv
    apply ((List.forall₂_and_left _ _).mpr ⟨fun a ha => ha, hv⟩).imp
    rintro a b ⟨ha, hab⟩
    exact ⟨fun heq => hab.1 ((hmem a ha).mpr heq), fun hne => hab.2 (fun h => hne ((hmem a ha).mp h))⟩

/-- A batch that is handled to its end has every stored topology follow the changes of its network. -/
theorem yields_handleEvents (events : List (TopologyEvent R)) :
    Yields (fun _ t => List.Forall₂ (fun a b => Followed (changesOf a.base.networkId events) a b)
      s.topologies.rows t.topologies.rows) (TopologyService.handleEvents events) s := by
  unfold TopologyService.handleEvents
  split_ifs with hempty
  · rw [List.isEmpty_iff.mp hempty]
    exact .ret (List.forall₂_same.mpr (fun a _ => .refl a))
  · refine Returns.bind (Returns.accumulate (fun done batch t => t = s ∧ Gathered done batch) events ?_
      ⟨rfl, gathered_empty⟩) ?_
    · rintro done event rest - batch t ⟨rfl, hbatch⟩
      exact yields_gather hbatch event
    · rintro batch t ⟨rfl, hbatch⟩
      apply (yields_iterate _).bind
      rintro order u ⟨rfl, horder⟩
      refine (Returns.forEach (fun done v => List.Forall₂ (fun a b =>
        (a.base.networkId ∈ done → Followed (changesOf a.base.networkId events) a b) ∧
        (a.base.networkId ∉ done → b = a)) u.topologies.rows v.topologies.rows) order ?_ ?_).imp ?_
      · rintro done networkId rest hsplit v hv
        have hnetwork : networkId ∈ batch.networkIds := horder.mem_iff.mp (by simp [hsplit])
        have hnew : networkId ∉ done := by
          have hnodup : (done ++ networkId :: rest).Nodup := hsplit ▸ horder.nodup_iff.mpr hbatch.nodup
          exact fun h => (List.nodup_append'.mp hnodup).2.2 h List.mem_cons_self
        apply (yields_applyToNetwork hbatch hnetwork).imp
        intro _ w hw
        apply (forall₂_comp hv hw).imp
        rintro a c ⟨b, hab, hbc⟩
        by_cases hdone : a.base.networkId ∈ done
        · have hkept := hab.1 hdone
          have hne : b.base.networkId ≠ networkId := fun heq => hnew (heq ▸ hkept.networkId ▸ hdone)
          rw [hbc.2 hne]
          exact ⟨fun _ => hkept, fun hnot => absurd (List.mem_append_left _ hdone) hnot⟩
        · rw [hab.2 hdone] at hbc
          by_cases heq : a.base.networkId = networkId
          · refine ⟨fun _ => ?_, fun hnot => absurd (by simp [heq]) hnot⟩
            rw [heq]
            exact hbc.1 heq
          · refine ⟨fun h => ?_, fun _ => hbc.2 heq⟩
            exact absurd h (by simp [hdone, heq])
      · exact List.forall₂_same.mpr (fun a _ => ⟨fun h => (nomatch h), fun _ => rfl⟩)
      · intro _ v hv
        apply hv.imp
        rintro a b hab
        by_cases horder' : a.base.networkId ∈ order
        · exact hab.1 horder'
        · have hnone : changesOf a.base.networkId events = [] := by
            by_contra hne
            exact horder' (horder.mem_iff.mpr ((hbatch.mem _).mpr hne))
          rw [hab.2 horder', hnone]
          exact .refl a

end effects

/-- Handling the events in one batch or in two leaves the same topologies, with the same entities listed as removed and
the same flag, but for those of a network in which a topology is created in the first part and which the second part
marks stale: one batch leaves them unmarked. -/
theorem handleEvents_append (e₁ e₂ : List (TopologyEvent R)) (s : Db R) (ω ω₁ ω₂ : Oracle (topologySig R))
    (h : (run topologyStep ω 0 (TopologyService.handleEvents (e₁ ++ e₂)) s).result = .ok ())
    (h₁ : (run topologyStep ω₁ 0 (TopologyService.handleEvents e₁) s).result = .ok ())
    (h₂ : (run topologyStep ω₂ 0 (TopologyService.handleEvents e₂) (run topologyStep ω₁ 0 (TopologyService.handleEvents e₁) s).state).result = .ok ()) :
    List.Forall₂ (Agree e₁ e₂) (run topologyStep ω 0 (TopologyService.handleEvents (e₁ ++ e₂)) s).state.topologies.rows
      (run topologyStep ω₂ 0 (TopologyService.handleEvents e₂) (run topologyStep ω₁ 0 (TopologyService.handleEvents e₁) s).state).state.topologies.rows := by
  have hanswered {p : Task R Unit} {ω : Oracle (topologySig R)} {s : Db R} :
      Answered topologyStep (fun _ _ _ => True) ω 0 p s := answered_of_forall (fun _ _ _ => trivial) 0 p s
  have hbatch := (yields_handleEvents (e₁ ++ e₂)).run hanswered h
  have hfirst := (yields_handleEvents e₁).run hanswered h₁
  have hsecond := (yields_handleEvents e₂).run hanswered h₂
  apply (forall₂_comp hbatch.flip (forall₂_comp hfirst hsecond)).imp
  rintro u w ⟨t, ht, v, hv, hw⟩
  exact Followed.agree ht hv hw

section example_run

/-- Entities of which nothing is known but that they are in the first network. -/
def plain : Records where
  Of _ := Unit
  Node := Unit
  Edge := Unit
  decEq _ := inferInstance
  decEqNode := inferInstance
  decEqEdge := inferInstance
  networkId _ := 1
  createdAt _ := 0
  hidden _ := false
  category _ := .unknown
  buildGraph _ _ _ _ := ([], [])

/-- An environment that carries out every statement. -/
def granted (now : Instant) : Oracle (topologySig R)
  | n, .newV4 => Fin.ofNat _ (1000 + n)
  | _, .utcNow => now
  | _, .listTopologies _ => .ok []
  | _, .getTopology _ => .ok none
  | _, .updateTopology _ => .ok ()
  | _, .listEntities _ _ => .ok []
  | _, .publish _ => ()
  | _, .send _ => ()
  | _, .iterate ids => ids
  | _, .getOnboarding _ => .ok none
  | _, .publishTelemetry _ => ()

def overview (id networkId : Uuid) : Topology plain where
  id := id
  createdAt := 0
  updatedAt := 0
  base := ⟨"Overview", .default, networkId, [], [], fun _ => [], false, 0, false, none, none, fun _ => []⟩

def oneOverview : Db plain := ⟨⟨[overview 10 1], List.pairwise_singleton _ _⟩, fun _ => [()], []⟩

/-- The topology of the first network has been created. -/
def overviewCreated : TopologyEvent plain :=
  .entity ⟨500, ⟨.topology, .topology (overview 10 1)⟩, 10, some 1, none, .created, 0, .system, ⟨none, some true, none⟩⟩

def serviceChanged (id : Uuid) (operation : Events.EntityOperation) : TopologyEvent plain :=
  .entity ⟨501, ⟨.service, .entity .service ()⟩, id, some 1, none, operation, 0, .system, ⟨some true, none, some false⟩⟩

theorem handleEvents_append_removal : List.Forall₂ (Agree [serviceChanged 20 .deleted] [serviceChanged 21 .deleted])
    (run topologyStep (granted 0) 0 (TopologyService.handleEvents [serviceChanged 20 .deleted, serviceChanged 21 .deleted])
      oneOverview).state.topologies.rows
    (run topologyStep (granted 0) 0 (TopologyService.handleEvents [serviceChanged 21 .deleted])
      (run topologyStep (granted 0) 0 (TopologyService.handleEvents [serviceChanged 20 .deleted])
        oneOverview).state).state.topologies.rows :=
  handleEvents_append [serviceChanged 20 .deleted] [serviceChanged 21 .deleted] oneOverview (granted 0) (granted 0)
    (granted 0) (by decide +kernel) (by decide +kernel) (by decide +kernel)

/-- A service that appears right after the topology makes it stale in a batch of its own and not in the same batch. -/
theorem handleEvents_not_append : ¬ ∀ (e₁ e₂ : List (TopologyEvent plain)) (s : Db plain)
    (ω ω₁ ω₂ : Oracle (topologySig plain)),
    (run topologyStep ω 0 (TopologyService.handleEvents (e₁ ++ e₂)) s).result = .ok () →
    (run topologyStep ω₁ 0 (TopologyService.handleEvents e₁) s).result = .ok () →
    (run topologyStep ω₂ 0 (TopologyService.handleEvents e₂) (run topologyStep ω₁ 0 (TopologyService.handleEvents e₁) s).state).result = .ok () →
    List.Forall₂ (fun u v => u.id = v.id ∧ u.base.isStale = v.base.isStale ∧
        ∀ k, (u.base.removed k).Perm (v.base.removed k))
      (run topologyStep ω 0 (TopologyService.handleEvents (e₁ ++ e₂)) s).state.topologies.rows
      (run topologyStep ω₂ 0 (TopologyService.handleEvents e₂)
        (run topologyStep ω₁ 0 (TopologyService.handleEvents e₁) s).state).state.topologies.rows := by
  intro h
  have hsame := h [overviewCreated] [serviceChanged 20 .created] oneOverview (granted 0) (granted 0) (granted 0)
    (by decide +kernel) (by decide +kernel) (by decide +kernel)
  revert hsame
  decide +kernel

end example_run

end VantageNet.Topologies
