import Mathlib.Algebra.Order.BigOperators.Group.Multiset
import Mathlib.Tactic.Abel
import VantageNet.Events.Batches
import VantageNet.Interaction.Ledger

/-!
What reaches a subscriber, whatever the order in which calls to `publish` and the ticks of
the flush task run. A debt is what a call still has to do for the subscriber: the events to
add and the batches to hand over.
-/

namespace VantageNet.Events

open Interaction Interaction.Program

variable {π μ : Type} [DecidableEq π] [DecidableEq μ]

abbrev Debt (π μ : Type) := Multiset (Event π μ) × Multiset (List (Event π μ))

variable (s : Subscriber) (i : ℕ)

def owes (event : Event π μ) : Debt π μ := if s.eventFilter.matchesEvent event then ({event}, 0) else 0

def delivering : Monitor (busSig π μ) (Debt π μ) where
  ok
    | d, .push j event => j = i → s.debounceWindowMs ≠ 0 ∧ event ∈ d.1
    | d, .handleEvents j events => j = i →
      if s.debounceWindowMs = 0 then ∃ event ∈ d.1, events = [event] else events ∈ d.2
    | _, _ => True
  may
    | .subscribers, subscribers => subscribers[i]? = some s
    | .drain j, events => j = i → s.debounceWindowMs = 0 → events = []
    | _, _ => True
  next
    | d, .send event, _ => d + owes s event
    | d, .push j event, _ => if j = i then (d.1.erase event, d.2) else d
    | d, .drain j, events => if j = i ∧ events ≠ [] then (d.1, uniqueEvents events ::ₘ uniqueEvents events ::ₘ d.2) else d
    | d, .handleEvents j events, _ =>
      if j = i then if s.debounceWindowMs = 0 then (d.1 - events, d.2) else (d.1, d.2.erase events) else d
    | d, _, _ => d

def deliveryTracking : Tracking (busSig π μ) Empty Lock (Call π μ) (EventBus π μ) (Debt π μ) :=
  ⟨scheme π μ, delivering s i, fun _ => 0⟩

section follows

variable {s i} {d : Debt π μ}

theorem follows_addEvent_other {j : ℕ} (hj : j ≠ i) (event : Event π μ) (subscriber : Subscriber) :
    Follows (delivering s i) (fun _ b => b = d) d (addEvent event (subscriber, j)) := by
  unfold addEvent
  split_ifs
  · exact ⟨fun h => absurd h hj, fun _ _ => by simp [delivering, hj, Follows]⟩
  · exact ⟨trivial, fun _ _ => ⟨fun h => absurd h hj, fun _ _ => ⟨trivial, fun _ _ => by simp [delivering, hj, Follows]⟩⟩⟩

theorem follows_addEvent_own {event : Event π μ} :
    Follows (delivering s i) (fun _ b => b = 0) (({event}, 0) : Debt π μ) (addEvent event (s, i)) := by
  unfold addEvent
  dsimp only
  split_ifs with hdebounce
  · refine ⟨fun _ => ?_, fun _ _ => ?_⟩
    · simp [hdebounce]
    · simp [delivering, hdebounce, Follows]
  · refine ⟨trivial, fun _ _ => ⟨fun _ => ⟨hdebounce, by simp [delivering]⟩, fun _ _ => ⟨trivial, fun _ _ => ?_⟩⟩⟩
    simp [delivering, Follows]

theorem follows_notify_others {event : Event π μ} {subscribers : List (Subscriber × ℕ)}
    (h : ∀ x ∈ subscribers, x.2 ≠ i) :
    Follows (delivering s i) (fun _ b => b = d) d (forEach (notify event) subscribers) := by
  induction subscribers with
  | nil => rfl
  | cons x rest ih =>
    refine Follows.seq (Follows.when _ ?_) (fun _ => ih (fun y hy => h y (by simp [hy])))
    exact follows_addEvent_other (h x (by simp)) event x.1

theorem follows_notify {event : Event π μ} {subscribers : List Subscriber} (hs : subscribers[i]? = some s) :
    Follows (delivering s i) (fun _ b => b = 0) (owes s event) (forEach (notify event) subscribers.zipIdx) := by
  have hi : i < subscribers.length := (List.getElem?_eq_some_iff.mp hs).1
  have hsplit : subscribers.zipIdx =
      (subscribers.take i).zipIdx ++ (s, i) :: (subscribers.drop (i + 1)).zipIdx (i + 1) := by
    have hget : subscribers[i] = s := Option.some.inj ((List.getElem?_eq_getElem hi).symm.trans hs)
    conv_lhs => rw [← List.take_append_drop i subscribers, List.drop_eq_getElem_cons hi, hget]
    rw [List.zipIdx_append, List.zipIdx_cons, List.length_take, Nat.min_eq_left hi.le, Nat.zero_add]
  rw [hsplit, forEach_append]
  refine Follows.seq (follows_notify_others (fun x hx => ?_)) (fun _ => ?_)
  · have hlt := List.snd_lt_of_mem_zipIdx hx
    simp only [List.length_take] at hlt
    omega
  · change Follows (delivering s i) (fun _ b => b = 0) (owes s event)
      ((notify event (s, i)).bind (fun _ => forEach (notify event) ((subscribers.drop (i + 1)).zipIdx (i + 1))))
    apply Follows.bind
    have hlater : Follows (delivering s i) (fun _ b => b = 0) (0 : Debt π μ)
        (forEach (notify event) ((subscribers.drop (i + 1)).zipIdx (i + 1))) := by
      refine follows_notify_others (fun x hx => ?_)
      have hle := List.le_snd_of_mem_zipIdx hx
      omega
    unfold notify owes
    dsimp only
    cases s.eventFilter.matchesEvent event with
    | false => exact hlater
    | true =>
      apply follows_addEvent_own.imp
      rintro _ b rfl
      exact hlater

theorem follows_publish (event : Event π μ) :
    Follows (delivering s i) (fun _ b => b = 0) (0 : Debt π μ) (publish event) := by
  refine ⟨trivial, fun _ _ => ⟨trivial, fun _ _ => ⟨trivial, fun subscribers hsubscribers => ?_⟩⟩⟩
  change Follows (delivering s i) (fun _ b => b = 0) (0 + owes s event)
    ((forEach (notify event) subscribers.zipIdx).bind (fun _ => release .subscribers))
  rw [zero_add]
  apply Follows.bind
  apply (follows_notify hsubscribers).imp
  rintro _ b rfl
  exact ⟨trivial, fun _ _ => rfl⟩

theorem follows_flushBatch (j : ℕ) :
    Follows (delivering s i) (fun _ b => b = 0) (0 : Debt π μ) (flushBatch j) := by
  refine ⟨trivial, fun _ _ => ⟨trivial, fun events hevents => ⟨trivial, fun _ _ => ?_⟩⟩⟩
  by_cases hown : j = i ∧ events ≠ []
  · obtain ⟨rfl, hne⟩ := hown
    have hunique : uniqueEvents events ≠ [] := fun h => hne (uniqueEvents_eq_nil_iff.mp h)
    have hdebounce : s.debounceWindowMs ≠ 0 := fun h => hne (hevents rfl h)
    simp [delivering, hne, hunique, hdebounce, handleEvents, Follows]
  · have hkeeps : (delivering s i).next ((0 : Debt π μ)) (.drain j) events = 0 := if_neg hown
    change Follows (delivering s i) (fun _ b => b = 0) ((delivering s i).next 0 (.drain j) events)
      (if (uniqueEvents events).isEmpty then ret () else
        (handleEvents j (uniqueEvents events)).bind (fun _ => handleEvents j (uniqueEvents events)))
    rw [hkeeps]
    split_ifs with hempty
    · rfl
    · have hj : j ≠ i := fun h => hown ⟨h, fun hnil => hempty (by rw [hnil]; rfl)⟩
      simp [delivering, hj, handleEvents, Follows]

theorem follows_call (c : Call π μ) :
    Follows (delivering s i) (fun _ b => b = 0) (0 : Debt π μ) c.program := by
  cases c with
  | publish event => exact follows_publish event
  | registerSubscriber subscriber =>
    exact ⟨trivial, fun _ _ => ⟨trivial, fun _ _ => ⟨trivial, fun _ _ => rfl⟩⟩⟩
  | tick j => exact follows_flushBatch j

end follows

section accounts

/-- What `handle_events` is called with for batches of events. -/
def calls (batches : List (List (Event π μ))) : List (List (Event π μ)) :=
  if s.debounceWindowMs = 0 then batches else (batches ++ batches).map uniqueEvents

/-- The subscriber's events were added and handed over in `batches`, but for the debt. -/
structure Accounted (batches : List (List (Event π μ))) (sent : List (Event π μ)) (state : SubscriberState π μ)
    (d : Debt π μ) : Prop where
  subscriber : state.subscriber = s
  nonempty : ∀ b ∈ batches, b ≠ []
  added : ((batches.flatten ++ state.pendingEvents : List (Event π μ)) : Multiset (Event π μ)) + d.1 =
    (sent.filter s.eventFilter.matchesEvent : List (Event π μ))
  called : (state.handled : Multiset (List (Event π μ))) + d.2 = (calls s batches : List (List (Event π μ)))
  immediate : s.debounceWindowMs = 0 → state.pendingEvents = []
  single : s.debounceWindowMs = 0 → ∀ b ∈ batches, ∃ event, b = [event]

def Settled (batches : List (List (Event π μ))) (bus : EventBus π μ) (d : Debt π μ) : Prop :=
  ∃ state, bus.subscribers[i]? = some state ∧ Accounted s batches bus.sent state d

/-- The batch that an operation takes out of the buffer. -/
def drainedBy (bus : EventBus π μ) : BusOp π μ → List (List (Event π μ))
  | .drain j => if j = i ∧ bus.pendingEvents i ≠ [] then [bus.pendingEvents i] else []
  | _ => []

variable {s i} {batches : List (List (Event π μ))} {bus : EventBus π μ} {d rest : Debt π μ}

theorem Settled.may (h : Settled s i batches bus d) (o : BusOp π μ) (a : o.Reply) :
    (delivering s i).may o (busStep o a bus).1 := by
  obtain ⟨state, hstate, haccounted⟩ := h
  cases o with
  | subscribers => simp [delivering, busStep, hstate, haccounted.subscriber]
  | drain j =>
    rintro rfl hdebounce
    simp [busStep, EventBus.pendingEvents, hstate, haccounted.immediate hdebounce]
  | _ => trivial

omit [DecidableEq π] in
theorem Settled.modify_other {j : ℕ} (h : Settled s i batches bus d) (hj : j ≠ i)
    (f : SubscriberState π μ → SubscriberState π μ) : Settled s i batches (bus.modify j f) d := by
  obtain ⟨state, hstate, haccounted⟩ := h
  exact ⟨state, by rw [get_modify, if_neg hj]; exact hstate, haccounted⟩

omit [DecidableEq π] in
theorem Settled.send (h : Settled s i batches bus (d + rest)) (event : Event π μ) :
    Settled s i batches { bus with sent := bus.sent ++ [event] } (d + owes s event + rest) := by
  obtain ⟨state, hstate, haccounted⟩ := h
  have hadded := haccounted.added
  have hcalled := haccounted.called
  refine ⟨state, hstate, haccounted.subscriber, haccounted.nonempty, ?_, ?_, haccounted.immediate,
    haccounted.single⟩
  · rw [List.filter_append, ← Multiset.coe_add (List.filter _ bus.sent), ← hadded]
    unfold owes
    cases hm : s.eventFilter.matchesEvent event with
    | true =>
      simp only [List.filter_cons, hm, List.filter_nil, ↓reduceIte, Prod.fst_add, Multiset.coe_singleton]
      abel
    | false => simp [hm]
  · rw [← hcalled]
    unfold owes
    split_ifs <;> simp

theorem Settled.push (h : Settled s i batches bus (d + rest)) {event : Event π μ} (hdebounce : s.debounceWindowMs ≠ 0)
    (howed : event ∈ d.1) :
    Settled s i batches (bus.modify i (fun s => { s with pendingEvents := s.pendingEvents ++ [event] }))
      ((d.1.erase event, d.2) + rest) := by
  obtain ⟨state, hstate, haccounted⟩ := h
  obtain ⟨d, d'⟩ := d
  obtain ⟨left, rfl⟩ := Multiset.exists_cons_of_mem howed
  have hadded := haccounted.added
  refine ⟨{ state with pendingEvents := state.pendingEvents ++ [event] }, ?_, haccounted.subscriber,
    haccounted.nonempty, ?_, haccounted.called, fun h => absurd h hdebounce, haccounted.single⟩
  · rw [get_modify, if_pos rfl, hstate]
    rfl
  · change _ = ((bus.sent.filter _ : List (Event π μ)) : Multiset (Event π μ))
    rw [← hadded, ← List.append_assoc, ← Multiset.coe_add, Multiset.coe_singleton, Multiset.erase_cons_head]
    simp only [Prod.fst_add, ← Multiset.singleton_add]
    abel

omit [DecidableEq π] [DecidableEq μ] in
theorem pendingEvents_of_get {state : SubscriberState π μ} (hstate : bus.subscribers[i]? = some state) :
    bus.pendingEvents i = state.pendingEvents := by
  simp [EventBus.pendingEvents, hstate]

omit [DecidableEq π] in
theorem Settled.drain (h : Settled s i batches bus (d + rest)) (hpending : bus.pendingEvents i ≠ []) :
    Settled s i (batches ++ [bus.pendingEvents i]) (bus.modify i (fun s => { s with pendingEvents := [] }))
      ((d.1, uniqueEvents (bus.pendingEvents i) ::ₘ uniqueEvents (bus.pendingEvents i) ::ₘ d.2) + rest) := by
  obtain ⟨state, hstate, haccounted⟩ := h
  rw [pendingEvents_of_get hstate] at hpending ⊢
  have hdebounce : s.debounceWindowMs ≠ 0 := fun h => hpending (haccounted.immediate h)
  have hadded := haccounted.added
  have hcalled := haccounted.called
  refine ⟨{ state with pendingEvents := [] }, ?_, haccounted.subscriber, fun b hb => ?_, ?_, ?_, fun _ => rfl,
    fun h => absurd h hdebounce⟩
  · rw [get_modify, if_pos rfl, hstate]
    rfl
  · rcases List.mem_append.mp hb with hb | hb
    · exact haccounted.nonempty b hb
    · rw [List.mem_singleton.mp hb]
      exact hpending
  · change _ = ((bus.sent.filter _ : List (Event π μ)) : Multiset (Event π μ))
    rw [← hadded]
    simp
  · rw [calls, if_neg hdebounce] at hcalled ⊢
    simp only [List.map_append, List.map_cons, List.map_nil, ← Multiset.coe_add, Prod.snd_add,
      ← Multiset.singleton_add, Multiset.coe_singleton] at hcalled ⊢
    calc (state.handled : Multiset (List (Event π μ))) +
          ({uniqueEvents state.pendingEvents} + ({uniqueEvents state.pendingEvents} + d.2) + rest.2) =
        (state.handled + (d.2 + rest.2)) + {uniqueEvents state.pendingEvents} + {uniqueEvents state.pendingEvents} := by
          abel
      _ = _ := by
        rw [hcalled]
        abel

omit [DecidableEq π] in
theorem Settled.drain_nothing (h : Settled s i batches bus d) (hpending : bus.pendingEvents i = []) :
    Settled s i batches (bus.modify i (fun s => { s with pendingEvents := [] })) d := by
  obtain ⟨state, hstate, haccounted⟩ := h
  rw [pendingEvents_of_get hstate] at hpending
  refine ⟨state, ?_, haccounted⟩
  rw [get_modify, if_pos rfl, hstate]
  simp [← hpending]

theorem Settled.handle (h : Settled s i batches bus (d + rest)) {events : List (Event π μ)}
    (howed : events ∈ d.2) :
    Settled s i batches (bus.modify i (fun s => { s with handled := s.handled ++ [events] }))
      ((d.1, d.2.erase events) + rest) := by
  obtain ⟨state, hstate, haccounted⟩ := h
  obtain ⟨d', d⟩ := d
  obtain ⟨left, rfl⟩ := Multiset.exists_cons_of_mem howed
  have hcalled := haccounted.called
  refine ⟨{ state with handled := state.handled ++ [events] }, ?_, haccounted.subscriber, haccounted.nonempty,
    haccounted.added, ?_, haccounted.immediate, haccounted.single⟩
  · rw [get_modify, if_pos rfl, hstate]
    rfl
  · rw [← hcalled, ← Multiset.coe_add, Multiset.coe_singleton, Multiset.erase_cons_head]
    simp only [Prod.snd_add, ← Multiset.singleton_add]
    abel

theorem Settled.handle_immediately (h : Settled s i batches bus (d + rest)) {event : Event π μ}
    (hdebounce : s.debounceWindowMs = 0) (howed : event ∈ d.1) :
    Settled s i (batches ++ [[event]]) (bus.modify i (fun s => { s with handled := s.handled ++ [[event]] }))
      ((d.1 - [event], d.2) + rest) := by
  obtain ⟨state, hstate, haccounted⟩ := h
  obtain ⟨d, d'⟩ := d
  obtain ⟨left, rfl⟩ := Multiset.exists_cons_of_mem howed
  have hadded := haccounted.added
  have hcalled := haccounted.called
  rw [calls, if_pos hdebounce] at hcalled
  refine ⟨{ state with handled := state.handled ++ [[event]] }, ?_, haccounted.subscriber, fun b hb => ?_, ?_, ?_,
    haccounted.immediate, fun h b hb => ?_⟩
  · rw [get_modify, if_pos rfl, hstate]
    rfl
  · rcases List.mem_append.mp hb with hb | hb
    · exact haccounted.nonempty b hb
    · rw [List.mem_singleton.mp hb]
      exact List.cons_ne_nil _ _
  · change _ = ((bus.sent.filter _ : List (Event π μ)) : Multiset (Event π μ))
    rw [← hadded]
    rw [Multiset.coe_singleton, Multiset.sub_singleton, Multiset.erase_cons_head]
    simp only [List.flatten_append, List.flatten_cons, List.flatten_nil, List.append_nil, ← Multiset.coe_add,
      Multiset.coe_singleton, Prod.fst_add, ← Multiset.singleton_add]
    abel
  · rw [calls, if_pos hdebounce]
    simp only [← Multiset.coe_add, Prod.snd_add, ← hcalled]
    abel
  · rcases List.mem_append.mp hb with hb | hb
    · exact haccounted.single h b hb
    · exact ⟨event, List.mem_singleton.mp hb⟩

theorem Settled.act (h : Settled s i batches bus (d + rest)) {o : BusOp π μ} (hok : (delivering s i).ok d o)
    (a : o.Reply) :
    ∃ batches', Settled s i batches' (busStep o a bus).2 ((delivering s i).next d o (busStep o a bus).1 + rest) ∧
      (s.debounceWindowMs ≠ 0 → batches' = batches ++ drainedBy i bus o) ∧
      (s.debounceWindowMs = 0 → drainedBy i bus o = []) := by
  have hquiet (hnone : drainedBy i bus o = []) :
      (s.debounceWindowMs ≠ 0 → batches = batches ++ drainedBy i bus o) ∧
      (s.debounceWindowMs = 0 → drainedBy i bus o = []) := by simp [hnone]
  cases o with
  | send event => exact ⟨batches, h.send event, hquiet rfl⟩
  | push j event =>
    by_cases hj : j = i
    · subst hj
      obtain ⟨hdebounce, howed⟩ := hok rfl
      refine ⟨batches, ?_, hquiet rfl⟩
      simpa [delivering, busStep] using h.push hdebounce howed
    · refine ⟨batches, ?_, hquiet rfl⟩
      simpa [delivering, busStep, hj] using h.modify_other hj _
  | drain j =>
    by_cases hj : j = i
    · subst hj
      by_cases hpending : bus.pendingEvents j = []
      · refine ⟨batches, ?_, hquiet (by simp [drainedBy, hpending])⟩
        simpa [delivering, busStep, hpending] using h.drain_nothing hpending
      · refine ⟨batches ++ [bus.pendingEvents j], ?_, fun _ => by simp [drainedBy, hpending], fun h0 => ?_⟩
        · simpa [delivering, busStep, hpending] using h.drain hpending
        · obtain ⟨state, hstate, haccounted⟩ := h
          exact absurd (pendingEvents_of_get hstate ▸ haccounted.immediate h0) hpending
    · refine ⟨batches, ?_, hquiet (by simp [drainedBy, hj])⟩
      simpa [delivering, busStep, hj] using h.modify_other hj _
  | handleEvents j events =>
    by_cases hj : j = i
    · subst hj
      have hok := hok rfl
      by_cases hdebounce : s.debounceWindowMs = 0
      · rw [if_pos hdebounce] at hok
        obtain ⟨event, howed, rfl⟩ := hok
        refine ⟨batches ++ [[event]], ?_, fun h => absurd hdebounce h, fun _ => rfl⟩
        simpa [delivering, busStep, hdebounce] using h.handle_immediately hdebounce howed
      · rw [if_neg hdebounce] at hok
        refine ⟨batches, ?_, hquiet rfl⟩
        simpa [delivering, busStep, hdebounce] using h.handle hok
    · refine ⟨batches, ?_, hquiet rfl⟩
      simpa [delivering, busStep, hj] using h.modify_other hj _
  | addSubscriber subscriber =>
    obtain ⟨state, hstate, haccounted⟩ := h
    have hi : i < bus.subscribers.length := (List.getElem?_eq_some_iff.mp hstate).1
    exact ⟨batches, ⟨state, (List.getElem?_append_left hi).trans hstate, haccounted⟩, hquiet rfl⟩
  | subscribers => exact ⟨batches, h, hquiet rfl⟩
  | acquire lock exclusive => exact ⟨batches, h, hquiet rfl⟩
  | release lock => exact ⟨batches, h, hquiet rfl⟩

end accounts

section runs

abbrev BusTick (π μ : Type) := Tick (busSig π μ) (Call π μ)

abbrev BusPool (π μ : Type) := Pool (busSig π μ) Empty Lock (Call π μ) (EventBus π μ)

/-- The batch that a step takes out of the buffer of the `i`-th subscriber. -/
def drainedIn (P : BusPool π μ) : BusTick π μ → List (List (Event π μ))
  | .run j _ =>
    match (P.threads[j]?).map Thread.prog with
    | some (.op o _) => drainedBy i P.state o
    | _ => []
  | .spawn _ => []

variable {s i} {batches : List (List (Event π μ))}

structure Books (s : Subscriber) (i : ℕ) (batches : List (List (Event π μ)))
    (w : Tracked (busSig π μ) Empty Lock (Call π μ) (EventBus π μ) (Debt π μ)) : Prop where
  follows : ∀ j p, w.prog j = some p → Follows (delivering s i) (fun _ b => b = 0) (w.points j) p
  settled : Settled s i batches w.pool.state w.total

omit [DecidableEq π] [DecidableEq μ] in
theorem drainedIn_run (w : Tracked (busSig π μ) Empty Lock (Call π μ) (EventBus π μ) (Debt π μ)) (j : ℕ)
    (answers : (o : BusOp π μ) → o.Reply) : drainedIn i w.pool (.run j answers) =
      match w.prog j with
      | some (.op o _) => drainedBy i w.pool.state o
      | _ => [] := rfl

theorem pool_step (w : Tracked (busSig π μ) Empty Lock (Call π μ) (EventBus π μ) (Debt π μ)) (tick : BusTick π μ) :
    ((deliveryTracking s i).step w tick).pool = w.pool.step (scheme π μ) tick := by
  cases tick <;> rfl

theorem Books.step {w : Tracked (busSig π μ) Empty Lock (Call π μ) (EventBus π μ) (Debt π μ)}
    (h : Books s i batches w) (tick : BusTick π μ) :
    ∃ batches', Books s i batches' ((deliveryTracking s i).step w tick) ∧
      (s.debounceWindowMs ≠ 0 → batches' = batches ++ drainedIn i w.pool tick) ∧
      (s.debounceWindowMs = 0 → drainedIn i w.pool tick = []) := by
  cases tick with
  | spawn c =>
    refine ⟨batches, ⟨fun j p hp => ?_, ?_⟩, by simp [drainedIn]⟩
    · rw [Tracking.prog_spawn] at hp
      split_ifs at hp with hj
      · cases hp
        rw [hj, Tracking.points_spawn_self]
        exact follows_call c
      · rw [Tracking.points_spawn_of_ne c hj]
        exact h.follows j p hp
    · rw [Tracking.total_spawn]
      change Settled s i batches w.pool.state (w.total + 0)
      rw [add_zero]
      exact h.settled
  | run j answers =>
    rcases Tracking.step_run_cases (T := deliveryTracking s i) (w := w) j answers with
      ⟨hpass, hblocked⟩ | ⟨o, k, t, hacts⟩
    · have hnone : drainedIn i w.pool (.run j answers) = [] := by
        rw [drainedIn_run]
        rcases hprog : w.prog j with _ | _ | _ | ⟨o, k⟩
        · rfl
        · rfl
        · rfl
        · have hblocked := hblocked o k hprog
          cases o with
          | drain l => simp [deliveryTracking, scheme, BusOp.lockAction, Pool.blocked] at hblocked
          | _ => rfl
      refine ⟨batches, ⟨fun l p hp => ?_, ?_⟩, by simp [hnone]⟩
      · rw [hpass.points]
        exact h.follows l p (hpass.prog l ▸ hp)
      · rw [hpass.state, hpass.total_eq]
        exact h.settled
    · have hdrained : drainedIn i w.pool (.run j answers) = drainedBy i w.pool.state o := by
        rw [drainedIn_run, hacts.thread]
      obtain ⟨hok, hfollows⟩ := h.follows j _ hacts.thread
      obtain ⟨rest, htotal, htotal'⟩ := hacts.total_eq
      have hsettled := h.settled
      rw [htotal] at hsettled
      obtain ⟨batches', hsettled', hgrow⟩ := hsettled.act hok (answers o)
      rw [hdrained]
      refine ⟨batches', ⟨fun l p hp => ?_, ?_⟩, hgrow⟩
      · rw [hacts.prog] at hp
        split_ifs at hp with hl
        · cases hp
          rw [hl, hacts.own]
          exact hfollows _ (hsettled.may o (answers o))
        · rw [hacts.other hl]
          exact h.follows l p hp
      · rw [hacts.state, htotal']
        exact hsettled'

/-- What a run leaves of the books: a debounced subscriber's batches are those that were drained. -/
theorem Books.run {w : Tracked (busSig π μ) Empty Lock (Call π μ) (EventBus π μ) (Debt π μ)}
    (h : Books s i batches w) (ticks : List (BusTick π μ)) :
    ∃ batches', Books s i batches' (ticks.foldl (deliveryTracking s i).step w) ∧
      (s.debounceWindowMs = 0 → Meets (Pool.step (scheme π μ)) (fun P tick => drainedIn i P tick = []) w.pool ticks) ∧
      (s.debounceWindowMs ≠ 0 → (batches' = batches ↔
        Meets (Pool.step (scheme π μ)) (fun P tick => drainedIn i P tick = []) w.pool ticks) ∧ batches <+: batches') := by
  induction ticks generalizing w batches with
  | nil => exact ⟨batches, h, fun _ => trivial, fun _ => ⟨⟨fun _ => trivial, fun _ => rfl⟩, List.prefix_rfl⟩⟩
  | cons tick ticks ih =>
    obtain ⟨middle, hmiddle, hgrow, hnone⟩ := h.step tick
    obtain ⟨batches', hbooks, himmediate, hdebounced⟩ := ih hmiddle
    rw [pool_step] at himmediate hdebounced
    refine ⟨batches', hbooks, fun h0 => ⟨hnone h0, himmediate h0⟩, fun h0 => ?_⟩
    obtain ⟨hiff, hgrown⟩ := hdebounced h0
    have hmiddle := hgrow h0
    have hfirst : batches <+: middle := hmiddle ▸ List.prefix_append _ _
    refine ⟨⟨fun heq => ?_, fun ⟨hfirst, hrest⟩ => ?_⟩, hfirst.trans hgrown⟩
    · have hsame : middle = batches := (hgrown.trans (heq ▸ List.prefix_rfl)).eq_of_length_le hfirst.length_le
      have hnone : drainedIn i w.pool tick = [] := List.append_right_eq_self.mp (hmiddle.symm.trans hsame)
      exact ⟨hnone, hiff.mp (heq.trans hsame.symm)⟩
    · rw [hiff.mpr hrest, hmiddle, hfirst, List.append_nil]

def Finished (P : BusPool π μ) : Prop := ∀ t ∈ P.threads, t.prog = .ret ()

theorem Books.finished {w : Tracked (busSig π μ) Empty Lock (Call π μ) (EventBus π μ) (Debt π μ)}
    (h : Books s i batches w) (hfinished : Finished w.pool) : Settled s i batches w.pool.state 0 := by
  have hzero : w.total = 0 := by
    refine Tracking.total_eq_zero (fun j hj => ?_)
    have hprog : w.prog j = some (.ret ()) := by
      simp [Tracked.prog, hj, hfinished _ (List.getElem_mem hj)]
    exact h.follows j _ hprog
  rw [← hzero]
  exact h.settled

end runs

section once

omit [DecidableEq π]

/-- Of equal events of the batch one is handed over, and every other event. -/
structure Deduplicated (batch delivered : List (Event π μ)) : Prop where
  sublist : delivered.Sublist batch
  distinct : delivered.Pairwise (fun d e => d.eq e = false)
  complete : ∀ e ∈ batch, e ∈ delivered ∨ ∃ d ∈ delivered, d.eq e = true

/-- Every event that was published and matches is waiting or was handed over in one batch, once. -/
def DeliveredOnce (bus : EventBus π μ) : Prop :=
  ∃ batches delivered : List (List (Event π μ)), (∀ b ∈ batches, b ≠ []) ∧
    (batches.flatten ++ bus.pendingEvents i).Perm (bus.sent.filter s.eventFilter.matchesEvent) ∧
    List.Forall₂ Deduplicated batches delivered ∧ (bus.handled i).Perm delivered

variable {s i} {batches : List (List (Event π μ))} {bus : EventBus π μ}

theorem deduplicated_uniqueEvents (b : List (Event π μ)) : Deduplicated b (uniqueEvents b) :=
  ⟨uniqueEvents_sublist b, uniqueEvents_pairwise b, fun _ he => (uniqueEvents_complete he).imp_right repeats_iff.mp⟩

theorem Settled.perms (h : Settled s i batches bus 0) :
    (batches.flatten ++ bus.pendingEvents i).Perm (bus.sent.filter s.eventFilter.matchesEvent) ∧
      (bus.handled i).Perm (calls s batches) := by
  obtain ⟨state, hstate, haccounted⟩ := h
  have hadded := haccounted.added
  have hcalled := haccounted.called
  rw [pendingEvents_of_get hstate]
  have hhandled : bus.handled i = state.handled := by simp [EventBus.handled, hstate]
  rw [hhandled]
  exact ⟨Multiset.coe_eq_coe.mp (by simpa using hadded), Multiset.coe_eq_coe.mp (by simpa using hcalled)⟩

theorem deliveredOnce_immediate (h : Settled s i batches bus 0) (hdebounce : s.debounceWindowMs = 0) :
    DeliveredOnce s i bus := by
  obtain ⟨hadded, hcalled⟩ := h.perms
  obtain ⟨state, -, haccounted⟩ := h
  rw [calls, if_pos hdebounce] at hcalled
  refine ⟨batches, batches, haccounted.nonempty, hadded, List.forall₂_same.mpr (fun b hb => ?_), hcalled⟩
  obtain ⟨event, rfl⟩ := haccounted.single hdebounce b hb
  exact ⟨List.Sublist.refl _, List.pairwise_singleton _ _, fun e he => .inl he⟩

theorem deliveredOnce_nothing (h : Settled s i [] bus 0) : DeliveredOnce s i bus := by
  obtain ⟨hadded, hcalled⟩ := h.perms
  refine ⟨[], [], by simp, hadded, .nil, hcalled.trans (List.Perm.of_eq ?_)⟩
  simp [calls]

theorem flatten_sublist {batches delivered : List (List (Event π μ))}
    (h : List.Forall₂ Deduplicated batches delivered) : delivered.flatten.Sublist batches.flatten := by
  induction h with
  | nil => exact List.Sublist.refl _
  | cons hfirst _ ih => exact hfirst.sublist.append ih

theorem not_deliveredOnce (h : Settled s i batches bus 0) (hdebounce : s.debounceWindowMs ≠ 0) (hne : batches ≠ [])
    (hdistinct : bus.sent.Nodup) : ¬ DeliveredOnce s i bus := by
  rintro ⟨others, delivered, -, hadded, hdeduplicated, hdelivered⟩
  obtain ⟨-, hcalled⟩ := h.perms
  obtain ⟨state, -, haccounted⟩ := h
  rw [calls, if_neg hdebounce, List.map_append] at hcalled
  have hothers : others.flatten.Nodup :=
    (List.nodup_append.mp (hadded.nodup_iff.mpr (hdistinct.filter _))).1
  have hflat : (bus.handled i).flatten.Nodup :=
    hdelivered.flatten.nodup_iff.mpr (hothers.sublist (flatten_sublist hdeduplicated))
  have htwice := hcalled.flatten.nodup_iff.mp hflat
  rw [List.flatten_append] at htwice
  obtain ⟨b, rest, rfl⟩ := List.exists_cons_of_ne_nil hne
  have hunique : uniqueEvents b ≠ [] := fun h =>
    haccounted.nonempty b List.mem_cons_self (uniqueEvents_eq_nil_iff.mp h)
  obtain ⟨e, he⟩ := List.exists_mem_of_ne_nil _ hunique
  have hmem : e ∈ ((b :: rest).map uniqueEvents).flatten :=
    List.mem_flatten.mpr ⟨uniqueEvents b, List.mem_map_of_mem List.mem_cons_self, he⟩
  exact (List.nodup_append.mp htwice).2.2 e hmem e hmem rfl

end once

section runs

variable {s i}

theorem books_start {subscribers : List Subscriber} (hs : subscribers[i]? = some s) :
    Books s i [] ⟨⟨[], EventBus.of subscribers⟩, fun _ => (0 : Debt π μ)⟩ := by
  refine ⟨fun j p hp => by simp [Tracked.prog] at hp, ⟨s, [], []⟩, by simp [EventBus.of, hs], ?_⟩
  refine ⟨rfl, by simp, ?_, ?_, fun _ => rfl, by simp⟩
  · simp [Tracked.total, EventBus.of]
  · simp [Tracked.total, calls]

theorem pool_run (w : Tracked (busSig π μ) Empty Lock (Call π μ) (EventBus π μ) (Debt π μ))
    (ticks : List (BusTick π μ)) : (ticks.foldl (deliveryTracking s i).step w).pool =
      ticks.foldl (Pool.step (scheme π μ)) w.pool := by
  induction ticks generalizing w with
  | nil => rfl
  | cons tick ticks ih => rw [List.foldl_cons, List.foldl_cons, ih, pool_step]

/-- Exactly once, as long as no tick of the flush task finds an event in the subscriber's buffer; and, where no
event is published twice, no longer. -/
theorem delivered_once_iff {subscribers : List Subscriber} (hs : subscribers[i]? = some s) (ticks : List (BusTick π μ))
    (hfinished : Finished (ticks.foldl (Pool.step (scheme π μ)) ⟨[], EventBus.of subscribers⟩)) :
    (Meets (Pool.step (scheme π μ)) (fun P tick => drainedIn i P tick = []) ⟨[], EventBus.of subscribers⟩ ticks →
      DeliveredOnce s i (ticks.foldl (Pool.step (scheme π μ)) ⟨[], EventBus.of subscribers⟩).state) ∧
    ((ticks.foldl (Pool.step (scheme π μ)) ⟨[], EventBus.of subscribers⟩).state.sent.Nodup →
      DeliveredOnce s i (ticks.foldl (Pool.step (scheme π μ)) ⟨[], EventBus.of subscribers⟩).state →
      Meets (Pool.step (scheme π μ)) (fun P tick => drainedIn i P tick = []) ⟨[], EventBus.of subscribers⟩ ticks) := by
  obtain ⟨batches, hbooks, himmediate, hdebounced⟩ := (books_start hs).run ticks
  have hpool := pool_run (s := s) (i := i) ⟨⟨[], EventBus.of subscribers⟩, fun _ => (0 : Debt π μ)⟩ ticks
  have hsettled := hbooks.finished (hpool ▸ hfinished)
  rw [hpool] at hsettled
  by_cases hdebounce : s.debounceWindowMs = 0
  · exact ⟨fun _ => deliveredOnce_immediate hsettled hdebounce, fun _ _ => himmediate hdebounce⟩
  · obtain ⟨hiff, -⟩ := hdebounced hdebounce
    refine ⟨fun hquiet => ?_, fun hdistinct honce => ?_⟩
    · rw [hiff.mpr hquiet] at hsettled
      exact deliveredOnce_nothing hsettled
    · by_contra hloud
      exact not_deliveredOnce hsettled hdebounce (fun h => hloud (hiff.mp h)) hdistinct honce

end runs

def immediate : Subscriber := ⟨EventFilter.all, 0⟩

/-- An update of a host is published, then the flush task of subscriber 0 ticks. -/
def publishedAndFlushed : List (BusTick ℕ Unit) :=
  .spawn (.publish (hostUpdated 5 0 1)) :: List.replicate 7 (.run 0 (succeeding ℕ Unit)) ++
    .spawn (.tick 0) :: List.replicate 5 (.run 1 (succeeding ℕ Unit))

omit [DecidableEq π] [DecidableEq μ] in
theorem finished_of_progs {P : BusPool π μ} (h : P.threads.map Thread.prog = [.ret (), .ret ()]) : Finished P := by
  intro t ht
  have hmem : t.prog ∈ P.threads.map Thread.prog := List.mem_map_of_mem ht
  rw [h] at hmem
  simpa using hmem

theorem delivered_once_immediate : DeliveredOnce immediate 0
    (publishedAndFlushed.foldl (Pool.step (scheme ℕ Unit)) ⟨[], EventBus.of [immediate]⟩).state := by
  have hs : [immediate][0]? = some immediate := rfl
  have hfinished : Finished (publishedAndFlushed.foldl (Pool.step (scheme ℕ Unit)) ⟨[], EventBus.of [immediate]⟩) :=
    finished_of_progs rfl
  exact (delivered_once_iff hs publishedAndFlushed hfinished).1 (by decide)

/-- What was waiting is handed over twice when the flush task ticks. -/
theorem flushed_batch_delivered_twice : ¬ ∀ (subscribers : List Subscriber) (i : ℕ) (s : Subscriber),
    subscribers[i]? = some s → ∀ ticks : List (BusTick ℕ Unit),
      Finished (ticks.foldl (Pool.step (scheme ℕ Unit)) ⟨[], EventBus.of subscribers⟩) →
      DeliveredOnce s i (ticks.foldl (Pool.step (scheme ℕ Unit)) ⟨[], EventBus.of subscribers⟩).state := by
  intro h
  obtain ⟨batches, delivered, -, hadded, hdeduplicated, hdelivered⟩ :=
    h [debounced] 0 debounced rfl publishedAndFlushed (finished_of_progs rfl)
  have hcalled : (publishedAndFlushed.foldl (Pool.step (scheme ℕ Unit)) ⟨[], EventBus.of [debounced]⟩).state.handled 0 =
      [[hostUpdated 5 0 1], [hostUpdated 5 0 1]] := by decide
  have hsent : ((publishedAndFlushed.foldl (Pool.step (scheme ℕ Unit)) ⟨[], EventBus.of [debounced]⟩).state.sent.filter
      debounced.eventFilter.matchesEvent).length = 1 := by decide
  have htwo := hdelivered.flatten.length_eq
  rw [hcalled] at htwo
  have hone := hadded.length_eq
  rw [hsent, List.length_append] at hone
  have hle := (flatten_sublist hdeduplicated).length_le
  simp only [List.flatten_cons, List.flatten_nil, List.append_nil, List.cons_append, List.nil_append, List.length_cons,
    List.length_nil] at htwo
  omega

end VantageNet.Events
