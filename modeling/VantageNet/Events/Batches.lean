import VantageNet.Events.Bus

/-!
What `flush_batch` makes of the events it drains.
-/

namespace VantageNet.Events

open Interaction Interaction.Program

variable {π μ : Type} [DecidableEq μ]

/-- Some earlier event equals this one. -/
def repeats (before : List (Event π μ)) (event : Event π μ) : Bool := before.any (fun d => d.eq event)

theorem repeats_iff {before : List (Event π μ)} {event : Event π μ} :
    repeats before event = true ↔ ∃ d ∈ before, d.eq event = true := by
  simp [repeats]

theorem repeats_of_eq {before : List (Event π μ)} {d e : Event π μ} (h : repeats before d = true)
    (heq : d.eq e = true) : repeats before e = true := by
  obtain ⟨c, hc, hcd⟩ := repeats_iff.mp h
  exact repeats_iff.mpr ⟨c, hc, Event.eq_trans hcd heq⟩

theorem repeats_append (before after : List (Event π μ)) (event : Event π μ) :
    repeats (before ++ after) event = (repeats before event || repeats after event) := List.any_append

theorem uniqueEvents_concat (b : List (Event π μ)) (e : Event π μ) :
    uniqueEvents (b ++ [e]) = if repeats (uniqueEvents b) e then uniqueEvents b else uniqueEvents b ++ [e] := by
  simp [uniqueEvents, List.foldl_append, repeats]

theorem uniqueEvents_sublist (b : List (Event π μ)) : (uniqueEvents b).Sublist b := by
  induction b using List.reverseRecOn with
  | nil => exact List.Sublist.refl []
  | append_singleton b e ih =>
    rw [uniqueEvents_concat]
    split_ifs
    · exact ih.trans (List.sublist_append_left b [e])
    · exact ih.append (List.Sublist.refl [e])

theorem uniqueEvents_pairwise (b : List (Event π μ)) : (uniqueEvents b).Pairwise (fun d e => d.eq e = false) := by
  induction b using List.reverseRecOn with
  | nil => exact .nil
  | append_singleton b e ih =>
    rw [uniqueEvents_concat]
    split_ifs with h
    · exact ih
    · refine List.pairwise_append.mpr ⟨ih, List.pairwise_singleton _ e, fun d hd x hx => ?_⟩
      rw [List.mem_singleton.mp hx]
      cases heq : d.eq e with
      | false => rfl
      | true => exact absurd (repeats_iff.mpr ⟨d, hd, heq⟩) h

theorem uniqueEvents_complete {b : List (Event π μ)} {e : Event π μ} (he : e ∈ b) :
    e ∈ uniqueEvents b ∨ repeats (uniqueEvents b) e = true := by
  induction b using List.reverseRecOn with
  | nil => cases he
  | append_singleton b x ih =>
    rw [uniqueEvents_concat]
    rcases List.mem_append.mp he with he | he
    · split_ifs
      · exact ih he
      · rw [repeats_append, List.mem_append]
        rcases ih he with h | h
        · exact .inl (.inl h)
        · exact .inr (by simp [h])
    · rw [List.mem_singleton.mp he]
      split_ifs with h
      · exact .inr h
      · exact .inl (by simp)

theorem repeats_uniqueEvents (b : List (Event π μ)) (e : Event π μ) :
    repeats (uniqueEvents b) e = repeats b e := by
  apply Bool.eq_iff_iff.mpr
  constructor
  · intro h
    obtain ⟨d, hd, heq⟩ := repeats_iff.mp h
    exact repeats_iff.mpr ⟨d, (uniqueEvents_sublist b).subset hd, heq⟩
  · intro h
    obtain ⟨d, hd, heq⟩ := repeats_iff.mp h
    rcases uniqueEvents_complete hd with hd | hd
    · exact repeats_iff.mpr ⟨d, hd, heq⟩
    · exact repeats_of_eq hd heq

section subjects

structure Subject where
  discriminant : EntityDiscriminants
  entityId : Uuid
  operation : EntityOperation
  deriving DecidableEq

omit [DecidableEq μ]

def EntityEvent.subject (event : EntityEvent π μ) : Subject :=
  ⟨event.entityType.discriminant, event.entityId, event.operation⟩

def EntityEvent.sameEntity (d e : EntityEvent π μ) : Prop :=
  d.entityType.discriminant = e.entityType.discriminant ∧ d.entityId = e.entityId

def Event.on (s : Subject) : Event π μ → Option (EntityEvent π μ)
  | .entity e => if e.subject = s then some e else none
  | _ => none

theorem on_eq_some_iff {s : Subject} {x : Event π μ} {e : EntityEvent π μ} :
    x.on s = some e ↔ x = .entity e ∧ e.subject = s := by
  cases x with
  | entity d =>
    simp only [Event.on, Option.ite_none_right_eq_some, Option.some.injEq, Event.entity.injEq]
    constructor
    · rintro ⟨h, rfl⟩
      exact ⟨rfl, h⟩
    · rintro ⟨rfl, h⟩
      exact ⟨h, rfl⟩
  | auth d => simp [Event.on]
  | telemetry d => simp [Event.on]

def eventsOn (s : Subject) (b : List (Event π μ)) : List (EntityEvent π μ) := b.filterMap (Event.on s)

def newest (s : Subject) (b : List (Event π μ)) : Option (EntityEvent π μ) := (eventsOn s b).getLast?

theorem mem_eventsOn {s : Subject} {b : List (Event π μ)} {e : EntityEvent π μ} :
    e ∈ eventsOn s b ↔ .entity e ∈ b ∧ e.subject = s := by
  simp [eventsOn, on_eq_some_iff]

theorem newest_concat (s : Subject) (b : List (Event π μ)) (x : Event π μ) :
    newest s (b ++ [x]) = (x.on s).or (newest s b) := by
  cases hx : x.on s with
  | none => simp [newest, eventsOn, hx]
  | some e => simp [newest, eventsOn, hx]

theorem newest_eq_none_iff {s : Subject} {b : List (Event π μ)} : newest s b = none ↔ eventsOn s b = [] :=
  List.getLast?_eq_none_iff

theorem newest_eq_some_iff {s : Subject} {b : List (Event π μ)} {e : EntityEvent π μ} :
    newest s b = some e ↔
      ∃ before after, b = before ++ .entity e :: after ∧ e.subject = s ∧ eventsOn s after = [] := by
  simp only [newest, eventsOn, List.getLast?_eq_some_iff, List.filterMap_eq_append_iff, List.filterMap_eq_cons_iff]
  constructor
  · rintro ⟨-, front, -, rfl, -, middle, x, after, rfl, -, hx, hafter⟩
    obtain ⟨rfl, hs⟩ := on_eq_some_iff.mp hx
    exact ⟨front ++ middle, after, by simp, hs, hafter⟩
  · rintro ⟨before, after, rfl, hs, hafter⟩
    exact ⟨_, before, _, rfl, rfl, [], _, after, rfl, by simp, on_eq_some_iff.mpr ⟨rfl, hs⟩, hafter⟩

end subjects

/-- Every event on `s` in the list repeats one before it. -/
def Echoes (s : Subject) (before : List (Event π μ)) : List (Event π μ) → Prop
  | [] => True
  | x :: rest => ((x.on s).isSome = true → repeats before x = true) ∧ Echoes s (before ++ [x]) rest

theorem echoes_append {s : Subject} {before b c : List (Event π μ)} :
    Echoes s before (b ++ c) ↔ Echoes s before b ∧ Echoes s (before ++ b) c := by
  induction b generalizing before with
  | nil => simp [Echoes]
  | cons x b ih => simp [Echoes, ih, and_assoc]

theorem echoes_concat {s : Subject} {before b : List (Event π μ)} {x : Event π μ} :
    Echoes s before (b ++ [x]) ↔ Echoes s before b ∧ ((x.on s).isSome = true → repeats (before ++ b) x = true) := by
  simp [echoes_append, Echoes]

theorem newest_uniqueEvents_concat (s : Subject) (b : List (Event π μ)) (x : Event π μ) :
    newest s (uniqueEvents (b ++ [x])) =
      if repeats b x then newest s (uniqueEvents b) else (x.on s).or (newest s (uniqueEvents b)) := by
  rw [uniqueEvents_concat, repeats_uniqueEvents]
  split_ifs
  · rfl
  · exact newest_concat s _ x

/-- The newest event on `s` that is delivered is the last one that repeats none before it. -/
theorem newest_uniqueEvents_eq_some_iff {s : Subject} {b : List (Event π μ)} {f : EntityEvent π μ} :
    newest s (uniqueEvents b) = some f ↔ ∃ front middle, b = front ++ .entity f :: middle ∧ f.subject = s ∧
      repeats front (.entity f) = false ∧ Echoes s (front ++ [.entity f]) middle := by
  induction b using List.reverseRecOn with
  | nil => simp [uniqueEvents, newest, eventsOn]
  | append_singleton b x ih =>
    rw [newest_uniqueEvents_concat]
    constructor
    · intro h
      by_cases hopens : repeats b x = false ∧ ∃ d, x.on s = some d
      · obtain ⟨hfresh, d, hd⟩ := hopens
        rw [hfresh, hd] at h
        cases h
        obtain ⟨rfl, hs⟩ := on_eq_some_iff.mp hd
        exact ⟨b, [], rfl, hs, hfresh, trivial⟩
      · have hold : newest s (uniqueEvents b) = some f := by
          cases hx : x.on s <;> cases hrepeats : repeats b x <;> simp_all
        obtain ⟨front, middle, rfl, hs, hfresh, hechoes⟩ := ih.mp hold
        refine ⟨front, middle ++ [x], by simp, hs, hfresh, echoes_concat.mpr ⟨hechoes, fun hx => ?_⟩⟩
        obtain ⟨d, hd⟩ := Option.isSome_iff_exists.mp hx
        cases hrepeats : repeats (front ++ .entity f :: middle) x with
        | true => simpa using hrepeats
        | false => exact absurd ⟨hrepeats, d, hd⟩ hopens
    · rintro ⟨front, middle, heq, hs, hfresh, hechoes⟩
      rcases List.eq_nil_or_concat' middle with rfl | ⟨middle, y, rfl⟩
      · obtain ⟨rfl, ⟨⟩⟩ := List.append_inj' heq rfl
        simp [hfresh, on_eq_some_iff.mpr ⟨rfl, hs⟩]
      · have heq : b ++ [x] = (front ++ .entity f :: middle) ++ [y] := by simpa using heq
        obtain ⟨rfl, ⟨⟩⟩ := List.append_inj' heq rfl
        obtain ⟨hechoes, hx⟩ := echoes_concat.mp hechoes
        have hold := ih.mpr ⟨front, middle, rfl, hs, hfresh, hechoes⟩
        cases hon : x.on s with
        | none => simpa using hold
        | some d =>
          have hrepeats : repeats (front ++ .entity f :: middle) x = true := by
            simpa using hx (by simp [hon])
          simpa [hrepeats] using hold

omit [DecidableEq μ] in
theorem subject_eq_of_eq [DecidableEq μ] {d e : EntityEvent π μ} (heq : (Event.entity d).eq (.entity e) = true)
    (hsame : d.sameEntity e) : d.subject = e.subject := by
  simp only [Event.eq, EntityEvent.eq, Bool.and_eq_true, decide_eq_true_eq] at heq
  simp only [EntityEvent.subject, hsame.1, hsame.2, heq.1.1.2]

/-- What the subscriber is handed of what was published. -/
structure KeepsNewest (published delivered : List (Event π μ)) : Prop where
  payload : ∀ s, (newest s delivered).map (fun e => e.entityType.record) =
    (newest s published).map (fun e => e.entityType.record)
  unmerged : ∀ d e, .entity d ∈ delivered → .entity e ∈ published → (Event.entity d).eq (.entity e) = true →
    d.sameEntity e

/-- Where the last event on a subject is a repetition, the last one that is none carries the same record. -/
structure Renewed (b : List (Event π μ)) : Prop where
  payload : ∀ front f middle e after, b = (front ++ .entity f :: middle) ++ .entity e :: after →
    f.subject = e.subject → eventsOn e.subject after = [] → repeats front (.entity f) = false →
    Echoes e.subject (front ++ [.entity f]) (middle ++ [.entity e]) → f.entityType.record = e.entityType.record
  unmerged : ∀ d e, .entity d ∈ b → .entity e ∈ b → (Event.entity d).eq (.entity e) = true → d.sameEntity e

theorem echoes_of_eventsOn_nil {s : Subject} {before after : List (Event π μ)} (h : eventsOn s after = []) :
    Echoes s before after := by
  induction after generalizing before with
  | nil => trivial
  | cons x after ih =>
    cases hx : x.on s with
    | some e => simp [eventsOn, hx] at h
    | none => exact ⟨by simp [hx], ih (by simpa [eventsOn, hx] using h)⟩

theorem unmerged_uniqueEvents {b : List (Event π μ)} (h : ∀ d e, .entity d ∈ uniqueEvents b → .entity e ∈ b →
    (Event.entity d).eq (.entity e) = true → d.sameEntity e) (d e : EntityEvent π μ) (hd : .entity d ∈ b)
    (he : .entity e ∈ b) (heq : (Event.entity d).eq (.entity e) = true) : d.sameEntity e := by
  rcases uniqueEvents_complete hd with hunique | hrepeats
  · exact h d e hunique he heq
  · obtain ⟨x, hx, hxd⟩ := repeats_iff.mp hrepeats
    cases x with
    | entity c =>
      have hcd := h c d hx hd hxd
      have hce := h c e hx he (Event.eq_trans hxd heq)
      exact ⟨hcd.1.symm.trans hce.1, hcd.2.symm.trans hce.2⟩
    | auth c => simp [Event.eq] at hxd
    | telemetry c => simp [Event.eq] at hxd

theorem KeepsNewest.renewed {b : List (Event π μ)} (h : KeepsNewest b (uniqueEvents b)) : Renewed b := by
  refine ⟨fun front f middle e after hb hs hafter hfresh hechoes => ?_, unmerged_uniqueEvents h.unmerged⟩
  have hpublished : newest e.subject b = some e := newest_eq_some_iff.mpr ⟨_, after, hb, rfl, hafter⟩
  have hdelivered : newest e.subject (uniqueEvents b) = some f := by
    refine newest_uniqueEvents_eq_some_iff.mpr ⟨front, middle ++ .entity e :: after, by simp [hb], hs, hfresh, ?_⟩
    have hrest := echoes_append.mpr ⟨hechoes, echoes_of_eventsOn_nil hafter⟩
    simpa using hrest
  have hpayload := h.payload e.subject
  rw [hpublished, hdelivered] at hpayload
  exact Option.some.inj hpayload

theorem newest_uniqueEvents_isSome {s : Subject} {b : List (Event π μ)}
    (hone : ∀ d e, .entity d ∈ b → .entity e ∈ b → (Event.entity d).eq (.entity e) = true → d.sameEntity e)
    {e : EntityEvent π μ} (he : e ∈ eventsOn s b) : ∃ f, newest s (uniqueEvents b) = some f := by
  obtain ⟨hmem, hs⟩ := mem_eventsOn.mp he
  have hne : eventsOn s (uniqueEvents b) ≠ [] := by
    rcases uniqueEvents_complete hmem with hunique | hrepeats
    · exact List.ne_nil_of_mem (mem_eventsOn.mpr ⟨hunique, hs⟩)
    · obtain ⟨x, hx, hxe⟩ := repeats_iff.mp hrepeats
      cases x with
      | entity c =>
        have hsame := hone c e ((uniqueEvents_sublist b).subset hx) hmem hxe
        exact List.ne_nil_of_mem (mem_eventsOn.mpr ⟨hx, (subject_eq_of_eq hxe hsame).trans hs⟩)
      | auth c => simp [Event.eq] at hxe
      | telemetry c => simp [Event.eq] at hxe
  cases hnewest : newest s (uniqueEvents b) with
  | none => exact absurd (newest_eq_none_iff.mp hnewest) hne
  | some f => exact ⟨f, rfl⟩

theorem Renewed.keepsNewest {b : List (Event π μ)} (h : Renewed b) : KeepsNewest b (uniqueEvents b) := by
  refine ⟨fun s => ?_, fun d e hd he => h.unmerged d e ((uniqueEvents_sublist b).subset hd) he⟩
  cases hpublished : newest s b with
  | none =>
    have hnone : eventsOn s (uniqueEvents b) = [] :=
      List.sublist_nil.mp (newest_eq_none_iff.mp hpublished ▸ (uniqueEvents_sublist b).filterMap _)
    rw [newest_eq_none_iff.mpr hnone]
  | some e =>
    obtain ⟨before, after, hb, rfl, hafter⟩ := newest_eq_some_iff.mp hpublished
    have he : e ∈ eventsOn e.subject b := mem_eventsOn.mpr ⟨by simp [hb], rfl⟩
    obtain ⟨f, hf⟩ := newest_uniqueEvents_isSome h.unmerged he
    rw [hf]
    obtain ⟨front, middle, hsplit, hs, hfresh, hechoes⟩ := newest_uniqueEvents_eq_some_iff.mp hf
    rcases List.append_eq_append_iff.mp (hb.symm.trans hsplit) with ⟨rest, rfl, hrest⟩ | ⟨rest, rfl, hrest⟩
    · cases rest with
      | nil =>
        obtain ⟨⟨⟩, -⟩ := List.cons.inj hrest
        rfl
      | cons x rest =>
        have hlater : f ∈ eventsOn e.subject after :=
          mem_eventsOn.mpr ⟨by simp [(List.cons.inj hrest).2], hs⟩
        simp [hafter] at hlater
    · cases rest with
      | nil =>
        obtain ⟨⟨⟩, -⟩ := List.cons.inj hrest
        rfl
      | cons x rest =>
        obtain ⟨rfl, rfl⟩ := List.cons.inj hrest
        have hechoes : Echoes e.subject (front ++ [.entity f]) ((rest ++ [.entity e]) ++ after) := by
          simpa using hechoes
        exact congrArg some (h.payload front f rest e after hb hs hafter hfresh (echoes_append.mp hechoes).1)

omit [DecidableEq μ] in
theorem get_modify (bus : EventBus π μ) (i j : ℕ) (f : SubscriberState π μ → SubscriberState π μ) :
    (bus.modify i f).subscribers[j]? = if i = j then (bus.subscribers[j]?).map f else bus.subscribers[j]? := by
  simp only [EventBus.modify, List.getElem?_modify]
  split_ifs <;> simp

/-- The batches that a tick of the flush task hands over. -/
def flushed (ω : Oracle (busSig π μ)) (n : ℕ) (subscriber : ℕ) (bus : EventBus π μ) : List (List (Event π μ)) :=
  ((run busStep ω n (flushBatch subscriber) bus).state.handled subscriber).drop (bus.handled subscriber).length

theorem uniqueEvents_eq_nil_iff {b : List (Event π μ)} : uniqueEvents b = [] ↔ b = [] := by
  refine ⟨fun h => ?_, fun h => by rw [h]; rfl⟩
  cases b with
  | nil => rfl
  | cons x b =>
    rcases uniqueEvents_complete (List.mem_cons_self (a := x) (l := b)) with hx | hx <;> simp [h, repeats] at hx

/-- Every batch that is not empty is handed over twice. -/
theorem flushed_eq (ω : Oracle (busSig π μ)) (n : ℕ) (subscriber : ℕ) (bus : EventBus π μ) :
    flushed ω n subscriber bus = if bus.pendingEvents subscriber = [] then []
      else [uniqueEvents (bus.pendingEvents subscriber), uniqueEvents (bus.pendingEvents subscriber)] := by
  cases hstate : bus.subscribers[subscriber]? with
  | none =>
    have hpending : bus.pendingEvents subscriber = [] := by simp [EventBus.pendingEvents, hstate]
    simp [flushed, flushBatch, busStep, hpending, uniqueEvents, EventBus.handled, get_modify, hstate]
  | some state =>
    have hpending : bus.pendingEvents subscriber = state.pendingEvents := by simp [EventBus.pendingEvents, hstate]
    by_cases hempty : state.pendingEvents = []
    · simp [flushed, flushBatch, busStep, hpending, hempty, uniqueEvents, EventBus.handled, get_modify, hstate]
    · have hunique : uniqueEvents state.pendingEvents ≠ [] := fun h => hempty (uniqueEvents_eq_nil_iff.mp h)
      simp [flushed, flushBatch, busStep, hpending, hempty, hunique, handleEvents, EventBus.handled, get_modify, hstate]

theorem newest_kept_iff (ω : Oracle (busSig π μ)) (n : ℕ) (subscriber : ℕ) (bus : EventBus π μ) :
    (∀ events ∈ flushed ω n subscriber bus, KeepsNewest (bus.pendingEvents subscriber) events) ↔
      Renewed (bus.pendingEvents subscriber) := by
  have hiff : KeepsNewest (bus.pendingEvents subscriber) (uniqueEvents (bus.pendingEvents subscriber)) ↔
      Renewed (bus.pendingEvents subscriber) := ⟨KeepsNewest.renewed, Renewed.keepsNewest⟩
  rw [flushed_eq]
  split_ifs with hempty
  · rw [hempty]
    exact ⟨fun _ => ⟨by simp, by simp⟩, fun _ => by simp⟩
  · simpa using hiff

/-- Of two updates of a host within one debounce window the older one is delivered. -/
theorem newest_dropped : ¬ ∀ (ω : Oracle (busSig ℕ Unit)) (n subscriber : ℕ) (bus : EventBus ℕ Unit),
    ∀ events ∈ flushed ω n subscriber bus, KeepsNewest (bus.pendingEvents subscriber) events := by
  intro h
  have hkeeps := h (fun _ => succeeding ℕ Unit) 0 0 ⟨[], [⟨debounced, [hostUpdated 5 0 1, hostUpdated 6 1 2], []⟩]⟩
    [hostUpdated 5 0 1] (by decide)
  exact absurd (hkeeps.payload ⟨.host, 1, .updated⟩) (by decide)

end VantageNet.Events
