import VantageNet.Events.Types
import VantageNet.Interaction.Tracking

/-!
`EventBus` (`shared/events/bus.rs`). `handle_events` belongs to the subscriber: its calls are
recorded, and the environment answers them. The broadcast channel keeps what was sent.
-/

namespace VantageNet.Events

open Interaction Interaction.Program

/-- `EventSubscriber` without its handler. -/
structure Subscriber where
  eventFilter : EventFilter
  debounceWindowMs : ℕ

structure SubscriberState (π μ : Type) where
  subscriber : Subscriber
  pendingEvents : List (Event π μ)
  handled : List (List (Event π μ))

structure EventBus (π μ : Type) where
  sent : List (Event π μ)
  subscribers : List (SubscriberState π μ)

inductive Lock where
  | subscribers
  | pendingEvents (subscriber : ℕ)
  deriving DecidableEq

inductive BusOp (π μ : Type) where
  | acquire (lock : Lock) (exclusive : Bool)
  | release (lock : Lock)
  | send (event : Event π μ)
  | subscribers
  | addSubscriber (subscriber : Subscriber)
  | push (subscriber : ℕ) (event : Event π μ)
  | drain (subscriber : ℕ)
  | handleEvents (subscriber : ℕ) (events : List (Event π μ))

@[reducible]
def BusOp.Reply {π μ : Type} : BusOp π μ → Type
  | .subscribers => List Subscriber
  | .drain _ => List (Event π μ)
  | .handleEvents _ _ => Bool
  | _ => Unit

abbrev busSig (π μ : Type) : Signature := ⟨BusOp π μ, BusOp.Reply⟩

abbrev Async (π μ : Type) := Program (busSig π μ) Empty

variable {π μ : Type}

def EventBus.modify (bus : EventBus π μ) (subscriber : ℕ) (f : SubscriberState π μ → SubscriberState π μ) :
    EventBus π μ := { bus with subscribers := bus.subscribers.modify subscriber f }

def EventBus.pendingEvents (bus : EventBus π μ) (subscriber : ℕ) : List (Event π μ) :=
  match bus.subscribers[subscriber]? with
  | some state => state.pendingEvents
  | none => []

def EventBus.handled (bus : EventBus π μ) (subscriber : ℕ) : List (List (Event π μ)) :=
  match bus.subscribers[subscriber]? with
  | some state => state.handled
  | none => []

def busStep : Handler (busSig π μ) (EventBus π μ)
  | .send event, a, bus => (a, { bus with sent := bus.sent ++ [event] })
  | .subscribers, _, bus => (bus.subscribers.map SubscriberState.subscriber, bus)
  | .addSubscriber subscriber, a, bus => (a, { bus with subscribers := bus.subscribers ++ [⟨subscriber, [], []⟩] })
  | .push i event, a, bus => (a, bus.modify i (fun s => { s with pendingEvents := s.pendingEvents ++ [event] }))
  | .drain i, _, bus => (bus.pendingEvents i, bus.modify i (fun s => { s with pendingEvents := [] }))
  | .handleEvents i events, a, bus => (a, bus.modify i (fun s => { s with handled := s.handled ++ [events] }))
  | .acquire _ _, a, bus => (a, bus)
  | .release _, a, bus => (a, bus)

def BusOp.lockAction : BusOp π μ → LockAction Lock
  | .acquire lock exclusive => .acquire lock exclusive
  | .release lock => .release lock
  | _ => .none

abbrev acquire (lock : Lock) (exclusive : Bool) : Async π μ Unit := .op (BusOp.acquire lock exclusive) .ret
abbrev release (lock : Lock) : Async π μ Unit := .op (BusOp.release lock) .ret
abbrev handleEvents (subscriber : ℕ) (events : List (Event π μ)) : Async π μ Unit :=
  .op (BusOp.handleEvents subscriber events) (fun _ => .ret ())

variable [DecidableEq μ]

def uniqueEvents (events : List (Event π μ)) : List (Event π μ) :=
  events.foldl (fun unique event => if unique.any (fun u => u.eq event) then unique else unique ++ [event]) []

def flushBatch (subscriber : ℕ) : Async π μ Unit := do
  acquire (.pendingEvents subscriber) true
  let pending ← (.op (BusOp.drain subscriber) .ret : Async π μ (List (Event π μ)))
  release (.pendingEvents subscriber)
  let events := uniqueEvents pending
  if events.isEmpty then return ()
  else
    handleEvents subscriber events
    handleEvents subscriber events

omit [DecidableEq μ] in
def addEvent (event : Event π μ) (subscriber : Subscriber × ℕ) : Async π μ Unit :=
  if subscriber.1.debounceWindowMs = 0 then handleEvents subscriber.2 [event]
  else do
    acquire (.pendingEvents subscriber.2) true
    (.op (BusOp.push subscriber.2 event) .ret : Async π μ Unit)
    release (.pendingEvents subscriber.2)

def notify (event : Event π μ) (subscriber : Subscriber × ℕ) : Async π μ Unit :=
  when (subscriber.1.eventFilter.matchesEvent event) (addEvent event subscriber)

def publish (event : Event π μ) : Async π μ Unit := do
  (.op (BusOp.send event) .ret : Async π μ Unit)
  acquire .subscribers false
  let subscribers ← (.op BusOp.subscribers .ret : Async π μ (List Subscriber))
  forEach (notify event) subscribers.zipIdx
  release .subscribers

def registerSubscriber (subscriber : Subscriber) : Async π μ Unit := do
  acquire .subscribers true
  (.op (BusOp.addSubscriber subscriber) .ret : Async π μ Unit)
  release .subscribers

inductive Call (π μ : Type) where
  | publish (event : Event π μ)
  | registerSubscriber (subscriber : Subscriber)
  | tick (subscriber : ℕ)

def Call.program : Call π μ → Async π μ Unit
  | .publish event => Events.publish event
  | .registerSubscriber subscriber => Events.registerSubscriber subscriber
  | .tick subscriber => flushBatch subscriber

def scheme (π μ : Type) [DecidableEq μ] : Scheme (busSig π μ) Empty Lock (Call π μ) (EventBus π μ) :=
  ⟨Call.program, BusOp.lockAction, busStep⟩

/-- A bus to which nothing was published yet. -/
def EventBus.of (subscribers : List Subscriber) : EventBus π μ := ⟨[], subscribers.map (fun s => ⟨s, [], []⟩)⟩

/-- Handlers that always succeed. -/
def succeeding (π μ : Type) : (o : BusOp π μ) → o.Reply
  | .subscribers => []
  | .drain _ => []
  | .handleEvents _ _ => true
  | .acquire _ _ => ()
  | .release _ => ()
  | .send _ => ()
  | .addSubscriber _ => ()
  | .push _ _ => ()

/-- Host 1 of network 9 was updated by the system; its new state is `record`. -/
def hostUpdated (id : Uuid) (timestamp : Instant) (record : ℕ) : Event ℕ Unit :=
  .entity ⟨id, ⟨.host, record⟩, 1, some 9, none, .updated, timestamp, .system, ()⟩

def debounced : Subscriber := ⟨EventFilter.all, 200⟩

end VantageNet.Events
