import WafWatch.Live.Identity
import WafWatch.Live.Message
import WafWatch.Live.Queue
import WafWatch.Live.Request
import WafWatch.Live.Settings
import WafWatch.Store.Snapshot

/-!
This module contains the hub, which alone decides who is subscribed and what each subscriber is sent. It
handles one command at a time. A subscriber that cannot take a message which goes to everybody loses its
place; a reply that it cannot take is lost, but the subscriber stays.
-/

namespace WafWatch

/--
A command to the hub.
-/
inductive HubCommand where
  /-- Register a subscriber. Whoever asked for it may have stopped waiting for the answer. -/
  | register (identity : Identity) (awaited : Bool)
  | unregister (id : Nat)
  /-- Send a message to every subscriber. -/
  | broadcast (envelope : Envelope)
  /-- Answer a request of a subscriber. -/
  | request (id : Nat) (request : ClientRequest)
  /-- Tell a subscriber that its request cannot be understood. -/
  | reject (id : Nat) (reason : String)
  /-- Count the subscribers. -/
  | count (awaited : Bool)
  deriving DecidableEq, Repr, Inhabited

/--
What the hub answers to whoever sent a command.
-/
inductive HubReply where
  | registered (id : Nat) (identity : Identity)
  | clients (n : Nat)
  deriving DecidableEq, Repr, Inhabited

/--
A subscriber with the queue of messages that it has still to take. A subscriber that lost its place can
still take what was put on its queue before.
-/
structure Subscriber where
  id : Nat
  identity : Identity
  queue : BoundedQueue Envelope
  /-- The hub sends messages to the subscriber. -/
  connected : Bool := true
  deriving DecidableEq, Repr, Inhabited

/--
The hub, with all subscribers there ever were.
-/
structure Hub where
  /-- The number of messages that a queue holds at most. -/
  queueCapacity : Nat
  /-- The limit of a request for events that does not give one. -/
  defaultLogLimit : Int
  /-- The id that was given last. -/
  lastId : Nat := 0
  subscribers : List Subscriber := []
  deriving DecidableEq, Repr, Inhabited

def Refusal.label : Refusal → String
  | .full => "queue_full"
  | .closed => "closed"

namespace Hub

/--
The least number of messages that a queue holds: the two that a subscriber gets at the beginning.
-/
def minQueueCapacity : Nat := 2

def ofSettings (settings : LiveSettings) : Hub where
  queueCapacity := max settings.queueCapacity minQueueCapacity
  defaultLogLimit := settings.defaultLogLimit

def clients (hub : Hub) : Nat :=
  hub.subscribers.countP (·.connected)

/--
A subscriber of an id that has not lost its place.
-/
def connected? (hub : Hub) (id : Nat) : Option Subscriber :=
  hub.subscribers.find? fun s => s.id == id && s.connected

def gauge (hub : Hub) : Measurement :=
  .set ⟨.subscribers, none⟩ hub.clients

def modify (hub : Hub) (id : Nat) (change : Subscriber → Subscriber) : Hub :=
  { hub with subscribers := hub.subscribers.map fun s => if s.id = id then change s else s }

/-! ### The receiving end -/

def takeFor? (hub : Hub) (id : Nat) : Option (Envelope × Hub) :=
  match (hub.subscribers.find? (·.id == id)).bind (·.queue.take?) with
  | some (envelope, queue) => some (envelope, hub.modify id fun s => { s with queue })
  | none => none

def drainFor (hub : Hub) (id : Nat) : List Envelope × Hub :=
  match hub.subscribers.find? (·.id == id) with
  | some s => (s.queue.items, hub.modify id fun s => { s with queue := s.queue.drain.2 })
  | none => ([], hub)

def abandonFor (hub : Hub) (id : Nat) : Hub :=
  hub.modify id fun s => { s with queue := s.queue.abandon }

/-! ### Commands -/

/--
What came of a command: the hub after it, the answer to whoever sent it, and what was measured.
-/
structure Outcome where
  hub : Hub
  reply : Option HubReply := none
  measurements : List Measurement := []
  deriving DecidableEq, Repr, Inhabited

def newSubscriber (hub : Hub) (snapshot : Snapshot) (now : Time.Timestamp) (identity : Identity) :
    Subscriber where
  id := hub.lastId + 1
  identity
  queue :=
    { capacity := hub.queueCapacity
      items := [⟨.welcome ServerMessage.welcomeText, now⟩, ⟨.stats snapshot, now⟩] }

def add (hub : Hub) (snapshot : Snapshot) (now : Time.Timestamp) (identity : Identity) : Hub :=
  { hub with
    lastId := hub.lastId + 1
    subscribers := hub.subscribers ++ [hub.newSubscriber snapshot now identity] }

def disconnect (hub : Hub) (id : Nat) : Hub :=
  hub.modify id fun s => { s with connected := false }

def unregister (hub : Hub) (id : Nat) : Outcome :=
  match hub.connected? id with
  | some _ =>
    let hub := hub.disconnect id
    { hub, measurements := [hub.gauge] }
  | none => { hub }

/--
Unregister subscribers one after the other.
-/
def unregisterAll (hub : Hub) : List Nat → Outcome
  | [] => { hub }
  | id :: ids =>
    let outcome := hub.unregister id
    let rest := outcome.hub.unregisterAll ids
    { rest with measurements := outcome.measurements ++ rest.measurements }

/--
Register a subscriber. If nobody waits for that any more, the subscriber goes at once.
-/
def register (hub : Hub) (snapshot : Snapshot) (now : Time.Timestamp) (identity : Identity)
    (awaited : Bool) : Outcome :=
  let id := hub.lastId + 1
  let hub := hub.add snapshot now identity
  if awaited then
    { hub, reply := some (.registered id identity), measurements := [hub.gauge] }
  else
    let outcome := hub.unregister id
    { outcome with measurements := hub.gauge :: outcome.measurements }

/--
A subscriber that is offered a message, and why its queue refused the message if it did.
-/
def deliver (envelope : Envelope) (s : Subscriber) : Subscriber × Option Refusal :=
  if s.connected then
    match s.queue.offer envelope with
    | .ok queue => ({ s with queue }, none)
    | .error refusal => (s, some refusal)
  else (s, none)

/--
Offer a message to everybody. Those whose queues refused it lose their places after that.
-/
def broadcast (hub : Hub) (envelope : Envelope) : Outcome :=
  let refused := hub.subscribers.filterMap fun s => (deliver envelope s).2.map (s.id, ·)
  let offered := { hub with subscribers := hub.subscribers.map fun s => (deliver envelope s).1 }
  let outcome := offered.unregisterAll (refused.map (·.1))
  { outcome with
    measurements :=
      refused.map (fun (_, refusal) =>
        .add ⟨.subscribersEvicted, some (reasonLabel, refusal.label)⟩ 1) ++
      .add ⟨.messagesBroadcast, none⟩ 1 :: outcome.measurements }

/--
Send a reply to one subscriber. Nothing happens if it has lost its place.
-/
def reply (hub : Hub) (id : Nat) (envelope : Envelope) : Outcome :=
  match hub.connected? id with
  | none => { hub }
  | some s =>
    match s.queue.offer envelope with
    | .ok queue => { hub := hub.modify id fun s => { s with queue } }
    | .error .full => { hub, measurements := [.add ⟨.repliesDropped, none⟩ 1] }
    | .error .closed => hub.unregister id

def answer (hub : Hub) (store : EventStore) (now : Time.Timestamp) : ClientRequest → ServerMessage
  | .getLogs limit => .logs (store.recent (limit.getD hub.defaultLogLimit))
  | .getStats => .stats (store.snapshot now)

def handle (hub : Hub) (store : EventStore) (now : Time.Timestamp) : HubCommand → Outcome
  | .register identity awaited => hub.register (store.snapshot now) now identity awaited
  | .unregister id => hub.unregister id
  | .broadcast envelope => hub.broadcast envelope
  | .request id request => hub.reply id ⟨hub.answer store now request, now⟩
  | .reject id reason =>
    let outcome := hub.reply id ⟨.error reason, now⟩
    { outcome with measurements := .add ⟨.requestsRejected, none⟩ 1 :: outcome.measurements }
  | .count awaited =>
    { hub, reply := if awaited then some (.clients hub.clients) else none }

def close (hub : Hub) : Outcome :=
  let hub :=
    { hub with subscribers := hub.subscribers.map fun s => { s with connected := false } }
  { hub, measurements := [hub.gauge] }

end Hub

end WafWatch
