import WafWatch.Live.Hub

/-!
This module contains the hub at work: the mailbox in which commands wait for it, the store that it tells
subscribers about, and the ticker that has a snapshot sent to everybody from time to time. Time is a number of
milliseconds that moves only when it is advanced; whatever is due has then been done.
-/

namespace WafWatch

/--
A ticker: when it is due next, and the time between two ticks.
-/
structure Ticker where
  next : Nat
  period : Nat
  deriving DecidableEq, Repr, Inhabited

/--
The hub at work.
-/
structure Station where
  hub : Hub
  mailbox : BoundedQueue HubCommand
  /-- The hub handles the commands of the mailbox. -/
  running : Bool := false
  store : EventStore
  /-- The source of the times in messages and of new identifiers. -/
  stamps : StampSupply
  clock : Nat := 0
  ticker : Option Ticker := none
  meter : Meter := []

namespace Station

def mailboxCapacity : Nat := 1024

/--
The greatest number of places that a queue can have.
-/
def maxPermits : Nat := UInt64.size / 8 - 1

def ofSettings (settings : LiveSettings) (store : EventStore) (stamps : StampSupply) : Station where
  hub := .ofSettings settings
  mailbox := { capacity := mailboxCapacity }
  store
  stamps

def now (station : Station) : Time.Timestamp :=
  station.stamps.next.now

/-! ### Sending commands -/

def post (station : Station) (command : HubCommand) : Except Refusal Station :=
  (station.mailbox.offer command).map fun mailbox => { station with mailbox }

def announce (station : Station) (message : ServerMessage) : Except LiveError Station :=
  match station.post (.broadcast ⟨message, station.now⟩) with
  | .ok station => .ok station
  | .error .full => .error .mailboxFull
  | .error .closed => .error .hubClosed

def tryAnnounce (station : Station) (message : ServerMessage) : Station :=
  match station.announce message with
  | .ok station => station
  | .error _ => station

/-! ### Handling commands -/

def adopt (station : Station) (outcome : Hub.Outcome) : Station :=
  { station with
    hub := outcome.hub
    meter := station.meter.recordAll outcome.measurements }

/--
The hub is lost: nobody will ever handle a command again.
-/
def isLost (station : Station) : Bool :=
  station.mailbox.abandoned

/--
Lose the hub, together with all that wait for it.
-/
def lose (station : Station) : Station :=
  { station with
    running := false
    hub := station.hub.close.hub
    mailbox := { station.mailbox with items := [], abandoned := true } }

/--
The command cannot be carried out: it asks for a queue with more places than a queue can have.
-/
def isFatal (station : Station) : HubCommand → Bool
  | .register .. => maxPermits < station.hub.queueCapacity
  | _ => false

/--
Handle the first command of the mailbox, if the hub runs. A command that cannot be carried out is the end
of the hub.
-/
def handleNext? (station : Station) : Option (Option HubReply × Station) :=
  if station.running then
    match station.mailbox.take? with
    | some (command, mailbox) =>
      if station.isFatal command then some (none, station.lose)
      else
        let outcome := station.hub.handle station.store station.now command
        some (outcome.reply, { station with mailbox }.adopt outcome)
    | none => none
  else none

/--
Handle at most `count` commands of the mailbox, and return the answers.
-/
def handleMany (station : Station) : (count : Nat) → List HubReply × Station
  | 0 => ([], station)
  | count + 1 =>
    match station.handleNext? with
    | none => ([], station)
    | some (reply, station) =>
      let (replies, station) := handleMany station count
      (reply.toList ++ replies, station)

def settle (station : Station) : List HubReply × Station :=
  station.handleMany station.mailbox.items.length

def start (station : Station) : Station :=
  if station.isLost then station else { station with running := true }.settle.2

/--
Stop the hub. All subscribers lose their places; commands stay in the mailbox.
-/
def stop (station : Station) : Station :=
  { station with running := false }.adopt station.hub.close

/-! ### Time -/

/--
Start a ticker, which is due after one period for the first time. Without a period it never ticks.
-/
def startTicker (station : Station) (period : Nat) : Station :=
  { station with
    ticker := if period = 0 then none else some ⟨station.clock + period, period⟩ }

def stopTicker (station : Station) : Station :=
  { station with ticker := none }

/--
Do what a tick does, if one is due: have a snapshot sent to everybody.
-/
def tick? (station : Station) : Option Station :=
  match station.ticker with
  | some ticker =>
    if ticker.next ≤ station.clock then
      some { station.tryAnnounce (.statsUpdate (station.store.snapshot station.now)) with
        ticker := some { ticker with next := ticker.next + ticker.period } }
    else none
  | none => none

/--
Advance the clock to a time, and stop on the way at each of at most `count` ticks.
-/
def advanceTo (station : Station) (time : Nat) : (count : Nat) → Station
  | 0 => { station with clock := time }
  | count + 1 =>
    match station.ticker.filter (·.next ≤ time) with
    | some ticker =>
      match { station with clock := ticker.next }.tick? with
      | some station => advanceTo station.settle.2 time count
      | none => { station with clock := time }
    | none => { station with clock := time }

def advance (station : Station) (millis : Nat) : Station :=
  station.advanceTo (station.clock + millis) (millis + 1)

/-! ### Calls -/

/--
Why a call is not answered.
-/
inductive CallError where
  /-- The caller stopped waiting. -/
  | timedOut
  | hubClosed
  deriving DecidableEq, Repr, Inhabited

def unawaited : HubCommand → HubCommand
  | .register identity _ => .register identity false
  | .count _ => .count false
  | command => command

def stopWaiting (station : Station) : Station :=
  { station with
    mailbox := { station.mailbox with items := station.mailbox.items.map unawaited } }

/--
Send a command, and wait for some time for room in the mailbox.
-/
def send (station : Station) (command : HubCommand) (patience : Nat) :
    Except CallError Unit × Station :=
  match station.post command with
  | .error .closed => (.error .hubClosed, station)
  | .error .full => (.error .timedOut, station.advance patience)
  | .ok station => (.ok (), station.settle.2)

/--
Send a command, and wait for some time for the answer. If the answer does not come in time, the command
stays in the mailbox, but nobody waits for its answer.
-/
def ask (station : Station) (command : HubCommand) (patience : Nat) :
    Except CallError HubReply × Station :=
  match station.post command with
  | .error .closed => (.error .hubClosed, station)
  | .error .full => (.error .timedOut, station.advance patience)
  | .ok station =>
    let (replies, station) := station.settle
    match replies.getLast? with
    | some reply => (.ok reply, station)
    | none =>
      if station.isLost then (.error .hubClosed, station)
      else (.error .timedOut, (station.advance patience).stopWaiting)

end Station

end WafWatch
