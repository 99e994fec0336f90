import WafWatch.Host.Basic
import WafWatch.Live.Station
import WafWatch.Service.Error
import WafWatch.Service.Health
import WafWatch.Service.State

/-!
This module contains the live feed: a service that lets the hub run, has snapshots sent from time to time
and listens for subscribers. Commands to the hub are taken at any time, but they are handled only while
the feed runs.
-/

namespace WafWatch

/--
A token by which tasks are told to end.
-/
structure CancelToken where
  cancelled : Bool := false
  deriving DecidableEq, Repr, Inhabited

def CancelToken.cancel (_ : CancelToken) : CancelToken where
  cancelled := true

/--
A task of a feed.
-/
structure FeedTask where
  /-- It could not do its work. -/
  failed : Bool := false
  deriving DecidableEq, Repr, Inhabited

/--
A live feed.
-/
structure Feed where
  settings : LiveSettings
  state : RunState := .initialized
  /-- The hub with its mailbox. Whoever has the mailbox can send commands, whether the feed runs or not. -/
  station : Station
  /-- The feed has the hub. While it runs, its task has the hub. -/
  holdsHub : Bool := true
  /-- Tells everything to end that is not the feed's alone, and also whatever starts. -/
  parent : CancelToken := {}
  /-- Tells the tasks of the feed to end. -/
  token : Option CancelToken := none
  /-- The address at which the feed listens. -/
  localAddress : Option Net.SocketAddress := none
  /-- Lets the hub handle commands. -/
  hubTask : Option FeedTask := none
  /-- Sends snapshots from time to time. -/
  tickerTask : Option FeedTask := none
  /-- Accepts new subscribers. -/
  listenerTask : Option FeedTask := none

namespace Feed

def ofSettings (settings : LiveSettings) (store : EventStore) (stamps : StampSupply) : Feed where
  settings
  station := .ofSettings settings store stamps

/-! ### Limits -/

/--
The greatest number of seconds after which a timer can be due, on a machine that has been running for a
second at least.
-/
def maxTimerSeconds : Nat := UInt64.size / 2 - 2

/--
The listener can keep count of as many connections as it may accept.
-/
def canListen (settings : LiveSettings) : Bool :=
  settings.maxConnections ≤ Station.maxPermits

/--
There can be a timer for the time between two snapshots.
-/
def canTick (settings : LiveSettings) : Bool :=
  settings.statsInterval.millis / 1000 ≤ maxTimerSeconds

/-! ### Starting and stopping -/

def takeHub (feed : Feed) : Feed :=
  { feed with holdsHub := false }

def putHubBack (feed : Feed) : Feed :=
  { feed with holdsHub := true }

/--
Let everything run, unless it has been told to end already.
-/
def run (feed : Feed) (address : Net.SocketAddress) : Feed :=
  let token := feed.parent
  let ticking := !token.cancelled && canTick feed.settings
  let station := if token.cancelled then feed.station else feed.station.start
  { feed with
    state := .running
    station :=
      if ticking then station.startTicker feed.settings.statsInterval.millis else station
    token := some token
    localAddress := some address
    hubTask := some {}
    tickerTask := some { failed := !canTick feed.settings }
    listenerTask := some { failed := !canListen feed.settings } }

/--
Start a feed. The hub is taken before it is known whether the feed can listen.
-/
def start (feed : Feed) (host : Host) : Except ServiceError Unit × Feed :=
  if feed.state = .running then (.error .alreadyRunning, feed)
  else if !feed.holdsHub then (.error (.initFailed "broadcast hub unavailable"), feed)
  else
    let feed := feed.takeHub
    let address := feed.settings.bindAddress
    match host.listen address with
    | .error error =>
      (.error (.ofLive (.bind (String.ofList address.render) error)), feed.putHubBack)
    | .ok address => (.ok (), feed.run address)

/--
What becomes of the hub and the ticker when they are told to end.
-/
def rest (feed : Feed) : Station :=
  (if feed.station.running then feed.station.stop else feed.station).stopTicker

/--
Stop a feed. Its task gives the hub back, but a hub that has been lost does not come back.
-/
def stop (feed : Feed) : Except ServiceError Unit × Feed :=
  if feed.state = .running then
    (.ok (), { feed with
      state := .stopped
      station := feed.rest
      holdsHub := if feed.hubTask.isSome then !feed.station.isLost else feed.holdsHub
      token := none
      localAddress := none
      hubTask := none
      tickerTask := none
      listenerTask := none })
  else (.error .notRunning, feed)

def cancel (feed : Feed) : Feed :=
  { feed with
    station := feed.rest
    parent := feed.parent.cancel
    token := feed.token.map .cancel }

/-! ### Health -/

/--
The tasks of the feed have been told to end.
-/
def isCancelled (feed : Feed) : Bool :=
  feed.token.any (·.cancelled)

def health (feed : Feed) : Health :=
  match feed.state.complaint? with
  | some complaint => .unhealthy complaint
  | none =>
    if feed.hubTask.any fun _ => feed.isCancelled || feed.station.isLost then
      .unhealthy "broadcast hub exited"
    else if feed.listenerTask.any fun task => feed.isCancelled || task.failed then
      .unhealthy "websocket listener exited"
    else if feed.tickerTask.any fun task => feed.isCancelled || task.failed then
      .degraded "stats ticker exited"
    else .healthy

end Feed

end WafWatch
