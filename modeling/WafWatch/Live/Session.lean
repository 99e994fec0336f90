import WafWatch.Live.Reader
import WafWatch.Live.Station
import WafWatch.Live.Writer

/-!
This module contains the session of one subscriber: a reader and a writer that work side by side on one
connection, beside the hub. The session ends when the reader ends, be it for a frame, for a deadline or
because the writer is done; the subscriber then leaves, and the writer is given some time to finish.
-/

namespace WafWatch

/--
How the transport ends a call: after some time, if ever, and with success or without.
-/
structure SinkMode where
  delay : Option Nat := some 0
  succeeds : Bool := true
  deriving DecidableEq, Repr, Inhabited

/--
The end of a call.
-/
structure CallEnd where
  time : Nat
  succeeded : Bool
  deriving DecidableEq, Repr, Inhabited

/--
The end of a call that begins at a time. A call that takes longer than it may fails when its time is over.
-/
def SinkMode.callEnd (mode : SinkMode) (start limit : Nat) : CallEnd :=
  match mode.delay with
  | some delay => if delay ≤ limit then ⟨start + delay, mode.succeeds⟩ else ⟨start + limit, false⟩
  | none => ⟨start + limit, false⟩

/--
How far the reader has come.
-/
inductive ReaderPhase where
  /-- It reads frames; a ping has to be answered before the deadline. -/
  | reading (deadline : Nat)
  /-- It has read a request, and waits for room in the mailbox of the hub. -/
  | sending (command : HubCommand) (deadline : Nat)
  /-- It has stopped reading, and the hub has to be told. -/
  | leaving (reason : EndReason)
  /-- It waits for the writer until a time at which the session is cancelled. -/
  | closing (patience : Nat)
  /-- It waits for the writer as long as that takes. -/
  | waiting
  | finished
  deriving DecidableEq, Repr, Inhabited

/--
A session, with the hub and the connection that it works on.
-/
structure Session where
  id : Nat
  settings : LiveSettings
  /-- What the JSON library says about a text that is no request. -/
  wording : String → String
  station : Station
  reader : ReaderPhase
  writer : Writer := .idle
  /-- The end of the call that the writer waits for. -/
  callEnd : CallEnd := default
  nextPing : Nat
  cancelled : Bool := false
  /-- The frames that have come and have not been read. -/
  frames : List Frame := []
  sink : SinkMode := {}
  /-- The calls that the writer has made, with their times. -/
  calls : List (Nat × SinkCall) := []

namespace Session

/--
The session of a subscriber that has been registered. Without a time between pings there is no writer.
-/
def ofSubscriber (settings : LiveSettings) (wording : String → String) (station : Station) (id : Nat)
    (sink : SinkMode) : Session where
  id
  settings
  wording
  station := if settings.pingInterval.millis = 0 then
      { station with hub := station.hub.abandonFor id }
    else station
  reader := .reading (station.clock + settings.readTimeout.millis)
  writer := if settings.pingInterval.millis = 0 then .done else .idle
  nextPing := station.clock + settings.pingInterval.millis
  sink

def clock (session : Session) : Nat :=
  session.station.clock

def isFinished (session : Session) : Bool :=
  session.reader == .finished

/-! ### The writer -/

/--
The time of the ping after the one that is due. Pings that were missed are not made up for.
-/
def pingAfter (due now period : Nat) : Nat :=
  if due + 5 < now then now + period - (now - due) % period else due + period

/--
Have the writer take notice of something. When it is done, the session is cancelled and nothing is taken
from the queue any more.
-/
def tellWriter (session : Session) (event : WriterEvent) : Session :=
  let writer := session.writer.step event
  let session :=
    match session.writer.begun? event with
    | some call =>
      { session with
        calls := session.calls ++ [(session.clock, call)]
        callEnd := session.sink.callEnd session.clock session.settings.writeTimeout.millis }
    | none => session
  if writer = .done then
    { session with
      writer
      cancelled := true
      station := { session.station with hub := session.station.hub.abandonFor session.id } }
  else { session with writer }

/--
What the writer takes notice of now, and the session without it.
-/
def writerEvent? (session : Session) : Option (WriterEvent × Session) :=
  match session.writer with
  | .done => none
  | .busy _ =>
    if session.callEnd.time ≤ session.clock then
      some (.callEnded session.callEnd.succeeded, session)
    else none
  | .idle =>
    if session.cancelled then some (.cancelled, session)
    else
      match session.station.hub.takeFor? session.id with
      | some (envelope, hub) =>
        some (.message envelope, { session with station := { session.station with hub } })
      | none =>
        if (session.station.hub.connected? session.id).isNone then some (.queueEnded, session)
        else if session.nextPing ≤ session.clock then
          let nextPing :=
            pingAfter session.nextPing session.clock session.settings.pingInterval.millis
          some (.pingDue, { session with nextPing })
        else none

def writerStep? (session : Session) : Option Session :=
  session.writerEvent?.map fun (event, session) => session.tellWriter event

/-! ### The reader -/

def leave (session : Session) (reason : EndReason) : Session :=
  { session with reader := .leaving reason }

def react (session : Session) (deadline : Nat) : Reaction → Session
  | .nothing => session
  | .refresh =>
    { session with reader := .reading (session.clock + session.settings.readTimeout.millis) }
  | .send command => { session with reader := .sending command deadline }
  | .stop reason => session.leave reason

def readFrame? (session : Session) (deadline : Nat) : Option Session :=
  match session.frames with
  | [] => none
  | frame :: frames =>
    let reaction :=
      Reaction.ofFrame session.wording session.id session.settings.maxMessageSize frame
    some ({ session with frames }.react deadline reaction)

def readerStep? (session : Session) : Option Session :=
  match session.reader with
  | .reading deadline =>
    if session.cancelled then some (session.leave .cancelled)
    else if deadline ≤ session.clock then some (session.leave .deadline)
    else session.readFrame? deadline
  | .sending command deadline =>
    match session.station.post command with
    | .ok station => some { session with station, reader := .reading deadline }
    | .error .closed => some (session.leave .hubClosed)
    | .error .full => none
  | .leaving _ =>
    let closing := ReaderPhase.closing (session.clock + 2 * session.settings.writeTimeout.millis)
    match session.station.post (.unregister session.id) with
    | .ok station => some { session with station, reader := closing }
    | .error .closed => some { session with reader := closing }
    | .error .full => none
  | .closing patience =>
    if session.writer = .done then some { session with reader := .finished }
    else if patience ≤ session.clock then
      some { session with cancelled := true, reader := .waiting }
    else none
  | .waiting => if session.writer = .done then some { session with reader := .finished } else none
  | .finished => none

/-! ### Both, and the hub -/

def hubStep? (session : Session) : Option Session :=
  (session.station.tick? <|> session.station.handleNext?.map (·.2)).map fun station =>
    { session with station }

def step? (session : Session) : Option Session :=
  session.writerStep? <|> session.hubStep? <|> session.readerStep?

/--
A number of steps within which everything that there is to do now has been done.
-/
def work (session : Session) : Nat :=
  let queued := session.station.hub.subscribers.foldl (fun n s => n + s.queue.items.length) 0
  5 * (session.station.mailbox.items.length + session.frames.length + queued) + 16

def run (session : Session) : (count : Nat) → Session
  | 0 => session
  | count + 1 =>
    match session.step? with
    | some session => run session count
    | none => session

def settle (session : Session) : Session :=
  session.run session.work

/-! ### Time -/

def timers (session : Session) : List Nat :=
  (match session.writer with
    | .idle => [session.nextPing]
    | .busy _ => [session.callEnd.time]
    | .done => []) ++
  (match session.reader with
    | .reading deadline => [deadline]
    | .closing patience => [patience]
    | _ => []) ++
  (session.station.ticker.map (·.next)).toList

/--
Advance the clock to a time, and stop on the way at most `count` times when there is something to do.
-/
def advanceTo (session : Session) (time : Nat) : (count : Nat) → Session
  | 0 => { session with station := { session.station with clock := time } }
  | count + 1 =>
    match (session.timers.filter fun t => session.clock < t && t ≤ time).min? with
    | some clock =>
      advanceTo { session with station := { session.station with clock } }.settle time count
    | none => { session with station := { session.station with clock := time } }

def advance (session : Session) (millis : Nat) : Session :=
  session.advanceTo (session.clock + millis) (millis + 1)

def receive (session : Session) (frame : Frame) : Session :=
  { session with frames := session.frames ++ [frame] }.settle

def cancel (session : Session) : Session :=
  { session with cancelled := true }.settle

end Session

end WafWatch
