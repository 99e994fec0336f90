import WafWatch.Live.Session
import WafWatch.Proofs.Live.Numbering
import WafWatch.Proofs.Live.Station

/-!
This module contains what one step of a session does. The reader takes one frame after the other and gives the
hub one command for every text, until a frame is the last one or there is another cause to stop; the writer
touches nothing but the queue of the subscriber.
-/

namespace WafWatch

namespace Frame

/--
The command that a frame from the subscriber of an id leads to, where texts may have up to `limit` octets and
`wording` is what the JSON library says about a text that is no request.
-/
def command? (wording : String → String) (id limit : Nat) : Frame → Option HubCommand
  | .text content =>
    if content.utf8ByteSize ≤ limit then
      match ClientRequest.parse content with
      | .ok request => some (.request id request)
      | .error _ => some (.reject id ("invalid request: " ++ wording content))
    else none
  | _ => none

/--
No frame is read after this one.
-/
def isLast (limit : Nat) : Frame → Bool
  | .text content => limit < content.utf8ByteSize
  | .pong => false
  | .other => false
  | .close => true
  | .failure => true
  | .ended => true

end Frame

theorem Reaction.ofFrame_cases (wording : String → String) (id limit : Nat) (frame : Frame)
    : (∃ command, ofFrame wording id limit frame = .send command ∧ frame.isLast limit = false
        ∧ frame.command? wording id limit = some command ∧ command.about? = some id)
        ∨
      (∃ reason, ofFrame wording id limit frame = .stop reason ∧ frame.isLast limit = true
        ∧ frame.command? wording id limit = none)
        ∨
      (ofFrame wording id limit frame = .nothing ∨ ofFrame wording id limit frame = .refresh)
        ∧ frame.isLast limit = false ∧ frame.command? wording id limit = none := by
  cases frame with
  | text text =>
    by_cases hsize : text.utf8ByteSize ≤ limit
    . left
      refine ⟨commandOf wording id text, ?_, ?_, ?_, ?_⟩
      . exact if_neg (Nat.not_lt.mpr hsize)
      . simpa [Frame.isLast] using hsize
      . simp only [Frame.command?, if_pos hsize, commandOf, rejectionLead]
        cases ClientRequest.parse text <;> rfl
      . unfold commandOf
        cases ClientRequest.parse text <;> rfl
    . right
      left
      refine ⟨.tooLarge, ?_, ?_, if_neg hsize⟩
      . exact if_pos (Nat.lt_of_not_le hsize)
      . simpa [Frame.isLast] using hsize
  | pong => exact .inr (.inr ⟨.inr rfl, rfl, rfl⟩)
  | other => exact .inr (.inr ⟨.inl rfl, rfl, rfl⟩)
  | close => exact .inr (.inl ⟨.clientClosed, rfl, rfl, rfl⟩)
  | failure => exact .inr (.inl ⟨.readError, rfl, rfl, rfl⟩)
  | ended => exact .inr (.inl ⟨.connectionClosed, rfl, rfl, rfl⟩)

namespace ReaderPhase

/--
The reader has not stopped.
-/
def isReading : ReaderPhase → Bool
  | .reading _ => true
  | .sending .. => true
  | _ => false

/--
The hub has been told, or cannot be told, that the subscriber leaves.
-/
def isGone : ReaderPhase → Bool
  | .closing _ => true
  | .waiting => true
  | .finished => true
  | _ => false

/--
What the hub is told at the end.
-/
def farewell (id : Nat) (phase : ReaderPhase) : List HubCommand :=
  if phase.isGone then [.unregister id] else []

/--
What the reader waits to send.
-/
def pending? (id : Nat) : ReaderPhase → Option HubCommand
  | .sending command _ => some command
  | .leaving _ => some (.unregister id)
  | _ => none

end ReaderPhase

namespace Session

/-! ### The reader -/

/--
What the reader may do next. When there are several causes to go on, any of them may be taken notice of.
-/
inductive Moves (session : Session) : Session → Prop where
  | read {deadline : Nat} {frame : Frame} {frames : List Frame}
      (hreading : session.reader = .reading deadline) (hframes : session.frames = frame :: frames) :
      session.Moves ({ session with frames }.react deadline
        (.ofFrame session.wording session.id session.settings.maxMessageSize frame))
  | notice {deadline : Nat} {reason : EndReason} (hreading : session.reader = .reading deadline)
      (hcause : session.cancelled = true ∨ deadline ≤ session.clock) :
      session.Moves (session.leave reason)
  | send {command : HubCommand} {deadline : Nat} {station : Station}
      (hsending : session.reader = .sending command deadline)
      (hpost : session.station.post command = .ok station) :
      session.Moves { session with station, reader := .reading deadline }
  | fail {command : HubCommand} {deadline : Nat}
      (hsending : session.reader = .sending command deadline)
      (hlost : session.station.isLost = true) :
      session.Moves (session.leave .hubClosed)
  | depart {reason : EndReason} {station : Station} {patience : Nat}
      (hleaving : session.reader = .leaving reason)
      (hpost : session.station.post (.unregister session.id) = .ok station) :
      session.Moves { session with station, reader := .closing patience }
  | vanish {reason : EndReason} {patience : Nat} (hleaving : session.reader = .leaving reason)
      (hlost : session.station.isLost = true) :
      session.Moves { session with reader := .closing patience }
  | await {phase : ReaderPhase} {cancelled : Bool} (hgone : session.reader.isGone = true)
      (hphase : phase.isGone = true) (hcancelled : session.cancelled = true → cancelled = true) :
      session.Moves { session with cancelled, reader := phase }

/--
Read the next frame, whatever else there is to take notice of.
-/
def readAnyway? (session : Session) : Option Session :=
  match session.reader with
  | .reading deadline => session.readFrame? deadline
  | _ => none

/--
Take notice of the deadline, whatever else there is to take notice of.
-/
def expire? (session : Session) : Option Session :=
  match session.reader with
  | .reading deadline => if deadline ≤ session.clock then some (session.leave .deadline) else none
  | _ => none

variable {session after : Session}

theorem react_station (session : Session) (deadline : Nat) (reaction : Reaction) :
    (session.react deadline reaction).station = session.station := by
  cases reaction <;> rfl

theorem moves_of_readFrame? {deadline : Nat} (hreading : session.reader = .reading deadline)
    (h : session.readFrame? deadline = some after)
    : session.Moves after := by
  unfold readFrame? at h
  split at h
  . contradiction
  . next frame frames hframes =>
    cases h
    exact .read hreading hframes

theorem moves_of_readAnyway? (h : session.readAnyway? = some after) : session.Moves after := by
  unfold readAnyway? at h
  split at h
  . next deadline hreading => exact moves_of_readFrame? hreading h
  . contradiction

theorem moves_of_expire? (h : session.expire? = some after) : session.Moves after := by
  unfold expire? at h
  split at h
  . next deadline hreading =>
    split at h
    . next hdue =>
      cases h
      exact .notice hreading (.inr hdue)
    . contradiction
  . contradiction

theorem moves_of_reading {deadline : Nat} (hreading : session.reader = .reading deadline)
    (h : session.readerStep? = some after)
    : session.Moves after := by
  simp only [readerStep?, hreading] at h
  split at h
  . next hcancelled =>
    cases h
    exact .notice hreading (.inl hcancelled)
  . split at h
    . next hdue =>
      cases h
      exact .notice hreading (.inr hdue)
    . exact moves_of_readFrame? hreading h

theorem moves_of_sending {command : HubCommand} {deadline : Nat}
    (hsending : session.reader = .sending command deadline) (h : session.readerStep? = some after)
    : session.Moves after := by
  simp only [readerStep?, hsending] at h
  split at h
  . next station hpost =>
    cases h
    exact .send hsending hpost
  . next hclosed =>
    cases h
    exact .fail hsending (Station.isLost_of_post hclosed)
  . contradiction

theorem moves_of_leaving {reason : EndReason} (hleaving : session.reader = .leaving reason)
    (h : session.readerStep? = some after)
    : session.Moves after := by
  simp only [readerStep?, hleaving] at h
  split at h
  . next station hpost =>
    cases h
    exact .depart hleaving hpost
  . next hclosed =>
    cases h
    exact .vanish hleaving (Station.isLost_of_post hclosed)
  . contradiction

theorem moves_of_closing {patience : Nat} (hclosing : session.reader = .closing patience)
    (h : session.readerStep? = some after)
    : session.Moves after := by
  have hgone : session.reader.isGone = true := congrArg ReaderPhase.isGone hclosing
  simp only [readerStep?, hclosing] at h
  split at h
  . cases h
    exact .await hgone rfl fun hcancelled => hcancelled
  . split at h
    . cases h
      exact .await hgone rfl fun _ => rfl
    . contradiction

theorem moves_of_waiting (hwaiting : session.reader = .waiting) (h : session.readerStep? = some after)
    : session.Moves after := by
  have hgone : session.reader.isGone = true := congrArg ReaderPhase.isGone hwaiting
  simp only [readerStep?, hwaiting] at h
  split at h
  . cases h
    exact .await hgone rfl fun hcancelled => hcancelled
  . contradiction

theorem moves_of_readerStep? (h : session.readerStep? = some after) : session.Moves after := by
  cases hreader : session.reader with
  | reading deadline => exact moves_of_reading hreader h
  | sending command deadline => exact moves_of_sending hreader h
  | leaving reason => exact moves_of_leaving hreader h
  | closing patience => exact moves_of_closing hreader h
  | waiting => exact moves_of_waiting hreader h
  | finished => simp [readerStep?, hreader] at h

/--
Whatever the reader waits to send, it waits only for room in the mailbox.
-/
theorem full_of_readerStep?_eq_none {command : HubCommand}
    (hpending : session.reader.pending? session.id = some command) (h : session.readerStep? = none)
    : session.station.isLost = false
        ∧ session.station.mailbox.capacity ≤ session.station.mailbox.items.length := by
  have hfull : session.station.post command = .error .full := by
    cases hreader : session.reader with
    | sending own deadline =>
      rw [hreader] at hpending
      cases hpending
      simp only [readerStep?, hreader] at h
      split at h
      . contradiction
      . contradiction
      . next hfull => exact hfull
    | leaving reason =>
      rw [hreader] at hpending
      cases hpending
      simp only [readerStep?, hreader] at h
      split at h
      . contradiction
      . contradiction
      . next hfull => exact hfull
    | _ => simp [hreader, ReaderPhase.pending?] at hpending
  exact Station.full_of_post hfull

/-! ### The writer -/

/--
What comes to the hub when the writer of a subscriber gets something to take notice of.
-/
def takingOf (id : Nat) : WriterEvent → List HubEvent
  | .message _ => [.take id]
  | _ => []

/--
What comes to the hub when the writer has taken notice of it.
-/
def endingOf (id : Nat) (writer : Writer) (event : WriterEvent) : List HubEvent :=
  if writer.step event = .done then [.abandon id] else []

/--
What comes to the hub with the next step of the writer.
-/
def writerEvents (session : Session) : List HubEvent :=
  match session.writerEvent? with
  | some (event, _) => takingOf session.id event ++ endingOf session.id session.writer event
  | none => []

/--
It is the session of the same subscriber still, with what it was given at its beginning.
-/
structure Continues (session after : Session) : Prop where
  id : after.id = session.id
  settings : after.settings = session.settings
  wording : after.wording = session.wording

theorem Continues.refl (session : Session) : session.Continues session :=
  ⟨rfl, rfl, rfl⟩

theorem Continues.trans {middle : Session} (h : session.Continues middle) (h' : middle.Continues after)
    : session.Continues after where
  id := h'.id.trans h.id
  settings := h'.settings.trans h.settings
  wording := h'.wording.trans h.wording

/--
Nothing has been done to the reader and to what it has still to read.
-/
structure Keeps (session after : Session) : Prop extends session.Continues after where
  reader : after.reader = session.reader
  frames : after.frames = session.frames

/--
The writer keeps away from the reader. What it does to the hub is some events.
-/
structure Writes (session : Session) (events : List HubEvent) (after : Session) : Prop
    extends session.Keeps after where
  station : after.station = { session.station with hub := session.station.hub.run events }

theorem Writes.refl (session : Session) : session.Writes [] session :=
  ⟨⟨.refl session, rfl, rfl⟩, rfl⟩

theorem Writes.trans {middle : Session} {events events' : List HubEvent}
    (h : session.Writes events middle) (h' : middle.Writes events' after)
    : session.Writes (events ++ events') after where
  toContinues := h.toContinues.trans h'.toContinues
  reader := h'.reader.trans h.reader
  frames := h'.frames.trans h.frames
  station := by rw [h'.station, h.station, Hub.run_append]

theorem writes_of_writerEvent? {event : WriterEvent} (h : session.writerEvent? = some (event, after))
    : after.writer = session.writer ∧ session.Writes (takingOf session.id event) after := by
  unfold writerEvent? at h
  split at h
  . contradiction
  . split at h
    . cases h
      exact ⟨rfl, .refl session⟩
    . contradiction
  . split at h
    . cases h
      exact ⟨rfl, .refl session⟩
    . split at h
      . next envelope hub htake =>
        cases h
        have hstep : session.station.hub.step (.take session.id) = hub := by
          simp only [Hub.step, htake]
        refine ⟨rfl, ⟨⟨rfl, rfl, rfl⟩, rfl, rfl⟩, ?_⟩
        rw [← hstep]
        rfl
      . split at h
        . cases h
          exact ⟨rfl, .refl session⟩
        . split at h
          . cases h
            exact ⟨rfl, ⟨⟨rfl, rfl, rfl⟩, rfl, rfl⟩, rfl⟩
          . contradiction

theorem writes_tellWriter (session : Session) (event : WriterEvent)
    : session.Writes (endingOf session.id session.writer event) (session.tellWriter event) := by
  unfold tellWriter endingOf
  by_cases hdone : session.writer.step event = .done
  . simp only [if_pos hdone]
    split
    . exact ⟨⟨⟨rfl, rfl, rfl⟩, rfl, rfl⟩, rfl⟩
    . exact ⟨⟨⟨rfl, rfl, rfl⟩, rfl, rfl⟩, rfl⟩
  . simp only [if_neg hdone]
    split
    . exact ⟨⟨⟨rfl, rfl, rfl⟩, rfl, rfl⟩, rfl⟩
    . exact ⟨⟨⟨rfl, rfl, rfl⟩, rfl, rfl⟩, rfl⟩

theorem writes_of_writerStep? (h : session.writerStep? = some after) :
    session.Writes session.writerEvents after := by
  unfold writerStep? at h
  rw [Option.map_eq_some_iff] at h
  obtain ⟨⟨event, between⟩, hevent, rfl⟩ := h
  obtain ⟨hwriter, hwrites⟩ := writes_of_writerEvent? hevent
  have htold := between.writes_tellWriter event
  rw [hwriter, hwrites.id] at htold
  unfold writerEvents
  rw [hevent]
  exact hwrites.trans htold

end Session

end WafWatch
