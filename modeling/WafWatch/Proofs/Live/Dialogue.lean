import WafWatch.Proofs.Live.Mailbox
import WafWatch.Proofs.Live.Reader
import WafWatch.Proofs.Live.Receipt

/-!
This module contains the proof that requests and replies of a session stay in step: the reader gives the hub one
command for every text, in the order in which the texts come, and tells it at last, once, that the subscriber
leaves; the hub gives at most one reply to each of them, in the same order, and nothing after that.
-/

namespace WafWatch

/--
What the reader has not sent of what it owes the hub, as long as that is not lost.
-/
def ReaderPhase.Lacks (lost : Bool) (unsent : List HubCommand) : ReaderPhase → Prop
  | .reading _ => unsent = []
  | .sending command _ => unsent = [command]
  | .leaving _ => unsent = [] ∨ lost = true ∧ unsent.length ≤ 1
  | _ => unsent = [] ∨ lost = true ∧ unsent.length ≤ 2

/--
A step of a session, of the hub or of somebody around them.
-/
inductive DialogueStep where
  /-- A frame comes from the subscriber. -/
  | arrive (frame : Frame)
  /-- The reader does what there is to do. -/
  | reader
  /-- The reader reads a frame, although there may be a cause to stop. -/
  | readAnyway
  /-- The reader stops at the deadline, although there may be other causes to stop. -/
  | expire
  | writer
  | tick
  /-- The hub handles the first command of the mailbox. -/
  | handle
  /-- Somebody else sends a command. -/
  | post (command : HubCommand)
  /-- Whoever waits for the answer to a command of the mailbox stops waiting. -/
  | giveUp (place : Nat)
  /-- Somebody calls the store. -/
  | store (call : StoreCall)
  | take (id : Nat)
  | abandon (id : Nat)
  | resume
  | stop
  | lose
  /-- The session is cancelled from outside. -/
  | cancel
  /-- The transport changes the way in which it ends calls. -/
  | sink (mode : SinkMode)
  /-- Time passes. -/
  | wait (millis : Nat) (stamps : StampSupply)

/--
If somebody else sends a command, it is not about the subscriber of an id.
-/
def DialogueStep.Foreign (id : Nat) : DialogueStep → Prop
  | .post command => command.about? ≠ some id
  | _ => True

/--
A session with a hub and all that goes on around them.
-/
structure Dialogue where
  session : Session
  /-- The frames that have come. -/
  arrived : List Frame := []
  /-- The frames that the reader has read. -/
  read : List Frame := []
  /-- The commands that the mailbox has accepted from the reader. -/
  sent : List HubCommand := []
  /-- What has happened at the hub. -/
  log : List HubEvent := []

namespace Dialogue

/--
The session of a subscriber. Without a time between pings there is no writer, and its queue has been dropped.
-/
def start (settings : LiveSettings) (wording : String → String) (station : Station) (id : Nat)
    (sink : SinkMode) : Dialogue where
  session := .ofSubscriber settings wording station id sink
  log := if settings.pingInterval.millis = 0 then [.abandon id] else []

/--
The reader has done something. What it has read and sent is what is gone from the frames and what has come to the
mailbox.
-/
def move (dialogue : Dialogue) (after : Session) : Dialogue :=
  let before := dialogue.session
  { dialogue with
    session := after
    read := dialogue.read ++ before.frames.take (before.frames.length - after.frames.length)
    sent := dialogue.sent
      ++ after.station.mailbox.items.drop before.station.mailbox.items.length }

/--
Something has been done beside the reader.
-/
def beside (dialogue : Dialogue) (events : List HubEvent) (after : Session) : Dialogue :=
  { dialogue with session := after, log := dialogue.log ++ events }

def around (dialogue : Dialogue) (events : List HubEvent) (station : Station) : Dialogue :=
  dialogue.beside events { dialogue.session with station }

def step (dialogue : Dialogue) (step : DialogueStep) : Dialogue :=
  let session := dialogue.session
  let station := session.station
  match step with
  | .arrive frame =>
    { dialogue with
      session := { session with frames := session.frames ++ [frame] }
      arrived := dialogue.arrived ++ [frame] }
  | .reader => session.readerStep?.elim dialogue dialogue.move
  | .readAnyway => session.readAnyway?.elim dialogue dialogue.move
  | .expire => session.expire?.elim dialogue dialogue.move
  | .writer => session.writerStep?.elim dialogue (dialogue.beside session.writerEvents)
  | .tick => station.tick?.elim dialogue (dialogue.around [])
  | .handle => station.handling?.elim dialogue fun (event, after) => dialogue.around [event] after
  | .post command =>
    match station.post command with
    | .ok after => dialogue.around [] after
    | .error _ => dialogue
  | .giveUp place => dialogue.around [] (station.giveUp place)
  | .store call => dialogue.around [] (station.serve call)
  | .take id => dialogue.around [.take id] (station.act (.take id))
  | .abandon id => dialogue.around [.abandon id] (station.act (.abandon id))
  | .resume => dialogue.around [] station.resume
  | .stop => dialogue.around [.stop] station.stop
  | .lose => dialogue.around [.stop] station.lose
  | .cancel => dialogue.beside [] { session with cancelled := true }
  | .sink mode => dialogue.beside [] { session with sink := mode }
  | .wait millis stamps => dialogue.around [] { station with clock := station.clock + millis, stamps }

def run (dialogue : Dialogue) (steps : List DialogueStep) : Dialogue :=
  steps.foldl step dialogue

end Dialogue

/-! ### The reader -/

theorem Frame.about?_of_command? {wording : String → String} {id limit : Nat} {frame : Frame}
    {command : HubCommand}
    (h : frame.command? wording id limit = some command)
    : command.about? = some id := by
  rcases Reaction.ofFrame_cases wording id limit frame with
    ⟨own, -, -, hcommand, habout⟩ | ⟨_, -, -, hnone⟩ | ⟨-, -, hnone⟩
  . rw [hcommand] at h
    cases h
    exact habout
  . simp [hnone] at h
  . simp [hnone] at h

/--
A message that is no part of a registration is for everybody, or the reply to a command.
-/
theorem HubEvent.Sends.cases {limit : Int} {id : Nat} {event : HubEvent} {envelope : Envelope}
    (h : event.Sends limit id envelope) (hregistration : event.isRegistration = false)
    : (∃ command, event.command? = some command ∧ command.about? = some id
        ∧ command ≠ .unregister id)
      ∨ ∃ store now, event = .handle store now (.broadcast envelope) := by
  cases event with
  | handle store now command =>
    cases command with
    | broadcast message =>
      obtain rfl : envelope = message := h
      exact .inr ⟨store, now, rfl⟩
    | request who request =>
      obtain ⟨rfl, -⟩ := h
      exact .inl ⟨_, rfl, rfl, by simp⟩
    | reject who reason =>
      obtain ⟨rfl, -⟩ := h
      exact .inl ⟨_, rfl, rfl, by simp⟩
    | register identity awaited => contradiction
    | unregister who => contradiction
    | count awaited => contradiction
  | take who => contradiction
  | abandon who => contradiction
  | stop => contradiction

namespace ReaderPhase

variable {phase : ReaderPhase} {lost lost' : Bool} {unsent : List HubCommand}

theorem isReading_of_isGone (h : phase.isGone = true) : phase.isReading = false := by
  cases phase <;> first | rfl | contradiction

theorem eq_of_mem_farewell {id : Nat} {command : HubCommand} (h : command ∈ phase.farewell id) :
    command = .unregister id := by
  unfold farewell at h
  split at h
  . exact List.mem_singleton.mp h
  . contradiction

theorem lacks_iff_of_isGone (h : phase.isGone = true)
    : phase.Lacks lost unsent ↔ unsent = [] ∨ lost = true ∧ unsent.length ≤ 2 := by
  cases phase <;> first | exact Iff.rfl | contradiction

theorem Lacks.mono (h : phase.Lacks lost unsent) (hlost : lost = true → lost' = true) :
    phase.Lacks lost' unsent := by
  cases phase with
  | reading deadline => exact h
  | sending command deadline => exact h
  | leaving reason => exact h.imp_right (And.imp_left hlost)
  | closing patience => exact h.imp_right (And.imp_left hlost)
  | waiting => exact h.imp_right (And.imp_left hlost)
  | finished => exact h.imp_right (And.imp_left hlost)

end ReaderPhase

namespace Dialogue

variable {hub : Hub} {wording : String → String} {id limit : Nat} {foreign : Prop} {dialogue : Dialogue}
  {after : Session} {events : List HubEvent}

/--
The commands that the reader has sent or has still to send for what it has read.
-/
def owed (wording : String → String) (id limit : Nat) (dialogue : Dialogue) : List HubCommand :=
  dialogue.read.filterMap (·.command? wording id limit) ++ dialogue.session.reader.farewell id

/--
The frames are read in the order in which they come, none after one that is the last, and the mailbox gets a
command for every text, in this order, and then the farewell.
-/
structure Sound (hub : Hub) (wording : String → String) (id limit : Nat) (dialogue : Dialogue) :
    Prop where
  wording_eq : dialogue.session.wording = wording
  id_eq : dialogue.session.id = id
  limit_eq : dialogue.session.settings.maxMessageSize = limit
  arrived : dialogue.arrived = dialogue.read ++ dialogue.session.frames
  isLast : ∀ frame ∈ if dialogue.session.reader.isReading then dialogue.read else dialogue.read.dropLast,
    frame.isLast limit = false
  sent : ∃ unsent, dialogue.sent ++ unsent = dialogue.owed wording id limit
    ∧ dialogue.session.reader.Lacks dialogue.session.station.isLost unsent
  hub_eq : dialogue.session.station.hub = hub.run dialogue.log

theorem Sound.beside (h : dialogue.Sound hub wording id limit) (hkeeps : dialogue.session.Keeps after)
    (hevolves : dialogue.session.station.Evolves id foreign events after.station)
    : (dialogue.beside events after).Sound hub wording id limit where
  wording_eq := hkeeps.wording.trans h.wording_eq
  id_eq := hkeeps.id.trans h.id_eq
  limit_eq := (congrArg LiveSettings.maxMessageSize hkeeps.settings).trans h.limit_eq
  arrived := by
    have harrived := h.arrived
    rw [← hkeeps.frames] at harrived
    exact harrived
  isLast := by
    have hlast := h.isLast
    rw [← hkeeps.reader] at hlast
    exact hlast
  sent := by
    obtain ⟨unsent, hsent, hlacks⟩ := h.sent
    unfold owed at hsent
    rw [← hkeeps.reader] at hsent hlacks
    exact ⟨unsent, hsent, hlacks.mono hevolves.lost⟩
  hub_eq := by
    have hhub := hevolves.hub
    rw [h.hub_eq, ← Hub.run_append] at hhub
    exact hhub

/--
What a move does to the frames that wait and to the mailbox is what has been read and sent.
-/
theorem Sound.moved (h : dialogue.Sound hub wording id limit) {gone : List Frame} {new unsent : List HubCommand}
    (hcontinues : dialogue.session.Continues after)
    (hframes : dialogue.session.frames = gone ++ after.frames)
    (hitems : after.station.mailbox.items = dialogue.session.station.mailbox.items ++ new)
    (hhub : after.station.hub = dialogue.session.station.hub)
    (hlast : ∀ frame ∈
      if after.reader.isReading then dialogue.read ++ gone else (dialogue.read ++ gone).dropLast,
        frame.isLast limit = false)
    (hsent : dialogue.sent ++ new ++ unsent
      = (dialogue.read ++ gone).filterMap (·.command? wording id limit) ++ after.reader.farewell id)
    (hlacks : after.reader.Lacks after.station.isLost unsent)
    : (dialogue.move after).Sound hub wording id limit := by
  have hread : (dialogue.move after).read = dialogue.read ++ gone := by
    simp [move, hframes]
  have hnew : (dialogue.move after).sent = dialogue.sent ++ new := by
    simp [move, hitems]
  constructor
  . exact hcontinues.wording.trans h.wording_eq
  . exact hcontinues.id.trans h.id_eq
  . exact (congrArg LiveSettings.maxMessageSize hcontinues.settings).trans h.limit_eq
  . have harrived := h.arrived
    rw [hframes, ← List.append_assoc, ← hread] at harrived
    exact harrived
  . rw [hread]
    exact hlast
  . refine ⟨unsent, ?_, hlacks⟩
    rw [hnew, hsent, owed, hread]
    rfl
  . exact hhub.trans h.hub_eq

theorem Sound.sent_of_reading (h : dialogue.Sound hub wording id limit) {deadline : Nat}
    (hreading : dialogue.session.reader = .reading deadline)
    : dialogue.sent = dialogue.read.filterMap (·.command? wording id limit) := by
  obtain ⟨unsent, hsent, hlacks⟩ := h.sent
  rw [owed, hreading] at hsent
  rw [hreading] at hlacks
  obtain rfl : unsent = [] := hlacks
  simpa [ReaderPhase.farewell, ReaderPhase.isGone] using hsent

theorem Sound.sent_of_sending (h : dialogue.Sound hub wording id limit) {command : HubCommand} {deadline : Nat}
    (hsending : dialogue.session.reader = .sending command deadline)
    : dialogue.sent ++ [command] = dialogue.read.filterMap (·.command? wording id limit) := by
  obtain ⟨unsent, hsent, hlacks⟩ := h.sent
  rw [owed, hsending] at hsent
  rw [hsending] at hlacks
  obtain rfl : unsent = [command] := hlacks
  simpa [ReaderPhase.farewell, ReaderPhase.isGone] using hsent

theorem Sound.isLast_of_isReading (h : dialogue.Sound hub wording id limit)
    (hreading : dialogue.session.reader.isReading = true)
    : ∀ frame ∈ dialogue.read, frame.isLast limit = false := by
  have hlast := h.isLast
  rw [if_pos hreading] at hlast
  exact hlast

theorem Sound.isLast_dropLast (h : dialogue.Sound hub wording id limit) :
    ∀ frame ∈ dialogue.read.dropLast, frame.isLast limit = false := by
  have hlast := h.isLast
  split at hlast
  . intro frame hframe
    exact hlast frame (List.dropLast_subset _ hframe)
  . exact hlast

/--
The reader has read nothing.
-/
theorem Sound.stayed (h : dialogue.Sound hub wording id limit) {new unsent : List HubCommand}
    (hcontinues : dialogue.session.Continues after)
    (hframes : after.frames = dialogue.session.frames)
    (hitems : after.station.mailbox.items = dialogue.session.station.mailbox.items ++ new)
    (hhub : after.station.hub = dialogue.session.station.hub)
    (hreading : after.reader.isReading = true → dialogue.session.reader.isReading = true)
    (hsent : dialogue.sent ++ new ++ unsent
      = dialogue.read.filterMap (·.command? wording id limit) ++ after.reader.farewell id)
    (hlacks : after.reader.Lacks after.station.isLost unsent)
    : (dialogue.move after).Sound hub wording id limit := by
  have hframes' : dialogue.session.frames = [] ++ after.frames := hframes.symm
  refine h.moved hcontinues hframes' hitems hhub ?_ ?_ hlacks
  . rw [List.append_nil]
    split
    . next hafter => exact h.isLast_of_isReading (hreading hafter)
    . exact h.isLast_dropLast
  . rw [List.append_nil]
    exact hsent

theorem Sound.read (h : dialogue.Sound hub wording id limit) {deadline : Nat} {frame : Frame}
    {frames : List Frame} (hreading : dialogue.session.reader = .reading deadline)
    (hframes : dialogue.session.frames = frame :: frames)
    : (dialogue.move ({ dialogue.session with frames }.react deadline
        (.ofFrame dialogue.session.wording dialogue.session.id
          dialogue.session.settings.maxMessageSize frame))).Sound hub wording id limit := by
  have hframes : dialogue.session.frames = [frame] ++ frames := hframes
  have hsent := h.sent_of_reading hreading
  have hnone := (List.append_nil dialogue.session.station.mailbox.items).symm
  have hearlier := h.isLast_of_isReading (congrArg ReaderPhase.isReading hreading)
  have hgoesOn : frame.isLast limit = false →
      ∀ any ∈ dialogue.read ++ [frame], any.isLast limit = false := by
    intro hframe
    rw [List.forall_mem_append, List.forall_mem_singleton]
    exact ⟨hearlier, hframe⟩
  rw [h.wording_eq, h.id_eq, h.limit_eq]
  rcases Reaction.ofFrame_cases wording id limit frame with
    ⟨command, hreaction, hlast, hcommand, -⟩ | ⟨reason, hreaction, -, hcommand⟩
      | ⟨hreaction, hlast, hcommand⟩
  . -- a text: its command is pending until the mailbox has room
    rw [hreaction]
    have hall : dialogue.sent ++ [] ++ [command]
        = (dialogue.read ++ [frame]).filterMap (·.command? wording id limit)
          ++ (ReaderPhase.sending command deadline).farewell id := by
      simp [ReaderPhase.farewell, ReaderPhase.isGone, hcommand, hsent]
    exact h.moved ⟨rfl, rfl, rfl⟩ hframes hnone rfl (hgoesOn hlast) hall rfl
  . -- the last frame: it has no command
    rw [hreaction]
    have hall : dialogue.sent ++ [] ++ []
        = (dialogue.read ++ [frame]).filterMap (·.command? wording id limit)
          ++ (ReaderPhase.leaving reason).farewell id := by
      simp [ReaderPhase.farewell, ReaderPhase.isGone, hcommand, hsent]
    refine h.moved ⟨rfl, rfl, rfl⟩ hframes hnone rfl ?_ hall (.inl rfl)
    intro any hany
    have hany : any ∈ (dialogue.read ++ [frame]).dropLast := hany
    rw [List.dropLast_concat] at hany
    exact hearlier any hany
  . -- a frame without a command: the reader goes on, with the same deadline or a new one
    have hall : ∀ deadline, dialogue.sent ++ [] ++ []
        = (dialogue.read ++ [frame]).filterMap (·.command? wording id limit)
          ++ (ReaderPhase.reading deadline).farewell id := by
      intro deadline
      simp [ReaderPhase.farewell, ReaderPhase.isGone, hcommand, hsent]
    rcases hreaction with hreaction | hreaction
    . rw [hreaction]
      have hsame : ({ dialogue.session with frames }.react deadline .nothing).reader
          = .reading deadline := hreading
      have hlacks : (ReaderPhase.reading deadline).Lacks dialogue.session.station.isLost [] := rfl
      rw [← hsame] at hlacks
      refine h.moved ⟨rfl, rfl, rfl⟩ hframes hnone rfl ?_ ?_ hlacks
      . rw [hsame]
        exact hgoesOn hlast
      . rw [hsame]
        exact hall deadline
    . rw [hreaction]
      exact h.moved ⟨rfl, rfl, rfl⟩ hframes hnone rfl (hgoesOn hlast) (hall _) rfl

theorem Sound.notice (h : dialogue.Sound hub wording id limit) {deadline : Nat}
    (hreading : dialogue.session.reader = .reading deadline) (reason : EndReason)
    : (dialogue.move (dialogue.session.leave reason)).Sound hub wording id limit := by
  have hnone := (List.append_nil dialogue.session.station.mailbox.items).symm
  have hall : dialogue.sent ++ [] ++ []
      = dialogue.read.filterMap (·.command? wording id limit) ++ (ReaderPhase.leaving reason).farewell id := by
    simpa [ReaderPhase.farewell, ReaderPhase.isGone] using h.sent_of_reading hreading
  exact h.stayed ⟨rfl, rfl, rfl⟩ rfl hnone rfl (fun hreads => absurd hreads Bool.false_ne_true) hall (.inl rfl)

theorem Sound.send (h : dialogue.Sound hub wording id limit) {command : HubCommand} {deadline : Nat}
    {station : Station} (hsending : dialogue.session.reader = .sending command deadline)
    (hpost : dialogue.session.station.post command = .ok station)
    : (dialogue.move { dialogue.session with station, reader := .reading deadline }).Sound
        hub wording id limit := by
  obtain ⟨-, rfl⟩ := Station.post_eq_ok hpost
  have hall : dialogue.sent ++ [command] ++ []
      = dialogue.read.filterMap (·.command? wording id limit) ++ (ReaderPhase.reading deadline).farewell id := by
    simpa [ReaderPhase.farewell, ReaderPhase.isGone] using h.sent_of_sending hsending
  exact h.stayed ⟨rfl, rfl, rfl⟩ rfl rfl rfl (fun _ => congrArg ReaderPhase.isReading hsending) hall rfl

theorem Sound.fail (h : dialogue.Sound hub wording id limit) {command : HubCommand} {deadline : Nat}
    (hsending : dialogue.session.reader = .sending command deadline)
    (hlost : dialogue.session.station.isLost = true)
    : (dialogue.move (dialogue.session.leave .hubClosed)).Sound hub wording id limit := by
  have hnone := (List.append_nil dialogue.session.station.mailbox.items).symm
  have hall : dialogue.sent ++ [] ++ [command]
      = dialogue.read.filterMap (·.command? wording id limit)
        ++ (ReaderPhase.leaving .hubClosed).farewell id := by
    simpa [ReaderPhase.farewell, ReaderPhase.isGone] using h.sent_of_sending hsending
  exact h.stayed ⟨rfl, rfl, rfl⟩ rfl hnone rfl (fun hreads => absurd hreads Bool.false_ne_true) hall
    (.inr ⟨hlost, Nat.le_refl 1⟩)

theorem Sound.sent_of_leaving (h : dialogue.Sound hub wording id limit) {reason : EndReason}
    (hleaving : dialogue.session.reader = .leaving reason)
    : ∃ unsent, dialogue.sent ++ unsent = dialogue.read.filterMap (·.command? wording id limit)
        ∧ (unsent = [] ∨ dialogue.session.station.isLost = true ∧ unsent.length ≤ 1) := by
  obtain ⟨unsent, hsent, hlacks⟩ := h.sent
  rw [owed, hleaving] at hsent
  rw [hleaving] at hlacks
  exact ⟨unsent, by simpa [ReaderPhase.farewell, ReaderPhase.isGone] using hsent, hlacks⟩

theorem Sound.depart (h : dialogue.Sound hub wording id limit) {reason : EndReason} {station : Station}
    (hleaving : dialogue.session.reader = .leaving reason)
    (hpost : dialogue.session.station.post (.unregister id) = .ok station) (patience : Nat)
    : (dialogue.move { dialogue.session with station, reader := .closing patience }).Sound
        hub wording id limit := by
  obtain ⟨hopen, rfl⟩ := Station.post_eq_ok hpost
  obtain ⟨unsent, hsent, hnone⟩ := h.sent_of_leaving hleaving
  rw [hopen] at hnone
  -- nothing has been lost so far
  obtain rfl : unsent = [] := by simpa using hnone
  have hall : dialogue.sent ++ [.unregister id] ++ []
      = dialogue.read.filterMap (·.command? wording id limit) ++ (ReaderPhase.closing patience).farewell id := by
    simpa [ReaderPhase.farewell, ReaderPhase.isGone] using hsent
  exact h.stayed ⟨rfl, rfl, rfl⟩ rfl rfl rfl (fun hreads => absurd hreads Bool.false_ne_true) hall (.inl rfl)

theorem Sound.vanish (h : dialogue.Sound hub wording id limit) {reason : EndReason}
    (hleaving : dialogue.session.reader = .leaving reason)
    (hlost : dialogue.session.station.isLost = true) (patience : Nat)
    : (dialogue.move { dialogue.session with reader := .closing patience }).Sound hub wording id limit := by
  have hnone := (List.append_nil dialogue.session.station.mailbox.items).symm
  obtain ⟨unsent, hsent, hunsent⟩ := h.sent_of_leaving hleaving
  have hlength : (unsent ++ [HubCommand.unregister id]).length ≤ 2 := by
    rcases hunsent with rfl | ⟨-, hone⟩
    . simp
    . simpa using hone
  have hall : dialogue.sent ++ [] ++ (unsent ++ [.unregister id])
      = dialogue.read.filterMap (·.command? wording id limit) ++ (ReaderPhase.closing patience).farewell id := by
    rw [List.append_nil, ← List.append_assoc, hsent]
    rfl
  exact h.stayed ⟨rfl, rfl, rfl⟩ rfl hnone rfl (fun hreads => absurd hreads Bool.false_ne_true) hall
    (.inr ⟨hlost, hlength⟩)

theorem Sound.await (h : dialogue.Sound hub wording id limit) {phase : ReaderPhase}
    (hgone : dialogue.session.reader.isGone = true) (hphase : phase.isGone = true) (cancelled : Bool)
    : (dialogue.move { dialogue.session with cancelled, reader := phase }).Sound hub wording id limit := by
  have hnone := (List.append_nil dialogue.session.station.mailbox.items).symm
  obtain ⟨unsent, hsent, hlacks⟩ := h.sent
  rw [ReaderPhase.lacks_iff_of_isGone hgone] at hlacks
  have hlacks' := (ReaderPhase.lacks_iff_of_isGone hphase).mpr hlacks
  have hall : dialogue.sent ++ [] ++ unsent
      = dialogue.read.filterMap (·.command? wording id limit) ++ phase.farewell id := by
    rw [List.append_nil, hsent, owed]
    simp [ReaderPhase.farewell, hgone, hphase]
  refine h.stayed ⟨rfl, rfl, rfl⟩ rfl hnone rfl ?_ hall hlacks'
  intro hreads
  have hstops : phase.isReading = false := ReaderPhase.isReading_of_isGone hphase
  exact absurd hreads (by rw [hstops]; simp)

theorem Sound.move (h : dialogue.Sound hub wording id limit) (hmoves : dialogue.session.Moves after) :
    (dialogue.move after).Sound hub wording id limit := by
  cases hmoves with
  | read hreading hframes => exact h.read hreading hframes
  | notice hreading hcause => exact h.notice hreading _
  | send hsending hpost => exact h.send hsending hpost
  | fail hsending hlost => exact h.fail hsending hlost
  | depart hleaving hpost => exact h.depart hleaving (h.id_eq ▸ hpost) _
  | vanish hleaving hlost => exact h.vanish hleaving hlost _
  | await hgone hphase hcancelled => exact h.await hgone hphase _

/-! ### The order of commands -/

/--
The commands about the subscriber of an id that were handled or wait are those that the reader has sent, in this
order. They are lost only together with the hub.
-/
def Fifo (id : Nat) (dialogue : Dialogue) : Prop :=
  ∃ lost, HubEvent.commandsAbout id dialogue.log ++ dialogue.session.station.commandsAbout id ++ lost
      = dialogue.sent
    ∧ (lost = [] ∨ dialogue.session.station.isLost = true)

theorem Fifo.beside (h : dialogue.Fifo id) (hforeign : foreign)
    (hevolves : dialogue.session.station.Evolves id foreign events after.station)
    : (dialogue.beside events after).Fifo id := by
  obtain ⟨lost, hsent, hlost⟩ := h
  obtain ⟨gone, hstation, hgone⟩ := hevolves.fifo hforeign
  -- what is lost now was sent before whatever was lost already
  refine ⟨gone ++ lost, ?_, ?_⟩
  . have hlog : HubEvent.commandsAbout id (dialogue.log ++ events)
        = HubEvent.commandsAbout id dialogue.log ++ HubEvent.commandsAbout id events := by
      simp [HubEvent.commandsAbout]
    rw [hstation] at hsent
    simpa [Dialogue.beside, hlog] using hsent
  . rcases hgone with rfl | hafter
    . exact hlost.imp_right hevolves.lost
    . exact .inr hafter

theorem Fifo.stayed (h : dialogue.Fifo id)
    (hmailbox : after.station.mailbox = dialogue.session.station.mailbox)
    : (dialogue.move after).Fifo id := by
  obtain ⟨lost, hsent, hlost⟩ := h
  refine ⟨lost, ?_, ?_⟩
  . simpa [Dialogue.move, hmailbox, Station.commandsAbout] using hsent
  . simpa [Dialogue.move, hmailbox, Station.isLost] using hlost

theorem Fifo.posted (h : dialogue.Fifo id) {command : HubCommand}
    (habout : command.about? = some id)
    (hpost : dialogue.session.station.post command = .ok after.station)
    : (dialogue.move after).Fifo id := by
  obtain ⟨lost, hsent, hlost⟩ := h
  obtain ⟨hopen, hstation⟩ := Station.post_eq_ok hpost
  rw [hopen] at hlost
  -- nothing has been lost so far
  obtain rfl : lost = [] := by simpa using hlost
  refine ⟨[], ?_, .inl rfl⟩
  rw [List.append_nil] at hsent ⊢
  simp [Dialogue.move, hstation, Station.commandsAbout, habout, ← hsent]

theorem Fifo.move (h : dialogue.Fifo id) (hsound : dialogue.Sound hub wording id limit)
    (hmoves : dialogue.session.Moves after)
    : (dialogue.move after).Fifo id := by
  cases hmoves with
  | read hreading hframes =>
    apply h.stayed
    rw [Session.react_station]
  | notice hreading hcause => exact h.stayed rfl
  | @send command deadline station hsending hpost =>
    have hmem : command ∈ dialogue.read.filterMap (·.command? wording id limit) := by
      rw [← hsound.sent_of_sending hsending]
      exact List.mem_append_right _ (List.mem_singleton.mpr rfl)
    obtain ⟨frame, -, hcommand⟩ := List.mem_filterMap.mp hmem
    exact h.posted (Frame.about?_of_command? hcommand) hpost
  | fail hsending hlost => exact h.stayed rfl
  | depart hleaving hpost =>
    rw [hsound.id_eq] at hpost
    exact h.posted rfl hpost
  | vanish hleaving hlost => exact h.stayed rfl
  | await hgone hphase hcancelled => exact h.stayed rfl

/-! ### Steps -/

/--
With a step a frame comes, or the reader moves, or something is done beside it.
-/
inductive Steps (id : Nat) (foreign : Prop) (dialogue : Dialogue) : Dialogue → Prop where
  | arrive (frame : Frame) :
      dialogue.Steps id foreign
        { dialogue with
          session := { dialogue.session with frames := dialogue.session.frames ++ [frame] }
          arrived := dialogue.arrived ++ [frame] }
  | move {after : Session} (hmoves : dialogue.session.Moves after) :
      dialogue.Steps id foreign (dialogue.move after)
  | beside {events : List HubEvent} {after : Session} (hkeeps : dialogue.session.Keeps after)
      (hevolves : dialogue.session.station.Evolves id foreign events after.station) :
      dialogue.Steps id foreign (dialogue.beside events after)

theorem commandsAbout_writerEvents (session : Session) (id : Nat) :
    HubEvent.commandsAbout id session.writerEvents = [] := by
  unfold Session.writerEvents
  split
  . next event _ _ =>
    unfold Session.endingOf
    cases event <;> split <;> rfl
  . rfl

theorem steps_refl (dialogue : Dialogue) : dialogue.Steps id foreign dialogue := by
  have hsteps : dialogue.Steps id foreign (dialogue.beside [] dialogue.session) :=
    .beside ⟨⟨rfl, rfl, rfl⟩, rfl, rfl⟩ (Station.evolves_refl _)
  simpa [Dialogue.beside] using hsteps

theorem steps_move {outcome : Option Session}
    (hmoves : ∀ after, outcome = some after → dialogue.session.Moves after)
    : dialogue.Steps id foreign (outcome.elim dialogue dialogue.move) := by
  cases outcome with
  | none => exact dialogue.steps_refl
  | some after => exact .move (hmoves after rfl)

theorem steps_around {station : Station}
    (hevolves : dialogue.session.station.Evolves id foreign events station)
    : dialogue.Steps id foreign (dialogue.around events station) :=
  .beside ⟨⟨rfl, rfl, rfl⟩, rfl, rfl⟩ hevolves

theorem steps_writer (dialogue : Dialogue) :
    dialogue.Steps id foreign (dialogue.step .writer) := by
  unfold step
  dsimp only
  cases hwriter : dialogue.session.writerStep? with
  | none => exact dialogue.steps_refl
  | some after =>
    have hwrites := Session.writes_of_writerStep? hwriter
    refine .beside hwrites.toKeeps ?_
    rw [hwrites.station]
    exact Station.evolves_of_mailbox_eq rfl rfl (commandsAbout_writerEvents _ id)

theorem steps_tick (dialogue : Dialogue) : dialogue.Steps id foreign (dialogue.step .tick) := by
  unfold step
  dsimp only
  cases htick : dialogue.session.station.tick? with
  | none => exact dialogue.steps_refl
  | some after => exact steps_around (Station.evolves_of_tick? htick)

theorem steps_handle (dialogue : Dialogue) : dialogue.Steps id foreign (dialogue.step .handle) := by
  unfold step
  dsimp only
  cases hhandling : dialogue.session.station.handling? with
  | none => exact dialogue.steps_refl
  | some handled =>
    exact steps_around (Station.evolves_of_happens (Station.happens_of_handling? hhandling))

theorem steps_post (dialogue : Dialogue) (command : HubCommand)
    : dialogue.Steps id (command.about? ≠ some id) (dialogue.step (.post command)) := by
  unfold step
  dsimp only
  split
  . next after hpost => exact steps_around (Station.evolves_of_post hpost fun hforeign => hforeign)
  . exact dialogue.steps_refl

theorem steps_step (dialogue : Dialogue) (step : DialogueStep) :
    dialogue.Steps id (step.Foreign id) (dialogue.step step) := by
  cases step with
  | arrive frame => exact .arrive frame
  | reader => exact steps_move fun _ => Session.moves_of_readerStep?
  | readAnyway => exact steps_move fun _ => Session.moves_of_readAnyway?
  | expire => exact steps_move fun _ => Session.moves_of_expire?
  | writer => exact dialogue.steps_writer
  | tick => exact dialogue.steps_tick
  | handle => exact dialogue.steps_handle
  | post command => exact dialogue.steps_post command
  | giveUp place => exact steps_around (Station.evolves_giveUp _ place)
  | store call => exact steps_around (Station.evolves_of_mailbox_eq rfl rfl rfl)
  | take who => exact steps_around (Station.evolves_of_happens (Station.happens_act _ (by simp)))
  | abandon who => exact steps_around (Station.evolves_of_happens (Station.happens_act _ (by simp)))
  | resume => exact steps_around (Station.evolves_resume _)
  | stop => exact steps_around (Station.evolves_of_happens (Station.happens_stop _))
  | lose => exact steps_around (Station.evolves_of_happens (Station.happens_lose _))
  | cancel => exact .beside ⟨⟨rfl, rfl, rfl⟩, rfl, rfl⟩ (Station.evolves_refl _)
  | sink mode => exact .beside ⟨⟨rfl, rfl, rfl⟩, rfl, rfl⟩ (Station.evolves_refl _)
  | wait millis stamps => exact steps_around (Station.evolves_of_mailbox_eq rfl rfl rfl)

theorem Sound.steps {next : Dialogue} (h : dialogue.Sound hub wording id limit)
    (hsteps : dialogue.Steps id foreign next)
    : next.Sound hub wording id limit := by
  cases hsteps with
  | arrive frame =>
    refine { h with arrived := ?_ }
    rw [h.arrived, List.append_assoc]
  | move hmoves => exact h.move hmoves
  | beside hkeeps hevolves => exact h.beside hkeeps hevolves

theorem Fifo.steps {next : Dialogue} (h : dialogue.Fifo id) (hsound : dialogue.Sound hub wording id limit)
    (hforeign : foreign) (hsteps : dialogue.Steps id foreign next)
    : next.Fifo id := by
  cases hsteps with
  | arrive frame => exact h
  | move hmoves => exact h.move hsound hmoves
  | beside hkeeps hevolves => exact h.beside hforeign hevolves

/--
The reader stops for a frame that is the last one, for the session being cancelled, for the deadline, or because
the hub is lost.
-/
theorem Sound.cause_of_moves (h : dialogue.Sound hub wording id limit) (hmoves : dialogue.session.Moves after)
    (hreads : dialogue.session.reader.isReading = true) (hstops : after.reader.isReading = false)
    : (∃ frame, (dialogue.move after).read = dialogue.read ++ [frame] ∧ frame.isLast limit = true)
        ∨
      dialogue.session.cancelled = true
        ∨
      (∃ deadline, dialogue.session.reader = .reading deadline ∧ deadline ≤ dialogue.session.clock)
        ∨
      dialogue.session.station.isLost = true := by
  cases hmoves with
  | @read deadline frame frames hreading hframes =>
    left
    rw [h.wording_eq, h.id_eq, h.limit_eq] at hstops ⊢
    rcases Reaction.ofFrame_cases wording id limit frame with
      ⟨command, hreaction, -⟩ | ⟨reason, hreaction, hlast, -⟩ | ⟨hreaction, -⟩
    . rw [hreaction] at hstops
      contradiction
    . refine ⟨frame, ?_, hlast⟩
      rw [hreaction]
      simp [Dialogue.move, Session.react, Session.leave, hframes]
    . rcases hreaction with hreaction | hreaction
      . rw [hreaction] at hstops
        simp [Session.react, hreads] at hstops
      . rw [hreaction] at hstops
        contradiction
  | notice hreading hcause =>
    right
    exact hcause.imp_right fun hdue => .inl ⟨_, hreading, hdue⟩
  | send hsending hpost => contradiction
  | fail hsending hlost => exact .inr (.inr (.inr hlost))
  | depart hleaving hpost => simp [hleaving, ReaderPhase.isReading] at hreads
  | vanish hleaving hlost => simp [hleaving, ReaderPhase.isReading] at hreads
  | await hgone hphase hcancelled =>
    rw [ReaderPhase.isReading_of_isGone hgone] at hreads
    contradiction

theorem Sound.cause_of_steps {next : Dialogue} (h : dialogue.Sound hub wording id limit)
    (hsteps : dialogue.Steps id foreign next) (hreads : dialogue.session.reader.isReading = true)
    (hstops : next.session.reader.isReading = false)
    : (∃ frame, next.read = dialogue.read ++ [frame] ∧ frame.isLast limit = true)
        ∨
      dialogue.session.cancelled = true
        ∨
      (∃ deadline, dialogue.session.reader = .reading deadline ∧ deadline ≤ dialogue.session.clock)
        ∨
      dialogue.session.station.isLost = true := by
  cases hsteps with
  | arrive frame => simp [hreads] at hstops
  | beside hkeeps hevolves => simp [Dialogue.beside, hkeeps.reader, hreads] at hstops
  | move hmoves => exact h.cause_of_moves hmoves hreads hstops

theorem Sound.run (h : dialogue.Sound hub wording id limit) (steps : List DialogueStep) :
    (dialogue.run steps).Sound hub wording id limit := by
  unfold Dialogue.run
  induction steps generalizing dialogue with
  | nil => exact h
  | cons step steps ih => exact ih (h.steps (dialogue.steps_step step))

theorem Fifo.run (h : dialogue.Fifo id) (hsound : dialogue.Sound hub wording id limit)
    {steps : List DialogueStep} (hforeign : ∀ step ∈ steps, step.Foreign id)
    : (dialogue.run steps).Fifo id := by
  unfold Dialogue.run
  induction steps generalizing dialogue with
  | nil => exact h
  | cons step steps ih =>
    rw [List.forall_mem_cons] at hforeign
    have hsteps : dialogue.Steps id (step.Foreign id) (dialogue.step step) := dialogue.steps_step step
    exact ih (h.steps hsound hforeign.1 hsteps) (hsound.steps hsteps) hforeign.2

/-! ### Replies -/

theorem start_sound (settings : LiveSettings) (wording : String → String) (station : Station) (id : Nat)
    (sink : SinkMode)
    : (start settings wording station id sink).Sound station.hub wording id settings.maxMessageSize where
  wording_eq := rfl
  id_eq := rfl
  limit_eq := rfl
  arrived := rfl
  isLast := by simp [start]
  sent := ⟨[], rfl, rfl⟩
  hub_eq := by
    unfold start Session.ofSubscriber
    dsimp only
    split
    . rfl
    . rfl

theorem start_fifo (settings : LiveSettings) (wording : String → String) {station : Station} {id : Nat}
    (sink : SinkMode) (hnobody : station.commandsAbout id = [])
    : (start settings wording station id sink).Fifo id := by
  refine ⟨[], ?_, .inl rfl⟩
  unfold start Session.ofSubscriber
  dsimp only
  split
  . exact congrArg (· ++ []) hnobody
  . exact congrArg (· ++ []) hnobody

theorem Sound.commandsAbout_sublist (h : dialogue.Sound hub wording id limit) (hfifo : dialogue.Fifo id)
    : (HubEvent.commandsAbout id dialogue.log).Sublist (dialogue.owed wording id limit) := by
  obtain ⟨unsent, howed, -⟩ := h.sent
  obtain ⟨lost, hsent, -⟩ := hfifo
  rw [← howed, ← hsent, List.append_assoc, List.append_assoc]
  exact List.sublist_append_left _ _

/--
The texts that are replied to are some of those that were read, in the same order.
-/
theorem Sound.replies_sublist (h : dialogue.Sound hub wording id limit) (hfifo : dialogue.Fifo id)
    (hnumbered : hub.Numbered) {s : Subscriber} (hs : s ∈ hub.subscribers) (hid : s.id = id)
    : (((hub.putsFor (fun event => event) id dialogue.log).filter (·.1.isAbout id)).filterMap
        (·.1.command?)).Sublist (dialogue.read.filterMap (·.command? wording id limit)) := by
  subst hid
  obtain ⟨hevents, hregistration⟩ := hnumbered.putsFor_of_mem hs (fun event => event) dialogue.log
  have hcommands : (((hub.putsFor (fun event => event) s.id dialogue.log).filter
        (·.1.isAbout s.id)).filterMap (·.1.command?)).Sublist (dialogue.owed wording s.id limit) := by
    have hhandled := (hevents.filter (·.isAbout s.id)).filterMap (·.command?)
    rw [List.filter_map, List.filterMap_map] at hhandled
    exact hhandled.trans (h.commandsAbout_sublist hfifo)
  obtain ⟨replied, last, heq, hreplied, hlast⟩ := List.sublist_append_iff.mp hcommands
  -- there is no reply to the farewell
  have hnone : last = [] := by
    rw [List.eq_nil_iff_forall_not_mem]
    intro command hcommand
    have hfarewell : command = .unregister s.id :=
      ReaderPhase.eq_of_mem_farewell (hlast.subset hcommand)
    have hmem := List.mem_append_right replied hcommand
    rw [← heq, List.mem_filterMap] at hmem
    obtain ⟨put, hput, hown⟩ := hmem
    have hput := (List.mem_filter.mp hput).1
    have hsends := (hnumbered.sends_of_mem_putsFor hput).2
    rcases hsends.cases (hregistration put hput) with ⟨other, hother, -, hreply⟩ | ⟨store, now, hevent⟩
    . rw [hother] at hown
      cases hown
      exact hreply hfarewell
    . rw [hevent] at hown
      cases hown
      contradiction
  rw [heq, hnone, List.append_nil]
  exact hreplied

/--
Whatever happens around a session: the frames are read in the order in which they come, none after the first that
is the last, and the reader stops for nothing but this, a cancelled session, the deadline or a lost hub. The
mailbox gets one command for every text, in this order, then that the subscriber leaves, once, and the reader waits
for nothing but room; with a text that is no request comes what the JSON library says about it. What comes to the
queue is for everybody or a reply, and nothing comes after the leaving. If nobody else sends commands about the
subscriber, the hub handles those of the session in their order, and the replies are to some of the texts, in the
order of the texts, one to each.
-/
theorem start_run_in_step (hubSettings settings : LiveSettings) (capacity : Nat)
    (stamps : StampSupply) (before : List TrafficStep) (wording : String → String) (id : Nat)
    (sink : SinkMode) (steps : List DialogueStep)
    (hregistered : ∃ s ∈ ((Traffic.start hubSettings capacity stamps).run before).station.hub.subscribers,
      s.id = id)
    : let station := ((Traffic.start hubSettings capacity stamps).run before).station
      let limit := settings.maxMessageSize
      let dialogue := (start settings wording station id sink).run steps
      let session := dialogue.session
      let puts := station.hub.putsFor (fun event => event) id dialogue.log
      dialogue.arrived = dialogue.read ++ session.frames
        ∧
      (∀ frame ∈ if session.reader.isReading then dialogue.read else dialogue.read.dropLast,
        frame.isLast limit = false)
        ∧
      (∀ step, session.reader.isReading = true →
        (dialogue.step step).session.reader.isReading = false →
          (∃ frame, (dialogue.step step).read = dialogue.read ++ [frame] ∧ frame.isLast limit = true)
            ∨
          session.cancelled = true
            ∨
          (∃ deadline, session.reader = .reading deadline ∧ deadline ≤ session.clock)
            ∨
          session.station.isLost = true)
        ∧
      (∃ unsent,
        dialogue.sent ++ unsent
            = dialogue.read.filterMap (·.command? wording id limit) ++ session.reader.farewell id
          ∧ session.reader.Lacks session.station.isLost unsent)
        ∧
      (∀ command, session.reader.pending? id = some command → session.readerStep? = none →
        session.station.isLost = false
          ∧ session.station.mailbox.capacity ≤ session.station.mailbox.items.length)
        ∧
      session.station.hub = station.hub.run dialogue.log
        ∧
      station.hub.takenBy id dialogue.log ++ session.station.hub.queueOf id
          = station.hub.queueOf id ++ puts.map (·.2)
        ∧
      (∀ put ∈ puts,
        put.1.Sends station.hub.defaultLogLimit id put.2
          ∧ (put.1.isAbout id = true ∨ ∃ store now, put.1 = .handle store now (.broadcast put.2)))
        ∧
      (∀ store now earlier later,
        dialogue.log = earlier ++ .handle store now (.unregister id) :: later →
          puts = station.hub.putsFor (fun event => event) id earlier)
        ∧
      (station.commandsAbout id = [] → (∀ step ∈ steps, step.Foreign id) →
        (∃ lost,
          HubEvent.commandsAbout id dialogue.log ++ session.station.commandsAbout id ++ lost
              = dialogue.sent
            ∧ (lost = [] ∨ session.station.isLost = true))
          ∧
        ((puts.filter (·.1.isAbout id)).filterMap (·.1.command?)).Sublist
          (dialogue.read.filterMap (·.command? wording id limit))) := by
  intro station limit dialogue session puts
  have hstation : station.hub = _ := (Traffic.start_run_sound hubSettings capacity stamps before).hub_eq
  have hnumbered : station.hub.Numbered := by
    rw [hstation]
    exact (Hub.numbered_ofSettings hubSettings).run _
  have h : dialogue.Sound station.hub wording id limit :=
    (start_sound settings wording station id sink).run steps
  obtain ⟨s, hs, rfl⟩ := hregistered
  obtain ⟨-, hregistration⟩ := hnumbered.putsFor_of_mem hs (fun event => event) dialogue.log
  refine ⟨h.arrived, h.isLast, ?_, h.sent, ?_, h.hub_eq, ?_, ?_, ?_, ?_⟩
  . intro step hreads hstops
    exact h.cause_of_steps (dialogue.steps_step step) hreads hstops
  . intro command hpending hwaits
    have hid : session.id = s.id := h.id_eq
    rw [← hid] at hpending
    exact Session.full_of_readerStep?_eq_none hpending hwaits
  . have hqueue := hnumbered.takenBy_append_queueOf (fun event => event) s.id dialogue.log
    rw [List.map_id', ← h.hub_eq] at hqueue
    exact hqueue
  . intro put hput
    have hsends := (hnumbered.sends_of_mem_putsFor hput).2
    refine ⟨hsends, (hsends.cases (hregistration put hput)).imp_left ?_⟩
    rintro ⟨command, hcommand, habout, -⟩
    simp [HubEvent.isAbout, hcommand, habout]
  . intro store now earlier later hlog
    have hputs := hnumbered.putsFor_unregister hs store now earlier later
    rw [← hlog] at hputs
    exact hputs
  . intro hnobody hforeign
    have hfifo : dialogue.Fifo s.id := (start_fifo settings wording sink hnobody).run
      (start_sound settings wording station s.id sink) hforeign
    exact ⟨hfifo, h.replies_sublist hfifo hnumbered hs rfl⟩

/--
A subscriber asks for a snapshot, answers a ping, sends something that is no request, and closes.
-/
theorem start_run_in_step_close
    : let settings : LiveSettings := { bindAddress := default }
      let stamps : StampSupply := ⟨fun _ => default, 0⟩
      let before : List TrafficStep := [.resume, .post (.register .anonymous true), .handle]
      let wording : String → String := fun _ => "expected value at line 1 column 1"
      let station := ((Traffic.start settings 1 stamps).run before).station
      let frames : List Frame := [.text "[\"get_stats\"]", .pong, .text "?", .close]
      let steps := frames.map DialogueStep.arrive
        ++ [.reader, .reader, .reader, .handle, .reader, .reader, .reader, .reader, .handle, .handle]
      let dialogue := (start settings wording station 1 {}).run steps
      let puts := station.hub.putsFor (fun event => event) 1 dialogue.log
      dialogue.read = frames
        ∧
      puts.map (·.2.message.kind) = ["stats", "error"]
        ∧
      HubEvent.commandsAbout 1 dialogue.log ++ dialogue.session.station.commandsAbout 1
          = dialogue.sent
        ∧
      dialogue.sent
          = [.request 1 .getStats, .reject 1 "invalid request: expected value at line 1 column 1",
            .unregister 1]
        ∧
      ((puts.filter (·.1.isAbout 1)).filterMap (·.1.command?)).Sublist
        (dialogue.read.filterMap (·.command? wording 1 settings.maxMessageSize)) := by
  intro settings stamps before wording station frames steps dialogue puts
  have hrun := start_run_in_step settings settings 1 stamps before wording 1 {} steps (by decide +kernel)
  extract_lets at hrun
  have hforeign : ∀ step ∈ steps, step.Foreign 1 := by
    simp [steps, frames, DialogueStep.Foreign]
  have hreplies := (hrun.2.2.2.2.2.2.2.2.2 (by decide +kernel) hforeign).2
  exact ⟨by decide +kernel, by decide +kernel, by decide +kernel, by decide +kernel, hreplies⟩

end Dialogue

end WafWatch
