import WafWatch.Proofs.Live.Dialogue

/-!
This module contains the proof that the writer of a session hands the messages of the queue to the transport in
order, each once, and closes last: whichever of the things that are ready it takes notice of, and however its calls
end, it makes no call after one that failed, and no closing before everything was handed over.
-/

namespace WafWatch

/-! ### The hub -/

namespace Hub

variable {hub : Hub} {s : Subscriber} {id : Nat}

theorem takenBy_append (hub : Hub) (id : Nat) (events more : List HubEvent) :
    hub.takenBy id (events ++ more) = hub.takenBy id events ++ (hub.run events).takenBy id more := by
  induction events generalizing hub with
  | nil => rfl
  | cons event events ih =>
    rw [List.cons_append, takenBy, ih, takenBy, List.append_assoc]
    rfl

theorem takenBy_eq_nil {events : List HubEvent} (h : .take id ∉ events) : hub.takenBy id events = [] := by
  induction events generalizing hub with
  | nil => rfl
  | cons event events ih =>
    rw [List.mem_cons, not_or] at h
    rw [takenBy, ih h.2, List.append_nil]
    unfold takenAt
    split
    . next taker =>
      rw [if_neg]
      rintro rfl
      exact h.1 rfl
    . rfl

theorem queueOf_eq_nil_of_takeFor? (h : hub.takeFor? id = none) : hub.queueOf id = [] := by
  unfold takeFor? at h
  unfold queueOf
  cases hfind : hub.subscribers.find? (·.id == id) with
  | none => rfl
  | some s =>
    rw [hfind] at h
    split at h
    . contradiction
    . next htake =>
      rw [Option.bind_some] at htake
      rw [Option.elim_some]
      unfold BoundedQueue.take? at htake
      split at htake
      . next hitems => exact hitems
      . contradiction

/--
The queue of the subscriber of an id has ended: the subscriber has no place, and nothing is left for it.
-/
structure Ended (id : Nat) (hub : Hub) : Prop where
  connected?_eq : hub.connected? id = none
  queueOf_eq : hub.queueOf id = []

theorem Numbered.ended_step (h : hub.Numbered) (hs : s ∈ hub.subscribers) (hended : hub.Ended s.id)
    (event : HubEvent)
    : (hub.step event).Ended s.id where
  connected?_eq := by
    have hgone := connected?_eq_none hended.connected?_eq hs rfl
    exact (h.step_connected?_eq_none_iff hs event).mpr (.inl hgone)
  queueOf_eq := by
    have hgone := connected?_eq_none hended.connected?_eq hs rfl
    have hlater : (s.step hub.defaultLogLimit event).connected = false := by
      rw [← Bool.not_eq_true, s.step_connected_iff]
      simp [hgone]
    have hqueue := h.takenAt_append_queueOf s.id event
    rw [hended.queueOf_eq, (h.putFor_changed hs event).2.2 hlater] at hqueue
    exact (List.append_eq_nil_iff.mp hqueue).2

/--
A queue that has ended is never taken up again.
-/
theorem Numbered.ended_run (h : hub.Numbered) (hs : s ∈ hub.subscribers) {events : List HubEvent}
    (hended : (hub.run events).Ended s.id) (more : List HubEvent)
    : (hub.run (events ++ more)).Ended s.id := by
  induction events generalizing hub s with
  | cons event events ih =>
    have hlater := ih (h.step event) (h.step_mem hs event)
    rw [Subscriber.step_id] at hlater
    exact hlater hended
  | nil =>
    rw [List.nil_append]
    induction more generalizing hub s with
    | nil => exact hended
    | cons event more ih =>
      have hnext := ih (h.step event) (h.step_mem hs event)
      rw [Subscriber.step_id] at hnext
      exact hnext (h.ended_step hs hended event)

end Hub

/-! ### The writer -/

/--
What may be ready for the writer.
-/
inductive Notice where
  | callEnd
  | cancellation
  | message
  | queueEnd
  | ping
  deriving DecidableEq

/--
The beginning or the end of a call of the transport.
-/
inductive SinkMoment where
  | began (call : SinkCall)
  | ended (call : SinkCall) (succeeded : Bool)
  deriving DecidableEq

def SinkMoment.begun? : SinkMoment → Option SinkCall
  | .began call => some call
  | .ended .. => none

def SinkCall.envelope? : SinkCall → Option Envelope
  | .message envelope => some envelope
  | _ => none

namespace Writer

/--
What begins or ends when the writer takes notice of something.
-/
def moment? (writer : Writer) (event : WriterEvent) : Option SinkMoment :=
  match writer, event with
  | .busy call, .callEnded succeeded => some (.ended call succeeded)
  | writer, event => (writer.begun? event).map .began

theorem begun?_moment? (writer : Writer) (event : WriterEvent) :
    (writer.moment? event).toList.filterMap (·.begun?) = (writer.begun? event).toList := by
  unfold moment?
  split
  . rfl
  . cases writer.begun? event with
    | none => rfl
    | some call => rfl

/--
How the writer has come to what it is doing.
-/
inductive Came : Writer → List SinkMoment → Prop where
  | idle : Came .idle []
  | begin {moments : List SinkMoment} (h : Came .idle moments) (call : SinkCall) :
    Came (.busy call) (moments ++ [.began call])
  | succeed {moments : List SinkMoment} {call : SinkCall} (h : Came (.busy call) moments)
    (hcall : call ≠ .close) :
    Came .idle (moments ++ [.ended call true])
  | fail {moments : List SinkMoment} {call : SinkCall} (h : Came (.busy call) moments) :
    Came .done (moments ++ [.ended call false])
  | close {moments : List SinkMoment} (h : Came (.busy .close) moments) (succeeded : Bool) :
    Came .done (moments ++ [.ended .close succeeded])
  | stop {moments : List SinkMoment} (h : Came .idle moments) : Came .done moments

theorem concat_eq_append_cons {α : Type} {as bs cs : List α} {a b : α} (h : as ++ [a] = bs ++ b :: cs)
    : (cs = [] ∧ a = b) ∨ ∃ ds, cs = ds ++ [a] ∧ as = bs ++ b :: ds := by
  cases cs using List.reverseRecOn with
  | nil =>
    left
    exact ⟨rfl, List.singleton_inj.mp (List.append_inj' h rfl).2⟩
  | append_singleton ds d =>
    right
    rw [← List.cons_append, ← List.append_assoc] at h
    obtain ⟨has, ha⟩ := List.append_inj' h rfl
    exact ⟨ds, by rw [ha], has⟩

section

variable {writer : Writer} {moments earlier later : List SinkMoment}

/--
Nothing comes after a call that failed.
-/
theorem Came.eq_nil_of_failed {call : SinkCall} (h : writer.Came moments)
    (hfailed : moments = earlier ++ .ended call false :: later)
    : later = [] ∧ writer = .done := by
  induction h generalizing later with
  | idle => simp at hfailed
  | begin h next ih =>
    rcases concat_eq_append_cons hfailed with ⟨-, hmoment⟩ | ⟨before, -, hbefore⟩
    . contradiction
    . exact absurd (ih hbefore).2 nofun
  | succeed h hcall ih =>
    rcases concat_eq_append_cons hfailed with ⟨-, hmoment⟩ | ⟨before, -, hbefore⟩
    . simp at hmoment
    . exact absurd (ih hbefore).2 nofun
  | fail h ih =>
    rcases concat_eq_append_cons hfailed with ⟨hnone, -⟩ | ⟨before, -, hbefore⟩
    . exact ⟨hnone, rfl⟩
    . exact absurd (ih hbefore).2 nofun
  | close h succeeded ih =>
    rcases concat_eq_append_cons hfailed with ⟨hnone, -⟩ | ⟨before, -, hbefore⟩
    . exact ⟨hnone, rfl⟩
    . exact absurd (ih hbefore).2 nofun
  | stop h ih => exact absurd (ih hfailed).2 nofun

/--
Nothing but its end comes after the closing.
-/
theorem Came.eq_nil_of_closed (h : writer.Came moments) (hclosed : moments = earlier ++ .began .close :: later)
    : (later = [] ∧ writer = .busy .close) ∨ ((∃ succeeded, later = [.ended .close succeeded]) ∧ writer = .done) := by
  induction h generalizing later with
  | idle => simp at hclosed
  | begin h next ih =>
    rcases concat_eq_append_cons hclosed with ⟨hnone, hmoment⟩ | ⟨before, -, hbefore⟩
    . cases hmoment
      exact .inl ⟨hnone, rfl⟩
    . rcases ih hbefore with ⟨-, hwriter⟩ | ⟨-, hwriter⟩ <;> contradiction
  | succeed h hcall ih =>
    rcases concat_eq_append_cons hclosed with ⟨-, hmoment⟩ | ⟨before, -, hbefore⟩
    . contradiction
    . rcases ih hbefore with ⟨-, hwriter⟩ | ⟨-, hwriter⟩
      . cases hwriter
        contradiction
      . contradiction
  | fail h ih =>
    rcases concat_eq_append_cons hclosed with ⟨-, hmoment⟩ | ⟨before, rfl, hbefore⟩
    . contradiction
    . rcases ih hbefore with ⟨rfl, hwriter⟩ | ⟨-, hwriter⟩
      . cases hwriter
        exact .inr ⟨⟨false, rfl⟩, rfl⟩
      . contradiction
  | close h succeeded ih =>
    rcases concat_eq_append_cons hclosed with ⟨-, hmoment⟩ | ⟨before, rfl, hbefore⟩
    . contradiction
    . rcases ih hbefore with ⟨rfl, -⟩ | ⟨-, hwriter⟩
      . exact .inr ⟨⟨succeeded, rfl⟩, rfl⟩
      . contradiction
  | stop h ih => rcases ih hclosed with ⟨-, hwriter⟩ | ⟨-, hwriter⟩ <;> contradiction

end

end Writer

namespace Session

/--
What the writer may take notice of next, and the session without it.
-/
def notice? (session : Session) (notice : Notice) : Option (WriterEvent × Session) :=
  match session.writer, notice with
  | .busy _, .callEnd =>
    if session.callEnd.time ≤ session.clock then some (.callEnded session.callEnd.succeeded, session) else none
  | .idle, .cancellation => if session.cancelled then some (.cancelled, session) else none
  | .idle, .message =>
    (session.station.hub.takeFor? session.id).map fun (envelope, hub) =>
      (.message envelope, { session with station := { session.station with hub } })
  | .idle, .queueEnd =>
    if (session.station.hub.takeFor? session.id).isNone
        && (session.station.hub.connected? session.id).isNone then
      some (.queueEnded, session)
    else none
  | .idle, .ping =>
    if session.nextPing ≤ session.clock then
      let nextPing := pingAfter session.nextPing session.clock session.settings.pingInterval.millis
      some (.pingDue, { session with nextPing })
    else none
  | _, _ => none

variable {session between : Session} {event : WriterEvent}

/--
Something that is ready for the writer.
-/
inductive Notices (session : Session) : WriterEvent → Session → Prop where
  | callEnd {call : SinkCall} (succeeded : Bool) (hbusy : session.writer = .busy call) :
    session.Notices (.callEnded succeeded) session
  | cancellation (hidle : session.writer = .idle) (hcancelled : session.cancelled = true) :
    session.Notices .cancelled session
  | message {envelope : Envelope} {hub : Hub} (hidle : session.writer = .idle)
    (htake : session.station.hub.takeFor? session.id = some (envelope, hub)) :
    session.Notices (.message envelope) { session with station := { session.station with hub } }
  | queueEnd (hidle : session.writer = .idle) (hended : session.station.hub.Ended session.id) :
    session.Notices .queueEnded session
  | ping (nextPing : Nat) (hidle : session.writer = .idle) :
    session.Notices .pingDue { session with nextPing }

theorem Notices.ne_done (h : session.Notices event between) : session.writer ≠ .done := by
  cases h with
  | callEnd succeeded hbusy => simp [hbusy]
  | cancellation hidle hcancelled => simp [hidle]
  | message hidle htake => simp [hidle]
  | queueEnd hidle hended => simp [hidle]
  | ping nextPing hidle => simp [hidle]

theorem Notices.writes (h : session.Notices event between)
    : (between.writer = session.writer ∧ between.calls = session.calls ∧ between.cancelled = session.cancelled)
        ∧ session.Writes (takingOf session.id event) between := by
  cases h with
  | callEnd succeeded hbusy => exact ⟨⟨rfl, rfl, rfl⟩, .refl session⟩
  | cancellation hidle hcancelled => exact ⟨⟨rfl, rfl, rfl⟩, .refl session⟩
  | @message envelope hub hidle htake =>
    have hstep : session.station.hub.step (.take session.id) = hub := by
      simp only [Hub.step, htake]
    refine ⟨⟨rfl, rfl, rfl⟩, ⟨⟨rfl, rfl, rfl⟩, rfl, rfl⟩, ?_⟩
    rw [← hstep]
    rfl
  | queueEnd hidle hended => exact ⟨⟨rfl, rfl, rfl⟩, .refl session⟩
  | ping nextPing hidle => exact ⟨⟨rfl, rfl, rfl⟩, ⟨⟨rfl, rfl, rfl⟩, rfl, rfl⟩, rfl⟩

/--
The message that is handed over is the one that is taken from the queue.
-/
theorem Notices.taken_eq (h : session.Notices event between)
    : (session.writer.begun? event).toList.filterMap (·.envelope?)
        = session.station.hub.takenBy session.id (takingOf session.id event) := by
  cases h with
  | @callEnd call succeeded hbusy =>
    rw [hbusy]
    rfl
  | cancellation hidle hcancelled =>
    rw [hidle]
    rfl
  | message hidle htake =>
    rw [hidle, takingOf, Hub.takenBy, Hub.takenAt, if_pos rfl, htake]
    rfl
  | queueEnd hidle hended =>
    rw [hidle]
    rfl
  | ping nextPing hidle =>
    rw [hidle]
    rfl

theorem Notices.came (h : session.Notices event between) {moments : List SinkMoment}
    (hcame : session.writer.Came moments)
    : (session.writer.step event).Came (moments ++ (session.writer.moment? event).toList) := by
  cases h with
  | @callEnd call succeeded hbusy =>
    rw [hbusy] at hcame ⊢
    cases succeeded with
    | true =>
      cases call with
      | close => exact hcame.close true
      | message envelope => exact hcame.succeed (by simp)
      | ping => exact hcame.succeed (by simp)
    | false =>
      cases call with
      | close => exact hcame.close false
      | message envelope => exact hcame.fail
      | ping => exact hcame.fail
  | cancellation hidle hcancelled =>
    rw [hidle] at hcame ⊢
    exact (List.append_nil moments).symm ▸ hcame.stop
  | message hidle htake =>
    rw [hidle] at hcame ⊢
    exact hcame.begin _
  | queueEnd hidle hended =>
    rw [hidle] at hcame ⊢
    exact hcame.begin .close
  | ping nextPing hidle =>
    rw [hidle] at hcame ⊢
    exact hcame.begin .ping

theorem Notices.ended (h : session.Notices event between)
    (hclose : session.writer.moment? event = some (.began .close))
    : session.station.hub.Ended session.id := by
  cases h with
  | callEnd succeeded hbusy => simp [hbusy, Writer.moment?] at hclose
  | cancellation hidle hcancelled => simp [hidle, Writer.moment?, Writer.begun?, Writer.step] at hclose
  | message hidle htake => simp [hidle, Writer.moment?, Writer.begun?, Writer.step] at hclose
  | queueEnd hidle hended => exact hended
  | ping nextPing hidle => simp [hidle, Writer.moment?, Writer.begun?, Writer.step] at hclose

theorem tellWriter_writer (session : Session) (event : WriterEvent) :
    (session.tellWriter event).writer = session.writer.step event := by
  unfold tellWriter
  dsimp only
  split
  . rfl
  . rfl

theorem tellWriter_calls (session : Session) (event : WriterEvent)
    : (session.tellWriter event).calls
        = session.calls ++ (session.writer.begun? event).toList.map (session.clock, ·) := by
  unfold tellWriter
  cases hbegun : session.writer.begun? event with
  | none =>
    simp only [Option.toList_none, List.map_nil, List.append_nil]
    split
    . rfl
    . rfl
  | some call =>
    simp only [Option.toList_some, List.map_cons, List.map_nil]
    split
    . rfl
    . rfl

theorem tellWriter_cancelled (session : Session) (event : WriterEvent) (hdone : session.writer.step event = .done) :
    (session.tellWriter event).cancelled = true := by
  unfold tellWriter
  rw [if_pos hdone]

theorem notices_of_notice? {notice : Notice} (h : session.notice? notice = some (event, between)) :
    session.Notices event between := by
  unfold notice? at h
  split at h
  . next hbusy =>
    rw [Option.ite_none_right_eq_some] at h
    cases h.2
    exact .callEnd _ hbusy
  . next hidle =>
    rw [Option.ite_none_right_eq_some] at h
    cases h.2
    exact .cancellation hidle h.1
  . next hidle =>
    rw [Option.map_eq_some_iff] at h
    obtain ⟨⟨envelope, hub⟩, htake, hboth⟩ := h
    cases hboth
    exact .message hidle htake
  . next hidle =>
    rw [Option.ite_none_right_eq_some, Bool.and_eq_true, Option.isNone_iff_eq_none, Option.isNone_iff_eq_none] at h
    cases h.2
    exact .queueEnd hidle ⟨h.1.2, Hub.queueOf_eq_nil_of_takeFor? h.1.1⟩
  . next hidle =>
    rw [Option.ite_none_right_eq_some] at h
    cases h.2
    exact .ping _ hidle
  . contradiction

end Session

/-! ### Everybody else -/

/--
Nobody but the writer takes from the queue of the subscriber, or drops it.
-/
def DialogueStep.Spares (id : Nat) : DialogueStep → Prop
  | .writer => False
  | .take who => who ≠ id
  | .abandon who => who ≠ id
  | _ => True

namespace Session

/--
What the writer has and does is left alone. The session may be cancelled.
-/
structure LeavesWriter (session after : Session) : Prop extends session.Continues after where
  writer : after.writer = session.writer
  calls : after.calls = session.calls
  cancelled : session.cancelled = true → after.cancelled = true

variable {session after : Session}

theorem LeavesWriter.refl (session : Session) : session.LeavesWriter session :=
  ⟨.refl session, rfl, rfl, fun hcancelled => hcancelled⟩

theorem leavesWriter_react (session : Session) (frames : List Frame) (deadline : Nat) (reaction : Reaction) :
    session.LeavesWriter ({ session with frames }.react deadline reaction) := by
  cases reaction <;> exact ⟨⟨rfl, rfl, rfl⟩, rfl, rfl, fun hcancelled => hcancelled⟩

theorem Moves.leavesWriter (h : session.Moves after) :
    session.LeavesWriter after ∧ after.station.hub = session.station.hub := by
  cases h with
  | read hreading hframes => exact ⟨leavesWriter_react session _ _ _, by rw [react_station]⟩
  | notice hreading hcause => exact ⟨⟨⟨rfl, rfl, rfl⟩, rfl, rfl, fun hcancelled => hcancelled⟩, rfl⟩
  | send hsending hpost =>
    obtain ⟨-, rfl⟩ := Station.post_eq_ok hpost
    exact ⟨⟨⟨rfl, rfl, rfl⟩, rfl, rfl, fun hcancelled => hcancelled⟩, rfl⟩
  | fail hsending hlost => exact ⟨⟨⟨rfl, rfl, rfl⟩, rfl, rfl, fun hcancelled => hcancelled⟩, rfl⟩
  | depart hleaving hpost =>
    obtain ⟨-, rfl⟩ := Station.post_eq_ok hpost
    exact ⟨⟨⟨rfl, rfl, rfl⟩, rfl, rfl, fun hcancelled => hcancelled⟩, rfl⟩
  | vanish hleaving hlost => exact ⟨⟨⟨rfl, rfl, rfl⟩, rfl, rfl, fun hcancelled => hcancelled⟩, rfl⟩
  | await hgone hphase hcancelled => exact ⟨⟨⟨rfl, rfl, rfl⟩, rfl, rfl, hcancelled⟩, rfl⟩

end Session

namespace Dialogue

/--
What is done leaves the writer alone, and takes nothing from the queue of the subscriber.
-/
structure Spares (id : Nat) (dialogue next : Dialogue) : Prop where
  leavesWriter : dialogue.session.LeavesWriter next.session
  hub : ∃ events, .take id ∉ events ∧ next.log = dialogue.log ++ events
    ∧ next.session.station.hub = dialogue.session.station.hub.run events

variable {dialogue : Dialogue} {id : Nat}

theorem spares_move {outcome : Option Session}
    (hmoves : ∀ after, outcome = some after → dialogue.session.Moves after)
    : dialogue.Spares id (outcome.elim dialogue dialogue.move) := by
  cases outcome with
  | none => exact ⟨.refl _, [], List.not_mem_nil, (List.append_nil _).symm, rfl⟩
  | some after =>
    obtain ⟨hleaves, hhub⟩ := (hmoves after rfl).leavesWriter
    exact ⟨hleaves, [], List.not_mem_nil, (List.append_nil _).symm, hhub⟩

theorem spares_around {events : List HubEvent} {station : Station} (htake : .take id ∉ events)
    (hhub : station.hub = dialogue.session.station.hub.run events)
    : dialogue.Spares id (dialogue.around events station) :=
  ⟨⟨⟨rfl, rfl, rfl⟩, rfl, rfl, fun hcancelled => hcancelled⟩, events, htake, rfl, hhub⟩

theorem spares_refl (dialogue : Dialogue) : dialogue.Spares id dialogue :=
  ⟨.refl _, [], List.not_mem_nil, (List.append_nil _).symm, rfl⟩

theorem spares_handle (dialogue : Dialogue) : dialogue.Spares id (dialogue.step .handle) := by
  unfold step
  dsimp only
  cases hhandling : dialogue.session.station.handling? with
  | none => exact dialogue.spares_refl
  | some handled =>
    obtain ⟨event, after⟩ := handled
    have hhub := (Station.happens_of_handling? hhandling).hub
    refine spares_around ?_ hhub
    unfold Station.handling? at hhandling
    split at hhandling
    . cases hhandling
      split <;> simp
    . contradiction

theorem spares_step (dialogue : Dialogue) {step : DialogueStep} (h : step.Spares id) :
    dialogue.Spares id (dialogue.step step) := by
  cases step with
  | writer => exact h.elim
  | arrive frame =>
    exact { dialogue.spares_refl with leavesWriter := ⟨⟨rfl, rfl, rfl⟩, rfl, rfl, fun hcancelled => hcancelled⟩ }
  | reader => exact spares_move fun _ => Session.moves_of_readerStep?
  | readAnyway => exact spares_move fun _ => Session.moves_of_readAnyway?
  | expire => exact spares_move fun _ => Session.moves_of_expire?
  | tick =>
    unfold Dialogue.step
    dsimp only
    cases htick : dialogue.session.station.tick? with
    | none => exact dialogue.spares_refl
    | some after =>
      have hevolves : dialogue.session.station.Evolves id False [] after := Station.evolves_of_tick? htick
      exact spares_around List.not_mem_nil hevolves.hub
  | handle => exact dialogue.spares_handle
  | post command =>
    unfold Dialogue.step
    dsimp only
    split
    . next after hpost =>
      obtain ⟨-, rfl⟩ := Station.post_eq_ok hpost
      exact spares_around List.not_mem_nil rfl
    . exact dialogue.spares_refl
  | giveUp place => exact spares_around List.not_mem_nil rfl
  | store call => exact spares_around List.not_mem_nil rfl
  | take who =>
    refine spares_around ?_ rfl
    simpa using Ne.symm h
  | abandon who => exact spares_around (by simp) rfl
  | resume =>
    have hevolves : dialogue.session.station.Evolves id False [] _ := Station.evolves_resume _
    exact spares_around List.not_mem_nil hevolves.hub
  | stop => exact spares_around (by simp) rfl
  | lose => exact spares_around (by simp) rfl
  | cancel => exact ⟨⟨⟨rfl, rfl, rfl⟩, rfl, rfl, fun _ => rfl⟩, [], List.not_mem_nil, rfl, rfl⟩
  | sink mode => exact ⟨⟨⟨rfl, rfl, rfl⟩, rfl, rfl, fun hcancelled => hcancelled⟩, [], List.not_mem_nil, rfl, rfl⟩
  | wait millis stamps => exact spares_around List.not_mem_nil rfl

end Dialogue

/-! ### Runs -/

inductive OutflowStep where
  /-- The writer takes notice of something, if that is ready. -/
  | notice (notice : Notice)
  | around (step : DialogueStep)

def OutflowStep.Spares (id : Nat) : OutflowStep → Prop
  | .notice _ => True
  | .around step => step.Spares id

/--
A dialogue, with the beginnings and the ends of the calls that its writer made.
-/
structure Outflow where
  dialogue : Dialogue
  moments : List SinkMoment := []

namespace Outflow

def start (settings : LiveSettings) (wording : String → String) (station : Station) (id : Nat)
    (sink : SinkMode) : Outflow where
  dialogue := .start settings wording station id sink

/--
The writer has been told of an event that was ready.
-/
def told (outflow : Outflow) (event : WriterEvent) (between : Session) : Outflow :=
  let session := outflow.dialogue.session
  { dialogue := outflow.dialogue.beside
      (Session.takingOf session.id event ++ Session.endingOf session.id session.writer event)
      (between.tellWriter event)
    moments := outflow.moments ++ (session.writer.moment? event).toList }

def step (outflow : Outflow) : OutflowStep → Outflow
  | .notice notice =>
    match outflow.dialogue.session.notice? notice with
    | some (event, between) => outflow.told event between
    | none => outflow
  | .around step => { outflow with dialogue := outflow.dialogue.step step }

def run (outflow : Outflow) (steps : List OutflowStep) : Outflow :=
  steps.foldl step outflow

/--
The calls were made one after the other, the messages among them are those that were taken from the queue, and
there is no closing before the queue has ended.
-/
structure Sound (hub : Hub) (settings : LiveSettings) (id : Nat) (outflow : Outflow) : Prop where
  id_eq : outflow.dialogue.session.id = id
  settings_eq : outflow.dialogue.session.settings = settings
  hub_eq : outflow.dialogue.session.station.hub = hub.run outflow.dialogue.log
  calls_eq : outflow.dialogue.session.calls.map (·.2) = outflow.moments.filterMap (·.begun?)
  taken_eq : outflow.dialogue.session.calls.filterMap (·.2.envelope?) = hub.takenBy id outflow.dialogue.log
  came : outflow.dialogue.session.writer.Came outflow.moments
  ended : .began .close ∈ outflow.moments → outflow.dialogue.session.station.hub.Ended id
  cancelled : outflow.dialogue.session.writer = .done →
    outflow.dialogue.session.cancelled = true ∨ settings.pingInterval.millis = 0
  unpaced : settings.pingInterval.millis = 0 →
    outflow.dialogue.session.writer = .done ∧ outflow.moments = []

variable {hub : Hub} {settings : LiveSettings} {id : Nat} {outflow : Outflow}

theorem start_sound (settings : LiveSettings) (wording : String → String) (station : Station) (id : Nat)
    (sink : SinkMode)
    : (start settings wording station id sink).Sound station.hub settings id := by
  have hdialogue := Dialogue.start_sound settings wording station id sink
  unfold start
  refine ⟨hdialogue.id_eq, rfl, hdialogue.hub_eq, rfl, ?_, ?_, nofun, ?_, ?_⟩
  . unfold Dialogue.start
    dsimp only
    split
    . rfl
    . rfl
  . unfold Dialogue.start Session.ofSubscriber
    dsimp only
    split
    . exact .stop .idle
    . exact .idle
  . unfold Dialogue.start Session.ofSubscriber
    dsimp only
    split
    . next hunpaced => exact fun _ => .inr hunpaced
    . nofun
  . intro hunpaced
    unfold Dialogue.start Session.ofSubscriber
    exact ⟨if_pos hunpaced, rfl⟩

theorem Sound.around (h : outflow.Sound hub settings id) (hnumbered : hub.Numbered) {s : Subscriber}
    (hs : s ∈ hub.subscribers) (hid : s.id = id) {next : Dialogue} (hspares : outflow.dialogue.Spares id next)
    : { outflow with dialogue := next }.Sound hub settings id := by
  obtain ⟨hleaves, events, htake, hlog, hhub⟩ := hspares
  have hrun : next.session.station.hub = hub.run next.log := by
    rw [hhub, h.hub_eq, hlog, Hub.run_append]
  constructor
  . exact hleaves.id.trans h.id_eq
  . exact hleaves.settings.trans h.settings_eq
  . exact hrun
  . exact (congrArg (List.map (·.2)) hleaves.calls).trans h.calls_eq
  . rw [hlog, Hub.takenBy_append, Hub.takenBy_eq_nil htake, List.append_nil, ← h.taken_eq]
    exact congrArg (List.filterMap (·.2.envelope?)) hleaves.calls
  . exact hleaves.writer ▸ h.came
  . intro hclose
    have hended := h.ended hclose
    subst hid
    rw [h.hub_eq] at hended
    rw [hrun, hlog]
    exact hnumbered.ended_run hs hended events
  . intro hdone
    exact (h.cancelled (hleaves.writer ▸ hdone)).imp_left hleaves.cancelled
  . intro hunpaced
    exact (h.unpaced hunpaced).imp_left hleaves.writer.trans

theorem Sound.told (h : outflow.Sound hub settings id) (hnumbered : hub.Numbered) {s : Subscriber}
    (hs : s ∈ hub.subscribers) (hid : s.id = id) {event : WriterEvent} {between : Session}
    (hnotices : outflow.dialogue.session.Notices event between)
    : (outflow.told event between).Sound hub settings id := by
  obtain ⟨⟨hwriter, hcalls, hcancelled⟩, hwrites⟩ := hnotices.writes
  have htold := between.writes_tellWriter event
  rw [hwrites.id, hwriter] at htold
  have htold := hwrites.trans htold
  have hsession : (outflow.told event between).dialogue.session = between.tellWriter event := rfl
  have hmoments : (outflow.told event between).moments
      = outflow.moments ++ (outflow.dialogue.session.writer.moment? event).toList := rfl
  have hlog : (outflow.told event between).dialogue.log = outflow.dialogue.log
      ++ (Session.takingOf outflow.dialogue.session.id event
        ++ Session.endingOf outflow.dialogue.session.id outflow.dialogue.session.writer event) := rfl
  have hrun : (between.tellWriter event).station.hub = hub.run (outflow.told event between).dialogue.log := by
    rw [hlog, Hub.run_append, ← h.hub_eq, htold.station]
  have htaken : hub.takenBy id (outflow.told event between).dialogue.log
      = hub.takenBy id outflow.dialogue.log
        ++ (outflow.dialogue.session.writer.begun? event).toList.filterMap (·.envelope?) := by
    have hending : .take id ∉ Session.endingOf id outflow.dialogue.session.writer event := by
      unfold Session.endingOf
      split <;> simp
    rw [hnotices.taken_eq, hlog, h.id_eq, Hub.takenBy_append, Hub.takenBy_append, Hub.takenBy_eq_nil hending,
      List.append_nil, ← h.hub_eq]
  refine ⟨htold.id.trans h.id_eq, htold.settings.trans h.settings_eq, hrun, ?_, ?_, ?_, ?_, ?_, ?_⟩
  . rw [hsession, Session.tellWriter_calls, List.map_append, hcalls, h.calls_eq, hmoments, List.filterMap_append,
      Writer.begun?_moment?, hwriter, List.map_map]
    exact congrArg (_ ++ ·) (List.map_id _)
  . rw [hsession, Session.tellWriter_calls, List.filterMap_append, hcalls, h.taken_eq, htaken, hwriter,
      List.filterMap_map]
    rfl
  . rw [hsession, Session.tellWriter_writer, hwriter]
    exact hnotices.came h.came
  . intro hclose
    subst hid
    rw [hsession, hrun, hlog]
    apply hnumbered.ended_run hs
    rw [← h.hub_eq]
    rw [hmoments, List.mem_append, Option.mem_toList] at hclose
    rcases hclose with hearlier | hnow
    . exact h.ended hearlier
    . have hended := hnotices.ended hnow
      rwa [h.id_eq] at hended
  . intro hdone
    rw [hsession, Session.tellWriter_writer] at hdone
    exact .inl (between.tellWriter_cancelled event hdone)
  . intro hunpaced
    exact absurd (h.unpaced hunpaced).1 hnotices.ne_done

theorem Sound.step (h : outflow.Sound hub settings id) (hnumbered : hub.Numbered) {s : Subscriber}
    (hs : s ∈ hub.subscribers) (hid : s.id = id) {step : OutflowStep} (hspares : step.Spares id)
    : (outflow.step step).Sound hub settings id := by
  cases step with
  | notice notice =>
    unfold Outflow.step
    dsimp only
    split
    . next event between hnotice => exact h.told hnumbered hs hid (Session.notices_of_notice? hnotice)
    . exact h
  | around step => exact h.around hnumbered hs hid (outflow.dialogue.spares_step hspares)

theorem Sound.run (h : outflow.Sound hub settings id) (hnumbered : hub.Numbered) {s : Subscriber}
    (hs : s ∈ hub.subscribers) (hid : s.id = id) {steps : List OutflowStep}
    (hspares : ∀ step ∈ steps, step.Spares id)
    : (outflow.run steps).Sound hub settings id := by
  unfold Outflow.run
  induction steps generalizing outflow with
  | nil => exact h
  | cons step steps ih =>
    rw [List.forall_mem_cons] at hspares
    exact ih (h.step hnumbered hs hid hspares.1) hspares.2

/--
Whatever happens around the writer of a session, and whichever of the things that are ready it takes notice of: the
messages that it hands over and those that are left on the queue are all that ever came to the queue, in this order,
so what was handed over is a beginning of that. Nothing comes after a call that failed. The closing is the last call,
and it is made only when the subscriber has no place any more and everything was handed over. Whoever finds the writer
done finds the session cancelled. Without a time between pings there is no writer at all.
-/
theorem start_run_hands_over (hubSettings settings : LiveSettings) (capacity : Nat) (stamps : StampSupply)
    (before : List TrafficStep) (wording : String → String) (id : Nat) (sink : SinkMode)
    (steps : List OutflowStep)
    (hregistered : ∃ s ∈ ((Traffic.start hubSettings capacity stamps).run before).station.hub.subscribers,
      s.id = id)
    (hspares : ∀ step ∈ steps, step.Spares id)
    : let station := ((Traffic.start hubSettings capacity stamps).run before).station
      let outflow := (start settings wording station id sink).run steps
      let session := outflow.dialogue.session
      let puts := station.hub.putsFor (fun event => event) id outflow.dialogue.log
      let queued := station.hub.queueOf id ++ puts.map (·.2)
      let handed := session.calls.filterMap (·.2.envelope?)
      handed ++ session.station.hub.queueOf id = queued
        ∧
      session.calls.map (·.2) = outflow.moments.filterMap (·.begun?)
        ∧
      (∀ earlier call later, outflow.moments = earlier ++ .ended call false :: later → later = [])
        ∧
      (∀ earlier later, outflow.moments = earlier ++ .began .close :: later →
        later.filterMap (·.begun?) = [] ∧ session.station.hub.connected? id = none ∧ handed = queued)
        ∧
      (session.writer = .done → session.cancelled = true ∨ settings.pingInterval.millis = 0)
        ∧
      (settings.pingInterval.millis = 0 → session.calls = []) := by
  intro station outflow session puts queued handed
  have hstation : station.hub = _ := (Traffic.start_run_sound hubSettings capacity stamps before).hub_eq
  have hnumbered : station.hub.Numbered := by
    rw [hstation]
    exact (Hub.numbered_ofSettings hubSettings).run _
  obtain ⟨s, hs, hid⟩ := hregistered
  have h : outflow.Sound station.hub settings id :=
    (start_sound settings wording station id sink).run hnumbered hs hid hspares
  have hqueue : handed ++ session.station.hub.queueOf id = queued := by
    have hall := hnumbered.takenBy_append_queueOf (fun event => event) id outflow.dialogue.log
    rw [List.map_id', ← h.hub_eq, ← h.taken_eq] at hall
    exact hall
  refine ⟨hqueue, h.calls_eq, ?_, ?_, h.cancelled, ?_⟩
  . intro earlier call later hfailed
    exact (h.came.eq_nil_of_failed hfailed).1
  . intro earlier later hclosed
    have hended : session.station.hub.Ended id := h.ended (by simp [hclosed])
    rw [hended.queueOf_eq, List.append_nil] at hqueue
    refine ⟨?_, hended.connected?_eq, hqueue⟩
    rcases h.came.eq_nil_of_closed hclosed with ⟨rfl, -⟩ | ⟨⟨succeeded, rfl⟩, -⟩
    . rfl
    . rfl
  . intro hunpaced
    have hcalls := h.calls_eq
    rw [(h.unpaced hunpaced).2] at hcalls
    exact List.map_eq_nil_iff.mp hcalls

/--
A subscriber is greeted, is sent a ping, and loses its place: the greeting, the ping and the closing are all that goes
out.
-/
theorem start_run_hands_over_closing
    : let settings : LiveSettings := { bindAddress := default }
      let stamps : StampSupply := ⟨fun _ => default, 0⟩
      let before : List TrafficStep := [.resume, .post (.register .anonymous true), .handle]
      let wording : String → String := fun _ => "expected value at line 1 column 1"
      let station := ((Traffic.start settings 1 stamps).run before).station
      let steps : List OutflowStep :=
        [.notice .message, .notice .callEnd, .around (.post (.unregister 1)), .around .handle, .notice .queueEnd,
          .around (.wait 54000 stamps), .notice .ping, .notice .callEnd, .notice .message, .notice .callEnd,
          .notice .queueEnd, .notice .callEnd]
      let outflow := (start settings wording station 1 {}).run steps
      let session := outflow.dialogue.session
      let handed := session.calls.filterMap (·.2.envelope?)
      handed.map (·.message.kind) = ["welcome", "stats"]
        ∧
      session.calls.map (·.2.envelope?.isSome) = [true, false, true, false]
        ∧
      session.station.hub.connected? 1 = none
        ∧
      handed = station.hub.queueOf 1
        ++ (station.hub.putsFor (fun event => event) 1 outflow.dialogue.log).map (·.2)
        ∧
      session.cancelled = true := by
  intro settings stamps before wording station steps outflow session handed
  have hrun := start_run_hands_over settings settings 1 stamps before wording 1 {} steps (by decide +kernel)
    (by simp [steps, OutflowStep.Spares, DialogueStep.Spares])
  extract_lets at hrun
  obtain ⟨-, -, -, hclosed, hdone, -⟩ := hrun
  have hmoments : outflow.moments
      = outflow.moments.take 6 ++ .began .close :: [.ended .close true] := by
    decide +kernel
  obtain ⟨-, hgone, hhanded⟩ := hclosed _ _ hmoments
  have hcancelled := (hdone (by decide +kernel)).resolve_right (by decide)
  exact ⟨by decide +kernel, by decide +kernel, hgone, hhanded, hcancelled⟩

end Outflow

end WafWatch
