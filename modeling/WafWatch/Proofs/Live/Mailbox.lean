import WafWatch.Proofs.Live.Numbering
import WafWatch.Proofs.Live.Station

/-!
This module contains what becomes of the commands about one subscriber: whatever others do to a station, they
leave the mailbox in the order in which they came, and are lost only together with the hub.
-/

namespace WafWatch

def HubEvent.command? : HubEvent → Option HubCommand
  | .handle _ _ command => some command
  | _ => none

/--
The event is the handling of a command about the subscriber of an id.
-/
def HubEvent.isAbout (id : Nat) (event : HubEvent) : Bool :=
  event.command?.bind (·.about?) == some id

/--
The commands about the subscriber of an id that were handled.
-/
def HubEvent.commandsAbout (id : Nat) (events : List HubEvent) : List HubCommand :=
  (events.filter (·.isAbout id)).filterMap (·.command?)

/--
The commands about the subscriber of an id that wait in the mailbox.
-/
def Station.commandsAbout (id : Nat) (station : Station) : List HubCommand :=
  station.mailbox.items.filter (·.about? == some id)

theorem filter_modify {α : Type} {p : α → Bool} {f : α → α} (hp : ∀ a, p (f a) = p a)
    (hf : ∀ a, p a = true → f a = a) (as : List α) (place : Nat)
    : (as.modify place f).filter p = as.filter p := by
  induction as generalizing place with
  | nil => simp
  | cons a as ih =>
    cases place with
    | zero =>
      simp only [List.modify_zero_cons, List.filter_cons, hp]
      split
      . next ha => rw [hf a ha]
      . rfl
    | succ place => simp only [List.modify_succ_cons, List.filter_cons, ih]

namespace Station

variable {id : Nat} {foreign : Prop} {station after : Station} {event : HubEvent}

/--
Something has been done to a station by others. Commands leave the mailbox in order, and unless others send
commands about the subscriber of an id, no such command comes to it.
-/
structure Evolves (id : Nat) (foreign : Prop) (station : Station) (events : List HubEvent)
    (after : Station) : Prop where
  hub : after.hub = station.hub.run events
  lost : station.isLost = true → after.isLost = true
  fifo : foreign →
    ∃ gone, station.commandsAbout id
        = HubEvent.commandsAbout id events ++ after.commandsAbout id ++ gone
      ∧ (gone = [] ∨ after.isLost = true)

theorem evolves_of_mailbox_eq {events : List HubEvent} (hhub : after.hub = station.hub.run events)
    (hmailbox : after.mailbox = station.mailbox) (hevents : HubEvent.commandsAbout id events = [])
    : station.Evolves id foreign events after where
  hub := hhub
  lost := by
    unfold isLost
    rw [hmailbox]
    exact fun hlost => hlost
  fifo := by
    intro _
    refine ⟨[], ?_, .inl rfl⟩
    rw [hevents, commandsAbout, commandsAbout, hmailbox, List.append_nil]
    rfl

theorem Happens.isLost (h : station.Happens event after) (hlost : station.isLost = true) :
    after.isLost = true := by
  have hmailbox := h.mailbox
  unfold Station.isLost at *
  cases event with
  | handle store now command =>
    rw [hmailbox.2] at hlost
    exact hlost
  | _ =>
    rcases hmailbox with hsame | ⟨-, hlost'⟩
    . rw [hsame]
      exact hlost
    . exact hlost'

theorem Happens.fifo (h : station.Happens event after) (id : Nat)
    : ∃ gone, station.commandsAbout id
        = HubEvent.commandsAbout id [event] ++ after.commandsAbout id ++ gone
      ∧ (gone = [] ∨ after.isLost = true) := by
  have hmailbox := h.mailbox
  cases event with
  | handle store now command =>
    refine ⟨[], ?_, .inl rfl⟩
    unfold Station.commandsAbout
    rw [hmailbox.2, List.append_nil]
    cases habout : command.about? == some id <;>
      simp [HubEvent.commandsAbout, HubEvent.isAbout, HubEvent.command?, habout]
  | _ =>
    rcases hmailbox with hsame | ⟨hnone, hlost⟩
    . refine ⟨[], ?_, .inl rfl⟩
      unfold Station.commandsAbout
      rw [hsame, List.append_nil]
      rfl
    . refine ⟨station.commandsAbout id, ?_, .inr hlost⟩
      simp [HubEvent.commandsAbout, HubEvent.isAbout, HubEvent.command?, Station.commandsAbout, hnone]

theorem evolves_of_happens (h : station.Happens event after) :
    station.Evolves id foreign [event] after where
  hub := h.hub
  lost := h.isLost
  fifo _ := h.fifo id

theorem evolves_of_post {command : HubCommand} (h : station.post command = .ok after)
    (hforeign : foreign → command.about? ≠ some id)
    : station.Evolves id foreign [] after := by
  obtain ⟨hopen, rfl⟩ := post_eq_ok h
  constructor
  . rfl
  . intro hlost
    exact hlost
  . intro hothers
    refine ⟨[], ?_, .inl rfl⟩
    simp [commandsAbout, HubEvent.commandsAbout, hforeign hothers]

theorem evolves_refl (station : Station) : station.Evolves id foreign [] station :=
  evolves_of_mailbox_eq rfl rfl rfl

theorem evolves_tryAnnounce (station : Station) (message : ServerMessage) :
    station.Evolves id foreign [] (station.tryAnnounce message) := by
  unfold tryAnnounce
  split
  . next hannounce =>
    apply evolves_of_post (announce_eq_ok hannounce)
    intro _
    simp [HubCommand.about?]
  . exact evolves_refl station

theorem evolves_of_tick? (h : station.tick? = some after) : station.Evolves id foreign [] after := by
  unfold tick? at h
  split at h
  . split at h
    . cases h
      exact { station.evolves_tryAnnounce _ with }
    . contradiction
  . contradiction

theorem commandsAbout_giveUp (station : Station) (id place : Nat) :
    (station.giveUp place).commandsAbout id = station.commandsAbout id := by
  apply filter_modify
  . intro command
    cases command <;> rfl
  . intro command habout
    cases command <;> first | rfl | contradiction

theorem evolves_giveUp (station : Station) (place : Nat) :
    station.Evolves id foreign [] (station.giveUp place) where
  hub := rfl
  lost hlost := hlost
  fifo _ := ⟨[], by simp [commandsAbout_giveUp, HubEvent.commandsAbout], .inl rfl⟩

theorem evolves_resume (station : Station) : station.Evolves id foreign [] station.resume := by
  unfold resume
  split
  . exact evolves_refl station
  . exact evolves_of_mailbox_eq rfl rfl rfl

end Station

end WafWatch
