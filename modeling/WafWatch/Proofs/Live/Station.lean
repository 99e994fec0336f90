import WafWatch.Proofs.Live.Traffic

/-!
This module contains what may happen at a station, seen from outside: the hub takes a step, and either this is
the handling of the first command of the mailbox, or the mailbox stays as it is or is lost with the hub.
-/

namespace WafWatch

namespace Station

/--
What happens when the hub handles the first command of the mailbox, and the station after that. A command
that cannot be carried out stops the hub.
-/
def handling? (station : Station) : Option (HubEvent × Station) :=
  match station.mailbox.items, station.handleNext? with
  | command :: _, some (_, after) =>
    some (if station.isFatal command then .stop else .handle station.store station.now command, after)
  | _, _ => none

def act (station : Station) (event : HubEvent) : Station :=
  { station with hub := station.hub.step event }

def serve (station : Station) (call : StoreCall) : Station :=
  { station with store := station.store.serve call }

/--
Whoever waits for the answer to a command of the mailbox stops waiting.
-/
def giveUp (station : Station) (place : Nat) : Station :=
  { station with
    mailbox := { station.mailbox with items := station.mailbox.items.modify place unawaited } }

/--
The hub is run again, if it has not been lost.
-/
def resume (station : Station) : Station :=
  if station.isLost then station else { station with running := true }

/--
What an event does to a mailbox.
-/
def Consumes (station after : Station) : HubEvent → Prop
  | .handle store _ command =>
    store = station.store
      ∧ station.mailbox = { after.mailbox with items := command :: after.mailbox.items }
  | _ => after.mailbox = station.mailbox ∨ after.mailbox.items = [] ∧ after.isLost = true

/--
A station becomes another with something that happens at its hub.
-/
structure Happens (station : Station) (event : HubEvent) (after : Station) : Prop where
  store : after.store = station.store
  hub : after.hub = station.hub.step event
  mailbox : station.Consumes after event

variable {station after : Station} {event : HubEvent} {command : HubCommand}

theorem offer_of_post {refusal : Refusal} (h : station.post command = .error refusal) :
    station.mailbox.offer command = .error refusal := by
  unfold post at h
  cases hoffer : station.mailbox.offer command with
  | ok mailbox =>
    rw [hoffer] at h
    contradiction
  | error refusal' =>
    rw [hoffer] at h
    injection h with h
    rw [h]

theorem isLost_of_post (h : station.post command = .error .closed) : station.isLost = true := by
  have hoffer := offer_of_post h
  unfold BoundedQueue.offer at hoffer
  split at hoffer
  . next hlost => exact hlost
  . split at hoffer
    . contradiction
    . contradiction

theorem full_of_post (h : station.post command = .error .full) :
    station.isLost = false ∧ station.mailbox.capacity ≤ station.mailbox.items.length := by
  have hoffer := offer_of_post h
  unfold BoundedQueue.offer at hoffer
  split at hoffer
  . contradiction
  . next hopen =>
    split at hoffer
    . next hfull => exact ⟨Bool.eq_false_iff.mpr hopen, hfull⟩
    . contradiction

/--
Commands leave the mailbox from the front.
-/
theorem Happens.suffix (h : station.Happens event after) :
    after.mailbox.items <:+ station.mailbox.items := by
  have hmailbox := h.mailbox
  cases event with
  | handle store now command =>
    rw [hmailbox.2]
    exact List.suffix_cons _ _
  | _ =>
    rcases hmailbox with hsame | ⟨hnone, -⟩
    . exact hsame ▸ List.suffix_rfl
    . rw [hnone]
      exact List.nil_suffix

theorem happens_of_handling? (h : station.handling? = some (event, after)) :
    station.Happens event after := by
  unfold handling? at h
  split at h
  . next command rest reply next hitems hnext =>
    obtain ⟨hstore, hstation⟩ := handleNext?_eq_some hitems hnext
    simp only [Option.some.injEq, Prod.mk.injEq] at h
    obtain ⟨rfl, rfl⟩ := h
    split at hstation
    . next hfatal =>
      rw [if_pos hfatal]
      refine ⟨hstore, hstation.1, .inr ?_⟩
      unfold isLost
      rw [hstation.2]
      exact ⟨rfl, rfl⟩
    . next hsound =>
      rw [if_neg hsound]
      refine ⟨hstore, hstation.1, rfl, ?_⟩
      rw [hstation.2, ← hitems]
  . contradiction

theorem map_snd_handling? (station : Station)
    : station.handling?.map (·.2) = station.handleNext?.map (·.2) := by
  unfold handling?
  cases hitems : station.mailbox.items with
  | nil =>
    have hnone : station.handleNext? = none := by
      simp [handleNext?, BoundedQueue.take?, hitems]
    rw [hnone]
    rfl
  | cons command rest =>
    cases station.handleNext? with
    | none => rfl
    | some handled => rfl

theorem happens_act (station : Station) (hevent : ∀ store now command, event ≠ .handle store now command) :
    station.Happens event (station.act event) where
  store := rfl
  hub := rfl
  mailbox := by
    cases event with
    | handle store now command => exact absurd rfl (hevent store now command)
    | take id => exact .inl rfl
    | abandon id => exact .inl rfl
    | stop => exact .inl rfl

theorem happens_stop (station : Station) : station.Happens .stop station.stop :=
  ⟨rfl, rfl, .inl rfl⟩

theorem happens_lose (station : Station) : station.Happens .stop station.lose :=
  ⟨rfl, rfl, .inr ⟨rfl, rfl⟩⟩

end Station

end WafWatch
