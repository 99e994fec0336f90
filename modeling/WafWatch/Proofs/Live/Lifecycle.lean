import WafWatch.Live.Feed
import WafWatch.Proofs.Live.Mailbox

/-!
This module contains the life of a feed, which may be started and stopped as often as its owner likes. Whatever
becomes of that, the feed has the hub exactly while it does not run, and the hub and its mailbox are the same
from the first run to the last.
-/

namespace WafWatch

/--
Something that happens to a feed or around its hub.
-/
inductive FeedStep where
  | start (host : Host)
  | stop
  /-- Everything is told to end from outside. -/
  | cancel
  /-- Whoever has a handle of the hub offers a command to its mailbox. -/
  | post (command : HubCommand)
  /-- Whoever waits for the answer to a command of the mailbox stops waiting. -/
  | giveUp (place : Nat)
  /-- The hub handles the first command of the mailbox. -/
  | handle
  /-- The hub, when it has been told to end before it ran, handles some commands and ends then. -/
  | linger (count : Nat)
  | take (id : Nat)
  | abandon (id : Nat)
  /-- Time passes, and the store has changed meanwhile. -/
  | pass (store : EventStore) (stamps : StampSupply)

/-! ### The mailbox -/

namespace Station

variable {station middle after : Station}

/--
The hub of a station has handled commands. Together with those that wait, they are the ones that waited before
and the ones that were sent meanwhile, in this order; only whether somebody waits for the answer may have
changed.
-/
structure Serves (station : Station) (sent : List HubCommand) (events : List HubEvent)
    (after : Station) : Prop where
  hub : after.hub = station.hub.run events
  mail : (station.mailbox.items ++ sent).map unawaited
    = (events.filterMap (·.command?) ++ after.mailbox.items).map unawaited

theorem serves_refl (station : Station) : station.Serves [] [] station where
  hub := rfl
  mail := by simp

/--
All else at a station may change meanwhile.
-/
theorem Serves.of_eq {sent : List HubCommand} {events : List HubEvent}
    (h : station.Serves sent events middle) (hhub : after.hub = middle.hub)
    (hmailbox : after.mailbox = middle.mailbox)
    : station.Serves sent events after where
  hub := hhub.trans h.hub
  mail := by rw [h.mail, hmailbox]

theorem Serves.trans {sent sent' : List HubCommand} {events events' : List HubEvent}
    (h : station.Serves sent events middle) (h' : middle.Serves sent' events' after)
    : station.Serves (sent ++ sent') (events ++ events') after where
  hub := by rw [h'.hub, h.hub, Hub.run_append]
  mail := by
    have hmail := h.mail
    have hmail' := h'.mail
    simp only [List.map_append, List.filterMap_append] at hmail hmail' ⊢
    rw [← List.append_assoc, hmail, List.append_assoc, List.append_assoc, hmail']

theorem serves_of_happens {event : HubEvent} (h : station.Happens event after)
    (hopen : after.isLost = false)
    : station.Serves [] [event] after where
  hub := h.hub
  mail := by
    have hmailbox := h.mailbox
    cases event with
    | handle store now command =>
      rw [hmailbox.2]
      simp [HubEvent.command?]
    | _ =>
      rcases hmailbox with hsame | ⟨-, hlost⟩
      . simp [hsame, HubEvent.command?]
      . exact absurd (hopen.symm.trans hlost) Bool.false_ne_true

theorem serves_of_post {command : HubCommand} (h : station.post command = .ok after) :
    station.Serves [command] [] after := by
  obtain ⟨-, rfl⟩ := post_eq_ok h
  exact ⟨rfl, by simp⟩

theorem unawaited_unawaited (command : HubCommand) : unawaited (unawaited command) = unawaited command := by
  cases command <;> rfl

theorem serves_giveUp (station : Station) (place : Nat) :
    station.Serves [] [] (station.giveUp place) where
  hub := rfl
  mail := by
    have hsame : ∀ (items : List HubCommand) (place : Nat),
        (items.modify place unawaited).map unawaited = items.map unawaited := by
      intro items
      induction items with
      | nil => simp
      | cons command items ih =>
        intro place
        cases place with
        | zero => simp [unawaited_unawaited]
        | succ place => simp [ih]
    simp [giveUp, hsame]

theorem post_ne_closed (hopen : station.isLost = false) (command : HubCommand) :
    station.post command ≠ .error .closed := by
  unfold post BoundedQueue.offer
  have hopen : station.mailbox.abandoned = false := hopen
  rw [hopen]
  split
  . next hlost => exact Bool.noConfusion hlost
  . split
    . exact nofun
    . exact nofun

/-! ### Handling -/

theorem handleNext?_eq_none (hidle : station.running = false) : station.handleNext? = none := by
  unfold handleNext?
  simp [hidle]

theorem exists_happens_of_handleNext? {reply : Option HubReply}
    (h : station.handleNext? = some (reply, after))
    : ∃ event, station.Happens event after := by
  have hsnd := map_snd_handling? station
  rw [h] at hsnd
  cases hhandling : station.handling? with
  | none =>
    rw [hhandling] at hsnd
    contradiction
  | some handled =>
    obtain ⟨event, next⟩ := handled
    rw [hhandling] at hsnd
    have hsame : next = after := Option.some.inj hsnd
    exact ⟨event, hsame ▸ happens_of_handling? hhandling⟩

theorem handleNext?_running {reply : Option HubReply} (h : station.handleNext? = some (reply, after))
    (hopen : after.isLost = false)
    : after.running = true ∧ after.mailbox.items.length + 1 = station.mailbox.items.length := by
  unfold handleNext? at h
  split at h
  . next hrunning =>
    unfold BoundedQueue.take? at h
    split at h
    . next command mailbox htake =>
      split at htake
      . contradiction
      . next items hitems =>
        simp only [Option.some.injEq, Prod.mk.injEq] at htake
        obtain ⟨-, rfl⟩ := htake
        split at h
        . simp only [Option.some.injEq, Prod.mk.injEq] at h
          obtain ⟨-, rfl⟩ := h
          exact Bool.noConfusion hopen
        . simp only [Option.some.injEq, Prod.mk.injEq] at h
          obtain ⟨-, rfl⟩ := h
          exact ⟨hrunning, by simp [adopt, hitems]⟩
    . contradiction
  . contradiction

theorem Happens.isOpen {event : HubEvent} (h : station.Happens event after)
    (hopen : after.isLost = false)
    : station.isLost = false := by
  cases hlost : station.isLost with
  | false => rfl
  | true => exact absurd (hopen.symm.trans (h.isLost hlost)) Bool.false_ne_true

/--
Handling commands that could all be carried out.
-/
theorem handleMany_serves {count : Nat} (hopen : (station.handleMany count).2.isLost = false)
    : station.isLost = false
        ∧ (station.handleMany count).2.running = station.running
        ∧ (∃ events, station.Serves [] events (station.handleMany count).2)
        ∧ (station.running = true →
            (station.handleMany count).2.mailbox.items.length
              = station.mailbox.items.length - count) := by
  induction count generalizing station with
  | zero => exact ⟨hopen, rfl, ⟨[], serves_refl station⟩, fun _ => rfl⟩
  | succ count ih =>
    unfold handleMany at hopen ⊢
    cases hnext : station.handleNext? with
    | none =>
      rw [hnext] at hopen
      refine ⟨hopen, rfl, ⟨[], serves_refl station⟩, ?_⟩
      intro hrunning
      unfold handleNext? BoundedQueue.take? at hnext
      rw [if_pos hrunning] at hnext
      cases hitems : station.mailbox.items with
      | nil => simp
      | cons command items =>
        rw [hitems] at hnext
        dsimp only at hnext
        split at hnext <;> contradiction
    | some handled =>
      obtain ⟨reply, next⟩ := handled
      rw [hnext] at hopen
      dsimp only at hopen ⊢
      obtain ⟨hnextOpen, hrunning, ⟨events, hserves⟩, hlength⟩ := ih hopen
      obtain ⟨event, hhappens⟩ := exists_happens_of_handleNext? hnext
      obtain ⟨hnextRunning, hnextLength⟩ := handleNext?_running hnext hnextOpen
      have hstation : station.running = true := by
        by_contra hidle
        rw [handleNext?_eq_none (Bool.eq_false_iff.mpr hidle)] at hnext
        contradiction
      refine ⟨hhappens.isOpen hnextOpen, ?_, ?_, ?_⟩
      . rw [hrunning, hnextRunning, hstation]
      . exact ⟨[event] ++ events, (serves_of_happens hhappens hnextOpen).trans hserves⟩
      . intro _
        rw [hlength hnextRunning]
        omega

/--
A hub that is run again handles everything that has been waiting for it.
-/
theorem start_serves (hopen : station.start.isLost = false)
    : station.isLost = false
        ∧ station.start.running = true
        ∧ (∃ events, station.Serves [] events station.start)
        ∧ station.start.mailbox.items = [] := by
  unfold start at hopen ⊢
  split at hopen
  . next hlost => exact absurd (hopen.symm.trans hlost) Bool.false_ne_true
  . next hnotLost =>
    rw [if_neg hnotLost]
    obtain ⟨-, hrunning, ⟨events, hserves⟩, hlength⟩ := handleMany_serves hopen
    refine ⟨Bool.eq_false_iff.mpr hnotLost, hrunning, ⟨events, ⟨hserves.hub, hserves.mail⟩⟩, ?_⟩
    have hlength := hlength rfl
    rw [Nat.sub_self] at hlength
    exact List.eq_nil_of_length_eq_zero hlength

/--
Let the hub handle some commands, and stop it.
-/
def linger (station : Station) (count : Nat) : Station :=
  ({ station with running := true }.handleMany count).2.stop

theorem linger_serves {count : Nat} (hopen : (station.linger count).isLost = false)
    : station.isLost = false ∧ ∃ events, station.Serves [] events (station.linger count) := by
  obtain ⟨hbefore, -, ⟨events, hserves⟩, -⟩ := handleMany_serves hopen
  have hstop := serves_of_happens (happens_stop _) hopen
  have hlinger := hserves.trans hstop
  exact ⟨hbefore, events ++ [HubEvent.stop], hlinger.hub, hlinger.mail⟩

end Station

namespace Hub

variable {hub : Hub}

theorem clients_eq_zero_iff : hub.clients = 0 ↔ ∀ s ∈ hub.subscribers, s.connected = false := by
  simp [clients, List.countP_eq_zero]

theorem clients_close (hub : Hub) : hub.close.hub.clients = 0 := by
  simp [clients_eq_zero_iff, close]

/--
Nobody comes and goes back to a place that has been lost.
-/
theorem Numbered.clients_step (h : hub.Numbered) (hzero : hub.clients = 0) {event : HubEvent}
    (hnobody : hub.arrivals event = [])
    : (hub.step event).clients = 0 := by
  rw [clients_eq_zero_iff] at *
  rw [h.step_eq, hnobody, List.append_nil, List.forall_mem_map]
  intro s hs
  rw [Bool.eq_false_iff]
  intro hconnected
  have hbefore := ((Subscriber.step_connected_iff _ s event).mp hconnected).1
  exact absurd ((hzero s hs).symm.trans hbefore) Bool.false_ne_true

end Hub

/-! ### Feeds -/

namespace Feed

variable {feed : Feed}

/-! ### Calls -/

/--
The error with which a feed does not start when it cannot listen at its address.
-/
def bindError (feed : Feed) (error : IoError) : ServiceError :=
  .ofLive (.bind (String.ofList feed.settings.bindAddress.render) error)

theorem start_of_running (h : feed.state = .running) (host : Host) :
    feed.start host = (.error .alreadyRunning, feed) :=
  if_pos h

theorem start_of_error (h : feed.state ≠ .running) (hhub : feed.holdsHub = true) {host : Host}
    {error : IoError} (hlisten : host.listen feed.settings.bindAddress = .error error)
    : feed.start host = (.error (feed.bindError error), feed) := by
  obtain ⟨settings, state, station, holdsHub, parent, token, localAddress, hubTask, tickerTask,
    listenerTask⟩ := feed
  cases hhub
  unfold start
  rw [if_neg h]
  simp [takeHub, hlisten, putHubBack, bindError]

theorem start_of_ok (h : feed.state ≠ .running) (hhub : feed.holdsHub = true) {host : Host}
    {address : Net.SocketAddress} (hlisten : host.listen feed.settings.bindAddress = .ok address)
    : feed.start host = (.ok (), feed.takeHub.run address) := by
  unfold start
  rw [if_neg h]
  simp [takeHub, hlisten, hhub]

theorem start_of_lost (h : feed.state ≠ .running) (hhub : feed.holdsHub = false) (host : Host) :
    feed.start host = (.error (.initFailed "broadcast hub unavailable"), feed) := by
  unfold start
  rw [if_neg h]
  simp [hhub]

/--
A feed starts, or everything stays as it was.
-/
theorem start_cases (feed : Feed) (host : Host)
    : (∃ address, feed.state ≠ .running ∧ feed.holdsHub = true
          ∧ feed.start host = (.ok (), feed.takeHub.run address))
        ∨
      (∃ error, feed.start host = (.error error, feed)) := by
  by_cases hstate : feed.state = .running
  . exact .inr ⟨_, start_of_running hstate host⟩
  . cases hhub : feed.holdsHub with
    | false => exact .inr ⟨_, start_of_lost hstate hhub host⟩
    | true =>
      cases hlisten : host.listen feed.settings.bindAddress with
      | ok address => exact .inl ⟨address, hstate, rfl, start_of_ok hstate hhub hlisten⟩
      | error error => exact .inr ⟨_, start_of_error hstate hhub hlisten⟩

theorem stop_of_not_running (h : feed.state ≠ .running) : feed.stop = (.error .notRunning, feed) :=
  if_neg h

theorem stop_of_running (h : feed.state = .running) :
    feed.stop.1 = .ok () ∧ feed.stop.2.state = .stopped := by
  unfold stop
  rw [if_pos h]
  exact ⟨rfl, rfl⟩

/-! ### Steps -/

def onStation (feed : Feed) (change : Station → Station) : Feed :=
  { feed with station := change feed.station }

def step (feed : Feed) : FeedStep → Feed
  | .start host => (feed.start host).2
  | .stop => feed.stop.2
  | .cancel => feed.cancel
  | .post command =>
    match feed.station.post command with
    | .ok station => { feed with station }
    | .error _ => feed
  | .giveUp place => feed.onStation fun station => station.giveUp place
  | .handle =>
    match feed.station.handleNext? with
    | some (_, station) => { feed with station }
    | none => feed
  | .linger count =>
    if feed.isCancelled then feed.onStation fun station => station.linger count else feed
  | .take id => feed.onStation fun station => station.act (.take id)
  | .abandon id => feed.onStation fun station => station.act (.abandon id)
  | .pass store stamps => feed.onStation fun station => { station with store, stamps }

/--
What becomes of a feed.
-/
def after (feed : Feed) (steps : List FeedStep) : Feed :=
  steps.foldl step feed

/--
The command that comes to the mailbox with a step, unless the mailbox refuses it.
-/
def accepted (feed : Feed) : FeedStep → List HubCommand
  | .post command =>
    match feed.station.post command with
    | .ok _ => [command]
    | .error _ => []
  | _ => []

/--
The commands that come to the mailbox from those who have a handle.
-/
def sent (feed : Feed) : List FeedStep → List HubCommand
  | [] => []
  | step :: steps => feed.accepted step ++ (feed.step step).sent steps

/--
What holds at any time of a feed whose hub has not been lost.
-/
structure Sound (feed : Feed) : Prop where
  holdsHub : feed.holdsHub = true ↔ feed.state ≠ .running
  token : feed.token.isSome = true ↔ feed.state = .running
  hubTask : feed.hubTask.isSome = true ↔ feed.state = .running
  tickerTask : feed.tickerTask.isSome = true ↔ feed.state = .running
  listenerTask : feed.listenerTask.isSome = true ↔ feed.state = .running
  localAddress : feed.state ≠ .running → feed.localAddress = none
  running : feed.station.running = true → feed.state = .running
  /-- Nobody is subscribed to a hub that does not run. -/
  idle : feed.station.running = false → feed.station.hub.clients = 0
  numbered : feed.station.hub.Numbered

theorem ofSettings_sound (settings : LiveSettings) (store : EventStore) (stamps : StampSupply) :
    (ofSettings settings store stamps).Sound where
  holdsHub := by simp [ofSettings]
  token := by simp [ofSettings]
  hubTask := by simp [ofSettings]
  tickerTask := by simp [ofSettings]
  listenerTask := by simp [ofSettings]
  localAddress _ := rfl
  running := nofun
  idle _ := rfl
  numbered := Hub.numbered_ofSettings settings

/--
Only the station has changed, and with it neither whether the hub runs nor who has which id.
-/
theorem Sound.onStation (h : feed.Sound) (change : Station → Station)
    (hrunning : (change feed.station).running = feed.station.running)
    (hidle : feed.station.running = false → (change feed.station).hub.clients = 0)
    (hnumbered : (change feed.station).hub.Numbered)
    : (feed.onStation change).Sound :=
  { h with
    running := fun hruns => h.running (hrunning ▸ hruns)
    idle := fun hidles => hidle (hrunning ▸ hidles)
    numbered := hnumbered }

theorem Sound.act (h : feed.Sound) {event : HubEvent}
    (hnobody : feed.station.hub.arrivals event = [])
    : (feed.onStation (·.act event)).Sound := by
  apply h.onStation
  . rfl
  . intro hidle
    exact h.numbered.clients_step (h.idle hidle) hnobody
  . exact h.numbered.step event

theorem Sound.linger (h : feed.Sound) {count : Nat}
    (hopen : (feed.station.linger count).isLost = false)
    : (feed.onStation (·.linger count)).Sound :=
  { h with
    running := nofun
    idle := fun _ => Hub.clients_close _
    numbered := by
      obtain ⟨-, events, hserves⟩ := Station.linger_serves hopen
      show (feed.station.linger count).hub.Numbered
      rw [hserves.hub]
      exact h.numbered.run events }

theorem Sound.post (h : feed.Sound) (command : HubCommand)
    : (feed.step (.post command)).Sound
        ∧ feed.station.Serves (feed.accepted (.post command)) []
            (feed.step (.post command)).station := by
  simp only [Feed.step, accepted]
  cases hpost : feed.station.post command with
  | ok station =>
    have hserves := Station.serves_of_post hpost
    obtain ⟨-, rfl⟩ := Station.post_eq_ok hpost
    have hsound := h.onStation (fun _ => { feed.station with
      mailbox := { feed.station.mailbox with items := feed.station.mailbox.items ++ [command] } })
      rfl h.idle h.numbered
    exact ⟨hsound, hserves⟩
  | error refusal => exact ⟨h, Station.serves_refl _⟩

theorem Sound.handle (h : feed.Sound) (hopen : (feed.step .handle).station.isLost = false)
    : (feed.step .handle).Sound
        ∧ ∃ events, feed.station.Serves [] events (feed.step .handle).station := by
  simp only [Feed.step] at *
  cases hnext : feed.station.handleNext? with
  | none => exact ⟨h, [], Station.serves_refl _⟩
  | some handled =>
    obtain ⟨reply, next⟩ := handled
    rw [hnext] at hopen
    obtain ⟨event, hhappens⟩ := Station.exists_happens_of_handleNext? hnext
    have hrunning := (Station.handleNext?_running hnext hopen).1
    have hfeed : feed.station.running = true := by
      by_contra hidle
      rw [Station.handleNext?_eq_none (Bool.eq_false_iff.mpr hidle)] at hnext
      contradiction
    have hserves := Station.serves_of_happens hhappens hopen
    refine ⟨h.onStation (fun _ => next) ?_ ?_ ?_, [event], hserves⟩
    . rw [hrunning, hfeed]
    . intro hidle
      exact absurd (hidle.symm.trans hfeed) Bool.false_ne_true
    . rw [hserves.hub]
      exact h.numbered.run _

/-! ### Starting and stopping -/

theorem rest_running (feed : Feed) : feed.rest.running = false := by
  unfold rest
  split
  . rfl
  . next hidle => exact Bool.eq_false_iff.mpr hidle

theorem rest_isLost (feed : Feed) : feed.rest.isLost = feed.station.isLost := by
  unfold rest
  split <;> rfl

theorem Sound.clients_rest (h : feed.Sound) : feed.rest.hub.clients = 0 := by
  unfold rest
  split
  . exact Hub.clients_close _
  . next hidle => exact h.idle (Bool.eq_false_iff.mpr hidle)

theorem rest_serves (hopen : feed.station.isLost = false) :
    ∃ events, feed.station.Serves [] events feed.rest := by
  unfold rest
  split
  . have hstop := Station.serves_of_happens feed.station.happens_stop hopen
    exact ⟨[.stop], hstop.hub, hstop.mail⟩
  . exact ⟨[], (Station.serves_refl _).of_eq rfl rfl⟩

theorem Sound.numbered_rest (h : feed.Sound) (hopen : feed.station.isLost = false) :
    feed.rest.hub.Numbered := by
  obtain ⟨events, hserves⟩ := rest_serves hopen
  rw [hserves.hub]
  exact h.numbered.run events

theorem Sound.cancel (h : feed.Sound) (hopen : feed.station.isLost = false) : feed.cancel.Sound :=
  { h with
    token := by
      show (feed.token.map CancelToken.cancel).isSome = true ↔ feed.state = .running
      rw [Option.isSome_map]
      exact h.token
    running := fun hruns => absurd (feed.rest_running.symm.trans hruns) Bool.false_ne_true
    idle := fun _ => h.clients_rest
    numbered := h.numbered_rest hopen }

theorem Sound.stop (h : feed.Sound) (hopen : feed.station.isLost = false) : feed.stop.2.Sound := by
  by_cases hstate : feed.state = .running
  . unfold Feed.stop
    rw [if_pos hstate]
    constructor
    . simp [h.hubTask.mpr hstate, hopen]
    . simp
    . simp
    . simp
    . simp
    . simp
    . exact fun hruns => absurd (feed.rest_running.symm.trans hruns) Bool.false_ne_true
    . exact fun _ => h.clients_rest
    . exact h.numbered_rest hopen
  . rw [stop_of_not_running hstate]
    exact h

/--
The station of a feed that has started.
-/
theorem run_station (feed : Feed) (address : Net.SocketAddress)
    : (feed.run address).station.hub
          = (if feed.parent.cancelled then feed.station else feed.station.start).hub
        ∧ (feed.run address).station.mailbox
          = (if feed.parent.cancelled then feed.station else feed.station.start).mailbox
        ∧ (feed.run address).station.running
          = (if feed.parent.cancelled then feed.station else feed.station.start).running := by
  unfold run
  dsimp only
  split <;> exact ⟨rfl, rfl, rfl⟩

theorem run_isLost (feed : Feed) (address : Net.SocketAddress)
    : (feed.run address).station.isLost
        = (if feed.parent.cancelled then feed.station else feed.station.start).isLost :=
  congrArg BoundedQueue.abandoned (feed.run_station address).2.1

/--
A feed that starts lets its hub handle what has been waiting, unless it has been told to end.
-/
theorem Sound.run (h : feed.Sound) (hstate : feed.state ≠ .running) (address : Net.SocketAddress)
    (hopen : (feed.takeHub.run address).station.isLost = false)
    : (feed.takeHub.run address).Sound
        ∧ (∃ events, feed.station.Serves [] events (feed.takeHub.run address).station)
        ∧ (feed.parent.cancelled = false →
            (feed.takeHub.run address).station.mailbox.items = []) := by
  obtain ⟨hhub, hmailbox, hrunning⟩ := run_station feed.takeHub address
  have hidle : feed.station.running = false := by
    rw [Bool.eq_false_iff]
    exact fun hruns => hstate (h.running hruns)
  rw [run_isLost] at hopen
  have hserves : (∃ events, feed.station.Serves [] events (feed.takeHub.run address).station)
      ∧ (feed.parent.cancelled = false →
          (feed.takeHub.run address).station.mailbox.items = []) := by
    cases hcancelled : feed.parent.cancelled with
    | true =>
      have hparent : feed.takeHub.parent.cancelled = true := hcancelled
      rw [hparent] at hhub hmailbox
      exact ⟨⟨[], (Station.serves_refl _).of_eq hhub hmailbox⟩, nofun⟩
    | false =>
      have hparent : feed.takeHub.parent.cancelled = false := hcancelled
      rw [hparent] at hhub hmailbox hopen
      obtain ⟨-, -, ⟨events, hserves⟩, hitems⟩ := Station.start_serves hopen
      refine ⟨⟨events, hserves.of_eq hhub hmailbox⟩, ?_⟩
      intro _
      rw [hmailbox]
      exact hitems
  obtain ⟨⟨events, hevents⟩, hitems⟩ := hserves
  refine ⟨?_, ⟨events, hevents⟩, hitems⟩
  constructor
  . simp [Feed.run, takeHub]
  . simp [Feed.run]
  . simp [Feed.run]
  . simp [Feed.run]
  . simp [Feed.run]
  . simp [Feed.run]
  . simp [Feed.run]
  . intro hstopped
    cases hcancelled : feed.parent.cancelled with
    | true =>
      have hparent : feed.takeHub.parent.cancelled = true := hcancelled
      rw [hhub, hparent]
      exact h.idle hidle
    | false =>
      have hparent : feed.takeHub.parent.cancelled = false := hcancelled
      rw [hparent] at hopen
      rw [hrunning, hparent] at hstopped
      exact absurd (hstopped.symm.trans (Station.start_serves hopen).2.1) Bool.false_ne_true
  . rw [hevents.hub]
    exact h.numbered.run events

theorem Sound.start (h : feed.Sound) (host : Host)
    (hopen : (feed.start host).2.station.isLost = false)
    : (feed.start host).2.Sound
        ∧ ∃ events, feed.station.Serves [] events (feed.start host).2.station := by
  rcases start_cases feed host with ⟨address, hstate, -, hstart⟩ | ⟨error, hstart⟩
  . rw [hstart] at hopen ⊢
    obtain ⟨hsound, hserves, -⟩ := h.run hstate address hopen
    exact ⟨hsound, hserves⟩
  . rw [hstart]
    exact ⟨h, [], Station.serves_refl _⟩

theorem stop_station (feed : Feed)
    : feed.stop.2.station = feed.rest ∨ feed.stop.2.station = feed.station := by
  unfold stop
  split
  . exact .inl rfl
  . exact .inr rfl

theorem stop_isLost (feed : Feed) : feed.stop.2.station.isLost = feed.station.isLost := by
  rcases feed.stop_station with hrest | hsame
  . rw [hrest, rest_isLost]
  . rw [hsame]

/-! ### Runs -/

/--
A hub that has been lost does not come back.
-/
theorem isOpen_of_step (step : FeedStep) (hopen : (feed.step step).station.isLost = false) :
    feed.station.isLost = false := by
  cases step with
  | start host =>
    rcases start_cases feed host with ⟨address, -, -, hstart⟩ | ⟨error, hstart⟩
    . have hopen : (feed.start host).2.station.isLost = false := hopen
      rw [hstart, run_isLost] at hopen
      split at hopen
      . exact hopen
      . exact (Station.start_serves hopen).1
    . have hopen : (feed.start host).2.station.isLost = false := hopen
      rw [hstart] at hopen
      exact hopen
  | stop => exact feed.stop_isLost.symm.trans hopen
  | cancel => exact feed.rest_isLost.symm.trans hopen
  | post command =>
    simp only [Feed.step] at hopen
    split at hopen
    . next station hpost => exact (Station.post_eq_ok hpost).1
    . exact hopen
  | giveUp place => exact hopen
  | handle =>
    simp only [Feed.step] at hopen
    split at hopen
    . next reply station hnext =>
      obtain ⟨event, hhappens⟩ := Station.exists_happens_of_handleNext? hnext
      exact hhappens.isOpen hopen
    . exact hopen
  | linger count =>
    simp only [Feed.step] at hopen
    split at hopen
    . exact (Station.linger_serves hopen).1
    . exact hopen
  | take id => exact hopen
  | abandon id => exact hopen
  | pass store stamps => exact hopen

theorem isOpen_of_after (steps : List FeedStep) (hopen : (feed.after steps).station.isLost = false) :
    feed.station.isLost = false := by
  induction steps generalizing feed with
  | nil => exact hopen
  | cons step steps ih => exact isOpen_of_step step (ih hopen)

theorem Sound.step (h : feed.Sound) (step : FeedStep)
    (hopen : (feed.step step).station.isLost = false)
    : (feed.step step).Sound
        ∧ ∃ events, feed.station.Serves (feed.accepted step) events (feed.step step).station := by
  have hstation := isOpen_of_step step hopen
  cases step with
  | start host => exact h.start host hopen
  | stop =>
    refine ⟨h.stop hstation, ?_⟩
    show ∃ events, feed.station.Serves [] events feed.stop.2.station
    rcases feed.stop_station with hrest | hsame
    . rw [hrest]
      exact rest_serves hstation
    . rw [hsame]
      exact ⟨[], Station.serves_refl _⟩
  | cancel => exact ⟨h.cancel hstation, rest_serves hstation⟩
  | post command =>
    obtain ⟨hsound, hserves⟩ := h.post command
    exact ⟨hsound, [], hserves⟩
  | giveUp place =>
    have hsound : (feed.onStation (·.giveUp place)).Sound := h.onStation _ rfl h.idle h.numbered
    exact ⟨hsound, [], Station.serves_giveUp _ place⟩
  | handle => exact h.handle hopen
  | linger count =>
    simp only [Feed.step] at hopen ⊢
    split
    . next hcancelled =>
      rw [if_pos hcancelled] at hopen
      exact ⟨h.linger hopen, (Station.linger_serves hopen).2⟩
    . exact ⟨h, [], Station.serves_refl _⟩
  | take id =>
    have hhappens : feed.station.Happens (.take id) _ := Station.happens_act _ nofun
    exact ⟨h.act rfl, [.take id], Station.serves_of_happens hhappens hopen⟩
  | abandon id =>
    have hhappens : feed.station.Happens (.abandon id) _ := Station.happens_act _ nofun
    exact ⟨h.act rfl, [.abandon id], Station.serves_of_happens hhappens hopen⟩
  | pass store stamps =>
    have hsound : (feed.onStation fun station => { station with store, stamps }).Sound :=
      h.onStation _ rfl h.idle h.numbered
    exact ⟨hsound, [], (Station.serves_refl _).of_eq rfl rfl⟩

theorem Sound.after (h : feed.Sound) (steps : List FeedStep)
    (hopen : (feed.after steps).station.isLost = false)
    : (feed.after steps).Sound
        ∧ ∃ events, feed.station.Serves (feed.sent steps) events (feed.after steps).station := by
  induction steps generalizing feed with
  | nil => exact ⟨h, [], Station.serves_refl _⟩
  | cons step steps ih =>
    obtain ⟨hsound, events, hserves⟩ := h.step step (isOpen_of_after steps hopen)
    obtain ⟨hafter, events', hserves'⟩ := ih hsound hopen
    exact ⟨hafter, events ++ events', hserves.trans hserves'⟩

/-! ### Calls at any time -/

theorem Sound.start_spec (h : feed.Sound) (host : Host)
    : ((feed.start host).1 = .error .alreadyRunning ↔ feed.state = .running)
        ∧ (feed.start host).1 ≠ .error (.initFailed "broadcast hub unavailable")
        ∧ (∀ error, feed.state ≠ .running → host.listen feed.settings.bindAddress = .error error →
            feed.start host = (.error (feed.bindError error), feed))
        ∧ (∀ address, feed.state ≠ .running → host.listen feed.settings.bindAddress = .ok address →
            feed.start host = (.ok (), feed.takeHub.run address)) := by
  have herror (error : IoError) (hstate : feed.state ≠ .running)
      (hlisten : host.listen feed.settings.bindAddress = .error error) :=
    start_of_error hstate (h.holdsHub.mpr hstate) hlisten
  have hok (address : Net.SocketAddress) (hstate : feed.state ≠ .running)
      (hlisten : host.listen feed.settings.bindAddress = .ok address) :=
    start_of_ok hstate (h.holdsHub.mpr hstate) hlisten
  refine ⟨?_, ?_, herror, hok⟩
  . constructor
    . intro hrefused
      by_contra hstate
      cases hlisten : host.listen feed.settings.bindAddress with
      | error error =>
        rw [herror error hstate hlisten] at hrefused
        simp [bindError, ServiceError.ofLive] at hrefused
      | ok address =>
        rw [hok address hstate hlisten] at hrefused
        contradiction
    . exact fun hstate => congrArg Prod.fst (start_of_running hstate host)
  . by_cases hstate : feed.state = .running
    . rw [start_of_running hstate]
      exact nofun
    . cases hlisten : host.listen feed.settings.bindAddress with
      | error error =>
        rw [herror error hstate hlisten]
        simp [bindError, ServiceError.ofLive]
      | ok address =>
        rw [hok address hstate hlisten]
        exact nofun

theorem stop_spec (feed : Feed)
    : (feed.stop.1 = .error .notRunning ↔ feed.state ≠ .running)
        ∧ (feed.stop.1 = .ok () ↔ feed.state = .running) := by
  by_cases hstate : feed.state = .running
  . simp [stop_of_running hstate, hstate]
  . simp [stop_of_not_running hstate, hstate]

theorem Sound.clients_stop (h : feed.Sound) : feed.stop.2.station.hub.clients = 0 := by
  by_cases hstate : feed.state = .running
  . unfold Feed.stop
    rw [if_pos hstate]
    exact h.clients_rest
  . rw [stop_of_not_running hstate]
    apply h.idle
    rw [Bool.eq_false_iff]
    exact fun hruns => hstate (h.running hruns)

/--
Whatever has become of a feed, short of the loss of its hub: the feed has the hub exactly while it does not run,
and has its token and its tasks exactly while it does. It starts whenever it does not run and can listen, and a
failure to listen changes nothing. Nobody is subscribed once it has stopped. The hub has handled what was sent to
its mailbox at any time, in order, but for what still waits there, and that it handles when it runs again.
-/
theorem after_lives (settings : LiveSettings) (store : EventStore) (stamps : StampSupply)
    (steps : List FeedStep)
    (hopen : ((ofSettings settings store stamps).after steps).station.isLost = false)
    : let feed := (ofSettings settings store stamps).after steps
      (feed.holdsHub = true ↔ feed.state ≠ .running)
        ∧ (feed.token.isSome = true ↔ feed.state = .running)
        ∧ (feed.hubTask.isSome = true ↔ feed.state = .running)
        ∧ (feed.tickerTask.isSome = true ↔ feed.state = .running)
        ∧ (feed.listenerTask.isSome = true ↔ feed.state = .running)
        ∧ (feed.state ≠ .running → feed.localAddress = none)
        ∧
      (∀ host : Host,
        ((feed.start host).1 = .error .alreadyRunning ↔ feed.state = .running)
          ∧ (feed.start host).1 ≠ .error (.initFailed "broadcast hub unavailable")
          ∧ (∀ error, feed.state ≠ .running → host.listen feed.settings.bindAddress = .error error →
              feed.start host = (.error (feed.bindError error), feed))
          ∧ (∀ address, feed.state ≠ .running → host.listen feed.settings.bindAddress = .ok address →
              feed.start host = (.ok (), feed.takeHub.run address)
                ∧ (feed.parent.cancelled = false →
                    (feed.takeHub.run address).station.isLost = false →
                      (feed.takeHub.run address).station.mailbox.items = [])))
        ∧
      (feed.stop.1 = .error .notRunning ↔ feed.state ≠ .running)
        ∧ (feed.stop.1 = .ok () ↔ feed.state = .running)
        ∧ feed.stop.2.station.hub.clients = 0
        ∧ (∀ command, feed.station.post command ≠ .error .closed)
        ∧
      ∃ events,
        feed.station.hub = (Hub.ofSettings settings).run events
          ∧ ((ofSettings settings store stamps).sent steps).map Station.unawaited
            = (events.filterMap (·.command?) ++ feed.station.mailbox.items).map Station.unawaited := by
  intro feed
  obtain ⟨hsound, events, hserves⟩ := (ofSettings_sound settings store stamps).after steps hopen
  refine ⟨hsound.holdsHub, hsound.token, hsound.hubTask, hsound.tickerTask, hsound.listenerTask,
    hsound.localAddress, ?_, feed.stop_spec.1, feed.stop_spec.2, hsound.clients_stop,
    Station.post_ne_closed hopen, events, hserves.hub, hserves.mail⟩
  intro host
  obtain ⟨halready, havailable, herror, hok⟩ := hsound.start_spec host
  refine ⟨halready, havailable, herror, ?_⟩
  intro address hstate hlisten
  refine ⟨hok address hstate hlisten, ?_⟩
  intro hparent hrunOpen
  exact (hsound.run hstate address hrunOpen).2.2 hparent

/--
A feed that fails to listen before its first run and between two runs loses neither its hub nor a command. It has
no address and no subscriber when it has stopped, and starts again.
-/
theorem after_lives_restarted
    : let settings : LiveSettings := { bindAddress := default }
      let closed : Host :=
        { file := fun _ => { status := .error .notFound, reading := .error .notFound }
          run := fun _ _ _ => .timedOut
          listen := fun _ => .error .addressInUse }
      let open_ : Host := { closed with listen := .ok }
      let register : FeedStep := .post (.register .anonymous true)
      let stamps : StampSupply := ⟨fun _ => default, 0⟩
      let steps := [register, .start closed, .start open_, register, .handle, register, .stop,
        .start closed]
      let feed := (ofSettings settings (.empty 1) stamps).after steps
      feed.station.isLost = false
        ∧ feed.holdsHub = true
        ∧ feed.state = .stopped
        ∧ feed.localAddress = none
        ∧ feed.station.hub.subscribers.map (·.connected) = [false, false]
        ∧ feed.start closed = (.error (feed.bindError .addressInUse), feed)
        ∧ feed.start open_ = (.ok (), feed.takeHub.run default)
        ∧ (feed.takeHub.run default).station.hub.subscribers.map (·.id) = [1, 2, 3] := by
  intro settings closed open_ register stamps steps feed
  have hopen : feed.station.isLost = false := by decide +kernel
  have hstopped : feed.state = .stopped := by decide +kernel
  have hstate : feed.state ≠ .running := by
    rw [hstopped]
    exact nofun
  have haddress : feed.settings.bindAddress = default := by decide +kernel
  have hclosed : closed.listen feed.settings.bindAddress = .error .addressInUse := rfl
  have hopened : open_.listen feed.settings.bindAddress = .ok default := congrArg Except.ok haddress
  obtain ⟨hhub, -, -, -, -, hnone, hstart, -⟩ :=
    after_lives settings (.empty 1) stamps steps hopen
  have hrefused := (hstart closed).2.2.1 _ hstate hclosed
  have hstarted := ((hstart open_).2.2.2 _ hstate hopened).1
  refine ⟨hopen, hhub.mpr hstate, hstopped, hnone hstate, ?_, hrefused, hstarted, ?_⟩
  . decide +kernel
  . decide +kernel

end Feed

end WafWatch
