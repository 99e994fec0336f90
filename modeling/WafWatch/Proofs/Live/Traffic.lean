import WafWatch.Live.Station
import WafWatch.Proofs.Live.Run
import WafWatch.Proofs.Store.History

/-!
This module contains the traffic of a hub: writers that store events and announce them in a later step, others
that send commands, and the hub, which takes the commands off its mailbox in order. At every moment the hub is
what its history made of it, and whatever it announces has been stored before.
-/

namespace WafWatch

/--
An event that the store has accepted, with its number among all accepted events.
-/
structure Write where
  number : Nat
  event : SecurityEvent
  deriving DecidableEq, Repr, Inhabited

/--
Something that happened at the hub, with the write that it announces if it is the handling of a command by
which a writer announces one.
-/
structure Happening where
  event : HubEvent
  write : Option Write := none
  deriving DecidableEq, Repr, Inhabited

/--
A step of the hub or of somebody around it.
-/
inductive TrafficStep where
  /-- A writer calls the store. What the store accepts has still to be announced. -/
  | write (call : StoreCall)
  /-- One of the writers that have something to announce offers its command to the mailbox. -/
  | announce (place : Nat)
  /-- Somebody else offers a command to the mailbox. -/
  | post (command : HubCommand)
  /-- Whoever waits for the answer to a command of the mailbox stops waiting. -/
  | giveUp (place : Nat)
  /-- The hub handles the first command of the mailbox. -/
  | handle
  | take (id : Nat)
  | abandon (id : Nat)
  | resume
  | stop
  /-- Time passes. -/
  | wait (stamps : StampSupply)

/--
A hub with all that goes on around it.
-/
structure Traffic where
  station : Station
  /-- All events that the store has accepted. -/
  accepted : List SecurityEvent := []
  /-- The writes that have still to be announced. -/
  pending : List Write := []
  /-- The writes whose announcement the mailbox has accepted. -/
  announced : List Write := []
  /-- For each command of the mailbox the write that it announces, if a writer sent it. -/
  labels : List (Option Write) := []
  /-- What has happened at the hub. -/
  log : List Happening := []

namespace Traffic

def start (settings : LiveSettings) (capacity : Nat) (stamps : StampSupply) : Traffic where
  station := .ofSettings settings (.empty capacity) stamps

def accept (traffic : Traffic) (store : EventStore) (event : SecurityEvent) : Traffic :=
  { traffic with
    station := { traffic.station with store }
    accepted := traffic.accepted ++ [event]
    pending := traffic.pending ++ [⟨traffic.accepted.length, event⟩] }

def write (traffic : Traffic) : StoreCall → Traffic
  | .append event => traffic.accept (traffic.station.store.append event) event
  | .appendIfAbsent event =>
    match traffic.station.store.appendIfAbsent event with
    | (true, store) => traffic.accept store event
    | (false, store) => { traffic with station := { traffic.station with store } }

def announce (traffic : Traffic) (place : Nat) : Traffic :=
  match traffic.pending[place]? with
  | some write =>
    let pending := traffic.pending.eraseIdx place
    match traffic.station.announce (.newLog write.event) with
    | .ok station =>
      { traffic with
        station
        pending
        announced := traffic.announced ++ [write]
        labels := traffic.labels ++ [some write] }
    | .error _ => { traffic with pending }
  | none => traffic

def post (traffic : Traffic) (command : HubCommand) : Traffic :=
  match traffic.station.post command with
  | .ok station => { traffic with station, labels := traffic.labels ++ [none] }
  | .error _ => traffic

def giveUp (traffic : Traffic) (place : Nat) : Traffic :=
  let mailbox := traffic.station.mailbox
  { traffic with
    station := { traffic.station with
      mailbox := { mailbox with items := mailbox.items.modify place Station.unawaited } } }

/--
The hub is lost with the commands of the mailbox.
-/
def breakDown (traffic : Traffic) (station : Station) : Traffic :=
  { traffic with station, labels := [], log := traffic.log ++ [{ event := .stop }] }

/--
The first command of the mailbox is carried out.
-/
def carryOut (traffic : Traffic) (command : HubCommand) (station : Station) : Traffic :=
  { traffic with
    station
    labels := traffic.labels.drop 1
    log := traffic.log ++ [{
      event := .handle traffic.station.store traffic.station.now command
      write := traffic.labels.head?.join }] }

def handle (traffic : Traffic) : Traffic :=
  match traffic.station.mailbox.items, traffic.station.handleNext? with
  | command :: _, some (_, station) =>
    if traffic.station.isFatal command then traffic.breakDown station
    else traffic.carryOut command station
  | _, _ => traffic

/--
A subscriber does something with its queue.
-/
def act (traffic : Traffic) (event : HubEvent) : Traffic :=
  { traffic with
    station := { traffic.station with hub := traffic.station.hub.step event }
    log := traffic.log ++ [{ event }] }

def resume (traffic : Traffic) : Traffic :=
  if traffic.station.isLost then traffic
  else { traffic with station := { traffic.station with running := true } }

def stop (traffic : Traffic) : Traffic :=
  { traffic with station := traffic.station.stop, log := traffic.log ++ [{ event := .stop }] }

def step (traffic : Traffic) : TrafficStep → Traffic
  | .write call => traffic.write call
  | .announce place => traffic.announce place
  | .post command => traffic.post command
  | .giveUp place => traffic.giveUp place
  | .handle => traffic.handle
  | .take id => traffic.act (.take id)
  | .abandon id => traffic.act (.abandon id)
  | .resume => traffic.resume
  | .stop => traffic.stop
  | .wait stamps => { traffic with station := { traffic.station with stamps } }

def run (traffic : Traffic) (steps : List TrafficStep) : Traffic :=
  steps.foldl step traffic

end Traffic

/-! ### The mailbox -/

namespace Station

variable {station station' : Station}

theorem post_eq_ok {command : HubCommand} (h : station.post command = .ok station')
    : station.isLost = false
        ∧
      station' =
        { station with
          mailbox := { station.mailbox with items := station.mailbox.items ++ [command] } } := by
  unfold post at h
  cases hoffer : station.mailbox.offer command with
  | ok mailbox =>
    obtain ⟨hroom, rfl⟩ := BoundedQueue.offer_eq_ok hoffer
    rw [hoffer] at h
    injection h with h
    refine ⟨?_, h.symm⟩
    simp at hroom
    exact hroom.1
  | error refusal =>
    rw [hoffer] at h
    contradiction

theorem announce_eq_ok {message : ServerMessage} (h : station.announce message = .ok station') :
    station.post (.broadcast ⟨message, station.now⟩) = .ok station' := by
  unfold announce at h
  split at h
  . next hpost =>
    injection h with h
    rw [hpost, h]
  . contradiction
  . contradiction

theorem handleNext?_eq_some {command : HubCommand} {rest : List HubCommand} {reply : Option HubReply}
    (hitems : station.mailbox.items = command :: rest)
    (h : station.handleNext? = some (reply, station'))
    : station'.store = station.store
        ∧
      if station.isFatal command then
        station'.hub = station.hub.step .stop
          ∧ station'.mailbox = { station.mailbox with items := [], abandoned := true }
      else
        station'.hub = station.hub.step (.handle station.store station.now command)
          ∧ station'.mailbox = { station.mailbox with items := rest } := by
  unfold handleNext? BoundedQueue.take? at h
  rw [hitems] at h
  split at h
  . dsimp only at h
    split at h
    . next hfatal =>
      injection h with h
      injection h with hreply hstation
      rw [if_pos hfatal, ← hstation]
      exact ⟨rfl, rfl, rfl⟩
    . next hsound =>
      injection h with h
      injection h with hreply hstation
      rw [if_neg hsound, ← hstation]
      exact ⟨rfl, rfl, rfl⟩
  . contradiction

end Station

/-! ### What holds at every moment -/

/--
A command is the announcement of a write.
-/
def Write.AnnouncedBy (write : Write) (command : HubCommand) : Prop :=
  ∃ time, command = .broadcast ⟨.newLog write.event, time⟩

/--
A store of a capacity is what the first of the accepted events made of it, and the write is among them.
-/
def Write.KnownTo (capacity : Nat) (accepted : List SecurityEvent) (write : Write)
    (store : EventStore) : Prop :=
  ∃ history, history <+: accepted ∧ store = .ofHistory capacity history
    ∧ history[write.number]? = some write.event

def Labels : Option Write → HubCommand → Prop
  | some write, command => write.AnnouncedBy command
  | none, _ => True

def Happening.Sound (happening : Happening) : Prop :=
  ∀ write, happening.write = some write →
    ∃ store now command, happening.event = .handle store now command ∧ write.AnnouncedBy command

/--
If one thing is the announcement of a write, the store that the hub looks at later has accepted it.
-/
def Happening.Informs (capacity : Nat) (accepted : List SecurityEvent)
    (happening later : Happening) : Prop :=
  ∀ write store now command, happening.write = some write →
    later.event = .handle store now command → write.KnownTo capacity accepted store

theorem Happening.Informs.concat {capacity : Nat} {accepted : List SecurityEvent}
    {happening later : Happening} (h : happening.Informs capacity accepted later)
    (event : SecurityEvent)
    : happening.Informs capacity (accepted ++ [event]) later := by
  intro write store now command hwrite hevent
  obtain ⟨history, hprefix, hstore⟩ := h write store now command hwrite hevent
  exact ⟨history, hprefix.trans (List.prefix_append _ _), hstore⟩

theorem Labels.unawaited {label : Option Write} {command : HubCommand} (h : Labels label command) :
    Labels label (Station.unawaited command) := by
  cases label with
  | none => trivial
  | some write =>
    obtain ⟨time, rfl⟩ := h
    exact ⟨time, rfl⟩

theorem forall₂_modify_right {α β : Type} {R : α → β → Prop} {f : β → β}
    (hf : ∀ a b, R a b → R a (f b)) {as : List α} {bs : List β} (h : List.Forall₂ R as bs)
    (place : Nat)
    : List.Forall₂ R as (bs.modify place f) := by
  induction h generalizing place with
  | nil => simp
  | cons hfirst hrest ih =>
    cases place with
    | zero => exact .cons (hf _ _ hfirst) hrest
    | succ place => exact .cons hfirst (ih place)

namespace Traffic

variable {settings : LiveSettings} {capacity : Nat} {traffic : Traffic}

/--
The store holds what it has accepted, the hub is what its history made of it, and announcements are handled in
the order in which the mailbox accepted them, after the store has accepted their writes.
-/
structure Sound (settings : LiveSettings) (capacity : Nat) (traffic : Traffic) : Prop where
  store_eq : traffic.station.store = .ofHistory capacity traffic.accepted
  hub_eq : traffic.station.hub = (Hub.ofSettings settings).run (traffic.log.map (·.event))
  pending : ∀ write ∈ traffic.pending, traffic.accepted[write.number]? = some write.event
  announced : ∀ write ∈ traffic.announced, traffic.accepted[write.number]? = some write.event
  labels : List.Forall₂ Labels traffic.labels traffic.station.mailbox.items
  /-- Announcements are lost only together with the hub. -/
  fifo : ∃ lost,
    traffic.announced
        = traffic.log.filterMap (·.write) ++ traffic.labels.filterMap id ++ lost
      ∧ (lost = [] ∨ traffic.station.isLost = true)
  handled : ∀ happening ∈ traffic.log, happening.Sound
  informs : traffic.log.Pairwise (Happening.Informs capacity traffic.accepted)

theorem start_sound (settings : LiveSettings) (capacity : Nat) (stamps : StampSupply) :
    (start settings capacity stamps).Sound settings (max capacity 1) where
  store_eq := EventStore.empty_eq_ofHistory capacity
  hub_eq := rfl
  pending := by simp [start]
  announced := by simp [start]
  labels := .nil
  fifo := ⟨[], rfl, .inl rfl⟩
  handled := by simp [start]
  informs := .nil

theorem Sound.mem_announced (h : traffic.Sound settings capacity) {happening : Happening}
    (hlog : happening ∈ traffic.log) {write : Write} (hwrite : happening.write = some write)
    : write ∈ traffic.announced := by
  obtain ⟨lost, hannounced, -⟩ := h.fifo
  rw [hannounced]
  apply List.mem_append_left
  apply List.mem_append_left
  exact List.mem_filterMap.mpr ⟨happening, hlog, hwrite⟩

theorem Sound.knownTo (h : traffic.Sound settings capacity) {write : Write}
    (hwrite : write ∈ traffic.announced)
    : write.KnownTo capacity traffic.accepted traffic.station.store :=
  ⟨traffic.accepted, List.prefix_rfl, h.store_eq, h.announced write hwrite⟩

/-! ### Steps -/

theorem Sound.accept (h : traffic.Sound settings capacity) {store : EventStore}
    {event : SecurityEvent} (hstore : store = .ofHistory capacity (traffic.accepted ++ [event]))
    : (traffic.accept store event).Sound settings capacity := by
  have hold : ∀ write : Write, traffic.accepted[write.number]? = some write.event →
      (traffic.accepted ++ [event])[write.number]? = some write.event := by
    intro write hwrite
    rw [List.getElem?_append_left (List.getElem?_eq_some_iff.mp hwrite).1, hwrite]
  refine { h with store_eq := hstore, pending := ?_, announced := ?_, informs := ?_ }
  . intro write hwrite
    cases List.mem_append.mp hwrite with
    | inl hearlier => exact hold write (h.pending write hearlier)
    | inr hnew =>
      rw [List.mem_singleton.mp hnew]
      exact List.getElem?_concat_length
  . intro write hwrite
    exact hold write (h.announced write hwrite)
  . exact h.informs.imp fun hinforms => hinforms.concat event

theorem Sound.write (hcapacity : 0 < capacity) (h : traffic.Sound settings capacity)
    (call : StoreCall)
    : (traffic.write call).Sound settings capacity := by
  have happend := fun event => h.store_eq ▸ EventStore.append_ofHistory hcapacity traffic.accepted event
  unfold Traffic.write
  cases call with
  | append event => exact h.accept (happend event)
  | appendIfAbsent event =>
    dsimp only
    rcases traffic.station.store.appendIfAbsent_cases event with hheld | hnew
    . rw [hheld]
      exact h
    . rw [hnew]
      exact h.accept (happend event)

theorem Sound.announce (h : traffic.Sound settings capacity) (place : Nat) :
    (traffic.announce place).Sound settings capacity := by
  have hpending : ∀ write ∈ traffic.pending.eraseIdx place,
      traffic.accepted[write.number]? = some write.event :=
    fun write hwrite => h.pending write (List.mem_of_mem_eraseIdx hwrite)
  unfold Traffic.announce
  split
  . next write hwrite =>
    dsimp only
    split
    . next station hannounce =>
      obtain ⟨hlost, rfl⟩ := Station.post_eq_ok (Station.announce_eq_ok hannounce)
      refine { h with pending := hpending, announced := ?_, labels := ?_, fifo := ?_ }
      . intro other hother
        cases List.mem_append.mp hother with
        | inl hearlier => exact h.announced other hearlier
        | inr hnew =>
          rw [List.mem_singleton.mp hnew]
          exact h.pending write (List.mem_of_getElem? hwrite)
      . exact List.rel_append h.labels (.cons ⟨_, rfl⟩ .nil)
      . -- nothing has been lost so far
        obtain ⟨lost, hannounced, hnone⟩ := h.fifo
        rw [hlost] at hnone
        simp only [Bool.false_eq_true, or_false] at hnone
        refine ⟨[], ?_, .inl rfl⟩
        simp [hannounced, hnone]
    . exact { h with pending := hpending }
  . exact h

theorem Sound.post (h : traffic.Sound settings capacity) (command : HubCommand) :
    (traffic.post command).Sound settings capacity := by
  unfold Traffic.post
  split
  . next station hpost =>
    obtain ⟨-, rfl⟩ := Station.post_eq_ok hpost
    refine { h with labels := ?_, fifo := ?_ }
    . exact List.rel_append h.labels (.cons trivial .nil)
    . obtain ⟨lost, hannounced, hlost⟩ := h.fifo
      exact ⟨lost, by simpa using hannounced, hlost⟩
  . exact h

theorem Sound.giveUp (h : traffic.Sound settings capacity) (place : Nat) :
    (traffic.giveUp place).Sound settings capacity :=
  { h with labels := forall₂_modify_right (fun _ _ => Labels.unawaited) h.labels place }

/--
What happens is logged at the end. If it is the handling of a command, the hub looks at the store as it is.
-/
theorem Sound.informs_concat (h : traffic.Sound settings capacity) {happening : Happening}
    (hstore : ∀ store now command, happening.event = .handle store now command →
      store = traffic.station.store)
    : (traffic.log ++ [happening]).Pairwise (Happening.Informs capacity traffic.accepted) := by
  rw [List.pairwise_append]
  refine ⟨h.informs, List.pairwise_singleton _ _, ?_⟩
  intro earlier hearlier later hlater write store now command hwrite hevent
  rw [List.mem_singleton.mp hlater] at hevent
  rw [hstore store now command hevent]
  exact h.knownTo (h.mem_announced hearlier hwrite)

theorem Sound.run_concat (h : traffic.Sound settings capacity) (happening : Happening)
    : (Hub.ofSettings settings).run ((traffic.log ++ [happening]).map (·.event))
        =
      traffic.station.hub.step happening.event := by
  rw [List.map_append, List.map_singleton, Hub.run_concat, ← h.hub_eq]

theorem Sound.handled_concat (h : traffic.Sound settings capacity) {happening : Happening}
    (hnew : happening.Sound)
    : ∀ any ∈ traffic.log ++ [happening], any.Sound := by
  simpa only [List.forall_mem_append, List.forall_mem_singleton] using ⟨h.handled, hnew⟩

theorem Sound.act (h : traffic.Sound settings capacity) {event : HubEvent}
    (hevent : ∀ store now command, event ≠ .handle store now command)
    : (traffic.act event).Sound settings capacity := by
  refine { h with hub_eq := ?_, fifo := ?_, handled := ?_, informs := ?_ }
  . exact (h.run_concat { event }).symm
  . obtain ⟨lost, hannounced, hlost⟩ := h.fifo
    exact ⟨lost, by simpa [Traffic.act] using hannounced, hlost⟩
  . apply h.handled_concat
    intro write hwrite
    contradiction
  . apply h.informs_concat
    intro store now command hhandle
    exact absurd hhandle (hevent store now command)

section

variable {command : HubCommand} {rest : List HubCommand} {station : Station}

theorem Sound.breakDown (h : traffic.Sound settings capacity)
    (hstore : station.store = traffic.station.store)
    (hhub : station.hub = traffic.station.hub.step .stop)
    (hmailbox : station.mailbox = { traffic.station.mailbox with items := [], abandoned := true })
    : (traffic.breakDown station).Sound settings capacity := by
  have hstopped : (traffic.act .stop).Sound settings capacity := h.act (by simp)
  unfold Traffic.breakDown
  refine { hstopped with store_eq := ?_, hub_eq := ?_, labels := ?_, fifo := ?_ }
  . exact hstore.trans h.store_eq
  . exact hhub.trans hstopped.hub_eq
  . rw [hmailbox]
    exact .nil
  . -- what was in the mailbox is lost
    obtain ⟨lost, hannounced, -⟩ := h.fifo
    refine ⟨traffic.labels.filterMap id ++ lost, ?_, .inr ?_⟩
    . simpa using hannounced
    . exact congrArg BoundedQueue.abandoned hmailbox

theorem Sound.carryOut (h : traffic.Sound settings capacity)
    (hitems : traffic.station.mailbox.items = command :: rest)
    (hstore : station.store = traffic.station.store)
    (hhub : station.hub
      = traffic.station.hub.step (.handle traffic.station.store traffic.station.now command))
    (hmailbox : station.mailbox = { traffic.station.mailbox with items := rest })
    : (traffic.carryOut command station).Sound settings capacity := by
  have hlabels := h.labels
  rw [hitems, List.forall₂_cons_right_iff] at hlabels
  obtain ⟨label, labels, hlabel, hrest, heq⟩ := hlabels
  unfold Traffic.carryOut
  rw [heq]
  refine { h with
    store_eq := ?_, hub_eq := ?_, labels := ?_, fifo := ?_, handled := ?_, informs := ?_ }
  . exact hstore.trans h.store_eq
  . rw [h.run_concat]
    exact hhub
  . rw [hmailbox]
    exact hrest
  . obtain ⟨lost, hannounced, hlost⟩ := h.fifo
    have hsame : station.isLost = traffic.station.isLost := by
      unfold Station.isLost
      rw [hmailbox]
    refine ⟨lost, ?_, hsame ▸ hlost⟩
    rw [heq] at hannounced
    cases label <;> simpa using hannounced
  . apply h.handled_concat
    rintro write rfl
    exact ⟨_, _, _, rfl, hlabel⟩
  . apply h.informs_concat
    intro store now command' hhandle
    injection hhandle with hsame
    exact hsame.symm

end

theorem Sound.handle (h : traffic.Sound settings capacity) :
    traffic.handle.Sound settings capacity := by
  unfold Traffic.handle
  split
  . next command rest reply station hitems hnext =>
    obtain ⟨hstore, hstation⟩ := Station.handleNext?_eq_some hitems hnext
    split
    . next hfatal =>
      rw [if_pos hfatal] at hstation
      exact h.breakDown hstore hstation.1 hstation.2
    . next hcarried =>
      rw [if_neg hcarried] at hstation
      exact h.carryOut hitems hstore hstation.1 hstation.2
  . exact h

theorem Sound.resume (h : traffic.Sound settings capacity) :
    traffic.resume.Sound settings capacity := by
  unfold Traffic.resume
  split
  . exact h
  . exact { h with }

theorem Sound.stop (h : traffic.Sound settings capacity) :
    traffic.stop.Sound settings capacity := by
  have hstopped : (traffic.act .stop).Sound settings capacity := h.act (by simp)
  exact { hstopped with }

theorem Sound.step (hcapacity : 0 < capacity) (h : traffic.Sound settings capacity)
    (step : TrafficStep)
    : (traffic.step step).Sound settings capacity := by
  cases step with
  | write call => exact h.write hcapacity call
  | announce place => exact h.announce place
  | post command => exact h.post command
  | giveUp place => exact h.giveUp place
  | handle => exact h.handle
  | take id => exact h.act (by simp)
  | abandon id => exact h.act (by simp)
  | resume => exact h.resume
  | stop => exact h.stop
  | wait stamps => exact { h with }

theorem Sound.run (hcapacity : 0 < capacity) (h : traffic.Sound settings capacity)
    (steps : List TrafficStep)
    : (traffic.run steps).Sound settings capacity := by
  unfold Traffic.run
  induction steps generalizing traffic with
  | nil => exact h
  | cons step steps ih => exact ih (h.step hcapacity step)

theorem start_run_sound (settings : LiveSettings) (capacity : Nat) (stamps : StampSupply)
    (steps : List TrafficStep)
    : ((start settings capacity stamps).run steps).Sound settings (max capacity 1) := by
  apply Sound.run
  . omega
  . exact start_sound settings capacity stamps

end Traffic

end WafWatch
