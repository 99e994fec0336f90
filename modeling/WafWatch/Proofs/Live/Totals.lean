import WafWatch.Proofs.Live.Receipt
import WafWatch.Proofs.Live.Station

/-!
This module contains the totals that a subscriber is told. The store never holds fewer events than before, but
an update waits in the mailbox after its snapshot has been taken, while answers are made when they are given.
So an update may fall behind an answer that was made after its snapshot; otherwise totals never decrease.
-/

namespace WafWatch

def ServerMessage.total? : ServerMessage → Option Nat
  | .stats snapshot => some snapshot.totalRequests
  | .statsUpdate snapshot => some snapshot.totalRequests
  | _ => none

def ServerMessage.isUpdate : ServerMessage → Bool
  | .statsUpdate _ => true
  | _ => false

def HubCommand.isBroadcast : HubCommand → Bool
  | .broadcast _ => true
  | _ => false

def HubEvent.isBroadcast : HubEvent → Bool
  | .handle _ _ command => command.isBroadcast
  | _ => false

/--
A snapshot that the ticker has taken, and the moment of that.
-/
structure Draw where
  snapshot : Snapshot
  moment : Nat
  deriving DecidableEq, Repr, Inhabited

/--
Something that happened at the hub, and the moment at which the store was counted for what is sent with it:
for an update the moment of its snapshot, for an answer the moment at which it is given.
-/
structure Dispatch where
  event : HubEvent
  taken : Option Nat := none
  deriving DecidableEq, Repr, Inhabited

/--
A step of the hub, of the ticker or of somebody around them.
-/
inductive TickingStep where
  /-- Somebody calls the store. -/
  | store (call : StoreCall)
  /-- Somebody announces an event. -/
  | announce (event : SecurityEvent)
  /-- Somebody sends another command. -/
  | ask (command : HubCommand) (hask : command.isBroadcast = false)
  /-- Whoever waits for the answer to a command of the mailbox stops waiting. -/
  | giveUp (place : Nat)
  /-- The ticker takes a snapshot for an update. -/
  | draw
  /-- The ticker offers the update to the mailbox. -/
  | offer
  /-- The hub handles the first command of the mailbox. -/
  | handle
  | take (id : Nat)
  | abandon (id : Nat)
  | resume
  | stop
  | lose
  /-- Time passes. -/
  | wait (stamps : StampSupply)

/--
A hub with a ticker and all that goes on around them.
-/
structure Ticking where
  station : Station
  /-- The numbers of events that the store held before each step so far. -/
  sizes : List Nat := []
  /-- The update that the ticker has still to offer. -/
  drawn : Option Draw := none
  /-- For each command of the mailbox the moment of its snapshot, if it is an update. -/
  marks : List (Option Nat) := []
  /-- What has happened at the hub. -/
  log : List Dispatch := []

namespace Ticking

def start (settings : LiveSettings) (capacity : Nat) (stamps : StampSupply) : Ticking where
  station := .ofSettings settings (.empty capacity) stamps

/--
The number of steps so far.
-/
def moment (ticking : Ticking) : Nat :=
  ticking.sizes.length

/--
The next moment comes.
-/
def pass (ticking : Ticking) : Ticking :=
  { ticking with sizes := ticking.sizes ++ [ticking.station.store.size] }

/--
The mailbox has accepted a command, or refused it.
-/
def accept {ε : Type} (ticking : Ticking) (mark : Option Nat) : Except ε Station → Ticking
  | .ok station => { ticking with station, marks := ticking.marks ++ [mark] }
  | .error _ => ticking

def draw (ticking : Ticking) (moment : Nat) : Ticking :=
  match ticking.drawn with
  | none =>
    let snapshot := ticking.station.store.snapshot ticking.station.now
    { ticking with drawn := some ⟨snapshot, moment⟩ }
  | some _ => ticking

def offer (ticking : Ticking) : Ticking :=
  match ticking.drawn with
  | some draw =>
    { ticking with drawn := none }.accept (some draw.moment)
      (ticking.station.announce (.statsUpdate draw.snapshot))
  | none => ticking

def takenWith (ticking : Ticking) (moment : Nat) : HubEvent → Option Nat
  | .handle _ _ (.broadcast _) => ticking.marks.head?.join
  | .handle .. => some moment
  | _ => none

/--
Something happens at the hub. Commands that leave the mailbox leave from the front.
-/
def happen (ticking : Ticking) (moment : Nat) (event : HubEvent) (station : Station) : Ticking :=
  let gone := ticking.station.mailbox.items.length - station.mailbox.items.length
  { ticking with
    station
    marks := ticking.marks.drop gone
    log := ticking.log ++ [⟨event, ticking.takenWith moment event⟩] }

def perform (ticking : Ticking) (moment : Nat) : TickingStep → Ticking
  | .store call => { ticking with station := ticking.station.serve call }
  | .announce event => ticking.accept none (ticking.station.announce (.newLog event))
  | .ask command _ => ticking.accept none (ticking.station.post command)
  | .giveUp place => { ticking with station := ticking.station.giveUp place }
  | .draw => ticking.draw moment
  | .offer => ticking.offer
  | .handle =>
    match ticking.station.handling? with
    | some (event, station) => ticking.happen moment event station
    | none => ticking
  | .take id => ticking.happen moment (.take id) (ticking.station.act (.take id))
  | .abandon id => ticking.happen moment (.abandon id) (ticking.station.act (.abandon id))
  | .resume => { ticking with station := ticking.station.resume }
  | .stop => ticking.happen moment .stop ticking.station.stop
  | .lose => ticking.happen moment .stop ticking.station.lose
  | .wait stamps => { ticking with station := { ticking.station with stamps } }

def step (ticking : Ticking) (step : TickingStep) : Ticking :=
  ticking.pass.perform ticking.moment step

def run (ticking : Ticking) (steps : List TickingStep) : Ticking :=
  steps.foldl step ticking

/--
What was put on the queue of the subscriber of an id so far.
-/
def putsFor (settings : LiveSettings) (id : Nat) (ticking : Ticking) : List (Dispatch × Envelope) :=
  (Hub.ofSettings settings).putsFor (·.event) id ticking.log

end Ticking

/-! ### Moments -/

/--
The store was counted for one thing before it was counted for a later one, unless the later one is an update
and the other is not.
-/
def Dispatch.Precedes (dispatch later : Dispatch) : Prop :=
  ∀ i ∈ dispatch.taken, ∀ j ∈ later.taken,
    i < j ∨ dispatch.event.isBroadcast = false ∧ later.event.isBroadcast = true

/--
What happened and the moments of the updates that wait are in order, and before a moment.
-/
structure Ordered (log : List Dispatch) (waiting : List Nat) (moment : Nat) : Prop where
  precedes : log.Pairwise Dispatch.Precedes
  waiting_lt : waiting.Pairwise (· < ·)
  log_lt_waiting : ∀ dispatch ∈ log, dispatch.event.isBroadcast = true →
    ∀ i ∈ dispatch.taken, ∀ j ∈ waiting, i < j
  log_lt_moment : ∀ dispatch ∈ log, ∀ i ∈ dispatch.taken, i < moment
  waiting_lt_moment : ∀ j ∈ waiting, j < moment

namespace Ordered

variable {log : List Dispatch} {waiting rest : List Nat} {moment : Nat}

theorem sublist (h : Ordered log waiting moment) (hrest : rest.Sublist waiting) :
    Ordered log rest moment where
  precedes := h.precedes
  waiting_lt := h.waiting_lt.sublist hrest
  log_lt_waiting dispatch hlog hbroadcast i hi j hj :=
    h.log_lt_waiting dispatch hlog hbroadcast i hi j (hrest.subset hj)
  log_lt_moment := h.log_lt_moment
  waiting_lt_moment j hj := h.waiting_lt_moment j (hrest.subset hj)

theorem succ (h : Ordered log waiting moment) : Ordered log waiting (moment + 1) where
  precedes := h.precedes
  waiting_lt := h.waiting_lt
  log_lt_waiting := h.log_lt_waiting
  log_lt_moment dispatch hlog i hi := Nat.lt_succ_of_lt (h.log_lt_moment dispatch hlog i hi)
  waiting_lt_moment j hj := Nat.lt_succ_of_lt (h.waiting_lt_moment j hj)

/--
A snapshot is taken now.
-/
theorem draw (h : Ordered log waiting moment) : Ordered log (waiting ++ [moment]) (moment + 1) where
  precedes := h.precedes
  waiting_lt := by
    rw [List.pairwise_append]
    refine ⟨h.waiting_lt, List.pairwise_singleton _ _, ?_⟩
    intro i hi j hj
    rw [List.mem_singleton.mp hj]
    exact h.waiting_lt_moment i hi
  log_lt_waiting := by
    intro dispatch hlog hbroadcast i hi j hj
    cases List.mem_append.mp hj with
    | inl hearlier => exact h.log_lt_waiting dispatch hlog hbroadcast i hi j hearlier
    | inr hnow =>
      rw [List.mem_singleton.mp hnow]
      exact h.log_lt_moment dispatch hlog i hi
  log_lt_moment := h.succ.log_lt_moment
  waiting_lt_moment := by
    simpa [or_imp, forall_and] using h.succ.waiting_lt_moment

/--
Something happens now. If it is an update, it is one that was waiting before those that still are.
-/
theorem concat (h : Ordered log waiting moment) (hrest : rest.Sublist waiting) {event : HubEvent}
    {taken : Option Nat}
    (htaken : ∀ i ∈ taken, if event.isBroadcast then (i :: rest).Sublist waiting else i = moment)
    : Ordered (log ++ [⟨event, taken⟩]) rest (moment + 1) where
  precedes := by
    rw [List.pairwise_append]
    refine ⟨h.precedes, List.pairwise_singleton _ _, ?_⟩
    intro earlier hearlier new hnew i hi j hj
    rw [List.mem_singleton.mp hnew] at hj ⊢
    have hj' := htaken j hj
    split at hj'
    . next hbroadcast =>
      cases hearlier' : earlier.event.isBroadcast with
      | true =>
        -- it waited when the earlier one was sent
        left
        exact h.log_lt_waiting earlier hearlier hearlier' i hi j (hj'.subset List.mem_cons_self)
      | false => exact .inr ⟨rfl, hbroadcast⟩
    . -- everything else is counted now
      rw [hj']
      exact .inl (h.log_lt_moment earlier hearlier i hi)
  waiting_lt := h.waiting_lt.sublist hrest
  log_lt_waiting := by
    rw [List.forall_mem_append, List.forall_mem_singleton]
    refine ⟨(h.sublist hrest).log_lt_waiting, ?_⟩
    intro hbroadcast i hi j hj
    have hi' := htaken i hi
    rw [if_pos hbroadcast] at hi'
    exact List.rel_of_pairwise_cons (h.waiting_lt.sublist hi') hj
  log_lt_moment := by
    rw [List.forall_mem_append, List.forall_mem_singleton]
    refine ⟨h.succ.log_lt_moment, ?_⟩
    intro i hi
    have hi' := htaken i hi
    split at hi'
    . exact h.succ.waiting_lt_moment i (hi'.subset List.mem_cons_self)
    . rw [hi']
      exact Nat.lt_succ_self _
  waiting_lt_moment j hj := h.succ.waiting_lt_moment j (hrest.subset hj)

end Ordered

/-! ### Totals -/

theorem EventStore.size_le_size_serve (store : EventStore) (call : StoreCall) :
    store.size ≤ (store.serve call).size := by
  have happend (event : SecurityEvent) : store.size ≤ (store.append event).size := by
    unfold append size
    split
    . simp only [List.length_append, List.length_drop, List.length_singleton]
      omega
    . simp
  unfold serve
  cases call with
  | append event => exact happend event
  | appendIfAbsent event =>
    dsimp only
    cases hanswer : (store.appendIfAbsent event).1 with
    | true =>
      rw [appendIfAbsent_of_true hanswer]
      exact happend event
    | false => exact Nat.le_of_eq (congrArg size (appendIfAbsent_of_false hanswer)).symm

/--
A command with its mark. If the mark is a moment, the command is an update with a snapshot of that moment.
-/
def Marked (sizes : List Nat) : Option Nat → HubCommand → Prop
  | some moment, command =>
    ∃ snapshot now, command = .broadcast ⟨.statsUpdate snapshot, now⟩
      ∧ sizes[moment]? = some snapshot.totalRequests
  | none, command => ∀ envelope, command = .broadcast envelope → envelope.message.total? = none

/--
Whatever total is sent with something is the number of events at the moment at which they were counted.
-/
def Dispatch.Sound (sizes : List Nat) (dispatch : Dispatch) : Prop :=
  ∀ limit id envelope total, dispatch.event.Sends limit id envelope →
    envelope.message.total? = some total →
      envelope.message.isUpdate = dispatch.event.isBroadcast
        ∧ ∃ i, dispatch.taken = some i ∧ sizes[i]? = some total

section

variable {sizes : List Nat}

theorem getElem?_concat {n i total : Nat} (h : sizes[i]? = some total) :
    (sizes ++ [n])[i]? = some total := by
  rw [List.getElem?_append_left (List.getElem?_eq_some_iff.mp h).1, h]

theorem Marked.concat {mark : Option Nat} {command : HubCommand} (h : Marked sizes mark command)
    (n : Nat)
    : Marked (sizes ++ [n]) mark command := by
  cases mark with
  | none => exact h
  | some moment =>
    obtain ⟨snapshot, now, hcommand, hsize⟩ := h
    exact ⟨snapshot, now, hcommand, getElem?_concat hsize⟩

theorem Marked.unawaited {mark : Option Nat} {command : HubCommand} (h : Marked sizes mark command)
    : Marked sizes mark (Station.unawaited command) := by
  cases mark with
  | none =>
    cases command with
    | register identity awaited => simp [Marked, Station.unawaited]
    | count awaited => simp [Marked, Station.unawaited]
    | unregister id => exact h
    | broadcast envelope => exact h
    | request id request => exact h
    | reject id reason => exact h
  | some moment =>
    obtain ⟨snapshot, now, rfl, hsize⟩ := h
    exact ⟨snapshot, now, rfl, hsize⟩

theorem Dispatch.Sound.concat {dispatch : Dispatch} (h : dispatch.Sound sizes) (n : Nat) :
    dispatch.Sound (sizes ++ [n]) := by
  intro limit id envelope total hsends htotal
  obtain ⟨hupdate, i, htaken, hsize⟩ := h limit id envelope total hsends htotal
  exact ⟨hupdate, i, htaken, getElem?_concat hsize⟩

end

namespace Ticking

/--
The moments of the updates that wait, in the mailbox or for being offered to it.
-/
def waiting (ticking : Ticking) : List Nat :=
  ticking.marks.filterMap id ++ ticking.drawn.toList.map (·.moment)

variable {settings : LiveSettings} {ticking : Ticking}

/--
The hub is what its history made of it, the store never shrank, and whatever is sent or waits has the total of
its moment.
-/
structure Sound (settings : LiveSettings) (ticking : Ticking) : Prop where
  hub_eq : ticking.station.hub = (Hub.ofSettings settings).run (ticking.log.map (·.event))
  sizes : (ticking.sizes ++ [ticking.station.store.size]).Pairwise (· ≤ ·)
  drawn : ∀ draw ∈ ticking.drawn, ticking.sizes[draw.moment]? = some draw.snapshot.totalRequests
  marks : List.Forall₂ (Marked ticking.sizes) ticking.marks ticking.station.mailbox.items
  log : ∀ dispatch ∈ ticking.log, dispatch.Sound ticking.sizes
  ordered : Ordered ticking.log ticking.waiting ticking.moment

theorem start_sound (settings : LiveSettings) (capacity : Nat) (stamps : StampSupply) :
    (start settings capacity stamps).Sound settings where
  hub_eq := rfl
  sizes := List.pairwise_singleton _ _
  drawn := by simp [start]
  marks := .nil
  log := by simp [start]
  ordered :=
    { precedes := .nil
      waiting_lt := .nil
      log_lt_waiting := by simp [start]
      log_lt_moment := by simp [start]
      waiting_lt_moment := by simp [start, waiting] }

/-! ### Steps -/

theorem moment_pass (ticking : Ticking) : ticking.pass.moment = ticking.moment + 1 :=
  List.length_append

theorem Sound.sizes_concat (h : ticking.Sound settings) {n : Nat}
    (hn : ticking.station.store.size ≤ n)
    : (ticking.sizes ++ [n]).Pairwise (· ≤ ·) := by
  have hsizes := List.pairwise_append.mp h.sizes
  rw [List.pairwise_append]
  refine ⟨hsizes.1, List.pairwise_singleton _ _, ?_⟩
  intro earlier hearlier later hlater
  rw [List.mem_singleton.mp hlater]
  exact Nat.le_trans (hsizes.2.2 earlier hearlier _ (List.mem_singleton.mpr rfl)) hn

theorem Sound.serve (h : ticking.Sound settings) (call : StoreCall) :
    { ticking with station := ticking.station.serve call : Ticking }.Sound settings :=
  { h with sizes := h.sizes_concat (EventStore.size_le_size_serve _ call) }

theorem Sound.pass (h : ticking.Sound settings) : ticking.pass.Sound settings where
  hub_eq := h.hub_eq
  sizes := by
    have hsizes := h.sizes
    rw [List.pairwise_append]
    refine ⟨hsizes, List.pairwise_singleton _ _, ?_⟩
    intro earlier hearlier later hlater
    rw [List.mem_singleton.mp hlater]
    cases List.mem_append.mp hearlier with
    | inl hpast => exact (List.pairwise_append.mp hsizes).2.2 earlier hpast _ (List.mem_singleton.mpr rfl)
    | inr hnow => exact Nat.le_of_eq (List.mem_singleton.mp hnow)
  drawn draw hdraw := getElem?_concat (h.drawn draw hdraw)
  marks := h.marks.imp fun mark command hmark => hmark.concat _
  log dispatch hlog := (h.log dispatch hlog).concat _
  ordered := by
    rw [moment_pass]
    exact h.ordered.succ

theorem Sound.giveUp (h : ticking.Sound settings) (place : Nat) :
    { ticking with station := ticking.station.giveUp place : Ticking }.Sound settings :=
  { h with marks := forall₂_modify_right (fun _ _ => Marked.unawaited) h.marks place }

section

variable {command : HubCommand} {station : Station} {mark : Option Nat}

theorem Sound.accept (h : ticking.Sound settings) (hpost : ticking.station.post command = .ok station)
    (hmark : Marked ticking.sizes mark command)
    (hordered : Ordered ticking.log
      ((ticking.marks ++ [mark]).filterMap id ++ ticking.drawn.toList.map (·.moment)) ticking.moment)
    : { ticking with station, marks := ticking.marks ++ [mark] : Ticking }.Sound settings := by
  obtain ⟨-, rfl⟩ := Station.post_eq_ok hpost
  exact { h with
    marks := List.rel_append h.marks (.cons hmark .nil)
    ordered := hordered }

theorem Sound.accept_none (h : ticking.Sound settings)
    (hpost : ticking.station.post command = .ok station)
    (htotal : ∀ envelope, command = .broadcast envelope → envelope.message.total? = none)
    : { ticking with station, marks := ticking.marks ++ [none] : Ticking }.Sound settings := by
  refine h.accept hpost htotal ?_
  simpa [waiting] using h.ordered

end

theorem Sound.announce (h : ticking.Sound settings) (event : SecurityEvent)
    : (ticking.accept none (ticking.station.announce (.newLog event))).Sound settings := by
  unfold Ticking.accept
  split
  . next station hannounce =>
    apply h.accept_none (Station.announce_eq_ok hannounce)
    intro envelope henvelope
    injection henvelope with henvelope
    rw [← henvelope]
    rfl
  . exact h

theorem Sound.ask (h : ticking.Sound settings) {command : HubCommand}
    (hask : command.isBroadcast = false)
    : (ticking.accept none (ticking.station.post command)).Sound settings := by
  unfold Ticking.accept
  split
  . next station hpost =>
    apply h.accept_none hpost
    rintro envelope rfl
    contradiction
  . exact h

theorem Sound.offer (h : ticking.Sound settings) : ticking.offer.Sound settings := by
  unfold Ticking.offer
  split
  . next draw hdraw =>
    have hwaiting : ticking.waiting = ticking.marks.filterMap id ++ [draw.moment] := by
      simp [waiting, hdraw]
    have hordered := h.ordered
    rw [hwaiting] at hordered
    -- the ticker does not keep the update, even if the mailbox refuses it
    have hgiven : { ticking with drawn := none }.Sound settings := by
      refine { h with drawn := by simp, ordered := hordered.sublist ?_ }
      simp [waiting]
    unfold Ticking.accept
    split
    . next station hannounce =>
      apply hgiven.accept (Station.announce_eq_ok hannounce)
      . exact ⟨_, _, rfl, h.drawn draw hdraw⟩
      . show Ordered ticking.log _ ticking.moment
        simpa using hordered
    . exact hgiven
  . exact h

theorem Sound.draw (h : ticking.Sound settings) : (ticking.pass.draw ticking.moment).Sound settings := by
  have hnext := h.pass
  unfold Ticking.draw
  split
  . next hnone =>
    have hnone : ticking.drawn = none := hnone
    -- the new snapshot is later than all that wait, so the order of this moment is not enough
    refine { hnext with drawn := ?_, ordered := ?_ }
    . intro draw hdraw
      injection hdraw with hdraw
      rw [← hdraw]
      exact List.getElem?_concat_length
    . have hordered := h.ordered.draw
      rw [← moment_pass] at hordered
      show Ordered ticking.log _ ticking.pass.moment
      simpa [waiting, hnone, Ticking.pass] using hordered
  . exact hnext

theorem Sound.resume (h : ticking.Sound settings) :
    { ticking with station := ticking.station.resume : Ticking }.Sound settings := by
  unfold Station.resume
  split
  . exact h
  . exact { h with }

/-! ### What happens at the hub -/

section

variable {event : HubEvent} {station : Station}

theorem Sound.marks_happen (h : ticking.Sound settings)
    (hhappens : ticking.station.Happens event station)
    : List.Forall₂ (Marked ticking.sizes)
        (ticking.marks.drop (ticking.station.mailbox.items.length - station.mailbox.items.length))
        station.mailbox.items := by
  have hdrop := List.forall₂_drop
    (ticking.station.mailbox.items.length - station.mailbox.items.length) h.marks
  rwa [← List.suffix_iff_eq_drop.mp hhappens.suffix] at hdrop

/--
The first command of the mailbox has the first mark.
-/
theorem Sound.marks_handle (h : ticking.Sound settings) {store : EventStore} {now : Time.Timestamp}
    {command : HubCommand} (hhappens : ticking.station.Happens (.handle store now command) station)
    : ∃ mark, Marked ticking.sizes mark command
        ∧ ticking.marks = mark
          :: ticking.marks.drop
            (ticking.station.mailbox.items.length - station.mailbox.items.length) := by
  have hitems := congrArg BoundedQueue.items hhappens.mailbox.2
  have hmarks := h.marks
  rw [hitems, List.forall₂_cons_right_iff] at hmarks
  obtain ⟨mark, marks, hmark, -, heq⟩ := hmarks
  refine ⟨mark, hmark, ?_⟩
  simp [heq, hitems]

theorem Sound.dispatch_sound (h : ticking.Sound settings)
    (hhappens : ticking.station.Happens event station)
    : Dispatch.Sound (ticking.sizes ++ [ticking.station.store.size])
        ⟨event, ticking.pass.takenWith ticking.moment event⟩ := by
  intro limit id envelope total hsends htotal
  cases event with
  | handle store now command =>
    obtain ⟨mark, hmark, hmarks⟩ := h.marks_handle hhappens
    -- an answer counts the events that the store holds now
    have hnow : (ticking.sizes ++ [ticking.station.store.size])[ticking.moment]? = some store.size := by
      rw [hhappens.mailbox.1]
      exact List.getElem?_concat_length
    cases command with
    | register identity awaited =>
      rcases hsends with rfl | rfl
      . contradiction
      . injection htotal with htotal
        exact ⟨rfl, _, rfl, htotal ▸ hnow⟩
    | request asker request =>
      obtain ⟨-, rfl⟩ := hsends
      cases request with
      | getLogs own => contradiction
      | getStats =>
        injection htotal with htotal
        exact ⟨rfl, _, rfl, htotal ▸ hnow⟩
    | reject asker reason =>
      obtain ⟨-, rfl⟩ := hsends
      contradiction
    | broadcast message =>
      obtain rfl : envelope = message := hsends
      cases mark with
      | none => simp [hmark envelope rfl] at htotal
      | some moment =>
        obtain ⟨snapshot, now, heq, hsize⟩ := hmark
        injection heq with heq
        subst heq
        injection htotal with htotal
        refine ⟨rfl, moment, ?_, getElem?_concat (htotal ▸ hsize)⟩
        have hhead : ticking.pass.marks.head? = some (some moment) := by
          rw [Ticking.pass, hmarks]
          rfl
        simp [takenWith, hhead]
    | unregister id => contradiction
    | count awaited => contradiction
  | take id => contradiction
  | abandon id => contradiction
  | stop => contradiction

theorem waiting_happen_sublist (ticking : Ticking) (event : HubEvent) (station : Station)
    : (ticking.pass.happen ticking.moment event station).waiting.Sublist ticking.waiting := by
  apply List.Sublist.append_right
  exact (List.drop_sublist _ _).filterMap _

/--
What is sent to everybody is the first that waited, if it is an update. Everything else is counted now.
-/
theorem Sound.taken_happen (h : ticking.Sound settings)
    (hhappens : ticking.station.Happens event station)
    : let after := ticking.pass.happen ticking.moment event station
      ∀ i ∈ ticking.pass.takenWith ticking.moment event,
        if event.isBroadcast then (i :: after.waiting).Sublist ticking.waiting
        else i = ticking.moment := by
  intro after i hi
  cases event with
  | handle store now command =>
    cases command with
    | broadcast message =>
      obtain ⟨mark, -, hmarks⟩ := h.marks_handle hhappens
      have hmark : mark = some i := by
        rw [takenWith, Ticking.pass, hmarks] at hi
        simpa using hi
      have hwaiting : ticking.waiting = i :: after.waiting := by
        rw [waiting, hmarks, hmark]
        rfl
      rw [hwaiting]
      exact List.Sublist.refl _
    | _ =>
      rw [if_neg (by simp [HubEvent.isBroadcast, HubCommand.isBroadcast])]
      exact (Option.some.inj hi).symm
  | _ => contradiction

theorem Sound.happen (h : ticking.Sound settings) (hhappens : ticking.station.Happens event station)
    : (ticking.pass.happen ticking.moment event station).Sound settings where
  hub_eq := by
    simp only [Ticking.happen, List.map_append, List.map_singleton, Hub.run_concat]
    rw [hhappens.hub, h.hub_eq]
    rfl
  sizes := by
    have hsizes := h.pass.sizes
    simp only [Ticking.happen]
    rwa [hhappens.store]
  drawn := h.pass.drawn
  marks := h.pass.marks_happen hhappens
  log := by
    simp only [Ticking.happen]
    rw [List.forall_mem_append, List.forall_mem_singleton]
    exact ⟨h.pass.log, h.dispatch_sound hhappens⟩
  ordered := by
    have hordered := h.ordered.concat (ticking.waiting_happen_sublist event station)
      (h.taken_happen hhappens)
    rw [← moment_pass] at hordered
    exact hordered

end

theorem Sound.step (h : ticking.Sound settings) (step : TickingStep) :
    (ticking.step step).Sound settings := by
  have hnext := h.pass
  cases step with
  | store call => exact hnext.serve call
  | announce event => exact hnext.announce event
  | ask command hask => exact hnext.ask hask
  | giveUp place => exact hnext.giveUp place
  | draw => exact h.draw
  | offer => exact hnext.offer
  | handle =>
    unfold Ticking.step perform
    dsimp only
    split
    . next event station hhandling => exact h.happen (Station.happens_of_handling? hhandling)
    . exact hnext
  | take id => exact h.happen (Station.happens_act _ (by simp))
  | abandon id => exact h.happen (Station.happens_act _ (by simp))
  | resume => exact hnext.resume
  | stop => exact h.happen (Station.happens_stop _)
  | lose => exact h.happen (Station.happens_lose _)
  | wait stamps => exact { hnext with }

theorem Sound.run (h : ticking.Sound settings) (steps : List TickingStep) :
    (ticking.run steps).Sound settings := by
  unfold Ticking.run
  induction steps generalizing ticking with
  | nil => exact h
  | cons step steps ih => exact ih (h.step step)

/-! ### What is put on a queue -/

/--
If two totals are not in order, an update stayed behind an answer that was made after its snapshot.
-/
def InOrder (put later : Dispatch × Envelope) : Prop :=
  ∀ m n, put.2.message.total? = some m → later.2.message.total? = some n →
    m ≤ n
      ∨ put.2.message.isUpdate = false ∧ later.2.message.isUpdate = true
        ∧ ∃ i j, put.1.taken = some i ∧ later.1.taken = some j ∧ j < i

theorem pairwise_putFor {hub : Hub} (h : hub.Numbered) (id : Nat) (dispatch : Dispatch)
    : ((hub.putFor id dispatch.event).map (dispatch, ·)).Pairwise InOrder := by
  rcases h.putFor_cases id dispatch.event with hnone | ⟨envelope, hone, -⟩ | ⟨store, now, _, _, -, htwo⟩
  . rw [hnone]
    exact .nil
  . rw [hone]
    exact List.pairwise_singleton _ _
  . -- the welcome has no total
    rw [htwo]
    simp [InOrder, ServerMessage.total?]

theorem Sound.getElem_le (h : ticking.Sound settings) {i j m n : Nat} (hij : i ≤ j)
    (hi : ticking.sizes[i]? = some m) (hj : ticking.sizes[j]? = some n)
    : m ≤ n := by
  have hsizes := (List.pairwise_append.mp h.sizes).1
  obtain ⟨hi', rfl⟩ := List.getElem?_eq_some_iff.mp hi
  obtain ⟨hj', rfl⟩ := List.getElem?_eq_some_iff.mp hj
  cases Nat.lt_or_eq_of_le hij with
  | inl hlt => exact List.pairwise_iff_getElem.mp hsizes i j hi' hj' hlt
  | inr heq =>
    subst heq
    exact Nat.le_refl _

theorem Sound.inOrder (h : ticking.Sound settings) {limit : Int} {id : Nat}
    {dispatch later : Dispatch} {envelope message : Envelope} (hdispatch : dispatch ∈ ticking.log)
    (hlater : later ∈ ticking.log)
    (hprecedes : dispatch.Precedes later) (hsends : dispatch.event.Sends limit id envelope)
    (hsends' : later.event.Sends limit id message)
    : InOrder (dispatch, envelope) (later, message) := by
  intro m n hm hn
  obtain ⟨hupdate, i, htaken, hi⟩ := h.log dispatch hdispatch limit id envelope m hsends hm
  obtain ⟨hupdate', j, htaken', hj⟩ := h.log later hlater limit id message n hsends' hn
  by_cases hij : i ≤ j
  . exact .inl (h.getElem_le hij hi hj)
  . right
    rcases hprecedes i htaken j htaken' with hlt | ⟨hanswer, hbroadcast⟩
    . omega
    . exact ⟨hupdate.trans hanswer, hupdate'.trans hbroadcast, i, j, htaken, htaken', by omega⟩

theorem Sound.pairwise_putsFor (h : ticking.Sound settings) (id : Nat) :
    (ticking.putsFor settings id).Pairwise InOrder := by
  have hlog : ticking.log.Pairwise fun dispatch later =>
      dispatch.Precedes later ∧ dispatch ∈ ticking.log ∧ later ∈ ticking.log :=
    h.ordered.precedes.imp_of_mem fun hdispatch hlater hprecedes => ⟨hprecedes, hdispatch, hlater⟩
  apply (Hub.numbered_ofSettings settings).pairwise_putsFor hlog
  . intro hub dispatch hnumbered
    exact pairwise_putFor hnumbered id dispatch
  . intro dispatch later envelope message hpair hsends hsends'
    exact h.inOrder hpair.2.1 hpair.2.2 hpair.1 hsends hsends'

/--
The store never shrinks, and every total that was put on the queue of a subscriber is the number of events that
the store held at a moment. Of two totals on one queue the later one is not smaller, unless it is an update whose
snapshot was taken before the other was made as an answer.
-/
theorem start_run_totals (settings : LiveSettings) (capacity : Nat) (stamps : StampSupply)
    (steps : List TickingStep) (id : Nat)
    : let ticking := (start settings capacity stamps).run steps
      let events := ticking.log.map (·.event)
      let puts := ticking.putsFor settings id
      ticking.station.hub = (Hub.ofSettings settings).run events
        ∧
      (Hub.ofSettings settings).takenBy id events ++ ticking.station.hub.queueOf id = puts.map (·.2)
        ∧
      (ticking.sizes ++ [ticking.station.store.size]).Pairwise (· ≤ ·)
        ∧
      (∀ put ∈ puts, ∀ total, put.2.message.total? = some total →
        ∃ i, put.1.taken = some i ∧ ticking.sizes[i]? = some total)
        ∧
      puts.Pairwise fun put later =>
        ∀ m n, put.2.message.total? = some m → later.2.message.total? = some n →
          m ≤ n
            ∨ put.2.message.isUpdate = false ∧ later.2.message.isUpdate = true
              ∧ ∃ i j, put.1.taken = some i ∧ later.1.taken = some j ∧ j < i := by
  intro ticking events puts
  have h : ticking.Sound settings := (start_sound settings capacity stamps).run steps
  have hnumbered := Hub.numbered_ofSettings settings
  refine ⟨h.hub_eq, ?_, h.sizes, ?_, h.pairwise_putsFor id⟩
  . have hqueue := hnumbered.takenBy_append_queueOf (·.event) id ticking.log
    rw [← h.hub_eq] at hqueue
    exact hqueue
  . intro put hput total htotal
    obtain ⟨hmem, hsends⟩ := hnumbered.sends_of_mem_putsFor hput
    exact (h.log put.1 hmem _ _ _ _ hsends htotal).2

/--
An update may come with a smaller total than an answer before it: the subscriber asks, the ticker takes its
snapshot and offers it, an event is stored, and only then the hub gets to the question and to the update.
-/
theorem totals_may_decrease :
    ¬∀ settings capacity stamps steps id,
      ((((start settings capacity stamps).run steps).putsFor settings id).filterMap
        (·.2.message.total?)).Pairwise (· ≤ ·) := by
  intro hnever
  have hrun := hnever default 1 { stamp := fun _ => default }
    [.resume, .ask (.register .anonymous true) rfl, .handle, .ask (.request 1 .getStats) rfl, .draw,
      .offer, .store (.append default), .handle, .handle] 1
  revert hrun
  decide +kernel

end Ticking

end WafWatch
