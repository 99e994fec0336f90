import WafWatch.Live.Message
import WafWatch.Proofs.Event.Json

/-!
This module contains what the form on the wire keeps of events, snapshots and messages: all of it.
-/

namespace WafWatch

open WafWatch.Json

namespace ServerMessage

/--
What a message tells is something that there is.
-/
def IsValid : ServerMessage → Prop
  | .stats snapshot | .statsUpdate snapshot => snapshot.IsValid
  | .newLog event => event.timestamp.IsValid
  | .logs events => ∀ event ∈ events, event.timestamp.IsValid
  | .welcome _ | .error _ => True

/--
What a message tells is what a value tells.
-/
def IsGivenBy (data : Tree) : ServerMessage → Prop
  | .stats snapshot | .statsUpdate snapshot => Snapshot.decode data.toNode = .ok snapshot
  | .newLog event => SecurityEvent.decode data.toNode = .ok event
  | .logs events => data.toNode.listOf SecurityEvent.decode = .ok events
  | .welcome text | .error text => data = .record [("message".toList, .text text.toList)]

theorem isGivenBy_data {message : ServerMessage} (h : message.IsValid) :
    message.IsGivenBy message.data.toTree := by
  cases message with
  | welcome text => rfl
  | error text => rfl
  | stats snapshot => exact Snapshot.decode_toValue h
  | statsUpdate snapshot => exact Snapshot.decode_toValue h
  | newLog event => exact SecurityEvent.decode_toValue h
  | logs events => exact listOf_list fun event hevent => SecurityEvent.decode_toValue (h event hevent)

end ServerMessage

namespace Envelope

/--
The members of an envelope around some data.
-/
def membersAround (envelope : Envelope) (data : Tree) : List (List Char × Tree) :=
  [("type".toList, .text envelope.message.kind.toList), ("data".toList, data),
    ("timestamp".toList, .text envelope.timestamp.render)]

theorem toTree_toValue (envelope : Envelope) :
    envelope.toValue.toTree = .record (envelope.membersAround envelope.message.data.toTree) := by
  rfl

/--
An event, a snapshot and a test event are decoded from the text that each is written as. The text of an envelope is
a record that names the kind of the message, and what the message tells can be decoded from its data.
-/
theorem encode_loses_nothing
    : (∀ event : SecurityEvent, event.timestamp.IsValid →
        decodeText SecurityEvent.decode event.toValue.render = .ok event)
        ∧
      (∀ snapshot : Snapshot, snapshot.IsValid →
        decodeText Snapshot.decode snapshot.toValue.render = .ok snapshot)
        ∧
      (∀ input : TestEvent, decodeText TestEvent.decode input.toValue.render = .ok input)
        ∧
      (∀ envelope : Envelope, envelope.message.IsValid →
        ∃ data : Tree,
          Document.read envelope.encode = ⟨(Tree.record (envelope.membersAround data)).toNode, true⟩
            ∧ envelope.message.IsGivenBy data) := by
  refine ⟨?_, ?_, ?_, ?_⟩
  . intro event hevent
    exact decodeText_render.mpr (SecurityEvent.decode_toValue hevent)
  . intro snapshot hsnapshot
    exact decodeText_render.mpr (Snapshot.decode_toValue hsnapshot)
  . intro input
    exact decodeText_render.mpr input.decode_toValue
  . intro envelope hmessage
    refine ⟨envelope.message.data.toTree, ?_, ServerMessage.isGivenBy_data hmessage⟩
    unfold encode
    rw [Document.read_render, toTree_toValue]

/--
The time is a leap second of the year before year 0, and the texts have quotes and control characters.
-/
theorem encode_loses_nothing_leap_second
    : let leap : Time.Timestamp := ⟨-62167219201, 1500000000⟩
      let event : SecurityEvent := { SecurityEvent.ofRaw ⟨"\x00\x1f\"\\\n", leap⟩ "é\x7f" with severity := .alert }
      let snapshot : Snapshot := { Snapshot.empty leap with
        totalRequests := maxWord
        attacksByType := [("SQL Injection", 2), ("XSS", maxWord)]
        topIps := [⟨"::1", 3, 2⟩]
        recentLogs := [event] }
      leap.render = "-0001-12-31T23:59:60.500Z".toList
        ∧ decodeText SecurityEvent.decode event.toValue.render = .ok event
        ∧ decodeText Snapshot.decode snapshot.toValue.render = .ok snapshot
        ∧ ∃ data : Tree,
            Document.read (Envelope.encode ⟨.stats snapshot, leap⟩)
                = ⟨(Tree.record (Envelope.membersAround ⟨.stats snapshot, leap⟩ data)).toNode, true⟩
              ∧ Snapshot.decode data.toNode = .ok snapshot := by
  intro leap event snapshot
  obtain ⟨hevent, hsnapshot, -, hmessage⟩ := encode_loses_nothing
  have hleap : leap.IsValid := ⟨by decide +kernel, .inr (by decide)⟩
  have hvalid : snapshot.IsValid := by
    refine ⟨by decide, by decide, by decide, by decide, ?_, ?_, hleap⟩
    . rintro count hcount
      rw [List.mem_singleton.mp hcount]
      exact ⟨by decide, by decide⟩
    . rintro event' hevent'
      rw [List.mem_singleton.mp hevent']
      exact hleap
  exact ⟨by decide +kernel, hevent event hleap, hsnapshot snapshot hvalid, hmessage ⟨.stats snapshot, leap⟩ hvalid⟩

end Envelope

end WafWatch
