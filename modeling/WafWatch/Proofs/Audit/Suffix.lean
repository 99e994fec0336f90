import WafWatch.Proofs.Audit.Form
import WafWatch.Proofs.Text.Search

/-!
This module contains what the end of a log line cannot change. Whatever is written behind a line that is that of an
event, the longer line is that of an event too, and the fields that the line itself supplies stay as they are.
-/

namespace WafWatch.AuditLine

open WafWatch.Text

variable {line suffix : List Char}

theorem isCandidate_append (h : isCandidate line = true) (suffix : List Char) :
    isCandidate (line ++ suffix) = true := by
  unfold isCandidate at h ⊢
  rw [List.all_eq_true] at h ⊢
  intro marker hmarker
  have hpart := hasPart_iff.mp (h marker hmarker)
  exact hasPart_iff.mpr (hpart.trans (List.prefix_append line suffix).isInfix)

/-! ### Times -/

/--
The time at the start of a line.
-/
def leadingTime? (line : List Char) : Option Time.Timestamp :=
  if hasForm leadingForm line then Time.readSlashed? (line.take leadingForm.length) else none

theorem time?_eq (line : List Char) :
    time? line = (leadingTime? line).or ((firstMatch? bracketedTime? line).bind Time.readOffsetClock?) := by
  unfold time? leadingTime?
  dsimp only
  split
  . next t ht =>
    rw [ht]
    rfl
  . next hnone =>
    rw [hnone]
    rfl

theorem leadingTime?_append (hcandidate : isCandidate line = true) (suffix : List Char) :
    leadingTime? (line ++ suffix) = leadingTime? line := by
  unfold leadingTime?
  by_cases hlong : leadingForm.length ≤ line.length
  . rw [hasForm_append hlong, List.take_append_of_le_length hlong]
  -- A shorter line would be the beginning of a time, but then it could not carry a mark.
  . have hmarked : 'M' ∈ line := by
      have hmarker := hasPart_iff.mp (List.all_eq_true.mp hcandidate "ModSecurity" (by decide))
      exact hmarker.subset (by decide)
    have hshort : hasForm leadingForm line = false := by
      rw [Bool.eq_false_iff]
      intro hform
      exact hlong (length_le_of_hasForm hform)
    have hstill : hasForm leadingForm (line ++ suffix) = false := by
      rw [Bool.eq_false_iff]
      intro hform
      have hmem : 'M' ∈ (line ++ suffix).take leadingForm.length := by
        rw [List.take_append, List.take_of_length_le (by omega)]
        exact List.mem_append_left _ hmarked
      have hkind := mem_of_hasForm hform (by decide) (by decide) hmem
      revert hkind
      decide
    rw [hshort, hstill]
    rfl

theorem time?_append {t : Time.Timestamp} (hcandidate : isCandidate line = true) (h : time? line = some t)
    (suffix : List Char)
    : time? (line ++ suffix) = some t := by
  rw [time?_eq, Option.or_eq_some_iff] at h ⊢
  rw [leadingTime?_append hcandidate]
  refine h.imp_right (And.imp_right ?_)
  intro hbracketed
  obtain ⟨content, hfirst, hread⟩ := Option.bind_eq_some_iff.mp hbracketed
  have hlater := recognizes_bracketedTime?.firstMatch?_append unnested_bracketedTime
    (fun _ _ hhere => bracketedTime?_append hhere suffix) hfirst
  exact Option.bind_eq_some_iff.mpr ⟨content, hlater, hread⟩

/-! ### Fields -/

theorem firstMatch?_bracketField?_append {name : String} (hname : '"' ∉ name.toList)
    (h : Occurs (IsBracketField name) line) (suffix : List Char)
    : firstMatch? (bracketField? name) (line ++ suffix) = firstMatch? (bracketField? name) line := by
  apply (recognizes_bracketField? name).firstMatch?_append_of_occurs (unnested_bracketField hname) ?_ h
  intro s content hread
  rw [bracketField?_eq_some_iff] at hread ⊢
  exact ⟨hread.1, hread.2.trans (List.prefix_append s suffix)⟩

theorem firstMatch?_requestField?_append (h : Occurs IsRequestField line) (suffix : List Char) :
    firstMatch? requestField? (line ++ suffix) = firstMatch? requestField? line := by
  apply recognizes_requestField?.firstMatch?_append_of_occurs unnested_requestField ?_ h
  intro s content hread
  rw [requestField?_eq_some_iff] at hread ⊢
  obtain ⟨hquote, blanks, hblanks, hprefix⟩ := hread
  exact ⟨hquote, blanks, hblanks, hprefix.trans (List.prefix_append s suffix)⟩

theorem firstMatch?_userAgentField?_append (h : Occurs IsUserAgentField line) (suffix : List Char) :
    firstMatch? userAgentField? (line ++ suffix) = firstMatch? userAgentField? line := by
  apply recognizes_userAgentField?.firstMatch?_append_of_occurs unnested_userAgentField ?_ h
  intro s content hread
  rw [userAgentField?_eq_some_iff] at hread ⊢
  exact ⟨hread.1, hread.2.1, hread.2.2.trans (List.prefix_append s suffix)⟩

theorem firstMatch?_clientField?_append (h : Occurs IsClientField line) (hsuffix : EndsDecimal suffix) :
    firstMatch? clientField? (line ++ suffix) = firstMatch? clientField? line := by
  apply Recognizes.firstMatch?_append_of_occurs (fun s => isSome_clientField?_iff) unnested_clientField ?_ h
  intro s address hread
  exact clientField?_append hread hsuffix

/-! ### Events -/

/--
What the event of a longer line has from the event of the line itself: the fields that the line supplies, and those
that are the same for every line.
-/
structure Retains (line : List Char) (event later : SecurityEvent) : Prop where
  timestamp : ∀ t, time? line = some t → event.timestamp = t ∧ later.timestamp = t
  clientIp : Occurs IsClientField line → later.clientIp = event.clientIp
  method : Occurs IsRequestField line → later.method = event.method
  url : Occurs IsRequestField line → later.url = event.url
  userAgent : Occurs IsUserAgentField line → later.userAgent = event.userAgent
  ruleId : Occurs (IsBracketField "id") line → later.ruleId = event.ruleId
  message : Occurs (IsBracketField "msg") line → later.message = event.message
  severity : Occurs (IsBracketField "severity") line → later.severity = event.severity
  attackType : later.attackType = event.attackType
  blocked : later.blocked = event.blocked

theorem retains_toEvent (hcandidate : isCandidate line = true) (hsuffix : EndsDecimal suffix)
    (stamp laterStamp : Stamp)
    : Retains line (toEvent stamp line) (toEvent laterStamp (line ++ suffix)) where
  timestamp t ht := by
    simp only [toEvent]
    rw [ht, time?_append hcandidate ht]
    exact ⟨rfl, rfl⟩
  clientIp h := by
    simp only [toEvent]
    rw [firstMatch?_clientField?_append h hsuffix]
  method h := by
    simp only [toEvent]
    rw [firstMatch?_requestField?_append h]
  url h := by
    simp only [toEvent]
    rw [firstMatch?_requestField?_append h]
  userAgent h := by
    simp only [toEvent]
    rw [firstMatch?_userAgentField?_append h]
  ruleId h := by
    simp only [toEvent]
    rw [firstMatch?_bracketField?_append (by decide) h]
  message h := by
    simp only [toEvent]
    rw [firstMatch?_bracketField?_append (by decide) h]
  severity h := by
    simp only [toEvent]
    rw [firstMatch?_bracketField?_append (by decide) h]
  attackType := rfl
  blocked := by
    have hlater := tellsBlocked_of_isCandidate (isCandidate_append hcandidate suffix)
    exact hlater.trans (tellsBlocked_of_isCandidate hcandidate).symm

/--
Text behind a line of an event does not change what the line supplies, and does not keep the line from being read,
unless it begins with a digit, which could go on the client's address, or makes the line too long.
-/
theorem parse_append_retains {limit : Nat} {stamp : Stamp} {line suffix : String} {event : SecurityEvent}
    (h : parse limit stamp line = some event) (hsuffix : EndsDecimal suffix.toList)
    (hsize : (line ++ suffix).utf8ByteSize ≤ limit) (laterStamp : Stamp)
    : ∃ later, parse limit laterStamp (line ++ suffix) = some later ∧ later.rawLog = line ++ suffix
        ∧ Retains line.toList event later := by
  obtain ⟨-, hcandidate, rfl⟩ := parse_eq_some_iff.mp h
  refine ⟨_, parse_eq_some_iff.mpr ⟨hsize, ?_, rfl⟩, String.ofList_toList, ?_⟩
  . rw [String.toList_append]
    exact isCandidate_append hcandidate _
  . rw [String.toList_append]
    exact retains_toEvent hcandidate hsuffix stamp laterStamp

/--
What a client appends to a line does not pass itself off as another address, rule or time.
-/
theorem parse_append_retains_forged :
    let line := "2024/01/15 10:30:45 ModSecurity: Access denied [id \"942100\"], client: 192.0.2.7"
    let forged := ", client: 198.51.100.9, [id \"0\"] [msg \"harmless\"]"
    let time := Time.Timestamp.ofFields ⟨⟨2024, 1, 15⟩, 10, 30, 45, 0⟩
    EndsDecimal forged.toList
      ∧ (line ++ forged).utf8ByteSize ≤ 150
      ∧ ∃ event later, parse 150 default line = some event ∧ parse 150 default (line ++ forged) = some later
        ∧ later.clientIp = "192.0.2.7" ∧ later.ruleId = "942100" ∧ later.timestamp = time
        ∧ event.message = "" ∧ later.message = "harmless" := by
  intro line forged time
  have hforged : EndsDecimal forged.toList := by
    have hhead : forged.toList.head? = some ',' := by decide
    rw [EndsDecimal, hhead]
    rintro c ⟨⟩
    decide
  have hsize : (line ++ forged).utf8ByteSize ≤ 150 := by decide +kernel
  have hline : line.utf8ByteSize ≤ 150 := by decide +kernel
  have hcandidate : isCandidate line.toList = true := by decide
  have hevent : parse 150 default line = some (toEvent default line.toList) :=
    parse_eq_some_iff.mpr ⟨hline, hcandidate, rfl⟩
  obtain ⟨later, hlater, hraw, hretains⟩ := parse_append_retains hevent hforged hsize default
  have hclient : Occurs IsClientField line.toList := by
    rw [← Recognizes.isSome_firstMatch?_iff fun s => isSome_clientField?_iff]
    decide +kernel
  have hruleId : Occurs (IsBracketField "id") line.toList := by
    rw [← (recognizes_bracketField? "id").isSome_firstMatch?_iff]
    decide +kernel
  have htime : time? line.toList = some time := by decide +kernel
  refine ⟨hforged, hsize, _, later, hevent, hlater, ?_, ?_, (hretains.timestamp time htime).2, ?_, ?_⟩
  . rw [hretains.clientIp hclient]
    decide +kernel
  . rw [hretains.ruleId hruleId]
    decide +kernel
  . decide +kernel
  . rw [← (parse_eq_some_iff.mp hlater).2.2]
    decide +kernel

end WafWatch.AuditLine
