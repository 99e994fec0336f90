import WafWatch.Proofs.Audit.Suffix
import WafWatch.Proofs.Time.Slashed

/-!
This module contains the log lines that are written for denied requests. Such a line is read as the event whose
fields are the ones that were written, so no field is picked up from within another one.
-/

namespace WafWatch.AuditLine

open WafWatch.Text

/-! ### Entries -/

/--
The content of a field that can be taken neither for the end of the field nor for the start of another one.
-/
structure IsPlain (content : List Char) : Prop where
  quote : '"' ∉ content
  bracket : '[' ∉ content
  client : ¬"client:".toList <:+: content
  request : ¬"request:".toList <:+: content
  userAgent : ¬"User-Agent:".toList <:+: content

instance IsPlain.decidable (content : List Char) : Decidable (IsPlain content) :=
  decidable_of_iff ('"' ∉ content ∧ '[' ∉ content ∧ hasPart "client:".toList content = false
      ∧ hasPart "request:".toList content = false ∧ hasPart "User-Agent:".toList content = false) <| by
    simp only [Bool.eq_false_iff, ne_eq, hasPart_iff]
    constructor
    . rintro ⟨hquote, hbracket, hclient, hrequest, huserAgent⟩
      exact ⟨hquote, hbracket, hclient, hrequest, huserAgent⟩
    . rintro ⟨hquote, hbracket, hclient, hrequest, huserAgent⟩
      exact ⟨hquote, hbracket, hclient, hrequest, huserAgent⟩

structure IsWord (word : List Char) : Prop where
  ne_nil : word ≠ []
  blank : ∀ c ∈ word, isBlank c = false

instance IsWord.decidable (word : List Char) : Decidable (IsWord word) :=
  decidable_of_iff (word ≠ [] ∧ word.all (!isBlank ·) = true) <| by
    simp only [List.all_eq_true, Bool.not_eq_true']
    constructor
    . rintro ⟨hne, hblank⟩
      exact ⟨hne, hblank⟩
    . rintro ⟨hne, hblank⟩
      exact ⟨hne, hblank⟩

/--
What is written of a request that was denied.
-/
structure Entry where
  time : Time.Timestamp.Fields
  address : List Char
  ruleId : List Char
  message : List Char
  severity : List Char
  method : List Char
  path : List Char
  userAgent : List Char
  isWritable_time : time.IsWritable
  isAddress_address : IsAddress address
  isPlain_ruleId : IsPlain ruleId
  isPlain_message : IsPlain message
  isPlain_severity : IsPlain severity
  isPlain_method : IsPlain method
  isWord_method : IsWord method
  isWord_path : IsWord path
  quote_path : '"' ∉ path
  userAgent_ne_nil : userAgent ≠ []
  quote_userAgent : '"' ∉ userAgent

namespace Entry

def heading (entry : Entry) : List Char :=
  entry.time.slashed ++ " [error] 1#1: *1 [client ".toList ++ entry.address ++
    "] ModSecurity: Access denied with code 403 (phase 2). ".toList

def requestLine (entry : Entry) : List Char :=
  entry.method ++ ' ' :: entry.path ++ " HTTP/1.1".toList

def separator : List Char :=
  ", ".toList

def tags (entry : Entry) : List Char :=
  bracketField "id" entry.ruleId ++ [' '] ++ bracketField "msg" entry.message ++ [' '] ++
    bracketField "severity" entry.severity

/--
The log line of an entry, in the form `TIME [error] 1#1: *1 [client ADDRESS] ModSecurity: Access denied with code 403
(phase 2). [id "…"] [msg "…"] [severity "…"], client: ADDRESS, server: _, request: "METHOD PATH HTTP/1.1", host: "h",
"User-Agent: …"`.
-/
def render (entry : Entry) : List Char :=
  entry.heading ++ entry.tags ++ separator ++ clientField [' '] entry.address ++ separator ++
    "server: _".toList ++ separator ++ requestField [' '] entry.requestLine ++ separator ++
    "host: \"h\"".toList ++ separator ++ userAgentField entry.userAgent

end Entry

/-! ### Times -/

theorem isDecimal_of_isAsciiDigit {c : Char} (h : isAsciiDigit c = true) : isDecimal c = true := by
  simp only [isAsciiDigit, Bool.and_eq_true, decide_eq_true_eq, Char.le_def, UInt32.le_iff_toNat_le] at h
  have hzero : '0'.val.toNat = 48 := rfl
  have hnine : '9'.val.toNat = 57 := rfl
  have hascii : c.toNat < 128 := by
    unfold Char.toNat
    omega
  unfold isDecimal Char.isDigit
  rw [if_pos hascii]
  simp only [Bool.and_eq_true, decide_eq_true_eq, ge_iff_le, UInt32.le_iff_toNat_le]
  omega

variable {fields : Time.Timestamp.Fields}

theorem hasForm_digit {c : Char} (hc : isDecimal c = true) (form rest : List Char) :
    hasForm ('d' :: form) (c :: rest) = hasForm form rest := by
  rw [hasForm, hc]
  rfl

theorem hasForm_mark {c : Char} (hc : c ∉ ['d', 'a', 's']) (form rest : List Char) :
    hasForm (c :: form) (c :: rest) = hasForm form rest := by
  simp only [List.mem_cons, List.not_mem_nil, or_false, not_or] at hc
  rw [hasForm, beq_self_eq_true, Bool.true_and]
  . exact hc.1
  . exact hc.2.1
  . exact hc.2.2

theorem hasForm_digits {digits : List Char} (hdigits : ∀ c ∈ digits, isAsciiDigit c = true)
    (form rest : List Char)
    : hasForm (List.replicate digits.length 'd' ++ form) (digits ++ rest) = hasForm form rest := by
  induction digits with
  | nil => rfl
  | cons c digits ih =>
    have hc := isDecimal_of_isAsciiDigit (hdigits c List.mem_cons_self)
    rw [List.length_cons, List.replicate_succ, List.cons_append, List.cons_append, hasForm_digit hc]
    exact ih fun d hd => hdigits d (List.mem_cons_of_mem c hd)

theorem hasForm_showPadded {width n : Nat} (hwidth : 0 < width) (h : n < 10 ^ width) (form rest : List Char) :
    hasForm (List.replicate width 'd' ++ form) (showPadded width n ++ rest) = hasForm form rest := by
  have hform := hasForm_digits (isDigits_showPadded width n).digit form rest
  rwa [length_showPadded hwidth h] at hform

theorem hasForm_slashed (h : fields.Fits) (rest : List Char) :
    hasForm leadingForm (fields.slashed ++ rest) = true := by
  obtain ⟨-, hyear, hmonth, hday, hhour, hminute, hsecond, -⟩ := h
  have hform : leadingForm = List.replicate 4 'd' ++ '/' :: (List.replicate 2 'd' ++ '/' :: (List.replicate 2 'd'
      ++ ' ' :: (List.replicate 2 'd' ++ ':' :: (List.replicate 2 'd' ++ ':' :: (List.replicate 2 'd' ++ []))))) := by
    decide
  rw [hform]
  unfold Time.Timestamp.Fields.slashed
  simp only [List.append_assoc, List.cons_append]
  rw [hasForm_showPadded (by decide) hyear, hasForm_mark (by decide), hasForm_showPadded (by decide) hmonth,
    hasForm_mark (by decide), hasForm_showPadded (by decide) hday, hasForm_mark (by decide),
    hasForm_showPadded (by decide) hhour, hasForm_mark (by decide), hasForm_showPadded (by decide) hminute,
    hasForm_mark (by decide), hasForm_showPadded (by decide) hsecond]
  rfl

theorem leadingTime?_slashed (h : fields.IsWritable) (rest : List Char) :
    leadingTime? (fields.slashed ++ rest) = some (Time.Timestamp.ofFields fields) := by
  have hlength : leadingForm.length = fields.slashed.length := h.fits.length_slashed.symm
  unfold leadingTime?
  rw [if_pos (hasForm_slashed h.fits rest), hlength, List.take_left]
  exact Time.readSlashed?_eq_some_iff.mpr ⟨fields, h.fits, h.exists_eq, rfl, rfl⟩

theorem not_mem_slashed {c : Char} (hdigit : isAsciiDigit c = false) (hmark : c ∉ ['/', ' ', ':']) :
    c ∉ fields.slashed := by
  have hpadded (width n : Nat) : c ∉ showPadded width n := by
    intro hmem
    rw [(isDigits_showPadded width n).digit c hmem] at hdigit
    contradiction
  simp only [List.mem_cons, List.not_mem_nil, or_false, not_or] at hmark
  simp [Time.Timestamp.Fields.slashed, hpadded, hmark]

/-! ### Requests -/

theorem isBlank_space : isBlank ' ' = true := by decide

theorem blank_mem_space : ∀ c ∈ [' '], isBlank c = true :=
  List.forall_mem_singleton.mpr isBlank_space

theorem firstWord_append {word rest : List Char} (hword : IsWord word) (hrest : ∀ c ∈ rest.head?, isBlank c = true) :
    firstWord (word ++ rest) = some (word, rest) := by
  obtain ⟨hne, hblank⟩ := hword
  obtain ⟨c, tail, rfl⟩ := List.exists_cons_of_ne_nil hne
  have hhead : isBlank c = false := hblank c List.mem_cons_self
  have htail : ∀ d ∈ tail, (!isBlank d) = true := by
    intro d hd
    rw [hblank d (List.mem_cons_of_mem c hd)]
    rfl
  have htake : rest.takeWhile (!isBlank ·) = [] := by
    cases rest with
    | nil => rfl
    | cons d more => simp [hrest d rfl]
  have hdrop : rest.dropWhile (!isBlank ·) = rest := by
    cases rest with
    | nil => rfl
    | cons d more => simp [hrest d rfl]
  have hstart : (c :: tail ++ rest).dropWhile isBlank = c :: (tail ++ rest) := by
    simp [hhead]
  unfold firstWord
  rw [hstart]
  dsimp only
  rw [List.takeWhile_append_of_pos htail, List.dropWhile_append_of_pos htail, htake, hdrop, List.append_nil]

theorem firstWord_cons {c : Char} (hc : isBlank c = true) (rest : List Char) :
    firstWord (c :: rest) = firstWord rest := by
  unfold firstWord
  rw [List.dropWhile_cons_of_pos hc]

/-! ### Where no field begins -/

section

variable {opening content : List Char}

theorem clears_heading (entry : Entry) {c : Char} (hopening : opening.head? = some c)
    (hdecimal : isDecimal c = false) (hmark : c ∉ ['/', ' ', ':', '.'])
    (herror : Clears opening " [error] 1#1: *1 [client ".toList)
    (hdenied : Clears opening "] ModSecurity: Access denied with code 403 (phase 2). ".toList)
    : Clears opening entry.heading := by
  simp only [List.mem_cons, List.not_mem_nil, or_false, not_or] at hmark
  have hdigit : isAsciiDigit c = false := by
    rw [Bool.eq_false_iff]
    intro hdigit
    rw [isDecimal_of_isAsciiDigit hdigit] at hdecimal
    contradiction
  have htime : c ∉ entry.time.slashed := not_mem_slashed hdigit (by simp [hmark])
  have haddress : c ∉ entry.address := not_mem_address entry.isAddress_address hdecimal hmark.2.2.2
  unfold Entry.heading
  exact (((clears_of_not_mem hopening htime).append herror).append (clears_of_not_mem hopening haddress)).append
    hdenied

/--
In a field in brackets no other such field begins.
-/
theorem clears_bracketField_of_bracket {name : String} (hopening : opening.head? = some '[')
    (hname : Clears opening ('[' :: name.toList ++ [' ', '"'])) (hcontent : '[' ∉ content)
    : Clears opening (bracketField name content) := by
  unfold bracketField
  exact (hname.append (clears_of_not_mem hopening hcontent)).append (clears_of_not_mem hopening (by decide))

/--
In a field in brackets nothing begins that has neither a quote nor a bracket and does not stand in the content.
-/
theorem clears_bracketField_of_quoteless {name : String} (hopening : opening ≠ [])
    (hname : Clears opening ('[' :: name.toList ++ [' ', '"'])) (hclosing : Clears opening [']'])
    (hquote : '"' ∉ opening) (hcontent : ¬opening <:+: content)
    : Clears opening (bracketField name content) := by
  have hsplit : bracketField name content
      = ('[' :: name.toList ++ [' ', '"']) ++ (content ++ ['"']) ++ [']'] := by
    simp [bracketField]
  rw [hsplit]
  exact (hname.append (clears_concat hquote hopening hcontent)).append hclosing

/--
Between quotes nothing begins that starts with a quote, if the content does not go on like it.
-/
theorem clears_quoted {c : Char} {word : List Char} (hword : '"' ∉ word) (hstart : ∀ d ∈ word.head?, c ≠ d)
    (hne : word ≠ []) (hc : c ≠ '"') (hquote : '"' ∉ content) (hcontent : ¬word <+: content)
    : Clears ('"' :: word) ('"' :: content ++ ['"', c]) := by
  have hclosing : Clears ('"' :: word) ['"', c] := by
    obtain ⟨d, more, rfl⟩ := List.exists_cons_of_ne_nil hne
    have hother := hstart d rfl
    refine .cons ?_ ?_ (clears_of_not_mem rfl (by simp [Ne.symm hc]))
    . simp [Ne.symm hother]
    . simp [hother]
  refine .cons ?_ ?_ ((clears_of_not_mem rfl hquote).append hclosing)
  . intro hbegin
    have hinside := (List.cons_prefix_cons.mp hbegin).2
    exact hcontent (prefix_of_prefix_append_cons hword hinside)
  . intro hbegin
    have hinside := (List.cons_prefix_cons.mp hbegin).2
    exact hword (hinside.subset (by simp))

end

/-! ### Fields of entries -/

theorem opens_bracketField? (name : String) {s : List Char} (h : (bracketField? name s).isSome = true) :
    '[' :: name.toList ++ [' ', '"'] <+: s := by
  obtain ⟨_, ⟨content, -, rfl⟩, hprefix⟩ := (recognizes_bracketField? name s).mp h
  refine List.IsPrefix.trans ?_ hprefix
  exact ⟨content ++ ['"', ']'], by simp [bracketField]⟩

theorem opens_clientField? {s : List Char} (h : (clientField? s).isSome = true) : "client:".toList <+: s := by
  obtain ⟨_, ⟨blanks, address, -, -, rfl⟩, hprefix⟩ := isSome_clientField?_iff.mp h
  unfold clientField at hprefix
  rw [List.append_assoc] at hprefix
  exact (List.prefix_append _ _).trans hprefix

theorem opens_requestField? {s : List Char} (h : (requestField? s).isSome = true) : "request:".toList <+: s := by
  obtain ⟨_, ⟨blanks, content, -, -, rfl⟩, hprefix⟩ := (recognizes_requestField? s).mp h
  unfold requestField at hprefix
  simp only [List.append_assoc] at hprefix
  exact (List.prefix_append _ _).trans hprefix

theorem opens_userAgentField? {s : List Char} (h : (userAgentField? s).isSome = true) :
    "\"User-Agent: ".toList <+: s := by
  obtain ⟨_, ⟨content, -, -, rfl⟩, hprefix⟩ := (recognizes_userAgentField? s).mp h
  unfold userAgentField at hprefix
  rw [List.append_assoc] at hprefix
  exact (List.prefix_append _ _).trans hprefix

namespace Entry

variable (entry : Entry)

theorem clears_tags {opening : List Char} (hspace : Clears opening [' '])
    (hfield : ∀ name ∈ ["id", "msg", "severity"], ∀ content, IsPlain content →
      Clears opening (bracketField name content))
    : Clears opening entry.tags := by
  have hruleId := hfield "id" (by simp) _ entry.isPlain_ruleId
  have hmessage := hfield "msg" (by simp) _ entry.isPlain_message
  have hseverity := hfield "severity" (by simp) _ entry.isPlain_severity
  unfold tags
  exact (((hruleId.append hspace).append hmessage).append hspace).append hseverity

theorem clears_tags_of_quoteless {opening : List Char} (hopening : opening ≠ []) (hquote : '"' ∉ opening)
    (hspace : Clears opening [' ']) (hclosing : Clears opening [']'])
    (hname : ∀ name ∈ ["id", "msg", "severity"], Clears opening ('[' :: name.toList ++ [' ', '"']))
    (hcontent : ∀ content, IsPlain content → ¬opening <:+: content)
    : Clears opening entry.tags := by
  apply entry.clears_tags hspace
  intro name hmem content hplain
  exact clears_bracketField_of_quoteless hopening (hname name hmem) hclosing hquote (hcontent content hplain)

theorem clears_clientField {opening : List Char} {c : Char} (hopening : opening.head? = some c)
    (hdecimal : isDecimal c = false) (hpoint : c ≠ '.') (hlabel : Clears opening ("client:".toList ++ [' ']))
    : Clears opening (clientField [' '] entry.address) :=
  hlabel.append (clears_of_not_mem hopening (not_mem_address entry.isAddress_address hdecimal hpoint))

theorem clears_heading_bracketField (name : String) (hname : name ∈ ["id", "msg", "severity"]) :
    Clears ('[' :: name.toList ++ [' ', '"']) entry.heading := by
  apply clears_heading entry (c := '[') rfl (by decide) (by decide)
  . revert name
    decide
  . revert name
    decide +kernel

theorem firstMatch?_ruleId : firstMatch? (bracketField? "id") entry.render = some entry.ruleId := by
  have hopens (s : List Char) := opens_bracketField? "id" (s := s)
  have hheading := entry.clears_heading_bracketField "id" (by simp)
  unfold render tags
  simp only [List.append_assoc]
  rw [hheading.firstMatch?_append hopens]
  apply firstMatch?_of_eq_some
  exact bracketField?_eq_some_iff.mpr ⟨entry.isPlain_ruleId.quote, List.prefix_append _ _⟩

theorem firstMatch?_message : firstMatch? (bracketField? "msg") entry.render = some entry.message := by
  have hopens (s : List Char) := opens_bracketField? "msg" (s := s)
  have hheading := entry.clears_heading_bracketField "msg" (by simp)
  have hruleId : Clears ('[' :: "msg".toList ++ [' ', '"']) (bracketField "id" entry.ruleId) :=
    clears_bracketField_of_bracket rfl (by decide) entry.isPlain_ruleId.bracket
  unfold render tags
  simp only [List.append_assoc]
  rw [hheading.firstMatch?_append hopens, hruleId.firstMatch?_append hopens,
    Clears.firstMatch?_append (s := [' ']) hopens (by decide)]
  apply firstMatch?_of_eq_some
  exact bracketField?_eq_some_iff.mpr ⟨entry.isPlain_message.quote, List.prefix_append _ _⟩

theorem firstMatch?_severity : firstMatch? (bracketField? "severity") entry.render = some entry.severity := by
  have hopens (s : List Char) := opens_bracketField? "severity" (s := s)
  have hheading := entry.clears_heading_bracketField "severity" (by simp)
  have hruleId : Clears ('[' :: "severity".toList ++ [' ', '"']) (bracketField "id" entry.ruleId) :=
    clears_bracketField_of_bracket rfl (by decide) entry.isPlain_ruleId.bracket
  have hmessage : Clears ('[' :: "severity".toList ++ [' ', '"']) (bracketField "msg" entry.message) :=
    clears_bracketField_of_bracket rfl (by decide) entry.isPlain_message.bracket
  unfold render tags
  simp only [List.append_assoc]
  rw [hheading.firstMatch?_append hopens, hruleId.firstMatch?_append hopens,
    Clears.firstMatch?_append (s := [' ']) hopens (by decide), hmessage.firstMatch?_append hopens,
    Clears.firstMatch?_append (s := [' ']) hopens (by decide)]
  apply firstMatch?_of_eq_some
  exact bracketField?_eq_some_iff.mpr ⟨entry.isPlain_severity.quote, List.prefix_append _ _⟩

theorem firstMatch?_client : firstMatch? clientField? entry.render = some entry.address := by
  have hopens (s : List Char) := opens_clientField? (s := s)
  have hheading : Clears "client:".toList entry.heading :=
    clears_heading entry (c := 'c') (by decide) (by decide) (by decide) (by decide) (by decide +kernel)
  have htags : Clears "client:".toList entry.tags :=
    entry.clears_tags_of_quoteless (by decide) (by decide) (by decide) (by decide) (by decide)
      fun _ hcontent => hcontent.client
  unfold render
  simp only [List.append_assoc]
  rw [hheading.firstMatch?_append hopens, htags.firstMatch?_append hopens,
    Clears.firstMatch?_append (s := separator) hopens (by decide)]
  apply firstMatch?_of_eq_some
  apply clientField?_clientField blank_mem_space entry.isAddress_address
  rintro c ⟨⟩
  decide

theorem quote_requestLine : '"' ∉ entry.requestLine := by
  have hversion : '"' ∉ " HTTP/1.1".toList := by decide
  simp only [requestLine, List.mem_append, List.mem_cons, not_or]
  exact ⟨⟨entry.isPlain_method.quote, by decide, entry.quote_path⟩, hversion⟩

/--
What begins nowhere in front of the request is looked for in the request and behind it.
-/
theorem firstMatch?_render {α : Type} {read : List Char → Option α} {opening : List Char}
    (hopens : ∀ s, (read s).isSome = true → opening <+: s) (hheading : Clears opening entry.heading)
    (htags : Clears opening entry.tags) (hclient : Clears opening (clientField [' '] entry.address))
    (hseparator : Clears opening separator) (hserver : Clears opening "server: _".toList)
    : firstMatch? read entry.render
        = firstMatch? read (requestField [' '] entry.requestLine ++ separator
            ++ ("host: \"h\"".toList ++ separator ++ userAgentField entry.userAgent)) := by
  unfold render
  simp only [List.append_assoc]
  rw [hheading.firstMatch?_append hopens, htags.firstMatch?_append hopens, hseparator.firstMatch?_append hopens,
    hclient.firstMatch?_append hopens, hseparator.firstMatch?_append hopens, hserver.firstMatch?_append hopens,
    hseparator.firstMatch?_append hopens]

theorem firstMatch?_request : firstMatch? requestField? entry.render = some entry.requestLine := by
  have hheading : Clears "request:".toList entry.heading :=
    clears_heading entry (c := 'r') (by decide) (by decide) (by decide) (by decide) (by decide +kernel)
  have htags : Clears "request:".toList entry.tags :=
    entry.clears_tags_of_quoteless (by decide) (by decide) (by decide) (by decide) (by decide)
      fun _ hcontent => hcontent.request
  have hclient : Clears "request:".toList (clientField [' '] entry.address) :=
    entry.clears_clientField (c := 'r') (by decide) (by decide) (by decide) (by decide)
  rw [entry.firstMatch?_render (fun _ => opens_requestField?) hheading htags hclient (by decide) (by decide),
    List.append_assoc]
  apply firstMatch?_of_eq_some
  exact requestField?_eq_some_iff.mpr ⟨entry.quote_requestLine, [' '], blank_mem_space, List.prefix_append _ _⟩

theorem not_prefix_of_isPlain {content : List Char} (h : IsPlain content) (rest : List Char) :
    ¬"User-Agent: ".toList <+: content ++ ' ' :: rest := by
  intro hstart
  have hlabel : "User-Agent:".toList <+: "User-Agent: ".toList := by decide
  exact h.userAgent (prefix_of_prefix_append_cons (by decide) (hlabel.trans hstart)).isInfix

theorem userAgent_clears_quoted {c : Char} {content : List Char} (hc : c ∈ [']', ',']) (hquote : '"' ∉ content)
    (hcontent : ¬"User-Agent: ".toList <+: content)
    : Clears "\"User-Agent: ".toList ('"' :: content ++ ['"', c]) := by
  have hopening : "\"User-Agent: ".toList = '"' :: "User-Agent: ".toList := by decide
  have hother : c ≠ '"' := by
    rintro rfl
    revert hc
    decide
  rw [hopening]
  apply clears_quoted (by decide) ?_ (by decide) hother hquote hcontent
  rintro d ⟨⟩ rfl
  revert hc
  decide

theorem userAgent_clears_bracketField {name : String} {content : List Char}
    (hname : name ∈ ["id", "msg", "severity"]) (hcontent : IsPlain content)
    : Clears "\"User-Agent: ".toList (bracketField name content) := by
  have hlabel : Clears "\"User-Agent: ".toList ('[' :: name.toList ++ [' ']) := by
    revert name
    decide
  have hstart : ¬"User-Agent: ".toList <+: content := by
    intro hstart
    exact not_prefix_of_isPlain hcontent [] (hstart.trans (List.prefix_append _ _))
  have hsplit : bracketField name content = ('[' :: name.toList ++ [' ']) ++ ('"' :: content ++ ['"', ']']) := by
    simp [bracketField]
  rw [hsplit]
  exact hlabel.append (userAgent_clears_quoted (by simp) hcontent.quote hstart)

theorem userAgent_clears_requestField
    : Clears "\"User-Agent: ".toList (requestField [' '] entry.requestLine ++ separator) := by
  have hlabel : Clears "\"User-Agent: ".toList ("request:".toList ++ [' ']) := by decide
  have hspace : Clears "\"User-Agent: ".toList [' '] := by decide
  have hstart : ¬"User-Agent: ".toList <+: entry.requestLine := by
    unfold requestLine
    simp only [List.append_assoc, List.cons_append]
    exact not_prefix_of_isPlain entry.isPlain_method _
  have hseparator : separator = [',', ' '] := by decide
  -- The comma behind the request tells its end from the start of the user agent.
  have hsplit : requestField [' '] entry.requestLine ++ separator
      = ("request:".toList ++ [' ']) ++ ('"' :: entry.requestLine ++ ['"', ',']) ++ [' '] := by
    rw [hseparator]
    unfold requestField
    generalize "request:".toList = label
    simp
  rw [hsplit]
  exact (hlabel.append (userAgent_clears_quoted (by simp) entry.quote_requestLine hstart)).append hspace

theorem firstMatch?_userAgent : firstMatch? userAgentField? entry.render = some entry.userAgent := by
  have hopens (s : List Char) := opens_userAgentField? (s := s)
  have hheading : Clears "\"User-Agent: ".toList entry.heading :=
    clears_heading entry (c := '"') (by decide) (by decide) (by decide) (by decide) (by decide +kernel)
  have htags : Clears "\"User-Agent: ".toList entry.tags := by
    apply entry.clears_tags (by decide)
    intro name hname content hcontent
    exact userAgent_clears_bracketField hname hcontent
  have hclient : Clears "\"User-Agent: ".toList (clientField [' '] entry.address) :=
    entry.clears_clientField (c := '"') (by decide) (by decide) (by decide) (by decide)
  have hhost : Clears "\"User-Agent: ".toList ("host: \"h\"".toList ++ separator) := by decide
  rw [entry.firstMatch?_render hopens hheading htags hclient (by decide) (by decide),
    entry.userAgent_clears_requestField.firstMatch?_append hopens, hhost.firstMatch?_append hopens]
  apply firstMatch?_of_eq_some
  exact userAgentField?_eq_some_iff.mpr ⟨entry.userAgent_ne_nil, entry.quote_userAgent, List.prefix_refl _⟩

theorem requestParts_requestLine : requestParts entry.requestLine = (entry.method, entry.path) := by
  have hmethod : firstWord entry.requestLine = some (entry.method, ' ' :: (entry.path ++ " HTTP/1.1".toList)) := by
    unfold requestLine
    rw [List.append_assoc, List.cons_append]
    apply firstWord_append entry.isWord_method
    simp [isBlank_space]
  have hpath : firstWord (' ' :: (entry.path ++ " HTTP/1.1".toList)) = some (entry.path, " HTTP/1.1".toList) := by
    rw [firstWord_cons isBlank_space]
    apply firstWord_append entry.isWord_path
    rintro c ⟨⟩
    exact isBlank_space
  unfold requestParts
  rw [hmethod]
  dsimp only
  rw [hpath]

theorem heading_prefix_render : entry.heading <+: entry.render := by
  unfold render
  simp only [List.append_assoc]
  exact List.prefix_append _ _

theorem isCandidate_render : isCandidate entry.render = true := by
  have hdenied : isCandidate "] ModSecurity: Access denied with code 403 (phase 2). ".toList = true := by decide
  unfold isCandidate at hdenied ⊢
  rw [List.all_eq_true] at hdenied ⊢
  intro marker hmarker
  have hheading : "] ModSecurity: Access denied with code 403 (phase 2). ".toList <:+ entry.heading := by
    unfold heading
    exact List.suffix_append _ _
  have hrender := entry.heading_prefix_render
  have hpart := hasPart_iff.mp (hdenied marker hmarker)
  exact hasPart_iff.mpr (hpart.trans (hheading.isInfix.trans hrender.isInfix))

theorem time?_render : time? entry.render = some (Time.Timestamp.ofFields entry.time) := by
  have hstart : entry.time.slashed <+: entry.render := by
    refine List.IsPrefix.trans ?_ entry.heading_prefix_render
    unfold heading
    simp only [List.append_assoc]
    exact List.prefix_append _ _
  obtain ⟨rest, hrest⟩ := hstart
  rw [time?_eq, ← hrest, leadingTime?_slashed entry.isWritable_time]
  rfl

/--
The event of an entry.
-/
def event (stamp : Stamp) : SecurityEvent where
  id := stamp.id
  timestamp := Time.Timestamp.ofFields entry.time
  clientIp := String.ofList entry.address
  method := String.ofList entry.method
  url := String.ofList entry.path
  userAgent := String.ofList entry.userAgent
  attackType := ""
  ruleId := String.ofList entry.ruleId
  message := String.ofList entry.message
  severity := Severity.read entry.severity
  blocked := true
  rawLog := String.ofList entry.render

theorem toEvent_render (stamp : Stamp) : toEvent stamp entry.render = entry.event stamp := by
  unfold toEvent event field
  rw [entry.time?_render, entry.firstMatch?_client, entry.firstMatch?_request, entry.firstMatch?_userAgent,
    entry.firstMatch?_ruleId, entry.firstMatch?_message, entry.firstMatch?_severity,
    tellsBlocked_of_isCandidate entry.isCandidate_render]
  simp only [Option.getD_some, entry.requestParts_requestLine]

/--
A line that is written for a denied request is read as the event with what was written, whatever the contents of the
fields are.
-/
theorem parse_line_eq_event {limit : Nat} (hsize : (String.ofList entry.render).utf8ByteSize ≤ limit)
    (stamp : Stamp)
    : parse limit stamp (String.ofList entry.render) = some (entry.event stamp)
        ∧ (entry.event stamp).timestamp.toFields = entry.time := by
  constructor
  . rw [parse_eq_some_iff, String.toList_ofList]
    exact ⟨hsize, entry.isCandidate_render, entry.toEvent_render stamp⟩
  . exact Time.Timestamp.toFields_ofFields entry.isWritable_time.exists_eq

/--
A request in a leap second, with fields of other requests in its path and its user agent.
-/
def misleading : Entry where
  time := ⟨⟨2016, 12, 31⟩, 23, 59, 60, 0⟩
  address := "192.0.2.7".toList
  ruleId := "942100".toList
  message := "SQL Injection".toList
  severity := "2".toList
  method := "GET".toList
  path := "/?client:198.51.100.9&request:[id".toList
  userAgent := "curl, client: 198.51.100.9, [31/Dec/2016:00:00:00 +0000]".toList
  isWritable_time := ⟨by decide, by decide, by decide, rfl⟩
  isAddress_address :=
    have isPart (digits : List Char) (hne : digits ≠ []) (hlength : digits.length ≤ 3)
        (hdecimal : digits.all isDecimal = true) : IsAddressPart digits :=
      ⟨hne, hlength, List.all_eq_true.mp hdecimal⟩
    IsAddress.dotted (a := "192".toList) (b := "0".toList) (c := "2".toList) (d := "7".toList)
      (isPart _ (by decide) (by decide) (by decide)) (isPart _ (by decide) (by decide) (by decide))
      (isPart _ (by decide) (by decide) (by decide)) (isPart _ (by decide) (by decide) (by decide))
  isPlain_ruleId := by decide
  isPlain_message := by decide
  isPlain_severity := by decide
  isPlain_method := by decide
  isWord_method := by decide
  isWord_path := by decide
  quote_path := by decide
  userAgent_ne_nil := by decide
  quote_userAgent := by decide

theorem parse_line_eq_event_misleading :
    let line := [
      "2016/12/31 23:59:60 [error] 1#1: *1 ", "[client 192.0.2.7] ModSecurity: ",
      "Access denied with code 403 (phase 2). ", "[id \"942100\"] [msg \"SQL Injection\"] ",
      "[severity \"2\"], client: 192.0.2.7, ", "server: _, request: \"GET ", "/?client:198.51.100.9&request:[id",
      " HTTP/1.1\", host: \"h\", \"User-Agent: ", "curl, client: 198.51.100.9, ", "[31/Dec/2016:00:00:00 +0000]\""]
    misleading.render = line.flatMap String.toList
      ∧ (String.ofList misleading.render).utf8ByteSize ≤ 400
      ∧ parse 400 default (String.ofList misleading.render) = some (misleading.event default)
      ∧ (misleading.event default).timestamp.toFields = ⟨⟨2016, 12, 31⟩, 23, 59, 60, 0⟩
      ∧ (misleading.event default).clientIp = "192.0.2.7"
      ∧ (misleading.event default).severity = .critical := by
  have hoctets : (String.ofList misleading.render).utf8ByteSize
      = (misleading.render.flatMap String.utf8EncodeChar).length := by
    simp [String.utf8ByteSize, List.utf8Encode]
  have hsize : (String.ofList misleading.render).utf8ByteSize ≤ 400 := by
    rw [hoctets]
    decide +kernel
  obtain ⟨hparse, htime⟩ := misleading.parse_line_eq_event hsize default
  exact ⟨by decide +kernel, hsize, hparse, htime, rfl, by decide +kernel⟩

end Entry

end WafWatch.AuditLine
