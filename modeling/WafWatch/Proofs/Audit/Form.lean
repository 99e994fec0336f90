import WafWatch.Audit.Line
import WafWatch.Proofs.Text.Scan

/-!
This module contains the form of a log line and of its fields: which lines are read, how each field is written, that
exactly these texts are read as the field, and that no field begins within another one of its kind and ends there too.
-/

namespace WafWatch.AuditLine

open WafWatch.Text

variable {name : String} {s content rest : List Char}

/-! ### Lines -/

theorem parse_eq_some_iff {limit : Nat} {stamp : Stamp} {line : String} {event : SecurityEvent}
    : parse limit stamp line = some event
        ↔
      line.utf8ByteSize ≤ limit ∧ isCandidate line.toList = true ∧ toEvent stamp line.toList = event := by
  unfold parse
  dsimp only
  rw [Option.ite_none_left_eq_some, Option.ite_none_right_eq_some, Option.some.injEq, Nat.not_lt]

/--
The mark that a line needs to be read is one of those that tell of a blocked request.
-/
theorem tellsBlocked_of_isCandidate {line : List Char} (h : isCandidate line = true) :
    tellsBlocked line = true := by
  have hdenied : hasPart deniedMarker.toList line = true :=
    List.all_eq_true.mp h deniedMarker (List.mem_cons_of_mem _ (List.mem_singleton_self _))
  rw [tellsBlocked, hdenied, Bool.true_or]

/-! ### Quotes -/

theorem span_append_cons {c : Char} {word : List Char} (hc : c ∉ word) (rest : List Char)
    : (word ++ c :: rest).takeWhile (· != c) = word ∧ (word ++ c :: rest).dropWhile (· != c) = c :: rest := by
  have hword : ∀ d ∈ word, (d != c) = true := by
    intro d hd
    rw [bne_iff_ne]
    rintro rfl
    exact hc hd
  rw [List.takeWhile_append_of_pos hword, List.dropWhile_append_of_pos hword]
  simp

theorem quoted?_eq_some_iff :
    quoted? s = some (content, rest) ↔ '"' ∉ content ∧ s = content ++ '"' :: rest := by
  unfold quoted?
  constructor
  . intro h
    split at h
    . next c more hrest =>
      simp only [Option.some.injEq, Prod.mk.injEq] at h
      obtain ⟨rfl, rfl⟩ := h
      have hquote : c = '"' := by
        have hhead := List.head?_dropWhile_not (· != '"') s
        rw [hrest] at hhead
        simpa using hhead
      subst hquote
      refine ⟨?_, ?_⟩
      . intro hmem
        exact absurd (List.all_eq_true.mp List.all_takeWhile '"' hmem) (by decide)
      . rw [← hrest, List.takeWhile_append_dropWhile]
    . contradiction
  . rintro ⟨hquote, rfl⟩
    rw [(span_append_cons hquote rest).1, (span_append_cons hquote rest).2]

/-! ### Written fields -/

def bracketField (name : String) (content : List Char) : List Char :=
  '[' :: name.toList ++ [' ', '"'] ++ content ++ ['"', ']']

def requestField (blanks content : List Char) : List Char :=
  "request:".toList ++ blanks ++ ['"'] ++ content ++ ['"']

def userAgentField (content : List Char) : List Char :=
  "\"User-Agent: ".toList ++ content ++ ['"']

def clientField (blanks address : List Char) : List Char :=
  "client:".toList ++ blanks ++ address

/--
One to three digits of any script.
-/
structure IsAddressPart (digits : List Char) : Prop where
  ne_nil : digits ≠ []
  length_le : digits.length ≤ 3
  decimal : ∀ c ∈ digits, isDecimal c = true

def dotted (a b c d : List Char) : List Char :=
  a ++ '.' :: b ++ '.' :: c ++ '.' :: d

inductive IsAddress : List Char → Prop where
  | dotted {a b c d : List Char} (ha : IsAddressPart a) (hb : IsAddressPart b) (hc : IsAddressPart c)
    (hd : IsAddressPart d) :
    IsAddress (dotted a b c d)

def IsBracketField (name : String) (part : List Char) : Prop :=
  ∃ content, '"' ∉ content ∧ part = bracketField name content

def IsRequestField (part : List Char) : Prop :=
  ∃ blanks content, (∀ c ∈ blanks, isBlank c = true) ∧ '"' ∉ content ∧ part = requestField blanks content

def IsUserAgentField (part : List Char) : Prop :=
  ∃ content, content ≠ [] ∧ '"' ∉ content ∧ part = userAgentField content

def IsClientField (part : List Char) : Prop :=
  ∃ blanks address, (∀ c ∈ blanks, isBlank c = true) ∧ IsAddress address ∧ part = clientField blanks address

/-! ### Reading of written fields -/

theorem bracketField?_eq_some_iff :
    bracketField? name s = some content ↔ '"' ∉ content ∧ bracketField name content <+: s := by
  unfold bracketField?
  simp only [Option.bind_eq_bind, Option.bind_eq_some_iff, afterPrefix?_eq_some_iff, Prod.exists,
    quoted?_eq_some_iff, Option.pure_def, Option.some.injEq]
  constructor
  . rintro ⟨_, rfl, content, _, ⟨hquote, rfl⟩, rest, rfl, rfl⟩
    exact ⟨hquote, rest, by simp [bracketField]⟩
  . rintro ⟨hquote, rest, rfl⟩
    refine ⟨content ++ '"' :: ']' :: rest, ?_, content, ']' :: rest, ⟨hquote, rfl⟩, rest, rfl, rfl⟩
    simp [bracketField]

theorem userAgentField?_eq_some_iff :
    userAgentField? s = some content ↔ content ≠ [] ∧ '"' ∉ content ∧ userAgentField content <+: s := by
  unfold userAgentField? userAgentField
  generalize "\"User-Agent: ".toList = opening
  simp only [Option.bind_eq_bind, Option.bind_eq_some_iff, afterPrefix?_eq_some_iff, Prod.exists,
    quoted?_eq_some_iff]
  constructor
  . rintro ⟨_, rfl, content, rest, ⟨hquote, rfl⟩, hfilled⟩
    rw [Option.ite_none_left_eq_some, Option.some.injEq, List.isEmpty_iff] at hfilled
    obtain ⟨hne, rfl⟩ := hfilled
    exact ⟨hne, hquote, rest, by simp⟩
  . rintro ⟨hne, hquote, rest, rfl⟩
    refine ⟨content ++ '"' :: rest, by simp, content, rest, ⟨hquote, rfl⟩, ?_⟩
    rw [if_neg (mt List.isEmpty_iff.mp hne)]

theorem requestField?_eq_some_iff
    : requestField? s = some content
        ↔
      '"' ∉ content
        ∧ ∃ blanks, (∀ c ∈ blanks, isBlank c = true) ∧ requestField blanks content <+: s := by
  unfold requestField? requestField
  generalize "request:".toList = opening
  simp only [Option.bind_eq_bind, Option.bind_eq_some_iff, afterPrefix?_eq_some_iff, Prod.exists,
    quoted?_eq_some_iff, Option.pure_def, Option.some.injEq]
  constructor
  . rintro ⟨more, rfl, _, hmore, content, rest, ⟨hquote, rfl⟩, rfl⟩
    refine ⟨hquote, more.takeWhile isBlank, List.all_eq_true.mp List.all_takeWhile, rest, ?_⟩
    calc
      opening ++ more.takeWhile isBlank ++ ['"'] ++ content ++ ['"'] ++ rest
          = opening ++ (more.takeWhile isBlank ++ more.dropWhile isBlank) := by simp [hmore]
      _ = opening ++ more := by rw [List.takeWhile_append_dropWhile]
  . rintro ⟨hquote, blanks, hblanks, rest, rfl⟩
    refine ⟨blanks ++ '"' :: (content ++ '"' :: rest), by simp, content ++ '"' :: rest, ?_, content, rest,
      ⟨hquote, rfl⟩, rfl⟩
    rw [List.dropWhile_append_of_pos hblanks]
    exact List.dropWhile_cons_of_neg (by decide)

/--
The text does not go on with a digit of any script.
-/
def EndsDecimal (s : List Char) : Prop :=
  ∀ c ∈ s.head?, isDecimal c = false

theorem EndsDecimal.append {s suffix : List Char} (hs : EndsDecimal s) (hsuffix : EndsDecimal suffix) :
    EndsDecimal (s ++ suffix) := by
  cases s with
  | nil => exact hsuffix
  | cons c rest => exact hs

theorem EndsDecimal.takeWhile_eq (h : EndsDecimal s) : s.takeWhile isDecimal = [] := by
  cases s with
  | nil => rfl
  | cons c rest => exact List.takeWhile_cons_of_neg (by simp [h c rfl])

theorem endsDecimal_dropWhile (s : List Char) : EndsDecimal (s.dropWhile isDecimal) := by
  intro c hc
  have hhead := List.head?_dropWhile_not isDecimal s
  rw [hc] at hhead
  simpa using hhead

theorem addressPart?_eq_some_iff {digits : List Char}
    : addressPart? s = some (digits, rest)
        ↔
      s = digits ++ rest ∧ IsAddressPart digits ∧ (digits.length = 3 ∨ EndsDecimal rest) := by
  unfold addressPart?
  dsimp only
  rw [← List.take_takeWhile, Option.ite_none_left_eq_some, Option.some.injEq, Prod.mk.injEq, List.isEmpty_iff]
  constructor
  . rintro ⟨hne, rfl, rfl⟩
    have hprefix : (s.takeWhile isDecimal).take 3 <+: s :=
      (List.take_prefix _ _).trans (List.takeWhile_prefix _)
    refine ⟨(List.prefix_iff_eq_append.mp hprefix).symm, ⟨hne, List.length_take_le _ _, ?_⟩, ?_⟩
    . intro c hc
      exact List.all_eq_true.mp List.all_takeWhile c (List.mem_of_mem_take hc)
    . by_cases hlong : 3 ≤ (s.takeWhile isDecimal).length
      . exact .inl (List.length_take_of_le hlong)
      . have hrest : s.drop (s.takeWhile isDecimal).length = s.dropWhile isDecimal := by
          refine (congrArg (List.drop _) (List.takeWhile_append_dropWhile (p := isDecimal)).symm).trans ?_
          exact List.drop_left
        rw [List.take_of_length_le (by omega), hrest]
        exact .inr (endsDecimal_dropWhile s)
  . rintro ⟨rfl, hdigits, hends⟩
    have htake : ((digits ++ rest).takeWhile isDecimal).take 3 = digits := by
      rw [List.takeWhile_append_of_pos hdigits.decimal]
      rcases hends with hfull | hends
      . rw [← hfull, List.take_left]
      . rw [hends.takeWhile_eq, List.append_nil, List.take_of_length_le hdigits.length_le]
    rw [htake]
    exact ⟨hdigits.ne_nil, rfl, List.drop_left⟩

theorem isSome_addressPart?_append {digits : List Char} (hdigits : IsAddressPart digits) (rest : List Char) :
    (addressPart? (digits ++ rest)).isSome = true := by
  obtain ⟨c, more, rfl⟩ := List.exists_cons_of_ne_nil hdigits.ne_nil
  unfold addressPart?
  simp [hdigits.decimal c List.mem_cons_self]

theorem isDecimal_of_isBlank {c : Char} (h : isBlank c = true) : isDecimal c = false := by
  have hblank : ∀ code ∈ [9, 10, 11, 12, 13, 0x20, 0x85, 0xa0, 0x1680, 0x2000, 0x2001, 0x2002, 0x2003, 0x2004,
      0x2005, 0x2006, 0x2007, 0x2008, 0x2009, 0x200a, 0x2028, 0x2029, 0x202f, 0x205f, 0x3000],
      isDecimal (Char.ofNat code) = false := by
    decide +kernel
  rw [← Char.ofNat_toNat c]
  apply hblank
  unfold isBlank at h
  dsimp only at h
  split at h
  . simp only [Bool.or_eq_true, Bool.and_eq_true, decide_eq_true_eq, beq_iff_eq] at h
    simp only [List.mem_cons, List.not_mem_nil]
    omega
  . simp only [Bool.or_eq_true, Bool.and_eq_true, decide_eq_true_eq, beq_iff_eq] at h
    simp only [List.mem_cons, List.not_mem_nil]
    omega

theorem dropWhile_isBlank_append {blanks digits : List Char} (hblanks : ∀ c ∈ blanks, isBlank c = true)
    (hdigits : IsAddressPart digits) (rest : List Char)
    : (blanks ++ (digits ++ rest)).dropWhile isBlank = digits ++ rest := by
  obtain ⟨c, more, rfl⟩ := List.exists_cons_of_ne_nil hdigits.ne_nil
  rw [List.dropWhile_append_of_pos hblanks, List.cons_append]
  apply List.dropWhile_cons_of_neg
  intro hblank
  have hdecimal := hdigits.decimal c List.mem_cons_self
  rw [isDecimal_of_isBlank hblank] at hdecimal
  contradiction

/--
The address is read up to the third digit of its last part, or up to where no digit follows.
-/
inductive ClientReading : (address rest : List Char) → Prop where
  | dotted {a b c d rest : List Char} (ha : IsAddressPart a) (hb : IsAddressPart b) (hc : IsAddressPart c)
    (hd : IsAddressPart d) (hends : d.length = 3 ∨ EndsDecimal rest) :
    ClientReading (dotted a b c d) rest

theorem clientField?_eq_some_iff {address : List Char}
    : clientField? s = some address
        ↔
      ∃ blanks rest, (∀ c ∈ blanks, isBlank c = true) ∧ ClientReading address rest
        ∧ s = clientField blanks address ++ rest := by
  unfold clientField? clientField
  generalize "client:".toList = opening
  simp only [Option.bind_eq_bind, Option.bind_eq_some_iff, afterPrefix?_eq_some_iff, Prod.exists,
    addressPart?_eq_some_iff, Option.pure_def, Option.some.injEq]
  constructor
  . rintro ⟨more, rfl, a, _, ⟨hmore, ha, -⟩, s₁, rfl, b, _, ⟨rfl, hb, -⟩, s₂, rfl, c, _, ⟨rfl, hc, -⟩, s₃, rfl, d, rest,
      ⟨rfl, hd, hends⟩, rfl⟩
    refine ⟨more.takeWhile isBlank, rest, List.all_eq_true.mp List.all_takeWhile, ?_, ?_⟩
    . exact .dotted ha hb hc hd hends
    . calc
        opening ++ more = opening ++ (more.takeWhile isBlank ++ more.dropWhile isBlank) := by
          rw [List.takeWhile_append_dropWhile]
        _ = _ := by simp [hmore]
  . rintro ⟨blanks, rest, hblanks, hreading, rfl⟩
    obtain @⟨a, b, c, d, _, ha, hb, hc, hd, hends⟩ := hreading
    have hpoint (s : List Char) : EndsDecimal ('.' :: s) := by
      rintro c ⟨⟩
      decide
    have hdotted : dotted a b c d ++ rest = a ++ '.' :: (b ++ '.' :: (c ++ '.' :: (d ++ rest))) := by
      simp [dotted]
    refine ⟨blanks ++ (dotted a b c d ++ rest), by simp, a, _, ⟨?_, ha, .inr (hpoint _)⟩, _, rfl,
      b, _, ⟨rfl, hb, .inr (hpoint _)⟩, _, rfl, c, _, ⟨rfl, hc, .inr (hpoint _)⟩, _, rfl,
      d, rest, ⟨rfl, hd, hends⟩, rfl⟩
    rw [hdotted, dropWhile_isBlank_append hblanks ha]
    rfl

theorem clientField?_clientField {blanks address : List Char} (hblanks : ∀ c ∈ blanks, isBlank c = true)
    (haddress : IsAddress address) (hrest : EndsDecimal rest)
    : clientField? (clientField blanks address ++ rest) = some address := by
  obtain ⟨ha, hb, hc, hd⟩ := haddress
  exact clientField?_eq_some_iff.mpr ⟨blanks, rest, hblanks, .dotted ha hb hc hd (.inr hrest), rfl⟩

theorem isSome_clientField?_iff : (clientField? s).isSome = true ↔ ∃ part, IsClientField part ∧ part <+: s := by
  rw [Option.isSome_iff_exists]
  simp only [clientField?_eq_some_iff]
  constructor
  . rintro ⟨address, blanks, rest, hblanks, ⟨ha, hb, hc, hd, -⟩, rfl⟩
    exact ⟨_, ⟨blanks, _, hblanks, .dotted ha hb hc hd, rfl⟩, List.prefix_append _ _⟩
  . rintro ⟨_, ⟨blanks, _, hblanks, haddress, rfl⟩, rest, rfl⟩
    obtain @⟨a, b, c, d, ha, hb, hc, hd⟩ := haddress
    -- The last part may go on in what follows.
    obtain ⟨⟨digits, rest'⟩, hlast⟩ := Option.isSome_iff_exists.mp (isSome_addressPart?_append hd rest)
    obtain ⟨hlonger, hdigits, hends⟩ := addressPart?_eq_some_iff.mp hlast
    refine ⟨dotted a b c digits, blanks, rest', hblanks, .dotted ha hb hc hdigits hends, ?_⟩
    unfold clientField dotted
    generalize "client:".toList = opening
    simp [hlonger]

theorem clientField?_append {address suffix : List Char} (h : clientField? s = some address)
    (hsuffix : EndsDecimal suffix)
    : clientField? (s ++ suffix) = some address := by
  rw [clientField?_eq_some_iff] at h ⊢
  obtain ⟨blanks, rest, hblanks, ⟨ha, hb, hc, hd, hends⟩, rfl⟩ := h
  refine ⟨blanks, rest ++ suffix, hblanks, ?_, List.append_assoc _ _ _⟩
  exact .dotted ha hb hc hd (hends.imp_right (·.append hsuffix))

/-! ### Where fields stand -/

theorem recognizes_bracketField? (name : String) : Recognizes (bracketField? name) (IsBracketField name) := by
  intro s
  rw [Option.isSome_iff_exists]
  simp only [bracketField?_eq_some_iff, IsBracketField]
  constructor
  . rintro ⟨content, hquote, hprefix⟩
    exact ⟨_, ⟨content, hquote, rfl⟩, hprefix⟩
  . rintro ⟨_, ⟨content, hquote, rfl⟩, hprefix⟩
    exact ⟨content, hquote, hprefix⟩

theorem recognizes_requestField? : Recognizes requestField? IsRequestField := by
  intro s
  rw [Option.isSome_iff_exists]
  simp only [requestField?_eq_some_iff, IsRequestField]
  constructor
  . rintro ⟨content, hquote, blanks, hblanks, hprefix⟩
    exact ⟨_, ⟨blanks, content, hblanks, hquote, rfl⟩, hprefix⟩
  . rintro ⟨_, ⟨blanks, content, hblanks, hquote, rfl⟩, hprefix⟩
    exact ⟨content, hquote, blanks, hblanks, hprefix⟩

theorem recognizes_userAgentField? : Recognizes userAgentField? IsUserAgentField := by
  intro s
  rw [Option.isSome_iff_exists]
  simp only [userAgentField?_eq_some_iff, IsUserAgentField]
  constructor
  . rintro ⟨content, hne, hquote, hprefix⟩
    exact ⟨_, ⟨content, hne, hquote, rfl⟩, hprefix⟩
  . rintro ⟨_, ⟨content, hne, hquote, rfl⟩, hprefix⟩
    exact ⟨content, hne, hquote, hprefix⟩

/-! ### Fields do not stand in fields -/

/--
Where the first character of a text does not come again, nothing that starts with it begins later.
-/
theorem eq_nil_of_not_mem {c : Char} {before word word' : List Char} (h : before ++ c :: word' = c :: word)
    (hc : c ∉ word)
    : before = [] := by
  cases before with
  | nil => rfl
  | cons d before =>
    injection h with _ hword
    rw [← hword] at hc
    simp at hc

/--
Of two texts with two quotes each, one within the other, the first quotes are the same.
-/
theorem before_append_eq {opening opening' content content' closing closing' before after : List Char}
    (h : before ++ (opening' ++ '"' :: content' ++ '"' :: closing') ++ after
      = opening ++ '"' :: content ++ '"' :: closing)
    (hopening : '"' ∉ opening) (hopening' : '"' ∉ opening') (hcontent : '"' ∉ content)
    (hclosing : '"' ∉ closing)
    : before ++ opening' = opening := by
  have hcount := congrArg (List.count '"') h
  simp only [List.count_append, List.count_cons_self, List.count_eq_zero_of_not_mem hopening,
    List.count_eq_zero_of_not_mem hcontent, List.count_eq_zero_of_not_mem hclosing] at hcount
  have hbefore : '"' ∉ before := by
    rw [← List.count_eq_zero]
    omega
  have hword : '"' ∉ before ++ opening' := by
    rw [List.mem_append, not_or]
    exact ⟨hbefore, hopening'⟩
  have hsame : before ++ opening' ++ '"' :: (content' ++ '"' :: (closing' ++ after))
      = opening ++ '"' :: (content ++ '"' :: closing) := by
    simpa using h
  have hfirst := congrArg (List.takeWhile (· != '"')) hsame
  rwa [(span_append_cons hword _).1, (span_append_cons hopening _).1] at hfirst

theorem unnested_bracketField (hname : '"' ∉ name.toList) : Unnested (IsBracketField name) := by
  intro before inner after hwhole hinner
  obtain ⟨content, hquote, hwhole⟩ := hwhole
  obtain ⟨content', -, rfl⟩ := hinner
  have hopening : '"' ∉ '[' :: name.toList ++ [' '] := by
    simp [hname]
  have hsame : before ++ (('[' :: name.toList ++ [' ']) ++ '"' :: content' ++ '"' :: [']']) ++ after
      = ('[' :: name.toList ++ [' ']) ++ '"' :: content ++ '"' :: [']'] := by
    simpa [bracketField] using hwhole
  have hbefore := before_append_eq hsame hopening hopening hquote (by decide)
  exact List.append_left_eq_self.mp hbefore

theorem unnested_userAgentField : Unnested IsUserAgentField := by
  intro before inner after hwhole hinner
  obtain ⟨content, -, hquote, hwhole⟩ := hwhole
  obtain ⟨content', -, -, rfl⟩ := hinner
  obtain ⟨opening, hopening⟩ : ∃ opening, "\"User-Agent: ".toList = '"' :: opening ∧ '"' ∉ opening :=
    ⟨"User-Agent: ".toList, by decide, by decide⟩
  unfold userAgentField at hwhole
  rw [hopening.1] at hwhole
  have hcontent : '"' ∉ opening ++ content := by
    rw [List.mem_append, not_or]
    exact ⟨hopening.2, hquote⟩
  have hsame : before ++ ([] ++ '"' :: (opening ++ content') ++ '"' :: []) ++ after
      = [] ++ '"' :: (opening ++ content) ++ '"' :: [] := by
    simpa using hwhole
  have hbefore := before_append_eq hsame List.not_mem_nil List.not_mem_nil hcontent List.not_mem_nil
  rwa [List.append_nil] at hbefore

theorem not_mem_blanks {c : Char} {blanks : List Char} (hblanks : ∀ c ∈ blanks, isBlank c = true)
    (hc : isBlank c = false)
    : c ∉ blanks := by
  intro hmem
  rw [hblanks c hmem] at hc
  contradiction

theorem unnested_requestField : Unnested IsRequestField := by
  intro before inner after hwhole hinner
  obtain ⟨blanks, content, hblanks, hquote, hwhole⟩ := hwhole
  obtain ⟨blanks', content', hblanks', -, rfl⟩ := hinner
  obtain ⟨word, hword, hquoteless, honce⟩ :
      ∃ word, "request:".toList = 'r' :: word ∧ '"' ∉ 'r' :: word ∧ 'r' ∉ word :=
    ⟨"equest:".toList, by decide, by decide, by decide⟩
  have hopening {blanks : List Char} (hblanks : ∀ c ∈ blanks, isBlank c = true) :
      '"' ∉ 'r' :: word ++ blanks := by
    rw [List.mem_append, not_or]
    exact ⟨hquoteless, not_mem_blanks hblanks (by decide)⟩
  unfold requestField at hwhole
  rw [hword] at hwhole
  have hsame : before ++ (('r' :: word ++ blanks') ++ '"' :: content' ++ '"' :: []) ++ after
      = ('r' :: word ++ blanks) ++ '"' :: content ++ '"' :: [] := by
    simpa using hwhole
  have hbefore := before_append_eq hsame (hopening hblanks) (hopening hblanks') hquote List.not_mem_nil
  apply eq_nil_of_not_mem hbefore
  change 'r' ∉ word ++ blanks
  rw [List.mem_append, not_or]
  exact ⟨honce, not_mem_blanks hblanks (by decide)⟩

theorem not_mem_address {c : Char} {address : List Char} (haddress : IsAddress address)
    (hdecimal : isDecimal c = false) (hpoint : c ≠ '.')
    : c ∉ address := by
  have hpart {digits : List Char} (hdigits : IsAddressPart digits) : c ∉ digits := by
    intro hmem
    rw [hdigits.decimal c hmem] at hdecimal
    contradiction
  obtain ⟨ha, hb, hc, hd⟩ := haddress
  simp [dotted, hpart ha, hpart hb, hpart hc, hpart hd, hpoint]

theorem unnested_clientField : Unnested IsClientField := by
  intro before inner after hwhole hinner
  obtain ⟨blanks, address, hblanks, haddress, hwhole⟩ := hwhole
  obtain ⟨blanks', address', -, -, rfl⟩ := hinner
  obtain ⟨word, hword, honce⟩ : ∃ word, "client:".toList = 'c' :: word ∧ 'c' ∉ word :=
    ⟨"lient:".toList, by decide, by decide⟩
  unfold clientField at hwhole
  rw [hword] at hwhole
  have hsame : before ++ 'c' :: (word ++ blanks' ++ address' ++ after) = 'c' :: (word ++ blanks ++ address) := by
    simpa using hwhole
  apply eq_nil_of_not_mem hsame
  simp only [List.mem_append, not_or]
  exact ⟨⟨honce, not_mem_blanks hblanks (by decide)⟩, not_mem_address haddress (by decide) (by decide)⟩

/-! ### Times -/

theorem hasForm_append {form : List Char} (h : form.length ≤ s.length) (suffix : List Char) :
    hasForm form (s ++ suffix) = hasForm form s := by
  induction form generalizing s with
  | nil => simp [hasForm]
  | cons f form ih =>
    cases s with
    | nil => contradiction
    | cons c rest =>
      rw [List.cons_append]
      unfold hasForm
      rw [ih (Nat.le_of_succ_le_succ h)]

theorem length_le_of_hasForm {form : List Char} (h : hasForm form s = true) : form.length ≤ s.length := by
  induction form generalizing s with
  | nil => exact Nat.zero_le _
  | cons f form ih =>
    cases s with
    | nil => contradiction
    | cons c rest =>
      unfold hasForm at h
      exact Nat.succ_le_succ (ih (Bool.and_eq_true_iff.mp h).2)

/--
In a form of digits and marks there is room for nothing else.
-/
theorem mem_of_hasForm {form : List Char} (h : hasForm form s = true) (hletter : 'a' ∉ form) (hsign : 's' ∉ form)
    {c : Char} (hc : c ∈ s.take form.length)
    : isDecimal c = true ∨ c ∈ form := by
  induction form generalizing s with
  | nil => simp at hc
  | cons f form ih =>
    cases s with
    | nil => contradiction
    | cons d rest =>
      unfold hasForm at h
      rw [Bool.and_eq_true] at h
      rw [List.mem_cons, not_or] at hletter hsign
      rw [List.length_cons, List.take_succ_cons, List.mem_cons] at hc
      rcases hc with rfl | hlater
      . have hhere := h.1
        split at hhere
        . exact .inl hhere
        . exact absurd rfl hletter.1
        . exact absurd rfl hsign.1
        . rw [beq_iff_eq] at hhere
          exact .inr (hhere ▸ List.mem_cons_self)
      . exact (ih h.2 hletter.2 hsign.2 hlater).imp_right (List.mem_cons_of_mem f)

def IsBracketedTime (part : List Char) : Prop :=
  part.length = bracketedForm.length ∧ hasForm bracketedForm part = true

theorem recognizes_bracketedTime? : Recognizes bracketedTime? IsBracketedTime := by
  intro s
  unfold bracketedTime?
  rw [Option.isSome_ite]
  constructor
  . intro h
    have hlength : (s.take bracketedForm.length).length = bracketedForm.length :=
      List.length_take_of_le (length_le_of_hasForm h)
    refine ⟨s.take bracketedForm.length, ⟨hlength, ?_⟩, List.take_prefix _ _⟩
    rw [← hasForm_append (Nat.le_of_eq hlength.symm), List.take_append_drop]
    exact h
  . rintro ⟨part, ⟨hlength, hform⟩, rest, rfl⟩
    rw [hasForm_append (Nat.le_of_eq hlength.symm)]
    exact hform

theorem unnested_bracketedTime : Unnested IsBracketedTime := by
  intro before inner after hwhole hinner
  have hlength := hwhole.1
  simp only [List.length_append, hinner.1] at hlength
  apply List.eq_nil_of_length_eq_zero
  omega

theorem bracketedTime?_append (h : bracketedTime? s = some content) (suffix : List Char) :
    bracketedTime? (s ++ suffix) = some content := by
  unfold bracketedTime? at h ⊢
  rw [Option.ite_none_right_eq_some] at h ⊢
  have hlength := length_le_of_hasForm h.1
  rw [hasForm_append hlength, List.take_append_of_le_length (Nat.le_trans (Nat.sub_le _ _) hlength)]
  exact h

end WafWatch.AuditLine
