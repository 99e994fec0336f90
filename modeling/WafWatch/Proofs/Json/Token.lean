import WafWatch.Proofs.Json.Grammar
import WafWatch.Proofs.Result
import WafWatch.Proofs.Text.Utf8

/-!
This module contains the reading of numbers and strings in JSON texts: exactly what writes a number or a string
is read as one, whichever of several ways to write it was taken.
-/

namespace WafWatch.Json

open WafWatch.Text

/-! ### Numbers -/

/--
The text does not go on like a number.
-/
def EndsNumber (s : List Char) : Prop :=
  ∀ c ∈ s.head?, isAsciiDigit c = false ∧ c ≠ '.' ∧ c ≠ 'e' ∧ c ≠ 'E'

theorem readDigits_eq_ok_iff {digits s rest : List Char} :
    readDigits s = .ok (digits, rest) ↔ IsDigits digits ∧ EndsDigits rest ∧ s = digits ++ rest := by
  constructor
  . intro h
    unfold readDigits at h
    split at h
    . contradiction
    . next c after =>
      split at h
      . next hc =>
        injection h with h
        injection h with hdigits hrest
        subst hdigits hrest
        refine ⟨isDigits_cons_takeWhile hc after, endsDigits_dropWhile after, ?_⟩
        rw [List.cons_append, List.takeWhile_append_dropWhile]
      . contradiction
  . rintro ⟨hdigits, hrest, rfl⟩
    obtain ⟨c, more, rfl⟩ := List.exists_cons_of_ne_nil hdigits.ne_nil
    have hdigit := List.forall_mem_cons.mp hdigits.digit
    obtain ⟨htake, hdrop⟩ := takeWhile_digits hdigit.2 hrest
    simp [readDigits, hdigit.1, htake, hdrop]

theorem readWhole_eq_ok_iff {whole s rest : List Char}
    : readWhole s = .ok (whole, rest)
        ↔ IsDigits whole ∧ (whole.head? = some '0' → whole = ['0']) ∧ EndsDigits rest
          ∧ s = whole ++ rest := by
  constructor
  . intro h
    unfold readWhole at h
    split at h
    . split at h
      . next d after =>
        split at h
        . contradiction
        . next hd =>
          injection h with h
          injection h with hwhole hrest
          subst hwhole hrest
          exact ⟨isDigits_zero, fun _ => rfl, by simpa [EndsDigits] using hd, rfl⟩
      . injection h with h
        injection h with hwhole hrest
        subst hwhole hrest
        exact ⟨isDigits_zero, fun _ => rfl, nofun, rfl⟩
    . next hzero =>
      obtain ⟨hwhole, hrest, rfl⟩ := readDigits_eq_ok_iff.mp h
      refine ⟨hwhole, ?_, hrest, rfl⟩
      intro hhead
      obtain ⟨d, more, rfl⟩ := List.exists_cons_of_ne_nil hwhole.ne_nil
      injection hhead with hd
      exact absurd (hd ▸ rfl) (hzero (more ++ rest))
  . rintro ⟨hwhole, hzero, hrest, rfl⟩
    obtain ⟨c, more, rfl⟩ := List.exists_cons_of_ne_nil hwhole.ne_nil
    unfold readWhole
    split
    . next after hs =>
      injection hs with hc hafter
      obtain ⟨-, rfl⟩ := List.cons.inj (hzero (congrArg some hc))
      subst hc hafter
      cases rest with
      | nil => rfl
      | cons d rest => simp [hrest d rfl]
    . exact readDigits_eq_ok_iff.mpr ⟨hwhole, hrest, rfl⟩

theorem readPoint_eq_ok_iff {fraction : Option (List Char)} {s rest : List Char}
    : readPoint s = .ok (fraction, rest)
        ↔ (∀ digits ∈ fraction, IsDigits digits ∧ EndsDigits rest)
          ∧ (fraction = none → ∀ c ∈ rest.head?, c ≠ '.')
          ∧ s = fractionPart fraction ++ rest := by
  constructor
  . intro h
    unfold readPoint at h
    split at h
    . obtain ⟨⟨digits, after⟩, hdigits, hread⟩ := map_eq_ok_iff.mp h
      injection hread with hfraction hrest
      subst hfraction hrest
      obtain ⟨hisDigits, hends, rfl⟩ := readDigits_eq_ok_iff.mp hdigits
      refine ⟨?_, nofun, rfl⟩
      intro digits' hsame
      cases hsame
      exact ⟨hisDigits, hends⟩
    . next hpoint =>
      injection h with h
      injection h with hfraction hrest
      subst hfraction hrest
      refine ⟨nofun, ?_, rfl⟩
      intro _ c hc hpoint'
      obtain ⟨after, rfl⟩ := List.head?_eq_some_iff.mp hc
      exact hpoint after (hpoint' ▸ rfl)
  . rintro ⟨hdigits, hpoint, rfl⟩
    cases fraction with
    | none =>
      show readPoint rest = _
      unfold readPoint
      split
      . exact absurd rfl (hpoint rfl '.' rfl)
      . rfl
    | some digits =>
      obtain ⟨hisDigits, hends⟩ := hdigits digits rfl
      exact map_eq_ok_iff.mpr ⟨_, readDigits_eq_ok_iff.mpr ⟨hisDigits, hends, rfl⟩, rfl⟩

theorem readExponent_eq_ok_iff {negative : Bool} {digits s rest : List Char}
    : readExponent s = .ok ((negative, digits), rest)
        ↔ IsDigits digits ∧ EndsDigits rest
          ∧ ∃ sign, SignSpelled negative sign ∧ s = sign ++ (digits ++ rest) := by
  constructor
  . intro h
    unfold readExponent at h
    split at h
    all_goals
      obtain ⟨⟨digits', after⟩, hdigits, hread⟩ := map_eq_ok_iff.mp h
      injection hread with hexponent hrest
      injection hexponent with hnegative hsame
      subst hnegative hsame hrest
      obtain ⟨hisDigits, hends, rfl⟩ := readDigits_eq_ok_iff.mp hdigits
    . exact ⟨hisDigits, hends, _, .plus, rfl⟩
    . exact ⟨hisDigits, hends, _, .minus, rfl⟩
    . exact ⟨hisDigits, hends, _, .none, rfl⟩
  . rintro ⟨hisDigits, hends, sign, hsign, rfl⟩
    have hread := readDigits_eq_ok_iff.mpr ⟨hisDigits, hends, rfl⟩
    cases hsign with
    | none =>
      obtain ⟨c, more, rfl⟩ := List.exists_cons_of_ne_nil hisDigits.ne_nil
      have hc := hisDigits.digit c List.mem_cons_self
      unfold readExponent
      split
      . next hs =>
        injection hs with hplus
        rw [hplus] at hc
        contradiction
      . next hs =>
        injection hs with hminus
        rw [hminus] at hc
        contradiction
      . exact map_eq_ok_iff.mpr ⟨_, hread, rfl⟩
    | plus => exact map_eq_ok_iff.mpr ⟨_, hread, rfl⟩
    | minus => exact map_eq_ok_iff.mpr ⟨_, hread, rfl⟩

theorem atExponent_eq_some_iff {s after : List Char} :
    atExponent s = some after ↔ ∃ mark, (mark = 'e' ∨ mark = 'E') ∧ s = mark :: after := by
  constructor
  . intro h
    unfold atExponent at h
    split at h
    . injection h with h
      exact ⟨'e', .inl rfl, h ▸ rfl⟩
    . injection h with h
      exact ⟨'E', .inr rfl, h ▸ rfl⟩
    . contradiction
  . rintro ⟨mark, rfl | rfl, rfl⟩ <;> rfl

theorem readPower_eq_ok_iff {exponent : Option (Bool × List Char)} {s rest : List Char}
    : readPower s = .ok (exponent, rest)
        ↔ (∀ e ∈ exponent, IsDigits e.2 ∧ EndsDigits rest)
          ∧ (exponent = none → ∀ c ∈ rest.head?, c ≠ 'e' ∧ c ≠ 'E')
          ∧ ∃ exponentPart, ExponentSpelled exponent exponentPart ∧ s = exponentPart ++ rest := by
  constructor
  . intro h
    unfold readPower at h
    split at h
    . next after hafter =>
      obtain ⟨mark, hmark, rfl⟩ := atExponent_eq_some_iff.mp hafter
      obtain ⟨⟨⟨negative, digits⟩, after'⟩, hexponent, hread⟩ := map_eq_ok_iff.mp h
      injection hread with hexponent' hrest
      subst hexponent' hrest
      obtain ⟨hisDigits, hends, sign, hsign, rfl⟩ := readExponent_eq_ok_iff.mp hexponent
      refine ⟨?_, nofun, _, .some hmark hsign, ?_⟩
      . intro e he
        cases he
        exact ⟨hisDigits, hends⟩
      . simp
    . next hmark =>
      injection h with h
      injection h with hexponent hrest
      subst hexponent hrest
      refine ⟨nofun, ?_, _, .none, rfl⟩
      intro _ c hc
      obtain ⟨after, rfl⟩ := List.head?_eq_some_iff.mp hc
      rw [← not_or]
      intro hc'
      rw [atExponent_eq_some_iff.mpr ⟨c, hc', rfl⟩] at hmark
      contradiction
  . rintro ⟨hdigits, hmark, exponentPart, hexponent, rfl⟩
    cases hexponent with
    | none =>
      unfold readPower
      split
      . next after hafter =>
        obtain ⟨mark, hmark', hs⟩ := atExponent_eq_some_iff.mp hafter
        have hs : rest = mark :: after := hs
        have hnot := hmark rfl mark (hs ▸ rfl)
        exact absurd hmark' (not_or.mpr hnot)
      . rfl
    | some hmark' hsign =>
      obtain ⟨hisDigits, hends⟩ := hdigits _ rfl
      unfold readPower
      rw [List.cons_append, atExponent_eq_some_iff.mpr ⟨_, hmark', rfl⟩, List.append_assoc]
      have hread := readExponent_eq_ok_iff.mpr ⟨hisDigits, hends, _, hsign, rfl⟩
      exact map_eq_ok_iff.mpr ⟨_, hread, rfl⟩

theorem ExponentSpelled.ends {exponent : Option (Bool × List Char)} {exponentPart rest : List Char}
    (h : ExponentSpelled exponent exponentPart) (hrest : EndsNumber rest)
    : EndsDigits (exponentPart ++ rest) ∧ ∀ c ∈ (exponentPart ++ rest).head?, c ≠ '.' := by
  cases h with
  | none => exact ⟨fun c hc => (hrest c hc).1, fun c hc => (hrest c hc).2.1⟩
  | some hmark hsign =>
    constructor
    . intro c hc
      cases hc
      rcases hmark with rfl | rfl <;> rfl
    . intro c hc
      cases hc
      rcases hmark with rfl | rfl <;> decide

theorem endsDigits_fractionPart {fraction : Option (List Char)} {s : List Char} (hs : EndsDigits s) :
    EndsDigits (fractionPart fraction ++ s) := by
  cases fraction with
  | none => exact hs
  | some digits =>
    intro c hc
    cases hc
    rfl

theorem Literal.Spelled.of_readNumber {negative : Bool} {literal : Literal} {s rest : List Char}
    (h : readNumber negative s = .ok (literal, rest))
    : literal.negative = negative ∧ literal.Spelled (literal.sign ++ s) rest := by
  obtain ⟨⟨whole, afterWhole⟩, hwhole, h⟩ := bind_eq_ok_iff.mp h
  obtain ⟨⟨fraction, afterFraction⟩, hfraction, h⟩ := bind_eq_ok_iff.mp h
  obtain ⟨⟨exponent, afterExponent⟩, hexponent, h⟩ := bind_eq_ok_iff.mp h
  injection h with h
  injection h with hliteral hrest
  subst hliteral hrest
  obtain ⟨hisDigits, hzero, -, rfl⟩ := readWhole_eq_ok_iff.mp hwhole
  obtain ⟨hfractionDigits, -, rfl⟩ := readPoint_eq_ok_iff.mp hfraction
  obtain ⟨hexponentDigits, -, exponentPart, hexponentPart, rfl⟩ := readPower_eq_ok_iff.mp hexponent
  refine ⟨rfl, ⟨?_, exponentPart, hexponentPart, rfl⟩⟩
  exact {
    whole := hisDigits
    noZero := hzero
    fraction := fun digits hdigits => (hfractionDigits digits hdigits).1
    exponent := fun e he => (hexponentDigits e he).1 }

theorem Literal.Spelled.readNumber_eq {literal : Literal} {s rest : List Char}
    (h : literal.Spelled s rest) (hrest : EndsNumber rest)
    : ∃ after, s = literal.sign ++ after
        ∧ readNumber literal.negative after = .ok (literal, rest) := by
  obtain ⟨⟨hwhole, hzero, hfraction, hexponent⟩, exponentPart, hexponentPart, rfl⟩ := h
  obtain ⟨hends, hpoint⟩ := hexponentPart.ends hrest
  refine ⟨_, rfl, ?_⟩
  apply bind_eq_ok_iff.mpr
  refine ⟨_, readWhole_eq_ok_iff.mpr ⟨hwhole, hzero, endsDigits_fractionPart hends, rfl⟩, ?_⟩
  apply bind_eq_ok_iff.mpr
  have hfraction := fun digits hdigits => And.intro (hfraction digits hdigits) hends
  refine ⟨_, readPoint_eq_ok_iff.mpr ⟨hfraction, fun _ => hpoint, rfl⟩, ?_⟩
  apply bind_eq_ok_iff.mpr
  have hexponent := fun e he => And.intro (hexponent e he) fun c hc => (hrest c hc).1
  have hmark := fun c hc => (hrest c hc).2.2
  exact ⟨_, readPower_eq_ok_iff.mpr ⟨hexponent, fun _ => hmark, _, hexponentPart, rfl⟩, rfl⟩

/-! ### Characters -/

theorem isHighSurrogate_iff {code : Nat} : isHighSurrogate code = true ↔ 0xd800 ≤ code ∧ code ≤ 0xdbff := by
  simp [isHighSurrogate]

theorem isLowSurrogate_iff {code : Nat} : isLowSurrogate code = true ↔ 0xdc00 ≤ code ∧ code ≤ 0xdfff := by
  simp [isLowSurrogate]

/--
No character has the number of a surrogate.
-/
theorem not_isSurrogate (c : Char) : isHighSurrogate c.toNat = false ∧ isLowSurrogate c.toNat = false := by
  have hvalid : c.toNat < 0xd800 ∨ (0xdfff < c.toNat ∧ c.toNat < 0x110000) := c.valid
  rw [Bool.eq_false_iff, Bool.eq_false_iff, ne_eq, ne_eq, isHighSurrogate_iff, isLowSurrogate_iff]
  omega

theorem escapeOf?_eq_some_iff {c letter : Char} : escapeOf? letter = some c ↔ LetterOf c letter := by
  constructor
  . intro h
    unfold escapeOf? at h
    split at h <;> first
      | contradiction
      | (cases h; constructor)
  . intro h
    cases h <;> rfl

theorem readHex_eq_ok_iff {code : Nat} {s rest : List Char} :
    readHex s = .ok (code, rest) ↔ HexSpelled code s rest := by
  constructor
  . intro h
    unfold readHex at h
    split at h
    . next a b c d rest' =>
      split at h
      . next i j k l ha hb hc hd =>
        simp only [Except.ok.injEq, Prod.mk.injEq] at h
        obtain ⟨rfl, rfl⟩ := h
        refine ⟨a, b, c, d, rfl, ?_, ?_⟩
        . simp [isHexDigit, ha, hb, hc, hd]
        . simp [ofDigitsIn, ha, hb, hc, hd]
      . contradiction
    . split at h <;> contradiction
  . rintro ⟨a, b, c, d, hs, hhex, hcode⟩
    simp only [List.forall_mem_cons, isHexDigit, Option.isSome_iff_exists] at hhex
    obtain ⟨⟨i, ha⟩, ⟨j, hb⟩, ⟨k, hc⟩, ⟨l, hd⟩, -⟩ := hhex
    subst hs hcode
    simp [readHex, ofDigitsIn, ha, hb, hc, hd]

theorem HexSpelled.lt {code : Nat} {s rest : List Char} (h : HexSpelled code s rest) : code < 0x10000 := by
  obtain ⟨a, b, c, d, -, hhex, rfl⟩ := h
  simp only [List.forall_mem_cons, isHexDigit, Option.isSome_iff_exists] at hhex
  obtain ⟨⟨i, ha⟩, ⟨j, hb⟩, ⟨k, hc⟩, ⟨l, hd⟩, -⟩ := hhex
  have hi := hexValue?_lt ha
  have hj := hexValue?_lt hb
  have hk := hexValue?_lt hc
  have hl := hexValue?_lt hd
  simp only [ofDigitsIn, List.foldl_cons, List.foldl_nil, ha, hb, hc, hd, Option.getD_some]
  omega

theorem stringStepHex_eq_char_iff {c : Char} {s rest : List Char} :
    stringStepHex s = .char c rest ↔ CharSpelled c ('\\' :: 'u' :: s) rest := by
  constructor
  . intro h
    unfold stringStepHex at h
    split at h
    . contradiction
    . next code after hhex =>
      rw [readHex_eq_ok_iff] at hhex
      have hcode := hhex.lt
      split at h
      . contradiction
      . next hlow =>
        rw [isLowSurrogate_iff] at hlow
        split at h
        . next hhigh =>
          split at h
          . contradiction
          . contradiction
          . next after' =>
            split at h
            . contradiction
            . next low rest' hsecond =>
              rw [readHex_eq_ok_iff] at hsecond
              split at h
              . next hlow' =>
                injection h with hc hrest
                subst hrest
                refine .pair hhigh hlow' ?_ hhex hsecond
                rw [isHighSurrogate_iff] at hhigh
                rw [isLowSurrogate_iff] at hlow'
                rw [← hc]
                apply toNat_ofNat_of_lt
                omega
              . contradiction
          . contradiction
        . next hhigh =>
          rw [isHighSurrogate_iff] at hhigh
          injection h with hc hrest
          subst hrest
          apply CharSpelled.unit
          rw [← hc, toNat_ofNat_of_lt (by omega)]
          exact hhex
  . intro h
    cases h with
    | plain hcontrol hquote hescape => contradiction
    | letter hletter => cases hletter
    | unit hunit =>
      obtain ⟨hhigh, hlow⟩ := not_isSurrogate c
      rw [← readHex_eq_ok_iff] at hunit
      simp [stringStepHex, hunit, hhigh, hlow, Char.ofNat_toNat]
    | pair hhigh hlow hc hfirst hsecond =>
      rename_i high low after
      have hhigh' : isLowSurrogate high = false := by
        rw [Bool.eq_false_iff, ne_eq, isLowSurrogate_iff]
        rw [isHighSurrogate_iff] at hhigh
        omega
      rw [← readHex_eq_ok_iff] at hfirst hsecond
      simp [stringStepHex, hfirst, hsecond, hhigh, hlow, hhigh', ← hc, Char.ofNat_toNat]

theorem stringStep_eq_closed_iff {s rest : List Char} : stringStep s = .closed rest ↔ s = '"' :: rest := by
  constructor
  . intro h
    unfold stringStep at h
    split at h
    . contradiction
    . injection h with h
      rw [h]
    . contradiction
    . unfold stringStepHex at h
      repeat' split at h
      all_goals contradiction
    . split at h <;> contradiction
    . split at h <;> contradiction
  . rintro rfl
    rfl

theorem stringStep_eq_char_iff {c : Char} {s rest : List Char} :
    stringStep s = .char c rest ↔ CharSpelled c s rest := by
  constructor
  . intro h
    unfold stringStep at h
    split at h
    . contradiction
    . contradiction
    . contradiction
    . exact stringStepHex_eq_char_iff.mp h
    . split at h
      . next hletter =>
        injection h with hc hrest
        subst hc hrest
        exact .letter (escapeOf?_eq_some_iff.mp hletter)
      . contradiction
    . next d after hquote hend hunit hescape =>
      split at h
      . contradiction
      . next hcontrol =>
        injection h with hc hrest
        subst hc hrest
        refine .plain (Nat.le_of_not_lt hcontrol) ?_ ?_
        . exact hquote
        . intro hd
          cases after with
          | nil => exact hend hd rfl
          | cons letter after => exact hescape letter after hd rfl
  . intro h
    cases h with
    | plain hcontrol hquote hescape =>
      unfold stringStep
      split
      . contradiction
      . next hs => exact absurd (List.cons.inj hs).1 hquote
      . next hs => exact absurd (List.cons.inj hs).1 hescape
      . next hs => exact absurd (List.cons.inj hs).1 hescape
      . next hs => exact absurd (List.cons.inj hs).1 hescape
      . next hs =>
        injection hs with hc hrest
        subst hc hrest
        rw [if_neg (Nat.not_lt.mpr hcontrol)]
    | letter hletter => cases hletter <;> rfl
    | unit hunit => exact stringStepHex_eq_char_iff.mpr (.unit hunit)
    | pair hhigh hlow hc hfirst hsecond =>
      exact stringStepHex_eq_char_iff.mpr (.pair hhigh hlow hc hfirst hsecond)

theorem CharSpelled.length_lt {c : Char} {s rest : List Char} (h : CharSpelled c s rest) :
    rest.length < s.length := by
  cases h with
  | plain hcontrol hquote hescape => exact Nat.lt_succ_self _
  | letter hletter =>
    simp only [List.length_cons]
    omega
  | unit hunit =>
    obtain ⟨_, _, _, _, rfl, -⟩ := hunit
    simp only [List.length_cons]
    omega
  | pair hhigh hlow hc hfirst hsecond =>
    obtain ⟨_, _, _, _, rfl, -⟩ := hsecond
    obtain ⟨_, _, _, _, rfl, -⟩ := hfirst
    simp only [List.length_cons]
    omega

/-! ### Strings -/

theorem TextSpelled.length_lt {chars s rest : List Char} (h : TextSpelled chars s rest) :
    rest.length < s.length := by
  induction h with
  | close => simp
  | char hchar hchars ih => exact Nat.lt_trans ih hchar.length_lt

theorem readString_of_error (fuel : Nat) (fault : Fault) (s chars rest : List Char) :
    readString fuel (.error fault) s ≠ .ok (.ok chars, rest) := by
  induction fuel generalizing s with
  | zero => exact nofun
  | succ fuel ih =>
    unfold readString
    split
    . exact nofun
    . exact ih _
    . exact ih _
    . exact nofun

theorem TextSpelled.of_readString {fuel : Nat} {soFar s chars rest : List Char}
    (h : readString fuel (.ok soFar) s = .ok (.ok chars, rest))
    : ∃ new, chars = soFar.reverse ++ new ∧ TextSpelled new s rest := by
  induction fuel generalizing soFar s with
  | zero => contradiction
  | succ fuel ih =>
    unfold readString at h
    split at h
    . next after hstep =>
      injection h with h
      injection h with hchars hrest
      injection hchars with hchars
      subst hrest
      rw [stringStep_eq_closed_iff.mp hstep]
      exact ⟨[], by simpa using hchars.symm, .close⟩
    . next c after hstep =>
      obtain ⟨new, hchars, hnew⟩ := ih h
      refine ⟨c :: new, ?_, .char (stringStep_eq_char_iff.mp hstep) hnew⟩
      simpa using hchars
    . exact absurd h (readString_of_error _ _ _ _ _)
    . contradiction

theorem TextSpelled.readString_eq {chars s rest : List Char} (h : TextSpelled chars s rest) {fuel : Nat}
    (hfuel : s.length ≤ fuel) (soFar : List Char)
    : readString fuel (.ok soFar) s = .ok (.ok (soFar.reverse ++ chars), rest) := by
  induction h generalizing fuel soFar with
  | close =>
    cases fuel with
    | zero => simp at hfuel
    | succ fuel =>
      unfold readString
      rw [stringStep_eq_closed_iff.mpr rfl]
      simp [Except.map]
  | char hchar hchars ih =>
    have hlength := hchar.length_lt
    cases fuel with
    | zero => omega
    | succ fuel =>
      unfold readString
      rw [stringStep_eq_char_iff.mpr hchar]
      dsimp only [Except.map]
      rw [ih (by omega)]
      simp

end WafWatch.Json
