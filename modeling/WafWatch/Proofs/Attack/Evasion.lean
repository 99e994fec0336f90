import WafWatch.Proofs.Attack.Target
import WafWatch.Proofs.Attack.Verdict
import WafWatch.Proofs.Text.Numeral
import WafWatch.Proofs.Text.Search

/-!
This module contains what an attacker cannot gain by rewriting a request target. Text that is put around a
target, with a space on each side, never leads to a category that is looked for later than that of the target
alone. The case of letters and the percent codes of punctuation never make any difference.
-/

namespace WafWatch

open WafWatch.Text
open WafWatch.Target

/-! ### Text around a target -/

namespace Heuristics

open WafWatch.Text.Pattern

/--
The only pattern that asks for the end of the text takes a blank in its place.
-/
theorem commandInjection_staysFound : commandInjection.StaysFound := by
  have hend : (oneOf [.one (.blankOr ['+', ';', '|', '&', ')', Char.ofNat 0x60]), .atEnd]).StaysFound :=
    staysFound_oneOrEnd (by decide +kernel)
  apply StaysFound.either
  . exact .seq (by decide) (.seq (by decide) (.seq (by decide) hend))
  . exact staysFound_of_endFree (by decide)

theorem staysFound_of_mem_groups : ∀ group ∈ groups, group.2.StaysFound := by
  have hothers : ∀ group ∈ groups.tail, group.2.endFree = true := by decide
  intro group hgroup
  rcases List.mem_cons.mp hgroup with rfl | hother
  . exact commandInjection_staysFound
  . exact staysFound_of_endFree (hothers group hother)

theorem shows_padded {group : AttackCategory × Pattern} (hgroup : group ∈ groups) {s : List Char}
    (h : shows s group = true) (left right : List Char)
    : shows (left ++ ' ' :: (s ++ ' ' :: right)) group = true := by
  simp only [shows, Bool.and_eq_true, Bool.or_eq_true, hasPart_iff] at h ⊢
  refine ⟨(staysFound_of_mem_groups group hgroup).foundIn h.1 left right, h.2.imp_right ?_⟩
  intro hinclusion
  exact hinclusion.trans ⟨left ++ [' '], ' ' :: right, by simp⟩

theorem shows_normalize_padded {group : AttackCategory × Pattern} (hgroup : group ∈ groups)
    {target : List Char} (h : shows (normalize target) group = true) (left right : List Char)
    : shows (normalize (left ++ [' '] ++ target ++ [' '] ++ right)) group = true := by
  have hpadded : left ++ [' '] ++ target ++ [' '] ++ right = left ++ ' ' :: (target ++ ' ' :: right) := by
    simp
  rw [hpadded, normalize_append_space, normalize_append_space]
  exact shows_padded hgroup h _ _

theorem rank_categorize_padded_le (target left right : List Char) :
    rank (categorize (left ++ [' '] ++ target ++ [' '] ++ right)) ≤ rank (categorize target) := by
  rw [rank_categorize, rank_categorize]
  exact List.findIdx_le_findIdx fun group hgroup h => shows_normalize_padded hgroup h left right

end Heuristics

namespace AttackCategory

open WafWatch.Heuristics

/--
Text around a target does not hide an attack: whatever is put there, with a space on each side, the category is
one that is looked for no later than that of the target alone, and a target that shows an attack still does so.
-/
theorem rank_classify_padded_le {ruleId target : List Char}
    (hrule : (ofRule (trim ruleId)).isInconclusive = true) (htarget : target ≠ []) (left right : List Char)
    : let padded := left ++ [' '] ++ target ++ [' '] ++ right
      classify ruleId padded ∈ checkingOrder
        ∧ rank (classify ruleId padded) ≤ rank (classify ruleId target)
        ∧ ((∃ group ∈ groups, shows (normalize target) group = true) →
            classify ruleId padded ≠ .securityPolicyViolation) := by
  intro padded
  have hpadded : padded ≠ [] := by simp [padded]
  rw [classify_of_isInconclusive hrule hpadded, classify_of_isInconclusive hrule htarget]
  refine ⟨categorize_mem_checkingOrder padded, rank_categorize_padded_le target left right, ?_⟩
  rintro ⟨group, hgroup, hshown⟩ hpolicy
  have hlast : groups.findIdx (shows (normalize padded)) = groups.length := by
    rw [← rank_categorize, hpolicy]
    rfl
  rw [List.findIdx_eq_length] at hlast
  exact Bool.eq_false_iff.mp (hlast group hgroup) (shows_normalize_padded hgroup hshown left right)

/--
A command at the end of a target, after a rule that only counts scores.
-/
theorem rank_classify_padded_le_command :
    let ruleId := "949110".toList
    let target := "/run?x=1;ls".toList
    let padded := "GET".toList ++ [' '] ++ target ++ [' '] ++ "HTTP/1.1".toList
    (ofRule (trim ruleId)).isInconclusive = true ∧ target ≠ []
      ∧ classify ruleId padded ∈ checkingOrder
      ∧ rank (classify ruleId padded) ≤ rank (classify ruleId target)
      ∧ classify ruleId padded ≠ .securityPolicyViolation := by
  intro ruleId target padded
  have hrule : (ofRule (trim ruleId)).isInconclusive = true := by decide +kernel
  have htarget : target ≠ [] := by decide
  have hshown : ∃ group ∈ groups, shows (normalize target) group = true := by decide +kernel
  obtain ⟨hmem, hrank, hpolicy⟩ :=
    rank_classify_padded_le hrule htarget "GET".toList "HTTP/1.1".toList
  exact ⟨hrule, htarget, hmem, hrank, hpolicy hshown⟩

end AttackCategory

/-! ### Percent codes and the case of letters -/

namespace Target

theorem Conceals.append_left {codes : List PercentCode} {s s' : List Char} (h : Conceals codes s s')
    (left : List Char)
    : Conceals codes (left ++ s) (left ++ s') := by
  induction left with
  | nil => exact h
  | cons c left ih => exact .keep c ih

/--
The characters that may be written as their percent code.
-/
def concealable : List Char :=
  ['<', '>', '"', Char.ofNat 0x27, '(', ')', ' ']

/--
The second target comes from the first by turning some of its ASCII letters into the other case, and by writing
some of the characters that may be so written as their percent code, with hexadecimal digits of any case.
-/
inductive Disguises : List Char → List Char → Prop where
  | nil : Disguises [] []
  | keep (c : Char) {s s' : List Char} (h : Disguises s s') : Disguises (c :: s) (c :: s')
  | turn {c : Char} (hc : c.isAlpha = true) {s s' : List Char} (h : Disguises s s') :
    Disguises (c :: s) (otherCase c :: s')
  | encode {c high low : Char} (hc : c ∈ concealable) (hhigh : isHexDigit high = true)
    (hlow : isHexDigit low = true) (hcode : ofDigitsIn 16 [high, low] = c.toNat) {s s' : List Char}
    (h : Disguises s s') :
    Disguises (c :: s) ('%' :: high :: low :: s')

theorem percentCode_mem {c : Char} (hc : c ∈ concealable) :
    ⟨Nat.digitChar (c.toNat / 16), Nat.digitChar (c.toNat % 16), c⟩ ∈ percentCodes := by
  have hall : (concealable.all fun c =>
      percentCodes.contains ⟨Nat.digitChar (c.toNat / 16), Nat.digitChar (c.toNat % 16), c⟩) = true := by
    decide
  exact List.contains_iff_mem.mp (List.all_eq_true.mp hall c hc)

theorem lowerChar_of_mem_concealable {c : Char} (hc : c ∈ concealable) : lowerChar c = [c] := by
  have hall : (concealable.all fun c => lowerChar c == [c]) = true := by decide
  exact beq_iff_eq.mp (List.all_eq_true.mp hall c hc)

/--
Once it is lowered, the spelling of a code is the one that is looked for.
-/
theorem lower_code {c high low : Char} (hhigh : isHexDigit high = true) (hlow : isHexDigit low = true)
    (hcode : ofDigitsIn 16 [high, low] = c.toNat)
    : ['%', high, low].flatMap lowerChar
        = ['%', Nat.digitChar (c.toNat / 16), Nat.digitChar (c.toNat % 16)] := by
  obtain ⟨m, hm⟩ := Option.isSome_iff_exists.mp hhigh
  obtain ⟨n, hn⟩ := Option.isSome_iff_exists.mp hlow
  have hbound : n < 16 := hexValue?_lt hn
  have hvalue : m * 16 + n = c.toNat := by
    simpa [ofDigitsIn, hm, hn] using hcode
  have hfirst : c.toNat / 16 = m := by omega
  have hsecond : c.toNat % 16 = n := by omega
  have hpercent : lowerChar '%' = ['%'] := by decide
  simp [lowerChar_of_hexValue? hm, lowerChar_of_hexValue? hn, hpercent, hfirst, hsecond]

variable {s s' : List Char}

theorem Disguises.conceals (h : Disguises s s') :
    Conceals percentCodes (s.flatMap lowerChar) (s'.flatMap lowerChar) := by
  induction h with
  | nil => exact .nil
  | keep c _ ih => exact ih.append_left (lowerChar c)
  | @turn c hc _ _ _ ih =>
    rw [List.flatMap_cons, List.flatMap_cons, (otherCase_ascii hc).2]
    exact ih.append_left (lowerChar c)
  | @encode c high low hc hhigh hlow hcode s s' _ ih =>
    have hspelled : ('%' :: high :: low :: s').flatMap lowerChar
        = ['%', high, low].flatMap lowerChar ++ s'.flatMap lowerChar := by
      simp
    rw [hspelled, lower_code hhigh hlow hcode, List.flatMap_cons, lowerChar_of_mem_concealable hc]
    exact .code (percentCode_mem hc) ih

theorem Disguises.eq_nil_iff (h : Disguises s s') : s = [] ↔ s' = [] := by
  cases h <;> simp

theorem Disguises.capitalSigma_not_mem (h : Disguises s s') (hsigma : capitalSigma ∉ s) :
    capitalSigma ∉ s' := by
  induction h with
  | nil => exact hsigma
  | keep c _ ih =>
    rw [List.mem_cons, not_or] at hsigma ⊢
    exact ⟨hsigma.1, ih hsigma.2⟩
  | turn hc _ ih =>
    rw [List.mem_cons, not_or] at hsigma ⊢
    exact ⟨(ne_capitalSigma (otherCase_ascii hc).1).symm, ih hsigma.2⟩
  | @encode c high low hc hhigh hlow _ _ _ _ ih =>
    obtain ⟨m, hm⟩ := Option.isSome_iff_exists.mp hhigh
    obtain ⟨n, hn⟩ := Option.isSome_iff_exists.mp hlow
    have hhighLow := ne_capitalSigma (toNat_lt_of_hexValue? hm)
    have hlowLow := ne_capitalSigma (toNat_lt_of_hexValue? hn)
    simp only [List.mem_cons, not_or] at hsigma ⊢
    exact ⟨by decide, hhighLow.symm, hlowLow.symm, ih hsigma.2⟩

theorem Disguises.normalize_eq (h : Disguises s s') (hsigma : capitalSigma ∉ s) :
    normalize s' = normalize s := by
  rw [normalize_eq_decode, normalize_eq_decode, lower_eq_flatMap hsigma,
    lower_eq_flatMap (h.capitalSigma_not_mem hsigma)]
  exact h.conceals.decode_eq percentCodes_distinct

end Target

namespace AttackCategory

/--
A disguised target is told the same category as the target itself, whatever rule has matched.
-/
theorem classify_disguised {target target' : List Char} (hsigma : capitalSigma ∉ target)
    (h : Disguises target target') (ruleId : List Char)
    : classify ruleId target' = classify ruleId target :=
  (classify_congr h.eq_nil_iff (h.normalize_eq hsigma).symm ruleId).symm

/--
A tag of which the bracket is written as a code behind the start of another code, and a letter is turned.
-/
theorem classify_disguised_tag :
    let target := "/%3<svg".toList
    let target' := "/%3%3CsVg".toList
    capitalSigma ∉ target ∧ Disguises target target'
      ∧ ∀ ruleId, classify ruleId target' = classify ruleId target := by
  intro target target'
  have hsigma : capitalSigma ∉ target := by decide
  have htag : Disguises "<svg".toList "%3CsVg".toList := by
    refine .encode (by decide) (by decide) (by decide) (by decide) (.keep 's' ?_)
    exact .turn (by decide) (.keep 'g' .nil)
  have hdisguised : Disguises target target' := .keep '/' (.keep '%' (.keep '3' htag))
  exact ⟨hsigma, hdisguised, classify_disguised hsigma hdisguised⟩

end AttackCategory

end WafWatch
