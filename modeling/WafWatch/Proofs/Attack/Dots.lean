import WafWatch.Proofs.Attack.Target
import WafWatch.Proofs.Attack.Verdict
import WafWatch.Proofs.Text.Lowered
import WafWatch.Proofs.Text.Search

/-!
This module contains which ways to write two dots show that a request climbs out of a directory. Two dots are found if
both are written in the same way, whatever the case of their codes. A dot beside the code of a dot is not found.
-/

namespace WafWatch

open WafWatch.Text
open WafWatch.Target

/-! ### Words that the codes leave alone -/

namespace Target

/--
No code is a part of the word or reaches into it, and none makes a part of it.
-/
structure Survives (codes : List PercentCode) (word : List Char) : Prop where
  kept : ∀ rest, decode codes (word ++ rest) = word ++ decode codes rest
  head_ne : ∀ code ∈ codes, word.head? ≠ some code.high ∧ word.head? ≠ some code.low
  char_not_mem : ∀ code ∈ codes, code.char ∉ word

variable {codes : List PercentCode} {word s : List Char}

theorem Survives.infix_decode (hword : Survives codes word) (hne : word ≠ []) (hcodes : Distinct codes)
    (h : word <:+: s)
    : word <:+: decode codes s := by
  have hstart {rest : List Char} (hstarts : word <+: rest) : word <:+: decode codes rest := by
    obtain ⟨right, rfl⟩ := hstarts
    rw [hword.kept]
    exact (List.prefix_append _ _).isInfix
  obtain ⟨d, more, rfl⟩ := List.exists_cons_of_ne_nil hne
  induction s using decode_induction codes with
  | nil => exact h
  | keep c rest hkeep ih =>
    rcases List.infix_cons_iff.mp h with hhere | hlater
    . exact hstart hhere
    . rw [decode_keep hkeep]
      exact (ih hlater).trans (List.suffix_cons _ _).isInfix
  | code code hcode rest ih =>
    -- the word may start with the percent sign of the code, but not with one of its digits
    obtain ⟨hhigh, hlow⟩ := hword.head_ne code hcode
    rcases List.infix_cons_iff.mp h with hhere | hlater
    . exact hstart hhere
    rcases List.infix_cons_iff.mp hlater with hhere | hlater
    . exact absurd (congrArg some (List.cons_prefix_cons.mp hhere).1) hhigh
    rcases List.infix_cons_iff.mp hlater with hhere | hlater
    . exact absurd (congrArg some (List.cons_prefix_cons.mp hhere).1) hlow
    . rw [decode_code hcodes hcode]
      exact (ih hlater).trans (List.suffix_cons _ _).isInfix

theorem Survives.infix_of_infix_decode (hword : Survives codes word) (hcodes : Distinct codes)
    (h : word <:+: decode codes s)
    : word <:+: s := by
  have hchar : ∀ c ∈ word, ∀ code ∈ codes, code.char ≠ c := by
    rintro c hc code hcode rfl
    exact hword.char_not_mem code hcode hc
  have hstart {s : List Char} (hstarts : word <+: decode codes s) : word <:+: s :=
    (prefix_of_prefix_decode hcodes hchar hstarts).isInfix
  induction s using decode_induction codes with
  | nil => exact h
  | keep c rest hkeep ih =>
    have hhead := hstart (s := c :: rest)
    rw [decode_keep hkeep] at h hhead
    rcases List.infix_cons_iff.mp h with hhere | hlater
    . exact hhead hhere
    . exact (ih hlater).trans (List.suffix_cons _ _).isInfix
  | code code hcode rest ih =>
    have hhead := hstart (s := '%' :: code.high :: code.low :: rest)
    rw [decode_code hcodes hcode] at h hhead
    rcases List.infix_cons_iff.mp h with hhere | hlater
    . exact hhead hhere
    . exact (ih hlater).trans (List.suffix_append ['%', code.high, code.low] rest).isInfix

/--
A word that the codes leave alone is found in the normal form of a target exactly if it stands in the target, with its
letters in any case.
-/
theorem infix_normalize_iff (hne : word ≠ []) (hascii : ∀ d ∈ word, OnlyFromAscii d)
    (hword : Survives percentCodes word)
    : word <:+: normalize s ↔ ∃ part, part <:+: s ∧ part.map Char.toLower = word := by
  rw [normalize_eq_decode, ← infix_lower_iff hne hascii]
  exact ⟨hword.infix_of_infix_decode percentCodes_distinct, hword.infix_decode hne percentCodes_distinct⟩

end Target

/-! ### Two dots -/

namespace Heuristics

open WafWatch.Text.Pattern

/--
The ways to write a dot in a request target.
-/
def dotSpellings : List (List Char) :=
  [".".toList, "%2e".toList, "%2E".toList]

/--
Two dots stand side by side in the target, each of them written in any way.
-/
def HasDots (target : List Char) : Prop :=
  ∃ first ∈ dotSpellings, ∃ second ∈ dotSpellings, first ++ second <:+: target

/--
Two dots stand side by side in the target, and both or none of them are written as a code.
-/
def HasLikeDots (target : List Char) : Prop :=
  ∃ first ∈ dotSpellings, ∃ second ∈ dotSpellings,
    first.map Char.toLower = second.map Char.toLower ∧ first ++ second <:+: target

/--
What the spellings of a dot come to in lower case.
-/
def loweredDots : List (List Char) :=
  [".".toList, "%2e".toList]

theorem mem_dotSpellings_iff {spelling : List Char} :
    spelling ∈ dotSpellings ↔ spelling.map Char.toLower ∈ loweredDots := by
  constructor
  . have hall : ∀ spelling ∈ dotSpellings, spelling.map Char.toLower ∈ loweredDots := by decide
    exact hall spelling
  . intro hlowered
    -- only the letter of the code has another case
    rcases List.mem_cons.mp hlowered with hplain | hcode
    . obtain ⟨dot, rest, rfl, hdot, hrest⟩ := List.map_eq_cons_iff.mp hplain
      obtain rfl := List.map_eq_nil_iff.mp hrest
      obtain rfl : dot = '.' := or_self_iff.mp (eq_or_eq_toUpper_of_toLower (by decide) hdot)
      decide
    . obtain ⟨percent, rest, rfl, hpercent, hrest⟩ := List.map_eq_cons_iff.mp (List.mem_singleton.mp hcode)
      obtain ⟨high, rest, rfl, hhigh, hrest⟩ := List.map_eq_cons_iff.mp hrest
      obtain ⟨low, rest, rfl, hlow, hrest⟩ := List.map_eq_cons_iff.mp hrest
      obtain rfl := List.map_eq_nil_iff.mp hrest
      obtain rfl : percent = '%' := or_self_iff.mp (eq_or_eq_toUpper_of_toLower (by decide) hpercent)
      obtain rfl : high = '2' := or_self_iff.mp (eq_or_eq_toUpper_of_toLower (by decide) hhigh)
      rcases eq_or_eq_toUpper_of_toLower (by decide) hlow with rfl | rfl
      . decide
      . decide

theorem hasLikeDots_iff {target : List Char}
    : HasLikeDots target
        ↔ ∃ dot ∈ loweredDots, ∃ part, part <:+: target ∧ part.map Char.toLower = dot ++ dot := by
  constructor
  . rintro ⟨first, hfirst, second, -, hlike, hinfix⟩
    refine ⟨first.map Char.toLower, mem_dotSpellings_iff.mp hfirst, first ++ second, hinfix, ?_⟩
    rw [List.map_append, hlike]
  . rintro ⟨dot, hdot, part, hinfix, hpart⟩
    obtain ⟨first, second, rfl, hfirst, hsecond⟩ := List.map_eq_append_iff.mp hpart
    refine ⟨first, mem_dotSpellings_iff.mpr (hfirst ▸ hdot), second, mem_dotSpellings_iff.mpr (hsecond ▸ hdot), ?_, hinfix⟩
    rw [hfirst, hsecond]

/-! ### Looking for dots -/

/--
The code of a dot is none of those that are replaced.
-/
theorem decode_dot {dot : List Char} (hdot : dot ∈ loweredDots) (rest : List Char) :
    decode percentCodes (dot ++ rest) = dot ++ decode percentCodes rest := by
  have hcode : ∀ rest, NoneAt percentCodes ('2' :: 'e' :: rest) := by
    have hnone : percentCodes.find? (fun code => '2' == code.high && 'e' == code.low) = none := by decide
    exact fun rest => find?_eq_none_iff.mp hnone
  rcases List.mem_cons.mp hdot with rfl | hcoded
  . exact decode_keep (fun hc => absurd hc (by decide))
  . rw [List.mem_singleton.mp hcoded]
    have hpercent := decode_keep (c := '%') fun _ => hcode rest
    have hhigh : decode percentCodes ('2' :: 'e' :: rest) = '2' :: decode percentCodes ('e' :: rest) :=
      decode_keep (fun hc => absurd hc (by decide))
    have hlow : decode percentCodes ('e' :: rest) = 'e' :: decode percentCodes rest :=
      decode_keep (fun hc => absurd hc (by decide))
    rw [hhigh, hlow] at hpercent
    exact hpercent

theorem survives_dots {dot : List Char} (hdot : dot ∈ loweredDots) : Survives percentCodes (dot ++ dot) where
  kept rest := by rw [List.append_assoc, decode_dot hdot, decode_dot hdot, List.append_assoc]
  head_ne := by
    have hall : ∀ dot ∈ loweredDots, ∀ code ∈ percentCodes,
        (dot ++ dot).head? ≠ some code.high ∧ (dot ++ dot).head? ≠ some code.low := by
      decide
    exact hall dot hdot
  char_not_mem := by
    have hall : ∀ dot ∈ loweredDots, ∀ code ∈ percentCodes, code.char ∉ dot ++ dot := by decide
    exact hall dot hdot

theorem infix_normalize_dots_iff {dot target : List Char} (hdot : dot ∈ loweredDots) :
    dot ++ dot <:+: normalize target ↔ ∃ part, part <:+: target ∧ part.map Char.toLower = dot ++ dot := by
  have hall : ∀ dot ∈ loweredDots, dot ++ dot ≠ [] ∧ (dot ++ dot).all (fun d => OnlyFromAscii d) = true := by decide
  obtain ⟨hne, hascii⟩ := hall dot hdot
  simp only [List.all_eq_true, decide_eq_true_eq] at hascii
  exact infix_normalize_iff hne hascii (survives_dots hdot)

theorem foundIn_pathTraversal {s : List Char} :
    pathTraversal.foundIn s = true ↔ ∃ dot ∈ loweredDots, dot ++ dot <:+: s := by
  have hpattern : pathTraversal = .either (.text "..".toList) (.text "%2e%2e".toList) := rfl
  rw [hpattern, foundIn_either, foundIn_text, foundIn_text]
  simp [loweredDots]

/--
A target shows that it climbs out of a directory exactly if it has two dots that are written in the same way.
-/
theorem shows_pathTraversal_iff {target : List Char} :
    shows (normalize target) (.pathTraversal, pathTraversal) = true ↔ HasLikeDots target := by
  have hshows : shows (normalize target) (.pathTraversal, pathTraversal) = pathTraversal.foundIn (normalize target) :=
    Bool.and_true _
  rw [hshows, foundIn_pathTraversal, hasLikeDots_iff]
  exact exists_congr fun dot => and_congr_right infix_normalize_dots_iff

end Heuristics

namespace AttackCategory

open WafWatch.Heuristics

variable {ruleId target : List Char}

/--
After a rule that does not tell the kind of attack, a target with two dots that are written in the same way never is a
mere violation of policy. Any other target is one exactly if it shows none of the other attacks, whatever dots it has.
-/
theorem classify_like_dots (hrule : (ofRule (trim ruleId)).isInconclusive = true) (target : List Char)
    : (HasLikeDots target → classify ruleId target ≠ .securityPolicyViolation)
        ∧ (target ≠ [] → (classify ruleId target = .securityPolicyViolation
            ↔ ¬HasLikeDots target
                ∧ ∀ group ∈ groups, group.1 ≠ .pathTraversal → shows (normalize target) group = false)) := by
  have hpolicy (htarget : target ≠ []) : classify ruleId target = .securityPolicyViolation
      ↔ ¬HasLikeDots target
          ∧ ∀ group ∈ groups, group.1 ≠ .pathTraversal → shows (normalize target) group = false := by
    have hgroup : (.pathTraversal, Heuristics.pathTraversal) ∈ groups := by decide
    have honly : ∀ group ∈ groups, group.1 = .pathTraversal → group = (.pathTraversal, Heuristics.pathTraversal) := by
      decide
    rw [classify_of_isInconclusive hrule htarget, categorize_eq_securityPolicyViolation_iff, ← shows_pathTraversal_iff,
      Bool.not_eq_true]
    constructor
    . exact fun hnothing => ⟨hnothing _ hgroup, fun group hmem _ => hnothing group hmem⟩
    . rintro ⟨hdots, hothers⟩ group hmem
      by_cases hcategory : group.1 = .pathTraversal
      . rw [honly group hmem hcategory]
        exact hdots
      . exact hothers group hmem hcategory
  refine ⟨?_, hpolicy⟩
  intro hdots hviolation
  have htarget : target ≠ [] := by
    rintro rfl
    obtain ⟨first, hfirst, second, -, -, hinfix⟩ := hdots
    have hempty := List.infix_nil.mp hinfix
    rw [List.append_eq_nil_iff] at hempty
    rw [hempty.1] at hfirst
    revert hfirst
    decide
  exact ((hpolicy htarget).mp hviolation).1 hdots

/--
Both dots are written as codes, in different cases.
-/
theorem classify_like_dots_coded :
    let ruleId := " 949110".toList
    let target := "/static/%2E%2e/etc/hosts".toList
    (ofRule (trim ruleId)).isInconclusive = true ∧ HasLikeDots target ∧ target ≠ []
      ∧ classify ruleId target ≠ .securityPolicyViolation := by
  intro ruleId target
  have hrule : (ofRule (trim ruleId)).isInconclusive = true := by decide +kernel
  have hdots : HasLikeDots target :=
    ⟨"%2E".toList, by decide, "%2e".toList, by decide, by decide, "/static/".toList, "/etc/hosts".toList, by decide⟩
  exact ⟨hrule, hdots, by decide, (classify_like_dots hrule target).1 hdots⟩

/--
A dot beside the code of a dot is not found.
-/
theorem classify_unlike_dots :
    ¬∀ ruleId target, (ofRule (trim ruleId)).isInconclusive = true → HasDots target →
      classify ruleId target ≠ .securityPolicyViolation := by
  intro h
  have hdots : HasDots "/static/.%2e/%2E./etc/hosts".toList :=
    ⟨".".toList, by decide, "%2e".toList, by decide, "/static/".toList, "/%2E./etc/hosts".toList, by decide⟩
  exact h [] _ (by decide +kernel) hdots (by decide +kernel)

end AttackCategory

end WafWatch
