import WafWatch.Attack.Heuristics
import WafWatch.Text.Blank
import WafWatch.Text.Numeral

/-!
This module contains the classification of blocked requests. The identifier of the rule that matched
decides if it tells the kind of attack; otherwise the request target is looked at.
-/

namespace WafWatch.AttackCategory

open WafWatch.Text

def ruleRanges : List (Nat × Nat × AttackCategory) :=
  [(913000, 913999, .scannerDetection),
    (920000, 920999, .protocolViolation),
    (921000, 921999, .protocolAnomaly),
    (930000, 930999, .localFileInclusion),
    (931000, 931999, .remoteFileInclusion),
    (932000, 932999, .commandInjection),
    (933000, 933999, .phpInjection),
    (941000, 941999, .crossSiteScripting),
    (942000, 942999, .sqlInjection),
    (943000, 943999, .sessionFixation),
    (944000, 944999, .javaInjection),
    (949110, 949110, .anomalyScoreExceeded)]

def ofRuleNumber (n : Nat) : AttackCategory :=
  match ruleRanges.find? fun (low, high, _) => low ≤ n && n ≤ high with
  | some (_, _, category) => category
  | none => .unknown

/--
The parts of a rule name that tell a category, in the order in which they are looked for.
-/
def ruleHints : List (String × AttackCategory) :=
  [("sqli", .sqlInjection),
    ("xss", .crossSiteScripting),
    ("rce", .commandInjection),
    ("cmd", .commandInjection),
    ("lfi", .localFileInclusion),
    ("rfi", .remoteFileInclusion)]

def ofRuleName (name : List Char) : AttackCategory :=
  match ruleHints.find? fun hint => hasPart hint.1.toList (lower name) with
  | some (_, category) => category
  | none => .unknown

/--
The category that a rule identifier tells: a number of at most 64 bits, or a name.
-/
def ofRule (ruleId : List Char) : AttackCategory :=
  match readNumeral? (UInt64.size - 1) ruleId with
  | some n => ofRuleNumber n
  | none => ofRuleName ruleId

def classify (ruleId target : List Char) : AttackCategory :=
  let ruleId := trim ruleId
  if ruleId.isEmpty && target.isEmpty then .unknown
  else
    let byRule := ofRule ruleId
    if byRule.isInconclusive then Heuristics.categorize target else byRule

end WafWatch.AttackCategory
