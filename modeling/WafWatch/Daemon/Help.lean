import WafWatch.Daemon.Options

/-!
This module contains what the program says about itself: its version and the explanation of its options.
-/

namespace WafWatch

def programName : String := "wafscope-daemon"

def programVersion : String := "0.1.0"

def programSummary : String :=
  "wafscope daemon -- module orchestration, health aggregation, and graceful shutdown"

def versionText : String := s!"{programName} {programVersion}\n"

def usageText : String := s!"Usage: {programName} [OPTIONS]"

namespace OptionForm

def longText (form : OptionForm) : String :=
  match form.value with
  | some value => s!"--{form.long} <{value}>"
  | none => s!"--{form.long}"

/--
All forms of an option. Where there is no letter, room is left for it.
-/
def heading (form : OptionForm) : String :=
  match form.short with
  | some c => "  -" ++ String.ofList [c] ++ ", " ++ form.longText
  | none => "      " ++ form.longText

def blanks (n : Nat) : String := String.ofList (List.replicate n ' ')

def headingWidth : Nat :=
  (all.map (·.heading.length)).foldl max 0

/--
An option on one line, with all summaries in one column.
-/
def brief (form : OptionForm) : String :=
  form.heading ++ blanks (headingWidth - form.heading.length + 2) ++ form.summary ++ "\n"

def detailed (form : OptionForm) : String :=
  let margin := blanks 10
  let paragraphs := if form.details.isEmpty then [form.summary] else form.details
  form.heading ++ "\n" ++ margin ++ ("\n" ++ margin ++ "\n" ++ margin).intercalate paragraphs ++ "\n"

end OptionForm

def helpText (detailed : Bool) : String :=
  let options :=
    if detailed then "\n".intercalate (OptionForm.all.map OptionForm.detailed)
    else String.join (OptionForm.all.map OptionForm.brief)
  programSummary ++ "\n\n" ++ usageText ++ "\n\nOptions:\n" ++ options

end WafWatch
