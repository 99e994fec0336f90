import WafWatch.Host.Basic

/-!
This module holds the names of signals and the written form of exit statuses.
-/

namespace WafWatch

namespace Signal

/--
The names of the signals from 1 on, without the letters that all of them start with.
-/
def names : List String :=
  ["HUP", "INT", "QUIT", "ILL", "TRAP", "ABRT", "BUS", "FPE", "KILL", "USR1", "SEGV", "USR2",
    "PIPE", "ALRM", "TERM", "STKFLT", "CHLD", "CONT", "STOP", "TSTP", "TTIN", "TTOU", "URG",
    "XCPU", "XFSZ", "VTALRM", "PROF", "WINCH", "IO", "PWR", "SYS"]

def name? (n : Nat) : Option String :=
  if n == 0 then none else names[n - 1]?

end Signal

namespace ExitStatus

def isSuccess : ExitStatus → Bool
  | .code n => n == 0
  | .signal _ => false

def display : ExitStatus → String
  | .code n => s!"exit status: {n}"
  | .signal n =>
    match Signal.name? n with
    | some name => s!"signal: {n} (SIG{name})"
    | none => s!"signal: {n}"

end ExitStatus

end WafWatch
