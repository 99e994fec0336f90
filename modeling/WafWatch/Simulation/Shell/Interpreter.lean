import WafWatch.Host.Signal
import WafWatch.Simulation.Shell.Program
import WafWatch.Simulation.Shell.Script

/-!
This module contains the running of shell scripts.
-/

namespace WafWatch.Simulation

open WafWatch.Text

/--
How a shell goes on after a command.
-/
inductive Flow where
  | goesOn
  | exits
  | killed (signal : Nat)
  /-- It does not come to an end. -/
  | hangs
  deriving DecidableEq, Repr

/--
The state of a shell.
-/
structure Shell where
  bindings : List (List Char × List Char) := []
  status : Nat := 0
  output : List UInt8 := []
  errors : List UInt8 := []
  millis : Nat := 0
  flow : Flow := .goesOn

namespace Shell

/--
The number by which the shell is known to the machine.
-/
def processNumber : List Char :=
  "4242".toList

/-! ### Words -/

def value (s : Shell) (name : List Char) : List Char :=
  match name with
  | ['?'] => showNat s.status
  | ['$'] => processNumber
  | _ => (s.bindings.lookup name).getD []

/--
The value of a sum of variables and numbers, of which a part is given.
-/
def evaluate (s : Shell) (sum : Int) (sign : Int) (name : List Char) : List Char → Int
  | [] => sum + sign * operand name
  | c :: rest =>
    if c == '+' then s.evaluate (sum + sign * operand name) 1 [] rest
    else if c == '-' then s.evaluate (sum + sign * operand name) (-1) [] rest
    else if isNameChar c then s.evaluate sum sign (name ++ [c]) rest
    else s.evaluate sum sign name rest
where
  operand (name : List Char) : Int :=
    if name.all Char.isDigit then ofDigits name else ofDigits (s.value name)

def expand (s : Shell) (word : Word) : List Char :=
  word.flatMap fun
    | .char c => [c]
    | .variable name => s.value name
    | .arithmetic expression => showInt (s.evaluate 0 1 [] expression)

/-! ### Output -/

def write (s : Shell) (target : Target) (octets : List UInt8) : Shell :=
  match target with
  | .toOutput => { s with output := s.output ++ octets }
  | .toErrors => { s with errors := s.errors ++ octets }
  | .nowhere => s

/--
Where output and errors go after some redirections, each of which looks at those before it.
-/
def streamsAfter (redirections : List Redirection) : Target × Target :=
  redirections.foldl (fun (output, errors) redirection =>
    let target := match redirection.target with
      | .toOutput => output
      | .toErrors => errors
      | .nowhere => .nowhere
    if redirection.source == .toErrors then (output, target) else (target, errors)) (.toOutput, .toErrors)

def absorb (s : Shell) (redirections : List Redirection) (ran : Ran) : Shell :=
  let (output, errors) := streamsAfter redirections
  let s := (s.write output ran.output).write errors ran.errors
  { s with status := ran.status, millis := s.millis + ran.millis }

/-! ### Commands -/

def signalOf? (s : List Char) : Option Nat :=
  (readNumeral? 64 s).orElse fun _ => (Signal.names.findIdx? (·.toList == s)).map (· + 1)

/--
Send a signal to the shell, which ends that.
-/
def kill (s : Shell) (arguments : List (List Char)) : Shell :=
  match arguments with
  | ['-' :: name, process] =>
    match signalOf? name with
    | some signal =>
      if process == processNumber then { s with flow := .killed signal } else { s with status := 1 }
    | none => { s with status := 2 }
  | _ => { s with status := 2 }

def runWords (s : Shell) (disk : Disk) (redirections : List Redirection) :
    List (List Char) → Shell
  | [] => s
  | name :: arguments =>
    match String.ofList name with
    | "exit" =>
      { s with status := (arguments.head?.map ofDigits).getD s.status % 256, flow := .exits }
    | "kill" => s.kill arguments
    | program =>
      match findProgram disk program with
      | .ok found => s.absorb redirections (runProgram (!name.contains '/') found arguments)
      | .error _ => s.absorb redirections (.failure 127 s!"sh: 1: {program}: not found")

def assignAll (s : Shell) (assignments : List (List Char × Word)) : Shell :=
  assignments.foldl (fun s (name, word) =>
    { s with bindings := Disk.put name (s.expand word) s.bindings, status := 0 }) s

def run (disk : Disk) (fuel : Nat) (s : Shell) (command : Command) : Shell :=
  match fuel with
  | 0 => { s with flow := .hangs }
  | fuel + 1 =>
    if s.flow != .goesOn then s
    else
      match command with
      | .nothing => s
      | .simple assignments words redirections =>
        let words := words.map s.expand
        (s.assignAll assignments).runWords disk redirections words
      | .sequence first second => run disk fuel (run disk fuel s first) second
      | .andThen first second =>
        let s := run disk fuel s first
        if s.status == 0 then run disk fuel s second else s
      | .orElse first second =>
        let s := run disk fuel s first
        if s.status == 0 then s else run disk fuel s second
      | .loop condition body =>
        let s := run disk fuel s condition
        if s.flow != .goesOn then s
        else if s.status == 0 then run disk fuel (run disk fuel s body) (.loop condition body)
        else { s with status := 0 }

def runScript (disk : Disk) (fuel : Nat) (script : List Char) : Shell :=
  match readScript? script with
  | some command => run disk fuel {} command
  | none => { status := 2, errors := "sh: 1: Syntax error\n".toUTF8.toList }

end Shell

/--
The number of steps after which a script counts as not coming to an end.
-/
def maxSteps : Nat := 20000

/--
What comes of a program that is run on its own, without input.
-/
def runCommand (disk : Disk) (program : String) (arguments : List String) (timeout : Time.Span) :
    CommandResult :=
  let words := arguments.map String.toList
  let ended (millis : Nat) (status : ExitStatus) (output errors : List UInt8) : CommandResult :=
    if timeout.millis ≤ millis then .timedOut else .finished status output errors
  if (program.toList :: words).any (·.contains '\x00') then
    .notStarted (.other "nul byte found in provided data")
  else
    match findProgram disk program, words with
    | .error error, _ => .notStarted error
    | .ok "sh", ['-', 'c'] :: script :: _ =>
      let s := Shell.runScript disk maxSteps script
      match s.flow with
      | .hangs => .timedOut
      | .killed signal => ended s.millis (.signal signal) s.output s.errors
      | _ => ended s.millis (.code s.status) s.output s.errors
    | .ok name, _ =>
      let ran := runProgram false name words
      ended ran.millis (.code ran.status) ran.output ran.errors

end WafWatch.Simulation
