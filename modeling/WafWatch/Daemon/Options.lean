import WafWatch.Text.Scan

/-!
This module contains the options of the command line. A value belongs to the option before it as soon as it
has been read, but it is judged only when the next option has been recognised or the arguments have ended;
so of two mistakes the one that is found first counts.
-/

namespace WafWatch

/--
The options.
-/
inductive OptionName where
  | config
  | logLevel
  | logFormat
  | validate
  | help
  | version
  deriving DecidableEq, Repr, Inhabited

/--
How an option is written and explained.
-/
structure OptionForm where
  name : OptionName
  long : String
  short : Option Char := none
  /-- The name of the value, if the option takes one. -/
  value : Option String := none
  summary : String
  /-- What a detailed explanation says in the place of the summary, by paragraphs. -/
  details : List String := []
  deriving DecidableEq, Repr, Inhabited

namespace OptionForm

def all : List OptionForm := [
  { name := .config
    long := "config"
    short := some 'c'
    value := some "CONFIG"
    summary := "Path to wafscope.toml configuration file"
    details := ["Path to wafscope.toml configuration file.",
      "When omitted, built-in defaults are used (environment overrides still apply)."] },
  { name := .logLevel
    long := "log-level"
    value := some "LOG_LEVEL"
    summary := "Override log level (trace, debug, info, warn, error)"
    details := ["Override log level (trace, debug, info, warn, error).",
      "Takes precedence over the config file and environment variables."] },
  { name := .logFormat
    long := "log-format"
    value := some "LOG_FORMAT"
    summary := "Override log format (json, pretty)"
    details := ["Override log format (json, pretty).",
      "Takes precedence over the config file and environment variables."] },
  { name := .validate
    long := "validate"
    summary := "Validate configuration and exit without starting the daemon" },
  { name := .help
    long := "help"
    short := some 'h'
    summary := "Print help (see more with \x27--help\x27)"
    details := ["Print help (see a summary with \x27-h\x27)"] },
  { name := .version
    long := "version"
    short := some 'V'
    summary := "Print version" }]

def ofLong? (long : List Char) : Option OptionForm :=
  all.find? (·.long.toList == long)

def ofShort? (short : Char) : Option OptionForm :=
  all.find? (·.short == some short)

def takesValue (form : OptionForm) : Bool :=
  form.value.isSome

end OptionForm

/--
What the options say.
-/
structure Options where
  config : Option String := none
  logLevel : Option String := none
  logFormat : Option String := none
  validate : Bool := false
  deriving DecidableEq, Repr, Inhabited

/--
What is wrong with arguments.
-/
inductive UsageError where
  | unknownArgument (argument : String)
  /-- An option has no value, or an empty one where that means nothing. -/
  | missingValue (option : OptionName)
  | repeated (option : OptionName)
  /-- An option that takes no value has one. -/
  | unexpectedValue (option : OptionName)
  deriving DecidableEq, Repr, Inhabited

/--
What arguments ask for.
-/
inductive Invocation where
  | run (options : Options)
  | help (detailed : Bool)
  | version
  deriving DecidableEq, Repr, Inhabited

/--
Why the reading of arguments ends before their end.
-/
inductive Interruption where
  | refused (error : UsageError)
  | help (detailed : Bool)
  | version
  deriving DecidableEq, Repr, Inhabited

/--
Arguments that have been read in part.
-/
structure OptionsDraft where
  options : Options := {}
  /-- The option that has not been judged yet, with its value if that has been read. -/
  pending : Option (OptionName × Option String) := none
  deriving DecidableEq, Repr, Inhabited

namespace OptionsDraft

/--
Judge the value of an option, and take it over.
-/
def accept (draft : OptionsDraft) (name : OptionName) (value : String) :
    Except Interruption OptionsDraft :=
  let repeated : Except Interruption OptionsDraft := .error (.refused (.repeated name))
  let options := draft.options
  match name with
  | .config =>
    if options.config.isSome then repeated
    else if value.isEmpty then .error (.refused (.missingValue name))
    else .ok { draft with options := { options with config := some value } }
  | .logLevel =>
    if options.logLevel.isSome then repeated
    else .ok { draft with options := { options with logLevel := some value } }
  | .logFormat =>
    if options.logFormat.isSome then repeated
    else .ok { draft with options := { options with logFormat := some value } }
  | _ => .error (.refused (.unexpectedValue name))

/--
Judge the option that has not been judged yet.
-/
def flush (draft : OptionsDraft) : Except Interruption OptionsDraft :=
  match draft.pending with
  | none => .ok draft
  | some (name, none) => .error (.refused (.missingValue name))
  | some (name, some value) => { draft with pending := none }.accept name value

def flag (draft : OptionsDraft) (name : OptionName) (detailed : Bool) :
    Except Interruption OptionsDraft := do
  let draft ← draft.flush
  match name with
  | .validate =>
    if draft.options.validate then .error (.refused (.repeated name))
    else .ok { draft with options := { draft.options with validate := true } }
  | .help => .error (.help detailed)
  | .version => .error .version
  | _ => .error (.refused (.missingValue name))

/--
Take over an option that takes a value, which may be attached to it.
-/
def option (draft : OptionsDraft) (name : OptionName) (attached : Option (List Char)) :
    Except Interruption OptionsDraft := do
  let draft ← draft.flush
  match attached with
  | some value => draft.accept name (String.ofList value)
  | none => .ok { draft with pending := some (name, none) }

def readLong (draft : OptionsDraft) (long : List Char) (attached : Option (List Char)) :
    Except Interruption OptionsDraft :=
  match OptionForm.ofLong? long, attached with
  | none, _ => .error (.refused (.unknownArgument ("--" ++ String.ofList long)))
  | some form, attached =>
    if form.takesValue then draft.option form.name attached
    else
      match attached with
      | some _ => .error (.refused (.unexpectedValue form.name))
      | none => draft.flag form.name true

/--
The value that is attached to a letter: an equals sign before it does not belong to it.
-/
def attachedValue : List Char → Option (List Char)
  | [] => none
  | '=' :: rest => some rest
  | value => some value

/--
Read options under their letters. What follows an option that takes a value is the value.
-/
def readShort (draft : OptionsDraft) : List Char → Except Interruption OptionsDraft
  | [] => .ok draft
  | c :: rest =>
    match OptionForm.ofShort? c with
    | none => .error (.refused (.unknownArgument (String.ofList ['-', c])))
    | some form =>
      if form.takesValue then draft.option form.name (attachedValue rest)
      else
        match draft.flag form.name false with
        | .error interruption => .error interruption
        | .ok draft => draft.readShort rest

/--
Read an argument that is no option: the value of the option before it.
-/
def readValue (draft : OptionsDraft) (argument : String) : Except Interruption OptionsDraft :=
  match draft.pending with
  | some (name, none) => .ok { draft with pending := some (name, some argument) }
  | _ => .error (.refused (.unknownArgument argument))

def readArgument (draft : OptionsDraft) (argument : String) : Except Interruption OptionsDraft :=
  match argument.toList with
  | '-' :: '-' :: rest =>
    let long := rest.takeWhile (· != '=')
    let attached := (rest.dropWhile (· != '=')).tail?
    draft.readLong long attached
  | '-' :: c :: rest => draft.readShort (c :: rest)
  | _ => draft.readValue argument

/--
Read arguments. After two hyphens that stand alone nothing may follow.
-/
def read (draft : OptionsDraft) : List String → Except Interruption OptionsDraft
  | [] => draft.flush
  | "--" :: [] => draft.flush
  | "--" :: argument :: _ => .error (.refused (.unknownArgument argument))
  | argument :: rest =>
    match draft.readArgument argument with
    | .error interruption => .error interruption
    | .ok draft => draft.read rest

end OptionsDraft

def Invocation.parse (arguments : List String) : Except UsageError Invocation :=
  match OptionsDraft.read {} arguments with
  | .ok draft => .ok (.run draft.options)
  | .error (.refused error) => .error error
  | .error (.help detailed) => .ok (.help detailed)
  | .error .version => .ok .version

end WafWatch
