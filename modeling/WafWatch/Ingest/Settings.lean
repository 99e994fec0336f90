import WafWatch.Json.Decoding
import WafWatch.Json.Value
import WafWatch.Settings.Validation
import WafWatch.Source.Basic

/-!
This module contains the settings that a log pipeline runs on: how they come from the settings of the
daemon, from JSON or from changes to the defaults, what is demanded of them, and the source that they
describe.
-/

namespace WafWatch

open WafWatch.Json

/-! ### Kinds of sources -/

/--
The kinds of sources that settings can name.
-/
inductive SourceKind where
  | file
  | command
  | demo
  deriving DecidableEq, Repr, Inhabited

namespace SourceKind

def name : SourceKind → String
  | .file => "file"
  | .command => "command"
  | .demo => "demo"

def all : List SourceKind := [.file, .command, .demo]

def ofName? (name : String) : Option SourceKind :=
  all.find? (·.name == name)

def read (name : String) : Except IngestError SourceKind :=
  match ofName? name with
  | some kind => .ok kind
  | none =>
    .error (.setting "source"
      ("unknown source \x27" ++ name ++ "\x27, expected file, command or demo"))

def decode (node : Node) : Decoded SourceKind := do
  let name ← node.variant (all.map SourceKind.name)
  pure ((ofName? name).getD default)

end SourceKind

/-! ### Settings -/

/--
The settings of a log pipeline.
-/
structure PipelineSettings where
  enabled : Bool
  source : SourceKind
  logFile : String
  command : List String
  commandTimeoutSecs : Nat
  pollIntervalSecs : Nat
  storeCapacity : Nat
  demoFallback : Bool
  maxLineLength : Nat
  deriving DecidableEq, Repr, Inhabited

namespace PipelineSettings

def ofKind (kind : SourceKind) (s : IngestSettings) : PipelineSettings where
  enabled := s.enabled
  source := kind
  logFile := s.logFile
  command := s.command
  commandTimeoutSecs := s.commandTimeoutSecs
  pollIntervalSecs := s.pollIntervalSecs
  storeCapacity := s.storeCapacity
  demoFallback := s.demoFallback
  maxLineLength := s.maxLineLength

def ofIngest (s : IngestSettings) : Except IngestError PipelineSettings :=
  (SourceKind.read s.source).map fun kind => ofKind kind s

def standard : PipelineSettings :=
  ofKind .file {}

/-! ### Validation -/

def pathParts (path : List Char) : List (List Char) :=
  match path with
  | [] => [[]]
  | '/' :: rest => [] :: pathParts rest
  | c :: rest =>
    match pathParts rest with
    | [] => [[c]]
    | part :: parts => (c :: part) :: parts

def logFileChecks (path : String) : List Check := [
  ⟨"log_file", "log file path must not be empty", !path.isEmpty⟩,
  ⟨"log_file", "log file path \x27" ++ path ++ "\x27 contains path traversal pattern \x27..\x27",
    !(pathParts path.toList).contains ['.', '.']⟩,
  ⟨"log_file", "log file path \x27" ++ path ++ "\x27 must be absolute",
    path.toList.head? == some '/'⟩]

def commandChecks (s : PipelineSettings) : List Check := [
  ⟨"command", "command must name a program when source is \x27command\x27",
    s.command.head?.any (!·.isEmpty)⟩,
  .positive "command_timeout_secs" s.commandTimeoutSecs]

/--
The checks that the settings have to pass. What a source does not use is not checked.
-/
def checks (s : PipelineSettings) : List Check :=
  [.upTo "store_capacity" maxStoreCapacity s.storeCapacity,
    .upTo "poll_interval_secs" maxPollIntervalSecs s.pollIntervalSecs,
    .positive "max_line_length" s.maxLineLength] ++
  match s.source with
  | .file => logFileChecks s.logFile
  | .command => s.commandChecks
  | .demo => []

def validate (s : PipelineSettings) : Except IngestError Unit :=
  match Check.firstFailure s.checks with
  | some check => .error (.setting check.field check.demand)
  | none => .ok ()

def build (s : PipelineSettings) : Except IngestError PipelineSettings := do
  s.validate
  pure s

/-! ### The source -/

def pollInterval (s : PipelineSettings) : Time.Span :=
  .ofSeconds s.pollIntervalSecs

def primarySource (s : PipelineSettings) : Except IngestError LogSource :=
  match s.source with
  | .file => .ok (.file { path := s.logFile, limit := s.maxLineLength })
  | .command =>
    (CommandTail.ofCommand s.command (.ofSeconds s.commandTimeoutSecs)).map .command
  | .demo => .ok (.demo false)

/--
The source that the settings describe. The demonstration lines need no fallback.
-/
def buildSource (s : PipelineSettings) : Except IngestError LogSource := do
  let primary ← s.primarySource
  if s.demoFallback ∧ s.source ≠ .demo then pure (.fallback primary (.demo false))
  else pure primary

/-! ### JSON -/

def toValue (s : PipelineSettings) : Value :=
  .ofMembers [
    ("enabled", .bool s.enabled),
    ("source", .ofString s.source.name),
    ("log_file", .ofString s.logFile),
    ("command", .ofStrings s.command),
    ("command_timeout_secs", .number s.commandTimeoutSecs),
    ("poll_interval_secs", .number s.pollIntervalSecs),
    ("store_capacity", .number s.storeCapacity),
    ("demo_fallback", .bool s.demoFallback),
    ("max_line_length", .number s.maxLineLength)]

def fieldNames : List String :=
  ["enabled", "source", "log_file", "command", "command_timeout_secs", "poll_interval_secs",
    "store_capacity", "demo_fallback", "max_line_length"]

/--
Settings of which some fields have been decoded.
-/
structure Draft where
  enabled : Option Bool := none
  source : Option SourceKind := none
  logFile : Option String := none
  command : Option (List String) := none
  commandTimeoutSecs : Option Nat := none
  pollIntervalSecs : Option Nat := none
  storeCapacity : Option Nat := none
  demoFallback : Option Bool := none
  maxLineLength : Option Nat := none

def decodePath (node : Node) : Decoded String :=
  (node.textAs "path string").map String.ofList

def Draft.step (draft : Draft) (name : String) (node : Node) : Decoded Draft := do
  match name with
  | "enabled" => pure { draft with enabled := ← fill name draft.enabled Node.boolean node }
  | "source" => pure { draft with source := ← fill name draft.source SourceKind.decode node }
  | "log_file" => pure { draft with logFile := ← fill name draft.logFile decodePath node }
  | "command" =>
    pure { draft with command := ← fill name draft.command (Node.listOf Node.string) node }
  | "command_timeout_secs" =>
    pure { draft with
      commandTimeoutSecs := ← fill name draft.commandTimeoutSecs (Node.word "u64") node }
  | "poll_interval_secs" =>
    pure { draft with
      pollIntervalSecs := ← fill name draft.pollIntervalSecs (Node.word "u64") node }
  | "store_capacity" =>
    pure { draft with storeCapacity := ← fill name draft.storeCapacity (Node.word "usize") node }
  | "demo_fallback" =>
    pure { draft with demoFallback := ← fill name draft.demoFallback Node.boolean node }
  | "max_line_length" =>
    pure { draft with maxLineLength := ← fill name draft.maxLineLength (Node.word "usize") node }
  | _ => pure draft

def Draft.finish (draft : Draft) : Decoded PipelineSettings := do
  pure {
    enabled := ← require "enabled" draft.enabled
    source := ← require "source" draft.source
    logFile := ← require "log_file" draft.logFile
    command := ← require "command" draft.command
    commandTimeoutSecs := ← require "command_timeout_secs" draft.commandTimeoutSecs
    pollIntervalSecs := ← require "poll_interval_secs" draft.pollIntervalSecs
    storeCapacity := ← require "store_capacity" draft.storeCapacity
    demoFallback := ← require "demo_fallback" draft.demoFallback
    maxLineLength := ← require "max_line_length" draft.maxLineLength }

def decode (node : Node) : Decoded PipelineSettings := do
  let draft ← node.fields "PipelineConfig" fieldNames Draft.step tooFew {}
  draft.finish

end PipelineSettings

end WafWatch
