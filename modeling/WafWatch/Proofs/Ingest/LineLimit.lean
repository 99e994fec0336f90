import WafWatch.Proofs.Ingest.Lifecycle
import WafWatch.Proofs.Source.Following
import WafWatch.Proofs.Text.Decoding

/-!
This module contains how the two limits for the length of a line agree. The tail of a file leaves out a line by the
number of its octets, the reader of lines refuses a text by the number of octets that it is written with. A text is
never shorter than its line except for the carriage returns at the end, and only longer if the line is not well-formed.
-/

namespace WafWatch

def carriageReturn : UInt8 := 13

/--
The octets of a line without the carriage returns at its end.
-/
def bodyOf (line : List UInt8) : List UInt8 :=
  line.rdropWhile (· == carriageReturn)

/--
The text that a tail returns for a line that is not left out.
-/
def textOf (line : List UInt8) : String :=
  String.ofList (trimReturns (Text.decodeLossy line))

/-! ### Carriage returns -/

theorem rdropWhile_of_getLast? {α : Type} [BEq α] [LawfulBEq α] {a : α} {xs : List α} (h : xs.getLast? ≠ some a) :
    xs.rdropWhile (· == a) = xs := by
  apply List.rdropWhile_eq_self_iff.mpr
  intro hne hlast
  rw [beq_iff_eq] at hlast
  exact h (List.getLast?_eq_some_getLast hne ▸ congrArg some hlast)

theorem bodyOf_concat_return (line : List UInt8) : bodyOf (line ++ [carriageReturn]) = bodyOf line := by
  apply List.rdropWhile_concat_pos
  rfl

theorem bodyOf_concat_of_ne {b : UInt8} (h : b ≠ carriageReturn) (line : List UInt8) :
    bodyOf (line ++ [b]) = line ++ [b] := by
  apply List.rdropWhile_concat_neg
  simpa using h

theorem length_bodyOf_le (line : List UInt8) : (bodyOf line).length ≤ line.length :=
  (List.rdropWhile_prefix _ line).length_le

theorem decodeLossy_concat_return (line : List UInt8) :
    Text.decodeLossy (line ++ [carriageReturn]) = Text.decodeLossy line ++ ['\r'] := by
  rw [Text.decodeLossy_append (by decide), Text.decodeLossy_nil]
  rfl

theorem trimReturns_concat_return (s : List Char) : trimReturns (s ++ ['\r']) = trimReturns s := by
  apply List.rdropWhile_concat_pos
  rfl

/--
Carriage returns at the end may be stripped before or after a line is read as text.
-/
theorem trimReturns_decodeLossy (line : List UInt8) :
    trimReturns (Text.decodeLossy line) = Text.decodeLossy (bodyOf line) := by
  induction line using List.reverseRecOn with
  | nil =>
    rw [bodyOf, List.rdropWhile_nil, Text.decodeLossy_nil]
    rfl
  | append_singleton line b ih =>
    by_cases hb : b = carriageReturn
    . subst hb
      rw [decodeLossy_concat_return, trimReturns_concat_return, bodyOf_concat_return, ih]
    . rw [bodyOf_concat_of_ne hb]
      apply rdropWhile_of_getLast?
      intro hlast
      have hreturn := Text.getLast?_of_getLast?_decodeLossy (by decide) hlast
      rw [List.getLast?_concat, Option.some.injEq] at hreturn
      exact hb hreturn

/-! ### Sizes -/

theorem utf8ByteSize_textOf (line : List UInt8) :
    (textOf line).utf8ByteSize = (Text.encode (Text.decodeLossy (bodyOf line))).length := by
  rw [textOf, trimReturns_decodeLossy, Text.utf8ByteSize_ofList]

theorem length_bodyOf_le_utf8ByteSize (line : List UInt8) : (bodyOf line).length ≤ (textOf line).utf8ByteSize := by
  rw [utf8ByteSize_textOf]
  exact (Text.length_encode_decodeLossy (bodyOf line)).1

theorem length_encode_add (line : List UInt8)
    : (Text.encode (Text.decodeLossy line)).length + (bodyOf line).length
        = (Text.encode (Text.decodeLossy (bodyOf line))).length + line.length := by
  induction line using List.reverseRecOn with
  | nil => rfl
  | append_singleton line b ih =>
    by_cases hb : b = carriageReturn
    . subst hb
      have hreturn : (Text.encode ['\r']).length = 1 := by decide
      rw [bodyOf_concat_return, decodeLossy_concat_return, Text.encode_append, List.length_append, List.length_append,
        hreturn, List.length_singleton]
      omega
    . rw [bodyOf_concat_of_ne hb]

theorem utf8ByteSize_textOf_of_wellFormed {line : List UInt8} (h : (Text.decode? line).isSome = true) :
    (textOf line).utf8ByteSize = (bodyOf line).length := by
  obtain ⟨s, hs⟩ := Option.isSome_iff_exists.mp h
  obtain ⟨hline, htext⟩ := Text.decode?_eq_some hs
  have hadd := length_encode_add line
  rw [htext, ← hline] at hadd
  rw [utf8ByteSize_textOf]
  omega

/-! ### The tail -/

theorem lineText?_eq (limit : Nat) (line : List UInt8)
    : lineText? limit line = if limit < line.length ∨ textOf line = "" then none else some (textOf line) := by
  unfold lineText?
  by_cases hlong : limit < line.length
  . rw [if_pos hlong, if_pos (.inl hlong)]
  . have hempty : (trimReturns (Text.decodeLossy line)).isEmpty = true ↔ limit < line.length ∨ textOf line = "" := by
      rw [List.isEmpty_iff, or_iff_right hlong, textOf, String.ofList_eq_empty_iff]
    rw [if_neg hlong]
    dsimp only
    simp only [hempty]
    rfl

/-! ### The pipeline -/

/--
The tail of a file and the reader of its lines have the same limit.
-/
structure IngestRun.HasLimit (run : IngestRun) (path : String) (limit : Nat) : Prop where
  lineLimit_eq : run.ingestion.lineLimit = limit
  source_eq : run.ingestion.source = .file { path, limit }
    ∨ run.ingestion.source = .fallback (.file { path, limit }) (.demo false)

theorem PipelineSettings.sourceOver_eq (settings : PipelineSettings) (primary : LogSource) :
    settings.sourceOver primary = primary ∨ settings.sourceOver primary = .fallback primary (.demo false) := by
  unfold sourceOver
  split
  . exact .inr rfl
  . exact .inl rfl

theorem Pipeline.start_hasLimit {pipeline : Pipeline} (hstate : pipeline.state ≠ .running)
    (hcustom : pipeline.customSource = none) (hfile : pipeline.settings.source = .file)
    : ∃ run, pipeline.start.1 = .ok () ∧ pipeline.start.2.run = some run
        ∧ run.HasLimit pipeline.settings.logFile pipeline.settings.maxLineLength := by
  have hprimary := PipelineSettings.primarySource_of_file hfile
  rw [start_of_not_running hstate (PipelineSettings.buildSource_of_primarySource hprimary), hcustom]
  exact ⟨_, rfl, rfl, rfl, pipeline.settings.sourceOver_eq _⟩

theorem Pipeline.build_eq_ok {settings : PipelineSettings} {store : Option EventStore} {source : Option LogSource}
    {stamps : StampSupply} {pipeline : Pipeline} (h : build settings store source stamps = .ok pipeline)
    : settings.validate = .ok () ∧ pipeline.settings = settings ∧ pipeline.state = .initialized
        ∧ pipeline.customSource = source := by
  obtain ⟨hvalid, rfl⟩ := build_eq_ok_iff.mp h
  exact ⟨hvalid, rfl, rfl, rfl⟩

theorem PipelineSettings.maxLineLength_pos {settings : PipelineSettings} (h : settings.validate = .ok ()) :
    0 < settings.maxLineLength := by
  rw [validate_eq_ok_iff] at h
  have hcheck := h (.positive "max_line_length" settings.maxLineLength) (by simp [checks])
  simp only [Check.positive, bne_iff_ne] at hcheck
  omega

/-! ### Agreement -/

theorem AuditLine.parse_eq_none_iff {text : String} (hcandidate : isCandidate text.toList = true) (limit : Nat)
    (stamp : Stamp)
    : parse limit stamp text = none ↔ limit < text.utf8ByteSize := by
  unfold parse
  dsimp only
  rw [if_pos hcandidate]
  simp

/--
A pipeline that follows a file has one limit for its tail and its reader of lines. The tail leaves out exactly the
lines with more octets, the reader refuses exactly the texts with more octets. What is left out would be refused unless
it ends in carriage returns, what would be refused is left out unless it is not well-formed.
-/
theorem limits_agree_on_plain_lines (limit : Nat)
    : (∀ settings store stamps pipeline, Pipeline.build settings store none stamps = .ok pipeline →
          settings.source = .file → settings.maxLineLength = limit →
            0 < limit ∧ ∃ run, pipeline.start.1 = .ok () ∧ pipeline.start.2.run = some run
              ∧ run.HasLimit settings.logFile limit)
        ∧ (∀ path inode s, Relation.ReflTransGen Following.Step (.start path limit inode) s →
            s.lines = (rawLines (s.file.octets.take s.tail.offset)).filterMap fun line =>
              if limit < line.length ∨ textOf line = "" then none else some (textOf line))
        ∧ (∀ stamp text, AuditLine.isCandidate text.toList = true →
            (AuditLine.parse limit stamp text = none ↔ limit < text.utf8ByteSize))
        ∧ ∀ line,
            (bodyOf line).length ≤ (textOf line).utf8ByteSize
              ∧ (textOf line).utf8ByteSize ≤ 3 * (bodyOf line).length
              ∧ ((Text.decode? line).isSome = true → (textOf line).utf8ByteSize = (bodyOf line).length)
              ∧ (limit < line.length → line.getLast? ≠ some carriageReturn → limit < (textOf line).utf8ByteSize)
              ∧ (limit < (textOf line).utf8ByteSize → (Text.decode? line).isSome = true → limit < line.length) := by
  refine ⟨?_, ?_, ?_, ?_⟩
  . intro settings store stamps pipeline hbuild hfile hlimit
    obtain ⟨hvalid, hsettings, hstate, hcustom⟩ := Pipeline.build_eq_ok hbuild
    subst hlimit hsettings
    refine ⟨PipelineSettings.maxLineLength_pos hvalid, ?_⟩
    apply Pipeline.start_hasLimit _ hcustom hfile
    rw [hstate]
    nofun
  . intro path inode s hrun
    rw [(Following.Sound.of_reachable hrun).lines_eq, completeLines_eq_filterMap]
    exact congrArg (List.filterMap · _) (funext fun line => lineText?_eq limit line)
  . intro stamp text hcandidate
    exact AuditLine.parse_eq_none_iff hcandidate limit stamp
  . intro line
    have hsize := length_bodyOf_le_utf8ByteSize line
    refine ⟨hsize, ?_, utf8ByteSize_textOf_of_wellFormed, ?_, ?_⟩
    . rw [utf8ByteSize_textOf]
      exact (Text.length_encode_decodeLossy (bodyOf line)).2
    . intro hlong hlast
      have hbody : bodyOf line = line := rdropWhile_of_getLast? hlast
      rw [hbody] at hsize
      omega
    . intro hlong hwellFormed
      have hbody := length_bodyOf_le line
      rw [utf8ByteSize_textOf_of_wellFormed hwellFormed] at hlong
      omega

/-- Four octets that are written as they are, with a limit of three. -/
theorem limits_agree_on_plain_lines_standard
    : let settings := { PipelineSettings.standard with maxLineLength := 3 }
      let line : List UInt8 := [97, 98, 99, 100]
      (∃ run pipeline, Pipeline.build settings none none ⟨fun _ => default, 0⟩ = .ok pipeline
          ∧ pipeline.start.2.run = some run ∧ run.HasLimit settings.logFile 3)
        ∧ 3 < (textOf line).utf8ByteSize := by
  intro settings line
  have hbuild : ∃ pipeline, Pipeline.build settings none none ⟨fun _ => default, 0⟩ = .ok pipeline := by
    have hvalid : settings.validate = .ok () := by decide +kernel
    unfold Pipeline.build
    rw [hvalid]
    exact ⟨_, rfl⟩
  obtain ⟨pipeline, hpipeline⟩ := hbuild
  obtain ⟨hpipelines, _, _, hlines⟩ := limits_agree_on_plain_lines 3
  obtain ⟨_, run, _, hrun, hlimit⟩ := hpipelines settings none _ pipeline hpipeline rfl rfl
  obtain ⟨_, _, _, hleftOut, _⟩ := hlines line
  exact ⟨⟨run, pipeline, hpipeline, hrun, hlimit⟩, hleftOut (by decide) (by decide)⟩

/--
A line is left out for its carriage return although its text is as long as the limit, and another one is returned
although its text is twice as long, as two octets of it have been replaced.
-/
theorem limits_differ
    : (¬∀ limit line, 0 < limit → newline ∉ line → textOf line ≠ "" →
          (LineCarry.split limit {} (line ++ [newline])).1 = [] → limit < (textOf line).utf8ByteSize)
        ∧ ¬∀ limit line, 0 < limit → newline ∉ line → textOf line ≠ "" →
          limit < (textOf line).utf8ByteSize → (LineCarry.split limit {} (line ++ [newline])).1 = [] := by
  constructor
  . intro h
    have hreturn := h 3 [97, 98, 99, 13] (by decide) (by decide) (by decide +kernel) (by decide +kernel)
    revert hreturn
    decide +kernel
  . intro h
    have hbroken := h 3 [0xff, 0xff] (by decide) (by decide) (by decide +kernel) (by decide +kernel)
    revert hbroken
    decide +kernel

end WafWatch
