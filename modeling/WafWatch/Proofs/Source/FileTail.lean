import Mathlib.Logic.Relation
import WafWatch.Proofs.Source.Lines
import WafWatch.Source.FileTail

/-!
This module contains the meaning of following a file. A tail that has caught up with a file to some offset
carries what follows from the octets before that offset alone; every poll moves the offset on, and a poll
that finds another or a shorter file starts as a new tail would.
-/

namespace WafWatch

/--
A file as it is at some time.
-/
structure LogFile where
  inode : Nat
  octets : List UInt8
  deriving DecidableEq, Repr, Inhabited

namespace LogFile

def status (file : LogFile) : FileStatus where
  inode := file.inode
  size := file.octets.length

/--
A look at the path of a file. Any step may fail, but those that do not fail tell the truth.
-/
structure SeenAs (file : LogFile) (view : FileView) : Prop where
  status : ∀ status, view.status = .ok status → status = file.status
  reading : ∀ octets, view.reading = .ok octets → octets = file.octets

/--
A file as it was before some octets were appended to it.
-/
structure IsPartOf (part file : LogFile) : Prop where
  inode_eq : part.inode = file.inode
  octets : part.octets <+: file.octets

theorem isPartOf_refl (file : LogFile) : file.IsPartOf file := ⟨rfl, List.prefix_rfl⟩

def view (file : LogFile) : FileView where
  status := .ok file.status
  reading := .ok file.octets

theorem seenAs_view (file : LogFile) : file.SeenAs file.view where
  status := by simp [view]
  reading := by simp [view]

end LogFile

namespace FileTail

variable {tail tail' : FileTail} {file : LogFile} {view : FileView} {lines : List String}

/--
All that a poll can come to.
-/
inductive Polled (tail : FileTail) (file : LogFile) : Except IngestError (List String) × FileTail → Prop
  | unseen (error : IngestError) : Polled tail file (.error error, tail)
  | unread (error : IngestError) : Polled tail file (.error error, tail.notice file.status)
  | unchanged (hsize : file.octets.length = (tail.notice file.status).offset) :
    Polled tail file (.ok [], tail.notice file.status)
  | read (hsize : file.octets.length ≠ (tail.notice file.status).offset) :
    Polled tail file
      (.ok ((tail.notice file.status).readOn file.octets).1,
        ((tail.notice file.status).readOn file.octets).2)

theorem polled_poll (tail : FileTail) (hseen : file.SeenAs view) : tail.Polled file (tail.poll view) := by
  unfold poll
  cases hstatus : view.status with
  | error error => exact .unseen _
  | ok status =>
    have hstatus := hseen.status status hstatus
    subst hstatus
    dsimp only
    split
    . next hsize => exact .unchanged hsize
    . next hsize =>
      split
      . exact .unread _
      . exact .unread _
      . exact .unread _
      . next octets _ _ hreading =>
        have hoctets := hseen.reading octets hreading
        subst hoctets
        exact .read hsize

theorem poll_view (tail : FileTail) (file : LogFile) :
    ∃ lines tail', tail.poll file.view = (.ok lines, tail') := by
  unfold poll LogFile.view
  dsimp only
  split
  . exact ⟨_, _, rfl⟩
  . exact ⟨_, _, rfl⟩

theorem notice_frame (tail : FileTail) (status : FileStatus)
    : (tail.notice status).path = tail.path ∧ (tail.notice status).limit = tail.limit := by
  unfold notice
  split <;> exact ⟨rfl, rfl⟩

theorem poll_frame (tail : FileTail) (hseen : file.SeenAs view)
    : (tail.poll view).2.path = tail.path ∧ (tail.poll view).2.limit = tail.limit := by
  have hpolled := polled_poll tail hseen
  generalize tail.poll view = outcome at hpolled ⊢
  cases hpolled with
  | unseen => exact ⟨rfl, rfl⟩
  | unread => apply notice_frame
  | unchanged => apply notice_frame
  | read => apply notice_frame

theorem poll_inode (hseen : file.SeenAs view) (hpoll : tail.poll view = (.ok lines, tail'))
    : tail'.inode = some file.inode := by
  have hpolled := polled_poll tail hseen
  rw [hpoll] at hpolled
  cases hpolled with
  | unchanged => rfl
  | read => rfl

/-! ### Offsets -/

theorem notice_offset_le (tail : FileTail) (status : FileStatus) :
    (tail.notice status).offset ≤ status.size := by
  unfold notice
  split
  . apply Nat.zero_le
  . next hstale =>
    simp only [isStale, Bool.or_eq_true, decide_eq_true_eq, not_or] at hstale
    exact Nat.le_of_not_lt hstale.2

theorem notice_offset (tail : FileTail) (status : FileStatus)
    : (tail.notice status).offset = if tail.isStale status then 0 else tail.offset := by
  unfold notice
  split <;> rfl

theorem readOn_offset (tail : FileTail) (octets : List UInt8)
    : (tail.readOn octets).2.offset = tail.offset + min maxRead (octets.length - tail.offset) := by
  simp [readOn]

theorem poll_offset (hseen : file.SeenAs view) (hpoll : tail.poll view = (.ok lines, tail'))
    : tail'.offset
        =
      (tail.notice file.status).offset
        + min maxRead (file.octets.length - (tail.notice file.status).offset) := by
  have hpolled := polled_poll tail hseen
  rw [hpoll] at hpolled
  cases hpolled with
  | unchanged hsize => omega
  | read hsize => apply readOn_offset

theorem poll_offset_le (hseen : file.SeenAs view) (hpoll : tail.poll view = (.ok lines, tail'))
    : tail'.offset ≤ file.octets.length := by
  have hnotice := tail.notice_offset_le file.status
  rw [poll_offset hseen hpoll]
  simp only [LogFile.status] at hnotice ⊢
  omega

/-! ### Restarts -/

theorem notice_of_isStale {status : FileStatus} (hstale : tail.isStale status = true)
    : tail.notice status = { path := tail.path, limit := tail.limit, inode := some status.inode } := by
  unfold notice
  rw [if_pos hstale]
  rfl

theorem poll_of_isStale (hseen : file.SeenAs view) (hstale : tail.isStale file.status = true)
    (hpoll : tail.poll view = (.ok lines, tail'))
    : FileTail.poll { path := tail.path, limit := tail.limit } view = (.ok lines, tail') := by
  rw [← hpoll]
  unfold poll at hpoll ⊢
  cases hstatus : view.status with
  | error error => simp [hstatus] at hpoll
  | ok status =>
    have hstatus := hseen.status status hstatus
    subst hstatus
    -- a new tail takes notice of the file and is then what a restart makes of the old one
    have hnew : notice { path := tail.path, limit := tail.limit } file.status
        = tail.notice file.status := by
      rw [notice_of_isStale hstale]
      simp [notice, isStale]
    simp only [hnew]

/-! ### Catching up -/

/--
The tail has read the file up to its offset, and has found the given lines in it.
-/
structure Caught (tail : FileTail) (file : LogFile) (lines : List String) : Prop where
  inode : ∀ inode, tail.inode = some inode → inode = file.inode
  offset_le : tail.offset ≤ file.octets.length
  carry : tail.carry = .after tail.limit (file.octets.take tail.offset)
  lines : lines = completeLines tail.limit (file.octets.take tail.offset)

theorem caught_new (path : String) (limit : Nat) (file : LogFile) :
    Caught { path, limit } file [] where
  inode := by simp
  offset_le := by simp
  carry := by simp
  lines := rfl

theorem Caught.grown {later : LogFile} (h : tail.Caught file lines)
    (hinode : later.inode = file.inode) (hgrown : file.octets <+: later.octets)
    : tail.Caught later lines := by
  obtain ⟨more, hmore⟩ := hgrown
  have htake : later.octets.take tail.offset = file.octets.take tail.offset := by
    rw [← hmore, List.take_append_of_le_length h.offset_le]
  constructor
  . rw [hinode]
    exact h.inode
  . have := h.offset_le
    rw [← hmore, List.length_append]
    omega
  . rw [htake]
    exact h.carry
  . rw [htake]
    exact h.lines

theorem Caught.shrunk {part : LogFile} (h : tail.Caught file lines) (hpart : part.IsPartOf file)
    (hoffset : tail.offset ≤ part.octets.length)
    : tail.Caught part lines := by
  obtain ⟨more, hmore⟩ := hpart.octets
  have htake : part.octets.take tail.offset = file.octets.take tail.offset := by
    rw [← hmore, List.take_append_of_le_length hoffset]
  constructor
  . rw [hpart.inode_eq]
    exact h.inode
  . exact hoffset
  . rw [htake]
    exact h.carry
  . rw [htake]
    exact h.lines

theorem Caught.notice_eq (h : tail.Caught file lines) :
    tail.notice file.status = { tail with inode := some file.inode } := by
  have hfresh : tail.isStale file.status = false := by
    have hinode := h.inode
    have hoffset := h.offset_le
    unfold isStale LogFile.status
    cases hi : tail.inode with
    | none => simpa using hoffset
    | some inode => simpa [hinode inode hi] using hoffset
  unfold FileTail.notice
  rw [if_neg (by simp [hfresh])]
  rfl

theorem Caught.notice (h : tail.Caught file lines) :
    (tail.notice file.status).Caught file lines := by
  rw [h.notice_eq]
  constructor
  . simp
  . exact h.offset_le
  . exact h.carry
  . exact h.lines

theorem Caught.readOn (h : tail.Caught file lines)
    : (tail.readOn file.octets).2.Caught file (lines ++ (tail.readOn file.octets).1) := by
  -- the octets that were read, followed by the chunk, are those up to the new offset
  have htake : ∀ chunk, chunk = (file.octets.drop tail.offset).take maxRead →
      file.octets.take tail.offset ++ chunk = file.octets.take (tail.offset + chunk.length) := by
    intro chunk hchunk
    rw [List.take_add, hchunk, List.length_take]
    simp
  have hoffset := h.offset_le
  have hcarry := h.carry
  constructor
  . exact h.inode
  . rw [readOn_offset]
    omega
  . unfold FileTail.readOn
    dsimp only
    rw [← htake _ rfl, hcarry, LineCarry.split_after_carry]
  . unfold FileTail.readOn
    dsimp only
    rw [← htake _ rfl, LineCarry.completeLines_append, h.lines, hcarry]

theorem Caught.poll (h : tail.Caught file lines) (hseen : file.SeenAs view) {new : List String}
    (hpoll : tail.poll view = (.ok new, tail'))
    : tail'.Caught file (lines ++ new) := by
  have hpolled := polled_poll tail hseen
  rw [hpoll] at hpolled
  cases hpolled with
  | unchanged hsize => simpa using h.notice
  | read hsize => exact h.notice.readOn

theorem Caught.poll_error (h : tail.Caught file lines) (hseen : file.SeenAs view)
    {error : IngestError} (hpoll : tail.poll view = (.error error, tail'))
    : tail'.Caught file lines := by
  have hpolled := polled_poll tail hseen
  rw [hpoll] at hpolled
  cases hpolled with
  | unseen => exact h
  | unread => exact h.notice

/--
The lines that were found are lines of the whole file.
-/
theorem Caught.subset (h : tail.Caught file lines) : lines ⊆ completeLines tail.limit file.octets := by
  rw [h.lines, ← List.take_append_drop tail.offset file.octets, LineCarry.completeLines_append,
    List.take_append_drop]
  exact List.subset_append_left _ _

/--
A poll that finds a part of the file goes on with what it adds to the lines, or starts again from the beginning.
-/
theorem Caught.poll_part (h : tail.Caught file lines) {part : LogFile} (hpart : part.IsPartOf file)
    (hseen : part.SeenAs view) {answer : Except IngestError (List String)} (hpoll : tail.poll view = (answer, tail'))
    : ∃ kept, (kept = lines ∨ kept = []) ∧ tail'.Caught file (kept ++ answer.toOption.getD []) := by
  -- the part is shorter than what was read before only if the tail starts again
  have hnotice : ∃ kept, (kept = lines ∨ kept = []) ∧ (tail.notice part.status).Caught part kept := by
    by_cases hoffset : tail.offset ≤ part.octets.length
    . exact ⟨lines, .inl rfl, (h.shrunk hpart hoffset).notice⟩
    . have hstale : tail.isStale part.status = true := by
        have hshort : part.octets.length < tail.offset := by omega
        simp [isStale, LogFile.status, hshort]
      refine ⟨[], .inr rfl, ?_⟩
      rw [notice_of_isStale hstale]
      have hnew := caught_new tail.path tail.limit part
      exact hnew.notice_eq ▸ hnew.notice
  obtain ⟨kept, hkept, hnotice⟩ := hnotice
  have hpolled := polled_poll tail hseen
  rw [hpoll] at hpolled
  have hfile : ∀ {now : FileTail} {found}, now.Caught part found → now.Caught file found :=
    fun hnow => hnow.grown hpart.inode_eq.symm hpart.octets
  cases hpolled with
  | unseen error => exact ⟨lines, .inl rfl, by simpa [Except.toOption] using h⟩
  | unread error => exact ⟨kept, hkept, by simpa [Except.toOption] using hfile hnotice⟩
  | unchanged hsize => exact ⟨kept, hkept, by simpa [Except.toOption] using hfile hnotice⟩
  | read hsize => exact ⟨kept, hkept, hfile hnotice.readOn⟩

end FileTail

/-! ### Runs -/

/--
A tail that is polled again and again, with what is known of the polls so far.
-/
structure TailRun where
  tail : FileTail
  /-- The file as it was at the last poll. -/
  file : Option LogFile := none
  /-- The lines that were returned since the last restart. -/
  lines : List String := []
  /-- Since the last restart nothing happened to the file but that octets were appended. -/
  onlyAppended : Bool := true

namespace TailRun

def start (path : String) (limit : Nat) : TailRun where
  tail := { path, limit }

/--
A poll at which the path leads to a file starts again from the beginning: the file is another one than at
the poll before, or shorter than what was read of it.
-/
def restarts (run : TailRun) (file : LogFile) : Bool :=
  run.file.any (·.inode != file.inode) || file.octets.length < run.tail.offset

def next (run : TailRun) (file : LogFile) (lines : List String) (tail : FileTail) : TailRun where
  tail
  file := some file
  lines := if run.restarts file then lines else run.lines ++ lines
  onlyAppended :=
    run.restarts file || run.onlyAppended && run.file.all (·.octets.isPrefixOf file.octets)

inductive Poll (run : TailRun) : TailRun → Prop
  | poll {file : LogFile} {view : FileView} {lines : List String} {tail : FileTail}
    (hseen : file.SeenAs view) (hpoll : run.tail.poll view = (.ok lines, tail)) :
    Poll run (run.next file lines tail)

/--
What holds between polls.
-/
structure Sound (path : String) (limit : Nat) (run : TailRun) : Prop where
  path_eq : run.tail.path = path
  limit_eq : run.tail.limit = limit
  inode_eq : run.tail.inode = run.file.map (·.inode)
  fresh : run.file = none → run = start path limit
  offset_le : ∀ file, run.file = some file → run.tail.offset ≤ file.octets.length
  caught : ∀ file, run.file = some file → run.onlyAppended = true → run.tail.Caught file run.lines

variable {path : String} {limit : Nat} {run run' : TailRun}

theorem start_sound (path : String) (limit : Nat) : (start path limit).Sound path limit where
  path_eq := rfl
  limit_eq := rfl
  inode_eq := rfl
  fresh := by simp
  offset_le := by simp [start]
  caught := by simp [start]

theorem Sound.isStale_eq (h : run.Sound path limit) (file : LogFile)
    : run.tail.isStale file.status = run.restarts file := by
  unfold FileTail.isStale restarts
  rw [h.inode_eq]
  cases run.file <;> rfl

theorem Sound.caught_next (h : run.Sound path limit) {file : LogFile} {view : FileView}
    {lines : List String} {tail : FileTail} (hseen : file.SeenAs view)
    (hpoll : run.tail.poll view = (.ok lines, tail))
    (happended : (run.next file lines tail).onlyAppended = true)
    : tail.Caught file (run.next file lines tail).lines := by
  unfold next at happended ⊢
  cases hrestarts : run.restarts file with
  | true =>
    -- a restart is the first poll of a new tail
    have hstale := h.isStale_eq file
    rw [hrestarts] at hstale
    have hnew := FileTail.poll_of_isStale hseen hstale hpoll
    exact (FileTail.caught_new _ _ file).poll hseen hnew
  | false =>
    cases hfile : run.file with
    | none =>
      have hstart := h.fresh hfile
      subst hstart
      exact (FileTail.caught_new path limit file).poll hseen hpoll
    | some last =>
      simp only [hrestarts, hfile, Bool.false_or, Bool.and_eq_true, Option.all_some,
        List.isPrefixOf_iff_prefix] at happended
      have hinode : file.inode = last.inode := by
        simp only [restarts, hfile, Option.any_some, Bool.or_eq_false_iff, bne_eq_false_iff_eq]
          at hrestarts
        exact hrestarts.1.symm
      have hcaught := (h.caught last hfile happended.1).grown hinode happended.2
      exact hcaught.poll hseen hpoll

theorem Sound.poll (h : run.Sound path limit) (hpoll : run.Poll run') : run'.Sound path limit := by
  cases hpoll with
  | @poll file view lines tail hseen hpoll =>
    have hframe := FileTail.poll_frame run.tail hseen
    rw [hpoll] at hframe
    constructor
    . exact hframe.1.trans h.path_eq
    . exact hframe.2.trans h.limit_eq
    . exact FileTail.poll_inode hseen hpoll
    . intro hnone
      cases hnone
    . intro file' hfile
      cases hfile
      exact FileTail.poll_offset_le hseen hpoll
    . intro file' hfile happended
      cases hfile
      exact h.caught_next hseen hpoll happended

theorem Sound.of_reachable (hrun : Relation.ReflTransGen Poll (start path limit) run) :
    run.Sound path limit := by
  induction hrun with
  | refl => apply start_sound
  | tail _ hpoll ih => exact ih.poll hpoll

/--
A tail that is polled again and again loses, repeats and mixes nothing: the lines since the last restart are
those of the octets before the offset, every poll moves the offset on as far as one poll may read, and a
restart leaves nothing of what was known before.
-/
theorem reachable_lines_eq (hrun : Relation.ReflTransGen Poll (start path limit) run)
    : (∀ file, run.file = some file →
        run.tail.offset ≤ file.octets.length
          ∧
        (run.onlyAppended = true →
          run.lines = completeLines limit (file.octets.take run.tail.offset)))
        ∧
      (∀ file : LogFile, ∃ lines tail, run.tail.poll file.view = (.ok lines, tail))
        ∧
      (∀ (file : LogFile) view lines tail,
        file.SeenAs view → run.tail.poll view = (.ok lines, tail) →
          let base := if run.restarts file then 0 else run.tail.offset
          tail.offset = base + min FileTail.maxRead (file.octets.length - base)
            ∧
          tail.offset ≤ file.octets.length
            ∧
          (run.restarts file = true →
            FileTail.poll { path, limit } view = (.ok lines, tail))) := by
  have hsound := Sound.of_reachable hrun
  refine ⟨?_, run.tail.poll_view, ?_⟩
  . intro file hfile
    refine ⟨hsound.offset_le file hfile, ?_⟩
    intro happended
    have hlines := (hsound.caught file hfile happended).lines
    rw [hsound.limit_eq] at hlines
    exact hlines
  . intro file view lines tail hseen hpoll base
    have hstale := hsound.isStale_eq file
    refine ⟨?_, FileTail.poll_offset_le hseen hpoll, ?_⟩
    . have hoffset := FileTail.poll_offset hseen hpoll
      rw [FileTail.notice_offset, hstale] at hoffset
      exact hoffset
    . intro hrestarts
      rw [hrestarts] at hstale
      have hnew := FileTail.poll_of_isStale hseen hstale hpoll
      rw [hsound.path_eq, hsound.limit_eq] at hnew
      exact hnew

/-- The first file ends in a line that is too long, the second one replaces it. -/
theorem reachable_lines_eq_rotated
    : let first : LogFile := ⟨1, [97, 98, 10, 99, 100, 101, 102, 103]⟩
      let second : LogFile := ⟨2, [104, 105, 10, 106]⟩
      let skipped : FileTail :=
        { path := "/log", limit := 3, offset := 8, inode := some 1, carry := { skipping := true } }
      let begun : FileTail :=
        { path := "/log", limit := 3, offset := 4, inode := some 2, carry := { pending := [106] } }
      let run := ((start "/log" 3).next first ["ab"] skipped).next second ["hi"] begun
      Relation.ReflTransGen Poll (start "/log" 3) run
        ∧
      run.lines = completeLines 3 (second.octets.take run.tail.offset) := by
  intro first second skipped begun run
  have hfirst : (start "/log" 3).Poll ((start "/log" 3).next first ["ab"] skipped) :=
    .poll first.seenAs_view (by decide +kernel)
  have hsecond : ((start "/log" 3).next first ["ab"] skipped).Poll run :=
    .poll second.seenAs_view (by decide +kernel)
  have hrun := (Relation.ReflTransGen.single hfirst).tail hsecond
  exact ⟨hrun, ((reachable_lines_eq hrun).1 second rfl).2 (by decide)⟩

end TailRun

end WafWatch
