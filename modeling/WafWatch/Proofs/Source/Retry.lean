import WafWatch.Proofs.Source.FileTail

/-!
This module contains what a failed poll leaves behind. A poll looks at the file, opens it, seeks and reads, one
step after another, and may fail at each of them. The next poll reads what the failed one would have read.
-/

namespace WafWatch

/--
How far a poll has come.
-/
inductive PollStage where
  | looking
  | opening
  | seeking
  /-- The octets that have been read so far. -/
  | reading (buffer : List UInt8)
  | done (answer : Except IngestError (List String))

namespace FileTail

/--
The octets that the next poll reads of a file that has not been replaced.
-/
def unread (tail : FileTail) (file : LogFile) : List UInt8 :=
  (file.octets.drop tail.offset).take maxRead

/--
A step of a poll. The octets come piece by piece, and reading may fail after any of the pieces.
-/
inductive PollStep (file : LogFile) : FileTail × PollStage → FileTail × PollStage → Prop
  | notSeen (tail : FileTail) (error : IoError) :
    PollStep file (tail, .looking) (tail, .done (.error (tail.unavailable error)))
  | unchanged (tail : FileTail) (hsize : file.octets.length = (tail.notice file.status).offset) :
    PollStep file (tail, .looking) (tail.notice file.status, .done (.ok []))
  | seen (tail : FileTail) (hsize : file.octets.length ≠ (tail.notice file.status).offset) :
    PollStep file (tail, .looking) (tail.notice file.status, .opening)
  | notOpened (tail : FileTail) (error : IoError) :
    PollStep file (tail, .opening) (tail, .done (.error (tail.unavailable error)))
  | opened (tail : FileTail) : PollStep file (tail, .opening) (tail, .seeking)
  | notSought (tail : FileTail) (error : IoError) :
    PollStep file (tail, .seeking) (tail, .done (.error (.io error)))
  | sought (tail : FileTail) : PollStep file (tail, .seeking) (tail, .reading [])
  | notRead (tail : FileTail) (buffer : List UInt8) (error : IoError) :
    PollStep file (tail, .reading buffer) (tail, .done (.error (.io error)))
  | read (tail : FileTail) (buffer piece : List UInt8) (hpiece : piece ≠ [])
    (hpart : buffer ++ piece <+: tail.unread file) :
    PollStep file (tail, .reading buffer) (tail, .reading (buffer ++ piece))
  | ended (tail : FileTail) (buffer : List UInt8) (hend : buffer = tail.unread file) :
    PollStep file (tail, .reading buffer)
      ({ tail with
          offset := tail.offset + buffer.length
          carry := (tail.carry.split tail.limit buffer).2 },
        .done (.ok (tail.carry.split tail.limit buffer).1))

/--
A poll of a file, step by step, comes to an answer.
-/
def Polls (tail : FileTail) (file : LogFile) (answer : Except IngestError (List String)) (tail' : FileTail) : Prop :=
  Relation.ReflTransGen (PollStep file) (tail, .looking) (tail', .done answer)

/--
A poll of a file fails.
-/
def FailedPoll (file : LogFile) (tail tail' : FileTail) : Prop :=
  ∃ error, tail.Polls file (.error error) tail'

variable {tail tail' next : FileTail} {file : LogFile} {view : FileView} {lines : List String}
  {answer : Except IngestError (List String)}

/-! ### What a look comes to -/

theorem poll_of_size_eq (hstatus : view.status = .ok file.status)
    (hsize : file.octets.length = (tail.notice file.status).offset)
    : tail.poll view = (.ok [], tail.notice file.status) := by
  unfold poll
  rw [hstatus]
  exact if_pos hsize

theorem poll_of_size_ne (hstatus : view.status = .ok file.status)
    (hsize : file.octets.length ≠ (tail.notice file.status).offset)
    : tail.poll view
        =
      match view.opening, view.seeking, view.reading with
      | .error error, _, _ => (.error ((tail.notice file.status).unavailable error), tail.notice file.status)
      | _, .error error, _ => (.error (.io error), tail.notice file.status)
      | _, _, .error error => (.error (.io error), tail.notice file.status)
      | .ok _, .ok _, .ok octets =>
        (.ok ((tail.notice file.status).readOn octets).1, ((tail.notice file.status).readOn octets).2) := by
  unfold poll
  rw [hstatus]
  exact if_neg hsize

/-! ### From steps to a look -/

/--
What is known of a poll at each stage: before it is done, the tail has at most taken notice of the file, and
what it comes to is what some look at the path comes to at once.
-/
def CameTo (tail : FileTail) (file : LogFile) : FileTail × PollStage → Prop
  | (now, .looking) => now = tail
  | (now, .done answer) => ∃ view, file.SeenAs view ∧ tail.poll view = (answer, now)
  | (now, _) => now = tail.notice file.status ∧ file.octets.length ≠ now.offset

theorem CameTo.step {s s' : FileTail × PollStage} (h : tail.CameTo file s) (hstep : PollStep file s s')
    : tail.CameTo file s' := by
  cases hstep with
  | notSeen now error =>
    obtain rfl : now = tail := h
    exact ⟨{ status := .error error, reading := .error error }, ⟨by simp, by simp⟩, rfl⟩
  | unchanged now hsize =>
    obtain rfl : now = tail := h
    exact ⟨file.view, file.seenAs_view, poll_of_size_eq rfl hsize⟩
  | seen now hsize =>
    obtain rfl : now = tail := h
    exact ⟨rfl, hsize⟩
  | notOpened now error =>
    obtain ⟨rfl, hsize⟩ := h
    refine ⟨{ file.view with opening := .error error }, ⟨file.seenAs_view.status, file.seenAs_view.reading⟩, ?_⟩
    rw [poll_of_size_ne rfl hsize]
  | opened now => exact h
  | notSought now error =>
    obtain ⟨rfl, hsize⟩ := h
    refine ⟨{ file.view with seeking := .error error }, ⟨file.seenAs_view.status, file.seenAs_view.reading⟩, ?_⟩
    rw [poll_of_size_ne rfl hsize]
    rfl
  | sought now => exact h
  | notRead now buffer error =>
    obtain ⟨rfl, hsize⟩ := h
    refine ⟨{ file.view with reading := .error error }, ⟨file.seenAs_view.status, by simp⟩, ?_⟩
    rw [poll_of_size_ne rfl hsize]
    rfl
  | read now buffer piece hpiece hpart => exact h
  | ended now buffer hend =>
    obtain ⟨rfl, hsize⟩ := h
    subst hend
    refine ⟨file.view, file.seenAs_view, ?_⟩
    rw [poll_of_size_ne rfl hsize]
    rfl

theorem CameTo.of_steps {s : FileTail × PollStage} (hsteps : Relation.ReflTransGen (PollStep file) (tail, .looking) s)
    : tail.CameTo file s := by
  induction hsteps with
  | refl => rfl
  | tail _ hstep ih => exact ih.step hstep

/-! ### From a look to steps -/

/--
A poll that reads at all reads something, as the tail is never ahead of a file that it has taken notice of.
-/
theorem unread_ne_nil (hsize : file.octets.length ≠ (tail.notice file.status).offset)
    : (tail.notice file.status).unread file ≠ [] := by
  have hoffset : (tail.notice file.status).offset ≤ file.octets.length := tail.notice_offset_le file.status
  apply List.ne_nil_of_length_pos
  simp only [unread, List.length_take, List.length_drop, maxRead]
  omega

theorem polls_poll (tail : FileTail) (hseen : file.SeenAs view) :
    tail.Polls file (tail.poll view).1 (tail.poll view).2 := by
  cases hstatus : view.status with
  | error error =>
    have hpoll : tail.poll view = (.error (tail.unavailable error), tail) := by
      unfold poll
      rw [hstatus]
    rw [hpoll]
    exact .single (.notSeen tail error)
  | ok status =>
    rw [hseen.status status hstatus] at hstatus
    by_cases hsize : file.octets.length = (tail.notice file.status).offset
    . rw [poll_of_size_eq hstatus hsize]
      exact .single (.unchanged tail hsize)
    . rw [poll_of_size_ne hstatus hsize]
      have hopens := Relation.ReflTransGen.single (PollStep.seen tail hsize)
      have hseeks := hopens.tail (.opened _)
      have hreads := hseeks.tail (.sought _)
      cases view.opening with
      | error error => exact hopens.tail (.notOpened _ error)
      | ok opening =>
        cases view.seeking with
        | error error => exact hseeks.tail (.notSought _ error)
        | ok seeking =>
          cases hreading : view.reading with
          | error error => exact hreads.tail (.notRead _ [] error)
          | ok octets =>
            rw [hseen.reading octets hreading]
            have hread := hreads.tail (.read _ [] _ (unread_ne_nil hsize) List.prefix_rfl)
            exact hread.tail (.ended _ _ rfl)

/--
A poll step by step comes to what `poll` comes to for the looks at the path.
-/
theorem polls_iff : tail.Polls file answer tail' ↔ ∃ view, file.SeenAs view ∧ tail.poll view = (answer, tail') := by
  constructor
  . intro hpolls
    exact CameTo.of_steps hpolls
  . intro ⟨view, hseen, hpoll⟩
    have hpolls := polls_poll tail hseen
    rw [hpoll] at hpolls
    exact hpolls

/-! ### What a failed poll leaves behind -/

theorem notice_notice (tail : FileTail) (status : FileStatus) :
    (tail.notice status).notice status = tail.notice status := by
  have hinode : (tail.notice status).inode = some status.inode := rfl
  have hoffset := tail.notice_offset_le status
  generalize tail.notice status = noticed at hinode hoffset
  have hfresh : noticed.isStale status = false := by simpa [isStale, hinode] using hoffset
  unfold notice
  rw [if_neg (by simp [hfresh]), ← hinode]

theorem poll_view_of_notice_eq (hnotice : tail'.notice file.status = tail.notice file.status)
    : tail'.poll file.view = tail.poll file.view := by
  by_cases hsize : file.octets.length = (tail.notice file.status).offset
  . have hsize' : file.octets.length = (tail'.notice file.status).offset := by rw [hnotice, hsize]
    rw [poll_of_size_eq rfl hsize, poll_of_size_eq rfl hsize', hnotice]
  . have hsize' : file.octets.length ≠ (tail'.notice file.status).offset := by rwa [hnotice]
    rw [poll_of_size_ne rfl hsize, poll_of_size_ne rfl hsize', hnotice]

theorem polls_ok_iff : tail.Polls file (.ok lines) next ↔ tail.poll file.view = (.ok lines, next) := by
  constructor
  . intro hpolls
    obtain ⟨view, hseen, hpoll⟩ := polls_iff.mp hpolls
    have hpolled := polled_poll tail hseen
    rw [hpoll] at hpolled
    cases hpolled with
    | unchanged hsize => exact poll_of_size_eq rfl hsize
    | read hsize => exact poll_of_size_ne rfl hsize
  . intro hpoll
    exact polls_iff.mpr ⟨file.view, file.seenAs_view, hpoll⟩

theorem notice_of_failedPoll (hfailed : FailedPoll file tail tail')
    : tail'.notice file.status = tail.notice file.status := by
  obtain ⟨error, hpolls⟩ := hfailed
  obtain ⟨view, hseen, hpoll⟩ := polls_iff.mp hpolls
  have hpolled := polled_poll tail hseen
  rw [hpoll] at hpolled
  cases hpolled with
  | unseen => rfl
  | unread => apply notice_notice

theorem notice_of_failedPolls (hfailed : Relation.ReflTransGen (FailedPoll file) tail tail')
    : tail'.notice file.status = tail.notice file.status := by
  induction hfailed with
  | refl => rfl
  | tail _ hpoll ih => rw [notice_of_failedPoll hpoll, ih]

/--
Failed polls cost nothing: after any number of them, a successful poll of the file returns the lines and leaves
the tail that the first of them would have returned and left, had it succeeded.
-/
theorem failed_polls_cost_nothing (hfailed : Relation.ReflTransGen (FailedPoll file) tail tail')
    : ∃ lines next,
        (tail.poll file.view = (.ok lines, next) ∧ tail'.poll file.view = (.ok lines, next))
          ∧
        (∀ answer now, tail.Polls file (.ok answer) now ↔ answer = lines ∧ now = next)
          ∧
        (∀ answer now, tail'.Polls file (.ok answer) now ↔ answer = lines ∧ now = next) := by
  obtain ⟨lines, next, hpoll⟩ := tail.poll_view file
  have hretry := poll_view_of_notice_eq (notice_of_failedPolls hfailed)
  refine ⟨lines, next, ⟨hpoll, hretry.trans hpoll⟩, ?_, ?_⟩
  . intro answer now
    rw [polls_ok_iff, hpoll]
    simp only [Prod.mk.injEq, Except.ok.injEq, eq_comm]
  . intro answer now
    rw [polls_ok_iff, hretry, hpoll]
    simp only [Prod.mk.injEq, Except.ok.injEq, eq_comm]

/-- The file was replaced while a line was left out, and reading the new one fails after its first octets. -/
theorem failed_polls_cost_nothing_rotated
    : let file : LogFile := ⟨2, [104, 105, 10, 106]⟩
      let tail : FileTail :=
        { path := "/log", limit := 3, offset := 8, inode := some 1, carry := { skipping := true } }
      let noticed : FileTail := { path := "/log", limit := 3, inode := some 2 }
      let begun : FileTail :=
        { path := "/log", limit := 3, offset := 4, inode := some 2, carry := { pending := [106] } }
      Relation.ReflTransGen (FailedPoll file) tail noticed
        ∧
      tail.poll file.view = (.ok ["hi"], begun)
        ∧
      noticed.Polls file (.ok ["hi"]) begun := by
  intro file tail noticed begun
  have hnoticed : tail.notice file.status = noticed := by decide
  have hread : Relation.ReflTransGen (PollStep file) (tail, .looking) (noticed, .reading [104, 105]) := by
    have hopens := Relation.ReflTransGen.single (PollStep.seen tail (by decide : file.octets.length ≠ _))
    rw [hnoticed] at hopens
    have hreads := (hopens.tail (.opened _)).tail (.sought _)
    exact hreads.tail (.read _ [] [104, 105] (by decide) (by decide))
  have hfailed : FailedPoll file tail noticed :=
    ⟨.io (.other "short read"), hread.tail (.notRead _ _ (.other "short read"))⟩
  have hunseen : FailedPoll file noticed noticed := ⟨_, .single (.notSeen noticed .permissionDenied)⟩
  have hpoll : tail.poll file.view = (.ok ["hi"], begun) := by decide +kernel
  obtain ⟨lines, next, -, hbefore, hafter⟩ := failed_polls_cost_nothing (.tail (.single hfailed) hunseen)
  have hpolls := (hafter _ _).mpr ((hbefore _ _).mp (polls_ok_iff.mpr hpoll))
  exact ⟨.tail (.single hfailed) hunseen, hpoll, hpolls⟩

end FileTail

end WafWatch
