import WafWatch.Proofs.Source.FileTail

/-!
This module contains what a tail finds in a file that only grows while it is followed, whenever it is polled and
whichever polls fail: the lines of what has been read so far.
-/

namespace WafWatch

/--
A file and the tail that follows it, with the lines that its polls have returned.
-/
structure Following where
  file : LogFile
  tail : FileTail
  lines : List String := []

namespace Following

/--
A file without octets and a new tail.
-/
def start (path : String) (limit inode : Nat) : Following where
  file := { inode, octets := [] }
  tail := { path, limit }

def grow (s : Following) (octets : List UInt8) : Following :=
  { s with file := { s.file with octets := s.file.octets ++ octets } }

/--
What may happen: the file grows, or the tail looks at it and finds lines or fails.
-/
inductive Step (s : Following) : Following → Prop
  | grow (octets : List UInt8) : Step s (s.grow octets)
  | poll {view : FileView} {lines : List String} {tail : FileTail} (hseen : s.file.SeenAs view)
    (hpoll : s.tail.poll view = (.ok lines, tail)) : Step s { s with tail, lines := s.lines ++ lines }
  | miss {view : FileView} {error : IngestError} {tail : FileTail} (hseen : s.file.SeenAs view)
    (hpoll : s.tail.poll view = (.error error, tail)) : Step s { s with tail }

variable {path : String} {limit inode : Nat} {s s' : Following}

/--
What holds at all times.
-/
structure Sound (limit : Nat) (s : Following) : Prop where
  limit_eq : s.tail.limit = limit
  caught : s.tail.Caught s.file s.lines

theorem start_sound (path : String) (limit inode : Nat) : (start path limit inode).Sound limit where
  limit_eq := rfl
  caught := by apply FileTail.caught_new

theorem Sound.step (h : s.Sound limit) (hstep : s.Step s') : s'.Sound limit := by
  cases hstep with
  | grow octets => exact ⟨h.limit_eq, h.caught.grown rfl (List.prefix_append _ _)⟩
  | poll hseen hpoll =>
    have hframe := FileTail.poll_frame s.tail hseen
    rw [hpoll] at hframe
    exact ⟨hframe.2.trans h.limit_eq, h.caught.poll hseen hpoll⟩
  | miss hseen hpoll =>
    have hframe := FileTail.poll_frame s.tail hseen
    rw [hpoll] at hframe
    exact ⟨hframe.2.trans h.limit_eq, h.caught.poll_error hseen hpoll⟩

theorem Sound.of_reachable (hrun : Relation.ReflTransGen Step (start path limit inode) s) : s.Sound limit := by
  induction hrun with
  | refl => apply start_sound
  | tail _ hstep ih => exact ih.step hstep

theorem Sound.lines_eq (h : s.Sound limit) : s.lines = completeLines limit (s.file.octets.take s.tail.offset) := by
  rw [h.caught.lines, h.limit_eq]

/--
However much of the file is left, enough polls read all of it.
-/
theorem Sound.exists_consumed {s : Following} (h : s.Sound limit)
    : ∃ s', Relation.ReflTransGen Step s s' ∧ s'.file = s.file ∧ s'.tail.offset = s.file.octets.length := by
  by_cases hdone : s.tail.offset = s.file.octets.length
  . exact ⟨s, .refl, rfl, hdone⟩
  . obtain ⟨lines, tail, hpoll⟩ := s.tail.poll_view s.file
    have hstep : s.Step { s with tail, lines := s.lines ++ lines } := .poll s.file.seenAs_view hpoll
    have hprogress : s.file.octets.length - tail.offset < s.file.octets.length - s.tail.offset := by
      have hoffset := FileTail.poll_offset s.file.seenAs_view hpoll
      have hle := h.caught.offset_le
      rw [h.caught.notice_eq] at hoffset
      simp only [FileTail.maxRead] at hoffset
      omega
    obtain ⟨s', hrun, hfile, hconsumed⟩ := (h.step hstep).exists_consumed
    exact ⟨s', .head hstep hrun, hfile, hconsumed⟩
termination_by s.file.octets.length - s.tail.offset
decreasing_by exact hprogress

end Following

end WafWatch
