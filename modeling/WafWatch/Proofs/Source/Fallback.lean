import WafWatch.Source.Basic

/-!
This module contains what a source answers to one poll after another, and what becomes of the answers if the
demonstration lines stand in for it: no poll fails, and the lines are shown at most once, instead of the first error.
-/

namespace WafWatch

/--
Answers with the demonstration lines in the place of the first error, unless they have been served, and with no lines
in the place of every other one.
-/
def covered (served : Bool) : List (Except IngestError (List String)) → List (Except IngestError (List String))
  | [] => []
  | .ok lines :: answers => .ok lines :: covered served answers
  | .error _ :: answers => .ok (if served then [] else demoLines) :: covered true answers

theorem isOk_of_mem_covered {served : Bool} {answers : List (Except IngestError (List String))} :
    ∀ answer ∈ covered served answers, answer.isOk = true := by
  induction answers generalizing served with
  | nil => nofun
  | cons answer answers ih => cases answer <;> exact List.forall_mem_cons.mpr ⟨rfl, ih⟩

namespace LogSource

/--
A source after polls of machines.
-/
def after (source : LogSource) (hosts : List Host) : LogSource :=
  hosts.foldl (fun source host => (source.poll host).2) source

/--
What a source answers to polls of machines.
-/
def answers (source : LogSource) : List Host → List (Except IngestError (List String))
  | [] => []
  | host :: hosts => (source.poll host).1 :: (source.poll host).2.answers hosts

theorem after_concat (source : LogSource) (hosts : List Host) (host : Host) :
    source.after (hosts ++ [host]) = ((source.after hosts).poll host).2 := by
  simp [after]

theorem answers_concat (source : LogSource) (hosts : List Host) (host : Host)
    : source.answers (hosts ++ [host]) = source.answers hosts ++ [((source.after hosts).poll host).1] := by
  induction hosts generalizing source with
  | nil => rfl
  | cons first hosts ih => exact congrArg (List.cons _) (ih (source.poll first).2)

theorem answers_of_poll {source next : LogSource} {host : Host} {answer : Except IngestError (List String)}
    (h : source.poll host = (answer, next)) (hosts : List Host)
    : source.answers (host :: hosts) = answer :: next.answers hosts := by
  rw [answers, h]

variable {primary next : LogSource} {host : Host}

theorem poll_fallback_of_ok {lines : List String} (h : primary.poll host = (.ok lines, next)) (secondary : LogSource)
    : (fallback primary secondary).poll host = (.ok lines, .fallback next secondary) := by
  rw [poll, h]

theorem poll_fallback_of_error {error : IngestError} (h : primary.poll host = (.error error, next))
    (secondary : LogSource)
    : (fallback primary secondary).poll host
        = ((secondary.poll host).1, .fallback next (secondary.poll host).2) := by
  rw [poll, h]

/--
The answers of a source that the demonstration lines stand in for.
-/
theorem answers_fallback (primary : LogSource) (served : Bool) (hosts : List Host)
    : (fallback primary (.demo served)).answers hosts = covered served (primary.answers hosts) := by
  induction hosts generalizing primary served with
  | nil => rfl
  | cons host hosts ih =>
    cases hpoll : primary.poll host with
    | mk answer next =>
      rw [answers_of_poll hpoll]
      cases answer with
      | ok lines =>
        rw [answers_of_poll (poll_fallback_of_ok hpoll _), ih]
        rfl
      | error error =>
        rw [answers_of_poll (poll_fallback_of_error hpoll _)]
        exact congrArg (List.cons _) (ih next true)

end LogSource

end WafWatch
