import Playback.Session.Step

/-! The components around a session, as far as a session can tell: what they answer in a state of
theirs, and how a command changes that state. -/

namespace Playback

structure World (σ : Type) where
  position : σ → Int64
  manifest : σ → Option AdSession
  createFailure : σ → Option Error
  /-- The avails that a fetch brings; one that fails brings none. -/
  avails : σ → List Avail
  /-- The state after a command. -/
  after : σ → Command → σ
  /-- A component is there that takes the command. -/
  takes : Command → Bool

/-- What is answered at the time `now`. -/
def World.answers (w : World σ) (now : Instant) (s : σ) : Answers :=
  { now
    position := w.position s
    manifest := w.manifest s
    createFailure := w.createFailure s }

/-- Answers that wait to be given, the first one first. Where none waits, no ad session is found, no
avails are there, and engines can be made. -/
structure Script where
  position : Int64 := 0
  manifests : List (Option AdSession) := []
  polls : List (Except Error (List Avail)) := []
  createFailures : List Error := []

/-- Components that answer from a script; all engines are at one position. The one that finds ad
sessions and the one that fetches avails may be missing. -/
def World.scripted (finds fetches : Bool) : World Script where
  position s := s.position
  manifest s := if finds then (s.manifests.head?).join else none
  createFailure s := s.createFailures.head?
  avails s := if fetches then ((s.polls.head?).bind (·.toOption)).getD [] else []
  after s
    | .resolve _ => if finds then { s with manifests := s.manifests.tail } else s
    | .fetch _ _ => if fetches then { s with polls := s.polls.tail } else s
    | .createFailed _ => { s with createFailures := s.createFailures.tail }
    | _ => s
  takes
    | .resolve _ => finds
    | .fetch _ _ => fetches
    | _ => true

end Playback
