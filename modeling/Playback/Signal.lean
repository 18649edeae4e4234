import Playback.Advertising
import Playback.Failure

/-! The raw signals that a session is told about: those of the engine, which places ads by the
percentage of the video, and those of the software that renders ads, which numbers them. -/

namespace Playback

inductive EngineSignal where
  | playStarted (position : Int64)
  | paused (position : Int64)
  | resumed (position : Int64)
  | seeked (origin target : Int64)
  | percentWatched (percent : UInt8)
  | adStarted (percent : UInt8)
  | adCompleted (percent : UInt8)
  /-- The video is finished or was stopped. -/
  | playCompleted (position : Option Int64)
  /-- The end of the video is reached. -/
  | contentEnded
  | fault (f : Fault)
  deriving DecidableEq, Repr

inductive AdSignal where
  | started (ordinal : Int32) (ad : Ad)
  | completed (ordinal : Int32) (ad : Ad)
  | paused (ad : Ad)
  | resumed (ad : Ad)
  | skipped (ad : Ad)
  | clicked (ad : Ad)
  | breakEnded
  deriving DecidableEq, Repr

inductive Signal where
  | engine (s : EngineSignal)
  | ads (s : AdSignal)
  deriving DecidableEq, Repr

end Playback
