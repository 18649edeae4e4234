import Playback.Advertising

/-! The events that a session reports: a closed list of kinds, each with a name, and what is told
along with an event. -/

namespace Playback

/-- Where an ad stands in the video. -/
inductive AdPosition where
  | preroll
  | midroll
  | postroll
  deriving DecidableEq, Repr

namespace AdPosition

/-- The percentage from which on an ad that starts stands after the video. -/
def postrollStart : UInt8 := 90

/-- The percentage at which an ad that is over stood after the video. -/
def postrollCompletion : UInt8 := 100

/-- The position of an ad that starts at `percent` of the video. -/
def ofStart (percent : UInt8) : AdPosition :=
  if percent = 0 then .preroll else if percent < postrollStart then .midroll else .postroll

/-- The position of an ad that is over at `percent` of the video. -/
def ofCompletion (percent : UInt8) : AdPosition :=
  if percent = 0 then .preroll else if percent = postrollCompletion then .postroll else .midroll

/-- The position of the ad with the number `ordinal`. -/
def ofOrdinal (ordinal : Int32) : AdPosition :=
  if ordinal = 0 then .preroll else if 0 < ordinal then .midroll else .postroll

def name : AdPosition → String
  | .preroll => "PREROLL"
  | .midroll => "MIDROLL"
  | .postroll => "POSTROLL"

end AdPosition

/-- How much of a video on demand has been watched. -/
inductive Milestone where
  | quarter
  | half
  | threeQuarters
  deriving DecidableEq, Repr

namespace Milestone

def percent : Milestone → UInt8
  | .quarter => 25
  | .half => 50
  | .threeQuarters => 75

/-- The milestone at exactly `percent`. -/
def at? (percent : UInt8) : Option Milestone :=
  if percent = 25 then some .quarter
  else if percent = 50 then some .half
  else if percent = 75 then some .threeQuarters
  else none

end Milestone

inductive EventKind where
  | adStarted (position : AdPosition)
  | adCompleted (position : AdPosition)
  | adPaused
  | adResumed
  | adSkipped
  | adClicked
  | adBreakEnded
  | playStarted
  | playPaused
  | playResumed
  | playCompleted
  | seeked
  | watched (milestone : Milestone)
  | streamRecovered
  | availsReceived
  deriving DecidableEq, Repr

namespace EventKind

def name : EventKind → String
  | .adStarted position => position.name ++ "_AD_STARTED"
  | .adCompleted position => position.name ++ "_AD_COMPLETED"
  | .adPaused => "AD_PAUSED"
  | .adResumed => "AD_RESUMED"
  | .adSkipped => "AD_SKIPPED"
  | .adClicked => "AD_CLICKED"
  | .adBreakEnded => "AD_BREAK_ENDED"
  | .playStarted => "PLAY_STARTED"
  | .playPaused => "PLAY_PAUSED"
  | .playResumed => "PLAY_RESUMED"
  | .playCompleted => "PLAY_COMPLETED"
  | .seeked => "SEEKED"
  | .watched milestone => "VIDEO_" ++ toString milestone.percent ++ "_WATCHED"
  | .streamRecovered => "STREAM_RECOVERED"
  | .availsReceived => "AVAILS_RECEIVED"

/-- Every kind of event. -/
def all : List EventKind :=
  [.adStarted .preroll, .adStarted .midroll, .adStarted .postroll, .adCompleted .preroll,
    .adCompleted .midroll, .adCompleted .postroll, .adPaused, .adResumed, .adSkipped, .adClicked,
    .adBreakEnded, .playStarted, .playPaused, .playResumed, .playCompleted, .seeked,
    .watched .quarter, .watched .half, .watched .threeQuarters, .streamRecovered, .availsReceived]

/-- The kind with a name. -/
def ofName? (name : String) : Option EventKind := all.find? fun k => k.name = name

end EventKind

/-- What is told along with an event. -/
inductive Payload where
  | none
  | playback (position : Int64) (percent : UInt8)
  | percent (percent : UInt8)
  | seek (origin target : Int64)
  | ad (ad : Ad)
  | avails (avails : List Avail) (timelinePosition : Int64)
  | info (message : String)
  deriving DecidableEq, Repr

/-- Something that happened to the video with the id `videoId`. -/
structure Event where
  videoId : String
  kind : EventKind
  payload : Payload
  deriving DecidableEq, Repr

end Playback
