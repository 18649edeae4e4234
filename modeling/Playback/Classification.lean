import Playback.Signal
import Playback.State
import Playback.Tracking.Event

/-! What a signal means: the event that it is reported as, if any, and the changes that the session
makes because of it. Nothing else is looked at than the state, the current video and whether its
avails can be asked for. -/

namespace Playback

/-- A change to the position of the current video. -/
inductive PositionChange where
  | record (position : Int64)
  | clear
  deriving DecidableEq, Repr

/-- A change to the timer that polls for avails. -/
inductive TimerChange where
  | start
  | stop
  deriving DecidableEq, Repr

/-- The changes that follow from a signal; a part that is missing stays as it is. -/
structure Delta where
  phase : Option Phase := none
  playStarted : Option Bool := none
  firstAdCompleted : Option Bool := none
  position : Option PositionChange := none
  timer : Option TimerChange := none
  /-- The playlist moves on. -/
  advances : Bool := false
  failure : Option Failure := none
  deriving DecidableEq, Repr

def Delta.isEmpty (d : Delta) : Bool := d = {}

structure Classification where
  event : Option Event := none
  delta : Delta := {}
  deriving DecidableEq, Repr

/-- What the meaning of a signal depends on. -/
structure Circumstances where
  state : State
  video : Video
  /-- The avails of the video can be asked for. -/
  tracked : Bool

namespace Circumstances

/-- An event at a position of the video. -/
def playbackEvent (c : Circumstances) (kind : EventKind) (position : Int64) : Event :=
  ⟨c.video.id, kind, .playback position (c.video.percentAt position)⟩

/-- The meaning of a signal of the engine. -/
def classifyEngine (c : Circumstances) : EngineSignal → Classification
  | .playStarted position =>
    if c.state.playStarted then {}
    else
      { event := some (c.playbackEvent .playStarted position)
        delta :=
          { phase := some .playing
            playStarted := some true
            timer := if c.tracked then some .start else none } }
  | .paused position =>
    { event := some (c.playbackEvent .playPaused position)
      delta := { phase := some .paused, position := some (.record position) } }
  | .resumed position =>
    { event := some (c.playbackEvent .playResumed position), delta := { phase := some .playing } }
  | .seeked origin target => { event := some ⟨c.video.id, .seeked, .seek origin target⟩ }
  | .percentWatched percent =>
    match c.video.isLive, Milestone.at? percent with
    | false, some m => { event := some ⟨c.video.id, .watched m, .percent percent⟩ }
    | _, _ => {}
  | .adStarted percent =>
    { event := some ⟨c.video.id, .adStarted (.ofStart percent), .percent percent⟩
      delta := { phase := some (.adBreak false) } }
  | .adCompleted percent =>
    { event := some ⟨c.video.id, .adCompleted (.ofCompletion percent), .percent percent⟩
      delta :=
        { phase := some (if AdPosition.ofCompletion percent = .postroll then .ended else .playing)
          firstAdCompleted := some true } }
  | .playCompleted position =>
    { event := some (c.playbackEvent .playCompleted (position.getD 0))
      delta :=
        { phase := some .ended
          playStarted := some false
          position := position.map .record
          timer := some .stop } }
  | .contentEnded =>
    { delta :=
        { phase := some .ended, playStarted := some false, timer := some .stop, advances := true } }
  | .fault f =>
    { event :=
        if f.classify.kind.isRecoverable then
          some ⟨c.video.id, .streamRecovered, .info f.classify.message⟩
        else none
      delta := { failure := some f.classify } }

/-- The meaning of a signal of the software that renders ads. An ad is paused only while it moves,
and resumed only while it stands still. -/
def classifyAds (c : Circumstances) : AdSignal → Classification
  | .started ordinal ad =>
    { event := some ⟨c.video.id, .adStarted (.ofOrdinal ordinal), .ad ad⟩
      delta := { phase := some (.adBreak false) } }
  | .completed ordinal ad =>
    { event := some ⟨c.video.id, .adCompleted (.ofOrdinal ordinal), .ad ad⟩
      delta := { firstAdCompleted := if c.state.firstAdCompleted then none else some true } }
  | .paused ad =>
    if c.state.inAdBreak ∧ !c.state.adPaused then
      { event := some ⟨c.video.id, .adPaused, .ad ad⟩, delta := { phase := some (.adBreak true) } }
    else {}
  | .resumed ad =>
    if c.state.adPaused then
      { event := some ⟨c.video.id, .adResumed, .ad ad⟩
        delta := { phase := some (.adBreak false) } }
    else {}
  | .skipped ad => { event := some ⟨c.video.id, .adSkipped, .ad ad⟩ }
  | .clicked ad => { event := some ⟨c.video.id, .adClicked, .ad ad⟩ }
  | .breakEnded =>
    { event := some ⟨c.video.id, .adBreakEnded, .none⟩, delta := { phase := some .playing } }

def classify (c : Circumstances) : Signal → Classification
  | .engine s => c.classifyEngine s
  | .ads s => c.classifyAds s

end Circumstances

end Playback
