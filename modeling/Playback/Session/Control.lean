import Playback.Session.Basic

/-! The calls that a client makes to a session. -/

namespace Playback.Session

/-- Sets what the session may do. A timer that runs goes on with the new period. -/
def configure (a : Answers) (config : Config) (s : Session) : Outcome :=
  match config.fault? with
  | some e => s.refuse e
  | none =>
    issue { s with poller := s.poller.setPeriod (some a.now) config.period, config := some config }
      []

/-- Ends what is being played. In Picture-in-Picture the engine is on screen, so it is kept. -/
def tearDown (s : Session) : Outcome :=
  let stopped := { s with poller := s.poller.stop }
  (if s.state.inPip then issue { stopped with releasePending := false } []
    else stopped.releaseEngine).andThen fun s =>
      issue { s with state := s.state.reset, adSession := none } []

/-- Where a video starts: at its saved position if there is one and it is to be used. -/
def startOf (s : Session) (config : Config) (video : Video) : Int64 :=
  if config.resumePositions then (s.positions.known? video.id).getD video.start else video.start

/-- Takes up the current video of `playlist` and loads it into an engine. -/
def load (a : Answers) (config : Config) (playlist : Playlist) (s : Session) : Outcome :=
  let r := Resolution.of a config playlist.current
  (issue { s with playlist := some (playlist.setCurrent r.video), adSession := r.adSession }
    r.commands)
    |>.andThen (fun s =>
      if s.engine.isSome then s.issue [] else s.createEngine a s.state.backend)
    |>.andThen (fun s => s.tell (.load r.video (s.startOf config r.video)))
    |>.andThen (fun s => issue { s with state := s.state.move .ready } [])

/-- Plays these videos in place of anything else. -/
def init (a : Answers) (videos : List Video) (s : Session) : Outcome :=
  match s.config with
  | none => s.refuse .notConfigured
  | some config =>
    match Playlist.ofList? videos with
    | none => s.refuse .emptyPlaylist
    | some playlist => s.tearDown.andThen (load a config playlist)

/-- Plays these videos, each with its own ad tag. -/
def initWithAds (a : Answers) (videos : List Video) (tags : List String) (s : Session) : Outcome :=
  if tags.length < videos.length then s.refuse (.adCountMismatch videos.length tags.length)
  else s.init a (videos.zipWith (fun v tag => v.withAds (some tag)) tags)

/-- Puts a video at the end of the playlist. -/
def addVideo (video : Video) (s : Session) : Outcome :=
  match s.isActive, s.playlist with
  | true, some p => issue { s with playlist := some (p.push video) } []
  | _, _ => s.refuse .notInitialized

/-- Tells the engine `c`; without an engine that may be used the call is refused. -/
def control (c : EngineCommand) (s : Session) : Outcome :=
  if s.isActive then s.tell c else s.refuse .notInitialized

def play (s : Session) : Outcome := s.control .play

def seek (position : Int64) (s : Session) : Outcome := s.control (.seek position)

/-- Sets the position of the current video. -/
def record (position : Int64) (s : Session) : Session :=
  match s.current? with
  | some v => { s with positions := s.positions.record v.id position }
  | none => s

/-- Pauses, and saves where the engine is as long as one is held. -/
def pause (a : Answers) (s : Session) : Outcome :=
  if s.engine.isSome then (s.record a.position).control .pause else s.refuse .notInitialized

def setSticky (sticky : Bool) (s : Session) : Outcome :=
  if s.isActive then issue { s with state := { s.state with sticky } } []
  else s.refuse .notInitialized

/-- Moves playback to another backend, at the position where it is. The engine is released before
the other one is made, so there are never two. -/
def switchBackend (a : Answers) (target : Backend) (s : Session) : Outcome :=
  match s.config with
  | none => s.refuse .notConfigured
  | some config =>
    if target = .cast ∧ !config.castEnabled then s.refuse (.backendUnavailable target)
    else if target = s.state.backend then s.issue []
    else
      match s.isActive, s.current? with
      | true, some video =>
        (s.record a.position).releaseEngine
          |>.andThen (createEngine a target)
          |>.andThen (tell (.load video a.position))
          |>.andThen (fun s' => if s.state.isPlaying then s'.tell .play else s'.issue [])
          |>.andThen (fun s => issue { s with state := { s.state with backend := target } } [])
      | _, _ => s.refuse .notInitialized

/-- Ends the session. In Picture-in-Picture the engine is on screen, so it is released later. -/
def release (s : Session) : Outcome :=
  let ended := { s with poller := s.poller.stop, state := s.state.reset, adSession := none }
  if s.engine.isSome then
    if s.state.inPip then issue { ended with releasePending := true } [] else ended.releaseEngine
  else ended.issue []

/-- The chrome is hidden in Picture-in-Picture, unless the configuration says otherwise. -/
def enterPip (s : Session) : Outcome :=
  issue { s with state := { s.state with inPip := true } }
    (if (s.config.map (·.hideChromeInPip)).getD true then [.chrome false] else [])

/-- Leaves Picture-in-Picture, and releases the engine if that was put off until now. -/
def exitPip (s : Session) : Outcome :=
  (issue { s with state := { s.state with inPip := false } } [.chrome true]).andThen fun s =>
    if s.releasePending then s.releaseEngine else s.issue []

def recordPosition (id : String) (position : Int64) (s : Session) : Outcome :=
  issue { s with positions := s.positions.record id position } []

def clearPosition (id : String) (s : Session) : Outcome :=
  issue { s with positions := s.positions.clear id } []

def readPosition (s : Session) (id : String) : Int64 := s.positions.read id

/-- The end of the session itself: whatever it still holds is let go. -/
def drop (s : Session) : Outcome := { s with poller := s.poller.stop }.releaseEngine

end Playback.Session
