import Playback.Classification
import Playback.Config
import Playback.Playlist
import Playback.Polling.Poller

/-! A session: what it holds, what it tells the components around it to do, and what comes of an
operation on it. The components themselves are not part of a session. What they answer while an
operation runs is given to the operation, and what they are told is a list of commands. -/

namespace Playback

/-- What an engine is told. -/
inductive EngineCommand where
  | load (video : Video) (start : Int64)
  | play
  | pause
  | stop
  | seek (position : Int64)
  /-- To the default position of a live stream. -/
  | seekToDefault
  /-- To get ready again after a failure. -/
  | prepare
  | release
  deriving DecidableEq, Repr

/-- What the components around a session are told. -/
inductive Command where
  /-- A new engine, the `serial`-th one. -/
  | create (serial : Nat) (backend : Backend)
  /-- An engine that could not be made. -/
  | createFailed (backend : Backend)
  | engine (serial : Nat) (command : EngineCommand)
  /-- To find the ad session of a video. -/
  | resolve (video : Video)
  /-- To fetch avails in the background, for a generation of the timer. -/
  | fetch (url : Url) (generation : Nat)
  | event (e : Event)
  | chrome (visible : Bool)
  | overlay (message : String)
  | report (f : Failure)
  deriving DecidableEq, Repr

/-- An engine that a session holds. -/
structure Engine where
  serial : Nat
  backend : Backend
  deriving DecidableEq, Repr

/-- What the components around a session answer while an operation runs. -/
structure Answers where
  now : Instant := 0
  /-- Where the engine is. -/
  position : Int64 := 0
  /-- The ad session of the video that is asked about. -/
  manifest : Option AdSession := none
  /-- Why no engine can be made, if none can. -/
  createFailure : Option Error := none
  deriving DecidableEq, Repr

structure Session where
  id : String := ""
  config : Option Config := none
  state : State := {}
  playlist : Option Playlist := none
  positions : Positions := {}
  /-- The ad session of the current video. -/
  adSession : Option AdSession := none
  engine : Option Engine := none
  /-- The engine is to be released when Picture-in-Picture ends. -/
  releasePending : Bool := false
  poller : Poller := {}
  /-- The number of engines made so far. -/
  created : Nat := 0
  deriving DecidableEq, Repr, Inhabited

/-- What comes of an operation. -/
structure Outcome where
  session : Session
  commands : List Command
  error : Option Error
  deriving DecidableEq, Repr

/-- What comes of an operation that goes on with `f`, unless it has failed. -/
def Outcome.andThen (o : Outcome) (f : Session → Outcome) : Outcome :=
  match o.error with
  | some _ => o
  | none =>
    let next := f o.session
    ⟨next.session, o.commands ++ next.commands, next.error⟩

namespace Session

/-- The session tells `commands`. -/
def issue (s : Session) (commands : List Command) : Outcome := ⟨s, commands, none⟩

/-- The session refuses the operation, and nothing changes. -/
def refuse (s : Session) (e : Error) : Outcome := ⟨s, [], some e⟩

/-- An engine is held, and it is not to be released. -/
def isActive (s : Session) : Bool := s.engine.isSome && !s.releasePending

def current? (s : Session) : Option Video := s.playlist.map (·.current)

/-- Where the avails of the current video are asked for. -/
def tracking? (s : Session) : Option Url := s.adSession.bind (·.tracking)

def isPolling (s : Session) : Bool := s.poller.isRunning

/-- Tells the engine `c`, if one is held. -/
def tell (c : EngineCommand) (s : Session) : Outcome :=
  match s.engine with
  | some e => s.issue [.engine e.serial c]
  | none => s.issue []

/-- Lets go of the engine. -/
def releaseEngine (s : Session) : Outcome :=
  (s.tell .release).andThen fun s => issue { s with engine := none, releasePending := false } []

/-- Makes an engine and holds it. -/
def createEngine (a : Answers) (backend : Backend) (s : Session) : Outcome :=
  match a.createFailure with
  | some e => ⟨s, [.createFailed backend], some e⟩
  | none =>
    issue { s with engine := some ⟨s.created + 1, backend⟩, created := s.created + 1 }
      [.create (s.created + 1) backend]

end Session

/-- What is known about the ads of a video when it is taken up. -/
structure Resolution where
  /-- The video, under the address of its stitched manifest if it has one. -/
  video : Video
  adSession : Option AdSession
  commands : List Command
  deriving DecidableEq, Repr

/-- Only a live stream that wants ads, where ads are enabled, is asked about. -/
def Resolution.of (a : Answers) (config : Config) (video : Video) : Resolution :=
  if video.isLive ∧ video.wantsAds ∧ config.adsEnabled then
    ⟨match a.manifest.bind (·.manifest) with
      | some url => video.withId url.text
      | none => video, a.manifest, [.resolve video]⟩
  else ⟨video, none, []⟩

end Playback
