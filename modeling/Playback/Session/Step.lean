import Playback.Session.Control

/-! What a session does with a signal and with a message from the background, and the step of a
session with any operation. -/

namespace Playback.Session

/-- Mends a failure that can be mended, and shows and reports any other. -/
def handleFailure (f : Failure) (s : Session) : Outcome :=
  if f.kind.isRecoverable then (s.tell .seekToDefault).andThen (tell .prepare)
  else s.issue [.overlay f.message, .report f]

/-- Starts the timer with the standard period. -/
def startPolling (a : Answers) (s : Session) : Session :=
  { s with poller := s.poller.startStandard (some a.now) }

/-- Moves past the current video. The next one is taken up, loaded from its beginning and played;
after the last one nothing is played. -/
def advance (a : Answers) (s : Session) : Outcome :=
  match s.config, s.playlist with
  | some config, some p =>
    match p.next? with
    | none =>
      let adv := p.advance s.positions
      issue { s with playlist := some adv.playlist, positions := adv.positions }
        (adv.events.map .event)
    | some next =>
      let r := Resolution.of a config next
      let adv := (p.setNext r.video).advance s.positions
      (issue
        { s with
          playlist := some adv.playlist
          positions := adv.positions
          adSession := r.adSession }
        (r.commands ++ adv.events.map .event))
        |>.andThen (tell (.load adv.playlist.current 0))
        |>.andThen (tell .play)
        |>.andThen (fun s =>
          let s := { s with state :=
            { (s.state.move .ready).move .playing with playStarted := true } }
          issue (if s.tracking?.isSome then s.startPolling a else s) [])
  | _, _ => s.issue []

/-- The state after the changes of `d`. -/
def changeState (d : Delta) (s : State) : State :=
  let s := match d.phase with
    | some phase => s.move phase
    | none => s
  { s with
    playStarted := d.playStarted.getD s.playStarted
    firstAdCompleted := d.firstAdCompleted.getD s.firstAdCompleted }

/-- The session after the changes of `d` to what it holds. -/
def change (a : Answers) (d : Delta) (s : Session) : Session :=
  let s := { s with state := changeState d s.state }
  let s := match d.position with
    | some (.record position) => s.record position
    | some .clear => s.record noPosition
    | none => s
  match d.timer with
  | some .start => s.startPolling a
  | some .stop => { s with poller := s.poller.stop }
  | none => s

/-- Makes the changes of `d`, and then what they lead to. -/
def apply (a : Answers) (d : Delta) (s : Session) : Outcome :=
  ((s.change a d).issue [])
    |>.andThen (fun s => match d.failure with
      | some f => s.handleFailure f
      | none => s.issue [])
    |>.andThen (fun s => if d.advances then s.advance a else s.issue [])

/-- Reports what a signal means and acts on it. A session that is not active ignores it. -/
def handleSignal (a : Answers) (signal : Signal) (s : Session) : Outcome :=
  match s.isActive, s.current? with
  | true, some video =>
    let c := Circumstances.classify
      { state := s.state, video, tracked := s.tracking?.isSome } signal
    (s.issue (c.event.toList.map .event)).andThen (apply a c.delta)
  | _, _ => s.issue []

/-- Acts on a message of the present timer: a tick has avails fetched, and avails that are there are
reported and start the timer again. -/
def handleHandoff (a : Answers) (h : Handoff) (s : Session) : Outcome :=
  match h with
  | .tick generation =>
    match s.poller.accepts generation, s.tracking? with
    | true, some url => s.issue [.fetch url generation]
    | _, _ => s.issue []
  | .fetched generation avails =>
    match s.poller.accepts generation, avails, s.current? with
    | true, _ :: _, some video =>
      issue (s.startPolling a)
        [.event ⟨video.id, .availsReceived,
          .avails avails (if s.engine.isSome then a.position else noPosition)⟩]
    | _, _, _ => s.issue []

end Playback.Session

namespace Playback

/-- Everything that can be done to a session. -/
inductive Operation where
  | configure (config : Config)
  | init (videos : List Video)
  | initWithAds (videos : List Video) (tags : List String)
  | addVideo (video : Video)
  | play
  | pause
  | seek (position : Int64)
  | setSticky (sticky : Bool)
  | switchBackend (target : Backend)
  | release
  | enterPip
  | exitPip
  | recordPosition (id : String) (position : Int64)
  | clearPosition (id : String)
  | signal (s : Signal)
  | handoff (h : Handoff)
  deriving DecidableEq, Repr

/-- What comes of an operation while the components around the session answer `a`. -/
def Session.step (s : Session) (a : Answers) : Operation → Outcome
  | .configure config => s.configure a config
  | .init videos => s.init a videos
  | .initWithAds videos tags => s.initWithAds a videos tags
  | .addVideo video => s.addVideo video
  | .play => s.play
  | .pause => s.pause a
  | .seek position => s.seek position
  | .setSticky sticky => s.setSticky sticky
  | .switchBackend target => s.switchBackend a target
  | .release => s.release
  | .enterPip => s.enterPip
  | .exitPip => s.exitPip
  | .recordPosition id position => s.recordPosition id position
  | .clearPosition id => s.clearPosition id
  | .signal signal => s.handleSignal a signal
  | .handoff h => s.handleHandoff a h

end Playback
