import Playback.Proofs.Engine.Casting
import Playback.Proofs.Session.Epilogue
import Playback.Proofs.Session.Refusal

/-! Switches to another backend. The video is handed over from the engine that is held to a new one,
at the position where it is, and goes on there as it did before. Nothing else about the session
changes. -/

namespace Playback.Session

variable {s : Session} {a : Answers} {target : Backend} {e : Engine} {video : Video}

/-- What comes of a switch to `target` where the engine `e` hands `video` over at `position`. -/
structure HandsOver (s : Session) (target : Backend) (e : Engine) (video : Video) (position : Int64)
    (o : Outcome) : Prop where
  error : o.error = none
  /-- The new engine is told to play if the video or an ad was moving. Nothing is reported. -/
  commands : o.commands =
    [.engine e.serial .release, .create (s.created + 1) target,
      .engine (s.created + 1) (.load video position)] ++
      if s.state.phase = .playing ∨ s.state.phase = .adBreak false then
        [.engine (s.created + 1) .play]
      else []
  engine : o.session.engine = some ⟨s.created + 1, target⟩
  /-- The position is saved for the video, and no other entry of the table changes. -/
  saved : ∀ id, o.session.positions.entries.lookup id =
    if id = video.id then some position else s.positions.entries.lookup id
  state : o.session.state = { s.state with backend := target }
  /-- Put back what the fields above tell of, and the session is the one before. -/
  rest : { o.session with
    engine := s.engine
    created := s.created
    positions := s.positions
    state := s.state } = s

/-- An active session goes through with a switch that its configuration allows. -/
theorem switches_of_active (h : Coherent s) (hactive : s.isActive = true)
    (htarget : target ≠ s.state.backend) (hcast : target = .cast → s.mayCast = true) :
    ∃ e video, s.Switches target e video := by
  obtain ⟨e, video, he, hv⟩ := h.plays hactive
  obtain ⟨hheld, hpending⟩ := isActive_iff.mp hactive
  obtain ⟨config, hc⟩ := Option.isSome_iff_exists.mp (h.configured hheld)
  refine ⟨e, video, ⟨config, hc, fun ht => ?_⟩, htarget, he, hpending, hv⟩
  simpa [mayCast, hc] using hcast ht

theorem Switches.handsOver (hs : s.Switches target e video) (hf : a.createFailure = none) :
    HandsOver s target e video a.position (s.step a (.switchBackend target)) := by
  show HandsOver s target e video a.position (s.switchBackend a target)
  rw [switchBackend_created hs hf, record, hs.video]
  refine ⟨rfl, ?_, rfl, fun id => Positions.lookup_put _ _ _ _, rfl, rfl⟩
  simp only [issue, State.isPlaying_iff]

/-- An active session that switches to a backend that its configuration allows, other than its own,
hands its video over, whatever the phase, as long as an engine can be made. -/
theorem switch_hands_over (id : String) (run : List Incident) (a : Answers) (target : Backend)
    (hactive : ((fresh id).after run).isActive = true)
    (htarget : target ≠ ((fresh id).after run).state.backend)
    (hcast : target = .cast → ((fresh id).after run).mayCast = true)
    (hf : a.createFailure = none) :
    let s := (fresh id).after run
    ∃ e video, s.engine = some e ∧ s.current? = some video ∧
      HandsOver s target e video a.position (s.step a (.switchBackend target)) := by
  intro s
  obtain ⟨e, video, hs⟩ := switches_of_active (coherent_after id run) hactive htarget hcast
  exact ⟨e, video, hs.engine, hs.video, hs.handsOver hf⟩

/-- A run that stops in Picture-in-Picture, in an ad break of a video. -/
def pictureBreak : List Incident :=
  [.operation (.configure { castEnabled := true }) {},
    .operation (.init [{ id := "a", duration := 90 }]) {}, .operation (.recordPosition "b" 7) {},
    .operation (.signal (.engine (.playStarted 0))) {},
    .operation (.signal (.engine (.adStarted 50))) {}, .operation .enterPip {}]

/-- The receiver goes on with an ad that moves, and does not play where the ad stands still. -/
theorem switch_hands_over_break :
    let s := (fresh "s").after pictureBreak
    let still := pictureBreak ++ [.operation (.signal (.ads (.paused {}))) {}]
    let t := (fresh "s").after still
    let o := s.step { position := 40 } (.switchBackend .cast)
    let load : Command := .engine 2 (.load { id := "a", duration := 90 } 40)
    o.commands = [.engine 1 .release, .create 2 .cast, load, .engine 2 .play] ∧
      o.session.positions.entries.lookup "a" = some 40 ∧
      o.session.positions.entries.lookup "b" = some 7 ∧
      o.session.state.phase = .adBreak false ∧ o.session.state.inPip = true ∧
      (t.step { position := 40 } (.switchBackend .cast)).commands =
        [.engine 1 .release, .create 2 .cast, load] := by
  intro s still t o load
  obtain ⟨e, video, he, hv, h⟩ := switch_hands_over "s" pictureBreak { position := 40 } .cast
    (by decide +kernel) (by decide +kernel) (fun _ => by decide +kernel) rfl
  obtain ⟨e', video', he', hv', h'⟩ := switch_hands_over "s" still { position := 40 } .cast
    (by decide +kernel) (by decide +kernel) (fun _ => by decide +kernel) rfl
  have hengine : s.engine = some ⟨1, .device⟩ ∧ t.engine = some ⟨1, .device⟩ := by decide +kernel
  have hvideo : s.current? = some { id := "a", duration := 90 } ∧ t.current? = s.current? := by
    decide +kernel
  obtain rfl := Option.some.inj (he.symm.trans hengine.1)
  obtain rfl := Option.some.inj (he'.symm.trans hengine.2)
  obtain rfl := Option.some.inj (hv.symm.trans hvideo.1)
  obtain rfl := Option.some.inj (hv'.symm.trans (hvideo.2.trans hvideo.1))
  refine ⟨h.commands.trans ?_, (h.saved "a").trans ?_, (h.saved "b").trans ?_,
    (congrArg State.phase h.state).trans ?_, (congrArg State.inPip h.state).trans ?_,
    h'.commands.trans ?_⟩ <;> decide +kernel

end Playback.Session
