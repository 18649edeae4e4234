import Playback.Proofs.Session.Refusal
import Playback.Proofs.Session.Succession

/-! What a session remembers of where its videos were left. A position that is read is the one
written last for that id, and the incidents that write are told from the history alone. A start of
playback goes by what is remembered of its first video. -/

namespace Playback

/-- Where the current video is, if the signal says so. -/
def Signal.position? : Signal → Option Int64
  | .engine (.paused position) => some position
  | .engine (.playCompleted position) => position
  | _ => none

/-- The position that the operation saves for the current video, if it saves one. The end of a video
saves that it is unknown. -/
def Session.saved? (s : Session) (a : Answers) : Operation → Option Int64
  | .pause => if s.engine.isSome then some a.position else none
  | .switchBackend target =>
    if s.switchRefusal? target = none ∧ target ≠ s.state.backend then some a.position else none
  | .signal (.engine .contentEnded) =>
    if s.isActive ∧ s.playlist.map (·.progress) ≠ some .finished then some noPosition else none
  | .signal signal => if s.isActive then signal.position? else none
  | _ => none

/-- The id and the position that the entry writes, if it writes any. -/
def Entry.write? (e : Entry) : Option (String × Int64) :=
  match e.incident with
  | .operation (.recordPosition id position) _ => some (id, position)
  | .operation (.clearPosition id) _ => some (id, noPosition)
  | .operation op a =>
    (e.before.saved? a op).bind fun position => e.before.current?.map fun v => (v.id, position)
  | .wait _ => none

/-- The position written last for exactly this id. -/
def lastWritten (h : List Entry) (id : String) : Option Int64 :=
  (h.filterMap Entry.write?).reverse.lookup id

/-- An engine is told to load a video. -/
def Command.isLoad (c : Command) : Bool := c matches .engine _ (.load _ _)

theorem lastWritten_concat (h : List Entry) (e : Entry) (id : String) :
    lastWritten (h ++ [e]) id =
      match e.write? with
      | some (key, position) => if id = key then some position else lastWritten h id
      | none => lastWritten h id := by
  unfold lastWritten
  rw [List.filterMap_append]
  cases hw : e.write? with
  | none => simp [hw]
  | some w =>
    obtain ⟨key, position⟩ := w
    by_cases hid : id = key
    · simp [hw, hid]
    · have hb : (id == key) = false := by simpa using hid
      simp [hw, hid, hb, List.lookup_cons]

/-- The table after a write, if there is one. -/
def Positions.write (t : Positions) : Option (String × Int64) → Positions
  | some (id, position) => t.record id position
  | none => t

theorem Positions.read_write (t : Positions) (w : Option (String × Int64)) (id : String) :
    (t.write w).read id =
      match w with
      | some (key, position) => if id = key then position else t.read id
      | none => t.read id := by
  cases w with
  | none => rfl
  | some w => exact t.read_record w.1 id w.2

/-- A signal changes a position where it says what it is. -/
theorem Circumstances.classify_position (c : Circumstances) (signal : Signal) :
    (c.classify signal).delta.position = signal.position?.map .record := by
  cases signal with
  | engine signal => cases signal with
    | playStarted position =>
      simp only [classify, classifyEngine]
      split <;> rfl
    | percentWatched percent =>
      simp only [classify, classifyEngine]
      split <;> rfl
    | _ => rfl
  | ads signal => cases signal with
    | paused ad | resumed ad =>
      simp only [classify, classifyAds]
      split <;> rfl
    | _ => rfl

theorem Playlist.advance_positions (p : Playlist) (positions : Positions) :
    (p.advance positions).positions =
      if p.isFinished then positions else positions.clear p.current.id := by
  unfold advance
  split
  · rfl
  · cases p.upcoming <;> rfl

namespace Session

variable {s : Session} {a : Answers}

theorem record_positions (position : Int64) (s : Session) :
    (s.record position).positions =
      s.positions.write (s.current?.map fun v => (v.id, position)) := by
  unfold record
  cases s.current? <;> rfl

/-- The end of a video clears its position, as long as the playlist is not finished. -/
theorem advance_writes {config : Config} {p : Playlist} (hc : s.config = some config)
    (hp : s.playlist = some p) (a : Answers) :
    (s.advance a).session.positions =
      if p.isFinished then s.positions else s.positions.clear p.current.id := by
  cases hn : p.next? with
  | none =>
    rw [advance_last hc hp hn]
    exact p.advance_positions s.positions
  | some next =>
    rw [advance_next hc hp hn]
    exact (p.setNext _).advance_positions s.positions

theorem signal_writes (h : Coherent s) (a : Answers) (signal : Signal) :
    (s.step a (.signal signal)).session.positions =
      s.positions.write (Entry.write? ⟨s, .operation (.signal signal) a⟩) := by
  cases hactive : s.isActive with
  | false =>
    have hnone : s.saved? a (.signal signal) = none := by
      unfold saved?
      split <;> simp_all
    simp [step, handleSignal, hactive, issue, Entry.write?, hnone, Positions.write]
  | true =>
    have hheld := (isActive_iff.mp hactive).1
    obtain ⟨config, hc⟩ := Option.isSome_iff_exists.mp (h.configured hheld)
    obtain ⟨p, hp⟩ := Option.isSome_iff_exists.mp (h.listed hheld)
    have hcurrent : s.current? = some p.current := by simp [current?, hp]
    -- The end of a video clears its position and moves on; any other signal is recorded as it is.
    by_cases hended : signal = .engine .contentEnded
    · subst hended
      rw [contentEnded_eq hactive hp, advance_writes (s := s.ended) hc hp]
      by_cases hfinished : p.isFinished = true
      · simp [Entry.write?, saved?, hp, Playlist.progress, hfinished, Positions.write, ended]
      · simp [Entry.write?, saved?, hp, hactive, hcurrent, Playlist.progress, hfinished,
          Positions.write, Positions.clear, ended]
    · have hsaved : s.saved? a (.signal signal) = signal.position? := by
        unfold saved?
        split <;> simp_all
      have hnot : (Circumstances.classify ⟨s.state, p.current, s.tracking?.isSome⟩
          signal).delta.advances = false := by
        rw [← Bool.not_eq_true, Circumstances.classify_advances]
        exact hended
      have hposition := Circumstances.classify_position
        ⟨s.state, p.current, s.tracking?.isSome⟩ signal
      simp only [step, handleSignal, hactive, hcurrent, issue, Outcome.andThen_ok, apply_eq, hnot,
        change_eq, changePositions, hposition, record_positions, Entry.write?, hsaved]
      cases signal.position? <;> rfl

theorem switchBackend_writes (h : Coherent s) (a : Answers) (target : Backend) :
    (s.switchBackend a target).session.positions =
      s.positions.write (Entry.write? ⟨s, .operation (.switchBackend target) a⟩) := by
  cases hr : s.switchRefusal? target with
  | some e =>
    rw [switchBackend_refused hr]
    simp [refuse, Entry.write?, saved?, hr, Positions.write]
  | none =>
    rcases switchBackend_accepted (a := a) h hr with ⟨ht, hsame⟩ | ⟨e, video, hs⟩
    · rw [hsame]
      simp [issue, Entry.write?, saved?, ht, Positions.write]
    · -- The position is saved before it is known whether an engine can be made.
      have hsaved : (s.switchBackend a target).session.positions =
          (s.record a.position).positions := by
        cases hf : a.createFailure with
        | none => rw [switchBackend_created hs hf]; rfl
        | some err => rw [switchBackend_failed hs hf]
      rw [hsaved, record_positions]
      simp [Entry.write?, saved?, hr, hs.target]

/-- An incident writes what can be told of it beforehand, and nothing else. -/
theorem positions_undergo (h : Coherent s) (i : Incident) :
    (s.undergo i).session.positions = s.positions.write (Entry.write? ⟨s, i⟩) := by
  cases i with
  | wait limit => rfl
  | operation op a =>
    -- Even a start that is accepted keeps the positions of all videos.
    have hstarts : op.starts = true → (s.step a op).session.positions = s.positions := by
      intro hop
      rcases starts_cases a s hop with ⟨e, he⟩ | ⟨config, playlist, ho⟩
      · rw [he]
        rfl
      · obtain ⟨phase, engine, created, hload⟩ := s.tornDown.load_session a config playlist
        rw [step_opens_session ho, hload]
        rfl
    show (s.step a op).session.positions = _
    cases op with
    | init | initWithAds => exact hstarts rfl
    | signal signal => exact signal_writes h a signal
    | switchBackend target => exact switchBackend_writes h a target
    | pause =>
      simp only [step, pause, Entry.write?, saved?]
      split
      · rw [control_session, record_positions]
        rfl
      · rfl
    | configure config =>
      simp only [step, configure]
      split <;> rfl
    | addVideo video =>
      simp only [step, addVideo]
      split <;> rfl
    | play | seek =>
      simp only [step, play, seek, control_session]
      rfl
    | setSticky sticky =>
      simp only [step, setSticky]
      split <;> rfl
    | release =>
      simp only [step, release_eq]
      rfl
    | exitPip =>
      simp only [step, exitPip_eq]
      split <;> rfl
    | enterPip | recordPosition | clearPosition => rfl
    | handoff handoff =>
      simp only [step, handleHandoff]
      cases handoff <;> dsimp only <;> split <;> rfl

/-- What is read is what was written last. -/
theorem readPosition_after (id : String) (run : List Incident) (key : String) :
    ((fresh id).after run).readPosition key =
      (lastWritten ((fresh id).history run) key).getD noPosition := by
  induction run using List.reverseRecOn with
  | nil => rfl
  | append_singleton run i ih =>
    rw [after_concat, history_concat, lastWritten_concat, readPosition,
      positions_undergo (coherent_after id run), Positions.read_write]
    cases Entry.write? ⟨(fresh id).after run, i⟩ with
    | none => exact ih
    | some w =>
      dsimp only
      split
      · rfl
      · exact ih

theorem startOf_eq (config : Config) (v : Video) (s : Session) :
    s.startOf config v =
      if config.resumePositions = true ∧ s.readPosition v.id ≠ noPosition then s.readPosition v.id
      else v.start := by
  unfold startOf Positions.known? readPosition
  cases config.resumePositions
  · simp
  · by_cases hread : s.positions.read v.id = noPosition <;> simp [hread]

/-- A load that succeeds tells the engine that it ends with to load the video, and nothing else. -/
theorem load_loads {config : Config} {playlist : Playlist}
    (he : (s.load a config playlist).error = none) :
    ∃ e, (s.load a config playlist).session.engine = some e ∧
      (s.load a config playlist).commands.filter Command.isLoad =
        [.engine e.serial (s.firstLoad a config playlist)] := by
  have hresolved : (Resolution.of a config playlist.current).commands.filter Command.isLoad = [] :=
    List.filter_eq_nil_iff.mpr fun c hc => by simp [mem_resolution hc, Command.isLoad]
  cases hs : s.engine with
  | some e =>
    rw [load_held hs]
    exact ⟨e, hs, by simp [issue, hresolved, Command.isLoad, firstLoad]⟩
  | none => cases hf : a.createFailure with
    | none =>
      rw [load_created hs hf]
      exact ⟨_, rfl, by simp [issue, hresolved, Command.isLoad, firstLoad]⟩
    | some err => simp [load_failed hs hf] at he

/-- A start of playback that succeeds loads its first video once, under the address of its stitched
manifest if it has one, and where it was left if that is known and to be used. -/
theorem start_loads {op : Operation} (hop : op.starts = true) (he : (s.step a op).error = none) :
    ∃ config first rest e, s.config = some config ∧ op.videos? = some (first :: rest) ∧
      (s.step a op).session.engine = some e ∧
      let v := first.stitched (a.adSession? config first)
      (s.step a op).session.current? = some v ∧
        (s.step a op).commands.filter Command.isLoad =
          [.engine e.serial (.load v (s.startOf config v))] := by
  rcases starts_cases a s hop with ⟨err, hr⟩ | ⟨config, playlist, ho⟩
  · simp [hr, refuse] at he
  · obtain ⟨videos, hv, hp⟩ := Option.bind_eq_some_iff.mp ho.playlist
    cases videos with
    | nil => cases hp
    | cons first rest =>
      cases hp
      rw [step_opens ho] at he
      obtain ⟨e, hengine, hloads⟩ := load_loads he
      have hreleased : (if s.state.inPip then [] else s.toEngine .release).filter
          Command.isLoad = [] := by
        unfold toEngine
        cases s.state.inPip <;> cases s.engine <;> rfl
      rw [step_opens ho]
      refine ⟨config, first, rest, e, ho.config, hv, hengine, ?_, ?_⟩
      · obtain ⟨phase, engine, created, hload⟩ := s.tornDown.load_session a config
          { past := [], current := first, upcoming := rest }
        rw [hload]
        simp [current?, takeUp, Playlist.setCurrent, Resolution.of_eq]
      · simp only [List.filter_append, hreleased, hloads, firstLoad, Resolution.of_eq,
          List.nil_append]
        rfl

/-- What the session `s` with the history `h` remembers of its videos. -/
structure Recalls (s : Session) (h : List Entry) : Prop where
  read : ∀ id, s.readPosition id = (lastWritten h id).getD noPosition
  /-- A start of playback that succeeds loads its first video once, under the address of its
  stitched manifest if it has one, and where it was left if that is known and to be used. -/
  load : ∀ op a, op.starts = true → (s.step a op).error = none →
    ∃ config first rest e, s.config = some config ∧ op.videos? = some (first :: rest) ∧
      (s.step a op).session.engine = some e ∧
      let v := first.stitched (a.adSession? config first)
      let left := (lastWritten h v.id).getD noPosition
      let manifest := (a.adSession? config first).bind (·.manifest)
      v = { first with id := manifest.elim first.id (·.text) } ∧
        (s.step a op).session.current? = some v ∧
        (s.step a op).commands.filter Command.isLoad =
          [.engine e.serial (.load v
            (if config.resumePositions = true ∧ left ≠ noPosition then left else v.start))]

/-- A position that a session remembers is the one written last for its id, and the incidents that
write are the calls to do so, the pauses and switches that have an engine, and the signals that say
where a video is or that it has ended. Playback starts from what is remembered. -/
theorem positions_recalled (id : String) (run : List Incident) :
    Recalls ((fresh id).after run) ((fresh id).history run) := by
  have hread := readPosition_after id run
  generalize (fresh id).after run = s at hread
  refine ⟨hread, fun op a hop he => ?_⟩
  obtain ⟨config, first, rest, e, hc, hv, hengine, hcurrent, hloads⟩ := start_loads hop he
  refine ⟨config, first, rest, e, hc, hv, hengine, first.stitched_eq _, hcurrent, ?_⟩
  rw [startOf_eq, hread] at hloads
  exact hloads

/-- A position is found under the address of the manifest, not under the id that the stream had. -/
example :
    let video := (Video.live "a").withAds none
    let s := (fresh "s").after
      [.operation (.configure {}) {}, .operation (.recordPosition "a" 10) {},
        .operation (.recordPosition "m" 30) {}]
    let o := s.step { manifest := some { manifest := some ⟨"m"⟩, id := "x" } } (.init [video])
    o.commands.filter Command.isLoad = [.engine 1 (.load (video.withId "m") 30)] := by
  decide +kernel

end Session
end Playback
