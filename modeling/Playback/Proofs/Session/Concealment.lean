import Playback.Proofs.Polling.Attribution

/-! What a client cannot tell. Ticks of the timer and avails that come in change nothing that a
client sees of a session, neither when they are handled nor in what the session does later, but for
the events of avails themselves. Two runs with the same calls and signals, and the same answers to
them, bring the same replies. -/

namespace Playback

/-- An operation in the foreground, a call or a signal, with the answers to it but for the time. -/
def Incident.foreground? : Incident → Option (Operation × Answers)
  | .operation (.handoff _) _ | .wait _ => none
  | .operation op a => some (op, { a with now := 0 })

def foreground (run : List Incident) : List (Operation × Answers) :=
  run.filterMap Incident.foreground?

/-- The session with another poller. -/
def Session.withPoller (s : Session) (p : Poller) : Session := { s with poller := p }

/-- What a client can see of a session: all that it holds but the poller, and whether that runs. -/
def Session.view (s : Session) : Session × Bool := (s.withPoller {}, s.isPolling)

structure Reply where
  error : Option Error
  commands : List Command
  view : Session × Bool
  deriving DecidableEq

def Outcome.reply (o : Outcome) : Reply := ⟨o.error, o.commands, o.session.view⟩

/-- The replies to the calls and signals of a history, in order. -/
def replies (h : List Entry) : List Reply :=
  h.filterMap fun e => e.incident.foreground?.map fun _ => e.outcome.reply

/-- The command belongs to polling: it fetches avails or reports them. -/
def Command.polls (c : Command) : Bool := c.bringsAvails || c matches .fetch _ _

namespace Poller

theorem isRunning_startStandard (p : Poller) (now : Instant) :
    (p.startStandard (some now)).isRunning = true := rfl

theorem isRunning_setPeriod (p : Poller) (now : Instant) (period : Duration) :
    (p.setPeriod (some now) period).isRunning = p.isRunning := by
  rcases p.setPeriod_cases now period with ⟨hr, hp⟩ | ⟨hr, hp⟩
  · rw [hp, hr]
    rfl
  · rw [hp]
    rfl

theorem isRunning_elapse (p : Poller) (limit : Instant) :
    (p.elapse limit true).1.isRunning = p.isRunning := by
  obtain ⟨hnone, hsome⟩ := p.elapse_timer limit
  unfold isRunning
  cases ht : p.timer with
  | none => rw [hnone ht]
  | some t =>
    obtain ⟨due, hdue⟩ := hsome t ht
    rw [hdue]

end Poller

namespace Session

variable {s s' : Session}

/-- Sessions that look alike differ in the poller only. -/
theorem view_eq_iff :
    s'.view = s.view ↔ ∃ p, s' = s.withPoller p ∧ p.isRunning = s.poller.isRunning := by
  constructor
  · intro h
    simp only [view, Prod.mk.injEq] at h
    refine ⟨s'.poller, ?_, h.2⟩
    obtain ⟨⟩ := s'
    simpa [withPoller] using h.1
  · rintro ⟨p, rfl, hp⟩
    simp only [view, isPolling, withPoller, hp]

/-- In sessions that look alike, `f'` replies as `f` does. -/
def Respects (f f' : Session → Outcome) : Prop :=
  ∀ s s', s'.view = s.view → (f' s').reply = (f s).reply

theorem reply_issue (h : s'.view = s.view) (commands : List Command) :
    (s'.issue commands).reply = (s.issue commands).reply := by
  simp only [Outcome.reply, issue, h]

theorem Respects.andThen {f f' g g' : Session → Outcome} (hf : Respects f f')
    (hg : Respects g g') :
    Respects (fun s => (f s).andThen g) (fun s => (f' s).andThen g') := by
  intro s s' h
  have hfirst := hf s s' h
  simp only
  generalize f s = o at hfirst ⊢
  generalize f' s' = o' at hfirst ⊢
  obtain ⟨t, commands, error⟩ := o
  obtain ⟨t', commands', error'⟩ := o'
  simp only [Outcome.reply, Reply.mk.injEq] at hfirst
  obtain ⟨rfl, rfl, hview⟩ := hfirst
  cases error' with
  | some e => simp only [Outcome.andThen_failed, Outcome.reply, hview]
  | none =>
    have hsecond := hg t t' hview
    simp only [Outcome.reply, Reply.mk.injEq] at hsecond
    simp only [Outcome.andThen_ok, Outcome.reply, hsecond]

theorem Respects.of_view {f f' : Session → Session}
    (h : ∀ s s', s'.view = s.view → (f' s').view = (f s).view) (commands : List Command) :
    Respects (fun s => (f s).issue commands) (fun s => (f' s).issue commands) :=
  fun s s' hs => reply_issue (h s s' hs) commands

/-- The operation neither looks at the poller nor changes it. -/
def Blind (f : Session → Outcome) : Prop :=
  ∀ s p, f (s.withPoller p) = ⟨(f s).session.withPoller p, (f s).commands, (f s).error⟩

theorem Blind.andThen {f g : Session → Outcome} (hf : Blind f) (hg : Blind g) :
    Blind fun s => (f s).andThen g := by
  intro s p
  simp only [hf s p]
  obtain ⟨t, commands, error⟩ := f s
  cases error with
  | some e => rfl
  | none => simp only [Outcome.andThen_ok, hg t p]

theorem Blind.respects {f : Session → Outcome} (h : Blind f) : Respects f f := by
  intro s s' hs
  obtain ⟨p, rfl, hp⟩ := view_eq_iff.mp hs
  -- With the poller that the session has, the operation leaves that poller in place.
  have hkept : (f s).session.poller = s.poller :=
    congrArg (·.session.poller) (h s s.poller)
  simp only [h s p, Outcome.reply, Reply.mk.injEq, true_and]
  exact view_eq_iff.mpr ⟨p, rfl, hkept ▸ hp⟩

variable (a : Answers)

theorem tell_blind (c : EngineCommand) : Blind (tell c) := by
  intro s p
  rw [tell_eq, tell_eq]
  rfl

theorem control_blind (c : EngineCommand) : Blind (control c) := by
  intro s p
  have hactive : (s.withPoller p).isActive = s.isActive := rfl
  unfold control
  rw [hactive]
  split
  · exact tell_blind c s p
  · rfl

theorem record_withPoller (position : Int64) (s : Session) (p : Poller) :
    (s.withPoller p).record position = (s.record position).withPoller p := by
  have hcurrent : (s.withPoller p).current? = s.current? := rfl
  unfold record
  rw [hcurrent]
  cases s.current? <;> rfl

theorem releaseEngine_blind : Blind releaseEngine := by
  intro s p
  rw [releaseEngine_eq, releaseEngine_eq]
  rfl

theorem createEngine_blind (target : Backend) : Blind (createEngine a target) := by
  intro s p
  unfold createEngine
  cases a.createFailure <;> rfl

theorem load_blind (config : Config) (playlist : Playlist) : Blind (load a config playlist) := by
  intro s p
  cases he : s.engine with
  | some e =>
    rw [load_held he, load_held (s := s.withPoller p) he]
    rfl
  | none =>
    cases hf : a.createFailure with
    | none =>
      rw [load_created he hf, load_created (s := s.withPoller p) he hf]
      rfl
    | some e =>
      rw [load_failed he hf, load_failed (s := s.withPoller p) he hf]
      rfl

theorem addVideo_blind (video : Video) : Blind (addVideo video) := by
  intro s p
  have hactive : (s.withPoller p).isActive = s.isActive := rfl
  have hplaylist : (s.withPoller p).playlist = s.playlist := rfl
  unfold addVideo
  rw [hactive, hplaylist]
  cases s.isActive <;> cases s.playlist <;> rfl

theorem pause_blind : Blind (pause a) := by
  intro s p
  have hengine : (s.withPoller p).engine = s.engine := rfl
  unfold pause
  rw [hengine, record_withPoller]
  split
  · exact control_blind .pause _ p
  · rfl

theorem setSticky_blind (sticky : Bool) : Blind (setSticky sticky) := by
  intro s p
  have hactive : (s.withPoller p).isActive = s.isActive := rfl
  unfold setSticky
  rw [hactive]
  cases s.isActive <;> rfl

theorem exitPip_blind : Blind exitPip := by
  intro s p
  have hpending : (s.withPoller p).releasePending = s.releasePending := rfl
  rw [exitPip_eq, exitPip_eq, hpending]
  cases s.releasePending <;> rfl

/-- The part of a switch that comes after its checks. -/
theorem relocation_blind (target : Backend) (video : Video) (playing : Bool) :
    Blind fun s =>
      s.releaseEngine
        |>.andThen (createEngine a target)
        |>.andThen (tell (.load video a.position))
        |>.andThen (fun s => if playing then s.tell .play else s.issue [])
        |>.andThen (fun s => issue { s with state := { s.state with backend := target } } []) := by
  refine .andThen (.andThen (.andThen (releaseEngine_blind.andThen (createEngine_blind a target))
    (tell_blind _)) ?_) fun _ _ => rfl
  cases playing with
  | true => exact tell_blind .play
  | false => exact fun _ _ => rfl

theorem switchBackend_blind (target : Backend) : Blind (switchBackend a target) := by
  intro s p
  have hactive : (s.withPoller p).isActive = s.isActive := rfl
  have hcurrent : (s.withPoller p).current? = s.current? := rfl
  have hconfig : (s.withPoller p).config = s.config := rfl
  have hstate : (s.withPoller p).state = s.state := rfl
  unfold switchBackend
  rw [hactive, hcurrent, hconfig, hstate, record_withPoller]
  cases s.config with
  | none => rfl
  | some config =>
    dsimp only
    split
    · rfl
    split
    · rfl
    cases s.isActive with
    | false => rfl
    | true => cases s.current? with
      | none => rfl
      | some video => exact relocation_blind a target video s.state.isPlaying _ p

section Polling

variable (now : Instant)

theorem configure_respects (config : Config) :
    Respects (configure a config) (configure { a with now } config) := by
  intro s s' h
  obtain ⟨p, rfl, hp⟩ := view_eq_iff.mp h
  unfold configure
  cases config.fault? with
  | some e => simp only [Outcome.reply, refuse, h]
  | none =>
    refine reply_issue ?_ []
    refine view_eq_iff.mpr ⟨p.setPeriod (some now) config.period, rfl, ?_⟩
    simp only [Poller.isRunning_setPeriod, hp]

theorem tearDown_respects : Respects tearDown tearDown := by
  intro s s' h
  obtain ⟨p, rfl, hp⟩ := view_eq_iff.mp h
  rw [tearDown_eq, tearDown_eq]
  exact reply_issue rfl _

theorem init_respects (videos : List Video) :
    Respects (init a videos) (init { a with now } videos) := by
  intro s s' h
  have hconfig : s'.config = s.config := congrArg (·.1.config) h
  unfold init
  rw [hconfig]
  cases s.config with
  | none => simp only [Outcome.reply, refuse, h]
  | some config => cases Playlist.ofList? videos with
    | none => simp only [Outcome.reply, refuse, h]
    | some playlist =>
      exact tearDown_respects.andThen (load_blind a config playlist).respects s s' h

theorem release_respects : Respects release release := by
  intro s s' h
  obtain ⟨p, rfl, hp⟩ := view_eq_iff.mp h
  rw [release_eq, release_eq]
  exact reply_issue rfl _

theorem view_change (d : Delta) (h : s'.view = s.view) :
    (s'.change { a with now } d).view = (s.change a d).view := by
  obtain ⟨p, rfl, hp⟩ := view_eq_iff.mp h
  have hpositions : (s.withPoller p).changePositions d = s.changePositions d := by
    unfold changePositions
    cases d.position with
    | none => rfl
    | some change => cases change <;> simp only [record_withPoller] <;> rfl
  rw [change_eq, change_eq, hpositions]
  refine view_eq_iff.mpr ⟨changePoller { a with now } d p, rfl, ?_⟩
  unfold changePoller
  split
  · rfl
  · rfl
  · exact hp

theorem advance_respects : Respects (advance a) (advance { a with now }) := by
  intro s s' h
  obtain ⟨p, rfl, hp⟩ := view_eq_iff.mp h
  cases hc : s.config with
  | none =>
    rw [advance_none (.inl hc), advance_none (s := s.withPoller p) (.inl hc)]
    exact reply_issue h []
  | some config => cases hl : s.playlist with
    | none =>
      rw [advance_none (.inr hl), advance_none (s := s.withPoller p) (.inr hl)]
      exact reply_issue h []
    | some playlist => cases hn : playlist.next? with
      | none =>
        rw [advance_last hc hl hn, advance_last (s := s.withPoller p) hc hl hn]
        refine reply_issue ?_ _
        exact view_eq_iff.mpr ⟨p, rfl, hp⟩
      | some next =>
        rw [advance_next hc hl hn, advance_next (s := s.withPoller p) hc hl hn]
        refine reply_issue ?_ _
        have hr : Resolution.of { a with now } config next = Resolution.of a config next := rfl
        refine view_eq_iff.mpr ⟨_, rfl, ?_⟩
        simp only [wentOn, hr]
        split
        · rfl
        · exact hp

theorem handleFailure_blind (f : Failure) : Blind (handleFailure f) := by
  intro s p
  rw [handleFailure_eq, handleFailure_eq]
  rfl

theorem apply_respects (d : Delta) : Respects (apply a d) (apply { a with now } d) := by
  have hchange := Respects.of_view (fun s s' h => view_change a now d h) []
  unfold apply
  refine (hchange.andThen ?_).andThen ?_
  · cases d.failure with
    | none => exact fun s s' h => reply_issue h []
    | some f => exact (handleFailure_blind f).respects
  · cases d.advances with
    | false => exact fun s s' h => reply_issue h []
    | true => exact advance_respects a now

theorem handleSignal_respects (signal : Signal) :
    Respects (handleSignal a signal) (handleSignal { a with now } signal) := by
  intro s s' h
  obtain ⟨p, rfl, hp⟩ := view_eq_iff.mp h
  have hactive : (s.withPoller p).isActive = s.isActive := rfl
  have hcurrent : (s.withPoller p).current? = s.current? := rfl
  unfold handleSignal
  rw [hactive, hcurrent]
  cases s.isActive with
  | false => exact reply_issue h []
  | true => cases s.current? with
    | none => exact reply_issue h []
    | some video =>
      have hissue (cs : List Command) : Respects (issue · cs) (issue · cs) :=
        fun s s' h => reply_issue h cs
      exact (hissue _).andThen (apply_respects a now _) s _ h

/-- Calls and signals are answered by what a client can see. -/
theorem step_respects {op : Operation} (hop : (Incident.operation op a).foreground?.isSome) :
    Respects (fun s => s.step a op) (fun s => s.step { a with now } op) := by
  cases op with
  | configure config => exact configure_respects a now config
  | init videos => exact init_respects a now videos
  | initWithAds videos tags =>
    simp only [step, initWithAds]
    split
    · exact fun s s' h => by simp only [Outcome.reply, refuse, h]
    · exact init_respects a now _
  | addVideo video => exact (addVideo_blind video).respects
  | play => exact (control_blind .play).respects
  | pause => exact (pause_blind a).respects
  | seek position => exact (control_blind (.seek position)).respects
  | setSticky sticky => exact (setSticky_blind sticky).respects
  | switchBackend target => exact (switchBackend_blind a target).respects
  | release => exact release_respects
  | exitPip => exact exitPip_blind.respects
  | enterPip | recordPosition | clearPosition => exact Blind.respects fun _ _ => rfl
  | signal signal => exact handleSignal_respects a now signal
  | handoff handoff => cases hop

end Polling

section Runs

variable {i : Incident}

/-- A wait or a message from the background does not show. -/
theorem view_background (h : s.poller.Unended) (hi : i.foreground? = none) :
    (s.undergo i).session.view = s.view := by
  cases i with
  | wait limit =>
    exact view_eq_iff.mpr ⟨_, rfl, s.poller.isRunning_elapse limit⟩
  | operation op a => cases op with
    | handoff handoff =>
      change (s.handleHandoff a handoff).session.view = s.view
      unfold handleHandoff
      cases handoff with
      | tick generation =>
        dsimp only
        split <;> rfl
      | fetched generation avails =>
        dsimp only
        split
        · rename_i haccepts _
          -- Only a timer that runs is started again.
          refine view_eq_iff.mpr ⟨_, rfl, ?_⟩
          rw [Poller.isRunning_startStandard, h.isRunning, (Poller.accepts_iff.mp haccepts).1]
        · rfl
    | _ => cases hi

theorem polls_background (hi : i.foreground? = none) :
    ∀ c ∈ (s.undergo i).commands, c.polls = true := by
  intro c hc
  cases i with
  | wait limit => cases hc
  | operation op a => cases op with
    | handoff handoff =>
      rcases mem_handleHandoff hc with ⟨g, url, -, -, -, rfl⟩ | ⟨g, avails, v, -, -, -, -, rfl⟩
      · rfl
      · rfl
    | _ => cases hi

/-- What a call or a signal brings does not depend on the time or on what does not show. -/
theorem reply_foreground {op : Operation} {a : Answers} (h : s'.view = s.view)
    (hi : i.foreground? = some (op, a)) :
    (s'.undergo (.operation op a)).reply = (s.undergo i).reply := by
  cases i with
  | wait limit => cases hi
  | operation op' a' =>
    have hop : (Incident.operation op' a').foreground?.isSome := by simp [hi]
    have hsame : op' = op ∧ { a' with now := 0 } = a := by
      cases op' with
      | handoff handoff => cases hi
      | _ => simpa [Incident.foreground?] using hi
    obtain ⟨rfl, rfl⟩ := hsame
    exact step_respects a' 0 hop s s' h

/-- A run has the replies that its calls and signals have by themselves, in any session that looks
like the one at its start. -/
theorem replies_foreground (h : s'.view = s.view) (hu : s.poller.Unended) (run : List Incident) :
    let alone := (foreground run).map fun (op, a) => .operation op a
    replies (s'.history alone) = replies (s.history run) ∧
      (s'.after alone).view = (s.after run).view := by
  induction run generalizing s s' with
  | nil => exact ⟨rfl, h⟩
  | cons i run ih =>
    have hu' := (s.follows_undergo i).unended hu
    cases hi : i.foreground? with
    | none =>
      have hih := ih (h.trans (view_background hu hi).symm) hu'
      simpa [foreground, replies, hi] using hih
    | some call =>
      obtain ⟨op, a⟩ := call
      have hreply := reply_foreground h hi
      have hih := ih (congrArg Reply.view hreply) hu'
      have hop : (Incident.operation op a).foreground?.isSome := by
        cases i with
        | wait limit => cases hi
        | operation op' a' => cases op' <;> cases hi <;> rfl
      obtain ⟨call, hcall⟩ := Option.isSome_iff_exists.mp hop
      simpa [foreground, replies, hi, hcall, Entry.outcome, hreply] using hih

theorem log_replies (s : Session) (run : List Incident) :
    (s.log run).filter (!·.polls) =
      (replies (s.history run)).flatMap (·.commands.filter (!·.polls)) := by
  induction run generalizing s with
  | nil => rfl
  | cons i run ih =>
    rw [log_cons, List.filter_append, ih, history_cons]
    cases hi : i.foreground? with
    | none =>
      have hnone : (s.undergo i).commands.filter (!·.polls) = [] := by
        simpa using polls_background hi
      simp [replies, hi, hnone]
    | some call => simp [replies, hi, Outcome.reply, Entry.outcome]

end Runs

/-- Runs with the same calls and signals, and the same answers to them, bring the same replies and
leave the same for a client to see, wherever time passes in them and whatever comes from the
background. All that is told is the same, but for the events of avails and the fetches of them. -/
theorem background_unseen (id : String) (run run' : List Incident)
    (h : foreground run' = foreground run) :
    let s := fresh id
    replies (s.history run') = replies (s.history run) ∧
      (s.after run').view = (s.after run).view ∧
      (s.log run').filter (!·.polls) = (s.log run).filter (!·.polls) := by
  intro s
  have hu : s.poller.Unended := unended_after id []
  obtain ⟨hreplies, hview⟩ := replies_foreground (s := s) rfl hu run
  obtain ⟨hreplies', hview'⟩ := replies_foreground (s := s) rfl hu run'
  rw [h] at hreplies' hview'
  have hsame : replies (s.history run') = replies (s.history run) := hreplies'.symm.trans hreplies
  refine ⟨hsame, hview'.symm.trans hview, ?_⟩
  rw [log_replies, log_replies, hsame]

/-- A run in which avails come in, and one with the same calls and signals where time passes instead,
with messages of timers that are gone. -/
theorem background_unseen_delivery :
    let s := fresh "s"
    let rest : List Incident :=
      [.operation .pause { position := 7 }, .operation (.signal (.engine .contentEnded)) {},
        .operation .release {}]
    let run := delivery ++ rest
    let run' :=
      delivery.take 3 ++ [.wait 90000, .operation (.handoff (.fetched 1 [⟨"old", 0, 0, []⟩])) {}] ++
        rest
    foreground run' = foreground run ∧ (foreground run).length = 6 ∧
      (s.log run).any Command.bringsAvails = true ∧
      (s.log run').any Command.bringsAvails = false ∧
      replies (s.history run') = replies (s.history run) ∧
      (s.log run').filter (!·.polls) = (s.log run).filter (!·.polls) := by
  intro s rest run run'
  have h : foreground run' = foreground run := by decide +kernel
  obtain ⟨hreplies, -, hlog⟩ := background_unseen "s" run run' h
  exact ⟨h, by decide +kernel, by decide +kernel, by decide +kernel, hreplies, hlog⟩

end Session
end Playback
