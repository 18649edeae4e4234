import Playback.Proofs.Polling.Generation
import Playback.Proofs.Session.Quiescence

/-! When a session polls for avails, and how often. The timer runs exactly while the video counts as
started and its avails can be asked for, and it ticks with the configured period from its start on.
What any incident does to that is one of six things, the beats. -/

namespace Playback

/-- The timer after `k` more ticks. -/
def Timer.ticked (t : Timer) (k : Nat) : Timer := { t with due := t.due + k * t.period }

theorem Duration.orDefault_ne_zero (d : Duration) : d.orDefault ≠ 0 := by
  unfold Duration.orDefault
  split
  · decide
  · assumption

namespace Poller

/-- The timer has the present generation and the standard period, which is not zero. -/
structure Regular (p : Poller) : Prop where
  positive : p.period ≠ 0
  unended : p.Unended
  generation : ∀ t, p.timer = some t → t.generation = p.generation
  period : ∀ t, p.timer = some t → t.period = p.period

variable {p : Poller}

theorem timer_startStandard (h : p.period ≠ 0) (now : Instant) :
    (p.startStandard (some now)).timer =
      some
        { generation := (p.startStandard (some now)).generation
          due := now + p.period
          period := p.period } := by
  simp [startStandard, start, stop, Timing.every, Timing.normalized, h]

theorem Regular.stop (h : p.Regular) : p.stop.Regular :=
  ⟨h.positive, p.unended_stop, by simp [Poller.stop], by simp [Poller.stop]⟩

theorem regular_startStandard (h : p.period ≠ 0) (now : Instant) :
    (p.startStandard (some now)).Regular := by
  have ht := timer_startStandard h now
  refine ⟨h, p.unended_startStandard now, fun t hs => ?_, fun t hs => ?_⟩
  · rw [ht] at hs
    cases hs
    rfl
  · rw [ht] at hs
    cases hs
    rfl

theorem elapse_cases (p : Poller) (limit : Instant) :
    (p.elapse limit true).1 = p ∨
      ∃ t k, p.timer = some t ∧ (p.elapse limit true).1 = { p with timer := some (t.ticked k) } := by
  unfold elapse
  cases ht : p.timer with
  | none => exact .inl rfl
  | some t =>
    dsimp only
    split
    · exact .inl rfl
    · exact .inr ⟨t, _, rfl, rfl⟩

theorem Regular.elapse (h : p.Regular) (limit : Instant) : (p.elapse limit true).1.Regular := by
  rcases p.elapse_cases limit with he | ⟨t, k, ht, he⟩
  · rw [he]
    exact h
  · rw [he]
    refine ⟨h.positive, ?_, ?_, ?_⟩
    · rintro _ ⟨⟩
      exact h.unended t ht
    · rintro _ ⟨⟩
      exact h.generation t ht
    · rintro _ ⟨⟩
      exact h.period t ht

/-- A new period is that of the timer at once, if there is one. -/
theorem Regular.setPeriod (h : p.Regular) (now : Instant) (period : Duration) :
    (p.setPeriod (some now) period).Regular ∧
      (p.setPeriod (some now) period).period = period.orDefault ∧
      (p.setPeriod (some now) period).timer.isSome = p.timer.isSome := by
  have hpositive := period.orDefault_ne_zero
  rcases p.setPeriod_cases now period with ⟨hr, hp⟩ | ⟨hr, hp⟩
  · rw [h.unended.isRunning] at hr
    rw [hp, hr, timer_startStandard hpositive now]
    exact ⟨regular_startStandard hpositive now, rfl, rfl⟩
  · rw [h.unended.isRunning, Option.isSome_eq_false_iff, Option.isNone_iff_eq_none] at hr
    rw [hp]
    exact ⟨⟨hpositive, h.unended, by simp [hr], by simp [hr]⟩, rfl, rfl⟩

end Poller

/-- The period of a configuration that can be used is taken as it is. -/
theorem Config.period_orDefault {config : Config} (h : config.fault? = none) :
    config.period.orDefault = config.period := by
  have hpoll : config.pollPeriod ≠ 0 := by
    intro hzero
    simp [Config.fault?, hzero] at h
  have hperiod : config.period ≠ 0 := by
    have hnat : config.pollPeriod.toNat ≠ 0 := fun hzero => hpoll (UInt64.toNat_inj.mp hzero)
    exact Nat.mul_ne_zero hnat (by decide)
  simp [Duration.orDefault, hperiod]

/-- A signal starts the timer together with the video, where avails can be asked for, and stops it
together with the video. -/
theorem Circumstances.classify_timer (c : Circumstances) (signal : Signal) :
    let d := (c.classify signal).delta
    d.playStarted = none ∧ d.timer = none ∧ d.advances = false ∨
      d.playStarted = some false ∧ d.timer = some .stop ∨
      c.state.playStarted = false ∧ d.playStarted = some true ∧
        d.timer = (if c.tracked then some .start else none) ∧ d.advances = false := by
  cases signal with
  | engine signal => cases signal with
    | playStarted position =>
      simp only [classify, classifyEngine]
      split
      · simp
      · simp_all
    | percentWatched percent =>
      simp only [classify, classifyEngine]
      split <;> simp
    | _ => simp [classify, classifyEngine]
  | ads signal => cases signal with
    | paused ad | resumed ad =>
      simp only [classify, classifyAds]
      split <;> simp
    | _ => simp [classify, classifyAds]

namespace Session

/-- What polling depends on apart from the timer is the same. -/
structure Steady (s s' : Session) : Prop where
  config : s'.config = s.config
  playStarted : s'.state.playStarted = s.state.playStarted
  tracking : s'.tracking? = s.tracking?

/-- How polling goes on in `s'` where it went on in `s` before the incident. -/
inductive Beat (s s' : Session) : Incident → Prop where
  | keeps {i : Incident} (steady : Steady s s') (poller : s'.poller = s.poller) : Beat s s' i
  | waits {limit : Instant} (steady : Steady s s')
      (poller : s'.poller = (s.poller.elapse limit true).1) : Beat s s' (.wait limit)
  | configures {config : Config} {a : Answers} (valid : config.fault? = none)
      (session : s' = { s with
        poller := s.poller.setPeriod (some a.now) config.period, config := some config }) :
      Beat s s' (.operation (.configure config) a)
  /-- The timer is stopped together with the video. -/
  | rests {i : Incident} (config : s'.config = s.config) (playStarted : s'.state.playStarted = false)
      (poller : s'.poller = s.poller.stop) : Beat s s' i
  /-- The video starts, from a session at rest or after a rest. -/
  | plays {op : Operation} {a : Answers} (p : Poller)
      (rested : s.state.playStarted = false ∧ p = s.poller ∧ s'.tracking? = s.tracking? ∨
        p = s.poller.stop)
      (active : s.isActive = true) (config : s'.config = s.config)
      (playStarted : s'.state.playStarted = true)
      (poller : s'.poller = if s'.tracking?.isSome then p.startStandard (some a.now) else p) :
      Beat s s' (.operation op a)
  /-- A timer that runs is started again. -/
  | polls {op : Operation} {a : Answers} (steady : Steady s s') (timer : s.poller.timer.isSome)
      (poller : s'.poller = s.poller.startStandard (some a.now)) : Beat s s' (.operation op a)

variable {s : Session} {a : Answers}

theorem Steady.refl (s : Session) : Steady s s := ⟨rfl, rfl, rfl⟩

theorem Beat.refl (s : Session) (i : Incident) : Beat s s i := .keeps (.refl s) rfl

theorem changeState_playStarted (d : Delta) (s : State) :
    (changeState d s).playStarted = d.playStarted.getD s.playStarted := by
  unfold changeState
  cases d.phase <;> rfl

/-- The end of a video is followed by rest, or by the start of the next one. -/
theorem advance_beat (a : Answers) (s : Session) :
    let s' := (s.advance a).session
    s'.config = s.config ∧
      (s'.state.playStarted = s.state.playStarted ∧ s'.poller = s.poller ∨
        s'.state.playStarted = true ∧
          s'.poller =
            if s'.tracking?.isSome then s.poller.startStandard (some a.now) else s.poller) := by
  cases hc : s.config with
  | none => exact advance_none (.inl hc) ▸ ⟨hc, .inl ⟨rfl, rfl⟩⟩
  | some config => cases hp : s.playlist with
    | none => exact advance_none (.inr hp) ▸ ⟨hc, .inl ⟨rfl, rfl⟩⟩
    | some playlist => cases hn : playlist.next? with
      | none =>
        rw [advance_last hc hp hn]
        exact ⟨hc, .inl ⟨rfl, rfl⟩⟩
      | some next =>
        rw [advance_next hc hp hn]
        exact ⟨hc, .inr ⟨rfl, rfl⟩⟩

theorem handleSignal_beat (a : Answers) (signal : Signal) (s : Session) :
    Beat s (s.handleSignal a signal).session (.operation (.signal signal) a) := by
  unfold handleSignal
  split
  · rename_i video hactive _
    simp only [issue, Outcome.andThen_ok, apply_eq, change_eq]
    have hstarted := changeState_playStarted
      (Circumstances.classify ⟨s.state, video, s.tracking?.isSome⟩ signal).delta s.state
    have hcases := Circumstances.classify_timer ⟨s.state, video, s.tracking?.isSome⟩ signal
    generalize (Circumstances.classify ⟨s.state, video, s.tracking?.isSome⟩ signal).delta = d at *
    rcases hcases with ⟨hplay, htimer, hadv⟩ | ⟨hplay, htimer⟩ | ⟨hnot, hplay, htimer, hadv⟩
    · rw [hplay] at hstarted
      simp only [hadv, changePoller, htimer]
      exact .keeps ⟨rfl, hstarted, rfl⟩ rfl
    · rw [hplay] at hstarted
      simp only [changePoller, htimer]
      split
      · -- The video has ended, and the timer is stopped before the next one is taken up.
        obtain ⟨hconfig, ⟨hstart, hpoller⟩ | ⟨hstart, hpoller⟩⟩ := advance_beat a
          { s with
            state := changeState d s.state
            positions := s.changePositions d
            poller := s.poller.stop }
        · exact .rests hconfig (hstart.trans hstarted) hpoller
        · exact .plays s.poller.stop (.inr rfl) hactive hconfig hstart hpoller
      · exact .rests rfl hstarted rfl
    · rw [hplay] at hstarted
      simp only [hadv, changePoller, htimer]
      refine .plays s.poller (.inl ⟨hnot, rfl, rfl⟩) hactive rfl hstarted ?_
      show _ = if s.tracking?.isSome then _ else _
      cases s.tracking?.isSome <;> rfl
  · exact .refl s _

theorem handleHandoff_beat (a : Answers) (handoff : Handoff) (s : Session) :
    Beat s (s.handleHandoff a handoff).session (.operation (.handoff handoff) a) := by
  unfold handleHandoff
  cases handoff with
  | tick generation =>
    dsimp only
    split <;> exact .refl s _
  | fetched generation avails =>
    dsimp only
    split
    · rename_i haccepts _
      exact .polls ⟨rfl, rfl, rfl⟩ (Poller.accepts_iff.mp haccepts).1 rfl
    · exact .refl s _

theorem clears_beat {i : Incident} (h : Entry.clears ⟨s, i⟩) : Beat s (s.undergo i).session i := by
  obtain ⟨op, a, rfl, hop⟩ := h
  change Beat s (s.step a op).session _
  rcases hop with rfl | ⟨config, playlist, ho⟩
  · have hrelease : s.step a .release = _ := s.release_eq
    rw [hrelease]
    exact .rests rfl rfl rfl
  · obtain ⟨phase, engine, created, hload⟩ := s.tornDown.load_session a config playlist
    rw [step_opens_session ho, hload]
    exact .rests rfl rfl rfl

theorem beat (s : Session) (i : Incident) : Beat s (s.undergo i).session i := by
  cases i with
  | wait limit => exact .waits ⟨rfl, rfl, rfl⟩ rfl
  | operation op a =>
    have hstarts : op.starts = true → Beat s (s.step a op).session (.operation op a) := by
      intro hop
      rcases starts_cases a s hop with ⟨e, he⟩ | ⟨config, playlist, ho⟩
      · rw [he]
        exact .refl s _
      · exact clears_beat (ho.clears a)
    change Beat s (s.step a op).session (.operation op a)
    cases op with
    | configure config =>
      simp only [step, configure]
      split
      · exact .refl s _
      · rename_i hvalid
        exact .configures hvalid rfl
    | init | initWithAds => exact hstarts rfl
    | addVideo video =>
      simp only [step, addVideo]
      split
      · exact .keeps ⟨rfl, rfl, rfl⟩ rfl
      · exact .refl s _
    | play | seek =>
      simp only [step, play, seek, control_session]
      exact .refl s _
    | pause =>
      simp only [step, pause]
      obtain ⟨positions, hr⟩ := s.record_eq a.position
      split
      · rw [control_session, hr]
        exact .keeps ⟨rfl, rfl, rfl⟩ rfl
      · exact .refl s _
    | setSticky sticky =>
      simp only [step, setSticky]
      split
      · exact .keeps ⟨rfl, rfl, rfl⟩ rfl
      · exact .refl s _
    | switchBackend target =>
      simp only [step]
      obtain ⟨positions, hr⟩ := s.record_eq a.position
      rcases switchBackend_cases a target s with ⟨err, h⟩ | ⟨e, video, h⟩
      · rw [h]
        exact .refl s _
      · cases hf : a.createFailure with
        | none =>
          rw [switchBackend_created h hf, hr]
          exact .keeps ⟨rfl, rfl, rfl⟩ rfl
        | some err =>
          rw [switchBackend_failed h hf, hr]
          exact .keeps ⟨rfl, rfl, rfl⟩ rfl
    | release => exact clears_beat ⟨.release, a, rfl, .inl rfl⟩
    | exitPip =>
      simp only [step, exitPip_eq]
      split <;> exact .keeps ⟨rfl, rfl, rfl⟩ rfl
    | enterPip | recordPosition | clearPosition => exact .keeps ⟨rfl, rfl, rfl⟩ rfl
    | signal signal => exact handleSignal_beat a signal s
    | handoff handoff => exact handleHandoff_beat a handoff s

/-- Whether the timer runs can be told from the video and the ad session, and its period is that of
the configuration. -/
structure Paced (s : Session) : Prop where
  regular : s.poller.Regular
  running : s.poller.timer.isSome ↔ s.state.playStarted ∧ s.tracking?.isSome
  period : ∀ config, s.config = some config → s.poller.period = config.period
  configured : s.poller.timer.isSome → s.config.isSome

namespace Paced

theorem fresh (id : String) : Paced (fresh id) := by
  have hpositive : (Session.fresh id).poller.period ≠ 0 := by
    show defaultPollPeriod ≠ 0
    decide
  refine ⟨⟨hpositive, ?_, ?_, ?_⟩, ?_, ?_, ?_⟩ <;>
    simp [Session.fresh, tracking?, Poller.Unended]

theorem undergo (h : Paced s) (hs : Coherent s) (i : Incident) : Paced (s.undergo i).session := by
  have hbeat := s.beat i
  generalize (s.undergo i).session = s' at hbeat
  cases hbeat with
  | keeps steady poller =>
    refine ⟨poller ▸ h.regular, ?_, ?_, ?_⟩
    · rw [poller, steady.playStarted, steady.tracking]
      exact h.running
    · rw [poller, steady.config]
      exact h.period
    · rw [poller, steady.config]
      exact h.configured
  | @waits limit steady poller =>
    have htimer : s'.poller.timer.isSome = s.poller.timer.isSome := by
      rcases s.poller.elapse_cases limit with he | ⟨t, k, ht, he⟩
      · rw [poller, he]
      · rw [poller, he, ht]
        rfl
    have hperiod : s'.poller.period = s.poller.period := by
      rcases s.poller.elapse_cases limit with he | ⟨t, k, ht, he⟩ <;> rw [poller, he]
    refine ⟨poller ▸ h.regular.elapse limit, ?_, ?_, ?_⟩
    · rw [htimer, steady.playStarted, steady.tracking]
      exact h.running
    · rw [hperiod, steady.config]
      exact h.period
    · rw [htimer, steady.config]
      exact h.configured
  | @configures config a valid session =>
    obtain ⟨hregular, hperiod, htimer⟩ := h.regular.setPeriod a.now config.period
    rw [session]
    refine ⟨hregular, ?_, ?_, fun _ => rfl⟩
    · rw [htimer]
      exact h.running
    · rintro _ ⟨⟩
      rw [hperiod, Config.period_orDefault valid]
  | rests config playStarted poller =>
    refine ⟨poller ▸ h.regular.stop, ?_, ?_, ?_⟩
    · simp [poller, playStarted, Poller.stop]
    · rw [poller, config]
      exact h.period
    · simp [poller, Poller.stop]
  | @plays op a p rested active config playStarted poller =>
    have hconfig := hs.configured (isActive_iff.mp active).1
    -- Before the start of the video no timer runs, whichever way it was at rest.
    have hregular : p.Regular ∧ p.timer = none ∧ p.period = s.poller.period := by
      rcases rested with ⟨hnot, rfl, -⟩ | rfl
      · refine ⟨h.regular, ?_, rfl⟩
        simpa [hnot] using h.running
      · exact ⟨h.regular.stop, rfl, rfl⟩
    obtain ⟨hp, hnone, hperiod⟩ := hregular
    have ht := Poller.timer_startStandard hp.positive a.now
    rw [← config] at hconfig
    cases htracking : s'.tracking? with
    | none =>
      simp only [htracking, Option.isSome_none, Bool.false_eq_true, ↓reduceIte] at poller
      refine ⟨poller ▸ hp, ?_, ?_, fun _ => hconfig⟩
      · simp [poller, hnone, htracking]
      · rw [poller, hperiod, config]
        exact h.period
    | some url =>
      simp only [htracking, Option.isSome_some, ↓reduceIte] at poller
      refine ⟨poller ▸ Poller.regular_startStandard hp.positive a.now, ?_, ?_, fun _ => hconfig⟩
      · simp [poller, ht, playStarted, htracking]
      · rw [poller, config]
        exact hperiod ▸ h.period
  | @polls op a steady timer poller =>
    have ht := Poller.timer_startStandard h.regular.positive a.now
    refine ⟨poller ▸ Poller.regular_startStandard h.regular.positive a.now, ?_, ?_, ?_⟩
    · rw [poller, ht, steady.playStarted, steady.tracking]
      simpa using h.running.mp timer
    · rw [poller, steady.config]
      exact h.period
    · rw [steady.config]
      exact fun _ => h.configured timer

end Paced

theorem paced_after (id : String) (run : List Incident) : Paced ((fresh id).after run) := by
  induction run using List.reverseRecOn with
  | nil => exact .fresh id
  | append_singleton run i ih =>
    rw [after_concat]
    exact ih.undergo (coherent_after id run) i

theorem Paced.isPolling_iff (h : Paced s) :
    s.isPolling = true ↔ s.state.playStarted = true ∧ s.tracking?.isSome = true := by
  rw [isPolling, h.regular.unended.isRunning]
  exact h.running

end Session

/-- The entry has started the timer `t`, which ticks first after a period. -/
def Entry.begins (e : Entry) (t : Timer) : Prop :=
  ∃ op a, e.incident = .operation op a ∧ e.outcome.session.poller.timer = some t ∧
    e.before.poller.generation < t.generation ∧ t.due = a.now + t.period

namespace Session

variable {s : Session}

theorem begins_of_start {op : Operation} {a : Answers} {p : Poller} {t : Timer}
    (hp : p.period ≠ 0) (hle : s.poller.generation ≤ p.generation)
    (hs : (s.undergo (.operation op a)).session.poller = p.startStandard (some a.now))
    (ht : (s.undergo (.operation op a)).session.poller.timer = some t) :
    Entry.begins ⟨s, .operation op a⟩ t := by
  have hstart := Poller.timer_startStandard hp a.now
  have hlt := p.generation_startStandard a.now
  refine ⟨op, a, rfl, ht, ?_, ?_⟩
  all_goals
    rw [hs, hstart] at ht
    cases ht
  · exact Nat.lt_of_le_of_lt hle hlt
  · rfl

/-- A timer that is there after an incident has been started by it, or was there before and has
ticked since. -/
theorem timer_origin (h : Paced s) (i : Incident) {t : Timer}
    (ht : (s.undergo i).session.poller.timer = some t) :
    Entry.begins ⟨s, i⟩ t ∨ ∃ t' k, s.poller.timer = some t' ∧ t = t'.ticked k := by
  have hkept : (s.undergo i).session.poller = s.poller →
      ∃ t' k, s.poller.timer = some t' ∧ t = t'.ticked k := by
    intro hp
    exact ⟨t, 0, hp ▸ ht, by simp [Timer.ticked]⟩
  cases s.beat i with
  | keeps steady poller => exact .inr (hkept poller)
  | @waits limit steady poller =>
    rcases s.poller.elapse_cases limit with he | ⟨t', k, ht', he⟩
    · exact .inr (hkept (poller.trans he))
    · rw [poller, he] at ht
      cases ht
      exact .inr ⟨t', k, ht', rfl⟩
  | @configures config a valid session =>
    rcases s.poller.setPeriod_cases a.now config.period with ⟨-, hp⟩ | ⟨hr, hp⟩
    · refine .inl (begins_of_start (p := { s.poller with period := config.period.orDefault })
        (Duration.orDefault_ne_zero _) (Nat.le_refl _) ?_ ht)
      rw [session, hp]
    · rw [h.regular.unended.isRunning, Option.isSome_eq_false_iff, Option.isNone_iff_eq_none] at hr
      simp [session, hp, hr] at ht
  | rests config playStarted poller => simp [poller, Poller.stop] at ht
  | @plays op a p rested active config playStarted poller =>
    split at poller
    · refine .inl (begins_of_start ?_ ?_ poller ht)
      · rcases rested with ⟨-, rfl, -⟩ | rfl <;> exact h.regular.positive
      · rcases rested with ⟨-, rfl, -⟩ | rfl
        · exact Nat.le_refl _
        · exact Nat.le_of_lt s.poller.generation_stop
    · rcases rested with ⟨-, rfl, -⟩ | rfl
      · exact .inr (hkept poller)
      · simp [poller, Poller.stop] at ht
  | polls steady timer poller =>
    exact .inl (begins_of_start h.regular.positive (Nat.le_refl _) poller ht)

/-- The timer of a session has been started by an entry of its history, and has only ticked
since. -/
theorem timer_begun (id : String) (run : List Incident) {t : Timer}
    (ht : ((fresh id).after run).poller.timer = some t) :
    ∃ e ∈ (fresh id).history run, ∃ first k, e.begins first ∧ t = first.ticked k := by
  induction run using List.reverseRecOn generalizing t with
  | nil => cases ht
  | append_singleton run i ih =>
    rw [after_concat] at ht
    rw [history_concat]
    rcases timer_origin (paced_after id run) i ht with hb | ⟨t', k, ht', rfl⟩
    · exact ⟨_, by simp, t, 0, hb, by simp [Timer.ticked]⟩
    · obtain ⟨e, he, first, n, hb, rfl⟩ := ih ht'
      refine ⟨e, by simp [he], first, n + k, hb, ?_⟩
      simp only [Timer.ticked, Nat.add_mul, Nat.add_assoc]

/-- What polling for avails goes by in a session with the history `h`. -/
structure OnPace (s : Session) (h : List Entry) : Prop where
  polling : s.isPolling = true ↔ s.state.playStarted = true ∧ s.tracking?.isSome = true
  /-- The standard period is the configured number of milliseconds. -/
  period : ∀ config, s.config = some config →
    s.poller.period = Duration.millis config.pollPeriod.toNat
  /-- A timer that runs was started with the configured period, which is also the time to its first
  tick. -/
  timer : s.isPolling = true → ∃ config t, s.config = some config ∧ s.poller.timer = some t ∧
    ∃ e ∈ h, ∃ first k, e.begins first ∧
      first.period = Duration.millis config.pollPeriod.toNat ∧ t = first.ticked k
  active : s.isActive = true → s.config.isSome ∧ s.playlist.isSome ∧ s.state.phase ≠ .idle

/-- A session polls exactly while the video counts as started and its avails can be asked for, at the
configured pace. -/
theorem polling_on_pace (id : String) (run : List Incident) :
    OnPace ((fresh id).after run) ((fresh id).history run) := by
  have h := paced_after id run
  have hrunning := h.regular.unended.isRunning
  refine ⟨?_, h.period, fun hpolling => ?_, fun hactive => ?_⟩
  · rw [isPolling, hrunning]
    exact h.running
  · rw [isPolling, hrunning] at hpolling
    obtain ⟨config, hc⟩ := Option.isSome_iff_exists.mp (h.configured hpolling)
    obtain ⟨t, ht⟩ := Option.isSome_iff_exists.mp hpolling
    obtain ⟨e, he, first, k, hb, rfl⟩ := timer_begun id run ht
    have hperiod : first.period = config.period := (h.regular.period _ ht).trans (h.period config hc)
    exact ⟨config, _, hc, ht, e, he, first, k, hb, hperiod, rfl⟩
  · have hcoherent := coherent_after id run
    have hheld := (isActive_iff.mp hactive).1
    exact ⟨hcoherent.configured hheld, hcoherent.listed hheld,
      ((settled_after id run).active hactive).1⟩

/-- With a period of 2000 milliseconds the timer that is started at 7 nanoseconds ticks first after
two seconds. -/
example :
    let s := (fresh "s").after
      [.operation (.configure { pollPeriod := 2000 }) {},
        .operation (.init [{ id := "a", isLive := true, wantsAds := true }])
          { manifest := some { tracking := some ⟨"avails"⟩, id := "m" } },
        .operation (.signal (.engine (.playStarted 0))) { now := 7 }]
    s.poller.period = 2000000000 ∧ s.isPolling = true ∧
      s.poller.timer.map (fun t => (t.due, t.period)) = some (2000000007, 2000000000) := by
  decide +kernel

end Session
end Playback
