import Playback.Proofs.Session.Frame

/-! What a session tells where nothing has come in to be reported. A call of a client makes it give
orders: to engines, to whatever knows the ads of a video, and to the chrome. The chrome is for the
calls that begin and end Picture-in-Picture; the other calls are for playback. -/

namespace Playback

/-- The command has a component do something, and tells nobody what has happened. -/
def Command.isOrder : Command → Bool
  | .create _ _ | .createFailed _ | .engine _ _ | .resolve _ | .chrome _ => true
  | _ => false

/-- The command is for an engine, for whatever makes engines, or for whatever knows the ads of a
video. -/
def Command.forPlayback : Command → Bool
  | .create _ _ | .createFailed _ | .engine _ _ | .resolve _ => true
  | _ => false

/-- The incident is a call of a client that is not about Picture-in-Picture, or a wait. -/
def Incident.forPlayback : Incident → Bool
  | .operation .enterPip _ | .operation .exitPip _ => false
  | .operation (.signal _) _ | .operation (.handoff _) _ => false
  | _ => true

/-- Nothing but orders is told. -/
def Outcome.Orders (o : Outcome) : Prop := ∀ c ∈ o.commands, c.isOrder = true

/-- Nothing but orders for playback is told. -/
def Outcome.ForPlayback (o : Outcome) : Prop := ∀ c ∈ o.commands, c.forPlayback = true

theorem Command.isOrder_of_forPlayback {c : Command} (h : c.forPlayback = true) :
    c.isOrder = true := by
  cases c with
  | create | createFailed | engine | resolve => rfl
  | _ => cases h

theorem Outcome.ForPlayback.orders {o : Outcome} (h : o.ForPlayback) : o.Orders := fun c hc =>
  Command.isOrder_of_forPlayback (h c hc)

namespace Session

variable {s : Session}

theorem toEngine_forPlayback (s : Session) (c : EngineCommand) :
    ∀ d ∈ s.toEngine c, d.forPlayback = true := by
  unfold toEngine
  cases s.engine <;> simp [Command.forPlayback]

theorem control_forPlayback (s : Session) (c : EngineCommand) : (s.control c).ForPlayback := by
  unfold control
  split
  · rw [tell_eq]
    exact s.toEngine_forPlayback c
  · simp [Outcome.ForPlayback, refuse]

theorem resolution_forPlayback (a : Answers) (config : Config) (video : Video) :
    ∀ c ∈ (Resolution.of a config video).commands, c.forPlayback = true := by
  intro c hc
  rw [mem_resolution hc]
  rfl

theorem load_forPlayback (a : Answers) (config : Config) (playlist : Playlist) (s : Session) :
    (s.load a config playlist).ForPlayback := by
  intro c hc
  rcases mem_load hc with rfl | ⟨n, rfl⟩ | rfl | ⟨n, rfl⟩ <;> rfl

theorem starts_forPlayback (a : Answers) (s : Session) {op : Operation} (h : op.starts = true) :
    (s.step a op).ForPlayback := by
  rcases starts_cases a s h with ⟨e, he⟩ | ⟨config, playlist, ho⟩
  · simp [he, Outcome.ForPlayback, refuse]
  · rw [step_opens ho]
    intro c hc
    rcases List.mem_append.mp hc with hc | hc
    · split at hc
      · simp at hc
      · exact s.toEngine_forPlayback .release c hc
    · exact load_forPlayback a config playlist _ c hc

theorem switchBackend_forPlayback (a : Answers) (target : Backend) (s : Session) :
    (s.switchBackend a target).ForPlayback := by
  rcases switchBackend_cases a target s with ⟨err, h⟩ | ⟨e, video, h⟩
  · simp [h, Outcome.ForPlayback]
  · cases hf : a.createFailure with
    | none =>
      rw [switchBackend_created h hf]
      cases s.state.isPlaying <;> simp [Outcome.ForPlayback, issue, Command.forPlayback]
    | some err => simp [switchBackend_failed h hf, Outcome.ForPlayback, Command.forPlayback]

/-- Whatever is told in a call that is not about Picture-in-Picture, or while time passes, is an
order for playback. -/
theorem undergo_forPlayback (s : Session) {i : Incident} (h : i.forPlayback = true) :
    (s.undergo i).ForPlayback := by
  cases i with
  | wait limit => simp [Outcome.ForPlayback, undergo, issue]
  | operation op a =>
    show (s.step a op).ForPlayback
    cases op with
    | signal | handoff | enterPip | exitPip => cases h
    | init | initWithAds => exact starts_forPlayback a s rfl
    | play | seek => exact s.control_forPlayback _
    | switchBackend target => exact switchBackend_forPlayback a target s
    | configure | addVideo | setSticky =>
      simp only [step, configure, addVideo, setSticky]
      split <;> simp [Outcome.ForPlayback, refuse, issue]
    | pause =>
      simp only [step, pause]
      split
      · exact control_forPlayback _ _
      · simp [Outcome.ForPlayback, refuse]
    | release =>
      simp only [step, release_eq, Outcome.ForPlayback, issue]
      split
      · simp
      · exact s.toEngine_forPlayback .release
    | recordPosition | clearPosition =>
      simp [Outcome.ForPlayback, step, recordPosition, clearPosition, issue]

/-- Whatever is told in a call of a client, or while time passes, is an order. -/
theorem orders_or_comes_in (s : Session) (i : Incident) :
    (s.undergo i).Orders ∨ (∃ signal a, i = .operation (.signal signal) a) ∨
      ∃ handoff a, i = .operation (.handoff handoff) a := by
  cases hi : i.forPlayback with
  | true => exact .inl (s.undergo_forPlayback hi).orders
  | false =>
    unfold Incident.forPlayback at hi
    split at hi
    · left
      show s.enterPip.Orders
      simp only [enterPip, Outcome.Orders, issue]
      split <;> simp [Command.isOrder]
    · left
      show s.exitPip.Orders
      rw [exitPip_eq]
      split
      · refine List.forall_mem_cons.mpr ⟨rfl, fun c hc => ?_⟩
        exact Command.isOrder_of_forPlayback (s.toEngine_forPlayback .release c hc)
      · simp [Outcome.Orders, issue, Command.isOrder]
    · exact .inr (.inl ⟨_, _, rfl⟩)
    · exact .inr (.inr ⟨_, _, rfl⟩)
    · cases hi

end Session
end Playback
