import Playback.Proofs.Polling.Attribution
import Playback.Proofs.Polling.Pace

/-! A start of playback forgets what was before it. What a session is afterwards depends on its
configuration, the backend, Picture-in-Picture and the saved positions, and on nothing else that has
happened to it; what was sent to it before comes too late. -/

namespace Playback

/-- A message of the generation `g` comes from the entry: a tick of the timer, or what a fetch will
have brought. -/
def Entry.issues (e : Entry) (g : Nat) : Prop :=
  (∃ limit, e.incident = .wait limit ∧ .tick g ∈ (e.before.poller.elapse limit true).2) ∨
    ∃ url, .fetch url g ∈ e.outcome.commands

theorem Poller.Regular.tick {p : Poller} (h : p.Regular) {limit : Instant} {g : Nat}
    (hg : .tick g ∈ (p.elapse limit true).2) : g = p.generation := by
  unfold Poller.elapse at hg
  cases ht : p.timer with
  | none => simp [ht] at hg
  | some t =>
    have hgeneration := h.generation t ht
    simp only [ht] at hg
    split at hg
    · cases hg
    · have htick := List.eq_of_mem_replicate hg
      cases htick
      exact hgeneration

namespace Session

/-- What a start of playback opens with. -/
structure Opening where
  state : State
  playlist : Playlist
  adSession : Option AdSession
  load : EngineCommand

/-- The opening with `v`, before the videos `rest`. -/
def opening (a : Answers) (config : Config) (v : Video) (rest : List Video) (s : Session) :
    Opening :=
  let r := Resolution.of a config v
  { state := { phase := .ready, backend := s.state.backend, inPip := s.state.inPip }
    playlist := { past := [], current := r.video, upcoming := rest }
    adSession := r.adSession
    load := .load r.video (s.startOf config r.video) }

/-- The outcome is that of a start of playback with the opening `next`, in a session `s` with the
history `h`. -/
structure Renewed (s : Session) (h : List Entry) (o : Outcome) (next : Opening) : Prop where
  error : o.error = none
  state : o.session.state = next.state
  playlist : o.session.playlist = some next.playlist
  adSession : o.session.adSession = next.adSession
  positions : o.session.positions = s.positions
  pending : o.session.releasePending = false
  polling : o.session.isPolling = false
  /-- The load is the last that anything is told. -/
  load : ∃ e, o.session.engine = some e ∧
    o.commands.getLast? = some (.engine e.serial next.load)
  /-- Messages from before the start are never accepted again. -/
  stale : ∀ e ∈ h, ∀ g, e.issues g → ∀ later, (o.session.after later).poller.accepts g = false

/-- The sessions agree on all that outlives a start of playback. -/
structure Agree (s s' : Session) : Prop where
  config : s'.config = s.config
  backend : s'.state.backend = s.state.backend
  inPip : s'.state.inPip = s.state.inPip
  positions : ∀ id, s'.readPosition id = s.readPosition id

variable {s s' : Session} {a a' : Answers} {config : Config} {v : Video} {rest : List Video}

theorem Agree.startOf (h : Agree s s') (config : Config) (v : Video) :
    s'.startOf config v = s.startOf config v := by
  have hread : s'.positions.read v.id = s.positions.read v.id := h.positions v.id
  have hknown : s'.positions.known? v.id = s.positions.known? v.id := by
    simp only [Positions.known?, hread]
  simp only [Session.startOf, hknown]

theorem Agree.opening (h : Agree s s') (hm : a'.manifest = a.manifest) :
    s'.opening a' config v rest = s.opening a config v rest := by
  have hr : Resolution.of a' config v = Resolution.of a config v := by
    simp only [Resolution.of, hm]
  simp only [Session.opening, hr, h.backend, h.inPip, h.startOf]

theorem issued_le (id : String) (run : List Incident) :
    ∀ e ∈ (fresh id).history run, ∀ g, e.issues g →
      g ≤ ((fresh id).after run).poller.generation := by
  induction run using List.reverseRecOn with
  | nil => simp
  | append_singleton run i ih =>
    intro e he g hg
    have hle := ((fresh id).after run).follows_undergo i |>.generation_le
    rw [after_concat]
    rw [history_concat, List.mem_append, List.mem_singleton] at he
    rcases he with he | rfl
    · exact Nat.le_trans (ih e he g hg) hle
    · have hnow : g = ((fresh id).after run).poller.generation := by
        rcases hg with ⟨limit, -, hg⟩ | ⟨url, hg⟩
        · exact (paced_after id run).regular.tick hg
        · exact (Poller.accepts_iff.mp (fetch_of_mem hg).1).2
      omega

theorem stale_after {g : Nat} (h : g < s.poller.generation) (later : List Incident) :
    (s.after later).poller.accepts g = false := by
  have hle := (s.follows_after later).generation_le
  rw [← Bool.not_eq_true, Poller.accepts_iff]
  rintro ⟨-, hg⟩
  omega

theorem init_eq (hc : s.config = some config) (a : Answers) (v : Video) (rest : List Video) :
    s.init a (v :: rest) =
      let o := s.tornDown.load a config { past := [], current := v, upcoming := rest }
      ⟨o.session, (if s.state.inPip then [] else s.toEngine .release) ++ o.commands, o.error⟩ := by
  have hopens : s.Opens (.init (v :: rest)) config { past := [], current := v, upcoming := rest } :=
    ⟨hc, rfl⟩
  exact step_opens hopens

/-- Playback is started with the engine that is kept, or with a new one. -/
theorem init_renewed (hc : s.config = some config) (hf : a.createFailure = none) {h : List Entry}
    (hissued : ∀ e ∈ h, ∀ g, e.issues g → g ≤ s.poller.generation) :
    Renewed s h (s.init a (v :: rest)) (s.opening a config v rest) := by
  have hpoller : (s.init a (v :: rest)).session.poller = s.poller.stop := by
    rw [init_eq hc]
    exact load_poller ..
  have hstale : ∀ e ∈ h, ∀ g, e.issues g → ∀ later,
      ((s.init a (v :: rest)).session.after later).poller.accepts g = false := by
    intro e he g hg later
    refine stale_after ?_ later
    rw [hpoller]
    exact Nat.lt_of_le_of_lt (hissued e he g hg) s.poller.generation_stop
  have hpolling : (s.init a (v :: rest)).session.isPolling = false := by
    rw [isPolling, hpoller]
    rfl
  rw [init_eq hc] at hpolling hstale ⊢
  cases he : s.tornDown.engine with
  | some e =>
    rw [load_held he] at hpolling hstale ⊢
    refine ⟨rfl, rfl, rfl, rfl, rfl, rfl, hpolling, ⟨e, he, ?_⟩, hstale⟩
    simp [issue, opening, firstLoad, startOf, tornDown]
  | none =>
    rw [load_created he hf] at hpolling hstale ⊢
    refine ⟨rfl, rfl, rfl, rfl, rfl, rfl, hpolling, ⟨_, rfl, ?_⟩, hstale⟩
    simp [issue, opening, firstLoad, startOf, tornDown]

/-- Where two sessions agree on all that outlives a start of playback, the same videos and the same
answers about their ads bring the same, whatever has happened before. Without a configuration both
refuse. -/
theorem init_forgets (id id' : String) (run run' : List Incident) (a a' : Answers) (v : Video)
    (rest : List Video) (h : Agree ((fresh id).after run) ((fresh id').after run'))
    (hm : a'.manifest = a.manifest) (hf : a.createFailure = none) (hf' : a'.createFailure = none) :
    let s := (fresh id).after run
    let s' := (fresh id').after run'
    match s.config with
    | none =>
      s.init a (v :: rest) = s.refuse .notConfigured ∧
        s'.init a' (v :: rest) = s'.refuse .notConfigured
    | some config =>
      let next := s.opening a config v rest
      next.playlist.index = 0 ∧ next.playlist.progress = .playing 0 ∧
        Renewed s ((fresh id).history run) (s.init a (v :: rest)) next ∧
        Renewed s' ((fresh id').history run') (s'.init a' (v :: rest)) next := by
  intro s s'
  cases hc : s.config with
  | none =>
    have hc' : s'.config = none := h.config.trans hc
    refine ⟨?_, ?_⟩
    · simp only [init, hc]
    · simp only [init, hc']
  | some config =>
    have hc' : s'.config = some config := h.config.trans hc
    refine ⟨rfl, rfl, init_renewed hc hf (issued_le id run), ?_⟩
    rw [← h.opening hm]
    exact init_renewed hc' hf' (issued_le id' run')

/-- A session in which nothing has been played, and one whose engine is still to be released after a
live stream with a tick and a fetch. -/
theorem init_forgets_stream :
    let run : List Incident :=
      [.operation (.configure { castEnabled := true }) {}, .operation .enterPip {}]
    let run' :=
      (relocation none).take 4 ++ [.operation (.recordPosition "c" 9) {},
        .operation (.clearPosition "c") {}, .wait 90000, .operation (.handoff (.tick 3)) {},
        .operation .enterPip {}, .operation .release {}]
    let s := (fresh "s").after run
    let s' := (fresh "t").after run'
    let o := s.init {} [{ id := "b" }, { id := "c" }]
    let o' := s'.init { now := 7, position := 7 } [{ id := "b" }, { id := "c" }]
    s.engine = none ∧ s'.releasePending = true ∧ o'.session.state = o.session.state ∧
      o'.session.playlist = o.session.playlist ∧ o'.session.adSession = o.session.adSession ∧
      (∃ e ∈ (fresh "t").history run', e.issues 3) ∧
      ∀ later, (o'.session.after later).poller.accepts 3 = false := by
  intro run run' s s' o o'
  have hc : ((fresh "s").after run).config = some { castEnabled := true } := by decide +kernel
  have hpositions : s.positions = {} := by decide +kernel
  have hpositions' : s'.positions = (Positions.record {} "c" 9).clear "c" := by decide +kernel
  have hagree : Agree s s' := by
    refine ⟨by decide +kernel, by decide +kernel, by decide +kernel, fun id => ?_⟩
    simp only [readPosition, hpositions, hpositions', Positions.clear, Positions.read_record]
    split <;> rfl
  have hforgets := init_forgets "s" "t" run run' {} { now := 7, position := 7 } { id := "b" }
    [{ id := "c" }] hagree rfl rfl rfl
  simp only [hc] at hforgets
  obtain ⟨-, -, h, h'⟩ := hforgets
  -- The tick has started a fetch, and has the generation of the timer that it comes from.
  obtain ⟨e, he, hissued⟩ : ∃ e ∈ (fresh "t").history run', e.issues 3 :=
    ⟨_, List.mem_of_getElem? (history_getElem? (fresh "t") run' 7),
      .inr ⟨⟨"avails"⟩, by decide +kernel⟩⟩
  exact ⟨by decide +kernel, by decide +kernel, h'.state.trans h.state.symm,
    h'.playlist.trans h.playlist.symm, h'.adSession.trans h.adSession.symm, ⟨e, he, hissued⟩,
    h'.stale e he 3 hissued⟩

end Session
end Playback
