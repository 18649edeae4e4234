import Playback.Proofs.Session.Quiescence

/-! What is left after a release: a session that stays as it is until playback is started again. An
engine that is on screen in Picture-in-Picture is still to be released, and that happens once. -/

namespace Playback

/-- The entry starts playback and is past its checks. -/
def Entry.opens (e : Entry) : Bool :=
  match e.incident with
  | .operation op _ => e.before.config.isSome && (op.videos?.bind Playlist.ofList?).isSome
  | .wait _ => false

theorem Entry.opens_of_opens {s : Session} {op : Operation} {a : Answers} {config : Config}
    {playlist : Playlist} (h : s.Opens op config playlist) :
    Entry.opens ⟨s, .operation op a⟩ = true := by
  simp [opens, h.config, h.playlist]

namespace Session

/-- Nothing is played, and nothing is known of what was. -/
structure Over (s : Session) : Prop extends Still s where
  active : s.isActive = false
  firstAdCompleted : s.state.firstAdCompleted = false
  adSession : s.adSession = none

variable {s : Session}

theorem opens_iff {op : Operation} {a : Answers} :
    Entry.opens ⟨s, .operation op a⟩ = true ↔ ∃ config playlist, s.Opens op config playlist := by
  constructor
  · intro h
    obtain ⟨hconfig, hvideos⟩ := Bool.and_eq_true_iff.mp h
    obtain ⟨config, hc⟩ := Option.isSome_iff_exists.mp hconfig
    obtain ⟨playlist, hp⟩ := Option.isSome_iff_exists.mp hvideos
    exact ⟨config, playlist, hc, hp⟩
  · rintro ⟨config, playlist, ho⟩
    exact Entry.opens_of_opens ho

theorem over_release (s : Session) : Over s.release.session := by
  obtain ⟨hactive, hstill⟩ := s.release_clears
  refine { hstill with active := hactive, firstAdCompleted := ?_, adSession := ?_ }
  · rw [release_eq]
    rfl
  · rw [release_eq]
    rfl

theorem release_told (s : Session) :
    s.release.commands.filter (!·.isChrome) ++ s.release.session.toEngine .release =
      s.toEngine .release := by
  rw [release_eq]
  cases hp : s.state.inPip <;> cases he : s.engine <;>
    simp [issue, toEngine, tornDown, hp, he, Command.isChrome]

namespace Over

theorem undergo (h : Over s) {i : Incident} (hn : Entry.opens ⟨s, i⟩ = false) :
    Over (s.undergo i).session ∧
      (s.undergo i).commands.filter (!·.isChrome) ++ (s.undergo i).session.toEngine .release =
        s.toEngine .release := by
  by_cases hc : Entry.clears ⟨s, i⟩
  · -- Playback is not started, so this is another release.
    obtain ⟨op, a, rfl, rfl | ⟨config, playlist, ho⟩⟩ := hc
    · exact ⟨over_release s, release_told s⟩
    · rw [Entry.opens_of_opens ho] at hn
      cases hn
  · have hl := lingers h.active h.timer hc
    refine ⟨{ h.toStill.undergo h.active hc with
      active := hl.active, firstAdCompleted := ?_, adSession := ?_ }, hl.told⟩
    · rw [hl.state]
      exact h.firstAdCompleted
    · rw [hl.adSession]
      exact h.adSession

theorem after (h : Over s) {run : List Incident} (hn : ∀ e ∈ s.history run, e.opens = false) :
    Over (s.after run) ∧
      (s.log run).filter (!·.isChrome) ++ (s.after run).toEngine .release = s.toEngine .release := by
  induction run generalizing s with
  | nil => exact ⟨h, rfl⟩
  | cons i run ih =>
    obtain ⟨hfirst, hrest⟩ := List.forall_mem_cons.mp hn
    obtain ⟨hover, htold⟩ := h.undergo hfirst
    obtain ⟨hover', htold'⟩ := ih hover hrest
    refine ⟨hover', ?_⟩
    rw [log_cons, List.filter_append, List.append_assoc, after_cons, htold', htold]

end Over

/-- A second release changes nothing but the number that the next timer gets. -/
theorem release_again (s : Session) :
    let first := s.release.session
    first.release = issue { first with poller := first.poller.stop } [] := by
  intro first
  have hfirst : first = _ := congrArg Outcome.session s.release_eq
  rw [release_eq, hfirst]
  cases hp : s.state.inPip <;> cases he : s.engine <;>
    simp [issue, tornDown, toEngine, State.reset, hp, he]

/-- After a release, and until playback is started, the session stays over whatever happens to it.
But for the chrome nothing is told, except that the engine is released: once, by the release itself
or by a later end of Picture-in-Picture. A second release at once tells nothing. -/
theorem release_final (id : String) (run : List Incident) (a : Answers) (rest : List Incident)
    (h : ∀ e ∈ ((fresh id).after run).release.session.history rest, e.opens = false) :
    let s := (fresh id).after run
    let released := s.release.session
    let later := s.after (.operation .release a :: rest)
    Over later ∧
      (s.log (.operation .release a :: rest)).filter (!·.isChrome) ++ later.toEngine .release =
        s.toEngine .release ∧
      released.release = issue { released with poller := released.poller.stop } [] := by
  intro s released later
  obtain ⟨hover, htold⟩ := (over_release s).after h
  refine ⟨hover, ?_, s.release_again⟩
  have hfirst : s.release.commands.filter (!·.isChrome) ++ released.toEngine .release = _ :=
    s.release_told
  rw [log_cons, List.filter_append, List.append_assoc]
  exact (congrArg _ htold).trans hfirst

/-- A live stream that polls for avails is released in Picture-in-Picture, and then all sorts of
things happen to the session. The engine is released when Picture-in-Picture ends. -/
theorem release_final_deferred :
    let run := relocation none ++ [.operation .enterPip {}]
    let rest : List Incident :=
      [.operation (.signal (.engine (.playStarted 0))) {}, .operation (.handoff (.tick 3)) {},
        .operation (.handoff (.fetched 3 [⟨"late", 0, 0, []⟩])) {}, .operation .play {},
        .operation .pause {}, .operation (.configure {}) {}, .operation (.init []) {},
        .wait 90000, .operation .exitPip {}, .operation (.switchBackend .device) {},
        .operation (.signal (.engine .contentEnded)) {}, .operation .release {}]
    let s := (fresh "s").after run
    let later := s.after (.operation .release {} :: rest)
    s.isPolling = true ∧ s.release.commands = [] ∧ Over later ∧ later.engine = none ∧
      (s.log (.operation .release {} :: rest)).filter (!·.isChrome) = [.engine 2 .release] := by
  intro run rest s later
  obtain ⟨hover, htold, -⟩ := release_final "s" run {} rest (by decide +kernel)
  have hnone : later.engine = none := by decide +kernel
  have hheld : s.toEngine .release = [.engine 2 .release] := by decide +kernel
  refine ⟨by decide +kernel, by decide +kernel, hover, hnone, ?_⟩
  have howed : later.toEngine .release = [] := by rw [toEngine, hnone]
  rw [← hheld, ← htold, howed, List.append_nil]

end Session
end Playback
