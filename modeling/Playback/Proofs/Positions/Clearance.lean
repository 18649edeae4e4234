import Playback.Proofs.Playlist.Stitching
import Playback.Proofs.Positions.Recall

/-! What is known of where a video is when it has been played to its end and nothing comes after it.
Its position is forgotten then, and stays so as long as no signal tells another one. -/

namespace Playback

/-- Where the current video is, if the incident says so. -/
def Incident.position? (i : Incident) : Option Int64 := i.signal?.bind Signal.position?

namespace Session

variable {s : Session} {a : Answers}

/-- The playlist is finished, and `v` was its last video. -/
structure Done (s : Session) (v : Video) : Prop where
  active : s.isActive = true
  playlist : ∃ p, s.playlist = some p ∧ p.isFinished = true ∧ p.current = v

namespace Done

variable {v : Video}

theorem undergo (h : Done s v) {i : Incident} (hi : i.isReport = true) :
    Done (s.undergo i).session v := by
  obtain ⟨p, hp, hf, rfl⟩ := h.playlist
  exact ⟨(s.report_spares hi).isActive.trans h.active, undergo_finished hp hf (Entry.not_clears hi)⟩

/-- The end of the video is not saved again, but every position that a signal tells is. -/
theorem write? (h : Done s v) {i : Incident} (hi : i.isReport = true) :
    Entry.write? ⟨s, i⟩ = i.position?.map fun position => (v.id, position) := by
  obtain ⟨p, hp, hf, rfl⟩ := h.playlist
  have hv : s.current? = some p.current := by simp [current?, hp]
  cases i with
  | wait limit => rfl
  | operation op a => cases op with
    | signal signal =>
      -- The end of the stream saves something only while the playlist is not finished.
      have hsaved : s.saved? a (.signal signal) = signal.position? := by
        unfold saved?
        split <;> simp_all [h.active, Playlist.progress, Signal.position?]
      simp only [Entry.write?, hsaved, hv, Incident.position?, Incident.signal?, Option.bind_some]
      cases signal.position? <;> rfl
    | handoff handoff => rfl
    | _ => cases hi

theorem readPosition (h : Done s v) (hc : Coherent s) {rest : List Incident}
    (hr : ∀ i ∈ rest, i.isReport = true) :
    Done (s.after rest) v ∧ ∀ id, (s.after rest).readPosition id =
      if id = v.id then ((rest.filterMap Incident.position?).getLast?).getD (s.readPosition v.id)
      else s.readPosition id := by
  induction rest using List.reverseRecOn with
  | nil =>
    refine ⟨h, fun id => ?_⟩
    split <;> simp [*]
  | append_singleton rest i ih =>
    obtain ⟨hdone, hread⟩ := ih fun j hj => hr j (by simp [hj])
    have hi := hr i (by simp)
    rw [after_concat]
    refine ⟨hdone.undergo hi, fun id => ?_⟩
    have hbefore := hread id
    unfold Session.readPosition at hbefore ⊢
    rw [positions_undergo (hc.after rest), hdone.write? hi, Positions.read_write,
      getLast?_filterMap_concat]
    cases i.position? with
    | none => exact hbefore
    | some position =>
      by_cases hid : id = v.id
      · simp [hid]
      · simpa [hid] using hbefore

end Done

theorem contentEnded_done {config : Config} {p : Playlist} (hc : s.config = some config)
    (hactive : s.isActive = true) (hp : s.playlist = some p) (hn : p.progress ≠ .finished)
    (hlast : p.videos[p.index + 1]? = none) (a : Answers) :
    let t := (s.step a (.signal (.engine .contentEnded))).session
    Done t p.current ∧ ∀ id, t.readPosition id =
      if id = p.current.id then noPosition else s.readPosition id := by
  rw [contentEnded_eq hactive hp, ended_last a hc hp hn hlast]
  exact ⟨⟨hactive, _, rfl, rfl, rfl⟩, fun id => s.positions.read_record p.current.id id noPosition⟩

/-- What is known of where the video `v` is in `t`, after its end in `s` and `told` since then. -/
structure Clearance (s t : Session) (v : Video) (told : Option Int64) : Prop where
  read : t.readPosition v.id = told.getD noPosition
  others : ∀ id, id ≠ v.id → t.readPosition id = s.readPosition id
  /-- The video starts from its beginning again, unless something else has been told. -/
  load : ∀ op a, op.starts = true → (t.step a op).error = none →
    ∃ config first rest e, t.config = some config ∧ op.videos? = some (first :: rest) ∧
      (t.step a op).session.engine = some e ∧
      let w := first.stitched (a.adSession? config first)
      let left := told.getD noPosition
      w.id = v.id → (t.step a op).commands.filter Command.isLoad =
        [.engine e.serial (.load w
          (if config.resumePositions = true ∧ left ≠ noPosition then left else w.start))]

theorem Clearance.of_reads {t : Session} {v : Video} {told : Option Int64}
    (hread : t.readPosition v.id = told.getD noPosition)
    (hothers : ∀ id, id ≠ v.id → t.readPosition id = s.readPosition id) :
    Clearance s t v told := by
  refine ⟨hread, hothers, fun op a hop he => ?_⟩
  obtain ⟨config, first, rest, e, hc, hv, hengine, -, hloads⟩ := start_loads hop he
  refine ⟨config, first, rest, e, hc, hv, hengine, fun hid => ?_⟩
  rw [startOf_eq, hid, hread] at hloads
  exact hloads

/-- The position of the last video is forgotten when the video has ended, and known again as soon as
a signal tells one, however late that comes. Nothing else that is reported bears on it. -/
theorem cleared_until_told (id : String) (run : List Incident) (a : Answers) (p : Playlist)
    (rest : List Incident) (hactive : ((fresh id).after run).isActive = true)
    (hp : ((fresh id).after run).playlist = some p) (hn : p.progress ≠ .finished)
    (hlast : p.videos[p.index + 1]? = none) (hr : ∀ i ∈ rest, i.isReport = true) :
    let s := (fresh id).after run
    Clearance s (s.after (.operation (.signal (.engine .contentEnded)) a :: rest)) p.current
      (rest.filterMap Incident.position?).getLast? := by
  intro s
  have hcoherent := coherent_after id run
  obtain ⟨config, hc⟩ :=
    Option.isSome_iff_exists.mp (hcoherent.configured (isActive_iff.mp hactive).1)
  obtain ⟨hdone, hcleared⟩ := contentEnded_done hc hactive hp hn hlast a
  obtain ⟨-, hread⟩ :=
    hdone.readPosition (hcoherent.undergo (.operation (.signal (.engine .contentEnded)) a)) hr
  refine .of_reads ?_ fun other hother => ?_
  · have htold := hread p.current.id
    rw [if_pos rfl, hcleared, if_pos rfl] at htold
    exact htold
  · have hkept := hread other
    rw [if_neg hother, hcleared, if_neg hother] at hkept
    exact hkept

/-- A run that plays a video and leaves it at 5. -/
def replay : List Incident :=
  [.operation (.configure {}) {}, .operation (.init [{ id := "a", duration := 90, start := 1 }]) {},
    .operation (.signal (.engine (.playStarted 0))) {}, .operation .pause { position := 5 }]

/-- Without a position the video starts from its beginning again, and a late pause brings one. -/
theorem cleared_until_told_replay :
    let s := (fresh "s").after replay
    let ended : Incident := .operation (.signal (.engine .contentEnded)) {}
    let silent : List Incident :=
      [.operation (.signal (.engine (.playCompleted none))) {}, ended,
        .operation (.signal (.ads .breakEnded)) {}, .operation (.handoff (.tick 3)) {}, .wait 90]
    let late : List Incident := silent ++ [.operation (.signal (.engine (.paused 7))) {}]
    let again : Operation := .init [{ id := "a", duration := 90, start := 1 }]
    s.readPosition "a" = 5 ∧ (s.after (ended :: silent)).readPosition "a" = noPosition ∧
      ((s.after (ended :: silent)).step {} again).commands.filter Command.isLoad =
        [.engine 2 (.load { id := "a", duration := 90, start := 1 } 1)] ∧
      (s.after (ended :: late)).readPosition "a" = 7 := by
  intro s ended silent late again
  let p : Playlist := .single { id := "a", duration := 90, start := 1 }
  have hactive : s.isActive = true := by decide +kernel
  have hp : s.playlist = some p := by decide +kernel
  have hsilent : Clearance s (s.after (ended :: silent)) _ _ :=
    cleared_until_told "s" replay {} p silent hactive hp (by decide +kernel) (by decide +kernel)
      (by decide +kernel)
  have hlate := cleared_until_told "s" replay {} p late hactive hp (by decide +kernel)
    (by decide +kernel) (by decide +kernel)
  refine ⟨by decide +kernel, hsilent.read, ?_, hlate.read⟩
  obtain ⟨config, first, rest, e, hc, hv, he, hload⟩ :=
    hsilent.load again {} rfl (by decide +kernel)
  have hconfig : (s.after (ended :: silent)).config = some {} := by decide +kernel
  have hengine : ((s.after (ended :: silent)).step {} again).session.engine =
      some ⟨2, .device⟩ := by decide +kernel
  rw [hconfig] at hc
  rw [hengine] at he
  cases hv
  cases hc
  cases he
  exact (hload (by decide +kernel)).trans (by decide +kernel)

/-- A pause that comes after the end of the only video changes nothing of the state, and yet it
brings back a position, from which the video goes on when it is played again. -/
theorem late_pause_resumes :
    let s := (fresh "s").after (replay ++ [.operation (.signal (.engine .contentEnded)) {}])
    let t := s.after [.operation (.signal (.engine (.paused 7))) {}]
    s.state.phase = .ended ∧ s.readPosition "a" = noPosition ∧ t.state = s.state ∧
      t.readPosition "a" = 7 ∧
      (t.step {} (.init [{ id := "a", duration := 90 }])).commands.filter Command.isLoad =
        [.engine 2 (.load { id := "a", duration := 90 } 7)] := by
  decide +kernel

end Session
end Playback
