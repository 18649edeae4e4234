import Mathlib.Data.List.Basic
import Playback.Proofs.Session.Finality
import Playback.Proofs.Session.Succession

/-! What becomes of the videos that a session is given. Each of them is taken up once, in the order
of the list, and only then the address of its stitched manifest may be put in place of its id.
Nothing else about it changes, and the videos to come stay as they were given. -/

namespace Playback

namespace Entry

/-- The video that the entry adds to the playlist, if it adds one. -/
def added? (e : Entry) : Option Video :=
  match e.incident with
  | .operation (.addVideo v) _ => if e.outcome.error = none then some v else none
  | _ => none

/-- The entry takes up a video: a start of playback the first one, and the end of a video the next
one. -/
def takesUp (e : Entry) : Bool :=
  match e.incident with
  | .operation (.signal (.engine .contentEnded)) _ =>
    e.before.isActive && (e.before.playlist.bind (·.next?)).isSome
  | _ => e.opens

/-- The ad session of `v` is asked for if the entry takes it up. -/
def asksFor (e : Entry) (v : Video) : Bool := (e.before.config.map (·.asksFor v)).getD false

/-- What is answered about the ads of `v` if the entry takes it up. -/
def adSession? (e : Entry) (v : Video) : Option AdSession :=
  match e.incident with
  | .operation _ a => e.before.config.bind (a.adSession? · v)
  | .wait _ => none

def isRelease (e : Entry) : Bool := e.incident matches .operation .release _

theorem takesUp_of_opens {e : Entry} (h : e.opens = true) :
    e.takesUp = true ∧ e.added? = none ∧ e.isRelease = false := by
  obtain ⟨s, i⟩ := e
  cases i with
  | wait limit => cases h
  | operation op a =>
    cases op with
    | init | initWithAds => exact ⟨h, rfl, rfl⟩
    | _ => simp [opens, Operation.videos?] at h

end Entry

/-- The entries that take up the videos of a playlist, in order. -/
def takings (h : List Entry) : List Entry := h.filter Entry.takesUp

/-- The video `v` with the index `k` as it is after some takings. -/
def presented (taken : List Entry) (k : Nat) (v : Video) : Video :=
  match taken[k]? with
  | some e => v.stitched (e.adSession? v)
  | none => v

/-- The video with the index `k`, if its ad session is asked for when it is taken up. -/
def asked? (given : List Video) (taken : List Entry) (k : Nat) : Option Video :=
  match given[k]?, taken[k]? with
  | some v, some e => if e.asksFor v then some v else none
  | _, _ => none

theorem presented_of_le {taken : List Entry} {k : Nat} (hk : taken.length ≤ k) (v : Video) :
    presented taken k v = v := by
  simp [presented, List.getElem?_eq_none hk]

theorem presented_concat {taken : List Entry} {k : Nat} (hk : k ≠ taken.length) (e : Entry)
    (v : Video) : presented (taken ++ [e]) k v = presented taken k v := by
  rcases Nat.lt_or_gt_of_ne hk with hlt | hgt
  · simp only [presented, List.getElem?_append_left hlt]
  · rw [presented_of_le (by simp; omega), presented_of_le (by omega)]

theorem mapIdx_presented (e : Entry) (v : Video) (rest : List Video) :
    (v :: rest).mapIdx (presented [e]) = v.stitched (e.adSession? v) :: rest := by
  refine List.ext_getElem? fun k => ?_
  rw [List.getElem?_mapIdx]
  cases k with
  | zero => rfl
  | succ k =>
    have hlater : presented [e] (k + 1) = id := funext (presented_of_le (by simp))
    simp [hlater]

theorem filterMap_asked?_append {given : List Video} {taken : List Entry} {n : Nat}
    (hgiven : n ≤ given.length) (htaken : n ≤ taken.length) (more : List Video)
    (rest : List Entry) :
    (List.range n).filterMap (asked? (given ++ more) (taken ++ rest)) =
      (List.range n).filterMap (asked? given taken) := by
  refine List.filterMap_congr fun k hk => ?_
  have hlt := List.mem_range.mp hk
  simp only [asked?, List.getElem?_append_left (Nat.lt_of_lt_of_le hlt hgiven),
    List.getElem?_append_left (Nat.lt_of_lt_of_le hlt htaken)]

/-- The videos whose ad sessions are asked for, in order. -/
def resolved (log : List Command) : List Video :=
  log.filterMap fun
    | .resolve v => some v
    | _ => none

@[simp] theorem resolved_append (log rest : List Command) :
    resolved (log ++ rest) = resolved log ++ resolved rest := List.filterMap_append ..

@[simp] theorem resolved_event (events : List Event) : resolved (events.map .event) = [] := by
  simp [resolved]

theorem Video.stitched_withId (v : Video) (answer : Option AdSession) :
    ∃ id, v.stitched answer = v.withId id ∧
      (id ≠ v.id → ∃ found url, answer = some found ∧ found.manifest = some url ∧
        id = url.text) := by
  refine ⟨_, v.stitched_eq answer, fun hne => ?_⟩
  cases hm : answer.bind (·.manifest) with
  | none => simp [hm] at hne
  | some url =>
    obtain ⟨found, hfound, hurl⟩ := Option.bind_eq_some_iff.mp hm
    exact ⟨found, url, hfound, hurl, rfl⟩

theorem Playlist.advance_index {p : Playlist} (hn : p.next? = none) (positions : Positions) :
    (p.advance positions).playlist.index = p.index := by
  unfold next? at hn
  cases h : p.isFinished with
  | true => rw [advance_finished h]
  | false =>
    have hupcoming : p.upcoming = [] := by simpa [h] using hn
    rw [advance_last h hupcoming]
    rfl

namespace Session

/-- The outcome is the same playlist and the same ad session, and none is asked for. -/
structure Stays (s : Session) (o : Outcome) : Prop where
  playlist : o.session.playlist = s.playlist
  adSession : o.session.adSession = s.adSession
  resolved : resolved o.commands = []

variable {s : Session} {a : Answers}

theorem Stays.same (s : Session) (e : Option Error) : Stays s ⟨s, [], e⟩ := ⟨rfl, rfl, rfl⟩

theorem resolved_toEngine (s : Session) (c : EngineCommand) : resolved (s.toEngine c) = [] := by
  unfold toEngine
  cases s.engine <;> rfl

theorem control_stays (s : Session) (c : EngineCommand) : Stays s (s.control c) := by
  unfold control
  split
  · rw [tell_eq]
    exact ⟨rfl, rfl, s.resolved_toEngine c⟩
  · exact .same s _

theorem addVideo_cases (video : Video) (s : Session) :
    (∃ p, s.playlist = some p ∧
      s.addVideo video = issue { s with playlist := some (p.push video) } []) ∨
      s.addVideo video = s.refuse .notInitialized := by
  unfold addVideo
  split
  · rename_i p _ hp
    exact .inl ⟨p, hp, rfl⟩
  · exact .inr rfl

theorem switchBackend_stays (a : Answers) (target : Backend) (s : Session) :
    Stays s (s.switchBackend a target) := by
  obtain ⟨positions, hr⟩ := s.record_eq a.position
  rcases switchBackend_cases a target s with ⟨err, h⟩ | ⟨e, video, h⟩
  · rw [h]
    exact .same s err
  · cases hf : a.createFailure with
    | none =>
      rw [switchBackend_created h hf, hr]
      refine ⟨rfl, rfl, ?_⟩
      cases s.state.isPlaying <;> rfl
    | some err =>
      rw [switchBackend_failed h hf, hr]
      exact ⟨rfl, rfl, rfl⟩

theorem resolved_answerFailure (f : Failure) (s : Session) :
    resolved (s.answerFailure f) = [] := by
  unfold answerFailure
  split
  · simp [resolved_toEngine]
  · rfl

/-- Of all signals only the end of a video bears on the playlist. -/
theorem handleSignal_stays (a : Answers) {signal : Signal} (h : signal ≠ .engine .contentEnded)
    (s : Session) : Stays s (s.handleSignal a signal) := by
  unfold handleSignal
  split
  · rename_i video _ _
    have hnot : (Circumstances.classify ⟨s.state, video, s.tracking?.isSome⟩
        signal).delta.advances = false := by
      rw [← Bool.not_eq_true, Circumstances.classify_advances]
      exact h
    simp only [issue, Outcome.andThen_ok, apply_eq, hnot, change_eq]
    refine ⟨rfl, rfl, ?_⟩
    cases (Circumstances.classify ⟨s.state, video, s.tracking?.isSome⟩ signal).delta.failure <;>
      simp [resolved_answerFailure]
  · exact .same s none

/-- An incident lets the playlist be, unless it starts or ends playback, ends a video or adds
one. -/
theorem undergo_stays {i : Incident} (hclears : ¬Entry.clears ⟨s, i⟩)
    (hended : ∀ a, i ≠ .operation (.signal (.engine .contentEnded)) a)
    (hadded : Entry.added? ⟨s, i⟩ = none) : Stays s (s.undergo i) := by
  cases i with
  | wait limit => exact ⟨rfl, rfl, rfl⟩
  | operation op a =>
    have hstarts : op.starts = true → Stays s (s.step a op) := by
      intro hop
      obtain ⟨e, he⟩ := starts_refused hop hclears
      rw [he]
      exact .same s _
    show Stays s (s.step a op)
    cases op with
    | init | initWithAds => exact hstarts rfl
    | signal signal => exact handleSignal_stays a (fun h => hended a (by rw [h])) s
    | release => exact absurd ⟨.release, a, rfl, .inl rfl⟩ hclears
    | addVideo video =>
      rcases addVideo_cases video s with ⟨p, hp, h⟩ | h
      · simp [Entry.added?, Entry.outcome, undergo, step, h, issue] at hadded
      · rw [step, h]
        exact .same s _
    | play | seek => exact s.control_stays _
    | pause =>
      obtain ⟨positions, hr⟩ := s.record_eq a.position
      simp only [step, pause]
      split
      · rw [hr]
        have h := control_stays { s with positions } .pause
        exact ⟨h.playlist, h.adSession, h.resolved⟩
      · exact .same s _
    | switchBackend target => exact switchBackend_stays a target s
    | configure config =>
      simp only [step, configure]
      split
      · exact .same s _
      · exact ⟨rfl, rfl, rfl⟩
    | setSticky sticky =>
      simp only [step, setSticky]
      split
      · exact ⟨rfl, rfl, rfl⟩
      · exact .same s _
    | enterPip =>
      refine ⟨rfl, rfl, ?_⟩
      show resolved (if _ then _ else _) = []
      split <;> rfl
    | exitPip =>
      simp only [step, exitPip_eq]
      split
      · exact ⟨rfl, rfl, s.resolved_toEngine .release⟩
      · exact ⟨rfl, rfl, rfl⟩
    | recordPosition | clearPosition => exact ⟨rfl, rfl, rfl⟩
    | handoff handoff =>
      simp only [step, handleHandoff]
      cases handoff <;> dsimp only <;> split <;> exact ⟨rfl, rfl, rfl⟩

/-- A finished playlist stays finished, at its last video, until playback is started again. -/
theorem undergo_finished {p : Playlist} (hp : s.playlist = some p) (hf : p.isFinished = true)
    {i : Incident} (hc : ¬Entry.clears ⟨s, i⟩) :
    ∃ q, (s.undergo i).session.playlist = some q ∧ q.isFinished = true ∧
      q.current = p.current := by
  have hkept : (s.undergo i).session.playlist = s.playlist →
      ∃ q, (s.undergo i).session.playlist = some q ∧ q.isFinished = true ∧
        q.current = p.current := fun h => ⟨p, h.trans hp, hf, rfl⟩
  -- Only the end of a video and a further video reach the playlist, and neither moves it on.
  by_cases hended : ∃ a, i = .operation (.signal (.engine .contentEnded)) a
  · obtain ⟨a, rfl⟩ := hended
    refine hkept ?_
    show (s.step a (.signal (.engine .contentEnded))).session.playlist = _
    cases hactive : s.isActive with
    | false =>
      rw [signal_inactive hactive]
      rfl
    | true =>
      have hnext : p.next? = none := by simp [Playlist.next?, hf]
      rw [contentEnded_eq hactive hp]
      cases hconfig : s.config with
      | none =>
        rw [advance_none (s := s.ended) (.inl hconfig)]
        rfl
      | some config =>
        rw [advance_last (s := s.ended) hconfig hp hnext, Playlist.advance_finished hf]
        exact hp.symm
  by_cases hadds : ∃ video a, i = .operation (.addVideo video) a
  · obtain ⟨video, a, rfl⟩ := hadds
    rcases addVideo_cases video s with ⟨q, hq, h⟩ | h
    · obtain rfl : p = q := Option.some.inj (hp.symm.trans hq)
      refine ⟨p.push video, ?_, hf, rfl⟩
      show (s.addVideo video).session.playlist = _
      rw [h]
      rfl
    · refine hkept ?_
      show (s.addVideo video).session.playlist = _
      rw [h]
      rfl
  · refine hkept (undergo_stays hc (fun a hi => hended ⟨a, hi⟩) ?_).playlist
    unfold Entry.added?
    split
    · rename_i video a hi
      exact absurd ⟨video, a, hi⟩ hadds
    · rfl

/-- How the playlist `p` of `s` goes on where no video is taken up: as it was, but for the videos
that are added. -/
structure GoesAlong (s : Session) (e : Entry) (p : Playlist) (o : Outcome) : Prop where
  playlist : ∃ q, o.session.playlist = some q ∧ q.index = p.index ∧
    q.videos = p.videos ++ e.added?.toList
  adSession : o.session.adSession = if e.isRelease then none else s.adSession
  resolved : resolved o.commands = []

/-- How the playlist `p` of `s` goes on where `next` is taken up. -/
structure TakesUp (s : Session) (e : Entry) (p : Playlist) (next : Video) (o : Outcome) : Prop where
  active : s.isActive = true
  upcoming : p.videos[p.index + 1]? = some next
  playlist : ∃ q, o.session.playlist = some q ∧ q.index = p.index + 1 ∧
    q.videos = p.videos.set (p.index + 1) (next.stitched (e.adSession? next))
  adSession : o.session.adSession = e.adSession? next
  resolved : resolved o.commands = if e.asksFor next then [next] else []
  added : e.added? = none
  release : e.isRelease = false

theorem Stays.goesAlong {e : Entry} {p : Playlist} {o : Outcome} (h : Stays s o)
    (hp : s.playlist = some p) (hadded : e.added? = none) (hrelease : e.isRelease = false) :
    GoesAlong s e p o :=
  ⟨⟨p, h.playlist.trans hp, rfl, by simp [hadded]⟩, by simp [h.adSession, hrelease], h.resolved⟩

theorem contentEnded_takesUp (h : Coherent s) {p : Playlist} (hp : s.playlist = some p)
    (hactive : s.isActive = true) {next : Video} (hn : p.next? = some next) (a : Answers) :
    TakesUp s ⟨s, .operation (.signal (.engine .contentEnded)) a⟩ p next
      (s.step a (.signal (.engine .contentEnded))) := by
  have hheld := (isActive_iff.mp hactive).1
  obtain ⟨config, hc⟩ := Option.isSome_iff_exists.mp (h.configured hheld)
  obtain ⟨e, he⟩ := Option.isSome_iff_exists.mp hheld
  rw [contentEnded_eq hactive hp, ended_next a hc he hp hn]
  have hnext : p.videos[p.index + 1]? = some next := by
    rw [p.next?_eq] at hn
    split at hn
    · cases hn
    · exact hn
  obtain ⟨-, -, -, hindex, -, hvideos⟩ :=
    p.advance_setNext hn (next.stitched (a.adSession? config next)) s.positions
  refine ⟨hactive, hnext, ⟨_, rfl, hindex, ?_⟩, ?_, ?_, rfl, rfl⟩
  · simp [hvideos, Entry.adSession?, hc]
  · simp [issue, Entry.adSession?, hc]
  · simp only [issue, resolved_append, resolved_event, Entry.asksFor, hc]
    cases hasked : config.asksFor next <;> simp [resolved, hasked]

theorem contentEnded_goesAlong (h : Coherent s) {p : Playlist} (hp : s.playlist = some p)
    (hn : s.isActive = true → p.next? = none) (a : Answers) :
    GoesAlong s ⟨s, .operation (.signal (.engine .contentEnded)) a⟩ p
      (s.step a (.signal (.engine .contentEnded))) := by
  cases hactive : s.isActive with
  | false =>
    rw [signal_inactive hactive]
    exact (Stays.same s none).goesAlong hp rfl rfl
  | true =>
    obtain ⟨config, hc⟩ :=
      Option.isSome_iff_exists.mp (h.configured (isActive_iff.mp hactive).1)
    rw [contentEnded_eq hactive hp, advance_last (s := s.ended) hc hp (hn hactive)]
    exact ⟨⟨_, rfl, p.advance_index (hn hactive) _, p.make_videos (.advance s.ended.positions)⟩,
      rfl, by simp [issue]⟩

theorem release_goesAlong {p : Playlist} (hp : s.playlist = some p) (a : Answers) :
    GoesAlong s ⟨s, .operation .release a⟩ p s.release := by
  rw [release_eq]
  refine ⟨⟨p, hp, rfl, (List.append_nil _).symm⟩, rfl, ?_⟩
  simp only [issue]
  split
  · rfl
  · exact s.resolved_toEngine .release

theorem addVideo_goesAlong {p : Playlist} (hp : s.playlist = some p) (video : Video)
    (a : Answers) :
    GoesAlong s ⟨s, .operation (.addVideo video) a⟩ p (s.addVideo video) := by
  have hadded : Entry.added? ⟨s, .operation (.addVideo video) a⟩ =
      if (s.addVideo video).error = none then some video else none := rfl
  rcases addVideo_cases video s with ⟨q, hq, h⟩ | h
  · obtain rfl : p = q := Option.some.inj (hp.symm.trans hq)
    rw [h] at hadded ⊢
    exact ⟨⟨_, rfl, rfl, by simp [hadded, issue, Playlist.push, Playlist.videos]⟩, rfl, rfl⟩
  · rw [h] at hadded ⊢
    exact (Stays.same s _).goesAlong hp hadded rfl

/-- Until playback is started again, an incident takes up the next video, or it lets the playlist go
along. -/
theorem undergo_playlist (h : Coherent s) {p : Playlist} (hp : s.playlist = some p) {i : Incident}
    (hn : Entry.opens ⟨s, i⟩ = false) :
    (Entry.takesUp ⟨s, i⟩ = true ∧ ∃ next, TakesUp s ⟨s, i⟩ p next (s.undergo i)) ∨
      Entry.takesUp ⟨s, i⟩ = false ∧ GoesAlong s ⟨s, i⟩ p (s.undergo i) := by
  -- The end of a video, a release and a further video each have their lemma; anything else lets
  -- the playlist be.
  by_cases hended : ∃ a, i = .operation (.signal (.engine .contentEnded)) a
  · obtain ⟨a, rfl⟩ := hended
    have htakes : Entry.takesUp ⟨s, .operation (.signal (.engine .contentEnded)) a⟩ =
        (s.isActive && p.next?.isSome) := by simp [Entry.takesUp, hp]
    rw [htakes]
    by_cases hnext : s.isActive = true ∧ p.next?.isSome = true
    · obtain ⟨next, hnext'⟩ := Option.isSome_iff_exists.mp hnext.2
      exact .inl ⟨by simp [hnext], next, contentEnded_takesUp h hp hnext.1 hnext' a⟩
    · refine .inr ⟨by simpa using hnext, contentEnded_goesAlong h hp (fun hactive => ?_) a⟩
      simpa [hactive] using hnext
  have htakes : Entry.takesUp ⟨s, i⟩ = false := by
    unfold Entry.takesUp
    split
    · rename_i a hi
      exact absurd ⟨a, hi⟩ hended
    · exact hn
  refine .inr ⟨htakes, ?_⟩
  by_cases hrelease : ∃ a, i = .operation .release a
  · obtain ⟨a, rfl⟩ := hrelease
    exact release_goesAlong hp a
  by_cases hadds : ∃ video a, i = .operation (.addVideo video) a
  · obtain ⟨video, a, rfl⟩ := hadds
    exact addVideo_goesAlong hp video a
  have hclears : ¬Entry.clears ⟨s, i⟩ := by
    rintro ⟨op, a, rfl, rfl | ⟨config, playlist, ho⟩⟩
    · exact hrelease ⟨a, rfl⟩
    · rw [Entry.opens_of_opens ho] at hn
      cases hn
  have hadded : Entry.added? ⟨s, i⟩ = none := by
    unfold Entry.added?
    split
    · rename_i video a hi
      exact absurd ⟨video, a, hi⟩ hadds
    · rfl
  have hnot : Entry.isRelease ⟨s, i⟩ = false := by
    unfold Entry.isRelease
    split
    · rename_i a hi
      exact absurd ⟨a, hi⟩ hrelease
    · rfl
  exact (undergo_stays hclears (fun a hi => hended ⟨a, hi⟩) hadded).goesAlong hp hadded hnot

/-- How the videos `given` stand in the session `s`, with the history `h` of all that has happened
since playback was started with them, and with all that was told then in `log`. -/
structure Stands (given : List Video) (h : List Entry) (log : List Command) (s : Session)
    (p : Playlist) : Prop where
  playlist : s.playlist = some p
  /-- The videos up to the current one have been taken up, one after another. -/
  taken : (takings h).length = p.index + 1
  videos : p.videos = given.mapIdx (presented (takings h))
  /-- The ad session of each of them has been asked for once, if at all, in the order of the list
  and for the video as it was given. -/
  resolved : resolved log = (List.range (p.index + 1)).filterMap (asked? given (takings h))
  /-- Up to a release, the ad session is what was answered for the current video. -/
  adSession : ∃ v e, given[p.index]? = some v ∧ (takings h)[p.index]? = some e ∧
    s.adSession = if h.any Entry.isRelease then none else e.adSession? v

namespace Stands

variable {given : List Video} {h : List Entry} {log : List Command} {p : Playlist}

theorem length_videos (hs : Stands given h log s p) : p.videos.length = given.length := by
  rw [hs.videos, List.length_mapIdx]

theorem index_lt (hs : Stands given h log s p) : p.index < given.length := by
  rw [← hs.length_videos]
  exact p.index_lt_size

theorem asked (hs : Stands given h log s p) (more : List Video) (rest : List Entry) :
    (List.range (p.index + 1)).filterMap (asked? (given ++ more) (takings h ++ rest)) =
      (List.range (p.index + 1)).filterMap (asked? given (takings h)) :=
  filterMap_asked?_append hs.index_lt (Nat.le_of_eq hs.taken.symm) more rest

/-- The video that comes next is still as it was given. -/
theorem given_next (hs : Stands given h log s p) {next : Video}
    (hnext : p.videos[p.index + 1]? = some next) : given[p.index + 1]? = some next := by
  rw [hs.videos, List.getElem?_mapIdx] at hnext
  obtain ⟨v, hv, rfl⟩ := Option.map_eq_some_iff.mp hnext
  rw [presented_of_le (Nat.le_of_eq hs.taken), hv]

theorem takesUp (hs : Stands given h log s p) (hover : h.any Entry.isRelease = true → Over s)
    {e : Entry} {next : Video} {o : Outcome} (htakes : e.takesUp = true)
    (ht : TakesUp s e p next o) :
    ∃ q, Stands (given ++ e.added?.toList) (h ++ [e]) (log ++ o.commands) o.session q := by
  obtain ⟨q, hq, hindex, hvideos⟩ := ht.playlist
  have hgiven := hs.given_next ht.upcoming
  have hreleased : h.any Entry.isRelease = false := by
    by_contra hreleased
    simpa [ht.active] using (hover (by simpa using hreleased)).active
  have htakings : takings (h ++ [e]) = takings h ++ [e] := by simp [takings, htakes]
  have hlast : (takings h ++ [e])[p.index + 1]? = some e := by simp [← hs.taken]
  rw [ht.added, Option.toList_none, List.append_nil]
  refine ⟨q, hq, ?_, ?_, ?_, next, e, ?_, ?_, ?_⟩
  · simp [htakings, hs.taken, hindex]
  · -- Only the video that is taken up is described anew.
    refine List.ext_getElem? fun k => ?_
    rw [hvideos, htakings, List.getElem?_set, hs.length_videos, List.getElem?_mapIdx]
    by_cases hk : p.index + 1 = k
    · obtain ⟨hlt, -⟩ := List.getElem?_eq_some_iff.mp hgiven
      subst hk
      rw [if_pos rfl, if_pos hlt, hgiven, Option.map_some, presented, hlast]
    · rw [if_neg hk, hs.videos, List.getElem?_mapIdx]
      congr 1
      funext v
      rw [presented_concat (by rw [hs.taken]; exact Ne.symm hk)]
  · have hbefore := hs.asked [] [e]
    have hnow : asked? given (takings h ++ [e]) (p.index + 1) =
        if e.asksFor next then some next else none := by
      rw [asked?, hgiven, hlast]
    rw [List.append_nil] at hbefore
    rw [resolved_append, hs.resolved, ht.resolved, hindex, htakings,
      List.range_succ (n := p.index + 1), List.filterMap_append, hbefore]
    cases hasks : e.asksFor next <;> simp [hnow, hasks]
  · rw [hindex, hgiven]
  · rw [htakings, hindex, hlast]
  · simp [hreleased, ht.release, ht.adSession]

theorem goesAlong (hs : Stands given h log s p) {e : Entry} {o : Outcome}
    (htakes : e.takesUp = false) (hg : GoesAlong s e p o) :
    ∃ q, Stands (given ++ e.added?.toList) (h ++ [e]) (log ++ o.commands) o.session q := by
  obtain ⟨q, hq, hindex, hvideos⟩ := hg.playlist
  obtain ⟨v, taken, hv, htaken, had⟩ := hs.adSession
  have htakings : takings (h ++ [e]) = takings h := by simp [takings, htakes]
  refine ⟨q, hq, ?_, ?_, ?_, v, taken, ?_, ?_, ?_⟩
  · rw [htakings, hindex, hs.taken]
  · -- A video that is added has not been taken up.
    have hle := hs.index_lt
    rw [hvideos, hs.videos, htakings, List.mapIdx_append]
    cases e.added? with
    | none => rfl
    | some added =>
      have hnew := presented_of_le (show (takings h).length ≤ given.length by rw [hs.taken]; omega)
      simp [hnew]
  · have hbefore := hs.asked e.added?.toList []
    rw [List.append_nil] at hbefore
    rw [resolved_append, hs.resolved, hg.resolved, hindex, htakings, hbefore, List.append_nil]
  · rw [hindex, List.getElem?_append_left hs.index_lt, hv]
  · rw [htakings, hindex, htaken]
  · rw [hg.adSession, had, List.any_append]
    cases h.any Entry.isRelease <;> cases hrelease : e.isRelease <;> simp [hrelease]

theorem undergo (hs : Stands given h log s p) (hc : Coherent s)
    (hover : h.any Entry.isRelease = true → Over s) {i : Incident}
    (hn : Entry.opens ⟨s, i⟩ = false) :
    ∃ q, Stands (given ++ (Entry.added? ⟨s, i⟩).toList) (h ++ [⟨s, i⟩])
      (log ++ (s.undergo i).commands) (s.undergo i).session q := by
  rcases undergo_playlist hc hs.playlist hn with ⟨htakes, next, ht⟩ | ⟨htakes, hg⟩
  · exact hs.takesUp hover htakes ht
  · exact hs.goesAlong htakes hg

end Stands

theorem resolved_load (a : Answers) (config : Config) (playlist : Playlist) (s : Session) :
    resolved (s.load a config playlist).commands =
      if config.asksFor playlist.current then [playlist.current] else [] := by
  have hasked : resolved (Resolution.of a config playlist.current).commands =
      if config.asksFor playlist.current then [playlist.current] else [] := by
    rw [Resolution.of_eq]
    dsimp only
    split <;> rfl
  cases he : s.engine with
  | some e =>
    rw [load_held he, issue, resolved_append, hasked]
    exact List.append_nil _
  | none => cases hf : a.createFailure with
    | none =>
      rw [load_created he hf, issue, resolved_append, hasked]
      exact List.append_nil _
    | some err =>
      rw [load_failed he hf, resolved_append, hasked]
      exact List.append_nil _

/-- A start of playback takes up the first of its videos. -/
theorem stands_opens {op : Operation} {config : Config} {playlist : Playlist}
    (ho : s.Opens op config playlist) (a : Answers) :
    ∃ p, Stands (op.videos?.getD []) [⟨s, .operation op a⟩] (s.step a op).commands
      (s.step a op).session p := by
  obtain ⟨htakes, -, hrelease⟩ := Entry.takesUp_of_opens (Entry.opens_of_opens (a := a) ho)
  obtain ⟨videos, hv, hp⟩ := Option.bind_eq_some_iff.mp ho.playlist
  cases videos with
  | nil => cases hp
  | cons v rest =>
    cases hp
    have htakings : takings [⟨s, .operation op a⟩] = [⟨s, .operation op a⟩] := by
      simp [takings, htakes]
    have hreleased : resolved (if s.state.inPip then [] else s.toEngine .release) = [] := by
      split
      · rfl
      · exact s.resolved_toEngine .release
    have hanswer : Entry.adSession? ⟨s, .operation op a⟩ v = a.adSession? config v := by
      simp [Entry.adSession?, ho.config]
    have hasks : Entry.asksFor ⟨s, .operation op a⟩ v = config.asksFor v := by
      simp [Entry.asksFor, ho.config]
    obtain ⟨phase, engine, created, hload⟩ := s.tornDown.load_session a config
      { past := [], current := v, upcoming := rest }
    rw [step_opens ho, hload, hv, Option.getD_some]
    refine ⟨_, rfl, ?_, ?_, ?_, v, ⟨s, .operation op a⟩, rfl, ?_, ?_⟩
    · rw [htakings]
      rfl
    · rw [htakings, mapIdx_presented, hanswer, Resolution.of_eq]
      rfl
    · rw [resolved_append, hreleased, resolved_load, htakings, ← hasks]
      show _ = (List.range 1).filterMap (asked? (v :: rest) [⟨s, .operation op a⟩])
      have hfirst : asked? (v :: rest) [⟨s, .operation op a⟩] 0 =
          if Entry.asksFor ⟨s, .operation op a⟩ v then some v else none := rfl
      rw [List.range_one, List.filterMap_cons, hfirst]
      split <;> simp [*]
    · rw [htakings]
      rfl
    · simp [hrelease, hanswer, takeUp, Resolution.of_eq]

/-- What has become of the videos `given`: they stand, under their own ids or under the addresses of
their manifests. -/
structure Keeps (given : List Video) (h : List Entry) (log : List Command) (s : Session)
    (p : Playlist) : Prop extends Stands given h log s p where
  /-- Nothing but the id of a video changes, and that only when the video is taken up, into the
  address of the manifest that was answered. -/
  ids : ∀ k v, given[k]? = some v → ∃ id, p.videos[k]? = some (v.withId id) ∧
    (id ≠ v.id → k ≤ p.index ∧ ∃ e answer url, (takings h)[k]? = some e ∧
      e.adSession? v = some answer ∧ answer.manifest = some url ∧ id = url.text)
  /-- A video with a manifest is known by the address of that. -/
  address : ∀ answer url, s.adSession = some answer → answer.manifest = some url →
    p.current.id = url.text

theorem Stands.keeps {given : List Video} {h : List Entry} {log : List Command} {p : Playlist}
    (hs : Stands given h log s p) : Keeps given h log s p := by
  refine { hs with ids := fun k v hv => ?_, address := fun answer url ha hu => ?_ }
  · rw [hs.videos, List.getElem?_mapIdx, hv, Option.map_some, presented]
    cases htaken : (takings h)[k]? with
    | none => exact ⟨v.id, rfl, fun hne => absurd rfl hne⟩
    | some e =>
      obtain ⟨hk, -⟩ := List.getElem?_eq_some_iff.mp htaken
      obtain ⟨id, hid, hmanifest⟩ := v.stitched_withId (e.adSession? v)
      refine ⟨id, congrArg some hid, fun hne => ⟨?_, ?_⟩⟩
      · rw [hs.taken] at hk
        omega
      · obtain ⟨answer, url, ha, hu, rfl⟩ := hmanifest hne
        exact ⟨e, answer, url, rfl, ha, hu, rfl⟩
  · obtain ⟨v, e, hv, htaken, had⟩ := hs.adSession
    have hanswer : e.adSession? v = some answer := by
      rw [ha] at had
      split at had
      · cases had
      · exact had.symm
    have hcurrent := p.getElem?_index
    rw [hs.videos, List.getElem?_mapIdx, hv, Option.map_some, presented, htaken] at hcurrent
    have hstitched : v.stitched (e.adSession? v) = p.current := Option.some.inj hcurrent
    rw [← hstitched, hanswer]
    simp [Video.stitched, hu, Video.withId]

/-- A release is the end of playback until it is started again. -/
theorem over_of_isRelease {run : List Incident} (hn : ∀ e ∈ s.history run, e.opens = false)
    (hr : (s.history run).any Entry.isRelease = true) : Over (s.after run) := by
  obtain ⟨⟨s', i⟩, he, hi⟩ := List.any_eq_true.mp hr
  obtain ⟨before, later, rfl, rfl⟩ := mem_history he
  rw [history_append, history_cons, List.forall_mem_append, List.forall_mem_cons] at hn
  have hover : Over ((s.after before).undergo i).session := by
    unfold Entry.isRelease at hi
    split at hi
    · rename_i a hrelease
      rw [show i = .operation .release a from hrelease]
      exact over_release (s.after before)
    · cases hi
  rw [after_append, after_cons]
  exact (hover.after hn.2.2).1

/-- The videos stand from a start of playback up to the next one. -/
theorem stands_after (hc : Coherent s) {op : Operation} {a : Answers}
    (ho : Entry.opens ⟨s, .operation op a⟩ = true) (rest : List Incident)
    (hn : ∀ e ∈ (s.step a op).session.history rest, e.opens = false) :
    let stretch := .operation op a :: rest
    let h := s.history stretch
    ∃ p, Stands (op.videos?.getD [] ++ h.filterMap Entry.added?) h (s.log stretch)
      (s.after stretch) p := by
  obtain ⟨-, hadded, hrelease⟩ := Entry.takesUp_of_opens ho
  -- Incidents come at the end of the stretch, so the induction takes the last one off.
  induction rest using List.reverseRecOn with
  | nil =>
    obtain ⟨config, playlist, hopens⟩ := opens_iff.mp ho
    have hopened := stands_opens hopens a
    simp only [history_cons, history_nil, List.filterMap_cons, hadded, List.filterMap_nil,
      List.append_nil, log_cons, log_nil, after_cons, after_nil]
    exact hopened
  | append_singleton rest i ih =>
    rw [history_concat, List.forall_mem_append, List.forall_mem_singleton] at hn
    obtain ⟨p, hs⟩ := ih hn.1
    have hover : (s.history (.operation op a :: rest)).any Entry.isRelease = true →
        Over (s.after (.operation op a :: rest)) := by
      intro hr
      rw [history_cons, List.any_cons, hrelease, Bool.false_or] at hr
      exact over_of_isRelease (s := (s.step a op).session) hn.1 hr
    have hmore := hs.undergo (hc.after (.operation op a :: rest)) hover hn.2
    have hadd (e : Entry) : [e].filterMap Entry.added? = e.added?.toList := by
      cases he : e.added? <;> simp [he]
    dsimp only
    rw [← List.cons_append, history_concat, log_concat, after_concat, List.filterMap_append, hadd,
      ← List.append_assoc]
    exact hmore

/-- After playback has been started, and until it is started again, the videos are kept: those that
were given then and those added since stay in the list as they were, but for the addresses of the
videos that have been taken up. Their ad sessions are asked for one after another, each once. -/
theorem list_kept (id : String) (run : List Incident) (op : Operation) (a : Answers)
    (rest : List Incident)
    (ho : Entry.opens ⟨(fresh id).after run, .operation op a⟩ = true)
    (hn : ∀ e ∈ (((fresh id).after run).step a op).session.history rest, e.opens = false) :
    let s := (fresh id).after run
    let stretch := .operation op a :: rest
    let h := s.history stretch
    ∃ p, Keeps (op.videos?.getD [] ++ h.filterMap Entry.added?) h (s.log stretch) (s.after stretch)
      p := by
  intro s stretch h
  obtain ⟨p, hp⟩ := stands_after (coherent_after id run) ho rest hn
  exact ⟨p, hp.keeps⟩

/-- Two live streams are played with their ads, and a third one that is added while they are. Then
ads are disabled, so the third stream is played under its own id. -/
theorem list_kept_streams :
    let answer (url : String) : Answers :=
      { manifest := some { manifest := some ⟨url⟩, id := "x" } }
    let ended : Operation := .signal (.engine .contentEnded)
    let first := (Video.live "a").withAds (some "t")
    let second := (Video.live "b").withAds (some "u")
    let third := (Video.live "c").withAds none
    let s := (fresh "s").after [.operation (.configure {}) {}]
    let stretch : List Incident :=
      [.operation (.initWithAds [.live "a", .live "b"] ["t", "u"]) (answer "m"),
        .operation (.addVideo third) {}, .operation ended (answer "n"),
        .operation (.configure { adsEnabled := false }) {}, .operation ended (answer "o")]
    ∃ p, (s.after stretch).playlist = some p ∧
      p.videos = [first.withId "m", second.withId "n", third] ∧ p.index = 2 ∧
      resolved (s.log stretch) = [first, second] ∧ (s.after stretch).adSession = none := by
  intro answer ended first second third s stretch
  obtain ⟨p, hp⟩ := list_kept "s" [.operation (.configure {}) {}]
    (.initWithAds [.live "a", .live "b"] ["t", "u"]) (answer "m")
    [.operation (.addVideo third) {}, .operation ended (answer "n"),
      .operation (.configure { adsEnabled := false }) {}, .operation ended (answer "o")]
    (by decide +kernel) (by decide +kernel)
  have hindex : p.index = 2 := by
    have htaken : (takings (s.history stretch)).length = 3 := by decide +kernel
    have := hp.taken.symm.trans htaken
    omega
  refine ⟨p, hp.playlist, ?_, hindex, ?_, ?_⟩
  · rw [hp.videos]
    decide +kernel
  · rw [hp.resolved, hindex]
    decide +kernel
  · decide +kernel

end Session
end Playback
