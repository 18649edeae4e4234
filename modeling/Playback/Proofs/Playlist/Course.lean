import Playback.Playlist
import Playback.Proofs.Trace

/-! The course of a playlist: what becomes of it while videos are pushed and passed in any order.
The videos end in the order of the list and each of them once, and nothing follows the end of the
last one, not even where videos are pushed after it. -/

namespace Playback.Playlist

/-- One thing that is done to a playlist. An advance finds the positions that are saved then. -/
inductive Move where
  | push (v : Video)
  | advance (positions : Positions)
  deriving DecidableEq, Repr

/-- A move with the playlist that it is made on. -/
structure Turn where
  before : Playlist
  move : Move
  deriving DecidableEq, Repr

/-- The video that a move adds, if it adds one. -/
def Move.pushed? : Move → Option Video
  | .push v => some v
  | .advance _ => none

/-- The index of the video that a turn ends. An advance of a finished playlist ends none. -/
def Turn.finished? (t : Turn) : Option Nat :=
  match t.move with
  | .push _ => none
  | .advance positions =>
    if t.before.progress = .finished then none else some (t.before.advance positions).finished

def make (p : Playlist) : Move → Playlist
  | .push v => p.push v
  | .advance positions => (p.advance positions).playlist

def after (p : Playlist) (moves : List Move) : Playlist := moves.foldl make p

/-- The moves, each with the playlist before it. -/
def course (p : Playlist) (moves : List Move) : List Turn :=
  (trace make p moves).map fun x => ⟨x.1, x.2⟩

variable (p : Playlist) (moves : List Move) (m : Move)

@[simp] theorem after_nil : p.after [] = p := rfl

@[simp] theorem after_concat : p.after (moves ++ [m]) = (p.after moves).make m := by
  simp [after, List.foldl_append]

@[simp] theorem course_concat :
    p.course (moves ++ [m]) = p.course moves ++ [⟨p.after moves, m⟩] := by
  simp [course, trace_concat, after]

theorem progress_eq_finished {p : Playlist} : p.progress = .finished ↔ p.isFinished = true := by
  unfold progress
  split <;> simp [*]

theorem isFinished_eq_false {p : Playlist} (h : p.progress ≠ .finished) :
    p.isFinished = false := by
  rwa [Ne, progress_eq_finished, Bool.not_eq_true] at h

theorem index_lt_size : p.index < p.size := by
  simp [index, size, videos]

theorem getElem?_index : p.videos[p.index]? = some p.current := by
  simp [videos, index]

theorem getElem?_index_succ : p.videos[p.index + 1]? = p.upcoming.head? := by
  simp [videos, index, List.getElem?_append_right, List.head?_eq_getElem?]

/-- What comes next is the next video of the list, up to the end of the last one. -/
theorem next?_eq : p.next? = if p.progress = .finished then none else p.videos[p.index + 1]? := by
  simp only [next?, getElem?_index_succ, progress_eq_finished]

theorem size_eq : p.size = p.index + 1 + p.upcoming.length := by
  simp only [size, videos, index, List.length_append, List.length_cons]
  omega

/-- The index of what comes next is one further, kept within the list, unless that is the index
already. -/
theorem nextIndex?_eq :
    p.nextIndex? =
      let next := min (p.index + 1) (p.size - 1)
      if p.progress = .finished ∨ next = p.index then none else some next := by
  have hsize := p.size_eq
  by_cases hfinished : p.progress = .finished
  · simp [nextIndex?, p.next?_eq, hfinished]
  rw [nextIndex?, p.next?_eq, if_neg hfinished, getElem?_index_succ]
  cases hu : p.upcoming with
  | nil =>
    have hlast : min (p.index + 1) (p.size - 1) = p.index := by simp [hsize, hu]
    simp [hlast]
  | cons v rest =>
    have hnext : min (p.index + 1) (p.size - 1) = p.index + 1 := by
      simp only [hsize, hu, List.length_cons]
      omega
    simp [hnext, hfinished]

theorem advance_finished {p : Playlist} (h : p.isFinished = true) (positions : Positions) :
    p.advance positions = ⟨p.index, none, [], p, positions⟩ := if_pos h

theorem advance_last {p : Playlist} (h : p.isFinished = false) (hn : p.upcoming = [])
    (positions : Positions) :
    p.advance positions =
      ⟨p.index, none, [completed p.current], { p with isFinished := true },
        positions.clear p.current.id⟩ := by
  simp [advance, h, hn]

theorem advance_next {p : Playlist} {v : Video} {rest : List Video} (h : p.isFinished = false)
    (hn : p.upcoming = v :: rest) (positions : Positions) :
    p.advance positions =
      ⟨p.index, some (p.index + 1), [completed p.current, started v],
        { past := p.past ++ [p.current], current := v, upcoming := rest },
        positions.clear p.current.id⟩ := by
  simp [advance, h, hn]

theorem advance_events (positions : Positions) :
    (p.advance positions).events =
      if p.isFinished then [] else completed p.current :: p.next?.toList.map started := by
  unfold next?
  cases h : p.isFinished with
  | true => simp [advance_finished h]
  | false =>
    cases hu : p.upcoming with
    | nil => simp [advance_last h hu]
    | cons v rest => simp [advance_next h hu]

/-- An advance past the video with the index `i` among `videos`. -/
structure Passes (videos : List Video) (i : Nat) (positions : Positions) (adv : Advancement) :
    Prop where
  finished : adv.finished = i
  next : adv.next = videos[i + 1]?.map fun _ => i + 1
  /-- The video is reported as played to its end, and the next one, if there is one, as started. Of
  the positions that of the video is cleared, and no other. -/
  ended : ∃ v, videos[i]? = some v ∧
    adv.events = ⟨v.id, .playCompleted, .playback v.duration 100⟩ ::
      videos[i + 1]?.toList.map (fun w => ⟨w.id, .playStarted, .playback 0 0⟩) ∧
    ∀ id, adv.positions.read id = if id = v.id then noPosition else positions.read id
  kept : adv.playlist.videos = videos
  index : adv.playlist.index = adv.next.getD i
  progress : adv.playlist.progress =
    if videos[i + 1]?.isSome then .playing (i + 1) else .finished

theorem passes {p : Playlist} (h : p.isFinished = false) (positions : Positions) :
    Passes p.videos p.index positions (p.advance positions) := by
  have hcleared : ∀ id, (positions.clear p.current.id).read id =
      if id = p.current.id then noPosition else positions.read id := fun id =>
    positions.read_record p.current.id id noPosition
  have hnext := p.getElem?_index_succ
  cases hu : p.upcoming with
  | nil =>
    rw [hu] at hnext
    rw [advance_last h hu]
    refine ⟨rfl, ?_, ⟨p.current, p.getElem?_index, ?_, hcleared⟩, rfl, rfl, ?_⟩
    · simp [hnext]
    · simp [hnext, completed]
    · simp [hnext, progress]
  | cons v rest =>
    rw [hu] at hnext
    rw [advance_next h hu]
    refine ⟨rfl, ?_, ⟨p.current, p.getElem?_index, ?_, hcleared⟩, ?_, ?_, ?_⟩
    · simp [hnext]
    · simp [hnext, completed, started]
    · simp [videos, hu]
    · simp [index]
    · rw [hnext]
      simp [progress, index]

theorem advance_nextIndex? (positions : Positions) : (p.advance positions).next = p.nextIndex? := by
  unfold nextIndex? next?
  cases h : p.isFinished with
  | true => simp [advance_finished h]
  | false =>
    cases hu : p.upcoming with
    | nil => simp [advance_last h hu]
    | cons v rest => simp [advance_next h hu]

theorem make_videos : (p.make m).videos = p.videos ++ m.pushed?.toList := by
  cases m with
  | push v => simp [make, push, videos, Move.pushed?]
  | advance positions =>
    cases h : p.isFinished with
    | true => simp [make, advance_finished h, Move.pushed?]
    | false => simp [make, (passes h positions).kept, Move.pushed?]

theorem after_videos : (p.after moves).videos = p.videos ++ moves.filterMap Move.pushed? := by
  induction moves using List.reverseRecOn with
  | nil => simp
  | append_singleton moves m ih =>
    rw [after_concat, make_videos, ih]
    cases m <;> simp [Move.pushed?]

/-- The number of videos that are over. -/
def finishedCount : Nat := if p.progress = .finished then p.index + 1 else p.index

/-- A turn ends the first video that is not over, or none. -/
theorem range_finishedCount_make :
    List.range (p.make m).finishedCount =
      List.range p.finishedCount ++ (Turn.finished? ⟨p, m⟩).toList := by
  cases m with
  | push v =>
    have hcount : (p.push v).finishedCount = p.finishedCount := rfl
    simp [make, hcount, Turn.finished?]
  | advance positions =>
    cases h : p.isFinished with
    | true => simp [make, Turn.finished?, advance_finished h, progress_eq_finished, h]
    | false =>
      have hpasses := passes h positions
      have hcount : p.finishedCount = p.index := by simp [finishedCount, progress_eq_finished, h]
      have hone : (p.advance positions).playlist.finishedCount = p.index + 1 := by
        rw [finishedCount, hpasses.progress, hpasses.index, hpasses.next]
        cases p.videos[p.index + 1]? <;> simp
      simp [make, Turn.finished?, progress_eq_finished, h, hone, hcount, hpasses.finished,
        List.range_succ]

/-- The videos end in the order of the list, and each of them once. -/
theorem range_finishedCount_after :
    List.range (p.after moves).finishedCount =
      List.range p.finishedCount ++ (p.course moves).filterMap Turn.finished? := by
  induction moves using List.reverseRecOn with
  | nil => simp [course]
  | append_singleton moves m ih =>
    rw [after_concat, course_concat, range_finishedCount_make, ih, List.filterMap_append]
    cases hm : Turn.finished? ⟨p.after moves, m⟩ <;> simp [hm]

theorem make_of_finished {p : Playlist} (h : p.isFinished = true) (m : Move) :
    (p.make m).isFinished = true ∧ (p.make m).index = p.index := by
  cases m with
  | push v => exact ⟨h, rfl⟩
  | advance positions =>
    rw [make, advance_finished h]
    exact ⟨h, rfl⟩

theorem after_of_finished {p : Playlist} (h : p.isFinished = true) (moves : List Move) :
    (p.after moves).isFinished = true ∧ (p.after moves).index = p.index := by
  induction moves using List.reverseRecOn with
  | nil => exact ⟨h, rfl⟩
  | append_singleton moves m ih =>
    obtain ⟨hfinished, hindex⟩ := make_of_finished ih.1 m
    rw [after_concat]
    exact ⟨hfinished, hindex.trans ih.2⟩

/-- The playlist `p` holds `videos`, and the videos with the indices `ended` have ended, in that
order. -/
structure Lawful (videos : List Video) (ended : List Nat) (p : Playlist) : Prop where
  given : p.videos = videos
  index : p.index < videos.length
  progress : p.progress = .playing p.index ∨ p.progress = .finished
  ended : ended = List.range (if p.progress = .finished then p.index + 1 else p.index)
  predicted : ∀ positions, (p.advance positions).next = p.nextIndex?
  /-- The index that is foretold is one further, and none where the list ends or all is over. -/
  lookahead : p.nextIndex? =
    let next := min (p.index + 1) (videos.length - 1)
    if p.progress = .finished ∨ next = p.index then none else some next
  passes : p.progress ≠ .finished → ∀ positions,
    Passes videos p.index positions (p.advance positions)
  /-- After the end of the last video nothing comes of any move. -/
  final : p.progress = .finished → ∀ later,
    (p.after later).index = p.index ∧ (p.after later).progress = .finished ∧
      ∀ positions, ((p.after later).advance positions).events = [] ∧
        ((p.after later).advance positions).positions = positions

theorem lawful : Lawful p.videos (List.range p.finishedCount) p := by
  refine ⟨rfl, p.index_lt_size, ?_, rfl, p.advance_nextIndex?, p.nextIndex?_eq,
    fun h positions => ?_, fun h later => ?_⟩
  · unfold progress
    split <;> simp
  · exact Playlist.passes (isFinished_eq_false h) positions
  · rw [progress_eq_finished] at h
    obtain ⟨hfinished, hindex⟩ := after_of_finished h later
    refine ⟨hindex, progress_eq_finished.mpr hfinished, fun positions => ?_⟩
    rw [advance_finished hfinished]
    exact ⟨rfl, rfl⟩

/-- Whatever is pushed and passed in a playlist and in whichever order, the videos that it was given
end one after another from the first one on, and after the last one nothing changes any more. Only
where there is no video there is no playlist. -/
theorem course_lawful (videos : List Video) (moves : List Move) :
    match ofList? videos with
    | none => videos = []
    | some first =>
      Lawful (videos ++ moves.filterMap Move.pushed?)
        ((first.course moves).filterMap Turn.finished?) (first.after moves) := by
  cases videos with
  | nil => rfl
  | cons v rest =>
    let first : Playlist := { past := [], current := v, upcoming := rest }
    have hlawful := (first.after moves).lawful
    have hended := first.range_finishedCount_after moves
    rw [first.after_videos moves, hended] at hlawful
    exact hlawful

end Playback.Playlist
