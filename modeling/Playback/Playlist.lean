import Playback.Positions
import Playback.Tracking.Event

/-! The videos of a session: those that are over, the current one, and those to come. There is
always a current video, and it stays the last one played when the playlist is finished. -/

namespace Playback

/-- How far a playlist is. -/
inductive Progress where
  | playing (index : Nat)
  /-- The video at `index` is over and the next one has not been taken up. -/
  | advancing (index : Nat)
  | finished
  deriving DecidableEq, Repr

def Progress.name : Progress → String
  | .playing index => s!"playing({index})"
  | .advancing index => s!"ended_advancing({index})"
  | .finished => "ended_terminal"

structure Playlist where
  /-- The videos that are over, in order. -/
  past : List Video
  current : Video
  upcoming : List Video
  /-- The last video is over. -/
  isFinished : Bool := false
  deriving DecidableEq, Repr

namespace Playlist

/-- The playlist of some videos, if there are any. -/
def ofList? : List Video → Option Playlist
  | [] => none
  | v :: rest => some { past := [], current := v, upcoming := rest }

def single (v : Video) : Playlist := { past := [], current := v, upcoming := [] }

def videos (p : Playlist) : List Video := p.past ++ p.current :: p.upcoming

/-- The index of the current video. -/
def index (p : Playlist) : Nat := p.past.length

def size (p : Playlist) : Nat := p.videos.length

def progress (p : Playlist) : Progress := if p.isFinished then .finished else .playing p.index

/-- The video that comes next, unless the playlist is finished. -/
def next? (p : Playlist) : Option Video := if p.isFinished then none else p.upcoming.head?

/-- The index of the video that comes next. -/
def nextIndex? (p : Playlist) : Option Nat := p.next?.map fun _ => p.index + 1

def push (p : Playlist) (v : Video) : Playlist := { p with upcoming := p.upcoming ++ [v] }

/-- The playlist with another description of the current video. -/
def setCurrent (p : Playlist) (v : Video) : Playlist := { p with current := v }

/-- The playlist with another description of the video that comes next. -/
def setNext (p : Playlist) (v : Video) : Playlist :=
  { p with upcoming := match p.upcoming with
      | [] => []
      | _ :: rest => v :: rest }

/-- The event that a video has been played to its end. -/
def completed (v : Video) : Event := ⟨v.id, .playCompleted, .playback v.duration 100⟩

/-- The event that a video starts from its beginning. -/
def started (v : Video) : Event := ⟨v.id, .playStarted, .playback 0 0⟩

/-- The end of a video: its index, the index of the one taken up after it, the events to report,
and the playlist and the positions after it. -/
structure Advancement where
  finished : Nat
  next : Option Nat
  events : List Event
  playlist : Playlist
  positions : Positions
  deriving Repr

/-- Moves past the current video: its position is cleared, and the next video is taken up if there
is one. A finished playlist stays as it is. -/
def advance (p : Playlist) (positions : Positions) : Advancement :=
  if p.isFinished then ⟨p.index, none, [], p, positions⟩
  else match p.upcoming with
    | [] =>
      ⟨p.index, none, [completed p.current], { p with isFinished := true },
        positions.clear p.current.id⟩
    | v :: rest =>
      ⟨p.index, some (p.index + 1), [completed p.current, started v],
        { past := p.past ++ [p.current], current := v, upcoming := rest },
        positions.clear p.current.id⟩

end Playlist

end Playback
