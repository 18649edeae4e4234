import Playback.Video

/-! The last known position of each video, by its id. -/

namespace Playback

/-- The entries stand in the order in which their ids came up. -/
structure Positions where
  entries : List (String × Int64) := []
  deriving DecidableEq, Repr, Inhabited

namespace Positions

/-- Sets the entry of `id`, or adds it at the end. -/
def put (id : String) (position : Int64) : List (String × Int64) → List (String × Int64)
  | [] => [(id, position)]
  | e :: rest => if e.1 = id then (id, position) :: rest else e :: put id position rest

def record (t : Positions) (id : String) (position : Int64) : Positions :=
  ⟨put id position t.entries⟩

/-- Sets the entry of `id` to "unknown". -/
def clear (t : Positions) (id : String) : Positions := t.record id noPosition

/-- The position of `id`, which is "unknown" where there is no entry. -/
def read (t : Positions) (id : String) : Int64 := (t.entries.lookup id).getD noPosition

/-- The position of `id` if it is known. -/
def known? (t : Positions) (id : String) : Option Int64 :=
  if t.read id = noPosition then none else some (t.read id)

/-- The number of ids that have an entry. -/
def size (t : Positions) : Nat := t.entries.length

theorem lookup_put (entries : List (String × Int64)) (id other : String) (position : Int64) :
    (put id position entries).lookup other =
      if other = id then some position else entries.lookup other := by
  induction entries with
  | nil =>
    by_cases h : other = id
    · simp [put, h]
    · have hb : (other == id) = false := by simpa using h
      simp [put, List.lookup_cons, h, hb]
  | cons e rest ih =>
    obtain ⟨key, value⟩ := e
    by_cases hk : key = id
    · by_cases h : other = id
      · simp [put, hk, h]
      · have hb : (other == id) = false := by simpa using h
        simp [put, hk, h, hb, List.lookup_cons]
    · by_cases h : other = key
      · simp [put, h, hk]
      · have hb : (other == key) = false := by simpa using h
        simp only [put, hk, if_false, List.lookup_cons, hb]
        exact ih

/-- A record sets the position of its id and of no other. -/
theorem read_record (t : Positions) (id other : String) (position : Int64) :
    (t.record id position).read other = if other = id then position else t.read other := by
  by_cases h : other = id <;> simp [read, record, lookup_put, h]

end Positions

end Playback
