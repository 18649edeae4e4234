import Playback.Text.Layout

/-! Positions as people read them: hours, minutes, seconds and milliseconds. -/

namespace Playback.Text

/-- `h:mm:ss.mmm`, without what is left of a millisecond; a negative position is unknown. -/
def timecode (micros : Int64) : String :=
  if micros < 0 then "-"
  else
    let ms := micros.toInt.toNat / 1000
    toString (ms / 3600000) ++ ":" ++ padZeros 2 (ms / 60000 % 60) ++ ":" ++
      padZeros 2 (ms / 1000 % 60) ++ "." ++ padZeros 3 (ms % 1000)

end Playback.Text
