import Mathlib.Data.Int.Order.Basic
import Mathlib.Order.MinMax
import Playback.Video

/-! How much of a video lies before a position. A hundred times the position is kept within 64 bits
before it is divided by the duration, so the percentage is never too large. It is too small only for
a video whose duration does not fit in 64 bits when it is taken a hundred times. -/

namespace Playback

/-- The largest position, as an integer. -/
def largestPosition : Int := Int64.maxValue.toInt

theorem clampPosition_of_nonneg {n : Int} (h : 0 ≤ n) :
    clampPosition n = min n largestPosition := by
  have hmin : Int64.minValue.toInt ≤ 0 := by decide
  have hmax : 0 ≤ largestPosition := by decide
  unfold clampPosition
  rw [← largestPosition]
  omega

theorem min_ediv {a b d : Int} (hd : 0 < d) : min a b / d = min (a / d) (b / d) :=
  Monotone.map_min (f := fun n : Int => n / d) fun _ _ h => Int.ediv_le_ediv hd h

namespace Video

/-- There is nothing to measure at `position`. -/
def Unmeasured (v : Video) (position : Int64) : Prop :=
  v.isLive ∨ v.duration ≤ 0 ∨ position ≤ 0

instance (v : Video) (position : Int64) : Decidable (v.Unmeasured position) :=
  inferInstanceAs (Decidable (_ ∨ _))

/-- The percentage of the video before `position`, in integers of any size. -/
def exactPercent (v : Video) (position : Int64) : Int :=
  if v.Unmeasured position then 0 else min 100 (100 * position.toInt / v.duration.toInt)

variable {v : Video} {position : Int64}

theorem percentAt_eq (v : Video) (position : Int64) :
    v.percentAt position =
      if v.Unmeasured position then 0
      else
        UInt8.ofNat (min (clampPosition (position.toInt * 100) / v.duration.toInt) 100).toNat := rfl

theorem percentAt_of_unmeasured (h : v.Unmeasured position) : v.percentAt position = 0 := if_pos h

theorem measured_pos (h : ¬v.Unmeasured position) :
    0 < v.duration.toInt ∧ 0 < position.toInt := by
  unfold Unmeasured at h
  simp only [not_or, Int64.not_le, Int64.lt_iff_toInt_lt, Int64.toInt_zero] at h
  exact h.2

theorem exactPercent_of_measured (h : ¬v.Unmeasured position) :
    v.exactPercent position = min 100 (100 * position.toInt / v.duration.toInt) := if_neg h

/-- The percentage is the exact one, or less where that would take more than 64 bits. -/
theorem percentAt_of_measured (h : ¬v.Unmeasured position) :
    ((v.percentAt position).toNat : Int) =
      min (v.exactPercent position) (largestPosition / v.duration.toInt) := by
  obtain ⟨hd, hp⟩ := measured_pos h
  have hproduct : 0 ≤ position.toInt * 100 := by omega
  have hquotient : clampPosition (position.toInt * 100) / v.duration.toInt =
      min (100 * position.toInt / v.duration.toInt) (largestPosition / v.duration.toInt) := by
    rw [clampPosition_of_nonneg hproduct, min_ediv hd, Int.mul_comm]
  have hnonneg : 0 ≤ 100 * position.toInt / v.duration.toInt :=
    Int.ediv_nonneg (by omega) hd.le
  have hroom : 0 ≤ largestPosition / v.duration.toInt := Int.ediv_nonneg (by decide) hd.le
  rw [percentAt_eq, if_neg h, exactPercent_of_measured h, hquotient, UInt8.toNat_ofNat_of_lt']
  · omega
  · show _ < 256
    omega

theorem exactPercent_le (v : Video) (position : Int64) : v.exactPercent position ≤ 100 := by
  unfold exactPercent
  split <;> omega

/-- No more of a video can be watched than all of it. -/
theorem percentAt_le (v : Video) (position : Int64) : v.percentAt position ≤ 100 := by
  by_cases h : v.Unmeasured position
  · rw [percentAt_of_unmeasured h]
    decide
  · have heq := percentAt_of_measured h
    have hle := v.exactPercent_le position
    rw [UInt8.le_iff_toNat_le]
    show _ ≤ 100
    omega

/-- The whole of a video is a hundred percent exactly from its duration on. -/
theorem exactPercent_eq_hundred (h : ¬v.Unmeasured position) :
    v.exactPercent position = 100 ↔ v.duration.toInt ≤ position.toInt := by
  obtain ⟨hd, -⟩ := measured_pos h
  rw [exactPercent_of_measured h, min_eq_left_iff, Int.le_ediv_iff_mul_le hd]
  omega

/-- The percentage has room for a hundred exactly where the duration fits a hundred times. -/
theorem hundred_le_room (h : ¬v.Unmeasured position) :
    100 ≤ largestPosition / v.duration.toInt ↔ 100 * v.duration.toInt ≤ largestPosition :=
  Int.le_ediv_iff_mul_le (measured_pos h).1

/-- The percentage of a video at a position, next to the exact one. They are equal where there is
nothing to measure, where the duration fits a hundred times in 64 bits, and where the share of the
video is small enough. From the duration on the percentage is a hundred if the duration fits, and
otherwise it never is. -/
theorem percentAt_exact_iff (v : Video) (position : Int64) :
    let percent : Int := (v.percentAt position).toNat
    let share := 100 * position.toInt / v.duration.toInt
    let room := largestPosition / v.duration.toInt
    percent = (if v.Unmeasured position then 0 else min (min 100 share) room) ∧
      (percent = v.exactPercent position ↔
        v.Unmeasured position ∨ 100 * v.duration.toInt ≤ largestPosition ∨ share ≤ room) ∧
      (percent = 100 ↔
        ¬v.Unmeasured position ∧ v.duration.toInt ≤ position.toInt ∧
          100 * v.duration.toInt ≤ largestPosition) := by
  intro percent share room
  by_cases h : v.Unmeasured position
  · have hpercent : percent = 0 := by
      show ((v.percentAt position).toNat : Int) = 0
      rw [percentAt_of_unmeasured h]
      rfl
    have hexact : v.exactPercent position = 0 := if_pos h
    simp [hpercent, hexact, h]
  · have hpercent : percent = min (v.exactPercent position) room := percentAt_of_measured h
    have hexact : v.exactPercent position = min 100 share := exactPercent_of_measured h
    have hroom : 100 ≤ room ↔ _ := hundred_le_room h
    have hwhole := exactPercent_eq_hundred h
    have hle := v.exactPercent_le position
    simp only [h, if_false, false_or, not_false_eq_true, true_and]
    refine ⟨by rw [hpercent, hexact], ?_, ?_⟩
    · rw [hpercent, min_eq_left_iff, hexact, min_le_iff, hroom]
    · rw [← hwhole, ← hroom, hpercent]
      omega

/-- At its end a video of the greatest duration has been watched to one percent. -/
theorem percentAt_greatest :
    let v : Video := { id := "a", duration := Int64.maxValue }
    v.exactPercent v.duration = 100 ∧ v.percentAt v.duration = 1 := by
  decide +kernel

end Video
end Playback
