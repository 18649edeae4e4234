import Mathlib.Algebra.Group.Nat.Defs
import Playback.Text.Parts
import Playback.Text.Timecode

/-! Times as they are printed, and how they are read. A printed time has hours, minutes, seconds and
milliseconds, each in decimal, and stands for the position in whole milliseconds. -/

namespace Playback.Text

/-- A time in hours, minutes, seconds and milliseconds. -/
structure Clock where
  hours : Nat
  minutes : Nat
  seconds : Nat
  millis : Nat
  minutes_lt : minutes < 60
  seconds_lt : seconds < 60
  millis_lt : millis < 1000

namespace Clock

/-- The time that is `total` milliseconds long. -/
def ofMillis (total : Nat) : Clock where
  hours := total / 3600000
  minutes := total / 60000 % 60
  seconds := total / 1000 % 60
  millis := total % 1000
  minutes_lt := by omega
  seconds_lt := by omega
  millis_lt := by omega

/-- The whole of a time, in milliseconds. -/
def total (c : Clock) : Nat := ((c.hours * 60 + c.minutes) * 60 + c.seconds) * 1000 + c.millis

theorem total_ofMillis (n : Nat) : (ofMillis n).total = n := by
  simp only [total, ofMillis]
  omega

end Clock

/-- The last `width` decimal digits of `n`, zeros at the front included. -/
def places : Nat → Nat → List Char
  | 0, _ => []
  | width + 1, n => places width (n / 10) ++ [(n % 10).digitChar]

/-- A time as it is written: the hours as they are, the rest in two, two and three digits. -/
def Clock.written (c : Clock) : List Char :=
  Nat.toDigits 10 c.hours ++ ':' :: (places 2 c.minutes ++ ':' :: (places 2 c.seconds ++
    '.' :: places 3 c.millis))

/-- The number that a row of decimal digits stands for. -/
def number? (digits : List Char) : Option Nat :=
  if digits ≠ [] ∧ digits.all Char.isDigit then some (Nat.ofDigitChars 10 digits 0) else none

/-- The milliseconds that a text stands for: numbers of hours, of minutes and of seconds between
colons, and after a point a number of milliseconds. -/
def millis? (text : String) : Option Nat :=
  match splitOn (· = ':') text.toList with
  | [hours, minutes, rest] =>
    match splitOn (· = '.') rest with
    | [seconds, millis] => do
      let h ← number? hours
      let m ← number? minutes
      let s ← number? seconds
      let f ← number? millis
      some (((h * 60 + m) * 60 + s) * 1000 + f)
    | _ => none
  | _ => none

section Splitting

variable {p : Char → Bool} {part rest : List Char}

theorem splitOn_cons (c : Char) (cs : List Char) :
    splitOn p (c :: cs) =
      if p c then [] :: splitOn p cs
      else match splitOn p cs with
        | [] => [[c]]
        | part :: rest => (c :: part) :: rest := rfl

/-- A text without a separator is a part of its own. -/
theorem splitOn_part (h : ∀ c ∈ part, p c = false) : splitOn p part = [part] := by
  induction part with
  | nil => rfl
  | cons c part ih =>
    obtain ⟨hc, hpart⟩ := List.forall_mem_cons.mp h
    simp [splitOn_cons, hc, ih hpart]

/-- The first part of a text goes up to the first separator. -/
theorem splitOn_append {c : Char} (h : ∀ c ∈ part, p c = false) (hc : p c = true) :
    splitOn p (part ++ c :: rest) = part :: splitOn p rest := by
  induction part with
  | nil => simp [splitOn_cons, hc]
  | cons d part ih =>
    obtain ⟨hd, hpart⟩ := List.forall_mem_cons.mp h
    simp [splitOn_cons, hd, ih hpart]

/-- There is no separator among digits. -/
theorem digits_ne (sep : Char) (hsep : sep.isDigit = false) {digits : List Char}
    (h : ∀ c ∈ digits, c.isDigit) : ∀ c ∈ digits, decide (c = sep) = false := by
  intro c hc
  refine decide_eq_false ?_
  rintro rfl
  simp [h _ hc] at hsep

end Splitting

section Numbers

theorem number?_of_isDigit {digits : List Char} (hne : digits ≠ [])
    (h : ∀ c ∈ digits, c.isDigit) : number? digits = some (Nat.ofDigitChars 10 digits 0) :=
  if_pos ⟨hne, List.all_eq_true.mpr h⟩

theorem toDigits_isDigit (n : Nat) : ∀ c ∈ Nat.toDigits 10 n, c.isDigit := fun _ hc =>
  Nat.isDigit_of_mem_toDigits (by decide) (by decide) hc

theorem number?_toDigits (n : Nat) : number? (Nat.toDigits 10 n) = some n := by
  rw [number?_of_isDigit Nat.toDigits_ne_nil (toDigits_isDigit n), Nat.ofDigitChars_ten_toDigits]

theorem places_isDigit (width n : Nat) : ∀ c ∈ places width n, c.isDigit := by
  induction width generalizing n with
  | zero => simp [places]
  | succ width ih =>
    have hlast : n % 10 < 10 := by omega
    simpa [places, or_imp, forall_and, Nat.isDigit_digitChar, hlast] using ih (n / 10)

theorem ofDigitChars_places (width n : Nat) :
    Nat.ofDigitChars 10 (places width n) 0 = n % 10 ^ width := by
  induction width generalizing n with
  | zero => simp [places, Nat.mod_one]
  | succ width ih =>
    have hlast : n % 10 < 10 := by omega
    rw [places, Nat.ofDigitChars_append, ih, Nat.ofDigitChars_cons_digitChar_of_lt_ten hlast,
      Nat.pow_succ', Nat.mod_mul]
    simp [Nat.add_comm]

/-- A number that fits into its places can be read from them. -/
theorem number?_places {width n : Nat} (hw : 0 < width) (h : n < 10 ^ width) :
    number? (places width n) = some n := by
  have hne : places width n ≠ [] := by
    cases width with
    | zero => cases hw
    | succ width => simp [places]
  rw [number?_of_isDigit hne (places_isDigit width n), ofDigitChars_places, Nat.mod_eq_of_lt h]

theorem places_zero (width : Nat) : places width 0 = List.replicate width '0' := by
  induction width with
  | zero => rfl
  | succ width ih =>
    rw [places, ih, List.replicate_succ']
    rfl

theorem toList_padZeros (width n : Nat) :
    (padZeros width n).toList =
      List.replicate (width - (Nat.toDigits 10 n).length) '0' ++ Nat.toDigits 10 n := by
  rw [padZeros, Nat.toString_eq_ofList_toDigits]
  simp

/-- Zeros are put before a number that fits into its places until all of them are taken. -/
theorem padZeros_eq {width n : Nat} (hw : 0 < width) (h : n < 10 ^ width) :
    (padZeros width n).toList = places width n := by
  rw [toList_padZeros]
  -- The digits are taken off at the end, where both sides have the same one.
  induction width generalizing n with
  | zero => cases hw
  | succ width ih =>
    by_cases hn : n < 10
    · have hzero : n / 10 = 0 := by omega
      simp [places, Nat.toDigits_of_lt_base hn, hzero, places_zero, Nat.mod_eq_of_lt hn]
    · have hwidth : 0 < width := by
        rcases Nat.eq_zero_or_pos width with rfl | hpos
        · omega
        · exact hpos
      have hfront : n / 10 < 10 ^ width := by
        rw [Nat.pow_succ] at h
        omega
      have hdigits := Nat.toDigits_of_base_le (by decide : 1 < 10) (Nat.le_of_not_lt hn)
      rw [places, ← ih hwidth hfront, hdigits]
      simp

end Numbers

namespace Clock

variable (c : Clock)

theorem splitOn_point : splitOn (· = '.') (places 2 c.seconds ++ '.' :: places 3 c.millis) =
    [places 2 c.seconds, places 3 c.millis] := by
  rw [splitOn_append (digits_ne '.' rfl (places_isDigit 2 c.seconds)) rfl,
    splitOn_part (digits_ne '.' rfl (places_isDigit 3 c.millis))]

theorem splitOn_colons : splitOn (· = ':') c.written =
    [Nat.toDigits 10 c.hours, places 2 c.minutes,
      places 2 c.seconds ++ '.' :: places 3 c.millis] := by
  have hseconds := digits_ne ':' rfl (places_isDigit 2 c.seconds)
  have hmillis := digits_ne ':' rfl (places_isDigit 3 c.millis)
  have hrest : ∀ d ∈ places 2 c.seconds ++ '.' :: places 3 c.millis, decide (d = ':') = false := by
    intro d hd
    rcases List.mem_append.mp hd with hd | hd
    · exact hseconds d hd
    · rcases List.mem_cons.mp hd with rfl | hd
      · rfl
      · exact hmillis d hd
  rw [written, splitOn_append (digits_ne ':' rfl (toDigits_isDigit c.hours)) rfl,
    splitOn_append (digits_ne ':' rfl (places_isDigit 2 c.minutes)) rfl, splitOn_part hrest]

/-- A time that is written out can be read. -/
theorem millis?_written : millis? (String.ofList c.written) = some c.total := by
  have hminutes : c.minutes < 10 ^ 2 := Nat.lt_trans c.minutes_lt (by decide)
  have hseconds : c.seconds < 10 ^ 2 := Nat.lt_trans c.seconds_lt (by decide)
  have hmillis : c.millis < 10 ^ 3 := c.millis_lt
  simp only [millis?, String.toList_ofList, c.splitOn_colons, c.splitOn_point, number?_toDigits,
    number?_places (by decide) hminutes, number?_places (by decide) hseconds,
    number?_places (by decide) hmillis]
  rfl

end Clock

theorem timecode_of_neg {micros : Int64} (h : micros < 0) : timecode micros = "-" := if_pos h

/-- A position that is not negative is printed as its whole milliseconds. -/
theorem timecode_of_nonneg {micros : Int64} (h : 0 ≤ micros) :
    timecode micros = String.ofList (Clock.ofMillis (micros.toInt.toNat / 1000)).written := by
  have hneg : ¬micros < 0 := Int64.not_lt.mpr h
  rw [← String.toList_inj, String.toList_ofList, timecode, if_neg hneg]
  simp (disch := omega) only [String.toList_append, padZeros_eq, Clock.written, Clock.ofMillis]
  simp

/-- The whole milliseconds of a position that is not negative. -/
theorem toNat_div_thousand {micros : Int64} (h : 0 ≤ micros) :
    ((micros.toInt.toNat / 1000 : Nat) : Int) = micros.toInt / 1000 := by
  have hnonneg : 0 ≤ micros.toInt := by simpa using Int64.le_iff_toInt_le.mp h
  omega

theorem millis?_timecode {micros : Int64} (h : 0 ≤ micros) :
    millis? (timecode micros) = some (micros.toInt.toNat / 1000) := by
  rw [timecode_of_nonneg h, Clock.millis?_written, Clock.total_ofMillis]

/-- A position that is not negative is printed as hours, minutes, seconds and milliseconds, which
add up to its whole milliseconds and can be read back. So two of them are printed alike exactly if
they agree in these. A dash is printed for the others, and only for them. -/
theorem timecode_read_back :
    (∀ micros : Int64, 0 ≤ micros → ∃ c : Clock, timecode micros = String.ofList c.written ∧
        (c.total : Int) = micros.toInt / 1000 ∧ millis? (timecode micros) = some c.total) ∧
      (∀ a b : Int64, 0 ≤ a → 0 ≤ b →
        (timecode a = timecode b ↔ a.toInt / 1000 = b.toInt / 1000)) ∧
      ∀ micros : Int64, timecode micros = "-" ↔ micros < 0 := by
  refine ⟨fun micros h => ?_, fun a b ha hb => ⟨fun heq => ?_, fun heq => ?_⟩,
    fun micros => ⟨fun hdash => ?_, timecode_of_neg⟩⟩
  · refine ⟨.ofMillis (micros.toInt.toNat / 1000), timecode_of_nonneg h, ?_, ?_⟩
    · rw [Clock.total_ofMillis, toNat_div_thousand h]
    · rw [millis?_timecode h, Clock.total_ofMillis]
  · have hread := congrArg millis? heq
    rw [millis?_timecode ha, millis?_timecode hb] at hread
    rw [← toNat_div_thousand ha, ← toNat_div_thousand hb, Option.some.inj hread]
  · have hmillis : a.toInt.toNat / 1000 = b.toInt.toNat / 1000 := by
      rw [← toNat_div_thousand ha, ← toNat_div_thousand hb] at heq
      exact Int.ofNat.inj heq
    rw [timecode_of_nonneg ha, timecode_of_nonneg hb, hmillis]
  · refine Int64.not_le.mp fun hneg => ?_
    have hread := millis?_timecode hneg
    rw [hdash] at hread
    cases hread

/-- The last position of all, next to one that is printed like it and one that is not. -/
theorem timecode_read_back_last :
    let last := Int64.maxValue
    millis? (timecode last) = some 9223372036854775 ∧
      timecode last = "2562047788:00:54.775" ∧ timecode (last - 807) = timecode last ∧
      timecode (last - 808) ≠ timecode last ∧ timecode Int64.minValue = "-" := by
  intro last
  obtain ⟨hread, halike, hdash⟩ := timecode_read_back
  obtain ⟨c, hc, htotal, hmillis⟩ := hread last (by decide)
  have hlast : (c.total : Int) = (9223372036854775 : Nat) := htotal.trans (by decide)
  refine ⟨hmillis.trans (congrArg some (Int.ofNat.inj hlast)), by decide +kernel,
    (halike _ _ (by decide) (by decide)).mpr (by decide), fun heq => ?_,
    (hdash _).mpr (by decide)⟩
  exact absurd ((halike _ _ (by decide) (by decide)).mp heq) (by decide)

end Playback.Text
