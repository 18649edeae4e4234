/-! Random identifiers as text. -/

namespace Playback.Text

/-- The last `width` hexadecimal digits of `n`. -/
def hex (width n : Nat) : String :=
  let digits := Nat.toDigits 16 (n % (1 <<< (4 * width)))
  String.ofList (List.replicate (width - digits.length) '0' ++ digits)

/-- The identifier made of the random number `n`: five groups of digits, with the version 4 before
the last three digits of the third group and the variant in the top bits of the fourth. -/
def uuid (n : Nat) : String :=
  String.intercalate "-"
    [hex 8 (n >>> 90), hex 4 (n >>> 74), "4" ++ hex 3 (n >>> 62),
      hex 4 (0x8000 + (n >>> 48) % 0x4000), hex 12 n]

end Playback.Text
