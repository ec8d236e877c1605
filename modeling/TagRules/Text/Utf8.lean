/-!
# Ranges of characters as ranges of bytes

The characters of a range are written in UTF-8 as the members of a few sequences of ranges of
bytes. A range is cut until all its characters have the same length and every byte but the ones
after a difference runs through all its values; surrogates drop out.
-/

namespace TagRules.Text

/-- An inclusive range of bytes. -/
abbrev ByteRange := UInt8 × UInt8

/-- The largest code points of one, two and three bytes. -/
def lastOfLength : List Nat := [0x7F, 0x7FF, 0xFFFF]

/-- The bytes of a code point. -/
def utf8Bytes (code : Nat) : List UInt8 :=
  String.utf8EncodeChar (Char.ofNat code)

/-- Where a range has to be cut, as the last member of its first part. -/
def cut? (lo hi : Nat) : Option Nat :=
  (lastOfLength.find? fun last => lo ≤ last && last < hi).or <|
    if hi ≤ 0x7F then none
    else
      [64, 4096, 262144].findSome? fun block =>
        if lo / block = hi / block then none
        else if lo % block ≠ 0 then some (lo - lo % block + (block - 1))
        else if hi % block ≠ block - 1 then some (hi - hi % block - 1)
        else none

/-- The sequences of byte ranges of a range of code points. A range is cut at most a dozen times
before a part of it is done, and the fuel allows for it. -/
def byteSequences : Nat → Nat → Nat → List (List ByteRange)
  | 0, _, _ => []
  | fuel + 1, lo, hi =>
    if lo < 0xE000 && 0xD7FF < hi then
      byteSequences fuel lo 0xD7FF ++ byteSequences fuel 0xE000 hi
    else if hi < lo then []
    else
      match cut? lo hi with
      | some last => byteSequences fuel lo last ++ byteSequences fuel (last + 1) hi
      | none => [(utf8Bytes lo).zip (utf8Bytes hi)]

/-- The sequences of byte ranges of a set of characters, in increasing order. -/
def utf8Sequences (ranges : List (Nat × Nat)) : List (List ByteRange) :=
  ranges.flatMap fun range => byteSequences 16 range.1 range.2

end TagRules.Text
