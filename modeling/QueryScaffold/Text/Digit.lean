import QueryScaffold.Text.Basic

/-!
# Decimal digits

The decimal digits of Unicode come in runs of ten, from zero to nine.

* `digitZeros`: the zero of each run;
* `CodePoint.isDecimalDigit`: a digit of one of the runs;
* `CodePoint.decimalValue?`, `CodePoint.alphanumericValue?`: what a digit stands for.
-/

namespace QueryScaffold

/-- The code points of the zeros, in order. -/
def digitZeros : List Nat :=
  [0x30, 0x660, 0x6F0, 0x7C0, 0x966, 0x9E6, 0xA66, 0xAE6, 0xB66, 0xBE6, 0xC66, 0xCE6, 0xD66, 0xDE6,
    0xE50, 0xED0, 0xF20, 0x1040, 0x1090, 0x17E0, 0x1810, 0x1946, 0x19D0, 0x1A80, 0x1A90, 0x1B50,
    0x1BB0, 0x1C40, 0x1C50, 0xA620, 0xA8D0, 0xA900, 0xA9D0, 0xA9F0, 0xAA50, 0xABF0, 0xFF10,
    0x104A0, 0x10D30, 0x11066, 0x110F0, 0x11136, 0x111D0, 0x112F0, 0x11450, 0x114D0, 0x11650,
    0x116C0, 0x11730, 0x118E0, 0x11950, 0x11C50, 0x11D50, 0x11DA0, 0x16A60, 0x16AC0, 0x16B50,
    0x1D7CE, 0x1D7D8, 0x1D7E2, 0x1D7EC, 0x1D7F6, 0x1E140, 0x1E2F0, 0x1E950, 0x1FBF0]

namespace CodePoint

/-- A decimal digit of any script. -/
def isDecimalDigit (c : CodePoint) : Bool :=
  digitZeros.any fun first => first ≤ c.value && c.value ≤ first + 9

/-- The number that a decimal digit of any script stands for. -/
def decimalValue? (c : CodePoint) : Option Nat :=
  (digitZeros.find? fun first => first ≤ c.value && c.value ≤ first + 9).map (c.value - ·)

/-- The number that a digit or a letter of ASCII stands for, where letters go on after nine. -/
def alphanumericValue? (c : CodePoint) : Option Nat :=
  if 48 ≤ c.value && c.value ≤ 57 then some (c.value - 48)
  else if 65 ≤ c.value && c.value ≤ 90 then some (c.value - 55)
  else if 97 ≤ c.value && c.value ≤ 122 then some (c.value - 87)
  else none

/-- Every digit of the core library is one here. -/
theorem isDecimalDigit_ofChar {c : Char} (h : c.isDigit) : (ofChar c).isDecimalDigit := by
  have hc : 48 ≤ c.toNat ∧ c.toNat ≤ 57 := by
    simpa [Char.isDigit, UInt32.le_iff_toNat_le] using h
  simp [isDecimalDigit, digitZeros, hc]

end CodePoint

end QueryScaffold
