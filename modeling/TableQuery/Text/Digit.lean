import TableQuery.Text.Basic
import TableQuery.Text.Ranges

/-!
# Digits of every script

* `digitValue?`: the value of a decimal digit.
* `isDecimal`: the decimal digits, which spell positional numbers.
* `isDigit`: the decimal digits and the characters that show one digit without being
  positional, such as superscripts and circled digits.
* `isDigit_iff`: these are the decimal digits and the members of the ranges.
-/

namespace TableQuery.Text

/-- The digit zero of each decimal script; the other nine follow it. -/
def zeroDigits : List Nat :=
  [0x30, 0x660, 0x6F0, 0x7C0, 0x966, 0x9E6, 0xA66, 0xAE6, 0xB66, 0xBE6, 0xC66, 0xCE6, 0xD66,
   0xDE6, 0xE50, 0xED0, 0xF20, 0x1040, 0x1090, 0x17E0, 0x1810, 0x1946, 0x19D0, 0x1A80, 0x1A90,
   0x1B50, 0x1BB0, 0x1C40, 0x1C50, 0xA620, 0xA8D0, 0xA900, 0xA9D0, 0xA9F0, 0xAA50, 0xABF0,
   0xFF10, 0x104A0, 0x10D30, 0x11066, 0x110F0, 0x11136, 0x111D0, 0x112F0, 0x11450, 0x114D0,
   0x11650, 0x116C0, 0x11730, 0x118E0, 0x11950, 0x11C50, 0x11D50, 0x11DA0, 0x16A60, 0x16AC0,
   0x16B50, 0x1D7CE, 0x1D7D8, 0x1D7E2, 0x1D7EC, 0x1D7F6, 0x1E140, 0x1E2F0, 0x1E950, 0x1FBF0]

/-- The characters that show a digit but do not take part in positional numbers. -/
def digitSigns : List (Nat × Nat) :=
  [(0xB2, 0xB3), (0xB9, 0xB9), (0x1369, 0x1371), (0x19DA, 0x19DA), (0x2070, 0x2070),
   (0x2074, 0x2079), (0x2080, 0x2089), (0x2460, 0x2468), (0x2474, 0x247C), (0x2488, 0x2490),
   (0x24EA, 0x24EA), (0x24F5, 0x24FD), (0x24FF, 0x24FF), (0x2776, 0x277E), (0x2780, 0x2788),
   (0x278A, 0x2792), (0x10A40, 0x10A43), (0x10E60, 0x10E68), (0x11052, 0x1105A),
   (0x1F100, 0x1F10A)]

/-- Look a code point up among the decimal scripts that start at the given zeros. -/
def digitFrom : List Nat → Nat → Option Nat
  | [], _ => none
  | origin :: rest, n =>
    if n < origin then none else if n < origin + 10 then some (n - origin) else digitFrom rest n

/-- The value of a decimal digit of any script. -/
def digitValue? (p : Point) : Option Nat :=
  digitFrom zeroDigits p.value

/-- A decimal digit of any script. -/
def isDecimal (p : Point) : Bool :=
  (digitValue? p).isSome

/-- A decimal digit or another sign for a single digit. -/
def isDigit (p : Point) : Bool :=
  isDecimal p || within digitSigns p.value

theorem isDigit_iff (p : Point) :
    isDigit p = true ↔
      isDecimal p = true ∨ ∃ r ∈ digitSigns, r.1 ≤ p.value ∧ p.value ≤ r.2 := by
  have hincreasing : IncreasingFrom 0 digitSigns := by decide +kernel
  rw [← within_eq_true_iff hincreasing]
  exact Bool.or_eq_true_iff

/-- A nonempty text of digits. -/
def isAllDigits (t : Text) : Bool :=
  !t.isEmpty && t.all isDigit

theorem digitFrom_lt {zeros : List Nat} {n d : Nat} (h : digitFrom zeros n = some d) : d < 10 := by
  induction zeros with
  | nil => simp [digitFrom] at h
  | cons origin rest ih =>
    simp only [digitFrom] at h
    split at h
    · simp at h
    · split at h
      · simp only [Option.some.injEq] at h
        omega
      · exact ih h

theorem digitValue?_lt {p : Point} {d : Nat} (h : digitValue? p = some d) : d < 10 :=
  digitFrom_lt h

end TableQuery.Text
