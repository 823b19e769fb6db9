import AutoSre.Lib.Python
import Mathlib.Data.Option.NAry

/-! # Numbers from strings

What `int(text)` and `float(text)` of Python accept: white space around the number, any
decimal digits of Unicode, and single underscores between digits.  `none` stands for
their `ValueError`.  A finite `float` is the exact rational that its text denotes.
-/

namespace AutoSre.Lib.Python

/-! ## Characters -/

/-- The zeros of Unicode 16; the other digits of a zero follow it. -/
def decimalZeros : List ℕ :=
  [0x30, 0x660, 0x6F0, 0x7C0, 0x966, 0x9E6, 0xA66, 0xAE6, 0xB66, 0xBE6, 0xC66, 0xCE6, 0xD66, 0xDE6, 0xE50, 0xED0,
    0xF20, 0x1040, 0x1090, 0x17E0, 0x1810, 0x1946, 0x19D0, 0x1A80, 0x1A90, 0x1B50, 0x1BB0, 0x1C40, 0x1C50, 0xA620,
    0xA8D0, 0xA900, 0xA9D0, 0xA9F0, 0xAA50, 0xABF0, 0xFF10, 0x104A0, 0x10D30, 0x10D40, 0x11066, 0x110F0, 0x11136,
    0x111D0, 0x112F0, 0x11450, 0x114D0, 0x11650, 0x116C0, 0x116D0, 0x116DA, 0x11730, 0x118E0, 0x11950, 0x11BF0,
    0x11C50, 0x11D50, 0x11DA0, 0x11F50, 0x16130, 0x16A60, 0x16AC0, 0x16B50, 0x16D70, 0x1CCF0, 0x1D7CE, 0x1D7D8,
    0x1D7E2, 0x1D7EC, 0x1D7F6, 0x1E140, 0x1E2F0, 0x1E4F0, 0x1E5F1, 0x1E950, 0x1FBF0]

def decimal (c : Char) : Option ℕ :=
  (decimalZeros.find? fun first => first ≤ c.toNat ∧ c.toNat ≤ first + 9).map fun first => c.toNat - first

/-- Unlike `str.strip`, a number does not allow the separators U+001C to U+001F around it. -/
def isNumberSpace (c : Char) : Bool := isSpace c && !(28 ≤ c.toNat && c.toNat ≤ 31)

def stripNumber (s : Str) : Str := ((s.dropWhile isNumberSpace).reverse.dropWhile isNumberSpace).reverse

/-! ## Digits -/

def takeSign : Str → Bool × Str
  | '-' :: rest => (true, rest)
  | '+' :: rest => (false, rest)
  | rest => (false, rest)

/-- At least one digit, and single underscores between digits. -/
def digitRun : Str → Option (List ℕ)
  | [] => none
  | [c] => (decimal c).map fun digit => [digit]
  | c :: '_' :: rest => Option.map₂ List.cons (decimal c) (digitRun rest)
  | c :: next :: rest => Option.map₂ List.cons (decimal c) (digitRun (next :: rest))

def natOfDigits (digits : List ℕ) : ℕ := digits.foldl (fun n digit => 10 * n + digit) 0

/-! ## `int` -/

/-- The interpreter's limit on the digits of an `int`. -/
def intMaxStrDigits : ℕ := 4300

/-- `int(text)` -/
def parseInt (text : Str) : Option ℤ :=
  let (negative, body) := takeSign (stripNumber text)
  match digitRun body with
  | none => none
  | some digits =>
    if digits.length ≤ intMaxStrDigits then
      some (if negative then -(natOfDigits digits : ℤ) else natOfDigits digits)
    else none

/-! ## `float` -/

inductive PyFloat where
  | finite (value : ℚ)
  | infinite (negative : Bool)
  | nan
deriving DecidableEq

def optionalRun (s : Str) : Option (List ℕ) := if s = [] then some [] else digitRun s

/-- A number with at most one point in it, and a digit on one side of it. -/
def mantissa (s : Str) : Option ℚ :=
  let whole := s.takeWhile (· ≠ '.')
  match s.dropWhile (· ≠ '.') with
  | [] => (digitRun whole).map fun digits => natOfDigits digits
  | _ :: fraction =>
    if whole = [] ∧ fraction = [] then none
    else
      Option.map₂ (fun left right => natOfDigits (left ++ right) / 10 ^ right.length) (optionalRun whole)
        (optionalRun fraction)

def exponent (s : Str) : Option ℤ :=
  let (negative, digits) := takeSign s
  (digitRun digits).map fun digits => if negative then -(natOfDigits digits : ℤ) else natOfDigits digits

def scientific (s : Str) : Option ℚ :=
  let isMarker (c : Char) : Bool := c = 'e' ∨ c = 'E'
  match s.dropWhile (!isMarker ·) with
  | [] => mantissa s
  | _ :: rest =>
    Option.map₂ (fun value power => value * 10 ^ power) (mantissa (s.takeWhile (!isMarker ·))) (exponent rest)

/-- `float(text)` -/
def parseFloat (text : Str) : Option PyFloat :=
  let (negative, body) := takeSign (stripNumber text)
  let word := body.map Char.toLower
  if word = "inf".toList ∨ word = "infinity".toList then some (.infinite negative)
  else if word = "nan".toList then some .nan
  else (scientific body).map fun value => .finite (if negative then -value else value)

/-! The empty string is no number. -/

@[simp] theorem parseInt_nil : parseInt [] = none := rfl

@[simp] theorem parseFloat_nil : parseFloat [] = none := by decide +kernel

example : parseInt " -1_0\n".toList = some (-10) := by decide +kernel

example : parseFloat "+1_0.5e-1".toList = some (.finite (21 / 20)) := by decide +kernel

example : parseFloat "1_.5".toList = none := by decide +kernel

end AutoSre.Lib.Python
