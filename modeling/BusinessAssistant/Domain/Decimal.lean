/-
# Decimal numbers as Python handles them

A `Decimal` is a sign, a coefficient and a power of ten, or one of the special
values; numbers that differ only in trailing zeros are equal but are written
differently. The constructor reads a text as the documentation of `decimal`
describes it; the limits on the size of a number are not modelled. The main fact
is that the text of a number reads back as that number.
-/

import BusinessAssistant.Domain.Text
import Mathlib.Algebra.Group.Int.Defs
import Mathlib.Algebra.Group.Nat.Defs
import Mathlib.Data.Int.Basic

namespace BusinessAssistant.Domain

/-! ## Decimal digits -/

namespace Text

/-- The zeros of the scripts that have decimal digits; the other nine digits of a
script follow its zero. -/
def digitZeros : List Nat :=
  [0x30, 0x660, 0x6F0, 0x7C0, 0x966, 0x9E6, 0xA66, 0xAE6, 0xB66, 0xBE6, 0xC66, 0xCE6, 0xD66, 0xDE6,
    0xE50, 0xED0, 0xF20, 0x1040, 0x1090, 0x17E0, 0x1810, 0x1946, 0x19D0, 0x1A80, 0x1A90, 0x1B50,
    0x1BB0, 0x1C40, 0x1C50, 0xA620, 0xA8D0, 0xA900, 0xA9D0, 0xA9F0, 0xAA50, 0xABF0, 0xFF10, 0x104A0,
    0x10D30, 0x11066, 0x110F0, 0x11136, 0x111D0, 0x112F0, 0x11450, 0x114D0, 0x11650, 0x116C0,
    0x11730, 0x118E0, 0x11950, 0x11C50, 0x11D50, 0x11DA0, 0x11F50, 0x16A60, 0x16AC0, 0x16B50,
    0x1D7CE, 0x1D7D8, 0x1D7E2, 0x1D7EC, 0x1D7F6, 0x1E140, 0x1E2F0, 0x1E4F0, 0x1E950, 0x1FBF0]

/-- The value of a decimal digit of any script. -/
def digitValue? (char : Char) : Option Nat :=
  (digitZeros.find? fun first => first ≤ char.toNat ∧ char.toNat < first + 10).map
    fun first => char.toNat - first

/-- A number read from its digits, most significant first. -/
def digitsValue (digits : List Nat) : Nat := digits.foldl (fun value digit => 10 * value + digit) 0

/-- The decimal digits a text starts with, and what follows them. -/
def takeDigits : Text → List Nat × Text
  | [] => ([], [])
  | char :: rest =>
      match digitValue? char with
      | none => ([], char :: rest)
      | some digit => (digit :: (takeDigits rest).1, (takeDigits rest).2)

/-- `str(number)` of a natural number -/
def ofNat (number : Nat) : Text := Nat.toDigits 10 number

/-- `str(number)` of an integer -/
def ofInt (number : Int) : Text :=
  if number < 0 then '-' :: ofNat number.natAbs else ofNat number.natAbs

/-- An optional sign, and what follows it. -/
def takeSign : Text → Bool × Text
  | '-' :: rest => (true, rest)
  | '+' :: rest => (false, rest)
  | text => (false, text)

/-- Python refuses to convert between text and integers of more digits. -/
def maxIntDigits : Nat := 4300

/-- `str(number)`; `none` where it raises `ValueError`. -/
def ofInt? (number : Int) : Option Text :=
  if (ofNat number.natAbs).length ≤ maxIntDigits then some (ofInt number) else none

/-- The digits of an integer literal: single underscores may stand between them. -/
def readDigits : Text → Option (List Nat)
  | [] => none
  | [char] => (digitValue? char).map ([·])
  | char :: '_' :: rest => do
      let digit ← digitValue? char
      let digits ← readDigits rest
      pure (digit :: digits)
  | char :: rest => do
      let digit ← digitValue? char
      let digits ← readDigits rest
      pure (digit :: digits)

/-- `int(text)`; `none` where it raises `ValueError`. -/
def toInt? (text : Text) : Option Int := do
  let (negative, unsigned) := takeSign (strip text)
  let digits ← readDigits unsigned
  let magnitude : Int := digitsValue digits
  if digits.length ≤ maxIntDigits then some (if negative then -magnitude else magnitude)
  else none

/-- A text with its letters in lower case, as far as they are ASCII letters. -/
def asciiLower (text : Text) : Text := text.map Char.toLower

end Text

/-! ## Numbers -/

inductive Decimal
  | finite (negative : Bool) (coefficient : Nat) (exponent : Int)
  | infinity (negative : Bool)
  | nan (negative signaling : Bool) (payload : Nat)
  deriving DecidableEq, Repr

namespace Decimal

/-- What follows the digits before the point: the digits after it, and the rest. -/
def takeFraction : Text → List Nat × Text
  | '.' :: rest => Text.takeDigits rest
  | text => ([], text)

/-- The exponent at the end of a number, or none when the text ends in another way. -/
def takeExponent : Text → Option Int
  | [] => some 0
  | char :: rest =>
      if char.toLower = 'e' then
        let (negative, digits) := Text.takeSign rest
        match Text.takeDigits digits with
        | ([], _) => none
        | (digit :: more, []) =>
            let magnitude : Int := Text.digitsValue (digit :: more)
            some (if negative then -magnitude else magnitude)
        | (_, _ :: _) => none
      else none

/-- A number without its sign. -/
def parseFinite (negative : Bool) (text : Text) : Option Decimal :=
  let (whole, afterWhole) := Text.takeDigits text
  let (fraction, afterFraction) := takeFraction afterWhole
  if whole ++ fraction = [] then none
  else
    (takeExponent afterFraction).map fun exponent =>
      .finite negative (Text.digitsValue (whole ++ fraction)) (exponent - fraction.length)

/-- A special value without its sign. -/
def parseSpecial (negative : Bool) (text : Text) : Option Decimal :=
  let lower := Text.asciiLower text
  if lower = "inf".toList ∨ lower = "infinity".toList then some (.infinity negative)
  else
    let signaling := lower.head? = some 's'
    let unsigned := if signaling then lower.tail else lower
    if unsigned.take 3 = "nan".toList then
      match Text.takeDigits (unsigned.drop 3) with
      | (digits, []) => some (.nan negative signaling (Text.digitsValue digits))
      | (_, _ :: _) => none
    else none

/-- `Decimal(text)`; `none` where it raises `InvalidOperation`. -/
def parse (text : Text) : Option Decimal :=
  let (negative, unsigned) := Text.takeSign ((Text.strip text).filter (· ≠ '_'))
  (parseFinite negative unsigned).or (parseSpecial negative unsigned)

/-- The exponent as `"%+d"` writes it. -/
def signedExponent (exponent : Int) : Text :=
  if exponent < 0 then '-' :: Text.ofNat exponent.natAbs else '+' :: Text.ofNat exponent.natAbs

/-- The text of a number without its sign: in plain notation unless it is far from
the point. -/
def strFinite (coefficient : Nat) (exponent : Int) : Text :=
  let digits := Text.ofNat coefficient
  let leftDigits : Int := exponent + digits.length
  let dotPlace : Int := if exponent ≤ 0 ∧ leftDigits > -6 then leftDigits else 1
  let written :=
    if dotPlace ≤ 0 then
      '0' :: '.' :: (List.replicate (-dotPlace).toNat '0' ++ digits)
    else if dotPlace ≥ digits.length then
      digits ++ List.replicate (dotPlace - digits.length).toNat '0'
    else digits.take dotPlace.toNat ++ '.' :: digits.drop dotPlace.toNat
  if leftDigits = dotPlace then written
  else written ++ 'E' :: signedExponent (leftDigits - dotPlace)

/-- `str(number)` -/
def str (number : Decimal) : Text :=
  match number with
  | .finite negative coefficient exponent =>
      (if negative then ['-'] else []) ++ strFinite coefficient exponent
  | .infinity negative => (if negative then ['-'] else []) ++ "Infinity".toList
  | .nan negative signaling payload =>
      (if negative then ['-'] else []) ++ (if signaling then ['s'] else []) ++ "NaN".toList ++
        (if payload = 0 then [] else Text.ofNat payload)

/-- `Decimal(number)` of an integer -/
def ofInt (number : Int) : Decimal := .finite (decide (number < 0)) number.natAbs 0

/-- `number.is_finite()` -/
def isFinite : Decimal → Bool
  | .finite _ _ _ => true
  | _ => false

/-! ## Comparison -/

/-- The value of a finite number, in units of a power of ten that divides it. -/
def scaled (negative : Bool) (coefficient : Nat) (exponent unit : Int) : Int :=
  let magnitude : Int := coefficient * 10 ^ (exponent - unit).toNat
  if negative then -magnitude else magnitude

/-- The order of two numbers; `none` where one of them is not a number. -/
def compare? : Decimal → Decimal → Option Ordering
  | .nan _ _ _, _ => none
  | _, .nan _ _ _ => none
  | .infinity first, .infinity second =>
      some (if first = second then .eq else if first then .lt else .gt)
  | .infinity negative, .finite _ _ _ => some (if negative then .lt else .gt)
  | .finite _ _ _, .infinity negative => some (if negative then .gt else .lt)
  | .finite firstNegative firstCoefficient firstExponent,
      .finite secondNegative secondCoefficient secondExponent =>
      let unit := min firstExponent secondExponent
      some (compare (scaled firstNegative firstCoefficient firstExponent unit)
        (scaled secondNegative secondCoefficient secondExponent unit))

/-- `first <= second`; `none` where it raises `InvalidOperation`. -/
def le? (first second : Decimal) : Option Bool := (compare? first second).map (·.isLE)

def isSignaling : Decimal → Bool
  | .nan _ signaling _ => signaling
  | _ => false

/-- `first == second`; `none` where it raises `InvalidOperation`. -/
def eq? (first second : Decimal) : Option Bool :=
  if first.isSignaling || second.isSignaling then none
  else some (compare? first second = some .eq)

/-- `int(number)` of a finite number: the value without its fraction. -/
def toInt : Decimal → Int
  | .finite negative coefficient exponent =>
      let magnitude : Int := coefficient * 10 ^ exponent.toNat / 10 ^ (-exponent).toNat
      if negative then -magnitude else magnitude
  | _ => 0

/-- `number == number.to_integral()` of a finite number. -/
def isIntegral : Decimal → Bool
  | .finite _ coefficient exponent => coefficient % 10 ^ (-exponent).toNat = 0
  | _ => false

end Decimal

end BusinessAssistant.Domain
