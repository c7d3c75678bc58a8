/-
# Text as Python handles it

Strings are lists of code points, so that length, slicing and comparison are
those of Python. Only what the modelled code does with text is here: trimming,
splitting at whitespace and reading a phone number. What rests on the Unicode
tables and on regular expressions is a parameter.
-/

import BusinessAssistant.Foundation.Members
import Mathlib.Data.List.Basic
import Mathlib.Data.List.TakeWhile

namespace BusinessAssistant.Domain

/-- A Python `str`, as its code points. -/
abbrev Text := List Char

namespace Text

instance (priority := high) lawfulBEq : LawfulBEq Text := inferInstance

/-- `char.isspace()`, which `str.split`, `str.strip` and `\s` agree on. -/
def isSpace (char : Char) : Bool :=
  let code := char.toNat
  (9 ≤ code && code ≤ 13) || (28 ≤ code && code ≤ 32) || code = 0x85 || code = 0xA0 ||
    code = 0x1680 || (0x2000 ≤ code && code ≤ 0x200A) || code = 0x2028 || code = 0x2029 ||
    code = 0x202F || code = 0x205F || code = 0x3000

/-- `value.strip()` -/
def strip (value : Text) : Text :=
  ((value.dropWhile isSpace).reverse.dropWhile isSpace).reverse

/-- `value.split()`: the maximal runs without whitespace. `word` collects the
run being read, in reverse. -/
def splitFrom : Text → Text → List Text
  | word, [] => if word = [] then [] else [word.reverse]
  | word, char :: rest =>
      if isSpace char then
        if word = [] then splitFrom [] rest else word.reverse :: splitFrom [] rest
      else splitFrom (char :: word) rest

/-- `" ".join(value.split())` -/
def normalizeSpaces (value : Text) : Text :=
  [' '].intercalate (splitFrom [] value)

/-- `not value.strip()` -/
def Blank (value : Text) : Prop := strip value = []

instance (value : Text) : Decidable value.Blank := inferInstanceAs (Decidable (_ = _))

/-- A text is blank when all of it is whitespace. -/
theorem blank_iff (value : Text) : value.Blank ↔ ∀ char ∈ value, isSpace char = true := by
  unfold Blank strip
  rw [List.reverse_eq_nil_iff, List.dropWhile_eq_nil_iff]
  constructor
  · intro hrest char hchar
    rw [← List.takeWhile_append_dropWhile (p := isSpace) (l := value)] at hchar
    rcases List.mem_append.mp hchar with hleading | hlater
    · exact List.mem_takeWhile_imp hleading
    · exact hrest char (List.mem_reverse.mpr hlater)
  · intro hall char hchar
    exact hall char (List.dropWhile_sublist _ |>.mem (List.mem_reverse.mp hchar))

/-- `", ".join(values)` -/
def joinComma (values : List Text) : Text := [',', ' '].intercalate values

end Text

/-- What Python's Unicode tables and its regular expressions decide. -/
class PythonText where
  /-- `value.casefold()` -/
  casefold : Text → Text
  /-- `value.isidentifier()` -/
  isidentifier : Text → Bool
  /-- `re.fullmatch(pattern, value) is not None`; `none` where the pattern does not
  compile. -/
  fullmatch : (pattern value : Text) → Option Bool
  /-- `str(values)` of a list of strings -/
  strList : List Text → Text

/-- `PhoneNumber`, as `parse` builds it from an unverified text. -/
structure PhoneNumber where
  raw : Text
  normalizedE164 : Option Text
  deriving DecidableEq, Repr

namespace PhoneNumber

/-- The characters `[0-9+()\-.\s]` admits. -/
def isPhoneChar (char : Char) : Bool :=
  char.isDigit || char = '+' || char = '(' || char = ')' || char = '-' || char = '.' ||
    Text.isSpace char

/-- `PhoneNumber.parse(raw)`; `none` where it raises `ValidationError`. -/
def parse (raw : Text) : Option PhoneNumber :=
  let value := Text.strip raw
  if value = [] ∨ value.length > 32 ∨ value.any (fun char => !isPhoneChar char) = true then none
  else
    let digits := value.filter Char.isDigit
    if digits.length < 5 then none
    else
      some
        { raw := value
          normalizedE164 :=
            if value.head? = some '+' ∧ 8 ≤ digits.length ∧ digits.length ≤ 15 then
              some ('+' :: digits)
            else none }

/-- `parsed.normalized_e164 or parsed.raw` -/
def stored (number : PhoneNumber) : Text := number.normalizedE164.getD number.raw

end PhoneNumber

end BusinessAssistant.Domain
