/-
# Base64

Bytes as digits in base 64 over an alphabet, three bytes to four characters, and
a decoder that passes over what is not in the alphabet and stops at the padding.
What the encoder writes, with the padding cut off and put back, the decoder reads,
so the unpadded text determines the bytes.
-/

import BusinessAssistant.Foundation.Members
import Mathlib.Data.List.Basic
import Mathlib.Data.Nat.Notation
import Mathlib.Tactic.IntervalCases

namespace BusinessAssistant.Foundation.Base64

abbrev Byte := Fin 256

/-- There is a byte, and a digit. -/
instance (priority := high) Byte.neZero : NeZero 256 := ⟨by decide⟩

@[inherit_doc Byte.neZero]
instance (priority := high) digitNeZero : NeZero 64 := ⟨by decide⟩

/-- Sixty-four characters with their values. A reader may know more characters. -/
structure Alphabet where
  symbol : Fin 64 → Char
  value? : Char → Option (Fin 64)
  value_symbol : ∀ digit, value? (symbol digit) = some digit
  value_pad : value? '=' = none

/-! ## Encoding -/

/-- The digits of bytes, without padding. -/
def digits : List Byte → List (Fin 64)
  | [] => []
  | [first] => [Fin.ofNat 64 (first / 4), Fin.ofNat 64 (first % 4 * 16)]
  | [first, second] =>
      [Fin.ofNat 64 (first / 4), Fin.ofNat 64 (first % 4 * 16 + second / 16),
        Fin.ofNat 64 (second % 16 * 4)]
  | first :: second :: third :: rest =>
      Fin.ofNat 64 (first / 4) :: Fin.ofNat 64 (first % 4 * 16 + second / 16) ::
        Fin.ofNat 64 (second % 16 * 4 + third / 64) :: Fin.ofNat 64 (third % 64) :: digits rest

/-- The padding after the digits of so many bytes. -/
def padding (length : ℕ) : List Char := List.replicate ((3 - length % 3) % 3) '='

variable (alphabet : Alphabet)

def encode (bytes : List Byte) : List Char :=
  (digits bytes).map alphabet.symbol ++ padding bytes.length

/-- A text without the characters of one kind that end it. -/
def rstrip (last : Char) (text : List Char) : List Char :=
  (text.reverse.dropWhile (· = last)).reverse

/-- The digits of bytes in the alphabet, without padding. -/
def unpadded (bytes : List Byte) : List Char := rstrip '=' (encode alphabet bytes)

/-! ## Decoding -/

/-- One character at a time, after `position` digits of a group whose last has
left some bits and been followed by some padding. A group that is padded ends the
text. -/
def decodeFrom (position left pads : ℕ) : List Char → Option (List Byte)
  | [] => if position = 0 then some [] else none
  | char :: rest =>
      if char = '=' then
        if position < 2 then decodeFrom position left pads rest
        else if 4 ≤ position + (pads + 1) then some []
        else decodeFrom position left (pads + 1) rest
      else
        match alphabet.value? char with
        | none => decodeFrom position left pads rest
        | some digit =>
            match position with
            | 0 => decodeFrom 1 digit 0 rest
            | 1 => (decodeFrom 2 (digit % 16) 0 rest).map (Fin.ofNat 256 (left * 4 + digit / 16) :: ·)
            | 2 => (decodeFrom 3 (digit % 4) 0 rest).map (Fin.ofNat 256 (left * 16 + digit / 4) :: ·)
            | _ => (decodeFrom 0 0 0 rest).map (Fin.ofNat 256 (left * 64 + digit) :: ·)

/-- The bytes of a text; `none` where the last group is not complete. -/
def decode (text : List Char) : Option (List Byte) := decodeFrom alphabet 0 0 0 text

/-! ## Round trip -/

variable {alphabet}

theorem symbol_ne_pad (digit : Fin 64) : alphabet.symbol digit ≠ '=' := by
  intro hpad
  have hvalue := alphabet.value_symbol digit
  rw [hpad, alphabet.value_pad] at hvalue
  cases hvalue

section Steps

variable (left pads : ℕ) (digit : Fin 64) (rest : List Char)

@[simp]
theorem decodeFrom_zero : decodeFrom alphabet 0 left pads (alphabet.symbol digit :: rest) =
    decodeFrom alphabet 1 digit 0 rest := by
  simp [decodeFrom, symbol_ne_pad, alphabet.value_symbol]

@[simp]
theorem decodeFrom_one : decodeFrom alphabet 1 left pads (alphabet.symbol digit :: rest) =
    (decodeFrom alphabet 2 (digit % 16) 0 rest).map (Fin.ofNat 256 (left * 4 + digit / 16) :: ·) := by
  simp [decodeFrom, symbol_ne_pad, alphabet.value_symbol]

@[simp]
theorem decodeFrom_two : decodeFrom alphabet 2 left pads (alphabet.symbol digit :: rest) =
    (decodeFrom alphabet 3 (digit % 4) 0 rest).map (Fin.ofNat 256 (left * 16 + digit / 4) :: ·) := by
  simp [decodeFrom, symbol_ne_pad, alphabet.value_symbol]

@[simp]
theorem decodeFrom_three : decodeFrom alphabet 3 left pads (alphabet.symbol digit :: rest) =
    (decodeFrom alphabet 0 0 0 rest).map (Fin.ofNat 256 (left * 64 + digit) :: ·) := by
  simp [decodeFrom, symbol_ne_pad, alphabet.value_symbol]

end Steps

/-- The padding of two characters ends any complete group. -/
theorem decodeFrom_padding (position left : ℕ) (hposition : position ≠ 1) (hbound : position < 4) :
    decodeFrom alphabet position left 0 ['=', '='] = some [] := by
  interval_cases position
  · rfl
  · exact absurd rfl hposition
  · rfl
  · rfl

theorem byte_eq {value : ℕ} {byte : Byte} (hvalue : value = byte) : Fin.ofNat 256 value = byte := by
  apply Fin.ext
  simp only [Fin.ofNat]
  omega

/-- The decoder reads the digits of bytes. -/
theorem decode_digits (bytes : List Byte) :
    decode alphabet ((digits bytes).map alphabet.symbol ++ ['=', '=']) = some bytes := by
  unfold decode
  induction bytes using digits.induct with
  | case1 => rfl
  | case2 first =>
      have hfirst : Fin.ofNat 256 (first / 4 % 64 * 4 + first % 4 * 16 % 64 / 16) = first :=
        byte_eq (by omega)
      simp only [digits, List.map_cons, List.map_nil, List.cons_append, List.nil_append,
        decodeFrom_zero, Fin.val_ofNat, decodeFrom_one, hfirst, Nat.reduceDvd, Nat.mod_mod_of_dvd,
        Nat.mul_mod_left, ne_eq, OfNat.ofNat_ne_one, not_false_eq_true, Nat.reduceLT,
        decodeFrom_padding, Option.map_some]
  | case3 first second =>
      have hfirst : Fin.ofNat 256
          (first / 4 % 64 * 4 + (first % 4 * 16 + second / 16) % 64 / 16) = first :=
        byte_eq (by omega)
      have hsecond : Fin.ofNat 256 (second / 16 % 16 * 16 + second % 16 * 4 % 64 / 4) = second :=
        byte_eq (by omega)
      simp only [digits, List.map_cons, List.map_nil, List.cons_append, List.nil_append,
        decodeFrom_zero, Fin.val_ofNat, decodeFrom_one, hfirst, Nat.reduceDvd, Nat.mod_mod_of_dvd,
        Nat.mul_add_mod_self_right, decodeFrom_two, hsecond, Nat.mul_mod_left, ne_eq,
        OfNat.ofNat_ne_one, not_false_eq_true, Nat.lt_add_one, decodeFrom_padding, Option.map_some]
  | case4 first second third rest ih =>
      have hfirst : Fin.ofNat 256
          (first / 4 % 64 * 4 + (first % 4 * 16 + second / 16) % 64 / 16) = first :=
        byte_eq (by omega)
      have hsecond : Fin.ofNat 256
          (second / 16 % 16 * 16 + (second % 16 * 4 + third / 64) % 64 / 4) = second :=
        byte_eq (by omega)
      have hthird : Fin.ofNat 256 (third / 64 % 4 * 64 + third % 64) = third :=
        byte_eq (by omega)
      simp only [digits, List.map_cons, List.cons_append, decodeFrom_zero, Fin.val_ofNat,
        decodeFrom_one, hfirst, Nat.reduceDvd, Nat.mod_mod_of_dvd, Nat.mul_add_mod_self_right,
        decodeFrom_two, hsecond, decodeFrom_three, dvd_refl, hthird, ih, Option.map_some]

theorem rstrip_append_replicate {last : Char} {text : List Char} (htext : last ∉ text)
    (count : ℕ) : rstrip last (text ++ List.replicate count last) = text := by
  have hdrop : (List.replicate count last ++ text.reverse).dropWhile (· = last) = text.reverse := by
    induction count with
    | zero =>
        cases hreverse : text.reverse with
        | nil => rfl
        | cons char rest =>
            have hchar : char ∈ text := by
              rw [← List.mem_reverse, hreverse]
              exact List.mem_cons_self
            have hother : char ≠ last := fun hsame => htext (hsame ▸ hchar)
            simp [hother]
    | succ count ih => simpa [List.replicate_succ] using ih
  simp only [rstrip, List.reverse_append, List.reverse_replicate, hdrop, List.reverse_reverse]

/-- Unpadded text is the digits alone. -/
theorem unpadded_eq (bytes : List Byte) :
    unpadded alphabet bytes = (digits bytes).map alphabet.symbol := by
  apply rstrip_append_replicate
  intro hpad
  obtain ⟨digit, _, hsymbol⟩ := List.mem_map.mp hpad
  exact symbol_ne_pad digit hsymbol

/-- With the padding put back the decoder reads the bytes. -/
theorem decode_unpadded (bytes : List Byte) :
    decode alphabet (unpadded alphabet bytes ++ ['=', '=']) = some bytes := by
  rw [unpadded_eq, decode_digits]

theorem unpadded_injective {first second : List Byte}
    (hsame : unpadded alphabet first = unpadded alphabet second) : first = second := by
  have hfirst := @decode_unpadded alphabet first
  rw [hsame, decode_unpadded] at hfirst
  exact (Option.some_inj.mp hfirst).symm

theorem mem_unpadded {bytes : List Byte} {char : Char} (hchar : char ∈ unpadded alphabet bytes) :
    ∃ digit, alphabet.symbol digit = char := by
  rw [unpadded_eq] at hchar
  obtain ⟨digit, _, hsymbol⟩ := List.mem_map.mp hchar
  exact ⟨digit, hsymbol⟩

theorem length_digits (bytes : List Byte) : (digits bytes).length = (bytes.length * 4 + 2) / 3 := by
  induction bytes using digits.induct with
  | case1 => rfl
  | case2 first => simp [digits]
  | case3 first second => simp [digits]
  | case4 first second third rest ih =>
      simp only [digits, List.length_cons, ih]
      omega

/-- Four characters for three bytes, and what is needed for the rest. -/
theorem length_unpadded (bytes : List Byte) :
    (unpadded alphabet bytes).length = (bytes.length * 4 + 2) / 3 := by
  rw [unpadded_eq, List.length_map, length_digits]

end BusinessAssistant.Foundation.Base64
