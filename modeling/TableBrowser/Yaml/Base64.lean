import TableBrowser.Number.Decimal
/-!
# Bytes in base 64

Three bytes are four digits. What is no digit is passed over when reading; a
last group that is not full is filled up with signs of equality.
-/

namespace TableBrowser.Yaml.Base64

def digitChars : List Char :=
  "ABCDEFGHIJKLMNOPQRSTUVWXYZabcdefghijklmnopqrstuvwxyz0123456789+/".toList

def digitValue? (char : Char) : Option Nat := digitChars.idxOf? char

def digitChar (value : Nat) : Char := (digitChars[value]?).getD 'A'

/-! ## Reading -/

/-- The values of the digits up to the filling, when no group is left open. -/
def digitValues? (count filling : Nat) : List Char → Option (List Nat)
  | [] => if count % 4 = 0 then some [] else none
  | char :: rest =>
      if char = '=' then
        if 2 ≤ count % 4 then
          if 4 ≤ count % 4 + filling + 1 then some [] else digitValues? count (filling + 1) rest
        else digitValues? count filling rest
      else match digitValue? char with
        | some value => (digitValues? (count + 1) 0 rest).map (value :: ·)
        | none => digitValues? count filling rest

def bytesOf : List Nat → List UInt8
  | first :: second :: third :: fourth :: rest =>
      UInt8.ofNat (first * 4 + second / 16) :: UInt8.ofNat (second * 16 + third / 4) ::
        UInt8.ofNat (third * 64 + fourth) :: bytesOf rest
  | [first, second, third] =>
      [UInt8.ofNat (first * 4 + second / 16), UInt8.ofNat (second * 16 + third / 4)]
  | [first, second] => [UInt8.ofNat (first * 4 + second / 16)]
  | _ => []

def decode? (chars : List Char) : Option (List UInt8) := (digitValues? 0 0 chars).map bytesOf

/-! ## Writing -/

def encode : List UInt8 → List Char
  | first :: second :: third :: rest =>
      digitChar (first.toNat / 4) :: digitChar (first.toNat % 4 * 16 + second.toNat / 16) ::
        digitChar (second.toNat % 16 * 4 + third.toNat / 64) :: digitChar (third.toNat % 64) ::
        encode rest
  | [first, second] =>
      [digitChar (first.toNat / 4), digitChar (first.toNat % 4 * 16 + second.toNat / 16),
        digitChar (second.toNat % 16 * 4), '=']
  | [first] => [digitChar (first.toNat / 4), digitChar (first.toNat % 4 * 16), '=', '=']
  | [] => []

example : encode [77, 97] = ['T', 'W', 'E', '='] := by decide
example : decode? "T W\nE=".toList = some [77, 97] := by decide
example : decode? ['T'] = none := by decide

end TableBrowser.Yaml.Base64
