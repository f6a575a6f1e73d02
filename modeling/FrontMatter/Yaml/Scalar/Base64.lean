import FrontMatter.Yaml.Fault

/-!
# `FrontMatter.Yaml.Scalar.Base64` — bytes written in base 64

Four digits make three bytes. Characters that are no digits are skipped, and the first `=` that
fills up a group of four ends the reading.

## Contents

* `base64Value?`: the value of a digit.
* `Base64State`, `decodeBase64`: reading all bytes.
* `firstWide?`: the first run of characters outside ASCII.
-/

namespace FrontMatter.Yaml

/-- The value of a digit. -/
def base64Value? (c : Char) : Option Nat :=
  if 'A' ≤ c && c ≤ 'Z' then some (c.toNat - 'A'.toNat)
  else if 'a' ≤ c && c ≤ 'z' then some (c.toNat - 'a'.toNat + 26)
  else if c.isDigit then some (c.toNat - '0'.toNat + 52)
  else if c == '+' then some 62
  else if c == '/' then some 63
  else none

/-- Where the reader is: the number of digits of the current group, the bits that are left over, the
padding since the last digit, and the bytes so far, last first. -/
structure Base64State where
  digits : Nat
  left : Nat
  pads : Nat
  bytes : List UInt8

/-- The state after a digit. -/
def Base64State.push (s : Base64State) (d : Nat) : Base64State :=
  match s.digits with
  | 0 => ⟨1, d, 0, s.bytes⟩
  | 1 => ⟨2, d % 16, 0, UInt8.ofNat (s.left * 4 + d / 16) :: s.bytes⟩
  | 2 => ⟨3, d % 4, 0, UInt8.ofNat (s.left * 16 + d / 4) :: s.bytes⟩
  | _ => ⟨0, 0, 0, UInt8.ofNat (s.left * 64 + d) :: s.bytes⟩

/-- Reads the rest of the digits. -/
def decodeBase64From (s : Base64State) : List Char → Except Base64Fault (List UInt8)
  | [] =>
    if s.digits == 0 then .ok s.bytes.reverse
    else if s.digits == 1 then .error (.lonelyDigit (s.bytes.length / 3 * 4 + 1))
    else .error .padding
  | c :: rest =>
    if c == '=' then
      if 2 ≤ s.digits then
        if 4 ≤ s.digits + s.pads + 1 then .ok s.bytes.reverse
        else decodeBase64From { s with pads := s.pads + 1 } rest
      else decodeBase64From s rest
    else
      match base64Value? c with
      | some d => decodeBase64From (s.push d) rest
      | none => decodeBase64From s rest

/-- The bytes that digits of base 64 denote. -/
def decodeBase64 (cs : List Char) : Except Base64Fault (List UInt8) :=
  decodeBase64From ⟨0, 0, 0, []⟩ cs

/-- The first run of characters outside ASCII: its first character, and its first and last place. -/
def firstWide? (cs : List Char) : Option (Char × Nat × Nat) :=
  let start := (cs.takeWhile fun c => c.toNat < 0x80).length
  match cs.drop start with
  | [] => none
  | c :: rest => some (c, start, start + (rest.takeWhile fun c => !(c.toNat < 0x80)).length)

end FrontMatter.Yaml
