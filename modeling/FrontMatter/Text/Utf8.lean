import FrontMatter.Text.Quoted

/-!
# `FrontMatter.Text.Utf8` — characters from bytes

A decoder that reads one byte at a time. Between bytes it knows how many bytes the character still
needs, which bytes may come next, and the value so far. A byte that cannot come next ends the run of
bytes before it, and is itself read again as a first byte.

## Contents

* `Partial`: an unfinished character; `Partial.first?`, `Partial.next?`: one byte.
* `DecodeFault`: why bytes are no text, and `DecodeFault.message`.
* `decode`: the text of the bytes, or the first fault.
* `decodeLossy`: every byte run that is no character becomes U+FFFD.
-/

namespace FrontMatter.Text

/-! ## One character -/

/-- A character that needs `need` more bytes, the next of them between `low` and `high`. -/
structure Partial where
  need : Nat
  low : Nat
  high : Nat
  value : Nat

/-- A first byte: a whole character, an unfinished one, or neither. -/
inductive FirstByte
  | whole (c : Char)
  | unfinished (p : Partial)
  | bad

/-- The reading of a first byte. -/
def FirstByte.ofByte (b : UInt8) : FirstByte :=
  let n := b.toNat
  if n ≤ 0x7F then .whole (Char.ofNat n)
  else if 0xC2 ≤ n && n ≤ 0xDF then .unfinished ⟨1, 0x80, 0xBF, n - 0xC0⟩
  else if n == 0xE0 then .unfinished ⟨2, 0xA0, 0xBF, 0⟩
  else if n == 0xED then .unfinished ⟨2, 0x80, 0x9F, 0xD⟩
  else if 0xE1 ≤ n && n ≤ 0xEF then .unfinished ⟨2, 0x80, 0xBF, n - 0xE0⟩
  else if n == 0xF0 then .unfinished ⟨3, 0x90, 0xBF, 0⟩
  else if 0xF1 ≤ n && n ≤ 0xF3 then .unfinished ⟨3, 0x80, 0xBF, n - 0xF0⟩
  else if n == 0xF4 then .unfinished ⟨3, 0x80, 0x8F, 4⟩
  else .bad

/-- A further byte of an unfinished character. -/
def Partial.next (p : Partial) (b : UInt8) : FirstByte :=
  let n := b.toNat
  if p.low ≤ n && n ≤ p.high then
    let v := p.value * 64 + (n - 0x80)
    if p.need ≤ 1 then .whole (Char.ofNat v) else .unfinished ⟨p.need - 1, 0x80, 0xBF, v⟩
  else .bad

/-! ## Whole texts -/

/-- Why a run of bytes is no text: its first byte, at `start`, begins no character; a later byte
does not continue the character, which ends before `stop`; or the bytes end within a character. -/
inductive DecodeFault
  | badStart (byte : UInt8) (start : Nat)
  | badContinuation (byte : UInt8) (start stop : Nat)
  | cut (byte : UInt8) (start stop : Nat)
  deriving Repr, DecidableEq

/-- The place of a fault: one byte is shown, several are counted. -/
def DecodeFault.place (byte : UInt8) (start stop : Nat) : String :=
  if start == stop then
    "byte 0x" ++ String.ofList (hexDigits 2 byte.toNat) ++ " in position " ++ toString start
  else
    "bytes in position " ++ toString start ++ "-" ++ toString stop

/-- A fault in words. -/
def DecodeFault.message : DecodeFault → String
  | .badStart b i => "'utf-8' codec can't decode " ++ place b i i ++ ": invalid start byte"
  | .badContinuation b i j =>
    "'utf-8' codec can't decode " ++ place b i j ++ ": invalid continuation byte"
  | .cut b i j => "'utf-8' codec can't decode " ++ place b i j ++ ": unexpected end of data"

/-- Reads bytes from position `i` on. `pending` is the unfinished character with its first byte
and position, `done` the characters read, last first. -/
def decodeFrom (i : Nat) (pending : Option (Partial × UInt8 × Nat)) (done : List Char) :
    List UInt8 → Except DecodeFault (List Char)
  | [] =>
    match pending with
    | none => .ok done.reverse
    | some (_, b, start) => .error (.cut b start (i - 1))
  | b :: rest =>
    match pending with
    | none =>
      match FirstByte.ofByte b with
      | .whole c => decodeFrom (i + 1) none (c :: done) rest
      | .unfinished p => decodeFrom (i + 1) (some (p, b, i)) done rest
      | .bad => .error (.badStart b i)
    | some (p, first, start) =>
      match p.next b with
      | .whole c => decodeFrom (i + 1) none (c :: done) rest
      | .unfinished q => decodeFrom (i + 1) (some (q, first, start)) done rest
      | .bad => .error (.badContinuation first start (i - 1))

/-- The text of the bytes, or why they are none. -/
def decode (bytes : List UInt8) : Except DecodeFault String :=
  (decodeFrom 0 none [] bytes).map String.ofList

/-- Reads all bytes, with U+FFFD for each longest run that begins a character without finishing it,
and for each byte that begins none. -/
def decodeLossyFrom (pending : Option Partial) (done : List Char) : List UInt8 → List Char
  | [] =>
    match pending with
    | none => done.reverse
    | some _ => ('\uFFFD' :: done).reverse
  | b :: rest =>
    let fresh (done : List Char) : Option Partial × List Char :=
      match FirstByte.ofByte b with
      | .whole c => (none, c :: done)
      | .unfinished p => (some p, done)
      | .bad => (none, '\uFFFD' :: done)
    let after :=
      match pending with
      | none => fresh done
      | some p =>
        match p.next b with
        | .whole c => (none, c :: done)
        | .unfinished q => (some q, done)
        | .bad => fresh ('\uFFFD' :: done)
    decodeLossyFrom after.1 after.2 rest

/-- The text of the bytes, whatever they are. -/
def decodeLossy (bytes : List UInt8) : String :=
  String.ofList (decodeLossyFrom none [] bytes)

end FrontMatter.Text
