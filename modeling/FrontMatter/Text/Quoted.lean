import FrontMatter.Text.Printable

/-!
# `FrontMatter.Text.Quoted` — texts shown in quotes

A text inside a message is shown between quotes, so that its ends and its invisible characters can
be seen. Single quotes are used unless the text holds one and no double quote.

## Contents

* `hexDigits`: a number in base sixteen with a least width.
* `escapeChar`: one character inside quotes; `escapeByte`: one byte.
* `quote`, `quoteChar`, `quoteBytes`: a text, a character, a run of bytes in quotes.
-/

namespace FrontMatter.Text

/-- A number in lower-case hexadecimal, filled up with zeros to `width` digits. -/
def hexDigits (width n : Nat) : List Char :=
  let ds := Nat.toDigits 16 n
  List.replicate (width - ds.length) '0' ++ ds

/-- The quote for a text: double where the text has single quotes only, single otherwise. -/
def quoteMark (cs : List Char) : Char :=
  if cs.contains '\'' && !cs.contains '"' then '"' else '\''

/-- One character between quotes `q`: the quote, the backslash and the common breaks after a
backslash, what cannot be printed by its number, the rest as it is. -/
def escapeChar (q c : Char) : List Char :=
  if c == q || c == '\\' then ['\\', c]
  else if c == '\n' then ['\\', 'n']
  else if c == '\r' then ['\\', 'r']
  else if c == '\t' then ['\\', 't']
  else if isPrintable c then [c]
  else if c.toNat < 0x100 then '\\' :: 'x' :: hexDigits 2 c.toNat
  else if c.toNat < 0x10000 then '\\' :: 'u' :: hexDigits 4 c.toNat
  else '\\' :: 'U' :: hexDigits 8 c.toNat

/-- The characters of a text in quotes. -/
def quoteChars (cs : List Char) : List Char :=
  let q := quoteMark cs
  q :: (cs.flatMap (escapeChar q) ++ [q])

/-- A text in quotes. -/
def quote (s : String) : String :=
  String.ofList (quoteChars s.toList)

/-- A character in quotes. -/
def quoteChar (c : Char) : String :=
  String.ofList (quoteChars [c])

/-- One byte between quotes `q`: only ASCII is shown as it is. -/
def escapeByte (q : Char) (b : UInt8) : List Char :=
  if b.toNat < 0x7F then escapeChar q (Char.ofNat b.toNat) else '\\' :: 'x' :: hexDigits 2 b.toNat

/-- A run of bytes, as a quoted text with a `b` before it. -/
def quoteBytes (bs : List UInt8) : String :=
  let q := quoteMark (bs.map fun b => Char.ofNat b.toNat)
  String.ofList ('b' :: q :: (bs.flatMap (escapeByte q) ++ [q]))

end FrontMatter.Text
