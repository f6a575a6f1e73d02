/-!
# `FrontMatter.Text.Ansi` — terminal styles

A style is an escape sequence before a text and a reset after it.

## Contents

* `Colour`, `Style`: the colours in use; a colour with or without bold.
* `styled`: a text in a style.
* `unstyled`: a text without escape sequences.
-/

namespace FrontMatter.Text

/-- The foreground colours in use. -/
inductive Colour
  | red | green | blue | cyan | brightBlack
  deriving Repr, DecidableEq

/-- The number of a colour in an escape sequence. -/
def Colour.code : Colour → String
  | .red => "31"
  | .green => "32"
  | .blue => "34"
  | .cyan => "36"
  | .brightBlack => "90"

/-- How a text looks. -/
structure Style where
  colour : Option Colour
  bold : Bool
  deriving Repr, DecidableEq

/-- The escape character. -/
def escapeMark : Char := '\x1b'

/-- An escape sequence that selects a rendition. -/
def rendition (code : String) : String :=
  String.ofList (escapeMark :: '[' :: (code.toList ++ ['m']))

/-- The sequences that turn a style on. -/
def Style.opening (s : Style) : String :=
  (s.colour.map fun c => rendition c.code).getD "" ++ (if s.bold then rendition "1" else "")

/-- A text in a style. -/
def styled (s : Style) (text : String) : String :=
  s.opening ++ text ++ rendition "0"

/-- A character between `lo` and `hi`, by code point. -/
def between (lo hi : Nat) (c : Char) : Bool :=
  lo ≤ c.toNat && c.toNat ≤ hi

/-- What follows an escape sequence whose escape character has been read: the sequence is `[`, then
parameter characters, intermediate characters and one final character. -/
def afterSequence? : List Char → Option (List Char)
  | '[' :: rest =>
    match (rest.dropWhile (between 0x30 0x3F)).dropWhile (between 0x20 0x2F) with
    | c :: after => if between 0x40 0x7E c then some after else none
    | [] => none
  | _ => none

/-- The rest after a sequence is shorter than before it. -/
theorem length_of_afterSequence? {cs ds : List Char} (h : afterSequence? cs = some ds) :
    ds.length < cs.length := by
  unfold afterSequence? at h
  split at h
  · next rest =>
    have h1 := (List.dropWhile_sublist (l := rest) (between 0x30 0x3F)).length_le
    have h2 := (List.dropWhile_sublist (l := rest.dropWhile (between 0x30 0x3F))
      (between 0x20 0x2F)).length_le
    split at h
    · next c after heq =>
      split at h
      · cases h
        have hlen := congrArg List.length heq
        simp only [List.length_cons] at hlen ⊢
        omega
      · cases h
    · cases h
  · cases h

/-- Drops every escape sequence; `done` holds what is kept, last first. -/
def unstyledFrom (done : List Char) (cs : List Char) : List Char :=
  match cs with
  | [] => done.reverse
  | c :: rest =>
    if c == escapeMark then
      match h : afterSequence? rest with
      | some after =>
        have : after.length < rest.length := length_of_afterSequence? h
        unstyledFrom done after
      | none => unstyledFrom (c :: done) rest
    else unstyledFrom (c :: done) rest
termination_by cs.length
decreasing_by all_goals simp only [List.length_cons]; omega

/-- A text without its escape sequences. -/
def unstyled (text : String) : String :=
  String.ofList (unstyledFrom [] text.toList)

end FrontMatter.Text
