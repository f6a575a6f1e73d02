import FrontMatter.Text.CaseTable

/-!
# `FrontMatter.Text.Case` — texts in lower and upper case

## Contents

* `lower`, `upper`: a text with each letter in the other case.
* `lowerChars`: lower case character by character; a capital sigma at the end of a word takes its
  final form.
-/

namespace FrontMatter.Text

/-- The counterpart of a code point in a table, itself if it has none. -/
def mapCase (runs : List CaseRun) (expansions : List (Nat × List Nat)) (c : Char) : List Char :=
  match expansions.lookup c.toNat with
  | some ns => ns.map Char.ofNat
  | none => [((runs.findSome? fun r => r.shift? c.toNat).map Char.ofNat).getD c]

/-- A character in lower case, wherever it stands. -/
def lowerChar (c : Char) : List Char :=
  if c.toNat < 0x80 then [c.toLower] else mapCase lowerRuns lowerExpansions c

/-- A character in upper case. -/
def upperChar (c : Char) : List Char :=
  if c.toNat < 0x80 then [c.toUpper] else mapCase upperRuns upperExpansions c

/-- Whether the nearest character that is not ignorable is a letter with case. -/
def nextIsCased (cs : List Char) : Bool :=
  match cs.dropWhile fun c => caseIgnorableRanges.holds c.toNat with
  | [] => false
  | c :: _ => casedRanges.holds c.toNat

/-- Lower case of the characters to come, after `before` (nearest first) has been turned into `done`
(last first). A capital sigma after a letter and before none is a final sigma. -/
def lowerChars (before done : List Char) : List Char → List Char
  | [] => done.reverse
  | c :: rest =>
    let here :=
      if c == 'Σ' then [if nextIsCased before && !nextIsCased rest then 'ς' else 'σ']
      else lowerChar c
    lowerChars (c :: before) (here.reverse ++ done) rest

/-- A text in lower case. -/
def lower (s : String) : String :=
  String.ofList (lowerChars [] [] s.toList)

/-- A text in upper case. -/
def upper (s : String) : String :=
  String.ofList (s.toList.flatMap upperChar)

end FrontMatter.Text
