import FrontMatter.Calendar.Read
import FrontMatter.Value.Basic

/-!
# `FrontMatter.Rules.Field` — what the values of fields have to be

## Contents

* `isSlugText`, `Value.isSlug`: lower-case letters, digits and hyphens.
* `Value.isIsoDate`: a day, a moment, or a text that names a day.
* `isSemverText`, `Value.isSemver`: three numbers with points between them.
* `Value.isNonEmptyText`: a text with characters.
-/

namespace FrontMatter

open Calendar (Date)

/-! ## Slugs -/

/-- A character of a slug. -/
def isSlugChar (c : Char) : Bool :=
  c.isLower || c.isDigit || c == '-'

/-- A text of one or more slug characters. -/
def isSlugText (cs : List Char) : Bool :=
  !cs.isEmpty && cs.all isSlugChar

/-- A value that is a slug. -/
def Value.isSlug : Value → Bool
  | .scalar (.str s) => isSlugText s.toList
  | _ => false

/-! ## Dates -/

/-- A value that is a day or a moment, or a text of the form `YYYY-MM-DD` that names a day. -/
def Value.isIsoDate : Value → Bool
  | .scalar (.date _) => true
  | .scalar (.dateTime _) => true
  | .scalar (.str s) => (Date.ofText? s).isSome
  | _ => false

/-! ## Versions -/

/-- A run of one or more digits of ASCII. -/
def isDigitRun (cs : List Char) : Bool :=
  !cs.isEmpty && cs.all Char.isDigit

/-- Three runs of digits with points between them. -/
def isSemverText (cs : List Char) : Bool :=
  let parts := cs.splitOn '.'
  parts.length == 3 && parts.all isDigitRun

/-- A value that is a version. -/
def Value.isSemver : Value → Bool
  | .scalar (.str s) => isSemverText s.toList
  | _ => false

/-! ## Texts -/

/-- A value that is a text with at least one character. -/
def Value.isNonEmptyText : Value → Bool
  | .scalar (.str s) => s != ""
  | _ => false

end FrontMatter
