import FrontMatter.Text.Utf8
import FrontMatter.Yaml.Cursor

/-!
# `FrontMatter.Yaml.Fault` — why a block cannot be read

Every fault is a cause, some of them with a place. The words are made from the cause alone: what was
being read, and what was wrong with it.

## Contents

* `Cause`: the text is malformed; `Cause.context`, `Cause.problem`: its words.
* `BuildCause`: the text is well formed and denotes no plain data.
* `Refusal`: a single scalar or key has no value.
* `Violation`: the data is outside the limits of a front-matter block.
* `Fault`: any of these, and the other reasons for which a block is turned down.
-/

namespace FrontMatter.Yaml

open Text (quote quoteChar DecodeFault)

/-! ## Malformed text -/

/-- Where a tag is written: on a node, or in a directive. -/
inductive TagPlace
  | node
  | directive
  deriving Repr, DecidableEq

/-- The place in words. -/
def TagPlace.word : TagPlace → String
  | .node => "tag"
  | .directive => "directive"

/-- Why a text is malformed. A character `c` is the one that was found, `found` a token. -/
inductive Cause
  | unfinishedKey
  | entryNotAllowed
  | keyNotAllowed
  | valueNotAllowed
  | badStart (c : Char)
  | directiveName (c : Char)
  | versionDigit (c : Char)
  | versionEnd (c : Char)
  | directiveSpace (c : Char)
  | directiveEnd (c : Char)
  | anchorName (c : Char)
  | aliasName (c : Char)
  | verbatimEnd (c : Char)
  | tagEnd (c : Char)
  | handleStart (place : TagPlace) (c : Char)
  | handleEnd (place : TagPlace) (c : Char)
  | noUri (place : TagPlace) (c : Char)
  | uriEscape (place : TagPlace) (c : Char)
  | uriBytes (place : TagPlace) (fault : DecodeFault)
  | escapeDigits (width : Nat) (c : Char)
  | unknownEscape (c : Char)
  | unclosedQuote
  | separatorInQuote
  | zeroIndentation
  | blockHeader (c : Char)
  | blockHeaderEnd (c : Char)
  | deeperLine
  | undefinedHandle (handle : String)
  | noContent (inBlock : Bool) (found : String)
  | blockSequence (found : String)
  | blockMapping (found : String)
  | flowSequence (found : String)
  | flowMapping (found : String)
  | documentStart (found : String)
  | afterDocumentEnd (found : String)
  | secondVersion
  | foreignVersion
  | secondHandle (handle : String)
  | secondDocument
  deriving Repr, DecidableEq

/-- What was being read. -/
def Cause.context : Cause → Option String
  | .unfinishedKey => some "while scanning a simple key"
  | .entryNotAllowed | .keyNotAllowed | .valueNotAllowed => none
  | .badStart _ => some "while scanning for the next token"
  | .directiveName _ | .versionDigit _ | .versionEnd _ | .directiveSpace _ | .directiveEnd _ =>
    some "while scanning a directive"
  | .anchorName _ => some "while scanning an anchor"
  | .aliasName _ => some "while scanning an alias"
  | .verbatimEnd _ => some "while parsing a tag"
  | .tagEnd _ => some "while scanning a tag"
  | .handleStart p _ | .handleEnd p _ | .uriEscape p _ | .uriBytes p _ =>
    some ("while scanning an " ++ p.word)
  | .noUri p _ => some ("while parsing an " ++ p.word)
  | .escapeDigits _ _ | .unknownEscape _ => some "while scanning a double-quoted scalar"
  | .unclosedQuote | .separatorInQuote => some "while scanning a quoted scalar"
  | .zeroIndentation | .blockHeader _ | .blockHeaderEnd _ => some "while scanning a block scalar"
  | .deeperLine => some "more indented follow up line than first in a block scalar"
  | .undefinedHandle _ => some "while parsing a node"
  | .noContent inBlock _ =>
    some ("while parsing a " ++ (if inBlock then "block" else "flow") ++ " node")
  | .blockSequence _ => some "while parsing a block collection"
  | .blockMapping _ => some "while parsing a block mapping"
  | .flowSequence _ => some "while parsing a flow sequence"
  | .flowMapping _ => some "while parsing a flow mapping"
  | .documentStart _ | .afterDocumentEnd _ => none
  | .secondVersion | .foreignVersion | .secondHandle _ => none
  | .secondDocument => some "expected a single document in the stream"

/-- What was wrong. -/
def Cause.problem : Cause → Option String
  | .unfinishedKey => some "could not find expected ':'"
  | .entryNotAllowed => some "sequence entries are not allowed here"
  | .keyNotAllowed => some "mapping keys are not allowed here"
  | .valueNotAllowed => some "mapping values are not allowed here"
  | .badStart c => some ("found character " ++ quoteChar c ++ " that cannot start any token")
  | .directiveName c | .anchorName c | .aliasName c =>
    some ("expected alphabetic or numeric character, but found " ++ quoteChar c)
  | .versionDigit c => some ("expected a digit, but found " ++ quoteChar c)
  | .versionEnd c => some ("expected a digit or '.', but found " ++ quoteChar c)
  | .directiveSpace c | .tagEnd c => some ("expected ' ', but found " ++ quoteChar c)
  | .directiveEnd c | .blockHeaderEnd c =>
    some ("expected a comment or a line break, but found " ++ quoteChar c)
  | .verbatimEnd c => some ("expected '>' but found " ++ quoteChar c)
  | .handleStart _ c => some ("expected '!', but found " ++ quoteChar c)
  | .handleEnd _ c => some ("expected '!' but found " ++ quoteChar c)
  | .noUri _ c => some ("expected URI, but found " ++ quoteChar c)
  | .uriEscape _ c =>
    some ("expected URI escape sequence of 2 hexdecimal numbers, but found " ++ quoteChar c)
  | .uriBytes _ fault => some fault.message
  | .escapeDigits width c =>
    some ("expected escape sequence of " ++ toString width ++ " hexdecimal numbers, but found "
      ++ quoteChar c)
  | .unknownEscape c => some ("found unknown escape character " ++ quoteChar c)
  | .unclosedQuote => some "found unexpected end of stream"
  | .separatorInQuote => some "found unexpected document separator"
  | .zeroIndentation => some "expected indentation indicator in the range 1-9, but found 0"
  | .blockHeader c =>
    some ("expected chomping or indentation indicators, but found " ++ quoteChar c)
  | .deeperLine => none
  | .undefinedHandle h => some ("found undefined tag handle " ++ quote h)
  | .noContent _ found => some ("expected the node content, but found " ++ quote found)
  | .blockSequence found | .blockMapping found =>
    some ("expected <block end>, but found " ++ quote found)
  | .flowSequence found => some ("expected ',' or ']', but got " ++ quote found)
  | .flowMapping found => some ("expected ',' or '\x7d', but got " ++ quote found)
  | .documentStart found =>
    some ("expected '<document start>', but found (" ++ quote found ++ ",)")
  | .afterDocumentEnd found =>
    some ("found non-comment content after document end marker, (" ++ quote found ++ ",)")
  | .secondVersion => some "found duplicate YAML directive"
  | .foreignVersion => some "found incompatible YAML document (version 1.* is required)"
  | .secondHandle h => some ("duplicate tag handle " ++ quote h)
  | .secondDocument => some "but found another document"

/-- Context and problem, as far as there are any. -/
def joinParts (context problem : Option String) : String :=
  String.intercalate ", " (context.toList ++ problem.toList)

/-- A cause in words. -/
def Cause.message (c : Cause) : String :=
  joinParts c.context c.problem

/-! ## Well-formed text that denotes no data -/

/-- The three shapes of a node. -/
inductive NodeKind
  | scalar
  | sequence
  | mapping
  deriving Repr, DecidableEq

/-- A shape in words. -/
def NodeKind.word : NodeKind → String
  | .scalar => "scalar"
  | .sequence => "sequence"
  | .mapping => "mapping"

/-- The two collections that are written as sequences of single-entry mappings. -/
inductive PairList
  | omap
  | pairs
  deriving Repr, DecidableEq

/-- What is being built from such a sequence. -/
def PairList.context : PairList → String
  | .omap => "while constructing an ordered map"
  | .pairs => "while constructing pairs"

/-- Why bytes written in base 64 cannot be read. -/
inductive Base64Fault
  | padding
  | lonelyDigit (count : Nat)
  deriving Repr, DecidableEq

/-- The fault in words. -/
def Base64Fault.message : Base64Fault → String
  | .padding => "Incorrect padding"
  | .lonelyDigit n => "Invalid base64-encoded string: number of data characters (" ++ toString n
    ++ ") cannot be 1 more than a multiple of 4"

/-- Why a well-formed text denotes no plain data. -/
inductive BuildCause
  | unknownTag (tag : String)
  | wrongKind (expected found : NodeKind)
  | unhashableKey
  | mergeSource (found : NodeKind)
  | mergeItem (found : NodeKind)
  | notSequence (what : PairList) (found : NodeKind)
  | notMapping (what : PairList) (found : NodeKind)
  | notSingle (what : PairList) (count : Nat)
  | badTimestamp (text : String)
  | badBase64 (fault : Base64Fault)
  | wideBase64 (first : Char) (start stop : Nat)
  deriving Repr, DecidableEq

/-- What was being built. -/
def BuildCause.context : BuildCause → Option String
  | .unhashableKey | .mergeSource _ | .mergeItem _ => some "while constructing a mapping"
  | .notSequence w _ | .notMapping w _ | .notSingle w _ => some w.context
  | _ => none

/-- A character outside ASCII by its number. -/
def numbered (c : Char) : String :=
  String.ofList ('\\' :: (if c.toNat < 0x100 then 'x' :: Text.hexDigits 2 c.toNat
    else if c.toNat < 0x10000 then 'u' :: Text.hexDigits 4 c.toNat
    else 'U' :: Text.hexDigits 8 c.toNat))

/-- What was wrong. -/
def BuildCause.problem : BuildCause → String
  | .unknownTag tag => "could not determine a constructor for the tag " ++ quote tag
  | .wrongKind expected found => "expected a " ++ expected.word ++ " node, but found " ++ found.word
  | .unhashableKey => "found unhashable key"
  | .mergeSource found =>
    "expected a mapping or list of mappings for merging, but found " ++ found.word
  | .mergeItem found => "expected a mapping for merging, but found " ++ found.word
  | .notSequence _ found => "expected a sequence, but found " ++ found.word
  | .notMapping _ found => "expected a mapping of length 1, but found " ++ found.word
  | .notSingle _ n => "expected a single mapping item, but found " ++ toString n ++ " items"
  | .badTimestamp text => "failed to construct timestamp from \"" ++ text ++ "\""
  | .badBase64 fault => "failed to decode base64 data: " ++ fault.message
  | .wideBase64 c start stop =>
    "failed to convert base64 data into ascii: 'ascii' codec can't encode "
      ++ (if start == stop then "character '" ++ numbered c ++ "' in position " ++ toString start
        else "characters in position " ++ toString start ++ "-" ++ toString stop)
      ++ ": ordinal not in range(128)"

/-- A cause in words. -/
def BuildCause.message (c : BuildCause) : String :=
  joinParts c.context (some c.problem)

/-! ## Scalars and keys without a value -/

/-- Why a single scalar or key has no value. -/
inductive Refusal
  | noCharacter
  | hugeCharacter
  | minorVersion (major minor : Nat)
  | badInt (base : Nat) (text : String)
  | longInt (digits : Nat)
  | longText (message : String)
  | emptyNumber
  | badFloat (text : String)
  | hugeWeight
  | manyExponents (parts : Nat)
  | badBool (text : String)
  | lateDate
  | unhashable (kind : String)
  | repeatedKey
  deriving Repr, DecidableEq

/-- A quoted text is cut to this length inside a refusal of a whole number. -/
def quotedLimit : Nat := 200

/-- A refusal in words. -/
def Refusal.message : Refusal → String
  | .noCharacter => "chr() arg not in range(0x110000)"
  | .hugeCharacter => "Python int too large to convert to C int"
  | .minorVersion major minor => "version minor part can only be 2 or 1, got (" ++ toString major
    ++ ", " ++ toString minor ++ ")"
  | .badInt base text => "invalid literal for int() with base " ++ toString base ++ ": "
    ++ String.ofList ((quote text).toList.take quotedLimit)
  | .longInt n => "Exceeds the limit (4300 digits) for integer string conversion: value has "
    ++ toString n ++ " digits; use sys.set_int_max_str_digits() to increase the limit"
  | .longText message => message
  | .emptyNumber => "string index out of range"
  | .badFloat text => "could not convert string to float: " ++ quote text
  | .hugeWeight => "int too large to convert to float"
  | .manyExponents _ => "too many values to unpack (expected 2)"
  | .badBool text => quote text
  | .lateDate => "date value out of range"
  | .unhashable kind => "unhashable type: " ++ quote kind
  | .repeatedKey => ""

/-! ## Limits -/

/-- How data can be outside the limits. -/
inductive Violation
  | size (length limit : Nat)
  | nodes (limit : Nat)
  | depth (limit : Nat)
  | type (name : String)
  | shared (isAlias : Bool) (name : String)
  deriving Repr, DecidableEq

/-- Digits in groups of three from the right, with commas between them. -/
def grouped (n : Nat) : String :=
  let rec groups : Nat → List Char → List (List Char)
    | 0, ds => [ds]
    | fuel + 1, ds => if ds.length ≤ 3 then [ds] else ds.take 3 :: groups fuel (ds.drop 3)
  let ds := Nat.toDigits 10 n
  String.ofList (([','].intercalate (groups ds.length ds.reverse)).reverse)

/-- A violation in words. -/
def Violation.message : Violation → String
  | .size n limit => "front-matter exceeds maximum size (" ++ grouped n ++ " chars > "
    ++ grouped limit ++ " limit)"
  | .nodes limit => "front-matter exceeds maximum node count (" ++ grouped limit ++ ")"
  | .depth limit => "front-matter exceeds maximum nesting depth (" ++ toString limit ++ ")"
  | .type name => "disallowed value of type '" ++ name ++ "' in front-matter"
  | .shared isAlias name => "YAML " ++ (if isAlias then "alias" else "anchor") ++ " '" ++ name
    ++ "' is not supported in front-matter"

/-! ## Faults -/

/-- Why a block is turned down, with the place if there is one. -/
inductive Fault
  | unreadable (c : Char) (index : Nat)
  | malformed (cause : Cause) (mark : Mark)
  | unbuildable (cause : BuildCause) (mark : Mark)
  | refused (refusal : Refusal)
  | violation (v : Violation) (mark : Option Mark)
  deriving Repr, DecidableEq

/-- The place of a fault, if it has one. -/
def Fault.mark? : Fault → Option Mark
  | .unreadable _ _ => none
  | .malformed _ m => some m
  | .unbuildable _ m => some m
  | .refused _ => none
  | .violation _ m => m

/-- A character that may not stand in a text, in words. -/
def unreadableMessage (c : Char) (index : Nat) : String :=
  "unacceptable character #x" ++ String.ofList (Text.hexDigits 4 c.toNat)
    ++ ": special characters are not allowed\n  in \"<unicode string>\", position "
    ++ toString index

end FrontMatter.Yaml
