import FrontMatter.Run.Log
import FrontMatter.Run.Source
import FrontMatter.Text.Lines
import FrontMatter.Text.Utf8
import FrontMatter.Tree.Basic

/-!
# `FrontMatter.Tree.Discovery` — the documents of a docs tree

Tenets stand in `tenets`, bindings in `bindings/core` and in the directories of
`bindings/categories`. A document is an entry whose name ends in `.md`, the index apart. Bindings
that stand in `bindings` itself are misplaced: they are no documents, and a warning names them.
Below a root with an anchor nothing is found, as such a path leads nowhere.

## Contents

* `isDocumentName`, `documentsIn`: the documents in one directory.
* `documentPaths`, `discover`: all documents, from the root on and in order.
* `misplaced`, `misplacedLog`: the misplaced bindings and the warning.
* `readSource`, `readSources`: the texts of documents.
-/

namespace FrontMatter

open Text (Path)

/-! ## Finding -/

/-- The name of the index, which is no document. -/
def indexName : String := "00-index.md"

/-- A name that a document has. -/
def isDocumentName (name : String) : Bool :=
  ['.', 'm', 'd'].isSuffixOf name.toList && name != indexName

/-- The documents in the directory that is found below the root by the path `dir`. -/
def documentsIn (tree : Tree) (root dir : Path) : List Path :=
  ((tree.entriesAt (root.join dir)).keys.filter isDocumentName).map dir.child

/-- The directories of the categories, from the root on. -/
def categoryPaths (tree : Tree) (root : Path) : List Path :=
  let dir : Path := { parts := ["bindings", "categories"] }
  let directories := (tree.entriesAt (root.join dir)).filter fun e => e.2.isDirectory
  (Table.keys directories).map dir.child

/-- All documents, by their paths from the root on. -/
def documentPaths (tree : Tree) (root : Path) : List Path :=
  documentsIn tree root { parts := ["tenets"] }
    ++ documentsIn tree root { parts := ["bindings", "core"] }
    ++ (categoryPaths tree root).flatMap (documentsIn tree root)

/-- A document that has been found. -/
structure Found where
  path : Path
  kind : DocumentKind
  deriving Repr, DecidableEq

/-- A document at a path from the root on. Only that path tells the kind, not the root. -/
def Found.below (root relative : Path) : Found :=
  ⟨root.join relative, (DocumentKind.ofPath? relative).getD .binding⟩

/-- All documents, in the order of their paths. -/
def discover (tree : Tree) (root : Path) : List Found :=
  ((documentPaths tree root).map (Found.below root)).mergeSort fun a b =>
    !(b.path.toString < a.path.toString)

/-! ## Misplaced bindings -/

/-- The misplaced bindings, by their names. -/
def misplaced (tree : Tree) (root : Path) : List String :=
  ((tree.entriesAt (root.child "bindings")).keys.filter isDocumentName).mergeSort
    fun a b => !(b < a)

/-- The warning about misplaced bindings. -/
def misplacedMessage (root : Path) (names : List String) : String :=
  let dir := root.child "bindings"
  toString names.length ++ " binding file(s) directly in " ++ dir.toString
    ++ "; move them to bindings/core/ or bindings/categories/<category>/: "
    ++ String.intercalate ", " (names.map fun n => (dir.child n).toString)

/-- The record about misplaced bindings, if there are any. -/
def misplacedLog (tree : Tree) (root : Path) : Log :=
  match misplaced tree root with
  | [] => []
  | names => [⟨.warning, "tenetlint.discovery", misplacedMessage root names⟩]

/-! ## Reading -/

/-- Why a document cannot be read: it is a directory. -/
inductive ReadFault
  | isDirectory (path : String)
  deriving Repr, DecidableEq

/-- The fault in words. -/
def ReadFault.message : ReadFault → String
  | .isDirectory path => "[Errno 21] Is a directory: " ++ Text.quote path

/-- The text of a file: bytes that are no characters are replaced, and lines end in line feeds. -/
def fileText (bytes : List UInt8) : String :=
  Text.unifyBreaks (Text.decodeLossy bytes)

/-- A document with its text. -/
def readSource (tree : Tree) (f : Found) : Except ReadFault Source :=
  match tree.fileAt? f.path with
  | some bytes => .ok (Source.ofMarkdown f.path.toString f.kind.word (fileText bytes))
  | none => .error (.isDirectory f.path.toString)

/-- Documents with their texts. -/
def readSources (tree : Tree) (found : List Found) : Except ReadFault (List Source) :=
  found.mapM (readSource tree)

end FrontMatter
