import FrontMatter.Yaml.Tag

/-!
# `FrontMatter.Yaml.Node.Basic` — nodes

A node is a scalar, a sequence of nodes, or a mapping from nodes to nodes, with its tag and the
place where it starts.

## Contents

* `Node`: nodes, with `tag`, `start`, `kind` and `withTag`.
* `Node.height`: the number of levels below a node.
* `Node.describe`: a node as messages show it.
-/

namespace FrontMatter.Yaml

/-- A node of a document. -/
inductive Node
  | scalar (tag : Tag) (text : String) (start : Mark)
  | sequence (tag : Tag) (items : List Node) (start : Mark)
  | mapping (tag : Tag) (entries : List (Node × Node)) (start : Mark)

namespace Node

instance : Inhabited Node := ⟨.scalar .null "" Mark.start⟩

/-- The tag of a node. -/
def tag : Node → Tag
  | .scalar t _ _ => t
  | .sequence t _ _ => t
  | .mapping t _ _ => t

/-- The place where a node starts. -/
def start : Node → Mark
  | .scalar _ _ m => m
  | .sequence _ _ m => m
  | .mapping _ _ m => m

/-- The shape of a node. -/
def kind : Node → NodeKind
  | .scalar _ _ _ => .scalar
  | .sequence _ _ _ => .sequence
  | .mapping _ _ _ => .mapping

/-- The same node with another tag. -/
def withTag (t : Tag) : Node → Node
  | .scalar _ s m => .scalar t s m
  | .sequence _ is m => .sequence t is m
  | .mapping _ es m => .mapping t es m

mutual

/-- The number of levels of a node, itself included. -/
def height : Node → Nat
  | .scalar _ _ _ => 1
  | .sequence _ items _ => heightItems items + 1
  | .mapping _ entries _ => heightEntries entries + 1

/-- The greatest height of some nodes. -/
def heightItems : List Node → Nat
  | [] => 0
  | n :: ns => max n.height (heightItems ns)

/-- The greatest height of some keys and values. -/
def heightEntries : List (Node × Node) → Nat
  | [] => 0
  | (k, v) :: es => max (max k.height v.height) (heightEntries es)

end

/-- A node with its parts in a message: what it is called, its tag and its content. -/
def shown (name : String) (tag : Tag) (content : String) : String :=
  name ++ "(tag=" ++ Text.quote tag.uri ++ ", value=" ++ content ++ ")"

mutual

/-- A node as messages show it. -/
def describe : Node → String
  | .scalar t s _ => shown "ScalarNode" t (Text.quote s)
  | .sequence t items _ =>
    shown "SequenceNode" t ("[" ++ String.intercalate ", " (describeItems items) ++ "]")
  | .mapping t entries _ =>
    shown "MappingNode" t ("[" ++ String.intercalate ", " (describeEntries entries) ++ "]")

/-- Several nodes as messages show them. -/
def describeItems : List Node → List String
  | [] => []
  | n :: ns => n.describe :: describeItems ns

/-- Keys and values as messages show them. -/
def describeEntries : List (Node × Node) → List String
  | [] => []
  | (k, v) :: es => ("(" ++ k.describe ++ ", " ++ v.describe ++ ")") :: describeEntries es

end

/-- The content of a node as messages show it: the text of a scalar, the parts of a collection. -/
def content : Node → String
  | .scalar _ s _ => s
  | .sequence _ items _ => "[" ++ String.intercalate ", " (describeItems items) ++ "]"
  | .mapping _ entries _ => "[" ++ String.intercalate ", " (describeEntries entries) ++ "]"

end Node

end FrontMatter.Yaml
