import TestDispatch.Yaml.Resolve
import TestDispatch.Yaml.Token
/-!
# Documents

A YAML document is a tree of nodes: scalars, sequences and mappings, each with its tag and the
line it starts on. An alias names an anchored node by its number in the document's table of
anchored nodes; the table is filled as the document is read, so an alias inside the node it
names is representable, and found when the document is decoded.

Reading or decoding a document fails with a `YamlError`: a syntax error, a fatal error that
stops decoding at once, or the list of every value that did not fit its target.
-/

namespace TestDispatch.Yaml

/-- A node of a document. -/
inductive Node where
  /-- A scalar: its tag, text and style, and whether the tag was written. -/
  | scalar (line : Nat) (tag : String) (value : String) (style : ScalarStyle) (tagged : Bool)
  | sequence (line : Nat) (tag : String) (items : List Node)
  | mapping (line : Nat) (tag : String) (entries : List (Node × Node))
  /-- An alias of the anchored node with the given number. -/
  | alias (line : Nat) (name : String) (target : Nat)
  deriving Repr, Inhabited

namespace Node

/-- The line a node starts on, counted from one. -/
def line : Node → Nat
  | .scalar l .. | .sequence l .. | .mapping l .. | .alias l .. => l

/-- A node's tag; an alias has none. -/
def tag : Node → String
  | .scalar _ t .. | .sequence _ t _ | .mapping _ t _ => t
  | .alias .. => ""

/-- A node's text: a scalar's value or an alias's name; empty for collections. -/
def value : Node → String
  | .scalar _ _ v .. => v
  | .alias _ n _ => n
  | _ => ""

/-- The kinds of node, as compared when looking for repeated keys. -/
def kindIndex : Node → Nat
  | .scalar .. => 0
  | .sequence .. => 1
  | .mapping .. => 2
  | .alias .. => 3

/-- The empty plain scalar, null, that stands where a node is left out. -/
def empty (line : Nat) : Node := .scalar line "!!null" "" .plain false

/-- A scalar with the tag it gets: a written tag in short form (the bare `!` counts as none),
else `!!str` for a quoted or block scalar, `!!merge` for a plain `<<`, else the type its text
resolves to. -/
def ofScalar (line : Nat) (tag value : String) (style : ScalarStyle) : Node :=
  if tag ≠ "" && tag ≠ "!" then .scalar line (shortTag tag) value style true
  else if style ≠ .plain then .scalar line "!!str" value style false
  else if value = "<<" then .scalar line "!!merge" value style false
  else .scalar line (plainTag value) value style false

/-- The tag of a collection: a written tag in short form, else the default. -/
def collectionTag (tag default : String) : String :=
  if tag ≠ "" && tag ≠ "!" then shortTag tag else default

end Node

/-- A document: its root and the table of anchored nodes. -/
structure Document where
  root : Node
  anchored : Array Node
  deriving Repr, Inhabited

/-- Why a text could not be read into a value. -/
inductive YamlError where
  | malformed (e : SyntaxError)
  /-- An error that stops decoding at once. -/
  | fatal (message : String)
  /-- Every value that did not fit where it was to go. -/
  | unmarshal (problems : List String)
  deriving Repr, Inhabited

/-- The words of an error. -/
def YamlError.message : YamlError → String
  | .malformed e => "yaml: " ++ e.message
  | .fatal m => "yaml: " ++ m
  | .unmarshal ps => "yaml: unmarshal errors:\n  " ++ "\n  ".intercalate ps

/-- Whether an error lists values that did not fit. -/
def YamlError.isUnmarshal : YamlError → Bool
  | .unmarshal _ => true
  | _ => false

end TestDispatch.Yaml
