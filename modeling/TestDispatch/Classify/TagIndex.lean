import TestDispatch.Classify.Options
import TestDispatch.Text.ByteOrder
/-!
# The reverse tag index

The index files each classified test under its primary tag, as parallel or sequential. An id is
filed once: a later record of the same id changes nothing. A tag's group lists its parallel and
its sequential ids; the groups, the tags and the size are all read off the one list of filings.

`Options.classify` files every record that is neither skipped nor without usable tag, and
collects the skipped and the dropped ids.
-/

namespace TestDispatch.Classify

/-- Where an id is filed. -/
structure Membership where
  tag : String
  parallel : Bool
  deriving DecidableEq, Repr, Inhabited

/-- The filings of the index, in the order they were made, one per id. -/
structure TagIndex where
  filings : List (String × Membership) := []
  deriving Repr, Inhabited

namespace TagIndex

/-- Where an id is filed, if it is. -/
def lookup? (x : TagIndex) (id : String) : Option Membership := x.filings.lookup id

/-- The index after filing `id` under `tag`; an id already filed stays where it is. -/
def add (x : TagIndex) (id tag : String) (parallel : Bool) : TagIndex :=
  if (x.lookup? id).isSome then x else ⟨x.filings ++ [(id, ⟨tag, parallel⟩)]⟩

/-- Every tag with a filing, in byte order. -/
def tags (x : TagIndex) : List String := sortedDistinct (x.filings.map (·.2.tag))

/-- The ids filed under a tag with the given mode, in byte order. -/
def members (x : TagIndex) (tag : String) (parallel : Bool) : List String :=
  sortTexts ((x.filings.filter fun f => f.2.tag = tag && f.2.parallel = parallel).map (·.1))

/-- The number of filed ids. -/
def size (x : TagIndex) : Nat := x.filings.length

end TagIndex

/-- What classifying a universe gives: the index, and the skipped and the dropped ids, each
once, in the order met. -/
structure Classification where
  index : TagIndex := {}
  skipped : List String := []
  dropped : List String := []
  deriving Repr, Inhabited

/-- Whether an id is among the skipped ones. -/
def Classification.isSkipped (c : Classification) (id : String) : Bool := c.skipped.contains id

/-- Adds an id to a list of distinct ids. -/
def addDistinct (xs : List String) (id : String) : List String :=
  if xs.contains id then xs else xs ++ [id]

/-- Classifies one more record. -/
def Options.classifyOne (o : Options) (c : Classification) (r : TestRecord) : Classification :=
  if o.isSkipped r then { c with skipped := addDistinct c.skipped r.id }
  else
    let tag := o.primaryTag r
    if tag = "" then { c with dropped := addDistinct c.dropped r.id }
    else { c with index := c.index.add r.id tag (o.isParallel r) }

/-- Classifies every record in order. -/
def Options.classify (o : Options) (records : List TestRecord) : Classification :=
  records.foldl o.classifyOne {}

end TestDispatch.Classify
