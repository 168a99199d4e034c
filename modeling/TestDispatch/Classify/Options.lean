import TestDispatch.TestRecord
/-!
# Classification options and the primary tag

A test is scheduled under one primary tag. Marker tags say how a test runs, not what it tests,
so they never count: the noise tags (`parametrize`, `timeout`, …), the internal-skip tags and the
skip and parallel markers. Of the remaining tags, de-duplicated, the ones that are not base
component tags are the candidates; when there are none, the base component tags the test carries
are; when there are none either, its component tags. Of several candidates the tie-break picks
the lexically smallest one, or the first one declared.
-/

namespace TestDispatch.Classify

/-- How one of several candidate tags is picked. -/
inductive TieBreak where
  /-- The smallest in byte order, whatever order the tags are declared in. -/
  | lexical
  /-- The first one declared. -/
  | firstSeen
  deriving DecidableEq, Repr, Inhabited

/-- The tie-break a mode name selects: `first-seen`, or else lexical. -/
def TieBreak.ofName (name : String) : TieBreak :=
  if name = "first-seen" then .firstSeen else .lexical

/-- The marker names and tie-break that classification uses. -/
structure Options where
  skipTag : String := "skip"
  parallelTag : String := "parallel"
  noiseTags : List String :=
    ["parametrize", "usefixtures", "filterwarnings", "timeout", "flaky", "order", "xfail", "skipif"]
  internalSkipTags : List String := ["tags_skip", "wip"]
  baseComponentTags : List String := []
  tieBreak : TieBreak := .lexical
  deriving DecidableEq, Repr, Inhabited

namespace Options

/-- The tags that never serve as primary tag: noise, internal-skip and the non-empty markers. -/
def ignored (o : Options) : List String :=
  o.noiseTags ++ o.internalSkipTags ++ (if o.skipTag = "" then [] else [o.skipTag]) ++
    (if o.parallelTag = "" then [] else [o.parallelTag])

/-- Whether a tag can serve as primary tag. -/
def usable (o : Options) (tag : String) : Bool := tag ≠ "" && !o.ignored.contains tag

/-- One of several candidates, by the tie-break; the empty text when there is none. -/
def pick (o : Options) : List String → String
  | [] => ""
  | c :: cs =>
    match o.tieBreak with
    | .firstSeen => c
    | .lexical => cs.foldl (fun best t => if t < best then t else best) c

/-- The usable tags of a record, each once, in declaration order. -/
def usableTags (o : Options) (r : TestRecord) : List String :=
  (r.tags.filter o.usable).eraseDups

/-- The tag a record is scheduled under, or the empty text when it has no usable tag. -/
def primaryTag (o : Options) (r : TestRecord) : String :=
  let tags := o.usableTags r
  let candidates := tags.filter fun t => !o.baseComponentTags.contains t
  let fallback := tags.filter fun t => o.baseComponentTags.contains t
  if !candidates.isEmpty then o.pick candidates
  else if !fallback.isEmpty then o.pick fallback
  else o.pick (r.componentTags.filter o.usable)

/-- Whether a record is marked to be skipped. -/
def isSkipped (o : Options) (r : TestRecord) : Bool :=
  r.skip || (o.skipTag ≠ "" && r.hasTag o.skipTag)

/-- Whether a record may run beside other tests. -/
def isParallel (o : Options) (r : TestRecord) : Bool :=
  r.parallel || (o.parallelTag ≠ "" && r.hasTag o.parallelTag)

end Options

end TestDispatch.Classify
