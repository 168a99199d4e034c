import TestDispatch.Target
import TestDispatch.Json.Decode
/-!
# Request bodies of the lock server

The lock server decodes the first JSON value of a request body into a request record, and
ignores what follows the value; the rules of decoding are those of `Json.Decode`. A mismatch is
reported against the request type, as `json: cannot unmarshal number into Go struct field
CreateRequest.record.id of type string`.
-/

namespace TestDispatch.LockServer

open TestDispatch.Json

/-- The body of a create request. -/
structure CreateRequest where
  record : TargetRecord := { id := "" }
  deriving DecidableEq, Repr, Inhabited

/-- The body of a search request. -/
structure SearchRequest where
  query : TargetQuery := {}
  /-- The fields to answer, when given. -/
  projection : Option (List String) := none
  deriving DecidableEq, Repr, Inhabited

/-- The body of an update request. -/
structure UpdateRequest where
  filter : TargetQuery := {}
  patch : TargetPatch := {}
  deriving DecidableEq, Repr, Inhabited

/-- The site of a whole request of the named type. -/
def requestSite (root : String) : Site := { root, qualified := "model." ++ root }

/-- The fields of a target record. -/
def recordFields (s : Site) : List (String × (Value → TargetRecord → Decoding TargetRecord)) :=
  [("id", fun v r => return { r with id := ← decodeText (s.child "id") v r.id }),
   ("occupied", fun v r => return { r with occupied := ← decodeFlag (s.child "occupied") v r.occupied }),
   ("holder", fun v r => return { r with holder := ← decodeText (s.child "holder") v r.holder }),
   ("updated_at", fun v r => return { r with updatedAt := ← decodeTime v r.updatedAt })]

/-- The fields of a query. -/
def queryFields (s : Site) : List (String × (Value → TargetQuery → Decoding TargetQuery)) :=
  [("id", fun v q => return { q with id := ← decodeOptText (s.child "id") v q.id }),
   ("occupied", fun v q => return { q with occupied := ← decodeOptFlag (s.child "occupied") v q.occupied }),
   ("holder", fun v q => return { q with holder := ← decodeOptText (s.child "holder") v q.holder })]

/-- The fields of a patch. -/
def patchFields (s : Site) : List (String × (Value → TargetPatch → Decoding TargetPatch)) :=
  [("occupied", fun v p => return { p with occupied := ← decodeOptFlag (s.child "occupied") v p.occupied }),
   ("holder", fun v p => return { p with holder := ← decodeOptText (s.child "holder") v p.holder })]

/-- Reads a create request. -/
def CreateRequest.read (body : String) : Except String CreateRequest :=
  decodeFirst (requestSite "CreateRequest") {} (fun s =>
    [("record", fun v r => return { r with record := (← decodeRecord (s.child "record")
        "model.TargetRecord" (recordFields (s.child "record")) v r.record) })]) body

/-- Reads a search request. -/
def SearchRequest.read (body : String) : Except String SearchRequest :=
  decodeFirst (requestSite "SearchRequest") {} (fun s =>
    [("query", fun v r => return { r with query := (← decodeRecord (s.child "query")
        "model.TargetQuery" (queryFields (s.child "query")) v r.query) }),
     ("projection", fun v r => return { r with projection := (← decodeTexts (s.child "projection")
        "model.Projection" v r.projection) })]) body

/-- Reads an update request. -/
def UpdateRequest.read (body : String) : Except String UpdateRequest :=
  decodeFirst (requestSite "UpdateRequest") {} (fun s =>
    [("filter", fun v r => return { r with filter := (← decodeRecord (s.child "filter")
        "model.TargetQuery" (queryFields (s.child "filter")) v r.filter) }),
     ("patch", fun v r => return { r with patch := (← decodeRecord (s.child "patch")
        "model.TargetPatch" (patchFields (s.child "patch")) v r.patch) })]) body

end TestDispatch.LockServer
