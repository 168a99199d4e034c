/-!
# The work directory

Test logs live in a tree of directories under a work directory. The tree is kept as the
directories that exist and the regular files with their contents, each by its path.

Paths are joined the way the system joins them: the parts that are not empty are put together
with `/` and the path is cleaned, so that empty and `.` parts go and a `..` part takes back the
part before it. A path that starts with `/` starts at the root, where a `..` is dropped; the path
joined from parts starts at the root when the first part that is not empty does. A cleaned path
is written `/` when only the root is left and `.` when nothing is; parts that are all empty join
into the empty path.

Making a directory with its parents fails at the first part that is a regular file
(`mkdir work: not a directory`) or whose name is longer than 255 octets
(`mkdir work/000/aaa...: file name too long`). Creating a file fails when its name is longer
than 255 octets; a file that exists is emptied.
-/

namespace TestDispatch.Executor

/-- The parts of a path, cleaned: no empty or `.` parts, and a `..` takes back the part before
it, if there is one that is not itself `..`; with nothing before it, a `..` is dropped at the
root (`rooted`) and kept elsewhere. -/
def cleanParts (rooted : Bool) (parts : List String) : List String :=
  (parts.foldl (fun acc p =>
    if p = "" || p = "." then acc
    else if p = ".." then
      match acc with
      | q :: rest => if q = ".." then p :: acc else rest
      | [] => if rooted then [] else [p]
    else p :: acc) []).reverse

/-- The parts of a path: the texts between its slashes. -/
def pathParts (path : String) : List String := (path.toList.splitOn '/').map String.ofList

/-- Whether a path starts at the root. -/
def rootedPath (path : String) : Bool := path.toList.head? == some '/'

/-- A cleaned path: whether it starts at the root, and its parts. -/
structure Path where
  rooted : Bool
  parts : List String
  deriving DecidableEq, Repr, Inhabited

/-- The path that parts put together with `/` name, cleaned: it starts at the root when the first
part that is not empty does. -/
def Path.join (parts : List String) : Path :=
  let rooted := ((parts.find? (· ≠ "")).map rootedPath).getD false
  ⟨rooted, cleanParts rooted (parts.flatMap pathParts)⟩

/-- A path written out: its parts joined with `/`, after a `/` when it starts at the root; `/`
for the root alone and `.` for no part. -/
def Path.render : Path → String
  | ⟨true, ps⟩ => "/" ++ "/".intercalate ps
  | ⟨false, []⟩ => "."
  | ⟨false, ps⟩ => "/".intercalate ps

/-- A path cleaned. -/
def cleanPath (path : String) : String := (Path.join [path]).render

/-- Paths joined and cleaned; the empty path when every part is empty. -/
def joinPath (parts : List String) : String :=
  if parts.all (· = "") then "" else (Path.join parts).render

/-- The longest name a directory entry may have, in octets. -/
def nameMax : Nat := 255

/-- A work directory tree. -/
structure Workspace where
  dirs : List String := []
  files : List (String × List UInt8) := []
  deriving DecidableEq, Repr, Inhabited

namespace Workspace

/-- Whether a path is a regular file. -/
def isFile (ws : Workspace) (path : String) : Bool := ws.files.any (·.1 = path)

/-- The contents of a regular file. -/
def read? (ws : Workspace) (path : String) : Option (List UInt8) :=
  (ws.files.find? (·.1 = path)).map Prod.snd

/-- Makes a directory and its parents; the root and the parents a `..` names are there already. -/
def mkdirAll (ws : Workspace) (path : String) : Except String Workspace :=
  let clean := Path.join [path]
  let prefixes := (List.range clean.parts.length).map fun k => clean.parts.take (k + 1)
  prefixes.foldlM (fun ws pre =>
    let p := (Path.mk clean.rooted pre).render
    if ws.dirs.contains p || pre.getLast? = some ".." then .ok ws
    else if ws.isFile p then .error s!"mkdir {p}: not a directory"
    else if ((pre.getLast?.getD "").utf8ByteSize > nameMax) then .error s!"mkdir {p}: file name too long"
    else .ok { ws with dirs := ws.dirs ++ [p] }) ws

/-- Creates an empty regular file, or empties one. -/
def create (ws : Workspace) (path : String) : Except String Workspace :=
  let name := ((pathParts path).getLast?).getD ""
  if name.utf8ByteSize > nameMax then .error s!"open {path}: file name too long"
  else if ws.dirs.contains path then .error s!"open {path}: is a directory"
  else .ok { ws with files := (ws.files.filter (·.1 ≠ path)) ++ [(path, [])] }

/-- Appends octets to a regular file. -/
def append (ws : Workspace) (path : String) (bs : List UInt8) : Workspace :=
  { ws with files := ws.files.map fun (p, c) => if p = path then (p, c ++ bs) else (p, c) }

/-- Makes a path a regular file (as something placed there before any run). -/
def putFile (ws : Workspace) (path : String) (bs : List UInt8) : Workspace :=
  { ws with files := (ws.files.filter (·.1 ≠ path)) ++ [(path, bs)] }

end Workspace

end TestDispatch.Executor
