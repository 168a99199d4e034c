import TestDispatch.Text.Quoted
/-!
# The issue-tracker client

The tracker keeps execution tickets: the tests of a ticket are read with
`GET <base>/api/v1/executions/<ticket>/tests`, and a test's outcome is reported with
`POST <base>/api/v1/executions/<ticket>/results`. The ticket is escaped as one path segment.

The client makes one attempt per call, over a network that reaches nothing: every call fails
with the words of the refused connection, wrapped by the client's retry loop
(`GET <url> giving up after 1 attempt(s): Get "<url>": dial tcp <host>: connect: ...`) and by
the call (`resolve execution ticket <ticket>: ...`, `update status <ticket>/<test>: ...`).
-/

namespace TestDispatch.Tracker

/-- Whether an octet stands for itself in an escaped path segment: letters, digits,
`-_.~` and `$&+:=@`. -/
def keptInSegment (b : UInt8) : Bool :=
  (0x61 ≤ b && b ≤ 0x7A) || (0x41 ≤ b && b ≤ 0x5A) || (0x30 ≤ b && b ≤ 0x39) ||
    [0x2D, 0x5F, 0x2E, 0x7E, 0x24, 0x26, 0x2B, 0x3A, 0x3D, 0x40].contains b

/-- The upper-case hexadecimal digit of a number below 16. -/
def upperHex (n : Nat) : Char := if n < 10 then Char.ofNat (48 + n) else Char.ofNat (55 + n)

/-- A text escaped as one path segment: every other octet as `%XX`. -/
def escapeSegment (s : String) : String :=
  String.ofList <| s.toUTF8.toList.flatMap fun b =>
    if keptInSegment b then [Char.ofNat b.toNat]
    else ['%', upperHex (b.toNat / 16), upperHex (b.toNat % 16)]

/-- A tracker client. -/
structure Client where
  /-- The base URL, without trailing slashes. -/
  baseUrl : String
  /-- The host the base URL names. -/
  host : String
  deriving Repr, Inhabited

/-- A client of the tracker at `baseUrl`, on `host`. -/
def Client.create (baseUrl host : String) : Client :=
  { baseUrl := String.ofList (baseUrl.toList.reverse.dropWhile (· = '/')).reverse, host }

namespace Client

/-- The words of a request that could not connect, after the one attempt. -/
def refused (c : Client) (method label url : String) : String :=
  let dial := "dial tcp " ++ c.host ++ ": connect: network is unreachable"
  method ++ " " ++ url ++ " giving up after 1 attempt(s): " ++ label ++ " " ++ Quoted.quote url ++ ": " ++ dial

/-- The tests of an execution ticket. -/
def resolve (c : Client) (ticket : String) : Except String (Option (List String)) :=
  let url := c.baseUrl ++ "/api/v1/executions/" ++ escapeSegment ticket ++ "/tests"
  .error ("resolve execution ticket " ++ ticket ++ ": " ++ c.refused "GET" "Get" url)

/-- Reports the outcome of a test of a ticket. -/
def updateStatus (c : Client) (ticket testId : String) : Except String Unit :=
  let url := c.baseUrl ++ "/api/v1/executions/" ++ escapeSegment ticket ++ "/results"
  .error ("update status " ++ ticket ++ "/" ++ testId ++ ": " ++ c.refused "POST" "Post" url)

end Client

end TestDispatch.Tracker
