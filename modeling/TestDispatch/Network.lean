import TestDispatch.Text.Decimal
import TestDispatch.Text.Quoted
/-!
# Addresses on a network that reaches nothing

The program runs where no connection can be made, not even to the loopback host, while
listening still works. So every dial fails with
`dial tcp <host>:<port>: connect: network is unreachable`, and a listen fails only when its
address is malformed.

* `splitHostPort` cuts `host:port` (the host may be bracketed), with the errors
  `missing port in address`, `too many colons in address`, `missing ']' in address` and
  `unexpected '[' in address` / `unexpected ']' in address`.
* `listenError` is the failure of listening on an address: a malformed address, a port that is
  not a number (`lookup tcp/<port>: unknown port`) or one past 65535 (`invalid port`).
* `dialFailure` is the failure of dialing a host and port; the name `localhost` stands for
  `127.0.0.1`.
* `HttpTarget.ofUrl` reads the scheme and the host of a URL, and `HttpTarget.failure` is the
  failure of a request to it.
-/

namespace TestDispatch.Network

/-- Why an address could not be cut into host and port. -/
def addressError (addr why : String) : String := "address " ++ addr ++ ": " ++ why

/-- The host and the port of an address `host:port` or `[host]:port`. -/
def splitHostPort (addr : String) : Except String (String × String) :=
  let cs := addr.toList
  match cs.reverse.findIdx? (· = ':') with
  | none => .error (addressError addr "missing port in address")
  | some r =>
    let i := cs.length - 1 - r
    let port := String.ofList (cs.drop (i + 1))
    let checkBrackets (j k : Nat) (host : String) : Except String (String × String) :=
      if (cs.drop j).contains '[' then .error (addressError addr "unexpected '[' in address")
      else if (cs.drop k).contains ']' then .error (addressError addr "unexpected ']' in address")
      else .ok (host, port)
    match cs with
    | '[' :: _ =>
      match cs.findIdx? (· = ']') with
      | none => .error (addressError addr "missing ']' in address")
      | some e =>
        if e + 1 = cs.length then .error (addressError addr "missing port in address")
        else if e + 1 = i then checkBrackets 1 (e + 1) (String.ofList ((cs.take e).drop 1))
        else if cs[e + 1]? = some ':' then .error (addressError addr "too many colons in address")
        else .error (addressError addr "missing port in address")
    | _ =>
      let host := cs.take i
      if host.contains ':' then .error (addressError addr "too many colons in address")
      else checkBrackets 0 0 (String.ofList host)

/-- Why a port of a listen address is no port. -/
def portError (port : String) : Option String :=
  let digits := match port.toList with
    | '+' :: ds | '-' :: ds => ds
    | ds => ds
  if port = "" then none
  else if !digits.all Char.isDigit || digits.isEmpty then
    some ("lookup tcp/" ++ port ++ ": unknown port")
  else
    let n := Text.decimalValue digits
    if port.startsWith "-" && n ≠ 0 then some (addressError port "invalid port")
    else if n > 65535 then some (addressError port "invalid port")
    else none

/-- The failure of listening for TCP on an address, if it fails. -/
def listenError (addr : String) : Option String :=
  match splitHostPort addr with
  | .error e => some ("listen tcp: " ++ e)
  | .ok (_, port) => (portError port).map ("listen tcp: " ++ ·)

/-- The address a host name is dialed at. -/
def resolve (host : String) : String := if host = "localhost" then "127.0.0.1" else host

/-- A host and port joined, the host bracketed when it holds a colon. -/
def joinHostPort (host port : String) : String :=
  if host.contains ':' then "[" ++ host ++ "]:" ++ port else host ++ ":" ++ port

/-- The failure of dialing a host and port. -/
def dialFailure (host port : String) : String :=
  "dial tcp " ++ joinHostPort (resolve host) port ++ ": connect: network is unreachable"

/-- The failure of dialing an address `host:port`, or a bare host at `defaultPort`. -/
def dialAddress (addr defaultPort : String) : String :=
  match splitHostPort addr with
  | .ok (host, port) => dialFailure host port
  | .error _ => dialFailure addr defaultPort

/-- What an HTTP request is sent to: the scheme and the host with its port, if any. -/
structure HttpTarget where
  scheme : String
  host : String
  port : Option String
  deriving DecidableEq, Repr, Inhabited

/-- The target of a URL: the scheme before `://` (none without it) and the host and port
before the path. -/
def HttpTarget.ofUrl (url : String) : HttpTarget :=
  match url.splitOn "://" with
  | scheme :: rest@(_ :: _) =>
    let after := "://".intercalate rest
    let authority := (after.toList.takeWhile fun c => c ≠ '/' && c ≠ '?' && c ≠ '#')
    let hostPart := String.ofList (authority.reverse.takeWhile (· ≠ '@')).reverse
    match splitHostPort hostPart with
    | .ok (host, port) => { scheme := scheme.toLower, host, port := some port }
    | .error _ => { scheme := scheme.toLower, host := hostPart, port := none }
  | _ => { scheme := "", host := "", port := none }

/-- The failure of a request with `method` (as `Get`) to `url`. -/
def HttpTarget.failure (method url : String) : String :=
  let t := HttpTarget.ofUrl url
  let why :=
    if t.scheme ≠ "http" && t.scheme ≠ "https" then "unsupported protocol scheme " ++ Quoted.quote t.scheme
    else if t.host = "" then "http: no Host in request URL"
    else
      let port := match t.port with
        | some p => if p = "" then (if t.scheme = "https" then "443" else "80") else p
        | none => if t.scheme = "https" then "443" else "80"
      dialFailure t.host port
  method ++ " " ++ Quoted.quote url ++ ": " ++ why

end TestDispatch.Network
