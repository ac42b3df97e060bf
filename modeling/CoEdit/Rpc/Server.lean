import CoEdit.Rpc.Method
import CoEdit.Text.Lines
import CoEdit.Text.Utf8

/-!
# The Server

Answers requests that come as lines of text, one object per line, and passes on what happens to the
users who are connected through it. What a request causes to be passed on follows its reply.

## Main definitions

* `ServerInfo`, `Server`, `Server.startWith`.
* `Server.handle`: the reply to one line.
* `Server.feed`, `Server.finish`: lines of input, and its end.
-/

namespace CoEdit.Rpc

open CoEdit.Time (Instant)

/-- What a server says about itself. -/
structure ServerInfo where
  name : String := "collab-engine"
  version : String := "0.1.0"
  deriving DecidableEq, Repr

/-- A server. `outbound` is the mailbox of all connections made through it, `isWritable` tells
whether its output still takes lines. What is wrong with a line that is no request is said by the
library that reads JSON, in the words `wording`. -/
structure Server where
  info : ServerInfo
  outbound : Nat
  isWritable : Bool
  wording : String → String

/-- What came of some input: the lines written, and how the server ended if it did. -/
structure Output where
  lines : List String
  ended : Option (Except Error Unit)

namespace Server

/-- A server for an engine, which has `wording` to say of lines that are no requests. -/
def startWith (wording : String → String) (info : ServerInfo) (e : Engine) : Server × Engine :=
  let (outbound, gateway) := e.gateway.openLine .unbounded
  (⟨info, outbound, true, wording⟩, { e with gateway })

/-- The words of the command line for all lines that are no requests. -/
def parseDetails : String := "the line is not a request in JSON"

/-- A server that has the same words for all lines that are no requests. -/
def start (info : ServerInfo) (e : Engine) : Server × Engine :=
  startWith (fun _ => parseDetails) info e

/-- Ends a server; connections made through it fail from now on. -/
def stop (s : Server) (e : Engine) : Engine :=
  { e with gateway := e.gateway.hangUp s.outbound }

/-- The number of methods that a server offers. -/
def methodCount (_ : Server) : Nat :=
  Method.all.length

/-- The output takes no more lines. -/
def breakOutput (s : Server) : Server :=
  { s with isWritable := false }

/-! ### Replies -/

/-- What is said of a request with another version. -/
def versionDetails : String := "jsonrpc must be '2.0'"

/-- Carries out a request: the two methods of the server itself, or one of the engine. A refused
call leaves the engine as it was. -/
def dispatch (s : Server) (e : Engine) (now : Clock) (r : Request) :
    Except Failure Json × Engine :=
  if r.method = "ping" then
    (.ok (.object [("name", .text s.info.name), ("version", .text s.info.version)]), e)
  else if r.method = "methods/list" then
    (.ok (.object [("methods", .array (Method.all.map (·.definition.toJson)))]), e)
  else match Method.named? r.method with
    | none => (.error (.methodNotFound r.method), e)
    | some method =>
      match method.call r.params >>= Call.perform e s.outbound now with
      | .ok (result, e) => (.ok result, e)
      | .error error => (.error (.ofError error), e)

/-- The reply to a line without surrounding white space, if it gets one. -/
def handle (s : Server) (e : Engine) (now : Clock) (line : String) : Option Reply × Engine :=
  match Request.parse? line with
  | none => (some (.failure .null (.parseError (s.wording line))), e)
  | some r =>
    let id := r.id.getD .null
    if ¬r.isValid then (some (.failure id (.invalidRequest versionDetails)), e)
    else
      let (outcome, e) := s.dispatch e now r
      if r.isNotification then (none, e)
      else match outcome with
        | .ok value => (some (.result id value), e)
        | .error failure => (some (.failure id failure), e)

/-! ### Lines in, lines out -/

/-- The method under which a delivery is passed on. -/
def eventMethod : String := "session/event"

/-- The line that passes on a delivery. -/
def eventLine (d : Delivery) : String :=
  (Notification.toJson ⟨eventMethod, d.toJson⟩).render

/-- Takes what was delivered to the server's connections, as lines. -/
def takeEvents (s : Server) (e : Engine) : List String × Engine :=
  let (deliveries, gateway) := e.gateway.drain s.outbound
  (deliveries.map eventLine, { e with gateway })

/-- The error of an output that takes no more lines. -/
def outputClosed : Error := .io "pipe closed"

/-- Writes lines. -/
def write (s : Server) (lines : List String) : Output :=
  if lines.isEmpty then ⟨[], none⟩
  else if s.isWritable then ⟨lines, none⟩
  else ⟨[], some (.error outputClosed)⟩

/-- What a line of input causes to be written, the reply first. -/
def respond (s : Server) (e : Engine) (now : Clock) (line : String) : List String × Engine :=
  let line := Text.trim line
  if line.isEmpty then ([], e)
  else
    let (reply, e) := s.handle e now line
    let (events, e) := s.takeEvents e
    ((reply.map (·.toJson.render)).toList ++ events, e)

/-- Reads lines of octets one after the other until the server ends. -/
def readLines (s : Server) (now : Clock) : List (List UInt8) → Engine → Output × Engine
  | [], e => (⟨[], none⟩, e)
  | octets :: rest, e =>
    match Text.Utf8.decode octets with
    | .error fault => (⟨[], some (.error (.io fault.message))⟩, e)
    | .ok line =>
      let (lines, e) := s.respond e now line
      let output := s.write lines
      match output.ended with
      | some _ => (output, e)
      | none =>
        let (more, e) := s.readLines now rest e
        (⟨output.lines ++ more.lines, more.ended⟩, e)

/-- Writes what was delivered before, then reads lines of octets. -/
def feed (s : Server) (e : Engine) (now : Clock) (lines : List (List UInt8)) :
    Output × Engine :=
  let (events, e) := s.takeEvents e
  let output := s.write events
  match output.ended with
  | some _ => (output, e)
  | none =>
    let (more, e) := s.readLines now lines e
    (⟨output.lines ++ more.lines, more.ended⟩, e)

/-- Feeds the last octets of the input, which need not end with a newline. -/
def finish (s : Server) (e : Engine) (now : Clock) (octets : List UInt8) : Output × Engine :=
  let (output, e) := s.feed e now (Text.Lines.splitAll octets)
  (⟨output.lines, some (output.ended.getD (.ok ()))⟩, e)

end Server

end CoEdit.Rpc
