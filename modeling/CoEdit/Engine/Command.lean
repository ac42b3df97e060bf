import CoEdit.Engine.Attendance
import CoEdit.Engine.Authoring
import CoEdit.Engine.Sweep
import CoEdit.Engine.Views

/-!
# Commands

Everything that changes an engine, as data, with one function that carries a command out. A refused
command leaves the engine as it was. A history is a list of commands with what the
clock shows while they are carried out.

## Main definitions

* `Command`, `Answer`, `Engine.execute`, `Engine.step`.
* `Engine.run`: the answers to a history, and the engine after it.
-/

namespace CoEdit

open CoEdit.Time (Instant)

/-- What an engine can be asked to do. -/
inductive Command
  | create (hostId hostName assignmentId : String) (options : SessionOptions)
  | join (sessionId userId userName : String) (role : Role)
  | leave (userId : String)
  | change (sessionId authorId : String) (operation : Operation)
  | cursor (userId : String) (position : Nat)
  | assist (sessionId userId : String) (message : Option String)
  | connect (userId : String) (line : Line)
  | disconnect (userId : String)
  | sweep (asOf : Instant)
  deriving Repr

/-- What an engine answers. -/
inductive Answer
  | session (snapshot : Snapshot)
  | flag (value : Bool)
  | change (change : Change)
  | done
  | mailbox (number : Nat)
  | report (report : SweepReport)
  deriving DecidableEq, Repr

namespace Engine

/-- Carries out a command. -/
def execute (e : Engine) (now : Clock) : Command → Except Error (Answer × Engine)
  | .create hostId hostName assignmentId options =>
    (e.create hostId hostName assignmentId options now).map fun (s, e) => (.session s, e)
  | .join sessionId userId userName role =>
    (e.join sessionId userId userName role now).map fun (s, e) => (.session s, e)
  | .leave userId => (e.leave userId now).map fun (left, e) => (.flag left, e)
  | .change sessionId authorId operation =>
    (e.change sessionId authorId operation now).map fun (c, e) => (.change c, e)
  | .cursor userId position => (e.cursor userId position now).map fun (_, e) => (.done, e)
  | .assist sessionId userId message =>
    (e.assist sessionId userId message now).map fun (_, e) => (.done, e)
  | .connect userId line =>
    let (mailbox, gateway) := e.gateway.connect userId line
    .ok (.mailbox mailbox, { e with gateway })
  | .disconnect userId =>
    let (removed, gateway) := e.gateway.disconnect userId
    .ok (.flag removed, { e with gateway })
  | .sweep asOf =>
    let (report, e) := e.sweep asOf now
    .ok (.report report, e)

/-- Carries out a command, or leaves the engine as it was. -/
def step (e : Engine) (now : Clock) (command : Command) : Except Error Answer × Engine :=
  match e.execute now command with
  | .ok (answer, e) => (.ok answer, e)
  | .error error => (.error error, e)

/-- Carries out commands one after the other, each by its clock. -/
def run (e : Engine) : List (Clock × Command) → List (Except Error Answer) × Engine
  | [] => ([], e)
  | (now, command) :: rest =>
    let (answer, e) := e.step now command
    let (answers, e) := e.run rest
    (answer :: answers, e)

end Engine

end CoEdit
