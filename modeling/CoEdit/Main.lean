import CoEdit.Rpc.Server
import Std.Time.DateTime.Timestamp

/-!
# The Command Line

Serves one engine over standard input and output. The settings come from the environment. Sweeps
that have come due are made when input arrives.

## Main definitions

* `main`: serves until the input ends or cannot be read; an error gives the exit code one. With
  settings that no engine can be made from nothing is served.
-/

namespace CoEdit.CommandLine

open CoEdit.Time (Instant)
open CoEdit.Rpc (Server)

/-- The time of day, off the system's clock. -/
def now : IO Instant := do
  let t ← Std.Time.Timestamp.now
  return Instant.ofNanos t.toNanosecondsSinceUnixEpoch.val

/-- The settings that the environment gives. -/
def settings : IO Config := do
  let found ← Config.names.mapM fun name => return (name, ← IO.getEnv name)
  return Config.ofLookup fun name => (List.lookup name found).join

/-- Writes the lines of an output, and tells how the server ended if it did. -/
def emit (out : IO.FS.Stream) (output : Rpc.Output) : IO (Option UInt32) := do
  for line in output.lines do
    out.putStrLn line
  out.flush
  match output.ended with
  | none => return none
  | some (.ok ()) => return some 0
  | some (.error error) =>
    IO.eprintln error.message
    return some 1

/-- Serves the input until it ends. `pending` holds the octets of a line that is not complete. -/
partial def serve (input out : IO.FS.Stream) (s : Server) (e : Engine) (timer : SweepTimer)
    (pending : List UInt8) : IO UInt32 := do
  let chunk ← input.read 65536
  let time ← now
  let (timer, e) := e.tick timer (← IO.monoMsNow) time
  if chunk.isEmpty then
    let (output, _) := s.finish e time pending
    return (← emit out output).getD 0
  let (lines, pending) := Text.Lines.split (pending ++ chunk.toList)
  let (output, e) := s.feed e time lines
  match ← emit out output with
  | some code => return code
  | none => serve input out s e timer pending

end CoEdit.CommandLine

open CoEdit CoEdit.CommandLine in
/-- Serves an engine over standard input and output. -/
def main : IO UInt32 := do
  let config ← settings
  let some e := Engine.build? (· ≤ channelMax) config
    | IO.eprintln "the capacity for taps is too large"
      return 101
  let (s, e) := Rpc.Server.start {} e
  serve (← IO.getStdin) (← IO.getStdout) s e (.start config (← IO.monoMsNow)) []
