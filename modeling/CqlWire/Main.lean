import CqlWire.CommandLine
import Std.Time.DateTime.Timestamp

/-!
# The program

Reads the clock, runs the command line, and prints what it comes to.
-/

open CqlWire

/-- Prints the frame and the lines about it, or the reason why there is none. -/
def main (texts : List String) : IO UInt32 := do
  let now ← Std.Time.Timestamp.now
  let microseconds := now.toNanosecondsSinceUnixEpoch.val / 1000
  let outcome := CommandLine.run texts (Int64.ofInt microseconds)
  match outcome with
  | .shown frame lines =>
    IO.println frame.toHex
    lines.forM IO.println
  | .failed diagnostic => IO.eprintln diagnostic
  | .unusable =>
    IO.eprintln ("usage: [--consistency NAME] [--protocol-version N] [--value VALUE]... " ++
      "[--keyspace NAME] [--page-size N] [--stream-id N] QUERY")
  return outcome.exitCode
