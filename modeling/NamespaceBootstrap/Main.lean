import NamespaceBootstrap.Host.Program

/-!
The `capsule` command. It reads its arguments and the two variables that start and shape the
bootstrap, runs the program against the host the library describes, prints what the program
writes to its two streams, and exits with the program's status.

The running process is described as process `runningProcess` of that host; no descriptor is open
to it but the three standard streams, which carry nothing in.
-/

namespace NamespaceBootstrap.Command

/-- The process id the command is described as running under. -/
def runningProcess : Int := 2

def environmentNames : List String := [({} : Settings).envVar, Settings.closeVar]

/-- The standard streams: input is empty, output and error are written by the outer layer. -/
def standardStreams (fd : Int) : Option Wire.Stream :=
  if fd = 0 then some (Wire.Stream.ofInput [])
  else if fd = 1 || fd = 2 then some { unread := [], closed := true }
  else none

end NamespaceBootstrap.Command

open NamespaceBootstrap in
def main (args : List String) : IO UInt32 := do
  let env ← Command.environmentNames.filterMapM fun v => do
    pure ((← IO.getEnv v).map fun x => (v, x))
  let run := Host.runProgram (Host.ofProcess Command.runningProcess) args env
    Command.standardStreams
  IO.print run.exit.stdout
  IO.eprint run.exit.stderr
  (← IO.getStdout).flush
  (← IO.getStderr).flush
  pure (UInt32.ofNat (run.exit.status % 256).toNat)
