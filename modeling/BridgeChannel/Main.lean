/-
The program.

No sockets are at hand here, so that no address answers: see `Bridge.isolated`.
-/
import BridgeChannel.CommandLine.Run

set_option autoImplicit false

/-- Reads the variables that the program looks at. -/
def BridgeChannel.CommandLine.readEnvironment : IO (String → Option String) := do
  let names := [addressVariable, endpointVariable, levelVariable]
  let values ← names.mapM fun name => do return (name, ← IO.getEnv name)
  return fun name => (values.lookup name).join

open BridgeChannel

def main (arguments : List String) : IO UInt32 := do
  let environment ← CommandLine.readEnvironment
  match CommandLine.run environment Bridge.isolated arguments with
  | .error misuse =>
    IO.eprintln ("error: " ++ misuse.message)
    return 2
  | .ok (request, result) =>
    if request = .version then IO.println CommandLine.versionLine
    for line in result.lines do IO.println line
    return result.exitCode
