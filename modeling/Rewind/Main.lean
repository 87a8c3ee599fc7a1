import Rewind.CommandLine.Run

/-!
# The program

Reads the files that a command line names, and prints what its request prints.
-/

namespace Rewind.CommandLine

/-- What reading a file gives.  A directory can be opened but not read, and only what cannot be
opened is reported with its name. -/
def readFile (path : Path) : IO (Except FileFault (List UInt8)) := do
  match ← (IO.FS.readBinFile path.text).toBaseIO with
  | .ok bytes => return .ok bytes.toList
  | .error (.inappropriateType (some _) ..) => return .error .notDirectory
  | .error (.inappropriateType none ..) => return .error .isDirectory
  | .error (.invalidArgument ..) => return .error .nameTooLong
  | .error _ => return .error .missing

/-- How many lists and objects of JSON the program reads inside of each other. -/
def jsonDepth : Nat := 990

/-- How many lists and maps of YAML the program reads inside of each other. -/
def yamlDepth : Nat := 490

/-- The files that a request names, as they are now. -/
def readFiles (request : Request) : IO Files := do
  let contents ← request.paths.mapM fun path => do return (path.text, ← readFile path)
  return { read := fun path => (contents.lookup path).getD (.error .missing), jsonDepth, yamlDepth }

end Rewind.CommandLine

open Rewind.CommandLine in
/-- Runs a command line. -/
def main (args : List String) : IO UInt32 := do
  match Request.ofArgs? args with
  | none =>
    IO.eprintln "usage: steptrace [-v] version | validate | inspect | step"
    return 2
  | some request =>
    let ending := run (← readFiles request) request
    IO.print ending.output
    if ending.escaped.isSome then IO.eprintln "steptrace: the files do not hold what they should"
    return ending.code.toUInt32
