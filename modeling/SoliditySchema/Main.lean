/-
  SoliditySchema.Main — the command line program.

  The files that a command line names are read first; the outcome follows from what they hold.
-/

import SoliditySchema.Extraction

namespace SoliditySchema.Main

/-- The error of the system as the program reports it. -/
def readError : IO.Error → ReadError
  | .noFileOrDirectory _ _ _ => .notFound
  | .permissionDenied _ _ _ => .notPermitted
  | .inappropriateType _ _ details => if details.toLower = "is a directory" then .isDirectory else .notDirectory
  | e => .other (toString e)

/-- Reads the text of a file. -/
def readFile (path : String) : IO (Except ReadError String) := do
  try
    let bytes ← IO.FS.readBinFile path
    match String.fromUTF8? bytes with
    | some text => return .ok text
    | none => return .error .notText
  catch e => return .error (readError e)

/-- The paths that a command line may read. -/
def paths (words : List String) : List String :=
  match Arguments.ofWords words with
  | .ok args => args.file.toList ++ [args.config.getD Config.fileName]
  | .error _ => []

/-- Runs the program. -/
def run (words : List String) : IO UInt32 := do
  let contents ← (paths words).mapM fun p => do return (p, ← readFile p)
  let files : Files := fun p => (contents.lookup p).getD (.error .notFound)
  let outcome := Outcome.ofWords files words
  IO.print outcome.output
  IO.eprint outcome.errors
  return outcome.exitCode.toUInt32

end SoliditySchema.Main

/-- The entry of the program. -/
def main (words : List String) : IO UInt32 := SoliditySchema.Main.run words
