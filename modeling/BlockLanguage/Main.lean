import BlockLanguage.Command.Run

/-!
# The command

Reads the source file, prints what the run shows and ends with its exit code.
-/

set_option autoImplicit false

namespace BlockLanguage.Command

/-- What the system says of a file that cannot be read. -/
def FileError.ofSystem : IO.Error → FileError
  | .noFileOrDirectory .. => .notFound
  | .inappropriateType .. => .isDirectory
  | .permissionDenied _ number reason => .system reason number.toNat
  | other => .system (toString other) 5

def findFile (path : String) : IO SourceFile := do
  try
    return .ok (← IO.FS.readBinFile path)
  catch error =>
    return .error (.ofSystem error)

def report (shown : Report) : IO UInt32 := do
  IO.print shown.output
  if let some line := shown.errorLine? then
    IO.eprintln line
  return UInt32.ofNat shown.exitCode

end BlockLanguage.Command

open BlockLanguage.Command in
def main (arguments : List String) : IO UInt32 := do
  match Settings.ofArguments arguments with
  | .ok settings => report (settings.run (← findFile settings.sourcePath))
  | .error stop => report (.ofStop stop)
