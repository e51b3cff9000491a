import BlockLanguage.Command.Options
import BlockLanguage.Parser.Program
import BlockLanguage.Program.Printer
import BlockLanguage.Program.Summary

/-!
# Runs

A run reads a source file, parses the program in it and describes the program, by a summary or by
its source text in canonical form.
-/

set_option autoImplicit false

namespace BlockLanguage.Command

/-- Why a source file has no text. -/
inductive FileError where
  | notFound
  | isDirectory
  | notText
  /-- Some other reason that the system gives, with its number. -/
  | system (reason : String) (number : Nat)
  deriving DecidableEq, Repr

def FileError.message : FileError → String
  | notFound => "No such file or directory (os error 2)"
  | isDirectory => "Is a directory (os error 21)"
  | notText => "stream did not contain valid UTF-8"
  | system reason number => reason ++ " (os error " ++ toString number ++ ")"

abbrev SourceFile := Except FileError ByteArray

/-- The text of a source file, whose bytes are UTF-8. -/
def readText (file : SourceFile) : Except FileError String := do
  match String.fromUTF8? (← file) with
  | some text => return text
  | none => throw .notText

inductive RunFailure where
  | file (error : FileError)
  | parse (error : ParseError)
  | violation (violation : Violation)
  deriving DecidableEq, Repr

def RunFailure.ofParseFailure : ParseFailure → RunFailure
  | .refused error => .parse error
  | .violated broken => .violation broken

def RunFailure.message : RunFailure → String
  | file error => "Input file error: " ++ error.message
  | parse error => "Parse error: " ++ error.message
  | violation broken => broken.message

def describe (prettyPrint : Bool) (requested : Nat) (source : String) :
    Except RunFailure String := do
  let program ← (Program.ofSource requested source).mapError .ofParseFailure
  if prettyPrint then
    return program.render
  else
    program.summary.mapError .violation

def describeFile (prettyPrint : Bool) (requested : Nat) (file : SourceFile) :
    Except RunFailure String := do
  describe prettyPrint requested (← (readText file).mapError .file)

/-- What a command shows: its exit code, what goes to standard output and, in the case of a
failed run, the line that ends standard error. -/
structure Report where
  exitCode : Nat
  output : String
  errorLine? : Option String
  deriving DecidableEq, Repr

def versionLine : String := "bl-parse 0.1.0\n"

def Report.ofResult : Except RunFailure String → Report
  | .ok text => ⟨0, text ++ "\n", none⟩
  | .error error => ⟨1, "", some error.message⟩

/-- The report of a command line that does not lead to a run. The texts that explain the command
line are left out. -/
def Report.ofStop : UsageStop → Report
  | .helpRequested => ⟨0, "", none⟩
  | .versionRequested => ⟨0, versionLine, none⟩
  | _ => ⟨2, "", none⟩

/-- Runs on the source file that the settings name. -/
def Settings.run (settings : Settings) (file : SourceFile) : Report :=
  .ofResult (describeFile settings.prettyPrint settings.nestingLimit file)

/-- Obeys a command line, less the name of the program, where each path leads to a file. -/
def execute (files : String → SourceFile) (arguments : List String) : Report :=
  match Settings.ofArguments arguments with
  | .ok settings => settings.run (files settings.sourcePath)
  | .error stop => .ofStop stop

end BlockLanguage.Command
