import BlockLanguage.Parser.Statement

/-!
# Command line options

The command line consists of options, in any order and each at most once. An option that takes a
value has it in the same argument or in the next one. A value from the next argument is examined
no sooner than another option takes effect or the command line ends, so what stands between may
be refused first.
-/

set_option autoImplicit false

namespace BlockLanguage.Command

inductive CommandOption where
  | sourcePath
  | nestingLimit
  | prettyPrint
  | verbose
  | help
  | version
  deriving DecidableEq, Repr

namespace CommandOption

def all : List CommandOption :=
  [.sourcePath, .nestingLimit, .prettyPrint, .verbose, .help, .version]

def longName : CommandOption → String
  | sourcePath => "src-filepath"
  | nestingLimit => "max-nesting-depth"
  | prettyPrint => "pretty-print"
  | verbose => "verbose"
  | help => "help"
  | version => "version"

def shortName : CommandOption → Char
  | sourcePath => 's'
  | nestingLimit => 'm'
  | prettyPrint => 'p'
  | verbose => 'v'
  | help => 'h'
  | version => 'V'

def takesValue : CommandOption → Bool
  | sourcePath | nestingLimit => true
  | prettyPrint | verbose | help | version => false

def ofLongName? (name : List Char) : Option CommandOption :=
  all.find? (·.longName.toList == name)

def ofShortName? (name : Char) : Option CommandOption :=
  all.find? (·.shortName == name)

end CommandOption

inductive UsageStop where
  | helpRequested
  | versionRequested
  /-- There is no such option, or the argument is no option at all. -/
  | unknownArgument
  | missingValue
  | unusableValue
  | repeatedOption
  | unwantedValue
  | missingSource
  deriving DecidableEq, Repr

structure Settings where
  sourcePath : String
  nestingLimit : Nat
  prettyPrint : Bool
  verbose : Bool
  deriving DecidableEq, Repr

/-- The number that a text of decimal digits, perhaps after a plus sign, stands for. -/
def readNumber? (text : String) : Option Nat :=
  let digits := match text.toList with
    | '+' :: digits => digits
    | digits => digits
  if !digits.isEmpty && digits.all Char.isDigit then
    some (digits.foldl (fun number digit => 10 * number + (digit.toNat - '0'.toNat)) 0)
  else
    none

def readNestingLimit? (text : String) : Option Nat :=
  (readNumber? text).filter (· ≤ maximalNestingLimit)

/-- What the arguments up to some point have brought about. An option whose value is not taken
from its own argument waits; it takes effect with the next option, or at the end. -/
structure Reading where
  sourcePath? : Option String
  nestingLimit? : Option Nat
  prettyPrint : Bool
  verbose : Bool
  waiting? : Option (CommandOption × Option String)
  deriving DecidableEq, Repr

namespace Reading

def start : Reading := ⟨none, none, false, false, none⟩

/-- Lets an option take effect. The value is looked for first, then repetition, then whether the
value can be used. -/
def effect (reading : Reading) (option : CommandOption) (value? : Option String) :
    Except UsageStop Reading :=
  match option with
  | .sourcePath =>
    match value?, reading.sourcePath? with
    | none, _ => .error .missingValue
    | some _, some _ => .error .repeatedOption
    | some value, none => .ok { reading with sourcePath? := some value }
  | .nestingLimit =>
    match value?, reading.nestingLimit? with
    | none, _ => .error .missingValue
    | some _, some _ => .error .repeatedOption
    | some value, none =>
      match readNestingLimit? value with
      | some limit => .ok { reading with nestingLimit? := some limit }
      | none => .error .unusableValue
  | .prettyPrint =>
    if reading.prettyPrint then .error .repeatedOption
    else .ok { reading with prettyPrint := true }
  | .verbose =>
    if reading.verbose then .error .repeatedOption
    else .ok { reading with verbose := true }
  | .help => .error .helpRequested
  | .version => .error .versionRequested

def settle (reading : Reading) : Except UsageStop Reading :=
  match reading.waiting? with
  | none => .ok reading
  | some (option, value?) => { reading with waiting? := none }.effect option value?

/-- Lets an option take effect after the one that waits. -/
def take (reading : Reading) (option : CommandOption) (value? : Option String) :
    Except UsageStop Reading := do
  (← reading.settle).effect option value?

/-- Makes an option wait for its value, after the one that waits has taken effect. -/
def await (reading : Reading) (option : CommandOption) : Except UsageStop Reading := do
  return { ← reading.settle with waiting? := some (option, none) }

/-- Reads an option that is named in full, with a value behind an equals sign or without. -/
def long (reading : Reading) (text : List Char) : Except UsageStop Reading :=
  let name := text.takeWhile (· != '=')
  let value? := match text.dropWhile (· != '=') with
    | [] => none
    | _ :: value => some (String.ofList value)
  match CommandOption.ofLongName? name, value? with
  | none, _ => .error .unknownArgument
  | some option, some value =>
    if option.takesValue then reading.take option (some value) else .error .unwantedValue
  | some option, none =>
    if option.takesValue then reading.await option else reading.take option none

/-- The value that follows an option in the same argument, perhaps behind an equals sign. -/
def attachedValue : List Char → String
  | '=' :: value => String.ofList value
  | value => String.ofList value

/-- Reads options that are named by one letter each. What follows an option that takes a value
is its value. -/
def short (reading : Reading) : List Char → Except UsageStop Reading
  | [] => .ok reading
  | letter :: rest =>
    match CommandOption.ofShortName? letter with
    | none => .error .unknownArgument
    | some option =>
      if option.takesValue then
        if rest.isEmpty then reading.await option
        else reading.take option (some (attachedValue rest))
      else do
        (← reading.take option none).short rest

/-- Reads an argument that is no option: the value that an option waits for. -/
def word (reading : Reading) (argument : String) : Except UsageStop Reading :=
  match reading.waiting? with
  | some (option, none) => .ok { reading with waiting? := some (option, some argument) }
  | _ => .error .unknownArgument

/-- Reads arguments one after the other. Behind two hyphens there is room for nothing. -/
def arguments (reading : Reading) : List String → Except UsageStop Reading
  | [] => .ok reading
  | argument :: rest =>
    match argument.toList with
    | ['-', '-'] => if rest.isEmpty then .ok reading else .error .unknownArgument
    | '-' :: '-' :: text => do (← reading.long text).arguments rest
    | '-' :: letter :: text => do (← reading.short (letter :: text)).arguments rest
    | _ => do (← reading.word argument).arguments rest

end Reading

/-- The settings that a command line, less the name of the program, asks for. -/
def Settings.ofArguments (arguments : List String) : Except UsageStop Settings := do
  let reading ← (← Reading.start.arguments arguments).settle
  match reading.sourcePath? with
  | none => .error .missingSource
  | some sourcePath =>
    return {
      sourcePath
      nestingLimit := reading.nestingLimit?.getD defaultNestingLimit
      prettyPrint := reading.prettyPrint
      verbose := reading.verbose }

end BlockLanguage.Command
