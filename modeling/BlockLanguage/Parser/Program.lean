import BlockLanguage.Parser.Statement
import BlockLanguage.Program.Edit
import BlockLanguage.Token.Lexer

/-!
# Parsing programs

A program opens with its name, or goes without that line, defines instructions, and ends with its
main body and its name. Names that close have to repeat the names that opened.
-/

set_option autoImplicit false

namespace BlockLanguage

namespace Parser

/-- Reads a name that closes what was opened under a name. -/
def closingName (opened : String) : Parser Unit := do
  let token ← ofClass .identifier
  if token.text = opened then
    return
  else
    refuse (.nameMismatch opened token.text token.line)

/-- Reads the definition of an instruction, and gives the token of its name and its body. -/
def instruction (requested : Nat) : Parser (Token × Statement) := do
  keyword .INSTRUCTION
  let name ← ofClass .identifier
  if isPrimitive name.text then
    refuse (.primitiveRedefined name.text name.line)
  keyword .IS
  let body ← block requested
  keyword .END
  closingName name.text
  return (name, body)

/-- Reads the definition of an instruction that is not defined yet. -/
def intoContext (requested : Nat) (context : Context) : Parser Context := do
  let (name, body) ← instruction requested
  if context.contains name.text then
    refuse (.instructionRepeated name.text name.line)
  else
    return context.insert name.text body

def definitions (requested : Nat) : Parser Context :=
  repeatUntil (fun tokens => !startsWith .INSTRUCTION tokens) (intoContext requested)
    NameMap.empty

/-- Reads the line that opens a program with its name, if there is one. -/
def header? : Parser (Option String) := do
  if startsWith .PROGRAM (← get) then
    keyword .PROGRAM
    let name ← ofClass .identifier
    keyword .IS
    return some name.text
  else
    return none

/-- Reads the name that closes a program, which is its only name if none opened it. -/
def programName (opened? : Option String) : Parser String := do
  match opened? with
  | some opened =>
    closingName opened
    return opened
  | none =>
    let name ← ofClass .identifier
    return name.text

/-- Reads nothing where nothing is left. -/
def endOfProgram : Parser Unit := do
  match (← get).head? with
  | none => return
  | some token => refuse (.inputAfterEnd token.text token.line)

def program (requested : Nat) : Parser Program := do
  let opened? ← header?
  let context ← definitions requested
  keyword .BEGIN
  let body ← block requested
  keyword .END
  let name ← programName opened?
  endOfProgram
  let named ← build (Program.rename name) .empty
  let (equipped, _) ← build Program.exchangeContext (named, context)
  let (complete, _) ← build Program.exchangeBody (equipped, body)
  return complete

end Parser

def Program.ofSource (requested : Nat) (source : String) : Except ParseFailure Program :=
  (Parser.program requested).run' (tokenize source)

end BlockLanguage
