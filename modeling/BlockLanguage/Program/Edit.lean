import BlockLanguage.Program.Basic
import BlockLanguage.Statement.Edit

/-!
# Edits of programs

The context and the body of a program are changed by exchanging them with values that the caller
holds. What comes in is checked first: names are identifiers, no instruction takes the name of a
primitive one, and bodies are blocks.
-/

set_option autoImplicit false

namespace BlockLanguage.Program

open Edit (require)

variable {σ : Type}

def rename (name : String) : Edit Program Unit := do
  require (isIdentifier name) (.notIdentifier .rename name)
  modify fun program => { program with name := name }

/-- What may stand in the context of a program: a block under an identifier that names no
primitive instruction. -/
def requireDefinition (name : String) (body : Statement) : Edit σ Unit := do
  require (isIdentifier name && !isPrimitive name) (.instructionName .exchangeContext name)
  require (body.kind == .block) (.instructionBody .exchangeContext name body.kind)

def requireDefinitions : List (String × Statement) → Edit σ Unit
  | [] => pure ()
  | (name, body) :: rest => do
    requireDefinition name body
    requireDefinitions rest

def exchangeContext : Edit (Program × Context) Unit := do
  let (program, incoming) ← get
  requireDefinitions incoming.entries
  set ({ program with context := incoming }, program.context)

def exchangeBody : Edit (Program × Statement) Unit := do
  let (program, incoming) ← get
  require (incoming.kind == .block) (.wrongKind .exchangeBody .block incoming.kind)
  set ({ program with body := incoming }, program.body)

end BlockLanguage.Program
