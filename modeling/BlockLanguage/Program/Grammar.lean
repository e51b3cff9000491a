import BlockLanguage.Program.WellFormed
import BlockLanguage.Statement.Grammar

/-!
# The grammar of programs

A program is described by the definitions it lists, in some order, between its name and its main
body. The line that opens a program with its name may be missing.
-/

set_option autoImplicit false

namespace BlockLanguage

open TokenShape (word identifier)

/-- The name and body of an instruction. -/
abbrev Definition := String × Statement

/-- The tokens that describe the definition of an instruction. -/
def definitionShapes (definition : Definition) : List TokenShape :=
  word .INSTRUCTION :: identifier definition.1 :: word .IS ::
    (definition.2.shapes ++ [word .END, identifier definition.1])

/-- The tokens that describe the line that opens a program. -/
def headerShapes : Option String → List TokenShape
  | some name => [word .PROGRAM, identifier name, word .IS]
  | none => []

/-- The tokens that describe a program, given the name that opens it, if any, and the definitions
as they are listed. -/
def programShapes (opened? : Option String) (definitions : List Definition) (body : Statement)
    (name : String) : List TokenShape :=
  headerShapes opened? ++ (definitions.flatMap definitionShapes ++
    word .BEGIN :: (body.shapes ++ [word .END, identifier name]))

/-- A definition that a program may hold and that nests within the limit. -/
structure AdmissibleDefinition (limit : Nat) (definition : Definition) : Prop where
  name : IsInstructionName definition.1
  isBody : definition.2.IsBody
  nesting : definition.2.nesting ≤ limit

/-- Whether the listed parts make up the program: its name, also where it is opened, its body and
definitions of different instructions. -/
structure MakesUp (limit : Nat) (opened? : Option String) (definitions : List Definition)
    (program : Program) : Prop where
  name : isIdentifier program.name = true
  opened : ∀ opened ∈ opened?, opened = program.name
  distinct : (definitions.map Prod.fst).Nodup
  admissible : ∀ definition ∈ definitions, AdmissibleDefinition limit definition
  context : program.context = NameMap.ofList definitions
  isBody : program.body.IsBody
  nesting : program.body.nesting ≤ limit

end BlockLanguage
