import BlockLanguage.Program.Basic
import BlockLanguage.Statement.Printer

/-!
# Printed programs

A program is printed with its instructions in the order of their names, each followed by an empty
line, and its main body last.
-/

set_option autoImplicit false

namespace BlockLanguage

/-- The source text of an instruction definition. -/
def renderDefinition (name : String) (body : Statement) : String :=
  Line.render 0 ⟨1, "INSTRUCTION " ++ name ++ " IS"⟩ ++ body.render (2 * indentWidth) ++
    Line.render 0 ⟨1, "END " ++ name⟩ ++ "\n"

namespace Program

/-- The source text of a program. -/
def render (program : Program) : String :=
  "PROGRAM " ++ program.name ++ " IS\n\n" ++
    String.join (program.context.entries.map fun (name, body) => renderDefinition name body) ++
    "BEGIN\n" ++ program.body.render indentWidth ++ "END " ++ program.name ++ "\n"

end Program

end BlockLanguage
