import BlockLanguage.Program.Grammar
import BlockLanguage.Statement.Site

/-!
# Lines and sites of programs

A program in print, line by line, and where the conditionals and loops of its bodies stand. They
are counted from zero in each body.
-/

set_option autoImplicit false

namespace BlockLanguage

/-- The lines of the definition of an instruction, with the empty line behind it. -/
def definitionLines (definition : Definition) : List Line :=
  ⟨1, "INSTRUCTION " ++ definition.1 ++ " IS"⟩ ::
    (definition.2.lines 2 ++ [⟨1, "END " ++ definition.1⟩, ⟨0, ""⟩])

/-- The sites in definitions that are printed from a line on. -/
def definitionsSites (line : Nat) : List Definition → List Site
  | [] => []
  | definition :: rest =>
    definition.2.sites 0 (line + 1) ++
      definitionsSites (line + (definitionLines definition).length) rest

namespace Program

/-- The lines of a program. -/
def lines (program : Program) : List Line :=
  ⟨0, "PROGRAM " ++ program.name ++ " IS"⟩ :: ⟨0, ""⟩ ::
    (program.context.entries.flatMap definitionLines ++
      ⟨0, "BEGIN"⟩ :: (program.body.lines 1 ++ [⟨0, "END " ++ program.name⟩]))

/-- The sites in a program, in the order in which they are printed: the definitions start on the
third line, and the body on the line after BEGIN. -/
def sites (program : Program) : List Site :=
  definitionsSites 3 program.context.entries ++
    program.body.sites 0 (3 + (program.context.entries.flatMap definitionLines).length + 1)

end Program

end BlockLanguage
