import BlockLanguage.NameMap
import BlockLanguage.Statement.Basic

/-!
# Programs

A program has a name, a context that holds the bodies of the instructions it defines, and a main
body.
-/

set_option autoImplicit false

namespace BlockLanguage

/-- The bodies of defined instructions, by name. -/
abbrev Context := NameMap Statement

def unnamed : String := "Unnamed"

structure Program where
  name : String
  context : Context
  body : Statement
  deriving DecidableEq

namespace Program

def empty : Program := ⟨unnamed, NameMap.empty, Statement.empty⟩

instance : Inhabited Program := ⟨empty⟩

end Program

end BlockLanguage
