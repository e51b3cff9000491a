import BlockLanguage.Program.Basic

/-!
# Workbenches

A workbench holds statements, contexts and programs under names. Each name holds the empty value
until something else is put there. A place is a part of the workbench that can be read and
written; places are put side by side to reach several parts at once.
-/

set_option autoImplicit false

namespace BlockLanguage

structure Workbench where
  statements : NameMap Statement
  contexts : NameMap Context
  programs : NameMap Program
  deriving DecidableEq

namespace Workbench

def empty : Workbench := ⟨NameMap.empty, NameMap.empty, NameMap.empty⟩

def statement (bench : Workbench) (name : String) : Statement :=
  (bench.statements.get? name).getD .empty

def context (bench : Workbench) (name : String) : Context :=
  (bench.contexts.get? name).getD NameMap.empty

def program (bench : Workbench) (name : String) : Program :=
  (bench.programs.get? name).getD .empty

/-- A part of the workbench with values of type `σ`. -/
structure Place (σ : Type) where
  read : Workbench → σ
  write : σ → Workbench → Workbench

namespace Place

variable {σ τ : Type}

/-- Two places side by side. They are meant to be different ones. -/
def beside (first : Place σ) (second : Place τ) : Place (σ × τ) where
  read bench := (first.read bench, second.read bench)
  write values bench := second.write values.2 (first.write values.1 bench)

end Place

/-- Where a statement lies. A statement without a name is taken fresh and empty from elsewhere,
and thrown away. -/
abbrev Slot := Option String

def statementAt : Slot → Place Statement
  | some name =>
    { read := fun bench => bench.statement name
      write := fun value bench =>
        { bench with statements := bench.statements.insert name value } }
  | none => { read := fun _ => .empty, write := fun _ bench => bench }

def contextAt (name : String) : Place Context where
  read bench := bench.context name
  write value bench := { bench with contexts := bench.contexts.insert name value }

def programAt (name : String) : Place Program where
  read bench := bench.program name
  write value bench := { bench with programs := bench.programs.insert name value }

end Workbench

end BlockLanguage
