import BlockLanguage.Program.Basic
import BlockLanguage.Statement.WellFormed

/-!
# Well-formed programs

A program is well-formed if its name is an identifier, its instructions have identifiers for
names, none of them a primitive one, and all its bodies are well-formed blocks.
-/

set_option autoImplicit false

namespace BlockLanguage

/-- The names that an instruction may be defined under. -/
def IsInstructionName (name : String) : Prop :=
  isIdentifier name = true ∧ isPrimitive name = false

/-- Whether a context may go into a program: its names name instructions and its bodies are
blocks, of whatever is in them. -/
def Context.Checked (context : Context) : Prop :=
  ∀ entry ∈ context.entries, IsInstructionName entry.1 ∧ entry.2.kind = .block

/-- Whether all bodies of a context are well-formed, under whatever names they stand. -/
def Context.WellFormed (context : Context) : Prop :=
  ∀ entry ∈ context.entries, entry.2.WellFormed

namespace Program

/-- What the edits of a program see to. -/
structure Checked (program : Program) : Prop where
  name : isIdentifier program.name = true
  context : program.context.Checked
  body : program.body.kind = .block

structure WellFormed (program : Program) : Prop where
  name : isIdentifier program.name = true
  instructionName : ∀ entry ∈ program.context.entries, IsInstructionName entry.1
  instructionBody : ∀ entry ∈ program.context.entries, entry.2.IsBody
  body : program.body.IsBody

theorem WellFormed.checked {program : Program} (wellFormed : program.WellFormed) :
    program.Checked where
  name := wellFormed.name
  context entry member :=
    ⟨wellFormed.instructionName entry member, (wellFormed.instructionBody entry member).1⟩
  body := wellFormed.body.1

/-- A program is well-formed if the edits would let it in and its parts are well-formed. -/
theorem wellFormed_iff {program : Program} :
    program.WellFormed ↔
      program.Checked ∧ program.context.WellFormed ∧ program.body.WellFormed := by
  constructor
  · intro wellFormed
    exact ⟨wellFormed.checked, fun entry member => (wellFormed.instructionBody entry member).2,
      wellFormed.body.2⟩
  · intro ⟨checked, context, body⟩
    refine ⟨checked.name, ?_, ?_, checked.body, body⟩
    · intro entry member
      exact (checked.context entry member).1
    · intro entry member
      exact ⟨(checked.context entry member).2, context entry member⟩

/-- The deepest nesting in any of the bodies of a program. -/
def nesting (program : Program) : Nat :=
  max (program.context.entries.foldr (fun entry deepest => max entry.2.nesting deepest) 0)
    program.body.nesting

end Program

end BlockLanguage
