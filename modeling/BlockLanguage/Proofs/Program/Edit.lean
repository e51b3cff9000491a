import BlockLanguage.Program.Edit
import BlockLanguage.Program.WellFormed
import BlockLanguage.Proofs.Statement.Edit
import BlockLanguage.Proofs.Token.Genuine

/-!
# What edits of programs make

An edit of a program makes the changed program exactly where what comes in passes the checks.
-/

set_option autoImplicit false

namespace BlockLanguage

namespace Program

variable {σ : Type}

/-- What is wrong with a definition. -/
def definitionViolation? (name : String) (body : Statement) : Option Violation :=
  if isIdentifier name && !isPrimitive name then
    if body.kind == .block then none else some (.instructionBody .exchangeContext name body.kind)
  else
    some (.instructionName .exchangeContext name)

/-- What is wrong with the first definition that something is wrong with. -/
def definitionsViolation? (entries : List (String × Statement)) : Option Violation :=
  entries.findSome? fun entry => definitionViolation? entry.1 entry.2

theorem definitionViolation?_eq_none_iff {name : String} {body : Statement} :
    definitionViolation? name body = none ↔ IsInstructionName name ∧ body.kind = .block := by
  have named : (isIdentifier name && !isPrimitive name) = true ↔ IsInstructionName name := by
    rw [Bool.and_eq_true, Bool.not_eq_true', IsInstructionName]
  unfold definitionViolation?
  rw [← named]
  by_cases isName : (isIdentifier name && !isPrimitive name) = true
  · by_cases isBlock : body.kind = .block
    · simp [isName, isBlock]
    · simp [isName, isBlock]
  · simp [isName]

theorem definitionsViolation?_eq_none_iff {entries : List (String × Statement)} :
    definitionsViolation? entries = none ↔
      ∀ entry ∈ entries, IsInstructionName entry.1 ∧ entry.2.kind = .block := by
  simp only [definitionsViolation?, List.findSome?_eq_none_iff, definitionViolation?_eq_none_iff]

theorem run_requireDefinition (name : String) (body : Statement) (value : σ) :
    (requireDefinition name body).run value = match definitionViolation? name body with
      | none => .ok () value
      | some violation => .error violation value := by
  rw [requireDefinition, EStateM.run_bind, Edit.run_require, definitionViolation?]
  cases isIdentifier name && !isPrimitive name with
  | true =>
      simp only [if_true, Edit.run_require]
      cases body.kind == .block with
      | true => rfl
      | false => rfl
  | false => rfl

/-- The checks change nothing and end with the first violation. -/
theorem run_requireDefinitions (entries : List (String × Statement)) (value : σ) :
    (requireDefinitions entries).run value = match definitionsViolation? entries with
      | none => .ok () value
      | some violation => .error violation value := by
  induction entries with
  | nil => rfl
  | cons entry entries ih =>
      rw [requireDefinitions, EStateM.run_bind, run_requireDefinition, definitionsViolation?,
        List.findSome?_cons]
      cases definitionViolation? entry.1 entry.2 with
      | none => exact ih
      | some violation => rfl

theorem run_rename (program : Program) (name : String) :
    (rename name).run program =
      if isIdentifier name then .ok () { program with name := name }
      else .error (.notIdentifier .rename name) program := by
  rw [rename, EStateM.run_bind, Edit.run_require]
  cases isIdentifier name with
  | true => rfl
  | false => rfl

theorem make_rename_eq_ok_iff {program made : Program} {name : String} :
    (rename name).make program = .ok made ↔
      isIdentifier name = true ∧ made = { program with name := name } := by
  rw [Edit.make_eq, run_rename]
  cases isIdentifier name with
  | true => simp [eq_comm]
  | false => simp

theorem run_exchangeContext (program : Program) (incoming : Context) :
    exchangeContext.run (program, incoming) =
      match definitionsViolation? incoming.entries with
      | none => .ok () ({ program with context := incoming }, program.context)
      | some violation => .error violation (program, incoming) := by
  simp only [exchangeContext, EStateM.run_bind, EStateM.run_get, run_requireDefinitions]
  cases definitionsViolation? incoming.entries with
  | none => rfl
  | some violation => rfl

theorem make_exchangeContext_eq_ok_iff {program : Program} {incoming : Context}
    {made : Program × Context} :
    exchangeContext.make (program, incoming) = .ok made ↔
      (∀ entry ∈ incoming.entries, IsInstructionName entry.1 ∧ entry.2.kind = .block) ∧
        made = ({ program with context := incoming }, program.context) := by
  rw [Edit.make_eq, run_exchangeContext, ← definitionsViolation?_eq_none_iff]
  cases definitionsViolation? incoming.entries with
  | none => simp [eq_comm]
  | some violation => simp

theorem run_exchangeBody (program : Program) (incoming : Statement) :
    exchangeBody.run (program, incoming) =
      if incoming.kind = .block then .ok () ({ program with body := incoming }, program.body)
      else .error (.wrongKind .exchangeBody .block incoming.kind) (program, incoming) := by
  simp only [exchangeBody, EStateM.run_bind, EStateM.run_get, Edit.run_require]
  by_cases isBlock : incoming.kind = .block
  · simp only [isBlock, beq_self_eq_true, if_true]
    rfl
  · simp only [beq_iff_eq, isBlock, if_false]

theorem make_exchangeBody_eq_ok_iff {program : Program} {incoming : Statement}
    {made : Program × Statement} :
    exchangeBody.make (program, incoming) = .ok made ↔
      incoming.kind = .block ∧ made = ({ program with body := incoming }, program.body) := by
  rw [Edit.make_eq, run_exchangeBody]
  by_cases isBlock : incoming.kind = .block
  · simp [isBlock, eq_comm]
  · simp [isBlock]

theorem atomic_rename (name : String) : (rename name).Atomic := by
  intro program violation changed refused
  grind [run_rename]

theorem atomic_exchangeContext : exchangeContext.Atomic := by
  intro ⟨program, incoming⟩ violation changed refused
  grind [run_exchangeContext]

theorem atomic_exchangeBody : exchangeBody.Atomic := by
  intro ⟨program, incoming⟩ violation changed refused
  grind [run_exchangeBody]

/-!
## Well-formed programs
-/

section Preservation

open Edit (Both)

theorem preserves_rename (name : String) : (rename name).Preserves WellFormed := by
  refine (atomic_rename name).preserves ?_
  intro program _ made wellFormed done
  obtain ⟨isName, rfl⟩ := make_rename_eq_ok_iff.mp (Edit.make_of_run done)
  exact { wellFormed with name := isName }

theorem preserves_exchangeContext :
    exchangeContext.Preserves (Both WellFormed Context.WellFormed) := by
  refine atomic_exchangeContext.preserves ?_
  intro ⟨program, incoming⟩ _ made ⟨wellFormed, incomingWellFormed⟩ done
  obtain ⟨admitted, rfl⟩ := make_exchangeContext_eq_ok_iff.mp (Edit.make_of_run done)
  obtain ⟨checked, outgoing, body⟩ := wellFormed_iff.mp wellFormed
  exact ⟨wellFormed_iff.mpr ⟨{ checked with context := admitted }, incomingWellFormed, body⟩,
    outgoing⟩

theorem preserves_exchangeBody :
    exchangeBody.Preserves (Both WellFormed Statement.WellFormed) := by
  refine atomic_exchangeBody.preserves ?_
  intro ⟨program, incoming⟩ _ made ⟨wellFormed, incomingWellFormed⟩ done
  obtain ⟨isBlock, rfl⟩ := make_exchangeBody_eq_ok_iff.mp (Edit.make_of_run done)
  exact ⟨{ wellFormed with body := ⟨isBlock, incomingWellFormed⟩ }, wellFormed.body.2⟩

end Preservation

/-!
## Checked programs
-/

theorem checked_empty : empty.Checked where
  name := isIdentifier_iff_wordClass.mpr (by decide)
  context := nofun
  body := rfl

/-- Renaming leaves a checked program, whether it is refused or not. -/
theorem Checked.left_rename {program : Program} (checked : program.Checked) (name : String) :
    ((rename name).left program).Checked := by
  rw [Edit.left, run_rename]
  cases isName : isIdentifier name with
  | true => exact ⟨isName, checked.context, checked.body⟩
  | false => exact checked

theorem Checked.left_exchangeContext {program : Program} (checked : program.Checked)
    (incoming : Context) : (exchangeContext.left (program, incoming)).1.Checked := by
  rw [Edit.left, run_exchangeContext]
  cases found : definitionsViolation? incoming.entries with
  | none => exact ⟨checked.name, definitionsViolation?_eq_none_iff.mp found, checked.body⟩
  | some violation => exact checked

theorem Checked.left_exchangeBody {program : Program} (checked : program.Checked)
    (incoming : Statement) : (exchangeBody.left (program, incoming)).1.Checked := by
  rw [Edit.left, run_exchangeBody]
  by_cases isBlock : incoming.kind = .block
  · rw [if_pos isBlock]
    exact ⟨checked.name, checked.context, isBlock⟩
  · rw [if_neg isBlock]
    exact checked

end Program

end BlockLanguage
