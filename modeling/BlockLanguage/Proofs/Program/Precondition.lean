import BlockLanguage.Proofs.Program.Enumeration
import BlockLanguage.Proofs.Statement.Precondition

/-!
# Preconditions of all edits

What the edits of programs ask for, in order, and with it what every structural edit does where it
is refused. A context is checked entry by entry, in whatever order its entries are enumerated.
-/

set_option autoImplicit false

namespace BlockLanguage

open Edit (demands_nil demands_of_run_eq_ite)
open Precondition (hasKind noBlock hasPlace hasChild partIsBlock partIsEmpty isName)

/-- What is asked for in a definition that is to go into a program. -/
def Precondition.ofDefinition (definition : Definition) : List Precondition :=
  [⟨IsInstructionName definition.1, .instructionName .exchangeContext definition.1⟩,
    ⟨definition.2.kind = .block,
      .instructionBody .exchangeContext definition.1 definition.2.kind⟩]

theorem Precondition.forall_mem_flatMap_ofDefinition_iff {definitions : List Definition} :
    (∀ precondition ∈ definitions.flatMap ofDefinition, precondition.holds) ↔
      ∀ definition ∈ definitions,
        IsInstructionName definition.1 ∧ definition.2.kind = .block := by
  induction definitions with
  | nil => simp
  | cons definition definitions ih =>
      simp only [List.flatMap_cons, List.forall_mem_append, ih, List.forall_mem_cons,
        ofDefinition, List.not_mem_nil, false_implies, implies_true, and_true]

namespace Program

variable {σ α : Type} {edit : Edit σ α} {value : σ}

theorem demands_rename (name : String) (program : Program) :
    (rename name).Demands program [isName .rename name] :=
  demands_of_run_eq_ite (run_rename program name) demands_nil

theorem demands_exchangeBody (program : Program) (incoming : Statement) :
    exchangeBody.Demands (program, incoming) [hasKind .exchangeBody .block incoming] :=
  demands_of_run_eq_ite (run_exchangeBody program incoming) demands_nil

/-- The violation of the checks of definitions is that of the first definition with a precondition
that is broken. -/
theorem demands_of_definitionsViolation? {result : α} {changed : σ}
    {definitions : List Definition}
    (run : edit.run value = match definitionsViolation? definitions with
      | none => .ok result changed
      | some violation => .error violation value) :
    edit.Demands value (definitions.flatMap Precondition.ofDefinition) := by
  induction definitions with
  | nil => exact demands_nil run
  | cons definition definitions ih =>
      have named : (isIdentifier definition.1 && !isPrimitive definition.1) = true ↔
          IsInstructionName definition.1 := by
        rw [Bool.and_eq_true, Bool.not_eq_true', IsInstructionName]
      rw [definitionsViolation?, List.findSome?_cons] at run
      by_cases isName : IsInstructionName definition.1
      · apply Edit.Demands.cons _ isName
        by_cases isBlock : definition.2.kind = .block
        · rw [definitionViolation?_eq_none_iff.mpr ⟨isName, isBlock⟩] at run
          exact (ih run).cons isBlock
        · simp only [definitionViolation?, named.mpr isName, if_true, beq_iff_eq, isBlock,
            if_false] at run
          exact .of_broken isBlock run
      · simp only [definitionViolation?, named, isName, if_false] at run
        exact .of_broken isName run

theorem demands_exchangeContext (program : Program) (incoming : Context) :
    exchangeContext.Demands (program, incoming)
      (incoming.entries.flatMap Precondition.ofDefinition) :=
  demands_of_definitionsViolation? (run_exchangeContext program incoming)

end Program

theorem Enumeration.demands_exchangeContext (order : List Definition) (program : Program)
    (incoming : Context) :
    (exchangeContext order).Demands (program, incoming)
      (order.flatMap Precondition.ofDefinition) :=
  Program.demands_of_definitionsViolation? (run_exchangeContext order program incoming)

/-- Every structural edit is done exactly where its preconditions hold, and is otherwise refused for
the first of them that is broken, with all values as they were. The preconditions are listed in the
order in which they are checked; those of a context that comes in are checked in the order in which
its entries are enumerated. -/
theorem edits_refused_by_first_broken :
    (∀ index target child, (Statement.insertChild index).Demands (target, child)
      [noBlock .insertChild child, hasKind .insertChild .block target,
        hasPlace .insertChild index target.width]) ∧
    (∀ index target, (Statement.removeChild index).Demands target
      [hasKind .removeChild .block target, hasChild .removeChild index target.width]) ∧
    (∀ condition target thenBlock, (Statement.formIfThen condition).Demands (target, thenBlock)
      [partIsBlock .formIfThen .thenBlock thenBlock]) ∧
    (∀ condition target thenBlock elseBlock,
      (Statement.formIfElse condition).Demands (target, thenBlock, elseBlock)
        [partIsBlock .formIfElse .thenBlock thenBlock,
          partIsBlock .formIfElse .elseBlock elseBlock]) ∧
    (∀ condition target body, (Statement.formLoop condition).Demands (target, body)
      [partIsBlock .formLoop .body body]) ∧
    (∀ instruction target, (Statement.formCall instruction).Demands target
      [isName .formCall instruction]) ∧
    (∀ source thenRoom, Statement.dissolveIfThen.Demands (source, thenRoom)
      [hasKind .dissolveIfThen .ifThen source,
        partIsEmpty .dissolveIfThen .thenBlock thenRoom]) ∧
    (∀ source thenRoom elseRoom, Statement.dissolveIfElse.Demands (source, thenRoom, elseRoom)
      [hasKind .dissolveIfElse .ifElse source, partIsEmpty .dissolveIfElse .thenBlock thenRoom,
        partIsEmpty .dissolveIfElse .elseBlock elseRoom]) ∧
    (∀ source bodyRoom, Statement.dissolveLoop.Demands (source, bodyRoom)
      [hasKind .dissolveLoop .loop source, partIsEmpty .dissolveLoop .body bodyRoom]) ∧
    (∀ source, Statement.dissolveCall.Demands source [hasKind .dissolveCall .call source]) ∧
    (∀ name program, (Program.rename name).Demands program [isName .rename name]) ∧
    (∀ program incoming, Program.exchangeBody.Demands (program, incoming)
      [hasKind .exchangeBody .block incoming]) ∧
    (∀ program incoming, Program.exchangeContext.Demands (program, incoming)
      (incoming.entries.flatMap Precondition.ofDefinition)) ∧
    ∀ program incoming order, order.Perm incoming.entries →
      (Enumeration.exchangeContext order).Demands (program, incoming)
          (order.flatMap Precondition.ofDefinition) ∧
        ((∃ result changed,
            (Enumeration.exchangeContext order).run (program, incoming) = .ok result changed) ↔
          incoming.Checked) := by
  refine ⟨Statement.demands_insertChild, Statement.demands_removeChild,
    Statement.demands_formIfThen, Statement.demands_formIfElse, Statement.demands_formLoop,
    Statement.demands_formCall, Statement.demands_dissolveIfThen,
    Statement.demands_dissolveIfElse, Statement.demands_dissolveLoop,
    Statement.demands_dissolveCall, Program.demands_rename, Program.demands_exchangeBody,
    Program.demands_exchangeContext, ?_⟩
  intro program incoming order enumerates
  have demands := Enumeration.demands_exchangeContext order program incoming
  refine ⟨demands, ?_⟩
  simp only [demands.done_iff, Precondition.forall_mem_flatMap_ofDefinition_iff, Context.Checked,
    enumerates.mem_iff]

/-- Of two definitions that may not go into a program, the one that is enumerated first is
reported. -/
theorem edits_refused_by_first_broken_bothOrders :
    let incoming : Context := ⟨[("a", .call "b"), ("move", .empty)], by decide⟩
    [("move", .empty), ("a", .call "b")].Perm incoming.entries ∧
      (Enumeration.exchangeContext incoming.entries).run (.empty, incoming) =
        .error (.instructionBody .exchangeContext "a" .call) (.empty, incoming) ∧
      (Enumeration.exchangeContext [("move", .empty), ("a", .call "b")]).run (.empty, incoming) =
        .error (.instructionName .exchangeContext "move") (.empty, incoming) := by
  intro incoming
  have isName : IsInstructionName "a" := ⟨isIdentifier_iff_wordClass.mpr (by decide), by decide⟩
  have isPrimitive : ¬ IsInstructionName "move" := fun named => nomatch named.2
  have enumerates : [("move", .empty), ("a", .call "b")].Perm incoming.entries := .swap _ _ _
  obtain ⟨_, _, _, _, _, _, _, _, _, _, _, _, _, enumerated⟩ := edits_refused_by_first_broken
  have inOrder := (enumerated .empty incoming incoming.entries (.refl _)).1
  have reversed := (enumerated .empty incoming _ enumerates).1
  refine ⟨enumerates, (inOrder.refused_iff _ _).mpr ⟨rfl, ?_⟩,
    (reversed.refused_iff _ _).mpr ⟨rfl, ?_⟩⟩
  · exact Precondition.firstBroken_cons_iff.mpr
      (.inr ⟨isName, Precondition.firstBroken_cons_iff.mpr (.inl ⟨nofun, rfl⟩)⟩)
  · exact Precondition.firstBroken_cons_iff.mpr (.inl ⟨isPrimitive, rfl⟩)

end BlockLanguage
