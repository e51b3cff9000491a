import BlockLanguage.Proofs.Statement.Edit

/-!
# Preconditions in order

Edits look at their preconditions one after the other. The first one that is broken decides which
violation an edit ends in, and it ends there with nothing changed. Where none is broken the edit is
done.
-/

set_option autoImplicit false

namespace BlockLanguage

/-- What an edit asks for, with the violation that it ends in otherwise. -/
structure Precondition where
  holds : Prop
  violation : Violation

namespace Precondition

/-- The violation belongs to a precondition that is broken, and no earlier one is. -/
def FirstBroken (violation : Violation) (preconditions : List Precondition) : Prop :=
  ∃ before broken after, preconditions = before ++ broken :: after ∧
    (∀ earlier ∈ before, earlier.holds) ∧ ¬ broken.holds ∧ broken.violation = violation

variable {violation : Violation} {precondition : Precondition} {others : List Precondition}

theorem not_firstBroken_nil : ¬ FirstBroken violation [] := by
  intro ⟨before, broken, after, split, _⟩
  simp at split

theorem firstBroken_cons_iff :
    FirstBroken violation (precondition :: others) ↔
      (¬ precondition.holds ∧ precondition.violation = violation) ∨
        (precondition.holds ∧ FirstBroken violation others) := by
  constructor
  · intro ⟨before, broken, after, split, earlier, isBroken, same⟩
    cases before with
    | nil =>
        cases split
        exact .inl ⟨isBroken, same⟩
    | cons first before =>
        cases split
        obtain ⟨firstHolds, laterHold⟩ := List.forall_mem_cons.mp earlier
        exact .inr ⟨firstHolds, before, broken, after, rfl, laterHold, isBroken, same⟩
  · rintro (⟨isBroken, same⟩ | ⟨holds, before, broken, after, rfl, earlier, isBroken, same⟩)
    · exact ⟨[], precondition, others, rfl, List.forall_mem_nil _, isBroken, same⟩
    · exact ⟨precondition :: before, broken, after, rfl, List.forall_mem_cons.mpr ⟨holds, earlier⟩,
        isBroken, same⟩

/-!
## What is asked for
-/

def hasKind (operation : Operation) (expected : Kind) (statement : Statement) : Precondition :=
  ⟨statement.kind = expected, .wrongKind operation expected statement.kind⟩

def noBlock (operation : Operation) (child : Statement) : Precondition :=
  ⟨child.kind ≠ .block, .blockInBlock operation⟩

/-- There is a place at the index in front of a child or behind the last one. -/
def hasPlace (operation : Operation) (index length : Nat) : Precondition :=
  ⟨index ≤ length, .indexOutOfRange operation index length⟩

/-- There is a child at the index. -/
def hasChild (operation : Operation) (index length : Nat) : Precondition :=
  ⟨index < length, .indexOutOfRange operation index length⟩

def partIsBlock (operation : Operation) (part : Part) (statement : Statement) : Precondition :=
  ⟨statement.kind = .block, .partNotBlock operation part statement.kind⟩

def partIsEmpty (operation : Operation) (part : Part) (statement : Statement) : Precondition :=
  ⟨statement = .empty, .partNotEmpty operation part⟩

def isName (operation : Operation) (name : String) : Precondition :=
  ⟨isIdentifier name = true, .notIdentifier operation name⟩

end Precondition

namespace Edit

open Precondition (FirstBroken)

variable {σ α : Type} {edit : Edit σ α} {value : σ} {preconditions others : List Precondition}

/-- The edit is done exactly where all preconditions hold. Where it is refused, the value is what it
was, and the violation is that of the first precondition that is broken. -/
structure Demands (edit : Edit σ α) (value : σ) (preconditions : List Precondition) : Prop where
  done_iff : (∃ result changed, edit.run value = .ok result changed) ↔
    ∀ precondition ∈ preconditions, precondition.holds
  refused_iff : ∀ violation changed, edit.run value = .error violation changed ↔
    changed = value ∧ FirstBroken violation preconditions

theorem demands_nil {result : α} {changed : σ} (done : edit.run value = .ok result changed) :
    edit.Demands value [] := by
  constructor
  · exact iff_of_true ⟨result, changed, done⟩ (List.forall_mem_nil _)
  · intro violation other
    constructor
    · intro refused
      rw [done] at refused
      cases refused
    · intro ⟨_, broken⟩
      exact absurd broken Precondition.not_firstBroken_nil

theorem Demands.of_broken {precondition : Precondition} (isBroken : ¬ precondition.holds)
    (refused : edit.run value = .error precondition.violation value) :
    edit.Demands value (precondition :: others) := by
  constructor
  · constructor
    · intro ⟨result, changed, done⟩
      rw [refused] at done
      cases done
    · intro all
      exact absurd (all precondition List.mem_cons_self) isBroken
  · intro violation changed
    simp only [refused, Precondition.firstBroken_cons_iff, isBroken, not_false_eq_true, true_and,
      false_and, or_false, EStateM.Result.error.injEq]
    exact ⟨fun ⟨same, kept⟩ => ⟨kept.symm, same⟩, fun ⟨kept, same⟩ => ⟨same, kept.symm⟩⟩

theorem Demands.cons {precondition : Precondition} (demands : edit.Demands value others)
    (holds : precondition.holds) : edit.Demands value (precondition :: others) := by
  constructor
  · simp only [demands.done_iff, List.forall_mem_cons, holds, true_and]
  · intro violation changed
    simp only [demands.refused_iff, Precondition.firstBroken_cons_iff, holds, not_true_eq_false,
      false_and, true_and, false_or]

/-- What is asked for first decides whether the edit goes on. -/
theorem demands_of_run_eq_ite {holds : Prop} [Decidable holds] {violation : Violation}
    {outcome : EStateM.Result Violation σ α}
    (run : edit.run value = if holds then outcome else .error violation value)
    (goesOn : edit.run value = outcome → edit.Demands value others) :
    edit.Demands value (⟨holds, violation⟩ :: others) := by
  by_cases isMet : holds
  · rw [if_pos isMet] at run
    exact (goesOn run).cons isMet
  · rw [if_neg isMet] at run
    exact .of_broken isMet run

end Edit

namespace Statement

open Edit (demands_nil demands_of_run_eq_ite)
open Precondition (hasKind noBlock hasPlace hasChild partIsBlock partIsEmpty isName)

/-- The number of children; only blocks have any. -/
def width (statement : Statement) : Nat :=
  (statement.children?.getD []).length

theorem demands_insertChild (index : Nat) (target child : Statement) :
    (insertChild index).Demands (target, child) [noBlock .insertChild child,
      hasKind .insertChild .block target, hasPlace .insertChild index target.width] := by
  apply demands_of_run_eq_ite (run_insertChild index target child)
  intro run
  cases target with
  | block children => exact .cons (demands_of_run_eq_ite run demands_nil) rfl
  | _ => exact .of_broken nofun run

theorem demands_removeChild (index : Nat) (target : Statement) :
    (removeChild index).Demands target
      [hasKind .removeChild .block target, hasChild .removeChild index target.width] := by
  have run := run_removeChild index target
  cases target with
  | block children =>
      apply Edit.Demands.cons _ rfl
      by_cases inside : index < children.length
      · simp only [List.getElem?_eq_getElem inside] at run
        exact (demands_nil run).cons inside
      · simp only [List.getElem?_eq_none (Nat.le_of_not_lt inside)] at run
        exact .of_broken inside run
  | _ => exact .of_broken nofun run

theorem demands_formIfThen (condition : Condition) (target thenBlock : Statement) :
    (formIfThen condition).Demands (target, thenBlock)
      [partIsBlock .formIfThen .thenBlock thenBlock] :=
  demands_of_run_eq_ite (run_formIfThen condition target thenBlock) demands_nil

theorem demands_formIfElse (condition : Condition) (target thenBlock elseBlock : Statement) :
    (formIfElse condition).Demands (target, thenBlock, elseBlock)
      [partIsBlock .formIfElse .thenBlock thenBlock,
        partIsBlock .formIfElse .elseBlock elseBlock] := by
  apply demands_of_run_eq_ite (run_formIfElse condition target thenBlock elseBlock)
  intro run
  exact demands_of_run_eq_ite run demands_nil

theorem demands_formLoop (condition : Condition) (target body : Statement) :
    (formLoop condition).Demands (target, body) [partIsBlock .formLoop .body body] :=
  demands_of_run_eq_ite (run_formLoop condition target body) demands_nil

theorem demands_formCall (instruction : String) (target : Statement) :
    (formCall instruction).Demands target [isName .formCall instruction] :=
  demands_of_run_eq_ite (run_formCall instruction target) demands_nil

theorem demands_dissolveIfThen (source thenRoom : Statement) :
    dissolveIfThen.Demands (source, thenRoom) [hasKind .dissolveIfThen .ifThen source,
      partIsEmpty .dissolveIfThen .thenBlock thenRoom] := by
  have run := run_dissolveIfThen source thenRoom
  cases source with
  | ifThen condition thenBlock => exact .cons (demands_of_run_eq_ite run demands_nil) rfl
  | _ => exact .of_broken nofun run

theorem demands_dissolveIfElse (source thenRoom elseRoom : Statement) :
    dissolveIfElse.Demands (source, thenRoom, elseRoom) [hasKind .dissolveIfElse .ifElse source,
      partIsEmpty .dissolveIfElse .thenBlock thenRoom,
      partIsEmpty .dissolveIfElse .elseBlock elseRoom] := by
  have run := run_dissolveIfElse source thenRoom elseRoom
  cases source with
  | ifElse condition thenBlock elseBlock =>
      apply Edit.Demands.cons _ rfl
      apply demands_of_run_eq_ite run
      intro goesOn
      exact demands_of_run_eq_ite goesOn demands_nil
  | _ => exact .of_broken nofun run

theorem demands_dissolveLoop (source bodyRoom : Statement) :
    dissolveLoop.Demands (source, bodyRoom) [hasKind .dissolveLoop .loop source,
      partIsEmpty .dissolveLoop .body bodyRoom] := by
  have run := run_dissolveLoop source bodyRoom
  cases source with
  | loop condition body => exact .cons (demands_of_run_eq_ite run demands_nil) rfl
  | _ => exact .of_broken nofun run

theorem demands_dissolveCall (source : Statement) :
    dissolveCall.Demands source [hasKind .dissolveCall .call source] := by
  have run := run_dissolveCall source
  cases source with
  | call instruction => exact (demands_nil run).cons rfl
  | _ => exact .of_broken nofun run

end Statement

end BlockLanguage
