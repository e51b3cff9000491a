import BlockLanguage.Statement.Edit
import BlockLanguage.Statement.WellFormed

/-!
# What edits of statements do

Each edit either ends as its preconditions demand, with everything moved, or with the first
violation and nothing changed.
-/

set_option autoImplicit false

namespace BlockLanguage

namespace Edit

variable {σ τ α : Type}

theorem run_require (precondition : Bool) (violation : Violation) (value : σ) :
    (require precondition violation).run value =
      if precondition then .ok () value else .error violation value := by
  cases precondition with
  | true => rfl
  | false => rfl

theorem run_get_bind (next : σ → Edit σ α) (value : σ) :
    (get >>= next).run value = (next value).run value := rfl

/-- What is behind a precondition is done where it holds. -/
theorem run_require_bind (precondition : Bool) (violation : Violation) (next : Unit → Edit σ α)
    (value : σ) :
    (require precondition violation >>= next).run value =
      if precondition then (next ()).run value else .error violation value := by
  cases precondition with
  | true => rfl
  | false => rfl

theorem make_eq (edit : Edit σ α) (value : σ) :
    edit.make value = match edit.run value with
      | .ok _ changed => .ok changed
      | .error violation _ => .error violation := rfl

theorem make_of_run {edit : Edit σ α} {value changed : σ} {result : α}
    (done : edit.run value = .ok result changed) : edit.make value = .ok changed := by
  rw [make_eq, done]

/-- The edit changes nothing if it ends in a violation. -/
def Atomic (edit : Edit σ α) : Prop :=
  ∀ value violation changed, edit.run value = .error violation changed → changed = value

/-- A property of the edited value that is kept, whether the edit is done or not. -/
def Preserves (edit : Edit σ α) (holds : σ → Prop) : Prop :=
  ∀ ⦃value⦄, holds value → holds (edit.left value)

theorem Atomic.preserves {edit : Edit σ α} (atomic : edit.Atomic) {holds : σ → Prop}
    (done : ∀ ⦃value result changed⦄, holds value → edit.run value = .ok result changed →
      holds changed) : edit.Preserves holds := by
  intro value before
  unfold Edit.left
  cases run : edit.run value with
  | ok result changed => exact done before run
  | error violation changed =>
      rw [atomic value violation changed run]
      exact before

/-- Two values side by side, each with a property of its own. -/
def Both (first : σ → Prop) (second : τ → Prop) (values : σ × τ) : Prop :=
  first values.1 ∧ second values.2

end Edit

namespace Statement

open Edit (Both run_get_bind run_require_bind)

variable {σ α : Type}

theorem run_requireBlock_bind (operation : Operation) (statement : Statement)
    (next : List Statement → Edit σ α) (value : σ) :
    (requireBlock operation statement >>= next).run value = match statement with
      | block children => (next children).run value
      | other => .error (.wrongKind operation .block other.kind) value := by
  cases statement <;> rfl

theorem run_requirePart_bind (operation : Operation) (part : Part) (statement : Statement)
    (next : Unit → Edit σ α) (value : σ) :
    (requirePart operation part statement >>= next).run value =
      if statement.kind = .block then (next ()).run value
      else .error (.partNotBlock operation part statement.kind) value := by
  rw [requirePart, run_require_bind]
  simp only [beq_iff_eq]

theorem run_requireRoom_bind (operation : Operation) (part : Part) (statement : Statement)
    (next : Unit → Edit σ α) (value : σ) :
    (requireRoom operation part statement >>= next).run value =
      if statement = empty then (next ()).run value
      else .error (.partNotEmpty operation part) value := by
  rw [requireRoom, run_require_bind]
  simp only [isEmpty_iff]

theorem run_childCount (target : Statement) :
    childCount.run target = match target with
      | block children => .ok children.length target
      | other => .error (.wrongKind .childCount .block other.kind) target := by
  simp only [childCount, run_get_bind, run_requireBlock_bind]
  cases target <;> rfl

theorem run_insertChild (index : Nat) (target child : Statement) :
    (insertChild index).run (target, child) =
      if child.kind ≠ .block then match target with
        | block children =>
          if index ≤ children.length then
            .ok () (block (children.insertIdx index child), empty)
          else .error (.indexOutOfRange .insertChild index children.length) (target, child)
        | other => .error (.wrongKind .insertChild .block other.kind) (target, child)
      else .error (.blockInBlock .insertChild) (target, child) := by
  simp only [insertChild, run_get_bind, run_require_bind, run_requireBlock_bind, bne_iff_ne,
    insertAt?_eq]
  cases target with
  | block children =>
      by_cases fits : index ≤ children.length
      · simp only [fits, if_true]
        rfl
      · simp only [fits, if_false]
        rfl
  | _ => rfl

theorem run_removeChild (index : Nat) (target : Statement) :
    (removeChild index).run target = match target with
      | block children => match children[index]? with
        | some child => .ok child (block (children.eraseIdx index))
        | none => .error (.indexOutOfRange .removeChild index children.length) target
      | other => .error (.wrongKind .removeChild .block other.kind) target := by
  simp only [removeChild, run_get_bind, run_requireBlock_bind]
  cases target with
  | block children =>
      simp only
      cases children[index]? with
      | some child => rfl
      | none => rfl
  | _ => rfl

theorem run_formIfThen (condition : Condition) (target thenBlock : Statement) :
    (formIfThen condition).run (target, thenBlock) =
      if thenBlock.kind = .block then .ok () (ifThen condition thenBlock, empty)
      else .error (.partNotBlock .formIfThen .thenBlock thenBlock.kind) (target, thenBlock) := by
  simp only [formIfThen, run_get_bind, run_requirePart_bind]
  rfl

theorem run_formIfElse (condition : Condition) (target thenBlock elseBlock : Statement) :
    (formIfElse condition).run (target, thenBlock, elseBlock) =
      if thenBlock.kind = .block then
        if elseBlock.kind = .block then
          .ok () (ifElse condition thenBlock elseBlock, empty, empty)
        else .error (.partNotBlock .formIfElse .elseBlock elseBlock.kind)
          (target, thenBlock, elseBlock)
      else .error (.partNotBlock .formIfElse .thenBlock thenBlock.kind)
        (target, thenBlock, elseBlock) := by
  simp only [formIfElse, run_get_bind, run_requirePart_bind]
  rfl

theorem run_formLoop (condition : Condition) (target body : Statement) :
    (formLoop condition).run (target, body) =
      if body.kind = .block then .ok () (loop condition body, empty)
      else .error (.partNotBlock .formLoop .body body.kind) (target, body) := by
  simp only [formLoop, run_get_bind, run_requirePart_bind]
  rfl

theorem run_formCall (instruction : String) (target : Statement) :
    (formCall instruction).run target =
      if isIdentifier instruction then .ok () (call instruction)
      else .error (.notIdentifier .formCall instruction) target := by
  simp only [formCall, run_require_bind]
  rfl

theorem run_dissolveIfThen (source thenRoom : Statement) :
    dissolveIfThen.run (source, thenRoom) = match source with
      | ifThen condition thenBlock =>
        if thenRoom = empty then .ok condition (empty, thenBlock)
        else .error (.partNotEmpty .dissolveIfThen .thenBlock) (source, thenRoom)
      | other => .error (.wrongKind .dissolveIfThen .ifThen other.kind) (source, thenRoom) := by
  simp only [dissolveIfThen, run_get_bind]
  cases source with
  | ifThen condition thenBlock => exact run_requireRoom_bind ..
  | _ => rfl

theorem run_dissolveIfElse (source thenRoom elseRoom : Statement) :
    dissolveIfElse.run (source, thenRoom, elseRoom) = match source with
      | ifElse condition thenBlock elseBlock =>
        if thenRoom = empty then
          if elseRoom = empty then .ok condition (empty, thenBlock, elseBlock)
          else .error (.partNotEmpty .dissolveIfElse .elseBlock) (source, thenRoom, elseRoom)
        else .error (.partNotEmpty .dissolveIfElse .thenBlock) (source, thenRoom, elseRoom)
      | other =>
        .error (.wrongKind .dissolveIfElse .ifElse other.kind) (source, thenRoom, elseRoom) := by
  simp only [dissolveIfElse, run_get_bind]
  cases source with
  | ifElse condition thenBlock elseBlock =>
      simp only [run_requireRoom_bind]
      rfl
  | _ => rfl

theorem run_dissolveLoop (source bodyRoom : Statement) :
    dissolveLoop.run (source, bodyRoom) = match source with
      | loop condition body =>
        if bodyRoom = empty then .ok condition (empty, body)
        else .error (.partNotEmpty .dissolveLoop .body) (source, bodyRoom)
      | other => .error (.wrongKind .dissolveLoop .loop other.kind) (source, bodyRoom) := by
  simp only [dissolveLoop, run_get_bind]
  cases source with
  | loop condition body => exact run_requireRoom_bind ..
  | _ => rfl

theorem run_dissolveCall (source : Statement) :
    dissolveCall.run source = match source with
      | call instruction => .ok instruction empty
      | other => .error (.wrongKind .dissolveCall .call other.kind) source := by
  simp only [dissolveCall, run_get_bind]
  cases source <;> rfl

/-!
## Edits that are refused
-/

theorem atomic_childCount : childCount.Atomic := by
  intro target violation changed refused
  grind [run_childCount]

theorem atomic_insertChild (index : Nat) : (insertChild index).Atomic := by
  intro ⟨target, child⟩ violation changed refused
  grind [run_insertChild]

theorem atomic_removeChild (index : Nat) : (removeChild index).Atomic := by
  intro target violation changed refused
  grind [run_removeChild]

theorem atomic_formIfThen (condition : Condition) : (formIfThen condition).Atomic := by
  intro ⟨target, thenBlock⟩ violation changed refused
  grind [run_formIfThen]

theorem atomic_formIfElse (condition : Condition) : (formIfElse condition).Atomic := by
  intro ⟨target, thenBlock, elseBlock⟩ violation changed refused
  grind [run_formIfElse]

theorem atomic_formLoop (condition : Condition) : (formLoop condition).Atomic := by
  intro ⟨target, body⟩ violation changed refused
  grind [run_formLoop]

theorem atomic_formCall (instruction : String) : (formCall instruction).Atomic := by
  intro target violation changed refused
  grind [run_formCall]

theorem atomic_dissolveIfThen : dissolveIfThen.Atomic := by
  intro ⟨source, thenRoom⟩ violation changed refused
  grind [run_dissolveIfThen]

theorem atomic_dissolveIfElse : dissolveIfElse.Atomic := by
  intro ⟨source, thenRoom, elseRoom⟩ violation changed refused
  grind [run_dissolveIfElse]

theorem atomic_dissolveLoop : dissolveLoop.Atomic := by
  intro ⟨source, bodyRoom⟩ violation changed refused
  grind [run_dissolveLoop]

theorem atomic_dissolveCall : dissolveCall.Atomic := by
  intro source violation changed refused
  grind [run_dissolveCall]

/-!
## Edits that are done
-/

variable {index : Nat} {condition : Condition} {instruction : String}
  {target child thenBlock elseBlock body source : Statement}

theorem insertChild_eq_ok_iff {made : Statement × Statement} :
    (insertChild index).run (target, child) = .ok () made ↔
      child.kind ≠ .block ∧ ∃ children, target = block children ∧ index ≤ children.length ∧
        made = (block (children.insertIdx index child), empty) := by
  rw [run_insertChild]
  by_cases noBlock : child.kind ≠ .block
  · cases target with
    | block children =>
        by_cases fits : index ≤ children.length
        · simp [noBlock, fits, eq_comm]
        · simp [noBlock, fits]
    | _ => simp [noBlock]
  · simp [noBlock]

theorem removeChild_eq_ok_iff {removed left : Statement} :
    (removeChild index).run target = .ok removed left ↔
      ∃ children, target = block children ∧ children[index]? = some removed ∧
        left = block (children.eraseIdx index) := by
  rw [run_removeChild]
  cases target with
  | block children =>
      cases found : children[index]? with
      | some child => simp [found, eq_comm]
      | none => simp [found]
  | _ => simp

theorem formIfThen_eq_ok_iff {made : Statement × Statement} :
    (formIfThen condition).run (target, thenBlock) = .ok () made ↔
      thenBlock.kind = .block ∧ made = (ifThen condition thenBlock, empty) := by
  rw [run_formIfThen]
  by_cases isBlock : thenBlock.kind = .block
  · simp [isBlock, eq_comm]
  · simp [isBlock]

theorem formIfElse_eq_ok_iff {made : Statement × Statement × Statement} :
    (formIfElse condition).run (target, thenBlock, elseBlock) = .ok () made ↔
      (thenBlock.kind = .block ∧ elseBlock.kind = .block) ∧
        made = (ifElse condition thenBlock elseBlock, empty, empty) := by
  rw [run_formIfElse]
  by_cases thenIsBlock : thenBlock.kind = .block
  · by_cases elseIsBlock : elseBlock.kind = .block
    · simp [thenIsBlock, elseIsBlock, eq_comm]
    · simp [thenIsBlock, elseIsBlock]
  · simp [thenIsBlock]

theorem formLoop_eq_ok_iff {made : Statement × Statement} :
    (formLoop condition).run (target, body) = .ok () made ↔
      body.kind = .block ∧ made = (loop condition body, empty) := by
  rw [run_formLoop]
  by_cases isBlock : body.kind = .block
  · simp [isBlock, eq_comm]
  · simp [isBlock]

theorem formCall_eq_ok_iff {made : Statement} :
    (formCall instruction).run target = .ok () made ↔
      isIdentifier instruction = true ∧ made = call instruction := by
  rw [run_formCall]
  cases isIdentifier instruction with
  | true => simp [eq_comm]
  | false => simp

theorem dissolveIfThen_eq_ok_iff {thenRoom : Statement} {left : Statement × Statement} :
    dissolveIfThen.run (source, thenRoom) = .ok condition left ↔
      ∃ thenBlock, source = ifThen condition thenBlock ∧ thenRoom = empty ∧
        left = (empty, thenBlock) := by
  rw [run_dissolveIfThen]
  cases source with
  | ifThen guard thenBlock =>
      by_cases hasRoom : thenRoom = empty
      · simp [hasRoom, and_assoc, eq_comm]
      · simp [hasRoom]
  | _ => simp

theorem dissolveIfElse_eq_ok_iff {thenRoom elseRoom : Statement}
    {left : Statement × Statement × Statement} :
    dissolveIfElse.run (source, thenRoom, elseRoom) = .ok condition left ↔
      ∃ thenBlock elseBlock, source = ifElse condition thenBlock elseBlock ∧
        (thenRoom = empty ∧ elseRoom = empty) ∧ left = (empty, thenBlock, elseBlock) := by
  rw [run_dissolveIfElse]
  cases source with
  | ifElse guard thenBlock elseBlock =>
      by_cases hasThenRoom : thenRoom = empty
      · by_cases hasElseRoom : elseRoom = empty
        · simp [hasThenRoom, hasElseRoom, and_assoc, eq_comm]
        · simp [hasThenRoom, hasElseRoom]
      · simp [hasThenRoom]
  | _ => simp

theorem dissolveLoop_eq_ok_iff {bodyRoom : Statement} {left : Statement × Statement} :
    dissolveLoop.run (source, bodyRoom) = .ok condition left ↔
      ∃ body, source = loop condition body ∧ bodyRoom = empty ∧ left = (empty, body) := by
  rw [run_dissolveLoop]
  cases source with
  | loop guard body =>
      by_cases hasRoom : bodyRoom = empty
      · simp [hasRoom, and_assoc, eq_comm]
      · simp [hasRoom]
  | _ => simp

theorem dissolveCall_eq_ok_iff {left : Statement} :
    dissolveCall.run source = .ok instruction left ↔
      source = call instruction ∧ left = empty := by
  rw [run_dissolveCall]
  cases source with
  | call name => simp [eq_comm]
  | _ => simp

/-!
## Edits of well-formed statements
-/

theorem preserves_childCount : childCount.Preserves WellFormed := by
  refine atomic_childCount.preserves ?_
  intro target count left wellFormed done
  rw [run_childCount] at done
  cases target with
  | block children =>
      cases done
      exact wellFormed
  | _ => cases done

theorem preserves_insertChild (index : Nat) :
    (insertChild index).Preserves (Both WellFormed WellFormed) := by
  refine (atomic_insertChild index).preserves ?_
  intro ⟨target, child⟩ _ made ⟨wellFormed, childWellFormed⟩ done
  obtain ⟨noBlock, children, rfl, fits, rfl⟩ := insertChild_eq_ok_iff.mp done
  refine ⟨wellFormed_block_iff.mpr ?_, wellFormed_empty⟩
  intro other member
  rcases (List.mem_insertIdx fits).mp member with rfl | member
  · exact ⟨noBlock, childWellFormed⟩
  · exact wellFormed_block_iff.mp wellFormed other member

theorem preserves_removeChild (index : Nat) : (removeChild index).Preserves WellFormed := by
  refine (atomic_removeChild index).preserves ?_
  intro target removed left wellFormed done
  obtain ⟨children, rfl, _, rfl⟩ := removeChild_eq_ok_iff.mp done
  apply wellFormed_block_iff.mpr
  intro child member
  exact wellFormed_block_iff.mp wellFormed child (List.mem_of_mem_eraseIdx member)

/-- What comes out of a well-formed block is well-formed itself. -/
theorem wellFormed_removed {removed left : Statement} (wellFormed : target.WellFormed)
    (done : (removeChild index).run target = .ok removed left) : removed.WellFormed := by
  obtain ⟨children, rfl, found, _⟩ := removeChild_eq_ok_iff.mp done
  exact (wellFormed_block_iff.mp wellFormed removed (List.mem_of_getElem? found)).2

theorem preserves_formIfThen (condition : Condition) :
    (formIfThen condition).Preserves (Both WellFormed WellFormed) := by
  refine (atomic_formIfThen condition).preserves ?_
  intro ⟨target, thenBlock⟩ _ made ⟨_, wellFormed⟩ done
  obtain ⟨isBlock, rfl⟩ := formIfThen_eq_ok_iff.mp done
  exact ⟨.ifThen isBlock wellFormed, wellFormed_empty⟩

theorem preserves_formIfElse (condition : Condition) :
    (formIfElse condition).Preserves (Both WellFormed (Both WellFormed WellFormed)) := by
  refine (atomic_formIfElse condition).preserves ?_
  intro ⟨target, thenBlock, elseBlock⟩ _ made ⟨_, thenWellFormed, elseWellFormed⟩ done
  obtain ⟨⟨thenIsBlock, elseIsBlock⟩, rfl⟩ := formIfElse_eq_ok_iff.mp done
  exact ⟨.ifElse thenIsBlock thenWellFormed elseIsBlock elseWellFormed, wellFormed_empty,
    wellFormed_empty⟩

theorem preserves_formLoop (condition : Condition) :
    (formLoop condition).Preserves (Both WellFormed WellFormed) := by
  refine (atomic_formLoop condition).preserves ?_
  intro ⟨target, body⟩ _ made ⟨_, wellFormed⟩ done
  obtain ⟨isBlock, rfl⟩ := formLoop_eq_ok_iff.mp done
  exact ⟨.loop isBlock wellFormed, wellFormed_empty⟩

theorem preserves_formCall (instruction : String) :
    (formCall instruction).Preserves WellFormed := by
  refine (atomic_formCall instruction).preserves ?_
  intro target _ made _ done
  obtain ⟨isName, rfl⟩ := formCall_eq_ok_iff.mp done
  exact .call isName

theorem preserves_dissolveIfThen : dissolveIfThen.Preserves (Both WellFormed WellFormed) := by
  refine atomic_dissolveIfThen.preserves ?_
  intro ⟨source, thenRoom⟩ _ left ⟨wellFormed, _⟩ done
  obtain ⟨thenBlock, rfl, _, rfl⟩ := dissolveIfThen_eq_ok_iff.mp done
  cases wellFormed with
  | ifThen _ partWellFormed => exact ⟨wellFormed_empty, partWellFormed⟩

theorem preserves_dissolveIfElse :
    dissolveIfElse.Preserves (Both WellFormed (Both WellFormed WellFormed)) := by
  refine atomic_dissolveIfElse.preserves ?_
  intro ⟨source, thenRoom, elseRoom⟩ _ left ⟨wellFormed, _⟩ done
  obtain ⟨thenBlock, elseBlock, rfl, _, rfl⟩ := dissolveIfElse_eq_ok_iff.mp done
  cases wellFormed with
  | ifElse _ thenWellFormed _ elseWellFormed =>
      exact ⟨wellFormed_empty, thenWellFormed, elseWellFormed⟩

theorem preserves_dissolveLoop : dissolveLoop.Preserves (Both WellFormed WellFormed) := by
  refine atomic_dissolveLoop.preserves ?_
  intro ⟨source, bodyRoom⟩ _ left ⟨wellFormed, _⟩ done
  obtain ⟨body, rfl, _, rfl⟩ := dissolveLoop_eq_ok_iff.mp done
  cases wellFormed with
  | loop _ partWellFormed => exact ⟨wellFormed_empty, partWellFormed⟩

theorem preserves_dissolveCall : dissolveCall.Preserves WellFormed := by
  refine atomic_dissolveCall.preserves ?_
  intro source _ left _ done
  obtain ⟨_, rfl⟩ := dissolveCall_eq_ok_iff.mp done
  exact wellFormed_empty

end Statement

end BlockLanguage
