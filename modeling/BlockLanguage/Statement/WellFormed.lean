import BlockLanguage.Statement.Basic
import BlockLanguage.Token.Identifier

/-!
# Well-formed statements

The trees that programs may contain: blocks do not hold blocks directly, conditionals and loops
hold blocks, and calls name identifiers. How deeply conditionals and loops nest is counted apart,
since trees of any depth are well-formed.
-/

set_option autoImplicit false

namespace BlockLanguage.Statement

/-- Well-formedness at every level of a tree. -/
inductive WellFormed : Statement → Prop where
  | block {children} : (∀ child ∈ children, child.kind ≠ .block) →
      (∀ child ∈ children, WellFormed child) → WellFormed (.block children)
  | ifThen {condition thenBlock} : thenBlock.kind = .block → WellFormed thenBlock →
      WellFormed (.ifThen condition thenBlock)
  | ifElse {condition thenBlock elseBlock} : thenBlock.kind = .block → WellFormed thenBlock →
      elseBlock.kind = .block → WellFormed elseBlock →
      WellFormed (.ifElse condition thenBlock elseBlock)
  | loop {condition body} : body.kind = .block → WellFormed body →
      WellFormed (.loop condition body)
  | call {instruction} : isIdentifier instruction = true → WellFormed (.call instruction)

/-- A block that stands in a program. -/
def IsBody (statement : Statement) : Prop :=
  statement.kind = .block ∧ statement.WellFormed

mutual

/-- The length of the longest chain of conditionals and loops inside each other. -/
def nesting : Statement → Nat
  | block children => nestingOfAll children
  | ifThen _ thenBlock => nesting thenBlock + 1
  | ifElse _ thenBlock elseBlock => max (nesting thenBlock) (nesting elseBlock) + 1
  | loop _ body => nesting body + 1
  | call _ => 0

/-- The longest chain in any of the statements. -/
def nestingOfAll : List Statement → Nat
  | [] => 0
  | first :: rest => max (nesting first) (nestingOfAll rest)

end

mutual

/-- The names of the instructions that a statement calls, in order. -/
def calls : Statement → List String
  | block children => callsOfAll children
  | ifThen _ thenBlock => calls thenBlock
  | ifElse _ thenBlock elseBlock => calls thenBlock ++ calls elseBlock
  | loop _ body => calls body
  | call instruction => [instruction]

def callsOfAll : List Statement → List String
  | [] => []
  | first :: rest => calls first ++ callsOfAll rest

end

mutual

/-- The well-shaped statements that print like the statement, one after the other. -/
def flatten : Statement → List Statement
  | block children => flattenAll children
  | ifThen condition thenBlock => [.ifThen condition (.block (flatten thenBlock))]
  | ifElse condition thenBlock elseBlock =>
    [.ifElse condition (.block (flatten thenBlock)) (.block (flatten elseBlock))]
  | loop condition body => [.loop condition (.block (flatten body))]
  | call instruction => [.call instruction]

def flattenAll : List Statement → List Statement
  | [] => []
  | first :: rest => flatten first ++ flattenAll rest

end

/-- The block that prints like the statement and has blocks only where they belong. -/
def normal (statement : Statement) : Statement :=
  .block statement.flatten

theorem wellFormed_empty : empty.WellFormed :=
  .block (fun _ member => nomatch member) (fun _ member => nomatch member)

/-- Whether a statement calls only what identifiers name. -/
def CallsIdentifiers (statement : Statement) : Prop :=
  ∀ name ∈ statement.calls, isIdentifier name = true

theorem wellFormed_block_iff {children : List Statement} :
    WellFormed (.block children) ↔
      ∀ child ∈ children, child.kind ≠ .block ∧ child.WellFormed := by
  constructor
  · intro wellFormed child member
    cases wellFormed with
    | block noBlocks wellFormed => exact ⟨noBlocks child member, wellFormed child member⟩
  · intro each
    exact .block (fun child member => (each child member).1)
      (fun child member => (each child member).2)

theorem wellFormed_block_cons_iff {child : Statement} {children : List Statement} :
    WellFormed (.block (child :: children)) ↔
      (child.kind ≠ .block ∧ child.WellFormed) ∧ WellFormed (.block children) := by
  rw [wellFormed_block_iff, wellFormed_block_iff, List.forall_mem_cons]

end BlockLanguage.Statement
