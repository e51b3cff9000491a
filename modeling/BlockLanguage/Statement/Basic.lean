import BlockLanguage.Vocabulary

/-!
# Statements

A statement is a tree: a block holds statements in order, conditionals and loops hold blocks, and
calls are the leaves. The type itself admits more trees than programs may contain, for instance a
block directly inside a block; which trees programs may contain is a matter of well-formedness.
-/

set_option autoImplicit false

namespace BlockLanguage

inductive Statement where
  | block (children : List Statement)
  | ifThen (condition : Condition) (thenBlock : Statement)
  | ifElse (condition : Condition) (thenBlock elseBlock : Statement)
  | loop (condition : Condition) (body : Statement)
  | call (instruction : String)
  deriving Repr

/-- The shape of the top of a statement tree. -/
inductive Kind where
  | block
  | ifThen
  | ifElse
  | loop
  | call
  deriving DecidableEq, Repr

def Kind.name : Kind → String
  | block => "BLOCK"
  | ifThen => "IF"
  | ifElse => "IF_ELSE"
  | loop => "WHILE"
  | call => "CALL"

namespace Statement

def empty : Statement := .block []

instance : Inhabited Statement := ⟨empty⟩

def kind : Statement → Kind
  | block _ => .block
  | ifThen _ _ => .ifThen
  | ifElse _ _ _ => .ifElse
  | loop _ _ => .loop
  | call _ => .call

def isEmpty : Statement → Bool
  | block [] => true
  | _ => false

def children? : Statement → Option (List Statement)
  | block children => some children
  | _ => none

def reversed : Statement → Statement
  | block children => block children.reverse
  | other => other

theorem isEmpty_iff {statement : Statement} :
    statement.isEmpty = true ↔ statement = empty := by
  unfold isEmpty empty
  split <;> simp_all

theorem kind_eq_block_iff {statement : Statement} :
    statement.kind = .block ↔ ∃ children, statement = .block children := by
  cases statement <;> simp [kind]

/-- A property holds of every statement if it passes from the parts of a statement to the
whole. -/
@[elab_as_elim, induction_eliminator]
theorem induct {motive : Statement → Prop}
    (block : ∀ children, (∀ child ∈ children, motive child) → motive (.block children))
    (ifThen : ∀ condition thenBlock, motive thenBlock → motive (.ifThen condition thenBlock))
    (ifElse : ∀ condition thenBlock elseBlock, motive thenBlock → motive elseBlock →
      motive (.ifElse condition thenBlock elseBlock))
    (loop : ∀ condition body, motive body → motive (.loop condition body))
    (call : ∀ instruction, motive (.call instruction)) (statement : Statement) :
    motive statement :=
  Statement.rec (motive_1 := motive) (motive_2 := fun children => ∀ child ∈ children, motive child)
    block ifThen ifElse loop call (fun _ member => nomatch member)
    (fun _ _ head tail => List.forall_mem_cons.mpr ⟨head, tail⟩) statement

mutual

def same : Statement → Statement → Bool
  | .block left, .block right => sameAll left right
  | .ifThen leftCondition left, .ifThen rightCondition right =>
    leftCondition == rightCondition && same left right
  | .ifElse leftCondition leftThen leftElse, .ifElse rightCondition rightThen rightElse =>
    leftCondition == rightCondition && same leftThen rightThen && same leftElse rightElse
  | .loop leftCondition left, .loop rightCondition right =>
    leftCondition == rightCondition && same left right
  | .call left, .call right => left == right
  | _, _ => false

def sameAll : List Statement → List Statement → Bool
  | [], [] => true
  | left :: lefts, right :: rights => same left right && sameAll lefts rights
  | _, _ => false

end

private theorem sameAll_iff {lefts rights : List Statement}
    (agree : ∀ left ∈ lefts, ∀ right, same left right = true ↔ left = right) :
    sameAll lefts rights = true ↔ lefts = rights := by
  induction lefts generalizing rights with
  | nil => cases rights <;> simp [sameAll]
  | cons left lefts ih =>
      rw [List.forall_mem_cons] at agree
      cases rights with
      | nil => simp [sameAll]
      | cons right rights => simp [sameAll, agree.1 right, ih agree.2]

theorem same_iff {left right : Statement} : same left right = true ↔ left = right := by
  induction left generalizing right with
  | block children ih =>
      cases right <;> simp [same, sameAll_iff fun child member _ => ih child member]
  | ifThen condition thenBlock ih => cases right <;> simp [same, ih]
  | ifElse condition thenBlock elseBlock thenIH elseIH =>
      cases right <;> simp [same, thenIH, elseIH, and_assoc]
  | loop condition body ih => cases right <;> simp [same, ih]
  | call instruction => cases right <;> simp [same]

instance : DecidableEq Statement := fun _ _ => decidable_of_iff _ same_iff

end Statement

end BlockLanguage
