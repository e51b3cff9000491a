import BlockLanguage.Edit
import BlockLanguage.Statement.Basic
import BlockLanguage.Token.Identifier

/-!
# Edits of statements

Statements are put together and taken apart by moving their parts: a statement that gives a part
away is left as the empty block, and a statement that receives one loses what it held. All
preconditions are checked before anything is moved.

An edit works on a tuple: the statement that it is about comes first, the givers or receivers of
parts follow.
-/

set_option autoImplicit false

namespace BlockLanguage.Statement

open Edit (require)

variable {σ : Type}

/-- The children of a block; other statements have none. -/
def requireBlock (operation : Operation) : Statement → Edit σ (List Statement)
  | block children => pure children
  | other => throw (.wrongKind operation .block other.kind)

def childCount : Edit Statement Nat := do
  let children ← requireBlock .childCount (← get)
  return children.length

/-- The list with an element put in front of the place at the index, if there is such a place. -/
def insertAt? {α : Type} (element : α) : (index : Nat) → List α → Option (List α)
  | 0, list => some (element :: list)
  | _ + 1, [] => none
  | index + 1, head :: tail => (insertAt? element index tail).map (head :: ·)

theorem insertAt?_eq {α : Type} (element : α) (index : Nat) (list : List α) :
    insertAt? element index list =
      if index ≤ list.length then some (list.insertIdx index element) else none := by
  induction index generalizing list with
  | zero => simp [insertAt?]
  | succ index ih =>
      cases list with
      | nil => simp [insertAt?]
      | cons head tail =>
          by_cases fits : index ≤ tail.length <;> simp [insertAt?, ih, fits]

/-- Moves the second statement into the first one, a block, in front of the child at the
index. -/
def insertChild (index : Nat) : Edit (Statement × Statement) Unit := do
  let (target, child) ← get
  require (child.kind != .block) (.blockInBlock .insertChild)
  let children ← requireBlock .insertChild target
  match insertAt? child index children with
  | some grown => set (block grown, empty)
  | none => throw (.indexOutOfRange .insertChild index children.length)

/-- Moves the child at the index out of a block. -/
def removeChild (index : Nat) : Edit Statement Statement := do
  let children ← requireBlock .removeChild (← get)
  match children[index]? with
  | some child =>
    set (block (children.eraseIdx index))
    return child
  | none => throw (.indexOutOfRange .removeChild index children.length)

/-- A part that goes into a conditional or a loop is a block. -/
def requirePart (operation : Operation) (part : Part) (statement : Statement) : Edit σ Unit :=
  require (statement.kind == .block) (.partNotBlock operation part statement.kind)

/-- The place that receives a part is empty. -/
def requireRoom (operation : Operation) (part : Part) (statement : Statement) : Edit σ Unit :=
  require statement.isEmpty (.partNotEmpty operation part)

/-- Turns the first statement into a conditional around the second one. -/
def formIfThen (condition : Condition) : Edit (Statement × Statement) Unit := do
  let (_, thenBlock) ← get
  requirePart .formIfThen .thenBlock thenBlock
  set (ifThen condition thenBlock, empty)

/-- Takes a conditional apart, its block going to the second statement. -/
def dissolveIfThen : Edit (Statement × Statement) Condition := do
  let (source, thenRoom) ← get
  match source with
  | ifThen condition thenBlock =>
    requireRoom .dissolveIfThen .thenBlock thenRoom
    set (empty, thenBlock)
    return condition
  | other => throw (.wrongKind .dissolveIfThen .ifThen other.kind)

/-- Turns the first statement into a conditional that holds the second one for the case that
the condition is met, and the third one for the case that it is not. -/
def formIfElse (condition : Condition) :
    Edit (Statement × Statement × Statement) Unit := do
  let (_, thenBlock, elseBlock) ← get
  requirePart .formIfElse .thenBlock thenBlock
  requirePart .formIfElse .elseBlock elseBlock
  set (ifElse condition thenBlock elseBlock, empty, empty)

/-- Takes a conditional with two blocks apart, in the same order. -/
def dissolveIfElse : Edit (Statement × Statement × Statement) Condition := do
  let (source, thenRoom, elseRoom) ← get
  match source with
  | ifElse condition thenBlock elseBlock =>
    requireRoom .dissolveIfElse .thenBlock thenRoom
    requireRoom .dissolveIfElse .elseBlock elseRoom
    set (empty, thenBlock, elseBlock)
    return condition
  | other => throw (.wrongKind .dissolveIfElse .ifElse other.kind)

def formLoop (condition : Condition) : Edit (Statement × Statement) Unit := do
  let (_, body) ← get
  requirePart .formLoop .body body
  set (loop condition body, empty)

/-- Takes a loop apart, its body going to the second statement. -/
def dissolveLoop : Edit (Statement × Statement) Condition := do
  let (source, bodyRoom) ← get
  match source with
  | loop condition body =>
    requireRoom .dissolveLoop .body bodyRoom
    set (empty, body)
    return condition
  | other => throw (.wrongKind .dissolveLoop .loop other.kind)

def formCall (instruction : String) : Edit Statement Unit := do
  require (isIdentifier instruction) (.notIdentifier .formCall instruction)
  set (call instruction)

def dissolveCall : Edit Statement String := do
  match ← get with
  | call instruction =>
    set empty
    return instruction
  | other => throw (.wrongKind .dissolveCall .call other.kind)

end BlockLanguage.Statement
