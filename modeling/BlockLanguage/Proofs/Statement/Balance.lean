import BlockLanguage.Proofs.NameMap
import BlockLanguage.Proofs.Program.Edit

/-!
# Nothing lost, nothing doubled

Nodes of a statement tree are told apart by their labels. An edit moves nodes from one value to
another: it neither loses nor doubles any, apart from the node that it forms or dissolves and
from what the receiving statement held before.
-/

set_option autoImplicit false

namespace BlockLanguage

/-- What a node of a statement tree is, whatever is below it. Blocks only hold nodes. -/
inductive Label where
  | ifThen (condition : Condition)
  | ifElse (condition : Condition)
  | loop (condition : Condition)
  | call (instruction : String)
  deriving DecidableEq, Repr

namespace Statement

mutual

/-- The labels of all nodes of a statement, at every depth. -/
def labels : Statement → List Label
  | block children => labelsOfAll children
  | ifThen condition thenBlock => .ifThen condition :: labels thenBlock
  | ifElse condition thenBlock elseBlock =>
    .ifElse condition :: (labels thenBlock ++ labels elseBlock)
  | loop condition body => .loop condition :: labels body
  | call instruction => [.call instruction]

def labelsOfAll : List Statement → List Label
  | [] => []
  | first :: rest => labels first ++ labelsOfAll rest

end

/-- How many nodes of a statement have the label. -/
def count (label : Label) (statement : Statement) : Nat :=
  statement.labels.count label

end Statement

/-- One for the label, nothing for any other one. -/
def Label.one (label other : Label) : Nat :=
  if other = label then 1 else 0

namespace Statement

variable {label : Label} {children : List Statement}

@[simp] theorem count_block_cons {child : Statement} :
    count label (block (child :: children)) =
      count label child + count label (block children) := by
  simp only [count, labels, labelsOfAll, List.count_append]

@[simp] theorem count_empty : count label empty = 0 := rfl

@[simp] theorem count_ifThen {condition : Condition} {thenBlock : Statement} :
    count label (ifThen condition thenBlock) =
      count label thenBlock + label.one (.ifThen condition) := by
  simp [count, labels, List.count_cons, Label.one]

@[simp] theorem count_ifElse {condition : Condition} {thenBlock elseBlock : Statement} :
    count label (ifElse condition thenBlock elseBlock) =
      count label thenBlock + count label elseBlock + label.one (.ifElse condition) := by
  simp [count, labels, List.count_cons, Label.one]

@[simp] theorem count_loop {condition : Condition} {body : Statement} :
    count label (loop condition body) = count label body + label.one (.loop condition) := by
  simp [count, labels, List.count_cons, Label.one]

@[simp] theorem count_call {instruction : String} :
    count label (call instruction) = label.one (.call instruction) := by
  simp [count, labels, List.count_cons, Label.one]

theorem count_insertIdx {index : Nat} (fits : index ≤ children.length) (child : Statement) :
    count label (block (children.insertIdx index child)) =
      count label (block children) + count label child := by
  induction children generalizing index with
  | nil =>
      obtain rfl : index = 0 := Nat.le_zero.mp fits
      simp [Nat.add_comm]
  | cons first others ih =>
      cases index with
      | zero => simp [Nat.add_comm]
      | succ index =>
          have fromOthers := ih (Nat.le_of_succ_le_succ fits)
          simp only [List.insertIdx_succ_cons, count_block_cons, fromOthers, Nat.add_assoc]

theorem count_eraseIdx {index : Nat} {removed : Statement}
    (found : children[index]? = some removed) :
    count label (block (children.eraseIdx index)) + count label removed =
      count label (block children) := by
  induction children generalizing index with
  | nil => cases found
  | cons first others ih =>
      cases index with
      | zero =>
          cases found
          simp [Nat.add_comm]
      | succ index =>
          have fromOthers := ih found
          simp only [List.eraseIdx_cons_succ, count_block_cons]
          omega

end Statement

/-!
## Edits
-/

namespace Edit

variable {σ τ α : Type}

/-- Where the edit is done, what it leaves measures as much as what it was given. -/
def Balances (edit : Edit σ α) (given : σ → Nat) (left : α → σ → Nat) : Prop :=
  ∀ ⦃value result changed⦄, edit.run value = .ok result changed →
    left result changed = given value

/-- Two values side by side, measured together. -/
def together (first : σ → Nat) (second : τ → Nat) (values : σ × τ) : Nat :=
  first values.1 + second values.2

end Edit

open Edit (together)

/-- What edits do to the number of nodes with a label. The receiver of parts is the only value
that loses what it held. -/
structure Statement.EditsBalance (label : Label) : Prop where
  insertChild : ∀ index, (insertChild index).Balances
    (together (count label) (count label)) fun _ => together (count label) (count label)
  removeChild : ∀ index, (removeChild index).Balances
    (count label) fun removed left => count label left + count label removed
  formIfThen : ∀ condition, (formIfThen condition).Balances
    (fun value => count label value.2 + label.one (.ifThen condition))
    fun _ => together (count label) (count label)
  formIfElse : ∀ condition, (formIfElse condition).Balances
    (fun value => together (count label) (count label) value.2 + label.one (.ifElse condition))
    fun _ => together (count label) (together (count label) (count label))
  formLoop : ∀ condition, (formLoop condition).Balances
    (fun value => count label value.2 + label.one (.loop condition))
    fun _ => together (count label) (count label)
  formCall : ∀ instruction, (formCall instruction).Balances
    (fun _ => label.one (.call instruction)) fun _ => count label
  dissolveIfThen : dissolveIfThen.Balances (fun value => count label value.1)
    fun condition left =>
      together (count label) (count label) left + label.one (.ifThen condition)
  dissolveIfElse : dissolveIfElse.Balances (fun value => count label value.1)
    fun condition left =>
      together (count label) (together (count label) (count label)) left +
        label.one (.ifElse condition)
  dissolveLoop : dissolveLoop.Balances (fun value => count label value.1)
    fun condition left =>
      together (count label) (count label) left + label.one (.loop condition)
  dissolveCall : dissolveCall.Balances (count label)
    fun instruction left => count label left + label.one (.call instruction)

theorem Statement.editsBalance (label : Label) : EditsBalance label where
  insertChild index := by
    intro ⟨target, child⟩ _ made done
    obtain ⟨_, children, rfl, fits, rfl⟩ := insertChild_eq_ok_iff.mp done
    simp only [together, count_insertIdx fits, count_empty, Nat.add_zero]
  removeChild index := by
    intro target removed left done
    obtain ⟨children, rfl, found, rfl⟩ := removeChild_eq_ok_iff.mp done
    exact count_eraseIdx found
  formIfThen condition := by
    intro ⟨target, thenBlock⟩ _ made done
    obtain ⟨_, rfl⟩ := formIfThen_eq_ok_iff.mp done
    simp [together]
  formIfElse condition := by
    intro ⟨target, thenBlock, elseBlock⟩ _ made done
    obtain ⟨_, rfl⟩ := formIfElse_eq_ok_iff.mp done
    simp [together]
  formLoop condition := by
    intro ⟨target, body⟩ _ made done
    obtain ⟨_, rfl⟩ := formLoop_eq_ok_iff.mp done
    simp [together]
  formCall instruction := by
    intro target _ made done
    obtain ⟨_, rfl⟩ := formCall_eq_ok_iff.mp done
    exact count_call
  dissolveIfThen := by
    intro ⟨source, thenRoom⟩ condition left done
    obtain ⟨thenBlock, rfl, _, rfl⟩ := dissolveIfThen_eq_ok_iff.mp done
    simp [together]
  dissolveIfElse := by
    intro ⟨source, thenRoom, elseRoom⟩ condition left done
    obtain ⟨thenBlock, elseBlock, rfl, _, rfl⟩ := dissolveIfElse_eq_ok_iff.mp done
    simp [together]
  dissolveLoop := by
    intro ⟨source, bodyRoom⟩ condition left done
    obtain ⟨body, rfl, _, rfl⟩ := dissolveLoop_eq_ok_iff.mp done
    simp [together]
  dissolveCall := by
    intro source instruction left done
    obtain ⟨rfl, rfl⟩ := dissolveCall_eq_ok_iff.mp done
    simp

/-!
## Contexts and programs
-/

def Context.count (label : Label) (context : Context) : Nat :=
  context.total (Statement.count label)

theorem Context.count_empty {label : Label} : Context.count label NameMap.empty = 0 := rfl

def Program.count (label : Label) (program : Program) : Nat :=
  program.context.count label + program.body.count label

theorem Program.count_empty {label : Label} : empty.count label = 0 := rfl

/-- The edits of programs move statements as they are: one value comes in for another one. -/
structure Program.EditsExchange : Prop where
  exchangeContext : ∀ ⦃program incoming made⦄,
    exchangeContext.run (program, incoming) = .ok () made →
      made = ({ program with context := incoming }, program.context)
  exchangeBody : ∀ ⦃program incoming made⦄,
    exchangeBody.run (program, incoming) = .ok () made →
      made = ({ program with body := incoming }, program.body)

theorem Program.editsExchange : EditsExchange where
  exchangeContext _ _ _ done := (make_exchangeContext_eq_ok_iff.mp (Edit.make_of_run done)).2
  exchangeBody _ _ _ done := (make_exchangeBody_eq_ok_iff.mp (Edit.make_of_run done)).2

end BlockLanguage
