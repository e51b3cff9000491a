import BlockLanguage.Statement.Basic
import BlockLanguage.Text.Quoted

/-!
# Violated preconditions

Edits of statements and programs have preconditions. A violation names the operation that was
refused and the precondition that its caller broke.
-/

set_option autoImplicit false

namespace BlockLanguage

/-- The operations that refuse some arguments. -/
inductive Operation where
  | childCount
  | insertChild
  | removeChild
  | formIfThen
  | formIfElse
  | formLoop
  | formCall
  | dissolveIfThen
  | dissolveIfElse
  | dissolveLoop
  | dissolveCall
  | rename
  | exchangeContext
  | exchangeBody
  deriving DecidableEq, Repr

/-- What messages call an operation. -/
def Operation.name : Operation → String
  | childCount => "length_of_block"
  | insertChild => "add_to_block"
  | removeChild => "remove_from_block"
  | formIfThen => "assemble_if"
  | formIfElse => "assemble_if_else"
  | formLoop => "assemble_while"
  | formCall => "assemble_call"
  | dissolveIfThen => "disassemble_if"
  | dissolveIfElse => "disassemble_if_else"
  | dissolveLoop => "disassemble_while"
  | dissolveCall => "disassemble_call"
  | rename => "set_name"
  | exchangeContext => "swap_context"
  | exchangeBody => "swap_body"

/-- The parts of a conditional or loop that an operation takes or hands out. -/
inductive Part where
  | thenBlock
  | elseBlock
  | body
  deriving DecidableEq, Repr

def Part.name : Part → String
  | thenBlock => "then_block"
  | elseBlock => "else_block"
  | body => "body"

inductive Violation where
  | wrongKind (operation : Operation) (expected found : Kind)
  /-- A block was to be put directly inside a block. -/
  | blockInBlock (operation : Operation)
  | indexOutOfRange (operation : Operation) (index length : Nat)
  | partNotBlock (operation : Operation) (part : Part) (found : Kind)
  | partNotEmpty (operation : Operation) (part : Part)
  | notIdentifier (operation : Operation) (name : String)
  /-- An instruction may not have this name. -/
  | instructionName (operation : Operation) (name : String)
  | instructionBody (operation : Operation) (name : String) (found : Kind)
  deriving DecidableEq, Repr

def Violation.message : Violation → String
  | wrongKind operation expected found =>
    operation.name ++ " requires a " ++ expected.name ++ " statement, found " ++ found.name ++ "."
  | blockInBlock operation =>
    operation.name ++ " cannot nest a BLOCK statement directly inside a block."
  | indexOutOfRange operation index length =>
    operation.name ++ " index " ++ toString index ++ " out of range for block of length " ++
      toString length ++ "."
  | partNotBlock operation part found =>
    operation.name ++ " requires " ++ part.name ++ " to be a BLOCK statement, found " ++
      found.name ++ "."
  | partNotEmpty operation part =>
    operation.name ++ " requires " ++ part.name ++ " to be an empty block."
  | notIdentifier operation name =>
    operation.name ++ " requires a valid identifier, found " ++ Text.quote name ++ "."
  | instructionName operation name =>
    operation.name ++ " requires instruction names to be non-primitive identifiers, found " ++
      Text.quote name ++ "."
  | instructionBody operation name found =>
    operation.name ++ " requires the body of " ++ Text.quote name ++
      " to be a BLOCK statement, found " ++ found.name ++ "."

end BlockLanguage
