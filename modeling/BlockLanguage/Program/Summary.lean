import BlockLanguage.Edit
import BlockLanguage.Program.Basic
import BlockLanguage.Statement.Edit

/-!
# Summaries of programs

A summary names a program and its instructions and counts the statements directly inside each
body. It has no answer for a program with a body that is no block.
-/

set_option autoImplicit false

namespace BlockLanguage

/-- The number of statements in the body of an instruction or program. -/
def statementCount (body : Statement) : Except Violation Nat :=
  Statement.childCount.result body

def summaryLine (name : String) (body : Statement) : Except Violation String := do
  let count ← statementCount body
  return "  " ++ name ++ " (" ++ toString count ++ " statements)"

namespace Program

/-- What a program consists of, without a line break at the end. -/
def summary (program : Program) : Except Violation String := do
  let instructions ← program.context.entries.mapM fun (name, body) => summaryLine name body
  let count ← statementCount program.body
  return String.intercalate "\n" <|
    ["Program: " ++ program.name, "Instructions: " ++ toString program.context.size] ++
      instructions ++ ["Body: " ++ toString count ++ " statements"]

end Program

end BlockLanguage
