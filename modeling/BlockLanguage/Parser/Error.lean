import BlockLanguage.Text.Quoted
import BlockLanguage.Token.Basic
import BlockLanguage.Violation
import BlockLanguage.Vocabulary

/-!
# Parse errors

Why tokens are not a statement, block or program. Each error names the line of the token that is
at fault, unless the tokens end too early.
-/

set_option autoImplicit false

namespace BlockLanguage

/-- What may come next in a text that ends too early. -/
inductive Expectation where
  | tokenClass (expected : TokenClass)
  | keyword (expected : Keyword)
  | statement
  deriving DecidableEq, Repr

def Expectation.describe : Expectation → String
  | tokenClass expected => expected.name
  | keyword expected => Text.quote expected.spelling
  | statement => "IF, WHILE, or an instruction name"

inductive ParseError where
  | wrongClass (expected found : TokenClass) (text : String) (line : Nat)
  /-- A token is not the keyword that the grammar asks for. -/
  | wrongText (expected : Keyword) (text : String) (line : Nat)
  /-- No statement starts with this token. -/
  | noStatement (text : String) (line : Nat)
  | endOfInput (expected : Expectation)
  /-- A closing name is not the name that was opened. -/
  | nameMismatch (expected found : String) (line : Nat)
  | instructionRepeated (name : String) (line : Nat)
  | primitiveRedefined (name : String) (line : Nat)
  | tooDeep (limit line : Nat)
  | inputAfterEnd (text : String) (line : Nat)
  deriving DecidableEq, Repr

def ParseError.message : ParseError → String
  | wrongClass expected found text line =>
    "Unexpected token class at line " ++ toString line ++ ". Expected: " ++ expected.name ++
      ", found: " ++ found.name ++ " " ++ Text.quote text ++ "."
  | wrongText expected text line =>
    "Unexpected token string at line " ++ toString line ++ ". Expected: " ++
      Text.quote expected.spelling ++ ", found: " ++ Text.quote text ++ "."
  | noStatement text line =>
    "Unexpected token at line " ++ toString line ++ ". Expected: " ++
      Expectation.statement.describe ++ ", found: " ++ Text.quote text ++ "."
  | endOfInput expected => "Unexpected end of input. Expected: " ++ expected.describe ++ "."
  | nameMismatch expected found line =>
    "Mismatched name at line " ++ toString line ++ ". Expected: " ++ Text.quote expected ++
      ", found: " ++ Text.quote found ++ "."
  | instructionRepeated name line =>
    "Instruction " ++ Text.quote name ++ " at line " ++ toString line ++ " is already defined."
  | primitiveRedefined name line =>
    "Instruction " ++ Text.quote name ++ " at line " ++ toString line ++
      " redefines a primitive instruction."
  | tooDeep limit line =>
    "Statements nest more than " ++ toString limit ++ " levels deep at line " ++
      toString line ++ "."
  | inputAfterEnd text line =>
    "Unexpected input after the end of the program at line " ++ toString line ++ ": " ++
      Text.quote text ++ "."

/-- Whether an error tells of a token: its line and all that the error says was found. No token is
at fault where the tokens end too early, and that an instruction is defined once more only shows
behind its body. -/
def ParseError.PointsAt (token : Token) : ParseError → Prop
  | wrongClass _ found text line =>
    found = token.tokenClass ∧ text = token.text ∧ line = token.line
  | wrongText _ text line | noStatement text line | inputAfterEnd text line =>
    text = token.text ∧ line = token.line
  | nameMismatch _ found line => found = token.text ∧ line = token.line
  | primitiveRedefined name line => name = token.text ∧ line = token.line
  | tooDeep _ line => line = token.line
  | endOfInput _ | instructionRepeated _ _ => False

/-- How parsing can fail: the tokens are refused, or what they describe breaks a precondition of
the edits that build it. -/
inductive ParseFailure where
  | refused (error : ParseError)
  | violated (violation : Violation)
  deriving DecidableEq, Repr

end BlockLanguage
