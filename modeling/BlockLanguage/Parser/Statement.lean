import BlockLanguage.Parser.Basic
import BlockLanguage.Statement.Edit

/-!
# Parsing statements

A statement is read by looking at one token: the keywords IF and WHILE and the class of
identifiers decide what follows. Statements are built by the same checked edits that anyone else
uses. Conditionals and loops may nest up to a limit; the room that is left for nesting shrinks
with every level, so reading a statement is a recursion on it.
-/

set_option autoImplicit false

namespace BlockLanguage

/-- How deeply conditionals and loops may nest where nothing else is asked for. -/
def defaultNestingLimit : Nat := 256

/-- No request lets conditionals and loops nest more deeply than this. -/
def maximalNestingLimit : Nat := 1024

/-- The limit in force where a limit is asked for. -/
def nestingLimit (requested : Nat) : Nat :=
  min requested maximalNestingLimit

theorem nestingLimit_eq (requested : Nat) : nestingLimit requested = min requested 1024 := rfl

/-- What a statement is, as far as its first token tells. -/
inductive Opening where
  | conditional
  | loop
  | call
  deriving DecidableEq, Repr

/-- Keywords open a statement by class and text, calls by class alone. -/
def Opening.ofToken? (token : Token) : Option Opening :=
  if token.tokenClass = .keyword ∧ token.text = Keyword.IF.spelling then some .conditional
  else if token.tokenClass = .keyword ∧ token.text = Keyword.WHILE.spelling then some .loop
  else if token.tokenClass = .identifier then some .call
  else none

namespace Parser

/-- Reads a condition. A token of that class need not spell one. -/
def condition : Parser Condition := do
  let token ← ofClass .condition
  match Condition.ofSpelling? token.text with
  | some condition => return condition
  | none => refuse (.wrongClass .condition token.tokenClass token.text token.line)

def call : Parser Statement := do
  let token ← ofClass .identifier
  build (Statement.formCall token.text) .empty

/-- Reads a condition between the words that stand around it. -/
def guarded (opener divider : Keyword) : Parser Condition := do
  keyword opener
  let condition ← condition
  keyword divider
  return condition

/-- Reads the end of what a word opened. -/
def closing (opener : Keyword) : Parser Unit := do
  keyword .END
  keyword opener

def conditional (block : Parser Statement) : Parser Statement := do
  let condition ← guarded .IF .THEN
  let thenBlock ← block
  if startsWith .ELSE (← get) then
    keyword .ELSE
    let elseBlock ← block
    closing .IF
    let built ← build (Statement.formIfElse condition) (.empty, thenBlock, elseBlock)
    return built.1
  else
    closing .IF
    let built ← build (Statement.formIfThen condition) (.empty, thenBlock)
    return built.1

def loop (block : Parser Statement) : Parser Statement := do
  let condition ← guarded .WHILE .DO
  let body ← block
  closing .WHILE
  let built ← build (Statement.formLoop condition) (.empty, body)
  return built.1

/-- A block ends in front of END and ELSE and with the last token. -/
def endsBlock (tokens : List Token) : Bool :=
  tokens.isEmpty || startsWith .END tokens || startsWith .ELSE tokens

/-- Reads a statement into a block that holds the statements before it, the last one first. -/
def intoBlock (statement : Parser Statement) (before : Statement) : Parser Statement := do
  let child ← statement
  let built ← build (Statement.insertChild 0) (before, child)
  return built.1

def blockWith (statement : Parser Statement) : Parser Statement := do
  let backwards ← repeatUntil endsBlock (intoBlock statement) .empty
  return backwards.reversed

/-- Reads a statement. Inside conditionals and loops statements are read by the inner parser; if
there is none, the limit of nesting is reached. -/
def statementAround (limit : Nat) (inner? : Option (Parser Statement)) : Parser Statement := do
  match (← get).head? with
  | none => refuse (.endOfInput .statement)
  | some token =>
    match Opening.ofToken? token, inner? with
    | none, _ => refuse (.noStatement token.text token.line)
    | some .call, _ => call
    | some _, none => refuse (.tooDeep limit token.line)
    | some .conditional, some inner => conditional (blockWith inner)
    | some .loop, some inner => loop (blockWith inner)

/-- Reads a statement where there is room for some more levels of nesting. -/
def statementWithin (limit : Nat) : (room : Nat) → Parser Statement
  | 0 => statementAround limit none
  | room + 1 => statementAround limit (some (statementWithin limit room))

def statement (requested : Nat) : Parser Statement :=
  statementWithin (nestingLimit requested) (nestingLimit requested)

def block (requested : Nat) : Parser Statement :=
  blockWith (statement requested)

end Parser

end BlockLanguage
