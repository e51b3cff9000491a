/-!
# Vocabulary

The fixed words of the language: its keywords, the conditions that guard statements, and the
instructions that every program may call without defining them.
-/

set_option autoImplicit false

namespace BlockLanguage

/-- The reserved words, each named by its spelling. -/
inductive Keyword where
  | PROGRAM
  | IS
  | BEGIN
  | END
  | INSTRUCTION
  | IF
  | THEN
  | ELSE
  | WHILE
  | DO
  deriving DecidableEq, Repr

namespace Keyword

def all : List Keyword :=
  [.PROGRAM, .IS, .BEGIN, .END, .INSTRUCTION, .IF, .THEN, .ELSE, .WHILE, .DO]

theorem mem_all (keyword : Keyword) : keyword ∈ all := by
  cases keyword <;> decide

def spelling : Keyword → String
  | PROGRAM => "PROGRAM"
  | IS => "IS"
  | BEGIN => "BEGIN"
  | END => "END"
  | INSTRUCTION => "INSTRUCTION"
  | IF => "IF"
  | THEN => "THEN"
  | ELSE => "ELSE"
  | WHILE => "WHILE"
  | DO => "DO"

end Keyword

/-- What may be in the cell ahead. -/
inductive Sight where
  | empty
  | wall
  | friend
  | enemy
  deriving DecidableEq, Repr

/-- The conditions that guard conditionals and loops. -/
inductive Condition where
  | nextIs (sight : Sight)
  | nextIsNot (sight : Sight)
  | random
  | always
  deriving DecidableEq, Repr

namespace Condition

def all : List Condition :=
  [.nextIs .empty, .nextIsNot .empty, .nextIs .wall, .nextIsNot .wall, .nextIs .friend,
    .nextIsNot .friend, .nextIs .enemy, .nextIsNot .enemy, .random, .always]

theorem mem_all (condition : Condition) : condition ∈ all := by
  rcases condition with sight | sight | _ | _
  · cases sight <;> decide
  · cases sight <;> decide
  · decide
  · decide

def spelling : Condition → String
  | nextIs .empty => "next-is-empty"
  | nextIsNot .empty => "next-is-not-empty"
  | nextIs .wall => "next-is-wall"
  | nextIsNot .wall => "next-is-not-wall"
  | nextIs .friend => "next-is-friend"
  | nextIsNot .friend => "next-is-not-friend"
  | nextIs .enemy => "next-is-enemy"
  | nextIsNot .enemy => "next-is-not-enemy"
  | random => "random"
  | always => "true"

/-- The condition spelled by a text. -/
def ofSpelling? (text : String) : Option Condition :=
  all.find? (·.spelling == text)

/-- A condition is read back from its own spelling. -/
theorem ofSpelling?_spelling (condition : Condition) :
    ofSpelling? condition.spelling = some condition := by
  rcases condition with sight | sight | _ | _
  · cases sight <;> decide
  · cases sight <;> decide
  · decide
  · decide

/-- Only its own spelling is read as a condition. -/
theorem spelling_of_ofSpelling? {text : String} {condition : Condition}
    (found : ofSpelling? text = some condition) : condition.spelling = text := by
  simpa using List.find?_some found

end Condition

/-- The instructions that are built in and may not be redefined. -/
def primitives : List String :=
  ["move", "turnleft", "turnright", "infect", "skip"]

def isPrimitive (name : String) : Bool :=
  primitives.contains name

end BlockLanguage
