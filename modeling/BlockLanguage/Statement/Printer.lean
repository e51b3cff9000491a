import BlockLanguage.Statement.Basic

/-!
# Printed statements

A statement is printed line by line. Every conditional and loop moves what it holds one level to
the right; a block adds no level of its own. Lines are laid out by level first and indented by
spaces afterwards, so the indentation of a whole statement is one choice.
-/

set_option autoImplicit false

namespace BlockLanguage

def indentWidth : Nat := 4

/-- A line of output and the level it is on. -/
structure Line where
  level : Nat
  text : String
  deriving DecidableEq, Repr

/-- The line as it is printed where the outermost level is indented by the given number of
spaces. -/
def Line.render (indent : Nat) (line : Line) : String :=
  String.ofList (List.replicate (indent + indentWidth * line.level) ' ') ++ line.text ++ "\n"

namespace Statement

mutual

/-- The lines of a statement that stands on the given level. -/
def lines (level : Nat) : Statement → List Line
  | block children => linesOfAll level children
  | ifThen condition thenBlock =>
    ⟨level, "IF " ++ condition.spelling ++ " THEN"⟩ ::
      (lines (level + 1) thenBlock ++ [⟨level, "END IF"⟩])
  | ifElse condition thenBlock elseBlock =>
    ⟨level, "IF " ++ condition.spelling ++ " THEN"⟩ ::
      (lines (level + 1) thenBlock ++
        ⟨level, "ELSE"⟩ :: (lines (level + 1) elseBlock ++ [⟨level, "END IF"⟩]))
  | loop condition body =>
    ⟨level, "WHILE " ++ condition.spelling ++ " DO"⟩ ::
      (lines (level + 1) body ++ [⟨level, "END WHILE"⟩])
  | call instruction => [⟨level, instruction⟩]

/-- The lines of statements that follow each other on one level. -/
def linesOfAll (level : Nat) : List Statement → List Line
  | [] => []
  | first :: rest => lines level first ++ linesOfAll level rest

end

/-- The source text of a statement, indented by the given number of spaces. -/
def render (indent : Nat) (statement : Statement) : String :=
  String.join ((statement.lines 0).map (Line.render indent))

end Statement

end BlockLanguage
