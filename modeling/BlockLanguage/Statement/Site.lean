import BlockLanguage.Statement.Printer

/-!
# Sites of conditionals and loops

Where the conditionals and loops of a statement stand when it is printed, in the order in which
they are printed, and how many others they stand in.
-/

set_option autoImplicit false

namespace BlockLanguage

/-- The number of conditionals and loops around another one, and the line that opens it. -/
structure Site where
  depth : Nat
  line : Nat
  deriving DecidableEq, Repr

/-- The first of the sites that is not allowed where the depth is limited. -/
def firstTooDeep? (limit : Nat) (sites : List Site) : Option Site :=
  sites.find? fun site => limit ≤ site.depth

namespace Statement

/-- The number of lines of a statement. -/
def height (statement : Statement) : Nat :=
  (statement.lines 0).length

mutual

/-- The sites in a statement that is printed from a line on, at a depth. -/
def sites (depth line : Nat) : Statement → List Site
  | block children => sitesOfAll depth line children
  | ifThen _ thenBlock => ⟨depth, line⟩ :: sites (depth + 1) (line + 1) thenBlock
  | ifElse _ thenBlock elseBlock =>
    ⟨depth, line⟩ :: (sites (depth + 1) (line + 1) thenBlock ++
      sites (depth + 1) (line + 1 + thenBlock.height + 1) elseBlock)
  | loop _ body => ⟨depth, line⟩ :: sites (depth + 1) (line + 1) body
  | call _ => []

def sitesOfAll (depth line : Nat) : List Statement → List Site
  | [] => []
  | first :: rest => sites depth line first ++ sitesOfAll depth (line + first.height) rest

end

end Statement

end BlockLanguage
