/-!
# Tokens

A token is a piece of source text with the class of the lexical rule that took it and the line
on which it starts.
-/

set_option autoImplicit false

namespace BlockLanguage

/-- The lexical classes. `error` holds the characters that fit no other class. -/
inductive TokenClass where
  | keyword
  | condition
  | identifier
  | whitespace
  | error
  deriving DecidableEq, Repr

namespace TokenClass

/-- The classes by precedence: of two rules that take equally much text the earlier one wins. -/
def all : List TokenClass :=
  [.keyword, .condition, .identifier, .whitespace, .error]

theorem mem_all (tokenClass : TokenClass) : tokenClass ∈ all := by
  cases tokenClass <;> decide

def name : TokenClass → String
  | keyword => "keyword"
  | condition => "condition"
  | identifier => "identifier"
  | whitespace => "whitespace"
  | error => "error"

end TokenClass

/-- A token. Nothing ties the text to the class: a list of tokens may come from elsewhere than
source text. -/
structure Token where
  tokenClass : TokenClass
  text : String
  line : Nat
  deriving DecidableEq, Repr

end BlockLanguage
