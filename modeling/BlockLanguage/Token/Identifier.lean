import BlockLanguage.Token.Lexer

/-!
# Identifiers

Programs and instructions are named by identifiers: the words that are no keyword and no
condition. A text is an identifier when it is one token of that class.
-/

set_option autoImplicit false

namespace BlockLanguage

/-- Whether the whole text is one identifier token. -/
def isIdentifier (text : String) : Bool :=
  match allTokens text with
  | [token] => token.tokenClass == .identifier
  | _ => false

/-- A token of the class of identifiers has to have an identifier for its text. Nothing is asked of
other tokens. -/
def Token.Sound (token : Token) : Prop :=
  token.tokenClass = .identifier → isIdentifier token.text = true

/-- Whether all tokens of a list are sound. -/
abbrev Token.AllSound (tokens : List Token) : Prop :=
  ∀ token ∈ tokens, token.Sound

theorem Token.AllSound.mono {tokens others : List Token} (sound : AllSound tokens)
    (included : others ⊆ tokens) : AllSound others :=
  fun token member => sound token (included member)

end BlockLanguage
