import BlockLanguage.Text.Blank
import BlockLanguage.Token.Basic
import BlockLanguage.Vocabulary

/-!
# Tokens of a source text

Each class has a rule that takes some front part of the text. The rule that takes most decides
the next token, and the scan goes on behind it. Since a blank or an error token can start at any
character, the scan always advances.
-/

set_option autoImplicit false

namespace BlockLanguage

namespace Lexer

/-- Words may go on with ASCII letters, ASCII digits and hyphens. -/
def isWordCharacter (character : Char) : Bool :=
  character.isAlphanum || character == '-'

/-- The front part that starts with an ASCII letter and goes on as a word. -/
def frontWord : List Char → List Char
  | [] => []
  | first :: rest => if first.isAlpha then first :: rest.takeWhile isWordCharacter else []

/-- The first of the spellings that stands at the front of the text. -/
def frontSpelling (spellings : List String) (text : List Char) : List Char :=
  ((spellings.map String.toList).find? (·.isPrefixOf text)).getD []

/-- The first character, unless it is blank. -/
def frontMark : List Char → List Char
  | [] => []
  | first :: _ => if Text.isBlank first then [] else [first]

/-- The front part of the text that the rule of a class takes, empty where the rule does not
apply. -/
def front : TokenClass → List Char → List Char
  | .keyword => frontSpelling (Keyword.all.map Keyword.spelling)
  | .condition => frontSpelling (Condition.all.map Condition.spelling)
  | .identifier => frontWord
  | .whitespace => List.takeWhile Text.isBlank
  | .error => frontMark

structure Lexeme where
  tokenClass : TokenClass
  text : List Char

/-- The longer of two lexemes, the first one if they are equally long. -/
def Lexeme.longer (first second : Lexeme) : Lexeme :=
  if first.text.length < second.text.length then second else first

/-- What each rule takes from the front of the text, by precedence. -/
def candidates (text : List Char) : List Lexeme :=
  TokenClass.all.map fun tokenClass => ⟨tokenClass, front tokenClass text⟩

/-- The lexeme at the front of the text: the longest candidate, the earliest of the longest. -/
def frontLexeme (text : List Char) : Lexeme :=
  (candidates text).foldl Lexeme.longer ⟨.error, []⟩

theorem length_le_foldl_longer (best : Lexeme) (lexemes : List Lexeme) :
    best.text.length ≤ (lexemes.foldl Lexeme.longer best).text.length ∧
      ∀ lexeme ∈ lexemes,
        lexeme.text.length ≤ (lexemes.foldl Lexeme.longer best).text.length := by
  induction lexemes generalizing best with
  | nil => simp
  | cons head tail ih =>
      have bound := ih (best.longer head)
      have grows : best.text.length ≤ (best.longer head).text.length ∧
          head.text.length ≤ (best.longer head).text.length := by
        unfold Lexeme.longer
        split <;> omega
      constructor
      · exact Nat.le_trans grows.1 bound.1
      · intro lexeme member
        rcases List.mem_cons.mp member with rfl | member
        · exact Nat.le_trans grows.2 bound.1
        · exact bound.2 lexeme member

/-- No rule takes more than the lexeme at the front. -/
theorem length_front_le (tokenClass : TokenClass) (text : List Char) :
    (front tokenClass text).length ≤ (frontLexeme text).text.length :=
  (length_le_foldl_longer ⟨.error, []⟩ (candidates text)).2 ⟨tokenClass, front tokenClass text⟩
    (List.mem_map.mpr ⟨tokenClass, tokenClass.mem_all, rfl⟩)

/-- A text that is not empty starts with a lexeme that is not empty. -/
theorem frontLexeme_length_pos (first : Char) (rest : List Char) :
    0 < (frontLexeme (first :: rest)).text.length := by
  by_cases blank : Text.isBlank first = true
  · have taken := length_front_le .whitespace (first :: rest)
    simp only [front, List.takeWhile_cons, blank, ↓reduceIte, List.length_cons] at taken
    omega
  · have taken := length_front_le .error (first :: rest)
    simp only [front, frontMark, blank, Bool.false_eq_true, ↓reduceIte, List.length_cons,
      List.length_nil] at taken
    omega

/-- The tokens of a text whose first character stands on the given line. -/
def scan (line : Nat) : List Char → List Token
  | [] => []
  | first :: rest =>
    let lexeme := frontLexeme (first :: rest)
    ⟨lexeme.tokenClass, String.ofList lexeme.text, line⟩ ::
      scan (line + lexeme.text.count '\n') ((first :: rest).drop lexeme.text.length)
termination_by text => text.length
decreasing_by
  have advance := frontLexeme_length_pos first rest
  simp only [List.length_drop, List.length_cons]
  omega

end Lexer

/-- All tokens of a source text, blanks included. Lines are counted from one, by line feeds. -/
def allTokens (source : String) : List Token :=
  Lexer.scan 1 source.toList

/-- The tokens of a source text that carry meaning: all but the blanks. -/
def tokenize (source : String) : List Token :=
  (allTokens source).filter (·.tokenClass != .whitespace)

end BlockLanguage
