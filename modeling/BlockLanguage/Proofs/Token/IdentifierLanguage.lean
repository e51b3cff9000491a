import BlockLanguage.Proofs.Token.Reference

/-!
# The language of identifiers

Identifiers are told by their characters: an ASCII letter first, then ASCII letters, digits and
hyphens, and no reserved word as a whole. They are exactly the texts of identifier tokens, wherever
in a source text these stand.
-/

set_option autoImplicit false

namespace BlockLanguage

def IsLetter (character : Char) : Prop :=
  ('a' ≤ character ∧ character ≤ 'z') ∨ ('A' ≤ character ∧ character ≤ 'Z')

def IsDigit (character : Char) : Prop :=
  '0' ≤ character ∧ character ≤ '9'

/-- What the text of an identifier looks like. -/
structure IsName (text : String) : Prop where
  characters : ∃ first rest, text.toList = first :: rest ∧ IsLetter first ∧
    ∀ character ∈ rest, IsLetter character ∨ IsDigit character ∨ character = '-'
  noKeyword : ∀ keyword : Keyword, keyword.spelling ≠ text
  noCondition : ∀ condition : Condition, condition.spelling ≠ text

/-- The tokens of a source text, with or without the blanks. -/
def tokensOf (discard : Bool) (source : String) : List Token :=
  if discard then tokenize source else allTokens source

theorem isAlpha_iff {character : Char} : character.isAlpha = true ↔ IsLetter character := by
  have upper : character.isUpper = true ↔ 'A' ≤ character ∧ character ≤ 'Z' :=
    decide_eq_true_iff
  have lower : character.isLower = true ↔ 'a' ≤ character ∧ character ≤ 'z' :=
    Bool.and_eq_true_iff.trans (and_congr decide_eq_true_iff decide_eq_true_iff)
  exact Bool.or_eq_true_iff.trans ((or_congr upper lower).trans or_comm)

theorem isWordCharacter_iff {character : Char} :
    Lexer.isWordCharacter character = true ↔
      IsLetter character ∨ IsDigit character ∨ character = '-' := by
  have digit : character.isDigit = true ↔ IsDigit character :=
    Bool.and_eq_true_iff.trans (and_congr decide_eq_true_iff decide_eq_true_iff)
  simp only [Lexer.isWordCharacter, Char.isAlphanum, Bool.or_eq_true, isAlpha_iff, digit,
    beq_iff_eq, or_assoc]

theorem isWord_iff {text : List Char} :
    Lexer.IsWord text ↔ ∃ first rest, text = first :: rest ∧ IsLetter first ∧
      ∀ character ∈ rest, IsLetter character ∨ IsDigit character ∨ character = '-' := by
  cases text with
  | nil => simp [Lexer.IsWord]
  | cons first rest =>
      simp only [Lexer.IsWord, isAlpha_iff, isWordCharacter_iff]
      constructor
      · rintro ⟨letter, others⟩
        exact ⟨first, rest, rfl, letter, others⟩
      · rintro ⟨_, _, same, letter, others⟩
        cases same
        exact ⟨letter, others⟩

theorem isIdentifier_iff_isName {text : String} :
    isIdentifier text = true ↔ IsName text := by
  rw [isIdentifier_iff_wordClass, isWord_iff]
  have hasClass := Lexer.hasWordClass_wordClass text
  constructor
  · rintro ⟨characters, isClass⟩
    obtain ⟨noKeyword, noCondition⟩ := hasClass.identifier.mp isClass
    exact ⟨characters, not_exists.mp noKeyword, not_exists.mp noCondition⟩
  · rintro ⟨characters, noKeyword, noCondition⟩
    refine ⟨characters, hasClass.identifier.mpr ⟨?_, ?_⟩⟩
    · exact not_exists.mpr noKeyword
    · exact not_exists.mpr noCondition

/-!
## Identifiers in source texts
-/

/-- An identifier that is cut out of a text has been one before. -/
theorem isIdentifier_of_mem_allTokens {source : String} {token : Token}
    (member : token ∈ allTokens source) (isClass : token.tokenClass = .identifier) :
    isIdentifier token.text = true := by
  obtain ⟨front, back, split⟩ := List.append_of_mem member
  have tokenizes := tokenizes_iff_eq_allTokens.mpr (Eq.refl (allTokens source))
  cases tokenizes.cutOut front token back split with
  | blanks _ isBlanks =>
      rw [isBlanks] at isClass
      cases isClass
  | word isWord hasClass =>
      have sameClass := Lexer.hasWordClass_iff.mp hasClass
      exact isIdentifier_iff_wordClass.mpr ⟨isWord.1, sameClass.symm.trans isClass⟩
  | mark _ _ _ isMark =>
      rw [isMark] at isClass
      cases isClass

theorem mem_tokensOf_iff {discard : Bool} {source : String} {token : Token}
    (isClass : token.tokenClass = .identifier) :
    token ∈ tokensOf discard source ↔ token ∈ allTokens source := by
  cases discard with
  | true => simp [tokensOf, tokenize, isClass]
  | false => exact Iff.rfl

theorem mem_allTokens_of_isIdentifier {text : String} (identifier : isIdentifier text = true) :
    ⟨.identifier, text, 1⟩ ∈ allTokens text := by
  obtain ⟨isWord, isClass⟩ := isIdentifier_iff_wordClass.mp identifier
  simp [allTokens, Lexer.scan_of_isWord isWord, isClass]

/-- Identifiers are told by their characters, and they are the texts of the identifier tokens of
all source texts, whether blanks are discarded or not. -/
theorem identifiers_are_the_names (text : String) :
    (isIdentifier text = true ↔ IsName text) ∧
      ∀ discard, isIdentifier text = true ↔
        ∃ source, ∃ token ∈ tokensOf discard source,
          token.tokenClass = .identifier ∧ token.text = text := by
  apply And.intro isIdentifier_iff_isName
  intro discard
  constructor
  · intro identifier
    refine ⟨text, ⟨.identifier, text, 1⟩, ?_, rfl, rfl⟩
    exact (mem_tokensOf_iff rfl).mpr (mem_allTokens_of_isIdentifier identifier)
  · rintro ⟨source, token, member, isClass, rfl⟩
    exact isIdentifier_of_mem_allTokens ((mem_tokensOf_iff isClass).mp member) isClass

example : isIdentifier "IF-not" = true ∧ isIdentifier "random" = false ∧
    isIdentifier "é" = false ∧ isIdentifier "turn " = false := by
  decide +kernel

end BlockLanguage
