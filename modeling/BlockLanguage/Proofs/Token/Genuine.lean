import BlockLanguage.Proofs.Token.Scan
import BlockLanguage.Token.Identifier

/-!
# Genuine tokens

A token that comes from a text keeps its class when its own text is scanned alone, so that its
class can be told from its text. Identifiers are the words that are no keyword and no condition.
-/

set_option autoImplicit false

namespace BlockLanguage

open Lexer (IsWord EndsWord wordClass tokensFrom)

/-- A token whose text is, taken alone, one token of the same class. -/
def Token.Genuine (token : Token) : Prop :=
  allTokens token.text = [⟨token.tokenClass, token.text, 1⟩]

namespace Lexer

theorem endsWord_nil : EndsWord [] := by
  intro character atHead
  cases atHead

theorem scan_of_isWord {word : List Char} (isWord : IsWord word) (line : Nat) :
    scan line word = [⟨wordClass word, String.ofList word, line⟩] := by
  simpa [scan_nil] using scan_word isWord endsWord_nil line

theorem tokensFrom_of_isWord {text : String} (isWord : IsWord text.toList) (line : Nat) :
    tokensFrom line text.toList = [⟨wordClass text.toList, text, line⟩] := by
  simpa using tokensFrom_word isWord endsWord_nil line

theorem isWord_keyword (keyword : Keyword) : IsWord keyword.spelling.toList :=
  spellings_keyword.isWord _ (List.mem_map_of_mem keyword.mem_all)

theorem isWord_condition (condition : Condition) : IsWord condition.spelling.toList :=
  spellings_condition.isWord _ (List.mem_map_of_mem condition.mem_all)

theorem wordClass_keyword (keyword : Keyword) :
    wordClass keyword.spelling.toList = .keyword :=
  if_pos (List.mem_map_of_mem (List.mem_map_of_mem keyword.mem_all))

theorem wordClass_condition (condition : Condition) :
    wordClass condition.spelling.toList = .condition := by
  have apart : ∀ other ∈ Condition.all, wordClass other.spelling.toList = .condition := by
    decide
  exact apart condition condition.mem_all

end Lexer

/-- The identifiers are the words that are neither keywords nor conditions. -/
theorem isIdentifier_iff_wordClass {text : String} :
    isIdentifier text = true ↔
      IsWord text.toList ∧ wordClass text.toList = .identifier := by
  constructor
  · intro identifier
    unfold isIdentifier allTokens at identifier
    generalize text.toList = characters at identifier ⊢
    cases characters using Lexer.text_induct with
    | nil => simp [Lexer.scan_nil] at identifier
    | blank first rest blank _ =>
        rw [Lexer.scan_blank blank] at identifier
        split at identifier
        case h_1 scanned =>
          rw [← (List.cons.inj scanned).1] at identifier
          cases identifier
        case h_2 => cases identifier
    | word word rest isWord ends _ =>
        rw [Lexer.scan_word isWord ends] at identifier
        split at identifier
        case h_1 scanned =>
          obtain ⟨rfl, ended⟩ := List.cons.inj scanned
          obtain rfl := Lexer.scan_eq_nil_iff.mp ended
          exact ⟨by simpa using isWord, by simpa using identifier⟩
        case h_2 => cases identifier
    | mark first rest noBlank noLetter _ =>
        rw [Lexer.scan_mark noBlank noLetter] at identifier
        split at identifier
        case h_1 scanned =>
          rw [← (List.cons.inj scanned).1] at identifier
          cases identifier
        case h_2 => cases identifier
  · intro ⟨isWord, hasClass⟩
    simp [isIdentifier, allTokens, Lexer.scan_of_isWord isWord, hasClass]

theorem Token.allSound_iff_wordClass {tokens : List Token} :
    AllSound tokens ↔ ∀ token ∈ tokens, token.tokenClass = .identifier →
      IsWord token.text.toList ∧ wordClass token.text.toList = .identifier := by
  simp only [AllSound, Sound, isIdentifier_iff_wordClass]

/-- No keyword names anything. -/
theorem isIdentifier_keyword (keyword : Keyword) : isIdentifier keyword.spelling = false := by
  refine Bool.eq_false_iff.mpr fun identifier => ?_
  have hasClass := (isIdentifier_iff_wordClass.mp identifier).2
  rw [Lexer.wordClass_keyword] at hasClass
  cases hasClass

namespace Token

theorem genuine_of_isWord {text : String} (isWord : IsWord text.toList) (line : Nat) :
    (⟨wordClass text.toList, text, line⟩ : Token).Genuine := by
  simp [Genuine, allTokens, Lexer.scan_of_isWord isWord]

/-- The class of a genuine token depends on its text only. -/
theorem Genuine.tokenClass_eq {first second : Token} (firstGenuine : first.Genuine)
    (secondGenuine : second.Genuine) (same : first.text = second.text) :
    first.tokenClass = second.tokenClass := by
  unfold Genuine at firstGenuine secondGenuine
  rw [same, secondGenuine] at firstGenuine
  simpa using firstGenuine.symm

theorem Genuine.isIdentifier_iff {token : Token} (genuine : token.Genuine) :
    isIdentifier token.text = true ↔ token.tokenClass = .identifier := by
  unfold Genuine at genuine
  simp [isIdentifier, genuine]

private theorem genuine_mark {first : Char} (noBlank : Text.isBlank first = false)
    (noLetter : first.isAlpha = false) (line : Nat) :
    (⟨.error, String.ofList [first], line⟩ : Token).Genuine := by
  simp [Genuine, allTokens, Lexer.scan_mark noBlank noLetter, Lexer.scan_nil]

/-- Tokens that are cut out of a text are genuine. -/
theorem genuine_of_mem_tokensFrom {line : Nat} {text : List Char} {token : Token}
    (member : token ∈ tokensFrom line text) : token.Genuine := by
  induction text using Lexer.text_induct generalizing line with
  | nil => simp at member
  | blank first rest blank ih =>
      rw [Lexer.tokensFrom_blank blank] at member
      exact ih member
  | word word rest isWord ends ih =>
      rw [Lexer.tokensFrom_word isWord ends] at member
      rcases List.mem_cons.mp member with rfl | member
      · have isWordText : IsWord (String.ofList word).toList := by simpa using isWord
        simpa using genuine_of_isWord isWordText line
      · exact ih member
  | mark first rest noBlank noLetter ih =>
      rw [Lexer.tokensFrom_mark noBlank noLetter] at member
      rcases List.mem_cons.mp member with rfl | member
      · exact genuine_mark noBlank noLetter line
      · exact ih member

end Token

end BlockLanguage
