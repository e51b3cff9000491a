import BlockLanguage.Proofs.Token.Genuine
import BlockLanguage.Statement.Grammar
import BlockLanguage.Statement.Printer

/-!
# Spelled lines

A printed line is a sequence of words with single spaces between them. It is scanned into one
token for each word, and printed lines that follow each other are scanned line by line.
-/

set_option autoImplicit false

namespace BlockLanguage

open Lexer (IsWord wordClass tokensFrom)

namespace TokenShape

/-- A shape whose text is a word of the class that is asked for. -/
structure Spelled (shape : TokenShape) : Prop where
  isWord : IsWord shape.text.toList
  hasClass : ∀ tokenClass ∈ shape.tokenClass?, wordClass shape.text.toList = tokenClass

/-- The token that the text of a shape is scanned into. -/
def token (line : Nat) (shape : TokenShape) : Token :=
  ⟨wordClass shape.text.toList, shape.text, line⟩

theorem spelled_word (keyword : Keyword) : (word keyword).Spelled :=
  ⟨Lexer.isWord_keyword keyword, nofun⟩

theorem spelled_opening (keyword : Keyword) : (opening keyword).Spelled := by
  refine ⟨Lexer.isWord_keyword keyword, fun tokenClass asked => ?_⟩
  cases asked
  exact Lexer.wordClass_keyword keyword

theorem spelled_condition (guard : Condition) : (condition guard).Spelled := by
  refine ⟨Lexer.isWord_condition guard, fun tokenClass asked => ?_⟩
  cases asked
  exact Lexer.wordClass_condition guard

theorem spelled_identifier {name : String} (isIdentifier : isIdentifier name = true) :
    (identifier name).Spelled := by
  obtain ⟨isWord, hasClass⟩ := isIdentifier_iff_wordClass.mp isIdentifier
  refine ⟨isWord, fun tokenClass asked => ?_⟩
  cases asked
  exact hasClass

theorem Spelled.fits {shape : TokenShape} (spelled : shape.Spelled) (line : Nat) :
    shape.Fits (shape.token line) :=
  ⟨rfl, spelled.hasClass⟩

theorem fitAll_map_token {shapes : List TokenShape} (spelled : ∀ shape ∈ shapes, shape.Spelled)
    (line : Nat) : FitAll shapes (shapes.map (token line)) := by
  induction shapes with
  | nil => exact .nil
  | cons shape shapes ih =>
      rw [List.forall_mem_cons] at spelled
      exact .cons (spelled.1.fits line) (ih spelled.2)

/-- Words with spaces between them. -/
def phrase (shapes : List TokenShape) : String :=
  " ".intercalate (shapes.map TokenShape.text)

private theorem phrase_cons_cons (first second : TokenShape) (shapes : List TokenShape) :
    (phrase (first :: second :: shapes)).toList =
      first.text.toList ++ ' ' :: (phrase (second :: shapes)).toList := by
  simp [phrase, String.intercalate_cons_cons]

theorem count_lineFeed_phrase {shapes : List TokenShape}
    (spelled : ∀ shape ∈ shapes, shape.Spelled) : (phrase shapes).toList.count '\n' = 0 := by
  induction shapes with
  | nil => rfl
  | cons first shapes ih =>
      rw [List.forall_mem_cons] at spelled
      have noLineFeed := spelled.1.isWord.count_lineFeed
      cases shapes with
      | nil => simpa [phrase] using noLineFeed
      | cons second shapes =>
          rw [phrase_cons_cons, List.count_append, noLineFeed,
            List.count_cons_of_ne (by decide), ih spelled.2]

/-- Each word of a line is a token. -/
theorem tokensFrom_phrase {shapes : List TokenShape}
    (spelled : ∀ shape ∈ shapes, shape.Spelled) (line : Nat) :
    tokensFrom line (phrase shapes).toList = shapes.map (token line) := by
  induction shapes with
  | nil => exact Lexer.tokensFrom_nil line
  | cons first shapes ih =>
      rw [List.forall_mem_cons] at spelled
      have scanned := Lexer.tokensFrom_of_isWord spelled.1.isWord line
      cases shapes with
      | nil => simpa [phrase, token] using scanned
      | cons second shapes =>
          have stays : (first.text.toList ++ [' ']).count '\n' = 0 := by
            rw [List.count_append, spelled.1.isWord.count_lineFeed]
            rfl
          rw [phrase_cons_cons, Lexer.tokensFrom_append_blank line _ (by decide), scanned, stays,
            Nat.add_zero, ih spelled.2]
          rfl

end TokenShape

/-!
## Lines
-/

namespace Line

/-- The tokens of a line with the given number. -/
def tokens (number : Nat) (line : Line) : List Token :=
  tokensFrom number line.text.toList

/-- The line is made of words of these shapes. -/
structure Spells (line : Line) (shapes : List TokenShape) : Prop where
  text : line.text = TokenShape.phrase shapes
  spelled : ∀ shape ∈ shapes, shape.Spelled

theorem Spells.tokens_eq {line : Line} {shapes : List TokenShape} (spells : line.Spells shapes)
    (number : Nat) : line.tokens number = shapes.map (TokenShape.token number) := by
  rw [tokens, spells.text, TokenShape.tokensFrom_phrase spells.spelled]

/-- The tokens of lines that follow each other, the first one having the given number. -/
def tokensOfAll (number : Nat) : List Line → List Token
  | [] => []
  | line :: rest => line.tokens number ++ tokensOfAll (number + 1) rest

theorem tokensOfAll_append (number : Nat) (first second : List Line) :
    tokensOfAll number (first ++ second) =
      tokensOfAll number first ++ tokensOfAll (number + first.length) second := by
  induction first generalizing number with
  | nil => rfl
  | cons line first ih =>
      rw [List.cons_append, tokensOfAll, tokensOfAll, ih, List.append_assoc, List.length_cons,
        Nat.add_assoc, Nat.add_comm 1]

/-- The lines are made, one after the other, of words of these shapes. -/
inductive SpellAll : List Line → List TokenShape → Prop where
  | nil : SpellAll [] []
  | cons {line shapes lines others} : line.Spells shapes → SpellAll lines others →
      SpellAll (line :: lines) (shapes ++ others)

theorem SpellAll.append {first second : List Line} {front back : List TokenShape}
    (spellFirst : SpellAll first front) (spellSecond : SpellAll second back) :
    SpellAll (first ++ second) (front ++ back) := by
  induction spellFirst with
  | nil => exact spellSecond
  | cons spells _ ih =>
      rw [List.append_assoc]
      exact .cons spells ih

theorem Spells.all {line : Line} {shapes : List TokenShape} (spells : line.Spells shapes) :
    SpellAll [line] shapes := by
  simpa using SpellAll.cons spells .nil

theorem SpellAll.fitAll {lines : List Line} {shapes : List TokenShape}
    (spellAll : SpellAll lines shapes) (number : Nat) :
    TokenShape.FitAll shapes (tokensOfAll number lines) := by
  induction spellAll generalizing number with
  | nil => exact .nil
  | cons spells _ ih =>
      rw [tokensOfAll, spells.tokens_eq]
      exact TokenShape.fitAll_append_iff.mpr
        ⟨_, _, rfl, TokenShape.fitAll_map_token spells.spelled number, ih _⟩

theorem SpellAll.oneLine {lines : List Line} {shapes : List TokenShape}
    (spellAll : SpellAll lines shapes) : ∀ line ∈ lines, '\n' ∉ line.text.toList := by
  induction spellAll with
  | nil => exact nofun
  | cons spells _ ih =>
      refine List.forall_mem_cons.mpr ⟨?_, ih⟩
      rw [spells.text]
      exact List.count_eq_zero.mp (TokenShape.count_lineFeed_phrase spells.spelled)

private theorem tokensFrom_spaces (number count : Nat) (text : List Char) :
    tokensFrom number (List.replicate count ' ' ++ text) = tokensFrom number text := by
  induction count with
  | zero => rfl
  | succ count ih =>
      rw [List.replicate_succ, List.cons_append, Lexer.tokensFrom_blank (by decide)]
      exact ih

/-- The printed text is scanned line by line, whatever its indentation. -/
theorem SpellAll.tokensFrom_render {lines : List Line} {shapes : List TokenShape}
    (spellAll : SpellAll lines shapes) (indent number : Nat) :
    tokensFrom number (String.join (lines.map (render indent))).toList =
      tokensOfAll number lines := by
  induction spellAll generalizing number with
  | nil => exact Lexer.tokensFrom_nil number
  | @cons line shapes lines others spells _ ih =>
      have layout : (render indent line ++ String.join (lines.map (render indent))).toList =
          List.replicate (indent + indentWidth * line.level) ' ' ++
            (line.text.toList ++ '\n' :: (String.join (lines.map (render indent))).toList) := by
        simp [render]
      have oneLine : (line.text.toList ++ ['\n']).count '\n' = 1 := by
        rw [List.count_append, spells.text, TokenShape.count_lineFeed_phrase spells.spelled]
        rfl
      rw [List.map_cons, String.join_cons, layout, tokensFrom_spaces,
        Lexer.tokensFrom_append_blank number _ (by decide), oneLine, ih]
      rfl

end Line

end BlockLanguage
