import BlockLanguage.Proofs.Token.Genuine

/-!
# Texts with gaps between them

Texts of tokens may be written one after another with any blanks between them. They are scanned
back one by one. A gap may be missing, too, unless a word would go on with the text behind it.
-/

set_option autoImplicit false

namespace BlockLanguage

open Lexer (IsWord EndsWord isWordCharacter wordClass tokensFrom)

/-- What can be the text of a token that carries meaning: a word, or any other character. -/
inductive TokenText : String → Prop where
  | keyword (keyword : Keyword) : TokenText keyword.spelling
  | condition (condition : Condition) : TokenText condition.spelling
  | identifier {name : String} : isIdentifier name = true → TokenText name
  | mark {character : Char} : Text.isBlank character = false → character.isAlpha = false →
      TokenText (String.ofList [character])

/-- The class that a text has as a token. -/
def textClass (text : String) : TokenClass :=
  if text ∈ Keyword.all.map Keyword.spelling then .keyword
  else if text ∈ Condition.all.map Condition.spelling then .condition
  else if isIdentifier text then .identifier
  else .error

/-- A text of a token with the gap in front of it. -/
structure Spaced where
  gap : String
  text : String

namespace Spaced

/-- The texts in order, each behind its gap, and one more gap at the end. -/
def layOut (last : String) : List Spaced → String
  | [] => last
  | piece :: rest => piece.gap ++ piece.text ++ layOut last rest

/-- The number of lines that the gaps end. -/
def lineFeeds (pieces : List Spaced) : Nat :=
  (pieces.flatMap (·.gap.toList)).count '\n'

/-- Whether a text that starts behind another one without any gap would be taken for a part of
it. -/
def RunsInto (first second : String) : Prop :=
  IsWord first.toList ∧ ∃ character ∈ second.toList.head?, isWordCharacter character = true

instance (first second : String) : Decidable (RunsInto first second) :=
  decidable_of_iff
    (IsWord first.toList ∧ second.toList.head?.any isWordCharacter = true) (by
      rw [RunsInto, Option.any_eq_true]
      exact Iff.rfl)

/-- Whether a text consists of blanks only, or is empty. -/
def IsGap (text : String) : Prop :=
  ∀ character ∈ text.toList, Text.isBlank character = true

instance : DecidablePred IsGap :=
  fun text => decidable_of_iff (text.toList.all Text.isBlank = true) List.all_eq_true

/-- Texts of tokens with gaps between them that are not left out where a text would run into the
next one. -/
inductive WellSpaced (last : String) : List Spaced → Prop where
  | nil : IsGap last → WellSpaced last []
  | cons {piece rest} : IsGap piece.gap → TokenText piece.text →
      (∀ next ∈ rest.head?, RunsInto piece.text next.text → next.gap ≠ "") →
      WellSpaced last rest → WellSpaced last (piece :: rest)

end Spaced

/-!
## Texts and their classes
-/

theorem isWord_of_isIdentifier {name : String} (isName : isIdentifier name = true) :
    IsWord name.toList :=
  (isIdentifier_iff_wordClass.mp isName).1

theorem not_isWord_mark {character : Char} (noLetter : character.isAlpha = false) :
    ¬IsWord [character] := by
  intro isWord
  rw [isWord.1] at noLetter
  cases noLetter

/-- No keyword is the spelling of a condition, so the class of a word is that of its spelling. -/
theorem textClass_of_isWord {text : String} (isWord : IsWord text.toList) :
    textClass text = wordClass text.toList := by
  have listed (spellings : List String) :
      text.toList ∈ spellings.map String.toList ↔ text ∈ spellings := by
    simp [String.toList_inj]
  have identifier : isIdentifier text = true ↔
      IsWord text.toList ∧ wordClass text.toList = .identifier := isIdentifier_iff_wordClass
  simp only [isWord, true_and, wordClass, listed] at identifier
  simp only [textClass, wordClass, listed]
  by_cases keyword : text ∈ Keyword.all.map Keyword.spelling
  · rw [if_pos keyword, if_pos keyword]
  · by_cases condition : text ∈ Condition.all.map Condition.spelling
    · rw [if_neg keyword, if_neg keyword, if_pos condition, if_pos condition]
    · simp only [if_neg keyword, if_neg condition] at identifier ⊢
      rw [if_pos (identifier.mpr trivial)]

theorem textClass_mark {character : Char} (noLetter : character.isAlpha = false) :
    textClass (String.ofList [character]) = .error := by
  have noWord {text : String} (isWord : IsWord text.toList) :
      String.ofList [character] ≠ text := by
    intro same
    rw [← same, String.toList_ofList] at isWord
    exact not_isWord_mark noLetter isWord
  have noKeyword : String.ofList [character] ∉ Keyword.all.map Keyword.spelling := by
    intro listed
    obtain ⟨keyword, _, same⟩ := List.mem_map.mp listed
    exact noWord (Lexer.isWord_keyword keyword) same.symm
  have noCondition : String.ofList [character] ∉ Condition.all.map Condition.spelling := by
    intro listed
    obtain ⟨condition, _, same⟩ := List.mem_map.mp listed
    exact noWord (Lexer.isWord_condition condition) same.symm
  have noName : isIdentifier (String.ofList [character]) ≠ true :=
    fun isName => noWord (isWord_of_isIdentifier isName) rfl
  rw [textClass, if_neg noKeyword, if_neg noCondition, if_neg noName]

/-- The texts of tokens are words, or a character alone that is neither blank nor a letter. -/
theorem TokenText.isWord_or_mark {text : String} (isText : TokenText text) :
    IsWord text.toList ∨ ∃ character, text = String.ofList [character] ∧
      Text.isBlank character = false ∧ character.isAlpha = false := by
  cases isText with
  | keyword keyword => exact .inl (Lexer.isWord_keyword keyword)
  | condition condition => exact .inl (Lexer.isWord_condition condition)
  | identifier isName => exact .inl (isWord_of_isIdentifier isName)
  | mark noBlank noLetter => exact .inr ⟨_, rfl, noBlank, noLetter⟩

theorem TokenText.ne_empty {text : String} (isText : TokenText text) : text.toList ≠ [] := by
  rcases isText.isWord_or_mark with isWord | ⟨character, rfl, _, _⟩
  · exact isWord.ne_nil
  · simp

/-- A text in front of others is one token, if no word goes on with what is behind it. -/
theorem tokensFrom_text {text : String} (isText : TokenText text) {rest : List Char}
    (ends : IsWord text.toList → EndsWord rest) (line : Nat) :
    tokensFrom line (text.toList ++ rest) =
      ⟨textClass text, text, line⟩ :: tokensFrom line rest := by
  rcases isText.isWord_or_mark with isWord | ⟨character, rfl, noBlank, noLetter⟩
  · rw [Lexer.tokensFrom_word isWord (ends isWord), textClass_of_isWord isWord,
      String.ofList_toList]
  · rw [String.toList_ofList, List.singleton_append, Lexer.tokensFrom_mark noBlank noLetter,
      textClass_mark noLetter]

namespace Spaced

theorem tokensFrom_gap {gap : List Char} (isGap : ∀ character ∈ gap, Text.isBlank character = true)
    (line : Nat) (rest : List Char) :
    tokensFrom line (gap ++ rest) = tokensFrom (line + gap.count '\n') rest := by
  induction gap generalizing line with
  | nil => simp
  | cons first others ih =>
      rw [List.forall_mem_cons] at isGap
      have count : (first :: others).count '\n' = [first].count '\n' + others.count '\n' := by
        rw [← List.singleton_append, List.count_append]
      rw [List.cons_append, Lexer.tokensFrom_blank isGap.1, ih isGap.2, count, Nat.add_assoc]

/-!
## Laid out texts
-/

variable {pieces : List Spaced} {piece : Spaced} {last : String}

theorem toList_layOut_cons (piece : Spaced) (pieces : List Spaced) (last : String) :
    (layOut last (piece :: pieces)).toList =
      piece.gap.toList ++ (piece.text.toList ++ (layOut last pieces).toList) := by
  simp [layOut]

theorem lineFeeds_cons (piece : Spaced) (pieces : List Spaced) :
    lineFeeds (piece :: pieces) = piece.gap.toList.count '\n' + lineFeeds pieces := by
  simp [lineFeeds]

theorem endsWord_of_isGap {gap : String} (isGap : IsGap gap) (nonempty : gap ≠ "")
    (rest : List Char) : EndsWord (gap.toList ++ rest) := by
  cases split : gap.toList with
  | nil => exact absurd (String.toList_eq_nil_iff.mp split) nonempty
  | cons first others =>
      intro character atHead
      cases atHead
      exact Lexer.isWordCharacter_of_isBlank (isGap _ (split ▸ List.mem_cons_self))

/-- What is laid out behind a word does not go on with it. -/
theorem WellSpaced.endsWord (wellSpaced : WellSpaced last pieces) {word : String}
    (apart : ∀ next ∈ pieces.head?, RunsInto word next.text → next.gap ≠ "")
    (isWord : IsWord word.toList) : EndsWord (layOut last pieces).toList := by
  cases wellSpaced with
  | nil isGap =>
      intro character atHead
      exact Lexer.isWordCharacter_of_isBlank (isGap character (List.mem_of_mem_head? atHead))
  | @cons next others isGap isText _ _ =>
      rw [toList_layOut_cons]
      by_cases noGap : next.gap = ""
      · intro character atHead
        apply Bool.eq_false_iff.mpr
        intro goesOn
        have starts : character ∈ next.text.toList.head? := by
          simpa [noGap, List.head?_append, List.head?_eq_some_head isText.ne_empty] using atHead
        exact apart next rfl ⟨isWord, character, starts, goesOn⟩ noGap
      · exact endsWord_of_isGap isGap noGap _

theorem tokensFrom_layOut (wellSpaced : WellSpaced last pieces) (line : Nat) :
    tokensFrom line (layOut last pieces).toList =
      pieces.mapIdx fun index piece =>
        ⟨textClass piece.text, piece.text, line + lineFeeds (pieces.take (index + 1))⟩ := by
  induction wellSpaced generalizing line with
  | nil isGap =>
      have scanned := tokensFrom_gap isGap line []
      rw [List.append_nil] at scanned
      simpa [layOut] using scanned
  | cons isGap isText apart wellSpaced ih =>
      rw [toList_layOut_cons, tokensFrom_gap isGap,
        tokensFrom_text isText (wellSpaced.endsWord apart), ih, List.mapIdx_cons]
      simp only [List.take_succ_cons, List.take_zero, lineFeeds_cons, Nat.add_assoc]
      rfl

end Spaced

/-- Texts of tokens with gaps between them, where a gap may be missing unless a word would go on
with the next text, are scanned back in order. Each has the class that belongs to its text, and
stands on the line that the gaps in front of it lead to. -/
theorem tokenize_layOut {pieces : List Spaced} {last : String}
    (wellSpaced : Spaced.WellSpaced last pieces) :
    tokenize (Spaced.layOut last pieces) =
      pieces.mapIdx fun index piece =>
        ⟨textClass piece.text, piece.text,
          1 + Spaced.lineFeeds (pieces.take (index + 1))⟩ :=
  Spaced.tokensFrom_layOut wellSpaced 1

/-- Only two of these texts need a gap between them: the first word would go on with the next. -/
theorem tokenize_layOut_tight :
    let pieces : List Spaced := [⟨"\n", "IF"⟩, ⟨"\u2003\n", "random-"⟩, ⟨"", "é"⟩, ⟨"", "9"⟩,
      ⟨"", "-"⟩, ⟨"", "true"⟩, ⟨"", "("⟩]
    Spaced.WellSpaced "\n" pieces ∧
      tokenize (Spaced.layOut "\n" pieces) =
        [⟨.keyword, "IF", 2⟩, ⟨.identifier, "random-", 3⟩, ⟨.error, "é", 3⟩, ⟨.error, "9", 3⟩,
          ⟨.error, "-", 3⟩, ⟨.condition, "true", 3⟩, ⟨.error, "(", 3⟩] := by
  intro pieces
  have isName : isIdentifier "random-" = true := isIdentifier_iff_wordClass.mpr (by decide)
  have wellSpaced : Spaced.WellSpaced "\n" pieces := by
    apply Spaced.WellSpaced.cons (by decide) (.keyword .IF) (by decide)
    apply Spaced.WellSpaced.cons (by decide) (.identifier isName) (by decide)
    apply Spaced.WellSpaced.cons (by decide) (@TokenText.mark 'é' (by decide) (by decide))
      (by decide)
    apply Spaced.WellSpaced.cons (by decide) (@TokenText.mark '9' (by decide) (by decide))
      (by decide)
    apply Spaced.WellSpaced.cons (by decide) (@TokenText.mark '-' (by decide) (by decide))
      (by decide)
    apply Spaced.WellSpaced.cons (by decide) (.condition .always) (by decide)
    apply Spaced.WellSpaced.cons (by decide) (@TokenText.mark '(' (by decide) (by decide))
      (by decide)
    exact .nil (by decide)
  exact ⟨wellSpaced, (tokenize_layOut wellSpaced).trans (by decide +kernel)⟩

end BlockLanguage
