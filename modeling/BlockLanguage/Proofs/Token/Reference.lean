import BlockLanguage.Proofs.Token.Genuine

/-!
# What the tokens of a text are

The tokens of a text are told without looking at how they are found: they make up the text one
after another, and each is a run of blanks or a word that cannot be made any longer, or some
other character alone. A text has exactly one such list of tokens, the one that is scanned.
-/

set_option autoImplicit false

namespace BlockLanguage

namespace Lexer

/-- A part of a text with a property that no larger part around it has. -/
def Maximal (holds : List Char → Prop) (before text after : List Char) : Prop :=
  holds text ∧ ∀ front back, front <:+ before → back <+: after →
    holds (front ++ text ++ back) → front = [] ∧ back = []

/-- The class of a word, told by its spelling. -/
structure HasWordClass (tokenClass : TokenClass) (word : String) : Prop where
  keyword : tokenClass = .keyword ↔ ∃ keyword : Keyword, keyword.spelling = word
  condition : tokenClass = .condition ↔ ∃ condition : Condition, condition.spelling = word
  identifier : tokenClass = .identifier ↔
    (¬∃ keyword : Keyword, keyword.spelling = word) ∧
      ¬∃ condition : Condition, condition.spelling = word

/-- A token between what stands before and after it in a text. -/
inductive CutOut (before : List Char) (token : Token) (after : List Char) : Prop where
  | blanks (isRun : Maximal IsBlankRun before token.text.toList after)
      (hasClass : token.tokenClass = .whitespace)
  | word (isWord : Maximal IsWord before token.text.toList after)
      (hasClass : HasWordClass token.tokenClass token.text)
  | mark {character : Char} (isText : token.text.toList = [character])
      (noBlank : Text.isBlank character = false) (noLetter : character.isAlpha = false)
      (hasClass : token.tokenClass = .error)

/-- The text that tokens make up. -/
def joined (tokens : List Token) : List Char :=
  tokens.flatMap (·.text.toList)

@[simp] theorem joined_nil : joined [] = [] := rfl

@[simp] theorem joined_cons (token : Token) (others : List Token) :
    joined (token :: others) = token.text.toList ++ joined others :=
  List.flatMap_cons

end Lexer

open Lexer

/-- The tokens of a source text, blanks included: what they are and on which lines they start. -/
structure Tokenizes (source : String) (tokens : List Token) : Prop where
  nonempty : ∀ token ∈ tokens, token.text ≠ ""
  text : joined tokens = source.toList
  cutOut : ∀ front token back, tokens = front ++ token :: back →
    CutOut (joined front) token (joined back)
  line : ∀ front token back, tokens = front ++ token :: back →
    token.line = 1 + (joined front).count '\n'

namespace Lexer

/-!
## Word classes
-/

theorem HasWordClass.unique {first second : TokenClass} {word : String}
    (hasFirst : HasWordClass first word) (hasSecond : HasWordClass second word) :
    first = second := by
  by_cases keyword : ∃ keyword : Keyword, keyword.spelling = word
  · rw [hasFirst.keyword.mpr keyword, hasSecond.keyword.mpr keyword]
  · by_cases condition : ∃ condition : Condition, condition.spelling = word
    · rw [hasFirst.condition.mpr condition, hasSecond.condition.mpr condition]
    · rw [hasFirst.identifier.mpr ⟨keyword, condition⟩,
        hasSecond.identifier.mpr ⟨keyword, condition⟩]

private theorem wordClass_of_unlisted {word : String}
    (noKeyword : ¬∃ keyword : Keyword, keyword.spelling = word)
    (noCondition : ¬∃ condition : Condition, condition.spelling = word) :
    wordClass word.toList = .identifier := by
  have unlisted (spellings : List String) (absent : word ∉ spellings) :
      word.toList ∉ spellings.map String.toList := by
    intro listed
    obtain ⟨spelling, member, same⟩ := List.mem_map.mp listed
    exact absent (String.toList_inj.mp same ▸ member)
  have keywords : word ∉ Keyword.all.map Keyword.spelling := fun listed =>
    noKeyword ((List.mem_map.mp listed).imp fun _ => And.right)
  have conditions : word ∉ Condition.all.map Condition.spelling := fun listed =>
    noCondition ((List.mem_map.mp listed).imp fun _ => And.right)
  unfold wordClass
  rw [if_neg (unlisted _ keywords), if_neg (unlisted _ conditions)]

theorem hasWordClass_wordClass (word : String) : HasWordClass (wordClass word.toList) word := by
  by_cases keyword : ∃ keyword : Keyword, keyword.spelling = word
  · have isClass : wordClass word.toList = .keyword := by
      obtain ⟨keyword, rfl⟩ := keyword
      exact wordClass_keyword keyword
    -- a spelling of both kinds would have the class of a condition
    have noCondition : ¬∃ condition : Condition, condition.spelling = word := by
      rintro ⟨condition, rfl⟩
      rw [wordClass_condition] at isClass
      cases isClass
    rw [isClass]
    constructor <;> simp [keyword, noCondition]
  · by_cases condition : ∃ condition : Condition, condition.spelling = word
    · have isClass : wordClass word.toList = .condition := by
        obtain ⟨condition, rfl⟩ := condition
        exact wordClass_condition condition
      rw [isClass]
      constructor <;> simp [keyword, condition]
    · rw [wordClass_of_unlisted keyword condition]
      constructor <;> simp [keyword, condition]

theorem hasWordClass_iff {tokenClass : TokenClass} {word : String} :
    HasWordClass tokenClass word ↔ tokenClass = wordClass word.toList := by
  constructor
  · intro hasClass
    exact hasClass.unique (hasWordClass_wordClass word)
  · intro same
    subst same
    exact hasWordClass_wordClass word

/-!
## Boundaries
-/

/-- No part of a text with the property reaches over the boundary between its two sides. -/
def Separates (holds : List Char → Prop) (before after : List Char) : Prop :=
  ∀ front back, front <:+ before → back <+: after → holds (front ++ back) →
    front = [] ∨ back = []

/-- Neither a word nor a run of blanks reaches over the boundary. -/
structure Boundary (before after : List Char) : Prop where
  words : Separates IsWord before after
  blanks : Separates IsBlankRun before after

theorem boundary_nil (after : List Char) : Boundary [] after :=
  ⟨fun _ _ isSuffix _ _ => .inl (List.suffix_nil.mp isSuffix),
    fun _ _ isSuffix _ _ => .inl (List.suffix_nil.mp isSuffix)⟩

variable {before text rest : List Char}

/-- What stands between two boundaries cannot be made any longer. -/
theorem Separates.maximal {holds : List Char → Prop} (isHeld : holds text) (nonempty : text ≠ [])
    (left : Separates holds before (text ++ rest)) (right : Separates holds (before ++ text) rest) :
    Maximal holds before text rest := by
  apply And.intro isHeld
  intro front back isSuffix isPrefix larger
  have noFront : front = [] := by
    rw [List.append_assoc] at larger
    have reaches := left front (text ++ back) isSuffix
      ((List.prefix_append_right_inj text).mpr isPrefix) larger
    simpa [nonempty] using reaches
  subst noFront
  have reaches := right text back (List.suffix_append before text) isPrefix larger
  exact ⟨rfl, by simpa [nonempty] using reaches⟩

/-- The character behind a part that cannot be made any longer would not fit. -/
theorem Maximal.not_append_head {holds : List Char → Prop}
    (maximal : Maximal holds before text rest) :
    ∀ character ∈ rest.head?, ¬holds (text ++ [character]) := by
  intro character atHead larger
  obtain ⟨others, rfl⟩ := List.head?_eq_some_iff.mp (Option.mem_def.mp atHead)
  have stands : [character] <+: character :: others := List.prefix_append [character] others
  cases (maximal.2 [] [character] List.nil_suffix stands larger).2

theorem Separates.of_head {holds : List Char → Prop} {fits : Char → Bool}
    (allFit : ∀ text, holds text → ∀ character ∈ text, fits character = true)
    (ends : ∀ character ∈ rest.head?, fits character = false) : Separates holds before rest := by
  intro front back _ isPrefix larger
  cases back with
  | nil => exact .inr rfl
  | cons character back =>
      obtain ⟨others, rfl⟩ := isPrefix
      have fit := allFit _ larger character (by simp)
      rw [ends character (by simp)] at fit
      cases fit

theorem Separates.of_last {holds : List Char → Prop} {fits : Char → Bool}
    (allFit : ∀ text, holds text → ∀ character ∈ text, fits character = true)
    (ends : ∀ character ∈ before.getLast?, fits character = false) :
    Separates holds before rest := by
  intro front back isSuffix _ larger
  rcases List.eq_nil_or_concat front with rfl | ⟨others, character, rfl⟩
  · exact .inl rfl
  · obtain ⟨lead, rfl⟩ := isSuffix
    have fit := allFit _ larger character (by simp)
    rw [ends character (by simp)] at fit
    cases fit

private theorem all_blank_of_isBlankRun (run : List Char) (isRun : IsBlankRun run) :
    ∀ character ∈ run, Text.isBlank character = true :=
  isRun.2

private theorem all_isWordCharacter_of_isWord (word : List Char) (isWord : IsWord word) :
    ∀ character ∈ word, isWordCharacter character = true :=
  isWord.isWordCharacter

private theorem mem_of_getLast?_append {front : List Char} (nonempty : text ≠ []) :
    ∀ character ∈ (front ++ text).getLast?, character ∈ text := by
  intro character atEnd
  rw [List.getLast?_append, List.getLast?_eq_some_getLast nonempty, Option.some_or,
    Option.mem_some] at atEnd
  exact atEnd ▸ List.getLast_mem nonempty

theorem boundary_word {word : List Char} (isWord : IsWord word) (ends : EndsWord rest) :
    Boundary (before ++ word) rest := by
  constructor
  · exact Separates.of_head all_isWordCharacter_of_isWord ends
  · apply Separates.of_last all_blank_of_isBlankRun
    intro character atEnd
    have member := mem_of_getLast?_append isWord.ne_nil character atEnd
    exact isBlank_of_isWordCharacter (isWord.isWordCharacter character member)

theorem boundary_blanks {run : List Char} (isRun : IsBlankRun run) (ends : EndsBlanks rest) :
    Boundary (before ++ run) rest := by
  constructor
  · apply Separates.of_last all_isWordCharacter_of_isWord
    intro character atEnd
    have member := mem_of_getLast?_append isRun.1 character atEnd
    exact isWordCharacter_of_isBlank (isRun.2 character member)
  · exact Separates.of_head all_blank_of_isBlankRun ends

theorem boundary_mark {first : Char} (noBlank : Text.isBlank first = false)
    (noLetter : first.isAlpha = false) (left : Boundary before (first :: rest)) :
    Boundary (before ++ [first]) rest := by
  constructor
  · -- a hyphen or a digit goes on with a word, but no word reaches it from the left
    intro front back isSuffix isPrefix larger
    rcases List.suffix_concat_iff.mp isSuffix with none | ⟨others, rfl, within⟩
    · exact .inl none
    · rw [List.append_assoc, List.singleton_append] at larger
      have reaches := left.words others (first :: back) within
        (List.cons_prefix_cons.mpr ⟨rfl, isPrefix⟩) larger
      rcases reaches with rfl | noBack
      · rw [List.nil_append, IsWord, noLetter] at larger
        cases larger.1
      · cases noBack
  · apply Separates.of_last all_blank_of_isBlankRun
    intro character atEnd
    have member := mem_of_getLast?_append (List.cons_ne_nil first []) character atEnd
    rw [List.mem_singleton.mp member]
    exact noBlank

theorem Maximal.endsWord {word : List Char} (maximal : Maximal IsWord before word rest) :
    EndsWord rest := by
  intro character atHead
  apply Bool.eq_false_iff.mpr
  intro goesOn
  apply maximal.not_append_head character atHead
  cases word with
  | nil => exact False.elim maximal.1
  | cons first others =>
      apply And.intro maximal.1.1
      exact List.forall_mem_append.mpr ⟨maximal.1.2, List.forall_mem_singleton.mpr goesOn⟩

theorem Maximal.endsBlanks {run : List Char} (maximal : Maximal IsBlankRun before run rest) :
    EndsBlanks rest := by
  intro character atHead
  apply Bool.eq_false_iff.mpr
  intro blank
  apply maximal.not_append_head character atHead
  apply And.intro (by simp)
  exact List.forall_mem_append.mpr ⟨maximal.1.2, List.forall_mem_singleton.mpr blank⟩

/-!
## Token by token
-/

/-- Tokens that are cut out one after another behind the given text. -/
def CutsUp : List Char → List Token → Prop
  | _, [] => True
  | before, token :: others =>
    CutOut before token (joined others) ∧ token.line = 1 + before.count '\n' ∧
      CutsUp (before ++ token.text.toList) others

theorem cutsUp_iff {before : List Char} {tokens : List Token} :
    CutsUp before tokens ↔ ∀ front token back, tokens = front ++ token :: back →
      CutOut (before ++ joined front) token (joined back) ∧
        token.line = 1 + (before ++ joined front).count '\n' := by
  induction tokens generalizing before with
  | nil => simp [CutsUp]
  | cons first others ih =>
      simp only [CutsUp, ih]
      constructor
      · rintro ⟨cutOut, line, behind⟩ front token back split
        cases front with
        | nil =>
            obtain ⟨rfl, rfl⟩ := List.cons.inj split
            simpa using ⟨cutOut, line⟩
        | cons head front =>
            obtain ⟨rfl, rest⟩ := List.cons.inj split
            simpa using behind front token back rest
      · intro each
        obtain ⟨cutOut, line⟩ := each [] first others rfl
        refine ⟨by simpa using cutOut, by simpa using line, ?_⟩
        intro front token back split
        simpa using each (first :: front) token back (congrArg (first :: ·) split)

theorem CutOut.ne_empty {before after : List Char} {token : Token}
    (cutOut : CutOut before token after) : token.text ≠ "" := by
  have nonempty : token.text.toList ≠ [] := by
    cases cutOut with
    | blanks isRun _ => exact isRun.1.1
    | word isWord _ => exact isWord.1.ne_nil
    | mark isText _ _ _ => simp [isText]
  simpa using nonempty

theorem tokenizes_iff {source : String} {tokens : List Token} :
    Tokenizes source tokens ↔ joined tokens = source.toList ∧ CutsUp [] tokens := by
  rw [cutsUp_iff]
  simp only [List.nil_append]
  constructor
  · intro tokenizes
    exact ⟨tokenizes.text, fun front token back split =>
      ⟨tokenizes.cutOut front token back split, tokenizes.line front token back split⟩⟩
  · rintro ⟨text, each⟩
    refine ⟨?_, text, fun front token back split => (each front token back split).1,
      fun front token back split => (each front token back split).2⟩
    intro token member
    obtain ⟨front, back, split⟩ := List.append_of_mem member
    exact (each front token back split).1.ne_empty

theorem joined_scan (line : Nat) (text : List Char) : joined (scan line text) = text := by
  induction text using lexeme_induct generalizing line with
  | nil => simp [scan_nil]
  | blanks run rest isRun ends ih => simp [scan_blanks isRun ends, ih]
  | word word rest isWord ends ih => simp [scan_word isWord ends, ih]
  | mark first rest noBlank noLetter ih => simp [scan_mark noBlank noLetter, ih]

/-- The scan cuts a text up from any boundary on. -/
theorem cutsUp_scan {before text : List Char} (left : Boundary before text) :
    CutsUp before (scan (1 + before.count '\n') text) := by
  induction text using lexeme_induct generalizing before with
  | nil => simp [scan_nil, CutsUp]
  | blanks run rest isRun ends ih =>
      have right : Boundary (before ++ run) rest := boundary_blanks isRun ends
      have maximal := left.blanks.maximal isRun isRun.1 right.blanks
      simp only [scan_blanks isRun ends, CutsUp, joined_scan, String.toList_ofList, Nat.add_assoc,
        ← List.count_append, true_and]
      exact ⟨.blanks (by simpa using maximal) rfl, ih right⟩
  | word word rest isWord ends ih =>
      have right : Boundary (before ++ word) rest := boundary_word isWord ends
      have maximal := left.words.maximal isWord isWord.ne_nil right.words
      have behind := ih right
      rw [List.count_append, isWord.count_lineFeed, Nat.add_zero] at behind
      simp only [scan_word isWord ends, CutsUp, joined_scan, String.toList_ofList,
        true_and]
      exact ⟨.word (by simpa using maximal) (hasWordClass_iff.mpr (by simp)), behind⟩
  | mark first rest noBlank noLetter ih =>
      have behind := ih (boundary_mark noBlank noLetter left)
      have noLineFeed : [first].count '\n' = 0 := count_lineFeed_mark noBlank
      rw [List.count_append, noLineFeed, Nat.add_zero] at behind
      simp only [scan_mark noBlank noLetter, CutsUp, joined_scan, String.toList_ofList,
        true_and]
      exact ⟨.mark (by simp) noBlank noLetter rfl, behind⟩

/-- Tokens that are cut out one after another are those that are scanned. -/
theorem CutsUp.eq_scan {before : List Char} {tokens : List Token}
    (cutsUp : CutsUp before tokens) :
    tokens = scan (1 + before.count '\n') (joined tokens) := by
  induction tokens generalizing before with
  | nil => simp [scan_nil]
  | cons token others ih =>
      obtain ⟨cutOut, line, behind⟩ := cutsUp
      have scanned := ih behind
      rw [List.count_append, ← Nat.add_assoc] at scanned
      obtain ⟨tokenClass, text, tokenLine⟩ := token
      subst line
      rw [joined_cons]
      cases cutOut with
      | blanks isRun hasClass =>
          obtain rfl : tokenClass = .whitespace := hasClass
          rw [scan_blanks isRun.1 isRun.endsBlanks, ← scanned, String.ofList_toList]
      | word isWord hasClass =>
          obtain rfl : tokenClass = wordClass text.toList := hasWordClass_iff.mp hasClass
          rw [isWord.1.count_lineFeed, Nat.add_zero] at scanned
          rw [scan_word isWord.1 isWord.endsWord, ← scanned, String.ofList_toList]
      | @mark character isText noBlank noLetter hasClass =>
          obtain rfl : tokenClass = .error := hasClass
          simp only at isText scanned
          rw [isText, count_lineFeed_mark noBlank, Nat.add_zero] at scanned
          rw [isText, List.singleton_append, scan_mark noBlank noLetter, ← scanned, ← isText,
            String.ofList_toList]

end Lexer

/-- A source text has exactly one list of tokens, the one that is scanned. -/
theorem tokenizes_iff_eq_allTokens {source : String} {tokens : List Token} :
    Tokenizes source tokens ↔ tokens = allTokens source := by
  rw [tokenizes_iff]
  constructor
  · rintro ⟨text, cutsUp⟩
    rw [cutsUp.eq_scan, text]
    rfl
  · intro same
    subst same
    exact ⟨joined_scan 1 source.toList, cutsUp_scan (boundary_nil source.toList)⟩

end BlockLanguage
