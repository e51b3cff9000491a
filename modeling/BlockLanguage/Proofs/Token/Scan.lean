import BlockLanguage.Proofs.Token.Front

/-!
# Scanning word by word

A text is scanned in one way only: a run of blanks, a word, or a character alone, and then the
rest. Tokens that carry meaning do not depend on how many blanks stand between them, and a text
that is cut at a blank is scanned on both sides of the cut separately.
-/

set_option autoImplicit false

namespace BlockLanguage.Lexer

theorem scan_nil (line : Nat) : scan line [] = [] := by
  rw [scan]

theorem scan_of_frontLexeme {text taken rest : List Char} {tokenClass : TokenClass}
    (split : text = taken ++ rest) (nonempty : taken ≠ [])
    (atFront : frontLexeme text = ⟨tokenClass, taken⟩) (line : Nat) :
    scan line text =
      ⟨tokenClass, String.ofList taken, line⟩ :: scan (line + taken.count '\n') rest := by
  cases text with
  | nil => exact absurd (List.append_eq_nil_iff.mp split.symm).1 nonempty
  | cons first others =>
      rw [scan]
      simp only [atFront]
      rw [split, List.drop_left]

/-- There is no line feed in a word. -/
theorem IsWord.count_lineFeed {word : List Char} (isWord : IsWord word) :
    word.count '\n' = 0 := by
  refine List.count_eq_zero.mpr fun member => ?_
  have goesOn := isWord.isWordCharacter '\n' member
  rw [isWordCharacter_of_isBlank (by decide)] at goesOn
  cases goesOn

theorem scan_word {word rest : List Char} (isWord : IsWord word) (ends : EndsWord rest)
    (line : Nat) :
    scan line (word ++ rest) = ⟨wordClass word, String.ofList word, line⟩ :: scan line rest := by
  rw [scan_of_frontLexeme rfl isWord.ne_nil (frontLexeme_word isWord ends),
    isWord.count_lineFeed, Nat.add_zero]

theorem scan_blank {first : Char} {rest : List Char} (blank : Text.isBlank first = true)
    (line : Nat) :
    scan line (first :: rest) =
      ⟨.whitespace, String.ofList ((first :: rest).takeWhile Text.isBlank), line⟩ ::
        scan (line + ((first :: rest).takeWhile Text.isBlank).count '\n')
          ((first :: rest).dropWhile Text.isBlank) :=
  scan_of_frontLexeme List.takeWhile_append_dropWhile.symm (by simp [blank])
    (frontLexeme_blank blank) line

/-- There is no line feed in a character that is no blank. -/
theorem count_lineFeed_mark {first : Char} (noBlank : Text.isBlank first = false) :
    [first].count '\n' = 0 := by
  refine List.count_eq_zero.mpr fun member => ?_
  rw [← List.mem_singleton.mp member] at noBlank
  cases noBlank

theorem scan_mark {first : Char} {rest : List Char} (noBlank : Text.isBlank first = false)
    (noLetter : first.isAlpha = false) (line : Nat) :
    scan line (first :: rest) = ⟨.error, String.ofList [first], line⟩ :: scan line rest := by
  have scanned := scan_of_frontLexeme (List.singleton_append (l := rest)).symm (by simp)
    (frontLexeme_mark noBlank noLetter) line
  rw [scanned, count_lineFeed_mark noBlank, Nat.add_zero]

/-- At least one blank, and nothing else. -/
def IsBlankRun (text : List Char) : Prop :=
  text ≠ [] ∧ ∀ character ∈ text, Text.isBlank character = true

/-- A run of blanks in front of such a text ends there. -/
def EndsBlanks (rest : List Char) : Prop :=
  ∀ character ∈ rest.head?, Text.isBlank character = false

private theorem not_of_mem_head?_dropWhile {holds : Char → Bool} {text : List Char} :
    ∀ character ∈ (text.dropWhile holds).head?, holds character = false := by
  intro character atHead
  have refused := List.head?_dropWhile_not holds text
  rw [Option.mem_def.mp atHead] at refused
  exact refused

theorem frontLexeme_blanks {run rest : List Char} (isRun : IsBlankRun run)
    (ends : EndsBlanks rest) : frontLexeme (run ++ rest) = ⟨.whitespace, run⟩ := by
  obtain ⟨nonempty, blank⟩ := isRun
  have stops : rest.takeWhile Text.isBlank = [] := by
    cases rest with
    | nil => rfl
    | cons character rest => simp [ends character rfl]
  have taken : (run ++ rest).takeWhile Text.isBlank = run := by
    rw [List.takeWhile_append_of_pos blank, stops, List.append_nil]
  cases run with
  | nil => exact absurd rfl nonempty
  | cons first others =>
      have atFront : frontLexeme (first :: (others ++ rest)) = _ :=
        frontLexeme_blank (blank first List.mem_cons_self)
      rw [← List.cons_append, taken] at atFront
      exact atFront

theorem scan_blanks {run rest : List Char} (isRun : IsBlankRun run) (ends : EndsBlanks rest)
    (line : Nat) :
    scan line (run ++ rest) =
      ⟨.whitespace, String.ofList run, line⟩ :: scan (line + run.count '\n') rest :=
  scan_of_frontLexeme rfl isRun.1 (frontLexeme_blanks isRun ends) line

private theorem exists_blanks {first : Char} (rest : List Char)
    (blank : Text.isBlank first = true) :
    ∃ run others, IsBlankRun run ∧ EndsBlanks others ∧ first :: rest = run ++ others := by
  refine ⟨(first :: rest).takeWhile Text.isBlank, (first :: rest).dropWhile Text.isBlank,
    ⟨by simp [blank], List.all_eq_true.mp List.all_takeWhile⟩, not_of_mem_head?_dropWhile, ?_⟩
  rw [List.takeWhile_append_dropWhile]

private theorem exists_word {first : Char} (rest : List Char) (letter : first.isAlpha = true) :
    ∃ word others, IsWord word ∧ EndsWord others ∧ first :: rest = word ++ others := by
  refine ⟨first :: rest.takeWhile isWordCharacter, rest.dropWhile isWordCharacter,
    ⟨letter, List.all_eq_true.mp List.all_takeWhile⟩, not_of_mem_head?_dropWhile, ?_⟩
  rw [List.cons_append, List.takeWhile_append_dropWhile]

/-- A property holds of every text if it passes from the rest of a text to the whole over each
kind of lexeme. -/
@[elab_as_elim]
theorem lexeme_induct {motive : List Char → Prop} (nil : motive [])
    (blanks : ∀ run rest, IsBlankRun run → EndsBlanks rest → motive rest → motive (run ++ rest))
    (word : ∀ word rest, IsWord word → EndsWord rest → motive rest → motive (word ++ rest))
    (mark : ∀ first rest, Text.isBlank first = false → first.isAlpha = false → motive rest →
      motive (first :: rest)) (text : List Char) : motive text := by
  -- a lexeme is taken in one piece, so what is left is shorter but no immediate part of the text
  induction length : text.length using Nat.strongRecOn generalizing text with
  | ind size ih =>
      subst length
      have shorter : ∀ front others, front ≠ [] → text = front ++ others → motive others := by
        intro front others nonempty split
        refine ih others.length ?_ others rfl
        have pos := List.length_pos_iff.mpr nonempty
        rw [split, List.length_append]
        omega
      cases text with
      | nil => exact nil
      | cons first rest =>
          by_cases isBlank : Text.isBlank first = true
          · obtain ⟨run, others, isRun, ends, split⟩ := exists_blanks rest isBlank
            have fromRest := shorter run others isRun.1 split
            rw [split]
            exact blanks run others isRun ends fromRest
          · by_cases letter : first.isAlpha = true
            · obtain ⟨front, others, isWord, ends, split⟩ := exists_word rest letter
              have fromRest := shorter front others isWord.ne_nil split
              rw [split]
              exact word front others isWord ends fromRest
            · exact mark first rest (Bool.eq_false_iff.mpr isBlank)
                (Bool.eq_false_iff.mpr letter) (shorter [first] rest (by simp) rfl)

/-- A property holds of every text if it passes from the rest of a text to the whole over a
blank, over a word, and over any other character. -/
@[elab_as_elim]
theorem text_induct {motive : List Char → Prop} (nil : motive [])
    (blank : ∀ first rest, Text.isBlank first = true → motive rest → motive (first :: rest))
    (word : ∀ word rest, IsWord word → EndsWord rest → motive rest → motive (word ++ rest))
    (mark : ∀ first rest, Text.isBlank first = false → first.isAlpha = false → motive rest →
      motive (first :: rest)) (text : List Char) : motive text := by
  induction text using lexeme_induct with
  | nil => exact nil
  | blanks run rest isRun _ ih =>
      have overBlanks : ∀ run : List Char, (∀ character ∈ run, Text.isBlank character = true) →
          motive (run ++ rest) := by
        intro run
        induction run with
        | nil => exact fun _ => ih
        | cons first others overOthers =>
            intro allBlank
            rw [List.forall_mem_cons] at allBlank
            exact blank first (others ++ rest) allBlank.1 (overOthers allBlank.2)
      exact overBlanks run isRun.2
  | word front rest isWord ends ih => exact word front rest isWord ends ih
  | mark first rest noBlank noLetter ih => exact mark first rest noBlank noLetter ih

/-- Only the empty text has no tokens. -/
theorem scan_eq_nil_iff {line : Nat} {text : List Char} : scan line text = [] ↔ text = [] := by
  cases text with
  | nil => simp [scan_nil]
  | cons first rest =>
      rw [scan]
      simp

/-!
## Tokens that carry meaning
-/

/-- The tokens of a text that carry meaning, its first character standing on the given line. -/
def tokensFrom (line : Nat) (text : List Char) : List Token :=
  (scan line text).filter (·.tokenClass != .whitespace)

theorem tokenize_eq (source : String) : tokenize source = tokensFrom 1 source.toList := rfl

@[simp] theorem tokensFrom_nil (line : Nat) : tokensFrom line [] = [] := by
  simp [tokensFrom, scan_nil]

theorem wordClass_ne_whitespace (word : List Char) : wordClass word ≠ .whitespace := by
  unfold wordClass
  split
  · decide
  · split <;> decide

theorem tokensFrom_word {word rest : List Char} (isWord : IsWord word) (ends : EndsWord rest)
    (line : Nat) :
    tokensFrom line (word ++ rest) =
      ⟨wordClass word, String.ofList word, line⟩ :: tokensFrom line rest := by
  simp [tokensFrom, scan_word isWord ends, wordClass_ne_whitespace]

theorem tokensFrom_mark {first : Char} {rest : List Char} (noBlank : Text.isBlank first = false)
    (noLetter : first.isAlpha = false) (line : Nat) :
    tokensFrom line (first :: rest) =
      ⟨.error, String.ofList [first], line⟩ :: tokensFrom line rest := by
  simp [tokensFrom, scan_mark noBlank noLetter]

private theorem tokensFrom_eq_dropWhile (line : Nat) (text : List Char) :
    tokensFrom line text =
      tokensFrom (line + (text.takeWhile Text.isBlank).count '\n')
        (text.dropWhile Text.isBlank) := by
  cases text with
  | nil => simp
  | cons first rest =>
      by_cases blank : Text.isBlank first = true
      · simp [tokensFrom, scan_blank blank]
      · simp [blank]

/-- Blanks in front of tokens count for nothing but the lines that they end. -/
theorem tokensFrom_blank {first : Char} {rest : List Char} (blank : Text.isBlank first = true)
    (line : Nat) :
    tokensFrom line (first :: rest) = tokensFrom (line + [first].count '\n') rest := by
  rw [tokensFrom_eq_dropWhile line, tokensFrom_eq_dropWhile _ rest,
    List.takeWhile_cons_of_pos blank, List.dropWhile_cons_of_pos blank,
    ← List.singleton_append, List.count_append, Nat.add_assoc]

private theorem endsWord_append_blank {rest : List Char} (ends : EndsWord rest) {gap : Char}
    (blank : Text.isBlank gap = true) (after : List Char) : EndsWord (rest ++ gap :: after) := by
  intro character atHead
  cases rest with
  | nil =>
      cases atHead
      exact isWordCharacter_of_isBlank blank
  | cons first rest => exact ends character atHead

/-- No token reaches over a blank. -/
theorem tokensFrom_append_blank (line : Nat) (before : List Char) {gap : Char}
    (blank : Text.isBlank gap = true) (after : List Char) :
    tokensFrom line (before ++ gap :: after) =
      tokensFrom line before ++
        tokensFrom (line + (before ++ [gap]).count '\n') after := by
  induction before using text_induct generalizing line with
  | nil => simp [tokensFrom_blank blank]
  | blank first rest isBlank ih =>
      have count : ([first] ++ (rest ++ [gap])).count '\n' =
          [first].count '\n' + (rest ++ [gap]).count '\n' := List.count_append
      rw [List.cons_append, tokensFrom_blank isBlank, tokensFrom_blank isBlank, ih,
        Nat.add_assoc, ← count, List.singleton_append, List.cons_append]
  | word word rest isWord ends ih =>
      -- the blank also ends a word that reaches up to it
      have count : (word ++ (rest ++ [gap])).count '\n' = (rest ++ [gap]).count '\n' := by
        rw [List.count_append, isWord.count_lineFeed, Nat.zero_add]
      rw [List.append_assoc, tokensFrom_word isWord (endsWord_append_blank ends blank after),
        tokensFrom_word isWord ends, ih, List.append_assoc, count, List.cons_append]
  | mark first rest noBlank noLetter ih =>
      have noLineFeed : first ≠ '\n' := by
        intro same
        subst same
        cases noBlank
      rw [List.cons_append, tokensFrom_mark noBlank noLetter, tokensFrom_mark noBlank noLetter,
        ih, List.cons_append, List.cons_append, List.count_cons_of_ne noLineFeed]

end BlockLanguage.Lexer
