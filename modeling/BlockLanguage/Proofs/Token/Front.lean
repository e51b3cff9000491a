import BlockLanguage.Token.Lexer

/-!
# The lexeme at the front of a text

The rules of all classes compete for the front of a text. What wins is a run of blanks, a word
with the class that the whole word has, or a single character that fits nowhere else.
-/

set_option autoImplicit false

namespace BlockLanguage.Lexer

/-- An ASCII letter and then any number of characters that words go on with. -/
def IsWord : List Char → Prop
  | [] => False
  | first :: rest => first.isAlpha = true ∧ ∀ character ∈ rest, isWordCharacter character = true

instance : DecidablePred IsWord
  | [] => inferInstanceAs (Decidable False)
  | first :: rest =>
    decidable_of_iff (first.isAlpha = true ∧ rest.all isWordCharacter = true) (by
      rw [List.all_eq_true]
      exact Iff.rfl)

/-- A word in front of such a text ends there. -/
def EndsWord (rest : List Char) : Prop :=
  ∀ character ∈ rest.head?, isWordCharacter character = false

/-- The class of a word goes by the whole word. -/
def wordClass (word : List Char) : TokenClass :=
  if word ∈ (Keyword.all.map Keyword.spelling).map String.toList then .keyword
  else if word ∈ (Condition.all.map Condition.spelling).map String.toList then .condition
  else .identifier

theorem IsWord.ne_nil {word : List Char} (isWord : IsWord word) : word ≠ [] := by
  intro same
  subst same
  exact isWord

theorem isWordCharacter_of_isAlpha {character : Char} (letter : character.isAlpha = true) :
    isWordCharacter character = true := by
  simp [isWordCharacter, Char.isAlphanum, letter]

theorem IsWord.isWordCharacter {word : List Char} (isWord : IsWord word) :
    ∀ character ∈ word, isWordCharacter character = true := by
  cases word with
  | nil => exact False.elim isWord
  | cons first rest =>
      exact List.forall_mem_cons.mpr ⟨isWordCharacter_of_isAlpha isWord.1, isWord.2⟩

private theorem toNat_bounds_of_isWordCharacter {character : Char}
    (goesOn : isWordCharacter character = true) :
    45 ≤ character.toNat ∧ character.toNat ≤ 122 := by
  rcases (Bool.or_eq_true _ _).mp goesOn with alphanumeric | hyphen
  · rcases (Bool.or_eq_true _ _).mp alphanumeric with letter | digit
    · rcases (Bool.or_eq_true _ _).mp letter with upper | lower
      · obtain ⟨first, last⟩ := of_decide_eq_true upper
        have first : 65 ≤ character.toNat := first
        have last : character.toNat ≤ 90 := last
        omega
      · obtain ⟨first, last⟩ := (Bool.and_eq_true _ _).mp lower
        have first : 97 ≤ character.toNat := of_decide_eq_true first
        have last : character.toNat ≤ 122 := of_decide_eq_true last
        omega
    · obtain ⟨first, last⟩ := (Bool.and_eq_true _ _).mp digit
      have first : 48 ≤ character.toNat := of_decide_eq_true first
      have last : character.toNat ≤ 57 := of_decide_eq_true last
      omega
  · rw [beq_iff_eq.mp hyphen]
    decide

/-- No blank belongs to a word. -/
theorem isWordCharacter_of_isBlank {character : Char} (blank : Text.isBlank character = true) :
    isWordCharacter character = false := by
  refine Bool.eq_false_iff.mpr fun goesOn => ?_
  have bounds := toNat_bounds_of_isWordCharacter goesOn
  simp [Text.isBlank, Text.inRanges, Text.blankRanges] at blank
  omega

theorem isAlpha_of_isBlank {character : Char} (blank : Text.isBlank character = true) :
    character.isAlpha = false := by
  refine Bool.eq_false_iff.mpr fun letter => ?_
  have goesOn := isWordCharacter_of_isAlpha letter
  rw [isWordCharacter_of_isBlank blank] at goesOn
  cases goesOn

theorem isBlank_of_isWordCharacter {character : Char}
    (goesOn : isWordCharacter character = true) : Text.isBlank character = false := by
  refine Bool.eq_false_iff.mpr fun blank => ?_
  rw [isWordCharacter_of_isBlank blank] at goesOn
  cases goesOn

/-!
## Spellings at the front
-/

/-- Words of which none is the front part of another one. -/
structure Spellings (spellings : List String) : Prop where
  isWord : ∀ spelling ∈ spellings, IsWord spelling.toList
  apart : ∀ first ∈ spellings, ∀ second ∈ spellings,
    first.toList <+: second.toList → first = second

theorem spellings_keyword : Spellings (Keyword.all.map Keyword.spelling) :=
  ⟨by decide, by decide⟩

theorem spellings_condition : Spellings (Condition.all.map Condition.spelling) :=
  ⟨by decide, by decide⟩

private theorem prefix_of_endsWord {word front rest : List Char} (isWord : IsWord front)
    (ends : EndsWord rest) (stands : front <+: word ++ rest) : front <+: word := by
  rcases List.prefix_or_prefix_of_prefix stands (List.prefix_append word rest) with
    within | ⟨extra, rfl⟩
  · exact within
  · cases extra with
    | nil => simp
    | cons character extra =>
        obtain ⟨_, same⟩ := (List.prefix_append_right_inj word).mp stands
        have goesOn := isWord.isWordCharacter character (by simp)
        rw [ends character (by simp [← same])] at goesOn
        cases goesOn

theorem frontSpelling_eq_nil_or (spellings : List String) (text : List Char) :
    frontSpelling spellings text = [] ∨
      ∃ spelling ∈ spellings, frontSpelling spellings text = spelling.toList ∧
        spelling.toList <+: text := by
  unfold frontSpelling
  cases found : (spellings.map String.toList).find? (·.isPrefixOf text) with
  | none => exact .inl rfl
  | some front =>
      obtain ⟨spelling, member, rfl⟩ := List.mem_map.mp (List.mem_of_find?_eq_some found)
      have stands := List.find?_some found
      exact .inr ⟨spelling, member, rfl, List.isPrefixOf_iff_prefix.mp stands⟩

private theorem frontSpelling_ne_nil {spellings : List String} (valid : Spellings spellings)
    {spelling : String} (member : spelling ∈ spellings) {text : List Char}
    (stands : spelling.toList <+: text) : frontSpelling spellings text ≠ [] := by
  unfold frontSpelling
  cases found : (spellings.map String.toList).find? (·.isPrefixOf text) with
  | none =>
      have refused := List.find?_eq_none.mp found spelling.toList (List.mem_map_of_mem member)
      exact absurd (List.isPrefixOf_iff_prefix.mpr stands) refused
  | some front =>
      obtain ⟨other, otherMember, rfl⟩ := List.mem_map.mp (List.mem_of_find?_eq_some found)
      exact (valid.isWord other otherMember).ne_nil

theorem frontSpelling_append {spellings : List String} (valid : Spellings spellings)
    {spelling : String} (member : spelling ∈ spellings) {rest : List Char}
    (ends : EndsWord rest) :
    frontSpelling spellings (spelling.toList ++ rest) = spelling.toList := by
  rcases frontSpelling_eq_nil_or spellings (spelling.toList ++ rest) with
    none | ⟨other, otherMember, same, stands⟩
  · exact absurd none (frontSpelling_ne_nil valid member (List.prefix_append _ _))
  · have within := prefix_of_endsWord (valid.isWord other otherMember) ends stands
    rw [same, valid.apart other otherMember spelling member within]

theorem frontSpelling_length_lt {spellings : List String} (valid : Spellings spellings)
    {word rest : List Char} (isWord : IsWord word) (ends : EndsWord rest)
    (unlisted : word ∉ spellings.map String.toList) :
    (frontSpelling spellings (word ++ rest)).length < word.length := by
  rcases frontSpelling_eq_nil_or spellings (word ++ rest) with
    none | ⟨spelling, member, same, stands⟩
  · rw [none]
    exact List.length_pos_iff.mpr isWord.ne_nil
  · have within := prefix_of_endsWord (valid.isWord spelling member) ends stands
    have differs : spelling.toList ≠ word := fun equal =>
      unlisted (equal ▸ List.mem_map_of_mem member)
    rw [same]
    exact Nat.lt_of_le_of_ne within.length_le fun equal =>
      differs (within.eq_of_length equal)

theorem frontSpelling_cons_eq_nil {spellings : List String} (valid : Spellings spellings)
    {first : Char} {rest : List Char} (noLetter : first.isAlpha = false) :
    frontSpelling spellings (first :: rest) = [] := by
  rcases frontSpelling_eq_nil_or spellings (first :: rest) with
    none | ⟨spelling, member, same, stands⟩
  · exact none
  · have isWord := valid.isWord spelling member
    cases letters : spelling.toList with
    | nil => rw [same, letters]
    | cons letter others =>
        rw [letters] at isWord stands
        have letterIsFirst : letter = first := (List.cons_prefix_cons.mp stands).1
        rw [letterIsFirst, IsWord, noLetter] at isWord
        cases isWord.1

theorem frontWord_append {word rest : List Char} (isWord : IsWord word) (ends : EndsWord rest) :
    frontWord (word ++ rest) = word := by
  cases word with
  | nil => exact False.elim isWord
  | cons first others =>
      have stops : rest.takeWhile isWordCharacter = [] := by
        cases rest with
        | nil => rfl
        | cons character rest => simp [ends character rfl]
      simp [frontWord, isWord.1, List.takeWhile_append_of_pos isWord.2, stops]

/-!
## The winner
-/

private theorem foldl_longer_of_length_le {best : Lexeme} {lexemes : List Lexeme}
    (bound : ∀ lexeme ∈ lexemes, lexeme.text.length ≤ best.text.length) :
    lexemes.foldl Lexeme.longer best = best := by
  induction lexemes with
  | nil => rfl
  | cons head tail ih =>
      rw [List.forall_mem_cons] at bound
      have kept : best.longer head = best := if_neg (Nat.not_lt.mpr bound.1)
      rw [List.foldl_cons, kept, ih bound.2]

private theorem foldl_longer_eq {best winner : Lexeme} {before after : List Lexeme}
    (bestShorter : best.text.length < winner.text.length)
    (beforeShorter : ∀ lexeme ∈ before, lexeme.text.length < winner.text.length)
    (afterBound : ∀ lexeme ∈ after, lexeme.text.length ≤ winner.text.length) :
    (before ++ winner :: after).foldl Lexeme.longer best = winner := by
  -- the winner displaces what comes before it, and is displaced by longer lexemes only
  induction before generalizing best with
  | nil =>
      have taken : best.longer winner = winner := if_pos bestShorter
      rw [List.nil_append, List.foldl_cons, taken, foldl_longer_of_length_le afterBound]
  | cons head tail ih =>
      rw [List.forall_mem_cons] at beforeShorter
      refine ih ?_ beforeShorter.2
      unfold Lexeme.longer
      split
      · exact beforeShorter.1
      · exact bestShorter

private theorem frontLexeme_eq {tokenClass : TokenClass} (before : List TokenClass)
    {after : List TokenClass} (split : TokenClass.all = before ++ tokenClass :: after)
    {text taken : List Char} (takes : front tokenClass text = taken) (nonempty : taken ≠ [])
    (beforeShorter : ∀ other ∈ before, (front other text).length < taken.length)
    (afterBound : ∀ other ∈ after, (front other text).length ≤ taken.length) :
    frontLexeme text = ⟨tokenClass, taken⟩ := by
  subst takes
  unfold frontLexeme candidates
  rw [split, List.map_append, List.map_cons]
  refine foldl_longer_eq (List.length_pos_iff.mpr nonempty) ?_ ?_
  · simpa using beforeShorter
  · simpa using afterBound

private theorem frontMark_length_le {text : List Char} (nonempty : text ≠ []) (rest : List Char) :
    (frontMark (text ++ rest)).length ≤ text.length := by
  cases text with
  | nil => exact absurd rfl nonempty
  | cons first others =>
      simp only [List.cons_append, frontMark, List.length_cons]
      split <;> simp

/-- A word is taken whole, with the class of the whole word. -/
theorem frontLexeme_word {word rest : List Char} (isWord : IsWord word) (ends : EndsWord rest) :
    frontLexeme (word ++ rest) = ⟨wordClass word, word⟩ := by
  have identifier := frontWord_append isWord ends
  have blanks : (word ++ rest).takeWhile Text.isBlank = [] := by
    cases word with
    | nil => exact False.elim isWord
    | cons first others =>
        have noBlank := isBlank_of_isWordCharacter (isWordCharacter_of_isAlpha isWord.1)
        simp [noBlank]
  have mark := frontMark_length_le isWord.ne_nil rest
  unfold wordClass
  split
  case isTrue keyword =>
    obtain ⟨spelling, member, rfl⟩ := List.mem_map.mp keyword
    have takes := frontSpelling_append spellings_keyword member ends
    refine frontLexeme_eq [] rfl takes isWord.ne_nil (by simp) ?_
    have bound : (frontSpelling (Condition.all.map Condition.spelling)
        (spelling.toList ++ rest)).length ≤ spelling.toList.length := by
      by_cases condition : spelling.toList ∈ (Condition.all.map Condition.spelling).map String.toList
      · obtain ⟨other, otherMember, same⟩ := List.mem_map.mp condition
        have whole := frontSpelling_append spellings_condition otherMember ends
        rw [same] at whole
        exact Nat.le_of_eq (congrArg List.length whole)
      · exact Nat.le_of_lt (frontSpelling_length_lt spellings_condition isWord ends condition)
    simp [front, identifier, blanks, mark, bound]
  case isFalse noKeyword =>
    have keywordShorter := frontSpelling_length_lt spellings_keyword isWord ends noKeyword
    split
    case isTrue condition =>
      obtain ⟨spelling, member, rfl⟩ := List.mem_map.mp condition
      have takes := frontSpelling_append spellings_condition member ends
      refine frontLexeme_eq [.keyword] rfl takes isWord.ne_nil ?_ ?_
      · simpa [front] using keywordShorter
      · simp [front, identifier, blanks, mark]
    case isFalse noCondition =>
      have conditionShorter :=
        frontSpelling_length_lt spellings_condition isWord ends noCondition
      refine frontLexeme_eq [.keyword, .condition] rfl identifier isWord.ne_nil ?_ ?_
      · simpa [front] using ⟨keywordShorter, conditionShorter⟩
      · simp [front, blanks, mark]

/-- Blanks are taken up to the next character that is none. -/
theorem frontLexeme_blank {first : Char} {rest : List Char}
    (blank : Text.isBlank first = true) :
    frontLexeme (first :: rest) = ⟨.whitespace, (first :: rest).takeWhile Text.isBlank⟩ := by
  have noLetter := isAlpha_of_isBlank blank
  refine frontLexeme_eq [.keyword, .condition, .identifier] rfl rfl ?_ ?_ ?_
  · simp [blank]
  · simp [front, frontSpelling_cons_eq_nil spellings_keyword noLetter,
      frontSpelling_cons_eq_nil spellings_condition noLetter, frontWord, noLetter, blank]
  · simp [front, frontMark, blank]

/-- A character that is no blank and starts no word is taken alone. -/
theorem frontLexeme_mark {first : Char} {rest : List Char}
    (noBlank : Text.isBlank first = false) (noLetter : first.isAlpha = false) :
    frontLexeme (first :: rest) = ⟨.error, [first]⟩ := by
  refine frontLexeme_eq [.keyword, .condition, .identifier, .whitespace] rfl
    (by simp [front, frontMark, noBlank]) (by simp) ?_ (by simp)
  simp [front, frontSpelling_cons_eq_nil spellings_keyword noLetter,
    frontSpelling_cons_eq_nil spellings_condition noLetter, frontWord, noLetter, noBlank]

end BlockLanguage.Lexer
