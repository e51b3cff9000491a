import BlockLanguage.Proofs.Token.Reference

/-!
# Scanning by byte positions

The scan can go along a text by byte positions: it keeps the position of the next token, compares
lexemes by the bytes that they take, and cuts them out of the text by their positions. It always
cuts between characters and always advances, so that it finds the same tokens.
-/

set_option autoImplicit false

namespace BlockLanguage

namespace Lexer

/-- How many bytes a text takes. -/
def byteSize : List Char → Nat
  | [] => 0
  | first :: rest => first.utf8Size + byteSize rest

/-- A text cut behind its first bytes, unless the cut would be inside a character or behind the
end of the text. -/
def splitBytes? : Nat → List Char → Option (List Char × List Char)
  | 0, text => some ([], text)
  | _ + 1, [] => none
  | size + 1, first :: rest =>
    if first.utf8Size ≤ size + 1 then
      (splitBytes? (size + 1 - first.utf8Size) rest).map (Prod.map (first :: ·) id)
    else none

/-- The class of the lexeme at the front of a text that takes most bytes, the earliest of them,
and how many bytes it takes. -/
def longestMatch (text : List Char) : TokenClass × Nat :=
  TokenClass.all.foldl (fun longest tokenClass =>
    if longest.2 < byteSize (front tokenClass text) then
      (tokenClass, byteSize (front tokenClass text))
    else longest) (.error, 0)

/-- The tokens of a text from a byte position and the line of this position on. There are none
if the text would have to be cut inside a character, or if the scan would stand still. -/
def scanBytes (source : List Char) (position line : Nat) : Option (List Token) :=
  if position < byteSize source then do
    let (_, text) ← splitBytes? position source
    let (tokenClass, size) := longestMatch text
    let (taken, _) ← splitBytes? size text
    if 0 < size then
      let others ← scanBytes source (position + size) (line + taken.count '\n')
      return ⟨tokenClass, String.ofList taken, line⟩ :: others
    else none
  else some []
termination_by byteSize source - position

@[simp] theorem byteSize_nil : byteSize [] = 0 := rfl

@[simp] theorem byteSize_cons (first : Char) (rest : List Char) :
    byteSize (first :: rest) = first.utf8Size + byteSize rest := rfl

@[simp] theorem byteSize_append (front back : List Char) :
    byteSize (front ++ back) = byteSize front + byteSize back := by
  induction front with
  | nil => simp
  | cons first rest ih =>
      simp only [List.cons_append, byteSize_cons, ih]
      omega

theorem byteSize_pos_iff {text : List Char} : 0 < byteSize text ↔ text ≠ [] := by
  cases text with
  | nil => simp
  | cons first rest =>
      have positive := first.utf8Size_pos
      simp only [byteSize_cons, ne_eq, List.cons_ne_nil, not_false_eq_true, iff_true]
      omega

theorem splitBytes?_append (front back : List Char) :
    splitBytes? (byteSize front) (front ++ back) = some (front, back) := by
  induction front with
  | nil => simp [splitBytes?]
  | cons first rest ih =>
      have positive := first.utf8Size_pos
      cases total : byteSize (first :: rest) with
      | zero =>
          rw [byteSize_cons] at total
          omega
      | succ size =>
          rw [byteSize_cons] at total
          have fits : first.utf8Size ≤ size + 1 := by omega
          have left : size + 1 - first.utf8Size = byteSize rest := by omega
          simp [splitBytes?, fits, left, ih]

/-!
## The longest match
-/

/-- Of two front parts of a text, the one with more bytes is the longer one. -/
theorem byteSize_lt_iff {first second text : List Char} (firstStands : first <+: text)
    (secondStands : second <+: text) :
    byteSize first < byteSize second ↔ first.length < second.length := by
  rcases List.prefix_or_prefix_of_prefix firstStands secondStands with ⟨extra, rfl⟩ | ⟨extra, rfl⟩
  · simp [byteSize_pos_iff, List.length_pos_iff]
  · simp only [byteSize_append, List.length_append]
    omega

theorem isPrefix_frontSpelling (spellings : List String) (text : List Char) :
    frontSpelling spellings text <+: text := by
  rcases frontSpelling_eq_nil_or spellings text with none | ⟨_, _, same, stands⟩
  · rw [none]
    exact List.nil_prefix
  · rw [same]
    exact stands

theorem isPrefix_frontWord (text : List Char) : frontWord text <+: text := by
  cases text with
  | nil => exact List.nil_prefix
  | cons first rest =>
      simp only [frontWord]
      split
      · exact (List.prefix_cons_inj first).mpr (List.takeWhile_prefix _)
      · exact List.nil_prefix

theorem isPrefix_frontMark (text : List Char) : frontMark text <+: text := by
  cases text with
  | nil => exact List.nil_prefix
  | cons first rest =>
      simp only [frontMark]
      split
      · exact List.nil_prefix
      · exact List.prefix_append [first] rest

/-- Every rule takes its lexeme from the front of the text. -/
theorem isPrefix_front (tokenClass : TokenClass) (text : List Char) :
    front tokenClass text <+: text := by
  cases tokenClass with
  | keyword => exact isPrefix_frontSpelling _ text
  | condition => exact isPrefix_frontSpelling _ text
  | identifier => exact isPrefix_frontWord text
  | whitespace => exact List.takeWhile_prefix _
  | error => exact isPrefix_frontMark text

theorem longestMatch_eq (text : List Char) :
    longestMatch text = ((frontLexeme text).tokenClass, byteSize (frontLexeme text).text) := by
  have fold : ∀ (classes : List TokenClass) (best : Lexeme), best.text <+: text →
      classes.foldl (fun longest tokenClass =>
        if longest.2 < byteSize (front tokenClass text) then
          (tokenClass, byteSize (front tokenClass text))
        else longest) (best.tokenClass, byteSize best.text) =
      let winner := (classes.map fun tokenClass => ⟨tokenClass, front tokenClass text⟩).foldl
        Lexeme.longer best
      (winner.tokenClass, byteSize winner.text) := by
    intro classes
    induction classes with
    | nil => exact fun _ _ => rfl
    | cons tokenClass others ih =>
        intro best stands
        have longer := byteSize_lt_iff stands (isPrefix_front tokenClass text)
        simp only [List.foldl_cons, List.map_cons, Lexeme.longer, longer]
        split
        · exact ih ⟨tokenClass, front tokenClass text⟩ (isPrefix_front tokenClass text)
        · exact ih best stands
  exact fold TokenClass.all ⟨.error, []⟩ List.nil_prefix

/-!
## The scan
-/

/-- From the position of a lexeme the scan goes on at the position behind it. -/
theorem scanBytes_of_frontLexeme {before taken rest : List Char} {tokenClass : TokenClass}
    {line : Nat} (nonempty : taken ≠ [])
    (atFront : frontLexeme (taken ++ rest) = ⟨tokenClass, taken⟩)
    (behind : scanBytes (before ++ (taken ++ rest)) (byteSize (before ++ taken))
      (line + taken.count '\n') = some (scan (line + taken.count '\n') rest)) :
    scanBytes (before ++ (taken ++ rest)) (byteSize before) line =
      some (scan line (taken ++ rest)) := by
  have advances := byteSize_pos_iff.mpr nonempty
  have inside : byteSize before < byteSize (before ++ (taken ++ rest)) := by
    simp only [byteSize_append]
    omega
  rw [byteSize_append before taken] at behind
  rw [scanBytes, if_pos inside, scan_of_frontLexeme rfl nonempty atFront]
  simp [splitBytes?_append, longestMatch_eq, atFront, advances, behind]

theorem scanBytes_eq (before text : List Char) (line : Nat) :
    scanBytes (before ++ text) (byteSize before) line = some (scan line text) := by
  induction text using lexeme_induct generalizing before line with
  | nil =>
      rw [scanBytes, scan_nil]
      simp
  | blanks run rest isRun ends ih =>
      apply scanBytes_of_frontLexeme isRun.1 (frontLexeme_blanks isRun ends)
      rw [← List.append_assoc]
      exact ih _ _
  | word word rest isWord ends ih =>
      apply scanBytes_of_frontLexeme isWord.ne_nil (frontLexeme_word isWord ends)
      rw [← List.append_assoc]
      exact ih _ _
  | mark first rest noBlank noLetter ih =>
      apply scanBytes_of_frontLexeme (List.cons_ne_nil first []) (frontLexeme_mark noBlank noLetter)
      rw [← List.append_assoc]
      exact ih _ _

end Lexer

/-- The tokens of a source text are found by byte positions, without ever cutting a character or
standing still. They are the only tokens that the text has, and those that carry meaning are the
ones that are no blanks. -/
theorem tokens_of_source (source : String) :
    Lexer.scanBytes source.toList 0 1 = some (allTokens source) ∧
      (∀ tokens, Tokenizes source tokens ↔ tokens = allTokens source) ∧
      tokenize source = (allTokens source).filter (·.tokenClass != .whitespace) := by
  apply And.intro (Lexer.scanBytes_eq [] source.toList 1)
  exact ⟨fun _ => tokenizes_iff_eq_allTokens, rfl⟩

end BlockLanguage
