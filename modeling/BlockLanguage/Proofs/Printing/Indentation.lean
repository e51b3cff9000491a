import BlockLanguage.Proofs.Printing.Site
import Mathlib.Data.List.SplitBy

/-!
# Indentation

Printing a statement with a larger indent puts as many more spaces in front of each of its lines,
and does nothing else. What is printed for a part of a statement is indented by the width of one
level for each conditional and loop around that part.
-/

set_option autoImplicit false

namespace BlockLanguage

/-!
## Lines of texts
-/

namespace Text

/-- The lines of a text, each with the line feed that ends it. -/
def linesOf (text : String) : List (List Char) :=
  text.toList.splitBy fun before _ => before != '\n'

def spaces (count : Nat) : List Char :=
  List.replicate count ' '

def pad (count : Nat) : String :=
  String.ofList (spaces count)

/-- A text that fits on a line and does not start with a space. -/
structure FitsLine (text : String) : Prop where
  oneLine : '\n' ∉ text.toList
  unpadded : text.toList.head? ≠ some ' '

private theorem splitBy_line {body : List Char} (oneLine : '\n' ∉ body) :
    (body ++ ['\n']).splitBy (fun before _ => before != '\n') = [body ++ ['\n']] := by
  refine List.splitBy_of_isChain (by simp) ?_
  induction body with
  | nil => exact List.isChain_singleton '\n'
  | cons first others ih =>
      rw [List.mem_cons, not_or] at oneLine
      refine (ih oneLine.2).cons ?_
      intro _ _
      simpa using Ne.symm oneLine.1

theorem splitBy_flatten_lines (bodies : List (List Char))
    (oneLine : ∀ body ∈ bodies, '\n' ∉ body) :
    (bodies.map (· ++ ['\n'])).flatten.splitBy (fun before _ => before != '\n') =
      bodies.map (· ++ ['\n']) := by
  induction bodies with
  | nil => rfl
  | cons body bodies ih =>
      rw [List.forall_mem_cons] at oneLine
      rw [List.map_cons, List.flatten_cons, List.splitBy_append (by simp),
        splitBy_line oneLine.1, ih oneLine.2]
      rfl

end Text

open Text (linesOf spaces pad FitsLine)

theorem Line.toList_render (indent : Nat) (line : Line) :
    (line.render indent).toList =
      spaces (indent + indentWidth * line.level) ++ line.text.toList ++ ['\n'] := by
  simp [Line.render, spaces]

theorem linesOf_renderedLines {lines : List Line}
    (oneLine : ∀ line ∈ lines, '\n' ∉ line.text.toList) (indent : Nat) :
    linesOf (String.join (lines.map (Line.render indent))) =
      lines.map fun line => (line.render indent).toList := by
  have bodies := Text.splitBy_flatten_lines
    (lines.map fun line => spaces (indent + indentWidth * line.level) ++ line.text.toList)
    (by simpa [spaces] using oneLine)
  simpa [linesOf, String.toList_join, List.flatMap, Function.comp_def, Line.toList_render]
    using bodies

namespace Statement

/-!
## Text that is put together from the top
-/

mutual

/-- The text with that of a statement behind it, each level moving the indentation on. -/
def printOnto (indent : Nat) (before : String) : Statement → String
  | block children => printAllOnto indent before children
  | ifThen condition thenBlock =>
    let opened := before ++ (pad indent ++ "IF " ++ condition.spelling ++ " THEN\n")
    printOnto (indent + indentWidth) opened thenBlock ++ (pad indent ++ "END IF\n")
  | ifElse condition thenBlock elseBlock =>
    let opened := before ++ (pad indent ++ "IF " ++ condition.spelling ++ " THEN\n")
    let divided := printOnto (indent + indentWidth) opened thenBlock ++ (pad indent ++ "ELSE\n")
    printOnto (indent + indentWidth) divided elseBlock ++ (pad indent ++ "END IF\n")
  | loop condition body =>
    let opened := before ++ (pad indent ++ "WHILE " ++ condition.spelling ++ " DO\n")
    printOnto (indent + indentWidth) opened body ++ (pad indent ++ "END WHILE\n")
  | call instruction => before ++ (pad indent ++ instruction ++ "\n")

def printAllOnto (indent : Nat) (before : String) : List Statement → String
  | [] => before
  | first :: rest => printAllOnto indent (printOnto indent before first) rest

end

private theorem printAllOnto_eq {indent : Nat} {children : List Statement}
    (each : ∀ child ∈ children, ∀ before,
      child.printOnto indent before = before ++ child.render indent) (before : String) :
    printAllOnto indent before children = before ++ (block children).render indent := by
  induction children generalizing before with
  | nil =>
      apply String.toList_injective
      simp [printAllOnto, render, lines, linesOfAll]
  | cons child children ih =>
      rw [List.forall_mem_cons] at each
      rw [printAllOnto, each.1, ih each.2]
      apply String.toList_injective
      simp [render, lines, linesOfAll]

private theorem render_inside (indent : Nat) (statement : Statement) :
    statement.render (indent + indentWidth) =
      String.join ((statement.lines 1).map (Line.render indent)) :=
  render_add_mul_indentWidth indent 1 statement

/-- The printed text is the one that is put together from the top. -/
theorem printOnto_eq (statement : Statement) (indent : Nat) (before : String) :
    statement.printOnto indent before = before ++ statement.render indent := by
  -- each part is printed behind another text and further to the right, hence for all of these
  induction statement generalizing indent before with
  | block children ih =>
      exact printAllOnto_eq (fun child member before => ih child member indent before) before
  | ifThen guard thenBlock ih =>
      simp only [printOnto, ih, render_inside]
      apply String.toList_injective
      simp [render, lines, Line.toList_render, pad]
  | ifElse guard thenBlock elseBlock thenIH elseIH =>
      simp only [printOnto, thenIH, elseIH, render_inside]
      apply String.toList_injective
      simp [render, lines, Line.toList_render, pad]
  | loop guard body ih =>
      simp only [printOnto, ih, render_inside]
      apply String.toList_injective
      simp [render, lines, Line.toList_render, pad]
  | call name =>
      apply String.toList_injective
      simp [printOnto, render, lines, Line.toList_render, pad]

/-!
## Rows and what they are printed for
-/

/-- Which row of a printed statement is printed for which part of it, and with which words. The
conditionals and loops around that part are listed, the outermost first. -/
inductive Prints : Statement → (row : Nat) → (around : List Statement) → (part : Statement) →
    (words : String) → Prop where
  | call {name} : Prints (.call name) 0 [] (.call name) name
  | opensIfThen {guard thenBlock} :
      Prints (.ifThen guard thenBlock) 0 [] (.ifThen guard thenBlock)
        ("IF " ++ guard.spelling ++ " THEN")
  | insideIfThen {guard thenBlock row around part words} :
      Prints thenBlock row around part words →
      Prints (.ifThen guard thenBlock) (row + 1) (.ifThen guard thenBlock :: around) part words
  | endsIfThen {guard thenBlock} :
      Prints (.ifThen guard thenBlock) (thenBlock.height + 1) [] (.ifThen guard thenBlock) "END IF"
  | opensIfElse {guard thenBlock elseBlock} :
      Prints (.ifElse guard thenBlock elseBlock) 0 [] (.ifElse guard thenBlock elseBlock)
        ("IF " ++ guard.spelling ++ " THEN")
  | insideThen {guard thenBlock elseBlock row around part words} :
      Prints thenBlock row around part words →
      Prints (.ifElse guard thenBlock elseBlock) (row + 1)
        (.ifElse guard thenBlock elseBlock :: around) part words
  | dividesIfElse {guard thenBlock elseBlock} :
      Prints (.ifElse guard thenBlock elseBlock) (thenBlock.height + 1) []
        (.ifElse guard thenBlock elseBlock) "ELSE"
  | insideElse {guard thenBlock elseBlock row around part words} :
      Prints elseBlock row around part words →
      Prints (.ifElse guard thenBlock elseBlock) (thenBlock.height + 2 + row)
        (.ifElse guard thenBlock elseBlock :: around) part words
  | endsIfElse {guard thenBlock elseBlock} :
      Prints (.ifElse guard thenBlock elseBlock) (thenBlock.height + elseBlock.height + 2) []
        (.ifElse guard thenBlock elseBlock) "END IF"
  | opensLoop {guard body} :
      Prints (.loop guard body) 0 [] (.loop guard body) ("WHILE " ++ guard.spelling ++ " DO")
  | insideLoop {guard body row around part words} :
      Prints body row around part words →
      Prints (.loop guard body) (row + 1) (.loop guard body :: around) part words
  | endsLoop {guard body} :
      Prints (.loop guard body) (body.height + 1) [] (.loop guard body) "END WHILE"
  | first {child others row around part words} :
      Prints child row around part words → Prints (.block (child :: others)) row around part words
  | later {child others row around part words} :
      Prints (.block others) row around part words →
      Prints (.block (child :: others)) (child.height + row) around part words

private theorem getElem?_append_of_eq_some {front back : List Line} {row : Nat} {line : Line}
    (found : front[row]? = some line) : (front ++ back)[row]? = some line := by
  obtain ⟨within, _⟩ := List.getElem?_eq_some_iff.mp found
  rwa [List.getElem?_append_left within]

private theorem getElem?_inside {inner back : List Line} {level row : Nat}
    {around : List Statement} {words : String} (opening : Line) (node : Statement)
    (inside : inner[row]? = some ⟨level + 1 + around.length, words⟩) :
    (opening :: (inner ++ back))[row + 1]? = some ⟨level + (node :: around).length, words⟩ := by
  rw [Nat.add_right_comm] at inside
  exact getElem?_append_of_eq_some inside

private theorem getElem?_lines_append (statement : Statement) (level row : Nat)
    (others : List Line) :
    (statement.lines level ++ others)[statement.height + row]? = others[row]? := by
  rw [← length_lines level statement, List.getElem?_append_right (Nat.le_add_right _ _),
    Nat.add_sub_cancel_left]

/-- A row is on the level of the conditionals and loops around what it is printed for. -/
theorem Prints.getElem?_lines {statement part : Statement} {row : Nat} {around : List Statement}
    {words : String} (prints : statement.Prints row around part words) (level : Nat) :
    (statement.lines level)[row]? = some ⟨level + around.length, words⟩ := by
  induction prints generalizing level with
  | call => rfl
  | opensIfThen => rfl
  | insideIfThen _ ih => exact getElem?_inside _ _ (ih (level + 1))
  | @endsIfThen guard thenBlock => exact getElem?_lines_append thenBlock (level + 1) 0 _
  | opensIfElse => rfl
  | insideThen _ ih => exact getElem?_inside _ _ (ih (level + 1))
  | @dividesIfElse guard thenBlock elseBlock =>
      exact getElem?_lines_append thenBlock (level + 1) 0 _
  | @insideElse guard thenBlock elseBlock row around part words _ ih =>
      rw [Nat.add_assoc, Nat.add_comm 2]
      refine (getElem?_lines_append thenBlock (level + 1) (row + 1) _).trans ?_
      exact getElem?_inside _ _ (ih (level + 1))
  | @endsIfElse guard thenBlock elseBlock =>
      rw [Nat.add_assoc]
      refine (getElem?_lines_append thenBlock (level + 1) (elseBlock.height + 1) _).trans ?_
      exact getElem?_lines_append elseBlock (level + 1) 0 _
  | opensLoop => rfl
  | insideLoop _ ih => exact getElem?_inside _ _ (ih (level + 1))
  | @endsLoop guard body => exact getElem?_lines_append body (level + 1) 0 _
  | first _ ih => exact getElem?_append_of_eq_some (ih level)
  | @later child others row around part words _ ih =>
      exact (getElem?_lines_append child level row _).trans (ih level)

private theorem height_block_cons (child : Statement) (others : List Statement) :
    (block (child :: others)).height = child.height + (block others).height :=
  List.length_append

private theorem height_ifThen (guard : Condition) (thenBlock : Statement) :
    (ifThen guard thenBlock).height = thenBlock.height + 2 := by
  simp [height, lines, length_lines 1 thenBlock]

private theorem height_ifElse (guard : Condition) (thenBlock elseBlock : Statement) :
    (ifElse guard thenBlock elseBlock).height = thenBlock.height + elseBlock.height + 1 + 2 := by
  rw [height, lines]
  simp only [List.length_cons, List.length_append, List.length_nil, length_lines]
  omega

private theorem height_loop (guard : Condition) (body : Statement) :
    (loop guard body).height = body.height + 2 := by
  simp [height, lines, length_lines 1 body]

private theorem exists_prints_block {children : List Statement}
    (each : ∀ child ∈ children, ∀ row < child.height,
      ∃ around part words, child.Prints row around part words)
    {row : Nat} (within : row < (block children).height) :
    ∃ around part words, (block children).Prints row around part words := by
  induction children generalizing row with
  | nil => cases within
  | cons child others ih =>
      rw [List.forall_mem_cons] at each
      rw [height_block_cons] at within
      rcases Nat.lt_or_ge row child.height with isFirst | isLater
      · obtain ⟨around, part, words, prints⟩ := each.1 row isFirst
        exact ⟨around, part, words, .first prints⟩
      · obtain ⟨behind, rfl⟩ := Nat.exists_eq_add_of_le isLater
        obtain ⟨around, part, words, prints⟩ := ih each.2 (Nat.lt_of_add_lt_add_left within)
        exact ⟨around, part, words, .later prints⟩

private theorem row_cases {row inside : Nat} (within : row < inside + 2) :
    row = 0 ∨ (∃ inner < inside, row = inner + 1) ∨ row = inside + 1 := by
  cases row with
  | zero => exact .inl rfl
  | succ inner =>
      rcases Nat.lt_or_ge inner inside with isInner | isLast
      · exact .inr (.inl ⟨inner, isInner, rfl⟩)
      · exact .inr (.inr (by omega))

theorem exists_prints (statement : Statement) {row : Nat} (within : row < statement.height) :
    ∃ around part words, statement.Prints row around part words := by
  induction statement generalizing row with
  | block children ih =>
      exact exists_prints_block (fun child member _ within => ih child member within) within
  | ifThen guard thenBlock ih =>
      rw [height_ifThen] at within
      obtain rfl | ⟨inner, isInner, rfl⟩ | rfl := row_cases within
      · exact ⟨_, _, _, .opensIfThen⟩
      · obtain ⟨_, _, _, prints⟩ := ih isInner
        exact ⟨_, _, _, .insideIfThen prints⟩
      · exact ⟨_, _, _, .endsIfThen⟩
  | ifElse guard thenBlock elseBlock thenIH elseIH =>
      rw [height_ifElse] at within
      obtain rfl | ⟨inner, isInner, rfl⟩ | rfl := row_cases within
      · exact ⟨_, _, _, .opensIfElse⟩
      · rcases Nat.lt_trichotomy inner thenBlock.height with before | rfl | behind
        · obtain ⟨_, _, _, prints⟩ := thenIH before
          exact ⟨_, _, _, .insideThen prints⟩
        · exact ⟨_, _, _, .dividesIfElse⟩
        · obtain ⟨further, rfl⟩ := Nat.exists_eq_add_of_lt behind
          have isFurther : further < elseBlock.height := by omega
          obtain ⟨_, _, _, prints⟩ := elseIH isFurther
          have counted : thenBlock.height + further + 1 + 1 =
              thenBlock.height + 2 + further := by omega
          rw [counted]
          exact ⟨_, _, _, .insideElse prints⟩
      · exact ⟨_, _, _, .endsIfElse⟩
  | loop guard body ih =>
      rw [height_loop] at within
      obtain rfl | ⟨inner, isInner, rfl⟩ | rfl := row_cases within
      · exact ⟨_, _, _, .opensLoop⟩
      · obtain ⟨_, _, _, prints⟩ := ih isInner
        exact ⟨_, _, _, .insideLoop prints⟩
      · exact ⟨_, _, _, .endsLoop⟩
  | call name =>
      obtain rfl : row = 0 := Nat.lt_one_iff.mp within
      exact ⟨_, _, _, .call⟩

private theorem fitsLine_of_isWord {word : String} (isWord : Lexer.IsWord word.toList) :
    FitsLine word := by
  constructor
  · intro feeds
    cases isWord.isWordCharacter '\n' feeds
  · intro padded
    cases isWord.isWordCharacter ' ' (List.mem_of_mem_head? padded)

private theorem fitsLine_if (guard : Condition) :
    FitsLine ("IF " ++ guard.spelling ++ " THEN") := by
  have spelled := fitsLine_of_isWord (Lexer.isWord_condition guard)
  exact ⟨by simp [spelled.oneLine], by simp⟩

private theorem fitsLine_loop (guard : Condition) :
    FitsLine ("WHILE " ++ guard.spelling ++ " DO") := by
  have spelled := fitsLine_of_isWord (Lexer.isWord_condition guard)
  exact ⟨by simp [spelled.oneLine], by simp⟩

/-- What is printed is the name of a call or what the printer writes for itself. -/
theorem Prints.mem_calls_or_fitsLine {statement part : Statement} {row : Nat}
    {around : List Statement} {words : String} (prints : statement.Prints row around part words) :
    words ∈ statement.calls ∨ FitsLine words := by
  induction prints with
  | call => exact .inl (List.mem_singleton_self _)
  | @opensIfThen guard => exact .inr (fitsLine_if guard)
  | insideIfThen _ ih => exact ih
  | endsIfThen => exact .inr ⟨by decide, by decide⟩
  | @opensIfElse guard => exact .inr (fitsLine_if guard)
  | insideThen _ ih => exact ih.imp_left (List.mem_append_left _)
  | dividesIfElse => exact .inr ⟨by decide, by decide⟩
  | insideElse _ ih => exact ih.imp_left (List.mem_append_right _)
  | endsIfElse => exact .inr ⟨by decide, by decide⟩
  | @opensLoop guard => exact .inr (fitsLine_loop guard)
  | insideLoop _ ih => exact ih
  | endsLoop => exact .inr ⟨by decide, by decide⟩
  | first _ ih => exact ih.imp_left (List.mem_append_left _)
  | later _ ih => exact ih.imp_left (List.mem_append_right _)

/-!
## The printed text
-/

variable {statement : Statement}

/-- Every line of a statement is printed for some part of it, on the level of that part. -/
theorem exists_prints_of_mem_lines {level : Nat} {line : Line}
    (member : line ∈ statement.lines level) :
    ∃ row around part words, statement.Prints row around part words ∧
      line = ⟨level + around.length, words⟩ := by
  obtain ⟨row, found⟩ := List.mem_iff_getElem?.mp member
  obtain ⟨within, _⟩ := List.getElem?_eq_some_iff.mp found
  rw [length_lines] at within
  obtain ⟨around, part, words, prints⟩ := exists_prints statement within
  exact ⟨row, around, part, words, prints,
    Option.some.inj (found.symm.trans (prints.getElem?_lines level))⟩

theorem linesOf_render (noFeeds : ∀ name ∈ statement.calls, '\n' ∉ name.toList) (indent : Nat) :
    linesOf (statement.render indent) =
      (statement.lines 0).map fun line => (line.render indent).toList := by
  refine linesOf_renderedLines ?_ indent
  intro line member
  obtain ⟨_, _, _, words, prints, rfl⟩ := exists_prints_of_mem_lines member
  rcases prints.mem_calls_or_fitsLine with called | fits
  · exact noFeeds words called
  · exact fits.oneLine

/-- A larger indent puts as many more spaces in front of each line of a printed statement. Each
line ends with its line feed, and where the calls name identifiers it starts with one width of
indentation for each conditional and loop around what it is printed for, and with no space more. -/
theorem linesOf_render_add (statement : Statement)
    (noFeeds : ∀ name ∈ statement.calls, '\n' ∉ name.toList) (i j : Nat) :
    statement.printOnto (i + j) "" = statement.render (i + j) ∧
      linesOf (statement.render (i + j)) = (linesOf (statement.render j)).map (spaces i ++ ·) ∧
      (∀ line ∈ linesOf (statement.render (i + j)), line.getLast? = some '\n') ∧
      (statement.CallsIdentifiers →
        (∀ row around part words, statement.Prints row around part words →
          (linesOf (statement.render (i + j)))[row]? =
              some (spaces (i + j + 4 * around.length) ++ words.toList ++ ['\n']) ∧
            words.toList.head? ≠ some ' ') ∧
        ∀ row < (linesOf (statement.render (i + j))).length,
          ∃ around part words, statement.Prints row around part words) := by
  rw [linesOf_render noFeeds, linesOf_render noFeeds]
  refine ⟨?_, ?_, ?_, fun identifiers => ⟨fun row around part words prints => ⟨?_, ?_⟩, ?_⟩⟩
  · rw [printOnto_eq, String.empty_append]
  · rw [List.map_map]
    refine List.map_congr_left fun line _ => ?_
    simp [Line.toList_render, spaces, Nat.add_assoc, ← List.append_assoc]
  · intro line member
    obtain ⟨laidOut, _, rfl⟩ := List.mem_map.mp member
    rw [Line.toList_render, List.getLast?_concat]
  · have onLevel := prints.getElem?_lines 0
    rw [Nat.zero_add] at onLevel
    rw [List.getElem?_map, onLevel, Option.map_some, Line.toList_render]
    rfl
  · rcases prints.mem_calls_or_fitsLine with called | fits
    · have isWord := (isIdentifier_iff_wordClass.mp (identifiers words called)).1
      exact (fitsLine_of_isWord isWord).unpadded
    · exact fits.unpadded
  · intro row within
    rw [List.length_map, length_lines] at within
    exact exists_prints statement within

/-- A call inside a loop, in a branch of a conditional that stands in two blocks. -/
theorem linesOf_render_add_looseBranches :
    let loose : Statement := .block [.block [.ifElse (.nextIs .wall) (.call "turnleft")
      (.block [.loop .random (.call "move")])]]
    (∀ name ∈ loose.calls, '\n' ∉ name.toList) ∧ loose.CallsIdentifiers ∧
      linesOf (loose.render 5) = (linesOf (loose.render 3)).map (spaces 2 ++ ·) ∧
      (linesOf (loose.render 5))[4]? = some (spaces 13 ++ "move".toList ++ ['\n']) ∧
      (linesOf (loose.render 5))[6]? = some (spaces 5 ++ "END IF".toList ++ ['\n']) := by
  intro loose
  have noFeeds : ∀ name ∈ loose.calls, '\n' ∉ name.toList := by decide
  have identifiers : loose.CallsIdentifiers := callsIdentifiers_iff_wordClass.mpr (by decide)
  obtain ⟨_, shifted, _, eachRow⟩ := linesOf_render_add loose noFeeds 2 3
  obtain ⟨rows, _⟩ := eachRow identifiers
  have inner : loose.Prints 4 _ _ "move" :=
    .first (.first (.insideElse (.first (.insideLoop .call))))
  have outer : loose.Prints 6 _ _ "END IF" := .first (.first .endsIfElse)
  exact ⟨noFeeds, identifiers, shifted, (rows _ _ _ _ inner).1, (rows _ _ _ _ outer).1⟩

end Statement

end BlockLanguage
