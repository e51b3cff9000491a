import BlockLanguage.Proofs.Printing.Spelling
import BlockLanguage.Proofs.Statement.Shape

/-!
# The layout of printed statements

The printed lines of a statement spell the shapes of its tokens. They are the lines of its normal
form, and moving a statement to another level moves its lines and nothing else.
-/

set_option autoImplicit false

namespace BlockLanguage

open TokenShape (word opening phrase)

namespace Line

theorem spells_empty (level : Nat) : (⟨level, ""⟩ : Line).Spells [] :=
  ⟨rfl, nofun⟩

theorem spells_single (level : Nat) {shape : TokenShape} (spelled : shape.Spelled) :
    (⟨level, shape.text⟩ : Line).Spells [shape] := by
  constructor
  · simp [phrase]
  · exact List.forall_mem_singleton.mpr spelled

theorem spells_pair (level : Nat) {first second : TokenShape} (firstSpelled : first.Spelled)
    (secondSpelled : second.Spelled) :
    (⟨level, first.text ++ " " ++ second.text⟩ : Line).Spells [first, second] := by
  constructor
  · simp [phrase, String.intercalate_cons_cons]
  · simp [firstSpelled, secondSpelled]

theorem spells_triple (level : Nat) {first second third : TokenShape}
    (firstSpelled : first.Spelled) (secondSpelled : second.Spelled)
    (thirdSpelled : third.Spelled) :
    (⟨level, first.text ++ " " ++ second.text ++ " " ++ third.text⟩ : Line).Spells
      [first, second, third] := by
  constructor
  · simp [phrase, String.intercalate_cons_cons, String.append_assoc]
  · simp [firstSpelled, secondSpelled, thirdSpelled]

/-- The line that opens a conditional. -/
theorem spells_if (level : Nat) (guard : Condition) :
    (⟨level, "IF " ++ guard.spelling ++ " THEN"⟩ : Line).Spells
      [opening .IF, .condition guard, word .THEN] := by
  have same : "IF " ++ guard.spelling ++ " THEN" =
      (opening .IF).text ++ " " ++ (TokenShape.condition guard).text ++ " " ++ (word .THEN).text :=
    String.toList_injective (by simp [opening, TokenShape.condition, word, Keyword.spelling])
  rw [same]
  exact spells_triple level (TokenShape.spelled_opening .IF) (TokenShape.spelled_condition guard)
    (TokenShape.spelled_word .THEN)

/-- The line that opens a loop. -/
theorem spells_loop (level : Nat) (guard : Condition) :
    (⟨level, "WHILE " ++ guard.spelling ++ " DO"⟩ : Line).Spells
      [opening .WHILE, .condition guard, word .DO] := by
  have same : "WHILE " ++ guard.spelling ++ " DO" =
      (opening .WHILE).text ++ " " ++ (TokenShape.condition guard).text ++ " " ++ (word .DO).text :=
    String.toList_injective (by simp [opening, TokenShape.condition, word, Keyword.spelling])
  rw [same]
  exact spells_triple level (TokenShape.spelled_opening .WHILE)
    (TokenShape.spelled_condition guard) (TokenShape.spelled_word .DO)

theorem spells_else (level : Nat) : (⟨level, "ELSE"⟩ : Line).Spells [word .ELSE] :=
  spells_single level (TokenShape.spelled_word .ELSE)

theorem spells_endIf (level : Nat) : (⟨level, "END IF"⟩ : Line).Spells [word .END, word .IF] :=
  spells_pair level (TokenShape.spelled_word .END) (TokenShape.spelled_word .IF)

theorem spells_endLoop (level : Nat) :
    (⟨level, "END WHILE"⟩ : Line).Spells [word .END, word .WHILE] :=
  spells_pair level (TokenShape.spelled_word .END) (TokenShape.spelled_word .WHILE)

end Line

namespace Statement

theorem callsIdentifiers_iff_wordClass {statement : Statement} :
    statement.CallsIdentifiers ↔ ∀ name ∈ statement.calls,
      Lexer.IsWord name.toList ∧ Lexer.wordClass name.toList = .identifier := by
  simp only [CallsIdentifiers, isIdentifier_iff_wordClass]

open Line (SpellAll)

private theorem spellAll_linesOfAll {level : Nat} {children : List Statement}
    (each : ∀ child ∈ children, SpellAll (child.lines level) child.shapes) :
    SpellAll (linesOfAll level children) (shapesOfAll children) := by
  induction children with
  | nil => exact .nil
  | cons child children ih =>
      rw [List.forall_mem_cons] at each
      exact each.1.append (ih each.2)

/-- The lines of a statement spell its tokens. -/
theorem spellAll_lines {statement : Statement} (identifiers : statement.CallsIdentifiers)
    (level : Nat) : SpellAll (statement.lines level) statement.shapes := by
  induction statement generalizing level with
  | block children ih =>
      rw [callsIdentifiers_block_iff] at identifiers
      exact spellAll_linesOfAll fun child member => ih child member (identifiers child member) level
  | ifThen guard thenBlock ih =>
      exact .cons (Line.spells_if level guard)
        ((ih identifiers (level + 1)).append (Line.spells_endIf level).all)
  | ifElse guard thenBlock elseBlock thenIH elseIH =>
      obtain ⟨thenIdentifiers, elseIdentifiers⟩ := callsIdentifiers_ifElse_iff.mp identifiers
      have otherwise := (elseIH elseIdentifiers (level + 1)).append (Line.spells_endIf level).all
      exact .cons (Line.spells_if level guard) ((thenIH thenIdentifiers (level + 1)).append
        (.cons (Line.spells_else level) otherwise))
  | loop guard body ih =>
      exact .cons (Line.spells_loop level guard)
        ((ih identifiers (level + 1)).append (Line.spells_endLoop level).all)
  | call name =>
      have isName := callsIdentifiers_call_iff.mp identifiers
      exact (Line.spells_single level (TokenShape.spelled_identifier isName)).all

/-!
## Normal forms
-/

theorem linesOfAll_append (level : Nat) (first second : List Statement) :
    linesOfAll level (first ++ second) = linesOfAll level first ++ linesOfAll level second := by
  induction first with
  | nil => rfl
  | cons child first ih => rw [List.cons_append, linesOfAll, linesOfAll, ih, List.append_assoc]

private theorem linesOfAll_flattenAll {level : Nat} {children : List Statement}
    (each : ∀ child ∈ children, linesOfAll level child.flatten = child.lines level) :
    linesOfAll level (flattenAll children) = linesOfAll level children := by
  induction children with
  | nil => rfl
  | cons child children ih =>
      rw [List.forall_mem_cons] at each
      rw [flattenAll, linesOfAll_append, each.1, ih each.2, linesOfAll]

/-- A statement is printed like its normal form. -/
theorem lines_normal (statement : Statement) (level : Nat) :
    statement.normal.lines level = statement.lines level := by
  change linesOfAll level statement.flatten = statement.lines level
  induction statement generalizing level with
  | block children ih => exact linesOfAll_flattenAll fun child member => ih child member level
  | ifThen guard thenBlock ih => simp [flatten, linesOfAll, lines, ih]
  | ifElse guard thenBlock elseBlock thenIH elseIH =>
      simp [flatten, linesOfAll, lines, thenIH, elseIH]
  | loop guard body ih => simp [flatten, linesOfAll, lines, ih]
  | call name => rfl

/-!
## Levels
-/

end Statement

/-- The line a number of levels further to the right. -/
def Line.raise (levels : Nat) (line : Line) : Line :=
  { line with level := line.level + levels }

theorem Line.render_raise (indent levels : Nat) (line : Line) :
    (line.raise levels).render indent = line.render (indent + indentWidth * levels) := by
  have spaces : indent + indentWidth * (line.level + levels) =
      indent + indentWidth * levels + indentWidth * line.level := by
    rw [Nat.mul_add]
    omega
  simp only [render, raise, spaces]

namespace Statement

private theorem linesOfAll_add {levels level : Nat} {children : List Statement}
    (each : ∀ child ∈ children,
      child.lines (level + levels) = (child.lines level).map (Line.raise levels)) :
    linesOfAll (level + levels) children = (linesOfAll level children).map (Line.raise levels) := by
  induction children with
  | nil => rfl
  | cons child children ih =>
      rw [List.forall_mem_cons] at each
      rw [linesOfAll, each.1, ih each.2, linesOfAll, List.map_append]

theorem lines_add (level levels : Nat) (statement : Statement) :
    statement.lines (level + levels) = (statement.lines level).map (Line.raise levels) := by
  induction statement generalizing level with
  | block children ih => exact linesOfAll_add fun child member => ih child member level
  | ifThen guard thenBlock ih =>
      rw [lines, Nat.add_right_comm, ih]
      simp [lines, Line.raise]
  | ifElse guard thenBlock elseBlock thenIH elseIH =>
      rw [lines, Nat.add_right_comm, thenIH, elseIH]
      simp [lines, Line.raise]
  | loop guard body ih =>
      rw [lines, Nat.add_right_comm, ih]
      simp [lines, Line.raise]
  | call name => rfl

/-- To stand on a level is to be indented by its width. -/
theorem render_add_mul_indentWidth (indent level : Nat) (statement : Statement) :
    statement.render (indent + indentWidth * level) =
      String.join ((statement.lines level).map (Line.render indent)) := by
  have raised := lines_add 0 level statement
  rw [Nat.zero_add] at raised
  rw [render, raised, List.map_map]
  congr 2
  funext line
  exact (Line.render_raise indent level line).symm

theorem render_mul_indentWidth (level : Nat) (statement : Statement) :
    statement.render (indentWidth * level) =
      String.join ((statement.lines level).map (Line.render 0)) := by
  simpa only [Nat.zero_add] using render_add_mul_indentWidth 0 level statement

/-- A printed statement is scanned into the tokens of its lines. -/
theorem tokenize_render {statement : Statement} (identifiers : statement.CallsIdentifiers)
    (indent : Nat) :
    tokenize (statement.render indent) = Line.tokensOfAll 1 (statement.lines 0) :=
  (spellAll_lines identifiers 0).tokensFrom_render indent 1

theorem describes_tokenize_render {statement : Statement}
    (identifiers : statement.CallsIdentifiers) (indent : Nat) :
    statement.Describes (tokenize (statement.render indent)) := by
  rw [tokenize_render identifiers]
  exact (spellAll_lines identifiers 0).fitAll 1

end Statement

end BlockLanguage
