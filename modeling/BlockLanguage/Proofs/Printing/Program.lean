import BlockLanguage.Program.Printer
import BlockLanguage.Program.Site
import BlockLanguage.Proofs.Printing.Indentation

/-!
# The layout of printed programs

A printed program is made of its lines, which spell the tokens that describe it, the definitions
in the order of their names.
-/

set_option autoImplicit false

namespace BlockLanguage

open TokenShape (word identifier)
open Line (SpellAll)

variable {program : Program} {definition : Definition}

/-!
## Text and lines
-/

private theorem render_empty : (⟨0, ""⟩ : Line).render 0 = "\n" := rfl

private theorem render_zero (text : String) : (⟨0, text⟩ : Line).render 0 = text ++ "\n" := by
  apply String.toList_injective
  simp [Line.render]

theorem renderDefinition_eq (definition : Definition) :
    renderDefinition definition.1 definition.2 =
      String.join ((definitionLines definition).map (Line.render 0)) := by
  rw [renderDefinition, Nat.mul_comm 2 indentWidth, Statement.render_mul_indentWidth]
  apply String.toList_injective
  simp [definitionLines, render_empty]

private theorem render_definitions (definitions : List Definition) :
    String.join (definitions.map fun (name, body) => renderDefinition name body) =
      String.join ((definitions.flatMap definitionLines).map (Line.render 0)) := by
  induction definitions with
  | nil => rfl
  | cons definition definitions ih =>
      rw [List.map_cons, String.join_cons, ih, List.flatMap_cons, List.map_append,
        String.join_append]
      exact congrArg (· ++ _) (renderDefinition_eq definition)

/-- A program is printed line by line. -/
theorem Program.render_eq (program : Program) :
    program.render = String.join (program.lines.map (Line.render 0)) := by
  have body := Statement.render_mul_indentWidth 1 program.body
  rw [Nat.mul_one] at body
  unfold Program.render
  rw [body, render_definitions]
  apply String.toList_injective
  simp [Program.lines, render_zero]

/-!
## Lines and tokens
-/

namespace Line

theorem spells_program (level : Nat) {name : String} (isName : isIdentifier name = true) :
    (⟨level, "PROGRAM " ++ name ++ " IS"⟩ : Line).Spells
      [word .PROGRAM, identifier name, word .IS] := by
  have same : "PROGRAM " ++ name ++ " IS" =
      (word .PROGRAM).text ++ " " ++ (identifier name).text ++ " " ++ (word .IS).text :=
    String.toList_injective (by simp [word, identifier, Keyword.spelling])
  rw [same]
  exact spells_triple level (TokenShape.spelled_word .PROGRAM)
    (TokenShape.spelled_identifier isName) (TokenShape.spelled_word .IS)

theorem spells_instruction (level : Nat) {name : String} (isName : isIdentifier name = true) :
    (⟨level, "INSTRUCTION " ++ name ++ " IS"⟩ : Line).Spells
      [word .INSTRUCTION, identifier name, word .IS] := by
  have same : "INSTRUCTION " ++ name ++ " IS" =
      (word .INSTRUCTION).text ++ " " ++ (identifier name).text ++ " " ++ (word .IS).text :=
    String.toList_injective (by simp [word, identifier, Keyword.spelling])
  rw [same]
  exact spells_triple level (TokenShape.spelled_word .INSTRUCTION)
    (TokenShape.spelled_identifier isName) (TokenShape.spelled_word .IS)

theorem spells_begin (level : Nat) : (⟨level, "BEGIN"⟩ : Line).Spells [word .BEGIN] :=
  spells_single level (TokenShape.spelled_word .BEGIN)

theorem spells_end (level : Nat) {name : String} (isName : isIdentifier name = true) :
    (⟨level, "END " ++ name⟩ : Line).Spells [word .END, identifier name] :=
  spells_pair level (TokenShape.spelled_word .END) (TokenShape.spelled_identifier isName)

end Line

theorem spellAll_definitionLines (isName : isIdentifier definition.1 = true)
    (isBody : definition.2.IsBody) :
    SpellAll (definitionLines definition) (definitionShapes definition) := by
  have closing := (Line.spells_end 1 isName).all.append (Line.spells_empty 0).all
  have body := Statement.spellAll_lines isBody.2.callsIdentifiers 2
  exact .cons (Line.spells_instruction 1 isName) (body.append closing)

theorem spellAll_definitions {definitions : List Definition}
    (named : ∀ definition ∈ definitions, isIdentifier definition.1 = true)
    (isBody : ∀ definition ∈ definitions, definition.2.IsBody) :
    SpellAll (definitions.flatMap definitionLines) (definitions.flatMap definitionShapes) := by
  induction definitions with
  | nil => exact .nil
  | cons definition definitions ih =>
      rw [List.forall_mem_cons] at named isBody
      exact (spellAll_definitionLines named.1 isBody.1).append (ih named.2 isBody.2)

namespace Program

/-- The lines of a program spell the tokens that describe it. -/
theorem spellAll_lines (wellFormed : program.WellFormed) :
    SpellAll program.lines (programShapes (some program.name) program.context.entries
      program.body program.name) := by
  have definitions := spellAll_definitions
    (fun definition member => (wellFormed.instructionName definition member).1)
    wellFormed.instructionBody
  have body := Statement.spellAll_lines wellFormed.body.2.callsIdentifiers 1
  have main := SpellAll.cons (Line.spells_begin 0)
    (body.append (Line.spells_end 0 wellFormed.name).all)
  have afterHeader := SpellAll.cons (Line.spells_empty 0) (definitions.append main)
  exact .cons (Line.spells_program 0 wellFormed.name) afterHeader

theorem tokenize_render (wellFormed : program.WellFormed) :
    tokenize program.render = Line.tokensOfAll 1 program.lines := by
  rw [Lexer.tokenize_eq, render_eq]
  exact (spellAll_lines wellFormed).tokensFrom_render 0 1

theorem linesOf_render (wellFormed : program.WellFormed) :
    Text.linesOf program.render = program.lines.map fun line => (line.render 0).toList := by
  rw [render_eq]
  exact linesOf_renderedLines (spellAll_lines wellFormed).oneLine 0

end Program

/-!
## Sites
-/

private theorem map_line_definitionLines (identifiers : definition.2.CallsIdentifiers)
    (line : Nat) :
    (Line.openings line (definitionLines definition)).map Site.line =
      (definition.2.sites 0 (line + 1)).map Site.line := by
  have head := @Statement.openings_of_text ("INSTRUCTION " ++ definition.1 ++ " IS")
    (by simp [List.cons_prefix_cons])
  have last := @Statement.openings_of_text ("END " ++ definition.1)
    (by simp [List.cons_prefix_cons])
  have empty := @Statement.openings_of_text "" (by decide)
  rw [definitionLines, head, Line.openings_append, last, empty, Line.openings, List.append_nil,
    Statement.map_line_openings_lines identifiers]

theorem Program.nesting_le_iff {limit : Nat} :
    program.nesting ≤ limit ↔
      (∀ entry ∈ program.context.entries, entry.2.nesting ≤ limit) ∧
        program.body.nesting ≤ limit := by
  have folded : ∀ entries : List Definition,
      entries.foldr (fun entry deepest => max entry.2.nesting deepest) 0 ≤ limit ↔
        ∀ entry ∈ entries, entry.2.nesting ≤ limit := by
    intro entries
    induction entries with
    | nil => simp
    | cons entry entries ih =>
        rw [List.foldr_cons, Nat.max_le, ih, List.forall_mem_cons]
  rw [nesting, Nat.max_le, folded]

theorem firstTooDeep?_definitionsSites_eq_none_iff {limit : Nat} {definitions : List Definition}
    (line : Nat) :
    firstTooDeep? limit (definitionsSites line definitions) = none ↔
      ∀ definition ∈ definitions, definition.2.nesting ≤ limit := by
  induction definitions generalizing line with
  | nil => exact iff_of_true rfl nofun
  | cons definition definitions ih =>
      rw [definitionsSites, firstTooDeep?_append_eq_none_iff, ih, List.forall_mem_cons,
        Statement.firstTooDeep?_sites_eq_none_iff (Nat.zero_le limit), Nat.zero_add]

private theorem map_line_definitionsSites {definitions : List Definition}
    (isBody : ∀ definition ∈ definitions, definition.2.IsBody) (line : Nat) :
    (Line.openings line (definitions.flatMap definitionLines)).map Site.line =
      (definitionsSites line definitions).map Site.line := by
  induction definitions generalizing line with
  | nil => rfl
  | cons definition definitions ih =>
      rw [List.forall_mem_cons] at isBody
      rw [List.flatMap_cons, Line.openings_append, List.map_append,
        map_line_definitionLines isBody.1.2.callsIdentifiers, ih isBody.2, definitionsSites,
        List.map_append]

/-- The sites of a program are on the lines that open conditionals and loops. -/
theorem Program.map_line_sites (wellFormed : program.WellFormed) :
    program.sites.map Site.line = (Line.openings 1 program.lines).map Site.line := by
  have head := @Statement.openings_of_text ("PROGRAM " ++ program.name ++ " IS")
    (by simp [List.cons_prefix_cons])
  have last := @Statement.openings_of_text ("END " ++ program.name)
    (by simp [List.cons_prefix_cons])
  have empty := @Statement.openings_of_text "" (by decide)
  have begins := @Statement.openings_of_text "BEGIN" (by decide)
  rw [lines, head, empty, Line.openings_append, begins, Line.openings_append, last, Line.openings,
    List.append_nil, List.map_append, map_line_definitionsSites wellFormed.instructionBody,
    Statement.map_line_openings_lines wellFormed.body.2.callsIdentifiers, sites, List.map_append]

/-- No site of a program is too deep where all its bodies nest within the limit. -/
theorem Program.firstTooDeep?_sites_eq_none_iff {limit : Nat} :
    firstTooDeep? limit program.sites = none ↔ program.nesting ≤ limit := by
  rw [sites, firstTooDeep?_append_eq_none_iff, firstTooDeep?_definitionsSites_eq_none_iff,
    Statement.firstTooDeep?_sites_eq_none_iff (Nat.zero_le limit), Nat.zero_add, nesting_le_iff]

/-- The first site that is too deep is in one of the definitions, behind others that are within
the limit. -/
theorem exists_definition_of_tooDeep {limit line : Nat} {site : Site}
    {definitions : List Definition}
    (found : firstTooDeep? limit (definitionsSites line definitions) = some site) :
    ∃ before definition after, definitions = before ++ definition :: after ∧
      (∀ other ∈ before, other.2.nesting ≤ limit) ∧
      firstTooDeep? limit (definition.2.sites 0
        (line + (before.flatMap definitionLines).length + 1)) = some site := by
  induction definitions generalizing line with
  | nil => cases found
  | cons definition definitions ih =>
      rw [definitionsSites, firstTooDeep?_append] at found
      cases first : firstTooDeep? limit (definition.2.sites 0 (line + 1)) with
      | some early =>
          rw [first, Option.some_or] at found
          cases found
          exact ⟨[], definition, definitions, rfl, nofun, first⟩
      | none =>
          rw [first, Option.none_or] at found
          obtain ⟨before, culprit, after, rfl, fits, later⟩ := ih found
          rw [Statement.firstTooDeep?_sites_eq_none_iff (Nat.zero_le limit), Nat.zero_add] at first
          refine ⟨definition :: before, culprit, after, rfl,
            List.forall_mem_cons.mpr ⟨first, fits⟩, ?_⟩
          rw [List.flatMap_cons, List.length_append, ← Nat.add_assoc]
          exact later

end BlockLanguage
