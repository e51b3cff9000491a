import BlockLanguage.Command.Run
import BlockLanguage.Proofs.Parser.Ceiling
import BlockLanguage.Proofs.Parser.Source
import BlockLanguage.Proofs.Printing.Program

/-!
# Reading back printed programs

A well-formed program is read back from its text, unless one of its bodies nests too deeply.
-/

set_option autoImplicit false

namespace BlockLanguage

open TokenShape (word identifier)
open Line (tokensOfAll)
open Text (linesOf)

namespace Parser

variable {requested line : Nat} {definition : Definition} {site : Site} {context : Context}

private theorem instruction_of_tooDeep (named : IsInstructionName definition.1)
    (isBody : definition.2.IsBody)
    (found : firstTooDeep? (nestingLimit requested) (definition.2.sites 0 (line + 1)) = some site)
    (rest : List Token) :
    instruction requested (tokensOfAll line (definitionLines definition) ++ rest) =
      .error (.refused (.tooDeep (nestingLimit requested) site.line)) := by
  have hasClass := (isIdentifier_iff_wordClass.mp named.1).2
  have notPrimitive : isPrimitive ((identifier definition.1).token line).text = false := named.2
  rw [definitionLines, tokensOfAll, (Line.spells_instruction 1 named.1).tokens_eq,
    Line.tokensOfAll_append, List.append_assoc, List.append_assoc]
  simp only [List.map_cons, List.map_nil, List.cons_append, List.nil_append]
  rw [instruction_of_opening rfl hasClass notPrimitive rfl, block_lines_of_tooDeep isBody found]

private theorem definitions_of_fits {listed : List Definition}
    (distinct : (listed.map Prod.fst).Nodup)
    (named : ∀ definition ∈ listed, IsInstructionName definition.1)
    (isBody : ∀ definition ∈ listed, definition.2.IsBody)
    (fits : ∀ definition ∈ listed, definition.2.nesting ≤ nestingLimit requested)
    {rest : List Token} (ended : startsWith .INSTRUCTION rest = false) (line : Nat) :
    definitions requested (tokensOfAll line (listed.flatMap definitionLines) ++ rest) =
      .ok (NameMap.ofList listed, rest) := by
  have spellAll := spellAll_definitions (fun other member => (named other member).1) isBody
  refine definitions_eq_ok_iff.mpr
    ⟨listed, distinct, fun other member => ?_, ⟨_, spellAll.fitAll line, rfl⟩, rfl, ended⟩
  exact ⟨(named other member).2, isBody other member, fits other member⟩

private theorem definitions_of_tooDeep {listed : List Definition}
    (distinct : (listed.map Prod.fst).Nodup)
    (named : ∀ definition ∈ listed, IsInstructionName definition.1)
    (isBody : ∀ definition ∈ listed, definition.2.IsBody)
    (found : firstTooDeep? (nestingLimit requested) (definitionsSites line listed) = some site)
    (rest : List Token) :
    definitions requested (tokensOfAll line (listed.flatMap definitionLines) ++ rest) =
      .error (.refused (.tooDeep (nestingLimit requested) site.line)) := by
  obtain ⟨before, definition, after, rfl, fits, found⟩ := exists_definition_of_tooDeep found
  rw [List.forall_mem_append, List.forall_mem_cons] at named isBody
  rw [List.map_append] at distinct
  have readable : ∀ other ∈ before, Readable (nestingLimit requested) other := fun other member =>
    ⟨(named.1 other member).2, isBody.1 other member, fits other member⟩
  have spellAll := spellAll_definitions (fun other member => (named.1 other member).1) isBody.1
  have failed := instruction_of_tooDeep named.2.1 isBody.2.1 found
    (tokensOfAll (line + (before.flatMap definitionLines).length +
      (definitionLines definition).length) (after.flatMap definitionLines) ++ rest)
  rw [List.flatMap_append, List.flatMap_cons, Line.tokensOfAll_append, Line.tokensOfAll_append,
    List.append_assoc, List.append_assoc]
  generalize tokensOfAll _ (after.flatMap definitionLines) ++ rest = behind at failed ⊢
  have inFront : TokenShape.InFront (before.flatMap definitionShapes)
      (tokensOfAll line (before.flatMap definitionLines) ++
        (tokensOfAll (line + (before.flatMap definitionLines).length)
          (definitionLines definition) ++ behind))
      (tokensOfAll (line + (before.flatMap definitionLines).length)
        (definitionLines definition) ++ behind) :=
    ⟨_, spellAll.fitAll line, rfl⟩
  refine definitions_of_error (List.nodup_append.mp distinct).1 readable inFront ?_ failed
  rw [definitionLines, tokensOfAll, (Line.spells_instruction 1 named.2.1.1).tokens_eq]
  rfl

end Parser

variable {program : Program} {limit requested : Nat} {opened? : Option String}
  {listed : List Definition} {source : String}

/-!
## Programs that are read
-/

theorem MakesUp.wellFormed (makesUp : MakesUp limit opened? listed program) :
    program.WellFormed := by
  have admissible : ∀ entry ∈ program.context.entries, AdmissibleDefinition limit entry := by
    intro entry member
    rw [makesUp.context, NameMap.mem_entries_ofList_iff makesUp.distinct] at member
    exact makesUp.admissible entry member
  exact ⟨makesUp.name, fun entry member => (admissible entry member).name,
    fun entry member => (admissible entry member).isBody, makesUp.isBody⟩

theorem MakesUp.nesting_le (makesUp : MakesUp limit opened? listed program) :
    program.nesting ≤ limit := by
  refine Program.nesting_le_iff.mpr ⟨fun entry member => ?_, makesUp.nesting⟩
  rw [makesUp.context, NameMap.mem_entries_ofList_iff makesUp.distinct] at member
  exact (makesUp.admissible entry member).nesting

namespace Program

/-- What is read is well-formed and nests within the limit. -/
theorem wellFormed_of_ofSource (read : ofSource requested source = .ok program) :
    program.WellFormed ∧ program.nesting ≤ nestingLimit requested := by
  obtain ⟨opened?, listed, makesUp, _⟩ := ofSource_eq_ok_iff_fitAll.mp read
  exact ⟨makesUp.wellFormed, makesUp.nesting_le⟩

/-- A program is made up of the entries of its own context. -/
theorem makesUp (wellFormed : program.WellFormed) (fits : program.nesting ≤ limit) :
    MakesUp limit (some program.name) program.context.entries program := by
  obtain ⟨contextFits, bodyFits⟩ := nesting_le_iff.mp fits
  exact {
    name := wellFormed.name
    opened := fun opened same => (Option.some.inj same).symm
    distinct := NameMap.nodup_names program.context
    admissible := fun entry member => ⟨wellFormed.instructionName entry member,
      wellFormed.instructionBody entry member, contextFits entry member⟩
    context := (NameMap.ofList_entries program.context).symm
    isBody := wellFormed.body
    nesting := bodyFits }

theorem ofSource_render_of_fits (wellFormed : program.WellFormed)
    (fits : program.nesting ≤ nestingLimit requested) :
    ofSource requested program.render = .ok program := by
  refine ofSource_eq_ok_iff_fitAll.mpr ⟨_, _, makesUp wellFormed fits, ?_⟩
  rw [tokenize_render wellFormed]
  exact (spellAll_lines wellFormed).fitAll 1

/-- The tokens of a printed program are those of its first line, of its definitions and of its
body from the line with BEGIN on. -/
private theorem tokensOfAll_lines (program : Program) :
    tokensOfAll 1 program.lines =
      (⟨0, "PROGRAM " ++ program.name ++ " IS"⟩ : Line).tokens 1 ++
        (tokensOfAll 3 (program.context.entries.flatMap definitionLines) ++
          ((⟨0, "BEGIN"⟩ : Line).tokens
              (3 + (program.context.entries.flatMap definitionLines).length) ++
            (tokensOfAll (3 + (program.context.entries.flatMap definitionLines).length + 1)
                (program.body.lines 1) ++
              tokensOfAll (3 + (program.context.entries.flatMap definitionLines).length + 1 +
                (program.body.lines 1).length) [⟨0, "END " ++ program.name⟩]))) := by
  rw [lines, tokensOfAll, tokensOfAll, (Line.spells_empty 0).tokens_eq, List.map_nil,
    List.nil_append, Line.tokensOfAll_append, tokensOfAll, Line.tokensOfAll_append]

private theorem header?_tokens (isName : isIdentifier program.name = true) (others : List Token) :
    Parser.header? ((⟨0, "PROGRAM " ++ program.name ++ " IS"⟩ : Line).tokens 1 ++ others) =
      .ok (some program.name, others) := by
  have spells := Line.spells_program 0 isName
  have fit := TokenShape.fitAll_map_token spells.spelled 1
  rw [← spells.tokens_eq] at fit
  exact Parser.header?_eq_ok_iff.mpr ⟨⟨_, fit, rfl⟩, nofun⟩

private theorem begin_tokens (others : List Token) (line : Nat) :
    Parser.keyword .BEGIN ((⟨0, "BEGIN"⟩ : Line).tokens line ++ others) = .ok ((), others) := by
  rw [(Line.spells_begin 0).tokens_eq]
  exact Parser.keyword_eq_ok_iff.mpr ⟨_, rfl, rfl⟩

theorem ofSource_render_of_tooDeep (wellFormed : program.WellFormed) {site : Site}
    (found : firstTooDeep? (nestingLimit requested) program.sites = some site) :
    ofSource requested program.render =
      .error (.refused (.tooDeep (nestingLimit requested) site.line)) := by
  have distinct := NameMap.nodup_names program.context
  have readHeader := header?_tokens wellFormed.name
  rw [ofSource_eq, tokenize_render wellFormed, tokensOfAll_lines]
  rw [sites, firstTooDeep?_append] at found
  cases inside : firstTooDeep? (nestingLimit requested)
      (definitionsSites 3 program.context.entries) with
  | some early =>
      rw [inside, Option.some_or] at found
      cases found
      rw [Parser.program_of_definitions_error (readHeader _)
        (Parser.definitions_of_tooDeep distinct wellFormed.instructionName
          wellFormed.instructionBody inside _)]
      rfl
  | none =>
      rw [inside, Option.none_or] at found
      rw [firstTooDeep?_definitionsSites_eq_none_iff] at inside
      have begins := fun others => begin_tokens others
        (3 + (program.context.entries.flatMap definitionLines).length)
      have readContext := fun others => Parser.definitions_of_fits distinct
        wellFormed.instructionName wellFormed.instructionBody inside
        (Parser.startsWith_of_begin (begins others)).2 3
      rw [Parser.program_of_body_error (readHeader _) (readContext _) (begins _)
        (Parser.block_lines_of_tooDeep wellFormed.body found 1 _)]
      rfl

end Program

theorem Command.describe_pretty_eq_ok_iff {text : String} :
    Command.describe true requested source = .ok text ↔
      ∃ program, Program.ofSource requested source = .ok program ∧ program.render = text := by
  unfold Command.describe
  cases Program.ofSource requested source with
  | ok program =>
      constructor
      · intro success
        cases success
        exact ⟨program, rfl, rfl⟩
      · intro ⟨_, same, printed⟩
        cases same
        exact congrArg Except.ok printed
  | error failure =>
      constructor
      · intro success
        cases success
      · intro ⟨_, same, _⟩
        cases same

/-- A well-formed program is read back from its text where its bodies nest within the limit.
Otherwise the error is at the first line of that text that opens a conditional or a loop beyond the
limit. So whatever is read from a source text is read back from its own text, and printing what is
read from printed text changes nothing. -/
theorem Program.ofSource_render (requested : Nat) :
    (∀ program : Program, program.WellFormed →
      (program.nesting ≤ min requested 1024 →
        ofSource requested program.render = .ok program) ∧
      (min requested 1024 < program.nesting →
        ∃ site, firstTooDeep? (min requested 1024) program.sites = some site ∧
          ofSource requested program.render =
            .error (.refused (.tooDeep (min requested 1024) site.line))) ∧
      program.sites.map Site.line = (Line.openings 1 program.lines).map Site.line ∧
      linesOf program.render = program.lines.map fun line => (line.render 0).toList) ∧
    ∀ source program, ofSource requested source = .ok program →
      ofSource requested program.render = .ok program ∧
        Command.describe true requested source = .ok program.render ∧
        Command.describe true requested program.render = .ok program.render := by
  rw [← nestingLimit_eq]
  constructor
  · intro program wellFormed
    refine ⟨ofSource_render_of_fits wellFormed, fun beyond => ?_, map_line_sites wellFormed,
      linesOf_render wellFormed⟩
    cases found : firstTooDeep? (nestingLimit requested) program.sites with
    | some site => exact ⟨site, rfl, ofSource_render_of_tooDeep wellFormed found⟩
    | none => exact absurd (firstTooDeep?_sites_eq_none_iff.mp found) (Nat.not_le_of_lt beyond)
  · intro source program read
    obtain ⟨wellFormed, fits⟩ := wellFormed_of_ofSource read
    have rereads := ofSource_render_of_fits wellFormed fits
    exact ⟨rereads, Command.describe_pretty_eq_ok_iff.mpr ⟨program, read, rfl⟩,
      Command.describe_pretty_eq_ok_iff.mpr ⟨program, rereads, rfl⟩⟩

/-- A loop in a conditional opens on the fifth line of a program, where one level is too little
and two are enough. -/
theorem Program.ofSource_render_loopOnFifthLine :
    let step : Statement := .block [.ifThen .random (.block [.loop .always (.block [.call "move"])])]
    let program : Program := ⟨"Walk", ⟨[("step", step)], by decide⟩, .block [.call "step"]⟩
    program.WellFormed ∧
      ofSource 1 program.render = .error (.refused (.tooDeep 1 5)) ∧
      ofSource 2 program.render = .ok program ∧
      Command.describe true 2 program.render = .ok program.render ∧
      (linesOf program.render)[4]? = some "            WHILE true DO\n".toList := by
  intro step program
  have isBody : ∀ body ∈ [step, program.body], body.IsBody := by
    intro body member
    refine (Statement.normal_eq_self_iff ?_).mp ?_
    · rw [Statement.callsIdentifiers_iff_wordClass]
      revert body
      decide
    · revert body
      decide
  have wellFormed : program.WellFormed := by
    refine ⟨isIdentifier_iff_wordClass.mpr (by decide), ?_, ?_, isBody _ (by simp)⟩
    · exact List.forall_mem_singleton.mpr ⟨isIdentifier_iff_wordClass.mpr (by decide), rfl⟩
    · exact List.forall_mem_singleton.mpr (isBody _ (by simp))
  obtain ⟨_, beyond, _, printed⟩ := (ofSource_render 1).1 program wellFormed
  obtain ⟨site, found, stopped⟩ := beyond (by decide)
  have first : firstTooDeep? 1 program.sites = some ⟨1, 5⟩ := by decide
  obtain rfl := Option.some.inj (found.symm.trans first)
  obtain ⟨within, _⟩ := (ofSource_render 2).1 program wellFormed
  have read := within (by decide)
  refine ⟨wellFormed, stopped, read, ((ofSource_render 2).2 _ program read).2.1, ?_⟩
  rw [printed]
  rfl

end BlockLanguage
