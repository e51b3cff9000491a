import BlockLanguage.Proofs.Parser.DefinitionLoop
import BlockLanguage.Proofs.Program.Summary
import BlockLanguage.Proofs.RoundTrip.Program

/-!
# Preconditions are met

What the parsers build, they build by checked edits. On sound tokens they meet all preconditions,
and all tokens that are cut out of a text are sound.
-/

set_option autoImplicit false

namespace BlockLanguage

open Token (AllSound)

namespace Parser

variable {α : Type} {parser : Parser α} {faults : Token → ParseError → Prop} {requested : Nat}
  {tokens rest : List Token} {statement : Parser Statement} {child : Statement}

/-- The parser reads something or refuses the tokens; it breaks no precondition. -/
def BreaksNothing (parser : Parser α) (tokens : List Token) : Prop :=
  (∃ read, parser tokens = .ok read) ∨ ∃ error, parser tokens = .error (.refused error)

theorem PromptAt.breaksNothing (prompt : PromptAt faults parser tokens) :
    BreaksNothing parser tokens := by
  cases result : parser tokens with
  | ok read => exact .inl ⟨read, result⟩
  | error failure =>
      rcases prompt.of_error result with ⟨expected, rfl⟩ | ⟨_, _, _, error, _, rfl, _⟩
      · exact .inr ⟨_, result⟩
      · exact .inr ⟨error, result⟩

/-!
## Blocks that grow at their end
-/

/-- Reads a statement and counts those that a block holds to put it behind them. -/
def intoBlockEnd (statement : Parser Statement) (before : Statement) : Parser Statement := do
  let child ← statement
  match Statement.childCount.result before with
  | .ok count =>
    let built ← build (Statement.insertChild count) (before, child)
    return built.1
  | .error violation => throw (.violated violation)

/-- Reads a block from its first to its last statement. -/
def blockGrown (statement : Parser Statement) : Parser Statement :=
  repeatUntil endsBlock (intoBlockEnd statement) .empty

theorem advances_intoBlockEnd (reads : ReadsStatements statement) (before : Statement) :
    Advances (intoBlockEnd statement before) := by
  intro tokens grown rest success
  obtain ⟨child, middle, read, grows⟩ := bind_eq_ok_iff.mp success
  cases counted : Statement.childCount.result before with
  | error violation =>
      rw [counted] at grows
      cases grows
  | ok count =>
      simp only [counted] at grows
      obtain ⟨built, after, builds, finished⟩ := bind_eq_ok_iff.mp grows
      cases finished
      rw [(build_eq_ok_iff.mp builds).2]
      exact reads.advances read

theorem intoBlockEnd_of_ok (reads : ReadsStatements statement)
    (read : statement tokens = .ok (child, rest)) (before : List Statement) :
    intoBlockEnd statement (.block before) tokens = .ok (.block (before ++ [child]), rest) := by
  have counted : Statement.childCount.result (.block before) = .ok before.length := rfl
  have makes := make_insertChild (reads.kind_ne_block read) (Nat.le_refl before.length)
  rw [List.insertIdx_length_self] at makes
  simp only [intoBlockEnd, bind_apply, read, counted, build_of_make makes, pure_apply]

theorem repeatUntil_intoBlockEnd (reads : ReadsStatements statement) (before : List Statement)
    (tokens : List Token) :
    repeatUntil endsBlock (intoBlockEnd statement) (.block before) tokens =
      (repeatUntil endsBlock (intoBlock statement) (.block before.reverse) tokens).map
        fun (backwards, rest) => (backwards.reversed, rest) := by
  -- both loops stop at the same tokens, and what they hold stays the same but for the order
  induction length : tokens.length using Nat.strongRecOn generalizing before tokens with
  | ind size ih =>
      subst length
      cases ends : endsBlock tokens with
      | true =>
          rw [repeatUntil_of_stop ends, repeatUntil_of_stop ends]
          simp [Except.map, Statement.reversed]
      | false =>
          rw [repeatUntil_of_round rfl (advances_intoBlockEnd reads) ends,
            repeatUntil_of_round rfl (advances_intoBlock reads) ends]
          cases read : statement tokens with
          | error failure =>
              rw [intoBlock_of_error read]
              simp only [intoBlockEnd, bind_apply, read]
              rfl
          | ok success =>
              obtain ⟨child, rest⟩ := success
              rw [intoBlockEnd_of_ok reads read, intoBlock_of_ok reads read]
              have later := ih rest.length (reads.advances read) (before ++ [child]) rest rfl
              rw [List.reverse_append, List.reverse_singleton, List.singleton_append] at later
              exact later

/-- Growing a block at its end, which counts its statements each time, comes to the same as growing
it at its front and turning it around. -/
theorem blockGrown_eq_blockWith (reads : ReadsStatements statement) :
    blockGrown statement = blockWith statement := by
  funext tokens
  rw [blockGrown, Statement.empty, repeatUntil_intoBlockEnd reads, List.reverse_nil]
  simp only [blockWith, bind_apply, Statement.empty]
  cases repeatUntil endsBlock (intoBlock statement) (.block []) tokens with
  | ok read => rfl
  | error failure => rfl

/-- What is read as a program has passed the checks of the edits that build it. -/
theorem checked_of_read {made : Program} (read : program requested tokens = .ok (made, rest)) :
    made.Checked := by
  obtain ⟨_, opened?, listed, makesUp, _⟩ := program_eq_ok_iff.mp read
  exact makesUp.wellFormed.checked

theorem exists_childCount_of_block {body : Statement}
    (read : block requested tokens = .ok (body, rest)) :
    ∃ count, Statement.childCount.result body = .ok count :=
  exists_statementCount (block_eq_ok_iff.mp read).isBody.1

end Parser

/-!
## Source texts
-/

theorem allSound_tokenize (source : String) : AllSound (tokenize source) :=
  fun _ member hasClass => (genuine_of_mem_tokenize member).isIdentifier_iff.mpr hasClass

/-- Only blanks are discarded, and blanks are no identifiers. -/
theorem allSound_allTokens (source : String) : AllSound (allTokens source) := by
  intro token member hasClass
  have kept : token ∈ tokenize source := by
    refine List.mem_filter.mpr ⟨member, ?_⟩
    rw [hasClass]
    rfl
  exact allSound_tokenize source token kept hasClass

namespace Command

theorem describe_cases (prettyPrint : Bool) (requested : Nat) (source : String) :
    (∃ text, describe prettyPrint requested source = .ok text) ∨
      ∃ error, describe prettyPrint requested source = .error (.parse error) := by
  have outcome := (Parser.prompt_program requested (allSound_tokenize source)).breaksNothing
  rcases outcome with ⟨⟨program, rest⟩, read⟩ | ⟨error, failed⟩
  · obtain ⟨summary, summarized⟩ := (Parser.checked_of_read read).exists_summary
    have parsed : Program.ofSource requested source = .ok program := by
      rw [Program.ofSource_eq, read]
      rfl
    have described : describe prettyPrint requested source =
        if prettyPrint then .ok program.render else program.summary.mapError .violation := by
      rw [describe, parsed]
      rfl
    rw [described, summarized]
    refine .inl ?_
    cases prettyPrint with
    | true => exact ⟨program.render, rfl⟩
    | false => exact ⟨summary, rfl⟩
  · refine .inr ⟨error, ?_⟩
    have refused : Program.ofSource requested source = .error (.refused error) := by
      rw [Program.ofSource_eq, failed]
      rfl
    rw [describe, refused]
    rfl

end Command

/-!
## All parsers
-/

/-- On sound tokens the parsers meet the preconditions of all edits, also those of counting the
statements of a block and of putting another one behind them. All tokens of a source text are
sound, so a run on it ends with a text or with a parse error. -/
theorem Parser.preconditions_met (requested : Nat) :
    (∀ tokens, AllSound tokens →
      BreaksNothing (statement requested) tokens ∧ BreaksNothing (block requested) tokens ∧
        BreaksNothing (program requested) tokens) ∧
    (∀ limit room, blockWith (statementWithin limit room) =
      blockGrown (statementWithin limit room)) ∧
    (∀ tokens body rest, block requested tokens = .ok (body, rest) →
      ∃ count, Statement.childCount.result body = .ok count) ∧
    (∀ tokens made rest, program requested tokens = .ok (made, rest) →
      ∃ text, made.summary = .ok text) ∧
    (∀ source, AllSound (allTokens source) ∧ AllSound (tokenize source)) ∧
    ∀ prettyPrint source, (∃ text, Command.describe prettyPrint requested source = .ok text) ∨
      ∃ error, Command.describe prettyPrint requested source = .error (.parse error) := by
  refine ⟨fun tokens sound => ⟨?_, ?_, ?_⟩, fun limit room => ?_, ?_, ?_,
    fun source => ⟨?_, ?_⟩, ?_⟩
  · exact ((orderly_statement requested).prompt sound).breaksNothing
  · exact ((orderlyBlocks_block requested).orderly.prompt sound).breaksNothing
  · exact (prompt_program requested sound).breaksNothing
  · exact (blockGrown_eq_blockWith (readsFronts_statementWithin limit room).readsStatements).symm
  · exact fun tokens body rest read => exists_childCount_of_block read
  · exact fun tokens made rest read => (checked_of_read read).exists_summary
  · exact allSound_allTokens source
  · exact allSound_tokenize source
  · exact fun prettyPrint source => Command.describe_cases prettyPrint requested source

end BlockLanguage
