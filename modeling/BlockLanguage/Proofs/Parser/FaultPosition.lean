import BlockLanguage.Proofs.Parser.DefinitionLoop
import Mathlib.Control.Monad.Basic

/-!
# Where faults are found

Errors tell of the first token at fault: without it nothing is wrong with the tokens, and with it
they fail as they do in the end. That an instruction is defined once more is found at the name that
closes its definition and tells of the name that opens it.
-/

set_option autoImplicit false

namespace BlockLanguage.Parser

open ParseError (PointsAt)
open Token (AllSound)
open TokenShape (FitAll)

variable {α : Type} {parser : Parser α} {faults : Token → ParseError → Prop} {requested : Nat}
  {tokens front behind rest : List Token} {error : ParseError}

/-- The token at the index is the first one that the parser has an error for: as long as it is
missing the tokens are read to their end, or more are asked for. -/
def FirstFault (parser : Parser α) (tokens : List Token) (index : Nat) (error : ParseError) :
    Prop :=
  (∀ count ≤ index, Awaits parser (tokens.take count)) ∧
    parser (tokens.take (index + 1)) = .error (.refused error)

/-- An error tells of the token at the first fault. -/
def FoundAtFirst (parser : Parser α) (tokens : List Token) (error : ParseError) : Prop :=
  ∃ index token, tokens[index]? = some token ∧ error.PointsAt token ∧
    FirstFault parser tokens index error

theorem Awaits.of_append (awaits : Awaits parser (front ++ behind))
    (prompt : PromptAt faults parser front) : Awaits parser front := by
  cases result : parser front with
  | ok read =>
      obtain ⟨value, rest⟩ := read
      by_cases ended : rest = []
      · exact .inl ⟨value, ended ▸ result⟩
      · have longer := prompt.append_of_ok result ended behind
        rcases awaits with ⟨_, finished⟩ | ⟨_, asked⟩
        · rw [longer] at finished
          simp [ended] at finished
        · rw [longer] at asked
          cases asked
  | error failure =>
      rcases prompt.of_error result with
        ⟨expected, rfl⟩ | ⟨before, token, after, error, rfl, rfl, _, _, stays⟩
      · exact .inr ⟨expected, result⟩
      · have failed := stays (after ++ behind)
        rw [← List.cons_append, ← List.append_assoc] at failed
        rcases awaits with ⟨_, finished⟩ | ⟨expected, asked⟩
        · rw [failed] at finished
          cases finished
        · rw [failed] at asked
          cases asked
          exact .inr ⟨expected, result⟩

theorem firstFault_of_awaits (prompt : Prompt faults parser) {token : Token}
    (sound : AllSound front) (awaits : Awaits parser front)
    (failed : parser (front ++ [token]) = .error (.refused error)) (behind : List Token) :
    FirstFault parser (front ++ token :: behind) front.length error := by
  constructor
  · intro count within
    rw [List.take_append_of_le_length within]
    have soundTaken := sound.mono (List.take_subset count front)
    have whole : Awaits parser (front.take count ++ front.drop count) := by
      rw [List.take_append_drop]
      exact awaits
    exact whole.of_append (prompt soundTaken)
  · rw [← List.singleton_append, ← List.append_assoc,
      List.take_left' (by rw [List.length_append, List.length_singleton])]
    exact failed

theorem Prompt.foundAtFirst (prompt : Prompt faults parser) (sound : AllSound tokens)
    (failed : parser tokens = .error (.refused error))
    (asksNothing : ∀ expected, error ≠ .endOfInput expected)
    (tells : ∀ {token}, faults token error → error.PointsAt token) :
    FoundAtFirst parser tokens error := by
  rcases (prompt sound).of_error failed with
    ⟨expected, same⟩ | ⟨front, token, behind, _, rfl, same, fault, awaits, stays⟩
  · cases same
    exact absurd rfl (asksNothing expected)
  · cases same
    have soundFront := (List.forall_mem_append.mp sound).1
    exact ⟨front.length, token, by simp, tells fault,
      firstFault_of_awaits prompt soundFront awaits (stays []) behind⟩

/-!
## Repeated definitions
-/

/-- The token at the index closes a definition of a name that is taken. -/
def RepeatsAt (requested : Nat) (tokens : List Token) (index : Nat) (name : Token) : Prop :=
  ∃ context body opener inner front definition behind,
    tokens = front ++ (definition ++ behind) ∧ index + 1 = front.length + definition.length ∧
    definition = opener :: name :: inner ∧
    FitAll (definitionShapes (name.text, body)) definition ∧
    Reaches requested tokens context (definition ++ behind) ∧
    context.contains name.text = true

/-- Orderly parsers know nothing of definitions before the tokens. -/
theorem Orderly.ne_instructionRepeated (orderly : Orderly parser) (sound : AllSound tokens)
    (name : String) (line : Nat) :
    parser tokens ≠ .error (.refused (.instructionRepeated name line)) := by
  intro failed
  rcases (orderly.prompt sound).of_error failed with
    ⟨expected, same⟩ | ⟨front, token, behind, error, _, same, pointsAt, _⟩
  · cases same
  · cases same
    cases pointsAt

theorem exists_definition_of_instructionRepeated (sound : AllSound tokens) {name : String}
    {line : Nat}
    (failed : program requested tokens = .error (.refused (.instructionRepeated name line))) :
    ∃ context rest token body behind, Reaches requested tokens context rest ∧
      startsWith .INSTRUCTION rest = true ∧
      instruction requested rest = .ok ((token, body), behind) ∧
      context.contains token.text = true ∧ name = token.text ∧ line = token.line := by
  rcases program_error_cases failed with header | ⟨context, rest, reaches, opens, inDefinition⟩ |
    ⟨opened?, middle, context, rest, readHeader, readsContext, inBody⟩
  · exact absurd header (orderly_header?.ne_instructionRepeated sound name line)
  · have soundRest := sound.mono reaches.isSuffix.subset
    rcases intoContext_error_cases inDefinition with
      early | ⟨token, body, behind, read, taken, same⟩
    · have orderly := orderly_instruction requested
      exact absurd early (orderly.ne_instructionRepeated soundRest name line)
    · cases same
      exact ⟨context, rest, token, body, behind, reaches, opens, read, taken, rfl, rfl⟩
  · have isSuffix := readsContext.isSuffix.trans (isSuffix_of_header? readHeader)
    have orderly := orderly_behindDefinitions sound readHeader readsContext
    exact absurd inBody (orderly.ne_instructionRepeated (sound.mono isSuffix.subset) name line)

/-- While the last token of a definition is missing, the program asks for more as the definition
does; with that token, the name of the definition turns out to be taken. -/
theorem Reaches.outcomes_of_taken {context : Context} {before : List Token} {last token : Token}
    {body : Statement} {expected : Expectation}
    (reaches : Reaches requested (front ++ (before ++ last :: behind)) context
      (before ++ last :: behind))
    (opens : ∀ others, startsWith .INSTRUCTION (before ++ others) = true)
    (asked : instruction requested before = .error (.refused (.endOfInput expected)))
    (read : instruction requested (before ++ [last]) = .ok ((token, body), []))
    (taken : context.contains token.text = true) :
    program requested (front ++ before) = .error (.refused (.endOfInput expected)) ∧
      program requested (front ++ before ++ [last]) =
        .error (.refused (.instructionRepeated token.text token.line)) := by
  have nonempty : before ≠ [] := by
    intro none
    have opened := opens []
    rw [none] at opened
    cases opened
  constructor
  · rw [← List.append_assoc] at reaches
    refine (reaches.of_append nonempty).program_of_error ?_ (intoContext_of_error asked context)
    rw [← List.append_nil before]
    exact opens []
  · rw [← List.singleton_append, ← List.append_assoc, ← List.append_assoc,
      ← List.append_assoc] at reaches
    have alone := reaches.of_append (List.append_ne_nil_of_left_ne_nil nonempty [last])
    exact alone.program_of_error (opens [last]) (intoContext_of_taken read taken)

theorem repeatsAt_of_instructionRepeated (sound : AllSound tokens) {name : String} {line : Nat}
    (failed : program requested tokens = .error (.refused (.instructionRepeated name line))) :
    ∃ index token, RepeatsAt requested tokens index token ∧ name = token.text ∧
      line = token.line ∧
      FirstFault (program requested) tokens index (.instructionRepeated name line) := by
  obtain ⟨context, rest, token, body, behind, reaches, opens, read, taken, rfl, rfl⟩ :=
    exists_definition_of_instructionRepeated sound failed
  obtain ⟨front, rfl⟩ := reaches.isSuffix
  obtain ⟨soundFront, soundRest⟩ := List.forall_mem_append.mp sound
  obtain ⟨before, last, rfl, ⟨expected, asked⟩, readsLast⟩ :=
    (closed_instruction requested).exists_last (advances_instruction requested)
      (orderly_instruction requested).prompt soundRest read
  obtain ⟨soundBefore, _⟩ := List.forall_mem_append.mp soundRest
  have alone := readsLast []
  obtain ⟨⟨opener, inner, split⟩, _, inFront⟩ := instruction_eq_ok_iff.mp alone
  have startsAlike : ∀ others, startsWith .INSTRUCTION (before ++ others) = true := by
    intro others
    cases before with
    | nil => cases split
    | cons first before => exact opens
  obtain ⟨asks, repeats⟩ := reaches.outcomes_of_taken startsAlike asked alone taken
  have isFirst := firstFault_of_awaits (prompt_program requested)
    (List.forall_mem_append.mpr ⟨soundFront, soundBefore⟩) (.inr ⟨expected, asks⟩) repeats behind
  rw [List.append_assoc] at isFirst
  have joined : before ++ last :: behind = before ++ [last] ++ behind := by
    rw [List.append_assoc, List.singleton_append]
  refine ⟨(front ++ before).length, token, ⟨context, body, opener, inner, front, before ++ [last],
    behind, ?_, ?_, split, inFront_all_iff.mp inFront, joined ▸ reaches, taken⟩, rfl, rfl, isFirst⟩
  · rw [joined]
  · simp only [List.length_append, List.length_singleton]
    omega

/-!
## All errors
-/

/-- Errors of the parsers tell of the token at the first fault, unless they ask for more. That an
instruction is defined once more tells of the name of that definition and is found at its end. -/
theorem errors_found_first (requested : Nat) {tokens : List Token} (sound : AllSound tokens) :
    (∀ error, statement requested tokens = .error (.refused error) →
      (∀ expected, error ≠ .endOfInput expected) →
        FoundAtFirst (statement requested) tokens error) ∧
    (∀ error, block requested tokens = .error (.refused error) →
      (∀ expected, error ≠ .endOfInput expected) →
        FoundAtFirst (block requested) tokens error) ∧
    (∀ error, program requested tokens = .error (.refused error) →
      (∀ expected, error ≠ .endOfInput expected) →
      (∀ name line, error ≠ .instructionRepeated name line) →
        FoundAtFirst (program requested) tokens error) ∧
    ∀ name line, program requested tokens = .error (.refused (.instructionRepeated name line)) →
      ∃ index token, RepeatsAt requested tokens index token ∧ name = token.text ∧
        line = token.line ∧
        FirstFault (program requested) tokens index (.instructionRepeated name line) := by
  refine ⟨?_, ?_, ?_, fun name line failed => repeatsAt_of_instructionRepeated sound failed⟩
  · intro error failed asksNothing
    exact (orderly_statement requested).prompt.foundAtFirst sound failed asksNothing id
  · intro error failed asksNothing
    exact (orderlyBlocks_block requested).orderly.prompt.foundAtFirst sound failed asksNothing id
  · intro error failed asksNothing repeatsNothing
    refine (prompt_program requested).foundAtFirst sound failed asksNothing fun fault => ?_
    rcases fault with pointsAt | ⟨name, line, same⟩
    · exact pointsAt
    · exact absurd same (repeatsNothing name line)

/-- A divider is missing in the main body of a program, and an instruction is defined twice. -/
theorem errors_found_first_dividerMissing :
    let undivided : List Token := [⟨.keyword, "BEGIN", 1⟩, ⟨.identifier, "move", 2⟩,
      ⟨.keyword, "IF", 3⟩, ⟨.condition, "random", 3⟩, ⟨.identifier, "move", 4⟩,
      ⟨.keyword, "END", 5⟩]
    let repeated : List Token := [⟨.keyword, "INSTRUCTION", 1⟩, ⟨.identifier, "step", 1⟩,
      ⟨.keyword, "IS", 1⟩, ⟨.keyword, "END", 2⟩, ⟨.identifier, "step", 2⟩,
      ⟨.keyword, "INSTRUCTION", 3⟩, ⟨.identifier, "step", 3⟩, ⟨.keyword, "IS", 3⟩,
      ⟨.identifier, "move", 4⟩, ⟨.keyword, "END", 5⟩, ⟨.identifier, "step", 5⟩,
      ⟨.keyword, "BEGIN", 6⟩]
    AllSound undivided ∧ AllSound repeated ∧
      FoundAtFirst (program 1) undivided (.wrongText .THEN "move" 4) ∧
      ∃ index token, RepeatsAt 1 repeated index token ∧ token.text = "step" ∧ token.line = 3 ∧
        FirstFault (program 1) repeated index (.instructionRepeated "step" 3) := by
  intro undivided repeated
  have soundUndivided : AllSound undivided := Token.allSound_iff_wordClass.mpr (by decide)
  have soundRepeated : AllSound repeated := Token.allSound_iff_wordClass.mpr (by decide)
  obtain ⟨_, _, pointsAtFault, _⟩ := errors_found_first 1 soundUndivided
  obtain ⟨_, _, _, pointsAtName⟩ := errors_found_first 1 soundRepeated
  have found := pointsAtFault (.wrongText .THEN "move" 4) (by decide +kernel) nofun nofun
  obtain ⟨index, token, repeats, text, line, first⟩ := pointsAtName "step" 3 (by decide +kernel)
  exact ⟨soundUndivided, soundRepeated, found, index, token, repeats, text.symm, line.symm, first⟩

end BlockLanguage.Parser
