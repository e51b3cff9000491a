import BlockLanguage.Proofs.Parser.DefinitionLoop
import Mathlib.Control.Monad.Basic

/-!
# More tokens

What becomes of an outcome when more tokens follow. A lack of tokens is the only error that can
be undone, and it always can, but for programs that break off in a definition that comes too late:
completing it shows that its name is taken.
-/

set_option autoImplicit false

namespace BlockLanguage.Parser

open Token (AllSound)

variable {α : Type} {requested : Nat} {tokens rest : List Token} {context : Context}

/-- An error of the parser stays, whatever follows the tokens, unless it asks for more. -/
def ErrorStays (parser : Parser α) (tokens : List Token) : Prop :=
  ∀ error, parser tokens = .error (.refused error) → (∀ expected, error ≠ .endOfInput expected) →
    ∀ others, parser (tokens ++ others) = .error (.refused error)

/-- The tokens break off in a definition, behind the name, and the name is taken. -/
def BreaksOffRepeating (requested : Nat) (tokens : List Token) (name : Token)
    (definition : List Token) : Prop :=
  ∃ context opener behind expected, definition = opener :: name :: behind ∧
    opener.text = Keyword.INSTRUCTION.spelling ∧ Reaches requested tokens context definition ∧
    context.contains name.text = true ∧
    instruction requested definition = .error (.refused (.endOfInput expected))

/-!
## Behind a program
-/

theorem program_append_cons {made : Program} (sound : AllSound tokens)
    (read : program requested tokens = .ok (made, rest)) (token : Token) (others : List Token) :
    program requested (tokens ++ token :: others) =
      .error (.refused (.inputAfterEnd token.text token.line)) := by
  rw [program_eq_behind] at read
  obtain ⟨opened?, middle, readHeader, read⟩ := bind_eq_ok_iff.mp read
  obtain ⟨context, beforeBegin, readContext, read⟩ := bind_eq_ok_iff.mp read
  obtain ⟨_, afterBegin, begins, read⟩ := bind_eq_ok_iff.mp read
  obtain ⟨body, beforeEnd, readBody, read⟩ := bind_eq_ok_iff.mp read
  obtain ⟨_, afterEnd, ends, read⟩ := bind_eq_ok_iff.mp read
  obtain ⟨name, last, readName, read⟩ := bind_eq_ok_iff.mp read
  obtain ⟨_, _, ended, _⟩ := bind_eq_ok_iff.mp read
  obtain ⟨rfl, _⟩ := endOfProgram_eq_ok_iff.mp ended
  have readsContext := readsContext_of_definitions readContext
  have soundBody : AllSound afterBegin := by
    obtain ⟨_, _, rfl⟩ := keyword_eq_ok_iff.mp begins
    have isSuffix := readsContext.isSuffix.trans (isSuffix_of_header? readHeader)
    exact (List.forall_mem_cons.mp (sound.mono isSuffix.subset)).2
  have more : beforeEnd ≠ [] := by
    intro none
    rw [none] at ends
    cases ends
  -- no part of the program looks behind its own last token
  have beginsStill := (closed_keyword .BEGIN).append begins (token :: others)
  have bodyStill := ((orderlyBlocks_block requested).orderly.prompt soundBody).append_of_ok
    readBody more (token :: others)
  have endsStill := (closed_keyword .END).append ends (token :: others)
  have nameStill := (closed_programName opened?).append readName (token :: others)
  have isFault : endOfProgram ([] ++ token :: others) =
      .error (.refused (.inputAfterEnd token.text token.line)) := rfl
  rw [program_append_eq readHeader readsContext beginsStill]
  simp only [programBehind, bind_apply, beginsStill, bodyStill, endsStill, nameStill, isFault]

/-!
## Completing programs
-/

theorem Reaches.exists_completion (reaches : Reaches requested tokens context [])
    (sound : AllSound tokens) :
    ∃ others made, AllSound others ∧ program requested (tokens ++ others) = .ok (made, []) := by
  obtain ⟨opened?, middle, readHeader, readsContext⟩ := reaches
  obtain ⟨others, made, soundOthers, finished⟩ :=
    (orderly_behindDefinitions sound readHeader readsContext).succeeds
  obtain ⟨_, behind, begins, _⟩ := bind_eq_ok_iff.mp finished
  have same := program_append_eq readHeader readsContext begins
  exact ⟨others, made, soundOthers, same.trans finished⟩

/-- A definition of a name that is not taken can be completed, and then the program can. -/
theorem exists_completion_of_definition (reaches : Reaches requested tokens context rest)
    (sound : AllSound tokens) (more : rest ≠ []) {others : List Token} {name : Token}
    {body : Statement} (soundOthers : AllSound others)
    (completed : instruction requested (rest ++ others) = .ok ((name, body), []))
    (free : context.contains name.text = false) :
    ∃ others made, AllSound others ∧ program requested (tokens ++ others) = .ok (made, []) := by
  have read : intoContext requested context (rest ++ others) =
      .ok (context.insert name.text body, []) := by
    simp only [intoContext, bind_apply, completed, free, Bool.false_eq_true, if_false, pure_apply]
  have soundAll : AllSound (tokens ++ others) := List.forall_mem_append.mpr ⟨sound, soundOthers⟩
  obtain ⟨further, made, soundFurther, finished⟩ :=
    ((reaches.append more others).round read).exists_completion soundAll
  rw [List.append_assoc] at finished
  exact ⟨others ++ further, made, List.forall_mem_append.mpr ⟨soundOthers, soundFurther⟩, finished⟩

/-- Behind the word that opens a definition any name can follow. -/
theorem exists_instruction (requested : Nat) {opener : Token} {name : String}
    (opens : opener.text = Keyword.INSTRUCTION.spelling) (isName : IsInstructionName name) :
    ∃ others token body, AllSound others ∧ token.text = name ∧
      instruction requested (opener :: others) = .ok ((token, body), []) := by
  have closes : closingName name [⟨.identifier, name, 1⟩] = .ok ((), []) :=
    (reads_closingName name _ _).mpr (inFront_singleton_iff.mpr
      ⟨_, TokenShape.fits_identifier.mpr ⟨rfl, rfl⟩, rfl⟩)
  have ends : block requested [⟨.keyword, Keyword.END.spelling, 1⟩, ⟨.identifier, name, 1⟩] =
      .ok (.empty, [⟨.keyword, Keyword.END.spelling, 1⟩, ⟨.identifier, name, 1⟩]) :=
    blockWith_of_endsBlock rfl _
  refine ⟨[⟨.identifier, name, 1⟩, ⟨.keyword, Keyword.IS.spelling, 1⟩,
    ⟨.keyword, Keyword.END.spelling, 1⟩, ⟨.identifier, name, 1⟩], ⟨.identifier, name, 1⟩, .empty,
    ?_, rfl, ?_⟩
  · have soundName : (⟨.identifier, name, 1⟩ : Token).Sound := fun _ => isName.1
    exact List.forall_mem_cons.mpr ⟨soundName, List.forall_mem_cons.mpr ⟨nofun,
      List.forall_mem_cons.mpr ⟨nofun, List.forall_mem_singleton.mpr soundName⟩⟩⟩
  · rw [instruction_of_opening opens rfl isName.2 rfl]
    simp only [ends, bind_apply, keyword_cons, if_true, closes, pure_apply]

theorem exists_instruction_of_asked (sound : AllSound tokens) {opener name : Token}
    {behind : List Token} {expected : Expectation} (split : tokens = opener :: name :: behind)
    (asked : instruction requested tokens = .error (.refused (.endOfInput expected))) :
    ∃ others body, AllSound others ∧
      instruction requested (tokens ++ others) = .ok ((name, body), []) := by
  obtain ⟨others, ⟨token, body⟩, soundOthers, completed⟩ :=
    (orderly_instruction requested).completable sound asked
  obtain ⟨⟨_, _, same⟩, _⟩ := instruction_eq_ok_iff.mp completed
  rw [split] at same
  cases same
  exact ⟨others, body, soundOthers, completed⟩

/-- A definition that breaks off can be completed under a name that is free, if the name that is
there, if any, is free. -/
theorem exists_completion_or_breaksOff_of_asked (reaches : Reaches requested tokens context rest)
    (sound : AllSound tokens) (opens : startsWith .INSTRUCTION rest = true) {expected : Expectation}
    (asked : instruction requested rest = .error (.refused (.endOfInput expected))) :
    (∃ others made, AllSound others ∧ program requested (tokens ++ others) = .ok (made, [])) ∨
      ∃ name, BreaksOffRepeating requested tokens name rest := by
  have soundRest := sound.mono reaches.isSuffix.subset
  rcases rest with _ | ⟨opener, _ | ⟨name, behind⟩⟩
  · cases opens
  · have opened : opener.text = Keyword.INSTRUCTION.spelling := by simpa using opens
    obtain ⟨others, token, body, soundOthers, isFresh, completed⟩ :=
      exists_instruction requested opened (isInstructionName_freshName context.names)
    have free : context.contains token.text = false := by
      rw [isFresh]
      exact NameMap.contains_eq_false_iff.mpr
        (NameMap.lookup_eq_none_iff.mpr (freshName_notMem context.names))
    exact .inl (exists_completion_of_definition reaches sound (List.cons_ne_nil _ _) soundOthers
      completed free)
  · have opened : opener.text = Keyword.INSTRUCTION.spelling := by simpa using opens
    cases taken : context.contains name.text with
    | true =>
        exact .inr ⟨name, context, opener, behind, expected, rfl, opened, reaches, taken, asked⟩
    | false =>
        obtain ⟨others, body, soundOthers, completed⟩ :=
          exists_instruction_of_asked soundRest rfl asked
        exact .inl (exists_completion_of_definition reaches sound (List.cons_ne_nil _ _)
          soundOthers completed taken)

/-- Tokens that are not a program yet can be completed, if they do not break off in a definition
of a name that is taken. -/
theorem exists_completion_or_breaksOff (sound : AllSound tokens) {expected : Expectation}
    (asked : program requested tokens = .error (.refused (.endOfInput expected))) :
    (∃ others made, AllSound others ∧ program requested (tokens ++ others) = .ok (made, [])) ∨
      ∃ name definition, BreaksOffRepeating requested tokens name definition := by
  rcases program_error_cases asked with header | ⟨context, rest, reaches, opens, inDefinition⟩ |
    ⟨opened?, middle, context, rest, readHeader, readsContext, behind⟩
  · -- the line that opens the program is completed first, and nothing is defined yet
    obtain ⟨others, opened?, soundOthers, completed⟩ := orderly_header?.completable sound header
    have reaches : Reaches requested (tokens ++ others) NameMap.empty [] :=
      ⟨opened?, [], completed, readsContext_empty requested []⟩
    obtain ⟨further, made, soundFurther, finished⟩ :=
      reaches.exists_completion (List.forall_mem_append.mpr ⟨sound, soundOthers⟩)
    rw [List.append_assoc] at finished
    exact .inl ⟨others ++ further, made,
      List.forall_mem_append.mpr ⟨soundOthers, soundFurther⟩, finished⟩
  · rcases intoContext_error_cases inDefinition with asked | ⟨_, _, _, _, _, same⟩
    · rcases exists_completion_or_breaksOff_of_asked reaches sound opens asked with
        completed | ⟨name, breaksOff⟩
      · exact .inl completed
      · exact .inr ⟨name, rest, breaksOff⟩
    · cases same
  · -- what completes the program has to start where its definitions end
    have isSuffix := readsContext.isSuffix.trans (isSuffix_of_header? readHeader)
    have orderly := orderly_behindDefinitions sound readHeader readsContext
    obtain ⟨others, made, soundOthers, finished⟩ :=
      orderly.completable (sound.mono isSuffix.subset) behind
    obtain ⟨_, _, begins, _⟩ := bind_eq_ok_iff.mp finished
    exact .inl ⟨others, made, soundOthers,
      (program_append_eq readHeader readsContext begins).trans finished⟩

/-!
## Definitions that come too late
-/

namespace BreaksOffRepeating

variable {name : Token} {definition : List Token}

/-- Whatever completes the definition, its name is taken. -/
theorem program_eq (breaksOff : BreaksOffRepeating requested tokens name definition)
    {others rest : List Token} {read : Token × Statement}
    (completed : instruction requested (definition ++ others) = .ok (read, rest)) :
    program requested (tokens ++ others) =
      .error (.refused (.instructionRepeated name.text name.line)) := by
  obtain ⟨context, opener, behind, _, rfl, opens, reaches, taken, _⟩ := breaksOff
  obtain ⟨token, body⟩ := read
  obtain ⟨⟨_, _, same⟩, _⟩ := instruction_eq_ok_iff.mp completed
  cases same
  refine (reaches.append (List.cons_ne_nil _ _) others).program_of_error ?_
    (intoContext_of_taken completed taken)
  simpa using opens

theorem program_ne_ok (breaksOff : BreaksOffRepeating requested tokens name definition)
    (others : List Token) (made : Program) (rest : List Token) :
    program requested (tokens ++ others) ≠ .ok (made, rest) := by
  intro finished
  cases completed : instruction requested (definition ++ others) with
  | ok read =>
      rw [breaksOff.program_eq completed] at finished
      cases finished
  | error failure =>
      obtain ⟨context, opener, behind, _, rfl, opens, reaches, _, _⟩ := breaksOff
      rw [(reaches.append (List.cons_ne_nil _ _) others).program_of_error
        (by simpa using opens) (intoContext_of_error completed context)] at finished
      cases finished

theorem exists_completion (breaksOff : BreaksOffRepeating requested tokens name definition)
    (sound : AllSound tokens) :
    ∃ others body, AllSound others ∧
      instruction requested (definition ++ others) = .ok ((name, body), []) := by
  obtain ⟨context, opener, behind, _, split, _, reaches, _, asked⟩ := breaksOff
  exact exists_instruction_of_asked (sound.mono reaches.isSuffix.subset) split asked

end BreaksOffRepeating

/-!
## All outcomes
-/

/-- What more tokens do to the outcomes of the parsers: errors stay, unless they ask for more;
what is read is read again; a program is followed by input after its end; and what asks for more
can be completed, but for a program that breaks off in a definition whose name is taken. -/
theorem outcomes_append (requested : Nat) {tokens : List Token} (sound : AllSound tokens) :
    (ErrorStays (statement requested) tokens ∧ ErrorStays (block requested) tokens ∧
      ErrorStays (program requested) tokens) ∧
    (∀ child rest others, statement requested tokens = .ok (child, rest) →
      statement requested (tokens ++ others) = .ok (child, rest ++ others)) ∧
    (∀ body rest others, block requested tokens = .ok (body, rest) → rest ≠ [] →
      block requested (tokens ++ others) = .ok (body, rest ++ others)) ∧
    (∀ made rest token others, program requested tokens = .ok (made, rest) →
      program requested (tokens ++ token :: others) =
        .error (.refused (.inputAfterEnd token.text token.line))) ∧
    CompletableAt (statement requested) tokens ∧ CompletableAt (block requested) tokens ∧
    ((∀ name definition, ¬ BreaksOffRepeating requested tokens name definition) →
      CompletableAt (program requested) tokens) ∧
    ∀ name definition, BreaksOffRepeating requested tokens name definition →
      (∃ others body, AllSound others ∧
        instruction requested (definition ++ others) = .ok ((name, body), [])) ∧
      (∀ others read rest, instruction requested (definition ++ others) = .ok (read, rest) →
        program requested (tokens ++ others) =
          .error (.refused (.instructionRepeated name.text name.line))) ∧
      ∀ others made rest, program requested (tokens ++ others) ≠ .ok (made, rest) := by
  have statementOrderly := orderly_statement requested
  have blockOrderly := (orderlyBlocks_block requested).orderly
  refine ⟨⟨fun _ failed => (statementOrderly.prompt sound).append_of_error failed,
    fun _ failed => (blockOrderly.prompt sound).append_of_error failed,
    fun _ failed => (prompt_program requested sound).append_of_error failed⟩, ?_, ?_, ?_,
    statementOrderly.completable sound, blockOrderly.completable sound, ?_, ?_⟩
  · intro child rest others read
    exact (closed_statement requested).append read others
  · intro body rest others read more
    exact (blockOrderly.prompt sound).append_of_ok read more others
  · intro made rest token others read
    exact program_append_cons sound read token others
  · intro onTime expected asked
    rcases exists_completion_or_breaksOff sound asked with completed | ⟨name, definition, breaksOff⟩
    · exact completed
    · exact absurd breaksOff (onTime name definition)
  · intro name definition breaksOff
    exact ⟨breaksOff.exists_completion sound, fun others read rest completed =>
      breaksOff.program_eq completed, breaksOff.program_ne_ok⟩

/-- A loop breaks off in a definition of a name that is taken. The loop can be completed, and so
can the definition, but not the program. -/
theorem outcomes_append_loopBreaksOff :
    let loop : List Token := [⟨.keyword, "WHILE", 2⟩, ⟨.condition, "random", 2⟩,
      ⟨.keyword, "DO", 2⟩, ⟨.identifier, "move", 3⟩]
    let name : Token := ⟨.identifier, "step", 2⟩
    let definition := ⟨.keyword, "INSTRUCTION", 2⟩ :: name :: ⟨.keyword, "IS", 2⟩ :: loop
    let tokens := [⟨.keyword, "INSTRUCTION", 1⟩, ⟨.identifier, "step", 1⟩, ⟨.keyword, "IS", 1⟩,
      ⟨.keyword, "END", 1⟩, ⟨.identifier, "step", 1⟩] ++ definition
    AllSound loop ∧ AllSound tokens ∧ BreaksOffRepeating 1 tokens name definition ∧
      (∃ others child, statement 1 (loop ++ others) = .ok (child, [])) ∧
      (∀ others, statement 0 (loop ++ others) = .error (.refused (.tooDeep 0 2))) ∧
      ∃ others body, instruction 1 (definition ++ others) = .ok ((name, body), []) ∧
        program 1 (tokens ++ others) = .error (.refused (.instructionRepeated "step" 2)) := by
  intro loop name definition tokens
  have soundLoop : AllSound loop := Token.allSound_iff_wordClass.mpr (by decide)
  have sound : AllSound tokens := Token.allSound_iff_wordClass.mpr (by decide)
  have reaches : Reaches 1 tokens (NameMap.empty.insert "step" .empty) definition :=
    ⟨none, tokens, rfl, (readsContext_empty 1 tokens).round rfl⟩
  have loopAsks : statement 1 loop = .error (.refused (.endOfInput (.keyword .END))) := by
    decide +kernel
  have definitionAsks :
      instruction 1 definition = .error (.refused (.endOfInput (.keyword .END))) := by
    decide +kernel
  have breaksOff : BreaksOffRepeating 1 tokens name definition :=
    ⟨_, _, _, _, rfl, rfl, reaches, rfl, definitionAsks⟩
  obtain ⟨⟨staysRefused, _⟩, _⟩ := outcomes_append 0 soundLoop
  obtain ⟨_, _, _, _, completable, _⟩ := outcomes_append 1 soundLoop
  obtain ⟨_, _, _, _, _, _, _, repeating⟩ := outcomes_append 1 sound
  obtain ⟨others, child, _, finished⟩ := completable loopAsks
  obtain ⟨⟨further, body, _, completed⟩, refused, _⟩ := repeating name definition breaksOff
  exact ⟨soundLoop, sound, breaksOff, ⟨others, child, finished⟩,
    staysRefused (.tooDeep 0 2) rfl nofun, further, body, completed,
    refused further _ _ completed⟩

end BlockLanguage.Parser
