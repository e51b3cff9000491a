import BlockLanguage.Proofs.NameMap
import BlockLanguage.Proofs.Parser.StatementGrammar
import BlockLanguage.Proofs.Program.Edit
import BlockLanguage.Program.Grammar

/-!
# The language of the program parser

The parser of programs succeeds on the tokens that describe a program, and on no others. Its loop
over the definitions keeps a list of the definitions that are read; the context is the map of that
list.
-/

set_option autoImplicit false

namespace BlockLanguage

namespace Parser

open TokenShape (word identifier InFront)

variable {limit requested : Nat} {tokens rest : List Token} {name : String} {body : Statement}
  {context : Context}

/-!
## Names
-/

/-- A closing name is read if it is the name that was opened. -/
theorem reads_closingName (opened : String) :
    Reads (closingName opened) () [identifier opened] := by
  intro tokens rest
  rw [closingName, bind_eq_ok_iff, inFront_singleton_iff]
  constructor
  · intro ⟨token, middle, read, success⟩
    obtain ⟨hasClass, rfl⟩ := ofClass_eq_ok_iff.mp read
    split at success
    case isTrue same =>
      cases success
      exact ⟨token, TokenShape.fits_identifier.mpr ⟨same, hasClass⟩, rfl⟩
    case isFalse => cases success
  · intro ⟨token, fits, same⟩
    obtain ⟨text, hasClass⟩ := TokenShape.fits_identifier.mp fits
    refine ⟨token, rest, ofClass_eq_ok_iff.mpr ⟨hasClass, same⟩, ?_⟩
    rw [if_pos text]
    rfl

/-!
## Definitions
-/

/-- A definition that can be read. Whether its name is an identifier is checked later. -/
structure Readable (limit : Nat) (definition : Definition) : Prop where
  notPrimitive : isPrimitive definition.1 = false
  isBody : definition.2.IsBody
  nesting : definition.2.nesting ≤ limit

theorem inFront_definition_iff {definition : Definition} :
    InFront (definitionShapes definition) tokens rest ↔
      ∃ opener token divider inner after last, tokens = opener :: token :: divider :: inner ∧
        opener.text = Keyword.INSTRUCTION.spelling ∧ token.text = definition.1 ∧
        token.tokenClass = .identifier ∧ divider.text = Keyword.IS.spelling ∧
        InFront definition.2.shapes inner after ∧ keyword .END after = .ok ((), last) ∧
        closingName definition.1 last = .ok ((), rest) := by
  constructor
  · intro inFront
    obtain ⟨opener, _, rfl, opens, inFront⟩ := TokenShape.inFront_cons_iff.mp inFront
    obtain ⟨token, _, rfl, names, inFront⟩ := TokenShape.inFront_cons_iff.mp inFront
    obtain ⟨divider, inner, rfl, divides, inFront⟩ := TokenShape.inFront_cons_iff.mp inFront
    obtain ⟨after, bodyInFront, inFront⟩ := TokenShape.inFront_append_iff.mp inFront
    obtain ⟨last, ends, closer⟩ := inFront_word_cons_iff.mp inFront
    obtain ⟨text, hasClass⟩ := TokenShape.fits_identifier.mp names
    exact ⟨opener, token, divider, inner, after, last, rfl, TokenShape.fits_word.mp opens, text,
      hasClass, TokenShape.fits_word.mp divides, bodyInFront, ends,
      (reads_closingName _ _ _).mpr closer⟩
  · intro ⟨opener, token, divider, inner, after, last, same, opens, text, hasClass, divides,
      bodyInFront, ends, closes⟩
    rw [same]
    have closer := inFront_word_cons_iff.mpr ⟨last, ends, (reads_closingName _ _ _).mp closes⟩
    have behind := TokenShape.inFront_append_iff.mpr ⟨after, bodyInFront, closer⟩
    refine TokenShape.inFront_cons_iff.mpr ⟨opener, _, rfl, TokenShape.fits_word.mpr opens, ?_⟩
    refine TokenShape.inFront_cons_iff.mpr
      ⟨token, _, rfl, TokenShape.fits_identifier.mpr ⟨text, hasClass⟩, ?_⟩
    exact TokenShape.inFront_cons_iff.mpr
      ⟨divider, _, rfl, TokenShape.fits_word.mpr divides, behind⟩

theorem endsBlock_of_end (ends : keyword .END tokens = .ok ((), rest)) :
    endsBlock tokens = true := by
  obtain ⟨token, spelled, rfl⟩ := keyword_eq_ok_iff.mp ends
  simp [endsBlock, spelled]

/-- What the name and the words around it open goes on with the body. -/
theorem instruction_of_opening {opener token divider : Token} {inner : List Token}
    (opens : opener.text = Keyword.INSTRUCTION.spelling) (hasClass : token.tokenClass = .identifier)
    (notPrimitive : isPrimitive token.text = false)
    (divides : divider.text = Keyword.IS.spelling) :
    instruction requested (opener :: token :: divider :: inner) =
      match block requested inner with
      | .ok (body, after) =>
        (do keyword .END; closingName token.text; return (token, body)) after
      | .error failure => .error failure := by
  simp only [instruction, bind_apply, keyword_cons, opens, ofClass_cons, hasClass, notPrimitive,
    divides, if_true, Bool.false_eq_true, if_false]
  cases block requested inner with
  | ok read => rfl
  | error failure => rfl

private theorem opening_of_instruction {token : Token}
    (success : instruction requested tokens = .ok ((token, body), rest)) :
    ∃ opener divider inner, tokens = opener :: token :: divider :: inner ∧
      opener.text = Keyword.INSTRUCTION.spelling ∧ token.tokenClass = .identifier ∧
      isPrimitive token.text = false ∧ divider.text = Keyword.IS.spelling := by
  obtain ⟨_, named, opens, readName⟩ := bind_eq_ok_iff.mp success
  obtain ⟨opener, spelled, rfl⟩ := keyword_eq_ok_iff.mp opens
  obtain ⟨found, behind, read, afterName⟩ := bind_eq_ok_iff.mp readName
  obtain ⟨hasClass, rfl⟩ := ofClass_eq_ok_iff.mp read
  cases primitive : isPrimitive found.text with
  | true => simp [primitive] at afterName
  | false =>
      simp only [primitive] at afterName
      obtain ⟨_, inner, divides, readBody⟩ := bind_eq_ok_iff.mp afterName
      obtain ⟨divider, divided, rfl⟩ := keyword_eq_ok_iff.mp divides
      obtain ⟨_, _, _, afterBody⟩ := bind_eq_ok_iff.mp readBody
      obtain ⟨_, _, _, afterEnd⟩ := bind_eq_ok_iff.mp afterBody
      obtain ⟨_, _, _, finished⟩ := bind_eq_ok_iff.mp afterEnd
      cases finished
      exact ⟨opener, divider, inner, rfl, spelled, hasClass, primitive, divided⟩

theorem instruction_eq_ok_iff {token : Token} :
    instruction requested tokens = .ok ((token, body), rest) ↔
      (∃ opener behind, tokens = opener :: token :: behind) ∧
        Readable (nestingLimit requested) (token.text, body) ∧
          InFront (definitionShapes (token.text, body)) tokens rest := by
  constructor
  · intro success
    obtain ⟨opener, divider, inner, rfl, opens, hasClass, notPrimitive, divides⟩ :=
      opening_of_instruction success
    rw [instruction_of_opening opens hasClass notPrimitive divides] at success
    cases read : block requested inner with
    | error failure =>
        rw [read] at success
        cases success
    | ok value =>
        obtain ⟨found, after⟩ := value
        rw [read] at success
        obtain ⟨_, last, ends, closed⟩ := bind_eq_ok_iff.mp success
        obtain ⟨_, remaining, closes, finished⟩ := bind_eq_ok_iff.mp closed
        cases finished
        have front := block_eq_ok_iff.mp read
        refine ⟨⟨opener, divider :: inner, rfl⟩,
          ⟨notPrimitive, front.isBody, front.nesting⟩, ?_⟩
        exact inFront_definition_iff.mpr ⟨opener, token, divider, inner, after, last, rfl, opens,
          rfl, hasClass, divides, front.inFront, ends, closes⟩
  · intro ⟨⟨first, behind, same⟩, ⟨notPrimitive, isBody, nesting⟩, inFront⟩
    obtain ⟨opener, named, divider, inner, after, last, rfl, opens, _, hasClass, divides,
      bodyInFront, ends, closes⟩ := inFront_definition_iff.mp inFront
    cases same
    have read : block requested inner = .ok (body, after) :=
      block_eq_ok_iff.mpr ⟨isBody, nesting, bodyInFront, endsBlock_of_end ends⟩
    rw [instruction_of_opening opens hasClass notPrimitive divides, read]
    simp only [bind_apply, ends, closes, pure_apply]

/-- A definition that is read goes into the context under its name, unless the name is taken. -/
theorem intoContext_eq_ok_iff {next : Context} :
    intoContext requested context tokens = .ok (next, rest) ↔
      ∃ definition, Readable (nestingLimit requested) definition ∧
        InFront (definitionShapes definition) tokens rest ∧
        context.contains definition.1 = false ∧
        next = context.insert definition.1 definition.2 := by
  rw [intoContext, bind_eq_ok_iff]
  constructor
  · intro ⟨⟨token, body⟩, middle, read, success⟩
    obtain ⟨_, readable, inFront⟩ := instruction_eq_ok_iff.mp read
    cases taken : context.contains token.text with
    | true => simp [taken] at success
    | false =>
        simp only [taken, Bool.false_eq_true, if_false, pure_apply] at success
        cases success
        exact ⟨(token.text, body), readable, inFront, taken, rfl⟩
  · intro ⟨⟨name, body⟩, readable, inFront, free, same⟩
    obtain ⟨opener, token, divider, inner, _, _, rfl, _, text, _⟩ :=
      inFront_definition_iff.mp inFront
    obtain rfl : token.text = name := text
    refine ⟨(token, body), rest,
      instruction_eq_ok_iff.mpr ⟨⟨opener, _, rfl⟩, readable, inFront⟩, ?_⟩
    simp only [free, Bool.false_eq_true, if_false, pure_apply, same]

theorem advances_intoContext (requested : Nat) (context : Context) :
    Advances (intoContext requested context) := by
  intro tokens next rest success
  obtain ⟨definition, _, inFront, _⟩ := intoContext_eq_ok_iff.mp success
  have length := inFront.length_eq
  rw [definitionShapes, List.length_cons] at length
  omega

/-- Where the loop over definitions ends. -/
def endsDefinitions (tokens : List Token) : Bool :=
  !startsWith .INSTRUCTION tokens

/-- The loop over definitions goes through the definitions in front as long as their names are
not taken. -/
theorem repeatUntil_of_definitions {definitions : List Definition}
    (distinct : (definitions.map Prod.fst).Nodup)
    (readable : ∀ definition ∈ definitions, Readable (nestingLimit requested) definition)
    (free : ∀ definition ∈ definitions, context.contains definition.1 = false)
    (inFront : InFront (definitions.flatMap definitionShapes) tokens rest) :
    repeatUntil endsDefinitions (intoContext requested) context tokens =
      repeatUntil endsDefinitions (intoContext requested) (context.insertAll definitions) rest := by
  induction definitions generalizing context tokens with
  | nil =>
      obtain rfl := TokenShape.inFront_nil_iff.mp inFront
      rfl
  | cons definition definitions ih =>
      -- the name of the first definition is taken from here on, but by no later one
      rw [List.map_cons, List.nodup_cons] at distinct
      rw [List.forall_mem_cons] at readable free
      obtain ⟨middle, first, others⟩ := TokenShape.inFront_append_iff.mp inFront
      have goesOn : endsDefinitions tokens = false := by
        obtain ⟨opener, _, rfl, opens, _⟩ := TokenShape.inFront_cons_iff.mp first
        simp [endsDefinitions, TokenShape.fits_word.mp opens]
      have read := intoContext_eq_ok_iff.mpr ⟨definition, readable.1, first, free.1, rfl⟩
      have stillFree : ∀ other ∈ definitions,
          (context.insert definition.1 definition.2).contains other.1 = false := by
        intro other member
        refine NameMap.contains_insert_eq_false_iff.mpr ⟨?_, free.2 other member⟩
        intro same
        exact distinct.1 (List.mem_map.mpr ⟨other, member, same⟩)
      rw [repeatUntil_of_round rfl (advances_intoContext requested) goesOn, read]
      exact ih distinct.2 readable.2 stillFree others

/-- Whether the context is made up of readable definitions that stand in front of the rest. -/
def ReadsContext (requested : Nat) (tokens : List Token) (context : Context)
    (rest : List Token) : Prop :=
  ∃ listed : List Definition, (listed.map Prod.fst).Nodup ∧
    (∀ definition ∈ listed, Readable (nestingLimit requested) definition) ∧
    InFront (listed.flatMap definitionShapes) tokens rest ∧ context = NameMap.ofList listed

theorem readsContext_empty (requested : Nat) (tokens : List Token) :
    ReadsContext requested tokens NameMap.empty tokens :=
  ⟨[], List.nodup_nil, nofun, TokenShape.inFront_nil_iff.mpr rfl, rfl⟩

theorem ReadsContext.round {next : Context} {last : List Token}
    (readsContext : ReadsContext requested tokens context rest)
    (read : intoContext requested context rest = .ok (next, last)) :
    ReadsContext requested tokens next last := by
  obtain ⟨listed, distinct, readable, inFront, rfl⟩ := readsContext
  obtain ⟨definition, isReadable, first, free, rfl⟩ := intoContext_eq_ok_iff.mp read
  rw [NameMap.contains_ofList_eq_false_iff distinct] at free
  refine ⟨listed ++ [definition], ?_, ?_, ?_, ?_⟩
  · rw [List.map_append, List.map_singleton, List.nodup_append]
    refine ⟨distinct, by simp, ?_⟩
    intro name member other same
    rw [List.mem_singleton.mp same]
    exact fun equal => free (equal ▸ member)
  · exact List.forall_mem_append.mpr ⟨readable, List.forall_mem_singleton.mpr isReadable⟩
  · rw [List.flatMap_append, List.flatMap_singleton]
    exact TokenShape.inFront_append_iff.mpr ⟨rest, inFront, first⟩
  · exact (NameMap.ofList_append_singleton listed definition.1 definition.2).symm

/-- The loop goes on behind the definitions that are read. -/
theorem ReadsContext.definitions_eq (readsContext : ReadsContext requested tokens context rest) :
    definitions requested tokens =
      repeatUntil endsDefinitions (intoContext requested) context rest := by
  obtain ⟨listed, distinct, readable, inFront, rfl⟩ := readsContext
  have free : ∀ definition ∈ listed, (NameMap.empty : Context).contains definition.1 = false :=
    fun _ _ => rfl
  exact repeatUntil_of_definitions distinct readable free inFront

/-- The definitions are read as far as they go, and their context is the map of the list. -/
theorem definitions_eq_ok_iff :
    definitions requested tokens = .ok (context, rest) ↔
      ∃ listed : List Definition, (listed.map Prod.fst).Nodup ∧
        (∀ definition ∈ listed, Readable (nestingLimit requested) definition) ∧
        InFront (listed.flatMap definitionShapes) tokens rest ∧
        context = NameMap.ofList listed ∧ startsWith .INSTRUCTION rest = false := by
  constructor
  · intro success
    -- the definitions read so far make up the context so far
    have invariant := repeatUntil_invariant rfl (advances_intoContext requested)
      (ReadsContext requested tokens) (fun _ reads read => reads.round read)
      (readsContext_empty requested tokens) success
    obtain ⟨⟨listed, distinct, readable, inFront, same⟩, stops⟩ := invariant
    exact ⟨listed, distinct, readable, inFront, same, Bool.not_eq_true' _ ▸ stops⟩
  · intro ⟨listed, distinct, readable, inFront, same, ended⟩
    have stops : endsDefinitions rest = true := by rw [endsDefinitions, ended, Bool.not_false]
    rw [ReadsContext.definitions_eq ⟨listed, distinct, readable, inFront, same⟩,
      repeatUntil_of_stop stops]

theorem readsContext_of_definitions (read : definitions requested tokens = .ok (context, rest)) :
    ReadsContext requested tokens context rest := by
  obtain ⟨listed, distinct, readable, inFront, same, _⟩ := definitions_eq_ok_iff.mp read
  exact ⟨listed, distinct, readable, inFront, same⟩

/-- The first definition that cannot be read ends the loop. -/
theorem definitions_of_error {listed : List Definition} {middle : List Token}
    {failure : ParseFailure} (distinct : (listed.map Prod.fst).Nodup)
    (readable : ∀ definition ∈ listed, Readable (nestingLimit requested) definition)
    (inFront : InFront (listed.flatMap definitionShapes) tokens middle)
    (opens : startsWith .INSTRUCTION middle = true)
    (failed : instruction requested middle = .error failure) :
    definitions requested tokens = .error failure := by
  have goesOn : endsDefinitions middle = false := by rw [endsDefinitions, opens, Bool.not_true]
  rw [ReadsContext.definitions_eq ⟨listed, distinct, readable, inFront, rfl⟩,
    repeatUntil_of_round rfl (advances_intoContext requested) goesOn]
  simp only [intoContext, bind_apply, failed]

/-!
## Programs
-/

theorem header?_eq_ok_iff {opened? : Option String} :
    header? tokens = .ok (opened?, rest) ↔
      InFront (headerShapes opened?) tokens rest ∧
        (opened? = none → startsWith .PROGRAM tokens = false) := by
  rw [header?, bind_apply, get_apply]
  cases opens : startsWith .PROGRAM tokens with
  | false =>
      simp only [opens, Bool.false_eq_true, if_false, pure_apply]
      constructor
      · intro success
        cases success
        exact ⟨TokenShape.inFront_nil_iff.mpr rfl, fun _ => trivial⟩
      · intro ⟨inFront, _⟩
        cases opened? with
        | none => rw [TokenShape.inFront_nil_iff.mp inFront]
        | some name =>
            obtain ⟨opener, _, rfl, spelled, _⟩ := TokenShape.inFront_cons_iff.mp inFront
            simp [TokenShape.fits_word.mp spelled] at opens
  | true =>
      simp only [opens, if_true]
      constructor
      · intro success
        obtain ⟨_, named, opener, success⟩ := bind_eq_ok_iff.mp success
        obtain ⟨token, behind, read, success⟩ := bind_eq_ok_iff.mp success
        obtain ⟨_, _, divides, finished⟩ := bind_eq_ok_iff.mp success
        obtain ⟨hasClass, rfl⟩ := ofClass_eq_ok_iff.mp read
        cases finished
        refine ⟨inFront_word_cons_iff.mpr ⟨_, opener, ?_⟩, nofun⟩
        refine TokenShape.inFront_cons_iff.mpr
          ⟨token, behind, rfl, TokenShape.fits_identifier.mpr ⟨rfl, hasClass⟩, ?_⟩
        exact (reads_keyword .IS _ _).mp divides
      · intro ⟨inFront, fallsThrough⟩
        cases opened? with
        | none => cases fallsThrough rfl
        | some name =>
            obtain ⟨named, opener, fromName⟩ := inFront_word_cons_iff.mp inFront
            obtain ⟨token, behind, rfl, fits, fromIs⟩ := TokenShape.inFront_cons_iff.mp fromName
            obtain ⟨rfl, hasClass⟩ := TokenShape.fits_identifier.mp fits
            have divides := (reads_keyword .IS _ _).mpr fromIs
            simp only [bind_apply, opener, ofClass_cons, hasClass, if_true, divides, pure_apply]

theorem programName_eq_ok_iff {opened? : Option String} :
    programName opened? tokens = .ok (name, rest) ↔
      (∀ opened ∈ opened?, opened = name) ∧ InFront [identifier name] tokens rest := by
  cases opened? with
  | some opened =>
      rw [programName, bind_eq_ok_iff]
      constructor
      · intro ⟨_, _, closes, finished⟩
        cases finished
        exact ⟨by simp, (reads_closingName _ _ _).mp closes⟩
      · intro ⟨same, inFront⟩
        obtain rfl := same opened rfl
        exact ⟨(), rest, (reads_closingName _ _ _).mpr inFront, rfl⟩
  | none =>
      rw [programName, bind_eq_ok_iff, inFront_singleton_iff]
      constructor
      · intro ⟨token, _, read, finished⟩
        obtain ⟨hasClass, rfl⟩ := ofClass_eq_ok_iff.mp read
        cases finished
        exact ⟨nofun, token, TokenShape.fits_identifier.mpr ⟨rfl, hasClass⟩, rfl⟩
      · intro ⟨_, token, fits, same⟩
        obtain ⟨rfl, hasClass⟩ := TokenShape.fits_identifier.mp fits
        exact ⟨token, rest, ofClass_eq_ok_iff.mpr ⟨hasClass, same⟩, rfl⟩

theorem endOfProgram_eq_ok_iff :
    endOfProgram tokens = .ok ((), rest) ↔ tokens = [] ∧ rest = [] := by
  cases tokens with
  | nil =>
      constructor
      · intro success
        cases success
        exact ⟨rfl, rfl⟩
      · intro ⟨_, same⟩
        rw [same]
        rfl
  | cons token others =>
      constructor
      · intro success
        cases success
      · intro ⟨same, _⟩
        cases same

theorem inFront_all_iff {shapes : List TokenShape} :
    InFront shapes tokens [] ↔ TokenShape.FitAll shapes tokens := by
  constructor
  · intro ⟨front, fit, same⟩
    rw [same, List.append_nil]
    exact fit
  · intro fit
    exact ⟨tokens, fit, (List.append_nil tokens).symm⟩

/-- Builds a program from its parts by the edits of programs. -/
def assemble (name : String) (context : Context) (body : Statement) : Parser Program := do
  let named ← build (Program.rename name) .empty
  let (equipped, _) ← build Program.exchangeContext (named, context)
  let (complete, _) ← build Program.exchangeBody (equipped, body)
  return complete

theorem program_eq (requested : Nat) :
    program requested = (do
      let opened? ← header?
      let context ← definitions requested
      keyword .BEGIN
      let body ← block requested
      keyword .END
      let name ← programName opened?
      endOfProgram
      assemble name context body) := rfl

theorem assemble_eq_ok_iff {program : Program} :
    assemble name context body tokens = .ok (program, rest) ↔
      isIdentifier name = true ∧
        (∀ entry ∈ context.entries, IsInstructionName entry.1 ∧ entry.2.kind = .block) ∧
        body.kind = .block ∧ program = ⟨name, context, body⟩ ∧ rest = tokens := by
  constructor
  · intro success
    obtain ⟨named, _, builtName, success⟩ := bind_eq_ok_iff.mp success
    obtain ⟨⟨equipped, _⟩, _, builtContext, success⟩ := bind_eq_ok_iff.mp success
    obtain ⟨⟨complete, _⟩, _, builtBody, finished⟩ := bind_eq_ok_iff.mp success
    obtain ⟨renames, rfl⟩ := build_eq_ok_iff.mp builtName
    obtain ⟨equips, rfl⟩ := build_eq_ok_iff.mp builtContext
    obtain ⟨completes, rfl⟩ := build_eq_ok_iff.mp builtBody
    obtain ⟨isName, rfl⟩ := Program.make_rename_eq_ok_iff.mp renames
    obtain ⟨valid, sameContext⟩ := Program.make_exchangeContext_eq_ok_iff.mp equips
    obtain ⟨isBlock, sameBody⟩ := Program.make_exchangeBody_eq_ok_iff.mp completes
    cases sameContext
    cases sameBody
    cases finished
    exact ⟨isName, valid, isBlock, rfl, rfl⟩
  · intro ⟨isName, valid, isBlock, sameProgram, sameRest⟩
    rw [sameProgram, sameRest]
    refine bind_eq_ok_iff.mpr ⟨{ Program.empty with name := name }, tokens,
      build_eq_ok_iff.mpr ⟨Program.make_rename_eq_ok_iff.mpr ⟨isName, rfl⟩, rfl⟩, ?_⟩
    refine bind_eq_ok_iff.mpr ⟨_, tokens,
      build_eq_ok_iff.mpr ⟨Program.make_exchangeContext_eq_ok_iff.mpr ⟨valid, rfl⟩, rfl⟩, ?_⟩
    exact bind_eq_ok_iff.mpr ⟨_, tokens,
      build_eq_ok_iff.mpr ⟨Program.make_exchangeBody_eq_ok_iff.mpr ⟨isBlock, rfl⟩, rfl⟩, rfl⟩

/-- BEGIN opens neither a program nor a definition. -/
theorem startsWith_of_begin (begins : keyword .BEGIN tokens = .ok ((), rest)) :
    startsWith .PROGRAM tokens = false ∧ startsWith .INSTRUCTION tokens = false := by
  obtain ⟨token, spelled, rfl⟩ := keyword_eq_ok_iff.mp begins
  simp [spelled, Keyword.spelling]

theorem startsWith_program_of_definitions {listed : List Definition}
    (inFront : InFront (listed.flatMap definitionShapes) tokens rest)
    (ended : startsWith .PROGRAM rest = false) : startsWith .PROGRAM tokens = false := by
  cases listed with
  | nil =>
      obtain rfl := TokenShape.inFront_nil_iff.mp inFront
      exact ended
  | cons definition listed =>
      obtain ⟨token, _, rfl, opens, _⟩ := TokenShape.inFront_cons_iff.mp inFront
      simp [TokenShape.fits_word.mp opens, Keyword.spelling]

/-- Programs are read exactly from the tokens that describe what makes them up. -/
theorem program_eq_ok_iff {program : Program} :
    Parser.program requested tokens = .ok (program, rest) ↔
      rest = [] ∧ ∃ opened? listed, MakesUp (nestingLimit requested) opened? listed program ∧
        TokenShape.FitAll (programShapes opened? listed program.body program.name) tokens := by
  rw [program_eq]
  constructor
  · intro success
    obtain ⟨opened?, afterHeader, readHeader, success⟩ := bind_eq_ok_iff.mp success
    obtain ⟨context, beforeBegin, readContext, success⟩ := bind_eq_ok_iff.mp success
    obtain ⟨_, afterBegin, begins, success⟩ := bind_eq_ok_iff.mp success
    obtain ⟨body, beforeEnd, readBody, success⟩ := bind_eq_ok_iff.mp success
    obtain ⟨_, afterEnd, ends, success⟩ := bind_eq_ok_iff.mp success
    obtain ⟨name, behind, readName, success⟩ := bind_eq_ok_iff.mp success
    obtain ⟨_, last, ended, assembled⟩ := bind_eq_ok_iff.mp success
    obtain ⟨isName, valid, _, rfl, rfl⟩ := assemble_eq_ok_iff.mp assembled
    obtain ⟨noneBehind, noneLast⟩ := endOfProgram_eq_ok_iff.mp ended
    obtain ⟨headerInFront, _⟩ := header?_eq_ok_iff.mp readHeader
    obtain ⟨listed, distinct, readable, listedInFront, same, _⟩ :=
      definitions_eq_ok_iff.mp readContext
    have front := block_eq_ok_iff.mp readBody
    obtain ⟨opened, nameInFront⟩ := programName_eq_ok_iff.mp readName
    have admissible : ∀ definition ∈ listed,
        AdmissibleDefinition (nestingLimit requested) definition := by
      intro definition member
      rw [← NameMap.mem_entries_ofList_iff distinct, ← same] at member
      have isReadable := readable definition
        ((NameMap.mem_entries_ofList_iff distinct).mp (same ▸ member))
      exact ⟨(valid definition member).1, isReadable.isBody, isReadable.nesting⟩
    refine ⟨noneLast, opened?, listed,
      ⟨isName, opened, distinct, admissible, same, front.isBody, front.nesting⟩, ?_⟩
    rw [← inFront_all_iff, ← noneBehind]
    refine TokenShape.inFront_append_iff.mpr ⟨_, headerInFront, ?_⟩
    refine TokenShape.inFront_append_iff.mpr ⟨_, listedInFront, ?_⟩
    refine inFront_word_cons_iff.mpr ⟨_, begins, ?_⟩
    refine TokenShape.inFront_append_iff.mpr ⟨_, front.inFront, ?_⟩
    exact inFront_word_cons_iff.mpr ⟨_, ends, nameInFront⟩
  · intro ⟨same, opened?, listed, makesUp, fit⟩
    subst same
    obtain ⟨afterHeader, headerInFront, inFront⟩ :=
      TokenShape.inFront_append_iff.mp (inFront_all_iff.mpr fit)
    obtain ⟨beforeBegin, listedInFront, fromBegin⟩ := TokenShape.inFront_append_iff.mp inFront
    obtain ⟨afterBegin, begins, fromBody⟩ := inFront_word_cons_iff.mp fromBegin
    obtain ⟨beforeEnd, bodyInFront, fromEnd⟩ := TokenShape.inFront_append_iff.mp fromBody
    obtain ⟨afterEnd, ends, nameInFront⟩ := inFront_word_cons_iff.mp fromEnd
    obtain ⟨noHeader, noDefinition⟩ := startsWith_of_begin begins
    have readHeader : header? tokens = .ok (opened?, afterHeader) := by
      refine header?_eq_ok_iff.mpr ⟨headerInFront, fun none => ?_⟩
      subst none
      rw [TokenShape.inFront_nil_iff.mp headerInFront]
      exact startsWith_program_of_definitions listedInFront noHeader
    have readable : ∀ definition ∈ listed, Readable (nestingLimit requested) definition := by
      intro definition member
      obtain ⟨named, isBody, nesting⟩ := makesUp.admissible definition member
      exact ⟨named.2, isBody, nesting⟩
    have readContext : definitions requested afterHeader = .ok (program.context, beforeBegin) :=
      definitions_eq_ok_iff.mpr
        ⟨listed, makesUp.distinct, readable, listedInFront, makesUp.context, noDefinition⟩
    have readBody : block requested afterBegin = .ok (program.body, beforeEnd) :=
      block_eq_ok_iff.mpr
        ⟨makesUp.isBody, makesUp.nesting, bodyInFront, endsBlock_of_end ends⟩
    have readName := programName_eq_ok_iff.mpr ⟨makesUp.opened, nameInFront⟩
    have valid : ∀ entry ∈ program.context.entries,
        IsInstructionName entry.1 ∧ entry.2.kind = .block := by
      intro entry member
      rw [makesUp.context, NameMap.mem_entries_ofList_iff makesUp.distinct] at member
      have admissible := makesUp.admissible entry member
      exact ⟨admissible.name, admissible.isBody.1⟩
    have assembled : assemble program.name program.context program.body [] = .ok (program, []) :=
      assemble_eq_ok_iff.mpr ⟨makesUp.name, valid, makesUp.isBody.1, rfl, rfl⟩
    have ended := endOfProgram_eq_ok_iff.mpr ⟨rfl, rfl⟩
    simp only [bind_apply, readHeader, readContext, begins, readBody, ends, readName, ended,
      assembled]

theorem program_of_definitions_error {opened? : Option String} {afterHeader : List Token}
    {failure : ParseFailure} (readHeader : header? tokens = .ok (opened?, afterHeader))
    (failed : definitions requested afterHeader = .error failure) :
    program requested tokens = .error failure := by
  simp only [program_eq, bind_apply, readHeader, failed]

theorem program_of_body_error {opened? : Option String} {afterHeader beforeBegin : List Token}
    {afterBegin : List Token} {failure : ParseFailure}
    (readHeader : header? tokens = .ok (opened?, afterHeader))
    (readContext : definitions requested afterHeader = .ok (context, beforeBegin))
    (begins : keyword .BEGIN beforeBegin = .ok ((), afterBegin))
    (failed : block requested afterBegin = .error failure) :
    program requested tokens = .error failure := by
  simp only [program_eq, bind_apply, readHeader, readContext, begins, failed]

end Parser

end BlockLanguage
