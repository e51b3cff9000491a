import BlockLanguage.Proofs.Parser.DefinitionLoop
import BlockLanguage.Proofs.Program.Enumeration

/-!
# The order of definitions

The definitions of different instructions make up the same program in every order. Where an
instruction is defined once more, parsing ends with the first definition that does so, whatever
comes behind it.
-/

set_option autoImplicit false

namespace BlockLanguage

open Enumeration (Shows)
open Token (AllSound)
open TokenShape (word identifier InFront)

/-- A list with a repetition has a first one: up to there all is different. -/
theorem exists_first_repetition {α β : Type} [DecidableEq β] (key : α → β)
    (front : List α) {rest : List α} (distinct : (front.map key).Nodup)
    (repeats : ¬ ((front ++ rest).map key).Nodup) :
    ∃ before repeated after, front ++ rest = before ++ repeated :: after ∧
      (before.map key).Nodup ∧ key repeated ∈ before.map key := by
  induction rest generalizing front with
  | nil =>
      rw [List.append_nil] at repeats
      exact absurd distinct repeats
  | cons value rest ih =>
      by_cases taken : key value ∈ front.map key
      · exact ⟨front, value, rest, rfl, distinct, taken⟩
      · rw [← List.singleton_append, ← List.append_assoc] at repeats ⊢
        apply ih _ _ repeats
        rw [List.map_append, List.map_singleton]
        exact List.nodup_append.mpr ⟨distinct, by simp, by grind⟩

namespace Parser

/-- Tokens that are the definition of an instruction as a whole. -/
structure DefinitionSegment (requested : Nat) where
  tokens : List Token
  sound : AllSound tokens
  name : Token
  body : Statement
  accepted : instruction requested tokens = .ok ((name, body), [])

/-- Tokens that end a program: its main body between BEGIN and END, and its name. -/
structure ProgramTail (requested : Nat) where
  opener : Token
  bodyTokens : List Token
  closer : Token
  name : Token
  body : Statement
  begins : opener.text = Keyword.BEGIN.spelling
  accepted : block requested (bodyTokens ++ [closer, name]) = .ok (body, [closer, name])
  ends : closer.text = Keyword.END.spelling
  named : name.tokenClass = .identifier
  isName : isIdentifier name.text = true

variable {requested : Nat} {opened? : Option String} {header : List Token}

private theorem block_of_end (token : Token) (ends : token.text = Keyword.END.spelling)
    (rest : List Token) : block requested (token :: rest) = .ok (.block [], token :: rest) := by
  apply block_eq_ok_iff.mpr
  apply blockFront_nil_iff.mpr
  exact ⟨rfl, endsBlock_of_end (keyword_eq_ok_iff.mpr ⟨token, ends, rfl⟩)⟩

namespace DefinitionSegment

def definition (segment : DefinitionSegment requested) : Definition :=
  (segment.name.text, segment.body)

def key (segment : DefinitionSegment requested) : String := segment.name.text

theorem map_definition_map_fst (segments : List (DefinitionSegment requested)) :
    (segments.map definition).map Prod.fst = segments.map key := by
  rw [List.map_map]
  rfl

theorem fit (segment : DefinitionSegment requested) :
    TokenShape.FitAll (definitionShapes segment.definition) segment.tokens := by
  obtain ⟨_, _, inFront⟩ := instruction_eq_ok_iff.mp segment.accepted
  exact inFront_all_iff.mp inFront

theorem readable (segment : DefinitionSegment requested) :
    Readable (nestingLimit requested) segment.definition := by
  obtain ⟨_, readable, _⟩ := instruction_eq_ok_iff.mp segment.accepted
  exact readable

theorem admissible (segment : DefinitionSegment requested) :
    AdmissibleDefinition (nestingLimit requested) segment.definition where
  name := by
    have isName := segment.fit.isIdentifier segment.sound
      (List.mem_cons_of_mem _ List.mem_cons_self)
    exact ⟨isName, segment.readable.notPrimitive⟩
  isBody := segment.readable.isBody
  nesting := segment.readable.nesting

theorem fit_flatMap (segments : List (DefinitionSegment requested)) :
    TokenShape.FitAll ((segments.map definition).flatMap definitionShapes)
      (segments.flatMap tokens) := by
  induction segments with
  | nil => exact .nil
  | cons segment segments ih =>
      exact TokenShape.fitAll_append_iff.mpr ⟨segment.tokens, _, rfl, segment.fit, ih⟩

/-- The parser of programs gets behind segments that define different instructions. -/
theorem reaches (headed : TokenShape.FitAll (headerShapes opened?) header)
    (segments : List (DefinitionSegment requested)) (distinct : (segments.map key).Nodup)
    {rest : List Token} (goesOn : startsWith .PROGRAM rest = false) :
    Reaches requested (header ++ (segments.flatMap tokens ++ rest))
      (NameMap.ofList (segments.map definition)) rest := by
  have inFront : InFront ((segments.map definition).flatMap definitionShapes)
      (segments.flatMap tokens ++ rest) rest := ⟨_, fit_flatMap segments, rfl⟩
  refine ⟨opened?, _, header?_eq_ok_iff.mpr ⟨⟨header, headed, rfl⟩, ?_⟩,
    segments.map definition, ?_, ?_, inFront, rfl⟩
  · -- where no line opens the program, its first token is that of a definition or of the rest
    intro none
    subst none
    rw [TokenShape.fitAll_nil_iff.mp headed]
    exact startsWith_program_of_definitions inFront goesOn
  · rwa [map_definition_map_fst]
  · intro definition member
    obtain ⟨segment, _, rfl⟩ := List.mem_map.mp member
    exact segment.readable

theorem startsWith_eq (segment : DefinitionSegment requested) (rest : List Token) :
    startsWith .INSTRUCTION (segment.tokens ++ rest) = true ∧
      startsWith .PROGRAM (segment.tokens ++ rest) = false := by
  obtain ⟨token, _, same, opens, _⟩ := TokenShape.fitAll_cons_iff.mp segment.fit
  rw [same]
  simp [TokenShape.fits_word.mp opens, Keyword.spelling]

/-- A segment that defines an instruction once more ends the parsing. -/
theorem program_of_taken (headed : TokenShape.FitAll (headerShapes opened?) header)
    {before : List (DefinitionSegment requested)} (distinct : (before.map key).Nodup)
    {repeated : DefinitionSegment requested} (taken : repeated.key ∈ before.map key)
    (rest : List Token) :
    program requested (header ++ (before.flatMap tokens ++ (repeated.tokens ++ rest))) =
      .error (.refused (.instructionRepeated repeated.name.text repeated.name.line)) := by
  obtain ⟨opens, noHeader⟩ := repeated.startsWith_eq rest
  have held : (NameMap.ofList (before.map definition)).contains repeated.key = true := by
    rw [← Bool.not_eq_false, NameMap.contains_ofList_eq_false_iff, map_definition_map_fst]
    · exact not_not_intro taken
    · rwa [map_definition_map_fst]
  -- the definition is read to its end before its name turns out to be taken
  have read := (closed_instruction requested).append repeated.accepted rest
  exact (reaches headed before distinct noHeader).program_of_error opens
    (intoContext_of_taken read held)

def idleTokens (name : String) (line : Nat) : List Token :=
  [⟨.keyword, "INSTRUCTION", line⟩, ⟨.identifier, name, line⟩, ⟨.keyword, "IS", line⟩,
    ⟨.keyword, "END", line⟩, ⟨.identifier, name, line⟩]

/-- An instruction that does nothing can be defined under every name of an instruction. -/
def idle (name : String) (line : Nat) (isName : IsInstructionName name) :
    DefinitionSegment requested where
  tokens := idleTokens name line
  sound := by
    intro token member hasClass
    simp only [idleTokens, List.mem_cons, List.not_mem_nil, or_false] at member
    rcases member with rfl | rfl | rfl | rfl | rfl
    · cases hasClass
    · exact isName.1
    · cases hasClass
    · cases hasClass
    · exact isName.1
  name := ⟨.identifier, name, line⟩
  body := .block []
  accepted := by
    rw [idleTokens, instruction_of_opening rfl rfl isName.2 rfl, block_of_end _ rfl]
    simp only [bind_apply, keyword_cons, Keyword.spelling, if_true, closingName, ofClass_cons,
      pure_apply]

end DefinitionSegment

namespace ProgramTail

def tokens (tail : ProgramTail requested) : List Token :=
  tail.opener :: (tail.bodyTokens ++ [tail.closer, tail.name])

/-- The program that definitions make up together with a tail. -/
def programOf (tail : ProgramTail requested) (definitions : List Definition) : Program :=
  ⟨tail.name.text, NameMap.ofList definitions, tail.body⟩

theorem fit (tail : ProgramTail requested) :
    TokenShape.FitAll
      (word .BEGIN :: (tail.body.shapes ++ [word .END, identifier tail.name.text]))
      tail.tokens := by
  obtain ⟨bodyTokens, fitBody, same⟩ := (block_eq_ok_iff.mp tail.accepted).inFront
  obtain rfl := List.append_cancel_right same
  apply TokenShape.FitAll.cons (TokenShape.fits_word.mpr tail.begins)
  apply TokenShape.fitAll_append_iff.mpr
  refine ⟨_, _, rfl, fitBody, .cons (TokenShape.fits_word.mpr tail.ends) ?_⟩
  exact .cons (TokenShape.fits_identifier.mpr ⟨rfl, tail.named⟩) .nil

theorem makesUp (tail : ProgramTail requested)
    (opened : ∀ opened ∈ opened?, opened = tail.name.text)
    (segments : List (DefinitionSegment requested))
    (distinct : ((segments.map DefinitionSegment.definition).map Prod.fst).Nodup) :
    MakesUp (nestingLimit requested) opened? (segments.map DefinitionSegment.definition)
      (tail.programOf (segments.map DefinitionSegment.definition)) where
  name := tail.isName
  opened := opened
  distinct := distinct
  admissible := by
    intro definition member
    obtain ⟨segment, _, rfl⟩ := List.mem_map.mp member
    exact segment.admissible
  context := rfl
  isBody := (block_eq_ok_iff.mp tail.accepted).isBody
  nesting := (block_eq_ok_iff.mp tail.accepted).nesting

/-- Definitions and a tail are read as the program that they make up. -/
theorem program_eq_ok (tail : ProgramTail requested)
    (headed : TokenShape.FitAll (headerShapes opened?) header)
    (opened : ∀ opened ∈ opened?, opened = tail.name.text)
    (segments : List (DefinitionSegment requested))
    (distinct : ((segments.map DefinitionSegment.definition).map Prod.fst).Nodup) :
    program requested (header ++ (segments.flatMap DefinitionSegment.tokens ++ tail.tokens)) =
      .ok (tail.programOf (segments.map DefinitionSegment.definition), []) := by
  apply program_eq_ok_iff.mpr
  refine ⟨rfl, opened?, _, tail.makesUp opened segments distinct, ?_⟩
  apply TokenShape.fitAll_append_iff.mpr
  refine ⟨_, _, rfl, headed, ?_⟩
  apply TokenShape.fitAll_append_iff.mpr
  exact ⟨_, _, rfl, DefinitionSegment.fit_flatMap segments, tail.fit⟩

def idleTokens (name : String) (line : Nat) : List Token :=
  [⟨.keyword, "BEGIN", line⟩, ⟨.keyword, "END", line⟩, ⟨.identifier, name, line⟩]

def idle (name : String) (line : Nat) (isName : isIdentifier name = true) :
    ProgramTail requested where
  opener := ⟨.keyword, "BEGIN", line⟩
  bodyTokens := []
  closer := ⟨.keyword, "END", line⟩
  name := ⟨.identifier, name, line⟩
  body := .block []
  begins := rfl
  accepted := block_of_end _ rfl _
  ends := rfl
  named := rfl
  isName := isName

end ProgramTail

/-- Definitions of different instructions make up one program in every order, in front of every
tail. Where an instruction is defined once more, the first definition that does so is the error,
whatever the tokens behind the definitions are. -/
theorem definitions_in_any_order (headed : TokenShape.FitAll (headerShapes opened?) header)
    (segments : List (DefinitionSegment requested)) :
    ((segments.map DefinitionSegment.key).Nodup →
      ∀ tail : ProgramTail requested, (∀ opened ∈ opened?, opened = tail.name.text) →
        ∃ made : Program, made.name = tail.name.text ∧ made.body = tail.body ∧
          made.context.entries.Perm (segments.map DefinitionSegment.definition) ∧
          ∀ order : List (DefinitionSegment requested), order.Perm segments →
            program requested (header ++ (order.flatMap DefinitionSegment.tokens ++ tail.tokens)) =
                .ok (made, []) ∧
              Shows (order.map DefinitionSegment.definition) made) ∧
    (¬ (segments.map DefinitionSegment.key).Nodup →
      ∃ before repeated after, segments = before ++ repeated :: after ∧
        (before.map DefinitionSegment.key).Nodup ∧
        repeated.key ∈ before.map DefinitionSegment.key ∧
        ∀ rest : List Token,
          program requested (header ++ (segments.flatMap DefinitionSegment.tokens ++ rest)) =
            .error (.refused (.instructionRepeated repeated.name.text repeated.name.line))) := by
  constructor
  · intro distinct tail opened
    rw [← DefinitionSegment.map_definition_map_fst] at distinct
    refine ⟨tail.programOf (segments.map DefinitionSegment.definition), rfl, rfl,
      NameMap.entries_ofList_perm distinct, ?_⟩
    intro order reordered
    have permuted := reordered.map DefinitionSegment.definition
    have differ := NameMap.nodup_names_of_perm distinct permuted
    rw [ProgramTail.programOf, ← NameMap.ofList_of_perm distinct permuted]
    exact ⟨tail.program_eq_ok headed opened order differ,
      Enumeration.shows_ofList differ tail.name.text tail.body⟩
  · intro repeats
    obtain ⟨before, repeated, after, rfl, distinct, taken⟩ :=
      exists_first_repetition DefinitionSegment.key [] List.nodup_nil repeats
    refine ⟨before, repeated, after, rfl, distinct, taken, ?_⟩
    intro rest
    rw [List.flatMap_append, List.flatMap_cons, List.append_assoc, List.append_assoc]
    exact DefinitionSegment.program_of_taken headed distinct taken _

/-- Two instructions are defined in both orders, and then one of them once more. -/
theorem definitions_in_any_order_onceMore :
    TokenShape.FitAll (headerShapes none) [] ∧
      (∃ made, ∀ order ∈ [[("a", 1), ("b", 2)], [("b", 2), ("a", 1)]],
        program 4 (order.flatMap (fun (name, line) => DefinitionSegment.idleTokens name line) ++
          ProgramTail.idleTokens "c" 3) = .ok (made, [])) ∧
      ∀ rest, program 4 ([("a", 1), ("b", 2), ("a", 3)].flatMap
          (fun (name, line) => DefinitionSegment.idleTokens name line) ++ rest) =
        .error (.refused (.instructionRepeated "a" 3)) := by
  have first : IsInstructionName "a" := ⟨isIdentifier_iff_wordClass.mpr (by decide), rfl⟩
  have second : IsInstructionName "b" := ⟨isIdentifier_iff_wordClass.mpr (by decide), rfl⟩
  have last : isIdentifier "c" = true := isIdentifier_iff_wordClass.mpr (by decide)
  have headed : TokenShape.FitAll (headerShapes none) [] := .nil
  refine ⟨headed, ?_, ?_⟩
  · let segments : List (DefinitionSegment 4) := [.idle "a" 1 first, .idle "b" 2 second]
    have distinct : (segments.map DefinitionSegment.key).Nodup := by
      simp [segments, DefinitionSegment.key, DefinitionSegment.idle]
    obtain ⟨made, _, _, _, reads⟩ :=
      (definitions_in_any_order headed segments).1 distinct (.idle "c" 3 last) nofun
    refine ⟨made, ?_⟩
    intro order member
    simp only [List.mem_cons, List.not_mem_nil, or_false] at member
    rcases member with rfl | rfl
    · exact (reads segments (.refl _)).1
    · exact (reads segments.reverse segments.reverse_perm).1
  · let segments : List (DefinitionSegment 4) :=
      [.idle "a" 1 first, .idle "b" 2 second, .idle "a" 3 first]
    have repeats : ¬ (segments.map DefinitionSegment.key).Nodup := by
      simp [segments, DefinitionSegment.key, DefinitionSegment.idle]
    obtain ⟨_, repeated, _, _, _, _, fails⟩ :=
      (definitions_in_any_order headed segments).2 repeats
    have atEnd : program 4 (segments.flatMap DefinitionSegment.tokens ++ []) =
        .error (.refused (.instructionRepeated "a" 3)) := rfl
    intro rest
    exact (fails rest).trans ((fails []).symm.trans atEnd)

end Parser

end BlockLanguage
