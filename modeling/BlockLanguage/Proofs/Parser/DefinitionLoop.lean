import BlockLanguage.Proofs.Parser.ProgramOutcome

/-!
# The loop over definitions

Where the parser of programs stands when it begins a definition. From there on it fails as that
definition does, and it goes the same way when more tokens follow.
-/

set_option autoImplicit false

namespace BlockLanguage

open Token (AllSound)

namespace Parser

variable {requested : Nat} {tokens middle rest : List Token} {context next : Context}
  {opened? : Option String} {failure : ParseFailure}

theorem ReadsContext.append (readsContext : ReadsContext requested tokens context rest)
    (others : List Token) : ReadsContext requested (tokens ++ others) context (rest ++ others) := by
  obtain ⟨listed, distinct, readable, ⟨front, fit, rfl⟩, same⟩ := readsContext
  exact ⟨listed, distinct, readable, ⟨front, fit, List.append_assoc _ _ _⟩, same⟩

theorem ReadsContext.isSuffix (readsContext : ReadsContext requested tokens context rest) :
    rest <:+ tokens := by
  obtain ⟨_, _, _, ⟨front, _, rfl⟩, _⟩ := readsContext
  exact List.suffix_append front rest

theorem isSuffix_of_header? (read : header? tokens = .ok (opened?, rest)) : rest <:+ tokens := by
  obtain ⟨⟨front, _, rfl⟩, _⟩ := header?_eq_ok_iff.mp read
  exact List.suffix_append front rest

/-- More tokens change nothing about the line that opens a program, unless they bring it. -/
theorem header?_append (read : header? tokens = .ok (opened?, rest)) {others : List Token}
    (opens : tokens = [] → startsWith .PROGRAM others = false) :
    header? (tokens ++ others) = .ok (opened?, rest ++ others) := by
  obtain ⟨⟨front, fit, same⟩, fallsThrough⟩ := header?_eq_ok_iff.mp read
  refine header?_eq_ok_iff.mpr ⟨⟨front, fit, by rw [same, List.append_assoc]⟩, fun none => ?_⟩
  cases tokens with
  | nil => exact opens rfl
  | cons token tokens => exact fallsThrough none

/-- The parser of programs gets to the rest with the context of the definitions in front of it. -/
def Reaches (requested : Nat) (tokens : List Token) (context : Context) (rest : List Token) :
    Prop :=
  ∃ opened? middle, header? tokens = .ok (opened?, middle) ∧
    ReadsContext requested middle context rest

namespace Reaches

theorem isSuffix (reaches : Reaches requested tokens context rest) : rest <:+ tokens := by
  obtain ⟨opened?, middle, readHeader, readsContext⟩ := reaches
  exact readsContext.isSuffix.trans (isSuffix_of_header? readHeader)

theorem append (reaches : Reaches requested tokens context rest) (more : rest ≠ [])
    (others : List Token) : Reaches requested (tokens ++ others) context (rest ++ others) := by
  have isSuffix := reaches.isSuffix
  obtain ⟨opened?, middle, readHeader, readsContext⟩ := reaches
  refine ⟨opened?, middle ++ others, header?_append readHeader fun none => ?_,
    readsContext.append others⟩
  rw [none] at isSuffix
  exact absurd (List.suffix_nil.mp isSuffix) more

theorem of_append {others : List Token}
    (reaches : Reaches requested (tokens ++ others) context (rest ++ others)) (more : rest ≠ []) :
    Reaches requested tokens context rest := by
  obtain ⟨opened?, middle, readHeader, listed, distinct, readable, inFront, same⟩ := reaches
  obtain ⟨front, fit, rfl⟩ := inFront
  obtain ⟨⟨header, fitHeader, split⟩, fallsThrough⟩ := header?_eq_ok_iff.mp readHeader
  rw [← List.append_assoc, ← List.append_assoc] at split
  obtain rfl := List.append_cancel_right split
  refine ⟨opened?, front ++ rest, header?_eq_ok_iff.mpr
    ⟨⟨header, fitHeader, List.append_assoc _ _ _⟩, fun none => ?_⟩,
    listed, distinct, readable, ⟨front, fit, rfl⟩, same⟩
  have nonempty : header ++ front ++ rest ≠ [] := List.append_ne_nil_of_right_ne_nil _ more
  obtain ⟨token, others, isFirst⟩ := List.exists_cons_of_ne_nil nonempty
  have noHeader := fallsThrough none
  rw [isFirst] at noHeader ⊢
  exact noHeader

theorem round {last : List Token} (reaches : Reaches requested tokens context rest)
    (read : intoContext requested context rest = .ok (next, last)) :
    Reaches requested tokens next last := by
  obtain ⟨opened?, middle, readHeader, readsContext⟩ := reaches
  exact ⟨opened?, middle, readHeader, readsContext.round read⟩

theorem program_of_error (reaches : Reaches requested tokens context rest)
    (opens : startsWith .INSTRUCTION rest = true)
    (failed : intoContext requested context rest = .error failure) :
    program requested tokens = .error failure := by
  obtain ⟨opened?, middle, readHeader, readsContext⟩ := reaches
  have goesOn : endsDefinitions rest = false := by rw [endsDefinitions, opens, Bool.not_true]
  have ends : definitions requested middle = .error failure := by
    rw [readsContext.definitions_eq,
      repeatUntil_of_round rfl (advances_intoContext requested) goesOn, failed]
  exact program_of_definitions_error readHeader ends

end Reaches

/-- Behind the definitions, where BEGIN follows, the rest of the program decides. -/
theorem program_append_eq (readHeader : header? tokens = .ok (opened?, middle))
    (readsContext : ReadsContext requested middle context rest) {others behind : List Token}
    (begins : keyword .BEGIN (rest ++ others) = .ok ((), behind)) :
    program requested (tokens ++ others) =
      programBehind requested opened? context (rest ++ others) := by
  obtain ⟨noHeader, noDefinition⟩ := startsWith_of_begin begins
  have header : header? (tokens ++ others) = .ok (opened?, middle ++ others) := by
    have isSuffix := readsContext.isSuffix.trans (isSuffix_of_header? readHeader)
    refine header?_append readHeader fun none => ?_
    rw [none] at isSuffix
    rw [List.suffix_nil.mp isSuffix] at noHeader
    exact noHeader
  have stops : endsDefinitions (rest ++ others) = true := by
    rw [endsDefinitions, noDefinition, Bool.not_false]
  have listed : definitions requested (middle ++ others) = .ok (context, rest ++ others) := by
    rw [(readsContext.append others).definitions_eq, repeatUntil_of_stop stops]
  simp only [program_eq_behind, bind_apply, header, listed]

theorem orderly_behindDefinitions (sound : AllSound tokens)
    (readHeader : header? tokens = .ok (opened?, middle))
    (readsContext : ReadsContext requested middle context rest) :
    Orderly (programBehind requested opened? context) := by
  have soundMiddle := sound.mono (isSuffix_of_header? readHeader).subset
  exact orderly_programBehind requested (isIdentifier_of_header? sound readHeader)
    (readsContext.checked soundMiddle)

/-- A program fails in the line that opens it, in a definition or behind the definitions. -/
theorem program_error_cases (failed : program requested tokens = .error failure) :
    header? tokens = .error failure ∨
      (∃ context rest, Reaches requested tokens context rest ∧
        startsWith .INSTRUCTION rest = true ∧
        intoContext requested context rest = .error failure) ∨
      ∃ opened? middle context rest, header? tokens = .ok (opened?, middle) ∧
        ReadsContext requested middle context rest ∧
        programBehind requested opened? context rest = .error failure := by
  rw [program_eq_behind, bind_eq_error_iff] at failed
  rcases failed with early | ⟨opened?, middle, readHeader, failed⟩
  · exact .inl early
  refine .inr ?_
  rcases bind_eq_error_iff.mp failed with stopped | ⟨context, rest, readContext, behind⟩
  · obtain ⟨context, rest, readsContext, goesOn, inRound⟩ :=
      exists_round_of_repeatUntil_error rfl (advances_intoContext requested)
        (ReadsContext requested middle) (fun _ reads read => reads.round read)
        (readsContext_empty requested middle) stopped
    exact .inl ⟨context, rest, ⟨opened?, middle, readHeader, readsContext⟩,
      Bool.not_eq_false' _ ▸ goesOn, inRound⟩
  · exact .inr ⟨opened?, middle, context, rest, readHeader,
      readsContext_of_definitions readContext, behind⟩

theorem intoContext_error_cases (failed : intoContext requested context tokens = .error failure) :
    instruction requested tokens = .error failure ∨
      ∃ token body rest, instruction requested tokens = .ok ((token, body), rest) ∧
        context.contains token.text = true ∧
        failure = .refused (.instructionRepeated token.text token.line) := by
  rcases bind_eq_error_iff.mp failed with early | ⟨⟨token, body⟩, rest, read, failed⟩
  · exact .inl early
  cases taken : context.contains token.text with
  | false => simp [taken] at failed
  | true =>
      simp only [taken, if_true, refuse_apply] at failed
      cases failed
      exact .inr ⟨token, body, rest, read, taken, rfl⟩

theorem intoContext_of_error (failed : instruction requested tokens = .error failure)
    (context : Context) : intoContext requested context tokens = .error failure :=
  bind_eq_error_iff.mpr (.inl failed)

theorem intoContext_of_taken {token : Token} {body : Statement}
    (read : instruction requested tokens = .ok ((token, body), rest))
    (taken : context.contains token.text = true) :
    intoContext requested context tokens =
      .error (.refused (.instructionRepeated token.text token.line)) := by
  simp only [intoContext, bind_apply, read, taken, if_true, refuse_apply]

end Parser

end BlockLanguage
