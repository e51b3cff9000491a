import BlockLanguage.Proofs.Parser.ProgramGrammar
import BlockLanguage.Proofs.Parser.StatementOutcome

/-!
# Outcomes of parsing programs

The parser of programs finds faults as soon as it reads them, but for one: that an instruction is
defined once more shows when its definition is read. All that stands around the loop over the
definitions is orderly, and so is each definition by itself.
-/

set_option autoImplicit false

namespace BlockLanguage

open ParseError (PointsAt)
open Token (AllSound)
open TokenShape (identifier InFront)

/-!
## Names
-/

/-- A word of one letter that is longer than all names in a list. -/
def freshName (taken : List String) : String :=
  String.ofList (List.replicate ((taken.map String.length).max?.getD 0 + 1) 'x')

theorem freshName_notMem (taken : List String) : freshName taken ∉ taken := by
  intro member
  have bound := List.le_max?_getD_of_mem (k := 0) (List.mem_map_of_mem (f := String.length) member)
  rw [freshName, String.length_ofList, List.length_replicate] at bound
  omega

private theorem freshName_notMem_of_heads {words : List String} (taken : List String)
    (apart : ∀ word ∈ words, word.toList.head? ≠ some 'x') : freshName taken ∉ words := by
  intro member
  refine apart _ member ?_
  rw [freshName, String.toList_ofList]
  rfl

theorem isInstructionName_freshName (taken : List String) :
    IsInstructionName (freshName taken) := by
  have isWord : Lexer.IsWord (freshName taken).toList := by
    rw [freshName, String.toList_ofList, List.replicate_succ]
    refine ⟨by decide, fun character member => ?_⟩
    rw [List.eq_of_mem_replicate member]
    decide
  have noKeyword : freshName taken ∉ Keyword.all.map Keyword.spelling :=
    freshName_notMem_of_heads taken (by decide)
  have noCondition : freshName taken ∉ Condition.all.map Condition.spelling :=
    freshName_notMem_of_heads taken (by decide)
  have notPrimitive : freshName taken ∉ primitives := freshName_notMem_of_heads taken (by decide)
  constructor
  · refine isIdentifier_iff_wordClass.mpr ⟨isWord, ?_⟩
    rw [Lexer.wordClass, if_neg, if_neg]
    · intro member
      obtain ⟨spelling, isSpelling, same⟩ := List.mem_map.mp member
      exact noCondition (String.toList_inj.mp same ▸ isSpelling)
    · intro member
      obtain ⟨spelling, isSpelling, same⟩ := List.mem_map.mp member
      exact noKeyword (String.toList_inj.mp same ▸ isSpelling)
  · rw [isPrimitive, Bool.eq_false_iff]
    exact fun member => notPrimitive (List.contains_iff_mem.mp member)

theorem TokenShape.FitAll.isIdentifier {shapes : List TokenShape} {tokens : List Token}
    {name : String} (fit : FitAll shapes tokens) (sound : AllSound tokens)
    (member : identifier name ∈ shapes) : isIdentifier name = true := by
  induction fit with
  | nil => cases member
  | cons fits _ ih =>
      obtain ⟨soundFirst, soundRest⟩ := List.forall_mem_cons.mp sound
      rcases List.mem_cons.mp member with rfl | member
      · obtain ⟨rfl, hasClass⟩ := fits_identifier.mp fits
        exact soundFirst hasClass
      · exact ih soundRest member

namespace Parser

variable {α β : Type} {requested : Nat} {tokens rest : List Token} {name : String}
  {body : Statement} {context : Context} {opened? : Option String}

theorem isIdentifier_of_inFront {shapes : List TokenShape} (inFront : InFront shapes tokens rest)
    (sound : AllSound tokens) (member : identifier name ∈ shapes) :
    isIdentifier name = true := by
  obtain ⟨front, fit, rfl⟩ := inFront
  exact fit.isIdentifier (List.forall_mem_append.mp sound).1 member

theorem decides_closingName (opened : String) (token : Token) :
    Decides (closingName opened) token := by
  refine decides_checked .identifier fun _ => ?_
  by_cases closes : token.text = opened
  · exact .inl ⟨(), if_pos closes⟩
  · exact .inr ⟨.nameMismatch opened token.text token.line, if_neg closes, rfl, rfl⟩

theorem closed_closingName (opened : String) : Closed (closingName opened) :=
  .of_reads fun _ => ⟨_, reads_closingName opened⟩

theorem orderly_closingName (isName : isIdentifier name = true) : Orderly (closingName name) :=
  .of_decides (.inr ⟨_, rfl⟩) (fun token _ => decides_closingName name token)
    (TokenShape.spelled_identifier isName) (reads_closingName name)

theorem orderly_name : Orderly (ofClass .identifier) := by
  obtain ⟨isName, _⟩ := isInstructionName_freshName []
  refine .of_heads (.inr ⟨_, rfl⟩) ⟨[⟨.identifier, freshName [], 1⟩], _, ?_,
    ofClass_eq_ok_iff.mpr ⟨rfl, rfl⟩⟩ fun token _ => .inl (decides_ofClass _ token)
  exact List.forall_mem_singleton.mpr fun _ => isName

theorem closed_programName (opened? : Option String) : Closed (programName opened?) := by
  cases opened? with
  | some opened => exact (closed_closingName opened).bind fun _ => .pure _
  | none => exact (closed_ofClass .identifier).bind fun _ => .pure _

theorem orderly_programName (areNames : ∀ opened ∈ opened?, isIdentifier opened = true) :
    Orderly (programName opened?) := by
  cases opened? with
  | some opened =>
      exact (orderly_closingName (areNames opened rfl)).bind_closed (closed_closingName opened)
        fun _ _ => .pure _
  | none => exact orderly_name.bind_closed (closed_ofClass .identifier) fun _ _ => .pure _

/-!
## Definitions
-/

def definedName : Parser Token := do
  let name ← ofClass .identifier
  if isPrimitive name.text then
    refuse (.primitiveRedefined name.text name.line)
  return name

theorem instruction_eq (requested : Nat) :
    instruction requested = (do
      keyword .INSTRUCTION
      let name ← definedName
      keyword .IS
      let body ← block requested
      keyword .END
      closingName name.text
      return (name, body)) := by
  simp only [instruction, definedName, bind_assoc]
  congr 1
  funext _
  congr 1
  funext name
  cases isPrimitive name.text with
  | true => rfl
  | false => rfl

theorem decides_definedName (token : Token) : Decides definedName token := by
  refine decides_checked .identifier fun _ => ?_
  cases primitive : isPrimitive token.text with
  | false => exact .inl ⟨token, rfl⟩
  | true => exact .inr ⟨.primitiveRedefined token.text token.line, rfl, rfl, rfl⟩

theorem definedName_eq_ok_iff {token : Token} :
    definedName tokens = .ok (token, rest) ↔
      token.tokenClass = .identifier ∧ isPrimitive token.text = false ∧
        tokens = token :: rest := by
  rw [definedName, bind_eq_ok_iff]
  constructor
  · intro ⟨found, middle, read, checked⟩
    obtain ⟨hasClass, rfl⟩ := ofClass_eq_ok_iff.mp read
    cases primitive : isPrimitive found.text with
    | true => simp [primitive] at checked
    | false =>
        simp only [primitive, Bool.false_eq_true, if_false, pure_apply] at checked
        cases checked
        exact ⟨hasClass, primitive, rfl⟩
  · intro ⟨hasClass, notPrimitive, same⟩
    refine ⟨token, rest, ofClass_eq_ok_iff.mpr ⟨hasClass, same⟩, ?_⟩
    simp only [notPrimitive, Bool.false_eq_true, if_false, pure_apply]

theorem closed_definedName : Closed definedName := by
  intro tokens token rest read
  obtain ⟨hasClass, notPrimitive, rfl⟩ := definedName_eq_ok_iff.mp read
  exact ⟨[token], rfl, fun _ => definedName_eq_ok_iff.mpr ⟨hasClass, notPrimitive, rfl⟩⟩

theorem orderly_definedName : Orderly definedName := by
  obtain ⟨isName, notPrimitive⟩ := isInstructionName_freshName []
  refine .of_heads (.inr ⟨_, rfl⟩) ⟨[⟨.identifier, freshName [], 1⟩], _, ?_,
    definedName_eq_ok_iff.mpr ⟨rfl, notPrimitive, rfl⟩⟩
    fun token _ => .inl (decides_definedName token)
  exact List.forall_mem_singleton.mpr fun _ => isName

theorem closed_instruction (requested : Nat) : Closed (instruction requested) := by
  intro tokens definition rest read
  obtain ⟨token, body⟩ := definition
  obtain ⟨⟨opener, behind, same⟩, readable, front, fit, split⟩ := instruction_eq_ok_iff.mp read
  obtain ⟨first, _, rfl, _, fitOthers⟩ := TokenShape.fitAll_cons_iff.mp fit
  obtain ⟨second, others, rfl, fits, fitLast⟩ := TokenShape.fitAll_cons_iff.mp fitOthers
  refine ⟨_, split, fun others => instruction_eq_ok_iff.mpr ⟨?_, readable, _, fit, rfl⟩⟩
  rw [split] at same
  cases same
  exact ⟨_, _, rfl⟩

theorem orderly_instruction (requested : Nat) : Orderly (instruction requested) := by
  rw [instruction_eq]
  refine (orderly_keyword _).bind_closed (closed_keyword _) fun _ _ => ?_
  refine orderly_definedName.bind_closed closed_definedName fun {_ token _} sound read => ?_
  obtain ⟨hasClass, _, rfl⟩ := definedName_eq_ok_iff.mp read
  have isName := sound token List.mem_cons_self hasClass
  refine (orderly_keyword _).bind_closed (closed_keyword _) fun _ _ => ?_
  refine (orderlyBlocks_block requested).bind (fun _ => ?_) fun _ success => ?_
  · refine (orderly_keyword _).bind_closed (closed_keyword _) fun _ _ => ?_
    exact (orderly_closingName isName).bind_closed (closed_closingName _) fun _ _ => .pure _
  · obtain ⟨_, _, ends, _⟩ := bind_eq_ok_iff.mp success
    exact endsBlock_of_end ends

/-- Errors are found at the token that they tell of. Only that an instruction is defined once more
is found later, at the end of its definition. -/
def FoundAt (token : Token) (error : ParseError) : Prop :=
  error.PointsAt token ∨ ∃ name line, error = .instructionRepeated name line

/-- A check of what a closed parser read finds its fault at the last token that was read. -/
theorem prompt_bind_check {faults : Token → ParseError → Prop} {parser : Parser α}
    {check : α → Parser β} (prompt : Prompt faults parser) (closed : Closed parser)
    (advances : Advances parser)
    (checks : ∀ value, (∃ made, check value = pure made) ∨
      ∃ error, check value = refuse error ∧ ∀ token, faults token error) :
    Prompt faults (parser >>= check) := by
  intro tokens sound
  cases prompt sound with
  | @reads front rest value reads =>
      have read := reads rest (.refl rest)
      rcases checks value with ⟨made, same⟩ | ⟨error, same, fault⟩
      · refine .reads front made fun others like => ?_
        exact bind_eq_ok_iff.mpr ⟨value, others, reads others like, by rw [same]; rfl⟩
      · obtain ⟨before, last, split, ⟨expected, asked⟩, readsLast⟩ :=
          closed.exists_last advances prompt sound read
        rw [split]
        refine .finds before (fault last) (.inr ⟨expected, by rw [bind_apply, asked]⟩) ?_
        intro others
        simp only [bind_apply, readsLast, same, refuse_apply]
  | asks expected asked => exact .asks expected (by rw [bind_apply, asked])
  | @finds front token behind error fault awaits stays =>
      refine .finds front fault ?_ fun others => by rw [bind_apply, stays]
      rcases awaits with ⟨value, ended⟩ | ⟨expected, asked⟩
      · have further := closed.append ended (token :: behind)
        rw [stays] at further
        cases further
      · exact .inr ⟨expected, by rw [bind_apply, asked]⟩

theorem advances_instruction (requested : Nat) : Advances (instruction requested) := by
  intro tokens definition rest read
  obtain ⟨_, _, inFront⟩ := instruction_eq_ok_iff.mp read
  have length := inFront.length_eq
  rw [definitionShapes, List.length_cons] at length
  omega

theorem prompt_intoContext (requested : Nat) (context : Context) :
    Prompt FoundAt (intoContext requested context) := by
  have prompt : Prompt FoundAt (instruction requested) := fun _ sound =>
    ((orderly_instruction requested).prompt sound).mono .inl
  refine prompt_bind_check prompt (closed_instruction requested) (advances_instruction requested)
    fun (token, body) => ?_
  cases taken : context.contains token.text with
  | false =>
      refine .inl ⟨context.insert token.text body, ?_⟩
      simp only [taken, Bool.false_eq_true, if_false]
  | true =>
      refine .inr ⟨.instructionRepeated token.text token.line, ?_, fun _ => .inr ⟨_, _, rfl⟩⟩
      simp only [taken, if_true]

theorem prompt_definitions (requested : Nat) : Prompt FoundAt (definitions requested) :=
  prompt_repeatUntil rfl (fun _ _ _ => rfl) (advances_intoContext requested)
    (fun _ _ _ => trivial) (fun _ => prompt_intoContext requested _)
    (trivial : (fun _ : Context => True) NameMap.empty)

theorem ReadsContext.checked (readsContext : ReadsContext requested tokens context rest)
    (sound : AllSound tokens) : context.Checked := by
  obtain ⟨listed, distinct, readable, inFront, rfl⟩ := readsContext
  intro entry member
  rw [NameMap.mem_entries_ofList_iff distinct] at member
  obtain ⟨notPrimitive, isBody, _⟩ := readable entry member
  refine ⟨⟨isIdentifier_of_inFront inFront sound ?_, notPrimitive⟩, isBody.1⟩
  refine List.mem_flatMap.mpr ⟨entry, member, ?_⟩
  exact List.mem_cons_of_mem _ List.mem_cons_self

/-!
## Programs
-/

def programBehind (requested : Nat) (opened? : Option String) (context : Context) :
    Parser Program := do
  keyword .BEGIN
  let body ← block requested
  keyword .END
  let name ← programName opened?
  endOfProgram
  assemble name context body

theorem program_eq_behind (requested : Nat) :
    program requested = (do
      let opened? ← header?
      let context ← definitions requested
      programBehind requested opened? context) := rfl

theorem assemble_eq_pure (isName : isIdentifier name = true) (checked : context.Checked)
    (isBlock : body.kind = .block) :
    assemble name context body = pure ⟨name, context, body⟩ := by
  funext tokens
  exact assemble_eq_ok_iff.mpr ⟨isName, checked, isBlock, rfl, rfl⟩

theorem isIdentifier_of_programName (sound : AllSound tokens)
    (read : programName opened? tokens = .ok (name, rest)) : isIdentifier name = true :=
  isIdentifier_of_inFront (programName_eq_ok_iff.mp read).2 sound List.mem_cons_self

theorem orderly_endOfProgram (program : Program) :
    Orderly (do endOfProgram; return program : Parser Program) := by
  refine .of_heads (.inl ⟨program, rfl⟩) ⟨[], program, List.forall_mem_nil _, rfl⟩ ?_
  intro token _
  exact .inl (.rejects (.inputAfterEnd token.text token.line) ⟨rfl, rfl⟩ fun _ => rfl)

theorem orderly_programBehind (requested : Nat)
    (areNames : ∀ opened ∈ opened?, isIdentifier opened = true) (checked : context.Checked) :
    Orderly (programBehind requested opened? context) := by
  refine (orderly_keyword _).bind_closed (closed_keyword _) fun _ _ => ?_
  refine (orderlyBlocks_block requested).bind (fun {body} isBlock => ?_) fun _ success => ?_
  · refine (orderly_keyword _).bind_closed (closed_keyword _) fun _ _ => ?_
    refine (orderly_programName areNames).bind_closed (closed_programName _)
      fun {_ name _} sound read => ?_
    rw [assemble_eq_pure (isIdentifier_of_programName sound read) checked isBlock]
    exact orderly_endOfProgram _
  · obtain ⟨_, _, ends, _⟩ := bind_eq_ok_iff.mp success
    exact endsBlock_of_end ends

theorem orderly_header? : Orderly header? := by
  refine .of_heads (.inl ⟨none, rfl⟩) ⟨[], none, List.forall_mem_nil _, rfl⟩ fun token _ => ?_
  refine .inr ?_
  cases opens : token.text == Keyword.PROGRAM.spelling with
  | false =>
      refine ⟨pure none, .pure none, fun others => ?_, fun ended => ?_⟩
      · simp only [header?, bind_apply, get_apply, startsWith_cons, opens, Bool.false_eq_true,
          if_false]
      · cases ended
        rfl
  | true =>
      refine ⟨do keyword .PROGRAM; let name ← ofClass .identifier; keyword .IS; return name.text,
        ?_, fun others => ?_, fun ended => by cases ended⟩
      · refine (orderly_keyword _).bind_closed (closed_keyword _) fun _ _ => ?_
        refine orderly_name.bind_closed (closed_ofClass _) fun _ _ => ?_
        exact (orderly_keyword _).bind_closed (closed_keyword _) fun _ _ => .pure _
      · simp only [header?, bind_apply, get_apply, startsWith_cons, opens, if_true]

theorem isIdentifier_of_header? (sound : AllSound tokens)
    (read : header? tokens = .ok (opened?, rest)) :
    ∀ opened ∈ opened?, isIdentifier opened = true := by
  obtain ⟨inFront, _⟩ := header?_eq_ok_iff.mp read
  intro opened isOpened
  cases isOpened
  exact isIdentifier_of_inFront inFront sound (List.mem_cons_of_mem _ List.mem_cons_self)

theorem prompt_program (requested : Nat) : Prompt FoundAt (program requested) := by
  rw [program_eq_behind]
  have header : Prompt FoundAt header? := fun _ sound => (orderly_header?.prompt sound).mono .inl
  refine header.bind fun soundHeader readHeader => ?_
  refine (prompt_definitions requested).bind fun soundContext readContext => ?_
  have behind := orderly_programBehind requested (isIdentifier_of_header? soundHeader readHeader)
    ((readsContext_of_definitions readContext).checked soundContext)
  exact fun _ sound => (behind.prompt sound).mono .inl

end Parser

end BlockLanguage
