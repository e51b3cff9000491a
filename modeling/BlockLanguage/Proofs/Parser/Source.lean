import BlockLanguage.Proofs.Parser.ProgramGrammar
import BlockLanguage.Proofs.Printing.Layout

/-!
# The language of source texts

In a source text the texts of the tokens decide their classes, so that the texts of the tokens
alone tell which program a source text describes.
-/

set_option autoImplicit false

namespace BlockLanguage

open TokenShape (Spelled FitAll)

theorem TokenShape.FitAll.map_text {shapes : List TokenShape} {tokens : List Token}
    (fit : FitAll shapes tokens) : tokens.map Token.text = shapes.map TokenShape.text := by
  induction fit with
  | nil => rfl
  | cons fits _ ih => rw [List.map_cons, List.map_cons, fits.1, ih]

theorem TokenShape.Spelled.fits_of_text {shape : TokenShape} {token : Token}
    (spelled : shape.Spelled) (genuine : token.Genuine) (same : token.text = shape.text) :
    shape.Fits token := by
  refine ⟨same, fun tokenClass asked => ?_⟩
  have shapeGenuine : (shape.token 1).Genuine := Token.genuine_of_isWord spelled.isWord 1
  rw [genuine.tokenClass_eq shapeGenuine same]
  exact spelled.hasClass tokenClass asked

/-- Genuine tokens with the texts of spelled shapes fit them. -/
theorem fitAll_of_map_text {shapes : List TokenShape} {tokens : List Token}
    (spelled : ∀ shape ∈ shapes, shape.Spelled) (genuine : ∀ token ∈ tokens, token.Genuine)
    (same : tokens.map Token.text = shapes.map TokenShape.text) : FitAll shapes tokens := by
  induction shapes generalizing tokens with
  | nil =>
      obtain rfl := List.map_eq_nil_iff.mp same
      exact .nil
  | cons shape shapes ih =>
      rw [List.map_cons] at same
      obtain ⟨token, others, rfl, text, texts⟩ := List.map_eq_cons_iff.mp same
      rw [List.forall_mem_cons] at spelled genuine
      exact .cons (spelled.1.fits_of_text genuine.1 text) (ih spelled.2 genuine.2 texts)

theorem genuine_of_mem_tokenize {source : String} {token : Token}
    (member : token ∈ tokenize source) : token.Genuine :=
  Token.genuine_of_mem_tokensFrom member

/-!
## Programs
-/

theorem Line.SpellAll.spelled {lines : List Line} {shapes : List TokenShape}
    (spellAll : SpellAll lines shapes) : ∀ shape ∈ shapes, shape.Spelled := by
  induction spellAll with
  | nil => exact nofun
  | cons spells _ ih => exact List.forall_mem_append.mpr ⟨spells.spelled, ih⟩

theorem Statement.IsBody.spelled {body : Statement} (isBody : body.IsBody) :
    ∀ shape ∈ body.shapes, shape.Spelled :=
  (Statement.spellAll_lines isBody.2.callsIdentifiers 0).spelled

variable {limit : Nat} {program : Program} {opened? : Option String} {listed : List Definition}

theorem AdmissibleDefinition.spelled {definition : Definition}
    (admissible : AdmissibleDefinition limit definition) :
    ∀ shape ∈ definitionShapes definition, shape.Spelled := by
  have isName := TokenShape.spelled_identifier admissible.name.1
  simp only [definitionShapes, List.forall_mem_cons, List.forall_mem_append]
  exact ⟨TokenShape.spelled_word _, isName, TokenShape.spelled_word _,
    admissible.isBody.spelled, TokenShape.spelled_word _, isName, List.forall_mem_nil _⟩

theorem MakesUp.spelled (makesUp : MakesUp limit opened? listed program) :
    ∀ shape ∈ programShapes opened? listed program.body program.name, shape.Spelled := by
  have isName := TokenShape.spelled_identifier makesUp.name
  have header : ∀ shape ∈ headerShapes opened?, shape.Spelled := by
    cases opened? with
    | none => exact nofun
    | some opened =>
        obtain rfl := makesUp.opened opened rfl
        simp only [headerShapes, List.forall_mem_cons]
        exact ⟨TokenShape.spelled_word _, isName, TokenShape.spelled_word _, List.forall_mem_nil _⟩
  have definitions : ∀ shape ∈ listed.flatMap definitionShapes, shape.Spelled := by
    intro shape member
    obtain ⟨definition, isListed, member⟩ := List.mem_flatMap.mp member
    exact (makesUp.admissible definition isListed).spelled shape member
  simp only [programShapes, List.forall_mem_append, List.forall_mem_cons]
  exact ⟨header, definitions, TokenShape.spelled_word _, makesUp.isBody.spelled,
    TokenShape.spelled_word _, isName, List.forall_mem_nil _⟩

namespace Program

theorem ofSource_eq (requested : Nat) (source : String) :
    ofSource requested source = (Parser.program requested (tokenize source)).map Prod.fst := rfl

/-- A program is read from the tokens that describe what makes it up. -/
theorem ofSource_eq_ok_iff_fitAll {requested : Nat} {source : String} :
    ofSource requested source = .ok program ↔
      ∃ opened? listed, MakesUp (nestingLimit requested) opened? listed program ∧
        FitAll (programShapes opened? listed program.body program.name) (tokenize source) := by
  rw [ofSource_eq]
  constructor
  · intro success
    cases read : Parser.program requested (tokenize source) with
    | error failure =>
        rw [read] at success
        cases success
    | ok value =>
        obtain ⟨found, rest⟩ := value
        rw [read] at success
        cases success
        exact (Parser.program_eq_ok_iff.mp read).2
  · intro described
    rw [Parser.program_eq_ok_iff.mpr ⟨rfl, described⟩]
    rfl

/-- A source text describes a program exactly if the texts of its tokens are, in order and with
nothing left over, the words of the program: the line that opens it, which may be missing, some
list of definitions that makes up its context, its main body and its name. -/
theorem ofSource_eq_ok_iff (requested : Nat) (source : String) (program : Program) :
    ofSource requested source = .ok program ↔
      ∃ opened? listed, MakesUp (min requested 1024) opened? listed program ∧
        (tokenize source).map Token.text =
          (programShapes opened? listed program.body program.name).map TokenShape.text := by
  rw [ofSource_eq_ok_iff_fitAll, nestingLimit_eq]
  constructor
  · intro ⟨opened?, listed, makesUp, fit⟩
    exact ⟨opened?, listed, makesUp, fit.map_text⟩
  · intro ⟨opened?, listed, makesUp, same⟩
    exact ⟨opened?, listed, makesUp,
      fitAll_of_map_text makesUp.spelled (fun _ => genuine_of_mem_tokenize) same⟩

end Program

end BlockLanguage
