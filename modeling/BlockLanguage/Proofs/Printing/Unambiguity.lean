import BlockLanguage.Proofs.Parser.Source
import BlockLanguage.Proofs.Printing.Program
import BlockLanguage.Proofs.Program.Enumeration

/-!
# Printed texts tell what was printed

The words of a block can be split into statements in one way only, and those of a program into its
definitions and its body. So two blocks, or two programs, with the same words are the same, however
deeply they nest.
-/

set_option autoImplicit false

namespace BlockLanguage

open TokenShape (InFront FitAll word identifier)

attribute [ext] Program

variable {tokens rest last : List Token}

namespace Parser

/-!
## Parts in front
-/

theorem inFront_body_unique {body other : Statement} (isBody : body.IsBody)
    (otherIsBody : other.IsBody) (inFront : InFront body.shapes tokens rest)
    (otherInFront : InFront other.shapes tokens last) (ends : endsBlock rest = true)
    (otherEnds : endsBlock last = true) : body = other ∧ rest = last := by
  have front : BlockFront body.nesting tokens body rest :=
    ⟨isBody, Nat.le_refl _, inFront, ends⟩
  have otherFront : BlockFront other.nesting tokens other last :=
    ⟨otherIsBody, Nat.le_refl _, otherInFront, otherEnds⟩
  exact front.unique otherFront

/-- A definition ends at the name that closes it, whatever its body and the names next to it. -/
theorem inFront_definition_unique {definition other : Definition}
    (isBody : definition.2.IsBody) (otherIsBody : other.2.IsBody)
    (inFront : InFront (definitionShapes definition) tokens rest)
    (otherInFront : InFront (definitionShapes other) tokens last) :
    definition = other ∧ rest = last := by
  obtain ⟨_, token, _, inner, after, behindEnd, rfl, _, name, _, _, bodyInFront, ends, closes⟩ :=
    inFront_definition_iff.mp inFront
  obtain ⟨_, _, _, _, _, _, same, _, otherName, _, _, otherBodyInFront, otherEnds, otherCloses⟩ :=
    inFront_definition_iff.mp otherInFront
  cases same
  obtain ⟨bodies, rfl⟩ := inFront_body_unique isBody otherIsBody bodyInFront otherBodyInFront
    (endsBlock_of_end ends) (endsBlock_of_end otherEnds)
  have names : definition.1 = other.1 := name.symm.trans otherName
  rw [ends] at otherEnds
  cases otherEnds
  rw [names, otherCloses] at closes
  cases closes
  exact ⟨Prod.ext names bodies, rfl⟩

theorem startsWith_of_definition {definition : Definition}
    (inFront : InFront (definitionShapes definition) tokens rest) :
    startsWith .INSTRUCTION tokens = true := by
  obtain ⟨opener, _, rfl, opens, _⟩ := TokenShape.inFront_cons_iff.mp inFront
  rw [startsWith_cons, TokenShape.fits_word.mp opens, beq_self_eq_true]

/-- Definitions one after another are told apart, and from what is behind them. -/
theorem inFront_definitions_unique {listed others : List Definition}
    (areBodies : ∀ definition ∈ listed, definition.2.IsBody)
    (otherAreBodies : ∀ definition ∈ others, definition.2.IsBody)
    (inFront : InFront (listed.flatMap definitionShapes) tokens rest)
    (otherInFront : InFront (others.flatMap definitionShapes) tokens last)
    (ended : startsWith .INSTRUCTION rest = false)
    (otherEnded : startsWith .INSTRUCTION last = false) : listed = others ∧ rest = last := by
  induction listed generalizing tokens others with
  | nil =>
      obtain rfl := TokenShape.inFront_nil_iff.mp inFront
      cases others with
      | nil => exact ⟨rfl, TokenShape.inFront_nil_iff.mp otherInFront⟩
      | cons other others =>
          obtain ⟨_, otherFirst, _⟩ := TokenShape.inFront_append_iff.mp otherInFront
          rw [startsWith_of_definition otherFirst] at ended
          cases ended
  | cons definition listed ih =>
      obtain ⟨middle, first, behind⟩ := TokenShape.inFront_append_iff.mp inFront
      cases others with
      | nil =>
          obtain rfl := TokenShape.inFront_nil_iff.mp otherInFront
          rw [startsWith_of_definition first] at otherEnded
          cases otherEnded
      | cons other others =>
          obtain ⟨_, otherFirst, otherBehind⟩ := TokenShape.inFront_append_iff.mp otherInFront
          rw [List.forall_mem_cons] at areBodies otherAreBodies
          obtain ⟨rfl, rfl⟩ :=
            inFront_definition_unique areBodies.1 otherAreBodies.1 first otherFirst
          obtain ⟨rfl, rests⟩ := ih areBodies.2 otherAreBodies.2 behind otherBehind
          exact ⟨rfl, rests⟩

end Parser

/-!
## Blocks and programs
-/

theorem fitAll_tokenize_of_map_text {shapes : List TokenShape} {source other : String}
    (spelled : ∀ shape ∈ shapes, shape.Spelled) (fit : FitAll shapes (tokenize other))
    (same : (tokenize source).map Token.text = (tokenize other).map Token.text) :
    FitAll shapes (tokenize source) :=
  fitAll_of_map_text spelled (fun _ => genuine_of_mem_tokenize) (same.trans fit.map_text)

theorem Statement.eq_of_map_text {first second : Statement} (firstIsBody : first.IsBody)
    (secondIsBody : second.IsBody) {firstIndent secondIndent : Nat}
    (same : (tokenize (first.render firstIndent)).map Token.text =
      (tokenize (second.render secondIndent)).map Token.text) : first = second := by
  have described := describes_tokenize_render firstIsBody.2.callsIdentifiers firstIndent
  have otherDescribed := describes_tokenize_render secondIsBody.2.callsIdentifiers secondIndent
  have alsoDescribed := fitAll_tokenize_of_map_text secondIsBody.spelled otherDescribed same
  exact (Parser.inFront_body_unique firstIsBody secondIsBody (Parser.inFront_all_iff.mpr described)
    (Parser.inFront_all_iff.mpr alsoDescribed) rfl rfl).1

theorem Enumeration.render?_of_perm {order : List Definition} {program : Program}
    (enumerates : order.Perm program.context.entries) :
    render? program.name order program.body = some program.render := by
  have distinct := NameMap.nodup_names_of_perm program.context.nodup_names enumerates
  rw [render?_eq distinct, NameMap.ofList_of_perm program.context.nodup_names enumerates,
    NameMap.ofList_entries]

namespace Program

variable {first second program : Program}

/-- The tokens that describe a program as it is printed. -/
def shapes (program : Program) : List TokenShape :=
  programShapes (some program.name) program.context.entries program.body program.name

theorem fitAll_tokenize_render (wellFormed : program.WellFormed) :
    FitAll program.shapes (tokenize program.render) := by
  rw [tokenize_render wellFormed]
  exact (spellAll_lines wellFormed).fitAll 1

theorem parts_of_fitAll (fit : FitAll program.shapes tokens) :
    ∃ opener token divider behindHeader middle inner after,
      tokens = opener :: token :: divider :: behindHeader ∧ token.text = program.name ∧
        InFront (program.context.entries.flatMap definitionShapes) behindHeader middle ∧
        Parser.keyword .BEGIN middle = .ok ((), inner) ∧ InFront program.body.shapes inner after ∧
        Parser.endsBlock after = true := by
  obtain ⟨opener, _, rfl, _, fit⟩ := TokenShape.fitAll_cons_iff.mp fit
  obtain ⟨token, _, rfl, names, fit⟩ := TokenShape.fitAll_cons_iff.mp fit
  obtain ⟨divider, behindHeader, rfl, _, fit⟩ := TokenShape.fitAll_cons_iff.mp fit
  have inFront : InFront (program.context.entries.flatMap definitionShapes ++
      word .BEGIN :: (program.body.shapes ++ [word .END, identifier program.name]))
      behindHeader [] :=
    Parser.inFront_all_iff.mpr fit
  obtain ⟨middle, definitions, main⟩ := TokenShape.inFront_append_iff.mp inFront
  obtain ⟨inner, begins, behind⟩ := Parser.inFront_word_cons_iff.mp main
  obtain ⟨after, body, closer⟩ := TokenShape.inFront_append_iff.mp behind
  obtain ⟨_, ends, _⟩ := Parser.inFront_word_cons_iff.mp closer
  exact ⟨opener, token, divider, behindHeader, middle, inner, after, rfl,
    (TokenShape.fits_identifier.mp names).1, definitions, begins, body,
    Parser.endsBlock_of_end ends⟩

theorem eq_of_fitAll (firstWellFormed : first.WellFormed) (secondWellFormed : second.WellFormed)
    (fit : FitAll first.shapes tokens) (otherFit : FitAll second.shapes tokens) :
    first = second := by
  obtain ⟨_, token, _, _, _, _, _, rfl, name, definitions, begins, body, ends⟩ :=
    parts_of_fitAll fit
  obtain ⟨_, _, _, _, _, _, _, same, otherName, otherDefinitions, otherBegins, otherBody,
    otherEnds⟩ := parts_of_fitAll otherFit
  cases same
  -- BEGIN opens no definition, so both lists of definitions end in front of it
  obtain ⟨entries, rfl⟩ := Parser.inFront_definitions_unique firstWellFormed.instructionBody
    secondWellFormed.instructionBody definitions otherDefinitions
    (Parser.startsWith_of_begin begins).2 (Parser.startsWith_of_begin otherBegins).2
  rw [begins] at otherBegins
  cases otherBegins
  have bodies := Parser.inFront_body_unique firstWellFormed.body secondWellFormed.body body
    otherBody ends otherEnds
  have contexts := NameMap.eq_of_entries_perm (.of_eq entries)
  exact Program.ext (name.symm.trans otherName) contexts bodies.1

theorem eq_of_map_text (firstWellFormed : first.WellFormed) (secondWellFormed : second.WellFormed)
    (same : (tokenize first.render).map Token.text = (tokenize second.render).map Token.text) :
    first = second := by
  have alsoFit := fitAll_tokenize_of_map_text (spellAll_lines secondWellFormed).spelled
    (fitAll_tokenize_render secondWellFormed) same
  exact eq_of_fitAll firstWellFormed secondWellFormed (fitAll_tokenize_render firstWellFormed)
    alsoFit

/-- Through whatever orders two contexts are enumerated, the texts agree only for equal programs. -/
theorem enumerated_text_eq_iff (firstWellFormed : first.WellFormed)
    (secondWellFormed : second.WellFormed) {firstOrder secondOrder : List Definition}
    (firstEnumerates : firstOrder.Perm first.context.entries)
    (secondEnumerates : secondOrder.Perm second.context.entries) :
    Enumeration.render? first.name firstOrder first.body =
        Enumeration.render? second.name secondOrder second.body ↔
      first.name = second.name ∧ firstOrder.Perm secondOrder ∧ first.body = second.body := by
  have firstText := Enumeration.render?_of_perm firstEnumerates
  have secondText := Enumeration.render?_of_perm secondEnumerates
  rw [firstText, secondText, Option.some.injEq]
  constructor
  · intro same
    obtain rfl := eq_of_map_text firstWellFormed secondWellFormed (by rw [same])
    exact ⟨rfl, firstEnumerates.trans secondEnumerates.symm, rfl⟩
  · intro ⟨names, orders, bodies⟩
    have entries := firstEnumerates.symm.trans (orders.trans secondEnumerates)
    rw [Program.ext names (NameMap.eq_of_entries_perm entries) bodies]

end Program

/-- Blocks with the same words are the same, at whatever depth they nest and however far each is
indented, and so are well-formed programs. The texts of two programs are equal exactly if the
programs are: in whatever orders their contexts are enumerated, they have the same name, the same
definitions and the same body. -/
theorem printed_texts_tell_apart :
    (∀ first second : Statement, first.IsBody → second.IsBody → ∀ firstIndent secondIndent,
      (tokenize (first.render firstIndent)).map Token.text =
        (tokenize (second.render secondIndent)).map Token.text → first = second) ∧
    ∀ first second : Program, first.WellFormed → second.WellFormed →
      ((tokenize first.render).map Token.text = (tokenize second.render).map Token.text →
        first = second) ∧
      (first.render = second.render ↔ first = second) ∧
      ∀ firstOrder secondOrder : List Definition, firstOrder.Perm first.context.entries →
        secondOrder.Perm second.context.entries →
        (Enumeration.render? first.name firstOrder first.body =
            Enumeration.render? second.name secondOrder second.body ↔
          first.name = second.name ∧ firstOrder.Perm secondOrder ∧ first.body = second.body) := by
  constructor
  · intro first second firstIsBody secondIsBody firstIndent secondIndent same
    exact Statement.eq_of_map_text firstIsBody secondIsBody same
  · intro first second firstWellFormed secondWellFormed
    refine ⟨Program.eq_of_map_text firstWellFormed secondWellFormed, ?_, ?_⟩
    · constructor
      · intro same
        exact Program.eq_of_map_text firstWellFormed secondWellFormed (by rw [same])
      · intro same
        rw [same]
    · intro firstOrder secondOrder firstEnumerates secondEnumerates
      exact Program.enumerated_text_eq_iff firstWellFormed secondWellFormed firstEnumerates
        secondEnumerates

/-- Two blocks with the same words in different orders: an ELSE may belong to the outer conditional
or to the inner one. A call may stand in a definition or in the main body. -/
theorem printed_texts_tell_apart_danglingElse :
    let outer : Statement :=
      .block [.ifElse .random (.block [.ifThen .always .empty]) .empty]
    let inner : Statement :=
      .block [.ifThen .random (.block [.ifElse .always .empty .empty])]
    let defines : Program := ⟨"a", NameMap.ofList [("b", .block [.call "a"])], .empty⟩
    let calls : Program := ⟨"a", NameMap.empty, .block [.call "a"]⟩
    outer.IsBody ∧ inner.IsBody ∧
      (tokenize (outer.render 0)).map Token.text ≠ (tokenize (inner.render 2)).map Token.text ∧
      defines.WellFormed ∧ calls.WellFormed ∧ defines.render ≠ calls.render := by
  intro outer inner defines calls
  have block {child : Statement} (noBlock : child.kind ≠ .block) (wellFormed : child.WellFormed) :
      (Statement.block [child]).IsBody :=
    ⟨rfl, Statement.wellFormed_block_iff.mpr
      (List.forall_mem_singleton.mpr ⟨noBlock, wellFormed⟩)⟩
  have empty : Statement.empty.IsBody := ⟨rfl, Statement.wellFormed_empty⟩
  have within : (Statement.block [.ifThen .always .empty]).IsBody :=
    block nofun (.ifThen rfl empty.2)
  have withinElse : (Statement.block [.ifElse .always .empty .empty]).IsBody :=
    block nofun (.ifElse rfl empty.2 rfl empty.2)
  have outerIsBody : outer.IsBody := block nofun (.ifElse rfl within.2 rfl empty.2)
  have innerIsBody : inner.IsBody := block nofun (.ifThen rfl withinElse.2)
  have a : isIdentifier "a" = true := isIdentifier_iff_wordClass.mpr (by decide)
  have b : isIdentifier "b" = true := isIdentifier_iff_wordClass.mpr (by decide)
  have callIsBody : (Statement.block [.call "a"]).IsBody := block nofun (.call a)
  have definesWellFormed : defines.WellFormed :=
    ⟨a, List.forall_mem_singleton.mpr ⟨b, by decide⟩, List.forall_mem_singleton.mpr callIsBody,
      empty⟩
  have callsWellFormed : calls.WellFormed := ⟨a, nofun, nofun, callIsBody⟩
  obtain ⟨blocks, programs⟩ := printed_texts_tell_apart
  refine ⟨outerIsBody, innerIsBody, fun same => ?_, definesWellFormed, callsWellFormed,
    fun same => ?_⟩
  · exact absurd (blocks outer inner outerIsBody innerIsBody 0 2 same) (by decide)
  · have equal := (programs defines calls definesWellFormed callsWellFormed).2.1.mp same
    exact absurd (congrArg Program.body equal) (by decide)

end BlockLanguage
