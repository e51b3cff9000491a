import BlockLanguage.Proofs.Parser.Ceiling

/-!
# Reading back printed statements

Any tree at all can be printed, also one with blocks in the wrong places. What is read back from
its text is its normal form.
-/

set_option autoImplicit false

namespace BlockLanguage.Statement

variable {statement : Statement}

/-- A statement is printed like its normal form, so both have the same sites. -/
theorem sites_normal (identifiers : statement.CallsIdentifiers) (line : Nat) :
    statement.normal.sites 0 line = statement.sites 0 line := by
  have normalIdentifiers := (isBody_normal identifiers).2.callsIdentifiers
  rw [sites_eq_openings normalIdentifiers, lines_normal, ← sites_eq_openings identifiers]

/-- Printing a statement whose calls name identifiers and parsing the text as a block gives the
normal form of the statement and leaves nothing, unless the statement nests too deeply: then the
error is at the first line that opens a conditional or a loop beyond the limit. The normal form is
the statement itself for the blocks that may stand in a program, and for no other statement. -/
theorem block_tokenize_render (identifiers : statement.CallsIdentifiers)
    (indent requested : Nat) :
    (statement.nesting ≤ min requested 1024 →
      Parser.block requested (tokenize (statement.render indent)) = .ok (statement.normal, [])) ∧
    (min requested 1024 < statement.nesting →
      ∃ site, firstTooDeep? (min requested 1024) (statement.sites 0 1) = some site ∧
        Parser.block requested (tokenize (statement.render indent)) =
          .error (.refused (.tooDeep (min requested 1024) site.line))) ∧
    (statement.normal = statement ↔ statement.IsBody) := by
  have isBody := isBody_normal identifiers
  have tokens : tokenize (statement.render indent) =
      Line.tokensOfAll 1 (statement.normal.lines 0) ++ [] := by
    rw [tokenize_render identifiers, lines_normal, List.append_nil]
  rw [← nestingLimit_eq]
  refine ⟨fun fits => ?_, fun beyond => ?_, normal_eq_self_iff identifiers⟩
  · rw [← nesting_normal] at fits
    rw [tokens]
    exact Parser.block_lines isBody fits rfl 1 0
  · rw [← nesting_normal] at beyond
    obtain ⟨site, found⟩ := Parser.exists_firstTooDeep? beyond 1
    refine ⟨site, sites_normal identifiers 1 ▸ found, ?_⟩
    rw [tokens]
    exact Parser.block_lines_of_tooDeep isBody found 0 []

/-- A loop without a block, inside a block that is inside another one. -/
theorem block_tokenize_render_looseLoop :
    let loose : Statement := .block [.block [.call "move", .loop .random (.call "turnleft")]]
    Parser.block 1 (tokenize (loose.render 3)) =
        .ok (.block [.call "move", .loop .random (.block [.call "turnleft"])], []) ∧
      Parser.block 0 (tokenize (loose.render 3)) = .error (.refused (.tooDeep 0 2)) ∧
      loose.normal ≠ loose := by
  intro loose
  have identifiers : loose.CallsIdentifiers := callsIdentifiers_iff_wordClass.mpr (by decide)
  obtain ⟨within, _, _⟩ := block_tokenize_render identifiers 3 1
  obtain ⟨_, beyond, own⟩ := block_tokenize_render identifiers 3 0
  obtain ⟨site, found, stopped⟩ := beyond (by decide)
  have first : firstTooDeep? 0 (loose.sites 0 1) = some ⟨0, 2⟩ := by decide
  refine ⟨within (by decide), ?_, by decide⟩
  obtain rfl := Option.some.inj (found.symm.trans first)
  exact stopped

end BlockLanguage.Statement
