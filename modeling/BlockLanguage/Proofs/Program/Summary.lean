import BlockLanguage.Program.Summary
import BlockLanguage.Program.WellFormed
import BlockLanguage.Proofs.Statement.Shape

/-!
# Summaries of checked programs

Whatever the edits of programs let in has a summary: only the kinds of its bodies matter.
-/

set_option autoImplicit false

namespace BlockLanguage

theorem exists_statementCount {body : Statement} (isBlock : body.kind = .block) :
    ∃ count, statementCount body = .ok count := by
  obtain ⟨children, rfl⟩ := Statement.kind_eq_block_iff.mp isBlock
  exact ⟨children.length, rfl⟩

theorem exists_summaryLine (name : String) {body : Statement} (isBlock : body.kind = .block) :
    ∃ line, summaryLine name body = .ok line := by
  obtain ⟨count, counted⟩ := exists_statementCount isBlock
  exact ⟨_, by rw [summaryLine, counted]; rfl⟩

theorem exists_summaryLines {entries : List (String × Statement)}
    (areBlocks : ∀ entry ∈ entries, entry.2.kind = .block) :
    ∃ lines, (entries.mapM fun (name, body) => summaryLine name body) = .ok lines := by
  induction entries with
  | nil => exact ⟨[], rfl⟩
  | cons entry entries ih =>
      obtain ⟨name, body⟩ := entry
      rw [List.forall_mem_cons] at areBlocks
      obtain ⟨line, first⟩ := exists_summaryLine name areBlocks.1
      obtain ⟨lines, others⟩ := ih areBlocks.2
      refine ⟨line :: lines, ?_⟩
      simp only [List.mapM_cons, first, others]
      rfl

namespace Program

theorem Checked.exists_summary {program : Program} (checked : program.Checked) :
    ∃ text, program.summary = .ok text := by
  obtain ⟨lines, instructions⟩ := exists_summaryLines fun entry member =>
    (checked.context entry member).2
  obtain ⟨count, counted⟩ := exists_statementCount checked.body
  simp only [summary, instructions, counted]
  exact ⟨_, rfl⟩

end Program

end BlockLanguage
