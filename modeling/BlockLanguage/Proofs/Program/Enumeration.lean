import BlockLanguage.Program.Grammar
import BlockLanguage.Program.Printer
import BlockLanguage.Program.Summary
import BlockLanguage.Proofs.NameMap
import BlockLanguage.Proofs.Program.Edit
import BlockLanguage.Proofs.Text.ByteOrder

/-!
# Orders of enumeration

A context may be a table that enumerates its entries in any order. Printer and summary then sort
the names by their bytes and look each body up by its name, and the exchange of contexts checks
the entries as they come. What comes of it is the same for every order.
-/

set_option autoImplicit false

namespace BlockLanguage

variable {order entries : List Definition}

namespace Enumeration

def sortedNames (order : List Definition) : List String :=
  (order.map Prod.fst).mergeSort fun first second => decide (Text.bytes first ≤ Text.bytes second)

/-- The enumerated definitions in the order of their names, unless a name is not found again. -/
def listed? (order : List Definition) : Option (List Definition) :=
  (sortedNames order).mapM fun name => do
    let body ← order.lookup name
    return (name, body)

/-- The source text of a program whose context is enumerated in the given order. -/
def render? (name : String) (order : List Definition) (body : Statement) : Option String := do
  let definitions ← listed? order
  return "PROGRAM " ++ name ++ " IS\n\n" ++
    String.join (definitions.map fun (name, body) => renderDefinition name body) ++
    "BEGIN\n" ++ body.render indentWidth ++ "END " ++ name ++ "\n"

/-- The summary of a program whose context is enumerated in the given order. -/
def summary? (name : String) (order : List Definition) (body : Statement) :
    Option (Except Violation String) := do
  let definitions ← listed? order
  return do
    let instructions ← definitions.mapM fun (name, body) => summaryLine name body
    let count ← statementCount body
    return String.intercalate "\n" <|
      ["Program: " ++ name, "Instructions: " ++ toString (sortedNames order).length] ++
        instructions ++ ["Body: " ++ toString count ++ " statements"]

/-- The exchange of contexts where the one that comes in is enumerated in the given order. -/
def exchangeContext (order : List Definition) : Edit (Program × Context) Unit := do
  Program.requireDefinitions order
  modify fun (program, incoming) => ({ program with context := incoming }, program.context)

/-!
## Names in order
-/

theorem pairwise_sortedNames (order : List Definition) :
    (sortedNames order).Pairwise (· ≤ ·) := by
  have notGreater : ∀ first second : String,
      decide (Text.bytes first ≤ Text.bytes second) = true ↔ first ≤ second := by
    intro first second
    rw [decide_eq_true_iff, ← List.not_lt, ← String.not_lt, Text.bytes_lt_iff]
  have sorted : (sortedNames order).Pairwise
      fun first second => decide (Text.bytes first ≤ Text.bytes second) = true := by
    apply List.pairwise_mergeSort
    · intro first second third
      simp only [notGreater]
      exact String.le_trans
    · intro first second
      rw [Bool.or_eq_true, notGreater, notGreater]
      exact String.le_total first second
  exact sorted.imp (notGreater _ _).mp

theorem sortedNames_eq (distinct : (order.map Prod.fst).Nodup) :
    sortedNames order = (NameMap.ofList order).names := by
  have inOrder : (NameMap.ofList order).names.Pairwise (· ≤ ·) := by
    apply (NameMap.ofList order).ordered.imp
    intro first second less
    exact String.not_lt.mp fun greater => String.lt_irrefl _ (String.lt_trans less greater)
  -- two orders of the same names, both ascending
  apply List.Perm.eq_of_pairwise _ (pairwise_sortedNames order) inOrder
  · have kept := (NameMap.entries_ofList_perm distinct).map Prod.fst
    exact (List.mergeSort_perm _ _).trans kept.symm
  · intro first second _ _
    exact String.le_antisymm

private theorem mapM_lookup (found : ∀ entry ∈ entries, order.lookup entry.1 = some entry.2) :
    ((entries.map Prod.fst).mapM fun name => do
      let body ← order.lookup name
      return (name, body)) = some entries := by
  induction entries with
  | nil => rfl
  | cons entry entries ih =>
      rw [List.forall_mem_cons] at found
      simp only [List.map_cons, List.mapM_cons, found.1, ih found.2]
      rfl

/-- Every body is found, and the definitions come out as the map of them holds them. -/
theorem listed?_eq (distinct : (order.map Prod.fst).Nodup) :
    listed? order = some (NameMap.ofList order).entries := by
  rw [listed?, sortedNames_eq distinct]
  apply mapM_lookup
  intro entry member
  rw [NameMap.lookup_eq_some_iff distinct]
  exact (NameMap.mem_entries_ofList_iff distinct).mp member

/-!
## What is seen of a program
-/

theorem render?_eq (distinct : (order.map Prod.fst).Nodup) (name : String) (body : Statement) :
    render? name order body = some (Program.render ⟨name, NameMap.ofList order, body⟩) := by
  rw [render?, listed?_eq distinct]
  rfl

theorem summary?_eq (distinct : (order.map Prod.fst).Nodup) (name : String) (body : Statement) :
    summary? name order body = some (Program.summary ⟨name, NameMap.ofList order, body⟩) := by
  rw [summary?, listed?_eq distinct, sortedNames_eq distinct, NameMap.names, List.length_map]
  rfl

theorem run_exchangeContext (order : List Definition) (receiver : Program) (incoming : Context) :
    (exchangeContext order).run (receiver, incoming) =
      match Program.definitionsViolation? order with
      | none => .ok () ({ receiver with context := incoming }, receiver.context)
      | some violation => .error violation (receiver, incoming) := by
  rw [exchangeContext, EStateM.run_bind, Program.run_requireDefinitions]
  cases Program.definitionsViolation? order with
  | none => rfl
  | some violation => rfl

/-- The exchange of contexts enumerates the one that comes in by its names. -/
theorem run_exchangeContext_entries (receiver : Program) (incoming : Context) :
    (exchangeContext incoming.entries).run (receiver, incoming) =
      Program.exchangeContext.run (receiver, incoming) := by
  exact (run_exchangeContext incoming.entries receiver incoming).trans
    (Program.run_exchangeContext receiver incoming).symm

/-- What is seen of a program through an enumeration of its context: its text, its summary, and
whether another program takes its context over. -/
structure Shows (order : List Definition) (program : Program) : Prop where
  text : render? program.name order program.body = some program.render
  summary : summary? program.name order program.body = some program.summary
  accepted : program.context.Checked → ∀ receiver : Program,
    (exchangeContext order).run (receiver, program.context) =
      .ok () ({ receiver with context := program.context }, receiver.context)
  rejected : ¬ program.context.Checked → ∀ receiver : Program, ∃ violation,
    (exchangeContext order).run (receiver, program.context) =
      .error violation (receiver, program.context)

theorem definitionsViolation?_eq_none_iff_checked (distinct : (order.map Prod.fst).Nodup) :
    Program.definitionsViolation? order = none ↔ Context.Checked (NameMap.ofList order) := by
  rw [Program.definitionsViolation?_eq_none_iff, Context.Checked]
  simp only [NameMap.mem_entries_ofList_iff distinct]

theorem shows_ofList (distinct : (order.map Prod.fst).Nodup) (name : String) (body : Statement) :
    Shows order ⟨name, NameMap.ofList order, body⟩ where
  text := render?_eq distinct name body
  summary := summary?_eq distinct name body
  accepted checked receiver := by
    rw [run_exchangeContext, (definitionsViolation?_eq_none_iff_checked distinct).mpr checked]
  rejected unchecked receiver := by
    rw [run_exchangeContext]
    cases found : Program.definitionsViolation? order with
    | none => exact absurd ((definitionsViolation?_eq_none_iff_checked distinct).mp found) unchecked
    | some violation => exact ⟨violation, rfl⟩

end Enumeration

open Enumeration (Shows)

end BlockLanguage
