import BlockLanguage.Proofs.Workbench.WellFormed

/-!
# Attainable values

Whatever is well-formed can be put together at a workbench, however deep it is: a statement from
its parts, each of them under a name of its own, a context entry by entry, and a program by
exchanging its parts for others. So the values that are attained without putting any tree in
place are exactly the well-formed ones.
-/

set_option autoImplicit false

namespace BlockLanguage.Workbench

variable {σ : Type} {bench middle after : Workbench} {kept : List String}

/-- Some sequence of actions, none of which puts a tree in place by itself, leads from one
workbench to the other. -/
def Attains (bench after : Workbench) : Prop :=
  ∃ actions : List Action, (∀ action ∈ actions, action.isPut = false) ∧
    bench.after actions = after

namespace Attains

theorem refl (bench : Workbench) : bench.Attains bench :=
  ⟨[], List.forall_mem_nil _, rfl⟩

theorem trans (first : bench.Attains middle) (second : middle.Attains after) :
    bench.Attains after := by
  obtain ⟨before, beforeNoPut, rfl⟩ := first
  obtain ⟨behind, behindNoPut, rfl⟩ := second
  exact ⟨before ++ behind, List.forall_mem_append.mpr ⟨beforeNoPut, behindNoPut⟩,
    List.foldl_append⟩

theorem of_step {action : Action} (noPut : action.isPut = false) {answer : Except Refusal Answer}
    (done : bench.step action = (after, answer)) : bench.Attains after :=
  ⟨[action], List.forall_mem_singleton.mpr noPut, congrArg Prod.fst done⟩

theorem of_edit (action : Action) {place : Place σ} {change : Edit σ Unit} {made : σ}
    (noPut : action.isPut = false)
    (performs : perform action = (do Work.edit place change; return .done))
    (apart : action.repeatsName = false) (done : change.run (place.read bench) = .ok () made) :
    bench.Attains (place.write made bench) := by
  apply of_step noPut
  rw [step_edit change performs apart, done]

end Attains

/-!
## Statements
-/

/-- Nothing has changed but statements under other names than those that are kept. -/
structure Spares (kept : List String) (bench after : Workbench) : Prop where
  statement : ∀ name ∈ kept, after.statement name = bench.statement name
  context : ∀ name, after.context name = bench.context name
  program : ∀ name, after.program name = bench.program name

theorem Spares.trans (first : Spares kept bench middle) (second : Spares kept middle after) :
    Spares kept bench after where
  statement name member := (second.statement name member).trans (first.statement name member)
  context name := (second.context name).trans (first.context name)
  program name := (second.program name).trans (first.program name)

theorem Spares.mono {fewer : List String} (spares : Spares kept bench after)
    (included : fewer ⊆ kept) : Spares fewer bench after :=
  { spares with statement := fun name member => spares.statement name (included member) }

theorem spares_write (bench : Workbench) {name : String} (unkept : name ∉ kept)
    (value : Statement) : Spares kept bench ((statementAt (some name)).write value bench) where
  statement other member := by
    have apart : other ≠ name := fun same => unkept (same ▸ member)
    simp [apart]
  context other := context_write_statementAt bench other _ value
  program other := program_write_statementAt bench other _ value

/-- The statement can be put together under any name at any workbench, without touching what is
to be kept. -/
def Buildable (statement : Statement) : Prop :=
  ∀ bench target kept, target ∉ kept →
    ∃ after, Attains bench after ∧ after.statement target = statement ∧ Spares kept bench after

/-- What an edit makes of the statement under the target name and of a part under another name
can be built. -/
theorem exists_edited (action : Action) {target part : String}
    {change : Edit (Statement × Statement) Unit} {made : Statement}
    (attains : bench.Attains middle) (spares : Spares kept bench middle) (unkept : target ∉ kept)
    (partUnkept : part ∉ target :: kept) (noPut : action.isPut = false)
    (performs : perform action = (do
      Work.edit ((statementAt (some target)).beside (statementAt (some part))) change
      return .done))
    (uses : action.uses = [[target, part]])
    (done : change.run (middle.statement target, middle.statement part) = .ok () (made, .empty)) :
    ∃ after, Attains bench after ∧ after.statement target = made ∧ Spares kept bench after := by
  rw [List.mem_cons, not_or] at partUnkept
  obtain ⟨differs, partUnkept⟩ := partUnkept
  have apart : action.repeatsName = false := by
    simp [Action.repeatsName, uses, Ne.symm differs]
  refine ⟨_, attains.trans (.of_edit action noPut performs apart done), ?_, ?_⟩
  · simp [Place.beside, Ne.symm differs]
  · exact spares.trans ((spares_write _ unkept made).trans (spares_write _ partUnkept .empty))

theorem buildable_call {instruction : String} (isName : isIdentifier instruction = true) :
    Buildable (.call instruction) := by
  intro bench target kept unkept
  have done : (Statement.formCall instruction).run (bench.statement target) =
      .ok () (.call instruction) :=
    Statement.formCall_eq_ok_iff.mpr ⟨isName, rfl⟩
  exact ⟨_, .of_edit (.formCall (some target) instruction) rfl rfl rfl done, by simp,
    spares_write _ unkept _⟩

theorem buildable_ifThen {condition : Condition} {thenBlock : Statement}
    (isBlock : thenBlock.kind = .block) (part : Buildable thenBlock) :
    Buildable (.ifThen condition thenBlock) := by
  intro bench target kept unkept
  have fresh := freshName_notMem (target :: kept)
  obtain ⟨middle, attains, isPart, spares⟩ := part bench _ (target :: kept) fresh
  refine exists_edited (.formIfThen (some target) condition (some _)) attains
    (spares.mono (List.subset_cons_self target kept)) unkept fresh rfl rfl rfl ?_
  rw [isPart]
  exact Statement.formIfThen_eq_ok_iff.mpr ⟨isBlock, rfl⟩

theorem buildable_loop {condition : Condition} {body : Statement} (isBlock : body.kind = .block)
    (part : Buildable body) : Buildable (.loop condition body) := by
  intro bench target kept unkept
  have fresh := freshName_notMem (target :: kept)
  obtain ⟨middle, attains, isPart, spares⟩ := part bench _ (target :: kept) fresh
  refine exists_edited (.formLoop (some target) condition (some _)) attains
    (spares.mono (List.subset_cons_self target kept)) unkept fresh rfl rfl rfl ?_
  rw [isPart]
  exact Statement.formLoop_eq_ok_iff.mpr ⟨isBlock, rfl⟩

theorem buildable_ifElse {condition : Condition} {thenBlock elseBlock : Statement}
    (thenIsBlock : thenBlock.kind = .block) (thenPart : Buildable thenBlock)
    (elseIsBlock : elseBlock.kind = .block) (elsePart : Buildable elseBlock) :
    Buildable (.ifElse condition thenBlock elseBlock) := by
  intro bench target kept unkept
  obtain ⟨thenName, thenFresh⟩ : ∃ name, name ∉ target :: kept := ⟨_, freshName_notMem _⟩
  obtain ⟨elseName, elseFresh⟩ : ∃ name, name ∉ thenName :: target :: kept :=
    ⟨_, freshName_notMem _⟩
  obtain ⟨first, toFirst, isThen, sparesFirst⟩ := thenPart bench thenName _ thenFresh
  -- the first part stays under its name while the second one is built
  obtain ⟨second, toSecond, isElse, sparesSecond⟩ := elsePart first elseName _ elseFresh
  have stays : second.statement thenName = thenBlock :=
    (sparesSecond.statement thenName List.mem_cons_self).trans isThen
  have done : (Statement.formIfElse condition).run
      (second.statement target, second.statement thenName, second.statement elseName) =
        .ok () (.ifElse condition thenBlock elseBlock, .empty, .empty) := by
    rw [stays, isElse]
    exact Statement.formIfElse_eq_ok_iff.mpr ⟨⟨thenIsBlock, elseIsBlock⟩, rfl⟩
  simp only [List.mem_cons, not_or] at thenFresh elseFresh
  obtain ⟨thenApart, thenUnkept⟩ := thenFresh
  obtain ⟨elseApartThen, elseApart, elseUnkept⟩ := elseFresh
  have formed := Attains.of_edit
    (.formIfElse (some target) condition (some thenName) (some elseName)) rfl rfl
    (by simp [Action.repeatsName, Action.uses, Ne.symm thenApart, Ne.symm elseApart,
      Ne.symm elseApartThen]) done
  have sparesWritten := (spares_write second unkept (.ifElse condition thenBlock elseBlock)).trans
    ((spares_write _ thenUnkept .empty).trans (spares_write _ elseUnkept .empty))
  refine ⟨_, toFirst.trans (toSecond.trans formed), ?_, ?_⟩
  · simp [Place.beside, Ne.symm thenApart, Ne.symm elseApart]
  · have sparesBuilt := (sparesFirst.mono (List.subset_cons_self target kept)).trans
      (sparesSecond.mono fun name member => by simp [member])
    exact sparesBuilt.trans sparesWritten

theorem buildable_block {children : List Statement}
    (parts : ∀ child ∈ children, child.kind ≠ .block ∧ Buildable child) :
    Buildable (.block children) := by
  intro bench target kept unkept
  -- the children are put in from the last one to the first one
  induction children with
  | nil =>
      have emptied : bench.step (.freshLike none (some target)) =
          ((statementAt (some target)).write .empty bench, .ok .done) := rfl
      exact ⟨_, .of_step rfl emptied, by simp [Statement.empty], spares_write _ unkept _⟩
  | cons child others ih =>
      rw [List.forall_mem_cons] at parts
      obtain ⟨⟨noBlock, part⟩, otherParts⟩ := parts
      obtain ⟨first, toFirst, isBlock, sparesFirst⟩ := ih otherParts
      have fresh := freshName_notMem (target :: kept)
      obtain ⟨second, toSecond, isChild, sparesSecond⟩ := part first _ (target :: kept) fresh
      have spares := sparesFirst.trans (sparesSecond.mono (List.subset_cons_self target kept))
      refine exists_edited (.insertChild (some target) (some _) 0) (toFirst.trans toSecond) spares
        unkept fresh rfl rfl rfl ?_
      rw [isChild, sparesSecond.statement target List.mem_cons_self, isBlock]
      exact Statement.insertChild_eq_ok_iff.mpr ⟨noBlock, others, rfl, Nat.zero_le _, rfl⟩

theorem buildable_of_wellFormed {statement : Statement} (wellFormed : statement.WellFormed) :
    Buildable statement := by
  induction wellFormed with
  | block noBlocks _ ih =>
      exact buildable_block fun child member => ⟨noBlocks child member, ih child member⟩
  | ifThen isBlock _ ih => exact buildable_ifThen isBlock ih
  | ifElse thenIsBlock _ elseIsBlock _ thenIH elseIH =>
      exact buildable_ifElse thenIsBlock thenIH elseIsBlock elseIH
  | loop isBlock _ ih => exact buildable_loop isBlock ih
  | call isName => exact buildable_call isName

/-!
## Contexts and programs
-/

theorem exists_entries {entries : List (String × Statement)}
    (wellFormed : ∀ entry ∈ entries, entry.2.WellFormed) (bench : Workbench) (name : String) :
    ∃ after, Attains bench after ∧ after.context name = (bench.context name).insertAll entries ∧
      ∀ program, after.program program = bench.program program := by
  induction entries generalizing bench with
  | nil => exact ⟨bench, .refl bench, rfl, fun _ => rfl⟩
  | cons entry others ih =>
      rw [List.forall_mem_cons] at wellFormed
      obtain ⟨built, toBuilt, isBody, spares⟩ :=
        buildable_of_wellFormed wellFormed.1 bench "" [] List.not_mem_nil
      have inserted : built.step (.insertEntry name entry.1 (some "")) =
          ((statementAt (some "")).write .empty
            ((contextAt name).write ((built.context name).insert entry.1 (built.statement ""))
              built), .ok (.flag ((built.context name).contains entry.1))) := rfl
      obtain ⟨after, toAfter, holds, programs⟩ := ih wellFormed.2
        ((statementAt (some "")).write .empty
          ((contextAt name).write ((built.context name).insert entry.1 (built.statement "")) built))
      refine ⟨after, toBuilt.trans ((Attains.of_step rfl inserted).trans toAfter), ?_, ?_⟩
      · rw [holds, NameMap.insertAll_cons]
        simp [spares.context, isBody]
      · intro program
        rw [programs]
        simp [spares.program]

theorem exists_context {context : Context} (wellFormed : context.WellFormed) (bench : Workbench)
    (name : String) : ∃ after, Attains bench after ∧ after.context name = context ∧
      ∀ program, after.program program = bench.program program := by
  have emptied : bench.step (.freshContext "" name) =
      ((contextAt name).write NameMap.empty bench, .ok .done) := rfl
  obtain ⟨after, toAfter, holds, programs⟩ :=
    exists_entries wellFormed ((contextAt name).write NameMap.empty bench) name
  refine ⟨after, (Attains.of_step rfl emptied).trans toAfter, ?_, programs⟩
  rw [holds, context_write_contextAt, if_pos rfl, ← NameMap.ofList_eq, NameMap.ofList_entries]

theorem exists_renamed (bench : Workbench) (program : String) {name : String}
    (isName : isIdentifier name = true) :
    ∃ after, Attains bench after ∧
      after.program program = { bench.program program with name := name } ∧
      ∀ context, after.context context = bench.context context := by
  have done := Program.run_rename (bench.program program) name
  rw [if_pos isName] at done
  exact ⟨_, .of_edit (.rename program name) rfl rfl rfl done, by simp, fun _ => rfl⟩

theorem exists_contextExchanged (program : String) {context : String}
    (admitted : Context.Checked (bench.context context)) :
    ∃ after, Attains bench after ∧
      after.program program = { bench.program program with context := bench.context context } := by
  have done := Program.run_exchangeContext (bench.program program) (bench.context context)
  rw [Program.definitionsViolation?_eq_none_iff.mpr admitted] at done
  exact ⟨_, .of_edit (.exchangeContext program context) rfl rfl rfl done, by simp [Place.beside]⟩

theorem exists_bodyExchanged (program : String) {body : String}
    (isBlock : (bench.statement body).kind = .block) :
    ∃ after, Attains bench after ∧
      after.program program = { bench.program program with body := bench.statement body } := by
  have done := Program.run_exchangeBody (bench.program program) (bench.statement body)
  rw [if_pos isBlock] at done
  exact ⟨_, .of_edit (.exchangeBody program (some body)) rfl rfl rfl done, by simp [Place.beside]⟩

/-- A well-formed program is given its name, its context and its body one after the other. -/
theorem exists_program {program : Program} (wellFormed : program.WellFormed) (bench : Workbench)
    (name : String) : ∃ after, Attains bench after ∧ after.program name = program := by
  obtain ⟨checked, contextWellFormed, bodyWellFormed⟩ := Program.wellFormed_iff.mp wellFormed
  obtain ⟨stored, toStored, isContext, _⟩ := exists_context contextWellFormed bench ""
  obtain ⟨renamed, toRenamed, hasName, contexts⟩ := exists_renamed stored name checked.name
  rw [← contexts] at isContext
  obtain ⟨filled, toFilled, hasContext⟩ :=
    exists_contextExchanged name (isContext ▸ checked.context)
  obtain ⟨built, toBuilt, isBody, spares⟩ :=
    buildable_of_wellFormed bodyWellFormed filled "" [] List.not_mem_nil
  obtain ⟨after, toAfter, hasBody⟩ := exists_bodyExchanged name (isBody ▸ checked.body)
  refine ⟨after, toStored.trans (toRenamed.trans (toFilled.trans (toBuilt.trans toAfter))), ?_⟩
  rw [hasBody, isBody, spares.program, hasContext, isContext, hasName]

/-!
## Exactly the well-formed values
-/

theorem Attains.wellFormed (attained : empty.Attains bench) : bench.WellFormed := by
  obtain ⟨actions, noPut, rfl⟩ := attained
  exact wellFormed_after noPut

theorem statement_attained_iff {statement : Statement} :
    (∃ bench name, empty.Attains bench ∧ bench.statement name = statement) ↔
      statement.WellFormed := by
  constructor
  · rintro ⟨bench, name, attained, rfl⟩
    exact attained.wellFormed.statement name
  · intro wellFormed
    obtain ⟨bench, attained, holds, _⟩ :=
      buildable_of_wellFormed wellFormed empty "" [] List.not_mem_nil
    exact ⟨bench, "", attained, holds⟩

theorem context_attained_iff {context : Context} :
    (∃ bench name, empty.Attains bench ∧ bench.context name = context) ↔
      context.WellFormed := by
  constructor
  · rintro ⟨bench, name, attained, rfl⟩
    exact attained.wellFormed.context name
  · intro wellFormed
    obtain ⟨bench, attained, holds, _⟩ := exists_context wellFormed empty ""
    exact ⟨bench, "", attained, holds⟩

theorem program_attained_iff {program : Program} :
    (∃ bench name, empty.Attains bench ∧ bench.program name = program) ↔
      program.WellFormed := by
  constructor
  · rintro ⟨bench, name, attained, rfl⟩
    exact attained.wellFormed.program name
  · intro wellFormed
    obtain ⟨bench, attained, holds⟩ := exists_program wellFormed empty ""
    exact ⟨bench, "", attained, holds⟩

/-- The values that are attained from an empty workbench, without ever putting a tree in place by
itself, are exactly the well-formed ones: the statements, the contexts and the programs. -/
theorem attained_iff_wellFormed :
    (∀ statement : Statement,
      (∃ bench name, empty.Attains bench ∧ bench.statement name = statement) ↔
        statement.WellFormed) ∧
      (∀ context : Context,
        (∃ bench name, empty.Attains bench ∧ bench.context name = context) ↔
          context.WellFormed) ∧
      ∀ program : Program,
        (∃ bench name, empty.Attains bench ∧ bench.program name = program) ↔
          program.WellFormed :=
  ⟨fun _ => statement_attained_iff, fun _ => context_attained_iff,
    fun _ => program_attained_iff⟩

end BlockLanguage.Workbench
