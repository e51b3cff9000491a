import BlockLanguage.Proofs.Parser.Safety
import BlockLanguage.Proofs.Workbench.Work

/-!
# Programs at a workbench

Statements and contexts at a workbench may be anything, but programs stay checked: what goes into
them is checked on the way in, and what comes out of them was checked before. That is why an
exchange that is done can be undone by the same exchange.
-/

set_option autoImplicit false

namespace BlockLanguage.Workbench

open Work (Keeps)

variable {α σ τ : Type} {bench : Workbench}

/-- All programs at the workbench are checked. -/
def ProgramsChecked (bench : Workbench) : Prop :=
  ∀ name, (bench.program name).Checked

def Place.SparesPrograms (place : Place σ) : Prop :=
  ∀ value bench name, (place.write value bench).program name = bench.program name

theorem sparesPrograms_statementAt (slot : Slot) : (statementAt slot).SparesPrograms :=
  fun value bench name => program_write_statementAt bench name slot value

theorem sparesPrograms_contextAt (name : String) : (contextAt name).SparesPrograms :=
  fun _ _ _ => rfl

theorem Place.SparesPrograms.beside {first : Place σ} {second : Place τ}
    (firstSpares : first.SparesPrograms) (secondSpares : second.SparesPrograms) :
    (first.beside second).SparesPrograms := fun values bench name =>
  (secondSpares values.2 _ name).trans (firstSpares values.1 bench name)

namespace ProgramsChecked

theorem of_spares {place : Place σ} (spares : place.SparesPrograms) {value : σ}
    (checked : ProgramsChecked bench) : ProgramsChecked (place.write value bench) := by
  intro name
  rw [spares]
  exact checked name

theorem write_programAt {program : Program} (isChecked : program.Checked) {name : String}
    (checked : ProgramsChecked bench) :
    ProgramsChecked ((programAt name).write program bench) := by
  intro other
  rw [program_write_programAt]
  split
  · exact isChecked
  · exact checked other

end ProgramsChecked

theorem keeps_put {place : Place σ} (spares : place.SparesPrograms) (value : σ) :
    Keeps ProgramsChecked (Work.put place value) :=
  .put fun _ checked => checked.of_spares spares

theorem keeps_edit {place : Place σ} (spares : place.SparesPrograms) (change : Edit σ α) :
    Keeps ProgramsChecked (Work.edit place change) :=
  .edit fun _ checked => checked.of_spares spares

theorem keeps_parse {place : Place σ} (spares : place.SparesPrograms) (parser : Parser σ)
    (source : String) : Keeps ProgramsChecked (Work.parse place parser source) :=
  .parse fun _ _ _ _ checked => checked.of_spares spares

/-- No action leaves a program behind that the edits would not let in. -/
theorem keeps_perform (action : Action) : Keeps ProgramsChecked (perform action) := by
  have atStatement := sparesPrograms_statementAt
  have atContext := sparesPrograms_contextAt
  cases action with
  | inspect target => exact .pure _
  | put target value => exact (keeps_put (atStatement target) _).bind fun _ => .pure _
  | freshLike source target | freshBody program target =>
      exact (keeps_put (atStatement target) _).bind fun _ => .pure _
  | freshContext program context =>
      exact (keeps_put (atContext context) _).bind fun _ => .pure _
  | readBlock target source requested | readStatement target source requested =>
      exact (keeps_parse (atStatement target) _ source).answer Answer.count
  | copy source target =>
      exact (Keeps.look _).bind fun _ => (keeps_put (atStatement target) _).bind fun _ => .pure _
  | equal left right | equalPrograms left right =>
      exact (Keeps.look _).bind fun _ => (Keeps.look _).bind fun _ => .pure _
  | kind target | isEmpty target | print target indent | name program | printProgram program =>
      exact (Keeps.look _).bind fun _ => .pure _
  | childCount target => exact (keeps_edit (atStatement target) _).answer Answer.count
  | dissolveCall target => exact (keeps_edit (atStatement target) _).answer Answer.text
  | dissolveIfThen target part | dissolveLoop target part =>
      exact (keeps_edit ((atStatement target).beside (atStatement part)) _).answer Answer.condition
  | dissolveIfElse target thenBlock elseBlock =>
      exact (keeps_edit ((atStatement target).beside
        ((atStatement thenBlock).beside (atStatement elseBlock))) _).answer Answer.condition
  | formCall target instruction =>
      exact (keeps_edit (atStatement target) _).bind fun _ => .pure _
  | insertChild target part index =>
      exact (keeps_edit ((atStatement target).beside (atStatement part)) _).bind fun _ => .pure _
  | formIfThen target condition part | formLoop target condition part =>
      exact (keeps_edit ((atStatement target).beside (atStatement part)) _).bind fun _ => .pure _
  | formIfElse target condition thenBlock elseBlock =>
      exact (keeps_edit ((atStatement target).beside
        ((atStatement thenBlock).beside (atStatement elseBlock))) _).bind fun _ => .pure _
  | removeChild target removed index =>
      exact (keeps_edit (atStatement target) _).bind fun _ =>
        (keeps_put (atStatement removed) _).bind fun _ => .pure _
  | insertEntry context name source =>
      exact (Keeps.look _).bind fun _ => (Keeps.look _).bind fun _ =>
        (keeps_put (atContext context) _).bind fun _ =>
          (keeps_put (atStatement source) _).bind fun _ => .pure _
  | removeEntry context name target =>
      refine (Keeps.look _).bind fun entries => ?_
      cases entries.get? name with
      | some body =>
          exact (keeps_put (atContext context) _).bind fun _ =>
            (keeps_put (atStatement target) _).bind fun _ => .pure _
      | none => exact .pure _
  | rename program name =>
      refine Keeps.bind (.edit fun bench checked => ?_) fun _ => .pure _
      exact checked.write_programAt ((checked program).left_rename name)
  | exchangeContext program context =>
      refine Keeps.bind (.edit fun bench checked => ?_) fun _ => .pure _
      refine ProgramsChecked.of_spares (atContext context) ?_
      exact checked.write_programAt ((checked program).left_exchangeContext _)
  | exchangeBody program body =>
      refine Keeps.bind (.edit fun bench checked => ?_) fun _ => .pure _
      refine ProgramsChecked.of_spares (atStatement body) ?_
      exact checked.write_programAt ((checked program).left_exchangeBody _)
  | readProgram program source requested =>
      refine Keeps.bind (.parse fun made rest read bench checked => ?_) fun _ => .pure _
      exact checked.write_programAt (Parser.checked_of_read read)
  | summary program =>
      refine (Keeps.look _).bind fun held => ?_
      cases held.summary with
      | ok text => exact .pure _
      | error violation => exact .throw _

theorem programsChecked_empty : ProgramsChecked empty :=
  fun _ => Program.checked_empty

theorem programsChecked_after (actions : List Action) : ProgramsChecked (empty.after actions) :=
  after_induct keeps_perform programsChecked_empty actions

/-!
## Summaries
-/

theorem step_summary (checked : ProgramsChecked bench) (name : String) :
    ∃ text, bench.step (.summary name) = (bench, .ok (.text text)) := by
  obtain ⟨text, summarized⟩ := (checked name).exists_summary
  refine ⟨text, ?_⟩
  have performed : (perform (.summary name)).run bench = .ok (.text text) bench := by
    simp only [perform, EStateM.run_bind, Work.run_look, read_programAt, summarized]
    rfl
  have apart : (Action.summary name).repeatsName = false := rfl
  rw [step, apart, performed]
  rfl

/-!
## Renaming and exchanging
-/

theorem leadsTo_rename (bench : Workbench) (program name : String) :
    LeadsTo bench (.rename program name)
      ((programAt program).write { bench.program program with name := name } bench) := by
  refine leadsTo_of_edit (Program.rename name) rfl rfl ?_
    ((lawful_programAt program).write_read bench)
  rw [Program.run_rename]
  cases isIdentifier name with
  | true => exact .inl rfl
  | false => exact .inr ⟨_, rfl⟩

theorem leadsTo_exchangeContext (bench : Workbench) (program context : String) :
    LeadsTo bench (.exchangeContext program context)
      (((programAt program).beside (contextAt context)).write
        ({ bench.program program with context := bench.context context },
          (bench.program program).context) bench) := by
  refine leadsTo_of_edit Program.exchangeContext rfl rfl ?_
    ((lawful_programAt_contextAt program context).write_read bench)
  simp only [Place.beside, read_programAt, read_contextAt, Program.run_exchangeContext]
  cases Program.definitionsViolation? (bench.context context).entries with
  | none => exact .inl rfl
  | some violation => exact .inr ⟨violation, rfl⟩

theorem leadsTo_exchangeBody (bench : Workbench) (program : String) (slot : Slot) :
    LeadsTo bench (.exchangeBody program slot)
      (((programAt program).beside (statementAt slot)).write
        ({ bench.program program with body := (statementAt slot).read bench },
          (bench.program program).body) bench) := by
  have apart : (Action.exchangeBody program slot).repeatsName = false := by
    cases slot with
    | none => rfl
    | some name => rfl
  refine leadsTo_of_edit Program.exchangeBody rfl apart ?_ ?_
  · simp only [Place.beside, read_programAt, Program.run_exchangeBody]
    by_cases isBlock : ((statementAt slot).read bench).kind = .block
    · exact .inl (if_pos isBlock)
    · exact .inr ⟨_, if_neg isBlock⟩
  · cases slot with
    | none => exact (lawful_programAt program).write_read bench
    | some name => exact (lawful_programAt_statementAt program name).write_read bench

/-- An exchange of contexts that is done can be undone: what comes back was checked before. -/
theorem exchangeContext_undone (checked : ProgramsChecked bench) {program context : String}
    {middle : Workbench}
    (done : bench.step (.exchangeContext program context) = (middle, .ok .done)) :
    ∃ after, middle.step (.exchangeContext program context) = (after, .ok .done) ∧
      after.Same bench := by
  rw [step_edit Program.exchangeContext rfl rfl] at done
  simp only [Place.beside, read_programAt, read_contextAt, Program.run_exchangeContext] at done
  cases incoming : Program.definitionsViolation? (bench.context context).entries with
  | some violation =>
      rw [incoming] at done
      cases done
  | none =>
      rw [incoming] at done
      cases done
      have outgoing := Program.definitionsViolation?_eq_none_iff.mpr (checked program).context
      refine exists_step_back (lawful_programAt_contextAt program context)
        Program.exchangeContext rfl rfl ?_
      rw [Program.run_exchangeContext, outgoing]
      rfl

theorem exchangeBody_undone (checked : ProgramsChecked bench) {program name : String}
    {middle : Workbench}
    (done : bench.step (.exchangeBody program (some name)) = (middle, .ok .done)) :
    ∃ after, middle.step (.exchangeBody program (some name)) = (after, .ok .done) ∧
      after.Same bench := by
  rw [step_edit Program.exchangeBody rfl rfl] at done
  simp only [Place.beside, read_programAt, read_statementAt, Program.run_exchangeBody] at done
  by_cases isBlock : (bench.statement name).kind = .block
  · rw [if_pos isBlock] at done
    cases done
    refine exists_step_back (lawful_programAt_statementAt program name)
      Program.exchangeBody rfl rfl ?_
    rw [Program.run_exchangeBody, if_pos (checked program).body]
    rfl
  · rw [if_neg isBlock] at done
    cases done

/-- What can be relied on about the programs at a workbench: they are checked and have summaries,
renaming and exchanging change nothing but what they are for, and an exchange that is done with a
value is undone by doing it again. -/
structure ProgramsReliable (bench : Workbench) : Prop where
  checked : ∀ name, (bench.program name).Checked
  summary : ∀ name, ∃ text, bench.step (.summary name) = (bench, .ok (.text text))
  rename : ∀ program name, LeadsTo bench (.rename program name)
    ((programAt program).write { bench.program program with name := name } bench)
  exchangeContext : ∀ program context, LeadsTo bench (.exchangeContext program context)
    (((programAt program).beside (contextAt context)).write
      ({ bench.program program with context := bench.context context },
        (bench.program program).context) bench)
  exchangeBody : ∀ program slot, LeadsTo bench (.exchangeBody program slot)
    (((programAt program).beside (statementAt slot)).write
      ({ bench.program program with body := (statementAt slot).read bench },
        (bench.program program).body) bench)
  contextRestored : ∀ program context middle,
    bench.step (.exchangeContext program context) = (middle, .ok .done) →
      ∃ after, middle.step (.exchangeContext program context) = (after, .ok .done) ∧
        after.Same bench
  bodyRestored : ∀ program name middle,
    bench.step (.exchangeBody program (some name)) = (middle, .ok .done) →
      ∃ after, middle.step (.exchangeBody program (some name)) = (after, .ok .done) ∧
        after.Same bench

/-- The programs can be relied on after any sequence of actions, refused ones included. -/
theorem programsReliable_after (actions : List Action) :
    ProgramsReliable (empty.after actions) where
  checked := programsChecked_after actions
  summary := step_summary (programsChecked_after actions)
  rename := leadsTo_rename _
  exchangeContext := leadsTo_exchangeContext _
  exchangeBody := leadsTo_exchangeBody _
  contextRestored _ _ _ done := exchangeContext_undone (programsChecked_after actions) done
  bodyRestored _ _ _ done := exchangeBody_undone (programsChecked_after actions) done

/-- Blocks in blocks and calls of keywords go into a program and come out again. -/
theorem programsReliable_after_looseParts :
    let loose : Statement := .block [.block [], .call "IF"]
    let actions : List Action := [.put (some "part") loose,
      .insertEntry "context" "step" (some "part"), .put (some "part") loose,
      .rename "program" "IF"]
    let bench := empty.after actions
    (∃ middle restored,
      bench.step (.exchangeContext "program" "context") = (middle, .ok .done) ∧
        middle.step (.exchangeContext "program" "context") = (restored, .ok .done) ∧
        (middle.program "program").context.get? "step" = some loose ∧ restored.Same bench) ∧
      ∃ middle restored,
        bench.step (.exchangeBody "program" (some "part")) = (middle, .ok .done) ∧
          middle.step (.exchangeBody "program" (some "part")) = (restored, .ok .done) ∧
          (middle.program "program").body = loose ∧ restored.Same bench := by
  intro loose actions bench
  have reliable := programsReliable_after actions
  have contextGoesIn : (bench.step (.exchangeContext "program" "context")).2 = .ok .done := by
    decide +kernel
  have bodyGoesIn : (bench.step (.exchangeBody "program" (some "part"))).2 = .ok .done := by
    decide +kernel
  constructor
  · obtain ⟨restored, undone, same⟩ :=
      reliable.contextRestored "program" "context" _ (Prod.ext rfl contextGoesIn)
    exact ⟨_, restored, Prod.ext rfl contextGoesIn, undone, by decide +kernel, same⟩
  · obtain ⟨restored, undone, same⟩ :=
      reliable.bodyRestored "program" "part" _ (Prod.ext rfl bodyGoesIn)
    exact ⟨_, restored, Prod.ext rfl bodyGoesIn, undone, by decide +kernel, same⟩

end BlockLanguage.Workbench
