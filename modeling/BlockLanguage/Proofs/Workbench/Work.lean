import BlockLanguage.Proofs.NameMap
import BlockLanguage.Proofs.Statement.Edit
import BlockLanguage.Workbench.Action

/-!
# Work at a workbench

What a place holds after another one is written, what actions leave behind whether they are done
or refused, and what holds at the end of a sequence of actions because each of them keeps it.
-/

set_option autoImplicit false

namespace BlockLanguage.Workbench

variable {α β σ τ : Type} {bench : Workbench}

/-!
## Places
-/

section Places

variable (bench) (name other : String)

@[simp] theorem read_programAt : (programAt name).read bench = bench.program name := rfl

@[simp] theorem read_contextAt : (contextAt name).read bench = bench.context name := rfl

@[simp] theorem read_statementAt :
    (statementAt (some name)).read bench = bench.statement name := rfl

@[simp] theorem program_write_programAt (value : Program) :
    ((programAt name).write value bench).program other =
      if other = name then value else bench.program other := by
  simp only [program, programAt, NameMap.get?_insert]
  split <;> rfl

@[simp] theorem context_write_contextAt (value : Context) :
    ((contextAt name).write value bench).context other =
      if other = name then value else bench.context other := by
  simp only [context, contextAt, NameMap.get?_insert]
  split <;> rfl

@[simp] theorem statement_write_statementAt (value : Statement) :
    ((statementAt (some name)).write value bench).statement other =
      if other = name then value else bench.statement other := by
  simp only [statement, statementAt, NameMap.get?_insert]
  split <;> rfl

@[simp] theorem context_write_programAt (value : Program) :
    ((programAt name).write value bench).context other = bench.context other := rfl

@[simp] theorem statement_write_programAt (value : Program) :
    ((programAt name).write value bench).statement other = bench.statement other := rfl

@[simp] theorem program_write_contextAt (value : Context) :
    ((contextAt name).write value bench).program other = bench.program other := rfl

@[simp] theorem statement_write_contextAt (value : Context) :
    ((contextAt name).write value bench).statement other = bench.statement other := rfl

@[simp] theorem program_write_statementAt (slot : Slot) (value : Statement) :
    ((statementAt slot).write value bench).program other = bench.program other := by
  cases slot with
  | none => rfl
  | some name => rfl

@[simp] theorem context_write_statementAt (slot : Slot) (value : Statement) :
    ((statementAt slot).write value bench).context other = bench.context other := by
  cases slot with
  | none => rfl
  | some name => rfl

end Places

/-- Both workbenches hold the same values under all names. -/
structure Same (left right : Workbench) : Prop where
  statement : ∀ name, left.statement name = right.statement name
  context : ∀ name, left.context name = right.context name
  program : ∀ name, left.program name = right.program name

theorem Same.refl (bench : Workbench) : bench.Same bench :=
  ⟨fun _ => rfl, fun _ => rfl, fun _ => rfl⟩

/-- A place that holds what was written there last, and nothing else changes. -/
structure Place.Lawful (place : Place σ) : Prop where
  read_write : ∀ value bench, place.read (place.write value bench) = value
  write_read : ∀ bench, (place.write (place.read bench) bench).Same bench
  write_read_write : ∀ value bench,
    (place.write (place.read bench) (place.write value bench)).Same bench

theorem lawful_programAt (name : String) : (programAt name).Lawful where
  read_write value bench := by simp
  write_read bench := ⟨fun _ => rfl, fun _ => rfl, fun other => by simp +contextual⟩
  write_read_write value bench := ⟨fun _ => rfl, fun _ => rfl, fun other => by simp +contextual⟩

theorem lawful_programAt_contextAt (program context : String) :
    ((programAt program).beside (contextAt context)).Lawful where
  read_write values bench := by simp [Place.beside]
  write_read bench := ⟨fun _ => rfl, fun other => by simp +contextual [Place.beside],
    fun other => by simp +contextual [Place.beside]⟩
  write_read_write values bench := ⟨fun _ => rfl, fun other => by simp +contextual [Place.beside],
    fun other => by simp +contextual [Place.beside]⟩

theorem lawful_programAt_statementAt (program name : String) :
    ((programAt program).beside (statementAt (some name))).Lawful where
  read_write values bench := by simp [Place.beside]
  write_read bench := ⟨fun other => by simp +contextual [Place.beside], fun _ => rfl,
    fun other => by simp +contextual [Place.beside]⟩
  write_read_write values bench := ⟨fun other => by simp +contextual [Place.beside], fun _ => rfl,
    fun other => by simp +contextual [Place.beside]⟩

/-!
## What work leaves behind
-/

namespace Work

/-- The workbench as it is after some work, whether it is finished or refused. -/
def left (work : Work α) (bench : Workbench) : Workbench :=
  match work.run bench with
  | .ok _ after => after
  | .error _ after => after

/-- Whatever the work does, it keeps the invariant. -/
def Keeps (invariant : Workbench → Prop) (work : Work α) : Prop :=
  ∀ ⦃bench⦄, invariant bench → invariant (work.left bench)

variable {invariant : Workbench → Prop} {work : Work α} {next : α → Work β}

theorem Keeps.pure (value : α) : Keeps invariant (pure value) :=
  fun _ holds => holds

theorem Keeps.throw (refusal : Refusal) : Keeps invariant (throw refusal : Work α) :=
  fun _ holds => holds

theorem Keeps.look (place : Place σ) : Keeps invariant (look place) :=
  fun _ holds => holds

/-- Whatever the work comes to is good, if the invariant holds before it. -/
def Gives (invariant : Workbench → Prop) (good : α → Prop) (work : Work α) : Prop :=
  ∀ ⦃bench value after⦄, invariant bench → work.run bench = .ok value after → good value

theorem Keeps.bind_of_gives {good : α → Prop} (keeps : Keeps invariant work)
    (gives : Gives invariant good work)
    (further : ∀ value, good value → Keeps invariant (next value)) :
    Keeps invariant (work >>= next) := by
  intro bench holds
  have kept := keeps holds
  unfold left at kept ⊢
  rw [EStateM.run_bind]
  cases result : work.run bench with
  | ok value after =>
      rw [result] at kept
      exact further value (gives holds result) kept
  | error refusal after =>
      rw [result] at kept
      exact kept

theorem Keeps.bind (keeps : Keeps invariant work)
    (further : ∀ value, Keeps invariant (next value)) : Keeps invariant (work >>= next) := by
  have gives : Gives invariant (fun _ => True) work := fun _ _ _ _ _ => trivial
  exact keeps.bind_of_gives gives fun value _ => further value

theorem Keeps.answer (keeps : Keeps invariant work) (give : α → β) :
    Keeps invariant (do return give (← work)) :=
  keeps.bind fun value => .pure (give value)

theorem Keeps.put {place : Place σ} {value : σ}
    (writes : ∀ ⦃bench⦄, invariant bench → invariant (place.write value bench)) :
    Keeps invariant (put place value) :=
  writes

theorem run_look (place : Place σ) (bench : Workbench) :
    (look place).run bench = .ok (place.read bench) bench := rfl

theorem run_edit (place : Place σ) (change : Edit σ α) (bench : Workbench) :
    (edit place change).run bench = match change.run (place.read bench) with
      | .ok result changed => .ok result (place.write changed bench)
      | .error violation changed => .error (.violation violation) (place.write changed bench) := by
  change edit place change bench = _
  unfold edit
  cases change.run (place.read bench) with
  | ok result changed => rfl
  | error violation changed => rfl

theorem left_edit (place : Place σ) (change : Edit σ α) (bench : Workbench) :
    (edit place change).left bench = place.write (change.left (place.read bench)) bench := by
  rw [left, run_edit, Edit.left]
  cases change.run (place.read bench) with
  | ok result changed => rfl
  | error violation changed => rfl

theorem Keeps.edit {place : Place σ} {change : Edit σ α}
    (writes : ∀ ⦃bench⦄, invariant bench →
      invariant (place.write (change.left (place.read bench)) bench)) :
    Keeps invariant (edit place change) := by
  intro bench holds
  rw [left_edit]
  exact writes holds

theorem Keeps.parse {place : Place σ} {parser : Parser σ} {source : String}
    (writes : ∀ ⦃value rest⦄, parser (tokenize source) = .ok (value, rest) →
      ∀ ⦃bench⦄, invariant bench → invariant (place.write value bench)) :
    Keeps invariant (parse place parser source) := by
  unfold Work.parse
  cases read : parser.run (tokenize source) with
  | ok success =>
      obtain ⟨value, rest⟩ := success
      exact (Keeps.put (writes read)).bind fun _ => .pure rest.length
  | error failure => exact .throw _

/-!
## Places that guard a property
-/

/-- What lies at the place has the property as long as the invariant holds, and anything else
with the property may be put there. -/
structure Guards (invariant : Workbench → Prop) (place : Place σ) (property : σ → Prop) :
    Prop where
  read : ∀ ⦃bench⦄, invariant bench → property (place.read bench)
  write : ∀ ⦃bench value⦄, invariant bench → property value → invariant (place.write value bench)

namespace Guards

variable {place : Place σ} {property : σ → Prop}

theorem beside {other : Place τ} {alsoProperty : τ → Prop} (first : Guards invariant place property)
    (second : Guards invariant other alsoProperty) :
    Guards invariant (place.beside other) (Edit.Both property alsoProperty) where
  read _ holds := ⟨first.read holds, second.read holds⟩
  write _ _ holds both := second.write (first.write holds both.1) both.2

theorem gives_look (guards : Guards invariant place property) :
    Gives invariant property (look place) := by
  intro bench value after holds done
  cases done
  exact guards.read holds

theorem keeps_put (guards : Guards invariant place property) {value : σ} (held : property value) :
    Keeps invariant (put place value) :=
  .put fun _ holds => guards.write holds held

theorem keeps_edit (guards : Guards invariant place property) {change : Edit σ α}
    (preserves : change.Preserves property) : Keeps invariant (edit place change) :=
  .edit fun _ holds => guards.write holds (preserves (guards.read holds))

theorem gives_edit (guards : Guards invariant place property) {change : Edit σ α}
    {good : α → Prop}
    (comes : ∀ ⦃value result changed⦄, property value →
      change.run value = .ok result changed → good result) :
    Gives invariant good (edit place change) := by
  intro bench result after holds done
  rw [run_edit] at done
  cases run : change.run (place.read bench) with
  | ok result changed =>
      rw [run] at done
      cases done
      exact comes (guards.read holds) run
  | error violation changed =>
      rw [run] at done
      cases done

theorem keeps_parse (guards : Guards invariant place property) {parser : Parser σ} {source : String}
    (reads : ∀ ⦃value rest⦄, parser (tokenize source) = .ok (value, rest) → property value) :
    Keeps invariant (parse place parser source) :=
  .parse fun _ _ read _ holds => guards.write holds (reads read)

end Guards

end Work

/-!
## Actions
-/

/-- An action that names a value twice does nothing; any other one does its work. -/
theorem step_left (bench : Workbench) (action : Action) :
    (bench.step action).1 =
      if action.repeatsName then bench else (perform action).left bench := by
  unfold step
  split
  · rfl
  · rw [Work.left]
    cases (perform action).run bench with
    | ok answer after => rfl
    | error refusal after => rfl

/-- An action that is one edit and is done with it. -/
theorem step_edit {action : Action} {place : Place σ} (change : Edit σ Unit)
    (performs : perform action = (do Work.edit place change; return .done))
    (apart : action.repeatsName = false) (bench : Workbench) :
    bench.step action = match change.run (place.read bench) with
      | .ok _ changed => (place.write changed bench, .ok .done)
      | .error violation changed =>
        (place.write changed bench, .error (.violation violation)) := by
  rw [step, apart, performs, EStateM.run_bind, Work.run_edit]
  cases change.run (place.read bench) with
  | ok result changed => rfl
  | error violation changed => rfl

/-- The action is done and leaves what the other workbench holds, or it is refused and changes
nothing. -/
def LeadsTo (bench : Workbench) (action : Action) (done : Workbench) : Prop :=
  (∃ after, bench.step action = (after, .ok .done) ∧ after.Same done) ∨
    ∃ after refusal, bench.step action = (after, .error refusal) ∧ after.Same bench

theorem leadsTo_of_edit {action : Action} {place : Place σ} (change : Edit σ Unit) {made : σ}
    (performs : perform action = (do Work.edit place change; return .done))
    (apart : action.repeatsName = false)
    (runs : change.run (place.read bench) = .ok () made ∨
      ∃ violation, change.run (place.read bench) = .error violation (place.read bench))
    (unchanged : (place.write (place.read bench) bench).Same bench) :
    LeadsTo bench action (place.write made bench) := by
  unfold LeadsTo
  rw [step_edit change performs apart]
  rcases runs with makes | ⟨violation, refuses⟩
  · rw [makes]
    exact .inl ⟨_, rfl, .refl _⟩
  · rw [refuses]
    exact .inr ⟨_, _, rfl, unchanged⟩

/-- An edit that undoes itself, done twice. -/
theorem exists_step_back {action : Action} {place : Place σ} (lawful : place.Lawful)
    (change : Edit σ Unit) {made : σ}
    (performs : perform action = (do Work.edit place change; return .done))
    (apart : action.repeatsName = false)
    (undoes : change.run made = .ok () (place.read bench)) :
    ∃ after, (place.write made bench).step action = (after, .ok .done) ∧ after.Same bench := by
  refine ⟨_, ?_, lawful.write_read_write made bench⟩
  rw [step_edit change performs apart, lawful.read_write, undoes]

/-- What each action of a sequence keeps holds after all of them. -/
theorem after_induct_of_mem {invariant : Workbench → Prop} {actions : List Action}
    (keeps : ∀ action ∈ actions, Work.Keeps invariant (perform action)) {bench : Workbench}
    (holds : invariant bench) : invariant (bench.after actions) := by
  induction actions generalizing bench with
  | nil => exact holds
  | cons action actions ih =>
      rw [List.forall_mem_cons] at keeps
      have kept : invariant (bench.step action).1 := by
        rw [step_left]
        split
        · exact holds
        · exact keeps.1 holds
      exact ih keeps.2 kept

/-- What each action keeps holds after any number of them. -/
theorem after_induct {invariant : Workbench → Prop}
    (keeps : ∀ action, Work.Keeps invariant (perform action)) {bench : Workbench}
    (holds : invariant bench) (actions : List Action) : invariant (bench.after actions) :=
  after_induct_of_mem (fun action _ => keeps action) holds

end BlockLanguage.Workbench
