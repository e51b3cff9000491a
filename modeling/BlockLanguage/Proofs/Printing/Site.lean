import BlockLanguage.Proofs.Printing.Layout
import BlockLanguage.Statement.Site

/-!
# Sites in printed lines

The sites of a statement are the lines that open conditionals and loops, and their depths are the
levels of these lines. None of them is too deep where the nesting of the statement is within the
limit.
-/

set_option autoImplicit false

namespace BlockLanguage

/-- Whether a line opens a conditional or a loop. -/
def Line.Opens (line : Line) : Prop :=
  "IF ".toList <+: line.text.toList ∨ "WHILE ".toList <+: line.text.toList

instance (line : Line) : Decidable line.Opens :=
  inferInstanceAs (Decidable (_ ∨ _))

namespace Line

/-- The lines that open conditionals and loops, the first line having the given number. -/
def openings (number : Nat) : List Line → List Site
  | [] => []
  | line :: rest =>
    if line.Opens then
      ⟨line.level, number⟩ :: openings (number + 1) rest
    else
      openings (number + 1) rest

theorem openings_append (number : Nat) (first second : List Line) :
    openings number (first ++ second) =
      openings number first ++ openings (number + first.length) second := by
  induction first generalizing number with
  | nil => rfl
  | cons line first ih =>
      rw [List.cons_append, openings, openings, ih, List.length_cons, Nat.add_assoc,
        Nat.add_comm 1]
      split
      · rfl
      · rfl

private theorem not_opens_of_isWord {text : String} (isWord : Lexer.IsWord text.toList) :
    ¬ ("IF ".toList <+: text.toList ∨ "WHILE ".toList <+: text.toList) := by
  have noBlank : ' ' ∉ text.toList := by
    intro member
    have wordCharacter := isWord.isWordCharacter ' ' member
    cases wordCharacter
  intro opens
  rcases opens with opensIf | opensLoop
  · exact noBlank (opensIf.subset (by decide))
  · exact noBlank (opensLoop.subset (by decide))

end Line

namespace Statement

theorem length_lines (level : Nat) (statement : Statement) :
    (statement.lines level).length = statement.height := by
  have raised := lines_add 0 level statement
  rw [Nat.zero_add] at raised
  rw [raised, List.length_map, height]

private theorem openings_ifLine (number level : Nat) (guard : Condition) (others : List Line) :
    Line.openings number (⟨level, "IF " ++ guard.spelling ++ " THEN"⟩ :: others) =
      ⟨level, number⟩ :: Line.openings (number + 1) others := by
  have opens : (⟨level, "IF " ++ guard.spelling ++ " THEN"⟩ : Line).Opens :=
    .inl ⟨guard.spelling.toList ++ " THEN".toList, by simp⟩
  rw [Line.openings, if_pos opens]

private theorem openings_loopLine (number level : Nat) (guard : Condition) (others : List Line) :
    Line.openings number (⟨level, "WHILE " ++ guard.spelling ++ " DO"⟩ :: others) =
      ⟨level, number⟩ :: Line.openings (number + 1) others := by
  have opens : (⟨level, "WHILE " ++ guard.spelling ++ " DO"⟩ : Line).Opens :=
    .inr ⟨guard.spelling.toList ++ " DO".toList, by simp⟩
  rw [Line.openings, if_pos opens]

theorem openings_of_text {text : String}
    (other : ¬ ("IF ".toList <+: text.toList ∨ "WHILE ".toList <+: text.toList))
    (number level : Nat) (others : List Line) :
    Line.openings number (⟨level, text⟩ :: others) = Line.openings (number + 1) others := by
  have stays : ¬ (⟨level, text⟩ : Line).Opens := other
  rw [Line.openings, if_neg stays]

private theorem sitesOfAll_eq_openings {depth : Nat} {children : List Statement}
    (each : ∀ child ∈ children, ∀ line,
      child.sites depth line = Line.openings line (child.lines depth)) (line : Nat) :
    sitesOfAll depth line children = Line.openings line (linesOfAll depth children) := by
  induction children generalizing line with
  | nil => rfl
  | cons child children ih =>
      rw [List.forall_mem_cons] at each
      rw [sitesOfAll, linesOfAll, Line.openings_append, each.1, length_lines, ih each.2]

/-- The sites of a statement are the lines that open conditionals and loops, on their levels. -/
theorem sites_eq_openings {statement : Statement} (identifiers : statement.CallsIdentifiers)
    (depth line : Nat) : statement.sites depth line = Line.openings line (statement.lines depth) := by
  have endIf := @openings_of_text "END IF" (by decide)
  have otherwise := @openings_of_text "ELSE" (by decide)
  have endLoop := @openings_of_text "END WHILE" (by decide)
  induction statement generalizing depth line with
  | block children ih =>
      rw [callsIdentifiers_block_iff] at identifiers
      refine sitesOfAll_eq_openings (fun child member line => ?_) line
      exact ih child member (identifiers child member) depth line
  | ifThen guard thenBlock ih =>
      rw [lines, openings_ifLine, Line.openings_append, endIf,
        ← ih identifiers (depth + 1) (line + 1)]
      exact (congrArg _ (List.append_nil _)).symm
  | ifElse guard thenBlock elseBlock thenIH elseIH =>
      obtain ⟨thenIdentifiers, elseIdentifiers⟩ := callsIdentifiers_ifElse_iff.mp identifiers
      rw [lines, openings_ifLine, Line.openings_append, otherwise,
        Line.openings_append, endIf,
        ← thenIH thenIdentifiers (depth + 1) (line + 1), length_lines,
        ← elseIH elseIdentifiers (depth + 1) _, sites]
      exact congrArg _ (congrArg _ (List.append_nil _).symm)
  | loop guard body ih =>
      rw [lines, openings_loopLine, Line.openings_append, endLoop,
        ← ih identifiers (depth + 1) (line + 1)]
      exact (congrArg _ (List.append_nil _)).symm
  | call name =>
      have isWord := (isIdentifier_iff_wordClass.mp (callsIdentifiers_call_iff.mp identifiers)).1
      rw [lines, openings_of_text (Line.not_opens_of_isWord isWord)]
      rfl

/-- On any level the sites are on the same lines. -/
theorem map_line_openings_lines {statement : Statement} (identifiers : statement.CallsIdentifiers)
    (level line : Nat) :
    (Line.openings line (statement.lines level)).map Site.line =
      (statement.sites 0 line).map Site.line := by
  have raised := lines_add 0 level statement
  rw [Nat.zero_add] at raised
  rw [raised, sites_eq_openings identifiers]
  generalize statement.lines 0 = lines
  induction lines generalizing line with
  | nil => rfl
  | cons first others ih =>
      have sameText : (first.raise level).Opens ↔ first.Opens := Iff.rfl
      simp only [List.map_cons, Line.openings, sameText]
      split
      · rw [List.map_cons, List.map_cons, ih]
      · exact ih (line + 1)

end Statement

/-!
## Depths
-/

theorem firstTooDeep?_append (limit : Nat) (first second : List Site) :
    firstTooDeep? limit (first ++ second) =
      (firstTooDeep? limit first).or (firstTooDeep? limit second) :=
  List.find?_append

theorem firstTooDeep?_cons_of_le {limit depth : Nat} (deep : limit ≤ depth) (line : Nat)
    (others : List Site) : firstTooDeep? limit (⟨depth, line⟩ :: others) = some ⟨depth, line⟩ :=
  List.find?_cons_of_pos (decide_eq_true deep)

theorem firstTooDeep?_cons_of_lt {limit depth : Nat} (fits : depth < limit) (line : Nat)
    (others : List Site) :
    firstTooDeep? limit (⟨depth, line⟩ :: others) = firstTooDeep? limit others :=
  List.find?_cons_of_neg (by simpa using fits)

theorem firstTooDeep?_append_eq_none_iff {limit : Nat} {first second : List Site} :
    firstTooDeep? limit (first ++ second) = none ↔
      firstTooDeep? limit first = none ∧ firstTooDeep? limit second = none := by
  rw [firstTooDeep?_append, Option.or_eq_none_iff]

namespace Statement

private theorem firstTooDeep?_sitesOfAll_eq_none_iff {limit depth : Nat} (fits : depth ≤ limit)
    {children : List Statement}
    (each : ∀ child ∈ children, ∀ line,
      firstTooDeep? limit (child.sites depth line) = none ↔ depth + child.nesting ≤ limit)
    (line : Nat) :
    firstTooDeep? limit (sitesOfAll depth line children) = none ↔
      depth + nestingOfAll children ≤ limit := by
  induction children generalizing line with
  | nil => exact iff_of_true rfl fits
  | cons child children ih =>
      rw [List.forall_mem_cons] at each
      rw [sitesOfAll, firstTooDeep?_append_eq_none_iff, each.1, ih each.2, nestingOfAll]
      omega

/-- No site is too deep where the nesting is within the limit, and only there. -/
theorem firstTooDeep?_sites_eq_none_iff {limit depth : Nat} (fits : depth ≤ limit)
    (statement : Statement) (line : Nat) :
    firstTooDeep? limit (statement.sites depth line) = none ↔ depth + statement.nesting ≤ limit := by
  induction statement generalizing depth line with
  | block children ih =>
      exact firstTooDeep?_sitesOfAll_eq_none_iff fits
        (fun child member line => ih child member fits line) line
  | ifThen guard thenBlock ih =>
      rw [sites, nesting]
      rcases Nat.lt_or_eq_of_le fits with inside | rfl
      · rw [firstTooDeep?_cons_of_lt inside, ih inside]
        omega
      · simp [firstTooDeep?_cons_of_le]
  | ifElse guard thenBlock elseBlock thenIH elseIH =>
      rw [sites, nesting]
      rcases Nat.lt_or_eq_of_le fits with inside | rfl
      · rw [firstTooDeep?_cons_of_lt inside, firstTooDeep?_append_eq_none_iff, thenIH inside,
          elseIH inside]
        omega
      · simp [firstTooDeep?_cons_of_le]
  | loop guard body ih =>
      rw [sites, nesting]
      rcases Nat.lt_or_eq_of_le fits with inside | rfl
      · rw [firstTooDeep?_cons_of_lt inside, ih inside]
        omega
      · simp [firstTooDeep?_cons_of_le]
  | call name => exact iff_of_true rfl fits

end Statement

end BlockLanguage
