import BlockLanguage.Statement.Basic
import BlockLanguage.Token.Basic

/-!
# The grammar of statements

Each statement has one sequence of token shapes that describes it. Conditionals and loops are
opened by keyword tokens; the words that divide and close them are recognised by their text.
-/

set_option autoImplicit false

namespace BlockLanguage

/-- What is asked of a token: its text, and perhaps its class. -/
structure TokenShape where
  tokenClass? : Option TokenClass
  text : String
  deriving DecidableEq, Repr

namespace TokenShape

/-- A token of any class with the text of a keyword. -/
def word (keyword : Keyword) : TokenShape := ⟨none, keyword.spelling⟩

def opening (keyword : Keyword) : TokenShape := ⟨some .keyword, keyword.spelling⟩

def condition (condition : Condition) : TokenShape := ⟨some .condition, condition.spelling⟩

def identifier (name : String) : TokenShape := ⟨some .identifier, name⟩

/-- Whether a token is what is asked for. -/
def Fits (shape : TokenShape) (token : Token) : Prop :=
  token.text = shape.text ∧ ∀ tokenClass ∈ shape.tokenClass?, token.tokenClass = tokenClass

@[simp] theorem fits_word {keyword : Keyword} {token : Token} :
    (word keyword).Fits token ↔ token.text = keyword.spelling := by
  simp [word, Fits]

@[simp] theorem fits_opening {keyword : Keyword} {token : Token} :
    (opening keyword).Fits token ↔
      token.text = keyword.spelling ∧ token.tokenClass = .keyword := by
  simp [opening, Fits]

@[simp] theorem fits_condition {guard : Condition} {token : Token} :
    (condition guard).Fits token ↔
      token.text = guard.spelling ∧ token.tokenClass = .condition := by
  simp [condition, Fits]

@[simp] theorem fits_identifier {name : String} {token : Token} :
    (identifier name).Fits token ↔ token.text = name ∧ token.tokenClass = .identifier := by
  simp [identifier, Fits]

/-- Whether tokens are what is asked for, one by one. -/
inductive FitAll : List TokenShape → List Token → Prop where
  | nil : FitAll [] []
  | cons {shape token shapes tokens} : shape.Fits token → FitAll shapes tokens →
      FitAll (shape :: shapes) (token :: tokens)

theorem fitAll_nil_iff {tokens : List Token} : FitAll [] tokens ↔ tokens = [] := by
  constructor
  · intro fit
    cases fit
    rfl
  · intro same
    subst same
    exact .nil

theorem fitAll_cons_iff {shape : TokenShape} {shapes : List TokenShape} {tokens : List Token} :
    FitAll (shape :: shapes) tokens ↔
      ∃ token rest, tokens = token :: rest ∧ shape.Fits token ∧ FitAll shapes rest := by
  constructor
  · intro fit
    cases fit with
    | cons fits fitRest => exact ⟨_, _, rfl, fits, fitRest⟩
  · intro given
    obtain ⟨token, rest, rfl, fits, fitRest⟩ := given
    exact .cons fits fitRest

theorem fitAll_append_iff {front back : List TokenShape} {tokens : List Token} :
    FitAll (front ++ back) tokens ↔
      ∃ first second, tokens = first ++ second ∧ FitAll front first ∧ FitAll back second := by
  induction front generalizing tokens with
  | nil =>
      constructor
      · intro fit
        exact ⟨[], tokens, rfl, .nil, fit⟩
      · intro given
        obtain ⟨first, second, rfl, fitFirst, fitSecond⟩ := given
        cases fitFirst
        exact fitSecond
  | cons shape front ih =>
      rw [List.cons_append, fitAll_cons_iff]
      constructor
      · intro given
        obtain ⟨token, rest, rfl, fits, fitRest⟩ := given
        obtain ⟨first, second, rfl, fitFirst, fitSecond⟩ := ih.mp fitRest
        exact ⟨token :: first, second, rfl, .cons fits fitFirst, fitSecond⟩
      · intro given
        obtain ⟨first, second, rfl, fitFirst, fitSecond⟩ := given
        obtain ⟨token, rest, rfl, fits, fitRest⟩ := fitAll_cons_iff.mp fitFirst
        exact ⟨token, rest ++ second, rfl, fits, ih.mpr ⟨rest, second, rfl, fitRest, fitSecond⟩⟩

theorem FitAll.length_eq {shapes : List TokenShape} {tokens : List Token}
    (fit : FitAll shapes tokens) : tokens.length = shapes.length := by
  induction fit with
  | nil => rfl
  | cons _ _ ih => simp [ih]

/-- Whether tokens of the shapes are in front of the rest. -/
def InFront (shapes : List TokenShape) (tokens rest : List Token) : Prop :=
  ∃ front, FitAll shapes front ∧ tokens = front ++ rest

theorem inFront_nil_iff {tokens rest : List Token} : InFront [] tokens rest ↔ tokens = rest := by
  constructor
  · intro given
    obtain ⟨front, fit, rfl⟩ := given
    obtain rfl := fitAll_nil_iff.mp fit
    rfl
  · intro same
    subst same
    exact ⟨[], .nil, rfl⟩

theorem inFront_cons_iff {shape : TokenShape} {shapes : List TokenShape}
    {tokens rest : List Token} :
    InFront (shape :: shapes) tokens rest ↔
      ∃ token others, tokens = token :: others ∧ shape.Fits token ∧
        InFront shapes others rest := by
  constructor
  · intro given
    obtain ⟨front, fit, rfl⟩ := given
    obtain ⟨token, others, rfl, fits, fitOthers⟩ := fitAll_cons_iff.mp fit
    exact ⟨token, others ++ rest, rfl, fits, others, fitOthers, rfl⟩
  · intro given
    obtain ⟨token, others, rfl, fits, front, fit, rfl⟩ := given
    exact ⟨token :: front, .cons fits fit, rfl⟩

theorem inFront_append_iff {first second : List TokenShape} {tokens rest : List Token} :
    InFront (first ++ second) tokens rest ↔
      ∃ middle, InFront first tokens middle ∧ InFront second middle rest := by
  constructor
  · intro given
    obtain ⟨front, fit, rfl⟩ := given
    obtain ⟨before, after, rfl, fitBefore, fitAfter⟩ := fitAll_append_iff.mp fit
    exact ⟨after ++ rest, ⟨before, fitBefore, by simp⟩, after, fitAfter, rfl⟩
  · intro given
    obtain ⟨middle, ⟨before, fitBefore, rfl⟩, after, fitAfter, rfl⟩ := given
    exact ⟨before ++ after, fitAll_append_iff.mpr ⟨before, after, rfl, fitBefore, fitAfter⟩,
      by simp⟩

theorem InFront.length_eq {shapes : List TokenShape} {tokens rest : List Token}
    (inFront : InFront shapes tokens rest) : tokens.length = shapes.length + rest.length := by
  obtain ⟨front, fit, rfl⟩ := inFront
  rw [List.length_append, fit.length_eq]

end TokenShape

namespace Statement

open TokenShape (word opening)

mutual

/-- The tokens that describe a statement. -/
def shapes : Statement → List TokenShape
  | block children => shapesOfAll children
  | ifThen condition thenBlock =>
    opening .IF :: .condition condition :: word .THEN ::
      (shapes thenBlock ++ [word .END, word .IF])
  | ifElse condition thenBlock elseBlock =>
    opening .IF :: .condition condition :: word .THEN ::
      (shapes thenBlock ++ word .ELSE :: (shapes elseBlock ++ [word .END, word .IF]))
  | loop condition body =>
    opening .WHILE :: .condition condition :: word .DO ::
      (shapes body ++ [word .END, word .WHILE])
  | call instruction => [.identifier instruction]

def shapesOfAll : List Statement → List TokenShape
  | [] => []
  | first :: rest => shapes first ++ shapesOfAll rest

end

theorem shapes_ne_nil {statement : Statement} (noBlock : statement.kind ≠ .block) :
    statement.shapes ≠ [] := by
  cases statement with
  | block children => exact absurd rfl noBlock
  | ifThen condition thenBlock => exact List.cons_ne_nil _ _
  | ifElse condition thenBlock elseBlock => exact List.cons_ne_nil _ _
  | loop condition body => exact List.cons_ne_nil _ _
  | call instruction => exact List.cons_ne_nil _ _

/-- Whether tokens describe a statement. -/
def Describes (tokens : List Token) (statement : Statement) : Prop :=
  TokenShape.FitAll statement.shapes tokens

end Statement

end BlockLanguage
