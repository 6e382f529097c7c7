import BlockScript.Proofs.Expression.Topics

/-!
# Expressions that cannot be decided

Whatever is wrong with an expression makes it false (`Expression.decide_of_defective`). Only a search that
breaks down leaves it undecided (`Expression.decide_eq_error_iff`). The library that searches by patterns
breaks down on those only that ask for more repetitions than can be counted
(`Pattern.searchBy_eq_breakdown_iff`).
-/

namespace BlockScript

/-! ### The library -/

/-- A search by patterns breaks down only if there is a text to search and too many repetitions are asked
for. -/
theorem Pattern.searchBy_eq_breakdown_iff {named? : String → Option Char} {pattern name : String}
    {v : Value} :
    searchBy named? pattern v = .error (.breakdown name) ↔
      (∃ searched, v.searchText = .ok searched) ∧
        ofText named? pattern = .error .repetitionTooLarge ∧
        name = "the repetition number is too large" := by
  unfold searchBy
  cases v.searchText with
  | error error => simp [Except.mapError, bind, Except.bind]
  | ok searched =>
    cases ofText named? pattern with
    | ok p => simp [Except.mapError, bind, Except.bind, pure, Except.pure]
    | error error =>
      cases error <;> simp [Except.mapError, bind, Except.bind, PatternError.toSearchError, eq_comm]

namespace Expression

variable [Searcher] {facts : Entries Value} {text pattern spelling name : String} {e : Expression}
  {v : Value} {error : EvaluationError}

/-- Whether an expression comes to a search that breaks down. -/
def BreaksDown (facts : Entries Value) (text name : String) : Prop :=
  ∃ e pattern spelling v, read text = .ok e ∧ e.question = .search pattern spelling ∧
    e.value? facts = some v ∧ Searcher.search pattern v.named = .error (.breakdown name)

/-- What makes an expression false, whatever it asks. -/
inductive Defective (facts : Entries Value) (text : String) : Prop
  /-- A number in it is too long to be read. -/
  | literal {error : NumberError} (h : read text = .error error)
  | malformed {e : Expression} (h : read text = .ok e) (hquestion : e.question = .malformed)
  /-- Its path leads nowhere, and it does not ask for that. -/
  | nowhere {e : Expression} (h : read text = .ok e) (hquestion : e.question ≠ .fails)
      (hvalue : e.value? facts = none)
  /-- A number that is to be compared is too long to be read. -/
  | compared {e : Expression} {c : Comparison} {literal : Scalar} {spelling : String} {v : Value}
      {error : NumberError} (h : read text = .ok e)
      (hquestion : e.question = .compare c literal spelling) (hvalue : e.value? facts = some v)
      (herror : v.compare c literal = .error error)
  /-- It asks for something that is no pattern. -/
  | pattern {e : Expression} {pattern spelling reason : String} {v : Value}
      (h : read text = .ok e) (hquestion : e.question = .search pattern spelling)
      (hvalue : e.value? facts = some v)
      (herror : Searcher.search pattern v.named = .error (.invalid reason))
  /-- The library cannot work with a value, such as a number in what is to be searched that is too long
  to be written. -/
  | refused {e : Expression} {pattern spelling message : String} {v : Value}
      (h : read text = .ok e) (hquestion : e.question = .search pattern spelling)
      (hvalue : e.value? facts = some v)
      (herror : Searcher.search pattern v.named = .error (.refused message))

/-! ### Searching -/

lemma eval_of_search (hquestion : e.question = .search pattern spelling)
    (hvalue : e.value? facts = some v) : e.eval facts = search pattern v := by
  rw [eval, hquestion]
  simp only [hvalue]

/-- Only a search that breaks down is not contained. -/
lemma search_eq_error_iff :
    search pattern v = .error (.breakdown name) ↔
      Searcher.search pattern v.named = .error (.breakdown name) := by
  unfold search
  cases Searcher.search pattern v.named with
  | ok found => simp
  | error error => cases error <;> simp

lemma eval_eq_error_iff :
    e.eval facts = .error (.breakdown name) ↔
      ∃ pattern spelling v, e.question = .search pattern spelling ∧ e.value? facts = some v ∧
        Searcher.search pattern v.named = .error (.breakdown name) := by
  unfold eval
  cases e.question with
  | search pattern spelling => cases e.value? facts <;> simp [search_eq_error_iff]
  | compare c literal spelling =>
    cases e.value? facts with
    | none => simp
    | some v =>
      cases hv : v.compare c literal <;>
        simp [hv, numeric, Except.mapError, bind, Except.bind, pure, Except.pure]
  | holds => simp
  | fails => simp
  | malformed => simp

/-! ### Deciding -/

lemma decide_of_read_error {error : NumberError} (h : read text = .error error)
    (facts : Entries Value) : ∃ log, Expression.decide facts text = .ok ⟨false, log⟩ :=
  ⟨_, by rw [Expression.decide, h]; rfl⟩

/-- What can be read comes to what it evaluates to. -/
lemma eval_of_read (h : read text = .ok e) (facts : Entries Value) :
    (numeric (read text)).bind (eval facts) = e.eval facts := by
  rw [h]
  rfl

lemma decide_of_eval (h : read text = .ok e) {r : Logged Bool} (hr : e.eval facts = .ok r) :
    Expression.decide facts text = .ok r := by
  rw [Expression.decide, eval_of_read h, hr]

lemma decide_of_breakdown (h : read text = .ok e) (hbroken : e.eval facts = .error (.breakdown name)) :
    Expression.decide facts text = .error (.breakdown name) := by
  rw [Expression.decide, eval_of_read h, hbroken]

lemma decide_of_eval_error (h : read text = .ok e) (herror : e.eval facts = .error error)
    (hcontained : ∀ name, error ≠ .breakdown name) :
    ∃ log, Expression.decide facts text = .ok ⟨false, log⟩ := by
  rw [Expression.decide, eval_of_read h, herror]
  cases error with
  | breakdown name => exact absurd rfl (hcontained name)
  | number error => exact ⟨_, rfl⟩
  | refused message => exact ⟨_, rfl⟩

/-- An expression is decided unless a search breaks down. -/
theorem decide_eq_error_iff :
    Expression.decide facts text = .error error ↔
      ∃ name, error = .breakdown name ∧ BreaksDown facts text name := by
  cases h : read text with
  | error number =>
    obtain ⟨log, hlog⟩ := decide_of_read_error h facts
    simp [hlog, BreaksDown, h]
  | ok e =>
    have hbreaks : ∀ name, BreaksDown facts text name ↔ e.eval facts = .error (.breakdown name) := by
      intro name
      rw [eval_eq_error_iff]
      simp [BreaksDown, h]
    simp only [hbreaks]
    cases hr : e.eval facts with
    | ok r => simp [decide_of_eval h hr]
    | error found =>
      by_cases hcontained : ∀ name, found ≠ .breakdown name
      · obtain ⟨log, hlog⟩ := decide_of_eval_error h hr hcontained
        simp [hlog, hcontained]
      · obtain ⟨name, rfl⟩ : ∃ name, found = .breakdown name := by simpa using hcontained
        simp [decide_of_breakdown h hr, eq_comm]

lemma decide_of_nowhere (h : read text = .ok e) (hquestion : e.question ≠ .fails)
    (hvalue : e.value? facts = none) :
    ∃ log, Expression.decide facts text = .ok ⟨false, log⟩ := by
  cases hasked : e.question with
  | fails => exact absurd hasked hquestion
  | malformed => exact ⟨_, decide_of_eval h (by rw [eval, hasked]; rfl)⟩
  | holds => exact ⟨_, decide_of_eval h (by rw [eval, hasked, hvalue]; rfl)⟩
  | compare c literal spelling =>
    exact ⟨_, decide_of_eval h (by rw [eval, hasked]; simp only [hvalue]; rfl)⟩
  | search pattern spelling =>
    exact ⟨_, decide_of_eval h (by rw [eval, hasked]; simp only [hvalue]; rfl)⟩

/-- An expression with something wrong about it is false. -/
theorem decide_of_defective (h : Defective facts text) :
    ∃ log, Expression.decide facts text = .ok ⟨false, log⟩ := by
  cases h with
  | literal h => exact decide_of_read_error h facts
  | malformed h hquestion => exact ⟨_, decide_of_eval h (by rw [eval, hquestion]; rfl)⟩
  | nowhere h hquestion hvalue => exact decide_of_nowhere h hquestion hvalue
  | @compared e c literal spelling v error h hquestion hvalue herror =>
    have heval : e.eval facts = .error (.number error) := by
      rw [eval, hquestion]
      simp only [hvalue, herror]
      rfl
    exact decide_of_eval_error h heval fun _ => EvaluationError.noConfusion
  | @pattern e pattern spelling reason v h hquestion hvalue herror =>
    refine ⟨[⟨.warning, "Invalid regex " ++ Text.quoted pattern ++ ": " ++ reason⟩],
      decide_of_eval h ?_⟩
    rw [eval_of_search hquestion hvalue, search, herror]
    rfl
  | @refused e pattern spelling message v h hquestion hvalue herror =>
    have heval : e.eval facts = .error (.refused message) := by
      rw [eval_of_search hquestion hvalue, search, herror]
    exact decide_of_eval_error h heval fun _ => EvaluationError.noConfusion

end Expression

end BlockScript
