import BlockScript.Grammar.Validator
import Mathlib.Tactic.Lemma

/-!
# What the checks are about

Each check of a line reports problems of one concern only, so the reports of a line can be taken apart
again by what they are about.
-/

namespace BlockScript

/-- What a problem is about. -/
inductive Concern
  | opening
  | indentation
  | declaration
  | order
  | target
  | effect
  | output
  | brackets
  | hierarchy
  | extraction
deriving DecidableEq

def Problem.concern : Problem → Concern
  | .badOpening => .opening
  | .hierarchicalAtDepthZero => .indentation
  | .missingKeyword | .unknownKeyword _ | .conditionalWithoutBlock => .declaration
  | .effectBeforeTarget | .outputBefore _ => .order
  | .targetRequired _ | .missingTargetFunction => .target
  | .effectRequired _ | .actionWithoutOption _ | .strayInEffect _ | .emptyEffect => .effect
  | .outputRequired _ | .missingOutcome => .output
  | .unmatchedCloser _ | .unclosedOpener _ => .brackets
  | .noParent | .branchOutsideConditional _ | .secondElse => .hierarchy
  | _ => .extraction

lemma Problem.severity_of_brackets {p : Problem} (h : p.concern = .brackets) :
    p.severity = .error := by
  cases p <;> first | rfl | cases h

namespace Grammar

section

variable {c : Prop} [Decidable c] {p q : Problem × Nat}

lemma concern_of_mem_ite (h : p ∈ if c then [q] else []) : p.1.concern = q.1.concern := by
  split at h
  · rw [List.mem_singleton.mp h]
  · cases h

lemma concern_of_mem_ite_not (h : p ∈ if c then [] else [q]) : p.1.concern = q.1.concern := by
  split at h
  · cases h
  · rw [List.mem_singleton.mp h]

end

lemma concern_of_mem_bracketProblems {opening closing : Char} {column depth outermost : Nat}
    {text : List Char} {p : Problem × Nat}
    (h : p ∈ bracketProblems opening closing column depth outermost text) :
    p.1.concern = .brackets := by
  fun_induction bracketProblems opening closing column depth outermost text with
  | case1 => cases h
  | case2 =>
    obtain rfl := List.mem_singleton.mp h
    rfl
  | case3 _ _ _ _ ih => exact ih h
  | case4 _ _ _ _ ih =>
    rcases List.mem_cons.mp h with rfl | h
    · rfl
    · exact ih h
  | case5 _ _ _ _ _ _ ih => exact ih h
  | case6 _ _ _ _ _ _ _ ih => exact ih h

lemma concern_of_mem_checkBrackets {text : List Char} {p : Problem × Nat}
    (h : p ∈ checkBrackets text) : p.1.concern = .brackets := by
  obtain ⟨_, -, hp⟩ := List.mem_flatMap.mp h
  exact concern_of_mem_bracketProblems hp

lemma concern_of_mem_checkDeclaration {opener : Token} {body : List Token} {p : Problem × Nat}
    (h : p ∈ checkDeclaration opener body) : p.1.concern = .declaration := by
  unfold checkDeclaration at h
  split at h
  next =>
    obtain rfl := List.mem_singleton.mp h
    rfl
  next =>
    split at h
    · obtain rfl := List.mem_singleton.mp h
      rfl
    · rcases List.mem_append.mp h with h | h
      · exact concern_of_mem_ite_not h
      · exact concern_of_mem_ite h

lemma concern_of_mem_checkPresence {keyword : Option String} {zone : Zone}
    {problem : String → Problem} {body : List Token} {p : Problem × Nat}
    (h : p ∈ checkPresence keyword zone problem body) {concern : Concern}
    (hproblem : ∀ name, (problem name).concern = concern) : p.1.concern = concern := by
  unfold checkPresence at h
  split at h
  next => cases h
  next name =>
    split at h
    · obtain rfl := List.mem_singleton.mp h
      exact hproblem name
    · cases h

lemma concern_of_mem_checkOrder {relation parameter trigger : Option Token} {p : Problem × Nat}
    (h : p ∈ checkOrder relation parameter trigger) : p.1.concern = .order := by
  simp only [checkOrder, List.mem_append] at h
  rcases h with (h | h) | h
  all_goals
    split at h
    · exact concern_of_mem_ite h
    · cases h

lemma concern_of_mem_checkPairs {tokens : List Token} {p : Problem} (h : p ∈ checkPairs tokens) :
    p.concern = .effect := by
  fun_induction checkPairs tokens with
  | case1 => cases h
  | case2 =>
    obtain rfl := List.mem_singleton.mp h
    rfl
  | case3 _ _ _ _ _ ih => exact ih h
  | case4 _ _ _ _ _ ih | case5 _ _ _ ih =>
    rcases List.mem_cons.mp h with rfl | h
    · rfl
    · exact ih h

lemma concern_of_mem_checkEffect {parameter : Token} {trigger : Option Token} {rest : List Token}
    {p : Problem × Nat} (h : p ∈ checkEffect parameter trigger rest) : p.1.concern = .effect := by
  unfold checkEffect at h
  split at h
  next =>
    obtain rfl := List.mem_singleton.mp h
    rfl
  next =>
    obtain ⟨q, hq, rfl⟩ := List.mem_map.mp h
    exact concern_of_mem_checkPairs hq

/-- The zones are checked for their order and one by one. -/
lemma checkZones_eq (keyword : Option String) (body : List Token) :
    ∃ order target output,
      checkZones keyword body = order ++ target ++
        (match splitAt? .parameter body with
        | none => checkPresence keyword .effect .effectRequired body
        | some (t, rest) => checkEffect t ((splitAt? .trigger body).map (·.1)) rest) ++ output ∧
      (∀ p ∈ order, p.1.concern = .order) ∧ (∀ p ∈ target, p.1.concern = .target) ∧
      ∀ p ∈ output, p.1.concern = .output := by
  refine ⟨_, _, _, rfl, fun p => concern_of_mem_checkOrder, ?_, ?_⟩
  · intro p h
    split at h
    · exact concern_of_mem_checkPresence h fun _ => rfl
    · exact concern_of_mem_ite_not h
  · intro p h
    split at h
    · exact concern_of_mem_checkPresence h fun _ => rfl
    · exact concern_of_mem_ite_not h

lemma concern_of_mem_checkZones {keyword : Option String} {body : List Token} {p : Problem × Nat}
    (h : p ∈ checkZones keyword body) :
    p.1.concern ∈ [Concern.order, .target, .effect, .output] := by
  obtain ⟨order, target, output, heq, horder, htarget, houtput⟩ := checkZones_eq keyword body
  simp only [heq, List.mem_append] at h
  rcases h with ((h | h) | h) | h
  · simp [horder p h]
  · simp [htarget p h]
  · have heffect : p.1.concern = .effect := by
      split at h
      · exact concern_of_mem_checkPresence h fun _ => rfl
      · exact concern_of_mem_checkEffect h
    simp [heffect]
  · simp [houtput p h]

lemma concern_of_mem_enter {opener : Token} {depth : Nat} {keyword : Option String} {stack : Stack}
    {p : Problem × Nat} (h : p ∈ (enter opener depth keyword stack).1) :
    p.1.concern = .hierarchy := by
  unfold enter at h
  dsimp only at h
  split at h
  next => exact concern_of_mem_ite h
  next name _ =>
    split at h
    · rcases List.mem_append.mp h with h | h
      · exact concern_of_mem_ite h
      · obtain rfl := List.mem_singleton.mp h
        rfl
    · split at h
      · rcases List.mem_append.mp h with h | h
        · exact concern_of_mem_ite h
        · exact concern_of_mem_ite h
      · exact concern_of_mem_ite h

end Grammar

end BlockScript
