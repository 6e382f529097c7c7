import BlockScript.Execution
import Mathlib.Logic.Basic

/-!
# Replies of handlers

A handler gives directives, or it gives none and something is said about it, or what gets out of it is
not contained (`Reply.gives_or_fails_or_escapes`). In the last case only, carrying out an instruction does
not end in a fate (`Execution.carryOut_eq_error_iff`).
-/

namespace BlockScript

namespace Reply

/-- How a reply gives directives: there is nothing, or one, or a row of them that does not break off. -/
inductive Gives : Reply → List Directive → Prop
  | nothing : Gives .nothing []
  | directive (d : Directive) : Gives (.directive d) [d]
  | row (kind : String) (ds : List Directive) : Gives (.row kind (ds.map .directive) none) ds

/-- How a reply gives no directives, and what is said about it. -/
inductive Fails : Reply → String → Prop
  | exception (message : String) : Fails (.raised (.exception message)) message
  /-- It does not matter what came before. -/
  | breakdown (kind : String) (products : List Product) (message : String) :
      Fails (.row kind products (some (.exception message))) message
  | mixed (kind : String) {products : List Product} (h : .foreign ∈ products) :
      Fails (.row kind products none) (unexpectedReply kind)
  | foreign (kind : String) : Fails (.foreign kind) (unexpectedReply kind)

/-- How something gets out of a handler, or out of the row that it gives, that is not contained. -/
inductive Escapes : Reply → String → Prop
  | raised (name : String) : Escapes (.raised (.escape name)) name
  | breakdown (kind : String) (products : List Product) (name : String) :
      Escapes (.row kind products (some (.escape name))) name

lemma mapM_directive?_cons (d : Directive) (products : List Product) :
    (.directive d :: products).mapM Product.directive? =
      (products.mapM Product.directive?).map (d :: ·) := by
  rw [List.mapM_cons]
  cases products.mapM Product.directive? <;> rfl

lemma mapM_directive?_eq_some_iff {products : List Product} {ds : List Directive} :
    products.mapM Product.directive? = some ds ↔ products = ds.map .directive := by
  induction products generalizing ds with
  | nil => cases ds <;> simp
  | cons p products ih =>
    cases p with
    | foreign => cases ds <;> simp [Product.directive?]
    | directive d =>
      rw [mapM_directive?_cons]
      cases ds with
      | nil => simp
      | cons e es => simpa [ih] using and_comm

lemma mapM_directive?_eq_none_iff {products : List Product} :
    products.mapM Product.directive? = none ↔ .foreign ∈ products := by
  induction products with
  | nil => simp
  | cons p products ih =>
    cases p with
    | foreign => simp [Product.directive?]
    | directive d =>
      rw [mapM_directive?_cons, Option.map_eq_none_iff, ih]
      simp

variable {r : Reply} {ds : List Directive} {message name : String}

lemma Gives.directives_eq (h : r.Gives ds) : r.directives = .ok ds := by
  cases h with
  | nothing => rfl
  | directive d => rfl
  | row kind ds => simp [directives, mapM_directive?_eq_some_iff.mpr rfl]

lemma Fails.directives_eq (h : r.Fails message) : r.directives = .error (.exception message) := by
  cases h with
  | exception message => rfl
  | breakdown kind products message => rfl
  | mixed kind h => simp [directives, mapM_directive?_eq_none_iff.mpr h]
  | foreign kind => rfl

lemma Escapes.directives_eq (h : r.Escapes name) : r.directives = .error (.escape name) := by
  cases h <;> rfl

lemma gives_or_fails_or_escapes (r : Reply) :
    (∃ ds, r.Gives ds) ∨ (∃ message, r.Fails message) ∨ ∃ name, r.Escapes name := by
  match r with
  | .nothing => exact .inl ⟨_, .nothing⟩
  | .directive d => exact .inl ⟨_, .directive d⟩
  | .row kind products (some (.exception message)) =>
    exact .inr (.inl ⟨_, .breakdown kind products message⟩)
  | .row kind products (some (.escape name)) =>
    exact .inr (.inr ⟨_, .breakdown kind products name⟩)
  | .row kind products none =>
    cases hrow : products.mapM Product.directive? with
    | some ds =>
      obtain rfl := mapM_directive?_eq_some_iff.mp hrow
      exact .inl ⟨ds, .row kind ds⟩
    | none =>
      have hforeign := mapM_directive?_eq_none_iff.mp hrow
      exact .inr (.inl ⟨_, .mixed kind hforeign⟩)
  | .foreign kind => exact .inr (.inl ⟨_, .foreign kind⟩)
  | .raised (.exception message) => exact .inr (.inl ⟨_, .exception message⟩)
  | .raised (.escape name) => exact .inr (.inr ⟨_, .raised name⟩)

lemma directives_eq_escape_iff : r.directives = .error (.escape name) ↔ r.Escapes name := by
  refine ⟨fun h => ?_, Escapes.directives_eq⟩
  rcases r.gives_or_fails_or_escapes with ⟨es, hr⟩ | ⟨message, hr⟩ | ⟨other, hr⟩
  · exact absurd (hr.directives_eq.symm.trans h) (by simp)
  · exact absurd (hr.directives_eq.symm.trans h) (by simp)
  · obtain rfl := Raised.escape.inj (Except.error.inj (hr.directives_eq.symm.trans h))
    exact hr

end Reply

namespace Execution

variable {handlers : Handlers} {context : Context} {i : Instruction} {done : Logged Fate}

/-- An instruction is not carried out if and only if something gets out of its handler. -/
lemma carryOut_eq_error_iff {name : String} :
    carryOut handlers context i = .error name ↔
      (handlers.find i.bucket i context).reply.Escapes name := by
  rw [← Reply.directives_eq_escape_iff]
  unfold carryOut
  split
  next h => simp [h]
  next h => simp [h]
  next h => simp [h]

/-- An instruction that is carried out is not skipped. -/
lemma isSkipped_of_carryOut (h : carryOut handlers context i = .ok done) :
    done.value.isSkipped = false := by
  unfold carryOut at h
  split at h
  · obtain rfl := Except.ok.inj h
    rfl
  · obtain rfl := Except.ok.inj h
    rfl
  · simp at h

end Execution

end BlockScript
