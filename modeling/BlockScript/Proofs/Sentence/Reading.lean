import BlockScript.Proofs.Sentence.Validation
import BlockScript.Proofs.Statement.Source

/-!
# Reading sentences

A well-formed sentence is read as the statement that it spells (`Statement.exists_ofLine_sentence`).
-/

namespace BlockScript

variable {w : Sentence}

namespace Sentence

/-- The statement that a sentence spells. -/
def statement (w : Sentence) : Statement where
  operator := .root
  keyword := some w.keyword
  condition := none
  subjects := w.subjects
  target := some ⟨w.function, w.argument, ""⟩
  effect := some ⟨some w.action, w.pairs⟩
  outcome := w.outcome
  depth := 0
  line := 0
  column := 0

lemma WellFormed.statement (h : w.WellFormed) : w.statement.WellFormed where
  keyword := ⟨w.keyword, rfl, Keyword.isName_of_mem_table h.keyword⟩
  condition := by rintro _ ⟨⟩
  subjects := fun v hv => (h.subjects v hv).piece
  target := by
    rintro _ ⟨⟩
    exact ⟨h.function, fun v hv => (h.argument v hv).piece⟩
  effect := by
    rintro _ ⟨⟩
    refine ⟨h.distinct, fun p hp => (h.actions p hp).piece, fun p hp => (h.options p hp).piece, ?_, ?_⟩
    · rintro _ ⟨⟩
      rfl
    · rintro _ ⟨⟩
      exact (h.actions (w.action, w.option) List.mem_cons_self).piece
  outcome := fun o ho => (h.outcome o ho).piece

lemma words_statement (w : Sentence) : w.statement.words = w.words := by
  have hpairs : EffectZone.words ⟨some w.action, w.pairs⟩ = [⟨.parameter, "%"⟩] ::
      w.pairs.map fun p => [⟨.actionBlock, p.1⟩, ⟨.optionBlock, p.2⟩] := rfl
  simp only [statement, Statement.words, Option.toList_some, List.flatMap_singleton, hpairs]
  rfl

lemma source_statement (h : w.WellFormed) : w.statement.source = w.line := by
  have hsign : w.statement.operator.spelling.toList = [':', ':'] := by
    simp [statement, Operator.spelling]
  refine String.toList_injective ?_
  rw [h.statement.toList_source, line, String.toList_ofList, words_statement, hsign]
  rfl

end Sentence

namespace Statement

/-- Whether a statement says what a sentence says. -/
structure Says (s : Statement) (w : Sentence) : Prop where
  keyword : s.keyword = some w.keyword
  target : ∃ raw, s.target = some ⟨w.function, w.argument, raw⟩
  subjects : s.subjects = w.subjects
  effect : s.effect = some ⟨some w.action, w.pairs⟩
  outcome : s.outcome = w.outcome

lemma Agrees.says {s : Statement} (h : s.Agrees w.statement) : s.Says w := by
  refine ⟨h.keyword, ?_, h.subjects, h.effect, h.outcome⟩
  obtain ⟨z, hz, heq⟩ := Option.map_eq_some_iff.mp h.target
  obtain ⟨hfunction, hargument⟩ : z.function = w.function ∧ z.argument = w.argument :=
    Prod.mk.inj heq
  exact ⟨z.raw, by rw [hz, ← hfunction, ← hargument]⟩

/-- A sentence gives one statement, which says the same. -/
theorem exists_ofLine_sentence (h : w.WellFormed) (width : Nat) (line : Int) :
    ∃ s : Statement, ofLine width line w.line = [s] ∧ s.Says w := by
  obtain ⟨s, hline, hs⟩ := exists_ofLine_source h.statement width line
  rw [Sentence.source_statement h] at hline
  exact ⟨s, hline, hs.says⟩

end Statement

end BlockScript
