import BlockScript.Pattern.Searcher
import BlockScript.Processor
import BlockScript.Proofs.Recovery.Accounting
import BlockScript.Proofs.Sentence.Reading

/-!
# Processing sentences

Every well-formed sentence goes through all stages: it compiles to one instruction without a single
diagnostic, and processing it gives one directive, with the target, the first action, the options and
the outcome that the sentence has (`Processor.process_sentence`).
-/

namespace BlockScript

variable {w : Sentence}

/-! ### Extraction -/

namespace Statement.Says

variable {s : Statement}

lemma gate? (h : s.Says w) (hw : w.WellFormed) : s.gate? = none := by
  have hne : s.keyword ≠ some Keyword.conditional := by
    rw [h.keyword]
    exact fun heq => hw.plain.1 (Option.some.inj heq)
  rw [Statement.gate?, if_neg hne]

lemma doubts (h : s.Says w) (hw : w.WellFormed) : s.doubts w.keyword = [] := by
  have houtput : ¬ (Keyword.needs w.keyword .output = true ∧ w.outcome = none) := by
    rintro ⟨hneeds, hnone⟩
    exact absurd (hw.required hneeds) (by simp [hnone])
  simp [Statement.doubts, hw.isKnown, hw.plain.1, h.effect, h.outcome, houtput]

lemma numbersFit (h : s.Says w) (hw : w.WellFormed) : s.NumbersFit := by
  obtain ⟨raw, htarget⟩ := h.target
  constructor
  · intro z hz a ha
    rw [htarget] at hz
    cases hz
    exact (hw.argument a ha).digits
  · intro z hz o ho
    rw [h.effect] at hz
    cases hz
    obtain ⟨p, hp, rfl⟩ := List.mem_map.mp ho
    exact (hw.options p hp).digits

lemma usable? (h : s.Says w) (hw : w.WellFormed) :
    ∃ raw, s.usable? = some (w.keyword, ⟨w.function, w.argument, raw⟩) := by
  obtain ⟨raw, htarget⟩ := h.target
  have hfunction : w.function ≠ "" := by
    intro heq
    have := hw.function
    rw [heq] at this
    exact absurd this (by decide)
  exact ⟨raw, usable?_eq_some_iff.mpr ⟨h.keyword, htarget, hfunction⟩⟩

end Statement.Says

/-- Whether an instruction does what a sentence says, with its target and its options read. -/
structure Instruction.Does (i : Instruction) (w : Sentence) (selector : Selector)
    (parameters : Entries Scalar) : Prop where
  bucket : i.bucket = Keyword.bucketOf w.keyword
  target : i.target = selector
  effect : i.effect = some ⟨w.action, parameters⟩
  outcome : i.outcome = w.outcome
  conditions : i.conditions = []

/-- The statement of a sentence is extracted as one instruction. -/
lemma Extraction.exists_ofBlock_sentence {s : Statement} (h : s.Says w) (hw : w.WellFormed)
    (id : String) :
    ∃ i selector parameters, ofBlock id ⟨[s]⟩ = .ok ⟨[i], [], []⟩ ∧ i.Does w selector parameters ∧
      Selector.normalize w.function w.argument none = .ok selector ∧
      List.Forall₂ (fun p q => q.1 = p.1 ∧ readOption p.2 = .ok q.2) w.pairs parameters := by
  obtain ⟨raw, husable⟩ := h.usable? hw
  obtain ⟨-, htarget, -⟩ := Statement.usable?_eq_some_iff.mp husable
  obtain ⟨i, hi⟩ := Statement.exists_instruction id none [] w.keyword [] (h.numbersFit hw) htarget
  have hblock : ofBlock id ⟨[s]⟩ = .ok ⟨[i], [], []⟩ := by
    change ofForest id none [] (.tree s .nil .nil) = _
    simp only [ofForest, husable, Forest.roots, hi, h.doubts hw]
    rfl
  obtain ⟨selector, hselector, effect, heffect, rfl⟩ := Statement.instruction_ok_iff.mp hi
  rw [Statement.readEffect?, h.effect] at heffect
  obtain ⟨parameters, hparameters, hread⟩ := bind_ok_iff.mp heffect
  have hlabel : s.label? = none := by
    rw [Statement.label?, h.keyword]
    simp [hw.plain.2]
  refine ⟨_, selector, parameters, hblock, ⟨rfl, rfl, ?_, h.outcome, ?_⟩, hselector,
    forall₂_of_mapM_entries hparameters⟩
  · exact (pure_ok_iff.mp hread).symm
  · simp [Condition.ofStatement, h.gate? hw, hlabel]

/-! ### Compilation -/

namespace Compilation

/-- A single instruction that sets something is left as it is. -/
lemma select_of_isLive {i : Instruction} (h : i.isLive = true) (optimize : Bool) :
    (select optimize [i]).1 = [i] := by
  cases optimize with
  | false => rfl
  | true =>
    simp only [select, if_true, Optimization.optimizeWithReport, List.filter_cons_of_pos h,
      List.filter_nil]
    exact List.mergeSort_singleton i

/-- Whether a compilation is one instruction, without diagnostics. -/
structure Only (c : Compilation) (i : Instruction) : Prop where
  diagnostics : c.diagnostics = []
  instructions : c.instructions = [i]
  fallback : c.fallback = false

/-- A sentence compiles to one instruction, without diagnostics. -/
lemma exists_ofSource_sentence (hw : w.WellFormed) {width : Nat} (hwidth : 1 ≤ width) (id : String) :
    ∃ i selector parameters, i.Does w selector parameters ∧
      Selector.normalize w.function w.argument none = .ok selector ∧
      List.Forall₂ (fun p q => q.1 = p.1 ∧ readOption p.2 = .ok q.2) w.pairs parameters ∧
      ∀ optimize, ∃ c, (ofSource width false optimize id [w.line]).value = .ok c ∧ c.Only i := by
  obtain ⟨s, hline, hs⟩ := Statement.exists_ofLine_sentence hw width 1
  obtain ⟨i, selector, parameters, hextraction, hdoes, hselector, hparameters⟩ :=
    Extraction.exists_ofBlock_sentence hs hw id
  have hblock : Block.ofLines width [w.line] = ⟨[s]⟩ := by
    rw [Block.ofLines, Statement.ofLines, Statement.ofLinesFrom, hline]
    rfl
  have hlive : i.isLive = true := by
    rw [Instruction.isLive, hdoes.effect]
    cases hparameters
    rfl
  refine ⟨i, selector, parameters, hdoes, hselector, hparameters, fun optimize => ?_⟩
  have hselect := select_of_isLive hlive optimize
  have hsort : Diagnostic.sort [] = [] := List.mergeSort_nil
  refine ⟨assemble false optimize id [⟨1, [], []⟩] ⟨[w.line], [], []⟩ ⟨[s]⟩ ⟨[i], [], []⟩, ?_, ?_⟩
  · have hverdicts := Grammar.validateLines_sentence hw hwidth 1
    have hrecovery : Recovery.ofSource width false id (badLines [⟨1, [], []⟩]) [w.line] =
        ⟨[w.line], [], []⟩ := rfl
    simp only [ofSource, ofVerdicts, hverdicts, hrecovery, hblock, hextraction]
  · have hnone : (assemble false optimize id [⟨1, [], []⟩] ⟨[w.line], [], []⟩ ⟨[s]⟩
        ⟨[i], [], []⟩).diagnostics = [] := by
      simp [assemble, Grammar.Verdict.diagnostics, hsort]
    refine ⟨hnone, hselect, ?_⟩
    change ((assemble false optimize id [⟨1, [], []⟩] ⟨[w.line], [], []⟩ ⟨[s]⟩
      ⟨[i], [], []⟩).diagnostics.any _ && _) = false
    rw [hnone]
    rfl

end Compilation

/-! ### Execution -/

/-- The parameters of a sentence. Where state is kept, its outcome is one of them. -/
def Sentence.withOutcome (w : Sentence) (parameters : Entries Scalar) : Entries Scalar :=
  match w.outcome with
  | some outcome =>
    if Keyword.bucketOf w.keyword = .state then parameters.put "outcome" (.text outcome) else parameters
  | none => parameters

lemma Handlers.find_default (bucket : Bucket) :
    default.find bucket = if bucket = .state then .emitState else .emitEffect := by
  by_cases h : bucket = .state
  · simp [find, default, h]
  · simp [find, default, h, Ne.symm h]

namespace Execution

variable {i : Instruction} {selector : Selector} {parameters : Entries Scalar}

/-- Carrying out what a sentence says gives its directive. -/
lemma carryOut_of_does (h : i.Does w selector parameters) (context : Context) :
    carryOut .default context i =
      .ok (pure (.applied [⟨selector.text, w.action, w.withOutcome parameters, i.id⟩])) := by
  have hreply : (Handlers.default.find i.bucket i context).reply.directives =
      .ok [⟨selector.text, w.action, w.withOutcome parameters, i.id⟩] := by
    have hdirective : Handler.directive? i = some ⟨selector.text, w.action, parameters, i.id⟩ := by
      rw [Handler.directive?, h.effect, h.target]
    rw [Handlers.find_default, h.bucket, Sentence.withOutcome]
    split
    next hstate =>
      rw [Handler.emitState, hdirective, h.outcome]
      cases w.outcome <;> simp [Handler.replyOf, Response.reply, Reply.directives]
    next hstate =>
      rw [Handler.emitEffect, hdirective]
      cases w.outcome <;> simp [Handler.replyOf, Response.reply, Reply.directives]
  rw [carryOut, hreply]

/-- Without conditions, an instruction is carried out. -/
lemma answer_run_of_does [Searcher] (h : i.Does w selector parameters) (context : Context) (block : String)
    (timing : Timing) (v : Evaluator) :
    (run .default context block timing [i] v).answer =
      .ok ⟨[(i.id, .applied [⟨selector.text, w.action, w.withOutcome parameters, i.id⟩])]⟩ := by
  have hfate : (runOne .default context block (timing.gates 0) i v).answer =
      .ok (.applied [⟨selector.text, w.action, w.withOutcome parameters, i.id⟩]) := by
    simp only [runOne, h.conditions, Evaluator.evaluateAll, carryOut_of_does h context]
    rfl
  simp only [run, runFrom, hfate]
  rfl

end Execution

/-! ### The whole way -/

namespace Processor

/-- Every well-formed sentence works. With the default settings and handlers it compiles, with and
without optimization, to one instruction and no diagnostics, and processing it succeeds with one
directive: its target is that of the sentence, its effect the first action, and its parameters the
options of the actions, each read as a value, and the outcome where state is kept. -/
theorem process_sentence [Searcher] (hw : w.WellFormed) {p : Processor} (hsettings : p.settings = .default)
    (hhandlers : p.handlers = .default) (id : String) (context : Context) (timing : Execution.Timing) :
    ∃ i selector parameters,
      Selector.normalize w.function w.argument none = .ok selector ∧
      List.Forall₂ (fun pair q => q.1 = pair.1 ∧ readOption pair.2 = .ok q.2) w.pairs parameters ∧
      (∀ optimize, ∃ c, (p.compile [w.line] id optimize).value = .ok c ∧ c.diagnostics = [] ∧
        c.instructions = [i]) ∧
      ∃ c e, (p.process [w.line] id context timing).answer = .ok ⟨c, some e⟩ ∧
        Processed.success ⟨c, some e⟩ = true ∧
        e.directives = [⟨selector.text, w.action, w.withOutcome parameters, i.id⟩] := by
  have hstrict : Settings.default.strict = .ok false := by decide +kernel
  have hwidth : Settings.default.indentWidth = .ok 2 := by decide +kernel
  have haliases : Settings.default.aliases = .ok [] := by decide +kernel
  have hvalue : ∀ optimize, (p.compile [w.line] id optimize).value =
      (Compilation.ofSource 2 false optimize id [w.line]).value.mapError .number := by
    intro optimize
    rw [compile, hsettings, Compilation.value_ofLines hstrict hwidth haliases, if_neg]
    · rfl
    · exact fun hlimit => absurd hlimit.1 (by decide)
  obtain ⟨i, selector, parameters, hdoes, hselector, hparameters, hcompile⟩ :=
    Compilation.exists_ofSource_sentence hw (show 1 ≤ 2 by decide) id
  have hcompiled : ∀ optimize, ∃ c, (p.compile [w.line] id optimize).value = .ok c ∧ c.Only i := by
    intro optimize
    obtain ⟨c, hc, honly⟩ := hcompile optimize
    exact ⟨c, by rw [hvalue, hc]; rfl, honly⟩
  refine ⟨i, selector, parameters, hselector, hparameters, fun optimize => ?_, ?_⟩
  · obtain ⟨c, hc, honly⟩ := hcompiled optimize
    exact ⟨c, hc, honly.diagnostics, honly.instructions⟩
  · obtain ⟨c, hc, honly⟩ := hcompiled true
    have hrun := Execution.answer_run_of_does hdoes context id timing p.evaluator
    refine ⟨c, ⟨[(i.id, .applied [⟨selector.text, w.action, w.withOutcome parameters, i.id⟩])]⟩,
      ?_, ?_, rfl⟩
    · simp only [process, hc, honly.fallback, honly.instructions, hhandlers, hrun]
      rfl
    · rw [Processed.success, honly.fallback]
      rfl

open scoped Pattern

/-- Operators and other brackets inside the blocks are part of their texts, and the outcome is kept. -/
theorem process_sentence_store :
    let w : Sentence := ⟨"store", ["a // b"], "text", some "2-4", "keep[x]", "-> 12%", [("size", "12")],
      some "kept(all)"⟩
    let p : Processor := ⟨.default, .default, .default, .start none⟩
    w.line = ":: store[a // b] // text[2-4] % " ++
      "\x7bkeep[x]\x7d(-> 12%) \x7bsize\x7d(12) -> \x7bkept(all)\x7d" ∧
    ∃ c e id, (p.process [w.line] "menu" .default ⟨fun _ _ => .at (.ofInt 0), "0.01"⟩).answer =
        .ok ⟨c, some e⟩ ∧
      e.directives = [⟨"text[2-4]", "keep[x]",
        [("keep[x]", .text "-> 12%"), ("size", .int 12), ("outcome", .text "kept(all)")], id⟩] := by
  intro w p
  have hinner : ∀ {pair s}, (s ≠ "" ∧ Text.trim s = s ∧ '\t' ∉ s.toList ∧ pair.1 ∉ s.toList ∧
      pair.2 ∉ s.toList ∧ (∀ other ∈ Grammar.bracketPairs, other ≠ pair → Balanced other s.toList) ∧
      s.toList.length ≤ digitLimit) → Inner pair s :=
    fun ⟨h1, h2, h3, h4, h5, h6, h7⟩ => ⟨h1, h2, h3, h4, h5, h6, .of_length_le h7⟩
  have hw : w.WellFormed := {
    keyword := by decide
    plain := by decide
    subjects := List.forall_mem_singleton.mpr (hinner (by decide))
    function := by decide
    argument := by rintro _ ⟨⟩; exact hinner (by decide)
    actions := List.forall_mem_cons.mpr
      ⟨hinner (by decide), List.forall_mem_singleton.mpr (hinner (by decide))⟩
    options := List.forall_mem_cons.mpr
      ⟨hinner (by decide), List.forall_mem_singleton.mpr (hinner (by decide))⟩
    distinct := by unfold Entries.Distinct; decide
    outcome := by rintro _ ⟨⟩; exact hinner (by decide)
    required := by decide }
  obtain ⟨i, selector, parameters, hselector, hparameters, -, c, e, hanswer, -, hdirectives⟩ :=
    process_sentence hw (p := p) rfl rfl "menu" .default ⟨fun _ _ => .at (.ofInt 0), "0.01"⟩
  refine ⟨by decide +kernel, c, e, i.id, hanswer, ?_⟩
  have htarget : (Selector.normalize w.function w.argument none).map (·.text) = .ok "text[2-4]" := by
    decide +kernel
  rw [hselector] at htarget
  have htarget : selector.text = "text[2-4]" := Except.ok.inj htarget
  have hoption : readOption "-> 12%" = .ok (.text "-> 12%") ∧ readOption "12" = .ok (.int 12) := by
    decide +kernel
  obtain ⟨first, rest, ⟨hname, hfirst⟩, hrest, rfl⟩ := List.forall₂_cons_left_iff.mp hparameters
  obtain ⟨second, rest, ⟨hsecondName, hsecond⟩, hnil, rfl⟩ := List.forall₂_cons_left_iff.mp hrest
  obtain rfl := List.forall₂_nil_left_iff.mp hnil
  have hfirst : first = ("keep[x]", .text "-> 12%") :=
    Prod.ext hname (Except.ok.inj (hfirst.symm.trans hoption.1))
  have hsecond : second = ("size", .int 12) :=
    Prod.ext hsecondName (Except.ok.inj (hsecond.symm.trans hoption.2))
  have houtcome : w.withOutcome [("keep[x]", .text "-> 12%"), ("size", .int 12)] =
      [("keep[x]", .text "-> 12%"), ("size", .int 12), ("outcome", .text "kept(all)")] := by
    decide +kernel
  rw [hdirectives, htarget, hfirst, hsecond, houtcome]

end Processor

end BlockScript
