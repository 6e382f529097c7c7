import BlockScript.Evaluator
import BlockScript.Pattern.Searcher
import BlockScript.Proofs.Entries
import BlockScript.Proofs.Text

/-!
# Topics of expressions

An expression sees the facts under the first step of its path and no others. That step, in lower case,
gives its topic, so what is different on one topic only does not show in expressions on any other
(`Expression.outcome_of_differOnlyIn`): an expression on any topic but interaction has the same answer
whatever is hovered, clicked or focused (`Expression.decide_override`). An expression that cannot be
read has no topic.
-/

namespace BlockScript

/-! ### What an expression sees -/

namespace Expression

variable {e : Expression} {facts facts' : Entries Value}

lemma steps_ne_nil (cs : List Char) : steps cs ≠ [] := by
  cases cs with
  | nil => simp [steps]
  | cons c cs =>
    rw [steps]
    split
    · simp
    · split <;> simp

/-- The topic of an expression is that of the first step of its path. -/
lemma exists_root (e : Expression) :
    ∃ root rest, e.pathSteps = root :: rest ∧ e.topic = .ofRoot (Text.lower root) := by
  obtain ⟨step, rest, hsteps⟩ := List.exists_cons_of_ne_nil (steps_ne_nil e.path.toList)
  refine ⟨String.ofList step, rest.map String.ofList, ?_, ?_⟩
  · rw [pathSteps, hsteps, List.map_cons]
  · simp [topic, pathSteps, hsteps]

/-- Facts that agree under all names of a topic give its paths the same values. -/
lemma value?_congr
    (h : ∀ root, Topic.ofRoot (Text.lower root) = e.topic → facts.get? root = facts'.get? root) :
    e.value? facts = e.value? facts' := by
  obtain ⟨root, rest, hsteps, htopic⟩ := e.exists_root
  have hroot := h root htopic.symm
  simp only [value?, hsteps, Value.follow?, Value.field?, hroot]

/-- The value of its path is all that an expression sees. -/
lemma eval_congr [Searcher] (h : e.value? facts = e.value? facts') : e.eval facts = e.eval facts' := by
  unfold eval
  rw [h]

lemma topicOf_of_read {text : String} (h : read text = .ok e) : topicOf text = .ok e.topic := by
  rw [topicOf, h]
  rfl

/-- An expression as it is written comes to the same over facts that agree on its topic. -/
lemma outcome_congr [Searcher] {text : String}
    (h : ∀ root, topicOf text = .ok (.ofRoot (Text.lower root)) → facts.get? root = facts'.get? root) :
    (numeric (read text)).bind (eval facts) = (numeric (read text)).bind (eval facts') := by
  cases hread : read text with
  | error error => rfl
  | ok e =>
    show e.eval facts = e.eval facts'
    apply eval_congr
    apply value?_congr
    intro root hroot
    apply h
    rw [topicOf_of_read hread, hroot]

lemma decide_congr [Searcher] {text : String} {topic : Topic} (htopic : topicOf text = .ok topic)
    (h : ∀ root, Topic.ofRoot (Text.lower root) = topic → facts.get? root = facts'.get? root) :
    Expression.decide facts text = Expression.decide facts' text := by
  rw [Expression.decide, Expression.decide, outcome_congr]
  intro root hroot
  apply h
  exact Except.ok.inj (hroot.symm.trans htopic)

end Expression

/-! ### Contexts that differ in one topic -/

/-- The names that facts stand under are in lower case themselves. -/
lemma Topic.ofRoot_lower_names :
    ∀ entry ∈ [("hover", interaction), ("click", interaction), ("focus", interaction),
        ("interaction", interaction), ("time", time), ("hour", time), ("minute", time),
        ("weekday", time), ("iso", time), ("theme", theme), ("file", file), ("viewport", other),
        ("block", other), ("user", other)],
      Topic.ofRoot (Text.lower entry.1) = entry.2 := by
  decide +kernel

namespace Context

variable {c c' : Context} {topic : Topic}

/-- Whether two contexts are the same but for what they say on a topic. -/
def DifferOnlyIn (c c' : Context) : Topic → Prop
  | .interaction => ∃ interaction, c' = { c with interaction := interaction }
  | .time => ∃ clock, c' = { c with clock := clock }
  | .theme => ∃ theme, c' = { c with theme := theme }
  | .file => ∃ file, c' = { c with file := file }
  | .other => ∃ viewport user block, c' = { c with viewport := viewport, user := user, block := block }

lemma differOnlyIn_override (c : Context) (o o' : Overlay) :
    DifferOnlyIn (c.override o) (c.override o') .interaction :=
  ⟨o'.apply c.interaction, rfl⟩

/-- No part of a context gives facts on two topics. -/
lemma DifferOnlyIn.filter_facts (h : c.DifferOnlyIn c' topic) :
    c.facts.filter (fun e => Topic.ofRoot (Text.lower e.1) ≠ topic) =
      c'.facts.filter (fun e => Topic.ofRoot (Text.lower e.1) ≠ topic) := by
  have hnames := Topic.ofRoot_lower_names
  simp only [List.forall_mem_cons, List.not_mem_nil, false_implies, implies_true, and_true] at hnames
  cases topic with
  | interaction =>
    obtain ⟨interaction, rfl⟩ := h
    simp [facts, interactionFacts, hnames, isDark]
  | time =>
    obtain ⟨clock, rfl⟩ := h
    simp [facts, hnames, isDark]
  | theme =>
    obtain ⟨theme, rfl⟩ := h
    simp [facts, hnames]
  | file =>
    obtain ⟨file, rfl⟩ := h
    cases hfile : c.file <;> cases file <;> simp [facts, hfile, hnames, isDark]
  | other =>
    obtain ⟨viewport, user, block, rfl⟩ := h
    cases huser : c.user <;> cases user <;> simp [facts, huser, hnames, isDark]

/-- What stands under a name on another topic is the same. -/
lemma DifferOnlyIn.get?_facts (h : c.DifferOnlyIn c' topic) {root : String}
    (hroot : Topic.ofRoot (Text.lower root) ≠ topic) : c.facts.get? root = c'.facts.get? root := by
  let onOther (name : String) : Bool := Topic.ofRoot (Text.lower name) ≠ topic
  have hother : onOther root = true := by simpa [onOther] using hroot
  calc c.facts.get? root
      = Entries.get? (c.facts.filter (onOther ·.1)) root := (Entries.get?_filter hother _).symm
    _ = Entries.get? (c'.facts.filter (onOther ·.1)) root := by rw [h.filter_facts]
    _ = c'.facts.get? root := Entries.get?_filter hother _

end Context

namespace Expression

/-- Expressions on other topics do not see interactions. -/
theorem decide_override [Searcher] {text : String} {topic : Topic}
    (htopic : topicOf text = .ok topic) (hother : topic ≠ .interaction) (c : Context)
    (o o' : Overlay) :
    Expression.decide (c.override o).facts text = Expression.decide (c.override o').facts text := by
  apply decide_congr htopic
  intro root hroot
  apply (c.differOnlyIn_override o o').get?_facts
  rwa [hroot]

/-- An expression that is not on a topic comes to the same over contexts that differ only in it: to one
answer with the same messages, or to one error, whatever library the values are searched with. -/
theorem outcome_of_differOnlyIn [Searcher] {text : String} {topic : Topic}
    (htopic : topicOf text ≠ .ok topic) {c c' : Context} (h : c.DifferOnlyIn c' topic) :
    (numeric (read text)).bind (eval c.facts) = (numeric (read text)).bind (eval c'.facts) := by
  apply outcome_congr
  intro root hroot
  apply h.get?_facts
  rintro rfl
  exact htopic hroot

section

open scoped Pattern

/-- A field of the user is no interaction, even if it has the name of one. -/
theorem outcome_of_differOnlyIn_user :
    let c := { Context.default with user := some [("hover", Context.text "never")] }
    let hovered := { c with interaction := ⟨true, false, false⟩ }
    topicOf "user.hover ~ ev" ≠ .ok .interaction ∧ c.DifferOnlyIn hovered .interaction ∧
      (numeric (read "user.hover ~ ev")).bind (eval c.facts) =
        (numeric (read "user.hover ~ ev")).bind (eval hovered.facts) := by
  intro c hovered
  have htopic : topicOf "user.hover ~ ev" ≠ .ok .interaction := by decide +kernel
  have hdiffer : c.DifferOnlyIn hovered .interaction := ⟨⟨true, false, false⟩, rfl⟩
  exact ⟨htopic, hdiffer, outcome_of_differOnlyIn htopic hdiffer⟩

end

end Expression

/-! ### Expressions without a topic -/

/-- A number of too many digits cannot be read. -/
lemma Literal.readTrimmed_long {n : Nat} (hn : digitLimit < n) :
    readTrimmed (List.replicate n '9') = .error (.tooManyDigits n) := by
  obtain ⟨m, rfl⟩ : ∃ m, n = m + 1 := ⟨n - 1, by omega⟩
  have hunquote : unquote? (List.replicate (m + 1) '9') = none := by
    cases m <;> simp [unquote?, List.replicate_succ]
  have hminus : spanMinus (List.replicate (m + 1) '9') = (false, List.replicate (m + 1) '9') := rfl
  have hnumeral := isNumeral_replicate (Nat.succ_pos m)
  have hfirst : (Text.lower (String.ofList (List.replicate (m + 1) '9'))).toList.head? =
      some '9' := by
    simp [Text.lower, List.replicate_succ, Text.lowerFrom, Text.lowerChar]
  have hlow : ∀ word : String, word.toList.head? ≠ some '9' →
      Text.lower (String.ofList (List.replicate (m + 1) '9')) ≠ word := by
    rintro _ hword rfl
    exact hword hfirst
  rw [readTrimmed, hunquote]
  simp only [hminus, hnumeral, if_true, readDigits, List.length_replicate, if_pos hn,
    if_neg (hlow "true" (by decide)), if_neg (hlow "false" (by decide))]
  rfl

namespace Expression

lemma splitAt?_eq_none {c : Char} {rest cs : List Char} (h : c ∉ cs) :
    splitAt? (c :: rest) cs = none := by
  induction cs with
  | nil => rfl
  | cons d cs ih =>
    rw [List.mem_cons, not_or] at h
    rw [splitAt?, if_neg (by simp [h.1]), ih h.2]
    rfl

/-- A comparison with a number of too many digits has no topic. -/
lemma topicOf_long {n : Nat} (hn : digitLimit < n) :
    topicOf ("hour > " ++ String.ofList (List.replicate n '9')) = .error (.tooManyDigits n) := by
  have hblank : ∀ c ∈ List.replicate n '9', Text.isBlank c = false := fun c hc => by
    rw [List.eq_of_mem_replicate hc]
    decide
  have hne : List.replicate n '9' ≠ [] := by
    rw [Ne, List.replicate_eq_nil_iff]
    omega
  have htrimRight : ∀ front, Text.trimRight (front ++ List.replicate n '9') =
      front ++ List.replicate n '9' := fun _ => Text.trimRight_append hblank hne
  have hsplit : splitRelation? ("hour > ".toList ++ List.replicate n '9') =
      some ("hour ".toList, .comparison .gt, ' ' :: List.replicate n '9') := by
    have hnone : ∀ c rest, c ≠ '9' → splitAt? (c :: rest) (List.replicate n '9') = none :=
      fun c rest hc => splitAt?_eq_none fun hmem => hc (List.eq_of_mem_replicate hmem)
    generalize List.replicate n '9' = nines at hnone
    simp [splitRelation?, Relation.spellings, splitAt?, hnone]
  have htext : ("hour > " ++ String.ofList (List.replicate n '9')).toList =
      "hour > ".toList ++ List.replicate n '9' := by simp
  have htrim : Text.trimChars ("hour > ".toList ++ List.replicate n '9') =
      "hour > ".toList ++ List.replicate n '9' := htrimRight "hour > ".toList
  have hpath : Text.trimChars "hour ".toList = "hour".toList := by decide
  have hraw : Text.trimChars (' ' :: List.replicate n '9') = List.replicate n '9' := by
    have hleft : Text.trimLeft (' ' :: List.replicate n '9') = List.replicate n '9' := by
      obtain ⟨c, cs, hcs⟩ := List.exists_cons_of_ne_nil hne
      have hc : Text.isBlank c = false := hblank c (by simp [hcs])
      have hspace : Text.isBlank ' ' = true := by decide
      rw [Text.trimLeft, List.dropWhile_cons_of_pos hspace, hcs,
        List.dropWhile_cons_of_neg (by simp [hc])]
    rw [Text.trimChars, hleft]
    exact htrimRight []
  simp only [topicOf, read, htext, htrim, hsplit, hpath, hraw, readQuestion,
    Literal.readTrimmed_long hn, List.isEmpty_eq_false_iff.mpr hne]
  rfl

end Expression

end BlockScript
