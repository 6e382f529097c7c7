import BlockScript.Proofs.Branches
import BlockScript.Proofs.Evaluator.Gates
import BlockScript.Proofs.Execution.Replies

/-!
# Exclusion of branches

In a run the branch that is taken when a condition holds and one that is taken when it fails exclude
each other (`Execution.branches_exclusive`), however long the handlers and the evaluations take: no answer
changes while they do, unless one lapses that the run has found in the cache and that is not right any
more.
-/

namespace BlockScript

namespace Execution

/-! ### The clock during a run -/

/-- The readings of the clock while the gates of instructions are evaluated, from place `n` of a run on. -/
def Timing.readings (timing : Timing) : (n : Nat) → List Instruction → List Double
  | _, [] => []
  | n, i :: is =>
    Evaluator.gateReadings (timing.gates n) i.conditions ++ timing.readings (n + 1) is

lemma Timing.readings_append (timing : Timing) (n : Nat) (is js : List Instruction) :
    timing.readings n (is ++ js) = timing.readings n is ++ timing.readings (n + is.length) js := by
  induction is generalizing n with
  | nil => rfl
  | cons i is ih =>
    rw [List.cons_append, readings, readings, ih, List.append_assoc, List.length_cons,
      Nat.add_right_comm, Nat.add_assoc]

lemma Timing.mem_readings {timing : Timing} {n k : Nat} {is : List Instruction} {i : Instruction}
    {t : Double} (hi : is[k]? = some i)
    (ht : t ∈ Evaluator.gateReadings (timing.gates (n + k)) i.conditions) :
    t ∈ timing.readings n is := by
  induction is generalizing n k with
  | nil => simp at hi
  | cons j is ih =>
    rw [readings, List.mem_append]
    cases k with
    | zero =>
      obtain rfl : j = i := by simpa using hi
      exact .inl ht
    | succ k =>
      rw [Nat.add_comm k 1, ← Nat.add_assoc] at ht
      exact .inr (ih hi ht)

/-- The readings before a place of a run, at it, and after it. -/
lemma Timing.readings_of_getElem? (timing : Timing) {n : Nat} {is : List Instruction} {i : Instruction}
    (hi : is[n]? = some i) :
    timing.readings 0 is = timing.readings 0 (is.take n) ++
      (Evaluator.gateReadings (timing.gates n) i.conditions ++
        timing.readings (n + 1) (is.drop (n + 1))) := by
  obtain ⟨hn, rfl⟩ := List.getElem?_eq_some_iff.mp hi
  have hlength : (is.take n).length = n := List.length_take_of_le hn.le
  calc timing.readings 0 is
      = timing.readings 0 (is.take n ++ is.drop n) := by rw [List.take_append_drop]
    _ = timing.readings 0 (is.take n) ++ timing.readings n (is.drop n) := by
      rw [readings_append, hlength, Nat.zero_add]
    _ = _ := by rw [List.drop_eq_getElem_cons hn, readings]

/-- What is asked at a place of a run is asked later than what is asked at an earlier one. -/
lemma Timing.asked_ge_of_lt {timing : Timing} {is : List Instruction}
    (hclock : Evaluator.Forward (timing.readings 0 is)) {m n : Nat} (hmn : m < n)
    {i j : Instruction} (hi : is[m]? = some i) (hj : is[n]? = some j) {k : Nat}
    (hik : k < i.conditions.length) (hjk : k < j.conditions.length) :
    (timing.gates n k).asked.ge (timing.gates m k).asked = true := by
  have hi : (is.take n)[m]? = some i := by rw [List.getElem?_take_of_lt hmn, hi]
  rw [timing.readings_of_getElem? hj] at hclock
  refine (List.pairwise_append.mp hclock).2.2 _ (mem_readings hi ?_) _
    (List.mem_append_left _ ?_)
  · rw [Nat.zero_add]
    exact Evaluator.mem_gateReadings.mpr ⟨k, hik, Moment.asked_mem_readings _⟩
  · exact Evaluator.mem_gateReadings.mpr ⟨k, hjk, Moment.asked_mem_readings _⟩

section

variable [Searcher] {handlers : Handlers} {context : Context} {block : String} {timing : Timing}
  {is : List Instruction} {i : Instruction} {v : Evaluator} {n : Nat}

/-! ### Places of a run -/

/-- The evaluator with which a run gets to a place. -/
def evaluatorAt (handlers : Handlers) (context : Context) (block : String) (timing : Timing)
    (is : List Instruction) (v : Evaluator) (n : Nat) : Evaluator :=
  (runFrom handlers context block timing 0 (is.take n) v).state

/-- The fate of the instruction at a place, if the run gets there. -/
def fate? (handlers : Handlers) (context : Context) (block : String) (timing : Timing)
    (is : List Instruction) (v : Evaluator) (n : Nat) : Option Fate :=
  match (runFrom handlers context block timing 0 (is.take (n + 1)) v).answer with
  | .ok results => results[n]?.map (·.2)
  | .error _ => none

/-- A run of one instruction and others, when the one does not fail. -/
lemma runFrom_cons_of_ok {fate : Fate}
    (h : (runOne handlers context block (timing.gates n) i v).answer = .ok fate) :
    let w := (runOne handlers context block (timing.gates n) i v).state
    (runFrom handlers context block timing n (i :: is) v).state =
        (runFrom handlers context block timing (n + 1) is w).state ∧
      (runFrom handlers context block timing n (i :: is) v).answer =
        (runFrom handlers context block timing (n + 1) is w).answer.map ((i.id, fate) :: ·) := by
  intro w
  constructor <;> simp only [runFrom, h, w]

/-- A run of one instruction and others, when the one fails. -/
lemma runFrom_cons_of_error {e : Interruption}
    (h : (runOne handlers context block (timing.gates n) i v).answer = .error e) :
    (runFrom handlers context block timing n (i :: is) v).state =
        (runOne handlers context block (timing.gates n) i v).state ∧
      (runFrom handlers context block timing n (i :: is) v).answer = .error e := by
  constructor <;> simp only [runFrom, h]

lemma length_of_runFrom {results : List (String × Fate)}
    (h : (runFrom handlers context block timing n is v).answer = .ok results) :
    results.length = is.length := by
  induction is generalizing n v results with
  | nil =>
    cases h
    rfl
  | cons i is ih =>
    cases hfirst : (runOne handlers context block (timing.gates n) i v).answer with
    | error e => simp [(runFrom_cons_of_error hfirst).2] at h
    | ok fate =>
      rw [(runFrom_cons_of_ok hfirst).2] at h
      obtain ⟨rest, hrest, rfl⟩ := map_ok_iff.mp h
      rw [List.length_cons, List.length_cons, ih hrest]

/-- A run in two parts. -/
lemma runFrom_append (n : Nat) (is js : List Instruction) (v : Evaluator) :
    (runFrom handlers context block timing n (is ++ js) v).answer =
      match (runFrom handlers context block timing n is v).answer with
      | .error e => .error e
      | .ok results =>
        (runFrom handlers context block timing (n + is.length) js
          (runFrom handlers context block timing n is v).state).answer.map (results ++ ·) := by
  induction is generalizing n v with
  | nil =>
    show _ = Except.map id _
    rw [Except.map_id]
    rfl
  | cons i is ih =>
    rw [List.cons_append, List.length_cons, Nat.add_comm is.length 1, ← Nat.add_assoc]
    cases hfirst : (runOne handlers context block (timing.gates n) i v).answer with
    | error e => rw [(runFrom_cons_of_error hfirst).2, (runFrom_cons_of_error hfirst).2]
    | ok fate =>
      rw [(runFrom_cons_of_ok hfirst).2, (runFrom_cons_of_ok hfirst).2,
        (runFrom_cons_of_ok hfirst).1, ih]
      cases (runFrom handlers context block timing (n + 1) is
        (runOne handlers context block (timing.gates n) i v).state).answer with
      | error e => rfl
      | ok results =>
        simp only [Except.map]
        cases (runFrom handlers context block timing (n + 1 + is.length) js _).answer <;> rfl

/-- What happens at a place is what the instruction there does with the evaluator that gets there. -/
lemma runOne_of_fate? (hi : is[n]? = some i) {fate : Fate}
    (h : fate? handlers context block timing is v n = some fate) :
    (runOne handlers context block (timing.gates n) i
      (evaluatorAt handlers context block timing is v n)).answer = .ok fate := by
  obtain ⟨hn, rfl⟩ := List.getElem?_eq_some_iff.mp hi
  have hlength : (is.take n).length = n := List.length_take_of_le hn.le
  rw [fate?, List.take_succ_eq_append_getElem hn, runFrom_append] at h
  cases hbefore : (runFrom handlers context block timing 0 (is.take n) v).answer with
  | error e => simp [hbefore] at h
  | ok results =>
    have hresults : results.length = n := (length_of_runFrom hbefore).trans hlength
    rw [hbefore, hlength, Nat.zero_add] at h
    cases hfirst : (runOne handlers context block (timing.gates n) is[n]
        (evaluatorAt handlers context block timing is v n)).answer with
    | error e =>
      rw [← evaluatorAt, (runFrom_cons_of_error hfirst).2] at h
      simp [Except.map] at h
    | ok other =>
      rw [← evaluatorAt, (runFrom_cons_of_ok hfirst).2] at h
      simpa [runFrom, Except.map, hresults] using h

lemma runFrom_of_run {e : Execution} (h : (run handlers context block timing is v).answer = .ok e) :
    (runFrom handlers context block timing 0 is v).answer = .ok e.results := by
  simp only [run] at h
  split at h
  next => simp at h
  next results hresults =>
    obtain rfl : ⟨results⟩ = e := by simpa using h
    exact hresults

/-- Fates in a run that comes to its end. -/
theorem fate?_of_run {e : Execution} (h : (run handlers context block timing is v).answer = .ok e)
    (n : Nat) :
    fate? handlers context block timing is v n = e.results[n]?.map (·.2) := by
  have hwhole := runFrom_of_run h
  have hlength := length_of_runFrom hwhole
  rw [← List.take_append_drop (n + 1) is, runFrom_append] at hwhole
  rw [fate?]
  cases hbefore : (runFrom handlers context block timing 0 (is.take (n + 1)) v).answer with
  | error e => simp [hbefore] at hwhole
  | ok results =>
    rw [hbefore] at hwhole
    obtain ⟨rest, -, hresults⟩ := map_ok_iff.mp hwhole
    have htake : results.length = min (n + 1) is.length := by
      rw [length_of_runFrom hbefore, List.length_take]
    show results[n]?.map _ = e.results[n]?.map _
    congr 1
    by_cases hn : n < is.length
    · rw [← hresults, List.getElem?_append_left (by omega)]
    · rw [List.getElem?_eq_none (by omega), List.getElem?_eq_none (by omega)]

/-! ### Gates of a run -/

/-- What an instruction that is executed comes to. -/
lemma runOne_cases {moments : Nat → Moment} {fate : Fate}
    (h : (runOne handlers context block moments i v).answer = .ok fate) :
    (v.evaluateAll context block moments i.conditions).answer = .ok false ∧ fate = .skipped ∨
      (v.evaluateAll context block moments i.conditions).answer = .ok true ∧
        ∃ done, carryOut handlers context i = .ok done ∧ fate = done.value := by
  unfold runOne at h
  dsimp only at h
  split at h
  next => cases h
  next hgates =>
    cases h
    exact .inl ⟨hgates, rfl⟩
  next hgates =>
    split at h <;> cases h
    next done hdone => exact .inr ⟨hgates, done, hdone, rfl⟩

lemma gates_of_runOne {moments : Nat → Moment} {fate : Fate}
    (h : (runOne handlers context block moments i v).answer = .ok fate) :
    (v.evaluateAll context block moments i.conditions).answer = .ok !fate.isSkipped := by
  rcases runOne_cases h with ⟨hgates, rfl⟩ | ⟨hgates, done, hdone, rfl⟩
  · exact hgates
  · rw [hgates, isSkipped_of_carryOut hdone]
    rfl

lemma state_runOne (moments : Nat → Moment) (i : Instruction) (v : Evaluator) :
    (runOne handlers context block moments i v).state =
      (v.evaluateAll context block moments i.conditions).state := by
  simp only [runOne]
  split
  · rfl
  · rfl
  · split <;> rfl

/-- Asking on the way changes no later answer. -/
lemma answersAs_runFrom (hv : v.WellFormed) (n : Nat) (is : List Instruction) :
    v.AnswersAs context block (timing.readings n is)
      (runFrom handlers context block timing n is v).state := by
  induction is generalizing n v with
  | nil => exact .refl hv
  | cons i is ih =>
    have hfirst : v.AnswersAs context block (Evaluator.gateReadings (timing.gates n) i.conditions)
        (runOne handlers context block (timing.gates n) i v).state := by
      rw [state_runOne]
      exact Evaluator.answersAs_evaluateAll hv _ context block i.conditions
    rw [Timing.readings]
    cases hanswer : (runOne handlers context block (timing.gates n) i v).answer with
    | error e =>
      rw [(runFrom_cons_of_error hanswer).1]
      exact hfirst.mono (List.subset_append_left _ _)
    | ok fate =>
      rw [(runFrom_cons_of_ok hanswer).1]
      exact hfirst.trans (ih hfirst.wellFormed (n + 1))

/-- The first conditions of an instruction come to what the answers say that there are before the run. -/
lemma answer_evaluatorAt (hv : v.WellFormed) (hclock : Evaluator.Forward (timing.readings 0 is))
    (hi : is[n]? = some i) {conditions rest : List Condition}
    (hconditions : i.conditions = conditions ++ rest) :
    ((evaluatorAt handlers context block timing is v n).evaluateAll context block (timing.gates n)
        conditions).answer =
      Condition.verdictAll (fun k e => (v.evaluate (timing.gates n k) e context block).answer)
        conditions := by
  rw [timing.readings_of_getElem? hi, hconditions, Evaluator.gateReadings_append,
    List.append_assoc] at hclock
  obtain ⟨-, hduring, hbefore⟩ := List.pairwise_append.mp hclock
  have hsame : v.AnswersAs context block (timing.readings 0 (is.take n))
      (evaluatorAt handlers context block timing is v n) := answersAs_runFrom hv 0 _
  rw [Evaluator.answer_evaluateAll hsame.wellFormed (List.pairwise_append.mp hduring).1]
  apply Condition.verdictAll_congr
  intro k hk
  funext e
  refine hsame.answer _ (fun t ht => hbefore t ht _ ?_) e
  have hasked := Evaluator.mem_gateReadings.mpr ⟨k, hk, (timing.gates n k).asked_mem_readings⟩
  exact List.mem_append_left _ hasked

end

end Execution

/-! ### Branches -/

namespace Condition

variable {ask : Nat → String → Except EvaluationError Bool}

/-- Under gates that hold, a gate of its own and its label let a branch pass as the gate does. -/
lemma verdictAll_branch {outer : List Condition} (houter : verdictAll ask outer = .ok true)
    {gate label : Condition} (hlabel : label.kind = .label) :
    verdictAll ask (outer ++ [gate, label]) = gate.verdict (ask outer.length) := by
  have hpass : ∀ answer, label.verdict answer = .ok true := fun _ => by rw [verdict, hlabel]
  rw [verdictAll_append, houter]
  simp only [verdictAll, hpass, Nat.zero_add]
  cases gate.verdict (ask outer.length) with
  | error e => rfl
  | ok pass => cases pass <;> rfl

end Condition

namespace Extraction

variable {g s : Statement} {expression : String}

lemma inheritedConditions_of_gate (hg : g.gate? = some expression) (outer : List Statement) :
    inheritedConditions (g :: outer) =
      inheritedConditions outer ++ [⟨.whenTrue, expression, g.line⟩] := by
  have hlabel : g.label? = none := by
    by_contra hne
    obtain ⟨label, hlabel⟩ := Option.ne_none_iff_exists'.mp hne
    rw [Statement.gate?_of_label? hlabel] at hg
    exact absurd hg (by simp)
  simp [inheritedConditions, Condition.ofStatement, hg, hlabel]

/-- The conditions of the branch that is taken when the gate above it holds. -/
lemma ofStatement_taken (hs : s.keyword = some "true") (gated : List Condition) :
    Condition.ofStatement gated s = gated ++ [⟨.label, "true", s.line⟩] := by
  have hlabel : s.label? = some "true" := by rw [Statement.label?, hs]; decide
  have hgate := Statement.gate?_of_label? hlabel
  have hpositive : Keyword.isNegating "true" = false := by decide
  simp [Condition.ofStatement, hlabel, hgate, hpositive]

/-- The conditions of a branch that is taken when the gate right above it fails. -/
lemma ofStatement_negating (hs : s.negates = true) (outer : List Condition) {gate : Condition}
    (hgate : gate.kind = .whenTrue) :
    ∃ label, Condition.ofStatement (outer ++ [gate]) s =
      outer ++ [gate.negated, ⟨.label, label, s.line⟩] := by
  obtain ⟨label, hlabel, hnegating⟩ := (Option.any_eq_true _ _).mp hs
  have hown := Statement.gate?_of_label? hlabel
  refine ⟨label, ?_⟩
  simp [Condition.ofStatement, hlabel, hown, hnegating, Condition.negateFirst, hgate,
    Condition.negated]

end Extraction

/-- A node has an instruction if its statement and those above it are not rejected. -/
lemma Extraction.exists_mem_of_isUsable {id : String} {block : Block} {e : Extraction}
    (he : ofBlock id block = .ok e) {n : Forest.Node Statement} (hn : n ∈ block.forest.nodes)
    (husable : (n.item :: n.ancestors).all (·.isUsable) = true) :
    ∃ i ∈ e.instructions, n.instruction? id = .ok (some i) := by
  have hgather := gather_of_ofBlock he
  obtain ⟨o, ho⟩ := exists_instruction?_of_gather hgather hn
  cases o with
  | some i => exact ⟨i, (mem_of_gather hgather).mpr ⟨n, hn, ho⟩, ho⟩
  | none =>
    rw [Forest.Node.instruction?_eq_none_iff, husable] at ho
    exact Bool.noConfusion ho

namespace Execution

section

variable [Searcher] {handlers : Handlers} {context : Context} {block expression : String}
  {timing : Timing} {is : List Instruction} {i j : Instruction} {v : Evaluator} {k m n : Nat}
  {fate other : Fate}

/-- Whether the first gates of the instruction at a place of a run hold when the run gets there. -/
def HoldAt (handlers : Handlers) (context : Context) (block : String) (timing : Timing)
    (is : List Instruction) (v : Evaluator) (n : Nat) (gates : List Condition) : Prop :=
  ((evaluatorAt handlers context block timing is v n).evaluateAll context block (timing.gates n)
    gates).answer = .ok true

/-- An expression has one answer at two places of a run, as long as it has any, if no wrong answer
lapses between them. -/
lemma answer_eq_of_not_lapses (hv : v.WellFormed)
    (hclock : Evaluator.Forward (timing.readings 0 is)) (hm : is[m]? = some i) (hn : is[n]? = some j)
    (hne : m ≠ n) (hik : k < i.conditions.length) (hjk : k < j.conditions.length)
    (hlapses : ¬ v.Lapses (timing.gates (min m n) k).asked (timing.gates (max m n) k).asked context
      block expression) {x y : Bool}
    (hx : (v.evaluate (timing.gates m k) expression context block).answer = .ok x)
    (hy : (v.evaluate (timing.gates n k) expression context block).answer = .ok y) : x = y := by
  rcases Nat.lt_or_gt_of_ne hne with hlt | hlt
  · rw [min_eq_left hlt.le, max_eq_right hlt.le] at hlapses
    have hlater := Timing.asked_ge_of_lt hclock hlt hm hn hik hjk
    have hx' := Evaluator.answer_of_not_lapses hv hlater hlapses hy
    exact Except.ok.inj (hx.symm.trans hx')
  · rw [min_eq_right hlt.le, max_eq_left hlt.le] at hlapses
    have hlater := Timing.asked_ge_of_lt hclock hlt hn hm hjk hik
    have hy' := Evaluator.answer_of_not_lapses hv hlater hlapses hx
    exact Except.ok.inj (hy'.symm.trans hy)

/-- Two instructions under the same gates, one that asks for an expression to hold and one that asks for
it not to hold. -/
lemma exclusive_of_conditions (hv : v.WellFormed)
    (hclock : Evaluator.Forward (timing.readings 0 is)) (hm : is[m]? = some i) (hn : is[n]? = some j)
    {outer : List Condition} {gate label label' : Condition}
    (hgate : gate.kind = .whenTrue) (hlabel : label.kind = .label) (hlabel' : label'.kind = .label)
    (hi : i.conditions = outer ++ [gate, label]) (hj : j.conditions = outer ++ [gate.negated, label'])
    (hlapses : ¬ v.Lapses (timing.gates (min m n) outer.length).asked
      (timing.gates (max m n) outer.length).asked context block gate.expression)
    (hfate : fate? handlers context block timing is v m = some fate)
    (hother : fate? handlers context block timing is v n = some other) :
    (fate.isSkipped = true ∨ other.isSkipped = true) ∧
      (HoldAt handlers context block timing is v m outer →
        HoldAt handlers context block timing is v n outer → fate.isSkipped = !other.isSkipped) := by
  let ask (n k : Nat) (e : String) := (v.evaluate (timing.gates n k) e context block).answer
  have hne : m ≠ n := by
    rintro rfl
    obtain rfl : i = j := Option.some.inj (hm.symm.trans hn)
    rw [hi] at hj
    have hkind := congrArg Condition.kind (List.cons.inj (List.append_cancel_left hj)).1
    simp [hgate, Condition.negated] at hkind
  have hagree : ∀ x y, ask m outer.length gate.expression = .ok x →
      ask n outer.length gate.expression = .ok y → x = y := fun _ _ =>
    answer_eq_of_not_lapses hv hclock hm hn hne (by simp [hi]) (by simp [hj]) hlapses
  have hm' := gates_of_runOne (runOne_of_fate? hm hfate)
  have hn' := gates_of_runOne (runOne_of_fate? hn hother)
  rw [answer_evaluatorAt hv hclock hm (List.append_nil _).symm, hi] at hm'
  rw [answer_evaluatorAt hv hclock hn (List.append_nil _).symm, hj] at hn'
  simp only [HoldAt]
  rw [answer_evaluatorAt hv hclock hm hi, answer_evaluatorAt hv hclock hn hj]
  have hone : Condition.verdictAll (ask m) outer = .ok true →
      Condition.verdictAll (ask n) outer = .ok true → fate.isSkipped = !other.isSkipped := by
    intro hmouter hnouter
    rw [Condition.verdictAll_branch hmouter hlabel, Condition.verdict, hgate] at hm'
    rw [Condition.verdictAll_branch hnouter hlabel', Condition.verdict] at hn'
    obtain ⟨y, hy, hyskipped⟩ := map_ok_iff.mp hn'
    have hxy := hagree _ _ hm' hy
    rw [← hxy] at hyskipped
    simpa using hyskipped
  refine ⟨?_, hone⟩
  by_contra hboth
  rw [not_or, Bool.not_eq_true, Bool.not_eq_true] at hboth
  obtain ⟨hfate', hother'⟩ := hboth
  rw [hfate'] at hm'
  rw [hother'] at hn'
  have hcontra := hone (Condition.verdictAll_append_eq_true.mp hm').1
    (Condition.verdictAll_append_eq_true.mp hn').1
  simp [hfate', hother'] at hcontra

/-- Of the branches of a conditional with a gate, the one for the case that it holds and one for the
case that it fails are not both carried out, and if the gates around the conditional hold for both,
exactly one is; unless the cache has an answer to the gate that is not right any more, and that lapses
after the gate has been asked for the one and before it is asked for the other. The clock may go on at any
time, also between the gates of an instruction. -/
theorem branches_exclusive {id : String} {b : Block} {e : Extraction}
    (he : Extraction.ofBlock id b = .ok e) {yes no : Forest.Node Statement}
    (hyes : yes ∈ b.forest.nodes) (hno : no ∈ b.forest.nodes) {g : Statement}
    {enclosing : List Statement} (hyesg : yes.ancestors = g :: enclosing)
    (hnog : no.ancestors = g :: enclosing) (hg : g.gate? = some expression)
    (htaken : yes.item.keyword = some "true") (hnegates : no.item.negates = true)
    (husable : ∀ s ∈ yes.item :: no.item :: g :: enclosing, s.isUsable = true) :
    ∃ i ∈ e.instructions, ∃ j ∈ e.instructions,
      yes.instruction? id = .ok (some i) ∧ no.instruction? id = .ok (some j) ∧
      ∀ m n, e.instructions[m]? = some i → e.instructions[n]? = some j →
      ∀ handlers context block timing v, v.WellFormed →
      Evaluator.Forward (timing.readings 0 e.instructions) →
      ¬ v.Lapses (timing.gates (min m n) (Extraction.inheritedConditions enclosing).length).asked
        (timing.gates (max m n) (Extraction.inheritedConditions enclosing).length).asked context block
        expression →
      ∀ fate other, fate? handlers context block timing e.instructions v m = some fate →
      fate? handlers context block timing e.instructions v n = some other →
        (fate.isSkipped = true ∨ other.isSkipped = true) ∧
          (HoldAt handlers context block timing e.instructions v m
              (Extraction.inheritedConditions enclosing) →
            HoldAt handlers context block timing e.instructions v n
              (Extraction.inheritedConditions enclosing) →
            fate.isSkipped = !other.isSkipped) := by
  obtain ⟨hyesitem, hnoitem, habove⟩ : yes.item.isUsable = true ∧ no.item.isUsable = true ∧
      (g :: enclosing).all (·.isUsable) = true := by
    rw [List.forall_mem_cons, List.forall_mem_cons] at husable
    exact ⟨husable.1, husable.2.1, List.all_eq_true.mpr husable.2.2⟩
  obtain ⟨i, hi, hyesi⟩ := Extraction.exists_mem_of_isUsable he hyes
    (by simp [hyesitem, hyesg, habove])
  obtain ⟨j, hj, hnoj⟩ := Extraction.exists_mem_of_isUsable he hno (by simp [hnoitem, hnog, habove])
  refine ⟨i, hi, j, hj, hyesi, hnoj, ?_⟩
  intro m n hm hn handlers context block timing v hv hclock hlapses fate other hfate hother
  have hgated := Extraction.inheritedConditions_of_gate hg enclosing
  have hiconditions := Forest.Node.conditions_of_instruction? hyesi
  have hjconditions := Forest.Node.conditions_of_instruction? hnoj
  rw [Extraction.inheritedConditions, hyesg, hgated,
    Extraction.ofStatement_taken htaken] at hiconditions
  rw [Extraction.inheritedConditions, hnog, hgated] at hjconditions
  have hgate : Condition.kind ⟨.whenTrue, expression, g.line⟩ = .whenTrue := rfl
  obtain ⟨label, hlabel⟩ := Extraction.ofStatement_negating hnegates
    (Extraction.inheritedConditions enclosing) hgate
  rw [hlabel] at hjconditions
  rw [List.append_assoc] at hiconditions
  exact exclusive_of_conditions hv hclock hm hn hgate rfl rfl hiconditions hjconditions hlapses
    hfate hother

end

/-- The instruction of a statement without effect for a text. -/
private def branch (origin : Origin) (conditions : List Condition) (children : List String) :
    Instruction where
  id := "menu-" ++ origin.keyword ++ "-" ++ toString origin.line
  bucket := .visual
  subject := none
  target := ⟨"text", some "text", none, none, .content⟩
  effect := none
  outcome := none
  conditions := conditions
  origin := some origin
  children := children

section

open scoped Pattern

/-- If the branch for hovering is carried out, the other one is skipped. -/
theorem branches_exclusive_hover :
    let block := Block.ofLines 2 [":: if\x7bhover\x7d // text", "  :^: true // text",
      "  :^: else // text"]
    let hovered := { Context.default with interaction := ⟨true, false, false⟩ }
    let v := Evaluator.start (some (.start .default (.ofInt 0)))
    let timing : Timing :=
      ⟨fun n k => ⟨.ofInt (6 * n + 3 * k), .ofInt (6 * n + 3 * k + 1), .ofInt (6 * n + 3 * k + 2)⟩,
        "15000.00"⟩
    ∃ e, Extraction.ofBlock "menu" block = .ok e ∧
      ∃ fate other, fate? .default hovered "menu" timing e.instructions v 1 = some fate ∧
        fate? .default hovered "menu" timing e.instructions v 2 = some other ∧
        fate.isSkipped = false ∧ other.isSkipped = true := by
  intro block hovered v timing
  let hover (kind : ConditionKind) : Condition := ⟨kind, "hover", 1⟩
  let is : List Instruction := [
    branch ⟨1, 1, .root, "if", ":: if\x7bhover\x7d // text", 0⟩ [hover .whenTrue]
      ["menu-true-2", "menu-else-3"],
    branch ⟨2, 3, .hierarchical, "true", ":^: true // text", 1⟩
      [hover .whenTrue, ⟨.label, "true", 2⟩] [],
    branch ⟨3, 3, .hierarchical, "else", ":^: else // text", 1⟩
      [hover .whenFalse, ⟨.label, "else", 3⟩] []]
  have hextracted : (Extraction.ofBlock "menu" block).map (·.instructions) = .ok is := by
    decide +kernel
  obtain ⟨e, he, hinstructions⟩ := map_ok_iff.mp hextracted
  obtain ⟨g, yes, no, hnodes⟩ : ∃ g yes no, block.forest.nodes = [g, yes, no] :=
    List.length_eq_three.mp (by decide +kernel)
  have habove : block.forest.nodes.map (·.ancestors) =
      [[], (block.forest.nodes.take 1).map (·.item), (block.forest.nodes.take 1).map (·.item)] := by
    decide +kernel
  have hitems : block.forest.nodes.map (fun n => (n.item.gate?, n.item.keyword, n.item.negates,
      n.item.isUsable)) = [(some "hover", some "if", false, true), (none, some "true", false, true),
        (none, some "else", true, true)] := by decide +kernel
  have hinstruction : block.forest.nodes.map (·.instruction? "menu") =
      is.map fun i => .ok (some i) := by
    decide +kernel
  simp only [hnodes, List.map_cons, List.map_nil, List.take_succ_cons, List.take_zero, List.cons.injEq,
    Prod.mk.injEq, is] at habove hitems hinstruction
  have hyesnode : yes ∈ block.forest.nodes := by simp [hnodes]
  have hnonode : no ∈ block.forest.nodes := by simp [hnodes]
  obtain ⟨i, -, j, -, hyes, hno, hexclusive⟩ := branches_exclusive he hyesnode hnonode habove.2.1
    habove.2.2.1 hitems.1.1 hitems.2.1.2.1 hitems.2.2.1.2.2.1 (by simp [hitems])
  obtain rfl := Option.some.inj (Except.ok.inj (hinstruction.2.1.symm.trans hyes))
  obtain rfl := Option.some.inj (Except.ok.inj (hinstruction.2.2.1.symm.trans hno))
  have hclock : Evaluator.Forward (timing.readings 0 is) := by decide +kernel
  have hlapses : ¬ v.Lapses (timing.gates (min 1 2) 0).asked (timing.gates (max 1 2) 0).asked hovered
      "menu" "hover" := by
    rintro ⟨value, r, hvalue, -⟩
    have hnone : v.known (timing.gates (min 1 2) 0).asked "menu" "hover" = none := by decide +kernel
    rw [hnone] at hvalue
    exact absurd hvalue (by simp)
  have hfate : (fate? .default hovered "menu" timing is v 1).map (·.isSkipped) = some false := by
    decide +kernel
  have hother : (fate? .default hovered "menu" timing is v 2).isSome = true := by decide +kernel
  obtain ⟨fate, hfate, hcarried⟩ := Option.map_eq_some_iff.mp hfate
  obtain ⟨other, hother⟩ := Option.isSome_iff_exists.mp hother
  refine ⟨e, he, ?_⟩
  rw [hinstructions] at hexclusive ⊢
  have hone := (hexclusive 1 2 rfl rfl .default hovered "menu" timing v
    (Evaluator.wellFormed_start _ _) hclock hlapses fate other hfate hother).1
  rw [hcarried] at hone
  exact ⟨fate, other, hfate, hother, hcarried, by simpa using hone⟩

/-- A conditional without a gate, and a conditional on hovering when an earlier call has found that it
hovered: in both cases both branches are carried out. -/
theorem branches_both_carried_out :
    let hovered := { Context.default with interaction := ⟨true, false, false⟩ }
    let v := Evaluator.start (some (.start .default (.ofInt 0)))
    let applied (lines : List String) (v : Evaluator) (timing : Timing) : Option (List Bool) := do
      let e ← (Extraction.ofBlock "menu" (.ofLines 2 lines)).toOption
      let done ← (run .default .default "menu" timing e.instructions v).answer.toOption
      return done.results.map (·.2.isApplied)
    applied [":: if\x7b \x7d // text", "  :^: true // text", "  :^: else // text"] v
        ⟨fun _ _ => .at (.ofInt 0), "0.00"⟩ = some [true, true, true] ∧
      applied [":: if\x7bhover\x7d // text", "  :^: true // text", "  :^: else // text"]
        (v.evaluate (.at (.ofInt 0)) "hover" hovered "menu").state
        ⟨fun n _ => .at (.ofInt (if n < 2 then 0 else 1)), "1000.00"⟩ = some [true, true, true] := by
  decide +kernel

end

end Execution

end BlockScript
