import BlockScript.Evaluator
import BlockScript.Pattern.Searcher
import BlockScript.Proofs.Extraction
import BlockScript.Proofs.Lines
import BlockScript.Proofs.Optimization.NormalForm

/-!
# Writes that win

The value of a parameter is the one that the last instruction gives it whose conditions pass.
Optimization carries out all instructions of a merge key at the place of the first of them, so a write
may be overtaken by an earlier one whose key comes up later (`Optimization.winner?_optimize`).
-/

namespace BlockScript

/-! ### Writes -/

/-- What a value is set for. -/
structure Address where
  bucket : Bucket
  subject : Option String
  target : Selector
  effect : String
  outcome : Option String
  parameter : String
deriving DecidableEq

namespace Instruction

/-- Where an instruction sets a parameter, if it sets it. -/
def address? (i : Instruction) (parameter : String) : Option Address :=
  i.effect.map fun e => ⟨i.bucket, i.subject, i.target, e.name, i.outcome, parameter⟩

/-- The value that an instruction sets at an address. -/
def value? (a : Address) (i : Instruction) : Option Scalar :=
  if i.address? a.parameter = some a then i.parameters.get? a.parameter else none

end Instruction

/-- Whether all conditions pass, each evaluated at a moment of its own. A condition that cannot be
evaluated does not. -/
def Evaluator.passes [Searcher] (v : Evaluator) (moments : Nat → Moment) (context : Context)
    (block : String) (conditions : List Condition) : Bool :=
  match (v.evaluateAll context block moments conditions).answer with
  | .ok pass => pass
  | .error _ => false

namespace Optimization

/-- The instructions that set a value at an address, when those conditions pass that are `active`. -/
def writes (active : List Condition → Bool) (a : Address) (is : List Instruction) :
    List Instruction :=
  is.filter fun i => active i.conditions && (i.value? a).isSome

/-- The value that is set last. -/
def winner? (active : List Condition → Bool) (a : Address) (is : List Instruction) :
    Option Scalar :=
  (writes active a is).getLast?.bind (·.value? a)

/-- The place of an instruction after consolidation: that of the first one with its merge key among
those that do something. -/
def place (is : List Instruction) (i : Instruction) : Nat :=
  ((is.filter (·.isLive)).map (·.mergeKey)).idxOf i.mergeKey

variable {active : List Condition → Bool} {a : Address} {is merged : List Instruction}
  {i j : Instruction}

lemma mem_writes :
    i ∈ writes active a is ↔
      i ∈ is ∧ active i.conditions = true ∧ ∃ value, i.value? a = some value := by
  simp [writes, Option.isSome_iff_exists]

lemma isLive_of_mem_writes (h : i ∈ writes active a is) : i.isLive = true := by
  obtain ⟨-, -, value, hvalue⟩ := mem_writes.mp h
  obtain ⟨-, hget⟩ := Option.ite_none_right_eq_some.mp hvalue
  rw [Instruction.isLive_iff]
  intro hnil
  simp [hnil] at hget

lemma bucket_of_mem_writes (h : i ∈ writes active a is) : i.bucket = a.bucket := by
  obtain ⟨-, -, value, hvalue⟩ := mem_writes.mp h
  obtain ⟨haddress, -⟩ := Option.ite_none_right_eq_some.mp hvalue
  obtain ⟨effect, _, heq⟩ := Option.map_eq_some_iff.mp haddress
  exact congrArg Address.bucket heq

/-- Instructions with one merge key write at the same addresses, under the same conditions. -/
lemma address?_of_mergeKey (h : i.mergeKey = j.mergeKey) (parameter : String) :
    i.conditions = j.conditions ∧ i.address? parameter = j.address? parameter := by
  simp only [Instruction.mergeKey, Instruction.MergeKey.mk.injEq] at h
  obtain ⟨hbucket, hsubject, htarget, heffect, houtcome, hconditions⟩ := h
  refine ⟨hconditions, ?_⟩
  unfold Instruction.address?
  rw [hbucket, hsubject, htarget, houtcome]
  cases hi : i.effect <;> cases hj : j.effect <;> simp_all

/-! ### Dropping and sorting -/

lemma writes_filter {p : Instruction → Bool} (h : ∀ i ∈ writes active a is, p i = true) :
    writes active a (is.filter p) = writes active a is := by
  rw [writes, List.filter_filter]
  refine List.filter_congr fun i hi => ?_
  by_cases hw : i ∈ writes active a is
  · rw [h i hw, Bool.and_true]
  · have hno : (active i.conditions && (i.value? a).isSome) = false :=
      Bool.eq_false_iff.mpr fun hyes => hw (List.mem_filter.mpr ⟨hi, hyes⟩)
    rw [hno, Bool.false_and]

lemma writes_sortByBucket (is : List Instruction) :
    writes active a (sortByBucket is) = writes active a is := by
  have hbucket : ∀ {is : List Instruction}, ∀ i ∈ writes active a is,
      decide (i.bucket = a.bucket) = true :=
    fun i hi => decide_eq_true (bucket_of_mem_writes hi)
  rw [← writes_filter hbucket, filter_sortByBucket, writes_filter hbucket]

/-! ### The last write -/

lemma getLast?_filterMap {α β : Type} (f : α → Option β) (l : List α) :
    (l.filterMap f).getLast? = (l.filter fun x => (f x).isSome).getLast?.bind f := by
  induction l using List.reverseRecOn with
  | nil => rfl
  | append_singleton l x ih =>
    cases hx : f x with
    | none => simp [List.filterMap_append, List.filter_append, hx, ih]
    | some y => simp [List.filterMap_append, List.filter_append, hx]

lemma writes_filter_mergeKey {m : Instruction} (hactive : active m.conditions = true) :
    (writes active a is).filter (·.mergeKey = m.mergeKey) =
      (sharing m.mergeKey is).filter fun i => (i.value? a).isSome := by
  rw [writes, sharing, List.filter_filter, List.filter_filter]
  refine List.filter_congr fun i _ => ?_
  by_cases hkey : i.mergeKey = m.mergeKey
  · simp [hkey, (address?_of_mergeKey hkey a.parameter).1, hactive]
  · simp [hkey]

/-- What an instruction of the consolidated list sets is what the last write with its key sets. -/
lemma Consolidated.value?_eq (h : Consolidated is merged) {m : Instruction} (hm : m ∈ merged)
    (hactive : active m.conditions = true) :
    m.value? a = ((writes active a is).filter (·.mergeKey = m.mergeKey)).getLast?.bind
      (·.value? a) := by
  have haddress : ∀ i ∈ sharing m.mergeKey is, i.address? a.parameter = m.address? a.parameter :=
    fun i hi => (address?_of_mergeKey (of_decide_eq_true (List.mem_filter.mp hi).2) _).2
  rw [writes_filter_mergeKey hactive, ← getLast?_filterMap]
  by_cases hm' : m.address? a.parameter = some a
  · rw [Instruction.value?, if_pos hm', h.value m hm, lastValue?]
    congr 1
    refine List.filterMap_congr fun i hi => ?_
    rw [Instruction.value?, haddress i hi, if_pos hm']
  · rw [Instruction.value?, if_neg hm']
    have hnone : (sharing m.mergeKey is).filterMap (·.value? a) = [] := by
      refine List.filterMap_eq_nil_iff.mpr fun i hi => ?_
      rw [Instruction.value?, haddress i hi, if_neg hm']
    rw [hnone, List.getLast?_nil]

/-- The last write of a key. -/
lemma exists_last_of_mem_writes (h : i ∈ writes active a is) :
    ∃ last ∈ writes active a is, last.mergeKey = i.mergeKey ∧
      ((writes active a is).filter (·.mergeKey = i.mergeKey)).getLast? = some last := by
  have hmem : i ∈ (writes active a is).filter (·.mergeKey = i.mergeKey) :=
    List.mem_filter.mpr ⟨h, decide_eq_true rfl⟩
  obtain ⟨last, hlast⟩ := Option.ne_none_iff_exists'.mp
    (mt List.getLast?_eq_none_iff.mp (List.ne_nil_of_mem hmem))
  obtain ⟨hwrites, hkey⟩ := List.mem_filter.mp (List.mem_of_getLast? hlast)
  exact ⟨last, hwrites, of_decide_eq_true hkey, hlast⟩

/-- The consolidated list writes at an address for each key that does. -/
lemma Consolidated.mem_writes_iff (h : Consolidated is merged) {m : Instruction} (hm : m ∈ merged) :
    m ∈ writes active a merged ↔ ∃ i ∈ writes active a is, i.mergeKey = m.mergeKey := by
  constructor
  · intro hwrites
    obtain ⟨-, hactive, value, hvalue⟩ := mem_writes.mp hwrites
    rw [h.value?_eq hm hactive] at hvalue
    obtain ⟨last, hlast, -⟩ := Option.bind_eq_some_iff.mp hvalue
    obtain ⟨hlast, hkey⟩ := List.mem_filter.mp (List.mem_of_getLast? hlast)
    exact ⟨last, hlast, of_decide_eq_true hkey⟩
  · rintro ⟨i, hi, hkey⟩
    obtain ⟨last, hlast, hlastkey, hgetLast⟩ := exists_last_of_mem_writes hi
    obtain ⟨-, hactive, value, hvalue⟩ := mem_writes.mp hlast
    rw [(address?_of_mergeKey (hlastkey.trans hkey) a.parameter).1] at hactive
    refine mem_writes.mpr ⟨hm, hactive, value, ?_⟩
    rw [h.value?_eq hm hactive, ← hkey, hgetLast]
    exact hvalue

lemma Consolidated.exists_mem_writes (h : Consolidated is merged) (hi : i ∈ writes active a is) :
    ∃ m ∈ writes active a merged, m.mergeKey = i.mergeKey := by
  have hkey := (h.mem_keys i.mergeKey).mpr (List.mem_map_of_mem (mem_writes.mp hi).1)
  obtain ⟨m, hm, hkey⟩ := List.mem_map.mp hkey
  exact ⟨m, (h.mem_writes_iff hm).mpr ⟨i, hi, hkey.symm⟩, hkey⟩

/-- After consolidation the last write of that key wins which comes up last. -/
lemma Consolidated.winner?_eq (h : Consolidated is merged) (active : List Condition → Bool)
    (a : Address) :
    (writes active a is = [] ∧ winner? active a merged = none) ∨
      ∃ i ∈ writes active a is,
        (∀ j ∈ writes active a is, (is.map (·.mergeKey)).idxOf j.mergeKey ≤
          (is.map (·.mergeKey)).idxOf i.mergeKey) ∧
        ((writes active a is).filter (·.mergeKey = i.mergeKey)).getLast? = some i ∧
        winner? active a merged = i.value? a := by
  cases hmerged : (writes active a merged).getLast? with
  | none =>
    refine .inl ⟨List.eq_nil_iff_forall_not_mem.mpr fun i hi => ?_, by rw [winner?, hmerged]; rfl⟩
    obtain ⟨m, hm, -⟩ := h.exists_mem_writes hi
    rw [List.getLast?_eq_none_iff.mp hmerged] at hm
    exact List.not_mem_nil hm
  | some m =>
    have hwrites := List.mem_of_getLast? hmerged
    obtain ⟨hm, hactive, -⟩ := mem_writes.mp hwrites
    obtain ⟨first, hfirst, hfirstkey⟩ := (h.mem_writes_iff hm).mp hwrites
    obtain ⟨i, hi, hkey, hlast⟩ := exists_last_of_mem_writes hfirst
    rw [← hkey] at hlast
    refine .inr ⟨i, hi, fun j hj => ?_, hlast, ?_⟩
    · obtain ⟨m', hm', hkey'⟩ := h.exists_mem_writes hj
      obtain ⟨init, hinit⟩ := List.getLast?_eq_some_iff.mp hmerged
      have horder : (writes active a merged).Pairwise fun x y =>
          (is.map (·.mergeKey)).idxOf x.mergeKey < (is.map (·.mergeKey)).idxOf y.mergeKey :=
        (List.pairwise_map.mp h.order).sublist List.filter_sublist
      rw [hinit] at hm' horder
      rw [← hkey', hkey, hfirstkey]
      rcases List.mem_append.mp hm' with hm' | hm'
      · exact ((List.pairwise_append.mp horder).2.2 m' hm' m List.mem_cons_self).le
      · rw [List.mem_singleton.mp hm']
    · rw [winner?, hmerged, Option.bind_some, h.value?_eq hm hactive, ← hfirstkey, ← hkey, hlast,
        Option.bind_some]

end Optimization

/-! ### Extracted instructions -/

lemma Statement.distinct_parameters {width : Nat} {start : Int} {lines : List String}
    {s : Statement} (h : s ∈ ofLinesFrom width start lines) {z : EffectZone} (hz : s.effect = some z) :
    z.parameters.Distinct := by
  obtain ⟨text, _, line, hline⟩ := exists_mem_ofLine h
  obtain ⟨span, _, rfl⟩ := List.mem_map.mp hline
  obtain ⟨zone, _, rfl⟩ := Option.map_eq_some_iff.mp hz
  exact Entries.distinct_ofPairs _

lemma Statement.distinct_readEffect? {s : Statement}
    (hs : ∀ z, s.effect = some z → z.parameters.Distinct) {effect : Effect}
    (h : s.readEffect? = .ok (some effect)) : effect.parameters.Distinct := by
  unfold readEffect? at h
  split at h
  next => simp at h
  next zone hzone =>
    unfold readEffect at h
    split at h
    next => simp at h
    next action _ =>
      obtain ⟨parameters, hparameters, h⟩ := bind_ok_iff.mp h
      cases h
      have hnames : parameters.map (·.1) = zone.parameters.map (·.1) := by
        rw [← List.forall₂_eq_eq_eq, List.forall₂_map_left_iff, List.forall₂_map_right_iff]
        exact ((forall₂_of_mapM_entries hparameters).flip).imp fun _ _ h => h.1
      rw [Entries.Distinct, hnames]
      exact hs zone hzone

/-- No extracted instruction sets a parameter twice. -/
lemma Extraction.distinct_parameters {width : Nat} {lines : List String} {id : String}
    {e : Extraction} (he : ofBlock id (.ofLines width lines) = .ok e) {i : Instruction}
    (hi : i ∈ e.instructions) : i.parameters.Distinct := by
  obtain ⟨n, hn, hni⟩ := (mem_of_gather (gather_of_ofBlock he)).mp hi
  obtain ⟨_, keyword, target, _, hinstruction⟩ := Forest.Node.instruction?_eq_some_iff.mp hni
  obtain ⟨selector, _, effect, heffect, rfl⟩ := Statement.instruction_ok_iff.mp hinstruction
  have hitem := item_mem_statements hn
  cases effect with
  | none => exact List.nodup_nil
  | some effect =>
    exact Statement.distinct_readEffect? (fun z hz => Statement.distinct_parameters hitem hz) heffect

/-! ### Optimized instructions -/

namespace Optimization

lemma winner?_sortByBucket (is : List Instruction) :
    winner? active a (sortByBucket is) = winner? active a is := by
  rw [winner?, winner?, writes_sortByBucket]

/-- Optimization sets the same parameters as before. The last write still wins if no other write has a
key that comes up later; in general the last write of that key wins which comes up last. -/
theorem winner?_optimize [Searcher] {width : Nat} {lines : List String} {id : String} {e : Extraction}
    (he : Extraction.ofBlock id (.ofLines width lines) = .ok e) (overlays : Entries Overlay)
    (moments : Nat → Moment) (context : Context) (block : String) (a : Address) :
    let active := Evaluator.passes ⟨none, overlays⟩ moments context block
    let before := writes active a e.instructions
    (before = [] → winner? active a (optimize e.instructions) = none) ∧
      (∀ w, before.getLast? = some w →
        (∀ i ∈ before, place e.instructions i ≤ place e.instructions w) →
        winner? active a (optimize e.instructions) = winner? active a e.instructions) ∧
      (before ≠ [] → ∃ i ∈ before,
        (∀ j ∈ before, place e.instructions j ≤ place e.instructions i) ∧
        (before.filter (·.mergeKey = i.mergeKey)).getLast? = some i ∧
        winner? active a (optimize e.instructions) = i.value? a) := by
  intro active before
  let live := e.instructions.filter (·.isLive)
  have hdistinct : ∀ i ∈ live, i.parameters.Distinct := fun i hi =>
    Extraction.distinct_parameters he (List.mem_of_mem_filter hi)
  have hconsolidated : Consolidated live (consolidate live) :=
    consolidated_consolidate (fun i hi => (List.mem_filter.mp hi).2) hdistinct
  have hbefore : writes active a live = before :=
    writes_filter fun i hi => isLive_of_mem_writes hi
  rw [optimize, winner?_sortByBucket]
  rcases hconsolidated.winner?_eq active a with ⟨hnil, hnone⟩ | ⟨i, hi, hmax, hlast, hwin⟩
  · rw [hbefore] at hnil
    refine ⟨fun _ => hnone, fun w hw => ?_, fun hne => absurd hnil hne⟩
    simp [hnil] at hw
  · rw [hbefore] at hi hmax hlast
    refine ⟨fun hnil => ?_, fun w hw hfirst => ?_, fun _ => ⟨i, hi, hmax, hlast, hwin⟩⟩
    · simp [hnil] at hi
    · -- the last write of all has the key that comes up last, so it is also the last with its key
      have hmem : i.mergeKey ∈ live.map (·.mergeKey) :=
        List.mem_map_of_mem (mem_writes.mp (hbefore ▸ hi)).1
      have hkey : i.mergeKey = w.mergeKey := (List.idxOf_inj hmem).mp
        (Nat.le_antisymm (hfirst i hi) (hmax w (List.mem_of_getLast? hw)))
      obtain ⟨init, hinit⟩ := List.getLast?_eq_some_iff.mp hw
      have hw' : (before.filter (·.mergeKey = i.mergeKey)).getLast? = some w := by
        rw [hinit, List.filter_append, List.filter_cons_of_pos (by simp [hkey]), List.filter_nil,
          List.getLast?_append, List.getLast?_singleton]
        rfl
      rw [hlast] at hw'
      rw [hwin, winner?, Option.some.inj hw', hw, Option.bind_some]

/-- An instruction that sets the color of the background. -/
private def paint (origin : Origin) (conditions : List Condition) (color : String) : Instruction where
  id := "menu-set-" ++ toString origin.line
  bucket := .visual
  subject := some "background"
  target := ⟨"content", some "content", none, none, .block⟩
  effect := some ⟨"color", [("color", .text color)]⟩
  outcome := none
  conditions := conditions
  origin := some origin
  children := []

open scoped Pattern

/-- A later write to the same parameter wins, also once it is merged into the first. -/
theorem winner?_optimize_repeated :
    let block := Block.ofLines 2 [":: set[background] // content % \x7bcolor\x7d(red)",
      ":: set[background] // content % \x7bcolor\x7d(green)"]
    let active := Evaluator.passes ⟨none, []⟩ (fun _ => .at ⟨0⟩) Context.default ""
    let color : Address := ⟨.visual, some "background", ⟨"content", some "content", none, none, .block⟩,
      "color", none, "color"⟩
    ∃ e, Extraction.ofBlock "menu" block = .ok e ∧
      winner? active color e.instructions = some (.text "green") ∧
      winner? active color (optimize e.instructions) = some (.text "green") := by
  intro block active color
  let red := paint ⟨1, 1, .root, "set", ":: set[background] // content % \x7bcolor\x7d(red)", 0⟩ [] "red"
  let green :=
    paint ⟨2, 1, .root, "set", ":: set[background] // content % \x7bcolor\x7d(green)", 0⟩ [] "green"
  have hextracted : (Extraction.ofBlock "menu" block).map (·.instructions) = .ok [red, green] := by
    decide +kernel
  obtain ⟨e, he, hinstructions⟩ := map_ok_iff.mp hextracted
  have hwinner : winner? active color [red, green] = some (.text "green") := by decide +kernel
  have hlast : (writes active color [red, green]).getLast? = some green := by decide +kernel
  have hplace : ∀ i ∈ writes active color [red, green],
      place [red, green] i ≤ place [red, green] green := by decide +kernel
  have hwins := (winner?_optimize he [] (fun _ => .at ⟨0⟩) Context.default "" color).2.1 green
  rw [hinstructions] at hwins
  refine ⟨e, he, ?_⟩
  rw [hinstructions]
  exact ⟨hwinner, (hwins hlast hplace).trans hwinner⟩

/-- A write that is merged into the first one no longer wins over a conditional write between them. -/
theorem winner?_optimize_overtaken :
    let block := Block.ofLines 2 [":: set[background] // content % \x7bcolor\x7d(red)",
      ":: if\x7bhover\x7d // content", "  :^: set[background] // content % \x7bcolor\x7d(blue)",
      ":: set[background] // content % \x7bcolor\x7d(green)"]
    let active := Evaluator.passes ⟨none, []⟩ (fun _ => .at ⟨0⟩)
      { Context.default with interaction := ⟨true, false, false⟩ } ""
    let color : Address := ⟨.visual, some "background", ⟨"content", some "content", none, none, .block⟩,
      "color", none, "color"⟩
    ∃ e, Extraction.ofBlock "menu" block = .ok e ∧
      winner? active color e.instructions = some (.text "green") ∧
      winner? active color (optimize e.instructions) = some (.text "blue") := by
  intro block active color
  let red := paint ⟨1, 1, .root, "set", ":: set[background] // content % \x7bcolor\x7d(red)", 0⟩ [] "red"
  let blue :=
    paint ⟨3, 3, .hierarchical, "set", ":^: set[background] // content % \x7bcolor\x7d(blue)", 1⟩
      [⟨.whenTrue, "hover", 2⟩] "blue"
  let green :=
    paint ⟨4, 1, .root, "set", ":: set[background] // content % \x7bcolor\x7d(green)", 0⟩ [] "green"
  have hextracted : (Extraction.ofBlock "menu" block).map (·.instructions.filter (·.isLive)) =
      .ok [red, blue, green] := by decide +kernel
  obtain ⟨e, he, hlive⟩ := map_ok_iff.mp hextracted
  have hwinner : winner? active color [red, blue, green] = some (.text "green") := by decide +kernel
  have hmerged : winner? active color (consolidate [red, blue, green]) = some (.text "blue") := by
    decide +kernel
  refine ⟨e, he, ?_, ?_⟩
  · rw [winner?, ← writes_filter fun i hi => isLive_of_mem_writes hi, hlive]
    exact hwinner
  · rw [optimize, winner?_sortByBucket, hlive]
    exact hmerged

end Optimization

end BlockScript
