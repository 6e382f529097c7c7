import BlockScript.Proofs.Extraction

/-!
# Rows of digits that are read

Extraction fails in one way only: on a row of digits that is too long to be read. Which rows it reads is
known from the statements (`Statement.numerals`), and it fails on the first of them that is too long
(`Extraction.readsRows_ofBlock`).
-/

namespace BlockScript

/-! ### Computations that read rows of digits -/

/-- The failure of reading some rows of digits, one after the other. -/
def overflow? (rows : List (List Char)) : Option NumberError :=
  (rows.find? (digitLimit < ·.length)).map fun row => .tooManyDigits row.length

lemma overflow?_eq_none_iff {rows : List (List Char)} :
    overflow? rows = none ↔ ∀ row ∈ rows, row.length ≤ digitLimit := by
  simp [overflow?]

/-- Whether a computation fails as reading some rows of digits does, and in no other way. -/
def ReadsRows {α : Type} (rows : List (List Char)) (x : Except NumberError α) : Prop :=
  ∀ e, x = .error e ↔ overflow? rows = some e

namespace ReadsRows

variable {α β : Type} {rows more : List (List Char)} {x : Except NumberError α}

lemma exists_ok_iff (h : ReadsRows rows x) :
    (∃ a, x = .ok a) ↔ ∀ row ∈ rows, row.length ≤ digitLimit := by
  rw [← overflow?_eq_none_iff]
  cases x with
  | ok a =>
    refine ⟨fun _ => Option.eq_none_iff_forall_ne_some.mpr fun e he => ?_, fun _ => ⟨a, rfl⟩⟩
    cases (h e).mpr he
  | error e => simp [(h e).mp rfl]

lemma pure (a : α) : ReadsRows [] (.ok a) := fun e => by simp [overflow?]

lemma bind {f : α → Except NumberError β} (hx : ReadsRows rows x)
    (hf : ∀ a, ReadsRows more (f a)) : ReadsRows (rows ++ more) (x >>= f) := by
  intro e
  rw [overflow?, List.find?_append, Option.map_or, ← overflow?, ← overflow?]
  cases x with
  | ok a =>
    have hnone : overflow? rows = none :=
      overflow?_eq_none_iff.mpr (hx.exists_ok_iff.mp ⟨a, rfl⟩)
    rw [hnone, Option.none_or]
    exact hf a e
  | error first =>
    rw [(hx first).mp rfl, Option.some_or]
    simp [Bind.bind, Except.bind]

lemma map_iff (f : α → β) : ReadsRows rows (f <$> x) ↔ ReadsRows rows x := by
  cases x with
  | ok a => simp [ReadsRows, Functor.map, Except.map]
  | error e => simp [ReadsRows, Functor.map, Except.map]

lemma mapM {f : α → Except NumberError β} {rowsOf : α → List (List Char)}
    (h : ∀ a, ReadsRows (rowsOf a) (f a)) (as : List α) :
    ReadsRows (as.flatMap rowsOf) (as.mapM f) := by
  induction as with
  | nil => exact pure []
  | cons a as ih =>
    rw [List.mapM_cons, List.flatMap_cons]
    exact (h a).bind fun b => (map_iff (b :: ·)).mpr ih

end ReadsRows

lemma readsRows_readDigits (ds : List Char) : ReadsRows [ds] (readDigits ds) := by
  intro e
  rw [readDigits, overflow?]
  split
  next hlong => simp [hlong]
  next hshort => simp [hshort]

/-! ### Arguments and options -/

/-- The rows of digits in an argument that is a number or a range. -/
def Selector.numerals (argument : String) : List (List Char) :=
  let cs := argument.toList
  if isNumeral cs then [cs]
  else
    match rangeDigits? cs with
    | some (first, last) => [first, last]
    | none => []

lemma Selector.readsRows_readPosition (argument : String) :
    ReadsRows (numerals argument) (readPosition argument) := by
  simp only [numerals, readPosition]
  cases isNumeral argument.toList with
  | true => exact (ReadsRows.map_iff _).mpr (readsRows_readDigits _)
  | false =>
    simp only [Bool.false_eq_true, if_false]
    cases rangeDigits? argument.toList with
    | none => exact ReadsRows.pure none
    | some range =>
      exact (readsRows_readDigits range.1).bind fun a =>
        (ReadsRows.map_iff _).mpr (readsRows_readDigits range.2)

lemma Selector.readsRows_normalize (function : String) (argument : Option String)
    (parent : Option Scope) :
    ReadsRows (argument.toList.flatMap numerals) (normalize function argument parent) := by
  unfold normalize
  split
  next kind own _ =>
    split
    next hnone =>
      have hempty : argument.toList.flatMap numerals = [] := by
        cases argument with
        | none => rfl
        | some text =>
          obtain rfl : text = "" := by simpa using hnone
          decide
      rw [hempty]
      exact ReadsRows.pure _
    next text htext =>
      obtain ⟨rfl, -⟩ := Option.filter_eq_some_iff.mp htext
      rw [Option.toList_some, List.flatMap_singleton, ← List.append_nil (numerals text)]
      refine (readsRows_readPosition text).bind fun position => ?_
      cases position <;> exact ReadsRows.pure _

/-- The row of digits in an option that is a number. -/
def optionNumerals (raw : String) : List (List Char) :=
  [dropLineFeed raw.toList].filter isNumeral

lemma readsRows_readOption (raw : String) : ReadsRows (optionNumerals raw) (readOption raw) := by
  simp only [readOption]
  split
  next h =>
    rw [h]
    exact ReadsRows.pure _
  next =>
    split
    next h =>
      rw [h]
      exact ReadsRows.pure _
    next =>
      split
      next hnumeral =>
        rw [optionNumerals, List.filter_cons_of_pos hnumeral]
        exact (ReadsRows.map_iff _).mpr (readsRows_readDigits _)
      next hother =>
        rw [optionNumerals, List.filter_cons_of_neg hother]
        split <;> exact ReadsRows.pure _

/-! ### Statements -/

namespace Statement

/-- The rows of digits that are read in the options of an effect. -/
def effectNumerals (zone : EffectZone) : List (List Char) :=
  if zone.action.isSome then zone.parameters.flatMap fun p => optionNumerals p.2 else []

lemma readsRows_readEffect (zone : EffectZone) : ReadsRows (effectNumerals zone) (readEffect zone) := by
  unfold effectNumerals readEffect
  cases zone.action with
  | none => exact ReadsRows.pure none
  | some action =>
    refine (ReadsRows.map_iff _).mpr (ReadsRows.mapM (fun p => ?_) zone.parameters)
    exact (ReadsRows.map_iff _).mpr (readsRows_readOption p.2)

/-- The rows of digits that are read in a statement: in its argument and in its options. -/
def numerals (s : Statement) : List (List Char) :=
  (s.target.bind (·.argument)).toList.flatMap Selector.numerals ++
    s.effect.toList.flatMap effectNumerals

lemma readsRows_instruction (block : String) (scope : Option Scope) (conditions : List Condition)
    {s : Statement} (keyword : String) {target : TargetZone} (children : List Statement)
    (htarget : s.target = some target) :
    ReadsRows s.numerals (s.instruction block scope conditions keyword target children) := by
  unfold numerals instruction
  rw [htarget, Option.bind_some]
  refine (Selector.readsRows_normalize target.function target.argument scope).bind fun selector => ?_
  cases s.effect with
  | none => exact ReadsRows.pure _
  | some zone =>
    rw [Option.toList_some, List.flatMap_singleton]
    exact (ReadsRows.map_iff _).mpr (readsRows_readEffect zone)

end Statement

/-! ### Nodes and blocks -/

lemma Forest.Node.readsRows_instruction? (block : String) (n : Node Statement) :
    ReadsRows (if n.isEmitted then n.item.numerals else []) (n.instruction? block) := by
  unfold instruction? isEmitted
  rw [List.all_cons, Statement.isUsable]
  cases husable : n.item.usable? with
  | none => exact ReadsRows.pure none
  | some found =>
    obtain ⟨keyword, target⟩ := found
    obtain ⟨-, htarget, -⟩ := Statement.usable?_eq_some_iff.mp husable
    rw [Option.isSome_some, Bool.true_and]
    cases n.ancestors.all (·.isUsable) with
    | false => exact ReadsRows.pure none
    | true =>
      exact (ReadsRows.map_iff _).mpr
        (Statement.readsRows_instruction block _ _ keyword n.children htarget)

namespace Extraction

lemma readsRows_gather (block : String) (nodes : List (Forest.Node Statement)) :
    ReadsRows ((nodes.filter (·.isEmitted)).flatMap (·.item.numerals)) (gather block nodes) := by
  rw [gather, ReadsRows.map_iff, ← flatMap_ite_eq_flatMap_filter]
  exact ReadsRows.mapM (Forest.Node.readsRows_instruction? block) nodes

/-- Extraction fails on the first row of digits that is too long, and in no other way. -/
lemma readsRows_ofBlock (id : String) (block : Block) :
    ReadsRows ((block.forest.nodes.filter (·.isEmitted)).flatMap (·.item.numerals))
      (ofBlock id block) := by
  rw [← ReadsRows.map_iff (·.instructions), map_instructions_ofBlock]
  exact readsRows_gather id block.forest.nodes

end Extraction

end BlockScript
