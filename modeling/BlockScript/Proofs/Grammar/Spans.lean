import BlockScript.Grammar.Span
import Mathlib.Data.List.TakeWhile
import Mathlib.Tactic.Common

/-!
# Splitting lines into spans

A line is taken apart operator by operator (`Span.split_cons`): what is not taken by the run of an
operator goes to its body up to the next operator. The principle `Span.split_induction` follows the
operators of a line.
-/

namespace BlockScript

/-- A token on another line. -/
def Token.atLine (line : Int) (t : Token) : Token :=
  { t with line := line }

@[simp] lemma Token.kind_atLine (line : Int) (t : Token) : (t.atLine line).kind = t.kind := rfl

@[simp] lemma Token.value_atLine (line : Int) (t : Token) : (t.atLine line).value = t.value := rfl

namespace Span

variable {t : Token} {ts : List Token} {s : Span}

/-! ### The span of an operator -/

/-- What follows an operator and its run. -/
def afterOpener (opener : Token) (ts : List Token) : List Token :=
  if opener.kind = .hierarchical then ts.dropWhile (·.kind == .hierarchical) else ts

lemma afterOpener_suffix (t : Token) (ts : List Token) : afterOpener t ts <:+ ts := by
  unfold afterOpener
  split
  · exact List.dropWhile_suffix _
  · exact List.suffix_rfl

lemma opener_ofOpener (t : Token) (ts : List Token) : (ofOpener t ts).opener = t := by
  unfold ofOpener
  split <;> rfl

lemma body_ofOpener (t : Token) (ts : List Token) :
    (ofOpener t ts).body = (afterOpener t ts).takeWhile (!·.kind.isOpener) := by
  unfold ofOpener afterOpener
  split <;> rfl

lemma body_subset_ofOpener (t : Token) (ts : List Token) : (ofOpener t ts).body ⊆ ts := by
  rw [body_ofOpener]
  exact fun u hu => (afterOpener_suffix t ts).subset ((List.takeWhile_prefix _).subset hu)

/-- The operators of a run after its first one make a level each. -/
lemma depth_ofOpener (width : Nat) (t : Token) (ts : List Token) :
    (ofOpener t ts).depth width =
      if t.kind = .hierarchical then t.start / width + ((ofOpener t ts).chain - 1) else 0 := by
  unfold depth isHierarchical
  rw [opener_ofOpener]
  by_cases hkind : t.kind = .hierarchical
  · simp [hkind, ofOpener, ← Nat.add_assoc]
  · simp [hkind]

lemma drop_length_takeWhile {α : Type} (p : α → Bool) (items : List α) :
    items.drop (items.takeWhile p).length = items.dropWhile p := by
  have hsplit := List.takeWhile_append_dropWhile (p := p) (l := items)
  calc items.drop (items.takeWhile p).length
      = (items.takeWhile p ++ items.dropWhile p).drop (items.takeWhile p).length := by rw [hsplit]
    _ = items.dropWhile p := List.drop_left

/-- What follows a span starts with the next operator. -/
lemma drop_tailLength (t : Token) (ts : List Token) :
    ts.drop (ofOpener t ts).tailLength = (afterOpener t ts).dropWhile (!·.kind.isOpener) := by
  rw [tailLength, body_ofOpener, ← List.drop_drop]
  have hrun : ts.drop ((ofOpener t ts).chain - 1) = afterOpener t ts := by
    unfold ofOpener afterOpener
    split
    · exact drop_length_takeWhile _ ts
    · rfl
  rw [hrun, drop_length_takeWhile]

/-! ### The spans of a line -/

lemma split_skip (ht : t.kind.isOpener = false) (ts : List Token) : split (t :: ts) = split ts := by
  rw [split, if_neg (by rw [ht]; exact Bool.false_ne_true)]

/-- What stands before the first operator is in no span. -/
lemma split_dropWhile (ts : List Token) :
    split (ts.dropWhile (!·.kind.isOpener)) = split ts := by
  induction ts with
  | nil => rfl
  | cons t ts ih =>
    rw [List.dropWhile_cons]
    cases hopener : t.kind.isOpener with
    | true => rfl
    | false => rw [split_skip hopener, ← ih]; rfl

lemma split_cons (ht : t.kind.isOpener = true) (ts : List Token) :
    split (t :: ts) = ofOpener t ts :: split (afterOpener t ts) := by
  rw [split, if_pos ht]
  dsimp only
  rw [drop_tailLength, split_dropWhile]

/-- Induction along the operators of a line. -/
lemma split_induction {motive : List Token → Prop} (nil : motive [])
    (skip : ∀ t ts, t.kind.isOpener = false → motive ts → motive (t :: ts))
    (cons : ∀ t ts, t.kind.isOpener = true → motive (afterOpener t ts) → motive (t :: ts)) :
    ∀ ts, motive ts
  | [] => nil
  | t :: ts =>
    match ht : t.kind.isOpener with
    | false => skip t ts ht (split_induction nil skip cons ts)
    | true => cons t ts ht (split_induction nil skip cons (afterOpener t ts))
termination_by ts => ts.length
decreasing_by
  · exact Nat.lt_succ_self _
  · exact Nat.lt_succ_of_le (afterOpener_suffix t ts).length_le

/-- A row of tokens that starts with an opener and has no other but those of its run is one span. -/
lemma split_of_single (ht : t.kind.isOpener = true)
    (hrest : ∀ u ∈ afterOpener t ts, u.kind.isOpener = false) : split (t :: ts) = [ofOpener t ts] := by
  have hnone : (afterOpener t ts).dropWhile (!·.kind.isOpener) = [] := by
    rw [List.dropWhile_eq_nil_iff]
    intro u hu
    rw [hrest u hu]
    rfl
  rw [split_cons ht, ← split_dropWhile, hnone, split]

/-- The operators of the spans stand in the order of the line. -/
lemma sublist_opener_split (ts : List Token) : ((split ts).map (·.opener)).Sublist ts := by
  induction ts using split_induction with
  | nil => simp [split]
  | skip t ts ht ih =>
    rw [split_skip ht]
    exact ih.cons t
  | cons t ts ht ih =>
    rw [split_cons ht, List.map_cons, opener_ofOpener]
    exact (ih.trans (afterOpener_suffix t ts).sublist).cons_cons t

lemma opener_of_mem_split (h : s ∈ split ts) : s.opener ∈ ts :=
  (sublist_opener_split ts).subset (List.mem_map_of_mem h)

lemma body_subset_of_mem_split (h : s ∈ split ts) : s.body ⊆ ts := by
  induction ts using split_induction with
  | nil => simp [split] at h
  | skip t ts ht ih =>
    rw [split_skip ht] at h
    exact fun u hu => List.mem_cons_of_mem t (ih h hu)
  | cons t ts ht ih =>
    rw [split_cons ht, List.mem_cons] at h
    rcases h with rfl | h
    · exact fun u hu => List.mem_cons_of_mem t (body_subset_ofOpener t ts hu)
    · exact fun u hu => List.mem_cons_of_mem t ((afterOpener_suffix t ts).subset (ih h hu))

/-! ### Spans of changed tokens -/

/-- A span with each of its tokens changed. -/
def map (f : Token → Token) (s : Span) : Span :=
  ⟨f s.opener, s.chain, s.body.map f⟩

section

variable {f : Token → Token} (hf : ∀ t, (f t).kind = t.kind)
include hf

lemma ofOpener_map (t : Token) (ts : List Token) :
    ofOpener (f t) (ts.map f) = (ofOpener t ts).map f := by
  unfold ofOpener
  rw [hf]
  split <;> simp [map, List.takeWhile_map, List.dropWhile_map, Function.comp_def, hf]

lemma afterOpener_map (t : Token) (ts : List Token) :
    afterOpener (f t) (ts.map f) = (afterOpener t ts).map f := by
  unfold afterOpener
  rw [hf]
  split
  · rw [List.dropWhile_map, Function.comp_def]
    simp only [hf]
  · rfl

/-- How tokens fall into spans depends on their kinds alone. -/
lemma split_map (ts : List Token) : split (ts.map f) = (split ts).map (map f) := by
  induction ts using split_induction with
  | nil => simp [split]
  | skip t ts ht ih =>
    have hft : (f t).kind.isOpener = false := by rw [hf, ht]
    rw [List.map_cons, split_skip hft, split_skip ht, ih]
  | cons t ts ht ih =>
    have hft : (f t).kind.isOpener = true := by rw [hf, ht]
    rw [List.map_cons, split_cons hft, split_cons ht, ofOpener_map hf, afterOpener_map hf, ih,
      List.map_cons]

end

/-- A span on another line. -/
def atLine (line : Int) (s : Span) : Span :=
  ⟨s.opener.atLine line, s.chain, s.body.map (Token.atLine line)⟩

/-- Spans do not depend on the number of the line. -/
lemma split_atLine (line : Int) (ts : List Token) :
    split (ts.map (Token.atLine line)) = (split ts).map (atLine line) :=
  split_map (Token.kind_atLine line) ts

end Span

end BlockScript
