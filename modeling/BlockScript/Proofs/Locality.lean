import BlockScript.Proofs.Stream
import Mathlib.Data.List.SplitBy

/-!
# Locality of lines

On a line each root operator and each run of hierarchical operators opens one statement
(`Span.map_opener_split`), and nothing else of a statement than its line number depends on where the
line stands (`Statement.ofLine_eq_map`). So no line has a say in what another one reads
(`Block.readsByLine`).
-/

namespace BlockScript

/-! ### Openers -/

namespace Span

variable {t : Token}

/-- The tokens of a line in rows: a maximal run of hierarchical operators makes one row, every other
token a row of its own. -/
def rows (ts : List Token) : List (List Token) :=
  ts.splitBy fun t u => t.kind == .hierarchical && u.kind == .hierarchical

/-- The rows that are runs of hierarchical operators. -/
def runs (ts : List Token) : List (List Token) :=
  (rows ts).filter fun row => row.head?.any (·.kind == .hierarchical)

/-- The statement operators that come first in their rows. -/
def openers (ts : List Token) : List Token :=
  ((rows ts).filterMap List.head?).filter (·.kind.isOpener)

/-- The row of a token ends where what follows its run starts. -/
lemma rows_cons (t : Token) (ts : List Token) :
    ∃ row, rows (t :: ts) = (t :: row) :: rows (afterOpener t ts) := by
  unfold afterOpener rows
  by_cases ht : t.kind = .hierarchical
  · rw [if_pos ht]
    refine ⟨ts.takeWhile (·.kind == .hierarchical), ?_⟩
    have hrun : ∀ u ∈ t :: ts.takeWhile (·.kind == .hierarchical), u.kind = .hierarchical := by
      refine List.forall_mem_cons.mpr ⟨ht, fun u hu => ?_⟩
      simpa using List.mem_takeWhile_imp hu
    have hchain : (t :: ts.takeWhile (·.kind == .hierarchical)).IsChain fun u v =>
        (u.kind == .hierarchical && v.kind == .hierarchical) = true := by
      refine List.Pairwise.isChain (List.pairwise_of_forall_mem_list fun u hu v hv => ?_)
      rw [hrun u hu, hrun v hv]
      rfl
    have hstop : ∀ u ∈ (t :: ts.takeWhile (·.kind == .hierarchical)).getLast?,
        ∀ v ∈ (ts.dropWhile (·.kind == .hierarchical)).head?,
          (u.kind == .hierarchical && v.kind == .hierarchical) = false := by
      intro u _ v hv
      have hhead := List.head?_dropWhile_not (·.kind == .hierarchical) ts
      rw [Option.mem_def.mp hv] at hhead
      exact Bool.and_eq_false_iff.mpr (.inr (by simpa using hhead))
    conv_lhs => rw [← List.takeWhile_append_dropWhile (p := (·.kind == .hierarchical)) (l := ts)]
    rw [← List.cons_append, List.splitBy_append hstop,
      List.splitBy_of_isChain (List.cons_ne_nil _ _) hchain, List.singleton_append]
  · rw [if_neg ht]
    have hstop : ∀ u ∈ [t].getLast?, ∀ v ∈ ts.head?,
        (u.kind == .hierarchical && v.kind == .hierarchical) = false := by
      simp [ht]
    exact ⟨[], List.splitBy_append hstop⟩

lemma openers_cons (t : Token) (ts : List Token) :
    openers (t :: ts) =
      if t.kind.isOpener = true then t :: openers (afterOpener t ts)
      else openers (afterOpener t ts) := by
  obtain ⟨row, hrow⟩ := rows_cons t ts
  rw [openers, hrow, List.filterMap_cons, List.head?_cons, List.filter_cons]
  rfl

lemma length_runs_cons (t : Token) (ts : List Token) :
    (runs (t :: ts)).length =
      (runs (afterOpener t ts)).length + if t.kind = .hierarchical then 1 else 0 := by
  obtain ⟨row, hrow⟩ := rows_cons t ts
  rw [runs, hrow, List.filter_cons, List.head?_cons, Option.any_some]
  by_cases ht : t.kind = .hierarchical <;> simp [ht, runs]

lemma afterOpener_of_ne (ht : t.kind ≠ .hierarchical) (ts : List Token) : afterOpener t ts = ts := by
  rw [afterOpener, if_neg ht]

/-- No root operator is in a run. -/
lemma countP_root_cons (t : Token) (ts : List Token) :
    (t :: ts).countP (·.kind == .root) =
      (afterOpener t ts).countP (·.kind == .root) + if t.kind = .root then 1 else 0 := by
  by_cases ht : t.kind = .hierarchical
  · have hrun : (ts.takeWhile (·.kind == .hierarchical)).countP (·.kind == .root) = 0 := by
      rw [List.countP_eq_zero]
      intro u hu
      have hkind : u.kind = .hierarchical := by simpa using List.mem_takeWhile_imp hu
      simp [hkind]
    conv_lhs => rw [← List.takeWhile_append_dropWhile (p := (·.kind == .hierarchical)) (l := ts)]
    rw [List.countP_cons, List.countP_append, hrun, Nat.zero_add, afterOpener, if_pos ht]
    simp
  · rw [afterOpener_of_ne ht, List.countP_cons]
    simp

/-- Each root operator and each run of hierarchical operators opens one span. -/
theorem map_opener_split (ts : List Token) : (split ts).map (·.opener) = openers ts := by
  induction ts using split_induction with
  | nil => simp [split, openers, rows]
  | skip t ts ht ih =>
    have hkind : t.kind ≠ .hierarchical := by
      intro hkind
      rw [hkind] at ht
      cases ht
    rw [split_skip ht, ih, openers_cons, ht, if_neg Bool.false_ne_true, afterOpener_of_ne hkind]
  | cons t ts ht ih =>
    rw [split_cons ht, List.map_cons, opener_ofOpener, ih, openers_cons, if_pos ht]

lemma isOpener_iff {kind : TokenKind} :
    kind.isOpener = true ↔ kind = .root ∨ kind = .hierarchical := by
  cases kind <;> simp [TokenKind.isOpener]

/-- A line has a span for each root operator and one for each run of hierarchical operators. -/
theorem length_split (ts : List Token) :
    (split ts).length = ts.countP (·.kind == .root) + (runs ts).length := by
  induction ts using split_induction with
  | nil => simp [split, runs, rows]
  | skip t ts ht ih =>
    obtain ⟨hroot, hkind⟩ : t.kind ≠ .root ∧ t.kind ≠ .hierarchical := by
      rw [← not_or, ← isOpener_iff, ht]
      exact Bool.false_ne_true
    rw [split_skip ht, ih, countP_root_cons, length_runs_cons, afterOpener_of_ne hkind, if_neg hroot,
      if_neg hkind]
    rfl
  | cons t ts ht ih =>
    rw [split_cons ht, List.length_cons, ih, countP_root_cons, length_runs_cons]
    rcases isOpener_iff.mp ht with hkind | hkind <;> simp [hkind] <;> omega

end Span

/-! ### Numbers of lines -/

namespace Token

variable {base : Int} {t : Token} {ts : List Token}

lemma sourceAfter_atLine (line : Int) (ht : t.line = base) (hts : ∀ u ∈ ts, u.line = base) :
    sourceAfter (t.atLine line) (ts.map (atLine line)) = sourceAfter t ts := by
  induction ts generalizing t with
  | nil => rfl
  | cons u ts ih =>
    obtain ⟨hu, hts⟩ := List.forall_mem_cons.mp hts
    have hapart : (t.atLine line).apart (u.atLine line) = t.apart u := by
      simp [apart, atLine, ht, hu]
    rw [List.map_cons, sourceAfter, sourceAfter, ih hu hts, hapart]
    rfl

/-- The spelling of tokens on one line does not depend on its number. -/
lemma sourceOf_atLine (line : Int) (hts : ∀ u ∈ ts, u.line = base) :
    sourceOf (ts.map (atLine line)) = sourceOf ts := by
  cases ts with
  | nil => rfl
  | cons t ts =>
    obtain ⟨ht, hts⟩ := List.forall_mem_cons.mp hts
    rw [List.map_cons, sourceOf, sourceOf, sourceAfter_atLine line ht hts]
    rfl

end Token

namespace Statement

variable (line : Int) {base : Int}

lemma readCondition_atLine (ts : List Token) :
    readCondition (ts.map (Token.atLine line)) =
      ((readCondition ts).1, (readCondition ts).2.map (Token.atLine line)) := by
  cases ts with
  | nil => rfl
  | cons t ts =>
    rw [List.map_cons, readCondition, readCondition, Token.kind_atLine]
    split <;> rfl

lemma readDeclaration_atLine (ts : List Token) :
    readDeclaration (ts.map (Token.atLine line)) =
      ((readDeclaration ts).1, (readDeclaration ts).2.map (Token.atLine line)) := by
  cases ts with
  | nil => rfl
  | cons t ts =>
    rw [List.map_cons, readDeclaration, readDeclaration, Token.kind_atLine, Token.value_atLine,
      readCondition_atLine]
    by_cases hkeyword : Text.lower t.value = Keyword.conditional <;>
      by_cases hkind : t.kind = .identifier <;>
      simp [hkeyword, hkind, List.takeWhile_map, List.dropWhile_map, Function.comp_def]

lemma readFunction_atLine (ts : List Token) :
    readFunction (ts.map (Token.atLine line)) =
      (readFunction ts).map fun read => (read.1, read.2.map (Token.atLine line)) := by
  induction ts with
  | nil => rfl
  | cons t ts ih =>
    rw [List.map_cons, readFunction, readFunction, Token.kind_atLine, ih]
    split
    · rfl
    · split <;> rfl

lemma splitAt?_atLine (kind : TokenKind) (ts : List Token) :
    splitAt? kind (ts.map (Token.atLine line)) =
      (splitAt? kind ts).map fun found => (found.1.atLine line, found.2.map (Token.atLine line)) := by
  induction ts with
  | nil => rfl
  | cons t ts ih =>
    rw [List.map_cons, splitAt?, splitAt?, Token.kind_atLine, ih]
    split <;> rfl

lemma targetOf_atLine {zone : List Token} (hzone : ∀ t ∈ zone, t.line = base) :
    targetOf (zone.map (Token.atLine line)) = targetOf zone := by
  unfold targetOf
  rw [Token.sourceOf_atLine line hzone, readFunction_atLine]
  cases readFunction zone with
  | none => rfl
  | some read =>
    simp only [Option.map_some, splitAt?_atLine, Option.map_map]
    rfl

lemma readActions_atLine (ts : List Token) :
    readActions (ts.map (Token.atLine line)) = readActions ts := by
  fun_induction readActions ts with
  | case1 => rfl
  | case2 t hkind => simp [readActions, hkind]
  | case3 t hkind o rest hoption ih => simp [readActions, hkind, hoption, ih]
  | case4 t hkind o rest hoption ih => simpa [readActions, hkind, hoption] using ih
  | case5 t ts hkind ih =>
    cases ts with
    | nil => simp [readActions, hkind]
    | cons u ts => simpa [readActions, hkind] using ih

lemma effectOf_atLine (zone : List Token) :
    effectOf (zone.map (Token.atLine line)) = effectOf zone := by
  rw [effectOf, effectOf, readActions_atLine]

lemma readZone_atLine (kind : TokenKind) (stops : List TokenKind) (ts : List Token) :
    readZone kind stops (ts.map (Token.atLine line)) =
      ((readZone kind stops ts).1.map (·.map (Token.atLine line)),
        (readZone kind stops ts).2.map (Token.atLine line)) := by
  cases ts with
  | nil => rfl
  | cons t ts =>
    rw [List.map_cons, readZone, readZone, Token.kind_atLine]
    split
    · rw [List.takeWhile_map, List.dropWhile_map]
      rfl
    · rfl

/-- A statement on another line. -/
def atLine (s : Statement) : Statement :=
  { s with line := line }

lemma ofSpan_atLine (width : Nat) {span : Span} (hbody : ∀ t ∈ span.body, t.line = base) :
    ofSpan width (span.atLine line) = (ofSpan width span).atLine line := by
  have htarget : ∀ zone ∈ (readZone .relation [.parameter, .trigger]
      (readDeclaration span.body).2).1, targetOf (zone.map (Token.atLine line)) = targetOf zone := by
    intro zone hzone
    have hsubset := (subset_readZone .relation [.parameter, .trigger] _).1 zone hzone
    exact targetOf_atLine line fun t ht => hbody t (subset_readDeclaration _ (hsubset ht))
  simp only [ofSpan, Span.atLine, atLine, readDeclaration_atLine, readZone_atLine, Option.map_map,
    Option.bind_map, Function.comp_def, Option.map_congr htarget, effectOf_atLine, List.head?_map,
    Token.value_atLine]
  rfl

lemma ofLine_eq_map (width : Nat) (base line : Int) (text : String) :
    ofLine width line text = (ofLine width base text).map (atLine line) := by
  rw [ofLine, ofLine, Token.scan_eq_map base line, Span.split_atLine, List.map_map, List.map_map]
  refine List.map_congr_left fun span hspan => ?_
  have hbody : ∀ t ∈ span.body, t.line = base := fun t ht =>
    Token.line_of_mem_scanFrom (Span.body_subset_of_mem_split hspan ht)
  exact ofSpan_atLine line width hbody

/-! ### Lines -/

variable {width : Nat} {start : Int} {lines : List String}

/-- A block says what its lines say, each with its number. -/
lemma ofLinesFrom_eq_flatMap (width start : Nat) (lines : List String) :
    ofLinesFrom width start lines =
      (lines.zipIdx start).flatMap fun numbered =>
        (ofLine width 1 numbered.1).map (atLine numbered.2) := by
  induction lines generalizing start with
  | nil => rfl
  | cons text lines ih =>
    rw [ofLinesFrom, ofLine_eq_map width 1 start, ← Int.natCast_succ, ih, List.zipIdx_cons,
      List.flatMap_cons]

/-- Putting another text in the place of a line leaves the statements of all other lines alone. -/
lemma filter_ofLinesFrom_set (k : Nat) (text : String) :
    (ofLinesFrom width start (lines.set k text)).filter (·.line ≠ start + k) =
      (ofLinesFrom width start lines).filter (·.line ≠ start + k) := by
  induction lines generalizing start k with
  | nil => rfl
  | cons old lines ih =>
    cases k with
    | zero =>
      have hnone (text : String) : (ofLine width start text).filter (·.line ≠ start + (0 : Nat)) = [] := by
        rw [List.filter_eq_nil_iff]
        intro s hs
        simp [line_of_mem_ofLine hs]
      rw [List.set_cons_zero, ofLinesFrom, ofLinesFrom, List.filter_append, List.filter_append,
        hnone, hnone]
    | succ k =>
      have hshift : start + (k + 1 : Nat) = start + 1 + k := by omega
      rw [List.set_cons_succ, ofLinesFrom, ofLinesFrom, List.filter_append, List.filter_append,
        hshift, ih]

/-- Blanking a line takes its statements away. -/
lemma ofLinesFrom_set_of_allBlank {text : String} (htext : Text.allBlank text = true) (k : Nat) :
    ofLinesFrom width start (lines.set k text) =
      (ofLinesFrom width start lines).filter (·.line ≠ start + k) := by
  rw [← filter_ofLinesFrom_set k text, eq_comm, List.filter_eq_self]
  intro s hs
  obtain ⟨j, other, hother, hs⟩ := mem_ofLinesFrom_iff.mp hs
  rw [line_of_mem_ofLine hs, decide_eq_true_iff]
  intro hline
  obtain rfl : j = k := by omega
  obtain ⟨-, rfl⟩ : j < lines.length ∧ text = other := by
    simpa [List.getElem?_set] using hother
  rw [ofLine_of_allBlank htext] at hs
  exact List.not_mem_nil hs

end Statement

/-! ### Blocks -/

namespace Block

/-- What it means that the statements of a block are read line by line. -/
structure ReadsByLine (width : Nat) (read : List String → List Statement) : Prop where
  /-- Each line is read as if it were the only one, but for its number. -/
  lines : ∀ lines, read lines = (lines.zipIdx 1).flatMap fun numbered =>
    (read [numbered.1]).map (Statement.atLine numbered.2)
  /-- The statements of a line stand where its root operators are and where its runs of hierarchical
  operators start. -/
  openers : ∀ text, (read [text]).map (fun s => (s.operator, s.column)) =
    (Span.openers (Token.scan width 1 text)).map fun t =>
      (if t.kind = .hierarchical then .hierarchical else .root, t.column)
  count : ∀ text, (read [text]).length =
    (Token.scan width 1 text).countP (·.kind == .root) + (Span.runs (Token.scan width 1 text)).length
  replaced : ∀ lines (k : Nat) text, (read (lines.set k text)).filter (·.line ≠ 1 + (k : Int)) =
    (read lines).filter (·.line ≠ 1 + (k : Int))
  blanked : ∀ lines (k : Nat) text, Text.allBlank text = true →
    read (lines.set k text) = (read lines).filter (·.line ≠ 1 + (k : Int))

/-- Reading the stream of all tokens of a block is local to its lines. -/
theorem readsByLine (width : Nat) :
    ReadsByLine width fun lines => (ofTokens width (Token.ofLines width 1 lines)).statements := by
  have hread (lines : List String) : (ofTokens width (Token.ofLines width 1 lines)).statements =
      Statement.ofLinesFrom width 1 lines := by
    rw [ofTokens_ofLines]
    rfl
  have hline (text : String) : Statement.ofLinesFrom width 1 [text] =
      (Span.split (Token.scan width 1 text)).map (Statement.ofSpan width) := List.append_nil _
  simp only [hread]
  exact {
    lines := fun lines => by
      simp only [hline]
      exact Statement.ofLinesFrom_eq_flatMap width 1 lines
    openers := fun text => by
      rw [hline, ← Span.map_opener_split, List.map_map, List.map_map]
      refine List.map_congr_left fun span _ => ?_
      simp [Statement.ofSpan, Span.isHierarchical]
    count := fun text => by
      rw [hline, List.length_map, Span.length_split]
    replaced := fun lines k text => Statement.filter_ofLinesFrom_set k text
    blanked := fun lines k text htext => Statement.ofLinesFrom_set_of_allBlank htext k }

end Block

end BlockScript
