import BlockScript.Proofs.Grammar.Acceptance
import BlockScript.Proofs.Grammar.Concerns
import BlockScript.Proofs.Statement.Source
import BlockScript.Proofs.Stream

/-!
# Pairs of an effect zone

Validation and reading go through an effect zone in different steps, and find the same in it: the
pairs of neighbours that are an action with its option (`pairsOf`), and the tokens that are in no pair
(`unpairedIn`). So what is read of a zone are its pairs, and what is reported of it are the tokens that
are in none (`Statement.effect_pairs`).
-/

namespace BlockScript

/-- Whether a token and the one behind it are an action with its option. -/
def Token.isPair (a o : Token) : Bool :=
  a.kind == .actionBlock && o.kind == .optionBlock

/-- The neighbours that are an action with its option, from left to right. -/
def pairsOf (zone : List Token) : List (Token × Token) :=
  (zone.zip zone.tail).filter fun p => p.1.isPair p.2

/-- The tokens that are no pair with the token in front of them, nor with the one behind them. -/
def unpairedIn (previous : Option Token) : List Token → List Token
  | [] => []
  | t :: ts =>
    if previous.any (·.isPair t) || ts.head?.any t.isPair then unpairedIn (some t) ts
    else t :: unpairedIn (some t) ts

/-- What is to be said of a token that is in no pair. -/
def Problem.ofUnpaired (t : Token) : Problem :=
  if t.kind = .actionBlock then .actionWithoutOption t.value else .strayInEffect t.kind

/-! ### Zones -/

section

variable {a o t : Token} {ts : List Token}

lemma Token.isPair_iff : a.isPair o = true ↔ a.kind = .actionBlock ∧ o.kind = .optionBlock := by
  simp [isPair]

/-- An option does not start a pair. -/
lemma Token.isPair_of_option (h : o.kind = .optionBlock) (t : Token) : o.isPair t = false := by
  simp [isPair, h]

/-- A zone starts with a pair, or with a token that is no pair with the next one. -/
lemma zone_induction {motive : List Token → Prop} (zone : List Token) (nil : motive [])
    (pair : ∀ a o ts, a.isPair o = true → motive ts → motive (a :: o :: ts))
    (single : ∀ t ts, (∀ o ∈ ts.head?, t.isPair o = false) → motive ts → motive (t :: ts)) :
    motive zone := by
  fun_induction Statement.readActions zone with
  | case1 => exact nil
  | case2 t ht => exact single t [] (by simp) nil
  | case3 t ht o rest ho ih => exact pair t o rest (Token.isPair_iff.mpr ⟨ht, ho⟩) ih
  | case4 t ht o rest ho ih =>
    apply single t (o :: rest)
    · intro u hu
      obtain rfl : o = u := by simpa using hu
      simp [Token.isPair, ho]
    · exact ih
  | case5 t ts ht ih =>
    apply single t ts
    · intro u _
      simp [Token.isPair, ht]
    · exact ih

lemma pairsOf_single (h : ∀ o ∈ ts.head?, t.isPair o = false) : pairsOf (t :: ts) = pairsOf ts := by
  cases ts with
  | nil => rfl
  | cons o ts => simp [pairsOf, h o rfl]

lemma pairsOf_pair (h : a.isPair o = true) : pairsOf (a :: o :: ts) = (a, o) :: pairsOf ts := by
  have hrest : pairsOf (o :: ts) = pairsOf ts :=
    pairsOf_single fun t _ => Token.isPair_of_option (Token.isPair_iff.mp h).2 t
  rw [← hrest]
  simp [pairsOf, h]

/-- A token that is no pair with the next one does not matter behind it. -/
lemma unpairedIn_some (h : ∀ o ∈ ts.head?, t.isPair o = false) :
    unpairedIn (some t) ts = unpairedIn none ts := by
  cases ts with
  | nil => rfl
  | cons o ts => simp [unpairedIn, h o rfl]

lemma unpairedIn_single (h : ∀ o ∈ ts.head?, t.isPair o = false) :
    unpairedIn none (t :: ts) = t :: unpairedIn none ts := by
  rw [← unpairedIn_some h]
  cases ts with
  | nil => simp [unpairedIn]
  | cons o ts => simp [unpairedIn, h o rfl]

lemma unpairedIn_pair (h : a.isPair o = true) : unpairedIn none (a :: o :: ts) = unpairedIn none ts := by
  have hrest : unpairedIn (some o) ts = unpairedIn none ts :=
    unpairedIn_some fun t _ => Token.isPair_of_option (Token.isPair_iff.mp h).2 t
  rw [← hrest]
  simp [unpairedIn, h]

/-- Each token is in one pair or in none. -/
lemma length_zone (zone : List Token) :
    zone.length = (unpairedIn none zone).length + 2 * (pairsOf zone).length := by
  induction zone using zone_induction with
  | nil => rfl
  | pair a o ts h ih =>
    rw [unpairedIn_pair h, pairsOf_pair h]
    simp only [List.length_cons]
    omega
  | single t ts h ih =>
    rw [unpairedIn_single h, pairsOf_single h]
    simp only [List.length_cons]
    omega

/-- Where no token is left over, the zone is its pairs. -/
lemma paired_pairsOf (h : unpairedIn none ts = []) :
    Paired ts ((pairsOf ts).map fun p => (p.1.value, p.2.value)) := by
  induction ts using zone_induction with
  | nil => exact .nil
  | pair a o ts hpair ih =>
    obtain ⟨ha, ho⟩ := Token.isPair_iff.mp hpair
    rw [unpairedIn_pair hpair] at h
    rw [pairsOf_pair hpair]
    exact .cons ha ho (ih h)
  | single t ts hsingle ih =>
    rw [unpairedIn_single hsingle] at h
    cases h

lemma unpairedIn_of_paired {ps : List (String × String)} (h : Paired ts ps) :
    unpairedIn none ts = [] := by
  induction h with
  | nil => rfl
  | cons ha ho _ ih => rw [unpairedIn_pair (Token.isPair_iff.mpr ⟨ha, ho⟩), ih]

end

/-! ### Validation -/

namespace Grammar

variable {a o t p : Token} {ts zone rest : List Token}

lemma checkPairs_pair (h : a.isPair o = true) : checkPairs (a :: o :: ts) = checkPairs ts := by
  obtain ⟨ha, ho⟩ := Token.isPair_iff.mp h
  rw [checkPairs, if_pos ha]
  simp only [ho, if_true]

lemma checkPairs_single (h : ∀ o ∈ ts.head?, t.isPair o = false) :
    checkPairs (t :: ts) = Problem.ofUnpaired t :: checkPairs ts := by
  unfold Problem.ofUnpaired
  by_cases ht : t.kind = .actionBlock
  · cases ts with
    | nil => simp [checkPairs, ht]
    | cons o ts =>
      have ho : o.kind ≠ .optionBlock := by
        intro ho
        simpa [Token.isPair, ht, ho] using h o rfl
      rw [checkPairs, if_pos ht, if_pos ht, if_neg ho]
  · cases ts with
    | nil => simp [checkPairs, ht]
    | cons o ts => rw [checkPairs, if_neg ht, if_neg ht]

/-- What is reported of a zone are the tokens that are in no pair. -/
lemma checkPairs_eq (zone : List Token) :
    checkPairs zone = (unpairedIn none zone).map Problem.ofUnpaired := by
  induction zone using zone_induction with
  | nil => rfl
  | pair a o ts h ih => rw [checkPairs_pair h, unpairedIn_pair h, ih]
  | single t ts h ih => rw [checkPairs_single h, unpairedIn_single h, ih, List.map_cons]

/-- Of the problems of a statement with a `%`, those of its effect are those of the zone behind it. -/
lemma filter_checkSpan {span : Span} (h : splitAt? .parameter span.body = some (p, rest))
    (width : Nat) (stack : Stack) :
    (checkSpan width span stack).1.filter (·.1.concern = .effect) =
      checkEffect p ((splitAt? .trigger span.body).map (·.1)) rest := by
  have hkeep : ∀ q ∈ checkEffect p ((splitAt? .trigger span.body).map (·.1)) rest,
      decide (q.1.concern = .effect) = true := by
    intro q hq
    simp [concern_of_mem_checkEffect hq]
  have hdrop : ∀ {qs : List (Problem × Nat)} {concern : Concern},
      (∀ q ∈ qs, q.1.concern = concern) → concern ≠ .effect →
        qs.filter (·.1.concern = .effect) = [] := by
    intro qs concern hqs hne
    apply List.filter_eq_nil_iff.mpr
    intro q hq
    simp [hqs q hq, hne]
  have hshallow : ∀ q ∈ (if span.isHierarchical ∧ span.depth width = 0 then
      [(Problem.hierarchicalAtDepthZero, span.opener.column)] else []),
      q.1.concern = .indentation := by
    intro q hq
    split at hq
    · obtain rfl := List.mem_singleton.mp hq
      rfl
    · cases hq
  obtain ⟨order, target, output, hzones, horder, htarget, houtput⟩ :=
    checkZones_eq (keywordOf span.body) span.body
  rw [h] at hzones
  unfold checkSpan
  simp only [hzones, List.filter_append]
  rw [hdrop hshallow (by decide), hdrop (fun q => concern_of_mem_checkDeclaration) (by decide),
    hdrop horder (by decide), hdrop htarget (by decide), hdrop houtput (by decide),
    hdrop (fun q => concern_of_mem_enter) (by decide), List.filter_eq_self.mpr hkeep]
  simp

end Grammar

/-! ### The zone of a statement -/

/-- The effect zone of a statement: what stands behind its first `%`, up to the first `->`. An output
in front of it leaves none behind it. -/
structure IsEffectZone (body front : List Token) (parameter : Token) (zone back : List Token) :
    Prop where
  eq_append : body = front ++ parameter :: (zone ++ back)
  kind_parameter : parameter.kind = .parameter
  kind_front : ∀ u ∈ front, u.kind ≠ .parameter
  kind_zone : ∀ u ∈ zone, u.kind ≠ .trigger
  kind_back : ∀ u ∈ back.head?, u.kind = .trigger
  back_eq_nil : (∃ u ∈ front, u.kind = .trigger) → back = []

lemma exists_splitAt?_append {kind : TokenKind} {front : List Token}
    (h : ∃ u ∈ front, u.kind = kind) (back : List Token) :
    ∃ t ∈ front, ∃ rest, splitAt? kind (front ++ back) = some (t, rest) := by
  induction front with
  | nil => simp at h
  | cons t front ih =>
    rw [List.cons_append, splitAt?]
    by_cases ht : t.kind = kind
    · rw [if_pos ht]
      exact ⟨t, List.mem_cons_self, _, rfl⟩
    · rw [if_neg ht]
      have hfront : ∃ u ∈ front, u.kind = kind := by simpa [ht] using h
      obtain ⟨u, hu, rest, hrest⟩ := ih hfront
      exact ⟨u, List.mem_cons_of_mem t hu, rest, hrest⟩

namespace IsEffectZone

variable {body front zone back : List Token} {parameter : Token}

lemma splitAt?_parameter (h : IsEffectZone body front parameter zone back) :
    splitAt? .parameter body = some (parameter, zone ++ back) := by
  rw [h.eq_append]
  exact splitAt?_append h.kind_front h.kind_parameter _

/-- Validation finds the zone, as tokens stand in the order of their places. -/
lemma effectTokens (h : IsEffectZone body front parameter zone back)
    (hsorted : body.Pairwise (·.start < ·.start)) :
    Grammar.effectTokens parameter ((splitAt? .trigger body).map (·.1)) (zone ++ back) = zone := by
  have hzone : ∀ u ∈ zone, decide (u.kind ≠ .trigger) = true := by
    intro u hu
    simpa using h.kind_zone u hu
  rw [h.eq_append] at hsorted ⊢
  by_cases htrigger : ∃ u ∈ front, u.kind = .trigger
  · obtain ⟨t, ht, rest, hsplit⟩ := exists_splitAt?_append htrigger (parameter :: (zone ++ back))
    have hbefore : t.start < parameter.start :=
      (List.pairwise_append.mp hsorted).2.2 t ht parameter List.mem_cons_self
    rw [hsplit, h.back_eq_nil htrigger, List.append_nil]
    simp only [Option.map_some, Grammar.effectTokens]
    rw [if_neg (Nat.lt_asymm hbefore)]
  · have hfront : ∀ u ∈ front ++ parameter :: zone, u.kind ≠ .trigger := by
      simp only [List.forall_mem_append, List.forall_mem_cons]
      refine ⟨fun u hu heq => htrigger ⟨u, hu, heq⟩, ?_, h.kind_zone⟩
      simp [h.kind_parameter]
    have hassoc : front ++ parameter :: (zone ++ back) = (front ++ parameter :: zone) ++ back := by
      simp
    rw [hassoc]
    cases back with
    | nil =>
      rw [List.append_nil, splitAt?_of_forall_ne hfront, List.append_nil]
      rfl
    | cons t back =>
      have ht : t.kind = .trigger := h.kind_back t rfl
      have hafter : t.start > parameter.start := by
        have hrest := (List.pairwise_append.mp hsorted).2.1
        exact (List.pairwise_cons.mp hrest).1 t (by simp)
      rw [splitAt?_append hfront ht]
      simp only [Option.map_some, Grammar.effectTokens, if_pos hafter]
      rw [List.takeWhile_append_of_pos hzone, List.takeWhile_cons]
      simp [ht]

/-- What validation reports of the effect. -/
lemma checkEffect (h : IsEffectZone body front parameter zone back)
    (hsorted : body.Pairwise (·.start < ·.start)) :
    Grammar.checkEffect parameter ((splitAt? .trigger body).map (·.1)) (zone ++ back) =
      if zone = [] then [(.emptyEffect, parameter.column)]
      else (unpairedIn none zone).map (Problem.ofUnpaired ·, parameter.column) := by
  rw [Grammar.checkEffect, h.effectTokens hsorted]
  cases zone with
  | nil => rfl
  | cons t zone => simp [Grammar.checkPairs_eq]

end IsEffectZone

/-! ### Reading -/

namespace Statement

variable {a o t : Token} {ts : List Token}

lemma readActions_pair (h : a.isPair o = true) :
    readActions (a :: o :: ts) =
      (Text.trim a.value, some (Text.trim o.value)) :: readActions ts := by
  obtain ⟨ha, ho⟩ := Token.isPair_iff.mp h
  rw [readActions, if_pos ha]
  simp only [ho, if_true]

lemma readActions_single (h : ∀ o ∈ ts.head?, t.isPair o = false) :
    readActions (t :: ts) =
      (if t.kind = .actionBlock then [(Text.trim t.value, none)] else []) ++ readActions ts := by
  by_cases ht : t.kind = .actionBlock
  · rw [if_pos ht]
    cases ts with
    | nil => simp [readActions, ht]
    | cons o ts =>
      have ho : o.kind ≠ .optionBlock := by
        intro ho
        simpa [Token.isPair, ht, ho] using h o rfl
      rw [readActions, if_pos ht]
      simp only [if_neg ho]
      rfl
  · rw [if_neg ht]
    cases ts with
    | nil => simp [readActions, ht]
    | cons o ts =>
      rw [readActions, if_neg ht]
      rfl

/-- The options that are read of a zone are those of its pairs. -/
lemma filterMap_readActions (zone : List Token) :
    ((readActions zone).filterMap fun (name, option) => option.map (name, ·)) =
      (pairsOf zone).map fun p => (Text.trim p.1.value, Text.trim p.2.value) := by
  induction zone using zone_induction with
  | nil => rfl
  | pair a o ts h ih => rw [readActions_pair h, pairsOf_pair h, List.filterMap_cons, ih]; rfl
  | single t ts h ih =>
    rw [readActions_single h, pairsOf_single h, List.filterMap_append, ih]
    split <;> rfl

/-- The effect of a zone is its first action, whether it has an option or not. -/
lemma head?_readActions (zone : List Token) :
    (readActions zone).head?.map (·.1) =
      (zone.find? (·.kind == .actionBlock)).map (Text.trim ·.value) := by
  induction zone using zone_induction with
  | nil => rfl
  | pair a o ts h ih => simp [readActions_pair h, (Token.isPair_iff.mp h).1]
  | single t ts h ih =>
    rw [readActions_single h]
    by_cases ht : t.kind = .actionBlock
    · simp [ht]
    · simp [ht, ih]

lemma readActions_of_unpairedIn (h : unpairedIn none ts = []) :
    readActions ts =
      (pairsOf ts).map fun p => (Text.trim p.1.value, some (Text.trim p.2.value)) := by
  induction ts using zone_induction with
  | nil => rfl
  | pair a o ts hpair ih =>
    rw [unpairedIn_pair hpair] at h
    rw [readActions_pair hpair, pairsOf_pair hpair, ih h, List.map_cons]
  | single t ts hsingle ih =>
    rw [unpairedIn_single hsingle] at h
    cases h

/-- What a declaration and a target zone leave of some tokens. -/
def leftOf (tokens : List Token) : List Token :=
  (readZone .relation [.parameter, .trigger] (readDeclaration tokens).2).2

lemma leftOf_subset (tokens : List Token) : leftOf tokens ⊆ tokens :=
  fun _ ht => subset_readDeclaration tokens ((subset_readZone _ _ _).2 ht)

lemma effect_ofSpan (width : Nat) (span : Span) :
    (ofSpan width span).effect =
      (readZone .parameter [.trigger] (leftOf span.body)).1.map effectOf :=
  rfl

variable {p : Token}

lemma dropWhile_append_cons {q : Token → Bool} (hp : q p = false) (front back : List Token) :
    (front ++ p :: back).dropWhile q = front.dropWhile q ++ p :: back := by
  rw [List.dropWhile_append]
  split
  next h =>
    rw [List.isEmpty_iff.mp h, List.dropWhile_cons, hp]
    rfl
  next => rfl

lemma readCondition_append_parameter (hp : p.kind = .parameter) (front back : List Token) :
    (readCondition (front ++ p :: back)).2 = (readCondition front).2 ++ p :: back := by
  cases front with
  | nil => simp [readCondition, hp]
  | cons t front =>
    rw [List.cons_append, readCondition, readCondition]
    split <;> rfl

lemma readDeclaration_append_parameter (hp : p.kind = .parameter) (front back : List Token) :
    (readDeclaration (front ++ p :: back)).2 = (readDeclaration front).2 ++ p :: back := by
  have hvariable : (p.kind == .variableBlock) = false := by simp [hp]
  cases front with
  | nil => simp [readDeclaration, hp]
  | cons t front =>
    rw [List.cons_append]
    by_cases ht : t.kind = .identifier
    · rw [readDeclaration_cons ht, readDeclaration_cons ht]
      split
      · rw [readCondition_append_parameter hp, dropWhile_append_cons hvariable]
      · rw [dropWhile_append_cons hvariable]
    · simp [readDeclaration, ht]

lemma readZone_append_stop {kind : TokenKind} {stops : List TokenKind} (hp : p.kind ∈ stops)
    (hkind : p.kind ≠ kind) (front back : List Token) :
    (readZone kind stops (front ++ p :: back)).2 = (readZone kind stops front).2 ++ p :: back := by
  cases front with
  | nil => simp [readZone, hkind]
  | cons t front =>
    rw [List.cons_append, readZone, readZone]
    split
    · exact dropWhile_append_cons (by simpa using hp) front back
    · rfl

/-- Neither a declaration nor a target goes past a `%`. -/
lemma leftOf_append_parameter (hp : p.kind = .parameter) (front back : List Token) :
    leftOf (front ++ p :: back) = leftOf front ++ p :: back := by
  rw [leftOf, readDeclaration_append_parameter hp]
  exact readZone_append_stop (by simp [hp]) (by simp [hp]) _ back

/-- The effect zone is read iff the declaration and the target are all that stands in front of it. -/
lemma effect_of_isEffectZone {span : Span} {front zone back : List Token}
    (h : IsEffectZone span.body front p zone back) (width : Nat) :
    (ofSpan width span).effect = if leftOf front = [] then some (effectOf zone) else none := by
  rw [effect_ofSpan, h.eq_append, leftOf_append_parameter h.kind_parameter]
  cases hleft : leftOf front with
  | nil =>
    have hzone : ∀ u ∈ zone, u.kind ∉ [TokenKind.trigger] := by simpa using h.kind_zone
    have hback : ∀ u ∈ back.head?, u.kind ∈ [TokenKind.trigger] := by simpa using h.kind_back
    rw [List.nil_append, readZone_append h.kind_parameter hzone hback, if_pos rfl]
    rfl
  | cons u left =>
    have hu : u.kind ≠ .parameter := by
      apply h.kind_front
      apply leftOf_subset
      rw [hleft]
      exact List.mem_cons_self
    rw [if_neg (List.cons_ne_nil u left), readZone_of_ne]
    · rfl
    · simpa using hu

/-! ### The two readers -/

/-- Validation and reading find the same pairs in an effect zone. Each token that is in no pair is
reported, and an empty zone is; the parameters that are read are set by the pairs, one after the other.
So nothing is reported iff the zone consists of pairs, and then all of it is read. -/
theorem effect_pairs (width : Nat) {opener : Token} {own rest : List Token}
    (hown : ∀ u ∈ own, u.isOn opener.line = true)
    (hrest : ∀ u ∈ rest.head?, u.isOn opener.line = false)
    (hsorted : own.Pairwise (·.start < ·.start)) {front zone back : List Token} {parameter : Token}
    (hzone : IsEffectZone (Span.ofOpener opener own).body front parameter zone back)
    (stack : Grammar.Stack) :
    let errors := (Grammar.checkSpan width (Span.ofOpener opener own) stack).1.filter
      (·.1.concern = .effect)
    let effect := (Stream.readStatement width opener (own ++ rest)).1.effect
    let options := (pairsOf zone).map fun p => (Text.trim p.1.value, Text.trim p.2.value)
    errors = (if zone = [] then [(.emptyEffect, parameter.column)]
      else (unpairedIn none zone).map (Problem.ofUnpaired ·, parameter.column)) ∧
    zone.length = (unpairedIn none zone).length + 2 * (pairsOf zone).length ∧
    ((readActions zone).filterMap fun (name, option) => option.map (name, ·)) = options ∧
    effect = (if leftOf front = [] then
      some ⟨(zone.find? (·.kind == .actionBlock)).map (Text.trim ·.value), Entries.ofPairs options⟩
      else none) ∧
    (errors = [] ↔ zone ≠ [] ∧ ∃ pairs, Paired zone pairs) ∧
    (errors = [] →
      Paired zone ((pairsOf zone).map fun p => (p.1.value, p.2.value)) ∧
      (readActions zone = options.map fun (name, option) => (name, some option)) ∧
      ∀ z ∈ effect, z.action = options.head?.map (·.1)) := by
  intro errors effect options
  have hbody : (Span.ofOpener opener own).body.Pairwise (·.start < ·.start) := by
    rw [Span.body_ofOpener]
    apply List.Pairwise.sublist _ hsorted
    exact (List.takeWhile_prefix _).sublist.trans (Span.afterOpener_suffix opener own).sublist
  have herrors : errors = if zone = [] then [(.emptyEffect, parameter.column)]
      else (unpairedIn none zone).map (Problem.ofUnpaired ·, parameter.column) := by
    rw [← hzone.checkEffect hbody]
    exact Grammar.filter_checkSpan hzone.splitAt?_parameter width stack
  have hoptions := filterMap_readActions zone
  have heffect : effect = if leftOf front = [] then
      some ⟨(zone.find? (·.kind == .actionBlock)).map (Text.trim ·.value), Entries.ofPairs options⟩
      else none := by
    change (Stream.readStatement width opener (own ++ rest)).1.effect = _
    rw [Stream.readStatement_append width hown hrest, effect_of_isEffectZone hzone, effectOf,
      head?_readActions, hoptions]
  have hnone : errors = [] ↔ zone ≠ [] ∧ unpairedIn none zone = [] := by
    rw [herrors]
    by_cases hnil : zone = [] <;> simp [hnil]
  refine ⟨herrors, length_zone zone, hoptions, heffect, ?_, ?_⟩
  · rw [hnone]
    constructor
    · rintro ⟨hne, hunpaired⟩
      exact ⟨hne, _, paired_pairsOf hunpaired⟩
    · rintro ⟨hne, pairs, hpairs⟩
      exact ⟨hne, unpairedIn_of_paired hpairs⟩
  · intro hvalid
    have hunpaired := (hnone.mp hvalid).2
    have hactions : readActions zone = options.map fun (name, option) => (name, some option) := by
      rw [readActions_of_unpairedIn hunpaired, List.map_map]
      rfl
    refine ⟨paired_pairsOf hunpaired, hactions, ?_⟩
    intro z hz
    rw [heffect] at hz
    split at hz
    · cases hz
      rw [← head?_readActions, hactions, List.head?_map, Option.map_map]
      rfl
    · cases hz

/-- A repeated action, one without an option, and a stray name, with an output behind them and another
line below. -/
theorem effect_pairs_repeated :
    let opener : Token := ⟨.root, "::", 1, 0, 2⟩
    let own : List Token := (Token.scan 2 1 ":: set % {a}( 1 ) {b} x {a}(2) -> {o}").tail
    let rest : List Token := Token.scan 2 2 ":: hide // text"
    (∀ u ∈ own, u.isOn opener.line = true) ∧ (∀ u ∈ rest.head?, u.isOn opener.line = false) ∧
      own.Pairwise (·.start < ·.start) ∧
      (Grammar.checkSpan 2 (Span.ofOpener opener own) []).1.filter (·.1.concern = .effect) =
        [(.actionWithoutOption "b", 8), (.strayInEffect .identifier, 8)] ∧
      (Stream.readStatement 2 opener (own ++ rest)).1.effect = some ⟨some "a", [("a", "2")]⟩ := by
  intro opener own rest
  let front : List Token := [⟨.identifier, "set", 1, 3, 6⟩]
  let parameter : Token := ⟨.parameter, "%", 1, 7, 8⟩
  let zone : List Token := [⟨.actionBlock, "a", 1, 9, 12⟩, ⟨.optionBlock, " 1 ", 1, 12, 17⟩,
    ⟨.actionBlock, "b", 1, 18, 21⟩, ⟨.identifier, "x", 1, 22, 23⟩, ⟨.actionBlock, "a", 1, 24, 27⟩,
    ⟨.optionBlock, "2", 1, 27, 30⟩]
  let back : List Token := [⟨.trigger, "->", 1, 31, 33⟩, ⟨.actionBlock, "o", 1, 34, 37⟩]
  have hown : ∀ u ∈ own, u.isOn opener.line = true := by decide +kernel
  have hrest : ∀ u ∈ rest.head?, u.isOn opener.line = false := by
    have hhead : rest.head? = some ⟨.root, "::", 2, 0, 2⟩ := by decide +kernel
    rw [hhead]
    rintro u ⟨⟩
    rfl
  have hsorted : own.Pairwise (·.start < ·.start) := by decide +kernel
  have hzone : IsEffectZone (Span.ofOpener opener own).body front parameter zone back := by
    refine ⟨by decide +kernel, rfl, by decide, by decide, ?_, by decide⟩
    rintro u ⟨⟩
    rfl
  obtain ⟨herrors, -, -, heffect, -⟩ := effect_pairs 2 hown hrest hsorted hzone []
  refine ⟨hown, hrest, hsorted, ?_, ?_⟩
  · rw [herrors]
    decide +kernel
  · rw [heffect]
    decide +kernel

end Statement

end BlockScript
