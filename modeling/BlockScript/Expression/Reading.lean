import BlockScript.Expression.Basic
import BlockScript.Expression.Literal

/-!
# Reading expressions

An expression is split at the first place of an operator; the operators are tried in a fixed order, so
that the longer ones are not taken for shorter ones.
-/

namespace BlockScript

/-- An operator of an expression. -/
inductive Relation
  | comparison (c : Comparison)
  | search
deriving DecidableEq

namespace Relation

/-- The spellings of operators in the order in which they are looked for. -/
def spellings : List (String × Relation) := [
  (">=", .comparison .ge),
  ("<=", .comparison .le),
  ("!=", .comparison .ne),
  ("==", .comparison .eq),
  (">", .comparison .gt),
  ("<", .comparison .lt),
  ("=", .comparison .eq),
  ("~", .search)]

end Relation

namespace Expression

/-- The text before the first occurrence of `mark` and the text after it. -/
def splitAt? (mark : List Char) : List Char → Option (List Char × List Char)
  | [] => none
  | c :: cs =>
    if mark.isPrefixOf (c :: cs) then some ([], (c :: cs).drop mark.length)
    else (splitAt? mark cs).map fun (before, after) => (c :: before, after)

/-- The sides of the first operator, by the order of the operators, that occurs in a text. -/
def splitRelation? (cs : List Char) : Option (List Char × Relation × List Char) :=
  Relation.spellings.findSome? fun (spelling, relation) =>
    (splitAt? spelling.toList cs).map fun (before, after) => (before, relation, after)

/-- The question that an operator and the text after it ask. -/
def readQuestion (relation : Relation) (raw : List Char) : Except NumberError Question :=
  let spelling := String.ofList raw
  match relation with
  | .search => .ok (.search (String.ofList ((Literal.unquote? raw).getD raw)) spelling)
  | .comparison c => do return .compare c (← Literal.readTrimmed raw) spelling

/-- Reads an expression. A side of an operator that is missing makes it malformed; a number that is
too long is an error. -/
def read (text : String) : Except NumberError Expression :=
  let cs := Text.trimChars text.toList
  match splitRelation? cs with
  | some (before, relation, after) =>
    let path := Text.trimChars before
    let raw := Text.trimChars after
    if path.isEmpty || raw.isEmpty then .ok ⟨String.ofList path, .malformed⟩
    else do return ⟨String.ofList path, ← readQuestion relation raw⟩
  | none =>
    let (question, path) : Question × List Char := match cs with
      | '!' :: rest => (.fails, Text.trimChars rest)
      | _ => (.holds, cs)
    .ok ⟨String.ofList path, if path.isEmpty then .malformed else question⟩

/-- The topic of an expression as it is written. -/
def topicOf (text : String) : Except NumberError Topic :=
  (read text).map (·.topic)

end Expression

end BlockScript
