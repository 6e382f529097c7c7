import BlockScript.Compilation
import BlockScript.Json

/-!
# Reports

How compiled blocks are shown: as lines for readers, or as JSON.
-/

namespace BlockScript

namespace Diagnostic

/-- A diagnostic on one line, its place first. -/
def placed (d : Diagnostic) : String :=
  toString d.line ++ ":" ++ toString d.column ++ ": " ++ d.severity.name ++ " [" ++ d.stage.name ++
    "] " ++ d.message

def json (d : Diagnostic) : Json :=
  .record [
    ("severity", .text d.severity.name),
    ("stage", .text d.stage.name),
    ("line", .int d.line),
    ("column", .int d.column),
    ("message", .text d.message)]

end Diagnostic

/-- The first items of a list, as many as `limit` says; a negative limit leaves out items at the end. -/
def firstItems {α : Type} (limit : Int) (items : List α) : List α :=
  if limit ≥ 0 then items.take limit.toNat else items.take (items.length - limit.natAbs)

/-- Diagnostics as lines, and the number of those that are not shown. -/
def diagnosticLines (limit : Int) (ds : List Diagnostic) : List String :=
  (firstItems limit ds).map Diagnostic.placed ++
    if ds.length > limit then ["... " ++ toString (ds.length - limit) ++ " more"] else []

namespace Scalar

def json : Scalar → Json
  | .text s => .text s
  | .int n => .int n
  | .double x => .double x
  | .flag b => .bool b

end Scalar

namespace Selector

def json (s : Selector) : Json :=
  .record [
    ("kind", .text s.kind),
    ("pattern", .ofText? s.pattern),
    ("index", match s.position with
      | none => .null
      | some (.item n) => .int n
      | some (.range first last) => .list [.int first, .int last]),
    ("modifier", .ofText? s.modifier),
    ("scope", .text s.scope.name)]

end Selector

namespace Effect

/-- An effect with its parameters. -/
def line (e : Effect) : Except NumberError String := do
  let parameters ← e.parameters.mapM fun (name, value) => return name ++ "=" ++ (← value.shown)
  return e.name ++ "(" ++ ", ".intercalate parameters ++ ")"

def json (e : Effect) : Json :=
  .record [
    ("type", .text e.name),
    ("params", .record (e.parameters.map fun (name, value) => (name, value.json)))]

end Effect

namespace Condition

/-- A gate in words. -/
def text (c : Condition) : String :=
  if c.kind = .whenTrue then c.expression else "not (" ++ c.expression ++ ")"

def json (c : Condition) : Json :=
  .record [("kind", .text c.kind.name), ("expression", .text c.expression)]

end Condition

namespace Instruction

/-- An instruction on one line: its id, bucket, target, effect, outcome and gates. -/
def line (i : Instruction) : Except NumberError String := do
  let effect ← match i.effect with
    | none => pure ""
    | some e => do pure (" " ++ (← e.line))
  let outcome := ((i.outcome.filter (· ≠ "")).map (" -> " ++ ·)).getD ""
  let gates := " and ".intercalate (i.gates.map (·.text))
  return i.id ++ "  [" ++ i.bucket.name ++ "]  " ++ i.target.text ++ effect ++ outcome ++
    (if gates = "" then "" else "  when " ++ gates)

def json (i : Instruction) : Json :=
  .record [
    ("id", .text i.id),
    ("bucket", .int i.bucket),
    ("variable", .ofText? i.subject),
    ("target", i.target.json),
    ("effect", (i.effect.map (·.json)).getD .null),
    ("outcome", .ofText? i.outcome),
    ("conditions", .list (i.conditions.map (·.json))),
    ("line", .int ((i.origin.map (·.line)).getD 0)),
    ("children", .list (i.children.map .text))]

end Instruction

namespace Compilation

def json (c : Compilation) : Json :=
  .record [
    ("block_id", .text c.id),
    ("valid", .bool c.valid),
    ("fallback", .bool c.fallback),
    ("diagnostics", .list (c.diagnostics.map (·.json))),
    ("instructions", .list (c.instructions.map (·.json))),
    ("report", .record [("removed", .int c.report.removed), ("merged", .int c.report.merged)])]

/-- A compilation for readers. -/
def lines (limit : Int) (c : Compilation) : Except NumberError (List String) := do
  let instructions ← c.instructions.mapM (·.line)
  return diagnosticLines limit c.diagnostics ++ instructions ++
    if c.fallback then ["Compile fell back: nothing would be executed"] else []

end Compilation

end BlockScript
