import BlockScript.Clock
import BlockScript.Text.Case
import BlockScript.Value

/-!
# Contexts

The facts that conditions are decided by.
-/

namespace BlockScript

structure Interaction where
  hover : Bool
  click : Bool
  focus : Bool
deriving DecidableEq

structure Viewport where
  width : Int
  height : Int
  /-- The class of the device; found by the width if it is not given or empty. -/
  category : Option String
deriving DecidableEq

namespace Viewport

/-- The greatest width of a mobile device. -/
def mobileWidth : Int := 768

/-- The greatest width of a tablet. -/
def tabletWidth : Int := 1024

def device (v : Viewport) : String :=
  match v.category.filter (· ≠ "") with
  | some category => category
  | none =>
    if v.width ≤ mobileWidth then "mobile"
    else if v.width ≤ tabletWidth then "tablet"
    else "desktop"

end Viewport

structure BlockState where
  id : String
  visible : Bool
  revealed : Bool
deriving DecidableEq

structure Context where
  interaction : Interaction
  theme : String
  clock : Clock
  viewport : Viewport
  user : Option (Entries Value)
  file : Option (Entries Value)
  block : BlockState

namespace Context

/-- Nothing is hovered, clicked or focused, the theme is light and the screen is that of a desktop. -/
def default : Context where
  interaction := ⟨false, false, false⟩
  theme := "light"
  clock := ⟨"", 0, 0, "monday"⟩
  viewport := ⟨1280, 800, none⟩
  user := none
  file := none
  block := ⟨"", true, false⟩

/-- Whether the theme is the dark one; any other counts as light. -/
def isDark (c : Context) : Bool :=
  Text.lower c.theme == "dark"

def flag (b : Bool) : Value :=
  .scalar (.flag b)

def int (n : Int) : Value :=
  .scalar (.int n)

def text (s : String) : Value :=
  .scalar (.text s)

def interactionFacts (i : Interaction) : Entries Value :=
  [("hover", flag i.hover), ("click", flag i.click), ("focus", flag i.focus)]

/-- All facts under the names that paths start with. -/
def facts (c : Context) : Entries Value :=
  let device := c.viewport.device
  interactionFacts c.interaction ++ [
    ("interaction", .record (interactionFacts c.interaction)),
    ("theme", .record [
      ("name", text c.theme), ("dark", flag c.isDark), ("light", flag !c.isDark)]),
    ("time", int c.clock.minutes),
    ("hour", int c.clock.hour),
    ("minute", int c.clock.minute),
    ("weekday", text c.clock.weekday),
    ("iso", text c.clock.iso),
    ("viewport", .record [
      ("width", int c.viewport.width), ("height", int c.viewport.height),
      ("category", text device), ("mobile", flag (device == "mobile")),
      ("tablet", flag (device == "tablet")), ("desktop", flag (device == "desktop"))]),
    ("block", .record [
      ("id", text c.block.id), ("visible", flag c.block.visible),
      ("revealed", flag c.block.revealed)])] ++
    (c.user.map fun fields => ("user", Value.record fields)).toList ++
    (c.file.map fun fields => ("file", Value.record fields)).toList

end Context

end BlockScript
