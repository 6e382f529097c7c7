import BlockScript.Entries
import BlockScript.Number.Decimal

/-!
# Presets

Named bundles of statement lines, which are compiled like any other block.
-/

namespace BlockScript

structure Preset where
  id : String
  cssClass : Option String
  lines : List String
deriving DecidableEq

namespace Preset

def builtins : List Preset := [
  ⟨"blackout", some "camo-preset-blackout", [
    ":: set[background] // content[all] % \x7bcolor\x7d(#000000) -> \x7bvisual[blackout]\x7d",
    ":: set[opacity] // text[all] % \x7bvalue\x7d(0) -> \x7btext[hidden]\x7d",
    ":: reveal[click] // content[all] % \x7banimation\x7d(fade) -> \x7binteraction[ready]\x7d"]⟩,
  ⟨"blueprint", some "camo-preset-blueprint", [
    ":: set[background] // content[all] % \x7bcolor\x7d(#0D1F2D) -> \x7bvisual[blueprint]\x7d",
    ":: apply[grid] // overlay % \x7bspacing\x7d(20px) -> \x7bgrid[applied]\x7d",
    ":: set[text] // color % \x7bcolor\x7d(#4FC3F7) -> \x7btext[cyan]\x7d"]⟩,
  ⟨"modern95", some "camo-preset-modern95", [
    ":: set[background] // content[all] % \x7bcolor\x7d(#2B2B2B) -> \x7bvisual[charcoal]\x7d",
    ":: set[text] // color % \x7bcolor\x7d(#00FF41) -> \x7btext[terminal_green]\x7d"]⟩,
  ⟨"ghost", some "camo-preset-ghost", [
    ":: set[opacity] // content[all] % \x7bvalue\x7d(0.15) -> \x7bvisual[translucent]\x7d",
    ":: reveal[hover] // opacity % \x7btarget\x7d(1.0) -> \x7binteraction[hover_reveal]\x7d"]⟩,
  ⟨"matrix", some "camo-preset-matrix", [
    ":: set[background] // content[all] % \x7bcolor\x7d(#000000) -> \x7bvisual[black]\x7d",
    ":: reveal[click] // animation % \x7btype\x7d(digital_fade) -> \x7bready\x7d"]⟩,
  ⟨"classified", some "camo-preset-classified", [
    ":: set[background] // content[all] % \x7bcolor\x7d(#F5F5DC) -> \x7bvisual[document]\x7d"]⟩]

/-- A preset made of a few plain styles. A style that is not given, or a colour that is empty, adds no
line. -/
def ofStyles (id : String) (background color : Option String) (blur : Option Double) : Preset :=
  let style (line : String → String) (c : Option String) : List String :=
    ((c.filter (· ≠ "")).map line).toList
  ⟨id, none,
    style (fun c =>
      ":: set[background] // content[all] % \x7bcolor\x7d(" ++ c ++ ") -> \x7bvisual[bg]\x7d") background ++
    style (fun c => ":: set[text] // color % \x7bcolor\x7d(" ++ c ++ ") -> \x7btext[color]\x7d") color ++
    (blur.map fun x =>
      ":: set[blur] // content[all] % \x7bintensity\x7d(" ++ x.lengthText ++
        ") -> \x7bvisual[blurred]\x7d").toList⟩

end Preset

/-- Presets under their ids. -/
abbrev Presets := Entries Preset

namespace Presets

/-- Adds a preset, or replaces the one with its id. -/
def register (preset : Preset) (ps : Presets) : Presets :=
  ps.put preset.id preset

def default : Presets :=
  Preset.builtins.foldl (fun ps p => register p ps) []

def find? (ps : Presets) (id : String) : Option Preset :=
  Entries.get? ps id

def ids (ps : Presets) : List String :=
  ps.map (·.1)

/-- The lines of a preset; an unknown one has none. -/
def lines (ps : Presets) (id : String) : List String :=
  ((ps.find? id).map (·.lines)).getD []

end Presets

end BlockScript
