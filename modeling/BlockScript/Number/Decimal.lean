import BlockScript.Number.Double

/-!
# Doubles in decimal

The shortest digits that read back as the same double, and the two notations built on digits.
-/

namespace BlockScript

/-- A positive decimal number `digits * 10 ^ exponent`. -/
structure Decimal where
  digits : Nat
  exponent : Int
deriving DecidableEq

namespace Decimal

/-- Drops zeros at the end of the digits, at most `fuel` of them. -/
def trimZeros : Nat → Decimal → Decimal
  | 0, d => d
  | fuel + 1, d =>
    if d.digits ≠ 0 ∧ d.digits % 10 = 0 then trimZeros fuel ⟨d.digits / 10, d.exponent + 1⟩ else d

end Decimal

namespace Double

/-- The number `num / den` divided by `10 ^ k`, as a fraction again. -/
def scaleDown (num den : Nat) (k : Int) : Nat × Nat :=
  if k ≥ 0 then (num, den * Nat.pow 10 k.toNat) else (num * Nat.pow 10 (-k).toNat, den)

/-- The exponent of the greatest power of ten not above `num / den`. -/
def floorLog10 (num den : Nat) : Int :=
  let guess := floorLog2 num den * 1233 / 4096
  let reaches (k : Int) : Bool :=
    let (a, b) := scaleDown num den k
    a ≥ b
  if reaches (guess + 1) then guess + 1 else if reaches guess then guess else guess - 1

/-- The number as a fraction of integers. -/
def ratio (x : Double) : Nat × Nat :=
  (x.units, Nat.pow 2 1074)

/-- The decimals of `count` digits just below and just above a positive number, the nearer one
first. -/
def neighbours (x : Double) (count : Nat) : List Decimal :=
  let (num, den) := x.ratio
  let unit := floorLog10 num den - (count - 1 : Nat)
  let (a, b) := scaleDown num den unit
  let lo := a / b
  let r := a % b
  if r = 0 then [⟨lo, unit⟩]
  else if 2 * r < b || (2 * r == b && lo % 2 == 0) then [⟨lo, unit⟩, ⟨lo + 1, unit⟩]
  else [⟨lo + 1, unit⟩, ⟨lo, unit⟩]

/-- The decimal with fewest digits that rounds to this positive number, the nearest of those.
Seventeen digits always do. -/
def shortest (x : Double) : Decimal :=
  let readsBack (d : Decimal) : Bool := (ofDecimal false d.digits d.exponent).magnitude == x.magnitude
  let candidates := (List.range 17).flatMap fun n => x.neighbours (n + 1)
  ((candidates.find? readsBack).getD ⟨0, 0⟩).trimZeros 20

/-- The number rounded to `count` significant digits, a tie going to the even digit. -/
def rounded (x : Double) (count : Nat) : Decimal :=
  ((x.neighbours count).headD ⟨0, 0⟩).trimZeros 20

/-- How digits are laid out as text: from which decimal exponent on a power of ten is written, and
whether a whole number keeps a `.0`. -/
structure Layout where
  scientificFrom : Int
  keepPoint : Bool

/-- Values show all digits they need, a point even when they are whole, and a power of ten from
`1e16` on. -/
def Layout.value : Layout := ⟨16, true⟩

/-- Style lengths have six significant digits and no idle point. -/
def Layout.length : Layout := ⟨6, false⟩

/-- Writes a positive decimal. Numbers below `1e-4` get a power of ten in every layout. -/
def Layout.write (layout : Layout) (d : Decimal) : String :=
  let digits := Nat.toDigits 10 d.digits
  let count := digits.length
  let exponent := d.exponent + (count - 1 : Nat)
  if exponent < -4 || exponent ≥ layout.scientificFrom then
    let fraction := digits.drop 1
    let mantissa := digits.take 1 ++ (if fraction.isEmpty then [] else '.' :: fraction)
    let power := Nat.toDigits 10 exponent.natAbs
    let power := if power.length < 2 then '0' :: power else power
    String.ofList (mantissa ++ ['e', if exponent < 0 then '-' else '+'] ++ power)
  else if exponent < 0 then
    String.ofList ('0' :: '.' :: List.replicate (exponent.natAbs - 1) '0' ++ digits)
  else
    let whole := exponent.toNat + 1
    let integral := digits.take whole ++ List.replicate (whole - count) '0'
    let fraction := digits.drop whole
    if fraction.isEmpty then
      String.ofList (integral ++ (if layout.keepPoint then ['.', '0'] else []))
    else String.ofList (integral ++ '.' :: fraction)

/-- The text of a number whose digits `choose` selects. -/
def write (layout : Layout) (choose : Double → Decimal) (x : Double) : String :=
  if x.isNaN then "nan"
  else
    let sign := if x.isNegative then "-" else ""
    if x.isInfinite then sign ++ "inf"
    else if x.units = 0 then sign ++ (if layout.keepPoint then "0.0" else "0")
    else sign ++ layout.write (choose x)

/-- The text of a number as a value. -/
def text (x : Double) : String :=
  x.write .value shortest

/-- The text of a number as a style length. -/
def lengthText (x : Double) : String :=
  x.write .length (·.rounded 6)

end Double

end BlockScript
