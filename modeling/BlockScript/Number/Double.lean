/-!
# Double-precision numbers

A number is its 64-bit word: a sign, eleven bits of exponent, 52 bits of fraction. Every operation
is carried out exactly on integers and rounded once, to nearest and on a tie to even.
-/

namespace BlockScript

structure Double where
  bits : UInt64
deriving DecidableEq, Inhabited

namespace Double

/-- The word without its sign. -/
def magnitude (x : Double) : Nat :=
  x.bits.toNat % Nat.pow 2 63

def isNegative (x : Double) : Bool :=
  decide (Nat.pow 2 63 ≤ x.bits.toNat)

/-- The magnitude of infinity; greater ones are not numbers. -/
def infinityWord : Nat :=
  2047 * Nat.pow 2 52

def isNaN (x : Double) : Bool :=
  decide (infinityWord < x.magnitude)

def isInfinite (x : Double) : Bool :=
  x.magnitude == infinityWord

def ofMagnitude (negative : Bool) (word : Nat) : Double :=
  ⟨UInt64.ofNat ((if negative then Nat.pow 2 63 else 0) + word)⟩

def infinity (negative : Bool) : Double :=
  ofMagnitude negative infinityWord

def nan : Double :=
  ofMagnitude false (infinityWord + Nat.pow 2 51)

/-- The size of a finite number in units of `2 ^ -1074`, the least positive one. -/
def units (x : Double) : Nat :=
  let field := x.magnitude / Nat.pow 2 52
  let fraction := x.magnitude % Nat.pow 2 52
  if field = 0 then fraction else (Nat.pow 2 52 + fraction) * Nat.pow 2 (field - 1)

/-- The signed size in units of `2 ^ -1074`. -/
def signedUnits (x : Double) : Int :=
  if x.isNegative then -x.units else x.units

/-- The quotient `num / den` rounded to nearest, a tie going to the even neighbour. -/
def roundQuotient (num den : Nat) : Nat :=
  let q := num / den
  let r := num % den
  if 2 * r > den || (2 * r == den && q % 2 == 1) then q + 1 else q

/-- The exponent of the greatest power of two not above `num / den`. -/
def floorLog2 (num den : Nat) : Int :=
  let guess : Int := (num.log2 : Int) - den.log2
  let reaches := if guess ≥ 0 then num ≥ den * Nat.pow 2 guess.toNat else num * Nat.pow 2 (-guess).toNat ≥ den
  if reaches then guess else guess - 1

/-- The double nearest to `± num / den`. The significand has 53 bits, or fewer at the least exponent;
rounding up to the next power of two carries into the exponent field by itself. -/
def ofRatio (negative : Bool) (num den : Nat) : Double :=
  if num = 0 then ofMagnitude negative 0
  else
    let e := max (-1074) (floorLog2 num den - 52)
    let significand :=
      if e ≥ 0 then roundQuotient num (den * Nat.pow 2 e.toNat)
      else roundQuotient (num * Nat.pow 2 (-e).toNat) den
    let word := (e + 1074).toNat * Nat.pow 2 52 + significand
    ofMagnitude negative (min word infinityWord)

def ofInt (n : Int) : Double :=
  ofRatio (decide (n < 0)) n.natAbs 1

/-- The double nearest to an integer, if one is finite. -/
def ofInt? (n : Int) : Option Double :=
  let x := ofInt n
  if x.isInfinite then none else some x

/-- The double nearest to `± digits * 10 ^ exponent`. Exponents far outside the range are settled by
the number of digits alone. -/
def ofDecimal (negative : Bool) (digits : Nat) (exponent : Int) : Double :=
  if digits = 0 then ofMagnitude negative 0
  else
    let magnitude : Int := (digits.log2 * 1233 / 4096 : Nat) + exponent
    if magnitude > 310 then infinity negative
    else if magnitude < -400 then ofMagnitude negative 0
    else if exponent ≥ 0 then ofRatio negative (digits * Nat.pow 10 exponent.toNat) 1
    else ofRatio negative digits (Nat.pow 10 (-exponent).toNat)

def add (x y : Double) : Double :=
  if x.isNaN then x
  else if y.isNaN then y
  else if x.isInfinite then if y.isInfinite && x.isNegative != y.isNegative then nan else x
  else if y.isInfinite then y
  else
    let sum := x.signedUnits + y.signedUnits
    if sum = 0 then ofMagnitude (x.isNegative && y.isNegative) 0
    else ofRatio (decide (sum < 0)) sum.natAbs (Nat.pow 2 1074)

instance : Add Double := ⟨add⟩

/-- A place on the number line: the infinities around the multiples of `2 ^ -1074`. -/
inductive Place
  | below
  | at (units : Int)
  | above
deriving DecidableEq

/-- Where a number stands; a NaN stands nowhere. -/
def place? (x : Double) : Option Place :=
  if x.isNaN then none
  else if x.isInfinite then some (if x.isNegative then .below else .above)
  else some (.at x.signedUnits)

/-- Where an integer stands among the doubles. -/
def Place.ofInt (n : Int) : Place :=
  .at (n * Int.pow 2 1074)

def Place.compare : Place → Place → Ordering
  | .below, .below => .eq
  | .below, _ => .lt
  | .above, .above => .eq
  | .above, _ => .gt
  | .at _, .below => .gt
  | .at _, .above => .lt
  | .at a, .at b => Ord.compare a b

/-- The order of two numbers, none if one of them is not a number. -/
def compare? (x y : Double) : Option Ordering := do
  return (← x.place?).compare (← y.place?)

def lt (x y : Double) : Bool :=
  x.compare? y == some .lt

/-- Whether `x` is at least `y`; false as soon as one is not a number. -/
def ge (x y : Double) : Bool :=
  x.compare? y == some .gt || x.compare? y == some .eq

end Double

end BlockScript
