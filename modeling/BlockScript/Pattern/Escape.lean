import BlockScript.Number.Reading
import BlockScript.Pattern.Basic

/-!
# Characters of a pattern as it is written

A backslash and the character after it are read as one mark. Escapes stand for single characters, for
categories, for places and for groups.
-/

namespace BlockScript

/-- Why a text is not a pattern. -/
inductive PatternError
  | malformed
  | number (e : NumberError)
  | incompatibleFlags
  | repetitionTooLarge
deriving DecidableEq

namespace Pattern

inductive Mark
  | plain (c : Char)
  | escaped (c : Char)
  /-- A backslash with nothing after it. -/
  | cut
deriving DecidableEq

def Mark.ofChars : List Char → List Mark
  | [] => []
  | ['\\'] => [.cut]
  | '\\' :: c :: cs => .escaped c :: ofChars cs
  | c :: cs => .plain c :: ofChars cs

/-- Something read at the front of a row of marks, and the number of marks it takes. -/
structure Taken (α : Type) where
  value : α
  size : Nat

namespace Taken

variable {α β : Type}

def map (f : α → β) (t : Taken α) : Taken β :=
  ⟨f t.value, t.size⟩

/-- Counts marks that stand before. -/
def after (n : Nat) (t : Taken α) : Taken α :=
  ⟨t.value, n + t.size⟩

end Taken

/-- The plain characters at the front that satisfy `p`, at most `limit` of them. -/
def takePlain (p : Char → Bool) : (limit : Nat) → List Mark → List Char
  | limit + 1, .plain c :: ms => if p c then c :: takePlain p limit ms else []
  | _, _ => []

/-- All plain characters at the front that satisfy `p`. -/
def takeAllPlain (p : Char → Bool) (ms : List Mark) : List Char :=
  takePlain p ms.length ms

def hexValue? (c : Char) : Option Nat :=
  if c.isDigit then some (c.toNat - 48)
  else if 'a' ≤ c ∧ c ≤ 'f' then some (c.toNat - 87)
  else if 'A' ≤ c ∧ c ≤ 'F' then some (c.toNat - 55)
  else none

def isOctal (c : Char) : Bool :=
  '0' ≤ c && c ≤ '7'

/-- The number that digits write in a base up to sixteen. -/
def valueIn (base : Nat) (digits : List Char) : Nat :=
  (digits.filterMap hexValue?).foldl (fun n d => base * n + d) 0

/-- A code point of exactly `width` hexadecimal digits. -/
def hexCode? (width : Nat) (ms : List Mark) : Option (Taken Nat) :=
  let digits := takePlain (fun c => (hexValue? c).isSome) width ms
  let code := valueIn 16 digits
  if digits.length = width ∧ code ≤ 0x10ffff then some ⟨code, width⟩ else none

/-- A code point of which the name follows in braces. -/
def namedCode? (named? : String → Option Char) (ms : List Mark) : Option (Taken Nat) :=
  match ms with
  | .plain '\x7b' :: ms =>
    let name := takeAllPlain (· ≠ '\x7d') ms
    if name ≠ [] ∧ (ms.drop name.length).head? = some (.plain '\x7d') then
      (named? (String.ofList name)).map fun c => ⟨c.toNat, name.length + 2⟩
    else none
  | _ => none

/-- The code point of an escape that means the same everywhere; `c` follows the backslash and `ms`
comes after it. Characters are found by their names with `named?`. Letters mean nothing but what is
listed here. -/
def codeEscape? (named? : String → Option Char) (c : Char) (ms : List Mark) : Option (Taken Nat) :=
  match c with
  | 'a' => some ⟨7, 0⟩
  | 't' => some ⟨9, 0⟩
  | 'n' => some ⟨10, 0⟩
  | 'v' => some ⟨11, 0⟩
  | 'f' => some ⟨12, 0⟩
  | 'r' => some ⟨13, 0⟩
  | 'x' => hexCode? 2 ms
  | 'u' => hexCode? 4 ms
  | 'U' => hexCode? 8 ms
  | 'N' => namedCode? named? ms
  | c => if c.isAlphanum then none else some ⟨c.toNat, 0⟩

/-- The category that an escape stands for; the capital letter stands for what is outside of it. -/
def categoryEscape? : Char → Option Member
  | 'd' => some (.category .digit false)
  | 'D' => some (.category .digit true)
  | 's' => some (.category .blank false)
  | 'S' => some (.category .blank true)
  | 'w' => some (.category .word false)
  | 'W' => some (.category .word true)
  | _ => none

/-- An octal code point of up to `1 + limit` digits, `c` being the first of them. -/
def octalCode? (limit : Nat) (c : Char) (ms : List Mark) : Option (Taken Nat) :=
  let digits := takePlain isOctal limit ms
  let code := valueIn 8 (c :: digits)
  if isOctal c ∧ code ≤ 0o377 then some ⟨code, digits.length⟩ else none

/-! ### Sets -/

variable (named? : String → Option Char)

/-- A single code point. -/
def Member.code (n : Nat) : Member :=
  .codes n n

/-- An item of a set: a code point or a category. -/
def setItem? (m : Mark) (ms : List Mark) : Option (Taken Member) :=
  match m with
  | .cut => none
  | .plain c => some ⟨.code c.toNat, 0⟩
  | .escaped 'b' => some ⟨.code 8, 0⟩
  | .escaped c =>
    match categoryEscape? c with
    | some member => some ⟨member, 0⟩
    | none =>
      ((if isOctal c then octalCode? 2 c ms else codeEscape? named? c ms)).map (·.map .code)

/-- The run from one item to another, if both are code points in order. -/
def Member.to? : Member → Member → Option Member
  | .codes first _, .codes last _ => if first ≤ last then some (.codes first last) else none
  | _, _ => none

/-- The members of a set, up to the bracket that closes it. A closing bracket at the beginning and a
hyphen at the end are members. -/
def readMembers (members : List Member) : List Mark → Option (Taken (List Member))
  | [] => none
  | m :: ms =>
    if m = .plain ']' ∧ members ≠ [] then some ⟨members, 1⟩
    else
      match setItem? named? m ms with
      | none => none
      | some item =>
        match h : ms.drop item.size with
        | .plain '-' :: .plain ']' :: _ =>
          some ⟨members ++ [item.value, .code '-'.toNat], item.size + 3⟩
        | .plain '-' :: n :: ns =>
          match setItem? named? n ns with
          | none => none
          | some final =>
            match item.value.to? final.value with
            | none => none
            | some run =>
              (readMembers (members ++ [run]) (ns.drop final.size)).map
                (·.after (item.size + final.size + 3))
        | _ => (readMembers (members ++ [item.value]) (ms.drop item.size)).map (·.after (item.size + 1))
termination_by ms => ms.length
decreasing_by
  · have := congrArg List.length h
    simp only [List.length_drop, List.length_cons] at this ⊢
    omega
  · simp only [List.length_drop, List.length_cons]
    omega

/-- A set, after its opening bracket. -/
def readSet (reading : Reading) : List Mark → Option (Taken CharSet)
  | .plain '^' :: ms => (readMembers named? [] ms).map fun t => ⟨⟨t.value, true, reading⟩, t.size + 1⟩
  | ms => (readMembers named? [] ms).map (·.map (⟨·, false, reading⟩))

end Pattern

end BlockScript
