/-!
# Tokens

The pieces of a statement line: five operators, three kinds of bracketed blocks, literals and
identifiers.
-/

namespace BlockScript

inductive TokenKind
  | root
  | hierarchical
  | relation
  | parameter
  | trigger
  | actionBlock
  | variableBlock
  | optionBlock
  | string
  | number
  | identifier
  | endOfInput
deriving DecidableEq, Inhabited

namespace TokenKind

/-- The name of a kind, as messages write it. -/
def name : TokenKind → String
  | .root => "root"
  | .hierarchical => "hierarchical"
  | .relation => "relation"
  | .parameter => "parameter"
  | .trigger => "trigger"
  | .actionBlock => "action_block"
  | .variableBlock => "variable_block"
  | .optionBlock => "option_block"
  | .string => "string"
  | .number => "number"
  | .identifier => "identifier"
  | .endOfInput => "eof"

/-- The operators that start a statement. -/
def isOpener : TokenKind → Bool
  | .root => true
  | .hierarchical => true
  | _ => false

/-- What stands around the value of a token in a line. -/
def delimiters : TokenKind → List Char × List Char
  | .actionBlock => (['\x7b'], ['\x7d'])
  | .variableBlock => (['['], [']'])
  | .optionBlock => (['('], [')'])
  | .string => (['"'], ['"'])
  | _ => ([], [])

end TokenKind

/-- A token: its value without delimiters, its line, and the offsets in the tab-expanded line at
which it starts and stops. -/
structure Token where
  kind : TokenKind
  value : String
  line : Int
  start : Nat
  stop : Nat
deriving DecidableEq, Inhabited

/-- Columns count from one. -/
def Token.column (t : Token) : Nat :=
  t.start + 1

end BlockScript
