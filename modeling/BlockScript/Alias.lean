import BlockScript.Keyword
import BlockScript.Token.Scan

/-!
# Keyword aliases

Replacing the keyword at the start of a line by the one it stands for.
-/

namespace BlockScript.Keyword

/-- The statement operators at the start of a text, without anything between them, and the rest. -/
def spanOpeners : List Char → List Char × List Char
  | ':' :: '^' :: ':' :: cs =>
    let (openers, rest) := spanOpeners cs
    (':' :: '^' :: ':' :: openers, rest)
  | ':' :: ':' :: cs =>
    let (openers, rest) := spanOpeners cs
    (':' :: ':' :: openers, rest)
  | cs => ([], cs)

/-- Replaces the keyword of a line. It stands after statement operators at the start of the line;
blanks may stand before and after them. A line without such a keyword stays as it is. -/
def expandAlias (aliases : Entries String) (line : String) : String :=
  let blanks := line.toList.takeWhile Text.isBlank
  let (openers, rest) := spanOpeners (line.toList.dropWhile Text.isBlank)
  let gap := rest.takeWhile Text.isBlank
  match Lexeme.identifier? (rest.dropWhile Text.isBlank) with
  | none => line
  | some l =>
    if aliases.isEmpty || openers.isEmpty then line
    else
      let canonical := resolveAlias aliases (String.ofList l.value)
      String.ofList (blanks ++ openers ++ gap ++ canonical.toList ++
        (rest.dropWhile Text.isBlank).drop l.size)

end BlockScript.Keyword
