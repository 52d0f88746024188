/-!
Searching and replacing inside texts.

A text is a list of characters here. `containsText` looks for a needle at every position, and
`replaceAll` replaces the occurrences that a left-to-right scan meets, none of which overlap.
-/

namespace Upkeep

/-- The needle stands at some position of the text. The empty needle stands everywhere. -/
def containsText (needle : List Char) : List Char → Bool
  | [] => needle.isPrefixOf []
  | c :: cs => needle.isPrefixOf (c :: cs) || containsText needle cs

/-- The scan behind `replaceAll`. The first argument counts the characters still to be passed
over, because they belong to an occurrence that was just replaced. -/
def replaceFrom (pattern replacement : List Char) : Nat → List Char → List Char
  | _, [] => []
  | skip + 1, _ :: cs => replaceFrom pattern replacement skip cs
  | 0, c :: cs =>
    if pattern.isPrefixOf (c :: cs) then
      replacement ++ replaceFrom pattern replacement (pattern.length - 1) cs
    else
      c :: replaceFrom pattern replacement 0 cs

/-- Every occurrence of a non-empty pattern, met from left to right, becomes the replacement. -/
def replaceAll (pattern replacement cs : List Char) : List Char :=
  replaceFrom pattern replacement 0 cs

/-- `containsText` on strings. -/
def String.hasText (s needle : String) : Bool := containsText needle.toList s.toList

/-- Line ends written as a carriage return and a line feed become single line feeds. -/
def normalizeNewlines (cs : List Char) : List Char := replaceAll ['\r', '\n'] ['\n'] cs

/-- Cuts a text at the first occurrence of a separator, which is dropped. -/
def splitFirst? (sep : Char) : List Char → Option (List Char × List Char)
  | [] => none
  | c :: cs =>
    if c = sep then some ([], cs) else (splitFirst? sep cs).map fun (a, b) => (c :: a, b)

/-- Cuts a text at the last occurrence of a separator, which is dropped. -/
def splitLast? (sep : Char) : List Char → Option (List Char × List Char)
  | [] => none
  | c :: cs =>
    match splitLast? sep cs with
    | some (a, b) => some (c :: a, b)
    | none => if c = sep then some ([], cs) else none

/-- The pieces of a text between the characters for which a test holds. There is always one piece
more than there are such characters. -/
def splitWhere (p : Char → Bool) : List Char → List (List Char)
  | [] => [[]]
  | c :: cs =>
    if p c then [] :: splitWhere p cs
    else
      match splitWhere p cs with
      | [] => [[c]]
      | s :: rest => (c :: s) :: rest

end Upkeep
