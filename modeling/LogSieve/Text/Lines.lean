/-!
This module contains the lines of a text.
-/

namespace LogSieve.Text

/--
The lines of a text. A line ends with a line feed, or with a carriage return and a line feed; a
carriage return alone belongs to its line. What follows the last line feed is a line if it is not
empty.
-/
def lines (cs : List Char) : List (List Char) := go [] cs
where
  go (part : List Char) : List Char → List (List Char)
    | [] => if part.isEmpty then [] else [part.reverse]
    | c :: cs => if c = '\n' then ended part :: go [] cs else go (c :: part) cs
  ended : List Char → List Char
    | '\r' :: part => part.reverse
    | part => part.reverse

end LogSieve.Text
