import LogSieve.Text.Ranges

/-!
This module contains the blank characters, those with the Unicode property `White_Space`, and the
removal of blanks around a text.
-/

namespace LogSieve.Text

def blanks : Ranges :=
  [(0x9, 0xD), (0x20, 0x20), (0x85, 0x85), (0xA0, 0xA0), (0x1680, 0x1680), (0x2000, 0x200A),
    (0x2028, 0x2029), (0x202F, 0x202F), (0x205F, 0x205F), (0x3000, 0x3000)]

def isBlank (c : Char) : Bool := blanks.has c

def trim (cs : List Char) : List Char :=
  ((cs.dropWhile isBlank).reverse.dropWhile isBlank).reverse

def isBlankLine (cs : List Char) : Bool := cs.all isBlank

end LogSieve.Text
