import LogSieve.Text.Blank
import LogSieve.Text.Case
import LogSieve.Text.Word

/-!
This module contains the sets of characters that patterns speak of.
-/

namespace LogSieve

inductive CharClass where
  | empty
  | range (lo hi : Char)
  | ranges (rs : Text.Ranges)
  | blank
  | decimal
  | word
  | union (a b : CharClass)
  | intersection (a b : CharClass)
  | difference (a b : CharClass)
  | exclusive (a b : CharClass)
  | complement (a : CharClass)
  | folded (a : CharClass)
  | asciiFolded (a : CharClass)
  deriving DecidableEq, Repr

namespace CharClass

def has : CharClass → Char → Bool
  | .empty, _ => false
  | .range lo hi, c => lo ≤ c && c ≤ hi
  | .ranges rs, c => rs.has c
  | .blank, c => Text.isBlank c
  | .decimal, c => Text.isDecimal c
  | .word, c => Text.isWord c
  | .union a b, c => has a c || has b c
  | .intersection a b, c => has a c && has b c
  | .difference a b, c => has a c && !has b c
  | .exclusive a b, c => has a c != has b c
  | .complement a, c => !has a c
  | .folded a, c => (Text.variants c).any (has a)
  | .asciiFolded a, c => has a c || has a c.toLower || has a c.toUpper

def single (c : Char) : CharClass := .range c c

def ofList (cs : List Char) : CharClass := cs.foldl (fun a c => a.union (single c)) .empty

def asciiDigit : CharClass := .range '0' '9'

def asciiUpper : CharClass := .range 'A' 'Z'

def asciiLower : CharClass := .range 'a' 'z'

def asciiLetter : CharClass := asciiUpper.union asciiLower

def asciiAlphanumeric : CharClass := asciiDigit.union asciiLetter

def asciiWord : CharClass := asciiAlphanumeric.union (single '_')

def asciiBlank : CharClass := (CharClass.range '\t' '\r').union (single ' ')

def asciiPunctuation : CharClass :=
  (CharClass.range '!' '~').difference asciiAlphanumeric

def ofName? (name : String) : Option CharClass :=
  match name with
  | "alnum" => some asciiAlphanumeric
  | "alpha" => some asciiLetter
  | "ascii" => some (.range '\x00' '\x7f')
  | "blank" => some (ofList ['\t', ' '])
  | "cntrl" => some ((CharClass.range '\x00' '\x1f').union (single '\x7f'))
  | "digit" => some asciiDigit
  | "graph" => some (.range '!' '~')
  | "lower" => some asciiLower
  | "print" => some (.range ' ' '~')
  | "punct" => some asciiPunctuation
  | "space" => some asciiBlank
  | "upper" => some asciiUpper
  | "word" => some asciiWord
  | "xdigit" => some (asciiDigit.union ((CharClass.range 'A' 'F').union (.range 'a' 'f')))
  | _ => none

/--
The classes of Unicode for which there is a table here. It does not matter how the words of a name are
written and joined.
-/
def ofProperty? (name : String) : Option CharClass :=
  let joined := name.toList.filter fun c => c != ' ' && c != '_' && c != '-'
  match String.ofList (joined.map Char.toLower) with
  | "any" => some (.complement .empty)
  | "ascii" => some (.range '\x00' '\x7f')
  | "alphabetic" | "alpha" => some (.ranges Text.letters)
  | "cased" => some (.ranges Text.cased)
  | "caseignorable" | "ci" => some (.ranges Text.caseIgnorable)
  | "decimalnumber" | "nd" | "digit" => some .decimal
  | "whitespace" | "wspace" | "space" => some .blank
  | _ => none

end CharClass

/--
The classes of Unicode by their names. If the first argument is set, letters stand for all their
variants.
-/
abbrev NamedClasses := Bool → String → Option CharClass

def NamedClasses.standard : NamedClasses := fun ignoreCase name =>
  (CharClass.ofProperty? name).map fun set => if ignoreCase then .folded set else set

end LogSieve
