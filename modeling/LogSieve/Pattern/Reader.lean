import LogSieve.Number.Double
import LogSieve.Pattern.Basic
import LogSieve.Text.Hex

/-!
This module contains the reading of patterns. A text that is no pattern is rejected without a
reason, as no answer shows one.
-/

namespace LogSieve

namespace Pattern

open Scan

structure Flags where
  ignoreCase : Bool := false
  multiLine : Bool := false
  dotAll : Bool := false
  crlf : Bool := false
  verbose : Bool := false
  unicode : Bool := true
  deriving DecidableEq, Repr

namespace Flags

def switch? (flags : Flags) (letter : Char) (on : Bool) : Option Flags :=
  match letter with
  | 'i' => some { flags with ignoreCase := on }
  | 'm' => some { flags with multiLine := on }
  | 's' => some { flags with dotAll := on }
  | 'R' => some { flags with crlf := on }
  | 'x' => some { flags with verbose := on }
  | 'u' => some { flags with unicode := on }
  -- Which of several occurrences is preferred does not matter.
  | 'U' => some flags
  | _ => none

def fold (flags : Flags) (set : CharClass) : CharClass :=
  if flags.ignoreCase then
    if flags.unicode then .folded set else .asciiFolded set
  else
    set

def words (flags : Flags) : CharClass := if flags.unicode then .word else .asciiWord

def digits (flags : Flags) : CharClass := if flags.unicode then .decimal else .asciiDigit

def blanks (flags : Flags) : CharClass := if flags.unicode then .blank else .asciiBlank

def lineStart (flags : Flags) : Assertion :=
  if flags.multiLine then
    if flags.crlf then .anyLineStart else .lineStart
  else
    .textStart

def lineEnd (flags : Flags) : Assertion :=
  if flags.multiLine then
    if flags.crlf then .anyLineEnd else .lineEnd
  else
    .textEnd

def dot (flags : Flags) : CharClass :=
  if flags.dotAll then .complement .empty
  else if flags.crlf then .complement (.ofList ['\n', '\r'])
  else .complement (.single '\n')

def setOf (flags : Flags) (negated : Bool) (set : CharClass) : CharClass :=
  if negated then .complement (flags.fold set) else flags.fold set

def allows (flags : Flags) (set : CharClass) : Bool :=
  flags.unicode || (List.range 128).all fun n => !set.has (Char.ofNat (128 + n))

end Flags

def skipGaps (flags : Flags) : Scan Unit :=
  if flags.verbose then do
    let _ ← many (gap <|> comment)
  else
    pure ()
where
  gap : Scan Unit := do let _ ← takeWhile1 Text.isBlank
  comment : Scan Unit := do
    char '#'
    let _ ← takeWhile (· != '\n')

inductive Item where
  | literal (c : Char)
  | set (set : CharClass)
  | look (assertion : Assertion)

def hexDigit (flags : Flags) : Scan Nat := Text.hexDigit <* skipGaps flags

def hexCode (flags : Flags) (count : Nat) : Scan Char := do
  skipGaps flags
  if ← accepts (char '\x7b') then
    skipGaps flags
    let digits ← many (hexDigit flags)
    check (!digits.isEmpty)
    char '\x7d'
    Text.scalar (digits.foldl (fun n d => 16 * n + d) 0)
  else
    let n ← (List.range count).foldlM (fun n _ => do return 16 * n + (← hexDigit flags)) 0
    check (flags.unicode || count != 2 || n < 128)
    Text.scalar n

def wordAssertion (flags : Flags) : Scan Assertion :=
  named <|> pure (.wordEdge flags.words)
where
  named : Scan Assertion := do
    char '\x7b'
    skipGaps flags
    let name ← many (satisfy (fun c => c.isAlpha || c == '-') <* skipGaps flags)
    char '\x7d'
    match String.ofList name with
    | "start" => return .wordStart flags.words
    | "end" => return .wordEnd flags.words
    | "start-half" => return .wordStartHalf flags.words
    | "end-half" => return .wordEndHalf flags.words
    | _ => failure

def className (flags : Flags) : Scan String := do
  skipGaps flags
  if ← accepts (char '\x7b') then
    skipGaps flags
    let name ← many (satisfy (· != '\x7d') <* skipGaps flags)
    char '\x7d'
    return String.ofList name
  else
    let c ← satisfy (· != '\\')
    return String.singleton c

def isEscapable (c : Char) : Bool :=
  c.toNat < 128 && !c.isAlphanum && c != '<' && c != '>'

def unicodeClass (classes : NamedClasses) (flags : Flags) (negated : Bool) : Scan Item := do
  let name ← className flags
  check flags.unicode
  match classes flags.ignoreCase name with
  | some set => return .set (if negated then .complement set else set)
  | none => failure

def escape (classes : NamedClasses) (flags : Flags) : Scan Item := do
  let named (set : CharClass) : Scan Item := do
    check (flags.allows set)
    return .set set
  match ← next with
  | 'x' => .literal <$> hexCode flags 2
  | 'u' => .literal <$> hexCode flags 4
  | 'U' => .literal <$> hexCode flags 8
  | 'd' => named flags.digits
  | 'D' => named (.complement flags.digits)
  | 's' => named flags.blanks
  | 'S' => named (.complement flags.blanks)
  | 'w' => named flags.words
  | 'W' => named (.complement flags.words)
  | 'p' => unicodeClass classes flags false
  | 'P' => unicodeClass classes flags true
  | 'a' => return .literal '\x07'
  | 'f' => return .literal '\x0c'
  | 't' => return .literal '\t'
  | 'n' => return .literal '\n'
  | 'r' => return .literal '\r'
  | 'v' => return .literal '\x0b'
  | 'A' => return .look .textStart
  | 'z' => return .look .textEnd
  | 'b' => .look <$> wordAssertion flags
  | 'B' => return .look (.noWordEdge flags.words)
  | '<' => return .look (.wordStart flags.words)
  | '>' => return .look (.wordEnd flags.words)
  | c =>
    check (isEscapable c)
    return .literal c

/-! Classes in brackets -/

inductive SetOp where
  | intersection
  | difference
  | exclusive

def SetOp.apply : SetOp → CharClass → CharClass → CharClass
  | .intersection => .intersection
  | .difference => .difference
  | .exclusive => .exclusive

/--
A set, and how deep brackets, lists of items and operations are nested in its text.
-/
structure Nested where
  set : CharClass
  depth : Nat

/--
A class whose bracket is not yet closed: the items since the last operation, their number and the
depth of the deepest one, and the operation with the set before it.
-/
structure OpenClass where
  negated : Bool
  items : CharClass
  count : Nat
  depth : Nat
  pending : Option (SetOp × Nested)

namespace OpenClass

def start (negated : Bool) : OpenClass := ⟨negated, .empty, 0, 0, none⟩

def add (open' : OpenClass) (item : Nested) : OpenClass :=
  { open' with
    items := open'.items.union item.set
    count := open'.count + 1
    depth := max open'.depth item.depth }

def operand (flags : Flags) (open' : OpenClass) : Nested :=
  let depth := if open'.count ≤ 1 then open'.depth else open'.depth + 1
  match open'.pending with
  | some (op, left) =>
    ⟨op.apply (flags.fold left.set) (flags.fold open'.items), max left.depth depth + 1⟩
  | none => ⟨open'.items, depth⟩

def close (flags : Flags) (open' : OpenClass) : Nested :=
  let inner := open'.operand flags
  ⟨flags.setOf open'.negated inner.set, inner.depth + 1⟩

def operate (flags : Flags) (open' : OpenClass) (op : SetOp) : OpenClass :=
  { start open'.negated with pending := some (op, open'.operand flags) }

end OpenClass

def openClass (flags : Flags) : Scan OpenClass := do
  skipGaps flags
  let negated ← accepts (char '^' *> skipGaps flags)
  let dashes ← many (char '-' *> skipGaps flags)
  if dashes.isEmpty then
    if ← accepts (char ']' *> skipGaps flags) then
      return (OpenClass.start negated).add ⟨.single ']', 0⟩
    else
      return .start negated
  else
    return dashes.foldl (fun open' _ => open'.add ⟨.single '-', 0⟩) (.start negated)

def namedClass : Scan (Bool × CharClass) := do
  literal ['[', ':']
  let negated ← accepts (char '^')
  let name ← takeWhile (· != ':')
  literal [':', ']']
  match CharClass.ofName? (String.ofList name) with
  | some set => return (negated, set)
  | none => failure

def classItem (classes : NamedClasses) (flags : Flags) : Scan Item := do
  let c ← next
  if c = '\\' then escape classes flags else return .literal c

def limit (flags : Flags) : Item → Scan Char
  | .literal c => do
    check (flags.unicode || c.toNat < 128)
    return c
  | _ => failure

/--
Whether a dash is ahead that makes a range, which it does not before the closing bracket or before
another dash. Where comments are skipped, the first character of a comment is looked at instead.
-/
def isRangeAhead (flags : Flags) : List Char → Bool
  | '-' :: cs => (if flags.verbose then behindMark cs else cs).head?.any fun c => c != ']' && c != '-'
  | _ => false
where
  behindMark (cs : List Char) : List Char :=
    match cs.dropWhile Text.isBlank with
    | '#' :: cs => cs.dropWhile Text.isBlank
    | cs => cs

def classRange (classes : NamedClasses) (flags : Flags) : Scan CharClass := do
  let first ← classItem classes flags
  skipGaps flags
  if isRangeAhead flags (← ahead) then
    char '-'
    skipGaps flags
    let second ← classItem classes flags
    let lo ← limit flags first
    let hi ← limit flags second
    check (lo ≤ hi)
    return .range lo hi
  else
    match first with
    | .literal c => .single <$> limit flags (.literal c)
    | .set set => return set
    | .look _ => failure

def classStep (classes : NamedClasses) (flags : Flags) (state : OpenClass × List OpenClass) :
    Scan ((OpenClass × List OpenClass) ⊕ Nested) := do
  let (inner, outer) := state
  skipGaps flags
  match ← ahead with
  | '&' :: '&' :: _ => operate .intersection
  | '-' :: '-' :: _ => operate .difference
  | '~' :: '~' :: _ => operate .exclusive
  | '[' :: _ =>
    match ← option? namedClass with
    | some (negated, named) =>
      let set := flags.setOf negated named
      check (flags.allows set)
      return .inl (inner.add ⟨set, 0⟩, outer)
    | none =>
      char '['
      return .inl (← openClass flags, inner :: outer)
  | ']' :: _ =>
    char ']'
    let closed := inner.close flags
    check (flags.allows closed.set)
    match outer with
    | [] => return .inr closed
    | around :: outer => return .inl (around.add closed, outer)
  | _ => return .inl (inner.add ⟨← classRange classes flags, 0⟩, outer)
where
  operate (op : SetOp) : Scan ((OpenClass × List OpenClass) ⊕ Nested) := do
    let _ ← next
    let _ ← next
    return .inl (state.1.operate flags op, state.2)

def bracketClass (classes : NamedClasses) (flags : Flags) : Scan Nested := do
  loop (classStep classes flags) (← openClass flags, [])

/-! Repetitions -/

def maxCount : Nat := Nat.pow 2 32 - 1

def count (flags : Flags) : Scan Nat := do
  let _ ← takeWhile Text.isBlank
  let digits ← many (satisfy Char.isDigit <* skipGaps flags)
  let _ ← takeWhile Text.isBlank
  skipGaps flags
  check (!digits.isEmpty)
  let n := Double.digitsValue 0 digits
  check (n ≤ maxCount)
  return n

def limits (flags : Flags) : Scan (Nat × Option Nat) := do
  skipGaps flags
  let least ← count flags
  let most ←
    if ← accepts (char ',' *> skipGaps flags) then
      option? (count flags)
    else
      pure (some least)
  char '\x7d'
  match most with
  | some most => check (least ≤ most)
  | none => pure ()
  return (least, most)

/-! Groups -/

structure OpenGroup where
  flags : Flags
  items : List Pattern
  branches : List Pattern

namespace OpenGroup

def sequence : List Pattern → Pattern
  | [] => .empty
  | [p] => p
  | ps => .seq ps

def close (g : OpenGroup) : Pattern :=
  let last := sequence g.items.reverse
  if g.branches.isEmpty then last else .alt (g.branches.reverse ++ [last])

def add (g : OpenGroup) (p : Pattern) : OpenGroup := { g with items := p :: g.items }

def nextBranch (g : OpenGroup) : OpenGroup :=
  { g with items := [], branches := sequence g.items.reverse :: g.branches }

def repeated? (g : OpenGroup) (least : Nat) (most : Option Nat) : Option OpenGroup :=
  match g.items with
  | [] => none
  | .empty :: _ => none
  | p :: items => some { g with items := .times p least most :: items }

end OpenGroup

structure State where
  inner : OpenGroup
  outer : List OpenGroup
  names : List String

/--
Takes switches of modes up to `:` or `)`. No letter may come twice, nor may a minus, and something
has to follow a minus. Gives the new modes and whether there was any letter.
-/
def switches (flags : Flags) : Scan (Flags × Bool) :=
  loop step (flags, true, [])
where
  step : Flags × Bool × List Char → Scan ((Flags × Bool × List Char) ⊕ (Flags × Bool))
    | (flags, on, seen) => do
      match ← ahead with
      | ':' :: _ | ')' :: _ =>
        check (seen.head? != some '-')
        return .inr (flags, !seen.isEmpty)
      | _ =>
        let c ← next
        check (!seen.contains c)
        if c = '-' then
          return .inl (flags, false, c :: seen)
        else
          match flags.switch? c on with
          | some flags => return .inl (flags, on, c :: seen)
          | none => failure

def groupName : Scan String := do
  let first ← satisfy fun c => c == '_' || Text.isLetter c
  let others ← takeWhile fun c =>
    c == '_' || c == '.' || c == '[' || c == ']' || Text.isAlphanumeric c
  char '>'
  return String.ofList (first :: others)

def State.enter (state : State) (flags : Flags) (names : List String) : State :=
  { inner := ⟨flags, [], []⟩, outer := state.inner :: state.outer, names := names }

def openGroup (state : State) : Scan State := do
  let flags := state.inner.flags
  skipGaps flags
  match ← ahead with
  | '?' :: '=' :: _ | '?' :: '!' :: _ => failure
  | '?' :: '<' :: '=' :: _ | '?' :: '<' :: '!' :: _ => failure
  | '?' :: 'P' :: '<' :: _ =>
    literal ['?', 'P', '<']
    enterNamed
  | '?' :: '<' :: _ =>
    literal ['?', '<']
    enterNamed
  | '?' :: _ =>
    char '?'
    let (flags', switched) ← switches flags
    if ← accepts (char ')') then
      check switched
      let inner := { state.inner with flags := flags' }
      return { state with inner := inner.add .empty }
    else
      char ':'
      return state.enter flags' state.names
  | _ => return state.enter flags state.names
where
  enterNamed : Scan State := do
    let name ← groupName
    check (!state.names.contains name)
    return state.enter state.inner.flags (name :: state.names)

def closeGroup (state : State) : Scan State :=
  match state.outer with
  | [] => failure
  | around :: outer =>
    return { state with inner := around.add (.group state.inner.close), outer := outer }

def State.add (state : State) (p : Pattern) : State := { state with inner := state.inner.add p }

def repeatLast (state : State) (least : Nat) (most : Option Nat) : Scan State := do
  -- The mark only prefers an occurrence with fewer repetitions.
  let _ ← accepts (char '?')
  match state.inner.repeated? least most with
  | some inner => return { state with inner := inner }
  | none => failure

def grouped (n : Nat) (p : Pattern) : Pattern :=
  match n with
  | 0 => p
  | n + 1 => .group (grouped n p)

def itemPattern (flags : Flags) : Item → Pattern
  | .literal c => .chars (flags.fold (.single c))
  | .set set => .chars set
  | .look assertion => .look assertion

def step (classes : NamedClasses) (state : State) : Scan State := do
  let flags := state.inner.flags
  match ← next with
  | '(' => openGroup state
  | ')' => closeGroup state
  | '|' => return { state with inner := state.inner.nextBranch }
  | '[' =>
    -- The brackets of a class count like those of groups.
    let ⟨set, depth⟩ ← bracketClass classes flags
    return state.add (grouped depth (.chars set))
  | '?' => repeatLast state 0 (some 1)
  | '*' => repeatLast state 0 none
  | '+' => repeatLast state 1 none
  | '\x7b' =>
    let (least, most) ← limits flags
    skipGaps flags
    repeatLast state least most
  | '\\' => return state.add (itemPattern flags (← escape classes flags))
  | '.' =>
    check (flags.allows flags.dot)
    return state.add (.chars flags.dot)
  | '^' => return state.add (.look flags.lineStart)
  | '$' => return state.add (.look flags.lineEnd)
  | c => return state.add (itemPattern flags (.literal c))

def maxDepth : Nat := 250

def whole (classes : NamedClasses) : Scan Pattern :=
  loop turn { inner := ⟨{}, [], []⟩, outer := [], names := [] }
where
  turn (state : State) : Scan (State ⊕ Pattern) := do
    skipGaps state.inner.flags
    if ← atEnd then
      check state.outer.isEmpty
      let p := state.inner.close
      check (p.depth ≤ maxDepth)
      return .inr p
    else
      return .inl (← step classes state)

def ofText? (classes : NamedClasses) (text : String) : Option Pattern := (whole classes).run text.toList

end Pattern

/--
What texts mean as patterns: the texts in which a pattern occurs, or nothing if a text is no pattern.
-/
abbrev PatternLanguage := String → Option (String → Bool)

namespace PatternLanguage

def occurs (language : PatternLanguage) (literal text : String) : Bool :=
  (language literal).any (· text)

/--
The patterns of this module, as far as they are not too large.
-/
def ofPatterns (classes : NamedClasses) (fits : Pattern → Bool) : PatternLanguage := fun literal =>
  ((Pattern.ofText? classes literal).filter fits).map fun p text => p.occursIn text.toList

def standard : PatternLanguage := ofPatterns .standard fun _ => true

end PatternLanguage

end LogSieve
