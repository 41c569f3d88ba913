import LogSieve.Pattern.CharClass

/-!
This module contains patterns and the search for them in a text. As a search only tells whether the
pattern occurs, it does not matter which of several occurrences a repetition would prefer.
-/

namespace LogSieve

structure Context where
  before : Option Char
  behind : Option Char
  deriving DecidableEq, Repr

inductive Assertion where
  | textStart
  | textEnd
  | lineStart
  | lineEnd
  | anyLineStart
  | anyLineEnd
  | wordEdge (words : CharClass)
  | noWordEdge (words : CharClass)
  | wordStart (words : CharClass)
  | wordEnd (words : CharClass)
  | wordStartHalf (words : CharClass)
  | wordEndHalf (words : CharClass)
  deriving DecidableEq, Repr

def Assertion.holds (ctx : Context) : Assertion → Bool
  | .textStart => ctx.before.isNone
  | .textEnd => ctx.behind.isNone
  | .lineStart => ctx.before.isNone || ctx.before == some '\n'
  | .lineEnd => ctx.behind.isNone || ctx.behind == some '\n'
  | .anyLineStart =>
    ctx.before.isNone || ctx.before == some '\n' ||
      (ctx.before == some '\r' && ctx.behind != some '\n')
  | .anyLineEnd =>
    ctx.behind.isNone || ctx.behind == some '\r' ||
      (ctx.behind == some '\n' && ctx.before != some '\r')
  | .wordEdge words => ctx.before.any words.has != ctx.behind.any words.has
  | .noWordEdge words => ctx.before.any words.has == ctx.behind.any words.has
  | .wordStart words => !ctx.before.any words.has && ctx.behind.any words.has
  | .wordEnd words => ctx.before.any words.has && !ctx.behind.any words.has
  | .wordStartHalf words => !ctx.before.any words.has
  | .wordEndHalf words => !ctx.behind.any words.has

inductive Pattern where
  | empty
  | chars (set : CharClass)
  | look (assertion : Assertion)
  | group (p : Pattern)
  | seq (ps : List Pattern)
  | alt (ps : List Pattern)
  | times (p : Pattern) (least : Nat) (most : Option Nat)
  deriving Repr, Inhabited

namespace Pattern

def contexts (text : List Char) : List Context := go none text
where
  go (before : Option Char) : List Char → List Context
    | [] => [⟨before, none⟩]
    | c :: cs => ⟨before, some c⟩ :: go (some c) cs

abbrev Marks := List Bool

namespace Marks

def union (a b : Marks) : Marks := List.zipWith (· || ·) a b

def advance (text : List Char) (set : CharClass) (marks : Marks) : Marks :=
  false :: List.zipWith (fun c m => m && set.has c) text marks

def restrict (text : List Char) (assertion : Assertion) (marks : Marks) : Marks :=
  List.zipWith (fun ctx m => m && assertion.holds ctx) (contexts text) marks

def iterate (f : Marks → Marks) : Nat → Marks → Marks
  | 0, marks => marks
  | n + 1, marks => iterate f n (f marks)

def closure (f : Marks → Marks) : Nat → Marks → Marks
  | 0, marks => marks
  | n + 1, marks =>
    let marks' := marks.union (f marks)
    if marks' = marks then marks else closure f n marks'

end Marks

mutual

/--
The positions at which occurrences of the pattern end that start at marked positions. More
repetitions than the text has positions reach nothing new, as only those that take a character
count.
-/
def ends (text : List Char) : Pattern → Marks → Marks
  | .empty, marks => marks
  | .chars set, marks => marks.advance text set
  | .look assertion, marks => marks.restrict text assertion
  | .group p, marks => ends text p marks
  | .seq ps, marks => endsSeq text ps marks
  | .alt ps, marks => endsAlt text ps marks
  | .times p least most, marks =>
    let bound := text.length + 1
    let marks := Marks.iterate (ends text p) (min least bound) marks
    match most with
    | none => Marks.closure (ends text p) bound marks
    | some most => Marks.closure (ends text p) (min (most - least) bound) marks

def endsSeq (text : List Char) : List Pattern → Marks → Marks
  | [], marks => marks
  | p :: ps, marks => endsSeq text ps (ends text p marks)

def endsAlt (text : List Char) : List Pattern → Marks → Marks
  | [], marks => marks.map fun _ => false
  | p :: ps, marks => Marks.union (ends text p marks) (endsAlt text ps marks)

end

def occursIn (p : Pattern) (text : List Char) : Bool :=
  (p.ends text (List.replicate (text.length + 1) true)).any id

mutual

def depth : Pattern → Nat
  | .empty => 0
  | .chars _ => 0
  | .look _ => 0
  | .group p => depth p + 1
  | .seq ps => depthList ps + 1
  | .alt ps => depthList ps + 1
  | .times p _ _ => depth p + 1

def depthList : List Pattern → Nat
  | [] => 0
  | p :: ps => max (depth p) (depthList ps)

end

end Pattern

end LogSieve
