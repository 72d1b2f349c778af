import CallContract.Unicode.CharSet

/-!
# Regular expressions and where they end

What a regular expression means: from a set of start positions in a text it leads to a set of end
positions. The meaning is compositional: a sequence composes, alternatives are joined, and a
repetition goes on from the positions it has newly reached until there are none. Since a text has
finitely many positions, this needs no search and no backtracking, and takes time polynomial in
the text and the expression.

Positions are kept in descending order without repetition. A repetition mostly moves forward, and
then its new positions go in front of the ones it has.
-/

namespace CallContract.Pattern

open Unicode (CharSet)

/-- A condition on the characters before and after a position. -/
inductive Look where
  | textStart
  | textEnd
  /-- At the start or behind a line feed. -/
  | lineStart
  /-- At the end or before a line feed. -/
  | lineEnd
  /-- At the start or behind a line break, which may be a carriage return and a line feed. -/
  | crlfLineStart
  /-- At the end or before such a line break. -/
  | crlfLineEnd
  /-- Between a character of the set and one outside it. -/
  | boundary (word : CharSet)
  | noBoundary (word : CharSet)
  | wordStart (word : CharSet)
  | wordEnd (word : CharSet)
  | wordStartHalf (word : CharSet)
  | wordEndHalf (word : CharSet)

/-- A regular expression. -/
inductive Regex where
  /-- The empty text. -/
  | empty
  /-- One character of a set. -/
  | chars (set : CharSet)
  /-- A condition that takes up no text. -/
  | look (condition : Look)
  | sequence (left right : Regex)
  | alternatives (left right : Regex)
  /-- The body repeated, without an upper limit if `most` is missing. -/
  | repetition (body : Regex) (least : Nat) (most : Option Nat)

/-! ## Conditions -/

/-- The character is there and belongs to the set. -/
def memberOf (s : CharSet) (c : Option Char) : Bool := c.any s.containsChar

/-- The condition holds between two characters, a missing one being the edge of the text. -/
def Look.holds (before after : Option Char) : Look → Bool
  | textStart => before.isNone
  | textEnd => after.isNone
  | lineStart => before.isNone || before == some '\n'
  | lineEnd => after.isNone || after == some '\n'
  | crlfLineStart =>
    before.isNone || before == some '\n' || (before == some '\r' && after != some '\n')
  | crlfLineEnd =>
    after.isNone || after == some '\r' || (after == some '\n' && before != some '\r')
  | boundary word => memberOf word before != memberOf word after
  | noBoundary word => memberOf word before == memberOf word after
  | wordStart word => !memberOf word before && memberOf word after
  | wordEnd word => memberOf word before && !memberOf word after
  | wordStartHalf word => !memberOf word before
  | wordEndHalf word => !memberOf word after

/-! ## Sets of positions -/

/-- Positions in a text, in descending order. -/
abbrev Positions := List Nat

/-- The positions in either list. -/
def merge : Positions → Positions → Positions
  | [], bs => bs
  | as, [] => as
  | a :: as, b :: bs =>
    if a < b then b :: merge (a :: as) bs
    else if b < a then a :: merge as (b :: bs)
    else a :: merge as bs
termination_by as bs => as.length + bs.length

/-- The positions in the first list that are not in the second. -/
def remove : Positions → Positions → Positions
  | [], _ => []
  | as, [] => as
  | a :: as, b :: bs =>
    if a < b then remove (a :: as) bs
    else if b < a then a :: remove as (b :: bs)
    else remove as bs
termination_by as bs => as.length + bs.length

/-- Applies a step `count` times; a set that a step maps to itself needs no more steps. -/
def iterate (step : Positions → Positions) : Nat → Positions → Positions
  | 0, s => s
  | count + 1, s =>
    let next := step s
    if next = s then s else iterate step count next

/-- What a step reaches from `seen` in at most `rounds` rounds, of which `fresh` is the part not
yet stepped from. -/
def reach (step : Positions → Positions) : Nat → Positions → Positions → Positions
  | 0, seen, _ => seen
  | rounds + 1, seen, fresh =>
    match remove (step fresh) seen with
    | [] => seen
    | found => reach step rounds (merge found seen) found

/-! ## Matching -/

/-- The character before a position. -/
def charBefore (text : Array Char) (i : Nat) : Option Char := if i = 0 then none else text[i - 1]?

/-- The positions at which the expression can end when it starts at one of `starts`. A further
round of a repetition finds a new position or is the last, so a text of `n` characters needs no
more than `n + 1`. -/
def Regex.ends (text : Array Char) : Regex → Positions → Positions
  | empty, starts => starts
  | chars set, starts => (starts.filter fun i => memberOf set text[i]?).map (· + 1)
  | look condition, starts => starts.filter fun i => condition.holds (charBefore text i) text[i]?
  | sequence left right, starts => right.ends text (left.ends text starts)
  | alternatives left right, starts => merge (left.ends text starts) (right.ends text starts)
  | repetition body least most, starts =>
    let required := iterate (body.ends text) least starts
    let rounds := match most with
      | none => text.size + 1
      | some m => min (m - least) (text.size + 1)
    reach (body.ends text) rounds required required

/-- All positions of a text of `n` characters. -/
def allPositions : Nat → Positions
  | 0 => [0]
  | n + 1 => (n + 1) :: allPositions n

/-- Some part of the text matches. -/
def Regex.isMatch (r : Regex) (text : String) : Bool :=
  let chars := text.toList.toArray
  !(r.ends chars (allPositions chars.size)).isEmpty

end CallContract.Pattern
