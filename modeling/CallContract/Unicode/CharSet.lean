import CallContract.Unicode.FoldTable

/-!
# Sets of characters

A set of code points is the ascending list of its *boundaries*: the points at which membership
changes, starting outside. The complement adds or removes the boundary zero, and every other set
operation is one sweep over two lists of boundaries. A set is closed under case by adding all that
differ from one of its members in case only.
-/

namespace CallContract.Unicode

/-- A set of code points, as the ascending list of the points where membership changes. -/
structure CharSet where
  boundaries : List Nat
  deriving DecidableEq

namespace CharSet

/-- No character. -/
def empty : CharSet := ⟨[]⟩

/-- Every character. -/
def all : CharSet := ⟨[0]⟩

/-- The code points from `lo` to `hi`. -/
def range (lo hi : Nat) : CharSet := if lo ≤ hi then ⟨[lo, hi + 1]⟩ else empty

/-- One character. -/
def singleton (c : Char) : CharSet := range c.toNat c.toNat

/-- Membership, given whether the points before the first boundary belong. -/
def containsFrom : Bool → List Nat → Nat → Bool
  | inside, [], _ => inside
  | inside, b :: bs, n => if n < b then inside else containsFrom (!inside) bs n

/-- The code point belongs to the set. -/
def contains (s : CharSet) (n : Nat) : Bool := containsFrom false s.boundaries n

/-- The character belongs to the set. -/
def containsChar (s : CharSet) (c : Char) : Bool := s.contains c.toNat

/-- The code points that do not belong. -/
def complement (s : CharSet) : CharSet :=
  match s.boundaries with
  | 0 :: bs => ⟨bs⟩
  | bs => ⟨0 :: bs⟩

/-- Sweeps both lists of boundaries from left to right. `inA` and `inB` say whether the current
point belongs to the one and the other set; a boundary of the result is where the combination
changes. -/
def sweep (op : Bool → Bool → Bool) (inA inB : Bool) : List Nat → List Nat → List Nat
  | [], [] => []
  | a :: as, [] =>
    let rest := sweep op (!inA) inB as []
    if op (!inA) inB = op inA inB then rest else a :: rest
  | [], b :: bs =>
    let rest := sweep op inA (!inB) [] bs
    if op inA (!inB) = op inA inB then rest else b :: rest
  | a :: as, b :: bs =>
    if a < b then
      let rest := sweep op (!inA) inB as (b :: bs)
      if op (!inA) inB = op inA inB then rest else a :: rest
    else if b < a then
      let rest := sweep op inA (!inB) (a :: as) bs
      if op inA (!inB) = op inA inB then rest else b :: rest
    else
      let rest := sweep op (!inA) (!inB) as bs
      if op (!inA) (!inB) = op inA inB then rest else a :: rest
termination_by as bs => as.length + bs.length

/-- The points for which the operation holds of membership in the two sets; it must not hold of
two non-members. -/
def combine (op : Bool → Bool → Bool) (s t : CharSet) : CharSet :=
  ⟨sweep op false false s.boundaries t.boundaries⟩

def union (s t : CharSet) : CharSet := combine (· || ·) s t
def inter (s t : CharSet) : CharSet := combine (· && ·) s t
def difference (s t : CharSet) : CharSet := combine (fun a b => a && !b) s t
def symmetricDifference (s t : CharSet) : CharSet := combine (· ^^ ·) s t

instance : Union CharSet := ⟨union⟩
instance : Inter CharSet := ⟨inter⟩
instance : SDiff CharSet := ⟨difference⟩

/-- The union of a list of sets. -/
def unions (sets : List CharSet) : CharSet := sets.foldr union empty

/-- The ranges of a set, the last one up to the last code point. -/
def ranges (s : CharSet) : List (Nat × Nat) := pairs s.boundaries
where
  pairs : List Nat → List (Nat × Nat)
    | lo :: stop :: rest => (lo, stop - 1) :: pairs rest
    | [lo] => [(lo, 0x10FFFF)]
    | [] => []

/-! ## Reading tables -/

/-- The value of an upper-case hexadecimal digit. -/
def hexValue (c : Char) : Nat := if c.isDigit then c.toNat - '0'.toNat else c.toNat - 'A'.toNat + 10

/-- Reads ascending ranges such as `41-5A 5F 61-7A`, with blanks and line ends between them. The
state is the set read so far, latest boundary first, the start of the range being read, if it has
one, and the number being read, if there is one. -/
def readStep (state : List Nat × Option Nat × Option Nat) (c : Char) :
    List Nat × Option Nat × Option Nat :=
  match state with
  | (done, low?, number?) =>
    if c = ' ' ∨ c = '\n' then
      match number? with
      | none => state
      | some n => ((n + 1) :: low?.getD n :: done, none, none)
    else if c = '-' then (done, number?, none)
    else (done, low?, some (16 * number?.getD 0 + hexValue c))

/-- The set that an entry of a table stands for. -/
def ofTable (text : String) : CharSet :=
  ⟨((text.toList ++ [' ']).foldl readStep ([], none, none)).1.reverse⟩

end CharSet

/-- A set of characters with the names it goes by, each in lower case and without underscores. -/
structure NamedSet where
  names : List String
  /-- The characters, as ranges of hexadecimal code points. -/
  text : String

/-! ## Closing a set under case -/

/-- The members of a run whose partner, at `distance` after it, is to be added to the set or the
other way round. -/
def FoldRun.partners (run : FoldRun) (s : CharSet) : List CharSet :=
  (List.range ((run.last - run.first) / run.stride + 1)).filterMap fun i =>
    let lower := run.first + i * run.stride
    let upper := lower + run.distance
    if s.contains lower && !s.contains upper then some (CharSet.range upper upper)
    else if s.contains upper && !s.contains lower then some (CharSet.range lower lower)
    else none

/-- The set with all case variants of its members. -/
def foldCase (s : CharSet) : CharSet :=
  let pairs := foldRuns.flatMap fun run => run.partners s
  let classes := foldClasses.filterMap fun members =>
    if members.any s.contains then
      some (CharSet.unions (members.map fun n => CharSet.range n n))
    else none
  s ∪ CharSet.unions (pairs ++ classes)

/-- The set with all case variants of its ASCII letters, ASCII letters only. -/
def foldAsciiCase (s : CharSet) : CharSet :=
  let upper := CharSet.range 0x41 0x5A
  let lower := CharSet.range 0x61 0x7A
  let shift (by32 : Nat → Nat) (t : CharSet) : CharSet := ⟨t.boundaries.map by32⟩
  s ∪ shift (· + 32) (s ∩ upper) ∪ shift (· - 32) (s ∩ lower)

end CallContract.Unicode
