import CallContract.Pattern.Basic
import CallContract.Pattern.Reader
import CallContract.Pattern.Regex

/-!
# What a regular expression means

From the written form to the regular expression that is matched: flags are applied, classes are
looked up and closed under case where case does not matter. An expression has no meaning if it
names an unknown class or could match a part of a character, which only an expression with the
`u` flag switched off can.
-/

namespace CallContract.Pattern

open Unicode (CharSet)

/-- The flags in force. -/
structure Flags where
  caseInsensitive : Bool := false
  multiLine : Bool := false
  dotMatchesNewLine : Bool := false
  unicode : Bool := true
  crlf : Bool := false

/-- Switches a flag. Which match is preferred and where blanks are skipped have no bearing on the
meaning. -/
def Flags.set (f : Flags) (s : FlagSetting) : Flags :=
  match s.flag with
  | .caseInsensitive => { f with caseInsensitive := s.on }
  | .multiLine => { f with multiLine := s.on }
  | .dotMatchesNewLine => { f with dotMatchesNewLine := s.on }
  | .unicode => { f with unicode := s.on }
  | .crlf => { f with crlf := s.on }
  | .swapGreed => f
  | .ignoreBlanks => f

/-! ## Classes -/

/-- The decimal digits of all scripts. -/
def digits : CharSet := Unicode.categories ["nd"]

/-- The blanks. -/
def spaces : CharSet := Unicode.binary "whitespace"

/-- The characters of words: letters, marks, decimal digits, connectors and joiners. -/
def wordChars : CharSet :=
  Unicode.binary "alphabetic" ∪ Unicode.categories ["mn", "mc", "me", "nd", "pc"] ∪
    Unicode.binary "joincontrol"

/-- The ASCII members of a class. -/
def AsciiClass.chars : AsciiClass → CharSet
  | alnum => digit ∪ upper ∪ lower
  | alpha => upper ∪ lower
  | ascii => CharSet.range 0 0x7F
  | blank => CharSet.range 0x09 0x09 ∪ CharSet.range 0x20 0x20
  | cntrl => CharSet.range 0 0x1F ∪ CharSet.range 0x7F 0x7F
  | .digit => digit
  | graph => CharSet.range 0x21 0x7E
  | .lower => lower
  | print => CharSet.range 0x20 0x7E
  | punct =>
    CharSet.unions [CharSet.range 0x21 0x2F, CharSet.range 0x3A 0x40, CharSet.range 0x5B 0x60,
      CharSet.range 0x7B 0x7E]
  | space => CharSet.range 0x09 0x0D ∪ CharSet.range 0x20 0x20
  | .upper => upper
  | word => digit ∪ upper ∪ lower ∪ CharSet.range 0x5F 0x5F
  | xdigit => digit ∪ CharSet.range 0x41 0x46 ∪ CharSet.range 0x61 0x66
where
  digit : CharSet := CharSet.range 0x30 0x39
  upper : CharSet := CharSet.range 0x41 0x5A
  lower : CharSet := CharSet.range 0x61 0x7A

/-- The members of a short class. -/
def ShortClass.chars (unicode : Bool) : ShortClass → CharSet
  | digit => if unicode then digits else AsciiClass.chars .digit
  | space => if unicode then spaces else AsciiClass.chars .space
  | word => if unicode then wordChars else AsciiClass.chars .word

/-- The characters that a Unicode class stands for. -/
def PropertyQuery.chars? : PropertyQuery → Option CharSet
  | named name => Unicode.named? name
  | valued property value => Unicode.valued? property value

namespace Flags

/-- Closes a class under case if case does not matter. -/
def fold (f : Flags) (s : CharSet) : CharSet :=
  if f.caseInsensitive then
    if f.unicode then Unicode.foldCase s else Unicode.foldAsciiCase s
  else s

/-- Negates a class on demand. Without Unicode a class is a set of bytes, and the complement of a
set of ASCII characters has bytes that are no characters. -/
def negate? (f : Flags) (negated : Bool) (s : CharSet) : Option CharSet :=
  if negated then (if f.unicode then some s.complement else none) else some s

/-- The character of a literal, unless it is a byte that is no character. -/
def literal? (f : Flags) (l : Literal) : Option Char :=
  if !f.unicode && l.byte && 0x80 ≤ l.char.toNat then none else some l.char

/-- The character of a literal in a class, which without Unicode is in ASCII. -/
def classLiteral? (f : Flags) (l : Literal) : Option Char :=
  (f.literal? l).filter fun c => f.unicode || c.toNat < 0x80

/-- The members of a short class. -/
def short? (f : Flags) (negated : Bool) (kind : ShortClass) : Option CharSet :=
  f.negate? negated (kind.chars f.unicode)

/-- The members of a Unicode class, for which Unicode must be switched on. -/
def property? (f : Flags) (negated : Bool) (query : PropertyQuery) : Option CharSet :=
  if f.unicode then query.chars?.bind fun s => f.negate? negated (f.fold s) else none

end Flags

/-- The result of an operation between two classes. -/
def SetOperation.apply : SetOperation → CharSet → CharSet → CharSet
  | intersection, s, t => s ∩ t
  | difference, s, t => s \ t
  | symmetricDifference, s, t => CharSet.symmetricDifference s t

/-- The members of a class. Case is closed over at brackets and at the operands of operations. -/
def ClassExpr.chars? (f : Flags) : ClassExpr → Option CharSet
  | empty => some CharSet.empty
  | literal l => (f.classLiteral? l).map CharSet.singleton
  | range first last =>
    match f.classLiteral? first, f.classLiteral? last with
    | some lo, some hi => some (CharSet.range lo.toNat hi.toNat)
    | _, _ => none
  | ascii negated kind => f.negate? negated (f.fold kind.chars)
  | short negated kind => f.short? negated kind
  | property negated query => f.property? negated query
  | bracketed negated body => (body.chars? f).bind fun s => f.negate? negated (f.fold s)
  | union left right =>
    match left.chars? f, right.chars? f with
    | some s, some t => some (s ∪ t)
    | _, _ => none
  | operation op left right =>
    match left.chars? f, right.chars? f with
    | some s, some t => some (op.apply (f.fold s) (f.fold t))
    | _, _ => none

/-! ## Expressions -/

/-- The word characters that boundaries are about. -/
def Flags.word (f : Flags) : CharSet := ShortClass.word.chars f.unicode

/-- The condition that an anchor stands for. -/
def Anchor.condition (f : Flags) : Anchor → Look
  | lineStart => if f.multiLine then (if f.crlf then .crlfLineStart else .lineStart) else .textStart
  | lineEnd => if f.multiLine then (if f.crlf then .crlfLineEnd else .lineEnd) else .textEnd
  | textStart => .textStart
  | textEnd => .textEnd
  | wordBoundary => .boundary f.word
  | noWordBoundary => .noBoundary f.word
  | wordStart => .wordStart f.word
  | wordEnd => .wordEnd f.word
  | wordStartHalf => .wordStartHalf f.word
  | wordEndHalf => .wordEndHalf f.word

/-- The characters that a dot matches: all but the line breaks, unless these are included. Without
Unicode it would match bytes. -/
def Flags.dot? (f : Flags) : Option CharSet :=
  if !f.unicode then none
  else if f.dotMatchesNewLine then some CharSet.all
  else if f.crlf then some (CharSet.singleton '\n' ∪ CharSet.singleton '\r').complement
  else some (CharSet.singleton '\n').complement

/-- The meaning of an expression under the flags in force, and the flags in force behind it. Flags
set in a group end with it; flags set in one branch hold in the later ones. -/
def Expr.regex? (f : Flags) : Expr → Option (Regex × Flags)
  | empty => some (.empty, f)
  | flags settings => some (.empty, settings.foldl Flags.set f)
  | literal l => (f.literal? l).map fun c => (.chars (f.fold (CharSet.singleton c)), f)
  | dot => f.dot?.map fun s => (.chars s, f)
  | anchor a => some (.look (a.condition f), f)
  | short negated kind => (f.short? negated kind).map fun s => (.chars s, f)
  | property negated query => (f.property? negated query).map fun s => (.chars s, f)
  | bracketed negated body =>
    ((body.chars? f).bind fun s => f.negate? negated (f.fold s)).map fun s => (.chars s, f)
  | repetition body least most =>
    (body.regex? f).map fun (r, f) => (.repetition r least most, f)
  | group settings body => (body.regex? (settings.foldl Flags.set f)).map fun (r, _) => (r, f)
  | sequence left right => do
    let (l, f) ← left.regex? f
    let (r, f) ← right.regex? f
    return (.sequence l r, f)
  | alternatives left right => do
    let (l, f) ← left.regex? f
    let (r, f) ← right.regex? f
    return (.alternatives l r, f)

/-! ## Size -/

/-- An estimate of the room that a set of characters takes when it is matched byte by byte, in
bytes. Each range takes some for each length of code that occurs in it. -/
def setSize (s : CharSet) : Nat :=
  s.ranges.foldl (fun total (lo, hi) => total + rangeSize lo hi) 24
where
  rangeSize (lo hi : Nat) : Nat :=
    if hi < 0x80 then 8
    else 64 * (1 + [0x80, 0x800, 0x10000].countP fun start => lo < start && start ≤ hi)

/-- The expression matches no text but the empty one. -/
def Regex.takesNothing : Regex → Bool
  | empty => true
  | chars _ => false
  | look _ => true
  | sequence left right => left.takesNothing && right.takesNothing
  | alternatives left right => left.takesNothing && right.takesNothing
  | repetition body _ most => body.takesNothing || most == some 0

/-- An estimate of the room that an expression takes when its repetitions are written out. What
takes nothing is written once. -/
def Regex.size : Regex → Nat
  | empty => 32
  | chars set => setSize set
  | look _ => 32
  | sequence left right => left.size + right.size
  | alternatives left right => left.size + right.size + 32
  | repetition body least most =>
    if most = some 0 then 32
    else if body.takesNothing then body.size + 32
    else
      match most with
      | none => (body.size + 32) * max least 1
      | some m => (body.size + (if least < m then 32 else 0)) * max m 1

/-- Expressions that take more room are refused. -/
def sizeLimit : Nat := 10 * 1024 * 1024

/-- The regular expression that a text denotes. -/
def Regex.read? (text : String) : Option Regex := do
  let e ← Expr.read? text
  let (r, _) ← e.regex? {}
  if r.size ≤ sizeLimit then some r else none

/-! ## A compiler -/

/-- The pattern of an expression with its source. -/
def Regex.toPattern (source : String) (r : Regex) : Pattern := { source, isMatch := r.isMatch }

/-- The compiler that reads the expressions of this syntax. It is one among others: no theorem about
contracts depends on which sources it takes. -/
scoped instance Regex.compiler : PatternCompiler where
  compile? source := (Regex.read? source).map (Regex.toPattern source)
  source_of_compile? h := by
    obtain ⟨r, -, rfl⟩ := Option.map_eq_some_iff.1 h
    rfl

end CallContract.Pattern
