import CallContract.Double.Numeral
import CallContract.Pattern.Expr
import CallContract.Unicode.Property

/-!
# Reading regular expressions

From the text of a regular expression to its written form, or nothing if the text is not one.

While it reads, the reader keeps the text that is left, the names of the groups opened so far, of
which no two may be alike, and whether blanks and comments are to be skipped. Every round of a
loop takes at least one character, so the length of the text bounds the number of rounds.
-/

namespace CallContract.Pattern

/-- What the reader keeps. -/
structure ReaderState where
  rest : List Char
  names : List String := []
  /-- Blanks and comments between the parts of an expression are skipped. -/
  skipping : Bool := false

/-- A step of reading, which may fail. -/
abbrev Reader (α : Type) := StateT ReaderState Option α

namespace Reader

/-! ## Characters -/

/-- The text behind the blanks and comments at its start; a comment goes up to the line feed. -/
def afterBlanks : (inComment : Bool) → List Char → List Char
  | _, [] => []
  | true, c :: r => afterBlanks (c != '\n') r
  | false, c :: r =>
    if Text.isBlank c then afterBlanks false r
    else if c = '#' then afterBlanks true r
    else c :: r

def reject {α : Type} : Reader α := fun _ => none

/-- Skips blanks and comments if they are to be skipped. -/
def skipBlanks : Reader Unit :=
  modify fun s => if s.skipping then { s with rest := afterBlanks false s.rest } else s

/-- The next character, if there is one. -/
def peek? : Reader (Option Char) := return (← get).rest.head?

/-- The next character, which there must be. -/
def peek : Reader Char := do
  match ← peek? with
  | some c => return c
  | none => reject

/-- Drops the next character. -/
def drop : Reader Unit := modify fun s => { s with rest := s.rest.drop 1 }

/-- Drops the next character and the blanks behind it. -/
def dropAndSkip : Reader Unit := do
  drop
  skipBlanks

/-- Drops the given text if it comes next, and says whether it did. -/
def accept (text : String) : Reader Bool := do
  let s ← get
  if text.toList.isPrefixOf s.rest then
    set { s with rest := s.rest.drop text.length }
    return true
  else
    return false

/-- Drops the given character, which must come next. -/
def expect (c : Char) : Reader Unit := do
  if (← peek) = c then drop else reject

/-- Takes characters while they satisfy the predicate. -/
def takeWhile (p : Char → Bool) : Reader (List Char) := do
  let s ← get
  set { s with rest := s.rest.dropWhile p }
  return s.rest.takeWhile p

/-- Takes characters of a kind, skipping blanks behind each of them. -/
def takeSpaced (p : Char → Bool) : Nat → Reader (List Char)
  | 0 => reject
  | fuel + 1 => do
    match ← peek? with
    | some c =>
      if p c then
        dropAndSkip
        return c :: (← takeSpaced p fuel)
      else return []
    | none => return []

/-- Takes all characters up to the given one, skipping blanks behind each of them. -/
def takeUntil (stop : Char) : Nat → Reader (List Char)
  | 0 => reject
  | fuel + 1 => do
    let c ← peek
    if c = stop then return []
    else
      dropAndSkip
      return c :: (← takeUntil stop fuel)

/-- The number of rounds that suffices for the text that is left. -/
def rounds : Reader Nat := return (← get).rest.length + 1

/-! ## Characters by number -/

/-- The character with a number, surrogates being none. -/
def charOf? (n : Nat) : Option Char := if n.isValidChar then some (Char.ofNat n) else none

/-- The character that hexadecimal digits denote. -/
def charOfHex? (digits : List Char) : Option Char := do
  if digits = [] then none
  else
    let values ← digits.mapM (digitValue? 16)
    charOf? (values.foldl (fun n d => 16 * n + d) 0)

/-- A fixed number of hexadecimal digits. -/
def hexDigits : Nat → Reader (List Char)
  | 0 => return []
  | n + 1 => do
    let c ← peek
    dropAndSkip
    return c :: (← hexDigits n)

/-- The character after a backslash and `x`, `u` or `U`: in braces, or of a fixed length. -/
def hexLiteral (length : Nat) : Reader Literal := do
  dropAndSkip
  if (← peek) = '\x7b' then
    dropAndSkip
    let digits ← takeUntil '\x7d' (← rounds)
    dropAndSkip
    match charOfHex? digits with
    | some c => return { char := c }
    | none => reject
  else
    match charOfHex? (← hexDigits length) with
    | some c => return { char := c, byte := length = 2 }
    | none => reject

/-! ## Escapes -/

/-- Characters that mean something in an expression. -/
def isMeta (c : Char) : Bool := "\\.+*?()|[]\x7b\x7d^$#&-~".toList.contains c

/-- A backslash in front of the character changes nothing. -/
def isEscapable (c : Char) : Bool :=
  isMeta c || (c.toNat < 0x80 && !c.isAlphanum && c != '<' && c != '>')

/-- What a backslash can begin. -/
inductive Escape where
  | literal (l : Literal)
  | anchor (a : Anchor)
  | short (negated : Bool) (kind : ShortClass)
  | property (negated : Bool) (query : PropertyQuery)

/-- Splits a text at the first place where another one occurs. -/
def splitAt? (mark : List Char) : List Char → Option (List Char × List Char)
  | [] => none
  | c :: r =>
    if mark.isPrefixOf (c :: r) then some ([], (c :: r).drop mark.length)
    else (splitAt? mark r).map fun (before, after) => (c :: before, after)

/-- A query in braces: a name, or a property and a value. -/
def queryOf (text : List Char) : PropertyQuery :=
  match (splitAt? ['!', '='] text).or ((splitAt? [':'] text).or (splitAt? ['='] text)) with
  | some (name, value) => .valued (String.ofList name) (String.ofList value)
  | none => .named (String.ofList text)

/-- The class after a backslash and `p`: in braces, or one letter. -/
def propertyQuery : Reader PropertyQuery := do
  dropAndSkip
  let c ← peek
  if c = '\x7b' then
    dropAndSkip
    let text ← takeUntil '\x7d' (← rounds)
    drop
    return queryOf text
  else if c = '\\' then reject
  else
    dropAndSkip
    return .named (String.singleton c)

/-- The word in braces that may follow a backslash and `b`. A brace that no letter or hyphen
follows is left for a repetition. -/
def boundaryKind : Reader Anchor := do
  let saved ← get
  let isWordChar (c : Char) : Bool := c.isAlpha || c = '-'
  if (← peek?) = some '\x7b' then
    dropAndSkip
    if isWordChar (← peek) then
      let word ← takeSpaced isWordChar (← rounds)
      expect '\x7d'
      match String.ofList word with
      | "start" => return .wordStart
      | "end" => return .wordEnd
      | "start-half" => return .wordStartHalf
      | "end-half" => return .wordEndHalf
      | _ => reject
    else
      set saved
      return .wordBoundary
  else return .wordBoundary

/-- What follows a backslash. -/
def escape : Reader Escape := do
  drop
  let c ← peek
  let plain (c : Char) : Reader Escape := do
    drop
    return .literal { char := c }
  let position (a : Anchor) : Reader Escape := do
    drop
    return .anchor a
  let short (negated : Bool) (kind : ShortClass) : Reader Escape := do
    drop
    return .short negated kind
  match c with
  | 'x' => return .literal (← hexLiteral 2)
  | 'u' => return .literal (← hexLiteral 4)
  | 'U' => return .literal (← hexLiteral 8)
  | 'p' => return .property false (← propertyQuery)
  | 'P' => return .property true (← propertyQuery)
  | 'd' => short false .digit
  | 'D' => short true .digit
  | 's' => short false .space
  | 'S' => short true .space
  | 'w' => short false .word
  | 'W' => short true .word
  | 'a' => plain '\x07'
  | 'f' => plain '\x0c'
  | 't' => plain '\t'
  | 'n' => plain '\n'
  | 'r' => plain '\r'
  | 'v' => plain '\x0b'
  | 'A' => position .textStart
  | 'z' => position .textEnd
  | 'B' => position .noWordBoundary
  | '<' => position .wordStart
  | '>' => position .wordEnd
  | 'b' =>
    drop
    return .anchor (← boundaryKind)
  | c => if isEscapable c then plain c else reject

/-! ## Bracketed classes -/

/-- The classes that go by a name between colons. -/
def asciiClass? : String → Option AsciiClass
  | "alnum" => some .alnum
  | "alpha" => some .alpha
  | "ascii" => some .ascii
  | "blank" => some .blank
  | "cntrl" => some .cntrl
  | "digit" => some .digit
  | "graph" => some .graph
  | "lower" => some .lower
  | "print" => some .print
  | "punct" => some .punct
  | "space" => some .space
  | "upper" => some .upper
  | "word" => some .word
  | "xdigit" => some .xdigit
  | _ => none

/-- A class such as `[:alpha:]`, if the text begins with one, and what follows it. -/
def splitAsciiClass? (text : List Char) : Option (ClassExpr × List Char) :=
  match text with
  | '[' :: ':' :: r =>
    let (negated, r) := match r with
      | '^' :: r => (true, r)
      | r => (false, r)
    match r.dropWhile (· != ':') with
    | ':' :: ']' :: after =>
      (asciiClass? (String.ofList (r.takeWhile (· != ':')))).map fun kind =>
        (.ascii negated kind, after)
    | _ => none
  | _ => none

/-- The character behind the next one, blanks skipped. Of a comment between the two only its mark
is skipped. -/
def peekBehind (s : ReaderState) : Option Char :=
  let r := s.rest.drop 1
  if s.skipping then
    match r.dropWhile Text.isBlank with
    | '#' :: r => (r.dropWhile Text.isBlank).head?
    | r => r.head?
  else r.head?

/-- The union of what has been read, latest item first. -/
def unionOf : List ClassExpr → ClassExpr
  | [] => .empty
  | [item] => item
  | item :: items => .union (unionOf items) item

/-- One item of a class: an escape, or a character standing for itself. -/
def classItem : Reader Escape := do
  let c ← peek
  if c = '\\' then escape
  else
    drop
    return .literal { char := c }

/-- What an item adds to a class. -/
def itemClass : Escape → Reader ClassExpr
  | .literal l => return .literal l
  | .short negated kind => return .short negated kind
  | .property negated query => return .property negated query
  | .anchor _ => reject

/-- An item or a range of characters. -/
def classRange : Reader ClassExpr := do
  let first ← classItem
  skipBlanks
  let next ← peek
  let behind := peekBehind (← get)
  if next ≠ '-' ∨ behind = some ']' ∨ behind = some '-' then itemClass first
  else
    dropAndSkip
    match first, ← classItem with
    | .literal lo, .literal hi => if lo.char ≤ hi.char then return .range lo hi else reject
    | _, _ => reject

/-- Hyphens at the start of a class stand for themselves. -/
def leadingHyphens : Nat → Reader (List ClassExpr)
  | 0 => reject
  | fuel + 1 => do
    if (← peek) = '-' then
      dropAndSkip
      return .literal { char := '-' } :: (← leadingHyphens fuel)
    else return []

/-- The start of a class: the bracket, a negation, and the hyphens or the closing bracket that
stand for themselves there. -/
def classStart : Reader (Bool × List ClassExpr) := do
  dropAndSkip
  let negated := (← peek) = '^'
  if negated then dropAndSkip
  let hyphens ← leadingHyphens (← rounds)
  if hyphens.isEmpty ∧ (← peek) = ']' then
    dropAndSkip
    return (negated, [.literal { char := ']' }])
  else return (negated, hyphens)

/-- The operation that the next two characters stand for. -/
def setOperation? : List Char → Option SetOperation
  | '&' :: '&' :: _ => some .intersection
  | '-' :: '-' :: _ => some .difference
  | '~' :: '~' :: _ => some .symmetricDifference
  | _ => none

/-- Applies the operation that is waiting for its right operand. -/
def finishOperand (waiting : Option (SetOperation × ClassExpr)) (items : List ClassExpr) :
    ClassExpr :=
  match waiting with
  | none => unionOf items
  | some (op, left) => .operation op left (unionOf items)

/-- The rest of a class behind its start, up to and with the closing bracket. The operations
associate to the left; `waiting` holds the left operand of the latest one and `items` what has been
read of its right operand, latest first. -/
def classBody : Nat → Option (SetOperation × ClassExpr) → List ClassExpr → Reader ClassExpr
  | 0, _, _ => reject
  | fuel + 1, waiting, items => do
    skipBlanks
    let s ← get
    match setOperation? s.rest with
    | some op =>
      set { s with rest := s.rest.drop 2 }
      classBody fuel (some (op, finishOperand waiting items)) []
    | none =>
      match ← peek with
      | ']' =>
        drop
        return finishOperand waiting items
      | '[' =>
        match splitAsciiClass? s.rest with
        | some (item, rest) =>
          set { s with rest }
          classBody fuel waiting (item :: items)
        | none =>
          let (negated, first) ← classStart
          let body ← classBody fuel none first
          classBody fuel waiting (.bracketed negated body :: items)
      | _ => classBody fuel waiting ((← classRange) :: items)

/-- A class in brackets. -/
def bracketed : Reader Expr := do
  let fuel ← rounds
  let (negated, first) ← classStart
  return .bracketed negated (← classBody fuel none first)

/-! ## Repetitions -/

/-- The largest count of a repetition. -/
def maxCount : Nat := 0xFFFFFFFF

/-- A count, with blanks around it. -/
def count : Reader Nat := do
  let _ ← takeWhile Text.isBlank
  let digits ← takeSpaced Char.isDigit (← rounds)
  let _ ← takeWhile Text.isBlank
  skipBlanks
  let n := Nat.ofDigitChars 10 digits 0
  if digits.isEmpty ∨ maxCount < n then reject else return n

/-- The counts in braces: one for exactly so many times, two for a range, of which the second may
be missing. -/
def counts : Reader (Nat × Option Nat) := do
  dropAndSkip
  let least ← count
  let range ← do
    if (← peek) = ',' then
      dropAndSkip
      if (← peek) = '\x7d' then pure (least, none)
      else pure (least, some (← count))
    else pure (least, some least)
  if (← peek) ≠ '\x7d' then reject
  dropAndSkip
  if range.2.all (least ≤ ·) then return range else reject

/-- The operand of a repetition is the latest item, which must be there and must not be a setting
of flags. -/
def operand? : List Expr → Option (Expr × List Expr)
  | [] => none
  | .empty :: _ => none
  | .flags _ :: _ => none
  | item :: items => some (item, items)

/-- A question mark behind a repetition makes it lazy, which does not change what it matches. -/
def lazyMark : Reader Unit := do
  if (← peek?) = some '?' then drop

/-- The repetition that the next character announces. -/
def repetition (mark : Char) (items : List Expr) : Reader (List Expr) := do
  match operand? items with
  | none => reject
  | some (body, items) =>
    let range ← match mark with
      | '?' => do drop; pure (0, some 1)
      | '*' => do drop; pure (0, none)
      | '+' => do drop; pure (1, none)
      | _ => counts
    lazyMark
    return .repetition body range.1 range.2 :: items

/-! ## Groups -/

/-- The flag that a letter stands for. -/
def flag? : Char → Option Flag
  | 'i' => some .caseInsensitive
  | 'm' => some .multiLine
  | 's' => some .dotMatchesNewLine
  | 'U' => some .swapGreed
  | 'u' => some .unicode
  | 'R' => some .crlf
  | 'x' => some .ignoreBlanks
  | _ => none

/-- Reads flags up to a colon or a closing parenthesis. A hyphen, of which there may be one,
switches off the flags behind it, of which there is then at least one; no flag comes twice. -/
def flagSettings : Nat → (on : Bool) → List FlagSetting → Reader (List FlagSetting)
  | 0, _, _ => reject
  | fuel + 1, on, done => do
    match ← peek with
    | ':' => return done.reverse
    | ')' => return done.reverse
    | '-' =>
      drop
      let next ← peek
      if on && next != ':' && next != ')' then flagSettings fuel false done else reject
    | c =>
      match flag? c with
      | none => reject
      | some flag =>
        if done.any (·.flag = flag) then reject
        else
          drop
          flagSettings fuel on ({ flag, on } :: done)

/-- The setting of a flag among some settings. -/
def setting? (settings : List FlagSetting) (flag : Flag) : Option Bool :=
  (settings.find? (·.flag = flag)).map (·.on)

/-- A group name: letters, digits and a few marks, the first one a letter or an underscore. -/
def isGroupName (name : List Char) : Bool :=
  let letters := Unicode.binary "alphabetic"
  let digits := Unicode.categories ["nd", "nl", "no"]
  let isFirst (c : Char) : Bool := c = '_' || letters.containsChar c
  let isLater (c : Char) : Bool :=
    isFirst c || c = '.' || c = '[' || c = ']' || digits.containsChar c
  match name with
  | [] => false
  | c :: r => isFirst c && r.all isLater

/-- The name of a group, up to and with the closing bracket, which must be new. -/
def groupName : Reader Unit := do
  let name ← takeWhile (· != '>')
  expect '>'
  let s ← get
  let text := String.ofList name
  if isGroupName name && !s.names.contains text then set { s with names := text :: s.names }
  else reject

/-- How a parenthesis can go on. -/
inductive Opening where
  /-- Flags for the rest of the enclosing group. -/
  | flags (settings : List FlagSetting)
  | group (settings : List FlagSetting)

/-- What follows an opening parenthesis. Conditions on the text around are refused. -/
def opening : Reader Opening := do
  dropAndSkip
  if ← accept "?=" then reject
  if ← accept "?!" then reject
  if ← accept "?<=" then reject
  if ← accept "?<!" then reject
  if (← accept "?P<") || (← accept "?<") then
    groupName
    return .group []
  if ← accept "?" then
    let settings ← flagSettings (← rounds) true []
    if ← accept ")" then
      if settings.isEmpty then reject else return .flags settings
    else
      drop
      return .group settings
  else return .group []

/-! ## Expressions -/

/-- One branch, given its items, latest first. -/
def branchOf : List Expr → Expr
  | [] => .empty
  | [item] => item
  | item :: items => .sequence (branchOf items) item

/-- The alternatives, given the branches, latest first. -/
def alternativesOf : List Expr → Expr
  | [] => .empty
  | [branch] => branch
  | branch :: branches => .alternatives (alternativesOf branches) branch

/-- One character, class or position, as an item of a branch. -/
def single (c : Char) : Reader Expr := do
  match c with
  | '\\' =>
    match ← escape with
    | .literal l => return .literal l
    | .anchor a => return .anchor a
    | .short negated kind => return .short negated kind
    | .property negated query => return .property negated query
  | '.' =>
    drop
    return .dot
  | '^' =>
    drop
    return .anchor .lineStart
  | '$' =>
    drop
    return .anchor .lineEnd
  | c =>
    drop
    return .literal { char := c }

/-- An expression up to the end or to a closing parenthesis, which is left. `branches` and `items`
are the finished branches and the items of the current one, latest first. -/
def expression : Nat → List Expr → List Expr → Reader Expr
  | 0, _, _ => reject
  | fuel + 1, branches, items => do
    skipBlanks
    match ← peek? with
    | none => return alternativesOf (branchOf items :: branches)
    | some ')' => return alternativesOf (branchOf items :: branches)
    | some '|' =>
      drop
      expression fuel (branchOf items :: branches) []
    | some '[' => expression fuel branches ((← bracketed) :: items)
    | some '(' =>
      match ← opening with
      | .flags settings =>
        modify fun s => { s with skipping := (setting? settings .ignoreBlanks).getD s.skipping }
        expression fuel branches (.flags settings :: items)
      | .group settings =>
        let outer := (← get).skipping
        modify fun s => { s with skipping := (setting? settings .ignoreBlanks).getD outer }
        let body ← expression fuel [] []
        expect ')'
        modify fun s => { s with skipping := outer }
        expression fuel branches (.group settings body :: items)
    | some c =>
      if c = '?' ∨ c = '*' ∨ c = '+' ∨ c = '\x7b' then
        expression fuel branches (← repetition c items)
      else expression fuel branches ((← single c) :: items)

end Reader

/-- The written form of a regular expression. -/
def Expr.read? (text : String) : Option Expr := do
  let start : ReaderState := { rest := text.toList }
  let (e, s) ← (Reader.expression (text.length + 1) [] []).run start
  if s.rest.isEmpty && e.depth .none ≤ nestLimit then some e else none

end CallContract.Pattern
