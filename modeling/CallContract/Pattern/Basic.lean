/-!
# Patterns

A pattern is a compiled regular expression. Of the library that compiles it no more is known here
than a `PatternCompiler` says: which sources it compiles, and that what it compiles still knows its
source. Everything that compiles patterns takes such a compiler as a parameter.

A caller can also hand over a pattern that was compiled elsewhere, under settings of its own. It
need not be what the compiler makes of its source, and its source need not compile at all.
-/

namespace CallContract

/-- A compiled regular expression. -/
structure Pattern where
  /-- What it was compiled from. -/
  source : String
  /-- Some part of a text matches. -/
  isMatch : String → Bool

/-- What compiles regular expressions. -/
class PatternCompiler where
  /-- The pattern of a source, if that is a regular expression. -/
  compile? : String → Option Pattern
  source_of_compile? : ∀ {source : String} {p : Pattern}, compile? source = some p →
    p.source = source

namespace Pattern

variable [PatternCompiler]

/-- The pattern with a given source, if that is a regular expression. -/
def ofSource? (source : String) : Option Pattern := PatternCompiler.compile? source

@[simp] theorem source_of_ofSource? {source : String} {p : Pattern}
    (h : ofSource? source = some p) : p.source = source :=
  PatternCompiler.source_of_compile? h

end Pattern

end CallContract
