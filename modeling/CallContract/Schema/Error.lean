/-!
# Errors in declarations

Why a schema, a descriptor or a contract could not be made. Three of the errors have a further
cause, in a regular expression, a file or a document; their messages end where its text would
follow.
-/

namespace CallContract

/-- The markers that say that there are no arguments, and that describe no value. -/
inductive EmptyMarker where
  | undefined
  | null
  | noArgs
  deriving DecidableEq

/-- How messages name a marker. -/
def EmptyMarker.text : EmptyMarker → String
  | undefined => "undefined"
  | null => "null"
  | noArgs => "the zero-argument marker"

/-- An error in a declaration. -/
inductive ConfigError where
  | unknownKind (name : String)
  | invalidPattern (source : String)
  /-- An object schema inside the given field, or inside a position if the name is empty. -/
  | nestedObject (field : String)
  | nestedUnion
  | emptyUnion
  | duplicateField (name : String)
  | misplaced (marker : EmptyMarker)
  | unsupported (shape : String)
  | duplicateContract (name : String)
  | unreadable (path : String)
  | malformed (path : String)
  deriving DecidableEq

namespace ConfigError

/-- The message of an error, up to the text of a further cause. -/
def message : ConfigError → String
  | unknownKind name => "unknown kind '" ++ name ++ "'"
  | invalidPattern source => "invalid pattern /" ++ source ++ "/: "
  | nestedObject field => "field '" ++ field ++ "': nested object schemas are not supported"
  | nestedUnion => "unions cannot contain unions"
  | emptyUnion => "a union needs at least one member"
  | duplicateField name => "field '" ++ name ++ "' is declared more than once"
  | misplaced marker => marker.text ++ " is not allowed in a descriptor position"
  | unsupported shape => "unsupported schema shape: " ++ shape
  | duplicateContract name => "contract '" ++ name ++ "' is already registered"
  | unreadable path => "cannot read contract '" ++ path ++ "': "
  | malformed path => "malformed contract '" ++ path ++ "': "

/-- The error has a further cause, whose text follows the message. -/
def hasCause : ConfigError → Bool
  | invalidPattern _ => true
  | unreadable _ => true
  | malformed _ => true
  | _ => false

/-- The stable code of an error. -/
def code : ConfigError → String
  | unknownKind _ => "FNGUARD_UNKNOWN_KIND"
  | invalidPattern _ => "FNGUARD_INVALID_PATTERN"
  | nestedObject _ => "FNGUARD_NESTED_OBJECT"
  | nestedUnion => "FNGUARD_NESTED_UNION"
  | emptyUnion => "FNGUARD_EMPTY_UNION"
  | duplicateField _ => "FNGUARD_DUPLICATE_FIELD"
  | misplaced _ => "FNGUARD_MISPLACED_MARKER"
  | unsupported _ => "FNGUARD_UNSUPPORTED_SHAPE"
  | duplicateContract _ => "FNGUARD_DUPLICATE_CONTRACT"
  | unreadable _ => "FNGUARD_CONTRACT_IO"
  | malformed _ => "FNGUARD_CONTRACT_MALFORMED"

end ConfigError

/-! ## Failing

What is made in several parts fails with the error of the first part that cannot be made. -/

section Failing

variable {ε α β : Type} {x : Except ε α} {e : ε} {b : β}

theorem bind_ok_iff {f : α → Except ε β} : x >>= f = .ok b ↔ ∃ a, x = .ok a ∧ f a = .ok b := by
  cases x with
  | error e => simp [bind, Except.bind]
  | ok a => simp [bind, Except.bind]

theorem bind_error_iff {f : α → Except ε β} :
    x >>= f = .error e ↔ x = .error e ∨ ∃ a, x = .ok a ∧ f a = .error e := by
  cases x with
  | error e => simp [bind, Except.bind]
  | ok a => simp [bind, Except.bind]

theorem map_ok_iff {f : α → β} : x.map f = .ok b ↔ ∃ a, x = .ok a ∧ f a = b := by
  cases x with
  | error e => simp [Except.map]
  | ok a => simp [Except.map]

theorem map_error_iff {f : α → β} : x.map f = .error e ↔ x = .error e := by
  cases x with
  | error e => simp [Except.map]
  | ok a => simp [Except.map]

end Failing

end CallContract
