import SearchFilter.Interval
import SearchFilter.Operator

/-!
# Condition values and specifications

A specification is an ordered collection of keys with values; a value is a literal, a list, an
interval, a pattern or a map. The keys of a map are operators or plain names, and a name that
happens to spell an operator stays a name, so that nothing is taken for an operator by accident.
-/

namespace SearchFilter

/-- A regular-expression literal with its case flag. -/
structure Pattern where
  source : String
  ignoreCase : Bool
deriving DecidableEq, Inhabited

/-- The key of a map value. -/
inductive Key
  | op (operator : Operator)
  | name (text : String)
deriving DecidableEq, Inhabited

namespace Key

/-- The key as text, without a sign that tells operators from names. -/
def text : Key → String
  | .op operator => operator.name
  | .name text => text

end Key

/-- A dynamically shaped condition value. -/
inductive Value
  | null
  | scalar (value : Scalar)
  | list (items : List Value)
  | interval (value : Interval)
  | pattern (value : Pattern)
  | map (entries : List (Key × Value))
deriving Inhabited

/-- The shape of a value as messages name it. Both kinds of numbers have one name. -/
inductive Kind
  | null
  | boolean
  | number
  | string
  | list
  | range
  | regex
  | map
deriving DecidableEq, Inhabited

/-- The word for a kind in messages. -/
def Kind.name : Kind → String
  | .null => "null"
  | .boolean => "boolean"
  | .number => "number"
  | .string => "string"
  | .list => "list"
  | .range => "range"
  | .regex => "regex"
  | .map => "map"

namespace Value

/-- The kind of a value. Both sorts of number are of one kind. -/
def kind : Value → Kind
  | .null => .null
  | .scalar (.bool _) => .boolean
  | .scalar (.int _) => .number
  | .scalar (.float _) => .number
  | .scalar (.str _) => .string
  | .list _ => .list
  | .interval _ => .range
  | .pattern _ => .regex
  | .map _ => .map

/-- The value of the first entry with this plain name. -/
def named? (name : String) : Value → Option Value
  | .map entries => (entries.find? fun entry => entry.1 = .name name).map Prod.snd
  | _ => none

/-- The number that a literal stands for, and nothing for any other value. -/
def number? : Value → Option Binary64
  | .scalar value => value.number?
  | _ => none

/-- The text of a string, and nothing for any other value. -/
def string? : Value → Option String
  | .scalar value => value.string?
  | _ => none

end Value

/-- A specification: keys in order of first appearance, each with its condition. -/
structure FilterSpec where
  entries : List (String × Value)
  distinct : (Entries.keys entries).Nodup := by decide

namespace FilterSpec

/-- The specification without a condition. -/
def empty : FilterSpec := ⟨[], List.nodup_nil⟩

/-- The empty specification. -/
instance : Inhabited FilterSpec := ⟨empty⟩

/-- Sets a key, which keeps its place when it is already there. -/
def insert (spec : FilterSpec) (key : String) (value : Value) : FilterSpec :=
  ⟨Entries.put key value spec.entries, Entries.nodup_keys_put key value spec.entries spec.distinct⟩

/-- The specification with a key set, for a chain in which further keys are set. -/
def adding (spec : FilterSpec) (key : String) (value : Value) : FilterSpec := spec.insert key value

/-- Sets the pairs in order, beginning with no key. -/
def ofPairs (pairs : List (String × Value)) : FilterSpec :=
  ⟨Entries.ofPairs pairs, Entries.nodup_keys_ofPairs pairs⟩

/-- How many conditions a specification has at its top. -/
def size (spec : FilterSpec) : Nat := spec.entries.length

/-- The specification as a value, for use as a sub-specification. -/
def toValue (spec : FilterSpec) : Value :=
  .map (spec.entries.map fun entry => (.name entry.1, entry.2))

end FilterSpec

end SearchFilter
