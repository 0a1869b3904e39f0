import SearchFilter.Toml.Value
import SearchFilter.Entries

/-!
# Tables while they are being defined

A table can be written in pieces, and how it came into being decides what may still be added: a
table under a header of its own is defined once, one that only leads to deeper headers may still get
its own header, and one made by a dotted key takes further dotted keys alone.
-/

namespace SearchFilter.Toml

/-- How a table came into being. -/
inductive Origin
  /-- By a header of its own. -/
  | header
  /-- On the way to a deeper header. -/
  | passage
  /-- By a dotted key. -/
  | dotted
deriving DecidableEq, Inhabited

/-- What stands under a key of a table that may still grow. -/
inductive Entry
  | value (value : Value)
  | table (origin : Origin) (entries : List (String × Entry))
  /-- Tables that each have a header in double brackets. -/
  | tables (members : List (List (String × Entry)))
deriving Inhabited

/-- A table that may still grow. -/
abbrev Growing := List (String × Entry)

namespace Growing

/-- Adds a value under a key that a dotted path leads to. Tables on the way are made by dotted keys;
a table with a header of its own cannot be entered, and a value never. -/
def add? (entries : Growing) : List String → Value → Option Growing
  | [], _ => none
  | [key], value =>
    match Entries.find? key entries with
    | none => some (entries ++ [(key, .value value)])
    | some _ => none
  | key :: next :: rest, value =>
    match Entries.find? key entries with
    | none => do
      let inner ← add? [] (next :: rest) value
      return entries ++ [(key, .table .dotted inner)]
    | some (.table origin inner) =>
      if origin = .header || (origin = .passage && rest.isEmpty) then none
      else do
        let inner ← add? inner (next :: rest) value
        return Entries.put key (.table origin inner) entries
    | some (.tables members) =>
      match members.reverse with
      | last :: others =>
        if rest.isEmpty then none
        else do
          let inner ← add? last (next :: rest) value
          return Entries.put key (.tables (others.reverse ++ [inner])) entries
      | [] => none
    | some (.value _) => none

/-- Changes the table that the path of a header leads to. In a list of tables it leads to the last
one. -/
def modify? (change : Growing → Option Growing) : List String → Growing → Option Growing
  | [], entries => change entries
  | key :: rest, entries =>
    match Entries.find? key entries with
    | none => do
      let inner ← modify? change rest []
      return entries ++ [(key, .table .passage inner)]
    | some (.table origin inner) => do
      let inner ← modify? change rest inner
      return Entries.put key (.table origin inner) entries
    | some (.tables members) =>
      match members.reverse with
      | last :: others => do
        let inner ← modify? change rest last
        return Entries.put key (.tables (others.reverse ++ [inner])) entries
      | [] => none
    | some (.value _) => none

/-- Opens the table of a header. -/
def open? (key : String) (entries : Growing) : Option Growing :=
  match Entries.find? key entries with
  | none => some (entries ++ [(key, .table .header [])])
  | some (.table .passage inner) => some (Entries.put key (.table .header inner) entries)
  | some _ => none

/-- Opens the next table of a list of tables. -/
def openNext? (key : String) (entries : Growing) : Option Growing :=
  match Entries.find? key entries with
  | none => some (entries ++ [(key, .tables [[]])])
  | some (.tables members) => some (Entries.put key (.tables (members ++ [[]])) entries)
  | some _ => none

end Growing

mutual

/-- What stands under a key, as a value. -/
def Entry.finish : Entry → Value
  | .value value => value
  | .table _ entries => .table (Growing.finish entries)
  | .tables members => .array (Growing.finishAll members)

/-- The finished entries of a table. -/
def Growing.finish : List (String × Entry) → List (String × Value)
  | [] => []
  | (key, entry) :: rest => (key, Entry.finish entry) :: Growing.finish rest

/-- The tables of an array of tables, in order. -/
def Growing.finishAll : List (List (String × Entry)) → List Value
  | [] => []
  | member :: rest => .table (Growing.finish member) :: Growing.finishAll rest

end

end SearchFilter.Toml
