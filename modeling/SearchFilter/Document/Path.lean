/-!
# Paths into documents

A field is named by a dotted path. Each segment leads into an object; the empty path stays where it
is, and a dot at the end adds nothing.
-/

namespace SearchFilter.Path

/-- Adds a character in front of the segments of the text after it. -/
def cons (c : Char) (segments : List (List Char)) : List (List Char) :=
  if c = '.' then [] :: segments
  else
    match segments with
    | [] => [[c]]
    | segment :: rest => (c :: segment) :: rest

/-- The segments of a path. -/
def segments (path : String) : List String := (path.toList.foldr cons []).map String.ofList

end SearchFilter.Path
