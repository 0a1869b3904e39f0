import SearchFilter.Regex.Expr

/-!
# Finding matches

Positions of a text are numbers from zero to its length, and a set of positions is a number whose
bits are its members. For one text an expression becomes a plan, in which every condition and every
set of characters is the set of the positions where it holds. A plan then maps the positions where a
match can start to those where one can end, for all of them at once.
-/

namespace SearchFilter.Regex

/-- A set of positions: position `i` is a member where bit `i` is set. -/
abbrev Positions := Nat

namespace Positions

/-- The positions at which a list says `true`. -/
def ofList (members : List Bool) : Positions :=
  members.foldr (fun here later => 2 * later + here.toNat) 0

/-- All positions up to a bound. -/
def upTo (bound : Nat) : Positions := 1 <<< (bound + 1) - 1

/-- The members of one set that are not in another. -/
def without (set other : Positions) : Positions := (set ||| other) ^^^ other

end Positions

/-- The characters before and after every position of a text, from its start to its end. -/
def surroundings (before : Option Char) : List Char → List (Option Char × Option Char)
  | [] => [(before, none)]
  | c :: rest => (before, some c) :: surroundings (some c) rest

/-- An expression prepared for one text. -/
inductive Plan
  | empty
  /-- Stays at a position among these. -/
  | stay (positions : Positions)
  /-- Takes the character that follows a position among these. -/
  | advance (positions : Positions)
  | seq (first second : Plan)
  | either (left right : Plan)
  | repeated (least : Nat) (most? : Option Nat) (body : Plan)
deriving Inhabited

/-- Applies a step the given number of times. -/
def iterate (step : Positions → Positions) : Nat → Positions → Positions
  | 0, reached => reached
  | count + 1, reached => iterate step count (step reached)

/-- Everything that a step reaches in any number of applications. `latest` holds what was reached
for the first time by the last one; each round reaches at least one more position, so `fuel` has to
exceed the number of positions. -/
def saturate (step : Positions → Positions) : Nat → Positions → Positions → Positions
  | 0, reached, _ => reached
  | fuel + 1, reached, latest =>
    if latest = 0 then reached
    else
      let next := Positions.without (step latest) reached
      saturate step fuel (reached ||| next) next

namespace Plan

/-- Where a match can end that starts at one of these positions of a text with so many characters.
-/
def ends (length : Nat) : Plan → Positions → Positions
  | .empty, starts => starts
  | .stay positions, starts => starts &&& positions
  | .advance positions, starts => (starts &&& positions) <<< 1
  | .seq first second, starts => second.ends length (first.ends length starts)
  | .either left right, starts => left.ends length starts ||| right.ends length starts
  | .repeated least most? body, starts =>
    let reached := iterate (body.ends length) least starts
    match most? with
    | none => saturate (body.ends length) (length + 2) reached reached
    | some most => iterate (fun starts => starts ||| body.ends length starts) (most - least) reached

end Plan

namespace Expr

/-- The expression prepared for a text. -/
def plan (text : List Char) : Expr → Plan
  | .empty => .empty
  | .look condition =>
    .stay (.ofList ((surroundings none text).map fun around => condition.holds around.1 around.2))
  | .one set => .advance (.ofList (text.map set.contains))
  | .seq first second => .seq (first.plan text) (second.plan text)
  | .either left right => .either (left.plan text) (right.plan text)
  | .repeated least most? body => .repeated least most? (body.plan text)

/-- Whether the expression matches some part of a text. -/
def isMatch (expr : Expr) (text : List Char) : Bool :=
  (expr.plan text).ends text.length (.upTo text.length) ≠ 0

end Expr

end SearchFilter.Regex
