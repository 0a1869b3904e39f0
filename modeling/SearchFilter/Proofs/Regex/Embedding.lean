import SearchFilter.Proofs.Regex.Runs

/-!
# An expression within a longer text

A text that is well formed by itself is read in the same way where it stands within a longer text,
after a lead in the same branch or in groups that are open around it. What was read before does not
change, and only the first branch of the text has the lead in it.
-/

namespace SearchFilter.Regex

/-! ### The same reading within more -/

/-- How the branches and members of a level that starts with a lead compare with those of the level
without it. The lead stands in the first branch. -/
inductive Led (lead : List Tree) : List Tree → List Tree → List Tree → List Tree → Prop
  | first (members : List Tree) : Led lead [] members [] (members ++ lead.reverse)
  | later (first branches members : List Tree) :
    Led lead (branches ++ [.ofConcatenation first]) members
      (branches ++ [.ofConcatenation (lead ++ first)]) members

/-- How the open levels of a reading compare with those of the same reading after a lead and in some
groups around it: the outermost level has the lead in it, and the levels further in are the same. -/
inductive Levels (lead : List Tree) (around : List OpenGroup) :
    List Tree → List Tree → List OpenGroup → List Tree → List Tree → List OpenGroup → Prop
  | outermost {branches members branches' members' : List Tree}
    (led : Led lead branches members branches' members') :
    Levels lead around branches members [] branches' members' around
  | inner {branches members branches' members' : List Tree} {outer outer' : List OpenGroup}
    (levels : Levels lead around branches members outer branches' members' outer')
    (spaced : Bool) (changes : FlagChanges) (innerBranches innerMembers : List Tree) :
    Levels lead around innerBranches innerMembers (⟨branches, members, spaced, changes⟩ :: outer)
      innerBranches innerMembers (⟨branches', members', spaced, changes⟩ :: outer')

/-- How the progress of a reading compares with that of the same reading within more. -/
structure Within (lead : List Tree) (around : List OpenGroup) (alone within : Progress) : Prop where
  spaced : within.spaced = alone.spaced
  names : within.names = alone.names
  levels : Levels lead around alone.branches alone.members alone.outer within.branches
    within.members within.outer

variable {lead : List Tree} {around : List OpenGroup}

/-- A member is added to a branch with or without a lead. -/
theorem Led.add {branches members branches' members' : List Tree}
    (led : Led lead branches members branches' members') (member : Tree) :
    Led lead branches (member :: members) branches' (member :: members') := by
  cases led with
  | first => exact .first (member :: members)
  | later first branches => exact .later first branches (member :: members)

/-- The first branch takes the lead with it when it ends. -/
theorem Led.branch {branches members branches' members' : List Tree}
    (led : Led lead branches members branches' members') :
    Led lead (.ofConcatenation members.reverse :: branches) []
      (.ofConcatenation members'.reverse :: branches') [] := by
  cases led with
  | first =>
    rw [List.reverse_append, List.reverse_reverse]
    exact .later members.reverse [] []
  | later first branches => exact .later first (.ofConcatenation members.reverse :: branches) []

/-- The last member is the same with the lead and without it. -/
theorem Led.tail {branches members branches' members' : List Tree} {member : Tree}
    (led : Led lead branches (member :: members) branches' members') :
    ∃ others, members' = member :: others ∧ Led lead branches members branches' others := by
  cases led with
  | first => exact ⟨_, rfl, .first members⟩
  | later first branches => exact ⟨members, rfl, .later first branches members⟩

namespace Levels

variable {branches members branches' members' : List Tree} {outer outer' : List OpenGroup}

/-- A member is added at the innermost level on both sides. -/
theorem add (levels : Levels lead around branches members outer branches' members' outer')
    (member : Tree) :
    Levels lead around branches (member :: members) outer branches' (member :: members')
      outer' := by
  cases levels with
  | outermost led => exact .outermost (led.add member)
  | inner levels spaced changes => exact .inner levels spaced changes _ _

/-- A branch ends at the innermost level on both sides. -/
theorem branch (levels : Levels lead around branches members outer branches' members' outer') :
    Levels lead around (.ofConcatenation members.reverse :: branches) [] outer
      (.ofConcatenation members'.reverse :: branches') [] outer' := by
  cases levels with
  | outermost led => exact .outermost led.branch
  | inner levels spaced changes => exact .inner levels spaced changes _ _

/-- The last member is the same on both sides, and what was there before it stays embedded. -/
theorem tail {member : Tree}
    (levels : Levels lead around branches (member :: members) outer branches' members' outer') :
    ∃ others, members' = member :: others ∧
      Levels lead around branches members outer branches' others outer' := by
  cases levels with
  | outermost led =>
    obtain ⟨others, same, led⟩ := led.tail
    exact ⟨others, same, .outermost led⟩
  | inner levels spaced changes => exact ⟨members, rfl, .inner levels spaced changes _ _⟩

end Levels

namespace Within

variable {alone within next : Progress}

/-- The last member is repeated on both sides. -/
theorem repeatLast? (embedded : Within lead around alone within) (least : Nat) (most? : Option Nat)
    (repeats : alone.repeatLast? least most? = some next) :
    ∃ next', within.repeatLast? least most? = some next' ∧ Within lead around next next' := by
  obtain ⟨branches, members, spaced, outer, names⟩ := alone
  obtain ⟨branches', members', spaced', outer', names'⟩ := within
  obtain ⟨sameSpaced, sameNames, levels⟩ := embedded
  cases members with
  | nil => cases repeats
  | cons member members =>
    obtain ⟨others, same, further⟩ := levels.tail
    dsimp only at same
    subst same
    cases member
    case flags => cases repeats
    all_goals
      cases repeats
      exact ⟨_, rfl, sameSpaced, sameNames, further.add _⟩

/-- A group that was opened in the text is closed in it, with the same tree. -/
theorem leave? (embedded : Within lead around alone within) (leaves : alone.leave? = some next) :
    ∃ next', within.leave? = some next' ∧ Within lead around next next' := by
  obtain ⟨branches, members, spaced, outer, names⟩ := alone
  obtain ⟨branches', members', spaced', outer', names'⟩ := within
  obtain ⟨-, sameNames, levels⟩ := embedded
  cases levels with
  | outermost => cases leaves
  | inner levels spaced changes =>
    cases leaves
    exact ⟨_, rfl, rfl, sameNames, levels.add _⟩

/-- A group is opened on both sides. -/
theorem enter (embedded : Within lead around alone within) (changes : FlagChanges) :
    Within lead around (alone.enter changes) (within.enter changes) := by
  obtain ⟨branches, members, spaced, outer, names⟩ := alone
  obtain ⟨branches', members', spaced', outer', names'⟩ := within
  obtain ⟨sameSpaced, sameNames, levels⟩ := embedded
  dsimp only at sameSpaced
  subst sameSpaced
  exact ⟨rfl, sameNames, levels.inner spaced' changes [] []⟩

/-- The same token can be taken within more, and leads to the same progress within more. -/
theorem take? (embedded : Within lead around alone within) (token : Token)
    (takes : alone.take? token = some next) :
    ∃ next', within.take? token = some next' ∧ Within lead around next next' := by
  cases token with
  | member tree =>
    cases takes
    exact ⟨_, rfl, embedded.spaced, embedded.names, embedded.levels.add tree⟩
  | enter changes =>
    cases takes
    exact ⟨_, rfl, embedded.enter changes⟩
  | enterNamed name =>
    simp only [Progress.take?, embedded.names] at takes ⊢
    split at takes
    · cases takes
    · cases takes
      have entered := embedded.enter []
      exact ⟨_, if_neg ‹_›, entered.spaced, rfl, entered.levels⟩
  | set changes =>
    cases takes
    refine ⟨_, rfl, ?_, embedded.names, embedded.levels.add _⟩
    simp only [Progress.setFlags, embedded.spaced]
  | leave => exact embedded.leave? takes
  | branch =>
    cases takes
    exact ⟨_, rfl, embedded.spaced, embedded.names, embedded.levels.branch⟩
  | repeated least most? => exact embedded.repeatLast? least most? takes

end Within

/-- A run through a text goes on in the same way within more, where an ending follows the text. -/
theorem Progress.Reaches.within {count : Nat} {alone last : Progress} {left final : List Char}
    (run : Reaches count alone left last final) {text : List Char → List Char}
    (continues : Continues left text) :
    ∃ tail, Continues final tail ∧ ∀ lead around within, Within lead around alone within →
      ∃ last', Within lead around last last' ∧
        ∀ ending ∈ endings, Reaches count within (text ending) last' (tail ending) := by
  induction run generalizing text with
  | here progress left =>
    exact ⟨text, continues, fun lead around within embedded =>
      ⟨within, embedded, fun ending _ => .here within (text ending)⟩⟩
  | @step count alone next last left rest after final c starts steps further inductionHypothesis =>
    have skipped := skip_continues alone.spaced continues
    rw [starts] at skipped
    rw [step?_eq] at steps
    obtain ⟨⟨token, tokenText⟩, isToken, follows⟩ := Option.bind_eq_some_iff.mp steps
    obtain ⟨taken, takes, same⟩ := Option.map_eq_some_iff.mp follows
    cases same
    obtain ⟨textAfter, continuesAfter, tokens⟩ :=
      token?_steady alone.spaced _ _ (.append (c :: rest)) _ _ isToken
    obtain ⟨tail, ends, lasts⟩ := inductionHypothesis continuesAfter
    refine ⟨tail, ends, fun lead around within embedded => ?_⟩
    obtain ⟨within', takesWithin, embedded'⟩ := embedded.take? token takes
    obtain ⟨last', embeddedLast, goesOn⟩ := lasts lead around within' embedded'
    refine ⟨last', embeddedLast, fun ending isEnding => ?_⟩
    have startsWithin : skip within.spaced (text ending) = c :: (rest ++ ending) := by
      rw [embedded.spaced]
      exact skipped.of_cons ending isEnding
    have stepsWithin : within.step? (c :: (rest ++ ending)) = some (within', textAfter ending) := by
      have isTokenWithin : token? alone.spaced (c :: (rest ++ ending)) =
          some (token, textAfter ending) := tokens ending isEnding
      rw [step?_eq, embedded.spaced, isTokenWithin]
      simp [follow?, takesWithin]
    exact .step startsWithin stepsWithin (goesOn ending isEnding)

end SearchFilter.Regex
