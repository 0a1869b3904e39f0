import SearchFilter.Proofs.Regex.CutTokens
import SearchFilter.Proofs.Regex.Framing

/-!
# Patterns that are not well formed

The group that the engine opens around a pattern has one closing parenthesis after the pattern. If
the pattern leaves a group of its own open or breaks off within a token, that parenthesis is used up
inside, and the group around the pattern stays open. So a pattern that is not well formed by itself
is not accepted between the signs of the engine either, unless it strays: it has a parenthesis that
closes the group around it.
-/

namespace SearchFilter.Regex

/-- Whether a reading comes to a parenthesis that closes no group. `fuel` is the length of the
text. -/
def Progress.strays : Nat → Progress → List Char → Bool
  | 0, _, _ => false
  | fuel + 1, progress, text =>
    match skip progress.spaced text with
    | [] => false
    | c :: rest =>
      match progress.step? (c :: rest) with
      | none => c = ')'
      | some (next, after) => strays fuel next after

/-- Whether a pattern closes a group that it has not opened. -/
def strays (pattern : List Char) : Bool := Progress.strays (pattern.length + 1) {} pattern

/-! ### Groups that stay open -/

namespace Progress

variable {progress next : Progress} {fuel : Nat} {text : List Char}

/-- Only a closing parenthesis ends a group. -/
theorem take?_open {token : Token} (stays : token ≠ .leave)
    (takes : progress.take? token = some next) (isOpen : progress.outer ≠ []) :
    next.outer ≠ [] := by
  cases token with
  | leave => exact absurd rfl stays
  | enterNamed name =>
    simp only [take?] at takes
    split at takes <;> cases takes
    exact List.cons_ne_nil _ _
  | repeated least most? =>
    simp only [take?, repeatLast?] at takes
    split at takes <;> cases takes
    exact isOpen
  | enter =>
    cases takes
    exact List.cons_ne_nil _ _
  | member | set | branch =>
    cases takes
    exact isOpen

/-- While a group is open, the sign for the end of the text does not end the expression. -/
theorem read?_open_end (isOpen : progress.outer ≠ []) (isEnd : text <:+ ['$']) :
    read? fuel progress text = none := by
  rw [Option.eq_none_iff_forall_ne_some]
  intro tree reads
  obtain rfl | isNothing := List.suffix_cons_iff.mp isEnd
  · obtain ⟨_, reads⟩ := read?_step rfl (skip_sign _ rfl []) reads
    exact isOpen (read?_nil (skip_nil _) reads).1
  · obtain rfl := List.suffix_nil.mp isNothing
    exact isOpen (read?_nil (skip_nil _) reads).1

/-- The closing signs end one group and not two. -/
theorem read?_open_twice {first second : OpenGroup} {around : List OpenGroup}
    (isOpen : progress.outer = first :: second :: around) :
    read? fuel progress closing = none := by
  rw [Option.eq_none_iff_forall_ne_some]
  intro tree reads
  obtain ⟨_, reads⟩ := read?_close isOpen reads
  refine absurd ((read?_open_end ?_ (List.suffix_refl _)).symm.trans reads) nofun
  exact List.cons_ne_nil second around

/-- A brace before the closing signs starts no count. -/
theorem read?_brace (nothing : skip progress.spaced text = closing) :
    read? fuel progress ('\x7b' :: text) = none := by
  rw [Option.eq_none_iff_forall_ne_some]
  intro tree reads
  have starts : skip progress.spaced ('\x7b' :: text) = '\x7b' :: text := by
    cases progress.spaced <;> rfl
  obtain ⟨found, less, steps, -⟩ := read?_cons starts reads
  have uncounted : readCount progress.spaced text = none := by
    rw [readCount_eq, nothing, readDecimal_refuses progress.spaced [] closing (.append []) rfl]
    rfl
  simp [step?, uncounted] at steps

end Progress

/-! ### Tokens within more -/

/-- With a group open around it a text has an open group at every step. -/
theorem Levels.outer_ne_nil {lead : List Tree} {group : OpenGroup} {around : List OpenGroup}
    {branches members branches' members' : List Tree} {outer outer' : List OpenGroup}
    (levels : Levels lead (group :: around) branches members outer branches' members' outer') :
    outer' ≠ [] := by
  cases levels <;> exact nofun

/-- With a group open around it and one of its own, a text has two open groups. -/
theorem Levels.outer_of_open {lead : List Tree} {group : OpenGroup} {around : List OpenGroup}
    {branches members branches' members' : List Tree} {inner : OpenGroup}
    {outer outer' : List OpenGroup}
    (levels : Levels lead (group :: around) branches members (inner :: outer) branches' members'
      outer') :
    ∃ first second others, outer' = first :: second :: others := by
  cases levels with
  | @inner _ _ _ _ _ outer' further spaced changes =>
    obtain ⟨second, others, same⟩ := List.exists_cons_of_ne_nil further.outer_ne_nil
    exact ⟨_, second, others, by rw [same]⟩

/-- Without a lead a token that cannot be taken cannot be taken within more, but for a parenthesis
that closes a group around. -/
theorem Within.take?_refused {around : List OpenGroup} {alone within : Progress}
    (embedded : Within [] around alone within) {token : Token} (stays : token ≠ .leave)
    (refused : alone.take? token = none) : within.take? token = none := by
  have members : within.members = alone.members := by
    obtain ⟨branches, members, spaced, outer, names⟩ := alone
    obtain ⟨branches', members', spaced', outer', names'⟩ := within
    obtain ⟨-, -, levels⟩ := embedded
    cases levels with
    | outermost led => exact led.eq_of_nil.2
    | inner => rfl
  cases token with
  | leave => exact absurd rfl stays
  | enterNamed name =>
    simp only [Progress.take?, embedded.names] at refused ⊢
    split at refused
    · exact if_pos ‹_›
    · cases refused
  | repeated least most? =>
    simp only [Progress.take?, Progress.repeatLast?, members] at refused ⊢
    split at refused
    · rfl
    · rfl
    · cases refused
  | member | enter | set | branch => cases refused

/-- What follows a question mark never closes a group. -/
theorem readMarked_ne_leave {text after : List Char} : readMarked text ≠ some (.leave, after) := by
  intro isToken
  unfold readMarked at isToken
  split at isToken
  any_goals cases isToken
  · obtain ⟨_, -, same⟩ := Option.map_eq_some_iff.mp isToken
    cases same
  · obtain ⟨_, -, same⟩ := Option.map_eq_some_iff.mp isToken
    cases same
  · obtain ⟨_, -, same⟩ := Option.bind_eq_some_iff.mp isToken
    split_ifs at same <;> cases same

/-- Only a closing parenthesis is read as the end of a group. -/
theorem token?_ne_leave {spaced : Bool} {c : Char} (other : c ≠ ')') {rest after : List Char}
    {token : Token} (isToken : token? spaced (c :: rest) = some (token, after)) :
    token ≠ .leave := by
  rintro rfl
  by_cases special : c ∈ specialSigns
  · simp only [specialSigns, List.mem_cons, List.not_mem_nil, or_false] at special
    obtain rfl | rfl | rfl | rfl | rfl | rfl | rfl | rfl := special
    · simp only [token?, readOpening] at isToken
      split at isToken
      · exact readMarked_ne_leave isToken
      · cases isToken
    · exact other rfl
    · cases isToken
    · obtain ⟨_, -, same⟩ := Option.map_eq_some_iff.mp isToken
      cases same
    · cases isToken
    · cases isToken
    · cases isToken
    · obtain ⟨_, -, same⟩ := Option.bind_eq_some_iff.mp isToken
      cases same
  · rw [token?_item spaced special] at isToken
    obtain ⟨_, -, same⟩ := Option.map_eq_some_iff.mp isToken
    cases same

/-! ### Refusal -/

namespace Progress

/-- A text that breaks off within a token is refused within a group. -/
theorem read?_cut {progress : Progress} (isOpen : progress.outer ≠ []) {c : Char} {rest : List Char}
    (starts : skip progress.spaced (c :: (rest ++ closing)) = c :: (rest ++ closing))
    (breaksOff : token? progress.spaced (c :: rest) = none) (fuel : Nat) :
    read? fuel progress (c :: (rest ++ closing)) = none := by
  rw [Option.eq_none_iff_forall_ne_some]
  intro whole reads
  obtain ⟨_, less, steps, further⟩ := read?_cons starts reads
  rw [step?_eq] at steps
  obtain ⟨⟨token, following⟩, isToken, follows⟩ := Option.bind_eq_some_iff.mp steps
  obtain ⟨taken, takes, same⟩ := Option.map_eq_some_iff.mp follows
  cases same
  have other : c ≠ ')' := by
    rintro rfl
    cases breaksOff
  have stillOpen := take?_open (token?_ne_leave other isToken) takes isOpen
  cases SpentToken.of_token c rest breaksOff isToken with
  | short atMost =>
    have last : ['$'] <:+ rest ++ closing := ⟨rest ++ [')'], by simp⟩
    have isEnd := List.suffix_of_suffix_length_le
      (token?_leaves progress.spaced c (rest ++ closing) _ _ isToken) last atMost
    exact absurd ((read?_open_end stillOpen isEnd).symm.trans further) nofun
  | brace tree nothing =>
    cases takes
    have spaced : (progress.add tree).spaced = progress.spaced := rfl
    rw [← spaced] at nothing
    exact absurd ((read?_brace nothing).symm.trans further) nofun

/-- A text that ends while a group of its own is open is refused within another group. -/
theorem read?_two_open {around : List OpenGroup} {group : OpenGroup} {alone within : Progress}
    (embedded : Within [] (group :: around) alone within) (isOpen : alone.outer ≠ [])
    {text : List Char} (closed : Closed [] text) (fuel : Nat) : read? fuel within text = none := by
  obtain ⟨inner, outer, same⟩ := List.exists_cons_of_ne_nil isOpen
  have levels := embedded.levels
  rw [same] at levels
  obtain ⟨first, second, others, twice⟩ := levels.outer_of_open
  obtain rfl | rfl := closed.of_nil
  · exact read?_open_end levels.outer_ne_nil List.nil_suffix
  · exact read?_open_twice twice

/-- Where the reader finds a token in a text, a step within more is a step of the text by itself. The
one exception is to stray: a group around may be closed where no group of the text is open. -/
theorem step?_of_within {around : List OpenGroup} {alone within next' : Progress}
    (embedded : Within [] around alone within) {c : Char} {rest after' : List Char}
    {found : Token × List Char} (own : token? alone.spaced (c :: rest) = some found)
    (stays : alone.step? (c :: rest) = none → c ≠ ')')
    (steps : within.step? (c :: (rest ++ closing)) = some (next', after')) :
    ∃ next, alone.step? (c :: rest) = some (next, found.2) ∧ Within [] around next next' ∧
      Closed found.2 after' := by
  obtain ⟨after, closedAfter, finds⟩ :=
    (token?_steady alone.spaced).closed (.append (c :: rest)) own
  rw [step?_eq, embedded.spaced] at steps
  obtain ⟨_, isToken, follows⟩ := Option.bind_eq_some_iff.mp steps
  cases finds.symm.trans isToken
  obtain ⟨taken, takes, same⟩ := Option.map_eq_some_iff.mp follows
  cases same
  cases takesAlone : alone.take? found.1 with
  | none =>
    have stuck : alone.step? (c :: rest) = none := by
      simp [step?_eq, own, follow?, takesAlone]
    have none := embedded.take?_refused (token?_ne_leave (stays stuck) own) takesAlone
    cases none.symm.trans takes
  | some next =>
    obtain ⟨within', takesWithin, embeddedAfter⟩ := embedded.take? found.1 takesAlone
    cases takes.symm.trans takesWithin
    have stepsAlone : alone.step? (c :: rest) = some (next, found.2) := by
      simp [step?_eq, own, follow?, takesAlone]
    exact ⟨next, stepsAlone, embeddedAfter, closedAfter⟩

/-- A text that is refused by itself and does not stray is refused within a group, where the closing
signs follow. -/
theorem read?_refused {fuel : Nat} {alone within : Progress} {left text : List Char}
    (enough : left.length < fuel) (refused : read? fuel alone left = none)
    (stays : strays fuel alone left = false) {group : OpenGroup} {around : List OpenGroup}
    (embedded : Within [] (group :: around) alone within) (closed : Closed left text) (more : Nat) :
    read? more within text = none := by
  induction fuel generalizing alone within left text more with
  | zero => exact absurd enough (Nat.not_lt_zero _)
  | succ fuel inductionHypothesis =>
    have skipped := closed.skip alone.spaced
    rw [← read?_skip, embedded.spaced]
    -- Both readings skip the same blanks. At the end of the text a group is still open inside the
    -- other one, and the closing signs close only one of them.
    cases next : skip alone.spaced left with
    | nil =>
      rw [next] at skipped
      refine read?_two_open embedded (fun outermost => ?_) skipped more
      simp [read?, next, outermost] at refused
    | cons c rest =>
      rw [next] at skipped
      have going := skipped.of_cons
      have starts : skip within.spaced (c :: (rest ++ closing)) = c :: (rest ++ closing) := by
        rw [embedded.spaced, ← going, skip_skip]
      rw [going]
      -- A token that the closing signs complete uses them up. A whole token is taken by both
      -- readings alike, and the invariant goes on behind it.
      cases own : token? alone.spaced (c :: rest) with
      | none =>
        rw [← embedded.spaced] at own
        exact read?_cut embedded.levels.outer_ne_nil starts own more
      | some found =>
        rw [Option.eq_none_iff_forall_ne_some]
        intro whole reads
        obtain ⟨_, less, steps, further⟩ := read?_cons starts reads
        have noStray (stuck : alone.step? (c :: rest) = none) : c ≠ ')' := by
          simpa [strays, next, stuck] using stays
        obtain ⟨following, stepsAlone, embeddedAfter, closedAfter⟩ :=
          step?_of_within embedded own noStray steps
        have refusedAfter : read? fuel following found.2 = none := by
          simpa [read?, next, stepsAlone] using refused
        have staysAfter : strays fuel following found.2 = false := by
          simpa [strays, next, stepsAlone] using stays
        have shorter := (step?_leaves alone c rest _ _ stepsAlone).length_le
        have skippedLength := skip_length_le alone.spaced left
        rw [next, List.length_cons] at skippedLength
        have none := inductionHypothesis (by omega) refusedAfter staysAfter embeddedAfter
          closedAfter less
        cases none.symm.trans further

end Progress

end SearchFilter.Regex
