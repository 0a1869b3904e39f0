import SearchFilter.Proofs.Regex.Embedding
import SearchFilter.Regex

/-!
# Patterns between anchors

The engine writes a pattern between `^(?:` and `)$`; a literal has its anchors directly around the
pattern. Both texts are made of the same reading of the pattern, but the anchors of a literal belong
to the first and to the last of its branches.
-/

namespace SearchFilter.Regex

open Progress (Reaches)

/-- A pattern that, within more, is read as it is by itself, up to the ending that follows it. -/
structure Embeds (pattern : List Char) (last : Progress) : Prop where
  outermost : last.outer = []
  reads : ∀ lead around within, Within lead around {} within →
    ∃ last', Within lead around last last' ∧
      ∀ ending ∈ endings, ∀ more whole,
        Progress.read? more within (pattern ++ ending) = some whole →
        ∃ less, Progress.read? less last' ending = some whole

/-- What a level holds, given its finished branches and the members of the last one. -/
def levelBody (branches members : List Tree) : Tree :=
  .ofAlternation (.ofConcatenation members.reverse :: branches).reverse

/-- The tree of a progress depends on its innermost level alone. -/
theorem Progress.body_eq (progress : Progress) :
    progress.body = levelBody progress.branches progress.members := rfl

/-- Once the levels of a pattern are closed, those around it are open. -/
theorem Within.around_eq {lead : List Tree} {around : List OpenGroup} {last last' : Progress}
    (embedded : Within lead around last last') (outermost : last.outer = []) :
    last'.outer = around ∧
      Led lead last.branches last.members last'.branches last'.members := by
  obtain ⟨branches, members, spaced, outer, names⟩ := last
  obtain ⟨branches', members', spaced', outer', names'⟩ := last'
  obtain ⟨-, -, levels⟩ := embedded
  dsimp only at outermost
  subst outermost
  cases levels with
  | outermost led => exact ⟨rfl, led⟩

/-- A level without a lead is the same within more. -/
theorem Led.eq_of_nil {branches members branches' members' : List Tree}
    (led : Led [] branches members branches' members') :
    branches' = branches ∧ members' = members := by
  cases led with
  | first => exact ⟨rfl, List.append_nil members⟩
  | later => exact ⟨rfl, rfl⟩

/-- A text without open groups of its own has the same tree within more, where no lead was added. -/
theorem Within.body_eq {around : List OpenGroup} {last last' : Progress}
    (embedded : Within [] around last last') (outermost : last.outer = []) :
    last'.body = last.body := by
  obtain ⟨sameBranches, sameMembers⟩ := (embedded.around_eq outermost).2.eq_of_nil
  rw [Progress.body_eq, Progress.body_eq, sameBranches, sameMembers]

/-- A well-formed pattern within more: a run goes through it that closes all of its groups, and what
follows the pattern is left, or nothing where a comment takes it in. -/
structure Passes (pattern : List Char) (count : Nat) (last : Progress)
    (tail : List Char → List Char) : Prop where
  few : count ≤ pattern.length
  outermost : last.outer = []
  leaves : (∀ ending ∈ endings, skip last.spaced (tail ending) = ending) ∨
    ∀ ending ∈ endings, skip last.spaced (tail ending) = []
  runs : ∀ lead around within, Within lead around {} within →
    ∃ last', Within lead around last last' ∧
      ∀ ending ∈ endings, Reaches count within (pattern ++ ending) last' (tail ending)

/-- A text that is read to its end is passed by a run, which can be repeated within longer texts. -/
theorem exists_passes {pattern : List Char} {tree : Tree}
    (reads : Progress.read? (pattern.length + 1) {} pattern = some tree) :
    ∃ count last tail, last.body = tree ∧ Passes pattern count last tail := by
  obtain ⟨count, last, final, few, run, atEnd, outermost, body⟩ :=
    Progress.read?_eq_some_iff.mp reads
  obtain ⟨tail, continues, runs⟩ := run.within (.append pattern)
  have leaves := skip_continues last.spaced continues
  rw [atEnd] at leaves
  have keptOrTaken := leaves.imp_right And.right
  exact ⟨count, last, tail, body, Nat.le_of_lt_succ few, outermost, keptOrTaken, runs⟩

/-- A well-formed pattern embeds if it is read to an end within some group: a comment at its end
would have taken in the end of the group. -/
theorem exists_embeds {pattern : List Char} {tree : Tree}
    (wellFormed : Tree.ofText? pattern = some tree)
    {lead : List Tree} {group : OpenGroup} {around : List OpenGroup} {within : Progress}
    (starts : Within lead (group :: around) {} within) {ending : List Char}
    (isEnding : ending ∈ endings) {fuel : Nat} {whole : Tree}
    (accepts : Progress.read? fuel within (pattern ++ ending) = some whole) :
    ∃ last, last.body = tree ∧ Embeds pattern last := by
  obtain ⟨_, reads, limited⟩ := Option.bind_eq_some_iff.mp wellFormed
  split at limited <;> cases limited
  obtain ⟨count, last, tail, body, passes⟩ := exists_passes reads
  obtain kept | taken := passes.leaves
  · refine ⟨last, body, passes.outermost, fun lead around within starts => ?_⟩
    obtain ⟨last', embedded, run⟩ := passes.runs lead around within starts
    refine ⟨last', embedded, fun ending isEnding more whole accepts => ?_⟩
    have comesTo := kept ending isEnding
    rw [← embedded.spaced] at comesTo
    obtain ⟨less, reads⟩ := (run ending isEnding).read?_of accepts
    rw [← Progress.read?_skip, comesTo] at reads
    exact ⟨less, reads⟩
  · obtain ⟨last', embedded, run⟩ := passes.runs _ _ _ starts
    have comesTo := taken ending isEnding
    rw [← embedded.spaced] at comesTo
    obtain ⟨less, reads⟩ := (run ending isEnding).read?_of accepts
    have closed := (Progress.read?_nil comesTo reads).1
    rw [(embedded.around_eq passes.outermost).1] at closed
    cases closed

/-! ### The signs around a pattern -/

/-- Nothing is skipped in front of a sign of an ending. -/
theorem skip_sign (spaced : Bool) {sign : Char} (isSign : isEndingSign sign = true)
    (rest : List Char) : skip spaced (sign :: rest) = sign :: rest := by
  have noComment := (not_bracketSign_of_sign isSign).2.2.2.2.2.2
  cases spaced with
  | false => rfl
  | true => simp [skip, skipBlanks, not_isWhiteSpace_of_sign isSign, noComment]

namespace Progress

variable {progress : Progress} {fuel : Nat} {text : List Char} {whole : Tree}

/-- The engine's opening signs enter a group without changing a flag. -/
theorem read?_open (plain : progress.spaced = false)
    (reads : read? fuel progress ('(' :: '?' :: ':' :: text) = some whole) :
    ∃ less, read? less (progress.enter []) text = some whole := by
  refine read?_step ?_ (by rw [plain]; rfl) reads
  simp [step?, enterOrSet?, plain, skip, readFlags]

/-- A closing parenthesis leaves the innermost group, even where blanks are ignored. -/
theorem read?_close {group : OpenGroup} {outer : List OpenGroup}
    (isOpen : progress.outer = group :: outer)
    (reads : read? fuel progress (')' :: text) = some whole) :
    ∃ less, read? less { progress with
        branches := group.branches
        members := .group group.changes progress.body :: group.members
        spaced := group.spaced
        outer := outer } text = some whole := by
  refine read?_step ?_ (skip_sign progress.spaced rfl text) reads
  simp [step?, leave?, isOpen]

end Progress

/-- A parenthesis with anything on one line behind it is an ending. -/
theorem ending_close {text : List Char} (oneLine : '\n' ∉ text) : ')' :: text ∈ endings :=
  ⟨⟨')', text, rfl, rfl⟩, by simpa using oneLine⟩

/-- The engine writes its signs directly around a pattern. -/
theorem anchored_eq (pattern : List Char) :
    anchored pattern = '^' :: '(' :: '?' :: ':' :: (pattern ++ [')', '$']) := by
  have before : "^(?:".toList = ['^', '(', '?', ':'] := by simp
  have after : ")$".toList = [')', '$'] := by simp
  exact congrArg₂ (fun before after => before ++ pattern ++ after) before after

/-- The tree for a pattern between the signs of the engine. -/
def anchoredTree (tree : Tree) : Tree :=
  .concatenation [.anchor .lineStart, .group [] tree, .anchor .lineEnd]

/-- The anchored form of a pattern is a group between two anchors. -/
theorem anchored_tree {pattern : List Char} {tree whole : Tree}
    (wellFormed : Tree.ofText? pattern = some tree)
    (accepts : Tree.ofText? (anchored pattern) = some whole) :
    whole = anchoredTree tree ∧ ∃ last, last.body = tree ∧ Embeds pattern last := by
  obtain ⟨_, reads, limited⟩ := Option.bind_eq_some_iff.mp accepts
  split at limited <;> cases limited
  rw [anchored_eq] at reads
  obtain ⟨_, reads⟩ := Progress.read?_step rfl rfl reads
  obtain ⟨_, reads⟩ := Progress.read?_open rfl reads
  have starts : Within [] [⟨[], [.anchor .lineStart], false, []⟩] {}
      ((({} : Progress).add (.anchor .lineStart)).enter []) :=
    ⟨rfl, rfl, .outermost (.first [])⟩
  have isEnding : [')', '$'] ∈ endings := ending_close (by decide)
  obtain ⟨last, body, embeds⟩ := exists_embeds wellFormed starts isEnding reads
  refine ⟨?_, last, body, embeds⟩
  obtain ⟨last', embedded, goesOn⟩ := embeds.reads _ _ _ starts
  obtain ⟨_, reads⟩ := goesOn _ isEnding _ _ reads
  obtain ⟨_, reads⟩ := Progress.read?_close (embedded.around_eq embeds.outermost).1 reads
  obtain ⟨_, reads⟩ := Progress.read?_step rfl rfl reads
  obtain ⟨-, rfl⟩ := Progress.read?_nil rfl reads
  rw [← body, ← embedded.body_eq embeds.outermost]
  rfl

/-- The texts of start anchors, with what they read as. -/
def startAnchors : List (List Char × Anchor) :=
  [(['^'], .lineStart), (['\\', 'A'], .textStart)]

/-- The texts that are taken for end anchors. -/
def endSigns : List (List Char) := [['$'], ['\\', 'z'], ['\\', 'Z']]

/-- A pattern with an anchor at its start and one at its end has the one in its first branch and the
other in its last. -/
theorem literal_tree {pattern : List Char} {last : Progress} (embeds : Embeds pattern last)
    {start : List Char × Anchor} (isStart : start ∈ startAnchors) {stop : List Char}
    (isStop : stop ∈ endSigns) {whole : Tree}
    (accepts : Tree.ofText? (start.1 ++ pattern ++ stop) = some whole) :
    ∃ branches members stopAnchor, (stopAnchor = .lineEnd ∨ stopAnchor = .textEnd) ∧
      Led [.anchor start.2] last.branches last.members branches members ∧
      whole = levelBody branches (.anchor stopAnchor :: members) := by
  obtain ⟨_, reads, limited⟩ := Option.bind_eq_some_iff.mp accepts
  split at limited <;> cases limited
  have isEnding : stop ∈ endings := by
    simp only [endSigns, List.mem_cons, List.not_mem_nil, or_false] at isStop
    obtain rfl | rfl | rfl := isStop <;> exact ⟨⟨_, _, rfl, rfl⟩, by decide⟩
  have started : ∃ less, Progress.read? less (({} : Progress).add (.anchor start.2))
      (pattern ++ stop) = some whole := by
    simp only [startAnchors, List.mem_cons, List.not_mem_nil, or_false] at isStart
    rw [List.append_assoc] at reads
    obtain rfl | rfl := isStart <;> exact Progress.read?_step rfl rfl reads
  obtain ⟨_, reads⟩ := started
  have starts : Within [.anchor start.2] [] {} (({} : Progress).add (.anchor start.2)) :=
    ⟨rfl, rfl, .outermost (.first [])⟩
  -- Behind the first anchor the pattern is read as it is alone, so that only the ending is left to
  -- read.
  obtain ⟨last', embedded, goesOn⟩ := embeds.reads _ _ _ starts
  obtain ⟨around, led⟩ := embedded.around_eq embeds.outermost
  obtain ⟨_, reads⟩ := goesOn _ isEnding _ _ reads
  simp only [endSigns, List.mem_cons, List.not_mem_nil, or_false] at isStop
  obtain rfl | rfl | rfl := isStop
  · obtain ⟨_, reads⟩ := Progress.read?_step rfl (skip_sign _ rfl _) reads
    obtain ⟨-, rfl⟩ := Progress.read?_nil (skip_nil _) reads
    exact ⟨_, _, .lineEnd, .inl rfl, led, rfl⟩
  · obtain ⟨_, reads⟩ := Progress.read?_step rfl (skip_sign _ rfl _) reads
    obtain ⟨-, rfl⟩ := Progress.read?_nil (skip_nil _) reads
    exact ⟨_, _, .textEnd, .inr rfl, led, rfl⟩
  · obtain ⟨_, _, refused, -⟩ := Progress.read?_cons (skip_sign _ rfl _) reads
    cases refused

/-! ### Any text around a pattern -/

/-- Any run of characters, newlines included, as an expression. -/
def anyText : Tree := .group [(.dotMatchesNewline, true)] (.repeated 0 none .dot)

/-- A pattern with any text before and after it. -/
def widened (pattern : List Char) : List Char :=
  "(?s:.*)(?:".toList ++ pattern ++ ")(?s:.*)".toList

/-- A pattern is widened by groups for any text on both sides. -/
theorem widened_eq (pattern : List Char) :
    widened pattern = ['(', '?', 's', ':', '.', '*', ')', '(', '?', ':'] ++ pattern ++
      [')', '(', '?', 's', ':', '.', '*', ')'] := by
  have before : "(?s:.*)(?:".toList = ['(', '?', 's', ':', '.', '*', ')', '(', '?', ':'] := by simp
  have after : ")(?s:.*)".toList = [')', '(', '?', 's', ':', '.', '*', ')'] := by simp
  exact congrArg₂ (fun before after => before ++ pattern ++ after) before after

/-- A widened pattern stands between the engine's signs like every other one. -/
theorem anchored_widened_eq (pattern : List Char) :
    anchored (widened pattern) = '^' :: '(' :: '?' :: ':' ::
      '(' :: '?' :: 's' :: ':' :: '.' :: '*' :: ')' :: '(' :: '?' :: ':' ::
      (pattern ++ [')', '(', '?', 's', ':', '.', '*', ')', ')', '$']) := by
  simp only [anchored_eq, widened_eq, List.cons_append, List.append_assoc, List.nil_append]

/-- The group for any text is read as one member. It changes a flag only inside. -/
theorem Progress.read?_anyText {progress : Progress} (plain : progress.spaced = false) {fuel : Nat}
    {text : List Char} {whole : Tree}
    (reads : read? fuel progress ('(' :: '?' :: 's' :: ':' :: '.' :: '*' :: ')' :: text) =
      some whole) :
    ∃ less, read? less (progress.add anyText) text = some whole := by
  obtain ⟨branches, members, spaced, outer, names⟩ := progress
  dsimp only at plain
  subst plain
  obtain ⟨_, reads⟩ := read?_step rfl rfl reads
  obtain ⟨_, reads⟩ := read?_step rfl rfl reads
  obtain ⟨_, reads⟩ := read?_step rfl rfl reads
  obtain ⟨_, reads⟩ := read?_step rfl rfl reads
  exact ⟨_, reads⟩

/-- The anchored form of a pattern with any text around it has the pattern in the middle. -/
theorem widened_tree {pattern : List Char} {tree whole : Tree}
    (wellFormed : Tree.ofText? pattern = some tree)
    (accepts : Tree.ofText? (anchored (widened pattern)) = some whole) :
    whole = .concatenation [.anchor .lineStart,
      .group [] (.concatenation [anyText, .group [] tree, anyText]), .anchor .lineEnd] := by
  obtain ⟨_, reads, limited⟩ := Option.bind_eq_some_iff.mp accepts
  split at limited <;> cases limited
  rw [anchored_widened_eq] at reads
  obtain ⟨_, reads⟩ := Progress.read?_step rfl rfl reads
  obtain ⟨_, reads⟩ := Progress.read?_open rfl reads
  obtain ⟨_, reads⟩ := Progress.read?_anyText rfl reads
  obtain ⟨_, reads⟩ := Progress.read?_open rfl reads
  have starts : Within [] [⟨[], [anyText], false, []⟩, ⟨[], [.anchor .lineStart], false, []⟩] {}
      ((((({} : Progress).add (.anchor .lineStart)).enter []).add anyText).enter []) :=
    ⟨rfl, rfl, .outermost (.first [])⟩
  have isEnding : [')', '(', '?', 's', ':', '.', '*', ')', ')', '$'] ∈ endings :=
    ending_close (by decide)
  obtain ⟨last, body, embeds⟩ := exists_embeds wellFormed starts isEnding reads
  obtain ⟨last', embedded, goesOn⟩ := embeds.reads _ _ _ starts
  obtain ⟨_, reads⟩ := goesOn _ isEnding _ _ reads
  obtain ⟨_, reads⟩ := Progress.read?_close (embedded.around_eq embeds.outermost).1 reads
  obtain ⟨_, reads⟩ := Progress.read?_anyText rfl reads
  obtain ⟨_, reads⟩ := Progress.read?_close rfl reads
  obtain ⟨_, reads⟩ := Progress.read?_step rfl rfl reads
  obtain ⟨-, rfl⟩ := Progress.read?_nil rfl reads
  rw [← body, ← embedded.body_eq embeds.outermost]
  rfl

end SearchFilter.Regex
