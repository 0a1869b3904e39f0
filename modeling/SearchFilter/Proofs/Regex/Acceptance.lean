import SearchFilter.Proofs.Regex.Anchoring
import SearchFilter.Proofs.Regex.Unclosed

/-!
# Which patterns are accepted between anchors

The engine writes a pattern between `^(?:` and `)$`. What is well formed by itself is read there as
a group between two anchors, if no comment at its end takes in the closing signs and what results is
neither too deep nor too large. What is not well formed by itself is refused there as well, unless
it closes a group that it has not opened.
-/

namespace SearchFilter.Regex

namespace Progress

/-- A run takes no parenthesis that closes no group. -/
theorem Reaches.strays_eq {count : Nat} {progress last : Progress} {text final : List Char}
    (run : Reaches count progress text last final) (fuel : Nat) :
    strays (fuel + count) progress text = strays fuel last final := by
  induction run with
  | here => rfl
  | step starts steps _ inductionHypothesis =>
    rw [← inductionHypothesis, ← Nat.add_assoc]
    simp only [strays, starts, steps]

end Progress

open Progress (Reaches)

/-! ### Reading a pattern between the signs -/

/-- The group that the engine opens before a pattern, with the anchor in front of it. -/
def anchorGroup : OpenGroup := ⟨[], [.anchor .lineStart], false, []⟩

/-- How far the reading has come where the pattern starts. -/
def inAnchors : Progress := (({} : Progress).add (.anchor .lineStart)).enter []

/-- Behind the opening signs the engine's group is the only thing around the pattern. -/
theorem within_inAnchors : Within [] [anchorGroup] {} inAnchors :=
  ⟨rfl, rfl, .outermost (.first [])⟩

/-- The signs before a pattern take two steps. -/
theorem reaches_inAnchors (pattern : List Char) :
    Reaches 2 {} (anchored pattern) inAnchors (pattern ++ closing) := by
  let outside : Progress := ({} : Progress).add (.anchor .lineStart)
  have anchor : Reaches 1 {} ('^' :: '(' :: '?' :: ':' :: (pattern ++ closing)) outside
      ('(' :: '?' :: ':' :: (pattern ++ closing)) := .single rfl rfl
  have enters : Reaches 1 outside ('(' :: '?' :: ':' :: (pattern ++ closing)) inAnchors
      (pattern ++ closing) := .single rfl rfl
  rw [anchored_eq]
  exact anchor.trans enters

/-- The engine adds six signs to a pattern. -/
theorem length_anchored (pattern : List Char) : (anchored pattern).length = pattern.length + 6 := by
  simp [anchored_eq]

namespace Passes

variable {pattern : List Char} {count : Nat} {last : Progress} {tail : List Char → List Char}

/-- A parenthesis after a pattern closes no group, if the reader comes to it. -/
theorem strays_eq (passes : Passes pattern count last tail) :
    strays (pattern ++ [')']) = !(skip last.spaced (tail [')'])).isEmpty := by
  have alone : Within [] [] {} {} := ⟨rfl, rfl, .outermost (.first [])⟩
  obtain ⟨last', embedded, run⟩ := passes.runs _ _ _ alone
  have nothingOpen : last'.outer = [] := (embedded.around_eq passes.outermost).1
  have isEnding : [')'] ∈ endings := ending_close nofun
  have few := passes.few
  have lengths : (pattern ++ [')']).length + 1 = pattern.length + 1 - count + 1 + count := by
    rw [List.length_append, List.length_singleton]
    omega
  rw [strays, lengths, (run _ isEnding).strays_eq, ← embedded.spaced]
  obtain kept | taken := passes.leaves
  · have comesTo := kept _ isEnding
    rw [← embedded.spaced] at comesTo
    simp [Progress.strays, comesTo, Progress.step?, Progress.leave?, nothingOpen]
  · have comesTo := taken _ isEnding
    rw [← embedded.spaced] at comesTo
    simp [Progress.strays, comesTo]

/-- Between the signs of the engine a pattern is a group between two anchors, if the reader comes to
the signs after it. -/
theorem read?_anchored_kept (passes : Passes pattern count last tail)
    (kept : skip last.spaced (tail closing) = closing) :
    Progress.read? ((anchored pattern).length + 1) {} (anchored pattern) =
      some (anchoredTree last.body) := by
  obtain ⟨within, embedded, run⟩ := passes.runs _ _ _ within_inAnchors
  have isOpen : within.outer = [anchorGroup] := (embedded.around_eq passes.outermost).1
  let left : Progress := { within with
    branches := []
    members := [.group [] within.body, .anchor .lineStart]
    spaced := false
    outer := [] }
  rw [← embedded.spaced] at kept
  have leaves : within.step? closing = some (left, ['$']) := by
    simp [Progress.step?, Progress.leave?, isOpen, anchorGroup, left]
  have ends : Reaches 1 left ['$'] (left.add (.anchor .lineEnd)) [] := .single rfl rfl
  have whole := ((reaches_inAnchors pattern).trans (run _ closing_mem)).trans
    (.step kept leaves ends)
  have result : (left.add (.anchor .lineEnd)).body = anchoredTree last.body := by
    rw [← embedded.body_eq passes.outermost]
    rfl
  refine Progress.read?_eq_some_iff.mpr ⟨_, _, _, ?_, whole, rfl, rfl, result⟩
  have few := passes.few
  rw [length_anchored]
  omega

/-- If a comment takes in the signs after a pattern, the group of the engine stays open. -/
theorem read?_anchored_taken (passes : Passes pattern count last tail)
    (taken : skip last.spaced (tail closing) = []) :
    Progress.read? ((anchored pattern).length + 1) {} (anchored pattern) = none := by
  obtain ⟨within, embedded, run⟩ := passes.runs _ _ _ within_inAnchors
  have isOpen : within.outer = [anchorGroup] := (embedded.around_eq passes.outermost).1
  have toEnd := (reaches_inAnchors pattern).trans (run _ closing_mem)
  have few := passes.few
  have lengths : (anchored pattern).length + 1 =
      pattern.length + 4 - count + 1 + (count + 2) := by
    rw [length_anchored]
    omega
  rw [← embedded.spaced] at taken
  rw [lengths, toEnd.read?_eq]
  simp [Progress.read?, taken, isOpen]

end Passes

/-- What is well formed by itself is read between the signs of the engine, unless a comment at its
end takes in what follows. Such a comment takes in a lone parenthesis as well, which otherwise would
close no group. -/
theorem read?_anchored {pattern : List Char} {tree : Tree}
    (reads : Progress.read? (pattern.length + 1) {} pattern = some tree) :
    Progress.read? ((anchored pattern).length + 1) {} (anchored pattern) =
      if strays (pattern ++ [')']) then some (anchoredTree tree) else none := by
  obtain ⟨count, last, tail, rfl, passes⟩ := exists_passes reads
  have isEnding : [')'] ∈ endings := ending_close nofun
  rw [passes.strays_eq]
  obtain kept | taken := passes.leaves
  · rw [kept _ isEnding, passes.read?_anchored_kept (kept _ closing_mem)]
    rfl
  · rw [taken _ isEnding, passes.read?_anchored_taken (taken _ closing_mem)]
    rfl

/-- What is not well formed by itself, and closes no group that it has not opened, is not read
between the signs of the engine. -/
theorem read?_anchored_refused {pattern : List Char} (stays : strays pattern = false)
    (refused : Progress.read? (pattern.length + 1) {} pattern = none) :
    Progress.read? ((anchored pattern).length + 1) {} (anchored pattern) = none := by
  have lengths : (anchored pattern).length + 1 = pattern.length + 5 + 2 := by
    rw [length_anchored]
  rw [lengths, (reaches_inAnchors pattern).read?_eq]
  exact Progress.read?_refused (Nat.lt_succ_self _) refused stays within_inAnchors
    (.append pattern) _

/-- A text that closes a group that it has not opened is not well formed. -/
theorem Progress.read?_eq_none_of_strays {fuel : Nat} {progress : Progress} {text : List Char}
    (isStray : Progress.strays fuel progress text = true) (more : Nat) :
    read? more progress text = none := by
  rw [Option.eq_none_iff_forall_ne_some]
  intro tree reads
  induction fuel generalizing progress text more with
  | zero => cases isStray
  | succ fuel inductionHypothesis =>
    rw [Progress.strays] at isStray
    cases next : skip progress.spaced text with
    | nil => simp [next] at isStray
    | cons c rest =>
      obtain ⟨found, less, steps, further⟩ := read?_cons next reads
      simp only [next, steps] at isStray
      exact inductionHypothesis isStray _ further

/-! ### Accepting a pattern between the signs -/

/-- The engine's signs nest a pattern two levels deeper, in a group and in a branch. -/
theorem depth_anchoredTree (tree : Tree) : (anchoredTree tree).depth = tree.depth + 2 := by
  simp [anchoredTree, Tree.depth, Tree.depth.depths]

/-- What a pattern needs besides an expression of its own to be accepted between the signs of the
engine: no comment at its end takes in the closing signs, and it is not so deep or so large that the
group and the anchors are too much. -/
structure Frames (pattern : List Char) (ignoreCase : Bool) (expr : Expr) : Prop where
  valid : Expr.ofText? pattern ignoreCase = some expr
  noComment : strays (pattern ++ [')']) = true
  shallow : ∀ tree, Tree.ofText? pattern = some tree → tree.depth + 2 ≤ maxDepth
  small : expr.size + 64 ≤ maxSize

/-- A pattern that closes no group but its own is read between the signs of the engine exactly if it
is well formed by itself, no comment takes in the closing signs, and its depth leaves room for the
group. -/
theorem Tree.ofText?_anchored_iff {pattern : List Char} (stays : strays pattern = false)
    {whole : Tree} :
    ofText? (anchored pattern) = some whole ↔
      ∃ tree, ofText? pattern = some tree ∧ strays (pattern ++ [')']) = true ∧
        tree.depth + 2 ≤ maxDepth ∧ whole = anchoredTree tree := by
  unfold ofText?
  cases reads : Progress.read? (pattern.length + 1) {} pattern with
  | none => simp [read?_anchored_refused stays reads]
  | some tree =>
    rw [read?_anchored reads]
    by_cases outside : strays (pattern ++ [')']) = true
    · simp only [outside, if_true, Option.bind_eq_bind, Option.bind_some, depth_anchoredTree,
        true_and, Option.ite_none_right_eq_some, Option.some.injEq]
      constructor
      · rintro ⟨shallow, rfl⟩
        exact ⟨tree, ⟨by omega, rfl⟩, shallow, rfl⟩
      · rintro ⟨_, ⟨-, rfl⟩, shallow, rfl⟩
        exact ⟨shallow, rfl⟩
    · simp [outside]

/-- Between the signs of the engine a pattern that closes no group but its own stands for its own
expression between the start and the end of the text, or for nothing. -/
theorem Expr.ofText?_anchored_iff {pattern : List Char} (stays : strays pattern = false)
    {ignoreCase : Bool} {whole : Expr} :
    ofText? (anchored pattern) ignoreCase = some whole ↔
      ∃ expr, Frames pattern ignoreCase expr ∧
        whole = .seq (.look .textStart) (.seq expr (.look .textEnd)) := by
  have size (expr : Expr) :
      (Expr.seq (.look .textStart) (.seq expr (.look .textEnd))).size = expr.size + 64 := by
    simp only [Expr.size]
    omega
  constructor
  · intro accepts
    obtain ⟨wholeTree, reads, resolves⟩ := Option.bind_eq_some_iff.mp accepts
    obtain ⟨tree, wellFormed, noComment, shallow, rfl⟩ := (Tree.ofText?_anchored_iff stays).mp reads
    rw [resolve?_anchoredTree] at resolves
    cases alone : tree.resolve? { ignoreCase := ignoreCase } with
    | none => simp [alone] at resolves
    | some found =>
      simp only [alone, Option.map_some, Option.bind_eq_bind, Option.bind_some, size,
        Option.ite_none_right_eq_some, Option.some.injEq] at resolves
      obtain ⟨small, rfl⟩ := resolves
      have fits : found.1.size ≤ maxSize := by omega
      refine ⟨found.1, ⟨?_, noComment, fun other same => ?_, small⟩, rfl⟩
      · simp [ofText?, wellFormed, alone, fits]
      · cases wellFormed.symm.trans same
        exact shallow
  · rintro ⟨expr, ⟨valid, noComment, shallow, small⟩, rfl⟩
    obtain ⟨tree, after, wellFormed, resolves⟩ := Expr.exists_tree_of_ofText? valid
    have reads := (Tree.ofText?_anchored_iff stays).mpr
      ⟨tree, wellFormed, noComment, shallow tree wellFormed, rfl⟩
    rw [ofText?, reads]
    simp [resolve?_anchoredTree, resolves, size, small]

end SearchFilter.Regex
