import SearchFilter.Proofs.Regex.Framing
import SearchFilter.Proofs.Regex.Language

/-!
# What anchored patterns match

The anchored form of a pattern finds a match in a text exactly if the pattern matches the text from
its start to its end. Anchors directly around a pattern do not change which texts it matches from
start to end, although they concern only its first and its last branch.
-/

namespace SearchFilter.Regex

variable {text : List Char}

/-! ### Sequences and branches -/

namespace Expr

/-- A sequence matches in two stretches, the first expression and the rest. -/
theorem matches_sequence_cons (first : Expr) (rest : List Expr) (start stop : Nat) :
    (sequence (first :: rest)).Matches text start stop ↔
      ∃ middle, first.Matches text start middle ∧ (sequence rest).Matches text middle stop := by
  cases rest with
  | nil => simp [sequence, Matches]
  | cons second rest => rfl

/-- A sequence can be divided anywhere. -/
theorem matches_sequence_append (before after : List Expr) (start stop : Nat) :
    (sequence (before ++ after)).Matches text start stop ↔
      ∃ middle, (sequence before).Matches text start middle ∧
        (sequence after).Matches text middle stop := by
  induction before generalizing start with
  | nil => simp [sequence, Matches]
  | cons first rest inductionHypothesis =>
    simp only [List.cons_append, matches_sequence_cons, inductionHypothesis]
    constructor
    · rintro ⟨next, isFirst, middle, isRest, isAfter⟩
      exact ⟨middle, ⟨next, isFirst, isRest⟩, isAfter⟩
    · rintro ⟨middle, ⟨next, isFirst, isRest⟩, isAfter⟩
      exact ⟨next, isFirst, middle, isRest, isAfter⟩

/-- An alternation with a branch matches where one of its branches does. -/
theorem matches_anyOf {branches : List Expr} (nonempty : branches ≠ []) (start stop : Nat) :
    (anyOf branches).Matches text start stop ↔
      ∃ branch ∈ branches, branch.Matches text start stop := by
  induction branches with
  | nil => exact absurd rfl nonempty
  | cons first rest inductionHypothesis =>
    cases rest with
    | nil => simp [anyOf]
    | cons second rest =>
      simp only [anyOf, Matches, inductionHypothesis (List.cons_ne_nil _ _),
        List.exists_mem_cons_iff]

end Expr

namespace Tree

variable {flags : Flags}

/-- A branch resolves to the sequence of its members, also where it needs no node of its own. -/
theorem resolve?_ofConcatenation (members : List Tree) :
    (ofConcatenation members).resolve? flags =
      (resolve?.resolveAll? flags members).map fun found => (.sequence found.1, found.2) := by
  match members with
  | [] => rfl
  | [member] =>
    simp only [ofConcatenation, resolve?.resolveAll?]
    cases member.resolve? flags <;> rfl
  | first :: second :: rest =>
    simp only [ofConcatenation, resolve?]
    cases resolve?.resolveAll? flags (first :: second :: rest) <;> rfl

/-- A group resolves to the alternation of its branches, also where it needs no node of its own. -/
theorem resolve?_ofAlternation (branches : List Tree) :
    (ofAlternation branches).resolve? flags =
      (resolve?.resolveAll? flags branches).map fun found => (.anyOf found.1, found.2) := by
  match branches with
  | [] => rfl
  | [branch] =>
    simp only [ofAlternation, resolve?.resolveAll?]
    cases branch.resolve? flags <;> rfl
  | first :: second :: rest =>
    simp only [ofAlternation, resolve?]
    cases resolve?.resolveAll? flags (first :: second :: rest) <;> rfl

/-- What a branch resolves to comes from its members. -/
theorem resolve?_ofConcatenation_eq_some {members : List Tree} {expr : Expr} {after : Flags}
    (resolved : (ofConcatenation members).resolve? flags = some (expr, after)) :
    ∃ exprs, resolve?.resolveAll? flags members = some (exprs, after) ∧
      expr = .sequence exprs := by
  rw [resolve?_ofConcatenation] at resolved
  obtain ⟨⟨exprs, _⟩, all, same⟩ := Option.map_eq_some_iff.mp resolved
  cases same
  exact ⟨exprs, all, rfl⟩

/-- What a group resolves to comes from its branches. -/
theorem resolve?_ofAlternation_eq_some {branches : List Tree} {expr : Expr} {after : Flags}
    (resolved : (ofAlternation branches).resolve? flags = some (expr, after)) :
    ∃ exprs, resolve?.resolveAll? flags branches = some (exprs, after) ∧ expr = .anyOf exprs := by
  rw [resolve?_ofAlternation] at resolved
  obtain ⟨⟨exprs, _⟩, all, same⟩ := Option.map_eq_some_iff.mp resolved
  cases same
  exact ⟨exprs, all, rfl⟩

/-- Members resolve one after the other, each with the flags that those before it leave. -/
theorem resolveAll?_append (before after : List Tree) :
    resolve?.resolveAll? flags (before ++ after) =
      (resolve?.resolveAll? flags before).bind fun found =>
        (resolve?.resolveAll? found.2 after).map fun rest => (found.1 ++ rest.1, rest.2) := by
  induction before generalizing flags with
  | nil =>
    simp only [List.nil_append, resolve?.resolveAll?, Option.bind_some]
    cases resolve?.resolveAll? flags after <;> rfl
  | cons first rest inductionHypothesis =>
    simp only [List.cons_append, resolve?.resolveAll?]
    cases first.resolve? flags with
    | none => rfl
    | some found =>
      simp only [Option.bind_eq_bind, Option.bind_some, inductionHypothesis]
      cases resolve?.resolveAll? found.2 rest with
      | none => rfl
      | some found =>
        simp only [Option.pure_def, Option.bind_some]
        cases resolve?.resolveAll? found.2 after <;> rfl

/-- An anchor in front leaves the flags as they are. -/
theorem resolveAll?_anchor_cons (kind : Anchor) (members : List Tree) :
    resolve?.resolveAll? flags (.anchor kind :: members) =
      (resolve?.resolveAll? flags members).map fun found =>
        (.look (flags.look kind) :: found.1, found.2) := by
  simp only [resolve?.resolveAll?, resolve?, Option.bind_eq_bind, Option.bind_some]
  cases resolve?.resolveAll? flags members <;> rfl

/-- An anchor behind is read with the flags that are left. -/
theorem resolveAll?_append_anchor (kind : Anchor) (members : List Tree) :
    resolve?.resolveAll? flags (members ++ [.anchor kind]) =
      (resolve?.resolveAll? flags members).map fun found =>
        (found.1 ++ [.look (found.2.look kind)], found.2) := by
  rw [resolveAll?_append]
  cases resolve?.resolveAll? flags members <;> rfl

/-- Several branches are resolved under the flags that the ones before them leave. -/
theorem resolveAll?_branches {first last : Tree} {between : List Tree} {exprs : List Expr}
    {after : Flags}
    (resolved : resolve?.resolveAll? flags (first :: (between ++ [last])) = some (exprs, after)) :
    ∃ firstExpr flags₁ betweenExprs flags₂ lastExpr,
      first.resolve? flags = some (firstExpr, flags₁) ∧
      resolve?.resolveAll? flags₁ between = some (betweenExprs, flags₂) ∧
      last.resolve? flags₂ = some (lastExpr, after) ∧
      exprs = firstExpr :: (betweenExprs ++ [lastExpr]) := by
  rw [resolve?.resolveAll?] at resolved
  obtain ⟨⟨firstExpr, flags₁⟩, isFirst, resolved⟩ := Option.bind_eq_some_iff.mp resolved
  obtain ⟨⟨rest, flags₃⟩, isRest, same⟩ := Option.bind_eq_some_iff.mp resolved
  rw [resolveAll?_append] at isRest
  obtain ⟨⟨betweenExprs, flags₂⟩, isBetween, further⟩ := Option.bind_eq_some_iff.mp isRest
  obtain ⟨⟨lastExprs, flags₄⟩, isLast, sameRest⟩ := Option.map_eq_some_iff.mp further
  obtain ⟨⟨lastExpr, flags₅⟩, isLast, sameLast⟩ := Option.bind_eq_some_iff.mp isLast
  cases sameLast
  cases sameRest
  cases same
  exact ⟨firstExpr, flags₁, betweenExprs, flags₂, lastExpr, isFirst, isBetween, isLast, rfl⟩

end Tree

/-- A text that stands for an expression spells a tree that resolves to it. -/
theorem Expr.exists_tree_of_ofText? {source : List Char} {ignoreCase : Bool} {expr : Expr}
    (accepts : Expr.ofText? source ignoreCase = some expr) :
    ∃ tree after, Tree.ofText? source = some tree ∧
      tree.resolve? { ignoreCase := ignoreCase } = some (expr, after) := by
  obtain ⟨tree, reads, resolves⟩ := Option.bind_eq_some_iff.mp accepts
  obtain ⟨⟨found, after⟩, resolves, limited⟩ := Option.bind_eq_some_iff.mp resolves
  dsimp only at limited
  split at limited
  · cases limited
    exact ⟨tree, after, reads, resolves⟩
  · cases limited

/-! ### Anchors -/

/-- The anchors that a literal can start with hold at the start of every text. -/
theorem look_holds_at_start (flags : Flags) {start : List Char × Anchor}
    (isStart : start ∈ startAnchors) (after : Option Char) :
    (flags.look start.2).holds none after = true := by
  simp only [startAnchors, List.mem_cons, List.not_mem_nil, or_false] at isStart
  obtain rfl | rfl := isStart
  · unfold Flags.look
    dsimp only
    split
    · rfl
    · split <;> rfl
  · rfl

/-- Behind the last character every anchor for an end holds, whatever the flags are. -/
theorem look_holds_at_end (flags : Flags) {stop : Anchor}
    (isStop : stop = .lineEnd ∨ stop = .textEnd) (before : Option Char) :
    (flags.look stop).holds before none = true := by
  obtain rfl | rfl := isStop
  · unfold Flags.look
    dsimp only
    split
    · rfl
    · split <;> rfl
  · rfl

/-- No character comes before the start of a text, and one before every other position. -/
theorem charBefore_eq_none {position : Nat} (within : position ≤ text.length) :
    charBefore text position = none ↔ position = 0 := by
  unfold charBefore
  split
  · simp_all
  · simp_all
    omega

/-- An anchor at the start asks nothing of what starts there anyway. -/
theorem matches_anchored_start {flags : Flags} {start : List Char × Anchor}
    (isStart : start ∈ startAnchors) (members : List Expr) (stop : Nat) :
    (Expr.sequence (.look (flags.look start.2) :: members)).Matches text 0 stop ↔
      (Expr.sequence members).Matches text 0 stop := by
  have holds := look_holds_at_start flags isStart text[0]?
  simp [Expr.matches_sequence_cons, Expr.Matches, charBefore, holds]

/-- An anchor at the end asks nothing of what ends there anyway. -/
theorem matches_anchored_end {flags : Flags} {kind : Anchor}
    (isEnd : kind = .lineEnd ∨ kind = .textEnd) (members : List Expr) (start : Nat) :
    (Expr.sequence (members ++ [.look (flags.look kind)])).Matches text start text.length ↔
      (Expr.sequence members).Matches text start text.length := by
  have holds := look_holds_at_end flags isEnd (charBefore text text.length)
  simp only [Expr.matches_sequence_append]
  constructor
  · rintro ⟨middle, isMatch, rfl, -⟩
    exact isMatch
  · exact fun isMatch => ⟨_, isMatch, rfl, Nat.le_refl _, by rwa [List.getElem?_length]⟩

/-! ### Anchored forms -/

/-- Between a condition for the start and one for the end of the text, an expression finds a match
exactly where it matches all of the text. -/
theorem Expr.isMatch_framed_iff (expr : Expr) (text : List Char) :
    (Expr.seq (.look .textStart) (.seq expr (.look .textEnd))).isMatch text = true ↔
      expr.Spans text := by
  rw [Expr.isMatch_iff]
  constructor
  · rintro ⟨start, stop, -, _, ⟨rfl, within, atStart⟩, _, isMatch, rfl, inside, atEnd⟩
    obtain rfl := (charBefore_eq_none within).mp (Option.isNone_iff_eq_none.mp atStart)
    have beyond := List.getElem?_eq_none_iff.mp (Option.isNone_iff_eq_none.mp atEnd)
    rwa [Nat.le_antisymm inside beyond] at isMatch
  · intro spans
    refine ⟨0, text.length, Nat.zero_le _, 0, ⟨rfl, Nat.zero_le _, rfl⟩, text.length, spans, rfl,
      Nat.le_refl _, ?_⟩
    simp [Look.holds]

/-- The tree between the engine's signs resolves to its expression between the two anchors. The
group keeps changed flags from the closing anchor. -/
theorem resolve?_anchoredTree (tree : Tree) (ignoreCase : Bool) :
    (anchoredTree tree).resolve? { ignoreCase := ignoreCase } =
      (tree.resolve? { ignoreCase := ignoreCase }).map fun found =>
        (.seq (.look .textStart) (.seq found.1 (.look .textEnd)), { ignoreCase := ignoreCase }) := by
  cases resolves : tree.resolve? { ignoreCase := ignoreCase } with
  | none => simp [anchoredTree, Tree.resolve?, Tree.resolve?.resolveAll?, Flags.apply, resolves]
  | some found =>
    simp [anchoredTree, Tree.resolve?, Tree.resolve?.resolveAll?, Flags.apply, Flags.look, resolves]
    rfl

/-- The anchored form of a pattern finds a match exactly where the pattern matches all of the text.
-/
theorem isMatch_anchored_iff {pattern : List Char} {ignoreCase : Bool} {tree : Tree}
    (wellFormed : Tree.ofText? pattern = some tree) {whole : Expr}
    (accepts : Expr.ofText? (anchored pattern) ignoreCase = some whole) :
    ∃ expr after, tree.resolve? { ignoreCase := ignoreCase } = some (expr, after) ∧
      ∀ text, whole.isMatch text = true ↔ expr.Spans text := by
  obtain ⟨wholeTree, _, reads, resolves⟩ := Expr.exists_tree_of_ofText? accepts
  obtain ⟨rfl, -⟩ := anchored_tree wellFormed reads
  rw [resolve?_anchoredTree] at resolves
  obtain ⟨⟨expr, after⟩, inside, same⟩ := Option.map_eq_some_iff.mp resolves
  cases same
  exact ⟨expr, after, inside, expr.isMatch_framed_iff⟩

section

variable {flags : Flags} {start : List Char × Anchor} (isStart : start ∈ startAnchors)
  {stop : Anchor} (isStop : stop = .lineEnd ∨ stop = .textEnd) {expr expr' : Expr}
  {after after' : Flags}
include isStart isStop

/-- Anchors around the only branch of a pattern do not change which texts it matches from start to
end. -/
theorem spans_anchored_branch_iff {members : List Tree}
    (alone : (Tree.ofConcatenation members).resolve? flags = some (expr, after))
    (within : (Tree.ofConcatenation (.anchor start.2 :: (members ++ [.anchor stop]))).resolve? flags =
      some (expr', after'))
    (text : List Char) : expr'.Spans text ↔ expr.Spans text := by
  obtain ⟨exprs, resolved, rfl⟩ := Tree.resolve?_ofConcatenation_eq_some alone
  rw [Tree.resolve?_ofConcatenation, Tree.resolveAll?_anchor_cons,
    Tree.resolveAll?_append_anchor, resolved] at within
  cases within
  unfold Expr.Spans
  rw [matches_anchored_start isStart, matches_anchored_end isStop]

/-- Nor does an anchor before the first of several branches and one after the last of them: the
branches are resolved under the same flags, and each keeps what it spans. -/
theorem spans_anchored_branches_iff {first last between : List Tree}
    (alone : (Tree.ofAlternation (.ofConcatenation first ::
      (between ++ [.ofConcatenation last]))).resolve? flags = some (expr, after))
    (within : (Tree.ofAlternation (.ofConcatenation (.anchor start.2 :: first) ::
      (between ++ [.ofConcatenation (last ++ [.anchor stop])]))).resolve? flags =
        some (expr', after'))
    (text : List Char) : expr'.Spans text ↔ expr.Spans text := by
  obtain ⟨_, resolved, rfl⟩ := Tree.resolve?_ofAlternation_eq_some alone
  obtain ⟨_, resolved', rfl⟩ := Tree.resolve?_ofAlternation_eq_some within
  obtain ⟨_, _, betweenExprs, _, _, isFirst, isBetween, isLast, rfl⟩ :=
    Tree.resolveAll?_branches resolved
  obtain ⟨_, _, _, _, _, isFirst', isBetween', isLast', rfl⟩ := Tree.resolveAll?_branches resolved'
  obtain ⟨firstExprs, firstResolved, rfl⟩ := Tree.resolve?_ofConcatenation_eq_some isFirst
  rw [Tree.resolve?_ofConcatenation, Tree.resolveAll?_anchor_cons, firstResolved] at isFirst'
  cases isFirst'
  rw [isBetween] at isBetween'
  cases isBetween'
  obtain ⟨lastExprs, lastResolved, rfl⟩ := Tree.resolve?_ofConcatenation_eq_some isLast
  rw [Tree.resolve?_ofConcatenation, Tree.resolveAll?_append_anchor, lastResolved] at isLast'
  cases isLast'
  unfold Expr.Spans
  simp only [Expr.matches_anyOf (List.cons_ne_nil _ _), List.exists_mem_cons_iff, List.mem_append,
    List.mem_singleton, or_and_right, exists_or, exists_eq_left, matches_anchored_start isStart,
    matches_anchored_end isStop]

/-- Anchors around a pattern do not change which texts it matches from start to end. -/
theorem spans_literal_iff {branches members branches' members' : List Tree}
    (led : Led [.anchor start.2] branches members branches' members')
    (alone : (levelBody branches members).resolve? flags = some (expr, after))
    (within : (levelBody branches' (.anchor stop :: members')).resolve? flags =
      some (expr', after'))
    (text : List Char) : expr'.Spans text ↔ expr.Spans text := by
  cases led with
  | first =>
    have shape : levelBody [] (.anchor stop :: (members ++ [.anchor start.2])) =
        .ofConcatenation (.anchor start.2 :: (members.reverse ++ [.anchor stop])) := by
      simp [levelBody, Tree.ofAlternation]
    rw [List.reverse_singleton, shape] at within
    exact spans_anchored_branch_iff isStart isStop alone within text
  | later first branches =>
    have shape (first last : Tree) :
        (last :: (branches ++ [first])).reverse = first :: (branches.reverse ++ [last]) := by simp
    simp only [levelBody, shape, List.reverse_cons] at alone within
    exact spans_anchored_branches_iff isStart isStop alone within text

end

/-! ### Patterns in any text -/

/-- The expression that `anyText` resolves to. -/
def Expr.anyText : Expr := .repeated 0 none (.one (.complement (.ranges [])))

/-- Any text is any number of characters, newlines included. -/
theorem resolve?_anyText {flags : Flags} (unicode : flags.unicode = true) :
    anyText.resolve? flags = some (.anyText, flags) := by
  simp [anyText, Tree.resolve?, Flags.dot?, Flags.apply, Flags.change, unicode]
  rfl

/-- Any text matches every stretch within the text. -/
theorem Expr.matches_anyText_iff {start stop : Nat} (within : start ≤ text.length) :
    anyText.Matches text start stop ↔ start ≤ stop ∧ stop ≤ text.length := by
  constructor
  · intro isMatch
    refine ⟨?_, isMatch.le_length within⟩
    obtain ⟨count, -, -, leads⟩ := isMatch
    have later (here next : Nat)
        (steps : (Expr.one (.complement (.ranges []))).Matches text here next)
        (after : start ≤ here) : start ≤ next := by
      rw [steps.1]
      exact Nat.le_succ_of_le after
    exact leads.keeps later (Nat.le_refl start)
  · rintro ⟨before, inside⟩
    obtain ⟨count, rfl⟩ := Nat.exists_eq_add_of_le before
    refine ⟨count, Nat.zero_le count, nofun, ?_⟩
    clear before
    induction count generalizing start with
    | zero => rfl
    | succ count inductionHypothesis =>
      have isHere : start < text.length := by omega
      refine ⟨start + 1, ⟨rfl, text[start], List.getElem?_eq_getElem isHere, rfl⟩, ?_⟩
      have same : start + (count + 1) = start + 1 + count := by omega
      rw [same] at inside ⊢
      exact inductionHypothesis isHere inside

/-- With any text around it a pattern finds a match exactly where it finds one by itself, as the
anchored form of the two runs of any text covers what is outside the match. -/
theorem isMatch_widened_iff {pattern : List Char} {ignoreCase : Bool} {expr whole : Expr}
    (accepts : Expr.ofText? pattern ignoreCase = some expr)
    (widens : Expr.ofText? (anchored (widened pattern)) ignoreCase = some whole)
    (text : List Char) :
    whole.isMatch text = true ↔ expr.isMatch text = true := by
  obtain ⟨tree, after, wellFormed, resolves⟩ := Expr.exists_tree_of_ofText? accepts
  obtain ⟨_, _, reads, resolvesWhole⟩ := Expr.exists_tree_of_ofText? widens
  obtain rfl := widened_tree wellFormed reads
  have any : anyText.resolve? { ignoreCase := ignoreCase } =
    some (.anyText, { ignoreCase := ignoreCase }) := resolve?_anyText rfl
  have shape : whole = .seq (.look .textStart)
      (.seq (.seq .anyText (.seq expr .anyText)) (.look .textEnd)) := by
    simp [Tree.resolve?, Tree.resolve?.resolveAll?, resolves, any, Flags.apply, Flags.look]
      at resolvesWhole
    rw [← resolvesWhole.1]
    rfl
  rw [shape, Expr.isMatch_iff, Expr.isMatch_iff]
  constructor
  · rintro ⟨_, _, -, _, ⟨rfl, within, -⟩, _, ⟨first, before, last, isMatch, -⟩, -⟩
    exact ⟨first, last, ((Expr.matches_anyText_iff within).mp before).2, isMatch⟩
  · rintro ⟨first, last, within, isMatch⟩
    have inside := isMatch.le_length within
    refine ⟨0, text.length, Nat.zero_le _, 0, ⟨rfl, Nat.zero_le _, rfl⟩, text.length,
      ⟨first, (Expr.matches_anyText_iff (Nat.zero_le _)).mpr ⟨Nat.zero_le _, within⟩, last, isMatch,
        (Expr.matches_anyText_iff inside).mpr ⟨inside, Nat.le_refl _⟩⟩, rfl, Nat.le_refl _, ?_⟩
    simp [Look.holds]

/-! ### Pinned expressions -/

/-- Whether every way through an expression first asks for the start of the text. -/
def Expr.startsPinned : Expr → Bool
  | .look condition => condition = .textStart
  | .seq first _ => first.startsPinned
  | .either left right => left.startsPinned && right.startsPinned
  | _ => false

/-- Whether every way through an expression ends by asking for the end of the text. -/
def Expr.endsPinned : Expr → Bool
  | .look condition => condition = .textEnd
  | .seq _ second => second.endsPinned
  | .either left right => left.endsPinned && right.endsPinned
  | _ => false

/-- What is pinned to the start matches from there only. The induction is on the expression. -/
theorem Expr.Matches.start_eq_zero {expr : Expr} {start stop : Nat}
    (isMatch : expr.Matches text start stop) (pinned : expr.startsPinned = true) : start = 0 := by
  induction expr generalizing start stop with
  | look condition =>
    obtain rfl := of_decide_eq_true pinned
    obtain ⟨-, within, holds⟩ := isMatch
    exact (charBefore_eq_none within).mp (Option.isNone_iff_eq_none.mp holds)
  | seq first second firstPinned =>
    obtain ⟨_, isFirst, -⟩ := isMatch
    exact firstPinned isFirst pinned
  | either left right leftPinned rightPinned =>
    obtain ⟨atLeft, atRight⟩ := Bool.and_eq_true_iff.mp pinned
    exact isMatch.elim (leftPinned · atLeft) (rightPinned · atRight)
  | empty | one | repeated => cases pinned

/-- What is pinned to the end matches up to there only. The induction is on the expression. -/
theorem Expr.Matches.stop_eq_length {expr : Expr} {start stop : Nat}
    (isMatch : expr.Matches text start stop) (pinned : expr.endsPinned = true) :
    stop = text.length := by
  induction expr generalizing start stop with
  | look condition =>
    obtain rfl := of_decide_eq_true pinned
    obtain ⟨rfl, within, holds⟩ := isMatch
    exact Nat.le_antisymm within
      (List.getElem?_eq_none_iff.mp (Option.isNone_iff_eq_none.mp holds))
  | seq first second _ secondPinned =>
    obtain ⟨_, -, isSecond⟩ := isMatch
    exact secondPinned isSecond pinned
  | either left right leftPinned rightPinned =>
    obtain ⟨atLeft, atRight⟩ := Bool.and_eq_true_iff.mp pinned
    exact isMatch.elim (leftPinned · atLeft) (rightPinned · atRight)
  | empty | one | repeated => cases pinned

/-- A match of all of a text is a match. An expression that is pinned to the start and to the end
has no others. -/
theorem Expr.Spans.isMatch {expr : Expr} (spans : expr.Spans text) : expr.isMatch text = true :=
  (expr.isMatch_iff text).mpr ⟨0, text.length, Nat.zero_le _, spans⟩

/-- An expression that is pinned at both ends has a match exactly if it matches the whole text. -/
theorem Expr.spans_iff_isMatch {expr : Expr} (atStart : expr.startsPinned = true)
    (atEnd : expr.endsPinned = true) : expr.Spans text ↔ expr.isMatch text = true := by
  refine ⟨Expr.Spans.isMatch, fun found => ?_⟩
  obtain ⟨start, stop, -, isMatch⟩ := (expr.isMatch_iff text).mp found
  rw [isMatch.start_eq_zero atStart, isMatch.stop_eq_length atEnd] at isMatch
  exact isMatch

end SearchFilter.Regex
