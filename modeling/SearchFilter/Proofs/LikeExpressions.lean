import SearchFilter.Proofs.Regex.Anchoring
import SearchFilter.Proofs.Regex.Runs
import SearchFilter.Wildcard
import Mathlib.Algebra.Ring.Nat

/-!
# Expressions for LIKE patterns

A LIKE pattern is a list of pieces. It becomes a wildcard pattern and that a regular expression,
each with signs of its own that have to be escaped; the text that results spells the pieces one
after the other. The reader of regular expressions takes every piece for what it is, so the text
always stands for the sequence of the expressions of its pieces, unless these take too much room.
-/

namespace SearchFilter

open Regex (Tree Expr Flags Progress)
open Regex.Progress (Reaches)

/-! ### Pieces -/

/-- A piece of a LIKE pattern: any run of characters, any one character, or a literal one. -/
inductive LikePiece
  | run
  | one
  | literal (c : Char)
deriving DecidableEq

namespace LikePiece

/-- The pieces of a LIKE pattern. A backslash makes `%`, `_` and itself literal; any other one is
literal itself. -/
def ofPattern : List Char → List LikePiece
  | [] => []
  | '\\' :: '%' :: rest => .literal '%' :: ofPattern rest
  | '\\' :: '_' :: rest => .literal '_' :: ofPattern rest
  | '\\' :: '\\' :: rest => .literal '\\' :: ofPattern rest
  | '%' :: rest => .run :: ofPattern rest
  | '_' :: rest => .one :: ofPattern rest
  | c :: rest => .literal c :: ofPattern rest

/-- A piece as the text of a regular expression. -/
def text : LikePiece → List Char
  | run => ['.', '*']
  | one => ['.']
  | literal c => Regex.escape c

/-- What the reader makes of a piece. -/
def tree : LikePiece → Tree
  | run => .repeated 0 none .dot
  | one => .dot
  | literal c => .literal ⟨c, false⟩

/-- The set of the characters that a literal stands for. -/
def literalSet (ignoreCase : Bool) (c : Char) : Regex.CharSet :=
  if ignoreCase then .caseClosure (.single c) else .single c

/-- The expression that a piece stands for. -/
def expr (ignoreCase : Bool) : LikePiece → Expr
  | run => .anyText
  | one => .one (.complement (.ranges []))
  | literal c => .one (literalSet ignoreCase c)

/-- How many steps the reader takes through a piece. -/
def steps : LikePiece → Nat
  | run => 2
  | one => 1
  | literal _ => 1

end LikePiece

namespace Wildcard

/-- An escaped character of a wildcard pattern stands for itself. -/
theorem expression_escape (c : Char) (rest : List Char) :
    expression (escape c ++ rest) = Regex.escape c ++ expression rest := by
  by_cases special : c = '*' ∨ c = '?' ∨ c = '\\'
  · obtain rfl | rfl | rfl := special <;> rfl
  · obtain ⟨noRun, noOne, noEscape⟩ : c ≠ '*' ∧ c ≠ '?' ∧ c ≠ '\\' := by
      simpa [not_or] using special
    have plain : escape c = [c] := by simp [escape, noRun, noOne, noEscape]
    rw [plain, List.singleton_append, expression]
    · exact noRun
    · exact noOne
    · exact fun _ _ isEscape => absurd isEscape noEscape

/-- The expression for a LIKE pattern spells its pieces in order. -/
theorem expression_ofLike (pattern : List Char) :
    expression (ofLike pattern) = (LikePiece.ofPattern pattern).flatMap LikePiece.text := by
  fun_induction ofLike pattern with
  | case1 => rfl
  | case2 rest inductionHypothesis | case3 rest inductionHypothesis
  | case4 rest inductionHypothesis =>
    rw [expression_escape, inductionHypothesis]
    rfl
  | case5 rest inductionHypothesis | case6 rest inductionHypothesis =>
    rw [expression, inductionHypothesis]
    rfl
  | case7 c rest noPercent noUnderscore noBackslash noRun noOne inductionHypothesis =>
    rw [expression_escape, inductionHypothesis, LikePiece.ofPattern]
    · rfl
    all_goals assumption

/-- The text for a wildcard pattern opens a group in which a dot takes every character, so that a
run may cross lines. -/
theorem anchored_eq (pattern : List Char) :
    anchored pattern = '^' :: '(' :: '?' :: 's' :: ':' :: (expression pattern ++ [')', '$']) := by
  have before : "^(?s:".toList = ['^', '(', '?', 's', ':'] := by simp
  have after : ")$".toList = [')', '$'] := by simp
  exact congrArg₂ (fun before after => before ++ expression pattern ++ after) before after

end Wildcard

/-! ### Reading the pieces -/

namespace LikePiece

/-- No piece starts with the mark that makes a repetition lazy, nor does what follows the pieces. -/
theorem skipLazy_texts (pieces : List LikePiece) (rest : List Char) :
    Regex.skipLazy (pieces.flatMap text ++ ')' :: rest) = pieces.flatMap text ++ ')' :: rest := by
  cases pieces with
  | nil => rfl
  | cons piece pieces =>
    cases piece with
    | run | one => rfl
    | literal c =>
      by_cases special : c ∈ Regex.metaCharacters
      · simp [text, Regex.escape, special, Regex.skipLazy]
      · have noMark : c ≠ '?' := by
          rintro rfl
          exact special (by decide)
        simp [text, Regex.escape, special, Regex.skipLazy, noMark]

/-- One step of the reader takes an escaped character for itself, whatever character it is. -/
theorem step?_literal (progress : Progress) (c : Char) (rest : List Char) :
    ∃ first after, Regex.escape c ++ rest = first :: after ∧
      progress.step? (first :: after) = some (progress.add (.literal ⟨c, false⟩), rest) := by
  by_cases special : c ∈ Regex.metaCharacters
  · refine ⟨'\\', c :: rest, by simp [Regex.escape, special], ?_⟩
    have escapable : ∀ sign ∈ Regex.metaCharacters, Regex.isEscapable sign = true :=
      List.all_eq_true.mp (by decide)
    rw [progress.step?_item (by decide)]
    simp [Regex.readItem, Regex.readEscape, escapable c special, Regex.Item.tree]
  · refine ⟨c, rest, by simp [Regex.escape, special], ?_⟩
    have signs : Regex.specialSigns ⊆ Regex.metaCharacters := by decide
    have noSign : c ∉ Regex.specialSigns := fun isSign => special (signs isSign)
    have isLiteral : Regex.readItem progress.spaced (c :: rest) =
        some (.literal ⟨c, false⟩, rest) := by
      unfold Regex.readItem
      split <;> simp_all [Regex.metaCharacters]
    rw [progress.step?_item noSign, isLiteral]
    rfl

variable {progress : Progress}

/-- The reader takes a piece in. -/
theorem reaches_text (plain : progress.spaced = false) (piece : LikePiece) {rest : List Char}
    (notLazy : Regex.skipLazy rest = rest) :
    Reaches piece.steps progress (piece.text ++ rest) (progress.add piece.tree) rest := by
  have unskipped (text : List Char) : Regex.skip progress.spaced text = text := by
    rw [plain]
    rfl
  cases piece with
  | one => exact .single rfl (unskipped _)
  | literal c =>
    obtain ⟨first, after, same, steps⟩ := step?_literal progress c rest
    have spelled : (literal c).text ++ rest = first :: after := same
    rw [spelled]
    exact .single steps (unskipped _)
  | run =>
    have dot : Reaches 1 progress ('.' :: '*' :: rest) (progress.add .dot) ('*' :: rest) :=
      .single rfl (unskipped _)
    have repeats : (progress.add .dot).step? ('*' :: rest) =
        some (progress.add (.repeated 0 none .dot), rest) := by
      rw [Progress.step?]
      simp [Progress.repeatLast?, Progress.add, notLazy]
    exact dot.trans (.single repeats (unskipped _))

/-- The reader takes pieces in one after the other. -/
theorem reaches_texts (plain : progress.spaced = false) (pieces : List LikePiece)
    (rest : List Char) :
    Reaches (pieces.map steps).sum progress (pieces.flatMap text ++ ')' :: rest)
      { progress with members := (pieces.map tree).reverse ++ progress.members } (')' :: rest) := by
  induction pieces generalizing progress with
  | nil => exact .here _ _
  | cons piece pieces inductionHypothesis =>
    have first := reaches_text plain piece (skipLazy_texts pieces rest)
    have stillPlain : (progress.add piece.tree).spaced = false := plain
    have others := inductionHypothesis stillPlain
    have both := first.trans others
    simpa [Progress.add, Nat.add_comm] using both

/-- A piece takes at most one step for each character of its text. -/
theorem steps_le_length (piece : LikePiece) : piece.steps ≤ piece.text.length := by
  cases piece with
  | run | one => exact Nat.le_refl _
  | literal c =>
    simp only [steps, text, Regex.escape]
    split <;> simp

/-- All pieces together take at most one step for each character, which is the fuel that the reader
has. -/
theorem steps_le_length_of_all (pieces : List LikePiece) :
    (pieces.map steps).sum ≤ (pieces.flatMap text).length := by
  induction pieces with
  | nil => exact Nat.le_refl _
  | cons piece pieces inductionHypothesis =>
    have here := steps_le_length piece
    simp only [List.map_cons, List.sum_cons, List.flatMap_cons, List.length_append]
    omega

/-- The tree for a pattern of these pieces. -/
def wholeTree (pieces : List LikePiece) : Tree :=
  .concatenation [.anchor .lineStart,
    .group [(.dotMatchesNewline, true)] (.ofConcatenation (pieces.map tree)), .anchor .lineEnd]

/-- The tree of a piece nests at most one level: a run is a repeated dot. -/
theorem depth_tree (piece : LikePiece) : piece.tree.depth ≤ 1 := by
  cases piece <;> simp [tree, Tree.depth]

/-- The trees of all pieces nest at most one level, because they stand beside each other. -/
theorem depths_trees (pieces : List LikePiece) : Tree.depth.depths (pieces.map tree) ≤ 1 := by
  induction pieces with
  | nil => simp [Tree.depth.depths]
  | cons piece pieces inductionHypothesis =>
    exact Nat.max_le.mpr ⟨depth_tree piece, inductionHypothesis⟩

/-- The tree of a whole pattern nests far less than the reader allows, however long the pattern
is. -/
theorem depth_wholeTree (pieces : List LikePiece) : (wholeTree pieces).depth ≤ 4 := by
  have inner : (Tree.ofConcatenation (pieces.map tree)).depth ≤ 2 := by
    match pieces with
    | [] => simp [Tree.ofConcatenation, Tree.depth]
    | [piece] => exact Nat.le_succ_of_le (depth_tree piece)
    | first :: second :: rest => exact Nat.succ_le_succ (depths_trees (first :: second :: rest))
  simp only [wholeTree, Tree.depth, Tree.depth.depths, Nat.max_def]
  split_ifs <;> omega

/-- The text of a LIKE pattern is always read, as the sequence of its pieces between two anchors. -/
theorem ofText?_anchored (pattern : List Char) :
    Tree.ofText? (Wildcard.anchored (Wildcard.ofLike pattern)) =
      some (wholeTree (ofPattern pattern)) := by
  generalize spelled : ofPattern pattern = pieces
  have same : Wildcard.anchored (Wildcard.ofLike pattern) =
      '^' :: '(' :: '?' :: 's' :: ':' :: (pieces.flatMap text ++ [')', '$']) := by
    rw [Wildcard.anchored_eq, Wildcard.expression_ofLike, spelled]
  -- The states of the reader in their order: behind the first anchor, inside the group, behind its
  -- members, and behind the group.
  let outside : Progress := ({} : Progress).add (.anchor .lineStart)
  let inside : Progress := outside.enter [(.dotMatchesNewline, true)]
  let filled : Progress := { inside with members := (pieces.map tree).reverse }
  let left : Progress := outside.add (.group [(.dotMatchesNewline, true)] filled.body)
  have body : filled.body = .ofConcatenation (pieces.map tree) := by
    simp [filled, inside, outside, Progress.body, Progress.branch, Progress.enter,
      Tree.ofAlternation]
  have anchor : Reaches 1 {} ('^' :: '(' :: '?' :: 's' :: ':' :: (pieces.flatMap text ++ [')', '$']))
      outside ('(' :: '?' :: 's' :: ':' :: (pieces.flatMap text ++ [')', '$'])) := .single rfl rfl
  have enters : Reaches 1 outside ('(' :: '?' :: 's' :: ':' :: (pieces.flatMap text ++ [')', '$']))
      inside (pieces.flatMap text ++ [')', '$']) := .single rfl rfl
  have fills : Reaches (pieces.map steps).sum inside (pieces.flatMap text ++ [')', '$']) filled
      [')', '$'] := by
    have plain : inside.spaced = false := rfl
    simpa [filled, inside, Progress.enter] using reaches_texts plain pieces ['$']
  have leaves : Reaches 1 filled [')', '$'] left ['$'] := .single rfl rfl
  have ends : Reaches 1 left ['$'] (left.add (.anchor .lineEnd)) [] := .single rfl rfl
  have result : (left.add (.anchor .lineEnd)).body = wholeTree pieces := by
    rw [wholeTree, ← body]
    rfl
  have run := (((anchor.trans enters).trans fills).trans leaves).trans ends
  have read : Progress.read? ((Wildcard.anchored (Wildcard.ofLike pattern)).length + 1) {}
      (Wildcard.anchored (Wildcard.ofLike pattern)) = some (wholeTree pieces) := by
    rw [same]
    refine Progress.read?_eq_some_iff.mpr ⟨_, _, _, ?_, run, rfl, rfl, result⟩
    -- Every step takes at least a character, so the length of the text is fuel enough.
    have few := steps_le_length_of_all pieces
    simp only [List.length_cons, List.length_append, List.length_nil]
    omega
  have shallow : (wholeTree pieces).depth ≤ Regex.maxDepth :=
    Nat.le_trans (depth_wholeTree pieces) (by decide)
  rw [Tree.ofText?, read]
  simp [shallow]

/-! ### What the pieces stand for -/

/-- The expression for a pattern of these pieces. -/
def wholeExpr (ignoreCase : Bool) (pieces : List LikePiece) : Expr :=
  .seq (.look .textStart)
    (.seq (.sequence (pieces.map (expr ignoreCase))) (.look .textEnd))

section

variable {flags : Flags} (unicode : flags.unicode = true) (anyLine : flags.dotMatchesNewline = true)
include unicode anyLine

/-- Where a dot is any character, a piece stands for its expression. -/
theorem resolve?_tree (piece : LikePiece) :
    piece.tree.resolve? flags = some (piece.expr flags.ignoreCase, flags) := by
  have dot : flags.dot? = some (.one (.complement (.ranges []))) := by
    simp [Flags.dot?, unicode, anyLine]
  cases piece with
  | run =>
    simp only [tree, Tree.resolve?, dot, Option.bind_eq_bind, Option.bind_some, Option.pure_def]
    rfl
  | one =>
    simp only [tree, Tree.resolve?, dot, Option.bind_eq_bind, Option.bind_some, Option.pure_def]
    rfl
  | literal c =>
    have folded : flags.caseFold (.single c) = literalSet flags.ignoreCase c := by
      cases ignored : flags.ignoreCase <;> simp [Flags.caseFold, literalSet, unicode, ignored]
    simp [tree, Tree.resolve?, Flags.literal?, unicode, folded, expr]

/-- The pieces resolve one by one. None of them changes a flag. -/
theorem resolveAll?_trees (pieces : List LikePiece) :
    Tree.resolve?.resolveAll? flags (pieces.map tree) =
      some (pieces.map (expr flags.ignoreCase), flags) := by
  induction pieces with
  | nil => rfl
  | cons piece pieces inductionHypothesis =>
    simp only [List.map_cons, Tree.resolve?.resolveAll?, resolve?_tree unicode anyLine,
      Option.bind_eq_bind, Option.bind_some, inductionHypothesis, Option.pure_def]

end

/-- The tree of a whole pattern resolves to its expression between the two anchors. -/
theorem resolve?_wholeTree (ignoreCase : Bool) (pieces : List LikePiece) :
    (wholeTree pieces).resolve? { ignoreCase := ignoreCase } =
      some (wholeExpr ignoreCase pieces, { ignoreCase := ignoreCase }) := by
  let inside : Flags := { ignoreCase := ignoreCase, dotMatchesNewline := true }
  have unicode : inside.unicode = true := rfl
  have group : (Tree.ofConcatenation (pieces.map tree)).resolve? inside =
      some (.sequence (pieces.map (expr ignoreCase)), inside) := by
    rw [Tree.resolve?_ofConcatenation, resolveAll?_trees unicode rfl pieces]
    rfl
  simp [wholeTree, Tree.resolve?, Tree.resolve?.resolveAll?, Flags.apply, Flags.change, group,
    inside, Flags.look, wholeExpr]
  rfl

/-- A LIKE pattern stands for the expression of its pieces, unless that is too large. -/
theorem exprOfText?_anchored (pattern : List Char) (ignoreCase : Bool) :
    Expr.ofText? (Wildcard.anchored (Wildcard.ofLike pattern)) ignoreCase =
      if (wholeExpr ignoreCase (ofPattern pattern)).size ≤ Regex.maxSize then
        some (wholeExpr ignoreCase (ofPattern pattern))
      else none := by
  rw [Expr.ofText?, ofText?_anchored]
  simp only [Option.bind_eq_bind, Option.bind_some, resolve?_wholeTree]

/-- A piece takes at most as much room as a run. -/
theorem size_expr_le (ignoreCase : Bool) (piece : LikePiece) : (piece.expr ignoreCase).size ≤ 68 := by
  cases piece with
  | run | one => simp [expr, Expr.anyText, Expr.size, Regex.CharSet.extent]
  | literal c =>
    cases ignoreCase <;>
      simp [expr, literalSet, Expr.size, Regex.CharSet.extent, Regex.CharSet.single]

/-- The expression of a pattern grows at most linearly with its pieces. -/
theorem size_sequence_le (ignoreCase : Bool) (pieces : List LikePiece) :
    (Expr.sequence (pieces.map (expr ignoreCase))).size ≤ 68 * pieces.length + 32 := by
  induction pieces with
  | nil => exact Nat.le_refl _
  | cons piece pieces inductionHypothesis =>
    have here := size_expr_le ignoreCase piece
    cases pieces with
    | nil =>
      have alone : (Expr.sequence ([piece].map (expr ignoreCase))).size =
          (piece.expr ignoreCase).size := rfl
      rw [alone]
      simp only [List.length_cons, List.length_nil]
      omega
    | cons next pieces =>
      have both : (Expr.sequence ((piece :: next :: pieces).map (expr ignoreCase))).size =
          (piece.expr ignoreCase).size +
            (Expr.sequence ((next :: pieces).map (expr ignoreCase))).size := rfl
      rw [both]
      simp only [List.length_cons] at inductionHypothesis ⊢
      omega

/-- A pattern has at most as many pieces as characters. -/
theorem length_ofPattern_le (pattern : List Char) : (ofPattern pattern).length ≤ pattern.length := by
  fun_induction ofPattern pattern <;> simp only [List.length_cons, List.length_nil] <;> omega

/-- Only patterns that are very long become too large. -/
theorem size_wholeExpr_le (ignoreCase : Bool) (pattern : List Char)
    (short : pattern.length ≤ 150000) :
    (wholeExpr ignoreCase (ofPattern pattern)).size ≤ Regex.maxSize := by
  have pieces := length_ofPattern_le pattern
  have inner := size_sequence_le ignoreCase (ofPattern pattern)
  simp only [wholeExpr, Expr.size, Regex.maxSize]
  omega

end LikePiece

end SearchFilter
