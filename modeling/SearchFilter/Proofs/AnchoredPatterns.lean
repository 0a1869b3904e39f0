import SearchFilter.Proofs.OperatorOrder
import SearchFilter.Proofs.Regex.Acceptance
import SearchFilter.Proofs.Selection

/-!
# What a test for a pattern asks for

A test for a regular expression holds for a text that the expression matches from the first to the
last character. The engine makes sure of that by writing signs around the pattern, which goes wrong
for two kinds of patterns: one that has a closing parenthesis too many ends the group that the
engine has opened, so that the anchors belong to only a part of it, and one that ends with a comment
takes the closing signs in and is refused.
-/

namespace SearchFilter

open FilterSpec (nested leaves_nested mem_texts_iff)
open Regex (Expr Tree Frames anchored strays)

/-- Between the signs of the engine a pattern that closes no group but its own matches the texts
that it matches by itself from start to end. -/
theorem Regex.matchesWhole_iff_frames {pattern : String} (stays : strays pattern.toList = false)
    (ignoreCase : Bool) (text : String) :
    matchesWhole pattern ignoreCase text = true ↔
      ∃ expr, Frames pattern.toList ignoreCase expr ∧ expr.Spans text.toList := by
  rw [matchesWhole]
  constructor
  · intro found
    cases accepts : Expr.ofText? (anchored pattern.toList) ignoreCase with
    | none => simp [accepts] at found
    | some whole =>
      obtain ⟨expr, frames, rfl⟩ := (Expr.ofText?_anchored_iff stays).mp accepts
      rw [accepts] at found
      exact ⟨expr, frames, (expr.isMatch_framed_iff text.toList).mp found⟩
  · rintro ⟨expr, frames, spans⟩
    rw [(Expr.ofText?_anchored_iff stays).mpr ⟨expr, frames, rfl⟩]
    exact (expr.isMatch_framed_iff text.toList).mpr spans

namespace Query

end Query

end SearchFilter
