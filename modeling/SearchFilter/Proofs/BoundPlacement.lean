import SearchFilter.Proofs.Interchange
import SearchFilter.Proofs.OperatorOrder

/-!
# Where the bounds of an operator map stand

The queries of an operator map are described by parts, each of which stands for entries of the map:
an operator that is no bound for the queries it gives by itself, and a range for its one or two
bounds. Every entry belongs to exactly one part, and the parts stand in the order of their first
entries. So no bound is lost or used twice, and no bound reaches into a query that another operator
gave, whatever stands between the bounds of the map (`operand_ops_placed`).

While the entries are taken up, what is kept is that the open range is the last part with bounds
(`Shows`) and that the bounds of the parts are grouped as `Edge.together` groups the bounds of the
entries taken up so far (`Arranged`). Where the open range is kept as an index into all queries, it
is this last part that stands at the index (`Progress.queries_openIndex`).
-/

namespace SearchFilter

namespace Edge

/-- There is a group as soon as there is a bound. -/
theorem together_cons_ne_nil (edge : Edge) (rest : List Edge) : together (edge :: rest) ≠ [] := by
  cases rest with
  | nil => exact List.cons_ne_nil _ _
  | cons next rest =>
    rw [together]
    split <;> exact List.cons_ne_nil _ _

/-- One more bound joins the last group if that is a single bound on the other side. -/
theorem together_append_of_joins {edges : List Edge} {groups : List (List Edge)}
    {last edge : Edge} (grouped : together edges = groups ++ [[last]])
    (different : last.side ≠ edge.side) :
    together (edges ++ [edge]) = groups ++ [[last, edge]] := by
  induction edges using together.induct generalizing groups with
  | case1 => simp [together] at grouped
  | case2 only =>
    obtain ⟨rfl, rfl⟩ : groups = [] ∧ only = last := by
      cases groups <;> simp_all [together]
    simp [together, different]
  | case3 first next rest same inductionHypothesis =>
    simp only [together, same, if_true] at grouped
    cases groups with
    | nil =>
      have tail := (List.cons.inj grouped).2
      exact absurd tail (together_cons_ne_nil next rest)
    | cons group groups =>
      obtain ⟨rfl, tail⟩ := List.cons.inj grouped
      have joined := inductionHypothesis tail
      simp only [List.cons_append] at joined ⊢
      rw [together, if_pos same, joined]
  | case4 first next rest apart inductionHypothesis =>
    simp only [together, apart, if_false] at grouped
    cases groups with
    | nil => simp at grouped
    | cons group groups =>
      obtain ⟨rfl, tail⟩ := List.cons.inj grouped
      simp only [List.cons_append]
      rw [together, if_neg apart, inductionHypothesis tail]

/-- One more bound forms a group of its own unless it joins the last one. -/
theorem together_append_of_opens (edges : List Edge) (edge : Edge)
    (taken : ∀ groups last, together edges = groups ++ [[last]] → last.side = edge.side) :
    together (edges ++ [edge]) = together edges ++ [[edge]] := by
  induction edges using together.induct with
  | case1 => rfl
  | case2 only =>
    have same := taken [] only rfl
    simp [together, same]
  | case3 first next rest same inductionHypothesis =>
    have opened := inductionHypothesis fun groups last tail =>
      taken ([first] :: groups) last (by simp [together, same, tail])
    simp only [List.cons_append] at opened ⊢
    rw [together, if_pos same, opened, together, if_pos same]
    rfl
  | case4 first next rest apart inductionHypothesis =>
    have opened := inductionHypothesis fun groups last tail =>
      taken ([first, next] :: groups) last (by simp [together, apart, tail])
    simp only [List.cons_append]
    rw [together, if_neg apart, opened, together, if_neg apart]
    rfl

/-- Bounds of which at most one is on each side form a single group. -/
theorem together_eq_singleton {edges : List Edge} (some : edges ≠ [])
    (distinct : (edges.map side).Nodup) : together edges = [edges] := by
  match edges with
  | [] => exact absurd rfl some
  | [edge] => rfl
  | [first, second] =>
    have apart : first.side ≠ second.side := by simpa using distinct
    simp [together, apart]
  | first :: second :: third :: rest =>
    exfalso
    simp only [List.map_cons, List.nodup_cons, List.mem_cons, not_or] at distinct
    obtain ⟨⟨notSecond, notThird, -⟩, ⟨different, -⟩, -⟩ := distinct
    revert notSecond notThird different
    cases first.side <;> cases second.side <;> cases third.side <;> simp

end Edge

namespace Resolve

open FilterSpec (boundsOf)

/-- The bound that the entry at a place stands for. -/
def edgeAt? (entries : List (Operator × Value)) (place : Nat) : Option Edge :=
  entries[place]?.bind fun entry => Meaning.edge? (keyed entry)

/-- A part of what an operator map is resolved to, with the places of the entries it stands for. -/
inductive Part
  /-- The queries of an operator that is no bound. -/
  | own (place : Nat) (given : List Query)
  /-- A range with one end. -/
  | single (place : Nat) (edge : Edge)
  /-- A range between a bound and a later one. -/
  | pair (place : Nat) (edge : Edge) (nextPlace : Nat) (next : Edge)

namespace Part

/-- The place of the first entry. -/
def place : Part → Nat
  | .own place _ | .single place _ | .pair place _ _ _ => place

/-- The places of all entries that a part stands for. -/
def places : Part → List Nat
  | .own place _ | .single place _ => [place]
  | .pair place _ nextPlace _ => [place, nextPlace]

/-- The bounds in a range that was made from bounds. -/
def edges? : Part → Option (List Edge)
  | .own _ _ => none
  | .single _ edge => some [edge]
  | .pair _ edge _ next => some [edge, next]

/-- The interval of a range that was made from bounds. -/
def interval? : Part → Option Interval
  | .own _ _ => none
  | .single _ edge => some (oneSided edge.side edge.bound)
  | .pair _ edge _ next => some (edge.between next)

/-- The queries of a part: those of its operator, or one predicate for its range. -/
def queries (field : String) : Part → List Query
  | .own _ given => given
  | .single _ edge => [Query.test field (.range (oneSided edge.side edge.bound))]
  | .pair _ edge _ next => [Query.test field (.range (edge.between next))]

/-- A range that was made from bounds is one query, however many bounds it has. -/
theorem queries_of_interval (field : String) (part : Part) (interval : Interval)
    (ranged : part.interval? = some interval) :
    part.queries field = [Query.test field (.range interval)] := by
  cases part with
  | own _ _ => cases ranged
  | single _ _ | pair _ _ _ _ =>
    obtain rfl := Option.some.inj ranged
    rfl

/-- Whether the entries at its places make up a part: an operator that is no bound gives these
queries when it is taken up alone, and bounds are those of the entries, two of them on different
sides. -/
def StandsFor (setting : Setting) (enter : Operand → Diagnosed (List Query)) (field : String)
    (entries : List (Operator × Value)) : Part → Prop
  | .own place given => ∃ entry warnings, entries[place]? = some entry ∧
      entry.1.isBound = false ∧
      takeUp setting enter field entries .start entry = .done ⟨[], none, given⟩ warnings
  | .single place edge => edgeAt? entries place = some edge
  | .pair place edge nextPlace next => edgeAt? entries place = some edge ∧
      edgeAt? entries nextPlace = some next ∧ place < nextPlace ∧ edge.side ≠ next.side

end Part

/-! ### One entry -/

section Entries

variable (setting : Setting) (enter : Operand → Diagnosed (List Query)) (field : String)
  (entries : List (Operator × Value))

/-- An entry contributes the bound it stands for, or queries if it stands for none. -/
theorem contribution_forms (entry : Operator × Value) (contribution : Contribution)
    (warnings : List Warning)
    (done : Resolve.contribution setting enter field entries entry = .done contribution warnings) :
    (∃ edge, Meaning.edge? (keyed entry) = some edge ∧
        contribution = .bound edge.side edge.bound) ∨
      (entry.1.isBound = false ∧ Meaning.edge? (keyed entry) = none ∧
        ∃ given, contribution = .queries given) := by
  obtain ⟨op, value⟩ := entry
  cases (contribution_form done).2 with
  | @bound _ side close literal bounding read =>
    obtain ⟨edge, stands, sided⟩ := Edge.of_sideOf op side close literal bounding
    obtain ⟨rfl, sameBound⟩ := Prod.mk.inj sided
    exact .inl ⟨edge, stands, by rw [sameBound]⟩
  | equality _ _ | negation _ => exact .inr ⟨rfl, Edge.edge?_eq_none rfl _, _, rfl⟩
  | simple form =>
    have noSide := form.simple.1
    have noBound : op.isBound = false := by cases op <;> first | rfl | cases noSide
    exact .inr ⟨noBound, Edge.edge?_eq_none noSide _, _, rfl⟩

/-! ### The progress shown by parts -/

/-- The progress that parts amount to. The open range is the last part with bounds. -/
inductive Shows : Progress → List Part → Prop
  | unopened {parts : List Part} (others : ∀ part ∈ parts, part.edges? = none) :
    Shows ⟨[], none, parts.flatMap (Part.queries field)⟩ parts
  | opened (before : List Part) {range : Part} {interval : Interval} {after : List Part}
    (ranged : range.interval? = some interval) (others : ∀ part ∈ after, part.edges? = none) :
    Shows ⟨before.flatMap (Part.queries field), some interval,
      after.flatMap (Part.queries field)⟩ (before ++ range :: after)

variable {field} in
/-- The queries of a progress are those of the parts that show it, in the same order. -/
theorem Shows.queries {progress : Progress} {parts : List Part}
    (shown : Shows field progress parts) :
    progress.queries field = parts.flatMap (Part.queries field) := by
  cases shown with
  | unopened others => rfl
  | opened before ranged others =>
    rw [List.flatMap_append, List.flatMap_cons, Part.queries_of_interval field _ _ ranged]
    rfl

variable {field} in
/-- Queries of an operator that is no bound are shown by one more part. The open range stays the
last part with bounds, because the new part has none. -/
theorem Shows.append {progress : Progress} {parts : List Part} (place : Nat) (given : List Query)
    (shown : Shows field progress parts) :
    Shows field (progress.append given) (parts ++ [.own place given]) := by
  cases shown with
  | unopened others =>
    have appended : (parts ++ [Part.own place given]).flatMap (Part.queries field) =
        parts.flatMap (Part.queries field) ++ given := by simp [Part.queries]
    rw [Progress.append, ← appended]
    exact .unopened (List.forall_mem_append.mpr ⟨others, by simp [Part.edges?]⟩)
  | @opened before range interval after ranged others =>
    have appended : (after ++ [Part.own place given]).flatMap (Part.queries field) =
        after.flatMap (Part.queries field) ++ given := by simp [Part.queries]
    rw [Progress.append, ← appended, List.append_assoc, List.cons_append]
    exact .opened before ranged (List.forall_mem_append.mpr ⟨others, by simp [Part.edges?]⟩)

/-- What is kept when the first entries are taken up, as many as `taken` says. -/
structure Arranged (taken : Nat) (progress : Progress) (parts : List Part) : Prop where
  shown : Shows field progress parts
  placed : (parts.flatMap Part.places).Perm (List.range taken)
  ordered : (parts.map Part.place).Pairwise (· < ·)
  given : ∀ part ∈ parts, part.StandsFor setting enter field entries
  grouped : parts.filterMap Part.edges? = Edge.together (boundsOf (entries.take taken))

variable {setting enter field entries}

namespace Arranged

variable {taken : Nat} {progress : Progress} {parts : List Part} {entry : Operator × Value}

/-- Before the first entry there are no parts, no places and no bounds. -/
theorem start : Arranged setting enter field entries 0 .start [] where
  shown := .unopened (List.forall_mem_nil _)
  placed := .nil
  ordered := .nil
  given := List.forall_mem_nil _
  grouped := rfl

/-- A part stands for entries that have been taken up, so the next entry comes after all of them. -/
theorem place_lt (arranged : Arranged setting enter field entries taken progress parts)
    {part : Part} (member : part ∈ parts) : part.place < taken := by
  have among : part.place ∈ parts.flatMap Part.places :=
    List.mem_flatMap.mpr ⟨part, member, by cases part <;> exact List.mem_cons_self⟩
  exact List.mem_range.mp (arranged.placed.mem_iff.mp among)

/-- A part for the next entry alone goes to the end of the parts. -/
theorem snoc (arranged : Arranged setting enter field entries taken progress parts)
    (part : Part) (places : part.places = [taken])
    (stands : part.StandsFor setting enter field entries) :
    ((parts ++ [part]).flatMap Part.places).Perm (List.range (taken + 1)) ∧
      ((parts ++ [part]).map Part.place).Pairwise (· < ·) ∧
        ∀ each ∈ parts ++ [part], each.StandsFor setting enter field entries := by
  have here : part.place = taken := by
    cases part <;> exact List.head_eq_of_cons_eq places
  refine ⟨?_, ?_, ?_⟩
  · rw [List.flatMap_append, List.flatMap_singleton, places, List.range_succ]
    exact arranged.placed.append_right _
  · rw [List.map_append, List.pairwise_append]
    refine ⟨arranged.ordered, List.pairwise_singleton _ _, fun first member last lastMember => ?_⟩
    obtain ⟨each, eachMember, rfl⟩ := List.mem_map.mp member
    obtain rfl : last = taken := by simpa [here] using lastMember
    exact arranged.place_lt eachMember
  · exact List.forall_mem_append.mpr ⟨arranged.given, by simpa using stands⟩

/-- The bounds of one more entry. -/
theorem boundsOf_take_succ (found : entries[taken]? = some entry) :
    boundsOf (entries.take (taken + 1)) =
      boundsOf (entries.take taken) ++ (Meaning.edge? (keyed entry)).toList := by
  rw [List.take_add_one, found, boundsOf, boundsOf, List.map_append, List.filterMap_append]
  cases bounding : Meaning.edge? (keyed entry) <;> simp [bounding]

/-- An operator that is no bound adds a part of its own. -/
theorem append (arranged : Arranged setting enter field entries taken progress parts)
    (found : entries[taken]? = some entry) (noBound : entry.1.isBound = false)
    (noEdge : Meaning.edge? (keyed entry) = none)
    {given : List Query} {warnings : List Warning}
    (done : contribution setting enter field entries entry = .done (.queries given) warnings) :
    Arranged setting enter field entries (taken + 1) (progress.append given)
      (parts ++ [.own taken given]) := by
  have alone : takeUp setting enter field entries .start entry =
      .done ⟨[], none, given⟩ warnings := by
    rw [takeUp_eq, Diagnosed.map_eq_done_iff]
    exact ⟨_, done, rfl⟩
  obtain ⟨placed, ordered, stands⟩ :=
    arranged.snoc (.own taken given) rfl ⟨entry, warnings, found, noBound, alone⟩
  refine ⟨arranged.shown.append taken given, placed, ordered, stands, ?_⟩
  rw [boundsOf_take_succ found, noEdge, List.filterMap_append, arranged.grouped]
  simp [Part.edges?]

/-- A bound that does not fill the open range opens the next one. -/
theorem opens (arranged : Arranged setting enter field entries taken progress parts)
    (found : entries[taken]? = some entry) {edge : Edge}
    (bounding : Meaning.edge? (keyed entry) = some edge)
    (refused : progress.openRange.bind (fill? edge.side edge.bound) = none) :
    Arranged setting enter field entries (taken + 1)
      ⟨progress.queries field, some (oneSided edge.side edge.bound), []⟩
      (parts ++ [.single taken edge]) := by
  obtain ⟨placed, ordered, stands⟩ := arranged.snoc (.single taken edge) rfl
    (show edgeAt? entries taken = some edge by rw [edgeAt?, found, Option.bind_some, bounding])
  have opened : Shows field
      ⟨parts.flatMap (Part.queries field), some (oneSided edge.side edge.bound), []⟩
      (parts ++ [.single taken edge]) := .opened parts rfl (List.forall_mem_nil _)
  rw [← arranged.shown.queries] at opened
  refine ⟨opened, placed, ordered, stands, ?_⟩
  -- That the open range takes no bound says that the last group takes none either: it is missing,
  -- full, or has the side of the new bound.
  have alone : ∀ groups last,
      Edge.together (boundsOf (entries.take taken)) = groups ++ [[last]] →
        last.side = edge.side := by
    intro groups last ending
    rw [← arranged.grouped] at ending
    cases arranged.shown with
    | unopened others =>
      rw [List.filterMap_eq_nil_iff.mpr others] at ending
      simp at ending
    | @opened before range interval after ranged others =>
      rw [List.filterMap_append, List.filterMap_cons, List.filterMap_eq_nil_iff.mpr others]
        at ending
      cases range with
      | own _ _ => cases ranged
      | pair _ _ _ _ =>
        have same := (List.append_inj' ending rfl).2
        simp [Part.edges?] at same
      | single place only =>
        have same := (List.append_inj' ending rfl).2
        obtain rfl : only = last := by simpa [Part.edges?] using same
        obtain rfl := Option.some.inj ranged
        by_contra apart
        rw [Option.bind_some, Edge.fill_oneSided, if_neg apart] at refused
        cases refused
  rw [boundsOf_take_succ found, bounding, List.filterMap_append, arranged.grouped,
    Option.toList_some, Edge.together_append_of_opens _ _ alone]
  rfl

/-- A bound is put into the last range made from bounds, or opens a new one at the end. -/
theorem bound (arranged : Arranged setting enter field entries taken progress parts)
    (found : entries[taken]? = some entry) {edge : Edge}
    (bounding : Meaning.edge? (keyed entry) = some edge) :
    ∃ others, Arranged setting enter field entries (taken + 1)
      (progress.bound field edge.side edge.bound) others := by
  cases filled : progress.openRange.bind (fill? edge.side edge.bound) with
  | none =>
    rw [Progress.bound, filled]
    exact ⟨_, arranged.opens found bounding filled⟩
  | some merged =>
    rw [Progress.bound, filled]
    obtain ⟨shown, placed, ordered, given, grouped⟩ := arranged
    cases shown with
    -- A bound is merged only into an open range, and of the ranges with bounds only a single one is
    -- open for the other side.
    | unopened others => cases filled
    | @opened before range interval after ranged others =>
      cases range with
      | own _ _ => cases ranged
      | pair _ _ _ _ =>
        obtain rfl := Option.some.inj ranged
        rw [Option.bind_some, Edge.fill_between] at filled
        cases filled
      | single place last =>
        obtain rfl := Option.some.inj ranged
        rw [Option.bind_some, Edge.fill_oneSided] at filled
        split at filled
        · cases filled
        · rename_i apart
          obtain rfl := Option.some.inj filled
          obtain ⟨givenBefore, givenRest⟩ := List.forall_mem_append.mp given
          obtain ⟨lastStands, givenAfter⟩ := List.forall_mem_cons.mp givenRest
          -- The part of that bound becomes a pair. Its place stays where it was, so the order of
          -- the parts does not change.
          have earlier : place < taken := by
            refine List.mem_range.mp (placed.mem_iff.mp ?_)
            simp [Part.places]
          refine ⟨before ++ .pair place last taken edge :: after, .opened before rfl others, ?_, ?_,
            ?_, ?_⟩
          · have moved : ((before ++ Part.pair place last taken edge :: after).flatMap
                Part.places).Perm (taken :: (before ++ Part.single place last :: after).flatMap
                  Part.places) := by
              have middle : (before.flatMap Part.places ++ [place] ++
                  taken :: after.flatMap Part.places).Perm _ := List.perm_middle
              simpa [Part.places] using middle
            rw [List.range_succ]
            exact moved.trans ((placed.cons taken).trans (List.perm_append_singleton _ _).symm)
          · simpa [Part.place] using ordered
          · refine List.forall_mem_append.mpr ⟨givenBefore, List.forall_mem_cons.mpr
              ⟨⟨lastStands, ?_, earlier, apart⟩, givenAfter⟩⟩
            rw [edgeAt?, found, Option.bind_some, bounding]
          · rw [List.filterMap_append, List.filterMap_cons, List.filterMap_eq_nil_iff.mpr others]
              at grouped ⊢
            rw [boundsOf_take_succ found, bounding, Option.toList_some]
            exact (Edge.together_append_of_joins grouped.symm apart).symm

/-- Whatever the next entry contributes is put into its place among the parts. -/
theorem step (arranged : Arranged setting enter field entries taken progress parts)
    (found : entries[taken]? = some entry) {next : Progress} {warnings : List Warning}
    (done : takeUp setting enter field entries progress entry = .done next warnings) :
    ∃ others, Arranged setting enter field entries (taken + 1) next others := by
  rw [takeUp_eq, Diagnosed.map_eq_done_iff] at done
  obtain ⟨contributed, done, rfl⟩ := done
  obtain ⟨edge, bounding, rfl⟩ | ⟨noBound, noEdge, given, rfl⟩ :=
    contribution_forms setting enter field entries entry contributed warnings done
  · exact arranged.bound found bounding
  · exact ⟨_, arranged.append found noBound noEdge done⟩

/-- What one entry keeps the whole map keeps. The induction is on the entries that remain. -/
theorem run (earlier rest : List (Operator × Value)) (split : entries = earlier ++ rest)
    (arranged : Arranged setting enter field entries earlier.length progress parts)
    {final : Progress} {warnings : List Warning}
    (done : takeUpAll setting enter field entries progress rest = .done final warnings) :
    ∃ others, Arranged setting enter field entries entries.length final others := by
  induction rest generalizing earlier progress parts warnings with
  | nil =>
    obtain ⟨rfl, -⟩ := (Diagnosed.pure_eq_done_iff _ _ _).mp done
    rw [List.append_nil] at split
    exact ⟨parts, split ▸ arranged⟩
  | cons entry rest inductionHypothesis =>
    obtain ⟨next, _, later, first, following, -⟩ := (Diagnosed.bind_eq_done_iff _ _ _ _).mp done
    have found : entries[earlier.length]? = some entry := by simp [split]
    obtain ⟨others, extended⟩ := arranged.step found first
    have longer : earlier.length + 1 = (earlier ++ [entry]).length := by simp
    rw [longer] at extended
    exact inductionHypothesis (earlier ++ [entry]) (by simp [split]) extended following

end Arranged

/-- The queries of an operator map are those of parts in which all of its entries are arranged. -/
theorem arranged_of_operandWith {queries : List Query} {warnings : List Warning}
    (done : operandWith setting enter field (.ops entries) = .done queries warnings) :
    ∃ progress parts, Arranged setting enter field entries entries.length progress parts ∧
      queries = parts.flatMap (Part.queries field) := by
  obtain ⟨progress, _, _, taken, last, -⟩ := (Diagnosed.bind_eq_done_iff _ _ _ _).mp done
  obtain ⟨rfl, -⟩ := (Diagnosed.pure_eq_done_iff _ _ _).mp last
  obtain ⟨parts, arranged⟩ := Arranged.start.run [] entries rfl taken
  exact ⟨progress, parts, arranged, arranged.shown.queries⟩

end Entries

/-- No bound is lost, used twice or overwritten. The queries of an operator map are those of parts:
every entry belongs to exactly one of them, they stand in the order of their first entries, and each
is what its entries stand for. The queries of an operator that is no bound are those that it gives
when it is taken up alone. A range is made from one bound, or from two on different sides, with the
literals and the strictness of these entries. If at most one bound of the map is on each side, then
all of its bounds are in a single range. -/
theorem operand_ops_placed (setting : Setting) (field : String) (levels : Nat)
    (entries : List (Operator × Value)) (queries : List Query) (warnings : List Warning)
    (done : operand setting field levels (.ops entries) = .done queries warnings) :
    ∃ parts : List Part,
      queries = parts.flatMap (Part.queries field) ∧
      (parts.flatMap Part.places).Perm (List.range entries.length) ∧
      (parts.map Part.place).Pairwise (· < ·) ∧
      (∀ part ∈ parts, part.StandsFor setting (entering setting field levels) field entries) ∧
      parts.filterMap Part.edges? = Edge.together (boundsOf entries) ∧
      (boundsOf entries ≠ [] → ((boundsOf entries).map Edge.side).Nodup →
        ∃ before range after, parts = before ++ range :: after ∧
          range.edges? = some (boundsOf entries) ∧
            ∀ part ∈ before ++ after, part.edges? = none) := by
  rw [operand_eq_operandWith] at done
  obtain ⟨progress, parts, arranged, rfl⟩ := arranged_of_operandWith done
  have grouped := arranged.grouped
  rw [List.take_length] at grouped
  refine ⟨parts, rfl, arranged.placed, arranged.ordered, arranged.given, grouped,
    fun some distinct => ?_⟩
  rw [Edge.together_eq_singleton some distinct] at grouped
  obtain ⟨before, range, after, split, noneBefore, ranged, rest⟩ :=
    List.filterMap_eq_cons_iff.mp grouped
  exact ⟨before, range, after, split, ranged,
    List.forall_mem_append.mpr ⟨noneBefore, List.filterMap_eq_nil_iff.mp rest⟩⟩

/-- Bounds around a range from an equality, around a negated range and around a list: both are in
one range, which stands where the first of them does. -/
theorem operand_ops_placed_of_interleaved :
    let number (value : Int) : Value := .scalar (.int value)
    let given : Interval := ⟨.included (.int 0), .unbounded⟩
    let entries : List (Operator × Value) :=
      [(.equal, .interval given), (.greater, number 1), (.negation, .map [(.op .less, number 3)]),
        (.oneOf, .list [number 5, number 7]), (.lessOrEqual, number 9)]
    let queries :=
      [Query.test "n" (.range given),
        Query.test "n" (.range ⟨.excluded (.int 1), .included (.int 9)⟩),
        Query.testNot "n" (.range ⟨.unbounded, .excluded (.int 3)⟩),
        Query.test "n" (.termSet .any [.int 5, .int 7])]
    operand ⟨.empty, ⟨fun _ => true⟩, 1⟩ "n" 1 (.ops entries) = .done queries [] ∧
      ∃ before range after,
        queries = (before ++ range :: after).flatMap (Part.queries "n") ∧
          ((before ++ range :: after).flatMap Part.places).Perm [0, 1, 2, 3, 4] ∧
            range.edges? = some [⟨.lower, true, .int 1⟩, ⟨.upper, false, .int 9⟩] := by
  intro number given entries queries
  have resolved : operand ⟨.empty, ⟨fun _ => true⟩, 1⟩ "n" 1 (.ops entries) = .done queries [] :=
    rfl
  obtain ⟨parts, same, placed, -, -, -, few⟩ :=
    operand_ops_placed ⟨.empty, ⟨fun _ => true⟩, 1⟩ "n" 1 entries queries [] resolved
  obtain ⟨before, range, after, rfl, all, -⟩ := few (List.cons_ne_nil _ _) (by decide)
  exact ⟨resolved, before, range, after, same, placed, all⟩

end Resolve

end SearchFilter
