import SearchFilter.Value
import Mathlib.Data.List.Forall2
import Mathlib.Data.List.Induction

/-!
# First and last occurrences of keys

A specification is built by setting keys one after the other and by collecting pairs, among which
the entries of specifications built before can stand. Whatever way it is built, only the sequence of
the pairs that were set counts. Each key has one entry, the entries stand in the order in which the
keys occur first, and each has the value with which its key occurs last.
-/

namespace SearchFilter

namespace Entries

universe u v
variable {α : Type u} {β : Type v}

/-- The keys in the order of their first occurrences, each of them once. -/
def firsts (pairs : List (String × α)) : List String := (keys pairs).eraseDups

/-- The value of the last pair with a key. -/
def last? (key : String) (pairs : List (String × α)) : Option α := find? key pairs.reverse

/-! ### One more pair -/

/-- The keys of pairs put together are put together. -/
theorem keys_append (pairs others : List (String × α)) :
    keys (pairs ++ others) = keys pairs ++ keys others :=
  List.map_append

/-- The keys in order of first occurrence are the keys that occur. -/
theorem mem_firsts_iff (key : String) (pairs : List (String × α)) :
    key ∈ firsts pairs ↔ key ∈ keys pairs :=
  List.mem_eraseDups

/-- A further pair adds its key at the end, unless the key occurred before. -/
theorem firsts_concat (pairs : List (String × α)) (pair : String × α) :
    firsts (pairs ++ [pair]) =
      if pair.1 ∈ firsts pairs then firsts pairs else firsts pairs ++ [pair.1] := by
  have added : firsts (pairs ++ [pair]) =
      firsts pairs ++ ([pair.1].removeAll (keys pairs)).eraseDups := by
    rw [firsts, keys_append, List.eraseDups_append]
    rfl
  rw [added]
  simp only [mem_firsts_iff]
  split
  · rename_i occurred
    simp [List.removeAll, occurred]
  · rename_i isNew
    simp [List.removeAll, isNew, List.eraseDups_cons]

/-- A further pair gives its key a new last value and leaves those of the others. -/
theorem last?_concat (key : String) (pairs : List (String × α)) (pair : String × α) :
    last? key (pairs ++ [pair]) = if pair.1 = key then some pair.2 else last? key pairs := by
  rw [last?, List.reverse_append, List.reverse_singleton, List.singleton_append, find?]
  rfl

/-- One more pair at the end is one more key set. -/
theorem ofPairs_concat (pairs : List (String × α)) (pair : String × α) :
    ofPairs (pairs ++ [pair]) = put pair.1 pair.2 (ofPairs pairs) := by
  rw [ofPairs, putAll, List.foldl_append]
  rfl

/-! ### All pairs -/

/-- The keys of a collection, by induction on the pairs from the last one. -/
theorem keys_ofPairs (pairs : List (String × α)) : keys (ofPairs pairs) = firsts pairs := by
  induction pairs using List.reverseRecOn with
  | nil => rfl
  | append_singleton pairs pair inductionHypothesis =>
    rw [ofPairs_concat, keys_put, inductionHypothesis, firsts_concat]

/-- The values of a collection, by induction on the pairs from the last one. -/
theorem find?_ofPairs (key : String) (pairs : List (String × α)) :
    find? key (ofPairs pairs) = last? key pairs := by
  induction pairs using List.reverseRecOn with
  | nil => rfl
  | append_singleton pairs pair inductionHypothesis =>
    rw [ofPairs_concat, find?_put, inductionHypothesis, last?_concat]

/-- Of two keys the one that occurs first in the pairs is the one whose first occurrence is before
that of the other. -/
theorem pairwise_firsts (pairs : List (String × α)) :
    (firsts pairs).Pairwise fun earlier later =>
      (keys pairs).idxOf earlier < (keys pairs).idxOf later := by
  induction pairs using List.reverseRecOn with
  | nil => exact .nil
  | append_singleton pairs pair inductionHypothesis =>
    have before (key : String) (occurs : key ∈ firsts pairs) :
        (keys (pairs ++ [pair])).idxOf key = (keys pairs).idxOf key := by
      rw [keys_append, List.idxOf_append_of_mem ((mem_firsts_iff key pairs).mp occurs)]
    have kept : (firsts pairs).Pairwise fun earlier later =>
        (keys (pairs ++ [pair])).idxOf earlier < (keys (pairs ++ [pair])).idxOf later := by
      refine inductionHypothesis.imp_of_mem fun {earlier later} occurs follows precedes => ?_
      rwa [before earlier occurs, before later follows]
    rw [firsts_concat]
    split
    · exact kept
    · rename_i isNew
      refine List.pairwise_append.mpr ⟨kept, List.pairwise_singleton _ _, ?_⟩
      intro earlier occurs later isLast
      obtain rfl := List.mem_singleton.mp isLast
      have absent : pair.1 ∉ keys pairs := fun member =>
        isNew ((mem_firsts_iff pair.1 pairs).mpr member)
      rw [before earlier occurs, keys_append, List.idxOf_append_of_notMem absent]
      have bounded : (keys pairs).idxOf earlier < (keys pairs).length :=
        List.idxOf_lt_length_iff.mpr ((mem_firsts_iff earlier pairs).mp occurs)
      omega

/-- The keys of reversed pairs are the reversed keys. -/
theorem keys_reverse (pairs : List (String × α)) : keys pairs.reverse = (keys pairs).reverse :=
  List.map_reverse

/-- A value is the last of a key if the key does not occur after it. -/
theorem last?_eq_some_iff (key : String) (value : α) (pairs : List (String × α)) :
    last? key pairs = some value ↔
      ∃ before after, pairs = before ++ (key, value) :: after ∧ key ∉ keys after := by
  rw [last?, find?_eq_some_iff]
  constructor
  · rintro ⟨after, before, split, absent⟩
    refine ⟨before.reverse, after.reverse, ?_, ?_⟩
    · rw [← List.reverse_reverse pairs, split]
      simp
    · rwa [keys_reverse, List.mem_reverse]
  · rintro ⟨before, after, rfl, absent⟩
    refine ⟨after.reverse, before.reverse, by simp, ?_⟩
    rwa [keys_reverse, List.mem_reverse]

/-! ### Equal collections -/

/-- Whether two collections hold the same keys in the same order with values that agree. -/
def EachAgrees (agree : α → β → Prop) (entries : List (String × α)) (others : List (String × β)) :
    Prop :=
  List.Forall₂ (fun entry other => entry.1 = other.1 ∧ agree entry.2 other.2) entries others

/-- Entries that agree in key and value one by one are the same entries. -/
theorem eachAgrees_eq_iff (entries others : List (String × α)) :
    EachAgrees Eq entries others ↔ entries = others := by
  rw [← List.forall₂_eq_eq_eq]
  simp only [EachAgrees, Prod.ext_iff]

/-- Entries that agree one by one have the same keys in the same order. -/
theorem EachAgrees.keys {agree : α → β → Prop} {entries : List (String × α)}
    {others : List (String × β)} (each : EachAgrees agree entries others) :
    keys entries = keys others := by
  induction each with
  | nil => rfl
  | cons heads _ inductionHypothesis => exact congrArg₂ List.cons heads.1 inductionHypothesis

/-- Entries that agree one by one give agreeing values for every key, or none on both sides. -/
theorem EachAgrees.find? {agree : α → β → Prop} {entries : List (String × α)}
    {others : List (String × β)} (each : EachAgrees agree entries others) (key : String) :
    Option.Rel agree (find? key entries) (find? key others) := by
  induction each with
  | nil => exact .none
  | cons heads _ inductionHypothesis =>
    obtain ⟨name, agrees⟩ := heads
    rw [Entries.find?, Entries.find?, ← name]
    split
    · exact .some agrees
    · exact inductionHypothesis

/-- Collections with distinct keys agree if their keys and what is found under each key do. -/
theorem eachAgrees_of_find? (agree : α → β → Prop) (entries : List (String × α))
    (others : List (String × β)) (distinct : (keys entries).Nodup)
    (names : keys entries = keys others)
    (found : ∀ key, Option.Rel agree (find? key entries) (find? key others)) :
    EachAgrees agree entries others := by
  induction entries generalizing others with
  | nil =>
    obtain rfl := List.map_eq_nil_iff.mp names.symm
    exact .nil
  | cons entry rest inductionHypothesis =>
    obtain ⟨other, otherRest, rfl, name, restNames⟩ := List.map_eq_cons_iff.mp names.symm
    have sameRest : keys rest = keys otherRest := restNames.symm
    obtain ⟨absent, distinctRest⟩ := List.nodup_cons.mp distinct
    have head : Option.Rel agree (some entry.2) (some other.2) := by
      have atHead := found entry.1
      rwa [find?, if_pos rfl, find?, if_pos name] at atHead
    cases head with
    | some agrees =>
      refine .cons ⟨name.symm, agrees⟩ (inductionHypothesis _ distinctRest sameRest ?_)
      intro key
      by_cases same : entry.1 = key
      · -- The key of the head stands in neither of the rests.
        have inNeither : key ∉ keys rest := same ▸ absent
        rw [(find?_eq_none_iff key rest).mpr inNeither,
          (find?_eq_none_iff key otherRest).mpr (sameRest ▸ inNeither)]
        exact .none
      · have atKey := found key
        rwa [find?, if_neg same, find?, if_neg (name ▸ same)] at atKey

/-- What the pairs leave agrees exactly if the keys occur first in the same order and their last
values agree. -/
theorem eachAgrees_ofPairs_iff (agree : α → β → Prop) (pairs : List (String × α))
    (others : List (String × β)) :
    EachAgrees agree (ofPairs pairs) (ofPairs others) ↔
      firsts pairs = firsts others ∧
        ∀ key, Option.Rel agree (last? key pairs) (last? key others) := by
  simp only [← keys_ofPairs, ← find?_ofPairs]
  refine ⟨fun each => ⟨each.keys, each.find?⟩, ?_⟩
  rintro ⟨names, found⟩
  exact eachAgrees_of_find? agree _ _ (nodup_keys_ofPairs pairs) names found

/-- Two sequences of pairs are collected into the same entries if their keys occur first in the same
order and last with the same values. -/
theorem ofPairs_eq_iff (pairs others : List (String × α)) :
    ofPairs pairs = ofPairs others ↔
      firsts pairs = firsts others ∧ ∀ key, last? key pairs = last? key others := by
  have same (value other : Option α) : Option.Rel Eq value other ↔ value = other := by
    cases value <;> cases other <;> simp
  simp only [← eachAgrees_eq_iff, eachAgrees_ofPairs_iff, same]

/-! ### Pairs collected before -/

/-- What occurs first in two sequences put together: the keys of the first one, then the others. -/
theorem firsts_append (pairs others : List (String × α)) :
    firsts (pairs ++ others) =
      firsts pairs ++ (firsts others).filter fun key => key ∉ firsts pairs := by
  induction others using List.reverseRecOn with
  | nil => simp [firsts, keys]
  | append_singleton others pair inductionHypothesis =>
    rw [← List.append_assoc, firsts_concat, firsts_concat, inductionHypothesis]
    by_cases earlier : pair.1 ∈ firsts pairs <;> by_cases again : pair.1 ∈ firsts others <;>
      simp [earlier, again]

/-- A key that occurs in the second part has its last value from there. -/
theorem last?_append (key : String) (pairs others : List (String × α)) :
    last? key (pairs ++ others) = (last? key others).or (last? key pairs) := by
  rw [last?, List.reverse_append, find?_append]
  rfl

/-- Collecting what was collected changes nothing. -/
theorem ofPairs_ofPairs (pairs : List (String × α)) : ofPairs (ofPairs pairs) = ofPairs pairs :=
  ofPairs_of_nodup _ (nodup_keys_ofPairs pairs)

/-- Parts of a sequence that leave the same can stand for each other. -/
theorem ofPairs_append_congr {pairs others following otherFollowing : List (String × α)}
    (same : ofPairs pairs = ofPairs others)
    (sameFollowing : ofPairs following = ofPairs otherFollowing) :
    ofPairs (pairs ++ following) = ofPairs (others ++ otherFollowing) := by
  obtain ⟨order, values⟩ := (ofPairs_eq_iff _ _).mp same
  obtain ⟨orderFollowing, valuesFollowing⟩ := (ofPairs_eq_iff _ _).mp sameFollowing
  rw [ofPairs_eq_iff]
  simp only [firsts_append, last?_append, order, values, orderFollowing, valuesFollowing,
    implies_true, and_self]

end Entries

namespace FilterSpec

/-! ### Ways to build a specification -/

mutual

/-- A way to build a specification: beginning with no key, by setting keys one by one, and by
collecting pairs. -/
inductive Construction
  | empty
  | insert (start : Construction) (key : String) (value : Value)
  | adding (start : Construction) (key : String) (value : Value)
  | collect (source : Source)

/-- Where the pairs that are collected come from: they are given one by one or are the entries of
specifications built before, in any mixture. -/
inductive Source
  | empty
  | pair (key : String) (value : Value) (rest : Source)
  | entries (built : Construction) (rest : Source)

end

mutual

/-- The specification that is built. -/
def Construction.build : Construction → FilterSpec
  | .empty => .empty
  | .insert start key value => start.build.insert key value
  | .adding start key value => start.build.adding key value
  | .collect source => .ofPairs source.given

/-- The pairs that are collected. -/
def Source.given : Source → List (String × Value)
  | .empty => []
  | .pair key value rest => (key, value) :: rest.given
  | .entries built rest => built.build.entries ++ rest.given

end

mutual

/-- The sequence of all pairs that were ever set, those that went into entries collected again in
the place of these entries. -/
def Construction.pairs : Construction → List (String × Value)
  | .empty => []
  | .insert start key value => start.pairs ++ [(key, value)]
  | .adding start key value => start.pairs ++ [(key, value)]
  | .collect source => source.pairs

/-- All pairs that a source gives, with the entries of a specification built before taken back to
the pairs that it was built from. -/
def Source.pairs : Source → List (String × Value)
  | .empty => []
  | .pair key value rest => (key, value) :: rest.pairs
  | .entries built rest => built.pairs ++ rest.pairs

end

/-- A specification is its entries. That their keys are distinct adds nothing to be told apart. -/
theorem entries_injective {spec other : FilterSpec} (same : spec.entries = other.entries) :
    spec = other := by
  obtain ⟨entries, distinct⟩ := spec
  obtain rfl := same
  rfl

mutual

/-- A specification holds what its pairs leave, by induction on the way it is built. -/
theorem Construction.entries_build (construction : Construction) :
    construction.build.entries = Entries.ofPairs construction.pairs := by
  match construction with
  | .empty => rfl
  | .insert start key value | .adding start key value =>
    have before := start.entries_build
    rw [Construction.pairs, Entries.ofPairs_concat, ← before]
    rfl
  | .collect source => exact source.ofPairs_given

/-- Collecting the entries of a specification built before is collecting the pairs that it was built
from. -/
theorem Source.ofPairs_given (source : Source) :
    Entries.ofPairs source.given = Entries.ofPairs source.pairs := by
  match source with
  | .empty => rfl
  | .pair key value rest =>
    exact Entries.ofPairs_append_congr (Eq.refl (Entries.ofPairs [(key, value)]))
      rest.ofPairs_given
  | .entries built rest =>
    have collected : Entries.ofPairs built.build.entries = Entries.ofPairs built.pairs := by
      rw [built.entries_build, Entries.ofPairs_ofPairs]
    exact Entries.ofPairs_append_congr collected rest.ofPairs_given

end

/-- Whatever way a specification is built, its keys are distinct and are those that were set, in the
order in which they occur first, and each has the value with which it occurs last. Collecting its
own entries gives the specification again. What was built in two ways is the same exactly if the
keys occur first in the same order and have the same last values; and whatever it is for values to
agree, the entries agree one by one exactly if the keys occur first in the same order and their last
values agree. -/
theorem built_keeps_firsts_and_lasts (construction : Construction) :
    let spec := construction.build
    let pairs := construction.pairs
    (Entries.keys spec.entries).Nodup ∧
      (∀ key, key ∈ Entries.keys spec.entries ↔ key ∈ Entries.keys pairs) ∧
      (Entries.keys spec.entries).Pairwise (fun earlier later =>
        (Entries.keys pairs).idxOf earlier < (Entries.keys pairs).idxOf later) ∧
      (∀ key value, (key, value) ∈ spec.entries ↔
        ∃ before after, pairs = before ++ (key, value) :: after ∧ key ∉ Entries.keys after) ∧
      ofPairs spec.entries = spec ∧
      (∀ other : Construction, spec = other.build ↔
        Entries.firsts pairs = Entries.firsts other.pairs ∧
          ∀ key, Entries.last? key pairs = Entries.last? key other.pairs) ∧
      ∀ (agree : Value → Value → Prop) (other : Construction),
        Entries.EachAgrees agree spec.entries other.build.entries ↔
          Entries.firsts pairs = Entries.firsts other.pairs ∧
            ∀ key, Option.Rel agree (Entries.last? key pairs) (Entries.last? key other.pairs) := by
  intro spec pairs
  have holds : spec.entries = Entries.ofPairs pairs := construction.entries_build
  have names : Entries.keys spec.entries = Entries.firsts pairs := by
    rw [holds, Entries.keys_ofPairs]
  refine ⟨spec.distinct, ?_, ?_, ?_, ?_, ?_, ?_⟩
  · intro key
    rw [names, Entries.mem_firsts_iff]
  · rw [names]
    exact Entries.pairwise_firsts pairs
  · intro key value
    rw [Entries.mem_iff_find?_eq_some key value _ spec.distinct, holds, Entries.find?_ofPairs,
      Entries.last?_eq_some_iff]
  · exact entries_injective (Entries.ofPairs_of_nodup _ spec.distinct)
  · intro other
    rw [← Entries.ofPairs_eq_iff, ← other.entries_build, ← holds]
    exact ⟨congrArg entries, entries_injective⟩
  · intro agree other
    rw [← Entries.eachAgrees_ofPairs_iff, ← other.entries_build, ← holds]

/-- A key that is set again keeps its place, also after its first value was collected. -/
example :
    let number (value : Int) : Value := .scalar (.int value)
    let first : Construction := (Construction.empty.adding "a" (number 1)).adding "b" (number 2)
    let again := Construction.collect (.pair "c" (number 3) (.entries first .empty))
    (again.insert "a" (number 4)).build.entries =
      [("c", number 3), ("a", number 4), ("b", number 2)] := rfl

end FilterSpec

end SearchFilter
