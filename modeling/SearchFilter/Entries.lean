/-!
# Keyed entries in order of first appearance

A keyed collection whose order is part of its meaning is a list of pairs. Setting a key that is
already there replaces its value in place; setting a new one appends it. Collections built this way
never hold a key twice (`nodup_keys_ofPairs`), and a key is looked up at its only entry.
-/

namespace SearchFilter.Entries

universe u
variable {α : Type u}

/-- The keys in order, one for each entry. -/
def keys (entries : List (String × α)) : List String := entries.map Prod.fst

/-- Sets a key: its first entry takes the value and keeps its place; without one the entry goes to
the end. -/
def put (key : String) (value : α) : List (String × α) → List (String × α)
  | [] => [(key, value)]
  | (name, old) :: rest =>
    if name = key then (name, value) :: rest else (name, old) :: put key value rest

/-- The value at the first entry of a key. -/
def find? (key : String) : List (String × α) → Option α
  | [] => none
  | (name, value) :: rest => if name = key then some value else find? key rest

/-- Sets the pairs one after the other, beginning with the given entries. -/
def putAll (entries : List (String × α)) (pairs : List (String × α)) : List (String × α) :=
  pairs.foldl (fun entries pair => put pair.1 pair.2 entries) entries

/-- Collects pairs, a repeated key keeping its first place and its last value. -/
def ofPairs (pairs : List (String × α)) : List (String × α) := putAll [] pairs

/-- Setting a key adds it to the keys only if it was not among them. -/
theorem keys_put (key : String) (value : α) (entries : List (String × α)) :
    keys (put key value entries) =
      if key ∈ keys entries then keys entries else keys entries ++ [key] := by
  induction entries with
  | nil => simp [keys, put]
  | cons entry rest inductionHypothesis =>
    obtain ⟨name, old⟩ := entry
    by_cases same : name = key
    · simp [keys, put, same]
    · have different : ¬key = name := fun equal => same equal.symm
      simp only [keys] at inductionHypothesis
      simp only [keys, put, same, if_false, List.map_cons, inductionHypothesis, List.mem_cons,
        different, false_or]
      split <;> simp [*]

/-- A key has a value exactly when it is among the keys. -/
theorem find?_eq_none_iff (key : String) (entries : List (String × α)) :
    find? key entries = none ↔ key ∉ keys entries := by
  induction entries with
  | nil => simp [find?, keys]
  | cons entry rest inductionHypothesis =>
    obtain ⟨name, value⟩ := entry
    simp only [keys] at inductionHypothesis
    by_cases same : name = key
    · simp [find?, keys, same]
    · have different : ¬key = name := fun equal => same equal.symm
      simp only [find?, keys, same, if_false, List.map_cons, List.mem_cons, different, false_or,
        inductionHypothesis]

/-- Of two collections put together the first one is asked first. -/
theorem find?_append (key : String) (entries others : List (String × α)) :
    find? key (entries ++ others) = (find? key entries).or (find? key others) := by
  induction entries with
  | nil => rfl
  | cons entry rest inductionHypothesis =>
    simp only [List.cons_append, find?]
    split
    · rfl
    · exact inductionHypothesis

/-- A key has the value of the first pair with it. -/
theorem find?_eq_some_iff (key : String) (value : α) (entries : List (String × α)) :
    find? key entries = some value ↔
      ∃ before after, entries = before ++ (key, value) :: after ∧ key ∉ keys before := by
  constructor
  · intro found
    induction entries with
    | nil => simp [find?] at found
    | cons entry rest inductionHypothesis =>
      obtain ⟨name, held⟩ := entry
      by_cases same : name = key
      · subst same
        rw [find?, if_pos rfl] at found
        exact ⟨[], rest, Option.some.inj found ▸ rfl, List.not_mem_nil⟩
      · rw [find?, if_neg same] at found
        obtain ⟨before, after, rfl, absent⟩ := inductionHypothesis found
        refine ⟨(name, held) :: before, after, rfl, fun member => ?_⟩
        exact (List.mem_cons.mp member).elim (fun equal => same equal.symm) absent
  · rintro ⟨before, after, rfl, absent⟩
    rw [find?_append, (find?_eq_none_iff key before).mpr absent, find?, if_pos rfl]
    rfl

/-- In a collection with distinct keys, no entry before a given one has its key. -/
theorem key_not_mem_of_nodup (before after : List (String × α)) (entry : String × α)
    (distinct : (keys (before ++ entry :: after)).Nodup) : entry.1 ∉ keys before := by
  intro member
  simp only [keys, List.map_append, List.map_cons] at distinct
  exact (List.nodup_append.mp distinct).2.2 entry.1 member entry.1 List.mem_cons_self rfl

/-- Where keys are distinct a key has the value of its entry, wherever it stands. -/
theorem mem_iff_find?_eq_some (key : String) (value : α) (entries : List (String × α))
    (distinct : (keys entries).Nodup) :
    (key, value) ∈ entries ↔ find? key entries = some value := by
  rw [find?_eq_some_iff]
  constructor
  · intro member
    obtain ⟨before, after, rfl⟩ := List.append_of_mem member
    exact ⟨before, after, rfl, key_not_mem_of_nodup before after (key, value) distinct⟩
  · rintro ⟨before, after, rfl, -⟩
    exact List.mem_append_right before List.mem_cons_self

/-- After a key was set it has the new value, and every other key the value it had. -/
theorem find?_put (wanted key : String) (value : α) (entries : List (String × α)) :
    find? wanted (put key value entries) =
      if key = wanted then some value else find? wanted entries := by
  induction entries with
  | nil => rfl
  | cons entry rest inductionHypothesis =>
    obtain ⟨name, old⟩ := entry
    by_cases same : name = key
    · subst same
      by_cases found : name = wanted
      · simp [put, find?, found]
      · simp [put, find?, found]
    · simp only [put, same, if_false, find?, inductionHypothesis]
      by_cases found : name = wanted
      · have other : ¬key = wanted := fun equal => same (found.trans equal.symm)
        simp [found, other]
      · simp [found]

/-- Distinct keys stay distinct. -/
theorem nodup_keys_put (key : String) (value : α) (entries : List (String × α))
    (distinct : (keys entries).Nodup) : (keys (put key value entries)).Nodup := by
  rw [keys_put]
  split
  · exact distinct
  · rename_i absent
    rw [List.nodup_append]
    refine ⟨distinct, by simp, ?_⟩
    intro name member other otherMember same
    exact absent (by simp_all)

/-- Setting keys one by one keeps the keys of a collection distinct, whatever pairs are set. -/
theorem nodup_keys_putAll (entries pairs : List (String × α)) (distinct : (keys entries).Nodup) :
    (keys (putAll entries pairs)).Nodup := by
  induction pairs generalizing entries with
  | nil => exact distinct
  | cons pair rest inductionHypothesis =>
    exact inductionHypothesis _ (nodup_keys_put pair.1 pair.2 entries distinct)

/-- A collection built from pairs holds every key once. -/
theorem nodup_keys_ofPairs (pairs : List (String × α)) : (keys (ofPairs pairs)).Nodup :=
  nodup_keys_putAll [] pairs List.nodup_nil

/-- Setting a key that is not there appends an entry for it. -/
theorem put_of_not_mem (key : String) (value : α) (entries : List (String × α))
    (absent : key ∉ keys entries) : put key value entries = entries ++ [(key, value)] := by
  induction entries with
  | nil => rfl
  | cons entry rest inductionHypothesis =>
    obtain ⟨different, absentLater⟩ := not_or.mp (mt List.mem_cons.mpr absent)
    have distinct : ¬entry.1 = key := fun same => different same.symm
    simp [put, distinct, inductionHypothesis absentLater]

/-- Pairs whose keys are new and distinct are appended as they are. -/
theorem putAll_of_nodup (entries pairs : List (String × α))
    (distinct : (keys (entries ++ pairs)).Nodup) : putAll entries pairs = entries ++ pairs := by
  induction pairs generalizing entries with
  | nil => rw [List.append_nil]; rfl
  | cons pair rest inductionHypothesis =>
    have absent : pair.1 ∉ keys entries := key_not_mem_of_nodup entries rest pair distinct
    have appended : entries ++ pair :: rest = entries ++ [pair] ++ rest := by simp
    rw [appended] at distinct ⊢
    rw [← inductionHypothesis _ distinct, putAll, List.foldl_cons, put_of_not_mem _ _ _ absent]
    rfl

/-- Pairs with distinct keys are collected as they are. -/
theorem ofPairs_of_nodup (pairs : List (String × α)) (distinct : (keys pairs).Nodup) :
    ofPairs pairs = pairs :=
  putAll_of_nodup [] pairs distinct

end SearchFilter.Entries
