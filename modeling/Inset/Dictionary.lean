/-!
# Ordered dictionaries

A dictionary lists its entries in the order in which their keys first came,
and no key comes twice.  Inserting under a key that is already there keeps its
place and replaces its value: `keys_insert` and `get?_insert` say so, and
`keys_ofList` and `get?_ofList` for a whole list.  By `ofList_entries` a
dictionary is found again from its entries.
-/

namespace Inset

/-- Entries under pairwise different keys, in a fixed order. -/
@[ext]
structure Dictionary (α : Type) where
  entries : List (String × α)
  nodup : (entries.map Prod.fst).Nodup := by decide
  deriving DecidableEq

namespace Dictionary

variable {α : Type}

/-- The dictionary without entries. -/
def empty : Dictionary α :=
  ⟨[], List.nodup_nil⟩

instance : Inhabited (Dictionary α) :=
  ⟨empty⟩

/-- The keys in order. -/
def keys (dictionary : Dictionary α) : List String :=
  dictionary.entries.map Prod.fst

/-- The value under a key. -/
def get? (dictionary : Dictionary α) (key : String) : Option α :=
  dictionary.entries.lookup key

/-- Replace the value under a key that is listed, or add the entry at the end. -/
def insertEntry (key : String) (value : α) : List (String × α) → List (String × α)
  | [] => [(key, value)]
  | entry :: rest =>
      if entry.1 = key then (key, value) :: rest
      else entry :: insertEntry key value rest

theorem map_fst_insertEntry (key : String) (value : α) (entries : List (String × α)) :
    (insertEntry key value entries).map Prod.fst =
      if key ∈ entries.map Prod.fst then entries.map Prod.fst
      else entries.map Prod.fst ++ [key] := by
  induction entries with
  | nil => simp [insertEntry]
  | cons entry rest ih =>
      by_cases same : entry.1 = key
      · simp [insertEntry, same]
      · simp only [insertEntry, same, if_false, List.map_cons, ih, List.mem_cons,
          Ne.symm same, false_or]
        split <;> rfl

theorem insertEntry_of_notMem (key : String) (value : α) (entries : List (String × α))
    (absent : key ∉ entries.map Prod.fst) :
    insertEntry key value entries = entries ++ [(key, value)] := by
  induction entries with
  | nil => rfl
  | cons entry rest ih =>
      simp only [List.map_cons, List.mem_cons, not_or] at absent
      simp [insertEntry, Ne.symm absent.1, ih absent.2]

theorem lookup_cons_eq_ite (listed other : String) (value : α) (entries : List (String × α)) :
    ((listed, value) :: entries).lookup other =
      if other = listed then some value else entries.lookup other := by
  by_cases same : other = listed
  · simp [same]
  · simp [List.lookup_cons, same, beq_eq_false_iff_ne.mpr same]

theorem mem_of_lookup {key : String} {value : α} {entries : List (String × α)}
    (found : entries.lookup key = some value) : (key, value) ∈ entries := by
  rcases List.lookup_eq_some_iff.mp found with ⟨front, back, rfl, _⟩
  exact List.mem_append_right front List.mem_cons_self

theorem lookup_insertEntry (key other : String) (value : α) (entries : List (String × α)) :
    (insertEntry key value entries).lookup other =
      if other = key then some value else entries.lookup other := by
  induction entries with
  | nil => simp [insertEntry, lookup_cons_eq_ite]
  | cons entry rest ih =>
      rcases entry with ⟨listed, old⟩
      by_cases same : listed = key
      · by_cases asked : other = key <;> simp [insertEntry, lookup_cons_eq_ite, same, asked]
      · simp only [insertEntry, same, if_false, lookup_cons_eq_ite, ih]
        by_cases first : other = listed
        · simp [first, same]
        · simp [first]

/-- Insert a value under a key: the first place and the last value stay. -/
def insert (dictionary : Dictionary α) (key : String) (value : α) : Dictionary α where
  entries := insertEntry key value dictionary.entries
  nodup := by
    rw [map_fst_insertEntry]
    split
    · exact dictionary.nodup
    · next absent =>
      rw [List.nodup_append]
      refine ⟨dictionary.nodup, by simp, ?_⟩
      intro listed member other equal
      simp only [List.mem_singleton] at equal
      rintro rfl
      exact absent (equal ▸ member)

theorem keys_insert (dictionary : Dictionary α) (key : String) (value : α) :
    (dictionary.insert key value).keys =
      if key ∈ dictionary.keys then dictionary.keys else dictionary.keys ++ [key] :=
  map_fst_insertEntry key value dictionary.entries

theorem get?_insert (dictionary : Dictionary α) (key other : String) (value : α) :
    (dictionary.insert key value).get? other =
      if other = key then some value else dictionary.get? other :=
  lookup_insertEntry key other value dictionary.entries

/-- Insert entries one after the other. -/
def insertAll (dictionary : Dictionary α) (entries : List (String × α)) : Dictionary α :=
  entries.foldl (fun dictionary entry => dictionary.insert entry.1 entry.2) dictionary

/-- The dictionary of a list of entries, later values winning. -/
def ofList (entries : List (String × α)) : Dictionary α :=
  empty.insertAll entries

/-- The new keys are added, each where it comes first. -/
theorem keys_insertAll (dictionary : Dictionary α) (entries : List (String × α)) :
    (dictionary.insertAll entries).keys =
      dictionary.keys ++ ((entries.map Prod.fst).filter (· ∉ dictionary.keys)).eraseDups := by
  induction entries generalizing dictionary with
  | nil => simp [insertAll]
  | cons entry rest ih =>
      have step := ih (dictionary.insert entry.1 entry.2)
      rw [keys_insert] at step
      rw [insertAll, List.foldl_cons, ← insertAll, step, List.map_cons]
      by_cases listed : entry.1 ∈ dictionary.keys
      · rw [if_pos listed, List.filter_cons_of_neg (by simpa using listed)]
      · rw [if_neg listed, List.filter_cons_of_pos (by simpa using listed),
          List.eraseDups_cons, List.append_assoc, List.singleton_append, List.filter_filter]
        simp [Bool.beq_eq_decide_eq, Bool.and_comm]

/-- The keys of the dictionary of a list are the keys listed, each where it comes first. -/
theorem keys_ofList (entries : List (String × α)) :
    (ofList entries).keys = (entries.map Prod.fst).eraseDups := by
  rw [ofList, keys_insertAll, List.filter_eq_self.mpr (by simp [empty, keys])]
  rfl

/-- Under a key stands the last value that is added under it, or what was there before. -/
theorem get?_insertAll (dictionary : Dictionary α) (entries : List (String × α))
    (key : String) :
    (dictionary.insertAll entries).get? key =
      (entries.reverse.lookup key).or (dictionary.get? key) := by
  induction entries generalizing dictionary with
  | nil => rfl
  | cons entry rest ih =>
      have step := ih (dictionary.insert entry.1 entry.2)
      rw [insertAll, List.foldl_cons, ← insertAll, step, get?_insert, List.reverse_cons,
        List.lookup_append, Option.or_assoc]
      congr 1
      rw [lookup_cons_eq_ite, List.lookup_nil]
      split <;> rfl

/-- Under a key of a list stands the last value under it. -/
theorem get?_ofList (entries : List (String × α)) (key : String) :
    (ofList entries).get? key = entries.reverse.lookup key := by
  rw [ofList, get?_insertAll]
  exact Option.or_none

/-- A value stands under a key of a list if every entry under that key has it. -/
theorem get?_ofList_of_forall {entries : List (String × α)} {key : String} {value : α}
    (agreed : ∀ entry ∈ entries, entry.1 = key → entry.2 = value)
    (listed : key ∈ entries.map Prod.fst) : (ofList entries).get? key = some value := by
  rw [get?_ofList]
  cases found : entries.reverse.lookup key with
  | none =>
      rcases List.mem_map.mp listed with ⟨entry, member, rfl⟩
      have other := List.lookup_eq_none_iff.mp found entry (List.mem_reverse.mpr member)
      simp at other
  | some last =>
      have member := List.mem_reverse.mp (mem_of_lookup found)
      exact congrArg some (agreed (key, last) member rfl)

/-- Entries under new and pairwise different keys are added in their order. -/
theorem entries_insertAll (dictionary : Dictionary α) (entries : List (String × α))
    (nodup : ((dictionary.entries ++ entries).map Prod.fst).Nodup) :
    (dictionary.insertAll entries).entries = dictionary.entries ++ entries := by
  induction entries generalizing dictionary with
  | nil => simp [insertAll]
  | cons entry rest ih =>
      have absent : entry.1 ∉ dictionary.entries.map Prod.fst := by
        intro listed
        simp only [List.map_append, List.map_cons] at nodup
        exact (List.nodup_append.mp nodup).2.2 _ listed _ (by simp) rfl
      have inserted : (dictionary.insert entry.1 entry.2).entries =
          dictionary.entries ++ [entry] :=
        insertEntry_of_notMem entry.1 entry.2 dictionary.entries absent
      have step := ih (dictionary.insert entry.1 entry.2) (by
        rw [inserted, List.append_assoc]
        exact nodup)
      rw [inserted, List.append_assoc] at step
      exact step

@[simp]
theorem ofList_entries (dictionary : Dictionary α) :
    ofList dictionary.entries = dictionary := by
  ext1
  exact entries_insertAll empty dictionary.entries dictionary.nodup

end Dictionary

end Inset
