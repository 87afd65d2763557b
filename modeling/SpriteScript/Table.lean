import SpriteScript.Text.Basic

/-!
# Tables in order of first entry

A table maps names to values and remembers the order in which the names first came. Entering a
name again changes its value and leaves its place, so no name occurs twice.
-/

namespace SpriteScript

/-- Gives `key` a value: in place if the key is there, at the end if it is new. -/
def upsert {α : Type} (key : Text) (value : α) : List (Text × α) → List (Text × α)
  | [] => [(key, value)]
  | (other, old) :: rest =>
    if other = key then (key, value) :: rest else (other, old) :: upsert key value rest

/-- Entering a name adds it to the names and takes none away. -/
theorem mem_keys_upsert {α : Type} (key : Text) (value : α) (entries : List (Text × α))
    (name : Text) :
    name ∈ (upsert key value entries).map Prod.fst ↔ name = key ∨ name ∈ entries.map Prod.fst := by
  induction entries with
  | nil => simp [upsert]
  | cons entry rest inductionHypothesis =>
    obtain ⟨other, old⟩ := entry
    by_cases same : other = key
    · simp only [upsert, same, ↓reduceIte, List.map_cons, List.mem_cons]
      grind
    · simp only [upsert, same, ↓reduceIte, List.map_cons, List.mem_cons, inductionHypothesis]
      grind

/-- Entering a name leaves the names distinct, because one that is there keeps its entry. -/
theorem nodup_keys_upsert {α : Type} (key : Text) (value : α) (entries : List (Text × α))
    (distinct : (entries.map Prod.fst).Nodup) :
    ((upsert key value entries).map Prod.fst).Nodup := by
  induction entries with
  | nil => simp [upsert]
  | cons entry rest inductionHypothesis =>
    obtain ⟨other, old⟩ := entry
    simp only [List.map_cons, List.nodup_cons] at distinct
    by_cases same : other = key
    · subst same
      simpa [upsert] using distinct
    · simp only [upsert, same, ↓reduceIte, List.map_cons, List.nodup_cons]
      refine ⟨?_, inductionHypothesis distinct.2⟩
      rw [mem_keys_upsert]
      rintro (equal | member)
      · exact same equal
      · exact distinct.1 member

/-- A name that is new is entered at the end. -/
theorem upsert_new {α : Type} {key : Text} (value : α) {entries : List (Text × α)}
    (new : key ∉ entries.map Prod.fst) : upsert key value entries = entries ++ [(key, value)] := by
  induction entries with
  | nil => rfl
  | cons entry rest inductionHypothesis =>
    obtain ⟨other, old⟩ := entry
    simp only [List.map_cons, List.mem_cons, not_or] at new
    rw [upsert, if_neg (Ne.symm new.1), inductionHypothesis new.2]
    rfl

/-- A name that is there is given its value in place. -/
theorem upsert_old {α : Type} {key : Text} (value : α) {entries : List (Text × α)}
    (distinct : (entries.map Prod.fst).Nodup) (present : key ∈ entries.map Prod.fst) :
    upsert key value entries =
      entries.map fun entry => if entry.1 = key then (key, value) else entry := by
  induction entries with
  | nil => simp at present
  | cons entry rest inductionHypothesis =>
    obtain ⟨other, old⟩ := entry
    simp only [List.map_cons, List.nodup_cons] at distinct
    by_cases same : other = key
    · subst same
      have others : ∀ entry ∈ rest, (if entry.1 = other then (other, value) else entry) = entry := by
        intro entry member
        refine if_neg fun equal => distinct.1 ?_
        exact List.mem_map.mpr ⟨entry, member, equal⟩
      simp [upsert, List.map_congr_left others]
    · have later : key ∈ rest.map Prod.fst := by simpa [Ne.symm same] using present
      simp [upsert, same, inductionHypothesis distinct.2 later]

/-- Of two values for a name only the later one is kept. -/
theorem upsert_upsert {α : Type} (key : Text) (value old : α) (entries : List (Text × α)) :
    upsert key value (upsert key old entries) = upsert key value entries := by
  induction entries with
  | nil => simp [upsert]
  | cons entry rest inductionHypothesis =>
    obtain ⟨other, stored⟩ := entry
    by_cases same : other = key
    · simp [upsert, same]
    · simp only [upsert, same, ↓reduceIte, inductionHypothesis]

/-- A name that has its place can be given a value before or after another name. -/
theorem upsert_comm {α : Type} {key other : Text} (value entered : α)
    {entries : List (Text × α)} (different : other ≠ key)
    (present : key ∈ entries.map Prod.fst) :
    upsert key value (upsert other entered entries) =
      upsert other entered (upsert key value entries) := by
  induction entries with
  | nil => simp at present
  | cons entry rest inductionHypothesis =>
    obtain ⟨first, stored⟩ := entry
    by_cases here : first = key
    · subst here
      simp [upsert, different.symm]
    · have later : key ∈ rest.map Prod.fst := by
        simpa [Ne.symm here] using present
      by_cases there : first = other
      · subst there
        simp [upsert, here]
      · simp only [upsert, here, there, ↓reduceIte, inductionHypothesis later]

/-- Names with values, in the order in which the names first came. -/
structure Table (α : Type) where
  entries : List (Text × α)
  distinct : (entries.map Prod.fst).Nodup

namespace Table

variable {α : Type}

/-- The table without names. -/
def empty : Table α := ⟨[], List.Pairwise.nil⟩

instance : Inhabited (Table α) := ⟨empty⟩

/-- Gives a name a value; a name that is there keeps its place. -/
def insert (table : Table α) (key : Text) (value : α) : Table α where
  entries := upsert key value table.entries
  distinct := nodup_keys_upsert key value table.entries table.distinct

/-- Enters pairs one after the other. -/
def insertAll (table : Table α) (pairs : List (Text × α)) : Table α :=
  pairs.foldl (fun table (key, value) => table.insert key value) table

/-- The number of names. -/
def size (table : Table α) : Nat :=
  table.entries.length

/-- A table is given by its entries. -/
theorem eq_of_entries {left right : Table α} (same : left.entries = right.entries) :
    left = right := by
  cases left
  cases right
  cases same
  rfl

/-- Distinct names that are all new are entered in their order. -/
theorem entries_insertAll_new (table : Table α) {pairs : List (Text × α)}
    (distinct : ((table.entries ++ pairs).map Prod.fst).Nodup) :
    (table.insertAll pairs).entries = table.entries ++ pairs := by
  induction pairs generalizing table with
  | nil => simp [insertAll]
  | cons pair rest inductionHypothesis =>
    obtain ⟨key, value⟩ := pair
    have new : key ∉ table.entries.map Prod.fst := by
      intro member
      rw [List.map_append, List.nodup_append] at distinct
      exact distinct.2.2 key member key (by simp) rfl
    have entered : (table.insert key value).entries = table.entries ++ [(key, value)] :=
      upsert_new value new
    have later := inductionHypothesis (table.insert key value)
      (by rw [entered]; simpa using distinct)
    rw [insertAll, List.foldl_cons, ← insertAll, later, entered]
    simp

/-- Entering the entries of a table into the empty one gives the table back. -/
theorem insertAll_entries (table : Table α) : empty.insertAll table.entries = table := by
  have same : (empty.insertAll table.entries).entries = table.entries :=
    empty.entries_insertAll_new table.distinct
  exact eq_of_entries same

/-- A name that has its place can be given a value before or after other names. -/
theorem insertAll_insert_comm (table : Table α) {key : Text} (value : α)
    {pairs : List (Text × α)} (present : key ∈ table.entries.map Prod.fst)
    (absent : key ∉ pairs.map Prod.fst) :
    (table.insertAll pairs).insert key value = (table.insert key value).insertAll pairs := by
  induction pairs generalizing table with
  | nil => rfl
  | cons pair rest inductionHypothesis =>
    obtain ⟨other, entered⟩ := pair
    simp only [List.map_cons, List.mem_cons, not_or] at absent
    have swapped : (table.insert other entered).insert key value =
        (table.insert key value).insert other entered :=
      eq_of_entries (upsert_comm value entered (Ne.symm absent.1) present)
    have kept : key ∈ (table.insert other entered).entries.map Prod.fst :=
      (mem_keys_upsert other entered table.entries key).mpr (.inr present)
    show ((table.insert other entered).insertAll rest).insert key value =
      ((table.insert key value).insert other entered).insertAll rest
    rw [inductionHypothesis _ kept absent.2, swapped]

/-- To enter a table into which a name was entered is to enter the table and then the name. -/
theorem insertAll_insert (table other : Table α) (key : Text) (value : α) :
    table.insertAll (other.insert key value).entries =
      (table.insertAll other.entries).insert key value := by
  obtain ⟨pairs, distinct⟩ := other
  show table.insertAll (upsert key value pairs) = (table.insertAll pairs).insert key value
  induction pairs generalizing table with
  | nil => rfl
  | cons pair rest inductionHypothesis =>
    obtain ⟨first, stored⟩ := pair
    simp only [List.map_cons, List.nodup_cons] at distinct
    by_cases same : first = key
    · subst same
      have replaced : (table.insert first stored).insert first value = table.insert first value :=
        eq_of_entries (upsert_upsert first value stored table.entries)
      have present : first ∈ (table.insert first stored).entries.map Prod.fst :=
        (mem_keys_upsert first stored table.entries first).mpr (.inl rfl)
      rw [upsert, if_pos rfl]
      show (table.insert first value).insertAll rest =
        ((table.insert first stored).insertAll rest).insert first value
      rw [insertAll_insert_comm _ value present distinct.1, replaced]
    · rw [upsert, if_neg same]
      exact inductionHypothesis (table.insert first stored) distinct.2

end Table

end SpriteScript
