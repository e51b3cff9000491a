/-!
# Finite maps from names

A map keeps its entries strictly ordered by name, so two maps with the same entries are equal
and whatever is listed from a map comes out in one order. Names are compared character by
character, by code point.
-/

set_option autoImplicit false

namespace BlockLanguage

structure NameMap (α : Type) where
  entries : List (String × α)
  ordered : (entries.map Prod.fst).Pairwise (· < ·) := by decide
  deriving DecidableEq

namespace NameMap

variable {α : Type}

def empty : NameMap α := ⟨[], .nil⟩

instance : Inhabited (NameMap α) := ⟨empty⟩

def names (map : NameMap α) : List String :=
  map.entries.map Prod.fst

def size (map : NameMap α) : Nat :=
  map.entries.length

def get? (map : NameMap α) (name : String) : Option α :=
  map.entries.lookup name

def contains (map : NameMap α) (name : String) : Bool :=
  (map.get? name).isSome

/-- Puts an entry at its place in an ordered list, over an entry of the same name. -/
def insertEntry (name : String) (value : α) : List (String × α) → List (String × α)
  | [] => [(name, value)]
  | entry :: rest =>
    if name < entry.1 then (name, value) :: entry :: rest
    else if name = entry.1 then (name, value) :: rest
    else entry :: insertEntry name value rest

theorem mem_names_insertEntry {name : String} {value : α} {entries : List (String × α)}
    {other : String} (member : other ∈ (insertEntry name value entries).map Prod.fst) :
    other = name ∨ other ∈ entries.map Prod.fst := by
  induction entries with
  | nil => simpa [insertEntry] using member
  | cons entry rest ih =>
      unfold insertEntry at member
      split at member
      · simpa using member
      · split at member
        · simp only [List.map_cons, List.mem_cons] at member ⊢
          rcases member with same | inRest
          · exact .inl same
          · exact .inr (.inr inRest)
        · simp only [List.map_cons, List.mem_cons] at member ⊢
          rcases member with same | inRest
          · exact .inr (.inl same)
          · exact (ih inRest).imp_right .inr

theorem ordered_insertEntry (name : String) (value : α) (entries : List (String × α))
    (ordered : (entries.map Prod.fst).Pairwise (· < ·)) :
    ((insertEntry name value entries).map Prod.fst).Pairwise (· < ·) := by
  induction entries with
  | nil => simp [insertEntry]
  | cons entry rest ih =>
      rw [List.map_cons, List.pairwise_cons] at ordered
      unfold insertEntry
      split
      case isTrue less =>
        simp only [List.map_cons, List.pairwise_cons]
        refine ⟨fun other member => ?_, ordered⟩
        rcases List.mem_cons.mp member with rfl | member
        · exact less
        · exact String.lt_trans less (ordered.1 other member)
      case isFalse notLess =>
        split
        case isTrue same =>
          subst same
          simpa only [List.map_cons, List.pairwise_cons] using ordered
        case isFalse different =>
          simp only [List.map_cons, List.pairwise_cons]
          refine ⟨fun other member => ?_, ih ordered.2⟩
          rcases mem_names_insertEntry member with rfl | member
          · exact Std.lt_of_le_of_ne (String.not_lt.mp notLess) (Ne.symm different)
          · exact ordered.1 other member

/-- Holds the value under the name, in place of any value held there before. -/
def insert (map : NameMap α) (name : String) (value : α) : NameMap α :=
  ⟨insertEntry name value map.entries, ordered_insertEntry name value map.entries map.ordered⟩

def erase (map : NameMap α) (name : String) : NameMap α :=
  ⟨map.entries.filter (·.1 != name),
    map.ordered.sublist (List.filter_sublist.map Prod.fst)⟩

/-- The map of the listed entries. Of entries with one name the last one counts. -/
def ofList (entries : List (String × α)) : NameMap α :=
  entries.foldl (fun map entry => map.insert entry.1 entry.2) empty

theorem lookup_cons_eq_ite (name : String) (entry : String × α) (rest : List (String × α)) :
    (entry :: rest).lookup name = if name = entry.1 then some entry.2 else rest.lookup name := by
  obtain ⟨first, value⟩ := entry
  by_cases here : name = first
  · simp [here]
  · simp [List.lookup_cons, beq_eq_false_iff_ne.mpr here, here]

theorem lookup_insertEntry (name other : String) (value : α) (entries : List (String × α)) :
    (insertEntry name value entries).lookup other =
      if other = name then some value else entries.lookup other := by
  induction entries with
  | nil => rw [insertEntry, lookup_cons_eq_ite]
  | cons entry rest ih =>
      unfold insertEntry
      split
      · rw [lookup_cons_eq_ite]
      · split
        case isTrue equal =>
          by_cases same : other = name <;> simp [lookup_cons_eq_ite, same, ← equal]
        case isFalse different =>
          by_cases same : other = name
          · subst same
            simpa [lookup_cons_eq_ite, different] using ih
          · simp [lookup_cons_eq_ite, ih, same]

theorem lookup_filter_ne (name other : String) (entries : List (String × α)) :
    (entries.filter (·.1 != name)).lookup other =
      if other = name then none else entries.lookup other := by
  induction entries with
  | nil => simp
  | cons entry rest ih =>
      by_cases here : entry.1 = name
      · by_cases same : other = name
        · simpa [here, same] using ih
        · simpa [lookup_cons_eq_ite, here, same] using ih
      · by_cases same : other = name
        · subst same
          have apart : other ≠ entry.1 := fun equal => here equal.symm
          simpa [lookup_cons_eq_ite, here, apart] using ih
        · simp only [same, if_false] at ih
          simp [lookup_cons_eq_ite, here, same, ih]

/-- A map holds what was inserted last under a name. -/
theorem get?_insert (map : NameMap α) (name other : String) (value : α) :
    (map.insert name value).get? other = if other = name then some value else map.get? other :=
  lookup_insertEntry name other value map.entries

/-- What is erased is no longer held, and all else is. -/
theorem get?_erase (map : NameMap α) (name other : String) :
    (map.erase name).get? other = if other = name then none else map.get? other :=
  lookup_filter_ne name other map.entries

private theorem lookup_eq_none_of_lt {name : String} {entries : List (String × α)}
    (before : ∀ other ∈ entries.map Prod.fst, name < other) : entries.lookup name = none := by
  rw [List.lookup_eq_none_iff]
  intro entry member
  have less := before entry.1 (List.mem_map_of_mem member)
  exact bne_iff_ne.mpr fun equal => String.lt_irrefl name (equal ▸ less)

private theorem lookup_head_eq_none {left right : String × α} {rest : List (String × α)}
    (less : left.1 < right.1)
    (before : ∀ other ∈ rest.map Prod.fst, right.1 < other) :
    (right :: rest).lookup left.1 = none := by
  refine lookup_eq_none_of_lt fun other member => ?_
  rcases List.mem_cons.mp member with rfl | member
  · exact less
  · exact String.lt_trans less (before other member)

private theorem entries_eq_of_lookup {left right : List (String × α)}
    (leftOrdered : (left.map Prod.fst).Pairwise (· < ·))
    (rightOrdered : (right.map Prod.fst).Pairwise (· < ·))
    (same : ∀ name, left.lookup name = right.lookup name) : left = right := by
  induction left generalizing right with
  | nil =>
      cases right with
      | nil => rfl
      | cons entry rest => simpa [lookup_cons_eq_ite] using same entry.1
  | cons leftEntry leftRest ih =>
      cases right with
      | nil => simpa [lookup_cons_eq_ite] using same leftEntry.1
      | cons rightEntry rightRest =>
          rw [List.map_cons, List.pairwise_cons] at leftOrdered rightOrdered
          have heads : leftEntry.1 = rightEntry.1 := by
            refine Decidable.byContradiction fun different => ?_
            by_cases less : leftEntry.1 < rightEntry.1
            · have found := same leftEntry.1
              rw [lookup_head_eq_none less rightOrdered.1] at found
              simp [lookup_cons_eq_ite] at found
            · have found := same rightEntry.1
              have greater := Std.lt_of_le_of_ne (String.not_lt.mp less) (Ne.symm different)
              rw [lookup_head_eq_none greater leftOrdered.1] at found
              simp [lookup_cons_eq_ite] at found
          have values : leftEntry.2 = rightEntry.2 := by
            simpa [lookup_cons_eq_ite, heads] using same leftEntry.1
          have rests : leftRest = rightRest := by
            refine ih leftOrdered.2 rightOrdered.2 fun name => ?_
            by_cases here : name = leftEntry.1
            · subst here
              rw [lookup_eq_none_of_lt leftOrdered.1,
                lookup_eq_none_of_lt (heads ▸ rightOrdered.1)]
            · simpa [lookup_cons_eq_ite, here, heads ▸ here] using same name
          rw [Prod.ext heads values, rests]

/-- Maps that hold the same values under the same names are equal. -/
theorem ext_get? {left right : NameMap α}
    (same : ∀ name, left.get? name = right.get? name) : left = right := by
  rcases left with ⟨leftEntries, leftOrdered⟩
  rcases right with ⟨rightEntries, rightOrdered⟩
  have entries := entries_eq_of_lookup leftOrdered rightOrdered same
  subst entries
  rfl

end NameMap

end BlockLanguage
