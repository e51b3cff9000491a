import BlockLanguage.NameMap
import Mathlib.Algebra.GroupWithZero.Nat

/-!
# Entries of finite maps

A map holds exactly its entries, and the map of a list without repeated names has exactly the
entries of the list.
-/

set_option autoImplicit false

namespace BlockLanguage.NameMap

variable {α : Type} {map : NameMap α} {name : String} {value : α}
  {entries : List (String × α)}

theorem nodup_names (map : NameMap α) : (map.entries.map Prod.fst).Nodup := by
  refine List.Pairwise.imp ?_ map.ordered
  intro first second less same
  subst same
  exact String.lt_irrefl first less

theorem lookup_eq_none_iff : entries.lookup name = none ↔ name ∉ entries.map Prod.fst := by
  rw [List.lookup_eq_none_iff, List.mem_map, not_exists]
  refine forall_congr' fun entry => ?_
  rw [not_and, bne_iff_ne, ne_comm]

theorem lookup_eq_some_iff (distinct : (entries.map Prod.fst).Nodup) :
    entries.lookup name = some value ↔ (name, value) ∈ entries := by
  induction entries with
  | nil => simp
  | cons entry rest ih =>
      obtain ⟨first, held⟩ := entry
      rw [List.map_cons, List.nodup_cons] at distinct
      rw [lookup_cons_eq_ite, List.mem_cons]
      split
      case isTrue here =>
        obtain rfl : name = first := here
        have notLater : (name, value) ∉ rest := fun member =>
          distinct.1 (List.mem_map.mpr ⟨_, member, rfl⟩)
        simp only [notLater, or_false, Option.some.injEq, Prod.mk.injEq, true_and]
        exact eq_comm
      case isFalse elsewhere =>
        have notHere : (name, value) ≠ (first, held) := fun same => elsewhere (Prod.mk.inj same).1
        rw [ih distinct.2, or_iff_right notHere]

theorem get?_eq_some_iff : map.get? name = some value ↔ (name, value) ∈ map.entries :=
  lookup_eq_some_iff map.nodup_names

theorem contains_eq_false_iff : map.contains name = false ↔ map.get? name = none := by
  rw [contains, Option.isSome_eq_false_iff, Option.isNone_iff_eq_none]

theorem contains_insert_eq_false_iff {other : String} :
    (map.insert other value).contains name = false ↔ name ≠ other ∧ map.contains name = false := by
  rw [contains_eq_false_iff, contains_eq_false_iff, get?_insert]
  split
  case isTrue same => simp [same]
  case isFalse different => simp [different]

/-- The map with all the listed entries put in, one after the other. -/
def insertAll (map : NameMap α) (entries : List (String × α)) : NameMap α :=
  entries.foldl (fun map entry => map.insert entry.1 entry.2) map

theorem ofList_eq (entries : List (String × α)) : ofList entries = empty.insertAll entries := rfl

theorem insertAll_cons (map : NameMap α) (entry : String × α) (entries : List (String × α)) :
    map.insertAll (entry :: entries) = (map.insert entry.1 entry.2).insertAll entries := rfl

theorem ofList_append_singleton (entries : List (String × α)) (name : String) (value : α) :
    ofList (entries ++ [(name, value)]) = (ofList entries).insert name value :=
  List.foldl_append

theorem get?_insertAll (distinct : (entries.map Prod.fst).Nodup) (map : NameMap α)
    (name : String) :
    (map.insertAll entries).get? name = (entries.lookup name).or (map.get? name) := by
  induction entries generalizing map with
  | nil => rfl
  | cons entry rest ih =>
      rw [List.map_cons, List.nodup_cons] at distinct
      rw [insertAll_cons, ih distinct.2, get?_insert, lookup_cons_eq_ite]
      split
      case isTrue here =>
        subst here
        rw [lookup_eq_none_iff.mpr distinct.1, Option.none_or, Option.some_or]
      case isFalse => rfl

theorem get?_ofList (distinct : (entries.map Prod.fst).Nodup) (name : String) :
    (ofList entries).get? name = entries.lookup name := by
  have emptyHolds : (empty : NameMap α).get? name = none := rfl
  rw [ofList_eq, get?_insertAll distinct, emptyHolds, Option.or_none]

/-- No entry is lost or made up where no name is repeated. -/
theorem mem_entries_ofList_iff (distinct : (entries.map Prod.fst).Nodup)
    {entry : String × α} : entry ∈ (ofList entries).entries ↔ entry ∈ entries := by
  obtain ⟨name, value⟩ := entry
  rw [← get?_eq_some_iff, get?_ofList distinct, lookup_eq_some_iff distinct]

theorem contains_ofList_eq_false_iff (distinct : (entries.map Prod.fst).Nodup) :
    (ofList entries).contains name = false ↔ name ∉ entries.map Prod.fst := by
  rw [contains_eq_false_iff, get?_ofList distinct, lookup_eq_none_iff]

/-- A map is the map of its own entries. -/
theorem ofList_entries (map : NameMap α) : ofList map.entries = map :=
  ext_get? fun name => get?_ofList map.nodup_names name

theorem nodup_names_of_perm {others : List (String × α)}
    (distinct : (entries.map Prod.fst).Nodup) (reordered : others.Perm entries) :
    (others.map Prod.fst).Nodup :=
  (reordered.map Prod.fst).symm.nodup distinct

theorem lookup_of_perm {others : List (String × α)} (distinct : (entries.map Prod.fst).Nodup)
    (reordered : others.Perm entries) (name : String) :
    others.lookup name = entries.lookup name := by
  apply Option.ext
  intro value
  rw [lookup_eq_some_iff distinct, lookup_eq_some_iff (nodup_names_of_perm distinct reordered)]
  exact reordered.mem_iff

/-- The order in which entries of different names are listed makes no difference to the map. -/
theorem ofList_of_perm {others : List (String × α)} (distinct : (entries.map Prod.fst).Nodup)
    (reordered : others.Perm entries) : ofList others = ofList entries := by
  apply ext_get?
  intro name
  rw [get?_ofList distinct, get?_ofList (nodup_names_of_perm distinct reordered),
    lookup_of_perm distinct reordered]

theorem eq_of_entries_perm {left right : NameMap α} (same : left.entries.Perm right.entries) :
    left = right := by
  rw [← ofList_entries left, ofList_of_perm right.nodup_names same, ofList_entries]

theorem nodup_of_names (distinct : (entries.map Prod.fst).Nodup) : entries.Nodup := by
  apply List.Pairwise.of_map Prod.fst _ distinct
  intro first second different same
  exact different (congrArg Prod.fst same)

theorem entries_ofList_perm (distinct : (entries.map Prod.fst).Nodup) :
    (ofList entries).entries.Perm entries := by
  apply (List.perm_ext_iff_of_nodup (nodup_of_names (ofList entries).nodup_names)
    (nodup_of_names distinct)).mpr
  intro entry
  exact mem_entries_ofList_iff distinct

/-!
## Totals
-/

/-- What all values of a map measure together. -/
def total (measure : α → Nat) (map : NameMap α) : Nat :=
  (map.entries.map (measure ·.2)).sum

/-- What a map holds under a name, measured, and nothing where it holds nothing. -/
def measureAt (measure : α → Nat) (map : NameMap α) (name : String) : Nat :=
  (map.get? name).elim 0 measure

private theorem sum_filter_ne (measure : α → Nat) (distinct : (entries.map Prod.fst).Nodup) :
    ((entries.filter (·.1 != name)).map (measure ·.2)).sum +
        (entries.lookup name).elim 0 measure =
      (entries.map (measure ·.2)).sum := by
  induction entries with
  | nil => rfl
  | cons entry others ih =>
      rw [List.map_cons, List.nodup_cons] at distinct
      by_cases here : entry.1 = name
      · -- no other entry has the name, so the others stay as they are
        subst here
        have kept : others.filter (·.1 != entry.1) = others := by
          apply List.filter_eq_self.mpr
          intro other member
          have differs : other.1 ≠ entry.1 := fun same =>
            distinct.1 (List.mem_map.mpr ⟨other, member, same⟩)
          simpa using differs
        simp [lookup_cons_eq_ite, kept, Nat.add_comm]
      · have fromOthers := ih distinct.2
        have elsewhere : name ≠ entry.1 := fun same => here same.symm
        simp only [List.filter_cons, bne_iff_ne, ne_eq, here, not_false_eq_true, if_true,
          List.map_cons, List.sum_cons, lookup_cons_eq_ite, elsewhere, if_false]
        omega

/-- An erased value is taken from the total. -/
theorem total_erase (measure : α → Nat) (map : NameMap α) (name : String) :
    (map.erase name).total measure + map.measureAt measure name = map.total measure :=
  sum_filter_ne measure map.nodup_names

theorem erase_insert (map : NameMap α) (name : String) (value : α) :
    (map.insert name value).erase name = map.erase name := by
  apply ext_get?
  intro other
  simp only [get?_erase, get?_insert]
  split <;> rfl

/-- A value comes into the total for the one that it replaces. -/
theorem total_insert (measure : α → Nat) (map : NameMap α) (name : String) (value : α) :
    (map.insert name value).total measure + map.measureAt measure name =
      map.total measure + measure value := by
  have inserted := total_erase measure (map.insert name value) name
  have replaced := total_erase measure map name
  simp only [erase_insert, measureAt, get?_insert, if_true, Option.elim_some] at inserted
  simp only [measureAt] at replaced ⊢
  omega

/-- A value that measures nothing may stand for what is not held. -/
theorem measureAt_eq {measure : α → Nat} {fallback : α} (nothing : measure fallback = 0)
    (map : NameMap α) (name : String) :
    map.measureAt measure name = measure ((map.get? name).getD fallback) := by
  unfold measureAt
  cases map.get? name with
  | none => exact nothing.symm
  | some value => rfl

end BlockLanguage.NameMap
