/-
Finite maps with the operations Go programs use: lookup, assignment, building
from members where the last one wins, and ranging over the entries.
-/
import Mathlib.Data.List.Nodup
import Mathlib.Data.List.Lookmap

universe u v

/-- A Go map with string keys; every key occurs once.  The order of the entries
is one order in which Go may range over it. -/
structure GoMap (α : Type u) where
  entries : List (String × α)
  nodup : (entries.map Prod.fst).Nodup

namespace GoMap

variable {α : Type u} {β : Type v}

/-- The nil map, or an empty one. -/
def empty : GoMap α := ⟨[], List.nodup_nil⟩

instance : Inhabited (GoMap α) := ⟨empty⟩

def keys (map : GoMap α) : List String := map.entries.map Prod.fst

def get? (map : GoMap α) (key : String) : Option α :=
  map.entries.lookup key

def isEmpty (map : GoMap α) : Bool := map.entries.isEmpty

@[simp] theorem get?_empty (key : String) :
    (empty : GoMap α).get? key = none :=
  rfl

theorem mem_entries_iff (map : GoMap α) {key : String} {value : α} :
    (key, value) ∈ map.entries ↔ map.get? key = some value := by
  obtain ⟨entries, hnodup⟩ := map
  rw [get?]
  induction entries with
  | nil => simp
  | cons entry rest ih =>
      obtain ⟨first, held⟩ := entry
      simp only [List.map_cons, List.nodup_cons] at hnodup
      by_cases hkey : key = first
      · subst hkey
        have hfresh : (key, value) ∉ rest := fun hmem =>
          hnodup.1 (List.mem_map_of_mem (f := Prod.fst) hmem)
        simp [hfresh, eq_comm]
      · have hbeq : (key == first) = false := by simp [hkey]
        simp [List.lookup_cons, hbeq, hkey, ih hnodup.2]

theorem get?_eq_none_iff (map : GoMap α) {key : String} :
    map.get? key = none ↔ key ∉ map.keys := by
  rw [get?, keys]
  rw [List.lookup_eq_none_iff]
  simp only [List.mem_map, Prod.exists, exists_and_right, exists_eq_right,
    not_exists]
  constructor
  · intro hnone value hmem
    simpa using hnone (key, value) hmem
  · rintro hnone ⟨first, value⟩ hmem
    simp only [ne_eq, bne_iff_ne]
    rintro rfl
    exact hnone value hmem

theorem isEmpty_iff (map : GoMap α) :
    map.isEmpty = true ↔ ∀ key, map.get? key = none := by
  constructor
  · intro hempty key
    have hnil : map.entries = [] := List.isEmpty_iff.mp hempty
    simp [get?, hnil]
  · intro hnone
    apply List.isEmpty_iff.mpr
    apply List.eq_nil_iff_forall_not_mem.mpr
    rintro ⟨key, value⟩ hmem
    rw [mem_entries_iff, hnone key] at hmem
    cases hmem

theorem eq_empty_of_isEmpty {map : GoMap α} (hempty : map.isEmpty = true) :
    map = empty := by
  obtain ⟨entries, hnodup⟩ := map
  obtain rfl : entries = [] := List.isEmpty_iff.mp hempty
  rfl

/-- Replace the value of a key in a list of entries, or add it at the end. -/
def assign (key : String) (value : α) : List (String × α) → List (String × α)
  | [] => [(key, value)]
  | (first, held) :: rest =>
      if first = key then (key, value) :: rest
      else (first, held) :: assign key value rest

theorem mem_keys_assign {key other : String} {value : α}
    {entries : List (String × α)} :
    other ∈ (assign key value entries).map Prod.fst ↔
      other = key ∨ other ∈ entries.map Prod.fst := by
  induction entries with
  | nil => simp [assign]
  | cons entry rest ih =>
      obtain ⟨first, held⟩ := entry
      by_cases hfirst : first = key
      · simp [assign, hfirst]
      · simp only [assign, if_neg hfirst, List.map_cons, List.mem_cons, ih]
        tauto

theorem nodup_assign (key : String) (value : α) {entries : List (String × α)}
    (hnodup : (entries.map Prod.fst).Nodup) :
    ((assign key value entries).map Prod.fst).Nodup := by
  induction entries with
  | nil => simp [assign]
  | cons entry rest ih =>
      obtain ⟨first, held⟩ := entry
      simp only [List.map_cons, List.nodup_cons] at hnodup
      by_cases hfirst : first = key
      · subst hfirst
        simpa [assign] using hnodup
      · simp only [assign, if_neg hfirst, List.map_cons, List.nodup_cons]
        refine ⟨fun hmem => ?_, ih hnodup.2⟩
        rcases mem_keys_assign.mp hmem with heq | hrest
        · exact hfirst heq
        · exact hnodup.1 hrest

/-- `m[key] = value`. -/
def set (map : GoMap α) (key : String) (value : α) : GoMap α :=
  ⟨assign key value map.entries, nodup_assign key value map.nodup⟩

theorem lookup_assign {key other : String} {value : α}
    {entries : List (String × α)} :
    (assign key value entries).lookup other =
      if other = key then some value else entries.lookup other := by
  induction entries with
  | nil =>
      by_cases hkey : other = key
      · simp [assign, hkey]
      · have hbeq : (other == key) = false := by simp [hkey]
        simp [assign, List.lookup_cons, hbeq, hkey]
  | cons entry rest ih =>
      obtain ⟨first, held⟩ := entry
      by_cases hfirst : first = key
      · subst hfirst
        by_cases hother : other = first
        · simp [assign, hother]
        · have hbeq : (other == first) = false := by simp [hother]
          simp [assign, List.lookup_cons, hbeq, hother]
      · simp only [assign, if_neg hfirst, List.lookup_cons]
        by_cases hother : other = first
        · simp [hother, hfirst]
        · have hbeq : (other == first) = false := by simp [hother]
          simp only [hbeq, ih]

@[simp] theorem get?_set (map : GoMap α) (key other : String) (value : α) :
    (map.set key value).get? other =
      if other = key then some value else map.get? other :=
  lookup_assign

/-- Assign the members of a text one after the other: of several members with
one name the last one stays. -/
def setAll (map : GoMap α) (members : List (String × α)) : GoMap α :=
  members.foldl (fun map member => map.set member.1 member.2) map

def ofMembers (members : List (String × α)) : GoMap α :=
  empty.setAll members

@[simp] theorem setAll_nil (map : GoMap α) : map.setAll [] = map :=
  rfl

@[simp] theorem setAll_cons (map : GoMap α) (member : String × α)
    (members : List (String × α)) :
    map.setAll (member :: members) =
      (map.set member.1 member.2).setAll members :=
  rfl

/-- The value a list of members leaves a name with. -/
def lastMember (members : List (String × α)) (key : String) : Option α :=
  members.reverse.lookup key

theorem lastMember_cons (member : String × α) (members : List (String × α))
    (key : String) :
    lastMember (member :: members) key =
      (lastMember members key).or
        (if key = member.1 then some member.2 else none) := by
  obtain ⟨name, value⟩ := member
  simp only [lastMember, List.reverse_cons, List.lookup_append]
  by_cases hkey : key = name
  · simp [hkey]
  · have hbeq : (key == name) = false := by simp [hkey]
    simp [List.lookup_cons, hbeq, hkey]

theorem lastMember_concat (members : List (String × α)) (member : String × α)
    (key : String) :
    lastMember (members ++ [member]) key =
      if key = member.1 then some member.2 else lastMember members key := by
  obtain ⟨name, value⟩ := member
  by_cases hkey : key = name
  · simp [lastMember, hkey]
  · have hbeq : (key == name) = false := by simp [hkey]
    simp [lastMember, List.lookup_cons, hbeq, hkey]

theorem get?_setAll (map : GoMap α) (members : List (String × α))
    (key : String) :
    (map.setAll members).get? key =
      (lastMember members key).or (map.get? key) := by
  induction members generalizing map with
  | nil => rfl
  | cons member rest ih =>
      rw [setAll_cons, ih, lastMember_cons, get?_set]
      by_cases hkey : key = member.1 <;> simp [hkey]

theorem get?_ofMembers (members : List (String × α)) (key : String) :
    (ofMembers members).get? key = lastMember members key := by
  simp [ofMembers, get?_setAll]

theorem assign_fresh {key : String} {value : α} {entries : List (String × α)}
    (hfresh : key ∉ entries.map Prod.fst) :
    assign key value entries = entries ++ [(key, value)] := by
  induction entries with
  | nil => rfl
  | cons entry rest ih =>
      obtain ⟨first, held⟩ := entry
      simp only [List.map_cons, List.mem_cons, not_or] at hfresh
      simp only [assign, if_neg (Ne.symm hfresh.1), ih hfresh.2,
        List.cons_append]

theorem entries_setAll {map : GoMap α} {members : List (String × α)}
    (hnodup : ((map.entries ++ members).map Prod.fst).Nodup) :
    (map.setAll members).entries = map.entries ++ members := by
  induction members generalizing map with
  | nil => simp
  | cons member rest ih =>
      obtain ⟨name, value⟩ := member
      have hsplit := hnodup
      rw [List.map_append, List.nodup_append] at hsplit
      have hfresh : name ∉ map.entries.map Prod.fst := fun hmem =>
        hsplit.2.2 name hmem name (by simp) rfl
      have hentries : (map.set name value).entries =
          map.entries ++ [(name, value)] :=
        assign_fresh hfresh
      rw [setAll_cons, ih]
      · simp [hentries]
      · simpa [hentries] using hnodup

/-- Members with distinct names are the entries of their map. -/
theorem entries_ofMembers {members : List (String × α)}
    (hnodup : (members.map Prod.fst).Nodup) :
    (ofMembers members).entries = members :=
  entries_setAll hnodup

/-- The map of a map's entries is the map. -/
theorem ofMembers_entries (map : GoMap α) : ofMembers map.entries = map := by
  obtain ⟨entries, hnodup⟩ := map
  have hentries := entries_ofMembers hnodup
  cases hmap : ofMembers entries
  simp_all

/-- The same keys with other values. -/
def mapValues (f : String → α → β) (map : GoMap α) : GoMap β where
  entries := map.entries.map fun entry => (entry.1, f entry.1 entry.2)
  nodup := by simpa [List.map_map, Function.comp_def] using map.nodup

theorem get?_mapValues (f : String → α → β) (map : GoMap α) (key : String) :
    (map.mapValues f).get? key = (map.get? key).map (f key) := by
  obtain ⟨entries, hnodup⟩ := map
  unfold get? mapValues
  simp only
  clear hnodup
  induction entries with
  | nil => rfl
  | cons entry rest ih =>
      obtain ⟨first, held⟩ := entry
      by_cases hkey : key = first
      · simp [hkey]
      · have hbeq : (key == first) = false := by simp [hkey]
        simp only [List.map_cons, List.lookup_cons, hbeq, ih]

/-- Keep the entries that pass a test. -/
def filter (p : String → α → Bool) (map : GoMap α) : GoMap α where
  entries := map.entries.filter fun entry => p entry.1 entry.2
  nodup := map.nodup.sublist (List.filter_sublist.map Prod.fst)

theorem get?_filter_eq_some {p : String → α → Bool} {map : GoMap α}
    {key : String} {value : α} :
    (map.filter p).get? key = some value ↔
      map.get? key = some value ∧ p key value = true := by
  rw [← mem_entries_iff, ← mem_entries_iff]
  simp [filter]

/-- `delete(m, key)`. -/
def delete (map : GoMap α) (key : String) : GoMap α :=
  map.filter fun other _ => other ≠ key

@[simp] theorem get?_delete (map : GoMap α) (key other : String) :
    (map.delete key).get? other =
      if other = key then none else map.get? other := by
  ext value
  rw [delete, get?_filter_eq_some]
  by_cases hkey : other = key <;> simp [hkey]

/-- Visit entries in order until one is refused. -/
def visit {ε : Type*} (f : String → α → Except ε Unit) :
    List (String × α) → Except ε Unit
  | [] => .ok ()
  | (key, value) :: rest =>
      match f key value with
      | .ok () => visit f rest
      | .error err => .error err

/-- `for key, value := range m` with an early return. -/
def range {ε : Type*} (map : GoMap α) (f : String → α → Except ε Unit) :
    Except ε Unit :=
  visit f map.entries

theorem range_eq_ok_iff {ε : Type*} {map : GoMap α}
    {f : String → α → Except ε Unit} :
    map.range f = .ok () ↔
      ∀ key value, map.get? key = some value → f key value = .ok () := by
  simp only [← mem_entries_iff, range]
  generalize map.entries = entries
  induction entries with
  | nil => simp [visit]
  | cons entry rest ih =>
      obtain ⟨first, held⟩ := entry
      cases hfirst : f first held with
      | error err =>
          simp only [visit, hfirst, reduceCtorEq, false_iff]
          intro hall
          rw [hall first held List.mem_cons_self] at hfirst
          cases hfirst
      | ok _ =>
          simp only [visit, hfirst, ih, List.mem_cons]
          constructor
          · rintro hrest key value (hhead | htail)
            · cases hhead
              exact hfirst
            · exact hrest key value htail
          · intro hall key value hmem
            exact hall key value (Or.inr hmem)

/-- An early return is the answer for some entry. -/
theorem range_eq_error {ε : Type*} {map : GoMap α}
    {f : String → α → Except ε Unit} {err : ε}
    (herr : map.range f = .error err) :
    ∃ key value, map.get? key = some value ∧ f key value = .error err := by
  simp only [← mem_entries_iff, range] at herr ⊢
  generalize map.entries = entries at herr ⊢
  induction entries with
  | nil => cases herr
  | cons entry rest ih =>
      obtain ⟨first, held⟩ := entry
      cases hfirst : f first held with
      | error other =>
          simp only [visit, hfirst, Except.error.injEq] at herr
          subst herr
          exact ⟨first, held, List.mem_cons_self, hfirst⟩
      | ok _ =>
          simp only [visit, hfirst] at herr
          obtain ⟨key, value, hmem, hvalue⟩ := ih herr
          exact ⟨key, value, List.mem_cons_of_mem _ hmem, hvalue⟩

/-- The same map, in another order in which Go may range over it. -/
def Reordered (map other : GoMap α) : Prop :=
  map.entries.Perm other.entries

theorem Reordered.get?_eq {map other : GoMap α} (hsame : map.Reordered other)
    (key : String) : map.get? key = other.get? key := by
  ext value
  rw [← mem_entries_iff, ← mem_entries_iff]
  exact hsame.mem_iff

theorem nodup_keys (map : GoMap α) : map.keys.Nodup :=
  map.nodup

theorem mem_keys_iff (map : GoMap α) {key : String} :
    key ∈ map.keys ↔ (map.get? key).isSome = true := by
  rw [Option.isSome_iff_ne_none, ne_eq, get?_eq_none_iff, not_not]

end GoMap
