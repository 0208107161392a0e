/-
Tables with a primary key and unique indexes.  The rows are kept in the order of
their keys, so a table is determined by the rows it holds; a row that would
break an index cannot be stored.
-/
import Mathlib.Data.List.Sort
import Mathlib.Order.Basic

universe u v

/-- The primary key, and the pairs of rows that a unique index keeps apart. -/
structure TableSchema (R : Type u) (K : Type v) where
  key : R → K
  conflict : R → R → Bool
  conflict_comm : ∀ first second, conflict first second = conflict second first

variable {R : Type u} {K : Type v} [LinearOrder K]

structure Table (schema : TableSchema R K) where
  rows : List R
  sorted : rows.Pairwise fun first second =>
      schema.key first < schema.key second
  apart : ∀ first ∈ rows, ∀ second ∈ rows,
      schema.key first ≠ schema.key second →
    schema.conflict first second = false

namespace Table

variable {schema : TableSchema R K}

instance : Membership R (Table schema) where
  mem table row := row ∈ table.rows

instance (table : Table schema) (P : R → Prop) [DecidablePred P] :
    Decidable (∃ row ∈ table, P row) :=
  inferInstanceAs (Decidable (∃ row ∈ table.rows, P row))

instance (table : Table schema) (P : R → Prop) [DecidablePred P] :
    Decidable (∀ row ∈ table, P row) :=
  inferInstanceAs (Decidable (∀ row ∈ table.rows, P row))

def empty : Table schema := ⟨[], List.Pairwise.nil, by simp⟩

def single (row : R) : Table schema where
  rows := [row]
  sorted := List.pairwise_singleton _ _
  apart := by
    intro first hfirst second hsecond hne
    rw [List.mem_singleton.mp hfirst, List.mem_singleton.mp hsecond] at hne
    exact absurd rfl hne

@[simp] theorem not_mem_empty (row : R) : row ∉ (empty : Table schema) :=
  List.not_mem_nil

@[simp] theorem mem_rows {table : Table schema} {row : R} :
    row ∈ table.rows ↔ row ∈ table :=
  Iff.rfl

theorem nodup_keys (table : Table schema) : (table.rows.map schema.key).Nodup :=
  List.pairwise_map.mpr (table.sorted.imp ne_of_lt)

theorem nodup (table : Table schema) : table.rows.Nodup :=
  List.Nodup.of_map _ table.nodup_keys

/-- Two rows of one key are the same row. -/
theorem eq_of_key {table : Table schema} {first second : R}
    (hfirst : first ∈ table) (hsecond : second ∈ table)
    (hkey : schema.key first = schema.key second) : first = second :=
  List.inj_on_of_nodup_map table.nodup_keys hfirst hsecond hkey

/-- Two rows that an index keeps apart are the same row. -/
theorem eq_of_conflict {table : Table schema} {first second : R}
    (hfirst : first ∈ table) (hsecond : second ∈ table)
    (hconflict : schema.conflict first second = true) : first = second := by
  by_contra hne
  have hkey : schema.key first ≠ schema.key second := fun hkey =>
    hne (eq_of_key hfirst hsecond hkey)
  rw [table.apart first hfirst second hsecond hkey] at hconflict
  cases hconflict

/-- A table is determined by its rows, whatever the order they came in. -/
theorem ext_rows {first second : Table schema}
    (hsame : ∀ row, row ∈ first ↔ row ∈ second) : first = second := by
  have hperm : first.rows.Perm second.rows :=
    (List.perm_ext_iff_of_nodup first.nodup second.nodup).mpr hsame
  have hrows : first.rows = second.rows :=
    hperm.eq_of_pairwise
      (fun _ _ _ _ hlt hgt => absurd hgt (not_lt_of_gt hlt))
      first.sorted second.sorted
  cases first
  cases second
  cases hrows
  rfl

/-- The rows of a condition, as a table. -/
def restrict (table : Table schema) (keep : R → Bool) : Table schema where
  rows := table.rows.filter keep
  sorted := table.sorted.filter keep
  apart := fun first hfirst second hsecond =>
    table.apart first (List.mem_of_mem_filter hfirst) second
      (List.mem_of_mem_filter hsecond)

/-- `DELETE … WHERE` -/
def delete (table : Table schema) (where_ : R → Bool) : Table schema :=
  table.restrict fun row => !where_ row

@[simp] theorem mem_restrict {table : Table schema}
    {keep : R → Bool} {row : R} :
    row ∈ table.restrict keep ↔ row ∈ table ∧ keep row = true :=
  List.mem_filter

@[simp] theorem mem_delete {table : Table schema}
    {where_ : R → Bool} {row : R} :
    row ∈ table.delete where_ ↔ row ∈ table ∧ where_ row = false := by
  simp [delete]

/-- The row found by a condition that a row's key decides. -/
theorem find?_eq_some {table : Table schema} {where_ : R → Bool} {row : R}
    (hkey : ∀ first second, where_ first = true → where_ second = true →
      schema.key first = schema.key second) :
    table.rows.find? where_ = some row ↔ row ∈ table ∧ where_ row = true := by
  constructor
  · intro hfind
    exact ⟨List.mem_of_find?_eq_some hfind, List.find?_some hfind⟩
  · rintro ⟨hrow, hwhere⟩
    cases hfind : table.rows.find? where_ with
    | none => exact absurd hwhere (List.find?_eq_none.mp hfind row hrow)
    | some found =>
        have hfound := List.find?_some hfind
        have hmem := List.mem_of_find?_eq_some hfind
        rw [eq_of_key hmem hrow (hkey _ _ hfound hwhere)]

section Insert

/-- The row has a free key and keeps clear of the rows that are there. -/
def admits (table : Table schema) (row : R) : Bool :=
  table.rows.all fun other =>
    schema.key other ≠ schema.key row && !schema.conflict other row

theorem admits_iff {table : Table schema} {row : R} :
    table.admits row = true ↔ ∀ other ∈ table,
      schema.key other ≠ schema.key row ∧
      schema.conflict other row = false := by
  simp [admits, List.all_eq_true]

/-- The rows with one more. -/
def insert (table : Table schema) (row : R)
    (hadmits : table.admits row = true) :
    Table schema where
  rows := table.rows.filter (fun other => schema.key other < schema.key row) ++
    row :: table.rows.filter (fun other => schema.key row < schema.key other)
  sorted := by
    rw [List.pairwise_append, List.pairwise_cons]
    refine ⟨table.sorted.filter _, ⟨?_, table.sorted.filter _⟩, ?_⟩
    · intro other hother
      simpa using List.of_mem_filter hother
    · intro first hfirst second hsecond
      have hbelow : schema.key first < schema.key row := by
        simpa using List.of_mem_filter hfirst
      rcases List.mem_cons.mp hsecond with rfl | hsecond
      · exact hbelow
      · have habove : schema.key row < schema.key second := by
          simpa using List.of_mem_filter hsecond
        exact hbelow.trans habove
  apart := by
    have hclear := admits_iff.mp hadmits
    have hrows : ∀ other ∈ table.rows.filter (fun other =>
          schema.key other < schema.key row) ++
        row :: table.rows.filter
        (fun other => schema.key row < schema.key other),
        other = row ∨ other ∈ table := by
      intro other hother
      simp only [List.mem_append, List.mem_cons, List.mem_filter] at hother
      rcases hother with ⟨hmem, -⟩ | rfl | ⟨hmem, -⟩
      · exact Or.inr hmem
      · exact Or.inl rfl
      · exact Or.inr hmem
    intro first hfirst second hsecond hkey
    rcases hrows first hfirst with hnew | hold
    · rcases hrows second hsecond with hnew' | hold'
      · exact absurd (by rw [hnew, hnew']) hkey
      · rw [hnew, schema.conflict_comm]
        exact (hclear second hold').2
    · rcases hrows second hsecond with hnew' | hold'
      · rw [hnew']
        exact (hclear first hold).2
      · exact table.apart first hold second hold' hkey

@[simp] theorem mem_insert {table : Table schema} {row other : R}
    {hadmits : table.admits row = true} :
    other ∈ table.insert row hadmits ↔ other = row ∨ other ∈ table := by
  change other ∈ table.rows.filter _ ++ row :: table.rows.filter _ ↔ _
  simp only [List.mem_append, List.mem_cons, List.mem_filter, decide_eq_true_eq,
    mem_rows]
  constructor
  · rintro (⟨hmem, -⟩ | rfl | ⟨hmem, -⟩)
    · exact Or.inr hmem
    · exact Or.inl rfl
    · exact Or.inr hmem
  · rintro (rfl | hmem)
    · exact Or.inr (Or.inl rfl)
    · have hkey := (admits_iff.mp hadmits other hmem).1
      rcases lt_or_gt_of_ne hkey with hlt | hgt
      · exact Or.inl ⟨hmem, hlt⟩
      · exact Or.inr (Or.inr ⟨hmem, hgt⟩)

/-- `INSERT`, refused when it would break an index. -/
def insert? (table : Table schema) (row : R) : Option (Table schema) :=
  if hadmits : table.admits row = true then some (table.insert row hadmits)
  else none

theorem insert?_eq_some {table next : Table schema} {row : R}
    (hinsert : table.insert? row = some next) :
    table.admits row = true ∧ ∀ other, other ∈ next ↔ other = row ∨
    other ∈ table := by
  rw [insert?] at hinsert
  split at hinsert
  next hadmits =>
    cases hinsert
    exact ⟨hadmits, fun _ => mem_insert⟩
  · cases hinsert

end Insert

section Map

/-- `UPDATE`: every row through a function that keeps its key, refused when it
would break an index. -/
def map? (table : Table schema) (f : R → R)
    (hkey : ∀ row, schema.key (f row) = schema.key row) :
    Option (Table schema) :=
  if hapart : ∀ first ∈ table.rows, ∀ second ∈ table.rows,
      schema.key first ≠ schema.key second →
      schema.conflict (f first) (f second) = false then
    some
      { rows := table.rows.map f
        sorted := by
          rw [List.pairwise_map]
          exact table.sorted.imp fun hlt => by rw [hkey, hkey]; exact hlt
        apart := by
          intro first hfirst second hsecond hne
          obtain ⟨first, hmem, rfl⟩ := List.mem_map.mp hfirst
          obtain ⟨second, hmem', rfl⟩ := List.mem_map.mp hsecond
          rw [hkey, hkey] at hne
          exact hapart first hmem second hmem' hne }
  else none

theorem map?_eq_some {table next : Table schema} {f : R → R}
    {hkey : ∀ row, schema.key (f row) = schema.key row}
    (hmap : table.map? f hkey = some next) (row : R) :
    row ∈ next ↔ ∃ old ∈ table, f old = row := by
  rw [map?] at hmap
  split at hmap
  · cases hmap
    exact List.mem_map
  · cases hmap

/-- Put a row in the place of the one with its key. -/
def replace? (table : Table schema) (row : R) : Option (Table schema) :=
  table.map? (fun old => if schema.key old = schema.key row then row else old)
    fun old => by
      by_cases hkey : schema.key old = schema.key row
      · simp [hkey]
      · simp [hkey]

theorem replace?_eq_some {table next : Table schema} {row old : R}
    (hreplace : table.replace? row = some next) (hold : old ∈ table)
    (hkey : schema.key old = schema.key row) (other : R) :
    other ∈ next ↔ other = row ∨ other ∈ table ∧ other ≠ old := by
  rw [map?_eq_some hreplace]
  constructor
  · rintro ⟨found, hfound, rfl⟩
    by_cases hsame : schema.key found = schema.key row
    · exact Or.inl (by simp [hsame])
    · have hne : found ≠ old := fun heq => hsame (by rw [heq, hkey])
      exact Or.inr ⟨by simpa [hsame] using hfound, by simpa [hsame] using hne⟩
  · rintro (rfl | ⟨hmem, hne⟩)
    · exact ⟨old, hold, by simp [hkey]⟩
    · have hother : schema.key other ≠ schema.key row := fun hsame =>
        hne (eq_of_key hmem hold (hsame.trans hkey.symm))
      exact ⟨other, hmem, by simp [hother]⟩

end Map

section Shared

variable {table other : Table schema}

/-- Queries that find the same rows in two tables give the same list. -/
theorem filter_congr {where_ where' : R → Bool}
    (hsame : ∀ row, row ∈ table ∧ where_ row = true ↔
      row ∈ other ∧ where' row = true) :
    table.rows.filter where_ = other.rows.filter where' := by
  have htables : table.restrict where_ = other.restrict where' := by
    apply ext_rows
    intro row
    rw [mem_restrict, mem_restrict]
    exact hsame row
  exact congrArg rows htables

theorem find?_congr {where_ where' : R → Bool}
    (hsame : ∀ row, row ∈ table ∧ where_ row = true ↔
      row ∈ other ∧ where' row = true) :
    table.rows.find? where_ = other.rows.find? where' := by
  rw [← List.head?_filter, ← List.head?_filter, filter_congr hsame]

theorem any_congr {where_ where' : R → Bool}
    (hsame : ∀ row, row ∈ table ∧ where_ row = true ↔
      row ∈ other ∧ where' row = true) :
    table.rows.any where_ = other.rows.any where' := by
  rw [Bool.eq_iff_iff, List.any_eq_true, List.any_eq_true]
  exact exists_congr hsame

/-- Whether a row is admitted is decided by the rows that share its key or
conflict with it. -/
theorem admits_congr {row : R}
    (hsame : ∀ found, schema.key found = schema.key row ∨
      schema.conflict found row = true → (found ∈ table ↔ found ∈ other)) :
    table.admits row = other.admits row := by
  have himp : ∀ first second : Table schema,
      (∀ found, schema.key found = schema.key row ∨
        schema.conflict found row = true → (found ∈ first ↔ found ∈ second)) →
      first.admits row = true → second.admits row = true := by
    intro first second hshared hadmits
    rw [admits_iff] at hadmits ⊢
    intro found hfound
    by_cases hclose : schema.key found = schema.key row ∨
        schema.conflict found row = true
    · exact hadmits found ((hshared found hclose).mpr hfound)
    · push Not at hclose
      exact ⟨hclose.1, by simpa using hclose.2⟩
  rw [Bool.eq_iff_iff]
  exact ⟨himp table other hsame, himp other table fun found hclose =>
    (hsame found hclose).symm⟩

theorem isSome_insert? {row : R} :
    (table.insert? row).isSome = table.admits row := by
  rw [insert?]
  split
  next hadmits => rw [hadmits, Option.isSome_some]
  next hrefused => simp [hrefused]

/-- An UPDATE that makes no two rows conflict is carried out. -/
theorem isSome_map? {f : R → R}
    {hkey : ∀ row, schema.key (f row) = schema.key row}
    (himp : ∀ first second, schema.conflict (f first) (f second) = true →
      schema.conflict first second = true) :
    (table.map? f hkey).isSome = true := by
  rw [map?]
  rw [dif_pos, Option.isSome_some]
  intro first hfirst second hsecond hne
  have hclear := table.apart first hfirst second hsecond hne
  cases hconflict : schema.conflict (f first) (f second) with
  | false => rfl
  | true => rw [himp first second hconflict] at hclear; cases hclear

/-- A row can be put in the place of the one with its key when it keeps clear of
the others. -/
theorem isSome_replace? {row : R} :
    (table.replace? row).isSome = true ↔
      ∀ found ∈ table, (∃ old ∈ table, schema.key old = schema.key row) →
        schema.key found ≠ schema.key row →
        schema.conflict found row = false := by
  rw [replace?, map?]
  rw [Option.isSome_dite]
  constructor
  · intro hapart found hfound ⟨old, hold, hkey⟩ hne
    have hclear := hapart found hfound old hold (hkey ▸ hne)
    simpa [hkey, hne] using hclear
  · intro hclear first hfirst second hsecond hne
    by_cases hone : schema.key first = schema.key row
    · by_cases htwo : schema.key second = schema.key row
      · exact absurd (hone.trans htwo.symm) hne
      · rw [if_pos hone, if_neg htwo, schema.conflict_comm]
        exact hclear second hsecond ⟨first, hfirst, hone⟩ htwo
    · by_cases htwo : schema.key second = schema.key row
      · rw [if_neg hone, if_pos htwo]
        exact hclear first hfirst ⟨second, hsecond, htwo⟩ hone
      · rw [if_neg hone, if_neg htwo]
        exact table.apart first hfirst second hsecond hne

/-- A row can be put in the place of one with its key and indexed columns. -/
theorem isSome_replace?_of_conflict {row old : R} (hold : old ∈ table)
    (hkey : schema.key old = schema.key row)
    (hconflict : ∀ found,
      schema.conflict found row = schema.conflict found old) :
    (table.replace? row).isSome = true := by
  rw [isSome_replace?]
  intro found hfound _ hne
  rw [hconflict]
  exact table.apart found hfound old hold (hkey ▸ hne)

/-- Whether a row can be put in the place of one is decided by the rows that
conflict with it. -/
theorem isSome_replace?_congr {row old : R} (hold : old ∈ table)
    (hold' : old ∈ other) (hkey : schema.key old = schema.key row)
    (hsame : ∀ found, schema.conflict found row = true →
      (found ∈ table ↔ found ∈ other)) :
    (table.replace? row).isSome = (other.replace? row).isSome := by
  have himp : ∀ first second : Table schema, old ∈ first →
      (∀ found, schema.conflict found row = true →
        (found ∈ first ↔ found ∈ second)) →
      (first.replace? row).isSome = true →
      (second.replace? row).isSome = true := by
    intro first second hfirst hshared hreplace
    rw [isSome_replace?] at hreplace ⊢
    intro found hfound _ hne
    cases hconflict : schema.conflict found row with
    | false => rfl
    | true =>
        have hclear := hreplace found ((hshared found hconflict).mpr hfound)
          ⟨old, hfirst, hkey⟩ hne
        rw [hconflict] at hclear
        cases hclear
  rw [Bool.eq_iff_iff]
  exact ⟨himp table other hold hsame,
    himp other table hold' fun found hconflict =>
    (hsame found hconflict).symm⟩

end Shared

section Changes

/-- The table with one more row. -/
def Adds (table : Table schema) (row : R) (next : Table schema) : Prop :=
  table.admits row = true ∧ ∀ other, other ∈ next ↔ other = row ∨ other ∈ table

/-- The table with a row in the place of another. -/
def Replaces (table : Table schema) (old row : R) (next : Table schema) :
    Prop :=
  old ∈ table ∧ schema.key row = schema.key old ∧
    ∀ other, other ∈ next ↔ other = row ∨ other ∈ table ∧ other ≠ old

/-- The table without a row. -/
def Removes (table : Table schema) (old : R) (next : Table schema) : Prop :=
  old ∈ table ∧ ∀ other, other ∈ next ↔ other ∈ table ∧ other ≠ old

variable {table next : Table schema} {row old : R}

theorem adds_of_insert? (hinsert : table.insert? row = some next) :
    table.Adds row next :=
  insert?_eq_some hinsert

theorem replaces_of_replace? (hreplace : table.replace? row = some next)
    (hold : old ∈ table) (hkey : schema.key row = schema.key old) :
    table.Replaces old row next :=
  ⟨hold, hkey, replace?_eq_some hreplace hold hkey.symm⟩

/-- Deleting the rows of a condition that holds of one key only. -/
theorem removes_of_delete {where_ : R → Bool} (hold : old ∈ table)
    (hwhere : where_ old = true)
    (hkey : ∀ other, where_ other = true → schema.key other = schema.key old) :
    table.Removes old (table.delete where_) := by
  refine ⟨hold, fun other => ?_⟩
  rw [mem_delete]
  constructor
  · rintro ⟨hmem, hother⟩
    refine ⟨hmem, fun heq => ?_⟩
    rw [heq, hwhere] at hother
    cases hother
  · rintro ⟨hmem, hne⟩
    refine ⟨hmem, ?_⟩
    cases hother : where_ other with
    | false => rfl
    | true => exact absurd (eq_of_key hmem hold (hkey other hother)) hne

theorem Adds.fresh (hadds : table.Adds row next) {other : R}
    (hother : other ∈ table) :
    schema.key other ≠ schema.key row ∧ schema.conflict other row = false :=
  admits_iff.mp hadds.1 other hother

theorem Removes.gone (hremoves : table.Removes old next) {other : R}
    (hother : other ∈ next) : schema.key other ≠ schema.key old := by
  obtain ⟨hmem, hne⟩ := (hremoves.2 other).mp hother
  exact fun heq => hne (eq_of_key hmem hremoves.1 heq)

end Changes

section Outside

variable {named named' : R → Prop} {kept kept' : R → R → Prop}
  {table middle next : Table schema} {row old : R}

/-- Outside the named rows nothing was added and nothing is lost: each row has a
successor, and each row is one. -/
structure KeptOutside (named : R → Prop) (kept : R → R → Prop)
    (table next : Table schema) : Prop where
  stays : ∀ old ∈ table, ¬ named old → ∃ row ∈ next, kept old row
  stood : ∀ row ∈ next, ¬ named row → ∃ old ∈ table, kept old row

theorem KeptOutside.refl (hrefl : ∀ row, kept row row) (table : Table schema) :
    table.KeptOutside named kept table :=
  ⟨fun old hold _ => ⟨old, hold, hrefl old⟩,
    fun row hrow _ => ⟨row, hrow, hrefl row⟩⟩

theorem KeptOutside.mono (hkept : table.KeptOutside named kept next)
    (hnamed : ∀ row, named row → named' row)
    (hrel : ∀ old row, kept old row → kept' old row) :
    table.KeptOutside named' kept' next := by
  constructor
  · intro old hold hout
    obtain ⟨row, hrow, hsame⟩ := hkept.stays old hold fun h => hout (hnamed _ h)
    exact ⟨row, hrow, hrel _ _ hsame⟩
  · intro row hrow hout
    obtain ⟨old, hold, hsame⟩ := hkept.stood row hrow fun h => hout (hnamed _ h)
    exact ⟨old, hold, hrel _ _ hsame⟩

/-- A successor is named if its predecessor is. -/
theorem KeptOutside.trans
    (htrans : ∀ first second third, kept first second → kept second third →
      kept first third)
    (hnamed : ∀ old row, kept old row → (named old ↔ named row))
    (hfirst : table.KeptOutside named kept middle)
    (hsecond : middle.KeptOutside named kept next) :
    table.KeptOutside named kept next := by
  constructor
  · intro old hold hout
    obtain ⟨held, hheld, hfrom⟩ := hfirst.stays old hold hout
    obtain ⟨row, hrow, hto⟩ := hsecond.stays held hheld
      fun h => hout ((hnamed _ _ hfrom).mpr h)
    exact ⟨row, hrow, htrans _ _ _ hfrom hto⟩
  · intro row hrow hout
    obtain ⟨held, hheld, hto⟩ := hsecond.stood row hrow hout
    obtain ⟨old, hold, hfrom⟩ := hfirst.stood held hheld
      fun h => hout ((hnamed _ _ hto).mp h)
    exact ⟨old, hold, htrans _ _ _ hfrom hto⟩

theorem Adds.keptOutside (hadds : table.Adds row next) (hrow : named row) :
    table.KeptOutside named Eq next := by
  constructor
  · intro old hold _
    exact ⟨old, (hadds.2 old).mpr (Or.inr hold), rfl⟩
  · intro other hother hout
    rcases (hadds.2 other).mp hother with rfl | hmem
    · exact absurd hrow hout
    · exact ⟨other, hmem, rfl⟩

theorem Replaces.keptOutside (hreplaces : table.Replaces old row next)
    (hold : named old) (hrow : named row) :
    table.KeptOutside named Eq next := by
  constructor
  · intro other hother hout
    have hne : other ≠ old := fun heq => hout (heq ▸ hold)
    exact ⟨other, (hreplaces.2.2 other).mpr (Or.inr ⟨hother, hne⟩), rfl⟩
  · intro other hother hout
    rcases (hreplaces.2.2 other).mp hother with rfl | ⟨hmem, _⟩
    · exact absurd hrow hout
    · exact ⟨other, hmem, rfl⟩

theorem Removes.keptOutside (hremoves : table.Removes old next)
    (hold : named old) : table.KeptOutside named Eq next := by
  constructor
  · intro other hother hout
    have hne : other ≠ old := fun heq => hout (heq ▸ hold)
    exact ⟨other, (hremoves.2 other).mpr ⟨hother, hne⟩, rfl⟩
  · intro other hother _
    exact ⟨other, ((hremoves.2 other).mp hother).1, rfl⟩

end Outside

section References

variable {S : Type u} {schema' : TableSchema S K} {link : R → S → Prop}

/-- Every row has a target among the rows of another table. -/
def References (link : R → S → Prop) (rows : Table schema)
    (targets : Table schema') : Prop :=
  ∀ row ∈ rows, ∃ target ∈ targets, link row target

variable {rows nextRows : Table schema} {targets nextTargets : Table schema'}
  {old row : R} {oldTarget target : S}

theorem References.adds (hrefs : References link rows targets)
    (hadds : rows.Adds row nextRows) (htarget : target ∈ targets)
    (hlink : link row target) : References link nextRows targets := by
  intro other hother
  rcases (hadds.2 other).mp hother with hnew | hold
  · exact ⟨target, htarget, hnew ▸ hlink⟩
  · exact hrefs other hold

theorem References.replaces (hrefs : References link rows targets)
    (hreplaces : rows.Replaces old row nextRows)
    (hlink : ∀ target, link old target → link row target) :
    References link nextRows targets := by
  intro other hother
  rcases (hreplaces.2.2 other).mp hother with hnew | ⟨hold, -⟩
  · obtain ⟨target, htarget, hlinked⟩ := hrefs old hreplaces.1
    exact ⟨target, htarget, hnew ▸ hlink target hlinked⟩
  · exact hrefs other hold

theorem References.removes (hrefs : References link rows targets)
    (hremoves : rows.Removes old nextRows) : References link nextRows targets :=
  fun other hother => hrefs other ((hremoves.2 other).mp hother).1

theorem References.adds_target (hrefs : References link rows targets)
    (hadds : targets.Adds target nextTargets) :
    References link rows nextTargets := by
  intro other hother
  obtain ⟨found, hfound, hlink⟩ := hrefs other hother
  exact ⟨found, (hadds.2 found).mpr (Or.inr hfound), hlink⟩

theorem References.replaces_target (hrefs : References link rows targets)
    (hreplaces : targets.Replaces oldTarget target nextTargets)
    (hlink : ∀ row, link row oldTarget → link row target) :
    References link rows nextTargets := by
  intro other hother
  obtain ⟨found, hfound, hlinked⟩ := hrefs other hother
  by_cases hsame : found = oldTarget
  · exact ⟨target, (hreplaces.2.2 target).mpr (Or.inl rfl),
      hlink other (hsame ▸ hlinked)⟩
  · exact ⟨found, (hreplaces.2.2 found).mpr (Or.inr ⟨hfound, hsame⟩), hlinked⟩

/-- Only a target that no row refers to may go. -/
theorem References.removes_target (hrefs : References link rows targets)
    (hremoves : targets.Removes oldTarget nextTargets)
    (hunused : ∀ row ∈ rows, ¬ link row oldTarget) :
    References link rows nextTargets := by
  intro other hother
  obtain ⟨found, hfound, hlinked⟩ := hrefs other hother
  have hsame : found ≠ oldTarget :=
    fun heq => hunused other hother (heq ▸ hlinked)
  exact ⟨found, (hremoves.2 found).mpr ⟨hfound, hsame⟩, hlinked⟩

end References

end Table
