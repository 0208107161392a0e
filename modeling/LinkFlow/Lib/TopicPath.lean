/-
MQTT topics: their levels, the filters that match them, and the tokens a rule
engine cuts them into.
-/
import Mathlib.Data.List.Basic

namespace TopicPath

/-- The levels of a topic or a filter, empty ones included. -/
def levels (topic : String) : List String :=
  (topic.toList.splitOn '/').map String.ofList

/-- The pieces between separators; empty pieces are left out. -/
def tokens (text : String) (separator : Char) : List String :=
  ((text.toList.splitOn separator).filter fun piece => !piece.isEmpty).map
    String.ofList

/-- The topic with the given levels. -/
def ofLevels (path : List String) : String :=
  String.ofList (['/'].intercalate (path.map String.toList))

/-- A level of a filter is a text, `+` for any one level, or a last `#`. -/
def matchesLevels : List String → List String → Bool
  | ["#"], _ => true
  | [], [] => true
  | wanted :: filter, level :: path =>
      (wanted = "+" || wanted = level) && matchesLevels filter path
  | _, _ => false

def matchesFilter (filter topic : String) : Bool :=
  matchesLevels (levels filter) (levels topic)

/-- A filter that begins with a wildcard leaves out the topics that begin with
`$`. -/
def matchesTopic (filter topic : String) : Bool :=
  !("$".toList <+: topic.toList &&
      ("+".toList <+: filter.toList || "#".toList <+: filter.toList)) &&
    matchesFilter filter topic

section RoundTrip

variable {path : List String}

theorem splitOn_ofLevels (hne : path ≠ [])
    (hfree : ∀ level ∈ path, '/' ∉ level.toList) :
    (ofLevels path).toList.splitOn '/' = path.map String.toList := by
  rw [ofLevels, String.toList_ofList, List.splitOn_intercalate]
  · intro level hlevel
    obtain ⟨text, htext, rfl⟩ := List.mem_map.mp hlevel
    exact hfree text htext
  · simpa using hne

theorem levels_ofLevels (hne : path ≠ [])
    (hfree : ∀ level ∈ path, '/' ∉ level.toList) :
    levels (ofLevels path) = path := by
  rw [levels, splitOn_ofLevels hne hfree, List.map_map]
  have hback : String.ofList ∘ String.toList = id := by
    funext text
    exact String.ofList_toList
  rw [hback, List.map_id]

/-- Levels that are not empty come back as tokens. -/
theorem tokens_ofLevels (hne : path ≠ [])
    (hfree : ∀ level ∈ path, level ≠ "" ∧ '/' ∉ level.toList) :
    tokens (ofLevels path) '/' = path := by
  have hlevels := levels_ofLevels hne fun level hlevel => (hfree level hlevel).2
  have hsplit := splitOn_ofLevels hne fun level hlevel => (hfree level hlevel).2
  rw [levels, hsplit] at hlevels
  rw [tokens, hsplit, List.filter_eq_self.mpr, hlevels]
  intro piece hpiece
  obtain ⟨text, htext, rfl⟩ := List.mem_map.mp hpiece
  have htext := (hfree text htext).1
  simpa using htext

/-- Topics with the same text have the same levels. -/
theorem ofLevels_injective {other : List String} (hne : path ≠ [])
    (hother : other ≠ []) (hfree : ∀ level ∈ path, '/' ∉ level.toList)
    (hotherFree : ∀ level ∈ other, '/' ∉ level.toList)
    (heq : ofLevels path = ofLevels other) : path = other := by
  rw [← levels_ofLevels hne hfree, ← levels_ofLevels hother hotherFree, heq]

/-- Tokens are the levels that are not empty. -/
theorem tokens_eq (topic : String) :
    tokens topic '/' = (levels topic).filter (· ≠ "") := by
  rw [tokens, levels]
  rw [List.filter_map]
  congr 1
  apply List.filter_congr
  intro piece _
  cases piece with
  | nil => rfl
  | cons char rest =>
      have hne : String.ofList (char :: rest) ≠ "" := by
        intro hempty
        have hlist := congrArg String.toList hempty
        rw [String.toList_ofList] at hlist
        cases hlist
      exact (decide_eq_true hne).symm

end RoundTrip

section Matching

variable {wanted : String} {filter path : List String}

/-- A level that stands for itself in a filter. -/
def Literal (level : String) : Prop := level ≠ "+" ∧ level ≠ "#"

theorem matchesLevels_nil : matchesLevels [] path = true ↔ path = [] := by
  cases path with
  | nil => simp [matchesLevels]
  | cons level rest => simp [matchesLevels]

theorem matchesLevels_literal (hliteral : Literal wanted) :
    matchesLevels (wanted :: filter) path = true ↔
      ∃ rest, path = wanted :: rest ∧ matchesLevels filter rest = true := by
  obtain ⟨hplus, hhash⟩ := hliteral
  cases path with
  | nil => simp [matchesLevels, hhash]
  | cons level rest =>
      have hmatch : matchesLevels (wanted :: filter) (level :: rest) =
          ((wanted = "+" || wanted = level) && matchesLevels filter rest) := by
        rw [matchesLevels.eq_def]
        simp [hhash]
      simp only [hmatch, hplus, decide_false, Bool.false_or, Bool.and_eq_true,
        decide_eq_true_eq]
      constructor
      · rintro ⟨rfl, hrest⟩
        exact ⟨rest, rfl, hrest⟩
      · rintro ⟨below, heq, hrest⟩
        cases heq
        exact ⟨rfl, hrest⟩

theorem matchesLevels_plus :
    matchesLevels ("+" :: filter) path = true ↔
      ∃ level rest, path = level :: rest ∧
        matchesLevels filter rest = true := by
  cases path with
  | nil => simp [matchesLevels]
  | cons level rest => simp [matchesLevels]

/-- Literal levels at the front of a filter are those of the topic. -/
theorem matchesLevels_append {front : List String}
    (hliteral : ∀ level ∈ front, Literal level) :
    matchesLevels (front ++ filter) path = true ↔
      ∃ rest, path = front ++ rest ∧ matchesLevels filter rest = true := by
  induction front generalizing path with
  | nil => simp
  | cons level front ih =>
      rw [List.forall_mem_cons] at hliteral
      rw [List.cons_append, matchesLevels_literal hliteral.1]
      constructor
      · rintro ⟨below, rfl, hbelow⟩
        obtain ⟨rest, rfl, hrest⟩ := (ih hliteral.2).mp hbelow
        exact ⟨rest, rfl, hrest⟩
      · rintro ⟨rest, rfl, hrest⟩
        exact ⟨front ++ rest, rfl, (ih hliteral.2).mpr ⟨rest, rfl, hrest⟩⟩

end Matching

end TopicPath
