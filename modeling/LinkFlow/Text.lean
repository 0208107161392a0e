/-
Text helpers: trimming, and the patterns "one leading character, then any number
of others" that the identifiers, slugs and schema names are made of.
-/
import Mathlib.Data.List.DropRight

namespace LinkFlow

/-- `unicode.IsSpace`. -/
def isSpace (char : Char) : Bool :=
  char ∈ ['\t', '\n', '\x0b', '\x0c', '\r', ' ', '\u0085', '\u00a0', '\u1680',
    '\u2028', '\u2029', '\u202f', '\u205f', '\u3000'] ||
  ('\u2000' ≤ char && char ≤ '\u200a')

/-- `strings.TrimSpace`. -/
def trimSpace (text : String) : String :=
  String.ofList ((text.toList.dropWhile isSpace).rdropWhile isSpace)

/-- A text with nothing to drop is left as it is. -/
theorem trimmed_eq_self {drop : Char → Bool} {text : String}
    (hclean : ∀ char ∈ text.toList, drop char = false) :
    String.ofList ((text.toList.dropWhile drop).rdropWhile drop) = text := by
  have hfront : text.toList.dropWhile drop = text.toList := by
    rw [List.dropWhile_eq_self_iff]
    intro hlength
    simp [hclean _ (List.getElem_mem hlength)]
  have hback : text.toList.rdropWhile drop = text.toList := by
    rw [List.rdropWhile_eq_self_iff]
    intro hne
    simp [hclean _ (List.getLast_mem hne)]
  rw [hfront, hback, String.ofList_toList]

theorem trimSpace_eq_self {text : String}
    (hclean : ∀ char ∈ text.toList, isSpace char = false) :
    trimSpace text = text :=
  trimmed_eq_self hclean

/-- What is left of a trimmed front starts with no space either. -/
theorem dropWhile_of_prefix {keep : Char → Bool} {text front : List Char}
    (hfront : front <+: text.dropWhile keep) :
    front.dropWhile keep = front := by
  cases front with
  | nil => rfl
  | cons char rest =>
      obtain ⟨back, hback⟩ := hfront
      have hhead := List.head?_dropWhile_not keep text
      rw [← hback] at hhead
      have hchar : keep char = false := by simpa using hhead
      simp [hchar]

@[simp] theorem trimSpace_trimSpace (text : String) :
    trimSpace (trimSpace text) = trimSpace text := by
  unfold trimSpace
  rw [String.toList_ofList, dropWhile_of_prefix (List.rdropWhile_prefix _ _),
    List.rdropWhile_idempotent]

def isLowerLetter (char : Char) : Bool := 'a' ≤ char && char ≤ 'z'

def isUpperLetter (char : Char) : Bool := 'A' ≤ char && char ≤ 'Z'

def isDigit (char : Char) : Bool := '0' ≤ char && char ≤ '9'

/-- The class `[A-Za-z]`. -/
def isLetter (char : Char) : Bool := isLowerLetter char || isUpperLetter char

/-- The class `[A-Za-z0-9_]`. -/
def isWord (char : Char) : Bool := isLetter char || isDigit char || char = '_'

/-- A leading character of one class, then characters of another. -/
structure Pattern where
  head : Char → Bool
  tail : Char → Bool

def Pattern.matches (pattern : Pattern) (text : String) : Bool :=
  match text.toList with
  | [] => false
  | first :: rest => pattern.head first && rest.all pattern.tail

/-- What holds of both classes holds of every character of an accepted text. -/
theorem Pattern.forall_of_matches {pattern : Pattern} {P : Char → Prop}
    (hhead : ∀ char, pattern.head char = true → P char)
    (htail : ∀ char, pattern.tail char = true → P char)
    {text : String} (hmatches : pattern.matches text = true) :
    text ≠ "" ∧ ∀ char ∈ text.toList, P char := by
  rw [Pattern.matches] at hmatches
  split at hmatches
  · cases hmatches
  next first rest htext =>
    simp only [Bool.and_eq_true, List.all_eq_true] at hmatches
    refine ⟨fun hempty => ?_, fun char hchar => ?_⟩
    · rw [hempty] at htext
      cases htext
    · rw [htext] at hchar
      rcases List.mem_cons.mp hchar with rfl | hrest
      · exact hhead char hmatches.1
      · exact htail char (hmatches.2 char hrest)

end LinkFlow
