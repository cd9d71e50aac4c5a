import Mathlib.Data.List.TakeWhile
import Mathlib.Data.Char

/-!
# Text operations of the source language

`str.split` on one character and `str.strip`, as the handlers use them on header values and codes.
-/

namespace EnterpriseAuth

namespace Text

/-- The characters `str.isspace` accepts, which are the ones `str.strip` removes. -/
def isSpace (character : Char) : Bool :=
  let code := character.toNat
  (0x09 ≤ code && code ≤ 0x0D) || (0x1C ≤ code && code ≤ 0x20) || code == 0x85 || code == 0xA0 ||
    code == 0x1680 || (0x2000 ≤ code && code ≤ 0x200A) || code == 0x2028 || code == 0x2029 ||
    code == 0x202F || code == 0x205F || code == 0x3000

def splitChars (separator : Char) : List Char → List (List Char)
  | [] => [[]]
  | character :: rest =>
    if character = separator then [] :: splitChars separator rest
    else
      match splitChars separator rest with
      | [] => [[character]]
      | first :: others => (character :: first) :: others

def split (text : String) (separator : Char) : List String :=
  (splitChars separator text.toList).map String.ofList

def stripChars (characters : List Char) : List Char :=
  ((characters.dropWhile isSpace).reverse.dropWhile isSpace).reverse

def strip (text : String) : String :=
  String.ofList (stripChars text.toList)

/-- A text without spaces is left as it is. -/
theorem strip_eq_self {text : String} (visible : ∀ character ∈ text.toList, isSpace character = false) :
    strip text = text := by
  have kept (characters : List Char) (visible : ∀ character ∈ characters, isSpace character = false) :
      characters.dropWhile isSpace = characters := by
    cases characters with
    | nil => rfl
    | cons first rest => rw [List.dropWhile_cons_of_neg (by simp [visible first List.mem_cons_self])]
  rw [strip, stripChars, kept _ visible, kept _ fun character member =>
    visible character (List.mem_reverse.mp member), List.reverse_reverse, String.ofList_toList]

theorem splitChars_head (separator : Char) (characters : List Char) :
    (splitChars separator characters).head? =
      some (characters.takeWhile (· ≠ separator)) := by
  induction characters with
  | nil => rfl
  | cons character rest inductionHypothesis =>
    unfold splitChars
    by_cases same : character = separator
    · simp [same]
    · cases split : splitChars separator rest with
      | nil => simp [split] at inductionHypothesis
      | cons first others =>
        simp only [split, List.head?_cons, Option.some.injEq] at inductionHypothesis
        simp [same, inductionHypothesis]

/-- The first element of a split is the text before the first separator. -/
theorem split_head (text : String) (separator : Char) :
    (split text separator).head? =
      some (String.ofList (text.toList.takeWhile (· ≠ separator))) := by
  simp [split, List.head?_map, splitChars_head]

end Text

end EnterpriseAuth
