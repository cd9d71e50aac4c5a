import Mathlib.Algebra.BigOperators.Group.List.Basic
import Mathlib.Data.List.Basic

/-!
# Tags of a filled template

`tags` lists what the pattern `<[A-Za-z/!?][^>]*>` matches in a text, from left to right: tags,
comments and declarations.  A template is a row of fragments with a value in each gap.  Filling the
gaps leaves the tags of the template alone exactly when no value opens a tag.
-/

namespace EnterpriseAuth.Effects.Markup

/-- A `<` in front of the text opens a tag. -/
def opens : List Char → Bool
  | [] => false
  | next :: _ => next.isAlpha || next = '/' || next = '!' || next = '?'

/-- The tags of the text; the first argument is what has been read of an open one. -/
def scan : Option (List Char) → List Char → List (List Char)
  | _, [] => []
  | none, next :: rest =>
    if next = '<' && opens rest then scan (some [next]) rest else scan none rest
  | some tag, next :: rest =>
    if next = '>' then (tag ++ [next]) :: scan none rest else scan (some (tag ++ [next])) rest

def tags (text : List Char) : List (List Char) := scan none text

/-- Somewhere in the text a tag opens. -/
def opensTag : List Char → Bool
  | [] => false
  | next :: rest => next = '<' && opens rest || opensTag rest

/-- The fragments of a template with the values between them. -/
def fill : List Char → List (List Char × List Char) → List Char
  | first, [] => first
  | first, (value, next) :: gaps => first ++ (value ++ fill next gaps)

/-- All characters of the tags. -/
def weight (tags : List (List Char)) : ℕ := tags.flatten.length

@[simp]
theorem weight_cons (tag : List Char) (others : List (List Char)) :
    weight (tag :: others) = tag.length + weight others := by
  simp [weight]

variable {text rest tag value first next : List Char} {gaps : List (List Char × List Char)}

theorem opens_append (quiet : opens rest = false) : opens (text ++ rest) = opens text := by
  cases text with
  | nil => exact quiet
  | cons next others => rfl

theorem opens_append_of_ne (filled : text ≠ []) : opens (text ++ rest) = opens text := by
  cases text with
  | nil => exact absurd rfl filled
  | cons next others => rfl

/-- A value without tags is passed over. -/
theorem scan_of_plain (plain : opensTag value = false) (quiet : opens rest = false) :
    scan none (value ++ rest) = scan none rest := by
  induction value with
  | nil => rfl
  | cons next others inductionHypothesis =>
    simp only [opensTag, Bool.or_eq_false_iff] at plain
    rw [List.cons_append, scan, opens_append quiet, plain.1]
    exact inductionHypothesis plain.2

/-! ## Fragments -/

/-- No tag is open at the end of the text, nor can one be opened by what follows. -/
def endsOutside : Bool → List Char → Bool
  | inside, [] => !inside
  | false, next :: rest =>
    if next = '<' then rest ≠ [] && endsOutside (opens rest) rest else endsOutside false rest
  | true, next :: rest => endsOutside (next ≠ '>') rest

/-- After such a text the scan starts afresh. -/
theorem scan_append (text rest : List Char) :
    (endsOutside false text → scan none (text ++ rest) = scan none text ++ scan none rest) ∧
      (endsOutside true text → ∀ tag,
        scan (some tag) (text ++ rest) = scan (some tag) text ++ scan none rest) := by
  induction text with
  | nil => exact ⟨fun _ => rfl, fun inside => by cases inside⟩
  | cons next others inductionHypothesis =>
    obtain ⟨outside, inside⟩ := inductionHypothesis
    constructor
    · intro ends
      rw [endsOutside] at ends
      -- only an opening bracket looks at the character that follows it
      by_cases bracket : next = '<'
      · rw [if_pos bracket, Bool.and_eq_true, decide_eq_true_eq] at ends
        obtain ⟨filled, ends⟩ := ends
        have same : opens (others ++ rest) = opens others := opens_append_of_ne filled
        rw [List.cons_append, scan, scan, same]
        cases opened : opens others with
        | true =>
          simp only [bracket, decide_true, Bool.and_true, if_true]
          exact inside (opened ▸ ends) _
        | false =>
          simp only [Bool.and_false, Bool.false_eq_true, if_false]
          exact outside (opened ▸ ends)
      · rw [if_neg bracket] at ends
        simp only [List.cons_append, scan, bracket, decide_false, Bool.false_and, Bool.false_eq_true,
          if_false]
        exact outside ends
    · intro ends tag
      rw [endsOutside] at ends
      by_cases closing : next = '>'
      · simp only [closing, ne_eq, not_true, decide_false] at ends
        rw [List.cons_append, scan, scan, if_pos closing, if_pos closing, outside ends]
        rfl
      · simp only [closing, ne_eq, not_false_iff, decide_true] at ends
        rw [List.cons_append, scan, scan, if_neg closing, if_neg closing]
        exact inside ends _

/-- The first bracket of the fragment belongs to a complete tag, and none is opened by its start. -/
structure Leads (fragment : List Char) : Prop where
  quiet : opens fragment = false
  tag : ∃ text inner rest, fragment = text ++ '<' :: (inner ++ '>' :: rest) ∧
    (∀ character ∈ text, character ≠ '<' ∧ character ≠ '>') ∧
      (∀ character ∈ inner, character ≠ '>') ∧ opens inner

theorem Leads.append {fragment : List Char} (leads : Leads fragment) (more : List Char) :
    Leads (fragment ++ more) := by
  obtain ⟨quiet, text, inner, rest, rfl, outer, within, opened⟩ := leads
  refine ⟨?_, text, inner, rest ++ more, by simp, outer, within, opened⟩
  rw [opens_append_of_ne (by simp)]
  exact quiet

theorem scan_text (plain : ∀ character ∈ text, character ≠ '<') :
    scan none (text ++ rest) = scan none rest := by
  induction text with
  | nil => rfl
  | cons next others inductionHypothesis =>
    simp only [List.mem_cons, forall_eq_or_imp] at plain
    simp only [List.cons_append, scan, plain.1, decide_false, Bool.false_and, Bool.false_eq_true,
      if_false]
    exact inductionHypothesis plain.2

theorem scan_inside (within : ∀ character ∈ text, character ≠ '>') :
    scan (some tag) (text ++ '>' :: rest) = (tag ++ text ++ ['>']) :: scan none rest := by
  induction text generalizing tag with
  | nil => simp [scan]
  | cons next others inductionHypothesis =>
    simp only [List.mem_cons, forall_eq_or_imp] at within
    rw [List.cons_append, scan, if_neg within.1, inductionHypothesis within.2]
    simp

/-- An open tag takes the text up to the first tag of the fragment, and this tag, with it. -/
theorem Leads.weight_lt {fragment : List Char} (leads : Leads fragment) (begun : tag ≠ []) :
    weight (scan none fragment) < weight (scan (some tag) fragment) := by
  obtain ⟨-, text, inner, rest, rfl, outer, within, opened⟩ := leads
  have plain : scan none (text ++ '<' :: (inner ++ '>' :: rest)) =
      ('<' :: inner ++ ['>']) :: scan none rest := by
    have filled : inner ≠ [] := by
      rintro rfl
      cases opened
    rw [scan_text fun character member => (outer character member).1, scan,
      opens_append_of_ne filled, opened, if_pos (by simp), scan_inside within]
    rfl
  have taken : scan (some tag) (text ++ '<' :: (inner ++ '>' :: rest)) =
      (tag ++ (text ++ '<' :: inner) ++ ['>']) :: scan none rest := by
    rw [← scan_inside]
    · simp
    · intro character member
      simp only [List.mem_append, List.mem_cons] at member
      rcases member with inText | rfl | inInner
      · exact (outer character inText).2
      · decide
      · exact within character inInner
  have length : 0 < tag.length := List.length_pos_of_ne_nil begun
  rw [plain, taken]
  simp only [weight_cons, List.length_append, List.length_cons]
  omega

/-- A value can only add to the tags of what follows, and does so when it opens one. -/
theorem Leads.weight_value {fragment : List Char} (leads : Leads fragment) (value : List Char) :
    (weight (scan none fragment) ≤ weight (scan none (value ++ fragment)) ∧
      (opensTag value → weight (scan none fragment) < weight (scan none (value ++ fragment)))) ∧
      ∀ tag, tag ≠ [] → weight (scan none fragment) < weight (scan (some tag) (value ++ fragment)) := by
  induction value with
  | nil => exact ⟨⟨Nat.le_refl _, fun opened => by cases opened⟩, fun tag begun => leads.weight_lt begun⟩
  | cons next others inductionHypothesis =>
    obtain ⟨⟨least, strict⟩, inside⟩ := inductionHypothesis
    constructor
    · rw [List.cons_append, scan, opens_append leads.quiet, opensTag]
      cases opened : (decide (next = '<') && opens others) with
      | true =>
        rw [if_pos rfl]
        have more := inside [next] (by simp)
        exact ⟨Nat.le_of_lt more, fun _ => more⟩
      | false =>
        rw [if_neg (by simp), Bool.false_or]
        exact ⟨least, strict⟩
    · intro tag begun
      rw [List.cons_append, scan]
      split
      · simp only [weight_cons, List.length_append, List.length_cons] at least ⊢
        omega
      · exact inside _ (by simp)

/-! ## Templates -/

/-- Each gap lies between a fragment that ends outside of tags and one that leads to a tag. -/
inductive Solid : List Char → List (List Char × List Char) → Prop
  | last (fragment : List Char) : Solid fragment []
  | gap {first value next : List Char} {gaps : List (List Char × List Char)}
    (ends : endsOutside false first) (leads : Leads next) (rest : Solid next gaps) :
    Solid first ((value, next) :: gaps)

/-- The tags of the template itself. -/
def ownTags (first : List Char) (gaps : List (List Char × List Char)) : List (List Char) :=
  tags first ++ gaps.flatMap fun gap => tags gap.2

theorem fill_leads (leads : Leads first) (gaps : List (List Char × List Char)) :
    Leads (fill first gaps) := by
  cases gaps with
  | nil => exact leads
  | cons gap gaps => exact leads.append _

theorem weight_append (front behind : List (List Char)) :
    weight (front ++ behind) = weight front + weight behind := by
  simp [weight]

theorem tags_fill_of_plain (solid : Solid first gaps) (plain : ∀ gap ∈ gaps, opensTag gap.1 = false) :
    tags (fill first gaps) = ownTags first gaps := by
  induction solid with
  | last fragment => simp [fill, ownTags]
  | @gap first value next gaps ends leads rest inductionHypothesis =>
    simp only [List.mem_cons, forall_eq_or_imp] at plain
    have others := inductionHypothesis plain.2
    rw [fill, tags, (scan_append first _).1 ends,
      scan_of_plain plain.1 (fill_leads leads gaps).quiet]
    simp only [ownTags, tags, List.flatMap_cons] at others ⊢
    rw [others]

theorem weight_fill (solid : Solid first gaps) :
    weight (ownTags first gaps) ≤ weight (tags (fill first gaps)) ∧
      ((∃ gap ∈ gaps, opensTag gap.1) →
        weight (ownTags first gaps) < weight (tags (fill first gaps))) := by
  induction solid with
  | last fragment => simp [fill, ownTags]
  | @gap first value next gaps ends leads rest inductionHypothesis =>
    obtain ⟨least, strict⟩ := inductionHypothesis
    obtain ⟨⟨leastValue, strictValue⟩, -⟩ := (fill_leads leads gaps).weight_value value
    have own : weight (ownTags first ((value, next) :: gaps)) =
        weight (tags first) + weight (ownTags next gaps) := by
      simp [ownTags, weight_append]
    have whole : weight (tags (fill first ((value, next) :: gaps))) =
        weight (tags first) + weight (scan none (value ++ fill next gaps)) := by
      rw [fill, tags, (scan_append first _).1 ends, weight_append]
      rfl
    rw [own, whole]
    simp only [tags] at least strict ⊢
    refine ⟨by omega, ?_⟩
    rintro ⟨gap, member, opened⟩
    cases List.mem_cons.mp member with
    | inl here =>
      subst here
      have more := strictValue opened
      omega
    | inr later =>
      have more := strict ⟨gap, later, opened⟩
      omega

/-- A filled template has its own tags and no other ones exactly when no value opens a tag. -/
theorem tags_fill_iff (solid : Solid first gaps) :
    tags (fill first gaps) = ownTags first gaps ↔ ∀ gap ∈ gaps, opensTag gap.1 = false := by
  constructor
  · intro same gap member
    by_contra opened
    have more := (weight_fill solid).2 ⟨gap, member, by simpa using opened⟩
    rw [same] at more
    exact Nat.lt_irrefl _ more
  · exact tags_fill_of_plain solid

end EnterpriseAuth.Effects.Markup
