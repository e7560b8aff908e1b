import Mathlib.Data.List.Infix

/-!
# Deleting words from a text

All occurrences of given words are deleted from a list, also those that overlap: an element is kept
if it is in none of them.

## Main definitions

* `deleteOccurrences`.

## Main results

* `deleteOccurrences_of_not_infix`.
-/

namespace ClassroomSuite.Library

variable {α : Type*} [BEq α] (words : List (List α))

/-- The number of elements at the beginning that are in the longest word that occurs there. -/
def coveredLength (cs : List α) : ℕ :=
  ((words.filter (·.isPrefixOf cs)).map List.length).foldr max 0

/-- What is left of a list of which the first `covered` elements are in an occurrence that began
before it. -/
def deleteFrom : ℕ → List α → List α
  | _, [] => []
  | covered, c :: cs =>
    match max covered (coveredLength words (c :: cs)) with
    | 0 => c :: deleteFrom 0 cs
    | covered + 1 => deleteFrom covered cs

/-- The text without the occurrences of the words. -/
def deleteOccurrences (cs : List α) : List α := deleteFrom words 0 cs

example : deleteOccurrences ["signingkey".toList, "keyref".toList] "a signingkeyref key".toList =
    "a  key".toList := by decide

variable {words} [LawfulBEq α]

theorem coveredLength_eq_zero {cs : List α} (h : ∀ w ∈ words, ¬ w <+: cs) :
    coveredLength words cs = 0 := by
  have hnone : words.filter (·.isPrefixOf cs) = [] :=
    List.filter_eq_nil_iff.mpr fun w hw hprefix => h w hw (List.isPrefixOf_iff_prefix.mp hprefix)
  rw [coveredLength, hnone]
  rfl

/-- Where no word occurs, everything is left. -/
theorem deleteOccurrences_of_not_infix {cs : List α} (h : ∀ w ∈ words, ¬ w <:+: cs) :
    deleteOccurrences words cs = cs := by
  rw [deleteOccurrences]
  induction cs with
  | nil => rfl
  | cons c cs ih =>
    have hzero : coveredLength words (c :: cs) = 0 :=
      coveredLength_eq_zero fun w hw hprefix => h w hw hprefix.isInfix
    rw [deleteFrom, hzero]
    exact congrArg (c :: ·) (ih fun w hw hinfix => h w hw (List.infix_cons hinfix))

end ClassroomSuite.Library
