import Mathlib.Data.List.TakeWhile

/-!
# Prefixes and partitions of texts

`startsWith` and `partitionAt` are the prefix test and the partition at the first occurrence of a
character, on texts read as lists of characters.
-/

namespace ClassroomSuite.Library

/-- Whether the text `s` starts with `pre`. -/
def startsWith (s pre : String) : Bool := pre.toList.isPrefixOf s.toList

/-- The text before the first `sep`, and the text after it; the latter is empty when there is no
`sep`. -/
def partitionAt (sep : Char) (s : String) : String × String :=
  (String.ofList (s.toList.takeWhile (· ≠ sep)),
    String.ofList ((s.toList.dropWhile (· ≠ sep)).drop 1))

theorem startsWith_iff {s pre : String} : startsWith s pre = true ↔ ∃ t, s = pre ++ t := by
  rw [startsWith, List.isPrefixOf_iff_prefix]
  constructor
  · rintro ⟨r, hr⟩
    exact ⟨String.ofList r, String.toList_inj.mp (by simp [hr])⟩
  · rintro ⟨t, rfl⟩
    exact ⟨t.toList, by simp⟩

theorem startsWith_append (s t pre : String) (h : startsWith s pre = true) :
    startsWith (s ++ t) pre = true := by
  obtain ⟨r, rfl⟩ := startsWith_iff.mp h
  exact startsWith_iff.mpr ⟨r ++ t, String.append_assoc ..⟩

/-- A text without `sep` is all before it. -/
theorem partitionAt_of_notMem {sep : Char} {s : String} (h : sep ∉ s.toList) :
    partitionAt sep s = (s, "") := by
  have hall : ∀ c ∈ s.toList, decide (c ≠ sep) = true := fun c hc =>
    decide_eq_true fun hcs => h (hcs ▸ hc)
  have htake : s.toList.takeWhile (fun c => decide (c ≠ sep)) = s.toList :=
    List.takeWhile_eq_self_iff.mpr hall
  have hdrop : s.toList.dropWhile (fun c => decide (c ≠ sep)) = [] :=
    List.dropWhile_eq_nil_iff.mpr hall
  rw [partitionAt, htake, hdrop, String.ofList_toList]
  rfl

/-- A text without `sep`, then `sep`, then any text, is partitioned there. -/
theorem partitionAt_append {sep : Char} {s : String} (h : sep ∉ s.toList) (t : String) :
    partitionAt sep (s ++ String.singleton sep ++ t) = (s, t) := by
  have hall : ∀ c ∈ s.toList, decide (c ≠ sep) = true := fun c hc =>
    decide_eq_true fun hcs => h (hcs ▸ hc)
  have hlist : (s ++ String.singleton sep ++ t).toList = s.toList ++ sep :: t.toList := by simp
  rw [partitionAt, hlist, List.takeWhile_append_of_pos hall, List.dropWhile_append_of_pos hall]
  simp

/-- Either there is no `sep`, or the text is what is before it, `sep`, and what is after it. -/
theorem eq_partitionAt (sep : Char) (s : String) :
    s = (partitionAt sep s).1 ∨
      s = (partitionAt sep s).1 ++ String.singleton sep ++ (partitionAt sep s).2 := by
  have happ := List.takeWhile_append_dropWhile (p := fun c => decide (c ≠ sep)) (l := s.toList)
  cases hd : s.toList.dropWhile (fun c => decide (c ≠ sep)) with
  | nil =>
    left
    apply String.toList_inj.mp
    rw [hd, List.append_nil] at happ
    rw [partitionAt, String.toList_ofList, happ]
  | cons c rest =>
    right
    have hc : c = sep := by
      have hhead := List.head?_dropWhile_not (fun c => decide (c ≠ sep)) s.toList
      rw [hd] at hhead
      simpa using hhead
    apply String.toList_inj.mp
    rw [hd, hc] at happ
    simp only [partitionAt, String.toList_append, String.toList_ofList, String.toList_singleton,
      hd, List.drop_one, List.tail_cons, List.append_assoc, List.singleton_append]
    exact happ.symm

theorem notMem_partitionAt (sep : Char) (s : String) : sep ∉ (partitionAt sep s).1.toList := by
  rw [partitionAt, String.toList_ofList]
  intro h
  simpa using List.mem_takeWhile_imp h

end ClassroomSuite.Library
