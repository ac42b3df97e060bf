import CoEdit.Text.Blank
import Mathlib.Data.List.DropRight
import Mathlib.Tactic.Common

/-!
# What Trimming Leaves

A text is white space, then what is left of it by trimming, then white space again. What is left
neither begins nor ends with white space, which determines it.

## Main definitions

* `Trims`: one text is what lies between the white space at the two ends of another.

## Main results

* `trims_iff`: trimming gives the one text that lies there.
* `Trims.isBlank_eq`: trimming makes no text blank that was not.
-/

namespace CoEdit.Text

variable {front back core rest : List Char} {s t : String}

/-- The text `t` is what lies between the white space at the two ends of `s`. -/
structure Trims (s t : String) : Prop where
  between : ∃ front back : List Char, s.toList = front ++ t.toList ++ back ∧
    (∀ c ∈ front, isWhite c = true) ∧ ∀ c ∈ back, isWhite c = true
  first : ∀ c ∈ t.toList.head?, isWhite c = false
  last : ∀ c ∈ t.toList.getLast?, isWhite c = false

/-- What passes a test at the front goes, if something else comes behind it. -/
theorem dropWhile_front {test : Char → Bool} (hfront : ∀ c ∈ front, test c = true)
    (hrest : ∀ c ∈ rest.head?, test c = false) : (front ++ rest).dropWhile test = rest := by
  rw [List.dropWhile_append_of_pos hfront]
  cases rest with
  | nil => rfl
  | cons c rest =>
      have hc : ¬test c = true := Bool.eq_false_iff.mp (hrest c rfl)
      exact List.dropWhile_cons_of_neg hc

/-- White space goes from both ends of something that neither begins nor ends with it. -/
theorem trimChars_eq (hfront : ∀ c ∈ front, isWhite c = true)
    (hback : ∀ c ∈ back, isWhite c = true) (hfirst : ∀ c ∈ core.head?, isWhite c = false)
    (hlast : ∀ c ∈ core.getLast?, isWhite c = false) :
    trimChars (front ++ core ++ back) = core := by
  rw [trimChars]
  by_cases hcore : core = []
  · -- There is nothing but white space, and already the first pass takes all of it.
    subst hcore
    have hwhite : ∀ c ∈ front ++ back, isWhite c = true := by
      intro c hc
      rcases List.mem_append.mp hc with hc | hc
      · exact hfront c hc
      · exact hback c hc
    rw [List.append_nil, List.dropWhile_eq_nil_iff.mpr hwhite]
    rfl
  · have hhead : ∀ c ∈ (core ++ back).head?, isWhite c = false := by
      rw [List.head?_append_of_ne_nil core hcore]
      exact hfirst
    have hback' : ∀ c ∈ back.reverse, isWhite c = true := by
      intro c hc
      exact hback c (List.mem_reverse.mp hc)
    have hlast' : ∀ c ∈ core.reverse.head?, isWhite c = false := by
      rw [List.head?_reverse]
      exact hlast
    rw [List.append_assoc, dropWhile_front hfront hhead, List.reverse_append,
      dropWhile_front hback' hlast', List.reverse_reverse]

/-- Trimming only takes white space away, and all of it. -/
theorem trims_trim (s : String) : Trims s (trim s) := by
  have hcore : (trim s).toList = (s.toList.dropWhile isWhite).rdropWhile isWhite :=
    String.toList_ofList
  refine ⟨⟨s.toList.takeWhile isWhite, (s.toList.dropWhile isWhite).rtakeWhile isWhite, ?_, ?_, ?_⟩,
    ?_, ?_⟩
  · rw [hcore, List.append_assoc, List.rdropWhile_append_rtakeWhile,
      List.takeWhile_append_dropWhile]
  · intro c hc
    exact List.mem_takeWhile_imp hc
  · intro c hc
    exact List.mem_rtakeWhile_imp hc
  · -- The first character left is that behind the white space in front.
    intro c hc
    rw [hcore, Option.mem_def] at hc
    obtain ⟨rest, hrest⟩ := List.rdropWhile_prefix isWhite (s.toList.dropWhile isWhite)
    have hhead : (s.toList.dropWhile isWhite).head? = some c := by
      rw [← hrest, List.head?_append, hc, Option.some_or]
    have hstop := List.head?_dropWhile_not isWhite s.toList
    rw [hhead] at hstop
    exact hstop
  · intro c hc
    rw [hcore] at hc
    obtain ⟨hne, rfl⟩ := List.mem_getLast?_eq_getLast hc
    exact Bool.eq_false_iff.mpr (List.rdropWhile_last_not isWhite _ hne)

/-- **Trimming.** What is left of a text is what lies between the white space at its two ends. -/
theorem trims_iff : Trims s t ↔ t = trim s := by
  constructor
  · rintro ⟨⟨front, back, hs, hfront, hback⟩, hfirst, hlast⟩
    rw [trim, hs, trimChars_eq hfront hback hfirst hlast, String.ofList_toList]
  · rintro rfl
    exact trims_trim s

/-- Trimming makes no text blank that was not. -/
theorem Trims.isBlank_eq (h : Trims s t) : isBlank t = isBlank s := by
  obtain ⟨⟨front, back, hs, hfront, hback⟩, -, -⟩ := h
  rw [isBlank, isBlank, hs, List.all_append, List.all_append, List.all_eq_true.mpr hfront,
    List.all_eq_true.mpr hback, Bool.true_and, Bool.and_true]

/-- Texts put together are blank if all of them are. -/
theorem isBlank_append (s t : String) : isBlank (s ++ t) = (isBlank s && isBlank t) := by
  rw [isBlank, String.toList_append, List.all_append, isBlank, isBlank]

end CoEdit.Text
