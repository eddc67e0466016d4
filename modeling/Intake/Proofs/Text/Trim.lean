import Mathlib.Data.List.TakeWhile
import Intake.Text.Blank

/-! Trimming a text leaves what stands between its blanks, and there is only one such part. -/

namespace Intake

/-- A part of a text that starts and ends with no blank, and has nothing but blanks around it. -/
structure Trims (text core : String) : Prop where
  around : ∃ before after : List Char, text.toList = before ++ (core.toList ++ after) ∧
    (∀ c ∈ before, isBlank c = true) ∧ ∀ c ∈ after, isBlank c = true
  first : ∀ c ∈ core.toList.head?, isBlank c = false
  last : ∀ c ∈ core.toList.getLast?, isBlank c = false

/-- Blanks in front of some characters do not change what remains of them. -/
theorem dropBlanks_append {before : List Char} (blank : ∀ c ∈ before, isBlank c = true)
    (cs : List Char) : dropBlanks (before ++ cs) = dropBlanks cs :=
  List.dropWhile_append_of_pos blank

/-- Characters that start and end with no blank are what remains when there are blanks around them. -/
theorem trimBlanks_append {before core after : List Char} (infront : ∀ c ∈ before, isBlank c = true)
    (first : ∀ c ∈ core.head?, isBlank c = false) (last : ∀ c ∈ core.getLast?, isBlank c = false)
    (behind : ∀ c ∈ after, isBlank c = true) : trimBlanks (before ++ (core ++ after)) = core := by
  unfold trimBlanks
  rw [dropBlanks_append infront]
  cases core with
  -- Without a character that is kept, all of them are dropped from the front.
  | nil =>
    have gone := dropBlanks_append behind []
    rw [List.append_nil] at gone
    rw [List.nil_append, gone]
    rfl
  | cons c rest =>
    have starts : ∀ d ∈ ((c :: rest) ++ after).head?, isBlank d = false := fun d member => first d member
    have ends : ∀ d ∈ (c :: rest).reverse.head?, isBlank d = false := by
      rw [List.head?_reverse]
      exact last
    rw [dropBlanks_of_head starts, List.reverse_append,
      dropBlanks_append fun d member => behind d (List.mem_reverse.mp member), dropBlanks_of_head ends,
      List.reverse_reverse]

/-- Characters are blanks, what remains of them without blanks at either end, and blanks again. -/
theorem trimBlanks_around (cs : List Char) :
    ∃ before after, cs = before ++ (trimBlanks cs ++ after) ∧
      (∀ c ∈ before, isBlank c = true) ∧ ∀ c ∈ after, isBlank c = true := by
  refine ⟨cs.takeWhile isBlank, ((dropBlanks cs).reverse.takeWhile isBlank).reverse, ?_,
    fun c member => List.mem_takeWhile_imp member,
    fun c member => List.mem_takeWhile_imp (List.mem_reverse.mp member)⟩
  -- The blanks at the end are those in front of the reversed rest.
  have rest : trimBlanks cs ++ ((dropBlanks cs).reverse.takeWhile isBlank).reverse = dropBlanks cs := by
    rw [trimBlanks, ← List.reverse_append]
    show ((dropBlanks cs).reverse.takeWhile isBlank ++
      (dropBlanks cs).reverse.dropWhile isBlank).reverse = dropBlanks cs
    rw [List.takeWhile_append_dropWhile, List.reverse_reverse]
  rw [rest]
  exact List.takeWhile_append_dropWhile.symm

/-- Every text has exactly one such part, which trimming gives. -/
theorem trims_iff {text core : String} : Trims text core ↔ core = trim text := by
  -- Any such part is what trimming leaves of the text, and what trimming leaves is such a part.
  constructor
  · rintro ⟨⟨before, after, split, infront, behind⟩, first, last⟩
    rw [trim, split, trimBlanks_append infront first last behind, String.ofList_toList]
  · rintro rfl
    obtain ⟨before, after, split, infront, behind⟩ := trimBlanks_around text.toList
    refine ⟨⟨before, after, ?_, infront, behind⟩, ?_, ?_⟩ <;> rw [trim, String.toList_ofList]
    · exact split
    · exact trimBlanks_head text.toList
    · exact trimBlanks_last text.toList

end Intake
