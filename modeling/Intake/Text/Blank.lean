/-! Blank characters, the Unicode property White_Space, and the removal of blanks at both ends. -/

namespace Intake

/-- Every code point with the Unicode property White_Space, in ascending order. -/
def blankCodePoints : List Nat :=
  [0x9, 0xA, 0xB, 0xC, 0xD, 0x20, 0x85, 0xA0, 0x1680, 0x2000, 0x2001, 0x2002, 0x2003, 0x2004,
    0x2005, 0x2006, 0x2007, 0x2008, 0x2009, 0x200A, 0x2028, 0x2029, 0x202F, 0x205F, 0x3000]

/-- Whether a character is blank. -/
def isBlank (c : Char) : Bool := blankCodePoints.contains c.toNat

/-- The characters from the first that is not blank. -/
def dropBlanks (cs : List Char) : List Char := cs.dropWhile isBlank

/-- The characters without the blanks at either end. -/
def trimBlanks (cs : List Char) : List Char := (dropBlanks (dropBlanks cs).reverse).reverse

/-- The text without the blanks at either end. -/
def trim (text : String) : String := String.ofList (trimBlanks text.toList)

/-- What remains after dropping blanks starts with none. -/
theorem dropBlanks_head (cs : List Char) : ∀ c ∈ (dropBlanks cs).head?, isBlank c = false := by
  -- The library states the same of every predicate.
  intro c first
  have kept := List.head?_dropWhile_not isBlank cs
  simp only [dropBlanks, Option.mem_def] at first
  rw [first] at kept
  exact kept

/-- Characters that start with none blank lose nothing. -/
theorem dropBlanks_of_head {cs : List Char} (first : ∀ c ∈ cs.head?, isBlank c = false) :
    dropBlanks cs = cs := by
  -- Dropping stops at once at a character that is no blank.
  cases cs with
  | nil => rfl
  | cons c rest => simp [dropBlanks, first c (by simp)]

/-- Dropping blanks keeps the last character of what it keeps. -/
theorem dropBlanks_getLast {cs : List Char} (kept : dropBlanks cs ≠ []) :
    (dropBlanks cs).getLast? = cs.getLast? := by
  -- What is kept is a suffix, so both end alike.
  obtain ⟨front, split⟩ := List.dropWhile_suffix (l := cs) isBlank
  rw [dropBlanks] at kept ⊢
  conv => rhs; rw [← split]
  rw [List.getLast?_append, List.getLast?_eq_some_getLast kept, Option.some_or]

/-- Trimmed characters start with none blank. -/
theorem trimBlanks_head (cs : List Char) : ∀ c ∈ (trimBlanks cs).head?, isBlank c = false := by
  -- The first character survives the second pass, which only cuts at the end.
  intro c first
  simp only [trimBlanks, List.head?_reverse] at first
  by_cases empty : dropBlanks (dropBlanks cs).reverse = []
  · simp [empty] at first
  · rw [dropBlanks_getLast empty, List.getLast?_reverse] at first
    exact dropBlanks_head cs c first

/-- Trimmed characters end with none blank. -/
theorem trimBlanks_last (cs : List Char) : ∀ c ∈ (trimBlanks cs).getLast?, isBlank c = false := by
  -- The last character is the first one of the reversed pass.
  intro c last
  simp only [trimBlanks, List.getLast?_reverse] at last
  exact dropBlanks_head _ c last

/-- Characters with none blank at either end lose nothing. -/
theorem trimBlanks_of_ends {cs : List Char} (first : ∀ c ∈ cs.head?, isBlank c = false)
    (last : ∀ c ∈ cs.getLast?, isBlank c = false) : trimBlanks cs = cs := by
  unfold trimBlanks
  rw [dropBlanks_of_head first, dropBlanks_of_head (by simpa using last), List.reverse_reverse]

/-- Trimming twice is trimming once. -/
@[simp] theorem trimBlanks_trimBlanks (cs : List Char) :
    trimBlanks (trimBlanks cs) = trimBlanks cs :=
  trimBlanks_of_ends (trimBlanks_head cs) (trimBlanks_last cs)

/-- Trimming a text twice is trimming it once. -/
@[simp] theorem trim_trim (text : String) : trim (trim text) = trim text := by
  simp [trim]

end Intake
