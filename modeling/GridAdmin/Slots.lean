/-!
# Rows of text slots

A typed command has twenty slots and an administrative request has ten. Both
are rows of fixed width in which an unused slot is the empty text, so a slot
past the end reads as empty too and writing there has no effect. The width is
part of the type: no operation can change it.

## Main results

* `Slots.get_ofWords`: what a slot holds after filling a row from words.
* `Slots.get_set`: writing changes exactly the slot it names.
* `Slots.ext_get`: rows with equal slots are equal.
-/

namespace GridAdmin

/-- `width` texts in order. -/
structure Slots (width : Nat) where
  cells : List String
  length_cells : cells.length = width
  deriving DecidableEq

namespace Slots

variable {width : Nat}

/-- Fill a row from its first slot on; words past the end are dropped and
missing ones are empty. -/
def ofWords (words : List String) : Slots width where
  cells := (words ++ List.replicate width "").take width
  length_cells := by simp

/-- The row with every slot empty. -/
def blank : Slots width := ofWords []

instance : Inhabited (Slots width) := ⟨blank⟩

/-- The text at `index`; empty past the end. -/
def get (row : Slots width) (index : Nat) : String :=
  row.cells[index]?.getD ""

/-- Overwrite the slot at `index`; nothing happens past the end. -/
def set (row : Slots width) (index : Nat) (text : String) : Slots width where
  cells := row.cells.set index text
  length_cells := by simp [row.length_cells]

/-- The leading slots up to the first empty one. -/
def leading (row : Slots width) : List String :=
  row.cells.takeWhile (· ≠ "")

theorem get_of_ge (row : Slots width) {index : Nat} (hPast : width ≤ index) :
    row.get index = "" := by
  have hNone : row.cells[index]? = none :=
    List.getElem?_eq_none (by rw [row.length_cells]; exact hPast)
  simp [get, hNone]

theorem get_ofWords (words : List String) (index : Nat) :
    (ofWords words : Slots width).get index
      = if index < width then words[index]?.getD "" else "" := by
  by_cases hIn : index < width
  · simp only [get, ofWords, hIn, if_true, List.getElem?_take, List.getElem?_append]
    by_cases hWord : index < words.length
    · simp [hWord]
    · have hNone : words[index]? = none := List.getElem?_eq_none (by omega)
      simp only [hWord, if_false, hNone, List.getElem?_replicate]
      split <;> rfl
  · rw [get_of_ge _ (by omega), if_neg hIn]

theorem get_set (row : Slots width) (index other : Nat) (text : String) :
    (row.set index text).get other
      = if other = index ∧ index < width then text else row.get other := by
  by_cases hSame : other = index
  · subst hSame
    by_cases hIn : other < width
    · have hCell : other < row.cells.length := by rw [row.length_cells]; exact hIn
      simp [get, set, hIn, hCell]
    · rw [get_of_ge _ (by omega), get_of_ge _ (by omega)]
      simp [hIn]
  · have hOther : index ≠ other := Ne.symm hSame
    simp [get, set, hSame, hOther]

theorem ext_get {first second : Slots width}
    (hGet : ∀ index < width, first.get index = second.get index) : first = second := by
  have hCells : first.cells = second.cells := by
    apply List.ext_getElem
    · rw [first.length_cells, second.length_cells]
    · intro index hFirst hSecond
      have hSlot := hGet index (by rw [← first.length_cells]; exact hFirst)
      simpa [get, List.getElem?_eq_getElem hFirst, List.getElem?_eq_getElem hSecond]
        using hSlot
  cases first
  cases second
  simp_all

end Slots

end GridAdmin
