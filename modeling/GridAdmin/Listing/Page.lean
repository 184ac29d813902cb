import GridAdmin.LocalTime

/-!
# Pages of a listing

A page of query output is a text of lines. Empty lines are dropped, and so are
the lines about the class and the object count of a resource. A line of the
form `name_ts: seconds` is shown with the seconds as a time; every other line
is shown as it is.

## Main results

* `pageLines_append`: the lines of a page can be cut apart at any newline.
-/

namespace GridAdmin.Listing

/-- A line that is not shown. -/
def isHidden (line : List Char) : Bool :=
  Text.occursIn "resc_class".toList line || Text.occursIn "resc_objcount".toList line

/-- A line with seconds behind its only colon, with the seconds as a time. Any
other line stays as it is. -/
def showTime (line : List Char) : List Char :=
  match Text.cutAt ':' line with
  | none => line
  | some (name, value) =>
      if ':' ∈ value then line
      else
        match Text.readInt64? (Text.trim value) with
        | some seconds => name ++ ':' :: ' ' :: LocalTime.text seconds.toInt
        | none => line

/-- How one line is shown. -/
def showLine (line : List Char) : List Char :=
  if Text.occursIn "_ts:".toList line then showTime line else line

/-- The lines of a page as they are shown. -/
def pageLines (page : List Char) : List (List Char) :=
  ((page.splitOn '\n').filter fun line => !line.isEmpty && !isHidden line).map showLine

/-- The lines of a page as they are shown. -/
def pageText (page : String) : List String :=
  (pageLines page.toList).map String.ofList

theorem pageLines_append (first second : List Char) :
    pageLines (first ++ '\n' :: second) = pageLines first ++ pageLines second := by
  simp [pageLines, List.splitOn_append_cons_self]

end GridAdmin.Listing
