import GridAdmin.Listing.Page
import GridAdmin.Proofs.TextCuts
import Mathlib.Data.List.Forall2

/-!
# The lines of a listing

A page of a listing is a text with a line for each value, which stands behind the name of its
column and a colon.  What a value is belongs to the catalog: it may be a comment or a path, and
hold any text.  So what becomes of a line should be up to the name of its column alone.  Two
columns are not for showing, the class of a resource and its number of objects; and in a column
whose name ends in `_ts` seconds are shown as a time.

For times this is so, although it is a text with a colon in it that is looked for, and in the
whole line.  Only a line with a single colon is changed, and there the text can only be the end
of the name with the colon behind it.

For the two columns it is not so.  Their names are looked for anywhere in the line as well, and
nothing holds them to its front: a line is left out as soon as its value holds one of the
names, or the name of its column goes on in front of it or behind it.  A page is shown as it
should be just if it has no such line.

## Main definitions

* `IsTime`: a line gives a time in seconds.
* `ShownAs`: how a line is shown.
* `IsDetail`: a line is in one of the two columns.

## Main results

* `shownAs_iff`: a line is shown in exactly one way, which `showLine` computes.
* `page_shown_iff`: the pages that are shown without a loss.
-/

namespace GridAdmin.Listing

/-! ## How a line is shown -/

/-- The line gives this time: behind its only colon stand the seconds, and the name in front
of the colon ends in `_ts`. -/
structure IsTime (line name value : List Char) (seconds : Int64) : Prop where
  cut : line = name ++ ':' :: value
  name_free : ':' ∉ name
  value_free : ':' ∉ value
  marked : "_ts".toList <:+ name
  read : Text.readInt64? (Text.trim value) = some seconds

/-- The line is shown as this text. -/
inductive ShownAs (line : List Char) : List Char → Prop where
  | time {name value : List Char} {seconds : Int64} (hTime : IsTime line name value seconds) :
      ShownAs line (name ++ ':' :: ' ' :: LocalTime.text seconds.toInt)
  | asIs (hOther : ∀ name value seconds, ¬IsTime line name value seconds) : ShownAs line line

section Lines

variable {line name value mark : List Char} {seconds : Int64}

/-- A mark in front of a colon ends the name, if there is no other colon. -/
theorem infix_iff_suffix (hName : ':' ∉ name) (hValue : ':' ∉ value) :
    mark ++ [':'] <:+: name ++ ':' :: value ↔ mark <:+ name := by
  constructor
  · rintro ⟨front, back, hText⟩
    have hCut : (front ++ mark) ++ ':' :: back = name ++ ':' :: value := by
      rw [← hText]
      simp
    -- The colon behind the mark is the only one, so both texts are cut at the same place.
    have hCount := congrArg (List.count ':') hCut
    simp only [List.count_append, List.count_cons_self, List.count_eq_zero.mpr hName,
      List.count_eq_zero.mpr hValue] at hCount
    have hFree : ':' ∉ front ++ mark := by
      rw [← List.count_eq_zero, List.count_append]
      omega
    have hSame := congrArg (Text.before ':') hCut
    rw [Text.before_append hFree, Text.before_append hName] at hSame
    exact ⟨front, hSame⟩
  · rintro ⟨front, rfl⟩
    exact ⟨front, value, by simp⟩

private theorem IsTime.showLine_eq (hTime : IsTime line name value seconds) :
    showLine line = name ++ ':' :: ' ' :: LocalTime.text seconds.toInt := by
  have hCut : Text.cutAt ':' line = some (name, value) := by
    rw [hTime.cut, Text.cutAt_append hTime.name_free]
  have hMark : "_ts:".toList <:+: line := by
    rw [hTime.cut]
    exact (infix_iff_suffix hTime.name_free hTime.value_free).mpr hTime.marked
  rw [showLine, if_pos ((Text.occursIn_iff _ _).mpr hMark), showTime, hCut]
  simp only [if_neg hTime.value_free, hTime.read]

private theorem showLine_eq_self (hOther : ∀ name value seconds, ¬IsTime line name value seconds) :
    showLine line = line := by
  unfold showLine
  split
  case isFalse => rfl
  case isTrue hOccurs =>
    have hMark : "_ts".toList ++ [':'] <:+: line := (Text.occursIn_iff _ _).mp hOccurs
    unfold showTime
    split
    case h_1 => rfl
    case h_2 name value hCut =>
      obtain ⟨rfl, hName⟩ := Text.cutAt_eq hCut
      split
      case isTrue => rfl
      case isFalse hValue =>
        split
        case h_1 seconds hRead =>
          have hSuffix := (infix_iff_suffix hName hValue).mp hMark
          exact absurd ⟨rfl, hName, hValue, hSuffix, hRead⟩ (hOther name value seconds)
        case h_2 => rfl

/-- A line is shown in one way. -/
theorem shownAs_iff {text : List Char} : ShownAs line text ↔ text = showLine line := by
  constructor
  · rintro (hTime | hOther)
    · exact hTime.showLine_eq.symm
    · exact (showLine_eq_self hOther).symm
  · rintro rfl
    by_cases hSome : ∃ name value seconds, IsTime line name value seconds
    · obtain ⟨name, value, seconds, hTime⟩ := hSome
      rw [hTime.showLine_eq]
      exact .time hTime
    · have hOther : ∀ name value seconds, ¬IsTime line name value seconds :=
        fun name value seconds hTime => hSome ⟨name, value, seconds, hTime⟩
      rw [showLine_eq_self hOther]
      exact .asIs hOther

end Lines

/-! ## Which lines are shown -/

/-- The name of the column that the line gives a value for. -/
def column? (line : List Char) : Option (List Char) :=
  (Text.cutAt ':' line).map Prod.fst

/-- The line gives the class of a resource or its number of objects. -/
def IsDetail (line : List Char) : Prop :=
  column? line = some "resc_class".toList ∨ column? line = some "resc_objcount".toList

/-- The name of one of these two columns stands somewhere in the line. -/
def Mentions (line : List Char) : Prop :=
  "resc_class".toList <:+: line ∨ "resc_objcount".toList <:+: line

theorem isHidden_iff {line : List Char} : isHidden line = true ↔ Mentions line := by
  rw [isHidden, Bool.or_eq_true, Text.occursIn_iff, Text.occursIn_iff]
  rfl

instance : DecidablePred IsDetail := fun line =>
  inferInstanceAs (Decidable (column? line = _ ∨ column? line = _))

instance : DecidablePred Mentions := fun _ =>
  decidable_of_iff _ isHidden_iff

/-- The lines of a page that hold something, without those to be left out. -/
def rows (leftOut : List Char → Prop) [DecidablePred leftOut] (page : List Char) :
    List (List Char) :=
  (page.splitOn '\n').filter fun line => line ≠ [] ∧ ¬leftOut line

/-- Each of the lines is shown once, in their order, and nothing else is. -/
def Shows (lines : List (List Char)) (shown : List String) : Prop :=
  List.Forall₂ (fun line (text : String) => ShownAs line text.toList) lines shown

section Pages

variable {line name : List Char} {lines : List (List Char)} {shown : List String}

private theorem infix_of_column? (hColumn : column? line = some name) : name <:+: line := by
  obtain ⟨⟨front, back⟩, hCut, rfl⟩ := Option.map_eq_some_iff.mp hColumn
  rw [(Text.cutAt_eq hCut).1]
  exact (List.prefix_append _ _).isInfix

theorem IsDetail.mentions (hDetail : IsDetail line) : Mentions line :=
  hDetail.imp infix_of_column? infix_of_column?

theorem not_mentions_nil : ¬Mentions [] := by
  decide

private theorem mem_rows {leftOut : List Char → Prop} [DecidablePred leftOut] {page : List Char} :
    line ∈ rows leftOut page ↔ line ∈ page.splitOn '\n' ∧ line ≠ [] ∧ ¬leftOut line := by
  rw [rows, List.mem_filter, decide_eq_true_iff]

/-- Leaving more lines out keeps the others in place. -/
private theorem rows_mentions (page : List Char) :
    rows Mentions page = (rows IsDetail page).filter fun line => ¬Mentions line := by
  rw [rows, rows, List.filter_filter]
  refine List.filter_congr fun line _ => ?_
  rw [← Bool.decide_and, decide_eq_decide]
  constructor
  · rintro ⟨hSome, hFree⟩
    exact ⟨hFree, hSome, fun hDetail => hFree hDetail.mentions⟩
  · rintro ⟨hFree, hSome, -⟩
    exact ⟨hSome, hFree⟩

private theorem pageText_eq (page : String) :
    pageText page = (rows Mentions page.toList).map fun line => String.ofList (showLine line) := by
  have hSame : ∀ line ∈ page.toList.splitOn '\n',
      (!line.isEmpty && !isHidden line) = decide (line ≠ [] ∧ ¬Mentions line) := by
    intro line _
    rw [Bool.eq_iff_iff, decide_eq_true_iff, Bool.and_eq_true, Bool.not_eq_true',
      Bool.not_eq_true', List.isEmpty_eq_false_iff, ← isHidden_iff, Bool.not_eq_true]
  rw [pageText, pageLines, List.map_map, List.filter_congr hSame]
  rfl

private theorem shows_map (lines : List (List Char)) :
    Shows lines (lines.map fun line => String.ofList (showLine line)) := by
  rw [Shows, List.forall₂_map_right_iff, List.forall₂_same]
  intro line _
  rw [String.toList_ofList]
  exact shownAs_iff.mpr rfl

end Pages

/-- On every page just the lines that mention no hidden column are shown, each once, in order,
and as its column asks for.  So nothing is lost exactly if every line that mentions a hidden
column is a line of one. -/
theorem page_shown_iff (page : String) :
    Shows (rows Mentions page.toList) (pageText page) ∧
    (Shows (rows IsDetail page.toList) (pageText page)
      ↔ ∀ line ∈ page.toList.splitOn '\n', Mentions line → IsDetail line) := by
  have hShown : Shows (rows Mentions page.toList) (pageText page) := by
    rw [pageText_eq]
    exact shows_map _
  refine ⟨hShown, fun hAll line hLine hMentions => ?_, fun hOnly => ?_⟩
  · -- As many lines are left with the one filter as with the other, so it drops none.
    have hLength : (rows Mentions page.toList).length = (rows IsDetail page.toList).length :=
      hShown.length_eq.trans hAll.length_eq.symm
    rw [rows_mentions, List.length_filter_eq_length_iff] at hLength
    by_contra hDetail
    have hSome : line ≠ [] := by
      rintro rfl
      exact not_mentions_nil hMentions
    exact of_decide_eq_true (hLength line (mem_rows.mpr ⟨hLine, hSome, hDetail⟩)) hMentions
  · have hSame : rows IsDetail page.toList = rows Mentions page.toList := by
      refine List.filter_congr fun line hLine => ?_
      rw [decide_eq_decide, Iff.intro (hOnly line hLine) IsDetail.mentions]
    rwa [hSame]

/-- A comment on a resource is lost. -/
example : pageText "resc_name: demoResc\nresc_info: moved from resc_class\n"
    = ["resc_name: demoResc"] := by
  decide +kernel

end GridAdmin.Listing
