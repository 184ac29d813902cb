import GridAdmin.Proofs.LogicalPaths

/-!
# What the query for a replica says

The query for a replica states which replica is meant, and it should mean no other.  It
puts the words of the user between quotes as they are, though, and the catalog's language
has no way to write a quote inside of them.  A path can therefore close the quoted value
that it stands in and state a condition of its own, and then two selections may come out as
one text.

This module says how far the query can be trusted.  Two texts agree up to the first place
where one value ends and the other goes on, and what goes on there is the end of a value
with the name of the next column behind it.  Numbers hold no quote, and a hierarchy comes
last, so that only a path can go on in this way, and only with the two columns that stand
behind a part of a path.  Quotes are never lost, so that a selection without any quote has
its query for itself.

## Main definitions

* `closing`: the end of a value and the name of the next column.
* `DataObject.Closes`: the selected path holds such a text.
* `DataObject.ExtendedBy`: one path goes on with such a text behind a part of the other.
* `DataObject.quotes`, `Replica.quotes`: the number of quotes in a selection.

## Main results

* `eq_or_prefix_of_boundary`: values in front of the same text are equal, or one goes on with
  a closing text.
* `query_determines_selection`: what two selections with one query have in common.
* `query_of_two_selections`: two selections with one query.
-/

namespace GridAdmin

/-! ## Where values end -/

section Boundaries

variable {column column₂ : String} {value value₂ rest rest₂ : List Char}

/-- The end of a quoted value and the name of the next column, up to the quote that opens its
value. -/
def closing (column : String) : List Char :=
  '\'' :: (" and ".toList ++ column.toList ++ " = ".toList)

/-- Between its two quotes, what stands between two values holds no quote. -/
theorem quote_not_mem_closing_tail (hColumn : '\'' ∉ column.toList) :
    '\'' ∉ (closing column).tail := by
  show '\'' ∉ " and ".toList ++ column.toList ++ " = ".toList
  rw [List.mem_append, List.mem_append, not_or, not_or]
  exact ⟨⟨by decide, hColumn⟩, by decide⟩

/-- If a value ends where another one goes on, then the other goes on with the whole closing
text: what stands behind the other value opens with a quote, and the closing text holds no
quote but its first. -/
private theorem closing_isPrefix {extra : List Char} (hColumn : '\'' ∉ column.toList)
    (hExtra : extra ≠ [])
    (hSame : closing column ++ '\'' :: rest = extra ++ (closing column₂ ++ '\'' :: rest₂)) :
    closing column <+: extra := by
  rcases List.append_eq_append_iff.mp hSame with ⟨more, hMore, -⟩ | ⟨more, hMore, hBehind⟩
  · rw [hMore]
    exact List.prefix_append _ _
  · cases more with
    | nil =>
        refine ⟨[], ?_⟩
        rw [hMore, List.append_nil, List.append_nil]
    | cons c cs =>
        have hQuote : c = '\'' := (List.cons.inj hBehind).1.symm
        obtain ⟨first, front, rfl⟩ := List.exists_cons_of_ne_nil hExtra
        have hTail : (closing column).tail = front ++ c :: cs := by
          rw [hMore]
          rfl
        refine absurd ?_ (quote_not_mem_closing_tail hColumn)
        rw [hTail, ← hQuote]
        exact List.mem_append_right _ List.mem_cons_self

/-- Values in front of the same text are equal, or one of them goes on with the closing text
behind the other. -/
theorem eq_or_prefix_of_boundary (hColumn : '\'' ∉ column.toList) (hColumn₂ : '\'' ∉ column₂.toList)
    (hSame : value ++ (closing column ++ '\'' :: rest)
      = value₂ ++ (closing column₂ ++ '\'' :: rest₂)) :
    (value = value₂ ∧ closing column ++ '\'' :: rest = closing column₂ ++ '\'' :: rest₂) ∨
      value ++ closing column <+: value₂ ∨ value₂ ++ closing column₂ <+: value := by
  rcases List.append_eq_append_iff.mp hSame with ⟨extra, rfl, hRest⟩ | ⟨extra, rfl, hRest⟩
  · by_cases hExtra : extra = []
    · subst hExtra
      exact Or.inl ⟨(List.append_nil _).symm, hRest⟩
    · exact Or.inr (Or.inl ((List.prefix_append_right_inj _).mpr
        (closing_isPrefix hColumn hExtra hRest)))
  · by_cases hExtra : extra = []
    · subst hExtra
      exact Or.inl ⟨List.append_nil _, hRest.symm⟩
    · exact Or.inr (Or.inr ((List.prefix_append_right_inj _).mpr
        (closing_isPrefix hColumn₂ hExtra hRest)))

end Boundaries

/-! ## Selected replicas -/

namespace Replica

variable {replica other : Replica}

/-- The column whose value a replica is selected by. -/
def column : Replica → String
  | .numbered _ => "DATA_REPL_NUM"
  | .inHierarchy _ => "DATA_RESC_HIER"

/-- That value. -/
def value : Replica → List Char
  | .numbered number => Text.intText number.toInt
  | .inHierarchy hierarchy => hierarchy.toList

/-- The number of quotes in the selection. -/
def quotes : Replica → Nat
  | .numbered _ => 0
  | .inHierarchy hierarchy => hierarchy.toList.count '\''

theorem condition_eq :
    replica.condition = columnIs replica.column (String.ofList replica.value) := by
  cases replica with
  | numbered number => rfl
  | inHierarchy hierarchy =>
      rw [value, String.ofList_toList]
      rfl

theorem quote_not_mem_column : '\'' ∉ replica.column.toList := by
  cases replica with
  | numbered number =>
      show '\'' ∉ "DATA_REPL_NUM".toList
      decide
  | inHierarchy hierarchy =>
      show '\'' ∉ "DATA_RESC_HIER".toList
      decide

theorem quote_not_mem_intText (number : Int) : '\'' ∉ Text.intText number := by
  have hDigits : ∀ n : Nat, '\'' ∉ Text.natText n := by
    intro n hMem
    have hDigit := Nat.isDigit_of_mem_toDigits (by decide) (by decide) hMem
    exact absurd hDigit (by decide)
  cases number with
  | ofNat n => exact hDigits n
  | negSucc n => exact List.not_mem_cons_of_ne_of_not_mem (by decide) (hDigits (n + 1))

private theorem count_value : replica.value.count '\'' = replica.quotes := by
  cases replica with
  | numbered number => exact List.count_eq_zero.mpr (quote_not_mem_intText number.toInt)
  | inHierarchy hierarchy => rfl

private theorem column_ne {number : Int32} {hierarchy : String} :
    (numbered number).column ≠ (inHierarchy hierarchy).column := by
  show "DATA_REPL_NUM" ≠ "DATA_RESC_HIER"
  decide

/-- Columns and values tell replicas apart. -/
private theorem eq_of_column_value (hColumn : replica.column = other.column)
    (hValue : replica.value = other.value) : replica = other := by
  cases replica with
  | numbered number =>
      cases other with
      | numbered number₂ =>
          have hRead := Text.readInt32?_intText number
          have hNumber : Text.intText number.toInt = Text.intText number₂.toInt := hValue
          rw [hNumber, Text.readInt32?_intText] at hRead
          exact congrArg Replica.numbered (Option.some.inj hRead).symm
      | inHierarchy hierarchy => exact absurd hColumn column_ne
  | inHierarchy hierarchy =>
      cases other with
      | numbered number => exact absurd hColumn column_ne.symm
      | inHierarchy hierarchy₂ =>
          exact congrArg Replica.inHierarchy (String.toList_inj.mp hValue)

/-- What follows the quote that opens the last value of a data object: that value, and the
condition of the replica. -/
def behind (last : List Char) (replica : Replica) : List Char :=
  last ++ (closing replica.column ++ '\'' :: (replica.value ++ ['\'']))

theorem count_behind (last : List Char) :
    (behind last replica).count '\'' = last.count '\'' + replica.quotes + 3 := by
  have hTail : (closing replica.column).tail.count '\'' = 0 :=
    List.count_eq_zero.mpr (quote_not_mem_closing_tail quote_not_mem_column)
  have hClosing : (closing replica.column).count '\'' = 1 := by
    show ('\'' :: (closing replica.column).tail).count '\'' = 1
    rw [List.count_cons_self, hTail]
  rw [behind, List.count_append, List.count_append, List.count_cons_self, List.count_append,
    hClosing, count_value, List.count_singleton_self]
  omega

variable {last last₂ : List Char}

/-- The last value of a data object that goes on with a closing text goes on with that of a
hierarchy, since a number has no quotes to make up for those of the text. -/
private theorem prefix_of_longer (hSame : behind last replica = behind last₂ other)
    (hPrefix : last ++ closing replica.column <+: last₂) :
    last ++ closing "DATA_RESC_HIER" <+: last₂ := by
  obtain ⟨more, rfl⟩ := hPrefix
  cases replica with
  | inHierarchy hierarchy => exact ⟨more, rfl⟩
  | numbered number =>
      have hCount := congrArg (List.count '\'') hSame
      have hClosing : 0 < (closing (numbered number).column).count '\'' :=
        List.count_pos_iff.mpr List.mem_cons_self
      rw [count_behind, count_behind, List.count_append, List.count_append, quotes] at hCount
      omega

/-- The last value of a data object and the replica are known from the text, unless such a
value goes on behind the other. -/
theorem eq_or_prefix_of_behind (hSame : behind last replica = behind last₂ other) :
    (last = last₂ ∧ replica = other) ∨
      last ++ closing "DATA_RESC_HIER" <+: last₂ ∨ last₂ ++ closing "DATA_RESC_HIER" <+: last := by
  rcases eq_or_prefix_of_boundary quote_not_mem_column quote_not_mem_column hSame with
    ⟨hLast, hRest⟩ | hPrefix | hPrefix
  · refine Or.inl ⟨hLast, ?_⟩
    have hColumn : replica.column = other.column := by
      cases replica with
      | numbered number =>
          cases other with
          | numbered number₂ => rfl
          | inHierarchy hierarchy => exact absurd hRest (by simp [closing, column])
      | inHierarchy hierarchy =>
          cases other with
          | numbered number => exact absurd hRest (by simp [closing, column])
          | inHierarchy hierarchy₂ => rfl
    rw [hColumn] at hRest
    have hValue := (List.cons.inj (List.append_cancel_left hRest)).2
    exact eq_of_column_value hColumn (List.append_cancel_right hValue)
  · exact Or.inr (Or.inl (prefix_of_longer hSame hPrefix))
  · exact Or.inr (Or.inr (prefix_of_longer hSame.symm hPrefix))

end Replica

/-! ## Selected data objects -/

namespace DataObject

variable {object other : DataObject} {replica replica₂ : Replica}

/-- The path holds the end of a quoted value with a column behind it that a query names after
a part of a path. -/
def Closes : DataObject → Prop
  | .withId _ => False
  | .atPath path =>
      Text.contains path "' and DATA_NAME = " = true ∨
        Text.contains path "' and DATA_RESC_HIER = " = true

/-- In one of the two values that the query states for a path, the second object goes on
behind the first, with the text that ends a value and names the next column. -/
def ExtendedBy : DataObject → DataObject → Prop
  | .atPath path, .atPath longer =>
      (LogicalPath.split path.toList).1 ++ closing "DATA_NAME"
          <+: (LogicalPath.split longer.toList).1 ∨
        ((LogicalPath.split path.toList).1 = (LogicalPath.split longer.toList).1 ∧
          (LogicalPath.split path.toList).2 ++ closing "DATA_RESC_HIER"
            <+: (LogicalPath.split longer.toList).2)
  | .atPath _, .withId _ | .withId _, .atPath _ | .withId _, .withId _ => False

/-- The number of quotes in the selection. -/
def quotes : DataObject → Nat
  | .withId _ => 0
  | .atPath path => path.toList.count '\''

private theorem quotes_pos_of_closes (hCloses : object.Closes) : 0 < object.quotes := by
  cases object with
  | withId id => exact hCloses.elim
  | atPath path =>
      apply List.count_pos_iff.mpr
      rcases hCloses with hName | hHierarchy
      · exact ((Text.occursIn_iff _ _).mp hName).subset List.mem_cons_self
      · exact ((Text.occursIn_iff _ _).mp hHierarchy).subset List.mem_cons_self

/-- The path of a resolved data object is canonical. -/
private theorem isCanonical_of_resolve {kind word path : String}
    (hResolve : resolve kind word = .ok (.atPath path)) :
    LogicalPath.IsCanonical path.toList := by
  unfold resolve at hResolve
  split at hResolve
  · split at hResolve
    · cases hResolve
    · cases hResolve
  · split at hResolve
    · rename_i text hText
      cases hResolve
      rw [String.toList_ofList]
      exact LogicalPath.isCanonical_of_normalize? hText
    · cases hResolve
    · cases hResolve
  · cases hResolve

/-! ### Conditions as characters -/

theorem toList_withId {id : Int64} :
    ((withId id).condition ++ " and " ++ replica.condition).toList
      = "DATA_ID = '".toList ++ Replica.behind (Text.intText id.toInt) replica := by
  rw [Replica.condition_eq]
  simp [condition, columnIs, Replica.behind, closing]

theorem toList_atPath {path : String} :
    ((atPath path).condition ++ " and " ++ replica.condition).toList
      = "COLL_NAME = '".toList ++ ((LogicalPath.split path.toList).1
          ++ (closing "DATA_NAME"
            ++ '\'' :: Replica.behind (LogicalPath.split path.toList).2 replica)) := by
  rw [Replica.condition_eq]
  simp [condition, columnIs, Replica.behind, closing]

/-! ### What the conditions determine -/

/-- Numbers close nothing. -/
private theorem eq_of_behind_intText {id id₂ : Int64}
    (hSame : Replica.behind (Text.intText id.toInt) replica
      = Replica.behind (Text.intText id₂.toInt) replica₂) :
    withId id = withId id₂ ∧ replica = replica₂ := by
  have hNumber : ∀ (first : List Char) (number : Int),
      ¬first ++ closing "DATA_RESC_HIER" <+: Text.intText number := by
    intro first number hPrefix
    have hQuote : '\'' ∈ first ++ closing "DATA_RESC_HIER" :=
      List.mem_append_right first List.mem_cons_self
    exact Replica.quote_not_mem_intText number (hPrefix.subset hQuote)
  rcases Replica.eq_or_prefix_of_behind hSame with ⟨hText, hReplica⟩ | hPrefix | hPrefix
  · have hRead := Text.readInt64?_intText id
    rw [hText, Text.readInt64?_intText] at hRead
    exact ⟨congrArg withId (Option.some.inj hRead).symm, hReplica⟩
  · exact absurd hPrefix (hNumber _ id₂.toInt)
  · exact absurd hPrefix (hNumber _ id.toInt)

section Paths

variable {path path₂ : String}

/-- First the collections are compared, then the names and what follows them. -/
private theorem eq_or_extendedBy_of_atPath (hPath : LogicalPath.IsCanonical path.toList)
    (hPath₂ : LogicalPath.IsCanonical path₂.toList)
    (hSame : ((atPath path).condition ++ " and " ++ replica.condition).toList
      = ((atPath path₂).condition ++ " and " ++ replica₂.condition).toList) :
    (atPath path = atPath path₂ ∧ replica = replica₂) ∨
      (atPath path).ExtendedBy (atPath path₂) ∨ (atPath path₂).ExtendedBy (atPath path) := by
  rw [toList_atPath, toList_atPath] at hSame
  have hValues := List.append_cancel_left hSame
  have hColumn : '\'' ∉ "DATA_NAME".toList := by decide
  rcases eq_or_prefix_of_boundary hColumn hColumn hValues with
    ⟨hCollection, hRest⟩ | hPrefix | hPrefix
  · have hBehind := (List.cons.inj (List.append_cancel_left hRest)).2
    rcases Replica.eq_or_prefix_of_behind hBehind with ⟨hName, hReplica⟩ | hPrefix | hPrefix
    · have hText := LogicalPath.eq_of_split_eq hPath hPath₂ (Prod.ext hCollection hName)
      exact Or.inl ⟨congrArg atPath (String.toList_inj.mp hText), hReplica⟩
    · exact Or.inr (Or.inl (Or.inr ⟨hCollection, hPrefix⟩))
    · exact Or.inr (Or.inr (Or.inr ⟨hCollection.symm, hPrefix⟩))
  · exact Or.inr (Or.inl (Or.inl hPrefix))
  · exact Or.inr (Or.inr (Or.inl hPrefix))

/-- A path that goes on behind another one holds the text that it goes on with. -/
private theorem closes_of_extendedBy (hPath : LogicalPath.IsCanonical path.toList)
    (hExtended : object.ExtendedBy (atPath path)) : (atPath path).Closes := by
  have hInside : ∀ {first text value : List Char}, first ++ text <+: value → text <:+: value :=
    fun hPrefix => (List.suffix_append _ _).isInfix.trans hPrefix.isInfix
  obtain ⟨hCollection, hName, -⟩ := LogicalPath.split_parts hPath
  cases object with
  | withId id => exact hExtended.elim
  | atPath shorter =>
      rcases hExtended with hPrefix | ⟨-, hPrefix⟩
      · exact Or.inl ((Text.occursIn_iff _ _).mpr ((hInside hPrefix).trans hCollection.isInfix))
      · exact Or.inr ((Text.occursIn_iff _ _).mpr ((hInside hPrefix).trans hName.isInfix))

end Paths

/-! ### Counting quotes -/

private theorem count_withId {id : Int64} :
    ((withId id).condition ++ " and " ++ replica.condition).toList.count '\''
      = (withId id).quotes + replica.quotes + 4 := by
  have hNumber := List.count_eq_zero.mpr (Replica.quote_not_mem_intText id.toInt)
  have hColumn : "DATA_ID = '".toList.count '\'' = 1 := by decide
  rw [toList_withId, List.count_append, Replica.count_behind, hNumber, hColumn, quotes]
  omega

private theorem count_atPath {path : String} (hPath : LogicalPath.IsCanonical path.toList) :
    ((atPath path).condition ++ " and " ++ replica.condition).toList.count '\''
      = (atPath path).quotes + replica.quotes + 6 := by
  have hParts := (LogicalPath.split_parts hPath).2.2 '\'' (by decide)
  have hColumn : "COLL_NAME = '".toList.count '\'' = 1 := by decide
  have hClosing : (closing "DATA_NAME").count '\'' = 1 := by decide
  rw [toList_atPath, List.count_append, List.count_append, List.count_append,
    List.count_cons_self, Replica.count_behind, hColumn, hClosing, quotes, hParts]
  omega

end DataObject

/-! ## Queries -/

/-- Both halves of the selection were made from typed words. -/
def Selectable (object : DataObject) (replica : Replica) : Prop :=
  (∃ kind word, DataObject.resolve kind word = .ok object) ∧
    ∃ kind word, Replica.resolve kind word = .ok replica

theorem Selectable.isCanonical {path : String} {replica : Replica}
    (hSelect : Selectable (.atPath path) replica) : LogicalPath.IsCanonical path.toList := by
  obtain ⟨⟨kind, word, hResolve⟩, -⟩ := hSelect
  exact DataObject.isCanonical_of_resolve hResolve

/-- All queries start alike, so what they select is in their conditions. -/
private theorem Replica.conditions_eq_of_query {object other : DataObject}
    {replica replica₂ : Replica}
    (hSame : Replica.query object replica = Replica.query other replica₂) :
    (object.condition ++ " and " ++ replica.condition).toList
      = (other.condition ++ " and " ++ replica₂.condition).toList := by
  unfold Replica.query at hSame
  simp only [String.append_assoc, String.append_right_inj] at hSame
  rw [String.append_assoc, String.append_assoc, hSame]

private theorem Selectable.closes_of_extendedBy {object other : DataObject} {replica : Replica}
    (hSelect : Selectable other replica) (hExtended : object.ExtendedBy other) : other.Closes := by
  cases other with
  | withId id =>
      cases object with
      | withId id₂ => exact hExtended.elim
      | atPath path => exact hExtended.elim
  | atPath path => exact DataObject.closes_of_extendedBy hSelect.isCanonical hExtended

/-- Two selections with one query hold the same number of quotes.  They are equal, unless
both name their data object by a path and one of the two paths goes on behind a part of the
other with the end of a quoted value and the name of a column.  So they are equal if no path
holds such a text, and also if one of the selections holds no quote at all. -/
theorem query_determines_selection {object other : DataObject} {replica replica₂ : Replica}
    (hSelect : Selectable object replica) (hOther : Selectable other replica₂)
    (hSame : Replica.query object replica = Replica.query other replica₂) :
    object.quotes + replica.quotes = other.quotes + replica₂.quotes ∧
    ((object = other ∧ replica = replica₂) ∨
      object.ExtendedBy other ∨ other.ExtendedBy object) ∧
    (¬object.Closes → ¬other.Closes → object = other ∧ replica = replica₂) ∧
    (object.quotes + replica.quotes = 0 → object = other ∧ replica = replica₂) := by
  have hText := Replica.conditions_eq_of_query hSame
  have hCount := congrArg (List.count '\'') hText
  have hBoth : object.quotes + replica.quotes = other.quotes + replica₂.quotes ∧
      ((object = other ∧ replica = replica₂) ∨
        object.ExtendedBy other ∨ other.ExtendedBy object) := by
    cases object with
    | withId id =>
        cases other with
        | withId id₂ =>
            rw [DataObject.count_withId, DataObject.count_withId] at hCount
            rw [DataObject.toList_withId, DataObject.toList_withId] at hText
            have hBehind := List.append_cancel_left hText
            exact ⟨by omega, Or.inl (DataObject.eq_of_behind_intText hBehind)⟩
        | atPath path₂ =>
            rw [DataObject.toList_withId, DataObject.toList_atPath] at hText
            exact absurd (List.cons.inj hText).1 (by decide)
    | atPath path =>
        cases other with
        | withId id₂ =>
            rw [DataObject.toList_withId, DataObject.toList_atPath] at hText
            exact absurd (List.cons.inj hText).1 (by decide)
        | atPath path₂ =>
            have hPath := hSelect.isCanonical
            have hPath₂ := hOther.isCanonical
            rw [DataObject.count_atPath hPath, DataObject.count_atPath hPath₂] at hCount
            exact ⟨by omega, DataObject.eq_or_extendedBy_of_atPath hPath hPath₂ hText⟩
  obtain ⟨hQuotes, hSelection⟩ := hBoth
  have hOpen : ¬object.Closes → ¬other.Closes → object = other ∧ replica = replica₂ := by
    intro hFirst hSecond
    rcases hSelection with hEqual | hExtended | hExtended
    · exact hEqual
    · exact absurd (hOther.closes_of_extendedBy hExtended) hSecond
    · exact absurd (hSelect.closes_of_extendedBy hExtended) hFirst
  refine ⟨hQuotes, hSelection, hOpen, ?_⟩
  intro hNone
  apply hOpen
  · intro hCloses
    have hSome := DataObject.quotes_pos_of_closes hCloses
    omega
  · intro hCloses
    have hSome := DataObject.quotes_pos_of_closes hCloses
    omega

/-- Two paths with one query: what ends the collection of the first is part of the name in the
second. -/
theorem query_determines_selection_of_names :
    Selectable (.atPath "/z/a' and DATA_NAME = 'b/c") (.numbered 0) ∧
    Selectable (.atPath "/z/a/b' and DATA_NAME = 'c") (.numbered 0) ∧
    Replica.query (.atPath "/z/a' and DATA_NAME = 'b/c") (.numbered 0)
      = Replica.query (.atPath "/z/a/b' and DATA_NAME = 'c") (.numbered 0) ∧
    ((DataObject.atPath "/z/a' and DATA_NAME = 'b/c").ExtendedBy
        (.atPath "/z/a/b' and DATA_NAME = 'c") ∨
      (DataObject.atPath "/z/a/b' and DATA_NAME = 'c").ExtendedBy
        (.atPath "/z/a' and DATA_NAME = 'b/c")) := by
  have hFirst : Selectable (.atPath "/z/a' and DATA_NAME = 'b/c") (.numbered 0) :=
    ⟨⟨"logical_path", "/z//a' and DATA_NAME = 'b/c", rfl⟩, ⟨"replica_number", "0", rfl⟩⟩
  have hSecond : Selectable (.atPath "/z/a/b' and DATA_NAME = 'c") (.numbered 0) :=
    ⟨⟨"logical_path", "/z/a/./b' and DATA_NAME = 'c", rfl⟩, ⟨"replica_number", "00", rfl⟩⟩
  have hSame : Replica.query (.atPath "/z/a' and DATA_NAME = 'b/c") (.numbered 0)
      = Replica.query (.atPath "/z/a/b' and DATA_NAME = 'c") (.numbered 0) := by
    decide +kernel
  obtain ⟨-, hSelection, -⟩ := query_determines_selection hFirst hSecond hSame
  refine ⟨hFirst, hSecond, hSame, ?_⟩
  rcases hSelection with hEqual | hExtended
  · exact absurd hEqual.1 (by decide)
  · exact hExtended

/-- A query does not always determine its selection: a name may go on with a hierarchy, and a
hierarchy with another one. -/
theorem query_of_two_selections :
    Selectable (.atPath "/z/a' and DATA_RESC_HIER = 'b") (.inHierarchy "c") ∧
    Selectable (.atPath "/z/a") (.inHierarchy "b' and DATA_RESC_HIER = 'c") ∧
    Replica.query (.atPath "/z/a' and DATA_RESC_HIER = 'b") (.inHierarchy "c")
      = Replica.query (.atPath "/z/a") (.inHierarchy "b' and DATA_RESC_HIER = 'c") ∧
    DataObject.atPath "/z/a' and DATA_RESC_HIER = 'b" ≠ .atPath "/z/a" ∧
    Replica.inHierarchy "c" ≠ .inHierarchy "b' and DATA_RESC_HIER = 'c" := by
  refine ⟨⟨⟨"logical_path", "/z/a' and DATA_RESC_HIER = 'b", rfl⟩, ⟨"resource_hierarchy", _, rfl⟩⟩,
    ⟨⟨"logical_path", "/z/a", rfl⟩, ⟨"resource_hierarchy", _, rfl⟩⟩, ?_, by decide, by decide⟩
  decide +kernel

end GridAdmin
