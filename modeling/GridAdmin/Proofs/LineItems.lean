import GridAdmin.Proofs.TypedWords

/-!
# The items of a typed line

What a typed line says is told by a rule that needs no positions and no states: skip
spaces, and then take a quoted item up to its quote or a bare one up to the next space.
`items` is that rule.  The scanner of a line goes over it once and only marks where items
start and stop, and here it is shown to find the same items, on every line.

Three things are easily got wrong by a scanner that counts bytes.  It has to be cut at a
length that may fall inside of a character; it has to end a token at the end of the line,
whether the token is bare, quoted or not there at all; and whatever it marks has to fall
between characters.  The scanner does find one more token than there are items when the
line ends outside of a token, but that one is empty, and so is an unused token.

## Main definitions

* `TypedLine.items`: the items of a text, by recursion on what is left of it.
* `TypedLine.IsScanned`: what is scanned of a typed line.
* `TypedLine.Span.Marks`: a span whose ends fall between characters.

## Main results

* `TypedLine.readTokens_eq_items`: the scanner finds the items.
* `TypedLine.isScanned_iff`: `body` computes what is scanned.
* `TypedLine.marks_of_mem_spans`: where spans start and stop.
* `ofLine_readsItems`: the command that a typed line stands for.
-/

namespace GridAdmin

namespace TypedLine

/-! ## The rule -/

/-- The items of a text: between spaces, what stands between a quote and the next one like it,
and what stands between any other character and the next space.  The end of the text ends every
item. -/
def items : List Char → List (List Char)
  | [] => []
  | c :: rest =>
      if c = ' ' then items rest
      else if isQuote c then Text.before c rest :: items (Text.behind c rest)
      else Text.before ' ' (c :: rest) :: items (Text.behind ' ' rest)
termination_by text => text.length
decreasing_by
  · exact Nat.lt_succ_self _
  · exact Nat.lt_succ_of_le (Text.length_behind_le _ _)
  · exact Nat.lt_succ_of_le (Text.length_behind_le _ _)

/-! ## The scanner finds the items -/

section Items

variable {mode : Mode} {closer : Char}

/-- The end of the line ends any token. -/
private theorem readTokens_open (hMode : mode.closer? = some closer) {current text : List Char}
    (hFree : closer ∉ text) : readTokens mode current text = [current ++ text] := by
  induction text generalizing current with
  | nil => rw [readTokens, List.append_nil]
  | cons c cs ih =>
      have hOther : ¬c = closer := Ne.symm (List.ne_of_not_mem_cons hFree)
      rw [readTokens_inside hMode, if_neg hOther, ih (List.not_mem_of_not_mem_cons hFree),
        ← List.append_cons]

/-- One token is read, and then what stands behind it.  If the line ends before the token does,
nothing stands behind it, and nothing holds no items. -/
private theorem readTokens_item (hMode : mode.closer? = some closer) (current text : List Char)
    (hRest : ∃ surplus, readTokens .between [] (Text.behind closer text)
      = items (Text.behind closer text) ++ surplus ∧ (surplus = [] ∨ surplus = [[]])) :
    ∃ surplus, readTokens mode current text
      = (current ++ Text.before closer text) :: items (Text.behind closer text) ++ surplus ∧
        (surplus = [] ∨ surplus = [[]]) := by
  by_cases hClosed : closer ∈ text
  · obtain ⟨surplus, hRead, hSurplus⟩ := hRest
    have hToken : readTokens mode current
          (Text.before closer text ++ closer :: Text.behind closer text)
        = (current ++ Text.before closer text)
          :: readTokens .between [] (Text.behind closer text) :=
      readTokens_closed hMode (Text.not_mem_before closer text)
    rw [← Text.eq_before_append_behind hClosed, hRead] at hToken
    exact ⟨surplus, hToken, hSurplus⟩
  · refine ⟨[], ?_, Or.inl rfl⟩
    rw [readTokens_open hMode hClosed, Text.before_of_not_mem hClosed,
      Text.behind_of_not_mem hClosed, items, List.append_nil]

/-- The scanner finds the items, with at most one empty token behind them. -/
theorem readTokens_eq_items (text : List Char) :
    ∃ surplus, readTokens .between [] text = items text ++ surplus ∧
      (surplus = [] ∨ surplus = [[]]) := by
  induction text using items.induct with
  | case1 => exact ⟨[[]], by rw [items, readTokens]; rfl, Or.inr rfl⟩
  | case2 rest ih =>
      have hSpace : readTokens .between [] (' ' :: rest) = readTokens .between [] rest :=
        readTokens_spaces 1 rest
      rw [items, if_pos rfl, hSpace]
      exact ih
  | case3 c rest hSpace hQuote ih =>
      rw [readTokens, if_pos hQuote, items, if_neg hSpace, if_pos hQuote]
      exact readTokens_item rfl [] rest ih
  | case4 c rest hSpace hQuote ih =>
      have hWord : Text.before ' ' (c :: rest) = [c] ++ Text.before ' ' rest := by
        simp [Text.before, hSpace]
      rw [readTokens, if_neg hQuote, if_neg hSpace, items, if_neg hSpace, if_neg hQuote, hWord]
      exact readTokens_item rfl [c] rest ih

end Items

/-! ## What is scanned -/

/-- `kept` is the longest prefix of the line with at most `maxBytes` bytes, `row` is what stands
in front of its first newline, and `text` is that without one carriage return at its end. -/
structure Scanned (line kept row text : List Char) : Prop where
  isPrefix : kept <+: line
  fits : (String.ofList kept).utf8ByteSize ≤ maxBytes
  longest : ∀ other, other <+: line → (String.ofList other).utf8ByteSize ≤ maxBytes →
    other.length ≤ kept.length
  newline : '\n' ∉ row
  below : kept = row ∨ ∃ rest, kept = row ++ '\n' :: rest
  visible : row = text ++ ['\r'] ∨ (row = text ∧ row.getLast? ≠ some '\r')

/-- `text` is what is scanned of the line. -/
def IsScanned (line text : List Char) : Prop :=
  ∃ kept row, Scanned line kept row text

section Body

variable {line kept row text : List Char}

private theorem Scanned.kept_eq (hScanned : Scanned line kept row text) :
    kept = Text.takeBytes maxBytes line := by
  have hFits := hScanned.fits
  rw [utf8ByteSize_ofList] at hFits
  have hShort := Text.isPrefix_takeBytes hScanned.isPrefix hFits
  have hLong : (Text.takeBytes maxBytes line).length ≤ kept.length := by
    apply hScanned.longest _ (Text.takeBytes_isPrefix maxBytes line)
    rw [utf8ByteSize_ofList]
    exact Text.byteLength_takeBytes_le maxBytes line
  exact hShort.eq_of_length_le hLong

private theorem Scanned.row_eq (hScanned : Scanned line kept row text) :
    row = Text.before '\n' kept := by
  rcases hScanned.below with rfl | ⟨rest, rfl⟩
  · exact (Text.before_of_not_mem hScanned.newline).symm
  · exact (Text.before_append hScanned.newline).symm

private theorem Scanned.text_eq (hScanned : Scanned line kept row text) : text = body line := by
  rw [body, ← hScanned.kept_eq, ← hScanned.row_eq, Text.dropOneAtEnd]
  rcases hScanned.visible with hReturn | ⟨hSame, hOther⟩
  · rw [hReturn, if_pos List.getLast?_concat, List.dropLast_concat]
  · rw [if_neg hOther, hSame]

private theorem scanned_body (line : List Char) :
    Scanned line (Text.takeBytes maxBytes line) (Text.before '\n' (Text.takeBytes maxBytes line))
      (body line) where
  isPrefix := Text.takeBytes_isPrefix maxBytes line
  fits := by
    rw [utf8ByteSize_ofList]
    exact Text.byteLength_takeBytes_le maxBytes line
  longest := by
    intro other hPrefix hFits
    rw [utf8ByteSize_ofList] at hFits
    exact (Text.isPrefix_takeBytes hPrefix hFits).length_le
  newline := Text.not_mem_before _ _
  below := by
    by_cases hNewline : '\n' ∈ Text.takeBytes maxBytes line
    · exact Or.inr ⟨_, Text.eq_before_append_behind hNewline⟩
    · exact Or.inl (Text.before_of_not_mem hNewline).symm
  visible := by
    rw [body, Text.dropOneAtEnd]
    split
    · rename_i hReturn
      obtain ⟨front, hFront⟩ := List.getLast?_eq_some_iff.mp hReturn
      rw [hFront, List.dropLast_concat]
      exact Or.inl rfl
    · rename_i hOther
      exact Or.inr ⟨rfl, hOther⟩

/-- `body` computes what is scanned, and there is no choice about it. -/
theorem isScanned_iff : IsScanned line text ↔ text = body line := by
  constructor
  · rintro ⟨kept, row, hScanned⟩
    exact hScanned.text_eq
  · rintro rfl
    exact ⟨_, _, scanned_body line⟩

end Body

/-! ## Where items start and stop -/

/-- Both ends of the span are positions between characters of the line, and the first one is not
behind the other. -/
structure Span.Marks (span : Span) (line : String) : Prop where
  start_le_stop : span.start ≤ span.stop
  stop_le_size : span.stop ≤ line.utf8ByteSize
  isValid_start : (⟨span.start⟩ : String.Pos.Raw).IsValid line
  isValid_stop : (⟨span.stop⟩ : String.Pos.Raw).IsValid line

/-- The span of what stands between two parts of a line. -/
private theorem marks_middle (first middle rest : List Char) :
    Span.Marks ⟨Text.byteLength first, Text.byteLength (first ++ middle)⟩
      (String.ofList (first ++ middle ++ rest)) where
  start_le_stop := by
    show Text.byteLength first ≤ Text.byteLength (first ++ middle)
    rw [Text.byteLength_append]
    exact Nat.le_add_right _ _
  stop_le_size := by
    rw [utf8ByteSize_ofList, Text.byteLength_append _ rest]
    exact Nat.le_add_right _ _
  isValid_start := by
    apply Text.isValid_byteLength
    rw [List.append_assoc]
    exact List.prefix_append _ _
  isValid_stop := Text.isValid_byteLength (List.prefix_append _ _)

/-- Whatever the scanner is inside of, a character leaves it inside of the current token, or
starts a fresh one behind the character, or ends the current token in front of it. -/
theorem scan_cons (mode : Mode) (start here : Nat) (c : Char) (cs : List Char) :
    (∃ next, scan mode start here (c :: cs) = scan next start (here + c.utf8Size) cs) ∨
    (∃ next, scan mode start here (c :: cs)
      = scan next (here + c.utf8Size) (here + c.utf8Size) cs) ∨
    scan mode start here (c :: cs)
      = ⟨start, here⟩ :: scan .between (here + c.utf8Size) (here + c.utf8Size) cs := by
  cases hMode : mode.closer? with
  | some closer =>
      rw [scan_inside hMode]
      split
      · exact Or.inr (Or.inr rfl)
      · exact Or.inl ⟨mode, rfl⟩
  | none =>
      cases mode with
      | bare => cases hMode
      | quoted quote => cases hMode
      | between =>
          rw [scan]
          split
          · exact Or.inr (Or.inl ⟨_, rfl⟩)
          · split
            · exact Or.inr (Or.inl ⟨_, rfl⟩)
            · exact Or.inl ⟨_, rfl⟩

/-- The scanner stands behind `first ++ current`, and the current token starts behind
`first`.  It only marks what stands between two parts of the line. -/
private theorem exists_parts_of_mem_scan (mode : Mode) (first current text : List Char)
    {span : Span}
    (hSpan : span ∈ scan mode (Text.byteLength first) (Text.byteLength (first ++ current)) text) :
    ∃ front middle back, first ++ current ++ text = front ++ middle ++ back ∧
      span = ⟨Text.byteLength front, Text.byteLength (front ++ middle)⟩ := by
  induction text generalizing mode first current with
  | nil =>
      rw [scan, List.mem_singleton] at hSpan
      exact ⟨first, current, [], rfl, hSpan⟩
  | cons c cs ih =>
      have hNext : Text.byteLength (first ++ current) + c.utf8Size
          = Text.byteLength (first ++ current ++ [c]) := by
        rw [Text.byteLength_append _ [c], Text.byteLength_cons, Text.byteLength_nil, Nat.add_zero]
      -- A token that starts behind `c`, and one that `c` belongs to.
      have hFresh := fun mode => ih mode (first ++ current ++ [c]) []
      have hLonger := fun mode => ih mode first (current ++ [c])
      simp only [List.append_nil] at hFresh
      simp only [← List.append_assoc] at hLonger
      rw [List.append_cons]
      rcases scan_cons mode (Text.byteLength first) (Text.byteLength (first ++ current)) c cs with
        ⟨next, hScan⟩ | ⟨next, hScan⟩ | hScan
      · rw [hScan, hNext] at hSpan
        exact hLonger next hSpan
      · rw [hScan, hNext] at hSpan
        exact hFresh next hSpan
      · rw [hScan, hNext, List.mem_cons] at hSpan
        rcases hSpan with rfl | hLater
        · exact ⟨first, current, c :: cs, (List.append_cons _ _ _).symm, rfl⟩
        · exact hFresh .between hLater

theorem marks_of_mem_spans {text : List Char} {span : Span} (hSpan : span ∈ spans text) :
    span.Marks (String.ofList text) := by
  obtain ⟨front, middle, back, hText, rfl⟩ := exists_parts_of_mem_scan .between [] [] text hSpan
  have hWhole : text = front ++ middle ++ back := hText
  rw [hWhole]
  exact marks_middle front middle back

end TypedLine

/-! ## Commands -/

/-- A row that is filled from few enough words holds them, and then empty slots. -/
private theorem Command.cells_ofWords {words : List String} (hFits : words.length ≤ width) :
    (ofWords words).cells = words ++ List.replicate (width - words.length) "" := by
  show (words ++ List.replicate width "").take width = _
  rw [List.take_append, List.take_of_length_le hFits, List.take_replicate,
    Nat.min_eq_left (Nat.sub_le _ _)]

/-- An empty token behind the others makes no difference, whether it is kept or dropped. -/
private theorem Command.ofWords_take_surplus (max : Nat) (found : List (List Char))
    {surplus : List (List Char)} (hSurplus : surplus = [] ∨ surplus = [[]]) :
    ofWords (((found ++ surplus).take max).map String.ofList)
      = ofWords ((found.take max).map String.ofList) := by
  rcases hSurplus with rfl | rfl
  · rw [List.append_nil]
  · by_cases hDropped : max ≤ found.length
    · rw [List.take_append_of_le_length hDropped]
    · have hKept : (found ++ [[]]).length ≤ max := by
        rw [List.length_append, List.length_singleton]
        omega
      rw [List.take_of_length_le hKept, List.take_of_length_le (by omega), List.map_append]
      exact ofWords_append_empty _

open TypedLine in
/-- A typed line stands for the command whose tokens are the first items of what is scanned of
it, and then empty ones.  What is scanned is cut off at a position of the line, and the scanner
marks its tokens by positions of what is scanned, so that it never cuts inside of a character
or behind the end. -/
theorem ofLine_readsItems (line : String) (max : Nat) :
    (∀ text, IsScanned line.toList text ↔ text = body line.toList) ∧
    (let words := ((items (body line.toList)).take (min max 20)).map String.ofList
     (Command.ofLine line max).cells = words ++ List.replicate (20 - words.length) "" ∧
       (Command.ofLine line max).cells.length = 20) ∧
    (⟨Text.byteLength (Text.takeBytes maxBytes line.toList)⟩ : String.Pos.Raw).IsValid line ∧
    ∀ span ∈ spans (body line.toList), span.Marks (String.ofList (body line.toList)) := by
  refine ⟨fun text => isScanned_iff, ?_, ?_, fun span hSpan => marks_of_mem_spans hSpan⟩
  · intro words
    refine ⟨?_, (Command.ofLine line max).length_cells⟩
    have hFits : words.length ≤ Command.width := by
      rw [List.length_map, List.length_take]
      exact (Nat.min_le_left _ _).trans (Nat.min_le_right _ _)
    have hWords : Command.ofLine line max = Command.ofWords words := by
      obtain ⟨surplus, hRead, hSurplus⟩ := readTokens_eq_items (body line.toList)
      rw [Command.ofLine, tokens_eq, hRead]
      exact Command.ofWords_take_surplus _ _ hSurplus
    rw [hWords]
    exact Command.cells_ofWords hFits
  · have hCut := Text.isValid_byteLength (Text.takeBytes_isPrefix maxBytes line.toList)
    rw [String.ofList_toList] at hCut
    exact hCut

open TypedLine in
/-- A cut between characters of several bytes, behind a quote that nothing closes. -/
theorem ofLine_of_unclosed_quote :
    (⟨4, 7⟩ : Span) ∈ spans (body "lu 'éa\r\nquit".toList) ∧
      Span.Marks ⟨4, 7⟩ (String.ofList (body "lu 'éa\r\nquit".toList)) ∧
      (Command.ofLine "lu 'éa\r\nquit" 2).cells = ["lu", "éa"] ++ List.replicate 18 "" := by
  have hSpan : (⟨4, 7⟩ : Span) ∈ spans (body "lu 'éa\r\nquit".toList) := by decide +kernel
  obtain ⟨-, -, -, hMarks⟩ := ofLine_readsItems "lu 'éa\r\nquit" 2
  exact ⟨hSpan, hMarks _ hSpan, by decide +kernel⟩

end GridAdmin
