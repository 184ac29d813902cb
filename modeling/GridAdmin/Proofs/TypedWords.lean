import GridAdmin.Command.TypedLine
import GridAdmin.Proofs.TextCuts

/-!
# Words that are typed are words that are read

Any list of words can be typed.  A word is written as it is, or between quotes that do not
occur in it, and spaces keep the words apart.  Whoever writes a line in this way gets back
the words: quotes are neither left on a word nor taken from inside of it, an empty word
keeps its place, and nothing that stands behind a newline counts.

The scanner speaks of byte positions.  They are removed first: `readTokens` scans the same
way and keeps the characters of the current token instead of the position where it started,
and `cut_scan` shows that its tokens are the texts of the spans.  Everything after that is
about characters.

## Main definitions

* `Style`, `Piece`: a word with the way in which it is written.
* `WrittenLine`: the words of a line, each with the spaces behind it.
* `readTokens`: the scanner without positions.

## Main results

* `cut_scan`: spans cut out of the line what `readTokens` collects.
* `body_append`: what is scanned of a line that was written.
* `WrittenLine.readTokens_text`: the tokens of a line that was written.
* `ofLine_of_written`: the command of such a line has its words as tokens.
-/

namespace GridAdmin

namespace TypedLine

/-- The span of what stands between two parts of a line cuts it out. -/
private theorem cut_middle (first middle rest : List Char) :
    Span.cut ⟨Text.byteLength first, Text.byteLength (first ++ middle)⟩ (first ++ middle ++ rest)
      = middle := by
  have hWidth : Text.byteLength (first ++ middle) - Text.byteLength first
      = Text.byteLength middle := by
    rw [Text.byteLength_append]
    omega
  rw [Span.cut, hWidth, List.append_assoc, Text.dropBytes_append, Text.dropBytes_zero,
    Text.takeBytes_append rest (Nat.le_refl _), Nat.sub_self, Text.takeBytes_zero,
    List.append_nil]

/-! ## The scanner without positions -/

/-- The tokens of the rest of a line, behind the part `current` of the token that the
scanner is inside of. -/
def readTokens (mode : Mode) (current : List Char) : List Char → List (List Char)
  | [] => [current]
  | c :: cs =>
      match mode with
      | .between =>
          if isQuote c then readTokens (.quoted c) [] cs
          else if c = ' ' then readTokens .between [] cs
          else readTokens .bare (current ++ [c]) cs
      | .bare =>
          if c = ' ' then current :: readTokens .between [] cs
          else readTokens .bare (current ++ [c]) cs
      | .quoted quote =>
          if c = quote then current :: readTokens .between [] cs
          else readTokens (.quoted quote) (current ++ [c]) cs

/-- The character that ends the token which the scanner is inside of. -/
def Mode.closer? : Mode → Option Char
  | .between => none
  | .bare => some ' '
  | .quoted quote => some quote

section Inside

variable {mode : Mode} {closer c : Char} {current cs : List Char} {start here : Nat}

/-- Bare and quoted tokens are scanned alike, up to the character that ends them. -/
theorem readTokens_inside (hMode : mode.closer? = some closer) :
    readTokens mode current (c :: cs)
      = if c = closer then current :: readTokens .between [] cs
        else readTokens mode (current ++ [c]) cs := by
  cases mode with
  | between => cases hMode
  | bare => cases hMode; rfl
  | quoted quote => cases hMode; rfl

theorem scan_inside (hMode : mode.closer? = some closer) :
    scan mode start here (c :: cs)
      = if c = closer then
          ⟨start, here⟩ :: scan .between (here + c.utf8Size) (here + c.utf8Size) cs
        else scan mode start (here + c.utf8Size) cs := by
  cases mode with
  | between => cases hMode
  | bare => cases hMode; rfl
  | quoted quote => cases hMode; rfl

end Inside

/-- The scanner stands behind `first ++ current`, and the current token starts behind
`first`.  Its spans cut the tokens out of the whole line. -/
theorem cut_scan (mode : Mode) (first current text : List Char) :
    (scan mode (Text.byteLength first) (Text.byteLength (first ++ current)) text).map
        (fun span => span.cut (first ++ current ++ text))
      = readTokens mode current text := by
  induction text generalizing mode first current with
  | nil => rw [scan, readTokens, List.map_singleton, cut_middle]
  | cons c cs ih =>
      have hNext : Text.byteLength (first ++ current) + c.utf8Size
          = Text.byteLength (first ++ current ++ [c]) := by
        rw [Text.byteLength_append _ [c], Text.byteLength_cons, Text.byteLength_nil, Nat.add_zero]
      have hWhole : first ++ current ++ c :: cs = first ++ current ++ [c] ++ cs := by
        rw [List.append_cons]
      -- A token that starts behind `c`, and one that `c` belongs to.
      have hFresh := fun mode => ih mode (first ++ current ++ [c]) []
      have hLonger := fun mode => ih mode first (current ++ [c])
      simp only [List.append_nil] at hFresh
      simp only [← List.append_assoc] at hLonger
      cases hMode : mode.closer? with
      | some closer =>
          rw [scan_inside hMode, readTokens_inside hMode, hNext]
          by_cases hClose : c = closer
          · rw [if_pos hClose, if_pos hClose, List.map_cons, cut_middle, hWhole, hFresh]
          · rw [if_neg hClose, if_neg hClose, hWhole, hLonger]
      | none =>
          cases mode with
          | bare => cases hMode
          | quoted quote => cases hMode
          | between =>
              rw [scan, readTokens, hNext, hWhole]
              by_cases hQuote : isQuote c = true
              · rw [if_pos hQuote, if_pos hQuote, hFresh]
              · rw [if_neg hQuote, if_neg hQuote]
                by_cases hSpace : c = ' '
                · rw [if_pos hSpace, if_pos hSpace, hFresh]
                · rw [if_neg hSpace, if_neg hSpace, hLonger]

theorem tokens_eq (max : Nat) (line : List Char) :
    tokens max line = (readTokens .between [] (body line)).take max := by
  have hCut := cut_scan .between [] [] (body line)
  rw [List.append_nil, List.nil_append] at hCut
  rw [tokens, spans, List.map_take]
  exact congrArg (List.take max) hCut

/-! ## Ways to write a word -/

/-- How a word is written. -/
inductive Style where
  | bare
  | quoted (quote : Char)
  deriving DecidableEq, Repr

/-- The word can be written in this way. -/
def Style.Suits : Style → List Char → Prop
  | .bare, word => word ≠ [] ∧ ' ' ∉ word ∧ word.head?.any isQuote = false
  | .quoted quote, word => isQuote quote = true ∧ quote ∉ word

instance (style : Style) (word : List Char) : Decidable (style.Suits word) :=
  match style with
  | .bare => inferInstanceAs (Decidable (word ≠ [] ∧ ' ' ∉ word ∧ word.head?.any isQuote = false))
  | .quoted quote => inferInstanceAs (Decidable (isQuote quote = true ∧ quote ∉ word))

/-- The written form of a word. -/
def Style.write : Style → List Char → List Char
  | .bare, word => word
  | .quoted quote, word => quote :: word ++ [quote]

/-- `count` spaces. -/
def spaces (count : Nat) : List Char :=
  List.replicate count ' '

/-- A word, how it is written, and how many spaces stand behind it besides the one that
keeps it apart from the next word. -/
structure Piece where
  word : List Char
  style : Style
  gap : Nat
  suits : style.Suits word
  singleLine : '\n' ∉ word

/-- The written form of the word. -/
def Piece.text (piece : Piece) : List Char :=
  piece.style.write piece.word

/-- The words in order, kept apart by spaces. -/
def writeAll : List Piece → List Char
  | [] => []
  | [piece] => piece.text ++ spaces piece.gap
  | piece :: next :: rest => piece.text ++ ' ' :: spaces piece.gap ++ writeAll (next :: rest)

/-- A line as it is written up to its newline. -/
structure WrittenLine where
  /-- The number of spaces in front of the first word. -/
  indent : Nat
  pieces : List Piece

namespace WrittenLine

def words (line : WrittenLine) : List (List Char) :=
  line.pieces.map Piece.word

def text (line : WrittenLine) : List Char :=
  spaces line.indent ++ writeAll line.pieces

/-- A bare word that comes last does not end in a carriage return. -/
def EndsVisibly (line : WrittenLine) : Prop :=
  ∀ piece, line.pieces.getLast? = some piece → piece.style = .bare →
    piece.word.getLast? ≠ some '\r'

end WrittenLine

/-! ## Reading what was written -/

section Reading

variable {current word rest : List Char} {piece : Piece}

theorem readTokens_spaces (count : Nat) (rest : List Char) :
    readTokens .between [] (spaces count ++ rest) = readTokens .between [] rest := by
  induction count with
  | zero => rfl
  | succ count ih =>
      have hQuote : ¬isQuote ' ' = true := by decide
      rw [spaces, List.replicate_succ, List.cons_append, readTokens, if_neg hQuote, if_pos rfl]
      exact ih

/-- Everything before the character that ends a token belongs to it. -/
theorem readTokens_closed {mode : Mode} {closer : Char} (hMode : mode.closer? = some closer)
    (hFree : closer ∉ word) :
    readTokens mode current (word ++ closer :: rest)
      = (current ++ word) :: readTokens .between [] rest := by
  induction word generalizing current with
  | nil => rw [List.nil_append, readTokens_inside hMode, if_pos rfl, List.append_nil]
  | cons c cs ih =>
      have hOther : ¬c = closer := Ne.symm (List.ne_of_not_mem_cons hFree)
      rw [List.cons_append, readTokens_inside hMode, if_neg hOther,
        ih (List.not_mem_of_not_mem_cons hFree), ← List.append_cons]

/-- The end of the line ends a bare token. -/
private theorem readTokens_bare_end (hFree : ' ' ∉ word) :
    readTokens .bare current word = [current ++ word] := by
  induction word generalizing current with
  | nil => rw [readTokens, List.append_nil]
  | cons c cs ih =>
      have hOther : ¬c = ' ' := Ne.symm (List.ne_of_not_mem_cons hFree)
      rw [readTokens, if_neg hOther, ih (List.not_mem_of_not_mem_cons hFree), ← List.append_cons]

/-- A bare word is scanned as one, since its first character opens no quotes. -/
theorem readTokens_of_bare (hSuits : Style.bare.Suits word) :
    readTokens .between [] (word ++ rest) = readTokens .bare [] (word ++ rest) := by
  obtain ⟨hWord, hFree, hHead⟩ := hSuits
  cases word with
  | nil => exact absurd rfl hWord
  | cons c cs =>
      have hOther : ¬c = ' ' := Ne.symm (List.ne_of_not_mem_cons hFree)
      have hQuote : ¬isQuote c = true := by
        rw [Bool.not_eq_true]
        exact hHead
      rw [List.cons_append, readTokens, if_neg hQuote, if_neg hOther, readTokens, if_neg hOther]

/-- A written word with a space behind it is read as the word. -/
theorem Piece.readTokens_text (piece : Piece) (rest : List Char) :
    readTokens .between [] (piece.text ++ ' ' :: rest)
      = piece.word :: readTokens .between [] rest := by
  obtain ⟨word, style, gap, hSuits, hLine⟩ := piece
  cases style with
  | bare =>
      show readTokens .between [] (word ++ ' ' :: rest) = word :: readTokens .between [] rest
      rw [readTokens_of_bare hSuits, readTokens_closed rfl hSuits.2.1, List.nil_append]
  | quoted quote =>
      obtain ⟨hQuote, hFree⟩ := hSuits
      have hSpace := readTokens_spaces 1 rest
      show readTokens .between [] (quote :: word ++ [quote] ++ ' ' :: rest) = _
      rw [List.append_assoc, List.cons_append, readTokens, if_pos hQuote, List.singleton_append,
        readTokens_closed rfl hFree, List.nil_append]
      exact congrArg (word :: ·) hSpace

/-- The last word is read as well.  Behind it there may be one empty token. -/
private theorem Piece.readTokens_last (piece : Piece) :
    ∃ surplus, readTokens .between [] (piece.text ++ spaces piece.gap) = piece.word :: surplus ∧
      (surplus = [] ∨ surplus = [[]]) := by
  have hSpaces : ∀ count, readTokens .between [] (spaces count) = [[]] := by
    intro count
    have hRead := readTokens_spaces count []
    rw [List.append_nil] at hRead
    rw [hRead, readTokens]
  cases hGap : piece.gap with
  | succ count =>
      refine ⟨[[]], ?_, Or.inr rfl⟩
      have hRead := piece.readTokens_text (spaces count)
      rw [hSpaces] at hRead
      exact hRead
  | zero =>
      obtain ⟨word, style, gap, hSuits, hLine⟩ := piece
      have hNone : spaces 0 = [] := rfl
      cases style with
      | bare =>
          refine ⟨[], ?_, Or.inl rfl⟩
          show readTokens .between [] (word ++ spaces 0) = [word]
          rw [readTokens_of_bare hSuits, hNone, List.append_nil, readTokens_bare_end hSuits.2.1,
            List.nil_append]
      | quoted quote =>
          obtain ⟨hQuote, hFree⟩ := hSuits
          refine ⟨[[]], ?_, Or.inr rfl⟩
          show readTokens .between [] (quote :: word ++ [quote] ++ spaces 0) = [word, []]
          rw [hNone, List.append_nil, List.cons_append, readTokens, if_pos hQuote,
            readTokens_closed rfl hFree, List.nil_append, readTokens]

/-- All words are read in order, with at most one empty token behind them. -/
private theorem readTokens_writeAll (pieces : List Piece) :
    ∃ surplus, readTokens .between [] (writeAll pieces) = pieces.map Piece.word ++ surplus ∧
      (surplus = [] ∨ surplus = [[]]) := by
  induction pieces with
  | nil => exact ⟨[[]], rfl, Or.inr rfl⟩
  | cons piece rest ih =>
      cases rest with
      | nil => exact piece.readTokens_last
      | cons next rest =>
          obtain ⟨surplus, hRest, hSurplus⟩ := ih
          refine ⟨surplus, ?_, hSurplus⟩
          rw [writeAll, List.append_assoc, List.cons_append, piece.readTokens_text,
            readTokens_spaces, hRest]
          rfl

theorem WrittenLine.readTokens_text (line : WrittenLine) :
    ∃ surplus, readTokens .between [] line.text = line.words ++ surplus ∧
      (surplus = [] ∨ surplus = [[]]) := by
  rw [WrittenLine.text, readTokens_spaces]
  exact readTokens_writeAll line.pieces

end Reading

/-! ## What is scanned of a written line -/

section Body

variable {text tail : List Char}

theorem newline_not_mem_spaces (count : Nat) : '\n' ∉ spaces count := by
  intro hMem
  have hSpace := List.eq_of_mem_replicate hMem
  exact absurd hSpace (by decide)

private theorem Piece.newline_not_mem_text (piece : Piece) : '\n' ∉ piece.text := by
  obtain ⟨word, style, gap, hSuits, hLine⟩ := piece
  cases style with
  | bare => exact hLine
  | quoted quote =>
      have hQuote : '\n' ≠ quote := by
        rintro rfl
        exact absurd hSuits.1 (by decide)
      intro hMem
      rcases List.mem_cons.mp hMem with hOpen | hMem
      · exact hQuote hOpen
      · rcases List.mem_append.mp hMem with hInside | hClose
        · exact hLine hInside
        · exact hQuote (List.mem_singleton.mp hClose)

private theorem newline_not_mem_writeAll (pieces : List Piece) : '\n' ∉ writeAll pieces := by
  induction pieces with
  | nil => exact List.not_mem_nil
  | cons piece rest ih =>
      cases rest with
      | nil =>
          rw [writeAll, List.mem_append, not_or]
          exact ⟨piece.newline_not_mem_text, newline_not_mem_spaces _⟩
      | cons next rest =>
          rw [writeAll, List.mem_append, List.mem_append, not_or, not_or]
          exact ⟨⟨piece.newline_not_mem_text, newline_not_mem_spaces (piece.gap + 1)⟩, ih⟩

theorem getLast?_append_ne {c : Char} {first rest : List Char} (hFirst : first.getLast? ≠ some c)
    (hRest : rest.getLast? ≠ some c) : (first ++ rest).getLast? ≠ some c := by
  rw [List.getLast?_append]
  cases hLast : rest.getLast? with
  | none => exact hFirst
  | some last =>
      rw [hLast] at hRest
      exact hRest

theorem getLast?_spaces_ne (count : Nat) : (spaces count).getLast? ≠ some '\r' := by
  intro hLast
  have hSpace := List.eq_of_mem_replicate (List.mem_of_getLast? hLast)
  exact absurd hSpace (by decide)

/-- A quoted word ends in its quote. -/
private theorem Piece.getLast?_text_ne {piece : Piece}
    (hBare : piece.style = .bare → piece.word.getLast? ≠ some '\r') :
    piece.text.getLast? ≠ some '\r' := by
  obtain ⟨word, style, gap, hSuits, hLine⟩ := piece
  cases style with
  | bare => exact hBare rfl
  | quoted quote =>
      intro hLast
      have hSame : quote = '\r' := by
        have hQuote : (quote :: word ++ [quote]).getLast? = some quote := List.getLast?_concat
        exact Option.some.inj (hQuote.symm.trans hLast)
      rw [hSame] at hSuits
      exact absurd hSuits.1 (by decide)

private theorem getLast?_writeAll_ne {pieces : List Piece}
    (hVisible : ∀ piece, pieces.getLast? = some piece → piece.style = .bare →
      piece.word.getLast? ≠ some '\r') :
    (writeAll pieces).getLast? ≠ some '\r' := by
  induction pieces with
  | nil => exact nofun
  | cons piece rest ih =>
      cases rest with
      | nil =>
          have hWord := Piece.getLast?_text_ne (hVisible piece rfl)
          exact getLast?_append_ne hWord (getLast?_spaces_ne piece.gap)
      | cons next rest =>
          rw [List.getLast?_cons_cons] at hVisible
          -- Whatever the word before ends in, there is a space behind it.
          have hGap : (piece.text ++ spaces (piece.gap + 1)).getLast? = some ' ' := by
            rw [List.getLast?_append, spaces, List.getLast?_replicate, if_neg (by omega)]
            rfl
          refine getLast?_append_ne ?_ (ih hVisible)
          show (piece.text ++ spaces (piece.gap + 1)).getLast? ≠ some '\r'
          rw [hGap]
          decide

/-- The last character of a line is a space, a quote, or the last one of a bare word. -/
private theorem WrittenLine.getLast?_text_ne {line : WrittenLine} (hVisible : line.EndsVisibly) :
    line.text.getLast? ≠ some '\r' :=
  getLast?_append_ne (getLast?_spaces_ne line.indent) (getLast?_writeAll_ne hVisible)

private theorem WrittenLine.newline_not_mem_text (line : WrittenLine) : '\n' ∉ line.text := by
  rw [WrittenLine.text, List.mem_append, not_or]
  exact ⟨newline_not_mem_spaces line.indent, newline_not_mem_writeAll line.pieces⟩

/-- Nothing behind a text without newlines counts, wherever it is cut off. -/
theorem before_append (limit : Nat) (hLine : '\n' ∉ text)
    (hTail : tail = [] ∨ tail.head? = some '\n') :
    Text.before '\n' (text ++ Text.takeBytes limit tail) = text := by
  have hNothing : Text.before '\n' (Text.takeBytes limit tail) = [] := by
    cases tail with
    | nil => rfl
    | cons c cs =>
        have hNewline : c = '\n' := by simpa using hTail
        rw [Text.takeBytes]
        split
        · rw [Text.before, hNewline]
          rfl
        · rfl
  rw [Text.before, List.takeWhile_append_of_pos (Text.forall_ne hLine)]
  exact (congrArg (text ++ ·) hNothing).trans (List.append_nil text)

/-- A text without newlines, and with no carriage return at its end, is scanned as it is,
if it is short enough.  Nothing behind the newline is scanned. -/
theorem body_append (hFits : Text.byteLength text ≤ maxBytes) (hLine : '\n' ∉ text)
    (hReturn : text.getLast? ≠ some '\r') (hTail : tail = [] ∨ tail.head? = some '\n') :
    body (text ++ tail) = text := by
  rw [body, Text.takeBytes_append tail hFits, before_append _ hLine hTail, Text.dropOneAtEnd,
    if_neg hReturn]

end Body

end TypedLine

/-! ## Commands -/

namespace Command

/-- Unused tokens are empty anyway. -/
theorem ofWords_append_empty (words : List String) : ofWords (words ++ [""]) = ofWords words := by
  apply Slots.ext_get
  intro index hIndex
  rw [ofWords, ofWords, Slots.get_ofWords, Slots.get_ofWords, if_pos hIndex, if_pos hIndex,
    List.getElem?_append]
  split
  · rfl
  · rename_i hBehind
    rw [List.getElem?_eq_none (Nat.not_lt.mp hBehind)]
    cases index - words.length with
    | zero => rfl
    | succ _ => rfl

/-- Words past the last token are dropped anyway. -/
private theorem ofWords_take (words : List String) :
    ofWords (words.take width) = ofWords words := by
  apply Slots.ext_get
  intro index hIndex
  rw [ofWords, ofWords, Slots.get_ofWords, Slots.get_ofWords, if_pos hIndex, if_pos hIndex,
    List.getElem?_take_of_lt hIndex]

end Command

open TypedLine in
/-- Words are written on a line, each bare or between quotes, with spaces between them and
around them.  If the line takes no more bytes than are read, and a last bare word does not end
in a carriage return, then it is read as the command with these words, whatever follows behind
a newline.  A command drops words past its width, in the list and on the line alike. -/
theorem ofLine_of_written (line : WrittenLine)
    (hFits : Text.byteLength line.text ≤ maxBytes) (hVisible : line.EndsVisibly)
    (tail : List Char) (hTail : tail = [] ∨ tail.head? = some '\n') :
    Command.ofLine (String.ofList (line.text ++ tail)) Command.width
      = Command.ofWords (line.words.map String.ofList) := by
  have hBody : body (line.text ++ tail) = line.text :=
    body_append hFits line.newline_not_mem_text (WrittenLine.getLast?_text_ne hVisible) hTail
  obtain ⟨surplus, hRead, hSurplus⟩ := line.readTokens_text
  rw [Command.ofLine, Nat.min_self, String.toList_ofList, tokens_eq, hBody, hRead, List.map_take,
    Command.ofWords_take, List.map_append]
  rcases hSurplus with rfl | rfl
  · rw [List.map_nil, List.append_nil]
  · exact Command.ofWords_append_empty _

/-! ## A line with all sorts of words -/

namespace SampleLine

open TypedLine

/-- A word with a quote and a space in it, an empty word, and a word with a quote inside. -/
def line : WrittenLine where
  indent := 1
  pieces :=
    [ { word := "it's here".toList, style := .quoted '"', gap := 1,
        suits := by decide, singleLine := by decide },
      { word := [], style := .quoted '\'', gap := 0, suits := by decide, singleLine := by decide },
      { word := "5\"é".toList, style := .bare, gap := 2,
        suits := by decide, singleLine := by decide } ]

end SampleLine

open SampleLine TypedLine in
theorem ofLine_of_sample_line :
    Text.byteLength line.text ≤ maxBytes ∧ line.EndsVisibly ∧
      Command.ofLine " \"it's here\"  '' 5\"é  \nquit" Command.width
        = Command.ofWords ["it's here", "", "5\"é"] := by
  have hFits : Text.byteLength line.text ≤ maxBytes := by decide
  have hVisible : line.EndsVisibly := by
    intro piece hLast hBare
    cases hLast
    decide
  exact ⟨hFits, hVisible, ofLine_of_written line hFits hVisible "\nquit".toList (Or.inr rfl)⟩

end GridAdmin
