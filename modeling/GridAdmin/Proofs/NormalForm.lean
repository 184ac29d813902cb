import GridAdmin.Text.NormalForm

/-!
# Characters that the normal form leaves alone

A sign that must not stand in a name has to be found after the name was brought to its normal
form, so it must not get lost there.  Taking apart and joining are told by charts, and putting
marks into order by classes: a character that no chart takes apart or joins, and that is no mark,
comes out wherever it went in.

That a character is not in a chart is a question to the whole chart.  It is asked once, of the
words that the chart is written in, and carried over to the rows by an induction over the words.

## Main definitions

* `Chart.Spares`: a word of a chart does not concern a character.
* `Text.IsInert`: a character that is neither taken apart, nor joined, nor a mark.

## Main results

* `Chart.rows_spare`: what holds of the words of a chart holds of its rows.
* `Text.isInert_bracket`: the bracket is such a character.
* `Text.IsInert.mem_normalForm`: it stays in every text that holds it.
-/

namespace GridAdmin

/-! ## Charts that spare a character -/

namespace Chart

/-- The words of the chart that these characters write. -/
def wordsOf (chart : List Char) : List (List Char) :=
  ((chart.map fun c => if c = '\n' then ' ' else c).splitOn ' ').filter (!·.isEmpty)

private theorem words_ofList (chart : List Char) : words (String.ofList chart) = wordsOf chart := by
  unfold words wordsOf
  rw [String.toList_ofList]

/-- The word begins a row behind the character, or writes a text without it. -/
def spares (c : Char) (word : List Char) : Bool :=
  if word.getLast? = some ':' then decide (c.toNat < codePoint word.dropLast)
  else !(text word).contains c

/-- The row begins behind the character, and its texts do not hold it. -/
def Row.Spares (c : Char) (row : Row) : Prop :=
  c.toNat < row.first ∧ ∀ text ∈ row.texts, c ∉ text

variable {c : Char}

private theorem gather_spares {ws : List (List Char)} (hWords : ws.all (spares c) = true) :
    (∀ text ∈ (ws.foldr gather ([], [])).1, c ∉ text) ∧
      ∀ row ∈ (ws.foldr gather ([], [])).2, row.Spares c := by
  induction ws with
  | nil => exact ⟨nofun, nofun⟩
  | cons word rest ih =>
      rw [List.all_cons, Bool.and_eq_true] at hWords
      obtain ⟨hTexts, hRows⟩ := ih hWords.2
      have hWord := hWords.1
      unfold spares at hWord
      rw [List.foldr_cons]
      unfold gather
      by_cases hHead : word.getLast? = some ':'
      · rw [if_pos hHead] at hWord ⊢
        refine ⟨nofun, List.forall_mem_cons.mpr ⟨⟨of_decide_eq_true hWord, hTexts⟩, hRows⟩⟩
      · rw [if_neg hHead] at hWord ⊢
        refine ⟨List.forall_mem_cons.mpr ⟨?_, hTexts⟩, hRows⟩
        simpa using hWord

/-- What holds of the words of a chart holds of its rows. -/
theorem rows_spare {chart : List Char} (hWords : (wordsOf chart).all (spares c) = true) :
    ∀ row ∈ rows (String.ofList chart), row.Spares c := by
  unfold rows
  rw [words_ofList]
  exact (gather_spares hWords).2

private theorem entry?_eq_none {rows : List Row} (hRows : ∀ row ∈ rows, row.Spares c) :
    entry? rows c = none := by
  refine List.findSome?_eq_none_iff.mpr fun row hRow => ?_
  exact if_neg (Nat.not_le.mpr (hRows row hRow).1)

end Chart

namespace Text

variable {c d : Char}

/-! ## Inert characters -/

/-- The character is not taken apart, not joined on either side, and no mark. -/
structure IsInert (c : Char) : Prop where
  apart : takenApart c = [c]
  joinedBehind : ∀ d, joinedPair? c d = none
  joinedBefore : ∀ d, joinedPair? d c = none

private theorem decomposition?_eq_none (hPairs : ∀ row ∈ joinablePairs, row.Spares c)
    (hOthers : ∀ row ∈ unjoinable, row.Spares c) : decomposition? c = none := by
  unfold decomposition?
  rw [Chart.entry?_eq_none hPairs, Chart.entry?_eq_none hOthers]
  rfl

/-- No pair that is joined holds the character. -/
private theorem joined?_eq_none {first second : Char} (hPairs : ∀ row ∈ joinablePairs, row.Spares c)
    (hPair : c ∈ [first, second]) : joined? first second = none := by
  unfold joined?
  rw [Option.map_eq_none_iff, List.find?_eq_none]
  intro entry hEntry hSame
  obtain ⟨row, hRow, hInRow⟩ := List.mem_flatMap.mp hEntry
  obtain ⟨⟨pair, index⟩, hIndexed, rfl⟩ := List.mem_map.mp hInRow
  have hText : pair ∈ row.texts := by
    have hMem := List.mem_map_of_mem (f := Prod.fst) hIndexed
    rwa [List.zipIdx_map_fst] at hMem
  have hPairIs : pair = [first, second] := of_decide_eq_true hSame
  rw [← hPairIs] at hPair
  exact (hPairs row hRow).2 pair hText hPair

private theorem Hangul.index?_eq_none {first count : Nat} (hLow : c.toNat < first) :
    Hangul.index? first count c = none :=
  if_neg fun hIndex => Nat.not_le.mpr hLow hIndex.1

/-- A character that the charts spare and that comes before all parts of syllables is inert. -/
private theorem isInert_of_spares (hPairs : ∀ row ∈ joinablePairs, row.Spares c)
    (hOthers : ∀ row ∈ unjoinable, row.Spares c) (hLow : c.toNat < Hangul.leads) : IsInert c := by
  have hVowel : c.toNat < Hangul.vowels := Nat.lt_trans hLow (by decide)
  have hTail : c.toNat < Hangul.tails + 1 := Nat.lt_trans hLow (by decide)
  have hSyllable : c.toNat < Hangul.syllables := Nat.lt_trans hLow (by decide)
  refine ⟨?_, fun d => ?_, fun d => ?_⟩
  · unfold takenApart Hangul.parts?
    rw [Hangul.index?_eq_none hSyllable, decomposition?_eq_none hPairs hOthers]
    rfl
  · have hPair : c ∈ [c, d] := List.mem_cons_self
    unfold joinedPair? Hangul.joined?
    rw [Hangul.index?_eq_none hLow, Hangul.index?_eq_none hSyllable,
      joined?_eq_none hPairs hPair]
    rfl
  · have hPair : c ∈ [d, c] := List.mem_cons_of_mem _ List.mem_cons_self
    unfold joinedPair? Hangul.joined?
    rw [Hangul.index?_eq_none hVowel, Hangul.index?_eq_none hTail, joined?_eq_none hPairs hPair]
    cases Hangul.index? Hangul.leads 19 d <;> cases Hangul.index? Hangul.syllables 11172 d <;> rfl

-- By `apply` the chart is read as a list of characters only once.
set_option maxRecDepth 100000 in
private theorem joinablePairs_spare_bracket : ∀ row ∈ joinablePairs, row.Spares '[' := by
  apply Chart.rows_spare
  decide +kernel

set_option maxRecDepth 100000 in
private theorem unjoinable_spare_bracket : ∀ row ∈ unjoinable, row.Spares '[' := by
  apply Chart.rows_spare
  decide +kernel

theorem isInert_bracket : IsInert '[' :=
  isInert_of_spares joinablePairs_spare_bracket unjoinable_spare_bracket (by decide)

/-! ## The normal form of a text -/

namespace IsInert

variable {cs marks rest : List Char} {front : Char}

private theorem mem_flatMap_takenApart (hInert : IsInert c) (hMem : c ∈ cs) :
    c ∈ cs.flatMap takenApart := by
  refine List.mem_flatMap.mpr ⟨c, hMem, ?_⟩
  rw [hInert.apart]
  exact List.mem_singleton_self c

/-- What is joined is something else, and everything that is not joined is written out. -/
private theorem mem_composeBehind (hInert : IsInert c) (hMem : c ∈ front :: (marks ++ rest)) :
    c ∈ composeBehind front marks rest := by
  induction rest generalizing front marks with
  | nil => simpa [composeBehind] using hMem
  | cons d rest ih =>
      unfold composeBehind
      split
      next both hBoth =>
        have hJoined : joinedPair? front d = some both := by
          split at hBoth
          · cases hBoth
          · exact hBoth
        have hFront : c ≠ front := by
          rintro rfl
          rw [hInert.joinedBehind] at hJoined
          cases hJoined
        have hNext : c ≠ d := by
          rintro rfl
          rw [hInert.joinedBefore] at hJoined
          cases hJoined
        refine ih ?_
        simp only [List.mem_cons, List.mem_append] at hMem ⊢
        exact Or.inr ((hMem.resolve_left hFront).imp_right fun hLater => hLater.resolve_left hNext)
      next =>
        split
        · rw [List.mem_append]
          simp only [List.mem_cons, List.mem_append, List.mem_reverse] at hMem ⊢
          rcases hMem with hFront | hMark | hRest
          · exact Or.inl (Or.inl hFront)
          · exact Or.inl (Or.inr hMark)
          · exact Or.inr (ih (List.mem_cons.mpr hRest))
        · refine ih ?_
          simp only [List.mem_cons, List.mem_append] at hMem ⊢
          rcases hMem with hFront | hMark | hNext | hRest
          · exact Or.inl hFront
          · exact Or.inr (Or.inl (Or.inr hMark))
          · exact Or.inr (Or.inl (Or.inl hNext))
          · exact Or.inr (Or.inr hRest)

private theorem mem_composed (hInert : IsInert c) (hMem : c ∈ cs) : c ∈ composed cs := by
  induction cs with
  | nil => cases hMem
  | cons d rest ih =>
      unfold composed
      split
      · exact hInert.mem_composeBehind hMem
      · rcases List.mem_cons.mp hMem with rfl | hRest
        · exact List.mem_cons_self
        · exact List.mem_cons_of_mem _ (ih hRest)

/-- An inert character stays in every text that holds it. -/
theorem mem_normalForm (hInert : IsInert c) (hMem : c ∈ cs) : c ∈ normalForm cs := by
  unfold normalForm
  split
  · exact hMem
  · have hApart := hInert.mem_flatMap_takenApart
      (hInert.mem_flatMap_takenApart (hInert.mem_flatMap_takenApart hMem))
    exact hInert.mem_composed ((ordered_perm _).mem_iff.mpr hApart)

end IsInert

end Text

end GridAdmin
