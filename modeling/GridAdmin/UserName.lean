import GridAdmin.Text.Basic

/-!
# User names with a zone

A user is named `name` or `name#zone`. More than one `#` is refused, and a
missing zone is the empty text.

## Main results

* `splitUserName?_eq_none_iff`: exactly the texts with two or more `#` are refused.
-/

namespace GridAdmin

/-- Split `name#zone` at its only `#`; the zone is empty without one. -/
def splitUserName? (text : String) : Option (String × String) :=
  match Text.cutAt '#' text.toList with
  | none => some (text, "")
  | some (name, zone) =>
      if '#' ∈ zone then none else some (String.ofList name, String.ofList zone)

theorem splitUserName?_eq_none_iff (text : String) :
    splitUserName? text = none ↔ 2 ≤ text.toList.count '#' := by
  unfold splitUserName?
  split
  · rename_i hCut
    have hNone := List.count_eq_zero.mpr (Text.cutAt_eq_none_iff.mp hCut)
    simp [hNone]
  · rename_i name zone hCut
    obtain ⟨hText, hName⟩ := Text.cutAt_eq hCut
    rw [hText, List.count_append, List.count_cons_self, List.count_eq_zero.mpr hName]
    by_cases hZone : '#' ∈ zone
    · have hPos := List.count_pos_iff.mpr hZone
      simp only [hZone, if_true, true_iff]
      omega
    · simp [hZone, List.count_eq_zero.mpr hZone]

end GridAdmin
