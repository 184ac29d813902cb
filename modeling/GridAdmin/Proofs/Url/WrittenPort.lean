import GridAdmin.Proofs.TextCuts
import GridAdmin.Proofs.Url.HostText
import GridAdmin.Url.Reader

/-!
# The port that an authority writes

An authority is a user, a host and a port, told apart by signs: the user ends at the last `@`,
and the host at its closing bracket or at the first colon.  What the reader keeps is something
else, because it leaves out the default port of a scheme.  Here the port is read off the text by
its signs alone, and the reader is shown to keep exactly this port, unless it is the default one.

The reader counts brackets where the signs ask for the first one only.  Both agree on every text
that is read at all, as a text that is read as a host holds no other brackets.

## Main definitions

* `Url.behindUser`, `Url.behindHost`: an authority without its first parts.
* `Url.writtenPort?`: the port that an authority writes.
* `Url.IsHost`: a text that ends where the host of an authority ends.
* `Url.fromAuthority`: an address without its scheme.

## Main results

* `Url.behindHost_append`: behind a host stands what was written behind it.
* `Url.splits_of_readHostPort`: how a text is split that is read as host and port.
* `Url.port_of_readAuthority`: the reader keeps the port that is written.
* `Url.port_of_pasted`: a port behind a text that writes none is the port of the whole.
* `Url.authority_of_read`: which text is read as the authority of an address.
-/

namespace GridAdmin.Url

open Text (forall_ne takeWhile_ne_append dropWhile_ne_append)

/-! ## Signs -/

/-- What stands behind the user of an authority: all of it behind the last `@`. -/
def behindUser (authority : List Char) : List Char :=
  (authority.reverse.takeWhile (· ≠ '@')).reverse

/-- What stands behind a host: all behind its closing bracket, if it begins with an opening one,
and else all from the first colon on. -/
def behindHost : List Char → List Char
  | '[' :: inner => (inner.dropWhile (· ≠ ']')).drop 1
  | cs => cs.dropWhile (· ≠ ':')

/-- The number of the digits behind a colon; `none` without digits or without a colon. -/
def portBehind? : List Char → Option Nat
  | ':' :: rest => Text.readNat? (rest.takeWhile Char.isDigit)
  | _ => none

/-- The port that an authority writes. -/
def writtenPort? (authority : List Char) : Option Nat :=
  portBehind? (behindHost (behindUser authority))

/-- The end of a text, or a colon. -/
def EndsHost (behind : List Char) : Prop :=
  behind = [] ∨ behind.head? = some ':'

/-- A text that is a whole host: in brackets, or without brackets and colons. -/
inductive IsHost : List Char → Prop where
  | bracketed {inner : List Char} (hInner : ']' ∉ inner) : IsHost ('[' :: inner ++ [']'])
  | plain {cs : List Char} (hBracket : '[' ∉ cs) (hColon : ':' ∉ cs) : IsHost cs

section Signs

variable {cs front back hostText behind : List Char} {sign : Char}

private theorem EndsHost.dropWhile (hBehind : EndsHost behind) :
    behind.dropWhile (· ≠ ':') = behind := by
  rcases hBehind with rfl | hHead
  · rfl
  · obtain ⟨rest, rfl⟩ := List.head?_eq_some_iff.mp hHead
    exact List.dropWhile_cons_of_neg (by simp)

theorem behindUser_append (hBack : '@' ∉ back) :
    behindUser (front ++ back) = behindUser front ++ back := by
  have hReversed : '@' ∉ back.reverse := fun hMem => hBack (List.mem_reverse.mp hMem)
  unfold behindUser
  rw [List.reverse_append, List.takeWhile_append_of_pos (forall_ne hReversed),
    List.reverse_append, List.reverse_reverse]

private theorem mem_of_mem_behindUser (hMem : sign ∈ behindUser cs) : sign ∈ cs := by
  unfold behindUser at hMem
  exact List.mem_reverse.mp ((List.takeWhile_prefix _).mem (List.mem_reverse.mp hMem))

/-- A text is split at its last sign in one way. -/
private theorem eq_of_split_last {front' back' : List Char} (hBack : sign ∉ back)
    (hBack' : sign ∉ back')
    (hSame : front ++ sign :: back = front' ++ sign :: back') : front = front' ∧ back = back' := by
  have hReversed := congrArg (fun text => text.reverse.takeWhile (· ≠ sign)) hSame
  simp only [List.reverse_append, List.reverse_cons, List.append_assoc, List.singleton_append]
    at hReversed
  rw [takeWhile_ne_append (fun hMem => hBack (List.mem_reverse.mp hMem)),
    takeWhile_ne_append (fun hMem => hBack' (List.mem_reverse.mp hMem))] at hReversed
  have hBoth := List.reverse_inj.mp hReversed
  subst hBoth
  exact ⟨List.append_cancel_right hSame, rfl⟩

private theorem behindHost_of_head (hHead : cs.head? ≠ some '[') :
    behindHost cs = cs.dropWhile (· ≠ ':') := by
  unfold behindHost
  split
  · exact absurd rfl hHead
  · rfl

/-- Behind a host stands what was written behind it. -/
theorem behindHost_append (hHost : IsHost hostText) (hBehind : EndsHost behind) :
    behindHost (hostText ++ behind) = behind := by
  cases hHost with
  | bracketed hInner =>
      rename_i inner
      have hText : '[' :: inner ++ [']'] ++ behind = '[' :: (inner ++ ']' :: behind) := by simp
      rw [hText]
      show ((inner ++ ']' :: behind).dropWhile (· ≠ ']')).drop 1 = behind
      rw [dropWhile_ne_append hInner, List.dropWhile_cons_of_neg (by simp)]
      rfl
  | plain hBracket hColon =>
      have hHead : (hostText ++ behind).head? ≠ some '[' := by
        cases hostText with
        | cons c rest =>
            rintro ⟨⟩
            exact hBracket List.mem_cons_self
        | nil =>
            rcases hBehind with rfl | hHead
            · nofun
            · rw [List.nil_append, hHead]
              decide
      rw [behindHost_of_head hHead, dropWhile_ne_append hColon, hBehind.dropWhile]

/-- The reader finds the user by the same sign. -/
private theorem cutUser_none (hCut : cutUser cs = none) : behindUser cs = cs := by
  unfold cutUser at hCut
  rw [Option.map_eq_none_iff, Text.cutAt_eq_none_iff] at hCut
  unfold behindUser
  rw [List.takeWhile_eq_self_iff.mpr (forall_ne hCut), List.reverse_reverse]

private theorem cutUser_some {user : List Char} (hCut : cutUser cs = some (user, back)) :
    behindUser cs = back := by
  unfold cutUser at hCut
  obtain ⟨⟨last, rest⟩, hLast, hBoth⟩ := Option.map_eq_some_iff.mp hCut
  obtain ⟨rfl, rfl⟩ := Prod.mk.inj hBoth
  obtain ⟨hText, hFront⟩ := Text.cutAt_eq hLast
  unfold behindUser
  rw [hText, takeWhile_ne_append hFront]

end Signs

/-! ## Digits -/

section Digits

variable {digits : List Char} {c sign : Char} {special : Bool}

theorem isDigit_of_mem (hDigits : Text.isDigits digits = true) (hMem : c ∈ digits) :
    c.isDigit = true := by
  unfold Text.isDigits at hDigits
  rw [Bool.and_eq_true, List.all_eq_true] at hDigits
  exact hDigits.2 c hMem

theorem ne_nil_of_isDigits (hDigits : Text.isDigits digits = true) : digits ≠ [] := by
  rintro rfl
  cases hDigits

theorem ne_of_isDigit (hDigit : c.isDigit = true) (hSign : sign.isDigit = false) : c ≠ sign := by
  rintro rfl
  rw [hDigit] at hSign
  cases hSign

theorem not_mem_of_isDigits (hDigits : Text.isDigits digits = true)
    (hSign : sign.isDigit = false) : sign ∉ digits :=
  fun hMem => ne_of_isDigit (isDigit_of_mem hDigits hMem) hSign rfl

private theorem endsAuthority_of_isDigit (hDigit : c.isDigit = true) :
    endsAuthority special c = false := by
  unfold endsAuthority isSlash
  rw [decide_eq_false (ne_of_isDigit hDigit rfl), decide_eq_false (ne_of_isDigit hDigit rfl),
    decide_eq_false (ne_of_isDigit hDigit rfl), decide_eq_false (ne_of_isDigit hDigit rfl)]
  simp

/-- A colon with digits behind it stays within an authority. -/
private theorem takeWhile_pasted (hDigits : Text.isDigits digits = true) :
    (':' :: digits).takeWhile (!endsAuthority special ·) = ':' :: digits := by
  rw [List.takeWhile_eq_self_iff]
  intro c hMem
  rcases List.mem_cons.mp hMem with rfl | hDigit
  · cases special <;> rfl
  · rw [endsAuthority_of_isDigit (isDigit_of_mem hDigits hDigit)]
    rfl

/-- A text with a port behind it is no host. -/
private theorem not_isHost_pasted {front : List Char} (hDigits : Text.isDigits digits = true) :
    ¬IsHost (front ++ ':' :: digits) := by
  have hNonempty := ne_nil_of_isDigits hDigits
  intro hHost
  generalize hText : front ++ ':' :: digits = text at hHost
  cases hHost with
  | bracketed hInner =>
      have hLast := congrArg List.getLast? hText
      rw [List.getLast?_concat, List.getLast?_append, List.getLast?_cons_of_ne_nil hNonempty,
        List.getLast?_eq_some_getLast hNonempty, Option.some_or] at hLast
      have hMem := List.getLast_mem hNonempty
      rw [Option.some.inj hLast] at hMem
      exact not_mem_of_isDigits hDigits rfl hMem
  | plain hBracket hColon => exact hColon (hText ▸ by simp)

end Digits

/-! ## The reader -/

section Reader

variable {cs hostText behind rest scheme user password : List Char} {inside : Bool}
  {authority : Authority} {port : Option Nat}

private theorem takeHost_append_drop :
    takeHost inside cs ++ cs.drop (takeHost inside cs).length = cs := by
  induction cs generalizing inside with
  | nil => rfl
  | cons c cs ih =>
      unfold takeHost
      split
      · rfl
      · rw [List.length_cons, List.drop_succ_cons, List.cons_append, ih]

private theorem endsHost_drop_takeHost : EndsHost (cs.drop (takeHost inside cs).length) := by
  induction cs generalizing inside with
  | nil => exact Or.inl rfl
  | cons c cs ih =>
      unfold takeHost
      split
      next hColon =>
        right
        rw [List.length_nil, List.drop_zero, List.head?_cons, hColon.1]
      next =>
        rw [List.length_cons, List.drop_succ_cons]
        exact ih

/-- Without brackets, a host ends at the first colon. -/
private theorem colon_not_mem_takeHost (hBracket : '[' ∉ takeHost false cs) :
    ':' ∉ takeHost false cs := by
  induction cs with
  | nil => exact List.not_mem_nil
  | cons c cs ih =>
      unfold takeHost at hBracket ⊢
      split
      · exact List.not_mem_nil
      next hColon =>
        rw [if_neg hColon, List.mem_cons, not_or] at hBracket
        have hOutside : (if c = '[' then true else if c = ']' then false else false) = false := by
          rw [if_neg (Ne.symm hBracket.1), ite_self]
        rw [hOutside] at hBracket ⊢
        rw [List.mem_cons, not_or]
        exact ⟨fun hSame => hColon ⟨hSame.symm, rfl⟩, ih hBracket.2⟩

/-- A text that is read as a host is a whole one, if it was cut where the signs say. -/
private theorem isHost_of_isHostText (hText : Host.IsHostText cs) (hCut : '[' ∉ cs → ':' ∉ cs) :
    IsHost cs := by
  cases hText with
  | bracketed hInner => exact .bracketed hInner
  | plain hPlain => exact .plain hPlain (hCut hPlain)

private theorem eq_of_readPort (hRead : readPort scheme cs = .ok (port, rest)) :
    port = (Text.readNat? (cs.takeWhile Char.isDigit)).bind (keptPort scheme)
      ∧ rest = cs.drop (cs.takeWhile Char.isDigit).length
      ∧ (rest = [] ∨ rest.head? = some '\\') := by
  unfold readPort at hRead
  dsimp only at hRead
  split at hRead
  · cases hRead
  split at hRead
  · cases hRead
  next hEnds =>
    have hEnd : cs.drop (cs.takeWhile Char.isDigit).length = []
        ∨ (cs.drop (cs.takeWhile Char.isDigit).length).head? = some '\\' :=
      Decidable.or_iff_not_not_and_not.mpr hEnds
    unfold Text.readNat? Text.isDigits
    split at hRead
    next hNone =>
      cases hRead
      refine ⟨?_, rfl, hEnd⟩
      rw [hNone]
      rfl
    next hSome =>
      cases hRead
      refine ⟨?_, rfl, hEnd⟩
      have hAll : (cs.takeWhile Char.isDigit).all Char.isDigit = true :=
        List.all_takeWhile
      rw [hAll, Bool.and_true, List.isEmpty_eq_false_iff.mpr hSome]
      rfl

theorem ok_of_bind {ε α β : Type} {result : Except ε α} {next : α → Except ε β} {b : β}
    (hBind : result >>= next = .ok b) : ∃ a, result = .ok a ∧ next a = .ok b := by
  cases result with
  | error => cases hBind
  | ok a => exact ⟨a, rfl, hBind⟩

private theorem ok_of_map {ε α β : Type} {result : Except ε α} {image : α → β} {b : β}
    (hMap : image <$> result = .ok b) : ∃ a, result = .ok a ∧ image a = b := by
  cases result with
  | error => cases hMap
  | ok a => exact ⟨a, rfl, Except.ok.inj hMap⟩

/-- A host and a port are read one after the other. -/
private theorem readHostPort_eq :
    readHostPort scheme user password cs
      = if takeHost false cs = [] ∧
            (isSpecial scheme = true ∨ cs.drop (takeHost false cs).length ≠ []) then
          .error .emptyHost
        else
          (if isSpecial scheme then Host.read (takeHost false cs)
            else Host.readOpaque (takeHost false cs)) >>= fun host =>
          (if cs.drop (takeHost false cs).length = [] then .ok (none, [])
            else readPort scheme ((cs.drop (takeHost false cs).length).drop 1)) >>= fun found =>
          if host = .domain [] ∧ ¬(user = [] ∧ password = []) then .error .emptyHost
          else .ok ({ user, password, host, port := found.1 }, found.2) := by
  unfold readHostPort
  dsimp only
  by_cases hSpecial : isSpecial scheme = true
  <;> by_cases hNone : cs.drop (takeHost false cs).length = []
  · simp only [if_pos hSpecial, if_pos hNone]
    rfl
  · simp only [if_pos hSpecial, if_neg hNone]
    rfl
  · simp only [if_neg hSpecial, if_pos hNone]
    rfl
  · simp only [if_neg hSpecial, if_neg hNone]
    rfl

private theorem stages_of_readHostPort
    (hRead : readHostPort scheme user password cs = .ok (authority, rest)) :
    Host.IsHostText (takeHost false cs)
      ∧ (if cs.drop (takeHost false cs).length = [] then .ok (none, [])
          else readPort scheme ((cs.drop (takeHost false cs).length).drop 1))
        = .ok (authority.port, rest) := by
  rw [readHostPort_eq] at hRead
  split at hRead
  · cases hRead
  · obtain ⟨host, hText, hRead⟩ := ok_of_bind hRead
    obtain ⟨found, hPort, hRead⟩ := ok_of_bind hRead
    split at hRead
    · cases hRead
    · cases hRead
      refine ⟨?_, hPort⟩
      split at hText
      · exact Host.isHostText_of_read hText
      · exact Host.isHostText_of_readOpaque hText

/-- How a text is split that is read as host and port: what is kept is the number behind the
colon, and behind this number stands nothing, or a backslash. -/
theorem splits_of_readHostPort
    (hRead : readHostPort scheme user password cs = .ok (authority, rest)) :
    ∃ hostText behind, cs = hostText ++ behind ∧ IsHost hostText ∧ EndsHost behind
      ∧ authority.port = (portBehind? behind).bind (keptPort scheme)
      ∧ (behind = [] ∨ ∃ digits, digits.all Char.isDigit = true
          ∧ behind = ':' :: digits ++ rest ∧ (rest = [] ∨ rest.head? = some '\\')) := by
  obtain ⟨hText, hPort⟩ := stages_of_readHostPort hRead
  have hEnds : EndsHost (cs.drop (takeHost false cs).length) := endsHost_drop_takeHost
  refine ⟨takeHost false cs, cs.drop (takeHost false cs).length, takeHost_append_drop.symm,
    isHost_of_isHostText hText colon_not_mem_takeHost, hEnds, ?_⟩
  generalize cs.drop (takeHost false cs).length = behind at hPort hEnds
  rcases hEnds with rfl | hHead
  · rw [if_pos rfl, Except.ok.injEq, Prod.mk.injEq] at hPort
    obtain ⟨hPort, rfl⟩ := hPort
    exact ⟨hPort.symm, Or.inl rfl⟩
  · obtain ⟨more, rfl⟩ := List.head?_eq_some_iff.mp hHead
    rw [if_neg (List.cons_ne_nil _ _), List.drop_one, List.tail_cons] at hPort
    obtain ⟨hNumber, hRest, hEnd⟩ := eq_of_readPort hPort
    refine ⟨hNumber, Or.inr ⟨more.takeWhile Char.isDigit, List.all_takeWhile, ?_, hEnd⟩⟩
    have hSplit : more.takeWhile Char.isDigit ++ rest = more := by
      rw [hRest]
      exact List.prefix_iff_eq_append.mp (List.takeWhile_prefix _)
    rw [List.cons_append, hSplit]

/-- Behind its user, an authority is read as host and port. -/
theorem hostPort_of_readAuthority (hRead : readAuthority scheme cs = .ok (authority, rest)) :
    ∃ user password back, readHostPort scheme user password
        (behindUser (cs.takeWhile (!endsAuthority (isSpecial scheme) ·)))
      = .ok (authority, back) := by
  unfold readAuthority at hRead
  dsimp only at hRead
  generalize cs.takeWhile (!endsAuthority (isSpecial scheme) ·) = front at hRead ⊢
  cases hCut : cutUser front with
  | none =>
      rw [hCut] at hRead
      obtain ⟨⟨found, back⟩, hFound, hBoth⟩ := ok_of_map hRead
      cases hBoth
      rw [cutUser_none hCut]
      exact ⟨_, _, back, hFound⟩
  | some parts =>
      obtain ⟨user, host⟩ := parts
      rw [hCut] at hRead
      dsimp only at hRead
      split at hRead
      · cases hRead
      · obtain ⟨⟨found, back⟩, hFound, hBoth⟩ := ok_of_map hRead
        cases hBoth
        rw [cutUser_some hCut]
        exact ⟨_, _, back, hFound⟩

/-- The reader keeps the port that is written, unless it is the default one. -/
theorem port_of_readAuthority (hRead : readAuthority scheme cs = .ok (authority, rest)) :
    authority.port
      = (writtenPort? (cs.takeWhile (!endsAuthority (isSpecial scheme) ·))).bind
          (keptPort scheme) := by
  obtain ⟨user, password, back, hFound⟩ := hostPort_of_readAuthority hRead
  obtain ⟨hostText, behind, hSplit, hHost, hEnds, hPort, -⟩ := splits_of_readHostPort hFound
  rw [writtenPort?, hSplit, behindHost_append hHost hEnds, hPort]

private theorem backslash_not_mem_pasted {digits : List Char} (hSpecial : isSpecial scheme = true)
    (hDigits : Text.isDigits digits = true)
    (hFront : cs.takeWhile (!endsAuthority (isSpecial scheme) ·) = cs) :
    '\\' ∉ behindUser cs ++ ':' :: digits := by
  intro hMem
  rcases List.mem_append.mp hMem with hText | hPasted
  · have hInside := List.takeWhile_eq_self_iff.mp hFront _ (mem_of_mem_behindUser hText)
    rw [hSpecial] at hInside
    cases hInside
  · rcases List.mem_cons.mp hPasted with hSame | hDigit
    · cases hSame
    · exact not_mem_of_isDigits hDigits rfl hDigit

/-- A port that is pasted behind a text that is an authority as a whole is the port of both; and
a text that has a port of its own takes no other. -/
theorem port_of_pasted {digits : List Char} (hSpecial : isSpecial scheme = true)
    (hDigits : Text.isDigits digits = true)
    (hFront : cs.takeWhile (!endsAuthority (isSpecial scheme) ·) = cs)
    (hRead : readAuthority scheme (cs ++ ':' :: digits) = .ok (authority, rest)) :
    writtenPort? cs = none
      ∧ authority.port = (Text.readNat? digits).bind (keptPort scheme) := by
  obtain ⟨user, password, back, hFound⟩ := hostPort_of_readAuthority hRead
  have hWhole : (cs ++ ':' :: digits).takeWhile (!endsAuthority (isSpecial scheme) ·)
      = cs ++ ':' :: digits := by
    rw [List.takeWhile_append, if_pos (congrArg List.length hFront), takeWhile_pasted hDigits]
  have hUser : '@' ∉ ':' :: digits := by
    rw [List.mem_cons, not_or]
    exact ⟨by decide, not_mem_of_isDigits hDigits rfl⟩
  rw [hWhole, behindUser_append hUser] at hFound
  obtain ⟨hostText, behind, hSplit, hHost, hEnds, hPort, hBehind⟩ :=
    splits_of_readHostPort hFound
  have hColon : ':' ∉ digits := not_mem_of_isDigits hDigits rfl
  rcases hBehind with rfl | ⟨found, hAll, rfl, hBack⟩
  · rw [List.append_nil] at hSplit
    exact absurd hHost (hSplit ▸ not_isHost_pasted hDigits)
  · have hNone : back = [] := by
      refine hBack.resolve_right fun hHead => ?_
      obtain ⟨more, rfl⟩ := List.head?_eq_some_iff.mp hHead
      refine backslash_not_mem_pasted hSpecial hDigits hFront ?_
      rw [hSplit]
      simp
    rw [hNone, List.append_nil] at hSplit hPort
    have hOther : ':' ∉ found := by
      intro hMem
      exact absurd (List.all_eq_true.mp hAll _ hMem) (by decide)
    obtain ⟨hText, rfl⟩ := eq_of_split_last hColon hOther hSplit
    have hBare : behindHost (hostText ++ []) = [] := behindHost_append hHost (Or.inl rfl)
    rw [List.append_nil] at hBare
    rw [writtenPort?, hText, hBare, hPort]
    refine ⟨rfl, ?_⟩
    show (Text.readNat? (digits.takeWhile Char.isDigit)).bind (keptPort scheme) = _
    rw [List.takeWhile_eq_self_iff.mpr (List.all_eq_true.mp hAll)]

end Reader

/-! ## Addresses that are read -/

section Addresses

/-- What stands behind a scheme, from its authority on. -/
def fromAuthority (scheme cs : List Char) : List Char :=
  if isSpecial scheme then cs.dropWhile (isSlash true) else cs.drop 2

variable {cs scheme rest : List Char} {url : Url}

private theorem authority_of_readWithAuthority (hRead : readWithAuthority scheme cs = .ok url) :
    url.scheme = scheme ∧ ∃ authority rest, url.authority = some authority
      ∧ readAuthority scheme cs = .ok (authority, rest) := by
  unfold readWithAuthority at hRead
  obtain ⟨⟨authority, rest⟩, hAuthority, hRest⟩ := ok_of_bind hRead
  cases hRest
  exact ⟨rfl, authority, rest, rfl, hAuthority⟩

private theorem authority_of_readFile (hRead : readFile scheme cs = .ok url) :
    url.scheme = scheme ∧ url.port? = none := by
  unfold readFile at hRead
  dsimp only at hRead
  generalize (if decide (2 ≤ (cs.takeWhile (isSlash true)).length) = true
    then fileHostText (cs.drop 2) else []) = hostText at hRead
  split at hRead
  · cases hRead
    exact ⟨rfl, rfl⟩
  · obtain ⟨host, -, hRest⟩ := ok_of_bind hRead
    cases hRest
    exact ⟨rfl, rfl⟩

/-- An address that is read has the scheme that is written; it is the address of a file, or it
has no authority, or the one that is written. -/
theorem authority_of_read (hScheme : readScheme? (significant cs) = some (scheme, rest))
    (hRead : read cs = .ok url) :
    url.scheme = scheme
      ∧ (isFile scheme = true ∧ url.port? = none
        ∨ isSpecial scheme = false ∧ url.authority = none
        ∨ ∃ authority back, url.authority = some authority
          ∧ readAuthority scheme (fromAuthority scheme rest) = .ok (authority, back)) := by
  unfold read at hRead
  rw [hScheme] at hRead
  dsimp only at hRead
  unfold fromAuthority
  split at hRead
  next hFile =>
    obtain ⟨hOwn, hPort⟩ := authority_of_readFile hRead
    exact ⟨hOwn, Or.inl ⟨hFile, hPort⟩⟩
  next =>
    split at hRead
    next hSpecial =>
      obtain ⟨hOwn, hAuthority⟩ := authority_of_readWithAuthority hRead
      rw [if_pos hSpecial]
      exact ⟨hOwn, Or.inr (Or.inr hAuthority)⟩
    next hSpecial =>
      rw [if_neg hSpecial]
      rw [Bool.not_eq_true] at hSpecial
      split at hRead
      · obtain ⟨hOwn, hAuthority⟩ := authority_of_readWithAuthority hRead
        exact ⟨hOwn, Or.inr (Or.inr hAuthority)⟩
      · cases hRead
        exact ⟨rfl, Or.inr (Or.inl ⟨hSpecial, rfl⟩)⟩
      · cases hRead
        exact ⟨rfl, Or.inr (Or.inl ⟨hSpecial, rfl⟩)⟩

end Addresses

end GridAdmin.Url
