import GridAdmin.Environment
import GridAdmin.Proofs.Url.WrittenPort

/-!
# The port of an endpoint

A host is given as a bare host or as a full address, and a port besides.  A port that the text of
the host writes should count before the one that is given besides.  It does, with two exceptions.

A default port that is written is forgotten by the reader of addresses, so that it cannot be told
from none, and the given one takes its place.  And without a scheme the given port is pasted
behind the whole text: if that text goes on behind its authority, the port lands in a path, a
query or a fragment, and the one that is dialled is the default of `http`.

## Main definitions

* `HostParts.read?`: the authority in the text of a host, and what stands around it.
* `PortOverruled`: the exceptions, with the port that is dialled instead.

## Main results

* `endpoint_port_iff`: an endpoint has the port that is asked for, but for the exceptions.
-/

namespace GridAdmin

open Url

/-! ## The text of a host -/

/-- Tabs and line breaks do not count. -/
def isInline (c : Char) : Bool :=
  decide (c ≠ '\t' ∧ c ≠ '\n' ∧ c ≠ '\r')

/-- The parts of a text that names a host. -/
structure HostParts where
  /-- The text is a full address, with a scheme of its own. -/
  isAddress : Bool
  scheme : List Char
  authority : List Char
  /-- What stands behind the authority. -/
  behind : List Char

namespace HostParts

/-- The parts of a text behind its scheme. -/
def ofScheme (isAddress : Bool) (scheme cs : List Char) : HostParts where
  isAddress
  scheme
  authority := (fromAuthority scheme cs).takeWhile (!endsAuthority (isSpecial scheme) ·)
  behind := (fromAuthority scheme cs).dropWhile (!endsAuthority (isSpecial scheme) ·)

/-- The parts of the text of a host; `none` for an address without a scheme. -/
def read? (host : String) : Option HostParts :=
  if Text.contains host "://" then
    (readScheme? (significant host.toList)).map fun (scheme, cs) => ofScheme true scheme cs
  else
    some (ofScheme false "http".toList (host.toList.filter isInline))

/-- The port that is asked for: the one that is written, else the one that is given besides. -/
def askedPort (parts : HostParts) (port : UInt16) : Nat :=
  (writtenPort? parts.authority).getD port.toNat

end HostParts

/-- Another port is dialled than the one that is asked for. -/
inductive PortOverruled (parts : HostParts) (port : UInt16) : Nat → Prop where
  /-- A default port is written, and another one given besides. -/
  | forgotten {written : Nat} (hAddress : parts.isAddress = true)
      (hWritten : writtenPort? parts.authority = some written)
      (hDefault : defaultPort? parts.scheme = some written)
      (hOther : written ≠ port.toNat) : PortOverruled parts port port.toNat
  /-- No port is written, and the given one is pasted behind more than an authority. -/
  | misplaced (hBare : parts.isAddress = false) (hMore : parts.behind ≠ [])
      (hWritten : writtenPort? parts.authority = none)
      (hOther : port.toNat ≠ 80) : PortOverruled parts port 80

section Overruled

variable {parts : HostParts} {port : UInt16} {dialled : Nat}

private theorem PortOverruled.ne_asked (hOver : PortOverruled parts port dialled) :
    dialled ≠ parts.askedPort port := by
  unfold HostParts.askedPort
  cases hOver with
  | forgotten hAddress hWritten hDefault hOther =>
      rw [hWritten]
      exact hOther.symm
  | misplaced hBare hMore hWritten hOther =>
      rw [hWritten]
      exact hOther.symm

/-- What is kept of the port of a full address, or else the given one. -/
private theorem dialled_of_overruled_address (hAddress : parts.isAddress = true)
    (hOver : PortOverruled parts port dialled) :
    ((writtenPort? parts.authority).bind (keptPort parts.scheme)).getD port.toNat = dialled := by
  cases hOver with
  | forgotten _ hWritten hDefault =>
      rw [hWritten, Option.bind_some, keptPort, if_pos hDefault]
      rfl
  | misplaced hBare =>
      rw [hAddress] at hBare
      cases hBare

private theorem dialled_of_honoured_address (hAddress : parts.isAddress = true)
    (hHonoured : ∀ dialled, ¬PortOverruled parts port dialled) :
    ((writtenPort? parts.authority).bind (keptPort parts.scheme)).getD port.toNat
      = parts.askedPort port := by
  unfold HostParts.askedPort
  cases hWritten : writtenPort? parts.authority with
  | none => rfl
  | some written =>
      rw [Option.bind_some, Option.getD_some, keptPort]
      split
      next hDefault =>
        have hSame : written = port.toNat := by
          refine Decidable.byContradiction fun hOther => ?_
          exact hHonoured _ (.forgotten hAddress hWritten hDefault hOther)
        exact hSame.symm
      next => rfl

/-- The given port, where nothing stands behind the authority of a bare host. -/
private theorem dialled_of_overruled_bare (hBare : parts.isAddress = false)
    (hOver : PortOverruled parts port dialled) :
    (if parts.behind = [] then port.toNat else (writtenPort? parts.authority).getD 80)
      = dialled := by
  cases hOver with
  | forgotten hAddress =>
      rw [hBare] at hAddress
      cases hAddress
  | misplaced _ hMore hWritten =>
      rw [if_neg hMore, hWritten]
      rfl

private theorem dialled_of_honoured_bare (hBare : parts.isAddress = false)
    (hNone : parts.behind = [] → writtenPort? parts.authority = none)
    (hHonoured : ∀ dialled, ¬PortOverruled parts port dialled) :
    (if parts.behind = [] then port.toNat else (writtenPort? parts.authority).getD 80)
      = parts.askedPort port := by
  unfold HostParts.askedPort
  split
  next hEmpty =>
    rw [hNone hEmpty]
    rfl
  next hMore =>
    cases hWritten : writtenPort? parts.authority with
    | none =>
        have hSame : port.toNat = 80 := by
          refine Decidable.byContradiction fun hOther => ?_
          exact hHonoured _ (.misplaced hBare hMore hWritten hOther)
        exact hSame.symm
    | some written => rfl

end Overruled

/-! ## Endpoints -/

section Endpoints

variable {host : String} {port : UInt16} {url : Url} {written : Option Nat} {scheme : List Char}

/-- What is dialled is the port that was written, in spite of what is kept. -/
private theorem dialled_of_kept {default : Nat} (hDefault : defaultPort? scheme = some default) :
    (written.bind (keptPort scheme)).or (some default) = some (written.getD default) := by
  cases written with
  | none => rfl
  | some own =>
      rw [Option.bind_some, Option.getD_some, keptPort, hDefault]
      split
      next hSame => rw [Option.none_or, hSame]
      next => rfl

/-- An address that keeps no port but can have one keeps the one that is written. -/
private theorem port?_of_read {cs : List Char}
    (hScheme : readScheme? (significant host.toList) = some (scheme, cs))
    (hRead : Url.read host.toList = .ok url) :
    url.port? = (writtenPort? (HostParts.ofScheme true scheme cs).authority).bind (keptPort scheme)
      ∨ url.port? = none ∧ ∀ n, url.withPort? n = none := by
  obtain ⟨hOwn, hAuthority⟩ := authority_of_read hScheme hRead
  rcases hAuthority with ⟨hFile, hNone⟩ | ⟨-, hNone⟩ | ⟨authority, back, hSome, hText⟩
  · right
    refine ⟨hNone, fun n => ?_⟩
    unfold withPort?
    split
    · rw [hOwn, if_pos (Or.inr hFile)]
    · rfl
  · right
    unfold port? withPort?
    rw [hNone]
    exact ⟨rfl, fun _ => rfl⟩
  · left
    rw [port?, hSome, Option.bind_some, port_of_readAuthority hText]
    rfl

/-- The endpoint of a full address. -/
private theorem endpoint_port_of_address (hAddress : Text.contains host "://" = true)
    (hUrl : endpoint host port = .ok url) :
    ∃ parts, HostParts.read? host = some parts ∧ parts.isAddress = true
      ∧ url.effectivePort?
        = some (((writtenPort? parts.authority).bind (keptPort parts.scheme)).getD port.toNat) := by
  unfold endpoint at hUrl
  rw [if_pos hAddress] at hUrl
  obtain ⟨address, hRead, hPort⟩ := ok_of_bind hUrl
  cases hScheme : readScheme? (significant host.toList) with
  | none =>
      unfold Url.read at hRead
      rw [hScheme] at hRead
      cases hRead
  | some found =>
      obtain ⟨scheme, cs⟩ := found
      refine ⟨HostParts.ofScheme true scheme cs, ?_, rfl, ?_⟩
      · rw [HostParts.read?, if_pos hAddress, hScheme]
        rfl
      · show _ = some (((writtenPort? (HostParts.ofScheme true scheme cs).authority).bind
          (keptPort scheme)).getD port.toNat)
        rcases port?_of_read hScheme hRead with hKept | ⟨hNone, hFixed⟩
        · rw [← hKept]
          cases hOwn : address.port? with
          | some kept =>
              rw [hOwn] at hPort
              cases hPort
              rw [effectivePort?, hOwn]
              rfl
          | none =>
              rw [hOwn, if_neg (by decide)] at hPort
              split at hPort
              next changed hChanged =>
                cases hPort
                exact effectivePort?_withPort? hChanged
              next => cases hPort
        · rw [hNone, hFixed] at hPort
          cases hPort

private theorem significant_of_ends {first last : Char} {inner : List Char}
    (hFirst : isControlOrSpace first = false) (hLast : isControlOrSpace last = false) :
    significant (first :: (inner ++ [last])) = (first :: (inner ++ [last])).filter isInline := by
  unfold significant
  rw [List.dropWhile_cons_of_neg (by simp [hFirst]), ← List.cons_append, List.reverse_append,
    List.reverse_singleton, List.singleton_append, List.dropWhile_cons_of_neg (by simp [hLast])]
  rw [List.reverse_cons, List.reverse_reverse]
  rfl

private theorem significant_pasted {digits : List Char} (hDigits : Text.isDigits digits = true) :
    significant ("http://".toList ++ host.toList ++ ':' :: digits)
      = "http://".toList ++ host.toList.filter isInline ++ ':' :: digits := by
  have hKept : digits.filter isInline = digits := by
    refine List.filter_eq_self.mpr fun c hMem => ?_
    have hDigit := isDigit_of_mem hDigits hMem
    exact decide_eq_true
      ⟨ne_of_isDigit hDigit rfl, ne_of_isDigit hDigit rfl, ne_of_isDigit hDigit rfl⟩
  have hNonempty := ne_nil_of_isDigits hDigits
  have hEnds : "http://".toList ++ host.toList ++ ':' :: digits
      = 'h' :: ("ttp://".toList ++ host.toList ++ ':' :: digits.dropLast
          ++ [digits.getLast hNonempty]) := by
    have hDigitsEnd := List.dropLast_concat_getLast hNonempty
    rw [List.append_assoc _ (':' :: _), List.cons_append, hDigitsEnd]
    rfl
  have hLast : isControlOrSpace (digits.getLast hNonempty) = false := by
    have hDigit := isDigit_of_mem hDigits (List.getLast_mem hNonempty)
    have hLow : 48 ≤ (digits.getLast hNonempty).toNat := (Char.isDigit_iff_toNat.mp hDigit).1
    exact decide_eq_false (by omega)
  rw [hEnds, significant_of_ends rfl hLast, ← hEnds, List.filter_append, List.filter_append,
    List.filter_cons_of_pos (by decide), hKept]
  rfl

private theorem fromAuthority_pasted {cs digits : List Char} :
    fromAuthority "http".toList ('/' :: '/' :: (cs ++ ':' :: digits))
      = fromAuthority "http".toList cs ++ ':' :: digits := by
  show (cs ++ ':' :: digits).dropWhile (isSlash true)
    = cs.dropWhile (isSlash true) ++ ':' :: digits
  have hColon : (':' :: digits).dropWhile (isSlash true) = ':' :: digits := rfl
  rw [List.dropWhile_append]
  split
  next hEmpty => rw [hColon, List.isEmpty_iff.mp hEmpty, List.nil_append]
  next => rfl

/-- The endpoint of a bare host. -/
private theorem endpoint_port_of_bare (hBare : Text.contains host "://" = false)
    (hUrl : endpoint host port = .ok url) :
    ∃ parts, HostParts.read? host = some parts ∧ parts.isAddress = false
      ∧ (parts.behind = [] → writtenPort? parts.authority = none)
      ∧ url.effectivePort? = some (if parts.behind = [] then port.toNat
          else (writtenPort? parts.authority).getD 80) := by
  unfold endpoint at hUrl
  rw [hBare, if_neg Bool.false_ne_true] at hUrl
  have hDigits := Text.isDigits_natText port.toNat
  have hScheme : readScheme? (significant
      ("http://".toList ++ host.toList ++ ':' :: Text.natText port.toNat))
      = some ("http".toList,
          '/' :: '/' :: (host.toList.filter isInline ++ ':' :: Text.natText port.toNat)) := by
    rw [significant_pasted hDigits, List.append_assoc]
    rfl
  refine ⟨HostParts.ofScheme false "http".toList (host.toList.filter isInline), ?_, rfl, ?_⟩
  · rw [HostParts.read?, hBare, if_neg Bool.false_ne_true]
  · obtain ⟨hOwn, hAuthority⟩ := authority_of_read hScheme hUrl
    rcases hAuthority with ⟨hFile, -⟩ | ⟨hOther, -⟩ | ⟨authority, back, hSome, hText⟩
    · exact absurd hFile (by decide)
    · exact absurd hOther (by decide)
    · rw [fromAuthority_pasted] at hText
      have hKept : url.effectivePort? = authority.port.or (some 80) := by
        rw [effectivePort?, port?, hSome, hOwn]
        rfl
      unfold HostParts.ofScheme
      dsimp only
      generalize fromAuthority "http".toList (host.toList.filter isInline) = text
        at hText ⊢
      have hWhole := @List.takeWhile_append_dropWhile _
        (!endsAuthority (isSpecial "http".toList) ·) text
      by_cases hBehind : text.dropWhile (!endsAuthority (isSpecial "http".toList) ·) = []
      · rw [hBehind, List.append_nil] at hWhole
        obtain ⟨hNone, hPort⟩ := port_of_pasted (by decide) hDigits hWhole hText
        rw [if_pos hBehind, hWhole, hKept, hPort, Text.readNat?_natText, dialled_of_kept rfl]
        exact ⟨fun _ => hNone, rfl⟩
      · have hPort := port_of_readAuthority hText
        rw [List.takeWhile_append, if_neg] at hPort
        · rw [if_neg hBehind, hKept, hPort, dialled_of_kept rfl]
          exact ⟨fun hEmpty => absurd hEmpty hBehind, rfl⟩
        · intro hLength
          have hLengths := congrArg List.length hWhole
          rw [List.length_append, hLength] at hLengths
          exact hBehind (List.length_eq_zero_iff.mp (by omega))

/-- An endpoint has the port that is asked for, but for two exceptions. -/
theorem endpoint_port_iff (hUrl : endpoint host port = .ok url) :
    ∃ parts, HostParts.read? host = some parts
      ∧ (url.effectivePort? = some (parts.askedPort port)
          ↔ ∀ dialled, ¬PortOverruled parts port dialled)
      ∧ ∀ dialled, PortOverruled parts port dialled → url.effectivePort? = some dialled := by
  have hParts : ∃ parts, HostParts.read? host = some parts
      ∧ (∀ dialled, PortOverruled parts port dialled → url.effectivePort? = some dialled)
      ∧ ((∀ dialled, ¬PortOverruled parts port dialled) →
          url.effectivePort? = some (parts.askedPort port)) := by
    cases hAddress : Text.contains host "://" with
    | true =>
        obtain ⟨parts, hParts, hFull, hPort⟩ := endpoint_port_of_address hAddress hUrl
        refine ⟨parts, hParts, fun dialled hOver => ?_, fun hNone => ?_⟩
        · rw [hPort, dialled_of_overruled_address hFull hOver]
        · rw [hPort, dialled_of_honoured_address hFull hNone]
    | false =>
        obtain ⟨parts, hParts, hPlain, hNone, hPort⟩ := endpoint_port_of_bare hAddress hUrl
        refine ⟨parts, hParts, fun dialled hOver => ?_, fun hHonoured => ?_⟩
        · rw [hPort, dialled_of_overruled_bare hPlain hOver]
        · rw [hPort, dialled_of_honoured_bare hPlain hNone hHonoured]
  obtain ⟨parts, hRead, hValue, hHonoured⟩ := hParts
  refine ⟨parts, hRead, ⟨fun hAsked dialled hOver => ?_, hHonoured⟩, hValue⟩
  rw [hValue dialled hOver, Option.some.injEq] at hAsked
  exact hOver.ne_asked hAsked

example : (endpoint "h/x" 1247).toOption.bind effectivePort? = some 80 := rfl

/-- An address that writes the default port of its scheme is dialled at the other one. -/
theorem default_port_forgotten :
    ∃ url parts, endpoint "http://h:80" 1247 = .ok url
      ∧ HostParts.read? "http://h:80" = some parts
      ∧ parts.askedPort 1247 = 80 ∧ url.effectivePort? = some 1247 := by
  have hUrl : endpoint "http://h:80" 1247 = .ok _ := rfl
  obtain ⟨parts, hParts, -, hValue⟩ := endpoint_port_iff hUrl
  cases hParts
  exact ⟨_, _, hUrl, rfl, rfl, hValue 1247 (.forgotten rfl rfl rfl (by decide))⟩

end Endpoints

end GridAdmin
