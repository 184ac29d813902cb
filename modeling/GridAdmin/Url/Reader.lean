import GridAdmin.Url.Basic

/-!
# Reading addresses

Blanks and control characters at both ends of a text and line breaks and tabs
inside it are passed over. The scheme decides how the rest is read: well known
schemes are followed by an authority behind any number of slashes, and a
backslash counts as a slash; any other scheme is followed by an authority only
behind two slashes, else by a path of segments behind one, else by a path that
is not split.

In a path of segments, `.` stays and `..` goes up, in plain or in
percent-encoded form, but not from a drive. A path may also be read relative to
an address.

## Main definitions

* `Url.read`: the address that a text writes.
* `Url.join`: an address with another path.
-/

namespace GridAdmin.Url

/-! ## Preparation -/

/-- Control characters and the blank. -/
def isControlOrSpace (c : Char) : Bool :=
  decide (c.toNat ≤ 0x20)

/-- The characters of a text that count. -/
def significant (cs : List Char) : List Char :=
  (((cs.dropWhile isControlOrSpace).reverse.dropWhile isControlOrSpace).reverse).filter
    fun c => decide (c ≠ '\t' ∧ c ≠ '\n' ∧ c ≠ '\r')

/-- A character that may stand in a scheme behind its first letter. -/
def isSchemeChar (c : Char) : Bool :=
  c.isAlphanum || c = '+' || c = '-' || c = '.'

/-- The scheme in lower case and what stands behind its colon. -/
def readScheme? (cs : List Char) : Option (List Char × List Char) :=
  match cs with
  | [] => none
  | c :: _ =>
      if c.isAlpha then
        match cs.dropWhile isSchemeChar with
        | ':' :: rest => some ((cs.takeWhile isSchemeChar).map Char.toLower, rest)
        | _ => none
      else none

/-- A slash, or a backslash that counts as one. -/
def isSlash (special : Bool) (c : Char) : Bool :=
  c = '/' || (special && c = '\\')

/-- The end of an authority. -/
def endsAuthority (special : Bool) (c : Char) : Bool :=
  isSlash special c || c = '?' || c = '#'

/-! ## Path, query and fragment -/

/-- A segment that stays where it is. -/
def isSingleDot (segment : List Char) : Bool :=
  [".", "%2e"].contains (String.ofList (Text.toLowerAscii segment))

/-- A segment that goes up. -/
def isDoubleDot (segment : List Char) : Bool :=
  ["..", ".%2e", "%2e.", "%2e%2e"].contains (String.ofList (Text.toLowerAscii segment))

/-- A segment that names a drive: a letter with a colon or a bar behind it. A
backslash, where it does not count as a slash, still ends the name of a drive. -/
def isDrive : List Char → Bool
  | letter :: mark :: rest =>
      letter.isAlpha && (mark = ':' || mark = '|') && (rest = [] || rest.head? = some '\\')
  | _ => false

/-- The path one step up. Nothing is above a drive, whatever the scheme. -/
def goUp (path : List (List Char)) : List (List Char) :=
  if path.getLast?.any isDrive then path else path.dropLast

/-- Walk along segments from a path. Behind a last segment that stays or goes
up, the path ends in a slash. -/
def walk (path : List (List Char)) : List (List Char) → List (List Char)
  | [] => path
  | segment :: rest =>
      let next :=
        if isDoubleDot segment then
          if rest.isEmpty then goUp path ++ [[]] else goUp path
        else if isSingleDot segment then if rest.isEmpty then path ++ [[]] else path
        else path ++ [segment]
      walk next rest

/-- The segments of a path, its first slash already read. -/
def readSegments (special : Bool) (cs : List Char) : List (List Char) :=
  let slashes := cs.map fun c => if isSlash special c then '/' else c
  walk [] ((slashes.splitOn '/').map (Percent.encode Percent.inPath))

/-- Cut off the fragment behind the first `#`. -/
def cutFragment (cs : List Char) : List Char × Option (List Char) :=
  match Text.cutAt '#' cs with
  | some (front, fragment) => (front, some (Percent.encode Percent.inFragment fragment))
  | none => (cs, none)

/-- Cut off the query behind the first `?`. -/
def cutQuery (special : Bool) (cs : List Char) : List Char × Option (List Char) :=
  match Text.cutAt '?' cs with
  | some (front, query) =>
      (front, some (Percent.encode
        (if special then Percent.inSpecialQuery else Percent.inQuery) query))
  | none => (cs, none)

/-- Path, query and fragment of a text, where `path` reads the first of them. -/
def readTail {α : Type} (special : Bool) (path : List Char → α) (cs : List Char) :
    α × Option (List Char) × Option (List Char) :=
  let (front, fragment) := cutFragment cs
  let (front, query) := cutQuery special front
  (path front, query, fragment)

/-- The segments behind an authority. A well known scheme always has some. -/
def segmentsAfterAuthority (special : Bool) : List Char → List (List Char)
  | [] => if special then [[]] else []
  | c :: rest => readSegments special (if isSlash special c then rest else c :: rest)

/-! ## Authority -/

/-- Cut at the last `@`. -/
def cutUser (cs : List Char) : Option (List Char × List Char) :=
  (Text.cutAt '@' cs.reverse).map fun (back, front) => (front.reverse, back.reverse)

/-- User and password, percent-encoded. -/
def readUser (cs : List Char) : List Char × List Char :=
  let encode := Percent.encode Percent.inUserInfo
  match Text.cutAt ':' cs with
  | some (user, password) => (encode user, encode password)
  | none => (encode cs, [])

/-- The text of a host: up to the first colon outside brackets. -/
def takeHost (inside : Bool) : List Char → List Char
  | [] => []
  | c :: cs =>
      if c = ':' ∧ inside = false then []
      else c :: takeHost (if c = '[' then true else if c = ']' then false else inside) cs

/-- A port behind its colon, and what stands behind it. Without digits there is
no port. -/
def readPort (scheme cs : List Char) : Except UrlError (Option Nat × List Char) :=
  let digits := cs.takeWhile Char.isDigit
  let rest := cs.drop digits.length
  let port := Nat.ofDigitChars 10 digits 0
  if 65535 < port then .error .port
  else if rest ≠ [] ∧ rest.head? ≠ some '\\' then .error .port
  else if digits = [] then .ok (none, rest)
  else .ok (keptPort scheme port, rest)

/-- Host and port, and what stands behind them. -/
def readHostPort (scheme : List Char) (user password cs : List Char) :
    Except UrlError (Authority × List Char) := do
  let special := isSpecial scheme
  let hostText := takeHost false cs
  let rest := cs.drop hostText.length
  if hostText = [] ∧ (special ∨ rest ≠ []) then throw .emptyHost
  let host ← if special then Host.read hostText else Host.readOpaque hostText
  let (port, rest) ← if rest = [] then pure (none, []) else readPort scheme (rest.drop 1)
  if host = .domain [] ∧ ¬(user = [] ∧ password = []) then throw .emptyHost
  return ({ user, password, host, port }, rest)

/-- An authority, and what stands behind it. -/
def readAuthority (scheme cs : List Char) : Except UrlError (Authority × List Char) :=
  let front := cs.takeWhile (!endsAuthority (isSpecial scheme) ·)
  let back := cs.drop front.length
  let withRest := fun (result : Authority × List Char) => (result.1, result.2 ++ back)
  match cutUser front with
  | none => withRest <$> readHostPort scheme [] [] front
  | some (user, host) =>
      if user = [] ∧ host = [] ∧ back ≠ [] then .error .emptyHost
      else
        let (user, password) := readUser user
        withRest <$> readHostPort scheme user password host

/-! ## Addresses -/

/-- An address whose authority comes next. -/
def readWithAuthority (scheme cs : List Char) : Except UrlError Url := do
  let (authority, rest) ← readAuthority scheme cs
  let special := isSpecial scheme
  let (segments, query, fragment) := readTail special (segmentsAfterAuthority special) rest
  return { scheme, authority := some authority, path := .segments segments, query, fragment }

/-- The path of a file begins with a drive. -/
def startsWithDrive (segments : List (List Char)) : Bool :=
  segments.head?.any isDrive

/-- A drive as it is written, with a colon. -/
def driveText (drive : List Char) : List Char :=
  drive.take 1 ++ [':']

/-- The segments of the path of a file as they are written. Slashes in front of
the first name count as one. -/
def fileSegments (segments : List (List Char)) : List (List Char) :=
  if startsWithDrive segments then segments.modifyHead driveText
  else if segments.all List.isEmpty then [[]]
  else segments.dropWhile List.isEmpty

/-- The text of the host of a file, behind two slashes. A drive is no host. -/
def fileHostText (cs : List Char) : List Char :=
  let text := cs.takeWhile (!endsAuthority true ·)
  if isDrive text then [] else text

/-- The address of a file. Its host may be empty; `localhost` is no host, and a
file on a drive has none. -/
def readFile (scheme cs : List Char) : Except UrlError Url := do
  let hasHost := decide (2 ≤ (cs.takeWhile (isSlash true)).length)
  let hostText := if hasHost then fileHostText (cs.drop 2) else []
  let rest := if hasHost then (cs.drop 2).drop hostText.length else cs
  let host ← if hostText = [] then .ok (.domain []) else Host.read hostText
  let (segments, query, fragment) := readTail true (segmentsAfterAuthority true) rest
  let isLocal := startsWithDrive segments || host = .domain "localhost".toList
  let host := if isLocal then .domain [] else host
  let authority := some { user := [], password := [], host, port := none }
  return { scheme, authority, path := .segments (fileSegments segments), query, fragment }

/-- The address that a text writes. -/
def read (cs : List Char) : Except UrlError Url :=
  match readScheme? (significant cs) with
  | none => .error .relative
  | some (scheme, rest) =>
      if isFile scheme then readFile scheme rest
      else if isSpecial scheme then readWithAuthority scheme (rest.dropWhile (isSlash true))
      else
        match rest with
        | '/' :: '/' :: rest => readWithAuthority scheme rest
        | '/' :: rest =>
            let (path, query, fragment) :=
              readTail false (fun cs => .segments (readSegments false cs)) rest
            .ok { scheme, authority := none, path, query, fragment }
        | rest =>
            let (path, query, fragment) :=
              readTail false (fun cs => .opaqueText (Percent.encode Percent.isControl cs)) rest
            .ok { scheme, authority := none, path, query, fragment }

/-- The address at another place of the same authority. `cs` is a path that
begins with one slash, perhaps with a query and a fragment behind it. -/
def join (url : Url) (cs : List Char) : Except UrlError Url :=
  match url.path with
  | .opaqueText _ => .error .relativeToOpaque
  | .segments _ =>
      let special := isSpecial url.scheme
      let readPath := fun cs => Path.segments (readSegments special (cs.drop 1))
      let (path, query, fragment) := readTail special readPath (significant cs)
      .ok { url with path, query, fragment }

end GridAdmin.Url
