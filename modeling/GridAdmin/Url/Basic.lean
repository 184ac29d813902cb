import GridAdmin.Url.Host

/-!
# Addresses

An address has a scheme, usually an authority (user, host, port), a path, and
perhaps a query and a fragment. Parts are kept in their written form, already
percent-encoded. The default port of a scheme is never written: an address
without a port and one with the default port of its scheme are the same value.

## Main definitions

* `Url.text`: the written form.
* `Url.withPort?`: the address with another port.
* `Url.effectivePort?`: the port that is dialled.
-/

namespace GridAdmin

/-- User, host and port of an address. -/
structure Url.Authority where
  user : List Char
  password : List Char
  host : Host
  /-- The port, unless it is the default port of the scheme. -/
  port : Option Nat
  deriving DecidableEq, Repr

/-- The path of an address. -/
inductive Url.Path where
  /-- A text that is not split into segments. -/
  | opaqueText (text : List Char)
  | segments (names : List (List Char))
  deriving DecidableEq, Repr

/-- An address. -/
structure Url where
  scheme : List Char
  authority : Option Url.Authority
  path : Url.Path
  query : Option (List Char)
  fragment : Option (List Char)
  deriving DecidableEq, Repr

namespace Url

/-! ## Schemes -/

/-- The port of a scheme when none is given. -/
def defaultPort? (scheme : List Char) : Option Nat :=
  if scheme = "http".toList ∨ scheme = "ws".toList then some 80
  else if scheme = "https".toList ∨ scheme = "wss".toList then some 443
  else if scheme = "ftp".toList then some 21
  else none

/-- The scheme is the one for files. -/
def isFile (scheme : List Char) : Bool :=
  decide (scheme = "file".toList)

/-- A well known scheme: its addresses have a host and a path of segments. -/
def isSpecial (scheme : List Char) : Bool :=
  (defaultPort? scheme).isSome || isFile scheme

/-- A port as it is kept: the default port of the scheme is left out. -/
def keptPort (scheme : List Char) (port : Nat) : Option Nat :=
  if defaultPort? scheme = some port then none else some port

/-! ## Writing -/

/-- User and password with the sign behind them. -/
def Authority.userText (a : Authority) : List Char :=
  if a.user = [] ∧ a.password = [] then []
  else a.user ++ (if a.password = [] then [] else ':' :: a.password) ++ ['@']

/-- The written form of an authority. -/
def Authority.text (a : Authority) : List Char :=
  a.userText ++ a.host.text
    ++ match a.port with
      | some port => ':' :: Text.natText port
      | none => []

/-- The written form of a path. -/
def Path.text : Path → List Char
  | .opaqueText text => text
  | .segments names => names.flatMap ('/' :: ·)

/-- What stands between scheme and path. An address without an authority whose
path begins with an empty segment is kept apart from one with an authority. -/
def beforePath (url : Url) : List Char :=
  match url.authority with
  | some authority => '/' :: '/' :: authority.text
  | none =>
      match url.path with
      | .segments ([] :: _ :: _) => ['/', '.']
      | _ => []

/-- A part behind its mark, if it is there. -/
def marked (mark : Char) : Option (List Char) → List Char
  | some part => mark :: part
  | none => []

/-- The written form of an address. -/
def text (url : Url) : List Char :=
  url.scheme ++ ':' :: url.beforePath ++ url.path.text ++ marked '?' url.query
    ++ marked '#' url.fragment

/-- Path and query, as a request names its target. -/
def target (url : Url) : List Char :=
  url.path.text ++ marked '?' url.query

/-! ## Ports -/

/-- The port that is kept in an address. -/
def port? (url : Url) : Option Nat :=
  url.authority.bind (·.port)

/-- The port that is dialled: the one that is kept, else the default one. -/
def effectivePort? (url : Url) : Option Nat :=
  url.port?.or (defaultPort? url.scheme)

/-- The address with another port; `none` if it cannot have one. -/
def withPort? (url : Url) (port : Nat) : Option Url :=
  match url.authority with
  | some authority =>
      if authority.host = .domain [] ∨ isFile url.scheme then none
      else
        some { url with authority := some { authority with port := keptPort url.scheme port } }
  | none => none

theorem effectivePort?_withPort? {url result : Url} {port : Nat}
    (hPort : url.withPort? port = some result) : result.effectivePort? = some port := by
  unfold withPort? at hPort
  split at hPort
  · split at hPort
    · exact absurd hPort (by simp)
    · simp only [Option.some.injEq] at hPort
      subst hPort
      by_cases hDefault : defaultPort? url.scheme = some port
      · simp [effectivePort?, port?, keptPort, hDefault]
      · simp [effectivePort?, port?, keptPort, hDefault]
  · exact absurd hPort (by simp)

end Url

end GridAdmin
