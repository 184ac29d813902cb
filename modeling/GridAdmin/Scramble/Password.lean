import GridAdmin.Text.Basic

/-!
# Passwords

The service stores passwords of limited length. A password that a user types
for scrambling must leave two bytes of room. A new password is cut to the
limit in characters, and a short one is followed by a fixed filler, which the
service recognises by its first characters.

## Main definitions

* `Password.isTooLong`: the limit for typed passwords, in bytes.
* `Password.pad`: the form in which a new password is scrambled.
-/

namespace GridAdmin.Password

/-- Longest password that the service stores. -/
def maxLength : Nat := 50

/-- The filler behind short new passwords. -/
def filler : List Char :=
  "1gCBizHWbwIYyWLoysGzTe6SyzqFKMniZX05faZHWAwQKXf6Fs".toList

/-- A typed password that leaves no room for two more bytes. -/
def isTooLong (text : String) : Bool :=
  decide (maxLength - 2 < Text.byteLength text.toList)

/-- Room for filler behind a password, counted against ten bytes less than the
limit. -/
def room (password : List Char) : Nat :=
  maxLength - 10 - Text.byteLength password

/-- A new password with its filler. No filler is added when there is room for
fifteen characters of it or less. -/
def pad (password : List Char) : List Char :=
  password.take maxLength
    ++ if 15 < room password then filler.take (room password) else []

end GridAdmin.Password
