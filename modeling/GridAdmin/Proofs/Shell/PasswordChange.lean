import GridAdmin.Proofs.Scrambling
import GridAdmin.Proofs.Shell.Downgrade
import GridAdmin.Proofs.Shell.SingleRequest

/-!
# What becomes of a new password

A new password is cut, followed by filler if it is short, and scrambled under the password that the
user has now.  Nobody sees what is sent, so a slip on the way locks the user out.  What can
be said is that the service, which knows the key, reads back the padded form, and what that form
is for every password.

Padding measures in two units.  Filler is added for the bytes that are missing, and the password
is cut at a number of characters.  Short passwords are not cut, since a text has at most as many
characters as bytes, and the filler itself is of one byte each, so that everything short gets
exactly forty bytes.  For long passwords the two units come apart: the limit is one of
characters, and it is one of bytes only as far as each character takes a single byte.

Scrambling keeps the number of bytes, so what is sent is as long as the padded form.

## Main definitions

* `Password.FitsLimit`: the passwords that are within the limit in bytes.
* `Shell.KeyFrom`: where the key comes from.
* `Shell.ChangesPassword`: all ways through the command.

## Main results

* `Password.pad_of_short`, `Password.pad_of_long`: the two forms of a new password.
* `Action.ensures_modifyUser_password`: the traces of the command.
* `new_password_read_back`: when the request is sent, and what the service reads.
* `new_password_length_iff`: which passwords stay within the limit.
-/

namespace GridAdmin

/-! ## Padding -/

namespace Text

/-- A text of as many bytes as characters has no character of several bytes. -/
theorem byteLength_le_length_iff {cs : List Char} :
    byteLength cs ≤ cs.length ↔ ∀ c ∈ cs, c.utf8Size = 1 := by
  induction cs with
  | nil => exact iff_of_true (Nat.le_refl 0) nofun
  | cons c cs ih =>
      rw [List.forall_mem_cons, ← ih, byteLength_cons, List.length_cons]
      have hHead : 0 < c.utf8Size := c.utf8Size_pos
      have hTail : cs.length ≤ byteLength cs := length_le_byteLength cs
      omega

/-- The first characters of a text take as many bytes as there are only if each takes one. -/
private theorem byteLength_take_le_iff {cs : List Char} {limit : Nat} :
    byteLength (cs.take limit) ≤ limit
      ↔ byteLength cs ≤ limit ∨ ∀ c ∈ cs.take limit, c.utf8Size = 1 := by
  have hKept : (cs.take limit).length ≤ limit := List.length_take_le limit cs
  by_cases hShort : cs.length ≤ limit
  · rw [List.take_of_length_le hShort]
    constructor
    · exact Or.inl
    · rintro (hBytes | hSingle)
      · exact hBytes
      · exact Nat.le_trans (byteLength_le_length_iff.mpr hSingle) hShort
  · have hLength : (cs.take limit).length = limit :=
      List.length_take_of_le (Nat.le_of_not_le hShort)
    have hLong : ¬byteLength cs ≤ limit :=
      fun hBytes => hShort (Nat.le_trans (length_le_byteLength cs) hBytes)
    rw [or_iff_right hLong, ← byteLength_le_length_iff, hLength]

end Text

namespace Password

open Text (byteLength)

variable {password : List Char}

theorem length_filler : filler.length = 50 := by decide +kernel

/-- The filler is of one byte each. -/
private theorem byteLength_take_filler {room : Nat} (hRoom : room ≤ 50) :
    byteLength (filler.take room) = room := by
  have hFiller : filler.all (·.utf8Size == 1) = true := by decide +kernel
  have hSingle : ∀ c ∈ filler.take room, c.utf8Size = 1 := by
    intro c hMem
    exact beq_iff_eq.mp (List.all_eq_true.mp hFiller c (List.mem_of_mem_take hMem))
  have hLength : (filler.take room).length = room := by
    rw [List.length_take, length_filler, Nat.min_eq_left hRoom]
  have hUpper := Text.byteLength_le_length_iff.mpr hSingle
  have hLower := Text.length_le_byteLength (filler.take room)
  omega

/-- A short password is kept, and filled up. -/
theorem pad_of_short (hShort : byteLength password < 25) :
    pad password = password ++ filler.take (40 - byteLength password) := by
  have hRoom : room password = 40 - byteLength password := rfl
  have hFill : 15 < room password := by omega
  have hLength : password.length ≤ maxLength := by
    have hBytes := Text.length_le_byteLength password
    unfold maxLength
    omega
  rw [pad, if_pos hFill, List.take_of_length_le hLength, hRoom]

/-- A long password is cut, and nothing is added. -/
theorem pad_of_long (hLong : 25 ≤ byteLength password) : pad password = password.take 50 := by
  have hRoom : room password = 40 - byteLength password := rfl
  have hFull : ¬15 < room password := by omega
  rw [pad, if_neg hFull, List.append_nil]
  rfl

theorem byteLength_pad_of_short (hShort : byteLength password < 25) :
    byteLength (pad password) = 40 := by
  rw [pad_of_short hShort, Text.byteLength_append, byteLength_take_filler (by omega)]
  omega

/-- There is always enough filler to be recognised. -/
private theorem length_filler_of_short {size : Nat} (hShort : size < 25) :
    16 ≤ (filler.take (40 - size)).length := by
  rw [List.length_take, length_filler]
  omega

private theorem length_pad_le (password : List Char) : (pad password).length ≤ maxLength := by
  by_cases hShort : byteLength password < 25
  · have hBytes := Text.length_le_byteLength (pad password)
    rw [byteLength_pad_of_short hShort] at hBytes
    unfold maxLength
    omega
  · rw [pad_of_long (Nat.le_of_not_lt hShort)]
    exact List.length_take_le _ _

private theorem byteLength_pad_le_iff : byteLength (pad password) ≤ maxLength
    ↔ byteLength password ≤ maxLength ∨ ∀ c ∈ password.take maxLength, c.utf8Size = 1 := by
  by_cases hShort : byteLength password < 25
  · refine iff_of_true ?_ (Or.inl ?_)
    · rw [byteLength_pad_of_short hShort]
      decide
    · unfold maxLength
      omega
  · rw [pad_of_long (Nat.le_of_not_lt hShort)]
    exact Text.byteLength_take_le_iff

/-- The form in which a new password is scrambled. -/
def padded (password : String) : String :=
  String.ofList (pad password.toList)

theorem utf8ByteSize_padded (password : String) :
    (padded password).utf8ByteSize = byteLength (pad password.toList) :=
  utf8ByteSize_ofList _

theorem byteLength_toList (password : String) :
    byteLength password.toList = password.utf8ByteSize := by
  rw [← utf8ByteSize_ofList, String.ofList_toList]

/-- The password is within the limit as it is typed, or else what the cut leaves of it has only
characters of one byte. -/
def FitsLimit (password : String) : Prop :=
  password.utf8ByteSize ≤ maxLength ∨ ∀ c ∈ password.toList.take maxLength, c.utf8Size = 1

private theorem utf8ByteSize_padded_le_iff {password : String} :
    (padded password).utf8ByteSize ≤ maxLength ↔ FitsLimit password := by
  rw [utf8ByteSize_padded, byteLength_pad_le_iff, byteLength_toList, FitsLimit]

private theorem padded_of_short {password : String} (hShort : password.utf8ByteSize < 25) :
    padded password
      = password ++ String.ofList (filler.take (40 - password.utf8ByteSize)) := by
  rw [← byteLength_toList] at hShort ⊢
  rw [padded, pad_of_short hShort, String.ofList_append, String.ofList_toList]

private theorem utf8ByteSize_padded_of_short {password : String}
    (hShort : password.utf8ByteSize < 25) :
    (padded password).utf8ByteSize = 40 := by
  rw [← byteLength_toList] at hShort
  rw [utf8ByteSize_padded, byteLength_pad_of_short hShort]

private theorem padded_of_long {password : String} (hLong : 25 ≤ password.utf8ByteSize) :
    padded password = String.ofList (password.toList.take 50) := by
  rw [← byteLength_toList] at hLong
  rw [padded, pad_of_long hLong]

end Password

namespace Shell

/-! ## The command -/

/-- The key is the password of the session, and where that is not known the user types it. -/
inductive KeyFrom (settings : Settings) : List Event → Except String String → Prop
  | session {password : String} (hKnown : settings.password = some password) :
      KeyFrom settings [] (.ok password)
  | console (typed : Except String String) (hUnknown : settings.password = none) :
      KeyFrom settings [⟨Query.readSecret "Enter your current password:", typed⟩] typed

/-- The request that changes a password, scrambled under this key. -/
def passwordRequest (command : Command) (key : String) : AdminRequest :=
  .ofValues ["modify", "user", command.arg 1, command.arg 2,
    scramble (Password.padded (command.arg 3)) key, command.arg 4, command.arg 5, command.arg 6]

/-- All ways through a change of a password. -/
inductive ChangesPassword (settings : Settings) (command : Command) :
    List Event → Option (Except ShellError Unit) → Prop
  | unread {asked : List Event} {cause : String} (hKey : KeyFrom settings asked (.error cause)) :
      ChangesPassword settings command asked (some (.error (.console cause)))
  | sent {asked : List Event} {key : String} (hKey : KeyFrom settings asked (.ok key))
      (exchange : Exchange (.generalAdmin (passwordRequest command key))) (lines : List Line) :
      ChangesPassword settings command
        (asked ++ ⟨Query.call (.generalAdmin (passwordRequest command key)), exchange⟩
          :: shown lines) (some (.ok ()))

theorem get_passwordRequest {command : Command} {key : String} :
    (passwordRequest command key).get 4 = scramble (Password.padded (command.arg 3)) key := rfl

theorem KeyFrom.noCall {settings : Settings} {asked : List Event} {found : Except String String}
    (hKey : KeyFrom settings asked found) : callsIn asked = [] := by
  cases hKey with
  | session hKnown => rfl
  | console typed hUnknown => rfl

end Shell

namespace Action

open Shell (KeyFrom ChangesPassword)

variable {context : Shell.Context} {state : Shell.State} {command : Command}

private theorem ensures_scrambleKey :
    scrambleKey.Ensures context state fun asked last =>
      ∃ found, KeyFrom context.settings asked found ∧
        last = some (found.mapError .console, state) := by
  unfold scrambleKey
  rw [ensures_bind, ensures_read]
  dsimp only
  cases hPassword : context.settings.password with
  | some password => exact ensures_pure.mpr ⟨_, .session hPassword, rfl⟩
  | none =>
      unfold readSecret
      refine ensures_bind.mpr (ensures_lift.mpr ?_)
      refine (Shell.ensures_ask (.readSecret _)).mpr fun typed => ?_
      have hTyped : KeyFrom context.settings _ typed := .console typed hPassword
      rcases typed with cause | key
      · exact ensures_throw.mpr ⟨_, hTyped, rfl⟩
      · exact ensures_pure.mpr ⟨_, hTyped, rfl⟩

/-- With a key one request is sent, and without one nothing is. -/
theorem ensures_modifyUser_password (hOption : command.arg 2 = "password") :
    (modifyUser command).Ensures context state fun events last =>
      ChangesPassword context.settings command events (last.map (·.1)) := by
  have hBody : modifyUser command
      = (scrambledPassword (command.arg 3) <$> scrambleKey) >>= fun sent =>
          sendValues ["modify", "user", command.arg 1, command.arg 2, sent, command.arg 4,
            command.arg 5, command.arg 6] := by
    unfold modifyUser
    dsimp only
    rw [if_pos hOption]
  rw [hBody, ensures_bind, ensures_map]
  refine ensures_scrambleKey.mono ?_
  rintro asked _ ⟨cause | key, hKey, rfl⟩
  · exact .unread hKey
  · refine ensures_sendValues.mono ?_
    rintro more last ⟨exchange, lines, after, rfl, rfl⟩
    exact .sent hKey exchange lines

end Action

namespace Shell

section Dispatch

variable {context : Context} {state : State} {command : Command} {events : List Event}
  {ended? : Option (Outcome × State)}

theorem DispatchTrace.changesPassword (hTrace : DispatchTrace context state command events ended?)
    (hVerb : command.verb = "moduser") (hOption : command.arg 2 = "password") :
    ∃ body last, events = echoed context.settings command ++ body ++ reportOf last ∧
      ended? = endOf last ∧
        ChangesPassword context.settings command body (last.map (·.1)) := by
  have hHandler : Verb.handler? command.verb = some (.change .modifyUser) := by
    rw [hVerb]
    exact handler?_moduser
  obtain ⟨body, last, hBody, hEvents, hEnd⟩ := hTrace.of_handler hHandler nofun
  exact ⟨body, last, hEvents, hEnd, Action.ensures_modifyUser_password hOption body last hBody⟩

end Dispatch

/-- With a key there is one request. -/
theorem callsIn_sent {asked : List Event} {settings : Settings} {found : Except String String}
    (hKey : KeyFrom settings asked found) {request : AdminRequest}
    {exchange : Exchange (.generalAdmin request)} {lines : List Line} :
    callsIn (asked ++ ⟨Query.call (.generalAdmin request), exchange⟩ :: shown lines)
      = [.generalAdmin request] := by
  rw [callsIn_append, hKey.noCall, List.nil_append, callsIn_cons_call,
    callsIn_of_noCall noCall_shown]

/-- Whatever is sent to change a password is as long as its padded form. -/
private theorem ChangesPassword.utf8ByteSize_eq {settings : Settings} {command : Command}
    {body : List Event} {outcome? : Option (Except ShellError Unit)}
    (hChanges : ChangesPassword settings command body outcome?) {request : AdminRequest}
    (hCall : Call.generalAdmin request ∈ callsIn body) :
    (request.get 4).utf8ByteSize = (Password.padded (command.arg 3)).utf8ByteSize := by
  cases hChanges with
  | unread hKey =>
      rw [hKey.noCall] at hCall
      cases hCall
  | sent hKey exchange lines =>
      rw [callsIn_sent hKey] at hCall
      cases List.mem_singleton.mp hCall
      rw [get_passwordRequest, utf8ByteSize_scramble]

/-- There is a request just where there is a key.  Without one nothing was done but to ask for it,
and with one the request is all that was sent. -/
private theorem ChangesPassword.of_key {settings : Settings} {command : Command} {body : List Event}
    {outcome? : Option (Except ShellError Unit)}
    (hChanges : ChangesPassword settings command body outcome?) :
    ∃ asked found, KeyFrom settings asked found ∧
      ((∃ request, Call.generalAdmin request ∈ callsIn body) ↔ ∃ key, found = .ok key) ∧
      (∀ cause, found = .error cause →
        body = asked ∧ callsIn body = [] ∧ outcome? = some (.error (.console cause))) ∧
      ∀ key, found = .ok key →
        (∃ exchange lines, body = asked
          ++ ⟨Query.call (.generalAdmin (passwordRequest command key)), exchange⟩
            :: shown lines) ∧
          callsIn body = [.generalAdmin (passwordRequest command key)] ∧
          outcome? = some (.ok ()) := by
  cases hChanges with
  | @unread _ cause hKey =>
      refine ⟨body, .error cause, hKey, ?_, ?_, ?_⟩
      · rw [hKey.noCall]
        constructor
        · rintro ⟨request, hCall⟩
          cases hCall
        · rintro ⟨key, hFound⟩
          cases hFound
      · rintro _ ⟨⟩
        exact ⟨rfl, hKey.noCall, rfl⟩
      · intro key hFound
        cases hFound
  | @sent asked key hKey exchange lines =>
      refine ⟨asked, .ok key, hKey, ?_, ?_, ?_⟩
      · rw [callsIn_sent hKey]
        exact iff_of_true ⟨_, List.mem_singleton_self _⟩ ⟨key, rfl⟩
      · intro cause hFound
        cases hFound
      · rintro _ ⟨⟩
        exact ⟨⟨exchange, lines, rfl⟩, callsIn_sent hKey, rfl⟩

end Shell

open Shell (KeyFrom callsIn passwordRequest recorded)

/-- A new password survives the change.  One request is sent if there is a key, which is the
password of the session or else what the user types, and a terminal that cannot be read ends the
command without any.  Under that key the fifth word of the request is read as the padded password.
For a password of less than 25 bytes this is the password followed by filler up to forty bytes,
which is at least sixteen characters of it, and for any other it is its first fifty characters. -/
theorem new_password_read_back {σ : Type} (handler : Proc.Handler Shell.interface σ)
    (surroundings : σ) (context : Shell.Context) (state : Shell.State) (command : Command)
    (hVerb : command.verb = "moduser") (hOption : command.arg 2 = "password") :
    let run := (Shell.toProc (Shell.dispatch command) context state).run handler surroundings
    let password := command.arg 3
    (∃ asked found, KeyFrom context.settings asked found ∧
      ((∃ request, Call.generalAdmin request ∈ callsIn run.events) ↔ ∃ key, found = .ok key) ∧
      (∀ cause, found = .error cause →
        run.events = Shell.echoed context.settings command ++ asked
            ++ Shell.shown [Shell.failureLine (.console cause)] ∧
          callsIn run.events = [] ∧ recorded run.value? = some (.invalid, .unknownError)) ∧
      ∀ key, found = .ok key →
        (∃ exchange lines, run.events = Shell.echoed context.settings command ++ (asked
          ++ ⟨Shell.Query.call (.generalAdmin (passwordRequest command key)), exchange⟩
            :: Shell.shown lines)) ∧
          callsIn run.events = [.generalAdmin (passwordRequest command key)] ∧
          descramble ((passwordRequest command key).get 4) key = Password.padded password) ∧
    (password.utf8ByteSize < 25 →
      Password.padded password = password
          ++ String.ofList (Password.filler.take (40 - password.utf8ByteSize)) ∧
        (Password.padded password).utf8ByteSize = 40 ∧
        16 ≤ (Password.filler.take (40 - password.utf8ByteSize)).length) ∧
    (25 ≤ password.utf8ByteSize →
      Password.padded password = String.ofList (password.toList.take 50)) := by
  intro run password
  refine ⟨?_, fun hShort => ⟨Password.padded_of_short hShort,
    Password.utf8ByteSize_padded_of_short hShort, Password.length_filler_of_short hShort⟩,
    Password.padded_of_long⟩
  have hTrace := Shell.dispatchTrace_run handler surroundings context state command
  obtain ⟨body, last, hEvents, hEnd, hChanges⟩ := hTrace.changesPassword hVerb hOption
  change run.events = _ at hEvents
  change run.value? = _ at hEnd
  have hCalls : callsIn run.events = callsIn body := by
    rw [hEvents]
    exact Shell.callsIn_dispatched
  obtain ⟨asked, found, hKey, hRequest, hUnread, hSent⟩ := hChanges.of_key
  rw [hCalls]
  refine ⟨asked, found, hKey, hRequest, ?_, ?_⟩
  · intro cause hFound
    obtain ⟨rfl, hNone, hLast⟩ := hUnread cause hFound
    obtain ⟨⟨_, after⟩, rfl, rfl⟩ := Option.map_eq_some_iff.mp hLast
    refine ⟨hEvents, hNone, ?_⟩
    rw [hEnd]
    rfl
  · intro key hFound
    obtain ⟨⟨exchange, lines, rfl⟩, hCall, hLast⟩ := hSent key hFound
    obtain ⟨⟨_, after⟩, rfl, rfl⟩ := Option.map_eq_some_iff.mp hLast
    rw [Shell.reportOf, List.append_nil] at hEvents
    refine ⟨⟨exchange, lines, hEvents⟩, hCall, ?_⟩
    rw [Shell.get_passwordRequest, descramble_scramble]

namespace Shell

namespace NewPassword

/-- A session whose password is known. -/
def context : Context :=
  { settings := { zone := "tempZone", password := some "rods" }, user := ⟨"rods", "tempZone"⟩,
    fuel := 0 }

def command (password : String) : Command :=
  .ofWords ["moduser", "alice", "password", password]

def run (password : String) : Proc.Run interface Rehearsal (Outcome × State) :=
  (toProc (dispatch (command password)) context State.initial).run Rehearsal.handler
    { terminal := {}, service := {} }

theorem eq_of_keyFrom {asked : List Event} {found : Except String String}
    (hKey : KeyFrom context.settings asked found) : found = .ok "rods" := by
  cases hKey with
  | session hKnown =>
      cases hKnown
      rfl
  | console typed hUnknown => cases hUnknown

end NewPassword

open NewPassword in
/-- Thirty-three characters of filler are read back behind a password of seven. -/
theorem short_password_read_back :
    ∃ request, callsIn (run "newpass").events = [.generalAdmin request] ∧
      descramble (request.get 4) "rods" = "newpass1gCBizHWbwIYyWLoysGzTe6SyzqFKMniZ" := by
  obtain ⟨⟨asked, found, hKey, -, -, hSent⟩, hShort, -⟩ := new_password_read_back
    Rehearsal.handler { terminal := {}, service := {} } context State.initial (command "newpass")
    rfl rfl
  obtain ⟨-, hCalls, hRead⟩ := hSent "rods" (eq_of_keyFrom hKey)
  have hPadded : Password.padded "newpass" = "newpass1gCBizHWbwIYyWLoysGzTe6SyzqFKMniZ" := by
    decide +kernel
  exact ⟨_, hCalls, hRead.trans hPadded⟩

end Shell

/-- Which new passwords stay within the limit of the service, in their padded form and on the way
there.  In characters all of them do.  In bytes, which the filler and the limits of the other
verbs are counted in, those do that fit the limit, and a long password of letters of several bytes
does not. -/
theorem new_password_length_iff (password : String) :
    (Password.padded password).length ≤ Password.maxLength ∧
    ((Password.padded password).utf8ByteSize ≤ Password.maxLength ↔ Password.FitsLimit password) ∧
    ∀ {σ : Type} (handler : Proc.Handler Shell.interface σ) (surroundings : σ)
      (context : Shell.Context) (state : Shell.State) (command : Command),
      command.verb = "moduser" → command.arg 2 = "password" → command.arg 3 = password →
      let run := (Shell.toProc (Shell.dispatch command) context state).run handler surroundings
      ∀ request, Call.generalAdmin request ∈ callsIn run.events →
        ((request.get 4).utf8ByteSize ≤ Password.maxLength ↔ Password.FitsLimit password) := by
  refine ⟨?_, Password.utf8ByteSize_padded_le_iff, ?_⟩
  · rw [Password.padded, String.length_ofList]
    exact Password.length_pad_le _
  · intro σ handler surroundings context state command hVerb hOption hTyped run request hCall
    have hTrace := Shell.dispatchTrace_run handler surroundings context state command
    obtain ⟨body, last, hEvents, -, hChanges⟩ := hTrace.changesPassword hVerb hOption
    change run.events = _ at hEvents
    rw [hEvents, Shell.callsIn_dispatched] at hCall
    rw [hChanges.utf8ByteSize_eq hCall, hTyped]
    exact Password.utf8ByteSize_padded_le_iff

namespace Shell

namespace NewPassword

/-- Twenty-six letters of two bytes each. -/
def accented : String :=
  String.ofList (List.replicate 26 'é')

private theorem utf8ByteSize_accented : accented.utf8ByteSize = 52 := by
  have hBytes : accented.utf8ByteSize = Text.byteLength (List.replicate 26 'é') :=
    utf8ByteSize_ofList _
  rw [hBytes]
  decide +kernel

private theorem mem_accented : 'é' ∈ accented.toList.take Password.maxLength := by
  have hLetters : accented.toList = List.replicate 26 'é' := String.toList_ofList
  rw [hLetters, List.take_replicate]
  exact List.mem_replicate.mpr ⟨by decide +kernel, rfl⟩

/-- With the password of the session a request is always sent. -/
private theorem exists_request (password : String) :
    ∃ request, Call.generalAdmin request ∈ callsIn (run password).events := by
  have hTrace := dispatchTrace_run Rehearsal.handler { terminal := {}, service := {} } context
    State.initial (command password)
  obtain ⟨body, last, hEvents, -, hChanges⟩ := hTrace.changesPassword rfl rfl
  change (run password).events = _ at hEvents
  rw [hEvents, callsIn_dispatched]
  generalize last.map (·.1) = outcome? at hChanges
  cases hChanges with
  | unread hKey => cases eq_of_keyFrom hKey
  | sent hKey exchange lines =>
      rw [callsIn_sent hKey]
      exact ⟨_, List.mem_singleton_self _⟩

end NewPassword

open NewPassword in
/-- They are sent as they are, two bytes over the limit. -/
theorem accented_password_sent :
    ∃ request, Call.generalAdmin request ∈ callsIn (run accented).events ∧
      Password.maxLength < (request.get 4).utf8ByteSize := by
  obtain ⟨request, hCall⟩ := exists_request accented
  have hLimit := (new_password_length_iff accented).2.2 Rehearsal.handler
    { terminal := {}, service := {} } context State.initial (command accented) rfl rfl rfl
    request hCall
  refine ⟨request, hCall, Nat.lt_of_not_le (mt hLimit.mp ?_)⟩
  rintro (hShort | hSingle)
  · rw [utf8ByteSize_accented] at hShort
    exact absurd hShort (by decide)
  · exact absurd (hSingle 'é' mem_accented) (by decide)

end Shell

end GridAdmin
