/-
ChatSystem.Display — what the chat client does with what it receives: the
check of the registration reply in `main`, the loop of `output_handler`, and
the line `display_message` formats for each Broadcast.

`display_message` prints `"%-15s [%-5s] %2s %-40s (%s)\n"` with `snprintf`
into `MESSAGE_MAX_LENGTH` bytes and adds the line to the history. The widths
are the sizes of the fields of `struct Broadcast`, so a field is padded and
never cut, and with the two characters of the direction and the eight of
`%H:%M:%S` the line has exactly `MESSAGE_MAX_LENGTH - 1` characters:
`snprintf` writes all of it, the newline included, and
`add_message_to_history` stores all of it (`formattedMessage_whole`).

`main` and `output_handler` decode a `recv` with `jsonToBroadcast` and take a
Broadcast with an empty user ID, an empty IP and the message `>>failed<<` for
the server's failure reply: `main` returns 1 on it, `output_handler` quits.
Reading one frame per `recv`, `output_handler` adds the line of each
Broadcast, in order, up to the first that passes this test
(`outputHandler_frames`). On a Broadcast as the server sends it the test
fires exactly on the `>>failed<<` reply (`Broadcast.Sendable.isFailureReply_iff`):
a chat line `>>failed<<` carries its sender's user ID, which is never empty.

What is not modelled: ncurses (the window is redrawn from the history, which
`ChatSystem.History` models), a failed `malloc` in `jsonToBroadcast`, and a
`localtime` that fails.
-/
import ChatSystem.Broadcasts
import ChatSystem.Framing
import ChatSystem.History

namespace ChatSystem

/-! ## 1. The line of display_message -/

/-- The fields of the `struct tm` of `localtime` that `%H:%M:%S` prints, in the
ranges `localtime` gives them (`tm_sec` is 60 on a leap second). -/
structure Tm where
  tmHour : Fin 24
  tmMin : Fin 60
  tmSec : Fin 61
deriving DecidableEq

/-- `%H`, `%M` or `%S` of a field below 100: two decimal digits. -/
def twoDigits (n : Nat) : List Char := [decimalDigit (n / 10), decimalDigit (n % 10)]

/-- `strftime(time_str, sizeof(time_str), "%H:%M:%S", tm_info)`: eight
characters, which `time_str[9]` holds with their NUL. -/
def strftimeHMS (t : Tm) : List Char :=
  twoDigits t.tmHour ++ ':' :: twoDigits t.tmMin ++ ':' :: twoDigits t.tmSec

/-- `%-ns`: the string, then blanks up to `n` characters. -/
def padRight (n : Nat) (s : List Char) : List Char := s ++ List.replicate (n - s.length) ' '

/-- `%ns`: blanks up to `n` characters, then the string. -/
def padLeft (n : Nat) (s : List Char) : List Char := List.replicate (n - s.length) ' ' ++ s

/-- The text of `"%-15s [%-5s] %2s %-40s (%s)\n"` for its five strings. -/
def formatMessage (ip username direction msg timeStr : List Char) : List Char :=
  padRight 15 ip ++ ' ' :: '[' :: padRight 5 username ++ ']' :: ' ' :: padLeft 2 direction ++
    ' ' :: padRight 40 msg ++ ' ' :: '(' :: timeStr ++ [')', '\n']

/-- What `snprintf(buf, size, ...)` leaves in `buf` before its NUL: the text,
cut at `size - 1` characters. -/
def snprintf (size : Nat) (text : List Char) : List Char := text.take (size - 1)

/-- `formatted_message` of `display_message(win, ip, username, msg, direction)`
at local time `t`. -/
def formattedMessage (ip username msg direction : List Char) (t : Tm) : List Char :=
  snprintf messageMaxLength (formatMessage ip username direction msg (strftimeHMS t))

/-- `display_message`: the formatted line goes into the history, from which the
window is redrawn (`displayedMessages`). -/
def displayMessage (h : MessageHistory) (ip username msg direction : List Char) (t : Tm) :
    MessageHistory :=
  addMessageToHistory h (formattedMessage ip username msg direction t)

theorem length_padRight {n : Nat} {s : List Char} (h : s.length ≤ n) : (padRight n s).length = n := by
  simp only [padRight, List.length_append, List.length_replicate]; omega

theorem length_padLeft {n : Nat} {s : List Char} (h : s.length ≤ n) : (padLeft n s).length = n := by
  simp only [padLeft, List.length_append, List.length_replicate]; omega

theorem length_strftimeHMS (t : Tm) : (strftimeHMS t).length = 8 := rfl

theorem nulFree_twoDigits {n : Nat} (h : n < 100) : NulFree (twoDigits n) := by
  have h1 := (decimalDigit_ne (by omega : n / 10 < 10)).1
  have h2 := (decimalDigit_ne (Nat.mod_lt n (by decide : 10 > 0))).1
  simp only [NulFree, twoDigits, List.mem_cons, List.mem_singleton, List.not_mem_nil, or_false, not_or]
  exact ⟨fun e => h1 e.symm, fun e => h2 e.symm⟩

theorem nulFree_strftimeHMS (t : Tm) : NulFree (strftimeHMS t) := by
  have h1 := nulFree_twoDigits (by omega : t.tmHour.val < 100)
  have h2 := nulFree_twoDigits (by omega : t.tmMin.val < 100)
  have h3 := nulFree_twoDigits (by omega : t.tmSec.val < 100)
  simp only [NulFree] at *
  simp [strftimeHMS, h1, h2, h3]

/-- The fields of the format are as wide as the strings: the text has the
widths' length, whatever the strings hold. -/
theorem length_formatMessage {ip username direction msg : List Char} (hip : ip.length ≤ 15)
    (hu : username.length ≤ 5) (hd : direction.length ≤ 2) (hm : msg.length ≤ 40)
    (timeStr : List Char) :
    (formatMessage ip username direction msg timeStr).length = 71 + timeStr.length := by
  simp only [formatMessage, List.length_append, List.length_cons, List.length_nil,
    length_padRight hip, length_padRight hu, length_padLeft hd, length_padRight hm]
  omega

theorem nulFree_formatMessage {ip username direction msg timeStr : List Char} (hip : NulFree ip)
    (hu : NulFree username) (hd : NulFree direction) (hm : NulFree msg) (ht : NulFree timeStr) :
    NulFree (formatMessage ip username direction msg timeStr) := by
  simp only [NulFree] at *
  simp [formatMessage, padRight, padLeft, List.mem_replicate, hip, hu, hd, hm, ht]

/-- A line of strings no longer than the arrays of a Broadcast, with a
direction of at most two characters, is the whole format text: it has exactly
`MESSAGE_MAX_LENGTH - 1` characters, so `snprintf` cuts nothing, and
`add_message_to_history` stores it whole. -/
theorem formattedMessage_whole {ip username msg direction : List Char}
    (hip : ip.length ≤ clientIPLength) (hu : username.length ≤ clientUserIDLength)
    (hm : msg.length ≤ broadcastMessageLength) (hd : direction.length ≤ 2) (hipn : NulFree ip)
    (hun : NulFree username) (hmn : NulFree msg) (hdn : NulFree direction) (t : Tm) :
    formattedMessage ip username msg direction t =
        formatMessage ip username direction msg (strftimeHMS t) ∧
      (formattedMessage ip username msg direction t).length = messageMaxLength - 1 ∧
      (CStr.ofList (messageMaxLength - 1) (formattedMessage ip username msg direction t)).chars =
        formattedMessage ip username msg direction t := by
  have hlen := length_formatMessage hip hu hd hm (strftimeHMS t)
  rw [length_strftimeHMS] at hlen
  have hall : formattedMessage ip username msg direction t =
      formatMessage ip username direction msg (strftimeHMS t) :=
    List.take_of_length_le (by rw [hlen]; rfl)
  rw [hall, hlen]
  exact ⟨rfl, rfl, CStr.ofList_of_fits
    (nulFree_formatMessage hipn hun hdn hmn (nulFree_strftimeHMS t)) (by rw [hlen]; rfl)⟩

example : formattedMessage "10.0.0.1".toList "bob".toList "hi".toList "<<".toList ⟨9, 5, 0⟩ =
    ("10.0.0.1        [bob  ] << hi" ++ String.mk (List.replicate 39 ' ') ++ "(09:05:00)\n").toList := by
  decide

/-! ## 2. main and output_handler -/

/-- `currentUserID`: `strncpy(currentUserID, userID, sizeof(currentUserID) - 1)`
into the zeroed global `char[CLIENT_USERID_LENGTH]`. -/
def currentUserIDOf (userID : List Char) : List Char := (cstr userID).take (clientUserIDLength - 1)

/-- The direction `output_handler` passes: `">>"` when `strcmp(bcast->clientUserID,
currentUserID) == 0`, `"<<"` otherwise. -/
def messageDirection (currentUserID : List Char) (bcast : Broadcast) : List Char :=
  if bcast.clientUserID.chars = currentUserID then ">>".toList else "<<".toList

/-- The test of `main` and `output_handler` for the server's failure message:
`bcast->clientUserID[0] == '\0' && bcast->clientIP[0] == '\0' &&
strcmp(bcast->message, ">>failed<<") == 0`. -/
def isFailureReply (bcast : Broadcast) : Bool :=
  bcast.clientUserID.chars.isEmpty && bcast.clientIP.chars.isEmpty &&
    bcast.message.chars == ">>failed<<".toList

/-- `main` after sending its registration frame, on what its `recv` returned
(`[]` for a return of at most 0): it goes on to start its threads, or returns 1.
Its buffer is zeroed and decoded as `output_handler`'s is. -/
def registrationAccepted (received : List Char) : Bool :=
  !received.isEmpty && !isFailureReply (outputHandlerBroadcast received)

/-- The line `output_handler` has `display_message` add for a Broadcast. -/
def broadcastLine (currentUserID : List Char) (bcast : Broadcast) (t : Tm) : List Char :=
  formattedMessage bcast.clientIP.chars bcast.clientUserID.chars bcast.message.chars
    (messageDirection currentUserID bcast) t

/-- The loop of `output_handler`, on what each `recv` returned (`[]` for a
return of at most 0) and the local time of its `display_message`: the history
it leaves, and whether it is still in its loop. -/
def outputHandler (currentUserID : List Char) :
    MessageHistory → List (List Char × Tm) → MessageHistory × Bool
  | h, [] => (h, true)
  | h, (bytes, t) :: rest =>
    if bytes.isEmpty then (h, false)
    else
      let bcast := outputHandlerBroadcast bytes
      if isFailureReply bcast then (h, false)
      else
        outputHandler currentUserID (displayMessage h bcast.clientIP.chars bcast.clientUserID.chars
          bcast.message.chars (messageDirection currentUserID bcast) t) rest

/-- The chat client from its `recv` of the registration reply: `main` checks the
reply, then `output_handler` runs on the later `recv`s from the empty history;
`none` when `main` returns 1. -/
def chatClient (userID reply : List Char) (reads : List (List Char × Tm)) :
    Option (MessageHistory × Bool) :=
  if registrationAccepted reply then
    some (outputHandler (currentUserIDOf userID) MessageHistory.init reads)
  else none

/-- `output_handler` reading one whole frame per `recv`, each read back as the
Broadcast it encodes: it adds the lines of the Broadcasts, in order, up to the
first failure message, and stays in its loop when there is none. -/
theorem outputHandler_frames (currentUserID : List Char) :
    ∀ (bs : List Broadcast) (h : MessageHistory) (times : List Tm),
      (∀ b ∈ bs, outputHandlerBroadcast (broadcastToJson b) = b) → times.length = bs.length →
      outputHandler currentUserID h ((bs.map broadcastToJson).zip times) =
        ((List.zipWith (broadcastLine currentUserID) (bs.takeWhile fun b => !isFailureReply b)
            times).foldl addMessageToHistory h,
          bs.all fun b => !isFailureReply b)
  | [], _, _, _, _ => rfl
  | _ :: _, _, [], _, hl => absurd hl (by simp)
  | b :: bs, h, t :: times, hb, hl => by
    have hread := hb b (List.mem_cons_self _ _)
    simp only [List.map_cons, List.zip_cons_cons, outputHandler, hread, List.takeWhile_cons,
      List.all_cons]
    by_cases hf : isFailureReply b = true
    · simp [hf, show (broadcastToJson b).isEmpty = false from rfl]
    · rw [if_neg (show ¬ (broadcastToJson b).isEmpty = true from Bool.false_ne_true), if_neg hf]
      simp only [hf, Bool.not_false, List.zipWith_cons_cons, List.foldl_cons, Bool.true_and]
      exact outputHandler_frames currentUserID bs _ times
        (fun b' hb' => hb b' (List.mem_cons_of_mem _ hb')) (Nat.succ.inj hl)

/-- A chat line `>>failed<<`, read whole, is displayed, and the handler reads on. -/
theorem outputHandler_frames_failedChat :
    (∀ b ∈ [failedChat], outputHandlerBroadcast (broadcastToJson b) = b) ∧
      [(⟨12, 30, 5⟩ : Tm)].length = [failedChat].length ∧
      outputHandler (currentUserIDOf "alice".toList) MessageHistory.init
          (([failedChat].map broadcastToJson).zip [⟨12, 30, 5⟩]) =
        ((List.zipWith (broadcastLine (currentUserIDOf "alice".toList))
            ([failedChat].takeWhile fun b => !isFailureReply b) [⟨12, 30, 5⟩]).foldl
              addMessageToHistory MessageHistory.init,
          [failedChat].all fun b => !isFailureReply b) :=
  have hb : ∀ b ∈ [failedChat], outputHandlerBroadcast (broadcastToJson b) = b := by decide
  ⟨hb, rfl, outputHandler_frames _ _ _ _ hb rfl⟩

example : (outputHandler (currentUserIDOf "alice".toList) MessageHistory.init
    (([failedChat].map broadcastToJson).zip [⟨12, 30, 5⟩])).2 = true := by decide

/-- A `recv` that starts with the frame of a Broadcast the server sends decodes
to it, whatever follows. -/
theorem Broadcast.Sendable.decode_frame {b : Broadcast} (hb : b.Sendable) (rest : List Char) :
    outputHandlerBroadcast (broadcastToJson b ++ rest) = b :=
  outputHandlerBroadcast_broadcastToJson_append b hb.quoteFree.clientIP hb.quoteFree.clientUserID
    hb.quoteFree.message rest

/-- On a Broadcast the server sends, the failure test of `main` and
`output_handler` fires exactly on the `>>failed<<` reply; a chat part with the
text `>>failed<<` has its sender's user ID. -/
theorem Broadcast.Sendable.isFailureReply_iff {b : Broadcast} (hb : b.Sendable) :
    isFailureReply b = true ↔ b = serverBroadcast serverRegistrationFailMsg := by
  rcases hb.fromServer with rfl | rfl | hu
  · decide
  · decide
  · refine ⟨fun h => absurd ?_ hu, fun e => absurd (e ▸ rfl) hu⟩
    simp only [isFailureReply, Bool.and_eq_true, List.isEmpty_iff] at h
    exact h.1.1

theorem Broadcast.Sendable.not_isFailureReply {b : Broadcast} (hb : b.Sendable) :
    (!isFailureReply b) = decide (b ≠ serverBroadcast serverRegistrationFailMsg) := by
  cases h : isFailureReply b <;> simp [← hb.isFailureReply_iff, h]

/-- `main` goes on after a reply that starts with the frame of a Broadcast the
server sends exactly when that Broadcast is not the `>>failed<<` reply. -/
theorem Broadcast.Sendable.registrationAccepted_iff {b : Broadcast} (hb : b.Sendable)
    (rest : List Char) :
    registrationAccepted (broadcastToJson b ++ rest) = true ↔
      b ≠ serverBroadcast serverRegistrationFailMsg := by
  have hne : (broadcastToJson b ++ rest).isEmpty = false := rfl
  rw [registrationAccepted, hne, hb.decode_frame, Bool.not_false, Bool.true_and, Bool.not_eq_true',
    Bool.eq_false_iff, ne_eq, hb.isFailureReply_iff]

end ChatSystem
