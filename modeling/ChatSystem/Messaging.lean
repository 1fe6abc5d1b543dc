/-
ChatSystem.Messaging — the two message shapes of the chat system and their
JSON text (`commonMessaging.h`, `commonMessaging.c`).

A `ClientMessage` goes from a client to the server, a `Broadcast` from the
server to every client. Each field is a `CStr`, the contents of the field's
`char` array, so its length bound is part of the type.

The encoders are the `sprintf` calls of `broadcastToJson` and
`clientMessageToJson`: the fields are pasted between fixed keys, with no
escaping. The decoders read a buffer as a C string, find each key with
`strstr` and read its value with a bounded `%n[^"]` conversion; a key that is
missing leaves its field empty. The widths of the conversions (`%15`, `%5`,
`%40`, `%80`) are the array bounds of `commonMessaging.h`, and are written
with those constants here.

The `malloc` of each function is not modelled: the encoders' 256-byte result
holds every text they can produce from terminated fields (at most 108
characters), and a failed allocation is left out.
-/
import ChatSystem.CString

namespace ChatSystem

/-! ## Sizes -/

/-- `CLIENT_IP_LENGTH`. -/
def clientIPLength : Nat := 15
/-- `CLIENT_USERID_LENGTH`. -/
def clientUserIDLength : Nat := 5
/-- `BROADCAST_MESSAGE_LENGTH`. -/
def broadcastMessageLength : Nat := 40
/-- `CLIENT_MESSAGE_LENGTH`. -/
def clientMessageLength : Nat := 80
/-- `JSON_LENGTH`: the size of every read buffer and of every encoded text. -/
def jsonLength : Nat := 256

/-! ## Message structs -/

/-- `struct Broadcast`: a message from the server to a client. -/
structure Broadcast where
  clientIP : CStr clientIPLength
  clientUserID : CStr clientUserIDLength
  message : CStr broadcastMessageLength
deriving DecidableEq

/-- `struct ClientMessage`: a message from a client to the server. -/
structure ClientMessage where
  clientUserID : CStr clientUserIDLength
  message : CStr clientMessageLength
deriving DecidableEq

/-! ## Keys -/

/-- `"clientIP":"`, the text before the IP value. -/
def clientIPKey : List Char := "\"clientIP\":\"".toList
/-- `"clientUserID":"`, the text before the user ID value. -/
def clientUserIDKey : List Char := "\"clientUserID\":\"".toList
/-- `"message":"`, the text before the message value. -/
def messageKey : List Char := "\"message\":\"".toList

/-! ## Encoders -/

/-- `broadcastToJson`: `{"clientIP":"%s","clientUserID":"%s","message":"%s"}`. -/
def broadcastToJson (b : Broadcast) : List Char :=
  '\x7b' :: clientIPKey ++ b.clientIP.chars ++ '"' :: ',' :: clientUserIDKey ++
    b.clientUserID.chars ++ '"' :: ',' :: messageKey ++ b.message.chars ++ ['"', '\x7d']

/-- `clientMessageToJson`: `{"clientUserID":"%s","message":"%s"}`. -/
def clientMessageToJson (m : ClientMessage) : List Char :=
  '\x7b' :: clientUserIDKey ++ m.clientUserID.chars ++ '"' :: ',' :: messageKey ++
    m.message.chars ++ ['"', '\x7d']

/-! ## Decoders -/

/-- One `strstr` plus `sscanf(start, "<key>%n[^\"]\"", field)` of the decoders:
the value after the first occurrence of `key`, or the empty string. -/
def jsonField (key : List Char) (n : Nat) (json : List Char) : CStr n :=
  match strstr key json with
  | some start => scanSet n (start.drop key.length)
  | none => CStr.empty

/-- `jsonToBroadcast`, applied to a buffer: it reads the buffer up to its first
NUL. -/
def jsonToBroadcast (jsonStr : List Char) : Broadcast :=
  let json := cstr jsonStr
  { clientIP := jsonField clientIPKey clientIPLength json
    clientUserID := jsonField clientUserIDKey clientUserIDLength json
    message := jsonField messageKey broadcastMessageLength json }

/-- `jsonToClientMessage`, applied to a buffer: it reads the buffer up to its
first NUL. -/
def jsonToClientMessage (jsonStr : List Char) : ClientMessage :=
  let json := cstr jsonStr
  { clientUserID := jsonField clientUserIDKey clientUserIDLength json
    message := jsonField messageKey clientMessageLength json }

end ChatSystem
