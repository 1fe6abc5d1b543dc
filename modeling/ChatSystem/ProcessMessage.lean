/-
ChatSystem.ProcessMessage — what a client handler does with one frame
(`processMessage`, `sendMessageToQueue`, `splitString`, `sendServerMessage`
and `isWhitespace` of `chatServer.c`).

`processMessage` is a function of the frame it reads and of the shared data it
finds; it returns its result code, the shared data it leaves, the replies it
sends on the client's socket (each a `Broadcast`, the way
`sendServerMessage` sends them) and the broadcasts it puts on the message
queue. Its registry work happens under the mutex, so in the server model of
`ChatSystem.Server` one call is one atomic step; the frame is the result of
the `read` before it, `none` for a read error (`-1`).

Two things of the C code are not modelled: the `malloc` of the decoded
message (a failed allocation is dereferenced in C), and a failing `msgsnd`
(`sendMessageToQueue`'s result is ignored by `processMessage`, and the queue
is never removed while handlers run in the model).
-/
import ChatSystem.Registry

namespace ChatSystem

/-! ## Constants -/

/-- `MESSAGE_PROCESS_QUIT`. -/
def messageProcessQuit : Int := 1
/-- `MESSAGE_PROCESS_SUCCESS`. -/
def messageProcessSuccess : Int := 0
/-- `MESSAGE_PROCESS_FAILED`. -/
def messageProcessFailed : Int := -1
/-- `REGISTRATION_FAILED`. -/
def registrationFailed : Int := -2

/-- `SERVER_REGISTRATION_MSG`. -/
def serverRegistrationMsg : List Char := ">>hello<<".toList
/-- `SERVER_QUIT_MSG`. -/
def serverQuitMsg : List Char := ">>bye<<".toList
/-- `SERVER_REGISTRATION_SUCCESS_MSG`. -/
def serverRegistrationSuccessMsg : List Char := ">>success<<".toList
/-- `SERVER_REGISTRATION_FAIL_MSG`. -/
def serverRegistrationFailMsg : List Char := ">>failed<<".toList

/-! ## Helpers -/

/-- `isWhitespace`: every character is `isspace` (so the empty string is
whitespace too). -/
def isWhitespace (s : List Char) : Bool := s.all isspace

/-- `memset(readBuffer, 0, JSON_LENGTH)` followed by a `read` of up to
`JSON_LENGTH` bytes that returned `bytes`. -/
def readBuffer (bytes : List Char) : List Char :=
  (bytes ++ List.replicate jsonLength '\x00').take jsonLength

/-- The reply `sendServerMessage` sends: empty IP and user ID, the text as the
message. -/
def serverBroadcast (serverMessage : List Char) : Broadcast :=
  ⟨CStr.empty, CStr.empty, CStr.ofList _ serverMessage⟩

/-! ## Splitting a long message -/

/-- The backward scan of `splitString`, `for (int i = k - 1; i >= 0; i--) if
(isspace(input[i])) return i;`, with `-1` when it finds no whitespace. -/
def findSpaceBackward (input : List Char) : Nat → Int
  | 0 => -1
  | k + 1 => if isspace (input.getD k '\x00') then k else findSpaceBackward input k

/-- `splitString(input, firstPart, secondPart, maxSize)`: split at the last
whitespace before `maxSize`, or at `maxSize` when there is none or when the
rest would be too long; the second part starts after the whitespace. -/
def splitString (input : List Char) (maxSize : Nat) : List Char × List Char :=
  let inputLen : Int := input.length
  let splitPoint : Int :=
    if inputLen > maxSize then findSpaceBackward input maxSize else -1
  let splitPoint : Int :=
    if splitPoint = -1 ∨ inputLen - splitPoint ≥ (maxSize : Int) - 1 then maxSize else splitPoint
  (input.take splitPoint.toNat, (input.drop splitPoint.toNat).dropWhile isspace)

/-- The message texts `sendMessageToQueue` puts in its broadcasts: the
message itself, or the two parts of `splitString` when it is longer than a
broadcast's message. -/
def broadcastParts (message : List Char) : List (List Char) :=
  if message.length > broadcastMessageLength then
    let parts := splitString message broadcastMessageLength
    [parts.1, parts.2]
  else [message.take broadcastMessageLength]

/-- `sendMessageToQueue`: the broadcasts it sends, in order, each with the
client's IP and the message's user ID. The parts are stored with
`CStr.ofList`, as the C code stores them with a terminating NUL; both parts
of a message of at most 80 characters fit in 40, so the bound of
`CStr.ofList` never cuts one. -/
def sendMessageToQueue (clientIP : List Char) (clientMessage : ClientMessage) : List Broadcast :=
  (broadcastParts clientMessage.message.chars).map fun part =>
    ⟨CStr.ofList _ clientIP, CStr.ofList _ clientMessage.clientUserID.chars, CStr.ofList _ part⟩

/-! ## processMessage -/

/-- What one call of `processMessage` does: its result code, the shared data
after it, the replies it sent on the client's socket, and the broadcasts it
sent to the message queue. -/
structure ProcessResult where
  retVal : Int
  shared : SharedData
  replies : List Broadcast
  enqueued : List Broadcast
deriving DecidableEq

/-- `processMessage(clientSocket, clientIP, sharedDataP, isRegistration)` on
thread `threadID`, where the `read` returned `frame` (`none` for `-1`).
`none` when the C code would access the client table out of bounds. -/
def processMessage (clientSocket : Nat) (clientIP : List Char) (threadID : Nat)
    (sd : SharedData) (isRegistration : Bool) (frame : Option (List Char)) :
    Option ProcessResult :=
  let clientMessage := jsonToClientMessage (readBuffer (frame.getD []))
  let userID := clientMessage.clientUserID.chars
  if frame.isNone || userID.length == 0 || isWhitespace userID then
    some ⟨messageProcessFailed, sd,
      if isRegistration then [serverBroadcast serverRegistrationFailMsg] else [], []⟩
  else if isRegistration then do
    let foundIndex ← findUserInList clientIP userID sd
    if strncmpEq clientMessage.message.chars serverRegistrationMsg
          (serverRegistrationMsg.length + 1) && foundIndex == entryNotFoundOrNull then do
      let (added, sd') ← addToList threadID clientIP userID clientSocket sd
      if added == tooManyClients then some ⟨messageProcessFailed, sd', [], []⟩
      else some ⟨messageProcessSuccess, sd', [serverBroadcast serverRegistrationSuccessMsg], []⟩
    else some ⟨registrationFailed, sd, [serverBroadcast serverRegistrationFailMsg], []⟩
  else if strncmpEq clientMessage.message.chars serverQuitMsg (serverQuitMsg.length + 1) then do
    let clientIndex ← findThreadIDInList threadID sd
    let (_, sd') ← removeFromList clientIndex sd
    some ⟨messageProcessQuit, sd', [], []⟩
  else some ⟨messageProcessSuccess, sd, [], sendMessageToQueue clientIP clientMessage⟩

/-- The clean-up critical section of `clientHandler` after its message loop:
`removeFromList(findThreadIDInList(threadID, sharedDataP), sharedDataP)`. -/
def removeClient (threadID : Nat) (sd : SharedData) : Option SharedData := do
  let clientIndex ← findThreadIDInList threadID sd
  let (_, sd') ← removeFromList clientIndex sd
  some sd'

end ChatSystem
