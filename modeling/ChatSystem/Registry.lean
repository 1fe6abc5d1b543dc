/-
ChatSystem.Registry — the table of connected clients that the server keeps in
shared memory (`serverIPC.h`, `serverIPC.c`).

`SharedData` holds the number of connected clients, the running flag and a
fixed array of `MAX_CLIENTS` slots; `ClientTable` is that array, with its
length in the type. Every access to the array goes through `ClientTable.get?`
and `ClientTable.set?`, which return `none` for an index outside the array: a
function of this module returns `none` exactly when the C code would read or
write outside `connectedClients`.

The functions are the four list operations of `serverIPC.c`, each a loop over
the first `numClients` slots:

* `findThreadIDInList`, `findUserInList`: the first slot that matches, or
  `ENTRY_NOT_FOUND_OR_NULL`; both are `scanClients` with their own test.
* `addToList`: writes the next free slot, or answers `TOO_MANY_CLIENTS`.
* `removeFromList`: shifts the later slots down by one (`shiftDown`) and
  clears the slot that falls out of use.

The null-pointer checks of these functions are not modelled (no caller passes
a null pointer), nor are `msgQueueID` (the queue is part of the server's world
in `ChatSystem.Server`) and the mutex (its critical sections are the atomic
steps of that world).
-/
import ChatSystem.Messaging

namespace ChatSystem

/-! ## Constants -/

/-- `MAX_CLIENTS`: the number of slots in the client table. -/
def maxClients : Nat := 10
/-- `SUCCESS`. -/
def success : Int := 0
/-- `ENTRY_NOT_FOUND_OR_NULL`. -/
def entryNotFoundOrNull : Int := -1
/-- `TOO_MANY_CLIENTS`. -/
def tooManyClients : Int := -2

/-! ## The client table -/

/-- `ClientState`: one slot of the client table. -/
structure ClientState where
  threadID : Nat
  clientIP : CStr clientIPLength
  clientUserID : CStr clientUserIDLength
  clientSocket : Nat
deriving DecidableEq

/-- A slot as `initSharedMemory` and the straggler clean-up of
`removeFromList` leave it: empty IP and user ID, thread ID 0, socket 0. -/
def ClientState.cleared : ClientState := ⟨0, CStr.empty, CStr.empty, 0⟩

/-- `ClientState connectedClients[MAX_CLIENTS]`. -/
structure ClientTable where
  slots : List ClientState
  length_slots : slots.length = maxClients
deriving DecidableEq

/-- `connectedClients[i]`, or `none` outside the array. -/
def ClientTable.get? (t : ClientTable) (i : Int) : Option ClientState :=
  if 0 ≤ i then t.slots[i.toNat]? else none

/-- Slot `j` replaced by `e`. -/
def ClientTable.set (t : ClientTable) (j : Nat) (e : ClientState) : ClientTable :=
  ⟨t.slots.set j e, by rw [List.length_set, t.length_slots]⟩

/-- `connectedClients[i] = e`, or `none` outside the array. -/
def ClientTable.set? (t : ClientTable) (i : Int) (e : ClientState) : Option ClientTable :=
  if 0 ≤ i ∧ i.toNat < maxClients then some (t.set i.toNat e) else none

/-- `SharedData`, without the message queue ID and the mutex. -/
structure SharedData where
  serverSocket : Nat
  numClients : Int
  serverIsRunning : Bool
  connectedClients : ClientTable
deriving DecidableEq

/-- `initSharedMemory`: no clients, running, every slot cleared. -/
def initSharedMemory (serverSocket : Nat) : SharedData :=
  ⟨serverSocket, 0, true, ⟨List.replicate maxClients ClientState.cleared, List.length_replicate _ _⟩⟩

/-! ## The loops over the table -/

/-- The search loop `for (int i = start; i < numClients; i++) if (p(connectedClients[i])) return i;`
with `k` iterations left; `none` when it reads outside the array. -/
def scanClients (p : ClientState → Bool) (t : ClientTable) : Nat → Nat → Option Int
  | _, 0 => some entryNotFoundOrNull
  | i, k + 1 => do
    let e ← t.get? i
    if p e then some i else scanClients p t (i + 1) k

/-- The test of `findThreadIDInList`: `connectedClients[i].threadID == threadID`. -/
def threadMatches (threadID : Nat) (e : ClientState) : Bool := e.threadID == threadID

/-- The test of `findUserInList`: IP and user ID agree under `strncmp` with
the array bounds. -/
def userMatches (clientIP clientUserID : List Char) (e : ClientState) : Bool :=
  strncmpEq e.clientIP.chars clientIP clientIPLength &&
    strncmpEq e.clientUserID.chars clientUserID clientUserIDLength

/-- `findThreadIDInList`: the first live slot with this thread ID. -/
def findThreadIDInList (threadID : Nat) (sd : SharedData) : Option Int :=
  scanClients (threadMatches threadID) sd.connectedClients 0 sd.numClients.toNat

/-- `findUserInList`: the first live slot that agrees with the IP and user ID. -/
def findUserInList (clientIP clientUserID : List Char) (sd : SharedData) : Option Int :=
  scanClients (userMatches clientIP clientUserID) sd.connectedClients 0 sd.numClients.toNat

/-- The read loop `for (int i = start; i < numClients; i++) ... connectedClients[i] ...`
of `chatBroadcaster`, with `k` iterations left: the slots it reads, in order. -/
def readClients (t : ClientTable) : Nat → Nat → Option (List ClientState)
  | _, 0 => some []
  | i, k + 1 => do
    let e ← t.get? i
    let rest ← readClients t (i + 1) k
    some (e :: rest)

/-- `addToList`: the new client goes into slot `numClients` when there is room. -/
def addToList (threadID : Nat) (clientIP clientUserID : List Char) (clientSocket : Nat)
    (sd : SharedData) : Option (Int × SharedData) :=
  let currentIndex := sd.numClients
  if currentIndex < maxClients then do
    let t ← sd.connectedClients.set? currentIndex
      ⟨threadID, CStr.ofList _ clientIP, CStr.ofList _ clientUserID, clientSocket⟩
    some (success, { sd with numClients := currentIndex + 1, connectedClients := t })
  else some (tooManyClients, sd)

/-- The shifting loop `for (int i = entryIndex; i < numClients; i++)
connectedClients[i] = connectedClients[i + 1];` with `k` iterations left. -/
def shiftDown : ClientTable → Nat → Int → Option ClientTable
  | t, 0, _ => some t
  | t, k + 1, i => do
    let e ← t.get? (i + 1)
    let t' ← t.set? i e
    shiftDown t' k (i + 1)

/-- `removeFromList`: drop the entry at `entryIndex` by shifting the later
entries down, then clear the slot that fell out of use. -/
def removeFromList (entryIndex : Int) (sd : SharedData) : Option (Int × SharedData) :=
  if entryIndex ≠ entryNotFoundOrNull then do
    let numClients := sd.numClients - 1
    let t ← shiftDown sd.connectedClients (numClients - entryIndex).toNat entryIndex
    let t ← if numClients < maxClients then t.set? numClients ClientState.cleared else some t
    some (entryIndex, { sd with numClients := numClients, connectedClients := t })
  else some (entryNotFoundOrNull, sd)

end ChatSystem
