/-
ChatSystem.Server — the chat server as one state machine: the accept loop of
`runServer`, the `clientHandler` threads it starts, `clientConnectionMonitor`
and `chatBroadcaster` (`chatServer.c`).

A `World` holds the shared data, the `NewClient` variable of `runServer`, where
each thread is in its code, the message queue, and the log of every Broadcast
sent on a client socket. An `Action` is one atomic step of one thread, and
`step` is partial: `none` when the thread is not at that point of its code, or
when the step would access the client table out of bounds. A step is atomic
when it is a critical section under the mutex, or when it touches only the
thread's own data besides one shared variable:

* `accept`: the `accept` of the accept loop returns a socket, which goes into
  the loop's `NewClient` variable.
* `createHandler`: the rest of that iteration. A handler thread starts with a
  pointer to `NewClient`, not a copy of it; the first iteration also starts the
  monitor and the broadcaster. It does not need the listening socket, so it
  may come after the monitor has closed it.
* `acceptFail`: `accept` fails and the loop ends; `cleanUp`: `cleanUpServer`
  after it, which removes the message queue.
* `handlerStart`: the handler reads its socket through the pointer and gets the
  peer's IP (`getClientIP` fails when `getpeername` does).
* `handlerRegister`, `handlerMessage`: one `processMessage` call, its `read`
  included, with what `clientHandler` does with the result.
* `handlerResume`: a `msgsnd` of `processMessage` that blocked on the full
  queue returns.
* `handlerCleanUp`: the removal after the message loop, and the `close`.
* `monitor`: one iteration of a loop of `clientConnectionMonitor`.
* `broadcaster`: one part of an iteration of `chatBroadcaster`: its unlocked
  test of `numClients`, its `msgrcv`, or its fan-out under the mutex.

`processMessage` sends a chat message's Broadcasts with `msgsnd(..., 0)` while
it holds the mutex. On a full queue (`queueCapacity`) that call blocks, and
the handler keeps the mutex (`World.sending`): until its `msgsnd` returns, no
step that locks the mutex can run (`Action.isBlocked`).

`NewClient newClient` is declared in the loop body, so each iteration has its
own object in C; the compiler keeps it in one stack slot, which is what the
model has. What is not modelled: the `usleep`s (any enabled step may run
next), a failing `pthread_create`, a `msgsnd` or `msgrcv` that fails on a
queue that exists, and what follows `cleanUpServer`: it also destroys the
mutex and marks the shared memory for removal, which the threads' mapping
outlives, and the process ends two seconds later, so a run here may go on as
if the process lived. `totalConnections` is a natural number: the `int` of
`runServer` takes the same decisions for the first `2^32` iterations
(`ChatSystem.Delivery`, §3), more than the process can create threads.
-/
import ChatSystem.ProcessMessageTheorems

namespace ChatSystem

/-! ## Threads -/

/-- Where a `clientHandler` thread is in its code. -/
inductive HandlerPhase
  /-- Started; has not read its `NewClient` yet. -/
  | starting
  /-- Awaiting registration: `processMessage(..., IS_REGISTRATION)` is next. -/
  | registering
  /-- In the message loop. -/
  | registered
  /-- Out of the message loop with `processResult`; the clean-up removal is next. -/
  | quitting (processResult : Int)
  /-- Exited, its socket closed. -/
  | closed
deriving DecidableEq

/-- A `clientHandler` thread: its `pthread_self()` and the locals it keeps. -/
structure Handler where
  threadID : Nat
  clientSocket : Nat
  clientIP : List Char
  phase : HandlerPhase
deriving DecidableEq

/-- A thread that has not exited. -/
def Handler.isLive (h : Handler) : Bool := h.phase != .closed

/-- Where `clientConnectionMonitor` is in its code. -/
inductive MonitorPhase
  | notStarted
  /-- The first loop: waiting for a client to register. -/
  | waiting
  /-- The second loop: waiting for the last client to leave. -/
  | running
  | stopped
deriving DecidableEq

/-- Where `chatBroadcaster` is in its code. -/
inductive BroadcasterPhase
  | notStarted
  /-- The first loop: waiting for a client to register. -/
  | waiting
  /-- At the top of the second loop: the unlocked test of `numClients` is next. -/
  | checking
  /-- `msgrcv` is next. -/
  | receiving
  /-- Holding the Broadcast `msgrcv` returned; the fan-out is next. -/
  | fanningOut (b : Broadcast)
  | stopped
deriving DecidableEq

/-! ## The world -/

/-- The whole server: the shared data and what each thread holds. -/
structure World where
  shared : SharedData
  /-- The listening socket is open: `closeServerSocket` has not run. -/
  listening : Bool
  /-- `runServer` is in its accept loop. -/
  accepting : Bool
  /-- `accept` has returned the socket in `newClient`; the rest of the
  iteration, from its `pthread_create`, is next. -/
  spawning : Bool
  totalConnections : Nat
  /-- The `clientSocket` of the `NewClient` variable of `runServer`. -/
  newClient : Nat
  /-- Every `clientHandler` thread started, in the order they started. -/
  handlers : List Handler
  monitor : MonitorPhase
  broadcaster : BroadcasterPhase
  /-- The message queue, oldest first. -/
  queue : List Broadcast
  /-- `cleanUpServer` has removed the message queue; `queue` keeps what was on
  it, which no thread can read any more. -/
  queueRemoved : Bool
  /-- The handler, by its place in `handlers`, that holds the mutex in
  `processMessage` with its `msgsnd` blocked on the full queue, and the
  Broadcasts it has still to send. -/
  sending : Option (Nat × List Broadcast)
  /-- Every Broadcast sent on a client socket, in order, with the socket. -/
  writes : List (Nat × Broadcast)
  /-- The client sockets open. -/
  openSockets : List Nat
deriving DecidableEq

/-- `runServer` at its accept loop, after `initSharedMemory`. -/
def World.init (serverSocket : Nat) : World where
  shared := initSharedMemory serverSocket
  listening := true
  accepting := true
  spawning := false
  totalConnections := 0
  newClient := 0
  handlers := []
  monitor := .notStarted
  broadcaster := .notStarted
  queue := []
  queueRemoved := false
  sending := none
  writes := []
  openSockets := []

/-- Handler `i` replaced by `h`. -/
def World.setHandler (w : World) (i : Nat) (h : Handler) : World :=
  { w with handlers := w.handlers.set i h }

/-- `close(clientSocket)`. -/
def World.close (w : World) (clientSocket : Nat) : World :=
  { w with openSockets := w.openSockets.erase clientSocket }

/-- What a `processMessage` call of handler `h` leaves besides the queue: its
shared data and its replies sent on the handler's socket. -/
def World.afterProcess (w : World) (h : Handler) (r : ProcessResult) : World :=
  { w with
    shared := r.shared
    writes := w.writes ++ r.replies.map (h.clientSocket, ·) }

/-- How many Broadcasts the message queue holds before `msgsnd` blocks: a
message goes on while the queue's bytes stay within its `msg_qbytes`, which is
Linux's `MSGMNB` of 16384 unless the system sets another, and each message is
a `struct Broadcast` of 16 + 6 + 41 bytes. -/
def queueCapacity : Nat := 16384 / 63

/-- `msgsnd(msgQID, &envelope, sizeof(Broadcast), 0)` of each Broadcast in
turn by handler `i`: every call fails once the queue is removed; a call puts
its Broadcast on a queue with room, and blocks on a full one, where the
handler waits with what it has still to send. -/
def World.sendToQueue (w : World) (i : Nat) : List Broadcast → World
  | [] => w
  | b :: bs =>
    if w.queueRemoved then w
    else if w.queue.length < queueCapacity then { w with queue := w.queue ++ [b] }.sendToQueue i bs
    else { w with sending := some (i, b :: bs) }

@[simp] theorem World.setHandler_shared (w : World) (i : Nat) (h : Handler) :
    (w.setHandler i h).shared = w.shared := rfl

@[simp] theorem World.close_shared (w : World) (clientSocket : Nat) :
    (w.close clientSocket).shared = w.shared := rfl

@[simp] theorem World.afterProcess_shared (w : World) (h : Handler) (r : ProcessResult) :
    (w.afterProcess h r).shared = r.shared := rfl

@[simp] theorem World.afterProcess_writes (w : World) (h : Handler) (r : ProcessResult) :
    (w.afterProcess h r).writes = w.writes ++ r.replies.map (h.clientSocket, ·) := rfl

section Fields

variable (w : World) (i : Nat) (h : Handler) (r : ProcessResult) (clientSocket : Nat)

@[simp] theorem World.setHandler_handlers : (w.setHandler i h).handlers = w.handlers.set i h := rfl
@[simp] theorem World.setHandler_queue : (w.setHandler i h).queue = w.queue := rfl
@[simp] theorem World.setHandler_writes : (w.setHandler i h).writes = w.writes := rfl
@[simp] theorem World.setHandler_openSockets : (w.setHandler i h).openSockets = w.openSockets := rfl
@[simp] theorem World.setHandler_newClient : (w.setHandler i h).newClient = w.newClient := rfl
@[simp] theorem World.setHandler_spawning : (w.setHandler i h).spawning = w.spawning := rfl
@[simp] theorem World.close_handlers : (w.close clientSocket).handlers = w.handlers := rfl
@[simp] theorem World.afterProcess_handlers : (w.afterProcess h r).handlers = w.handlers := rfl
@[simp] theorem World.afterProcess_queue : (w.afterProcess h r).queue = w.queue := rfl
@[simp] theorem World.afterProcess_openSockets : (w.afterProcess h r).openSockets = w.openSockets := rfl
@[simp] theorem World.afterProcess_newClient : (w.afterProcess h r).newClient = w.newClient := rfl
@[simp] theorem World.afterProcess_spawning : (w.afterProcess h r).spawning = w.spawning := rfl

end Fields

/-! ## runServer -/

/-- The `accept` of the accept loop returns `clientSocket`, a descriptor not
open, and the loop puts it in its `NewClient` variable. -/
def acceptClient (clientSocket : Nat) (w : World) : Option World :=
  if w.accepting ∧ ¬w.spawning ∧ w.listening ∧ clientSocket ≠ w.shared.serverSocket ∧
      clientSocket ∉ w.openSockets then
    some { w with
      newClient := clientSocket
      spawning := true
      openSockets := w.openSockets ++ [clientSocket] }
  else none

/-- The rest of the iteration: `pthread_create` starts handler thread
`threadID` with a pointer to `NewClient`; the first iteration
(`totalConnections == 0`) also starts the monitor and the broadcaster; then
`totalConnections++`. The new thread's ID is not that of a thread still
running. -/
def createClientHandler (threadID : Nat) (w : World) : Option World :=
  if w.spawning ∧ threadID ∉ (w.handlers.filter Handler.isLive).map Handler.threadID then
    let first := w.totalConnections == 0
    some { w with
      spawning := false
      handlers := w.handlers ++ [⟨threadID, 0, [], .starting⟩]
      monitor := if first then .waiting else w.monitor
      broadcaster := if first then .waiting else w.broadcaster
      totalConnections := w.totalConnections + 1 }
  else none

/-- `accept` fails and the loop ends. -/
def acceptFailed (w : World) : Option World :=
  if w.accepting ∧ ¬w.spawning then some { w with accepting := false } else none

/-- `cleanUpServer` after the loop: `msgctl(IPC_RMID)` removes the message
queue with the Broadcasts on it, and the listening socket is closed. -/
def cleanUpServer (w : World) : Option World :=
  if ¬w.accepting ∧ ¬w.queueRemoved then some { w with queueRemoved := true, listening := false }
  else none

/-! ## clientHandler -/

/-- The start of `clientHandler`: the socket read through the `NewClient`
pointer, then `getClientIP` (`none` when it fails: the socket is closed and
the thread exits). -/
def clientHandlerStart (i : Nat) (clientIP : Option (List Char)) (w : World) : Option World := do
  let h ← w.handlers[i]?
  match h.phase, clientIP with
  | .starting, some ip =>
    some (w.setHandler i { h with clientSocket := w.newClient, clientIP := ip, phase := .registering })
  | .starting, none =>
    some ((w.setHandler i { h with clientSocket := w.newClient, phase := .closed }).close w.newClient)
  | _, _ => none

/-- `processMessage(..., IS_REGISTRATION)` on the frame `read` returned; on
anything but `MESSAGE_PROCESS_SUCCESS` the socket is closed and the thread
exits. -/
def clientHandlerRegister (i : Nat) (frame : Option (List Char)) (w : World) : Option World := do
  let h ← w.handlers[i]?
  match h.phase with
  | .registering => do
    let r ← processMessage h.clientSocket h.clientIP h.threadID w.shared true frame
    if r.retVal = messageProcessSuccess then
      some ((w.afterProcess h r).setHandler i { h with phase := .registered })
    else
      some (((w.afterProcess h r).setHandler i { h with phase := .closed }).close h.clientSocket)
  | _ => none

/-- One iteration of the message loop: `processMessage(..., IS_MESSAGE)` on the
frame `read` returned; anything but `MESSAGE_PROCESS_SUCCESS` ends the loop.
Its `msgsnd`s may leave it blocked on the full queue (`World.sendToQueue`). -/
def clientHandlerMessage (i : Nat) (frame : Option (List Char)) (w : World) : Option World := do
  let h ← w.handlers[i]?
  match h.phase with
  | .registered => do
    let r ← processMessage h.clientSocket h.clientIP h.threadID w.shared false frame
    let phase := if r.retVal = messageProcessSuccess then .registered else .quitting r.retVal
    some (((w.afterProcess h r).sendToQueue i r.enqueued).setHandler i { h with phase := phase })
  | _ => none

/-- The blocked `msgsnd` of handler `i` returns: with an error once
`cleanUpServer` has removed the queue, and so do the ones after it; or once
the broadcaster's `msgrcv` has made room, and the handler sends on. -/
def clientHandlerResume (i : Nat) (w : World) : Option World :=
  match w.sending with
  | some (j, bs) =>
    if j = i ∧ (w.queueRemoved ∨ w.queue.length < queueCapacity) then
      some ({ w with sending := none }.sendToQueue i bs)
    else none
  | none => none

/-- After the message loop: `findThreadIDInList` and `removeFromList` under the
mutex, then `close`. -/
def clientHandlerCleanUp (i : Nat) (w : World) : Option World := do
  let h ← w.handlers[i]?
  match h.phase with
  | .quitting _ => do
    let sd ← removeClient h.threadID w.shared
    some (({ w with shared := sd }.setHandler i { h with phase := .closed }).close h.clientSocket)
  | _ => none

/-! ## clientConnectionMonitor and chatBroadcaster -/

/-- One iteration of a loop of `clientConnectionMonitor`, under the mutex: the
first loop waits for `numClients > 0`; the second, on `numClients <= 0`, closes
the listening socket and clears `serverIsRunning`. -/
def clientConnectionMonitorStep (w : World) : Option World :=
  match w.monitor with
  | .waiting => some { w with monitor := if 0 < w.shared.numClients then .running else .waiting }
  | .running =>
    if w.shared.numClients ≤ 0 then
      some { w with
        listening := false
        shared := { w.shared with serverIsRunning := false }
        monitor := .stopped }
    else some w
  | _ => none

/-- One step of `chatBroadcaster`: the first loop waits for `numClients > 0`;
the second tests `numClients` without the mutex and stops on `<= 0`, then
polls the queue (`IPC_NOWAIT`), and stops when `msgrcv` fails otherwise than
on an empty queue, as it does on a removed one; then it sends the Broadcast it
received to the socket of every slot below `numClients`, under the mutex. -/
def chatBroadcasterStep (w : World) : Option World :=
  match w.broadcaster with
  | .waiting =>
    some { w with broadcaster := if 0 < w.shared.numClients then .checking else .waiting }
  | .checking =>
    some { w with broadcaster := if w.shared.numClients ≤ 0 then .stopped else .receiving }
  | .receiving =>
    if w.queueRemoved then some { w with broadcaster := .stopped }
    else match w.queue with
      | [] => some { w with broadcaster := .checking }
      | b :: rest => some { w with queue := rest, broadcaster := .fanningOut b }
  | .fanningOut b => do
    let clients ← readClients w.shared.connectedClients 0 w.shared.numClients.toNat
    some { w with
      writes := w.writes ++ clients.map (·.clientSocket, b)
      broadcaster := .checking }
  | _ => none

/-! ## Runs -/

/-- One atomic step of one thread; handlers are named by their place in
`World.handlers`. -/
inductive Action
  | accept (clientSocket : Nat)
  | createHandler (threadID : Nat)
  | acceptFail
  | cleanUp
  | handlerStart (i : Nat) (clientIP : Option (List Char))
  | handlerRegister (i : Nat) (frame : Option (List Char))
  | handlerMessage (i : Nat) (frame : Option (List Char))
  | handlerResume (i : Nat)
  | handlerCleanUp (i : Nat)
  | monitor
  | broadcaster
deriving DecidableEq

/-- The step of the action, the mutex aside. -/
def Action.run : Action → World → Option World
  | .accept clientSocket => acceptClient clientSocket
  | .createHandler threadID => createClientHandler threadID
  | .acceptFail => acceptFailed
  | .cleanUp => cleanUpServer
  | .handlerStart i clientIP => clientHandlerStart i clientIP
  | .handlerRegister i frame => clientHandlerRegister i frame
  | .handlerMessage i frame => clientHandlerMessage i frame
  | .handlerResume i => clientHandlerResume i
  | .handlerCleanUp i => clientHandlerCleanUp i
  | .monitor => clientConnectionMonitorStep
  | .broadcaster => chatBroadcasterStep

/-- The steps that lock the mutex: the failure branch of the accept loop, a
`processMessage` past its check of the frame, the clean-up removal, every
iteration of the monitor, and the broadcaster's first loop and fan-out. -/
def Action.locksMutex (w : World) : Action → Bool
  | .acceptFail | .handlerCleanUp _ | .monitor => true
  | .handlerRegister _ frame | .handlerMessage _ frame => frameOK frame
  | .broadcaster =>
    match w.broadcaster with
    | .waiting | .fanningOut _ => true
    | _ => false
  | _ => false

/-- The handler whose thread takes the step, but for the return of a blocked
`msgsnd`. -/
def Action.handler? : Action → Option Nat
  | .handlerStart i _ | .handlerRegister i _ | .handlerMessage i _ | .handlerCleanUp i => some i
  | _ => none

/-- While a handler holds the mutex in a blocked `msgsnd`, a step that locks
the mutex waits, and the handler itself takes no other step. -/
def Action.isBlocked (w : World) (a : Action) : Bool :=
  match w.sending with
  | none => false
  | some (i, _) => a.locksMutex w || a.handler? == some i

/-- The world after an action, or `none` when the action cannot run. -/
def step (a : Action) (w : World) : Option World :=
  if a.isBlocked w then none else a.run w

/-- Actions one after another: a schedule of the threads. -/
def runActions : List Action → World → Option World
  | [], w => some w
  | a :: rest, w => (step a w).bind (runActions rest)

/-- `w'` follows `w` by some schedule. -/
def Reaches (w w' : World) : Prop := ∃ acts, runActions acts w = some w'

/-- A world some schedule of the server started on `serverSocket` reaches. -/
def Reachable (serverSocket : Nat) (w : World) : Prop := Reaches (World.init serverSocket) w

end ChatSystem
