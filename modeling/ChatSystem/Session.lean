/-
ChatSystem.Session — the two ends of a connection together: what the chat
client makes of what the server writes, over every run of the server.

* Every Broadcast the server writes is a reply of `sendServerMessage` or a part
  of a chat message whose user ID passed the check of `processMessage`, and is
  quote-free as long as the peers' addresses are (`WireInv`). So the failure
  test of `main` and `output_handler`, on a `recv` that starts with one of its
  frames, fires exactly on the `>>failed<<` reply
  (`failure_test_matches_failed_reply`), and a client that reads the frames
  written on its socket one per `recv` goes on past the first exactly when it
  is not `>>failed<<`, then shows every later one, in order, up to the next
  `>>failed<<` (`client_shows_server_frames`).
* A registration step writes one reply or none on the handler's socket, and
  closes the socket when it writes none, so the client's `recv` returns 0. The
  client's `main` goes on exactly when the handler entered its message loop
  (`registration_handshake`).
* A registered handler whose reads return the frames `input_handler` sends
  puts each line typed before `>>bye<<` on the queue, in order, and leaves its
  loop on `>>bye<<`, when the queue has room for them; when it has not, it
  fills the queue and blocks in `msgsnd`. What is typed after `>>bye<<` is
  never sent (`chat_session`).
* A handler blocked in `msgsnd` holds the registry mutex that the broadcaster
  needs to fan out before its next `msgrcv`: once the broadcaster waits for it
  with the queue full, the server is deadlocked, and this is reachable
  (`full_queue_deadlock`).
* `output_handler` marks a Broadcast `>>` when its user ID is the client's
  `currentUserID`, the first `CLIENT_USERID_LENGTH - 1` characters of the user
  ID; the server gives the client's chat the first `CLIENT_USERID_LENGTH`, read
  up to a double quote (`own_lines_direction`). So a client's own lines come
  back marked `>>` exactly when its user ID, free of double quotes, is shorter
  than `CLIENT_USERID_LENGTH` (`keptUserID_eq_currentUserID_iff`).
-/
import ChatSystem.Display
import ChatSystem.Client

namespace ChatSystem

/-! ## 1. The frames the server writes, at the client -/

theorem takeWhile_congr_of_mem {α : Type} {p q : α → Bool} :
    ∀ {l : List α}, (∀ a ∈ l, p a = q a) → l.takeWhile p = l.takeWhile q
  | [], _ => rfl
  | a :: l, h => by
    rw [List.takeWhile_cons, List.takeWhile_cons, h a (List.mem_cons_self _ _),
      takeWhile_congr_of_mem fun x hx => h x (List.mem_cons_of_mem _ hx)]

/-- In every run of the server whose peers' addresses hold no double quote,
the failure test of `main` and `output_handler`, on a `recv` that starts with
the frame of a write, whatever follows it, fires exactly when the write is the
`>>failed<<` reply: no chat line read from the start of its frame makes a
client quit. -/
theorem failure_test_matches_failed_reply {serverSocket : Nat} {acts : List Action} {w : World}
    (hrun : runActions acts (World.init serverSocket) = some w) (hips : ∀ a ∈ acts, a.QuoteFreeIP) :
    ∀ p ∈ w.writes, ∀ rest : List Char,
      isFailureReply (outputHandlerBroadcast (broadcastToJson p.2 ++ rest)) = true ↔
        p.2 = serverBroadcast serverRegistrationFailMsg := by
  intro p hp rest
  have hs := (WireInv.runActions acts (WireInv.init serverSocket) hips hrun).writes p hp
  rw [hs.decode_frame]
  exact hs.isFailureReply_iff

/-- Client `A` registers and says `hi`; the broadcaster fans it out. -/
def chatRun : List Action :=
  [.accept 4, .createHandler 1, .handlerStart 0 (some "10.0.0.1".toList),
   .handlerRegister 0 (clientFrame "A" ">>hello<<"), .handlerMessage 0 (clientFrame "A" "hi"),
   .broadcaster, .broadcaster, .broadcaster, .broadcaster]

/-- The world `chatRun` reaches from a server on socket 3. -/
def chatWorld : World := (runActions chatRun (World.init 3)).getD (World.init 3)

example : chatWorld.writes.map (fun p => (p.1, p.2.message.chars)) =
    [(4, ">>success<<".toList), (4, "hi".toList)] := by decide

theorem failure_test_matches_failed_reply_chat :
    runActions chatRun (World.init 3) = some chatWorld ∧ (∀ a ∈ chatRun, a.QuoteFreeIP) ∧
      ∀ p ∈ chatWorld.writes, ∀ rest : List Char,
        isFailureReply (outputHandlerBroadcast (broadcastToJson p.2 ++ rest)) = true ↔
          p.2 = serverBroadcast serverRegistrationFailMsg :=
  have hrun : runActions chatRun (World.init 3) = some chatWorld := rfl
  have hips : ∀ a ∈ chatRun, a.QuoteFreeIP := by decide
  ⟨hrun, hips, failure_test_matches_failed_reply hrun hips⟩

/-- In every run of the server whose peers' addresses hold no double quote, a
chat client that reads frames written on its socket, one per `recv`, goes on
after the first exactly when it is not the `>>failed<<` reply, and then adds
to its history the line of each later frame, in order, up to the next
`>>failed<<` reply, and is still reading when there is none. -/
theorem client_shows_server_frames {serverSocket : Nat} {acts : List Action} {w : World}
    (hrun : runActions acts (World.init serverSocket) = some w) (hips : ∀ a ∈ acts, a.QuoteFreeIP)
    (clientSocket : Nat) (userID : List Char) (b : Broadcast) (bs : List Broadcast)
    (hbs : ∀ b' ∈ b :: bs, (clientSocket, b') ∈ w.writes) (times : List Tm)
    (hl : times.length = bs.length) :
    chatClient userID (broadcastToJson b) ((bs.map broadcastToJson).zip times) =
      if b = serverBroadcast serverRegistrationFailMsg then none
      else some (historyRun (List.zipWith (broadcastLine (currentUserIDOf userID))
          (bs.takeWhile fun b' => b' ≠ serverBroadcast serverRegistrationFailMsg) times),
        decide (serverBroadcast serverRegistrationFailMsg ∉ bs)) := by
  have hi := WireInv.runActions acts (WireInv.init serverSocket) hips hrun
  have hs : ∀ b' ∈ b :: bs, b'.Sendable := fun b' hb' => hi.writes _ (hbs b' hb')
  have hsb := hs b (List.mem_cons_self _ _)
  have hss : ∀ b' ∈ bs, b'.Sendable := fun b' hb' => hs b' (List.mem_cons_of_mem _ hb')
  have haccept := hsb.registrationAccepted_iff []
  rw [List.append_nil] at haccept
  unfold chatClient
  by_cases hf : b = serverBroadcast serverRegistrationFailMsg
  · rw [if_neg (by rw [haccept]; exact not_not_intro hf), if_pos hf]
  · rw [if_pos (haccept.mpr hf), if_neg hf,
      outputHandler_frames _ bs _ times (fun b' hb' => by simpa using (hss b' hb').decode_frame []) hl,
      takeWhile_congr_of_mem (q := fun b' => decide (b' ≠ serverBroadcast serverRegistrationFailMsg))
        fun b' hb' => (hss b' hb').not_isFailureReply]
    congr
    rw [Bool.eq_iff_iff, List.all_eq_true, decide_eq_true_iff]
    exact ⟨fun h hm => absurd (h _ hm) (by decide), fun h b' hb' => by
      rw [(hss b' hb').not_isFailureReply, decide_eq_true_iff]
      exact fun e => h (e ▸ hb')⟩

/-- The Broadcast of `A`'s `hi`. -/
def hiBroadcast : Broadcast := ⟨CStr.ofList _ "10.0.0.1".toList, CStr.ofList _ "A".toList, CStr.ofList _ "hi".toList⟩

theorem client_shows_server_frames_chat :
    runActions chatRun (World.init 3) = some chatWorld ∧ (∀ a ∈ chatRun, a.QuoteFreeIP) ∧
      (∀ b' ∈ [serverBroadcast serverRegistrationSuccessMsg, hiBroadcast], (4, b') ∈ chatWorld.writes) ∧
      [(⟨12, 0, 0⟩ : Tm)].length = [hiBroadcast].length ∧
      chatClient "A".toList (broadcastToJson (serverBroadcast serverRegistrationSuccessMsg))
          (([hiBroadcast].map broadcastToJson).zip [⟨12, 0, 0⟩]) =
        if serverBroadcast serverRegistrationSuccessMsg = serverBroadcast serverRegistrationFailMsg then none
        else some (historyRun (List.zipWith (broadcastLine (currentUserIDOf "A".toList))
            ([hiBroadcast].takeWhile fun b' => b' ≠ serverBroadcast serverRegistrationFailMsg)
            [⟨12, 0, 0⟩]),
          decide (serverBroadcast serverRegistrationFailMsg ∉ [hiBroadcast])) :=
  have hrun : runActions chatRun (World.init 3) = some chatWorld := rfl
  have hips : ∀ a ∈ chatRun, a.QuoteFreeIP := by decide
  have hbs : ∀ b' ∈ [serverBroadcast serverRegistrationSuccessMsg, hiBroadcast],
      (4, b') ∈ chatWorld.writes := by decide
  ⟨hrun, hips, hbs, rfl, client_shows_server_frames hrun hips 4 "A".toList _ _ hbs _ rfl⟩

/-! ## 2. The registration exchange -/

/-- From every reachable world, a registration step writes at most one reply,
on its handler's socket, and closes that socket when it writes none; the
client's `main`, on the reply or on the `recv` of 0 that the closed socket
gives, goes on exactly when the handler entered its message loop. -/
theorem registration_handshake {serverSocket : Nat} {w w' : World} (hw : Reachable serverSocket w)
    {i : Nat} {frame : Option (List Char)} (h : step (.handlerRegister i frame) w = some w') :
    ∃ hd replies, w.handlers[i]? = some hd ∧ replies.length ≤ 1 ∧
      w'.writes = w.writes ++ replies.map (hd.clientSocket, ·) ∧
      (replies = [] → w'.openSockets = w.openSockets.erase hd.clientSocket) ∧
      (registrationAccepted ((replies.map broadcastToJson).headD []) = true ↔
        (w'.handlers[i]?).map Handler.phase = some .registered) := by
  have hc := (ServerInv.reachable hw).registry.toCompact
  obtain ⟨hd, r, hhd, -, hr, rfl⟩ := clientHandlerRegister_some h
  obtain ⟨r', hr', -, hcases⟩ :=
    processMessage_registration_replies hc hd.clientSocket hd.clientIP hd.threadID frame
  obtain rfl := Option.some_injective _ (hr.symm.trans hr')
  have hlt : i < w.handlers.length := (List.getElem?_eq_some_iff.mp hhd).1
  have hreply : ∀ msg, QuoteFree msg → (serverBroadcast msg).FromServer →
      (registrationAccepted (broadcastToJson (serverBroadcast msg)) = true ↔
        serverBroadcast msg ≠ serverBroadcast serverRegistrationFailMsg) := fun msg hq hf => by
    have := (Broadcast.Sendable.mk (quoteFree_serverBroadcast hq) hf).registrationAccepted_iff []
    rwa [List.append_nil] at this
  have hwrites : ∀ hd' : Handler, ((w.afterProcess hd r).setHandler i hd').writes =
      w.writes ++ r.replies.map (hd.clientSocket, ·) := fun _ => rfl
  refine ⟨hd, r.replies, hhd, ?_⟩
  rcases hcases with ⟨hs, -, -, hrep⟩ | ⟨hs, -, hrep⟩
  · rw [if_pos hs]
    refine ⟨by simp [hrep], hwrites _, fun e => absurd (hrep ▸ e) (by simp), ?_⟩
    simp only [hrep, List.map_cons, List.map_nil, List.headD_cons, World.setHandler_handlers,
      World.afterProcess_handlers, List.getElem?_set_self hlt, Option.map_some', iff_true]
    exact (hreply _ (by decide) (.inl rfl)).mpr (by decide)
  · rw [if_neg hs]
    have hphase : ((((w.afterProcess hd r).setHandler i { hd with phase := .closed }).close
        hd.clientSocket).handlers[i]?).map Handler.phase = some .closed := by
      simp [List.getElem?_set_self hlt]
    rw [hphase]
    refine ⟨?_, hwrites { hd with phase := .closed }, fun _ => rfl, ?_⟩
    all_goals rcases hrep with hrep | ⟨hrep, -⟩ <;> rw [hrep]
    · simp
    · simp
    · simp only [List.map_cons, List.map_nil, List.headD_cons]
      rw [hreply _ (by decide) (.inr (.inl rfl))]
      simp
    · simp [registrationAccepted]

/-- Client `A`'s handler, started, about to register. -/
def registeringWorld : World := (runActions (chatRun.take 3) (World.init 3)).getD (World.init 3)

theorem registration_handshake_chat :
    Reachable 3 registeringWorld ∧
      step (.handlerRegister 0 (clientFrame "A" ">>hello<<")) registeringWorld =
        some ((runActions (chatRun.take 4) (World.init 3)).getD (World.init 3)) ∧
      ∃ hd replies, registeringWorld.handlers[0]? = some hd ∧ replies.length ≤ 1 ∧
        ((runActions (chatRun.take 4) (World.init 3)).getD (World.init 3)).writes =
          registeringWorld.writes ++ replies.map (hd.clientSocket, ·) ∧
        (replies = [] → ((runActions (chatRun.take 4) (World.init 3)).getD (World.init 3)).openSockets =
          registeringWorld.openSockets.erase hd.clientSocket) ∧
        (registrationAccepted ((replies.map broadcastToJson).headD []) = true ↔
          (((runActions (chatRun.take 4) (World.init 3)).getD (World.init 3)).handlers[0]?).map
            Handler.phase = some .registered) :=
  have hw : Reachable 3 registeringWorld := ⟨chatRun.take 3, rfl⟩
  have h : step (.handlerRegister 0 (clientFrame "A" ">>hello<<")) registeringWorld =
      some ((runActions (chatRun.take 4) (World.init 3)).getD (World.init 3)) := by decide
  ⟨hw, h, registration_handshake hw h⟩

/-! ## 3. The direction of a client's own lines -/

/-- The `%5[^"]` scan reads only as far as its width. -/
theorem scanSet_take {n k : Nat} (h : n ≤ k) (s : List Char) : scanSet n (s.take k) = scanSet n s :=
  CStr.ext_chars (by
    simp only [scanSet, CStr.ofList_chars, ← List.take_takeWhile, cstr_take, List.take_take,
      Nat.min_eq_left h])

/-- `processMessage` reads the user ID of a frame that starts with it as
`jsonToClientMessage` reads it from the whole frame: the read buffer cuts the
frame only far past the user ID. -/
theorem decodeFrame_userID (rest : List Char) :
    (decodeFrame (some ('\x7b' :: (clientUserIDKey ++ rest)))).clientUserID =
      scanSet clientUserIDLength (cstr rest) := by
  have hk : NulFree clientUserIDKey := by decide
  have hlen : clientUserIDKey.length = 16 := rfl
  rw [decodeFrame_some, cstr_cons_of_ne (by decide), cstr_append_of_nulFree hk,
    show jsonLength = 255 + 1 from rfl, List.take_succ_cons, List.take_append_eq_append_take,
    List.take_of_length_le (by rw [hlen]; omega), hlen, jsonToClientMessage_userID, cstr_take_cstr,
    scanSet_take (by decide)]

theorem decodeFrame_inputHandlerFrame_userID {message : CStr clientMessageLength}
    (hm : message.chars ≠ serverQuitMsg) (userID : List Char) (stack : StackBytes) :
    (decodeFrame (some (inputHandlerFrame userID message stack))).clientUserID =
      (jsonToClientMessage (inputHandlerFrame userID message stack)).clientUserID := by
  have hm : ¬ message.chars = ">>bye<<".toList := hm
  rw [inputHandlerFrame, if_neg hm, clientMessageBytesToJson]
  simp only [List.append_assoc, List.cons_append, decodeFrame_userID, jsonToClientMessage_userID]

/-- Every Broadcast the server enqueues for a line of `input_handler` comes
back to the client that typed it marked `>>` when the user ID the server kept
(its first `CLIENT_USERID_LENGTH` characters, read up to a double quote) is
the client's `currentUserID` (its first `CLIENT_USERID_LENGTH - 1`), and `<<`
when it is not. -/
theorem own_lines_direction {userID : List Char} {message : CStr clientMessageLength}
    (hquit : message.chars ≠ serverQuitMsg) (stack : StackBytes) {clientSocket : Nat}
    {clientIP : List Char} {threadID : Nat} {sd : SharedData} {r : ProcessResult}
    (hr : processMessage clientSocket clientIP threadID sd false
      (some (inputHandlerFrame userID message stack)) = some r) :
    ∀ b ∈ r.enqueued, messageDirection (currentUserIDOf userID) b =
      if ((cstr userID).take clientUserIDLength).takeWhile (· != '"') = currentUserIDOf userID
      then ">>".toList else "<<".toList := by
  intro b hb
  rcases (processMessage_outputs hr).2 with he | ⟨-, he⟩
  · simp [he] at hb
  rw [he] at hb
  rw [messageDirection, (sendMessageToQueue_origin hb).2, decodeFrame_inputHandlerFrame_userID hquit,
    inputHandlerFrame_userID_scan userID hquit]

/-- The user ID `ab"cd`: the server keeps `ab`, the client's `currentUserID`
is `ab"c`, so its own line `hi` comes back marked `<<`. -/
theorem own_lines_direction_quote :
    (CStr.ofList clientMessageLength "hi".toList).chars ≠ serverQuitMsg ∧
      processMessage 4 "10.0.0.1".toList 1 (initSharedMemory 3) false
          (some (inputHandlerFrame "ab\"cd".toList (CStr.ofList _ "hi".toList) ⟨'x', 'y', []⟩)) =
        some ⟨messageProcessSuccess, initSharedMemory 3, [], sendMessageToQueue "10.0.0.1".toList
          ⟨CStr.ofList _ "ab".toList, CStr.ofList _ "hi".toList⟩⟩ ∧
      ∀ b ∈ sendMessageToQueue "10.0.0.1".toList ⟨CStr.ofList _ "ab".toList, CStr.ofList _ "hi".toList⟩,
        messageDirection (currentUserIDOf "ab\"cd".toList) b =
          if ((cstr "ab\"cd".toList).take clientUserIDLength).takeWhile (· != '"') =
              currentUserIDOf "ab\"cd".toList
          then ">>".toList else "<<".toList :=
  have hquit : (CStr.ofList clientMessageLength "hi".toList).chars ≠ serverQuitMsg := by decide
  have hr : processMessage 4 "10.0.0.1".toList 1 (initSharedMemory 3) false
      (some (inputHandlerFrame "ab\"cd".toList (CStr.ofList _ "hi".toList) ⟨'x', 'y', []⟩)) =
      some ⟨messageProcessSuccess, initSharedMemory 3, [], sendMessageToQueue "10.0.0.1".toList
        ⟨CStr.ofList _ "ab".toList, CStr.ofList _ "hi".toList⟩⟩ := by decide
  ⟨hquit, hr, own_lines_direction hquit _ hr⟩

/-- For a user ID free of double quotes, the server keeps the client's
`currentUserID` exactly when the user ID is shorter than
`CLIENT_USERID_LENGTH`. -/
theorem keptUserID_eq_currentUserID_iff {userID : List Char}
    (hq : QuoteFree ((cstr userID).take clientUserIDLength)) :
    ((cstr userID).take clientUserIDLength).takeWhile (· != '"') = currentUserIDOf userID ↔
      (cstr userID).length < clientUserIDLength := by
  rw [show ((cstr userID).take clientUserIDLength).takeWhile (· != '"') = (cstr userID).take clientUserIDLength
    by simpa using takeWhile_quote_append hq [], currentUserIDOf]
  constructor
  · intro e
    by_contra hlong
    have := congrArg List.length e
    simp only [List.length_take, clientUserIDLength] at this hlong
    omega
  · intro hshort
    rw [List.take_of_length_le hshort.le,
      List.take_of_length_le (by simp only [clientUserIDLength] at hshort ⊢; omega)]

example : messageDirection (currentUserIDOf "alice".toList)
    ⟨CStr.ofList _ "10.0.0.1".toList, CStr.ofList _ "alice".toList, CStr.ofList _ "hi".toList⟩ =
      "<<".toList := by decide

/-! ## 4. The command line -/

/-- `parseArguments(argc, argv, userID, userIDSize, serverName, serverNameSize)`
on `argv[1..]`: an argument that starts with `-user` sets the user ID to what
follows it, one that starts with `-server` the server name, each copied by
`strncpy` of `size - 1` characters and a NUL, so a later argument overwrites an
earlier one. -/
def parseArguments (userIDSize serverNameSize : Nat) :
    List (List Char) → List Char × List Char → List Char × List Char
  | [], names => names
  | arg :: args, (userID, serverName) =>
    parseArguments userIDSize serverNameSize args
      (if strncmpEq arg "-user".toList 5 then ((CStr.ofList (userIDSize - 1) (arg.drop 5)).chars, serverName)
      else if strncmpEq arg "-server".toList 7 then
        (userID, (CStr.ofList (serverNameSize - 1) (arg.drop 7)).chars)
      else (userID, serverName))

/-- The user ID and the server name of `main`: `parseArguments` into its two
zeroed `char[256]`. -/
def commandLine (args : List (List Char)) : List Char × List Char := parseArguments 256 256 args ([], [])

/-- The user ID comes from the last argument that starts with `-user`. -/
theorem parseArguments_userID (userIDSize serverNameSize : Nat) :
    ∀ (args : List (List Char)) (names : List Char × List Char),
      (parseArguments userIDSize serverNameSize args names).1 =
        ((args.reverse.find? fun arg => strncmpEq arg "-user".toList 5).map fun arg =>
          (CStr.ofList (userIDSize - 1) (arg.drop 5)).chars).getD names.1
  | [], _ => rfl
  | arg :: args, (userID, serverName) => by
    rw [parseArguments, parseArguments_userID, List.reverse_cons, List.find?_append]
    cases args.reverse.find? fun arg => strncmpEq arg "-user".toList 5
    · simp only [Option.none_or, List.find?_singleton]
      by_cases hu : strncmpEq arg "-user".toList 5 = true
      · rw [if_pos hu, if_pos hu]; rfl
      · rw [if_neg hu, if_neg hu]; split <;> rfl
    · rfl

/-- The server registers, and the client takes as its `currentUserID`, the
same user ID: the first `CLIENT_USERID_LENGTH - 1` characters after `-user` in
the last argument that starts with `-user`, whatever the stack held. -/
theorem commandLine_registration (args : List (List Char)) (stack : StackBytes)
    (hq : QuoteFree ((cstr (commandLine args).1).take (clientUserIDLength - 1))) :
    (decodeFrame (some (registrationFrame (commandLine args).1 stack))).clientUserID.chars =
        currentUserIDOf (commandLine args).1 ∧
      currentUserIDOf (commandLine args).1 =
        ((args.reverse.find? fun arg => strncmpEq arg "-user".toList 5).map fun arg =>
          (cstr (arg.drop 5)).take (clientUserIDLength - 1)).getD [] := by
  refine ⟨registrationFrame_userID hq stack, ?_⟩
  rw [currentUserIDOf, commandLine, parseArguments_userID]
  cases args.reverse.find? fun arg => strncmpEq arg "-user".toList 5
  · rfl
  · simp only [Option.map_some', Option.getD_some, CStr.ofList_chars, cstr_take_cstr, List.take_take]
    rfl

theorem commandLine_registration_bob :
    QuoteFree ((cstr (commandLine ["-useralice".toList, "-serverhost".toList, "-userbob".toList]).1).take
        (clientUserIDLength - 1)) ∧
      (decodeFrame (some (registrationFrame
          (commandLine ["-useralice".toList, "-serverhost".toList, "-userbob".toList]).1 ⟨'x', 'y', []⟩))).clientUserID.chars =
        currentUserIDOf (commandLine ["-useralice".toList, "-serverhost".toList, "-userbob".toList]).1 ∧
      currentUserIDOf (commandLine ["-useralice".toList, "-serverhost".toList, "-userbob".toList]).1 =
        ((["-useralice".toList, "-serverhost".toList, "-userbob".toList].reverse.find? fun arg =>
            strncmpEq arg "-user".toList 5).map fun arg =>
          (cstr (arg.drop 5)).take (clientUserIDLength - 1)).getD [] :=
  have hq : QuoteFree ((cstr (commandLine ["-useralice".toList, "-serverhost".toList,
      "-userbob".toList]).1).take (clientUserIDLength - 1)) := by decide
  ⟨hq, commandLine_registration _ _ hq⟩

example : commandLine ["-useralice".toList, "-serverhost".toList, "-userbob".toList] =
    ("bob".toList, "host".toList) := by decide

/-! ## 5. A chat session -/

/-- The message steps of handler `i` on the frames its reads return, one each. -/
def messageSteps (i : Nat) (frames : List (List Char)) : List Action :=
  frames.map fun frame => .handlerMessage i (some frame)

/-- The Broadcasts `sendMessageToQueue` makes of the chat lines of a user ID,
with the IP of its handler. -/
def lineBroadcasts (clientIP userID : List Char) (lines : List (CStr clientMessageLength × StackBytes)) :
    List Broadcast :=
  lines.flatMap fun l => sendMessageToQueue clientIP ⟨CStr.ofList _ (cstr userID), l.1⟩

section ChatSession

variable {w : World} {i : Nat} {hd : Handler} {userID : List Char}

theorem step_chatLine (hi : ServerInv w) (hs : w.sending = none) (hhd : w.handlers[i]? = some hd)
    (hp : hd.phase = .registered)
    (hu : (cstr userID).length < clientUserIDLength) (hq : QuoteFree (cstr userID))
    (hne : cstr userID ≠ []) (hws : isWhitespace (cstr userID) = false)
    {message : CStr clientMessageLength} (hm : QuoteFree message.chars)
    (hquit : message.chars ≠ serverQuitMsg) (stack : StackBytes) :
    step (.handlerMessage i (some (inputHandlerFrame userID message stack))) w =
      some (((w.afterProcess hd ⟨messageProcessSuccess, w.shared, [],
          sendMessageToQueue hd.clientIP ⟨CStr.ofList _ (cstr userID), message⟩⟩).sendToQueue i
        (sendMessageToQueue hd.clientIP ⟨CStr.ofList _ (cstr userID), message⟩)).setHandler i hd) := by
  obtain ⟨-, hdec⟩ := inputHandlerFrame_decode hu hq hm hquit stack
  have hchars : (CStr.ofList clientUserIDLength (cstr userID)).chars = cstr userID :=
    CStr.ofList_of_fits (nulFree_cstr _) hu.le
  have hf : frameOK (some (inputHandlerFrame userID message stack)) = true := by
    simp only [frameOK, hdec, hchars, hws, Option.isSome_some, Bool.not_false, Bool.and_true,
      Bool.true_and, bne_iff_ne, ne_eq, List.length_eq_zero, hne, not_false_eq_true]
  have hr := processMessage_message hf hi.registry.toCompact hd.clientSocket hd.clientIP hd.threadID
  rw [hdec, if_neg hquit] at hr
  have hself : { hd with phase := .registered } = hd := by cases hd; cases hp; rfl
  simp only [step_of_sending_none hs, Action.run, clientHandlerMessage, hhd, hp, hr, Option.bind_eq_bind,
    Option.some_bind, if_true, hself]

/-- A message step of a registered handler on the raw `>>bye<<`: the loop ends
with `MESSAGE_PROCESS_FAILED`, and nothing is sent or enqueued. -/
theorem step_quitLine (hs : w.sending = none) (hhd : w.handlers[i]? = some hd) (hp : hd.phase = .registered)
    {message : CStr clientMessageLength} (hquit : message.chars = serverQuitMsg) (stack : StackBytes) :
    step (.handlerMessage i (some (inputHandlerFrame userID message stack))) w =
      some ((w.afterProcess hd ⟨messageProcessFailed, w.shared, [], []⟩).setHandler i
        { hd with phase := .quitting messageProcessFailed }) := by
  have hr := processMessage_quitLine hd.clientSocket hd.clientIP hd.threadID w.shared
  have hne : ¬ messageProcessFailed = messageProcessSuccess := by decide
  simp only [inputHandlerFrame_quit hquit, step_of_sending_none hs, Action.run, clientHandlerMessage, hhd, hp,
    hr, Option.bind_eq_bind, Option.some_bind, hne, if_false]
  rfl

/-- A handler blocked in `msgsnd` reads no further frame. -/
theorem runActions_messageSteps_blocked {rest : List Broadcast} (hs : w.sending = some (i, rest))
    {ls : List (CStr clientMessageLength × StackBytes)} (hls : ls ≠ []) :
    runActions (messageSteps i (inputHandler userID ls)) w = none := by
  obtain ⟨⟨message, st⟩, ls, rfl⟩ := List.exists_cons_of_ne_nil hls
  simp only [inputHandler, messageSteps, List.map_cons, runActions,
    step_of_sending_self (a := .handlerMessage i _) hs rfl, Option.none_bind]

/-- A registered handler that reads the same chat frame `n` times puts `n`
copies of its Broadcasts on a queue with room for them. -/
theorem runActions_replicate_chatLine (hu : (cstr userID).length < clientUserIDLength)
    (hq : QuoteFree (cstr userID)) (hne : cstr userID ≠ []) (hws : isWhitespace (cstr userID) = false)
    {message : CStr clientMessageLength} (hm : QuoteFree message.chars) (hquit : message.chars ≠ serverQuitMsg)
    (stack : StackBytes) :
    ∀ (n : Nat) {w : World}, ServerInv w → w.sending = none → w.queueRemoved = false →
      w.handlers[i]? = some hd → hd.phase = .registered →
      w.queue.length + n * (sendMessageToQueue hd.clientIP ⟨CStr.ofList _ (cstr userID), message⟩).length ≤
        queueCapacity →
      runActions (List.replicate n (.handlerMessage i (some (inputHandlerFrame userID message stack)))) w =
        some { w with queue := w.queue ++
          (List.replicate n (sendMessageToQueue hd.clientIP ⟨CStr.ofList _ (cstr userID), message⟩)).flatten }
  | 0, w, _, _, _, _, _, _ => by
    simp only [List.replicate_zero, List.flatten_nil, List.append_nil]; rfl
  | n + 1, w, hi, hs, hr, hhd, hp, hroom => by
    have hstep := step_chatLine hi hs hhd hp hu hq hne hws hm hquit stack
    set bl := sendMessageToQueue hd.clientIP ⟨CStr.ofList _ (cstr userID), message⟩ with hbl
    rw [Nat.succ_mul] at hroom
    rw [World.sendToQueue_of_room (w := w.afterProcess hd _) i hr (by simp only [World.afterProcess_queue]; omega)]
      at hstep
    -- the step only appends the line's Broadcasts
    have hw₁ : ({ w.afterProcess hd ⟨messageProcessSuccess, w.shared, [], bl⟩ with
        queue := (w.afterProcess hd ⟨messageProcessSuccess, w.shared, [], bl⟩).queue ++ bl }).setHandler i hd =
        { w with queue := w.queue ++ bl } := by
      simp [World.setHandler, World.afterProcess, set_of_getElem? hhd]
    rw [hw₁] at hstep
    rw [List.replicate_succ, runActions, hstep, Option.some_bind,
      runActions_replicate_chatLine hu hq hne hws hm hquit stack n (hi.of_step hstep) hs hr hhd hp
        (by rw [← hbl, List.length_append]; omega)]
    simp [List.replicate_succ, List.flatten_cons, List.append_assoc]

/-- A registered handler whose reads return, one each, the frames `input_handler`
sends for the lines typed up to `>>bye<<` (those typed later are never sent),
from a world where no handler is blocked in `msgsnd` and the queue exists.
When the queue has room for the Broadcasts of every line before `>>bye<<`,
they go on it, in order, as `sendMessageToQueue` makes them with the handler's
IP and the user ID; the registry and the writes are left alone, and `>>bye<<`
ends the loop with `MESSAGE_PROCESS_FAILED`. When it has not, the handler
fills the queue with the first of them, in order, and blocks in `msgsnd`
holding the mutex: its own steps go no further. -/
theorem chat_session (hu : (cstr userID).length < clientUserIDLength) (hq : QuoteFree (cstr userID))
    (hne : cstr userID ≠ []) (hws : isWhitespace (cstr userID) = false)
    (bye : CStr clientMessageLength) (hbye : bye.chars = serverQuitMsg) (stack : StackBytes)
    (later : List (CStr clientMessageLength × StackBytes)) :
    ∀ (lines : List (CStr clientMessageLength × StackBytes)) {w : World},
      ServerInv w → w.sending = none → w.queueRemoved = false →
      w.handlers[i]? = some hd → hd.phase = .registered →
      (∀ l ∈ lines, QuoteFree l.1.chars ∧ l.1.chars ≠ serverQuitMsg) →
      (w.queue.length + (lineBroadcasts hd.clientIP userID lines).length ≤ queueCapacity →
        ∃ w', runActions (messageSteps i (inputHandler userID (lines ++ (bye, stack) :: later))) w = some w' ∧
          w'.queue = w.queue ++ lineBroadcasts hd.clientIP userID lines ∧
          w'.shared = w.shared ∧ w'.writes = w.writes ∧
          w'.handlers[i]? = some { hd with phase := .quitting messageProcessFailed }) ∧
      (queueCapacity < w.queue.length + (lineBroadcasts hd.clientIP userID lines).length →
        runActions (messageSteps i (inputHandler userID (lines ++ (bye, stack) :: later))) w = none ∧
        ∃ k w', runActions ((messageSteps i (inputHandler userID (lines ++ (bye, stack) :: later))).take k) w =
            some w' ∧
          w'.queue = w.queue ++ (lineBroadcasts hd.clientIP userID lines).take (queueCapacity - w.queue.length) ∧
          (∃ rest, w'.sending = some (i, rest)) ∧ w'.shared = w.shared ∧ w'.writes = w.writes)
  | [], w, hi, hs, _, hhd, hp, _ => by
    have hlt : i < w.handlers.length := (List.getElem?_eq_some_iff.mp hhd).1
    have hstep : runActions (messageSteps i (inputHandler userID ([] ++ (bye, stack) :: later))) w =
        some ((w.afterProcess hd ⟨messageProcessFailed, w.shared, [], []⟩).setHandler i
          { hd with phase := .quitting messageProcessFailed }) := by
      simp only [List.nil_append, inputHandler, show bye.chars = ">>bye<<".toList from hbye, if_true,
        messageSteps, List.map_cons, List.map_nil, runActions, step_quitLine hs hhd hp hbye stack,
        Option.some_bind]
    refine ⟨fun _ => ⟨_, hstep, by simp [lineBroadcasts], rfl,
      by simp, by simp [List.getElem?_set_self hlt]⟩, fun hover => ?_⟩
    have := hi.queue_le
    simp only [lineBroadcasts, List.flatMap_nil, List.length_nil, Nat.add_zero] at hover
    omega
  | (message, st) :: lines, w, hi, hs, hr, hhd, hp, hlines => by
    obtain ⟨hm, hquit⟩ := hlines _ (List.mem_cons_self _ _)
    have hstep := step_chatLine hi hs hhd hp hu hq hne hws hm hquit st
    set bl := sendMessageToQueue hd.clientIP ⟨CStr.ofList _ (cstr userID), message⟩ with hbl
    have hlt : i < w.handlers.length := (List.getElem?_eq_some_iff.mp hhd).1
    have hsteps : messageSteps i (inputHandler userID (((message, st) :: lines) ++ (bye, stack) :: later)) =
        .handlerMessage i (some (inputHandlerFrame userID message st)) ::
          messageSteps i (inputHandler userID (lines ++ (bye, stack) :: later)) := by
      rw [List.cons_append, messageSteps, inputHandler,
        if_neg (show ¬ message.chars = ">>bye<<".toList from hquit)]
      rfl
    have hbs : lineBroadcasts hd.clientIP userID ((message, st) :: lines) =
        bl ++ lineBroadcasts hd.clientIP userID lines := List.flatMap_cons _ _ _
    have hle := hi.queue_le
    rw [hsteps, hbs, List.length_append]
    by_cases hroom : w.queue.length + bl.length ≤ queueCapacity
    · -- the line's Broadcasts go on the queue; the rest of the session runs from there
      rw [World.sendToQueue_of_room (w := w.afterProcess hd _) i hr hroom] at hstep
      obtain ⟨hroom', hover'⟩ := chat_session hu hq hne hws bye hbye stack later lines (hi.of_step hstep) hs hr
        (by simp [List.getElem?_set_self hlt]) hp
        fun l hl => hlines l (List.mem_cons_of_mem _ hl)
      refine ⟨fun hall => ?_, fun hover => ?_⟩
      · obtain ⟨w', hrun, hqueue, hshared, hwrites, hhd'⟩ :=
          hroom' (by simp only [World.setHandler_queue, World.afterProcess_queue, List.length_append]; omega)
        refine ⟨w', by rw [runActions, hstep, Option.some_bind]; exact hrun, ?_, hshared, ?_, hhd'⟩
        · rw [hqueue]; simp
        · rw [hwrites]; simp
      · obtain ⟨hnone, k, w', hrun, hqueue, hsend, hshared, hwrites⟩ :=
          hover' (by simp only [World.setHandler_queue, World.afterProcess_queue, List.length_append]; omega)
        refine ⟨by rw [runActions, hstep, Option.some_bind]; exact hnone, k + 1, w', ?_, ?_, hsend, hshared,
          by rw [hwrites]; simp⟩
        · rw [List.take_succ_cons, runActions, hstep, Option.some_bind]; exact hrun
        · rw [hqueue]
          simp only [World.setHandler_queue, World.afterProcess_queue, List.length_append]
          rw [List.append_assoc, List.take_append_eq_append_take, List.take_of_length_le (l := bl) (by omega),
            Nat.sub_sub]
    · -- the queue fills in the middle of the line, and the handler blocks
      have hover : queueCapacity < w.queue.length + bl.length := by omega
      rw [World.sendToQueue_of_overflow (w := w.afterProcess hd _) i hr hle hover] at hstep
      refine ⟨fun hall => by omega, fun _ => ⟨?_, 1, ?_⟩⟩
      · rw [runActions, hstep, Option.some_bind]
        exact runActions_messageSteps_blocked rfl (by simp)
      · rw [List.take_succ_cons, List.take_zero, runActions, hstep, Option.some_bind]
        refine ⟨_, rfl, ?_, ⟨_, rfl⟩, rfl, by simp⟩
        show w.queue ++ _ = _
        rw [List.take_append_of_le_length (by omega)]
        rfl

end ChatSession

/-- `A`, registered on socket 4, types `hi`, then `>>bye<<`, then `late`. -/
def registeredAWorld : World := (runActions (chatRun.take 4) (World.init 3)).getD (World.init 3)

theorem chat_session_hi :
    (cstr "A".toList).length < clientUserIDLength ∧ QuoteFree (cstr "A".toList) ∧ cstr "A".toList ≠ [] ∧
      isWhitespace (cstr "A".toList) = false ∧
      (CStr.ofList clientMessageLength ">>bye<<".toList).chars = serverQuitMsg ∧
      ServerInv registeredAWorld ∧ registeredAWorld.sending = none ∧ registeredAWorld.queueRemoved = false ∧
      registeredAWorld.handlers[0]? = some ⟨1, 4, "10.0.0.1".toList, .registered⟩ ∧
      (⟨1, 4, "10.0.0.1".toList, .registered⟩ : Handler).phase = .registered ∧
      (∀ l ∈ [(CStr.ofList clientMessageLength "hi".toList, (⟨'x', 'y', []⟩ : StackBytes))],
        QuoteFree l.1.chars ∧ l.1.chars ≠ serverQuitMsg) ∧
      (registeredAWorld.queue.length + (lineBroadcasts "10.0.0.1".toList "A".toList
          [(CStr.ofList clientMessageLength "hi".toList, (⟨'x', 'y', []⟩ : StackBytes))]).length ≤ queueCapacity →
        ∃ w', runActions (messageSteps 0 (inputHandler "A".toList
            ([(CStr.ofList clientMessageLength "hi".toList, (⟨'x', 'y', []⟩ : StackBytes))] ++
              (CStr.ofList _ ">>bye<<".toList, ⟨'x', 'y', []⟩) ::
                [(CStr.ofList _ "late".toList, ⟨'x', 'y', []⟩)]))) registeredAWorld = some w' ∧
          w'.queue = registeredAWorld.queue ++ lineBroadcasts "10.0.0.1".toList "A".toList
            [(CStr.ofList clientMessageLength "hi".toList, (⟨'x', 'y', []⟩ : StackBytes))] ∧
          w'.shared = registeredAWorld.shared ∧ w'.writes = registeredAWorld.writes ∧
          w'.handlers[0]? = some { (⟨1, 4, "10.0.0.1".toList, .registered⟩ : Handler) with
            phase := .quitting messageProcessFailed }) ∧
      (queueCapacity < registeredAWorld.queue.length + (lineBroadcasts "10.0.0.1".toList "A".toList
          [(CStr.ofList clientMessageLength "hi".toList, (⟨'x', 'y', []⟩ : StackBytes))]).length →
        runActions (messageSteps 0 (inputHandler "A".toList
            ([(CStr.ofList clientMessageLength "hi".toList, (⟨'x', 'y', []⟩ : StackBytes))] ++
              (CStr.ofList _ ">>bye<<".toList, ⟨'x', 'y', []⟩) ::
                [(CStr.ofList _ "late".toList, ⟨'x', 'y', []⟩)]))) registeredAWorld = none ∧
        ∃ k w', runActions ((messageSteps 0 (inputHandler "A".toList
            ([(CStr.ofList clientMessageLength "hi".toList, (⟨'x', 'y', []⟩ : StackBytes))] ++
              (CStr.ofList _ ">>bye<<".toList, ⟨'x', 'y', []⟩) ::
                [(CStr.ofList _ "late".toList, ⟨'x', 'y', []⟩)]))).take k) registeredAWorld = some w' ∧
          w'.queue = registeredAWorld.queue ++ (lineBroadcasts "10.0.0.1".toList "A".toList
            [(CStr.ofList clientMessageLength "hi".toList, (⟨'x', 'y', []⟩ : StackBytes))]).take
              (queueCapacity - registeredAWorld.queue.length) ∧
          (∃ rest, w'.sending = some (0, rest)) ∧ w'.shared = registeredAWorld.shared ∧
          w'.writes = registeredAWorld.writes) :=
  have hu : (cstr "A".toList).length < clientUserIDLength := by decide
  have hq : QuoteFree (cstr "A".toList) := by decide
  have hne : cstr "A".toList ≠ [] := by decide
  have hws : isWhitespace (cstr "A".toList) = false := by decide
  have hbye : (CStr.ofList clientMessageLength ">>bye<<".toList).chars = serverQuitMsg := by decide
  have hi : ServerInv registeredAWorld :=
    ServerInv.reachable (show Reachable 3 registeredAWorld from ⟨chatRun.take 4, rfl⟩)
  have hs : registeredAWorld.sending = none := by decide
  have hr : registeredAWorld.queueRemoved = false := by decide
  have hhd : registeredAWorld.handlers[0]? = some ⟨1, 4, "10.0.0.1".toList, .registered⟩ := by decide
  have hlines : ∀ l ∈ [(CStr.ofList clientMessageLength "hi".toList, (⟨'x', 'y', []⟩ : StackBytes))],
      QuoteFree l.1.chars ∧ l.1.chars ≠ serverQuitMsg := by decide
  ⟨hu, hq, hne, hws, hbye, hi, hs, hr, hhd, rfl, hlines,
    chat_session hu hq hne hws _ hbye _ _ _ hi hs hr hhd rfl hlines⟩

/-! ## 6. A handler blocked on the full queue -/

/-- A handler blocked in `msgsnd` on the full queue, with the registry mutex
that `processMessage` took, while the broadcaster has taken a Broadcast off the
queue and waits for that mutex to fan it out, and the accept loop runs. -/
structure QueueDeadlock (w : World) : Prop where
  blocked : ∃ i rest, w.sending = some (i, rest)
  full : queueCapacity ≤ w.queue.length
  fanningOut : ∃ b, w.broadcaster = .fanningOut b
  accepting : w.accepting = true

/-- The accept loop runs, so `cleanUpServer` has not removed the queue. -/
theorem ServerInv.queueRemoved_of_queueDeadlock {w : World} (hi : ServerInv w) (hd : QueueDeadlock w) :
    w.queueRemoved = false := by
  cases hq : w.queueRemoved
  · rfl
  · exact absurd hd.accepting (by simp [hi.removed hq])

/-- The blocked `msgsnd` finds no room and no removed queue. -/
theorem ServerInv.resume_none_of_queueDeadlock {w : World} (hi : ServerInv w) (hd : QueueDeadlock w)
    (j : Nat) : step (.handlerResume j) w = none := by
  cases h : step (.handlerResume j) w with
  | none => rfl
  | some w' =>
    obtain ⟨bs, -, hroom, -⟩ := clientHandlerResume_some h
    have := hd.full
    simp only [hi.queueRemoved_of_queueDeadlock hd, Bool.false_eq_true, false_or] at hroom
    omega

/-- No step leaves the deadlock: a step that locks the mutex waits, the blocked
`msgsnd` does not return, and every other step changes neither the queue nor
the shared data. -/
theorem ServerInv.queueDeadlock_step {w w' : World} (hi : ServerInv w) (hd : QueueDeadlock w) {a : Action}
    (h : step a w = some w') :
    QueueDeadlock w' ∧ w'.sending = w.sending ∧ w'.queue = w.queue ∧ w'.shared = w.shared ∧
      w'.broadcaster = w.broadcaster := by
  obtain ⟨i, rest, hs⟩ := hd.blocked
  have hlock : a.locksMutex w = false := by
    cases hl : a.locksMutex w
    · rfl
    · simp [step_of_locksMutex hs hl] at h
  cases a with
  | accept => obtain ⟨-, -, -, -, rfl⟩ := acceptClient_some h; exact ⟨{ hd with }, rfl, rfl, rfl, rfl⟩
  | createHandler =>
    obtain ⟨-, -, rfl⟩ := createClientHandler_some h
    -- the broadcaster runs, so it was started by an earlier connection
    have h0 : w.totalConnections ≠ 0 := fun h0 => by
      obtain ⟨b, hb⟩ := hd.fanningOut; simp [(hi.started h0).2] at hb
    refine ⟨{ hd with fanningOut := ?_ }, rfl, rfl, rfl, if_neg h0⟩
    show ∃ b, (if w.totalConnections = 0 then _ else _) = _
    rw [if_neg h0]; exact hd.fanningOut
  | cleanUp => exact absurd hd.accepting (by simp [(cleanUpServer_some h).1])
  | handlerStart =>
    obtain ⟨-, -, -, ⟨_, -, rfl⟩ | ⟨-, rfl⟩⟩ := clientHandlerStart_some h <;>
      exact ⟨{ hd with }, rfl, rfl, rfl, rfl⟩
  | handlerRegister _ frame =>
    obtain ⟨hh, r, -, -, hr, rfl⟩ := clientHandlerRegister_some h
    rw [processMessage_rejected hlock] at hr
    cases hr
    exact ⟨{ hd with }, rfl, rfl, rfl, rfl⟩
  | handlerMessage _ frame =>
    obtain ⟨hh, r, -, -, hr, rfl⟩ := clientHandlerMessage_some h
    rw [processMessage_rejected hlock] at hr
    cases hr
    exact ⟨{ hd with }, rfl, rfl, rfl, rfl⟩
  | handlerResume j => simp [hi.resume_none_of_queueDeadlock hd j] at h
  | broadcaster =>
    obtain ⟨b, hb⟩ := hd.fanningOut
    simp [Action.locksMutex, hb] at hlock
  | acceptFail | handlerCleanUp | monitor => cases hlock

/-- A handler blocked in `msgsnd` on the full queue, while the broadcaster waits
for the registry mutex the handler holds, deadlocks the server: from then on
the handler stays blocked with the same Broadcasts to send, the queue, the
shared data and the broadcaster never change, no step that locks the mutex
runs, and the blocked `msgsnd` never returns. -/
theorem full_queue_deadlock {serverSocket : Nat} {w w' : World} (hw : Reachable serverSocket w)
    (hd : QueueDeadlock w) (hr : Reaches w w') :
    w'.sending = w.sending ∧ w'.queue = w.queue ∧ w'.shared = w.shared ∧ w'.broadcaster = w.broadcaster ∧
      (∀ a : Action, a.locksMutex w' = true → step a w' = none) ∧
      ∀ i, step (.handlerResume i) w' = none := by
  have hstep : ∀ {a : Action} {v v' : World}, ServerInv v →
      QueueDeadlock v ∧ v.sending = w.sending ∧ v.queue = w.queue ∧ v.shared = w.shared ∧
        v.broadcaster = w.broadcaster → step a v = some v' →
      QueueDeadlock v' ∧ v'.sending = w.sending ∧ v'.queue = w.queue ∧ v'.shared = w.shared ∧
        v'.broadcaster = w.broadcaster := by
    rintro a v v' hv ⟨hd, hs, hq, hsh, hb⟩ h
    obtain ⟨hd', hs', hq', hsh', hb'⟩ := hv.queueDeadlock_step hd h
    exact ⟨hd', hs'.trans hs, hq'.trans hq, hsh'.trans hsh, hb'.trans hb⟩
  obtain ⟨hi', hd', hs, hq, hsh, hb⟩ :=
    Reaches.of_invariant hstep (ServerInv.reachable hw) ⟨hd, rfl, rfl, rfl, rfl⟩ hr
  obtain ⟨i, rest, hsend⟩ := hd'.blocked
  exact ⟨hs, hq, hsh, hb, fun a ha => step_of_locksMutex hsend ha, hi'.resume_none_of_queueDeadlock hd'⟩

/-- `A` registers and the broadcaster starts polling the queue. -/
def deadlockStartRun : List Action :=
  [.accept 4, .createHandler 1, .handlerStart 0 (some "10.0.0.1".toList),
   .handlerRegister 0 (clientFrame "A" ">>hello<<"), .broadcaster, .broadcaster]

def deadlockStartWorld : World := (runActions deadlockStartRun (World.init 3)).getD (World.init 3)

/-- The frames `input_handler` sends for the lines `a` and `the quick brown
fox jumps over the lazy dog`, which makes two Broadcasts. -/
def shortLineFrame : List Char := inputHandlerFrame "A".toList (CStr.ofList _ "a".toList) ⟨'x', 'y', []⟩
def longLineFrame : List Char :=
  inputHandlerFrame "A".toList (CStr.ofList _ "the quick brown fox jumps over the lazy dog".toList) ⟨'x', 'y', []⟩

/-- `A` fills the queue with `a`s; the broadcaster takes one off and waits for
the mutex to fan it out; `A` sends a line of two Broadcasts and blocks on the
second. -/
def deadlockRun : List Action :=
  deadlockStartRun ++ List.replicate queueCapacity (.handlerMessage 0 (some shortLineFrame)) ++
    [.broadcaster, .handlerMessage 0 (some longLineFrame)]

/-- The queue full of `a`s. -/
def fullQueueWorld : World :=
  { deadlockStartWorld with
    queue := deadlockStartWorld.queue ++ (List.replicate queueCapacity
      (sendMessageToQueue "10.0.0.1".toList ⟨CStr.ofList _ (cstr "A".toList), CStr.ofList _ "a".toList⟩)).flatten }

def deadlockWorld : World :=
  (runActions [.broadcaster, .handlerMessage 0 (some longLineFrame)] fullQueueWorld).getD fullQueueWorld

theorem runActions_deadlockRun : runActions deadlockRun (World.init 3) = some deadlockWorld := by
  have hstart : runActions deadlockStartRun (World.init 3) = some deadlockStartWorld := rfl
  have hfill : runActions (List.replicate queueCapacity (.handlerMessage 0 (some shortLineFrame)))
      deadlockStartWorld = some fullQueueWorld :=
    runActions_replicate_chatLine (show (cstr "A".toList).length < clientUserIDLength by decide)
      (by decide) (by decide) (by decide)
      (show QuoteFree (CStr.ofList clientMessageLength "a".toList).chars by decide) (by decide) _ _
      (ServerInv.reachable ⟨deadlockStartRun, hstart⟩) (by decide) (by decide)
      (show deadlockStartWorld.handlers[0]? = some ⟨1, 4, "10.0.0.1".toList, .registered⟩ by decide) rfl
      (by decide)
  rw [deadlockRun, runActions_append, runActions_append, hstart, Option.some_bind, hfill, Option.some_bind]
  rfl

set_option maxRecDepth 4000 in
theorem queueDeadlock_deadlockWorld : QueueDeadlock deadlockWorld where
  blocked := ⟨0, _, rfl⟩
  full := by decide
  fanningOut := ⟨_, rfl⟩
  accepting := rfl

/-- `B` connects after the deadlock; its handler starts. -/
def joinAfterDeadlockRun : List Action :=
  [.accept 5, .createHandler 2, .handlerStart 1 (some "10.0.0.2".toList)]

def joinedWorld : World := (runActions joinAfterDeadlockRun deadlockWorld).getD deadlockWorld

set_option maxRecDepth 4000 in
theorem full_queue_deadlock_joined :
    Reachable 3 deadlockWorld ∧ QueueDeadlock deadlockWorld ∧ Reaches deadlockWorld joinedWorld ∧
      joinedWorld.sending = deadlockWorld.sending ∧ joinedWorld.queue = deadlockWorld.queue ∧
      joinedWorld.shared = deadlockWorld.shared ∧ joinedWorld.broadcaster = deadlockWorld.broadcaster ∧
      (∀ a : Action, a.locksMutex joinedWorld = true → step a joinedWorld = none) ∧
      ∀ i, step (.handlerResume i) joinedWorld = none :=
  have h₁ : Reachable 3 deadlockWorld := ⟨deadlockRun, runActions_deadlockRun⟩
  have h₂ : Reaches deadlockWorld joinedWorld := ⟨joinAfterDeadlockRun, rfl⟩
  ⟨h₁, queueDeadlock_deadlockWorld, h₂, full_queue_deadlock h₁ queueDeadlock_deadlockWorld h₂⟩

end ChatSystem
