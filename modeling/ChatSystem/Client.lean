/-
ChatSystem.Client — the frames the chat client sends (`main` and
`input_handler`), and what the server's `processMessage` reads of them.

The client fills a `struct ClientMessage` on its stack with `strncpy` and
encodes it with `clientMessageToJson`, whose `%s` conversions read each array
up to its first NUL. `strncpy(dst, src, n)` writes exactly `n` bytes: the
string cut at `n` characters, then NUL padding, so a string of `n` characters
or more gets no NUL. The bytes the code leaves unwritten (the last byte of each
array) and the bytes after the struct are `StackBytes`; every theorem here
holds whatever they are.

* `main` copies the user ID with `CLIENT_USERID_LENGTH - 1` and writes a NUL
  after both arrays: its frame is the encoding of the user ID's first four
  characters and `>>hello<<` (`registrationFrame_eq`).
* `input_handler` copies with `CLIENT_USERID_LENGTH` and
  `CLIENT_MESSAGE_LENGTH` and writes no NUL after either array, so the server
  reads the first five characters of the user ID, up to a double quote
  (`inputHandlerFrame_userID_scan`), one more than it registered
  (`registrationFrame_userID`). A line of
  `CLIENT_MESSAGE_LENGTH` characters is read on past its array, and the `%80`
  conversion cuts it back. The line `>>bye<<` is sent raw, not as JSON, and
  `processMessage` answers it `MESSAGE_PROCESS_FAILED` (`processMessage_quitLine`).
* For a user ID of at most four characters, with no double quote in it or in
  the line, a chat frame decodes to the registered user ID and the line,
  whatever the stack held (`chatFrame_matches_registration`).

What is not modelled: the ncurses windows (a line is any terminated string of
at most `CLIENT_MESSAGE_LENGTH` characters, which is what `wgetnstr` returns), a
failing `send`, and the 256-byte `malloc` of `clientMessageToJson`: a frame
longer than that, which `sprintf` would write past the allocation, is kept
whole.
-/
import ChatSystem.Framing

namespace ChatSystem

/-! ## 1. A struct ClientMessage on the client's stack -/

/-- The `n` bytes `strncpy(dst, src, n)` writes: the string `src`, cut at `n`
characters and padded with NULs. -/
def strncpy (src : List Char) (n : Nat) : List Char :=
  (cstr src).take n ++ List.replicate (n - (cstr src).length) '\x00'

/-- What the client's code leaves unwritten in a `struct ClientMessage` on its
stack (the last byte of each array) and the bytes after the struct: whatever
the stack held. -/
structure StackBytes where
  userIDLast : Char
  messageLast : Char
  beyond : List Char

/-- `clientMessageToJson` on the bytes of the two arrays: each `%s` reads from
the start of its array to the first NUL, past the end of the array when it
holds none. -/
def clientMessageBytesToJson (userIDBytes messageBytes beyond : List Char) : List Char :=
  '\x7b' :: clientUserIDKey ++ cstr (userIDBytes ++ messageBytes ++ beyond) ++ '"' :: ',' ::
    messageKey ++ cstr (messageBytes ++ beyond) ++ ['"', '\x7d']

/-! ## 2. What the client sends -/

/-- The frame `main` sends to register, for the user ID of the command line:
`strncpy(clientMsg.clientUserID, userID, CLIENT_USERID_LENGTH - 1)` and a NUL
after it, then the message `>>hello<<`, copied twice with a NUL after each. -/
def registrationFrame (userID : List Char) (stack : StackBytes) : List Char :=
  let helloMessage := strncpy ">>hello<<".toList clientMessageLength ++ ['\x00']
  clientMessageBytesToJson (strncpy userID (clientUserIDLength - 1) ++ ['\x00', stack.userIDLast])
    (strncpy helloMessage clientMessageLength ++ ['\x00']) stack.beyond

/-- What `input_handler` sends for a line `message`: the line itself when it
is `>>bye<<`, otherwise the JSON of a struct whose arrays were filled by
`strncpy(…, CLIENT_USERID_LENGTH)` and `strncpy(…, CLIENT_MESSAGE_LENGTH)`,
with no NUL written after them. -/
def inputHandlerFrame (userID : List Char) (message : CStr clientMessageLength)
    (stack : StackBytes) : List Char :=
  if message.chars = ">>bye<<".toList then message.chars
  else clientMessageBytesToJson (strncpy userID clientUserIDLength ++ [stack.userIDLast])
    (strncpy message.chars clientMessageLength ++ [stack.messageLast]) stack.beyond

/-- The loop of `input_handler` on the lines typed, each with what the stack
held when its struct was filled: the frame of each line, up to and including
`>>bye<<`, after which the loop ends. -/
def inputHandler (userID : List Char) : List (CStr clientMessageLength × StackBytes) → List (List Char)
  | [] => []
  | (message, stack) :: rest =>
    inputHandlerFrame userID message stack ::
      if message.chars = ">>bye<<".toList then [] else inputHandler userID rest

/-! ## 3. The frames, read as strings -/

/-- A string shorter than the copy is followed by a NUL, which ends `%s`. -/
theorem cstr_strncpy_of_lt {src : List Char} {n : Nat} (h : (cstr src).length < n)
    (rest : List Char) : cstr (strncpy src n ++ rest) = cstr src := by
  obtain ⟨k, hk⟩ : ∃ k, n - (cstr src).length = k + 1 :=
    ⟨_, (Nat.succ_pred_eq_of_pos (by omega)).symm⟩
  rw [strncpy, List.take_of_length_le (by omega), hk, List.replicate_succ, List.append_assoc,
    cstr_append_of_nulFree (nulFree_cstr src)]
  simp

/-- A string as long as the copy leaves no NUL: `%s` reads on past it. -/
theorem cstr_strncpy_of_le {src : List Char} {n : Nat} (h : n ≤ (cstr src).length)
    (rest : List Char) : cstr (strncpy src n ++ rest) = (cstr src).take n ++ cstr rest := by
  rw [strncpy, Nat.sub_eq_zero_of_le h, List.replicate_zero, List.append_nil,
    cstr_append_of_nulFree fun hm => nulFree_cstr src (List.mem_of_mem_take hm)]

/-- A copy followed by a NUL reads back as the string cut at the copy's length. -/
theorem cstr_strncpy_nul (src : List Char) (n : Nat) (rest : List Char) :
    cstr (strncpy src n ++ '\x00' :: rest) = (cstr src).take n := by
  by_cases h : (cstr src).length < n
  · rw [cstr_strncpy_of_lt h, List.take_of_length_le h.le]
  · rw [cstr_strncpy_of_le (by omega), cstr_nul_cons, List.append_nil]

/-- A string that fits the copy reads back whole, followed by what `%s` reads
past the array when the string fills it. -/
theorem cstr_strncpy_of_fits {src : List Char} {n : Nat} (h : (cstr src).length ≤ n)
    (rest : List Char) :
    ∃ overrun, cstr (strncpy src n ++ rest) = cstr src ++ overrun ∧ NulFree overrun ∧
      ((cstr src).length = n ∨ overrun = []) := by
  rcases h.lt_or_eq with h | h
  · exact ⟨[], by rw [cstr_strncpy_of_lt h, List.append_nil], List.not_mem_nil _, .inr rfl⟩
  · refine ⟨cstr rest, ?_, nulFree_cstr rest, .inl h⟩
    rw [cstr_strncpy_of_le h.ge, List.take_of_length_le h.le]

/-- A string cut shorter than an array is copied into it whole. -/
theorem CStr.ofList_take_cstr (buf : List Char) {m n : Nat} (h : m ≤ n) :
    (CStr.ofList n ((cstr buf).take m)).chars = (cstr buf).take m := by
  rw [CStr.ofList_chars, cstr_take_cstr, List.take_take, Nat.min_eq_right h]

/-- The registration frame is the encoding of the user ID's first
`CLIENT_USERID_LENGTH - 1` characters and `>>hello<<`, whatever the stack held. -/
theorem registrationFrame_eq (userID : List Char) (stack : StackBytes) :
    registrationFrame userID stack = clientMessageToJson
      ⟨CStr.ofList _ ((cstr userID).take (clientUserIDLength - 1)),
        CStr.ofList _ serverRegistrationMsg⟩ := by
  have hhello : cstr (strncpy ">>hello<<".toList clientMessageLength ++ ['\x00']) =
      serverRegistrationMsg := by
    rw [cstr_strncpy_nul]; rfl
  simp only [registrationFrame, clientMessageBytesToJson, clientMessageToJson, List.append_assoc,
    List.cons_append, List.singleton_append, cstr_strncpy_nul, hhello,
    CStr.ofList_take_cstr _ (Nat.sub_le _ 1), CStr.ofList_chars,
    cstr_of_nulFree nulFree_serverRegistrationMsg]

/-- A chat frame of a user ID shorter than the copy: the user ID, then the
line with what `%s` read past its array. -/
theorem inputHandlerFrame_of_short {userID : List Char} (hu : (cstr userID).length < clientUserIDLength)
    {message : CStr clientMessageLength} (hm : message.chars ≠ serverQuitMsg) (stack : StackBytes) :
    ∃ overrun, inputHandlerFrame userID message stack =
        '\x7b' :: clientUserIDKey ++ cstr userID ++ '"' :: ',' :: messageKey ++
          (message.chars ++ overrun ++ ['"', '\x7d']) ∧ NulFree overrun ∧
      (message.chars.length = clientMessageLength ∨ overrun = []) := by
  have hm : ¬ message.chars = ">>bye<<".toList := hm
  have hfits : (cstr message.chars).length ≤ clientMessageLength := by
    rw [cstr_of_nulFree message.nul_free]; exact message.length_le
  obtain ⟨overrun, ho, hn, hl⟩ := cstr_strncpy_of_fits hfits (stack.messageLast :: stack.beyond)
  rw [cstr_of_nulFree message.nul_free] at ho hl
  refine ⟨overrun, ?_, hn, hl⟩
  rw [inputHandlerFrame, if_neg hm, clientMessageBytesToJson]
  simp only [List.append_assoc, List.singleton_append, List.cons_append, List.nil_append,
    cstr_strncpy_of_lt hu, ho]

/-- A frame is a C string: `send` sends all of it. -/
theorem nulFree_clientMessageBytesToJson (userIDBytes messageBytes beyond : List Char) :
    NulFree (clientMessageBytesToJson userIDBytes messageBytes beyond) := by
  have hk : NulFree ('\x7b' :: clientUserIDKey) ∧ NulFree ('"' :: ',' :: messageKey) ∧
      NulFree ['"', '\x7d'] := by decide
  simp only [clientMessageBytesToJson, ← List.cons_append, nulFree_append, nulFree_cstr, hk, and_self]

/-- What `input_handler` sends is a C string: `send` sends all of it. -/
theorem nulFree_inputHandlerFrame (userID : List Char) (message : CStr clientMessageLength)
    (stack : StackBytes) : NulFree (inputHandlerFrame userID message stack) := by
  rw [inputHandlerFrame]
  split
  · exact message.nul_free
  · exact nulFree_clientMessageBytesToJson _ _ _

/-! ## 4. The server's read -/

/-- The user ID field is the first: it is scanned from right after its key,
whatever follows. -/
theorem jsonToClientMessage_userID (rest : List Char) :
    (jsonToClientMessage ('\x7b' :: (clientUserIDKey ++ rest))).clientUserID =
      scanSet clientUserIDLength (cstr rest) := by
  have hk : NulFree clientUserIDKey := by decide
  have hs : strstr clientUserIDKey ('\x7b' :: (clientUserIDKey ++ cstr rest)) =
      some (clientUserIDKey ++ cstr rest) := by
    rw [strstr_cons, if_neg (by simp [clientUserIDKey_eq, keyOf, List.isPrefixOf]),
      strstr_append_self]
  simp only [jsonToClientMessage, cstr_cons_of_ne (by decide : '\x7b' ≠ '\x00'),
    cstr_append_of_nulFree hk, jsonField, hs, List.drop_left]

/-! ## 5. The user ID the server reads -/

/-- The server registers the first `CLIENT_USERID_LENGTH - 1` characters of the
command line's user ID, whatever the stack held. -/
theorem registrationFrame_userID {userID : List Char}
    (hq : QuoteFree ((cstr userID).take (clientUserIDLength - 1))) (stack : StackBytes) :
    (decodeFrame (some (registrationFrame userID stack))).clientUserID.chars =
      (cstr userID).take (clientUserIDLength - 1) := by
  have hu := CStr.ofList_take_cstr userID (Nat.sub_le clientUserIDLength 1)
  have hhello : QuoteFree (CStr.ofList clientMessageLength serverRegistrationMsg).chars := by decide
  rw [registrationFrame_eq, ← List.append_nil (clientMessageToJson _),
    decodeFrame_clientMessageToJson_append _ (by rwa [hu]) hhello, hu]

/-- A chat frame carries the first `CLIENT_USERID_LENGTH` characters of the user
ID, read up to a double quote, whatever the line and the stack. -/
theorem inputHandlerFrame_userID_scan (userID : List Char) {message : CStr clientMessageLength}
    (hm : message.chars ≠ serverQuitMsg) (stack : StackBytes) :
    (jsonToClientMessage (inputHandlerFrame userID message stack)).clientUserID.chars =
      ((cstr userID).take clientUserIDLength).takeWhile (· != '"') := by
  have hm : ¬ message.chars = ">>bye<<".toList := hm
  have hn : NulFree ((cstr userID).take clientUserIDLength) :=
    fun h => nulFree_cstr userID (List.mem_of_mem_take h)
  rw [inputHandlerFrame, if_neg hm, clientMessageBytesToJson]
  simp only [List.append_assoc, List.cons_append, jsonToClientMessage_userID]
  by_cases h : (cstr userID).length < clientUserIDLength
  · rw [List.take_of_length_le h.le] at hn ⊢
    rw [cstr_strncpy_of_lt h, cstr_append_of_nulFree hn, cstr_cons_of_ne (by decide)]
    exact scanSet_append_takeWhile _ hn h.le (.inr (by simp))
  · rw [cstr_strncpy_of_le (by omega), List.append_assoc, cstr_append_of_nulFree hn]
    exact scanSet_append_takeWhile _ hn (List.length_take_le _ _) (.inl (List.length_take_of_le (by omega)))

/-- A chat frame carries the first `CLIENT_USERID_LENGTH` characters of a user
ID free of double quotes, whatever the line and the stack. -/
theorem inputHandlerFrame_userID {userID : List Char}
    (hq : QuoteFree ((cstr userID).take clientUserIDLength)) {message : CStr clientMessageLength}
    (hm : message.chars ≠ serverQuitMsg) (stack : StackBytes) :
    (jsonToClientMessage (inputHandlerFrame userID message stack)).clientUserID.chars =
      (cstr userID).take clientUserIDLength := by
  rw [inputHandlerFrame_userID_scan userID hm]
  simpa using takeWhile_quote_append hq []

/-- `input_handler` sends the line `>>bye<<` as it is. -/
theorem inputHandlerFrame_quit {message : CStr clientMessageLength}
    (hm : message.chars = serverQuitMsg) (userID : List Char) (stack : StackBytes) :
    inputHandlerFrame userID message stack = serverQuitMsg := by
  rw [inputHandlerFrame, if_pos (show message.chars = ">>bye<<".toList from hm), hm]

/-- The raw `>>bye<<` has no user ID field: `processMessage` fails it and
changes nothing. -/
theorem processMessage_quitLine (clientSocket : Nat) (clientIP : List Char) (threadID : Nat)
    (sd : SharedData) :
    processMessage clientSocket clientIP threadID sd false (some serverQuitMsg) =
      some ⟨messageProcessFailed, sd, [], []⟩ :=
  processMessage_rejected (by decide) ..

/-- A user ID of five characters is registered as four and sent as five, and
`>>bye<<` is answered `MESSAGE_PROCESS_FAILED`, whatever the stack held. -/
theorem chatFrame_userID_longer :
    (∀ stack stack' : StackBytes,
      (decodeFrame (some (registrationFrame "alice".toList stack))).clientUserID.chars =
          "alic".toList ∧
        (jsonToClientMessage (inputHandlerFrame "alice".toList (CStr.ofList _ "hi".toList)
          stack')).clientUserID.chars = "alice".toList) ∧
    ∀ (stack : StackBytes) (sd : SharedData) (clientSocket : Nat) (clientIP : List Char)
      (threadID : Nat),
      processMessage clientSocket clientIP threadID sd false
          (some (inputHandlerFrame "alice".toList (CStr.ofList _ ">>bye<<".toList) stack)) =
        some ⟨messageProcessFailed, sd, [], []⟩ := by
  refine ⟨fun stack stack' => ⟨?_, ?_⟩, fun stack sd clientSocket clientIP threadID => ?_⟩
  · rw [registrationFrame_userID (by decide)]; decide
  · rw [inputHandlerFrame_userID (by decide) (by decide)]; decide
  · rw [inputHandlerFrame_quit (by decide), processMessage_quitLine]

/-! ## 6. User IDs of at most four characters -/

/-- What the server reads of a chat frame whose user ID and line hold no
double quote: the user ID, then the line, cut at `CLIENT_MESSAGE_LENGTH`
characters and followed by the closing quote or by the bytes `%s` read past a
full array; whatever is cut off after the line. -/
theorem jsonToClientMessage_chatFrame {u s overrun : List Char} (hu : QuoteFree u)
    (hun : NulFree u) (hs : QuoteFree s) (hsn : NulFree s) (hl : s.length ≤ clientMessageLength)
    (hfill : s.length = clientMessageLength ∨ overrun = []) (K : Nat) (hK : s.length < K) :
    jsonToClientMessage ('\x7b' :: clientUserIDKey ++ u ++ '"' :: ',' :: messageKey ++
        (s ++ overrun ++ ['"', '\x7d']).take K) = ⟨CStr.ofList _ u, CStr.ofList _ s⟩ := by
  rw [jsonToClientMessage_leading_userID hu hun]
  congr 1
  apply CStr.ext_chars
  rw [List.append_assoc, List.take_append_eq_append_take, List.take_of_length_le hK.le,
    cstr_append_of_nulFree hsn, CStr.ofList_of_fits hsn hl]
  rcases hfill with hfull | rfl
  · exact scanSet_of_length _ hs hsn hfull
  · obtain ⟨k, hk⟩ : ∃ k, K - s.length = k + 1 := ⟨_, (Nat.succ_pred_eq_of_pos (by omega)).symm⟩
    rw [List.nil_append, hk, List.take_succ_cons, cstr_cons_of_ne (by decide)]
    exact scanSet_field _ hs hsn hl

/-- A chat frame of a user ID of at most four characters, both user ID and
line free of double quotes, decodes to the user ID and the line, read whole or
through the server's buffer. -/
theorem inputHandlerFrame_decode {userID : List Char} (hu : (cstr userID).length < clientUserIDLength)
    (hq : QuoteFree (cstr userID)) {message : CStr clientMessageLength} (hm : QuoteFree message.chars)
    (hquit : message.chars ≠ serverQuitMsg) (stack : StackBytes) :
    jsonToClientMessage (inputHandlerFrame userID message stack) =
        ⟨CStr.ofList _ (cstr userID), message⟩ ∧
      decodeFrame (some (inputHandlerFrame userID message stack)) =
        ⟨CStr.ofList _ (cstr userID), message⟩ := by
  obtain ⟨overrun, he, -, hl⟩ := inputHandlerFrame_of_short hu hquit stack
  have hdec := fun K hK => (jsonToClientMessage_chatFrame hq (nulFree_cstr userID) hm
    message.nul_free message.length_le hl K hK).trans (by rw [CStr.ofList_self])
  have hlen : ('\x7b' :: clientUserIDKey ++ cstr userID ++ '"' :: ',' :: messageKey).length =
      30 + (cstr userID).length := by
    have hk : clientUserIDKey.length + messageKey.length = 27 := rfl
    simp only [List.length_cons, List.length_append]; omega
  have hml := message.length_le
  simp only [clientUserIDLength, clientMessageLength] at hu hml
  rw [decodeFrame_some, cstr_of_nulFree (nulFree_inputHandlerFrame _ _ _), he]
  refine ⟨?_, ?_⟩
  · rw [← List.take_length (message.chars ++ overrun ++ _)]
    exact hdec _ (by simp)
  · rw [List.take_append_eq_append_take, List.take_of_length_le (by rw [hlen]; simp [jsonLength]; omega), hlen]
    exact hdec _ (by simp [jsonLength]; omega)

/-- For a user ID of at most `CLIENT_USERID_LENGTH - 1` characters and lines
free of double quotes, every chat frame decodes to the user ID the server
registered from `main`'s frame and to the line, and `processMessage` enqueues
it when the registration passed its check; `>>bye<<` is answered
`MESSAGE_PROCESS_FAILED` with the shared data unchanged. -/
theorem chatFrame_matches_registration {userID : List Char}
    (hu : (cstr userID).length ≤ clientUserIDLength - 1) (hq : QuoteFree (cstr userID))
    {message : CStr clientMessageLength} (hm : QuoteFree message.chars) (stack stack' : StackBytes)
    (hreg : frameOK (some (registrationFrame userID stack')) = true)
    {sd : SharedData} (hc : Compact sd) (clientSocket : Nat) (clientIP : List Char) (threadID : Nat) :
    (message.chars ≠ serverQuitMsg →
      jsonToClientMessage (inputHandlerFrame userID message stack) =
          ⟨(decodeFrame (some (registrationFrame userID stack'))).clientUserID, message⟩ ∧
        processMessage clientSocket clientIP threadID sd false
            (some (inputHandlerFrame userID message stack)) =
          some ⟨messageProcessSuccess, sd, [], sendMessageToQueue clientIP
            ⟨(decodeFrame (some (registrationFrame userID stack'))).clientUserID, message⟩⟩) ∧
    (message.chars = serverQuitMsg →
      processMessage clientSocket clientIP threadID sd false
          (some (inputHandlerFrame userID message stack)) =
        some ⟨messageProcessFailed, sd, [], []⟩) := by
  have hshort : (cstr userID).length < clientUserIDLength := by
    simp only [clientUserIDLength] at hu ⊢; omega
  have hregistered : (decodeFrame (some (registrationFrame userID stack'))).clientUserID =
      CStr.ofList _ (cstr userID) := by
    apply CStr.ext_chars
    rw [registrationFrame_userID (by rwa [List.take_of_length_le hu]) stack',
      List.take_of_length_le hu, CStr.ofList_chars, cstr_of_nulFree (nulFree_cstr _),
      List.take_of_length_le hshort.le]
  rw [hregistered]
  refine ⟨fun hquit => ?_, fun hquit => ?_⟩
  · obtain ⟨hj, hd⟩ := inputHandlerFrame_decode hshort hq hm hquit stack
    have hf : frameOK (some (inputHandlerFrame userID message stack)) = true := by
      rw [← hreg]; simp only [frameOK, hd, hregistered, Option.isSome_some]
    rw [processMessage_message hf hc, hd, if_neg hquit]
    exact ⟨hj, rfl⟩
  · rw [inputHandlerFrame_quit hquit, processMessage_quitLine]

theorem chatFrame_matches_registration_bob :
    (cstr "bob".toList).length ≤ clientUserIDLength - 1 ∧ QuoteFree (cstr "bob".toList) ∧
      QuoteFree (CStr.ofList clientMessageLength "hi".toList).chars ∧
      frameOK (some (registrationFrame "bob".toList ⟨'x', 'y', []⟩)) = true ∧
      Compact (initSharedMemory 3) ∧
      ((CStr.ofList clientMessageLength "hi".toList).chars ≠ serverQuitMsg →
        jsonToClientMessage (inputHandlerFrame "bob".toList (CStr.ofList _ "hi".toList) ⟨'x', 'y', []⟩) =
            ⟨(decodeFrame (some (registrationFrame "bob".toList ⟨'x', 'y', []⟩))).clientUserID,
              CStr.ofList _ "hi".toList⟩ ∧
          processMessage 5 "10.0.0.1".toList 1 (initSharedMemory 3) false
              (some (inputHandlerFrame "bob".toList (CStr.ofList _ "hi".toList) ⟨'x', 'y', []⟩)) =
            some ⟨messageProcessSuccess, initSharedMemory 3, [], sendMessageToQueue "10.0.0.1".toList
              ⟨(decodeFrame (some (registrationFrame "bob".toList ⟨'x', 'y', []⟩))).clientUserID,
                CStr.ofList _ "hi".toList⟩⟩) ∧
      ((CStr.ofList clientMessageLength "hi".toList).chars = serverQuitMsg →
        processMessage 5 "10.0.0.1".toList 1 (initSharedMemory 3) false
            (some (inputHandlerFrame "bob".toList (CStr.ofList _ "hi".toList) ⟨'x', 'y', []⟩)) =
          some ⟨messageProcessFailed, initSharedMemory 3, [], []⟩) :=
  have h₁ : (cstr "bob".toList).length ≤ clientUserIDLength - 1 := by decide
  have h₂ : QuoteFree (cstr "bob".toList) := by decide
  have h₃ : QuoteFree (CStr.ofList clientMessageLength "hi".toList).chars := by decide
  have h₄ : frameOK (some (registrationFrame "bob".toList ⟨'x', 'y', []⟩)) = true := by decide
  have h₅ := (compact_initSharedMemory 3).1
  ⟨h₁, h₂, h₃, h₄, h₅, chatFrame_matches_registration h₁ h₂ h₃ _ _ h₄ h₅ 5 "10.0.0.1".toList 1⟩

end ChatSystem
