/-
ChatSystem.ProcessMessageTheorems — what one critical section of a client
handler does to the registry, and the registry invariant over every
interleaving of them.

`processMessage` is read once, into three equations on a compact table:
a frame that fails the check before the lock changes nothing
(`processMessage_rejected`); a registration appends the client, or changes
nothing (`processMessage_registration`); a message either removes the first
entry with the handler's thread ID or enqueues broadcasts
(`processMessage_message`). The clean-up removal of `clientHandler` is the
same removal (`removeClient_eq`). On the live list a removal is
`List.eraseP` on the thread ID.

`RegistryInv` is the registry invariant: a compact table whose live entries
have pairwise distinct `(clientIP, clientUserID)` pairs and valid user IDs.
Every critical section keeps it (`CriticalSection.run_inv`), so it holds after
any sequence of them from `initSharedMemory`, with no access outside the
array on the way (`registry_invariant_reachable`). Because the critical
sections run under one mutex, a sequence of them is an interleaving.

For the server model, the three equations are restated as the cases a call can
end in, with what each leaves in the registry, the replies and the queue
(`processMessage_registration_cases`, `processMessage_message_cases`). A
registration sends exactly one reply, except a valid one on a full table, which
`addToList` refuses with `TOO_MANY_CLIENTS` and which gets none
(`processMessage_registration_replies`, `processMessage_full_unanswered`).
-/
import Mathlib.Data.List.Nodup
import ChatSystem.ProcessMessage
import ChatSystem.RegistryTheorems

namespace ChatSystem

/-! ## 1. Small facts -/

/-- `strncmp` against a literal, bounded by the literal's `sizeof`, is equality. -/
theorem strncmpEq_sizeof_iff {a b : List Char} (ha : NulFree a) (hb : NulFree b) :
    strncmpEq a b (b.length + 1) = true ↔ a = b := by
  rw [strncmpEq, cstr_of_nulFree ha, cstr_of_nulFree hb, List.take_of_length_le (by omega : b.length ≤ b.length + 1),
    beq_iff_eq]
  constructor
  · intro h
    have hl := congrArg List.length h
    rw [List.length_take] at hl
    rw [← h, List.take_of_length_le (by omega)]
  · rintro rfl; exact List.take_of_length_le (by omega)

/-- A search that finds index `j` from offset `i` points into the list, and
erasing there erases the first match. -/
theorem findIdx?_eraseIdx {α : Type} {p : α → Bool} :
    ∀ (L : List α) (i j : Nat), L.findIdx? p i = some j →
      i ≤ j ∧ j - i < L.length ∧ L.eraseIdx (j - i) = L.eraseP p
  | [], _, _, h => by simp at h
  | a :: L, i, j, h => by
    rw [List.findIdx?_cons] at h
    by_cases ha : p a = true
    · rw [if_pos ha] at h
      cases h
      simp [ha]
    · rw [if_neg ha] at h
      obtain ⟨h1, h2, h3⟩ := findIdx?_eraseIdx L (i + 1) j h
      refine ⟨by omega, by simp; omega, ?_⟩
      rw [show j - i = (j - (i + 1)) + 1 by omega, List.eraseIdx_cons_succ, h3]
      simp [ha]

theorem eraseP_of_findIdx?_none {α : Type} {p : α → Bool} {L : List α}
    (h : L.findIdx? p = none) : L.eraseP p = L :=
  List.eraseP_of_forall_not fun a ha hp => by
    rw [List.findIdx?_eq_none_iff] at h
    simp [h a ha] at hp

/-! ## 2. Reading processMessage -/

/-- The message `processMessage` decodes from what its `read` returned. -/
def decodeFrame (frame : Option (List Char)) : ClientMessage :=
  jsonToClientMessage (readBuffer (frame.getD []))

/-- The check before the lock: the read succeeded and the decoded user ID is
neither empty nor whitespace. -/
def frameOK (frame : Option (List Char)) : Bool :=
  frame.isSome && (decodeFrame frame).clientUserID.chars.length != 0 &&
    !isWhitespace (decodeFrame frame).clientUserID.chars

/-- A frame that fails the check changes nothing; a registration is answered
`>>failed<<`. -/
theorem processMessage_rejected {frame : Option (List Char)} (h : frameOK frame = false)
    (clientSocket : Nat) (clientIP : List Char) (threadID : Nat) (sd : SharedData)
    (isRegistration : Bool) :
    processMessage clientSocket clientIP threadID sd isRegistration frame =
      some ⟨messageProcessFailed, sd,
        if isRegistration then [serverBroadcast serverRegistrationFailMsg] else [], []⟩ := by
  rw [processMessage, if_pos]
  cases frame with
  | none => rfl
  | some f => simpa [frameOK, decodeFrame, or_iff_not_imp_left] using h

theorem foundIndex_beq_notFound (x : Option Nat) :
    (foundIndex x == entryNotFoundOrNull) = decide (x = none) := by
  cases x <;> simp [foundIndex, entryNotFoundOrNull]

theorem nulFree_serverRegistrationMsg : NulFree serverRegistrationMsg := by decide
theorem nulFree_serverQuitMsg : NulFree serverQuitMsg := by decide

/-- The test of the message against a reserved token, as a decided equality. -/
theorem strncmpEq_token {m : CStr n} {token : List Char} (ht : NulFree token) :
    strncmpEq m.chars token (token.length + 1) = decide (m.chars = token) := by
  rw [Bool.eq_iff_iff, strncmpEq_sizeof_iff m.nul_free ht, decide_eq_true_iff]

theorem not_rejected {frame : Option (List Char)} (h : frameOK frame = true) :
    ¬ ((frame.isNone || (decodeFrame frame).clientUserID.chars.length == 0 ||
        isWhitespace (decodeFrame frame).clientUserID.chars) = true) := by
  cases frame <;> simp_all [frameOK]

/-- The registration path on a compact table, past the check: the client is
appended when the message is `>>hello<<`, no live entry has its IP and user
ID, and there is room. -/
theorem processMessage_registration {frame : Option (List Char)} (h : frameOK frame = true)
    {sd : SharedData} (hc : Compact sd) (clientSocket : Nat) (clientIP : List Char)
    (threadID : Nat) :
    processMessage clientSocket clientIP threadID sd true frame =
      some (if (decodeFrame frame).message.chars = serverRegistrationMsg ∧
              (liveClients sd).findIdx? (userMatches clientIP (decodeFrame frame).clientUserID.chars) = none
            then
              if sd.numClients < maxClients then
                ⟨messageProcessSuccess,
                  sd.addClient (newClient threadID clientIP (decodeFrame frame).clientUserID.chars clientSocket),
                  [serverBroadcast serverRegistrationSuccessMsg], []⟩
              else ⟨messageProcessFailed, sd, [], []⟩
            else ⟨registrationFailed, sd, [serverBroadcast serverRegistrationFailMsg], []⟩) := by
  have hr := not_rejected h
  simp only [decodeFrame] at hr ⊢
  rw [processMessage, if_neg hr, if_pos rfl]
  simp only [findUserInList_eq hc, Option.bind_eq_bind, Option.some_bind,
    strncmpEq_token nulFree_serverRegistrationMsg, foundIndex_beq_notFound, Bool.and_eq_true,
    decide_eq_true_eq]
  split
  · split
    · rw [addToList_of_lt hc ‹_›]; rfl
    · rw [addToList_of_full ‹_›]; rfl
  · rfl

/-- The message path on a compact table, past the check: `>>bye<<` removes the
first live entry with the handler's thread ID; anything else is enqueued. -/
theorem processMessage_message {frame : Option (List Char)} (h : frameOK frame = true)
    {sd : SharedData} (hc : Compact sd) (clientSocket : Nat) (clientIP : List Char)
    (threadID : Nat) :
    processMessage clientSocket clientIP threadID sd false frame =
      if (decodeFrame frame).message.chars = serverQuitMsg then
        (removeFromList (foundIndex ((liveClients sd).findIdx? (threadMatches threadID))) sd).map
          fun r => ⟨messageProcessQuit, r.2, [], []⟩
      else some ⟨messageProcessSuccess, sd, [], sendMessageToQueue clientIP (decodeFrame frame)⟩ := by
  have hr := not_rejected h
  simp only [decodeFrame] at hr ⊢
  rw [processMessage, if_neg hr, if_neg Bool.false_ne_true]
  simp only [findThreadIDInList_eq hc, Option.bind_eq_bind, Option.some_bind,
    strncmpEq_token nulFree_serverQuitMsg, decide_eq_true_eq]
  split
  · cases removeFromList _ sd <;> rfl
  · rfl

/-- The clean-up removal of `clientHandler` on a compact table. -/
theorem removeClient_eq {sd : SharedData} (hc : Compact sd) (threadID : Nat) :
    removeClient threadID sd =
      (removeFromList (foundIndex ((liveClients sd).findIdx? (threadMatches threadID))) sd).map (·.2) := by
  simp only [removeClient, findThreadIDInList_eq hc, Option.bind_eq_bind, Option.some_bind]
  cases removeFromList _ sd <;> rfl

/-! ## 3. Removal by thread ID -/

/-- Removing the first live entry with a thread ID, as `processMessage` and
`clientHandler` do: on the live list it is `List.eraseP`, and nothing else of
the shared data changes. -/
theorem removeFromList_threadID {sd : SharedData} (hc : Compact sd) (threadID : Nat) :
    ∃ idx sd', removeFromList (foundIndex ((liveClients sd).findIdx? (threadMatches threadID))) sd =
        some (idx, sd') ∧ Compact sd' ∧
      liveClients sd' = (liveClients sd).eraseP (threadMatches threadID) ∧
      sd'.serverIsRunning = sd.serverIsRunning ∧ sd'.serverSocket = sd.serverSocket := by
  cases hf : (liveClients sd).findIdx? (threadMatches threadID) with
  | none =>
    exact ⟨_, sd, removeFromList_notFound sd, hc, (eraseP_of_findIdx?_none hf).symm, rfl, rfl⟩
  | some j =>
    obtain ⟨-, hj, he⟩ := findIdx?_eraseIdx _ 0 j hf
    have hlen := hc.length_live
    obtain ⟨t, hr, ht⟩ := removeFromList_of_lt hc (show (j : Int) < sd.numClients by simp at hj; omega)
    obtain ⟨hc', hl⟩ := compact_eraseIdx hc (by simp at hj; omega) ht
    rw [Nat.sub_zero] at he
    exact ⟨_, _, hr, hc', hl.trans he, rfl, rfl⟩

/-! ## 4. The registry invariant -/

/-- The registry invariant: a compact table whose live entries have pairwise
distinct `(clientIP, clientUserID)` pairs and user IDs that are neither empty
nor whitespace. -/
structure RegistryInv (sd : SharedData) extends Compact sd : Prop where
  keys_nodup : ((liveClients sd).map fun e => (e.clientIP, e.clientUserID)).Nodup
  userIDs_valid : ∀ e ∈ liveClients sd,
    e.clientUserID.chars.length ≠ 0 ∧ isWhitespace e.clientUserID.chars = false

theorem registryInv_initSharedMemory (serverSocket : Nat) :
    RegistryInv (initSharedMemory serverSocket) := by
  obtain ⟨hc, hl⟩ := compact_initSharedMemory serverSocket
  exact ⟨hc, by simp [hl], by simp [hl]⟩

/-- Dropping entries keeps the invariant. -/
theorem RegistryInv.of_sublist {sd sd' : SharedData} (hi : RegistryInv sd) (hc : Compact sd')
    (hs : (liveClients sd').Sublist (liveClients sd)) : RegistryInv sd' :=
  ⟨hc, hi.keys_nodup.sublist (hs.map _), fun e he => hi.userIDs_valid e (hs.subset he)⟩

/-- `findUserInList`'s test on a live entry is equality with the entry
`addToList` would write. -/
theorem userMatches_iff {e : ClientState} {clientIP clientUserID : List Char} :
    userMatches clientIP clientUserID e = true ↔
      e.clientIP = CStr.ofList _ clientIP ∧ e.clientUserID = CStr.ofList _ clientUserID := by
  have h1 : strncmpEq e.clientIP.chars clientIP clientIPLength = true ↔
      e.clientIP = CStr.ofList _ clientIP := by
    rw [strncmpEq, cstr_of_nulFree e.clientIP.nul_free, List.take_of_length_le e.clientIP.length_le,
      beq_iff_eq]
    exact ⟨fun h => CStr.ext_chars h, fun h => congrArg CStr.chars h⟩
  have h2 : strncmpEq e.clientUserID.chars clientUserID clientUserIDLength = true ↔
      e.clientUserID = CStr.ofList _ clientUserID := by
    rw [strncmpEq, cstr_of_nulFree e.clientUserID.nul_free,
      List.take_of_length_le e.clientUserID.length_le, beq_iff_eq]
    exact ⟨fun h => CStr.ext_chars h, fun h => congrArg CStr.chars h⟩
  rw [userMatches, Bool.and_eq_true, h1, h2]

/-- Appending a client that `findUserInList` did not find, with a user ID that
passed the check, keeps the invariant. -/
theorem RegistryInv.addClient {sd : SharedData} (hi : RegistryInv sd)
    (hlt : sd.numClients < maxClients) {threadID clientSocket : Nat} {clientIP : List Char}
    {userID : CStr clientUserIDLength}
    (hnone : (liveClients sd).findIdx? (userMatches clientIP userID.chars) = none)
    (hvalid : userID.chars.length ≠ 0 ∧ isWhitespace userID.chars = false) :
    RegistryInv (sd.addClient (newClient threadID clientIP userID.chars clientSocket)) := by
  obtain ⟨hc, hl⟩ := compact_addClient hi.toCompact hlt (newClient threadID clientIP userID.chars clientSocket)
  rw [List.findIdx?_eq_none_iff] at hnone
  refine ⟨hc, ?_, ?_⟩
  · rw [hl, List.map_append, List.nodup_append]
    refine ⟨hi.keys_nodup, by simp, ?_⟩
    simp only [List.map_cons, List.map_nil, List.disjoint_singleton, List.mem_map, not_exists,
      not_and]
    intro e he hk
    have := hnone e he
    rw [← Bool.not_eq_true, userMatches_iff] at this
    exact this ⟨congrArg Prod.fst hk, congrArg Prod.snd hk⟩
  · rw [hl]
    intro e he
    rcases List.mem_append.mp he with he | he
    · exact hi.userIDs_valid e he
    · rw [List.mem_singleton.mp he]
      simpa [newClient, CStr.ofList_self] using hvalid

/-- Every slot past the live ones holds a cleared entry. -/
theorem Compact.slot_cleared {sd : SharedData} (hc : Compact sd) {i : Nat}
    (h1 : sd.numClients ≤ i) (h2 : i < maxClients) :
    sd.connectedClients.slots[i]? = some ClientState.cleared := by
  have hlen := hc.length_live
  rw [hc.slots_eq, List.getElem?_append_right (by omega), List.getElem?_replicate]
  rw [if_pos (by omega)]

theorem frameOK_userID {frame : Option (List Char)} (h : frameOK frame = true) :
    (decodeFrame frame).clientUserID.chars.length ≠ 0 ∧
      isWhitespace (decodeFrame frame).clientUserID.chars = false := by
  simp only [frameOK, Bool.and_eq_true, bne_iff_ne, ne_eq, Bool.not_eq_true'] at h
  exact ⟨h.1.2, h.2⟩

/-! ## 5. Every interleaving of critical sections -/

/-- A mutex-guarded critical section of a client handler, with the inputs it
depends on. -/
inductive CriticalSection
  /-- `processMessage(..., IS_REGISTRATION)`: the check, then `findUserInList`
  and `addToList`. -/
  | registration (clientSocket : Nat) (clientIP : List Char) (threadID : Nat)
      (frame : Option (List Char))
  /-- `processMessage(..., IS_MESSAGE)`: a quit's `findThreadIDInList` and
  `removeFromList`, or the enqueue of a chat message. -/
  | message (clientSocket : Nat) (clientIP : List Char) (threadID : Nat)
      (frame : Option (List Char))
  /-- The clean-up removal of `clientHandler`. -/
  | disconnect (threadID : Nat)

/-- The shared data a critical section leaves. -/
def CriticalSection.run : CriticalSection → SharedData → Option SharedData
  | .registration sock ip tid frame, sd => (processMessage sock ip tid sd true frame).map (·.shared)
  | .message sock ip tid frame, sd => (processMessage sock ip tid sd false frame).map (·.shared)
  | .disconnect tid, sd => removeClient tid sd

/-- Critical sections one after another, as the mutex orders them. -/
def runCriticalSections : List CriticalSection → SharedData → Option SharedData
  | [], sd => some sd
  | cs :: rest, sd => (cs.run sd).bind (runCriticalSections rest)

/-- Every critical section keeps the registry invariant, stays inside the
array, and leaves the running flag alone. -/
theorem CriticalSection.run_inv {sd : SharedData} (hi : RegistryInv sd) :
    ∀ cs : CriticalSection, ∃ sd', cs.run sd = some sd' ∧ RegistryInv sd' ∧
      sd'.serverIsRunning = sd.serverIsRunning
  | .registration sock ip tid frame => by
    cases hf : frameOK frame
    · exact ⟨sd, by simp [CriticalSection.run, processMessage_rejected hf], hi, rfl⟩
    · simp only [CriticalSection.run, processMessage_registration hf hi.toCompact, Option.map_some']
      split
      · next h =>
        split
        · exact ⟨_, rfl, hi.addClient ‹_› h.2 (frameOK_userID hf), rfl⟩
        · exact ⟨sd, rfl, hi, rfl⟩
      · exact ⟨sd, rfl, hi, rfl⟩
  | .message sock ip tid frame => by
    cases hf : frameOK frame
    · exact ⟨sd, by simp [CriticalSection.run, processMessage_rejected hf], hi, rfl⟩
    · simp only [CriticalSection.run, processMessage_message hf hi.toCompact]
      split
      · obtain ⟨idx, sd', hr, hc', hl, hrun, -⟩ := removeFromList_threadID hi.toCompact tid
        refine ⟨sd', by rw [hr]; rfl, hi.of_sublist hc' ?_, hrun⟩
        rw [hl]; exact List.eraseP_sublist _
      · exact ⟨sd, rfl, hi, rfl⟩
  | .disconnect tid => by
    obtain ⟨idx, sd', hr, hc', hl, hrun, -⟩ := removeFromList_threadID hi.toCompact tid
    refine ⟨sd', by rw [CriticalSection.run, removeClient_eq hi.toCompact, hr]; rfl,
      hi.of_sublist hc' ?_, hrun⟩
    rw [hl]; exact List.eraseP_sublist _

theorem runCriticalSections_inv :
    ∀ (ops : List CriticalSection) {sd : SharedData}, RegistryInv sd →
      ∃ sd', runCriticalSections ops sd = some sd' ∧ RegistryInv sd'
  | [], sd, hi => ⟨sd, rfl, hi⟩
  | cs :: rest, _, hi => by
    obtain ⟨sd₁, h₁, hi₁, -⟩ := CriticalSection.run_inv hi cs
    obtain ⟨sd₂, h₂, hi₂⟩ := runCriticalSections_inv rest hi₁
    exact ⟨sd₂, by simp [runCriticalSections, h₁, h₂], hi₂⟩

/-- Under any interleaving of registrations, quits and disconnect removals
from `initSharedMemory`, no access leaves the array, `numClients` stays in
`[0, MAX_CLIENTS]`, the live entries have pairwise distinct
`(clientIP, clientUserID)` pairs and user IDs of 1 to 5 characters that are not
all whitespace, and every slot past the live ones is cleared. -/
theorem registry_invariant_reachable (serverSocket : Nat) (ops : List CriticalSection) :
    ∃ sd, runCriticalSections ops (initSharedMemory serverSocket) = some sd ∧
      0 ≤ sd.numClients ∧ sd.numClients ≤ maxClients ∧
      ((liveClients sd).map fun e => (e.clientIP, e.clientUserID)).Nodup ∧
      (∀ e ∈ liveClients sd, 1 ≤ e.clientUserID.chars.length ∧
        e.clientUserID.chars.length ≤ clientUserIDLength ∧
        isWhitespace e.clientUserID.chars = false) ∧
      (∀ i : Nat, sd.numClients ≤ i → i < maxClients →
        sd.connectedClients.slots[i]? = some ClientState.cleared) := by
  obtain ⟨sd, hrun, hi⟩ := runCriticalSections_inv ops (registryInv_initSharedMemory serverSocket)
  refine ⟨sd, hrun, hi.nonneg, hi.le_max, hi.keys_nodup, fun e he => ?_,
    fun i h1 h2 => hi.slot_cleared h1 h2⟩
  have := hi.userIDs_valid e he
  exact ⟨Nat.one_le_iff_ne_zero.mpr this.1, e.clientUserID.length_le, this.2⟩

/-! ## 6. processMessage by cases -/

/-- A registration on a compact table sends exactly one reply, `>>success<<`
when it appends the client and `>>failed<<` otherwise, except in one case: a
valid `>>hello<<` from a new `(IP, user ID)` pair on a full table, which
`addToList` refuses with `TOO_MANY_CLIENTS` and which gets no reply at all.
Whenever it does not append, the shared data is left as it was. -/
theorem processMessage_registration_replies {sd : SharedData} (hc : Compact sd)
    (clientSocket : Nat) (clientIP : List Char) (threadID : Nat) (frame : Option (List Char)) :
    ∃ r, processMessage clientSocket clientIP threadID sd true frame = some r ∧ r.enqueued = [] ∧
      (r.retVal = messageProcessSuccess ∧ sd.numClients < maxClients ∧
          r.shared = sd.addClient
            (newClient threadID clientIP (decodeFrame frame).clientUserID.chars clientSocket) ∧
          r.replies = [serverBroadcast serverRegistrationSuccessMsg] ∨
        r.retVal ≠ messageProcessSuccess ∧ r.shared = sd ∧
          (r.replies = [serverBroadcast serverRegistrationFailMsg] ∨
            r.replies = [] ∧ frameOK frame = true ∧
              (decodeFrame frame).message.chars = serverRegistrationMsg ∧
              (liveClients sd).findIdx? (userMatches clientIP (decodeFrame frame).clientUserID.chars) = none ∧
              ¬ sd.numClients < maxClients)) := by
  have hfail : messageProcessFailed ≠ messageProcessSuccess := by decide
  have hreg : registrationFailed ≠ messageProcessSuccess := by decide
  cases hf : frameOK frame
  · exact ⟨_, processMessage_rejected hf .., rfl, .inr ⟨hfail, rfl, .inl rfl⟩⟩
  · rw [processMessage_registration hf hc]
    split
    · split
      · exact ⟨_, rfl, rfl, .inl ⟨rfl, ‹_›, rfl, rfl⟩⟩
      · exact ⟨_, rfl, rfl, .inr ⟨hfail, rfl, .inr ⟨rfl, rfl, ‹_ ∧ _›.1, ‹_ ∧ _›.2, ‹_›⟩⟩⟩
    · exact ⟨_, rfl, rfl, .inr ⟨hreg, rfl, .inl rfl⟩⟩

/-- A registration on a compact table either appends the client, with the user
ID of its frame, and answers `>>success<<`; or leaves the shared data alone and
fails. It puts nothing on the queue. -/
theorem processMessage_registration_cases {sd : SharedData} (hc : Compact sd)
    (clientSocket : Nat) (clientIP : List Char) (threadID : Nat) (frame : Option (List Char)) :
    ∃ r, processMessage clientSocket clientIP threadID sd true frame = some r ∧ r.enqueued = [] ∧
      (r.retVal = messageProcessSuccess ∧ sd.numClients < maxClients ∧
          r.shared = sd.addClient
            (newClient threadID clientIP (decodeFrame frame).clientUserID.chars clientSocket) ∧
          r.replies = [serverBroadcast serverRegistrationSuccessMsg] ∨
        r.retVal ≠ messageProcessSuccess ∧ r.shared = sd) := by
  obtain ⟨r, hr, he, h⟩ := processMessage_registration_replies hc clientSocket clientIP threadID frame
  exact ⟨r, hr, he, h.imp id fun h => ⟨h.1, h.2.1⟩⟩

/-- A message on a compact table is chat, enqueued with nothing else changed;
or `>>bye<<`, which removes the first live entry with the thread ID; or a frame
that fails the check, which changes nothing. It sends no reply. -/
theorem processMessage_message_cases {sd : SharedData} (hc : Compact sd)
    (clientSocket : Nat) (clientIP : List Char) (threadID : Nat) (frame : Option (List Char)) :
    ∃ r, processMessage clientSocket clientIP threadID sd false frame = some r ∧ r.replies = [] ∧
      (r.retVal = messageProcessSuccess ∧ r.shared = sd ∧
          r.enqueued = sendMessageToQueue clientIP (decodeFrame frame) ∨
        r.retVal = messageProcessQuit ∧ r.enqueued = [] ∧ Compact r.shared ∧
          liveClients r.shared = (liveClients sd).eraseP (threadMatches threadID) ∧
          r.shared.serverIsRunning = sd.serverIsRunning ∨
        r.retVal = messageProcessFailed ∧ r.shared = sd ∧ r.enqueued = []) := by
  cases hf : frameOK frame
  · exact ⟨_, processMessage_rejected hf .., rfl, .inr (.inr ⟨rfl, rfl, rfl⟩)⟩
  · rw [processMessage_message hf hc]
    split
    · obtain ⟨idx, sd', hr, hc', hl, hrun, -⟩ := removeFromList_threadID hc threadID
      rw [hr]
      exact ⟨_, rfl, rfl, .inr (.inl ⟨rfl, rfl, hc', hl, hrun⟩)⟩
    · exact ⟨_, rfl, rfl, .inl ⟨rfl, rfl, rfl⟩⟩

/-! ## 7. The replies of a registration -/

/-- On a full table, a valid `>>hello<<` from a new pair fails with no reply
and no change. -/
theorem processMessage_full_unanswered {sd : SharedData} (hc : Compact sd)
    (hfull : ¬ sd.numClients < maxClients) {frame : Option (List Char)} (hf : frameOK frame = true)
    (hhello : (decodeFrame frame).message.chars = serverRegistrationMsg) {clientIP : List Char}
    (hnew : (liveClients sd).findIdx? (userMatches clientIP (decodeFrame frame).clientUserID.chars) = none)
    (clientSocket threadID : Nat) :
    processMessage clientSocket clientIP threadID sd true frame = some ⟨messageProcessFailed, sd, [], []⟩ := by
  rw [processMessage_registration hf hc, if_pos ⟨hhello, hnew⟩, if_neg hfull]

/-- The `>>hello<<` a client with user ID `u` sends. -/
def helloFrom (u : List Char) : ClientMessage :=
  ⟨CStr.ofList _ u, CStr.ofList _ serverRegistrationMsg⟩

theorem registryInv_fullRegistry : RegistryInv fullRegistry :=
  ⟨(compact_of_slots (L := fullRegistry.connectedClients.slots) rfl (by decide)).1, by decide, by decide⟩

/-- Registry full: `fullRegistry` satisfies the registry invariant, and a valid
`>>hello<<` from a new user `k` is refused without any reply on the
connection (the client is left waiting in `recv` until the handler closes the
socket) and without a change to the registry. -/
theorem registration_full_no_reply :
    RegistryInv fullRegistry ∧ frameOK (some (clientMessageToJson (helloFrom "k".toList))) = true ∧
      (decodeFrame (some (clientMessageToJson (helloFrom "k".toList)))).message.chars = serverRegistrationMsg ∧
      findUserInList "10.0.0.1".toList
          (decodeFrame (some (clientMessageToJson (helloFrom "k".toList)))).clientUserID.chars fullRegistry =
        some entryNotFoundOrNull ∧
      processMessage 14 "10.0.0.1".toList 14 fullRegistry true (some (clientMessageToJson (helloFrom "k".toList))) =
        some ⟨messageProcessFailed, fullRegistry, [], []⟩ := by
  have hf : frameOK (some (clientMessageToJson (helloFrom "k".toList))) = true := by decide
  have hhello : (decodeFrame (some (clientMessageToJson (helloFrom "k".toList)))).message.chars =
      serverRegistrationMsg := by decide
  have hnew : (liveClients fullRegistry).findIdx? (userMatches "10.0.0.1".toList
      (decodeFrame (some (clientMessageToJson (helloFrom "k".toList)))).clientUserID.chars) = none := by
    decide
  refine ⟨registryInv_fullRegistry, hf, hhello, ?_,
    processMessage_full_unanswered registryInv_fullRegistry.toCompact (by decide) hf hhello hnew 14 14⟩
  rw [findUserInList_eq registryInv_fullRegistry.toCompact, hnew]
  rfl

end ChatSystem
