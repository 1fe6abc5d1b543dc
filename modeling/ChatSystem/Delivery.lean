/-
ChatSystem.Delivery — which socket each handler serves, where the
broadcaster's writes go, and how often the accept loop starts the monitor and
the broadcaster.

`runServer` hands each new handler a pointer to its `NewClient` variable, which
the next `accept` overwrites. A handler serves the socket of the last `accept`
before its start (`handler_serves_last_accept`): its own connection's only when
it starts before the next connection comes in. When it does not, two handlers
serve one socket and the other socket none (`handoff_race`).

The fan-out writes the popped Broadcast to the socket of every live entry, in
registry order, and each live entry is a registered handler's
(`fanOut_writes`). With two handlers on one socket, that socket gets chat
before the second handler's registration reply
(`broadcast_before_registration_reply`), and every Broadcast twice once both
have registered (`split_message_written_twice`).

The accept loop starts the monitor and the broadcaster when its `int` counter
`totalConnections` is 0. On 32 bits that happens on the first accepted
connection and would again after `2^32` more (`watcherStarts_first_only`);
but each connection costs a handler thread, joinable and never joined, and no
process gets `2^32` of them. In every run the counter is the number of
handler threads, and the monitor and the broadcaster have started once, on
the first connection, exactly when there has been one
(`watchers_started_once`).
-/
import ChatSystem.ServerTheorems

namespace ChatSystem
open List

/-! ## 1. The hand-off of the accepted socket -/

/-- `accept` is the only step that writes `NewClient`. -/
def Action.isAccept : Action → Bool
  | .accept .. => true
  | _ => false

section Handoff

variable {w w' : World}

/-- Every step but an `accept` leaves `NewClient` alone. -/
theorem newClient_step (hi : ServerInv w) {a : Action} (ha : a.isAccept = false)
    (h : step a w = some w') : w'.newClient = w.newClient := by
  cases hb : a.byHandler
  · cases a with
    | accept => cases ha
    | createHandler => obtain ⟨-, -, rfl⟩ := createClientHandler_some h; rfl
    | acceptFail => obtain ⟨-, -, rfl⟩ := acceptFailed_some h; rfl
    | cleanUp => obtain ⟨-, -, rfl⟩ := cleanUpServer_some h; rfl
    | monitor => obtain ⟨-, ⟨_, -, rfl⟩ | ⟨-, rfl⟩⟩ := clientConnectionMonitorStep_some h <;> rfl
    | broadcaster => obtain ⟨-, -, _, _, _, rfl, -⟩ := chatBroadcasterStep_some h; rfl
    | _ => cases hb
  · exact (HandlerFrame.of_step hi.registry hb h).newClient

theorem newClient_runActions :
    ∀ (acts : List Action), (∀ a ∈ acts, a.isAccept = false) →
      ∀ {w w' : World}, ServerInv w → runActions acts w = some w' → w'.newClient = w.newClient
  | [], _, _, _, _, h => by cases h; rfl
  | a :: rest, hacts, w, w', hi, h => by
    simp only [runActions, Option.bind_eq_some] at h
    obtain ⟨w₁, h₁, h⟩ := h
    rw [newClient_runActions rest (fun b hb => hacts b (List.mem_cons_of_mem _ hb)) (hi.of_step h₁) h,
      newClient_step hi (hacts a (List.mem_cons_self _ _)) h₁]

/-- A handler serves the socket of the last `accept` before its start: its own
connection's only when no other connection came in between. -/
theorem handler_serves_last_accept {serverSocket : Nat} {w₀ w₁ w₂ w₃ : World}
    (hw : Reachable serverSocket w₀) {clientSocket i : Nat}
    {clientIP : Option (List Char)} {acts : List Action}
    (h₁ : step (.accept clientSocket) w₀ = some w₁) (h₂ : runActions acts w₁ = some w₂)
    (hacts : ∀ a ∈ acts, a.isAccept = false) (h₃ : step (.handlerStart i clientIP) w₂ = some w₃) :
    (w₃.handlers[i]?).map Handler.clientSocket = some clientSocket := by
  have hi₁ := (ServerInv.reachable hw).of_step h₁
  have hnew : w₂.newClient = clientSocket := by
    rw [newClient_runActions acts hacts hi₁ h₂]
    obtain ⟨-, -, -, -, rfl⟩ := acceptClient_some h₁
    rfl
  obtain ⟨hd, hhd, -, ⟨_, -, rfl⟩ | ⟨-, rfl⟩⟩ := clientHandlerStart_some h₃ <;>
  · have hlt : i < w₂.handlers.length := (List.getElem?_eq_some_iff.mp hhd).1
    simp [List.getElem?_set_self hlt, hnew]

end Handoff

/-- Two connections come in before the first handler reads its `NewClient`;
both handlers then read socket 5, and `getpeername` on it gives its peer's
IP. -/
def handoffRaceRun : List Action :=
  [.accept 4, .createHandler 1, .accept 5, .createHandler 2, .handlerStart 0 (some "10.0.0.2".toList),
   .handlerStart 1 (some "10.0.0.2".toList)]

/-- Both handlers serve socket 5; socket 4 is open and no handler serves it. -/
theorem handoff_race :
    (runActions handoffRaceRun (World.init 3)).map (fun w =>
      (w.openSockets, w.handlers.map Handler.clientSocket)) = some ([4, 5], [5, 5]) := by decide

/-! ## 2. The fan-out -/

/-- The fan-out sends the Broadcast the broadcaster popped to the socket of
every live entry, in registry order, and to no other socket: to the socket of
each handler that holds an entry. -/
theorem fanOut_writes {serverSocket : Nat} {w w' : World} (hw : Reachable serverSocket w)
    {b : Broadcast} (hb : w.broadcaster = .fanningOut b) (h : step .broadcaster w = some w') :
    w'.writes = w.writes ++ (liveClients w.shared).map (fun e => (e.clientSocket, b)) ∧
      ∀ e ∈ liveClients w.shared, ∃ hd ∈ w.handlers, hd.holdsEntry = true ∧ hd.key = e.key := by
  have hi := ServerInv.reachable hw
  refine ⟨?_, fun e he => ?_⟩
  · have h : chatBroadcasterStep w = some w' := (step_eq_some h).2
    simp only [chatBroadcasterStep, hb, readClients_live hi.registry.toCompact,
      Option.bind_eq_bind, Option.some_bind, Option.some.injEq] at h
    rw [← h]
  · obtain ⟨hd, hm, hk⟩ := List.mem_filterMap.mp (hi.entries.subset (List.mem_map_of_mem _ he))
    simp only [Handler.entryKey?] at hk
    split at hk
    · exact ⟨hd, hm, ‹_›, Option.some_injective _ hk⟩
    · cases hk

/-- After the hand-off race, handler 0 registers as `A` and chats; the
broadcaster fans the message out; then handler 1, on the same socket, registers
as `B`. -/
def earlyBroadcastRun : List Action :=
  handoffRaceRun ++
    [.handlerRegister 0 (clientFrame "A" ">>hello<<"), .handlerMessage 0 (clientFrame "A" "hi"),
     .broadcaster, .broadcaster, .broadcaster, .broadcaster,
     .handlerRegister 1 (clientFrame "B" ">>hello<<")]

/-- On socket 5, which handler 1 serves, the Broadcast `hi` is written before
handler 1's `>>success<<`. -/
theorem broadcast_before_registration_reply :
    (runActions earlyBroadcastRun (World.init 3)).map (fun w =>
      w.writes.map fun p => (p.1, p.2.message.chars)) =
      some [(5, ">>success<<".toList), (5, "hi".toList), (5, ">>success<<".toList)] := by decide

/-- After the hand-off race both handlers register on socket 5, as `A` and
`B`; `A` sends a message of 49 characters, which goes on the queue in two
halves; the broadcaster fans both out. -/
def duplicateFanOutRun : List Action :=
  handoffRaceRun ++
    [.handlerRegister 0 (clientFrame "A" ">>hello<<"), .handlerRegister 1 (clientFrame "B" ">>hello<<"),
     .handlerMessage 0 (clientFrame "A" "the quick brown fox jumps over the lazy dog again"),
     .broadcaster, .broadcaster, .broadcaster, .broadcaster, .broadcaster, .broadcaster, .broadcaster]

/-- Socket 5 gets each half twice, so the two halves are not back to back. -/
theorem split_message_written_twice :
    (runActions duplicateFanOutRun (World.init 3)).map (fun w =>
      w.writes.map fun p => (p.1, p.2.message.chars)) =
      some [(5, ">>success<<".toList), (5, ">>success<<".toList),
        (5, "the quick brown fox jumps over the lazy".toList),
        (5, "the quick brown fox jumps over the lazy".toList),
        (5, "dog again".toList), (5, "dog again".toList)] := by decide

/-! ## 3. The start of the monitor and the broadcaster

`totalConnections` is an `int` of `runServer`; the `World` counts accepts with
a natural number. The two agree while fewer than `2^32` connections have been
accepted (`acceptIteration_ofNat`); past that the 32-bit counter comes back to
0 and the loop starts the monitor and the broadcaster again. -/

/-- One iteration of the accept loop after a successful `accept`, as far as
`totalConnections` goes: whether it starts the monitor and the broadcaster
(`totalConnections == 0`), and `totalConnections++` on 32 bits (past
`INT_MAX` the increment is undefined behaviour in C; two's complement
wrap-around is what the machine does). -/
def acceptIteration (totalConnections : BitVec 32) : Bool × BitVec 32 :=
  (totalConnections == 0, totalConnections + 1)

/-- The iterations, numbered from `i`, that start the monitor and the
broadcaster among `n` iterations whose `accept` succeeds. -/
def watcherStarts (totalConnections : BitVec 32) (i : Nat) : Nat → List Nat
  | 0 => []
  | n + 1 =>
    (if (acceptIteration totalConnections).1 then [i] else []) ++
      watcherStarts (acceptIteration totalConnections).2 (i + 1) n

/-- Below `2^32`, the 32-bit counter takes the decision of the `World`'s
natural-number counter (`first := totalConnections == 0` in `acceptClient`)
and counts on as it does. -/
theorem acceptIteration_ofNat {t : Nat} (ht : t < 4294967296) :
    acceptIteration (BitVec.ofNat 32 t) = (t == 0, BitVec.ofNat 32 (t + 1)) := by
  have hz : (BitVec.ofNat 32 t == 0) = (t == 0) := by
    rw [Bool.eq_iff_iff, beq_iff_eq, beq_iff_eq, BitVec.toNat_eq]
    simp only [BitVec.toNat_ofNat, BitVec.ofNat_eq_ofNat]
    omega
  rw [acceptIteration, hz, BitVec.ofNat_add]
  rfl

/-- `m` iterations, then `n` more from where they left the counter. -/
theorem watcherStarts_add (m : Nat) :
    ∀ (c : BitVec 32) (i n : Nat),
      watcherStarts c i (m + n) = watcherStarts c i m ++ watcherStarts (c + BitVec.ofNat 32 m) (i + m) n := by
  induction m with
  | zero => intro c i n; simp [watcherStarts]
  | succ m ih =>
    intro c i n
    rw [Nat.add_right_comm, watcherStarts, watcherStarts, ih, List.append_assoc,
      acceptIteration, BitVec.add_assoc, Nat.add_assoc, Nat.add_comm 1 m, BitVec.ofNat_add,
      BitVec.add_comm (BitVec.ofNat 32 m)]
    rfl

/-- While the counter does not come back to 0, no iteration starts them. -/
theorem watcherStarts_none (n : Nat) :
    ∀ (c : BitVec 32) (i : Nat), (∀ k < n, (c.toNat + k) % 4294967296 ≠ 0) → watcherStarts c i n = [] := by
  induction n with
  | zero => intro c i _; rfl
  | succ n ih =>
    intro c i hc
    have h0 : (acceptIteration c).1 = false := by
      have := hc 0 (Nat.zero_lt_succ n)
      rw [Nat.add_zero, Nat.mod_eq_of_lt (show c.toNat < 4294967296 from c.isLt)] at this
      simpa [acceptIteration, BitVec.toNat_eq] using this
    rw [watcherStarts, h0, if_neg Bool.false_ne_true, List.nil_append]
    refine ih _ _ fun k hk => ?_
    have := hc (k + 1) (by omega)
    rw [acceptIteration, BitVec.toNat_add]
    simp only [BitVec.ofNat_eq_ofNat, BitVec.toNat_ofNat, Nat.one_mod, Nat.mod_add_mod]
    omega

/-- Up to `2^32` accepted connections, the monitor and the broadcaster start
once, on the first. -/
theorem watcherStarts_first_only {n : Nat} (h0 : 0 < n) (hn : n ≤ 4294967296) :
    watcherStarts 0 0 n = [0] := by
  obtain ⟨m, rfl⟩ := Nat.exists_eq_add_of_lt h0
  rw [Nat.zero_add, Nat.add_comm, watcherStarts_add 1, watcherStarts_none m]
  · rfl
  · intro k hk
    simp only [BitVec.ofNat_eq_ofNat, BitVec.zero_add, BitVec.toNat_ofNat, Nat.one_mod]
    omega

/-- In every run, while the process has created at most `2^32` handler
threads, `totalConnections` counts them, the 32-bit accept loop has started
the monitor and the broadcaster once, on the first connection, or not at all
before it, and the monitor and the broadcaster have started exactly when there
has been a connection. -/
theorem watchers_started_once {serverSocket : Nat} {w : World} (hw : Reachable serverSocket w)
    (hn : w.handlers.length ≤ 4294967296) :
    w.totalConnections = w.handlers.length ∧
      watcherStarts 0 0 w.totalConnections = (if w.totalConnections = 0 then [] else [0]) ∧
      (w.monitor = .notStarted ↔ w.totalConnections = 0) ∧
      (w.broadcaster = .notStarted ↔ w.totalConnections = 0) := by
  have hi := ServerInv.reachable hw
  refine ⟨hi.connections, ?_, ⟨fun h => hi.notStarted (.inl h), fun h => (hi.started h).1⟩,
    ⟨fun h => hi.notStarted (.inr h), fun h => (hi.started h).2⟩⟩
  split
  · next h0 => rw [h0]; rfl
  · next h0 => exact watcherStarts_first_only (Nat.pos_of_ne_zero h0) (hi.connections ▸ hn)

theorem watchers_started_once_session :
    Reachable 3 sessionWorld ∧ sessionWorld.handlers.length ≤ 4294967296 ∧
      sessionWorld.totalConnections = sessionWorld.handlers.length ∧
      watcherStarts 0 0 sessionWorld.totalConnections =
        (if sessionWorld.totalConnections = 0 then [] else [0]) ∧
      (sessionWorld.monitor = .notStarted ↔ sessionWorld.totalConnections = 0) ∧
      (sessionWorld.broadcaster = .notStarted ↔ sessionWorld.totalConnections = 0) :=
  have hn : sessionWorld.handlers.length ≤ 4294967296 := by decide
  ⟨sessionWorld_reachable, hn, watchers_started_once sessionWorld_reachable hn⟩

end ChatSystem
