/-
ChatSystem.ServerTheorems — what holds of every run of the server, and runs
where what one might expect does not hold.

* The registry and the handlers (`registry_entries_match_handlers`): the live
  entries are those of the handlers that registered and have not removed
  theirs, one each; the clean-up removal after `>>bye<<` finds nothing; a
  step adds one entry, removes one whole entry, or leaves them alone.
* Attribution (`enqueued_broadcast_origin`): a chat Broadcast carries the IP
  of its handler's entry, but the user ID of the frame it came from, which
  `processMessage` never compares with the registered one
  (`enqueued_userID_from_frame`).
* Shutdown (`shutdown_is_final`): once the monitor has stopped, the flag and
  the listening socket stay off and no connection is accepted; a connection
  accepted just before still gets its handler, and a handler started before
  can still register (`registration_after_shutdown`).
* The broadcaster (`broadcaster_stop_is_final`): it stops on reading an empty
  registry, or on the `msgrcv` error once `cleanUpServer` has removed the
  queue after the accept loop, and never runs again; the monitor may see a
  client that registered in between and keep the server up, so the queue then
  fills with no reader (`broadcaster_stops_while_running`).

The sample runs start from a server on socket 3 and are evaluated by `decide`.
-/
import ChatSystem.ServerInvariant

namespace ChatSystem

open List

/-! ## 1. Sample runs -/

/-- The frame `clientMessageToJson` gives for a user ID and a text, as a read
returns it. -/
def clientFrame (userID message : String) : Option (List Char) :=
  some (clientMessageToJson ⟨CStr.ofList _ userID.toList, CStr.ofList _ message.toList⟩)

/-- Client `A` registers; `B` connects and registers; `A` says `>>bye<<`. -/
def sessionRun : List Action :=
  [.accept 4, .createHandler 1, .handlerStart 0 (some "10.0.0.1".toList),
   .handlerRegister 0 (clientFrame "A" ">>hello<<"),
   .accept 5, .createHandler 2, .handlerStart 1 (some "10.0.0.2".toList),
   .handlerRegister 1 (clientFrame "B" ">>hello<<"), .handlerMessage 0 (clientFrame "A" ">>bye<<")]

/-- The world `sessionRun` reaches from a server on socket 3. -/
def sessionWorld : World := (runActions sessionRun (World.init 3)).getD (World.init 3)

theorem sessionWorld_reachable : Reachable 3 sessionWorld := ⟨sessionRun, rfl⟩

example : (liveClients sessionWorld.shared).map ClientState.threadID = [2] := by decide

/-! ## 2. The registry and the handlers -/

section Registry

variable {w w' : World}

/-- On a table whose live thread IDs are distinct, removing by thread ID
removes one whole entry, or nothing. -/
theorem eraseP_threadID_cases {live : List ClientState} (hn : (live.map ClientState.threadID).Nodup)
    (threadID : Nat) :
    live.eraseP (threadMatches threadID) = live ∨
      ∃ e ∈ live, live.eraseP (threadMatches threadID) = live.erase e := by
  by_cases h : ∃ e ∈ live, threadMatches threadID e = true
  · obtain ⟨e, he, hp⟩ := h
    refine .inr ⟨e, he, eraseP_eq_erase hp fun x hx hxp => List.inj_on_of_nodup_map hn hx he ?_⟩
    simp only [threadMatches, beq_iff_eq] at hp hxp
    rw [hp, hxp]
  · exact .inl (List.eraseP_of_forall_not fun e he hp => h ⟨e, he, hp⟩)

theorem ServerInv.nodup_live_threadIDs (hi : ServerInv w) :
    ((liveClients w.shared).map ClientState.threadID).Nodup := by
  simpa [List.map_map] using hi.nodup_threadIDs

/-- Every step appends one entry to the registry, removes one whole entry, or
leaves the live entries alone. -/
theorem ServerInv.liveClients_step (hi : ServerInv w) {a : Action} (h : step a w = some w') :
    liveClients w'.shared = liveClients w.shared ∨
      (∃ e, liveClients w'.shared = liveClients w.shared ++ [e]) ∨
      ∃ e ∈ liveClients w.shared, liveClients w'.shared = (liveClients w.shared).erase e := by
  have hc := hi.registry.toCompact
  have hrem := eraseP_threadID_cases hi.nodup_live_threadIDs
  cases a with
  | accept => obtain ⟨-, -, -, -, rfl⟩ := acceptClient_some h; exact .inl rfl
  | createHandler => obtain ⟨-, -, rfl⟩ := createClientHandler_some h; exact .inl rfl
  | acceptFail => obtain ⟨-, -, rfl⟩ := acceptFailed_some h; exact .inl rfl
  | cleanUp => obtain ⟨-, -, rfl⟩ := cleanUpServer_some h; exact .inl rfl
  | handlerStart =>
    obtain ⟨hd, -, -, ⟨_, -, rfl⟩ | ⟨-, rfl⟩⟩ := clientHandlerStart_some h <;> exact .inl rfl
  | handlerRegister i frame =>
    obtain ⟨hd, r, -, -, hr, rfl⟩ := clientHandlerRegister_some h
    obtain ⟨r', hr', -, ⟨-, hlt, hsh, -⟩ | ⟨-, hsh⟩⟩ :=
      processMessage_registration_cases hc hd.clientSocket hd.clientIP hd.threadID frame
    all_goals obtain rfl := Option.some_injective _ (hr.symm.trans hr')
    all_goals split <;> simp only [World.close_shared, World.setHandler_shared,
      World.afterProcess_shared, hsh, true_or]
    all_goals exact .inr (.inl ⟨_, (compact_addClient hc hlt _).2⟩)
  | handlerMessage i frame =>
    obtain ⟨hd, r, -, -, hr, rfl⟩ := clientHandlerMessage_some h
    obtain ⟨r', hr', -, ⟨-, hsh, -⟩ | ⟨-, -, -, hlive, -⟩ | ⟨-, hsh, -⟩⟩ :=
      processMessage_message_cases hc hd.clientSocket hd.clientIP hd.threadID frame
    all_goals obtain rfl := Option.some_injective _ (hr.symm.trans hr')
    all_goals simp only [World.setHandler_shared, World.sendToQueue_shared, World.afterProcess_shared]
    · exact .inl (by rw [hsh])
    · rw [hlive]; exact (hrem hd.threadID).imp id .inr
    · exact .inl (by rw [hsh])
  | handlerResume =>
    obtain ⟨bs, -, -, rfl⟩ := clientHandlerResume_some h
    exact .inl (by rw [World.sendToQueue_shared])
  | handlerCleanUp i =>
    obtain ⟨hd, -, sd, -, -, hsd, rfl⟩ := clientHandlerCleanUp_some h
    obtain ⟨sd', hsd', -, hlive, -⟩ := removeClient_spec hc hd.threadID
    obtain rfl := Option.some_injective _ (hsd.symm.trans hsd')
    simp only [World.close_shared, World.setHandler_shared]
    rw [hlive]
    exact (hrem hd.threadID).imp id .inr
  | monitor =>
    obtain ⟨-, ⟨m, -, rfl⟩ | ⟨-, rfl⟩⟩ := clientConnectionMonitorStep_some h <;> exact .inl rfl
  | broadcaster =>
    obtain ⟨-, -, _, _, _, rfl, -⟩ := chatBroadcasterStep_some h
    exact .inl rfl

/-- After a `>>bye<<`, the clean-up removal of the handler finds nothing and
changes nothing. -/
theorem ServerInv.removeClient_after_quit (hi : ServerInv w) {hd : Handler} (hm : hd ∈ w.handlers)
    (hq : hd.phase = .quitting messageProcessQuit) : removeClient hd.threadID w.shared = some w.shared :=
  removeClient_of_no_entry hi.registry.toCompact
    (hi.no_entry hm (by simp [Handler.isLive, hq]) (by simp [Handler.holdsEntry, hq]))

end Registry

/-! ## 3. Attribution of chat -/

/-- Every Broadcast of `sendMessageToQueue` carries the IP it is given and the
user ID of the message. -/
theorem sendMessageToQueue_origin {clientIP : List Char} {m : ClientMessage} {b : Broadcast}
    (hb : b ∈ sendMessageToQueue clientIP m) :
    b.clientIP = CStr.ofList _ clientIP ∧ b.clientUserID = m.clientUserID := by
  simp only [sendMessageToQueue, List.mem_map] at hb
  obtain ⟨_, -, rfl⟩ := hb
  exact ⟨rfl, CStr.ofList_self _⟩

/-- Client `A` registers, then sends a frame that names user `B`. -/
def impersonationRun : List Action :=
  [.accept 4, .createHandler 1, .handlerStart 0 (some "10.0.0.1".toList),
   .handlerRegister 0 (clientFrame "A" ">>hello<<"), .handlerMessage 0 (clientFrame "B" "hi")]

/-- The world where client `A` has registered. -/
def registeredWorld : World := (runActions (impersonationRun.take 4) (World.init 3)).getD (World.init 3)

/-- Client `A` registers and the monitor arms; `B`'s connection is accepted;
`A` leaves and the monitor shuts the server down; then the accept loop starts
`B`'s handler, which registers. -/
def lateRegistrationRun : List Action :=
  [.accept 4, .createHandler 1, .handlerStart 0 (some "10.0.0.1".toList),
   .handlerRegister 0 (clientFrame "A" ">>hello<<"), .monitor, .accept 5,
   .handlerMessage 0 (clientFrame "A" ">>bye<<"), .monitor,
   .createHandler 2, .handlerStart 1 (some "10.0.0.2".toList), .handlerRegister 1 (clientFrame "B" ">>hello<<")]

/-- After the monitor has cleared `serverIsRunning` and closed the listening
socket, a handler starts and its client registers: `numClients` is 1. -/
theorem registration_after_shutdown :
    (runActions lateRegistrationRun (World.init 3)).map (fun w =>
      (w.monitor, w.listening, w.shared.serverIsRunning, w.shared.numClients, w.handlers.length)) =
      some (.stopped, false, false, 1, 2) := by decide

/-- The connections of the accept loop: its handlers, and the connection
`accept` returned that has no handler yet. -/
def World.connections (w : World) : Nat := w.handlers.length + if w.spawning then 1 else 0

/-- With the listening socket closed, `accept` fails. -/
theorem accept_none_of_closed {w : World} (hl : w.listening = false) (clientSocket : Nat) :
    step (.accept clientSocket) w = none := by
  cases h : step (.accept clientSocket) w with
  | none => rfl
  | some w' => simp [(acceptClient_some h).2.2.1] at hl

/-- A step from a stopped monitor keeps it stopped and accepts no connection:
the listening socket is closed. The handler of a connection accepted before
may still start. -/
theorem ServerInv.monitor_stopped_step {w w' : World} (hi : ServerInv w) (hm : w.monitor = .stopped)
    {a : Action} (h : step a w = some w') :
    w'.monitor = .stopped ∧ w'.connections = w.connections := by
  cases hb : a.byHandler
  · cases a with
    | accept clientSocket => simp [accept_none_of_closed (hi.stopped hm).1] at h
    | createHandler =>
      obtain ⟨hs, -, rfl⟩ := createClientHandler_some h
      refine ⟨?_, by simp [World.connections, hs]⟩
      show (if w.totalConnections = 0 then _ else _) = _
      rw [if_neg fun h0 => by simp [(hi.started h0).1] at hm, hm]
    | acceptFail => obtain ⟨-, -, rfl⟩ := acceptFailed_some h; exact ⟨hm, rfl⟩
    | cleanUp => obtain ⟨-, -, rfl⟩ := cleanUpServer_some h; exact ⟨hm, rfl⟩
    | monitor =>
      obtain ⟨hm' | hm', -⟩ := clientConnectionMonitorStep_some h <;> simp [hm] at hm'
    | broadcaster =>
      obtain ⟨-, -, _, _, _, rfl, -⟩ := chatBroadcasterStep_some h
      exact ⟨hm, rfl⟩
    | _ => cases hb
  · have hf := HandlerFrame.of_step hi.registry hb h
    exact ⟨hf.monitor ▸ hm, by simp only [World.connections, hf.length_handlers, hf.spawning]⟩

/-- Once the monitor has stopped, `serverIsRunning` stays cleared, the listening
socket stays closed, the monitor stays stopped and no connection is accepted:
the handlers and the connection accepted but not yet handed to a handler stay
as many as they were, and only handlers started before, or the one of that
connection, can still register. -/
theorem shutdown_is_final {serverSocket : Nat} {w w' : World} (hw : Reachable serverSocket w)
    (hm : w.monitor = .stopped) (hr : Reaches w w') :
    w'.monitor = .stopped ∧ w'.listening = false ∧ w'.shared.serverIsRunning = false ∧
      (∀ clientSocket, step (.accept clientSocket) w' = none) ∧
      w'.handlers.length + (if w'.spawning then 1 else 0) = w.handlers.length + (if w.spawning then 1 else 0) := by
  have hstep : ∀ {a : Action} {v v' : World}, ServerInv v →
      v.monitor = .stopped ∧ v.connections = w.connections → step a v = some v' →
      v'.monitor = .stopped ∧ v'.connections = w.connections :=
    fun hi ⟨hm, hl⟩ h => (hi.monitor_stopped_step hm h).imp id (·.trans hl)
  obtain ⟨hi', hm', hl'⟩ := Reaches.of_invariant hstep (ServerInv.reachable hw) ⟨hm, rfl⟩ hr
  exact ⟨hm', (hi'.stopped hm').1, (hi'.stopped hm').2, accept_none_of_closed (hi'.stopped hm').1, hl'⟩

/-- The world right after the monitor's shutdown in `lateRegistrationRun`. -/
def shutdownWorld : World :=
  (runActions (lateRegistrationRun.take 8) (World.init 3)).getD (World.init 3)

theorem shutdown_is_final_late :
    Reachable 3 shutdownWorld ∧ shutdownWorld.monitor = .stopped ∧
      Reaches shutdownWorld ((runActions lateRegistrationRun (World.init 3)).getD shutdownWorld) ∧
      ((runActions lateRegistrationRun (World.init 3)).getD shutdownWorld).monitor = .stopped ∧
      ((runActions lateRegistrationRun (World.init 3)).getD shutdownWorld).listening = false ∧
      ((runActions lateRegistrationRun (World.init 3)).getD shutdownWorld).shared.serverIsRunning = false ∧
      (∀ clientSocket,
        step (.accept clientSocket) ((runActions lateRegistrationRun (World.init 3)).getD shutdownWorld) = none) ∧
      ((runActions lateRegistrationRun (World.init 3)).getD shutdownWorld).handlers.length +
          (if ((runActions lateRegistrationRun (World.init 3)).getD shutdownWorld).spawning then 1 else 0) =
        shutdownWorld.handlers.length + (if shutdownWorld.spawning then 1 else 0) :=
  have h₁ : Reachable 3 shutdownWorld := ⟨lateRegistrationRun.take 8, rfl⟩
  have h₂ : shutdownWorld.monitor = .stopped := by decide
  have h₃ : Reaches shutdownWorld ((runActions lateRegistrationRun (World.init 3)).getD shutdownWorld) :=
    ⟨lateRegistrationRun.drop 8, rfl⟩
  ⟨h₁, h₂, h₃, shutdown_is_final h₁ h₂ h₃⟩

/-- In `shutdownWorld` the accepted connection of `B` has no handler yet; its
handler starts after the shutdown. -/
example : (shutdownWorld.handlers.length, shutdownWorld.spawning,
    ((runActions lateRegistrationRun (World.init 3)).getD shutdownWorld).handlers.length) = (1, true, 2) := by
  decide

/-! ## 5. The broadcaster -/

/-- Client `A` registers and both watchers arm; `B` connects; `A` leaves and the
broadcaster stops; `B` registers, so the monitor keeps running, and chats. -/
def idleBroadcasterRun : List Action :=
  [.accept 4, .createHandler 1, .handlerStart 0 (some "10.0.0.1".toList),
   .handlerRegister 0 (clientFrame "A" ">>hello<<"), .broadcaster, .monitor,
   .accept 5, .createHandler 2, .handlerStart 1 (some "10.0.0.2".toList),
   .handlerMessage 0 (clientFrame "A" ">>bye<<"), .broadcaster,
   .handlerRegister 1 (clientFrame "B" ">>hello<<"), .monitor, .handlerMessage 1 (clientFrame "B" "hi")]

/-- The broadcaster has stopped while the server runs with a registered client
whose message waits in the queue. -/
theorem broadcaster_stops_while_running :
    (runActions idleBroadcasterRun (World.init 3)).map (fun w =>
      (w.broadcaster, w.shared.serverIsRunning, w.monitor, w.shared.numClients, w.queue.length)) =
      some (.stopped, true, .running, 1, 1) := by decide

/-- A step that stops the broadcaster is its own unlocked test, which read
`numClients <= 0`, or its `msgrcv` on the queue `cleanUpServer` removed after
the accept loop. -/
theorem ServerInv.broadcaster_stop_step {w w' : World} (hi : ServerInv w) {a : Action}
    (h : step a w = some w') (hb : w.broadcaster ≠ .stopped) (hb' : w'.broadcaster = .stopped) :
    w.shared.numClients ≤ 0 ∨ w.queueRemoved = true ∧ w.accepting = false := by
  cases ha : a.byHandler
  · cases a with
    | accept => obtain ⟨-, -, -, -, rfl⟩ := acceptClient_some h; exact absurd hb' hb
    | createHandler =>
      obtain ⟨-, -, rfl⟩ := createClientHandler_some h
      simp only at hb'
      split at hb' <;> simp_all
    | acceptFail => obtain ⟨-, -, rfl⟩ := acceptFailed_some h; exact absurd hb' hb
    | cleanUp => obtain ⟨-, -, rfl⟩ := cleanUpServer_some h; exact absurd hb' hb
    | monitor =>
      obtain ⟨-, ⟨_, -, rfl⟩ | ⟨-, rfl⟩⟩ := clientConnectionMonitorStep_some h <;> exact absurd hb' hb
    | broadcaster =>
      obtain ⟨-, -, _, _, _, rfl, -, hs, -⟩ := chatBroadcasterStep_some h
      exact (hs hb').imp (·.2) fun hr => ⟨hr.2, hi.removed hr.2⟩
    | _ => cases ha
  · exact absurd ((HandlerFrame.of_step hi.registry ha h).broadcaster ▸ hb') hb

/-- A step from a stopped broadcaster keeps it stopped, and takes nothing off
the queue. -/
theorem ServerInv.broadcaster_stopped_step {w w' : World} (hi : ServerInv w)
    (hb : w.broadcaster = .stopped) {a : Action} (h : step a w = some w') :
    w'.broadcaster = .stopped ∧ w.queue <+: w'.queue := by
  cases ha : a.byHandler
  · cases a with
    | accept => obtain ⟨-, -, -, -, rfl⟩ := acceptClient_some h; exact ⟨hb, List.prefix_refl _⟩
    | createHandler =>
      obtain ⟨-, -, rfl⟩ := createClientHandler_some h
      refine ⟨?_, List.prefix_refl _⟩
      show (if w.totalConnections = 0 then _ else _) = _
      rw [if_neg fun h0 => by simp [(hi.started h0).2] at hb]
      exact hb
    | acceptFail => obtain ⟨-, -, rfl⟩ := acceptFailed_some h; exact ⟨hb, List.prefix_refl _⟩
    | cleanUp => obtain ⟨-, -, rfl⟩ := cleanUpServer_some h; exact ⟨hb, List.prefix_refl _⟩
    | monitor =>
      obtain ⟨-, ⟨_, -, rfl⟩ | ⟨-, rfl⟩⟩ := clientConnectionMonitorStep_some h <;>
        exact ⟨hb, List.prefix_refl _⟩
    | broadcaster => exact absurd hb (chatBroadcasterStep_some h).2.1
    | _ => cases ha
  · have hf := HandlerFrame.of_step hi.registry ha h
    exact ⟨hf.broadcaster ▸ hb, hf.queue⟩

/-- The broadcaster leaves its loop only on a step that reads `numClients <= 0`,
or on the queue that `cleanUpServer` removed after the accept loop ended; once
it has, it stays stopped and the queue only grows: no Broadcast enqueued
afterwards is ever taken off it. -/
theorem broadcaster_stop_is_final {serverSocket : Nat} {w : World} (hw : Reachable serverSocket w) :
    (∀ (a : Action) (w' : World), step a w = some w' → w.broadcaster ≠ .stopped →
      w'.broadcaster = .stopped → w.shared.numClients ≤ 0 ∨ w.queueRemoved = true ∧ w.accepting = false) ∧
    (w.broadcaster = .stopped → ∀ w', Reaches w w' →
      w'.broadcaster = .stopped ∧ w.queue <+: w'.queue) := by
  have hi := ServerInv.reachable hw
  refine ⟨fun _ _ h hb hb' => hi.broadcaster_stop_step h hb hb', fun hb w' hr => ?_⟩
  have hstep : ∀ {a : Action} {v v' : World}, ServerInv v →
      v.broadcaster = .stopped ∧ w.queue <+: v.queue → step a v = some v' →
      v'.broadcaster = .stopped ∧ w.queue <+: v'.queue :=
    fun hv ⟨hb, hq⟩ h => (hv.broadcaster_stopped_step hb h).imp id hq.trans
  exact (Reaches.of_invariant hstep hi ⟨hb, List.prefix_refl _⟩ hr).2

/-- The world right after the broadcaster stopped in `idleBroadcasterRun`. -/
def idleWorld : World :=
  (runActions (idleBroadcasterRun.take 11) (World.init 3)).getD (World.init 3)

theorem broadcaster_stop_is_final_idle :
    Reachable 3 idleWorld ∧
      (∀ (a : Action) (w' : World), step a idleWorld = some w' → idleWorld.broadcaster ≠ .stopped →
        w'.broadcaster = .stopped →
          idleWorld.shared.numClients ≤ 0 ∨ idleWorld.queueRemoved = true ∧ idleWorld.accepting = false) ∧
      (idleWorld.broadcaster = .stopped → ∀ w', Reaches idleWorld w' →
        w'.broadcaster = .stopped ∧ idleWorld.queue <+: w'.queue) :=
  have h : Reachable 3 idleWorld := ⟨idleBroadcasterRun.take 11, rfl⟩
  ⟨h, broadcaster_stop_is_final h⟩

end ChatSystem
