/-
ChatSystem.Sockets — the sockets the server writes to when the accept loop
does not run ahead of the handlers it starts.

`runServer` hands each handler a pointer to its `NewClient` variable
(`ChatSystem.Delivery`): a handler that reads it after the next `accept`
serves the wrong socket, so that two handlers share one and another socket is
served by none (`handoff_race`). Here the accept loop waits:
an `accept` runs only when no handler is still starting (`Action.waits`,
`waitingRun`). Over every such run (`SocketInv.waitingRun`):

* the handlers that have read their socket and not closed it hold distinct
  sockets, all open;
* at most one handler is starting, none while an accepted connection waits
  for its handler, and the `NewClient` the one starting or the next will read
  is open and held by no other handler.

A step writes only the replies of `processMessage`, on its handler's socket,
and the fan-out, on the sockets of the live entries, which are those of the handlers
that hold them (`fanOut_writes`). So every frame the server writes in such a
run goes to an open socket (`writes_go_to_open_sockets`), and the fan-out never
writes to a connection whose handler has not registered
(`fanOut_only_to_registered`), which `broadcast_before_registration_reply`
shows it does when two handlers share a socket; nor does it write a Broadcast
twice to one connection (`fanOut_once_per_socket`), as
`split_message_written_twice` shows it does then.

The waiting is what the hand-off needs: in such a run there is one handler
for each `accept`, in order, but for the last when its handler is still to be
created, and each handler that has started serves the socket of its own
`accept` (`handlers_serve_own_accepts`), where `handoff_race` gives one handler
the socket of the next.
-/
import ChatSystem.Delivery

namespace ChatSystem

/-! ## 1. Runs whose accepts wait -/

/-- An `accept` that waits until no handler is still starting; every other
step may run whenever the model allows it. -/
def Action.waits (w : World) : Action → Bool
  | .accept .. => w.handlers.all fun h => h.phase != .starting
  | _ => true

/-- `runActions` on a schedule whose accepts wait: `none` when a step cannot
run or an `accept` does not wait. -/
def waitingRun : List Action → World → Option World
  | [], w => some w
  | a :: rest, w => if a.waits w then (step a w).bind (waitingRun rest) else none

/-- A waiting run is a run of the server. -/
theorem waitingRun_runActions :
    ∀ (acts : List Action) {w w' : World}, waitingRun acts w = some w' → runActions acts w = some w'
  | [], _, _, h => h
  | a :: rest, w, _, h => by
    rw [waitingRun] at h
    split at h
    · obtain ⟨v, hv, h⟩ := Option.bind_eq_some.mp h
      exact Option.bind_eq_some.mpr ⟨v, hv, waitingRun_runActions rest h⟩
    · cases h

example : waitingRun handoffRaceRun (World.init 3) = none := by decide

/-- `sessionRun` waits: its second `accept` comes after the first handler
started. -/
theorem waitingRun_sessionRun : waitingRun sessionRun (World.init 3) = some sessionWorld := rfl

/-! ## 2. The sockets the handlers hold -/

/-- The socket of a handler that has read it and not closed it. -/
def Handler.activeSocket? (h : Handler) : Option Nat :=
  match h.phase with
  | .registering | .registered | .quitting _ => some h.clientSocket
  | _ => none

/-- A mark for each handler still starting. -/
def Handler.startingMark? (h : Handler) : Option Unit :=
  if h.phase = .starting then some () else none

/-- The sockets of the handlers, and the `NewClient` a starting handler or the
next one will read, are open and held once. -/
structure SocketInv (w : World) : Prop where
  open_active : ∀ s ∈ w.handlers.filterMap Handler.activeSocket?, s ∈ w.openSockets
  nodup_active : (w.handlers.filterMap Handler.activeSocket?).Nodup
  starting : ∀ h ∈ w.handlers, h.phase = .starting →
    w.newClient ∈ w.openSockets ∧ w.newClient ∉ w.handlers.filterMap Handler.activeSocket?
  one_starting : (w.handlers.filterMap Handler.startingMark?).length ≤ 1
  spawning : w.spawning = true →
    w.newClient ∈ w.openSockets ∧ w.newClient ∉ w.handlers.filterMap Handler.activeSocket? ∧
      w.handlers.filterMap Handler.startingMark? = []

theorem startingMark?_of_activeSocket? {h : Handler} {s : Nat} (hs : h.activeSocket? = some s) :
    h.startingMark? = none := by
  unfold Handler.activeSocket? at hs
  unfold Handler.startingMark?
  split at hs <;> simp_all

theorem activeSocket?_of_holdsEntry {h : Handler} (hh : h.holdsEntry = true) :
    h.activeSocket? = some h.clientSocket := by
  unfold Handler.holdsEntry at hh
  unfold Handler.activeSocket?
  split at hh <;> simp_all

/-- No handler is starting once the marks are gone. -/
theorem not_starting_of_marks {hs : List Handler} (h0 : hs.filterMap Handler.startingMark? = [])
    {h : Handler} (hm : h ∈ hs) : h.phase ≠ .starting := fun hp =>
  List.not_mem_nil () (h0 ▸ List.mem_filterMap.mpr ⟨h, hm, by simp [Handler.startingMark?, hp]⟩)

section Steps

variable {w w' : World} {i : Nat} {hd : Handler}

/-- A step that leaves the handlers, the open sockets and the hand-off alone. -/
theorem SocketInv.congr (hi : SocketInv w) (hh : w'.handlers = w.handlers)
    (ho : w'.openSockets = w.openSockets) (hn : w'.newClient = w.newClient)
    (hs : w'.spawning = w.spawning) : SocketInv w' := by
  obtain ⟨h₁, h₂, h₃, h₄, h₅⟩ := hi
  rw [← hh, ← ho, ← hn] at *
  exact ⟨h₁, h₂, h₃, h₄, hs ▸ h₅⟩

/-- Replacing a handler that is not starting by one that is not starting and
holds the same socket, if any. -/
theorem SocketInv.of_set (hi : SocketInv w) (hhd : w.handlers[i]? = some hd) (hd' : Handler)
    (hmark : hd.startingMark? = none) (hmark' : hd'.startingMark? = none)
    (hsock : hd'.activeSocket? = hd.activeSocket?) (hh : w'.handlers = w.handlers.set i hd')
    (ho : w'.openSockets = w.openSockets) (hn : w'.newClient = w.newClient)
    (hs : w'.spawning = w.spawning) : SocketInv w' := by
  have hperm := filterMap_set_perm_of_eq hhd hsock
  rw [← hh] at hperm
  have hmarks := filterMap_set_perm_of_eq hhd (hmark'.trans hmark.symm)
  rw [← hh] at hmarks
  refine ⟨fun s hs => ho ▸ hi.open_active s (hperm.subset hs), hperm.nodup_iff.mpr hi.nodup_active,
    fun h hm hp => ?_, hmarks.length_eq ▸ hi.one_starting, fun hsp => ?_⟩
  · rw [hh] at hm
    rcases List.mem_or_eq_of_mem_set hm with hm | rfl
    · rw [hn, ho, hperm.mem_iff]; exact hi.starting h hm hp
    · simp [Handler.startingMark?, hp] at hmark'
  · obtain ⟨hopen, hnot, h0⟩ := hi.spawning (hs ▸ hsp)
    rw [hn, ho, hperm.mem_iff, ← List.length_eq_zero, hmarks.length_eq, List.length_eq_zero]
    exact ⟨hopen, hnot, h0⟩

/-- Retiring an active handler: it closes its socket. -/
theorem SocketInv.of_retire (hi : SocketInv w) (hhd : w.handlers[i]? = some hd) {s : Nat}
    (hs : hd.activeSocket? = some s) (hd' : Handler) (hmark' : hd'.startingMark? = none)
    (hsock : hd'.activeSocket? = none) (hh : w'.handlers = w.handlers.set i hd')
    (ho : w'.openSockets = w.openSockets.erase s) (hn : w'.newClient = w.newClient)
    (hsp : w'.spawning = w.spawning) : SocketInv w' := by
  have hperm := filterMap_set_perm Handler.activeSocket? hd' hhd
  rw [hs, hsock, Option.toList_some, Option.toList_none, List.append_nil, ← hh] at hperm
  have hmarks := filterMap_set_perm_of_eq hhd (hmark'.trans (startingMark?_of_activeSocket? hs).symm)
  rw [← hh] at hmarks
  have hnd := hperm.nodup_iff.mpr hi.nodup_active
  have hsub : ∀ t ∈ w'.handlers.filterMap Handler.activeSocket?,
      t ∈ w.handlers.filterMap Handler.activeSocket? :=
    fun t ht => hperm.subset (List.mem_append_left _ ht)
  have hs_act : s ∈ w.handlers.filterMap Handler.activeSocket? :=
    hperm.subset (List.mem_append_right _ (List.mem_singleton_self s))
  have hs_not : s ∉ w'.handlers.filterMap Handler.activeSocket? :=
    fun h => (List.nodup_append.mp hnd).2.2 h (List.mem_singleton_self s)
  -- the `NewClient` still to be read is not the socket closed
  have hkeep : w.newClient ∈ w.openSockets → w.newClient ∉ w.handlers.filterMap Handler.activeSocket? →
      w'.newClient ∈ w'.openSockets ∧ w'.newClient ∉ w'.handlers.filterMap Handler.activeSocket? :=
    fun hopen hnot => by
      rw [hn, ho]
      exact ⟨(List.mem_erase_of_ne fun e : w.newClient = s => hnot (e ▸ hs_act)).mpr hopen,
        fun h' => hnot (hsub _ h')⟩
  refine ⟨fun t ht => ?_, (List.nodup_append.mp hnd).1, fun h hm hp => ?_,
    hmarks.length_eq ▸ hi.one_starting, fun hsp' => ?_⟩
  · rw [ho]
    exact (List.mem_erase_of_ne fun e : t = s => hs_not (e ▸ ht)).mpr (hi.open_active t (hsub t ht))
  · rw [hh] at hm
    rcases List.mem_or_eq_of_mem_set hm with hm | rfl
    · exact hkeep (hi.starting h hm hp).1 (hi.starting h hm hp).2
    · simp [Handler.startingMark?, hp] at hmark'
  · obtain ⟨hopen, hnot, h0⟩ := hi.spawning (hsp ▸ hsp')
    rw [← List.length_eq_zero, hmarks.length_eq, List.length_eq_zero]
    exact ⟨(hkeep hopen hnot).1, (hkeep hopen hnot).2, h0⟩

/-- With no handler starting and no connection waiting for one, the invariant
is about the handlers' sockets. -/
theorem SocketInv.of_no_starting (hmarks : w.handlers.filterMap Handler.startingMark? = [])
    (hsp : w.spawning = false)
    (hopen : ∀ s ∈ w.handlers.filterMap Handler.activeSocket?, s ∈ w.openSockets)
    (hnodup : (w.handlers.filterMap Handler.activeSocket?).Nodup) : SocketInv w :=
  ⟨hopen, hnodup, fun _ hm hp => absurd hp (not_starting_of_marks hmarks hm), by simp [hmarks],
    fun h => absurd h (by simp [hsp])⟩

/-- The handler that starts was the only one starting. -/
theorem SocketInv.marks_set_of_starting (hi : SocketInv w) (hhd : w.handlers[i]? = some hd)
    (hp : hd.phase = .starting) {hd' : Handler} (hp' : hd'.phase ≠ .starting) :
    (w.handlers.set i hd').filterMap Handler.startingMark? = [] := by
  have hlen := (filterMap_set_perm Handler.startingMark? hd' hhd).length_eq
  simp only [Handler.startingMark?, hp, hp', if_true, if_false, List.length_append,
    Option.toList_some, Option.toList_none, List.length_singleton, List.length_nil] at hlen
  exact List.eq_nil_of_length_eq_zero (by have := hi.one_starting; omega)

/-- While a handler is starting, no accepted connection waits for one. -/
theorem SocketInv.not_spawning (hi : SocketInv w) (hhd : w.handlers[i]? = some hd)
    (hp : hd.phase = .starting) : w.spawning = false := by
  cases hs : w.spawning
  · rfl
  · exact absurd (hi.spawning hs).2.2 fun h0 =>
      not_starting_of_marks h0 (List.getElem?_mem hhd) hp

/-- A starting handler reads `NewClient`: it holds that socket, or closes it
when `getClientIP` fails. -/
theorem SocketInv.clientHandlerStart (hi : SocketInv w) {clientIP : Option (List Char)}
    (h : step (.handlerStart i clientIP) w = some w') : SocketInv w' := by
  obtain ⟨hd, hhd, hp, hcases⟩ := clientHandlerStart_some h
  obtain ⟨hopen, hnot⟩ := hi.starting hd (List.getElem?_mem hhd) hp
  have hsp := hi.not_spawning hhd hp
  have hact : hd.activeSocket? = none := by simp [Handler.activeSocket?, hp]
  rcases hcases with ⟨ip, -, rfl⟩ | ⟨-, rfl⟩
  · have hperm := filterMap_set_perm Handler.activeSocket?
      { hd with clientSocket := w.newClient, clientIP := ip, phase := .registering } hhd
    rw [hact] at hperm
    simp only [Option.toList_none, List.append_nil, Handler.activeSocket?, Option.toList_some] at hperm
    refine .of_no_starting (hi.marks_set_of_starting hhd hp (by simp)) hsp (fun s hs => ?_)
      (hperm.nodup_iff.mpr (List.nodup_append.mpr ⟨hi.nodup_active, List.nodup_singleton _,
        fun _ ha hb => hnot (List.mem_singleton.mp hb ▸ ha)⟩))
    rcases List.mem_append.mp (hperm.subset hs) with hs | hs
    · exact hi.open_active s hs
    · rw [List.mem_singleton.mp hs]; exact hopen
  · have hperm := filterMap_set_perm_of_eq (f := Handler.activeSocket?)
      (b := { hd with clientSocket := w.newClient, phase := .closed }) hhd
      (by simp [Handler.activeSocket?, hp])
    refine .of_no_starting (hi.marks_set_of_starting hhd hp (by simp)) hsp (fun s hs => ?_)
      (hperm.nodup_iff.mpr hi.nodup_active)
    have hs' := hperm.subset hs
    exact (List.mem_erase_of_ne fun e : s = w.newClient => hnot (e ▸ hs')).mpr (hi.open_active s hs')

/-- An `accept` that waits: the new socket is not open before it, and no
handler is starting. -/
theorem SocketInv.acceptClient (hi : SocketInv w) {clientSocket : Nat}
    (hw : (Action.accept clientSocket).waits w = true)
    (h : step (.accept clientSocket) w = some w') : SocketInv w' := by
  obtain ⟨-, -, -, hfresh, rfl⟩ := acceptClient_some h
  have hwait : ∀ h ∈ w.handlers, h.phase ≠ .starting := by
    simpa [Action.waits] using hw
  have hmarks : w.handlers.filterMap Handler.startingMark? = [] :=
    List.filterMap_eq_nil_iff.mpr fun h hm => by simp [Handler.startingMark?, hwait h hm]
  refine ⟨fun s hs => List.mem_append_left _ (hi.open_active s hs), hi.nodup_active,
    fun h hm hp => absurd hp (hwait h hm), by simp [hmarks], fun _ => ?_⟩
  exact ⟨List.mem_append_right _ (List.mem_singleton_self _), fun hs => hfresh (hi.open_active _ hs), hmarks⟩

/-- The handler created for the accepted connection is the one starting: it
will read the `NewClient` that waited for it. -/
theorem SocketInv.createClientHandler (hi : SocketInv w) {threadID : Nat}
    (h : step (.createHandler threadID) w = some w') : SocketInv w' := by
  obtain ⟨hs, -, rfl⟩ := createClientHandler_some h
  obtain ⟨hopen, hnot, hmarks⟩ := hi.spawning hs
  have hnew :
      ([⟨threadID, 0, [], .starting⟩] : List Handler).filterMap Handler.activeSocket? = [] := rfl
  refine ⟨fun s hs => ?_, ?_, fun _ _ _ => ?_, ?_, fun h => nomatch h⟩
  · rw [List.filterMap_append, hnew, List.append_nil] at hs
    exact hi.open_active s hs
  · rw [List.filterMap_append, hnew, List.append_nil]; exact hi.nodup_active
  · rw [List.filterMap_append, hnew, List.append_nil]
    exact ⟨hopen, hnot⟩
  · show ((w.handlers ++ _).filterMap _).length ≤ 1
    rw [List.filterMap_append, hmarks]; rfl

/-- Every step that may run in a waiting run keeps the invariant. -/
theorem SocketInv.step (hi : SocketInv w) {a : Action} (hw : a.waits w = true)
    (h : step a w = some w') : SocketInv w' := by
  cases a with
  | accept => exact hi.acceptClient hw h
  | createHandler => exact hi.createClientHandler h
  | acceptFail => obtain ⟨-, -, rfl⟩ := acceptFailed_some h; exact hi.congr rfl rfl rfl rfl
  | cleanUp => obtain ⟨-, -, rfl⟩ := cleanUpServer_some h; exact hi.congr rfl rfl rfl rfl
  | handlerStart => exact hi.clientHandlerStart h
  | handlerRegister i frame =>
    obtain ⟨hd, r, hhd, hp, -, rfl⟩ := clientHandlerRegister_some h
    have hs : hd.activeSocket? = some hd.clientSocket := by simp [Handler.activeSocket?, hp]
    have hmark := startingMark?_of_activeSocket? hs
    split
    · exact hi.of_set hhd _ hmark (by simp [Handler.startingMark?]) (by simp [Handler.activeSocket?, hp])
        rfl rfl rfl rfl
    · exact hi.of_retire hhd hs _ (by simp [Handler.startingMark?]) (by simp [Handler.activeSocket?])
        rfl rfl rfl rfl
  | handlerMessage i frame =>
    obtain ⟨hd, r, hhd, hp, -, rfl⟩ := clientHandlerMessage_some h
    have hs : hd.activeSocket? = some hd.clientSocket := by simp [Handler.activeSocket?, hp]
    exact hi.of_set hhd
      { hd with phase := if r.retVal = messageProcessSuccess then .registered else .quitting r.retVal }
      (startingMark?_of_activeSocket? hs) (by split <;> simp [Handler.startingMark?])
      (by split <;> simp [Handler.activeSocket?, hp]) (by simp) (by simp) (by simp) (by simp)
  | handlerResume i =>
    obtain ⟨bs, -, -, rfl⟩ := clientHandlerResume_some h
    exact hi.congr (by simp) (by simp) (by simp) (by simp)
  | handlerCleanUp i =>
    obtain ⟨hd, processResult, sd, hhd, hp, -, rfl⟩ := clientHandlerCleanUp_some h
    exact hi.of_retire hhd (by simp [Handler.activeSocket?, hp]) _ (by simp [Handler.startingMark?])
      (by simp [Handler.activeSocket?]) rfl rfl rfl rfl
  | monitor =>
    obtain ⟨-, ⟨m, -, rfl⟩ | ⟨-, rfl⟩⟩ := clientConnectionMonitorStep_some h <;>
      exact hi.congr rfl rfl rfl rfl
  | broadcaster =>
    obtain ⟨-, -, _, _, _, rfl, -⟩ := chatBroadcasterStep_some h
    exact hi.congr rfl rfl rfl rfl

theorem SocketInv.init (serverSocket : Nat) : SocketInv (World.init serverSocket) := by
  constructor <;> simp [World.init]

theorem SocketInv.waitingRun :
    ∀ (acts : List Action) {w w' : World}, SocketInv w → waitingRun acts w = some w' → SocketInv w'
  | [], _, _, hi, h => by cases h; exact hi
  | a :: rest, w, _, hi, h => by
    rw [ChatSystem.waitingRun] at h
    split at h
    · obtain ⟨v, hv, h⟩ := Option.bind_eq_some.mp h
      exact SocketInv.waitingRun rest (hi.step ‹_› hv) h
    · cases h

end Steps

/-! ## 3. Where the writes go -/

/-- The broadcaster writes only in its fan-out. -/
theorem chatBroadcasterStep_writes {w w' : World} (h : step .broadcaster w = some w') :
    w'.writes = w.writes ∨ ∃ b, w.broadcaster = .fanningOut b := by
  replace h : chatBroadcasterStep w = some w' := (step_eq_some h).2
  unfold chatBroadcasterStep at h
  split at h
  · cases h; exact .inl rfl
  · cases h; exact .inl rfl
  · split at h
    · cases h; exact .inl rfl
    · split at h <;> (cases h; exact .inl rfl)
  · exact .inr ⟨_, ‹_›⟩
  · cases h

/-- Every frame a step writes from a reachable world that keeps `SocketInv`
goes to an open socket: a reply to the socket of its handler, the fan-out to
the sockets of the handlers that hold the live entries. -/
theorem sent_to_open_sockets {serverSocket : Nat} {w w' : World} (hs : SocketInv w)
    (hw : Reachable serverSocket w) {a : Action} (h : step a w = some w') :
    ∃ sent, w'.writes = w.writes ++ sent ∧ ∀ p ∈ sent, p.1 ∈ w.openSockets := by
  have hheld : ∀ {hd : Handler}, hd ∈ w.handlers → hd.activeSocket? = some hd.clientSocket →
      hd.clientSocket ∈ w.openSockets :=
    fun hm ha => hs.open_active _ (List.mem_filterMap.mpr ⟨_, hm, ha⟩)
  -- the replies of a handler go to its socket
  have hreplies : ∀ {hd : Handler}, hd ∈ w.handlers → hd.activeSocket? = some hd.clientSocket →
      ∀ (bs : List Broadcast), ∀ p ∈ bs.map (hd.clientSocket, ·), p.1 ∈ w.openSockets := by
    rintro hd hm ha bs _ hp
    obtain ⟨_, -, rfl⟩ := List.mem_map.mp hp
    exact hheld hm ha
  have hnone : ∃ sent, w.writes = w.writes ++ sent ∧ ∀ p ∈ sent, p.1 ∈ w.openSockets :=
    ⟨[], (List.append_nil _).symm, by simp⟩
  cases a with
  | accept => obtain ⟨-, -, -, -, rfl⟩ := acceptClient_some h; exact hnone
  | createHandler => obtain ⟨-, -, rfl⟩ := createClientHandler_some h; exact hnone
  | acceptFail => obtain ⟨-, -, rfl⟩ := acceptFailed_some h; exact hnone
  | cleanUp => obtain ⟨-, -, rfl⟩ := cleanUpServer_some h; exact hnone
  | handlerStart =>
    obtain ⟨hd, -, -, ⟨_, -, rfl⟩ | ⟨-, rfl⟩⟩ := clientHandlerStart_some h <;> exact hnone
  | handlerRegister i frame =>
    obtain ⟨hd, r, hhd, hp, -, rfl⟩ := clientHandlerRegister_some h
    exact ⟨_, by split <;> rfl,
      hreplies (List.getElem?_mem hhd) (by simp [Handler.activeSocket?, hp]) r.replies⟩
  | handlerMessage i frame =>
    obtain ⟨hd, r, hhd, hp, -, rfl⟩ := clientHandlerMessage_some h
    exact ⟨_, by simp,
      hreplies (List.getElem?_mem hhd) (by simp [Handler.activeSocket?, hp]) r.replies⟩
  | handlerResume =>
    obtain ⟨bs, -, -, rfl⟩ := clientHandlerResume_some h
    rw [World.sendToQueue_writes]; exact hnone
  | handlerCleanUp =>
    obtain ⟨hd, -, sd, -, -, -, rfl⟩ := clientHandlerCleanUp_some h; exact hnone
  | monitor =>
    obtain ⟨-, ⟨m, -, rfl⟩ | ⟨-, rfl⟩⟩ := clientConnectionMonitorStep_some h <;> exact hnone
  | broadcaster =>
    rcases chatBroadcasterStep_writes h with he | ⟨b, hb⟩
    · rw [he]; exact hnone
    obtain ⟨hwrites, hlive⟩ := fanOut_writes hw hb h
    refine ⟨_, hwrites, fun p hp => ?_⟩
    obtain ⟨e, he, rfl⟩ := List.mem_map.mp hp
    obtain ⟨hd, hm, hh, hk⟩ := hlive e he
    -- an entry's key carries its socket
    rw [show e.clientSocket = hd.clientSocket from (congrArg (·.2.1) hk).symm]
    exact hheld hm (activeSocket?_of_holdsEntry hh)

/-- In every run from a server started on `serverSocket` whose accepts wait
for the handlers they start, the handlers that have read their socket and not
closed it hold distinct open sockets, and every frame any next step writes goes
to a socket that is open. -/
theorem writes_go_to_open_sockets {serverSocket : Nat} {acts : List Action} {w : World}
    (hrun : waitingRun acts (World.init serverSocket) = some w) :
    (w.handlers.filterMap Handler.activeSocket?).Nodup ∧
      (∀ s ∈ w.handlers.filterMap Handler.activeSocket?, s ∈ w.openSockets) ∧
      ∀ (a : Action) (w' : World), step a w = some w' →
        ∃ sent, w'.writes = w.writes ++ sent ∧ ∀ p ∈ sent, p.1 ∈ w.openSockets := by
  have hs := SocketInv.waitingRun acts (SocketInv.init serverSocket) hrun
  exact ⟨hs.nodup_active, hs.open_active,
    fun _ _ => sent_to_open_sockets hs ⟨acts, waitingRun_runActions acts hrun⟩⟩

theorem writes_go_to_open_sockets_session :
    waitingRun sessionRun (World.init 3) = some sessionWorld ∧
      (sessionWorld.handlers.filterMap Handler.activeSocket?).Nodup ∧
      (∀ s ∈ sessionWorld.handlers.filterMap Handler.activeSocket?, s ∈ sessionWorld.openSockets) ∧
      ∀ (a : Action) (w' : World), step a sessionWorld = some w' →
        ∃ sent, w'.writes = sessionWorld.writes ++ sent ∧ ∀ p ∈ sent, p.1 ∈ sessionWorld.openSockets :=
  ⟨waitingRun_sessionRun, writes_go_to_open_sockets waitingRun_sessionRun⟩

/-- `A` registers and says `hi`; `B` connects; the broadcaster pops `hi` while
`B` waits to register. -/
def fanOutRun : List Action :=
  sessionRun.take 4 ++
    [.handlerMessage 0 (clientFrame "A" "hi"), .accept 5, .createHandler 2,
     .handlerStart 1 (some "10.0.0.2".toList), .broadcaster, .broadcaster, .broadcaster]

/-- The world `fanOutRun` reaches from a server on socket 3. -/
def fanOutWorld : World := (waitingRun fanOutRun (World.init 3)).getD (World.init 3)

theorem waitingRun_fanOutRun : waitingRun fanOutRun (World.init 3) = some fanOutWorld := rfl

theorem step_broadcaster_fanOutWorld :
    step .broadcaster fanOutWorld = some ((step .broadcaster fanOutWorld).getD fanOutWorld) := rfl

/-- The fan-out of `hi` writes to `A`'s socket 4 and not to `B`'s socket 5. -/
example : (step .broadcaster fanOutWorld).map (fun w' =>
    (w'.writes.drop fanOutWorld.writes.length).map Prod.fst) = some [4] := by decide

/-- `A` and `B` register; `A` says `hi`; the broadcaster pops it. -/
def pairFanOutRun : List Action :=
  sessionRun.take 8 ++ [.handlerMessage 0 (clientFrame "A" "hi"), .broadcaster, .broadcaster, .broadcaster]

/-- The world `pairFanOutRun` reaches, with the fan-out of `hi` next. -/
def pairWorld : World := (waitingRun pairFanOutRun (World.init 3)).getD (World.init 3)

theorem waitingRun_pairFanOutRun : waitingRun pairFanOutRun (World.init 3) = some pairWorld := rfl

theorem step_broadcaster_pairWorld :
    step .broadcaster pairWorld = some ((step .broadcaster pairWorld).getD pairWorld) := rfl

/-- The fan-out of `hi` writes it once to `A`'s socket 4 and once to `B`'s socket 5. -/
example : (step .broadcaster pairWorld).map (fun w' =>
    (w'.writes.drop pairWorld.writes.length).map Prod.fst) = some [4, 5] := by decide

/-- The socket of an `accept`. -/
def Action.acceptedSocket? : Action → Option Nat
  | .accept clientSocket => some clientSocket
  | _ => none

/-- The socket each handler serves, and the accepted connection still to be
handed to a handler; a handler still starting is given the `NewClient` it will
read. -/
def World.servedSockets (w : World) : List Nat :=
  w.handlers.map (fun hd => if hd.phase = .starting then w.newClient else hd.clientSocket) ++
    if w.spawning then [w.newClient] else []

/-- Replacing an element by one with the same image keeps the mapped list. -/
theorem map_set_of_eq {α β : Type} {f : α → β} {l : List α} {i : Nat} {a b : α}
    (h : l[i]? = some a) (hf : f b = f a) : (l.set i b).map f = l.map f := by
  rw [List.map_set]
  apply List.ext_getElem?
  intro j
  rw [List.getElem?_set, List.getElem?_map]
  split
  · next hij => subst hij; simp [h, hf, (List.getElem?_eq_some_iff.mp h).1]
  · rfl

section Handoff

variable {w w' : World} {i : Nat} {hd : Handler}

theorem servedSockets_setHandler (hhd : w.handlers[i]? = some hd) (hd' : Handler)
    (hf : (if hd'.phase = .starting then w.newClient else hd'.clientSocket) =
      if hd.phase = .starting then w.newClient else hd.clientSocket) :
    (w.setHandler i hd').servedSockets = w.servedSockets := by
  rw [World.servedSockets, World.servedSockets, World.setHandler_handlers, map_set_of_eq hhd hf]
  rfl

/-- A step that may run in a waiting run adds the socket of an `accept` and
changes no other handler's: the connection's handler takes the `NewClient`
it was given, and the others keep their socket. -/
theorem servedSockets_step {a : Action} (hw : a.waits w = true) (h : step a w = some w') :
    w'.servedSockets = w.servedSockets ++ a.acceptedSocket?.toList := by
  cases a with
  | accept clientSocket =>
    obtain ⟨-, hs, -, -, rfl⟩ := acceptClient_some h
    have hwait : ∀ h ∈ w.handlers, h.phase ≠ .starting := by simpa [Action.waits] using hw
    simp only [World.servedSockets, hs, if_true, if_false, List.append_nil, Action.acceptedSocket?,
      Option.toList_some, Bool.false_eq_true]
    congr 1
    exact List.map_congr_left fun h hm => by simp [hwait h hm]
  | createHandler =>
    obtain ⟨hs, -, rfl⟩ := createClientHandler_some h
    simp [World.servedSockets, hs, Action.acceptedSocket?]
  | acceptFail => obtain ⟨-, -, rfl⟩ := acceptFailed_some h; exact (List.append_nil _).symm
  | cleanUp => obtain ⟨-, -, rfl⟩ := cleanUpServer_some h; exact (List.append_nil _).symm
  | handlerStart i clientIP =>
    obtain ⟨hd, hhd, hp, ⟨_, -, rfl⟩ | ⟨-, rfl⟩⟩ := clientHandlerStart_some h <;>
      exact (servedSockets_setHandler hhd _ (by simp [hp])).trans (List.append_nil _).symm
  | handlerRegister i frame =>
    obtain ⟨hd, r, hhd, hp, -, rfl⟩ := clientHandlerRegister_some h
    split <;> exact (servedSockets_setHandler (w := w.afterProcess hd r) hhd _ (by simp [hp])).trans
      (List.append_nil _).symm
  | handlerMessage i frame =>
    obtain ⟨hd, r, hhd, hp, -, rfl⟩ := clientHandlerMessage_some h
    have hhd' : ((w.afterProcess hd r).sendToQueue i r.enqueued).handlers[i]? = some hd := by simpa using hhd
    rw [servedSockets_setHandler hhd' _ (by split <;> simp [hp])]
    simp [World.servedSockets, Action.acceptedSocket?]
  | handlerResume =>
    obtain ⟨bs, -, -, rfl⟩ := clientHandlerResume_some h
    simp [World.servedSockets, Action.acceptedSocket?]
  | handlerCleanUp i =>
    obtain ⟨hd, processResult, sd, hhd, hp, -, rfl⟩ := clientHandlerCleanUp_some h
    exact (servedSockets_setHandler (w := { w with shared := sd }) hhd _ (by simp [hp])).trans
      (List.append_nil _).symm
  | monitor =>
    obtain ⟨-, ⟨m, -, rfl⟩ | ⟨-, rfl⟩⟩ := clientConnectionMonitorStep_some h <;>
      exact (List.append_nil _).symm
  | broadcaster =>
    obtain ⟨-, -, _, _, _, rfl, -⟩ := chatBroadcasterStep_some h
    exact (List.append_nil _).symm

end Handoff

theorem servedSockets_waitingRun :
    ∀ (acts : List Action) {w w' : World}, waitingRun acts w = some w' →
      w'.servedSockets = w.servedSockets ++ acts.filterMap Action.acceptedSocket?
  | [], _, _, h => by cases h; exact (List.append_nil _).symm
  | a :: rest, w, _, h => by
    rw [waitingRun] at h
    split at h
    · obtain ⟨v, hv, h⟩ := Option.bind_eq_some.mp h
      rw [servedSockets_waitingRun rest h, servedSockets_step ‹_› hv, List.append_assoc]
      rcases ha : a.acceptedSocket? with _ | s <;> simp [List.filterMap_cons, ha]
    · cases h

/-- In every run from a server started on `serverSocket` whose accepts wait
for the handlers they start, there is a handler for each `accept`, in order,
but for the last when its handler is still to be created; the `k`-th handler
belongs to the `k`-th `accept`, and once it has started it serves that
`accept`'s socket. -/
theorem handlers_serve_own_accepts {serverSocket : Nat} {acts : List Action} {w : World}
    (hrun : waitingRun acts (World.init serverSocket) = some w) :
    w.handlers.length + (if w.spawning then 1 else 0) = (acts.filterMap Action.acceptedSocket?).length ∧
      ∀ (k : Nat) (hd : Handler), w.handlers[k]? = some hd → hd.phase ≠ .starting →
        (acts.filterMap Action.acceptedSocket?)[k]? = some hd.clientSocket := by
  have hs : w.servedSockets = acts.filterMap Action.acceptedSocket? :=
    servedSockets_waitingRun acts hrun
  refine ⟨by rw [← hs, World.servedSockets]; split <;> simp, fun k hd hhd hp => ?_⟩
  rw [← hs, World.servedSockets, List.getElem?_append_left (by simpa using (List.getElem?_eq_some_iff.mp hhd).1),
    List.getElem?_map, hhd]
  simp [hp]

theorem handlers_serve_own_accepts_session :
    waitingRun sessionRun (World.init 3) = some sessionWorld ∧
      sessionWorld.handlers.length + (if sessionWorld.spawning then 1 else 0) =
        (sessionRun.filterMap Action.acceptedSocket?).length ∧
      ∀ (k : Nat) (hd : Handler), sessionWorld.handlers[k]? = some hd → hd.phase ≠ .starting →
        (sessionRun.filterMap Action.acceptedSocket?)[k]? = some hd.clientSocket :=
  ⟨waitingRun_sessionRun, handlers_serve_own_accepts waitingRun_sessionRun⟩

end ChatSystem
