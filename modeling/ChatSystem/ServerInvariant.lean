/-
ChatSystem.ServerInvariant — what each step of the server can do, and the
invariant that ties the registry to the handler threads.

Section 2 says once, for each kind of step, everything it can do
(`acceptClient_some`, `clientHandlerRegister_some`, ...); what a handler's step
leaves alone is `HandlerFrame`. Every later proof starts from these and never
unfolds a step again.

`ServerInv` is the invariant of every reachable world:

* the registry invariant of `ChatSystem.ProcessMessageTheorems`;
* the live entries are, up to order, the entries of the handlers whose own
  code has one (`Handler.entryKey?`: from a successful registration until the
  removal by `>>bye<<` or after the loop), each with its handler's thread ID,
  socket and IP;
* the handlers that have not exited have distinct thread IDs (the guard of
  `createClientHandler`);
* `totalConnections` counts the handlers, and the monitor and the broadcaster
  are started exactly when it is not 0;
* a stopped monitor has closed the listening socket and cleared
  `serverIsRunning`, and the queue is removed only after the accept loop;
* the queue never holds more than `queueCapacity` messages.

The message queue comes first in section 2: `World.sendToQueue` appends a
prefix of the Broadcasts and, on a full queue, leaves the rest to the handler
it blocks.

The registry changes only by appending the entry of the handler that
registers, or by removing the one live entry with the thread ID of the handler
that removes; a list operation on the thread ID is a list operation on that
one entry because the thread IDs of the holders are distinct.
-/
import ChatSystem.Server
import ChatSystem.ProcessMessageTheorems

namespace ChatSystem

open List

/-! ## 1. Lists -/

section Lists

variable {α β : Type}

theorem eq_take_cons_drop {l : List α} {i : Nat} {a : α} (h : l[i]? = some a) :
    l = l.take i ++ a :: l.drop (i + 1) := by
  obtain ⟨hi, rfl⟩ := List.getElem?_eq_some_iff.mp h
  rw [← List.drop_eq_getElem_cons, List.take_append_drop]

/-- Writing back the element a list holds leaves it as it was. -/
theorem set_of_getElem? {l : List α} {i : Nat} {a : α} (h : l[i]? = some a) : l.set i a = l :=
  List.ext_getElem? fun j => by
    rw [List.getElem?_set]
    split
    · next hij => subst hij; simp [h, (List.getElem?_eq_some_iff.mp h).1]
    · rfl

/-- Replacing one element changes a `filterMap` by what the old and the new
element give. -/
theorem filterMap_set_perm (f : α → Option β) {l : List α} {i : Nat} {a : α} (b : α)
    (h : l[i]? = some a) :
    (l.set i b).filterMap f ++ (f a).toList ~ l.filterMap f ++ (f b).toList := by
  have hi : i < l.length := (List.getElem?_eq_some_iff.mp h).1
  rw [List.set_eq_take_append_cons_drop, if_pos hi]
  conv_rhs => rw [eq_take_cons_drop h]
  simp only [List.filterMap_append, List.filterMap_cons, List.append_assoc]
  apply Perm.append_left
  cases f a <;> cases f b <;> simp only [Option.toList, List.append_nil, List.cons_append]
  · rfl
  · exact (perm_append_singleton _ _).symm
  · exact perm_append_singleton _ _
  · exact ((perm_append_singleton _ _).cons _).trans
      ((Perm.swap _ _ _).trans ((perm_append_singleton _ _).symm.cons _))

/-- Replacing an element by one that gives the same leaves a `filterMap` alone,
up to order. -/
theorem filterMap_set_perm_of_eq {f : α → Option β} {l : List α} {i : Nat} {a b : α}
    (h : l[i]? = some a) (hf : f b = f a) : (l.set i b).filterMap f ~ l.filterMap f :=
  perm_append_right_iff _ |>.mp (hf ▸ filterMap_set_perm f b h)

/-- Replacing an element by one that gives nothing, or the same, keeps a
`filterMap` without duplicates. -/
theorem nodup_filterMap_set {f : α → Option β} {l : List α} {i : Nat} {a b : α}
    (h : l[i]? = some a) (hf : f b = none ∨ f b = f a) (hn : (l.filterMap f).Nodup) :
    ((l.set i b).filterMap f).Nodup := by
  rcases hf with hf | hf
  · have hp := filterMap_set_perm f b h
    rw [hf, Option.toList, List.append_nil] at hp
    exact (hp.nodup_iff.mpr hn).sublist (List.sublist_append_left _ _)
  · exact (filterMap_set_perm_of_eq h hf).nodup_iff.mpr hn

theorem filterMap_sublist_filterMap {f g : α → Option β}
    (hfg : ∀ a b, f a = some b → g a = some b) : ∀ l : List α, l.filterMap f <+ l.filterMap g
  | [] => List.Sublist.slnil
  | a :: l => by
    have ih := filterMap_sublist_filterMap hfg l
    cases hf : f a with
    | none =>
      rw [List.filterMap_cons_none hf]
      cases hg : g a with
      | none => rwa [List.filterMap_cons_none hg]
      | some c => rw [List.filterMap_cons_some hg]; exact ih.cons _
    | some b =>
      rw [List.filterMap_cons_some hf, List.filterMap_cons_some (hfg a b hf)]
      exact ih.cons₂ _

/-- Two members of a list that give the same value of a `filterMap` without
duplicates are equal. -/
theorem eq_of_mem_of_nodup_filterMap {f : α → Option β} {a b : α} {x : β}
    (ha : f a = some x) (hb : f b = some x) :
    ∀ {l : List α}, (l.filterMap f).Nodup → a ∈ l → b ∈ l → a = b
  | [], _, h, _ => absurd h (List.not_mem_nil _)
  | c :: l, hn, ha', hb' => by
    cases hc : f c with
    | none =>
      rw [List.filterMap_cons_none hc] at hn
      have hac : a ≠ c := by rintro rfl; simp [ha] at hc
      have hbc : b ≠ c := by rintro rfl; simp [hb] at hc
      exact eq_of_mem_of_nodup_filterMap ha hb hn ((List.mem_cons.mp ha').resolve_left hac)
        ((List.mem_cons.mp hb').resolve_left hbc)
    | some y =>
      rw [List.filterMap_cons_some hc, List.nodup_cons, List.mem_filterMap] at hn
      rcases List.mem_cons.mp ha' with rfl | ha'' <;> rcases List.mem_cons.mp hb' with rfl | hb''
      · rfl
      · exact absurd ⟨b, hb'', by rw [hb, ← ha, hc]⟩ hn.1
      · exact absurd ⟨a, ha'', by rw [ha, ← hb, hc]⟩ hn.1
      · exact eq_of_mem_of_nodup_filterMap ha hb hn.2 ha'' hb''

/-- Erasing the first element that satisfies `p`, when only `e` does, erases `e`. -/
theorem eraseP_eq_erase [DecidableEq α] {p : α → Bool} {e : α} (he : p e = true) :
    ∀ {l : List α}, (∀ x ∈ l, p x = true → x = e) → l.eraseP p = l.erase e
  | [], _ => rfl
  | x :: l, h => by
    by_cases hx : p x = true
    · rw [List.eraseP_cons_of_pos hx, h x (List.mem_cons_self _ _) hx, List.erase_cons_head]
    · have hxe : x ≠ e := by rintro rfl; exact hx he
      rw [List.eraseP_cons_of_neg hx, List.erase_cons_tail (by simpa using hxe),
        eraseP_eq_erase he fun y hy => h y (List.mem_cons_of_mem _ hy)]

end Lists

/-! ## 2. What each step can do -/

section Queue

variable (i : Nat)

/-- `sendToQueue` appends some of the Broadcasts to the queue, in order, and
when it blocks leaves the handler waiting with the others; nothing else
changes. -/
theorem World.sendToQueue_eq : ∀ (w : World) (bs : List Broadcast),
    ∃ k s, w.sendToQueue i bs = { w with queue := w.queue ++ bs.take k, sending := s } ∧
      (s = w.sending ∨ s = some (i, bs.drop k))
  | w, [] => ⟨0, w.sending, by rw [List.take_nil, List.append_nil]; rfl, .inl rfl⟩
  | w, b :: bs => by
    unfold World.sendToQueue
    split
    · exact ⟨0, w.sending, by rw [List.take_zero, List.append_nil], .inl rfl⟩
    split
    · obtain ⟨k, s, he, hs⟩ := World.sendToQueue_eq { w with queue := w.queue ++ [b] } bs
      exact ⟨k + 1, s, by rw [he]; simp, hs⟩
    · exact ⟨0, some (i, b :: bs), by rw [List.take_zero, List.append_nil], .inr rfl⟩

variable (w : World)

@[simp] theorem World.sendToQueue_shared (bs : List Broadcast) : (w.sendToQueue i bs).shared = w.shared := by
  obtain ⟨k, s, h, -⟩ := w.sendToQueue_eq i bs; rw [h]

@[simp] theorem World.sendToQueue_handlers (bs : List Broadcast) :
    (w.sendToQueue i bs).handlers = w.handlers := by
  obtain ⟨k, s, h, -⟩ := w.sendToQueue_eq i bs; rw [h]

@[simp] theorem World.sendToQueue_writes (bs : List Broadcast) : (w.sendToQueue i bs).writes = w.writes := by
  obtain ⟨k, s, h, -⟩ := w.sendToQueue_eq i bs; rw [h]

@[simp] theorem World.sendToQueue_openSockets (bs : List Broadcast) :
    (w.sendToQueue i bs).openSockets = w.openSockets := by
  obtain ⟨k, s, h, -⟩ := w.sendToQueue_eq i bs; rw [h]

@[simp] theorem World.sendToQueue_newClient (bs : List Broadcast) :
    (w.sendToQueue i bs).newClient = w.newClient := by
  obtain ⟨k, s, h, -⟩ := w.sendToQueue_eq i bs; rw [h]

@[simp] theorem World.sendToQueue_spawning (bs : List Broadcast) :
    (w.sendToQueue i bs).spawning = w.spawning := by
  obtain ⟨k, s, h, -⟩ := w.sendToQueue_eq i bs; rw [h]

@[simp] theorem World.sendToQueue_broadcaster (bs : List Broadcast) :
    (w.sendToQueue i bs).broadcaster = w.broadcaster := by
  obtain ⟨k, s, h, -⟩ := w.sendToQueue_eq i bs; rw [h]

/-- A `msgsnd` puts a Broadcast on the queue only while it has room. -/
theorem World.length_queue_sendToQueue_le : ∀ {w : World} (bs : List Broadcast),
    w.queue.length ≤ queueCapacity → (w.sendToQueue i bs).queue.length ≤ queueCapacity
  | _, [], h => h
  | w, b :: bs, h => by
    unfold World.sendToQueue
    split
    · exact h
    split
    · next hlt => exact World.length_queue_sendToQueue_le bs (by simpa using hlt)
    · exact h

/-- On a queue with room for all of them, every Broadcast goes on. -/
theorem World.sendToQueue_of_room : ∀ {w : World} {bs : List Broadcast}, w.queueRemoved = false →
    w.queue.length + bs.length ≤ queueCapacity → w.sendToQueue i bs = { w with queue := w.queue ++ bs }
  | w, [], _, _ => by rw [List.append_nil]; rfl
  | w, b :: bs, hr, hroom => by
    have hlt : w.queue.length < queueCapacity := by simp only [List.length_cons] at hroom; omega
    rw [World.sendToQueue, if_neg (by simp [hr]), if_pos hlt,
      World.sendToQueue_of_room (w := { w with queue := w.queue ++ [b] }) hr
        (by simp only [List.length_append, List.length_cons, List.length_nil] at hroom ⊢; omega)]
    simp

/-- On a queue without room for all of them, the Broadcasts go on until it is
full, and the handler blocks with the others. -/
theorem World.sendToQueue_of_overflow : ∀ {w : World} {bs : List Broadcast}, w.queueRemoved = false →
    w.queue.length ≤ queueCapacity → queueCapacity < w.queue.length + bs.length →
    w.sendToQueue i bs = { w with
      queue := w.queue ++ bs.take (queueCapacity - w.queue.length)
      sending := some (i, bs.drop (queueCapacity - w.queue.length)) }
  | w, [], _, hle, hover => absurd hover (by simpa using hle)
  | w, b :: bs, hr, hle, hover => by
    rw [World.sendToQueue, if_neg (by simp [hr])]
    split
    · next hlt =>
      have hk : queueCapacity - w.queue.length = queueCapacity - (w.queue.length + 1) + 1 := by omega
      rw [World.sendToQueue_of_overflow (w := { w with queue := w.queue ++ [b] }) hr
        (by simp only [List.length_append, List.length_singleton]; omega)
        (by simp only [List.length_append, List.length_cons, List.length_singleton] at hover ⊢; omega), hk]
      simp
    · next hlt =>
      rw [show queueCapacity - w.queue.length = 0 by omega, List.take_zero, List.drop_zero,
        List.append_nil]

/-- Once the queue is removed, every `msgsnd` fails. -/
theorem World.sendToQueue_of_removed {w : World} (hr : w.queueRemoved = true) :
    ∀ bs, w.sendToQueue i bs = w
  | [] => rfl
  | _ :: _ => by rw [World.sendToQueue, if_pos hr]

end Queue

section Steps

variable {w w' : World}

/-- A step runs its action when no handler blocked in `msgsnd` holds the mutex
the action needs. -/
theorem step_eq_some {a : Action} (h : step a w = some w') : a.isBlocked w = false ∧ a.run w = some w' := by
  unfold step at h
  split at h
  · cases h
  · next hb => exact ⟨by simpa using hb, h⟩

/-- With no handler blocked in `msgsnd`, every action runs as its thread's code. -/
theorem step_of_sending_none (hs : w.sending = none) (a : Action) : step a w = a.run w := by
  simp [step, Action.isBlocked, hs]

/-- A handler blocked in `msgsnd` takes no other step. -/
theorem step_of_sending_self {i : Nat} {rest : List Broadcast} (hs : w.sending = some (i, rest))
    {a : Action} (ha : a.handler? = some i) : step a w = none := by
  simp [step, Action.isBlocked, hs, ha]

/-- While a handler is blocked in `msgsnd`, a step that locks the mutex waits. -/
theorem step_of_locksMutex {i : Nat} {rest : List Broadcast} (hs : w.sending = some (i, rest))
    {a : Action} (ha : a.locksMutex w = true) : step a w = none := by
  simp [step, Action.isBlocked, hs, ha]

theorem acceptClient_some {clientSocket : Nat} (h : step (.accept clientSocket) w = some w') :
    w.accepting = true ∧ w.spawning = false ∧ w.listening = true ∧ clientSocket ∉ w.openSockets ∧
      w' = { w with
        newClient := clientSocket
        spawning := true
        openSockets := w.openSockets ++ [clientSocket] } := by
  replace h : acceptClient clientSocket w = some w' := (step_eq_some h).2
  unfold acceptClient at h
  split at h
  · next hg => cases h; exact ⟨hg.1, by simpa using hg.2.1, hg.2.2.1, hg.2.2.2.2, rfl⟩
  · cases h

theorem createClientHandler_some {threadID : Nat} (h : step (.createHandler threadID) w = some w') :
    w.spawning = true ∧ threadID ∉ (w.handlers.filter Handler.isLive).map Handler.threadID ∧
      w' = { w with
        spawning := false
        handlers := w.handlers ++ [⟨threadID, 0, [], .starting⟩]
        monitor := if w.totalConnections = 0 then .waiting else w.monitor
        broadcaster := if w.totalConnections = 0 then .waiting else w.broadcaster
        totalConnections := w.totalConnections + 1 } := by
  replace h : createClientHandler threadID w = some w' := (step_eq_some h).2
  unfold createClientHandler at h
  split at h
  · next hg => cases h; exact ⟨hg.1, hg.2, by simp⟩
  · cases h

theorem acceptFailed_some (h : step .acceptFail w = some w') :
    w.accepting = true ∧ w.spawning = false ∧ w' = { w with accepting := false } := by
  replace h : acceptFailed w = some w' := (step_eq_some h).2
  unfold acceptFailed at h
  split at h
  · next hg => cases h; exact ⟨hg.1, by simpa using hg.2, rfl⟩
  · cases h

theorem cleanUpServer_some (h : step .cleanUp w = some w') :
    w.accepting = false ∧ w.queueRemoved = false ∧
      w' = { w with queueRemoved := true, listening := false } := by
  replace h : cleanUpServer w = some w' := (step_eq_some h).2
  unfold cleanUpServer at h
  split at h
  · next hg => cases h; exact ⟨by simpa using hg.1, by simpa using hg.2, rfl⟩
  · cases h

theorem clientHandlerStart_some {i : Nat} {clientIP : Option (List Char)}
    (h : step (.handlerStart i clientIP) w = some w') :
    ∃ hd, w.handlers[i]? = some hd ∧ hd.phase = .starting ∧
      ((∃ ip, clientIP = some ip ∧ w' = w.setHandler i
          { hd with clientSocket := w.newClient, clientIP := ip, phase := .registering }) ∨
        clientIP = none ∧ w' = (w.setHandler i
          { hd with clientSocket := w.newClient, phase := .closed }).close w.newClient) := by
  replace h : clientHandlerStart i clientIP w = some w' := (step_eq_some h).2
  simp only [clientHandlerStart, Option.bind_eq_bind, Option.bind_eq_some] at h
  obtain ⟨hd, hhd, h⟩ := h
  refine ⟨hd, hhd, ?_⟩
  split at h
  · next hp => cases h; exact ⟨hp, .inl ⟨_, rfl, rfl⟩⟩
  · next hp => cases h; exact ⟨hp, .inr ⟨rfl, rfl⟩⟩
  · cases h

theorem clientHandlerRegister_some {i : Nat} {frame : Option (List Char)}
    (h : step (.handlerRegister i frame) w = some w') :
    ∃ hd r, w.handlers[i]? = some hd ∧ hd.phase = .registering ∧
      processMessage hd.clientSocket hd.clientIP hd.threadID w.shared true frame = some r ∧
      w' = if r.retVal = messageProcessSuccess then
          (w.afterProcess hd r).setHandler i { hd with phase := .registered }
        else ((w.afterProcess hd r).setHandler i { hd with phase := .closed }).close hd.clientSocket := by
  replace h : clientHandlerRegister i frame w = some w' := (step_eq_some h).2
  simp only [clientHandlerRegister, Option.bind_eq_bind, Option.bind_eq_some] at h
  obtain ⟨hd, hhd, h⟩ := h
  split at h
  · next hp =>
    simp only [Option.bind_eq_bind, Option.bind_eq_some] at h
    obtain ⟨r, hr, h⟩ := h
    refine ⟨hd, r, hhd, hp, hr, ?_⟩
    split at h <;> cases h <;> simp_all
  · cases h

theorem clientHandlerMessage_some {i : Nat} {frame : Option (List Char)}
    (h : step (.handlerMessage i frame) w = some w') :
    ∃ hd r, w.handlers[i]? = some hd ∧ hd.phase = .registered ∧
      processMessage hd.clientSocket hd.clientIP hd.threadID w.shared false frame = some r ∧
      w' = ((w.afterProcess hd r).sendToQueue i r.enqueued).setHandler i
        { hd with phase := if r.retVal = messageProcessSuccess then .registered else .quitting r.retVal } := by
  replace h : clientHandlerMessage i frame w = some w' := (step_eq_some h).2
  simp only [clientHandlerMessage, Option.bind_eq_bind, Option.bind_eq_some] at h
  obtain ⟨hd, hhd, h⟩ := h
  split at h
  · next hp =>
    simp only [Option.bind_eq_bind, Option.bind_eq_some] at h
    obtain ⟨r, hr, h⟩ := h
    exact ⟨hd, r, hhd, hp, hr, (Option.some_injective _ h).symm⟩
  · cases h

theorem clientHandlerResume_some {i : Nat} (h : step (.handlerResume i) w = some w') :
    ∃ bs, w.sending = some (i, bs) ∧ (w.queueRemoved = true ∨ w.queue.length < queueCapacity) ∧
      w' = { w with sending := none }.sendToQueue i bs := by
  replace h : clientHandlerResume i w = some w' := (step_eq_some h).2
  unfold clientHandlerResume at h
  split at h
  · next bs hs =>
    split at h
    · next hg => cases h; obtain ⟨rfl, hg⟩ := hg; exact ⟨bs, hs, hg, rfl⟩
    · cases h
  · cases h

theorem clientHandlerCleanUp_some {i : Nat} (h : step (.handlerCleanUp i) w = some w') :
    ∃ hd processResult sd, w.handlers[i]? = some hd ∧ hd.phase = .quitting processResult ∧
      removeClient hd.threadID w.shared = some sd ∧
      w' = ({ w with shared := sd }.setHandler i { hd with phase := .closed }).close hd.clientSocket := by
  replace h : clientHandlerCleanUp i w = some w' := (step_eq_some h).2
  simp only [clientHandlerCleanUp, Option.bind_eq_bind, Option.bind_eq_some] at h
  obtain ⟨hd, hhd, h⟩ := h
  split at h
  · next r hp =>
    simp only [Option.bind_eq_bind, Option.bind_eq_some] at h
    obtain ⟨sd, hsd, h⟩ := h
    exact ⟨hd, r, sd, hhd, hp, hsd, (Option.some_injective _ h).symm⟩
  · cases h

theorem clientConnectionMonitorStep_some (h : step .monitor w = some w') :
    (w.monitor = .waiting ∨ w.monitor = .running) ∧
      ((∃ m, (m = .waiting ∨ m = .running) ∧ w' = { w with monitor := m }) ∨
        w.shared.numClients ≤ 0 ∧ w' = { w with
          listening := false
          shared := { w.shared with serverIsRunning := false }
          monitor := .stopped }) := by
  replace h : clientConnectionMonitorStep w = some w' := (step_eq_some h).2
  unfold clientConnectionMonitorStep at h
  split at h
  · next hm => cases h; exact ⟨.inl hm, .inl ⟨_, by split <;> simp, rfl⟩⟩
  · next hm =>
    split at h
    · cases h; exact ⟨.inr hm, .inr ⟨‹_›, rfl⟩⟩
    · cases h; exact ⟨.inr hm, .inl ⟨_, by simp [hm], rfl⟩⟩
  · cases h

theorem chatBroadcasterStep_some (h : step .broadcaster w = some w') :
    w.broadcaster ≠ .notStarted ∧ w.broadcaster ≠ .stopped ∧
      ∃ phase queue writes, w' = { w with broadcaster := phase, queue := queue, writes := writes } ∧
        phase ≠ .notStarted ∧
        (phase = .stopped → w.broadcaster = .checking ∧ w.shared.numClients ≤ 0 ∨
          w.broadcaster = .receiving ∧ w.queueRemoved = true) ∧
        (queue = w.queue ∨ ∃ b, w.queue = b :: queue) := by
  replace h : chatBroadcasterStep w = some w' := (step_eq_some h).2
  have hrun : w.broadcaster ≠ .notStarted ∧ w.broadcaster ≠ .stopped := by
    constructor <;> intro hb <;> simp [chatBroadcasterStep, hb] at h
  refine ⟨hrun.1, hrun.2, ?_⟩
  unfold chatBroadcasterStep at h
  split at h
  · cases h; exact ⟨_, _, _, rfl, by split <;> simp, by split <;> simp, .inl rfl⟩
  · next hb =>
    cases h
    refine ⟨_, _, _, rfl, by split <;> simp, fun hs => .inl ⟨hb, ?_⟩, .inl rfl⟩
    by_contra hn
    simp [hn] at hs
  · next hb =>
    split at h
    · next hr => cases h; exact ⟨_, _, _, rfl, by simp, fun _ => .inr ⟨hb, hr⟩, .inl rfl⟩
    split at h <;> cases h
    · exact ⟨_, _, _, rfl, by simp, by simp, .inl rfl⟩
    · exact ⟨_, _, _, rfl, by simp, by simp, .inr ⟨_, ‹_›⟩⟩
  · simp only [Option.bind_eq_bind, Option.bind_eq_some] at h
    obtain ⟨_, -, h⟩ := h
    cases h
    exact ⟨_, _, _, rfl, by simp, by simp, .inl rfl⟩
  · cases h

/-- The actions of a `clientHandler` thread. -/
def Action.byHandler : Action → Bool
  | .handlerStart .. | .handlerRegister .. | .handlerMessage .. | .handlerResume .. | .handlerCleanUp .. =>
    true
  | _ => false

/-- What a step of a handler leaves alone: the other threads and the running
flag; the queue only grows, within its capacity, and the number of handlers
stays. -/
structure HandlerFrame (w w' : World) : Prop where
  listening : w'.listening = w.listening
  accepting : w'.accepting = w.accepting
  spawning : w'.spawning = w.spawning
  queueRemoved : w'.queueRemoved = w.queueRemoved
  totalConnections : w'.totalConnections = w.totalConnections
  newClient : w'.newClient = w.newClient
  monitor : w'.monitor = w.monitor
  broadcaster : w'.broadcaster = w.broadcaster
  serverIsRunning : w'.shared.serverIsRunning = w.shared.serverIsRunning
  length_handlers : w'.handlers.length = w.handlers.length
  queue : w.queue <+: w'.queue
  queue_le : w.queue.length ≤ queueCapacity → w'.queue.length ≤ queueCapacity

end Steps

/-! ## 3. Handlers and their entries -/

/-- The thread, socket and IP of a registry entry. -/
def ClientState.key (e : ClientState) : Nat × Nat × CStr clientIPLength :=
  (e.threadID, e.clientSocket, e.clientIP)

/-- The thread, socket and IP of the entry that a handler's registration writes. -/
def Handler.key (h : Handler) : Nat × Nat × CStr clientIPLength :=
  (h.threadID, h.clientSocket, CStr.ofList _ h.clientIP)

/-- The handler's own code has an entry in the registry: from its successful
registration until its removal, by `>>bye<<` or after the loop. -/
def Handler.holdsEntry (h : Handler) : Bool :=
  match h.phase with
  | .registered => true
  | .quitting processResult => processResult != messageProcessQuit
  | _ => false

/-- The key of the handler's entry, when its code has one. -/
def Handler.entryKey? (h : Handler) : Option (Nat × Nat × CStr clientIPLength) :=
  if h.holdsEntry then some h.key else none

/-- The thread ID of a handler that has not exited. -/
def Handler.liveThreadID? (h : Handler) : Option Nat :=
  if h.isLive then some h.threadID else none

@[simp] theorem key_newClient (threadID : Nat) (clientIP clientUserID : List Char)
    (clientSocket : Nat) :
    (newClient threadID clientIP clientUserID clientSocket).key =
      (threadID, clientSocket, CStr.ofList _ clientIP) := rfl

theorem filterMap_liveThreadID? (hs : List Handler) :
    hs.filterMap Handler.liveThreadID? = (hs.filter Handler.isLive).map Handler.threadID := by
  induction hs with
  | nil => rfl
  | cons h hs ih => by_cases hl : h.isLive <;> simp [Handler.liveThreadID?, List.filter_cons, hl, ih]

/-- The thread IDs of the holders are among those of the live handlers. -/
theorem entryThreadIDs_sublist (hs : List Handler) :
    (hs.filterMap Handler.entryKey?).map Prod.fst <+ hs.filterMap Handler.liveThreadID? := by
  rw [List.map_filterMap]
  refine filterMap_sublist_filterMap (fun h t ht => ?_) hs
  simp only [Handler.entryKey?, Handler.liveThreadID?, Handler.isLive] at ht ⊢
  split at ht
  · next hh =>
    have : h.phase ≠ .closed := by intro hc; simp [Handler.holdsEntry, hc] at hh
    simpa [this] using ht
  · cases ht

/-- Removing the one entry with a holder's thread ID leaves the entries of the
other holders. -/
theorem keys_eraseP_threadID {live : List ClientState} {F : List (Nat × Nat × CStr clientIPLength)}
    {k : Nat × Nat × CStr clientIPLength} (hp : (live.map ClientState.key).Perm (F ++ [k]))
    (hn : ((F ++ [k]).map Prod.fst).Nodup) :
    ((live.eraseP (threadMatches k.1)).map ClientState.key).Perm F := by
  have hmap : (live.eraseP (threadMatches k.1)).map ClientState.key =
      (live.map ClientState.key).eraseP (fun x => x.1 == k.1) := by
    rw [List.eraseP_map]; rfl
  have hpw : (live.map ClientState.key).Pairwise
      (fun a b => (a.1 == k.1) = true → (b.1 == k.1) = true → False) := by
    have h := (hp.map Prod.fst).nodup_iff.mpr hn
    rw [List.Nodup, List.pairwise_map] at h
    exact h.imp fun hne ha hb => hne (by rw [beq_iff_eq] at ha hb; rw [ha, hb])
  have hk : ∀ b ∈ F, ¬ (b.1 == k.1) = true := by
    intro b hb hbk
    rw [List.map_append, List.nodup_append] at hn
    exact hn.2.2 (List.mem_map_of_mem _ hb) (by simp [beq_iff_eq.mp hbk])
  rw [hmap]
  refine (hp.eraseP _ hpw).trans ?_
  rw [List.eraseP_append_right _ hk, List.eraseP_cons_of_pos (by simp), List.append_nil]

/-- With no live entry of the thread, the clean-up removal changes nothing. -/
theorem removeClient_of_no_entry {sd : SharedData} (hc : Compact sd) {threadID : Nat}
    (h : ∀ e ∈ liveClients sd, threadMatches threadID e = false) :
    removeClient threadID sd = some sd := by
  rw [removeClient_eq hc, List.findIdx?_eq_none_iff.mpr (by simpa using h)]
  simp [foundIndex, removeFromList_notFound]

/-- The clean-up removal on a compact table: `List.eraseP` on the thread ID. -/
theorem removeClient_spec {sd : SharedData} (hc : Compact sd) (threadID : Nat) :
    ∃ sd', removeClient threadID sd = some sd' ∧ Compact sd' ∧
      liveClients sd' = (liveClients sd).eraseP (threadMatches threadID) ∧
      sd'.serverIsRunning = sd.serverIsRunning := by
  obtain ⟨idx, sd', hr, hc', hl, hrun, -⟩ := removeFromList_threadID hc threadID
  exact ⟨sd', by rw [removeClient_eq hc, hr]; rfl, hc', hl, hrun⟩

/-- The registry invariant reads only `numClients` and the table. -/
theorem RegistryInv.of_table {sd sd' : SharedData} (hi : RegistryInv sd)
    (hn : sd'.numClients = sd.numClients) (ht : sd'.connectedClients = sd.connectedClients) :
    RegistryInv sd' := by
  have hl : liveClients sd' = liveClients sd := by simp [liveClients, hn, ht]
  obtain ⟨⟨h1, h2, h3⟩, h4, h5⟩ := hi
  exact ⟨⟨hn ▸ h1, hn ▸ h2, by rw [hl, ht, hn]; exact h3⟩, hl ▸ h4, hl ▸ h5⟩

/-- The shared data a handler's call of `processMessage` leaves keeps the
registry invariant and the running flag. -/
theorem RegistryInv.processMessage {sd : SharedData} (hi : RegistryInv sd) {clientSocket : Nat}
    {clientIP : List Char} {threadID : Nat} {isRegistration : Bool} {frame : Option (List Char)}
    {r : ProcessResult}
    (h : processMessage clientSocket clientIP threadID sd isRegistration frame = some r) :
    RegistryInv r.shared ∧ r.shared.serverIsRunning = sd.serverIsRunning := by
  obtain ⟨sd', hrun, hi', hs⟩ := CriticalSection.run_inv hi (if isRegistration
    then .registration clientSocket clientIP threadID frame
    else .message clientSocket clientIP threadID frame)
  obtain rfl : sd' = r.shared := by
    cases isRegistration <;> simpa [CriticalSection.run, h] using hrun.symm
  exact ⟨hi', hs⟩

/-! ### What a handler's step leaves alone -/

section Frame

variable {w w' : World}

theorem HandlerFrame.refl (w : World) : HandlerFrame w w :=
  ⟨rfl, rfl, rfl, rfl, rfl, rfl, rfl, rfl, rfl, rfl, List.prefix_refl _, id⟩

theorem HandlerFrame.setHandler (hf : HandlerFrame w w') (i : Nat) (hd : Handler) :
    HandlerFrame w (w'.setHandler i hd) :=
  { hf with length_handlers := (List.length_set ..).trans hf.length_handlers }

theorem HandlerFrame.close (hf : HandlerFrame w w') (clientSocket : Nat) :
    HandlerFrame w (w'.close clientSocket) :=
  { hf with }

theorem HandlerFrame.sendToQueue (hf : HandlerFrame w w') (i : Nat) (bs : List Broadcast) :
    HandlerFrame w (w'.sendToQueue i bs) := by
  have hle := fun hq => World.length_queue_sendToQueue_le i bs (hf.queue_le hq)
  obtain ⟨k, s, h, -⟩ := w'.sendToQueue_eq i bs
  rw [h] at hle ⊢
  exact { hf with queue := hf.queue.trans (List.prefix_append _ _), queue_le := hle }

/-- A step that changes only what a blocked `msgsnd` waits with. -/
theorem HandlerFrame.sending (w : World) (s : Option (Nat × List Broadcast)) :
    HandlerFrame w { w with sending := s } :=
  ⟨rfl, rfl, rfl, rfl, rfl, rfl, rfl, rfl, rfl, rfl, List.prefix_refl _, id⟩

/-- A step that changes only the shared data, and keeps the running flag. -/
theorem HandlerFrame.shared {sd : SharedData} (hrun : sd.serverIsRunning = w.shared.serverIsRunning) :
    HandlerFrame w { w with shared := sd } :=
  { HandlerFrame.refl w with serverIsRunning := hrun }

theorem HandlerFrame.afterProcess (hd : Handler) {r : ProcessResult}
    (hrun : r.shared.serverIsRunning = w.shared.serverIsRunning) : HandlerFrame w (w.afterProcess hd r) :=
  { HandlerFrame.refl w with serverIsRunning := hrun }

/-- Every step of a handler keeps `HandlerFrame`. -/
theorem HandlerFrame.of_step (hi : RegistryInv w.shared) {a : Action} (ha : a.byHandler = true)
    (h : step a w = some w') : HandlerFrame w w' := by
  cases a with
  | handlerStart i ip =>
    obtain ⟨hd, -, -, ⟨_, -, rfl⟩ | ⟨-, rfl⟩⟩ := clientHandlerStart_some h
    · exact (HandlerFrame.refl w).setHandler ..
    · exact ((HandlerFrame.refl w).setHandler ..).close _
  | handlerRegister i frame =>
    obtain ⟨hd, r, -, -, hr, rfl⟩ := clientHandlerRegister_some h
    have hf := HandlerFrame.afterProcess hd (hi.processMessage hr).2
    split
    · exact hf.setHandler ..
    · exact (hf.setHandler ..).close _
  | handlerMessage i frame =>
    obtain ⟨hd, r, -, -, hr, rfl⟩ := clientHandlerMessage_some h
    exact ((HandlerFrame.afterProcess hd (hi.processMessage hr).2).sendToQueue ..).setHandler ..
  | handlerResume i =>
    obtain ⟨bs, -, -, rfl⟩ := clientHandlerResume_some h
    exact (HandlerFrame.sending w none).sendToQueue i bs
  | handlerCleanUp i =>
    obtain ⟨hd, -, sd, -, -, hsd, rfl⟩ := clientHandlerCleanUp_some h
    obtain ⟨sd', hsd', -, -, hrun⟩ := removeClient_spec hi.toCompact hd.threadID
    obtain rfl := Option.some_injective _ (hsd.symm.trans hsd')
    exact ((HandlerFrame.shared hrun).setHandler ..).close _
  | _ => cases ha

end Frame

/-! ## 4. The invariant -/

/-- The invariant of every reachable world. -/
structure ServerInv (w : World) : Prop where
  registry : RegistryInv w.shared
  entries : ((liveClients w.shared).map ClientState.key).Perm (w.handlers.filterMap Handler.entryKey?)
  threadIDs : (w.handlers.filterMap Handler.liveThreadID?).Nodup
  started : w.totalConnections = 0 → w.monitor = .notStarted ∧ w.broadcaster = .notStarted
  notStarted : w.monitor = .notStarted ∨ w.broadcaster = .notStarted → w.totalConnections = 0
  connections : w.totalConnections = w.handlers.length
  stopped : w.monitor = .stopped → w.listening = false ∧ w.shared.serverIsRunning = false
  removed : w.queueRemoved = true → w.accepting = false
  queue_le : w.queue.length ≤ queueCapacity

section Invariant

variable {w w' : World}

theorem ServerInv.init (serverSocket : Nat) : ServerInv (World.init serverSocket) where
  registry := registryInv_initSharedMemory serverSocket
  entries := by
    show ((liveClients (initSharedMemory serverSocket)).map _).Perm _
    rw [(compact_initSharedMemory serverSocket).2]; rfl
  threadIDs := List.nodup_nil
  started _ := ⟨rfl, rfl⟩
  notStarted _ := rfl
  connections := rfl
  stopped h := nomatch h
  removed h := nomatch h
  queue_le := Nat.zero_le _

/-- The thread IDs of the live entries are distinct. -/
theorem ServerInv.nodup_threadIDs (hi : ServerInv w) :
    (((liveClients w.shared).map ClientState.key).map Prod.fst).Nodup :=
  (hi.entries.map Prod.fst).nodup_iff.mpr ((entryThreadIDs_sublist _).nodup hi.threadIDs)

/-- A live handler that holds no entry has none in the registry. -/
theorem ServerInv.no_entry (hi : ServerInv w) {hd : Handler} (hm : hd ∈ w.handlers)
    (hl : hd.isLive = true) (hh : hd.holdsEntry = false) :
    ∀ e ∈ liveClients w.shared, threadMatches hd.threadID e = false := by
  intro e he
  by_contra hne
  have ht : e.threadID = hd.threadID := by simpa [threadMatches] using hne
  obtain ⟨h', hm', hk⟩ := List.mem_filterMap.mp (hi.entries.subset (List.mem_map_of_mem _ he))
  have hh' : h'.holdsEntry = true ∧ h'.key = e.key := by
    simp only [Handler.entryKey?] at hk
    split at hk
    · exact ⟨‹_›, Option.some_injective _ hk⟩
    · cases hk
  have hl' : h'.isLive = true := by
    have := hh'.1
    simp only [Handler.isLive, bne_iff_ne, ne_eq]
    intro hc; simp [Handler.holdsEntry, hc] at this
  have htid : h'.threadID = hd.threadID := (congrArg Prod.fst hh'.2).trans ht
  have : h' = hd := eq_of_mem_of_nodup_filterMap (x := hd.threadID)
    (by simp [Handler.liveThreadID?, hl', htid]) (by simp [Handler.liveThreadID?, hl]) hi.threadIDs hm' hm
  rw [this, hh] at hh'
  cases hh'.1

/-- After a handler's step, the invariant needs only the registry, the entries
and the thread IDs. -/
theorem ServerInv.of_frame (hi : ServerInv w) (hf : HandlerFrame w w')
    (hreg : RegistryInv w'.shared)
    (he : ((liveClients w'.shared).map ClientState.key).Perm (w'.handlers.filterMap Handler.entryKey?))
    (ht : (w'.handlers.filterMap Handler.liveThreadID?).Nodup) : ServerInv w' where
  registry := hreg
  entries := he
  threadIDs := ht
  started h0 := by rw [hf.monitor, hf.broadcaster]; exact hi.started (hf.totalConnections ▸ h0)
  notStarted hn := by
    rw [hf.totalConnections]; rw [hf.monitor, hf.broadcaster] at hn; exact hi.notStarted hn
  connections := by rw [hf.totalConnections, hf.length_handlers]; exact hi.connections
  stopped hm := by
    rw [hf.listening, hf.serverIsRunning]; exact hi.stopped (hf.monitor ▸ hm)
  removed hr := by rw [hf.accepting]; exact hi.removed (hf.queueRemoved ▸ hr)
  queue_le := hf.queue_le hi.queue_le

theorem ServerInv.acceptClient (hi : ServerInv w) {clientSocket : Nat}
    (h : step (.accept clientSocket) w = some w') : ServerInv w' := by
  obtain ⟨-, -, -, -, rfl⟩ := acceptClient_some h
  exact { hi with }

theorem ServerInv.createClientHandler (hi : ServerInv w) {threadID : Nat}
    (h : step (.createHandler threadID) w = some w') : ServerInv w' := by
  obtain ⟨-, ht, rfl⟩ := createClientHandler_some h
  refine { hi with
    entries := ?_, threadIDs := ?_, started := fun h0 => absurd h0 (Nat.succ_ne_zero _),
    notStarted := fun hn => ?_, connections := by simp [hi.connections], stopped := fun hm => ?_ }
  · show (_ : List _).Perm ((w.handlers ++ _).filterMap _)
    rw [List.filterMap_append]
    simpa [Handler.entryKey?, Handler.holdsEntry] using hi.entries
  · rw [List.filterMap_append, List.nodup_append]
    refine ⟨hi.threadIDs, by simp [Handler.liveThreadID?, Handler.isLive], ?_⟩
    rw [filterMap_liveThreadID?]
    simpa [Handler.liveThreadID?, Handler.isLive] using ht
  · by_cases h0 : w.totalConnections = 0 <;> simp only [h0, if_true, if_false] at hn
    · simp at hn
    · exact absurd (hi.notStarted hn) h0
  · by_cases h0 : w.totalConnections = 0 <;> simp only [h0, if_true, if_false] at hm
    · cases hm
    · exact hi.stopped hm

theorem ServerInv.acceptFailed (hi : ServerInv w) (h : step .acceptFail w = some w') : ServerInv w' := by
  obtain ⟨-, -, rfl⟩ := acceptFailed_some h
  exact { hi with removed := fun _ => rfl }

theorem ServerInv.cleanUpServer (hi : ServerInv w) (h : step .cleanUp w = some w') : ServerInv w' := by
  obtain ⟨ha, -, rfl⟩ := cleanUpServer_some h
  exact { hi with stopped := fun hm => ⟨rfl, (hi.stopped hm).2⟩, removed := fun _ => ha }

theorem ServerInv.clientHandlerStart (hi : ServerInv w) {i : Nat} {clientIP : Option (List Char)}
    (h : step (.handlerStart i clientIP) w = some w') : ServerInv w' := by
  have hf := HandlerFrame.of_step hi.registry (by rfl) h
  -- the started handler holds no entry yet, and keeps its thread ID unless it exits
  obtain ⟨hd, hhd, hp, ⟨ip, -, rfl⟩ | ⟨-, rfl⟩⟩ := clientHandlerStart_some h <;>
  exact hi.of_frame hf hi.registry
    (hi.entries.trans (filterMap_set_perm_of_eq hhd (by simp [Handler.entryKey?, Handler.holdsEntry, hp])).symm)
    (nodup_filterMap_set hhd (by simp [Handler.liveThreadID?, Handler.isLive, hp]) hi.threadIDs)

theorem ServerInv.clientHandlerRegister (hi : ServerInv w) {i : Nat} {frame : Option (List Char)}
    (h : step (.handlerRegister i frame) w = some w') : ServerInv w' := by
  have hf := HandlerFrame.of_step hi.registry (by rfl) h
  obtain ⟨hd, r, hhd, hp, hr, rfl⟩ := clientHandlerRegister_some h
  have hreg := (hi.registry.processMessage hr).1
  obtain ⟨r', hr', -, hcases⟩ :=
    processMessage_registration_cases hi.registry.toCompact hd.clientSocket hd.clientIP hd.threadID frame
  obtain rfl : r = r' := Option.some_injective _ (hr.symm.trans hr')
  rcases hcases with ⟨hs, hlt, hsh, -⟩ | ⟨hs, hsh⟩
  · rw [if_pos hs] at hf ⊢
    have hperm := filterMap_set_perm Handler.entryKey? { hd with phase := .registered } hhd
    simp only [Handler.entryKey?, Handler.holdsEntry, hp, Bool.false_eq_true, ↓reduceIte, Option.toList,
      List.append_nil] at hperm
    refine hi.of_frame hf hreg ?_
      (nodup_filterMap_set hhd (.inr (by simp [Handler.liveThreadID?, Handler.isLive, hp])) hi.threadIDs)
    show ((liveClients r.shared).map _).Perm _
    rw [hsh, (compact_addClient hi.registry.toCompact hlt _).2, List.map_append]
    exact (hi.entries.append_right _).trans hperm.symm
  · rw [if_neg hs] at hf ⊢
    refine hi.of_frame hf hreg ?_
      (nodup_filterMap_set hhd (.inl (by simp [Handler.liveThreadID?, Handler.isLive])) hi.threadIDs)
    show ((liveClients r.shared).map _).Perm _
    rw [hsh]
    exact hi.entries.trans (filterMap_set_perm_of_eq hhd (by simp [Handler.entryKey?, Handler.holdsEntry, hp])).symm

theorem ServerInv.clientHandlerMessage (hi : ServerInv w) {i : Nat} {frame : Option (List Char)}
    (h : step (.handlerMessage i frame) w = some w') : ServerInv w' := by
  have hf := HandlerFrame.of_step hi.registry (by rfl) h
  obtain ⟨hd, r, hhd, hp, hr, rfl⟩ := clientHandlerMessage_some h
  refine hi.of_frame hf (by simpa using (hi.registry.processMessage hr).1) ?_ (by
    simpa using nodup_filterMap_set hhd
      (.inr (by split <;> simp [Handler.liveThreadID?, Handler.isLive, hp])) hi.threadIDs)
  simp only [World.setHandler_shared, World.sendToQueue_shared, World.afterProcess_shared,
    World.setHandler_handlers, World.sendToQueue_handlers, World.afterProcess_handlers]
  obtain ⟨r', hr', -, hcases⟩ :=
    processMessage_message_cases hi.registry.toCompact hd.clientSocket hd.clientIP hd.threadID frame
  obtain rfl : r = r' := Option.some_injective _ (hr.symm.trans hr')
  rcases hcases with ⟨hs, hsh, -⟩ | ⟨hq, -, -, hlive, -⟩ | ⟨hfl, hsh, -⟩
  · rw [hsh]
    exact hi.entries.trans (filterMap_set_perm_of_eq hhd
      (by simp [Handler.entryKey?, Handler.holdsEntry, Handler.key, hp, hs])).symm
  · have hph : (if r.retVal = messageProcessSuccess then HandlerPhase.registered
        else .quitting r.retVal) = .quitting messageProcessQuit := by rw [hq]; rfl
    have hperm := filterMap_set_perm Handler.entryKey? { hd with phase := .quitting messageProcessQuit } hhd
    simp only [Handler.entryKey?, Handler.holdsEntry, hp, bne_self_eq_false, Bool.false_eq_true,
      ↓reduceIte, Option.toList, List.append_nil] at hperm
    rw [hph, hlive]
    exact keys_eraseP_threadID (hi.entries.trans hperm.symm)
      ((hperm.map Prod.fst).nodup_iff.mpr ((entryThreadIDs_sublist _).nodup hi.threadIDs))
  · rw [hsh]
    exact hi.entries.trans (filterMap_set_perm_of_eq hhd (by simp [Handler.entryKey?, Handler.holdsEntry,
      Handler.key, hp, hfl, messageProcessFailed, messageProcessSuccess, messageProcessQuit])).symm

theorem ServerInv.clientHandlerResume (hi : ServerInv w) {i : Nat}
    (h : step (.handlerResume i) w = some w') : ServerInv w' := by
  have hf := HandlerFrame.of_step hi.registry (by rfl) h
  obtain ⟨bs, -, -, rfl⟩ := clientHandlerResume_some h
  exact hi.of_frame hf (by simpa using hi.registry) (by simpa using hi.entries) (by simpa using hi.threadIDs)

theorem ServerInv.clientHandlerCleanUp (hi : ServerInv w) {i : Nat}
    (h : step (.handlerCleanUp i) w = some w') : ServerInv w' := by
  have hf := HandlerFrame.of_step hi.registry (by rfl) h
  obtain ⟨hd, pr, sd, hhd, hp, hsd, rfl⟩ := clientHandlerCleanUp_some h
  obtain ⟨sd', hsd', hc', hlive, -⟩ := removeClient_spec hi.registry.toCompact hd.threadID
  obtain rfl := Option.some_injective _ (hsd.symm.trans hsd')
  refine hi.of_frame hf (hi.registry.of_sublist hc' (hlive ▸ List.eraseP_sublist _)) ?_
    (nodup_filterMap_set hhd (.inl (by simp [Handler.liveThreadID?, Handler.isLive])) hi.threadIDs)
  show ((liveClients sd).map _).Perm _
  rw [hlive]
  by_cases hq : pr = messageProcessQuit
  · have hn := hi.no_entry (List.getElem?_mem hhd) (by simp [Handler.isLive, hp])
      (by simp [Handler.holdsEntry, hp, hq])
    rw [List.eraseP_of_forall_not fun e he hm => by simp [hn e he] at hm]
    exact hi.entries.trans (filterMap_set_perm_of_eq hhd
      (by simp [Handler.entryKey?, Handler.holdsEntry, hp, hq])).symm
  · have hperm := filterMap_set_perm Handler.entryKey? { hd with phase := .closed } hhd
    simp only [Handler.entryKey?, Handler.holdsEntry, hp, bne_iff_ne, ne_eq, hq, not_false_eq_true,
      Bool.false_eq_true, ↓reduceIte, Option.toList, List.append_nil, decide_True] at hperm
    exact keys_eraseP_threadID (hi.entries.trans hperm.symm)
      ((hperm.map Prod.fst).nodup_iff.mpr ((entryThreadIDs_sublist _).nodup hi.threadIDs))

theorem ServerInv.clientConnectionMonitorStep (hi : ServerInv w) (h : step .monitor w = some w') :
    ServerInv w' := by
  -- a monitor that runs was started by a connection
  have hs : w.totalConnections ≠ 0 := fun h0 => by
    rcases (clientConnectionMonitorStep_some h).1 with hm | hm <;> simp [(hi.started h0).1] at hm
  obtain ⟨-, ⟨m, hm', rfl⟩ | ⟨-, rfl⟩⟩ := clientConnectionMonitorStep_some h
  · have hns : m ≠ .notStarted ∧ m ≠ .stopped := by rcases hm' with rfl | rfl <;> simp
    exact { hi with
      started := fun h0 => absurd h0 hs
      notStarted := fun hn => hi.notStarted (hn.imp_left fun h => absurd h hns.1)
      stopped := fun h => absurd h hns.2 }
  · exact { hi with
      registry := hi.registry.of_table rfl rfl
      started := fun h0 => absurd h0 hs
      notStarted := fun hn => hi.notStarted (hn.imp_left fun h => nomatch h)
      stopped := fun _ => ⟨rfl, rfl⟩ }

theorem ServerInv.chatBroadcasterStep (hi : ServerInv w) (h : step .broadcaster w = some w') :
    ServerInv w' := by
  obtain ⟨hb, -, phase, queue, writes, rfl, hp, -, hq⟩ := chatBroadcasterStep_some h
  refine { hi with
    started := fun h0 => absurd (hi.started h0).2 hb
    notStarted := fun hn => hi.notStarted (hn.imp_right fun h => absurd h hp)
    queue_le := ?_ }
  rcases hq with rfl | ⟨b, hq⟩
  · exact hi.queue_le
  · have := hi.queue_le; rw [hq, List.length_cons] at this; exact Nat.le_of_succ_le this

/-- Every step keeps the invariant. -/
theorem ServerInv.of_step (hi : ServerInv w) : ∀ {a : Action}, step a w = some w' → ServerInv w'
  | .accept .., h => hi.acceptClient h
  | .createHandler .., h => hi.createClientHandler h
  | .acceptFail, h => hi.acceptFailed h
  | .cleanUp, h => hi.cleanUpServer h
  | .handlerStart .., h => hi.clientHandlerStart h
  | .handlerRegister .., h => hi.clientHandlerRegister h
  | .handlerMessage .., h => hi.clientHandlerMessage h
  | .handlerResume .., h => hi.clientHandlerResume h
  | .handlerCleanUp .., h => hi.clientHandlerCleanUp h
  | .monitor, h => hi.clientConnectionMonitorStep h
  | .broadcaster, h => hi.chatBroadcasterStep h

end Invariant

/-! ## 5. Runs -/

/-- A schedule run in two parts. -/
theorem runActions_append (acts acts' : List Action) (w : World) :
    runActions (acts ++ acts') w = (runActions acts w).bind (runActions acts') := by
  induction acts generalizing w with
  | nil => rfl
  | cons a acts ih =>
    rw [List.cons_append, runActions, runActions, Option.bind_assoc]
    simp only [ih]

/-- A property that every step keeps holds after every schedule. -/
theorem runActions_induction {P : World → Prop}
    (hstep : ∀ {a : Action} {w w' : World}, P w → step a w = some w' → P w') :
    ∀ (acts : List Action) {w w' : World}, P w → runActions acts w = some w' → P w'
  | [], _, _, hw, h => Option.some_injective _ h ▸ hw
  | a :: rest, w, _, hw, h => by
    simp only [runActions, Option.bind_eq_some] at h
    obtain ⟨w₁, h₁, h⟩ := h
    exact runActions_induction hstep rest (hstep hw h₁) h

/-- A property that every step keeps from a world with the invariant holds on
every world reached from one with both. -/
theorem Reaches.of_invariant {P : World → Prop}
    (hstep : ∀ {a : Action} {w w' : World}, ServerInv w → P w → step a w = some w' → P w')
    {w w' : World} (hi : ServerInv w) (hw : P w) (hr : Reaches w w') : ServerInv w' ∧ P w' :=
  let ⟨acts, h⟩ := hr
  runActions_induction (P := fun v => ServerInv v ∧ P v)
    (fun hv h => ⟨hv.1.of_step h, hstep hv.1 hv.2 h⟩) acts ⟨hi, hw⟩ h

theorem ServerInv.reachable {serverSocket : Nat} {w : World} (hw : Reachable serverSocket w) :
    ServerInv w :=
  let ⟨acts, h⟩ := hw
  runActions_induction (fun hi h => hi.of_step h) acts (ServerInv.init serverSocket) h

end ChatSystem
