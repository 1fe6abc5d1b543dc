/-
ChatSystem.History — the client's message history (`MessageHistory`,
`add_message_to_history` and the display loop of `display_message`).

The history is a ring of `HISTORY_SIZE` slots of `MESSAGE_MAX_LENGTH` bytes and
three `int`s: `start`, the oldest slot; `end`, the next slot to write; `count`,
the number of messages held. `MessageHistory` carries, as fields, the ranges
`add_message_to_history` keeps them in, so the indices are natural numbers and
every slot access of the model is inside the array.

What the display loop prints, `count` slots from `start` with wrap-around, is
the ring's view (`displayedMessages`); on slots it is a map over
`List.range count` (`readHistory_eq_map`). Writing a slot outside the view
leaves it alone (`slotView_set_outside`), so `add_message_to_history` appends
to the view, and once it holds ten drops its oldest (`displayed_add`). After
any number of messages from the initial history the view is the last ten of
them, oldest first, each cut to 79 characters
(`history_holds_last_messages`).

`display_message` formats the line it adds with `snprintf` (IP, user ID,
direction, text and time); the formatting and the time are left out, and the
history takes the formatted line as it is.
-/
import ChatSystem.CString

namespace ChatSystem

/-! ## 1. The ring and its operations -/

/-- `HISTORY_SIZE`. -/
def historySize : Nat := 10
/-- `MESSAGE_MAX_LENGTH`. -/
def messageMaxLength : Nat := 80

/-- `MessageHistory`: the slots, each holding a terminated string of at most
`MESSAGE_MAX_LENGTH - 1` characters, and the three indices, in the ranges
`add_message_to_history` keeps them in. -/
structure MessageHistory where
  messages : List (CStr (messageMaxLength - 1))
  start : Nat
  «end» : Nat
  count : Nat
  length_messages : messages.length = historySize
  start_lt : start < historySize
  end_lt : «end» < historySize
  count_le : count ≤ historySize

/-- `MessageHistory messageHistory = { .start = 0, .end = 0, .count = 0 }`, a
global, so every slot holds zero bytes: the empty string. -/
def MessageHistory.init : MessageHistory :=
  ⟨List.replicate historySize CStr.empty, 0, 0, 0, List.length_replicate _ _,
    Nat.zero_lt_succ 9, Nat.zero_lt_succ 9, Nat.zero_le _⟩

/-- `add_message_to_history(message)`: `strncpy` of at most 79 characters into
slot `end`, with a NUL after them; `end` moves on; `count` grows up to
`HISTORY_SIZE`, after which `start` moves on instead. -/
def addMessageToHistory (h : MessageHistory) (message : List Char) : MessageHistory where
  messages := h.messages.set h.end (CStr.ofList _ message)
  start := if h.count < historySize then h.start else (h.start + 1) % historySize
  «end» := (h.end + 1) % historySize
  count := if h.count < historySize then h.count + 1 else h.count
  length_messages := (List.length_set _ _ _).trans h.length_messages
  start_lt := by have := h.start_lt; unfold historySize at *; split <;> omega
  end_lt := Nat.mod_lt _ (Nat.zero_lt_succ 9)
  count_le := by have := h.count_le; unfold historySize at *; split <;> omega

/-- The loop of `display_message`, `for (int i = 0; i < count; i++) {
wprintw(win, "%s", messages[historyIndex]); historyIndex = (historyIndex + 1)
% HISTORY_SIZE; }`, with `k` iterations left: the strings it prints. -/
def readHistory (messages : List (CStr (messageMaxLength - 1))) : Nat → Nat → List (List Char)
  | _, 0 => []
  | historyIndex, k + 1 =>
    (messages.getD historyIndex CStr.empty).chars ::
      readHistory messages ((historyIndex + 1) % historySize) k

/-- What `display_message` prints of the history: `count` slots from
`start`. -/
def displayedMessages (h : MessageHistory) : List (List Char) :=
  readHistory h.messages h.start h.count

/-- The history after `add_message_to_history` was called with each of
`messages` in turn, from the initial one. -/
def historyRun (messages : List (List Char)) : MessageHistory :=
  messages.foldl addMessageToHistory MessageHistory.init

/-! ## 2. The view of the ring -/

/-- The `k` slots from `s` with wrap-around, as a map over their offsets. -/
def slotView (messages : List (CStr (messageMaxLength - 1))) (s k : Nat) : List (List Char) :=
  (List.range k).map fun i => (messages.getD ((s + i) % historySize) CStr.empty).chars

/-- Offsets wrap around, so the start counts only modulo `HISTORY_SIZE`. -/
theorem slotView_mod (messages : List (CStr (messageMaxLength - 1))) (s k : Nat) :
    slotView messages (s % historySize) k = slotView messages s k :=
  List.map_congr_left fun i _ => by rw [Nat.mod_add_mod]

/-- The view starts with the slot at `s`. -/
theorem slotView_succ (messages : List (CStr (messageMaxLength - 1))) (s k : Nat) :
    slotView messages s (k + 1) =
      (messages.getD (s % historySize) CStr.empty).chars :: slotView messages (s + 1) k := by
  rw [slotView, List.range_succ_eq_map, List.map_cons, List.map_map, Nat.add_zero]
  exact congrArg _ (List.map_congr_left fun i _ => by
    rw [Function.comp_apply, Nat.succ_eq_add_one, Nat.add_comm i 1, ← Nat.add_assoc])

/-- The view ends with the slot `k` after `s`. -/
theorem slotView_concat (messages : List (CStr (messageMaxLength - 1))) (s k : Nat) :
    slotView messages s (k + 1) =
      slotView messages s k ++ [(messages.getD ((s + k) % historySize) CStr.empty).chars] := by
  rw [slotView, List.range_succ, List.map_append]
  rfl

/-- The display loop prints the view of `count` slots from `start`. -/
theorem readHistory_eq_map (messages : List (CStr (messageMaxLength - 1))) (k : Nat) :
    ∀ s, s < historySize → readHistory messages s k = slotView messages s k := by
  induction k with
  | zero => intro s _; rfl
  | succ k ih =>
    intro s hs
    rw [readHistory, ih _ (Nat.mod_lt _ (Nat.zero_lt_succ 9)), slotView_mod, slotView_succ,
      Nat.mod_eq_of_lt hs]

/-- Writing a slot that is none of the `k` from `s` leaves their view alone. -/
theorem slotView_set_outside (messages : List (CStr (messageMaxLength - 1))) (s k j : Nat)
    (e : CStr (messageMaxLength - 1)) (hj : ∀ i < k, (s + i) % historySize ≠ j) :
    slotView (messages.set j e) s k = slotView messages s k :=
  List.map_congr_left fun i hi => by
    rw [List.getD_eq_getElem?_getD, List.getElem?_set_ne (hj i (List.mem_range.mp hi)).symm,
      ← List.getD_eq_getElem?_getD]

theorem getD_set_self {messages : List (CStr (messageMaxLength - 1))} {j : Nat}
    (hj : j < messages.length) (e : CStr (messageMaxLength - 1)) :
    (messages.set j e).getD j CStr.empty = e := by
  rw [List.getD_eq_getElem?_getD, List.getElem?_set_self hj, Option.getD_some]

/-- `add_message_to_history` on a history whose `end` is `count` slots after
`start`: the displayed messages gain the new one, cut to 79 characters, at the
end, and lose their oldest once there were ten. -/
theorem displayed_add (h : MessageHistory) (hend : h.end = (h.start + h.count) % historySize)
    (message : List Char) :
    displayedMessages (addMessageToHistory h message) =
      if h.count < historySize then
        displayedMessages h ++ [(CStr.ofList (messageMaxLength - 1) message).chars]
      else (displayedMessages h ++ [(CStr.ofList (messageMaxLength - 1) message).chars]).tail := by
  have hs := h.start_lt
  have hc := h.count_le
  have hlen : h.end < h.messages.length := h.length_messages ▸ h.end_lt
  have hstart' := (addMessageToHistory h message).start_lt
  simp only [displayedMessages, readHistory_eq_map _ _ _ hs, readHistory_eq_map _ _ _ hstart']
  simp only [addMessageToHistory]
  split
  · -- room left: the new slot is the one after the view
    rw [slotView_concat, slotView_set_outside _ _ _ _ _ (fun i hi => by unfold historySize at *; omega),
      ← hend, getD_set_self hlen]
  · -- full: the new slot is the oldest one, and the view moves on by one
    have hfull : h.count = 9 + 1 := by unfold historySize at *; omega
    have hlast : (h.start + 1 + 9) % historySize = h.end := by unfold historySize at *; omega
    rw [slotView_mod, hfull, slotView_concat, slotView_set_outside _ _ _ _ _
        (fun i hi => by unfold historySize at *; omega), hlast, getD_set_self hlen, slotView_succ h.messages h.start 9,
      List.cons_append, List.tail_cons]

/-! ## 3. Every run -/

theorem historyRun_append (messages : List (List Char)) (message : List Char) :
    historyRun (messages ++ [message]) = addMessageToHistory (historyRun messages) message := by
  rw [historyRun, List.foldl_append]
  rfl

/-- After `n` calls of `add_message_to_history` from the initial history,
`count = min n HISTORY_SIZE`, `end = (start + count) % HISTORY_SIZE`, and the
display loop prints the last `min n HISTORY_SIZE` messages added, oldest first,
each cut to `MESSAGE_MAX_LENGTH - 1` characters. -/
theorem history_holds_last_messages (messages : List (List Char)) :
    (historyRun messages).count = min messages.length historySize ∧
      (historyRun messages).end =
        ((historyRun messages).start + (historyRun messages).count) % historySize ∧
      displayedMessages (historyRun messages) =
        (messages.map fun m => (CStr.ofList (messageMaxLength - 1) m).chars).drop
          (messages.length - historySize) := by
  induction messages using List.reverseRecOn with
  | nil => exact ⟨rfl, rfl, rfl⟩
  | append_singleton messages message ih =>
    obtain ⟨hcount, hend, hview⟩ := ih
    have hlen : (messages.map fun m => (CStr.ofList (messageMaxLength - 1) m).chars).length =
        messages.length := List.length_map _ _
    rw [historyRun_append, displayed_add _ hend, hview, List.map_append, List.length_append,
      List.length_singleton]
    refine ⟨?_, ?_, ?_⟩
    · simp only [addMessageToHistory, hcount]
      unfold historySize
      split <;> omega
    · simp only [addMessageToHistory]
      unfold historySize at *
      split <;> omega
    · split
      · have h0 : messages.length - historySize = 0 := by unfold historySize at *; omega
        have h1 : messages.length + 1 - historySize = 0 := by unfold historySize at *; omega
        rw [h0, h1, List.drop_zero, List.drop_zero, List.map_singleton]
      · have h1 : messages.length + 1 - historySize = (messages.length - historySize) + 1 := by
          unfold historySize at *; omega
        rw [h1, ← List.tail_drop, List.drop_append_of_le_length (by omega), List.map_singleton]

example : displayedMessages (historyRun ((List.range 12).map fun k => [Char.ofNat (97 + k)])) =
    (List.range' 2 10).map fun k => [Char.ofNat (97 + k)] := by decide

end ChatSystem
