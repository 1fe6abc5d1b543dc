/-
ChatSystem.Broadcasts — the broadcasts the server builds: the parts
`sendMessageToQueue` cuts a chat message into, and what a client reads back
from each of them.

`splitString` is read once, into the split point it picks
(`splitString_cases`): `maxSize`, or a whitespace position whose rest is short
enough. Whatever the point, the two parts with the whitespace run that the
second part skips give the input back (`splitString_recombine`), and for an
input of at most `2 * maxSize` characters both parts fit in `maxSize`
(`splitString_length_le`). So `sendMessageToQueue` never cuts a part when it
stores it in a 41-byte buffer, and the broadcasts it sends carry the message
whole (`sendMessageToQueue_splits`).

Where the split falls is another matter: the fallback test `inputLen -
splitPoint >= maxSize - 1` sends a split to the limit, in the middle of a
word, when the rest after the whitespace has 38 to 40 characters
(`splitString_cuts_word`).

Every field of a broadcast the server builds is quote-free: the IP comes from
`inet_ntop`, the user ID and the message from the `[^"]` scansets of
`jsonToClientMessage`, the replies are the reserved tokens. So `jsonToBroadcast`
reads back every broadcast that `processMessage` sends or enqueues
(`jsonToBroadcast_inverts_server_broadcasts`). Over whole runs of the server,
`WireInv` keeps the queue, the Broadcast the broadcaster holds and every write
quote-free as long as the peers' addresses are, so every Broadcast written on a
client socket is one `output_handler` reads back whole (`writes_read_back`).
-/
import ChatSystem.MessagingTheorems
import ChatSystem.ServerTheorems

namespace ChatSystem

/-! ## 1. splitString -/

/-- The backward scan finds nothing, or a whitespace position below its
start. -/
theorem findSpaceBackward_spec (input : List Char) (k : Nat) :
    findSpaceBackward input k = -1 ∨
      ∃ j : Nat, j < k ∧ findSpaceBackward input k = j ∧ isspace (input.getD j '\x00') = true := by
  induction k with
  | zero => exact .inl rfl
  | succ k ih =>
    by_cases h : isspace (input.getD k '\x00') = true
    · exact .inr ⟨k, by omega, by rw [findSpaceBackward, if_pos h], h⟩
    · rw [findSpaceBackward, if_neg h]
      rcases ih with h' | ⟨j, hj, h', hs⟩
      exacts [.inl h', .inr ⟨j, by omega, h', hs⟩]

/-- The split point `splitString` picks: `maxSize`, or a whitespace position
below it from which fewer than `maxSize - 1` characters are left. -/
theorem splitString_cases (input : List Char) (maxSize : Nat) :
    ∃ p : Nat, splitString input maxSize = (input.take p, (input.drop p).dropWhile isspace) ∧
      (p = maxSize ∨ p < maxSize ∧ isspace (input.getD p '\x00') = true ∧
        (input.length : Int) - p < (maxSize : Int) - 1) := by
  simp only [splitString]
  by_cases hL : (input.length : Int) > maxSize
  · rcases findSpaceBackward_spec input maxSize with h | ⟨j, hj, h, hs⟩
    · exact ⟨maxSize, by simp [hL, h], .inl rfl⟩
    · have hj1 : (j : Int) ≠ -1 := by omega
      by_cases hfar : (input.length : Int) - j ≥ (maxSize : Int) - 1
      · exact ⟨maxSize, by simp [hL, h, hfar], .inl rfl⟩
      · exact ⟨j, by simp [hL, h, hfar, hj1], .inr ⟨hj, hs, by omega⟩⟩
  · exact ⟨maxSize, by simp [hL], .inl rfl⟩

/-- Wherever the split falls, the first part, the whitespace run the second
part skips, and the second part give the input back. -/
theorem splitString_recombine (input : List Char) (maxSize : Nat) :
    ∃ ws : List Char, ws.all isspace = true ∧
      input = (splitString input maxSize).1 ++ ws ++ (splitString input maxSize).2 := by
  obtain ⟨p, hs, -⟩ := splitString_cases input maxSize
  refine ⟨(input.drop p).takeWhile isspace, List.all_takeWhile, ?_⟩
  rw [hs, List.append_assoc, List.takeWhile_append_dropWhile, List.take_append_drop]

/-- Both parts are taken from the input in order. -/
theorem splitString_sublist (input : List Char) (maxSize : Nat) :
    (splitString input maxSize).1.Sublist input ∧ (splitString input maxSize).2.Sublist input := by
  obtain ⟨p, hs, -⟩ := splitString_cases input maxSize
  rw [hs]
  exact ⟨List.take_sublist _ _, (List.dropWhile_sublist _).trans (List.drop_sublist _ _)⟩

/-- An input of at most `2 * maxSize` characters splits into two parts of at
most `maxSize` characters each. -/
theorem splitString_length_le (input : List Char) (maxSize : Nat)
    (hL : input.length ≤ 2 * maxSize) :
    (splitString input maxSize).1.length ≤ maxSize ∧ (splitString input maxSize).2.length ≤ maxSize := by
  obtain ⟨p, hs, hp⟩ := splitString_cases input maxSize
  have hsecond : ((input.drop p).dropWhile isspace).length ≤ input.length - p :=
    (List.dropWhile_sublist _).length_le.trans (List.length_drop _ _).le
  rw [hs]
  refine ⟨(List.length_take_le _ _).trans ?_, hsecond.trans ?_⟩ <;> omega

/-! ## 2. sendMessageToQueue -/

/-- A message that fits a broadcast is sent as it is. -/
theorem broadcastParts_of_le {message : List Char} (h : message.length ≤ broadcastMessageLength) :
    broadcastParts message = [message] := by
  rw [broadcastParts, if_neg (by omega), List.take_of_length_le h]

/-- A longer message is sent as the two parts of `splitString`. -/
theorem broadcastParts_of_lt {message : List Char} (h : broadcastMessageLength < message.length) :
    broadcastParts message =
      [(splitString message broadcastMessageLength).1, (splitString message broadcastMessageLength).2] := by
  rw [broadcastParts, if_pos h]

/-- Every part of a message of at most 80 characters is taken from it and fits
in a broadcast. -/
theorem mem_broadcastParts {message part : List Char} (hL : message.length ≤ clientMessageLength)
    (h : part ∈ broadcastParts message) :
    part.Sublist message ∧ part.length ≤ broadcastMessageLength := by
  by_cases hlong : broadcastMessageLength < message.length
  · have hs := splitString_sublist message broadcastMessageLength
    have hl := splitString_length_le message broadcastMessageLength
      (by simpa [clientMessageLength, broadcastMessageLength] using hL)
    rw [broadcastParts_of_lt hlong] at h
    simp only [List.mem_cons, List.mem_singleton, List.not_mem_nil, or_false] at h
    rcases h with rfl | rfl
    exacts [⟨hs.1, hl.1⟩, ⟨hs.2, hl.2⟩]
  · rw [broadcastParts_of_le (by omega), List.mem_singleton] at h
    subst h
    exact ⟨List.Sublist.refl _, by omega⟩

/-- The broadcasts carry the parts whole: storing a part in the 41-byte
message buffer never cuts it. -/
theorem message_sendMessageToQueue (clientIP : List Char) (m : ClientMessage) :
    (sendMessageToQueue clientIP m).map (·.message.chars) = broadcastParts m.message.chars := by
  rw [sendMessageToQueue, List.map_map]
  refine (List.map_congr_left fun part h => ?_).trans (List.map_id _)
  obtain ⟨hsub, hlen⟩ := mem_broadcastParts m.message.length_le h
  exact CStr.ofList_of_fits (fun hn => m.message.nul_free (hsub.subset hn)) hlen

/-- `sendMessageToQueue` on any `ClientMessage` (whose message has at most 80
characters): every broadcast carries the client's IP and the message's user
ID; every part fits in a broadcast's 40 characters; a message of at most 40
characters goes out as one broadcast holding it, a longer one as two whose
messages, with a run of whitespace between them, give it back. -/
theorem sendMessageToQueue_splits (clientIP : List Char) (m : ClientMessage) :
    (∀ b ∈ sendMessageToQueue clientIP m,
      b.clientIP = CStr.ofList _ clientIP ∧ b.clientUserID = CStr.ofList _ m.clientUserID.chars) ∧
    (∀ part ∈ broadcastParts m.message.chars, part.length ≤ broadcastMessageLength) ∧
    (m.message.chars.length ≤ broadcastMessageLength →
      (sendMessageToQueue clientIP m).map (·.message.chars) = [m.message.chars]) ∧
    (broadcastMessageLength < m.message.chars.length →
      ∃ first ws second, (sendMessageToQueue clientIP m).map (·.message.chars) = [first, second] ∧
        ws.all isspace = true ∧ m.message.chars = first ++ ws ++ second) := by
  refine ⟨fun b hb => ?_, fun part h => (mem_broadcastParts m.message.length_le h).2,
    fun h => by rw [message_sendMessageToQueue, broadcastParts_of_le h], fun h => ?_⟩
  · obtain ⟨part, -, rfl⟩ := List.mem_map.mp hb
    exact ⟨rfl, rfl⟩
  · obtain ⟨ws, hws, hrec⟩ := splitString_recombine m.message.chars broadcastMessageLength
    exact ⟨_, ws, _, by rw [message_sendMessageToQueue, broadcastParts_of_lt h], hws, hrec⟩

/-- A chat line of 51 characters, split after its eighth word. -/
def longChat : ClientMessage :=
  ⟨CStr.ofList _ "bob".toList,
    CStr.ofList _ "one two three four five six seven eight nine ten xy".toList⟩

/-- `longChat` goes out as two broadcasts, split at the last space before the
limit. -/
theorem sendMessageToQueue_splits_longChat :
    broadcastMessageLength < longChat.message.chars.length ∧
      ∃ first ws second,
        (sendMessageToQueue "10.0.0.2".toList longChat).map (·.message.chars) = [first, second] ∧
        ws.all isspace = true ∧ longChat.message.chars = first ++ ws ++ second :=
  ⟨by decide, (sendMessageToQueue_splits "10.0.0.2".toList longChat).2.2.2 (by decide)⟩

example : (sendMessageToQueue "10.0.0.2".toList longChat).map (·.message.chars) =
    ["one two three four five six seven eight".toList, "nine ten xy".toList] := by decide

/-! ## 3. Where the split falls -/

/-- A 60-character line: a word of 21 letters, a space, a word of 38. -/
def wordCutInput : List Char := List.replicate 21 'a' ++ ' ' :: List.replicate 38 'b'

/-- Splitting `wordCutInput` at its space would give parts of 21 and 38
characters, both within 40; `splitString` splits at 40 instead, inside the
second word, because `inputLen - splitPoint` is 39, not below `maxSize - 1`. -/
theorem splitString_cuts_word :
    wordCutInput.length = 60 ∧ isspace (wordCutInput.getD 21 '\x00') = true ∧
      ((wordCutInput.drop 22).dropWhile isspace).length ≤ broadcastMessageLength ∧
      splitString wordCutInput broadcastMessageLength =
        (wordCutInput.take 40, (wordCutInput.drop 40).dropWhile isspace) ∧
      isspace (wordCutInput.getD 40 '\x00') = false := by
  decide

/-! ## 4. The broadcasts read back -/

theorem QuoteFree.of_sublist {s t : List Char} (ht : QuoteFree t) (h : s.Sublist t) : QuoteFree s :=
  fun hq => ht (h.subset hq)

/-- `strncpy` copies no quote that was not in its source. -/
theorem quoteFree_ofList {s : List Char} (h : QuoteFree s) (n : Nat) : QuoteFree (CStr.ofList n s).chars :=
  h.of_sublist ((List.take_sublist _ _).trans (List.takeWhile_sublist _))

/-- A field read by a `[^"]` scanset holds no quote. -/
theorem quoteFree_jsonField (key : List Char) (n : Nat) (json : List Char) :
    QuoteFree (jsonField key n json).chars := by
  rw [jsonField]
  split
  · exact quoteFree_ofList (fun hq => by simpa using List.mem_takeWhile_imp hq) _
  · exact quoteFree_nil

/-- Every field of a decoded `ClientMessage` is quote-free. -/
theorem quoteFree_jsonToClientMessage (json : List Char) :
    QuoteFree (jsonToClientMessage json).clientUserID.chars ∧
      QuoteFree (jsonToClientMessage json).message.chars :=
  ⟨quoteFree_jsonField _ _ _, quoteFree_jsonField _ _ _⟩

/-- No field of the broadcast holds a double quote. -/
structure Broadcast.FieldsQuoteFree (b : Broadcast) : Prop where
  clientIP : QuoteFree b.clientIP.chars
  clientUserID : QuoteFree b.clientUserID.chars
  message : QuoteFree b.message.chars

/-- A broadcast with quote-free fields is read back by `jsonToBroadcast`. -/
theorem Broadcast.FieldsQuoteFree.readBack {b : Broadcast} (h : b.FieldsQuoteFree) :
    jsonToBroadcast (broadcastToJson b) = b :=
  jsonToBroadcast_broadcastToJson b h.clientIP h.clientUserID h.message

/-- The broadcasts of a quote-free IP and a quote-free message are
quote-free. -/
theorem quoteFree_sendMessageToQueue {clientIP : List Char} (hip : QuoteFree clientIP)
    {m : ClientMessage} (hu : QuoteFree m.clientUserID.chars) (hm : QuoteFree m.message.chars) :
    ∀ b ∈ sendMessageToQueue clientIP m, b.FieldsQuoteFree := by
  intro b hb
  obtain ⟨part, hpart, rfl⟩ := List.mem_map.mp hb
  exact ⟨quoteFree_ofList hip _, quoteFree_ofList hu _,
    quoteFree_ofList (hm.of_sublist (mem_broadcastParts m.message.length_le hpart).1) _⟩

/-- A reply of `sendServerMessage` with a quote-free text is quote-free. -/
theorem quoteFree_serverBroadcast {serverMessage : List Char} (h : QuoteFree serverMessage) :
    (serverBroadcast serverMessage).FieldsQuoteFree :=
  ⟨quoteFree_nil, quoteFree_nil, quoteFree_ofList h _⟩

/-- What `processMessage` sends: its replies are `sendServerMessage` replies
with a reserved token, and it enqueues nothing or the broadcasts of
`sendMessageToQueue` for the message it decoded. -/
theorem processMessage_outputs {clientSocket : Nat} {clientIP : List Char} {threadID : Nat}
    {sd : SharedData} {isRegistration : Bool} {frame : Option (List Char)} {r : ProcessResult}
    (h : processMessage clientSocket clientIP threadID sd isRegistration frame = some r) :
    (∀ b ∈ r.replies, b = serverBroadcast serverRegistrationSuccessMsg ∨
        b = serverBroadcast serverRegistrationFailMsg) ∧
      (r.enqueued = [] ∨
        frameOK frame = true ∧ r.enqueued = sendMessageToQueue clientIP (decodeFrame frame)) := by
  rw [processMessage] at h
  split_ifs at h <;> simp only [Option.bind_eq_bind, Option.bind_eq_some, Option.some.injEq] at h
  · subst h; simp
  · subst h; simp
  · obtain ⟨_, -, h⟩ := h
    split_ifs at h
    · obtain ⟨⟨added, sd'⟩, -, h⟩ := Option.bind_eq_some.mp h
      split_ifs at h <;> (simp only [Option.some.injEq] at h; subst h; simp)
    · simp only [Option.some.injEq] at h; subst h; simp
  · obtain ⟨_, -, ⟨_, _⟩, -, h⟩ := h; subst h; simp
  · subst h
    exact ⟨by simp, .inr ⟨by cases frame <;> simp_all [frameOK, decodeFrame], rfl⟩⟩

/-- On a connection whose IP is quote-free, every reply and every queued
broadcast of `processMessage` is quote-free. -/
theorem processMessage_sends_quoteFree {clientSocket : Nat} {clientIP : List Char}
    {threadID : Nat} {sd : SharedData} {isRegistration : Bool} {frame : Option (List Char)}
    {r : ProcessResult} (hip : QuoteFree clientIP)
    (h : processMessage clientSocket clientIP threadID sd isRegistration frame = some r) :
    ∀ b ∈ r.replies ++ r.enqueued, b.FieldsQuoteFree := by
  obtain ⟨hreplies, henq⟩ := processMessage_outputs h
  intro b hb
  rcases List.mem_append.mp hb with hb | hb
  · rcases hreplies b hb with rfl | rfl
    exacts [quoteFree_serverBroadcast (by decide), quoteFree_serverBroadcast (by decide)]
  · rcases henq with he | ⟨-, he⟩
    · simp [he] at hb
    · rw [he] at hb
      exact quoteFree_sendMessageToQueue hip (quoteFree_jsonToClientMessage _).1
        (quoteFree_jsonToClientMessage _).2 b hb

/-- Where a Broadcast of the server comes from: a reply of `sendServerMessage`,
or a part of a chat message, whose user ID passed the check of `processMessage`
and so is not empty. -/
def Broadcast.FromServer (b : Broadcast) : Prop :=
  b = serverBroadcast serverRegistrationSuccessMsg ∨ b = serverBroadcast serverRegistrationFailMsg ∨
    b.clientUserID.chars ≠ []

/-- A Broadcast as the server sends it: quote-free, and a reply or a part of a
chat message. -/
structure Broadcast.Sendable (b : Broadcast) : Prop where
  quoteFree : b.FieldsQuoteFree
  fromServer : b.FromServer

/-- `processMessage` enqueues only the parts of a message whose user ID is not
empty. -/
theorem processMessage_sends_fromServer {clientSocket : Nat} {clientIP : List Char}
    {threadID : Nat} {sd : SharedData} {isRegistration : Bool} {frame : Option (List Char)}
    {r : ProcessResult} (h : processMessage clientSocket clientIP threadID sd isRegistration frame = some r) :
    ∀ b ∈ r.replies ++ r.enqueued, b.FromServer := by
  obtain ⟨hreplies, henq⟩ := processMessage_outputs h
  intro b hb
  rcases List.mem_append.mp hb with hb | hb
  · exact (hreplies b hb).elim .inl (.inr ∘ .inl)
  · rcases henq with he | ⟨hf, he⟩
    · simp [he] at hb
    · rw [he] at hb
      refine .inr (.inr fun e => (frameOK_userID hf).1 ?_)
      rw [← (sendMessageToQueue_origin hb).2, e, List.length_nil]

theorem processMessage_sends_sendable {clientSocket : Nat} {clientIP : List Char}
    {threadID : Nat} {sd : SharedData} {isRegistration : Bool} {frame : Option (List Char)}
    {r : ProcessResult} (hip : QuoteFree clientIP)
    (h : processMessage clientSocket clientIP threadID sd isRegistration frame = some r) :
    ∀ b ∈ r.replies ++ r.enqueued, b.Sendable :=
  fun b hb => ⟨processMessage_sends_quoteFree hip h b hb, processMessage_sends_fromServer h b hb⟩

/-- Every broadcast the server builds is read back by `jsonToBroadcast`: a
`Broadcast` whose fields (at most 15, 5 and 40 characters, as its arrays hold)
contain no double quote, empty fields included, comes back field by field; and
every reply and every queued broadcast of `processMessage`, on a connection
whose IP is quote-free (as `inet_ntop` writes it), is such a `Broadcast`. -/
theorem jsonToBroadcast_inverts_server_broadcasts :
    (∀ b : Broadcast, QuoteFree b.clientIP.chars → QuoteFree b.clientUserID.chars →
        QuoteFree b.message.chars → jsonToBroadcast (broadcastToJson b) = b) ∧
    (∀ (clientSocket : Nat) (clientIP : List Char) (threadID : Nat) (sd : SharedData)
        (isRegistration : Bool) (frame : Option (List Char)) (r : ProcessResult),
        QuoteFree clientIP →
        processMessage clientSocket clientIP threadID sd isRegistration frame = some r →
        ∀ b ∈ r.replies ++ r.enqueued, jsonToBroadcast (broadcastToJson b) = b) :=
  ⟨jsonToBroadcast_broadcastToJson,
    fun _ _ _ _ _ _ _ hip h b hb => (processMessage_sends_quoteFree hip h b hb).readBack⟩

/-- The `>>failed<<` reply, and the two broadcasts of `longChat` that a handler
of `ann`'s registry enqueues, are read back. -/
theorem jsonToBroadcast_inverts_server_broadcasts_longChat :
    (QuoteFree (serverBroadcast serverRegistrationFailMsg).clientIP.chars ∧
      QuoteFree (serverBroadcast serverRegistrationFailMsg).clientUserID.chars ∧
      QuoteFree (serverBroadcast serverRegistrationFailMsg).message.chars ∧
      jsonToBroadcast (broadcastToJson (serverBroadcast serverRegistrationFailMsg)) =
        serverBroadcast serverRegistrationFailMsg) ∧
    (QuoteFree "10.0.0.2".toList ∧
      processMessage 4 "10.0.0.2".toList 7 annRegistry false (some (clientMessageToJson longChat)) =
        some ⟨messageProcessSuccess, annRegistry, [], sendMessageToQueue "10.0.0.2".toList longChat⟩ ∧
      ∀ b ∈ ([] : List Broadcast) ++ sendMessageToQueue "10.0.0.2".toList longChat,
        jsonToBroadcast (broadcastToJson b) = b) := by
  have h1 : QuoteFree (serverBroadcast serverRegistrationFailMsg).clientIP.chars := by decide
  have h2 : QuoteFree (serverBroadcast serverRegistrationFailMsg).clientUserID.chars := by decide
  have h3 : QuoteFree (serverBroadcast serverRegistrationFailMsg).message.chars := by decide
  have hip : QuoteFree "10.0.0.2".toList := by decide
  have hpm : processMessage 4 "10.0.0.2".toList 7 annRegistry false (some (clientMessageToJson longChat)) =
      some ⟨messageProcessSuccess, annRegistry, [], sendMessageToQueue "10.0.0.2".toList longChat⟩ := by
    decide
  exact ⟨⟨h1, h2, h3, jsonToBroadcast_inverts_server_broadcasts.1 _ h1 h2 h3⟩,
    hip, hpm, jsonToBroadcast_inverts_server_broadcasts.2 4 _ 7 annRegistry false _ _ hip hpm⟩

/-! ## 5. What the clients receive -/

/-- The decimal digit `d`, `'0' + d`. -/
def decimalDigit (d : Nat) : Char := Char.ofNat (48 + d)

/-- `%u` of a byte: its decimal digits, with no leading zero. -/
def byteDecimal (n : Fin 256) : List Char :=
  if n.val < 10 then [decimalDigit n]
  else if n.val < 100 then [decimalDigit (n / 10), decimalDigit (n % 10)]
  else [decimalDigit (n / 100), decimalDigit (n / 10 % 10), decimalDigit (n % 10)]

/-- `inet_ntop(AF_INET, &addr, clientIP, INET_ADDRSTRLEN)`: the four bytes of an
IPv4 address, in network order, in decimal and separated by dots. -/
def inetNtop (a b c d : Fin 256) : List Char :=
  byteDecimal a ++ '.' :: byteDecimal b ++ '.' :: byteDecimal c ++ '.' :: byteDecimal d

/-- `getClientIP(clientSocket)` for a peer whose address `getpeername` gives
(`none` when it fails, and then the C `NULL`); `inet_ntop` with an
`INET_ADDRSTRLEN` buffer does not fail on an IPv4 address. -/
def getClientIP (peer : Option (Fin 256 × Fin 256 × Fin 256 × Fin 256)) : Option (List Char) :=
  peer.map fun addr => inetNtop addr.1 addr.2.1 addr.2.2.1 addr.2.2.2

theorem decimalDigit_ne {d : Nat} (h : d < 10) : decimalDigit d ≠ '\x00' ∧ decimalDigit d ≠ '"' := by
  have hd : ∀ d : Fin 10, decimalDigit d ≠ '\x00' ∧ decimalDigit d ≠ '"' := by decide
  exact hd ⟨d, h⟩

theorem byteDecimal_spec (n : Fin 256) :
    (byteDecimal n).length ≤ 3 ∧ ∀ c ∈ byteDecimal n, c ≠ '\x00' ∧ c ≠ '"' := by
  have hn := n.isLt
  unfold byteDecimal
  split_ifs
  · exact ⟨by simp, by simpa using decimalDigit_ne ‹_›⟩
  · exact ⟨by simp, by
      simpa using ⟨decimalDigit_ne (by omega), decimalDigit_ne (Nat.mod_lt _ (by decide))⟩⟩
  · exact ⟨by simp, by
      simpa using ⟨decimalDigit_ne (by omega), decimalDigit_ne (Nat.mod_lt _ (by decide)),
        decimalDigit_ne (Nat.mod_lt _ (by decide))⟩⟩

/-- What `inet_ntop` writes fits `CLIENT_IP_LENGTH` and holds neither a NUL nor
a double quote. -/
theorem inetNtop_fits (a b c d : Fin 256) :
    (inetNtop a b c d).length ≤ clientIPLength ∧ QuoteFree (inetNtop a b c d) ∧
      NulFree (inetNtop a b c d) := by
  obtain ⟨la, ha⟩ := byteDecimal_spec a
  obtain ⟨lb, hb⟩ := byteDecimal_spec b
  obtain ⟨lc, hc⟩ := byteDecimal_spec c
  obtain ⟨ld, hd⟩ := byteDecimal_spec d
  have hall : ∀ x ∈ inetNtop a b c d, x ≠ '\x00' ∧ x ≠ '"' := by
    simp only [inetNtop, List.mem_append, List.mem_cons, or_assoc]
    rintro x (hx | rfl | hx | rfl | hx | rfl | hx)
    exacts [ha x hx, by decide, hb x hx, by decide, hc x hx, by decide, hd x hx]
  refine ⟨?_, fun hq => (hall _ hq).2 rfl, fun hn => (hall _ hn).1 rfl⟩
  simp only [inetNtop, List.length_append, List.length_cons, clientIPLength]
  omega

/-- The address `getClientIP` hands a starting handler holds no double quote,
as `inet_ntop` writes it. -/
def Action.QuoteFreeIP : Action → Prop
  | .handlerStart _ (some ip) => QuoteFree ip
  | _ => True

instance : DecidablePred Action.QuoteFreeIP
  | .handlerStart _ (some ip) => inferInstanceAs (Decidable (QuoteFree ip))
  | .handlerStart _ none => isTrue trivial
  | .accept _ | .createHandler _ | .acceptFail | .cleanUp | .handlerRegister .. | .handlerMessage ..
  | .handlerResume _ | .handlerCleanUp _ | .monitor | .broadcaster => isTrue trivial

/-- A `handlerStart` whose address is what `getClientIP` returns for the peer. -/
def Action.FromPeer : Action → Prop
  | .handlerStart _ clientIP => ∃ peer, clientIP = getClientIP peer
  | _ => True

/-- The addresses `getClientIP` returns meet the condition of the theorems
below. -/
theorem Action.FromPeer.quoteFreeIP {a : Action} (h : a.FromPeer) : a.QuoteFreeIP := by
  cases a with
  | handlerStart i clientIP =>
    obtain ⟨peer, rfl⟩ := h
    rcases peer with _ | ⟨a, b, c, d⟩
    exacts [trivial, (inetNtop_fits a b c d).2.1]
  | _ => trivial

/-- Everything on its way to a client is as the server sends it: the
handlers' IPs are quote-free, and the queue, what a blocked `msgsnd` has still
to send, the Broadcast the broadcaster holds and every write so far are
quote-free replies or chat parts. -/
structure WireInv (w : World) : Prop where
  clientIPs : ∀ h ∈ w.handlers, QuoteFree h.clientIP
  queue : ∀ b ∈ w.queue, b.Sendable
  sending : ∀ i bs, w.sending = some (i, bs) → ∀ b ∈ bs, b.Sendable
  held : ∀ b, w.broadcaster = .fanningOut b → b.Sendable
  writes : ∀ p ∈ w.writes, p.2.Sendable

section Wire

variable {w w' : World}

theorem WireInv.init (serverSocket : Nat) : WireInv (World.init serverSocket) :=
  ⟨by simp [World.init], by simp [World.init], by simp [World.init], by simp [World.init], by simp [World.init]⟩

theorem WireInv.setHandler (hi : WireInv w) (i : Nat) (h : Handler) (hh : QuoteFree h.clientIP) :
    WireInv (w.setHandler i h) :=
  { hi with clientIPs := fun h' hm => (List.mem_or_eq_of_mem_set hm).elim (hi.clientIPs h') fun e => e ▸ hh }

theorem WireInv.close (hi : WireInv w) (clientSocket : Nat) : WireInv (w.close clientSocket) :=
  { hi with }

/-- A `processMessage` call of a handler with a quote-free IP sends only
quote-free replies. -/
theorem WireInv.afterProcess (hi : WireInv w) {h : Handler} (hh : QuoteFree h.clientIP)
    {clientSocket threadID : Nat} {sd : SharedData} {isRegistration : Bool}
    {frame : Option (List Char)} {r : ProcessResult}
    (hr : processMessage clientSocket h.clientIP threadID sd isRegistration frame = some r) :
    WireInv (w.afterProcess h r) := by
  have hsent := processMessage_sends_sendable hh hr
  refine { hi with writes := fun p hp => ?_ }
  rcases List.mem_append.mp hp with hp | hp
  · exact hi.writes p hp
  · obtain ⟨b, hb, rfl⟩ := List.mem_map.mp hp
    exact hsent b (List.mem_append_left _ hb)

/-- `msgsnd` of quote-free replies and chat parts puts some of them on the
queue and leaves the others to a blocked handler. -/
theorem WireInv.sendToQueue (hi : WireInv w) (i : Nat) {bs : List Broadcast}
    (hbs : ∀ b ∈ bs, b.Sendable) : WireInv (w.sendToQueue i bs) := by
  obtain ⟨k, s, h, hs⟩ := w.sendToQueue_eq i bs
  rw [h]
  refine { hi with queue := fun b hb => ?_, sending := fun j bs' hj b hb => ?_ }
  · rcases List.mem_append.mp hb with hb | hb
    exacts [hi.queue b hb, hbs b (List.mem_of_mem_take hb)]
  · rcases hs with rfl | rfl
    · exact hi.sending j bs' hj b hb
    · cases hj
      exact hbs b (List.mem_of_mem_drop hb)

/-- The broadcaster writes only the Broadcast it took off the queue. -/
theorem WireInv.broadcasterStep (hi : WireInv w) (h : step .broadcaster w = some w') :
    WireInv w' := by
  replace h : chatBroadcasterStep w = some w' := (step_eq_some h).2
  unfold chatBroadcasterStep at h
  split at h
  · cases h
    exact { hi with held := fun _ e => by split at e <;> cases e }
  · cases h
    exact { hi with held := fun _ e => by split at e <;> cases e }
  · split at h
    · cases h
      exact { hi with held := fun _ e => by cases e }
    split at h
    · cases h
      exact { hi with held := fun _ e => by cases e }
    · next b rest hq =>
      cases h
      refine { hi with
        queue := fun b' hb' => hi.queue b' (hq ▸ List.mem_cons_of_mem _ hb')
        held := fun b' e => ?_ }
      cases e
      exact hi.queue b (hq ▸ List.mem_cons_self _ _)
  · next b hb =>
    obtain ⟨clients, -, h⟩ := Option.bind_eq_some.mp h
    cases h
    refine { hi with
      held := fun _ e => by cases e
      writes := fun p hp => ?_ }
    rcases List.mem_append.mp hp with hp | hp
    · exact hi.writes p hp
    · obtain ⟨c, -, rfl⟩ := List.mem_map.mp hp
      exact hi.held b hb
  · cases h

/-- Every step whose peer address is quote-free keeps the invariant. -/
theorem WireInv.step (hi : WireInv w) {a : Action} (ha : a.QuoteFreeIP) (h : step a w = some w') :
    WireInv w' := by
  cases a with
  | accept => obtain ⟨-, -, -, -, rfl⟩ := acceptClient_some h; exact { hi with }
  | createHandler =>
    obtain ⟨-, -, rfl⟩ := createClientHandler_some h
    refine { hi with clientIPs := fun h hm => ?_, held := fun b e => ?_ }
    · rcases List.mem_append.mp hm with hm | hm
      · exact hi.clientIPs h hm
      · rw [List.mem_singleton.mp hm]
        exact quoteFree_nil
    · split at e
      · cases e
      · exact hi.held b e
  | acceptFail => obtain ⟨-, -, rfl⟩ := acceptFailed_some h; exact { hi with }
  | cleanUp => obtain ⟨-, -, rfl⟩ := cleanUpServer_some h; exact { hi with }
  | handlerStart i clientIP =>
    obtain ⟨hd, hhd, -, ⟨ip, rfl, rfl⟩ | ⟨rfl, rfl⟩⟩ := clientHandlerStart_some h
    · exact hi.setHandler i _ ha
    · refine WireInv.close ?_ _
      exact hi.setHandler i _ (hi.clientIPs hd (List.getElem?_mem hhd))
  | handlerRegister i frame =>
    obtain ⟨hd, r, hhd, -, hr, rfl⟩ := clientHandlerRegister_some h
    have hh := hi.clientIPs hd (List.getElem?_mem hhd)
    split
    · exact (hi.afterProcess hh hr).setHandler i _ hh
    · refine WireInv.close ?_ _
      exact (hi.afterProcess hh hr).setHandler i _ hh
  | handlerMessage i frame =>
    obtain ⟨hd, r, hhd, -, hr, rfl⟩ := clientHandlerMessage_some h
    have hh := hi.clientIPs hd (List.getElem?_mem hhd)
    have hsent := processMessage_sends_sendable hh hr
    exact ((hi.afterProcess hh hr).sendToQueue i fun b hb => hsent b (List.mem_append_right _ hb)).setHandler
      i _ hh
  | handlerResume i =>
    obtain ⟨bs, hs, -, rfl⟩ := clientHandlerResume_some h
    have h0 : WireInv { w with sending := none } := { hi with sending := fun _ _ e => Option.noConfusion e }
    exact h0.sendToQueue i (hi.sending i bs hs)
  | handlerCleanUp i =>
    obtain ⟨hd, -, sd, hhd, -, -, rfl⟩ := clientHandlerCleanUp_some h
    have hsd : WireInv { w with shared := sd } := { hi with }
    refine WireInv.close ?_ _
    exact hsd.setHandler i _ (hi.clientIPs hd (List.getElem?_mem hhd))
  | monitor =>
    obtain ⟨-, ⟨m, -, rfl⟩ | ⟨-, rfl⟩⟩ := clientConnectionMonitorStep_some h <;> exact { hi with }
  | broadcaster => exact hi.broadcasterStep h

theorem WireInv.runActions :
    ∀ (acts : List Action) {w w' : World}, WireInv w → (∀ a ∈ acts, a.QuoteFreeIP) →
      runActions acts w = some w' → WireInv w'
  | [], _, _, hi, _, h => by cases h; exact hi
  | a :: rest, _, _, hi, ha, h => by
    obtain ⟨v, hv, h⟩ := Option.bind_eq_some.mp h
    exact WireInv.runActions rest (hi.step (ha a (List.mem_cons_self _ _)) hv)
      (fun b hb => ha b (List.mem_cons_of_mem _ hb)) h

end Wire

/-- In every run of the server whose peers' addresses hold no double quote,
every Broadcast written on a client socket, and every Broadcast still on the
queue, is read back whole by `jsonToBroadcast` from its `broadcastToJson`
text: what `output_handler` decodes from one whole frame is what the server
meant to send. -/
theorem writes_read_back {serverSocket : Nat} {acts : List Action} {w : World}
    (hrun : runActions acts (World.init serverSocket) = some w) (hips : ∀ a ∈ acts, a.QuoteFreeIP) :
    (∀ p ∈ w.writes, jsonToBroadcast (broadcastToJson p.2) = p.2) ∧
      ∀ b ∈ w.queue, jsonToBroadcast (broadcastToJson b) = b := by
  have hi := WireInv.runActions acts (WireInv.init serverSocket) hips hrun
  exact ⟨fun p hp => (hi.writes p hp).quoteFree.readBack,
    fun b hb => (hi.queue b hb).quoteFree.readBack⟩

theorem writes_read_back_session :
    runActions sessionRun (World.init 3) = some sessionWorld ∧ (∀ a ∈ sessionRun, a.QuoteFreeIP) ∧
      (∀ p ∈ sessionWorld.writes, jsonToBroadcast (broadcastToJson p.2) = p.2) ∧
      ∀ b ∈ sessionWorld.queue, jsonToBroadcast (broadcastToJson b) = b :=
  have hrun : runActions sessionRun (World.init 3) = some sessionWorld := rfl
  have hips : ∀ a ∈ sessionRun, a.QuoteFreeIP := by decide
  ⟨hrun, hips, writes_read_back hrun hips⟩

end ChatSystem
