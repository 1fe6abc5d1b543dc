/-
ChatSystem.Framing — frames on a connection, and what a reader decodes of the
reads that return them.

Each side writes one frame per `send`: the client a `clientMessageToJson`
text, the server a `broadcastToJson` text. TCP delivers the bytes in order but
keeps no boundary between sends, so a `read` or `recv` of up to `JSON_LENGTH`
bytes may return part of a frame, or several frames. A `Segmentation` of the
byte stream is one way the reads can split it; the server model of
`ChatSystem.Server` takes the bytes of each read as they come.

The reader decodes each read on its own, from a zeroed buffer of
`JSON_LENGTH` bytes: `processMessage` with `jsonToClientMessage`,
`output_handler` with `jsonToBroadcast`. Both decoders take every key from the
first frame of the read and ignore what follows it (`FrameCodec`), so

* a read that holds whole frames decodes to the first of them
  (`FrameCodec.decode_groups`), and the reader decodes what was written
  exactly when each read holds one frame (`FrameCodec.decode_aligned`);
* reads that do not end where frames end decode fragments as messages of their
  own: a frame split after its user ID decodes to two messages, the second of
  them the server's `>>failed<<` reply (`reads_merge_and_split_frames`), and a
  read that starts inside a frame, at its message, decodes to fields of two
  frames (`outputHandlerBroadcast_across_frames`).
-/
import ChatSystem.MessagingTheorems
import ChatSystem.ProcessMessageTheorems

namespace ChatSystem

/-! ## 1. Streams and reads -/

/-- The bytes one side writes on a connection: its frames, one `send` each,
back to back. -/
def byteStream (frames : List (List Char)) : List Char := frames.flatten

@[simp] theorem byteStream_nil : byteStream [] = [] := rfl

@[simp] theorem byteStream_cons (frame : List Char) (frames : List (List Char)) :
    byteStream (frame :: frames) = frame ++ byteStream frames := rfl

/-- The successive reads that return a byte stream: each returned at least one
byte (a read of none is the end of the connection) and at most the
`JSON_LENGTH` bytes it asked for. -/
structure Segmentation (stream : List Char) where
  reads : List (List Char)
  flatten_reads : reads.flatten = stream
  length_pos : ∀ r ∈ reads, 0 < r.length
  length_le : ∀ r ∈ reads, r.length ≤ jsonLength

/-- What `output_handler` decodes from what its `recv` returned: its buffer of
`JSON_LENGTH` bytes is zeroed first, as the `readBuffer` of `processMessage` is. -/
def outputHandlerBroadcast (bytes : List Char) : Broadcast := jsonToBroadcast (readBuffer bytes)

/-! ## 2. A read that starts with a whole frame -/

/-- A zeroed buffer holds the read's first string, cut at `JSON_LENGTH`. -/
theorem cstr_readBuffer (bytes : List Char) :
    cstr (readBuffer bytes) = (cstr bytes).take jsonLength := by
  rw [readBuffer, cstr_take]
  exact congrArg (List.take jsonLength) (cstr_append_nul_cons bytes (List.replicate 255 '\x00'))

/-- What `processMessage` decodes of a read: its first string, cut at
`JSON_LENGTH` characters. -/
theorem decodeFrame_some (frame : List Char) :
    decodeFrame (some frame) = jsonToClientMessage ((cstr frame).take jsonLength) := by
  simp only [decodeFrame, Option.getD_some, jsonToClientMessage, cstr_readBuffer, cstr_take_cstr]

theorem outputHandlerBroadcast_eq (bytes : List Char) :
    outputHandlerBroadcast bytes = jsonToBroadcast ((cstr bytes).take jsonLength) := by
  simp only [outputHandlerBroadcast, jsonToBroadcast, cstr_readBuffer, cstr_take_cstr]

/-- Cutting a read after a whole frame keeps the frame. -/
theorem take_cstr_append {frame : List Char} (hf : NulFree frame) (hl : frame.length ≤ n)
    (rest : List Char) : (cstr (frame ++ rest)).take n = frame ++ (cstr rest).take (n - frame.length) := by
  rw [cstr_append_of_nulFree hf, List.take_append_eq_append_take, List.take_of_length_le hl]

theorem length_clientMessageToJson_le (m : ClientMessage) :
    (clientMessageToJson m).length ≤ jsonLength := by
  have h1 := m.clientUserID.length_le
  have h2 := m.message.length_le
  have hk : clientUserIDKey.length + messageKey.length = 27 := rfl
  simp only [clientMessageToJson, List.length_cons, List.length_append, List.length_nil]
  simp only [clientUserIDLength, clientMessageLength, jsonLength] at *
  omega

theorem length_broadcastToJson_le (b : Broadcast) : (broadcastToJson b).length ≤ jsonLength := by
  have h1 := b.clientIP.length_le
  have h2 := b.clientUserID.length_le
  have h3 := b.message.length_le
  have hk : clientIPKey.length + clientUserIDKey.length + messageKey.length = 39 := rfl
  simp only [broadcastToJson, List.length_cons, List.length_append, List.length_nil]
  simp only [clientIPLength, clientUserIDLength, broadcastMessageLength, jsonLength] at *
  omega

/-- A read that starts with a whole `ClientMessage` frame decodes to it,
whatever follows. -/
theorem decodeFrame_clientMessageToJson_append (m : ClientMessage)
    (h1 : QuoteFree m.clientUserID.chars) (h2 : QuoteFree m.message.chars) (rest : List Char) :
    decodeFrame (some (clientMessageToJson m ++ rest)) = m := by
  rw [decodeFrame_some, take_cstr_append (nulFree_clientMessageToJson m)
    (length_clientMessageToJson_le m), jsonToClientMessage_clientMessageToJson_append m h1 h2]

/-- A `recv` that starts with a whole `Broadcast` frame decodes to it,
whatever follows. -/
theorem outputHandlerBroadcast_broadcastToJson_append (b : Broadcast)
    (h1 : QuoteFree b.clientIP.chars) (h2 : QuoteFree b.clientUserID.chars)
    (h3 : QuoteFree b.message.chars) (rest : List Char) :
    outputHandlerBroadcast (broadcastToJson b ++ rest) = b := by
  rw [outputHandlerBroadcast_eq, take_cstr_append (nulFree_broadcastToJson b)
    (length_broadcastToJson_le b), jsonToBroadcast_broadcastToJson_append b h1 h2 h3]

/-! ## 3. The two sides of a connection -/

/-- A writer's encoder and the reader's decoder, with what every framing
result below rests on: a read that starts with the whole frame of a good
message decodes to that message, whatever follows it. -/
structure FrameCodec (α : Type) where
  encode : α → List Char
  decode : List Char → α
  good : α → Prop
  decode_encode_append : ∀ m, good m → ∀ rest, decode (encode m ++ rest) = m

/-- The client writes, `processMessage` reads. -/
def clientMessageCodec : FrameCodec ClientMessage where
  encode := clientMessageToJson
  decode frame := decodeFrame (some frame)
  good m := QuoteFree m.clientUserID.chars ∧ QuoteFree m.message.chars
  decode_encode_append m h := decodeFrame_clientMessageToJson_append m h.1 h.2

/-- The server writes, `output_handler` reads. -/
def broadcastCodec : FrameCodec Broadcast where
  encode := broadcastToJson
  decode := outputHandlerBroadcast
  good b := QuoteFree b.clientIP.chars ∧ QuoteFree b.clientUserID.chars ∧ QuoteFree b.message.chars
  decode_encode_append b h := outputHandlerBroadcast_broadcastToJson_append b h.1 h.2.1 h.2.2

/-! ## 4. Reads that end where frames end -/

/-- The reads end only where frames end: read `i` holds the frames of group
`i`, and the groups, in order, are the messages written. -/
def Segmentation.Aligned {α : Type} (encode : α → List Char) {ms : List α}
    (seg : Segmentation (byteStream (ms.map encode))) (groups : List (List α)) : Prop :=
  groups.flatten = ms ∧ seg.reads = groups.map fun g => byteStream (g.map encode)

/-- Every group of an aligned segmentation holds a frame: a read returns at
least one byte. -/
theorem Segmentation.Aligned.ne_nil {α : Type} {encode : α → List Char} {ms : List α}
    {seg : Segmentation (byteStream (ms.map encode))} {groups : List (List α)}
    (ha : seg.Aligned encode groups) : ∀ g ∈ groups, g ≠ [] := by
  rintro g hg rfl
  have := seg.length_pos (byteStream (([] : List α).map encode))
    (ha.2 ▸ List.mem_map_of_mem _ hg)
  simp at this

/-- Each read of whole frames decodes to the first of them. -/
theorem FrameCodec.decode_groups {α : Type} (c : FrameCodec α) :
    ∀ groups : List (List α), (∀ g ∈ groups, g ≠ [] ∧ ∀ m ∈ g, c.good m) →
      groups.map (fun g => c.decode (byteStream (g.map c.encode))) = groups.filterMap List.head?
  | [], _ => rfl
  | [] :: _, h => absurd rfl (h [] (List.mem_cons_self _ _)).1
  | (m :: ms) :: groups, h => by
    have hm := (h _ (List.mem_cons_self _ _)).2 m (List.mem_cons_self _ _)
    simp only [List.map_cons, List.filterMap_cons, List.head?_cons, byteStream_cons]
    rw [c.decode_encode_append m hm, c.decode_groups groups fun g hg => h g (List.mem_cons_of_mem _ hg)]

theorem filterMap_head?_sublist {α : Type} :
    ∀ groups : List (List α), (groups.filterMap List.head?).Sublist groups.flatten
  | [] => List.Sublist.slnil
  | [] :: groups => by simpa using filterMap_head?_sublist groups
  | (m :: ms) :: groups => by
    simpa using ((filterMap_head?_sublist groups).trans (List.sublist_append_right ms _)).cons₂ m

/-- The first elements of nonempty groups are all of them exactly when each
group has one. -/
theorem filterMap_head?_eq_flatten_iff {α : Type} :
    ∀ {groups : List (List α)}, (∀ g ∈ groups, g ≠ []) →
      (groups.filterMap List.head? = groups.flatten ↔ ∀ g ∈ groups, g.length = 1)
  | [], _ => by simp
  | [] :: _, h => absurd rfl (h [] (List.mem_cons_self _ _))
  | (m :: ms) :: groups, h => by
    have ih := filterMap_head?_eq_flatten_iff fun g hg => h g (List.mem_cons_of_mem _ hg)
    have hle : (groups.filterMap List.head?).length ≤ groups.flatten.length :=
      (filterMap_head?_sublist groups).length_le
    simp only [List.filterMap_cons, List.head?_cons, List.flatten_cons, List.cons_append,
      List.cons.injEq, true_and, List.forall_mem_cons, List.length_cons]
    constructor
    · intro he
      have hms : ms = [] := List.eq_nil_of_length_eq_zero (by
        have := congrArg List.length he; simp only [List.length_append] at this; omega)
      subst hms
      exact ⟨rfl, ih.mp he⟩
    · rintro ⟨h1, h2⟩
      rw [List.eq_nil_of_length_eq_zero (by omega : ms.length = 0), List.nil_append]
      exact ih.mpr h2

/-- A reader of reads that end where frames end decodes the first frame of
each read, and decodes what was written exactly when every read holds one
frame. -/
theorem FrameCodec.decode_aligned {α : Type} (c : FrameCodec α) {ms : List α}
    (hms : ∀ m ∈ ms, c.good m) {seg : Segmentation (byteStream (ms.map c.encode))}
    {groups : List (List α)} (ha : seg.Aligned c.encode groups) :
    seg.reads.map c.decode = groups.filterMap List.head? ∧
      (seg.reads.map c.decode = ms ↔ ∀ g ∈ groups, g.length = 1) := by
  have hne := ha.ne_nil
  have hdec : seg.reads.map c.decode = groups.filterMap List.head? := by
    rw [ha.2, List.map_map]
    exact c.decode_groups groups fun g hg =>
      ⟨hne g hg, fun m hm => hms m (ha.1 ▸ List.mem_flatten_of_mem hg hm)⟩
  exact ⟨hdec, by rw [hdec, ← ha.1]; exact filterMap_head?_eq_flatten_iff hne⟩

/-! ## 5. What the two readers decode -/

/-- Two chat frames of one user. -/
def chatHi : ClientMessage := ⟨CStr.ofList _ "bob".toList, CStr.ofList _ "hi".toList⟩
def chatYo : ClientMessage := ⟨CStr.ofList _ "bob".toList, CStr.ofList _ "yo".toList⟩

/-- Both frames returned by one `read`. -/
def coalescedReads : Segmentation (byteStream ([chatHi, chatYo].map clientMessageToJson)) where
  reads := [byteStream ([chatHi, chatYo].map clientMessageToJson)]
  flatten_reads := List.flatten_singleton _
  length_pos := by decide
  length_le := by decide

/-- A user's line `>>failed<<`, broadcast to the clients. -/
def failedChat : Broadcast :=
  ⟨CStr.ofList _ "10.0.0.1".toList, CStr.ofList _ "bob".toList, CStr.ofList _ ">>failed<<".toList⟩

/-- Its frame returned by two `recv`s, split after the user ID. -/
def splitReads : Segmentation (byteStream ([failedChat].map broadcastToJson)) where
  reads := [(broadcastToJson failedChat).take 44, (broadcastToJson failedChat).drop 44]
  flatten_reads := by simp
  length_pos := by decide
  length_le := by decide

/-- One `read` of two frames decodes to the first only; a frame split over two
`recv`s decodes to two messages, the second of them the server's registration
failure, on which `output_handler` quits. -/
theorem reads_merge_and_split_frames :
    coalescedReads.reads.map (fun r => decodeFrame (some r)) = [chatHi] ∧
      splitReads.reads.map outputHandlerBroadcast =
        [⟨CStr.ofList _ "10.0.0.1".toList, CStr.ofList _ "bob".toList, CStr.empty⟩,
          ⟨CStr.empty, CStr.empty, CStr.ofList _ ">>failed<<".toList⟩] := by
  decide

/-- The segments of a read that starts at the message of one `Broadcast` frame
and runs into the next. -/
theorem messageTail_broadcastToJson_eq_joinQuoted (m : List Char) (b : Broadcast) (rest : List Char) :
    messageKey ++ m ++ ['"', '\x7d'] ++ broadcastToJson b ++ rest =
      '"' :: joinQuoted ["message".toList, [':'], m, ['\x7d', '\x7b'], "clientIP".toList, [':'],
        b.clientIP.chars, [','], "clientUserID".toList, [':'], b.clientUserID.chars, [','],
        "message".toList, [':'], b.message.chars, '\x7d' :: rest] := by
  simp [broadcastToJson, joinQuoted, clientIPKey_eq, clientUserIDKey_eq, messageKey_eq, keyOf]

/-- A `recv` that starts inside a frame, at its message, and runs into the
next frame decodes to fields of two frames: the message of the first, under
the IP and user ID of the second frame's sender. -/
theorem outputHandlerBroadcast_across_frames (b₁ b₂ : Broadcast) (h1 : QuoteFree b₁.message.chars)
    (h2 : QuoteFree b₂.clientIP.chars) (h3 : QuoteFree b₂.clientUserID.chars) (rest : List Char) :
    outputHandlerBroadcast (messageKey ++ b₁.message.chars ++ ['"', '\x7d'] ++ broadcastToJson b₂ ++ rest) =
      ⟨b₂.clientIP, b₂.clientUserID, b₁.message⟩ := by
  have n1 : NulFree b₁.message.chars := b₁.message.nul_free
  have n2 : NulFree b₂.clientIP.chars := b₂.clientIP.nul_free
  have n3 : NulFree b₂.clientUserID.chars := b₂.clientUserID.nul_free
  have hT : NulFree (messageKey ++ b₁.message.chars ++ ['"', '\x7d'] ++ broadcastToJson b₂) := by
    have := nulFree_broadcastToJson b₂
    simp_all [NulFree, messageKey]
  have hl : (messageKey ++ b₁.message.chars ++ ['"', '\x7d'] ++ broadcastToJson b₂).length ≤
      jsonLength := by
    have := b₁.message.length_le
    have := b₂.clientIP.length_le
    have := b₂.clientUserID.length_le
    have := b₂.message.length_le
    have hk : messageKey.length + clientIPKey.length + clientUserIDKey.length + messageKey.length = 50 :=
      rfl
    simp only [broadcastToJson, List.length_cons, List.length_append, List.length_nil]
    simp only [clientIPLength, clientUserIDLength, broadcastMessageLength, jsonLength] at *
    omega
  rw [outputHandlerBroadcast_eq, take_cstr_append hT hl, jsonToBroadcast, cstr_append_of_nulFree hT,
    messageTail_broadcastToJson_eq_joinQuoted, clientIPKey_eq, clientUserIDKey_eq, messageKey_eq]
  simp [jsonField_step, scanSet_joinQuoted, h1, h2, h3, n1, n2, n3, b₁.message.length_le,
    b₂.clientIP.length_le, b₂.clientUserID.length_le, CStr.ofList_self]

/-- On both sides of a connection, reads that end where frames end decode to
the first frame of each read, and to what was written exactly when every read
holds one frame. -/
theorem aligned_reads_decode_first_frame :
    (∀ (ms : List ClientMessage) (seg : Segmentation (byteStream (ms.map clientMessageToJson)))
        (groups : List (List ClientMessage)),
      (∀ m ∈ ms, QuoteFree m.clientUserID.chars ∧ QuoteFree m.message.chars) →
      seg.Aligned clientMessageToJson groups →
        seg.reads.map (fun r => decodeFrame (some r)) = groups.filterMap List.head? ∧
          (seg.reads.map (fun r => decodeFrame (some r)) = ms ↔ ∀ g ∈ groups, g.length = 1)) ∧
    (∀ (bs : List Broadcast) (seg : Segmentation (byteStream (bs.map broadcastToJson)))
        (groups : List (List Broadcast)),
      (∀ b ∈ bs, QuoteFree b.clientIP.chars ∧ QuoteFree b.clientUserID.chars ∧
        QuoteFree b.message.chars) →
      seg.Aligned broadcastToJson groups →
        seg.reads.map outputHandlerBroadcast = groups.filterMap List.head? ∧
          (seg.reads.map outputHandlerBroadcast = bs ↔ ∀ g ∈ groups, g.length = 1)) :=
  ⟨fun _ _ _ hms ha => clientMessageCodec.decode_aligned hms ha,
    fun _ _ _ hbs ha => broadcastCodec.decode_aligned hbs ha⟩

/-- The frame of `failedChat` returned by one `recv`. -/
def wholeFrameRead : Segmentation (byteStream ([failedChat].map broadcastToJson)) where
  reads := [broadcastToJson failedChat]
  flatten_reads := by simp
  length_pos := by decide
  length_le := by decide

theorem aligned_reads_decode_first_frame_coalesced :
    ((∀ m ∈ [chatHi, chatYo], QuoteFree m.clientUserID.chars ∧ QuoteFree m.message.chars) ∧
        coalescedReads.Aligned clientMessageToJson [[chatHi, chatYo]] ∧
        coalescedReads.reads.map (fun r => decodeFrame (some r)) =
          [[chatHi, chatYo]].filterMap List.head? ∧
        (coalescedReads.reads.map (fun r => decodeFrame (some r)) = [chatHi, chatYo] ↔
          ∀ g ∈ [[chatHi, chatYo]], g.length = 1)) ∧
      ((∀ b ∈ [failedChat], QuoteFree b.clientIP.chars ∧ QuoteFree b.clientUserID.chars ∧
          QuoteFree b.message.chars) ∧
        wholeFrameRead.Aligned broadcastToJson [[failedChat]] ∧
        wholeFrameRead.reads.map outputHandlerBroadcast = [[failedChat]].filterMap List.head? ∧
        (wholeFrameRead.reads.map outputHandlerBroadcast = [failedChat] ↔
          ∀ g ∈ [[failedChat]], g.length = 1)) :=
  have h₁ : ∀ m ∈ [chatHi, chatYo], QuoteFree m.clientUserID.chars ∧ QuoteFree m.message.chars := by
    decide
  have h₂ : coalescedReads.Aligned clientMessageToJson [[chatHi, chatYo]] := ⟨rfl, rfl⟩
  have h₃ : ∀ b ∈ [failedChat], QuoteFree b.clientIP.chars ∧ QuoteFree b.clientUserID.chars ∧
      QuoteFree b.message.chars := by
    decide
  have h₄ : wholeFrameRead.Aligned broadcastToJson [[failedChat]] := ⟨rfl, rfl⟩
  ⟨⟨h₁, h₂, aligned_reads_decode_first_frame.1 _ _ _ h₁ h₂⟩,
    ⟨h₃, h₄, aligned_reads_decode_first_frame.2 _ _ _ h₃ h₄⟩⟩

end ChatSystem
