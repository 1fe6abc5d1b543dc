/-
ChatSystem.MessagingTheorems — the decoders invert the encoders.

Every key of the two JSON shapes starts and ends with a double quote, and the
encoders put no double quote inside a value, so an encoded text is a run of
quote-free SEGMENTS joined by double quotes:

  `{` `clientIP` `:` ip `,` `clientUserID` `:` uid `,` `message` `:` msg `}`

`strstr` can only find a key where a segment starts, and the key
`"k":"` matches at the segment `s` exactly when `s = k` and the next segment
is `:` (`keyOf_prefix_iff`). So the search walks the segments one at a time
(`strstr_keyOf_step`) and stops at the key, never inside a value: a value
holds no quote, and the segment after a value is `,` or `}`, never `:`.
The walk never looks past the closing brace, so a text that starts with an
encoded message decodes to it whatever follows (`jsonToBroadcast_broadcastToJson_append`,
`jsonToClientMessage_clientMessageToJson_append`).

Values with a double quote are outside these theorems: the encoders do not
escape, and the `%n[^"]` conversion stops at the first quote.
-/
import ChatSystem.Messaging

namespace ChatSystem

/-! ## 1. Quote-separated segments -/

/-- Segments joined by double quotes. -/
def joinQuoted : List (List Char) → List Char
  | [] => []
  | [s] => s
  | s :: t :: rest => s ++ '"' :: joinQuoted (t :: rest)

/-- The search text of a key: `"k":"`. -/
def keyOf (k : List Char) : List Char := '"' :: k ++ ['"', ':', '"']

/-- A text holds no double quote. -/
def QuoteFree (s : List Char) : Prop := '"' ∉ s

instance : DecidablePred QuoteFree := fun s => inferInstanceAs (Decidable ('"' ∉ s))

@[simp] theorem quoteFree_nil : QuoteFree [] := List.not_mem_nil _

@[simp] theorem quoteFree_cons {c : Char} {s : List Char} :
    QuoteFree (c :: s) ↔ c ≠ '"' ∧ QuoteFree s := by
  simp [QuoteFree, eq_comm]

theorem clientIPKey_eq : clientIPKey = keyOf "clientIP".toList := rfl
theorem clientUserIDKey_eq : clientUserIDKey = keyOf "clientUserID".toList := rfl
theorem messageKey_eq : messageKey = keyOf "message".toList := rfl

/-- A search for a quoted needle walks past a quote-free stretch. -/
theorem strstr_quote_skip {k : List Char} :
    ∀ {s : List Char} (rest : List Char), QuoteFree s →
      strstr ('"' :: k) (s ++ rest) = strstr ('"' :: k) rest
  | [], _, _ => rfl
  | c :: s, rest, hs => by
    have hc : c ≠ '"' := fun e => hs (e ▸ List.mem_cons_self _ _)
    have hp : ('"' :: k).isPrefixOf (c :: (s ++ rest)) = false := by
      simp [List.isPrefixOf, Ne.symm hc]
    rw [List.cons_append, strstr_cons, hp, if_neg Bool.false_ne_true]
    exact strstr_quote_skip rest fun h => hs (List.mem_cons_of_mem _ h)

/-- Up to the first quote of each side, a quote-free `k` followed by a quote
matches a quote-free `s` followed by a quote only when `k = s`. -/
theorem prefix_quoted_iff {r rest : List Char} :
    ∀ {k s : List Char}, QuoteFree k → QuoteFree s →
      ((k ++ '"' :: r) <+: (s ++ '"' :: rest) ↔ k = s ∧ r <+: rest)
  | [], [], _, _ => by simp [List.cons_prefix_cons]
  | [], c :: s, _, hs => by
    have hc : c ≠ '"' := fun e => hs (e ▸ List.mem_cons_self _ _)
    simp [List.cons_prefix_cons, Ne.symm hc]
  | a :: k, [], hk, _ => by
    have ha : a ≠ '"' := fun e => hk (e ▸ List.mem_cons_self _ _)
    simp [List.cons_prefix_cons, ha]
  | a :: k, c :: s, hk, hs => by
    have ih : (k ++ '"' :: r) <+: (s ++ '"' :: rest) ↔ k = s ∧ r <+: rest :=
      prefix_quoted_iff (fun h => hk (List.mem_cons_of_mem a h)) (fun h => hs (List.mem_cons_of_mem c h))
    simp only [List.cons_append, List.cons_prefix_cons, ih, List.cons.injEq, and_assoc]

/-- `"k":"` is a prefix of a quote followed by the quote-free segment `s` and
the text `rest` exactly when `s = k` and `rest` starts with `:"`. -/
theorem keyOf_prefix_iff {k s : List Char} (rest : List Char) (hk : QuoteFree k)
    (hs : QuoteFree s) :
    keyOf k <+: '"' :: (s ++ '"' :: rest) ↔ k = s ∧ [':', '"'] <+: rest := by
  rw [keyOf, List.cons_append, List.cons_prefix_cons]
  simpa using prefix_quoted_iff hk hs

/-- One step of the search through quote-separated segments. -/
theorem strstr_keyOf_step {k s t : List Char} {rest : List (List Char)}
    (hk : QuoteFree k) (hs : QuoteFree s) :
    strstr (keyOf k) ('"' :: joinQuoted (s :: t :: rest)) =
      if k = s ∧ [':', '"'] <+: joinQuoted (t :: rest)
      then some ('"' :: joinQuoted (s :: t :: rest))
      else strstr (keyOf k) ('"' :: joinQuoted (t :: rest)) := by
  have hkey : keyOf k = '"' :: (k ++ ['"', ':', '"']) := rfl
  have hj : joinQuoted (s :: t :: rest) = s ++ '"' :: joinQuoted (t :: rest) := rfl
  conv_lhs => rw [strstr_cons]
  by_cases h : k = s ∧ [':', '"'] <+: joinQuoted (t :: rest)
  · have hp := List.isPrefixOf_iff_prefix.mpr ((keyOf_prefix_iff _ hk hs).mpr h)
    rw [← hj] at hp
    rw [if_pos hp, if_pos h]
  · have hp : (keyOf k).isPrefixOf ('"' :: joinQuoted (s :: t :: rest)) = false := by
      rw [hj]
      exact Bool.eq_false_iff.mpr fun e =>
        h ((keyOf_prefix_iff _ hk hs).mp (List.isPrefixOf_iff_prefix.mp e))
    rw [hp, if_neg Bool.false_ne_true, if_neg h, hj, hkey, strstr_quote_skip _ hs]

/-- The search starts at the first quote. -/
theorem strstr_keyOf_start {k s : List Char} {rest : List (List Char)} (hs : QuoteFree s)
    (hr : rest ≠ []) :
    strstr (keyOf k) (joinQuoted (s :: rest)) = strstr (keyOf k) ('"' :: joinQuoted rest) := by
  obtain ⟨t, rest, rfl⟩ := List.exists_cons_of_ne_nil hr
  exact @strstr_quote_skip (k ++ ['"', ':', '"']) s _ hs

/-- The text after a segment starts with `:"` exactly when the segment is `:`. -/
theorem colon_prefix_joinQuoted {t u : List Char} {rest : List (List Char)} (ht : QuoteFree t) :
    [':', '"'] <+: joinQuoted (t :: u :: rest) ↔ t = [':'] := by
  rcases t with _ | ⟨c, _ | ⟨d, t⟩⟩
  · simp [joinQuoted, List.cons_prefix_cons]
  · simp [joinQuoted, List.cons_prefix_cons, eq_comm]
  · have hd : d ≠ '"' := fun e => ht (e ▸ by simp)
    simp [joinQuoted, List.cons_prefix_cons, Ne.symm hd]

/-- The search for `"k":"` through quote-separated segments, one segment at a
time: it stops at the segment `k` followed by the segment `:`. -/
theorem jsonField_step {k s t u : List Char} {rest : List (List Char)}
    (hk : QuoteFree k) (hs : QuoteFree s) (ht : QuoteFree t) :
    jsonField (keyOf k) n ('"' :: joinQuoted (s :: t :: u :: rest)) =
      if k = s ∧ t = [':'] then scanSet n (joinQuoted (u :: rest))
      else jsonField (keyOf k) n ('"' :: joinQuoted (t :: u :: rest)) := by
  rw [jsonField, strstr_keyOf_step hk hs]
  by_cases h : k = s ∧ t = [':']
  · obtain ⟨rfl, rfl⟩ := h
    simp [joinQuoted, keyOf, List.drop_append_eq_append_drop, List.drop_eq_nil_of_le]
  · have h' : ¬ (k = s ∧ [':', '"'] <+: joinQuoted (t :: u :: rest)) := by
      rwa [colon_prefix_joinQuoted ht]
    rw [if_neg h', if_neg h, jsonField]

/-- The search starts at the first quote. -/
theorem jsonField_start {k s : List Char} {rest : List (List Char)} (hs : QuoteFree s)
    (hr : rest ≠ []) :
    jsonField (keyOf k) n (joinQuoted (s :: rest)) =
      jsonField (keyOf k) n ('"' :: joinQuoted rest) := by
  rw [jsonField, jsonField, strstr_keyOf_start hs hr]

/-- A value that fits reads back whole. -/
theorem scanSet_joinQuoted {v t : List Char} {rest : List (List Char)} (hv : QuoteFree v)
    (hn : NulFree v) (hl : v.length ≤ n) :
    scanSet n (joinQuoted (v :: t :: rest)) = CStr.ofList n v :=
  CStr.ext_chars ((scanSet_field _ hv hn hl).trans (CStr.ofList_of_fits hn hl).symm)

/-! ## 2. The key segments -/

theorem quoteFree_clientIP : QuoteFree "clientIP".toList := by decide
theorem quoteFree_clientUserID : QuoteFree "clientUserID".toList := by decide
theorem quoteFree_message : QuoteFree "message".toList := by decide

/-- The segments of an encoded `Broadcast` and of whatever follows it. -/
theorem broadcastToJson_append_eq_joinQuoted (b : Broadcast) (rest : List Char) :
    broadcastToJson b ++ rest = joinQuoted [['\x7b'], "clientIP".toList, [':'], b.clientIP.chars,
      [','], "clientUserID".toList, [':'], b.clientUserID.chars, [','], "message".toList, [':'],
      b.message.chars, '\x7d' :: rest] := by
  simp [broadcastToJson, joinQuoted, clientIPKey_eq, clientUserIDKey_eq, messageKey_eq, keyOf]

theorem nulFree_broadcastToJson (b : Broadcast) : NulFree (broadcastToJson b) := by
  have := b.clientIP.nul_free; have := b.clientUserID.nul_free; have := b.message.nul_free
  simp_all [NulFree, broadcastToJson, clientIPKey, clientUserIDKey, messageKey]

/-- A text that starts with an encoded `Broadcast` whose fields hold no double
quote decodes to it, field by field, whatever follows: every key is found in
the first frame, and every value ends at its closing quote. -/
theorem jsonToBroadcast_broadcastToJson_append (b : Broadcast) (h1 : QuoteFree b.clientIP.chars)
    (h2 : QuoteFree b.clientUserID.chars) (h3 : QuoteFree b.message.chars) (rest : List Char) :
    jsonToBroadcast (broadcastToJson b ++ rest) = b := by
  have n1 : NulFree b.clientIP.chars := b.clientIP.nul_free
  have n2 : NulFree b.clientUserID.chars := b.clientUserID.nul_free
  have n3 : NulFree b.message.chars := b.message.nul_free
  rw [jsonToBroadcast, cstr_append_of_nulFree (nulFree_broadcastToJson b),
    broadcastToJson_append_eq_joinQuoted, clientIPKey_eq, clientUserIDKey_eq, messageKey_eq]
  simp only [jsonField_start (by decide : QuoteFree ['\x7b']) (List.cons_ne_nil _ _)]
  simp [jsonField_step, scanSet_joinQuoted, h1, h2, h3, n1, n2, n3, b.clientIP.length_le,
    b.clientUserID.length_le, b.message.length_le, CStr.ofList_self]

/-- Decoding an encoded `Broadcast` whose fields hold no double quote gives
it back. -/
theorem jsonToBroadcast_broadcastToJson (b : Broadcast) (h1 : QuoteFree b.clientIP.chars)
    (h2 : QuoteFree b.clientUserID.chars) (h3 : QuoteFree b.message.chars) :
    jsonToBroadcast (broadcastToJson b) = b := by
  simpa using jsonToBroadcast_broadcastToJson_append b h1 h2 h3 []

/-- The segments of an encoded `ClientMessage` and of whatever follows it. -/
theorem clientMessageToJson_append_eq_joinQuoted (m : ClientMessage) (rest : List Char) :
    clientMessageToJson m ++ rest = joinQuoted [['\x7b'], "clientUserID".toList, [':'],
      m.clientUserID.chars, [','], "message".toList, [':'], m.message.chars, '\x7d' :: rest] := by
  simp [clientMessageToJson, joinQuoted, clientUserIDKey_eq, messageKey_eq, keyOf]

theorem nulFree_clientMessageToJson (m : ClientMessage) : NulFree (clientMessageToJson m) := by
  have := m.clientUserID.nul_free; have := m.message.nul_free
  simp_all [NulFree, clientMessageToJson, clientUserIDKey, messageKey]

/-- A text that starts with an encoded `ClientMessage` whose fields hold no
double quote decodes to it, whatever follows. -/
theorem jsonToClientMessage_clientMessageToJson_append (m : ClientMessage)
    (h1 : QuoteFree m.clientUserID.chars) (h2 : QuoteFree m.message.chars) (rest : List Char) :
    jsonToClientMessage (clientMessageToJson m ++ rest) = m := by
  have n1 : NulFree m.clientUserID.chars := m.clientUserID.nul_free
  have n2 : NulFree m.message.chars := m.message.nul_free
  rw [jsonToClientMessage, cstr_append_of_nulFree (nulFree_clientMessageToJson m),
    clientMessageToJson_append_eq_joinQuoted, clientUserIDKey_eq, messageKey_eq]
  simp only [jsonField_start (by decide : QuoteFree ['\x7b']) (List.cons_ne_nil _ _)]
  simp [jsonField_step, scanSet_joinQuoted, h1, h2, n1, n2, m.clientUserID.length_le,
    m.message.length_le, CStr.ofList_self]

/-- Decoding an encoded `ClientMessage` whose fields hold no double quote
gives it back. -/
theorem jsonToClientMessage_clientMessageToJson (m : ClientMessage)
    (h1 : QuoteFree m.clientUserID.chars) (h2 : QuoteFree m.message.chars) :
    jsonToClientMessage (clientMessageToJson m) = m := by
  simpa using jsonToClientMessage_clientMessageToJson_append m h1 h2 []

/-! ## 3. Texts that start like an encoded message -/

/-- A scan over a quote-free field reads the field, cut at `n`. -/
theorem scanSet_quoted {v : List Char} (hv : QuoteFree v) (rest : List Char) :
    scanSet n (v ++ '"' :: rest) = CStr.ofList n v := by
  rw [scanSet, takeWhile_quote_append hv]
  simp

/-- A scan over a quote-free segment reads the segment, cut at `n`. -/
theorem scanSet_joinQuoted_cons {v t : List Char} {rest : List (List Char)} (hv : QuoteFree v) :
    scanSet n (joinQuoted (v :: t :: rest)) = CStr.ofList n v :=
  scanSet_quoted hv _

@[simp] theorem joinQuoted_singleton (s : List Char) : joinQuoted [s] = s := rfl

/-- A text that starts like an encoded `ClientMessage`, with a quote-free user
ID, decodes to that user ID and to the message scanned from the rest, whatever
the rest holds. -/
theorem jsonToClientMessage_leading_userID {u : List Char} (hu : QuoteFree u) (hn : NulFree u)
    (T : List Char) :
    jsonToClientMessage ('\x7b' :: clientUserIDKey ++ u ++ '"' :: ',' :: messageKey ++ T) =
      ⟨CStr.ofList _ u, scanSet clientMessageLength (cstr T)⟩ := by
  have hP : NulFree ('\x7b' :: clientUserIDKey ++ u ++ '"' :: ',' :: messageKey) := by
    simp_all [NulFree, clientUserIDKey, messageKey]
  have heq : '\x7b' :: clientUserIDKey ++ u ++ '"' :: ',' :: messageKey ++ cstr T =
      joinQuoted [['\x7b'], "clientUserID".toList, [':'], u, [','], "message".toList, [':'],
        cstr T] := by
    simp [joinQuoted, clientUserIDKey_eq, messageKey_eq, keyOf]
  have hc : cstr ('\x7b' :: clientUserIDKey ++ u ++ '"' :: ',' :: messageKey ++ T) =
      '\x7b' :: clientUserIDKey ++ u ++ '"' :: ',' :: messageKey ++ cstr T := by
    simpa using cstr_append_of_nulFree hP T
  rw [jsonToClientMessage, hc, heq, clientUserIDKey_eq, messageKey_eq]
  simp only [jsonField_start (by decide : QuoteFree ['\x7b']) (List.cons_ne_nil _ _)]
  simp [jsonField_step, hu, scanSet_joinQuoted_cons]

end ChatSystem
