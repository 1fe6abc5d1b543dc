/-
ChatSystem.RegistryTheorems — the client table refines a list of live
entries.

The abstract registry is the list `liveClients sd` of the first `numClients`
slots. A table is `Compact` when `numClients` lies in `[0, MAX_CLIENTS]` and
every slot past the live ones is cleared; on a compact table the four loops of
`serverIPC.c` stay inside the array and act on the live list as

* `findThreadIDInList`, `findUserInList`: `List.findIdx?` (`scanClients_eq`),
* `addToList`: append, when there is room (`addToList_of_lt`),
* `removeFromList`: `List.eraseIdx`, stable, with the slot after the new live
  entries cleared and the later slots untouched, on any table whose
  `numClients` is in range (`removeFromList_of_live`); an index of
  `ENTRY_NOT_FOUND_OR_NULL` changes nothing (`removeFromList_notFound`).

Each keeps the table compact. The shifting loop is handled once, in
`shiftDown_append`: shifting the `C` that follows a slot `x` moves `C` down by
one and leaves one stale copy behind, which the straggler clean-up clears.
-/
import ChatSystem.Registry

namespace ChatSystem

/-! ## 1. Array access -/

@[simp] theorem ClientTable.set_slots (t : ClientTable) (j : Nat) (e : ClientState) :
    (t.set j e).slots = t.slots.set j e := rfl

theorem ClientTable.ext_slots {t t' : ClientTable} (h : t.slots = t'.slots) : t = t' := by
  cases t; cases t'; cases h; rfl

theorem ClientTable.get?_ofNat (t : ClientTable) (j : Nat) : t.get? j = t.slots[j]? := by
  rw [ClientTable.get?, if_pos (by omega), Int.toNat_ofNat]

theorem ClientTable.set?_of_lt (t : ClientTable) {i : Int} (h0 : 0 ≤ i) (h : i.toNat < maxClients)
    (e : ClientState) : t.set? i e = some (t.set i.toNat e) := by
  rw [ClientTable.set?, if_pos ⟨h0, h⟩]

theorem ClientTable.set?_ofNat (t : ClientTable) {j : Nat} (h : j < maxClients)
    (e : ClientState) : t.set? j e = some (t.set j e) := by
  rw [t.set?_of_lt (by omega) (by simpa using h), Int.toNat_ofNat]

/-! ## 2. The search and read loops -/

/-- The index a search loop reports: the position it found, or
`ENTRY_NOT_FOUND_OR_NULL`. -/
def foundIndex : Option Nat → Int
  | some j => j
  | none => entryNotFoundOrNull

/-- A search loop that stays inside the array is `List.findIdx?` on the slots
it visits. -/
theorem scanClients_eq (p : ClientState → Bool) (t : ClientTable) :
    ∀ (k i : Nat), i + k ≤ maxClients →
      scanClients p t i k = some (foundIndex (((t.slots.drop i).take k).findIdx? p i))
  | 0, i, _ => by simp [scanClients, foundIndex]
  | k + 1, i, h => by
    have hi : i < t.slots.length := by rw [t.length_slots]; omega
    have hd : (t.slots.drop i).take (k + 1) = t.slots[i] :: (t.slots.drop (i + 1)).take k := by
      rw [List.drop_eq_getElem_cons hi, List.take_succ_cons]
    simp only [scanClients, ClientTable.get?_ofNat, List.getElem?_eq_getElem hi,
      Option.bind_eq_bind, Option.some_bind, hd, List.findIdx?_cons]
    split
    · simp [foundIndex]
    · exact scanClients_eq p t k (i + 1) (by omega)

/-- The read loop of the fan-out reads the slots it visits, in order. -/
theorem readClients_eq (t : ClientTable) :
    ∀ (k i : Nat), i + k ≤ maxClients → readClients t i k = some ((t.slots.drop i).take k)
  | 0, i, _ => by simp [readClients]
  | k + 1, i, h => by
    have hi : i < t.slots.length := by rw [t.length_slots]; omega
    rw [List.drop_eq_getElem_cons hi, List.take_succ_cons]
    simp [readClients, ClientTable.get?_ofNat, List.getElem?_eq_getElem hi,
      readClients_eq t k (i + 1) (by omega)]

/-! ## 3. Compact tables -/

/-- The live entries: the first `numClients` slots. -/
def liveClients (sd : SharedData) : List ClientState :=
  sd.connectedClients.slots.take sd.numClients.toNat

/-- `numClients` lies in `[0, MAX_CLIENTS]` and every slot past the live ones
is cleared. -/
structure Compact (sd : SharedData) : Prop where
  nonneg : 0 ≤ sd.numClients
  le_max : sd.numClients ≤ maxClients
  slots_eq : sd.connectedClients.slots =
    liveClients sd ++ List.replicate (maxClients - sd.numClients.toNat) ClientState.cleared

theorem length_liveClients {sd : SharedData} (hn : sd.numClients ≤ maxClients) :
    (liveClients sd).length = sd.numClients.toNat := by
  have := sd.connectedClients.length_slots
  simp only [liveClients, List.length_take]
  omega

theorem Compact.length_live {sd : SharedData} (hc : Compact sd) :
    (liveClients sd).length = sd.numClients.toNat :=
  length_liveClients hc.le_max

/-- A table laid out as a list `L` followed by cleared slots, with
`numClients` the length of `L`, is compact and has `L` as its live entries. -/
theorem compact_of_slots {sd : SharedData} {L : List ClientState}
    (hn : sd.numClients = L.length)
    (hs : sd.connectedClients.slots = L ++ List.replicate (maxClients - L.length) ClientState.cleared) :
    Compact sd ∧ liveClients sd = L := by
  have hlen := sd.connectedClients.length_slots
  rw [hs, List.length_append, List.length_replicate] at hlen
  have hlive : liveClients sd = L := by
    simp [liveClients, hn, hs, List.take_append_of_le_length]
  exact ⟨⟨by omega, by omega, by rw [hlive, hn, hs]; simp⟩, hlive⟩

theorem compact_initSharedMemory (serverSocket : Nat) :
    Compact (initSharedMemory serverSocket) ∧ liveClients (initSharedMemory serverSocket) = [] :=
  compact_of_slots rfl rfl

/-- On a compact table `findThreadIDInList` finds the first live entry with the
thread ID. -/
theorem findThreadIDInList_eq {sd : SharedData} (hc : Compact sd) (threadID : Nat) :
    findThreadIDInList threadID sd =
      some (foundIndex ((liveClients sd).findIdx? (threadMatches threadID))) := by
  have := hc.le_max
  rw [findThreadIDInList, scanClients_eq _ _ _ _ (by omega)]
  rfl

/-- On a compact table `findUserInList` finds the first live entry that agrees
with the IP and user ID under `strncmp`. -/
theorem findUserInList_eq {sd : SharedData} (hc : Compact sd) (clientIP clientUserID : List Char) :
    findUserInList clientIP clientUserID sd =
      some (foundIndex ((liveClients sd).findIdx? (userMatches clientIP clientUserID))) := by
  have := hc.le_max
  rw [findUserInList, scanClients_eq _ _ _ _ (by omega)]
  rfl

/-- On a compact table the fan-out reads exactly the live entries. -/
theorem readClients_live {sd : SharedData} (hc : Compact sd) :
    readClients sd.connectedClients 0 sd.numClients.toNat = some (liveClients sd) := by
  have := hc.le_max
  rw [readClients_eq _ _ _ (by omega)]
  rfl

/-! ## 4. Adding -/

/-- The entry `addToList` writes. -/
def newClient (threadID : Nat) (clientIP clientUserID : List Char) (clientSocket : Nat) :
    ClientState :=
  ⟨threadID, CStr.ofList _ clientIP, CStr.ofList _ clientUserID, clientSocket⟩

/-- `sd` with `e` written into slot `numClients`, and one more client. -/
def SharedData.addClient (sd : SharedData) (e : ClientState) : SharedData :=
  { sd with
    numClients := sd.numClients + 1
    connectedClients := sd.connectedClients.set sd.numClients.toNat e }

/-- With room left, `addToList` writes the new entry into slot `numClients`. -/
theorem addToList_of_lt {sd : SharedData} (hc : Compact sd) (hlt : sd.numClients < maxClients)
    (threadID : Nat) (clientIP clientUserID : List Char) (clientSocket : Nat) :
    addToList threadID clientIP clientUserID clientSocket sd =
      some (success, sd.addClient (newClient threadID clientIP clientUserID clientSocket)) := by
  have h0 := hc.nonneg
  rw [addToList, if_pos hlt, ClientTable.set?_of_lt _ h0 (by omega)]
  rfl

/-- Without room, `addToList` answers `TOO_MANY_CLIENTS` and writes nothing. -/
theorem addToList_of_full {sd : SharedData} (hge : ¬ sd.numClients < maxClients)
    (threadID : Nat) (clientIP clientUserID : List Char) (clientSocket : Nat) :
    addToList threadID clientIP clientUserID clientSocket sd = some (tooManyClients, sd) := by
  rw [addToList, if_neg hge]

/-- Writing the next free slot of a compact table appends to the live list. -/
theorem compact_addClient {sd : SharedData} (hc : Compact sd) (hlt : sd.numClients < maxClients)
    (e : ClientState) : Compact (sd.addClient e) ∧ liveClients (sd.addClient e) = liveClients sd ++ [e] := by
  have hlen := hc.length_live
  have h0 := hc.nonneg
  apply compact_of_slots
  · simp only [SharedData.addClient, List.length_append, List.length_singleton, hlen]; omega
  · have hk : maxClients - sd.numClients.toNat = (maxClients - (sd.numClients.toNat + 1)) + 1 := by
      omega
    simp only [SharedData.addClient, ClientTable.set_slots]
    rw [hc.slots_eq, List.set_append_right _ _ (by omega), hlen, Nat.sub_self, hk,
      List.replicate_succ, List.set_cons_zero, List.length_append, List.length_singleton, hlen,
      List.append_assoc, List.singleton_append]

/-! ## 5. Removing -/

/-- The shifting loop over the `C` that follows slot `x`: `C` moves down one
slot, and a stale copy `z` of the last entry it moved stays behind. -/
theorem shiftDown_append (C : List ClientState) :
    ∀ (t : ClientTable) (A D : List ClientState) (x : ClientState),
      t.slots = A ++ x :: (C ++ D) →
        ∃ t' z, shiftDown t C.length A.length = some t' ∧ t'.slots = A ++ C ++ z :: D := by
  induction C with
  | nil => intro t A D x h; exact ⟨t, x, rfl, by simpa using h⟩
  | cons c C ih =>
    intro t A D x h
    have hlen := t.length_slots
    rw [h] at hlen
    simp only [List.length_append, List.length_cons] at hlen
    have hget : t.get? ((A.length : Int) + 1) = some c := by
      rw [show (A.length : Int) + 1 = ((A.length + 1 : Nat) : Int) by push_cast; rfl,
        ClientTable.get?_ofNat, h, List.getElem?_append_right (by omega)]
      simp
    have hset : (t.set A.length c).slots = (A ++ [c]) ++ c :: (C ++ D) := by
      rw [ClientTable.set_slots, h, List.set_append_right _ _ (le_refl _)]
      simp
    obtain ⟨t', z, hs, ht'⟩ := ih (t.set A.length c) (A ++ [c]) D c hset
    refine ⟨t', z, ?_, by simpa using ht'⟩
    rw [List.length_append, List.length_singleton] at hs
    simp only [shiftDown, List.length_cons, hget, ClientTable.set?_ofNat _ (by omega : A.length < maxClients),
      Option.bind_eq_bind, Option.some_bind]
    rw [← hs]
    push_cast
    rfl

/-- `removeFromList` at an index `j` below `numClients`, on any table whose
`numClients` lies in `[0, MAX_CLIENTS]`: the first `numClients - 1` slots are
the old live entries without entry `j`, in their order, the slot after them is
cleared, and the slots past the old live ones are untouched. The result is not
`none`, so no access leaves the array. -/
theorem removeFromList_of_live {sd : SharedData} (h0 : 0 ≤ sd.numClients)
    (hn : sd.numClients ≤ maxClients) {j : Nat} (hj : (j : Int) < sd.numClients) :
    ∃ t, removeFromList j sd = some ((j : Int), { sd with numClients := sd.numClients - 1, connectedClients := t }) ∧
      t.slots = (liveClients sd).eraseIdx j ++
        ClientState.cleared :: sd.connectedClients.slots.drop sd.numClients.toNat := by
  have hlen := length_liveClients hn
  set L := liveClients sd
  set R := sd.connectedClients.slots.drop sd.numClients.toNat
  have hjL : j < L.length := by omega
  have hsplit : sd.connectedClients.slots = L.take j ++ L[j] :: (L.drop (j + 1) ++ R) := by
    rw [← List.cons_append, ← List.drop_eq_getElem_cons hjL, ← List.append_assoc,
      List.take_append_drop]
    exact (List.take_append_drop _ _).symm
  obtain ⟨t, z, hs, ht⟩ := shiftDown_append (L.drop (j + 1)) sd.connectedClients (L.take j) _ _ hsplit
  have htake : (L.take j).length = j := by simp; omega
  have hdrop : (L.drop (j + 1)).length = sd.numClients.toNat - 1 - j := by simp; omega
  have hclear : (t.set (sd.numClients.toNat - 1) ClientState.cleared).slots =
      L.eraseIdx j ++ ClientState.cleared :: R := by
    rw [ClientTable.set_slots, ht, List.set_append_right _ _ (by simp; omega),
      List.eraseIdx_eq_take_drop_succ]
    simp only [List.length_append, htake, hdrop]
    rw [show sd.numClients.toNat - 1 - (j + (sd.numClients.toNat - 1 - j)) = 0 by omega]
    simp
  refine ⟨_, ?_, hclear⟩
  have hne : (j : Int) ≠ entryNotFoundOrNull := by rw [entryNotFoundOrNull]; omega
  have hnum : sd.numClients - 1 = ((sd.numClients.toNat - 1 : Nat) : Int) := by omega
  have hk : (sd.numClients - 1 - j).toNat = (L.drop (j + 1)).length := by omega
  rw [htake, ← hk] at hs
  rw [removeFromList, if_pos hne]
  simp only [hs, Option.bind_eq_bind, Option.some_bind]
  rw [hnum, if_pos (by omega), ClientTable.set?_ofNat _ (by omega)]
  rfl

/-- `removeFromList` at a live index of a compact table deletes that entry and
keeps the order of the others; the slot that falls out of use is cleared. -/
theorem removeFromList_of_lt {sd : SharedData} (hc : Compact sd) {j : Nat}
    (hj : (j : Int) < sd.numClients) :
    ∃ t, removeFromList j sd = some ((j : Int), { sd with numClients := sd.numClients - 1, connectedClients := t }) ∧
      t.slots = (liveClients sd).eraseIdx j ++
        List.replicate (maxClients - (sd.numClients.toNat - 1)) ClientState.cleared := by
  obtain ⟨t, hr, ht⟩ := removeFromList_of_live hc.nonneg hc.le_max hj
  have hle := hc.le_max
  have hk : maxClients - (sd.numClients.toNat - 1) = (maxClients - sd.numClients.toNat) + 1 := by
    omega
  refine ⟨t, hr, ?_⟩
  rw [ht, hk, List.replicate_succ, hc.slots_eq, List.drop_left' hc.length_live]

/-- `removeFromList(ENTRY_NOT_FOUND_OR_NULL)` changes nothing. -/
theorem removeFromList_notFound (sd : SharedData) :
    removeFromList entryNotFoundOrNull sd = some (entryNotFoundOrNull, sd) := by
  simp [removeFromList]

/-- `removeFromList` on a table whose `numClients` lies in `[0, MAX_CLIENTS]`:
at every index below `numClients` it deletes that entry stably, clears the
slot that falls out of use and stays inside the array; at
`ENTRY_NOT_FOUND_OR_NULL` it changes nothing. -/
theorem removeFromList_deletes_stably (sd : SharedData) (h0 : 0 ≤ sd.numClients)
    (hn : sd.numClients ≤ maxClients) :
    (∀ i : Nat, (i : Int) < sd.numClients →
      ∃ t, removeFromList i sd =
          some ((i : Int), { sd with numClients := sd.numClients - 1, connectedClients := t }) ∧
        t.slots = (liveClients sd).eraseIdx i ++
          ClientState.cleared :: sd.connectedClients.slots.drop sd.numClients.toNat) ∧
    removeFromList entryNotFoundOrNull sd = some (entryNotFoundOrNull, sd) :=
  ⟨fun _ hi => removeFromList_of_live h0 hn hi, removeFromList_notFound sd⟩

/-- A registry with one client, `ann`. -/
def annRegistry : SharedData :=
  (initSharedMemory 3).addClient (newClient 7 "10.0.0.1".toList "ann".toList 4)

/-- A table of ten clients from `10.0.0.1`, with user IDs `a` to `j`. -/
def fullRegistry : SharedData :=
  ⟨3, 10, true, ⟨(List.range 10).map fun k => newClient k "10.0.0.1".toList [Char.ofNat (97 + k)] (k + 4),
    (List.length_map _ _).trans (List.length_range 10)⟩⟩

/-- Removing `d` at its index 3 of the full table. -/
theorem removeFromList_deletes_stably_ann :
    0 ≤ fullRegistry.numClients ∧ fullRegistry.numClients ≤ maxClients ∧
      ((3 : Nat) : Int) < fullRegistry.numClients ∧
      ∃ t, removeFromList (3 : Nat) fullRegistry =
          some (((3 : Nat) : Int),
            { fullRegistry with numClients := fullRegistry.numClients - 1, connectedClients := t }) ∧
        t.slots = (liveClients fullRegistry).eraseIdx 3 ++
          ClientState.cleared :: fullRegistry.connectedClients.slots.drop fullRegistry.numClients.toNat :=
  ⟨by decide, by decide, by decide,
    (removeFromList_deletes_stably _ (by decide) (by decide)).1 3 (by decide)⟩

/-- The entries after `d` move down one slot, in order, and the last slot is cleared. -/
example : (removeFromList 3 fullRegistry).map (fun r =>
    (r.2.numClients, r.2.connectedClients.slots.map (·.clientUserID.chars))) =
    some (9, ["a", "b", "c", "e", "f", "g", "h", "i", "j", ""].map String.toList) := by decide

/-- After removing live index `j`, the table is compact and its live entries
are the old ones without entry `j`. -/
theorem compact_eraseIdx {sd : SharedData} (hc : Compact sd) {j : Nat}
    (hj : (j : Int) < sd.numClients) {t : ClientTable}
    (ht : t.slots = (liveClients sd).eraseIdx j ++
      List.replicate (maxClients - (sd.numClients.toNat - 1)) ClientState.cleared) :
    Compact { sd with numClients := sd.numClients - 1, connectedClients := t } ∧
      liveClients { sd with numClients := sd.numClients - 1, connectedClients := t } =
        (liveClients sd).eraseIdx j := by
  have hlen := hc.length_live
  have hl : ((liveClients sd).eraseIdx j).length = sd.numClients.toNat - 1 := by
    rw [List.length_eraseIdx_of_lt (by omega), hlen]
  apply compact_of_slots
  · simp only [hl]; omega
  · rw [hl]; exact ht

end ChatSystem
