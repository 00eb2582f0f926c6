import OpenNetDeck.Server.Dock

/-!
# A client that follows the hotplug pushes

A client keeps a table of its own: a push whose status byte is 0x00 empties the
slot that it names, one whose status byte is 0x02 stores the bytes from there on.
The table can then be asked what the dock is asked with a 0x1c query.

## Main definitions

- `pushPayload`, `queryPayload` — the payloads of a push and of an answer to 0x1c
- `applyPush`, `clientTable` — the client's table after one push, after many
- `answer` — the client's own answer to a query, bytes 4..128

## Main results

- `answer_of_last`, `query_of_last` — both answers are the last event of a slot
- `hotplug_log_determines_slots` — the pushes determine every answer of the dock
-/

namespace OpenNetDeck

open Bytes

/-- The payload that announces an event of the dock. -/
def pushPayload (child : ChildDeviceInfo) : List UInt8 :=
  (child.buildPayload true child.slotIndex).val

/-- The payload that answers a 0x1c query for a slot. -/
def queryPayload (dock : DockState) (requestedSlot : UInt8) : List UInt8 :=
  ((dock.childDeviceAt requestedSlot).buildPayload false requestedSlot).val

/-- The client's table, by slot number. -/
abbrev ClientTable := UInt8 → Option (List UInt8)

/-- Byte 5 names the slot, and byte 4 tells whether a child is in it. -/
def applyPush (table : ClientTable) (payload : List UInt8) : ClientTable :=
  if payload.getD 4 0 = 0x00 then Function.update table (payload.getD 5 0) none
  else if payload.getD 4 0 = 0x02 then
    Function.update table (payload.getD 5 0) (some (payload.drop 5))
  else table

/-- The table after a list of payloads, from an empty one. -/
def clientTable (payloads : List (List UInt8)) : ClientTable :=
  payloads.foldl applyPush fun _ => none

/-- Bytes 4..128 of what the client holds for a slot. -/
def answer (table : ClientTable) (slot : UInt8) : List UInt8 :=
  match table slot with
  | none => 0x00 :: slot :: List.replicate 122 0
  | some bytes => 0x02 :: bytes

/-- What the client stores of an event. -/
def stored (child : ChildDeviceInfo) : Option (List UInt8) :=
  child.occupant.map fun child => child.slotIndex :: child.details

theorem pushPayload_split (child : ChildDeviceInfo) :
    (pushPayload child).getD 4 0 :: (pushPayload child).getD 5 0 :: (pushPayload child).drop 6 =
      child.body child.slotIndex := by
  have hlength : (pushPayload child).length = 128 := (child.buildPayload true _).property
  rw [← child.drop_buildPayload true child.slotIndex]
  show _ = (pushPayload child).drop 4
  rw [drop_eq_getD_cons (i := 4) 0 (by omega), drop_eq_getD_cons (i := 5) 0 (by omega)]

theorem applyPush_pushPayload (table : ClientTable) (child : ChildDeviceInfo) :
    applyPush table (pushPayload child) =
      Function.update table child.slotIndex (stored child) := by
  have hlength : (pushPayload child).length = 128 := (child.buildPayload true _).property
  have hsplit := pushPayload_split child
  have htail : (pushPayload child).drop 5 =
      (pushPayload child).getD 5 0 :: (pushPayload child).drop 6 :=
    drop_eq_getD_cons (i := 5) 0 (by omega)
  cases hconn : child.isConnected with
  | true =>
    rw [ChildDeviceInfo.body_of_connected hconn, List.cons.injEq, List.cons.injEq] at hsplit
    obtain ⟨hstatus, hslot, hrest⟩ := hsplit
    rw [applyPush, hstatus, if_neg (by decide), if_pos rfl, htail, hslot, hrest, stored,
      ChildDeviceInfo.occupant, if_pos hconn]
    rfl
  | false =>
    rw [ChildDeviceInfo.body_of_disconnected hconn, List.cons.injEq, List.cons.injEq] at hsplit
    obtain ⟨hstatus, hslot, -⟩ := hsplit
    rw [applyPush, hstatus, if_pos rfl, hslot, stored, ChildDeviceInfo.occupant,
      if_neg (by rw [hconn]; exact Bool.false_ne_true)]
    rfl

/-- The client replays the events. -/
theorem clientTable_eq (events : List ChildDeviceInfo) :
    clientTable (events.map pushPayload) =
      KeyedLog.replay ChildDeviceInfo.slotIndex stored (fun _ => none) events := by
  induction events using List.reverseRecOn with
  | nil => rfl
  | append_singleton events child ih =>
    rw [clientTable] at ih
    rw [KeyedLog.replay_concat, ← ih, ← applyPush_pushPayload, clientTable, List.map_append,
      List.foldl_append]
    rfl

/-- The client answers with what the last push of the slot said. -/
theorem answer_of_last {events : List ChildDeviceInfo} {slot : UInt8} {child : ChildDeviceInfo}
    (h : KeyedLog.last ChildDeviceInfo.slotIndex slot events = some child) :
    answer (clientTable (events.map pushPayload)) slot = child.body slot := by
  have hslot : child.slotIndex = slot := KeyedLog.key_of_last h
  rw [answer, clientTable_eq, KeyedLog.replay_eq, h, Option.map_some, Option.getD_some, stored,
    ChildDeviceInfo.occupant]
  cases hconn : child.isConnected with
  | true => simp [ChildDeviceInfo.body_of_connected hconn, hslot]
  | false => simp [ChildDeviceInfo.body_of_disconnected hconn]

theorem answer_of_none {events : List ChildDeviceInfo} {slot : UInt8}
    (h : KeyedLog.last ChildDeviceInfo.slotIndex slot events = none) :
    answer (clientTable (events.map pushPayload)) slot =
      (ChildDeviceInfo.disconnected slot).body slot := by
  rw [answer, clientTable_eq, KeyedLog.replay_eq, h, ChildDeviceInfo.body_of_disconnected rfl]
  rfl

theorem queryPayload_drop (dock : DockState) (slot : UInt8) :
    (queryPayload dock slot).drop 4 = ((dock.table slot).getD (.disconnected slot)).body slot := by
  rw [queryPayload, ChildDeviceInfo.drop_buildPayload, DockState.childDeviceAt_eq]

/-- So does the dock, with what its last event of the slot said. -/
theorem query_of_last {dock : DockState} (hdock : dock.Mirrors) {slot : UInt8}
    {child : ChildDeviceInfo}
    (h : KeyedLog.last ChildDeviceInfo.slotIndex slot dock.hotplug = some child) :
    (queryPayload dock slot).drop 4 = child.body slot := by
  rw [queryPayload_drop, ← hdock, KeyedLog.replay_eq, h, Option.map_some, Option.getD_some,
    ChildDeviceInfo.occupant]
  cases hconn : child.isConnected with
  | true => rfl
  | false =>
    rw [ChildDeviceInfo.body_of_disconnected hconn, if_neg Bool.false_ne_true, Option.getD_none,
      ChildDeviceInfo.body_of_disconnected rfl]

theorem query_of_none {dock : DockState} (hdock : dock.Mirrors) {slot : UInt8}
    (h : KeyedLog.last ChildDeviceInfo.slotIndex slot dock.hotplug = none) :
    (queryPayload dock slot).drop 4 = (ChildDeviceInfo.disconnected slot).body slot := by
  rw [queryPayload_drop, ← hdock, KeyedLog.replay_eq, h]
  rfl

/-- **The hotplug log determines the slot table**: after any operations a client
that applied the pushes answers for every slot number, in range or not, what the
dock answers. -/
theorem hotplug_log_determines_slots (config : DockConfig) (ops : List DockOp) (slot : UInt8) :
    answer (clientTable ((DockState.run config ops).hotplug.map pushPayload)) slot =
      (queryPayload (DockState.run config ops) slot).drop 4 := by
  have hdock := (DockState.run_consistent config ops).mirrors
  cases hlast : KeyedLog.last ChildDeviceInfo.slotIndex slot (DockState.run config ops).hotplug with
  | none => rw [answer_of_none hlast, query_of_none hdock hlast]
  | some child => rw [answer_of_last hlast, query_of_last hdock hlast]

end OpenNetDeck
