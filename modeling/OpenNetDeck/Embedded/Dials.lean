import OpenNetDeck.Embedded.Surface

/-!
# Reports of dials and of the touch strip

What a client can tell of the dials and of the touch strip by the reports that
`encode_surface_event` makes. A press and a release have the value byte of a rotation
by one and by nothing.

## Main definitions

- `SurfaceEvent.seen` — an event as its report shows it
- `readReport` — the event that a client reads off a report

## Main results

- `readReport_encodeSurfaceEvent` — a client reads what the report shows
- `dial_reports_differ_iff` — the reports of two histories differ exactly if the
  histories do so as they are seen
-/

namespace OpenNetDeck

open Bytes

namespace SurfaceEvent

/-- An event of a dial or of the touch strip. -/
def IsDialOrTouch : SurfaceEvent → Prop
  | .keyDown _ | .keyUp _ => False
  | _ => True

/-- A rotation by one looks like a press, and one by nothing like a release. -/
def seen : SurfaceEvent → SurfaceEvent
  | .dialRotate dialIndex delta =>
    if delta = 1 then .dialPress dialIndex
    else if delta = 0 then .dialRelease dialIndex
    else .dialRotate dialIndex delta
  | event => event

end SurfaceEvent

open SurfaceEvent

/-- The reports of a history. -/
def reports (events : List SurfaceEvent) : List (Block 512) :=
  events.map fun event => (encodeSurfaceEvent event).1

/-- The event that a report of a dial or of the touch strip is about. -/
def readReport (report : Block 512) : SurfaceEvent :=
  let index := report.val.getD 2 0
  let value := report.val.getD 3 0
  if report.val.getD 1 0 = 0x02 then
    .touchTap index (UInt16.ofNat (leNat (report.read 4 2)))
      (UInt16.ofNat (leNat (report.read 6 2)))
  else if value = 0x01 then .dialPress index
  else if value = 0x00 then .dialRelease index
  else .dialRotate index value.toInt8

/-- A report of a dial is told by its value byte. -/
theorem readReport_dialRotate (dialIndex : UInt8) (delta : Int8) :
    readReport (encodeSurfaceEvent (.dialRotate dialIndex delta)).1 =
      if delta.toUInt8 = 0x01 then .dialPress dialIndex
      else if delta.toUInt8 = 0x00 then .dialRelease dialIndex
      else .dialRotate dialIndex delta := by
  have hkind : (encodeSurfaceEvent (.dialRotate dialIndex delta)).1.val.getD 1 0 = 0x03 := by
    simp only [encodeSurfaceEvent, Block.getD_set]
    rfl
  have hindex : (encodeSurfaceEvent (.dialRotate dialIndex delta)).1.val.getD 2 0 = dialIndex := by
    simp only [encodeSurfaceEvent, Block.getD_set]
    rfl
  have hvalue : (encodeSurfaceEvent (.dialRotate dialIndex delta)).1.val.getD 3 0 =
      delta.toUInt8 := by
    simp only [encodeSurfaceEvent, Block.getD_set]
    rfl
  rw [readReport, hkind, hindex, hvalue, if_neg (by decide), Int8.toInt8_toUInt8]

theorem readReport_touchTap (dialIndex : UInt8) (x y : UInt16) :
    readReport (encodeSurfaceEvent (.touchTap dialIndex x y)).1 = .touchTap dialIndex x y := by
  have hkind : (encodeSurfaceEvent (.touchTap dialIndex x y)).1.val.getD 1 0 = 0x02 := by
    rw [encodeSurfaceEvent, Block.getD_copyAt_of_lt (by decide),
      Block.getD_copyAt_of_lt (by decide)]
    simp only [Block.getD_set]
    rfl
  have hindex : (encodeSurfaceEvent (.touchTap dialIndex x y)).1.val.getD 2 0 = dialIndex := by
    rw [encodeSurfaceEvent, Block.getD_copyAt_of_lt (by decide),
      Block.getD_copyAt_of_lt (by decide)]
    simp only [Block.getD_set]
    rfl
  have hx : (encodeSurfaceEvent (.touchTap dialIndex x y)).1.read 4 2 = leBytes 2 x.toNat := by
    rw [encodeSurfaceEvent, Block.read_copyAt_of_le (by decide)]
    exact Block.read_copyAt_self
  have hy : (encodeSurfaceEvent (.touchTap dialIndex x y)).1.read 6 2 = leBytes 2 y.toNat := by
    rw [encodeSurfaceEvent]
    dsimp only
    exact Block.read_copyAt_self
  rw [readReport, hkind, hindex, hx, hy, if_pos rfl, uint16_leBytes, uint16_leBytes]

/-- A client reads off a report what it shows. -/
theorem readReport_encodeSurfaceEvent {event : SurfaceEvent} (h : event.IsDialOrTouch) :
    readReport (encodeSurfaceEvent event).1 = event.seen := by
  cases event with
  | keyDown | keyUp => exact h.elim
  | dialRotate dialIndex delta =>
    have hone : delta.toUInt8 = 0x01 ↔ delta = 1 :=
      ⟨fun heq => congrArg UInt8.toInt8 heq, fun heq => congrArg Int8.toUInt8 heq⟩
    have hzero : delta.toUInt8 = 0x00 ↔ delta = 0 :=
      ⟨fun heq => congrArg UInt8.toInt8 heq, fun heq => congrArg Int8.toUInt8 heq⟩
    simp only [readReport_dialRotate, hone, hzero]
    rfl
  -- both have the report of a rotation
  | dialPress dialIndex => exact readReport_dialRotate dialIndex 1
  | dialRelease dialIndex => exact readReport_dialRotate dialIndex 0
  | touchTap dialIndex x y => exact readReport_touchTap dialIndex x y

/-- The report shows no more than what is seen. -/
theorem encodeSurfaceEvent_seen (event : SurfaceEvent) :
    encodeSurfaceEvent event.seen = encodeSurfaceEvent event := by
  cases event with
  | dialRotate dialIndex delta =>
    rw [seen]
    split_ifs with hone hzero
    · rw [hone]
      rfl
    · rw [hzero]
      rfl
    · rfl
  | keyDown | keyUp | dialPress | dialRelease | touchTap => rfl

/-- **What the reports of dials and of the touch strip tell**: those of two histories
differ if and only if the histories still differ when each rotation by one is read
as a press and each rotation by nothing as a release. -/
theorem dial_reports_differ_iff (events events' : List SurfaceEvent)
    (h : ∀ event ∈ events, event.IsDialOrTouch) (h' : ∀ event ∈ events', event.IsDialOrTouch) :
    reports events ≠ reports events' ↔ events.map seen ≠ events'.map seen := by
  have hread {events : List SurfaceEvent} (h : ∀ event ∈ events, event.IsDialOrTouch) :
      (reports events).map readReport = events.map seen := by
    rw [reports, List.map_map]
    exact List.map_congr_left fun event hevent => readReport_encodeSurfaceEvent (h event hevent)
  have hseen (events : List SurfaceEvent) : reports (events.map seen) = reports events := by
    rw [reports, reports, List.map_map]
    exact List.map_congr_left fun event _ => congrArg Prod.fst (encodeSurfaceEvent_seen event)
  rw [not_iff_not]
  constructor
  · intro heq
    rw [← hread h, heq, hread h']
  · intro heq
    rw [← hseen, heq, hseen]

/-- A rotation by two, and a press. -/
theorem dial_reports_differ_iff_press :
    reports [.dialRotate 0 2] ≠ reports [.dialPress 0] ↔
      [SurfaceEvent.dialRotate 0 2].map seen ≠ [SurfaceEvent.dialPress 0].map seen :=
  dial_reports_differ_iff [.dialRotate 0 2] [.dialPress 0]
    (List.forall_mem_singleton.mpr trivial) (List.forall_mem_singleton.mpr trivial)

/-- A rotation by one has the report of a press. -/
theorem rotation_looks_like_press :
    [SurfaceEvent.dialRotate 0 1] ≠ [.dialPress 0] ∧
      reports [.dialRotate 0 1] = reports [.dialPress 0] :=
  ⟨by decide, rfl⟩

end OpenNetDeck
