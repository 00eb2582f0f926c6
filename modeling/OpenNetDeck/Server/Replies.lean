import OpenNetDeck.Protocol.Keepalive
import OpenNetDeck.Protocol.Reports
import OpenNetDeck.Server.Usb.Device

/-!
# Replies

What both frame handlers of the server share: the messages they hand to the
writer task, the acknowledgement of a forwarded frame and that of a keepalive
probe. A handler that panics has sent nothing, and ends the task of its connection.

## Main results

- `sendAck_eq`, `replyProbe_eq` — the two acknowledgements, and when they are sent
-/

namespace OpenNetDeck

open Bytes Checked

/-- What a handler does: messages for the writer task, calls of the USB handle,
and children announced by spawned tasks. -/
structure Effects where
  sent : List (List UInt8) := []
  usb : List UsbCall := []
  spawned : List ChildDeviceInfo := []
  deriving DecidableEq

/-- `RESULT`, and `VERBATIM` if the request has it. -/
def respFlags (frame : CoraFrame) : CoraFlags :=
  if frame.header.flags.contains CoraFlags.verbatim then CoraFlags.verbatim.union CoraFlags.result
  else CoraFlags.result

/-- A frame whose sender waits for an acknowledgement. -/
def wantsAck (frame : CoraFrame) : Bool :=
  frame.header.flags.contains CoraFlags.reqAck || frame.header.messageId != 0

/-- Acknowledge a forwarded frame with its first byte. -/
def sendAck (frame : CoraFrame) (default : UInt8) : Except Panic (List (List UInt8)) :=
  if wantsAck frame then do
    let ackPayload ← if !frame.payload.isEmpty then slice frame.payload 0 1 else .ok [default]
    let header := CoraHeader.new (respFlags frame) frame.header.hidOp frame.header.messageId
      ackPayload.length
    return [(CoraFrame.new header ackPayload).toVec]
  else return []

/-- The acknowledgement of a forwarded frame. -/
def ackFrame (frame : CoraFrame) (default : UInt8) : CoraFrame :=
  CoraFrame.new (CoraHeader.new (respFlags frame) frame.header.hidOp frame.header.messageId 1)
    [frame.payload.headD default]

/-- The call that forwards a report or a write to the device. -/
def forwardCall (frame : CoraFrame) : UsbCall :=
  if frame.header.hidOp = .sendReport then .setFeatureReport frame.payload
  else .writeOut frame.payload

theorem forwardCall_of_report {frame : CoraFrame} (hop : frame.header.hidOp = .sendReport) :
    forwardCall frame = .setFeatureReport frame.payload := if_pos hop

theorem forwardCall_of_write {frame : CoraFrame} (hop : frame.header.hidOp = .write) :
    forwardCall frame = .writeOut frame.payload := by
  rw [forwardCall, hop, if_neg (by decide)]

theorem sendAck_eq (frame : CoraFrame) (default : UInt8) :
    sendAck frame default =
      .ok (if wantsAck frame then [(ackFrame frame default).toVec] else []) := by
  rw [sendAck, ackFrame]
  by_cases hack : wantsAck frame
  · rw [if_pos hack, if_pos hack]
    cases frame.payload with
    | nil => rfl
    | cons b rest => rfl
  · rw [if_neg hack, if_neg hack]
    rfl

/-- Answer a keepalive probe. -/
def replyProbe (connId : UInt8) (frame : CoraFrame) : Except Panic Effects := do
  let ackBuf := List.replicate (16 + 32) 0
  return { sent := ← sendBuilt (buildKeepaliveAckFrame connId frame.header.messageId ackBuf) }

theorem replyProbe_eq (connId : UInt8) (frame : CoraFrame) :
    replyProbe connId frame =
      .ok { sent := [(keepaliveAck connId frame.header.messageId).toVec] } := by
  rw [replyProbe, sendBuilt_keepaliveAck List.length_replicate.ge]
  rfl

/-- A report of 65536 bytes whose sender waits for an acknowledgement. -/
def longReport : CoraFrame where
  header := CoraHeader.new CoraFlags.reqAck .sendReport 7 65536
  payload := 0x03 :: 0x08 :: List.replicate 65534 0

theorem length_longReport : longReport.payload.length = 2 ^ 16 := by
  rw [longReport, List.length_cons, List.length_cons, List.length_replicate]
  rfl

theorem longReport_not_probe : ¬ longReport.IsProbe := fun h => absurd h.2.1 (by decide)

theorem longReport_not_ack : ¬ longReport.IsAck := fun h => absurd h.2.2 (by decide)

end OpenNetDeck
