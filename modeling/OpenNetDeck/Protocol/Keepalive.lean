import OpenNetDeck.Lib.Checked
import OpenNetDeck.Protocol.Codec

/-!
# Keepalive packets

How a keepalive probe and its acknowledgement are told from other frames, and
the frames that carry them.

## Main results

- `isKeepaliveProbe_eq`, `isKeepaliveAck_eq` — no index is out of range, and the
  exact condition of each
- `sendBuilt_keepaliveProbe`, `sendBuilt_keepaliveAck` — which frames are built
-/

namespace OpenNetDeck

open Bytes Checked

def keepaliveProbeLen : ℕ := 32

def keepaliveAckLen : ℕ := 32

/-- Byte `i` of a payload of at least `minLen` bytes that starts with two given
bytes. -/
def prefixedByte (payload : List UInt8) (minLen : ℕ) (first second : UInt8) (i : ℕ) :
    Except Panic (Option UInt8) :=
  if payload.length ≥ minLen then do
    if (← index payload 0) = first then
      if (← index payload 1) = second then return some (← index payload i)
      else return none
    else return none
  else return none

/-- The connection id of a keepalive probe. -/
def isKeepaliveProbe (frame : CoraFrame) : Except Panic (Option UInt8) :=
  prefixedByte frame.payload 6 0x01 0x0a 5

/-- The connection id of a keepalive acknowledgement. -/
def isKeepaliveAck (frame : CoraFrame) : Except Panic (Option UInt8) :=
  prefixedByte frame.payload 3 0x03 0x1a 2

theorem prefixedByte_eq {payload : List UInt8} {minLen : ℕ} {first second : UInt8} {i : ℕ}
    (hmin : 2 ≤ minLen) (hi : i < minLen) :
    prefixedByte payload minLen first second i =
      .ok (if minLen ≤ payload.length ∧ payload.getD 0 0 = first ∧ payload.getD 1 0 = second then
        some (payload.getD i 0) else none) := by
  have hget : ∀ k < minLen, minLen ≤ payload.length →
      index payload k = .ok (payload.getD k 0) :=
    fun k hk hlen => index_eq_getD 0 (hk.trans_le hlen)
  rw [prefixedByte]
  by_cases hlen : minLen ≤ payload.length
  · rw [if_pos hlen, hget 0 (by omega) hlen, hget 1 (by omega) hlen, hget i hi hlen]
    show (if payload.getD 0 0 = first then
      if payload.getD 1 0 = second then Except.ok (some (payload.getD i 0)) else .ok none
      else .ok none) = _
    split_ifs <;> simp_all
  · rw [if_neg hlen, if_neg fun h => hlen h.1]
    rfl

/-- A frame that is answered as a keepalive probe. -/
def CoraFrame.IsProbe (frame : CoraFrame) : Prop :=
  6 ≤ frame.payload.length ∧ frame.payload.getD 0 0 = 0x01 ∧ frame.payload.getD 1 0 = 0x0a

instance : DecidablePred CoraFrame.IsProbe := fun _ => inferInstanceAs (Decidable (_ ∧ _ ∧ _))

/-- A frame that is taken for the acknowledgement of a probe. -/
def CoraFrame.IsAck (frame : CoraFrame) : Prop :=
  3 ≤ frame.payload.length ∧ frame.payload.getD 0 0 = 0x03 ∧ frame.payload.getD 1 0 = 0x1a

instance : DecidablePred CoraFrame.IsAck := fun _ => inferInstanceAs (Decidable (_ ∧ _ ∧ _))

theorem CoraFrame.IsProbe.payload_ne_nil {frame : CoraFrame} (h : frame.IsProbe) :
    frame.payload ≠ [] :=
  List.ne_nil_of_length_pos ((Nat.zero_lt_succ 5).trans_le h.1)

theorem CoraFrame.IsAck.payload_ne_nil {frame : CoraFrame} (h : frame.IsAck) :
    frame.payload ≠ [] :=
  List.ne_nil_of_length_pos ((Nat.zero_lt_succ 2).trans_le h.1)

theorem isKeepaliveProbe_eq (frame : CoraFrame) :
    isKeepaliveProbe frame =
      .ok (if frame.IsProbe then some (frame.payload.getD 5 0) else none) :=
  prefixedByte_eq (by decide) (by decide)

theorem isKeepaliveAck_eq (frame : CoraFrame) :
    isKeepaliveAck frame = .ok (if frame.IsAck then some (frame.payload.getD 2 0) else none) :=
  prefixedByte_eq (by decide) (by decide)

/-! ### Building the packets -/

def buildKeepaliveProbePayload (connectionId : UInt8) : Block keepaliveProbeLen :=
  let out := Block.zeroed keepaliveProbeLen
  let out := out.set 0 0x01 (by decide)
  let out := out.set 1 0x0a (by decide)
  out.set 5 connectionId (by decide)

def buildKeepaliveProbeFrame (connectionId : UInt8) (messageId : UInt32) (out : List UInt8) :
    Except ProtocolError ℕ × List UInt8 :=
  let payload := buildKeepaliveProbePayload connectionId
  let header := CoraHeader.new CoraFlags.none .write messageId keepaliveProbeLen
  (CoraFrame.new header payload.val).encode out

def buildKeepaliveAckPayload (connectionId : UInt8) : Block keepaliveAckLen :=
  let out := Block.zeroed keepaliveAckLen
  let out := out.set 0 0x03 (by decide)
  let out := out.set 1 0x1a (by decide)
  out.set 2 connectionId (by decide)

def buildKeepaliveAckFrame (connectionId : UInt8) (messageId : UInt32) (out : List UInt8) :
    Except ProtocolError ℕ × List UInt8 :=
  let payload := buildKeepaliveAckPayload connectionId
  let header := CoraHeader.new CoraFlags.ackNak .write messageId keepaliveAckLen
  (CoraFrame.new header payload.val).encode out

/-- The probe of a connection. -/
def keepaliveProbe (connectionId : UInt8) (messageId : UInt32) : CoraFrame :=
  CoraFrame.new (CoraHeader.new CoraFlags.none .write messageId 32)
    ([0x01, 0x0a, 0, 0, 0, connectionId] ++ List.replicate 26 0)

/-- The acknowledgement of a probe. -/
def keepaliveAck (connectionId : UInt8) (messageId : UInt32) : CoraFrame :=
  CoraFrame.new (CoraHeader.new CoraFlags.ackNak .write messageId 32)
    ([0x03, 0x1a, connectionId] ++ List.replicate 29 0)

theorem sendBuilt_keepaliveProbe {connectionId : UInt8} {messageId : UInt32} {out : List UInt8}
    (h : 16 + 32 ≤ out.length) :
    sendBuilt (buildKeepaliveProbeFrame connectionId messageId out) =
      .ok [(keepaliveProbe connectionId messageId).toVec] :=
  sendBuilt_encode (f := keepaliveProbe connectionId messageId) h

theorem sendBuilt_keepaliveAck {connectionId : UInt8} {messageId : UInt32} {out : List UInt8}
    (h : 16 + 32 ≤ out.length) :
    sendBuilt (buildKeepaliveAckFrame connectionId messageId out) =
      .ok [(keepaliveAck connectionId messageId).toVec] :=
  sendBuilt_encode (f := keepaliveAck connectionId messageId) h

end OpenNetDeck
