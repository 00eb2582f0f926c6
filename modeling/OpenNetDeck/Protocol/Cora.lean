import OpenNetDeck.Lib.Bytes

/-!
# CORA packets

The 16-byte header and the frames of the CORA protocol: header parsing and
encoding, the search for the magic bytes, and the frame decoder and encoders.
`usize` is at least 64 bits wide here, so adding the header size to a 32-bit
length never overflows; `Embedded.Target` treats narrower words.

## Main definitions

- `CoraFlags`, `CoraHidOp`, `CoraHeader`, `CoraFrame`
- `CoraFrame.findMagic`, `CoraFrame.decode`, `CoraFrame.encode`, `CoraFrame.toVec`
- `CoraFrame.HasHeader` — the bytes start with a header that `CoraHeader.parse`
  accepts
-/

namespace OpenNetDeck

open Bytes

/-- The 4-byte magic signature at the start of every packet. -/
def coraMagic : List UInt8 := [0x43, 0x93, 0x8a, 0x41]

/-- Size of the message header in bytes. -/
def coraHeaderSize : ℕ := 16

inductive ProtocolError where
  | bufferTooSmall
  | invalidMagic
  | unknownHidOp (op : UInt8)
  | payloadLengthExceeded
  | incompleteHeader
  | incompleteFrame (expected available : ℕ)
  | unknownReportId (id : UInt8)
  | invalidPayloadLayout
  | invalidStringEncoding
  deriving DecidableEq, Repr

/-- CORA message flags. -/
structure CoraFlags where
  bits : UInt16
  deriving DecidableEq, Repr

namespace CoraFlags

def none : CoraFlags := ⟨0x0000⟩
def result : CoraFlags := ⟨0x0100⟩
def ackNak : CoraFlags := ⟨0x0200⟩
def reqAck : CoraFlags := ⟨0x4000⟩
def verbatim : CoraFlags := ⟨0x8000⟩

def contains (self other : CoraFlags) : Bool := self.bits &&& other.bits == other.bits

def union (self other : CoraFlags) : CoraFlags := ⟨self.bits ||| other.bits⟩

end CoraFlags

/-- HID operation code transmitted in the header. -/
inductive CoraHidOp where
  | write
  | sendReport
  | getReport
  deriving DecidableEq, Repr

namespace CoraHidOp

def fromU8 (value : UInt8) : Except ProtocolError CoraHidOp :=
  if value = 0 then .ok .write
  else if value = 1 then .ok .sendReport
  else if value = 2 then .ok .getReport
  else .error (.unknownHidOp value)

def asU8 : CoraHidOp → UInt8
  | .write => 0
  | .sendReport => 1
  | .getReport => 2

@[simp] theorem fromU8_asU8 (op : CoraHidOp) : fromU8 op.asU8 = .ok op := by
  cases op <;> rfl

theorem asU8_le (op : CoraHidOp) : op.asU8 ≤ 2 := by
  cases op <;> decide

/-- The three known codes are accepted, and each stands for its operation. -/
theorem fromU8_of_le {value : UInt8} (h : value ≤ 2) :
    ∃ op : CoraHidOp, fromU8 value = .ok op ∧ op.asU8 = value := by
  have hcases : value = 0 ∨ value = 1 ∨ value = 2 := by
    simp only [UInt8.le_iff_toNat_le, ← UInt8.toNat_inj] at h ⊢
    simp only [UInt8.reduceToNat] at h ⊢
    omega
  rcases hcases with rfl | rfl | rfl
  · exact ⟨.write, rfl, rfl⟩
  · exact ⟨.sendReport, rfl, rfl⟩
  · exact ⟨.getReport, rfl, rfl⟩

theorem fromU8_of_not_le {value : UInt8} (h : ¬ value ≤ 2) :
    fromU8 value = .error (.unknownHidOp value) := by
  have h0 : value ≠ 0 := by rintro rfl; exact h (by decide)
  have h1 : value ≠ 1 := by rintro rfl; exact h (by decide)
  have h2 : value ≠ 2 := by rintro rfl; exact h (by decide)
  simp [fromU8, h0, h1, h2]

end CoraHidOp

/-- 16-byte fixed-size header. -/
structure CoraHeader where
  flags : CoraFlags
  hidOp : CoraHidOp
  reserved : UInt8
  messageId : UInt32
  payloadLen : UInt32
  deriving DecidableEq, Repr

namespace CoraHeader

def new (flags : CoraFlags) (hidOp : CoraHidOp) (messageId : UInt32) (payloadLen : ℕ) :
    CoraHeader :=
  { flags, hidOp, reserved := 0, messageId, payloadLen := UInt32.ofNat payloadLen }

/-- Parse a header from a 16-byte slice. -/
def parse (buf : List UInt8) : Except ProtocolError CoraHeader :=
  if buf.length < coraHeaderSize then .error .incompleteHeader
  else if buf.take 4 ≠ coraMagic then .error .invalidMagic
  else do
    let hidOp ← CoraHidOp.fromU8 (buf.getD 6 0)
    return {
      flags := ⟨UInt16.ofNat (leNat ((buf.drop 4).take 2))⟩
      hidOp
      reserved := buf.getD 7 0
      messageId := UInt32.ofNat (leNat ((buf.drop 8).take 4))
      payloadLen := UInt32.ofNat (leNat ((buf.drop 12).take 4)) }

/-- The sixteen bytes written field by field over a header-sized array. -/
def encode (self : CoraHeader) : List UInt8 :=
  coraMagic ++ leBytes 2 self.flags.bits.toNat ++ [self.hidOp.asU8] ++ [self.reserved] ++
    leBytes 4 self.messageId.toNat ++ leBytes 4 self.payloadLen.toNat

end CoraHeader

/-- A frame: its header and the payload slice behind it. -/
structure CoraFrame where
  header : CoraHeader
  payload : List UInt8
  deriving DecidableEq, Repr

namespace CoraFrame

def new (header : CoraHeader) (payload : List UInt8) : CoraFrame := ⟨header, payload⟩

/-- Locate the first occurrence of the magic bytes. -/
def findMagic (buf : List UInt8) : Option ℕ :=
  if buf.length < 4 then .none else (windows 4 buf).findIdx? (· == coraMagic)

/-- Try to decode a complete frame from a byte buffer: the frame and the number
of bytes it took, `none` if more data is required, or an error. -/
def decode (buf : List UInt8) : Except ProtocolError (Option (CoraFrame × ℕ)) :=
  if buf.length < coraHeaderSize then .ok .none
  else if buf.take 4 ≠ coraMagic then .error .invalidMagic
  else do
    let header ← CoraHeader.parse (buf.take coraHeaderSize)
    let totalLen := coraHeaderSize + header.payloadLen.toNat
    if buf.length < totalLen then return .none
    let payload := (buf.take totalLen).drop coraHeaderSize
    return .some (⟨header, payload⟩, totalLen)

/-- The header that goes on the wire, with the length of the actual payload. -/
def wireHeader (self : CoraFrame) : CoraHeader :=
  { self.header with payloadLen := UInt32.ofNat self.payload.length }

/-- Encode into a destination buffer: the number of bytes written, or an error,
and the buffer afterwards. -/
def encode (self : CoraFrame) (out : List UInt8) : Except ProtocolError ℕ × List UInt8 :=
  let totalLen := coraHeaderSize + self.payload.length
  if out.length < totalLen then (.error .bufferTooSmall, out)
  else
    let out := splice out 0 self.wireHeader.encode
    let out := splice out coraHeaderSize self.payload
    (.ok totalLen, out)

def toVec (self : CoraFrame) : List UInt8 := self.wireHeader.encode ++ self.payload

end CoraFrame

end OpenNetDeck
