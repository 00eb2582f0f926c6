import OpenNetDeck.Protocol.Codec

/-!
# Child device reports

`ChildDeviceInfo` and its 128-byte payload, in the form of a push notification
and in that of an answer to a query, and the frame that carries a push.

## Main results

- `ChildDeviceInfo.drop_buildPayload` — the two forms agree from byte 4 on
- `ChildDeviceInfo.body_of_connected`, `ChildDeviceInfo.body_of_disconnected` —
  what stands there
- `buildCoraPushFrame_eq` — a buffer of the right size holds exactly the frame
-/

namespace OpenNetDeck

open Bytes

/-- The bytes of a Rust string. -/
def asBytes (s : String) : List UInt8 := s.toUTF8.data.toList

/-- Child Stream Deck attachment info (`Device2Info`); `isConnected` is the field
`connected`. -/
structure ChildDeviceInfo where
  slotIndex : UInt8
  isConnected : Bool
  vendorId : UInt16
  productId : UInt16
  productName : Block 32
  productNameLen : ℕ
  serialNumber : Block 32
  serialLen : ℕ
  tcpPort : UInt16
  deriving DecidableEq

namespace ChildDeviceInfo

def disconnected (slotIndex : UInt8) : ChildDeviceInfo where
  slotIndex
  isConnected := false
  vendorId := 0
  productId := 0
  productName := Block.zeroed 32
  productNameLen := 0
  serialNumber := Block.zeroed 32
  serialLen := 0
  tcpPort := 0

def connected (slotIndex : UInt8) (vendorId productId : UInt16) (productName serial : String)
    (tcpPort : UInt16) : ChildDeviceInfo :=
  let nameBytes := asBytes productName
  let nameLen := min nameBytes.length 31
  let bytes := asBytes serial
  let len := min bytes.length 31
  { slotIndex
    isConnected := true
    vendorId
    productId
    productName := (Block.zeroed 32).copyAt 0 (nameBytes.take nameLen) (by simp; omega)
    productNameLen := nameLen
    serialNumber := (Block.zeroed 32).copyAt 0 (bytes.take len) (by simp; omega)
    serialLen := len
    tcpPort }

/-- The payload written over a cleared array. -/
def buildPayload (self : ChildDeviceInfo) (isPushNotification : Bool) (requestedSlot : UInt8) :
    Block 128 :=
  let out := Block.zeroed 128
  let out :=
    if isPushNotification then (out.set 0 0x01 (by decide)).set 1 0x0b (by decide)
    else (out.set 0 0x03 (by decide)).set 1 0x1c (by decide)
  let out := out.copyAt 2 (leBytes 2 124) (by decide)
  if self.isConnected then
    let out := out.set 4 0x02 (by decide)
    let out := out.set 5 self.slotIndex (by decide)
    let out := out.copyAt 26 (leBytes 2 self.vendorId.toNat) (by simp)
    let out := out.copyAt 28 (leBytes 2 self.productId.toNat) (by simp)
    let out := out.set 30 0x00 (by decide)
    let out := out.set 31 0x01 (by decide)
    let nameLen := min self.productNameLen 31
    let out := out.copyAt 32 (self.productName.val.take nameLen) (by simp; omega)
    let out := out.copyAt 64 (asBytes "Elgato") (by decide +kernel)
    let len := min self.serialLen 31
    let out := out.copyAt 94 (self.serialNumber.val.take len) (by simp; omega)
    out.copyAt 126 (leBytes 2 self.tcpPort.toNat) (by simp)
  else
    let out := out.set 4 0x00 (by decide)
    out.set 5 requestedSlot (by decide)

/-- The payload behind its report id, command and length. -/
def body (self : ChildDeviceInfo) (requestedSlot : UInt8) : List UInt8 :=
  (self.buildPayload false requestedSlot).val.drop 4

/-- The two forms of a payload differ in their first two bytes only. -/
theorem drop_buildPayload (self : ChildDeviceInfo) (isPush : Bool) (requestedSlot : UInt8) :
    (self.buildPayload isPush requestedSlot).val.drop 4 = self.body requestedSlot := by
  rw [body]
  cases hconn : self.isConnected with
  | true =>
    simp (disch := decide) only [buildPayload, hconn, if_true, Block.drop_copyAt, Block.drop_set]
    cases isPush <;> rfl
  | false =>
    simp (disch := decide) only [buildPayload, hconn, Bool.false_eq_true, if_false,
      Block.drop_set]
    cases isPush <;> rfl

/-- An answer starts with its report id and command. -/
theorem take_buildPayload (self : ChildDeviceInfo) (requestedSlot : UInt8) :
    (self.buildPayload false requestedSlot).val.take 2 = [0x03, 0x1c] := by
  cases hconn : self.isConnected with
  | true =>
    simp (disch := decide) only [buildPayload, hconn, if_true, Block.take_copyAt, Block.take_set]
    rfl
  | false =>
    simp (disch := decide) only [buildPayload, hconn, Bool.false_eq_true, if_false,
      Block.take_copyAt, Block.take_set]
    rfl

theorem body_of_disconnected {self : ChildDeviceInfo} (h : self.isConnected = false)
    (requestedSlot : UInt8) :
    self.body requestedSlot = 0x00 :: requestedSlot :: List.replicate 122 0 := by
  simp (disch := decide) only [body, buildPayload, h, Bool.false_eq_true, if_false,
    Block.drop_set]
  rfl

/-- The payload of a connected child behind its status and its slot. -/
def details (self : ChildDeviceInfo) : List UInt8 := (self.body 0).drop 2

theorem body_of_connected {self : ChildDeviceInfo} (h : self.isConnected = true)
    (requestedSlot : UInt8) :
    self.body requestedSlot = 0x02 :: self.slotIndex :: self.details := by
  have hslot : self.body requestedSlot = self.body 0 := by
    simp only [body, buildPayload, h, if_true]
  have hhead : (self.buildPayload false 0).val.take 6 =
      [0x03, 0x1c, 124, 0, 0x02, self.slotIndex] := by
    simp (disch := decide) only [buildPayload, h, if_true, Block.take_copyAt, Block.take_set]
    rfl
  have hfront : (self.body 0).take 2 = [0x02, self.slotIndex] := by
    have hdrop : (self.body 0).take 2 = ((self.buildPayload false 0).val.take 6).drop 4 := by
      rw [body, List.drop_take]
    rw [hdrop, hhead]
    rfl
  calc self.body requestedSlot = (self.body 0).take 2 ++ (self.body 0).drop 2 := by
        rw [hslot, List.take_append_drop]
    _ = 0x02 :: self.slotIndex :: self.details := by
        rw [hfront, details]
        rfl

/-- The payload of a connected child tells its product id and its port. -/
theorem read_buildPayload {self : ChildDeviceInfo} (h : self.isConnected = true)
    (requestedSlot : UInt8) :
    (self.buildPayload false requestedSlot).read 28 2 = leBytes 2 self.productId.toNat ∧
      (self.buildPayload false requestedSlot).read 126 2 = leBytes 2 self.tcpPort.toNat := by
  simp only [buildPayload, h, if_true]
  constructor
  · simp (disch := decide) only [Block.read_copyAt_of_le, Block.read_set_of_le]
    exact Block.read_copyAt_self
  · exact Block.read_copyAt_self

end ChildDeviceInfo

/-- Wrap an unsolicited push event into a frame. -/
def buildCoraPushFrame (payload out : List UInt8) : Except ProtocolError ℕ × List UInt8 :=
  let header := CoraHeader.new CoraFlags.none .write 0 payload.length
  (CoraFrame.new header payload).encode out

/-- An output buffer of the right size is filled with the frame. -/
theorem buildCoraPushFrame_eq {payload out : List UInt8}
    (hout : out.length = coraHeaderSize + payload.length) :
    buildCoraPushFrame payload out = (.ok out.length,
      (CoraFrame.new (CoraHeader.new CoraFlags.none .write 0 payload.length) payload).toVec) := by
  rw [buildCoraPushFrame, CoraFrame.encode_exact hout]

end OpenNetDeck
