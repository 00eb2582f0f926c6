import OpenNetDeck.Lib.Checked
import OpenNetDeck.Protocol.Models
import OpenNetDeck.Protocol.Reports

/-!
# Feature queries

The feature commands of the primary port, how a query names one, and the reports
that answer device info, firmware version, serial number and MAC address queries.
A report is written over the front of a buffer that the caller provides.

## Main results

- `parsePrimaryQuery_eq` — which byte of a payload is the command
- `buildDeviceInfoPayload_eq` and its three siblings — a report that fits is
  written whole, and what stands behind it stays
-/

namespace OpenNetDeck

open Bytes Checked

/-- Product id of the dock itself. -/
def productIdNetworkDock : UInt16 := 0xffff

/-- Feature command opcodes. -/
inductive PrimaryFeatureCommand where
  | getDeviceInfo
  | getFirmwareVersion
  | getSerialNumber
  | getMacAddress
  | getChildDeviceInfo
  | other (opcode : UInt8)
  deriving DecidableEq, Repr

namespace PrimaryFeatureCommand

def fromU8 (value : UInt8) : PrimaryFeatureCommand :=
  if value = 0x80 then .getDeviceInfo
  else if value = 0x83 then .getFirmwareVersion
  else if value = 0x84 then .getSerialNumber
  else if value = 0x85 then .getMacAddress
  else if value = 0x1c then .getChildDeviceInfo
  else .other value

def asU8 : PrimaryFeatureCommand → UInt8
  | .getDeviceInfo => 0x80
  | .getFirmwareVersion => 0x83
  | .getSerialNumber => 0x84
  | .getMacAddress => 0x85
  | .getChildDeviceInfo => 0x1c
  | .other v => v

@[simp] theorem asU8_fromU8 (value : UInt8) : (fromU8 value).asU8 = value := by
  rw [fromU8]
  split_ifs with h1 h2 h3 h4 h5
  · exact h1.symm
  · exact h2.symm
  · exact h3.symm
  · exact h4.symm
  · exact h5.symm
  · rfl

end PrimaryFeatureCommand

/-- The feature command requested in a payload. -/
def parsePrimaryQuery (payload : List UInt8) : Except Panic (Option PrimaryFeatureCommand) :=
  if payload.isEmpty then return none
  else do
    let first ← index payload 0
    if first = 0x03 ∧ payload.length ≥ 2 then return some (.fromU8 (← index payload 1))
    else return some (.fromU8 first)

/-- The byte that names the command. -/
def commandByte : List UInt8 → Option UInt8
  | [] => none
  | [b] => some b
  | b :: c :: _ => some (if b = 0x03 then c else b)

theorem exists_commandByte {payload : List UInt8} (h : payload ≠ []) :
    ∃ b, commandByte payload = some b := by
  match payload with
  | [] => exact absurd rfl h
  | [b] => exact ⟨b, rfl⟩
  | b :: c :: _ => exact ⟨_, rfl⟩

theorem commandByte_of_two_le {payload : List UInt8} (h : 2 ≤ payload.length) :
    commandByte payload =
      some (if payload.getD 0 0 = 0x03 then payload.getD 1 0 else payload.getD 0 0) := by
  match payload with
  | b :: c :: _ => rfl

theorem parsePrimaryQuery_eq (payload : List UInt8) :
    parsePrimaryQuery payload = .ok ((commandByte payload).map .fromU8) := by
  match payload with
  | [] => rfl
  | [b] =>
    have hshort : ¬ (b = 0x03 ∧ [b].length ≥ 2) := by simp
    show (if b = 0x03 ∧ [b].length ≥ 2 then _ else _) = _
    rw [if_neg hshort]
    rfl
  | b :: c :: rest =>
    show (if b = 0x03 ∧ (b :: c :: rest).length ≥ 2 then _ else _) = _
    rw [commandByte]
    by_cases hb : b = 0x03
    · rw [if_pos ⟨hb, by simp⟩, if_pos hb]
      rfl
    · rw [if_neg fun h => hb h.1, if_neg hb]
      rfl

/-- The slot that a 0x1c query asks for. -/
def requestedSlot (frame : CoraFrame) : Except Panic UInt8 :=
  if frame.payload.length ≥ 3 then index frame.payload 2 else return 0

theorem requestedSlot_eq (frame : CoraFrame) :
    requestedSlot frame = .ok (frame.payload.getD 2 0) := by
  rw [requestedSlot]
  split
  · next h => rw [index_eq_getD 0 h]
  · next h =>
    rw [List.getD_eq_getElem?_getD, List.getElem?_eq_none (by omega)]
    rfl

/-! ### Reports -/

/-- Device info (0x80). -/
def buildDeviceInfoPayload (vendorId productId : UInt16) (out : List UInt8) :
    Except Panic (Except ProtocolError ℕ × List UInt8) :=
  if out.length < 16 then return (.error .bufferTooSmall, out)
  else do
    let out ← store out 0 (List.replicate 16 0)
    let out ← store out 0 [0x03]
    let out ← store out 1 [0x80]
    let out ← store out 12 (leBytes 2 vendorId.toNat)
    let out ← store out 14 (leBytes 2 productId.toNat)
    return (.ok 16, out)

/-- Firmware version (0x83). -/
def buildFirmwareVersionPayload (version : String) (out : List UInt8) :
    Except Panic (Except ProtocolError ℕ × List UInt8) :=
  if out.length < 16 then return (.error .bufferTooSmall, out)
  else do
    let out ← store out 0 (List.replicate 16 0)
    let out ← store out 0 [0x03]
    let out ← store out 1 [0x83]
    let verBytes := asBytes version
    let copyLen := min verBytes.length 8
    let out ← store out 8 (← slice verBytes 0 copyLen)
    return (.ok 16, out)

/-- Serial number (0x84). -/
def buildSerialNumberPayload (serial : String) (out : List UInt8) :
    Except Panic (Except ProtocolError ℕ × List UInt8) :=
  let serialBytes := asBytes serial
  let length := min serialBytes.length 32
  let totalLen := 4 + length
  if out.length < totalLen then return (.error .bufferTooSmall, out)
  else do
    let out ← store out 0 (List.replicate totalLen 0)
    let out ← store out 0 [0x03]
    let out ← store out 1 [0x84]
    let out ← store out 2 [0x00]
    let out ← store out 3 [UInt8.ofNat length]
    let out ← store out 4 (← slice serialBytes 0 length)
    return (.ok totalLen, out)

/-- MAC address (0x85). -/
def buildMacAddressPayload (mac : Block 6) (out : List UInt8) :
    Except Panic (Except ProtocolError ℕ × List UInt8) :=
  if out.length < 10 then return (.error .bufferTooSmall, out)
  else do
    let out ← store out 0 (List.replicate 10 0)
    let out ← store out 0 [0x03]
    let out ← store out 1 [0x85]
    let out ← store out 2 [0x00]
    let out ← store out 3 [0x00]
    let out ← store out 4 mac.val
    return (.ok 10, out)

/-- The bytes of a device info report. -/
def deviceInfoReport (vendorId productId : UInt16) : List UInt8 :=
  [0x03, 0x80] ++ List.replicate 10 0 ++ leBytes 2 vendorId.toNat ++ leBytes 2 productId.toNat

/-- The bytes of a firmware version report. -/
def firmwareVersionReport (version : String) : List UInt8 :=
  let copyLen := min (asBytes version).length 8
  [0x03, 0x83] ++ List.replicate 6 0 ++ (asBytes version).take copyLen ++
    List.replicate (8 - copyLen) 0

/-- The bytes of a serial number report. -/
def serialNumberReport (serial : String) : List UInt8 :=
  let length := min (asBytes serial).length 32
  [0x03, 0x84, 0x00, UInt8.ofNat length] ++ (asBytes serial).take length

/-- The bytes of a MAC address report. -/
def macAddressReport (mac : Block 6) : List UInt8 := [0x03, 0x85, 0x00, 0x00] ++ mac.val

theorem firmwareVersionReport_length (version : String) :
    (firmwareVersionReport version).length = 16 := by
  simp only [firmwareVersionReport, List.length_append, List.length_cons, List.length_nil,
    List.length_replicate, List.length_take]
  omega

theorem serialNumberReport_length_le (serial : String) :
    (serialNumberReport serial).length ≤ 36 := by
  simp only [serialNumberReport, List.length_append, List.length_cons, List.length_nil,
    List.length_take]
  omega

theorem macAddressReport_length (mac : Block 6) : (macAddressReport mac).length = 10 := by
  rw [macAddressReport, List.length_append, mac.property]
  rfl

theorem buildDeviceInfoPayload_eq (vendorId productId : UInt16) {out : List UInt8}
    (h : 16 ≤ out.length) :
    buildDeviceInfoPayload vendorId productId out =
      .ok (.ok 16, deviceInfoReport vendorId productId ++ out.drop 16) := by
  rw [buildDeviceInfoPayload, if_neg (by omega), store_zero (by simpa using h)]
  rfl

theorem buildFirmwareVersionPayload_eq (version : String) {out : List UInt8}
    (h : 16 ≤ out.length) :
    buildFirmwareVersionPayload version out =
      .ok (.ok 16, firmwareVersionReport version ++ out.drop 16) := by
  have hlen : ((asBytes version).take (min (asBytes version).length 8)).length =
      min (asBytes version).length 8 := List.length_take_of_le (Nat.min_le_left _ _)
  rw [buildFirmwareVersionPayload, if_neg (by omega), store_zero (by simpa using h)]
  show ((slice (asBytes version) 0 (min (asBytes version).length 8)).bind fun src =>
    (store ([0x03, 0x83, 0, 0, 0, 0, 0, 0] ++ List.replicate 8 0 ++ out.drop 16) 8 src).bind
      fun out => .ok (Except.ok 16, out)) = _
  rw [slice_zero (Nat.min_le_left _ _), Except.bind, store_padding (by rfl) (by omega), hlen]
  rfl

theorem buildSerialNumberPayload_eq (serial : String) {out : List UInt8} (h : 36 ≤ out.length) :
    buildSerialNumberPayload serial out =
      .ok (.ok (serialNumberReport serial).length,
        serialNumberReport serial ++ out.drop (serialNumberReport serial).length) := by
  have hlen : ((asBytes serial).take (min (asBytes serial).length 32)).length =
      min (asBytes serial).length 32 := List.length_take_of_le (Nat.min_le_left _ _)
  have hreport : (serialNumberReport serial).length = min (asBytes serial).length 32 + 4 := by
    rw [serialNumberReport, List.length_append, hlen, Nat.add_comm]
    rfl
  have hfits : (List.replicate (min (asBytes serial).length 32 + 4) (0 : UInt8)).length ≤
      out.length := by
    rw [List.length_replicate]
    omega
  rw [buildSerialNumberPayload, Nat.add_comm, if_neg (by omega), store_zero hfits,
    List.length_replicate]
  show ((slice (asBytes serial) 0 (min (asBytes serial).length 32)).bind fun src =>
    (store ([0x03, 0x84, 0x00, UInt8.ofNat (min (asBytes serial).length 32)] ++
        List.replicate (min (asBytes serial).length 32) 0 ++
          out.drop (min (asBytes serial).length 32 + 4)) 4 src).bind
      fun out => .ok (Except.ok (min (asBytes serial).length 32 + 4), out)) = _
  rw [slice_zero (Nat.min_le_left _ _), Except.bind, store_padding (by rfl) hlen.le, hlen,
    Nat.sub_self, List.replicate_zero, List.append_nil, hreport]
  rfl

theorem buildMacAddressPayload_eq (mac : Block 6) {out : List UInt8} (h : 10 ≤ out.length) :
    buildMacAddressPayload mac out =
      .ok (.ok 10, macAddressReport mac ++ out.drop 10) := by
  rw [buildMacAddressPayload, if_neg (by omega), store_zero (by simpa using h)]
  show ((store ([0x03, 0x85, 0x00, 0x00] ++ List.replicate 6 0 ++ out.drop 10) 4 mac.val).bind
    fun out => .ok (Except.ok 10, out)) = _
  rw [store_padding (by rfl) mac.property.le, mac.property, Nat.sub_self, List.replicate_zero,
    List.append_nil]
  rfl

/-- Wrap a payload into a response frame. -/
def buildCoraResponseFrame (messageId : UInt32) (payload out : List UInt8) :
    Except ProtocolError ℕ × List UInt8 :=
  let header := CoraHeader.new CoraFlags.result .getReport messageId payload.length
  (CoraFrame.new header payload).encode out

end OpenNetDeck
