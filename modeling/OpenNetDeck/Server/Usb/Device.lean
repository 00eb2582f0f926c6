import OpenNetDeck.Lib.Checked
import OpenNetDeck.Protocol.Models

/-!
# USB devices

What the bus lists of a device, the handle of a claimed one, and the transfers
that the methods of the handle make. What a transfer returns is up to the device;
a control transfer to it has 16 bits for the length of its data, and `nusb`
panics when the data is longer.
-/

namespace OpenNetDeck

open Checked

/-- What `nusb::list_devices` tells of a device. `id` tells two devices apart
that report the same ids and serial number. -/
structure DeviceInfo where
  id : ℕ
  vendorId : UInt16
  productId : UInt16
  serialNumber : Option String
  deriving DecidableEq, Repr

/-- The serial number under which a device is known. -/
def DeviceInfo.serial (dev : DeviceInfo) : String := dev.serialNumber.getD "UNKNOWN_SERIAL"

/-- Handle to a claimed device; `id` stands for its USB interface. -/
structure StreamDeckUsbHandle where
  id : ℕ
  vendorId : UInt16
  productId : UInt16
  serialNumber : String
  model : Option StreamDeckModel
  deriving DecidableEq, Repr

/-- The handle that `open_from_info` returns when the device can be claimed. -/
def StreamDeckUsbHandle.openFromInfo (dev : DeviceInfo) : StreamDeckUsbHandle where
  id := dev.id
  vendorId := dev.vendorId
  productId := dev.productId
  serialNumber := dev.serial
  model := matchStreamdeckModel dev.vendorId dev.productId

/-! ### Transfers -/

inductive TransferError where
  | disconnected
  | other (code : ℕ)
  deriving DecidableEq, Repr

inductive UsbDeviceError where
  | device (code : ℕ)
  | transfer (error : TransferError)
  | io (code : ℕ)
  | notConnected
  deriving DecidableEq, Repr

/-- A control transfer of class requests to the interface. -/
structure ControlIn where
  request : UInt8
  value : UInt16
  index : UInt16
  length : UInt16
  deriving DecidableEq, Repr

structure ControlOut where
  request : UInt8
  value : UInt16
  index : UInt16
  data : List UInt8
  deriving DecidableEq, Repr

/-- A claimed interface: its OUT endpoint and the outcome of each transfer. -/
structure UsbInterface where
  epOutAddr : Option UInt8
  controlIn : ControlIn → Except TransferError (List UInt8)
  setupOut : ControlOut → Except TransferError Unit
  writeEndpoint : UInt8 → List UInt8 → Except UsbDeviceError Unit

namespace UsbInterface

/-- `control_out` of `nusb`: data that is too long for a setup packet is not
transferred, and no error is returned for it. -/
def controlOut (self : UsbInterface) (control : ControlOut) :
    Except Panic (Except TransferError Unit) :=
  if control.data.length < 2 ^ 16 then .ok (self.setupOut control)
  else .error .lengthOverflow

/-- `StreamDeckUsbHandle::get_feature_report` -/
def getFeatureReport (self : UsbInterface) (reportId : UInt8) (length : ℕ) :
    Except UsbDeviceError (List UInt8) :=
  let control : ControlIn :=
    { request := 0x01
      value := ((0x03 : UInt16) <<< 8) ||| reportId.toUInt16
      index := 0
      length := UInt16.ofNat (max length 32) }
  match self.controlIn control with
  | .ok bytes => .ok bytes
  | .error e => .error (.transfer e)

/-- `StreamDeckUsbHandle::set_feature_report` -/
def setFeatureReport (self : UsbInterface) (data : List UInt8) :
    Except Panic (Except UsbDeviceError Unit) :=
  match data with
  | [] => return .ok ()
  | reportId :: _ => do
    let control : ControlOut :=
      { request := 0x09, value := ((0x03 : UInt16) <<< 8) ||| reportId.toUInt16, index := 0, data }
    match ← self.controlOut control with
    | .ok _ => return .ok ()
    | .error e => return .error (.transfer e)

/-- `StreamDeckUsbHandle::write_out` -/
def writeOut (self : UsbInterface) (data : List UInt8) :
    Except Panic (Except UsbDeviceError Unit) :=
  match data with
  | [] => return .ok ()
  | first :: _ =>
    match self.epOutAddr with
    | some epOutAddr => return self.writeEndpoint epOutAddr data
    | none => do
      let control : ControlOut :=
        { request := 0x09, value := ((0x02 : UInt16) <<< 8) ||| first.toUInt16, index := 0, data }
      match ← self.controlOut control with
      | .ok _ => return .ok ()
      | .error e => return .error (.transfer e)

/-- No transfer returns more bytes than it was asked for. -/
def Bounded (self : UsbInterface) : Prop :=
  ∀ control bytes, self.controlIn control = .ok bytes → bytes.length ≤ control.length.toNat

theorem getFeatureReport_length {usb : UsbInterface} (h : usb.Bounded) {reportId : UInt8}
    {length : ℕ} {bytes : List UInt8} (hlength : length < 2 ^ 16)
    (hread : usb.getFeatureReport reportId length = .ok bytes) :
    bytes.length ≤ max length 32 := by
  rw [getFeatureReport] at hread
  split at hread
  · next hok =>
    cases hread
    have hle := h _ _ hok
    rwa [UInt16.toNat_ofNat_of_lt' (by show max length 32 < 2 ^ 16; omega)] at hle
  · cases hread

end UsbInterface

/-- A call of a method of the handle. -/
inductive UsbCall where
  | getFeatureReport (reportId : UInt8) (length : ℕ)
  | setFeatureReport (data : List UInt8)
  | writeOut (data : List UInt8)
  deriving DecidableEq, Repr

/-! ### Calls that panic -/

/-- A control transfer of more than 65535 bytes. -/
def UsbCall.Overlong (epOutAddr : Option UInt8) : UsbCall → Prop
  | getFeatureReport _ _ => False
  | setFeatureReport data => 2 ^ 16 ≤ data.length
  | writeOut data => epOutAddr = none ∧ 2 ^ 16 ≤ data.length

instance (epOutAddr : Option UInt8) : DecidablePred (UsbCall.Overlong epOutAddr)
  | .getFeatureReport _ _ => inferInstanceAs (Decidable False)
  | .setFeatureReport data => inferInstanceAs (Decidable (2 ^ 16 ≤ data.length))
  | .writeOut data => inferInstanceAs (Decidable (epOutAddr = none ∧ 2 ^ 16 ≤ data.length))

namespace UsbInterface

variable (self : UsbInterface) (data : List UInt8)

theorem controlOut_of_lt (control : ControlOut) (h : control.data.length < 2 ^ 16) :
    self.controlOut control = .ok (self.setupOut control) := by
  rw [controlOut, if_pos h]

theorem controlOut_of_le (control : ControlOut) (h : 2 ^ 16 ≤ control.data.length) :
    self.controlOut control = .error .lengthOverflow := by
  rw [controlOut, if_neg (Nat.not_lt.mpr h)]

/-- Whether a report is sent or fails, there is an outcome. -/
theorem setFeatureReport_ok (h : ¬ UsbCall.Overlong self.epOutAddr (.setFeatureReport data)) :
    ∃ outcome, self.setFeatureReport data = .ok outcome := by
  cases data with
  | nil => exact ⟨_, rfl⟩
  | cons reportId rest =>
    simp only [setFeatureReport, bind, Except.bind,
      self.controlOut_of_lt ⟨_, _, _, reportId :: rest⟩ (Nat.lt_of_not_le h)]
    split <;> exact ⟨_, rfl⟩

theorem setFeatureReport_overlong (h : UsbCall.Overlong self.epOutAddr (.setFeatureReport data)) :
    self.setFeatureReport data = .error .lengthOverflow := by
  cases data with
  | nil => exact absurd (show 2 ^ 16 ≤ 0 from h) (by decide)
  | cons reportId rest =>
    simp only [setFeatureReport, bind, Except.bind,
      self.controlOut_of_le ⟨_, _, _, reportId :: rest⟩ h]

theorem writeOut_ok (h : ¬ UsbCall.Overlong self.epOutAddr (.writeOut data)) :
    ∃ outcome, self.writeOut data = .ok outcome := by
  cases data with
  | nil => exact ⟨_, rfl⟩
  | cons first rest =>
    rw [writeOut]
    cases haddr : self.epOutAddr with
    | some epOutAddr => exact ⟨_, rfl⟩
    | none =>
      have hlt : (first :: rest).length < 2 ^ 16 := Nat.lt_of_not_le fun hle => h ⟨haddr, hle⟩
      simp only [bind, Except.bind,
        self.controlOut_of_lt ⟨_, _, _, first :: rest⟩ hlt]
      split <;> exact ⟨_, rfl⟩

theorem writeOut_overlong (h : UsbCall.Overlong self.epOutAddr (.writeOut data)) :
    self.writeOut data = .error .lengthOverflow := by
  obtain ⟨haddr, hlong⟩ := h
  cases data with
  | nil => exact absurd hlong (by decide)
  | cons first rest =>
    simp only [writeOut, haddr, bind, Except.bind,
      self.controlOut_of_le ⟨_, _, _, first :: rest⟩ hlong]

end UsbInterface

end OpenNetDeck
