import OpenNetDeck.Protocol.Device2Info
import OpenNetDeck.Server.Dock

/-!
# Slots that are set by hand

`DockState::set_device_for_slot`, which records the serial number that it reads off a
child. The constructor of the child cuts a serial number at 31 bytes, wherever its
characters end.

## Main definitions

- `DockState.setDeviceForSlot`

## Main results

- `serial_readable_iff` — the serial number is read back exactly if the cut splits no
  character of it
-/

namespace OpenNetDeck

open Bytes Checked ChildDeviceInfo

namespace DockState

/-- Put a child into a slot, or clear the slot; a serial number that is no string is
recorded as the empty one. -/
def setDeviceForSlot (self : DockState) (slotIndex : UInt8) (child : Option ChildDeviceInfo)
    (usbDev : Option StreamDeckUsbHandle) : Except Panic DockState :=
  if h : slotIndex.toNat < maxChildSlots then
    let idx : Slot := ⟨slotIndex.toNat, h⟩
    match child with
    | some c => do
      let serial := match ← c.serialAsStr with
        | .ok s => s
        | .error _ => ""
      let entry : SlotEntry :=
        { slotIndex, port := c.tcpPort, serial, childInfo := c, usbDevice := usbDev }
      return { self with
        slots := Function.update self.slots idx (some entry)
        hotplug := self.hotplug ++ [c] }
    | none =>
      return { self with
        slots := Function.update self.slots idx none
        hotplug := self.hotplug ++ [.disconnected slotIndex] }
  else return self

/-- The entry of a child whose serial number is read. -/
theorem setDeviceForSlot_some (self : DockState) (i : Slot) {c : ChildDeviceInfo}
    (usbDev : Option StreamDeckUsbHandle) {r : Except ProtocolError String}
    (hserial : c.serialAsStr = .ok r) :
    self.setDeviceForSlot i.asU8 (some c) usbDev = .ok { self with
      slots := Function.update self.slots i (some
        { slotIndex := i.asU8
          port := c.tcpPort
          serial := r.toOption.getD ""
          childInfo := c
          usbDevice := usbDev })
      hotplug := self.hotplug ++ [c] } := by
  rw [setDeviceForSlot, dif_pos i.asU8_lt]
  simp only [hserial, bind, Except.bind, Slot.mk_asU8]
  cases r with
  | ok s => rfl
  | error e => rfl

end DockState

/-! ### Serial numbers that are cut -/

namespace ChildDeviceInfo

/-- The accessor returns a prefix of the serial number. -/
def ReadsSerial (child : ChildDeviceInfo) (serial : String) : Prop :=
  ∃ s, child.serialAsStr = .ok (.ok s) ∧ asBytes s <+: asBytes serial

/-- The child holds the first 31 bytes of the serial number. -/
structure HoldsSerial (child : ChildDeviceInfo) (serial : String) : Prop where
  len_le : child.serialLen ≤ 32
  bytes : child.serialNumber.val.take child.serialLen = (asBytes serial).take 31

section

variable {child : ChildDeviceInfo} {serial : String}

theorem HoldsSerial.reads (h : child.HoldsSerial serial) (hcut : Utf8.CutsNoChar serial 31) :
    ∃ s, child.serialAsStr = .ok (.ok s) ∧ asBytes s = (asBytes serial).take 31 := by
  obtain ⟨s, hs⟩ := (Utf8.exists_fromUtf8_take_iff serial 31).mpr hcut
  have hbytes : asBytes s = (asBytes serial).take 31 := Utf8.fromUtf8_eq_some.mp hs
  exact ⟨s, (serialAsStr_eq_ok_iff h.len_le).mpr (hbytes.trans h.bytes.symm), hbytes⟩

/-- A serial number is read back exactly if the cut splits no character. -/
theorem HoldsSerial.readsSerial_iff (h : child.HoldsSerial serial) :
    child.ReadsSerial serial ↔ Utf8.CutsNoChar serial 31 := by
  constructor
  · rintro ⟨s, hs, -⟩
    have hbytes := (serialAsStr_eq_ok_iff h.len_le).mp hs
    rw [h.bytes] at hbytes
    exact (Utf8.exists_fromUtf8_take_iff serial 31).mp ⟨s, Utf8.fromUtf8_eq_some.mpr hbytes⟩
  · intro hcut
    obtain ⟨s, hs, hbytes⟩ := h.reads hcut
    refine ⟨s, hs, ?_⟩
    rw [hbytes]
    exact List.take_prefix 31 _

end

variable (slotIndex : UInt8) (vendorId productId : UInt16) (productName serial : String)
  (tcpPort : UInt16)

theorem holdsSerial_connected :
    (connected slotIndex vendorId productId productName serial tcpPort).HoldsSerial serial where
  len_le := (Nat.min_le_right _ 31).trans (by decide)
  bytes := take_stored (asBytes serial)

/-- A serial number without NUL arrives with the same bytes. -/
theorem holdsSerial_received (hnul : 0 ∉ asBytes serial) :
    (connected slotIndex vendorId productId productName serial tcpPort).received.HoldsSerial
      serial := by
  have hfree : 0 ∉ (asBytes serial).take 31 := fun h => hnul (List.mem_of_mem_take h)
  have hlen : ((asBytes serial).take 31).length ≤ 32 :=
    (List.length_take_le 31 _).trans (by decide)
  rw [received_connected, untilNul_of_notMem hfree]
  refine ⟨hlen, ?_⟩
  show (Block.ofList 32 ((asBytes serial).take 31)).val.take ((asBytes serial).take 31).length = _
  rw [Block.take_ofList hlen le_rfl, List.take_length]

end ChildDeviceInfo

/-- **Serial numbers that stay readable**: the accessor returns a prefix of the serial
number, on the child that was made and on the one that arrives, and a slot that is set by
hand records it, exactly if the cut at 31 bytes splits no character. -/
theorem serial_readable_iff (slotIndex requestedSlot : UInt8) (vendorId productId tcpPort : UInt16)
    (productName serial : String) (isPush : Bool) (dock : DockState)
    (usbDev : Option StreamDeckUsbHandle) :
    let child := connected slotIndex vendorId productId productName serial tcpPort
    (child.ReadsSerial serial ∧
        (0 ∉ asBytes serial →
          ∃ c, parse (child.buildPayload isPush requestedSlot).val = .ok (some c) ∧
            c.ReadsSerial serial) ∧
        ∀ i : Slot, ∃ dock' entry, dock.setDeviceForSlot i.asU8 (some child) usbDev = .ok dock' ∧
          dock'.slots i = some entry ∧ asBytes entry.serial = (asBytes serial).take 31) ↔
      Utf8.CutsNoChar serial 31 := by
  intro child
  have hchild := holdsSerial_connected slotIndex vendorId productId productName serial tcpPort
  constructor
  · rintro ⟨hreads, -⟩
    exact hchild.readsSerial_iff.mp hreads
  · intro hcut
    refine ⟨hchild.readsSerial_iff.mpr hcut, ?_, ?_⟩
    · intro hnul
      have harrived := holdsSerial_received slotIndex vendorId productId productName serial
        tcpPort hnul
      exact ⟨child.received, parse_buildPayload rfl isPush requestedSlot,
        harrived.readsSerial_iff.mpr hcut⟩
    · intro i
      obtain ⟨s, hs, hbytes⟩ := hchild.reads hcut
      exact ⟨_, _, dock.setDeviceForSlot_some i usbDev hs, Function.update_self i _ _, hbytes⟩

/-- Thirty letters and a character of two bytes. -/
def straddling : String := "AAAAAAAAAAAAAAAAAAAAAAAAAAAAAAé"

/-- The cut splits the last character: the accessor fails, and the slot records the
empty serial number. -/
theorem serial_unreadable :
    (connected 0 0x0fd9 0x0080 "Stream Deck" straddling 5344).serialAsStr =
        .ok (.error .invalidStringEncoding) ∧
      ∃ dock', (DockState.new .default).setDeviceForSlot 0
          (some (connected 0 0x0fd9 0x0080 "Stream Deck" straddling 5344)) none = .ok dock' ∧
        (dock'.slots ⟨0, maxChildSlots_pos⟩).map (·.serial) = some "" := by
  have hchild := holdsSerial_connected 0 0x0fd9 0x0080 "Stream Deck" straddling 5344
  have hsplit : ¬ Utf8.CutsNoChar straddling 31 := by decide +kernel
  have herror := serialAsStr_eq_error hchild.len_le fun s hs =>
    hsplit ((Utf8.exists_fromUtf8_take_iff straddling 31).mp
      ⟨s, Utf8.fromUtf8_eq_some.mpr (hs.trans hchild.bytes)⟩)
  have hset := (DockState.new .default).setDeviceForSlot_some ⟨0, maxChildSlots_pos⟩ none herror
  refine ⟨herror, _, hset, ?_⟩
  simp only [Function.update_self]
  rfl

end OpenNetDeck
