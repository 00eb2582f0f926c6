import OpenNetDeck.Lib.Output
import OpenNetDeck.Server.Usb.Endpoints

/-!
# Images on their way to a deck

From the bytes of a client to the OUT endpoint: the client's frames arrive in any pieces,
its connection calls `write_out` for those that are images, and the calls of all
connections take turns under the write lock.

## Main definitions

- `Endpoint.images` — the image that a frame is for the deck
- `UsbRequest.submitted` — what a request writes to the OUT endpoint

## Main results

- `images_reach_deck` — the deck gets a client's images unchanged and in their order
-/

namespace OpenNetDeck

open Bytes Transition SharedDeck

/-- What a request writes to the OUT endpoint. -/
def UsbRequest.submitted : UsbRequest → List (List UInt8)
  | submit _ data => [data]
  | _ => []

/-- An answer by which no image is lost. -/
def Opened : Exchange UsbRequest.Answer → Prop
  | ⟨.openEndpoint _, .error _⟩ => False
  | _ => True

/-- What a call is to write. -/
def UsbCall.images : UsbCall → List (List UInt8)
  | writeOut (first :: data) => [first :: data]
  | _ => []

namespace UsbCall

theorem emits_transferOut (addr : UInt8) (data : List UInt8) :
    (transferOut addr data).Emits UsbRequest.submitted Opened [data] := by
  refine ⟨[], rfl, fun completion => .inl ⟨[], rfl, fun _ => .inl ?_⟩⟩
  cases completion with
  | ok _ => rfl
  | error _ => rfl

/-- A call writes what it is to write, unless the endpoint does not open. -/
theorem emits_program {addr : UInt8} {call : UsbCall}
    {p : UsbProgram call.Outcome} (h : call.program (some addr) = some p) :
    p.Emits UsbRequest.submitted Opened call.images := by
  cases call with
  | getFeatureReport reportId length =>
    cases h
    refine ⟨[], rfl, fun r => .inl ?_⟩
    cases r with
    | ok _ => rfl
    | error _ => rfl
  | setFeatureReport data =>
    cases data with
    | nil => cases h
    | cons reportId data =>
      cases h
      rw [ControlOut.program]
      split
      · refine ⟨[], rfl, fun r => .inl ?_⟩
        cases r with
        | ok _ => rfl
        | error _ => rfl
      · rfl
  | writeOut data =>
    cases data with
    | nil => cases h
    | cons first data =>
      cases h
      refine ⟨[first :: data], rfl, fun r => .inl ?_⟩
      cases r with
      | ok _ => exact emits_transferOut addr _
      | error _ =>
        refine ⟨[first :: data], rfl, fun r => ?_⟩
        cases r with
        | ok _ => exact .inl (emits_transferOut addr _)
        -- the second failure costs the image
        | error _ => exact .inr ⟨id, rfl⟩

theorem images_of_none {epOutAddr : Option UInt8} {call : UsbCall}
    (h : call.program epOutAddr = none) : call.images = [] := by
  cases call with
  | getFeatureReport reportId length => rfl
  | setFeatureReport data => rfl
  | writeOut data =>
    cases data with
    | nil => rfl
    | cons first data => cases epOutAddr <;> cases h

end UsbCall

/-! ### Images among the frames -/

namespace Endpoint

/-- A frame that is taken for an image. -/
def WritesImage (self : Endpoint) (frame : CoraFrame) : Prop :=
  ¬ frame.IsProbe ∧ match self with
  | .primary _ handler =>
    handler.mode = .direct ∧ handler.usbDevice.isSome = true ∧ frame.IsImageWrite
  | .secondary _ =>
    ¬ frame.IsAck ∧ ¬ SecondaryConnection.IsFeatureQuery frame ∧ frame.header.hidOp = .write

instance (self : Endpoint) : DecidablePred self.WritesImage := fun frame =>
  match self with
  | .primary _ handler =>
    inferInstanceAs (Decidable (¬ frame.IsProbe ∧ handler.mode = .direct ∧
      handler.usbDevice.isSome = true ∧ frame.IsImageWrite))
  | .secondary _ =>
    inferInstanceAs (Decidable (¬ frame.IsProbe ∧ ¬ frame.IsAck ∧
      ¬ SecondaryConnection.IsFeatureQuery frame ∧ frame.header.hidOp = .write))

/-- The image that a frame is for the deck. -/
def images (self : Endpoint) (frame : CoraFrame) : List (List UInt8) :=
  if self.WritesImage frame ∧ frame.payload ≠ [] then [frame.payload] else []

/-- The call that writes a payload. -/
theorem flatMap_writeOut (payload : List UInt8) :
    [UsbCall.writeOut payload].flatMap UsbCall.images =
      if payload ≠ [] then [payload] else [] := by
  cases payload with
  | nil => rfl
  | cons first data => rfl

theorem queryCalls_images (handler : FrameHandler) (cmd : PrimaryFeatureCommand) :
    (handler.queryCalls cmd).flatMap UsbCall.images = [] := by
  cases cmd with
  | other opcode =>
    rw [FrameHandler.queryCalls]
    split
    · rfl
    · cases handler.directDevice <;> rfl
  | _ => rfl

theorem told_images (self : Endpoint) (frame : CoraFrame) :
    (self.told frame).flatMap UsbCall.images = self.images frame := by
  rw [told.eq_def, images]
  by_cases hprobe : frame.IsProbe
  · rw [if_pos hprobe, if_neg fun h => h.1.1 hprobe]
    rfl
  rw [if_neg hprobe]
  cases self with
  | primary connectionId handler =>
    dsimp only
    by_cases hforwards : handler.Forwards frame
    · rw [if_pos hforwards]
      cases hdevice : handler.usbDevice with
      | none =>
        rw [if_neg fun h => by simp [WritesImage, hdevice] at h]
        rfl
      | some device =>
        obtain ⟨hmode, hop | hwrite⟩ := hforwards
        · rw [forwardCall_of_report hop,
            if_neg fun h => by simp [WritesImage, CoraFrame.IsImageWrite, hop] at h]
          rfl
        · have hwrites : WritesImage (.primary connectionId handler) frame :=
            ⟨hprobe, hmode, by rw [hdevice]; rfl, hwrite⟩
          rw [forwardCall_of_write hwrite.1]
          simp only [hwrites, true_and]
          exact flatMap_writeOut frame.payload
    -- what is not forwarded is no image, and a query writes none
    · rw [if_neg hforwards, if_neg fun h => hforwards ⟨h.1.2.1, .inr h.1.2.2.2⟩,
        List.flatMap_assoc]
      exact List.flatMap_eq_nil_iff.mpr fun b _ => queryCalls_images handler _
  | secondary device =>
    dsimp only
    by_cases hack : frame.IsAck
    · rw [if_pos hack, if_neg fun h => h.1.2.1 hack]
      rfl
    rw [if_neg hack]
    by_cases hquery : SecondaryConnection.IsFeatureQuery frame
    · rw [if_pos hquery, if_neg fun h => h.1.2.2.1 hquery, List.flatMap_assoc]
      refine List.flatMap_eq_nil_iff.mpr fun b _ => ?_
      split <;> rfl
    rw [if_neg hquery]
    cases hop : frame.header.hidOp with
    | getReport => exact absurd (.inl hop) hquery
    | sendReport =>
      rw [if_pos rfl, if_neg fun h => by simp [WritesImage, hop] at h]
      rfl
    | write =>
      have hwrites : WritesImage (.secondary device) frame := ⟨hprobe, hack, hquery, hop⟩
      rw [if_neg (by simp), flatMap_writeOut]
      simp only [hwrites, true_and]

end Endpoint

/-- **Images reach the deck**: however a client's frames are cut on their way and however the
connections of a deck get in each other's way, what a connection has written to the OUT
endpoint is among the images of its client, unchanged, in their order and none of them
twice. If the endpoint has always opened, it is the first of them; and when everything has
arrived, is handled and has returned, it is all of them. -/
theorem images_reach_deck {ι : Type*} [DecidableEq ι] (endpoints : ι → Endpoint)
    (descriptors : List (List EndpointDescriptor)) (actions : List (SharedDeck.Action ι))
    (s : SharedDeck ι)
    (hrun : run (SharedDeck.step endpoints (ClaimedEndpoints.ofDescriptors descriptors).epOutAddr)
      .start actions = some s)
    (i : ι) (frames : List WireFrame) (arrivals : List (List UInt8))
    (harrivals : ∀ r ∈ arrivals, r ≠ [])
    (harrived : arrivals.flatten <+: frames.flatMap WireFrame.toVec)
    (hheard : s.heard i <+: (receiver.run [] arrivals).1) :
    (s.lock.output UsbRequest.submitted i).Sublist
      ((frames.map WireFrame.received).flatMap (endpoints i).images) ∧
    ((∀ x, (i, .answered x) ∈ s.lock.trace → Opened x) →
      s.lock.output UsbRequest.submitted i <+:
        (frames.map WireFrame.received).flatMap (endpoints i).images ∧
      (arrivals.flatten = frames.flatMap WireFrame.toVec →
        s.heard i = (receiver.run [] arrivals).1 → s.lock.todo i = [] →
        (∀ holder, s.lock.holder = some holder → holder.task ≠ i) →
        s.lock.output UsbRequest.submitted i =
          (frames.map WireFrame.received).flatMap (endpoints i).images)) := by
  rw [ClaimedEndpoints.ofDescriptors_eq] at hrun
  have h := inTurn_run hrun
  have hmade : (s.lock.made i).flatMap UsbCall.images =
      (s.heard i).flatMap (endpoints i).images := by
    rw [h.made i, List.flatMap_assoc]
    exact List.flatMap_congr fun frame _ => (endpoints i).told_images frame
  have hprogram : ∀ (call : UsbCall) p,
      call.program (some (((lastEndpoint .output descriptors).map (·.address)).getD 0x02)) =
        some p → p.Emits UsbRequest.submitted Opened call.images :=
    fun _ _ => UsbCall.emits_program
  have hnone : ∀ call : UsbCall,
      call.program (some (((lastEndpoint .output descriptors).map (·.address)).getD 0x02)) =
        none → call.images = [] := fun _ => UsbCall.images_of_none
  have hfront : (s.heard i).flatMap (endpoints i).images <+:
      (frames.map WireFrame.received).flatMap (endpoints i).images :=
    (hheard.trans (receiver_run_isPrefix harrivals harrived)).flatMap _
  refine ⟨?_, fun hopened => ⟨?_, fun hstream hall htodo hholder => ?_⟩⟩
  · have hsublist := h.serial.output_sublist hprogram hnone i
    rw [hmade] at hsublist
    exact hsublist.trans hfront.sublist
  · have houtput := h.serial.output_isPrefix hprogram hnone i hopened
    rw [hmade] at houtput
    exact houtput.trans hfront
  · rw [h.serial.output_eq hprogram hnone i hopened htodo hholder, hmade, hall,
      receiver_run_frames frames arrivals harrivals hstream]

/-- An image whose endpoint opens at the second try. -/
theorem images_reach_deck_retry :
    ∃ s, run (SharedDeck.step
        (fun _ : Unit => .secondary ⟨0, vendorIdElgato, 0x0080, "A", none⟩)
        (ClaimedEndpoints.ofDescriptors []).epOutAddr) .start
        [.frame () ⟨CoraHeader.new CoraFlags.none .write 0 2, [0x02, 0x07]⟩, .usb (.lock ()),
          .usb .ask, .usb (.answer ⟨.openEndpoint 0x02, .error 5⟩), .usb .ask,
          .usb (.answer ⟨.openEndpoint 0x02, .ok ()⟩), .usb .ask] = some s ∧
      s.lock.output UsbRequest.submitted () = [[0x02, 0x07]] ∧
      (s.lock.output UsbRequest.submitted ()).Sublist [[0x02, 0x07]] := by
  let image : WireFrame :=
    ⟨⟨CoraHeader.new CoraFlags.none .write 0 2, [0x02, 0x07]⟩, by decide⟩
  have hcheck : (run (SharedDeck.step
      (fun _ : Unit => .secondary ⟨0, vendorIdElgato, 0x0080, "A", none⟩)
      (ClaimedEndpoints.ofDescriptors []).epOutAddr) .start
      [.frame () image.val, .usb (.lock ()), .usb .ask,
        .usb (.answer ⟨.openEndpoint 0x02, .error 5⟩), .usb .ask,
        .usb (.answer ⟨.openEndpoint 0x02, .ok ()⟩), .usb .ask]).map (fun s =>
      (s.heard (), s.lock.output UsbRequest.submitted ())) =
        some ([image.val], [[0x02, 0x07]]) := by
    decide +kernel
  obtain ⟨s, hrun, hs⟩ := Option.map_eq_some_iff.mp hcheck
  obtain ⟨hheard, houtput⟩ := Prod.mk.inj hs
  have hreceive : (receiver.run [] [image.toVec]).1 = [image.val] := by
    rw [receiver_run_frames [image] _ (by decide) (by decide)]
    rfl
  obtain ⟨hsublist, -⟩ := images_reach_deck _ [] _ s hrun () [image] [image.toVec] (by decide)
    ⟨[], by decide⟩ (by rw [hheard, hreceive])
  exact ⟨s, hrun, houtput, hsublist⟩

end OpenNetDeck
