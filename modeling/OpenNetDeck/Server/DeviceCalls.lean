import OpenNetDeck.Server.RequestReply

/-!
# What the device is told

Which methods of the USB handle a connection calls for a frame, with which data. The
device may answer or fail as it likes, the dock may change between two frames, and the
frames may be cut on their way: the calls depend on the frames alone.

## Main definitions

- `Endpoint.told` — the calls for a frame
- `Endpoint.serve` — a connection handles frames, and the calls it makes

## Main results

- `device_told_in_order` — the calls are those for the frames, in their order, up to the
  first that panics
-/

namespace OpenNetDeck

open Bytes Checked Transition

/-- The call by which a query is passed on to the device. -/
def FrameHandler.queryCalls (self : FrameHandler) : PrimaryFeatureCommand → List UsbCall
  | .other opcode =>
    if opcode = 0x87 ∨ opcode = 0x8f ∨ opcode = 0x1a then []
    else (self.directDevice.map fun _ => UsbCall.getFeatureReport opcode 1024).toList
  | _ => []

namespace Endpoint

/-- The calls for a frame. -/
def told (self : Endpoint) (frame : CoraFrame) : List UsbCall :=
  if frame.IsProbe then []
  else match self with
  | .primary _ handler =>
    if handler.Forwards frame then
      (handler.usbDevice.map fun _ => forwardCall frame).toList
    else (commandByte frame.payload).toList.flatMap fun b => handler.queryCalls (.fromU8 b)
  | .secondary _ =>
    if frame.IsAck then []
    else if SecondaryConnection.IsFeatureQuery frame then
      -- the child and the ids are known without the device
      (commandByte frame.payload).toList.flatMap fun b =>
        if b = 0x1c ∨ b = 0x80 then []
        else [.getFeatureReport b (SecondaryConnection.paddedLen frame 32)]
    else if frame.header.hidOp = .sendReport then [.setFeatureReport frame.payload]
    else [.writeOut frame.payload]

/-- A frame by which the device is told more than fits in a transfer. -/
def Overlong (self : Endpoint) (usb : UsbInterface) (frame : CoraFrame) : Prop :=
  match self with
  | .primary _ handler => handler.Overlong usb frame
  | .secondary _ => SecondaryConnection.Overlong usb frame

/-- A frame, and the dock and the device at the time when it is handled. -/
structure Request where
  dock : DockState
  usb : { usb : UsbInterface // usb.Bounded }
  frame : CoraFrame

/-- Handle a frame; the calls that were made so far are kept. -/
def serveRequest (self : Endpoint × List UsbCall) (request : Request) :
    Except Panic (Endpoint × List UsbCall) := do
  let (effects, endpoint) ← self.1.handle request.dock request.usb request.frame
  return (endpoint, self.2 ++ effects.usb)

/-- Handle frames one after the other; a handler that panics ends the connection. -/
def serve (self : Endpoint) (requests : List Request) :
    Except Panic (Endpoint × List UsbCall) :=
  requests.foldlM serveRequest (self, [])

end Endpoint

namespace FrameHandler

variable (self : FrameHandler) (usb : UsbInterface) (frame : CoraFrame)

/-- The command with an opcode of its own is the only one that asks the device. -/
theorem answerOther_usb {opcode : UInt8} {rest : List UInt8} (hrest : rest.length = 1022)
    {a : Answer} (h : self.answerOther usb opcode (0x03 :: opcode :: rest) = .ok a) :
    a.usb = self.queryCalls (.other opcode) := by
  rw [queryCalls]
  rw [answerOther, store_cons_zero] at h
  by_cases hnetwork : opcode = 0x87
  · rw [if_pos hnetwork] at h
    obtain ⟨out, hout, -⟩ := self.networkReport_writes
      (show (0x03 :: opcode :: rest).length = 1024 by simp [hrest])
    rw [hout] at h
    cases h
    rw [if_pos (.inl hnetwork)]
  rw [if_neg hnetwork] at h
  by_cases hhardware : opcode = 0x8f
  · subst hhardware
    simp only [bind, Except.bind, store_cons_one] at h
    cases h
    rfl
  rw [if_neg hhardware] at h
  by_cases hpoll : opcode = 0x1a
  · subst hpoll
    simp only [bind, Except.bind, store_cons_one, if_pos] at h
    split at h <;> cases h <;> rfl
  rw [if_neg hpoll] at h
  rw [if_neg (by simp [hnetwork, hhardware, hpoll])]
  simp only [bind, Except.bind, store_cons_one] at h
  cases hdevice : self.directDevice with
  | none =>
    rw [hdevice] at h
    cases h
    rfl
  | some dev =>
    rw [hdevice] at h
    cases hread : usb.getFeatureReport opcode 1024 with
    | error e =>
      simp only [hread] at h
      cases h
      rfl
    | ok data =>
      obtain ⟨out, hout, -⟩ := copyReport_ok hrest data opcode
      simp only [hread, hout] at h
      cases h
      rfl

theorem answerCommand_usb {cmd : PrimaryFeatureCommand} {rest : List UInt8}
    (hrest : rest.length = 1022) {a : Answer}
    (h : self.answerCommand usb frame cmd (0x03 :: cmd.asU8 :: rest) = .ok a) :
    a.usb = self.queryCalls cmd := by
  have hsize : 36 ≤ (0x03 :: cmd.asU8 :: rest).length := by simp [hrest]
  cases cmd with
  | getDeviceInfo =>
    rw [answerCommand] at h
    cases hdevice : self.directDevice with
    | none =>
      simp only [hdevice, buildDeviceInfoPayload_eq _ _ (le_trans (by decide) hsize)] at h
      cases h
      rfl
    | some dev =>
      simp only [hdevice, buildDeviceInfoPayload_eq _ _ (le_trans (by decide) hsize)] at h
      cases h
      rfl
  | getFirmwareVersion =>
    rw [answerCommand] at h
    simp only [buildFirmwareVersionPayload_eq _ (le_trans (by decide) hsize)] at h
    cases h
    rfl
  | getSerialNumber =>
    rw [answerCommand] at h
    cases hdevice : self.directDevice with
    | none =>
      simp only [hdevice, buildSerialNumberPayload_eq _ hsize] at h
      cases h
      rfl
    | some dev =>
      simp only [hdevice, buildSerialNumberPayload_eq _ hsize] at h
      cases h
      rfl
  | getMacAddress =>
    rw [answerCommand] at h
    simp only [buildMacAddressPayload_eq _ (le_trans (by decide) hsize)] at h
    cases h
    rfl
  | getChildDeviceInfo =>
    rw [PrimaryFeatureCommand.asU8, self.answerCommand_child usb frame hrest] at h
    cases h
    rfl
  | other opcode => exact self.answerOther_usb usb hrest h

/-- What the device is told of a query. -/
theorem handleQuery_usb {effects : Effects} {self' : FrameHandler}
    (h : self.handleQuery usb frame = .ok (effects, self')) :
    effects.usb =
      (commandByte frame.payload).toList.flatMap fun b => self.queryCalls (.fromU8 b) := by
  by_cases hempty : frame.payload = []
  · rw [self.handleQuery_empty usb frame hempty] at h
    cases h
    rw [hempty]
    rfl
  · obtain ⟨b, hb⟩ := exists_commandByte hempty
    have hcmd : parsePrimaryQuery frame.payload = .ok (some (.fromU8 b)) := by
      rw [parsePrimaryQuery_eq, hb, Option.map_some]
    obtain ⟨a, ha, -, -, -, hquery⟩ := self.handleQuery_ok usb frame hcmd
    rw [hquery] at h
    cases h
    rw [hb, Option.toList_some, List.flatMap_singleton]
    rw [answer_eq] at ha
    exact self.answerCommand_usb usb frame List.length_replicate ha

end FrameHandler

/-- What the device of a secondary port is told of a query. -/
theorem SecondaryConnection.answerQuery_usb {device : StreamDeckUsbHandle} {usb : UsbInterface}
    {frame : CoraFrame} {effects : Effects} (h : answerQuery device usb frame = .ok effects) :
    effects.usb = (commandByte frame.payload).toList.flatMap fun b =>
      if b = 0x1c ∨ b = 0x80 then [] else [.getFeatureReport b (paddedLen frame 32)] := by
  by_cases hempty : frame.payload = []
  · rw [answerQuery, if_pos (by simpa using hempty)] at h
    cases h
    rw [hempty]
    rfl
  obtain ⟨b, hb⟩ := exists_commandByte hempty
  rw [answerQuery, if_neg (by simpa using hempty), reportId_of_command frame hb] at h
  simp only [bind, Except.bind] at h
  rw [hb, Option.toList_some, List.flatMap_singleton]
  by_cases hchild : b = 0x1c
  · rw [if_pos hchild, answerChild_eq] at h
    cases h
    rw [if_pos (.inl hchild)]
  rw [if_neg hchild] at h
  by_cases hinfo : b = 0x80
  · rw [if_pos hinfo, answerDeviceInfo_eq] at h
    cases h
    rw [if_pos (.inr hinfo)]
  · obtain ⟨p, hanswer, -⟩ := answerReport_ok usb frame b
    rw [if_neg hinfo, hanswer] at h
    cases h
    rw [if_neg (by simp [hchild, hinfo])]

namespace Endpoint

theorem Continues.told_eq {self next : Endpoint} (h : self.Continues next) :
    next.told = self.told := by
  funext frame
  cases self with
  | primary connectionId handler =>
    cases next with
    | primary connectionId' handler' =>
      have hqueries : handler'.queryCalls = handler.queryCalls := by
        funext cmd
        have hdirect : handler'.directDevice = handler.directDevice := by
          rw [FrameHandler.directDevice, FrameHandler.directDevice, h.2.1, h.2.2]
        cases cmd <;> simp only [FrameHandler.queryCalls, hdirect]
      simp only [told, h.forwards_iff frame, h.2.2, hqueries]
    | secondary device => exact h.elim
  | secondary device =>
    cases next with
    | primary connectionId handler => exact h.elim
    | secondary device' => rfl

theorem Continues.overlong_iff {self next : Endpoint} (h : self.Continues next)
    (usb : UsbInterface) (frame : CoraFrame) :
    next.Overlong usb frame ↔ self.Overlong usb frame := by
  cases self with
  | primary connectionId handler =>
    cases next with
    | primary connectionId' handler' =>
      simp only [Overlong, FrameHandler.Overlong, h.forwards_iff frame, h.2.2]
    | secondary device => exact h.elim
  | secondary device =>
    cases next with
    | primary connectionId handler => exact h.elim
    | secondary device' => rfl

/-- A frame is handled unless its call panics. -/
theorem handle_isOk_iff (self : Endpoint) (dock : DockState) {usb : UsbInterface}
    (husb : usb.Bounded) (frame : CoraFrame) :
    (∃ result, self.handle dock usb frame = .ok result) ↔ ¬ self.Overlong usb frame := by
  cases self with
  | primary connectionId handler =>
    constructor
    · rintro ⟨⟨effects, next⟩, hhandle⟩
      obtain ⟨handler', hframe, -⟩ := handle_primary hhandle
      exact FrameHandler.not_overlong_of_ok { handler with state := dock } usb frame hframe
    · intro hfits
      obtain ⟨effects, handler', hframe, -⟩ :=
        { handler with state := dock }.handleFrame_ok usb frame hfits
      refine ⟨(effects, .primary connectionId handler'), ?_⟩
      simp only [handle, hframe, bind, Except.bind, pure, Except.pure]
  | secondary device =>
    constructor
    · rintro ⟨⟨effects, next⟩, hhandle⟩
      exact SecondaryConnection.not_overlong_of_ok device usb frame (handle_secondary hhandle).1
    · intro hfits
      obtain ⟨effects, hframe, -⟩ :=
        SecondaryConnection.handleIncomingFrame_ok device usb frame husb hfits
      refine ⟨(effects, .secondary device), ?_⟩
      simp only [handle, hframe, bind, Except.bind, pure, Except.pure]

/-- The device is told what a frame that is handled is due. -/
theorem usb_of_handle {self next : Endpoint} {dock : DockState} {usb : UsbInterface}
    {frame : CoraFrame} {effects : Effects} (husb : usb.Bounded)
    (h : self.handle dock usb frame = .ok (effects, next)) : effects.usb = self.told frame := by
  cases self with
  | primary connectionId handler =>
    obtain ⟨handler', hhandle, -⟩ := handle_primary h
    obtain ⟨hprobe, hforwarded, -, -⟩ := FrameHandler.replies_of_ok _ usb frame hhandle
    rw [told]
    by_cases hisProbe : frame.IsProbe
    · rw [if_pos hisProbe]
      exact (hprobe hisProbe).2
    rw [if_neg hisProbe]
    by_cases hforwards : handler.Forwards frame
    · simp only [if_pos hforwards]
      exact (hforwarded hisProbe hforwards).2
    · simp only [if_neg hforwards]
      have hquery := FrameHandler.handleFrame_of_query { handler with state := dock } usb frame
        hisProbe hforwards
      -- the queries ask the device of the handler, whatever the dock holds
      have hcalls : FrameHandler.queryCalls { handler with state := dock } =
          handler.queryCalls := by
        funext cmd
        cases cmd <;> rfl
      rw [hquery] at hhandle
      have husb := FrameHandler.handleQuery_usb _ usb frame hhandle
      rwa [hcalls] at husb
  | secondary device =>
    obtain ⟨hhandle, -⟩ := handle_secondary h
    have hreplies := SecondaryConnection.replies_of_ok device usb frame husb hhandle
    rw [told]
    by_cases hprobe : frame.IsProbe
    · rw [SecondaryConnection.handleIncomingFrame_of_probe device usb frame hprobe] at hhandle
      cases hhandle
      rw [if_pos hprobe]
    rw [if_neg hprobe]
    by_cases hack : frame.IsAck
    · rw [SecondaryConnection.handleIncomingFrame_of_ack device usb frame hprobe hack] at hhandle
      cases hhandle
      simp only [if_pos hack]
    simp only [if_neg hack]
    by_cases hquery : SecondaryConnection.IsFeatureQuery frame
    · rw [SecondaryConnection.handleIncomingFrame_of_not_keepalive device usb frame hprobe hack,
        if_pos hquery] at hhandle
      rw [if_pos hquery]
      exact SecondaryConnection.answerQuery_usb hhandle
    rw [if_neg hquery]
    cases hop : frame.header.hidOp with
    | getReport => exact absurd (.inl hop) hquery
    | sendReport => exact (hreplies.sendReport hprobe hack hop).1
    | write => exact (hreplies.write hprobe hack hop hquery).1

/-- A step of `serve`: the handler may change, but not in its mode and its device. -/
theorem serveRequest_ok {self : Endpoint} {s : Endpoint × List UsbCall} {request : Request}
    (hmid : self.Continues s.1) (hfits : ¬ self.Overlong request.usb request.frame) :
    ∃ s', serveRequest s request = .ok s' ∧ self.Continues s'.1 ∧
      s'.2 = s.2 ++ self.told request.frame := by
  obtain ⟨mid, calls⟩ := s
  obtain ⟨⟨effects, next⟩, hnext⟩ := (mid.handle_isOk_iff request.dock request.usb.property
    request.frame).mpr fun hlong => hfits ((hmid.overlong_iff _ _).mp hlong)
  refine ⟨(next, calls ++ effects.usb), ?_, hmid.trans (handle_continues hnext), ?_⟩
  · simp only [serveRequest, hnext, bind, Except.bind, pure, Except.pure]
  · rw [usb_of_handle request.usb.property hnext, hmid.told_eq]

theorem fits_of_serveRequest {self : Endpoint} {s s' : Endpoint × List UsbCall}
    {request : Request} (hmid : self.Continues s.1) (h : serveRequest s request = .ok s') :
    ¬ self.Overlong request.usb request.frame ∧ self.Continues s'.1 := by
  obtain ⟨mid, calls⟩ := s
  simp only [serveRequest, bind, Except.bind, pure, Except.pure] at h
  split at h
  · cases h
  · next result hhandle =>
    cases h
    have hfits := (mid.handle_isOk_iff request.dock request.usb.property request.frame).mp
      ⟨_, hhandle⟩
    exact ⟨fun hlong => hfits ((hmid.overlong_iff _ _).mpr hlong),
      hmid.trans (handle_continues hhandle)⟩

theorem serve_told (self : Endpoint) {requests : List Request}
    (hfits : ∀ r ∈ requests, ¬ self.Overlong r.usb r.frame) :
    ∃ next, self.serve requests =
      .ok (next, (requests.map (·.frame)).flatMap self.told) := by
  obtain ⟨⟨next, calls⟩, hserve, -, hcalls⟩ :=
    foldlM_log (I := fun s : Endpoint × List UsbCall => self.Continues s.1)
      (fun _ _ => serveRequest_ok) requests hfits (s := (self, [])) (.refl self)
  have hall : calls = (requests.map (·.frame)).flatMap self.told := by
    rw [List.flatMap_map]
    exact hcalls
  exact ⟨next, by rw [serve, hserve, hall]⟩

/-- A connection goes on exactly to the first frame that panics. -/
theorem serve_isOk_iff (self : Endpoint) (requests : List Request) :
    (∃ served, self.serve requests = .ok served) ↔
      ∀ r ∈ requests, ¬ self.Overlong r.usb r.frame := by
  constructor
  · rintro ⟨served, hserve⟩
    have hstep : ∀ s r s', self.Continues s.1 → serveRequest s r = .ok s' →
        ¬ self.Overlong r.usb r.frame ∧ self.Continues s'.1 :=
      fun _ _ _ => fits_of_serveRequest
    rw [serve] at hserve
    exact foldlM_fits hstep (s := (self, [])) (.refl self) hserve
  · intro hfits
    obtain ⟨next, hserve⟩ := self.serve_told hfits
    exact ⟨_, hserve⟩

end Endpoint

/-- **The device is told in order**: whatever state the dock is in and whatever the
device returns, a connection calls the methods of the device exactly as each of the frames
that a client sends is due, in the order of the frames, however they are cut on their way.
It handles them all unless the device gets one of them by a control transfer that is too
long for one, and all those before it if so. -/
theorem device_told_in_order (endpoint : Endpoint) (frames : List WireFrame)
    (arrivals : List (List UInt8)) (harrivals : ∀ r ∈ arrivals, r ≠ [])
    (hcut : arrivals.flatten = frames.flatMap WireFrame.toVec)
    (requests : List Endpoint.Request)
    (hreceived : requests.map (·.frame) = (receiver.run [] arrivals).1) :
    (∀ handled, handled <+: requests → (∀ r ∈ handled, ¬ endpoint.Overlong r.usb r.frame) →
      ∃ next, endpoint.serve handled =
        .ok (next, ((frames.map WireFrame.received).take handled.length).flatMap
          endpoint.told)) ∧
    ((∃ served, endpoint.serve requests = .ok served) ↔
      ∀ r ∈ requests, ¬ endpoint.Overlong r.usb r.frame) := by
  have hreceived : requests.map (·.frame) = frames.map WireFrame.received := by
    rw [hreceived, receiver_run_frames frames arrivals harrivals hcut]
  refine ⟨fun handled hprefix hfits => ?_, endpoint.serve_isOk_iff requests⟩
  have hframes : handled.map (·.frame) =
      (frames.map WireFrame.received).take handled.length := by
    rw [← hreceived, ← List.map_take, ← List.prefix_iff_eq_take.mp hprefix]
  rw [← hframes]
  exact endpoint.serve_told hfits

/-- An image chunk for a deck that does not answer, cut behind its header. -/
theorem device_told_in_order_image :
    ∃ next, (Endpoint.secondary ⟨0, vendorIdElgato, 0x0080, "A", none⟩).serve
        [⟨.new .default, ⟨⟨some 0x02, fun _ => .error .disconnected,
            fun _ => .error .disconnected, fun _ _ => .error .notConnected⟩,
          fun _ _ h => by cases h⟩,
          ⟨CoraHeader.new CoraFlags.none .write 0 4, [0x02, 0x07, 0x00, 0x01]⟩⟩] =
      .ok (next, [.writeOut [0x02, 0x07, 0x00, 0x01]]) := by
  let chunk : WireFrame :=
    ⟨⟨CoraHeader.new CoraFlags.none .write 0 4, [0x02, 0x07, 0x00, 0x01]⟩, by decide⟩
  have hcut : [chunk.toVec.take 16, chunk.toVec.drop 16].flatten =
      [chunk].flatMap WireFrame.toVec := by
    decide
  obtain ⟨hserve, -⟩ := device_told_in_order (.secondary ⟨0, vendorIdElgato, 0x0080, "A", none⟩)
    [chunk] [chunk.toVec.take 16, chunk.toVec.drop 16] (by decide) hcut
    [⟨.new .default, ⟨⟨some 0x02, fun _ => .error .disconnected,
        fun _ => .error .disconnected, fun _ _ => .error .notConnected⟩,
      fun _ _ h => by cases h⟩, chunk.val⟩]
    (by rw [receiver_run_frames [chunk] _ (by decide) hcut]; rfl)
  exact hserve _ (List.prefix_refl _) (List.forall_mem_singleton.mpr (by
    rintro ⟨-, -, -, hnone, -⟩
    cases hnone))

end OpenNetDeck
