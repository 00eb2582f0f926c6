import OpenNetDeck.Embedded.HubSession

/-!
# The hub in place of a dock

A whole session of the embedded hub beside one of the server in Dock mode: the hub has the
configuration, the address and the children of the dock, and no deck comes or goes. Each
keeps its own state from frame to frame, the hub its output buffer and the dock the flag of
the first poll, and a client gets the same of both.

## Main definitions

- `FrameHandler.handleFrames` — the dock's replies to some frames
- `SameCarried` — two replies that carry the same

## Main results

- `hub_in_place_of_dock` — the replies of a session are those of the dock, one by one
-/

namespace OpenNetDeck

open Bytes Checked

/-- The dock's handler, frame after frame; what it sends is kept. -/
def FrameHandler.handleFrames (usb : UsbInterface) (self : FrameHandler)
    (frames : List CoraFrame) : Except Panic (FrameHandler × List (List UInt8)) :=
  frames.foldlM (fun s frame => do
    let (effects, handler) ← s.1.handleFrame usb frame
    return (handler, s.2 ++ effects.sent)) (self, [])

/-- Two replies with the same flags, message id and padded payload. -/
structure SameCarried (f g : CoraFrame) : Prop where
  flags : f.header.flags = g.header.flags
  messageId : f.header.messageId = g.header.messageId
  payload : SamePadded f.payload g.payload

theorem SameCarried.refl (f : CoraFrame) : SameCarried f f :=
  ⟨rfl, rfl, 0, .inl (List.append_nil _)⟩

namespace FrameHandler

variable {self : FrameHandler} {ip : Block 4}

/-- Of the payload of a query both send as much as they do. -/
theorem samePadded_answer (hmode : self.mode = .dock) {usb : UsbInterface} {frame : CoraFrame}
    {cmd : PrimaryFeatureCommand} {a : Answer} (ha : self.answer usb frame cmd = .ok a)
    (hanswers : Answers cmd.asU8 a.respPayload)
    (hcustom : a.customRespLen = if cmd = .getChildDeviceInfo then some 128 else none) :
    SamePadded (a.respPayload.take (respLen frame cmd))
      (a.respPayload.take (a.customRespLen.getD 1024)) := by
  by_cases hchild : cmd = .getChildDeviceInfo
  · rw [hcustom, if_pos hchild, respLen, if_neg fun h => h.1 hchild]
    exact ⟨0, .inl (List.append_nil _)⟩
  · rw [hcustom, if_neg hchild, Option.getD_none, ← hanswers.length, List.take_length]
    refine samePadded_take (answer_padded hmode ha) hanswers.length ?_
    rw [respLen]
    split
    · exact .inr rfl
    · exact .inl rfl

/-- Both reply to a frame, or neither does, and both go on as they were. -/
theorem handleFrame_beside_hub (hmode : self.mode = .dock) (hip : self.localIp = .v4 ip)
    (hplaced : self.state.AllPlaced) (usb : UsbInterface) (frame : CoraFrame)
    {txBuf : List UInt8} (htx : txBuf.length = 2048) :
    ∃ effects self' txBuf', ∃ dockReplies hubReplies : List SentFrame,
      self.handleFrame usb frame = .ok (effects, self') ∧
      (EmbeddedDockHub.ofConfig self.state.config ip).handleFrame frame
        self.state.allActiveChildren txBuf = .ok (hubReplies.map SentFrame.toVec, txBuf') ∧
      self'.mode = .dock ∧ self'.localIp = self.localIp ∧ self'.state = self.state ∧
      txBuf'.length = 2048 ∧ effects.sent = dockReplies.map SentFrame.toVec ∧
      List.Forall₂ SameCarried (dockReplies.map (·.val)) (hubReplies.map (·.val)) := by
  by_cases hprobe : frame.IsProbe
  · obtain ⟨ack, hack, -⟩ :=
      SentFrame.exists_keepaliveAck (frame.payload.getD 5 0) frame.header.messageId
    have hsent : [(keepaliveAck (frame.payload.getD 5 0) frame.header.messageId).toVec] =
        [ack].map SentFrame.toVec := by
      rw [← hack]
      rfl
    refine ⟨_, self, txBuf, [ack], [ack], self.handleFrame_of_probe usb frame hprobe, ?_, hmode,
      rfl, rfl, htx, hsent, .cons (.refl _) .nil⟩
    rw [EmbeddedDockHub.handleFrame_of_probe _ _ _ _ hprobe, hsent]
  -- in Dock mode no frame is forwarded to a device
  have hforwards : ¬ self.Forwards frame := not_forwards_of_dock frame hmode
  rw [self.handleFrame_of_query usb frame hprobe hforwards]
  by_cases hempty : frame.payload = []
  · exact ⟨_, self, txBuf, [], [], self.handleQuery_empty usb frame hempty,
      EmbeddedDockHub.handleFrame_of_empty _ _ _ _ hprobe hempty, hmode, rfl, rfl, htx, rfl, .nil⟩
  obtain ⟨cmd, hcmd⟩ := exists_command frame hempty
  obtain ⟨a, ha, hanswers, hcustom, -, hquery⟩ := self.handleQuery_ok usb frame hcmd
  have hanswer := self.answer_eq_hub hmode hip hplaced usb frame cmd
  rw [ha] at hanswer
  have hle : a.customRespLen.getD 1024 ≤ 1024 := by
    rw [hcustom]
    split <;> decide
  have hlen : a.customRespLen.getD 1024 ≤ a.respPayload.length := hle.trans hanswers.length.ge
  obtain ⟨txBuf', htx', hreply⟩ := EmbeddedDockHub.handleFrame_of_response _ frame _ hprobe hcmd
    hanswer.symm hlen (show 16 + a.customRespLen.getD 1024 ≤ txBuf.length by omega)
  have hshort : ∀ n, (a.respPayload.take n).length < 2 ^ 32 := fun n =>
    (List.length_take_le' n _).trans_lt (hanswers.length.trans_lt (by decide))
  obtain ⟨f, hf, -⟩ : ∃ f : SentFrame,
      f.val = responseFrame frame (a.respPayload.take (respLen frame cmd)) ∧ _ :=
    SentFrame.exists_result (by decide) (hshort _)
  obtain ⟨g, hg, -⟩ : ∃ g : SentFrame,
      g.val = EmbeddedDockHub.responseFrame frame
        (a.respPayload.take (a.customRespLen.getD 1024)) ∧ _ :=
    SentFrame.exists_result (by decide) (hshort _)
  refine ⟨_, _, txBuf', [f], [g], hquery, ?_, hmode, rfl, rfl, htx'.trans htx, ?_,
    .cons ?_ .nil⟩
  · rw [hreply, ← hg]
    rfl
  · rw [← hf]
    rfl
  · show SameCarried f.val g.val
    rw [hf, hg]
    exact ⟨rfl, rfl, samePadded_answer hmode ha hanswers hcustom⟩

theorem handleFrames_concat {usb : UsbInterface} {frames : List CoraFrame} {frame : CoraFrame}
    {mid next : FrameHandler} {sent : List (List UInt8)} {effects : Effects}
    (h : handleFrames usb self frames = .ok (mid, sent))
    (hframe : mid.handleFrame usb frame = .ok (effects, next)) :
    handleFrames usb self (frames ++ [frame]) = .ok (next, sent ++ effects.sent) := by
  rw [handleFrames] at h
  rw [handleFrames, List.foldlM_append, h]
  simp only [List.foldlM_cons, List.foldlM_nil, bind, Except.bind, hframe, pure, Except.pure]

end FrameHandler

/-! ### The children of a dock -/

namespace DockState

variable {s : DockState}

/-- No two children share a slot. -/
theorem nodup_allActiveChildren (h : s.AllPlaced) :
    (s.allActiveChildren.map (·.slotIndex)).Nodup := by
  rw [allActiveChildren, List.map_filterMap]
  refine List.Nodup.filterMap ?_ (List.nodup_finRange maxChildSlots)
  intro i j slot hi hj
  obtain ⟨child, hchild, rfl⟩ := Option.map_eq_some_iff.mp hi
  obtain ⟨child', hchild', hslot⟩ := Option.map_eq_some_iff.mp hj
  obtain ⟨entry, hentry, rfl⟩ := Option.map_eq_some_iff.mp hchild
  obtain ⟨other, hother, rfl⟩ := Option.map_eq_some_iff.mp hchild'
  rw [(h i entry hentry).childSlot, (h j other hother).childSlot] at hslot
  exact (Slot.asU8_inj hslot).symm

/-- The hub answers for a slot as the dock does. -/
theorem childPayload_allActiveChildren (h : s.AllPlaced) (slot : UInt8) :
    EmbeddedDockHub.childPayload s.allActiveChildren slot =
      (s.childDeviceAt slot).buildPayload false slot := by
  rw [EmbeddedDockHub.childPayload_eq, find_allActiveChildren h, childDeviceAt_eq]

end DockState

/-! ### Sessions -/

namespace EmbeddedDockHub

/-- A hub that has written the replies of a dock that handled the same frames. -/
structure Beside (usb : UsbInterface) (start : FrameHandler) (s : Writing (List UInt8))
    (delivered : List CoraFrame) (handler : FrameHandler)
    (dockReplies hubReplies : List SentFrame) : Prop where
  engine : s.engine.length = 2048
  handled : FrameHandler.handleFrames usb start delivered =
    .ok (handler, dockReplies.map SentFrame.toVec)
  mode : handler.mode = .dock
  localIp : handler.localIp = start.localIp
  state : handler.state = start.state
  written : s.written = (SentFrame.probe 1 1 :: start.state.allActiveChildren.map SentFrame.push ++
    hubReplies).map SentFrame.toVec
  replies : List.Forall₂ SameCarried (dockReplies.map (·.val)) (hubReplies.map (·.val))

variable {usb : UsbInterface} {start : FrameHandler} {ip : Block 4}

/-- A frame more. -/
theorem Beside.frame {s : Writing (List UInt8)} {delivered : List CoraFrame}
    {handler : FrameHandler} {dockReplies hubReplies : List SentFrame}
    (h : Beside usb start s delivered handler dockReplies hubReplies)
    (hip : start.localIp = .v4 ip) (hplaced : start.state.AllPlaced) (frame : CoraFrame) :
    ∃ s' handler' dockReplies' hubReplies',
      (ofConfig start.state.config ip).handleWriting start.state.allActiveChildren s frame =
        .ok s' ∧
      Beside usb start s' (delivered ++ [frame]) handler' dockReplies' hubReplies' := by
  obtain ⟨effects, next, txBuf', dockNew, hubNew, hdock, hhub, hmode, hlocal, hstate, htx, hsent,
    hnew⟩ := FrameHandler.handleFrame_beside_hub h.mode (h.localIp.trans hip)
      (by rw [h.state]; exact hplaced) usb frame h.engine
  rw [h.state] at hhub
  refine ⟨⟨txBuf', s.written ++ hubNew.map SentFrame.toVec⟩, next, dockReplies ++ dockNew,
    hubReplies ++ hubNew, ?_, htx, ?_, hmode, hlocal.trans h.localIp, hstate.trans h.state, ?_, ?_⟩
  · simp only [handleWriting, hhub, bind, Except.bind, pure, Except.pure]
  · rw [FrameHandler.handleFrames_concat h.handled hdock, hsent, List.map_append]
  · show s.written ++ hubNew.map SentFrame.toVec = _
    rw [h.written, ← List.map_append, List.append_assoc]
  · rw [List.map_append, List.map_append]
    exact List.rel_append h.replies hnew

theorem beside_rule (usb : UsbInterface) (hip : start.localIp = .v4 ip)
    (hplaced : start.state.AllPlaced) :
    SessionRule ((ofConfig start.state.config ip).handleWriting start.state.allActiveChildren)
      .ok (fun _ => True) fun s delivered _ => ∃ handler dockReplies hubReplies,
        Beside usb start s delivered handler dockReplies hubReplies where
  frame s _ _ frame _ h := by
    obtain ⟨_, _, _, h⟩ := h
    obtain ⟨s', handler', dockReplies', hubReplies', hs', h'⟩ := h.frame hip hplaced frame
    exact ⟨s', hs', handler', dockReplies', hubReplies', h'⟩
  read s _ _ h := ⟨s, rfl, h⟩

end EmbeddedDockHub

open EmbeddedDockHub

/-- **The hub stands in for a dock**: whatever decks are plugged in and however the client's
bytes arrive, if each read brings some, no more than there is room for and no declared
length that overflows, and if the stream takes what is written, a hub with the
configuration, the address and the children of a dock writes a probe, a push for each child,
and then one by one the replies that the dock's handler sends for the same bytes, with the
same flags, message id and padded payload. From the pushes the client knows of every slot
what the dock answers to a 0x1c query. -/
theorem hub_in_place_of_dock (t : Target) (config : DockConfig) (ops : List DockOp)
    (ipAddress : Block 4) (usbDevice : Option StreamDeckUsbHandle) (hasSentInitialHotplug : Bool)
    (usb : UsbInterface) (reads : List (List UInt8)) (hreads : Admissible t reads) :
    ∃ s handler', ∃ dockReplies hubReplies : List SentFrame,
      EmbeddedDockHub.handleConnection t (greet (DockState.run config ops).allActiveChildren)
        ((EmbeddedDockHub.ofConfig config ipAddress).handleWriting
          (DockState.run config ops).allActiveChildren) reads = .ok s ∧
      FrameHandler.handleFrames usb ⟨DockState.run config ops, .v4 ipAddress, .dock, usbDevice,
        hasSentInitialHotplug⟩ (PrimaryConnection.receive reads).1 =
          .ok (handler', dockReplies.map SentFrame.toVec) ∧
      s.state.written =
        (SentFrame.probe 1 1 :: (DockState.run config ops).allActiveChildren.map SentFrame.push ++
          hubReplies).map SentFrame.toVec ∧
      List.Forall₂ SameCarried (dockReplies.map (·.val)) (hubReplies.map (·.val)) ∧
      ∀ slot, OpenNetDeck.answer (clientTable
          (((DockState.run config ops).allActiveChildren.map SentFrame.push).map
            (·.val.payload))) slot =
        (((DockState.run config ops).childDeviceAt slot).buildPayload false slot).val.drop 4 := by
  set start : FrameHandler := ⟨DockState.run config ops, .v4 ipAddress, .dock, usbDevice,
    hasSentInitialHotplug⟩
  have hplaced : start.state.AllPlaced := (DockState.run_consistent config ops).placed
  have hhub : EmbeddedDockHub.ofConfig start.state.config ipAddress =
      EmbeddedDockHub.ofConfig config ipAddress := by rw [DockState.config_run]
  have hgreet : Beside usb start ⟨List.replicate 2048 0, (SentFrame.probe 1 1 ::
      start.state.allActiveChildren.map SentFrame.push).map SentFrame.toVec⟩ [] start [] [] :=
    ⟨List.length_replicate, rfl, rfl, rfl, rfl, by rw [List.append_nil], .nil⟩
  have hip : start.localIp = .v4 ipAddress := rfl
  have hrule := beside_rule usb hip hplaced
  rw [hhub] at hrule
  obtain ⟨s, hs, ⟨hdelivered, -⟩, handler', dockReplies, hubReplies, hbeside⟩ :=
    hrule.serve ⟨start, [], [], hgreet⟩ hreads fun _ _ => trivial
  refine ⟨s, handler', dockReplies, hubReplies, ?_, ?_, hbeside.written, hbeside.replies,
    fun slot => ?_⟩
  · rw [EmbeddedDockHub.handleConnection, greet_eq]
    exact hs
  · have hhandled := hbeside.handled
    rwa [hdelivered] at hhandled
  · rw [answer_pushes _ (DockState.nodup_allActiveChildren hplaced),
      DockState.childPayload_allActiveChildren hplaced]

/-- A client asks for the serial number. -/
theorem hub_in_place_of_dock_serial :
    ∃ s, ∃ dockReplies hubReplies : List SentFrame,
      EmbeddedDockHub.handleConnection ⟨.w64, true⟩
        (greet (DockState.run .default []).allActiveChildren)
        ((EmbeddedDockHub.ofConfig .default (Block.zeroed 4)).handleWriting
          (DockState.run .default []).allActiveChildren)
        [(CoraFrame.new (CoraHeader.new CoraFlags.none .getReport 9 2) [0x03, 0x84]).toVec] =
        .ok s ∧
      List.Forall₂ SameCarried (dockReplies.map (·.val)) (hubReplies.map (·.val)) := by
  have hreads : Admissible ⟨.w64, true⟩ ([] ++
      [(CoraFrame.new (CoraHeader.new CoraFlags.none .getReport 9 2) [0x03, 0x84]).toVec]) := by
    refine .concat .nil (by decide) (by decide) ?_
    rintro b - ⟨hword, -⟩
    cases hword
  obtain ⟨s, -, dockReplies, hubReplies, hs, -, -, hreplies, -⟩ := hub_in_place_of_dock
    ⟨.w64, true⟩ .default [] (Block.zeroed 4) none false
    ⟨none, fun _ => .ok [], fun _ => .ok (), fun _ _ => .ok ()⟩ _ hreads
  exact ⟨s, dockReplies, hubReplies, hs, hreplies⟩

end OpenNetDeck
