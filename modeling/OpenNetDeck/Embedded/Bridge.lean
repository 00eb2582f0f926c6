import OpenNetDeck.Embedded.Surface
import OpenNetDeck.Server.SecondaryHandler

/-!
# The embedded bridge

`EmbeddedDeckBridge::handle_incoming_frame`: keepalives, the feature queries that
are answered from the surface, brightness reports and image chunks. The handler is
a copy of the server's for a secondary port, but it looks at the first byte of a
query before it knows that there is one.

## Main definitions

- `EmbeddedDeckBridge.answerReport` — the 1024 bytes from which a query is answered
- `EmbeddedDeckBridge.handleIncomingFrame` — the whole handler

## Main results

- `EmbeddedDeckBridge.handleIncomingFrame_of_query`,
  `EmbeddedDeckBridge.handleIncomingFrame_of_output` — what is sent
- `bridge_safe_iff` — an index is out of range exactly for an empty `GetReport`
-/

namespace OpenNetDeck

open Bytes Checked StreamDeckSurface
open SecondaryConnection (isFeatureQuery IsFeatureQuery isFeatureQuery_eq reportId
  reportId_of_command replyFrame paddedLen paddedLen_le)

/-- The engine of a secondary port for fixed memory. -/
structure EmbeddedDeckBridge (D : Type) where
  surface : D
  slotIndex : UInt8
  port : UInt16
  deriving DecidableEq

namespace EmbeddedDeckBridge

variable {D : Type} [StreamDeckSurface D]

/-- The length of a string in byte 1, and its first 30 bytes from `offset` on. -/
def stringReport (s : String) (offset : ℕ) (respPayload : List UInt8) :
    Except Panic (List UInt8) := do
  let bytes := asBytes s
  let len := min bytes.length 30
  let respPayload ← store respPayload 1 [UInt8.ofNat len]
  store respPayload offset (← slice bytes 0 len)

/-- The capabilities (0x0b). -/
def capabilitiesReport (respPayload : List UInt8) : Except Panic (List UInt8) := do
  let respPayload ← store respPayload 1 [0x02]
  let respPayload ← store respPayload 2 [0x30]
  store respPayload 3 [0x01]

/-- The report of an id that the bridge does not know. -/
def unknownReport (reportId : UInt8) (respPayload : List UInt8) : Except Panic (List UInt8) := do
  let respPayload ← store respPayload 0 [0x03]
  store respPayload 1 [reportId]

/-- The child that the bridge announces for its surface. -/
def ownChild (self : EmbeddedDeckBridge D) : ChildDeviceInfo :=
  ChildDeviceInfo.connected self.slotIndex (vendorId self.surface) (productId self.surface)
    (modelName self.surface) (serialNumber self.surface) self.port

/-- The branches of the `match` on the report id: `resp_payload` and `resp_len`. -/
def answerReport (self : EmbeddedDeckBridge D) (reportId : UInt8) (respPayload : List UInt8)
    (respLen : ℕ) : Except Panic (List UInt8 × ℕ) :=
  if reportId = 0x05 then do
    return (← stringReport (firmwareVersion self.surface) 6 respPayload, respLen)
  else if reportId = 0x06 then do
    return (← stringReport (serialNumber self.surface) 2 respPayload, respLen)
  else if reportId = 0x0b then do
    return (← capabilitiesReport respPayload, respLen)
  else if reportId = 0x80 then do
    let (_, respPayload) ←
      buildDeviceInfoPayload (vendorId self.surface) (productId self.surface) respPayload
    return (respPayload, 16)
  else if reportId = 0x1c then do
    let buf128 := self.ownChild.buildPayload false self.slotIndex
    return (← store respPayload 0 buf128.val, 128)
  else do
    return (← unknownReport reportId respPayload, respLen)

/-- The answer to a feature query. -/
def answerQuery (self : EmbeddedDeckBridge D) (frame : CoraFrame) :
    Except Panic (List (List UInt8)) := do
  let reportId ← reportId frame
  let respPayload ← store (List.replicate 1024 0) 0 [reportId]
  let (respPayload, respLen) ← self.answerReport reportId respPayload (paddedLen frame 32)
  let header := CoraHeader.new (respFlags frame) frame.header.hidOp frame.header.messageId respLen
  return [(CoraFrame.new header (← slice respPayload 0 respLen)).toVec]

/-- The brightness that a `SendReport` sets. -/
def adjustBrightness (surface : D) (payload : List UInt8) : Except Panic D := do
  match ← prefixedByte payload 3 0x03 0x08 2 with
  | some brightness => return setBrightness surface brightness
  | none => return surface

/-- The image chunk that a `Write` brings. -/
def drawChunk (surface : D) (payload : List UInt8) : Except Panic D :=
  if payload.length ≥ 8 then do
    if (← index payload 0) = 0x02 then
      let command ← index payload 1
      if command = 0x07 ∨ command = 0x0c then
        let keyIndex ← index payload 2
        let isLast := decide ((← index payload 3) ≠ 0)
        let chunkIndex := UInt16.ofNat (leNat [← index payload 6, ← index payload 7])
        let imgData ← slice payload 8 payload.length
        return writeImageChunk surface keyIndex isLast chunkIndex imgData
      else return surface
    else return surface
  else return surface

/-- The handler of a frame: what is written to the stream, and the bridge after. -/
def handleIncomingFrame (self : EmbeddedDeckBridge D) (frame : CoraFrame) :
    Except Panic (List (List UInt8) × EmbeddedDeckBridge D) := do
  match ← isKeepaliveProbe frame with
  | some connId =>
    let ackBuf := List.replicate 48 0
    return (← sendBuilt (buildKeepaliveAckFrame connId frame.header.messageId ackBuf), self)
  | none =>
    match ← isKeepaliveAck frame with
    | some _ => return ([], self)
    | none =>
      -- no look at the length of the payload, unlike in the server's copy
      if ← isFeatureQuery frame then return (← self.answerQuery frame, self)
      else if frame.header.hidOp = .sendReport then
        let surface ← adjustBrightness self.surface frame.payload
        return (← sendAck frame 0x03, { self with surface })
      else if frame.header.hidOp = .write then
        let surface ← drawChunk self.surface frame.payload
        return (← sendAck frame 0x02, { self with surface })
      else return ([], self)

variable (self : EmbeddedDeckBridge D) (frame : CoraFrame)

/-! ### The answer to a query -/

/-- A string report stands in byte 1 and in the 30 bytes from `offset` on. -/
theorem stringReport_writes (s : String) {offset : ℕ} (hoffset : 2 ≤ offset) {out : List UInt8}
    (hout : offset + 30 ≤ out.length) :
    Writes 1 (offset + 30) out (stringReport s offset out) := by
  have hlen : ((asBytes s).take (min (asBytes s).length 30)).length ≤ 30 :=
    (List.length_take_le _ _).trans (Nat.min_le_right _ _)
  rw [stringReport, slice_zero (Nat.min_le_left _ _)]
  refine .bind (.store le_rfl ?_ ?_) fun out' hout' => ?_
  · rw [List.length_singleton]
    omega
  · rw [List.length_singleton]
    omega
  · exact .store (by omega) (by omega) (by omega)

/-- The report of every id is written into a 1024-byte response, and no more of it is
sent than there is. -/
theorem answerReport_ok (reportId : UInt8) {out : List UInt8} (hout : out.length = 1024)
    {respLen : ℕ} (hresp : respLen ≤ 1024) :
    ∃ out' n, self.answerReport reportId out respLen = .ok (out', n) ∧ n ≤ out'.length := by
  have hkeep : ∀ {m : Except Panic (List UInt8)} {lo hi n : ℕ}, Writes lo hi out m → n ≤ 1024 →
      ∃ out' n', (do return (← m, n) : Except Panic (List UInt8 × ℕ)) = .ok (out', n') ∧
        n' ≤ out'.length := by
    rintro m lo hi n ⟨out', rfl, hlen, -, -⟩ hn
    exact ⟨out', n, rfl, by omega⟩
  have hbyte : ∀ {i : ℕ} {b : UInt8} {out : List UInt8}, out.length = 1024 → i < 4 →
      Writes 0 4 out (store out i [b]) := by
    intro i b out hout hi
    exact .store (Nat.zero_le i) hi (by rw [List.length_singleton]; omega)
  rw [answerReport]
  split_ifs with hfirmware hserial hcapabilities hinfo hchild
  · exact hkeep (stringReport_writes _ (by decide) (by omega)) hresp
  · exact hkeep (stringReport_writes _ (by decide) (by omega)) hresp
  · refine hkeep (.bind (hbyte hout (by decide)) fun out₁ hout₁ => ?_) hresp
    refine .bind (hbyte (by omega) (by decide)) fun out₂ hout₂ => ?_
    exact hbyte (by omega) (by decide)
  · rw [buildDeviceInfoPayload_eq _ _ (by omega)]
    refine ⟨_, 16, rfl, ?_⟩
    rw [List.length_append]
    exact Nat.le_add_right_of_le Nat.le.refl
  · have hp := (self.ownChild.buildPayload false self.slotIndex).property
    have hchild : Writes 0 128 out
        (store out 0 (self.ownChild.buildPayload false self.slotIndex).val) :=
      .store (Nat.zero_le 0) (by omega) (by omega)
    exact hkeep hchild (by decide)
  · refine hkeep (.bind (hbyte hout (by decide)) fun out₁ hout₁ => ?_) hresp
    exact hbyte (by omega) (by decide)

/-- The head of a response. -/
theorem store_reportId (id : UInt8) :
    store (List.replicate 1024 0) 0 [id] = .ok (id :: List.replicate 1023 0) :=
  store_cons_zero 0 id (List.replicate 1023 0)

/-- A query that names a report gets one answer. -/
theorem answerQuery_ok {id : UInt8} (h : commandByte frame.payload = some id) :
    ∃ p, self.answerQuery frame = .ok [(replyFrame frame p).toVec] := by
  have hlen : (id :: List.replicate 1023 0).length = 1024 := by
    rw [List.length_cons, List.length_replicate]
  obtain ⟨out, n, hreport, hn⟩ :=
    self.answerReport_ok id hlen (paddedLen_le frame (by decide : 32 ≤ 1024))
  have htake : (out.take n).length = n := List.length_take_of_le hn
  refine ⟨out.take n, ?_⟩
  rw [answerQuery, reportId_of_command frame h]
  simp only [bind, Except.bind, store_reportId, hreport, slice_zero hn]
  rw [replyFrame, htake]
  rfl

/-- The first byte is looked up in an empty payload. -/
theorem answerQuery_empty (h : frame.payload = []) :
    self.answerQuery frame = .error .sliceOutOfRange := by
  rw [answerQuery, reportId, h]
  rfl

/-! ### The handler -/

theorem adjustBrightness_ok (surface : D) (payload : List UInt8) :
    ∃ surface', adjustBrightness surface payload = .ok surface' := by
  rw [adjustBrightness, prefixedByte_eq (by decide) (by decide)]
  split_ifs
  · exact ⟨_, rfl⟩
  · exact ⟨_, rfl⟩

theorem drawChunk_ok (surface : D) (payload : List UInt8) :
    ∃ surface', drawChunk surface payload = .ok surface' := by
  rw [drawChunk]
  by_cases hlen : payload.length ≥ 8
  · have hindex : ∀ i < 8, index payload i = .ok (payload.getD i 0) :=
      fun i hi => index_eq_getD 0 (hi.trans_le hlen)
    rw [if_pos hlen]
    simp (disch := decide) only [bind, Except.bind, hindex, slice_of_le hlen le_rfl]
    split_ifs
    · exact ⟨_, rfl⟩
    · exact ⟨_, rfl⟩
    · exact ⟨_, rfl⟩
  · rw [if_neg hlen]
    exact ⟨_, rfl⟩

theorem handleIncomingFrame_of_probe (h : frame.IsProbe) :
    self.handleIncomingFrame frame = .ok
      ([(keepaliveAck (frame.payload.getD 5 0) frame.header.messageId).toVec], self) := by
  rw [handleIncomingFrame, isKeepaliveProbe_eq, if_pos h]
  simp only [bind, Except.bind, sendBuilt_keepaliveAck List.length_replicate.ge]
  rfl

theorem handleIncomingFrame_of_ack (h : ¬ frame.IsProbe) (hack : frame.IsAck) :
    self.handleIncomingFrame frame = .ok ([], self) := by
  rw [handleIncomingFrame, isKeepaliveProbe_eq, if_neg h, isKeepaliveAck_eq, if_pos hack]
  rfl

theorem handleIncomingFrame_of_query (h : ¬ frame.IsProbe) (hack : ¬ frame.IsAck)
    (hquery : IsFeatureQuery frame) :
    self.handleIncomingFrame frame = (self.answerQuery frame).map fun sent => (sent, self) := by
  obtain ⟨b, hb, hiff⟩ := isFeatureQuery_eq frame
  rw [handleIncomingFrame, isKeepaliveProbe_eq, if_neg h, isKeepaliveAck_eq, if_neg hack]
  simp only [bind, Except.bind, hb, hiff.mpr hquery, if_true]
  cases self.answerQuery frame <;> rfl

/-- A report or a write that is no query is acknowledged. -/
theorem handleIncomingFrame_of_output (h : ¬ frame.IsProbe) (hack : ¬ frame.IsAck)
    (hquery : ¬ IsFeatureQuery frame) :
    ∃ self', self.handleIncomingFrame frame = .ok
      (if wantsAck frame then
        [(ackFrame frame (if frame.header.hidOp = .write then 0x02 else 0x03)).toVec] else [],
        self') := by
  obtain ⟨b, hb, hiff⟩ := isFeatureQuery_eq frame
  obtain ⟨bright, hbright⟩ := adjustBrightness_ok self.surface frame.payload
  obtain ⟨drawn, hdrawn⟩ := drawChunk_ok self.surface frame.payload
  have hno : b = false := Bool.eq_false_iff.mpr fun hb => hquery (hiff.mp hb)
  rw [handleIncomingFrame, isKeepaliveProbe_eq, if_neg h, isKeepaliveAck_eq, if_neg hack]
  simp only [bind, Except.bind, hb, hno, hbright, hdrawn, sendAck_eq]
  cases hop : frame.header.hidOp with
  | getReport => exact absurd (.inl hop) hquery
  | sendReport => exact ⟨_, rfl⟩
  | write => exact ⟨_, rfl⟩

theorem handleIncomingFrame_ok_iff :
    (∃ r, self.handleIncomingFrame frame = .ok r) ↔
      ¬ (frame.header.hidOp = .getReport ∧ frame.payload = []) := by
  by_cases hprobe : frame.IsProbe
  · exact ⟨fun _ h => hprobe.payload_ne_nil h.2,
      fun _ => ⟨_, self.handleIncomingFrame_of_probe frame hprobe⟩⟩
  by_cases hack : frame.IsAck
  · exact ⟨fun _ h => hack.payload_ne_nil h.2,
      fun _ => ⟨_, self.handleIncomingFrame_of_ack frame hprobe hack⟩⟩
  by_cases hquery : IsFeatureQuery frame
  · rw [self.handleIncomingFrame_of_query frame hprobe hack hquery]
    by_cases hempty : frame.payload = []
    · have hget : frame.header.hidOp = .getReport := by
        obtain hget | ⟨-, hhead⟩ := hquery
        · exact hget
        · rw [hempty] at hhead
          cases hhead
      rw [self.answerQuery_empty frame hempty]
      constructor
      · rintro ⟨r, hr⟩
        cases hr
      · intro h
        exact absurd ⟨hget, hempty⟩ h
    · obtain ⟨id, hid⟩ := exists_commandByte hempty
      obtain ⟨p, hp⟩ := self.answerQuery_ok frame hid
      rw [hp]
      exact ⟨fun _ h => hempty h.2, fun _ => ⟨_, rfl⟩⟩
  · obtain ⟨self', hself'⟩ := self.handleIncomingFrame_of_output frame hprobe hack hquery
    exact ⟨fun _ h => hquery (.inl h.1), fun _ => ⟨_, hself'⟩⟩

end EmbeddedDeckBridge

open EmbeddedDeckBridge

/-- **No crash but one**: whatever the surface, its slot and its port, the handler and
the encoder of events stay in range for every frame and every event, except that a
`GetReport` without a payload stops the handler. -/
theorem bridge_safe_iff {D : Type} [StreamDeckSurface D] (bridge : EmbeddedDeckBridge D)
    (frame : CoraFrame) (event : SurfaceEvent) :
    ((∃ r, bridge.handleIncomingFrame frame = .ok r) ∧
        ∃ msgs, pushEvent (some event) = .ok msgs) ↔
      ¬ (frame.header.hidOp = .getReport ∧ frame.payload = []) := by
  rw [← bridge.handleIncomingFrame_ok_iff frame]
  exact and_iff_left ⟨_, pushEvent_some event⟩

/-- The header of a `GetReport`, and nothing behind it. -/
theorem bridge_crashes :
    ∃ frame, CoraFrame.decode (coraMagic ++ [0, 0, 2, 0] ++ [1, 0, 0, 0] ++ [0, 0, 0, 0]) =
        .ok (some (frame, 16)) ∧
      (EmbeddedDeckBridge.mk (VirtualStreamDeckPlus.new "A") 0 5344).handleIncomingFrame frame =
        .error .sliceOutOfRange :=
  ⟨⟨⟨CoraFlags.none, .getReport, 0, 1, 0⟩, []⟩, by decide, by decide +kernel⟩

end OpenNetDeck
