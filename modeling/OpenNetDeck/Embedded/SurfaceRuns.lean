import OpenNetDeck.Embedded.BridgeSession

/-!
# Surfaces in a session

What a session of the embedded bridge makes of two kinds of surface: one whose events
wait in a queue, and the virtual deck, which has a brightness and no events.

## Main definitions

- `EventQueue` — a surface whose events wait in a queue
- `brightnessSet` — the brightness that calls of a surface leave behind

## Main results

- `one_event_per_read` — after so many reads so many events are pushed, the first ones of
  the queue, and the others wait
- `virtual_deck_keeps_brightness` — the virtual deck has the brightness of the last
  brightness report, and nothing but replies is written
-/

namespace OpenNetDeck

open Checked StreamDeckSurface EmbeddedDeckBridge

/-! ### Queues of events -/

/-- A surface whose events wait in a queue: a poll takes the first one, and no other call
touches them. -/
structure EventQueue (D : Type) [StreamDeckSurface D] where
  events : D → List SurfaceEvent
  pollEvent_fst : ∀ surface, (pollEvent surface).1 = (events surface).head?
  events_poll : ∀ surface, events (pollEvent surface).2 = (events surface).tail
  events_brightness : ∀ surface percentage,
    events (setBrightness surface percentage) = events surface
  events_chunk : ∀ surface keyIndex isLast chunkIndex data,
    events (writeImageChunk surface keyIndex isLast chunkIndex data) = events surface

namespace EventQueue

variable {D : Type} [StreamDeckSurface D] (queue : EventQueue D)

theorem events_apply (surface : D) (call : SurfaceCall) :
    queue.events (call.apply surface) =
      (queue.events surface).drop (if call = .pollEvent then 1 else 0) := by
  cases call with
  | setBrightness percentage => exact queue.events_brightness surface percentage
  | writeImageChunk keyIndex isLast chunkIndex data =>
    exact queue.events_chunk surface keyIndex isLast chunkIndex data
  | pollEvent =>
    rw [if_pos rfl, List.drop_one]
    exact queue.events_poll surface

/-- So many polls get so many events. -/
theorem polled_eq (surface : D) (calls : List SurfaceCall) :
    polled surface calls = (queue.events surface).take (calls.count .pollEvent) := by
  induction calls generalizing surface with
  | nil => rfl
  | cons call calls ih =>
    rw [polled, ih, events_apply, List.count_cons]
    by_cases hcall : call = .pollEvent
    · subst hcall
      rw [if_pos rfl, if_pos rfl, queue.pollEvent_fst, List.drop_one]
      cases queue.events surface with
      | nil => simp
      | cons event events => simp
    · simp [hcall]

theorem events_foldl (surface : D) (calls : List SurfaceCall) :
    queue.events (calls.foldl SurfaceCall.apply surface) =
      (queue.events surface).drop (calls.count .pollEvent) := by
  induction calls generalizing surface with
  | nil => rfl
  | cons call calls ih =>
    rw [List.foldl_cons, ih, events_apply, List.drop_drop, List.count_cons, Nat.add_comm]
    simp

end EventQueue

/-- **One event per read**: in a session with a surface whose events wait in a queue, if each
read brings some bytes, no more than there is room for and no declared length that
overflows, if no `GetReport` comes without a payload and if the stream takes what is
written, the frames that are no replies are the pushes of the first events, one for each
read that the client was good for; the other events wait. -/
theorem one_event_per_read {D : Type} [StreamDeckSurface D] (queue : EventQueue D) (t : Target)
    (bridge : EmbeddedDeckBridge D) (reads : List (List UInt8)) (hreads : Admissible t reads)
    (hsafe : ∀ f ∈ (SecondaryConnection.receive reads).1,
      ¬ (f.header.hidOp = .getReport ∧ f.payload = [])) :
    ∃ s, ∃ frames : List SentFrame,
      EmbeddedDeckBridge.handleConnection t ⟨bridge, []⟩ handleWriting pollWriting reads =
        .ok s ∧
      s.state.written = frames.map SentFrame.toVec ∧
      frames.filter (¬ ·.val.isReply) =
        ((queue.events bridge.surface).take reads.length).map eventFrame ∧
      queue.events s.state.engine.surface = (queue.events bridge.surface).drop reads.length := by
  obtain ⟨s, hs, -, calls, frames, hsession⟩ :=
    bridge.sessionRule.serve ⟨[], [], inSession_start bridge⟩ hreads hsafe
  refine ⟨s, frames, hs, hsession.written, ?_, ?_⟩
  -- the surface is polled once for each read
  · rw [hsession.events, queue.polled_eq, hsession.polls]
  · rw [hsession.engine, ← hsession.polls]
    exact queue.events_foldl bridge.surface calls

/-- A request to dim the deck to half its brightness. -/
def dimRequest : WireFrame :=
  ⟨CoraFrame.new (CoraHeader.new CoraFlags.none .sendReport 1 3) [0x03, 0x08, 50], by decide⟩

theorem receive_dimRequest :
    SecondaryConnection.receive [dimRequest.toVec] = ([dimRequest.val], []) :=
  receiver_run_frames [dimRequest] _ (by decide) (by decide)

theorem admissible_dimRequest : Admissible ⟨.w64, true⟩ ([] ++ [dimRequest.toVec]) := by
  refine .concat .nil (by decide) (by decide) ?_
  rintro b - ⟨hword, -⟩
  cases hword

/-- A board that plays a script. -/
structure ScriptedBoard where
  script : List SurfaceEvent

instance : StreamDeckSurface ScriptedBoard where
  productId _ := 0x0080
  modelName _ := "Stream Deck MK.2"
  serialNumber _ := "A"
  pollEvent self := (self.script.head?, ⟨self.script.tail⟩)

/-- A key goes down and up while the client sends one frame. -/
theorem one_event_per_read_key :
    ∃ s, ∃ frames : List SentFrame,
      EmbeddedDeckBridge.handleConnection ⟨.w64, true⟩
          ⟨⟨ScriptedBoard.mk [.keyDown 0, .keyUp 0], 0, 5344⟩, []⟩ handleWriting pollWriting
          [dimRequest.toVec] = .ok s ∧
      frames.filter (¬ ·.val.isReply) = [eventFrame (.keyDown 0)] ∧
      s.state.engine.surface.script = [.keyUp 0] := by
  obtain ⟨s, frames, hs, -, hpushed, hwaits⟩ := one_event_per_read
    ⟨ScriptedBoard.script, fun _ => rfl, fun _ => rfl, fun _ _ => rfl, fun _ _ _ _ _ => rfl⟩
    ⟨.w64, true⟩ ⟨ScriptedBoard.mk [.keyDown 0, .keyUp 0], 0, 5344⟩ _ admissible_dimRequest (by
      rw [List.nil_append, receive_dimRequest]
      decide)
  exact ⟨s, frames, hs, hpushed, hwaits⟩

/-! ### The virtual deck -/

/-- The brightness that calls leave behind. -/
def brightnessSet (brightness : UInt8) (calls : List SurfaceCall) : UInt8 :=
  calls.foldl (fun brightness call =>
    match call with
    | .setBrightness percentage => percentage
    | _ => brightness) brightness

theorem foldl_apply_virtual (surface : VirtualStreamDeckPlus) (calls : List SurfaceCall) :
    calls.foldl SurfaceCall.apply surface =
      { surface with
        brightness := brightnessSet surface.brightness (calls.filter (· ≠ .pollEvent)) } := by
  induction calls generalizing surface with
  | nil => rfl
  | cons call calls ih =>
    rw [List.foldl_cons, ih]
    cases call <;> rfl

theorem polled_virtual (surface : VirtualStreamDeckPlus) (calls : List SurfaceCall) :
    polled surface calls = [] := by
  induction calls generalizing surface with
  | nil => rfl
  | cons call calls ih =>
    rw [polled, ih]
    cases call <;> rfl

/-- **The virtual deck** comes out of a session as it went in, but with the brightness of the
last brightness report, and all that is written are replies: if each read brings some bytes,
no more than there is room for and no declared length that overflows, if no `GetReport`
comes without a payload and if the stream takes what is written. -/
theorem virtual_deck_keeps_brightness (t : Target) (surface : VirtualStreamDeckPlus)
    (slotIndex : UInt8) (port : UInt16) (reads : List (List UInt8)) (hreads : Admissible t reads)
    (hsafe : ∀ f ∈ (SecondaryConnection.receive reads).1,
      ¬ (f.header.hidOp = .getReport ∧ f.payload = [])) :
    ∃ s, ∃ frames : List SentFrame,
      EmbeddedDeckBridge.handleConnection t ⟨⟨surface, slotIndex, port⟩, []⟩ handleWriting
        pollWriting reads = .ok s ∧
      s.state.engine.surface =
        { surface with
          brightness := brightnessSet surface.brightness (s.delivered.flatMap surfaceCalls) } ∧
      s.state.written = frames.map SentFrame.toVec ∧ ∀ f ∈ frames, f.val.isReply = true := by
  obtain ⟨s, hs, -, calls, frames, hsession⟩ :=
    (sessionRule ⟨surface, slotIndex, port⟩).serve ⟨[], [], inSession_start _⟩ hreads hsafe
  refine ⟨s, frames, hs, ?_, hsession.written, ?_⟩
  · rw [hsession.engine, ← hsession.told]
    exact foldl_apply_virtual surface calls
  · have hevents := hsession.events
    rw [polled_virtual, List.map_nil, List.filter_eq_nil_iff] at hevents
    intro f hf
    simpa using hevents f hf

/-- A client dims the virtual deck. -/
theorem virtual_deck_keeps_brightness_dims :
    ∃ s, EmbeddedDeckBridge.handleConnection ⟨.w64, true⟩
          ⟨⟨VirtualStreamDeckPlus.new "A", 0, 5344⟩, []⟩ handleWriting pollWriting
          [dimRequest.toVec] = .ok s ∧
      s.state.engine.surface =
        { VirtualStreamDeckPlus.new "A" with
          brightness := brightnessSet 100 (s.delivered.flatMap surfaceCalls) } := by
  obtain ⟨s, -, hs, hsurface, -⟩ := virtual_deck_keeps_brightness ⟨.w64, true⟩
    (VirtualStreamDeckPlus.new "A") 0 5344 _ admissible_dimRequest (by
      rw [List.nil_append, receive_dimRequest]
      decide)
  exact ⟨s, hs, hsurface⟩

end OpenNetDeck
