import OpenNetDeck.Lib.Transition
import OpenNetDeck.Protocol.Codec

/-!
# Surface events

`encode_surface_event`, which makes a report of one event, and the push that
`EmbeddedDeckBridge::handle_connection` makes of it. A key report has a byte for
each of eight keys, but the encoder sees only the key of its event.

## Main definitions

- `encodeSurfaceEvent`, `EmbeddedDeckBridge.pushEvent`
- `heldStep` — the keys held after an event
- `ShowsKeys` — a pushed report that tells which keys are held

## Main results

- `showsKeys_keyDown_iff`, `showsKeys_keyUp_iff` — one report is right exactly if it
  leaves out no held key
- `reports_show_keys_iff` — all reports of a history are right exactly if no key
  goes down while another is held
-/

namespace OpenNetDeck

open Bytes Checked Transition

inductive SurfaceEvent where
  | keyDown (keyIndex : UInt8)
  | keyUp (keyIndex : UInt8)
  | dialRotate (dialIndex : UInt8) (delta : Int8)
  | dialPress (dialIndex : UInt8)
  | dialRelease (dialIndex : UInt8)
  | touchTap (dialIndex : UInt8) (x y : UInt16)
  deriving DecidableEq

/-- What a board provides for its hardware. -/
class StreamDeckSurface (D : Type) where
  vendorId : D → UInt16 := fun _ => 0x0fd9
  productId : D → UInt16
  modelName : D → String
  serialNumber : D → String
  firmwareVersion : D → String := fun _ => "1.0.0.0"
  setBrightness : D → UInt8 → D := fun self _ => self
  writeImageChunk : D → UInt8 → Bool → UInt16 → List UInt8 → D := fun self _ _ _ _ => self
  pollEvent : D → Option SurfaceEvent × D := fun self => (none, self)

/-- The surface of a board without keys of its own. -/
structure VirtualStreamDeckPlus where
  serial : String
  firmware : String
  brightness : UInt8
  deriving DecidableEq

def VirtualStreamDeckPlus.new (serial : String) : VirtualStreamDeckPlus where
  serial
  firmware := "2.0.3.5"
  brightness := 100

instance : StreamDeckSurface VirtualStreamDeckPlus where
  productId _ := 0x0084
  modelName _ := "Stream Deck +"
  serialNumber self := self.serial
  firmwareVersion self := self.firmware
  setBrightness self percentage := { self with brightness := percentage }

/-- The report of an event and its length. -/
def encodeSurfaceEvent (event : SurfaceEvent) : Block 512 × ℕ :=
  let out := Block.zeroed 512
  let out := out.set 0 0x01 (by decide)
  match event with
  | .keyDown keyIndex =>
    let out := out.set 1 0x00 (by decide)
    let out := out.set 2 0x08 (by decide)
    let idx := min keyIndex.toNat 7
    (out.set (4 + idx) 0x01 (by omega), 512)
  | .keyUp _ =>
    let out := out.set 1 0x00 (by decide)
    (out.set 2 0x08 (by decide), 512)
  | .dialRotate dialIndex delta =>
    let out := out.set 1 0x03 (by decide)
    let out := out.set 2 dialIndex (by decide)
    (out.set 3 delta.toUInt8 (by decide), 512)
  | .dialPress dialIndex =>
    let out := out.set 1 0x03 (by decide)
    let out := out.set 2 dialIndex (by decide)
    (out.set 3 0x01 (by decide), 512)
  | .dialRelease dialIndex =>
    let out := out.set 1 0x03 (by decide)
    let out := out.set 2 dialIndex (by decide)
    (out.set 3 0x00 (by decide), 512)
  | .touchTap dialIndex x y =>
    let out := out.set 1 0x02 (by decide)
    let out := out.set 2 dialIndex (by decide)
    let out := out.copyAt 4 (leBytes 2 x.toNat) (by simp)
    (out.copyAt 6 (leBytes 2 y.toNat) (by simp), 512)

/-- What is written to the stream for the event that was polled. -/
def EmbeddedDeckBridge.pushEvent (event : Option SurfaceEvent) :
    Except Panic (List (List UInt8)) :=
  match event with
  | none => return []
  | some event => do
    let (report, reportLen) := encodeSurfaceEvent event
    if reportLen > 0 then
      let header := CoraHeader.new CoraFlags.none .write 0 reportLen
      let pushFrame := CoraFrame.new header (← slice report.val 0 reportLen)
      return [pushFrame.toVec]
    else return []

theorem encodeSurfaceEvent_len (event : SurfaceEvent) : (encodeSurfaceEvent event).2 = 512 := by
  cases event <;> rfl

/-- Every event is pushed with its whole report. -/
theorem EmbeddedDeckBridge.pushEvent_some (event : SurfaceEvent) :
    pushEvent (some event) = .ok
      [(CoraFrame.new (CoraHeader.new CoraFlags.none .write 0 512)
        (encodeSurfaceEvent event).1.val).toVec] := by
  have hlen := (encodeSurfaceEvent event).1.property
  show (if (encodeSurfaceEvent event).2 > 0 then
    (slice (encodeSurfaceEvent event).1.val 0 (encodeSurfaceEvent event).2).bind fun report =>
      .ok [(CoraFrame.new (CoraHeader.new CoraFlags.none .write 0
        (encodeSurfaceEvent event).2) report).toVec] else .ok []) = _
  rw [encodeSurfaceEvent_len, if_pos (by decide), slice_zero hlen.ge,
    List.take_of_length_le hlen.le]
  rfl

/-! ### Key states -/

/-- The keys held after an event, for keys that alternate between pressed and
released. -/
def heldStep (held : Finset UInt8) : SurfaceEvent → Option (Finset UInt8)
  | .keyDown k => if k < 8 ∧ k ∉ held then some (insert k held) else none
  | .keyUp k => if k < 8 ∧ k ∈ held then some (held.erase k) else none
  | _ => none

/-- The push of an event tells for each of the eight keys whether it is held. -/
def ShowsKeys (event : SurfaceEvent) (held : Finset UInt8) : Prop :=
  ∃ msg, EmbeddedDeckBridge.pushEvent (some event) = .ok [msg] ∧
    ∀ k : UInt8, k < 8 →
      (msg.drop coraHeaderSize).getD (4 + k.toNat) 0 = if k ∈ held then 0x01 else 0x00

theorem showsKeys_iff_report (event : SurfaceEvent) (held : Finset UInt8) :
    ShowsKeys event held ↔ ∀ k : UInt8, k < 8 →
      (encodeSurfaceEvent event).1.val.getD (4 + k.toNat) 0 = if k ∈ held then 0x01 else 0x00 := by
  rw [ShowsKeys, EmbeddedDeckBridge.pushEvent_some]
  constructor
  · rintro ⟨msg, hmsg, hkeys⟩
    cases hmsg
    rwa [CoraFrame.drop_toVec] at hkeys
  · intro hkeys
    refine ⟨_, rfl, ?_⟩
    rwa [CoraFrame.drop_toVec]

/-- The key bytes of a press: the pressed key alone. -/
theorem getD_keyDown {key : UInt8} (hkey : key < 8) (k : UInt8) :
    (encodeSurfaceEvent (.keyDown key)).1.val.getD (4 + k.toNat) 0 =
      if k = key then 0x01 else 0x00 := by
  have hmin : min key.toNat 7 = key.toNat := by
    rw [UInt8.lt_iff_toNat_lt] at hkey
    exact Nat.min_eq_left (Nat.le_of_lt_succ hkey)
  have hkeyByte : (4 + k.toNat = 4 + min key.toNat 7) ↔ k = key := by
    rw [hmin, Nat.add_left_cancel_iff, UInt8.toNat_inj]
  simp only [encodeSurfaceEvent, Block.getD_set, Block.getD_zeroed, hkeyByte]
  have hhead : ∀ i < 4, 4 + k.toNat ≠ i := by omega
  rw [if_neg (hhead 2 (by decide)), if_neg (hhead 1 (by decide)), if_neg (hhead 0 (by decide))]

/-- The key bytes of a release: no key. -/
theorem getD_keyUp (key k : UInt8) :
    (encodeSurfaceEvent (.keyUp key)).1.val.getD (4 + k.toNat) 0 = 0x00 := by
  have hhead : ∀ i < 4, 4 + k.toNat ≠ i := by omega
  simp only [encodeSurfaceEvent, Block.getD_set, Block.getD_zeroed]
  rw [if_neg (hhead 2 (by decide)), if_neg (hhead 1 (by decide)), if_neg (hhead 0 (by decide))]

/-- Held keys are among the eight. -/
def Valid (held : Finset UInt8) : Prop := ∀ k ∈ held, k < 8

theorem Valid.step {held held' : Finset UInt8} {event : SurfaceEvent} (h : Valid held)
    (hstep : heldStep held event = some held') : Valid held' := by
  cases event with
  | keyDown key =>
    rw [heldStep] at hstep
    split at hstep
    · next hkey =>
      cases hstep
      intro k hk
      obtain rfl | hk := Finset.mem_insert.mp hk
      · exact hkey.1
      · exact h k hk
    · cases hstep
  | keyUp key =>
    rw [heldStep] at hstep
    split at hstep
    · cases hstep
      exact fun k hk => h k (Finset.mem_of_mem_erase hk)
    · cases hstep
  | dialRotate | dialPress | dialRelease | touchTap => cases hstep

/-- The report of a press is right exactly if no other key is held. -/
theorem showsKeys_keyDown_iff {held held' : Finset UInt8} (hvalid : Valid held) {key : UInt8}
    (hstep : heldStep held (.keyDown key) = some held') :
    ShowsKeys (.keyDown key) held' ↔ held = ∅ := by
  rw [heldStep] at hstep
  split at hstep
  · next hkey =>
    cases hstep
    rw [showsKeys_iff_report]
    constructor
    · intro hshows
      by_contra hne
      obtain ⟨k, hk⟩ := Finset.nonempty_iff_ne_empty.mpr hne
      have hbyte := hshows k (hvalid k hk)
      have hother : k ≠ key := fun heq => hkey.2 (heq ▸ hk)
      rw [getD_keyDown hkey.1, if_neg hother, if_pos (Finset.mem_insert_of_mem hk)] at hbyte
      cases hbyte
    · rintro rfl k hk
      rw [getD_keyDown hkey.1]
      simp
  · cases hstep

/-- The report of a release is right exactly if no key is still held. -/
theorem showsKeys_keyUp_iff {held held' : Finset UInt8} (hvalid : Valid held) {key : UInt8}
    (hstep : heldStep held (.keyUp key) = some held') :
    ShowsKeys (.keyUp key) held' ↔ held' = ∅ := by
  have hvalid' := hvalid.step hstep
  rw [showsKeys_iff_report]
  constructor
  · intro hshows
    by_contra hne
    obtain ⟨k, hk⟩ := Finset.nonempty_iff_ne_empty.mpr hne
    have hbyte := hshows k (hvalid' k hk)
    rw [getD_keyUp, if_pos hk] at hbyte
    cases hbyte
  · rintro rfl k hk
    rw [getD_keyUp, if_neg (Finset.notMem_empty k)]

/-- At most one key is held. -/
def AtMostOne (held : Finset UInt8) : Prop := ∀ k ∈ held, held = {k}

/-- No key goes down while another is held. -/
def OneAtATime (held : Finset UInt8) (event : SurfaceEvent) : Prop :=
  ∀ key, event = .keyDown key → held = ∅

theorem AtMostOne.step {held held' : Finset UInt8} {event : SurfaceEvent} (h : AtMostOne held)
    (hone : OneAtATime held event) (hstep : heldStep held event = some held') :
    AtMostOne held' := by
  cases event with
  | keyDown key =>
    rw [heldStep, hone key rfl] at hstep
    split at hstep
    · cases hstep
      intro k hk
      rw [insert_empty_eq, Finset.mem_singleton] at hk
      rw [insert_empty_eq, hk]
    · cases hstep
  | keyUp key =>
    rw [heldStep] at hstep
    split at hstep
    · next hkey =>
      cases hstep
      rw [h key hkey.2, Finset.erase_singleton]
      exact fun k hk => absurd hk (Finset.notMem_empty k)
    · cases hstep
  | dialRotate | dialPress | dialRelease | touchTap => cases hstep

/-- The release of the only held key leaves none. -/
theorem AtMostOne.keyUp {held held' : Finset UInt8} {key : UInt8} (h : AtMostOne held)
    (hstep : heldStep held (.keyUp key) = some held') : held' = ∅ := by
  rw [heldStep] at hstep
  split at hstep
  · next hkey =>
    cases hstep
    rw [h key hkey.2, Finset.erase_singleton]
  · cases hstep

theorem valid_run {events : List SurfaceEvent} {held : Finset UInt8}
    (hrun : run heldStep ∅ events = some held) : Valid held :=
  run_invariant (fun _ _ _ h hstep => h.step hstep) (fun k hk => absurd hk (Finset.notMem_empty k))
    hrun

/-- **Key reports and key states**: in a history of presses and releases, the
report of every event tells exactly the keys held after it if and only if no key
goes down while another is held. -/
theorem reports_show_keys_iff (events : List SurfaceEvent) (held : Finset UInt8)
    (hrun : run heldStep ∅ events = some held) :
    (∀ pre event before after, pre ++ [event] <+: events → run heldStep ∅ pre = some before →
        heldStep before event = some after → ShowsKeys event after) ↔
      ∀ pre key before, pre ++ [.keyDown key] <+: events → run heldStep ∅ pre = some before →
        before = ∅ := by
  constructor
  · intro hshows pre key before hpre hbefore
    obtain ⟨after, hafter⟩ := exists_run_of_prefix hpre hrun
    rw [run_concat, hbefore, Option.bind_some] at hafter
    exact (showsKeys_keyDown_iff (valid_run hbefore) hafter).mp
      (hshows pre _ before after hpre hbefore hafter)
  · intro hempty pre event before after hpre hbefore hstep
    have hvalid := valid_run hbefore
    have hone : AtMostOne before := by
      refine run_invariant_of_guard (I := AtMostOne) (G := OneAtATime)
        (fun _ _ _ h hone hstep => h.step hone hstep)
        (fun k hk => absurd hk (Finset.notMem_empty k)) ?_
        ((List.prefix_append pre [event]).trans hpre) hbefore
      rintro pre _ mid hbefore hmid key rfl
      exact hempty pre key mid hbefore hmid
    cases event with
    | keyDown key =>
      exact (showsKeys_keyDown_iff hvalid hstep).mpr (hempty pre key before hpre hbefore)
    | keyUp key => exact (showsKeys_keyUp_iff hvalid hstep).mpr (hone.keyUp hstep)
    | dialRotate | dialPress | dialRelease | touchTap => cases hstep

/-- A key that is pressed and released. -/
theorem reports_show_keys_iff_tap :
    (∀ pre event before after, pre ++ [event] <+: [.keyDown 3, .keyUp 3] →
        run heldStep ∅ pre = some before → heldStep before event = some after →
        ShowsKeys event after) ↔
      ∀ pre key before, pre ++ [.keyDown key] <+: [.keyDown 3, .keyUp 3] →
        run heldStep ∅ pre = some before → before = ∅ :=
  reports_show_keys_iff _ ∅ (by decide)

/-- Two keys held together: the report of the second press tells of no first key. -/
theorem report_forgets_key :
    ¬ ∀ (pre : List SurfaceEvent) (event : SurfaceEvent) (before after : Finset UInt8),
      run heldStep ∅ pre = some before → heldStep before event = some after →
      ShowsKeys event after := by
  intro hall
  have hrun : run heldStep ∅ [.keyDown 0] = some {0} := by decide
  have hstep : heldStep {0} (.keyDown 1) = some {1, 0} := by decide
  have hempty := (showsKeys_keyDown_iff (valid_run hrun) hstep).mp (hall _ _ _ _ hrun hstep)
  exact Finset.singleton_ne_empty _ hempty

end OpenNetDeck
