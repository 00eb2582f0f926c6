import OpenNetDeck.Lib.Transition
import OpenNetDeck.Server.Dock

/-!
# Sticky reservations

What becomes of the slot of a deck that is unplugged and plugged in again. The
reservation stays when the deck goes, but it keeps nobody out of the slot: a deck
that comes in the meantime may get it, and then the first one gets another.

## Main definitions

- `DockState.plugStep` — one operation, for decks that are attached once at a time
- `DockState.place` — the number and the port of a slot
- `DockState.Returned` — what the attachments of a serial returned

## Main results

- `DockState.exists_free` — with eight serials there is a free slot for each
- `sticky_honoured_iff` — every serial keeps its slot exactly if none is attached
  while another one holds the slot reserved for it; then it gets the lowest free slot
-/

namespace OpenNetDeck

open Checked Transition

def DockOp.serial : DockOp → String
  | .attach device _ _ _ => device.serialNumber
  | .detach serial => serial

namespace DockState

/-- One operation; a serial is attached only while it is in no slot. -/
def plugStep (s : DockState) : DockOp → Option DockState
  | .attach device vid pid modelName =>
    if (findSerial s.slots device.serialNumber).isNone then
      some (s.apply (.attach device vid pid modelName))
    else none
  | .detach serial => some (s.apply (.detach serial))

/-- What an attach returns for a slot. -/
def place (config : DockConfig) (i : Slot) : UInt8 × UInt16 :=
  (i.asU8, saturatingAdd config.secondaryPort (UInt16.ofNat i.val))

/-- An attachment of the serial returned `r`. -/
def Returned (config : DockConfig) (ops : List DockOp) (serial : String) (r : UInt8 × UInt16) :
    Prop :=
  ∃ pre s device vid pid modelName, pre ++ [.attach device vid pid modelName] <+: ops ∧
    Transition.run plugStep (new config) pre = some s ∧ device.serialNumber = serial ∧
    r = (s.attachDevice device vid pid modelName).1

variable {config : DockConfig} {s s' : DockState}

theorem attach_result (s : DockState) (device : StreamDeckUsbHandle) (vid pid : UInt16)
    (modelName : String) :
    (s.attachDevice device vid pid modelName).1 =
      place s.config (s.targetSlot device.serialNumber) := by
  show (Slot.asU8 _, saturatingAdd _ (UInt16.ofNat (Slot.asU8 _).toNat)) = _
  rw [Slot.toNat_asU8]
  rfl

theorem place_inj {i j : Slot} (h : place config i = place config j) : i = j :=
  Slot.asU8_inj (congrArg Prod.fst h)

/-- What one operation can do. -/
theorem plugStep_cases {op : DockOp} (h : plugStep s op = some s') :
    s' = s.apply op ∧ ∀ device vid pid modelName, op = .attach device vid pid modelName →
      ∀ i entry, s.slots i = some entry → entry.serial ≠ device.serialNumber := by
  cases op with
  | attach device vid pid modelName =>
    rw [plugStep] at h
    split at h
    · next hfree =>
      cases h
      refine ⟨rfl, ?_⟩
      rintro _ _ _ _ ⟨⟩
      exact findSerial_eq_none (Option.isNone_iff_eq_none.mp hfree)
    · cases h
  | detach serial =>
    cases h
    exact ⟨rfl, nofun⟩

/-- A reserved slot that is free is taken again. -/
theorem targetSlot_of_free {serial : String} {i : Slot} (h : s.stickyMap serial = some i.asU8)
    (hfree : s.slots i = none) : s.targetSlot serial = i := by
  rw [targetSlot, h]
  simp only [dif_pos i.asU8_lt, i.mk_asU8, hfree, Option.isNone_none, if_true]

/-- One that is taken is left to its new owner. -/
theorem targetSlot_of_taken {serial : String} {i : Slot} (h : s.stickyMap serial = some i.asU8)
    (htaken : s.slots i ≠ none) : s.targetSlot serial = findLowestFreeSlot s.slots := by
  have hnot : ¬ (s.slots i).isNone = true := by simpa using htaken
  rw [targetSlot, h]
  simp only [dif_pos i.asU8_lt, i.mk_asU8, if_neg hnot]

/-- What every operation keeps: the entries have serials of their own among those
that occurred, and every reservation was returned to its serial. -/
structure Plugged (config : DockConfig) (ops : List DockOp) (s : DockState) : Prop where
  config_eq : s.config = config
  unique : ∀ i j entry other, s.slots i = some entry → s.slots j = some other →
    other.serial = entry.serial → j = i
  serials : ∀ i entry, s.slots i = some entry → entry.serial ∈ ops.map DockOp.serial
  reserved : ∀ serial k, s.stickyMap serial = some k →
    ∃ i : Slot, k = i.asU8 ∧ Returned config ops serial (place config i)

theorem Returned.mono {ops ops' : List DockOp} {serial : String} {r : UInt8 × UInt16}
    (h : Returned config ops serial r) (hle : ops <+: ops') : Returned config ops' serial r := by
  obtain ⟨pre, s, device, vid, pid, modelName, hpre, hrest⟩ := h
  exact ⟨pre, s, device, vid, pid, modelName, hpre.trans hle, hrest⟩

theorem Plugged.step {ops : List DockOp} {op : DockOp} (h : Plugged config ops s)
    (hrun : Transition.run plugStep (new config) ops = some s) (hstep : plugStep s op = some s') :
    Plugged config (ops ++ [op]) s' := by
  obtain ⟨rfl, habsent⟩ := plugStep_cases hstep
  have hmono : ∀ {serial r}, Returned config ops serial r →
      Returned config (ops ++ [op]) serial r := fun hr => hr.mono (List.prefix_append ops [op])
  have hold : ∀ {serial}, serial ∈ ops.map DockOp.serial →
      serial ∈ (ops ++ [op]).map DockOp.serial := by
    intro serial hserial
    rw [List.map_append]
    exact List.mem_append_left _ hserial
  cases op with
  | attach device vid pid modelName =>
    have hnew : device.serialNumber ∈
        (ops ++ [DockOp.attach device vid pid modelName]).map DockOp.serial := by
      simp [DockOp.serial]
    refine ⟨h.config_eq, ?_, ?_, ?_⟩
    · intro i j entry other hi hj hserial
      obtain ⟨htarget, rfl⟩ | ⟨-, hi⟩ := slots_attach hi
      · obtain ⟨htarget', -⟩ | ⟨-, hj⟩ := slots_attach hj
        · exact htarget'.trans htarget.symm
        · exact absurd hserial (habsent _ _ _ _ rfl j other hj)
      · obtain ⟨-, rfl⟩ | ⟨-, hj⟩ := slots_attach hj
        · exact absurd hserial.symm (habsent _ _ _ _ rfl i entry hi)
        · exact h.unique i j entry other hi hj hserial
    · intro i entry hi
      obtain ⟨-, rfl⟩ | ⟨-, hi⟩ := slots_attach hi
      · exact hnew
      · exact hold (h.serials i entry hi)
    · intro serial k hk
      change Function.update s.stickyMap device.serialNumber _ serial = some k at hk
      by_cases hserial : serial = device.serialNumber
      · subst hserial
        rw [Function.update_self, Option.some.injEq] at hk
        refine ⟨s.targetSlot device.serialNumber, hk.symm, ops, s, device, vid, pid, modelName,
          List.prefix_rfl, hrun, rfl, ?_⟩
        rw [attach_result, h.config_eq]
      · rw [Function.update_of_ne hserial] at hk
        obtain ⟨i, hi, hr⟩ := h.reserved serial k hk
        exact ⟨i, hi, hmono hr⟩
  | detach serial =>
    obtain ⟨hsticky, hconfig⟩ := s.detach_frame serial
    refine ⟨hconfig.trans h.config_eq, ?_, ?_, ?_⟩
    · intro i j entry other hi hj hserial
      exact h.unique i j entry other (slots_detach hi).1 (slots_detach hj).1 hserial
    · intro i entry hi
      exact hold (h.serials i entry (slots_detach hi).1)
    · intro serial' k hk
      change (s.detachDeviceBySerial serial).2.stickyMap serial' = some k at hk
      rw [hsticky] at hk
      obtain ⟨i, hi, hr⟩ := h.reserved serial' k hk
      exact ⟨i, hi, hmono hr⟩

theorem plugged_run {ops : List DockOp} (hrun : Transition.run plugStep (new config) ops = some s) :
    Plugged config ops s := by
  induction ops using List.reverseRecOn generalizing s with
  | nil =>
    cases hrun
    refine ⟨rfl, ?_, nofun, nofun⟩
    intro i j entry other hi
    cases hi
  | append_singleton ops op ih =>
    obtain ⟨mid, hmid, hstep⟩ := run_concat_eq_some hrun
    exact (ih hmid).step hmid hstep

/-- Where at most eight serials occur and one of them is in no slot, a slot is
free. -/
theorem Plugged.exists_free {ops : List DockOp} {serial : String} (h : Plugged config ops s)
    (hmem : serial ∈ ops.map DockOp.serial)
    (hfew : (ops.map DockOp.serial).toFinset.card ≤ maxChildSlots)
    (habsent : ∀ i entry, s.slots i = some entry → entry.serial ≠ serial) :
    ∃ i, s.slots i = none := by
  by_contra hfull
  -- else the eight entries and the absent serial are nine serials
  have hentry : ∀ i, ∃ entry, s.slots i = some entry := by
    intro i
    exact Option.ne_none_iff_exists'.mp fun hnone => hfull ⟨i, hnone⟩
  choose entry hslot using hentry
  have hinj : Function.Injective fun i => (entry i).serial := by
    intro i j hij
    exact h.unique j i (entry j) (entry i) (hslot j) (hslot i) hij
  have hsub : Finset.univ.image (fun i => (entry i).serial) ⊆
      (ops.map DockOp.serial).toFinset.erase serial := by
    intro x hx
    obtain ⟨i, -, rfl⟩ := Finset.mem_image.mp hx
    rw [Finset.mem_erase, List.mem_toFinset]
    exact ⟨habsent i (entry i) (hslot i), h.serials i (entry i) (hslot i)⟩
  have hcard := Finset.card_le_card hsub
  rw [Finset.card_image_of_injective _ hinj, Finset.card_fin] at hcard
  have hlt := Finset.card_erase_lt_of_mem (List.mem_toFinset.mpr hmem)
  omega

/-- A slot that is taken is not the target while one is free. -/
theorem targetSlot_ne_of_taken {serial : String} {i : Slot} (hfree : ∃ j, s.slots j = none)
    (htaken : s.slots i ≠ none) : s.targetSlot serial ≠ i := by
  rintro rfl
  obtain htarget | ⟨hfull, -⟩ := s.targetSlot_spec serial
  · exact htaken htarget
  · obtain ⟨j, hj⟩ := hfree
    exact hfull j hj

/-- The reserved slot is free whenever the serial is attached again. -/
def FreeOnReturn (config : DockConfig) (ops : List DockOp) (serial : String) : Prop :=
  ∀ (pre : List DockOp) (s : DockState) (device : StreamDeckUsbHandle) (vid pid : UInt16)
    (modelName : String) (i : Slot), pre ++ [.attach device vid pid modelName] <+: ops →
    Transition.run plugStep (new config) pre = some s → device.serialNumber = serial →
    s.stickyMap serial = some i.asU8 → s.slots i = none

/-- While that is so, all that the serial was given is the slot reserved for it. -/
theorem returned_eq_place {ops : List DockOp} {serial : String} {r : UInt8 × UInt16}
    (hrun : Transition.run plugStep (new config) ops = some s)
    (hfree : FreeOnReturn config ops serial) (hr : Returned config ops serial r) :
    ∃ i : Slot, s.stickyMap serial = some i.asU8 ∧ r = place config i := by
  induction ops using List.reverseRecOn generalizing s with
  | nil =>
    obtain ⟨pre, _, device, vid, pid, modelName, hpre, -⟩ := hr
    simp at hpre
  | append_singleton ops op ih =>
    obtain ⟨mid, hmid, hstep⟩ := run_concat_eq_some hrun
    obtain ⟨rfl, -⟩ := plugStep_cases hstep
    obtain ⟨pre, s₀, device, vid, pid, modelName, hpre, hs₀, rfl, rfl⟩ := hr
    obtain heq | hpre := List.prefix_concat_iff.mp hpre
    · -- the last operation is the one that returned it
      obtain ⟨rfl, hop⟩ := List.append_inj' heq rfl
      cases hop
      cases hmid.symm.trans hs₀
      refine ⟨mid.targetSlot device.serialNumber, ?_, ?_⟩
      · exact Function.update_self _ _ _
      · rw [attach_result, (plugged_run hmid).config_eq]
    · have hfree' : FreeOnReturn config ops device.serialNumber := by
        intro pre s device vid pid modelName i hpre
        exact hfree pre s device vid pid modelName i (hpre.trans (List.prefix_append ops [op]))
      obtain ⟨i, hsticky, hi⟩ :=
        ih hmid hfree' ⟨pre, s₀, device, vid, pid, modelName, hpre, hs₀, rfl, rfl⟩
      refine ⟨i, ?_, hi⟩
      cases op with
      | attach device' vid' pid' modelName' =>
        show Function.update mid.stickyMap device'.serialNumber _ device.serialNumber = _
        by_cases hserial : device'.serialNumber = device.serialNumber
        · have hslot : mid.slots i = none :=
            hfree ops mid device' vid' pid' modelName' i List.prefix_rfl hmid hserial hsticky
          rw [hserial, Function.update_self, targetSlot_of_free hsticky hslot]
          rfl
        · rw [Function.update_of_ne (Ne.symm hserial)]
          exact hsticky
      | detach serial =>
        show (mid.detachDeviceBySerial serial).2.stickyMap device.serialNumber = _
        rw [(mid.detach_frame serial).1]
        exact hsticky

theorem Returned.mem {ops : List DockOp} {serial : String} {r : UInt8 × UInt16}
    (h : Returned config ops serial r) : serial ∈ ops.map DockOp.serial := by
  obtain ⟨pre, _, device, vid, pid, modelName, hpre, -, rfl, -⟩ := h
  have hop : DockOp.attach device vid pid modelName ∈ ops := hpre.subset (by simp)
  exact List.mem_map_of_mem hop

/-- A serial with a reservation finds a free slot. -/
theorem exists_free_on_return {ops pre : List DockOp} {mid : DockState}
    {device : StreamDeckUsbHandle} {vid pid : UInt16} {modelName : String} {i : Slot}
    (hrun : Transition.run plugStep (new config) ops = some s)
    (hfew : (ops.map DockOp.serial).toFinset.card ≤ maxChildSlots)
    (hpre : pre ++ [.attach device vid pid modelName] <+: ops)
    (hmid : Transition.run plugStep (new config) pre = some mid)
    (hsticky : mid.stickyMap device.serialNumber = some i.asU8) : ∃ j, mid.slots j = none := by
  have hplug := plugged_run hmid
  obtain ⟨s₁, hs₁⟩ := exists_run_of_prefix hpre hrun
  obtain ⟨mid', hmid', hstep⟩ := run_concat_eq_some hs₁
  cases hmid.symm.trans hmid'
  have habsent := (plugStep_cases hstep).2 device vid pid modelName rfl
  obtain ⟨_, _, hfirst⟩ := hplug.reserved device.serialNumber i.asU8 hsticky
  have hbefore : pre <+: ops := (List.prefix_append pre _).trans hpre
  refine hplug.exists_free hfirst.mem (le_trans (Finset.card_le_card ?_) hfew) habsent
  intro x hx
  rw [List.mem_toFinset] at hx ⊢
  exact (hbefore.map _).subset hx

/-- A serial that returns to a taken slot is given another one. -/
theorem free_of_returned_eq {ops : List DockOp} {serial : String}
    (hrun : Transition.run plugStep (new config) ops = some s)
    (hfew : (ops.map DockOp.serial).toFinset.card ≤ maxChildSlots)
    (hsame : ∀ r r', Returned config ops serial r → Returned config ops serial r' → r' = r) :
    FreeOnReturn config ops serial := by
  rintro pre mid device vid pid modelName i hpre hmid rfl hsticky
  have hplug := plugged_run hmid
  have hfree := exists_free_on_return hrun hfew hpre hmid hsticky
  obtain ⟨j, hj, hfirst⟩ := hplug.reserved device.serialNumber i.asU8 hsticky
  obtain rfl := Slot.asU8_inj hj
  have hbefore : pre <+: ops := (List.prefix_append pre _).trans hpre
  by_contra htaken
  have hback : Returned config ops device.serialNumber
      (place config (mid.targetSlot device.serialNumber)) := by
    refine ⟨pre, mid, device, vid, pid, modelName, hpre, hmid, rfl, ?_⟩
    rw [attach_result, hplug.config_eq]
  exact targetSlot_ne_of_taken hfree htaken (place_inj (hsame _ _ (hfirst.mono hbefore) hback))

/-- The slot that it is given is the lowest free one. -/
theorem lowest_of_taken {ops pre : List DockOp} {mid : DockState} {device : StreamDeckUsbHandle}
    {vid pid : UInt16} {modelName : String} {i : Slot}
    (hrun : Transition.run plugStep (new config) ops = some s)
    (hfew : (ops.map DockOp.serial).toFinset.card ≤ maxChildSlots)
    (hpre : pre ++ [.attach device vid pid modelName] <+: ops)
    (hmid : Transition.run plugStep (new config) pre = some mid)
    (hsticky : mid.stickyMap device.serialNumber = some i.asU8) (htaken : mid.slots i ≠ none) :
    ∃ j, (mid.attachDevice device vid pid modelName).1 = place config j ∧
      mid.slots j = none ∧ ∀ k < j, mid.slots k ≠ none := by
  refine ⟨findLowestFreeSlot mid.slots, ?_,
    findLowestFreeSlot_least (exists_free_on_return hrun hfew hpre hmid hsticky)⟩
  rw [attach_result, (plugged_run hmid).config_eq, targetSlot_of_taken hsticky htaken]

end DockState

open DockState

/-- With at most eight serials, all attachments of a serial return the same slot
and port exactly if no one holds the slot reserved for it when it comes back; if someone
does, it returns the lowest free slot instead. -/
theorem sticky_honoured_iff (config : DockConfig) (ops : List DockOp) (s : DockState)
    (hrun : Transition.run plugStep (new config) ops = some s)
    (hfew : (ops.map DockOp.serial).toFinset.card ≤ maxChildSlots) (serial : String) :
    ((∀ r r', Returned config ops serial r → Returned config ops serial r' → r' = r) ↔
      FreeOnReturn config ops serial) ∧
    ∀ (pre : List DockOp) (mid : DockState) (device : StreamDeckUsbHandle) (vid pid : UInt16)
      (modelName : String) (i : Slot), pre ++ [.attach device vid pid modelName] <+: ops →
      Transition.run plugStep (new config) pre = some mid → device.serialNumber = serial →
      mid.stickyMap serial = some i.asU8 → mid.slots i ≠ none →
      ∃ j, (mid.attachDevice device vid pid modelName).1 = place config j ∧
        mid.slots j = none ∧ ∀ k < j, mid.slots k ≠ none := by
  refine ⟨⟨free_of_returned_eq hrun hfew, ?_⟩, ?_⟩
  · intro hfree r r' hr hr'
    obtain ⟨i, hi, rfl⟩ := returned_eq_place hrun hfree hr
    obtain ⟨i', hi', rfl⟩ := returned_eq_place hrun hfree hr'
    rw [hi, Option.some.injEq] at hi'
    rw [Slot.asU8_inj hi']
  · rintro pre mid device vid pid modelName i hpre hmid rfl hsticky htaken
    exact lowest_of_taken hrun hfew hpre hmid hsticky htaken

/-- A Stream Deck with a serial is plugged in. -/
def plugIn (serial : String) : DockOp :=
  .attach ⟨0, vendorIdElgato, 0x0080, serial, none⟩ vendorIdElgato 0x0080 "Stream Deck"

/-- A deck is unplugged and plugged in again, and so is another one in between. -/
theorem sticky_honoured_iff_replug :
    let ops := [plugIn "A", .detach "A", plugIn "A", .detach "A", plugIn "B", plugIn "A"]
    ∃ s mid, Transition.run plugStep (new .default) ops = some s ∧
      Transition.run plugStep (new .default) (ops.take 5) = some mid ∧
      ((∀ r r', Returned .default ops "A" r → Returned .default ops "A" r' → r' = r) ↔
        FreeOnReturn .default ops "A") ∧
      ∃ j, (mid.attachDevice ⟨0, vendorIdElgato, 0x0080, "A", none⟩ vendorIdElgato 0x0080
          "Stream Deck").1 = place .default j ∧
        mid.slots j = none ∧ ∀ k < j, mid.slots k ≠ none := by
  intro ops
  have hcheck : (Transition.run plugStep (new .default) ops).isSome := by
    decide +kernel
  have hreserved : ((Transition.run plugStep (new .default) (ops.take 5)).map fun mid =>
      (mid.stickyMap "A", (mid.slots ⟨0, maxChildSlots_pos⟩).isSome)) =
        some (some (Slot.asU8 ⟨0, maxChildSlots_pos⟩), true) := by
    decide +kernel
  obtain ⟨s, hrun⟩ := Option.isSome_iff_exists.mp hcheck
  obtain ⟨mid, hmid, hslot⟩ := Option.map_eq_some_iff.mp hreserved
  obtain ⟨hsticky, htaken⟩ := Prod.mk.inj hslot
  obtain ⟨hiff, hlowest⟩ := sticky_honoured_iff .default ops s hrun (by decide +kernel) "A"
  exact ⟨s, mid, hrun, hmid, hiff, hlowest (ops.take 5) mid _ _ _ _ _ ⟨[], rfl⟩ hmid rfl hsticky
    (Option.isSome_iff_ne_none.mp htaken)⟩

/-- Another deck gets slot 0 while the first one is away, and this one slot 1 when
it comes back. -/
theorem reservation_taken :
    let ops := [plugIn "A", .detach "A", plugIn "B", plugIn "A"]
    (∃ s, Transition.run plugStep (new .default) ops = some s) ∧
      (ops.map DockOp.serial).toFinset.card ≤ maxChildSlots ∧
      Returned .default ops "A" (0, 5344) ∧ Returned .default ops "A" (1, 5345) := by
  have hrun : (Transition.run plugStep (new .default)
      [plugIn "A", .detach "A", plugIn "B", plugIn "A"]).isSome := by
    decide +kernel
  have hback : ((Transition.run plugStep (new .default)
      [plugIn "A", .detach "A", plugIn "B"]).map fun s =>
        (s.attachDevice ⟨0, vendorIdElgato, 0x0080, "A", none⟩ vendorIdElgato 0x0080
          "Stream Deck").1) = some (1, 5345) := by
    decide +kernel
  obtain ⟨mid, hmid, hr⟩ := Option.map_eq_some_iff.mp hback
  have hfirst : (0, 5344) = ((new .default).attachDevice ⟨0, vendorIdElgato, 0x0080, "A", none⟩
      vendorIdElgato 0x0080 "Stream Deck").1 := by
    decide +kernel
  refine ⟨Option.isSome_iff_exists.mp hrun, by decide +kernel, ?_, ?_⟩
  · exact ⟨[], _, ⟨0, vendorIdElgato, 0x0080, "A", none⟩, vendorIdElgato, 0x0080, "Stream Deck",
      ⟨_, rfl⟩, run_nil _, rfl, hfirst⟩
  · exact ⟨[plugIn "A", .detach "A", plugIn "B"], mid, ⟨0, vendorIdElgato, 0x0080, "A", none⟩,
      vendorIdElgato, 0x0080, "Stream Deck", List.prefix_rfl, hmid, rfl, hr.symm⟩

end OpenNetDeck
