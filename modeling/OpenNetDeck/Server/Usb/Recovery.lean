import OpenNetDeck.Server.Usb.Ticks

/-!
# The watcher after any history

A pass of the watcher's loop from whatever state its loop can be in, devices that could
not be claimed, failed scans, disconnect signals and overwritten slots being behind it. A
deck that lost its slot keeps its bridge, and the loop passes it over from then on; it
gets a slot again once it has been unplugged for a pass.

## Main definitions

- `UsbWatcher.Stranded` — a listed deck has a bridge and no slot

## Main results

- `pass_exact_iff` — a pass over a good listing is exact if and only if none of its decks
  is stranded and the listing fits
- `watcher_recovers` — so it is for every good listing after a pass that shows no deck
-/

namespace OpenNetDeck

open Transition

namespace UsbWatcher

variable {config : DockConfig} {w w' : UsbWatcher} {t : Tick}

/-- A deck of the listing has a bridge and no slot. -/
def Stranded (w : UsbWatcher) (devices : List Detected) : Prop :=
  ∃ serial ∈ serials devices, serial ∈ w.activeBridges ∧ ∀ i, ¬ w.Holds i serial

theorem not_stranded_iff {devices : List Detected} :
    ¬ w.Stranded devices ↔ w.Shown (serials devices) := by
  simp [Stranded, Shown]

/-- A pass is exact if and only if the scan loses no listed serial. -/
theorem Consistent.exact_iff_shown (h : w.Consistent config) (hgood : GoodListing t.devices)
    (ht : w.tick t = some w') :
    w'.Exact t.devices ↔ (t.devices.foldl UsbWatcher.scanDevice w).Shown (serials t.devices) := by
  obtain ⟨hconsistent, -, hholds⟩ := h.tick hgood.opens ht
  have hscanned := w.mem_foldl_scanDevice hgood.opens
  -- the end of the pass drops only what is not listed
  constructor
  · intro hexact serial hserial _
    obtain ⟨i, hi, -⟩ := hexact.one serial hserial
    exact ⟨i, ((hholds i serial).mp hi).1⟩
  · intro hshown
    constructor
    · intro serial hserial
      obtain ⟨i, hi⟩ := hshown serial hserial ((hscanned serial).mpr (.inr hserial))
      have hi' : w'.Holds i serial := (hholds i serial).mpr ⟨hi, hserial⟩
      exact ⟨i, hi', fun j hj => hconsistent.holds_unique hi' hj⟩
    · intro i serial hi
      exact ((hholds i serial).mp hi).2

/-- **A pass is exact if and only if no deck is stranded and the listing fits.** -/
theorem Consistent.tick_exact_iff (h : w.Consistent config) (hgood : GoodListing t.devices)
    (ht : w.tick t = some w') :
    w'.Exact t.devices ↔ ¬ w.Stranded t.devices ∧ w.Fits t.devices := by
  rw [h.exact_iff_shown hgood ht, not_stranded_iff]
  constructor
  · intro hshown
    have hbefore : w.Shown (serials t.devices) := shown_of_foldl_scanDevice hshown
    exact ⟨hbefore, (h.shown_foldl_scanDevice_iff hbefore hgood.nodup hgood.opens
      fun _ hserial => hserial).mp hshown⟩
  · rintro ⟨hbefore, hfits⟩
    exact (h.shown_foldl_scanDevice_iff hbefore hgood.nodup hgood.opens
      fun _ hserial => hserial).mpr hfits

/-- A pass that shows no deck drops every bridge and frees every slot. -/
theorem Consistent.tick_of_none (h : w.Consistent config) (hnone : streamDecks t.devices = [])
    (ht : w.tick t = some w') :
    w'.Consistent config ∧ (∀ serial, serial ∉ w'.activeBridges) ∧
      ∀ i, w'.state.slots i = none := by
  have hserials : serials t.devices = [] := by
    rw [serials, hnone, List.map_nil]
  have hopens : ∀ dev ∈ streamDecks t.devices, dev.opens = true := by
    rw [hnone]
    exact List.forall_mem_nil _
  obtain ⟨hconsistent, hmem, -⟩ := h.tick hopens ht
  have hbridges : ∀ serial, serial ∉ w'.activeBridges := by
    intro serial hserial
    rw [hmem, hserials] at hserial
    exact List.not_mem_nil hserial
  refine ⟨hconsistent, hbridges, ?_⟩
  intro i
  by_contra hi
  obtain ⟨serial, hholds⟩ := exists_holds hi
  exact hbridges serial (hconsistent.mem_of_holds hholds)

/-- An empty table has room for every good listing. -/
theorem fits_of_empty {devices : List Detected} (hgood : GoodListing devices)
    (hempty : ∀ i, w.state.slots i = none) : w.Fits devices := by
  have hcard : w.state.occupied = ∅ := by
    ext i
    simp [hempty i]
  have harriving : w.arriving devices ≤ (streamDecks devices).length :=
    List.length_filter_le _ _
  left
  rw [hcard, Finset.card_empty, zero_add]
  exact harriving.trans hgood.length_le

end UsbWatcher

open UsbWatcher

/-- **The slot table after any history**: whatever the bus listed, the devices refused and
the bridges signalled before, the table is exact after a pass over a good listing if and
only if, before it, no deck of the listing has a bridge and no slot and the new ones fit. -/
theorem pass_exact_iff (config : DockConfig) (overridePid : Option UInt16)
    (actions : List WatcherLoop.Action) (s : WatcherLoop)
    (hrun : run WatcherLoop.step (.start config overridePid) actions = some s) (t : Tick)
    (w : UsbWatcher) (hgood : GoodListing t.devices) (ht : s.watcher.tick t = some w) :
    w.Exact t.devices ↔ ¬ s.watcher.Stranded t.devices ∧ s.watcher.Fits t.devices :=
  (WatcherLoop.run_consistent hrun).tick_exact_iff hgood ht

/-- Eight decks, of which the first lost its slot to a ninth that is gone. -/
theorem pass_exact_iff_stranded :
    ∃ s w, run WatcherLoop.step (.start DockConfig.default none)
        (Tick.actions ⟨["A1", "A2", "A3", "A4", "A5", "A6", "A7", "A8", "A9"].map .deck, []⟩) =
          some s ∧
      s.watcher.tick ⟨["A1", "A2", "A3", "A4", "A5", "A6", "A7", "A8"].map .deck, ["A9"]⟩ =
        some w ∧
      ¬ w.Exact (["A1", "A2", "A3", "A4", "A5", "A6", "A7", "A8"].map .deck) := by
  let ninth : Tick :=
    ⟨["A1", "A2", "A3", "A4", "A5", "A6", "A7", "A8", "A9"].map .deck, []⟩
  let eight : Tick :=
    ⟨["A1", "A2", "A3", "A4", "A5", "A6", "A7", "A8"].map .deck, ["A9"]⟩
  have hgood : GoodListing eight.devices := ⟨by decide, by decide +kernel, by decide +kernel⟩
  -- all the slots are occupied, so that the ninth deck takes slot 0 from the first
  have hcheck : ((run WatcherLoop.step (.start DockConfig.default none) ninth.actions).map fun s =>
      (decide (∀ i, (s.watcher.state.slots i).map (·.serial) ≠ some "A1"),
        (s.watcher.activeBridges.lookup "A1").isSome, (s.watcher.tick eight).isSome)) =
      some (true, true, true) := by
    decide +kernel
  obtain ⟨s, hrun, hs⟩ := Option.map_eq_some_iff.mp hcheck
  simp only [Prod.mk.injEq, decide_eq_true_eq] at hs
  obtain ⟨habsent, hbridge, htick⟩ := hs
  obtain ⟨w, hw⟩ := Option.isSome_iff_exists.mp htick
  refine ⟨s, w, hrun, hw, fun hexact => ?_⟩
  have hstranded : s.watcher.Stranded eight.devices := by
    refine ⟨"A1", by decide +kernel, AList.lookup_isSome.mp hbridge, ?_⟩
    rintro i ⟨entry, hentry, hserial⟩
    apply habsent i
    rw [hentry, ← hserial]
    rfl
  exact ((pass_exact_iff _ _ _ s hrun eight w hgood hw).mp hexact).1 hstranded

/-- **The watcher recovers**: whatever happened before, a pass that shows no deck leaves
no bridge and no occupied slot, and the table is exact after a pass over any good listing
that follows. -/
theorem watcher_recovers (config : DockConfig) (overridePid : Option UInt16)
    (actions : List WatcherLoop.Action) (s : WatcherLoop)
    (hrun : run WatcherLoop.step (.start config overridePid) actions = some s) (gone t : Tick)
    (w w' : UsbWatcher) (hnone : streamDecks gone.devices = []) (hgood : GoodListing t.devices)
    (hgone : s.watcher.tick gone = some w) (ht : w.tick t = some w') :
    (∀ serial, serial ∉ w.activeBridges) ∧ (∀ i, w.state.slots i = none) ∧
      w'.Exact t.devices := by
  obtain ⟨hconsistent, hbridges, hempty⟩ :=
    (WatcherLoop.run_consistent hrun).tick_of_none hnone hgone
  refine ⟨hbridges, hempty, (hconsistent.tick_exact_iff hgood ht).mpr ⟨?_, ?_⟩⟩
  · rintro ⟨serial, -, hserial, -⟩
    exact hbridges serial hserial
  · exact fits_of_empty hgood hempty

/-- The eight decks are unplugged and come back. -/
theorem watcher_recovers_eight :
    ∃ s w w', run WatcherLoop.step (.start DockConfig.default none)
        (Tick.actions ⟨["A1", "A2", "A3", "A4", "A5", "A6", "A7", "A8", "A9"].map .deck, []⟩) =
          some s ∧
      s.watcher.tick
        ⟨[], ["A9", "A8", "A7", "A6", "A5", "A4", "A3", "A2", "A1"]⟩ = some w ∧
      w.tick ⟨["A1", "A2", "A3", "A4", "A5", "A6", "A7", "A8"].map .deck, []⟩ = some w' ∧
      w'.Exact (["A1", "A2", "A3", "A4", "A5", "A6", "A7", "A8"].map .deck) := by
  let gone : Tick := ⟨[], ["A9", "A8", "A7", "A6", "A5", "A4", "A3", "A2", "A1"]⟩
  let eight : Tick := ⟨["A1", "A2", "A3", "A4", "A5", "A6", "A7", "A8"].map .deck, []⟩
  have hgood : GoodListing eight.devices := ⟨by decide, by decide +kernel, by decide +kernel⟩
  have hcheck : ((run WatcherLoop.step (.start DockConfig.default none)
      (Tick.actions ⟨["A1", "A2", "A3", "A4", "A5", "A6", "A7", "A8", "A9"].map .deck, []⟩)).bind
        fun s => (s.watcher.tick gone).map fun w => (w.tick eight).isSome) = some true := by
    decide +kernel
  obtain ⟨s, hrun, hs⟩ := Option.bind_eq_some_iff.mp hcheck
  obtain ⟨w, hw, hsome⟩ := Option.map_eq_some_iff.mp hs
  obtain ⟨w', hw'⟩ := Option.isSome_iff_exists.mp hsome
  obtain ⟨-, -, hexact⟩ := watcher_recovers _ _ _ s hrun gone eight w w' rfl hgood hw hw'
  exact ⟨s, w, w', hrun, hw, hw', hexact⟩

end OpenNetDeck
