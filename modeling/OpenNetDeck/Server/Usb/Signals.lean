import OpenNetDeck.Server.Usb.Watcher

/-!
# Disconnect signals

The bridge tasks beside the watcher. A task signals once that its deck is gone; the
signal bears the serial only and stays in the channel until the watcher drains it,
and the task it comes from may have been aborted by then.

## Main definitions

- `UsbWatcher.task` — the task of the bridge of a serial
- `SignalLoop.step` — a step of a task or of the watcher
- `SignalLoop.InFlight` — which signals may be on their way

## Main results

- `SignalLoop.exists_watcher_run` — the watcher takes the steps of `WatcherLoop`
- `signal_drops_own_bridge` — a signal drops the bridge it was sent from, if any
-/

namespace OpenNetDeck

open Transition

/-- The task of the bridge of a serial. -/
def UsbWatcher.task (self : UsbWatcher) (serial : String) : Option ℕ :=
  (self.activeBridges.lookup serial).map (·.taskHandle)

namespace UsbWatcher

variable {w : UsbWatcher}

theorem task_dropBridge (w : UsbWatcher) (serial other : String) :
    (w.dropBridge serial).task other = if other = serial then none else w.task other := by
  cases hbridge : w.activeBridges.lookup serial with
  | none =>
    rw [dropBridge_of_none hbridge]
    split
    · next hserial => rw [hserial, task, hbridge, Option.map_none]
    · rfl
  | some bridge =>
    rw [dropBridge_of_bridge hbridge, task]
    split
    · next hserial => rw [hserial, AList.lookup_erase, Option.map_none]
    · next hne => rw [AList.lookup_erase_ne hne, task]

/-- A scan keeps the bridges there are; a new one has the next task. -/
theorem task_scanDevice (w : UsbWatcher) (dev : Detected) (serial : String) :
    (w.scanDevice dev).task serial = w.task serial ∨
      w.task serial = none ∧ (w.scanDevice dev).task serial = some w.spawned := by
  obtain hsame | ⟨hnone, hattach⟩ := w.scanDevice_cases dev
  · rw [hsame]
    exact .inl rfl
  · rw [hattach]
    by_cases hserial : serial = dev.info.serial
    · right
      rw [hserial, task, task, hnone]
      refine ⟨rfl, ?_⟩
      show ((w.activeBridges.insert dev.info.serial _).lookup dev.info.serial).map _ = _
      rw [AList.lookup_insert]
      rfl
    · left
      show ((w.activeBridges.insert dev.info.serial _).lookup serial).map _ = _
      rw [AList.lookup_insert_ne hserial]
      rfl

theorem spawned_scanDevice (w : UsbWatcher) (dev : Detected) :
    w.spawned ≤ (w.scanDevice dev).spawned := by
  obtain hsame | ⟨-, hattach⟩ := w.scanDevice_cases dev
  · rw [hsame]
  · rw [hattach]
    exact Nat.le_succ _

theorem spawned_dropBridge (w : UsbWatcher) (serial : String) :
    (w.dropBridge serial).spawned = w.spawned := by
  rw [dropBridge]
  split <;> rfl

/-- The task was spawned, and no bridge has it any more. -/
def Gone (w : UsbWatcher) (task : ℕ) : Prop :=
  task < w.spawned ∧ ∀ serial, w.task serial ≠ some task

theorem Gone.scanDevice {task : ℕ} (h : w.Gone task) (dev : Detected) :
    (w.scanDevice dev).Gone task := by
  refine ⟨h.1.trans_le (w.spawned_scanDevice dev), ?_⟩
  intro serial
  obtain heq | ⟨-, heq⟩ := w.task_scanDevice dev serial
  · rw [heq]
    exact h.2 serial
  · rw [heq, Ne, Option.some.injEq]
    exact h.1.ne'

theorem Gone.dropBridge {task : ℕ} (h : w.Gone task) (serial : String) :
    (w.dropBridge serial).Gone task := by
  refine ⟨h.1.trans_eq (w.spawned_dropBridge serial).symm, ?_⟩
  intro other
  rw [task_dropBridge]
  split
  · exact nofun
  · exact h.2 other

end UsbWatcher

/-- A serial in the disconnect channel and the task that sent it. -/
structure Signal where
  serial : String
  task : ℕ
  deriving DecidableEq

/-- Capacity of the disconnect channel. -/
def disconnectCapacity : ℕ := 32

/-- The watcher, its disconnect channel, the tasks that have signalled, and those
that were aborted in this iteration of the loop. -/
structure SignalLoop where
  loop : WatcherLoop
  channel : List Signal
  signalled : List ℕ
  aborted : List Signal

namespace SignalLoop

def start (config : DockConfig) (overridePid : Option UInt16) : SignalLoop where
  loop := .start config overridePid
  channel := []
  signalled := []
  aborted := []

inductive Action where
  | send (signal : Signal)
  | receive
  | watcher (a : WatcherLoop.Action)

/-- The task of the bridge that a step drops. -/
def droppedBy (loop : WatcherLoop) : WatcherLoop.Action → List Signal
  | .signal serial => (loop.watcher.task serial).toList.map fun task => ⟨serial, task⟩
  | .remove =>
    match loop.phase with
    | .removing (serial :: _) => (loop.watcher.task serial).toList.map fun task => ⟨serial, task⟩
    | _ => []
  | _ => []

/-- The iteration ends with the sleep, after the scan or its error. -/
def endsIteration : WatcherLoop.Action → Bool
  | .scanError | .sleep => true
  | _ => false

/-- A step of the watcher. -/
def advance (self : SignalLoop) (a : WatcherLoop.Action) : Option SignalLoop :=
  (WatcherLoop.step self.loop a).map fun loop =>
    { self with
      loop
      aborted := if endsIteration a then [] else droppedBy self.loop a ++ self.aborted }

/-- A running task may signal once. An aborted one is stopped at the latest when
the iteration ends. -/
def MaySend (self : SignalLoop) (signal : Signal) : Prop :=
  (self.loop.watcher.task signal.serial = some signal.task ∨ signal ∈ self.aborted) ∧
    signal.task ∉ self.signalled ∧ self.channel.length < disconnectCapacity

instance (self : SignalLoop) (signal : Signal) : Decidable (self.MaySend signal) :=
  inferInstanceAs (Decidable (_ ∧ _))

/-- A step of a task or of the watcher. The drain ends when the channel is empty. -/
def step (self : SignalLoop) : Action → Option SignalLoop
  | .send signal =>
    if self.MaySend signal then
      some { self with
        channel := self.channel ++ [signal]
        signalled := signal.task :: self.signalled }
    else none
  | .receive =>
    match self.channel with
    | signal :: channel => advance { self with channel } (.signal signal.serial)
    | [] => none
  | .watcher (.signal _) => none
  | .watcher .scanError => if self.channel = [] then self.advance .scanError else none
  | .watcher (.listing devices) =>
    if self.channel = [] then self.advance (.listing devices) else none
  | .watcher a => self.advance a

variable {s s' : SignalLoop} {a : Action} {config : DockConfig} {overridePid : Option UInt16}

/-- What one step can do. -/
inductive Moves : SignalLoop → SignalLoop → Prop
  | send {s : SignalLoop} {signal : Signal} (hmay : s.MaySend signal) :
    Moves s { s with
      channel := s.channel ++ [signal]
      signalled := signal.task :: s.signalled }
  | receive {w : UsbWatcher} {signal : Signal} {channel : List Signal} {signalled : List ℕ}
      {aborted : List Signal} :
    Moves ⟨⟨w, .draining⟩, signal :: channel, signalled, aborted⟩
      ⟨⟨w.dropBridge signal.serial, .draining⟩, channel, signalled,
        droppedBy ⟨w, .draining⟩ (.signal signal.serial) ++ aborted⟩
  | scanError {w : UsbWatcher} {signalled : List ℕ} {aborted : List Signal} :
    Moves ⟨⟨w, .draining⟩, [], signalled, aborted⟩ ⟨⟨w, .draining⟩, [], signalled, []⟩
  | listing {w : UsbWatcher} {signalled : List ℕ} {aborted : List Signal}
      {devices : List Detected} :
    Moves ⟨⟨w, .draining⟩, [], signalled, aborted⟩
      ⟨⟨w, .scanning devices []⟩, [], signalled, aborted⟩
  | device {w : UsbWatcher} {channel : List Signal} {signalled : List ℕ} {aborted : List Signal}
      {dev : Detected} {devices : List Detected} {seenSerials seenSerials' : List String} :
    Moves ⟨⟨w, .scanning (dev :: devices) seenSerials⟩, channel, signalled, aborted⟩
      ⟨⟨w.scanDevice dev, .scanning devices seenSerials'⟩, channel, signalled, aborted⟩
  | collect {w : UsbWatcher} {channel : List Signal} {signalled : List ℕ} {aborted : List Signal}
      {seenSerials serials : List String} :
    Moves ⟨⟨w, .scanning [] seenSerials⟩, channel, signalled, aborted⟩
      ⟨⟨w, .removing serials⟩, channel, signalled, aborted⟩
  | remove {w : UsbWatcher} {channel : List Signal} {signalled : List ℕ} {aborted : List Signal}
      {serial : String} {serials : List String} :
    Moves ⟨⟨w, .removing (serial :: serials)⟩, channel, signalled, aborted⟩
      ⟨⟨w.dropBridge serial, .removing serials⟩, channel, signalled,
        droppedBy ⟨w, .removing (serial :: serials)⟩ .remove ++ aborted⟩
  | sleep {w : UsbWatcher} {channel : List Signal} {signalled : List ℕ} {aborted : List Signal} :
    Moves ⟨⟨w, .removing []⟩, channel, signalled, aborted⟩
      ⟨⟨w, .draining⟩, channel, signalled, []⟩

/-- A step of the watcher other than the drain. -/
theorem step_watcher {b : WatcherLoop.Action} (h : step s (.watcher b) = some s') :
    s.advance b = some s' ∧ (∀ serial, b ≠ .signal serial) ∧
      (b = .scanError ∨ (∃ devices, b = .listing devices) → s.channel = []) := by
  cases b with
  | signal serial => cases h
  | scanError =>
    obtain ⟨hempty, h⟩ := Option.ite_none_right_eq_some.mp h
    exact ⟨h, nofun, fun _ => hempty⟩
  | listing devices =>
    obtain ⟨hempty, h⟩ := Option.ite_none_right_eq_some.mp h
    exact ⟨h, nofun, fun _ => hempty⟩
  | device => exact ⟨h, nofun, by simp⟩
  | collect removedSerials => exact ⟨h, nofun, by simp⟩
  | remove => exact ⟨h, nofun, by simp⟩
  | sleep => exact ⟨h, nofun, by simp⟩

theorem advance_eq_some {b : WatcherLoop.Action} (h : s.advance b = some s') :
    ∃ loop, WatcherLoop.step s.loop b = some loop ∧
      s' = { s with
        loop
        aborted := if endsIteration b then [] else droppedBy s.loop b ++ s.aborted } := by
  obtain ⟨loop, hloop, rfl⟩ := Option.map_eq_some_iff.mp h
  exact ⟨loop, hloop, rfl⟩

theorem step_moves (h : step s a = some s') : Moves s s' := by
  obtain ⟨loop, channel, signalled, aborted⟩ := s
  cases a with
  | send signal =>
    simp only [step] at h
    split at h
    · next hmay =>
      cases h
      exact .send hmay
    · cases h
  | receive =>
    cases channel with
    | nil => cases h
    | cons signal channel =>
      obtain ⟨w, phase⟩ := loop
      cases phase with
      | draining =>
        cases h
        exact .receive
      | scanning devices seenSerials => cases devices <;> cases h
      | removing serials => cases serials <;> cases h
  | watcher b =>
    obtain ⟨hadvance, hsignal, hempty⟩ := step_watcher h
    obtain ⟨loop', hloop, rfl⟩ := advance_eq_some hadvance
    dsimp only at hloop hempty
    unfold WatcherLoop.step at hloop
    split at hloop
    · exact absurd rfl (hsignal _)
    · cases hloop
      obtain rfl := hempty (.inl rfl)
      exact .scanError
    · cases hloop
      obtain rfl := hempty (.inr ⟨_, rfl⟩)
      exact .listing
    · cases hloop
      exact .device
    · split at hloop
      · cases hloop
        exact .collect
      · cases hloop
    · cases hloop
      exact .remove
    · cases hloop
      exact .sleep
    · cases hloop

/-- The watcher takes the steps of its loop. -/
theorem step_loop (h : step s a = some s') :
    s'.loop = s.loop ∨ ∃ b, WatcherLoop.step s.loop b = some s'.loop := by
  cases a with
  | send signal =>
    obtain ⟨-, h⟩ := Option.ite_none_right_eq_some.mp h
    cases h
    exact .inl rfl
  | receive =>
    cases hchannel : s.channel with
    | nil => simp [step, hchannel] at h
    | cons signal channel =>
      simp only [step, hchannel] at h
      obtain ⟨loop, hloop, rfl⟩ := advance_eq_some h
      exact .inr ⟨_, hloop⟩
  | watcher b =>
    obtain ⟨loop, hloop, rfl⟩ := advance_eq_some (step_watcher h).1
    exact .inr ⟨b, hloop⟩

theorem exists_watcher_run {actions : List Action}
    (hrun : run step (start config overridePid) actions = some s) :
    ∃ as, run WatcherLoop.step (.start config overridePid) as = some s.loop := by
  refine run_invariant
    (I := fun s => ∃ as, run WatcherLoop.step (.start config overridePid) as = some s.loop)
    ?_ ⟨[], rfl⟩ hrun
  rintro s a s' ⟨as, has⟩ hstep
  obtain heq | ⟨b, hb⟩ := step_loop hstep
  · exact ⟨as, by rw [has, heq]⟩
  · refine ⟨as ++ [b], ?_⟩
    rw [run_concat, has]
    exact hb

theorem gone_step {task : ℕ} (h : s.loop.watcher.Gone task) (hstep : step s a = some s') :
    s'.loop.watcher.Gone task := by
  obtain heq | ⟨b, hb⟩ := step_loop hstep
  · rw [heq]
    exact h
  · exact WatcherLoop.watcher_step (I := fun w => w.Gone task)
      (fun _ dev h => h.scanDevice dev) (fun _ serial h => h.dropBridge serial) h hb

/-! ### Signals on their way -/

/-- What every step keeps. A signal in the channel is from the task of the serial's
bridge; or the serial has none, and it gets none before the channel is drained. -/
structure InFlight (s : SignalLoop) : Prop where
  sent : ∀ signal ∈ s.channel, signal.task ∈ s.signalled
  bridge : ∀ signal ∈ s.channel, s.loop.watcher.task signal.serial = some signal.task ∨
    s.loop.watcher.task signal.serial = none ∧
      ∀ devices seenSerials, s.loop.phase ≠ .scanning devices seenSerials
  aborted : ∀ signal ∈ s.aborted, signal.task ∈ s.signalled ∨
    s.loop.watcher.task signal.serial = none ∧ ∃ serials, s.loop.phase = .removing serials

theorem inFlight_start (config : DockConfig) (overridePid : Option UInt16) :
    (start config overridePid).InFlight where
  sent := nofun
  bridge := nofun
  aborted := nofun

theorem mem_abortedTask {w : UsbWatcher} {serial : String} {signal : Signal}
    (h : signal ∈ (w.task serial).toList.map fun task => (⟨serial, task⟩ : Signal)) :
    signal.serial = serial ∧ w.task serial = some signal.task := by
  obtain ⟨task, htask, rfl⟩ := List.mem_map.mp h
  exact ⟨rfl, Option.mem_toList.mp htask⟩

theorem InFlight.moves (h : s.InFlight) (hmoves : Moves s s') : s'.InFlight := by
  obtain ⟨hsent, hbridge, haborted⟩ := h
  cases hmoves with
  | @send _ signal hmay =>
    obtain ⟨hruns, hfresh, -⟩ := hmay
    refine ⟨?_, ?_, ?_⟩
    · intro other hother
      obtain hother | hother := List.mem_append.mp hother
      · exact List.mem_cons_of_mem _ (hsent other hother)
      · rw [List.mem_singleton.mp hother]
        exact List.mem_cons_self
    · intro other hother
      obtain hother | hother := List.mem_append.mp hother
      · exact hbridge other hother
      · rw [List.mem_singleton.mp hother]
        obtain hactive | hmem := hruns
        · exact .inl hactive
        · -- it was aborted by the scan: the removal is going on
          obtain hold | ⟨hnone, serials, hphase⟩ := haborted signal hmem
          · exact absurd hold hfresh
          · refine .inr ⟨hnone, ?_⟩
            intro devices seenSerials hscan
            cases hphase.symm.trans hscan
    · intro other hother
      exact (haborted other hother).imp_left (List.mem_cons_of_mem _)
  | @receive w signal channel signalled aborted =>
    refine ⟨?_, ?_, ?_⟩
    · exact fun other hother => hsent other (List.mem_cons_of_mem _ hother)
    · intro other hother
      show (w.dropBridge signal.serial).task _ = _ ∨ (w.dropBridge signal.serial).task _ = _ ∧ _
      rw [UsbWatcher.task_dropBridge]
      split
      · exact .inr ⟨rfl, nofun⟩
      · exact (hbridge other (List.mem_cons_of_mem _ hother)).imp_right fun h => ⟨h.1, nofun⟩
    · intro other hother
      left
      obtain hother | hother := List.mem_append.mp hother
      · -- the task that the drain aborts is the one that signalled
        obtain ⟨-, htask⟩ := mem_abortedTask hother
        obtain hhead | ⟨hnone, -⟩ := hbridge signal List.mem_cons_self
        · rw [Option.some.inj (htask.symm.trans hhead)]
          exact hsent signal List.mem_cons_self
        · cases hnone.symm.trans htask
      · obtain hold | ⟨-, serials, hphase⟩ := haborted other hother
        · exact hold
        · cases hphase
  | scanError => exact ⟨hsent, hbridge, nofun⟩
  | listing =>
    refine ⟨hsent, nofun, ?_⟩
    intro other hother
    obtain hold | ⟨-, serials, hphase⟩ := haborted other hother
    · exact .inl hold
    · cases hphase
  | @device w channel signalled aborted dev devices seenSerials seenSerials' =>
    refine ⟨hsent, ?_, ?_⟩
    · intro other hother
      obtain htask | ⟨-, hphase⟩ := hbridge other hother
      · left
        obtain heq | ⟨hnone, -⟩ := w.task_scanDevice dev other.serial
        · exact heq.trans htask
        · cases hnone.symm.trans htask
      · exact absurd rfl (hphase _ _)
    · intro other hother
      obtain hold | ⟨-, serials, hphase⟩ := haborted other hother
      · exact .inl hold
      · cases hphase
  | collect =>
    refine ⟨hsent, ?_, ?_⟩
    · exact fun other hother => (hbridge other hother).imp_right fun h => ⟨h.1, nofun⟩
    · intro other hother
      obtain hold | ⟨-, serials, hphase⟩ := haborted other hother
      · exact .inl hold
      · cases hphase
  | @remove w channel signalled aborted serial serials =>
    refine ⟨hsent, ?_, ?_⟩
    · intro other hother
      show (w.dropBridge serial).task _ = _ ∨ (w.dropBridge serial).task _ = _ ∧ _
      rw [UsbWatcher.task_dropBridge]
      split
      · exact .inr ⟨rfl, nofun⟩
      · exact (hbridge other hother).imp_right fun h => ⟨h.1, nofun⟩
    · intro other hother
      show _ ∨ (w.dropBridge serial).task _ = _ ∧ _
      rw [UsbWatcher.task_dropBridge]
      obtain hother | hother := List.mem_append.mp hother
      · rw [if_pos (mem_abortedTask hother).1]
        exact .inr ⟨rfl, serials, rfl⟩
      · refine (haborted other hother).imp_right ?_
        rintro ⟨hnone, -⟩
        rw [hnone, ite_self]
        exact ⟨rfl, serials, rfl⟩
  | sleep =>
    refine ⟨hsent, ?_, nofun⟩
    exact fun other hother => (hbridge other hother).imp_right fun h => ⟨h.1, nofun⟩

theorem inFlight_run {actions : List Action}
    (hrun : run step (start config overridePid) actions = some s) : s.InFlight :=
  run_invariant (fun _ _ _ h hstep => h.moves (step_moves hstep))
    (inFlight_start config overridePid) hrun

/-- A bridge that is gone stays so. -/
theorem gone_run {actions pre : List Action} {t : SignalLoop} {task : ℕ}
    (hrun : run step (start config overridePid) actions = some s) (hpre : pre <+: actions)
    (ht : run step (start config overridePid) pre = some t) (hgone : t.loop.watcher.Gone task) :
    s.loop.watcher.Gone task := by
  obtain ⟨post, rfl⟩ := hpre
  rw [run_append, ht] at hrun
  exact run_invariant (I := fun s => s.loop.watcher.Gone task)
    (fun _ _ _ h hstep => gone_step h hstep) hgone hrun

theorem receive_eq_some {signal : Signal} {channel : List Signal}
    (hhead : s.channel = signal :: channel) (hstep : step s .receive = some s') :
    s'.channel = channel ∧ s.loop.phase = .draining ∧
      s'.loop = ⟨s.loop.watcher.dropBridge signal.serial, .draining⟩ := by
  simp only [step, hhead] at hstep
  obtain ⟨loop, hloop, rfl⟩ := advance_eq_some hstep
  obtain ⟨⟨w, phase⟩, _, _, _⟩ := s
  cases phase with
  | draining =>
    cases hloop
    exact ⟨rfl, rfl, rfl⟩
  | scanning devices seenSerials => cases devices <;> cases hloop
  | removing serials => cases serials <;> cases hloop

end SignalLoop

open SignalLoop

/-- **Late signals**: whatever the bus lists and however the tasks interleave with
the watcher, the bridge that a received signal drops is the one whose task sent it,
and the signal of a task whose bridge had been dropped before changes nothing. -/
theorem signal_drops_own_bridge (config : DockConfig) (overridePid : Option UInt16)
    (actions : List SignalLoop.Action) (s s' : SignalLoop) (signal : Signal)
    (channel : List Signal)
    (hrun : run SignalLoop.step (.start config overridePid) actions = some s)
    (hhead : s.channel = signal :: channel) (hstep : SignalLoop.step s .receive = some s') :
    s'.channel = channel ∧
      (∀ serial bridge, s.loop.watcher.activeBridges.lookup serial = some bridge →
        s'.loop.watcher.activeBridges.lookup serial ≠ some bridge →
          serial = signal.serial ∧ bridge.taskHandle = signal.task) ∧
      ∀ pre t, pre <+: actions →
        run SignalLoop.step (.start config overridePid) pre = some t →
        t.loop.watcher.Gone signal.task → s'.loop = s.loop := by
  obtain ⟨hchannel, hphase, hloop⟩ := receive_eq_some hhead hstep
  have hflight : s.loop.watcher.task signal.serial = some signal.task ∨
      s.loop.watcher.task signal.serial = none :=
    ((inFlight_run hrun).bridge signal (hhead ▸ List.mem_cons_self)).imp_right And.left
  refine ⟨hchannel, ?_, ?_⟩
  · intro serial bridge hbridge hdropped
    rw [hloop] at hdropped
    cases hlookup : s.loop.watcher.activeBridges.lookup signal.serial with
    | none =>
      rw [UsbWatcher.dropBridge_of_none hlookup] at hdropped
      exact absurd hbridge hdropped
    | some own =>
      rw [UsbWatcher.dropBridge_of_bridge hlookup] at hdropped
      have hserial : serial = signal.serial := by
        by_contra hne
        exact hdropped ((AList.lookup_erase_ne hne).trans hbridge)
      subst hserial
      rw [UsbWatcher.task, hbridge] at hflight
      obtain htask | hnone := hflight
      · exact ⟨rfl, Option.some.inj htask⟩
      · cases hnone
  · intro pre t hpre ht hgone
    have hnone : s.loop.watcher.task signal.serial = none :=
      hflight.resolve_left ((gone_run hrun hpre ht hgone).2 signal.serial)
    rw [hloop, UsbWatcher.dropBridge_of_none (Option.map_eq_none_iff.mp hnone), ← hphase]

/-- The task of a deck signals during the scan that misses the deck, so the signal is
received when the bridge has been dropped. -/
theorem signal_drops_own_bridge_late :
    ∃ s s', run SignalLoop.step (.start DockConfig.default none)
        [.watcher (.listing [⟨⟨0, vendorIdElgato, 0x0080, some "A"⟩, true⟩]), .watcher .device,
          .watcher (.collect []), .watcher .sleep, .watcher (.listing []), .send ⟨"A", 0⟩,
          .watcher (.collect ["A"]), .watcher .remove, .watcher .sleep] = some s ∧
      s.channel = [⟨"A", 0⟩] ∧ SignalLoop.step s .receive = some s' ∧ s'.channel = [] ∧
      ∀ serial bridge, s.loop.watcher.activeBridges.lookup serial = some bridge →
        s'.loop.watcher.activeBridges.lookup serial ≠ some bridge →
          serial = "A" ∧ bridge.taskHandle = 0 := by
  have hcheck : ((run SignalLoop.step (.start DockConfig.default none)
        [.watcher (.listing [⟨⟨0, vendorIdElgato, 0x0080, some "A"⟩, true⟩]), .watcher .device,
          .watcher (.collect []), .watcher .sleep, .watcher (.listing []), .send ⟨"A", 0⟩,
          .watcher (.collect ["A"]), .watcher .remove, .watcher .sleep]).map fun s =>
        (s.channel, (SignalLoop.step s .receive).isSome)) = some ([⟨"A", 0⟩], true) := by
    decide +kernel
  obtain ⟨s, hrun, hs⟩ := Option.map_eq_some_iff.mp hcheck
  obtain ⟨hhead, hstep⟩ := Prod.mk.inj hs
  obtain ⟨s', hstep⟩ := Option.isSome_iff_exists.mp hstep
  obtain ⟨hchannel, hown, -⟩ :=
    signal_drops_own_bridge DockConfig.default none _ s s' _ _ hrun hhead hstep
  exact ⟨s, s', hrun, hhead, hstep, hchannel, hown⟩

end OpenNetDeck
