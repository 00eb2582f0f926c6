import OpenNetDeck.Server.Usb.WriteLock

/-!
# The endpoints of a deck

`open_from_info` reads the descriptors of the interface that it claims: the last IN
endpoint is the one that is polled, the last OUT endpoint the one that images are written
to.

## Main definitions

- `ClaimedEndpoints.ofDescriptors` — the endpoints of a handle

## Main results

- `ofDescriptors_eq` — the endpoints that are chosen
- `writes_go_to_out_endpoint` — a claimed deck always has an OUT endpoint: no image is
  written by a control transfer
-/

namespace OpenNetDeck

open Transition

/-- `In` or `Out`, seen from the host. -/
inductive Direction where
  | input
  | output
  deriving DecidableEq

structure EndpointDescriptor where
  address : UInt8
  direction : Direction
  maxPacketSize : ℕ

/-- The endpoints of a handle. -/
structure ClaimedEndpoints where
  epInAddr : UInt8
  epOutAddr : Option UInt8
  maxPacketSize : ℕ

namespace ClaimedEndpoints

/-- Those of a device without descriptors. -/
def initial : ClaimedEndpoints where
  epInAddr := 0x81
  epOutAddr := some 0x02
  maxPacketSize := 512

/-- What a descriptor changes. -/
def see (self : ClaimedEndpoints) (ep : EndpointDescriptor) : ClaimedEndpoints :=
  if ep.direction = .input then
    { self with epInAddr := ep.address, maxPacketSize := ep.maxPacketSize }
  else if ep.direction = .output then { self with epOutAddr := some ep.address }
  else self

/-- The loops over the alternate settings and their endpoints. -/
def ofDescriptors (descriptors : List (List EndpointDescriptor)) : ClaimedEndpoints :=
  descriptors.foldl (fun self alt => alt.foldl see self) initial

end ClaimedEndpoints

/-- The last endpoint of a direction. -/
def lastEndpoint (direction : Direction) (descriptors : List (List EndpointDescriptor)) :
    Option EndpointDescriptor :=
  (descriptors.flatten.filter (·.direction = direction)).getLast?

namespace ClaimedEndpoints

theorem foldl_see (eps : List EndpointDescriptor) :
    eps.foldl see initial =
      { epInAddr :=
          ((eps.filter (·.direction = .input)).getLast?.map (·.address)).getD 0x81
        epOutAddr :=
          some (((eps.filter (·.direction = .output)).getLast?.map (·.address)).getD 0x02)
        maxPacketSize :=
          ((eps.filter (·.direction = .input)).getLast?.map (·.maxPacketSize)).getD 512 } := by
  -- from the back: the last endpoint of a direction decides
  induction eps using List.reverseRecOn with
  | nil => rfl
  | append_singleton eps ep ih =>
    rw [List.foldl_append, ih, List.foldl_cons, List.foldl_nil, see]
    cases hdirection : ep.direction with
    | input => simp [hdirection]
    | output => simp [hdirection]

/-- The last endpoint of each direction is chosen. -/
theorem ofDescriptors_eq (descriptors : List (List EndpointDescriptor)) :
    ofDescriptors descriptors =
      { epInAddr := ((lastEndpoint .input descriptors).map (·.address)).getD 0x81
        epOutAddr := some (((lastEndpoint .output descriptors).map (·.address)).getD 0x02)
        maxPacketSize :=
          ((lastEndpoint .input descriptors).map (·.maxPacketSize)).getD 512 } := by
  rw [ofDescriptors, ← List.foldl_flatten]
  exact foldl_see descriptors.flatten

end ClaimedEndpoints

/-- The value of a control request for a feature report. -/
def featureReport (reportId : UInt8) : UInt16 := 0x0300 ||| reportId.toUInt16

/-- The requests that a deck gets: feature reports by control transfers, and everything else
through the OUT endpoint. -/
def UsbRequest.Proper (outAddr : UInt8) : UsbRequest → Prop
  | controlIn control => control.request = 0x01 ∧ ∃ reportId, control.value = featureReport reportId
  | controlOut control => control.request = 0x09 ∧
    ∃ reportId data, control.data = reportId :: data ∧ control.value = featureReport reportId
  | openEndpoint addr => addr = outAddr
  | submit addr data => addr = outAddr ∧ data ≠ []
  | closeEndpoint addr => addr = outAddr

theorem every_transferOut {addr : UInt8} {data : List UInt8} (h : data ≠ []) :
    (transferOut addr data).Every (UsbRequest.Proper addr) := by
  refine ⟨⟨rfl, h⟩, fun completion => ⟨rfl, fun _ => ?_⟩⟩
  cases completion with
  | ok _ => exact trivial
  | error _ => exact trivial

/-- The methods of a handle with an OUT endpoint make no other requests. -/
theorem UsbCall.every_program {addr : UInt8} {call : UsbCall}
    {p : UsbProgram call.Outcome} (h : call.program (some addr) = some p) :
    p.Every (UsbRequest.Proper addr) := by
  cases call with
  | getFeatureReport reportId length =>
    cases h
    refine ⟨⟨rfl, reportId, rfl⟩, fun r => ?_⟩
    cases r with
    | ok _ => exact trivial
    | error _ => exact trivial
  | setFeatureReport data =>
    cases data with
    | nil => cases h
    | cons reportId data =>
      cases h
      rw [ControlOut.program]
      split
      · refine ⟨⟨rfl, reportId, data, rfl, rfl⟩, fun r => ?_⟩
        cases r with
        | ok _ => exact trivial
        | error _ => exact trivial
      · exact trivial
  | writeOut data =>
    cases data with
    | nil => cases h
    | cons first data =>
      have htransfer : (transferOut addr (first :: data)).Every (UsbRequest.Proper addr) :=
        every_transferOut (List.cons_ne_nil _ _)
      cases h
      refine ⟨rfl, fun r => ?_⟩
      cases r with
      | ok _ => exact htransfer
      | error _ =>
        refine ⟨rfl, fun r => ?_⟩
        cases r with
        | ok _ => exact htransfer
        | error _ => exact trivial

/-- What the deck has been asked in a run. -/
theorem SharedDeck.proper_run {ι : Type*} [DecidableEq ι] {endpoints : ι → Endpoint}
    {addr : UInt8} {actions : List (Action ι)} {s : SharedDeck ι}
    (hrun : run (step endpoints (some addr)) .start actions = some s) :
    ∀ i o, (i, .asked o) ∈ s.lock.trace → o.Proper addr := by
  have hkept : s.InTurn endpoints (some addr) ∧
      ∀ i o, (i, .asked o) ∈ s.lock.trace → o.Proper addr := by
    refine run_invariant (I := fun s => s.InTurn endpoints (some addr) ∧
      ∀ i o, (i, .asked o) ∈ s.lock.trace → o.Proper addr) ?_ ?_ hrun
    -- only the call that holds the lock asks, and what its method asks is proper
    · rintro s a s' ⟨hturn, hproper⟩ hstep
      refine ⟨hturn.step hstep, ?_⟩
      obtain ⟨i, frame, -, -, hlock⟩ | ⟨a, -, -, hlock⟩ := step_cases hstep
      · exact hturn.serial.asked_step (fun _ _ => UsbCall.every_program) hproper hlock
      · exact hturn.serial.asked_step (fun _ _ => UsbCall.every_program) hproper hlock
    · exact ⟨inTurn_run (run_nil _), fun i o ho => absurd ho List.not_mem_nil⟩
  exact hkept.2

/-- **Images go to the OUT endpoint**: whatever the descriptors of a deck and however its
connections get in each other's way, the deck gets feature reports by control transfers, and
every other write through the last OUT endpoint of the descriptors, or through 0x02 if there
is none. The control transfer for a deck without an OUT endpoint is never made. -/
theorem writes_go_to_out_endpoint {ι : Type*} [DecidableEq ι] (endpoints : ι → Endpoint)
    (descriptors : List (List EndpointDescriptor)) (actions : List (SharedDeck.Action ι))
    (s : SharedDeck ι)
    (hrun : run (SharedDeck.step endpoints (ClaimedEndpoints.ofDescriptors descriptors).epOutAddr)
      .start actions = some s) (i : ι) (o : UsbRequest) (ho : (i, .asked o) ∈ s.lock.trace) :
    o.Proper (((lastEndpoint .output descriptors).map (·.address)).getD 0x02) := by
  rw [ClaimedEndpoints.ofDescriptors_eq] at hrun
  exact SharedDeck.proper_run hrun i o ho

/-- A deck without descriptors: the image goes to endpoint 2. -/
theorem writes_go_to_out_endpoint_none :
    ∃ s, run (SharedDeck.step
        (fun _ : Unit => .secondary ⟨0, vendorIdElgato, 0x0080, "A", none⟩)
        (ClaimedEndpoints.ofDescriptors []).epOutAddr) .start
        [.frame () (CoraFrame.new (CoraHeader.new CoraFlags.none .write 0 2) [0x02, 0x07]),
          .usb (.lock ()), .usb .ask] = some s ∧
      ∃ o, ((), .asked o) ∈ s.lock.trace ∧ o.Proper 0x02 := by
  have hcheck : (run (SharedDeck.step
      (fun _ : Unit => .secondary ⟨0, vendorIdElgato, 0x0080, "A", none⟩)
      (ClaimedEndpoints.ofDescriptors []).epOutAddr) .start
      [.frame () (CoraFrame.new (CoraHeader.new CoraFlags.none .write 0 2) [0x02, 0x07]),
        .usb (.lock ()), .usb .ask]).map (fun s => s.lock.trace.map fun e => e.2.question) =
      some [some (.openEndpoint 0x02)] := by
    decide +kernel
  obtain ⟨s, hrun, hs⟩ := Option.map_eq_some_iff.mp hcheck
  have ho : ((), .asked (.openEndpoint 0x02)) ∈ s.lock.trace := by
    obtain ⟨⟨i, e⟩, htrace, he⟩ := List.map_eq_singleton_iff.mp hs
    rw [htrace, List.mem_singleton]
    cases e with
    | asked o =>
      cases he
      rfl
    | answered x => cases he
  exact ⟨s, hrun, _, ho, writes_go_to_out_endpoint _ [] _ s hrun () _ ho⟩

end OpenNetDeck
