import OpenNetDeck.Lib.Checked
import OpenNetDeck.Lib.Utf8
import OpenNetDeck.Protocol.Reports

/-!
# Reading child device reports

`ChildDeviceInfo::parse`, and what it makes of the payloads that
`ChildDeviceInfo::build_payload` writes. The builder keeps the last byte of both string
fields free, the parser uses all 32.

## Main definitions

- `ChildDeviceInfo.parse` — a child from the bytes of a report
- `ChildDeviceInfo.received` — the child that arrives

## Main results

- `ChildDeviceInfo.parse_buildPayload` — parsing after building
- `device2Info_round_trip` — a child that was made by the constructor
- `relay_cuts_strings` — a child that was parsed before
-/

namespace OpenNetDeck

open Bytes Checked

namespace ChildDeviceInfo

/-- The serial number as a string. -/
def serialAsStr (self : ChildDeviceInfo) : Except Panic (Except ProtocolError String) := do
  let bytes ← slice self.serialNumber.val 0 self.serialLen
  match Utf8.fromUtf8 bytes with
  | some s => return .ok s
  | none => return .error .invalidStringEncoding

/-- A string field of a report: the bytes up to the first NUL in a cleared array, and
their number. -/
def parseString (slice : List UInt8) : Block 32 × ℕ :=
  let firstNull := (slice.findIdx? (· == 0)).getD slice.length
  let len := min firstNull 32
  ((Block.zeroed 32).copyAt 0 (slice.take len) (by simp; omega), len)

/-- Parse the report of a child: none if it is disconnected. -/
def parse (buf : List UInt8) : Except ProtocolError (Option ChildDeviceInfo) :=
  if buf.length < 128 then .error .bufferTooSmall
  else if buf.getD 4 0 ≠ 0x02 then .ok none
  else
    let (productName, productNameLen) := parseString ((buf.drop 32).take 32)
    let (serialNumber, serialLen) := parseString ((buf.drop 94).take 32)
    .ok (some {
      slotIndex := buf.getD 5 0
      isConnected := true
      vendorId := UInt16.ofNat (leNat ((buf.drop 26).take 2))
      productId := UInt16.ofNat (leNat ((buf.drop 28).take 2))
      productName
      productNameLen
      serialNumber
      serialLen
      tcpPort := UInt16.ofNat (leNat ((buf.drop 126).take 2)) })

theorem parseString_eq {slice : List UInt8} (h : slice.length ≤ 32) :
    parseString slice = (.ofList 32 (untilNul slice), (untilNul slice).length) := by
  have hlen : (untilNul slice).length ≤ 32 := (untilNul_length_le slice).trans h
  have hmin : min ((slice.findIdx? (· == 0)).getD slice.length) 32 = (untilNul slice).length := by
    rw [firstNull_eq, Nat.min_eq_left hlen]
  refine Prod.ext (Subtype.ext ?_) hmin
  show splice (List.replicate 32 0) 0 (slice.take (min _ 32)) =
    splice (List.replicate 32 0) 0 ((untilNul slice).take 32)
  rw [hmin, take_firstNull, List.take_of_length_le hlen]

/-- The accessor finds the string whose bytes are stored. -/
theorem serialAsStr_eq_ok_iff {self : ChildDeviceInfo} (h : self.serialLen ≤ 32) {s : String} :
    self.serialAsStr = .ok (.ok s) ↔ asBytes s = self.serialNumber.val.take self.serialLen := by
  have hslice : self.serialLen ≤ self.serialNumber.val.length := by rwa [self.serialNumber.property]
  have hstr : asBytes s = self.serialNumber.val.take self.serialLen ↔
      Utf8.fromUtf8 (self.serialNumber.val.take self.serialLen) = some s :=
    Utf8.fromUtf8_eq_some.symm
  rw [hstr, serialAsStr, slice_zero hslice]
  simp only [bind, Except.bind]
  cases Utf8.fromUtf8 (self.serialNumber.val.take self.serialLen) with
  | none =>
    constructor
    · intro herror
      cases herror
    · intro hnone
      cases hnone
  | some t =>
    constructor
    · intro hok
      cases hok
      rfl
    · intro hsome
      cases hsome
      rfl

/-- Other bytes are an error. -/
theorem serialAsStr_eq_error {self : ChildDeviceInfo} (h : self.serialLen ≤ 32)
    (hnone : ∀ s, asBytes s ≠ self.serialNumber.val.take self.serialLen) :
    self.serialAsStr = .ok (.error .invalidStringEncoding) := by
  have hslice : self.serialLen ≤ self.serialNumber.val.length := by rwa [self.serialNumber.property]
  have hstr : Utf8.fromUtf8 (self.serialNumber.val.take self.serialLen) = none :=
    Option.eq_none_iff_forall_ne_some.mpr fun s hs => hnone s (Utf8.fromUtf8_eq_some.mp hs)
  rw [serialAsStr, slice_zero hslice]
  simp only [bind, Except.bind, hstr]
  rfl

/-! ### Parsing after building -/

/-- The bytes of a string field that are sent. -/
def sentString (field : Block 32) (len : ℕ) : List UInt8 := field.val.take (min len 31)

theorem sentString_length_le (field : Block 32) (len : ℕ) : (sentString field len).length ≤ 31 :=
  (List.length_take_le _ _).trans (Nat.min_le_right _ _)

/-- The child that arrives when a payload is parsed. -/
def received (self : ChildDeviceInfo) : ChildDeviceInfo :=
  let name := untilNul (sentString self.productName self.productNameLen)
  let serial := untilNul (sentString self.serialNumber self.serialLen)
  { self with
    productName := .ofList 32 name
    productNameLen := name.length
    serialNumber := .ofList 32 serial
    serialLen := serial.length }

/-- The fields of a connected child in its payload, the strings padded with NULs. -/
theorem read_fields {self : ChildDeviceInfo} (h : self.isConnected = true) (isPush : Bool)
    (requestedSlot : UInt8) :
    (self.buildPayload isPush requestedSlot).read 26 2 = leBytes 2 self.vendorId.toNat ∧
    (self.buildPayload isPush requestedSlot).read 28 2 = leBytes 2 self.productId.toNat ∧
    (self.buildPayload isPush requestedSlot).read 32 32 =
      sentString self.productName self.productNameLen ++
        List.replicate (32 - (sentString self.productName self.productNameLen).length) 0 ∧
    (self.buildPayload isPush requestedSlot).read 94 32 =
      sentString self.serialNumber self.serialLen ++
        List.replicate (32 - (sentString self.serialNumber self.serialLen).length) 0 ∧
    (self.buildPayload isPush requestedSlot).read 126 2 = leBytes 2 self.tcpPort.toNat := by
  have hname := sentString_length_le self.productName self.productNameLen
  have hserial := sentString_length_le self.serialNumber self.serialLen
  have hmfg : (asBytes "Elgato").length = 6 := by decide +kernel
  have hrest := leBytes_length 2 124
  have hvid := leBytes_length 2 self.vendorId.toNat
  have hpid := leBytes_length 2 self.productId.toNat
  simp only [buildPayload, h, if_true, ← sentString.eq_1]
  refine ⟨?_, ?_, ?_, ?_, ?_⟩
  · simp (disch := omega) only [Block.read_copyAt_of_le, Block.read_set_of_le]
    exact Block.read_copyAt_self
  · simp (disch := omega) only [Block.read_copyAt_of_le, Block.read_set_of_le]
    exact Block.read_copyAt_self
  · simp (disch := omega) only [Block.read_copyAt_of_le]
    refine Block.read_copyAt_cleared (by omega) ?_
    -- what was written before stands in front of the field
    cases isPush <;>
      simp (disch := omega) only [Block.read_set_of_gt, Block.read_copyAt_of_ge,
        Block.read_zeroed, if_true, Bool.false_eq_true, if_false]
  · simp (disch := omega) only [Block.read_copyAt_of_le]
    refine Block.read_copyAt_cleared (by omega) ?_
    cases isPush <;>
      simp (disch := omega) only [Block.read_set_of_gt, Block.read_copyAt_of_ge,
        Block.read_zeroed, if_true, Bool.false_eq_true, if_false]
  · exact Block.read_copyAt_self

/-- The status and the slot of a payload. -/
theorem getD_buildPayload (self : ChildDeviceInfo) (isPush : Bool) (requestedSlot : UInt8) (i : ℕ) :
    (self.buildPayload isPush requestedSlot).val.getD (4 + i) 0 =
      (self.body requestedSlot).getD i 0 := by
  rw [← self.drop_buildPayload isPush, List.getD_eq_getElem?_getD, List.getD_eq_getElem?_getD,
    List.getElem?_drop]

/-- **Parsing after building**: the strings are cut at 31 bytes and at their first NUL. -/
theorem parse_buildPayload {self : ChildDeviceInfo} (h : self.isConnected = true) (isPush : Bool)
    (requestedSlot : UInt8) :
    parse (self.buildPayload isPush requestedSlot).val = .ok (some self.received) := by
  have hsize := (self.buildPayload isPush requestedSlot).property.not_lt
  have hstatus : (self.buildPayload isPush requestedSlot).val.getD 4 0 = 0x02 := by
    rw [self.getD_buildPayload isPush requestedSlot 0, body_of_connected h]
    rfl
  have hslot : (self.buildPayload isPush requestedSlot).val.getD 5 0 = self.slotIndex := by
    rw [self.getD_buildPayload isPush requestedSlot 1, body_of_connected h]
    rfl
  have hstring (field : Block 32) (len : ℕ) :
      parseString (sentString field len ++
          List.replicate (32 - (sentString field len).length) 0) =
        (.ofList 32 (untilNul (sentString field len)),
          (untilNul (sentString field len)).length) := by
    have hlen := sentString_length_le field len
    rw [parseString_eq, untilNul_append_replicate]
    rw [List.length_append, List.length_replicate]
    omega
  obtain ⟨hvid, hpid, hname, hserial, hport⟩ := read_fields h isPush requestedSlot
  rw [Block.read] at hvid hpid hname hserial hport
  rw [parse, if_neg hsize, if_neg (not_not.mpr hstatus), hslot, hvid, hpid, hname, hserial, hport,
    hstring, hstring, uint16_leBytes, uint16_leBytes, uint16_leBytes, received, ← h]

theorem parse_of_disconnected {self : ChildDeviceInfo} (h : self.isConnected = false)
    (isPush : Bool) (requestedSlot : UInt8) :
    parse (self.buildPayload isPush requestedSlot).val = .ok none := by
  have hsize := (self.buildPayload isPush requestedSlot).property.not_lt
  have hstatus : (self.buildPayload isPush requestedSlot).val.getD 4 0 ≠ 0x02 := by
    rw [self.getD_buildPayload isPush requestedSlot 0, body_of_disconnected h]
    show (0x00 : UInt8) ≠ 0x02
    decide
  rw [parse, if_neg hsize, if_pos hstatus]

/-! ### Children from the constructor -/

/-- The bytes of a string that the constructor stores. -/
theorem take_stored (bytes : List UInt8) :
    (splice (List.replicate 32 0) 0 (bytes.take (min bytes.length 31))).take
      (min bytes.length 31) = bytes.take 31 := by
  have hlen : (bytes.take (min bytes.length 31)).length = min bytes.length 31 :=
    List.length_take_of_le (Nat.min_le_left _ _)
  rw [take_splice_zero hlen.ge, List.take_take, Nat.min_self, Nat.min_comm,
    ← List.take_eq_take_min]

/-- They are sent whole. -/
theorem sentString_stored (bytes : List UInt8) {h} :
    sentString ((Block.zeroed 32).copyAt 0 (bytes.take (min bytes.length 31)) h)
      (min bytes.length 31) = bytes.take 31 := by
  have hmin : min (min bytes.length 31) 31 = min bytes.length 31 := by omega
  rw [sentString, hmin]
  exact take_stored bytes

/-- A string that fits is stored whole. -/
theorem stored_eq_ofList {bytes : List UInt8} (hlen : bytes.length ≤ 31) {h} :
    (Block.zeroed 32).copyAt 0 (bytes.take (min bytes.length 31)) h = .ofList 32 bytes := by
  have hmin : bytes.take (min bytes.length 31) = bytes.take 32 := by
    rw [List.take_of_length_le (by omega), List.take_of_length_le (by omega)]
  refine Subtype.ext ?_
  show splice (List.replicate 32 0) 0 (bytes.take (min bytes.length 31)) =
    splice (List.replicate 32 0) 0 (bytes.take 32)
  rw [hmin]

theorem received_connected (slotIndex : UInt8) (vendorId productId : UInt16)
    (productName serial : String) (tcpPort : UInt16) :
    (connected slotIndex vendorId productId productName serial tcpPort).received =
      { slotIndex
        isConnected := true
        vendorId
        productId
        productName := .ofList 32 (untilNul ((asBytes productName).take 31))
        productNameLen := (untilNul ((asBytes productName).take 31)).length
        serialNumber := .ofList 32 (untilNul ((asBytes serial).take 31))
        serialLen := (untilNul ((asBytes serial).take 31)).length
        tcpPort } := by
  simp only [received, connected, sentString_stored]

/-- A string of at most 31 bytes without a NUL. -/
def Fits (s : String) : Prop := (asBytes s).length ≤ 31 ∧ 0 ∉ asBytes s

theorem Fits.untilNul_take {s : String} (h : Fits s) :
    untilNul ((asBytes s).take 31) = asBytes s := by
  rw [List.take_of_length_le h.1, untilNul_of_notMem h.2]

/-- Strings that fit arrive as they are. -/
theorem received_of_fits {slotIndex : UInt8} {vendorId productId : UInt16}
    {productName serial : String} {tcpPort : UInt16} (hname : Fits productName)
    (hserial : Fits serial) :
    (connected slotIndex vendorId productId productName serial tcpPort).received =
      connected slotIndex vendorId productId productName serial tcpPort := by
  rw [received_connected, hname.untilNul_take, hserial.untilNul_take]
  simp only [connected, stored_eq_ofList hname.1, stored_eq_ofList hserial.1]
  rw [Nat.min_eq_left hname.1, Nat.min_eq_left hserial.1]

end ChildDeviceInfo

open ChildDeviceInfo

/-- **Round trip of a child report**: in both forms and for every requested slot, what the
constructor made arrives with its strings cut at 31 bytes and at their first NUL, and
unchanged if they are shorter and without NUL; a disconnected child arrives as none. -/
theorem device2Info_round_trip (slotIndex requestedSlot : UInt8)
    (vendorId productId tcpPort : UInt16) (productName serial : String) (isPush : Bool) :
    let child := connected slotIndex vendorId productId productName serial tcpPort
    parse (child.buildPayload isPush requestedSlot).val = .ok (some
        { slotIndex
          isConnected := true
          vendorId
          productId
          productName := .ofList 32 (untilNul ((asBytes productName).take 31))
          productNameLen := (untilNul ((asBytes productName).take 31)).length
          serialNumber := .ofList 32 (untilNul ((asBytes serial).take 31))
          serialLen := (untilNul ((asBytes serial).take 31)).length
          tcpPort }) ∧
      (Fits productName ∧ Fits serial →
        parse (child.buildPayload isPush requestedSlot).val = .ok (some child)) ∧
      ∀ gone : ChildDeviceInfo, gone.isConnected = false →
        parse (gone.buildPayload isPush requestedSlot).val = .ok none := by
  intro child
  have hparse : parse (child.buildPayload isPush requestedSlot).val = .ok (some child.received) :=
    parse_buildPayload rfl isPush requestedSlot
  refine ⟨?_, ?_, ?_⟩
  · rw [hparse, received_connected]
  · rintro ⟨hname, hserial⟩
    rw [hparse, received_of_fits hname hserial]
  · intro gone hgone
    exact parse_of_disconnected hgone isPush requestedSlot

/-! ### Children from the parser -/

namespace ChildDeviceInfo

/-- The child with its strings cut at 31 bytes. -/
def cut (self : ChildDeviceInfo) : ChildDeviceInfo :=
  { self with
    productName := .ofList 32 (sentString self.productName self.productNameLen)
    productNameLen := min self.productNameLen 31
    serialNumber := .ofList 32 (sentString self.serialNumber self.serialLen)
    serialLen := min self.serialLen 31 }

/-- A string field that holds the bytes before a NUL. -/
structure IsString (field : Block 32) (len : ℕ) (bytes : List UInt8) : Prop where
  field_eq : field = .ofList 32 bytes
  len_eq : len = bytes.length
  le : bytes.length ≤ 32
  noNul : 0 ∉ bytes

section

variable {field : Block 32} {len : ℕ} {bytes : List UInt8}

theorem IsString.sentString_eq (h : IsString field len bytes) :
    sentString field len = bytes.take 31 := by
  rw [sentString, h.field_eq, h.len_eq,
    Block.take_ofList h.le (Nat.min_le_left _ _), Nat.min_comm, ← List.take_eq_take_min]

/-- What is sent of a string has no NUL. -/
theorem IsString.untilNul_sentString (h : IsString field len bytes) :
    untilNul (sentString field len) = sentString field len := by
  rw [h.sentString_eq]
  exact untilNul_of_notMem fun hzero => h.noNul (List.mem_of_mem_take hzero)

theorem IsString.length_sentString (h : IsString field len bytes) :
    (sentString field len).length = min len 31 := by
  rw [h.sentString_eq, List.length_take, h.len_eq, Nat.min_comm]

/-- A string stays whole if its last byte is free. -/
theorem IsString.sentString_of_le (h : IsString field len bytes) (hlen : len ≤ 31) :
    Block.ofList 32 (sentString field len) = field := by
  rw [h.sentString_eq, List.take_of_length_le (by rw [← h.len_eq]; exact hlen), h.field_eq]

end

/-- The strings of a parsed child. -/
theorem isString_of_parse {buf : List UInt8} {c : ChildDeviceInfo} (h : parse buf = .ok (some c)) :
    c.isConnected = true ∧ (∃ name, IsString c.productName c.productNameLen name) ∧
      ∃ serial, IsString c.serialNumber c.serialLen serial := by
  have hstring (k : ℕ) : ∃ bytes, IsString (parseString ((buf.drop k).take 32)).1
      (parseString ((buf.drop k).take 32)).2 bytes := by
    have hlen : ((buf.drop k).take 32).length ≤ 32 := List.length_take_le _ _
    rw [parseString_eq hlen]
    exact ⟨_, rfl, rfl, (untilNul_length_le _).trans hlen, zero_notMem_untilNul _⟩
  rw [parse] at h
  split_ifs at h
  · cases h
  · obtain rfl := Option.some.inj (Except.ok.inj h)
    exact ⟨rfl, hstring 32, hstring 94⟩

theorem received_of_parse {buf : List UInt8} {c : ChildDeviceInfo} (h : parse buf = .ok (some c)) :
    c.received = c.cut := by
  obtain ⟨-, ⟨name, hname⟩, serial, hserial⟩ := isString_of_parse h
  simp only [received, cut, hname.untilNul_sentString, hserial.untilNul_sentString,
    hname.length_sentString, hserial.length_sentString]

theorem cut_eq_self_iff {buf : List UInt8} {c : ChildDeviceInfo} (h : parse buf = .ok (some c)) :
    c.cut = c ↔ c.productNameLen ≤ 31 ∧ c.serialLen ≤ 31 := by
  obtain ⟨-, ⟨name, hname⟩, serial, hserial⟩ := isString_of_parse h
  constructor
  · intro heq
    have hnameLen : min c.productNameLen 31 = c.productNameLen := congrArg productNameLen heq
    have hserialLen : min c.serialLen 31 = c.serialLen := congrArg serialLen heq
    omega
  · rintro ⟨hnameLen, hserialLen⟩
    rw [cut, hname.sentString_of_le hnameLen, hserial.sentString_of_le hserialLen,
      Nat.min_eq_left hnameLen, Nat.min_eq_left hserialLen]

/-- A child that was parsed, built and parsed again. -/
theorem parse_relayed {buf : List UInt8} {c : ChildDeviceInfo} (h : parse buf = .ok (some c))
    (isPush : Bool) (requestedSlot : UInt8) :
    parse (c.buildPayload isPush requestedSlot).val = .ok (some c.cut) := by
  rw [parse_buildPayload (isString_of_parse h).1, received_of_parse h]

end ChildDeviceInfo

/-- **Relaying a child report**: a child that was parsed and is built again arrives with
its strings cut at 31 bytes, and so unchanged exactly if neither fills its field. -/
theorem relay_cuts_strings (buf : List UInt8) (c : ChildDeviceInfo)
    (h : parse buf = .ok (some c)) (isPush : Bool) (requestedSlot : UInt8) :
    parse (c.buildPayload isPush requestedSlot).val = .ok (some c.cut) ∧
      (parse (c.buildPayload isPush requestedSlot).val = .ok (some c) ↔
        c.productNameLen ≤ 31 ∧ c.serialLen ≤ 31) := by
  have hparse := parse_relayed h isPush requestedSlot
  refine ⟨hparse, ?_⟩
  rw [hparse, Except.ok.injEq, Option.some.injEq]
  exact cut_eq_self_iff h

/-- A report with short strings is relayed unchanged. -/
theorem relay_cuts_strings_short :
    ∃ c, parse ((connected 3 0x0fd9 0x0080 "MK.2" "A1" 5347).buildPayload false 3).val =
        .ok (some c) ∧
      parse (c.buildPayload true 0).val = .ok (some c.cut) ∧
      (parse (c.buildPayload true 0).val = .ok (some c) ↔
        c.productNameLen ≤ 31 ∧ c.serialLen ≤ 31) := by
  have hparse : parse ((connected 3 0x0fd9 0x0080 "MK.2" "A1" 5347).buildPayload false 3).val =
      .ok (some (connected 3 0x0fd9 0x0080 "MK.2" "A1" 5347).received) :=
    parse_buildPayload rfl false 3
  exact ⟨_, hparse, relay_cuts_strings _ _ hparse true 0⟩

/-- A report whose product name fills its field. -/
def fullName : List UInt8 :=
  [0x03, 0x1c, 124, 0, 0x02, 0x00] ++ List.replicate 26 0 ++ List.replicate 32 0x41 ++
    List.replicate 64 0

/-- The last byte of a name that fills its field is lost. -/
theorem relay_loses_byte :
    ∃ c c', parse fullName = .ok (some c) ∧ c.productNameLen = 32 ∧
      parse (c.buildPayload false 0).val = .ok (some c') ∧ c'.productNameLen = 31 := by
  have hcheck : (parse fullName).toOption.bind (Option.map productNameLen) = some 32 := by
    decide +kernel
  cases hparse : parse fullName with
  | error e =>
    rw [hparse] at hcheck
    cases hcheck
  | ok parsed =>
    rw [hparse] at hcheck
    obtain ⟨c, rfl, hlen⟩ := Option.map_eq_some_iff.mp hcheck
    refine ⟨c, c.cut, rfl, hlen, parse_relayed hparse false 0, ?_⟩
    show min c.productNameLen 31 = 31
    rw [hlen]
    rfl

end OpenNetDeck
