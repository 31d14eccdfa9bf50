import PassingLink.Lib.BitFields

/-! Report descriptors of human interface devices, as far as a host needs them to find the fields
of a report: the short items, the state that they build up, and the place of every usage. -/
namespace PassingLink.Lib.HidDescriptor

structure Item where
  kind : Nat
  tag : Nat
  data : Nat

/-- The bytes of data that follow the first byte of an item. -/
def dataSize (head : Nat) : Nat := if head % 4 = 3 then 4 else head % 4

/-- Every round takes at least the first byte of an item. -/
def items : Nat → List UInt8 → Option (List Item)
  | _, [] => some []
  | 0, _ :: _ => none
  | fuel + 1, head :: rest =>
      let size := dataSize head.toNat
      if rest.length < size then none
      else
        let item := ⟨head.toNat / 4 % 4, head.toNat / 16, ofBytes (rest.take size)⟩
        (items fuel (rest.drop size)).map (item :: ·)

/-- The page and the number of a usage. -/
abbrev Usage := Nat × Nat

structure State where
  usagePage : Nat
  logicalMinimum : Nat
  logicalMaximum : Nat
  reportSize : Nat
  reportCount : Nat
  /-- 0 is no identifier. -/
  reportId : Nat
  usages : List Usage
  usageMinimum : Nat

inductive Direction where
  | input | output | feature
  deriving DecidableEq

structure Field where
  direction : Direction
  reportId : Nat
  /-- Constant fields have none. -/
  usage : Option Usage
  width : Nat
  logicalMinimum : Nat
  logicalMaximum : Nat

def State.init : State := ⟨0, 0, 0, 0, 0, 0, [], 0⟩

/-- The last usage stands for all further fields of the item. -/
def State.usageAt (s : State) (i : Nat) : Option Usage := (s.usages[i]?).or s.usages.getLast?

def State.declare (s : State) (direction : Direction) (data : Nat) : List Field :=
  (List.range s.reportCount).map fun i =>
    ⟨direction, s.reportId, if data % 2 = 1 then none else s.usageAt i, s.reportSize,
      s.logicalMinimum, s.logicalMaximum⟩

def State.main (s : State) (item : Item) : List Field :=
  match item.tag with
  | 8 => s.declare .input item.data
  | 9 => s.declare .output item.data
  | 11 => s.declare .feature item.data
  | _ => []

def State.global (s : State) (item : Item) : State :=
  match item.tag with
  | 0 => { s with usagePage := item.data }
  | 1 => { s with logicalMinimum := item.data }
  | 2 => { s with logicalMaximum := item.data }
  | 7 => { s with reportSize := item.data }
  | 8 => { s with reportId := item.data }
  | 9 => { s with reportCount := item.data }
  | _ => s

def State.local (s : State) (item : Item) : State :=
  match item.tag with
  | 0 => { s with usages := s.usages ++ [(s.usagePage, item.data)] }
  | 1 => { s with usageMinimum := item.data }
  | 2 =>
      let range := List.range (item.data + 1 - s.usageMinimum)
      { s with usages := s.usages ++ range.map fun i => (s.usagePage, s.usageMinimum + i) }
  | _ => s

/-- Every main item forgets the usages. -/
def fields : State → List Item → List Field
  | _, [] => []
  | s, item :: rest =>
      match item.kind with
      | 0 => s.main item ++ fields { s with usages := [], usageMinimum := 0 } rest
      | 1 => fields (s.global item) rest
      | 2 => fields (s.local item) rest
      | _ => fields s rest

def declared (descriptor : List UInt8) (direction : Direction) (reportId : Nat) : List Field :=
  match items descriptor.length descriptor with
  | none => []
  | some items => (fields .init items).filter fun field =>
      field.direction = direction ∧ field.reportId = reportId

/-- The fields of one report, from its lowest bit on. -/
def report (descriptor : List UInt8) (direction : Direction) (reportId : Nat) :
    Layout (Option Usage) :=
  (declared descriptor direction reportId).map fun field => (field.usage, field.width)

/-- The values that a field can have but for the null value, which lies outside of them. -/
def logicalRange (descriptor : List UInt8) (direction : Direction) (reportId : Nat)
    (usage : Usage) : Option (Nat × Nat) :=
  ((declared descriptor direction reportId).find? fun field => field.usage = some usage).map
    fun field => (field.logicalMinimum, field.logicalMaximum)

/-! ### A host

A host either takes the first byte of every report for its identifier, or expects the fields that
are declared without one. -/

/-- The identifier of a report, and the bytes of its fields. -/
def received (numbered : Bool) (bytes : List UInt8) : Nat × List UInt8 :=
  if numbered then ((bytes.getD 0 0).toNat, bytes.drop 1) else (0, bytes)

/-- The bytes of a report, with its identifier in front if it has one. -/
def reportBytes (descriptor : List UInt8) (numbered : Bool) (direction : Direction)
    (reportId : Nat) : Nat :=
  (report descriptor direction reportId).width / 8 + if numbered then 1 else 0

/-- What a host reads in an input report. -/
def readField (descriptor : List UInt8) (numbered : Bool) (bytes : List UInt8) (usage : Usage) :
    Option Nat :=
  let (reportId, fields) := received numbered bytes
  unpack (report descriptor .input reportId) (ofBytes fields) (some usage)

theorem ofBytes_drop_one {bytes : List UInt8} : ofBytes (bytes.drop 1) = ofBytes bytes / 256 := by
  cases bytes with
  | nil => rfl
  | cons byte bytes =>
      have low : byte.toNat < 256 := byte.toNat_lt
      simp only [List.drop_one, List.tail_cons, ofBytes, List.map_cons, Nat.ofDigits_cons]
      omega

theorem ofBytes_first (bytes : List UInt8) : (bytes.getD 0 0).toNat = ofBytes bytes % 256 := by
  cases bytes with
  | nil => rfl
  | cons byte bytes =>
      have low : byte.toNat < 256 := byte.toNat_lt
      simp only [List.getD_cons_zero, ofBytes, List.map_cons, Nat.ofDigits_cons]
      omega

theorem bitsAt_shift (record offset width : Nat) :
    bitsAt (record / 256) offset width = bitsAt record (8 + offset) width := by
  rw [bitsAt, bitsAt, Nat.pow_add, Nat.div_div_eq_div_mul]

/-- The bits in front of the fields of a report. -/
def ahead (numbered : Bool) : Nat := if numbered then 8 else 0

section Records
variable {ν : Type*} [DecidableEq ν] {layout : Layout ν} {name : ν} {value : ν → Nat}
  {bytes : List UInt8}

/-- The first byte of a record is its first member, where this has eight bits. -/
theorem received_pack (record : ofBytes bytes = pack value layout)
    (first : layout.locate name = some (0, 8)) :
    (received true bytes).1 = value name % 2 ^ 8 := by
  have packed := bitsAt_pack value first
  rw [bitsAt, Nat.pow_zero, Nat.div_one] at packed
  rw [← packed, ← record]
  exact ofBytes_first bytes

/-- A host reads a field of a record where the descriptor and the record agree on its place. -/
theorem readField_pack {descriptor : List UInt8} {numbered : Bool} {reportId : Nat} {usage : Usage}
    {offset width : Nat} (record : ofBytes bytes = pack value layout)
    (identified : (received numbered bytes).1 = reportId)
    (declared : (report descriptor .input reportId).locate (some usage) = some (offset, width))
    (located : layout.locate name = some (ahead numbered + offset, width)) :
    readField descriptor numbered bytes usage = some (value name % 2 ^ width) := by
  have packed := bitsAt_pack value located
  unfold readField unpack
  dsimp only
  rw [identified, declared, Option.map_some]
  cases numbered with
  | false =>
      rw [ahead, if_neg Bool.false_ne_true, Nat.zero_add] at packed
      rw [received, if_neg Bool.false_ne_true, record, packed]
  | true =>
      rw [ahead, if_pos rfl] at packed
      rw [received, if_pos rfl, ofBytes_drop_one, record, bitsAt_shift, packed]

end Records

end PassingLink.Lib.HidDescriptor
