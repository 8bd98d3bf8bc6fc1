import XSDK.Library.LittleEndian
import XSDK.Library.Stores
import XSDK.Usbd.Control

/-! The Microsoft OS 2.0 descriptor set: how the device builds it from its classes. -/
namespace XSDK.Usbd

open Library
open List (length_append length_cons length_nil)

def maxMos2DescriptorSize : Nat := 512
def mos2SetHeaderDescriptor : Nat := 0
def mos2SubsetHeaderConfiguration : Nat := 1
def mos2SubsetHeaderFunction : Nat := 2
def mos2FeatureCompatibleId : Nat := 3
def mos2FeatureRegProperty : Nat := 4

/-- A registry property. The name is shorter than the builder asserts, and the data's length has 16 bits. -/
structure MosProperty where
  propertyType : UInt16
  propertyName : Text
  propertyData : Bytes
  nameShort : propertyName.length < 0x7FFF
  dataFits : propertyData.length < 2 ^ 16

/-- What a class brings: its first interface, its compatible id and its properties, if any. -/
structure MosClass where
  firstInterface : UInt8
  msCompatibleId : Option Text
  mosProps : List MosProperty

namespace MosClass

def compatibleId (c : MosClass) : Text := c.msCompatibleId.getD []

def hasCompatId (c : MosClass) : Bool := c.compatibleId ≠ []
def hasMosProps (c : MosClass) : Bool := c.mosProps ≠ []

end MosClass

/-- A character and a zero for each of the name. The index counts in 16 bits. -/
def mosCopyName (base : Nat) : Text → Nat → Stores → Nat × Stores
  | [], offset, b => (offset, b)
  | c :: name, offset, b =>
    mosCopyName base name (word16 (offset + 2)) ((b.put (base + offset) c).put (base + word16 (offset + 1)) 0)

def mosCopyData (base : Nat) : Bytes → Nat → Stores → Nat × Stores
  | [], offset, b => (offset, b)
  | byte :: data, offset, b => mosCopyData base data (word16 (offset + 1)) (b.put (base + offset) byte)

def mosPropertyHead (base : Nat) (property : MosProperty) (nameUtf16Length : Nat) (b : Stores) : Stores :=
  let totalLength := word16 (10 + nameUtf16Length + property.propertyData.length)
  let b := ((b.putLE16 base totalLength).put (base + 2) 0x04).put (base + 3) 0x00
  (b.putLE16 (base + 4) property.propertyType.toNat).putLE16 (base + 6) nameUtf16Length

/-- The property is written from base on; the result is what the 16-bit index ends at. -/
def mosAppendRegistryProperty (base : Nat) (property : MosProperty) (nameUtf16Length : Nat) (b : Stores) :
    Nat × Stores :=
  let (offset, b) := mosCopyName base property.propertyName 8 (mosPropertyHead base property nameUtf16Length b)
  let b := (b.put (base + offset) 0).put (base + word16 (offset + 1)) 0
  let offset := word16 (offset + 2)
  let b := b.putLE16 (base + offset) property.propertyData.length
  mosCopyData base property.propertyData (word16 (offset + 2)) b

/-- The buffer, how far it is filled, and the length of the function subset that is open. -/
structure MosState where
  buffer : Stores
  offset : Nat
  funcLength : Nat

variable (useFunctionSubsets : Bool)

/-- Bytes behind what is filled, which count for the open subset if there is one. -/
def MosState.advance (length : Nat) (buffer : Stores) (x : MosState) : MosState :=
  ⟨buffer, word16 (x.offset + length), if useFunctionSubsets then word16 (x.funcLength + length) else x.funcLength⟩

def mosAppendProperty (x : MosState) (property : MosProperty) : Except Stores MosState :=
  let nameUtf16Len := word16 ((property.propertyName.length + 1) * 2)
  let propSize := word16 (10 + nameUtf16Len + property.propertyData.length)
  if maxMos2DescriptorSize < x.offset + propSize then .error x.buffer
  else
    let (propLength, buffer) := mosAppendRegistryProperty x.offset property nameUtf16Len x.buffer
    .ok (x.advance useFunctionSubsets propLength buffer)

def putBytes (index : Nat) : Bytes → Stores → Stores
  | [], b => b
  | byte :: rest, b => putBytes (index + 1) rest (b.put index byte)

variable (c : MosClass)

/-- The id fills at most eight bytes of two fields of eight, which are zero otherwise. -/
def mosAppendCompatibleId (x : MosState) : Except Stores MosState :=
  if c.hasCompatId then
    if maxMos2DescriptorSize < x.offset + 20 then .error x.buffer
    else
      let b := (x.buffer.putLE16 x.offset 20).putLE16 (x.offset + 2) mos2FeatureCompatibleId
      let b := putBytes (x.offset + 4) (List.replicate 16 0) b
      let b := putBytes (x.offset + 4) (c.compatibleId.take 8) b
      .ok (x.advance useFunctionSubsets 20 b)
  else .ok x

/-- The header of a function subset, where there is one. -/
def mosOpenFunction (x : MosState) : Except Stores MosState :=
  if useFunctionSubsets then
    if maxMos2DescriptorSize < x.offset + 8 then .error x.buffer
    else
      let b := (x.buffer.putLE16 x.offset 8).putLE16 (x.offset + 2) mos2SubsetHeaderFunction
      let b := ((b.put (x.offset + 4) c.firstInterface).put (x.offset + 5) 0).putLE16 (x.offset + 6) 0
      .ok ⟨b, word16 (x.offset + 8), 8⟩
  else .ok { x with funcLength := 0 }

def mosCloseFunction (funcHdr : Nat) (x : MosState) : MosState :=
  if useFunctionSubsets then { x with buffer := x.buffer.putLE16 (funcHdr + 6) x.funcLength } else x

/-- The features of a class, in a function subset of its own where there are several classes. -/
def mosAppendClass (x : MosState) (c : MosClass) : Except Stores MosState :=
  if c.hasCompatId ∨ c.hasMosProps then do
    let opened ← mosOpenFunction useFunctionSubsets c x
    let named ← mosAppendCompatibleId useFunctionSubsets c opened
    let filled ← c.mosProps.foldlM (mosAppendProperty useFunctionSubsets) named
    pure (mosCloseFunction useFunctionSubsets x.offset filled)
  else pure x

/-- The header of the set, and of its configuration subset where there are several classes. -/
def mosSetHeader (b : Stores) : Stores :=
  let b := (b.putLE16 0 10).putLE16 2 mos2SetHeaderDescriptor
  let b := ((b.putLE16 4 0x0000).putLE16 6 0x0603).putLE16 8 0
  if useFunctionSubsets then
    let b := (b.putLE16 10 8).putLE16 12 mos2SubsetHeaderConfiguration
    ((b.put 14 0).put 15 0).putLE16 16 0
  else b

/-- The length of the set, zero if there is none, and the buffer. -/
def deviceBuildMsOs20Descriptor (classes : List MosClass) (b : Stores) : Nat × Stores :=
  let useFunctionSubsets : Bool := 2 ≤ classes.length
  let start := ⟨mosSetHeader useFunctionSubsets b, if useFunctionSubsets then 18 else 10, 0⟩
  match classes.foldlM (mosAppendClass useFunctionSubsets) start with
  | .error b => (0, b)
  | .ok x =>
    if 10 < x.offset then
      let b := x.buffer.putLE16 8 x.offset
      (x.offset, if useFunctionSubsets then b.putLE16 16 (x.offset - 10) else b)
    else (0, x.buffer)

/-! ### What the set says -/

inductive MosFeature
  | compatibleId (id : Text)
  | registryProperty (property : MosProperty)

def MosProperty.size (p : MosProperty) : Nat := 12 + 2 * p.propertyName.length + p.propertyData.length

def MosFeature.size : MosFeature → Nat
  | compatibleId _ => 20
  | registryProperty p => p.size

def wide (name : Text) : Bytes := name.flatMap fun c => [c, 0]

def MosFeature.bytes : MosFeature → Bytes
  | compatibleId id =>
    le16Bytes 20 ++ le16Bytes mos2FeatureCompatibleId ++ (id.take 8 ++ List.replicate (16 - (id.take 8).length) 0)
  | registryProperty p =>
    le16Bytes p.size ++ le16Bytes mos2FeatureRegProperty ++ le16Bytes p.propertyType.toNat ++
      le16Bytes (2 * (p.propertyName.length + 1)) ++ (wide p.propertyName ++ [0, 0]) ++
      le16Bytes p.propertyData.length ++ p.propertyData

namespace MosClass

def features : List MosFeature :=
  (if c.hasCompatId then [.compatibleId c.compatibleId] else []) ++ c.mosProps.map .registryProperty

def content : Bytes := c.features.flatMap MosFeature.bytes

def functionSubset : Bytes :=
  le16Bytes 8 ++ le16Bytes mos2SubsetHeaderFunction ++ [c.firstInterface, 0] ++ le16Bytes
    (8 + c.content.length) ++ c.content

end MosClass

def configurationSubset (functions : Bytes) : Bytes :=
  le16Bytes 8 ++ le16Bytes mos2SubsetHeaderConfiguration ++ [0, 0] ++ le16Bytes (8 + functions.length) ++ functions

/-- A set with its length over what it contains: the features of one class, or a function subset
for each class that has features. -/
def mosSet (classes : List MosClass) : Bytes :=
  let body := if 2 ≤ classes.length then
      configurationSubset ((classes.filter fun c => !c.features.isEmpty).flatMap MosClass.functionSubset)
    else classes.flatMap MosClass.content
  le16Bytes 10 ++ le16Bytes mos2SetHeaderDescriptor ++ [0x00, 0x00, 0x03, 0x06] ++ le16Bytes
    (10 + body.length) ++ body

/-! ### One property -/

section Property

open Stores

variable {b : Stores} {base offset i : Nat} {name : Text} {data : Bytes} {p : MosProperty}

@[simp] theorem length_wide (name : Text) : (wide name).length = 2 * name.length := by
  induction name with
  | nil => rfl
  | cons c name ih =>
    rw [wide, List.flatMap_cons, length_append, length_cons, ← wide, ih]
    simp only [length_cons, length_nil]
    omega

theorem MosFeature.length_bytes (f : MosFeature) : f.bytes.length = f.size := by
  cases f with
  | compatibleId id =>
    simp only [bytes, le16Bytes, size, length_append, length_cons, length_nil, List.length_replicate,
      List.length_take]
    omega
  | registryProperty p =>
    simp only [bytes, le16Bytes, size, MosProperty.size, length_append, length_cons, length_nil, length_wide]
    omega

theorem mosCopyName_grows (base : Nat) (name : Text) (offset : Nat) (b : Stores) :
    Grows b (mosCopyName base name offset b).2 := by
  induction name generalizing offset b with
  | nil => exact .refl b
  | cons c name ih => exact Grows.trans (((Grows.refl b).put _ _).put _ _) (ih _ _)

theorem mosCopyData_grows (base : Nat) (data : Bytes) (offset : Nat) (b : Stores) :
    Grows b (mosCopyData base data offset b).2 := by
  induction data generalizing offset b with
  | nil => exact .refl b
  | cons byte data ih => exact Grows.trans ((Grows.refl b).put _ _) (ih _ _)

/-- As long as the index does not wrap, the name lies behind it. -/
theorem mosCopyName_lays (fits : offset + 2 * name.length < 2 ^ 16) : ∃ b',
    mosCopyName base name offset b = (offset + 2 * name.length, b') ∧ Lays b b' (base + offset) (wide name) := by
  induction name generalizing offset b with
  | nil => exact ⟨b, rfl, .nil⟩
  | cons c name ih =>
    rw [length_cons] at fits
    have one : word16 (offset + 1) = offset + 1 := word16_of_lt (by omega)
    have two : word16 (offset + 2) = offset + 2 := word16_of_lt (by omega)
    obtain ⟨b', copied, lays⟩ := @ih ((b.put (base + offset) c).put (base + (offset + 1)) 0) (offset + 2) (by omega)
    refine ⟨b', ?_, ?_⟩
    · rw [mosCopyName, one, two, copied, length_cons]
      congr 1
      omega
    · have character : Lays b ((b.put (base + offset) c).put (base + (offset + 1)) 0) (base + offset) [c, 0] :=
        (Lays.put b _ c).append (Lays.put _ (base + offset + 1) 0)
      exact character.append lays

theorem mosCopyData_lays (fits : offset + data.length < 2 ^ 16) : ∃ b',
    mosCopyData base data offset b = (offset + data.length, b') ∧ Lays b b' (base + offset) data := by
  induction data generalizing offset b with
  | nil => exact ⟨b, rfl, .nil⟩
  | cons byte data ih =>
    rw [length_cons] at fits
    obtain ⟨b', copied, lays⟩ := @ih (b.put (base + offset) byte) (offset + 1) (by omega)
    refine ⟨b', ?_, ?_⟩
    · rw [mosCopyData, word16_of_lt (by omega), copied, length_cons]
      congr 1
      omega
    · exact (Lays.put b _ byte).append lays

theorem mosCopyName_writes (small : i < name.length) (fits : offset + 2 * i < 2 ^ 16) :
    base + (offset + 2 * i) ∈ (mosCopyName base name offset b).2.written := by
  induction name generalizing offset i b with
  | nil => exact absurd small (Nat.not_lt_zero i)
  | cons c name ih =>
    cases i with
    | zero =>
      rw [mosCopyName]
      exact mosCopyName_grows _ _ _ _ _ (List.mem_cons_of_mem _ List.mem_cons_self)
    | succ i =>
      have later := @ih ((b.put (base + offset) c).put (base + word16 (offset + 1)) 0) (offset + 2) i
        (Nat.lt_of_succ_lt_succ small) (by omega)
      rw [mosCopyName, word16_of_lt (by omega)]
      rwa [show offset + 2 + 2 * i = offset + 2 * (i + 1) by omega] at later

theorem mosCopyData_writes (small : i < data.length) (fits : offset + i < 2 ^ 16) :
    base + (offset + i) ∈ (mosCopyData base data offset b).2.written := by
  induction data generalizing offset i b with
  | nil => exact absurd small (Nat.not_lt_zero i)
  | cons byte data ih =>
    cases i with
    | zero =>
      rw [mosCopyData]
      exact mosCopyData_grows _ _ _ _ _ List.mem_cons_self
    | succ i =>
      have later := @ih (b.put (base + offset) byte) (offset + 1) i (Nat.lt_of_succ_lt_succ small) (by omega)
      rw [mosCopyData, word16_of_lt (by omega)]
      rwa [show offset + 1 + i = offset + (i + 1) by omega] at later

theorem mosPropertyHead_lays (base : Nat) (p : MosProperty) (k : Nat) (b : Stores) :
    Lays b (mosPropertyHead base p k b) base (le16Bytes (word16 (10 + k + p.propertyData.length)) ++
      le16Bytes mos2FeatureRegProperty ++ le16Bytes p.propertyType.toNat ++ le16Bytes k) :=
  ((((Lays.putLE16 b base _).append ((Lays.put _ (base + 2) _).append (Lays.put _ (base + 3) _))).append
    (Lays.putLE16 _ (base + 4) _)).append (Lays.putLE16 _ (base + 6) _))

theorem mosNameLength (p : MosProperty) :
    word16 ((p.propertyName.length + 1) * 2) = 2 * (p.propertyName.length + 1) := by
  have short := p.nameShort
  rw [word16_of_lt (by omega), Nat.mul_comm]

theorem mosPropertyHead_grows (base : Nat) (p : MosProperty) (k : Nat) (b : Stores) :
    Grows b (mosPropertyHead base p k b) :=
  Grows.putLE16 (Grows.putLE16 (Grows.put (Grows.put (Grows.putLE16 (Grows.refl b) _ _) _ _) _ _) _ _) _ _

theorem mosAppendRegistryProperty_copied {base k : Nat} {named : Stores}
    (copied : mosCopyName base p.propertyName 8 (mosPropertyHead base p k b) = (offset, named)) :
    mosAppendRegistryProperty base p k b = mosCopyData base p.propertyData (word16 (word16 (offset + 2) + 2))
      (((named.put (base + offset) 0).put (base + word16 (offset + 1)) 0).putLE16 (base + word16 (offset + 2))
        p.propertyData.length) := by
  rw [mosAppendRegistryProperty, copied]

theorem mosAppendRegistryProperty_grows (base : Nat) (p : MosProperty) (k : Nat) (b : Stores) :
    Grows b (mosAppendRegistryProperty base p k b).2 := by
  rcases copied : mosCopyName base p.propertyName 8 (mosPropertyHead base p k b) with ⟨offset, named⟩
  have name := mosCopyName_grows base p.propertyName 8 (mosPropertyHead base p k b)
  rw [copied] at name
  rw [mosAppendRegistryProperty_copied copied]
  have ended := Grows.putLE16 (Grows.put (Grows.put name (base + offset) 0) (base + word16 (offset + 1)) 0)
    (base + word16 (offset + 2)) p.propertyData.length
  exact ((mosPropertyHead_grows base p k b).trans ended).trans (mosCopyData_grows _ _ _ _)

/-- A property whose size has 16 bits is written as it is meant. -/
theorem mosAppendRegistryProperty_lays (base : Nat) (b : Stores) (fits : p.size < 2 ^ 16) : ∃ b',
    mosAppendRegistryProperty base p (2 * (p.propertyName.length + 1)) b = (p.size, b') ∧
      Lays b b' base (MosFeature.registryProperty p).bytes := by
  rw [MosProperty.size] at fits
  obtain ⟨named, copied, name⟩ := @mosCopyName_lays (mosPropertyHead base p (2 * (p.propertyName.length + 1)) b)
    base 8 p.propertyName (by omega)
  have one : word16 (8 + 2 * p.propertyName.length + 1) = 8 + 2 * p.propertyName.length + 1 := word16_of_lt (by omega)
  have two : word16 (8 + 2 * p.propertyName.length + 2) = 8 + 2 * p.propertyName.length + 2 := word16_of_lt (by omega)
  have four : word16 (8 + 2 * p.propertyName.length + 2 + 2) = 8 + 2 * p.propertyName.length + 2 + 2 :=
    word16_of_lt (by omega)
  rw [mosAppendRegistryProperty_copied copied, one, two, four]
  obtain ⟨b', filled, data⟩ := @mosCopyData_lays
    (((named.put (base + (8 + 2 * p.propertyName.length)) 0).put (base + (8 + 2 * p.propertyName.length + 1))
      0).putLE16 (base + (8 + 2 * p.propertyName.length + 2)) p.propertyData.length)
    base (8 + 2 * p.propertyName.length + 2 + 2) p.propertyData (by omega)
  refine ⟨b', ?_, ?_⟩
  · rw [filled, MosProperty.size]
    congr 1
    omega
  · have total : word16 (10 + 2 * (p.propertyName.length + 1) + p.propertyData.length) = p.size := by
      rw [word16_of_lt (by omega), MosProperty.size]
      omega
    have head := mosPropertyHead_lays base p (2 * (p.propertyName.length + 1)) b
    rw [total] at head
    have ended := (Lays.put named (base + (8 + 2 * p.propertyName.length)) 0).append
      (Lays.put _ (base + (8 + 2 * p.propertyName.length) + 1) 0)
    have length : (wide p.propertyName).length = 2 * p.propertyName.length := length_wide _
    have body := head.append name
    have closed := body.follow ended (by
      rw [length_append, length]
      rfl)
    have sized := closed.follow
      (Lays.putLE16 _ (base + (8 + 2 * p.propertyName.length + 2)) p.propertyData.length) (by
      simp only [length_append, length, le16Bytes, length_cons, length_nil])
    have whole := sized.follow data (by
      simp only [length_append, length, le16Bytes, length_cons, length_nil])
    have image : (MosFeature.registryProperty p).bytes = le16Bytes p.size ++ le16Bytes mos2FeatureRegProperty ++
        le16Bytes p.propertyType.toNat ++ le16Bytes (2 * (p.propertyName.length + 1)) ++ wide p.propertyName ++
        ([0] ++ [0]) ++ le16Bytes p.propertyData.length ++ p.propertyData := by
      simp only [MosFeature.bytes, List.append_assoc, List.cons_append, List.nil_append]
    rw [image]
    exact whole

theorem mosAppendRegistryProperty_overruns (base : Nat) (b : Stores) (large : 2 ^ 16 ≤ p.size) :
    ∃ j ∈ (mosAppendRegistryProperty base p (2 * (p.propertyName.length + 1)) b).2.written,
      maxMos2DescriptorSize ≤ j := by
  rw [MosProperty.size] at large
  have short := p.nameShort
  have dataShort := p.dataFits
  rcases copied : mosCopyName base p.propertyName 8 (mosPropertyHead base p (2 * (p.propertyName.length + 1)) b) with
    ⟨offset, named⟩
  rw [mosAppendRegistryProperty_copied copied]
  rcases Nat.lt_or_ge 252 p.propertyName.length with long | few
  · have reached := @mosCopyName_writes (mosPropertyHead base p (2 * (p.propertyName.length + 1)) b) base 8 252
      p.propertyName long (by decide)
    rw [copied] at reached
    have terminated := Grows.put (Grows.put (Grows.refl named) (base + offset) 0) (base + word16 (offset + 1)) 0
    have ended := terminated.putLE16 (base + word16 (offset + 2)) p.propertyData.length
    refine ⟨_, mosCopyData_grows _ _ _ _ _ (ended _ reached), ?_⟩
    rw [maxMos2DescriptorSize]
    omega
  · obtain ⟨named', copied', -⟩ := @mosCopyName_lays (mosPropertyHead base p (2 * (p.propertyName.length + 1)) b)
      base 8 p.propertyName (by omega)
    cases copied.symm.trans copied'
    have two : word16 (8 + 2 * p.propertyName.length + 2) = 8 + 2 * p.propertyName.length + 2 :=
      word16_of_lt (by omega)
    have four : word16 (8 + 2 * p.propertyName.length + 2 + 2) = 8 + 2 * p.propertyName.length + 2 + 2 :=
      word16_of_lt (by omega)
    rw [two, four]
    refine ⟨_, mosCopyData_writes (i := 512) (by omega) (by omega), ?_⟩
    rw [maxMos2DescriptorSize]
    omega

end Property

end XSDK.Usbd
