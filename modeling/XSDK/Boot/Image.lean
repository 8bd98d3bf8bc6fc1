import XSDK.Library.Crc
import XSDK.Library.LittleEndian

/-! The checksum of boot images and partition tables: a table of remainders, one for each
byte, against the division bit by bit. -/
namespace XSDK.Boot

open Library

def crc32Table : List UInt32 :=
  [0x00000000, 0x77073096, 0xEE0E612C, 0x990951BA, 0x076DC419, 0x706AF48F, 0xE963A535, 0x9E6495A3,
   0x0EDB8832, 0x79DCB8A4, 0xE0D5E91E, 0x97D2D988, 0x09B64C2B, 0x7EB17CBD, 0xE7B82D07, 0x90BF1D91,
   0x1DB71064, 0x6AB020F2, 0xF3B97148, 0x84BE41DE, 0x1ADAD47D, 0x6DDDE4EB, 0xF4D4B551, 0x83D385C7,
   0x136C9856, 0x646BA8C0, 0xFD62F97A, 0x8A65C9EC, 0x14015C4F, 0x63066CD9, 0xFA0F3D63, 0x8D080DF5,
   0x3B6E20C8, 0x4C69105E, 0xD56041E4, 0xA2677172, 0x3C03E4D1, 0x4B04D447, 0xD20D85FD, 0xA50AB56B,
   0x35B5A8FA, 0x42B2986C, 0xDBBBC9D6, 0xACBCF940, 0x32D86CE3, 0x45DF5C75, 0xDCD60DCF, 0xABD13D59,
   0x26D930AC, 0x51DE003A, 0xC8D75180, 0xBFD06116, 0x21B4F4B5, 0x56B3C423, 0xCFBA9599, 0xB8BDA50F,
   0x2802B89E, 0x5F058808, 0xC60CD9B2, 0xB10BE924, 0x2F6F7C87, 0x58684C11, 0xC1611DAB, 0xB6662D3D,
   0x76DC4190, 0x01DB7106, 0x98D220BC, 0xEFD5102A, 0x71B18589, 0x06B6B51F, 0x9FBFE4A5, 0xE8B8D433,
   0x7807C9A2, 0x0F00F934, 0x9609A88E, 0xE10E9818, 0x7F6A0DBB, 0x086D3D2D, 0x91646C97, 0xE6635C01,
   0x6B6B51F4, 0x1C6C6162, 0x856530D8, 0xF262004E, 0x6C0695ED, 0x1B01A57B, 0x8208F4C1, 0xF50FC457,
   0x65B0D9C6, 0x12B7E950, 0x8BBEB8EA, 0xFCB9887C, 0x62DD1DDF, 0x15DA2D49, 0x8CD37CF3, 0xFBD44C65,
   0x4DB26158, 0x3AB551CE, 0xA3BC0074, 0xD4BB30E2, 0x4ADFA541, 0x3DD895D7, 0xA4D1C46D, 0xD3D6F4FB,
   0x4369E96A, 0x346ED9FC, 0xAD678846, 0xDA60B8D0, 0x44042D73, 0x33031DE5, 0xAA0A4C5F, 0xDD0D7CC9,
   0x5005713C, 0x270241AA, 0xBE0B1010, 0xC90C2086, 0x5768B525, 0x206F85B3, 0xB966D409, 0xCE61E49F,
   0x5EDEF90E, 0x29D9C998, 0xB0D09822, 0xC7D7A8B4, 0x59B33D17, 0x2EB40D81, 0xB7BD5C3B, 0xC0BA6CAD,
   0xEDB88320, 0x9ABFB3B6, 0x03B6E20C, 0x74B1D29A, 0xEAD54739, 0x9DD277AF, 0x04DB2615, 0x73DC1683,
   0xE3630B12, 0x94643B84, 0x0D6D6A3E, 0x7A6A5AA8, 0xE40ECF0B, 0x9309FF9D, 0x0A00AE27, 0x7D079EB1,
   0xF00F9344, 0x8708A3D2, 0x1E01F268, 0x6906C2FE, 0xF762575D, 0x806567CB, 0x196C3671, 0x6E6B06E7,
   0xFED41B76, 0x89D32BE0, 0x10DA7A5A, 0x67DD4ACC, 0xF9B9DF6F, 0x8EBEEFF9, 0x17B7BE43, 0x60B08ED5,
   0xD6D6A3E8, 0xA1D1937E, 0x38D8C2C4, 0x4FDFF252, 0xD1BB67F1, 0xA6BC5767, 0x3FB506DD, 0x48B2364B,
   0xD80D2BDA, 0xAF0A1B4C, 0x36034AF6, 0x41047A60, 0xDF60EFC3, 0xA867DF55, 0x316E8EEF, 0x4669BE79,
   0xCB61B38C, 0xBC66831A, 0x256FD2A0, 0x5268E236, 0xCC0C7795, 0xBB0B4703, 0x220216B9, 0x5505262F,
   0xC5BA3BBE, 0xB2BD0B28, 0x2BB45A92, 0x5CB36A04, 0xC2D7FFA7, 0xB5D0CF31, 0x2CD99E8B, 0x5BDEAE1D,
   0x9B64C2B0, 0xEC63F226, 0x756AA39C, 0x026D930A, 0x9C0906A9, 0xEB0E363F, 0x72076785, 0x05005713,
   0x95BF4A82, 0xE2B87A14, 0x7BB12BAE, 0x0CB61B38, 0x92D28E9B, 0xE5D5BE0D, 0x7CDCEFB7, 0x0BDBDF21,
   0x86D3D2D4, 0xF1D4E242, 0x68DDB3F8, 0x1FDA836E, 0x81BE16CD, 0xF6B9265B, 0x6FB077E1, 0x18B74777,
   0x88085AE6, 0xFF0F6A70, 0x66063BCA, 0x11010B5C, 0x8F659EFF, 0xF862AE69, 0x616BFFD3, 0x166CCF45,
   0xA00AE278, 0xD70DD2EE, 0x4E048354, 0x3903B3C2, 0xA7672661, 0xD06016F7, 0x4969474D, 0x3E6E77DB,
   0xAED16A4A, 0xD9D65ADC, 0x40DF0B66, 0x37D83BF0, 0xA9BCAE53, 0xDEBB9EC5, 0x47B2CF7F, 0x30B5FFE9,
   0xBDBDF21C, 0xCABAC28A, 0x53B39330, 0x24B4A3A6, 0xBAD03605, 0xCDD70693, 0x54DE5729, 0x23D967BF,
   0xB3667A2E, 0xC4614AB8, 0x5D681B02, 0x2A6F2B94, 0xB40BBE37, 0xC30C8EA1, 0x5A05DF1B, 0x2D02EF8D]

def crc32Init : UInt32 := 0xFFFFFFFF

def crc32Step (crc : UInt32) (byte : UInt8) : UInt32 :=
  (crc >>> 8) ^^^ crc32Table.getD ((crc ^^^ byte.toUInt32) &&& 0xFF).toNat 0

/-- The bytes are those that the pointer and the length name; a null pointer names none. -/
def crc32Calculate (data : List UInt8) (initialCrc : UInt32) : UInt32 := data.foldl crc32Step initialCrc

/- The definition of the checksum. -/

def polynomial : UInt32 := 0xEDB88320

def divideBit (crc : UInt32) : UInt32 :=
  if crc &&& 1 = 1 then (crc >>> 1) ^^^ polynomial else crc >>> 1

/-- A byte goes into the low end, and its eight bits are divided out. -/
def divideByte (crc : UInt32) (byte : UInt8) : UInt32 := divideBit^[8] (crc ^^^ byte.toUInt32)

def bitwiseCrc (data : List UInt8) (initialCrc : UInt32) : UInt32 := data.foldl divideByte initialCrc

variable (byte : UInt8)

def byteBits : List Bool := (List.range 8).map byte.toBitVec.getLsbD

def dataBits (data : List UInt8) : List Bool := data.flatMap byteBits

variable {data : List UInt8} {crc : UInt32}

theorem divideBit_toBitVec (crc : UInt32) : (divideBit crc).toBitVec = Crc.step polynomial.toBitVec crc.toBitVec := by
  have low : crc &&& 1 = 1 ↔ crc.toBitVec.getLsbD 0 = true := by
    rw [← UInt32.toBitVec_inj, UInt32.toBitVec_and]
    change crc.toBitVec &&& 1#32 = 1#32 ↔ _
    rw [BitVec.and_one_eq_setWidth_ofBool_getLsbD]
    cases crc.toBitVec.getLsbD 0 <;> decide
  rw [divideBit, Crc.step]
  by_cases bit : crc.toBitVec.getLsbD 0 = true
  · rw [if_pos (low.mpr bit), if_pos bit]
    rfl
  · rw [if_neg (mt low.mp bit), if_neg bit]
    rfl

theorem divideBits_toBitVec (n : Nat) (crc : UInt32) :
    (divideBit^[n] crc).toBitVec = Crc.steps polynomial.toBitVec n crc.toBitVec := by
  induction n generalizing crc with
  | zero => rfl
  | succ n ih => rw [Function.iterate_succ_apply, ih, divideBit_toBitVec, Crc.steps_succ]

theorem crc32Table_entry : ∀ i < 256,
    (crc32Table.getD i 0).toBitVec = Crc.steps polynomial.toBitVec 8 (BitVec.ofNat 32 i) := by
  decide +kernel

theorem crc32Step_eq (crc : UInt32) (byte : UInt8) : crc32Step crc byte = divideByte crc byte := by
  have index : ((crc ^^^ byte.toUInt32) &&& 0xFF).toNat < 256 := by
    rw [UInt32.toNat_and]
    exact Nat.lt_of_le_of_lt Nat.and_le_right (by decide)
  have entry := crc32Table_entry _ index
  have byte_high : byte.toUInt32.toBitVec >>> 8 = 0#32 := by
    apply BitVec.eq_of_toNat_eq
    have small := byte.toNat_lt
    rw [BitVec.toNat_ushiftRight, UInt32.toNat_toBitVec, UInt8.toNat_toUInt32, Nat.shiftRight_eq_div_pow]
    exact Nat.div_eq_of_lt small
  have high : (crc ^^^ byte.toUInt32).toBitVec >>> 8 = crc.toBitVec >>> 8 := by
    rw [UInt32.toBitVec_xor, BitVec.ushiftRight_xor_distrib, byte_high, BitVec.xor_zero]
  apply UInt32.toBitVec_inj.mp
  rw [divideByte, divideBits_toBitVec, Crc.steps_split, high, crc32Step, UInt32.toBitVec_xor, entry]
  congr 2
  apply BitVec.eq_of_toNat_eq
  rw [BitVec.toNat_ofNat, Nat.mod_eq_of_lt (by omega)]
  rfl

/-- The checksum is the division bit by bit, and it may be computed chunk by chunk. -/
theorem crc32_defined_and_streams :
    (∀ data initialCrc, crc32Calculate data initialCrc = bitwiseCrc data initialCrc) ∧
    ∀ (chunks : List (List UInt8)) initialCrc,
      chunks.foldl (fun crc chunk => crc32Calculate chunk crc) initialCrc =
        crc32Calculate chunks.flatten initialCrc := by
  constructor
  · intro data initialCrc
    have same : crc32Step = divideByte := funext fun crc => funext fun byte => crc32Step_eq crc byte
    rw [crc32Calculate, bitwiseCrc, same]
  · intro chunks initialCrc
    exact (List.foldl_flatten).symm

theorem length_byteBits : (byteBits byte).length = 8 := by
  rw [byteBits, List.length_map, List.length_range]

theorem word_byteBits : (Crc.word (byteBits byte) : BitVec 32) = byte.toUInt32.toBitVec := by
  apply BitVec.eq_of_getLsbD_eq
  intro i lt
  have wide : byte.toUInt32.toBitVec.getLsbD i = byte.toBitVec.getLsbD i := by
    change (byte.toBitVec.setWidth 32).getLsbD i = _
    rw [BitVec.getLsbD_setWidth, decide_eq_true lt, Bool.true_and]
  rw [Crc.getLsbD_word _ i lt, wide, byteBits]
  by_cases inside : i < 8
  · simp [inside]
  · simp [inside, BitVec.getLsbD_of_ge byte.toBitVec i (by omega)]

theorem crc32Calculate_toBitVec (data : List UInt8) (crc : UInt32) :
    (crc32Calculate data crc).toBitVec = Crc.remainder polynomial.toBitVec crc.toBitVec (dataBits data) := by
  induction data generalizing crc with
  | nil => rfl
  | cons byte data ih =>
    have first : (crc32Step crc byte).toBitVec = Crc.remainder polynomial.toBitVec crc.toBitVec (byteBits byte) := by
      have fits : (byteBits byte).length ≤ 32 := by
        rw [length_byteBits]
        decide
      rw [crc32Step_eq, divideByte, divideBits_toBitVec, Crc.remainder_eq_steps _ fits, word_byteBits, length_byteBits]
      rfl
    have rest := ih (crc32Step crc byte)
    rw [dataBits, List.flatMap_cons, Crc.remainder_append, ← first]
    exact rest

theorem crc32Calculate_ne {a b : List UInt8} (burst : Crc.Burst 32 (dataBits a) (dataBits b)) (crc : UInt32) :
    crc32Calculate a crc ≠ crc32Calculate b crc := by
  intro same
  have bits := congrArg UInt32.toBitVec same
  rw [crc32Calculate_toBitVec, crc32Calculate_toBitVec] at bits
  exact Crc.remainder_ne_of_burst (by decide) burst _ bits

end XSDK.Boot

/-! Return codes of the boot loader, and the words in a buffer. -/
namespace XSDK.Boot

open Library

/-- Return codes other than OK. -/
inductive Error where
  | nullPointer
  | invalidArgument
  | invalidState
  | invalidImage
  | invalidPartition
  | imageTooLarge
  | crcMismatch
  | signatureInvalid
  | versionRollback
  | storageRead
  | storageWrite
  | storageErase
  | noBootableImage
  | unsupported
  deriving DecidableEq, Repr

/-- The word copied from an offset of the buffer, on a little-endian machine. -/
def wordAt (buffer : List UInt8) (k : Nat) : UInt32 := UInt32.ofNat (readLE32 (fun j => buffer.getD j 0) k)

def wordBytes (x : UInt32) : List UInt8 :=
  [UInt8.ofNat x.toNat, UInt8.ofNat (x.toNat / 256), UInt8.ofNat (x.toNat / 65536), UInt8.ofNat (x.toNat / 16777216)]

theorem passed_of_ok {α : Type} {check : Prop} [Decidable check] {error : Error} {rest : Except Error α} {a : α}
    (ok : (if check then .error error else rest) = .ok a) : ¬check ∧ rest = .ok a := by
  by_cases failed : check
  · rw [if_pos failed] at ok
    cases ok
  · rw [if_neg failed] at ok
    exact ⟨failed, ok⟩

variable {pre post : List UInt8} {k : Nat}

@[simp] theorem length_wordBytes (x : UInt32) : (wordBytes x).length = 4 := rfl

theorem wordAt_split (x : UInt32) (at_end : pre.length = k) : wordAt (pre ++ (wordBytes x ++ post)) k = x := by
  have byte : ∀ i, (pre ++ (wordBytes x ++ post)).getD (k + i) 0 = (wordBytes x ++ post).getD i 0 := by
    intro i
    rw [List.getD_append_right _ _ _ _ (by omega), ← at_end, Nat.add_sub_cancel_left]
  have first := byte 0
  rw [Nat.add_zero] at first
  have value : readLE32 (fun j => (pre ++ (wordBytes x ++ post)).getD j 0) k = x.toNat := by
    have small := x.toNat_lt
    simp only [readLE32, readLE16, Nat.add_assoc, Nat.reduceAdd, first, byte]
    simp only [wordBytes, List.cons_append, List.getD_cons_zero, List.getD_cons_succ, UInt8.toNat_ofNat']
    omega
  rw [wordAt, value, UInt32.ofNat_toNat]

end XSDK.Boot

/-! The header of a boot image. -/
namespace XSDK.Boot

structure ImageHeader where
  magic : UInt32
  headerVersion : UInt32
  headerSize : UInt32
  imageSize : UInt32
  loadAddress : UInt32
  entryAddress : UInt32
  versionMajor : UInt32
  versionMinor : UInt32
  versionPatch : UInt32
  buildNumber : UInt32
  flags : UInt32
  payloadCrc32 : UInt32
  headerCrc32 : UInt32
  deriving DecidableEq, Repr

def imageMagic : UInt32 := 0x58424F54
def imageHeaderVersion1 : UInt32 := 1
def imageHeaderSize : Nat := 52
def imageCrcOffset : Nat := 48

def imageHeaderAt (buffer : List UInt8) : ImageHeader where
  magic := wordAt buffer 0
  headerVersion := wordAt buffer 4
  headerSize := wordAt buffer 8
  imageSize := wordAt buffer 12
  loadAddress := wordAt buffer 16
  entryAddress := wordAt buffer 20
  versionMajor := wordAt buffer 24
  versionMinor := wordAt buffer 28
  versionPatch := wordAt buffer 32
  buildNumber := wordAt buffer 36
  flags := wordAt buffer 40
  payloadCrc32 := wordAt buffer 44
  headerCrc32 := wordAt buffer imageCrcOffset

/-- The checksum of the bytes before an offset, as it is stored there. -/
def storedCrc (buffer : List UInt8) (offset : Nat) : UInt32 :=
  crc32Calculate (buffer.take offset) crc32Init ^^^ 0xFFFFFFFF

/-- The pointers are set; the buffer is what its size names. -/
def imageHeaderParse (buffer : List UInt8) : Except Error ImageHeader :=
  if buffer.length < imageHeaderSize then .error .invalidArgument
  else if wordAt buffer 0 ≠ imageMagic then .error .invalidImage
  else if wordAt buffer 4 ≠ imageHeaderVersion1 then .error .invalidImage
  else if wordAt buffer 8 ≠ UInt32.ofNat imageHeaderSize then .error .invalidImage
  else if storedCrc buffer imageCrcOffset ≠ wordAt buffer imageCrcOffset then .error .crcMismatch
  else .ok (imageHeaderAt buffer)

variable {buffer : List UInt8} {header : ImageHeader}

theorem crc_of_imageHeaderParse (parsed : imageHeaderParse buffer = .ok header) :
    imageHeaderSize ≤ buffer.length ∧ storedCrc buffer imageCrcOffset = wordAt buffer imageCrcOffset := by
  rw [imageHeaderParse] at parsed
  obtain ⟨long, parsed⟩ := passed_of_ok parsed
  obtain ⟨_, parsed⟩ := passed_of_ok parsed
  obtain ⟨_, parsed⟩ := passed_of_ok parsed
  obtain ⟨_, parsed⟩ := passed_of_ok parsed
  obtain ⟨crc, _⟩ := passed_of_ok parsed
  exact ⟨Nat.le_of_not_lt long, not_not.mp crc⟩

end XSDK.Boot
