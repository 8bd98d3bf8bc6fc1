import XSDK.Usbip.Proto

/-! The fields of a message, written one behind the other. Every check adds a length to the place, and is
exact until the sum reaches 2 ^ 32. -/
namespace XSDK.Usbip

open Library Library.Call Library.BigEndian

variable (bufLen : UInt32)

/-- A field of a message, as it is written. -/
inductive Field where
  | u8 (val : UInt8)
  | u16 (val : UInt16)
  | u32 (val : UInt32)
  | block (data : List UInt8) (len : UInt32) (size : data.length = len.toNat)

def Field.bytes : Field → List UInt8
  | u8 val => [val]
  | u16 val => bytes16 val
  | u32 val => bytes32 val
  | block data _ _ => data

def Field.write : Field → Encoder
  | u8 val => writeU8 bufLen val
  | u16 val => writeU16Be bufLen val
  | u32 val => writeU32Be bufLen val
  | block data len _ => writeBytes bufLen data len

def Field.zeros (len : UInt32) : Field := .block (List.replicate len.toNat 0) len List.length_replicate

def bytesOf (fields : List Field) : List UInt8 := fields.flatMap Field.bytes

def writeAll : List Field → Encoder
  | [] => pure ()
  | field :: rest => field.write bufLen >>= fun _ => writeAll rest

/-- A single byte, for which no length is added to the place. -/
def Field.isByte : Field → Bool
  | u8 _ => true
  | _ => false

/-- Some field but a single byte begins inside the buffer or at its end, and ends at 2 ^ 32 or past it. -/
def Crosses : Nat → List Field → Prop
  | _, [] => False
  | start, field :: rest =>
    (start ≤ bufLen.toNat ∧ field.isByte = false ∧ 2 ^ 32 ≤ start + field.bytes.length) ∨
      Crosses (start + field.bytes.length) rest

section Fields

variable {bufLen : UInt32} {field : Field} {fields more : List Field} {o : Output} {start : Nat}

theorem bytesOf_cons : bytesOf (field :: fields) = field.bytes ++ bytesOf fields := rfl

theorem length_bytesOf_cons : (bytesOf (field :: fields)).length = field.bytes.length + (bytesOf fields).length := by
  rw [bytesOf_cons, List.length_append]

theorem bytesOf_append : bytesOf (fields ++ more) = bytesOf fields ++ bytesOf more := List.flatMap_append

theorem writeAll_append (fields more : List Field) :
    writeAll bufLen (fields ++ more) = (writeAll bufLen fields >>= fun _ => writeAll bufLen more) := by
  induction fields with
  | nil => rfl
  | cons field fields ih => rw [List.cons_append, writeAll, writeAll, ih, bind_assoc]

theorem crosses_append {bufLen : UInt32} {start : Nat} {fields more : List Field} :
    Crosses bufLen start (fields ++ more) ↔
      Crosses bufLen start fields ∨ Crosses bufLen (start + (bytesOf fields).length) more := by
  induction fields generalizing start with
  | nil => exact ⟨.inr, fun h => h.resolve_left id⟩
  | cons field fields ih => rw [List.cons_append, Crosses, Crosses, ih, or_assoc, length_bytesOf_cons, Nat.add_assoc]

theorem not_crosses (ends : start + (bytesOf fields).length < 2 ^ 32) : ¬Crosses bufLen start fields := by
  induction fields generalizing start with
  | nil => exact id
  | cons field fields ih =>
    rw [length_bytesOf_cons] at ends
    rintro (⟨-, -, high⟩ | later)
    · omega
    · exact ih (by omega) later

def Field.stores (pos : UInt32) : Field → List (Nat × UInt8)
  | u8 val => [(pos.toNat, val)]
  | u16 val => [(pos.toNat, (val >>> 8).toUInt8), ((pos + 1).toNat, val.toUInt8)]
  | u32 val => [(pos.toNat, (val >>> 24).toUInt8), ((pos + 1).toNat, (val >>> 16).toUInt8),
      ((pos + 2).toNat, (val >>> 8).toUInt8), ((pos + 3).toNat, val.toUInt8)]
  | block data _ _ => copied pos.toNat data

def Field.len : Field → UInt32
  | u8 _ => 1
  | u16 _ => 2
  | u32 _ => 4
  | block _ len _ => len

theorem Field.toNat_len (field : Field) : field.len.toNat = field.bytes.length := by
  cases field with
  | u8 _ => rfl
  | u16 _ => rfl
  | u32 _ => rfl
  | block data len size => exact size.symm

def Field.Refused (bufLen pos : UInt32) : Field → Prop
  | u8 _ => bufLen ≤ pos
  | u16 _ => bufLen < pos + 2
  | u32 _ => bufLen < pos + 4
  | block _ len _ => len ≠ 0 ∧ bufLen < pos + len

theorem Field.write_refused (refused : field.Refused bufLen o.pos) :
    field.write bufLen o = (.error .bufferTooSmall, o) := by
  cases field with
  | u8 val => exact congrFun (reject_bind_pos _ (show bufLen ≤ o.pos from refused)) o
  | u16 val => exact congrFun (reject_bind_pos _ (show bufLen < o.pos + 2 from refused)) o
  | u32 val => exact congrFun (reject_bind_pos _ (show bufLen < o.pos + 4 from refused)) o
  | block data len size =>
    rw [Field.write, writeBytes, if_neg refused.1]
    exact congrFun (reject_bind_pos _ refused.2) o

theorem Field.write_taken (taken : ¬field.Refused bufLen o.pos) :
    field.write bufLen o = (.ok (), o.write (field.stores o.pos) field.len) := by
  cases field with
  | u8 val => exact congrFun (reject_bind_neg _ (show ¬bufLen ≤ o.pos from taken)) o
  | u16 val => exact congrFun (reject_bind_neg _ (show ¬bufLen < o.pos + 2 from taken)) o
  | u32 val => exact congrFun (reject_bind_neg _ (show ¬bufLen < o.pos + 4 from taken)) o
  | block data len size =>
    rw [Field.write, writeBytes]
    by_cases empty : len = 0
    · subst empty
      obtain rfl : data = [] := List.eq_nil_of_length_eq_zero size
      rw [if_pos rfl]
      change _ = (Except.ok (), Output.mk (o.stores ++ []) (o.pos + 0) o.bytesWritten)
      rw [List.append_nil, UInt32.add_zero]
      rfl
    · rw [if_neg empty]
      exact congrFun (reject_bind_neg _ fun short => taken ⟨empty, short⟩) o

theorem toNat_add_of_lt {a b : UInt32} (small : a.toNat + b.toNat < 2 ^ 32) : (a + b).toNat = a.toNat + b.toNat := by
  rw [UInt32.toNat_add, Nat.mod_eq_of_lt small]

/-- Away from 2 ^ 32 the check is exact, and the stores go to consecutive places. -/
theorem Field.refused_iff (inside : o.pos.toNat ≤ bufLen.toNat)
    (apart : ¬(field.isByte = false ∧ 2 ^ 32 ≤ o.pos.toNat + field.bytes.length)) :
    field.Refused bufLen o.pos ↔ bufLen.toNat < o.pos.toNat + field.bytes.length := by
  have bound := bufLen.toNat_lt
  cases field with
  | u8 val =>
    rw [Field.Refused, UInt32.le_iff_toNat_le]
    exact Nat.lt_succ_iff.symm
  | u16 val =>
    have small : o.pos.toNat + (2 : UInt32).toNat < 2 ^ 32 := Nat.lt_of_not_le fun high => apart ⟨rfl, high⟩
    rw [Field.Refused, UInt32.lt_iff_toNat_lt, toNat_add_of_lt small]
    rfl
  | u32 val =>
    have small : o.pos.toNat + (4 : UInt32).toNat < 2 ^ 32 := Nat.lt_of_not_le fun high => apart ⟨rfl, high⟩
    rw [Field.Refused, UInt32.lt_iff_toNat_lt, toNat_add_of_lt small]
    rfl
  | block data len size =>
    rw [Field.Refused, Field.bytes, size]
    rw [Field.bytes, size] at apart
    by_cases empty : len = 0
    · subst empty
      exact ⟨fun h => absurd rfl h.1, fun h => absurd inside (Nat.not_le.mpr h)⟩
    · have small : o.pos.toNat + len.toNat < 2 ^ 32 := Nat.lt_of_not_le fun high => apart ⟨rfl, high⟩
      rw [UInt32.lt_iff_toNat_lt, toNat_add_of_lt small]
      exact and_iff_right empty

theorem Field.stores_eq (small : o.pos.toNat + field.bytes.length < 2 ^ 32) :
    field.stores o.pos = copied o.pos.toNat field.bytes := by
  cases field with
  | u8 val => rfl
  | u16 val =>
    have first : (o.pos + 1).toNat = o.pos.toNat + 1 := toNat_add_of_lt (Nat.lt_trans (Nat.lt_succ_self _) small)
    rw [Field.stores, first]
    rfl
  | u32 val =>
    have size : o.pos.toNat + 4 < 2 ^ 32 := small
    have first : (o.pos + 1).toNat = o.pos.toNat + 1 := toNat_add_of_lt (by change _ + 1 < _; omega)
    have second : (o.pos + 2).toNat = o.pos.toNat + 2 := toNat_add_of_lt (by change _ + 2 < _; omega)
    have third : (o.pos + 3).toNat = o.pos.toNat + 3 := toNat_add_of_lt (by change _ + 3 < _; omega)
    rw [Field.stores, first, second, third]
    rfl
  | block data len size => rfl

variable {data : List UInt8}

theorem mem_copied {k j : Nat} (low : k ≤ j) (high : j < k + data.length) : ∃ b, (j, b) ∈ copied k data := by
  induction data generalizing k with
  | nil => exact absurd low (Nat.not_le.mpr high)
  | cons b data ih =>
    rw [List.length_cons] at high
    rcases Nat.eq_or_lt_of_le low with rfl | later
    · exact ⟨b, List.mem_cons_self⟩
    · obtain ⟨c, mem⟩ := ih later (by omega)
      exact ⟨c, List.mem_cons_of_mem _ mem⟩

theorem lt_of_mem_copied {k : Nat} {store : Nat × UInt8} (mem : store ∈ copied k data) :
    store.1 < k + data.length := by
  induction data generalizing k with
  | nil => cases mem
  | cons b data ih =>
    rw [List.length_cons]
    rcases List.mem_cons.mp mem with rfl | mem
    · change k < _
      omega
    · have bound := ih mem
      omega

theorem Field.write_crosses (inside : o.pos.toNat ≤ bufLen.toNat)
    (crosses : field.isByte = false ∧ 2 ^ 32 ≤ o.pos.toNat + field.bytes.length) :
    ¬field.Refused bufLen o.pos ∧ ∃ b, (2 ^ 32 - 1, b) ∈ field.stores o.pos := by
  have bound := o.pos.toNat_lt
  cases field with
  | u8 val => exact absurd crosses.1 (show ¬true = false by decide)
  | u16 val =>
    have high : 2 ^ 32 ≤ o.pos.toNat + 2 := crosses.2
    refine ⟨?_, ?_⟩
    · rw [Field.Refused, UInt32.lt_iff_toNat_lt, UInt32.toNat_add]
      change ¬_ < (_ + 2) % 2 ^ 32
      omega
    · obtain first | second : o.pos.toNat = 2 ^ 32 - 1 ∨ (o.pos + 1).toNat = 2 ^ 32 - 1 := by
        rw [UInt32.toNat_add]
        change _ ∨ (_ + 1) % 2 ^ 32 = _
        omega
      · exact ⟨(val >>> 8).toUInt8, by simp [Field.stores, first]⟩
      · exact ⟨val.toUInt8, by simp [Field.stores, second]⟩
  | u32 val =>
    have high : 2 ^ 32 ≤ o.pos.toNat + 4 := crosses.2
    refine ⟨?_, ?_⟩
    · rw [Field.Refused, UInt32.lt_iff_toNat_lt, UInt32.toNat_add]
      change ¬_ < (_ + 4) % 2 ^ 32
      omega
    · obtain first | second | third | fourth : o.pos.toNat = 2 ^ 32 - 1 ∨ (o.pos + 1).toNat = 2 ^ 32 - 1 ∨
          (o.pos + 2).toNat = 2 ^ 32 - 1 ∨ (o.pos + 3).toNat = 2 ^ 32 - 1 := by
        rw [UInt32.toNat_add, UInt32.toNat_add, UInt32.toNat_add]
        change _ ∨ (_ + 1) % 2 ^ 32 = _ ∨ (_ + 2) % 2 ^ 32 = _ ∨ (_ + 3) % 2 ^ 32 = _
        omega
      · exact ⟨(val >>> 24).toUInt8, by simp [Field.stores, first]⟩
      · exact ⟨(val >>> 16).toUInt8, by simp [Field.stores, second]⟩
      · exact ⟨(val >>> 8).toUInt8, by simp [Field.stores, third]⟩
      · exact ⟨val.toUInt8, by simp [Field.stores, fourth]⟩
  | block data len size =>
    rw [Field.bytes, size] at crosses
    have wide := len.toNat_lt
    refine ⟨?_, ?_⟩
    · rintro ⟨-, short⟩
      rw [UInt32.lt_iff_toNat_lt, UInt32.toNat_add] at short
      omega
    · exact mem_copied (by omega) (by rw [size]; omega)

structure Written (o o' : Output) (done : List UInt8) : Prop where
  stores : o'.stores = o.stores ++ copied o.pos.toNat done
  pos : o'.pos.toNat = o.pos.toNat + done.length
  bytesWritten : o'.bytesWritten = o.bytesWritten

theorem copied_append (k : Nat) (data more : List UInt8) :
    copied k (data ++ more) = copied k data ++ copied (k + data.length) more := by
  induction data generalizing k with
  | nil => rfl
  | cons b data ih =>
    rw [List.cons_append, copied, copied, ih, List.cons_append, List.length_cons, Nat.add_assoc, Nat.add_comm 1]

theorem Written.none : Written o o [] := ⟨(List.append_nil _).symm, rfl, rfl⟩

theorem Written.trans {o' o'' : Output} {done more : List UInt8} (first : Written o o' done)
    (then_ : Written o' o'' more) :
    Written o o'' (done ++ more) := by
  constructor
  · rw [then_.stores, first.stores, first.pos, copied_append, List.append_assoc]
  · rw [then_.pos, first.pos, List.length_append, Nat.add_assoc]
  · exact then_.bytesWritten.trans first.bytesWritten

theorem Field.written (small : o.pos.toNat + field.bytes.length < 2 ^ 32) :
    Written o (o.write (field.stores o.pos) field.len) field.bytes := by
  constructor
  · rw [← Field.stores_eq small]
    rfl
  · have sum : o.pos.toNat + field.len.toNat < 2 ^ 32 := by rwa [field.toNat_len]
    exact (toNat_add_of_lt sum).trans (by rw [field.toNat_len])
  · rfl

theorem writeAll_exact (inside : o.pos.toNat ≤ bufLen.toNat) (apart : ¬Crosses bufLen o.pos.toNat fields) :
    ∃ done o', Written o o' done ∧ o'.pos.toNat ≤ bufLen.toNat ∧
      ((writeAll bufLen fields o = (.ok (), o') ∧ done = bytesOf fields) ∨
        (writeAll bufLen fields o = (.error .bufferTooSmall, o') ∧
          bufLen.toNat < o.pos.toNat + (bytesOf fields).length)) := by
  induction fields generalizing o with
  | nil => exact ⟨[], o, .none, inside, .inl ⟨rfl, rfl⟩⟩
  | cons field fields ih =>
    rw [Crosses, not_or] at apart
    obtain ⟨here, later⟩ := apart
    have exact_ := Field.refused_iff inside fun crosses => here ⟨inside, crosses⟩
    by_cases refused : field.Refused bufLen o.pos
    · refine ⟨[], o, .none, inside, .inr ⟨?_, ?_⟩⟩
      · rw [writeAll, bind_error _ (Field.write_refused refused)]
      · have short := exact_.mp refused
        rw [length_bytesOf_cons]
        omega
    · have fits := Nat.le_of_not_lt (mt exact_.mpr refused)
      have written := Field.written (Nat.lt_of_le_of_lt fits bufLen.toNat_lt)
      rw [← written.pos] at later fits
      obtain ⟨done, o', more, below, ended⟩ := ih fits later
      rw [writeAll, bind_ok _ (Field.write_taken refused)]
      refine ⟨field.bytes ++ done, o', written.trans more, below, ?_⟩
      rcases ended with ⟨run, all⟩ | ⟨run, short⟩
      · exact .inl ⟨run, by rw [all, bytesOf_cons]⟩
      · refine .inr ⟨run, ?_⟩
        rw [written.pos] at short
        rw [length_bytesOf_cons]
        omega

theorem crosses_inside (crosses : Crosses bufLen start fields) : start ≤ bufLen.toNat := by
  induction fields generalizing start with
  | nil => exact crosses.elim
  | cons field fields ih =>
    rcases crosses with here | later
    · exact here.1
    · have inside := ih later
      omega

theorem writeAll_keeps (store : Nat × UInt8) : Keeps (fun o => store ∈ o.stores) (writeAll bufLen fields) := by
  induction fields with
  | nil => exact .pure
  | cons field fields ih =>
    refine .bind (.intro fun o mem => ?_) fun _ => ih
    by_cases refused : field.Refused bufLen o.pos
    · rwa [Field.write_refused refused]
    · rw [Field.write_taken refused]
      exact List.mem_append_left _ mem

theorem writeAll_crosses (crosses : Crosses bufLen o.pos.toNat fields) :
    ∃ b, (2 ^ 32 - 1, b) ∈ (writeAll bufLen fields o).2.stores := by
  induction fields generalizing o with
  | nil => exact crosses.elim
  | cons field fields ih =>
    have inside := crosses_inside crosses
    by_cases here : field.isByte = false ∧ 2 ^ 32 ≤ o.pos.toNat + field.bytes.length
    · obtain ⟨taken, b, mem⟩ := Field.write_crosses inside here
      refine ⟨b, ?_⟩
      rw [writeAll, bind_ok _ (Field.write_taken taken)]
      exact (writeAll_keeps _).after (List.mem_append_right _ mem)
    · have later : Crosses bufLen (o.pos.toNat + field.bytes.length) fields := crosses.resolve_left fun h => here h.2
      have fits := crosses_inside later
      have taken : ¬field.Refused bufLen o.pos := fun refused =>
        absurd ((Field.refused_iff inside here).mp refused) (Nat.not_lt.mpr fits)
      have written := Field.written (Nat.lt_of_le_of_lt fits bufLen.toNat_lt)
      rw [← written.pos] at later
      rw [writeAll, bind_ok _ (Field.write_taken taken)]
      exact ih later

end Fields

end XSDK.Usbip
