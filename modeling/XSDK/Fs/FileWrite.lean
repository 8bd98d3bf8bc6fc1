import XSDK.Fs.FileWalk

/-! Writing at the cursor: where the bytes go, and what the position and the size are
afterwards. The position is a word, so it starts again at zero behind the last byte that a
file can have. -/
namespace XSDK.Fs

open Library Prog

variable {env : Env} {ctx : Context} {io io' : Io} {l l' : List Nat} {lag lag' : Nat}

/-- The sector of a cluster that a position of the file is in. -/
def dataSector (ctx : Context) (cluster position : Nat) : Nat :=
  word32 (clusterToSector ctx cluster + position % fileClusterSize ctx / ctx.bytesPerSector)

def File.clusterAt (ctx : Context) (disk : Nat → Sector) (file : File) (i : Nat) : Option Nat :=
  elementAt (clusterLink ctx disk) file.firstCluster? i

/-- A byte of the file, where its chain has a cluster for it. -/
def File.byteAt (ctx : Context) (disk : Nat → Sector) (file : File) (offset : Nat) : Option UInt8 :=
  (file.clusterAt ctx disk (offset / fileClusterSize ctx)).map fun cluster =>
    disk (dataSector ctx cluster offset) (offset % ctx.bytesPerSector)

theorem Standing.clusterAt (standing : Standing ctx io l lag) (i : Nat) : io.file.clusterAt ctx io.view i = l[i]? := by
  rw [File.clusterAt, standing.first]
  exact standing.threaded.links.elementAt i

namespace Geometry

variable (geometry : Geometry ctx) {cluster other position offset : Nat}
include geometry

theorem fileClusterSize_eq : fileClusterSize ctx = 512 * ctx.sectorsPerCluster := by
  have small := geometry.clusterSize
  rw [fileClusterSize, geometry.bytesPerSector, sectorSize]
  exact word32_of_lt (by omega)

theorem fileClusterSize_pos : 0 < fileClusterSize ctx := by
  have positive := geometry.sectorsPerCluster
  rw [geometry.fileClusterSize_eq]
  omega

theorem row_lt (position : Nat) : position % fileClusterSize ctx / 512 < ctx.sectorsPerCluster := by
  have below := Nat.mod_lt position geometry.fileClusterSize_pos
  rw [geometry.fileClusterSize_eq] at below ⊢
  omega

theorem dataSector_eq (known : inRange ctx cluster = true) (position : Nat) :
    dataSector ctx cluster position = clusterToSector ctx cluster + position % fileClusterSize ctx / 512 := by
  have row := geometry.row_lt position
  have last := geometry.cluster_end known
  have inside := geometry.inside
  rw [dataSector, geometry.bytesPerSector, sectorSize]
  exact word32_of_lt (by omega)

theorem dataSector_high (known : inRange ctx cluster = true) (position : Nat) :
    ctx.clusterHeapStart ≤ dataSector ctx cluster position := by
  rw [geometry.dataSector_eq known, geometry.clusterToSector_eq known]
  omega

theorem dataSector_inj (known : inRange ctx cluster = true) (known' : inRange ctx other = true)
    (same : dataSector ctx cluster position = dataSector ctx other offset) :
    cluster = other ∧ position % fileClusterSize ctx / 512 = offset % fileClusterSize ctx / 512 := by
  have row := geometry.row_lt position
  have row' := geometry.row_lt offset
  have low := (geometry.inRange_iff.mp known).1
  have low' := (geometry.inRange_iff.mp known').1
  rw [geometry.dataSector_eq known, geometry.dataSector_eq known', geometry.clusterToSector_eq known,
    geometry.clusterToSector_eq known', Nat.add_assoc, Nat.add_assoc, Nat.add_left_cancel_iff] at same
  have first : cluster - 2 = other - 2 := by
    have left : ((cluster - 2) * ctx.sectorsPerCluster + position % fileClusterSize ctx / 512) / ctx.sectorsPerCluster =
        cluster - 2 := by
      rw [Nat.add_comm, Nat.add_mul_div_right _ _ geometry.sectorsPerCluster, Nat.div_eq_of_lt row, Nat.zero_add]
    have right : ((other - 2) * ctx.sectorsPerCluster + offset % fileClusterSize ctx / 512) / ctx.sectorsPerCluster =
        other - 2 := by
      rw [Nat.add_comm, Nat.add_mul_div_right _ _ geometry.sectorsPerCluster, Nat.div_eq_of_lt row', Nat.zero_add]
    rw [← left, same, right]
  rw [first, Nat.add_left_cancel_iff] at same
  exact ⟨by omega, same⟩

theorem place_lt (earlier : offset < position) (cluster : offset / fileClusterSize ctx = position / fileClusterSize ctx)
    (row : offset % fileClusterSize ctx / 512 = position % fileClusterSize ctx / 512) :
    offset % 512 < position % 512 := by
  have divides : 512 ∣ fileClusterSize ctx := by
    rw [geometry.fileClusterSize_eq]
    exact Nat.dvd_mul_right 512 _
  have split := Nat.div_add_mod offset (fileClusterSize ctx)
  have split' := Nat.div_add_mod position (fileClusterSize ctx)
  have less : offset % fileClusterSize ctx < position % fileClusterSize ctx := by
    rw [cluster] at split
    omega
  rw [← Nat.mod_mod_of_dvd offset divides, ← Nat.mod_mod_of_dvd position divides]
  omega

theorem last_cluster (whole : position % 512 + (2 ^ 32 - position) = 512) (lt : position < 2 ^ 32) :
    position / fileClusterSize ctx = (2 ^ 32 - 1) / fileClusterSize ctx := by
  rw [geometry.fileClusterSize_eq, ← Nat.div_div_eq_div_mul, ← Nat.div_div_eq_div_mul]
  have rows : position / 512 = (2 ^ 32 - 1) / 512 := by omega
  rw [rows]

end Geometry

structure Positioned (ctx : Context) (io : Io) : Prop where
  valid : io.cache.isValid = true
  sector : io.cache.sector = dataSector ctx io.file.currentCluster io.file.position
  buffer : io.cache.buffer = io.view io.cache.sector

theorem Standing.looked (standing : Standing ctx io l lag) (coherent : io'.Coherent) (view : io'.view = io.view)
    (file : io'.file = io.file) : Standing ctx io' l lag := by
  refine ⟨coherent, ?_, ?_, ?_⟩
  · rw [view]
    exact standing.threaded
  · rw [file]
    exact standing.first
  · rw [file]
    exact standing.cursor

theorem fileReadSector_triple (standing : Standing ctx io l lag) :
    Triple (· = io) (fileReadSector env ctx)
      (fun _ io' => Standing ctx io' l lag ∧ io'.view = io.view ∧ io'.file = io.file ∧ Positioned ctx io')
      fun _ io' => Standing ctx io' l lag ∧ io'.view = io.view ∧ io'.file = io.file ∧ ¬env.Ideal := by
  rintro io rfl r io' run
  have touched : Io.Coherent { io with touched := dataSector ctx io.file.currentCluster io.file.position :: io.touched } :=
    standing.coherent
  have post := cacheRead_triple env touched (dataSector ctx io.file.currentCluster io.file.position) _ rfl r io' run
  cases r with
  | ok _ =>
    obtain ⟨coherent, fetched⟩ := post
    refine ⟨standing.looked coherent fetched.view fetched.file, fetched.view, fetched.file, fetched.valid, ?_, ?_⟩
    · rw [fetched.file]
      exact fetched.sector
    · rw [fetched.buffer, fetched.sector, fetched.view]
  | error e =>
    obtain ⟨coherent, looked, driver⟩ := post
    exact ⟨standing.looked coherent looked.view looked.file, looked.view, looked.file, driver⟩

section Reach

variable (env) (geometry : Geometry ctx)
include geometry

theorem fileReachForWrite_triple (standing : Standing ctx io l lag) :
    Triple (· = io) (fileReachForWrite env ctx)
      (fun _ io' => ∃ l' lag', Grown env ctx io l io' l' ∧ Standing ctx io' l' lag' ∧ lag' ≤ lag ∧ SameSpan io io' ∧
        l' ≠ [] ∧ io'.file.currentClusterIndex = io.file.position / fileClusterSize ctx ∧ Positioned ctx io' ∧
        ¬BreaksForWrite env ctx (io.file.position / fileClusterSize ctx) io)
      fun _ io' => ∃ l' lag', Grown env ctx io l io' l' ∧ Standing ctx io' l' lag' ∧
        SameSpan io io' ∧ (l' = [] → lag' = 0) ∧
        (lag = 0 → (lag' = 0 ↔ ¬BreaksForWrite env ctx (io.file.position / fileClusterSize ctx) io)) ∧
        (env.Ideal → l'.length ≤ io.file.position / fileClusterSize ctx + lag ∧ freeClusters ctx io'.view = ∅) := by
  rintro io rfl r io' run
  rw [fileReachForWrite, bind_ok _ (read_run _)] at run
  have walk := fileMoveToClusterIndexForWrite_triple env geometry (io.file.position / fileClusterSize ctx) standing
  rcases of_bind run with ⟨e, moved, rfl⟩ | ⟨_, io₁, moved, run⟩
  · exact walk io rfl _ _ moved
  · obtain ⟨l', lag', grown, stands, less, span, nonempty, index, whole⟩ := walk io rfl _ _ moved
    have fetched := fileReadSector_triple stands io₁ rfl r io' run
    cases r with
    | ok _ =>
      obtain ⟨stands', view, file, positioned⟩ := fetched
      refine ⟨l', lag', grown.congr_right stands'.coherent view, stands', less, span.trans (SameSpan.of_file file),
        nonempty, ?_, positioned, whole⟩
      rw [file]
      exact index
    | error e =>
      obtain ⟨stands', view, file, driver⟩ := fetched
      refine ⟨l', lag', grown.congr_right stands'.coherent view, stands', span.trans (SameSpan.of_file file),
        fun none => absurd none nonempty, fun zero => iff_of_true (by omega) whole, fun ideal => absurd ideal driver⟩

end Reach

section Store

variable {bytes : List UInt8}

def storeCount (ctx : Context) (io : Io) (bytes : List UInt8) : Nat :=
  min (ctx.bytesPerSector - io.file.position % ctx.bytesPerSector) bytes.length

def storedBuffer (ctx : Context) (io : Io) (bytes : List UInt8) : Sector := fun k =>
  if io.file.position % ctx.bytesPerSector ≤ k ∧
    k < io.file.position % ctx.bytesPerSector + storeCount ctx io bytes then
    bytes.getD (k - io.file.position % ctx.bytesPerSector) 0
  else io.cache.buffer k

def Io.stored (ctx : Context) (bytes : List UInt8) (io : Io) : Io :=
  { io.store (storedBuffer ctx io bytes) with file := io.file.advance (storeCount ctx io bytes) }

theorem fileStore_run (ctx : Context) (bytes : List UInt8) (io : Io) :
    fileStore ctx bytes io = some (.ok (storeCount ctx io bytes), io.stored ctx bytes) := rfl

variable (file : File)

theorem advance_only (count : Nat) :
    (file.advance count).startCluster = file.startCluster ∧ (file.advance count).currentCluster = file.currentCluster ∧
      (file.advance count).currentClusterIndex = file.currentClusterIndex ∧
      (file.advance count).isOpen = file.isOpen := by
  rw [File.advance]
  split <;> exact ⟨rfl, rfl, rfl, rfl⟩

theorem advance_position (count : Nat) : (file.advance count).position = word32 (file.position + count) := by
  rw [File.advance]
  split <;> rfl

theorem advance_fileSize (count : Nat) :
    (file.advance count).fileSize = max file.fileSize (file.advance count).position := by
  rw [advance_position, File.advance]
  split
  · next longer => exact (max_eq_right (Nat.le_of_lt longer)).symm
  · next inside => exact (max_eq_left (Nat.le_of_not_lt inside)).symm

theorem stored_view (positioned : Positioned ctx io) :
    (io.stored ctx bytes).view = Function.update io.view (dataSector ctx io.file.currentCluster io.file.position)
      (storedBuffer ctx io bytes) := by
  rw [← positioned.sector]
  exact store_view positioned.valid _

variable (geometry : Geometry ctx) (standing : Standing ctx io l lag) (nonempty : l ≠ [])
    (positioned : Positioned ctx io)
include geometry standing nonempty positioned

theorem stored_low {s : Nat} (low : s < ctx.clusterHeapStart) : (io.stored ctx bytes).view s = io.view s := by
  have high := geometry.dataSector_high (standing.threaded.mem_known (standing.cursor nonempty)) io.file.position
  rw [stored_view positioned]
  exact Function.update_of_ne (by omega) _ _

theorem stored_standing : Standing ctx (io.stored ctx bytes) l lag := by
  obtain ⟨start, current, index, -⟩ := advance_only io.file (storeCount ctx io bytes)
  refine ⟨store_coherent _, ?_, ?_, fun _ => ?_⟩
  · exact standing.threaded.of_data geometry fun s low => stored_low geometry standing nonempty positioned low
  · have same : (io.stored ctx bytes).file.firstCluster? = io.file.firstCluster? := by
      rw [File.firstCluster?, File.firstCluster?]
      change (if isValidCluster (io.file.advance _).startCluster = true then some (io.file.advance _).startCluster else none) = _
      rw [start]
    rw [same]
    exact standing.first
  · change l[(io.file.advance _).currentClusterIndex + lag]? = some (io.file.advance _).currentCluster
    rw [index, current]
    exact standing.cursor nonempty

theorem stored_room : room ctx (io.stored ctx bytes).view l = room ctx io.view l := by
  have free : freeClusters ctx (io.stored ctx bytes).view = freeClusters ctx io.view := by
    ext c
    rw [mem_freeClusters, mem_freeClusters]
    refine and_congr_right fun known => ?_
    rw [fatEntry, fatEntry, stored_low geometry standing nonempty positioned (geometry.fatSector_bounds known).2]
  rw [room, room, free]

theorem stored_below (index : io.file.currentClusterIndex = io.file.position / fileClusterSize ctx) {offset c : Nat}
    (earlier : offset < io.file.position) (here : l[offset / fileClusterSize ctx]? = some c) :
    (io.stored ctx bytes).view (dataSector ctx c offset) (offset % ctx.bytesPerSector) =
      io.view (dataSector ctx c offset) (offset % ctx.bytesPerSector) := by
  have there := standing.cursor nonempty
  have known := standing.threaded.mem_known there
  have known' := standing.threaded.mem_known here
  rw [stored_view positioned]
  by_cases same : dataSector ctx c offset = dataSector ctx io.file.currentCluster io.file.position
  · obtain ⟨cluster, row⟩ := geometry.dataSector_inj known' known same
    -- no cluster comes twice in the chain, so the cursor is not ahead and the bytes are in one row
    have quotient : offset / fileClusterSize ctx ≤ io.file.position / fileClusterSize ctx :=
      Nat.div_le_div_right (Nat.le_of_lt earlier)
    have places : offset / fileClusterSize ctx = io.file.currentClusterIndex + lag := by
      rw [cluster] at here
      obtain ⟨low, first⟩ := List.getElem?_eq_some_iff.mp here
      obtain ⟨low', second⟩ := List.getElem?_eq_some_iff.mp there
      exact (List.Nodup.getElem_inj_iff standing.threaded.nodup).mp (first.trans second.symm)
    have less := geometry.place_lt earlier (by omega) row
    have before : ¬(io.file.position % ctx.bytesPerSector ≤ offset % ctx.bytesPerSector ∧ offset % ctx.bytesPerSector <
        io.file.position % ctx.bytesPerSector + storeCount ctx io bytes) := by
      rw [geometry.bytesPerSector, sectorSize]
      omega
    rw [same, Function.update_self, storedBuffer, if_neg before, positioned.buffer, positioned.sector]
  · rw [Function.update_of_ne same]

end Store

/-- So many bytes have been written from the position on, without wrap-around. -/
structure Written (env : Env) (ctx : Context) (io : Io) (l : List Nat) (count : Nat) (io' : Io)
    (l' : List Nat) : Prop where
  more : l <+: l'
  stands : ∃ lag, Standing ctx io' l' lag
  position : io'.file.position = io.file.position + count
  fileSize : io'.file.fileSize = max io.file.fileSize io'.file.position
  below : ∀ offset < io.file.position, ∀ c, l[offset / fileClusterSize ctx]? = some c →
    io'.view (dataSector ctx c offset) (offset % ctx.bytesPerSector) =
      io.view (dataSector ctx c offset) (offset % ctx.bytesPerSector)
  room_le : room ctx io'.view l' ≤ room ctx io.view l
  room_eq : env.Ideal → room ctx io'.view l' = room ctx io.view l

namespace Written

variable {io₁ io₂ io₃ : Io} {l₁ l₂ l₃ : List Nat} {m n : Nat}

theorem trans (first : Written env ctx io₁ l₁ m io₂ l₂) (second : Written env ctx io₂ l₂ n io₃ l₃) :
    Written env ctx io₁ l₁ (m + n) io₃ l₃ := by
  have position : io₃.file.position = io₁.file.position + (m + n) := by
    rw [second.position, first.position, Nat.add_assoc]
  refine ⟨first.more.trans second.more, second.stands, position, ?_, fun offset earlier c here => ?_,
    Nat.le_trans second.room_le first.room_le, fun ideal => (second.room_eq ideal).trans (first.room_eq ideal)⟩
  · have size := second.fileSize
    have size' := first.fileSize
    have position' := first.position
    omega
  · have kept : l₂[offset / fileClusterSize ctx]? = some c := by
      obtain ⟨rest, split⟩ := first.more
      rw [← split, List.getElem?_append_left (List.getElem?_eq_some_iff.mp here).1]
      exact here
    have earlier' : offset < io₂.file.position := by
      rw [first.position]
      omega
    exact (second.below offset earlier' c kept).trans (first.below offset earlier c here)

theorem of_grown (geometry : Geometry ctx) (known : ∀ c ∈ l₁, inRange ctx c = true)
    (inside : io₁.file.position ≤ io₁.file.fileSize) (grown : Grown env ctx io₁ l₁ io₂ l₂)
    (stands : Standing ctx io₂ l₂ lag)
    (span : SameSpan io₁ io₂) : Written env ctx io₁ l₁ 0 io₂ l₂ := by
  refine ⟨grown.more, ⟨lag, stands⟩, span.position, ?_, fun offset _ c here => ?_, grown.room_le, grown.room_eq⟩
  · rw [span.fileSize, span.position, max_eq_left inside]
  · rw [grown.data _ (geometry.dataSector_high (known c (List.mem_of_getElem? here)) offset)]

end Written

/-- How a write ends: with some bytes written, or after the position has wrapped around. -/
def WriteEnds (env : Env) (ctx : Context) (io : Io) (l : List Nat) (lag length : Nat) (status : Except Error Unit)
    (count : Nat) (io' : Io) : Prop :=
  count ≤ length ∧ io'.file.position < 2 ^ 32 ∧
    ((∃ l', Written env ctx io l count io' l' ∧ (status = .ok () → count = length) ∧
        (∀ e, status = .error e → env.Ideal →
          l'.length ≤ io'.file.position / fileClusterSize ctx + lag ∧ freeClusters ctx io'.view = ∅)) ∨
      (2 ^ 32 ≤ io.file.position + count ∧ (2 ^ 32 - 1) / fileClusterSize ctx < room ctx io.view l))

namespace WriteEnds

variable {io₁ : Io} {l₁ : List Nat} {length n count : Nat} {status : Except Error Unit}

theorem nothing (geometry : Geometry ctx) (standing : Standing ctx io l lag)
    (inside : io.file.position ≤ io.file.fileSize) (low : io.file.position < 2 ^ 32) :
    WriteEnds env ctx io l lag 0 (.ok ()) 0 io := by
  refine ⟨Nat.le_refl 0, low, .inl ⟨l, ?_, fun _ => rfl, nofun⟩⟩
  exact Written.of_grown geometry standing.threaded.known inside
    (Grown.of_view standing.coherent standing.threaded rfl) standing (SameSpan.refl io)

theorem after (first : Written env ctx io l n io₁ l₁) (less : lag' ≤ lag) (part : n ≤ length)
    (rest : WriteEnds env ctx io₁ l₁ lag' (length - n) status count io') :
    WriteEnds env ctx io l lag length status (n + count) io' := by
  obtain ⟨some, low, outcome⟩ := rest
  refine ⟨by omega, low, ?_⟩
  rcases outcome with ⟨l', second, all, full⟩ | ⟨wraps, many⟩
  · refine .inl ⟨l', first.trans second, fun ok => ?_, fun e failed ideal => ?_⟩
    · have whole := all ok
      omega
    · obtain ⟨count, none⟩ := full e failed ideal
      exact ⟨by omega, none⟩
  · have position := first.position
    exact .inr ⟨by omega, Nat.lt_of_lt_of_le many first.room_le⟩

theorem wrapped (wraps : io.file.position + n = 2 ^ 32) (part : n ≤ length)
    (many : (2 ^ 32 - 1) / fileClusterSize ctx < room ctx io.view l)
    (rest : WriteEnds env ctx io₁ l₁ lag' (length - n) status count io') :
    WriteEnds env ctx io l lag length status (n + count) io' := by
  obtain ⟨some, low, -⟩ := rest
  exact ⟨by omega, low, .inr ⟨by omega, many⟩⟩

end WriteEnds

section Loop

variable (geometry : Geometry ctx)
include geometry

theorem round_written (env : Env) (bytes : List UInt8) (standing : Standing ctx io l lag) (nonempty : l ≠ [])
    (positioned : Positioned ctx io) (index : io.file.currentClusterIndex = io.file.position / fileClusterSize ctx)
    (low : io.file.position < 2 ^ 32) :
    io.file.position + storeCount ctx io bytes ≤ 2 ^ 32 ∧
      (io.file.position + storeCount ctx io bytes < 2 ^ 32 →
        Written env ctx io l (storeCount ctx io bytes) (io.stored ctx bytes) l) ∧
      (io.file.position + storeCount ctx io bytes = 2 ^ 32 → (2 ^ 32 - 1) / fileClusterSize ctx < l.length) := by
  have sized := geometry.bytesPerSector
  have count : storeCount ctx io bytes ≤ 512 - io.file.position % 512 := by
    rw [storeCount, sized, sectorSize]
    exact Nat.min_le_left _ _
  refine ⟨by omega, fun fits => ?_, fun wraps => ?_⟩
  · have position : (io.stored ctx bytes).file.position = io.file.position + storeCount ctx io bytes :=
      (advance_position _ _).trans (word32_of_lt fits)
    refine ⟨List.prefix_refl l, ⟨lag, stored_standing geometry standing nonempty positioned⟩, position,
      advance_fileSize _ _, fun offset earlier c here => ?_, ?_, fun _ => ?_⟩
    · exact stored_below geometry standing nonempty positioned index earlier here
    · exact Nat.le_of_eq (stored_room geometry standing nonempty positioned)
    · exact stored_room geometry standing nonempty positioned
  · obtain ⟨inside, -⟩ := List.getElem?_eq_some_iff.mp (standing.cursor nonempty)
    rw [index] at inside
    have last := geometry.last_cluster (by omega) low
    omega

theorem fileWriteFrom_ends {rounds : Nat} {bytes : List UInt8} (written : Nat) (standing : Standing ctx io l lag)
    (inside : io.file.position ≤ io.file.fileSize) (low : io.file.position < 2 ^ 32) (enough : bytes.length ≤ rounds) :
    Triple (· = io) (fileWriteFrom env ctx rounds bytes written)
      (fun out io' => ∃ count, out.2 = written + count ∧ WriteEnds env ctx io l lag bytes.length out.1 count io')
      fun _ _ => False := by
  induction rounds generalizing io l lag bytes written with
  | zero =>
    obtain rfl : bytes = [] := List.eq_nil_of_length_eq_zero (by omega)
    rintro io rfl r io' run
    cases run
    exact ⟨0, rfl, WriteEnds.nothing geometry standing inside low⟩
  | succ rounds ih =>
    by_cases empty : bytes = []
    · subst empty
      rintro io rfl r io' run
      rw [fileWriteFrom, if_pos rfl] at run
      cases run
      exact ⟨0, rfl, WriteEnds.nothing geometry standing inside low⟩
    · have some : 0 < bytes.length := List.length_pos_iff.mpr empty
      rw [fileWriteFrom, if_neg empty]
      refine Triple.bind ((fileReachForWrite_triple env geometry standing).attempt
        (R := fun r io₁ => match r with
          | .ok _ => ∃ l' lag', Grown env ctx io l io₁ l' ∧ Standing ctx io₁ l' lag' ∧ lag' ≤ lag ∧ SameSpan io io₁ ∧
            l' ≠ [] ∧ io₁.file.currentClusterIndex = io.file.position / fileClusterSize ctx ∧ Positioned ctx io₁
          | .error _ => ∃ l' lag', Grown env ctx io l io₁ l' ∧ Standing ctx io₁ l' lag' ∧ SameSpan io io₁ ∧
            (env.Ideal → l'.length ≤ io.file.position / fileClusterSize ctx + lag ∧ freeClusters ctx io₁.view = ∅))
        ?_ ?_) fun r => ?_
      · rintro _ io₁ ⟨l', lag', grown, stands, less, span, nonempty, index, positioned, -⟩
        exact ⟨l', lag', grown, stands, less, span, nonempty, index, positioned⟩
      · rintro _ io₁ ⟨l', lag', grown, stands, span, -, -, full⟩
        exact ⟨l', lag', grown, stands, span, full⟩
      · cases r with
        | error e =>
          refine .pure fun io₁ h => ⟨0, rfl, ?_⟩
          obtain ⟨l', lag', grown, stands, span, full⟩ := h
          have same := Written.of_grown geometry standing.threaded.known inside grown stands span
          rw [← span.position] at full
          exact ⟨Nat.zero_le _, by rw [span.position]; exact low, .inl ⟨l', same, fun h => (nomatch h), fun _ _ => full⟩⟩
        | ok _ =>
          rintro io₁ ⟨l', lag', grown, stands, less, span, nonempty, index, positioned⟩ r io' run
          have stored : fileWriteFrom env ctx rounds (bytes.drop (storeCount ctx io₁ bytes))
              (written + storeCount ctx io₁ bytes) (io₁.stored ctx bytes) = Option.some (r, io') := run
          have walked := Written.of_grown geometry standing.threaded.known inside grown stands span
          rw [← span.position] at index low
          obtain ⟨most, fits, wraps⟩ := round_written geometry env bytes stands nonempty positioned index low
          have sized := geometry.bytesPerSector
          have part : storeCount ctx io₁ bytes ≤ bytes.length := Nat.min_le_right _ _
          have progress : 0 < storeCount ctx io₁ bytes := by
            rw [storeCount, sized, sectorSize]
            omega
          have later := @ih (io₁.stored ctx bytes) l' lag' (bytes.drop (storeCount ctx io₁ bytes))
            (written + storeCount ctx io₁ bytes) (stored_standing geometry stands nonempty positioned) ?_ ?_ ?_ _ rfl r io' stored
          · cases r with
            | error e => exact later
            | ok out =>
              obtain ⟨count, total, rest⟩ := later
              rw [List.length_drop] at rest
              refine ⟨storeCount ctx io₁ bytes + count, by rw [total, Nat.add_assoc], ?_⟩
              rcases Nat.lt_or_eq_of_le most with below | wrap
              · have both := walked.trans (fits below)
                rw [Nat.zero_add] at both
                exact rest.after both less part
              · refine rest.wrapped (by rw [← span.position]; exact wrap) part ?_
                have count := wraps wrap
                have less := grown.room_le
                rw [room] at less
                omega
          · exact Nat.le_trans (Nat.le_max_right _ _) (Nat.le_of_eq (advance_fileSize _ _).symm)
          · exact (advance_position _ _).trans_lt (word32_lt _)
          · rw [List.length_drop]
            omega

end Loop

section Returns

variable {α : Type} {m : IoM α} {cost : Nat} {bytes : List UInt8}

theorem steady_of_within (h : Within Io.Coherent Io.calls cost m) : Steady Io.Coherent m := by
  intro io coherent
  obtain ⟨r, io', run, coherent', -⟩ := h io coherent
  exact ⟨r, io', run, coherent'⟩

theorem updateFile_steady (f : File → File) : Steady Io.Coherent (updateFile f) := .modify fun _ h => h

theorem fileNextForWrite_steady (cluster : Nat) : Steady Io.Coherent (fileNextForWrite env ctx cluster) := by
  refine (steady_of_within fat32ReadEntry_within).bind fun next => .ite (fun _ => ?_) fun _ => .pure
  refine (steady_of_within fat32AllocateCluster_within).bind fun _ => ?_
  refine (steady_of_within fat32WriteEntry_within).bind fun _ => ?_
  exact (steady_of_within (cacheWrite_within env)).bind fun _ => .pure

theorem follow_steady {link : Nat → IoM Nat} (links : ∀ cluster, Steady Io.Coherent (link cluster)) (left : Nat) :
    Steady Io.Coherent (follow link left) := by
  induction left with
  | zero => exact .pure
  | succ left ih => exact Steady.read.bind fun _ => (links _).bind fun _ => (updateFile_steady _).bind fun _ => ih

theorem fileMoveToClusterIndexForWrite_steady (target : Nat) :
    Steady Io.Coherent (fileMoveToClusterIndexForWrite env ctx target) := by
  intro io coherent
  rw [fileMoveToClusterIndexForWrite_eq]
  refine Steady.bind (.onlyIf ?_) (fun _ => ?_) io coherent
  · exact (steady_of_within fat32AllocateCluster_within).bind fun _ => updateFile_steady _
  · refine (updateFile_steady _).bind fun _ => Steady.read.bind fun _ => ?_
    exact (follow_steady fileNextForWrite_steady _).bind fun _ => updateFile_steady _

theorem fileReachForWrite_steady : Steady Io.Coherent (fileReachForWrite env ctx) := by
  refine Steady.read.bind fun _ => (fileMoveToClusterIndexForWrite_steady _).bind fun _ => Steady.read.bind fun _ => ?_
  refine Steady.bind (.modify fun _ h => h) fun _ => ?_
  exact steady_of_within (Acts.within fun _ coherent => ⟨_, _, cacheRead_acts env coherent _⟩)

theorem fileWriteFrom_steady (rounds : Nat) (bytes : List UInt8) (written : Nat) :
    Steady Io.Coherent (fileWriteFrom env ctx rounds bytes written) := by
  induction rounds generalizing bytes written with
  | zero => exact .pure
  | succ rounds ih =>
    refine .ite (fun _ => .pure) fun _ => fileReachForWrite_steady.attempt.bind fun r => ?_
    cases r with
    | error e => exact .pure
    | ok _ => exact Steady.bind (fun io _ => ⟨_, _, fileStore_run ctx bytes io, store_coherent _⟩) fun _ => ih _ _

theorem fileWriteFrom_answers (rounds : Nat) (bytes : List UInt8) (written : Nat) :
    Triple (fun _ => True) (fileWriteFrom env ctx rounds bytes written) (fun _ _ => True) fun _ _ => False := by
  induction rounds generalizing bytes written with
  | zero => exact .pure fun _ _ => trivial
  | succ rounds ih =>
    have reach : Triple (fun _ => True) (fileReachForWrite env ctx) (fun _ _ => True) fun _ _ => True := by
      intro _ _ r _ _
      cases r <;> trivial
    refine .ite (fun _ => .pure fun _ _ => trivial) fun _ => ?_
    refine Triple.bind (R := fun _ _ => True) (reach.attempt (fun _ _ _ => trivial) fun _ _ _ => trivial) fun r => ?_
    cases r with
    | error e => exact .pure fun _ _ => trivial
    | ok _ => exact fun io _ r io' run => ih _ _ (io.stored ctx bytes) trivial r io' run

theorem fileWrite_returns (env : Env) (ctx : Context) (coherent : io.Coherent)
    (bytes : List UInt8) (bytesWritten : Nat) :
    ∃ status written io', fileWrite env ctx bytes bytesWritten io = some (.ok (status, written), io') := by
  have ends : Steady Io.Coherent (fileWrite env ctx bytes bytesWritten) :=
    Steady.read.bind fun _ => .ite (fun _ => .pure) fun _ => .ite (fun _ => .pure) fun _ => fileWriteFrom_steady _ _ _
  have answers : Triple (fun _ => True) (fileWrite env ctx bytes bytesWritten) (fun _ _ => True) fun _ _ => False :=
    .readThen fun _ => .ite (fun _ => .pure fun _ _ => trivial)
      fun _ => .ite (fun _ => .pure fun _ _ => trivial) fun _ =>
      fileWriteFrom_answers _ _ _
  obtain ⟨r, io', run, -⟩ := ends io coherent
  cases r with
  | error e => exact absurd (answers io trivial _ _ run) not_false
  | ok out => exact ⟨out.1, out.2, io', run⟩

end Returns

/-- The position and the size count every byte, and what was before the position is still there. -/
structure WriteExact (ctx : Context) (io : Io) (written : Nat) (io' : Io) : Prop where
  position : io'.file.position = io.file.position + written
  fileSize : io'.file.fileSize = max io.file.fileSize io'.file.position
  below : ∀ offset < io.file.position, ∀ byte, io.file.byteAt ctx io.view offset = some byte →
    io'.file.byteAt ctx io'.view offset = some byte

/-- The new position is a word, or the file cannot have that many clusters. -/
def WriteFits (ctx : Context) (io : Io) (l : List Nat) (length : Nat) : Prop :=
  io.file.position + length < 2 ^ 32 ∨ room ctx io.view l ≤ (2 ^ 32 - 1) / fileClusterSize ctx

section Exact

variable {length count written : Nat} {status : Except Error Unit} {bytes : List UInt8}

theorem WriteEnds.exact (standing : Standing ctx io l lag) (ends : WriteEnds env ctx io l lag length status count io')
    (fits : WriteFits ctx io l length) : WriteExact ctx io count io' := by
  obtain ⟨part, low, outcome⟩ := ends
  rcases outcome with ⟨l', wrote, -, -⟩ | ⟨wraps, many⟩
  · refine ⟨wrote.position, wrote.fileSize, fun offset earlier byte here => ?_⟩
    obtain ⟨lag', stands⟩ := wrote.stands
    rw [File.byteAt, standing.clusterAt] at here
    rw [File.byteAt, stands.clusterAt]
    obtain ⟨c, mem, rfl⟩ := Option.map_eq_some_iff.mp here
    obtain ⟨rest, split⟩ := wrote.more
    rw [← split, List.getElem?_append_left (List.getElem?_eq_some_iff.mp mem).1, mem, Option.map_some,
      wrote.below offset earlier c mem]
  · rcases fits with short | few
    · omega
    · omega

theorem WriteEnds.fits (ends : WriteEnds env ctx io l lag length status count io')
    (known : status = .ok () ∨ (env.Ideal ∧ lag = 0)) (exact : WriteExact ctx io count io') :
    WriteFits ctx io l length := by
  obtain ⟨part, low, outcome⟩ := ends
  have position := exact.position
  rcases outcome with ⟨l', wrote, all, full⟩ | ⟨wraps, -⟩
  · cases status with
    | ok _ =>
      have whole := all rfl
      exact .inl (by omega)
    | error e =>
      rcases known with ok | ⟨ideal, tight⟩
      · exact nomatch ok
      · right
        obtain ⟨reached, none⟩ := full e rfl ideal
        have sum := wrote.room_eq ideal
        have last : io'.file.position / fileClusterSize ctx ≤ (2 ^ 32 - 1) / fileClusterSize ctx :=
          Nat.div_le_div_right (by omega)
        rw [room, none, Finset.card_empty] at sum
        omega
  · omega

theorem fileWrite_ends (geometry : Geometry ctx) (standing : Standing ctx io l lag) (isOpen : io.file.isOpen = true)
    (inside : io.file.position ≤ io.file.fileSize) (word : io.file.fileSize < 2 ^ 32) {bytesWritten : Nat}
    (run : fileWrite env ctx bytes bytesWritten io = some (.ok (status, written), io')) :
    WriteEnds env ctx io l lag bytes.length status written io' := by
  have sized := geometry.fileClusterSize_pos
  rw [fileWrite, bind_ok _ (read_run _), if_neg (by rw [isOpen]; decide), if_neg (by omega)] at run
  obtain ⟨count, total, ends⟩ := fileWriteFrom_ends geometry 0 standing inside (by omega) (Nat.le_refl _) io rfl _ _ run
  rw [Nat.zero_add] at total
  rw [← total] at ends
  exact ends

/-- A write is exact when its end is below 4 GiB or the volume is too small for a file of that size. -/
theorem file_write_exact (geometry : Geometry ctx) (standing : Standing ctx io l lag) (isOpen : io.file.isOpen = true)
    (inside : io.file.position ≤ io.file.fileSize) (word : io.file.fileSize < 2 ^ 32) {bytesWritten : Nat}
    (run : fileWrite env ctx bytes bytesWritten io = some (.ok (status, written), io')) :
    (WriteFits ctx io l bytes.length → WriteExact ctx io written io') ∧
      ((status = .ok () ∨ (env.Ideal ∧ lag = 0)) → WriteExact ctx io written io' → WriteFits ctx io l bytes.length) := by
  have ends := fileWrite_ends geometry standing isOpen inside word run
  exact ⟨ends.exact standing, ends.fits⟩

end Exact

section Samples

/-- A file that has one cluster and one byte, behind which the cursor stands. -/
def oneByteFile : File := ⟨2, 2, 0, 1, 1, 2, 0, true, false⟩

def oneByteIo (ctx : Context) : Io :=
  { blankIo with disk := writeFat ctx (fun _ => zeroSector) 2 fat32EocMin, file := oneByteFile }

theorem blank_free (known : inRange ctx 2 = true) : 2 ∈ freeClusters ctx fun _ => zeroSector :=
  mem_freeClusters.mpr ⟨known, rfl⟩

theorem oneByteIo_standing (known : inRange ctx 2 = true) : Standing ctx (oneByteIo ctx) [2] 0 :=
  ⟨fun valid => (nomatch valid), Threaded.first (blank_free known), rfl, fun _ => rfl⟩

theorem oneByteIo_room (wf : FatWellFormed ctx) (known : inRange ctx 2 = true) :
    room ctx (oneByteIo ctx).view [2] = ctx.totalClusters := by
  have count : (freeClusters ctx (oneByteIo ctx).view).card + 1 = (freeClusters ctx fun _ => zeroSector).card :=
    card_free_mark wf (blank_free known)
  have all : freeClusters ctx (fun _ => zeroSector) = clusters ctx := Finset.filter_true_of_mem fun _ _ => rfl
  have sum : word32 (fat32ClusterMin + ctx.totalClusters) = fat32ClusterMin + ctx.totalClusters := by
    have small := wf.numbers
    exact word32_of_lt (by rw [fat32ClusterMin]; omega)
  rw [all, clusters, Nat.card_Ico, sum] at count
  rw [room, List.length_singleton, count]
  omega

/-- Clusters of 64 KiB, as many as a file of 4 GiB has. -/
def bigVolume : Context := ⟨512, 128, 32, 545, 65536, 2, true⟩

theorem bigVolume_geometry : Geometry bigVolume :=
  ⟨rfl, rfl, by decide, by decide, by decide, by decide, by decide, by decide, rfl⟩

/-- On two clusters, a byte behind the first one. -/
theorem file_write_exact_two :
    ∃ status written io', fileWrite (idealEnv 0) twoClusters [7] 0 (oneByteIo twoClusters) =
      some (.ok (status, written), io') ∧
      WriteExact twoClusters (oneByteIo twoClusters) written io' := by
  have geometry : Geometry twoClusters := ⟨rfl, rfl, by decide, by decide, by decide, by decide, by decide, by decide, rfl⟩
  have standing : Standing twoClusters (oneByteIo twoClusters) [2] 0 := oneByteIo_standing rfl
  obtain ⟨status, written, io', run⟩ := fileWrite_returns (idealEnv 0) twoClusters standing.coherent [7] 0
  obtain ⟨exact, -⟩ := file_write_exact geometry standing rfl (by decide) (by decide) run
  exact ⟨status, written, io', run, exact (.inl (by decide))⟩

/-- The claim fails: behind the first byte, as many more as a word can count. -/
theorem file_write_wraps :
    ∃ status written io', fileWrite (idealEnv 0) bigVolume (List.replicate (2 ^ 32 - 1) 0) 0 (oneByteIo bigVolume) =
        some (.ok (status, written), io') ∧ Standing bigVolume (oneByteIo bigVolume) [2] 0 ∧
      ¬WriteExact bigVolume (oneByteIo bigVolume) written io' := by
  have standing : Standing bigVolume (oneByteIo bigVolume) [2] 0 := oneByteIo_standing rfl
  obtain ⟨status, written, io', run⟩ := fileWrite_returns (idealEnv 0) bigVolume standing.coherent
    (List.replicate (2 ^ 32 - 1) 0) 0
  refine ⟨status, written, io', run, standing, fun exact => ?_⟩
  have ends := fileWrite_ends bigVolume_geometry standing rfl (by decide) (by decide) run
  rcases ends.fits (.inr ⟨idealEnv_ideal 0, rfl⟩) exact with short | few
  · rw [List.length_replicate] at short
    exact absurd short (by decide)
  · rw [oneByteIo_room bigVolume_geometry.fatWellFormed rfl] at few
    exact absurd few (by decide)

end Samples

end XSDK.Fs
