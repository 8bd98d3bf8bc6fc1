import XSDK.Fs.FileWrite

/-! How reading, writing and seeking leave the cursor of a file, when they may fail anywhere.
A walk that gets past its first link and not to its target leaves it on another cluster than
its index says. -/
namespace XSDK.Fs

open Library Prog

variable {env : Env} {ctx : Context} {io io' : Io} {l l' : List Nat} {lag : Nat}

/-- The cursor is on the cluster that its index says, and inside the file. -/
structure CursorOk (ctx : Context) (io : Io) : Prop where
  cluster : ∃ l, Threaded ctx io.view l ∧ io.file.firstCluster? = l.head? ∧
    (l ≠ [] → l[io.file.currentClusterIndex]? = some io.file.currentCluster)
  position : io.file.position ≤ io.file.fileSize

/-- An open file whose cursor is so far ahead of its index. -/
structure Opened (ctx : Context) (io : Io) (l : List Nat) (lag : Nat) : Prop where
  standing : Standing ctx io l lag
  isOpen : io.file.isOpen = true
  position : io.file.position ≤ io.file.fileSize
  word : io.file.fileSize < 2 ^ 32
  empty : l = [] → io.file.fileSize = 0 ∧ lag = 0

theorem Opened.cursorOk_iff (opened : Opened ctx io l lag) : CursorOk ctx io ↔ lag = 0 := by
  constructor
  · rintro ⟨⟨l', threaded, first, cursor⟩, -⟩
    by_cases empty : l = []
    · exact (opened.empty empty).2
    · have links := threaded.links
      rw [← first, opened.standing.first] at links
      have same : l' = l := links.unique opened.standing.threaded.links
      subst same
      obtain ⟨low, here⟩ := List.getElem?_eq_some_iff.mp (cursor empty)
      obtain ⟨low', there⟩ := List.getElem?_eq_some_iff.mp (opened.standing.cursor empty)
      have places := (List.Nodup.getElem_inj_iff opened.standing.threaded.nodup).mp (here.trans there.symm)
      omega
  · rintro rfl
    exact ⟨⟨l, opened.standing.threaded, opened.standing.first, opened.standing.cursor⟩, opened.position⟩

theorem Opened.moved {lag' : Nat} (opened : Opened ctx io l lag)
    (stands : Standing ctx io' l' lag') (span : SameSpan io io')
    (more : l <+: l') (tight : l' = [] → lag' = 0) : Opened ctx io' l' lag' := by
  refine ⟨stands, ?_, ?_, ?_, fun none => ⟨?_, tight none⟩⟩
  · rw [span.isOpen]
    exact opened.isOpen
  · rw [span.position, span.fileSize]
    exact opened.position
  · rw [span.fileSize]
    exact opened.word
  · rw [none] at more
    rw [span.fileSize]
    exact (opened.empty (List.prefix_nil.mp more)).1

theorem Opened.at (opened : Opened ctx io l lag) {p : Nat} (inside : p ≤ io.file.fileSize) :
    Opened ctx { io with file := { io.file with position := p } } l lag :=
  ⟨⟨opened.standing.coherent, opened.standing.threaded, opened.standing.first, opened.standing.cursor⟩,
    opened.isOpen, inside, opened.word, opened.empty⟩

/-- How a call leaves the file: open with the cursor in place, unless something has broken. -/
def Leaves (ctx : Context) (breaks : Prop) (io : Io) : Prop :=
  (¬breaks ∧ ∃ l, Opened ctx io l 0) ∨ (breaks ∧ ¬CursorOk ctx io)

theorem Leaves.congr {breaks breaks' : Prop} (h : Leaves ctx breaks io) (same : breaks' ↔ breaks) :
    Leaves ctx breaks' io := by
  rw [Leaves, same]
  exact h

theorem Leaves.of_opened {breaks : Prop} (opened : Opened ctx io l lag) (tight : lag = 0 ↔ ¬breaks) :
    Leaves ctx breaks io := by
  by_cases zero : lag = 0
  · left
    subst zero
    exact ⟨tight.mp rfl, l, opened⟩
  · right
    refine ⟨?_, fun ok => zero (opened.cursorOk_iff.mp ok)⟩
    by_contra fine
    exact zero (tight.mpr fine)

section Read

/-- The cursor moves to a place of the file, and its sector comes into the cache. -/
def fileReach (env : Env) (ctx : Context) : IoM Unit := do
  let file ← read Io.file
  fileMoveToClusterIndex env ctx (file.position / fileClusterSize ctx)
  fileReadSector env ctx

def readCount (ctx : Context) (left : Nat) (io : Io) : Nat :=
  min (min (ctx.bytesPerSector - io.file.position % ctx.bytesPerSector) left) (io.file.fileSize - io.file.position)

def Io.readOn (ctx : Context) (left : Nat) (io : Io) : Io :=
  { io with file := { io.file with position := word32 (io.file.position + readCount ctx left io) } }

/-- Some walk of so many rounds of reading breaks. -/
def ReadBreaks (env : Env) (ctx : Context) : Nat → Nat → Io → Prop
  | 0, _, _ => False
  | rounds + 1, left, io =>
    left ≠ 0 ∧ io.file.position < io.file.fileSize ∧
      (Breaks (fileNext env ctx) (io.file.position / fileClusterSize ctx) io ∨
        ∃ io₁, fileReach env ctx io = some (.ok (), io₁) ∧
          ReadBreaks env ctx rounds (left - readCount ctx left io₁) (io₁.readOn ctx left))

theorem fileReadFrom_succ (env : Env) (ctx : Context) (rounds left : Nat) (io : Io)
    (more : ¬(left = 0 ∨ io.file.fileSize ≤ io.file.position)) :
    fileReadFrom env ctx (rounds + 1) left io =
      (fileReach env ctx >>= fun _ => read id >>= fun io₁ =>
        updateFile (fun file => { file with position := word32 (file.position + readCount ctx left io₁) }) >>= fun _ =>
        fileReadFrom env ctx rounds (left - readCount ctx left io₁) >>= fun rest =>
        pure ((List.range (readCount ctx left io₁)).map
          (fun k => io₁.cache.buffer (io₁.file.position % ctx.bytesPerSector + k)) ++ rest)) io := by
  rw [fileReadFrom, bind_ok _ (read_run _), if_neg more, fileReach, Prog.bind_assoc, bind_ok _ (read_run _), Prog.bind_assoc]
  rfl

theorem fileMoveToClusterIndex_triple (target : Nat) (opened : Opened ctx io l 0) (nonempty : l ≠ []) :
    Triple (· = io) (fileMoveToClusterIndex env ctx target)
      (fun _ io' => (∃ l', Opened ctx io' l' 0 ∧ l <+: l') ∧ SameSpan io io' ∧ io'.file.currentClusterIndex = target ∧
        ¬Breaks (fileNext env ctx) target io)
      fun _ io' => Leaves ctx (Breaks (fileNext env ctx) target io) io' := by
  rw [fileMoveToClusterIndex_eq]
  refine (moveWith_triple (fileNext_ok env ctx) opened.standing nonempty).weaken (fun _ h => h) ?_ ?_
  · rintro _ io' ⟨l', lag', grown, stands, less, only, index, whole⟩
    obtain rfl : lag' = 0 := Nat.le_zero.mp less
    exact ⟨⟨l', opened.moved stands only.span grown.more fun _ => rfl, grown.more⟩, only.span, index, whole⟩
  · rintro _ io' ⟨l', lag', grown, stands, only, tight, -⟩
    obtain ⟨-, nonempty'⟩ := prefix_head grown.more nonempty
    exact Leaves.of_opened (opened.moved stands only.span grown.more fun none => absurd none nonempty') (tight rfl)

theorem fileReach_triple (opened : Opened ctx io l 0) (nonempty : l ≠ []) :
    Triple (· = io) (fileReach env ctx)
      (fun _ io' => (∃ l', Opened ctx io' l' 0 ∧ l' ≠ []) ∧
        io'.file.currentClusterIndex = io.file.position / fileClusterSize ctx ∧
        ¬Breaks (fileNext env ctx) (io.file.position / fileClusterSize ctx) io)
      fun _ io' => Leaves ctx (Breaks (fileNext env ctx) (io.file.position / fileClusterSize ctx) io) io' := by
  refine .bind (R := fun file io₁ => file = io.file ∧ io₁ = io) (.read fun s h => ⟨by rw [h], h⟩) fun file => ?_
  rintro io₁ ⟨rfl, rfl⟩
  refine Triple.bind (P := (· = io₁)) (fileMoveToClusterIndex_triple _ opened nonempty) (fun _ => ?_) io₁ rfl
  rintro io₂ ⟨⟨l', opened', more⟩, span, index, whole⟩ r io' run
  have post := fileReadSector_triple opened'.standing io₂ rfl r io' run
  have same : Standing ctx io' l' 0 → io'.file = io₂.file → Opened ctx io' l' 0 := fun stands file =>
    opened'.moved stands (SameSpan.of_file file) (List.prefix_refl l') fun _ => rfl
  cases r with
  | ok _ => exact ⟨⟨l', same post.1 post.2.2.1, (prefix_head more nonempty).2⟩, by rw [post.2.2.1, index], whole⟩
  | error e => exact .inl ⟨whole, l', same post.1 post.2.2.1⟩

theorem readOn_opened (left : Nat) (opened : Opened ctx io l 0) : Opened ctx (io.readOn ctx left) l 0 := by
  have count : readCount ctx left io ≤ io.file.fileSize - io.file.position := Nat.min_le_right _ _
  have word := opened.word
  have position := opened.position
  have moved : word32 (io.file.position + readCount ctx left io) = io.file.position + readCount ctx left io :=
    word32_of_lt (by omega)
  exact opened.at (by omega)

theorem fileReadFrom_triple (rounds left : Nat) (opened : Opened ctx io l 0) :
    Triple (· = io) (fileReadFrom env ctx rounds left) (fun _ io' => Leaves ctx (ReadBreaks env ctx rounds left io) io')
      fun _ io' => Leaves ctx (ReadBreaks env ctx rounds left io) io' := by
  induction rounds generalizing io l left with
  | zero =>
    rintro io rfl r io' run
    cases run
    exact .inl ⟨not_false, l, opened⟩
  | succ rounds ih =>
    rintro io rfl r io' run
    by_cases done : left = 0 ∨ io.file.fileSize ≤ io.file.position
    · rw [fileReadFrom, bind_ok _ (read_run _), if_pos done] at run
      cases run
      refine .inl ⟨?_, l, opened⟩
      rintro ⟨some, inside, -⟩
      rcases done with none | past
      · exact some none
      · omega
    · obtain ⟨some, inside⟩ := not_or.mp done
      have nonempty : l ≠ [] := by
        intro none
        have size := (opened.empty none).1
        omega
      rw [fileReadFrom_succ env ctx rounds left io done] at run
      rcases of_bind run with ⟨e, reached, rfl⟩ | ⟨_, io₁, reached, run⟩
      · have post := fileReach_triple opened nonempty io rfl _ _ reached
        refine post.congr ⟨?_, fun breaks => ⟨some, by omega, .inl breaks⟩⟩
        rintro ⟨-, -, breaks | ⟨io₂, reached', -⟩⟩
        · exact breaks
        · rw [reached] at reached'
          exact nomatch reached'
      · rw [bind_ok _ (read_run _), bind_ok _ (updateFile_run _ _)] at run
        obtain ⟨⟨l', opened', -⟩, -, whole⟩ := fileReach_triple opened nonempty io rfl _ _ reached
        have later := ih (left - readCount ctx left io₁) (readOn_opened left opened')
        have same : ReadBreaks env ctx (rounds + 1) left io ↔
            ReadBreaks env ctx rounds (left - readCount ctx left io₁) (io₁.readOn ctx left) := by
          constructor
          · rintro ⟨-, -, breaks | ⟨io₂, reached', breaks⟩⟩
            · exact absurd breaks whole
            · rw [reached] at reached'
              cases reached'
              exact breaks
          · exact fun breaks => ⟨some, by omega, .inr ⟨io₁, reached, breaks⟩⟩
        rw [same]
        have rest : Triple (· = io₁.readOn ctx left)
            (fileReadFrom env ctx rounds (left - readCount ctx left io₁) >>= fun rest =>
              pure ((List.range (readCount ctx left io₁)).map
                (fun k => io₁.cache.buffer (io₁.file.position % ctx.bytesPerSector + k)) ++ rest))
            (fun _ => Leaves ctx (ReadBreaks env ctx rounds (left - readCount ctx left io₁) (io₁.readOn ctx left)))
            fun _ => Leaves ctx (ReadBreaks env ctx rounds (left - readCount ctx left io₁) (io₁.readOn ctx left)) :=
          .bind later fun _ => .pure fun _ h => h
        exact rest _ rfl r io' run

end Read

section Write

/-- Some walk of so many rounds of writing breaks. -/
def WriteBreaks (env : Env) (ctx : Context) : Nat → List UInt8 → Io → Prop
  | 0, _, _ => False
  | rounds + 1, bytes, io =>
    bytes ≠ [] ∧
      (BreaksForWrite env ctx (io.file.position / fileClusterSize ctx) io ∨
        ∃ io₁, fileReachForWrite env ctx io = some (.ok (), io₁) ∧
          WriteBreaks env ctx rounds (bytes.drop (storeCount ctx io₁ bytes)) (io₁.stored ctx bytes))

variable (env) (geometry : Geometry ctx)
include geometry

theorem fileReachForWrite_opened (opened : Opened ctx io l 0) :
    Triple (· = io) (fileReachForWrite env ctx)
      (fun _ io' => (∃ l', Opened ctx io' l' 0 ∧ l' ≠ [] ∧ Positioned ctx io') ∧ SameSpan io io' ∧
        ¬BreaksForWrite env ctx (io.file.position / fileClusterSize ctx) io)
      fun _ io' => Leaves ctx (BreaksForWrite env ctx (io.file.position / fileClusterSize ctx) io) io' := by
  refine (fileReachForWrite_triple env geometry opened.standing).weaken (fun _ h => h) ?_ ?_
  · rintro _ io' ⟨l', lag', grown, stands, less, span, nonempty, -, positioned, whole⟩
    obtain rfl : lag' = 0 := Nat.le_zero.mp less
    exact ⟨⟨l', opened.moved stands span grown.more fun _ => rfl, nonempty, positioned⟩, span, whole⟩
  · rintro _ io' ⟨l', lag', grown, stands, span, none, tight, -⟩
    exact Leaves.of_opened (opened.moved stands span grown.more none) (tight rfl)

theorem stored_opened {bytes : List UInt8} (opened : Opened ctx io l 0) (nonempty : l ≠ [])
    (positioned : Positioned ctx io) :
    Opened ctx (io.stored ctx bytes) l 0 := by
  refine ⟨stored_standing geometry opened.standing nonempty positioned, ?_, ?_, ?_, fun none => absurd none nonempty⟩
  · exact (advance_only _ _).2.2.2.trans opened.isOpen
  · exact Nat.le_trans (Nat.le_max_right _ _) (Nat.le_of_eq (advance_fileSize _ _).symm)
  · refine (advance_fileSize _ _).trans_lt (max_lt opened.word ?_)
    rw [advance_position]
    exact word32_lt _

theorem fileWriteFrom_leaves (rounds : Nat) (bytes : List UInt8) (written : Nat) (opened : Opened ctx io l 0) :
    Triple (· = io) (fileWriteFrom env ctx rounds bytes written)
      (fun out io' => Leaves ctx (WriteBreaks env ctx rounds bytes io) io' ∧
        (out.1 = .ok () → ¬WriteBreaks env ctx rounds bytes io))
      fun _ _ => False := by
  induction rounds generalizing io l bytes written with
  | zero =>
    rintro io rfl r io' run
    cases run
    exact ⟨.inl ⟨not_false, l, opened⟩, fun _ => not_false⟩
  | succ rounds ih =>
    rintro io rfl r io' run
    by_cases done : bytes = []
    · rw [fileWriteFrom, if_pos done] at run
      cases run
      have whole : ¬WriteBreaks env ctx (rounds + 1) bytes io := fun breaks => breaks.1 done
      exact ⟨.inl ⟨whole, l, opened⟩, fun _ => whole⟩
    · rw [fileWriteFrom, if_neg done] at run
      cases reached : fileReachForWrite env ctx io with
      | none =>
        have hangs : attempt (fileReachForWrite env ctx) io = none := by rw [attempt, reached]
        rw [bind_none _ hangs] at run
        cases run
      | some out =>
        obtain ⟨r₁, io₁⟩ := out
        have post := fileReachForWrite_opened env geometry opened io rfl _ _ reached
        rw [bind_ok _ (attempt_run reached)] at run
        cases r₁ with
        | error e =>
          cases run
          refine ⟨post.congr ⟨?_, fun breaks => ⟨done, .inl breaks⟩⟩, by rintro ⟨⟩⟩
          rintro ⟨-, breaks | ⟨io₂, reached', -⟩⟩
          · exact breaks
          · rw [reached] at reached'
            cases reached'
        | ok _ =>
          obtain ⟨⟨l', opened', nonempty, positioned⟩, -, whole⟩ := post
          have same : WriteBreaks env ctx (rounds + 1) bytes io ↔
              WriteBreaks env ctx rounds (bytes.drop (storeCount ctx io₁ bytes)) (io₁.stored ctx bytes) := by
            constructor
            · rintro ⟨-, breaks | ⟨io₂, reached', breaks⟩⟩
              · exact absurd breaks whole
              · rw [reached] at reached'
                cases reached'
                exact breaks
            · exact fun breaks => ⟨done, .inr ⟨io₁, reached, breaks⟩⟩
          rw [same]
          exact ih _ _ (stored_opened geometry opened' nonempty positioned) _ rfl r io' run

theorem fileWrite_leaves (bytes : List UInt8) (bytesWritten : Nat) (opened : Opened ctx io l 0) :
    Triple (· = io) (fileWrite env ctx bytes bytesWritten)
      (fun out io' => Leaves ctx (WriteBreaks env ctx bytes.length bytes io) io' ∧
        (out.1 = .ok () → ¬WriteBreaks env ctx bytes.length bytes io))
      fun _ _ => False := by
  rintro io rfl r io' run
  have sized := geometry.fileClusterSize_pos
  rw [fileWrite, bind_ok _ (read_run _), if_neg (by rw [opened.isOpen]; decide), if_neg (by omega)] at run
  exact fileWriteFrom_leaves env geometry _ _ 0 opened io rfl r io' run

end Write

section Seek

def SeekBreaks (env : Env) (ctx : Context) (position : Nat) (io : Io) : Prop :=
  position < io.file.fileSize ∧ ∃ io₁, (cacheWrite env >>= fun _ => cacheInvalidate) io = some (.ok (), io₁) ∧
    Breaks (fileNext env ctx) (position / fileClusterSize ctx) io₁

theorem flush_triple (opened : Opened ctx io l 0) :
    Triple (· = io) (cacheWrite env >>= fun _ => cacheInvalidate)
      (fun _ io' => Opened ctx io' l 0 ∧ io'.file = io.file) fun _ io' => Opened ctx io' l 0 := by
  have keeps : ∀ io', io'.Coherent → io'.view = io.view → io'.file = io.file →
      Opened ctx io' l 0 := fun io' coherent view file =>
    opened.moved (opened.standing.looked coherent view file) (SameSpan.of_file file) (List.prefix_refl l) fun _ => rfl
  refine .bind (((cacheWrite_acts env opened.standing.coherent).triple fun _ _ => cacheWrite_error).weaken (fun _ h => h)
    (fun _ _ h => h.2) fun _ io' h => keeps io' h.1 h.2.1.view h.2.1.file) fun _ => ?_
  rintro io₁ ⟨coherent, flushed⟩ r io' run
  cases run
  have view : Io.view { io₁ with cache := { io₁.cache with isValid := false, isDirty := false, sector := 0 } } = io.view :=
    (view_of_invalid rfl).trans flushed.disk
  exact ⟨keeps _ nofun view flushed.file, flushed.file⟩

variable (geometry : Geometry ctx)
include geometry

theorem fileSeek_leaves (position : Nat) (opened : Opened ctx io l 0) :
    Triple (· = io) (fileSeek env ctx position)
      (fun _ io' => Leaves ctx (SeekBreaks env ctx position io) io' ∧ ¬SeekBreaks env ctx position io)
      fun _ io' => Leaves ctx (SeekBreaks env ctx position io) io' := by
  rintro io rfl r io' run
  have sized := geometry.fileClusterSize_pos
  rw [fileSeek, bind_ok _ (read_run _), reject_bind_neg _ (by rw [opened.isOpen]; decide)] at run
  by_cases beyond : io.file.fileSize < position
  · rw [reject_bind_pos _ beyond] at run
    cases run
    exact .inl ⟨fun breaks => absurd breaks.1 (by omega), l, opened⟩
  · rw [reject_bind_neg _ beyond, ← Prog.bind_assoc] at run
    rcases of_bind run with ⟨e, flushed, rfl⟩ | ⟨_, io₁, flushed, run⟩
    · refine .inl ⟨?_, l, flush_triple opened io rfl _ _ flushed⟩
      rintro ⟨-, io₂, flushed', -⟩
      rw [flushed] at flushed'
      exact nomatch flushed'
    · obtain ⟨opened₁, file⟩ := flush_triple opened io rfl _ _ flushed
      rw [reject_bind_neg _ (by omega), onlyIf] at run
      have same : SeekBreaks env ctx position io ↔
          position < io.file.fileSize ∧ Breaks (fileNext env ctx) (position / fileClusterSize ctx) io₁ := by
        refine and_congr_right fun _ => ⟨?_, fun breaks => ⟨io₁, flushed, breaks⟩⟩
        rintro ⟨io₂, flushed', breaks⟩
        rw [flushed] at flushed'
        cases flushed'
        exact breaks
      rw [same]
      by_cases final : position = io.file.fileSize
      · have whole : ¬(position < io.file.fileSize ∧ Breaks (fileNext env ctx) (position / fileClusterSize ctx) io₁) :=
          fun breaks => absurd breaks.1 (by omega)
        rw [if_neg (not_not.mpr final)] at run
        cases run
        refine ⟨.inl ⟨whole, l, opened₁.at ?_⟩, whole⟩
        rw [file]
        omega
      · rw [if_pos final] at run
        have inside : position < io.file.fileSize := by omega
        have nonempty : l ≠ [] := by
          intro none
          have size := (opened.empty none).1
          omega
        rw [and_iff_right inside]
        have rest : Triple (· = io₁) (fileMoveToClusterIndex env ctx (position / fileClusterSize ctx) >>= fun _ =>
            updateFile fun file => { file with position := position })
            (fun _ io' => (∃ l', Opened ctx io' l' 0) ∧ ¬Breaks (fileNext env ctx) (position / fileClusterSize ctx) io₁)
            fun _ io' => Leaves ctx (Breaks (fileNext env ctx) (position / fileClusterSize ctx) io₁) io' := by
          refine .bind (fileMoveToClusterIndex_triple _ opened₁ nonempty) fun _ => ?_
          refine .modify fun io₂ h => ?_
          obtain ⟨⟨l', opened₂, -⟩, span, -, whole⟩ := h
          refine ⟨⟨l', opened₂.at ?_⟩, whole⟩
          rw [span.fileSize, file]
          omega
        have post := rest io₁ rfl r io' run
        cases r with
        | ok _ => exact ⟨.inl ⟨post.2, post.1⟩, post.2⟩
        | error e => exact post

end Seek

section Grow

def growCount (size : Nat) (io : Io) : Nat := min (size - io.file.fileSize) zeroBufferSize

/-- Some walk of so many writes of zeros breaks. -/
def GrowBreaks (env : Env) (ctx : Context) (size : Nat) : Nat → Io → Prop
  | 0, _ => False
  | rounds + 1, io =>
    io.file.fileSize < size ∧
      (WriteBreaks env ctx (growCount size io) (List.replicate (growCount size io) 0) io ∨
        ∃ io₁, fileWrite env ctx (List.replicate (growCount size io) 0) 0 io =
          some (.ok (.ok (), growCount size io), io₁) ∧
          GrowBreaks env ctx size rounds io₁)

/-- The state in which the growing starts: the cursor's position is the end of the file. -/
def Io.atEnd (io : Io) : Io := { io with file := { io.file with position := io.file.fileSize } }

/-- Some walk of the growing breaks, or the one back to the old position. -/
def GrowthBreaks (env : Env) (ctx : Context) (size : Nat) (io : Io) : Prop :=
  GrowBreaks env ctx size (size - io.file.fileSize) io.atEnd ∨
    ∃ io₁, fileGrowFrom env ctx size (size - io.file.fileSize) io.atEnd = some (.ok (), io₁) ∧
      SeekBreaks env ctx io.file.position io₁

variable (env) (geometry : Geometry ctx)
include geometry

theorem fileGrowFrom_leaves (size rounds : Nat) (opened : Opened ctx io l 0) :
    Triple (· = io) (fileGrowFrom env ctx size rounds)
      (fun _ io' => (∃ l', Opened ctx io' l' 0) ∧ ¬GrowBreaks env ctx size rounds io)
      fun _ io' => Leaves ctx (GrowBreaks env ctx size rounds io) io' := by
  induction rounds generalizing io l with
  | zero =>
    rintro io rfl r io' run
    cases run
    exact ⟨⟨l, opened⟩, not_false⟩
  | succ rounds ih =>
    rintro io rfl r io' run
    rw [fileGrowFrom, bind_ok _ (read_run _)] at run
    by_cases done : size ≤ io.file.fileSize
    · rw [if_pos done] at run
      cases run
      exact ⟨⟨l, opened⟩, fun breaks => absurd breaks.1 (by omega)⟩
    · rw [if_neg done, ← growCount] at run
      rcases of_bind run with ⟨e, wrote, rfl⟩ | ⟨⟨status, written⟩, io₁, wrote, run⟩
      · exact absurd (fileWrite_leaves env geometry _ 0 opened io rfl _ _ wrote) not_false
      · obtain ⟨leaves, fine⟩ := fileWrite_leaves env geometry _ 0 opened io rfl _ _ wrote
        rw [List.length_replicate] at leaves fine
        have same : GrowBreaks env ctx size (rounds + 1) io ↔
            WriteBreaks env ctx (growCount size io) (List.replicate (growCount size io) 0) io ∨
              ((status, written) = (.ok (), growCount size io) ∧ GrowBreaks env ctx size rounds io₁) := by
          rw [GrowBreaks, and_iff_right (by omega), wrote]
          refine or_congr Iff.rfl ⟨?_, ?_⟩
          · rintro ⟨io₂, ended, breaks⟩
            cases ended
            exact ⟨rfl, breaks⟩
          · rintro ⟨ended, breaks⟩
            exact ⟨io₁, by rw [ended], breaks⟩
        cases status with
        | error e =>
          cases run
          refine leaves.congr (same.trans (or_iff_left ?_))
          rintro ⟨ended, -⟩
          exact nomatch ended
        | ok _ =>
          have whole := fine rfl
          obtain ⟨l', opened'⟩ : ∃ l', Opened ctx io₁ l' 0 := by
            rcases leaves with ⟨-, opened'⟩ | ⟨breaks, -⟩
            · exact opened'
            · exact absurd breaks whole
          change (reject (written ≠ growCount size io) Error.io >>= fun _ => fileGrowFrom env ctx size rounds) io₁ =
            some (r, io') at run
          by_cases all : written = growCount size io
          · rw [reject_bind_neg _ (not_not.mpr all)] at run
            have rest := ih opened' io₁ rfl r io' run
            have later : GrowBreaks env ctx size (rounds + 1) io ↔ GrowBreaks env ctx size rounds io₁ := by
              rw [same, all, or_iff_right whole, and_iff_right rfl]
            rw [later]
            exact rest
          · rw [reject_bind_pos _ all] at run
            cases run
            refine .inl ⟨?_, l', opened'⟩
            rw [same, or_iff_right whole]
            rintro ⟨ended, -⟩
            cases ended
            exact all rfl

theorem fileGrow_leaves (size : Nat) (opened : Opened ctx io l 0) :
    Triple (· = io) (fileGrow env ctx size) (fun _ io' => Leaves ctx (GrowthBreaks env ctx size io) io')
      fun _ io' => Leaves ctx (GrowthBreaks env ctx size io) io' := by
  rintro io rfl r io' run
  have shape : (fileGrowFrom env ctx size (size - io.file.fileSize) >>= fun _ => fileSeek env ctx io.file.position) io.atEnd =
      some (r, io') := run
  have grows := fileGrowFrom_leaves env geometry size (size - io.file.fileSize)
    (opened.at (Nat.le_refl io.file.fileSize))
  rcases of_bind shape with ⟨e, grown, rfl⟩ | ⟨_, io₁, grown, run⟩
  · refine Leaves.congr (grows io.atEnd rfl _ _ grown) (or_iff_left ?_)
    rintro ⟨io₂, grown', -⟩
    rw [grown] at grown'
    exact nomatch grown'
  · obtain ⟨⟨l', opened'⟩, whole⟩ := grows io.atEnd rfl _ _ grown
    have sought := fileSeek_leaves geometry io.file.position opened' io₁ rfl r io' run
    have same : GrowthBreaks env ctx size io ↔ SeekBreaks env ctx io.file.position io₁ := by
      refine (or_iff_right whole).trans ⟨?_, fun breaks => ⟨io₁, grown, breaks⟩⟩
      rintro ⟨io₂, grown', breaks⟩
      rw [grown] at grown'
      cases grown'
      exact breaks
    cases r with
    | ok _ => exact sought.1.congr same
    | error e => exact Leaves.congr sought same

end Grow

end XSDK.Fs
