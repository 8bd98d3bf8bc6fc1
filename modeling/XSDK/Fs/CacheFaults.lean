import XSDK.Fs.View
import XSDK.Library.Runs

/-! The cache entry in front of a driver that may fail, where a failed read may have
written to the buffer it was given. -/
namespace XSDK.Fs

open Library Prog

/-- The disk and the cache entry in front of it. -/
structure Medium where
  disk : Nat → Sector
  cache : Cache

/-- How the driver ends a read, and what a failed one leaves in the buffer. -/
inductive ReadAnswer where
  | done
  | failed (code : Nat) (left : Sector)

namespace Medium

/-- `cacheWrite` with the driver's answer given: nothing when it is OK. -/
def write (answer : Option Nat) (m : Medium) : Except Error Unit × Medium :=
  if m.cache.isValid = false ∨ m.cache.isDirty = false then (.ok (), m)
  else
    match answer with
    | some code => (.error (.driver code), m)
    | none =>
      (.ok (), ⟨Function.update m.disk m.cache.sector m.cache.buffer, { m.cache with isDirty := false }⟩)

/-- `read_sector` on the buffer of the entry. -/
def fill (sector : Nat) (answer : ReadAnswer) (m : Medium) : Except Error Unit × Medium :=
  match answer with
  | .failed code left => (.error (.driver code), { m with cache := { m.cache with buffer := left } })
  | .done => (.ok (), { m with cache := ⟨true, false, sector, m.disk sector⟩ })

/-- `cacheRead` with the driver's answers given, to the write-back and to the read. -/
def read (sector : Nat) (writing : Option Nat) (reading : ReadAnswer) (m : Medium) : Except Error Unit × Medium :=
  if m.cache.isValid = true ∧ m.cache.sector = sector then (.ok (), m)
  else if m.cache.isDirty = true then
    match m.write writing with
    | (.error e, m) => (.error e, m)
    | (.ok (), m) => m.fill sector reading
  else m.fill sector reading

/-- A caller changes the buffer and sets the dirty flag. -/
def modify (change : Sector → Sector) (m : Medium) : Medium :=
  { m with cache := { m.cache with buffer := change m.cache.buffer, isDirty := true } }

/-- What a sector holds: the pending content of the dirty sector, and else the disk's. -/
def content (m : Medium) (sector : Nat) : Sector :=
  if m.cache.isValid = true ∧ m.cache.isDirty = true ∧ m.cache.sector = sector then m.cache.buffer else m.disk sector

/-- The read is reached and spoils the buffer of an entry that stays valid. -/
def Spoils (m : Medium) (sector : Nat) (writing : Option Nat) (left : Sector) : Prop :=
  m.cache.isValid = true ∧ m.cache.sector ≠ sector ∧ (m.cache.isDirty = true → writing = none) ∧ left ≠ m.cache.buffer

end Medium

/-- One call on the entry, with the driver's answers to what it may ask. -/
inductive CacheCall where
  | read (sector : Nat) (writing : Option Nat) (reading : ReadAnswer)
  | modify (change : Sector → Sector)
  | write (answer : Option Nat)

/-- With the last content that was stored for each sector. -/
structure Ledger where
  medium : Medium
  stored : Nat → Sector

def Ledger.start (disk : Nat → Sector) : Ledger := ⟨⟨disk, Cache.zero⟩, disk⟩

def Ledger.step (s : Ledger) : CacheCall → Ledger × Except Error Unit
  | .read sector writing reading =>
    let (result, medium) := s.medium.read sector writing reading
    (⟨medium, s.stored⟩, result)
  | .modify change =>
    let medium := s.medium.modify change
    (⟨medium, if s.medium.cache.isValid = true then Function.update s.stored medium.cache.sector medium.cache.buffer
      else s.stored⟩, .ok ())
  | .write answer =>
    let (result, medium) := s.medium.write answer
    (⟨medium, s.stored⟩, result)

def cacheMachine : Machine Ledger CacheCall (Except Error Unit) where
  allowed _ _ := True
  step := Ledger.step

abbrev CacheStep := Transition Ledger CacheCall (Except Error Unit)

/-- No stored content was dropped or went to another sector. -/
def Ledger.Kept (s : Ledger) : Prop := ∀ sector, s.medium.content sector = s.stored sector

/-- A read that returns OK has the stored content in the buffer. -/
def Served (tr : CacheStep) : Prop :=
  ∀ sector writing reading, tr.input = .read sector writing reading → tr.output = .ok () →
    tr.post.medium.cache.buffer = tr.post.stored sector

/-- The step is no failed read that spoils the buffer of a valid entry. -/
def Unspoiled (tr : CacheStep) : Prop :=
  ∀ sector writing code left, tr.input = .read sector writing (.failed code left) →
    ¬tr.pre.medium.Spoils sector writing left

structure Ledger.Sound (s : Ledger) : Prop where
  kept : s.Kept
  buffered : s.medium.cache.isValid = true → s.medium.cache.buffer = s.stored s.medium.cache.sector

section Kept

variable {m : Medium} {s : Ledger}

theorem content_clean (clean : m.cache.isValid = false ∨ m.cache.isDirty = false) (sector : Nat) :
    m.content sector = m.disk sector := by
  rw [Medium.content, if_neg]
  rintro ⟨valid, dirty, -⟩
  rcases clean with clean | clean
  · rw [valid] at clean
    exact nomatch clean
  · rw [dirty] at clean
    exact nomatch clean

variable (answer : Option Nat)

theorem write_cases (m : Medium) :
    ((m.write answer).2 = m ∧ ((m.write answer).1 = .ok () → m.cache.isValid = false ∨ m.cache.isDirty = false)) ∨
      (m.cache.isValid = true ∧ m.cache.isDirty = true ∧ answer = none ∧
        m.write answer = (.ok (), ⟨Function.update m.disk m.cache.sector m.cache.buffer,
          { m.cache with isDirty := false }⟩)) := by
  by_cases quiet : m.cache.isValid = false ∨ m.cache.isDirty = false
  · left
    have same : m.write answer = (.ok (), m) := if_pos quiet
    rw [same]
    exact ⟨rfl, fun _ => quiet⟩
  · obtain ⟨valid, dirty⟩ := not_or.mp quiet
    cases answer with
    | some code =>
      left
      have same : m.write (some code) = (.error (.driver code), m) := if_neg quiet
      rw [same]
      exact ⟨rfl, nofun⟩
    | none =>
      right
      exact ⟨by simpa using valid, by simpa using dirty, rfl, if_neg quiet⟩

theorem write_content (m : Medium) (sector : Nat) : (m.write answer).2.content sector = m.content sector := by
  rcases write_cases answer m with ⟨same, -⟩ | ⟨valid, dirty, -, same⟩
  · rw [same]
  · rw [same, content_clean (.inr rfl)]
    by_cases h : m.cache.sector = sector
    · subst h
      simp only [Medium.content, valid, dirty, and_self, if_true, Function.update_self]
    · rw [Medium.content, if_neg fun ⟨_, _, hs⟩ => h hs]
      exact Function.update_of_ne (Ne.symm h) _ _

theorem write_cache (m : Medium) :
    (m.write answer).2.cache.isValid = m.cache.isValid ∧ (m.write answer).2.cache.sector = m.cache.sector ∧
      (m.write answer).2.cache.buffer = m.cache.buffer := by
  rcases write_cases answer m with ⟨same, -⟩ | ⟨-, -, -, same⟩
  · rw [same]
    exact ⟨rfl, rfl, rfl⟩
  · rw [same]
    exact ⟨rfl, rfl, rfl⟩

theorem fill_content (clean : m.cache.isValid = false ∨ m.cache.isDirty = false) (asked : Nat) (reading : ReadAnswer)
    (sector : Nat) : (m.fill asked reading).2.content sector = m.content sector := by
  rw [content_clean clean]
  cases reading with
  | done => exact content_clean (.inr rfl) sector
  | failed code left =>
    have clean' : (m.fill asked (.failed code left)).2.cache.isValid = false ∨
        (m.fill asked (.failed code left)).2.cache.isDirty = false := clean
    exact content_clean clean' sector

theorem read_cases (sector : Nat) (writing : Option Nat) (reading : ReadAnswer) (m : Medium) :
    ((m.cache.isValid = true ∧ m.cache.sector = sector) ∧ m.read sector writing reading = (.ok (), m)) ∨
      (¬(m.cache.isValid = true ∧ m.cache.sector = sector) ∧
        ((∃ e, m.read sector writing reading = (.error e, m)) ∨
          ∃ m' : Medium, (m'.cache.isValid = false ∨ m'.cache.isDirty = false) ∧
            (m'.cache.isValid = m.cache.isValid ∧ m'.cache.sector = m.cache.sector ∧ m'.cache.buffer = m.cache.buffer) ∧
            (∀ k, m'.content k = m.content k) ∧ (m.cache.isValid = true → m.cache.isDirty = true → writing = none) ∧
            m.read sector writing reading = m'.fill sector reading)) := by
  by_cases hit : m.cache.isValid = true ∧ m.cache.sector = sector
  · left
    exact ⟨hit, by rw [Medium.read, if_pos hit]⟩
  · right
    refine ⟨hit, ?_⟩
    by_cases dirty : m.cache.isDirty = true
    · rcases write_cases writing m with ⟨same, clean⟩ | ⟨valid, -, answer, same⟩
      · cases hr : (m.write writing).1 with
        | error e =>
          left
          refine ⟨e, ?_⟩
          have both : m.write writing = (.error e, m) := Prod.ext hr same
          simp only [Medium.read, if_neg hit, if_pos dirty, both]
        | ok u =>
          right
          have both : m.write writing = (.ok (), m) := Prod.ext hr same
          have quiet := clean hr
          refine ⟨m, quiet, ⟨rfl, rfl, rfl⟩, fun _ => rfl, fun valid _ => ?_, ?_⟩
          · rcases quiet with quiet | quiet
            · rw [valid] at quiet
              exact nomatch quiet
            · rw [dirty] at quiet
              exact nomatch quiet
          · simp only [Medium.read, if_neg hit, if_pos dirty, both]
      · right
        have moved := fun k => write_content writing m k
        rw [same] at moved
        refine ⟨⟨Function.update m.disk m.cache.sector m.cache.buffer, { m.cache with isDirty := false }⟩,
          .inr rfl, ⟨rfl, rfl, rfl⟩, moved, fun _ _ => answer, ?_⟩
        simp only [Medium.read, if_neg hit, if_pos dirty, same]
    · right
      refine ⟨m, .inr (by simpa using dirty), ⟨rfl, rfl, rfl⟩, fun _ => rfl, fun _ h => absurd h dirty, ?_⟩
      rw [Medium.read, if_neg hit, if_neg dirty]

theorem read_content (sector : Nat) (writing : Option Nat) (reading : ReadAnswer) (m : Medium) (k : Nat) :
    (m.read sector writing reading).2.content k = m.content k := by
  rcases read_cases sector writing reading m with ⟨-, same⟩ | ⟨-, ⟨e, same⟩ | ⟨m', clean, -, kept, -, same⟩⟩
  · rw [same]
  · rw [same]
  · rw [same, fill_content clean, kept]

theorem modify_content (valid : m.cache.isValid = true) (change : Sector → Sector) (sector : Nat) :
    (m.modify change).content sector =
      if m.cache.sector = sector then change m.cache.buffer else m.content sector := by
  by_cases h : m.cache.sector = sector
  · simp [Medium.content, Medium.modify, valid, h]
  · simp [Medium.content, Medium.modify, h]

theorem kept_step (kept : s.Kept) (call : CacheCall) : (s.step call).1.Kept := by
  intro sector
  cases call with
  | read asked writing reading => exact (read_content asked writing reading s.medium sector).trans (kept sector)
  | write answer => exact (write_content answer s.medium sector).trans (kept sector)
  | modify change =>
    simp only [Ledger.step]
    cases valid : s.medium.cache.isValid with
    | false =>
      have invalid' : (s.medium.modify change).cache.isValid = false := valid
      rw [if_neg Bool.false_ne_true, content_clean (.inl invalid')]
      exact (content_clean (.inl valid) sector).symm.trans (kept sector)
    | true =>
      rw [if_pos rfl, modify_content valid, Function.update_apply]
      by_cases h : s.medium.cache.sector = sector
      · rw [if_pos h, if_pos (by exact h.symm)]
        rfl
      · rw [if_neg h, if_neg fun same => h (by exact same.symm)]
        exact kept sector

end Kept

section Sound

variable {s : Ledger}

/-- A step keeps the entry sound, and a read that returns OK serves what is stored, unless it spoils the buffer. -/
theorem sound_step (sound : s.Sound) (call : CacheCall) (unspoiled : Unspoiled (cacheMachine.take s call)) :
    (s.step call).1.Sound ∧ Served (cacheMachine.take s call) := by
  have kept := kept_step sound.kept call
  cases call with
  | write answer =>
    obtain ⟨valid, sector, buffer⟩ := write_cache answer s.medium
    refine ⟨⟨kept, fun h => ?_⟩, by rintro _ _ _ ⟨⟩⟩
    have before := sound.buffered (valid.symm.trans h)
    exact buffer.trans (before.trans (congrArg s.stored sector.symm))
  | modify change =>
    refine ⟨⟨kept, fun h => ?_⟩, by rintro _ _ _ ⟨⟩⟩
    have valid : s.medium.cache.isValid = true := h
    simp only [Ledger.step, if_pos valid, Function.update_self]
  | read sector writing reading =>
    have served : ∀ m : Medium, s.medium.read sector writing reading = (.ok (), m) →
        m.cache.buffer = s.stored sector → Served (cacheMachine.take s (.read sector writing reading)) := by
      intro m same buffer sector' _ _ input _
      cases input
      simp only [Machine.take, cacheMachine, Ledger.step, same]
      exact buffer
    rcases read_cases sector writing reading s.medium with
      ⟨⟨valid, hit⟩, same⟩ | ⟨miss, ⟨e, same⟩ | ⟨m', clean, ⟨valid', sector', buffer'⟩, moved, written, same⟩⟩
    · have buffer := sound.buffered valid
      rw [hit] at buffer
      refine ⟨⟨kept, fun h => ?_⟩, served _ same buffer⟩
      simp only [Ledger.step, same] at h ⊢
      exact sound.buffered h
    · refine ⟨⟨kept, fun h => ?_⟩, ?_⟩
      · simp only [Ledger.step, same] at h ⊢
        exact sound.buffered h
      · intro _ _ _ _ output
        simp only [Machine.take, cacheMachine, Ledger.step, same] at output
        cases output
    · cases reading with
      | done =>
        have filled : m'.disk sector = s.stored sector := by
          rw [← content_clean clean, moved, sound.kept]
        refine ⟨⟨kept, fun _ => ?_⟩, served _ same filled⟩
        simp only [Ledger.step, same]
        exact filled
      | failed code left =>
        refine ⟨⟨kept, fun h => ?_⟩, ?_⟩
        · simp only [Ledger.step, same] at h ⊢
          have valid : s.medium.cache.isValid = true := valid'.symm.trans h
          have apart : s.medium.cache.sector ≠ sector := fun h => miss ⟨valid, h⟩
          have unchanged : left = s.medium.cache.buffer := by
            by_contra changed
            exact unspoiled sector writing code left rfl ⟨valid, apart, written valid, changed⟩
          have before := sound.buffered valid
          simp only [Medium.fill]
          rw [unchanged, before, sector']
        · intro _ _ _ _ output
          simp only [Machine.take, cacheMachine, Ledger.step, same] at output
          cases output

theorem spoiled_next (sound : s.Sound) {sector : Nat} {writing : Option Nat} {left : Sector}
    (spoils : s.medium.Spoils sector writing left) (code : Nat) (writing' : Option Nat) (reading' : ReadAnswer) :
    ¬Served (cacheMachine.take (s.step (.read sector writing (.failed code left))).1
      (.read s.medium.cache.sector writing' reading')) := by
  obtain ⟨valid, apart, written, changed⟩ := spoils
  have filled : ∃ m' : Medium, (s.medium.read sector writing (.failed code left)).2 = m' ∧
      m'.cache.isValid = true ∧ m'.cache.sector = s.medium.cache.sector ∧ m'.cache.buffer = left := by
    rcases read_cases sector writing (.failed code left) s.medium with
      ⟨⟨-, hit⟩, -⟩ | ⟨miss, ⟨e, same⟩ | ⟨m', clean, ⟨valid', sector', -⟩, -, -, same⟩⟩
    · exact absurd hit apart
    · by_cases dirty : s.medium.cache.isDirty = true
      · have quiet : ¬(s.medium.cache.isValid = false ∨ s.medium.cache.isDirty = false) := by
          rw [valid, dirty]
          simp
        simp only [Medium.read, if_neg miss, if_pos dirty, Medium.write, if_neg quiet, written dirty] at same ⊢
        exact ⟨_, rfl, valid, rfl, rfl⟩
      · simp only [Medium.read, if_neg miss, if_neg dirty] at same ⊢
        exact ⟨_, rfl, valid, rfl, rfl⟩
    · rw [same]
      exact ⟨_, rfl, valid'.trans valid, sector', rfl⟩
  obtain ⟨m', same, valid', sector', buffer'⟩ := filled
  intro served
  have hit : m'.cache.isValid = true ∧ m'.cache.sector = s.medium.cache.sector := ⟨valid', sector'⟩
  have read' : m'.read s.medium.cache.sector writing' reading' = (.ok (), m') := by rw [Medium.read, if_pos hit]
  have wrong := served s.medium.cache.sector writing' reading' rfl
  simp only [Machine.take, cacheMachine, Ledger.step, same, read'] at wrong
  rw [buffer', ← sound.buffered valid] at wrong
  exact changed (wrong trivial)

theorem sound_start (disk : Nat → Sector) : (Ledger.start disk).Sound :=
  ⟨fun sector => content_clean (.inl rfl) sector, nofun⟩

end Sound

section Calls

variable (env : Env)

end Calls

def spoiledCalls : List CacheCall :=
  [.read 0 none .done, .read 1 none (.failed 7 fun _ => 0xFF), .read 0 none .done]

def blankDisk : Nat → Sector := fun _ => zeroSector

/-- Stored content is never lost or misplaced, a read returns it as long as no failed read has
spoiled the buffer of a valid entry, and the first that does makes the next hit wrong. -/
theorem cache_serves_unspoiled (disk : Nat → Sector) {trace : List CacheStep} {s : Ledger}
    (run : cacheMachine.Run (Ledger.start disk) trace s) :
    s.Kept ∧
      ((∀ tr ∈ trace, Unspoiled tr) →
        (∀ tr ∈ trace, Served tr) ∧
          ∀ sector writing left, s.medium.Spoils sector writing left →
            ∀ code writing' reading',
              ¬Served (cacheMachine.take (s.step (.read sector writing (.failed code left))).1
                (.read s.medium.cache.sector writing' reading'))) := by
  have kept : s.Kept := run.invariant (sound_start disk).kept fun _ call kept _ => kept_step kept call
  refine ⟨kept, fun unspoiled => ?_⟩
  obtain ⟨sound, served⟩ := run.throughout unspoiled (sound_start disk)
    fun _ call sound _ fine => sound_step sound call fine
  exact ⟨served, fun sector writing left spoils code writing' reading' => spoiled_next sound spoils code writing' reading'⟩

theorem cache_serves_plain :
    (cacheMachine.play (Ledger.start blankDisk) [.read 0 none .done]).Kept ∧
      ∀ tr ∈ cacheMachine.transitions (Ledger.start blankDisk) [.read 0 none .done], Served tr := by
  have legal : cacheMachine.Legal (Ledger.start blankDisk) [.read 0 none .done] := ⟨trivial, trivial⟩
  obtain ⟨kept, served⟩ := cache_serves_unspoiled blankDisk (Machine.run_of_legal legal)
  refine ⟨kept, (served ?_).1⟩
  intro tr mem sector writing code left input
  rw [List.mem_singleton.mp mem] at input
  exact nomatch input

theorem cache_serves_spoiled :
    ¬∀ (disk : Nat → Sector) (trace : List CacheStep) (s : Ledger), cacheMachine.Run (Ledger.start disk) trace s →
      s.Kept ∧ ∀ tr ∈ trace, Served tr := by
  intro holds
  have legal : cacheMachine.Legal (Ledger.start blankDisk) spoiledCalls := ⟨trivial, trivial, trivial, trivial⟩
  obtain ⟨-, served⟩ := holds blankDisk _ _ (Machine.run_of_legal legal)
  have wrong := congrFun (served _ (List.mem_cons_of_mem _ (List.mem_cons_of_mem _ List.mem_cons_self)) 0 none .done rfl rfl) 0
  exact absurd wrong (by decide)

end XSDK.Fs
