import XSDK.Usbd.MassStorage

/-! A command block and the transfer that follows it, and when they stay inside the medium. -/
namespace XSDK.Usbd.Msc

open Library Library.Call

section Stage

variable {env : Env} {s s' : Storage} {result : CommandResult}

def stage (cbw : Cbw) (status : CswStatus) (result : CommandResult) : Effect :=
  if status = .passed then
    if cbw.dataLength = 0 then .send .csw cswLength
    else if isIn cbw.flags then .send result.response (min result.responseLength cbw.dataLength)
    else .receive result.writeAddress (min result.writeLength cbw.dataLength)
  else .send .csw cswLength

theorem dcdCall_log (effect : Effect) (f : Context → Context) :
    ((dcdCall env effect >>= fun _ => update f) s).2.log = s.log ++ [effect] := by
  cases taken : env.dcd effect with
  | false => rw [bind_error _ (by rw [dcdCall_run, if_pos taken])]
  | true =>
    have free : ¬env.dcd effect = false := by
      rw [taken]
      decide
    rw [bind_ok _ (by rw [dcdCall_run, if_neg free])]
    rfl

theorem sendCurrentCsw_log : (sendCurrentCsw env s).2.log = s.log ++ [.send .csw cswLength] := by
  change (dcdCall env (.send .csw cswLength) _).2.log = _
  rw [dcdCall_run]

theorem dataPhaseStart_log (cbw : Cbw) :
    (dataPhaseStart env cbw.dataLength cbw.flags result s).2.log = s.log ++ [stage cbw .passed result] := by
  rw [dataPhaseStart, stage, if_pos rfl]
  by_cases none : cbw.dataLength = 0
  · rw [if_pos none, if_pos none]
    exact sendCurrentCsw_log
  · rw [if_neg none, if_neg none]
    by_cases toHost : isIn cbw.flags = true
    · rw [if_pos toHost, if_pos toHost]
      exact dcdCall_log _ _
    · rw [if_neg toHost, if_neg toHost]
      exact dcdCall_log _ _

theorem cbwReceived_log (valid : s.ctx.cbw.signature = cbwSignature)
    (run : scsiCommandProcess env s.ctx.cbw.dataLength
        ⟨{ s.ctx with csw := { s.ctx.csw with status := .failed } }, s.log⟩ =
      (.ok result, s')) :
    (cbwReceived env cbwLength s).2.log = s'.log ++ [stage s.ctx.cbw s'.ctx.csw.status result] := by
  have accepted : cbwValidate env cbwLength ⟨{ s.ctx with csw := { s.ctx.csw with status := .failed } }, s.log⟩ =
      (.ok true, ⟨{ s.ctx with csw := { s.ctx.csw with status := .failed } }, s.log⟩) := by
    rw [cbwValidate, read_bind, if_pos ⟨rfl, valid⟩]
    rfl
  rw [cbwReceived, bind_ok _ (setStatus_run _), bind_ok _ accepted, if_pos rfl, read_bind, bind_ok _ run, prepareCsw,
    bind_ok _ (update_run _), read_bind]
  by_cases passed : s'.ctx.csw.status = .passed
  · rw [if_pos passed, passed]
    exact dataPhaseStart_log _
  · rw [if_neg passed, setCswResidue, bind_ok _ (update_run _), sendCurrentCsw_log, stage, if_neg passed]

end Stage

/-! ### Requests inside the medium -/

/-- What a valid command block must not do. -/
structure Safe (env : Env) (ctx : Context) (effects : List Effect) : Prop where
  inMedium : ∀ blockOffset numberOfBlocks, .ioControl (.getReadAddr blockOffset numberOfBlocks) ∈ effects ∨
    .ioControl (.getWriteAddr blockOffset numberOfBlocks) ∈ effects →
    blockOffset.toNat + numberOfBlocks.toNat ≤ ctx.capacity.numberOfBlocks.toNat
  lengths : ctx.cbw.scsi = .read10 ∨ ctx.cbw.scsi = .write10 →
    (blockRequest ctx.cbw ctx.capacity).InRange ctx.capacity →
    (blockRequest ctx.cbw ctx.capacity).transferLength.toNat =
      ctx.cbw.numberOfBlocks.toNat * ctx.capacity.blockSize.toNat
  pointed : ∀ length, .send .null length ∈ effects ∨ .receive .null length ∈ effects → length = 0
  noHostData : ctx.cbw.scsi ≠ .write10 → ∀ data length, .receive data length ∈ effects → length = 0
  noDeviceData : ctx.cbw.scsi = .write10 →
    ∀ data length, .send data length ∈ effects → data = .csw ∨ length = 0

/-- What the block request of a command block must not be, and the replies that name no buffer for a transfer. -/
inductive Astray (env : Env) (ctx : Context) : Prop where
  | sum : ctx.cbw.scsi = .read10 ∨ ctx.cbw.scsi = .write10 →
      (blockRequest ctx.cbw ctx.capacity).InRange ctx.capacity →
      ctx.cbw.dataLength = (blockRequest ctx.cbw ctx.capacity).transferLength →
      2 ^ 32 ≤ ctx.cbw.blockOffset.toNat + ctx.cbw.numberOfBlocks.toNat → Astray env ctx
  | product : ctx.cbw.scsi = .read10 ∨ ctx.cbw.scsi = .write10 →
      (blockRequest ctx.cbw ctx.capacity).InRange ctx.capacity →
      2 ^ 32 ≤ ctx.cbw.numberOfBlocks.toNat * ctx.capacity.blockSize.toNat → Astray env ctx
  | read : ctx.cbw.scsi = .read10 → (blockRequest ctx.cbw ctx.capacity).InRange ctx.capacity →
      ctx.cbw.dataLength = (blockRequest ctx.cbw ctx.capacity).transferLength → ctx.cbw.dataLength ≠ 0 →
      isIn ctx.cbw.flags = true → (env.io (.getReadAddr ctx.cbw.blockOffset ctx.cbw.numberOfBlocks)).ok = true →
      (env.io (.getReadAddr ctx.cbw.blockOffset ctx.cbw.numberOfBlocks)).data = none → Astray env ctx
  | write : ctx.cbw.scsi = .write10 → (blockRequest ctx.cbw ctx.capacity).InRange ctx.capacity →
      ctx.cbw.dataLength = (blockRequest ctx.cbw ctx.capacity).transferLength → ctx.cbw.dataLength ≠ 0 →
      isIn ctx.cbw.flags = false → (env.io (.getWriteAddr ctx.cbw.blockOffset ctx.cbw.numberOfBlocks)).ok = true →
      (env.io (.getWriteAddr ctx.cbw.blockOffset ctx.cbw.numberOfBlocks)).data = none → Astray env ctx
  | inquiry : ctx.cbw.scsi = .inquiry → ctx.cbw.dataLength ≠ 0 → isIn ctx.cbw.flags = true →
      (env.io .inquiry).ok = true → (env.io .inquiry).data = none → (env.io .inquiry).length ≠ 0 →
      Astray env ctx

section Safety

variable {env : Env} {ctx : Context} {s' : Storage} {result : CommandResult} {done : List Effect} {sense : Sense}
    {status : CswStatus}

/-- The calls that a command block leads to, from a context that waits for it. -/
def effectsOf (env : Env) (ctx : Context) : List Effect := (cbwReceived env cbwLength ⟨ctx, []⟩).2.log

def begun (ctx : Context) : Storage := ⟨{ ctx with csw := { ctx.csw with status := .failed } }, []⟩

theorem effectsOf_run (valid : ctx.cbw.signature = cbwSignature) : ∃ result s', ScsiRun env (begun ctx) result s' ∧
    effectsOf env ctx = s'.log ++ [stage ctx.cbw s'.ctx.csw.status result] := by
  obtain ⟨result, s', run, ends⟩ := @scsiCommandProcess_run env (begun ctx)
  exact ⟨result, s', ends, @cbwReceived_log env ⟨ctx, []⟩ s' result valid run⟩

variable {scsi : Scsi} {length : UInt32} {data : Pointer}

theorem kind_read (kind : scsi.kind = .read) : scsi = .read10 := by
  cases scsi <;> first | rfl | cases kind

theorem kind_write (kind : scsi.kind = .write) : scsi = .write10 := by
  cases scsi <;> first | rfl | cases kind

theorem kind_inquiry (kind : scsi.kind = .inquiry) : scsi = .inquiry := by
  cases scsi <;> first | rfl | cases kind

def Still (effect : Effect) : Prop := (∀ data length, effect ≠ .send data length) ∧
  ∀ data length, effect ≠ .receive data length

theorem not_still_send : ¬Still (.send data length) := fun still => still.1 _ _ rfl
theorem not_still_receive :
    ¬Still (.receive data length) := fun still => still.2 _ _ rfl

theorem zero_min (n : UInt32) : min 0 n = 0 := by
  rw [UInt32.min_def]
  exact if_pos UInt32.zero_le

theorem stage_cases (cbw : Cbw) (status : CswStatus) (result : CommandResult) :
    stage cbw status result = .send .csw cswLength ∨
      (status = .passed ∧ cbw.dataLength ≠ 0 ∧ isIn cbw.flags = true ∧
        stage cbw status result = .send result.response (min result.responseLength cbw.dataLength)) ∨
      (status = .passed ∧ cbw.dataLength ≠ 0 ∧ isIn cbw.flags = false ∧
        stage cbw status result = .receive result.writeAddress (min result.writeLength cbw.dataLength)) := by
  by_cases passed : status = .passed
  · by_cases none : cbw.dataLength = 0
    · exact .inl (by rw [stage, if_pos passed, if_pos none])
    · cases direction : isIn cbw.flags with
      | true =>
        exact .inr (.inl ⟨passed, none, rfl, by rw [stage, if_pos passed, if_neg none, direction, if_pos rfl]⟩)
      | false =>
        exact .inr (.inr ⟨passed, none, rfl, by
          rw [stage, if_pos passed, if_neg none, direction, if_neg Bool.false_ne_true]⟩)
  · exact .inl (by rw [stage, if_neg passed])

theorem safe_of (still : ∀ effect ∈ done, Still effect)
    (inMedium : ∀ blockOffset numberOfBlocks, .ioControl (.getReadAddr blockOffset numberOfBlocks) ∈ done ∨
      .ioControl (.getWriteAddr blockOffset numberOfBlocks) ∈ done →
      blockOffset.toNat + numberOfBlocks.toNat ≤ ctx.capacity.numberOfBlocks.toNat)
    (lengths : ctx.cbw.scsi = .read10 ∨ ctx.cbw.scsi = .write10 →
      (blockRequest ctx.cbw ctx.capacity).InRange ctx.capacity →
      (blockRequest ctx.cbw ctx.capacity).transferLength.toNat =
        ctx.cbw.numberOfBlocks.toNat * ctx.capacity.blockSize.toNat)
    (response : status = .passed → ctx.cbw.dataLength ≠ 0 → isIn ctx.cbw.flags = true →
      result.response = .null →
      min result.responseLength ctx.cbw.dataLength = 0)
    (writeAddress : status = .passed → ctx.cbw.dataLength ≠ 0 → isIn ctx.cbw.flags = false →
      result.writeAddress = .null →
      min result.writeLength ctx.cbw.dataLength = 0)
    (reads : ctx.cbw.scsi ≠ .write10 → result.writeLength = 0)
    (writes : ctx.cbw.scsi = .write10 → result.responseLength = 0) :
    Safe env ctx (done ++ [stage ctx.cbw status result]) := by
  have last {effect : Effect} (mem : effect ∈ done ++ [stage ctx.cbw status result]) (moves : ¬Still effect) :
      effect = stage ctx.cbw status result :=
    (List.mem_append.mp mem).elim (fun early => absurd (still effect early) moves) List.mem_singleton.mp
  have ahead {effect : Effect} (mem : effect ∈ done ++ [stage ctx.cbw status result])
      (control : ∃ cmd, effect = .ioControl cmd) :
      effect ∈ done := by
    obtain ⟨cmd, rfl⟩ := control
    refine (List.mem_append.mp mem).resolve_right fun same => ?_
    have same := List.mem_singleton.mp same
    rcases stage_cases ctx.cbw status result with
      ends | ⟨-, -, -, ends⟩ | ⟨-, -, -, ends⟩ <;> rw [ends] at same <;> cases same
  refine ⟨fun o n mem => inMedium o n (mem.imp (ahead · ⟨_, rfl⟩) (ahead · ⟨_, rfl⟩)), lengths, ?_, ?_, ?_⟩
  · rintro length (mem | mem)
    · have same := last mem not_still_send
      rcases stage_cases ctx.cbw status result with ends | ⟨passed, some, direction, ends⟩ | ⟨-, -, -, ends⟩
      · rw [ends] at same
        cases same
      · rw [ends, Effect.send.injEq] at same
        rw [same.2, response passed some direction same.1.symm]
      · rw [ends] at same
        cases same
    · have same := last mem not_still_receive
      rcases stage_cases ctx.cbw status result with ends | ⟨-, -, -, ends⟩ | ⟨passed, some, direction, ends⟩
      · rw [ends] at same
        cases same
      · rw [ends] at same
        cases same
      · rw [ends, Effect.receive.injEq] at same
        rw [same.2, writeAddress passed some direction same.1.symm]
  · intro other data length mem
    have same := last mem not_still_receive
    rcases stage_cases ctx.cbw status result with ends | ⟨-, -, -, ends⟩ | ⟨-, -, -, ends⟩
    · rw [ends] at same
      cases same
    · rw [ends] at same
      cases same
    · rw [ends, Effect.receive.injEq] at same
      rw [same.2, reads other, zero_min]
  · intro write data length mem
    have same := last mem not_still_send
    rcases stage_cases ctx.cbw status result with ends | ⟨-, -, -, ends⟩ | ⟨-, -, -, ends⟩
    · rw [ends, Effect.send.injEq] at same
      exact .inl same.1
    · rw [ends, Effect.send.injEq] at same
      exact .inr (by rw [same.2, writes write, zero_min])
    · rw [ends] at same
      cases same

theorem still_ioControl (cmd : IoCmd) : Still (.ioControl cmd) := ⟨fun _ _ => nofun, fun _ _ => nofun⟩
theorem still_setSense (sense : Sense) : Still (.setSense sense) := ⟨fun _ _ => nofun, fun _ _ => nofun⟩

variable {capacity : Capacity} {cbw : Cbw}

theorem inMedium_of_not_wraps (range : (blockRequest cbw capacity).InRange capacity)
    (small : ¬2 ^ 32 ≤ cbw.blockOffset.toNat + cbw.numberOfBlocks.toNat) :
    cbw.blockOffset.toNat + cbw.numberOfBlocks.toNat ≤ capacity.numberOfBlocks.toNat := by
  have checked : cbw.blockOffset + cbw.numberOfBlocks ≤ capacity.numberOfBlocks := range
  rw [UInt32.le_iff_toNat_le, UInt32.toNat_add] at checked
  omega

theorem wraps_of_not_inMedium
    (high : 2 ^ 32 ≤ cbw.blockOffset.toNat + cbw.numberOfBlocks.toNat) :
    ¬cbw.blockOffset.toNat + cbw.numberOfBlocks.toNat ≤ capacity.numberOfBlocks.toNat := by
  have bound := capacity.numberOfBlocks.toNat_lt
  omega

theorem product_of_not_wraps
    (small : ¬2 ^ 32 ≤ cbw.numberOfBlocks.toNat * capacity.blockSize.toNat) :
    (blockRequest cbw capacity).transferLength.toNat = cbw.numberOfBlocks.toNat * capacity.blockSize.toNat := by
  change (cbw.numberOfBlocks * capacity.blockSize).toNat = _
  rw [UInt32.toNat_mul, Nat.mod_eq_of_lt (Nat.lt_of_not_le small)]

theorem not_product_of_wraps
    (high : 2 ^ 32 ≤ cbw.numberOfBlocks.toNat * capacity.blockSize.toNat) :
    ¬(blockRequest cbw capacity).transferLength.toNat = cbw.numberOfBlocks.toNat * capacity.blockSize.toNat := by
  have bound := (blockRequest cbw capacity).transferLength.toNat_lt
  omega

end Safety

section Verdict

variable {env : Env} {ctx : Context} {s' : Storage} {result : CommandResult}

theorem pointer_null {reply : IoReply} : reply.pointer = .null ↔ reply.data = none := by
  rw [IoReply.pointer]
  cases reply.data with
  | none => exact iff_of_true rfl rfl
  | some _ => exact iff_of_false nofun nofun

theorem safe_of_calm {done : List Effect} {status : CswStatus} (calm : Calm result)
    (quiet : ∀ effect ∈ done, ∃ sense, effect = .setSense sense)
    (other : ctx.cbw.scsi ≠ .read10 ∧ ctx.cbw.scsi ≠ .write10) :
    Safe env ctx (done ++ [stage ctx.cbw status result]) := by
  refine safe_of ?_ ?_ ?_ ?_ ?_ (fun _ => calm.writeLength) fun write => absurd write other.2
  · intro effect mem
    obtain ⟨sense, rfl⟩ := quiet effect mem
    exact still_setSense sense
  · rintro o n (mem | mem) <;> obtain ⟨_, same⟩ := quiet _ mem <;> cases same
  · exact fun block => absurd block (not_or.mpr other)
  · intro _ _ _ null
    rw [calm.response null, zero_min]
  · intro _ _ _ _
    rw [calm.writeLength, zero_min]

theorem block_lengths (apart : ¬Astray env ctx) (block : ctx.cbw.scsi = .read10 ∨ ctx.cbw.scsi = .write10)
    (range : (blockRequest ctx.cbw ctx.capacity).InRange ctx.capacity) :
    (blockRequest ctx.cbw ctx.capacity).transferLength.toNat =
      ctx.cbw.numberOfBlocks.toNat * ctx.capacity.blockSize.toNat :=
  product_of_not_wraps fun high => apart (.product block range high)

theorem safe_of_inquiry {done : List Effect} {status : CswStatus} (apart : ¬Astray env ctx)
    (inquiry : ctx.cbw.scsi = .inquiry)
    (quiet : ∀ effect ∈ done, effect = .ioControl .inquiry ∨ ∃ sense, effect = .setSense sense)
    (passed : status = .passed → (env.io .inquiry).ok = true) :
    Safe env ctx (done ++
      [stage ctx.cbw status ⟨(env.io .inquiry).pointer, .null, (env.io .inquiry).length, 0⟩]) := by
  have other : ctx.cbw.scsi ≠ .read10 ∧ ctx.cbw.scsi ≠ .write10 := by
    rw [inquiry]
    decide
  refine safe_of ?_ ?_ ?_ ?_ ?_ (fun _ => rfl) fun write => absurd write other.2
  · intro effect mem
    rcases quiet effect mem with rfl | ⟨sense, rfl⟩
    · exact still_ioControl _
    · exact still_setSense sense
  · rintro o n (mem | mem) <;> rcases quiet _ mem with same | ⟨_, same⟩ <;> cases same
  · exact fun block => absurd block (not_or.mpr other)
  · intro status some direction null
    by_cases empty : (env.io .inquiry).length = 0
    · rw [empty, zero_min]
    · exact absurd (.inquiry inquiry some direction (passed status) (pointer_null.mp null) empty) apart
  · intro _ _ _ _
    exact zero_min _

structure BlockEnds (env : Env) (ctx : Context) (cmd : UInt32 → UInt32 → IoCmd)
    (fill : Pointer → UInt32 → CommandResult)
    (result : CommandResult) (s' : Storage) : Prop where
  still : ∀ effect ∈ s'.log, Still effect
  calls : ∀ o n, .ioControl (cmd o n) ∈ s'.log → o = ctx.cbw.blockOffset ∧ n = ctx.cbw.numberOfBlocks ∧
    (blockRequest ctx.cbw ctx.capacity).InRange ctx.capacity ∧
    ctx.cbw.dataLength = (blockRequest ctx.cbw ctx.capacity).transferLength
  others : ∀ other, .ioControl other ∈ s'.log → ∃ o n, other = cmd o n
  shape : result = .zero ∨ ∃ data, result = fill data (blockRequest ctx.cbw ctx.capacity).transferLength
  passed : s'.ctx.csw.status = .passed → (blockRequest ctx.cbw ctx.capacity).InRange ctx.capacity ∧
    (env.io (cmd ctx.cbw.blockOffset ctx.cbw.numberOfBlocks)).ok = true ∧
    ctx.cbw.dataLength = (blockRequest ctx.cbw ctx.capacity).transferLength ∧
    result = fill (env.io (cmd ctx.cbw.blockOffset ctx.cbw.numberOfBlocks)).pointer
      (blockRequest ctx.cbw ctx.capacity).transferLength

theorem blockEnds {cmd : UInt32 → UInt32 → IoCmd} {asc : UInt8} {fill : Pointer → UInt32 → CommandResult}
    (injective : ∀ o n o' n', cmd o n = cmd o' n' → o = o' ∧ n = n')
    (run : BlockRun env (begun ctx) cmd asc fill (blockRequest ctx.cbw ctx.capacity) result s') :
    BlockEnds env ctx cmd fill result s' := by
  cases run with
  | range out ran =>
    have log : s'.log = [.setSense ⟨0x05, 0x21, 0⟩] := ran.log
    refine ⟨?_, ?_, ?_, .inl rfl, fun passed => ?_⟩
    · rw [log]
      rintro _ (_ | ⟨_, ⟨⟩⟩)
      exact still_setSense _
    · rw [log]
      rintro o n (_ | ⟨_, ⟨⟩⟩)
    · rw [log]
      rintro other (_ | ⟨_, ⟨⟩⟩)
    · rw [ran.status] at passed
      cases passed
  | length range mismatch =>
    exact ⟨fun _ mem => (nomatch mem), fun _ _ mem => (nomatch mem), fun _ mem => (nomatch mem), .inl rfl,
      fun passed => (nomatch passed)⟩
  | passed range length taken ran =>
    have log : s'.log = [.ioControl (cmd ctx.cbw.blockOffset ctx.cbw.numberOfBlocks)] := ran.log
    refine ⟨?_, ?_, ?_, .inr ⟨_, rfl⟩, fun _ => ⟨range, taken, length, rfl⟩⟩
    · rw [log]
      rintro _ (_ | ⟨_, ⟨⟩⟩)
      exact still_ioControl _
    · rw [log]
      intro o n mem
      have same := Effect.ioControl.inj (List.mem_singleton.mp mem)
      obtain ⟨rfl, rfl⟩ := injective _ _ _ _ same
      exact ⟨rfl, rfl, range, length⟩
    · rw [log]
      intro other mem
      exact ⟨_, _, Effect.ioControl.inj (List.mem_singleton.mp mem)⟩
  | refused range length taken ran =>
    have log : s'.log =
        [.ioControl (cmd ctx.cbw.blockOffset ctx.cbw.numberOfBlocks), .setSense ⟨0x03, asc, 0⟩] := ran.log
    have only {other : IoCmd} (mem : .ioControl other ∈ s'.log) :
        other = cmd ctx.cbw.blockOffset ctx.cbw.numberOfBlocks := by
      rw [log] at mem
      rcases List.mem_cons.mp mem with same | later
      · exact Effect.ioControl.inj same
      · cases List.mem_singleton.mp later
    refine ⟨?_, ?_, ?_, .inr ⟨_, rfl⟩, fun passed => ?_⟩
    · rw [log]
      rintro _ (_ | ⟨_, _ | ⟨_, ⟨⟩⟩⟩)
      · exact still_ioControl _
      · exact still_setSense _
    · intro o n mem
      obtain ⟨rfl, rfl⟩ := injective _ _ _ _ (only mem)
      exact ⟨rfl, rfl, range, length⟩
    · intro other mem
      exact ⟨_, _, only mem⟩
    · rw [ran.status] at passed
      cases passed

theorem safe_of_read (apart : ¬Astray env ctx) (read : ctx.cbw.scsi = .read10)
    (ends : BlockEnds env ctx .getReadAddr (fun data length => ⟨data, .null, length, 0⟩) result s') :
    Safe env ctx (s'.log ++ [stage ctx.cbw s'.ctx.csw.status result]) := by
  have none : result.writeLength = 0 := by
    rcases ends.shape with rfl | ⟨_, rfl⟩ <;> rfl
  refine safe_of ends.still ?_ (block_lengths apart) ?_ ?_ (fun _ => none) fun write => ?_
  · rintro o n (mem | mem)
    · obtain ⟨rfl, rfl, range, length⟩ := ends.calls _ _ mem
      exact inMedium_of_not_wraps range fun high => apart (.sum (.inl read) range length high)
    · obtain ⟨_, _, same⟩ := ends.others _ mem
      cases same
  · intro passed some direction null
    obtain ⟨range, taken, length, rfl⟩ := ends.passed passed
    exact absurd (.read read range length some direction taken (pointer_null.mp null)) apart
  · intro _ _ _ _
    rw [none, zero_min]
  · rw [read] at write
    cases write

theorem safe_of_write (apart : ¬Astray env ctx) (write : ctx.cbw.scsi = .write10)
    (ends : BlockEnds env ctx .getWriteAddr (fun data length => ⟨.null, data, 0, length⟩) result s') :
    Safe env ctx (s'.log ++ [stage ctx.cbw s'.ctx.csw.status result]) := by
  have none : result.responseLength = 0 := by
    rcases ends.shape with rfl | ⟨_, rfl⟩ <;> rfl
  refine safe_of ends.still ?_ (block_lengths apart) ?_ ?_ (fun other => absurd write other) fun _ => none
  · rintro o n (mem | mem)
    · obtain ⟨_, _, same⟩ := ends.others _ mem
      cases same
    · obtain ⟨rfl, rfl, range, length⟩ := ends.calls _ _ mem
      exact inMedium_of_not_wraps range fun high => apart (.sum (.inr write) range length high)
  · intro _ _ _ _
    rw [none, zero_min]
  · intro passed some direction null
    obtain ⟨range, taken, length, rfl⟩ := ends.passed passed
    exact absurd (.write write range length some direction taken (pointer_null.mp null)) apart

theorem safe_of_not_astray (valid : ctx.cbw.signature = cbwSignature) (apart : ¬Astray env ctx) :
    Safe env ctx (effectsOf env ctx) := by
  obtain ⟨result, s', ends, effects⟩ := @effectsOf_run env ctx valid
  rw [effects]
  have neither {kind : Kind} (is : ctx.cbw.scsi.kind = kind) (other : kind ≠ .read ∧ kind ≠ .write) :
      ctx.cbw.scsi ≠ .read10 ∧ ctx.cbw.scsi ≠ .write10 :=
    ⟨fun read => other.1 (is.symm.trans (by rw [read]; rfl)),
      fun write => other.2 (is.symm.trans (by rw [write]; rfl))⟩
  cases ends with
  | silent kind => exact safe_of_calm .zero (fun _ mem => (nomatch mem)) (neither kind (by decide))
  | passing kind calm ran =>
    rw [ran.log]
    exact safe_of_calm calm (fun _ mem => (nomatch mem)) (neither kind (by decide))
  | sense kind calm _ ran =>
    rw [ran.log]
    refine safe_of_calm calm ?_ (neither kind (by decide))
    rintro _ (_ | ⟨_, ⟨⟩⟩)
    exact ⟨_, rfl⟩
  | inquiryPassed kind taken ran =>
    rw [ran.log]
    refine safe_of_inquiry apart (kind_inquiry kind) ?_ fun _ => taken
    rintro _ (_ | ⟨_, ⟨⟩⟩)
    exact .inl rfl
  | inquiryRefused kind refused ran =>
    rw [ran.log]
    refine safe_of_inquiry apart (kind_inquiry kind) ?_ fun passed => ?_
    · rintro _ (_ | ⟨_, _ | ⟨_, ⟨⟩⟩⟩)
      · exact .inl rfl
      · exact .inr ⟨_, rfl⟩
    · rw [ran.status] at passed
      cases passed
  | read kind run =>
    exact safe_of_read apart (kind_read kind)
      (blockEnds (fun _ _ _ _ same => IoCmd.getReadAddr.inj same) run)
  | write kind run =>
    exact safe_of_write apart (kind_write kind)
      (blockEnds (fun _ _ _ _ same => IoCmd.getWriteAddr.inj same) run)

end Verdict

section Astray

variable {env : Env} {ctx : Context} {s' : Storage} {result : CommandResult}

theorem ScsiRun.of_read (read : ctx.cbw.scsi = .read10) (run : ScsiRun env (begun ctx) result s') :
    BlockRun env (begun ctx) .getReadAddr 0x11 (fun data length => ⟨data, .null, length, 0⟩)
      (blockRequest ctx.cbw ctx.capacity) result s' := by
  have is : (begun ctx).ctx.cbw.scsi.kind = .read := (congrArg Scsi.kind read).trans rfl
  cases run with
  | read _ run => exact run
  | _ kind => cases is.symm.trans kind

theorem ScsiRun.of_write (write : ctx.cbw.scsi = .write10) (run : ScsiRun env (begun ctx) result s') :
    BlockRun env (begun ctx) .getWriteAddr 0x0C (fun data length => ⟨.null, data, 0, length⟩)
      (blockRequest ctx.cbw ctx.capacity) result s' := by
  have is : (begun ctx).ctx.cbw.scsi.kind = .write := (congrArg Scsi.kind write).trans rfl
  cases run with
  | write _ run => exact run
  | _ kind => cases is.symm.trans kind

theorem BlockRun.calls {cmd : UInt32 → UInt32 → IoCmd} {asc : UInt8} {fill : Pointer → UInt32 → CommandResult}
    (run : BlockRun env (begun ctx) cmd asc fill (blockRequest ctx.cbw ctx.capacity) result s')
    (range : (blockRequest ctx.cbw ctx.capacity).InRange ctx.capacity)
    (length : ctx.cbw.dataLength = (blockRequest ctx.cbw ctx.capacity).transferLength) :
    .ioControl (cmd ctx.cbw.blockOffset ctx.cbw.numberOfBlocks) ∈ s'.log := by
  cases run with
  | range out _ => exact absurd range out
  | length _ mismatch => exact absurd length mismatch
  | passed _ _ _ ran =>
    rw [ran.log]
    exact List.mem_cons_self
  | refused _ _ _ ran =>
    rw [ran.log]
    exact List.mem_cons_self

theorem BlockRun.passes {cmd : UInt32 → UInt32 → IoCmd} {asc : UInt8} {fill : Pointer → UInt32 → CommandResult}
    (run : BlockRun env (begun ctx) cmd asc fill (blockRequest ctx.cbw ctx.capacity) result s')
    (range : (blockRequest ctx.cbw ctx.capacity).InRange ctx.capacity)
    (length : ctx.cbw.dataLength = (blockRequest ctx.cbw ctx.capacity).transferLength)
    (taken : (env.io (cmd ctx.cbw.blockOffset ctx.cbw.numberOfBlocks)).ok = true) :
    s'.ctx.csw.status = .passed ∧ result = fill (env.io (cmd ctx.cbw.blockOffset ctx.cbw.numberOfBlocks)).pointer
      (blockRequest ctx.cbw ctx.capacity).transferLength := by
  cases run with
  | range out _ => exact absurd range out
  | length _ mismatch => exact absurd length mismatch
  | passed _ _ _ ran => exact ⟨ran.status, rfl⟩
  | refused _ _ refused _ => cases taken.symm.trans refused

variable {a b : UInt32}

theorem min_self_of_eq (same : b = a) : min a b = b := by
  rw [UInt32.min_def, same]
  exact if_pos UInt32.le_rfl

theorem min_ne_zero (a_some : a ≠ 0) (b_some : b ≠ 0) : min a b ≠ 0 := by
  rw [UInt32.min_def]
  split
  · exact a_some
  · exact b_some

theorem not_safe_of_astray (valid : ctx.cbw.signature = cbwSignature) (astray : Astray env ctx) :
    ¬Safe env ctx (effectsOf env ctx) := by
  obtain ⟨result, s', ends, effects⟩ := @effectsOf_run env ctx valid
  rw [effects]
  intro safe
  cases astray with
  | sum block range length high =>
    rcases block with read | write
    · have call := (ends.of_read read).calls range length
      exact wraps_of_not_inMedium high (safe.inMedium _ _ (.inl (List.mem_append_left _ call)))
    · have call := (ends.of_write write).calls range length
      exact wraps_of_not_inMedium high (safe.inMedium _ _ (.inr (List.mem_append_left _ call)))
  | product block range high => exact not_product_of_wraps high (safe.lengths block range)
  | read read range length some direction taken none =>
    obtain ⟨passed, rfl⟩ := (ends.of_read read).passes range length taken
    have sent : stage ctx.cbw s'.ctx.csw.status
        ⟨(env.io (.getReadAddr ctx.cbw.blockOffset ctx.cbw.numberOfBlocks)).pointer, .null,
        (blockRequest ctx.cbw ctx.capacity).transferLength, 0⟩ = .send .null ctx.cbw.dataLength := by
      rw [stage, if_pos passed, if_neg some, if_pos direction, pointer_null.mpr none, min_self_of_eq length]
    refine some (safe.pointed _ (.inl (List.mem_append_right _ ?_)))
    rw [sent]
    exact List.mem_cons_self
  | write write range length some direction taken none =>
    obtain ⟨passed, rfl⟩ := (ends.of_write write).passes range length taken
    have received : stage ctx.cbw s'.ctx.csw.status ⟨.null,
        (env.io (.getWriteAddr ctx.cbw.blockOffset ctx.cbw.numberOfBlocks)).pointer, 0,
        (blockRequest ctx.cbw ctx.capacity).transferLength⟩ = .receive .null ctx.cbw.dataLength := by
      rw [stage, if_pos passed, if_neg some, direction, if_neg Bool.false_ne_true, pointer_null.mpr none,
        min_self_of_eq length]
    refine some (safe.pointed _ (.inr (List.mem_append_right _ ?_)))
    rw [received]
    exact List.mem_cons_self
  | inquiry inquiry some direction taken none length =>
    have is : (begun ctx).ctx.cbw.scsi.kind = .inquiry := (congrArg Scsi.kind inquiry).trans rfl
    cases ends with
    | inquiryPassed _ _ ran =>
      have sent : stage ctx.cbw s'.ctx.csw.status ⟨(env.io .inquiry).pointer, .null, (env.io .inquiry).length, 0⟩ =
          .send .null (min (env.io .inquiry).length ctx.cbw.dataLength) := by
        rw [stage, if_pos ran.status, if_neg some, if_pos direction, pointer_null.mpr none]
      refine min_ne_zero length some (safe.pointed _ (.inl (List.mem_append_right _ ?_)))
      rw [sent]
      exact List.mem_cons_self
    | inquiryRefused _ refused _ => cases taken.symm.trans refused
    | _ kind => cases is.symm.trans kind

end Astray

/-- A valid command block stays inside the medium unless its request or the reply to it is astray. -/
theorem requests_safe_iff (env : Env) (ctx : Context) (valid : ctx.cbw.signature = cbwSignature) :
    Safe env ctx (effectsOf env ctx) ↔ ¬Astray env ctx :=
  ⟨fun safe astray => not_safe_of_astray valid astray safe, safe_of_not_astray valid⟩

/-- READ(10) of one block at the last address. -/
def lastBlock : Context :=
  ⟨.waitCbw, .zero, fun _ => 0, ⟨cbwSignature, 1, 512, botIn,
    .ofFn fun k => if k = 0 then 0x28 else if k = 8 then 1 else if k.val ∈ [2, 3, 4, 5] then 0xFF else 0⟩,
    ⟨0, 0, 0, .failed⟩, ⟨1000, 512⟩⟩

theorem requests_safe_iff_sample : Safe ⟨fun _ => ⟨true, none, 0⟩, none, fun _ => true⟩ lastBlock
    (effectsOf ⟨fun _ => ⟨true, none, 0⟩, none, fun _ => true⟩ lastBlock) ↔
    ¬Astray ⟨fun _ => ⟨true, none, 0⟩, none, fun _ => true⟩ lastBlock :=
  requests_safe_iff _ lastBlock rfl

/-- The sum of its address and its count wraps, and the application is asked for a block past the end. -/
theorem last_block_astray : ¬∀ env ctx, ctx.cbw.signature = cbwSignature → Safe env ctx (effectsOf env ctx) := by
  intro all
  have safe := all ⟨fun _ => ⟨true, some 0, 0⟩, none, fun _ => true⟩ lastBlock rfl
  exact not_safe_of_astray rfl (.sum (.inl (by decide)) (by decide) (by decide) (by decide)) safe

end XSDK.Usbd.Msc
