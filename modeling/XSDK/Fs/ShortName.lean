import XSDK.Fs.Directory

/-! The 8.3 names: which components have one, and what a listing makes of it. -/
namespace XSDK.Fs

variable (s : PathString)

def upperCased : PathString := s.map pathAsciiToUpper

/-- Every character may stand in a short name. -/
abbrev Allowed (cs : PathString) : Prop := ∀ c ∈ cs, pathIsValidSfnChar c = true

/-- One to eight characters, with a dot and up to three more after them at most. -/
def IsShortName : Prop :=
  ∃ name rest, s = name ++ rest ∧ 1 ≤ name.length ∧ name.length ≤ 8 ∧ Allowed name ∧
    (rest = [] ∨ ∃ ext, rest = pathDot :: ext ∧ ext.length ≤ 3 ∧ Allowed ext)

def withoutTrailingDot : PathString :=
  if s.getLast? = some pathDot then s.dropLast else s

theorem forall_char {P : UInt8 → Prop} (h : ∀ n : Fin 256, P (UInt8.ofNat n)) (c : UInt8) : P c := by
  have hc := h ⟨c.toNat, c.toNat_lt⟩
  rwa [UInt8.ofNat_toNat] at hc

theorem allowed_upper : ∀ c : UInt8, pathIsValidSfnChar c = true → pathAsciiToUpper c = c :=
  forall_char (by decide +kernel)

theorem allowed_ne_dot : ∀ c : UInt8, pathIsValidSfnChar c = true → c ≠ pathDot :=
  forall_char (by decide +kernel)

theorem allowed_ne_space : ∀ c : UInt8, pathIsValidSfnChar c = true → c ≠ 0x20 :=
  forall_char (by decide +kernel)

variable {cs : PathString}

theorem Allowed.snoc {c : UInt8} (h : Allowed cs) (hc : pathIsValidSfnChar c = true) : Allowed (cs ++ [c]) := by
  intro x hx
  rcases List.mem_append.mp hx with hx | hx
  · exact h x hx
  · rw [List.mem_singleton.mp hx]
    exact hc

theorem Allowed.upperCased (h : Allowed cs) : upperCased cs = cs := by
  induction cs with
  | nil => rfl
  | cons c rest ih =>
    have hc := allowed_upper c (h c List.mem_cons_self)
    have hr := ih fun x hx => h x (List.mem_cons_of_mem c hx)
    simp only [XSDK.Fs.upperCased, List.map_cons] at hr ⊢
    rw [hc, hr]

theorem Allowed.last (h : Allowed cs) : cs.getLast? ≠ some pathDot := by
  intro hlast
  exact allowed_ne_dot _ (h _ (List.mem_of_getLast? hlast)) rfl

/-- What the characters read so far amount to. -/
structure SfnParts where
  name : PathString
  extension : Option PathString
  name_length : name.length ≤ 8
  extension_length : (extension.getD []).length ≤ 3
  name_allowed : Allowed name
  extension_allowed : Allowed (extension.getD [])
  named : extension.isSome = true → name ≠ []

namespace SfnParts

def start : SfnParts where
  name := []
  extension := none
  name_length := Nat.zero_le 8
  extension_length := Nat.zero_le 3
  name_allowed := nofun
  extension_allowed := nofun
  named := nofun

def suffix : Option PathString → PathString
  | none => []
  | some ext => pathDot :: ext

variable (p : SfnParts)

def spelling : PathString := p.name ++ suffix p.extension

def sfn : Sfn := fun i =>
  if i.val < 8 then p.name.getD i.val 0x20 else (p.extension.getD []).getD (i.val - 8) 0x20

def state : SfnState :=
  ⟨p.sfn, p.name.length, (p.extension.getD []).length, p.extension.isSome⟩

variable (c : UInt8)

def addName (room : p.name.length < 8) (hc : pathIsValidSfnChar c = true) : SfnParts :=
  { p with
    name := p.name ++ [c]
    name_length := by
      rw [List.length_append]
      exact room
    name_allowed := p.name_allowed.snoc hc
    named := fun _ => by simp }

def addDot (h : p.name ≠ []) : SfnParts :=
  { p with
    extension := some []
    extension_length := Nat.zero_le 3
    extension_allowed := nofun
    named := fun _ => h }

def addExtension (ext : PathString) (c : UInt8) (hp : p.extension = some ext) (room : ext.length < 3)
    (hc : pathIsValidSfnChar c = true) : SfnParts :=
  { p with
    extension := some (ext ++ [c])
    extension_length := by
      rw [Option.getD_some, List.length_append]
      exact room
    extension_allowed := by
      have h := p.extension_allowed
      rw [hp] at h
      exact Allowed.snoc h hc
    named := fun _ => p.named (by rw [hp]; rfl) }

theorem getD_snoc (cs : PathString) (c : UInt8) (i : Nat) :
    (cs ++ [c]).getD i 0x20 = if i = cs.length then c else cs.getD i 0x20 := by
  simp only [List.getD_eq_getElem?_getD]
  rcases Nat.lt_trichotomy i cs.length with h | h | h
  · rw [if_neg (Nat.ne_of_lt h), List.getElem?_append_left h]
  · rw [if_pos h, h]
    simp
  · have hlong : (cs ++ [c]).length ≤ i := by
      rw [List.length_append]
      exact h
    rw [if_neg (Nat.ne_of_gt h), List.getElem?_eq_none hlong, List.getElem?_eq_none (Nat.le_of_lt h)]

theorem step_name (plain : p.extension = none) (room : p.name.length < 8)
    (hc : pathIsValidSfnChar (pathAsciiToUpper c) = true) :
    pathSfnStep p.state c = some (p.addName (pathAsciiToUpper c) room hc).state := by
  have hdot := allowed_ne_dot _ hc
  have hflag : p.state.inExtension = false := by simp [state, plain]
  have hroom : p.state.nameIndex < 8 := room
  simp only [pathSfnStep, if_neg hdot, hc, hflag, dif_pos hroom, if_true, Bool.true_eq_false, if_false]
  congr 1
  simp only [state, addName, SfnState.mk.injEq, List.length_append, List.length_singleton]
  constructor
  · funext i
    simp only [sfn, Function.update_apply, Fin.ext_iff]
    by_cases hi : i.val < 8
    · simp only [if_pos hi, getD_snoc]
    · have : i.val ≠ p.name.length := by omega
      simp only [if_neg hi, if_neg this]
  · simp [plain]

theorem step_dot (plain : p.extension = none) (named : p.name ≠ [])
    (hc : pathAsciiToUpper c = pathDot) : pathSfnStep p.state c = some (p.addDot named).state := by
  have hopen : ¬(p.state.inExtension = true ∨ p.state.nameIndex = 0) := by
    simp [state, plain, named]
  simp only [pathSfnStep, if_pos hc, if_neg hopen]
  congr 1
  simp only [state, addDot, plain, SfnState.mk.injEq, Option.getD_none, Option.getD_some, Option.isSome_some, and_true]
  funext i
  simp [sfn, plain]

theorem step_extension (ext : PathString)
    (hp : p.extension = some ext) (room : ext.length < 3) (hc : pathIsValidSfnChar (pathAsciiToUpper c) = true) :
    pathSfnStep p.state c = some (p.addExtension ext (pathAsciiToUpper c) hp room hc).state := by
  have hdot := allowed_ne_dot _ hc
  have hflag : p.state.inExtension = true := by simp [state, hp]
  have hroom : p.state.extIndex < 3 := by simpa [state, hp] using room
  simp only [pathSfnStep, if_neg hdot, hc, hflag, dif_pos hroom, Bool.true_eq_false, if_false]
  congr 1
  simp only [state, addExtension, hp, SfnState.mk.injEq, Option.getD_some, List.length_append, List.length_singleton,
    Option.isSome_some, and_true]
  funext i
  simp only [sfn, hp, Option.getD_some, Function.update_apply, Fin.ext_iff, getD_snoc]
  by_cases hi : i.val < 8
  · have : i.val ≠ 8 + ext.length := by omega
    simp only [if_pos hi, if_neg this]
  · by_cases hlast : i.val = 8 + ext.length
    · have : i.val - 8 = ext.length := by omega
      simp only [if_pos hlast, if_neg hi, if_pos this]
    · have : i.val - 8 ≠ ext.length := by omega
      simp only [if_neg hlast, if_neg hi, if_neg this]

theorem step_taken {after : SfnState} (h : pathSfnStep p.state c = some after) :
    ∃ q : SfnParts, q.state = after ∧ q.spelling = p.spelling ++ [pathAsciiToUpper c] := by
  by_cases hdot : pathAsciiToUpper c = pathDot
  · by_cases hopen : p.state.inExtension = true ∨ p.state.nameIndex = 0
    · simp only [pathSfnStep, if_pos hdot, if_pos hopen] at h
      exact nomatch h
    · obtain ⟨hflag, hindex⟩ := not_or.mp hopen
      have plain : p.extension = none := by simpa [state] using hflag
      have named : p.name ≠ [] := fun hn => hindex (by simp [state, hn])
      rw [step_dot p c plain named hdot] at h
      exact ⟨_, Option.some.inj h, by simp [spelling, addDot, suffix, plain, hdot]⟩
  · by_cases hc : pathIsValidSfnChar (pathAsciiToUpper c) = true
    · cases hp : p.extension with
      | none =>
        by_cases room : p.name.length < 8
        · rw [step_name p c hp room hc] at h
          exact ⟨_, Option.some.inj h, by simp [spelling, addName, suffix, hp]⟩
        · have hfull : ¬p.state.nameIndex < 8 := room
          have hflag : p.state.inExtension = false := by simp [state, hp]
          simp only [pathSfnStep, if_neg hdot, hc, hflag, dif_neg hfull, if_true, Bool.true_eq_false, if_false] at h
          exact nomatch h
      | some ext =>
        by_cases room : ext.length < 3
        · rw [step_extension p c ext hp room hc] at h
          exact ⟨_, Option.some.inj h, by simp [spelling, addExtension, suffix, hp]⟩
        · have hfull : ¬p.state.extIndex < 3 := by simpa [state, hp] using room
          have hflag : p.state.inExtension = true := by simp [state, hp]
          simp only [pathSfnStep, if_neg hdot, hc, hflag, dif_neg hfull, Bool.true_eq_false, if_false] at h
          exact nomatch h
    · simp only [pathSfnStep, if_neg hdot, Bool.eq_false_iff.mpr hc, if_true] at h
      exact nomatch h

theorem spelling_snoc (q : SfnParts) (front : PathString) (c : UInt8) (h : q.spelling = front ++ [pathAsciiToUpper c]) :
    ∃ p : SfnParts, p.spelling = front ∧ pathSfnStep p.state c = some q.state := by
  obtain ⟨name, extension, hname, hext, allowed, allowedExt, named⟩ := q
  cases extension with
  | none =>
    have hsplit : name = front ++ [pathAsciiToUpper c] := by simpa [spelling, suffix] using h
    have hroom : front.length < 8 := by
      rw [hsplit, List.length_append] at hname
      exact hname
    have hfront : Allowed front := fun x hx => allowed x (by rw [hsplit]; exact List.mem_append_left _ hx)
    have hlast : pathIsValidSfnChar (pathAsciiToUpper c) = true := allowed _ (by rw [hsplit]; simp)
    let p : SfnParts := ⟨front, none, Nat.le_of_lt hroom, hext, hfront, allowedExt, fun h => (nomatch h)⟩
    refine ⟨p, by simp [p, spelling, suffix], ?_⟩
    rw [step_name p c rfl hroom hlast]
    subst hsplit
    rfl
  | some ext =>
    have hnamed : name ≠ [] := named rfl
    rcases List.eq_nil_or_concat' ext with hnil | ⟨init, last, hcat⟩
    · subst hnil
      have hsplit : name ++ [pathDot] = front ++ [pathAsciiToUpper c] := by simpa [spelling, suffix] using h
      obtain ⟨hfront, hlast⟩ := List.append_inj' hsplit rfl
      let p : SfnParts := ⟨name, none, hname, Nat.zero_le 3, allowed, fun _ h => (nomatch h), fun h => (nomatch h)⟩
      refine ⟨p, by simp [p, spelling, suffix, hfront], ?_⟩
      rw [step_dot p c rfl hnamed (List.singleton_inj.mp hlast).symm]
      rfl
    · subst hcat
      have hsplit : (name ++ pathDot :: init) ++ [last] = front ++ [pathAsciiToUpper c] := by
        simpa [spelling, suffix] using h
      obtain ⟨hfront, hlast⟩ := List.append_inj' hsplit rfl
      have hroom : init.length < 3 := by
        rw [Option.getD_some, List.length_append] at hext
        exact hext
      have hinit : Allowed init := fun x hx => allowedExt x (List.mem_append_left _ hx)
      have heq : pathAsciiToUpper c = last := (List.singleton_inj.mp hlast).symm
      have hvalid : pathIsValidSfnChar (pathAsciiToUpper c) = true := by
        rw [heq]
        exact allowedExt last (List.mem_append_right _ List.mem_cons_self)
      let p : SfnParts := ⟨name, some init, hname, Nat.le_of_lt hroom, allowed, hinit, named⟩
      refine ⟨p, by simp [p, spelling, suffix, hfront], ?_⟩
      rw [step_extension p c init rfl hroom hvalid]
      subst heq
      rfl

theorem run_iff (s : PathString) (after : SfnState) :
    s.foldlM pathSfnStep start.state = some after ↔ ∃ q : SfnParts, q.state = after ∧ q.spelling = upperCased s := by
  induction s using List.reverseRecOn generalizing after with
  | nil =>
    constructor
    · intro h
      exact ⟨start, Option.some.inj h, rfl⟩
    · rintro ⟨q, rfl, h⟩
      obtain ⟨hname, hext⟩ := List.append_eq_nil_iff.mp h
      obtain ⟨name, extension, _, _, _, _, named⟩ := q
      cases extension with
      | none =>
        cases hname
        rfl
      | some ext => exact absurd hname (named rfl)
  | append_singleton s c ih =>
    have hupper : upperCased (s ++ [c]) = upperCased s ++ [pathAsciiToUpper c] := by simp [upperCased]
    constructor
    · intro h
      rw [List.foldlM_append] at h
      obtain ⟨mid, hmid, hlast⟩ := Option.bind_eq_some_iff.mp h
      obtain ⟨p, rfl, hp⟩ := (ih mid).mp hmid
      obtain ⟨q, hq, hspell⟩ := step_taken p c (by simpa using hlast)
      exact ⟨q, hq, by rw [hspell, hp, hupper]⟩
    · rintro ⟨q, rfl, h⟩
      rw [hupper] at h
      obtain ⟨p, hp, hstep⟩ := spelling_snoc q _ c h
      rw [List.foldlM_append, (ih p.state).mpr ⟨p, rfl, hp⟩]
      simpa using hstep

theorem pathToSfn_iff (sfn : Sfn) :
    pathToSfn s = some sfn ↔ ∃ q : SfnParts, q.name ≠ [] ∧ q.spelling = upperCased s ∧ q.sfn = sfn := by
  have hstart : (⟨fun _ => 0x20, 0, 0, false⟩ : SfnState) = start.state := by
    simp only [state, SfnState.mk.injEq]
    refine ⟨?_, rfl, rfl, rfl⟩
    funext i
    simp [SfnParts.sfn, start]
  unfold pathToSfn
  rw [hstart]
  cases hrun : s.foldlM pathSfnStep start.state with
  | none =>
    constructor
    · exact nofun
    · rintro ⟨q, -, hq, -⟩
      rw [(run_iff s q.state).mpr ⟨q, rfl, hq⟩] at hrun
      exact nomatch hrun
  | some after =>
    obtain ⟨q, hq, hspell⟩ := (run_iff s after).mp hrun
    subst hq
    by_cases hempty : q.name = []
    · have hbad : s = [] ∨ q.state.nameIndex = 0 := .inr (by simp [state, hempty])
      simp only [if_pos hbad]
      constructor
      · exact nofun
      · rintro ⟨r, hr, hspell', -⟩
        have hrun' := (run_iff s r.state).mpr ⟨r, rfl, hspell'⟩
        rw [hrun] at hrun'
        have hlength : q.name.length = r.name.length := congrArg SfnState.nameIndex (Option.some.inj hrun')
        rw [hempty] at hlength
        exact absurd (List.length_eq_zero_iff.mp hlength.symm) hr
    · have hgood : ¬(s = [] ∨ q.state.nameIndex = 0) := by
        rintro (rfl | hzero)
        · exact hempty (List.append_eq_nil_iff.mp hspell).1
        · exact hempty (List.length_eq_zero_iff.mp hzero)
      simp only [if_neg hgood]
      constructor
      · intro h
        exact ⟨q, hempty, hspell, Option.some.inj h⟩
      · rintro ⟨r, -, hspell', rfl⟩
        have hrun' := (run_iff s r.state).mpr ⟨r, rfl, hspell'⟩
        rw [hrun] at hrun'
        exact congrArg (fun st => some st.sfn) (Option.some.inj hrun')

/-- What a listing shows: a dot only before an extension that has characters. -/
def listing : PathString :=
  if p.extension.getD [] = [] then p.name else p.name ++ pathDot :: p.extension.getD []

def plain : SfnParts :=
  { p with
    extension := if p.extension.getD [] = [] then none else p.extension
    extension_length := by
      split
      · exact Nat.zero_le 3
      · exact p.extension_length
    extension_allowed := by
      split
      · exact nofun
      · exact p.extension_allowed
    named := by
      split
      · exact nofun
      · exact p.named }

theorem plain_getD : p.plain.extension.getD [] = p.extension.getD [] := by
  by_cases h : p.extension.getD [] = []
  · rw [plain]
    simp only [if_pos h]
    rw [h]
    rfl
  · rw [plain]
    simp only [if_neg h]

theorem plain_sfn : p.plain.sfn = p.sfn := by
  funext i
  simp only [sfn, plain_getD]
  rfl

theorem plain_spelling : p.plain.spelling = p.listing := by
  cases hp : p.extension with
  | none => simp [spelling, listing, plain, suffix, hp]
  | some ext =>
    by_cases h : ext = []
    · simp [spelling, listing, plain, suffix, hp, h]
    · simp [spelling, listing, plain, suffix, hp, h]

theorem listing_trimmed : p.listing = withoutTrailingDot p.spelling := by
  cases hp : p.extension with
  | none =>
    have hlast := p.name_allowed.last
    simp [listing, spelling, suffix, withoutTrailingDot, hp, hlast]
  | some ext =>
    by_cases h : ext = []
    · simp [listing, spelling, suffix, withoutTrailingDot, hp, h]
    · have hext : Allowed ext := by
        have := p.extension_allowed
        rwa [hp] at this
      have hlast : (p.name ++ pathDot :: ext).getLast? ≠ some pathDot := by
        rw [List.getLast?_append_cons, List.getLast?_cons_of_ne_nil h]
        exact hext.last
      simp only [listing, spelling, suffix, withoutTrailingDot, hp, Option.getD_some, if_neg h, if_neg hlast]

theorem listing_upper : upperCased p.listing = p.listing := by
  have hname := p.name_allowed.upperCased
  have hext := p.extension_allowed.upperCased
  by_cases h : p.extension.getD [] = []
  · simp only [listing, if_pos h, hname]
  · simp only [upperCased] at hname hext
    simp only [listing, if_neg h, upperCased, List.map_append, List.map_cons, hname, hext]
    rfl

def field (width : Nat) (cs : PathString) : List UInt8 := cs ++ List.replicate (width - cs.length) 0x20

theorem trim_field (width : Nat) (h : Allowed cs) : ((field width cs).rdropWhile fun c => c == 0x20) = cs := by
  have hself : (cs.rdropWhile fun c => c == 0x20) = cs := by
    rw [List.rdropWhile_eq_self_iff]
    intro hne hspace
    exact allowed_ne_space _ (h _ (List.getLast_mem hne)) (by simpa using hspace)
  unfold field
  generalize width - cs.length = n
  induction n with
  | zero => rwa [List.replicate_zero, List.append_nil]
  | succ n ih => rw [List.replicate_succ', ← List.append_assoc, List.rdropWhile_concat_pos _ _ _ (by simp), ih]

theorem length_field {width : Nat} (h : cs.length ≤ width) : (field width cs).length = width := by
  simp [field, h]

theorem getElem?_field {width : Nat} {i : Nat} (hi : i < width) (h : cs.length ≤ width) :
    (field width cs)[i]? = some (cs.getD i 0x20) := by
  rw [field, List.getD_eq_getElem?_getD]
  by_cases hlt : i < cs.length
  · rw [List.getElem?_append_left hlt, List.getElem?_eq_getElem hlt]
    rfl
  · have hge := Nat.le_of_not_lt hlt
    rw [List.getElem?_append_right hge, List.getElem?_eq_none hge]
    simp only [List.getElem?_replicate, Option.getD_none]
    rw [if_pos (by omega)]

theorem ofFn_sfn : List.ofFn p.sfn = field 8 p.name ++ field 3 (p.extension.getD []) := by
  apply List.ext_getElem?
  intro i
  rw [List.getElem?_ofFn]
  by_cases hname : i < 8
  · have hlt : i < 11 := by omega
    rw [List.getElem?_append_left (by rw [length_field p.name_length]; exact hname), getElem?_field hname p.name_length]
    simp [sfn, directoryNameLength, hlt, hname]
  · rw [List.getElem?_append_right (by rw [length_field p.name_length]; omega), length_field p.name_length]
    by_cases hext : i < 11
    · rw [getElem?_field (by omega) p.extension_length]
      simp [sfn, directoryNameLength, hext, hname]
    · rw [List.getElem?_eq_none (by rw [length_field p.extension_length]; omega)]
      simp [directoryNameLength, hext]

theorem directorySfnToName_sfn : directorySfnToName p.sfn = p.listing := by
  have hlength := length_field (p.name_length)
  simp only [directorySfnToName, ofFn_sfn, List.take_left' hlength, List.drop_left' hlength,
    trim_field 8 p.name_allowed, trim_field 3 p.extension_allowed]
  rfl

theorem listing_to_sfn (named : p.name ≠ []) : pathToSfn p.listing = some p.sfn := by
  rw [pathToSfn_iff]
  exact ⟨p.plain, named, by rw [plain_spelling, listing_upper], plain_sfn p⟩

theorem isShortName_iff (s : PathString) : IsShortName s ↔ ∃ p : SfnParts, p.name ≠ [] ∧ p.spelling = s := by
  constructor
  · rintro ⟨name, rest, rfl, hpos, hname, allowed, rfl | ⟨ext, rfl, hext, allowedExt⟩⟩
    · exact ⟨⟨name, none, hname, Nat.zero_le 3, allowed, fun _ h => (nomatch h), fun h => (nomatch h)⟩,
        List.length_pos_iff.mp hpos, rfl⟩
    · have hne : name ≠ [] := List.length_pos_iff.mp hpos
      exact ⟨⟨name, some ext, hname, hext, allowed, allowedExt, fun _ => hne⟩, hne, rfl⟩
  · rintro ⟨⟨name, extension, hname, hext, allowed, allowedExt, _⟩, hne, rfl⟩
    refine ⟨name, suffix extension, rfl, List.length_pos_iff.mpr hne, hname, allowed, ?_⟩
    cases extension with
    | none => exact .inl rfl
    | some ext => exact .inr ⟨ext, rfl, hext, allowedExt⟩

end SfnParts

/-- Which components have a short name, what it lists as, and when two components share one. -/
theorem short_name_codec :
    (∀ s, (pathToSfn s).isSome = true ↔ IsShortName (upperCased s)) ∧
      (∀ s sfn, pathToSfn s = some sfn →
        directorySfnToName sfn = withoutTrailingDot (upperCased s) ∧ pathToSfn (directorySfnToName sfn) = some sfn) ∧
      (∀ s t a b, pathToSfn s = some a → pathToSfn t = some b →
        (a = b ↔ withoutTrailingDot (upperCased s) = withoutTrailingDot (upperCased t))) := by
  have listed : ∀ s sfn, pathToSfn s = some sfn →
      directorySfnToName sfn = withoutTrailingDot (upperCased s) ∧ pathToSfn (directorySfnToName sfn) = some sfn := by
    intro s sfn h
    obtain ⟨p, hname, hspell, rfl⟩ := (SfnParts.pathToSfn_iff s sfn).mp h
    rw [p.directorySfnToName_sfn, ← hspell]
    exact ⟨p.listing_trimmed, p.listing_to_sfn hname⟩
  refine ⟨fun s => ?_, listed, fun s t a b ha hb => ?_⟩
  · rw [SfnParts.isShortName_iff, Option.isSome_iff_exists]
    constructor
    · rintro ⟨sfn, h⟩
      obtain ⟨p, hname, hspell, -⟩ := (SfnParts.pathToSfn_iff s sfn).mp h
      exact ⟨p, hname, hspell⟩
    · rintro ⟨p, hname, hspell⟩
      exact ⟨p.sfn, (SfnParts.pathToSfn_iff s p.sfn).mpr ⟨p, hname, hspell, rfl⟩⟩
  · obtain ⟨nameA, backA⟩ := listed s a ha
    obtain ⟨nameB, backB⟩ := listed t b hb
    rw [← nameA, ← nameB]
    constructor
    · intro h
      rw [h]
    · intro h
      rw [h, backB] at backA
      exact (Option.some.inj backA).symm

example : (pathToSfn [0x61, 0x2E]).map directorySfnToName = some [0x41] := by decide

end XSDK.Fs
