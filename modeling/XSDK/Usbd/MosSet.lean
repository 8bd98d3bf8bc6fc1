import XSDK.Usbd.MosDescriptor

/-! The descriptor set that the builder leaves is the classes' set, as long as no size slips
through its check. -/
namespace XSDK.Usbd

open Library
open List (append_assoc flatMap_cons length_append sum_append sum_cons sum_singleton)

/-! ### The walk over the classes -/

/-- A size of 16 bits or more, with the ones in front of it within the buffer, passes the check. -/
def Slips : Nat → List Nat → Prop
  | _, [] => False
  | offset, size :: rest =>
    (2 ^ 16 ≤ size ∧ offset + size % 2 ^ 16 ≤ maxMos2DescriptorSize) ∨ Slips (offset + size) rest

theorem slips_iff {sizes : List Nat} {offset : Nat} : Slips offset sizes ↔
    ∃ before size after, sizes = before ++ size :: after ∧ 2 ^ 16 ≤ size ∧
      offset + before.sum + size % 2 ^ 16 ≤ maxMos2DescriptorSize := by
  induction sizes generalizing offset with
  | nil =>
    refine ⟨False.elim, ?_⟩
    rintro ⟨before, size, after, none, -⟩
    exact absurd none (by simp)
  | cons head rest ih =>
    rw [Slips, ih]
    constructor
    · rintro (⟨large, small⟩ | ⟨before, size, after, rfl, large, small⟩)
      · exact ⟨[], head, rest, rfl, large, small⟩
      · refine ⟨head :: before, size, after, rfl, large, ?_⟩
        rw [sum_cons]
        omega
    · rintro ⟨before, size, after, same, large, small⟩
      cases before with
      | nil =>
        cases same
        exact .inl ⟨large, small⟩
      | cons first before =>
        cases same
        rw [sum_cons] at small
        exact .inr ⟨before, size, after, rfl, large, by omega⟩

theorem not_slips_of_full {sizes : List Nat} {offset : Nat} (full : maxMos2DescriptorSize < offset) :
    ¬Slips offset sizes := by
  rw [slips_iff]
  rintro ⟨before, size, after, -, -, small⟩
  omega

theorem slips_append {s₁ s₂ : List Nat} {offset : Nat} :
    Slips offset (s₁ ++ s₂) ↔ Slips offset s₁ ∨ Slips (offset + s₁.sum) s₂ := by
  induction s₁ generalizing offset with
  | nil => simp [Slips]
  | cons size rest ih =>
    rw [List.cons_append, Slips, Slips, ih, sum_cons, Nat.add_assoc]
    tauto

def bufferOf : Except Stores MosState → Stores
  | .ok x => x.buffer
  | .error b => b

section Walk

open Stores

variable {x : MosState} {r : Except Stores MosState} {s₁ s₂ sizes : List Nat} {l l' : Bytes}
  {P Q : MosState → Prop} {f : MosState → Except Stores MosState}

/-- How steps with these sizes end: with the bytes behind what was there, at the end of the buffer,
or past it. -/
inductive Outcome (P : MosState → Prop) (x : MosState) (sizes : List Nat) (l : Bytes) : Except Stores MosState → Prop
  | placed (x' : MosState) (none : ¬Slips x.offset sizes) (room : x.offset + sizes.sum ≤ maxMos2DescriptorSize)
      (lays : Lays x.buffer x'.buffer x.offset l) (offset : x'.offset = x.offset + sizes.sum) (also_ : P x') :
      Outcome P x sizes l (.ok x')
  | full (b : Stores) (none : ¬Slips x.offset sizes) (large : maxMos2DescriptorSize < x.offset + sizes.sum)
      (within : x.buffer.Within maxMos2DescriptorSize → b.Within maxMos2DescriptorSize) :
      Outcome P x sizes l (.error b)
  | slipped (r : Except Stores MosState) (slips : Slips x.offset sizes)
      (overrun : ¬(bufferOf r).Within maxMos2DescriptorSize) : Outcome P x sizes l r

theorem Outcome.bind (first : Outcome P x s₁ l r) (length : l.length = s₁.sum)
    (second : ∀ x', P x' → x'.offset = x.offset + s₁.sum → x'.offset ≤ maxMos2DescriptorSize →
      Outcome Q x' s₂ l' (f x'))
    (grows : ∀ x', Grows x'.buffer (bufferOf (f x'))) : Outcome Q x (s₁ ++ s₂) (l ++ l') (r >>= f) := by
  cases first with
  | placed x' none room lays offset property =>
    have next := second x' property offset (offset ▸ room)
    change Outcome Q x (s₁ ++ s₂) (l ++ l') (f x')
    cases next' : f x' with
    | ok x'' =>
      rw [next'] at next
      cases next with
      | placed _ none' room' lays' offset' property' =>
        rw [offset] at none' room' lays' offset'
        refine .placed x'' ?_ ?_ (lays.follow lays' (by rw [length])) ?_ property'
        · rw [slips_append]
          exact fun slips => slips.elim none none'
        · rw [sum_append]
          omega
        · rw [sum_append]
          omega
      | slipped _ slips overrun =>
        refine .slipped _ ?_ overrun
        rw [slips_append, ← offset]
        exact .inr slips
    | error b =>
      rw [next'] at next
      cases next with
      | full _ none' large within =>
        rw [offset] at none' large
        refine .full b ?_ ?_ fun before => within (lays.within before (by rw [length]; exact room))
        · rw [slips_append]
          exact fun slips => slips.elim none none'
        · rw [sum_append]
          omega
      | slipped _ slips overrun =>
        refine .slipped _ ?_ overrun
        rw [slips_append, ← offset]
        exact .inr slips
  | full b none large within =>
    refine .full b ?_ ?_ within
    · rw [slips_append]
      exact fun slips => slips.elim none (not_slips_of_full large)
    · rw [sum_append]
      omega
  | slipped r slips overrun =>
    refine .slipped _ ?_ ?_
    · rw [slips_append]
      exact .inl slips
    · cases r with
      | error b => exact overrun
      | ok x' => exact fun within => overrun ((grows x').within within)

end Walk

section Steps

open Stores

variable {use : Bool} {o : Nat} {x : MosState} {r : Except Stores MosState} {sizes : List Nat} {l l' : Bytes}
  {P Q : MosState → Prop}

theorem Outcome.map {g : MosState → MosState} (first : Outcome P x sizes l r)
    (changed : ∀ x', P x' → x'.offset = x.offset + sizes.sum → Lays x.buffer x'.buffer x.offset l →
      Lays x.buffer (g x').buffer x.offset l' ∧ (g x').offset = x'.offset ∧ Q (g x'))
    (grows : ∀ x', Grows x'.buffer (g x').buffer) : Outcome Q x sizes l' (r >>= fun x' => pure (g x')) := by
  cases first with
  | placed x' none room lays offset property =>
    obtain ⟨lays', same, property'⟩ := changed x' property offset lays
    exact .placed (g x') none room lays' (same.trans offset) property'
  | full b none large within => exact .full b none large within
  | slipped r slips overrun =>
    refine .slipped _ slips ?_
    cases r with
    | error b => exact overrun
    | ok x' => exact fun within => overrun ((grows x').within within)

theorem bind_grows {f : MosState → Except Stores MosState} (first : Grows x.buffer (bufferOf r))
    (second : ∀ x', Grows x'.buffer (bufferOf (f x'))) : Grows x.buffer (bufferOf (r >>= f)) := by
  cases r with
  | error b => exact first
  | ok x' => exact first.trans (second x')

theorem foldlM_grows {α : Type} {g : MosState → α → Except Stores MosState}
    (grows : ∀ x a, Grows x.buffer (bufferOf (g x a))) (as : List α) (x : MosState) :
    Grows x.buffer (bufferOf (as.foldlM g x)) := by
  induction as generalizing x with
  | nil => exact .refl _
  | cons a as ih =>
    rw [List.foldlM_cons]
    exact bind_grows (grows x a) ih

theorem Outcome.fold {α : Type} {g : MosState → α → Except Stores MosState} {size : α → List Nat} {bytes : α → Bytes}
    (length : ∀ a, (bytes a).length = (size a).sum)
    (step : ∀ x a, P x → x.offset ≤ maxMos2DescriptorSize → Outcome P x (size a) (bytes a) (g x a))
    (grows : ∀ x a, Grows x.buffer (bufferOf (g x a))) (as : List α) (x : MosState) (start : P x)
    (room : x.offset ≤ maxMos2DescriptorSize) :
    Outcome P x (as.flatMap size) (as.flatMap bytes) (as.foldlM g x) := by
  induction as generalizing x with
  | nil => exact .placed x (fun slips => slips) (by simpa using room) .nil (by simp) start
  | cons a as ih =>
    rw [List.foldlM_cons, flatMap_cons, flatMap_cons]
    exact (step x a start room).bind (length a) (fun x' property _ room => ih x' property room)
      fun x' => foldlM_grows grows as x'

end Steps

/-! ### The parts of a class -/

namespace MosClass

def contentSizes (c : MosClass) : List Nat :=
  (if c.hasCompatId then [20] else []) ++ c.mosProps.flatMap fun p => [p.size]

variable (useFunctionSubsets : Bool)

def sizes (c : MosClass) : List Nat :=
  if c.features.isEmpty then [] else (if useFunctionSubsets then [8] else []) ++ c.contentSizes

def part (c : MosClass) : Bytes :=
  if c.features.isEmpty then [] else if useFunctionSubsets then c.functionSubset else c.content

end MosClass

section Parts

open Stores

variable {use : Bool} {o : Nat} {x : MosState} {c : MosClass} {p : MosProperty}

def Counted (use : Bool) (o : Nat) (x : MosState) : Prop :=
  o ≤ x.offset ∧ x.funcLength = if use then x.offset - o else 0

theorem Counted.advance (counted : Counted use o x) {n : Nat} (room : x.offset + n ≤ maxMos2DescriptorSize)
    (b : Stores) : Counted use o (x.advance use n b) := by
  obtain ⟨behind, count⟩ := counted
  rw [maxMos2DescriptorSize] at room
  rw [MosState.advance, word16_of_lt (by omega), count]
  refine ⟨Nat.le_trans behind (Nat.le_add_right ..), ?_⟩
  cases use with
  | false => rfl
  | true =>
    simp only [if_true]
    rw [word16_of_lt (by omega), Nat.sub_add_comm behind]

theorem Outcome.checked {P : MosState → Prop} {n : Nat} {l : Bytes} {x' : MosState} (small : n < 2 ^ 16)
    (lays : Lays x.buffer x'.buffer x.offset l) (offset : x'.offset = word16 (x.offset + n))
    (property : x.offset + n ≤ maxMos2DescriptorSize → P x') :
    Outcome P x [n] l (if maxMos2DescriptorSize < x.offset + n then .error x.buffer else .ok x') := by
  have none : ¬Slips x.offset [n] := by
    rintro (⟨large, -⟩ | none)
    · omega
    · exact none
  split
  · next full => exact .full x.buffer none (by simpa using full) fun within => within
  · next room =>
    have room := Nat.not_lt.mp room
    refine .placed _ none (by simpa using room) lays ?_ (property room)
    rw [offset, word16_of_lt (by rw [maxMos2DescriptorSize] at room; omega), sum_singleton]

theorem mosAppendProperty_outcome (counted : Counted use o x) :
    Outcome (Counted use o) x [p.size] (MosFeature.registryProperty p).bytes (mosAppendProperty use x p) := by
  have sized : word16 (10 + 2 * (p.propertyName.length + 1) + p.propertyData.length) = p.size % 2 ^ 16 := by
    rw [word16, MosProperty.size]
    congr 1
    omega
  rw [mosAppendProperty, mosNameLength, sized]
  rcases Nat.lt_or_ge p.size (2 ^ 16) with small | large
  · obtain ⟨b', ran, lays⟩ := mosAppendRegistryProperty_lays x.offset x.buffer small
    rw [Nat.mod_eq_of_lt small, ran]
    exact .checked small lays rfl fun room => counted.advance room b'
  by_cases full : maxMos2DescriptorSize < x.offset + p.size % 2 ^ 16
  · rw [if_pos full]
    have at_least := Nat.mod_le p.size (2 ^ 16)
    refine .full x.buffer ?_ (by rw [sum_singleton]; omega) fun within => within
    rintro (⟨-, small⟩ | none)
    · omega
    · exact none
  · rw [if_neg full]
    refine .slipped _ (.inl ⟨large, Nat.not_lt.mp full⟩) fun within => ?_
    obtain ⟨j, written, past⟩ := mosAppendRegistryProperty_overruns x.offset x.buffer large
    exact absurd (within j written) (Nat.not_lt.mpr past)

theorem mosAppendProperty_grows (use : Bool) (x : MosState) (p : MosProperty) :
    Grows x.buffer (bufferOf (mosAppendProperty use x p)) := by
  rw [mosAppendProperty]
  split
  · exact .refl _
  · exact mosAppendRegistryProperty_grows _ _ _ _

theorem putBytes_lays (index : Nat) (l : Bytes) (b : Stores) : Lays b (putBytes index l b) index l := by
  induction l generalizing index b with
  | nil => exact .nil
  | cons byte rest ih => exact (Lays.put b index byte).append (ih (index + 1) _)

theorem putBytes_grows (index : Nat) (l : Bytes) (b : Stores) : Grows b (putBytes index l b) := by
  induction l generalizing index b with
  | nil => exact .refl b
  | cons byte rest ih => exact ((Grows.refl b).put index byte).trans (ih _ _)

theorem Outcome.skip {P : MosState → Prop} {x' : MosState} (room : x.offset ≤ maxMos2DescriptorSize) (property : P x')
    (buffer : x'.buffer = x.buffer) (offset : x'.offset = x.offset) : Outcome P x [] [] (.ok x') :=
  .placed x' (fun slips => slips) (by simpa using room) (buffer ▸ .nil) (by simpa using offset) property

theorem mosAppendCompatibleId_outcome (counted : Counted use o x) (room : x.offset ≤ maxMos2DescriptorSize) :
    Outcome (Counted use o) x (if c.hasCompatId then [20] else [])
      ((if c.hasCompatId then [MosFeature.compatibleId c.compatibleId] else []).flatMap MosFeature.bytes)
      (mosAppendCompatibleId use c x) := by
  rw [mosAppendCompatibleId]
  split
  · refine .checked (by decide) ?_ rfl fun room => counted.advance room _
    have head : Lays x.buffer ((x.buffer.putLE16 x.offset 20).putLE16 (x.offset + 2) mos2FeatureCompatibleId) x.offset
        (le16Bytes 20 ++ le16Bytes mos2FeatureCompatibleId) :=
      (Lays.putLE16 x.buffer x.offset 20).append (Lays.putLE16 _ (x.offset + 2) _)
    have zeros := head.append (putBytes_lays (x.offset + 4) (List.replicate 16 0) _)
    have length : (c.compatibleId.take 8).length ≤ 16 := by
      rw [List.length_take]
      omega
    have cut : List.replicate 16 (0 : UInt8) = List.replicate (c.compatibleId.take 8).length 0 ++
        List.replicate (16 - (c.compatibleId.take 8).length) 0 := by
      rw [List.replicate_append_replicate, Nat.add_sub_cancel' length]
    rw [cut, ← append_assoc] at zeros
    have named := zeros.overwrite (putBytes_lays (x.offset + 4) (c.compatibleId.take 8) _) (by rw [List.length_replicate])
    rw [append_assoc] at named
    simpa only [flatMap_cons, List.flatMap_nil, List.append_nil, MosFeature.bytes] using cut ▸ named
  · exact .skip room counted rfl rfl

theorem mosAppendCompatibleId_grows (use : Bool) (c : MosClass) (x : MosState) :
    Grows x.buffer (bufferOf (mosAppendCompatibleId use c x)) := by
  rw [mosAppendCompatibleId]
  split
  · split
    · exact .refl _
    · have head : Grows x.buffer ((x.buffer.putLE16 x.offset 20).putLE16 (x.offset + 2) mos2FeatureCompatibleId) :=
        ((Grows.refl _).putLE16 _ _).putLE16 _ _
      exact (head.trans (putBytes_grows _ _ _)).trans (putBytes_grows _ _ _)
  · exact .refl _

def MosClass.functionHeader (c : MosClass) : Bytes :=
  le16Bytes 8 ++ le16Bytes mos2SubsetHeaderFunction ++ [c.firstInterface, 0]

theorem mosOpenFunction_outcome (room : x.offset ≤ maxMos2DescriptorSize) :
    Outcome (Counted use x.offset) x (if use then [8] else []) (if use then c.functionHeader ++ [0, 0] else [])
      (mosOpenFunction use c x) := by
  rw [mosOpenFunction]
  cases use with
  | false => exact .skip room ⟨Nat.le_refl _, rfl⟩ rfl rfl
  | true =>
    refine Outcome.checked (by decide) ?_ rfl fun room => ?_
    · have type := (Lays.putLE16 x.buffer x.offset 8).append (Lays.putLE16 _ (x.offset + 2) mos2SubsetHeaderFunction)
      have interface := type.append
        ((Lays.put _ (x.offset + 4) c.firstInterface).append (Lays.put _ (x.offset + 5) 0))
      exact interface.append (Lays.putLE16 _ (x.offset + 6) 0)
    · rw [maxMos2DescriptorSize] at room
      have offset : word16 (x.offset + 8) = x.offset + 8 := word16_of_lt (by omega)
      simp only [Counted, offset, if_true]
      omega

theorem mosOpenFunction_grows (use : Bool) (c : MosClass) (x : MosState) :
    Grows x.buffer (bufferOf (mosOpenFunction use c x)) := by
  rw [mosOpenFunction]
  split
  · split
    · exact .refl _
    · exact Grows.putLE16 (Grows.put (Grows.put (((Grows.refl _).putLE16 _ _).putLE16 _ _) _ _) _ _) _ _
  · exact .refl _

theorem MosClass.features_isEmpty (c : MosClass) :
    c.features.isEmpty = !(decide (c.hasCompatId = true ∨ c.hasMosProps = true)) := by
  rw [features, hasMosProps]
  cases c.hasCompatId <;> cases c.mosProps <;> simp

theorem MosClass.content_eq (c : MosClass) : c.content =
    (if c.hasCompatId then [MosFeature.compatibleId c.compatibleId] else []).flatMap MosFeature.bytes ++
      c.mosProps.flatMap fun p => (MosFeature.registryProperty p).bytes := by
  rw [content, features, List.flatMap_append, List.flatMap_map]

theorem length_properties (ps : List MosProperty) :
    (ps.flatMap fun p => (MosFeature.registryProperty p).bytes).length = (ps.flatMap fun p => [p.size]).sum := by
  induction ps with
  | nil => rfl
  | cons p ps ih =>
    rw [flatMap_cons, flatMap_cons, length_append, sum_append, ih, MosFeature.length_bytes]
    rfl

theorem length_compatibleId (c : MosClass) :
    ((if c.hasCompatId then [MosFeature.compatibleId c.compatibleId] else []).flatMap MosFeature.bytes).length =
      (if c.hasCompatId then [20] else []).sum := by
  split
  · rw [List.flatMap_singleton, MosFeature.length_bytes]
    rfl
  · rfl

theorem MosClass.length_content (c : MosClass) : c.content.length = c.contentSizes.sum := by
  rw [content_eq, length_append, length_compatibleId, length_properties, contentSizes, sum_append]

theorem MosClass.length_part (use : Bool) (c : MosClass) : (c.part use).length = (c.sizes use).sum := by
  rw [part, sizes]
  split
  · rfl
  · have content := c.length_content
    cases use with
    | false => simpa using content
    | true =>
      rw [if_pos rfl, if_pos rfl, sum_append, ← content, functionSubset, length_append]
      rfl

theorem mosCloseFunction_grows (use : Bool) (o : Nat) (x : MosState) :
    Grows x.buffer (mosCloseFunction use o x).buffer := by
  rw [mosCloseFunction]
  split
  · exact (Grows.refl _).putLE16 _ _
  · exact .refl _

def mosFill (use : Bool) (c : MosClass) (x : MosState) : Except Stores MosState :=
  mosAppendCompatibleId use c x >>= fun named => c.mosProps.foldlM (mosAppendProperty use) named

theorem mosAppendClass_filled (use : Bool) (c : MosClass) (x : MosState) :
    (mosOpenFunction use c x >>= fun opened => mosAppendCompatibleId use c opened >>= fun named =>
      c.mosProps.foldlM (mosAppendProperty use) named >>= fun filled => pure (mosCloseFunction use x.offset filled)) =
    mosOpenFunction use c x >>= mosFill use c >>= fun filled => pure (mosCloseFunction use x.offset filled) := by
  simp only [bind_assoc, mosFill]

theorem mosFill_grows (use : Bool) (c : MosClass) (x : MosState) : Grows x.buffer (bufferOf (mosFill use c x)) :=
  bind_grows (mosAppendCompatibleId_grows use c x) (foldlM_grows (mosAppendProperty_grows use) c.mosProps)

theorem mosFill_outcome (counted : Counted use o x) (room : x.offset ≤ maxMos2DescriptorSize) :
    Outcome (Counted use o) x c.contentSizes c.content (mosFill use c x) := by
  rw [mosFill, MosClass.contentSizes, c.content_eq]
  refine (mosAppendCompatibleId_outcome counted room).bind (length_compatibleId c) (fun x' counted _ room => ?_)
    (foldlM_grows (mosAppendProperty_grows use) c.mosProps)
  exact Outcome.fold (fun p => by rw [MosFeature.length_bytes]; rfl)
    (fun x p counted _ => mosAppendProperty_outcome counted) (mosAppendProperty_grows use) c.mosProps x' counted room

theorem mosAppendClass_outcome (use : Bool) (x : MosState) (c : MosClass) (room : x.offset ≤ maxMos2DescriptorSize) :
    Outcome (fun _ => True) x (c.sizes use) (c.part use) (mosAppendClass use x c) := by
  rw [mosAppendClass, MosClass.sizes, MosClass.part, c.features_isEmpty]
  by_cases some : c.hasCompatId = true ∨ c.hasMosProps = true
  · rw [if_pos some, decide_eq_true some]
    have filled : Outcome (Counted use x.offset) x ((if use then [8] else []) ++ c.contentSizes)
        ((if use then c.functionHeader ++ [0, 0] else []) ++ c.content) (mosOpenFunction use c x >>= mosFill use c) :=
      (mosOpenFunction_outcome room).bind (by cases use <;> rfl)
        (fun x' counted _ room => mosFill_outcome counted room) (mosFill_grows use c)
    simp only [Bool.not_true, Bool.false_eq_true, if_false]
    rw [mosAppendClass_filled]
    refine filled.map (fun x' counted offset lays => ?_) (mosCloseFunction_grows use x.offset)
    cases use with
    | false => exact ⟨lays, rfl, trivial⟩
    | true =>
      refine ⟨?_, rfl, trivial⟩
      have count : x'.funcLength = 8 + c.content.length := by
        rw [counted.2, if_pos rfl, offset, c.length_content, sum_append]
        simp only [if_true, sum_singleton]
        omega
      have patched := lays.patch c.functionHeader (8 + c.content.length)
      rw [mosCloseFunction, if_pos rfl, count]
      exact patched
  · rw [if_neg some, decide_eq_false some]
    exact .skip room trivial rfl rfl

theorem mosAppendClass_grows (use : Bool) (x : MosState) (c : MosClass) :
    Grows x.buffer (bufferOf (mosAppendClass use x c)) := by
  rw [mosAppendClass]
  split
  · rw [mosAppendClass_filled]
    exact bind_grows (bind_grows (mosOpenFunction_grows use c x) (mosFill_grows use c))
      fun x' => mosCloseFunction_grows use x.offset x'
  · exact .refl _

end Parts

/-! ### The whole set -/

/-- The set as it can be read back: its length, and the bytes so far. -/
structure MosWellFormed (classes : List MosClass) (length : Nat) (bytes : Nat → UInt8) : Prop where
  features : ∃ c ∈ classes, c.features ≠ []
  fits : length ≤ maxMos2DescriptorSize
  set : (List.range length).map bytes = mosSet classes

/-- How the descriptor should be built, over a buffer with any bytes. -/
structure MosBuilt (classes : List MosClass) (bytes : Nat → UInt8) : Prop where
  within : (deviceBuildMsOs20Descriptor classes ⟨bytes, []⟩).2.Within maxMos2DescriptorSize
  wellFormed : 0 < (deviceBuildMsOs20Descriptor classes ⟨bytes, []⟩).1 →
    MosWellFormed classes (deviceBuildMsOs20Descriptor classes ⟨bytes, []⟩).1
      (deviceBuildMsOs20Descriptor classes ⟨bytes, []⟩).2.bytes
  platform : 0 < (deviceBuildMsOs20Descriptor classes ⟨bytes, []⟩).1 →
    ∀ {σ : Type} (e : Env σ) (speed : Speed) (s : System σ), s.device.bosBuiltForSpeed ≠ some speed →
      e.mos2Descriptor = (List.range (deviceBuildMsOs20Descriptor classes ⟨bytes, []⟩).1).map
        (deviceBuildMsOs20Descriptor classes ⟨bytes, []⟩).2.bytes →
      ∃ capabilities, (deviceBuildBosDescriptor e speed s).2.device.bosDescriptor =
        capabilities ++ msOs20Platform (deviceBuildMsOs20Descriptor classes ⟨bytes, []⟩).1

section Whole

open Stores

variable {classes : List MosClass} {bytes : Nat → UInt8}

def severalClasses (classes : List MosClass) : Bool := 2 ≤ classes.length

def mosStart (use : Bool) : Nat := if use then 18 else 10

def mosHeader (use : Bool) : Bytes :=
  le16Bytes 10 ++ le16Bytes mos2SetHeaderDescriptor ++ [0x00, 0x00, 0x03, 0x06] ++ [0, 0] ++
    if use then le16Bytes 8 ++ le16Bytes mos2SubsetHeaderConfiguration ++ [0, 0] ++ [0, 0] else []

theorem length_mosHeader (use : Bool) : (mosHeader use).length = mosStart use := by
  cases use <;> rfl

theorem mosSetHeader_lays (use : Bool) (b : Stores) : Lays b (mosSetHeader use b) 0 (mosHeader use) := by
  have type := (Lays.putLE16 b 0 10).append (Lays.putLE16 _ (0 + 2) mos2SetHeaderDescriptor)
  have version := type.append ((Lays.putLE16 _ (0 + 4) 0x0000).append (Lays.putLE16 _ (0 + 6) 0x0603))
  have set := version.append (Lays.putLE16 _ (0 + 8) 0)
  cases use with
  | false => exact set
  | true =>
    have configuration := (Lays.putLE16 (mosSetHeader false b) (0 + 10) 8).append
      (Lays.putLE16 _ (0 + 12) mos2SubsetHeaderConfiguration)
    have value := configuration.append ((Lays.put _ (0 + 14) 0).append (Lays.put _ (0 + 15) 0))
    exact set.append (value.append (Lays.putLE16 _ (0 + 16) 0))

theorem walk_outcome (use : Bool) (classes : List MosClass) (b : Stores) :
    Outcome (fun _ => True) ⟨mosSetHeader use b, mosStart use, 0⟩ (classes.flatMap (MosClass.sizes use))
      (classes.flatMap (MosClass.part use))
      (classes.foldlM (mosAppendClass use) ⟨mosSetHeader use b, mosStart use, 0⟩) :=
  Outcome.fold (MosClass.length_part use) (fun x c _ room => mosAppendClass_outcome use x c room)
    (mosAppendClass_grows use) classes _ trivial (show mosStart use ≤ maxMos2DescriptorSize by cases use <;> decide)

theorem length_parts (use : Bool) (classes : List MosClass) :
    (classes.flatMap (MosClass.part use)).length = (classes.flatMap (MosClass.sizes use)).sum := by
  induction classes with
  | nil => rfl
  | cons c rest ih =>
    rw [flatMap_cons, flatMap_cons, length_append, sum_append, ih, c.length_part]

theorem MosClass.part_of_features {use : Bool} {c : MosClass} (some : c.features ≠ []) : 0 < (c.part use).length := by
  rw [part, if_neg (by simpa using some)]
  cases use with
  | true =>
    rw [if_pos rfl, functionSubset, length_append]
    exact Nat.lt_of_lt_of_le (by decide) (Nat.le_add_right 8 c.content.length)
  | false =>
    cases features : c.features with
    | nil => exact absurd features some
    | cons f rest =>
      have sized : 0 < f.size := by
        cases f with
        | compatibleId id => exact Nat.succ_pos 19
        | registryProperty p =>
          rw [MosFeature.size, MosProperty.size]
          omega
      simp only [Bool.false_eq_true, if_false]
      rw [content, features, flatMap_cons, length_append, MosFeature.length_bytes]
      omega

theorem parts_pos {use : Bool} (some : ∃ c ∈ classes, c.features ≠ []) :
    0 < (classes.flatMap (MosClass.part use)).length := by
  obtain ⟨c, mem, features⟩ := some
  obtain ⟨before, after, rfl⟩ := List.append_of_mem mem
  have part := @MosClass.part_of_features use c features
  rw [List.flatMap_append, flatMap_cons, length_append, length_append]
  omega

theorem parts_empty {use : Bool} (none : ∀ c ∈ classes, c.features = []) :
    classes.flatMap (MosClass.part use) = [] := by
  rw [List.flatMap_eq_nil_iff]
  intro c mem
  rw [MosClass.part, none c mem]
  rfl

theorem parts_several (classes : List MosClass) : classes.flatMap (MosClass.part true) =
    (classes.filter fun c => !c.features.isEmpty).flatMap MosClass.functionSubset := by
  induction classes with
  | nil => rfl
  | cons c rest ih =>
    rw [flatMap_cons, ih, MosClass.part]
    cases empty : c.features.isEmpty with
    | true => simp [empty]
    | false => simp [empty]

theorem parts_single (classes : List MosClass) :
    classes.flatMap (MosClass.part false) = classes.flatMap MosClass.content := by
  refine congrArg (classes.flatMap ·) (funext fun c => ?_)
  rw [MosClass.part]
  split
  · next empty => rw [MosClass.content, List.isEmpty_iff.mp empty, List.flatMap_nil]
  · rfl

theorem mosSet_eq (classes : List MosClass) : mosSet classes =
    le16Bytes 10 ++ le16Bytes mos2SetHeaderDescriptor ++ [0x00, 0x00, 0x03, 0x06] ++
      le16Bytes (mosStart (severalClasses classes) +
        (classes.flatMap (MosClass.part (severalClasses classes))).length) ++
      ((if severalClasses classes then le16Bytes 8 ++ le16Bytes mos2SubsetHeaderConfiguration ++ [0, 0] ++
          le16Bytes (8 + (classes.flatMap (MosClass.part (severalClasses classes))).length) else []) ++
        classes.flatMap (MosClass.part (severalClasses classes))) := by
  rw [mosSet, severalClasses]
  by_cases several : 2 ≤ classes.length
  · rw [if_pos several, decide_eq_true several, parts_several]
    have total (functions : Bytes) : 10 + (configurationSubset functions).length =
        mosStart true + functions.length := by
      rw [configurationSubset, length_append]
      exact (Nat.add_assoc 10 8 functions.length).symm
    rw [total]
    rfl
  · rw [if_neg several, decide_eq_false several, parts_single]
    rfl

theorem built_lays {x : MosState} (lays : Lays (mosSetHeader (severalClasses classes) ⟨bytes, []⟩) x.buffer
      (mosStart (severalClasses classes)) (classes.flatMap (MosClass.part (severalClasses classes))))
    (offset : x.offset = mosStart (severalClasses classes) +
      (classes.flatMap (MosClass.part (severalClasses classes))).length) :
    Lays ⟨bytes, []⟩ (if severalClasses classes then (x.buffer.putLE16 8 x.offset).putLE16 16 (x.offset - 10)
      else x.buffer.putLE16 8 x.offset) 0 (mosSet classes) := by
  have whole := (mosSetHeader_lays (severalClasses classes) ⟨bytes, []⟩).follow lays
    (by rw [length_mosHeader, Nat.zero_add])
  rw [mosSet_eq, ← offset]
  cases several : severalClasses classes with
  | false =>
    rw [several] at whole
    exact whole.patch (le16Bytes 10 ++ le16Bytes mos2SetHeaderDescriptor ++ [0x00, 0x00, 0x03, 0x06]) x.offset
  | true =>
    rw [several] at whole offset
    have config : x.offset - 10 = 8 + (classes.flatMap (MosClass.part true)).length := by
      rw [offset, mosStart, if_pos rfl]
      omega
    have total := whole.patch (le16Bytes 10 ++ le16Bytes mos2SetHeaderDescriptor ++ [0x00, 0x00, 0x03, 0x06])
      x.offset
    rw [config]
    exact total.patch (le16Bytes 10 ++ le16Bytes mos2SetHeaderDescriptor ++ [0x00, 0x00, 0x03, 0x06] ++
      le16Bytes x.offset ++ (le16Bytes 8 ++ le16Bytes mos2SubsetHeaderConfiguration ++ [0, 0])) _

theorem build_eq (classes : List MosClass) (b : Stores) : deviceBuildMsOs20Descriptor classes b =
    match classes.foldlM (mosAppendClass (severalClasses classes))
      ⟨mosSetHeader (severalClasses classes) b, mosStart (severalClasses classes), 0⟩ with
    | .error b => (0, b)
    | .ok x =>
      if 10 < x.offset then
        (x.offset, if severalClasses classes then (x.buffer.putLE16 8 x.offset).putLE16 16 (x.offset - 10)
          else x.buffer.putLE16 8 x.offset)
      else (0, x.buffer) := rfl

theorem build_overruns (slips : Slips (mosStart (severalClasses classes))
    (classes.flatMap (MosClass.sizes (severalClasses classes)))) :
    ¬(deviceBuildMsOs20Descriptor classes ⟨bytes, []⟩).2.Within maxMos2DescriptorSize := by
  rw [build_eq]
  have outcome := walk_outcome (severalClasses classes) classes ⟨bytes, []⟩
  generalize classes.foldlM (mosAppendClass (severalClasses classes))
    ⟨mosSetHeader (severalClasses classes) ⟨bytes, []⟩, mosStart (severalClasses classes), 0⟩ = r at outcome
  cases outcome with
  | placed x none => exact absurd slips none
  | full b none => exact absurd slips none
  | slipped r slips overrun =>
    cases r with
    | error b => exact overrun
    | ok x =>
      refine fun within => overrun ?_
      simp only at within
      have grown := (Grows.refl x.buffer).putLE16 8 x.offset
      split at within
      · split at within
        · exact (grown.putLE16 16 _).within within
        · exact grown.within within
      · exact within

theorem build_featureless (several : severalClasses classes = true) (none : ∀ c ∈ classes, c.features = []) :
    (deviceBuildMsOs20Descriptor classes ⟨bytes, []⟩).1 = 18 := by
  rw [build_eq]
  have outcome := walk_outcome (severalClasses classes) classes ⟨bytes, []⟩
  have sizes : classes.flatMap (MosClass.sizes (severalClasses classes)) = [] := by
    rw [List.flatMap_eq_nil_iff]
    intro c mem
    rw [MosClass.sizes, none c mem]
    rfl
  rw [sizes] at outcome
  generalize classes.foldlM (mosAppendClass (severalClasses classes))
    ⟨mosSetHeader (severalClasses classes) ⟨bytes, []⟩, mosStart (severalClasses classes), 0⟩ = r at outcome
  cases outcome with
  | placed x _ _ _ offset =>
    have end_ : x.offset = 18 := by
      rw [offset, several]
      rfl
    simp only [end_]
    rfl
  | full b none large =>
    rw [several] at large
    exact absurd large (by rw [List.sum_nil]; exact Nat.not_lt.mpr (by decide : 18 ≤ maxMos2DescriptorSize))
  | slipped r slips => exact slips.elim

theorem bos_platform {σ : Type} (e : Env σ) (speed : Speed) (s : System σ)
    (new : s.device.bosBuiltForSpeed ≠ some speed)
    (some : 0 < e.mos2Descriptor.length) : ∃ capabilities,
    (deviceBuildBosDescriptor e speed s).2.device.bosDescriptor =
      capabilities ++ msOs20Platform e.mos2Descriptor.length := by
  have built : (deviceBuildBosDescriptor e speed s).2.device.bosDescriptor =
      bosBytes speed e.mos2Descriptor.length := by
    rw [deviceBuildBosDescriptor, Call.read_bind, Call.onlyIf, if_pos new]
    rfl
  rw [built, bosBytes, if_pos some]
  exact ⟨_, (append_assoc _ _ _).symm⟩

theorem length_mosSet (classes : List MosClass) : (mosSet classes).length = mosStart (severalClasses classes) +
    (classes.flatMap (MosClass.part (severalClasses classes))).length := by
  rw [mosSet_eq, length_append, length_append, @length_append _ _ (classes.flatMap _), ← Nat.add_assoc]
  cases severalClasses classes <;> rfl

theorem mosSetHeader_within (use : Bool) (bytes : Nat → UInt8) :
    (mosSetHeader use ⟨bytes, []⟩).Within maxMos2DescriptorSize := by
  refine (mosSetHeader_lays use ⟨bytes, []⟩).within nofun ?_
  rw [length_mosHeader]
  cases use <;> decide

theorem build_wellFormed (noslip : ¬Slips (mosStart (severalClasses classes))
      (classes.flatMap (MosClass.sizes (severalClasses classes))))
    (some : severalClasses classes = true → ∃ c ∈ classes, c.features ≠ []) :
    (deviceBuildMsOs20Descriptor classes ⟨bytes, []⟩).2.Within maxMos2DescriptorSize ∧
      (0 < (deviceBuildMsOs20Descriptor classes ⟨bytes, []⟩).1 →
        MosWellFormed classes (deviceBuildMsOs20Descriptor classes ⟨bytes, []⟩).1
          (deviceBuildMsOs20Descriptor classes ⟨bytes, []⟩).2.bytes) := by
  rw [build_eq]
  have outcome := walk_outcome (severalClasses classes) classes ⟨bytes, []⟩
  generalize classes.foldlM (mosAppendClass (severalClasses classes))
    ⟨mosSetHeader (severalClasses classes) ⟨bytes, []⟩, mosStart (severalClasses classes), 0⟩ = r at outcome
  cases outcome with
  | full b none large within => exact ⟨within (mosSetHeader_within _ bytes), nofun⟩
  | slipped r slips => exact absurd slips noslip
  | placed x none room lays offset =>
    rw [← length_parts] at room offset
    simp only at offset room
    by_cases features : ∃ c ∈ classes, c.features ≠ []
    · have filled : 10 < x.offset := by
        have parts := @parts_pos classes (severalClasses classes) features
        have start : 10 ≤ mosStart (severalClasses classes) := by
          cases severalClasses classes <;> decide
        omega
      have built := built_lays lays offset
      have length : (mosSet classes).length = x.offset := by
        rw [length_mosSet, offset]
      simp only [if_pos filled]
      refine ⟨built.within nofun (by rw [length]; omega), fun _ => ⟨features, by omega, ?_⟩⟩
      have read := built.read
      rwa [length, ← List.range_eq_range'] at read
    · have single : severalClasses classes = false := by
        cases several : severalClasses classes with
        | true => exact absurd (some several) features
        | false => rfl
      have none : ∀ c ∈ classes, c.features = [] := by
        intro c mem
        by_contra some
        exact features ⟨c, mem, some⟩
      rw [parts_empty none, single] at offset
      have empty : ¬10 < x.offset := by
        rw [offset]
        decide
      simp only [if_neg empty]
      refine ⟨lays.within (mosSetHeader_within _ bytes) room, nofun⟩

end Whole

/-- The set is built as it should be exactly if no size of 16 bits or more slips through the check
behind what fits, and if several classes have a feature among them. -/
theorem mos_built_iff (classes : List MosClass) (bytes : Nat → UInt8) : MosBuilt classes bytes ↔
    ¬Slips (mosStart (severalClasses classes)) (classes.flatMap (MosClass.sizes (severalClasses classes))) ∧
      (2 ≤ classes.length → ∃ c ∈ classes, c.features ≠ []) := by
  constructor
  · intro built
    refine ⟨fun slips => build_overruns slips built.within, fun several => ?_⟩
    by_contra missing
    have none : ∀ c ∈ classes, c.features = [] := by
      intro c mem
      by_contra some
      exact missing ⟨c, mem, some⟩
    have length : (deviceBuildMsOs20Descriptor classes ⟨bytes, []⟩).1 = 18 :=
      build_featureless (decide_eq_true several) none
    obtain ⟨c, mem, some⟩ := (built.wellFormed (by rw [length]; decide)).features
    exact some (none c mem)
  · rintro ⟨noslip, some⟩
    obtain ⟨within, wellFormed⟩ := @build_wellFormed classes bytes noslip
      fun several => some (of_decide_eq_true several)
    refine ⟨within, wellFormed, fun long σ e speed s new same => ?_⟩
    have length : e.mos2Descriptor.length = (deviceBuildMsOs20Descriptor classes ⟨bytes, []⟩).1 := by
      rw [same, List.length_map, List.length_range]
    rw [← length] at long ⊢
    exact bos_platform e speed s new long

/- A single class with an id, several classes with nothing to say, and a property of 65524 bytes. -/

def winusbClass : MosClass := ⟨0, some [0x57, 0x49, 0x4E, 0x55, 0x53, 0x42], []⟩
def plainClass (firstInterface : UInt8) : MosClass := ⟨firstInterface, none, []⟩

def hugeProperty : MosProperty where
  propertyType := 1
  propertyName := []
  propertyData := List.replicate 65524 0
  nameShort := by decide
  dataFits := by rw [List.length_replicate]; decide

example : (deviceBuildMsOs20Descriptor [winusbClass] ⟨fun _ => 0xFF, []⟩).1 = 30 := by decide

theorem mos_misbuilt :
    ¬MosBuilt [⟨0, none, [hugeProperty]⟩] (fun _ => 0) ∧ ¬MosBuilt [plainClass 0, plainClass 1] fun _ => 0 := by
  constructor
  · intro built
    refine build_overruns ?_ built.within
    have name : hugeProperty.propertyName.length = 0 := rfl
    have data : hugeProperty.propertyData.length = 65524 := List.length_replicate
    have size : hugeProperty.size = 65536 := by
      rw [MosProperty.size, name, data]
    have sizes : ([⟨0, none, [hugeProperty]⟩] : List MosClass).flatMap (MosClass.sizes false) =
        [hugeProperty.size] := rfl
    change Slips 10 (([⟨0, none, [hugeProperty]⟩] : List MosClass).flatMap (MosClass.sizes false))
    rw [sizes, size]
    exact .inl ⟨by decide, by decide⟩
  · intro built
    have length : (deviceBuildMsOs20Descriptor [plainClass 0, plainClass 1] ⟨fun _ => 0, []⟩).1 = 18 :=
      build_featureless rfl (by decide)
    obtain ⟨c, mem, some⟩ := (built.wellFormed (by rw [length]; decide)).features
    rcases List.mem_pair.mp mem with rfl | rfl
    · exact some rfl
    · exact some rfl

end XSDK.Usbd
