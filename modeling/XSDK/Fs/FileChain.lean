import XSDK.Fs.Failing
import XSDK.Fs.File

/-! The chain of a file and the walks along it. A walk follows one link after the other, and
the one that writes makes the chain longer at its end. -/
namespace XSDK.Fs

open Library Prog
open List (mem_append_right mem_cons_self mem_singleton)

variable {env : Env} {ctx : Context} {io io' : Io} {cluster : Nat} {l l' : List Nat}

def clusterLink (ctx : Context) (disk : Nat → Sector) (cluster : Nat) : Option Nat :=
  if inRange ctx cluster = true then linkOf ctx disk cluster else none

/-- These clusters are linked in this order, up to an end mark. -/
structure Threaded (ctx : Context) (disk : Nat → Sector) (l : List Nat) : Prop where
  known : ∀ c ∈ l, inRange ctx c = true
  links : Chain (clusterLink ctx disk) l.head? l

theorem clusterLink_known {disk : Nat → Sector} (known : inRange ctx cluster = true) :
    clusterLink ctx disk cluster = linkOf ctx disk cluster := if_pos known

theorem linkOf_none {disk : Nat → Sector} : linkOf ctx disk cluster = none ↔
    isEoc (fatEntry ctx disk cluster) = true := by
  rw [linkOf]
  split
  · next eoc => exact iff_of_true rfl eoc
  · next more => exact iff_of_false (by rintro ⟨⟩) more

theorem linkOf_some {disk : Nat → Sector} {next : Nat} :
    linkOf ctx disk cluster = some next ↔ isEoc (fatEntry ctx disk cluster) = false ∧
    fatEntry ctx disk cluster = next := by
  rw [linkOf]
  split
  · next eoc =>
    refine iff_of_false (by rintro ⟨⟩) fun h => ?_
    rw [eoc] at h
    cases h.1
  · next more => rw [Option.some_inj, Bool.eq_false_iff, and_iff_right more]

namespace Threaded

variable {disk disk' : Nat → Sector} {i : Nat}

theorem nil (ctx : Context) (disk : Nat → Sector) :
    Threaded ctx disk [] := ⟨fun _ mem => absurd mem List.not_mem_nil, rfl⟩

section

variable (threaded : Threaded ctx disk l)
include threaded

theorem mem_known (here : l[i]? = some cluster) : inRange ctx cluster = true :=
  threaded.known cluster (List.mem_of_getElem? here)

theorem next (here : l[i]? = some cluster) : linkOf ctx disk cluster = l[i + 1]? := by
  rw [← clusterLink_known (threaded.mem_known here)]
  exact threaded.links.next_of_getElem? here

theorem nodup : l.Nodup := threaded.links.nodup

theorem congr (same : ∀ c ∈ l, fatEntry ctx disk' c = fatEntry ctx disk c) : Threaded ctx disk' l := by
  refine ⟨threaded.known, threaded.links.congr fun c mem => ?_⟩
  rw [clusterLink, clusterLink, linkOf, linkOf, same c mem]

theorem of_data (geometry : Geometry ctx)
    (same : ∀ s < ctx.clusterHeapStart, disk' s = disk s) : Threaded ctx disk' l := by
  apply threaded.congr
  intro c mem
  rw [fatEntry, fatEntry, same _ (geometry.fatSector_bounds (threaded.known c mem)).2]

end

theorem not_free (wf : FatWellFormed ctx) (threaded : Threaded ctx disk l) (mem : cluster ∈ l) :
    fatEntry ctx disk cluster ≠ fat32FreeCluster := by
  intro free
  obtain ⟨i, here⟩ := List.getElem?_of_mem mem
  have leads : linkOf ctx disk cluster = some fat32FreeCluster := linkOf_some.mpr ⟨by rw [free]; rfl, free⟩
  rw [threaded.next here] at leads
  have low := (wf.inRange_iff.mp (threaded.mem_known leads)).1
  rw [fat32FreeCluster] at low
  omega

section Cut

variable {xs ys : List Nat} {t : Nat}

theorem next_head (threaded : Threaded ctx disk (xs ++ t :: ys)) : linkOf ctx disk t = ys.head? := by
  rw [← clusterLink_known (threaded.known t (mem_append_right xs mem_cons_self))]
  cases ys with
  | nil => exact threaded.links.tail
  | cons y ys => exact threaded.links.tail.1

theorem behind (threaded : Threaded ctx disk (xs ++ t :: ys)) : Threaded ctx disk ys := by
  refine ⟨fun c mem => threaded.known c (mem_append_right xs (List.mem_cons_of_mem t mem)), ?_⟩
  rw [← threaded.next_head, ← clusterLink_known (threaded.known t (mem_append_right xs mem_cons_self))]
  exact threaded.links.tail

theorem tail (threaded : Threaded ctx disk (t :: ys)) : Threaded ctx disk ys := by
  have whole : Threaded ctx disk ([] ++ t :: ys) := threaded
  exact whole.behind

theorem cut (wf : FatWellFormed ctx) (threaded : Threaded ctx disk (xs ++ t :: ys)) :
    Threaded ctx (writeFat ctx disk t fat32EocMin) (xs ++ [t]) ∧ Threaded ctx (writeFat ctx disk t fat32EocMin) ys := by
  have inside := threaded.known t (mem_append_right xs mem_cons_self)
  have known : ∀ c ∈ xs ++ [t], inRange ctx c = true := by
    intro c mem
    apply threaded.known
    rcases List.mem_append.mp mem with earlier | last
    · exact List.mem_append_left _ earlier
    · rw [mem_singleton.mp last]
      exact mem_append_right xs mem_cons_self
  have head : (xs ++ [t]).head? = (xs ++ t :: ys).head? := by
    cases xs with
    | nil => rfl
    | cons a rest => rfl
  constructor
  · refine ⟨known, ?_⟩
    rw [head]
    apply threaded.links.cut.congr
    intro c mem
    rw [clusterLink_known (known c mem)]
    by_cases same : c = t
    · rw [same, Function.update_self]
      exact linkOf_writeFat_eoc disk t
    · rw [Function.update_of_ne same, clusterLink_known (known c mem)]
      exact linkOf_writeFat_ne wf (wf.inRange_iff.mp (known c mem)).2 inside same
  · have fresh : t ∉ ys := (List.nodup_cons.mp (List.nodup_append.mp threaded.nodup).2.1).1
    refine threaded.behind.congr fun c mem => ?_
    have bound := (wf.inRange_iff.mp (threaded.behind.known c mem)).2
    exact fatEntry_writeFat_ne wf bound inside fun same => fresh (same ▸ mem)

end Cut

variable (wf : FatWellFormed ctx) (threaded : Threaded ctx disk l)
include wf threaded

theorem not_mem_free (free : cluster ∈ freeClusters ctx disk) : cluster ∉ l :=
  fun mem => threaded.not_free wf mem (mem_freeClusters.mp free).2

theorem mark (free : cluster ∈ freeClusters ctx disk) : Threaded ctx (writeFat ctx disk cluster fat32EocMin) l := by
  apply threaded.congr
  intro c mem
  have fresh := threaded.not_mem_free wf free
  refine fatEntry_writeFat_ne wf (wf.inRange_iff.mp (threaded.known c mem)).2 (mem_freeClusters.mp free).1 ?_
  exact fun same => fresh (same ▸ mem)

theorem extend {front : List Nat} {tail : Nat} (split : l = front ++ [tail]) (free : cluster ∈ freeClusters ctx disk) :
    Threaded ctx (writeFat ctx (writeFat ctx disk cluster fat32EocMin) tail cluster) (l ++ [cluster]) := by
  subst split
  have fresh := threaded.not_mem_free wf free
  have inside := (mem_freeClusters.mp free).1
  have high := (wf.inRange_iff.mp inside).2
  have marked := threaded.mark wf free
  have tailKnown := threaded.known tail (mem_append_right _ mem_cons_self)
  have ne : cluster ≠ tail := fun same => fresh (same ▸ mem_append_right _ mem_cons_self)
  have known : ∀ c ∈ front ++ [tail] ++ [cluster], inRange ctx c = true := by
    intro c mem
    rcases List.mem_append.mp mem with earlier | new
    · exact threaded.known c earlier
    · rw [mem_singleton.mp new]
      exact inside
  have ended : clusterLink ctx (writeFat ctx disk cluster fat32EocMin) cluster = none := by
    rw [clusterLink_known inside]
    exact linkOf_writeFat_eoc disk cluster
  have longer := marked.links.snoc fresh ended
  have head : (front ++ [tail] ++ [cluster]).head? = (front ++ [tail]).head? := by
    cases front with
    | nil => rfl
    | cons a rest => rfl
  refine ⟨known, ?_⟩
  rw [head]
  apply longer.congr
  intro c mem
  rw [clusterLink_known (known c mem)]
  by_cases same : c = tail
  · rw [same, Function.update_self]
    exact linkOf_writeFat_self wf high
  · rw [Function.update_of_ne same, clusterLink_known (known c mem)]
    exact linkOf_writeFat_ne wf (wf.inRange_iff.mp (known c mem)).2 tailKnown same

omit wf threaded in
theorem first (free : cluster ∈ freeClusters ctx disk) :
    Threaded ctx (writeFat ctx disk cluster fat32EocMin) [cluster] := by
  have inside := (mem_freeClusters.mp free).1
  refine ⟨fun c mem => ?_, Chain.single ?_⟩
  · rw [mem_singleton.mp mem]
    exact inside
  · rw [clusterLink_known inside]
    exact linkOf_writeFat_eoc disk cluster

end Threaded

section Room

variable {disk : Nat → Sector} {value : Nat} (wf : FatWellFormed ctx)
include wf

theorem card_free_mark (free : cluster ∈ freeClusters ctx disk) :
    (freeClusters ctx (writeFat ctx disk cluster fat32EocMin)).card + 1 = (freeClusters ctx disk).card := by
  have rest : freeClusters ctx (writeFat ctx disk cluster fat32EocMin) = (freeClusters ctx disk).erase cluster := by
    ext c
    rw [Finset.mem_erase, mem_freeClusters, mem_freeClusters]
    by_cases same : c = cluster
    · subst same
      rw [fatEntry_writeFat]
      exact iff_of_false (fun h => absurd h.2 (by decide)) fun h => h.1 rfl
    · constructor
      · rintro ⟨inside, entry⟩
        rw [fatEntry_writeFat_ne wf (wf.inRange_iff.mp inside).2 (mem_freeClusters.mp free).1 same] at entry
        exact ⟨same, inside, entry⟩
      · rintro ⟨-, inside, entry⟩
        refine ⟨inside, ?_⟩
        rw [fatEntry_writeFat_ne wf (wf.inRange_iff.mp inside).2 (mem_freeClusters.mp free).1 same]
        exact entry
  rw [rest]
  exact Finset.card_erase_add_one free

theorem free_link {tail : Nat} (inside : inRange ctx tail = true) (taken : fatEntry ctx disk tail ≠ fat32FreeCluster)
    (known : inRange ctx cluster = true) : freeClusters ctx (writeFat ctx disk tail cluster) =
      freeClusters ctx disk := by
  obtain ⟨low, high⟩ := wf.inRange_iff.mp known
  have small := wf.numbers
  ext c
  rw [mem_freeClusters, mem_freeClusters]
  by_cases same : c = tail
  · subst same
    have kept : cluster % fat32EntryMask = cluster := Nat.mod_eq_of_lt (by rw [fat32EntryMask]; omega)
    rw [fatEntry_writeFat, kept]
    refine iff_of_false (fun h => ?_) fun h => taken h.2
    have zero := h.2
    rw [fat32FreeCluster] at zero
    omega
  · refine and_congr_right fun inRange => ?_
    rw [fatEntry_writeFat_ne wf (wf.inRange_iff.mp inRange).2 inside same]

end Room

theorem writeFat_data (geometry : Geometry ctx) (known : inRange ctx cluster = true) (disk : Nat → Sector) (value : Nat)
    {s : Nat} (high : ctx.clusterHeapStart ≤ s) : writeFat ctx disk cluster value s = disk s := by
  have low := (geometry.fatSector_bounds known).2
  exact Function.update_of_ne (by omega) _ _

def room (ctx : Context) (disk : Nat → Sector) (l : List Nat) : Nat := (freeClusters ctx disk).card + l.length

structure Grown (env : Env) (ctx : Context) (io : Io) (l : List Nat) (io' : Io) (l' : List Nat) : Prop where
  coherent : io'.Coherent
  threaded : Threaded ctx io'.view l'
  more : l <+: l'
  data : ∀ s, ctx.clusterHeapStart ≤ s → io'.view s = io.view s
  room_le : room ctx io'.view l' ≤ room ctx io.view l
  room_eq : env.Ideal → room ctx io'.view l' = room ctx io.view l

namespace Grown

variable {io₁ io₂ io₃ : Io} {l₁ l₂ l₃ : List Nat}

theorem of_view (coherent : io'.Coherent) (threaded : Threaded ctx io.view l) (view : io'.view = io.view) :
    Grown env ctx io l io' l := by
  refine ⟨coherent, ?_, List.prefix_refl l, fun s _ => ?_, ?_, fun _ => ?_⟩
  · rw [view]
    exact threaded
  all_goals rw [view]

theorem trans (first : Grown env ctx io₁ l₁ io₂ l₂) (second : Grown env ctx io₂ l₂ io₃ l₃) :
    Grown env ctx io₁ l₁ io₃ l₃ :=
  ⟨second.coherent, second.threaded, first.more.trans second.more,
    fun s high => (second.data s high).trans (first.data s high), Nat.le_trans second.room_le first.room_le,
    fun ideal => (second.room_eq ideal).trans (first.room_eq ideal)⟩

variable (grown : Grown env ctx io₁ l₁ io₂ l₂)
include grown

theorem congr_left (view : io₁.view = io₃.view) : Grown env ctx io₃ l₁ io₂ l₂ := by
  obtain ⟨coherent, threaded, more, data, le, eq⟩ := grown
  rw [view] at data le eq
  exact ⟨coherent, threaded, more, data, le, eq⟩

theorem congr_right (coherent : io₃.Coherent) (view : io₃.view = io₂.view) : Grown env ctx io₁ l₁ io₃ l₂ :=
  grown.trans (of_view coherent grown.threaded view)

theorem kept {i c : Nat} (here : l₁[i]? = some c) : l₂[i]? = some c := by
  obtain ⟨rest, split⟩ := grown.more
  rw [← split, List.getElem?_append_left (List.getElem?_eq_some_iff.mp here).1]
  exact here

end Grown

end XSDK.Fs
