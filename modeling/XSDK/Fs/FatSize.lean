import XSDK.Fs.Layout
import XSDK.Library.Balance

/-! The search for the size of the tables: for which volumes its passes come to a size. -/
namespace XSDK.Fs

open Library

section Exact

variable (config : FormatConfig)

/-- The clusters behind tables of a size, and the size that their entries need, over unbounded
integers. -/
def exactClusters (fatSize : Nat) : Nat :=
  (config.sectorCount.toNat - (config.reservedSectorCount.toNat + config.fatCount.toNat * fatSize)) /
    config.sectorsPerCluster.toNat

def exactNeed (fatSize : Nat) : Nat := ((exactClusters config fatSize + 2) * 4 + 511) / 512

/-- Tables of this size leave a cluster, the root among those they leave, and have their entries. -/
structure Adequate (fatSize : Nat) : Prop where
  inside : config.reservedSectorCount.toNat + config.fatCount.toNat * fatSize < config.sectorCount.toNat
  nonempty : 1 ≤ exactClusters config fatSize
  root : config.rootDirCluster.toNat < 2 + exactClusters config fatSize
  entries : (exactClusters config fatSize + 2) * 4 ≤ fatSize * 512

/-- The size that a pass looks at, when none before it has ended the search. -/
def passSize (pass : Nat) : Nat := (exactNeed config)^[pass] 1

/-- No word of a pass wraps. -/
def SearchFits : Prop :=
  ∀ pass < formatMaxFatSizePasses,
    config.reservedSectorCount.toNat + config.fatCount.toNat * passSize config pass < 2 ^ 32 ∧
      (exactClusters config (passSize config pass) + 2) * 4 + 512 < 2 ^ 32

def openSectors : Nat := config.sectorCount.toNat - config.reservedSectorCount.toNat

/-- With the two entries without a cluster and the rounding up counted as clusters of their own. -/
def shared : Nat := openSectors config + 129 * config.sectorsPerCluster.toNat

/-- The sectors of the clusters that one sector of a table has entries for. -/
def perSector : Nat := 128 * config.sectorsPerCluster.toNat

/-- The first pass asks for no more than leaves a cluster, some size needs exactly itself, and the
first size is near enough to it for seven passes. -/
structure Findable : Prop where
  room : config.fatCount.toNat * ((shared config - config.fatCount.toNat) / perSector config) +
    config.sectorsPerCluster.toNat ≤ openSectors config
  exact : shared config % (perSector config + config.fatCount.toNat) < perSector config
  near : (Balance.reach ((shared config % (perSector config + config.fatCount.toNat) : Nat) : Int) config.fatCount.toNat
    (perSector config) 7).1 ≤ 1 - ((shared config / (perSector config + config.fatCount.toNat) : Nat) : Int)

end Exact

variable {config : FormatConfig} {x y k : Nat}

theorem exactClusters_antitone (le : x ≤ y) : exactClusters config y ≤ exactClusters config x := by
  have tables : config.fatCount.toNat * x ≤ config.fatCount.toNat * y := Nat.mul_le_mul_left _ le
  exact Nat.div_le_div_right (by omega)

theorem exactNeed_antitone (le : x ≤ y) : exactNeed config y ≤ exactNeed config x := by
  have fewer := @exactClusters_antitone config x y le
  exact Nat.div_le_div_right (by omega)

theorem exactNeed_pos (x : Nat) : 1 ≤ exactNeed config x := by
  rw [exactNeed]
  omega

theorem passSize_succ (k : Nat) : passSize config (k + 1) = exactNeed config (passSize config k) :=
  Function.iterate_succ_apply' _ _ _

theorem passSize_pos (k : Nat) : 1 ≤ passSize config k := by
  cases k with
  | zero => exact Nat.le_refl 1
  | succ k =>
    rw [passSize_succ]
    exact exactNeed_pos _

theorem passSize_le (k : Nat) : passSize config k ≤ exactNeed config 1 := by
  cases k with
  | zero => exact exactNeed_pos 1
  | succ k =>
    rw [passSize_succ]
    exact exactNeed_antitone (passSize_pos k)

theorem passSize_fixed (fixed : exactNeed config (passSize config k) = passSize config k) (j : Nat) :
    passSize config (k + j) = passSize config k := by
  induction j with
  | zero => rfl
  | succ j ih => rw [← Nat.add_assoc, passSize_succ, ih, fixed]

def Room (config : FormatConfig) (x : Nat) : Prop :=
  config.reservedSectorCount.toNat + config.fatCount.toNat * x + config.sectorsPerCluster.toNat ≤
    config.sectorCount.toNat

theorem Room.mono (room : Room config y) (le : x ≤ y) : Room config x := by
  have tables : config.fatCount.toNat * x ≤ config.fatCount.toNat * y := Nat.mul_le_mul_left _ le
  unfold Room at *
  omega

theorem room_iff (valid : Validated config) :
    Room config x ↔ config.reservedSectorCount.toNat + config.fatCount.toNat * x < config.sectorCount.toNat ∧
      exactClusters config x ≠ 0 := by
  have positive := valid.cluster
  have quotient : exactClusters config x = 0 ↔
      config.sectorCount.toNat - (config.reservedSectorCount.toNat + config.fatCount.toNat * x) <
        config.sectorsPerCluster.toNat := by
    rw [exactClusters, Nat.div_eq_zero_iff]
    omega
  rw [Room, Ne, quotient]
  omega

section Words

variable (valid : Validated config) (fits : SearchFits config) (chosen : config.fatSize.toNat = 0)

include valid fits

theorem pass_words (inside : k < formatMaxFatSizePasses) :
    formatHeapStart config (passSize config k) =
        config.reservedSectorCount.toNat + config.fatCount.toNat * passSize config k ∧
      formatTotalClusters config (passSize config k) = exactClusters config (passSize config k) ∧
      formatNeededFatSize config (exactClusters config (passSize config k)) = passSize config (k + 1) := by
  obtain ⟨tables, entries⟩ := fits k inside
  have product : word32 (config.fatCount.toNat * passSize config k) = config.fatCount.toNat * passSize config k :=
    word32_of_lt (Nat.lt_of_le_of_lt (Nat.le_add_left _ _) tables)
  have heap : formatHeapStart config (passSize config k) =
      config.reservedSectorCount.toNat + config.fatCount.toNat * passSize config k := by
    rw [formatHeapStart, product, word32_of_lt tables]
  refine ⟨heap, ?_, ?_⟩
  · rw [formatTotalClusters, heap, exactClusters]
  · rw [passSize_succ, exactNeed]
    exact formatNeededFatSize_eq valid (by omega)

include chosen

theorem formatResolveFrom_pass (inside : k < formatMaxFatSizePasses) (left : Nat) :
    (Room config (passSize config k) →
      formatResolveFrom config (left + 1) (passSize config k) =
        if passSize config (k + 1) = passSize config k then
          some ⟨passSize config k, config.reservedSectorCount.toNat + config.fatCount.toNat * passSize config k,
            exactClusters config (passSize config k)⟩
        else formatResolveFrom config left (passSize config (k + 1))) ∧
      (¬Room config (passSize config k) → formatResolveFrom config (left + 1) (passSize config k) = none) := by
  obtain ⟨heap, clusters, needed⟩ := pass_words valid fits inside
  rw [room_iff valid, formatResolveFrom, heap, clusters]
  dsimp only
  rw [needed]
  constructor
  · rintro ⟨room, some⟩
    have open' : ¬(config.fatSize.toNat ≠ 0 ∧ passSize config k < passSize config (k + 1)) := fun h => h.1 chosen
    rw [if_neg (by omega), if_neg some, if_neg open']
    simp only [chosen, ne_eq, not_true_eq_false, false_or]
  · intro full
    by_cases room : config.reservedSectorCount.toNat + config.fatCount.toNat * passSize config k <
      config.sectorCount.toNat
    · have none : exactClusters config (passSize config k) = 0 := by
        by_contra some
        exact full ⟨room, some⟩
      rw [if_neg (by omega), if_pos none]
    · rw [if_pos (by omega)]

theorem formatResolveFrom_some {left : Nat} {layout : FormatLayout} (passes : k + left = formatMaxFatSizePasses)
    (run : formatResolveFrom config left (passSize config k) = some layout) :
    ∃ j, k ≤ j ∧ j < formatMaxFatSizePasses ∧ passSize config (j + 1) = passSize config j ∧
      ∀ i, k ≤ i → i ≤ j → Room config (passSize config i) := by
  induction left generalizing k with
  | zero => exact nomatch run
  | succ left ih =>
    have inside : k < formatMaxFatSizePasses := by omega
    obtain ⟨roomy, full⟩ := formatResolveFrom_pass valid fits chosen inside left
    by_cases room : Room config (passSize config k)
    · rw [roomy room] at run
      by_cases settled : passSize config (k + 1) = passSize config k
      · refine ⟨k, Nat.le_refl k, inside, settled, fun i low high => ?_⟩
        rw [Nat.le_antisymm high low]
        exact room
      · rw [if_neg settled] at run
        obtain ⟨j, later, last, fixed, rooms⟩ := ih (by omega) run
        refine ⟨j, by omega, last, fixed, fun i low high => ?_⟩
        by_cases first : i = k
        · rw [first]
          exact room
        · exact rooms i (by omega) high
    · rw [full room] at run
      exact nomatch run

theorem formatResolveFrom_found {left : Nat} (passes : k + (left + 1) = formatMaxFatSizePasses)
    (room : Room config (exactNeed config 1)) (fixed : exactNeed config (passSize config 7) = passSize config 7) :
    formatResolveFrom config (left + 1) (passSize config k) = some ⟨passSize config 7,
      config.reservedSectorCount.toNat + config.fatCount.toNat * passSize config 7,
      exactClusters config (passSize config 7)⟩ := by
  induction left generalizing k with
  | zero =>
    have last : k = 7 := by
      rw [formatMaxFatSizePasses] at passes
      omega
    subst last
    have inside : 7 < formatMaxFatSizePasses := by decide
    rw [(formatResolveFrom_pass valid fits chosen inside 0).1 (room.mono (passSize_le 7)), passSize_succ, if_pos fixed]
  | succ left ih =>
    rw [formatMaxFatSizePasses] at passes ih
    have inside : k < formatMaxFatSizePasses := by
      rw [formatMaxFatSizePasses]
      omega
    rw [(formatResolveFrom_pass valid fits chosen inside (left + 1)).1 (room.mono (passSize_le k))]
    by_cases settled : passSize config (k + 1) = passSize config k
    · have same : passSize config 7 = passSize config k := by
        rw [passSize_succ] at settled
        have persists := passSize_fixed settled (7 - k)
        have sum : k + (7 - k) = 7 := by omega
        rwa [sum] at persists
      rw [if_pos settled, same]
    · rw [if_neg settled, ih (by omega)]

end Words

theorem exactNeed_eq (valid : Validated config) (room : Room config x) :
    exactNeed config x = (shared config - config.fatCount.toNat * x) / perSector config := by
  have positive := valid.cluster
  have rounded : ((exactClusters config x + 2) * 4 + 511) / 512 = (exactClusters config x + 129) / 128 := by omega
  have data : config.sectorCount.toNat - (config.reservedSectorCount.toNat + config.fatCount.toNat * x) +
      129 * config.sectorsPerCluster.toNat = shared config - config.fatCount.toNat * x := by
    unfold Room at room
    rw [shared, openSectors]
    omega
  rw [exactNeed, rounded, exactClusters, ← Nat.add_mul_div_right _ _ positive, Nat.div_div_eq_div_mul, data, perSector,
    Nat.mul_comm 128]

theorem shares_le (room : Room config x) : config.fatCount.toNat * x ≤ shared config := by
  unfold Room at room
  rw [shared, openSectors]
  omega

theorem passSize_parts (valid : Validated config) (room : Room config (exactNeed config 1)) (k : Nat) :
    ((passSize config k : Nat) : Int) = (Balance.parts (shared config) config.fatCount.toNat (perSector config))^[k] 1 := by
  induction k with
  | zero => rfl
  | succ k ih =>
    have roomy := room.mono (passSize_le k)
    rw [Function.iterate_succ_apply', ← ih, passSize_succ, exactNeed_eq valid roomy, Balance.parts, Int.natCast_div,
      Nat.cast_sub (shares_le roomy), Nat.cast_mul]

theorem settles_iff (valid : Validated config) (room : Room config (exactNeed config 1)) :
    exactNeed config (passSize config 7) = passSize config 7 ↔
      shared config % (perSector config + config.fatCount.toNat) < perSector config ∧
        ((Balance.reach ((shared config % (perSector config + config.fatCount.toNat) : Nat) : Int) config.fatCount.toNat
          (perSector config) 7).1 ≤ 1 - ((shared config / (perSector config + config.fatCount.toNat) : Nat) : Int)) := by
  have part : (0 : Int) < perSector config := by
    have positive := valid.cluster
    rw [perSector]
    omega
  have share : (0 : Int) < config.fatCount.toNat := by exact_mod_cast valid.fats
  have cast := passSize_parts valid room
  have split : ((shared config : Nat) : Int) = ((perSector config : Int) + config.fatCount.toNat) *
      ((shared config / (perSector config + config.fatCount.toNat) : Nat) : Int) +
        ((shared config % (perSector config + config.fatCount.toNat) : Nat) : Int) := by
    exact_mod_cast (Nat.div_add_mod _ _).symm
  have least : (0 : Int) ≤ ((shared config % (perSector config + config.fatCount.toNat) : Nat) : Int) :=
    Int.natCast_nonneg _
  have some : 1 ≤ shared config / (perSector config + config.fatCount.toNat) := by
    have first := room.mono (exactNeed_pos 1)
    unfold Room at first
    apply Nat.div_pos
    · rw [shared, perSector, openSectors]
      omega
    · rw [perSector]
      have positive := valid.cluster
      omega
  have quotient : ((shared config : Nat) : Int) / ((perSector config : Int) + config.fatCount.toNat) =
      ((shared config / (perSector config + config.fatCount.toNat) : Nat) : Int) := by
    rw [Int.natCast_div, Nat.cast_add]
  have remainder : ((shared config : Nat) : Int) % ((perSector config : Int) + config.fatCount.toNat) =
      ((shared config % (perSector config + config.fatCount.toNat) : Nat) : Int) := by
    rw [Int.natCast_mod, Nat.cast_add]
  have fixed : exactNeed config (passSize config 7) = passSize config 7 ↔
      Balance.parts (shared config) config.fatCount.toNat (perSector config) (passSize config 7 : Nat) =
        ((passSize config 7 : Nat) : Int) := by
    have next := cast 8
    rw [Function.iterate_succ_apply', ← cast 7, passSize_succ] at next
    rw [← next]
    exact Nat.cast_inj.symm
  rw [fixed, Balance.parts_eq_self_iff part (Int.le_of_lt share), quotient, remainder, Nat.cast_lt]
  generalize shared config / (perSector config + config.fatCount.toNat) = size at *
  generalize shared config % (perSector config + config.fatCount.toNat) = rest at *
  have ends := @Balance.iterate_parts (shared config) config.fatCount.toNat
    (perSector config) rest size (1 - (size : Int)) 7
    part split
  have one : (size : Int) + (1 - (size : Int)) = 1 := by omega
  rw [one, ← cast 7] at ends
  have reached := @Balance.iterate_drift_iff config.fatCount.toNat (perSector config) rest
    (1 - (size : Int)) 7 part share
  constructor
  · rintro ⟨same, exact'⟩
    have back : (Balance.drift rest config.fatCount.toNat (perSector config))^[7] (1 - (size : Int)) = 0 := by omega
    exact ⟨exact', (reached.mp back).1⟩
  · rintro ⟨exact', near⟩
    have rests : (Balance.drift rest config.fatCount.toNat (perSector config))^[7] 0 = 0 :=
      Balance.iterate_drift_zero least (by exact_mod_cast exact')
    have most := ((Balance.iterate_drift_iff part share).mp rests).2
    have back := reached.mpr ⟨near, by omega⟩
    exact ⟨by omega, exact'⟩

theorem Adequate.least {f : Nat} (adequate : Adequate config f) (fixed : exactNeed config x = x) : x ≤ f := by
  by_contra less
  have need : exactNeed config f ≤ f := by
    have entries := adequate.entries
    rw [exactNeed]
    omega
  have more := @exactNeed_antitone config f x (by omega)
  rw [fixed] at more
  omega

theorem Adequate.room {f : Nat} (valid : Validated config) (adequate : Adequate config f) : Room config 1 := by
  have entries := adequate.entries
  have nonempty := adequate.nonempty
  exact ((room_iff valid).mpr ⟨adequate.inside, by omega⟩).mono (by omega)

theorem room_need_iff (valid : Validated config) (room : Room config 1) :
    Room config (exactNeed config 1) ↔ config.fatCount.toNat * ((shared config - config.fatCount.toNat) / perSector config) +
      config.sectorsPerCluster.toNat ≤ openSectors config := by
  have need := exactNeed_eq valid room
  rw [Nat.mul_one] at need
  unfold Room at *
  rw [need, openSectors]
  omega

/-- For every request whose search does not wrap and that some size is adequate for, the search
finds a size exactly when the request is findable. -/
theorem formatResolveLayout_isSome_iff (valid : formatValidateConfig config = true) (chosen : config.fatSize.toNat = 0)
    (fits : SearchFits config) (possible : ∃ f, Adequate config f) :
    (formatResolveLayout config).isSome = true ↔ Findable config := by
  have valid := formatValidateConfig_validated valid
  obtain ⟨f, adequate⟩ := possible
  have first := adequate.room valid
  have begins : (if config.fatSize.toNat = 0 then 1 else config.fatSize.toNat) = passSize config 0 := if_pos chosen
  constructor
  · intro found
    have ran : ∃ layout, formatResolveFrom config formatMaxFatSizePasses (passSize config 0) = some layout := by
      rw [formatResolveLayout, begins] at found
      cases run : formatResolveFrom config formatMaxFatSizePasses (passSize config 0) with
      | none =>
        rw [run] at found
        cases found
      | some layout => exact ⟨layout, rfl⟩
    obtain ⟨layout, run⟩ := ran
    obtain ⟨j, -, last, settled, rooms⟩ := formatResolveFrom_some valid fits chosen (Nat.zero_add _) run
    rw [passSize_succ] at settled
    have room : Room config (exactNeed config 1) := by
      cases j with
      | zero =>
        have same : exactNeed config 1 = 1 := settled
        rwa [same]
      | succ j => exact rooms 1 (by omega) (by omega)
    have fixed : exactNeed config (passSize config 7) = passSize config 7 := by
      rw [formatMaxFatSizePasses] at last
      have persists := passSize_fixed settled (7 - j)
      have sum : j + (7 - j) = 7 := by omega
      rw [sum] at persists
      rw [persists, settled]
    obtain ⟨exact', near⟩ := (settles_iff valid room).mp fixed
    exact ⟨(room_need_iff valid first).mp room, exact', near⟩
  · intro findable
    have room := (room_need_iff valid first).mpr findable.room
    have fixed := (settles_iff valid room).mpr ⟨findable.exact, findable.near⟩
    have run := @formatResolveFrom_found config 0 valid fits chosen 7 rfl room fixed
    have more := @exactClusters_antitone config _ _ (adequate.least fixed)
    have rooted := adequate.root
    have entries := (fits 7 (by decide)).2
    have count : word32 (fat32ClusterMin + exactClusters config (passSize config 7)) =
        2 + exactClusters config (passSize config 7) := by
      rw [fat32ClusterMin]
      exact word32_of_lt (by omega)
    rw [formatResolveLayout, begins]
    have run' : formatResolveFrom config formatMaxFatSizePasses (passSize config 0) = _ := run
    rw [run']
    dsimp only
    rw [count, if_neg (by omega)]
    rfl

theorem formatResolveLayout_default :
    (formatResolveLayout (formatConfigDefault 130)).isSome = true :=
  (formatResolveLayout_isSome_iff (by decide) (by decide) (by unfold SearchFits; decide)
    ⟨2, by decide, by decide, by decide, by decide⟩).mpr ⟨by decide, by decide, by decide⟩

theorem formatResolveLayout_missed :
    ¬∀ config, formatValidateConfig config = true → config.fatSize.toNat = 0 → SearchFits config →
      (∃ f, Adequate config f) → (formatResolveLayout config).isSome = true := by
  intro found
  have layout := found (formatConfigDefault 129) (by decide) (by decide) (by unfold SearchFits; decide)
    ⟨2, by decide, by decide, by decide, by decide⟩
  exact absurd layout (by decide)

end XSDK.Fs
