import Mathlib.Algebra.Ring.Nat
import Mathlib.Data.List.Basic

/-! Hexadecimal text: the number that digits denote, and the digits of a number. -/
namespace XSDK.Library.Hex

def IsDigit (c : UInt8) : Prop :=
  (48 ≤ c.toNat ∧ c.toNat ≤ 57) ∨ (65 ≤ c.toNat ∧ c.toNat ≤ 70) ∨ (97 ≤ c.toNat ∧ c.toNat ≤ 102)

instance (c : UInt8) : Decidable (IsDigit c) := inferInstanceAs (Decidable (_ ∨ _))

variable (text : List UInt8)

def Digits : Prop := ∀ c ∈ text, IsDigit c

instance (text : List UInt8) : Decidable (Digits text) := List.decidableBAll IsDigit text

/-- The value of a digit. -/
def digit (c : UInt8) : Nat :=
  if c.toNat ≤ 57 then c.toNat - 48 else if c.toNat ≤ 70 then c.toNat - 55 else c.toNat - 87

def value : Nat := text.foldl (fun v c => 16 * v + digit c) 0

/-- The bytes that pairs of digits denote. -/
def bytes : List UInt8 → List UInt8
  | a :: b :: rest => UInt8.ofNat (value [a, b]) :: bytes rest
  | _ => []

def char (n : Nat) : UInt8 := UInt8.ofNat (if n < 10 then 48 + n else 55 + n)

/-- A number in so many digits. -/
def digits : Nat → Nat → List UInt8
  | 0, _ => []
  | k + 1, n => digits k (n / 16) ++ [char (n % 16)]

variable {nibble : UInt8 → UInt32} {n : Nat}

theorem char_isDigit (small : n < 16) : IsDigit (char n) := by
  rcases Nat.lt_or_ge n 10 with low | high
  · simp only [IsDigit, char, if_pos low, UInt8.toNat_ofNat']
    omega
  · simp only [IsDigit, char, if_neg (Nat.not_lt_of_ge high), UInt8.toNat_ofNat']
    omega

theorem digit_char (small : n < 16) : digit (char n) = n := by
  rcases Nat.lt_or_ge n 10 with low | high
  · simp only [digit, char, if_pos low, UInt8.toNat_ofNat']
    split_ifs <;> omega
  · simp only [digit, char, if_neg (Nat.not_lt_of_ge high), UInt8.toNat_ofNat']
    split_ifs <;> omega

theorem length_digits (k n : Nat) : (digits k n).length = k := by
  induction k generalizing n with
  | zero => rfl
  | succ k ih => rw [digits, List.length_append, ih, List.length_singleton]

theorem digits_isDigit (k n : Nat) : Digits (digits k n) := by
  induction k generalizing n with
  | zero => exact fun c member => absurd member List.not_mem_nil
  | succ k ih =>
    intro c member
    rcases List.mem_append.mp member with front | last
    · exact ih _ c front
    · rw [List.mem_singleton.mp last]
      exact char_isDigit (Nat.mod_lt _ (by decide))

theorem value_digits (k : Nat) (fits : n < 16 ^ k) : value (digits k n) = n := by
  induction k generalizing n with
  | zero =>
    have zero : n = 0 := by omega
    rw [zero]
    rfl
  | succ k ih =>
    have rest : value (digits k (n / 16)) = n / 16 := ih (by rw [Nat.pow_succ] at fits; omega)
    rw [value] at rest
    rw [digits, value, List.foldl_append, rest, List.foldl_cons, List.foldl_nil, digit_char (Nat.mod_lt _ (by decide))]
    omega

theorem bytes_digits (data : List UInt8) : bytes (data.flatMap fun b => digits 2 b.toNat) = data := by
  induction data with
  | nil => rfl
  | cons b rest ih =>
    have two : digits 2 b.toNat = [char (b.toNat / 16 % 16), char (b.toNat % 16)] := rfl
    have back : value (digits 2 b.toNat) = b.toNat := value_digits 2 b.toNat_lt
    rw [two] at back
    rw [List.flatMap_cons, two, List.cons_append, List.cons_append, List.nil_append, bytes, back, ih,
      UInt8.ofNat_toNat]

/-- Digit by digit, the shifts of a machine word compute the value, as long as no digit is shifted out. -/
theorem toNat_word (v : UInt32)
    (nibbles : ∀ c ∈ text, (nibble c).toNat = digit c ∧ digit c < 16) (short : text.length ≤ 8)
    (small : v.toNat < 16 ^ (8 - text.length)) :
    (text.foldl (fun (v : UInt32) c => v <<< 4 ||| nibble c) v).toNat =
      text.foldl (fun v c => 16 * v + digit c) v.toNat := by
  induction text generalizing v with
  | nil => rfl
  | cons c rest ih =>
    obtain ⟨same, low⟩ := nibbles c List.mem_cons_self
    rw [List.length_cons] at short small
    have room : 8 - rest.length = 8 - (rest.length + 1) + 1 := by omega
    have top : 16 ^ (8 - (rest.length + 1)) ≤ 16 ^ 7 := Nat.pow_le_pow_right (by decide) (by omega)
    have shifted : (v <<< 4).toNat = v.toNat <<< 4 := by
      rw [UInt32.toNat_shiftLeft, show (4 : UInt32).toNat % 32 = 4 from rfl, Nat.shiftLeft_eq]
      exact Nat.mod_eq_of_lt (by omega)
    have next : (v <<< 4 ||| nibble c).toNat = 16 * v.toNat + digit c := by
      rw [UInt32.toNat_or, shifted, same, ← Nat.shiftLeft_add_eq_or_of_lt (by omega : digit c < 2 ^ 4),
        Nat.shiftLeft_eq]
      omega
    rw [List.foldl_cons, List.foldl_cons, ← next]
    refine ih _ (fun d member => nibbles d (List.mem_cons_of_mem _ member)) (by omega) ?_
    rw [next, room, Nat.pow_succ]
    omega

theorem word_eq_value {text : List UInt8}
    (nibbles : ∀ c ∈ text, (nibble c).toNat = digit c ∧ digit c < 16) (short : text.length ≤ 8) :
    text.foldl (fun (v : UInt32) c => v <<< 4 ||| nibble c) 0 = UInt32.ofNat (value text) := by
  have same := toNat_word text 0 nibbles short (Nat.pow_pos (by decide))
  rw [show value text = text.foldl (fun v c => 16 * v + digit c) (0 : UInt32).toNat from rfl, ← same,
    UInt32.ofNat_toNat]

end XSDK.Library.Hex
