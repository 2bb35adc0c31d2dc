/-
  Lib.Bytes — byte strings a reader can take apart again.

  Positional digits of fixed width, integers in big-endian order, text in
  UTF-8, and length-prefixed blocks.  Every encoder here comes with the law
  that makes a concatenation decodable: its output has a fixed length, or it
  announces its own length, and equal outputs come from equal inputs.

  Main results:
    * `digitsBE_inj` — fixed-width digits determine the number they write.
    * `toBytes_inj`, `toBytesSigned_inj` — so do the integer encodings.
    * `utf8_inj` — the UTF-8 bytes determine the text.
    * `lengthPrefixed_append_inj` — a length-prefixed block can be read off
      the front of any byte string in one way only.
-/
import Mathlib.Init
import Mathlib.Data.List.Basic
import Mathlib.Algebra.Order.Ring.Int
import Mathlib.Algebra.Order.Group.Unbundled.Abs
import Mathlib.Data.Int.Order.Basic

namespace Lib.Bytes

/-- A byte string. -/
abbrev ByteString := List UInt8

/-! ## Digits of fixed width -/

/-- The lowest `w` digits of `n` in base `b`, most significant first. -/
def digitsBE (b : Nat) : Nat → Nat → List Nat
  | 0, _ => []
  | w + 1, n => digitsBE b w (n / b) ++ [n % b]

@[simp] theorem digitsBE_length (b w n : Nat) : (digitsBE b w n).length = w := by
  induction w generalizing n with
  | zero => rfl
  | succ w ih => simp [digitsBE, ih]

theorem digitsBE_lt {b w n d : Nat} (hb : 0 < b) (hd : d ∈ digitsBE b w n) : d < b := by
  induction w generalizing n with
  | zero => cases hd
  | succ w ih =>
    rcases List.mem_append.mp hd with h | h
    · exact ih h
    · rw [List.mem_singleton.mp h]
      exact Nat.mod_lt n hb

theorem digitsBE_inj {b w x y : Nat} (hx : x < b ^ w) (hy : y < b ^ w)
    (h : digitsBE b w x = digitsBE b w y) : x = y := by
  induction w generalizing x y with
  | zero =>
    rw [Nat.pow_zero] at hx hy
    omega
  | succ w ih =>
    -- the last digit fixes the remainder, the others the quotient
    obtain ⟨hq, hr⟩ := List.append_inj h (by simp)
    have hmod : x % b = y % b := List.singleton_inj.mp hr
    have hdiv : x / b = y / b := by
      apply ih _ _ hq
      · exact Nat.div_lt_of_lt_mul (by rwa [Nat.pow_succ, Nat.mul_comm] at hx)
      · exact Nat.div_lt_of_lt_mul (by rwa [Nat.pow_succ, Nat.mul_comm] at hy)
    rw [← Nat.div_add_mod x b, ← Nat.div_add_mod y b, hdiv, hmod]

/-- Digits written as bytes, the digit `d` as the byte `base + d`. -/
def digitBytes (base b w n : Nat) : ByteString :=
  (digitsBE b w n).map fun d => UInt8.ofNat (base + d)

@[simp] theorem digitBytes_length (base b w n : Nat) : (digitBytes base b w n).length = w := by
  simp [digitBytes]

theorem digitBytes_inj {base b w x y : Nat} (hb : 0 < b) (hfit : base + b ≤ 256)
    (hx : x < b ^ w) (hy : y < b ^ w) (h : digitBytes base b w x = digitBytes base b w y) :
    x = y := by
  apply digitsBE_inj hx hy
  apply List.ext_getElem
  · simp
  · intro i h₁ h₂
    -- distinct digits are distinct bytes
    have hi : (digitBytes base b w x)[i]? = (digitBytes base b w y)[i]? := by rw [h]
    have hdx : (digitsBE b w x)[i] < b := digitsBE_lt hb (List.getElem_mem h₁)
    have hdy : (digitsBE b w y)[i] < b := digitsBE_lt hb (List.getElem_mem h₂)
    simp only [digitBytes, List.getElem?_map, List.getElem?_eq_getElem h₁,
      List.getElem?_eq_getElem h₂, Option.map_some, Option.some.injEq] at hi
    have hn := congrArg UInt8.toNat hi
    simp only [UInt8.toNat_ofNat'] at hn
    omega

/-- A number in decimal, zero-padded to `w` digits. -/
def decimal (w n : Nat) : ByteString := digitBytes 48 10 w n

@[simp] theorem decimal_length (w n : Nat) : (decimal w n).length = w := digitBytes_length ..

theorem decimal_inj {w x y : Nat} (hx : x < 10 ^ w) (hy : y < 10 ^ w)
    (h : decimal w x = decimal w y) : x = y :=
  digitBytes_inj (by decide) (by decide) hx hy h

/-! ## Integers in big-endian order -/

/-- The `w`-byte big-endian form of `n`. -/
def bigEndian (w n : Nat) : ByteString := digitBytes 0 256 w n

@[simp] theorem bigEndian_length (w n : Nat) : (bigEndian w n).length = w := digitBytes_length ..

theorem bigEndian_inj {w x y : Nat} (hx : x < 256 ^ w) (hy : y < 256 ^ w)
    (h : bigEndian w x = bigEndian w y) : x = y :=
  digitBytes_inj (by decide) (by decide) hx hy h

/-- An unsigned integer of `w` bytes, if it fits. -/
def toBytes (w : Nat) (n : Int) : Option ByteString :=
  if 0 ≤ n ∧ n < 256 ^ w then some (bigEndian w n.toNat) else none

theorem toBytes_eq_some {w : Nat} {n : Int} {b : ByteString} :
    toBytes w n = some b ↔ (0 ≤ n ∧ n < 256 ^ w) ∧ bigEndian w n.toNat = b := by
  unfold toBytes
  split <;> simp_all

theorem toBytes_length {w : Nat} {n : Int} {b : ByteString} (h : toBytes w n = some b) :
    b.length = w := by
  rw [← (toBytes_eq_some.mp h).2]
  exact bigEndian_length w _

theorem toBytes_inj {w : Nat} {m n : Int} {b : ByteString} (hm : toBytes w m = some b)
    (hn : toBytes w n = some b) : m = n := by
  obtain ⟨⟨hm₀, hm₁⟩, hbm⟩ := toBytes_eq_some.mp hm
  obtain ⟨⟨hn₀, hn₁⟩, hbn⟩ := toBytes_eq_some.mp hn
  have hpow : ((256 ^ w : Nat) : Int) = 256 ^ w := by norm_cast
  have h : m.toNat = n.toNat := by
    apply @bigEndian_inj w _ _ _ _ (hbm.trans hbn.symm) <;> omega
  omega

/-- A signed integer of `w` bytes in two's complement, if it fits. -/
def toBytesSigned (w : Nat) (n : Int) : Option ByteString :=
  if -(256 ^ w / 2) ≤ n ∧ n < 256 ^ w / 2 then some (bigEndian w (n % 256 ^ w).toNat) else none

theorem toBytesSigned_eq_some {w : Nat} {n : Int} {b : ByteString} :
    toBytesSigned w n = some b ↔
      (-(256 ^ w / 2) ≤ n ∧ n < 256 ^ w / 2) ∧ bigEndian w (n % 256 ^ w).toNat = b := by
  unfold toBytesSigned
  split <;> simp_all

theorem toBytesSigned_inj {w : Nat} {m n : Int} {b : ByteString}
    (hm : toBytesSigned w m = some b) (hn : toBytesSigned w n = some b) : m = n := by
  obtain ⟨⟨hm₀, hm₁⟩, hbm⟩ := toBytesSigned_eq_some.mp hm
  obtain ⟨⟨hn₀, hn₁⟩, hbn⟩ := toBytesSigned_eq_some.mp hn
  have hpow : ((256 ^ w : Nat) : Int) = 256 ^ w := by norm_cast
  have hpos : (0 : Int) < 256 ^ w := Int.pow_pos (by decide)
  have hm₂ := Int.emod_nonneg m hpos.ne'
  have hn₂ := Int.emod_nonneg n hpos.ne'
  have hm₃ := Int.emod_lt_of_pos m hpos
  have hn₃ := Int.emod_lt_of_pos n hpos
  have h : (m % 256 ^ w).toNat = (n % 256 ^ w).toNat := by
    apply @bigEndian_inj w _ _ _ _ (hbm.trans hbn.symm) <;> omega
  -- equal residues within half the modulus of zero are equal numbers
  have hdvd : (256 : Int) ^ w ∣ m - n :=
    Int.dvd_of_emod_eq_zero (Int.emod_eq_emod_iff_emod_sub_eq_zero.mp (by omega))
  have hzero : m - n = 0 := by
    apply Int.eq_zero_of_abs_lt_dvd hdvd
    generalize (256 : Int) ^ w = M at hm₀ hm₁ hn₀ hn₁
    rw [abs_lt]
    omega
  omega

/-! ## Text -/

/-- The UTF-8 bytes of a text. -/
def utf8 (s : String) : ByteString := s.toUTF8.data.toList

theorem utf8_inj {s t : String} (h : utf8 s = utf8 t) : s = t := by
  apply String.toByteArray_inj.mp
  have hd : s.toUTF8.data = t.toUTF8.data := Array.toList_inj.mp h
  cases hs : s.toByteArray
  cases ht : t.toByteArray
  simp only [String.toUTF8_eq_toByteArray, hs, ht] at hd
  rw [hd]

/-- The ASCII bytes of a text, if every character has one. -/
def ascii (s : String) : Option ByteString :=
  if s.toList.all (fun c => c.toNat < 128) then
    some (s.toList.map fun c => UInt8.ofNat c.toNat)
  else none

theorem ascii_eq_some {s : String} {b : ByteString} :
    ascii s = some b ↔ (∀ c ∈ s.toList, c.toNat < 128) ∧
      s.toList.map (fun c => UInt8.ofNat c.toNat) = b := by
  unfold ascii
  split <;> simp_all

theorem ascii_length {s : String} {b : ByteString} (h : ascii s = some b) :
    b.length = s.toList.length := by
  rw [← (ascii_eq_some.mp h).2, List.length_map]

theorem ascii_inj {s t : String} {b : ByteString} (hs : ascii s = some b)
    (ht : ascii t = some b) : s = t := by
  obtain ⟨hs₀, hs₁⟩ := ascii_eq_some.mp hs
  obtain ⟨ht₀, ht₁⟩ := ascii_eq_some.mp ht
  have heq := hs₁.trans ht₁.symm
  apply String.toList_injective
  apply List.ext_getElem
  · simpa using congrArg List.length heq
  · intro i h₁ h₂
    -- below 128 a character is determined by its byte
    have hi := congrArg (fun l => l[i]?) heq
    simp only [List.getElem?_map, List.getElem?_eq_getElem h₁, List.getElem?_eq_getElem h₂,
      Option.map_some, Option.some.injEq] at hi
    have hx := hs₀ _ (List.getElem_mem h₁)
    have hy := ht₀ _ (List.getElem_mem h₂)
    have hn := congrArg UInt8.toNat hi
    simp only [UInt8.toNat_ofNat'] at hn
    exact Char.toNat_inj.mp (by omega)

/-! ## Blocks that announce their length -/

/-- A block behind its own length in `w` bytes, if the length fits. -/
def lengthPrefixed (w : Nat) (b : ByteString) : Option ByteString :=
  (toBytes w b.length).map fun n => n ++ b

theorem lengthPrefixed_append_inj {w : Nat} {a b p q r s : ByteString}
    (hp : lengthPrefixed w a = some p) (hq : lengthPrefixed w b = some q)
    (h : p ++ r = q ++ s) : a = b ∧ r = s := by
  unfold lengthPrefixed at hp hq
  obtain ⟨m, hm, rfl⟩ := Option.map_eq_some_iff.mp hp
  obtain ⟨n, hn, rfl⟩ := Option.map_eq_some_iff.mp hq
  rw [List.append_assoc, List.append_assoc] at h
  obtain ⟨hmn, hrest⟩ := List.append_inj h (by rw [toBytes_length hm, toBytes_length hn])
  subst hmn
  have hlen : (a.length : Int) = b.length := toBytes_inj hm hn
  exact List.append_inj hrest (by omega)

end Lib.Bytes
