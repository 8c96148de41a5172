import LatticeLtc.Go.Strings
import Mathlib.Data.Nat.Digits

/-! # Go integers and `strconv`

`int` is 64 bits wide; `GoInt` keeps its range as fields. The conversions the code makes are Go's:
`uint16(v)` keeps the low 16 bits (`toUint16`) and `uint(v)` reads the 64 bits unsigned (`toUint`).
`strconv.Atoi` accepts an optional `+` or `-` followed by at least one decimal digit, and fails when
the value leaves the range of `int` (`atoi`); `strconv.Itoa` writes the decimal digits, after a `-`
for a negative value (`itoa`).

* `toNat_toUint16`: the port a conversion gives is the value modulo `2^16`;
* `atoi_itoa`: `Atoi` reads back what `Itoa` writes, on every `int`. -/

namespace LatticeLtc.Go.Ints

open LatticeLtc.Go.Strings

/-- Go's `int` on a 64-bit target. -/
structure GoInt where
  val : Int
  ge : -2 ^ 63 ≤ val
  lt : val < 2 ^ 63
deriving DecidableEq

/-- `uint16(v)`: the low 16 bits. -/
def toUint16 (v : Int) : UInt16 := UInt16.ofNat (v % 65536).toNat

/-- `uint(v)`: the 64 bits read unsigned. -/
def toUint (v : Int) : Nat := (v % 2 ^ 64).toNat

theorem toNat_toUint16 (v : Int) : ((toUint16 v).toNat : Int) = v % 65536 := by
  show (((v % 65536).toNat % 65536 : Nat) : Int) = v % 65536
  omega

theorem toUint16_of_lt {v : Int} (h0 : 0 ≤ v) (h : v < 65536) : (toUint16 v).toNat = v.toNat := by
  have := toNat_toUint16 v
  omega

theorem toNat_uint16_lt (p : UInt16) : p.toNat < 65536 := p.val.isLt

theorem toUint16_inj {a b : UInt16} (h : a.toNat = b.toNat) : a = b :=
  UInt16.eq_of_val_eq (Fin.ext h)

theorem toUint16_toNat (p : UInt16) : toUint16 (p.toNat : Int) = p :=
  toUint16_inj (by have := p.val.isLt; rw [toUint16_of_lt (by omega) (by exact_mod_cast this)]; simp)

/-- An `int` is in `1..100` exactly when its `uint` is. -/
theorem toUint_mem_iff (x : GoInt) : (1 ≤ toUint x.val ∧ toUint x.val ≤ 100) ↔ (1 ≤ x.val ∧ x.val ≤ 100) := by
  have := x.ge; have := x.lt
  unfold toUint; omega

/-! ### `strconv.Atoi` -/

/-- The value of a decimal digit character. -/
def digitValue (c : Char) : Nat := c.toNat - '0'.toNat

/-- The value of a string of decimal digits, most significant first, accumulated as Go's loop does
(`n = n*10 + d`). -/
def decimalValue (ds : Str) : Nat := ds.foldl (fun n c => n * 10 + digitValue c) 0

/-- The sign `Atoi` strips: whether the number is negative, and the text after the sign. -/
def stripSign : Str → Bool × Str
  | '-' :: ds => (true, ds)
  | '+' :: ds => (false, ds)
  | ds => (false, ds)

/-- The value of the digits `ds` after the sign. -/
def signedValue (neg : Bool) (ds : Str) : Int := if neg then -(decimalValue ds : Int) else decimalValue ds

/-- `strconv.Atoi(s)`, `none` for an error. -/
def atoi (s : Str) : Option Int :=
  let (neg, ds) := stripSign s
  if ds ≠ [] ∧ ds.all Char.isDigit then
    if -2 ^ 63 ≤ signedValue neg ds ∧ signedValue neg ds < 2 ^ 63 then some (signedValue neg ds)
    else none
  else none

/-! ### `strconv.Itoa` -/

/-- The decimal digits of `n`, most significant first; `0` is written `0` (`Nat.toDigits`). -/
def natDigits (n : Nat) : Str := Nat.toDigits 10 n

/-- `strconv.Itoa(v)`. -/
def itoa (v : Int) : Str := if v < 0 then '-' :: natDigits v.natAbs else natDigits v.toNat

theorem digitValue_digitChar {d : Nat} (h : d < 10) : digitValue (Nat.digitChar d) = d := by
  interval_cases d <;> rfl

theorem isDigit_digitChar {d : Nat} (h : d < 10) : (Nat.digitChar d).isDigit = true := by
  interval_cases d <;> rfl

theorem decimalValue_append_digit (ds : Str) {d : Nat} (h : d < 10) :
    decimalValue (ds ++ [Nat.digitChar d]) = decimalValue ds * 10 + d := by
  simp [decimalValue, List.foldl_append, digitValue_digitChar h]

/-- Reading the digits back, least significant last, gives `Nat.ofDigits`. -/
theorem decimalValue_reverse_digits {L : List Nat} (h : ∀ d ∈ L, d < 10) :
    decimalValue ((L.reverse).map Nat.digitChar) = Nat.ofDigits 10 L := by
  induction L with
  | nil => rfl
  | cons d L ih =>
    simp only [List.reverse_cons, List.map_append, List.map_cons, List.map_nil, Nat.ofDigits_cons]
    rw [decimalValue_append_digit _ (h d (by simp)), ih fun e he => h e (by simp [he])]
    ring

theorem toDigitsCore_eq {b : Nat} (hb : 2 ≤ b) :
    ∀ fuel n ds, n < fuel → 0 < n →
      Nat.toDigitsCore b fuel n ds = (Nat.digits b n).reverse.map Nat.digitChar ++ ds
  | 0, _, _, h, _ => absurd h (Nat.not_lt_zero _)
  | fuel + 1, n, ds, hf, hn => by
    rw [Nat.toDigitsCore, Nat.digits_def' hb hn]
    split_ifs with h
    · simp [h]
    · rw [toDigitsCore_eq hb fuel (n / b) _ (by have := Nat.div_lt_self hn hb; omega)
        (Nat.pos_of_ne_zero h)]
      simp

theorem natDigits_eq (n : Nat) :
    natDigits n = if n = 0 then ['0'] else (Nat.digits 10 n).reverse.map Nat.digitChar := by
  split_ifs with h
  · subst h; rfl
  · rw [natDigits, Nat.toDigits, toDigitsCore_eq (by norm_num) _ _ _ (by omega) (by omega),
      List.append_nil]

theorem natDigits_ne_nil (n : Nat) : natDigits n ≠ [] := by
  rw [natDigits_eq]
  split_ifs with h
  · simp
  · simpa using Nat.digits_ne_nil_iff_ne_zero.mpr h

theorem all_isDigit_natDigits (n : Nat) : (natDigits n).all Char.isDigit := by
  rw [natDigits_eq]
  split_ifs
  · rfl
  · simpa using fun d hd => isDigit_digitChar (Nat.digits_lt_base (by norm_num) hd)

theorem decimalValue_natDigits (n : Nat) : decimalValue (natDigits n) = n := by
  rw [natDigits_eq]
  split_ifs with h
  · subst h; rfl
  · rw [decimalValue_reverse_digits fun d hd => Nat.digits_lt_base (by norm_num) hd,
      Nat.ofDigits_digits]

theorem stripSign_of_isDigit {ds : Str} (h : ds.all Char.isDigit) : stripSign ds = (false, ds) := by
  match ds, h with
  | [], _ => rfl
  | c :: ds, h =>
    have hc : c.isDigit = true := by simp_all
    have h1 : c ≠ '-' := by rintro rfl; simp at hc
    have h2 : c ≠ '+' := by rintro rfl; simp at hc
    simp [stripSign, h1, h2]

theorem itoa_natCast (n : Nat) : itoa n = natDigits n := by
  simp [itoa]

theorem itoa_natCast_ne_nil (n : Nat) : itoa n ≠ [] := by
  rw [itoa_natCast]; exact natDigits_ne_nil n

/-- `Itoa` writes only digits for a natural number. -/
theorem isDigit_of_mem_itoa {n : Nat} {c : Char} (h : c ∈ itoa n) : c.isDigit = true := by
  rw [itoa_natCast] at h
  exact List.all_eq_true.mp (all_isDigit_natDigits n) c h

/-- **`Atoi` reads back what `Itoa` writes.** -/
theorem atoi_itoa {v : Int} (h1 : -2 ^ 63 ≤ v) (h2 : v < 2 ^ 63) : atoi (itoa v) = some v := by
  have hd := fun n => And.intro (natDigits_ne_nil n) (all_isDigit_natDigits n)
  unfold itoa
  split_ifs with h
  · have hv : signedValue true (natDigits v.natAbs) = v := by
      rw [signedValue, if_pos rfl, decimalValue_natDigits]; omega
    simp only [atoi, stripSign]
    rw [if_pos (hd _), hv, if_pos ⟨h1, h2⟩]
  · have hv : signedValue false (natDigits v.toNat) = v := by
      rw [signedValue, if_neg (by simp), decimalValue_natDigits]; omega
    simp only [atoi, stripSign_of_isDigit (all_isDigit_natDigits _)]
    rw [if_pos (hd _), hv, if_pos ⟨h1, h2⟩]

end LatticeLtc.Go.Ints
