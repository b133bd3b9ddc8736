import Keyset.Bytes.Deflate
import Mathlib

/-!
# Keyset — bits are read back

A reader of bits is specified by what it reads from the bits that it takes, whatever follows
them; specifications are put together as readers are. Numbers are read back from their bits,
and a sequence of bits from its bytes, up to the zeros that fill the last byte.

* `BitReader.Reads` — a reader takes bits and gives a value; `Reads.bind`, `Reads.mapM`.
* `BitReader.reads_number` — numbers are read back.
* `bitsOfBytes_bytesOfBits` — bytes hold their bits.
-/

namespace Keyset

open Deflate (numberBits)

/-! ## Readers -/

namespace BitReader

variable {α β γ : Type}

/-- A reader takes bits from the front of its input and gives a value. -/
def Reads (r : BitReader α) (bits : List Bool) (a : α) : Prop :=
  ∀ rest, r.run (bits ++ rest) = some (a, rest)

theorem reads_pure (a : α) : Reads (pure a) [] a := fun _ => rfl

/-- Two readers in a row take the bits of both. -/
theorem Reads.bind {r : BitReader α} {f : α → BitReader β} {front back : List Bool} {a : α} {b : β}
    (h : r.Reads front a) (h' : (f a).Reads back b) : (r >>= f).Reads (front ++ back) b := by
  intro rest
  rw [StateT.run_bind, List.append_assoc, h, Option.bind_eq_bind, Option.bind_some]
  exact h' rest

/-- What is made of a value takes no bits. -/
theorem Reads.map {r : BitReader α} {bits : List Bool} {a : α} (h : r.Reads bits a) (f : α → β) :
    (r >>= fun x => pure (f x)).Reads bits (f a) := by
  rw [← List.append_nil bits]
  exact h.bind (reads_pure (f a))

/-- A look-up that succeeds takes no bits. -/
theorem reads_lift {o : Option α} {a : α} (h : o = some a) : Reads (o : BitReader α) [] a := by
  subst h
  exact fun _ => rfl

theorem reads_lift_bind {o : Option α} {a : α} {f : α → BitReader β} {bits : List Bool} {b : β}
    (h : o = some a) (hRest : (f a).Reads bits b) : Reads ((o : BitReader α) >>= f) bits b :=
  (reads_lift h).bind hRest

/-- Reading one value after the other. -/
theorem Reads.mapM {r : BitReader β} {write : γ → List Bool} {read : γ → β} {xs : List γ}
    (h : ∀ x ∈ xs, r.Reads (write x) (read x)) {places : List Nat}
    (hPlaces : places.length = xs.length) :
    (places.mapM fun _ => r).Reads (xs.flatMap write) (xs.map read) := by
  induction xs generalizing places with
  | nil =>
    obtain rfl := List.length_eq_zero_iff.mp hPlaces
    exact reads_pure []
  | cons x xs ih =>
    -- the places are only counted: any list as long as the other does
    cases places with
    | nil => cases hPlaces
    | cons place places =>
      rw [List.mapM_cons, List.flatMap_cons, List.map_cons]
      refine (h x (List.mem_cons_self ..)).bind ?_
      have hrest := ih (fun y hy => h y (List.mem_cons_of_mem _ hy)) (Nat.succ.inj hPlaces)
      exact hrest.map _

end BitReader

/-! ## Numbers -/

theorem numberBits_succ (width n : Nat) :
    numberBits (width + 1) n = (n % 2 == 1) :: numberBits width (n / 2) := by
  have hdigit (i : Nat) : n / Nat.pow 2 (i + 1) = n / 2 / Nat.pow 2 i := by
    rw [Nat.div_div_eq_div_mul]
    exact congrArg (n / ·) (Nat.pow_succ'.trans rfl)
  rw [numberBits, List.range_succ_eq_map, List.map_cons, List.map_map, numberBits]
  refine congrArg₂ List.cons ?_ (List.map_congr_left fun i _ => ?_)
  · rw [show n / Nat.pow 2 0 = n from Nat.div_one n]
  · rw [Function.comp, Nat.succ_eq_add_one, hdigit]

@[simp] theorem length_numberBits (width n : Nat) : (numberBits width n).length = width := by
  rw [numberBits, List.length_map, List.length_range]

/-- The lowest bit of a number and the others together are the number. -/
theorem bit_add_double (n : Nat) : (if (n % 2 == 1) = true then 1 else 0) + 2 * (n / 2) = n := by
  rcases Nat.mod_two_eq_zero_or_one n with h | h <;> simp only [h] <;> simp <;> omega

/-- **A number is read back from its bits.** -/
theorem BitReader.reads_number {width n : Nat} (h : n < 2 ^ width) :
    (number width).Reads (numberBits width n) n := by
  induction width generalizing n with
  | zero =>
    obtain rfl : n = 0 := by omega
    exact reads_pure 0
  | succ width ih =>
    rw [number, numberBits_succ]
    have hbit : bit.Reads [n % 2 == 1] (n % 2 == 1) := fun _ => rfl
    have hrest := (ih (show n / 2 < 2 ^ width by omega)).map
      fun rest => (if (n % 2 == 1) = true then 1 else 0) + 2 * rest
    rw [bit_add_double] at hrest
    exact hbit.bind hrest

theorem numberOfBits_lt (bits : List Bool) : numberOfBits bits < 2 ^ bits.length := by
  induction bits with
  | nil => exact Nat.one_pos
  | cons b rest ih =>
    rw [numberOfBits, List.length_cons, Nat.pow_succ]
    split <;> omega

/-- The bits of the number that bits denote are these bits, filled up with zeros. -/
theorem numberBits_numberOfBits {bits : List Bool} {width : Nat} (h : bits.length ≤ width) :
    numberBits width (numberOfBits bits) = bits ++ List.replicate (width - bits.length) false := by
  have hzero (width : Nat) : numberBits width 0 = List.replicate width false := by
    have hbit : ∀ i ∈ List.range width, (0 / Nat.pow 2 i % 2 == 1) = false := fun i _ => by simp
    rw [numberBits, List.map_eq_replicate_iff.mpr hbit, List.length_range]
  induction bits generalizing width with
  | nil => rw [numberOfBits, hzero, List.nil_append, List.length_nil, Nat.sub_zero]
  | cons b rest ih =>
    obtain ⟨width, rfl⟩ := Nat.exists_eq_succ_of_ne_zero (Nat.ne_zero_of_lt h)
    rw [List.length_cons] at h
    -- the first bit is the lowest one, and the others make up the half
    have hhead : (numberOfBits (b :: rest) % 2 == 1) = b := by
      rw [numberOfBits]
      cases b <;> simp
    have htail : numberOfBits (b :: rest) / 2 = numberOfBits rest := by
      rw [numberOfBits]
      split <;> omega
    rw [numberBits_succ, hhead, htail, ih (by omega), List.length_cons, Nat.succ_eq_add_one,
      Nat.add_sub_add_right, List.cons_append]

/-! ## Bytes -/

theorem bitsOfBytes_cons (b : UInt8) (bs : List UInt8) :
    bitsOfBytes (b :: bs) = numberBits 8 b.toNat ++ bitsOfBytes bs := rfl

theorem bitsOfBytes_append (front back : List UInt8) :
    bitsOfBytes (front ++ back) = bitsOfBytes front ++ bitsOfBytes back := List.flatMap_append

@[simp] theorem length_bitsOfBytes (bs : List UInt8) : (bitsOfBytes bs).length = 8 * bs.length := by
  induction bs with
  | nil => rfl
  | cons b rest ih =>
    rw [bitsOfBytes_cons, List.length_append, length_numberBits, ih, List.length_cons]
    omega

/-- **Bytes hold the bits that they are made of**, and zeros up to the end of the last one. -/
theorem bitsOfBytes_bytesOfBits (bits : List Bool) :
    bitsOfBytes (bytesOfBits bits) =
      bits ++ List.replicate ((8 - bits.length % 8) % 8) false := by
  match bits with
  | [] =>
    rw [bytesOfBits]
    rfl
  | b :: rest =>
    -- eight bits at most make a number that a byte holds
    have hbyte : ((numberOfBits (b :: rest.take 7)).toUInt8).toNat =
        numberOfBits (b :: rest.take 7) := by
      have hlt := numberOfBits_lt (b :: rest.take 7)
      have hpow : 2 ^ (b :: rest.take 7).length ≤ 2 ^ 8 :=
        Nat.pow_le_pow_right (by decide) (by simp)
      rw [Nat.toUInt8_eq, UInt8.toNat_ofNat']
      exact Nat.mod_eq_of_lt (by omega)
    have hlength : (b :: rest.take 7).length ≤ 8 := by simp
    rw [bytesOfBits, bitsOfBytes_cons, hbyte, numberBits_numberOfBits hlength,
      bitsOfBytes_bytesOfBits (rest.drop 7)]
    by_cases hshort : rest.length < 7
    · -- the last byte, which is filled up
      have hdrop : rest.drop 7 = [] := List.drop_eq_nil_of_le (by omega)
      have htake : rest.take 7 = rest := List.take_of_length_le (by omega)
      rw [hdrop, htake, List.length_nil, show (8 - 0 % 8) % 8 = 0 from rfl, List.replicate_zero,
        List.append_nil, List.append_nil, List.length_cons]
      congr 2
      omega
    · -- a full byte, after which as many bits are missing as before
      have hfull : (b :: rest.take 7).length = 8 := by
        rw [List.length_cons, List.length_take]
        omega
      rw [hfull, Nat.sub_self, List.replicate_zero, List.append_nil, ← List.append_assoc,
        List.cons_append, List.take_append_drop, List.length_drop, List.length_cons]
      congr 2
      omega
termination_by bits.length

end Keyset
