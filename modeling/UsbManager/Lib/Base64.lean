import Mathlib.Data.List.Basic

/-!
# Base 64

The encoding of RFC 4648: three bytes are 24 bits, which are four characters, and a rest of one or two bytes is
filled up with zero bits. `decode` takes the whole bytes out of the bits of the characters.
-/

namespace Base64

/-- `A` to `Z`, `a` to `z`, `0` to `9`, `+` and `/`. -/
def alphabet : List UInt8 :=
  ((List.range' 65 26) ++ (List.range' 97 26) ++ (List.range' 48 10) ++ [43, 47]).map Nat.toUInt8

def char (code : Nat) : UInt8 := alphabet.getD code 0

def code (c : UInt8) : Nat := alphabet.idxOf c

def pad : UInt8 := 61

/-- Three bytes at a time. The padding is left out. -/
def encode : List UInt8 → List UInt8
  | x :: y :: z :: rest =>
    let v := x.toNat * 65536 + y.toNat * 256 + z.toNat
    char (v / 262144) :: char (v / 4096 % 64) :: char (v / 64 % 64) :: char (v % 64) :: encode rest
  | [x, y] =>
    let v := (x.toNat * 256 + y.toNat) * 4
    [char (v / 4096), char (v / 64 % 64), char (v % 64)]
  | [x] =>
    let v := x.toNat * 16
    [char (v / 64), char (v % 64)]
  | [] => []

/-- What fills the last group up to four characters. -/
def padding (bytes : List UInt8) : List UInt8 := List.replicate ((3 - bytes.length % 3) % 3) pad

/-- The bytes of four codes, of three and of two. A single code has no whole byte. -/
def bytes4 (a b c d : Nat) : List UInt8 :=
  let v := a * 262144 + b * 4096 + c * 64 + d
  [(v / 65536).toUInt8, (v / 256 % 256).toUInt8, (v % 256).toUInt8]

def bytes3 (a b c : Nat) : List UInt8 :=
  let v := (a * 4096 + b * 64 + c) / 4
  [(v / 256).toUInt8, (v % 256).toUInt8]

def bytes2 (a b : Nat) : List UInt8 := [((a * 64 + b) / 16).toUInt8]

/-- Four characters at a time. A last group of two or three gives one or two bytes. -/
def decode : List UInt8 → List UInt8
  | a :: b :: c :: d :: rest => bytes4 (code a) (code b) (code c) (code d) ++ decode rest
  | [a, b, c] => bytes3 (code a) (code b) (code c)
  | [a, b] => bytes2 (code a) (code b)
  | [_] => []
  | [] => []

theorem code_char : ∀ n < 64, code (char n) = n ∧ char n ∈ alphabet := by
  decide +kernel

theorem mem_alphabet (c : UInt8) :
    c ∈ alphabet ↔ (48 ≤ c.toNat ∧ c.toNat ≤ 57) ∨ (65 ≤ c.toNat ∧ c.toNat ≤ 90) ∨
      (97 ≤ c.toNat ∧ c.toNat ≤ 122) ∨ c.toNat = 43 ∨ c.toNat = 47 := by
  unfold alphabet
  simp only [List.mem_map, List.mem_append, List.mem_range'_1, List.mem_cons, List.not_mem_nil, or_false]
  constructor
  · rintro ⟨n, hn, rfl⟩
    simp only [Nat.toUInt8, UInt8.toNat_ofNat']
    omega
  · intro h
    exact ⟨c.toNat, by omega, UInt8.ofNat_toNat⟩

theorem code_lt {c : UInt8} (h : c ∈ alphabet) : code c < 64 := List.idxOf_lt_length_of_mem h

theorem pad_notMem : pad ∉ alphabet := by
  decide

theorem length_decode (chars : List UInt8) : (decode chars).length = 6 * chars.length / 8 := by
  fun_induction decode chars with
  | case1 a b c d rest ih =>
    simp [bytes4, ih]
    omega
  | case2 | case3 | case4 | case5 => simp [bytes3, bytes2]

theorem encode_alphabet (bytes : List UInt8) : ∀ c ∈ encode bytes, c ∈ alphabet := by
  fun_induction encode bytes with
  | case1 x y z rest v ih =>
    have := x.toNat_lt
    have := y.toNat_lt
    have := z.toNat_lt
    intro c hc
    simp only [List.mem_cons] at hc
    rcases hc with rfl | rfl | rfl | rfl | hc
    iterate 4 exact (code_char _ (by omega)).2
    exact ih c hc
  | case2 x y v =>
    have := x.toNat_lt
    have := y.toNat_lt
    intro c hc
    simp only [List.mem_cons, List.not_mem_nil, or_false] at hc
    rcases hc with rfl | rfl | rfl
    iterate 3 exact (code_char _ (by omega)).2
  | case3 x v =>
    have := x.toNat_lt
    intro c hc
    simp only [List.mem_cons, List.not_mem_nil, or_false] at hc
    rcases hc with rfl | rfl
    iterate 2 exact (code_char _ (by omega)).2
  | case4 => simp

theorem toUInt8_eq {n : Nat} {x : UInt8} (h : n = x.toNat) : n.toUInt8 = x := by
  rw [h]
  exact UInt8.ofNat_toNat

theorem decode_encode (bytes : List UInt8) : decode (encode bytes) = bytes := by
  fun_induction encode bytes with
  | case1 x y z rest v ih =>
    have := x.toNat_lt
    have := y.toNat_lt
    have := z.toNat_lt
    rw [decode, (code_char (v / 262144) (by omega)).1, (code_char (v / 4096 % 64) (by omega)).1,
      (code_char (v / 64 % 64) (by omega)).1, (code_char (v % 64) (by omega)).1, ih, bytes4]
    rw [toUInt8_eq (x := x) (by omega), toUInt8_eq (x := y) (by omega), toUInt8_eq (x := z) (by omega)]
    rfl
  | case2 x y v =>
    have := x.toNat_lt
    have := y.toNat_lt
    rw [decode, (code_char (v / 4096) (by omega)).1, (code_char (v / 64 % 64) (by omega)).1,
      (code_char (v % 64) (by omega)).1, bytes3]
    rw [toUInt8_eq (x := x) (by omega), toUInt8_eq (x := y) (by omega)]
  | case3 x v =>
    have := x.toNat_lt
    rw [decode, (code_char (v / 64) (by omega)).1, (code_char (v % 64) (by omega)).1, bytes2,
      toUInt8_eq (x := x) (by omega)]
  | case4 => rfl

end Base64
