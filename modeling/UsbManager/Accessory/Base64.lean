import Mathlib.Data.List.TakeWhile
import UsbManager.Lib.Base64
import UsbManager.Lib.Separated
import UsbManager.Types

/-!
# The decoder of the accessory strings

`UsbAccessoryManager::Base64Decode` collects four characters at a time. A rest of them is filled up with zeros, whose
lookup fails and gives 255, and the bytes that would show it are not copied.
-/

namespace UsbManager.Accessory

def base64Chars : List UInt8 := ascii "ABCDEFGHIJKLMNOPQRSTUVWXYZabcdefghijklmnopqrstuvwxyz0123456789+/"

def isAlnum (c : UInt8) : Bool := (48 ≤ c && c ≤ 57) || (65 ≤ c && c ≤ 90) || (97 ≤ c && c ≤ 122)

/-- A letter, a digit, `+` or `/`. -/
def isBase64 (c : UInt8) : Bool := isAlnum c || c == 43 || c == 47

/-- The position as an `unsigned char`; `npos` becomes 255. -/
def findChar (c : UInt8) : UInt8 :=
  match Separated.find base64Chars c 0 with
  | some index => index.toUInt8
  | none => 255

/-- The sums are those of `int`, cut to an `unsigned char`. -/
def charArray3 (a b c d : UInt8) : List UInt8 := [
  ((a.toNat <<< 2) + ((b.toNat &&& 0x30) >>> 4)).toUInt8,
  (((b.toNat &&& 0xf) <<< 4) + ((c.toNat &&& 0x3c) >>> 2)).toUInt8,
  (((c.toNat &&& 0x3) <<< 6) + d.toNat).toUInt8]

/-- One turn: the characters of the group so far and the decoded data. -/
def decodeChar (state : List UInt8 × List UInt8) (c : UInt8) : List UInt8 × List UInt8 :=
  match state with
  | ([c₀, c₁, c₂], decoded) =>
    ([], decoded ++ charArray3 (findChar c₀) (findChar c₁) (findChar c₂) (findChar c))
  | (chars, decoded) => (chars ++ [c], decoded)

/-- `len` is an `int`, and the character after the last one is zero, which is not of the alphabet. -/
def decodeLoop (len : Int) : List UInt8 → List UInt8 × List UInt8 → List UInt8 × List UInt8
  | [], state => state
  | c :: rest, state =>
    if len ≠ 0 ∧ c ≠ Base64.pad ∧ isBase64 c then decodeLoop (len - 1) rest (decodeChar state c) else state

/-- A group that the text breaks off, filled up with zeros. One byte less than its characters is kept. -/
def decodeRest (chars : List UInt8) : List UInt8 :=
  if chars.length = 0 then []
  else
    (charArray3 (findChar (chars.getD 0 0)) (findChar (chars.getD 1 0)) (findChar (chars.getD 2 0))
      (findChar (chars.getD 3 0))).take (chars.length - 1)

/-- The length of the text is cut to an `int`. -/
def base64Decode (basicString : List UInt8) : List UInt8 :=
  let (chars, decoded) := decodeLoop ((basicString.length : Int).bmod (2 ^ 32)) basicString ([], [])
  decoded ++ decodeRest chars

/-! ## The alphabet -/

theorem base64Chars_eq : base64Chars = Base64.alphabet := by
  decide

theorem isBase64_iff (c : UInt8) : isBase64 c = true ↔ c ∈ Base64.alphabet := by
  have h43 : c = 43 ↔ c.toNat = 43 := UInt8.toNat_inj.symm
  have h47 : c = 47 ↔ c.toNat = 47 := UInt8.toNat_inj.symm
  unfold isBase64 isAlnum
  simp only [Base64.mem_alphabet, Bool.or_eq_true, Bool.and_eq_true, decide_eq_true_eq, beq_iff_eq,
    UInt8.le_iff_toNat_le, h43, h47, UInt8.toNat_ofNat]
  omega

theorem findChar_eq {c : UInt8} (h : c ∈ Base64.alphabet) : (findChar c).toNat = Base64.code c := by
  have hlt : Base64.code c < 256 := (Base64.code_lt h).trans (by omega)
  unfold findChar
  rw [base64Chars_eq, Separated.find_of_mem h]
  exact UInt8.toNat_ofNat_of_lt' hlt

/-! ## The groups -/

theorem masks : ∀ n < 64, (n &&& 0x30) >>> 4 = n / 16 ∧ n &&& 0xf = n % 16 ∧ (n &&& 0x3c) >>> 2 = n / 4 ∧
    n &&& 0x3 = n % 4 := by
  decide +kernel

theorem first_byte {a b : UInt8} (ha : a ∈ Base64.alphabet) (hb : b ∈ Base64.alphabet) (c d : UInt8) :
    (charArray3 (findChar a) (findChar b) c d).take 1 = Base64.bytes2 (Base64.code a) (Base64.code b) := by
  have := Base64.code_lt ha
  have := Base64.code_lt hb
  unfold charArray3 Base64.bytes2
  rw [findChar_eq ha, findChar_eq hb, (masks _ (Base64.code_lt hb)).1, Nat.shiftLeft_eq, List.take_succ_cons,
    List.take_zero]
  congr 2
  omega

theorem first_two_bytes {a b c : UInt8} (ha : a ∈ Base64.alphabet) (hb : b ∈ Base64.alphabet)
    (hc : c ∈ Base64.alphabet) (d : UInt8) :
    (charArray3 (findChar a) (findChar b) (findChar c) d).take 2 =
      Base64.bytes3 (Base64.code a) (Base64.code b) (Base64.code c) := by
  have := Base64.code_lt ha
  have := Base64.code_lt hb
  have := Base64.code_lt hc
  obtain ⟨hhigh, hlow, -, -⟩ := masks _ (Base64.code_lt hb)
  unfold charArray3 Base64.bytes3
  rw [findChar_eq ha, findChar_eq hb, findChar_eq hc, hhigh, hlow, (masks _ (Base64.code_lt hc)).2.2.1,
    Nat.shiftLeft_eq, Nat.shiftLeft_eq, List.take_succ_cons, List.take_succ_cons, List.take_zero]
  congr 2
  · omega
  · congr 1
    omega

theorem three_bytes {a b c d : UInt8} (ha : a ∈ Base64.alphabet) (hb : b ∈ Base64.alphabet)
    (hc : c ∈ Base64.alphabet) (hd : d ∈ Base64.alphabet) :
    charArray3 (findChar a) (findChar b) (findChar c) (findChar d) =
      Base64.bytes4 (Base64.code a) (Base64.code b) (Base64.code c) (Base64.code d) := by
  have := Base64.code_lt ha
  have := Base64.code_lt hb
  have := Base64.code_lt hc
  have := Base64.code_lt hd
  obtain ⟨hhigh, hlow, -, -⟩ := masks _ (Base64.code_lt hb)
  obtain ⟨-, -, hhigh', hlow'⟩ := masks _ (Base64.code_lt hc)
  unfold charArray3 Base64.bytes4
  rw [findChar_eq ha, findChar_eq hb, findChar_eq hc, findChar_eq hd, hhigh, hlow, hhigh', hlow']
  simp only [Nat.shiftLeft_eq]
  congr 2
  · omega
  · congr 1
    omega
  · congr 2
    omega

theorem foldl_decodeChar (chars : List UInt8) (h : ∀ c ∈ chars, c ∈ Base64.alphabet) (decoded : List UInt8) :
    (chars.foldl decodeChar ([], decoded)).2 ++ decodeRest (chars.foldl decodeChar ([], decoded)).1 =
      decoded ++ Base64.decode chars := by
  fun_induction Base64.decode chars generalizing decoded with
  | case1 a b c d rest ih =>
    simp only [List.mem_cons, forall_eq_or_imp] at h
    obtain ⟨ha, hb, hc, hd, hrest⟩ := h
    rw [← three_bytes ha hb hc hd, ← List.append_assoc]
    exact ih hrest _
  | case2 a b c =>
    simp only [List.mem_cons, forall_eq_or_imp] at h
    rw [← first_two_bytes h.1 h.2.1 h.2.2.1]
    rfl
  | case3 a b =>
    simp only [List.mem_cons, forall_eq_or_imp] at h
    rw [← first_byte h.1 h.2.1]
    rfl
  | case4 | case5 => rfl

/-! ## The loop -/

theorem decodeLoop_eq (chars : List UInt8) (state : List UInt8 × List UInt8) :
    decodeLoop chars.length chars state = (chars.takeWhile isBase64).foldl decodeChar state := by
  induction chars generalizing state with
  | nil => rfl
  | cons c rest ih =>
    unfold decodeLoop
    by_cases hc : isBase64 c = true
    · have hpad : c ≠ Base64.pad := by
        rintro rfl
        exact Base64.pad_notMem ((isBase64_iff _).mp hc)
      have hlen : ((c :: rest).length : Int) - 1 = rest.length := by simp
      have hne : ((c :: rest).length : Int) ≠ 0 := by simp; omega
      rw [if_pos ⟨hne, hpad, hc⟩, hlen, ih, List.takeWhile_cons_of_pos hc, List.foldl_cons]
    · rw [if_neg (fun h => hc h.2.2), List.takeWhile_cons_of_neg hc, List.foldl_nil]

/-- The longest start of a text that is of the alphabet. -/
def alphabetPart (text : List UInt8) : List UInt8 := text.takeWhile (· ∈ Base64.alphabet)

theorem takeWhile_isBase64 (text : List UInt8) : text.takeWhile isBase64 = alphabetPart text := by
  unfold alphabetPart
  congr 1
  funext c
  rw [Bool.eq_iff_iff, isBase64_iff, decide_eq_true_iff]

theorem base64Decode_eq (basicString : List UInt8) (h : basicString.length < 2 ^ 31) :
    base64Decode basicString = Base64.decode (alphabetPart basicString) := by
  have hlen : (basicString.length : Int).bmod (2 ^ 32) = basicString.length := by
    apply Int.bmod_eq_of_le <;> omega
  have halphabet : ∀ c ∈ alphabetPart basicString, c ∈ Base64.alphabet := by
    intro c hc
    simpa using List.mem_takeWhile_imp hc
  unfold base64Decode
  rw [hlen, decodeLoop_eq, takeWhile_isBase64]
  exact (foldl_decodeChar _ halphabet []).trans (List.nil_append _)

theorem alphabetPart_encode (bytes padding text : List UInt8)
    (hpadding : padding = [] ∨ padding = Base64.padding bytes)
    (htext : ∀ c, text.head? = some c → c ∉ Base64.alphabet) :
    alphabetPart (Base64.encode bytes ++ padding ++ text) = Base64.encode bytes := by
  have hrest : alphabetPart (padding ++ text) = [] := by
    have hstart : ∀ c, (padding ++ text).head? = some c → c ∉ Base64.alphabet := by
      intro c hc
      rcases padding with - | ⟨p, padding⟩
      · exact htext c hc
      · obtain rfl := Option.some.inj hc
        have hp : p ∈ Base64.padding bytes := by
          rw [← hpadding.resolve_left (List.cons_ne_nil _ _)]
          exact List.mem_cons_self
        rw [List.eq_of_mem_replicate hp]
        exact Base64.pad_notMem
    rcases hall : padding ++ text with - | ⟨c, rest⟩
    · rfl
    · rw [hall] at hstart
      exact List.takeWhile_cons_of_neg (by simpa using hstart c rfl)
  unfold alphabetPart at hrest ⊢
  rw [List.append_assoc, List.takeWhile_append_of_pos, hrest, List.append_nil]
  intro c hc
  simpa using Base64.encode_alphabet bytes c hc

/-- An encoding is decoded to its bytes, with or without its padding and whatever follows it. Every text is decoded by
the part of it that is of the alphabet alone, to as many bytes as this part has whole ones. -/
theorem base64Decode_inverts (basicString : List UInt8) (h : basicString.length < 2 ^ 31) :
    (∀ bytes padding text, padding = [] ∨ padding = Base64.padding bytes →
      (∀ c, text.head? = some c → c ∉ Base64.alphabet) →
      basicString = Base64.encode bytes ++ padding ++ text → base64Decode basicString = bytes) ∧
    (∀ other : List UInt8, other.length < 2 ^ 31 → alphabetPart other = alphabetPart basicString →
      base64Decode other = base64Decode basicString) ∧
    (base64Decode basicString).length = 6 * (alphabetPart basicString).length / 8 := by
  rw [base64Decode_eq basicString h]
  refine ⟨?_, ?_, Base64.length_decode _⟩
  · rintro bytes padding text hpadding htext rfl
    rw [alphabetPart_encode bytes padding text hpadding htext, Base64.decode_encode]
  · intro other hother hpart
    rw [base64Decode_eq other hother, hpart]

theorem base64Decode_inverts_padded :
    base64Decode (ascii "AAFi/w==\n") = [0, 1, 98, 255] := by
  have h := (base64Decode_inverts (ascii "AAFi/w==\n") (by decide)).1 [0, 1, 98, 255] (ascii "==") (ascii "\n")
  refine h (.inr (by decide)) ?_ (by decide)
  intro c hc
  obtain rfl : (10 : UInt8) = c := Option.some.inj hc
  decide

end UsbManager.Accessory
