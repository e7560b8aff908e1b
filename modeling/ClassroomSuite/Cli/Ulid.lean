import Mathlib.Data.List.GetD
import Mathlib.Data.String.Basic
import ClassroomSuite.Library.Radix

/-!
# Invocation identifiers

An invocation is identified by a time in milliseconds of 48 bits and by 80 random bits, which are
written one after the other in Crockford's base 32. The digits are filled in from the last one, and
their characters are in the order of the digits, so that identifiers are ordered by time.

Source: `cli/src/bcs/ulid.py`.

## Main definitions

* `crockfordAlphabet`, `encode`, `newUlid`.
* `decode`, `decodeUlid`: the numbers that are written.

## Main results

* `strictMonoOn_crockfordDigit`: the order of the alphabet.
* `toList_encode`: the digits that are filled in.
* `decodeUlid_ulid`, `ulid_lt_iff`.
* `encode_faithful`.
-/

namespace ClassroomSuite.Cli

open Library

/-- `_CROCKFORD_ALPHABET`. -/
def crockfordAlphabet : List Char := "0123456789ABCDEFGHJKMNPQRSTVWXYZ".toList

/-- `_TIMESTAMP_LEN`. -/
def timestampLen : ℕ := 10

/-- `_RANDOMNESS_LEN`. -/
def randomnessLen : ℕ := 16

/-- `_RANDOMNESS_BYTES`. -/
def randomnessBytes : ℕ := 10

/-- The character of the last digit of a number. -/
def lastDigit (value : ℕ) : Char :=
  crockfordAlphabet.get ⟨value &&& 0x1F, Nat.and_lt_two_pow (n := 5) value (by decide)⟩

/-- One digit is filled in, and the number shifted. -/
def fillDigit (state : ℕ × List String) (i : ℕ) : ℕ × List String :=
  (state.1 >>> 5, state.2.set i (String.singleton (lastDigit state.1)))

/-- The digits of a number, of which there are `length`. -/
def encode (value length : ℕ) : String :=
  String.join ((List.range length).reverse.foldl fillDigit (value, List.replicate length "")).2

/-- The number whose bytes these are, the most significant one first. -/
def fromBytes (bytes : List UInt8) : ℕ := Nat.ofDigits 256 (bytes.map UInt8.toNat).reverse

/-- The identifier of an invocation at a time, which is in nanoseconds. -/
def newUlid (timeNs : ℕ) (urandom : Vector UInt8 randomnessBytes) : String :=
  encode (timeNs / 1000000) timestampLen ++ encode (fromBytes urandom.toList) randomnessLen

/-! ### What is written -/

/-- The character of a digit. -/
def crockfordDigit (d : ℕ) : Char := crockfordAlphabet.getD d '0'

/-- The number that characters of the alphabet write. -/
def decode (cs : List Char) : ℕ := Nat.ofDigits 32 (cs.map crockfordAlphabet.idxOf).reverse

/-- The time and the random bits of an identifier. -/
def decodeUlid (ulid : String) : ℕ × ℕ :=
  (decode (ulid.toList.take timestampLen), decode (ulid.toList.drop timestampLen))

example : newUlid 1469918176385000000 (Vector.replicate _ 255) = "01ARYZ6S41ZZZZZZZZZZZZZZZZ" := by
  decide +kernel

/-! ### The alphabet -/

theorem pairwise_crockfordAlphabet : crockfordAlphabet.Pairwise (· < ·) := by decide +kernel

theorem crockfordDigit_of_lt {d : ℕ} (hd : d < 32) :
    ∃ h : d < crockfordAlphabet.length, crockfordDigit d = crockfordAlphabet[d] :=
  ⟨hd, List.getD_eq_getElem _ _ hd⟩

/-- The characters are in the order of the digits, also where the letters begin. -/
theorem strictMonoOn_crockfordDigit : StrictMonoOn crockfordDigit (Set.Iio 32) := by
  intro d hd e he hlt
  obtain ⟨hd', hdigit⟩ := crockfordDigit_of_lt hd
  obtain ⟨he', hdigit'⟩ := crockfordDigit_of_lt he
  rw [hdigit, hdigit']
  exact List.pairwise_iff_getElem.mp pairwise_crockfordAlphabet d e hd' he' hlt

theorem crockfordDigit_mem {d : ℕ} (hd : d < 32) : crockfordDigit d ∈ crockfordAlphabet := by
  obtain ⟨hd', hdigit⟩ := crockfordDigit_of_lt hd
  rw [hdigit]
  exact List.getElem_mem hd'

theorem idxOf_crockfordDigit {d : ℕ} (hd : d < 32) :
    crockfordAlphabet.idxOf (crockfordDigit d) = d := by
  obtain ⟨hd', hdigit⟩ := crockfordDigit_of_lt hd
  have hnodup : crockfordAlphabet.Nodup := pairwise_crockfordAlphabet.imp ne_of_lt
  rw [hdigit, hnodup.idxOf_getElem]

theorem lastDigit_eq (value : ℕ) : lastDigit value = crockfordDigit (value % 32) := by
  obtain ⟨h, hdigit⟩ := crockfordDigit_of_lt (Nat.mod_lt value (by decide : 0 < 32))
  rw [hdigit, lastDigit, List.get_eq_getElem]
  exact getElem_congr_idx (Nat.and_two_pow_sub_one_eq_mod value 5)

/-! ### Filling in the digits -/

/-- The digits that are filled in stand in front of those that were filled in before. -/
theorem foldl_fillDigit (n value : ℕ) (filled : List String) :
    (List.range n).reverse.foldl fillDigit (value, List.replicate n "" ++ filled) =
      (value >>> (5 * n),
        (bigEndian 32 n value).map (fun d => String.singleton (crockfordDigit d)) ++ filled) := by
  induction n generalizing value filled with
  | zero => simp [bigEndian]
  | succ n ih =>
    have hset : (List.replicate (n + 1) "" ++ filled).set n (String.singleton (lastDigit value)) =
        List.replicate n "" ++ String.singleton (lastDigit value) :: filled := by
      rw [List.replicate_succ', List.append_assoc, List.set_append_right _ _ (by simp)]
      simp
    have hshift : value >>> 5 = value / 32 := Nat.shiftRight_eq_div_pow value 5
    rw [List.range_succ, List.reverse_append, List.reverse_singleton, List.singleton_append,
      List.foldl_cons, fillDigit, hset, ih, ← Nat.shiftRight_add, hshift, lastDigit_eq, bigEndian]
    simp [Nat.mul_succ, Nat.add_comm]

/-- A number is written by its digits. -/
theorem toList_encode (value length : ℕ) :
    (encode value length).toList = (bigEndian 32 length value).map crockfordDigit := by
  have hfold := foldl_fillDigit length value []
  rw [List.append_nil, List.append_nil] at hfold
  rw [encode, hfold, String.toList_join, List.flatMap_map, List.map_eq_flatMap]
  simp only [String.toList_singleton]

/-- The characters of a number are ordered as the numbers are. -/
theorem map_crockfordDigit_lt_iff {n x y : ℕ} (hx : x < 32 ^ n) (hy : y < 32 ^ n) :
    (bigEndian 32 n x).map crockfordDigit < (bigEndian 32 n y).map crockfordDigit ↔ x < y := by
  have hdigits (z : ℕ) : ∀ d ∈ bigEndian 32 n z, d ∈ Set.Iio 32 :=
    fun d hd => lt_of_mem_bigEndian (by decide) hd
  rw [map_lt_map_iff strictMonoOn_crockfordDigit (hdigits x) (hdigits y),
    bigEndian_lt_iff (by decide) hx hy]

/-- What has been written is decoded. -/
theorem decode_map_crockfordDigit {n x : ℕ} (hx : x < 32 ^ n) :
    decode ((bigEndian 32 n x).map crockfordDigit) = x := by
  have hmap : ((bigEndian 32 n x).map crockfordDigit).map crockfordAlphabet.idxOf =
      bigEndian 32 n x := by
    rw [List.map_map]
    exact (List.map_congr_left fun d hd =>
      idxOf_crockfordDigit (lt_of_mem_bigEndian (by decide) hd)).trans (List.map_id _)
  rw [decode, hmap, ofDigits_bigEndian hx]

/-! ### Identifiers -/

theorem toList_ulid (t r : ℕ) :
    (encode t timestampLen ++ encode r randomnessLen).toList =
      (bigEndian 32 timestampLen t).map crockfordDigit ++
        (bigEndian 32 randomnessLen r).map crockfordDigit := by
  rw [String.toList_append, toList_encode, toList_encode]

/-- A time of 48 bits has no more digits than are written. -/
theorem lt_of_timestamp {t : ℕ} (ht : t < 2 ^ 48) : t < 32 ^ timestampLen :=
  lt_of_lt_of_le ht (by decide)

/-- So have 80 random bits. -/
theorem lt_of_randomness {r : ℕ} (hr : r < 2 ^ 80) : r < 32 ^ randomnessLen :=
  lt_of_lt_of_le hr (by decide)

theorem decodeUlid_ulid {t r : ℕ} (ht : t < 2 ^ 48) (hr : r < 2 ^ 80) :
    decodeUlid (encode t timestampLen ++ encode r randomnessLen) = (t, r) := by
  have hlength : ((bigEndian 32 timestampLen t).map crockfordDigit).length = timestampLen := by simp
  rw [decodeUlid, toList_ulid, List.take_left' hlength, List.drop_left' hlength,
    decode_map_crockfordDigit (lt_of_timestamp ht), decode_map_crockfordDigit (lt_of_randomness hr)]

/-- Identifiers are ordered by time, and then by the random bits. -/
theorem ulid_lt_iff {t r t' r' : ℕ} (ht : t < 2 ^ 48) (hr : r < 2 ^ 80) (ht' : t' < 2 ^ 48)
    (hr' : r' < 2 ^ 80) :
    encode t timestampLen ++ encode r randomnessLen <
        encode t' timestampLen ++ encode r' randomnessLen ↔
      toLex (t, r) < toLex (t', r') := by
  have hinj : (bigEndian 32 timestampLen t).map crockfordDigit =
      (bigEndian 32 timestampLen t').map crockfordDigit ↔ t = t' := by
    refine ⟨fun h => ?_, fun h => h ▸ rfl⟩
    rw [← decode_map_crockfordDigit (lt_of_timestamp ht), h,
      decode_map_crockfordDigit (lt_of_timestamp ht')]
  rw [String.lt_iff_toList_lt, toList_ulid, toList_ulid, append_lt_append_iff (by simp),
    map_crockfordDigit_lt_iff (lt_of_timestamp ht) (lt_of_timestamp ht'), hinj,
    map_crockfordDigit_lt_iff (lt_of_randomness hr) (lt_of_randomness hr'), Prod.Lex.toLex_lt_toLex]

theorem fromBytes_lt (urandom : Vector UInt8 randomnessBytes) :
    fromBytes urandom.toList < 2 ^ 80 := by
  have hlt := Nat.ofDigits_lt_base_pow_length (b := 256)
    (l := (urandom.toList.map UInt8.toNat).reverse) (by decide) (fun d hd => by
      obtain ⟨byte, -, rfl⟩ := List.mem_map.mp (List.mem_reverse.mp hd)
      exact byte.toNat_lt)
  have hlength : (urandom.toList.map UInt8.toNat).reverse.length = randomnessBytes := by
    rw [List.length_reverse, List.length_map, Vector.length_toList]
  rw [hlength] at hlt
  exact lt_of_lt_of_le hlt (by decide)

/-- Identifiers have 26 characters of the alphabet, from which the time and the random bits are
read back, and are ordered by these. -/
theorem encode_faithful :
    (∀ t r, t < 2 ^ 48 → r < 2 ^ 80 →
      (encode t timestampLen ++ encode r randomnessLen).length = 26 ∧
      (∀ c ∈ (encode t timestampLen ++ encode r randomnessLen).toList, c ∈ crockfordAlphabet) ∧
      decodeUlid (encode t timestampLen ++ encode r randomnessLen) = (t, r)) ∧
    (∀ t r t' r', t < 2 ^ 48 → r < 2 ^ 80 → t' < 2 ^ 48 → r' < 2 ^ 80 →
      (encode t timestampLen ++ encode r randomnessLen <
          encode t' timestampLen ++ encode r' randomnessLen ↔
        toLex (t, r) < toLex (t', r'))) ∧
    ∀ timeNs timeNs' urandom urandom', timeNs / 1000000 < timeNs' / 1000000 →
      timeNs' / 1000000 < 2 ^ 48 → newUlid timeNs urandom < newUlid timeNs' urandom' := by
  refine ⟨fun t r ht hr => ⟨?_, ?_, decodeUlid_ulid ht hr⟩, fun t r t' r' => ulid_lt_iff, ?_⟩
  · rw [← String.length_toList, toList_ulid]
    simp [timestampLen, randomnessLen]
  · have hmem (n x : ℕ) : ∀ c ∈ (bigEndian 32 n x).map crockfordDigit, c ∈ crockfordAlphabet := by
      intro c hc
      obtain ⟨d, hd, rfl⟩ := List.mem_map.mp hc
      exact crockfordDigit_mem (lt_of_mem_bigEndian (by decide) hd)
    rw [toList_ulid]
    exact List.forall_mem_append.mpr ⟨hmem _ _, hmem _ _⟩
  · intro timeNs timeNs' urandom urandom' hlt hbound
    exact (ulid_lt_iff (hlt.trans hbound) (fromBytes_lt urandom) hbound (fromBytes_lt urandom')).mpr
      (Prod.Lex.toLex_lt_toLex.mpr (Or.inl hlt))

/-- One millisecond later, with the smallest random bits after the largest. -/
theorem encode_faithful_next_millisecond :
    newUlid 1469918176384999999 (Vector.replicate _ 255) <
        newUlid 1469918176385000000 (Vector.replicate _ 0) ∧
      decodeUlid (encode 1469918176385 timestampLen ++ encode 7 randomnessLen) =
        (1469918176385, 7) :=
  ⟨encode_faithful.2.2 _ _ _ _ (by decide) (by decide),
    (encode_faithful.1 1469918176385 7 (by decide) (by decide)).2.2⟩

end ClassroomSuite.Cli
