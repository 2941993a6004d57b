import TaskCoordinator.Library.Wire

/-!
# Buffers

The writers and readers of `buffer.hpp` on a little-endian host.  A writer returns the bytes
it appends to the buffer.  A reader takes bytes from the front of what has not been read
yet, and a failed assertion is a failure of the reader.

An integer is converted with `htonl` or `htonll` and its bytes are then copied as they stand
in memory, which puts the highest byte first.
-/

namespace TaskCoordinator.Serialization

open Wire

abbrev Bytes := List UInt8

/-- A computation on a `BufferReader`. -/
abbrev BufferReader (α : Type) := Reader UInt8 α

/-! ## Byte order -/

/-- `htonl` reverses the bytes of its argument. -/
def htonl (value : UInt32) : UInt32 :=
  UInt32.ofNat (ofLittleEndian (littleEndian 4 value.toNat).reverse)

def ntohl (value : UInt32) : UInt32 :=
  htonl value

def htonll (value : UInt64) : UInt64 :=
  ((htonl (value &&& 0xFFFFFFFF).toUInt32).toUInt64 <<< 32) |||
    (htonl (value >>> 32).toUInt32).toUInt64

def ntohll (value : UInt64) : UInt64 :=
  ((ntohl (value &&& 0xFFFFFFFF).toUInt32).toUInt64 <<< 32) |||
    (ntohl (value >>> 32).toUInt32).toUInt64

theorem toNat_htonl (value : UInt32) :
    (htonl value).toNat = ofLittleEndian (littleEndian 4 value.toNat).reverse := by
  have bound := ofLittleEndian_lt (littleEndian 4 value.toNat).reverse
  rw [List.length_reverse, length_littleEndian] at bound
  exact UInt32.toNat_ofNat_of_lt' bound

/-- The bytes of a converted number are those of the number in reverse. -/
theorem littleEndian_htonl (value : UInt32) :
    littleEndian 4 (htonl value).toNat = (littleEndian 4 value.toNat).reverse := by
  have same := littleEndian_ofLittleEndian (littleEndian 4 value.toNat).reverse
  rw [List.length_reverse, length_littleEndian] at same
  rw [toNat_htonl, same]

theorem htonl_htonl (value : UInt32) : htonl (htonl value) = value := by
  apply UInt32.toNat_inj.mp
  rw [toNat_htonl, littleEndian_htonl, List.reverse_reverse]
  exact ofLittleEndian_littleEndian value.toNat_lt

theorem toNat_lowerHalf (value : UInt64) :
    (value &&& 0xFFFFFFFF).toUInt32.toNat = value.toNat % 256 ^ 4 := by
  have mask : (0xFFFFFFFF : UInt64).toNat = 2 ^ 32 - 1 := rfl
  rw [UInt64.toNat_toUInt32, UInt64.toNat_and, mask, Nat.and_two_pow_sub_one_eq_mod,
    Nat.mod_mod]
  rfl

theorem toNat_upperHalf (value : UInt64) :
    (value >>> 32).toUInt32.toNat = value.toNat / 256 ^ 4 := by
  have bound := value.toNat_lt
  have amount : (32 : UInt64).toNat % 64 = 32 := rfl
  rw [UInt64.toNat_toUInt32, UInt64.toNat_shiftRight, Nat.shiftRight_eq_div_pow, amount]
  omega

theorem toNat_combine (upper lower : UInt32) :
    ((upper.toUInt64 <<< 32) ||| lower.toUInt64).toNat =
      lower.toNat + 256 ^ 4 * upper.toNat := by
  have upperBound := upper.toNat_lt
  have lowerBound := lower.toNat_lt
  have amount : (32 : UInt64).toNat % 64 = 32 := rfl
  have fits : upper.toNat <<< 32 % 2 ^ 64 = upper.toNat <<< 32 := by
    rw [Nat.shiftLeft_eq]
    omega
  rw [UInt64.toNat_or, UInt64.toNat_shiftLeft, UInt32.toNat_toUInt64, UInt32.toNat_toUInt64,
    amount, fits, ← Nat.shiftLeft_add_eq_or_of_lt lowerBound, Nat.shiftLeft_eq]
  omega

/-- A 64-bit number is converted half by half, and the halves change places. -/
theorem toNat_htonll (value : UInt64) :
    (htonll value).toNat = ofLittleEndian (littleEndian 8 value.toNat).reverse := by
  have halves : littleEndian 8 value.toNat =
      littleEndian 4 (value.toNat % 256 ^ 4) ++ littleEndian 4 (value.toNat / 256 ^ 4) := by
    rw [littleEndian_mod]
    exact littleEndian_add 4 4 value.toNat
  rw [htonll, toNat_combine, halves, List.reverse_append, ofLittleEndian_append,
    List.length_reverse, length_littleEndian, ← toNat_lowerHalf, ← toNat_upperHalf,
    ← toNat_htonl, ← toNat_htonl]

theorem littleEndian_htonll (value : UInt64) :
    littleEndian 8 (htonll value).toNat = (littleEndian 8 value.toNat).reverse := by
  have same := littleEndian_ofLittleEndian (littleEndian 8 value.toNat).reverse
  rw [List.length_reverse, length_littleEndian] at same
  rw [toNat_htonll, same]

theorem htonll_htonll (value : UInt64) : htonll (htonll value) = value := by
  apply UInt64.toNat_inj.mp
  rw [toNat_htonll, littleEndian_htonll, List.reverse_reverse]
  exact ofLittleEndian_littleEndian value.toNat_lt

/-! ## Writers and readers -/

def writeU8 (value : UInt8) : Bytes :=
  [value]

def writeU32 (value : UInt32) : Bytes :=
  littleEndian 4 (htonl value).toNat

def writeU64 (value : UInt64) : Bytes :=
  littleEndian 8 (htonll value).toNat

/-- The length goes out as 32 bits, whatever it is. -/
def writeString (text : Bytes) : Bytes :=
  writeU32 (UInt32.ofNat text.length) ++ text

def readU8 : BufferReader UInt8 := do
  let bytes ← block 1
  pure (UInt8.ofNat (ofLittleEndian bytes))

def readU32 : BufferReader UInt32 := do
  let bytes ← block 4
  pure (ntohl (UInt32.ofNat (ofLittleEndian bytes)))

def readU64 : BufferReader UInt64 := do
  let bytes ← block 8
  pure (ntohll (UInt64.ofNat (ofLittleEndian bytes)))

def readString : BufferReader Bytes := do
  let size ← readU32
  block size.toNat

variable {input rest : Bytes}

@[simp] theorem length_writeU32 (value : UInt32) : (writeU32 value).length = 4 :=
  length_littleEndian _ _

@[simp] theorem length_writeU64 (value : UInt64) : (writeU64 value).length = 8 :=
  length_littleEndian _ _

theorem run_readU8 {value : UInt8} :
    readU8.run input = some (value, rest) ↔ input = writeU8 value ++ rest := by
  simp only [readU8, run_bind_eq_some, run_pure_eq_some, run_block_eq_some, writeU8]
  constructor
  · rintro ⟨bytes, middle, ⟨single, rfl⟩, rfl, rfl⟩
    obtain ⟨byte, rfl⟩ := List.length_eq_one_iff.mp single
    simp [ofLittleEndian]
  · rintro rfl
    exact ⟨[value], rest, ⟨rfl, rfl⟩, by simp [ofLittleEndian], rfl⟩

/-- The number that was written is in the bytes. -/
theorem ntohl_writeU32 (value : UInt32) :
    ntohl (UInt32.ofNat (ofLittleEndian (writeU32 value))) = value := by
  rw [writeU32, ofLittleEndian_littleEndian (htonl value).toNat_lt, UInt32.ofNat_toNat, ntohl,
    htonl_htonl]

theorem run_readU32 {value : UInt32} :
    readU32.run input = some (value, rest) ↔ input = writeU32 value ++ rest := by
  simp only [readU32, run_bind_eq_some, run_pure_eq_some, run_block_eq_some]
  constructor
  · rintro ⟨bytes, middle, ⟨four, rfl⟩, rfl, rfl⟩
    have bound := ofLittleEndian_lt bytes
    have same := littleEndian_ofLittleEndian bytes
    rw [four] at bound same
    rw [writeU32, ntohl, htonl_htonl, UInt32.toNat_ofNat_of_lt' bound, same]
  · rintro rfl
    exact ⟨_, rest, ⟨length_writeU32 value, rfl⟩, ntohl_writeU32 value, rfl⟩

theorem ntohll_eq_htonll (value : UInt64) : ntohll value = htonll value := rfl

theorem run_readU64 {value : UInt64} :
    readU64.run input = some (value, rest) ↔ input = writeU64 value ++ rest := by
  simp only [readU64, run_bind_eq_some, run_pure_eq_some, run_block_eq_some, writeU64,
    ntohll_eq_htonll]
  constructor
  · rintro ⟨bytes, middle, ⟨eight, rfl⟩, rfl, rfl⟩
    have bound := ofLittleEndian_lt bytes
    have same := littleEndian_ofLittleEndian bytes
    rw [eight] at bound same
    rw [htonll_htonll, UInt64.toNat_ofNat_of_lt' bound, same]
  · rintro rfl
    refine ⟨_, rest, ⟨length_littleEndian _ _, rfl⟩, ?_, rfl⟩
    rw [ofLittleEndian_littleEndian (htonll value).toNat_lt, UInt64.ofNat_toNat, htonll_htonll]

theorem run_readString {text : Bytes} :
    readString.run input = some (text, rest) ↔
      text.length < 2 ^ 32 ∧ input = writeString text ++ rest := by
  simp only [readString, run_bind_eq_some, run_readU32, run_block_eq_some, writeString]
  constructor
  · rintro ⟨size, middle, rfl, sized, rfl⟩
    refine ⟨sized ▸ size.toNat_lt, ?_⟩
    rw [sized, UInt32.ofNat_toNat, List.append_assoc]
  · rintro ⟨short, rfl⟩
    refine ⟨UInt32.ofNat text.length, text ++ rest, List.append_assoc _ _ _, ?_, rfl⟩
    exact (UInt32.toNat_ofNat_of_lt' short).symm

end TaskCoordinator.Serialization
