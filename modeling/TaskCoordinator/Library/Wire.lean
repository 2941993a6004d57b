import Mathlib

/-!
# Readers of encoded values

A reader takes symbols from the front of an input and either returns a value with the input
that is left or fails.  `Reads` says that a reader is the exact inverse of an encoder: it
returns a value precisely on those inputs that start with the encoding of the value.  This
one statement holds both what round trips need and what canonicity needs.

Readers are sequenced with `do`.  What a sequence reads is found by taking it apart with
`run_bind_eq_some` and replacing every part by what it reads.
-/

universe u v w

namespace Wire

variable {β : Type u} {α γ : Type u}

/-- A computation that consumes input and may fail. -/
abbrev Reader (β : Type u) (α : Type u) : Type u :=
  StateT (List β) Option α

variable {reader : Reader β α} {input rest : List β}

theorem run_bind_eq_some {next : α → Reader β γ} {result : γ} :
    (reader >>= next).run input = some (result, rest) ↔
      ∃ value middle, reader.run input = some (value, middle) ∧
        (next value).run middle = some (result, rest) := by
  simp [StateT.run_bind, Option.bind_eq_some_iff]

theorem run_pure_eq_some {value result : α} :
    (pure value : Reader β α).run input = some (result, rest) ↔ value = result ∧ input = rest := by
  simp [StateT.run_pure, Prod.mk.injEq]

theorem run_map_eq_some {change : α → γ} {result : γ} :
    (change <$> reader).run input = some (result, rest) ↔
      ∃ value, reader.run input = some (value, rest) ∧ change value = result := by
  simp only [StateT.run_map, Option.map_eq_map, Option.map_eq_some_iff, Prod.mk.injEq, Prod.exists]
  constructor
  · rintro ⟨value, middle, ran, rfl, rfl⟩
    exact ⟨value, ran, rfl⟩
  · rintro ⟨value, ran, rfl⟩
    exact ⟨value, rest, ran, rfl, rfl⟩

/-! ## Readers and encoders -/

/-- The reader returns a value exactly when the value is valid and the input starts with its
encoding, and leaves what follows. -/
def Reads (reader : Reader β α) (encode : α → List β) (valid : α → Prop) : Prop :=
  ∀ input value rest, reader.run input = some (value, rest) ↔
    valid value ∧ input = encode value ++ rest

variable {encode : α → List β} {valid : α → Prop}

/-- What has been encoded is read back. -/
theorem Reads.run_encode (reads : Reads reader encode valid) {value : α} (isValid : valid value)
    (rest : List β) : reader.run (encode value ++ rest) = some (value, rest) :=
  (reads _ value rest).mpr ⟨isValid, rfl⟩

/-! ## Blocks of symbols -/

/-- The next `count` symbols. -/
def block (count : Nat) : Reader β (List β) :=
  fun input => if count ≤ input.length then some (input.take count, input.drop count) else none

theorem run_block_eq_some {count : Nat} {symbols : List β} :
    (block count).run input = some (symbols, rest) ↔
      symbols.length = count ∧ input = symbols ++ rest := by
  simp only [block, StateT.run]
  constructor
  · intro ran
    split at ran
    next enough =>
      obtain ⟨rfl, rfl⟩ := Prod.mk.inj (Option.some.inj ran)
      exact ⟨List.length_take_of_le enough, (List.take_append_drop _ _).symm⟩
    next => cases ran
  · rintro ⟨rfl, rfl⟩
    simp

/-! ## Sequences of values -/

/-- `count` values, one after another. -/
def many (reader : Reader β α) : Nat → Reader β (List α)
  | 0 => pure []
  | count + 1 => do
      let value ← reader
      let values ← many reader count
      pure (value :: values)

/-- A sequence of values is read from their encodings, one after another. -/
theorem Reads.many (reads : Reads reader encode valid) (count : Nat) :
    Reads (many reader count) (fun values => values.flatMap encode)
      (fun values => values.length = count ∧ ∀ value ∈ values, valid value) := by
  induction count with
  | zero =>
      intro input values rest
      rw [Wire.many, run_pure_eq_some]
      constructor
      · rintro ⟨rfl, rfl⟩
        simp
      · rintro ⟨⟨empty, _⟩, split⟩
        rw [List.length_eq_zero_iff.mp empty] at split ⊢
        exact ⟨rfl, by simpa using split⟩
  | succ count ih =>
      intro input values rest
      simp only [Wire.many, run_bind_eq_some, run_pure_eq_some, reads _ _ _, ih _ _ _]
      constructor
      · rintro ⟨value, middle, ⟨isValid, rfl⟩, values, end_, ⟨⟨rfl, allValid⟩, rfl⟩, rfl, rfl⟩
        exact ⟨⟨rfl, by simpa using ⟨isValid, allValid⟩⟩, by simp⟩
      · rintro ⟨⟨counted, allValid⟩, rfl⟩
        cases values with
        | nil => cases counted
        | cons value values =>
            refine ⟨value, values.flatMap encode ++ rest, ⟨allValid value (by simp), by simp⟩,
              values, rest, ⟨⟨by simpa using counted, ?_⟩, rfl⟩, rfl, rfl⟩
            exact fun other member => allValid other (by simp [member])

/-- Encodings from which the reader makes an image of each value are read one after
another. -/
theorem run_many {image : α → γ} {reader : Reader β γ} {values : List α}
    (reads : ∀ value ∈ values, ∀ rest,
      reader.run (encode value ++ rest) = some (image value, rest)) (rest : List β) :
    (many reader values.length).run (values.flatMap encode ++ rest) =
      some (values.map image, rest) := by
  induction values with
  | nil => rfl
  | cons value values ih =>
      simp only [List.length_cons, many, List.flatMap_cons, List.append_assoc]
      refine run_bind_eq_some.mpr ⟨_, _, reads value (by simp) _, ?_⟩
      refine run_bind_eq_some.mpr ⟨_, _, ih fun other member => reads other (by simp [member]), ?_⟩
      rfl

/-- Values with non-empty encodings are no more than the symbols of their encodings. -/
theorem length_le_length_flatMap (nonempty : ∀ value, 0 < (encode value).length)
    (values : List α) : values.length ≤ (values.flatMap encode).length := by
  induction values with
  | nil => rfl
  | cons value values ih =>
      have first := nonempty value
      rw [List.length_cons, List.flatMap_cons, List.length_append]
      omega

/-! ## Numbers in memory -/

/-- The lowest `width` bytes of a number, lowest first. -/
def littleEndian : Nat → Nat → List UInt8
  | 0, _ => []
  | width + 1, number => UInt8.ofNat (number % 256) :: littleEndian width (number / 256)

/-- The number that a list of bytes stands for, lowest byte first. -/
def ofLittleEndian : List UInt8 → Nat
  | [] => 0
  | byte :: bytes => byte.toNat + 256 * ofLittleEndian bytes

@[simp] theorem length_littleEndian (width number : Nat) :
    (littleEndian width number).length = width := by
  induction width generalizing number with
  | zero => rfl
  | succ width ih => simp [littleEndian, ih]

theorem ofLittleEndian_lt (bytes : List UInt8) : ofLittleEndian bytes < 256 ^ bytes.length := by
  induction bytes with
  | nil => simp [ofLittleEndian]
  | cons byte bytes ih =>
      have bound := byte.toNat_lt
      rw [ofLittleEndian, List.length_cons, Nat.pow_succ]
      omega

theorem littleEndian_ofLittleEndian (bytes : List UInt8) :
    littleEndian bytes.length (ofLittleEndian bytes) = bytes := by
  induction bytes with
  | nil => rfl
  | cons byte bytes ih =>
      have bound := byte.toNat_lt
      have low : (byte.toNat + 256 * ofLittleEndian bytes) % 256 = byte.toNat := by omega
      have high : (byte.toNat + 256 * ofLittleEndian bytes) / 256 = ofLittleEndian bytes := by
        omega
      rw [List.length_cons, ofLittleEndian, littleEndian, low, high, ih, UInt8.ofNat_toNat]

theorem ofLittleEndian_littleEndian {width number : Nat} (fits : number < 256 ^ width) :
    ofLittleEndian (littleEndian width number) = number := by
  induction width generalizing number with
  | zero =>
      rw [Nat.pow_zero] at fits
      rw [littleEndian, ofLittleEndian]
      omega
  | succ width ih =>
      have low : (UInt8.ofNat (number % 256)).toNat = number % 256 := by simp
      rw [Nat.pow_succ] at fits
      rw [littleEndian, ofLittleEndian, ih (Nat.div_lt_of_lt_mul (by omega)), low]
      omega

/-- The bytes of a number are those of its lower part and then those of its upper part. -/
theorem littleEndian_add (lower upper number : Nat) :
    littleEndian (lower + upper) number =
      littleEndian lower number ++ littleEndian upper (number / 256 ^ lower) := by
  induction lower generalizing number with
  | zero => simp [littleEndian]
  | succ lower ih =>
      rw [Nat.succ_add, littleEndian, littleEndian, ih, List.cons_append, Nat.div_div_eq_div_mul,
        Nat.pow_succ, Nat.mul_comm 256]

theorem littleEndian_mod (width number : Nat) :
    littleEndian width (number % 256 ^ width) = littleEndian width number := by
  induction width generalizing number with
  | zero => rfl
  | succ width ih =>
      have low : number % 256 ^ (width + 1) % 256 = number % 256 :=
        Nat.mod_mod_of_dvd _ (Dvd.intro_left (256 ^ width) (Nat.pow_succ ..).symm)
      have high : number % 256 ^ (width + 1) / 256 = number / 256 % 256 ^ width := by
        rw [Nat.pow_succ, Nat.mul_comm, Nat.mod_mul_right_div_self]
      rw [littleEndian, littleEndian, low, high, ih]

theorem ofLittleEndian_append (first second : List UInt8) :
    ofLittleEndian (first ++ second) =
      ofLittleEndian first + 256 ^ first.length * ofLittleEndian second := by
  induction first with
  | nil => simp [ofLittleEndian]
  | cons byte bytes ih =>
      rw [List.cons_append, ofLittleEndian, ofLittleEndian, ih, List.length_cons, Nat.pow_succ]
      ring

end Wire
