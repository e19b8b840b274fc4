import Mathlib
import Scriptlet.Number.Layout
import Scriptlet.Number.Reader
import Scriptlet.Proofs.Lexer.Spelling

/-! The texts of the numbers that come from numerals. They have no sign, so that they are spelt
by digits, by a word, or by digits around a dot. -/
namespace Scriptlet.Number
open Float.Model

def Datum.isNegative : Datum → Bool
  | .nan => false
  | .infinite negative => negative
  | .finite negative _ => negative

def isNegative (x : Float) : Bool := (Datum.ofFloat x).isNegative

/-! A word without its highest bit makes a number without a sign. -/

private theorem packComponents_small (exponent : BitVec 11) (mantissa : BitVec 52) :
    (UnpackedFloat.packComponents Format.binary64 .positive exponent mantissa).toNat < 2 ^ 63 := by
  change (0#1 ++ exponent ++ mantissa).toNat < 2 ^ 63
  rw [BitVec.toNat_append,BitVec.toNat_append]
  have high := exponent.isLt
  have low := mantissa.isLt
  apply Nat.or_lt_two_pow
  · simp only [BitVec.toNat_ofNat,Nat.zero_mod,Nat.shiftLeft_eq,Nat.zero_mul,Nat.zero_or]
    omega
  · omega

private theorem unpackSign_small {word : BitVec Format.binary64.numBits}
    (small : word.toNat < 2 ^ 63) :
    UnpackedFloat.unpackSign word = 0#1 := by
  unfold UnpackedFloat.unpackSign
  apply BitVec.eq_of_toNat_eq
  simp [BitVec.extractLsb,Nat.shiftRight_eq_div_pow]
  omega

private theorem pack_finite_small {mantissa : Nat} {exponent : Int} (positive : 0 < mantissa) :
    (UnpackedFloat.pack Format.binary64
      (.finite .positive mantissa exponent positive)).toNat < 2 ^ 63 := by
  simp only [UnpackedFloat.pack]
  split
  · exact packComponents_small _ _
  · split <;> exact packComponents_small _ _

private theorem pack_unpack_small {word : BitVec Format.binary64.numBits}
    (small : word.toNat < 2 ^ 63) :
    (UnpackedFloat.pack Format.binary64
      (UnpackedFloat.unpack Format.binary64 word)).toNat < 2 ^ 63 := by
  unfold UnpackedFloat.unpack
  simp only [unpackSign_small small,UnpackedFloat.Sign.ofBitVec,if_true]
  split
  · split <;> exact packComponents_small _ _
  · split
    · split
      · exact packComponents_small _ _
      · exact pack_finite_small _
    · exact pack_finite_small _

private theorem toBits_small {word : UInt64} (small : word.toNat < 2 ^ 63) :
    (Float.ofBits word).toBits.toNat < 2 ^ 63 := pack_unpack_small small

private theorem isNegative_of_small {x : Float} (small : x.toBits.toNat < 2 ^ 63) :
    isNegative x = false := by
  have sign : decide (twoTo 63 ≤ x.toBits.toNat) = false := by
    rw [decide_eq_false_iff_not]
    exact Nat.not_le.mpr small
  unfold isNegative Datum.ofFloat
  simp only [sign]
  split
  · split <;> rfl
  · split <;> rfl

private theorem div_gap {steps : Nat} (normal : 2 ^ 52 ≤ steps) :
    steps / 2 ^ gapExponent steps < 2 ^ 53 := by
  have log : 52 ≤ steps.log2 := (Nat.le_log2 (by omega)).mpr normal
  have bound : steps < 2 ^ (steps.log2 + 1) := Nat.lt_log2_self
  rw [Nat.div_lt_iff_lt_mul (Nat.two_pow_pos _),← Nat.pow_add]
  have sum : 53 + gapExponent steps = steps.log2 + 1 := by
    unfold gapExponent
    omega
  rwa [sum]

private theorem word_small {datum : Datum} (positive : datum.isNegative = false) :
    datum.word < 2 ^ 63 := by
  cases datum with
  | nan => decide
  | infinite negative =>
    obtain rfl : negative = false := positive
    decide
  | finite negative steps =>
    obtain rfl : negative = false := positive
    simp only [Datum.word,Datum.signWord,Bool.false_eq_true,if_false,Nat.zero_add]
    split
    · next small => exact Nat.lt_trans small (by decide)
    · next normal =>
      split
      · decide
      · next gap =>
        have share := div_gap (Nat.not_lt.mp normal)
        have whole : gapExponent steps * twoTo 52 ≤ 2045 * twoTo 52 :=
          Nat.mul_le_mul_right _ (by omega)
        have size : 2045 * twoTo 52 + 2 ^ 53 < 2 ^ 63 := by decide
        change gapExponent steps * twoTo 52 + steps / 2 ^ gapExponent steps < 2 ^ 63
        omega

private theorem toFloat_positive {datum : Datum} (positive : datum.isNegative = false) :
    isNegative datum.toFloat = false := by
  apply isNegative_of_small
  apply toBits_small
  have small := word_small positive
  rw [Nat.toUInt64,UInt64.toNat_ofNat_of_lt' (Nat.lt_trans small (by decide))]
  exact small

/-! Reading without a sign. -/

private theorem nearest_positive (numerator denominator : Nat) :
    isNegative (nearest false numerator denominator) = false := toFloat_positive rfl

private theorem scaled_positive (significand : Nat) (exponent : Int) :
    isNegative (scaled false significand exponent) = false := by
  unfold scaled
  dsimp only
  split
  · exact toFloat_positive rfl
  · split
    · exact toFloat_positive rfl
    · split
      · exact toFloat_positive rfl
      · exact nearest_positive _ _

private theorem unsigned_positive {chars : List Char} {value : Float}
    (read : unsigned? false chars = some value) : isNegative value = false := by
  unfold unsigned? at read
  dsimp only at read
  split at read
  · obtain rfl := Option.some.inj read
    exact toFloat_positive rfl
  · split at read
    · obtain rfl := Option.some.inj read
      exact toFloat_positive rfl
    · unfold decimal? at read
      dsimp only at read
      split at read
      · split at read
        · cases read
        · obtain ⟨exponent,_,rfl⟩ := Option.map_eq_some_iff.mp read
          exact scaled_positive _ _
      · split at read
        · cases read
        · obtain ⟨exponent,_,rfl⟩ := Option.map_eq_some_iff.mp read
          exact scaled_positive _ _

/-- A numeral reads as a number without a sign. -/
theorem read_positive {text : String} {value : Float} (numeral : IsNumeral text.toList)
    (read : read? text = some value) : isNegative value = false := by
  obtain ⟨_,digits⟩ := numeral
  unfold read? at read
  split at read
  · next minus => simp [minus] at digits
  · next plus => simp [plus] at digits
  · exact unsigned_positive read

/-! The text of a number. -/

inductive Shape : List Char → Prop where
  | word {letters} (read : IsWord letters)
      (free : Token.keyword? (String.ofList letters) = none) : Shape letters
  | whole {digits} (read : IsNumeral digits) : Shape digits
  | parts {digits fraction} (read : IsNumeral digits) (rest : ∀ c ∈ fraction, c.isDigit = true) :
      Shape (digits ++ '.' :: fraction)

private theorem isNumeral_zero : IsNumeral ['0'] := by
  simp [IsNumeral]

private theorem zeros_digits (count : Nat) : ∀ c ∈ zeros count, c.isDigit = true := by
  intro c member
  obtain ⟨_,rfl⟩ := List.mem_replicate.mp member
  decide

private theorem decimalOf_digits (count : Nat) (unit : Int) :
    ∀ c ∈ (decimalOf count unit).digits, c.isDigit = true := by
  intro c member
  have kept : c ∈ (Nat.toDigits 10 count).reverse :=
    (List.dropWhile_sublist _).subset (List.mem_reverse.mp member)
  exact Nat.isDigit_of_mem_toDigits (by decide) (by decide) (List.mem_reverse.mp kept)

private theorem shortest_digits (steps : Nat) :
    ∀ c ∈ (shortest steps).digits, c.isDigit = true := by
  unfold shortest
  dsimp only
  cases found : (List.range 17).findSome? fun index =>
      (onGrid (interval steps) (magnitude steps one - (index + 1 : Nat))).map
        (decimalOf · (magnitude steps one - (index + 1 : Nat))) with
  | none => simp
  | some value =>
    obtain ⟨index,_,chosen⟩ := List.exists_of_findSome?_eq_some found
    obtain ⟨count,_,rfl⟩ := Option.map_eq_some_iff.mp chosen
    exact decimalOf_digits _ _

private theorem decimal_shape {value : Decimal} (digits : ∀ c ∈ value.digits, c.isDigit = true) :
    Shape (plain.decimal value).toList := by
  have positional (power : Int) : plain.positional power = true := rfl
  have ending : plain.wholeEnding = "" := rfl
  simp only [Layout.decimal,positional,ending,if_true]
  split
  · simp only [String.toList_append,String.toList_ofList]
    apply @Shape.parts ['0'] (zeros (-value.point).toNat ++ value.digits) isNumeral_zero
    intro c member
    exact (List.mem_append.mp member).elim (zeros_digits _ c) (digits c)
  · next positive =>
    have some : 1 ≤ value.point.toNat := by omega
    split
    · rw [String.append_empty,String.toList_ofList]
      refine .whole ⟨?_,?_⟩
      · apply List.ne_nil_of_length_pos
        simp only [zeros,List.length_append,List.length_replicate]
        omega
      · intro c member
        exact (List.mem_append.mp member).elim (digits c) (zeros_digits _ c)
    · simp only [String.toList_append,String.toList_ofList,List.append_assoc]
      apply @Shape.parts (value.digits.take value.point.toNat)
        (value.digits.drop value.point.toNat) ⟨?_,?_⟩
      · intro c member
        exact digits c (List.mem_of_mem_drop member)
      · apply List.ne_nil_of_length_pos
        rw [List.length_take]
        omega
      · intro c member
        exact digits c (List.mem_of_mem_take member)

theorem text_shape {x : Float} (positive : isNegative x = false) :
    Shape (plain.text x).toList := by
  unfold isNegative at positive
  unfold Layout.text
  dsimp only
  split
  · exact .word (isWord_of_all rfl rfl rfl rfl) (by decide)
  · next negative found =>
    obtain rfl : negative = false := by simpa [found,Datum.isNegative] using positive
    exact .word (isWord_of_all rfl rfl rfl rfl) (by decide)
  · next negative found =>
    obtain rfl : negative = false := by simpa [found,Datum.isNegative] using positive
    exact .whole isNumeral_zero
  · next negative steps _ found =>
    obtain rfl : negative = false := by simpa [found,Datum.isNegative] using positive
    exact decimal_shape (shortest_digits steps)

end Scriptlet.Number
