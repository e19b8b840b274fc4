import Mathlib.Data.List.Basic
import Scriptlet.Text.Utf8

/-! Decoding undoes encoding. A documented decoder reads a character wherever its encoding stands in
front, and nowhere else. -/
namespace Scriptlet.Text

def encode (chars : List Char) : List UInt8 := chars.flatMap String.utf8EncodeChar

theorem encode_toByteArray (chars : List Char) :
    (encode chars).toByteArray = (String.ofList chars).toByteArray := by
  rw [String.toByteArray_ofList,List.utf8Encode,encode]

theorem encode_text {bytes : List UInt8} {text : String}
    (encoded : bytes.toByteArray = text.toByteArray) : bytes = encode text.toList := by
  have written := encode_toByteArray text.toList
  rw [String.ofList_toList,← encoded] at written
  have data := congrArg ByteArray.data written
  simpa using data.symm

theorem encode_valid (chars : List Char) : (encode chars).toByteArray.IsValidUTF8 := by
  rw [encode_toByteArray]
  exact (String.ofList chars).isValidUTF8

/-- What a decoder of UTF-8 does: reading ends with the bytes, a character is read where its
encoding stands in front, and nowhere else. -/
structure Decoder.Documented [Decoder] : Prop where
  ended : ∀ {bytes}, Decoder.read bytes = none → bytes = []
  reads : ∀ c rest, Decoder.read (String.utf8EncodeChar c ++ rest) = some (.ok c,rest)
  encoded : ∀ {bytes c rest}, Decoder.read bytes = some (.ok c,rest) →
    bytes = String.utf8EncodeChar c ++ rest

namespace Utf8

def Continues (byte : UInt8) : Prop := 0x80 ≤ byte.toNat ∧ byte.toNat < 0xc0

private theorem continues_of {byte : UInt8} {bits : Nat}
    (written : byte.toNat = 0x80 + bits % 0x40) : Continues byte := by
  unfold Continues
  omega

variable {byte : UInt8} {c : Char} {bytes rest behind : List UInt8} {least value missing : Nat}

/-! The bytes behind the first. -/

/-- What the bytes behind the first make of its value. -/
def assemble (value : Nat) (behind : List UInt8) : Nat :=
  behind.foldl (fun value byte => value * 0x40 + (byte.toNat - 0x80)) value

private theorem assemble_cons (value : Nat) (byte : UInt8) (behind : List UInt8) :
    assemble value (byte :: behind) = assemble (value * 0x40 + (byte.toNat - 0x80)) behind := by
  unfold assemble
  rw [List.foldl_cons]

private theorem assemble_nil (value : Nat) : assemble value [] = value := by
  unfold assemble
  rw [List.foldl_nil]

/-- As many bytes as are missing complete a character. -/
private theorem tail_completed (least value : Nat) (rest : List UInt8)
    (continues : ∀ byte ∈ behind, Continues byte) :
    tail least value behind.length (behind ++ rest) =
      (finish (assemble value behind) least,rest) := by
  induction behind generalizing value with
  | nil => rfl
  | cons byte behind ih =>
    have first : 0x80 ≤ byte.toNat ∧ byte.toNat < 0xc0 := continues byte (by simp)
    rw [List.length_cons,List.cons_append,tail,if_pos first,
      ih _ fun byte member => continues byte (by simp [member]),assemble_cons]

private theorem tail_ok (read : tail least value missing bytes = (.ok c,rest)) : ∃ behind,
    bytes = behind ++ rest ∧ behind.length = missing ∧ (∀ byte ∈ behind, Continues byte) ∧
      finish (assemble value behind) least = .ok c := by
  fun_induction tail least value missing bytes with
  | case1 value bytes =>
    obtain ⟨done,rfl⟩ := Prod.mk.inj read
    exact ⟨[],rfl,rfl,by simp,done⟩
  | case2 | case4 => cases read
  | case3 value missing byte bytes continues ih =>
    obtain ⟨behind,rfl,whole,held,done⟩ := ih read
    exact ⟨byte :: behind,rfl,by rw [List.length_cons,whole],by simpa using ⟨continues,held⟩,
      by rw [assemble_cons,done]⟩

private theorem finish_char (c : Char) (long : least ≤ c.val.toNat) :
    finish c.val.toNat least = .ok c := by
  have valid : c.val.toNat.isValidChar := c.valid
  rw [finish,dif_pos ⟨long,valid⟩]
  rfl

private theorem finish_ok (done : finish value least = .ok c) :
    c.val.toNat = value ∧ least ≤ value := by
  unfold finish at done
  by_cases complete : least ≤ value ∧ value.isValidChar
  · rw [dif_pos complete] at done
    obtain rfl := Except.ok.inj done
    exact ⟨rfl,complete.1⟩
  · rw [dif_neg complete] at done
    cases done

/-! The first byte of a character. -/

private theorem lead_one (range : byte.toNat < 0x80) :
    lead byte rest = (.ok (Char.ofNat byte.toNat),rest) := by
  unfold lead
  simp only [if_pos range]

private theorem lead_two (low : 0xc0 ≤ byte.toNat) (high : byte.toNat < 0xe0) :
    lead byte rest = tail 0x80 (byte.toNat - 0xc0) 1 rest := by
  unfold lead
  simp only [show ¬byte.toNat < 0x80 by omega,show ¬byte.toNat < 0xc0 by omega,high,if_true,
    if_false]

private theorem lead_three (low : 0xe0 ≤ byte.toNat) (high : byte.toNat < 0xf0) :
    lead byte rest = tail 0x800 (byte.toNat - 0xe0) 2 rest := by
  unfold lead
  simp only [show ¬byte.toNat < 0x80 by omega,show ¬byte.toNat < 0xc0 by omega,
    show ¬byte.toNat < 0xe0 by omega,high,if_true,if_false]

private theorem lead_four (low : 0xf0 ≤ byte.toNat) (high : byte.toNat < 0xf8) :
    lead byte rest = tail 0x10000 (byte.toNat - 0xf0) 3 rest := by
  unfold lead
  simp only [show ¬byte.toNat < 0x80 by omega,show ¬byte.toNat < 0xc0 by omega,
    show ¬byte.toNat < 0xe0 by omega,show ¬byte.toNat < 0xf0 by omega,high,if_true,if_false]

private theorem lead_none (stray : 0x80 ≤ byte.toNat ∧ byte.toNat < 0xc0 ∨ 0xf8 ≤ byte.toNat) :
    lead byte rest = (.error .malformed,rest) := by
  unfold lead
  rcases stray with ⟨low,high⟩ | high
  · simp only [show ¬byte.toNat < 0x80 by omega,high,if_true,if_false]
  · simp only [show ¬byte.toNat < 0x80 by omega,show ¬byte.toNat < 0xc0 by omega,
      show ¬byte.toNat < 0xe0 by omega,show ¬byte.toNat < 0xf0 by omega,
      show ¬byte.toNat < 0xf8 by omega,if_false]

/-! The bytes of a character. -/

inductive Encodes (value : Nat) : List UInt8 → Prop where
  | one {a : UInt8} (high : value < 0x80) (first : a.toNat = value) : Encodes value [a]
  | two {a b : UInt8} (low : 0x80 ≤ value) (high : value < 0x800)
      (first : a.toNat = 0xc0 + value / 0x40) (second : b.toNat = 0x80 + value % 0x40) :
      Encodes value [a,b]
  | three {a b c : UInt8} (low : 0x800 ≤ value) (high : value < 0x10000)
      (first : a.toNat = 0xe0 + value / 0x1000) (second : b.toNat = 0x80 + value / 0x40 % 0x40)
      (third : c.toNat = 0x80 + value % 0x40) : Encodes value [a,b,c]
  | four {a b c d : UInt8} (low : 0x10000 ≤ value) (high : value < 0x110000)
      (first : a.toNat = 0xf0 + value / 0x40000) (second : b.toNat = 0x80 + value / 0x1000 % 0x40)
      (third : c.toNat = 0x80 + value / 0x40 % 0x40) (fourth : d.toNat = 0x80 + value % 0x40) :
      Encodes value [a,b,c,d]

private theorem encodes_char (c : Char) : Encodes c.val.toNat (String.utf8EncodeChar c) := by
  have range : c.val.toNat < 0x110000 := by
    have valid : c.val.toNat < 0xd800 ∨ 0xdfff < c.val.toNat ∧ c.val.toNat < 0x110000 := c.valid
    omega
  unfold String.utf8EncodeChar
  dsimp only
  generalize c.val.toNat = value at range ⊢
  split
  · refine .one (by omega) ?_
    rw [UInt8.toNat_ofNat']
    omega
  · split
    · refine .two (by omega) (by omega) ?_ ?_ <;> rw [UInt8.toNat_ofNat'] <;> omega
    · split
      · refine .three (by omega) (by omega) ?_ ?_ ?_ <;> rw [UInt8.toNat_ofNat'] <;> omega
      · refine .four (by omega) range ?_ ?_ ?_ ?_ <;> rw [UInt8.toNat_ofNat'] <;> omega

theorem Encodes.unique {value : Nat} {bytes bytes' : List UInt8} (first : Encodes value bytes)
    (second : Encodes value bytes') : bytes = bytes' := by
  have same {byte byte' : UInt8} {number : Nat} (here : byte.toNat = number)
      (there : byte'.toNat = number) : byte = byte' := UInt8.toNat_inj.mp (here.trans there.symm)
  -- The value says how many bytes there are, and then each of them.
  cases first with
  | one high a =>
    cases second with
    | one _ a' => rw [same a a']
    | two | three | four => omega
  | two low high a b =>
    cases second with
    | two _ _ a' b' => rw [same a a',same b b']
    | one | three | four => omega
  | three low high a b c =>
    cases second with
    | three _ _ a' b' c' => rw [same a a',same b b',same c c']
    | one | two | four => omega
  | four low high a b c d =>
    cases second with
    | four _ _ a' b' c' d' => rw [same a a',same b b',same c c',same d d']
    | one | two | three => omega

/-- A first byte and the bytes it calls for are read as the character they encode. -/
private theorem lead_written {reads : List UInt8 → Except DecodeFault Char × List UInt8}
    (leads : ∀ rest, lead byte rest = reads rest)
    (counts : reads = tail least value behind.length) (continues : ∀ byte ∈ behind, Continues byte)
    (made : assemble value behind = c.val.toNat) (long : least ≤ c.val.toNat)
    (rest : List UInt8) : lead byte (behind ++ rest) = (.ok c,rest) := by
  rw [leads,counts,tail_completed least value rest continues,made,finish_char c long]

private theorem read_encoded (c : Char) (rest : List UInt8) :
    read (String.utf8EncodeChar c ++ rest) = some (.ok c,rest) := by
  have written := encodes_char c
  generalize String.utf8EncodeChar c = bytes at written ⊢
  cases written with
  | @one a high first =>
    have same : Char.ofNat a.toNat = c := by
      rw [first]
      exact Char.ofNat_toNat c
    rw [List.singleton_append,read,lead_one (first ▸ high),same]
  | @two a b low high first second =>
    have made : assemble (a.toNat - 0xc0) [b] = c.val.toNat := by
      simp only [assemble_cons,assemble_nil]
      omega
    have continues : ∀ byte ∈ [b], Continues byte := by simpa using continues_of second
    exact congrArg some
      (lead_written (fun _ => lead_two (by omega) (by omega)) rfl continues made low rest)
  | @three a b d low high first second third =>
    have made : assemble (a.toNat - 0xe0) [b,d] = c.val.toNat := by
      simp only [assemble_cons,assemble_nil]
      omega
    have continues : ∀ byte ∈ [b,d], Continues byte := by
      simpa using ⟨continues_of second,continues_of third⟩
    exact congrArg some
      (lead_written (fun _ => lead_three (by omega) (by omega)) rfl continues made low rest)
  | @four a b d e low high first second third fourth =>
    have made : assemble (a.toNat - 0xf0) [b,d,e] = c.val.toNat := by
      simp only [assemble_cons,assemble_nil]
      omega
    have continues : ∀ byte ∈ [b,d,e], Continues byte := by
      simpa using ⟨continues_of second,continues_of third,continues_of fourth⟩
    exact congrArg some
      (lead_written (fun _ => lead_four (by omega) (by omega)) rfl continues made low rest)

/-! Nothing else is read as a character. -/

private theorem lead_ok (done : lead byte bytes = (.ok c,rest)) : ∃ behind,
    bytes = behind ++ rest ∧ Encodes c.val.toNat (byte :: behind) := by
  have byteRange : byte.toNat < 256 := byte.toNat_lt
  by_cases one : byte.toNat < 0x80
  · rw [lead_one one] at done
    obtain ⟨same,rfl⟩ := Prod.mk.inj done
    obtain rfl := Except.ok.inj same
    have valid : byte.toNat.isValidChar := .inl (by omega)
    have value : (Char.ofNat byte.toNat).val.toNat = byte.toNat := by
      rw [Char.ofNat,dif_pos valid]
      rfl
    exact ⟨[],rfl,.one (by omega) value.symm⟩
  by_cases stray : byte.toNat < 0xc0 ∨ 0xf8 ≤ byte.toNat
  · rw [lead_none (by omega)] at done
    cases done
  by_cases two : byte.toNat < 0xe0
  · rw [lead_two (by omega) two] at done
    obtain ⟨behind,rfl,whole,continues,made⟩ := tail_ok done
    obtain ⟨b,rfl⟩ := List.length_eq_one_iff.mp whole
    have second : 0x80 ≤ b.toNat ∧ b.toNat < 0xc0 := continues b (by simp)
    obtain ⟨value,long⟩ := finish_ok made
    simp only [assemble_cons,assemble_nil] at value long
    exact ⟨[b],rfl,.two (by omega) (by omega) (by omega) (by omega)⟩
  by_cases three : byte.toNat < 0xf0
  · rw [lead_three (by omega) three] at done
    obtain ⟨behind,rfl,whole,continues,made⟩ := tail_ok done
    obtain ⟨b,d,rfl⟩ := List.length_eq_two.mp whole
    have second : 0x80 ≤ b.toNat ∧ b.toNat < 0xc0 := continues b (by simp)
    have third : 0x80 ≤ d.toNat ∧ d.toNat < 0xc0 := continues d (by simp)
    obtain ⟨value,long⟩ := finish_ok made
    simp only [assemble_cons,assemble_nil] at value long
    exact ⟨[b,d],rfl,.three (by omega) (by omega) (by omega) (by omega) (by omega)⟩
  · rw [lead_four (by omega) (by omega)] at done
    obtain ⟨behind,rfl,whole,continues,made⟩ := tail_ok done
    obtain ⟨b,d,e,rfl⟩ := List.length_eq_three.mp whole
    have second : 0x80 ≤ b.toNat ∧ b.toNat < 0xc0 := continues b (by simp)
    have third : 0x80 ≤ d.toNat ∧ d.toNat < 0xc0 := continues d (by simp)
    have fourth : 0x80 ≤ e.toNat ∧ e.toNat < 0xc0 := continues e (by simp)
    obtain ⟨value,long⟩ := finish_ok made
    have valid : c.val.toNat < 0x110000 := by
      have range : c.val.toNat < 0xd800 ∨ 0xdfff < c.val.toNat ∧ c.val.toNat < 0x110000 := c.valid
      omega
    simp only [assemble_cons,assemble_nil] at value long
    exact ⟨[b,d,e],rfl,.four (by omega) valid (by omega) (by omega) (by omega) (by omega)⟩

private theorem encoded_of_read (done : read bytes = some (.ok c,rest)) :
    bytes = String.utf8EncodeChar c ++ rest := by
  cases bytes with
  | nil => cases done
  | cons byte bytes =>
    obtain ⟨behind,rfl,written⟩ := lead_ok (Option.some.inj done)
    rw [(encodes_char c).unique written,List.cons_append]

end Utf8

theorem utf8_documented : @Decoder.Documented utf8 where
  ended {bytes} done := by
    cases bytes with
    | nil => rfl
    | cons => cases done
  reads := Utf8.read_encoded
  encoded := Utf8.encoded_of_read

end Scriptlet.Text
