import Scriptlet.Text.Decoder

/-! Reading UTF-8 byte by byte. -/
namespace Scriptlet.Text.Utf8

def finish (value least : Nat) : Except DecodeFault Char :=
  if h : least ≤ value ∧ value.isValidChar then .ok (Char.ofNatAux value h.2)
  else .error .malformed

/-- The rest of a character that needs so many bytes more. A byte that cannot continue a
character is left to the next one. -/
def tail (least value : Nat) : Nat → List UInt8 → Except DecodeFault Char × List UInt8
  | 0,bytes => (finish value least,bytes)
  | _ + 1,[] => (.error .truncated,[])
  | missing + 1,byte :: rest =>
    if 0x80 ≤ byte.toNat ∧ byte.toNat < 0xc0 then
      tail least (value * 0x40 + (byte.toNat - 0x80)) missing rest
    else (.error .malformed,byte :: rest)

def lead (byte : UInt8) (rest : List UInt8) : Except DecodeFault Char × List UInt8 :=
  let value := byte.toNat
  if value < 0x80 then (.ok (Char.ofNat value),rest)
  else if value < 0xc0 then (.error .malformed,rest)
  else if value < 0xe0 then tail 0x80 (value - 0xc0) 1 rest
  else if value < 0xf0 then tail 0x800 (value - 0xe0) 2 rest
  else if value < 0xf8 then tail 0x10000 (value - 0xf0) 3 rest
  else (.error .malformed,rest)

def read : List UInt8 → Option (Except DecodeFault Char × List UInt8)
  | [] => none
  | byte :: rest => some (lead byte rest)

private theorem tail_length_le (least value missing : Nat) (bytes : List UInt8) :
    (tail least value missing bytes).2.length ≤ bytes.length := by
  fun_induction tail least value missing bytes with
  | case1 | case2 | case4 => exact Nat.le_refl _
  | case3 _ _ _ _ _ ih => exact Nat.le_succ_of_le ih

private theorem lead_length_le (byte : UInt8) (rest : List UInt8) :
    (lead byte rest).2.length ≤ rest.length := by
  unfold lead
  dsimp only
  repeat' split
  all_goals first | exact Nat.le_refl _ | exact tail_length_le _ _ _ _

end Utf8

instance utf8 : Decoder where
  read := Utf8.read
  shorter := by
    rintro (_ | ⟨byte,bytes⟩) item rest found
    · cases found
    · have pair := Option.some.inj found
      have fewer := Utf8.lead_length_le byte bytes
      rw [pair] at fewer
      exact Nat.lt_succ_of_le fewer

end Scriptlet.Text
