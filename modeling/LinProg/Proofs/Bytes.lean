import LinProg.Text.Utf8
import Mathlib

set_option autoImplicit false

namespace LinProg.Text

theorem tails_from_cons {left least greatest code good : Nat} {byte : UInt8} {rest : List UInt8}
    (above : least ≤ byte.toNat) (below : byte.toNat ≤ greatest) :
    tailsFrom (left + 1) least greatest code good (byte :: rest) =
      tailsFrom left 0x80 0xbf (code * 64 + (byte.toNat - 0x80)) (good + 1) rest := by
  rw [tailsFrom, if_pos ⟨above, below⟩]

theorem decode_from_cons {position code : Nat} {byte : UInt8} {tail rest : List UInt8} {lead : Lead}
    (led : lead? byte.toNat = some lead) (sized : tail.length = lead.tails)
    (read : tailsFrom lead.tails lead.least lead.greatest lead.share 0 (tail ++ rest) = .ok code) :
    decodeFrom position (byte :: tail ++ rest) =
      (decodeFrom (position + 1 + lead.tails) rest).map (Char.ofNat code :: ·) := by
  rw [List.cons_append, decodeFrom, led]
  dsimp only
  rw [read]
  dsimp only
  rw [← sized, List.drop_left]

theorem byte_of_lt {n : Nat} (small : n < 256) : (UInt8.ofNat n).toNat = n := by
  rw [UInt8.toNat_ofNat']
  exact Nat.mod_eq_of_lt small

-- The tail that carries six bits of a code point.
def tailByte (n : Nat) : UInt8 := UInt8.ofNat (n % 64 + 128)

theorem tail_byte_value (n : Nat) : (tailByte n).toNat = n % 64 + 128 := byte_of_lt (by omega)

theorem tails_from_tail {left code good n : Nat} {rest : List UInt8} :
    tailsFrom (left + 1) 0x80 0xbf code good (tailByte n :: rest) =
      tailsFrom left 0x80 0xbf (code * 64 + n % 64) (good + 1) rest := by
  have value := tail_byte_value n
  rw [tails_from_cons (by omega) (by omega), value, Nat.add_sub_cancel]

theorem lead_one {v : Nat} (small : v ≤ 127) : lead? v = some ⟨0, 0x80, 0xbf, v⟩ := if_pos (by omega)

theorem lead_two {n : Nat} (least : 2 ≤ n) (most : n < 32) : lead? (n + 192) = some ⟨1, 0x80, 0xbf, n⟩ := by
  rw [lead?, if_neg (by omega), if_neg (by omega), if_pos (by omega), Nat.add_sub_cancel]

theorem lead_three {n : Nat} (most : n < 16) : lead? (n + 224) =
    some ⟨2, if n = 0 then 0xa0 else 0x80, if n = 13 then 0x9f else 0xbf, n⟩ := by
  have first : n + 224 = 0xe0 ↔ n = 0 := by omega
  have last : n + 224 = 0xed ↔ n = 13 := by omega
  rw [lead?, if_neg (by omega), if_neg (by omega), if_neg (by omega), if_pos (by omega), Nat.add_sub_cancel]
  simp only [first, last]

theorem lead_four {n : Nat} (most : n < 5) : lead? (n + 240) =
    some ⟨3, if n = 0 then 0x90 else 0x80, if n = 4 then 0x8f else 0xbf, n⟩ := by
  have first : n + 240 = 0xf0 ↔ n = 0 := by omega
  have last : n + 240 = 0xf4 ↔ n = 4 := by omega
  rw [lead?, if_neg (by omega), if_neg (by omega), if_neg (by omega), if_neg (by omega), if_pos (by omega),
    Nat.add_sub_cancel]
  simp only [first, last]

theorem decode_from_char (position : Nat) (c : Char) (rest : List UInt8) : ∃ next,
    decodeFrom position (String.utf8EncodeChar c ++ rest) = (decodeFrom next rest).map (c :: ·) := by
  have own : Char.ofNat c.val.toNat = c := Char.ofNat_toNat c
  have valid : c.val.toNat < 0xd800 ∨ 0xdfff < c.val.toNat ∧ c.val.toNat < 0x110000 := c.valid
  unfold String.utf8EncodeChar
  dsimp only
  generalize c.val.toNat = v at own valid
  rw [← own]
  split
  · rename_i small
    have byte : (UInt8.ofNat v).toNat = v := byte_of_lt (by omega)
    exact ⟨_, decode_from_cons (by rw [byte, lead_one small]) rfl rfl⟩
  split
  · rename_i large small
    have byte : (UInt8.ofNat (v / 64 % 32 + 192)).toNat = v / 64 % 32 + 192 := byte_of_lt (by omega)
    refine ⟨_, decode_from_cons (by rw [byte, lead_two (by omega) (by omega)]) rfl ?_⟩
    change tailsFrom 1 0x80 0xbf (v / 64 % 32) 0 (tailByte v :: rest) = _
    rw [tails_from_tail, tailsFrom]
    exact congrArg Except.ok (by omega)
  split
  · rename_i large small
    have byte : (UInt8.ofNat (v / 4096 % 16 + 224)).toNat = v / 4096 % 16 + 224 := byte_of_lt (by omega)
    refine ⟨_, decode_from_cons (by rw [byte, lead_three (by omega)]) rfl ?_⟩
    have first := tail_byte_value (v / 64)
    change tailsFrom 2 (if v / 4096 % 16 = 0 then 0xa0 else 0x80) (if v / 4096 % 16 = 13 then 0x9f else 0xbf)
      (v / 4096 % 16) 0 (tailByte (v / 64) :: tailByte v :: rest) = _
    rw [tails_from_cons (by split <;> omega) (by split <;> omega), tails_from_tail, tailsFrom, first]
    exact congrArg Except.ok (by omega)
  · rename_i large _ _
    have byte : (UInt8.ofNat (v / 262144 % 8 + 240)).toNat = v / 262144 % 8 + 240 := byte_of_lt (by omega)
    refine ⟨_, decode_from_cons (by rw [byte, lead_four (by omega)]) rfl ?_⟩
    have first := tail_byte_value (v / 4096)
    change tailsFrom 3 (if v / 262144 % 8 = 0 then 0x90 else 0x80) (if v / 262144 % 8 = 4 then 0x8f else 0xbf)
      (v / 262144 % 8) 0 (tailByte (v / 4096) :: tailByte (v / 64) :: tailByte v :: rest) = _
    rw [tails_from_cons (by split <;> omega) (by split <;> omega), tails_from_tail, tails_from_tail, tailsFrom, first]
    exact congrArg Except.ok (by omega)

def utf8 (chars : List Char) : List UInt8 := chars.flatMap String.utf8EncodeChar

theorem decode_utf8 (chars : List Char) (position : Nat) : decodeFrom position (utf8 chars) = .ok chars := by
  induction chars generalizing position with
  | nil =>
      rw [utf8, List.flatMap_nil, decodeFrom]
  | cons c rest ih =>
      obtain ⟨next, step⟩ := decode_from_char position c (utf8 rest)
      rw [utf8, List.flatMap_cons, ← utf8, step, ih]
      rfl

theorem plain_lines_kept {chars : List Char} (single : '\r' ∉ chars) : plainLines chars = chars := by
  induction chars with
  | nil => rfl
  | cons c rest ih =>
      have later := ih fun member => single (List.mem_cons_of_mem c member)
      unfold plainLines
      split
      · rename_i same
        cases same
        exact absurd List.mem_cons_self single
      · rename_i same
        cases same
        exact absurd List.mem_cons_self single
      · rename_i same
        cases same
        rw [later]
      · rename_i same
        cases same

theorem of_bytes_utf8 {chars : List Char} (single : '\r' ∉ chars) : ofBytes (utf8 chars) = .ok (chars.map .char) := by
  rw [ofBytes, decode_utf8]
  exact congrArg (fun kept => Except.ok (kept.map Symbol.char)) (plain_lines_kept single)

end LinProg.Text
