import DomainGen.Text.Encoding

/-!
# Texts as bytes and back

The bytes of a text with one to four bytes for a character are read back as the text.

* `decode_encodeChar` : the bytes of one character, in front of others, by their number;
* `decode_encode` : **reading what was stored gives it back**.
-/

namespace DomainGen.Utf8

/-- A byte that is stored is read as it is. -/
theorem toNat_byte {n : Nat} (h : n < 256) : (UInt8.ofNat n).toNat = n :=
  UInt8.toNat_ofNat_of_lt h

/-- The six bits of a byte that continues a character. -/
theorem tail?_byte {n : Nat} (h : n < 64) : tail? (UInt8.ofNat (0x80 + n)) = some n := by
  unfold tail?
  rw [toNat_byte (by omega), if_pos (by simp; omega), Nat.add_sub_cancel_left]

/-- The code point of a character is one. -/
theorem charAbove?_toNat {least : Nat} {c : Char} (h : least ≤ c.toNat) :
    charAbove? least c.toNat = some c := by
  have hvalid : c.toNat.isValidChar := c.valid
  unfold charAbove?
  rw [if_pos (by simp [h, hvalid]), Char.ofNat_toNat]

/-- **The bytes of a character are read as the character**, whatever follows. -/
theorem decode_encodeChar (c : Char) (rest : List UInt8) :
    decode (encodeChar c ++ rest) = (decode rest).map (c :: ·) := by
  have hlimit : c.toNat < 0x110000 := by
    have hvalid : c.toNat.isValidChar := c.valid
    unfold Nat.isValidChar at hvalid
    omega
  -- `unfold` is to open the reading of the character, not that of the rest
  generalize hread : (decode rest).map (c :: ·) = read
  unfold encodeChar
  dsimp only
  split
  · rename_i h1
    show decode (_ :: rest) = _
    unfold decode
    dsimp only
    rw [toNat_byte (by omega), if_pos h1, Char.ofNat_toNat]
    exact hread
  · rename_i h1
    split
    · rename_i h2
      show decode (_ :: _ :: rest) = _
      have hcode : (0xc0 + c.toNat / 64 - 0xc0) * 64 + c.toNat % 64 = c.toNat := by omega
      unfold decode
      dsimp only
      rw [toNat_byte (by omega), if_neg (by omega), if_neg (by omega), if_pos (by omega),
        tail?_byte (by omega)]
      dsimp only [bind, Option.bind]
      rw [hcode, charAbove?_toNat (by omega)]
      exact hread
    · rename_i h2
      split
      · rename_i h3
        show decode (_ :: _ :: _ :: rest) = _
        have hcode : ((0xe0 + c.toNat / 4096 - 0xe0) * 64 + c.toNat / 64 % 64) * 64 +
            c.toNat % 64 = c.toNat := by omega
        unfold decode
        dsimp only
        rw [toNat_byte (by omega), if_neg (by omega), if_neg (by omega), if_neg (by omega),
          if_pos (by omega), tail?_byte (by omega), tail?_byte (by omega)]
        dsimp only [bind, Option.bind]
        rw [hcode, charAbove?_toNat (by omega)]
        exact hread
      · rename_i h3
        show decode (_ :: _ :: _ :: _ :: rest) = _
        have hcode : (((0xf0 + c.toNat / 262144 - 0xf0) * 64 + c.toNat / 4096 % 64) * 64 +
            c.toNat / 64 % 64) * 64 + c.toNat % 64 = c.toNat := by omega
        unfold decode
        dsimp only
        rw [toNat_byte (by omega), if_neg (by omega), if_neg (by omega), if_neg (by omega),
          if_neg (by omega), if_pos (by omega), tail?_byte (by omega), tail?_byte (by omega),
          tail?_byte (by omega)]
        dsimp only [bind, Option.bind]
        rw [hcode, charAbove?_toNat (by omega)]
        exact hread

/-- **Reading what was stored gives it back.** -/
theorem decode_encode : ∀ s : List Char, decode (encode s) = some s
  | [] => rfl
  | c :: rest => by
      have ih : decode (rest.flatMap encodeChar) = some rest := decode_encode rest
      unfold encode
      rw [List.flatMap_cons, decode_encodeChar, ih]
      rfl

end DomainGen.Utf8
