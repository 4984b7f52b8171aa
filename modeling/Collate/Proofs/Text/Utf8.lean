import Mathlib.Data.List.Infix
import Collate.Proofs.Text.Lines
import Collate.Text.Utf8

/-!
# A text is read back from its bytes

Decoding goes character by character: whatever stands behind the bytes of a character, they are read
as that character and the decoder goes on behind them (`decodeFrom_encodeChar`). So every text is
read back from its bytes (`decode_encode`).

Since the bytes of a byte order mark are those of a character, a file that starts with them holds a
text that starts with the mark. Dropping the mark from the bytes is therefore the same as dropping
it from the text (`dropMarkBytes_encode`), and one mark is dropped at most.
-/

namespace Collate.Text.Utf8

/-! ## The bytes of one character -/

theorem toNat_toUInt8 {n : Nat} (h : n < 256) : n.toUInt8.toNat = n := by
  rw [Nat.toUInt8_eq, UInt8.toNat_ofNat', Nat.mod_eq_of_lt h]

/-- A byte that starts two. -/
theorem leadOf?_two {k : Nat} (hlow : 2 ≤ k) (hhigh : k < 32) :
    leadOf? (0xC0 + k).toUInt8 = some (0x80, 0xBF, 1, k) := by
  unfold leadOf?
  rw [toNat_toUInt8 (by omega)]
  dsimp only
  rw [if_pos (by simp; omega), Nat.add_sub_cancel_left]

/-- A byte that starts three. What can be written with two bytes, and what is no character, is left
out by the bounds of the second byte. -/
theorem leadOf?_three :
    ∀ k < 16, leadOf? (0xE0 + k).toUInt8 =
      some (if k = 0 then 0xA0 else 0x80, if k = 0xD then 0x9F else 0xBF, 2, k) := by
  decide

/-- A byte that starts four, with the bounds of the second byte. -/
theorem leadOf?_four :
    ∀ k < 5, leadOf? (0xF0 + k).toUInt8 =
      some (if k = 0 then 0x90 else 0x80, if k = 4 then 0x8F else 0xBF, 3, k) := by
  decide

/-- A byte that starts a longer sequence is no character by itself. -/
theorem le_of_leadOf? {b : UInt8} {x : Nat × Nat × Nat × Nat} (h : leadOf? b = some x) :
    0x80 ≤ b.toNat := by
  rw [leadOf?] at h
  grind

/-- Six more bits of a character, from a byte within its bounds. -/
theorem continue?_cons {low high bits count k : Nat} {bytes : List UInt8}
    {r : Nat × List UInt8} (hlow : low ≤ 0x80 + k) (hhigh : 0x80 + k ≤ high) (hk : k < 64)
    (h : continue? 0x80 0xBF (bits * 64 + k) count bytes = .ok r) :
    continue? low high bits (count + 1) ((0x80 + k).toUInt8 :: bytes) = .ok r := by
  have hbyte : (0x80 + k).toUInt8.toNat = 0x80 + k := toNat_toUInt8 (by omega)
  rw [continue?, hbyte, Nat.add_sub_cancel_left, h, if_pos]
  simp [hlow, hhigh]

/-- A byte of its own is a character. -/
theorem decodeFrom_ascii {n : Nat} (hn : n < 0x80) (position : Nat) (bytes : List UInt8) :
    decodeFrom position (n.toUInt8 :: bytes) =
      (decodeFrom (position + 1) bytes).map (Char.ofNat n :: ·) := by
  rw [decodeFrom, toNat_toUInt8 (by omega), if_pos hn]

/-- A byte that starts a character, and the bytes that continue it. -/
theorem decodeFrom_lead {b : UInt8} {low high count bits code : Nat} {bytes rest : List UInt8}
    (hlead : leadOf? b = some (low, high, count, bits))
    (h : continue? low high bits count bytes = .ok (code, rest)) (position : Nat) :
    decodeFrom position (b :: bytes) =
      (decodeFrom (position + 1 + count) rest).map (Char.ofNat code :: ·) := by
  rw [decodeFrom, if_neg (Nat.not_lt.2 (le_of_leadOf? hlead))]
  split
  · rename_i hnone
    rw [hlead] at hnone
    cases hnone
  · rename_i hsome
    rw [hlead] at hsome
    cases hsome
    split
    · rename_i herror
      rw [h] at herror
      cases herror
    · rename_i hok
      rw [h] at hok
      cases hok
      rfl

/-- **The bytes of a character are read as that character,** whatever stands behind them. -/
theorem decodeFrom_encodeChar (position : Nat) (c : Char) (bytes : List UInt8) :
    decodeFrom position (encodeChar c ++ bytes) =
      (decodeFrom (position + (encodeChar c).length) bytes).map (c :: ·) := by
  obtain ⟨n, hn⟩ : ∃ n, c.toNat = n := ⟨_, rfl⟩
  have hchar : Char.ofNat n = c := by rw [← hn, Char.ofNat_toNat]
  have hvalid : n < 0xD800 ∨ 0xDFFF < n ∧ n < 0x110000 := hn ▸ c.valid
  unfold encodeChar
  rw [hn]
  dsimp only
  split_ifs with h1 h2 h3
  · rw [List.singleton_append, decodeFrom_ascii h1, hchar, List.length_singleton]
  · -- two bytes hold eleven bits
    have hbits : n / 64 * 64 + n % 64 = n := by omega
    have hlead := leadOf?_two (k := n / 64) (by omega) (by omega)
    have hrest : continue? 0x80 0xBF (n / 64) 1 ((0x80 + n % 64).toUInt8 :: bytes) =
        .ok (n, bytes) := by
      refine continue?_cons (by omega) (by omega) (by omega) ?_
      rw [hbits, continue?]
    rw [List.cons_append, List.singleton_append, decodeFrom_lead hlead hrest, hchar]
    rfl
  · -- three bytes hold sixteen, of which some make no character
    have hbits : (n / 4096 * 64 + n / 64 % 64) * 64 + n % 64 = n := by omega
    have hlead := leadOf?_three (n / 4096) (by omega)
    have hrest : continue? (if n / 4096 = 0 then 0xA0 else 0x80)
        (if n / 4096 = 0xD then 0x9F else 0xBF) (n / 4096) 2
        ((0x80 + n / 64 % 64).toUInt8 :: (0x80 + n % 64).toUInt8 :: bytes) = .ok (n, bytes) := by
      refine continue?_cons (by split_ifs <;> omega) (by split_ifs <;> omega) (by omega) ?_
      refine continue?_cons (by omega) (by omega) (by omega) ?_
      rw [hbits, continue?]
    rw [List.cons_append, List.cons_append, List.singleton_append, decodeFrom_lead hlead hrest,
      hchar]
    rfl
  · -- four bytes hold the rest
    have hbits :
        ((n / 262144 * 64 + n / 4096 % 64) * 64 + n / 64 % 64) * 64 + n % 64 = n := by omega
    have hlead := leadOf?_four (n / 262144) (by omega)
    have hrest : continue? (if n / 262144 = 0 then 0x90 else 0x80)
        (if n / 262144 = 4 then 0x8F else 0xBF) (n / 262144) 3
        ((0x80 + n / 4096 % 64).toUInt8 :: (0x80 + n / 64 % 64).toUInt8 ::
          (0x80 + n % 64).toUInt8 :: bytes) = .ok (n, bytes) := by
      refine continue?_cons (by split_ifs <;> omega) (by split_ifs <;> omega) (by omega) ?_
      refine continue?_cons (by omega) (by omega) (by omega) ?_
      refine continue?_cons (by omega) (by omega) (by omega) ?_
      rw [hbits, continue?]
    rw [List.cons_append, List.cons_append, List.cons_append, List.singleton_append,
      decodeFrom_lead hlead hrest, hchar]
    rfl

/-! ## The bytes of a text -/

theorem encode_cons (c : Char) (t : Text) : encode (c :: t) = encodeChar c ++ encode t :=
  List.flatMap_cons

/-- A text is read back from its bytes, wherever they stand. -/
theorem decodeFrom_encode (position : Nat) (t : Text) : decodeFrom position (encode t) = .ok t := by
  induction t generalizing position with
  | nil => rw [encode, List.flatMap_nil, decodeFrom]
  | cons c t ih =>
    rw [encode_cons, decodeFrom_encodeChar, ih]
    rfl

/-- **A text is read back from its bytes.** -/
theorem decode_encode (t : Text) : decode (encode t) = .ok t := decodeFrom_encode 0 t

/-! ## Byte order marks -/

theorem encode_byteOrderMark_cons (t : Text) :
    encode (byteOrderMark :: t) = markBytes ++ encode t := by
  rw [encode_cons]
  congr 1

/-- Only a text that starts with a mark has bytes that start with those of a mark. -/
theorem head?_eq_byteOrderMark {t : Text} (h : markBytes <+: encode t) :
    t.head? = some byteOrderMark := by
  obtain ⟨rest, hrest⟩ := h
  have hmark : markBytes = encodeChar byteOrderMark := by decide
  have hread := decode_encode t
  rw [decode, ← hrest, hmark, decodeFrom_encodeChar] at hread
  cases hdecode : decodeFrom (0 + (encodeChar byteOrderMark).length) rest with
  | error bad =>
    rw [hdecode] at hread
    cases hread
  | ok u =>
    rw [hdecode] at hread
    cases hread
    rfl

/-- Bytes of a text that break off inside a mark are none, or the whole mark. -/
theorem of_encode_prefix_markBytes {t : Text} (h : encode t <+: markBytes) :
    t = [] ∨ t = [byteOrderMark] := by
  have hread := decode_encode t
  have hbytes : encode t ∈ markBytes.inits := (List.mem_inits _ _).2 h
  have hinits : markBytes.inits = [[], [0xEF], [0xEF, 0xBB], [0xEF, 0xBB, 0xBF]] := by decide
  rw [hinits] at hbytes
  simp only [List.mem_cons, List.not_mem_nil, or_false] at hbytes
  rcases hbytes with hb | hb | hb | hb <;> rw [hb] at hread
  · exact .inl (Except.ok.inj (hread.symm.trans (by decide +kernel)))
  · have hbad : (decode [0xEF]).toOption = none := by decide +kernel
    rw [hread] at hbad
    cases hbad
  · have hbad : (decode [0xEF, 0xBB]).toOption = none := by decide +kernel
    rw [hread] at hbad
    cases hbad
  · exact .inr (Except.ok.inj (hread.symm.trans (by decide +kernel)))

/-- **Dropping a mark from the bytes of a text is dropping it from the text.** -/
theorem dropMarkBytes_encode (t : Text) : dropMarkBytes (encode t) = encode (dropMark t) := by
  unfold dropMarkBytes
  simp only [List.isPrefixOf_iff_prefix]
  split_ifs with hinside hmark
  · rcases of_encode_prefix_markBytes hinside with rfl | rfl <;> rfl
  · obtain ⟨t, rfl⟩ := List.head?_eq_some_iff.1 (head?_eq_byteOrderMark hmark)
    rw [encode_byteOrderMark_cons, List.drop_left, dropMark_byteOrderMark_cons]
  · have hhead : t.head? ≠ some byteOrderMark := by
      intro h
      obtain ⟨t, rfl⟩ := List.head?_eq_some_iff.1 h
      apply hmark
      rw [encode_byteOrderMark_cons]
      exact List.prefix_append markBytes (encode t)
    rw [dropMark_of_head? hhead]

end Collate.Text.Utf8
