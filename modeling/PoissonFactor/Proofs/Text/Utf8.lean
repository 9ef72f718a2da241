import Mathlib.Data.List.Basic
import PoissonFactor.Text.Utf8

/-!
# Reading encoded text

What was text comes back as text, however its bytes are cut on the way:

> `Text.decodePieces_encode`: the bytes of a text that arrive in pieces are read as that text.

A character that the end of a piece cuts is told apart from a fault, since its first bytes
begin a sequence that runs out (`Text.decodeOne_cut`). So what is waiting for the next piece
and what is still to come are the bytes of the text that has not been read.
-/

namespace PoissonFactor

namespace Text

/-- The bytes of a character. -/
def charBytes (c : Char) : List Nat :=
  (String.utf8EncodeChar c).map UInt8.toNat

/-- The bytes of a text. -/
def encode (cs : List Char) : List Nat :=
  cs.flatMap charBytes

/-- The bytes that the standard library writes are those that are modelled here. -/
theorem map_toNat_utf8 (cs : List Char) :
    (cs.flatMap String.utf8EncodeChar).map UInt8.toNat = encode cs :=
  List.map_flatMap

/-- A loop over bytes collects those that are left. -/
theorem toList_loop (bytes : ByteArray) (i : Nat) (read : List UInt8) :
    ByteArray.toList.loop bytes i read = read.reverse ++ bytes.data.toList.drop i := by
  induction i, read using ByteArray.toList.loop.induct bytes with
  | case1 i read hlt ih =>
    have hi : i < bytes.data.toList.length := hlt
    have hget : bytes.get! i = bytes.data.toList[i] := getElem!_pos bytes.data i hlt
    rw [ByteArray.toList.loop, if_pos hlt, ih, List.drop_eq_getElem_cons hi, hget,
      List.reverse_cons, List.append_assoc, List.singleton_append]
  | case2 i read hge =>
    have hi : bytes.data.toList.length ≤ i := Nat.le_of_not_lt hge
    rw [ByteArray.toList.loop, if_neg hge, List.drop_eq_nil_of_le hi, List.append_nil]

/-- The bytes of a string are those of its characters. -/
theorem toList_toUTF8 (cs : List Char) :
    (String.ofList cs).toUTF8.toList = cs.flatMap String.utf8EncodeChar := by
  show ByteArray.toList.loop (cs.flatMap String.utf8EncodeChar).toByteArray 0 [] = _
  rw [toList_loop, List.reverse_nil, List.nil_append, List.drop_zero, List.data_toByteArray]

theorem encode_cons (c : Char) (cs : List Char) : encode (c :: cs) = charBytes c ++ encode cs := rfl

/-- Texts are written one after the other. -/
theorem encode_append (cs ds : List Char) : encode (cs ++ ds) = encode cs ++ encode ds :=
  List.flatMap_append

/-! ## One character -/

/-- A code point is none of the surrogates and not beyond the last. -/
theorem toNat_valid (c : Char) : c.toNat < 0xd800 ∨ (0xdfff < c.toNat ∧ c.toNat < 0x110000) :=
  c.valid

/-- A character has one to four bytes, by the size of its code point. -/
theorem charBytes_cases (c : Char) :
    (c.toNat < 0x80 ∧ charBytes c = [c.toNat])
      ∨ (0x80 ≤ c.toNat ∧ c.toNat < 0x800
        ∧ charBytes c = [c.toNat / 64 + 0xc0, c.toNat % 64 + 0x80])
      ∨ (0x800 ≤ c.toNat ∧ c.toNat < 0x10000
        ∧ charBytes c = [c.toNat / 4096 + 0xe0, c.toNat / 64 % 64 + 0x80, c.toNat % 64 + 0x80])
      ∨ (0x10000 ≤ c.toNat ∧ charBytes c = [c.toNat / 262144 + 0xf0, c.toNat / 4096 % 64 + 0x80,
          c.toNat / 64 % 64 + 0x80, c.toNat % 64 + 0x80]) := by
  have hvalid := toNat_valid c
  unfold charBytes String.utf8EncodeChar
  rw [Char.toNat_val]
  generalize c.toNat = n at *
  dsimp only
  by_cases h₁ : n ≤ 127
  · refine Or.inl ⟨by omega, ?_⟩
    rw [if_pos h₁]
    simp only [List.map_cons, List.map_nil, UInt8.toNat_ofNat', Nat.reducePow, List.cons.injEq,
      and_true]
    omega
  by_cases h₂ : n ≤ 2047
  · refine Or.inr (Or.inl ⟨by omega, by omega, ?_⟩)
    rw [if_neg h₁, if_pos h₂]
    simp only [List.map_cons, List.map_nil, UInt8.toNat_ofNat', Nat.reducePow, List.cons.injEq,
      and_true]
    omega
  by_cases h₃ : n ≤ 65535
  · refine Or.inr (Or.inr (Or.inl ⟨by omega, by omega, ?_⟩))
    rw [if_neg h₁, if_neg h₂, if_pos h₃]
    simp only [List.map_cons, List.map_nil, UInt8.toNat_ofNat', Nat.reducePow, List.cons.injEq,
      and_true]
    omega
  · refine Or.inr (Or.inr (Or.inr ⟨by omega, ?_⟩))
    rw [if_neg h₁, if_neg h₂, if_neg h₃]
    simp only [List.map_cons, List.map_nil, UInt8.toNat_ofNat', Nat.reducePow, List.cons.injEq,
      and_true]
    omega

/-- The first byte tells how many there are. -/
theorem sequenceLength_eq_two {a : Nat} (h : 0xc2 ≤ a ∧ a < 0xe0) : sequenceLength a = 2 := by
  unfold sequenceLength
  rw [if_neg (by omega), if_neg (by omega), if_pos h.2]

theorem sequenceLength_eq_three {a : Nat} (h : 0xe0 ≤ a ∧ a < 0xf0) : sequenceLength a = 3 := by
  unfold sequenceLength
  rw [if_neg (by omega), if_neg (by omega), if_neg (by omega), if_pos h.2]

theorem sequenceLength_eq_four {a : Nat} (h : 0xf0 ≤ a ∧ a < 0xf5) : sequenceLength a = 4 := by
  unfold sequenceLength
  rw [if_neg (by omega), if_neg (by omega), if_neg (by omega), if_neg (by omega), if_pos h.2]

/-- The second byte of a character lies within the bounds that its first one sets. -/
theorem secondByte_ok {n a b : Nat}
    (h : (0x80 ≤ n ∧ n < 0x800 ∧ a = n / 64 + 0xc0 ∧ b = n % 64 + 0x80)
      ∨ (0x800 ≤ n ∧ (n < 0xd800 ∨ 0xdfff < n ∧ n < 0x10000) ∧ a = n / 4096 + 0xe0
        ∧ b = n / 64 % 64 + 0x80)
      ∨ (0x10000 ≤ n ∧ n < 0x110000 ∧ a = n / 262144 + 0xf0 ∧ b = n / 4096 % 64 + 0x80)) :
    (b < (secondByte a).1 || (secondByte a).2 ≤ b) = false := by
  rw [Bool.or_eq_false_iff, decide_eq_false_iff_not, decide_eq_false_iff_not]
  unfold secondByte
  by_cases h₁ : a = 0xe0
  · rw [if_pos h₁]
    dsimp only
    omega
  by_cases h₂ : a = 0xed
  · rw [if_neg h₁, if_pos h₂]
    dsimp only
    omega
  by_cases h₃ : a = 0xf0
  · rw [if_neg h₁, if_neg h₂, if_pos h₃]
    dsimp only
    omega
  by_cases h₄ : a = 0xf4
  · rw [if_neg h₁, if_neg h₂, if_neg h₃, if_pos h₄]
    dsimp only
    omega
  · rw [if_neg h₁, if_neg h₂, if_neg h₃, if_neg h₄]
    dsimp only
    omega

/-- Six bits with the mark of a continuation are one. -/
theorem isContinuation_add (n : Nat) : isContinuation (n % 64 + 0x80) = true := by
  unfold isContinuation
  rw [Bool.and_eq_true, decide_eq_true_iff, decide_eq_true_iff]
  omega

section

variable {a b c d : Nat}

/-- Sequences of each length are read back from their bits. -/
theorem decodeOne_two (ha : sequenceLength a = 2)
    (hb : (b < (secondByte a).1 || (secondByte a).2 ≤ b) = false) (rest : List Nat) :
    decodeOne (a :: b :: rest) = .ok (Char.ofNat (a % 32 * 64 + b % 64), 2) := by
  simp only [decodeOne, ha, hb, Bool.false_eq_true, if_false, if_true]

theorem decodeOne_three (ha : sequenceLength a = 3)
    (hb : (b < (secondByte a).1 || (secondByte a).2 ≤ b) = false) (hc : isContinuation c = true)
    (rest : List Nat) :
    decodeOne (a :: b :: c :: rest)
      = .ok (Char.ofNat ((a % 16 * 64 + b % 64) * 64 + c % 64), 3) := by
  simp [decodeOne, ha, hb, hc]

theorem decodeOne_four (ha : sequenceLength a = 4)
    (hb : (b < (secondByte a).1 || (secondByte a).2 ≤ b) = false) (hc : isContinuation c = true)
    (hd : isContinuation d = true) (rest : List Nat) :
    decodeOne (a :: b :: c :: d :: rest)
      = .ok (Char.ofNat (((a % 8 * 64 + b % 64) * 64 + c % 64) * 64 + d % 64), 4) := by
  simp [decodeOne, ha, hb, hc, hd]

/-- A sequence that ends too early is told from a wrong one. -/
theorem decodeOne_cut_one (ha : 2 ≤ sequenceLength a) :
    decodeOne [a] = .error (.unexpectedEnd, 1) := by
  obtain ⟨n, hn⟩ : ∃ n, sequenceLength a = n + 2 := ⟨_, (Nat.sub_add_cancel ha).symm⟩
  simp [decodeOne, hn]

theorem decodeOne_cut_two (ha : 3 ≤ sequenceLength a)
    (hb : (b < (secondByte a).1 || (secondByte a).2 ≤ b) = false) :
    decodeOne [a, b] = .error (.unexpectedEnd, 2) := by
  obtain ⟨n, hn⟩ : ∃ n, sequenceLength a = n + 3 := ⟨_, (Nat.sub_add_cancel ha).symm⟩
  simp [decodeOne, hn, hb]

theorem decodeOne_cut_three (ha : sequenceLength a = 4)
    (hb : (b < (secondByte a).1 || (secondByte a).2 ≤ b) = false) (hc : isContinuation c = true) :
    decodeOne [a, b, c] = .error (.unexpectedEnd, 3) := by
  simp [decodeOne, ha, hb, hc]

end

/-- The first bytes of a text are read as its first character. -/
theorem decodeOne_charBytes (c : Char) (rest : List Nat) :
    decodeOne (charBytes c ++ rest) = .ok (c, (charBytes c).length) := by
  have hvalid := toNat_valid c
  have hback {n : Nat} (h : n = c.toNat) : Char.ofNat n = c := by
    rw [h, Char.ofNat_toNat]
  -- Whatever the number of bytes, the digits they carry are those of the code point.
  rcases charBytes_cases c with
    ⟨hlt, hbytes⟩ | ⟨hle, hlt, hbytes⟩ | ⟨hle, hlt, hbytes⟩ | ⟨hle, hbytes⟩
  · have hlength : sequenceLength c.toNat = 1 := if_pos hlt
    rw [hbytes]
    simp only [List.cons_append, List.nil_append, decodeOne, hlength]
    rw [hback rfl]
    rfl
  · have hdecode := decodeOne_two (sequenceLength_eq_two (by omega))
      (secondByte_ok (Or.inl ⟨hle, hlt, rfl, rfl⟩)) rest
    rw [hback (by omega)] at hdecode
    rw [hbytes]
    exact hdecode
  · have hdecode := decodeOne_three (sequenceLength_eq_three (by omega))
      (secondByte_ok (Or.inr (Or.inl ⟨hle, by omega, rfl, rfl⟩)))
      (isContinuation_add c.toNat) rest
    rw [hback (by omega)] at hdecode
    rw [hbytes]
    exact hdecode
  · have hdecode := decodeOne_four (sequenceLength_eq_four (by omega))
      (secondByte_ok (Or.inr (Or.inr ⟨hle, by omega, rfl, rfl⟩)))
      (isContinuation_add (c.toNat / 64)) (isContinuation_add c.toNat) rest
    rw [hback (by omega)] at hdecode
    rw [hbytes]
    exact hdecode

/-- The bytes of a character without the last ones run out, and that is all that is wrong with
them. -/
theorem decodeOne_cut {c : Char} {w : List Nat} (hw : w ≠ []) (hcut : w <+: charBytes c)
    (hlt : w.length < (charBytes c).length) :
    ∃ n, decodeOne w = .error (.unexpectedEnd, n) := by
  have hvalid := toNat_valid c
  obtain ⟨k, rfl⟩ : ∃ k, w = (charBytes c).take k := ⟨w.length, (List.prefix_iff_eq_take.mp hcut)⟩
  rcases charBytes_cases c with
    ⟨hlt', hbytes⟩ | ⟨hle, hlt', hbytes⟩ | ⟨hle, hlt', hbytes⟩ | ⟨hle, hbytes⟩
  all_goals
    rw [hbytes] at hw hlt ⊢
    rw [List.length_take] at hlt
    simp only [List.length_cons, List.length_nil] at hlt
  -- A cut leaves at least one byte and takes at least one away.
  · obtain rfl : k = 0 := by omega
    exact absurd rfl hw
  · have hfirst := sequenceLength_eq_two (show 0xc2 ≤ c.toNat / 64 + 0xc0
      ∧ c.toNat / 64 + 0xc0 < 0xe0 by omega)
    obtain rfl | rfl : k = 0 ∨ k = 1 := by omega
    · exact absurd rfl hw
    · exact ⟨1, decodeOne_cut_one (by omega)⟩
  · have hfirst := sequenceLength_eq_three (show 0xe0 ≤ c.toNat / 4096 + 0xe0
      ∧ c.toNat / 4096 + 0xe0 < 0xf0 by omega)
    have hsecond := secondByte_ok (Or.inr (Or.inl ⟨hle, by omega, rfl, rfl⟩))
    obtain rfl | rfl | rfl : k = 0 ∨ k = 1 ∨ k = 2 := by omega
    · exact absurd rfl hw
    · exact ⟨1, decodeOne_cut_one (by omega)⟩
    · exact ⟨2, decodeOne_cut_two (by omega) hsecond⟩
  · have hfirst := sequenceLength_eq_four (show 0xf0 ≤ c.toNat / 262144 + 0xf0
      ∧ c.toNat / 262144 + 0xf0 < 0xf5 by omega)
    have hsecond := secondByte_ok (Or.inr (Or.inr ⟨hle, by omega, rfl, rfl⟩))
    obtain rfl | rfl | rfl | rfl : k = 0 ∨ k = 1 ∨ k = 2 ∨ k = 3 := by omega
    · exact absurd rfl hw
    · exact ⟨1, decodeOne_cut_one (by omega)⟩
    · exact ⟨2, decodeOne_cut_two (by omega) hsecond⟩
    · exact ⟨3, decodeOne_cut_three hfirst hsecond (isContinuation_add (c.toNat / 64))⟩

/-! ## A text that arrives at once -/

/-- Every character has a byte. -/
theorem charBytes_ne_nil (c : Char) : charBytes c ≠ [] := by
  rcases charBytes_cases c with ⟨-, h⟩ | ⟨-, -, h⟩ | ⟨-, -, h⟩ | ⟨-, h⟩
  all_goals
    rw [h]
    exact List.cons_ne_nil _ _

/-- Bytes that belong to a character already read are passed over. -/
theorem decodeFrom_skip (read : List Char) (position : Nat) (xs rest : List Nat) :
    decodeFrom read position xs.length (xs ++ rest)
      = decodeFrom read (position + xs.length) 0 rest := by
  induction xs generalizing position with
  | nil => rfl
  | cons x xs ih =>
    rw [List.length_cons, List.cons_append, decodeFrom, ih]
    congr 1
    omega

/-- One character is read, and the reader stands behind it. -/
theorem decodeFrom_charBytes (read : List Char) (position : Nat) (c : Char) (rest : List Nat) :
    decodeFrom read position 0 (charBytes c ++ rest)
      = decodeFrom (c :: read) (position + (charBytes c).length) 0 rest := by
  have hdecode := decodeOne_charBytes c rest
  obtain ⟨a, tail, htail⟩ := List.exists_cons_of_ne_nil (charBytes_ne_nil c)
  rw [htail] at hdecode ⊢
  rw [List.cons_append, decodeFrom, ← List.cons_append, hdecode]
  dsimp only
  rw [List.length_cons, Nat.add_sub_cancel, decodeFrom_skip]
  congr 1
  omega

/-- The bytes of a text are read as the text; what follows is read from there. -/
theorem decodeFrom_encode (read : List Char) (position : Nat) (cs : List Char) (rest : List Nat) :
    decodeFrom read position 0 (encode cs ++ rest)
      = decodeFrom (cs.reverse ++ read) (position + (encode cs).length) 0 rest := by
  induction cs generalizing read position with
  | nil => rfl
  | cons c cs ih =>
    rw [encode_cons, List.append_assoc, decodeFrom_charBytes, ih, List.length_append,
      List.reverse_cons, List.append_assoc, Nat.add_assoc]
    rfl

/-- **A text is read from its bytes.** -/
theorem decode_encode (cs : List Char) : decode (encode cs) = (cs, none) := by
  have h := decodeFrom_encode [] 0 cs []
  rw [List.append_nil] at h
  unfold decode
  rw [h, List.append_nil, decodeFrom, List.reverse_reverse]

/-- A text and the first bytes of one more character: the text is read, and the rest runs out. -/
theorem decode_encode_cut (cs : List Char) {c : Char} {w : List Nat} (hw : w ≠ [])
    (hcut : w <+: charBytes c) (hlt : w.length < (charBytes c).length) :
    ∃ e, decode (encode cs ++ w) = (cs, some e) ∧ e.fault = .unexpectedEnd
      ∧ e.start = (encode cs).length := by
  obtain ⟨n, hone⟩ := decodeOne_cut hw hcut hlt
  obtain ⟨a, tail, rfl⟩ := List.exists_cons_of_ne_nil hw
  unfold decode
  rw [decodeFrom_encode, decodeFrom, hone]
  refine ⟨_, Prod.ext ?_ rfl, rfl, ?_⟩
  · rw [List.append_nil, List.reverse_reverse]
  · exact Nat.zero_add _

/-! ## A text that arrives in pieces -/

/-- The first bytes of a text are those of some characters, and the first of one more unless they
end with a character. -/
theorem exists_cut {cs : List Char} {piece : List Nat} (h : piece <+: encode cs) :
    ∃ read rest w, cs = read ++ rest ∧ piece = encode read ++ w
      ∧ (w = [] ∨ ∃ c, w ≠ [] ∧ w <+: charBytes c ∧ w.length < (charBytes c).length) := by
  induction cs generalizing piece with
  | nil =>
    refine ⟨[], [], [], rfl, ?_, Or.inl rfl⟩
    exact List.prefix_nil.mp h
  | cons c cs ih =>
    rw [encode_cons] at h
    by_cases hlt : piece.length < (charBytes c).length
    · have hcut : piece <+: charBytes c :=
        List.prefix_of_prefix_length_le h (List.prefix_append _ _) (Nat.le_of_lt hlt)
      by_cases hnil : piece = []
      · exact ⟨[], c :: cs, [], rfl, hnil, Or.inl rfl⟩
      · exact ⟨[], c :: cs, piece, rfl, rfl, Or.inr ⟨c, hnil, hcut, hlt⟩⟩
    · have hfirst : charBytes c <+: piece :=
        List.prefix_of_prefix_length_le (List.prefix_append _ _) h (Nat.le_of_not_lt hlt)
      obtain ⟨tail, rfl⟩ := hfirst
      obtain ⟨read, rest, w, rfl, rfl, hw⟩ := ih ((List.prefix_append_right_inj _).mp h)
      refine ⟨c :: read, rest, w, rfl, ?_, hw⟩
      rw [encode_cons, List.append_assoc]

/-- **A text that arrives in pieces** is read as the text: what waits and what is to come are
always the bytes of what has not been read. -/
theorem decodePieces_encode {size : Nat} (hsize : 0 < size) (read : List (List Char))
    (waiting bytes : List Nat) (cs : List Char) (h : waiting ++ bytes = encode cs) :
    decodePieces size read waiting bytes = (read.reverse.flatten ++ cs, none) := by
  rw [decodePieces]
  by_cases hbytes : bytes = []
  · subst hbytes
    rw [List.append_nil] at h
    rw [if_pos List.isEmpty_nil, h, decode_encode]
    simp
  · have hlength : 0 < bytes.length := List.length_pos_iff.mpr hbytes
    have hpiece : waiting ++ bytes.take size <+: encode cs := by
      rw [← h]
      exact (List.prefix_append_right_inj waiting).mpr (List.take_prefix size bytes)
    obtain ⟨now, later, w, rfl, hsplit, hw⟩ := exists_cut hpiece
    -- What is left over waits, and with the bytes to come it is the rest of the text.
    have hrest : w ++ bytes.drop size = encode later := by
      rw [encode_append, ← List.take_append_drop size bytes, ← List.append_assoc, hsplit,
        List.append_assoc] at h
      exact List.append_cancel_left h
    have hshorter : (bytes.drop size).length < bytes.length := by
      rw [List.length_drop]
      omega
    have hnext := decodePieces_encode hsize (now :: read) w (bytes.drop size) later hrest
    have hread :
        (now :: read).reverse.flatten ++ later = read.reverse.flatten ++ (now ++ later) := by
      simp
    rw [hread] at hnext
    rw [if_neg (mt List.isEmpty_iff.mp hbytes), dif_pos ⟨hsize, hlength⟩, hsplit]
    dsimp only
    rcases hw with rfl | ⟨c, hne, hcut, hlt⟩
    · rw [List.append_nil, decode_encode]
      exact hnext
    · obtain ⟨e, hdecode, hfault, hstart⟩ := decode_encode_cut now hne hcut hlt
      rw [hdecode]
      dsimp only
      rw [if_pos hfault, hstart, List.drop_left]
      exact hnext
termination_by bytes.length

/-- The bytes of a text that has arrived as a whole. -/
theorem decodePieces_utf8 {size : Nat} (hsize : 0 < size) (cs : List Char) :
    decodePieces size [] [] ((cs.flatMap String.utf8EncodeChar).map UInt8.toNat) = (cs, none) :=
  decodePieces_encode hsize [] [] _ cs (map_toNat_utf8 cs)

end Text

end PoissonFactor
