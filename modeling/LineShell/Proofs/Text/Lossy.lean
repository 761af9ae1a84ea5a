import LineShell.Proofs.Text.Decoding

/-!
# Byte strings shown as text

A malformed run is shown as one replacement character, which takes three bytes, as many as the longest run
has. So a text is never shorter than the bytes that it shows, and at most three times as long, and well-formed
bytes are shown as they are.

* `units_encodeChar_append`: a character is read back from its bytes, whatever stands behind them.
* `decodeLossy_encode`, `decode?_encode`: and so is a text.
* `length_le_size_decodeLossy`, `size_decodeLossy_le`: the length of a text that shows bytes.
-/

namespace LineShell.Utf8

/-! ## Characters read back -/

theorem lead?_two {b : UInt8} (first : 0xC2 ≤ b.toNat) (last : b.toNat < 0xE0) :
    lead? b = some { follow := 1, bits := b.toNat - 0xC0 } := by
  simp only [lead?, UInt8.lt_iff_toNat_lt, UInt8.reduceToNat]
  rw [if_neg (by omega), if_neg (by omega), if_pos last]

/-- The bounds of the second byte are narrowed to rule out what is written shorter, and surrogates. -/
theorem lead?_three {b : UInt8} (first : 0xE0 ≤ b.toNat) (last : b.toNat < 0xF0) :
    ∃ low high, lead? b = some { follow := 2, bits := b.toNat - 0xE0, low, high } ∧
      low.toNat = (if b.toNat = 0xE0 then 0xA0 else 0x80) ∧
      high.toNat = (if b.toNat = 0xED then 0x9F else 0xBF) := by
  simp only [lead?, UInt8.lt_iff_toNat_lt, ← UInt8.toNat_inj, UInt8.reduceToNat]
  rw [if_neg (by omega), if_neg (by omega), if_neg (by omega)]
  by_cases overlong : b.toNat = 0xE0
  · exact ⟨0xA0, 0xBF, by rw [if_pos overlong, overlong], by rw [if_pos overlong]; rfl,
      by rw [if_neg (by omega)]; rfl⟩
  · by_cases surrogate : b.toNat = 0xED
    · exact ⟨0x80, 0x9F, by rw [if_neg overlong, if_pos surrogate, surrogate],
        by rw [if_neg overlong]; rfl, by rw [if_pos surrogate]; rfl⟩
    · exact ⟨0x80, 0xBF, by rw [if_neg overlong, if_neg surrogate, if_pos last],
        by rw [if_neg overlong]; rfl, by rw [if_neg surrogate]; rfl⟩

/-- They are narrowed to rule out what is written shorter, and what is larger than any character. -/
theorem lead?_four {b : UInt8} (first : 0xF0 ≤ b.toNat) (last : b.toNat < 0xF5) :
    ∃ low high, lead? b = some { follow := 3, bits := b.toNat - 0xF0, low, high } ∧
      low.toNat = (if b.toNat = 0xF0 then 0x90 else 0x80) ∧
      high.toNat = (if b.toNat = 0xF4 then 0x8F else 0xBF) := by
  simp only [lead?, UInt8.lt_iff_toNat_lt, ← UInt8.toNat_inj, UInt8.reduceToNat]
  rw [if_neg (by omega), if_neg (by omega), if_neg (by omega), if_neg (by omega), if_neg (by omega),
    if_neg (by omega)]
  by_cases overlong : b.toNat = 0xF0
  · exact ⟨0x90, 0xBF, by rw [if_pos overlong, overlong], by rw [if_pos overlong]; rfl,
      by rw [if_neg (by omega)]; rfl⟩
  · by_cases large : b.toNat = 0xF4
    · exact ⟨0x80, 0x8F, by rw [if_neg overlong, if_neg (by omega), if_pos large, large],
        by rw [if_neg overlong]; rfl, by rw [if_pos large]; rfl⟩
    · exact ⟨0x80, 0xBF, by rw [if_neg overlong, if_pos (by omega)],
        by rw [if_neg overlong]; rfl, by rw [if_neg large]; rfl⟩

/-- A byte within the bounds is read onto the bits. -/
theorem readFollowing_cons (n : Nat) {low high b : UInt8} (above : low.toNat ≤ b.toNat)
    (below : b.toNat ≤ high.toNat) (bits : Nat) (bs : Bytes) :
    readFollowing (n + 1) low high bits (b :: bs) =
      readFollowing n 0x80 0xBF (bits * 64 + (b.toNat - 0x80)) bs := by
  rw [readFollowing, if_pos ⟨UInt8.le_iff_toNat_le.mpr above, UInt8.le_iff_toNat_le.mpr below⟩]

theorem readFollowing_follows (n : Nat) {b : UInt8} (follows : Follows b) (bits : Nat) (bs : Bytes) :
    readFollowing (n + 1) 0x80 0xBF bits (b :: bs) =
      readFollowing n 0x80 0xBF (bits * 64 + (b.toNat - 0x80)) bs := by
  apply readFollowing_cons
  · exact follows.1
  · exact follows.2

theorem units_cons_of_lead? {b : UInt8} {lead : Lead} (led : lead? b = some lead) {bs rest : Bytes}
    {value : Nat}
    (read : readFollowing lead.follow lead.low lead.high lead.bits bs = (some value, rest)) :
    units (b :: bs) = some (Char.ofNat value) :: units rest := by
  rw [units]
  simp only [led, read, Option.map_some]

theorem units_cons_of_none {b : UInt8} (none : lead? b = none) (bs : Bytes) :
    units (b :: bs) = Option.none :: units bs := by
  rw [units]
  simp only [none]

theorem units_two {b c : UInt8} (first : 0xC2 ≤ b.toNat) (last : b.toNat < 0xE0)
    (second : Follows c) {value : Nat} (eq : (b.toNat - 0xC0) * 64 + (c.toNat - 0x80) = value)
    (rest : Bytes) : units (b :: c :: rest) = some (Char.ofNat value) :: units rest := by
  refine units_cons_of_lead? (lead?_two first last) ?_
  rw [readFollowing_follows 0 second, eq]
  rfl

theorem units_three {b c d : UInt8} (first : 0xE0 ≤ b.toNat) (last : b.toNat < 0xF0)
    (overlong : b.toNat = 0xE0 → 0xA0 ≤ c.toNat) (surrogate : b.toNat = 0xED → c.toNat ≤ 0x9F)
    (second : Follows c) (third : Follows d) {value : Nat}
    (eq : ((b.toNat - 0xE0) * 64 + (c.toNat - 0x80)) * 64 + (d.toNat - 0x80) = value)
    (rest : Bytes) : units (b :: c :: d :: rest) = some (Char.ofNat value) :: units rest := by
  obtain ⟨low, high, led, lowest, highest⟩ := lead?_three first last
  have above : low.toNat ≤ c.toNat := by
    rw [lowest]
    split
    · exact overlong ‹_›
    · exact second.1
  have below : c.toNat ≤ high.toNat := by
    rw [highest]
    split
    · exact surrogate ‹_›
    · exact second.2
  refine units_cons_of_lead? led ?_
  rw [readFollowing_cons 1 above below, readFollowing_follows 0 third, eq]
  rfl

theorem units_four {b c d e : UInt8} (first : 0xF0 ≤ b.toNat) (last : b.toNat < 0xF5)
    (overlong : b.toNat = 0xF0 → 0x90 ≤ c.toNat) (large : b.toNat = 0xF4 → c.toNat ≤ 0x8F)
    (second : Follows c) (third : Follows d) (fourth : Follows e) {value : Nat}
    (eq : (((b.toNat - 0xF0) * 64 + (c.toNat - 0x80)) * 64 + (d.toNat - 0x80)) * 64 +
      (e.toNat - 0x80) = value)
    (rest : Bytes) : units (b :: c :: d :: e :: rest) = some (Char.ofNat value) :: units rest := by
  obtain ⟨low, high, led, lowest, highest⟩ := lead?_four first last
  have above : low.toNat ≤ c.toNat := by
    rw [lowest]
    split
    · exact overlong ‹_›
    · exact second.1
  have below : c.toNat ≤ high.toNat := by
    rw [highest]
    split
    · exact large ‹_›
    · exact second.2
  refine units_cons_of_lead? led ?_
  rw [readFollowing_cons 2 above below, readFollowing_follows 1 third, readFollowing_follows 0 fourth, eq]
  rfl

/-- A number below 256 is the number of its byte. -/
theorem toNat_byte {n : Nat} (less : n < 256) : (UInt8.ofNat n).toNat = n := by
  rw [UInt8.toNat_ofNat', Nat.mod_eq_of_lt less]

/-- Six bits of a number, in a byte that follows another one. -/
theorem follows_bits (n : Nat) : Follows (UInt8.ofNat (n % 64 + 0x80)) := by
  rw [Follows, toNat_byte (by omega)]
  omega

/-- A character is read back from its bytes, whatever stands behind them. -/
theorem units_encodeChar_append (c : Char) (rest : Bytes) :
    units (String.utf8EncodeChar c ++ rest) = some c :: units rest := by
  have valid : c.val.toNat < 0xD800 ∨ 0xDFFF < c.val.toNat ∧ c.val.toNat < 0x110000 := c.valid
  have back : Char.ofNat c.val.toNat = c := Char.ofNat_toNat c
  unfold String.utf8EncodeChar
  generalize c.val.toNat = v at valid back ⊢
  rw [← back]
  simp only
  split_ifs with one two three
  · have first : (UInt8.ofNat v).toNat = v := toNat_byte (by omega)
    have ascii : UInt8.ofNat v < 0x80 := by
      rw [UInt8.lt_iff_toNat_lt, first]
      exact Nat.lt_succ_of_le one
    rw [List.singleton_append, units_cons_ascii ascii, first]
  · have first : (UInt8.ofNat (v / 64 % 32 + 192)).toNat = _ := toNat_byte (by omega)
    have second : (UInt8.ofNat (v % 64 + 128)).toNat = _ := toNat_byte (by omega)
    exact units_two (by omega) (by omega) (follows_bits v) (by omega) rest
  · have first : (UInt8.ofNat (v / 4096 % 16 + 224)).toNat = _ := toNat_byte (by omega)
    have second : (UInt8.ofNat (v / 64 % 64 + 128)).toNat = _ := toNat_byte (by omega)
    have third : (UInt8.ofNat (v % 64 + 128)).toNat = _ := toNat_byte (by omega)
    exact units_three (by omega) (by omega) (by omega) (by omega) (follows_bits _) (follows_bits v)
      (by omega) rest
  · have first : (UInt8.ofNat (v / 262144 % 8 + 240)).toNat = _ := toNat_byte (by omega)
    have second : (UInt8.ofNat (v / 4096 % 64 + 128)).toNat = _ := toNat_byte (by omega)
    have third : (UInt8.ofNat (v / 64 % 64 + 128)).toNat = _ := toNat_byte (by omega)
    have fourth : (UInt8.ofNat (v % 64 + 128)).toNat = _ := toNat_byte (by omega)
    exact units_four (by omega) (by omega) (by omega) (by omega) (follows_bits _) (follows_bits _)
      (follows_bits v) (by omega) rest

theorem units_encodeChars (cs : List Char) : units (encodeChars cs) = cs.map some := by
  induction cs with
  | nil => rw [encodeChars_nil, units, List.map_nil]
  | cons c cs ih => rw [encodeChars_cons, units_encodeChar_append, ih, List.map_cons]

/-- Texts are told apart by their bytes. -/
theorem eq_of_encodeChars_eq {cs ds : List Char} (same : encodeChars cs = encodeChars ds) : cs = ds := by
  have units : cs.map some = ds.map some := by
    rw [← units_encodeChars, ← units_encodeChars, same]
  exact List.map_inj_right (fun _ _ => Option.some.inj) |>.mp units

/-- The bytes of a text are shown as the text. -/
theorem decodeLossy_encode (text : String) : decodeLossy (encode text) = text := by
  apply String.toList_inj.mp
  rw [toList_decodeLossy, encode, units_encodeChars, List.map_map]
  exact List.map_id _

theorem decode?_encode (text : String) : decode? (encode text) = some text := by
  rw [decode?, encode, mapM_id_eq_some_iff.mpr (units_encodeChars text.toList), Option.map_some,
    String.ofList_toList]

/-! ## Lengths -/

/-- A malformed run is broken off before the last byte that was announced. -/
theorem length_of_readFollowing_none {n : Nat} {low high : UInt8} {bits : Nat} {bs rest : Bytes}
    (read : readFollowing n low high bits bs = (none, rest)) : bs.length < rest.length + n := by
  induction n generalizing low high bits bs with
  | zero => cases read
  | succ n ih =>
    cases bs with
    | nil =>
      cases read
      exact Nat.succ_pos _
    | cons b bs =>
      rw [readFollowing] at read
      split at read
      · have fewer := ih read
        rw [List.length_cons]
        omega
      · cases read
        omega

theorem follow_le_of_lead? {b : UInt8} {lead : Lead} (led : lead? b = some lead) :
    lead.follow ≤ 3 := by
  cases announced_of_lead led <;> omega

theorem size_replacement : Char.utf8Size '\uFFFD' = 3 := by
  decide

/-- Every unit takes as many bytes as it is shown with, or up to three and is shown with three. -/
theorem length_le_size_units (bs : Bytes) :
    bs.length ≤ size ((units bs).map (·.getD '\uFFFD')) ∧
      size ((units bs).map (·.getD '\uFFFD')) ≤ 3 * bs.length := by
  fun_induction units bs with
  | case1 => exact ⟨Nat.le_refl _, Nat.le_refl _⟩
  | case2 b bs none ih =>
    simp only [List.map_cons, size, Option.getD_none, size_replacement, List.length_cons]
    omega
  | case3 b bs lead led cut ih =>
    cases read : cut.1 with
    | none =>
      have long := length_of_readFollowing_none (Prod.ext read rfl : _ = (none, cut.2))
      have short : cut.2.length ≤ bs.length := length_readFollowing_le ..
      have three := follow_le_of_lead? led
      simp only [Option.map_none, List.map_cons, size, Option.getD_none, size_replacement,
        List.length_cons]
      omega
    | some value =>
      have whole := encodeChar_of_readFollowing led (Prod.ext read rfl : _ = (some value, cut.2))
      have length := congrArg List.length whole
      have some := (Char.ofNat value).utf8Size_pos
      rw [List.length_append, String.length_utf8EncodeChar] at length
      simp only [Option.map_some, List.map_cons, size, Option.getD_some]
      omega

/-- A text is not shorter than the bytes that it shows. -/
theorem length_le_size_decodeLossy (bs : Bytes) : bs.length ≤ (decodeLossy bs).utf8ByteSize := by
  rw [← size_toList, toList_decodeLossy]
  exact (length_le_size_units bs).1

/-- It is at most three times as long. -/
theorem size_decodeLossy_le (bs : Bytes) : (decodeLossy bs).utf8ByteSize ≤ 3 * bs.length := by
  rw [← size_toList, toList_decodeLossy]
  exact (length_le_size_units bs).2

end LineShell.Utf8
