import LineShell.Proofs.Text.Utf8

/-!
# Decoded texts

A byte string that is a text is the bytes of that text, so a name that was decoded still names the same file
when it is typed.

* `Lead.Announced`: what a first byte says of the others.
* `encodeChar_two`, `encodeChar_three`, `encodeChar_four`: the bytes of a longer character.
* `encodeChar_of_readFollowing`: a character that was read is the bytes that it was read from.
* `encode_of_decode?`: and so is a text.
-/

namespace LineShell.Utf8

/-! ## Reading one character -/

theorem readFollowing_zero {low high : UInt8} {bits value : Nat} {bs rest : Bytes}
    (read : readFollowing 0 low high bits bs = (some value, rest)) : bits = value ∧ bs = rest := by
  cases read
  exact ⟨rfl, rfl⟩

/-- The bytes that are read on over: the first of them within the bounds of the first byte. -/
theorem readFollowing_succ {n : Nat} {low high : UInt8} {bits value : Nat} {bs rest : Bytes}
    (read : readFollowing (n + 1) low high bits bs = (some value, rest)) :
    ∃ b behind, bs = b :: behind ∧ low.toNat ≤ b.toNat ∧ b.toNat ≤ high.toNat ∧
      readFollowing n 0x80 0xBF (bits * 64 + (b.toNat - 0x80)) behind = (some value, rest) := by
  cases bs with
  | nil => cases read
  | cons b behind =>
    simp only [readFollowing] at read
    split at read
    · next within =>
      exact ⟨b, behind, rfl, UInt8.le_iff_toNat_le.mp within.1, UInt8.le_iff_toNat_le.mp within.2,
        read⟩
    · cases read

/-- A first byte and what it announces, by the number of bytes that follow. The bounds rule out the numbers
that a shorter character has, and those that no character has. -/
inductive Lead.Announced (lead : Lead) (b : Nat) : Prop
  | one (follow : lead.follow = 0) (bits : lead.bits = b) (last : b < 0x80)
  | two (follow : lead.follow = 1) (bits : lead.bits = b - 0xC0) (first : 0xC2 ≤ b) (last : b < 0xE0)
      (low : 0x80 ≤ lead.low.toNat) (high : lead.high.toNat ≤ 0xBF)
  | three (follow : lead.follow = 2) (bits : lead.bits = b - 0xE0) (first : 0xE0 ≤ b) (last : b < 0xF0)
      (low : 0x80 ≤ lead.low.toNat) (high : lead.high.toNat ≤ 0xBF)
      (overlong : b = 0xE0 → lead.low.toNat = 0xA0) (surrogate : b = 0xED → lead.high.toNat = 0x9F)
  | four (follow : lead.follow = 3) (bits : lead.bits = b - 0xF0) (first : 0xF0 ≤ b) (last : b < 0xF5)
      (low : 0x80 ≤ lead.low.toNat) (high : lead.high.toNat ≤ 0xBF)
      (overlong : b = 0xF0 → lead.low.toNat = 0x90) (large : b = 0xF4 → lead.high.toNat = 0x8F)

theorem announced_of_lead {b : UInt8} {lead : Lead} (led : lead? b = some lead) :
    lead.Announced b.toNat := by
  simp only [lead?, UInt8.lt_iff_toNat_lt, ← UInt8.toNat_inj, UInt8.reduceToNat] at led
  split_ifs at led
  all_goals cases led
  · exact .one rfl rfl (by omega)
  · exact .two rfl rfl (by omega) (by omega) (Nat.le_refl _) (Nat.le_refl _)
  · exact .three rfl (by dsimp only; omega) (by omega) (by omega) (by decide) (by decide)
      (fun _ => rfl) (by omega)
  · exact .three rfl (by dsimp only; omega) (by omega) (by omega) (by decide) (by decide)
      (by omega) (fun _ => rfl)
  · exact .three rfl rfl (by omega) (by omega) (Nat.le_refl _) (Nat.le_refl _) (by omega) (by omega)
  · exact .four rfl (by dsimp only; omega) (by omega) (by omega) (by decide) (by decide)
      (fun _ => rfl) (by omega)
  · exact .four rfl rfl (by omega) (by omega) (Nat.le_refl _) (Nat.le_refl _) (by omega) (by omega)
  · exact .four rfl (by dsimp only; omega) (by omega) (by omega) (by decide) (by decide)
      (by omega) (fun _ => rfl)

theorem toNat_ofNat {n : Nat} (valid : n.isValidChar) : (Char.ofNat n).val.toNat = n := by
  unfold Char.ofNat
  rw [dif_pos valid]
  rfl

theorem ofNat_eq {b : UInt8} {n : Nat} (same : n = b.toNat) : UInt8.ofNat n = b := by
  rw [same, UInt8.ofNat_toNat]

/-- Six bits of a character, in a byte that follows another one. -/
def Follows (b : UInt8) : Prop :=
  0x80 ≤ b.toNat ∧ b.toNat ≤ 0xBF

theorem encodeChar_two {b c : UInt8} (first : 0xC2 ≤ b.toNat) (last : b.toNat < 0xE0)
    (second : Follows c) {value : Nat} (eq : (b.toNat - 0xC0) * 64 + (c.toNat - 0x80) = value) :
    String.utf8EncodeChar (Char.ofNat value) = [b, c] := by
  unfold Follows at second
  have number : (Char.ofNat value).val.toNat = value := toNat_ofNat (.inl (by omega))
  simp only [String.utf8EncodeChar, number]
  rw [if_neg (by omega), if_pos (by omega), ofNat_eq (b := b) (by omega), ofNat_eq (b := c) (by omega)]

theorem encodeChar_three {b c d : UInt8} (first : 0xE0 ≤ b.toNat) (last : b.toNat < 0xF0)
    (overlong : b.toNat = 0xE0 → 0xA0 ≤ c.toNat) (surrogate : b.toNat = 0xED → c.toNat ≤ 0x9F)
    (second : Follows c) (third : Follows d) {value : Nat}
    (eq : ((b.toNat - 0xE0) * 64 + (c.toNat - 0x80)) * 64 + (d.toNat - 0x80) = value) :
    String.utf8EncodeChar (Char.ofNat value) = [b, c, d] := by
  unfold Follows at second third
  have valid : value.isValidChar := by
    unfold Nat.isValidChar
    omega
  simp only [String.utf8EncodeChar, toNat_ofNat valid]
  rw [if_neg (by omega), if_neg (by omega), if_pos (by omega), ofNat_eq (b := b) (by omega),
    ofNat_eq (b := c) (by omega), ofNat_eq (b := d) (by omega)]

theorem encodeChar_four {b c d e : UInt8} (first : 0xF0 ≤ b.toNat) (last : b.toNat < 0xF5)
    (overlong : b.toNat = 0xF0 → 0x90 ≤ c.toNat) (large : b.toNat = 0xF4 → c.toNat ≤ 0x8F)
    (second : Follows c) (third : Follows d) (fourth : Follows e) {value : Nat}
    (eq : (((b.toNat - 0xF0) * 64 + (c.toNat - 0x80)) * 64 + (d.toNat - 0x80)) * 64 +
      (e.toNat - 0x80) = value) :
    String.utf8EncodeChar (Char.ofNat value) = [b, c, d, e] := by
  unfold Follows at second third fourth
  have valid : value.isValidChar := by
    unfold Nat.isValidChar
    omega
  simp only [String.utf8EncodeChar, toNat_ofNat valid]
  rw [if_neg (by omega), if_neg (by omega), if_neg (by omega), ofNat_eq (b := b) (by omega),
    ofNat_eq (b := c) (by omega), ofNat_eq (b := d) (by omega), ofNat_eq (b := e) (by omega)]

/-- A character that was read is the bytes that it was read from. -/
theorem encodeChar_of_readFollowing {b : UInt8} {lead : Lead} {value : Nat} {bs rest : Bytes}
    (led : lead? b = some lead)
    (read : readFollowing lead.follow lead.low lead.high lead.bits bs = (some value, rest)) :
    b :: bs = String.utf8EncodeChar (Char.ofNat value) ++ rest := by
  cases announced_of_lead led with
  | one follow bits last =>
    rw [follow] at read
    obtain ⟨rfl, rfl⟩ := readFollowing_zero read
    have number : (Char.ofNat lead.bits).val.toNat = lead.bits := toNat_ofNat (.inl (by omega))
    simp only [String.utf8EncodeChar, number]
    rw [if_pos (by omega), ofNat_eq bits, List.singleton_append]
  | two follow bits first last low high =>
    rw [follow] at read
    obtain ⟨c, bs, rfl, above, below, read⟩ := readFollowing_succ read
    obtain ⟨eq, rfl⟩ := readFollowing_zero read
    rw [bits] at eq
    rw [encodeChar_two first last ⟨Nat.le_trans low above, Nat.le_trans below high⟩ eq]
    rfl
  | three follow bits first last low high overlong surrogate =>
    rw [follow] at read
    obtain ⟨c, bs, rfl, above, below, read⟩ := readFollowing_succ read
    obtain ⟨d, bs, rfl, above', below', read⟩ := readFollowing_succ read
    obtain ⟨eq, rfl⟩ := readFollowing_zero read
    rw [bits] at eq
    rw [encodeChar_three first last (fun h => overlong h ▸ above) (fun h => surrogate h ▸ below)
      ⟨Nat.le_trans low above, Nat.le_trans below high⟩ ⟨above', below'⟩ eq]
    rfl
  | four follow bits first last low high overlong large =>
    rw [follow] at read
    obtain ⟨c, bs, rfl, above, below, read⟩ := readFollowing_succ read
    obtain ⟨d, bs, rfl, above', below', read⟩ := readFollowing_succ read
    obtain ⟨e, bs, rfl, above'', below'', read⟩ := readFollowing_succ read
    obtain ⟨eq, rfl⟩ := readFollowing_zero read
    rw [bits] at eq
    rw [encodeChar_four first last (fun h => overlong h ▸ above) (fun h => large h ▸ below)
      ⟨Nat.le_trans low above, Nat.le_trans below high⟩ ⟨above', below'⟩ ⟨above'', below''⟩ eq]
    rfl

/-! ## Texts -/

theorem encodeChars_of_units {bs : Bytes} :
    ∀ cs : List Char, units bs = cs.map some → encodeChars cs = bs := by
  fun_induction units bs with
  | case1 =>
    intro cs all
    obtain rfl : cs = [] := by simpa using all
    rfl
  | case2 b bs none ih =>
    intro cs all
    cases cs <;> cases all
  | case3 b bs lead led cut ih =>
    intro cs all
    cases cs with
    | nil => cases all
    | cons c cs =>
      obtain ⟨first, others⟩ := List.cons.inj all
      obtain ⟨value, read, rfl⟩ := Option.map_eq_some_iff.mp first
      rw [encodeChars_cons, ih cs others, encodeChar_of_readFollowing led (Prod.ext read rfl)]

/-- The bytes of a text that was decoded are those that it was decoded from. -/
theorem encode_of_decode? {bs : Bytes} {text : String} (decoded : decode? bs = some text) :
    encode text = bs := by
  obtain ⟨cs, all, rfl⟩ := Option.map_eq_some_iff.mp decoded
  rw [encode, String.toList_ofList]
  exact encodeChars_of_units cs (mapM_id_eq_some_iff.mp all)

end LineShell.Utf8
