import LineShell.Reader
import Mathlib.Algebra.Group.Nat.Defs
import Mathlib.Tactic.Common
import Mathlib.Tactic.SplitIfs

/-!
# Bytes of texts

* `length_encode`: a text takes as many bytes as it says.
* `count_newline_encode`: its bytes hold as many newlines as it does.
* `units_cons_ascii`, `decode?_ascii`: a byte below 128 is a character of its own.
* `units_append`, `decode?_append_ascii`: and so is one that stands behind others.
* `newline_mem_of_decode?`: a newline is decoded from nothing but its byte.
-/

namespace LineShell.Utf8

/-! ## Lengths -/

@[simp] theorem encodeChars_nil : encodeChars [] = [] := rfl

@[simp] theorem encodeChars_cons (c : Char) (cs : List Char) :
    encodeChars (c :: cs) = String.utf8EncodeChar c ++ encodeChars cs := rfl

@[simp] theorem encodeChars_append (cs ds : List Char) :
    encodeChars (cs ++ ds) = encodeChars cs ++ encodeChars ds := by
  simp [encodeChars]

@[simp] theorem encode_append (a b : String) : encode (a ++ b) = encode a ++ encode b := by
  simp [encode]

theorem length_encode (text : String) : (encode text).length = text.utf8ByteSize := by
  rw [← String.size_toByteArray, ← String.utf8Encode_toList]
  simp [encode, encodeChars, List.utf8Encode]

theorem size_eq (cs : List Char) : size cs = (encodeChars cs).length := by
  induction cs with
  | nil => rfl
  | cons c cs ih =>
    rw [size, encodeChars_cons, List.length_append, String.length_utf8EncodeChar, ih]

theorem size_toList (text : String) : size text.toList = text.utf8ByteSize := by
  rw [size_eq, ← length_encode, encode]

theorem length_le_length_encodeChars (cs : List Char) : cs.length ≤ (encodeChars cs).length := by
  induction cs with
  | nil => exact Nat.le_refl _
  | cons c cs ih =>
    have := c.utf8Size_pos
    simp only [encodeChars_cons, List.length_cons, List.length_append, String.length_utf8EncodeChar]
    omega

/-- No text has more characters than bytes. -/
theorem length_toList_le (text : String) : text.toList.length ≤ text.utf8ByteSize := by
  rw [← length_encode]
  exact length_le_length_encodeChars text.toList

/-! ## Newlines -/

/-- A byte below 128 stands in the bytes of one character only, the one whose number it is. -/
theorem val_of_mem_encodeChar {c : Char} {b : UInt8} (mem : b ∈ String.utf8EncodeChar c)
    (low : b.toNat < 128) : c.val.toNat = b.toNat := by
  -- Each byte of a longer form is 128 plus something, and no addition overflows.
  have high : ∀ n, 128 ≤ n → n < 256 → b = UInt8.ofNat n → False := by
    intro n above below eq
    rw [eq, UInt8.toNat_ofNat'] at low
    omega
  unfold String.utf8EncodeChar at mem
  simp only at mem
  split at mem
  · next ascii =>
    rw [List.mem_singleton.mp mem, UInt8.toNat_ofNat']
    omega
  · exfalso
    split at mem
    · simp only [List.mem_cons, List.not_mem_nil, or_false] at mem
      rcases mem with eq | eq <;> exact high _ (by omega) (by omega) eq
    · split at mem <;> simp only [List.mem_cons, List.not_mem_nil, or_false] at mem
      · rcases mem with eq | eq | eq <;> exact high _ (by omega) (by omega) eq
      · rcases mem with eq | eq | eq | eq <;> exact high _ (by omega) (by omega) eq

theorem count_newline_encodeChar (c : Char) :
    (String.utf8EncodeChar c).count newline = if c = '\n' then 1 else 0 := by
  by_cases h : c = '\n'
  · subst h
    decide
  · rw [if_neg h, List.count_eq_zero]
    intro mem
    have val := val_of_mem_encodeChar mem (by decide)
    exact h (Char.ext (UInt32.toNat_inj.mp val))

theorem count_newline_encodeChars (cs : List Char) :
    (encodeChars cs).count newline = cs.count '\n' := by
  induction cs with
  | nil => rfl
  | cons c cs ih =>
    rw [encodeChars_cons, List.count_append, count_newline_encodeChar, ih, List.count_cons]
    simp only [beq_iff_eq]
    omega

/-- The bytes of a text hold as many newlines as the text. -/
theorem count_newline_encode (text : String) :
    (encode text).count newline = text.toList.count '\n' :=
  count_newline_encodeChars text.toList

/-! ## Decoding single bytes -/

theorem units_cons_ascii {b : UInt8} (ascii : b < 0x80) (rest : Bytes) :
    units (b :: rest) = some (Char.ofNat b.toNat) :: units rest := by
  rw [units]
  simp [lead?, ascii, readFollowing]

/-- Bytes below 128 are decoded one by one. -/
theorem units_ascii {bs : Bytes} (ascii : ∀ b ∈ bs, b < 0x80) :
    units bs = bs.map fun b => some (Char.ofNat b.toNat) := by
  induction bs with
  | nil => rw [units]; rfl
  | cons b rest ih =>
    rw [units_cons_ascii (ascii b List.mem_cons_self),
      ih fun c mem => ascii c (List.mem_cons_of_mem b mem), List.map_cons]

/-- A text of units is a list of characters. -/
theorem mapM_id_eq_some_iff {us : List (Option Char)} {cs : List Char} :
    us.mapM id = some cs ↔ us = cs.map some := by
  induction us generalizing cs with
  | nil => cases cs <;> simp
  | cons u us ih =>
    cases u with
    | none => cases cs <;> simp [List.mapM_cons]
    | some c => cases all : us.mapM id <;> cases cs <;> simp [List.mapM_cons, ← ih, all]

/-- They are always a text. -/
theorem decode?_ascii {bs : Bytes} (ascii : ∀ b ∈ bs, b < 0x80) :
    decode? bs = some (String.ofList (bs.map fun b => Char.ofNat b.toNat)) := by
  have units_eq : units bs = (bs.map fun b => Char.ofNat b.toNat).map some := by
    rw [units_ascii ascii, List.map_map]
    rfl
  rw [decode?, mapM_id_eq_some_iff.mpr units_eq, Option.map_some]

theorem toList_decodeLossy (bs : Bytes) :
    (decodeLossy bs).toList = (units bs).map (·.getD '\uFFFD') := by
  simp [decodeLossy]

/-- A text decoded from bytes starts with the character of its first byte, if that is below 128. -/
theorem head?_decodeLossy {bs : Bytes} {b : UInt8} (first : bs.head? = some b) (ascii : b < 0x80) :
    (decodeLossy bs).toList.head? = some (Char.ofNat b.toNat) := by
  obtain ⟨rest, rfl⟩ := List.head?_eq_some_iff.mp first
  rw [toList_decodeLossy, units_cons_ascii ascii]
  rfl

/-! ## Bytes below 128 behind others -/

theorem low_of_lead? {b : UInt8} {lead : Lead} (h : lead? b = some lead) : 0x80 ≤ lead.low := by
  unfold lead? at h
  split_ifs at h
  all_goals
    cases h
    dsimp only
    decide

/-- No character reads on over a byte below 128. -/
theorem readFollowing_append (n : Nat) {low : UInt8} (following : 0x80 ≤ low) (high : UInt8)
    (bits : Nat) {b : UInt8} (ascii : b < 0x80) (bs rest : Bytes) :
    readFollowing n low high bits (bs ++ b :: rest) =
      ((readFollowing n low high bits bs).1, (readFollowing n low high bits bs).2 ++ b :: rest) := by
  induction n generalizing low high bits bs with
  | zero => rfl
  | succ n ih =>
    cases bs with
    | nil =>
      have below : ¬low ≤ b := UInt8.not_le.mpr (UInt8.lt_of_lt_of_le ascii following)
      simp only [List.nil_append, readFollowing, below, false_and, if_false]
    | cons c bs =>
      simp only [List.cons_append, readFollowing]
      split
      · exact ih (UInt8.le_refl _) _ _ bs
      · rfl

/-- What stands in front of a byte below 128 is decoded as if it stood alone. -/
theorem units_append {b : UInt8} (ascii : b < 0x80) (bs rest : Bytes) :
    units (bs ++ b :: rest) = units bs ++ units (b :: rest) := by
  fun_induction units bs with
  | case1 => rfl
  | case2 c bs none ih =>
    rw [List.cons_append, units]
    simp only [none, ih, List.cons_append]
  | case3 c bs lead some cut ih =>
    have behind := readFollowing_append lead.follow (low_of_lead? some) lead.high lead.bits ascii bs
      rest
    rw [List.cons_append, units]
    simp only [some, behind, List.cons_append]
    exact congrArg _ ih

/-- Bytes below 128 behind others are decoded behind them. -/
theorem decode?_append_ascii {tail : Bytes} (ascii : ∀ b ∈ tail, b < 0x80) (bs : Bytes) :
    decode? (bs ++ tail) =
      (decode? bs).map (· ++ String.ofList (tail.map fun b => Char.ofNat b.toNat)) := by
  have apart : units (bs ++ tail) = units bs ++ units tail := by
    cases tail with
    | nil => rw [units, List.append_nil, List.append_nil]
    | cons b rest => exact units_append (ascii b List.mem_cons_self) bs rest
  have behind : (units tail).mapM id = some (tail.map fun b => Char.ofNat b.toNat) := by
    rw [mapM_id_eq_some_iff, units_ascii ascii, List.map_map]
    rfl
  rw [decode?, apart, List.mapM_append, behind, decode?]
  cases (units bs).mapM id with
  | none => rfl
  | some cs => simp [String.ofList_append]

/-! ## Newlines of decoded texts -/

/-- A first byte that announces others announces a number that takes them. -/
theorem announced_of_lead? {b : UInt8} {lead : Lead} (long : ¬b < 0x80) (led : lead? b = some lead) :
    ∃ n, lead.follow = n + 1 ∧ 128 ≤ (lead.bits * 64 + (lead.low.toNat - 0x80)) * 64 ^ n := by
  unfold lead? at led
  split_ifs at led with starts two _ _ three _ four
  all_goals
    cases led
    refine ⟨_, rfl, ?_⟩
    simp only [UInt8.lt_iff_toNat_lt, ← UInt8.toNat_inj, UInt8.reduceToNat] at *
    omega

/-- Every byte that is read onto the bits takes six more of them. -/
theorem le_of_readFollowing {n : Nat} {low high : UInt8} {bits value : Nat} {bs rest : Bytes}
    (h : readFollowing n low high bits bs = (some value, rest)) : bits * 64 ^ n ≤ value := by
  induction n generalizing low high bits bs with
  | zero =>
    cases h
    omega
  | succ n ih =>
    cases bs with
    | nil => cases h
    | cons b bs =>
      simp only [readFollowing] at h
      split at h
      · have more := ih h
        have less : bits * 64 * 64 ^ n ≤ (bits * 64 + (b.toNat - 0x80)) * 64 ^ n :=
          Nat.mul_le_mul_right _ (Nat.le_add_right _ _)
        rw [Nat.pow_succ, Nat.mul_comm (64 ^ n), ← Nat.mul_assoc]
        omega
      · cases h

/-- A character of more than one byte is none below 128. -/
theorem le_of_lead? {b : UInt8} {lead : Lead} {value : Nat} {bs rest : Bytes} (long : ¬b < 0x80)
    (led : lead? b = some lead)
    (read : readFollowing lead.follow lead.low lead.high lead.bits bs = (some value, rest)) :
    128 ≤ value := by
  obtain ⟨n, follow, enough⟩ := announced_of_lead? long led
  rw [follow] at read
  cases bs with
  | nil => cases read
  | cons c bs =>
    simp only [readFollowing] at read
    split at read
    · next within =>
      have above := UInt8.le_iff_toNat_le.mp within.1
      have value_ge := le_of_readFollowing read
      have more : (lead.bits * 64 + (lead.low.toNat - 0x80)) * 64 ^ n ≤
          (lead.bits * 64 + (c.toNat - 0x80)) * 64 ^ n :=
        Nat.mul_le_mul_right _ (by omega)
      omega
    · cases read

/-- The newline is the character of the number ten. -/
theorem eq_of_ofNat_eq_newline {n : Nat} (h : Char.ofNat n = '\n') : n = 10 := by
  unfold Char.ofNat at h
  by_cases valid : n.isValidChar
  · rw [dif_pos valid] at h
    exact congrArg Char.toNat h
  · rw [dif_neg valid] at h
    exact absurd h (by decide)

theorem readFollowing_suffix (n : Nat) (low high : UInt8) (bits : Nat) (bs : Bytes) :
    (readFollowing n low high bits bs).2 <:+ bs := by
  induction n generalizing low high bits bs with
  | zero => exact List.suffix_refl bs
  | succ n ih =>
    cases bs with
    | nil => exact List.suffix_refl []
    | cons b rest =>
      simp only [readFollowing]
      split
      · exact (ih _ _ _ rest).trans (List.suffix_cons b rest)
      · exact List.suffix_refl _

theorem newline_mem_of_mem_units {bs : Bytes} (mem : some '\n' ∈ units bs) : newline ∈ bs := by
  fun_induction units bs with
  | case1 => cases mem
  | case2 b bs none ih =>
    rcases List.mem_cons.mp mem with eq | mem
    · cases eq
    · exact List.mem_cons_of_mem b (ih mem)
  | case3 b bs lead led cut ih =>
    rcases List.mem_cons.mp mem with eq | mem
    · obtain ⟨value, read, eq⟩ := Option.map_eq_some_iff.mp eq.symm
      by_cases ascii : b < 0x80
      · simp only [lead?, ascii, if_true, Option.some.injEq] at led
        subst led
        cases read
        have same : b = newline := UInt8.toNat_inj.mp (eq_of_ofNat_eq_newline eq)
        exact same ▸ List.mem_cons_self
      · have above := le_of_lead? ascii led (Prod.ext read rfl)
        have ten := eq_of_ofNat_eq_newline eq
        omega
    · exact List.mem_cons_of_mem b ((readFollowing_suffix ..).subset (ih mem))

/-- A newline is decoded from nothing but its byte. -/
theorem newline_mem_of_decode? {bs : Bytes} {text : String} (h : decode? bs = some text)
    (mem : '\n' ∈ text.toList) : newline ∈ bs := by
  obtain ⟨cs, all, rfl⟩ := Option.map_eq_some_iff.mp h
  apply newline_mem_of_mem_units
  rw [mapM_id_eq_some_iff.mp all]
  rw [String.toList_ofList] at mem
  exact List.mem_map_of_mem mem

end LineShell.Utf8
