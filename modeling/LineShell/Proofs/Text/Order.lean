import LineShell.Proofs.Text.Utf8
import Mathlib.Data.String.Basic
import Mathlib.Order.Defs.LinearOrder
import Mathlib.Tactic.SplitIfs

/-!
# Order of texts

Texts compare by the numbers of their characters, and that is how their bytes compare.

* `encodeChar_append_lt`: of two characters, the smaller one has the smaller bytes.
* `encode_lt_encode`: of two texts, the smaller one has the smaller bytes.
-/

namespace LineShell.Utf8

/-- Bytes compare by the first one that differs. -/
theorem ofNat_cons_lt {m n : Nat} {bs cs : Bytes} (bound : n < 256) (le : m ≤ n)
    (rest : m = n → bs < cs) : UInt8.ofNat m :: bs < UInt8.ofNat n :: cs := by
  rw [List.cons_lt_cons_iff]
  rcases Nat.lt_or_eq_of_le le with less | rfl
  · left
    rw [UInt8.lt_iff_toNat_lt, UInt8.toNat_ofNat', UInt8.toNat_ofNat']
    omega
  · exact .inr ⟨rfl, rest rfl⟩

/-- Of two characters, the smaller one has the smaller bytes, whatever follows them. -/
theorem encodeChar_append_lt {c d : Char} (h : c < d) (bs cs : Bytes) :
    String.utf8EncodeChar c ++ bs < String.utf8EncodeChar d ++ cs := by
  have less : c.val.toNat < d.val.toNat := h
  have bound : d.val.toNat < 1114112 := by
    rcases d.valid with low | ⟨_, high⟩ <;> simp only [UInt32.toNat] at * <;> omega
  unfold String.utf8EncodeChar
  generalize c.val.toNat = v, d.val.toNat = w at less bound
  simp only
  split_ifs
  -- Characters of different lengths differ in their first bytes.
  all_goals try exact ofNat_cons_lt (by omega) (by omega) fun first => by omega
  -- The bytes of the others are the digits of their numbers to the base 64.
  · refine ofNat_cons_lt (by omega) (by omega) fun first => ?_
    exact ofNat_cons_lt (by omega) (by omega) fun second => by omega
  · refine ofNat_cons_lt (by omega) (by omega) fun first => ?_
    refine ofNat_cons_lt (by omega) (by omega) fun second => ?_
    exact ofNat_cons_lt (by omega) (by omega) fun third => by omega
  · refine ofNat_cons_lt (by omega) (by omega) fun first => ?_
    refine ofNat_cons_lt (by omega) (by omega) fun second => ?_
    refine ofNat_cons_lt (by omega) (by omega) fun third => ?_
    exact ofNat_cons_lt (by omega) (by omega) fun fourth => by omega

theorem encodeChars_lt {cs ds : List Char} (h : cs < ds) : encodeChars cs < encodeChars ds := by
  induction cs generalizing ds with
  | nil =>
    cases ds with
    | nil => exact absurd h (lt_irrefl _)
    | cons d ds =>
      have some : encodeChars (d :: ds) ≠ [] := by
        intro none
        have := length_le_length_encodeChars (d :: ds)
        simp [none] at this
      obtain ⟨b, bs, eq⟩ := List.exists_cons_of_ne_nil some
      rw [eq]
      exact List.nil_lt_cons b bs
  | cons c cs ih =>
    cases ds with
    | nil => exact absurd h (List.not_lt_nil _)
    | cons d ds =>
      rw [List.cons_lt_cons_iff] at h
      rw [encodeChars_cons, encodeChars_cons]
      rcases h with less | ⟨rfl, rest⟩
      · exact encodeChar_append_lt less _ _
      · exact List.append_left_lt (ih rest)

/-- Texts are in the order of their bytes. -/
theorem encode_lt_encode {a b : String} (h : a < b) : encode a < encode b :=
  encodeChars_lt (String.lt_iff_toList_lt.mp h)

end LineShell.Utf8
