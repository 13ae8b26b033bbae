/-
  Octets of texts. What is written as UTF-8 is read back, character by character, whatever stands
  behind it (`lenientChars_append`).
-/
import DeclaredTools.Text.Utf8
import Mathlib.Tactic.SplitIfs

namespace DeclaredTools.Text.Utf8

/-- The octets of characters. -/
def encoded (cs : List Char) : List UInt8 := cs.flatMap String.utf8EncodeChar

/-! ## Octets as numbers -/

theorem toNat_ofNat {n : Nat} (h : n < 256) : (UInt8.ofNat n).toNat = n := by
  rw [UInt8.toNat_ofNat', Nat.mod_eq_of_lt h]

theorem tail_eq_true_iff {b : UInt8} : tail b = true ↔ 128 ≤ b.toNat ∧ b.toNat < 192 := by
  simp [tail, UInt8.lt_iff_toNat_lt, UInt8.le_iff_toNat_le]

theorem badSecond_eq_false_iff {a b : UInt8} :
    badSecond a b = false ↔ (128 ≤ b.toNat ∧ b.toNat < 192) ∧
      (a.toNat = 224 → 160 ≤ b.toNat) ∧ (a.toNat = 237 → b.toNat < 160) ∧
        (a.toNat = 240 → 144 ≤ b.toNat) ∧ (a.toNat = 244 → b.toNat < 144) := by
  have hoctet : ∀ c : UInt8, (a == c) = decide (a.toNat = c.toNat) := by
    intro c
    rw [Bool.eq_iff_iff]
    simp [UInt8.toNat_inj]
  have htail : (!tail b) = false ↔ 128 ≤ b.toNat ∧ b.toNat < 192 := by
    rw [Bool.not_eq_false', tail_eq_true_iff]
  simp only [badSecond, Bool.or_eq_false_iff, htail, hoctet, Bool.and_eq_false_iff,
    decide_eq_false_iff_not, UInt8.lt_iff_toNat_lt, UInt8.le_iff_toNat_le, UInt8.reduceToNat]
  omega

/-! ## One character -/

section

variable {n : Nat} {a b c d : UInt8}

theorem sequence_one (ha : a.toNat = n) (h : n ≤ 0x7f) (rest : List UInt8) :
    sequence a rest = .char (Char.ofNat n) 0 := by
  have hlt : a < 0x80 := UInt8.lt_iff_toNat_lt.2 (show a.toNat < 128 by omega)
  unfold sequence
  rw [if_pos hlt, ha]

/-- Octets that begin a longer character. -/
theorem sequence_cons (hlow : 194 ≤ a.toNat) (hhigh : a.toNat < 245)
    (hgood : badSecond a b = false) (rest : List UInt8) :
    sequence a (b :: rest) =
      if a < 0xe0 then .char (join (a.toNat - 0xc0) [b]) 1
      else
        match rest with
        | [] => .cut
        | c :: rest =>
          if !tail c then .bad .invalidContinuation 2
          else if a < 0xf0 then .char (join (a.toNat - 0xe0) [b, c]) 2
          else
            match rest with
            | [] => .cut
            | d :: _ =>
              if !tail d then .bad .invalidContinuation 3
              else .char (join (a.toNat - 0xf0) [b, c, d]) 3 := by
  have hlong : ¬ a < 0x80 := fun hlt => by
    have hnat : a.toNat < 128 := UInt8.lt_iff_toNat_lt.1 hlt
    omega
  have hbegins : ¬ (a < 0xc2 || 0xf5 ≤ a) = true := by
    rw [Bool.or_eq_true_iff, decide_eq_true_iff, decide_eq_true_iff]
    rintro (hlt | hle)
    · have hnat : a.toNat < 194 := UInt8.lt_iff_toNat_lt.1 hlt
      omega
    · have hnat : 245 ≤ a.toNat := UInt8.le_iff_toNat_le.1 hle
      omega
  have hsecond : ¬ badSecond a b = true := by simp [hgood]
  rw [sequence.eq_def, if_neg hlong, if_neg hbegins]
  dsimp only
  exact if_neg hsecond

theorem sequence_two (ha : a.toNat = n / 64 % 32 + 192) (hb : b.toNat = n % 64 + 128)
    (hlow : 0x7f < n) (h : n ≤ 0x7ff) (rest : List UInt8) :
    sequence a (b :: rest) = .char (Char.ofNat n) 1 := by
  have hgood : badSecond a b = false := badSecond_eq_false_iff.2 (by omega)
  have hshort : a < 0xe0 := UInt8.lt_iff_toNat_lt.2 (show a.toNat < 224 by omega)
  have hjoin : (a.toNat - 0xc0) * 64 + (b.toNat - 0x80) = n := by omega
  rw [sequence_cons (by omega) (by omega) hgood, if_pos hshort, join, List.foldl_cons,
    List.foldl_nil, hjoin]

theorem sequence_three (ha : a.toNat = n / 4096 % 16 + 224) (hb : b.toNat = n / 64 % 64 + 128)
    (hc : c.toNat = n % 64 + 128) (hlow : 0x7ff < n) (h : n ≤ 0xffff)
    (hvalid : n < 0xd800 ∨ 0xdfff < n) (rest : List UInt8) :
    sequence a (b :: c :: rest) = .char (Char.ofNat n) 2 := by
  have hgood : badSecond a b = false := badSecond_eq_false_iff.2 (by omega)
  have htail : tail c = true := tail_eq_true_iff.2 (by omega)
  have hlong : ¬ a < 0xe0 := fun hlt => by
    have hnat : a.toNat < 224 := UInt8.lt_iff_toNat_lt.1 hlt
    omega
  have hshort : a < 0xf0 := UInt8.lt_iff_toNat_lt.2 (show a.toNat < 240 by omega)
  have hjoin : ((a.toNat - 0xe0) * 64 + (b.toNat - 0x80)) * 64 + (c.toNat - 0x80) = n := by omega
  rw [sequence_cons (by omega) (by omega) hgood, if_neg hlong]
  dsimp only
  rw [htail, if_neg (by simp), if_pos hshort, join, List.foldl_cons, List.foldl_cons,
    List.foldl_nil, hjoin]

theorem sequence_four (ha : a.toNat = n / 262144 % 8 + 240) (hb : b.toNat = n / 4096 % 64 + 128)
    (hc : c.toNat = n / 64 % 64 + 128) (hd : d.toNat = n % 64 + 128) (hlow : 0xffff < n)
    (h : n < 0x110000) (rest : List UInt8) :
    sequence a (b :: c :: d :: rest) = .char (Char.ofNat n) 3 := by
  have hgood : badSecond a b = false := badSecond_eq_false_iff.2 (by omega)
  have htail : tail c = true := tail_eq_true_iff.2 (by omega)
  have htail' : tail d = true := tail_eq_true_iff.2 (by omega)
  have hlong : ¬ a < 0xe0 := fun hlt => by
    have hnat : a.toNat < 224 := UInt8.lt_iff_toNat_lt.1 hlt
    omega
  have hlonger : ¬ a < 0xf0 := fun hlt => by
    have hnat : a.toNat < 240 := UInt8.lt_iff_toNat_lt.1 hlt
    omega
  have hjoin : (((a.toNat - 0xf0) * 64 + (b.toNat - 0x80)) * 64 + (c.toNat - 0x80)) * 64 +
      (d.toNat - 0x80) = n := by omega
  rw [sequence_cons (by omega) (by omega) hgood, if_neg hlong]
  dsimp only
  rw [htail, if_neg (by simp), if_neg hlonger, htail', if_neg (by simp), join, List.foldl_cons,
    List.foldl_cons, List.foldl_cons, List.foldl_nil, hjoin]

end

/-- A character is what its octets begin with. -/
theorem exists_sequence_utf8EncodeChar (c : Char) (rest : List UInt8) :
    ∃ a more, String.utf8EncodeChar c = a :: more ∧
      sequence a (more ++ rest) = .char c more.length := by
  have hvalid : c.val.toNat < 0xd800 ∨ (0xdfff < c.val.toNat ∧ c.val.toNat < 0x110000) := c.valid
  have hchar : Char.ofNat c.val.toNat = c := Char.ofNat_toNat c
  have hoctet : ∀ m, m < 256 → (UInt8.ofNat m).toNat = m := fun _ hm => toNat_ofNat hm
  unfold String.utf8EncodeChar
  generalize c.val.toNat = n at hvalid hchar
  dsimp only
  split_ifs with hone htwo hthree
  · exact ⟨_, _, rfl, (sequence_one (hoctet n (by omega)) hone rest).trans (by rw [hchar]; rfl)⟩
  · have hsequence := sequence_two (hoctet (n / 64 % 32 + 192) (by omega))
      (hoctet (n % 64 + 128) (by omega)) (by omega) htwo rest
    rw [hchar] at hsequence
    exact ⟨_, _, rfl, hsequence⟩
  · have hsequence := sequence_three (hoctet (n / 4096 % 16 + 224) (by omega))
      (hoctet (n / 64 % 64 + 128) (by omega)) (hoctet (n % 64 + 128) (by omega)) (by omega) hthree
      (by omega) rest
    rw [hchar] at hsequence
    exact ⟨_, _, rfl, hsequence⟩
  · have hsequence := sequence_four (hoctet (n / 262144 % 8 + 240) (by omega))
      (hoctet (n / 4096 % 64 + 128) (by omega)) (hoctet (n / 64 % 64 + 128) (by omega))
      (hoctet (n % 64 + 128) (by omega)) (by omega) (by omega) rest
    rw [hchar] at hsequence
    exact ⟨_, _, rfl, hsequence⟩

/-! ## Texts -/

theorem lenientChars_cons (c : Char) (rest : List UInt8) :
    lenientChars (String.utf8EncodeChar c ++ rest) = c :: lenientChars rest := by
  obtain ⟨a, more, hcode, hsequence⟩ := exists_sequence_utf8EncodeChar c rest
  rw [hcode, List.cons_append, lenientChars, hsequence]
  dsimp only
  rw [List.drop_left]

/-- Characters are read back from their octets. -/
theorem lenientChars_append (cs : List Char) (rest : List UInt8) :
    lenientChars (encoded cs ++ rest) = cs ++ lenientChars rest := by
  induction cs with
  | nil => rfl
  | cons c cs ih =>
    rw [encoded, List.flatMap_cons, List.append_assoc, lenientChars_cons]
    exact congrArg (c :: ·) ih

theorem lenientChars_encoded (cs : List Char) : lenientChars (encoded cs) = cs := by
  have happend := lenientChars_append cs []
  rw [List.append_nil, lenientChars, List.append_nil] at happend
  exact happend

/-- Octets are listed from a place on, behind those that were listed before. -/
theorem toList_loop (bytes : ByteArray) (i : Nat) (done : List UInt8) :
    ByteArray.toList.loop bytes i done = done.reverse ++ bytes.data.toList.drop i := by
  induction i, done using ByteArray.toList.loop.induct bytes with
  | case1 i done hi ih =>
    have hlength : i < bytes.data.toList.length := by
      rw [Array.length_toList]
      exact hi
    have hget : bytes.get! i = bytes.data.toList[i] := by
      simp [ByteArray.get!, getElem!_pos bytes.data i hi]
    rw [ByteArray.toList.loop, if_pos hi, ih, List.drop_eq_getElem_cons hlength, List.reverse_cons,
      List.append_assoc, hget]
    rfl
  | case2 i done hi =>
    have hlength : bytes.data.toList.length ≤ i := by
      rw [Array.length_toList]
      exact Nat.le_of_not_lt hi
    rw [ByteArray.toList.loop, if_neg hi, List.drop_eq_nil_of_le hlength, List.append_nil]

/-- The octets of a single character as those of a text. -/
theorem toUTF8_toString (c : Char) : c.toString.toUTF8.toList = encoded [c] := by
  have htext : c.toString.toUTF8 = (String.utf8EncodeChar c).toByteArray := by
    rw [String.toUTF8_eq_toByteArray, ← List.utf8Encode_singleton]
    exact String.toByteArray_singleton
  rw [htext, ByteArray.toList, toList_loop, List.toList_data_toByteArray, encoded]
  simp

end DeclaredTools.Text.Utf8
