import Mathlib.Data.List.Basic
import PolicyWeave.Digest.Base64

/-!
# Base64 loses nothing

Two texts with one base64 form are one text.

* `base64Symbol_inj` and `base64Symbol_ne_pad`: the symbols of six bits
  differ from one another and from the padding.
* `base64Chars_inj`: four symbols give back their three bytes, and the
  padding of the last group tells how many bytes it has.
* `base64_inj` is the same for texts, which are their UTF-8 bytes.
-/

namespace PolicyWeave.Digest

/-! ## Symbols -/

/-- The six bits of a symbol. -/
def base64Value (c : Char) : Nat :=
  if c.isUpper then c.toNat - 65
  else if c.isLower then c.toNat - 71
  else if c.isDigit then c.toNat + 4
  else if c == '+' then 62
  else 63

theorem base64Value_base64Symbol {n : Nat} (h : n < 64) :
    base64Value (base64Symbol n) = n := by
  have hall : ∀ n < 64, base64Value (base64Symbol n) = n := by decide
  exact hall n h

/-- Six bits are known from their symbol. -/
theorem base64Symbol_inj {m n : Nat} (hm : m < 64) (hn : n < 64)
    (h : base64Symbol m = base64Symbol n) : m = n := by
  rw [← base64Value_base64Symbol hm, h, base64Value_base64Symbol hn]

/-- No symbol is the padding. -/
theorem base64Symbol_ne_pad {n : Nat} (h : n < 64) :
    base64Symbol n ≠ '=' := by
  have hall : ∀ n < 64, base64Symbol n ≠ '=' := by decide
  exact hall n h

/-! ## Bytes -/

/-- A group of 24 bits is known from its four symbols. -/
theorem group_inj {m n : Nat} (hm : m < 16777216) (hn : n < 16777216)
    (h1 : base64Symbol (m / 262144) = base64Symbol (n / 262144))
    (h2 : base64Symbol (m / 4096 % 64) = base64Symbol (n / 4096 % 64))
    (h3 : base64Symbol (m / 64 % 64) = base64Symbol (n / 64 % 64))
    (h4 : base64Symbol (m % 64) = base64Symbol (n % 64)) : m = n := by
  have hfirst := base64Symbol_inj (by omega) (by omega) h1
  have hsecond := base64Symbol_inj (by omega) (by omega) h2
  have hthird := base64Symbol_inj (by omega) (by omega) h3
  have hfourth := base64Symbol_inj (by omega) (by omega) h4
  omega

/-- Bytes are known from the number that they make up. -/
theorem bytes_inj {a b c a' b' c' : UInt8}
    (h : a.toNat * 65536 + b.toNat * 256 + c.toNat
      = a'.toNat * 65536 + b'.toNat * 256 + c'.toNat) :
    a = a' ∧ b = b' ∧ c = c' := by
  have ha := a.toNat_lt
  have hb := b.toNat_lt
  have hc := c.toNat_lt
  have ha' := a'.toNat_lt
  have hb' := b'.toNat_lt
  have hc' := c'.toNat_lt
  refine ⟨UInt8.toNat.inj ?_, UInt8.toNat.inj ?_, UInt8.toNat.inj ?_⟩
  all_goals omega

/-- Bytes are known from their symbols. -/
theorem base64Chars_inj {xs ys : List UInt8}
    (h : base64Chars xs = base64Chars ys) : xs = ys := by
  have hbound (a b c : UInt8) :
      a.toNat * 65536 + b.toNat * 256 + c.toNat < 16777216 := by
    have ha := a.toNat_lt
    have hb := b.toNat_lt
    have hc := c.toNat_lt
    omega
  have hpair (a b : UInt8) : a.toNat * 65536 + b.toNat * 256 < 16777216 := by
    have ha := a.toNat_lt
    have hb := b.toNat_lt
    omega
  have hpad {n : Nat} (hn : n < 64) : '=' ≠ base64Symbol n :=
    (base64Symbol_ne_pad hn).symm
  induction xs using base64Chars.induct generalizing ys with
  | case1 a b c rest ih =>
    match ys with
    | a' :: b' :: c' :: rest' =>
      simp only [base64Chars, List.cons.injEq] at h
      obtain ⟨h1, h2, h3, h4, hrest⟩ := h
      obtain ⟨rfl, rfl, rfl⟩ := bytes_inj
        (group_inj (hbound a b c) (hbound a' b' c') h1 h2 h3 h4)
      rw [ih hrest]
    | [a', b'] =>
      simp only [base64Chars, List.cons.injEq] at h
      exact absurd h.2.2.2.1 (base64Symbol_ne_pad (by omega))
    | [a'] =>
      simp only [base64Chars, List.cons.injEq] at h
      exact absurd h.2.2.2.1 (base64Symbol_ne_pad (by omega))
    | [] => cases h
  | case2 a b =>
    match ys with
    | a' :: b' :: c' :: rest' =>
      simp only [base64Chars, List.cons.injEq] at h
      exact absurd h.2.2.2.1 (hpad (by omega))
    | [a', b'] =>
      simp only [base64Chars, List.cons.injEq] at h
      obtain ⟨h1, h2, h3, -⟩ := h
      -- the missing byte leaves the last six bits zero on both sides
      have hlast : (a.toNat * 65536 + b.toNat * 256) % 64
          = (a'.toNat * 65536 + b'.toNat * 256) % 64 := by omega
      have hnumber := group_inj (hpair a b) (hpair a' b') h1 h2 h3
        (congrArg base64Symbol hlast)
      obtain ⟨rfl, rfl, -⟩ := @bytes_inj a b 0 a' b' 0 (by simpa using hnumber)
      rfl
    | [a'] =>
      simp only [base64Chars, List.cons.injEq] at h
      exact absurd h.2.2.1 (base64Symbol_ne_pad (by omega))
    | [] => cases h
  | case3 a =>
    match ys with
    | a' :: b' :: c' :: rest' =>
      simp only [base64Chars, List.cons.injEq] at h
      exact absurd h.2.2.2.1 (hpad (by omega))
    | [a', b'] =>
      simp only [base64Chars, List.cons.injEq] at h
      exact absurd h.2.2.1 (hpad (by omega))
    | [a'] =>
      simp only [base64Chars, List.cons.injEq] at h
      obtain ⟨h1, h2, -⟩ := h
      have hthird : a.toNat * 65536 / 64 % 64
          = a'.toNat * 65536 / 64 % 64 := by omega
      have hlast : a.toNat * 65536 % 64 = a'.toNat * 65536 % 64 := by
        omega
      have ha := a.toNat_lt
      have ha' := a'.toNat_lt
      have hnumber := group_inj (by omega) (by omega) h1 h2
        (congrArg base64Symbol hthird) (congrArg base64Symbol hlast)
      rw [UInt8.toNat.inj (Nat.eq_of_mul_eq_mul_right (by omega) hnumber)]
    | [] => cases h
  | case4 =>
    match ys with
    | a' :: b' :: c' :: rest' => cases h
    | [a', b'] => cases h
    | [a'] => cases h
    | [] => rfl

/-! ## Texts -/

/-- The list of some bytes holds what their array does: the recursion
has read the bytes up to a place, and `d` bounds what is left. -/
private theorem toList_loop_eq (bytes : ByteArray) (d i : Nat)
    (acc : List UInt8) (hd : bytes.size ≤ i + d) :
    ByteArray.toList.loop bytes i acc
      = acc.reverse ++ bytes.data.toList.drop i := by
  induction d generalizing i acc with
  | zero =>
    have hdone : bytes.data.toList.length ≤ i := by
      simpa using hd
    rw [ByteArray.toList.loop.eq_1, if_neg (by omega),
      List.drop_eq_nil_of_le hdone, List.append_nil]
  | succ d ih =>
    rw [ByteArray.toList.loop.eq_1]
    by_cases hi : i < bytes.size
    · have hlength : i < bytes.data.toList.length := by
        simpa using hi
      have hget : bytes.get! i = bytes.data.toList[i] := by
        rw [ByteArray.get!, getElem!_pos bytes.data i hi,
          Array.getElem_toList]
      rw [if_pos hi, ih (i + 1) _ (by omega), hget, List.reverse_cons,
        List.append_assoc, List.drop_eq_getElem_cons hlength]
      rfl
    · have hdone : bytes.data.toList.length ≤ i := by
        have hle : bytes.size ≤ i := by omega
        simpa using hle
      rw [if_neg hi, List.drop_eq_nil_of_le hdone, List.append_nil]

theorem toList_eq_toList_data (bytes : ByteArray) :
    bytes.toList = bytes.data.toList := by
  rw [ByteArray.toList, toList_loop_eq bytes bytes.size 0 [] (by omega)]
  rfl

/-- A text is known from its base64 form. -/
theorem base64_inj {s t : String} : base64 s = base64 t ↔ s = t := by
  constructor
  · intro h
    have hbytes := base64Chars_inj (String.ofList_inj.mp h)
    rw [toList_eq_toList_data, toList_eq_toList_data] at hbytes
    have harray : s.toUTF8 = t.toUTF8 :=
      ByteArray.ext (Array.toList_inj.mp hbytes)
    exact String.toByteArray_inj.mp harray
  · rintro rfl
    rfl

end PolicyWeave.Digest
