import LineCursor.Json.Reader
import LineCursor.Json.Writer

/-!
Texts that are written in JSON are read back.

A character is written as itself, behind a backslash or by its code units.  Each of these forms is
one piece of a text for the reader, and it denotes that character, whatever follows
(`piece_escapedChar`).  So the text up to the closing quotation mark is the text that was written:

    stringTail opening (s.flatMap escapedChar ++ '"' :: rest) = .ok (s, rest)
-/

namespace LineCursor.Json

/-! ## Code units -/

theorem hexValue?_hexDigit_all : ∀ n, n < 16 → hexValue? (Text.hexDigit n) = some n := by
  decide

theorem hexValue?_hexDigit (n : Nat) : hexValue? (Text.hexDigit (n % 16)) = some (n % 16) :=
  hexValue?_hexDigit_all (n % 16) (Nat.mod_lt n (by decide))

/-- The four digits of a code unit are read back; some character has to follow them. -/
theorem codeUnit_hexDigits {n : Nat} (h : n < 0x10000) (c : Char) (rest : List Char) :
    codeUnit (Text.hexDigits 4 n ++ c :: rest) = .ok (n, c :: rest) := by
  have hdigits : Text.hexDigits 4 n =
      [Text.hexDigit (n / 16 / 16 / 16 % 16), Text.hexDigit (n / 16 / 16 % 16),
        Text.hexDigit (n / 16 % 16), Text.hexDigit (n % 16)] := rfl
  have hvalue : ((n / 16 / 16 / 16 % 16 * 16 + n / 16 / 16 % 16) * 16 + n / 16 % 16) * 16 + n % 16
      = n := by omega
  rw [hdigits]
  simp only [List.cons_append, List.nil_append, codeUnit, hexValue4?, hexValue?_hexDigit]
  rw [hvalue]

/-- A code unit that is no high surrogate stands for itself. -/
theorem unicodeEscape_unit {n : Nat} (h : n < 0x10000) (hs : isHighSurrogate n = false) (c : Char)
    (rest : List Char) :
    unicodeEscape (Text.hexDigits 4 n ++ c :: rest) = .ok (unitChar n, c :: rest) := by
  unfold unicodeEscape
  rw [codeUnit_hexDigits h]
  split
  · next he => cases he
  · next he =>
    cases he
    rw [hs]
    rfl
  · next he =>
    cases he
    rfl

/-- Two surrogates stand for one character. -/
theorem unicodeEscape_pair {high low : Nat} (hh : isHighSurrogate high = true)
    (hl : isLowSurrogate low = true) (c : Char) (rest : List Char) :
    unicodeEscape (Text.hexDigits 4 high ++ (unitEscape low ++ c :: rest)) =
      .ok (joinSurrogates high low, c :: rest) := by
  have hhigh : high < 0x10000 := by
    simp only [isHighSurrogate, Bool.and_eq_true, decide_eq_true_eq] at hh
    omega
  have hlow : low < 0x10000 := by
    simp only [isLowSurrogate, Bool.and_eq_true, decide_eq_true_eq] at hl
    omega
  unfold unicodeEscape
  rw [unitEscape, List.cons_append, List.cons_append, codeUnit_hexDigits hhigh]
  show (if isHighSurrogate high = true then _ else _) = _
  rw [if_pos hh, codeUnit_hexDigits hlow]
  dsimp only
  rw [if_pos hl]

/-! ## Characters -/

/-- No character is a surrogate. -/
theorem toNat_valid (c : Char) : c.toNat < 0xD800 ∨ 0xDFFF < c.toNat ∧ c.toNat < 0x110000 :=
  c.valid

theorem unitChar_toNat (c : Char) : unitChar c.toNat = c := by
  have hc := toNat_valid c
  unfold unitChar
  rw [if_neg (by omega), Char.ofNat_toNat]

theorem piece_unitEscape (opening : List Char) {c : Char} (h : c.toNat < 0x10000) (d : Char)
    (rest : List Char) :
    piece opening (unitEscape c.toNat ++ d :: rest) = .ok (.char c (d :: rest)) := by
  have hs : isHighSurrogate c.toNat = false := by
    have hc := toNat_valid c
    simp only [isHighSurrogate, Bool.and_eq_false_iff, decide_eq_false_iff_not]
    omega
  show (unicodeEscape (Text.hexDigits 4 c.toNat ++ d :: rest)).map _ = _
  rw [unicodeEscape_unit h hs, unitChar_toNat]
  rfl

/-- A character beyond the code units is written by two surrogates. -/
theorem piece_surrogates (opening : List Char) {c : Char} (h : 0x10000 ≤ c.toNat) (d : Char)
    (rest : List Char) :
    piece opening (unitEscape (0xD800 + (c.toNat - 0x10000) / 0x400) ++
        unitEscape (0xDC00 + (c.toNat - 0x10000) % 0x400) ++ d :: rest) =
      .ok (.char c (d :: rest)) := by
  have hc := toNat_valid c
  have hhigh : isHighSurrogate (0xD800 + (c.toNat - 0x10000) / 0x400) = true := by
    simp only [isHighSurrogate, Bool.and_eq_true, decide_eq_true_eq]
    omega
  have hlow : isLowSurrogate (0xDC00 + (c.toNat - 0x10000) % 0x400) = true := by
    simp only [isLowSurrogate, Bool.and_eq_true, decide_eq_true_eq]
    omega
  have hjoin : joinSurrogates (0xD800 + (c.toNat - 0x10000) / 0x400)
      (0xDC00 + (c.toNat - 0x10000) % 0x400) = c := by
    unfold joinSurrogates
    rw [show 0x10000 + (0xD800 + (c.toNat - 0x10000) / 0x400 - 0xD800) * 0x400 +
      (0xDC00 + (c.toNat - 0x10000) % 0x400 - 0xDC00) = c.toNat by omega]
    exact Char.ofNat_toNat c
  rw [List.append_assoc]
  show (unicodeEscape (Text.hexDigits 4 _ ++ (unitEscape _ ++ d :: rest))).map _ = _
  rw [unicodeEscape_pair hhigh hlow, hjoin]
  rfl

/-- A character that is no mark and no control stands for itself. -/
theorem piece_self (opening : List Char) {c : Char} (hq : c ≠ '"') (hb : c ≠ '\\')
    (h : 0x20 ≤ c.toNat) (rest : List Char) :
    piece opening (c :: rest) = .ok (.char c rest) := by
  unfold piece
  split
  · next he => exact absurd (List.cons_eq_cons.1 he).1 hq
  · next he => exact absurd (List.cons_eq_cons.1 he).1 hb
  · next he => exact absurd (List.cons_eq_cons.1 he).1 hb
  · next he => exact absurd (List.cons_eq_cons.1 he).1 hb
  · next he =>
    obtain ⟨rfl, rfl⟩ := List.cons_eq_cons.1 he
    rw [if_neg (by omega)]
  · next he => cases he

/-- What is written for a character is one piece of a text and denotes that character. -/
theorem piece_escapedChar (opening : List Char) (c d : Char) (rest : List Char) :
    piece opening (escapedChar c ++ d :: rest) = .ok (.char c (d :: rest)) := by
  by_cases hq : c = '"'
  · subst hq; rfl
  by_cases hb : c = '\\'
  · subst hb; rfl
  by_cases hn : c = '\n'
  · subst hn; rfl
  by_cases hr : c = '\r'
  · subst hr; rfl
  by_cases ht : c = '\t'
  · subst ht; rfl
  by_cases hbs : c = '\x08'
  · subst hbs; rfl
  by_cases hf : c = '\x0c'
  · subst hf; rfl
  unfold escapedChar
  rw [if_neg hq, if_neg hb, if_neg hn, if_neg hr, if_neg ht, if_neg hbs, if_neg hf]
  split
  · next h => exact piece_self opening hq hb h.1 (d :: rest)
  · split
    · next h => exact piece_unitEscape opening h d rest
    · next h => exact piece_surrogates opening (Nat.not_lt.1 h) d rest

/-! ## Texts -/

theorem stringTail_of_char {opening s rest : List Char} {c : Char}
    (h : piece opening s = .ok (.char c rest)) :
    stringTail opening s = (stringTail opening rest).map fun (t, r) => (c :: t, r) := by
  rw [stringTail]
  split
  · next he => cases h.symm.trans he
  · next he => cases h.symm.trans he
  · next he =>
    cases h.symm.trans he
    rfl

theorem stringTail_of_close {opening s rest : List Char} (h : piece opening s = .ok (.close rest)) :
    stringTail opening s = .ok ([], rest) := by
  rw [stringTail]
  split
  · next he => cases h.symm.trans he
  · next he =>
    cases h.symm.trans he
    rfl
  · next he => cases h.symm.trans he

/-- A text is read up to the quotation mark that was written behind it. -/
theorem stringTail_escaped (opening s rest : List Char) :
    stringTail opening (s.flatMap escapedChar ++ '"' :: rest) = .ok (s, rest) := by
  induction s with
  | nil => exact stringTail_of_close rfl
  | cons c s ih =>
    obtain ⟨d, tail, htail⟩ := List.exists_cons_of_ne_nil
      (show s.flatMap escapedChar ++ '"' :: rest ≠ [] by simp)
    rw [List.flatMap_cons, List.append_assoc, htail,
      stringTail_of_char (piece_escapedChar opening c d tail), ← htail, ih]
    rfl

end LineCursor.Json
