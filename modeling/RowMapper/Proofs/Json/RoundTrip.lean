import RowMapper.Json.Parser
import RowMapper.Json.Printer
import RowMapper.Proofs.Json.Numeral

/-!
# JSON there and back

What is written is read as what it was, whatever follows it in the text.

* `readString_flatMap_escape` — a written string is read up to its closing quote;
* `Numeral.scan_ofInt`, `Numeral.number?_ofInt` — a written integer is cut off a text as it was
  written, and is the integer as long as it fits in 64 bits;
* `readValue_number` — a value that starts like a numeral is one;
* `readValue_ofInt`, `readValue_writeString` — integers and strings as values;
* `readValue_items`, `readValue_fields`, `readFields_name` — what comes behind a bracket, a brace
  and the name of a field;
* `parse?_field` — an object with one field is read as it was written, if its content is.
-/

namespace RowMapper

/-! ### Strings -/

namespace Json

/-- The digits of a control character are read as its number. -/
theorem digit?_hexDigit {n : Nat} (h : n < 32) :
    Base16.digit? (hexDigit (n / 16)) = some (n / 16) ∧
      Base16.digit? (hexDigit (n % 16)) = some (n % 16) := by
  have all : ∀ m : Fin 32, Base16.digit? (hexDigit (m / 16)) = some (m.val / 16) ∧
      Base16.digit? (hexDigit (m % 16)) = some (m.val % 16) := by decide
  exact all ⟨n, h⟩

/-- A control character that is written by number is read as the character. -/
theorem readEscape_numbered {c : Char} (hc : c < ' ') (rest : List Char) :
    ∃ shorter, readEscape ('u' :: '0' :: '0' :: hexDigit (c.toNat / 16) ::
      hexDigit (c.toNat % 16) :: rest) = some (c, ⟨rest, shorter⟩) := by
  have hlt : c.toNat < 32 := hc
  obtain ⟨hhigh, hlow⟩ := digit?_hexDigit hlt
  have hzero : Base16.digit? '0' = some 0 := by decide
  have hnumber : ((0 * 16 + 0) * 16 + c.toNat / 16) * 16 + c.toNat % 16 = c.toNat := by omega
  have hunit : readUnit ('0' :: '0' :: hexDigit (c.toNat / 16) :: hexDigit (c.toNat % 16) ::
      rest) = some (c.toNat, ⟨rest, by simp; omega⟩) := by
    simp only [readUnit, hhigh, hlow, hzero, Option.bind_eq_bind, Option.bind_some, hnumber]
    rfl
  have hnumbered : readNumbered ('0' :: '0' :: hexDigit (c.toNat / 16) ::
      hexDigit (c.toNat % 16) :: rest) = some (c, ⟨rest, by simp; omega⟩) := by
    rw [readNumbered, hunit]
    have hlow : ¬ (0xd800 ≤ c.toNat ∧ c.toNat ≤ 0xdbff) := by omega
    have hhigh : ¬ (0xdc00 ≤ c.toNat ∧ c.toNat ≤ 0xdfff) := by omega
    simp only [if_neg hlow, if_neg hhigh, Char.ofNat_toNat]
  refine ⟨by simp; omega, ?_⟩
  rw [readEscape]
  simp only [hnumbered]
  rfl

/-- A step of the reader over an escape. -/
theorem readString_of_readEscape {c : Char} {s after cs rest : List Char} {shorter}
    (hescape : readEscape s = some (c, ⟨after, shorter⟩))
    (h : readString after = some (cs, rest)) :
    readString ('\\' :: s) = some (c :: cs, rest) := by
  rw [readString, if_neg (by decide), if_pos rfl, hescape]
  simp only [h]

/-- A written character is read as the character. -/
theorem readString_escape (c : Char) {s cs rest : List Char} (h : readString s = some (cs, rest)) :
    readString (escape c ++ s) = some (c :: cs, rest) := by
  unfold escape
  -- the characters with an escape of their own, in the order in which they are asked for
  iterate 7
    split
    · subst c
      exact readString_of_readEscape rfl h
  split
  · rename_i hcontrol
    obtain ⟨shorter, hread⟩ := readEscape_numbered hcontrol s
    exact readString_of_readEscape hread h
  · rename_i hquote hbackslash _ _ _ _ _ hcontrol
    rw [List.singleton_append, readString, if_neg hquote, if_neg hbackslash, if_neg hcontrol, h]

/-- A written string is read up to its closing quote. -/
theorem readString_flatMap_escape (cs rest : List Char) :
    readString (cs.flatMap escape ++ '"' :: rest) = some (cs, rest) := by
  induction cs with
  | nil =>
      rw [List.flatMap_nil, List.nil_append, readString, if_pos rfl]
  | cons c cs ih =>
      rw [List.flatMap_cons, List.append_assoc]
      exact readString_escape c ih

end Json

/-! ### Integers -/

namespace Numeral

variable {rest : List Char}

/-- The numeral of an integer. -/
def ofInt : Int → Numeral
  | .ofNat n => ⟨false, Decimal.digits n, [], none⟩
  | .negSucc n => ⟨true, Decimal.digits (n + 1), [], none⟩

theorem text_ofInt (n : Int) : (ofInt n).text = Decimal.ofInt n := by
  cases n with
  | ofNat m =>
      change [] ++ Decimal.digits m ++ [] ++ [] = Decimal.digits m
      simp
  | negSucc m =>
      change ['-'] ++ Decimal.digits (m + 1) ++ [] ++ [] = '-' :: Decimal.digits (m + 1)
      simp

theorem wellFormed_digits (negative : Bool) (n : Nat) :
    WellFormed ⟨negative, Decimal.digits n, [], none⟩ where
  whole_ne_nil := Decimal.digits_ne_nil n
  isDigit_whole := fun _ hc => Decimal.isDigit_of_mem_digits hc
  leading := by
    -- only the numeral of zero starts with a zero
    by_cases hn : n = 0
    · subst hn
      exact .inl rfl
    · exact .inr (Decimal.head?_digits_ne hn)
  isDigit_fraction := fun _ hc => by cases hc
  exponent := fun _ _ h => by cases h

theorem wellFormed_ofInt (n : Int) : (ofInt n).WellFormed := by
  cases n with
  | ofNat m => exact wellFormed_digits false m
  | negSucc m => exact wellFormed_digits true (m + 1)

/-- A written integer is cut off a text as it was written. -/
theorem scan_ofInt (n : Int) (hrest : EndsNumeral rest) :
    scan (Decimal.ofInt n ++ rest) = some (ofInt n, rest) := by
  rw [← text_ofInt]
  exact scan_text (wellFormed_ofInt n) hrest

theorem extend_digits {limit n : Nat} (h : n ≤ limit) :
    extend limit 0 (Decimal.digits n) = (n, []) := by
  have hvalue : Nat.ofDigitChars 10 (Decimal.digits n) 0 = n := Decimal.value_digits n
  rw [extend_of_le _ _ (by rw [hvalue]; exact h), hvalue]

/-- The numeral of an integer stands for the integer, if it fits in 64 bits. -/
theorem number?_ofInt {n : Int}
    (h : IntRange.int64.contains n = true ∨ IntRange.uint64.contains n = true) :
    (ofInt n).number? = some (.integer n) := by
  simp only [IntRange.contains_iff, IntRange.int64, IntRange.uint64] at h
  cases n with
  | ofNat m =>
      rw [Int.ofNat_eq_natCast] at h
      have hm : m ≤ maxSignificand := by
        have : maxSignificand = 18446744073709551615 := rfl
        omega
      simp only [ofInt, number?, extend_digits hm]
      rfl
  | negSucc m =>
      have hm : m + 1 ≤ maxSignificand := by
        have : maxSignificand = 18446744073709551615 := rfl
        omega
      have hrange : 0 < m + 1 ∧ m + 1 ≤ IntRange.int64.least.natAbs := by
        have : IntRange.int64.least.natAbs = 9223372036854775808 := rfl
        omega
      simp only [ofInt, number?, extend_digits hm]
      rw [if_neg (by simp), if_pos hrange]
      rfl

end Numeral

/-! ### Values -/

namespace Json

/-- A written integer is read as the integer. -/
theorem readNumber_ofInt {n : Int} {rest : List Char}
    (h : IntRange.int64.contains n = true ∨ IntRange.uint64.contains n = true)
    (hrest : EndsNumeral rest) :
    readNumber (Decimal.ofInt n ++ rest) = some (.number (.integer n), rest) := by
  rw [readNumber, Numeral.scan_ofInt n hrest]
  simp [Numeral.number?_ofInt h]

/-- Nothing is skipped in front of a character that is no blank. -/
theorem skipBlank_cons {c : Char} (hc : isBlank c = false) (rest : List Char) :
    skipBlank (c :: rest) = c :: rest := by
  simp [skipBlank, hc]

/-- The first character of a numeral is no other one. -/
theorem ne_of_startsNumeral {c d : Char} (hc : c = '-' ∨ c.isDigit = true) (hsign : d ≠ '-')
    (hdigit : d.isDigit = false) : c ≠ d := by
  rintro rfl
  rcases hc with rfl | hc
  · exact hsign rfl
  · rw [hdigit] at hc
    cases hc

theorem isBlank_of_startsNumeral {c : Char} (hc : c = '-' ∨ c.isDigit = true) :
    isBlank c = false := by
  have hne (d : Char) := ne_of_startsNumeral (d := d) hc
  simp [isBlank, hne ' ' (by decide) (by decide), hne '\n' (by decide) (by decide),
    hne '\t' (by decide) (by decide), hne '\r' (by decide) (by decide)]

/-- A text that starts with a sign or a digit is read as a number. -/
theorem readValue_number {c : Char} {tail : List Char} {fuel depth : Nat} (hfuel : 0 < fuel)
    (hc : c = '-' ∨ c.isDigit = true) :
    readValue fuel depth (c :: tail) = readNumber (c :: tail) := by
  obtain ⟨fuel, rfl⟩ := Nat.exists_eq_succ_of_ne_zero (Nat.ne_of_gt hfuel)
  rw [readValue, skipBlank_cons (isBlank_of_startsNumeral hc)]
  -- the first character starts no other value
  split
  case h_7 => rfl
  all_goals
    rename_i heq
    exact absurd (List.cons.inj heq).1 (ne_of_startsNumeral hc (by decide) (by decide))

/-- A written integer is read as a value. -/
theorem readValue_ofInt {n : Int} {rest : List Char} {fuel depth : Nat} (hfuel : 0 < fuel)
    (h : IntRange.int64.contains n = true ∨ IntRange.uint64.contains n = true)
    (hrest : EndsNumeral rest) :
    readValue fuel depth (Decimal.ofInt n ++ rest) = some (.number (.integer n), rest) := by
  have hnumber := readNumber_ofInt h hrest
  obtain ⟨c, tail, htext, hc⟩ := Numeral.exists_cons_text (Numeral.wellFormed_ofInt n)
  rw [Numeral.text_ofInt] at htext
  rw [htext, List.cons_append] at hnumber ⊢
  rw [readValue_number hfuel hc, hnumber]

/-- A written text is read as a value. -/
theorem readValue_writeString (s : String) {fuel depth : Nat} (hfuel : 0 < fuel)
    (rest : List Char) :
    readValue fuel depth (writeString s ++ rest) = some (.string s, rest) := by
  obtain ⟨fuel, rfl⟩ := Nat.exists_eq_succ_of_ne_zero (Nat.ne_of_gt hfuel)
  have htext : writeString s ++ rest =
      '"' :: (s.toList.flatMap escape ++ '"' :: rest) := by
    simp [writeString]
  rw [htext, readValue, skipBlank_cons (by decide)]
  simp only [readString_flatMap_escape, Option.map_some, String.ofList_toList]

/-- A character that ends a numeral. -/
theorem endsNumeral_cons {c : Char} (hc : c.isDigit = false ∧ c ≠ '.' ∧ c ≠ 'e' ∧ c ≠ 'E')
    (rest : List Char) : EndsNumeral (c :: rest) := by
  intro d hd
  obtain rfl := Option.some.inj hd
  exact hc

/-! ### Arrays and objects -/

/-- Behind an opening bracket come items, unless the array is closed at once. -/
theorem readValue_items {c : Char} (hblank : isBlank c = false) (hclose : c ≠ ']')
    (fuel depth : Nat) (tail : List Char) :
    readValue (fuel + 1) (depth + 1) ('[' :: c :: tail) =
      (readItems fuel depth (c :: tail)).map fun (items, rest) => (.array items, rest) := by
  rw [readValue, skipBlank_cons (by decide)]
  simp only [skipBlank_cons hblank]
  split
  · next heq => exact absurd (List.cons.inj heq).1 hclose
  · rfl

/-- Behind an opening brace come fields, if there is a quote. -/
theorem readValue_fields (fuel depth : Nat) (tail : List Char) :
    readValue (fuel + 1) (depth + 1) ('\x7b' :: '"' :: tail) =
      (readFields fuel depth ('"' :: tail)).map fun (fields, rest) => (.object fields, rest) := by
  rw [readValue, skipBlank_cons (by decide)]
  rfl

/-- Nothing is read behind a bracket or a brace that is too deep. -/
theorem readValue_too_deep {c : Char} (hc : c = '[' ∨ c = '\x7b') (fuel : Nat) (tail : List Char) :
    readValue (fuel + 1) 0 (c :: tail) = none := by
  rcases hc with rfl | rfl
  · rw [readValue, skipBlank_cons (by decide)]
    rfl
  · rw [readValue, skipBlank_cons (by decide)]
    rfl

/-- The name of a field is read up to its value. -/
theorem readFields_name (name : String) (s : List Char) (fuel depth : Nat) :
    readFields (fuel + 1) depth (writeString name ++ ':' :: s) =
      match readValue fuel depth s with
      | none => none
      | some (value, rest) =>
        match skipBlank rest with
        | '\x7d' :: rest => some ([(name, value)], rest)
        | ',' :: rest =>
          (readFields fuel depth rest).map fun (fields, rest) => ((name, value) :: fields, rest)
        | _ => none := by
  have htext : writeString name ++ ':' :: s =
      '"' :: (name.toList.flatMap escape ++ '"' :: (':' :: s)) := by
    simp [writeString]
  rw [htext, readFields, skipBlank_cons (by decide)]
  simp only [readString_flatMap_escape, String.ofList_toList]
  rfl

/-- An object with one field is read as it was written, if its content is. -/
theorem parse?_field (name : String) {content : List Char} {value : Json}
    (hcontent : ∀ fuel, 2 * content.length < fuel →
      readValue fuel 126 (content ++ ['\x7d']) = some (value, ['\x7d'])) :
    parse? ('\x7b' :: writeString name ++ ':' :: content ++ ['\x7d']) =
      some (.object [(name, value)]) := by
  have hread (fuel : Nat) (hfuel : 2 * content.length < fuel) :
      readValue (fuel + 2) 127 ('\x7b' :: (writeString name ++ ':' :: (content ++ ['\x7d']))) =
        some (.object [(name, value)], []) := by
    have hfields := readFields_name name (content ++ ['\x7d']) fuel 126
    rw [hcontent fuel hfuel] at hfields
    have hquote : writeString name ++ ':' :: (content ++ ['\x7d']) =
        '"' :: (name.toList.flatMap escape ++ '"' :: (':' :: (content ++ ['\x7d']))) := by
      simp [writeString]
    rw [hquote] at hfields ⊢
    rw [readValue_fields, hfields]
    rfl
  have htext : '\x7b' :: writeString name ++ ':' :: content ++ ['\x7d'] =
      '\x7b' :: (writeString name ++ ':' :: (content ++ ['\x7d'])) := by
    simp
  rw [htext, parse?, maxDepth, hread _ (by simp; omega)]
  rfl

end Json

end RowMapper
