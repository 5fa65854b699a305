import RowMapper.Text.Base64Url

/-!
# Base 64 there and back

* `digits` — the numbers below 64 that a list of bytes is cut into;
* `decode_encode` — the text of a list of bytes is read back as the bytes;
* `needsNoEscape_of_mem_encode` — no character of it has a meaning in an address.
-/

namespace RowMapper.Base64Url

/-- The numbers below 64 that a list of bytes is cut into. -/
def digits : List UInt8 → List Nat
  | [] => []
  | [a] => [a.toNat / 4, a.toNat % 4 * 16]
  | [a, b] => [a.toNat / 4, a.toNat % 4 * 16 + b.toNat / 16, b.toNat % 16 * 4]
  | a :: b :: c :: rest =>
    (a.toNat / 4) :: (a.toNat % 4 * 16 + b.toNat / 16) :: (b.toNat % 16 * 4 + c.toNat / 64) ::
      (c.toNat % 64) :: digits rest

theorem encode_eq_map_digits (bytes : List UInt8) : encode bytes = (digits bytes).map digit := by
  fun_induction encode bytes with
  | case1 => rfl
  | case2 a => rfl
  | case3 a b => rfl
  | case4 a b c rest ih => rw [digits, ih]; rfl

theorem lt_of_mem_digits (bytes : List UInt8) : ∀ n ∈ digits bytes, n < 64 := by
  fun_induction digits bytes with
  | case1 => simp
  | case2 a =>
      have ha := a.toNat_lt
      simp only [List.mem_cons, List.not_mem_nil, or_false, forall_eq_or_imp, forall_eq]
      omega
  | case3 a b =>
      have ha := a.toNat_lt
      have hb := b.toNat_lt
      simp only [List.mem_cons, List.not_mem_nil, or_false, forall_eq_or_imp, forall_eq]
      omega
  | case4 a b c rest ih =>
      have ha := a.toNat_lt
      have hb := b.toNat_lt
      have hc := c.toNat_lt
      simp only [List.mem_cons, forall_eq_or_imp]
      exact ⟨by omega, by omega, by omega, by omega, ih⟩

/-- A number below 64 is read back from its character. -/
theorem mapM_digit? {ns : List Nat} (h : ∀ n ∈ ns, n < 64) :
    (ns.map digit).mapM digit? = some ns := by
  induction ns with
  | nil => rfl
  | cons n ns ih =>
      rw [List.map_cons, List.mapM_cons, digit?_digit (h n (by simp)),
        ih fun m hm => h m (by simp [hm])]
      rfl

/-- The numbers that bytes are cut into are put together to the bytes. -/
theorem joinDigits_digits (bytes : List UInt8) : joinDigits (digits bytes) = some bytes := by
  fun_induction digits bytes with
  | case1 => rfl
  | case2 a =>
      have ha := a.toNat_lt
      have hbyte : a.toNat / 4 * 4 + a.toNat % 4 * 16 / 16 = a.toNat := by omega
      rw [joinDigits, if_pos (by omega), hbyte, UInt8.ofNat_toNat]
  | case3 a b =>
      have hb := b.toNat_lt
      have hfirst : a.toNat / 4 * 4 + (a.toNat % 4 * 16 + b.toNat / 16) / 16 = a.toNat := by omega
      have hsecond : (a.toNat % 4 * 16 + b.toNat / 16) % 16 * 16 + b.toNat % 16 * 4 / 4 =
          b.toNat := by omega
      rw [joinDigits, if_pos (by omega), hfirst, hsecond, UInt8.ofNat_toNat, UInt8.ofNat_toNat]
  | case4 a b c rest ih =>
      have hb := b.toNat_lt
      have hc := c.toNat_lt
      have hfirst : a.toNat / 4 * 4 + (a.toNat % 4 * 16 + b.toNat / 16) / 16 = a.toNat := by omega
      have hsecond : (a.toNat % 4 * 16 + b.toNat / 16) % 16 * 16 +
          (b.toNat % 16 * 4 + c.toNat / 64) / 4 = b.toNat := by omega
      have hthird : (b.toNat % 16 * 4 + c.toNat / 64) % 4 * 64 + c.toNat % 64 = c.toNat := by
        omega
      rw [joinDigits, ih, hfirst, hsecond, hthird]
      simp

/-- **The text of bytes is read back as the bytes.** -/
theorem decode_encode (bytes : List UInt8) : decode (encode bytes) = some bytes := by
  rw [decode, encode_eq_map_digits, mapM_digit? (lt_of_mem_digits bytes), Option.bind_some,
    joinDigits_digits]

/-- A character that stands for itself wherever it is in an address. -/
def NeedsNoEscape (c : Char) : Prop := c.isAlphanum = true ∨ c = '-' ∨ c = '_'

instance (c : Char) : Decidable (NeedsNoEscape c) := inferInstanceAs (Decidable (_ ∨ _))

theorem needsNoEscape_digit {n : Nat} (h : n < 64) : NeedsNoEscape (digit n) := by
  have all : ∀ m : Fin 64, NeedsNoEscape (digit m) := by decide
  exact all ⟨n, h⟩

/-- **No character of the text of bytes needs an escape.** -/
theorem needsNoEscape_of_mem_encode (bytes : List UInt8) : ∀ c ∈ encode bytes, NeedsNoEscape c := by
  intro c hc
  rw [encode_eq_map_digits] at hc
  obtain ⟨n, hn, rfl⟩ := List.mem_map.mp hc
  exact needsNoEscape_digit (lt_of_mem_digits bytes n hn)

end RowMapper.Base64Url
