import RowMapper.Proofs.Paging.CursorCodec

/-!
# Cursors as texts

What a caller gets in hand is the text of a cursor: it carries it in an address, gives it back, and
the query goes on from the value in it.

* `Datum.rebound` — the datum that is bound for what was read, with `Datum.toDatum_toValue`;
* `Cursor.decode_cases` — whatever text is given, it is refused or holds a value;
* `Cursor.token_faithful` — the text needs no escape, comes back as its value, and goes on from it.

Three codecs are stacked: the characters of the JSON, their bytes, and the base 64 of these.  Each
of them is undone by its reader whatever follows or was in front, so the length of the text and the
escapes in it make no difference.  Only floating-point numbers are left out, as their numerals need
not be read as the same number.
-/

namespace RowMapper

/-- The datum that is bound again for a datum that was read: dates and times are their texts. -/
def Datum.rebound : Datum → Datum
  | .date v | .time v | .timestamp v => .str v
  | d => d

theorem Datum.toDatum_toValue (d : Datum) : d.toValue.toDatum = .ok d.rebound := by
  cases d <;> rfl

namespace Cursor

/-- A text that is given for a cursor is refused, or it holds a value that is not NULL. -/
theorem decode_cases (token : String) :
    (∃ fault, decode token = .error (.invalidCursor fault)) ∨
      ∃ d, decode token = .ok d ∧ d.isNull = false := by
  unfold decode
  split
  · exact .inl ⟨_, rfl⟩
  · split
    · exact .inl ⟨_, rfl⟩
    · next d _ =>
      cases hnull : d.isNull with
      | true => exact .inl ⟨.nullValue, rfl⟩
      | false => exact .inr ⟨d, rfl, hnull⟩

/-- **The text of a cursor is faithful to its value, and safe in an address.**  `Cursor.encode`
gives letters, digits, minus signs and underscores only (`Base64Url.NeedsNoEscape`), whatever the
datum is.  Unless this is NULL or a floating-point number, `Cursor.decode` reads it back, and what is
bound when the query goes on is the datum with dates and times as their texts (`Datum.rebound`).
And whatever text is given for a cursor, it is refused as one or holds a datum that is not NULL. -/
theorem token_faithful (d : Datum) (token : String) :
    (∀ c ∈ (encode d).toList, Base64Url.NeedsNoEscape c) ∧
    (d.isNull = false → d.isReal = false →
      decode (encode d) = .ok d ∧ d.toValue.toDatum = .ok d.rebound) ∧
    ((∃ fault, decode token = .error (.invalidCursor fault)) ∨
      ∃ back, decode token = .ok back ∧ back.isNull = false) := by
  refine ⟨fun c hc => ?_, fun hnull hreal => ?_, decode_cases token⟩
  · rw [encode, String.toList_ofList] at hc
    exact Base64Url.needsNoEscape_of_mem_encode _ c hc
  · exact ⟨decode_encode_of_not_real hnull hreal, d.toDatum_toValue⟩

/-- A time of day with a quotation mark, a line feed and a character past U+FFFF in its text. -/
theorem token_faithful_time :
    let d : Datum := .time (some "12:00\"\n🙂")
    d.isNull = false ∧ d.isReal = false ∧ decode (encode d) = .ok d ∧
      d.toValue.toDatum = .ok (.str (some "12:00\"\n🙂")) :=
  have h := (token_faithful (.time (some "12:00\"\n🙂")) "").2.1 rfl rfl
  ⟨rfl, rfl, h⟩

end Cursor

end RowMapper
