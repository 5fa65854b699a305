import RowMapper.Proofs.Json.RoundTrip

/-!
# Nested JSON there and back

The writer nests arrays and objects as deep as a value does, and the reader takes them up to a
depth.

* `Json.depth` — how deep arrays and objects are nested in a value;
* `Json.Whole` — the values in which every number is an integer of 64 bits;
* `Json.Ordered` — the values of which every object has its fields in order, each name once;
* `Json.ReadsBack`, `Json.readsBack_of_whole` — a written value is read as what it was if it is
  nested no deeper than the reader takes, and refused otherwise;
* `Json.normalize_of_ordered`, `Json.ordered_normalize` — a value in order means itself, and what a
  value means is in order;
* `Json.read?_text` — the text of a value is read as the value, up to a depth.

### Depth and fuel

The reader goes down with two numbers.  The depth is the rule of the format: it falls at a bracket
and nowhere else, so what matters is the deepest item and not the number of items.  The fuel only
lets the reader be defined by recursion: it falls at every call, and since a bracket, a comma or an
item lies between two calls, twice the length of a text is enough for it.
-/

namespace RowMapper.Json

mutual

/-- How deep arrays and objects are nested in a value. -/
def depth : Json → Nat
  | .array items => depthItems items + 1
  | .object fields => depthFields fields + 1
  | _ => 0

/-- The depth of the deepest item. -/
def depthItems : List Json → Nat
  | [] => 0
  | item :: rest => max item.depth (depthItems rest)

/-- The depth of the deepest field. -/
def depthFields : List (String × Json) → Nat
  | [] => 0
  | (_, value) :: rest => max value.depth (depthFields rest)

end

/-- Every number in the value is an integer of 64 bits, signed or unsigned. -/
inductive Whole : Json → Prop
  | null : Whole .null
  | bool (b : Bool) : Whole (.bool b)
  | integer {n : Int}
      (h : IntRange.int64.contains n = true ∨ IntRange.uint64.contains n = true) :
      Whole (.number (.integer n))
  | string (s : String) : Whole (.string s)
  | array {items : List Json} (h : ∀ item ∈ items, Whole item) : Whole (.array items)
  | object {fields : List (String × Json)} (h : ∀ field ∈ fields, Whole field.2) :
      Whole (.object fields)

/-- Every object in the value has its fields in the order of their names, each name once.  The
values that texts mean are of this kind, see `ordered_normalize`. -/
inductive Ordered : Json → Prop
  | null : Ordered .null
  | bool (b : Bool) : Ordered (.bool b)
  | number (n : JsonNumber) : Ordered (.number n)
  | string (s : String) : Ordered (.string s)
  | array {items : List Json} (h : ∀ item ∈ items, Ordered item) : Ordered (.array items)
  | object {fields : List (String × Json)} (hnames : (fields.map Prod.fst).Pairwise (· < ·))
      (h : ∀ field ∈ fields, Ordered field.2) : Ordered (.object fields)

/-! ### The start of a text -/

/-- What is written starts a token. -/
theorem exists_cons_write {v : Json} (h : v.Whole) :
    ∃ c tail, v.write = c :: tail ∧ isBlank c = false ∧ c ≠ ']' := by
  cases h with
  | null => exact ⟨_, _, rfl, by decide, by decide⟩
  | bool b => cases b <;> exact ⟨_, _, rfl, by decide, by decide⟩
  | @integer n _ =>
      obtain ⟨c, tail, htext, hc⟩ := Numeral.exists_cons_text (Numeral.wellFormed_ofInt n)
      rw [Numeral.text_ofInt] at htext
      exact ⟨c, tail, htext, isBlank_of_startsNumeral hc,
        ne_of_startsNumeral hc (by decide) (by decide)⟩
  | string s => exact ⟨'"', _, rfl, by decide, by decide⟩
  | @array items _ => exact ⟨'[', writeItems items ++ [']'], by simp [write], by decide, by decide⟩
  | @object fields _ =>
      exact ⟨'\x7b', writeFields fields ++ ['\x7d'], by simp [write], by decide, by decide⟩

/-! ### What is written is read -/

/-- The reader takes a value that is written if it may be nested that deep. -/
def ReadsBack (v : Json) : Prop :=
  ∀ (fuel depth : Nat) (rest : List Char), 2 * v.write.length ≤ fuel → EndsNumeral rest →
    readValue fuel depth (v.write ++ rest) = if v.depth ≤ depth then some (v, rest) else none

/-- Written items are read up to the closing bracket if none of them is too deep. -/
theorem readItems_write {item : Json} {items : List Json}
    (hread : ∀ v ∈ item :: items, v.ReadsBack) (fuel depth : Nat) (rest : List Char)
    (hfuel : 2 * (writeItems (item :: items)).length < fuel) :
    readItems fuel depth (writeItems (item :: items) ++ ']' :: rest) =
      if depthItems (item :: items) ≤ depth then some (item :: items, rest) else none := by
  induction items generalizing item fuel with
  | nil =>
      obtain ⟨fuel, rfl⟩ := Nat.exists_eq_succ_of_ne_zero (Nat.ne_of_gt (Nat.zero_lt_of_lt hfuel))
      have hitem := hread item List.mem_cons_self fuel depth (']' :: rest)
        (by rw [writeItems] at hfuel; omega) (endsNumeral_cons (by decide) rest)
      rw [readItems, writeItems, hitem]
      by_cases hdepth : item.depth ≤ depth
      · simp [hdepth, depthItems, skipBlank_cons (c := ']') (by decide)]
      · simp [hdepth, depthItems]
  | cons next items ih =>
      obtain ⟨fuel, rfl⟩ := Nat.exists_eq_succ_of_ne_zero (Nat.ne_of_gt (Nat.zero_lt_of_lt hfuel))
      have htext : writeItems (item :: next :: items) ++ ']' :: rest =
          item.write ++ ',' :: (writeItems (next :: items) ++ ']' :: rest) := by
        simp [writeItems]
      have hlength : (writeItems (item :: next :: items)).length =
          item.write.length + ((writeItems (next :: items)).length + 1) := by
        simp [writeItems]
      have hitem := hread item List.mem_cons_self fuel depth
        (',' :: (writeItems (next :: items) ++ ']' :: rest)) (by omega)
        (endsNumeral_cons (by decide) _)
      have hitems := ih (fun v hv => hread v (List.mem_cons_of_mem item hv)) fuel (by omega)
      rw [htext, readItems, hitem, depthItems]
      by_cases hdepth : item.depth ≤ depth
      · by_cases hothers : depthItems (next :: items) ≤ depth
        · simp [hdepth, hothers, hitems, skipBlank_cons (c := ',') (by decide)]
        · simp [hdepth, hothers, hitems, skipBlank_cons (c := ',') (by decide)]
      · simp [hdepth]

/-- Written fields are read up to the closing brace if none of their values is too deep. -/
theorem readFields_write {field : String × Json} {fields : List (String × Json)}
    (hread : ∀ f ∈ field :: fields, f.2.ReadsBack) (fuel depth : Nat) (rest : List Char)
    (hfuel : 2 * (writeFields (field :: fields)).length < fuel) :
    readFields fuel depth (writeFields (field :: fields) ++ '\x7d' :: rest) =
      if depthFields (field :: fields) ≤ depth then some (field :: fields, rest) else none := by
  induction fields generalizing field fuel with
  | nil =>
      obtain ⟨name, value⟩ := field
      obtain ⟨fuel, rfl⟩ := Nat.exists_eq_succ_of_ne_zero (Nat.ne_of_gt (Nat.zero_lt_of_lt hfuel))
      have htext : writeFields [(name, value)] ++ '\x7d' :: rest =
          writeString name ++ ':' :: (value.write ++ '\x7d' :: rest) := by
        simp [writeFields]
      have hlength : value.write.length < (writeFields [(name, value)]).length := by
        simp only [writeFields, List.length_append, List.length_cons]
        omega
      have hback : value.ReadsBack := hread (name, value) List.mem_cons_self
      have hvalue := hback fuel depth ('\x7d' :: rest) (by omega)
        (endsNumeral_cons (by decide) rest)
      rw [htext, readFields_name, hvalue]
      by_cases hdepth : value.depth ≤ depth
      · simp [hdepth, depthFields, skipBlank_cons (c := '\x7d') (by decide)]
      · simp [hdepth, depthFields]
  | cons next fields ih =>
      obtain ⟨name, value⟩ := field
      obtain ⟨fuel, rfl⟩ := Nat.exists_eq_succ_of_ne_zero (Nat.ne_of_gt (Nat.zero_lt_of_lt hfuel))
      have htext : writeFields ((name, value) :: next :: fields) ++ '\x7d' :: rest =
          writeString name ++ ':' ::
            (value.write ++ ',' :: (writeFields (next :: fields) ++ '\x7d' :: rest)) := by
        simp [writeFields]
      have hlength : value.write.length + ((writeFields (next :: fields)).length + 1) <
          (writeFields ((name, value) :: next :: fields)).length := by
        simp only [writeFields, List.length_append, List.length_cons]
        omega
      have hback : value.ReadsBack := hread (name, value) List.mem_cons_self
      have hvalue := hback fuel depth
        (',' :: (writeFields (next :: fields) ++ '\x7d' :: rest)) (by omega)
        (endsNumeral_cons (by decide) _)
      have hfields := ih (fun f hf => hread f (List.mem_cons_of_mem _ hf)) fuel (by omega)
      rw [htext, readFields_name, hvalue, depthFields]
      by_cases hdepth : value.depth ≤ depth
      · by_cases hothers : depthFields (next :: fields) ≤ depth
        · simp [hdepth, hothers, hfields, skipBlank_cons (c := ',') (by decide)]
        · simp [hdepth, hothers, hfields, skipBlank_cons (c := ',') (by decide)]
      · simp [hdepth]

/-- Some fuel is left for a call of the reader. -/
theorem exists_succ_of_write {v : Json} (h : v.Whole) {fuel : Nat}
    (hfuel : 2 * v.write.length ≤ fuel) : ∃ left, fuel = left + 1 := by
  obtain ⟨c, tail, htext, -, -⟩ := exists_cons_write h
  rw [htext, List.length_cons] at hfuel
  exact Nat.exists_eq_succ_of_ne_zero (by omega)

/-- The text of items starts with the text of the first one. -/
theorem exists_writeItems (item : Json) (items : List Json) :
    ∃ more, writeItems (item :: items) = item.write ++ more := by
  cases items with
  | nil => exact ⟨[], (List.append_nil _).symm⟩
  | cons next items => exact ⟨_, rfl⟩

/-- The text of fields starts with a quote. -/
theorem exists_cons_writeFields (field : String × Json) (fields : List (String × Json)) :
    ∃ tail, writeFields (field :: fields) = '"' :: tail := by
  cases fields with
  | nil => exact ⟨_, rfl⟩
  | cons next fields => exact ⟨_, rfl⟩

/-- A written array is read if its items are. -/
theorem readsBack_array {items : List Json} (hwhole : ∀ item ∈ items, item.Whole)
    (hread : ∀ item ∈ items, item.ReadsBack) : (array items).ReadsBack := by
  intro fuel depth rest hfuel _
  obtain ⟨fuel, rfl⟩ := exists_succ_of_write (.array hwhole) hfuel
  have htext : (array items).write ++ rest = '[' :: (writeItems items ++ ']' :: rest) := by
    simp [write]
  have hlength : (array items).write.length = (writeItems items).length + 2 := by
    simp [write]
  rw [htext]
  cases depth with
  | zero => rw [readValue_too_deep (.inl rfl), if_neg (by simp [Json.depth])]
  | succ depth =>
      cases items with
      | nil =>
          rw [readValue, skipBlank_cons (by decide)]
          rfl
      | cons item items =>
          have hitems := readItems_write hread fuel depth rest (by omega)
          obtain ⟨more, hmore⟩ := exists_writeItems item items
          obtain ⟨c, tail, hc, hblank, hclose⟩ :=
            exists_cons_write (hwhole item List.mem_cons_self)
          rw [hmore, hc] at hitems ⊢
          simp only [List.cons_append] at hitems ⊢
          rw [readValue_items hblank hclose, hitems]
          simp only [Json.depth, Nat.add_le_add_iff_right]
          split <;> rfl

/-- A written object is read if the values of its fields are. -/
theorem readsBack_object {fields : List (String × Json)}
    (hwhole : ∀ field ∈ fields, field.2.Whole)
    (hread : ∀ field ∈ fields, field.2.ReadsBack) : (object fields).ReadsBack := by
  intro fuel depth rest hfuel _
  obtain ⟨fuel, rfl⟩ := exists_succ_of_write (.object hwhole) hfuel
  have htext : (object fields).write ++ rest =
      '\x7b' :: (writeFields fields ++ '\x7d' :: rest) := by
    simp [write]
  have hlength : (object fields).write.length = (writeFields fields).length + 2 := by
    simp [write]
  rw [htext]
  cases depth with
  | zero => rw [readValue_too_deep (.inr rfl), if_neg (by simp [Json.depth])]
  | succ depth =>
      cases fields with
      | nil =>
          rw [readValue, skipBlank_cons (by decide)]
          rfl
      | cons field fields =>
          have hfields := readFields_write hread fuel depth rest (by omega)
          obtain ⟨tail, hquote⟩ := exists_cons_writeFields field fields
          rw [hquote] at hfields ⊢
          rw [List.cons_append] at hfields ⊢
          rw [readValue_fields, hfields]
          simp only [Json.depth, Nat.add_le_add_iff_right]
          split <;> rfl

/-- **A written value is read as what it was**, whatever follows it, if it is nested no deeper than
may be.  Otherwise it is refused. -/
theorem readsBack_of_whole {v : Json} (h : v.Whole) : v.ReadsBack := by
  induction h with
  | array h ih => exact readsBack_array h ih
  | object h ih => exact readsBack_object h ih
  | null =>
      intro fuel depth rest hfuel _
      obtain ⟨fuel, rfl⟩ := exists_succ_of_write .null hfuel
      exact (if_pos (Nat.zero_le depth)).symm
  | bool b =>
      intro fuel depth rest hfuel _
      obtain ⟨fuel, rfl⟩ := exists_succ_of_write (.bool b) hfuel
      cases b <;> exact (if_pos (Nat.zero_le depth)).symm
  | @integer n hn =>
      intro fuel depth rest hfuel hrest
      obtain ⟨fuel, rfl⟩ := exists_succ_of_write (.integer hn) hfuel
      exact (readValue_ofInt (Nat.succ_pos fuel) hn hrest).trans
        (if_pos (Nat.zero_le depth)).symm
  | string s =>
      intro fuel depth rest hfuel _
      obtain ⟨fuel, rfl⟩ := exists_succ_of_write (.string s) hfuel
      exact (readValue_writeString s (Nat.succ_pos fuel) rest).trans
        (if_pos (Nat.zero_le depth)).symm

/-! ### What a value means -/

/-- The last of all names is put behind the others. -/
theorem insertField_of_last {name : String} {placed : List (String × Json)}
    (h : ∀ field ∈ placed, field.1 < name) (value : Json) :
    insertField name value placed = placed ++ [(name, value)] := by
  induction placed with
  | nil => rfl
  | cons field placed ih =>
      have hfirst : field.1 < name := h field List.mem_cons_self
      have hlater := ih fun other hother => h other (List.mem_cons_of_mem field hother)
      rw [insertField, if_neg (String.lt_asymm hfirst), if_neg (String.ne_of_lt hfirst).symm,
        hlater]
      rfl

/-- Items that mean themselves are left as they are. -/
theorem normalizeItems_of_forall {items : List Json} (h : ∀ item ∈ items, item.normalize = item) :
    normalizeItems items = items := by
  induction items with
  | nil => rfl
  | cons item items ih =>
      rw [normalizeItems, h item List.mem_cons_self,
        ih fun other hother => h other (List.mem_cons_of_mem item hother)]

/-- Fields in order are left as they are, if their values mean themselves. -/
theorem normalizeFields_of_forall (placed : List (String × Json)) {fields : List (String × Json)}
    (hnames : ((placed ++ fields).map Prod.fst).Pairwise (· < ·))
    (h : ∀ field ∈ fields, field.2.normalize = field.2) :
    normalizeFields fields placed = placed ++ fields := by
  induction fields generalizing placed with
  | nil => exact (List.append_nil placed).symm
  | cons field fields ih =>
      obtain ⟨name, value⟩ := field
      have hvalue : value.normalize = value := h (name, value) List.mem_cons_self
      have hlast : ∀ other ∈ placed, other.1 < name := by
        rw [List.map_append, List.pairwise_append] at hnames
        exact fun other hother => hnames.2.2 _ (List.mem_map_of_mem hother) _ List.mem_cons_self
      have happend : placed ++ (name, value) :: fields = (placed ++ [(name, value)]) ++ fields := by
        simp
      rw [normalizeFields, hvalue, insertField_of_last hlast, happend]
      exact ih _ (happend ▸ hnames) fun other hother => h other (List.mem_cons_of_mem _ hother)

/-- **A value in order means itself.** -/
theorem normalize_of_ordered {v : Json} (h : v.Ordered) : v.normalize = v := by
  induction h with
  | array _ ih => rw [normalize, normalizeItems_of_forall ih]
  | object hnames _ ih =>
      rw [normalize, normalizeFields_of_forall [] hnames ih, List.nil_append]
  | null | bool | number | string => simp [normalize]

/-- What is in place afterwards is the new field or was there before. -/
theorem mem_insertField {name : String} {value : Json} {placed : List (String × Json)}
    {field : String × Json} (h : field ∈ insertField name value placed) :
    field = (name, value) ∨ field ∈ placed := by
  fun_induction insertField name value placed with grind

/-- The names stay in order when a field is put in its place. -/
theorem pairwise_insertField (name : String) (value : Json) {placed : List (String × Json)}
    (h : (placed.map Prod.fst).Pairwise (· < ·)) :
    ((insertField name value placed).map Prod.fst).Pairwise (· < ·) := by
  induction placed with
  | nil => exact List.pairwise_singleton _ _
  | cons first placed ih =>
      obtain ⟨hfirst, hrest⟩ := List.pairwise_cons.mp h
      rw [insertField]
      split
      · next hless =>
          refine List.pairwise_cons.mpr ⟨fun other hother => ?_, h⟩
          rcases List.mem_cons.mp hother with rfl | hother
          · exact hless
          · exact String.lt_trans hless (hfirst other hother)
      · next hnotless =>
        split
        · next hsame =>
            subst hsame
            exact List.pairwise_cons.mpr ⟨hfirst, hrest⟩
        · next hother =>
            have hlast : first.1 < name := by
              by_contra hnotlast
              exact hother (String.le_antisymm (String.not_lt.mp hnotlast)
                (String.not_lt.mp hnotless))
            refine List.pairwise_cons.mpr ⟨fun later hlater => ?_, ih hrest⟩
            obtain ⟨field, hfield, rfl⟩ := List.mem_map.mp hlater
            rcases mem_insertField hfield with rfl | hfield
            · exact hlast
            · exact hfirst _ (List.mem_map_of_mem hfield)

mutual

/-- **What a value means is in order.** -/
theorem ordered_normalize : (v : Json) → v.normalize.Ordered
  | .null => .null
  | .bool b => .bool b
  | .number n => .number n
  | .string s => .string s
  | .array items => .array (ordered_normalizeItems items)
  | .object fields => ordered_normalizeFields fields (.object .nil fun _ h => nomatch h)

/-- Every item of what an array means is in order. -/
theorem ordered_normalizeItems : (items : List Json) → ∀ item ∈ normalizeItems items, item.Ordered
  | [], _, h => nomatch h
  | first :: items, item, h => by
      rw [normalizeItems] at h
      rcases List.mem_cons.mp h with rfl | h
      · exact ordered_normalize first
      · exact ordered_normalizeItems items item h

/-- The fields of what an object means are in order, on top of those that are. -/
theorem ordered_normalizeFields : (fields : List (String × Json)) → {placed : List (String × Json)} →
    (object placed).Ordered → (object (normalizeFields fields placed)).Ordered
  | [], _, hplaced => hplaced
  | (name, value) :: fields, placed, .object hnames h => by
      have hvalue := ordered_normalize value
      refine ordered_normalizeFields fields (.object (pairwise_insertField name _ hnames) ?_)
      intro field hfield
      rcases mem_insertField hfield with rfl | hfield
      · exact hvalue
      · exact h field hfield

end

/-! ### Whole texts -/

/-- **The text of a value is read as the value**, if it is nested no deeper than may be, and as
nothing otherwise. -/
theorem read?_text {v : Json} (hwhole : v.Whole) (hordered : v.Ordered) :
    read? v.text = if v.depth ≤ maxDepth then some v else none := by
  have hread := readsBack_of_whole hwhole (2 * v.write.length + 2) maxDepth [] (by omega)
    (fun c hc => nomatch hc)
  rw [List.append_nil] at hread
  rw [read?, text, String.toList_ofList, parse?, hread]
  by_cases hdepth : v.depth ≤ maxDepth
  · rw [if_pos hdepth, if_pos hdepth]
    exact congrArg some (normalize_of_ordered hordered)
  · rw [if_neg hdepth, if_neg hdepth]
    rfl

/-! ### Integers -/

/-- Integers as the items of an array. -/
def integers (ns : List Int) : List Json := ns.map fun n => .number (.integer n)

theorem whole_integers {ns : List Int}
    (hrange : ∀ n ∈ ns, IntRange.int64.contains n = true ∨ IntRange.uint64.contains n = true) :
    (array (integers ns)).Whole := by
  refine .array fun item hitem => ?_
  obtain ⟨n, hn, rfl⟩ := List.mem_map.mp hitem
  exact .integer (hrange n hn)

/-- Nothing is nested in integers. -/
@[simp] theorem depthItems_integers (ns : List Int) : depthItems (integers ns) = 0 := by
  induction ns with
  | nil => rfl
  | cons n ns ih =>
      rw [integers, List.map_cons, ← integers, depthItems, ih]
      rfl

end RowMapper.Json
