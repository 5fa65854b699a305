import Mathlib.Data.List.Nodup
import RowMapper.Entity.Type
import RowMapper.Proofs.Outcome

/-!
# Values are picked by name

An entity lays out its values in a list, and a statement takes those of some properties out of it,
one after the other.

* `perm_swapRemove` — what was taken and what is left are the list, in some order;
* `mem_valuesLeft_iff`, `nodup_valuesLeft` — one step: what is left are the values of the other
  names;
* `takeValues_eq_ok_iff`, `takeValues_eq_error_iff` — all steps, by what is asked for;
* `values_picked` — each property gets its own value, or the first one that has none is the error.

### A list that changes its order

The last value goes to the place of the one that was taken, so after a few steps the list is in an
order that nobody asked for.  The steps are therefore not described by places.  What is known of the
list is which values are in it, and that their names are different.
-/

namespace RowMapper

/-! ### Taking one out -/

section Remove

variable {α β : Type}

/-- The last element goes to the place of the one that is removed, unless it is that one. -/
theorem swapRemove_append_cons (before : List α) (a : α) (after : List α) :
    swapRemove (before ++ a :: after) before.length =
      before ++ (after.getLast?.toList ++ after.dropLast) := by
  rcases List.eq_nil_or_concat after with rfl | ⟨after, last, rfl⟩
  · simp [swapRemove]
  · have hlast : (last :: after ++ [last]).dropLast = last :: after := List.dropLast_concat
    simpa [swapRemove, List.getLast?_cons] using hlast

/-- What is removed and what is left are the list, in some order. -/
theorem perm_swapRemove_append_cons (before : List α) (a : α) (after : List α) :
    (a :: swapRemove (before ++ a :: after) before.length).Perm (before ++ a :: after) := by
  have hafter : (after.getLast?.toList ++ after.dropLast).Perm after := by
    rcases List.eq_nil_or_concat after with rfl | ⟨after, last, rfl⟩
    · exact .nil
    · simpa using (List.perm_append_singleton last after).symm
  rw [swapRemove_append_cons]
  exact ((hafter.append_left before).cons a).trans List.perm_middle.symm

/-- The place of the first element with a property. -/
theorem exists_split_of_find? {p : α → Bool} {as : List α} {a : α} (h : as.find? p = some a) :
    ∃ before after, as = before ++ a :: after ∧ as.findIdx p = before.length := by
  obtain ⟨ha, before, after, rfl, hbefore⟩ := List.find?_eq_some_iff_append.mp h
  refine ⟨before, after, rfl, ?_⟩
  have hnone : before.findIdx p = before.length :=
    List.findIdx_eq_length.mpr fun b hb => by simpa using hbefore b hb
  rw [List.findIdx_append, hnone, if_neg (Nat.lt_irrefl _), List.findIdx_cons, ha]
  exact Nat.zero_add _

/-- **What was found and what is left are the list, in some order.** -/
theorem perm_swapRemove {p : α → Bool} {as : List α} {a : α} (h : as.find? p = some a) :
    (a :: swapRemove as (as.findIdx p)).Perm as := by
  obtain ⟨before, after, rfl, hindex⟩ := exists_split_of_find? h
  rw [hindex]
  exact perm_swapRemove_append_cons before a after

theorem map_swapRemove (f : α → β) (as : List α) (index : Nat) :
    (swapRemove as index).map f = swapRemove (as.map f) index := by
  unfold swapRemove
  rw [List.getLast?_map]
  cases as.getLast? with
  | none => rfl
  | some last => simp [List.map_dropLast, List.map_set]

end Remove

/-! ### One step -/

/-- What is left of a list of values after the one of a name was taken. -/
def valuesLeft (listed : List (String × Value)) (name : String) : List (String × Value) :=
  swapRemove listed (listed.findIdx (·.1 == name))

section Step

variable {entity : String} {listed : List (String × Value)} {name : String}
  {entry : String × Value} {p : Property} {properties : List Property}

theorem name_of_find? (h : listed.find? (·.1 == name) = some entry) : entry.1 = name := by
  simpa using List.find?_some h

/-- A name is found if it is listed. -/
theorem find?_eq_none_iff : listed.find? (·.1 == name) = none ↔ name ∉ listed.map (·.1) := by
  rw [List.find?_eq_none, List.mem_map]
  simp only [beq_iff_eq, not_exists, not_and]

/-- A property that is not listed is the error. -/
theorem takeValues_cons_of_none (h : listed.find? (·.1 == p.name) = none) :
    takeValues entity listed (p :: properties) =
      .error (.invalidOperation (.missingValue entity p.name)) := by
  rw [takeValues, h]

/-- A property that is listed gets its value, and the others go on with what is left. -/
theorem takeValues_cons_of_some (h : listed.find? (·.1 == p.name) = some entry) :
    takeValues entity listed (p :: properties) =
      (entry.2 :: ·) <$> takeValues entity (valuesLeft listed p.name) properties := by
  rw [takeValues, h]
  rfl

/-- What was taken and what is left are the list, in some order. -/
theorem perm_valuesLeft (h : listed.find? (·.1 == name) = some entry) :
    (entry :: valuesLeft listed name).Perm listed := perm_swapRemove h

/-- What is left has different names. -/
theorem nodup_valuesLeft (hlisted : (listed.map (·.1)).Nodup)
    (h : listed.find? (·.1 == name) = some entry) : ((valuesLeft listed name).map (·.1)).Nodup :=
  (List.nodup_cons.mp (((perm_valuesLeft h).map (·.1)).nodup_iff.mpr hlisted)).2

/-- What is left was listed. -/
theorem mem_of_mem_valuesLeft (h : listed.find? (·.1 == name) = some entry)
    {other : String × Value} (hother : other ∈ valuesLeft listed name) : other ∈ listed :=
  (perm_valuesLeft h).subset (List.mem_cons_of_mem _ hother)

/-- **What is left are the values of the other names.** -/
theorem mem_valuesLeft_iff (hlisted : (listed.map (·.1)).Nodup)
    (h : listed.find? (·.1 == name) = some entry) {other : String × Value} :
    other ∈ valuesLeft listed name ↔ other ∈ listed ∧ other.1 ≠ name := by
  have hperm := perm_valuesLeft h
  have hnames := List.nodup_cons.mp ((hperm.map (·.1)).nodup_iff.mpr hlisted)
  rw [← hperm.mem_iff, List.mem_cons]
  constructor
  · intro hleft
    refine ⟨.inr hleft, fun hsame => hnames.1 (List.mem_map.mpr ⟨other, hleft, ?_⟩)⟩
    exact hsame.trans (name_of_find? h).symm
  · rintro ⟨rfl | hleft, hne⟩
    · exact absurd (name_of_find? h) hne
    · exact hleft

/-- Other names still have their values. -/
theorem mem_names_valuesLeft_of_ne (h : listed.find? (·.1 == name) = some entry) {other : String}
    (hother : other ∈ listed.map (·.1)) (hne : other ≠ name) :
    other ∈ (valuesLeft listed name).map (·.1) := by
  rcases List.mem_cons.mp (((perm_valuesLeft h).map (·.1)).mem_iff.mpr hother) with hsame | hleft
  · exact absurd (hsame.trans (name_of_find? h)) hne
  · exact hleft

/-- The names that are left are the other ones. -/
theorem mem_names_valuesLeft_iff (hlisted : (listed.map (·.1)).Nodup)
    (h : listed.find? (·.1 == name) = some entry) {other : String} :
    other ∈ (valuesLeft listed name).map (·.1) ↔ other ∈ listed.map (·.1) ∧ other ≠ name := by
  refine ⟨fun hleft => ?_, fun hother => mem_names_valuesLeft_of_ne h hother.1 hother.2⟩
  obtain ⟨e, he, rfl⟩ := List.mem_map.mp hleft
  obtain ⟨hmem, hne⟩ := (mem_valuesLeft_iff hlisted h).mp he
  exact ⟨List.mem_map_of_mem hmem, hne⟩

end Step

/-! ### All steps -/

/-- Properties that all get a value: their names are different, and all are listed. -/
def Served (listed : List (String × Value)) (properties : List Property) : Prop :=
  (properties.map (·.name)).Nodup ∧ ∀ p ∈ properties, p.name ∈ listed.map (·.1)

section Steps

variable {entity : String} {listed : List (String × Value)} {properties : List Property}

/-- Values are taken for properties that are served, and they have what all values under these names
have. -/
theorem exists_takeValues {R : Property → Value → Prop} (h : Served listed properties)
    (hR : ∀ p ∈ properties, ∀ v, (p.name, v) ∈ listed → R p v) :
    ∃ vs, takeValues entity listed properties = .ok vs ∧ List.Forall₂ R properties vs := by
  induction properties generalizing listed with
  | nil => exact ⟨[], rfl, .nil⟩
  | cons p properties ih =>
      obtain ⟨hnames, hall⟩ := h
      rw [List.map_cons, List.nodup_cons] at hnames
      cases hfind : listed.find? (·.1 == p.name) with
      | none => exact absurd (hall p List.mem_cons_self) (find?_eq_none_iff.mp hfind)
      | some entry =>
          obtain ⟨name, v⟩ := entry
          obtain rfl := name_of_find? hfind
          -- what is taken for the first property is not missed by the others
          have hothers : ∀ q ∈ properties, q.name ∈ (valuesLeft listed p.name).map (·.1) :=
            fun q hq => mem_names_valuesLeft_of_ne hfind (hall q (List.mem_cons_of_mem p hq))
              fun hsame => hnames.1 (List.mem_map.mpr ⟨q, hq, hsame⟩)
          obtain ⟨vs, hvs, hvalues⟩ := ih ⟨hnames.2, hothers⟩ fun q hq w hw =>
            hR q (List.mem_cons_of_mem p hq) w (mem_of_mem_valuesLeft hfind hw)
          have hv := hR p List.mem_cons_self v (List.mem_of_find?_eq_some hfind)
          refine ⟨v :: vs, ?_, .cons hv hvalues⟩
          rw [takeValues_cons_of_some hfind, hvs]
          rfl

/-- The values among those that are left are the values of properties with other names. -/
theorem forall₂_valuesLeft_iff (hlisted : (listed.map (·.1)).Nodup) {name : String}
    {entry : String × Value} (h : listed.find? (·.1 == name) = some entry) {vs : List Value} :
    List.Forall₂ (fun p v => (p.name, v) ∈ valuesLeft listed name) properties vs ↔
      name ∉ properties.map (·.name) ∧
        List.Forall₂ (fun p v => (p.name, v) ∈ listed) properties vs := by
  have hleft (p : Property) (v : Value) :
      (p.name, v) ∈ valuesLeft listed name ↔ p.name ≠ name ∧ (p.name, v) ∈ listed :=
    (mem_valuesLeft_iff hlisted h).trans and_comm
  simp only [hleft, List.forall₂_and_left, List.mem_map, not_exists, not_and]

/-- **Values are taken for properties with different names, and they are those listed under these
names.** -/
theorem takeValues_eq_ok_iff (hlisted : (listed.map (·.1)).Nodup) {vs : List Value} :
    takeValues entity listed properties = .ok vs ↔
      (properties.map (·.name)).Nodup ∧
        List.Forall₂ (fun p v => (p.name, v) ∈ listed) properties vs := by
  induction properties generalizing listed vs with
  | nil => simp [takeValues, List.forall₂_nil_left_iff, eq_comm]
  | cons p properties ih =>
      rw [List.map_cons, List.nodup_cons]
      cases hfind : listed.find? (·.1 == p.name) with
      | none =>
          -- what is not listed has no value
          have hmissing := find?_eq_none_iff.mp hfind
          rw [takeValues_cons_of_none hfind]
          constructor
          · intro h
            cases h
          · rintro ⟨-, hall⟩
            cases hall with
            | cons hv _ => exact absurd (List.mem_map.mpr ⟨_, hv, rfl⟩) hmissing
      | some entry =>
          obtain ⟨name, v⟩ := entry
          obtain rfl := name_of_find? hfind
          have hv := List.mem_of_find?_eq_some hfind
          have hrest (ws : List Value) :
              takeValues entity (valuesLeft listed p.name) properties = .ok ws ↔
                (properties.map (·.name)).Nodup ∧ p.name ∉ properties.map (·.name) ∧
                  List.Forall₂ (fun p v => (p.name, v) ∈ listed) properties ws :=
            (ih (nodup_valuesLeft hlisted hfind)).trans
              (and_congr_right fun _ => forall₂_valuesLeft_iff hlisted hfind)
          rw [takeValues_cons_of_some hfind]
          constructor
          · intro h
            obtain ⟨others, hothers, rfl⟩ := exists_of_map_eq_ok h
            obtain ⟨hnodup, hnew, hall⟩ := (hrest others).mp hothers
            exact ⟨⟨hnew, hnodup⟩, .cons hv hall⟩
          · rintro ⟨⟨hnew, hnodup⟩, hall⟩
            cases hall with
            | @cons _ w _ ws hw hall =>
                -- different names have one value each
                obtain ⟨-, rfl⟩ := Prod.mk.inj (List.inj_on_of_nodup_map hlisted hv hw rfl)
                rw [(hrest ws).mpr ⟨hnodup, hnew, hall⟩]
                rfl

/-- What is served from what is left is served from the list together with what was taken. -/
theorem served_cons_iff (hlisted : (listed.map (·.1)).Nodup) {p : Property}
    {entry : String × Value} (h : listed.find? (·.1 == p.name) = some entry) :
    Served listed (p :: properties) ↔ Served (valuesLeft listed p.name) properties := by
  have hp : p.name ∈ listed.map (·.1) :=
    List.mem_map.mpr ⟨entry, List.mem_of_find?_eq_some h, name_of_find? h⟩
  have hnew : p.name ∉ properties.map (·.name) ↔ ∀ q ∈ properties, q.name ≠ p.name := by
    simp only [List.mem_map, not_exists, not_and]
  unfold Served
  simp only [mem_names_valuesLeft_iff hlisted h, List.map_cons, List.nodup_cons,
    List.forall_mem_cons, forall_and, hnew]
  tauto

/-- **The first property that has no value of its own is the error**: it is not listed, or it was
asked for before. -/
theorem takeValues_eq_error_iff (hlisted : (listed.map (·.1)).Nodup) {e : Error} :
    takeValues entity listed properties = .error e ↔
      ∃ before p after, properties = before ++ p :: after ∧ Served listed before ∧
        (p.name ∉ listed.map (·.1) ∨ p.name ∈ before.map (·.name)) ∧
        e = .invalidOperation (.missingValue entity p.name) := by
  induction properties generalizing listed with
  | nil => simp [takeValues]
  | cons p properties ih =>
      cases hfind : listed.find? (·.1 == p.name) with
      | none =>
          have hmissing := find?_eq_none_iff.mp hfind
          rw [takeValues_cons_of_none hfind]
          constructor
          · intro h
            exact ⟨[], p, properties, rfl, ⟨.nil, by simp⟩, .inl hmissing,
              (Except.error.inj h).symm⟩
          · rintro ⟨before, q, after, hsplit, hserved, -, rfl⟩
            cases before with
            | nil =>
                obtain ⟨rfl, -⟩ := List.cons.inj hsplit
                rfl
            | cons first before =>
                obtain ⟨rfl, -⟩ := List.cons.inj hsplit
                exact absurd (hserved.2 p List.mem_cons_self) hmissing
      | some entry =>
          have hnames (q : Property) : q.name ∉ (valuesLeft listed p.name).map (·.1) ↔
              q.name ∉ listed.map (·.1) ∨ q.name = p.name := by
            rw [mem_names_valuesLeft_iff hlisted hfind]
            tauto
          rw [takeValues_cons_of_some hfind, map_eq_error_iff, ih (nodup_valuesLeft hlisted hfind)]
          constructor
          · rintro ⟨before, q, after, rfl, hserved, hq, rfl⟩
            refine ⟨p :: before, q, after, rfl, (served_cons_iff hlisted hfind).mpr hserved, ?_,
              rfl⟩
            rw [hnames] at hq
            simp only [List.map_cons, List.mem_cons]
            tauto
          · rintro ⟨before, q, after, hsplit, hserved, hq, rfl⟩
            cases before with
            | nil =>
                -- the first property is listed
                obtain ⟨rfl, -⟩ := List.cons.inj hsplit
                rcases hq with hq | hq
                · exact absurd hfind (by rw [find?_eq_none_iff.mpr hq]; exact nofun)
                · cases hq
            | cons first before =>
                obtain ⟨rfl, rfl⟩ := List.cons.inj hsplit
                refine ⟨before, q, after, rfl, (served_cons_iff hlisted hfind).mp hserved, ?_, rfl⟩
                simp only [List.map_cons, List.mem_cons] at hq
                rw [hnames]
                tauto

end Steps

/-- **Each property gets its own value.**  Take any list in which an entity lays out its values,
with different names, and ask for the values of any properties (`takeValues`).  There is an answer
if and only if the properties have different names and all are listed, and then it has, in the order
in which they were asked for, the value that is listed under the name of each.  Otherwise the error
names the first property that is not listed or was asked for before. -/
theorem values_picked (entity : String) {listed : List (String × Value)}
    (hlisted : (listed.map (·.1)).Nodup) (properties : List Property) :
    ((∃ vs, takeValues entity listed properties = .ok vs) ↔
      (properties.map (·.name)).Nodup ∧ ∀ p ∈ properties, p.name ∈ listed.map (·.1)) ∧
    (∀ vs, takeValues entity listed properties = .ok vs →
      List.Forall₂ (fun p v => (p.name, v) ∈ listed) properties vs) ∧
    ((¬ ∃ vs, takeValues entity listed properties = .ok vs) →
      ∃ before p after, properties = before ++ p :: after ∧
        ((before.map (·.name)).Nodup ∧ ∀ q ∈ before, q.name ∈ listed.map (·.1)) ∧
        (p.name ∉ listed.map (·.1) ∨ p.name ∈ before.map (·.name)) ∧
        takeValues entity listed properties =
          .error (.invalidOperation (.missingValue entity p.name))) := by
  refine ⟨⟨?_, fun hserved => ?_⟩, fun vs hvs => ((takeValues_eq_ok_iff hlisted).mp hvs).2, ?_⟩
  · rintro ⟨vs, hvs⟩
    obtain ⟨hnames, hvalues⟩ := (takeValues_eq_ok_iff hlisted).mp hvs
    refine ⟨hnames, fun p hp => ?_⟩
    obtain ⟨i, hi, rfl⟩ := List.mem_iff_getElem.mp hp
    exact List.mem_map.mpr ⟨_, hvalues.get hi (hvalues.length_eq ▸ hi), rfl⟩
  · obtain ⟨vs, hvs, -⟩ : ∃ vs, takeValues entity listed properties = .ok vs ∧
        List.Forall₂ (fun _ _ => True) properties vs :=
      exists_takeValues hserved fun _ _ _ _ => trivial
    exact ⟨vs, hvs⟩
  · intro hnone
    cases h : takeValues entity listed properties with
    | ok vs => exact absurd ⟨vs, h⟩ hnone
    | error e =>
        obtain ⟨before, p, after, hsplit, hserved, hp, rfl⟩ :=
          (takeValues_eq_error_iff hlisted).mp h
        exact ⟨before, p, after, hsplit, hserved, hp, rfl⟩

/-! ### A sheet -/

namespace Sample

/-- The number that a sheet has. -/
def sheetNumber : Property := ⟨"id", "id", "i64", true, false, false, false, true⟩

/-- The title of a sheet. -/
def sheetTitle : Property := ⟨"title", "title", "String", false, false, false, false, true⟩

/-- The margin of a sheet. -/
def sheetMargin : Property := ⟨"margin", "margin", "u32", false, false, false, false, true⟩

/-- Sheets lay out their values in an order of their own, and none for the margin. -/
def sheet : EntityType :=
  ⟨"Sheet", none, none, false,
    [sheetNumber, sheetTitle, sheetMargin].zipWith Field.mk
      [.required .int64, .required .text, .required .uint32],
    ["title", "id"]⟩

/-- A sheet with a title. -/
def titled : Record :=
  [("id", .present (.int64 7)), ("title", .present (.text "map")), ("margin", .present (.uint32 2))]

end Sample

/-- The number and the title of a sheet are picked in this order, and the number once only. -/
theorem values_picked_sheet :
    ((Sample.sheet.values Sample.titled).map (·.1)).Nodup ∧
    Sample.sheet.valuesOf Sample.titled [Sample.sheetNumber, Sample.sheetTitle] =
      .ok [.bigInt (some 7), .string (some "map")] ∧
    Sample.sheet.valuesOf Sample.titled
        [Sample.sheetNumber, Sample.sheetTitle, Sample.sheetNumber, Sample.sheetMargin] =
      .error (.invalidOperation (.missingValue "Sheet" "id")) := by
  have hlaid : Sample.sheet.values Sample.titled =
      [("title", .string (some "map")), ("id", .bigInt (some 7))] := rfl
  have hlisted : ((Sample.sheet.values Sample.titled).map (·.1)).Nodup := by decide
  refine ⟨hlisted, ?_, ?_⟩
  · have h := values_picked "Sheet" hlisted [Sample.sheetNumber, Sample.sheetTitle]
    obtain ⟨vs, hvs⟩ := h.1.mpr ⟨by decide, by decide⟩
    obtain ⟨v, _, hv, hrest, rfl⟩ := List.forall₂_cons_left_iff.mp (h.2.1 vs hvs)
    obtain ⟨w, _, hw, hnil, rfl⟩ := List.forall₂_cons_left_iff.mp hrest
    obtain rfl := List.forall₂_nil_left_iff.mp hnil
    obtain rfl : v = .bigInt (some 7) := by simpa [hlaid, Sample.sheetNumber] using hv
    obtain rfl : w = .string (some "map") := by simpa [hlaid, Sample.sheetTitle] using hw
    exact hvs
  · have h := values_picked "Sheet" hlisted
      [Sample.sheetNumber, Sample.sheetTitle, Sample.sheetNumber, Sample.sheetMargin]
    obtain ⟨before, p, after, hsplit, hbefore, hp, herror⟩ :=
      h.2.2 fun hserved => absurd (h.1.mp hserved).1 (by decide)
    -- the number and the title are listed, and nothing after the second number comes first
    rcases before with _ | ⟨first, _ | ⟨second, _ | ⟨third, more⟩⟩⟩ <;>
      simp only [List.nil_append, List.cons_append, List.cons.injEq] at hsplit
    · obtain ⟨rfl, -⟩ := hsplit
      exact absurd hp (by decide)
    · obtain ⟨rfl, rfl, -⟩ := hsplit
      exact absurd hp (by decide)
    · obtain ⟨rfl, rfl, rfl, -⟩ := hsplit
      exact herror
    · obtain ⟨rfl, rfl, rfl, -⟩ := hsplit
      exact absurd hbefore.1 (by simp [Sample.sheetNumber])

end RowMapper
