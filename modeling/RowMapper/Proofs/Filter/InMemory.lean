import RowMapper.Proofs.Filter.Where

/-!
# Filters in memory

A filter of comparisons, joined by `AND` and `OR`, can be evaluated without a database, on the
contents of an entity.  Its clause is true of the rows that are found in this way.

* `Predicate.Comparing` — the predicates: comparisons of a property with a value, on either side;
* `Predicate.holds` — the evaluation in memory, where `ofNull` says what becomes of a property
  without a value;
* `Interpretation.Agrees`, `Descriptor.Stores` — a database that compares values as they are
  compared in memory, and a row that has the contents of an entity;
* `clause_true_iff` — the rows of the clause are those on which the predicate holds, if no
  comparison holds of a property without a value;
* `unequal_unanswered` — such a property is unequal to every value in memory, and its row is not
  among those of the clause.

### Two and three truth values

What is unknown to the database is false in memory.  That is enough because nothing is negated: an
`AND` is true only of two truths, an `OR` of at least one, and neither asks why an operand is not.
-/

namespace RowMapper

open Sql

/-! ### The predicates and their evaluation -/

/-- Comparisons of a stored property with a value that is not NULL, joined by `AND` and `OR`. -/
inductive Predicate.Comparing (descriptor : Descriptor) : Predicate → Prop where
  | left (op : Comparison) {p : Property} {value : Value} {d : Datum}
      (hp : p ∈ descriptor.properties) (hd : value.toDatum = .ok d) (hvalue : d.isNull = false) :
      Comparing descriptor (.binary (.compare op) (.column p.name) (.constant value))
  | right (op : Comparison) {p : Property} {value : Value} {d : Datum}
      (hp : p ∈ descriptor.properties) (hd : value.toDatum = .ok d) (hvalue : d.isNull = false) :
      Comparing descriptor (.binary (.compare op) (.constant value) (.column p.name))
  | and {left right : Predicate} (hleft : Comparing descriptor left)
      (hright : Comparing descriptor right) : Comparing descriptor (.binary .and left right)
  | or {left right : Predicate} (hleft : Comparing descriptor left)
      (hright : Comparing descriptor right) : Comparing descriptor (.binary .or left right)

namespace Predicate

section Holds

variable (ofNull : Comparison → Bool) (compares : Comparison → Datum → Datum → Bool)
  (contents : String → Datum)

/-- Whether a predicate holds of an entity with the given contents.  Of a property without a value,
`ofNull` says whether a comparison holds. -/
def holds : Predicate → Bool
  | .binary .and left right => left.holds && right.holds
  | .binary .or left right => left.holds || right.holds
  | .binary (.compare op) (.column property) (.constant value) =>
    if (contents property).isNull then ofNull op
    else compares op (contents property) (boundDatum value)
  | .binary (.compare op) (.constant value) (.column property) =>
    if (contents property).isNull then ofNull op
    else compares op (boundDatum value) (contents property)
  | _ => false

end Holds

/-- The properties that a predicate says are unequal to something. -/
def unequal : Predicate → List String
  | .binary .and left right => left.unequal ++ right.unequal
  | .binary .or left right => left.unequal ++ right.unequal
  | .binary (.compare .ne) (.column property) (.constant _) => [property]
  | .binary (.compare .ne) (.constant _) (.column property) => [property]
  | _ => []

/-- In memory a property without a value is unequal to every value, and neither equal to it nor less
nor greater. -/
def noneUnequal (op : Comparison) : Bool := op = .ne

/-- In a database no comparison of it holds. -/
def noneUnknown (_ : Comparison) : Bool := false

end Predicate

/-! ### What the database has to do with it -/

/-- A database compares two values as they are compared in memory, and knows nothing of NULL. -/
structure Sql.Interpretation.Agrees (interpretation : Interpretation)
    (compares : Comparison → Datum → Datum → Bool) : Prop where
  nullUnknown : interpretation.NullUnknown
  values (op : Comparison) (a b : Datum) : a.isNull = false → b.isNull = false →
    (interpretation.holds op a b = .yes ↔ compares op a b = true)

/-- A row has the contents of the stored properties of an entity in their columns. -/
def Descriptor.Stores (descriptor : Descriptor) (contents cells : String → Datum) : Prop :=
  ∀ p ∈ descriptor.properties, cells p.column = contents p.name

section Agreement

variable {interpretation : Interpretation} {compares : Comparison → Datum → Datum → Bool}

/-- A comparison holds of a row if its property has a value that compares so. -/
theorem Sql.Interpretation.Agrees.yes_iff (h : interpretation.Agrees compares) (op : Comparison)
    {a b : Datum} :
    interpretation.holds op a b = .yes ↔
      a.isNull = false ∧ b.isNull = false ∧ compares op a b = true := by
  constructor
  · intro hyes
    obtain ⟨ha, hb⟩ := h.nullUnknown.isNull_eq_false hyes
    exact ⟨ha, hb, (h.values op a b ha hb).mp hyes⟩
  · rintro ⟨ha, hb, hcompares⟩
    exact (h.values op a b ha hb).mpr hcompares

end Agreement

namespace Filter

variable {filter : Filter}

/-- The row of an entity has its content for a stored property. -/
theorem cell?_of_stores {contents cells : String → Datum}
    (hstores : filter.descriptor.Stores contents cells) {p : Property}
    (hp : p ∈ filter.descriptor.properties) :
    filter.cell? cells p.name = some (contents p.name) := by
  have hfound : (filter.descriptor.properties.find? (·.name == p.name)).isSome := by
    rw [List.find?_isSome]
    exact ⟨p, hp, beq_self_eq_true p.name⟩
  obtain ⟨q, hfind⟩ := Option.isSome_iff_exists.mp hfound
  have hname : q.name = p.name := by simpa using List.find?_some hfind
  rw [cell?, hfind, Option.map_some, hstores q (List.mem_of_find?_eq_some hfind), hname]

/-- A comparison with a value compiles to a comparison. -/
theorem exists_of_value {p : Property} {value : Value} {d : Datum}
    (hp : p ∈ filter.descriptor.properties) (hd : value.toDatum = .ok d)
    (hvalue : d.isNull = false) (op : Comparison) :
    ∃ c, filter.comparison p.name op value = .ok c ∧ Bindable (values c.tokens) := by
  obtain ⟨column, hcolumn⟩ := exists_column hp
  refine ⟨.compare column op value, ?_, fun v hv => ?_⟩
  · have hnull : Filter.isNull value = .ok false := by
      rw [Filter.isNull, hd, ← hvalue]
      rfl
    rw [Filter.comparison, hcolumn, hnull]
    cases op <;> rfl
  · obtain rfl := List.mem_singleton.mp hv
    exact ⟨d, hd⟩

/-- **A predicate of comparisons compiles**, and all its values can be bound. -/
theorem exists_compile {e : Predicate} (he : e.Comparing filter.descriptor) :
    ∃ c, (∀ kind, filter.compileNode kind e = .ok c) ∧ Bindable (values c.tokens) := by
  induction he with
  | left op hp hd hvalue =>
      obtain ⟨c, hc, hbind⟩ := exists_of_value hp hd hvalue op
      refine ⟨c, fun kind => ?_, hbind⟩
      rw [compileNode]
      exact hc
  | right op hp hd hvalue =>
      obtain ⟨c, hc, hbind⟩ := exists_of_value hp hd hvalue op.flip
      refine ⟨c, fun kind => ?_, hbind⟩
      rw [compileNode]
      exact hc
  | and _ _ ihl ihr =>
      obtain ⟨l, hl, hbindl⟩ := ihl
      obtain ⟨r, hr, hbindr⟩ := ihr
      refine ⟨.join .and l r, fun kind => ?_, ?_⟩
      · rw [compileNode, hl, hr]
        rfl
      · rw [values_join]
        exact hbindl.append hbindr
  | or _ _ ihl ihr =>
      obtain ⟨l, hl, hbindl⟩ := ihl
      obtain ⟨r, hr, hbindr⟩ := ihr
      refine ⟨.join .or l r, fun kind => ?_, ?_⟩
      · rw [compileNode, hl, hr]
        rfl
      · rw [values_join]
        exact hbindl.append hbindr

section Rows

variable {interpretation : Interpretation} {compares : Comparison → Datum → Datum → Bool}
  {contents cells : String → Datum}

/-- Next to a value, a comparison is what the database says of it. -/
theorem againstConstant_of_value {constant : Datum} (h : constant.isNull = false) (op : Comparison)
    (cell : Datum) (otherwise : Truth) :
    againstConstant op cell constant otherwise = otherwise := by
  unfold againstConstant
  rw [h]
  cases op <;> rfl

/-- **What a database takes for true holds in memory**, and the other way round, if a property
without a value compares with nothing. -/
theorem exists_truth? (hagrees : interpretation.Agrees compares)
    (hstores : filter.descriptor.Stores contents cells) {e : Predicate}
    (he : e.Comparing filter.descriptor) :
    ∃ t, filter.truth? interpretation cells e = some t ∧
      (t = .yes ↔ e.holds Predicate.noneUnknown compares contents = true) := by
  induction he with
  | @left op p value d hp hd hvalue =>
      refine ⟨interpretation.holds op (contents p.name) d, ?_, ?_⟩
      · rw [truth?, operand?, cell?_of_stores hstores hp, operand?]
        show some (againstConstant op (contents p.name) (boundDatum value) _) = _
        rw [boundDatum_of_ok hd, againstConstant_of_value hvalue]
      · rw [hagrees.yes_iff, Predicate.holds, boundDatum_of_ok hd]
        cases (contents p.name).isNull <;> simp [hvalue, Predicate.noneUnknown]
  | @right op p value d hp hd hvalue =>
      refine ⟨interpretation.holds op d (contents p.name), ?_, ?_⟩
      · rw [truth?, operand?, cell?_of_stores hstores hp, operand?]
        show some (againstConstant op (contents p.name) (boundDatum value) _) = _
        rw [boundDatum_of_ok hd, againstConstant_of_value hvalue]
      · rw [hagrees.yes_iff, Predicate.holds, boundDatum_of_ok hd]
        cases (contents p.name).isNull <;> simp [hvalue, Predicate.noneUnknown]
  | and _ _ ihl ihr =>
      obtain ⟨l, hl, hyesl⟩ := ihl
      obtain ⟨r, hr, hyesr⟩ := ihr
      refine ⟨l.and r, ?_, ?_⟩
      · rw [truth?, hl, hr]
        rfl
      · rw [Truth.and_eq_yes_iff, hyesl, hyesr, Predicate.holds, Bool.and_eq_true]
  | or _ _ ihl ihr =>
      obtain ⟨l, hl, hyesl⟩ := ihl
      obtain ⟨r, hr, hyesr⟩ := ihr
      refine ⟨l.or r, ?_, ?_⟩
      · rw [truth?, hl, hr]
        rfl
      · rw [Truth.or_eq_yes_iff, hyesl, hyesr, Predicate.holds, Bool.or_eq_true]

end Rows

end Filter

/-- The two readings of a property without a value differ only where the predicate says that it is
unequal to something. -/
theorem Predicate.Comparing.holds_noneUnequal {descriptor : Descriptor} {e : Predicate}
    (he : e.Comparing descriptor) {compares : Comparison → Datum → Datum → Bool}
    {contents : String → Datum}
    (h : ∀ property ∈ e.unequal, (contents property).isNull = false) :
    e.holds Predicate.noneUnequal compares contents =
      e.holds Predicate.noneUnknown compares contents := by
  induction he with
  | @left op p value d _ _ _ =>
      rw [Predicate.holds, Predicate.holds]
      cases op with
      | ne => rw [h p.name (by simp [Predicate.unequal]), if_neg Bool.false_ne_true,
          if_neg Bool.false_ne_true]
      | _ => rfl
  | @right op p value d _ _ _ =>
      rw [Predicate.holds, Predicate.holds]
      cases op with
      | ne => rw [h p.name (by simp [Predicate.unequal]), if_neg Bool.false_ne_true,
          if_neg Bool.false_ne_true]
      | _ => rfl
  | and _ _ ihl ihr =>
      rw [Predicate.holds, Predicate.holds,
        ihl fun property hmem => h property (List.mem_append_left _ hmem),
        ihr fun property hmem => h property (List.mem_append_right _ hmem)]
  | or _ _ ihl ihr =>
      rw [Predicate.holds, Predicate.holds,
        ihl fun property hmem => h property (List.mem_append_left _ hmem),
        ihr fun property hmem => h property (List.mem_append_right _ hmem)]

/-- **The rows of a filter are those on which it holds in memory**, as long as no comparison holds
of a property without a value (`Predicate.noneUnknown`).  A predicate of comparisons
(`Predicate.Comparing`), joined by `AND` and `OR` in whatever way, compiles; its clause
(`clauseTruth?`) is true of the row of an entity (`Descriptor.Stores`) exactly when
`Predicate.holds` of the entity.  If the properties that it says are unequal to something
(`Predicate.unequal`) have values, it makes no difference if those without a value are taken to be
unequal to everything (`Predicate.noneUnequal`). -/
theorem Filter.clause_true_iff (filter : Filter) {e : Predicate}
    (he : e.Comparing filter.descriptor) (hplain : filter.PlainColumns) :
    ∃ c, filter.compile e = .ok c ∧
      ∀ (interpretation : Interpretation) (compares : Comparison → Datum → Datum → Bool)
        (contents cells : String → Datum),
        interpretation.Agrees compares → filter.descriptor.Stores contents cells →
        (clauseTruth? filter.dialect [c] interpretation cells = some .yes ↔
          e.holds Predicate.noneUnknown compares contents = true) ∧
        ((∀ property ∈ e.unequal, (contents property).isNull = false) →
          (clauseTruth? filter.dialect [c] interpretation cells = some .yes ↔
            e.holds Predicate.noneUnequal compares contents = true)) := by
  obtain ⟨c, hcompile, hbind⟩ := exists_compile he
  obtain ⟨hreadable, htruth⟩ := compile_spec (hcompile e.kind)
  refine ⟨c, hcompile e.kind, fun interpretation compares contents cells hagrees hstores => ?_⟩
  have hclause : clauseTruth? filter.dialect [c] interpretation cells = some .yes ↔
      e.holds Predicate.noneUnknown compares contents = true := by
    obtain ⟨t, ht, hyes⟩ := exists_truth? hagrees hstores he
    rw [clauseTruth?_of_readable rfl (hreadable hplain) hbind, ← htruth, ht, ← hyes,
      Option.some.injEq]
  refine ⟨hclause, fun hunequal => ?_⟩
  rw [he.holds_noneUnequal hunequal]
  exact hclause

/-! ### Tasks with and without a rank -/

namespace Sample

/-- Where the properties of tasks are looked up. -/
def taskFilter : Filter := ⟨.build pluralTable task, .sqlite⟩

theorem rank_mem : rank ∈ taskFilter.descriptor.properties := by
  decide

/-- The contents of a task, in memory and in its row. -/
def taskCells (rank : Option Int64) (name : String) : Datum :=
  if name = "rank" then .int64 rank else .int64 (some 1)

theorem stores_taskCells (rank : Option Int64) :
    taskFilter.descriptor.Stores (taskCells rank) (taskCells rank) := by
  intro p hp
  rcases List.mem_cons.mp hp with rfl | hp
  · rfl
  · obtain rfl := List.mem_singleton.mp hp
    rfl

/-- Numbers are compared in memory as the database compares them. -/
def comparesByNumber (op : Comparison) (a b : Datum) : Bool := byNumber.holds op a b = .yes

theorem agrees_byNumber : byNumber.Agrees comparesByNumber where
  nullUnknown := nullUnknown_byNumber
  values _ _ _ _ _ := decide_eq_true_iff.symm

/-- The rank is not 7. -/
def notSeventh : Predicate :=
  .binary (.compare .ne) (.column rank.name) (.constant (.bigInt (some 7)))

theorem comparing_notSeventh : notSeventh.Comparing taskFilter.descriptor :=
  .left .ne rank_mem rfl rfl

/-- The rank is less than 3, or else it is 5 or more and not 7. -/
def early : Predicate :=
  .binary .or (.binary (.compare .gt) (.constant (.bigInt (some 3))) (.column rank.name))
    (.binary .and (.binary (.compare .gte) (.column rank.name) (.constant (.bigInt (some 5))))
      notSeventh)

theorem comparing_early : early.Comparing taskFilter.descriptor :=
  .or (.right .gt rank_mem rfl rfl)
    (.and (.left .gte rank_mem rfl rfl) comparing_notSeventh)

end Sample

/-- Tasks of early ranks are found, and no task without a rank. -/
theorem Filter.clause_true_iff_early :
    ∃ c, Sample.taskFilter.compile Sample.early = .ok c ∧
      clauseTruth? .sqlite [c] Sample.byNumber (Sample.taskCells (some 2)) = some .yes ∧
      clauseTruth? .sqlite [c] Sample.byNumber (Sample.taskCells (some 7)) ≠ some .yes ∧
      clauseTruth? .sqlite [c] Sample.byNumber (Sample.taskCells none) ≠ some .yes := by
  obtain ⟨c, hcompile, h⟩ := Sample.taskFilter.clause_true_iff Sample.comparing_early
    fun hdialect => by cases hdialect
  have hrow (rank : Option Int64) := h Sample.byNumber Sample.comparesByNumber
    (Sample.taskCells rank) (Sample.taskCells rank) Sample.agrees_byNumber
    (Sample.stores_taskCells rank)
  refine ⟨c, hcompile, (hrow (some 2)).1.mpr (by decide), ?_, ?_⟩
  · exact fun hyes => absurd ((hrow (some 7)).2 (by decide) |>.mp hyes) (by decide)
  · exact fun hyes => absurd ((hrow none).1.mp hyes) (by decide)

/-- A task without a rank has another rank than 7 in memory, and its row is not among those of the
clause, which says nothing of it. -/
theorem Filter.unequal_unanswered :
    Sample.notSeventh.Comparing Sample.taskFilter.descriptor ∧
      Sample.byNumber.Agrees Sample.comparesByNumber ∧
      Sample.taskFilter.descriptor.Stores (Sample.taskCells none) (Sample.taskCells none) ∧
      Sample.notSeventh.holds Predicate.noneUnequal Sample.comparesByNumber
        (Sample.taskCells none) = true ∧
      ∃ c, Sample.taskFilter.compile Sample.notSeventh = .ok c ∧
        clauseTruth? .sqlite [c] Sample.byNumber (Sample.taskCells none) = some .unknown := by
  refine ⟨Sample.comparing_notSeventh, Sample.agrees_byNumber, Sample.stores_taskCells none,
    by decide, .compare (.quoted "rank") .ne (.bigInt (some 7)), rfl, ?_⟩
  have hreadable : (Condition.compare (.quoted "rank") .ne (.bigInt (some 7))).Readable .sqlite :=
    ⟨"rank", rfl, fun hdialect => by cases hdialect⟩
  have hbind : Bindable (values
      (Condition.compare (.quoted "rank") .ne (.bigInt (some 7))).tokens) := by
    intro v hv
    obtain rfl := List.mem_singleton.mp hv
    exact ⟨_, rfl⟩
  rw [clauseTruth?_of_readable rfl hreadable hbind]
  rfl

end RowMapper
