import RowMapper.Filter
import RowMapper.Proofs.Outcome
import RowMapper.Proofs.Sql.Meaning

/-!
# What a predicate means

`Filter.truth?` says directly when a predicate is true of a row, without any SQL.  The
condition that it is compiled to says the same.

* `Operand`, `Filter.operand?` — what stands next to a comparison or a method;
* `Filter.truth?` — the meaning of a predicate, by recursion on the tree; `none` where a
  tree has none;
* `Filter.Means` — a condition can be read, and says what a predicate says;
* `Filter.MeansOf` — the same of a condition on one property;
* `Filter.compile_spec` — so does the condition of every predicate that compiles.

### What the direct meaning leaves to the database

How two values compare and how a pattern is matched is up to an `Interpretation`, the same
on both sides.  Everything else is said here: which operand is on which side, what becomes
of NULL, what a list and an empty list mean.  A comparison is taken in the direction in
which it is written, although the compiled one always has its column on the left.
-/

namespace RowMapper

open Sql

/-- What stands next to a comparison or a method. -/
inductive Operand where
  /-- The content of a property in the row at hand. -/
  | cell (d : Datum)
  | constant (value : Value)
  | list (values : List Value)

/-- The text that a method looks for. -/
def Value.likeText? : Value → Option String
  | .string s => s
  | .char c => c.map String.singleton
  | _ => none

/-- A comparison of a cell with a constant, of which `otherwise` is the outcome between values.
Equality with NULL asks whether there is a value. -/
def againstConstant (comparison : Comparison) (cell constant : Datum) (otherwise : Truth) : Truth :=
  match comparison, constant.isNull with
  | .eq, true => nullTruth cell
  | .ne, true => (nullTruth cell).not
  | _, _ => otherwise

namespace Filter

/-- The columns of all properties are plain names where names stay bare. -/
def PlainColumns (filter : Filter) : Prop :=
  filter.dialect = .firebird → ∀ p ∈ filter.descriptor.properties, Plain p.column

/-- The datum of a property in a row with the given cells. -/
def cell? (filter : Filter) (cells : String → Datum) (property : String) : Option Datum :=
  (filter.descriptor.properties.find? (·.name == property)).map fun p => cells p.column

/-- What a node stands for, next to a comparison or a method. -/
def operand? (filter : Filter) (cells : String → Datum) : Predicate → Option Operand
  | .convert operand => filter.operand? cells operand
  | .column property => (filter.cell? cells property).map .cell
  | .constant value => some (.constant value)
  | .list values => some (.list values)
  | _ => none

/-- What a method says of its operands. -/
def callTruth? (filter : Filter) (interpretation : Interpretation) :
    Method → Operand → Operand → Option Truth
  | .contains, .list values, .cell d =>
    some (.anyOf (values.map fun value => interpretation.holds .eq d (boundDatum value)))
  | .equals, .cell d, .constant value =>
    let constant := boundDatum value
    some (againstConstant .eq d constant (interpretation.holds .eq d constant))
  | .startsWith, .cell d, .constant value => value.likeText?.map fun text => matching d
      (filter.dialect.escapeLike text ++ "%")
  | .endsWith, .cell d, .constant value => value.likeText?.map fun text => matching d
      ("%" ++ filter.dialect.escapeLike text)
  | .contains, .cell d, .constant value => value.likeText?.map fun text => matching d
      ("%" ++ filter.dialect.escapeLike text ++ "%")
  | _, _, _ => none
where
  /-- Whether a datum matches a pattern. -/
  matching (d : Datum) (pattern : String) : Truth :=
    interpretation.like d (.str (some pattern)) filter.dialect.escapeChar?

/-- What a predicate says about a row with the given cells. -/
def truth? (filter : Filter) (interpretation : Interpretation) (cells : String → Datum) :
    Predicate → Option Truth
  | .convert operand => filter.truth? interpretation cells operand
  | .binary .and left right => do
    return (← filter.truth? interpretation cells left).and
      (← filter.truth? interpretation cells right)
  | .binary .or left right => do
    return (← filter.truth? interpretation cells left).or
      (← filter.truth? interpretation cells right)
  | .binary (.compare op) left right =>
    match filter.operand? cells left, filter.operand? cells right with
    | some (.cell d), some (.constant value) =>
      let constant := boundDatum value
      some (againstConstant op d constant (interpretation.holds op d constant))
    | some (.constant value), some (.cell d) =>
      let constant := boundDatum value
      some (againstConstant op d constant (interpretation.holds op constant d))
    | _, _ => none
  | .not operand => (filter.truth? interpretation cells operand).map Truth.not
  | .call method target [arg] => do
    filter.callTruth? interpretation method (← filter.operand? cells target)
      (← filter.operand? cells arg)
  | _ => none

/-- A condition says what a predicate says. -/
structure Means (filter : Filter) (predicate : Predicate) (condition : Condition) : Prop where
  readable : filter.PlainColumns → condition.Readable filter.dialect
  truth (interpretation : Interpretation) (cells : String → Datum) :
    filter.truth? interpretation cells predicate = some (condition.truth interpretation cells)

/-! ### Operands -/

variable {filter : Filter}

@[simp] theorem operand?_unwrap (cells : String → Datum) (e : Predicate) :
    filter.operand? cells e.unwrap = filter.operand? cells e := by
  fun_induction Predicate.unwrap e with
  | case1 operand ih => rw [ih, operand?]
  | case2 node => rfl

@[simp] theorem truth?_unwrap (interpretation : Interpretation) (cells : String → Datum)
    (e : Predicate) :
    filter.truth? interpretation cells e.unwrap = filter.truth? interpretation cells e := by
  fun_induction Predicate.unwrap e with
  | case1 operand ih => rw [ih, truth?]
  | case2 node => rfl

/-- The column of a property holds its datum. -/
theorem exists_of_column {property : String} {column : Ident}
    (h : filter.column property = .ok column) :
    (filter.PlainColumns → ReadableName filter.dialect column) ∧
      ∀ cells, filter.cell? cells property = some (cells column.name) := by
  obtain ⟨p, hproperty, h⟩ := exists_of_bind_eq_ok h
  obtain rfl := Except.ok.inj h
  unfold Descriptor.property at hproperty
  split at hproperty
  · rename_i found hfind
    obtain rfl := Except.ok.inj hproperty
    refine ⟨fun hplain => ⟨found.column, rfl, fun hbare => ?_⟩, fun cells => ?_⟩
    · exact hplain hbare found (List.mem_of_find?_eq_some hfind)
    · rw [cell?, hfind, name_column, Option.map_some]
  · cases hproperty

/-- The column of a stored property is found. -/
theorem exists_column {p : Property} (hp : p ∈ filter.descriptor.properties) :
    ∃ column, filter.column p.name = .ok column := by
  have hfound : (filter.descriptor.properties.find? (·.name == p.name)).isSome := by
    rw [List.find?_isSome]
    exact ⟨p, hp, beq_self_eq_true p.name⟩
  obtain ⟨q, hfind⟩ := Option.isSome_iff_exists.mp hfound
  refine ⟨filter.dialect.column q.column, ?_⟩
  rw [Filter.column, Descriptor.property, hfind]
  rfl

theorem operand?_of_column {e : Predicate} {property : String} (he : e.unwrap = .column property)
    (cells : String → Datum) :
    filter.operand? cells e = (filter.cell? cells property).map .cell := by
  rw [← operand?_unwrap, he, operand?]

theorem operand?_of_constant {e : Predicate} {value : Value} (he : e.unwrap = .constant value)
    (cells : String → Datum) : filter.operand? cells e = some (.constant value) := by
  rw [← operand?_unwrap, he, operand?]

theorem operand?_of_list {e : Predicate} {vs : List Value} (he : e.unwrap = .list vs)
    (cells : String → Datum) : filter.operand? cells e = some (.list vs) := by
  rw [← operand?_unwrap, he, operand?]

/-! ### Conditions on one property -/

/-- A condition says of a row what is said of the datum of a property. -/
structure MeansOf (filter : Filter) (property : String) (condition : Condition)
    (outcome : Interpretation → Datum → Truth) : Prop where
  readable : filter.PlainColumns → condition.Readable filter.dialect
  truth (interpretation : Interpretation) (cells : String → Datum) :
    (filter.cell? cells property).map (outcome interpretation) =
      some (condition.truth interpretation cells)

/-- The same is said of a predicate that looks at the datum only. -/
theorem MeansOf.means {property : String} {c : Condition}
    {outcome : Interpretation → Datum → Truth} (h : MeansOf filter property c outcome)
    {e : Predicate} (he : ∀ interpretation cells, filter.truth? interpretation cells e =
      (filter.cell? cells property).map (outcome interpretation)) : Means filter e c :=
  ⟨h.readable, fun interpretation cells => (he interpretation cells).trans (h.truth _ _)⟩

/-! ### Comparisons -/

/-- NULL is asked for on either side. -/
theorem againstConstant_flip (op : Comparison) (cell constant : Datum) (otherwise : Truth) :
    againstConstant op.flip cell constant otherwise =
      againstConstant op cell constant otherwise := by
  cases op <;> rfl

/-- The condition of a comparison, once its column and its datum are known. -/
def comparisonCondition (column : Ident) (op : Comparison) (value : Value) (d : Datum) :
    Condition :=
  match op, d.isNull with
  | .eq, true => .isNull column
  | .ne, true => .isNotNull column
  | op, _ => .compare column op value

theorem exists_of_comparison {property : String} {op : Comparison} {value : Value}
    {c : Condition} (h : filter.comparison property op value = .ok c) :
    ∃ column d, filter.column property = .ok column ∧ value.toDatum = .ok d ∧
      c = comparisonCondition column op value d := by
  obtain ⟨column, hcolumn, h⟩ := exists_of_bind_eq_ok h
  obtain ⟨null, hnull, h⟩ := exists_of_bind_eq_ok h
  obtain ⟨d, hbind, rfl⟩ := exists_of_map_eq_ok hnull
  refine ⟨column, d, hcolumn, hbind, ?_⟩
  cases op <;> cases hd : d.isNull <;> rw [hd] at h <;>
    simp [comparisonCondition, hd, ← Except.ok.inj h]

theorem isNull_of_toDatum {value : Value} {d : Datum} (h : value.toDatum = .ok d) :
    isNull value = .ok d.isNull := by
  rw [isNull, h]
  rfl

/-- The condition of a comparison whose column and datum are known. -/
theorem comparison_of_toDatum {property : String} {op : Comparison} {value : Value}
    {column : Ident} {d : Datum} (hcolumn : filter.column property = .ok column)
    (hbind : value.toDatum = .ok d) :
    filter.comparison property op value = .ok (comparisonCondition column op value d) := by
  unfold comparison comparisonCondition
  rw [hcolumn, isNull_of_toDatum hbind]
  cases op <;> cases d.isNull <;> rfl

/-- What a comparison with a value says of a datum. -/
def againstValue (op : Comparison) (value : Value) (interpretation : Interpretation)
    (d : Datum) : Truth :=
  againstConstant op d (boundDatum value) (interpretation.holds op d (boundDatum value))

/-- The condition of a comparison says what the comparison says, NULL included. -/
theorem comparison_spec {property : String} {op : Comparison} {value : Value} {c : Condition}
    (h : filter.comparison property op value = .ok c) :
    MeansOf filter property c (againstValue op value) := by
  obtain ⟨column, d, hcolumn, hbind, rfl⟩ := exists_of_comparison h
  obtain ⟨hreadable, hcell⟩ := exists_of_column hcolumn
  refine ⟨fun hplain => ?_, fun interpretation cells => ?_⟩
  · unfold comparisonCondition
    split <;> exact hreadable hplain
  · rw [hcell cells, Option.map_some, againstValue, boundDatum_of_ok hbind]
    cases op <;> cases hnull : d.isNull <;>
      simp [comparisonCondition, againstConstant, hnull, Condition.truth, boundDatum_of_ok hbind]

/-! ### Methods -/

/-- A method looks for the text of its only argument, a constant. -/
theorem exists_of_likeText {method : Method} {args : List Predicate} {text : String}
    (h : likeText method args = .ok text) :
    ∃ arg value, args = [arg] ∧ arg.unwrap = .constant value ∧ value.likeText? = some text := by
  unfold likeText at h
  split at h
  · rename_i arg
    split at h
    · rename_i s harg
      exact ⟨arg, .string (some s), rfl, harg, congrArg some (Except.ok.inj h)⟩
    · rename_i s harg
      exact ⟨arg, .char (some s), rfl, harg, congrArg some (Except.ok.inj h)⟩
    all_goals cases h
  · cases h

/-- Whether a datum is one of some values, or is none of them. -/
def amongValues (vs : List Value) (negated : Bool) (interpretation : Interpretation)
    (d : Datum) : Truth :=
  let found := Truth.anyOf (vs.map fun value => interpretation.holds .eq d (boundDatum value))
  if negated then found.not else found

/-- The condition of membership says whether the property is in the list. -/
theorem membership_spec {vs : List Value} {args : List Predicate} {negated : Bool}
    {c : Condition} (h : filter.membership vs args negated = .ok c) :
    ∃ member property, args = [member] ∧ member.unwrap = .column property ∧
      MeansOf filter property c (amongValues vs negated) := by
  unfold membership at h
  split at h
  · rename_i member
    split at h
    · rename_i property hmember
      obtain ⟨column, hcolumn, hlist⟩ := exists_of_bind_eq_ok h
      obtain ⟨hreadable, hcell⟩ := exists_of_column hcolumn
      refine ⟨member, property, rfl, hmember, ?_⟩
      -- the empty list has a text of its own, which names no column
      split at hlist <;> obtain rfl := Except.ok.inj hlist
      · exact ⟨fun _ => .inl rfl, fun _ cells => by rw [hcell cells]; rfl⟩
      · exact ⟨fun _ => .inr rfl, fun _ cells => by rw [hcell cells]; rfl⟩
      · rename_i hvs
        exact ⟨fun hplain => ⟨hreadable hplain, hvs⟩, fun _ cells => by rw [hcell cells]; rfl⟩
      · rename_i hvs
        exact ⟨fun hplain => ⟨hreadable hplain, hvs⟩, fun _ cells => by rw [hcell cells]; rfl⟩
    · cases h
  · cases h

theorem escapeByte_of_escapeChar? (dialect : Dialect) :
    ∀ c ∈ dialect.escapeChar?, Condition.escapeByte c = c := by
  intro c hc
  have hbackslash : c = '\\' := by
    cases dialect <;> first | exact (Option.some.inj hc).symm | cases hc
  subst hbackslash
  decide

/-- The condition of a match says what the method says. -/
theorem like_spec {method : Method} {target : Predicate} {args : List Predicate}
    {property : String} {c : Condition}
    (hmethod : method = .startsWith ∨ method = .endsWith ∨ method = .contains)
    (htarget : target.unwrap = .column property)
    (h : (do
      let text ← likeText method args
      let column ← filter.column property
      return Condition.like column (pattern method (filter.dialect.escapeLike text))
        filter.dialect.escapeChar?) = Except.ok c) :
    Means filter (.call method target args) c := by
  obtain ⟨text, htext, h⟩ := exists_of_bind_eq_ok h
  obtain ⟨column, hcolumn, h⟩ := exists_of_bind_eq_ok h
  obtain rfl := Except.ok.inj h
  obtain ⟨hreadable, hcell⟩ := exists_of_column hcolumn
  obtain ⟨arg, value, rfl, harg, hvalue⟩ := exists_of_likeText htext
  refine ⟨fun hplain => ⟨hreadable hplain, escapeByte_of_escapeChar? _⟩,
    fun interpretation cells => ?_⟩
  rw [truth?, operand?_of_column htarget, hcell cells, operand?_of_constant harg]
  rcases hmethod with rfl | rfl | rfl <;>
    simp [callTruth?, hvalue, callTruth?.matching, pattern, Condition.truth]

/-- The condition of a method call says what the call says. -/
theorem call_spec {method : Method} {target : Predicate} {args : List Predicate} {c : Condition}
    (h : filter.call method target args = .ok c) : Means filter (.call method target args) c := by
  unfold Filter.call at h
  split at h
  · rename_i vs htarget
    obtain ⟨member, property, rfl, hmember, hmeans⟩ := membership_spec h
    refine hmeans.means fun interpretation cells => ?_
    rw [truth?, operand?_of_list htarget, operand?_of_column hmember]
    cases filter.cell? cells property <;> rfl
  · exact like_spec (.inl rfl) ‹_› h
  · exact like_spec (.inr (.inl rfl)) ‹_› h
  · exact like_spec (.inr (.inr rfl)) ‹_› h
  · rename_i property htarget
    split at h
    · rename_i value hargs
      obtain ⟨arg, rfl, harg⟩ : ∃ arg, args = [arg] ∧ arg.unwrap = .constant value := by
        simpa [List.map_eq_singleton_iff] using hargs
      refine (comparison_spec h).means fun interpretation cells => ?_
      rw [truth?, operand?_of_column htarget, operand?_of_constant harg]
      cases filter.cell? cells property <;> rfl
    · cases h
  · cases h

/-! ### Trees -/

/-- Joined conditions mean what joined predicates say. -/
theorem Means.join {op : BinaryOp} {connective : Connective} {left right : Predicate}
    {l r : Condition} (hl : Means filter left l) (hr : Means filter right r)
    (h : op = .and ∧ connective = .and ∨ op = .or ∧ connective = .or) :
    Means filter (.binary op left right) (.join connective l r) := by
  refine ⟨fun hplain => ⟨hl.readable hplain, hr.readable hplain⟩, fun interpretation cells => ?_⟩
  rcases h with ⟨rfl, rfl⟩ | ⟨rfl, rfl⟩
  · rw [truth?, hl.truth, hr.truth]
    rfl
  · rw [truth?, hl.truth, hr.truth]
    rfl

/-- **A compiled predicate means what the tree says.** -/
theorem compileNode_spec {kind : String} {e : Predicate} {c : Condition}
    (h : filter.compileNode kind e = .ok c) : Means filter e c := by
  fun_induction compileNode filter kind e generalizing c with
  | case1 kind operand ih =>
      obtain ⟨hreadable, htruth⟩ := ih h
      exact ⟨hreadable, fun interpretation cells => by rw [truth?, htruth]⟩
  | case2 kind left right ihl ihr =>
      obtain ⟨l, hl, h⟩ := exists_of_bind_eq_ok h
      obtain ⟨r, hr, h⟩ := exists_of_bind_eq_ok h
      obtain rfl := Except.ok.inj h
      exact (ihl hl).join (ihr hr) (.inl ⟨rfl, rfl⟩)
  | case3 kind left right ihl ihr =>
      obtain ⟨l, hl, h⟩ := exists_of_bind_eq_ok h
      obtain ⟨r, hr, h⟩ := exists_of_bind_eq_ok h
      obtain rfl := Except.ok.inj h
      exact (ihl hl).join (ihr hr) (.inr ⟨rfl, rfl⟩)
  | case4 kind op left right property value hright hleft =>
      refine (comparison_spec h).means fun interpretation cells => ?_
      rw [truth?, operand?_of_column hleft, operand?_of_constant hright]
      cases filter.cell? cells property <;> rfl
  | case5 kind op left right value property hright hleft =>
      -- the constant was written on the left, so the comparison has been turned round
      refine (comparison_spec h).means fun interpretation cells => ?_
      rw [truth?, operand?_of_constant hleft, operand?_of_column hright]
      cases filter.cell? cells property with
      | none => rfl
      | some d =>
          rw [Option.map_some, Option.map_some, againstValue, interpretation.holds_flip,
            againstConstant_flip]
  | case8 kind operand target args hoperand vs htarget =>
      obtain ⟨member, property, rfl, hmember, hmeans⟩ := membership_spec h
      refine hmeans.means fun interpretation cells => ?_
      rw [truth?, ← truth?_unwrap, hoperand, truth?, operand?_of_list htarget,
        operand?_of_column hmember]
      cases filter.cell? cells property <;> rfl
  | case11 kind method target args => exact call_spec h
  | _ => cases h

/-- The condition of a predicate says what the predicate says. -/
theorem compile_spec {e : Predicate} {c : Condition} (h : filter.compile e = .ok c) :
    Means filter e c :=
  compileNode_spec h

end Filter

end RowMapper
