import RowMapper.Proofs.Filter.Conversion

/-!
# Which predicates can be turned into SQL

* `Translatable` — the grammar of the predicates that have a condition, over the properties that are
  stored, written without type conversions;
* `Predicate.operands` — the predicates that a tree of ANDs and ORs joins, from left to right;
* `Filter.exists_compileNode_iff` — a predicate has a condition if and only if what is left of it
  without its conversions is in the grammar;
* `Filter.compile_eq_error_iff` — a tree fails as the first of its operands that fails;
* `Filter.accepts_exactly` — both, for the descriptor of an entity type.

### Where the shape is looked at

A node is looked at below its conversions by four steps: a comparison looks at both of its operands,
a call at its target and its only argument, a negation at its operand and at the target of that.  A
call of a list takes only a property and never a constant, a call of a property only a constant and
never a property, and a negation takes no other node than a call of a list.  That a value can be
bound is asked of the constant of a comparison, and not of the values of a list.
-/

namespace RowMapper

open Sql

/-- A text or a character, and not NULL. -/
def Value.isText : Value → Bool
  | string (some _) | char (some _) => true
  | _ => false

/-- The predicates without type conversions that have a condition, if the given properties are
stored. -/
inductive Translatable (stored : List Property) : Predicate → Prop
  | and {left right : Predicate} (hleft : Translatable stored left)
      (hright : Translatable stored right) : Translatable stored (.binary .and left right)
  | or {left right : Predicate} (hleft : Translatable stored left)
      (hright : Translatable stored right) : Translatable stored (.binary .or left right)
  /-- A comparison of a property with a constant. -/
  | compare (op : Comparison) {p : Property} {value : Value} {d : Datum} (hp : p ∈ stored)
      (hvalue : value.toDatum = .ok d) :
      Translatable stored (.binary (.compare op) (.column p.name) (.constant value))
  /-- A comparison of a constant with a property. -/
  | flipped (op : Comparison) {p : Property} {value : Value} {d : Datum} (hp : p ∈ stored)
      (hvalue : value.toDatum = .ok d) :
      Translatable stored (.binary (.compare op) (.constant value) (.column p.name))
  /-- A property that starts with, ends with or contains a text. -/
  | like {method : Method} {p : Property} {value : Value}
      (hmethod : method = .startsWith ∨ method = .endsWith ∨ method = .contains) (hp : p ∈ stored)
      (hvalue : value.isText = true) :
      Translatable stored (.call method (.column p.name) [.constant value])
  | equals {p : Property} {value : Value} {d : Datum} (hp : p ∈ stored)
      (hvalue : value.toDatum = .ok d) :
      Translatable stored (.call .equals (.column p.name) [.constant value])
  /-- A list that contains a property. -/
  | member (values : List Value) {p : Property} (hp : p ∈ stored) :
      Translatable stored (.call .contains (.list values) [.column p.name])
  | notMember (values : List Value) {p : Property} (hp : p ∈ stored) :
      Translatable stored (.not (.call .contains (.list values) [.column p.name]))

namespace Predicate

/-- The operands that a tree joins, of a whole of which the given node is what conversions leave. -/
def operandsOf (whole : Predicate) : Predicate → List Predicate
  | .convert operand => operandsOf whole operand
  | .binary .and left right | .binary .or left right =>
    operandsOf left left ++ operandsOf right right
  | _ => [whole]

/-- The predicates that a tree of ANDs and ORs joins, from left to right; of any other predicate it
is that predicate alone. -/
def operands (e : Predicate) : List Predicate := operandsOf e e

end Predicate

namespace Filter

variable {filter : Filter}

/-! ### Steps that end well -/

theorem exists_column_iff {property : String} :
    (∃ column, filter.column property = .ok column) ↔
      ∃ p ∈ filter.descriptor.properties, p.name = property := by
  constructor
  · rintro ⟨column, h⟩
    obtain ⟨p, hproperty, -⟩ := exists_of_bind_eq_ok h
    unfold Descriptor.property at hproperty
    split at hproperty
    · next found hfind =>
        exact ⟨found, List.mem_of_find?_eq_some hfind, by simpa using List.find?_some hfind⟩
    · cases hproperty
  · rintro ⟨p, hp, rfl⟩
    exact exists_column hp

theorem exists_comparison_iff {property : String} {op : Comparison} {value : Value} :
    (∃ c, filter.comparison property op value = .ok c) ↔
      (∃ p ∈ filter.descriptor.properties, p.name = property) ∧ ∃ d, value.toDatum = .ok d := by
  rw [← exists_column_iff]
  constructor
  · rintro ⟨c, h⟩
    obtain ⟨column, d, hcolumn, hbind, -⟩ := exists_of_comparison h
    exact ⟨⟨column, hcolumn⟩, d, hbind⟩
  · rintro ⟨⟨column, hcolumn⟩, d, hbind⟩
    exact ⟨_, comparison_of_toDatum hcolumn hbind⟩

theorem exists_likeText_iff (method : Method) {args : List Predicate} :
    (∃ text, likeText method args = .ok text) ↔
      ∃ arg value, args = [arg] ∧ arg.unwrap = .constant value ∧ value.isText = true := by
  constructor
  · rintro ⟨text, h⟩
    obtain ⟨arg, value, hargs, harg, hvalue⟩ := exists_of_likeText h
    refine ⟨arg, value, hargs, harg, ?_⟩
    cases value with
    | string s | char s =>
        cases s with
        | none => cases hvalue
        | some s => rfl
    | _ => cases hvalue
  · rintro ⟨arg, value, rfl, harg, hvalue⟩
    cases value with
    | string s =>
        cases s with
        | none => cases hvalue
        | some text => exact ⟨text, by rw [likeText, harg]⟩
    | char c =>
        cases c with
        | none => cases hvalue
        | some c => exact ⟨String.singleton c, by rw [likeText, harg]⟩
    | _ => cases hvalue

theorem exists_membership_iff {values : List Value} {args : List Predicate} {negated : Bool} :
    (∃ c, filter.membership values args negated = .ok c) ↔
      ∃ member, ∃ p ∈ filter.descriptor.properties,
        args = [member] ∧ member.unwrap = .column p.name := by
  constructor
  · rintro ⟨c, h⟩
    unfold membership at h
    split at h
    · next member =>
        split at h
        · next property hmember =>
            obtain ⟨column, hcolumn, -⟩ := exists_of_bind_eq_ok h
            obtain ⟨p, hp, rfl⟩ := exists_column_iff.mp ⟨column, hcolumn⟩
            exact ⟨member, p, hp, rfl, hmember⟩
        · cases h
    · cases h
  · rintro ⟨member, p, hp, rfl, hmember⟩
    obtain ⟨column, hcolumn⟩ := exists_column hp
    simp only [membership, hmember, hcolumn]
    -- an empty list has a condition of its own
    cases values <;> cases negated <;> exact ⟨_, rfl⟩

/-- A join has a condition if both sides have one. -/
theorem exists_join_iff {connective : Connective} {x y : Except Error Condition} :
    (∃ c, (do
      let left ← x
      let right ← y
      return Condition.join connective left right) = Except.ok c) ↔
      (∃ l, x = .ok l) ∧ ∃ r, y = .ok r := by
  constructor
  · rintro ⟨c, h⟩
    obtain ⟨l, hl, h⟩ := exists_of_bind_eq_ok h
    obtain ⟨r, hr, -⟩ := exists_of_bind_eq_ok h
    exact ⟨⟨l, hl⟩, r, hr⟩
  · rintro ⟨⟨l, rfl⟩, r, rfl⟩
    exact ⟨.join connective l r, rfl⟩

/-! ### Nodes -/

/-- A call has a condition if and only if what is left of it without its conversions is in the
grammar. -/
theorem exists_call_iff {method : Method} {target : Predicate} {args : List Predicate} :
    (∃ c, filter.call method target args = .ok c) ↔
      Translatable filter.descriptor.properties
        (.call method target.stripped (args.map Predicate.stripped)) := by
  constructor
  · rintro ⟨c, h⟩
    unfold call at h
    split at h
    · next values htarget =>
        obtain ⟨member, p, hp, rfl, hmember⟩ := exists_membership_iff.mp ⟨c, h⟩
        simp only [List.map_singleton, Predicate.stripped_eq_list.mpr htarget,
          Predicate.stripped_eq_column.mpr hmember]
        exact .member values hp
    iterate 3
      · next property htarget =>
          obtain ⟨text, htext, h⟩ := exists_of_bind_eq_ok h
          obtain ⟨column, hcolumn, -⟩ := exists_of_bind_eq_ok h
          obtain ⟨p, hp, rfl⟩ := exists_column_iff.mp ⟨column, hcolumn⟩
          obtain ⟨arg, value, rfl, harg, hvalue⟩ := (exists_likeText_iff _).mp ⟨text, htext⟩
          simp only [List.map_singleton, Predicate.stripped_eq_column.mpr htarget,
            Predicate.stripped_eq_constant.mpr harg]
          exact .like (by simp) hp hvalue
    · next property htarget =>
        split at h
        · next value hargs =>
            obtain ⟨⟨p, hp, rfl⟩, d, hd⟩ := exists_comparison_iff.mp ⟨c, h⟩
            obtain ⟨arg, rfl, harg⟩ : ∃ arg, args = [arg] ∧ arg.unwrap = .constant value := by
              simpa [List.map_eq_singleton_iff] using hargs
            simp only [List.map_singleton, Predicate.stripped_eq_column.mpr htarget,
              Predicate.stripped_eq_constant.mpr harg]
            exact .equals hp hd
        · cases h
    · cases h
  · generalize ht : target.stripped = stripped, ha : args.map Predicate.stripped = rest
    intro h
    cases h with
    | @like _ p value hmethod hp hvalue =>
        obtain ⟨arg, rfl, harg⟩ := List.map_eq_singleton_iff.mp ha
        have htarget := Predicate.stripped_eq_column.mp ht
        obtain ⟨text, htext⟩ := (exists_likeText_iff method).mpr
          ⟨arg, value, rfl, Predicate.stripped_eq_constant.mp harg, hvalue⟩
        obtain ⟨column, hcolumn⟩ := exists_column hp
        refine ⟨.like column (pattern method (filter.dialect.escapeLike text))
          filter.dialect.escapeChar?, ?_⟩
        rcases hmethod with rfl | rfl | rfl <;> simp only [call, htarget, htext, hcolumn] <;> rfl
    | @equals p value d hp hvalue =>
        obtain ⟨arg, rfl, harg⟩ := List.map_eq_singleton_iff.mp ha
        simp only [call, Predicate.stripped_eq_column.mp ht, List.map_singleton,
          Predicate.stripped_eq_constant.mp harg]
        exact exists_comparison_iff.mpr ⟨⟨p, hp, rfl⟩, d, hvalue⟩
    | @member values p hp =>
        obtain ⟨member, rfl, hmember⟩ := List.map_eq_singleton_iff.mp ha
        simp only [call, Predicate.stripped_eq_list.mp ht]
        exact exists_membership_iff.mpr
          ⟨member, p, hp, rfl, Predicate.stripped_eq_column.mp hmember⟩

/-- **A predicate has a condition if and only if what is left of it without its conversions is in
the grammar.** -/
theorem exists_compileNode_iff (kind : String) (e : Predicate) :
    (∃ c, filter.compileNode kind e = .ok c) ↔
      Translatable filter.descriptor.properties e.stripped := by
  fun_induction compileNode filter kind e with
  | case1 kind operand ih =>
      rw [Predicate.stripped]
      exact ih
  | case2 kind left right ihl ihr =>
      rw [exists_join_iff, ihl, ihr, Predicate.stripped]
      refine ⟨fun h => .and h.1 h.2, fun h => ?_⟩
      cases h with
      | and hleft hright => exact ⟨hleft, hright⟩
  | case3 kind left right ihl ihr =>
      rw [exists_join_iff, ihl, ihr, Predicate.stripped]
      refine ⟨fun h => .or h.1 h.2, fun h => ?_⟩
      cases h with
      | or hleft hright => exact ⟨hleft, hright⟩
  | case4 kind op left right property value hright hleft =>
      rw [exists_comparison_iff, Predicate.stripped, Predicate.stripped_eq_column.mpr hleft,
        Predicate.stripped_eq_constant.mpr hright]
      constructor
      · rintro ⟨⟨p, hp, rfl⟩, d, hd⟩
        exact .compare op hp hd
      · intro h
        cases h with
        | compare _ hp hd => exact ⟨⟨_, hp, rfl⟩, _, hd⟩
  | case5 kind op left right value property hright hleft =>
      rw [exists_comparison_iff, Predicate.stripped, Predicate.stripped_eq_constant.mpr hleft,
        Predicate.stripped_eq_column.mpr hright]
      constructor
      · rintro ⟨⟨p, hp, rfl⟩, d, hd⟩
        exact .flipped op hp hd
      · intro h
        cases h with
        | flipped _ hp hd => exact ⟨⟨_, hp, rfl⟩, _, hd⟩
  | case6 kind op left right hcolumn hconstant =>
      rw [Predicate.stripped]
      generalize hl : left.stripped = l, hr : right.stripped = r
      refine iff_of_false (by rintro ⟨_, ⟨⟩⟩) fun h => ?_
      cases h with
      | compare => exact (hcolumn _ _ (by simpa using hl) (by simpa using hr)).elim
      | flipped => exact (hconstant _ _ (by simpa using hl) (by simpa using hr)).elim
  | case7 kind op left right hand hor hcompare =>
      rw [Predicate.stripped]
      generalize left.stripped = l, right.stripped = r
      refine iff_of_false (by rintro ⟨_, ⟨⟩⟩) fun h => ?_
      cases h with
      | and => exact (hand rfl).elim
      | or => exact (hor rfl).elim
      | compare op | flipped op => exact (hcompare op rfl).elim
  | case8 kind operand target args hoperand values htarget =>
      rw [exists_membership_iff, Predicate.stripped,
        Predicate.stripped_eq_call.mpr ⟨target, args, hoperand, rfl, rfl⟩,
        Predicate.stripped_eq_list.mpr htarget]
      generalize ha : args.map Predicate.stripped = rest
      constructor
      · rintro ⟨member, p, hp, rfl, hmember⟩
        rw [List.map_singleton, Predicate.stripped_eq_column.mpr hmember] at ha
        subst ha
        exact .notMember values hp
      · intro h
        cases h with
        | notMember _ hp =>
            obtain ⟨member, rfl, hmember⟩ := List.map_eq_singleton_iff.mp ha
            exact ⟨member, _, hp, rfl, Predicate.stripped_eq_column.mp hmember⟩
  | case9 kind operand target args hoperand htarget =>
      rw [Predicate.stripped, Predicate.stripped_eq_call.mpr ⟨target, args, hoperand, rfl, rfl⟩]
      generalize ht : target.stripped = t, args.map Predicate.stripped = rest
      refine iff_of_false (by rintro ⟨_, ⟨⟩⟩) fun h => ?_
      cases h with
      | notMember values => exact (htarget values (by simpa using ht)).elim
  | case10 kind operand hoperand =>
      rw [Predicate.stripped]
      generalize ho : operand.stripped = o
      refine iff_of_false (by rintro ⟨_, ⟨⟩⟩) fun h => ?_
      cases h with
      | notMember values =>
          obtain ⟨target, args, hcall, -, -⟩ := Predicate.stripped_eq_call.mp ho
          exact (hoperand target args hcall).elim
  | case11 kind method target args =>
      rw [Predicate.stripped, Predicate.strippedArgs_eq_map]
      exact exists_call_iff
  | case12 | case13 | case14 =>
      rw [Predicate.stripped]
      exact iff_of_false (by rintro ⟨_, ⟨⟩⟩) (by rintro ⟨⟩)

/-! ### Trees of ANDs and ORs -/

end Filter

/-- Two computations fail with the same error, or neither of them fails. -/
def FailsAlike {ε α β : Type} (x : Except ε α) (y : Except ε β) : Prop :=
  ∀ error, x = .error error ↔ y = .error error

namespace FailsAlike

variable {ε α β γ δ : Type}

theorem ok (a : α) (b : β) : FailsAlike (.ok a : Except ε α) (.ok b) := fun _ => ⟨nofun, nofun⟩

theorem error (e : ε) : FailsAlike (.error e : Except ε α) (.error e : Except ε β) := by
  intro error
  rw [Except.error.injEq, Except.error.injEq]

theorem bind {x : Except ε α} {y : Except ε β} {f : α → Except ε γ} {g : β → Except ε δ}
    (h : FailsAlike x y) (hfg : ∀ a b, FailsAlike (f a) (g b)) :
    FailsAlike (x >>= f) (y >>= g) := by
  cases x with
  | ok a =>
      cases y with
      | ok b => exact hfg a b
      | error e => exact nomatch (h e).mpr rfl
  | error e =>
      obtain rfl := (h e).mp rfl
      exact .error e

end FailsAlike

namespace Filter

variable {filter : Filter}

/-- A tree fails as its operands do, compiled one after the other. -/
theorem failsAlike_operandsOf {whole e : Predicate}
    (hwhole : filter.compile whole = filter.compileNode whole.kind e) :
    FailsAlike (filter.compileNode whole.kind e)
      ((Predicate.operandsOf whole e).mapM filter.compile) := by
  fun_induction Predicate.operandsOf whole e with
  | case1 whole operand ih =>
      rw [compileNode] at hwhole ⊢
      exact ih hwhole
  | case2 whole left right ihl ihr | case3 whole left right ihl ihr =>
      rw [List.mapM_append, compileNode]
      exact (ihl rfl).bind fun l ls => (ihr rfl).bind fun r rs => .ok _ _
  | case4 node whole =>
      rw [← hwhole, List.mapM_cons]
      cases filter.compile whole with
      | ok c => exact .ok _ _
      | error e => exact .error e

/-- **A tree fails as the first of its operands that fails.** -/
theorem compile_eq_error_iff {e : Predicate} {error : Error} :
    filter.compile e = .error error ↔ ∃ before operand after,
      e.operands = before ++ operand :: after ∧ (∀ o ∈ before, ∃ c, filter.compile o = .ok c) ∧
        filter.compile operand = .error error := by
  rw [← mapM_eq_error_iff]
  exact failsAlike_operandsOf rfl error

/-- **Just the predicates of the grammar are accepted.**  A predicate over the properties of an
entity type compiles (`Filter.compile`) if and only if what is left of it without its type
conversions (`Predicate.stripped`) is `Translatable` over the properties that are stored.  Any other
predicate fails with the error of the leftmost of its operands (`Predicate.operands`) that does not
compile. -/
theorem accepts_exactly (rule : TableRule) (type : EntityType) (dialect : Dialect)
    (e : Predicate) :
    ((∃ c, compile ⟨.build rule type, dialect⟩ e = .ok c) ↔
      Translatable (type.properties.filter (·.write)) e.stripped) ∧
    ∀ error, compile ⟨.build rule type, dialect⟩ e = .error error ↔
      ∃ before operand after, e.operands = before ++ operand :: after ∧
        (∀ o ∈ before, ∃ c, compile ⟨.build rule type, dialect⟩ o = .ok c) ∧
          compile ⟨.build rule type, dialect⟩ operand = .error error :=
  ⟨exists_compileNode_iff e.kind e, fun _ => compile_eq_error_iff⟩

/-- Conversions around a join do not hide its operands, and those around an operand stay. -/
example : (Predicate.binary .and (.convert (.column "a"))
    (.convert (.binary .or (.column "b") (.column "c")))).operands =
      [.convert (.column "a"), .column "b", .column "c"] := rfl

end Filter

end RowMapper
