import RowMapper.Proofs.Filter.Meaning
import RowMapper.Proofs.Sql.Blank

/-!
# Predicates without their values

What a predicate contributes to the text of a statement does not depend on the values in it.

* `Predicate.shape` — a predicate with its values taken out;
* `Filter.compile_shape` — the condition of a predicate without values is its condition without
  values;
* `Filter.blank_eq_of_shape` — predicates of one shape have the same condition but for values.

### What is left of a value

Equality with NULL has a text of its own, so next to an operator that asks for NULL a value leaves
behind whether it is NULL.  Of a list its length is left.  A method that looks for a text takes
texts only, and of the text nothing is left.
-/

namespace RowMapper

open Sql

/-- Whether NULL as the operand of an operator has a text of its own. -/
def BinaryOp.asksForNull : BinaryOp → Bool
  | compare .eq | compare .ne => true
  | _ => false

/-- Whether NULL as the argument of a method has a text of its own. -/
def Method.asksForNull : Method → Bool
  | equals => true
  | _ => false

/-- What is left of a value: whether it is NULL, if that is asked for. -/
def Value.shape (nulls : Bool) (value : Value) : Value :=
  match nulls, Filter.isNull value with
  | true, .ok true => .string none
  | _, _ => blankValue

namespace Predicate

mutual

/-- A predicate without its values.  Whether they are NULL is kept where it is asked for. -/
def shape (nulls : Bool) : Predicate → Predicate
  | column property => .column property
  | constant value => .constant (value.shape nulls)
  | list values => .list (values.map fun _ => blankValue)
  | binary op left right => .binary op (left.shape op.asksForNull) (right.shape op.asksForNull)
  | not operand => .not (operand.shape false)
  | call method target args => .call method (target.shape false) (shapes method.asksForNull args)
  | convert operand => .convert (operand.shape nulls)

/-- The arguments of a call without their values. -/
def shapes (nulls : Bool) : List Predicate → List Predicate
  | [] => []
  | arg :: rest => arg.shape nulls :: shapes nulls rest

end

theorem unwrap_shape (nulls : Bool) (e : Predicate) :
    (e.shape nulls).unwrap = e.unwrap.shape nulls := by
  fun_induction unwrap e with
  | case1 operand ih => rw [shape, unwrap, ih]
  | case2 node hnode =>
      cases node with
      | convert operand => exact absurd rfl (hnode operand)
      | _ => rfl

end Predicate

namespace Filter

variable {filter : Filter}

/-! ### Conditions on one property -/

/-- What is left of a value can be bound, and is NULL if that is asked for and the value is. -/
theorem exists_toDatum_shape (nulls : Bool) {value : Value} {d : Datum}
    (h : value.toDatum = .ok d) : ∃ d', (value.shape nulls).toDatum = .ok d' ∧
      (nulls = true → d'.isNull = d.isNull) := by
  unfold Value.shape
  rw [isNull_of_toDatum h]
  cases nulls with
  | false => exact ⟨_, rfl, fun h => by cases h⟩
  | true => cases d.isNull <;> exact ⟨_, rfl, fun _ => rfl⟩

/-- A comparison takes notice of NULL only if its operator asks for it. -/
theorem comparison_shape {property : String} {op : Comparison} {value : Value} {c : Condition}
    (h : filter.comparison property op value = .ok c) :
    ∃ d, filter.comparison property op (value.shape (BinaryOp.compare op).asksForNull) = .ok d ∧
      d.blank = c.blank := by
  obtain ⟨column, d, hcolumn, hbind, rfl⟩ := exists_of_comparison h
  obtain ⟨d', hshape, hnull⟩ := exists_toDatum_shape (BinaryOp.compare op).asksForNull hbind
  refine ⟨_, comparison_of_toDatum hcolumn hshape, ?_⟩
  cases op with
  | eq | ne =>
      unfold comparisonCondition
      rw [hnull rfl]
      cases d.isNull <;> rfl
  | _ => rfl

/-- Nothing is left of a text that a method looks for. -/
theorem likeText_shape {method : Method} {args : List Predicate} {text : String}
    (h : likeText method args = .ok text) :
    likeText method (Predicate.shapes false args) = .ok "" := by
  obtain ⟨arg, value, rfl, harg, -⟩ := exists_of_likeText h
  simp only [Predicate.shapes, likeText, Predicate.unwrap_shape, harg, Predicate.shape,
    Value.shape, blankValue]

/-- Of the list of a membership its length is left. -/
theorem membership_shape {vs : List Value} {args : List Predicate} {negated : Bool}
    {c : Condition} (h : filter.membership vs args negated = .ok c) :
    ∃ d, filter.membership (vs.map fun _ => blankValue) (Predicate.shapes false args) negated =
        .ok d ∧ d.blank = c.blank := by
  obtain ⟨member, property, rfl, hmember, -⟩ := membership_spec h
  simp only [membership, Predicate.shapes, Predicate.unwrap_shape, hmember, Predicate.shape] at h ⊢
  obtain ⟨column, hcolumn, h⟩ := exists_of_bind_eq_ok h
  rw [hcolumn]
  cases vs with
  | nil => cases negated <;> exact ⟨_, rfl, congrArg Condition.blank (Except.ok.inj h)⟩
  | cons v vs =>
      cases negated <;> obtain rfl := Except.ok.inj h <;>
        exact ⟨_, rfl, by simp [Condition.blank]⟩

/-- The pattern of a method is a value. -/
theorem like_shape {method : Method} {args : List Predicate} {property : String} {c : Condition}
    (hmethod : method.asksForNull = false) (h : (do
      let text ← likeText method args
      let column ← filter.column property
      return Condition.like column (pattern method (filter.dialect.escapeLike text))
        filter.dialect.escapeChar?) = Except.ok c) :
    ∃ d, (do
      let text ← likeText method (Predicate.shapes method.asksForNull args)
      let column ← filter.column property
      return Condition.like column (pattern method (filter.dialect.escapeLike text))
        filter.dialect.escapeChar?) = Except.ok d ∧ d.blank = c.blank := by
  obtain ⟨text, htext, h⟩ := exists_of_bind_eq_ok h
  obtain ⟨column, hcolumn, h⟩ := exists_of_bind_eq_ok h
  obtain rfl := Except.ok.inj h
  rw [hmethod, likeText_shape htext, hcolumn]
  exact ⟨_, rfl, rfl⟩

theorem call_shape {method : Method} {target : Predicate} {args : List Predicate} {c : Condition}
    (h : filter.call method target args = .ok c) :
    ∃ d, filter.call method (target.shape false)
        (Predicate.shapes method.asksForNull args) = .ok d ∧ d.blank = c.blank := by
  have hunwrap {node : Predicate} (htarget : target.unwrap = node) :
      (target.shape false).unwrap = node.shape false :=
    htarget ▸ Predicate.unwrap_shape false target
  unfold Filter.call at h ⊢
  split at h
  · next vs htarget =>
      rw [hunwrap htarget]
      exact membership_shape h
  · next property htarget =>
      rw [hunwrap htarget]
      exact like_shape rfl h
  · next property htarget =>
      rw [hunwrap htarget]
      exact like_shape rfl h
  · next property htarget =>
      rw [hunwrap htarget]
      exact like_shape rfl h
  · next property htarget =>
      split at h
      · next value hargs =>
          obtain ⟨arg, rfl, harg⟩ : ∃ arg, args = [arg] ∧ arg.unwrap = .constant value := by
            simpa [List.map_eq_singleton_iff] using hargs
          rw [hunwrap htarget]
          simp only [Predicate.shapes, Predicate.shape, List.map_cons, List.map_nil,
            Predicate.unwrap_shape, harg]
          exact comparison_shape h
      · cases h
  · cases h

/-! ### Trees -/

/-- The condition of a tree without values is its condition without values. -/
theorem compileNode_shape {kind : String} {e : Predicate} {c : Condition}
    (h : filter.compileNode kind e = .ok c) (nulls : Bool) (other : String) :
    ∃ d, filter.compileNode other (e.shape nulls) = .ok d ∧ d.blank = c.blank := by
  fun_induction compileNode filter kind e generalizing c nulls other with
  | case1 kind operand ih => exact ih h nulls other
  | case2 kind left right ihl ihr =>
      obtain ⟨l, hl, h⟩ := exists_of_bind_eq_ok h
      obtain ⟨r, hr, h⟩ := exists_of_bind_eq_ok h
      obtain rfl := Except.ok.inj h
      obtain ⟨l', hl', hleft⟩ := ihl hl false _
      obtain ⟨r', hr', hright⟩ := ihr hr false _
      refine ⟨.join .and l' r', ?_, by rw [Condition.blank, Condition.blank, hleft, hright]⟩
      have hnulls : BinaryOp.and.asksForNull = false := rfl
      rw [Predicate.shape, compileNode, hnulls, hl', hr']
      rfl
  | case3 kind left right ihl ihr =>
      obtain ⟨l, hl, h⟩ := exists_of_bind_eq_ok h
      obtain ⟨r, hr, h⟩ := exists_of_bind_eq_ok h
      obtain rfl := Except.ok.inj h
      obtain ⟨l', hl', hleft⟩ := ihl hl false _
      obtain ⟨r', hr', hright⟩ := ihr hr false _
      refine ⟨.join .or l' r', ?_, by rw [Condition.blank, Condition.blank, hleft, hright]⟩
      have hnulls : BinaryOp.or.asksForNull = false := rfl
      rw [Predicate.shape, compileNode, hnulls, hl', hr']
      rfl
  | case4 kind op left right property value hright hleft =>
      rw [Predicate.shape, compileNode, Predicate.unwrap_shape, Predicate.unwrap_shape, hright,
        hleft]
      exact comparison_shape h
  | case5 kind op left right value property hright hleft =>
      -- turned round, an operator asks for NULL as before
      have hflip : (BinaryOp.compare op.flip).asksForNull = (BinaryOp.compare op).asksForNull := by
        cases op <;> rfl
      rw [Predicate.shape, compileNode, Predicate.unwrap_shape, Predicate.unwrap_shape, hright,
        hleft]
      rw [← hflip]
      exact comparison_shape h
  | case8 kind operand target args hoperand vs htarget =>
      obtain ⟨d, hd, hblank⟩ := membership_shape h
      refine ⟨d, ?_, hblank⟩
      rw [Predicate.shape, compileNode, Predicate.unwrap_shape, hoperand]
      simp only [Predicate.shape, Predicate.unwrap_shape, htarget]
      exact hd
  | case11 kind method target args => exact call_shape h
  | _ => cases h

/-- The condition of a predicate without values is its condition without values. -/
theorem compile_shape {e : Predicate} {c : Condition} (h : filter.compile e = .ok c) :
    ∃ d, filter.compile (e.shape false) = .ok d ∧ d.blank = c.blank :=
  compileNode_shape h false _

/-- **Predicates of one shape have one text.**  Their conditions are the same but for values. -/
theorem blank_eq_of_shape {e e' : Predicate} {c c' : Condition}
    (hshape : e.shape false = e'.shape false) (h : filter.compile e = .ok c)
    (h' : filter.compile e' = .ok c') : c.blank = c'.blank := by
  obtain ⟨d, hd, hblank⟩ := compile_shape h
  obtain ⟨d', hd', hblank'⟩ := compile_shape h'
  obtain rfl : d = d' := by
    rw [hshape, hd'] at hd
    exact (Except.ok.inj hd).symm
  exact hblank.symm.trans hblank'

end Filter

end RowMapper
