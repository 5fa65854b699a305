import Mathlib.Logic.Relation
import RowMapper.Proofs.Filter.Where

/-!
# Type conversions

A type conversion in a predicate stands for nothing in SQL.

* `Predicate.stripped` — a predicate without its type conversions;
* `Predicate.Recast` — a type conversion put around one node of a predicate;
* `SameButNode` — two outcomes that are the same but for the node that an error names;
* `Filter.compileNode_stripped` — a predicate and what is left of it without its conversions have
  such outcomes;
* `Filter.conversions_transparent` — so have any two predicates of which one is the other with
  conversions put in or taken out, anywhere and in any number.

### What still shows a conversion

An error that says which node cannot be turned into SQL may name the conversion around it.  Nothing
else does: a text that a method cannot look for, a value that cannot be bound and a property that is
not there are found below the conversions, and in the same order.
-/

namespace RowMapper

namespace Predicate

mutual

/-- The predicate without its type conversions. -/
def stripped : Predicate → Predicate
  | column property => .column property
  | constant value => .constant value
  | list values => .list values
  | binary op left right => .binary op left.stripped right.stripped
  | not operand => .not operand.stripped
  | call method target args => .call method target.stripped (strippedArgs args)
  | convert operand => operand.stripped

/-- The arguments of a call without their type conversions. -/
def strippedArgs : List Predicate → List Predicate
  | [] => []
  | arg :: rest => arg.stripped :: strippedArgs rest

end

/-- Whether a node has no nodes below it. -/
def isLeaf : Predicate → Bool
  | column _ | constant _ | list _ => true
  | _ => false

/-- A type conversion is put around one node. -/
inductive Recast : Predicate → Predicate → Prop
  | here (e : Predicate) : Recast e (.convert e)
  | left (op : BinaryOp) {left left' : Predicate} (right : Predicate) (h : Recast left left') :
      Recast (.binary op left right) (.binary op left' right)
  | right (op : BinaryOp) (left : Predicate) {right right' : Predicate} (h : Recast right right') :
      Recast (.binary op left right) (.binary op left right')
  | operand {operand operand' : Predicate} (h : Recast operand operand') :
      Recast (.not operand) (.not operand')
  | target (method : Method) {target target' : Predicate} (args : List Predicate)
      (h : Recast target target') : Recast (.call method target args) (.call method target' args)
  | arg (method : Method) (target : Predicate) (before : List Predicate) {arg arg' : Predicate}
      (after : List Predicate) (h : Recast arg arg') :
      Recast (.call method target (before ++ arg :: after))
        (.call method target (before ++ arg' :: after))
  | inner {operand operand' : Predicate} (h : Recast operand operand') :
      Recast (.convert operand) (.convert operand')

/-! ### Nodes below their conversions -/

theorem strippedArgs_eq_map (args : List Predicate) : strippedArgs args = args.map stripped := by
  induction args with
  | nil => rw [strippedArgs, List.map_nil]
  | cons arg rest ih => rw [strippedArgs, List.map_cons, ih]

/-- A type conversion that is put in is stripped off. -/
theorem Recast.stripped_eq {e e' : Predicate} (h : Recast e e') : e.stripped = e'.stripped := by
  induction h with
  | here e => rw [stripped]
  | left op right _ ih => rw [stripped, stripped, ih]
  | right op left _ ih => rw [stripped, stripped, ih]
  | operand _ ih => rw [stripped, stripped, ih]
  | target method args _ ih => rw [stripped, stripped, ih]
  | arg method target before after _ ih =>
      simp only [stripped, strippedArgs_eq_map, List.map_append, List.map_cons, ih]
  | inner _ ih => rw [stripped, stripped, ih]

theorem unwrap_ne_convert (e operand : Predicate) : e.unwrap ≠ .convert operand := by
  fun_induction unwrap e with
  | case1 inner ih => exact ih
  | case2 node hnode => exact hnode operand

/-- What is left of a node is what is left of the node below its conversions. -/
theorem stripped_unwrap (e : Predicate) : e.unwrap.stripped = e.stripped := by
  fun_induction unwrap e with
  | case1 operand ih => rw [ih, stripped]
  | case2 node => rfl

/-- What is left of a node is no conversion. -/
@[simp] theorem unwrap_stripped (e : Predicate) : e.stripped.unwrap = e.stripped := by
  rw [← stripped_unwrap]
  cases h : e.unwrap with
  | convert operand => exact absurd h (unwrap_ne_convert e operand)
  | _ => simp only [stripped, unwrap]

/-- Only a leaf leaves that leaf. -/
theorem stripped_eq_of_isLeaf {e leaf : Predicate} (hleaf : leaf.isLeaf = true) :
    e.stripped = leaf ↔ e.unwrap = leaf := by
  rw [← stripped_unwrap]
  cases h : e.unwrap with
  | convert operand => exact absurd h (unwrap_ne_convert e operand)
  | column | constant | list => rw [stripped]
  | binary | not | call =>
      rw [stripped]
      constructor <;> rintro rfl <;> cases hleaf

@[simp] theorem stripped_eq_column {e : Predicate} {property : String} :
    e.stripped = .column property ↔ e.unwrap = .column property := stripped_eq_of_isLeaf rfl

@[simp] theorem stripped_eq_constant {e : Predicate} {value : Value} :
    e.stripped = .constant value ↔ e.unwrap = .constant value := stripped_eq_of_isLeaf rfl

@[simp] theorem stripped_eq_list {e : Predicate} {values : List Value} :
    e.stripped = .list values ↔ e.unwrap = .list values := stripped_eq_of_isLeaf rfl

/-- Only a call leaves a call, of the same method. -/
theorem stripped_eq_call {e target' : Predicate} {method : Method} {args' : List Predicate} :
    e.stripped = .call method target' args' ↔ ∃ target args,
      e.unwrap = .call method target args ∧ target.stripped = target' ∧
        args.map stripped = args' := by
  rw [← stripped_unwrap]
  cases h : e.unwrap with
  | convert operand => exact absurd h (unwrap_ne_convert e operand)
  | call method target args =>
      simp only [stripped, strippedArgs_eq_map, call.injEq]
      constructor
      · rintro ⟨rfl, rfl, rfl⟩
        exact ⟨target, args, ⟨rfl, rfl, rfl⟩, rfl, rfl⟩
      · rintro ⟨_, _, ⟨rfl, rfl, rfl⟩, rfl, rfl⟩
        exact ⟨rfl, rfl, rfl⟩
  | _ => simp [stripped]

end Predicate

/-! ### Outcomes that differ in a node -/

/-- Two outcomes are the same but for the node that an error names. -/
inductive SameButNode {α : Type} : Except Error α → Except Error α → Prop
  | same (x : Except Error α) : SameButNode x x
  | unsupported (node node' : String) :
      SameButNode (.error (.unsupportedPredicate node)) (.error (.unsupportedPredicate node'))

namespace SameButNode

variable {α β : Type}

theorem symm {x x' : Except Error α} (h : SameButNode x x') : SameButNode x' x := by
  cases h with
  | same => exact .same _
  | unsupported node node' => exact .unsupported node' node

theorem trans {x y z : Except Error α} (h : SameButNode x y) (h' : SameButNode y z) :
    SameButNode x z := by
  cases h with
  | same => exact h'
  | unsupported node node' =>
      cases h' with
      | same => exact .unsupported node node'
      | unsupported _ node'' => exact .unsupported node node''

theorem bind {x x' : Except Error α} {f f' : α → Except Error β} (h : SameButNode x x')
    (hf : ∀ a, SameButNode (f a) (f' a)) : SameButNode (x >>= f) (x' >>= f') := by
  cases h with
  | same =>
      cases x with
      | ok a => exact hf a
      | error e => exact .same (.error e)
  | unsupported node node' => exact .unsupported node node'

end SameButNode

namespace Filter

variable {filter : Filter}

/-! ### Every step strips its own operands -/

theorem likeText_stripped (method : Method) (args : List Predicate) :
    SameButNode (likeText method args) (likeText method (args.map Predicate.stripped)) := by
  match args with
  | [] | _ :: _ :: _ => exact .unsupported _ _
  | [arg] =>
      rw [List.map_singleton, likeText, likeText, Predicate.unwrap_stripped]
      cases h : arg.unwrap with
      | constant value =>
          rw [Predicate.stripped_eq_constant.mpr h]
          cases value with
          | string s => cases s <;> exact .same _
          | char c => cases c <;> exact .same _
          | _ => exact .same _
      | convert operand => exact absurd h (Predicate.unwrap_ne_convert arg operand)
      | _ =>
          rw [← Predicate.stripped_unwrap, h]
          exact .unsupported _ _

theorem membership_stripped (values : List Value) (args : List Predicate) (negated : Bool) :
    SameButNode (filter.membership values args negated)
      (filter.membership values (args.map Predicate.stripped) negated) := by
  match args with
  | [] | _ :: _ :: _ => exact .unsupported _ _
  | [member] =>
      rw [List.map_singleton, membership, membership, Predicate.unwrap_stripped]
      cases h : member.unwrap with
      | column property =>
          rw [Predicate.stripped_eq_column.mpr h]
          exact .same _
      | convert operand => exact absurd h (Predicate.unwrap_ne_convert member operand)
      | _ =>
          rw [← Predicate.stripped_unwrap, h]
          exact .unsupported _ _

/-- The only constant among the arguments of a call is found below its conversions. -/
theorem map_stripped_eq_constant {args : List Predicate} {value : Value} :
    (args.map Predicate.stripped).map Predicate.unwrap = [.constant value] ↔
      args.map Predicate.unwrap = [.constant value] := by
  simp [List.map_eq_singleton_iff]

theorem call_stripped (method : Method) (target : Predicate) (args : List Predicate) :
    SameButNode (filter.call method target args)
      (filter.call method target.stripped (args.map Predicate.stripped)) := by
  unfold call
  rw [Predicate.unwrap_stripped]
  cases h : target.unwrap with
  | list values =>
      rw [Predicate.stripped_eq_list.mpr h]
      cases method with
      | contains => exact membership_stripped values args false
      | _ => exact .same _
  | column property =>
      rw [Predicate.stripped_eq_column.mpr h]
      cases method with
      | startsWith | endsWith | contains =>
          exact (likeText_stripped _ args).bind fun text => .same _
      | equals =>
          dsimp only
          split
          · next value hargs =>
              rw [map_stripped_eq_constant.mpr hargs]
              exact .same _
          · next hargs =>
              split
              · next value hstripped =>
                  exact (hargs value (map_stripped_eq_constant.mp hstripped)).elim
              · exact .same _
      | _ => exact .same _
  | convert operand => exact absurd h (Predicate.unwrap_ne_convert target operand)
  | _ =>
      rw [← Predicate.stripped_unwrap, h]
      cases method <;> exact .same _

/-! ### Trees -/

/-- **A predicate is compiled as what is left of it without its conversions.** -/
theorem compileNode_stripped (kind kind' : String) (e : Predicate) :
    SameButNode (filter.compileNode kind e) (filter.compileNode kind' e.stripped) := by
  fun_induction compileNode filter kind e generalizing kind' with
  | case1 kind operand ih =>
      rw [Predicate.stripped]
      exact ih kind'
  | case2 kind left right ihl ihr =>
      rw [Predicate.stripped, compileNode]
      exact (ihl _).bind fun l => (ihr _).bind fun r => .same _
  | case3 kind left right ihl ihr =>
      rw [Predicate.stripped, compileNode]
      exact (ihl _).bind fun l => (ihr _).bind fun r => .same _
  | case4 kind op left right property value hright hleft =>
      rw [Predicate.stripped, compileNode, Predicate.unwrap_stripped, Predicate.unwrap_stripped,
        Predicate.stripped_eq_column.mpr hleft, Predicate.stripped_eq_constant.mpr hright]
      exact .same _
  | case5 kind op left right value property hright hleft =>
      rw [Predicate.stripped, compileNode, Predicate.unwrap_stripped, Predicate.unwrap_stripped,
        Predicate.stripped_eq_constant.mpr hleft, Predicate.stripped_eq_column.mpr hright]
      exact .same _
  | case6 kind op left right hcolumn hconstant =>
      rw [Predicate.stripped, compileNode, Predicate.unwrap_stripped, Predicate.unwrap_stripped]
      split
      · next property value hleft hright =>
          exact (hcolumn _ _ (by simpa using hleft) (by simpa using hright)).elim
      · next value property hleft hright =>
          exact (hconstant _ _ (by simpa using hleft) (by simpa using hright)).elim
      · exact .unsupported _ _
  | case7 kind op left right hand hor hcompare =>
      rw [Predicate.stripped, compileNode]
      · exact .unsupported _ _
      all_goals assumption
  | case8 kind operand target args hoperand values htarget =>
      have hcall := Predicate.stripped_eq_call.mpr ⟨target, args, hoperand, rfl, rfl⟩
      rw [Predicate.stripped, compileNode, Predicate.unwrap_stripped, hcall]
      simp only [Predicate.stripped_eq_list.mpr htarget]
      exact membership_stripped values args true
  | case9 kind operand target args hoperand htarget =>
      have hcall := Predicate.stripped_eq_call.mpr ⟨target, args, hoperand, rfl, rfl⟩
      rw [Predicate.stripped, compileNode, Predicate.unwrap_stripped, hcall]
      simp only [Predicate.unwrap_stripped]
      split
      · next values hlist => exact (htarget _ (by simpa using hlist)).elim
      · exact .unsupported _ _
  | case10 kind operand hoperand =>
      rw [Predicate.stripped, compileNode, Predicate.unwrap_stripped]
      split
      · next target args hcall =>
          obtain ⟨target, args, hoperand', -, -⟩ := Predicate.stripped_eq_call.mp hcall
          exact (hoperand _ _ hoperand').elim
      · exact .unsupported _ _
  | case11 kind method target args =>
      rw [Predicate.stripped, compileNode, Predicate.strippedArgs_eq_map]
      exact call_stripped method target args
  | case12 | case13 | case14 =>
      rw [Predicate.stripped, compileNode]
      exact .same _

/-- **Type conversions are transparent.**  If a predicate becomes another one by conversions put in
and taken out (`Predicate.Recast`), anywhere and in any number, the two compile to the same
condition, or neither compiles and the errors are of one `Error.kind`.  They are the same error,
unless they say that a node cannot be turned into SQL, which names the node. -/
theorem conversions_transparent (filter : Filter) {e e' : Predicate}
    (h : Relation.EqvGen Predicate.Recast e e') :
    (∃ c, filter.compile e = .ok c ∧ filter.compile e' = .ok c) ∨
      ∃ error error', filter.compile e = .error error ∧ filter.compile e' = .error error' ∧
        error.kind = error'.kind ∧ ((∀ node, error ≠ .unsupportedPredicate node) → error = error') := by
  have hstripped : e.stripped = e'.stripped := by
    induction h with
    | rel _ _ h => exact h.stripped_eq
    | refl => rfl
    | symm _ _ _ ih => exact ih.symm
    | trans _ _ _ _ _ ih ih' => exact ih.trans ih'
  have hsame : SameButNode (filter.compile e) (filter.compile e') := by
    have he : SameButNode (filter.compile e) (filter.compileNode e'.kind e.stripped) :=
      compileNode_stripped e.kind e'.kind e
    rw [hstripped] at he
    exact he.trans (compileNode_stripped e'.kind e'.kind e').symm
  generalize filter.compile e = x, filter.compile e' = x' at hsame
  cases hsame with
  | same x =>
      cases x with
      | ok c => exact .inl ⟨c, rfl, rfl⟩
      | error error => exact .inr ⟨error, error, rfl, rfl, rfl, fun _ => rfl⟩
  | unsupported node node' =>
      exact .inr ⟨_, _, rfl, rfl, rfl, fun h => absurd rfl (h node)⟩

end Filter

namespace Sample

/-- Where the properties of notes are looked up. -/
def noteFilter : Filter := ⟨notes.descriptor, .sqlite⟩

/-- The key is none of two numbers, with the question converted. -/
def converted : Predicate :=
  .not (.convert (.containsMember (.list [.bigInt (some 1), .bigInt (some 2)]) (.column "id")))

/-- The same with other conversions: of the list, of the key and of the whole. -/
def reconverted : Predicate :=
  .convert (.not (.containsMember (.convert (.list [.bigInt (some 1), .bigInt (some 2)]))
    (.convert (.column "id"))))

theorem eqvGen_reconverted : Relation.EqvGen Predicate.Recast converted reconverted :=
  .trans _ _ _ (.symm _ _ (.rel _ _ (.operand (.here _)))) <|
    .trans _ _ _ (.rel _ _ (.operand (.target .contains [.column "id"] (.here _)))) <|
      .trans _ _ _ (.rel _ _ (.operand (.arg .contains _ [] [] (.here _)))) (.rel _ _ (.here _))

end Sample

theorem Filter.conversions_transparent_reconverted :
    Relation.EqvGen Predicate.Recast Sample.converted Sample.reconverted ∧
      ∃ c, Sample.noteFilter.compile Sample.converted = .ok c ∧
        Sample.noteFilter.compile Sample.reconverted = .ok c := by
  refine ⟨Sample.eqvGen_reconverted, ?_⟩
  have hok : Sample.noteFilter.compile Sample.converted =
    .ok (.noneOf (.quoted "id") [.bigInt (some 1), .bigInt (some 2)]) := rfl
  rcases Sample.noteFilter.conversions_transparent Sample.eqvGen_reconverted with
    h | ⟨error, _, herror, _⟩
  · exact h
  · rw [hok] at herror
    cases herror

/-- The node that an error names may be the conversion. -/
example : Sample.noteFilter.compile (.not (.convert (.column "id"))) =
      .error (.unsupportedPredicate "Not") ∧
    Sample.noteFilter.compile (.convert (.not (.column "id"))) =
      .error (.unsupportedPredicate "Convert") :=
  ⟨rfl, rfl⟩

end RowMapper
