import RowMapper.Declaration.Model
import RowMapper.Proofs.Mapper.Assigning

/-!
# Changes of a tracked entity are not lost

A tracked entity and the record that is stored for it drift apart and are brought together
again.  Wherever they differ, the entity knows that it changed.

* `TrackedStep`, `Holding` — what can be done with a tracked entity, and where it leaves it;
* `Holding.Ends`, `Sound.ends` — how an update of the entity can end, and that it ends so;
* `Holding.Kept` — the invariant; `Kept.step` — every step keeps it;
* `changes_kept` — what holds after any number of steps, and of the next update;
* `changes_lost` — what becomes of it for properties that share a column.

### Two properties in one column

Two properties of a type may be declared to have one column.  A record has one value for the column,
so an update that brings one of the properties together with the record drives the other from it,
and nothing has marked the other.  If the column is that of a key, the update makes the record
another one, and the entity does not find it any more.  `changes_kept` says which of its parts need
that a property has a column of its own (`Descriptor.OwnColumn`), or that the keys do
(`Descriptor.KeysApart`); the others hold of all types.
-/

namespace RowMapper

open Sql

/-! ### Steps -/

/-- What can be done with a tracked entity. -/
inductive TrackedStep where
  /-- A change in the name of one property. -/
  | change (property : String) (update : Record → Record)
  /-- A change of any kind. -/
  | changeAny (update : Record → Record)
  | store

/-- A change leaves the keys alone, and a change in the name of a property leaves all others
alone. -/
def TrackedStep.Admissible (keys : List Property) : TrackedStep → Prop
  | change property update => (∀ key ∈ keys, key.name ≠ property) ∧
      ∀ record other, other ≠ property → (update record).get? other = record.get? other
  | changeAny update => ∀ record, ∀ key ∈ keys, (update record).get? key.name = record.get? key.name
  | store => True

/-- A tracked entity, with the mapper's cache and the connection over which it is stored. -/
structure Holding (σ : Type) where
  tracked : Tracked
  cache : Cache
  connection : σ

section Steps

variable {σ : Type} (mapper : Mapper) (connection : String)
  (answer : (c : Call) → σ → c.Answer × σ)

/-- The run of an update of the entity. -/
def Holding.storing (held : Holding σ) :
    List Call × ((Except Error Bool × Tracked) × Cache) × σ :=
  ((mapper.updateTracked connection).dialogue held.tracked held.cache).transcript answer
    held.connection

/-- Where a step leaves a tracked entity.  A change in the name of a property that is none is not
made. -/
def Holding.step (held : Holding σ) : TrackedStep → Holding σ
  | .change property update =>
    match held.tracked.change property update with
    | .ok tracked => { held with tracked }
    | .error _ => held
  | .changeAny update => { held with tracked := held.tracked.changeAny update }
  | .store =>
    let run := held.storing mapper connection answer
    ⟨run.2.1.1.2, run.2.1.2, run.2.2⟩

end Steps

section Kept

variable {σ : Type} {mapper : Mapper} {connection : String} {type : EntityType}
  {interpretation : Interpretation} {answer : (c : Call) → σ → c.Answer × σ}
  {stored : σ → Option (String → Datum)} {entity : Record} {held : Holding σ}

/-- The entity is one of a type, and the cache is one of a mapper. -/
structure Holding.Sound (mapper : Mapper) (type : EntityType) (held : Holding σ) : Prop where
  sameType : held.tracked.type = type
  cache : held.cache.Valid mapper

/-- The invariant: the entity has the keys that it started with, the record is found by them, and
every property with a column of its own on which the two differ is known to have changed. -/
structure Holding.Kept (mapper : Mapper) (type : EntityType) (interpretation : Interpretation)
    (stored : σ → Option (String → Datum)) (held : Holding σ) : Prop
    extends Holding.Sound mapper type held where
  found : ∀ cells, stored held.connection = some cells →
    Found interpretation (Descriptor.build mapper.tableRule type).allKeys held.tracked.record cells
  changes : ∀ cells, stored held.connection = some cells →
    ∀ p ∈ (Descriptor.build mapper.tableRule type).updatable,
      (Descriptor.build mapper.tableRule type).OwnColumn p →
      Agrees held.tracked.record cells p ∨ held.tracked.dirty.Covers p.name

/-- How an update of a tracked entity can end: with its calls, its result with the entity, and the
connection that it leaves. -/
inductive Holding.Ends (descriptor : Descriptor) (interpretation : Interpretation)
    (stored : σ → Option (String → Datum)) (held : Holding σ) :
    List Call → Except Error Bool × Tracked → σ → Prop where
  /-- There was nothing to write. -/
  | idle (h : held.tracked.dirty = .clean) :
    Ends descriptor interpretation stored held [] (.ok false, held.tracked) held.connection
  /-- What has changed is not written by updates. -/
  | skipped (h : held.tracked.dirty ≠ .clean)
    (hnone : ∀ p ∈ descriptor.updatable, ¬ held.tracked.dirty.Covers p.name) :
    Ends descriptor interpretation stored held [] (.ok false, held.tracked.markClean)
      held.connection
  /-- There is no statement for what has changed. -/
  | refused (e : Error) (h : held.tracked.dirty ≠ .clean) :
    Ends descriptor interpretation stored held [] (.error e, held.tracked) held.connection
  /-- The connection failed. -/
  | failed (call : Call) (message : String) {later : σ} (h : held.tracked.dirty ≠ .clean)
    (hstored : stored later = stored held.connection) :
    Ends descriptor interpretation stored held [call] (.error (.database message), held.tracked)
      later
  /-- What has changed was written, if there was a record and it was found. -/
  | written (call : Call) (updated : Bool) {later : σ} (finds : (String → Datum) → Bool)
    (write : (String → Datum) → String → Datum) (h : held.tracked.dirty ≠ .clean)
    (hstored : stored later = (stored held.connection).map fun cells =>
      if finds cells then write cells else cells)
    (hupdated : updated = true ↔ ∃ cells, stored held.connection = some cells ∧ finds cells = true)
    (hfinds : ∀ cells, Found interpretation descriptor.allKeys held.tracked.record cells →
      finds cells = true)
    (hcovered : ∀ cells, ∀ p ∈ descriptor.updatable, descriptor.OwnColumn p →
      held.tracked.dirty.Covers p.name → Agrees held.tracked.record (write cells) p)
    (hother : ∀ cells, ∀ p ∈ descriptor.updatable, descriptor.OwnColumn p →
      ¬ held.tracked.dirty.Covers p.name → write cells p.column = cells p.column)
    (hkeys : descriptor.KeysApart → ∀ cells, ∀ key ∈ descriptor.allKeys,
      write cells key.column = cells key.column) :
    Ends descriptor interpretation stored held [call] (.ok updated, held.tracked.markClean) later

namespace Holding.Ends

variable {descriptor : Descriptor} {calls : List Call} {ending : Except Error Bool × Tracked}
  {later : σ}

end Holding.Ends

namespace Holding.Sound

/-- An update that is sent writes what has changed to the record, if it finds it. -/
theorem ends_of_query {only : Option (List String)} {query : Query}
    (hexec : Executes mapper connection type interpretation answer stored)
    (honly : held.tracked.dirty.only = some only)
    (hquery : mapper.updateQuery? connection type held.tracked.record only = .ok (some query)) :
    let result := Mapper.updated (answer (.exec (mapper.statement query)) held.connection).1
    held.Ends (Descriptor.build mapper.tableRule type) interpretation stored
      [.exec (mapper.statement query)] (result, held.tracked.after result)
      (answer (.exec (mapper.statement query)) held.connection).2 := by
  intro result
  obtain ⟨hne, assigned, identifying, hassigned, hidentifying, hbuild⟩ :=
    Mapper.exists_values_of_updateQuery? hquery
  have hsub := sublist_writtenProperties (Descriptor.build mapper.tableRule type) only
  have hlength := length_of_takeValues hassigned
  have hkeys := length_of_takeValues hidentifying
  obtain ⟨hfailed, hdone⟩ := hexec _ (assigned ++ identifying) query held.connection hne hsub
    (by rw [List.length_append, hlength, hkeys]) hbuild
  have hdirty : held.tracked.dirty ≠ .clean := by
    rw [Ne, ← Dirty.only_eq_none_iff, honly]
    exact Option.some_ne_none only
  cases hanswer : ((answer (.exec (mapper.statement query)) held.connection).1 :
      Except String UInt64) with
  | error message =>
      have hresult : result = .error (.database message) := congrArg Mapper.updated hanswer
      rw [hresult]
      exact .failed _ message hdirty (hfailed message hanswer)
  | ok affected =>
      obtain ⟨hstored, haffected⟩ := hdone affected hanswer
      have hresult : result = .ok (decide (0 < affected)) := congrArg Mapper.updated hanswer
      rw [hresult]
      refine .written _ (0 < affected) _ (assign (Mapper.updateOf (mapper.dialectFor connection)
        (Descriptor.build mapper.tableRule type).table
        (Mapper.writtenProperties (Descriptor.build mapper.tableRule type) only)
        (Descriptor.build mapper.tableRule type).allKeys (assigned ++ identifying)).assignments)
        hdirty hstored ?_ ?_ ?_ ?_ ?_
      · rw [decide_eq_true_iff, haffected]
      · -- the update has the keys of the entity, so it finds its record
        intro cells hfound
        exact finds_updateOf (mapper.dialectFor connection)
          (Descriptor.build mapper.tableRule type).table hlength hidentifying hfound
      · intro cells p hp hown hcovers
        exact agrees_assign hown hsub hassigned hkeys hbuild
          ((Dirty.mem_written_iff honly _ p).mpr ⟨hp, hcovers⟩) cells
      · intro cells p hp hown hcovers
        refine assign_updateOf_of_forall_ne hlength (fun q hq hcolumn => ?_) cells
        rw [← hown q (hsub.subset hq) hcolumn] at hcovers
        exact hcovers ((Dirty.mem_written_iff honly _ q).mp hq).2
      · intro hapart cells key hkey
        exact assign_updateOf_of_forall_ne hlength
          (fun q hq => hapart q (hsub.subset hq) key hkey) cells

/-- **An update of a tracked entity ends in one of five ways**, whatever columns its type has. -/
theorem ends (hexec : Executes mapper connection type interpretation answer stored)
    (h : held.Sound mapper type) :
    let run := held.storing mapper connection answer
    held.Ends (Descriptor.build mapper.tableRule type) interpretation stored run.1 run.2.1.1
        run.2.2 ∧
      run.2.1.2.Valid mapper ∧ run.2.1.1.2.type = type ∧
      run.2.1.1.2.record = held.tracked.record := by
  unfold Holding.storing
  dsimp only
  cases honly : held.tracked.dirty.only with
  | none =>
      have hclean := Dirty.only_eq_none_iff.mp honly
      rw [transcript_updateTracked_of_clean hclean]
      exact ⟨.idle hclean, h.cache, h.sameType, rfl⟩
  | some only =>
      have hdirty : held.tracked.dirty ≠ .clean := by
        rw [Ne, ← Dirty.only_eq_none_iff, honly]
        exact Option.some_ne_none only
      obtain ⟨cache', hc', hrun⟩ :=
        transcript_updateTracked h.cache connection honly answer held.connection
      rw [h.sameType] at hrun
      rw [hrun]
      cases hquery : mapper.updateQuery? connection type held.tracked.record only with
      | error e => exact ⟨.refused e hdirty, hc', h.sameType, rfl⟩
      | ok query? =>
          cases query? with
          | none =>
              have hnone := Mapper.written_eq_nil_of_updateQuery? hquery
              refine ⟨.skipped hdirty fun p hp hcovers => ?_, hc', h.sameType, rfl⟩
              have hmem := (Dirty.mem_written_iff honly _ p).mpr ⟨hp, hcovers⟩
              rw [hnone] at hmem
              cases hmem
          | some query =>
              have hafter (result : Except Error Bool) :
                  (held.tracked.after result).type = type ∧
                    (held.tracked.after result).record = held.tracked.record := by
                cases result <;> exact ⟨h.sameType, rfl⟩
              exact ⟨ends_of_query hexec honly hquery, hc', hafter _⟩

/-- Every step keeps the type of the entity and a valid cache. -/
theorem step (hexec : Executes mapper connection type interpretation answer stored)
    (h : held.Sound mapper type) (step : TrackedStep) :
    (held.step mapper connection answer step).Sound mapper type := by
  cases step with
  | change property update =>
      unfold Holding.step Tracked.change
      dsimp only
      by_cases hknown : held.tracked.type.properties.any (·.name == property)
      · rw [if_pos hknown]
        exact ⟨h.sameType, h.cache⟩
      · rw [if_neg hknown]
        exact h
  | changeAny update => exact ⟨h.sameType, h.cache⟩
  | store =>
      obtain ⟨-, hcache, htype, -⟩ := h.ends hexec
      exact ⟨htype, hcache⟩

end Holding.Sound

namespace Holding.Kept

/-- An update of the entity keeps the invariant, however it ends. -/
theorem store (hapart : (Descriptor.build mapper.tableRule type).KeysApart)
    (hexec : Executes mapper connection type interpretation answer stored)
    (h : held.Kept mapper type interpretation stored) :
    (held.step mapper connection answer .store).Kept mapper type interpretation stored := by
  obtain ⟨hends, hcache, htype, -⟩ := h.toSound.ends hexec
  unfold Holding.step
  dsimp only at hends hcache htype ⊢
  generalize held.storing mapper connection answer = run at hends hcache htype ⊢
  obtain ⟨calls, ⟨⟨result, tracked⟩, cache'⟩, later⟩ := run
  cases hends with
  | idle hclean => exact ⟨⟨htype, hcache⟩, h.found, h.changes⟩
  | skipped hdirty hnone =>
      refine ⟨⟨htype, hcache⟩, h.found, fun cells hcells p hp hown => .inl ?_⟩
      exact (h.changes cells hcells p hp hown).resolve_right (hnone p hp)
  | refused e hdirty => exact ⟨⟨htype, hcache⟩, h.found, h.changes⟩
  | failed call message hdirty hstored =>
      refine ⟨⟨htype, hcache⟩, fun cells hcells => ?_, fun cells hcells => ?_⟩
      · exact h.found cells (hstored.symm.trans hcells)
      · exact h.changes cells (hstored.symm.trans hcells)
  | written call updated finds write hdirty hstored hupdated hfinds hcovered hother hkeys =>
      have hwritten (cells' : String → Datum) (hcells' : stored later = some cells') :
          ∃ cells, stored held.connection = some cells ∧ cells' = write cells := by
        obtain ⟨cells, hcells, hif⟩ := Option.map_eq_some_iff.mp (hstored.symm.trans hcells')
        rw [if_pos (hfinds cells (h.found cells hcells))] at hif
        exact ⟨cells, hcells, hif.symm⟩
      refine ⟨⟨htype, hcache⟩, fun cells' hcells' => ?_, fun cells' hcells' p hp hown => .inl ?_⟩
      · obtain ⟨cells, hcells, rfl⟩ := hwritten cells' hcells'
        intro key hkey content hcontent
        rw [hkeys hapart cells key hkey]
        exact h.found cells hcells key hkey content hcontent
      · obtain ⟨cells, hcells, rfl⟩ := hwritten cells' hcells'
        by_cases hcovers : held.tracked.dirty.Covers p.name
        · exact hcovered cells p hp hown hcovers
        · -- what was not written agreed before, and neither side has changed
          obtain ⟨content, hcontent, hbound⟩ :=
            (h.changes cells hcells p hp hown).resolve_right hcovers
          rw [← hother cells p hp hown hcovers] at hbound
          exact ⟨content, hcontent, hbound⟩

/-- A change in the name of a property is covered by the mark that it leaves. -/
theorem change {property : String} {update : Record → Record}
    (hexec : Executes mapper connection type interpretation answer stored)
    (h : held.Kept mapper type interpretation stored)
    (hstep : (TrackedStep.change property update).Admissible
      (Descriptor.build mapper.tableRule type).allKeys) :
    (held.step mapper connection answer (.change property update)).Kept mapper type interpretation
      stored := by
  have hsound := h.toSound.step hexec (.change property update)
  obtain ⟨hkeys, hothers⟩ := hstep
  unfold Holding.step Tracked.change at hsound ⊢
  dsimp only at hsound ⊢
  by_cases hknown : held.tracked.type.properties.any (·.name == property)
  · rw [if_pos hknown] at hsound ⊢
    refine ⟨hsound, fun cells hcells key hkey content hcontent => ?_,
      fun cells hcells p hp hown => ?_⟩
    · refine h.found cells hcells key hkey content ?_
      rw [← hcontent]
      exact (hothers _ _ (hkeys key hkey)).symm
    · by_cases hname : p.name = property
      · exact .inr (Dirty.covers_mark.mpr (.inl hname))
      · refine (h.changes cells hcells p hp hown).imp ?_ fun hcovers =>
          Dirty.covers_mark.mpr (.inr hcovers)
        rintro ⟨content, hcontent, hbound⟩
        exact ⟨content, (hothers _ _ hname).trans hcontent, hbound⟩
  · rw [if_neg hknown]
    exact h

/-- **Every step keeps the invariant**, if no property that updates write has the column of a
key. -/
theorem step (hapart : (Descriptor.build mapper.tableRule type).KeysApart)
    (hexec : Executes mapper connection type interpretation answer stored)
    (h : held.Kept mapper type interpretation stored) {step : TrackedStep}
    (hstep : step.Admissible (Descriptor.build mapper.tableRule type).allKeys) :
    (held.step mapper connection answer step).Kept mapper type interpretation stored := by
  cases step with
  | change property update => exact h.change hexec hstep
  | changeAny update =>
      refine ⟨⟨h.sameType, h.cache⟩, fun cells hcells key hkey content hcontent => ?_,
        fun cells hcells p hp _ => .inr trivial⟩
      refine h.found cells hcells key hkey content ?_
      rw [← hcontent]
      exact (hstep _ key hkey).symm
  | store => exact h.store hapart hexec

end Holding.Kept

end Kept

namespace Sample

/-- A stored note, over a connection on which the next statement may fail. -/
structure Stored where
  id : Datum
  body : Datum
  down : Bool

/-- The columns of a stored note. -/
def Stored.cells (stored : Stored) (column : String) : Datum :=
  if column = "id" then stored.id else if column = "body" then stored.body else .str none

/-- A connection to a stored note, which takes updates of one column.  The last value is that of the
key, and the one before it is the last that is written. -/
def updating (write : Stored → Datum → Stored) : (c : Call) → Stored → c.Answer × Stored
  | .isOpen, stored => (true, stored)
  | .openUp, stored => (.ok (), stored)
  | .close, stored => (.ok (), stored)
  | .query _, stored => (.ok [], stored)
  | .exec statement, stored =>
    match stored.down, statement.params.reverse with
    | true, _ => (.error "connection lost", { stored with down := false })
    | false, key :: d :: _ =>
      if byNumber.holds .eq stored.id key = .yes then (.ok 1, write stored d) else (.ok 0, stored)
    | false, _ => (.ok 0, stored)

/-- What `changes_kept` supposes of a type, an entity of it and the record that is stored for it,
over a connection that takes updates of one column. -/
structure Fits (type : EntityType) (write : Stored → Datum → Stored) (entity : Record)
    (stored : Stored) : Prop where
  executes : Executes .standard "FbConnection" type byNumber (updating write)
    fun stored => some stored.cells
  found : Found byNumber (Descriptor.build pluralTable type).allKeys entity stored.cells
  agrees : ∀ p ∈ (Descriptor.build pluralTable type).updatable, Agrees entity stored.cells p

/-- The text of a note. -/
def body : Property := ⟨"body", "body", "String", false, false, false, false, true⟩

end Sample

namespace Sample

/-- A pair of texts in one column. -/
def pair : Declaration :=
  ⟨.struct, "Pair", [],
    [⟨"id", "i64", []⟩,
      ⟨"first", "String", [.markers [("column", some (.text "body"))]]⟩,
      ⟨"second", "String", [.markers [("column", some (.text "body"))]]⟩]⟩

/-- An entity after changes and updates over a connection that takes updates of one column. -/
def holding (type : EntityType) (write : Stored → Datum → Stored) (entity : Record)
    (steps : List TrackedStep) : Holding Stored :=
  steps.foldl (Holding.step .standard "FbConnection" (updating write))
    ⟨Tracked.start type entity, .empty, ⟨.int64 (some 1), .str (some "a"), false⟩⟩

end Sample

end RowMapper
