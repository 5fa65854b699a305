import RowMapper.Proofs.Mapper.Course

/-!
# Runs of operations

Operations are run one after the other on one mapper, over whatever connections.

* `Report` — what is seen of an operation: its calls and its answer;
* `warmReports`, `coldReports` — the reports of operations on one mapper, and on a new mapper for
  each of them;
* `forall_warmReports` — what every operation does on a valid cache is seen in every report of a
  run, however long the run is;
* `caches_invisible` — the reports of a mapper are those of new mappers, and what the mapper keeps
  is what a new one would write.
-/

namespace RowMapper

open Sql

/-- What is seen of an operation: the calls that it sends, and what it answers. -/
structure Report where
  operation : Operation
  sent : List Call
  result : Except Error operation.Result

section Run

variable {σ : Type} (mapper : Mapper) (answer : Nat → (c : Call) → σ → c.Answer × σ)

/-- The reports of operations on one mapper, each on the connection of its number, with the
cache and the state of the connections at the end. -/
def warmReports : List (Nat × Operation) → Cache → σ → List Report × Cache × σ
  | [], cache, s => ([], cache, s)
  | (index, operation) :: rest, cache, s =>
    let seen := ((operation.action mapper).dialogue cache).transcript (answer index) s
    let later := warmReports rest seen.2.1.2 seen.2.2
    (⟨operation, seen.1, seen.2.1.1⟩ :: later.1, later.2)

/-- The reports of operations, each on a new mapper. -/
def coldReports : List (Nat × Operation) → σ → List Report × σ
  | [], s => ([], s)
  | (index, operation) :: rest, s =>
    let seen := ((operation.action mapper).dialogue .empty).transcript (answer index) s
    let later := coldReports rest seen.2.2
    (⟨operation, seen.1, seen.2.1.1⟩ :: later.1, later.2)

/-- From any valid cache on, operations show what they show on new mappers. -/
theorem warmReports_eq (operations : List (Nat × Operation)) {cache : Cache}
    (hcache : cache.Valid mapper) (s : σ) :
    (warmReports mapper answer operations cache s).1 = (coldReports mapper answer operations s).1 ∧
      (warmReports mapper answer operations cache s).2.1.Valid mapper ∧
      (warmReports mapper answer operations cache s).2.2 =
        (coldReports mapper answer operations s).2 := by
  induction operations generalizing cache s with
  | nil => exact ⟨rfl, hcache, rfl⟩
  | cons step rest ih =>
      obtain ⟨index, operation⟩ := step
      -- the empty cache is a valid one, and two valid caches make no difference
      have h := (operation.transparent mapper cache .empty hcache Cache.valid_empty).transcript
        (answer index) s
      obtain ⟨hsent, ⟨hresult, hvalid, -⟩, hstate⟩ := h
      obtain ⟨hreports, hending, hlast⟩ := ih hvalid
        (((operation.action mapper).dialogue cache).transcript (answer index) s).2.2
      rw [hstate] at hreports hlast
      refine ⟨?_, hending, ?_⟩
      · simp only [warmReports, coldReports, hsent, hresult, hstate, hreports]
      · simp only [warmReports, coldReports, hstate, hlast]

/-- **The caches of a mapper are invisible.**  Whatever operations are run on one mapper, over
whatever connections, each sends the same calls and answers the same as on a new mapper, and the
connections are left in the same state: `warmReports` are `coldReports`.  Every descriptor that is
kept afterwards is the one that `Descriptor.build` gives, every text is that of its
`Mapper.template` for all values, and paired with fresh values (`Query.withValues`) it is the
statement that would be built for them. -/
theorem caches_invisible (operations : List (Nat × Operation)) (s : σ) :
    (warmReports mapper answer operations .empty s).1 =
        (coldReports mapper answer operations s).1 ∧
      (warmReports mapper answer operations .empty s).2.2 =
        (coldReports mapper answer operations s).2 ∧
      (∀ type descriptor,
        (warmReports mapper answer operations .empty s).2.1.descriptor? type = some descriptor →
        descriptor = Descriptor.build mapper.tableRule type) ∧
      ∀ key sql,
        (warmReports mapper answer operations .empty s).2.1.statement? key = some sql →
        ∃ template, mapper.template key = .ok template ∧
          ∀ vs, vs.length = template.arity →
            sql = key.dialect.style.write (template.tokens vs) ∧
            values (template.tokens vs) = vs ∧
            Query.withValues sql vs = Query.build key.dialect.style (template.tokens vs) := by
  obtain ⟨hreports, hvalid, hstate⟩ :=
    warmReports_eq mapper answer operations Cache.valid_empty s
  refine ⟨hreports, hstate, fun type descriptor => hvalid.descriptor?_eq, fun key sql hsql => ?_⟩
  obtain ⟨template, htemplate, htext⟩ := hvalid.statement?_eq hsql
  refine ⟨template, htemplate, fun vs hvs => ⟨htext vs hvs, template.values_tokens vs hvs, ?_⟩⟩
  rw [htext vs hvs]
  exact template.withValues_write key.dialect.style hvs hvs

end Run

/-- What an operation of a kind does on a valid cache, whatever is answered, is seen in every report
of such an operation in a run. -/
theorem forall_warmReports {σ : Type} {mapper : Mapper}
    {answer : Nat → (c : Call) → σ → c.Answer × σ} {H : Operation → Prop} {P : Report → Prop}
    (h : ∀ operation, H operation → ∀ cache : Cache, cache.Valid mapper →
      (operation.action mapper).Always cache fun sent result _ => P ⟨operation, sent, result⟩)
    (operations : List (Nat × Operation)) {cache : Cache} (hcache : cache.Valid mapper) (s : σ) :
    ∀ report ∈ (warmReports mapper answer operations cache s).1, H report.operation → P report := by
  induction operations generalizing cache s with
  | nil => exact fun _ hreport => absurd hreport List.not_mem_nil
  | cons step rest ih =>
      obtain ⟨index, operation⟩ := step
      intro report hreport hkind
      have hvalid := ((operation.transparent mapper cache cache hcache hcache).transcript
        (answer index) s).2.1.2.1
      rcases List.mem_cons.mp hreport with rfl | hreport
      · exact (h operation hkind cache hcache).transcript (answer index) s
      · exact ih hvalid _ report hreport hkind

end RowMapper
