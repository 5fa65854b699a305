import RowMapper.Proofs.Entity.Provision
import RowMapper.Proofs.Mapper.Ensuring

/-!
# No operation wants a value

An operation on entities of a declared type may fail for many reasons.  That an entity has no value
for a property is not one of them.

* `values_provided` — the entities of a declared type provide their values, and so no operation on
  them, in no run, ends with an error over a missing value.
-/

namespace RowMapper

open Sql

/-- **Entities of a declared type provide their values.**  Let a type be as an accepted declaration
says (`Model.Describes`).  For whatever list of properties a statement may ask an entity for
(`Descriptor.Asks`), a complete entity (`Record.Complete`) has its own value for each of them
(`Record.value?`), in the order of the list.  No property is a key twice.  And in no run of
operations (`warmReports`), over whatever connections, does an operation on such entities end with
an error over a missing value (`Error.wantsValue`). -/
theorem values_provided {declaration : Declaration} {model : Model} {type : EntityType}
    (hmodel : declaration.model = .ok model)
    (hnames : (declaration.fields.map fun field => Declaration.plainName field.name).Nodup)
    (htype : model.Describes type) (mapper : Mapper) :
    (∀ record : Record, record.Complete type → ∀ properties,
      (Descriptor.build mapper.tableRule type).Asks properties →
      ∃ vs, type.valuesOf record properties = .ok vs ∧
        List.Forall₂ (fun p v => record.value? p.name = some v) properties vs) ∧
    ((Descriptor.build mapper.tableRule type).allKeys.map (·.name)).Nodup ∧
    ∀ {σ : Type} (answer : Nat → (c : Call) → σ → c.Answer × σ)
      (operations : List (Nat × Operation)) (s : σ),
      ∀ report ∈ (warmReports mapper answer operations .empty s).1,
        report.operation.type = type →
        ∀ records, report.operation.entities? = some records →
        (∀ record ∈ records, record.Complete type) →
        ∀ e, report.result = .error e → e.wantsValue = false := by
  have hvalues (record : Record) (hrecord : record.Complete type) (properties : List Property)
      (hasks : (Descriptor.build mapper.tableRule type).Asks properties) :=
    htype.exists_valuesOf hmodel hnames hrecord hasks
  refine ⟨hvalues, ?_, fun answer operations s => ?_⟩
  · have hkeys := Declaration.not_both_keys hmodel
    rw [← Declaration.map_name_of_model hmodel] at hnames
    rw [← htype.properties] at hnames hkeys
    exact nodup_allKeys hnames hkeys
  · intro report hreport hsame records hrecords hcomplete e he
    refine forall_warmReports
      (H := fun operation => operation.type = type ∧ operation.entities? = some records)
      (P := fun report => ∀ e, report.result = .error e → e.wantsValue = false)
      ?_ operations Cache.valid_empty s report hreport ⟨hsame, hrecords⟩ e he
    rintro operation ⟨rfl, hrecords⟩ cache hcache
    refine (operation.ensures mapper cache hcache).mono fun sent result cache' h e he => ?_
    -- an error over a missing value would be that of an entity which has all its values
    refine Bool.eq_false_iff.mpr fun hwants => ?_
    obtain ⟨record, hrecord, properties, hasks, hmissing⟩ := h.2.2 e he hwants records hrecords
    obtain ⟨vs, hvs, -⟩ := hvalues record (hcomplete record hrecord) properties hasks
    rw [hvs] at hmissing
    cases hmissing

/-! ### An account -/

namespace Sample

/-- An account has a number that the database gives it, an owner, and two texts that are not always
written. -/
def account : Declaration :=
  ⟨.struct, "Account", [.markers [("table", some (.text "accounts"))]],
    [⟨"Id", "i64", []⟩,
      ⟨"owner", "String", [.markers [("explicit_key", none)]]⟩,
      ⟨"opened", "Option<NaiveDate>", [.markers [("ignore_update", none)]]⟩,
      ⟨"cached", "String", [.markers [("write", some (.bool false))]]⟩]⟩

/-- The model of accounts. -/
def accountModel : Model :=
  ⟨"Account", some "accounts", none, false,
    [⟨"Id", "Id", "i64", false, false, false, false, true⟩,
      ⟨"owner", "owner", "String", false, true, false, false, true⟩,
      ⟨"opened", "opened", "Option<NaiveDate>", false, false, false, true, true⟩,
      ⟨"cached", "cached", "String", false, false, false, false, false⟩]⟩

theorem model_account : account.model = .ok accountModel := by
  decide +kernel

/-- The type of accounts. -/
def accountType : EntityType :=
  ⟨"Account", some "accounts", none, false,
    accountModel.properties.zipWith Field.mk
      [.required .int64, .required .text, .optional .date, .required .text],
    ["Id", "owner", "opened"]⟩

theorem ofModel?_accountModel : EntityType.ofModel? accountModel = some accountType := by
  decide +kernel

/-- An account of an owner, with a value that no driver can bind in a text that is not stored. -/
def accountOf (owner : String) : Record :=
  [("Id", .present (.int64 7)), ("owner", .present (.text owner)), ("opened", .absent .date),
    ("cached", .custom ⟨"", .zoned none⟩)]

end Sample

/-- Accounts are inserted over a closed connection, and then the first one is deleted. -/
theorem values_provided_account :
    ((Descriptor.build pluralTable Sample.accountType).allKeys.map (·.name)).Nodup ∧
      ∀ report ∈ (warmReports .standard (fun _ => Recording.answer)
          [(0, .insertMany "PgConnection" Sample.accountType
              [Sample.accountOf "ann", Sample.accountOf "bob"]),
            (0, .delete "PgConnection" Sample.accountType (Sample.accountOf "ann"))]
          .empty (Recording.start "PgConnection" false)).1,
        ∀ e, report.result = .error e → e.wantsValue = false := by
  have h := values_provided Sample.model_account (by decide)
    (Model.describes_of_ofModel? Sample.ofModel?_accountModel) .standard
  refine ⟨h.2.1, fun report hreport => ?_⟩
  have hcomplete : ∀ owner, (Sample.accountOf owner).Complete Sample.accountType := fun _ => rfl
  have hoperation := hreport
  simp only [warmReports, List.mem_cons, List.not_mem_nil, or_false] at hoperation
  rcases hoperation with hreport' | hreport'
  · refine h.2.2 _ _ _ report hreport (by rw [hreport']; rfl) _ (by rw [hreport']; rfl) ?_
    intro record hrecord
    simp only [List.mem_cons, List.not_mem_nil, or_false] at hrecord
    rcases hrecord with rfl | rfl <;> exact hcomplete _
  · refine h.2.2 _ _ _ report hreport (by rw [hreport']; rfl) _ (by rw [hreport']; rfl) ?_
    intro record hrecord
    obtain rfl := List.mem_singleton.mp hrecord
    exact hcomplete _

end RowMapper
