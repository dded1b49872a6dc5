import SnowflakeSql.Column.Builder
import SnowflakeSql.Proofs.Table.Commands

/-!
# Columns without keys and indexes

The builder of the dialect has no keys and no indexes of columns.  What it makes of a sequence of
calls is what the standard builder makes of the calls that are left (`ColumnCall.erased?`): a key
is a column that is not null, and an index is nothing at all but a warning.  `Erased` says so of a
column and the warnings of building it, and that the column gives no warning in any table;
`erased_build` that every column of the builder is of that kind.
-/

namespace SnowflakeSql

namespace ColumnCall

/-- What is left of a call where columns have no keys and no indexes. -/
def erased? : ColumnCall → Option ColumnCall
  | primary _ => some .notNullable
  | index _ => none
  | call => some call

/-- Whether the call asks for an index. -/
def isIndex : ColumnCall → Bool
  | index _ => true
  | _ => false

/-- Whether nulls are allowed, if the call says so to the builder of the dialect. -/
def nullability? : ColumnCall → Option Bool
  | notNullable | primary _ => some false
  | nullable => some true
  | _ => none

end ColumnCall

/-- A column and the warnings of building it, with nothing left of keys and indexes. -/
structure Erased (name : String) (type : ColumnType) (calls : List ColumnCall)
    (built : Column × List Warning) : Prop where
  /-- The column is the one that the standard builder makes of the calls that are left. -/
  column : built.1 =
    (ColumnBuilder.standard.build name type (calls.filterMap ColumnCall.erased?)).1
  primary : built.1.primary = .absent
  index : built.1.index = .absent
  /-- The last call that says whether nulls are allowed decides. -/
  nullable : built.1.nullable = (calls.filterMap ColumnCall.nullability?).getLast?
  /-- There is one warning for each index that is asked for, and no other. -/
  warnings : built.2 = List.replicate (calls.countP ColumnCall.isIndex) .noIndexes
  /-- Among the columns of a table it is not warned of: the warnings are those of the others and of
  the commands. -/
  silent : ∀ (client : Client) (schema : Option String) (change : TableChange)
    (front back : List Column),
    (client.compileTable schema { change with columns := front ++ built.1 :: back }).warnings =
      List.replicate ((if (front ++ back).any (·.index.isPresent) then 1 else 0) +
        change.commands.countP TableCommand.isIndex) .noIndexes

namespace ColumnBuilder

/-! ## One call -/

theorem index_snowflake (name : Option String) (column : Column) :
    snowflake.index name column = (column, [.noIndexes]) := rfl

theorem apply_snowflake_of_erased? {call left : ColumnCall} (h : call.erased? = some left)
    (column : Column) :
    (snowflake.apply column call).1 = (standard.apply column left).1 := by
  cases call with
  | index => cases h
  | _ =>
    cases h
    rfl

theorem apply_snowflake_of_erased?_none {call : ColumnCall} (h : call.erased? = none)
    (column : Column) : (snowflake.apply column call).1 = column := by
  cases call with
  | index => rfl
  | _ => cases h

theorem warnings_apply_snowflake (column : Column) (call : ColumnCall) :
    (snowflake.apply column call).2 =
      List.replicate (if call.isIndex then 1 else 0) .noIndexes := by
  cases call with
  | index name => rw [apply, index_snowflake]; rfl
  | _ => rfl

theorem primary_apply_snowflake (column : Column) (call : ColumnCall) :
    (snowflake.apply column call).1.primary = column.primary := by
  cases call <;> rfl

theorem index_apply_snowflake (column : Column) (call : ColumnCall) :
    (snowflake.apply column call).1.index = column.index := by
  cases call <;> rfl

theorem nullable_apply_snowflake (column : Column) (call : ColumnCall) :
    (snowflake.apply column call).1.nullable = call.nullability?.or column.nullable := by
  cases call <;> rfl

theorem type_apply_snowflake (column : Column) (call : ColumnCall) :
    (snowflake.apply column call).1.type = column.type := by
  cases call <;> rfl

/-! ## Sequences of calls -/

theorem applyAll_cons (builder : ColumnBuilder) (column : Column) (call : ColumnCall)
    (calls : List ColumnCall) :
    builder.applyAll column (call :: calls) =
      ((builder.applyAll (builder.apply column call).1 calls).1,
        (builder.apply column call).2 ++
          (builder.applyAll (builder.apply column call).1 calls).2) := rfl

/-- The run of the one builder follows that of the other, call by call. -/
theorem applyAll_snowflake_eq_standard (column : Column) (calls : List ColumnCall) :
    (snowflake.applyAll column calls).1 =
      (standard.applyAll column (calls.filterMap ColumnCall.erased?)).1 := by
  induction calls generalizing column with
  | nil => rfl
  | cons call calls ih =>
    rw [applyAll_cons]
    cases h : call.erased? with
    | some left =>
      rw [List.filterMap_cons_some h, applyAll_cons, apply_snowflake_of_erased? h]
      exact ih _
    | none =>
      rw [List.filterMap_cons_none h, apply_snowflake_of_erased?_none h]
      exact ih _

theorem warnings_applyAll_snowflake (column : Column) (calls : List ColumnCall) :
    (snowflake.applyAll column calls).2 =
      List.replicate (calls.countP ColumnCall.isIndex) .noIndexes := by
  induction calls generalizing column with
  | nil => rfl
  | cons call calls ih =>
    rw [applyAll_cons, warnings_apply_snowflake, ih, List.replicate_append_replicate,
      List.countP_cons, Nat.add_comm]

/-- What no call changes, no sequence of calls changes. -/
theorem applyAll_eq_of_apply_eq {builder : ColumnBuilder} {α : Type} {field : Column → α}
    (h : ∀ column call, field (builder.apply column call).1 = field column) (column : Column)
    (calls : List ColumnCall) : field (builder.applyAll column calls).1 = field column := by
  induction calls generalizing column with
  | nil => rfl
  | cons call calls ih =>
    rw [applyAll_cons]
    exact (ih _).trans (h column call)

theorem nullable_applyAll_snowflake (column : Column) (calls : List ColumnCall) :
    (snowflake.applyAll column calls).1.nullable =
      (calls.filterMap ColumnCall.nullability?).getLast?.or column.nullable := by
  induction calls generalizing column with
  | nil => rfl
  | cons call calls ih =>
    rw [applyAll_cons, ih, nullable_apply_snowflake]
    cases h : call.nullability? with
    | some allowed =>
      rw [List.filterMap_cons_some h, List.getLast?_cons]
      cases (calls.filterMap ColumnCall.nullability?).getLast? <;> rfl
    | none => rw [List.filterMap_cons_none h, Option.none_or]

/-! ## Columns that are built -/

variable (name : String) (type : ColumnType) (calls : List ColumnCall)

theorem primary_build : (snowflake.build name type calls).1.primary = .absent :=
  applyAll_eq_of_apply_eq primary_apply_snowflake _ calls

theorem index_build : (snowflake.build name type calls).1.index = .absent :=
  applyAll_eq_of_apply_eq index_apply_snowflake _ calls

theorem type_build : (snowflake.build name type calls).1.type = type :=
  applyAll_eq_of_apply_eq type_apply_snowflake _ calls

theorem nullable_build : (snowflake.build name type calls).1.nullable =
    (calls.filterMap ColumnCall.nullability?).getLast? := by
  unfold build
  rw [nullable_applyAll_snowflake, Option.or_none]

end ColumnBuilder

/-- A column that asks for no index adds nothing to the warnings of a table. -/
theorem Client.warnings_compileTable_of_no_index (client : Client) (schema : Option String)
    (change : TableChange) (front back : List Column) {column : Column}
    (h : column.index = .absent) :
    (client.compileTable schema { change with columns := front ++ column :: back }).warnings =
      List.replicate ((if (front ++ back).any (·.index.isPresent) then 1 else 0) +
        change.commands.countP TableCommand.isIndex) .noIndexes := by
  have hany : (front ++ column :: back).any (·.index.isPresent) =
      (front ++ back).any (·.index.isPresent) := by
    simp [h, Request.isPresent]
  rw [client.compileTable_eq_statements schema fun _ => by simp, TableChange.warnings_eq_replicate]
  simp only [hany]

/-- Nothing is left of keys and indexes in a column of the builder of the dialect. -/
theorem erased_build (name : String) (type : ColumnType) (calls : List ColumnCall) :
    Erased name type calls (ColumnBuilder.snowflake.build name type calls) where
  column := ColumnBuilder.applyAll_snowflake_eq_standard _ calls
  primary := ColumnBuilder.primary_build name type calls
  index := ColumnBuilder.index_build name type calls
  nullable := ColumnBuilder.nullable_build name type calls
  warnings := ColumnBuilder.warnings_applyAll_snowflake _ calls
  silent client schema change front back :=
    client.warnings_compileTable_of_no_index schema change front back
      (ColumnBuilder.index_build name type calls)

end SnowflakeSql
