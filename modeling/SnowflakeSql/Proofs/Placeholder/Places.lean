import SnowflakeSql.Proofs.Placeholder.Rendering
import SnowflakeSql.Proofs.Query.Compiled

/-!
# The places of bound values

The texts of a query's template are sealed: whatever an identifier is made of, its spelling has
no placeholder and closes its quotes, and the dialect's own words have neither.  Hence the
placeholders of a compiled query are exactly the places of its values (`fill_compile`).
-/

namespace SnowflakeSql

namespace Placeholder

open Text

/-! ## The templates are sealed -/

/-- The operator of a comparison has neither question marks nor quotes. -/
def BareOperator : Condition → Prop
  | .compare _ operator _ => '?' ∉ operator.toList ∧ '"' ∉ operator.toList
  | .oneOf _ _ | .isNull _ _ => True

section Sealing

variable (query : Query)

theorem sealed_spell (identifier : String) : Sealed (query.spell Naming.folded identifier) :=
  sealed_wrap query.context identifier

theorem sealedTemplate_conditionTemplate {condition : Condition} (h : BareOperator condition) :
    SealedTemplate (query.conditionTemplate Naming.folded condition) := by
  cases condition with
  | compare column operator value =>
    have hoperator : Sealed operator := sealed_of_not_mem h.1 h.2
    refine (SealedTemplate.nil.value_cons).text_cons ?_
    exact (((sealed_spell query column).append (.lit (by decide))).append
      hoperator).append (.lit (by decide))
  | oneOf column values =>
    cases values with
    | nil => exact SealedTemplate.nil.text_cons (.lit (by decide))
    | cons v vs =>
      refine SealedTemplate.text_cons
        ((sealed_spell query column).append (.lit (by decide))) ?_
      refine (sealedTemplate_joinWith (.lit (by decide)) fun t ht => ?_).append
        (SealedTemplate.nil.text_cons (.lit (by decide)))
      obtain ⟨value, -, rfl⟩ := List.mem_map.1 ht
      exact SealedTemplate.nil.value_cons
  | isNull column negated =>
    have hnot : Sealed (if negated then "not " else "") := by
      cases negated <;> exact Sealed.lit (by decide)
    refine SealedTemplate.nil.text_cons ?_
    exact (((sealed_spell query column).append (.lit (by decide))).append
      hnot).append (.lit (by decide))

variable (h : ∀ condition ∈ query.conditions, BareOperator condition)

include h

theorem sealedTemplate_whereTemplate : SealedTemplate (query.whereTemplate Naming.folded) := by
  unfold Query.whereTemplate
  split_ifs
  · exact SealedTemplate.nil
  · refine SealedTemplate.text_cons (.lit (by decide)) ?_
    refine sealedTemplate_joinWith (.lit (by decide)) fun t ht => ?_
    obtain ⟨condition, hc, rfl⟩ := List.mem_map.1 ht
    exact sealedTemplate_conditionTemplate query (h condition hc)

omit h in
theorem sealed_orderText : Sealed (query.orderText Naming.folded) := by
  unfold Query.orderText
  split_ifs
  · exact sealed_empty
  · refine (Sealed.lit (by decide)).append ?_
    refine sealed_intercalate (.lit (by decide)) fun part hp => ?_
    obtain ⟨term, -, rfl⟩ := List.mem_map.1 hp
    have hway : Sealed (if term.descending then " desc" else " asc") := by
      split_ifs <;> exact Sealed.lit (by decide)
    exact (sealed_spell query term.column).append hway

omit h in
theorem sealed_windowText (limit : Option Nat) : Sealed (query.windowText limit) := by
  unfold Query.windowText
  refine Sealed.append ?_ ?_
  · cases limit with
    | none => exact sealed_empty
    | some n => exact (Sealed.lit (by decide)).append (sealed_toString n)
  · cases query.offset with
    | none => exact sealed_empty
    | some n => exact (Sealed.lit (by decide)).append (sealed_toString n)

theorem sealedTemplate_selectTemplate (limit : Option Nat) (table : String) :
    SealedTemplate (query.selectTemplate Naming.folded limit table) := by
  unfold Query.selectTemplate
  refine SealedTemplate.append (SealedTemplate.text_cons ?_
    (sealedTemplate_whereTemplate query h)) (SealedTemplate.nil.text_cons ?_)
  · exact (((Sealed.lit (by decide)).append (sealed_columnList _ _)).append
      (.lit (by decide))).append (sealed_spell query table)
  · exact (sealed_orderText query).append (sealed_windowText query limit)

omit h in
theorem sealedTemplate_insertTuple (columns : List String) (row : InsertRow) :
    SealedTemplate (Query.insertTuple columns row) := by
  unfold Query.insertTuple
  refine SealedTemplate.text_cons (.lit (by decide)) ?_
  refine (sealedTemplate_joinWith (.lit (by decide)) fun t ht => ?_).append
    (SealedTemplate.nil.text_cons (.lit (by decide)))
  obtain ⟨column, -, rfl⟩ := List.mem_map.1 ht
  unfold Query.insertSlot
  split
  · exact SealedTemplate.nil.value_cons
  · exact SealedTemplate.nil.text_cons (.lit (by decide))

omit h in
theorem sealedTemplate_insertTemplate (table : String) :
    SealedTemplate (query.insertTemplate Naming.folded table) := by
  unfold Query.insertTemplate
  dsimp only
  split_ifs
  · exact SealedTemplate.nil
  · refine SealedTemplate.text_cons ?_ ?_
    · refine ((((Sealed.lit (by decide)).append (sealed_spell query table)).append
        (.lit (by decide))).append ?_).append (.lit (by decide))
      refine sealed_intercalate (.lit (by decide)) fun part hp => ?_
      obtain ⟨column, -, rfl⟩ := List.mem_map.1 hp
      exact sealed_spell query column
    · refine sealedTemplate_joinWith (.lit (by decide)) fun t ht => ?_
      obtain ⟨row, -, rfl⟩ := List.mem_map.1 ht
      exact sealedTemplate_insertTuple query.insertColumns row

theorem sealedTemplate_updateTemplate (table : String) :
    SealedTemplate (query.updateTemplate Naming.folded table) := by
  unfold Query.updateTemplate
  refine SealedTemplate.text_cons (((Sealed.lit (by decide)).append
    (sealed_spell query table)).append (.lit (by decide))) ?_
  refine (sealedTemplate_joinWith (.lit (by decide)) fun t ht => ?_).append
    (sealedTemplate_whereTemplate query h)
  obtain ⟨assignment, -, rfl⟩ := List.mem_map.1 ht
  exact (SealedTemplate.nil.value_cons).text_cons
    ((sealed_spell query assignment.1).append (.lit (by decide)))

theorem sealedTemplate_deleteTemplate (table : String) :
    SealedTemplate (query.deleteTemplate Naming.folded table) :=
  SealedTemplate.text_cons ((Sealed.lit (by decide)).append (sealed_spell query table))
    (sealedTemplate_whereTemplate query h)

omit h in
theorem sealedTemplate_lookup_columns (table : String) :
    SealedTemplate (Catalogue.lookup "columns" table none) := by
  have hname {column : String} (hc : Sealed column) (name : String) :
      SealedTemplate (Catalogue.nameIs column name) :=
    (SealedTemplate.nil.value_cons).text_cons (hc.append (.lit (by decide)))
  unfold Catalogue.lookup
  rcases splitQualified table with ⟨schema, name⟩
  have htable : SealedTemplate (.text ("select * from information_schema." ++ "columns" ++
      " where ") :: Catalogue.nameIs "table_name" name) :=
    (hname (.lit (by decide)) name).text_cons (.lit (by decide))
  refine (htable.append .nil).append (SealedTemplate.text_cons (.lit (by decide)) ?_)
  cases schema with
  | none => exact SealedTemplate.nil.text_cons (.lit (by decide))
  | some schema => exact hname (.lit (by decide)) schema

end Sealing

theorem sealedTemplate_templateOn (query : Query)
    (h : ∀ condition ∈ query.conditions, BareOperator condition) (table : String) :
    SealedTemplate (query.templateOn Naming.folded table) := by
  unfold Query.templateOn
  cases query.method with
  | raw => exact SealedTemplate.nil
  | select | pluck => exact sealedTemplate_selectTemplate query h query.limit table
  | first => exact sealedTemplate_selectTemplate query h (some 1) table
  | insert => exact sealedTemplate_insertTemplate query table
  | update => exact sealedTemplate_updateTemplate query h table
  | delete => exact sealedTemplate_deleteTemplate query h table
  | truncate =>
    exact SealedTemplate.nil.text_cons ((Sealed.lit (by decide)).append (sealed_spell query table))
  | columnInfo => exact sealedTemplate_lookup_columns table

theorem marks_templateOn {query : Query} {table : String} (h : query.table = some table) :
    marks (query.templateOn Naming.folded table) = rendering query := by
  unfold Query.templateOn rendering
  rw [h]
  cases query.method with
  | raw => rfl
  | select | pluck => exact marks_selectTemplate query query.limit table
  | first => exact marks_selectTemplate query (some 1) table
  | insert => exact marks_insertTemplate query table
  | update => exact marks_updateTemplate query table
  | delete => exact marks_deleteTemplate query table
  | truncate => simp [marks, marksOfPiece, written_append, named]
  | columnInfo => exact marks_lookup_columns table

/-! ## Places and values -/

/-- The placeholders of a compiled query are as many as its values; with the values in their
places the text is what the query says; and the values are those of the clauses, in order. -/
theorem fill_compile {query : Query} {statement : Statement} (hmethod : query.method ≠ .raw)
    (hoperators : ∀ condition ∈ query.conditions, BareOperator condition)
    (h : query.compile Naming.folded = .ok statement) :
    (scan false statement.sql.toList).count .place = statement.binds.length ∧
      fill (scan false statement.sql.toList) statement.binds = some (rendering query) ∧
      statement.binds = boundValues query := by
  obtain ⟨-, table, htable, -, rfl⟩ := (Query.compile_eq_ok_iff hmethod).1 h
  have hfill := fill_scan_sql (sealedTemplate_templateOn query hoperators table)
  rw [marks_templateOn htable] at hfill
  refine ⟨count_place_of_fill hfill, hfill, ?_⟩
  exact (values_of_fill hfill).symm.trans (valuesOf_rendering query htable)

/-- An update whose names and values are full of question marks and quotes. -/
def oddUpdate : Query where
  method := .update
  table := some "app?.\"odd\"\"?\" as t?"
  assignments := [("a?\"b", .int 1), ("\"c??\"", .text "?\"")]
  conditions := [.oneOf "d?" [.bool true, .null], .oneOf "e" [], .compare "f.\"" ">=" (.int 7),
    .isNull "?" true]

theorem fill_compile_oddUpdate :
    ∃ statement, oddUpdate.compile Naming.folded = .ok statement ∧
      (scan false statement.sql.toList).count .place = statement.binds.length ∧
      fill (scan false statement.sql.toList) statement.binds = some (rendering oddUpdate) ∧
      statement.binds = [.int 1, .text "?\"", .bool true, .null, .int 7] := by
  have hcompile : oddUpdate.compile Naming.folded =
      .ok (oddUpdate.statementOf (oddUpdate.templateOn Naming.folded "app?.\"odd\"\"?\" as t?")) :=
    rfl
  exact ⟨_, hcompile, fill_compile (by decide) (by simp [oddUpdate, BareOperator]) hcompile⟩

end Placeholder

end SnowflakeSql
