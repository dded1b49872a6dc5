import Mathlib.Data.List.Forall2
import SnowflakeSql.Schema

/-!
# Scripts one after the other

Compiling goes through the commands of a script in order and stops at the first one without SQL,
which is always the creation of a table without columns (`SchemaCommand.LacksColumns`).  Hence
the report of a script that another one follows is made of the reports of the two
(`Concatenates`): what the first gives comes first, statements and warnings alike, and if the
first fails the second does not count.  Each command gives what it gives on its own (`Gives`).
-/

namespace SnowflakeSql

namespace Report

variable {α β : Type} {compile : β → Report (List α)} {xs : List β}

/-- After items that compile, the rest is compiled as if it stood alone. -/
theorem collect_append_of_ok {found : List α} (h : (collect compile xs).result = .ok found)
    (ys : List β) : collect compile (xs ++ ys) =
      { result := (collect compile ys).result.map (found ++ ·)
        warnings := (collect compile xs).warnings ++ (collect compile ys).warnings } := by
  induction xs generalizing found with
  | nil =>
    cases h
    cases hrest : (collect compile ys).result with
    | ok _ | error _ => simp [collect_nil, ok, Except.map, ← hrest]
  | cons x xs ih =>
    cases hx : (compile x).result with
    | error error =>
      rw [collect_cons_of_error hx] at h
      cases h
    | ok first =>
      rw [collect_cons_of_ok hx] at h
      cases hxs : (collect compile xs).result with
      | error error =>
        rw [hxs] at h
        cases h
      | ok others =>
        rw [hxs] at h
        cases h
        rw [List.cons_append, collect_cons_of_ok hx, collect_cons_of_ok hx, ih hxs]
        cases (collect compile ys).result with
        | ok _ | error _ => simp [Except.map, List.append_assoc]

/-- After an item that does not compile, nothing is compiled. -/
theorem collect_append_of_error {error : CompileError}
    (h : (collect compile xs).result = .error error) (ys : List β) :
    collect compile (xs ++ ys) = collect compile xs := by
  induction xs with
  | nil => cases h
  | cons x xs ih =>
    cases hx : (compile x).result with
    | error error' => rw [List.cons_append, collect_cons_of_error hx, collect_cons_of_error hx]
    | ok first =>
      rw [collect_cons_of_ok hx] at h
      cases hxs : (collect compile xs).result with
      | ok others =>
        rw [hxs] at h
        cases h
      | error error' =>
        obtain rfl : error' = error := by simpa [hxs, Except.map] using h
        rw [List.cons_append, collect_cons_of_ok hx, collect_cons_of_ok hx, ih hxs]

end Report

/-- The command is to create a table without columns. -/
def SchemaCommand.LacksColumns (command : SchemaCommand) : Prop :=
  ∃ change, command = .table change ∧ change.action.creates = true ∧ change.columns = []

namespace SchemaScript

variable (naming : Naming) (schema : Option String)

/-- What a command gives a script on its own, with its warnings: a table change what the change
compiles to in the schema of the script, any other command one statement and no warning. -/
inductive Gives : SchemaCommand → List Statement × List Warning → Prop
  | table {change : TableChange} {texts : List String} {warnings : List Warning} :
    change.compile naming schema = { result := .ok texts, warnings := warnings } →
      Gives (.table change) (texts.map .ofSql, warnings)
  | other {command : SchemaCommand} {statement : Statement} :
    commandStatement naming schema command = some statement → Gives command ([statement], [])

/-- The report of commands that are run in the schema. -/
def reportOf (commands : List SchemaCommand) : Report (List Statement) :=
  compile naming { schema := schema, commands := commands }

/-- How the report of commands is made, and what becomes of it when others follow. -/
structure Concatenates (xs ys : List SchemaCommand) : Prop where
  /-- What follows commands that compile is compiled as if it stood alone. -/
  continues : ∀ statements, (reportOf naming schema xs).result = .ok statements →
    reportOf naming schema (xs ++ ys) =
      { result := (reportOf naming schema ys).result.map (statements ++ ·)
        warnings :=
          (reportOf naming schema xs).warnings ++ (reportOf naming schema ys).warnings }
  /-- What follows commands that do not compile neither adds a warning nor changes the error. -/
  stops : ∀ error, (reportOf naming schema xs).result = .error error →
    reportOf naming schema (xs ++ ys) = reportOf naming schema xs
  /-- Nothing but a table without columns is an error. -/
  fails_iff : ∀ error, (reportOf naming schema xs).result = .error error ↔
    error = .emptyColumns "create table" ∧ ∃ command ∈ xs, command.LacksColumns
  /-- Commands that compile give what each of them gives, in order. -/
  gives : ∀ statements, (reportOf naming schema xs).result = .ok statements →
    ∃ parts, List.Forall₂ (Gives naming schema) xs parts ∧
      statements = parts.flatMap Prod.fst ∧
      (reportOf naming schema xs).warnings = parts.flatMap Prod.snd
  /-- Before an error there are the warnings of the commands before it, and no others. -/
  halts : ∀ error, (reportOf naming schema xs).result = .error error →
    ∃ before command after, xs = before ++ command :: after ∧ command.LacksColumns ∧
      (∃ statements, (reportOf naming schema before).result = .ok statements) ∧
      (reportOf naming schema xs).warnings = (reportOf naming schema before).warnings

variable {command : SchemaCommand}

/-! ## One command -/

theorem compileCommand_of_lacksColumns (h : command.LacksColumns) :
    compileCommand naming schema command =
      { result := .error (.emptyColumns "create table") } := by
  obtain ⟨change, rfl, hcreates, hcolumns⟩ := h
  simp [compileCommand, change.compile_of_lacksColumns naming schema hcreates hcolumns, Report.map,
    Except.map]

/-- A command that has its columns compiles to what it gives. -/
theorem exists_gives_of_not_lacksColumns (h : ¬ command.LacksColumns) :
    ∃ statements, (compileCommand naming schema command).result = .ok statements ∧
      Gives naming schema command
        (statements, (compileCommand naming schema command).warnings) := by
  cases command with
  | table change =>
    have hcompile := change.compile_eq_statements naming schema fun hcreates hcolumns =>
      h ⟨change, rfl, hcreates, hcolumns⟩
    refine ⟨(change.statements naming schema).map .ofSql, ?_, ?_⟩
    · simp [compileCommand, hcompile, Report.map, Except.map]
    · have hwarnings : (compileCommand naming schema (.table change)).warnings =
          change.warnings := by simp [compileCommand, hcompile, Report.map]
      rw [hwarnings]
      exact .table hcompile
  | _ => exact ⟨_, rfl, .other rfl⟩

/-! ## All commands -/

section Run

variable {xs : List SchemaCommand}

theorem reportOf_nil : reportOf naming schema [] = .ok [] := rfl

theorem reportOf_cons_of_lacksColumns (h : command.LacksColumns) (xs : List SchemaCommand) :
    reportOf naming schema (command :: xs) =
      { result := .error (.emptyColumns "create table") } := by
  have hcommand := compileCommand_of_lacksColumns naming schema h
  refine (Report.collect_cons_of_error (congrArg Report.result hcommand) xs).trans ?_
  rw [hcommand]

theorem fails_iff_exists_lacksColumns (error : CompileError) :
    (reportOf naming schema xs).result = .error error ↔
      error = .emptyColumns "create table" ∧ ∃ command ∈ xs, command.LacksColumns := by
  induction xs with
  | nil => simp [reportOf_nil, Report.ok]
  | cons command xs ih =>
    by_cases hlacks : command.LacksColumns
    · rw [reportOf_cons_of_lacksColumns naming schema hlacks]
      simp [hlacks, eq_comm]
    · obtain ⟨statements, hok, -⟩ := exists_gives_of_not_lacksColumns naming schema hlacks
      have hcons := Report.collect_cons_of_ok hok xs
      have hresult : (reportOf naming schema (command :: xs)).result =
          (reportOf naming schema xs).result.map (statements ++ ·) :=
        congrArg Report.result hcons
      have hsame : (reportOf naming schema (command :: xs)).result = .error error ↔
          (reportOf naming schema xs).result = .error error := by
        rw [hresult]
        cases (reportOf naming schema xs).result <;> simp [Except.map]
      rw [hsame, ih]
      simp [hlacks]

theorem exists_parts (h : ∀ command ∈ xs, ¬ command.LacksColumns) :
    ∃ parts, List.Forall₂ (Gives naming schema) xs parts ∧
      reportOf naming schema xs =
        { result := .ok (parts.flatMap Prod.fst), warnings := parts.flatMap Prod.snd } := by
  induction xs with
  | nil => exact ⟨[], .nil, rfl⟩
  | cons command xs ih =>
    obtain ⟨hcommand, hxs⟩ := List.forall_mem_cons.mp h
    obtain ⟨parts, hparts, hreport⟩ := ih hxs
    obtain ⟨statements, hok, hgives⟩ := exists_gives_of_not_lacksColumns naming schema hcommand
    refine ⟨_ :: parts, .cons hgives hparts, ?_⟩
    refine (Report.collect_cons_of_ok hok xs).trans ?_
    have hrest : Report.collect (compileCommand naming schema) xs = _ := hreport
    rw [hrest]
    rfl

/-- The first command without columns ends the script. -/
theorem exists_first_lacksColumns (h : ∃ command ∈ xs, command.LacksColumns) :
    ∃ before command after, xs = before ++ command :: after ∧ command.LacksColumns ∧
      ∀ earlier ∈ before, ¬ earlier.LacksColumns := by
  induction xs with
  | nil => simp at h
  | cons command xs ih =>
    by_cases hlacks : command.LacksColumns
    · exact ⟨[], command, xs, rfl, hlacks, by simp⟩
    · obtain ⟨before, first, after, rfl, hfirst, hbefore⟩ := ih (by simpa [hlacks] using h)
      refine ⟨command :: before, first, after, rfl, hfirst, ?_⟩
      intro earlier hearlier
      rcases List.mem_cons.mp hearlier with rfl | hmem
      · exact hlacks
      · exact hbefore earlier hmem

end Run

/-- A script is compiled command by command, and two scripts one after the other. -/
theorem concatenates (naming : Naming) (schema : Option String) (xs ys : List SchemaCommand) :
    Concatenates naming schema xs ys where
  continues _ h := Report.collect_append_of_ok h ys
  stops _ h := Report.collect_append_of_error h ys
  fails_iff := fails_iff_exists_lacksColumns naming schema
  gives statements h := by
    have hall : ∀ command ∈ xs, ¬ command.LacksColumns := by
      intro command hmem hlacks
      have herror := (fails_iff_exists_lacksColumns naming schema _).mpr
        ⟨rfl, command, hmem, hlacks⟩
      rw [h] at herror
      cases herror
    obtain ⟨parts, hparts, hreport⟩ := exists_parts naming schema hall
    rw [hreport] at h ⊢
    cases h
    exact ⟨parts, hparts, rfl, rfl⟩
  halts error h := by
    obtain ⟨-, hlacks⟩ := (fails_iff_exists_lacksColumns naming schema error).mp h
    obtain ⟨before, command, after, rfl, hcommand, hbefore⟩ := exists_first_lacksColumns hlacks
    obtain ⟨parts, -, hreport⟩ := exists_parts naming schema hbefore
    have hok : (reportOf naming schema before).result = .ok _ := congrArg Report.result hreport
    refine ⟨before, command, after, rfl, hcommand, ⟨_, hok⟩, ?_⟩
    have hwhole := Report.collect_append_of_ok hok (command :: after)
    have hrest : Report.collect (compileCommand naming schema) (command :: after) = _ :=
      reportOf_cons_of_lacksColumns naming schema hcommand after
    rw [hrest] at hwhole
    exact (congrArg Report.warnings hwhole).trans (List.append_nil _)

end SchemaScript

end SnowflakeSql
