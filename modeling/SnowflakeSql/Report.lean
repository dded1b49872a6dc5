import SnowflakeSql.Capability

/-!
# Reports

A `Report` is what compiling gives: a result or an error, and in either case the warnings that
were given on the way, in order.  `Report.collect` compiles a list of things one after the
other and stops at the first error.
-/

namespace SnowflakeSql

/-- A result or an error, with the warnings that were given before it. -/
structure Report (α : Type) where
  result : Except CompileError α
  warnings : List Warning := []

namespace Report

variable {α β : Type}

/-- A result without warnings. -/
def ok (result : α) : Report α := { result := .ok result }

/-- The report of compiling the items in order, the results put together. -/
def collect (compile : β → Report (List α)) : List β → Report (List α)
  | [] => ok []
  | item :: items =>
    let head := compile item
    match head.result with
    | .error e => { result := .error e, warnings := head.warnings }
    | .ok found =>
      let rest := collect compile items
      { result := rest.result.map (found ++ ·), warnings := head.warnings ++ rest.warnings }

/-- The report with the result changed. -/
def map (f : α → β) (report : Report α) : Report β :=
  { result := report.result.map f, warnings := report.warnings }

theorem collect_nil (compile : β → Report (List α)) : collect compile [] = ok [] := rfl

section Collect

variable {compile : β → Report (List α)} {found : List α} {error : CompileError}

theorem collect_cons_of_error {item : β} (h : (compile item).result = .error error)
    (items : List β) : collect compile (item :: items) =
      { result := .error error, warnings := (compile item).warnings } := by
  simp only [collect, h]

theorem collect_cons_of_ok {item : β} (h : (compile item).result = .ok found) (items : List β) :
    collect compile (item :: items) =
      { result := (collect compile items).result.map (found ++ ·)
        warnings := (compile item).warnings ++ (collect compile items).warnings } := by
  simp only [collect, h]

end Collect

end Report

end SnowflakeSql
