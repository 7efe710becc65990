import FleetResponse.Database.Exchange

namespace FleetResponse.Database

namespace Value

/-- Equality as statements have it: nothing is equal to null. -/
def equals (a b : Value) : Bool :=
  a = b && a ≠ .null

def atMost : Value → Value → Bool
  | timestamp a, timestamp b => a ≤ b
  | int4 a, int4 b => a ≤ b
  | int8 a, int8 b => a ≤ b
  | _, _ => false

end Value

namespace Row

def value (row : Row) (column : String) : Value :=
  (row.lookup column).getD .null

def overwrite (row : Row) (assigned : Row) : Row :=
  row.map fun (column, value) => (column, (assigned.lookup column).getD value)

end Row

def Operand.value (params : List Value) : Operand → Value
  | param n => params.getD (n - 1) .null
  | literal text => .text text

def Condition.holds (params : List Value) (row : Row) : Condition → Bool
  | equals column operand => (row.value column).equals (operand.value params)
  | member column n =>
      match row.value column, (Operand.param n).value params with
      | .text text, .texts texts => texts.contains text
      | _, _ => false
  | atLeast column operand => (operand.value params).atMost (row.value column)
  | atMost column operand => (row.value column).atMost (operand.value params)

def satisfies (conditions : List Condition) (params : List Value) (row : Row) : Bool :=
  conditions.all (·.holds params row)

namespace Statement

def table? : Statement → Option String
  | insert table .. | select table .. | count table .. | update table .. => some table
  | ping | define _ => none

/-- The reply to a statement, and the rows after it. Two rows are in conflict if they have the same
key. Statements that neither change nor count rows have no meaning here, and fail. -/
def execute (params : List Value) (rows : List Row) : Statement → Reply × List Row
  | insert _ columns key onConflict =>
      let row : Row := columns.zip params
      if rows.any fun other => other.value key = row.value key then
        match onConflict with
        | .doNothing => (.affected 0, rows)
        | .overwrite overwritten =>
            (.affected 1, rows.map fun other =>
              if other.value key = row.value key then
                other.overwrite (row.filter fun (column, _) => overwritten.contains column)
              else other)
      else (.affected 1, rows ++ [row])
  | count _ counts conditions =>
      let found := rows.filter (satisfies conditions params)
      (.rows [counts.map fun (name, condition) =>
        (name, .int8 (Int64.ofNat (found.countP fun row => condition.holds params row)))], rows)
  | update _ assignments conditions =>
      (.affected (rows.countP (satisfies conditions params)), rows.map fun row =>
        if satisfies conditions params row then
          row.overwrite (assignments.map fun (column, operand) => (column, operand.value params))
        else row)
  | _ => (.failed "statement has no meaning", rows)

end Statement

def Table.server (name : String) (admits : Row → Bool) : Server (List Row) where
  reply query rows :=
    let (reply, after) := query.statement.execute query.params rows
    if query.statement.table? = some name && after.all admits then (reply, after)
    else (.failed "statement does not apply", rows)

end FleetResponse.Database
