namespace FleetResponse.Database

inductive Operand
  | param (n : Nat)
  | literal (text : String)
deriving DecidableEq, Repr

inductive Condition
  | equals (column : String) (operand : Operand)
  | member (column : String) (param : Nat)
  | atLeast (column : String) (operand : Operand)
  | atMost (column : String) (operand : Operand)
deriving DecidableEq, Repr

inductive OnConflict
  | doNothing
  | overwrite (columns : List String)
deriving DecidableEq, Repr

inductive Statement
  | ping
  | insert (table : String) (columns : List String) (key : String) (onConflict : OnConflict)
  | select (table : String) (columns : List String) (conditions : List Condition)
      (orderBy : List String)
  | count (table : String) (counts : List (String × Condition)) (conditions : List Condition)
  | update (table : String) (assignments : List (String × Operand))
      (conditions : List Condition)
  | define (definitions : List String)
deriving DecidableEq, Repr

def commas (texts : List String) : String :=
  ", ".intercalate texts

namespace Operand

def text : Operand → String
  | param n => "$" ++ toString n
  | literal text => "'" ++ text ++ "'"

end Operand

namespace Condition

def text : Condition → String
  | equals column operand => column ++ " = " ++ operand.text
  | member column param => column ++ " = ANY($" ++ toString param ++ ")"
  | atLeast column operand => column ++ " >= " ++ operand.text
  | atMost column operand => column ++ " <= " ++ operand.text

end Condition

namespace OnConflict

def text : OnConflict → String
  | doNothing => "DO NOTHING"
  | overwrite columns =>
      "DO UPDATE SET " ++ commas (columns.map fun column => column ++ " = EXCLUDED." ++ column)

end OnConflict

namespace Statement

def whereText (conditions : List Condition) : String :=
  if conditions.isEmpty then ""
  else " WHERE " ++ " AND ".intercalate (conditions.map Condition.text)

def orderText (columns : List String) : String :=
  if columns.isEmpty then "" else " ORDER BY " ++ commas columns

def text : Statement → String
  | ping => "SELECT 1"
  | insert table columns key onConflict =>
      "INSERT INTO " ++ table ++ " (" ++ commas columns ++ ") VALUES ("
        ++ commas ((List.range columns.length).map fun i => (Operand.param (i + 1)).text)
        ++ ") ON CONFLICT (" ++ key ++ ") " ++ onConflict.text
  | select table columns conditions orderBy =>
      "SELECT " ++ commas columns ++ " FROM " ++ table ++ whereText conditions
        ++ orderText orderBy
  | count table counts conditions =>
      "SELECT " ++ commas (counts.map fun (name, condition) =>
          "COUNT(*) FILTER (WHERE " ++ condition.text ++ ") AS " ++ name)
        ++ " FROM " ++ table ++ whereText conditions
  | update table assignments conditions =>
      "UPDATE " ++ table ++ " SET " ++ commas (assignments.map fun (column, operand) =>
          column ++ " = " ++ operand.text)
        ++ whereText conditions
  | define definitions => " ".intercalate (definitions.map (· ++ ";"))

end Statement

end FleetResponse.Database
