import FleetResponse.Database.Exchange

/-!
# Result sets

How rows come over the wire. The columns of a result are described once, after its first row. The
cells of every row follow as bytes, in order and without names, so a cell is read as the type of the
column at its position, whatever it was written as.
-/

namespace FleetResponse.Database

inductive ColumnType
  | text
  | int4
  | int8
  | timestamp
deriving DecidableEq, Repr

def bigEndian (width : Nat) (n : Int) : List UInt8 :=
  (List.range width).reverse.map fun i => UInt8.ofNat (n / Nat.pow 256 i % 256).toNat

def ofBigEndian (bytes : List UInt8) : Int :=
  Int.bmod (bytes.foldl (fun n byte => 256 * n + byte.toNat) 0 : Nat) (Nat.pow 256 bytes.length)

namespace Value

def columnType : Value → ColumnType
  | int4 _ => .int4
  | int8 _ => .int8
  | timestamp _ => .timestamp
  | _ => .text

def bytes : Value → Option (List UInt8)
  | text s => some s.toUTF8.toList
  | int4 n => some (bigEndian 4 n.toInt)
  | int8 n => some (bigEndian 8 n.toInt)
  | timestamp micros => some (bigEndian 8 micros)
  | _ => none

end Value

/-- The value that bytes are for a type. Bytes that are no value of the type are as good as null:
neither can be read. -/
def ColumnType.read (type : ColumnType) (bytes : List UInt8) : Value :=
  match type with
  | text => (String.fromUTF8? ⟨bytes.toArray⟩).elim .null .text
  | int4 => if bytes.length = 4 then .int4 (Int32.ofInt (ofBigEndian bytes)) else .null
  | int8 => if bytes.length = 8 then .int8 (Int64.ofInt (ofBigEndian bytes)) else .null
  | timestamp => if bytes.length = 8 then .timestamp (ofBigEndian bytes) else .null

structure ResultSet where
  columns : List (String × ColumnType)
  cells : List (List (Option (List UInt8)))
deriving DecidableEq, Repr

namespace ResultSet

def ofRows (rows : List Row) : ResultSet :=
  let rows := rows.map fun row => row.mergeSort fun a b => a.1 ≤ b.1
  ⟨(rows.headD []).map fun (name, value) => (name, value.columnType),
   rows.map fun row => row.map fun (_, value) => value.bytes⟩

def rows (result : ResultSet) : List Row :=
  result.cells.map fun cells => List.zipWith (fun (name, type) bytes =>
    (name, bytes.elim .null type.read)) result.columns cells

end ResultSet

end FleetResponse.Database
