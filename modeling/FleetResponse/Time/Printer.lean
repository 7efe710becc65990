import FleetResponse.Text.Numeral
import FleetResponse.Time.Timestamp

namespace FleetResponse.Timestamp

namespace Printer

/-- Years of four digits stand alone; others have a sign and four digits at least. -/
def year (y : Int) : List Char :=
  if 0 ≤ y ∧ y ≤ 9999 then Text.padded 4 y.toNat
  else (if y < 0 then '-' else '+') :: Text.padded 4 y.natAbs

def date (d : Date) : List Char :=
  year d.year ++ '-' :: Text.padded 2 d.month ++ '-' :: Text.padded 2 d.day

def fraction (nano : Nat) : List Char :=
  if nano = 0 then []
  else if nano % 1000000 = 0 then '.' :: Text.padded 3 (nano / 1000000)
  else if nano % 1000 = 0 then '.' :: Text.padded 6 (nano / 1000)
  else '.' :: Text.padded 9 nano

def time (t : Timestamp) : List Char :=
  let second := t.second % 60 + t.nano / nanosPerSecond
  Text.padded 2 (t.second / 3600) ++ ':' :: Text.padded 2 (t.second / 60 % 60)
    ++ ':' :: Text.padded 2 second ++ fraction (t.nano % nanosPerSecond)

end Printer

def json (t : Timestamp) : String :=
  String.ofList (Printer.date (Date.ofDayNumber t.day) ++ 'T' :: Printer.time t ++ ['Z'])

def display (t : Timestamp) : String :=
  String.ofList (Printer.date (Date.ofDayNumber t.day) ++ ' ' :: Printer.time t
    ++ [' ', 'U', 'T', 'C'])

end FleetResponse.Timestamp
