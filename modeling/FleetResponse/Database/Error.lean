namespace FleetResponse

inductive DatabaseError
  | connect (source : String)
  | query (source : String)
  /-- A query too has failed when a column of what it found cannot be read. -/
  | unreadable (column source : String)
  | migration (source : String)
  | migrationDirectoryMissing (tried lastError : String)
  | invalidRow (column reason : String)
deriving DecidableEq, Repr

namespace DatabaseError

def message : DatabaseError → String
  | connect source => "failed to connect to database: " ++ source
  | query source | unreadable _ source => "query failed: " ++ source
  | migration source => "migration failed: " ++ source
  | migrationDirectoryMissing tried lastError =>
      "migration directory not found; tried " ++ tried ++ ". Last error: " ++ lastError
  | invalidRow column reason => "invalid " ++ column ++ " in row: " ++ reason

end DatabaseError

inductive StoreFault
  | described (text : String)
  | database (error : DatabaseError)
deriving DecidableEq, Repr

namespace StoreFault

def message : StoreFault → String
  | described text => text
  | database error => error.message

end StoreFault

end FleetResponse
