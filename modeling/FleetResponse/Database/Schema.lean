import FleetResponse.Database.Exchange

namespace FleetResponse.Database

def checkHealth : Exchange (Except DatabaseError Unit) :=
  .ask ⟨.ping, []⟩ fun reply => reply.count.map fun _ => ()

def definitions : List String :=
  ["CREATE TABLE IF NOT EXISTS devices ( id TEXT PRIMARY KEY, owner_id TEXT NOT NULL, "
      ++ "class TEXT NOT NULL, firmware TEXT NOT NULL, status TEXT NOT NULL DEFAULT 'pending' "
      ++ "CHECK (status IN ('pending', 'active', 'suspended', 'revoked')), "
      ++ "tier INTEGER NOT NULL DEFAULT 1, created_at TIMESTAMPTZ NOT NULL DEFAULT now() )",
   "CREATE INDEX IF NOT EXISTS devices_class_idx ON devices (class)",
   "CREATE TABLE IF NOT EXISTS readings ( id TEXT PRIMARY KEY, "
      ++ "device_id TEXT NOT NULL REFERENCES devices (id), value DOUBLE PRECISION NOT NULL, "
      ++ "timestamp TIMESTAMPTZ NOT NULL, status TEXT NOT NULL DEFAULT 'accepted' "
      ++ "CHECK (status IN ('accepted', 'quarantined', 'rejected')), quarantine_reason TEXT )",
   "CREATE INDEX IF NOT EXISTS readings_device_time_idx ON readings (device_id, timestamp)"]

def migrate : Exchange (Except DatabaseError Unit) :=
  .ask ⟨.define definitions, []⟩ fun reply =>
    match reply with
    | .failed source => .error (.migration source)
    | _ => .ok ()

end FleetResponse.Database
