import FleetResponse.Time.Timestamp

/-!
# Timestamps in a database

A database keeps a timestamp as the microseconds since the year 2000. It knows no leap seconds: a
leap second counts as the second after it.
-/

namespace FleetResponse.Timestamp

def databaseEpoch : Int := (Date.mk 2000 1 1).dayNumber

def secondsPerDay : Int := 86400

def microsPerSecond : Int := 1000000

def sinceEpoch (t : Timestamp) : Int :=
  ((t.day - databaseEpoch) * secondsPerDay + t.second) * nanosPerSecond + t.nano

def micros (t : Timestamp) : Int :=
  t.sinceEpoch.tdiv 1000

def ofMicros? (micros : Int) : Option Timestamp :=
  let seconds := micros / microsPerSecond
  of? (databaseEpoch + seconds / secondsPerDay) (seconds % secondsPerDay).toNat
    (1000 * (micros % microsPerSecond).toNat)

end FleetResponse.Timestamp
