import FleetResponse.Time.Printer

namespace FleetResponse

namespace Timestamp

theorem storagePrecision_idem (t : Timestamp) :
    t.storagePrecision.storagePrecision = t.storagePrecision := by
  simp only [storagePrecision, mk.injEq, true_and]
  omega

end Timestamp

structure Window where
  opens : Timestamp
  closes : Timestamp
  ordered : opens.le closes = true := by decide
  opens_stored : opens.storagePrecision = opens := by decide
  closes_stored : closes.storagePrecision = closes := by decide
deriving DecidableEq, Repr

structure WindowError where
  opens : Timestamp
  closes : Timestamp
deriving DecidableEq, Repr

namespace WindowError

def message (e : WindowError) : String :=
  "invalid quarantine window: " ++ e.opens.display ++ " is after " ++ e.closes.display

end WindowError

namespace Window

def between (since till : Timestamp) : Except WindowError Window :=
  if h : since.storagePrecision.le till.storagePrecision = true then
    .ok ⟨since.storagePrecision, till.storagePrecision, h,
      since.storagePrecision_idem, till.storagePrecision_idem⟩
  else .error ⟨since.storagePrecision, till.storagePrecision⟩

def contains (window : Window) (t : Timestamp) : Bool :=
  window.opens.le t && t.le window.closes

end Window

end FleetResponse
