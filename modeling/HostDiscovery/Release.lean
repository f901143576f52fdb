import HostDiscovery.Calendar.Format

/-!
# Releases

A release is a version of three numbers, a hash of the contents of the package,
and a date. The hash tells apart two packages with the same version.
-/
namespace HostDiscovery

structure Release where
  major : Int
  minor : Int
  patch : Int
  hash : String
  date : CalendarTime
  deriving DecidableEq, Repr

namespace Release

def version (r : Release) : String := s!"{r.major}.{r.minor}.{r.patch}"

def numbers (r : Release) : List Int := [r.major, r.minor, r.patch]

/-- The start of the hash; a negative length leaves out that many characters at the end. -/
def hashStart (r : Release) (length : Int) : String :=
  let hash := r.hash.toList
  String.ofList <|
    if length < 0 then hash.take (hash.length - length.natAbs) else hash.take length.toNat

/-- The characters of the hash that are shown beside the version. -/
def shortLength : Int := 8

def dateText (r : Release) (format : String) : String :=
  String.ofList (r.date.format format.toList)

/-- The format of dates that are not asked for in another one. -/
def dateFormat : String := "%Y-%m-%d"

def fullVersion (r : Release) : String :=
  r.version ++ " (hash: " ++ r.hashStart shortLength ++ ", date: " ++ r.dateText dateFormat ++ ")"

def current : Release where
  major := 1
  minor := 0
  patch := 0
  hash := "5d0e8b1f7a4c92e36b87d1f0c3a95e64287bf1d09c4e6a8352f7b0d19e43c6a8"
  date := { year := 2026, month := 10, day := 17 }

end Release

end HostDiscovery
