import Firewall.Error
import Firewall.Store.Record

/-!
Getting hold of a country database: the copy in the store while it is young
enough, else a new one from the web, else the file that comes with the program.
What is used is put into the store for the next time.
-/

namespace Firewall.Geo

structure DatasetSource where
  /-- The file that comes with the program. -/
  fallbackPath : String
  /-- The address of a new one, with places for year and month. -/
  remoteUrl : String
  deriving DecidableEq, Repr

namespace DatasetSource

def yearPlace : List Char := '\x7b' :: "year".toList ++ ['\x7d']

def monthPlace : List Char := '\x7b' :: "month".toList ++ ['\x7d']

def urlAt (s : DatasetSource) (now : Instant) : String :=
  let date := now.date
  let dated := Text.replace yearPlace (Instant.yearField date.year).toList s.remoteUrl.toList
  String.ofList (Text.replace monthPlace (Instant.padded 2 date.month).toList dated)

end DatasetSource

/-- The age in days at which the copy in the store is no longer used. -/
def mostDays : Nat := 31

/-- How many days before now the file of the program is dated in the store. -/
def fallbackDays : Nat := 30

variable {σ : Type} [RecordStore σ]

def isStale (now time : Instant) : Bool := Instant.days mostDays ≤ now.since time

/-- The database in the store, if it can be read and is young enough. -/
def loadCached (now : Instant) : StateM σ (Option Database) := do
  match ← (RecordStore.datasetTime : Access σ Instant).run with
  | .error _ => return none
  | .ok time =>
    if isStale now time then return none
    else
      match ← (RecordStore.dataset : Access σ CachedDataset).run with
      | .error _ => return none
      | .ok cached => return (Database.ofBytes cached.bytes).toOption

def keep (time : Instant) (bytes : Bytes) (db : Database) :
    StateM σ (Except SetupFault Database) := do
  match ← (RecordStore.putDataset time bytes : Access σ Unit).run with
  | .ok () => return .ok db
  | .error cause => return .error (.cacheDataset cause)

/-- Uses the file that comes with the program. -/
def useFallback (disk : Disk) (source : DatasetSource) (now : Instant) :
    StateM σ (Except SetupFault Database) :=
  match disk.read source.fallbackPath with
  | .error fault => return .error (.readFallback source.fallbackPath fault)
  | .ok bytes =>
    match Database.ofBytes bytes with
    | .error fault => return .error (.badDataset fault)
    | .ok db =>
      match now.minusDays? fallbackDays with
      | none => return .error .undatable
      | some time => keep time bytes db

/-- A database and the address that was asked for a new one. -/
structure Prepared where
  database : Except SetupFault Database
  asked : Option String

def prepare (web : Web) (disk : Disk) (source : DatasetSource) (now : Instant) :
    StateM σ Prepared := do
  match ← loadCached now with
  | some db => return ⟨.ok db, none⟩
  | none =>
    let url := source.urlAt now
    match web.download url with
    | .error _ => return ⟨← useFallback disk source now, some url⟩
    | .ok bytes =>
      match Database.ofBytes bytes with
      | .ok db => return ⟨← keep now bytes db, some url⟩
      | .error _ => return ⟨← useFallback disk source now, some url⟩

end Firewall.Geo
