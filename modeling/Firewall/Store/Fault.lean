/-!
What can go wrong with a record store. A record that is not there is kept apart
from a store that cannot answer, because an empty store is a good beginning.
-/

namespace Firewall

inductive AddressFault
  | malformed
  | noHost
  | encrypted
  | badDatabase
  | badUser
  | badPassword
  | noPath
  deriving DecidableEq, Repr

def AddressFault.message : AddressFault → String
  | malformed => "Redis URL did not parse- InvalidClientConfig"
  | noHost => "Missing hostname- InvalidClientConfig"
  | encrypted => "can't connect with TLS, the feature is not enabled- InvalidClientConfig"
  | badDatabase => "Invalid database number- InvalidClientConfig"
  | badUser => "Username is not valid UTF-8 string- InvalidClientConfig"
  | badPassword => "Password is not valid UTF-8 string- InvalidClientConfig"
  | noPath => "Missing path- InvalidClientConfig"

inductive StoreFault
  /-- A call that was made to fail. -/
  | injected (call : String)
  /-- A change of a table that does not exist. -/
  | unknownTable (name : String)
  /-- An address that is none of a shared store. -/
  | badAddress (fault : AddressFault)
  /-- A shared store that could not be reached. -/
  | unreachable (reason : String)
  /-- A connection that broke. -/
  | connectionLost
  /-- A command on a key that holds something else. -/
  | wrongType
  /-- A reply that is not of the kind asked for. -/
  | badReply
  deriving DecidableEq, Repr

def StoreFault.message : StoreFault → String
  | injected call => "injected " ++ call
  | unknownTable name => "unknown change table '" ++ name ++ "'"
  | badAddress fault => fault.message
  | unreachable reason => reason
  | connectionLost => "broken pipe"
  | wrongType =>
    "WRONGTYPE: Operation against a key holding the wrong kind of value"
  | badReply => "Response was of incompatible type - TypeError"

inductive Absent
  | log
  | logEntry (id : Nat)
  | setting (key : String)
  | dataset
  deriving DecidableEq, Repr

def Absent.message : Absent → String
  | log => "change log is empty"
  | logEntry id => "change log entry " ++ toString id
  | setting key => "config key '" ++ key ++ "'"
  | dataset => "geoip source"

inductive StoreError
  | fault (f : StoreFault)
  | absent (a : Absent)
  deriving DecidableEq, Repr

def StoreError.message : StoreError → String
  | fault f => "persistence error: " ++ f.message
  | absent a => "not found: " ++ a.message

end Firewall
