import Switchboard.Text.Numeral

/-!
Limits on what is buffered, read and written. The numbers are machine words. The two bounds on what is buffered of a
head are sums of a limit and a slack, and a sum of words need not be a word: a reader that needs one that is not cannot
go on.
-/

namespace Switchboard.Http

/-- The limits that a connection works under. -/
structure Limits where
  /-- The longest request target. -/
  maxUrl : UInt64 := 8192
  /-- The largest header section, and the largest trailer section. -/
  maxHeader : UInt64 := 16384
  /-- The largest decoded body. -/
  maxBody : UInt64 := 8388608
  /-- The bytes asked of the transport at a time. -/
  readCache : UInt64 := 8192
  /-- The bytes handed to the transport at a time. -/
  writeCache : UInt64 := 8192
  deriving DecidableEq, Repr

namespace Limits

/-- The sum of two words, if it is a word. -/
def sum? (a b : UInt64) : Option Nat :=
  if a.toNat + b.toNat < Text.wordSize then some (a.toNat + b.toNat) else none

/-- What a request line may hold beside its target: the method, two spaces, the version, the line end. -/
def lineSlack : UInt64 := 32

/-- What a header section may hold beside its fields: two line ends. -/
def sectionSlack : UInt64 := 4

/-- The bytes of a request without a line end that are buffered at most. -/
def lineBound? (l : Limits) : Option Nat := sum? l.maxUrl lineSlack

/-- The bytes from the first line end on that are buffered at most without a blank line. -/
def sectionBound? (l : Limits) : Option Nat := sum? l.maxHeader sectionSlack

/-- The bytes asked of the transport at a time, at least one. -/
def readSize (l : Limits) : Nat := max l.readCache.toNat 1

/-- The bytes handed to the transport at a time, at least one. -/
def writeSize (l : Limits) : Nat := max l.writeCache.toNat 1

end Limits
end Switchboard.Http
