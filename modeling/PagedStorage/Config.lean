import PagedStorage.Error

/-!
# Configuration

Four options open a store: where its data lives, how long a page is, how many frames the buffer
holds, and how far the file may grow. The checks are made in this order and the first that fails is
reported: the page is a positive number of sectors, the buffer has a frame, one page fits.
-/

namespace PagedStorage

structure Config where
  dataDirectory : String := "data"
  /-- Bytes of a page. -/
  pageSize : Nat := 4096
  /-- Frames of the buffer. -/
  bufferSize : Nat := 64
  /-- Bytes that the file may grow to. -/
  maxFileSize : Nat := 0x40000000
deriving DecidableEq

namespace Config

def validate (c : Config) : Except ConfigFlaw Unit :=
  if c.pageSize = 0 ∨ c.pageSize % sectorSize ≠ 0 then .error (.badPageSize c.pageSize)
  else if c.bufferSize = 0 then .error .emptyBuffer
  else if c.maxFileSize < c.pageSize then .error (.limitBelowPage c.maxFileSize c.pageSize)
  else .ok ()

/-- The name of the data file in its directory. -/
def dataFileName : String := "pages.db"

/-- The path of the data file: a separator goes between directory and name unless the directory is
empty or ends with one. -/
def dataFilePath (c : Config) : String :=
  if c.dataDirectory = "" ∨ c.dataDirectory.endsWith "/" then c.dataDirectory ++ dataFileName
  else c.dataDirectory ++ "/" ++ dataFileName

end Config

end PagedStorage
